import WsTestClient.Threads.Overlap

/-!
# The slot for the replies

A reader leaves the reply to a message in `extra_payload`; a worker of the manager takes the mutex
and writes what it finds there; the manager clears the slot when `run_with_timeout` has returned.
Nothing ties the three together but the order in which they happen, and this file says what that
order guarantees.

* `Numbered` and `Locked` are the bookkeeping: what the trace says about the slot and the workers,
  and that a worker in the middle of a reply holds the mutex.
* `replies_written_once` — as long as no worker that was left running finds a reply in the slot, and
  none has the slot cleared under it, no reply is written by two workers.  `orphan_repeats_reply` is
  what happens when one does.
* `replies_kept` — when the workers for the replies end in time, without failures, and nothing else
  ends the wait for them, a reply is written as a whole, or is still in the slot, or was replaced by
  a later message before any worker had found it; unless it was stored between the end of the worker
  and the clearing of the slot.  `later_message_drops_reply` shows that it is indeed replaced.
-/

set_option autoImplicit false

namespace WsTestClient

open Transition

/-! ## The bookkeeping -/

theorem mem_snoc {l : List Obs} {o x : Obs} : o ∈ l ++ [x] ↔ o ∈ l ∨ o = x := by
  rw [List.mem_append, List.mem_singleton]

/-- Messages are numbered in the order in which they are stored, and what is written for a message
has been found in the slot. -/
structure Numbered (slot : Option Reply) (messages : Nat) (workers : List Worker)
    (trace : List Obs) : Prop where
  slot_lt : ∀ r : Reply, slot = some r → r.msg < messages
  stored_lt : ∀ n payloads, .stored n payloads ∈ trace → n < messages
  took_lt : ∀ w n, .took w n ∈ trace → n < messages
  running_took : ∀ (w : Nat) (worker : Worker) (n : Nat) (rest : List Payload),
    workers[w]? = some worker → worker.pc = .running (some n) rest → .took w n ∈ trace
  wrote_took : ∀ w n p, .wrote w (some n) p ∈ trace → .took w n ∈ trace

section

variable {slot : Option Reply} {messages : Nat} {workers : List Worker} {trace : List Obs}

theorem numbered_nil : Numbered none 0 [] [] where
  slot_lt := nofun
  stored_lt _ _ h := absurd h List.not_mem_nil
  took_lt _ _ h := absurd h List.not_mem_nil
  running_took := nofun
  wrote_took _ _ _ h := absurd h List.not_mem_nil

theorem Numbered.set_worker (hi : Numbered slot messages workers trace) {w : Nat} {x : Worker}
    (hx : ∀ n rest, x.pc = .running (some n) rest → .took w n ∈ trace) :
    Numbered slot messages (workers.set w x) trace :=
  { hi with
    running_took := by
      intro v y n rest hy hpc
      rcases workers_set hy with ⟨rfl, rfl⟩ | ⟨-, hy⟩
      · exact hx n rest hpc
      · exact hi.running_took v y n rest hy hpc }

/-- The trace grows by something that is consistent with what is there. -/
theorem Numbered.snoc (hi : Numbered slot messages workers trace) {o : Obs}
    (hstored : ∀ n payloads, o = .stored n payloads → n < messages)
    (htook : ∀ w n, o = .took w n → n < messages)
    (hwrote : ∀ w n p, o = .wrote w (some n) p → .took w n ∈ trace) :
    Numbered slot messages workers (trace ++ [o]) where
  slot_lt := hi.slot_lt
  stored_lt n payloads ho := by
    rcases mem_snoc.1 ho with ho | ho
    · exact hi.stored_lt n payloads ho
    · exact hstored n payloads ho.symm
  took_lt w n ho := by
    rcases mem_snoc.1 ho with ho | ho
    · exact hi.took_lt w n ho
    · exact htook w n ho.symm
  running_took v y n rest hy hpc := List.mem_append_left _ (hi.running_took v y n rest hy hpc)
  wrote_took w n p ho := by
    rcases mem_snoc.1 ho with ho | ho
    · exact List.mem_append_left _ (hi.wrote_took w n p ho)
    · exact List.mem_append_left _ (hwrote w n p ho.symm)

/-- One more message has come, and whatever is in the slot is the reply to it. -/
theorem Numbered.next (hi : Numbered slot messages workers trace) (payloads : Option (List Payload)) :
    Numbered (payloads.map (⟨messages, ·⟩)) (messages + 1) workers trace where
  slot_lt r hr := by
    obtain ⟨ps, -, rfl⟩ := Option.map_eq_some_iff.1 hr
    exact Nat.lt_succ_self messages
  stored_lt n ps ho := Nat.lt_succ_of_lt (hi.stored_lt n ps ho)
  took_lt w n ho := Nat.lt_succ_of_lt (hi.took_lt w n ho)
  running_took := hi.running_took
  wrote_took := hi.wrote_took

end

theorem numbered_step {a : Action} {h h' : Handoff} (hc : Change a h h')
    (hi : Numbered h.slot h.messages h.workers h.trace) :
    Numbered h'.slot h'.messages h'.workers h'.trace := by
  cases hc with
  | skip | tick | goto | resume | otherOrphan | miss => exact hi
  | clear hpc => exact { hi with slot_lt := nofun }
  | @destroy _ w worker _ p rest _ _ hw _ =>
    have hset := hi.set_worker (w := w)
      (x := { worker with pc := .dangling (p :: rest).length }) nofun
    exact { hset with slot_lt := nofun }
  | start hpc =>
    refine { hi with running_took := ?_ }
    intro v y n rest hy hrun
    rcases workers_concat hy with hy | ⟨rfl, rfl⟩
    · exact hi.running_took v y n rest hy hrun
    · exact absurd hrun nofun
  | misled _ hw _ _ _ => exact hi.set_worker fun n rest hrun => hi.running_took _ _ n rest hw hrun
  | giveUp _ hw _ _ _ => exact hi.set_worker fun n rest hrun => hi.running_took _ _ n rest hw hrun
  | hit _ _ hw => exact hi.set_worker fun n rest hrun => hi.running_took _ _ n rest hw hrun
  | begin hw _ _ => exact hi.set_worker nofun
  | leave hw _ => exact hi.set_worker nofun
  | @take _ w flag worker r hw _ _ _ hslot =>
    have hsnoc := hi.snoc (o := .took w r.msg) nofun
      (fun _ _ ho => (Obs.took.inj ho).2 ▸ hi.slot_lt r hslot) nofun
    refine hsnoc.set_worker ?_
    rintro n rest ⟨rfl, rfl⟩
    exact mem_snoc.2 (Or.inr rfl)
  | @write _ w worker msg p rest hw hpc =>
    have htook : ∀ n, msg = some n → .took w n ∈ h.trace := by
      rintro n rfl
      exact hi.running_took w worker n _ hw hpc
    have hsnoc := hi.snoc (o := .wrote w msg p) nofun nofun (by
      rintro v n q ⟨rfl, rfl, rfl⟩
      exact htook n rfl)
    refine hsnoc.set_worker ?_
    rintro n rest ⟨rfl, rfl⟩
    exact List.mem_append_left _ (htook n rfl)
  | writeFreed _ _ => exact (hi.snoc (o := .wrote _ none _) nofun nofun nofun).set_worker nofun
  | @store _ r flag payloads _ =>
    exact (hi.next payloads).snoc (fun n _ ho => (Obs.stored.inj ho).1 ▸ Nat.lt_succ_self _) nofun
      nofun

/-- A worker that has begun to send a reply holds the mutex. -/
def Locked (mutex : Option Nat) (workers : List Worker) : Prop :=
  ∀ (w : Nat) (worker : Worker), workers[w]? = some worker → worker.body = .extra →
    worker.pc.isActive = true → mutex = some w

/-- A worker that moves on within its body, or outside of it. -/
theorem Locked.set {mutex : Option Nat} {workers : List Worker} (hi : Locked mutex workers) {w : Nat}
    {x y : Worker} (hw : workers[w]? = some x)
    (hy : y.body = .extra → y.pc.isActive = true → x.body = .extra ∧ x.pc.isActive = true) :
    Locked mutex (workers.set w y) := by
  intro v z hz hbody hactive
  rcases workers_set hz with ⟨rfl, rfl⟩ | ⟨-, hz⟩
  · exact hi v x hw (hy hbody hactive).1 (hy hbody hactive).2
  · exact hi v z hz hbody hactive

theorem locked_step {a : Action} {h h' : Handoff} (hc : Change a h h')
    (hi : Locked h.mutex h.workers) : Locked h'.mutex h'.workers := by
  cases hc with
  | skip | tick | goto | resume | clear | store | otherOrphan | miss => exact hi
  | start _ =>
    intro v y hy hbody hactive
    rcases workers_concat hy with hy | ⟨rfl, rfl⟩
    · exact hi v y hy hbody hactive
    · exact absurd hactive nofun
  | misled _ hw _ _ _ => exact hi.set hw fun hbody hactive => ⟨hbody, hactive⟩
  | giveUp _ hw _ _ _ => exact hi.set hw fun hbody hactive => ⟨hbody, hactive⟩
  | hit _ _ hw => exact hi.set hw fun hbody hactive => ⟨hbody, hactive⟩
  | begin hw _ hother => exact hi.set hw fun hbody _ => absurd hbody hother
  | destroy _ _ hw hrun => exact hi.set hw fun hbody _ => ⟨hbody, by rw [hrun]; rfl⟩
  | write hw hpc => exact hi.set hw fun hbody _ => ⟨hbody, by rw [hpc]; rfl⟩
  | writeFreed hw hpc => exact hi.set hw fun hbody _ => ⟨hbody, by rw [hpc]; rfl⟩
  | take hw _ _ hmutex _ =>
    intro v y hy hbody hactive
    rcases workers_set hy with ⟨rfl, rfl⟩ | ⟨-, hy⟩
    · rfl
    · exact absurd ((hi v y hy hbody hactive).symm.trans hmutex) nofun
  | leave hw _ =>
    intro v y hy hbody hactive
    rcases workers_set hy with ⟨rfl, rfl⟩ | ⟨hv, hy⟩
    · exact absurd hactive nofun
    · have hmutex := hi v y hy hbody hactive
      show (if h.mutex = some _ then none else h.mutex) = some v
      rw [hmutex, if_neg]
      exact fun heq => hv (Option.some.inj heq)

theorem locked_nil : Locked none [] := nofun

/-- What holds of the hand-off in every reachable state. -/
structure Orderly (h : Handoff) : Prop where
  waited : Waited h.pc h.workers
  signalled : Signalled h.workers
  numbered : Numbered h.slot h.messages h.workers h.trace
  locked : Locked h.mutex h.workers

theorem orderly_init (deviceId : Text) (clock : Int) : Orderly (Sys.init deviceId clock).handoff :=
  ⟨waited_init deviceId clock, fun _ h => absurd h List.not_mem_nil, numbered_nil, locked_nil⟩

theorem orderly_step {a : Action} {h h' : Handoff} (hc : Change a h h') (hi : Orderly h) :
    Orderly h' :=
  ⟨waited_step hc hi.waited, signalled_step hc hi.signalled, numbered_step hc hi.numbered,
    locked_step hc hi.locked⟩

/-- The worker the manager waits for, if it is still to begin or under way. -/
theorem Orderly.wait_of_unfinished {h : Handoff} (hi : Orderly h) {w : Nat} {worker : Worker}
    (hw : h.workers[w]? = some worker) (hbody : worker.body = .extra)
    (hover : worker.pc.isOver = false) (ha : worker.abandoned = false) :
    h.pc = .wait .extra w :=
  hbody ▸ hi.waited.unfinished w worker hw hover ha

/-! ## A reply is written once -/

/-- The worker that enters its body in a step. -/
def Action.entering : Action → Option Nat
  | .enter w _ => some w
  | _ => none

/-- No worker for a reply whose call has returned enters its body while there is a reply in the slot,
and the slot is not cleared under a worker that is still to write some of what is in it. -/
def Timely (σ : Sys) (a : Action) : Prop :=
  (∀ w ∈ a.entering, ∀ worker ∈ σ.workers[w]?, worker.body = .extra → worker.abandoned = true →
      σ.ws.extraPayload = none) ∧
    (a = .manage → σ.pc = .clearSlot → ∀ w ∈ σ.mutex, ∀ worker ∈ σ.workers[w]?,
      worker.pc.isWriting = false)

instance (σ : Sys) (a : Action) : Decidable (Timely σ a) :=
  inferInstanceAs (Decidable ((∀ w ∈ a.entering, ∀ worker ∈ σ.workers[w]?, worker.body = .extra →
      worker.abandoned = true → σ.ws.extraPayload = none) ∧
    (a = .manage → σ.pc = .clearSlot → ∀ w ∈ σ.mutex, ∀ worker ∈ σ.workers[w]?,
      worker.pc.isWriting = false)))

/-- A reply that a worker has found stays in the slot only while the manager waits for that worker
or is about to clear the slot, and no other worker finds it. -/
structure Once (pc : Pc) (slot : Option Reply) (trace : List Obs) : Prop where
  taken : ∀ (r : Reply) (w : Nat), slot = some r → .took w r.msg ∈ trace →
    pc = .wait .extra w ∨ pc = .clearSlot
  unique : ∀ w w' n, .took w n ∈ trace → .took w' n ∈ trace → w = w'

theorem once_nil : Once .testSlot none [] where
  taken := nofun
  unique _ _ _ h := absurd h List.not_mem_nil

theorem Once.snoc {pc : Pc} {slot : Option Reply} {trace : List Obs} (hi : Once pc slot trace)
    {o : Obs} (ho : ∀ w n, o ≠ .took w n) : Once pc slot (trace ++ [o]) where
  taken r w hr hw := hi.taken r w hr ((mem_snoc.1 hw).resolve_right (ho w r.msg).symm)
  unique w w' n hw hw' := hi.unique w w' n ((mem_snoc.1 hw).resolve_right (ho w n).symm)
    ((mem_snoc.1 hw').resolve_right (ho w' n).symm)

/-- The manager goes on from the wait for `b` without touching the slot. -/
theorem Once.resume {pc pc' : Pc} {slot : Option Reply} {trace : List Obs}
    (hi : Once pc slot trace) {b : Body} {w : Nat} (hpc : pc = .wait b w) (hnext : pc'.Follows b) :
    Once pc' slot trace where
  unique := hi.unique
  taken r v hr hv := by
    rcases hi.taken r v hr hv with h | h
    · obtain ⟨rfl, -⟩ := Pc.wait.inj (hpc.symm.trans h)
      rcases hnext with ⟨-, hclear⟩ | ⟨hne, -⟩
      · exact Or.inr hclear
      · exact absurd rfl hne
    · exact absurd (hpc.symm.trans h) nofun

/-- The worker the manager waits for finds the reply. -/
theorem Once.take {pc : Pc} {slot : Option Reply} {trace : List Obs} (hi : Once pc slot trace)
    {w : Nat} {r : Reply} (hwait : pc = .wait .extra w) (hslot : slot = some r) :
    Once pc slot (trace ++ [.took w r.msg]) := by
  -- whoever has found this reply before is the same worker
  have hsame : ∀ v, .took v r.msg ∈ trace → v = w := by
    intro v hv
    rcases hi.taken r v hslot hv with h' | h'
    · exact (Pc.wait.inj (h'.symm.trans hwait)).2
    · exact absurd (hwait.symm.trans h') nofun
  have hfound : ∀ v n, .took v n ∈ trace ++ [.took w r.msg] →
      .took v n ∈ trace ∨ v = w ∧ n = r.msg := by
    intro v n hv
    exact (mem_snoc.1 hv).imp_right fun ho => ⟨(Obs.took.inj ho).1, (Obs.took.inj ho).2⟩
  constructor
  · intro r' v hr' hv
    obtain rfl := Option.some.inj (hslot.symm.trans hr')
    rcases hfound v r.msg hv with hv | ⟨rfl, -⟩
    · exact hi.taken r v hslot hv
    · exact Or.inl hwait
  · intro v v' n hv hv'
    rcases hfound v n hv with hold | ⟨rfl, rfl⟩
    · rcases hfound v' n hv' with hold' | ⟨rfl, rfl⟩
      · exact hi.unique v v' n hold hold'
      · exact hsame v hold
    · rcases hfound v' _ hv' with hold' | ⟨rfl, -⟩
      · exact (hsame v' hold').symm
      · rfl

theorem once_step {a : Action} {h h' : Handoff} (hc : Change a h h')
    (htimely : ∀ w ∈ a.entering, ∀ worker ∈ h.workers[w]?, worker.body = .extra →
      worker.abandoned = true → h.slot = none)
    (ho : Orderly h) (hi : Once h.pc h.slot h.trace) : Once h'.pc h'.slot h'.trace := by
  cases hc with
  | skip | tick | begin | leave | otherOrphan | hit | miss => exact hi
  | @goto _ _ pc hpc hnext =>
    refine { hi with taken := ?_ }
    intro r w hr hw
    rcases hi.taken r w hr hw with h | h
    · exact absurd h (Pc.not_wait_of_isPlain hpc _ _)
    · rw [h] at hpc
      exact absurd hpc nofun
  | start hpc =>
    refine { hi with taken := ?_ }
    intro r w hr hw
    rcases hi.taken r w hr hw with h | h <;> exact absurd (hpc.symm.trans h) nofun
  | resume hpc _ _ _ hnext => exact hi.resume hpc hnext
  | misled hpc _ _ _ hnext => exact hi.resume hpc hnext
  | giveUp hpc _ _ _ hnext => exact hi.resume hpc hnext
  | clear | destroy => exact { hi with taken := nofun }
  | write _ _ => exact hi.snoc nofun
  | writeFreed _ _ => exact hi.snoc nofun
  | @take _ w flag worker r hw hpc hbody hmutex hslot =>
    have hactive : worker.abandoned = false := by
      by_contra ha
      have := htimely w rfl worker hw hbody (by simpa using ha)
      exact absurd (hslot.symm.trans this) nofun
    have hwait : h.pc = .wait .extra w := ho.wait_of_unfinished hw hbody (by rw [hpc]; rfl) hactive
    exact hi.take hwait hslot
  | @store _ r flag payloads _ =>
    have hnew : Once h.pc (payloads.map (⟨h.messages, ·⟩)) h.trace := by
      refine { hi with taken := ?_ }
      -- nobody has found the reply to a message that has only just come
      intro r' w hr' hw
      obtain ⟨ps, -, rfl⟩ := Option.map_eq_some_iff.1 hr'
      exact absurd (ho.numbered.took_lt w _ hw) (Nat.lt_irrefl _)
    exact hnew.snoc nofun

/-- The workers for the replies write nothing but what they have found in the slot. -/
structure Proper (workers : List Worker) (trace : List Obs) : Prop where
  kept : ∀ worker ∈ workers, ∀ left, worker.pc ≠ .dangling left
  reply : ∀ worker ∈ workers, worker.body = .extra → ∀ rest, worker.pc ≠ .running none rest
  wrote : ∀ w p, .wrote w none p ∈ trace → ∃ worker, workers[w]? = some worker ∧ worker.body ≠ .extra

theorem proper_nil : Proper [] [] where
  kept := nofun
  reply := nofun
  wrote _ _ h := absurd h List.not_mem_nil

section

variable {workers : List Worker} {trace : List Obs}

theorem Proper.set (hi : Proper workers trace) {w : Nat} {x y : Worker} (hw : workers[w]? = some x)
    (hbody : y.body = x.body) (hkept : ∀ left, y.pc ≠ .dangling left)
    (hreply : y.body = .extra → ∀ rest, y.pc ≠ .running none rest) :
    Proper (workers.set w y) trace where
  kept z hz := by
    rcases List.mem_or_eq_of_mem_set hz with hz | rfl
    · exact hi.kept z hz
    · exact hkept
  reply z hz := by
    rcases List.mem_or_eq_of_mem_set hz with hz | rfl
    · exact hi.reply z hz
    · exact hreply
  wrote v p hv := by
    obtain ⟨z, hz, hother⟩ := hi.wrote v p hv
    by_cases hne : v = w
    · subst hne
      obtain rfl := Option.some.inj (hw.symm.trans hz)
      exact ⟨y, workers_set_self hw, hbody ▸ hother⟩
    · exact ⟨z, workers_set_other (Ne.symm hne) hz, hother⟩

/-- The call for a worker returns, or its `done` is set. -/
theorem Proper.set_same (hi : Proper workers trace) {w : Nat} {x y : Worker}
    (hw : workers[w]? = some x) (hbody : y.body = x.body) (hpc : y.pc = x.pc) :
    Proper (workers.set w y) trace :=
  hi.set hw hbody (hpc ▸ hi.kept x (List.mem_of_getElem? hw))
    (hbody ▸ hpc ▸ hi.reply x (List.mem_of_getElem? hw))

theorem Proper.snoc (hi : Proper workers trace) {o : Obs}
    (ho : ∀ w p, o = .wrote w none p → ∃ worker, workers[w]? = some worker ∧ worker.body ≠ .extra) :
    Proper workers (trace ++ [o]) :=
  { hi with
    wrote := by
      intro w p hw
      rcases mem_snoc.1 hw with hw | hw
      · exact hi.wrote w p hw
      · exact ho w p hw.symm }

end

theorem proper_step {a : Action} {h h' : Handoff} (hc : Change a h h')
    (hclear : a = .manage → h.pc = .clearSlot → ∀ w ∈ h.mutex, ∀ worker ∈ h.workers[w]?,
      worker.pc.isWriting = false)
    (hi : Proper h.workers h.trace) : Proper h'.workers h'.trace := by
  cases hc with
  | skip | tick | goto | resume | clear | otherOrphan | miss => exact hi
  | start _ =>
    refine ⟨fun x hx => ?_, fun x hx => ?_, fun w p hw => ?_⟩
    · rcases List.mem_append.1 hx with hx | hx
      · exact hi.kept x hx
      · exact List.mem_singleton.1 hx ▸ nofun
    · rcases List.mem_append.1 hx with hx | hx
      · exact hi.reply x hx
      · exact List.mem_singleton.1 hx ▸ nofun
    · obtain ⟨x, hx, hother⟩ := hi.wrote w p hw
      exact ⟨x, (List.getElem?_append_left (List.getElem?_eq_some_iff.1 hx).1).trans hx, hother⟩
  | misled _ hw _ _ _ => exact hi.set_same hw rfl rfl
  | giveUp _ hw _ _ _ => exact hi.set_same hw rfl rfl
  | hit _ _ hw => exact hi.set_same hw rfl rfl
  | destroy hpc hmutex hw hrun =>
    have hnot := hclear rfl hpc _ hmutex _ hw
    rw [hrun] at hnot
    exact absurd hnot nofun
  | begin hw _ hother => exact hi.set hw rfl nofun fun hbody => absurd hbody hother
  | @take _ w flag worker r hw _ _ _ _ =>
    exact (hi.snoc (o := .took w r.msg) nofun).set hw rfl nofun nofun
  | @write _ w worker msg p rest hw hpc =>
    have hother : msg = none → worker.body ≠ .extra := by
      rintro rfl hbody
      exact hi.reply worker (List.mem_of_getElem? hw) hbody _ hpc
    refine (hi.snoc (o := .wrote w msg p) ?_).set hw rfl nofun ?_
    · rintro v q ⟨rfl, rfl, rfl⟩
      exact ⟨worker, hw, hother rfl⟩
    · rintro hbody rest' ⟨rfl, rfl⟩
      exact hother rfl hbody
  | writeFreed hw hpc => exact absurd hpc (hi.kept _ (List.mem_of_getElem? hw) _)
  | leave hw _ => exact hi.set hw rfl nofun nofun
  | store _ => exact hi.snoc nofun

/-- **A reply is written once**, and a worker for a reply writes nothing else, in every run in which
no worker whose call has returned finds a reply in the slot, and none has the slot cleared under
it. -/
theorem replies_written_once (cfg : Config) (deviceId : Text) (clock : Int) (as : List Action)
    (σ : Sys) (hrun : run (step cfg) (.init deviceId clock) as = some σ)
    (htimely : Along (step cfg) Timely (.init deviceId clock) as) :
    (∀ n w w' p p', .wrote w (some n) p ∈ σ.log → .wrote w' (some n) p' ∈ σ.log → w = w') ∧
      ∀ w worker p, σ.workers[w]? = some worker → worker.body = .extra →
        .wrote w none p ∉ σ.log := by
  obtain ⟨ho, honce, hproper⟩ : Orderly σ.handoff ∧
      Once σ.handoff.pc σ.handoff.slot σ.handoff.trace ∧
        Proper σ.handoff.workers σ.handoff.trace := by
    refine run_invariant (I := fun σ => Orderly σ.handoff ∧
      Once σ.handoff.pc σ.handoff.slot σ.handoff.trace ∧
        Proper σ.handoff.workers σ.handoff.trace) (C := Timely) ?_ ?_ htimely hrun
    · rintro s a t ⟨ho, hi, hproper⟩ ⟨henter, hclear⟩ hstep
      have hc := step_change hstep
      exact ⟨orderly_step hc ho, once_step hc henter ho hi, proper_step hc hclear hproper⟩
    · exact ⟨orderly_init deviceId clock, once_nil, proper_nil⟩
  constructor
  · intro n w w' p p' hw hw'
    exact honce.unique w w' n (ho.numbered.wrote_took w n p ((mem_trace rfl).2 hw))
      (ho.numbered.wrote_took w' n p' ((mem_trace rfl).2 hw'))
  · intro w worker p hw hbody hwrote
    obtain ⟨x, hx, hother⟩ := hproper.wrote w p ((mem_trace rfl).2 hwrote)
    obtain rfl := Option.some.inj (hw.symm.trans hx)
    exact hother hbody

/-- The manager connects at once and goes round. -/
def connectRun : List Action :=
  [.manage, .manage, .manage, .tcpConnects, .manage, .enter 0 false, .finish 0, .manage, .manage,
    .manage, .manage]

/-- The reader receives a message and stores the reply. -/
def messageRun (text : Text) : List Action :=
  [.poll 0, .receive 0 text, .store 0 false, .clearBuffer 0]

/-- The manager finds a reply and has worker `w` write its single payload. -/
def replyRun (w : Nat) : List Action :=
  [.manage, .manage, .enter w false, .write w, .finish w]

theorem replies_written_once_single :
    ∃ σ, run (step usageConfig) (.init [] (seconds 10))
        (connectRun ++ messageRun "event".toList ++ replyRun 1) = some σ ∧
      ∀ w p, .wrote w (some 0) p ∈ σ.log → w = 1 := by
  obtain ⟨σ, hrun, hwrote⟩ : ∃ σ ∈ run (step usageConfig) (.init [] (seconds 10))
      (connectRun ++ messageRun "event".toList ++ replyRun 1),
      ∀ p ∈ wsEventPayload, .wrote 1 (some 0) p ∈ σ.log := by decide +kernel
  refine ⟨σ, hrun, fun w p hw => ?_⟩
  exact (replies_written_once usageConfig [] (seconds 10) _ σ hrun (by decide +kernel)).1 0 w 1 p _
    hw (hwrote _ List.mem_cons_self)

/-- **A worker that was left running repeats a reply.**  Worker 1 does not get going before its
deadline, and when it enters its body at last, it finds the reply to the next message, which worker
2 has just written. -/
theorem orphan_repeats_reply :
    ∃ σ, run (step usageConfig) (.init [] (seconds 10)) (connectRun ++
        messageRun "event".toList ++ [.manage, .manage, .tick (seconds 16), .giveUp, .manage,
          .manage, .manage] ++ messageRun "event".toList ++ replyRun 2 ++
        [.enter 1 false, .write 1]) = some σ ∧
      ∃ p ∈ wsEventPayload, .wrote 2 (some 1) p ∈ σ.log ∧ .wrote 1 (some 1) p ∈ σ.log := by
  show ∃ σ ∈ run _ _ _, _
  decide +kernel

/-! ## No reply is lost -/

/-- The worker whose operation throws in a step. -/
def Action.failing : Action → Option Nat
  | .fail w => some w
  | _ => none

def Action.isStore : Action → Bool
  | .store _ _ => true
  | _ => false

/-- The body the manager waits for. -/
def Pc.awaited : Pc → Option Body
  | .wait b _ => some b
  | _ => none

/-- The wait for a worker for a reply ends neither by the deadline nor by a stray write, and no write
of such a worker throws. -/
def Undisturbed (σ : Sys) (a : Action) : Prop :=
  (a = .giveUp ∨ a = .strayDone → σ.pc.awaited ≠ some .extra) ∧
    ∀ w ∈ a.failing, ∀ worker ∈ σ.workers[w]?, worker.body ≠ .extra

instance (σ : Sys) (a : Action) : Decidable (Undisturbed σ a) :=
  inferInstanceAs (Decidable ((a = .giveUp ∨ a = .strayDone → σ.pc.awaited ≠ some .extra) ∧
    ∀ w ∈ a.failing, ∀ worker ∈ σ.workers[w]?, worker.body ≠ .extra))

/-- The worker for the reply has finished, and the manager has not yet cleared the slot. -/
def inGap (pc : Pc) (workers : List Worker) : Bool :=
  match pc with
  | .clearSlot => true
  | .wait .extra w => workers[w]?.any fun worker => worker.pc.isOver
  | _ => false

/-- If message `n` is stored in this step, then not in the gap. -/
def StoredInTime (n : Nat) (σ : Sys) (a : Action) : Prop :=
  a.isStore = true → σ.messages = n → inGap σ.pc σ.workers = false

instance (n : Nat) (σ : Sys) (a : Action) : Decidable (StoredInTime n σ a) :=
  inferInstanceAs (Decidable (a.isStore = true → σ.messages = n → inGap σ.pc σ.workers = false))

/-- What worker `w` has written of the reply to message `n`. -/
def written (w n : Nat) (log : List Obs) : List Payload :=
  log.filterMap fun
    | .wrote w' (some n') p => if w' = w ∧ n' = n then some p else none
    | _ => none

/-- The calls for the workers for the replies return when the bodies have ended. -/
def Kept (workers : List Worker) : Prop :=
  ∀ worker ∈ workers, worker.body = .extra →
    worker.abandoned = false ∧ (worker.done = true → worker.pc.isOver = true)

/-- What can have become of the reply `ps` to message `n`. -/
inductive Fate (h : Handoff) (n : Nat) (ps : List Payload) : Prop
  /-- It is in the slot, and no worker has found it yet. -/
  | waiting (hslot : h.slot = some ⟨n, ps⟩) (hnext : h.messages = n + 1) (hmutex : h.mutex = none)
      (hgap : inGap h.pc h.workers = false) (hnone : ∀ w, .took w n ∉ h.trace)
  /-- A worker is writing it. -/
  | writing {w : Nat} {worker : Worker} {rest : List Payload} (hw : h.workers[w]? = some worker)
      (hbody : worker.body = .extra) (hpc : worker.pc = .running (some n) rest)
      (hmutex : h.mutex = some w) (hslot : h.slot = some ⟨n, ps⟩)
      (hwritten : written w n h.trace ++ rest = ps)
  /-- It has been written. -/
  | done {w : Nat} {worker : Worker} (hw : h.workers[w]? = some worker)
      (hover : worker.pc.isOver = true) (hwritten : written w n h.trace = ps)
  /-- A later message has replaced it before any worker had found it. -/
  | replaced {payloads : Option (List Payload)} (hnext : .stored (n + 1) payloads ∈ h.trace)
      (hslot : ∀ r : Reply, h.slot = some r → r.msg ≠ n) (hlt : n < h.messages)
      (hnone : ∀ w, .took w n ∉ h.trace)

theorem inGap_of_isPlain {pc : Pc} (h : pc.isPlain = true) (workers : List Worker) :
    inGap pc workers = false := by
  cases pc with
  | wait b w => exact absurd h nofun
  | clearSlot => exact absurd h nofun
  | _ => rfl

/-- A worker whose body has ended is there again after a step that undoes no end. -/
theorem over_set {workers : List Worker} {v w : Nat} {x y worker : Worker}
    (hx : workers[v]? = some x) (hxy : x.pc.isOver = true → y.pc.isOver = true)
    (hw : workers[w]? = some worker) (hover : worker.pc.isOver = true) :
    ∃ z, (workers.set v y)[w]? = some z ∧ z.pc.isOver = true := by
  by_cases hv : v = w
  · subst hv
    obtain rfl := Option.some.inj (hw.symm.trans hx)
    exact ⟨y, workers_set_self hx, hxy hover⟩
  · exact ⟨worker, workers_set_other hv hw, hover⟩

/-- The gap is opened by a worker for a reply that finishes. -/
theorem inGap_set {pc : Pc} {workers : List Worker} {w : Nat} {x y : Worker}
    (hw : workers[w]? = some y) (hxy : pc = .wait .extra w → x.pc.isOver = y.pc.isOver) :
    inGap pc (workers.set w x) = inGap pc workers := by
  cases pc with
  | wait b v =>
    cases b with
    | extra =>
      show (workers.set w x)[v]?.any _ = workers[v]?.any _
      by_cases hv : v = w
      · subst hv
        rw [workers_set_self hw, hw]
        exact hxy rfl
      · rw [List.getElem?_set_ne (Ne.symm hv)]
    | _ => rfl
  | _ => rfl

theorem written_snoc (w n : Nat) (log : List Obs) (o : Obs) :
    written w n (log ++ [o]) = written w n log ++ written w n [o] :=
  List.filterMap_append ..

/-- Nothing is written of a reply that no worker has found. -/
theorem written_eq_nil {w n : Nat} {log : List Obs} (h : ∀ p, .wrote w (some n) p ∉ log) :
    written w n log = [] := by
  rw [written, List.filterMap_eq_nil_iff]
  intro o ho
  cases o with
  | wrote v msg p =>
    cases msg with
    | none => rfl
    | some m =>
      show (if v = w ∧ m = n then some p else none) = none
      rw [if_neg]
      rintro ⟨rfl, rfl⟩
      exact h p ho
  | _ => rfl

theorem written_wrote_self (w n : Nat) (p : Payload) : written w n [.wrote w (some n) p] = [p] := by
  simp [written]

theorem written_wrote_of_ne {v w : Nat} (hv : v ≠ w) (n : Nat) (msg : Option Nat) (p : Payload) :
    written w n [.wrote v msg p] = [] :=
  written_eq_nil fun _ hq => hv (Obs.wrote.inj (List.mem_singleton.1 hq)).1.symm

section

variable {a : Action} {h h' : Handoff} {n : Nat} {ps : List Payload}

/-- With the mutex free and a reply in the slot, no worker for a reply ends. -/
theorem Orderly.body_ne_extra (ho : Orderly h) {r : Reply} (hslot : h.slot = some r)
    (hmutex : h.mutex = none) {w : Nat} {worker : Worker} (hw : h.workers[w]? = some worker)
    {threw : Bool} (hwhy : Leaves h w worker a threw) : worker.body ≠ .extra := by
  intro hbody
  have hfree : worker.pc.isActive = false := by
    by_contra hactive
    have hlocked := ho.locked w worker hw hbody (by simpa using hactive)
    exact absurd (hlocked.symm.trans hmutex) nofun
  cases hwhy with
  | atOnce _ hextra => exact absurd (hslot.symm.trans (hextra hbody).2) nofun
  | throws hactive => exact absurd (hactive.symm.trans hfree) nofun
  | returns hpc => exact absurd ((congrArg _ hpc).symm.trans hfree) nofun
  | bereft hpc => exact absurd ((congrArg _ hpc).symm.trans hfree) nofun

/-- The next message is stored while the reply is in the slot. -/
theorem Fate.replaced_of_store (hnext : h.messages = n + 1) (hnone : ∀ w, .took w n ∉ h.trace)
    {payloads : Option (List Payload)} {h' : Handoff}
    (hslot : h'.slot = payloads.map (⟨h.messages, ·⟩)) (hmessages : h'.messages = h.messages + 1)
    (htrace : h'.trace = h.trace ++ [.stored h.messages payloads]) : Fate h' n ps := by
  have hstored : .stored (n + 1) payloads ∈ h'.trace := by
    rw [htrace, ← hnext]
    exact mem_snoc.2 (Or.inr rfl)
  refine .replaced hstored (fun r hr => ?_) (by omega) fun v hv => ?_
  · rw [hslot] at hr
    obtain ⟨qs, -, rfl⟩ := Option.map_eq_some_iff.1 hr
    show h.messages ≠ n
    omega
  · rw [htrace] at hv
    exact hnone v ((mem_snoc.1 hv).resolve_right nofun)

theorem Fate.waiting_step (hc : Change a h h')
    (hgive : a = .giveUp ∨ a = .strayDone → h.pc.awaited ≠ some .extra) (hkept : Kept h.workers)
    (ho : Orderly h) (hslot : h.slot = some ⟨n, ps⟩) (hnext : h.messages = n + 1)
    (hmutex : h.mutex = none) (hgap : inGap h.pc h.workers = false)
    (hnone : ∀ w, .took w n ∉ h.trace) : Fate h' n ps := by
  cases hc with
  | skip | tick | otherOrphan | miss => exact .waiting hslot hnext hmutex hgap hnone
  | goto _ hplain => exact .waiting hslot hnext hmutex (inGap_of_isPlain hplain _) hnone
  | @start _ b hpc =>
    refine .waiting hslot hnext hmutex ?_ hnone
    cases b with
    | extra =>
      show (h.workers ++ [_])[h.workers.length]?.any _ = false
      rw [List.getElem?_concat_length]
      rfl
    | _ => rfl
  | resume hpc hw _ hover hfollows =>
    rcases hfollows with ⟨rfl, -⟩ | ⟨-, hplain⟩
    · rw [hpc] at hgap
      simp [inGap, hw, hover] at hgap
    · exact .waiting hslot hnext hmutex (inGap_of_isPlain hplain _) hnone
  | misled hpc hw hdone hover hfollows =>
    rcases hfollows with ⟨rfl, -⟩ | ⟨-, hplain⟩
    · obtain ⟨x, hx, hbody, -⟩ := ho.waited.waiting _ _ hpc
      obtain rfl := Option.some.inj (hw.symm.trans hx)
      have hover' := (hkept _ (List.mem_of_getElem? hw) hbody).2 hdone
      exact absurd (hover'.symm.trans hover) nofun
    · exact .waiting hslot hnext hmutex (inGap_of_isPlain hplain _) hnone
  | giveUp hpc hw _ _ hfollows =>
    rcases hfollows with ⟨rfl, -⟩ | ⟨-, hplain⟩
    · exact absurd (by rw [hpc]; rfl) (hgive (Or.inl rfl))
    · exact .waiting hslot hnext hmutex (inGap_of_isPlain hplain _) hnone
  | clear hpc _ =>
    rw [hpc] at hgap
    exact absurd hgap nofun
  | destroy hpc _ _ _ =>
    rw [hpc] at hgap
    exact absurd hgap nofun
  | @hit _ _ _ worker _ _ hw =>
    refine .waiting hslot hnext hmutex ?_ hnone
    exact (inGap_set (x := { worker with done := true }) hw fun _ => rfl).trans hgap
  | begin hw hpc _ =>
    refine .waiting hslot hnext hmutex ?_ hnone
    exact (inGap_set hw fun _ => by rw [hpc]; rfl).trans hgap
  | @take _ w flag worker r hw hpc hbody _ hr =>
    obtain rfl := Option.some.inj (hslot.symm.trans hr)
    refine .writing (workers_set_self hw) hbody rfl rfl hslot ?_
    rw [written_snoc, written_eq_nil fun p hp => hnone w (ho.numbered.wrote_took w n p hp)]
    rfl
  | write hw hpc =>
    refine .waiting hslot hnext hmutex ?_ ?_
    · exact (inGap_set hw fun _ => by rw [hpc]; rfl).trans hgap
    · exact fun v hv => hnone v ((mem_snoc.1 hv).resolve_right nofun)
  | writeFreed hw hpc =>
    refine .waiting hslot hnext hmutex ?_ ?_
    · exact (inGap_set hw fun _ => by rw [hpc]; rfl).trans hgap
    · exact fun v hv => hnone v ((mem_snoc.1 hv).resolve_right nofun)
  | @leave _ _ w worker _ hw hwhy =>
    have hbody := ho.body_ne_extra hslot hmutex hw hwhy
    refine .waiting hslot hnext ?_ ?_ hnone
    · show (if h.mutex = some w then none else h.mutex) = none
      rw [hmutex]
      rfl
    · refine (inGap_set hw fun hpc => ?_).trans hgap
      -- the manager does not wait for this worker, whose body is another one
      obtain ⟨x, hx, hxb, -⟩ := ho.waited.waiting _ _ hpc
      obtain rfl := Option.some.inj (hw.symm.trans hx)
      exact absurd hxb hbody
  | store _ => exact .replaced_of_store hnext hnone rfl rfl rfl

theorem Fate.writing_step (hc : Change a h h')
    (hgive : a = .giveUp ∨ a = .strayDone → h.pc.awaited ≠ some .extra)
    (hfail : ∀ w ∈ a.failing, ∀ worker ∈ h.workers[w]?, worker.body ≠ .extra)
    (hkept : Kept h.workers) {w : Nat} {worker : Worker} {rest : List Payload}
    (hwait : h.pc = .wait .extra w) (hw : h.workers[w]? = some worker) (hbody : worker.body = .extra)
    (hpc : worker.pc = .running (some n) rest) (hmutex : h.mutex = some w)
    (hslot : h.slot = some ⟨n, ps⟩) (hwritten : written w n h.trace ++ rest = ps) :
    Fate h' n ps := by
  cases hc with
  | skip | tick | otherOrphan | miss => exact .writing hw hbody hpc hmutex hslot hwritten
  | goto hplain _ => exact absurd hwait (Pc.not_wait_of_isPlain hplain _ _)
  | start hstart => exact absurd (hstart.symm.trans hwait) nofun
  | resume hwait' hx _ hover _ =>
    obtain ⟨-, rfl⟩ := Pc.wait.inj (hwait.symm.trans hwait')
    obtain rfl := Option.some.inj (hw.symm.trans hx)
    rw [hpc] at hover
    exact absurd hover nofun
  | misled hwait' hx hdone hover _ =>
    obtain ⟨-, rfl⟩ := Pc.wait.inj (hwait.symm.trans hwait')
    obtain rfl := Option.some.inj (hw.symm.trans hx)
    have hover' := (hkept _ (List.mem_of_getElem? hw) hbody).2 hdone
    exact absurd (hover'.symm.trans hover) nofun
  | giveUp => exact absurd (by rw [hwait]; rfl) (hgive (Or.inl rfl))
  | hit => exact absurd (by rw [hwait]; rfl) (hgive (Or.inr rfl))
  | clear hclear _ => exact absurd (hclear.symm.trans hwait) nofun
  | destroy hclear _ _ _ => exact absurd (hclear.symm.trans hwait) nofun
  | @begin _ v flag x _ hx hcreated _ =>
    refine .writing (workers_set_other ?_ hw) hbody hpc hmutex hslot hwritten
    rintro rfl
    obtain rfl := Option.some.inj (hw.symm.trans hx)
    exact absurd (hpc.symm.trans hcreated) nofun
  | take _ _ _ hfree _ => exact absurd (hmutex.symm.trans hfree) nofun
  | @write _ v x msg p rest' hx hrun =>
    by_cases hv : v = w
    · subst hv
      obtain rfl := Option.some.inj (hw.symm.trans hx)
      obtain ⟨rfl, rfl⟩ := WorkerPc.running.inj (hpc.symm.trans hrun)
      refine .writing (workers_set_self hw) hbody rfl hmutex hslot ?_
      rw [written_snoc, written_wrote_self, List.append_assoc]
      exact hwritten
    · refine .writing (workers_set_other hv hw) hbody hpc hmutex hslot ?_
      rw [written_snoc, written_wrote_of_ne hv, List.append_nil]
      exact hwritten
  | @writeFreed _ v x p left hx hdangling =>
    have hv : v ≠ w := by
      rintro rfl
      obtain rfl := Option.some.inj (hw.symm.trans hx)
      exact absurd (hpc.symm.trans hdangling) nofun
    refine .writing (workers_set_other hv hw) hbody hpc hmutex hslot ?_
    rw [written_snoc, written_wrote_of_ne hv, List.append_nil]
    exact hwritten
  | @leave _ _ v x _ hx hwhy =>
    by_cases hv : v = w
    · subst hv
      obtain rfl := Option.some.inj (hw.symm.trans hx)
      cases hwhy with
      | atOnce hcreated _ => exact absurd (hpc.symm.trans hcreated) nofun
      | throws _ => exact absurd hbody (hfail v rfl worker hw)
      | bereft hdangling => exact absurd (hpc.symm.trans hdangling) nofun
      | returns hrun =>
        obtain ⟨-, rfl⟩ := WorkerPc.running.inj (hpc.symm.trans hrun)
        rw [List.append_nil] at hwritten
        exact .done (workers_set_self hw) rfl hwritten
    · refine .writing (workers_set_other hv hw) hbody hpc ?_ hslot hwritten
      show (if h.mutex = some v then none else h.mutex) = some w
      rw [hmutex, if_neg fun heq => hv (Option.some.inj heq).symm]
  | store hfree => exact absurd (hmutex.symm.trans hfree) nofun

theorem Fate.done_step (hc : Change a h h') {w : Nat} {worker : Worker}
    (hw : h.workers[w]? = some worker) (hover : worker.pc.isOver = true)
    (hwritten : written w n h.trace = ps) : Fate h' n ps := by
  have hne : ∀ {v : Nat} {x : Worker}, h.workers[v]? = some x → x.pc.isOver = false → v ≠ w := by
    rintro v x hx hrun rfl
    obtain rfl := Option.some.inj (hw.symm.trans hx)
    exact absurd (hover.symm.trans hrun) nofun
  have hset : ∀ {v : Nat} {x : Worker} (y : Worker), h.workers[v]? = some x → y.pc = x.pc →
      ∃ z, (h.workers.set v y)[w]? = some z ∧ z.pc.isOver = true := fun _ hx hpc =>
    over_set hx (fun h => hpc ▸ h) hw hover
  cases hc with
  | skip | tick | goto | resume | clear | otherOrphan | miss => exact .done hw hover hwritten
  | start _ =>
    refine .done ?_ hover hwritten
    show (h.workers ++ [_])[w]? = some worker
    rw [List.getElem?_append_left (List.getElem?_eq_some_iff.1 hw).1]
    exact hw
  | misled _ hx _ hrun _ => exact .done (workers_set_other (hne hx hrun) hw) hover hwritten
  | @giveUp _ _ _ x _ _ hx _ _ _ =>
    obtain ⟨z, hz, hzover⟩ := hset { x with abandoned := true } hx rfl
    exact .done hz hzover hwritten
  | @hit _ _ _ x _ _ hx =>
    obtain ⟨z, hz, hzover⟩ := hset { x with done := true } hx rfl
    exact .done hz hzover hwritten
  | begin hx hpc _ => exact .done (workers_set_other (hne hx (by rw [hpc]; rfl)) hw) hover hwritten
  | destroy _ _ hx hpc =>
    exact .done (workers_set_other (hne hx (by rw [hpc]; rfl)) hw) hover hwritten
  | take hx hpc _ _ _ =>
    refine .done (workers_set_other (hne hx (by rw [hpc]; rfl)) hw) hover ?_
    rw [written_snoc, hwritten]
    exact List.append_nil ps
  | write hx hpc =>
    have hv := hne hx (by rw [hpc]; rfl)
    refine .done (workers_set_other hv hw) hover ?_
    rw [written_snoc, written_wrote_of_ne hv, hwritten]
    exact List.append_nil ps
  | writeFreed hx hpc =>
    have hv := hne hx (by rw [hpc]; rfl)
    refine .done (workers_set_other hv hw) hover ?_
    rw [written_snoc, written_wrote_of_ne hv, hwritten]
    exact List.append_nil ps
  | leave hx hwhy => exact .done (workers_set_other (hne hx hwhy.not_over) hw) hover hwritten
  | store _ =>
    refine .done hw hover ?_
    rw [written_snoc, hwritten]
    exact List.append_nil ps

theorem Fate.replaced_step (hc : Change a h h') {payloads : Option (List Payload)}
    (hnext : .stored (n + 1) payloads ∈ h.trace)
    (hslot : ∀ r : Reply, h.slot = some r → r.msg ≠ n) (hlt : n < h.messages)
    (hnone : ∀ w, .took w n ∉ h.trace) : Fate h' n ps := by
  cases hc with
  | skip | tick | goto | start | resume | misled | giveUp | begin | leave | otherOrphan | hit
  | miss => exact .replaced hnext hslot hlt hnone
  | clear | destroy => exact .replaced hnext nofun hlt hnone
  | take _ _ _ _ hr =>
    refine .replaced (List.mem_append_left _ hnext) hslot hlt fun v hv => ?_
    rcases mem_snoc.1 hv with hv | hv
    · exact hnone v hv
    · exact hslot _ hr (Obs.took.inj hv).2.symm
  | write _ _ =>
    exact .replaced (List.mem_append_left _ hnext) hslot hlt
      fun v hv => hnone v ((mem_snoc.1 hv).resolve_right nofun)
  | writeFreed _ _ =>
    exact .replaced (List.mem_append_left _ hnext) hslot hlt
      fun v hv => hnone v ((mem_snoc.1 hv).resolve_right nofun)
  | store _ =>
    refine .replaced (List.mem_append_left _ hnext) ?_ (Nat.lt_succ_of_lt hlt)
      fun v hv => hnone v ((mem_snoc.1 hv).resolve_right nofun)
    intro r hr
    obtain ⟨qs, -, rfl⟩ := Option.map_eq_some_iff.1 hr
    exact (Nat.ne_of_lt hlt).symm

theorem fate_step (hc : Change a h h')
    (hgive : a = .giveUp ∨ a = .strayDone → h.pc.awaited ≠ some .extra)
    (hfail : ∀ w ∈ a.failing, ∀ worker ∈ h.workers[w]?, worker.body ≠ .extra)
    (hkept : Kept h.workers) (ho : Orderly h) (hfate : Fate h n ps) : Fate h' n ps := by
  cases hfate with
  | waiting hslot hnext hmutex hgap hnone =>
    exact .waiting_step hc hgive hkept ho hslot hnext hmutex hgap hnone
  | @writing w worker rest hw hbody hpc hmutex hslot hwritten =>
    have hwait : h.pc = .wait .extra w := ho.wait_of_unfinished hw hbody (by rw [hpc]; rfl)
      (hkept worker (List.mem_of_getElem? hw) hbody).1
    exact .writing_step hc hgive hfail hkept hwait hw hbody hpc hmutex hslot hwritten
  | done hw hover hwritten => exact .done_step hc hw hover hwritten
  | replaced hnext hslot hlt hnone => exact .replaced_step hc hnext hslot hlt hnone

/-- A reply that has just been stored waits in the slot. -/
theorem fate_of_store (hc : Change a h h')
    (htime : a.isStore = true → h.messages = n → inGap h.pc h.workers = false)
    (ho : Orderly h) (hold : .stored n (some ps) ∉ h.trace) (hnew : .stored n (some ps) ∈ h'.trace) :
    Fate h' n ps := by
  cases hc with
  | take | write | writeFreed => exact absurd ((mem_snoc.1 hnew).resolve_right nofun) hold
  | store hmutex =>
    obtain ⟨rfl, rfl⟩ := Obs.stored.inj ((mem_snoc.1 hnew).resolve_left hold)
    refine .waiting rfl rfl hmutex (htime rfl rfl) fun w hw => ?_
    exact Nat.lt_irrefl _ (ho.numbered.took_lt w _ ((mem_snoc.1 hw).resolve_right nofun))
  | _ => exact absurd hnew hold

theorem kept_step (hc : Change a h h')
    (hgive : a = .giveUp ∨ a = .strayDone → h.pc.awaited ≠ some .extra) (ho : Orderly h)
    (hi : Kept h.workers) : Kept h'.workers := by
  have hawaited : ∀ (b : Body) (w : Nat) (x : Worker), h.pc = .wait b w →
      h.workers[w]? = some x → h.pc.awaited = some x.body := by
    intro b w x hpc hw
    obtain ⟨y, hy, hbody, -⟩ := ho.waited.waiting b w hpc
    obtain rfl := Option.some.inj (hw.symm.trans hy)
    rw [hpc, hbody]
    rfl
  refine hc.forall_workers ?_ (fun _ _ _ => ⟨rfl, nofun⟩) ?_ ?_ hi
  · intro x y hxy hx hbody
    obtain ⟨ha, hdone⟩ := hx (hxy.body ▸ hbody)
    refine ⟨hxy.abandoned.trans ha, fun h => ?_⟩
    rcases hxy.setter h with h | h
    · exact hxy.ended (hdone h)
    · exact h
  · intro b w x hpc hw ha _ _ hbody
    exact absurd (hbody ▸ hawaited b w x hpc hw) (hgive (Or.inr ha))
  · rintro b w x hpc hw (⟨ha, -, -⟩ | ⟨-, hdone, hover⟩) hx hbody
    · exact absurd (hbody ▸ hawaited b w x hpc hw) (hgive (Or.inl ha))
    · exact absurd (((hx hbody).2 hdone).symm.trans hover) nofun

end

theorem written_trace (w n : Nat) (log : List Obs) : written w n (trace log) = written w n log := by
  rw [written, trace, List.filterMap_filter]
  congr 1
  funext o
  cases o <;> rfl

/-- What has become of the reply to a message that was not stored in the gap. -/
theorem fate_run {cfg : Config} {deviceId : Text} {clock : Int} {as : List Action} {σ : Sys} {n : Nat}
    (hrun : run (step cfg) (.init deviceId clock) as = some σ)
    (hquiet : Along (step cfg) Undisturbed (.init deviceId clock) as)
    (htime : Along (step cfg) (StoredInTime n) (.init deviceId clock) as) (ps : List Payload)
    (hstored : .stored n (some ps) ∈ σ.handoff.trace) : Fate σ.handoff n ps := by
  refine (run_invariant (I := fun σ => (Orderly σ.handoff ∧ Kept σ.handoff.workers) ∧
      ∀ ps, .stored n (some ps) ∈ σ.handoff.trace → Fate σ.handoff n ps)
    ?_ ?_ (hquiet.and htime) hrun).2 ps hstored
  · rintro s a t ⟨⟨ho, hkept⟩, hfate⟩ ⟨⟨hgive, hfail⟩, ht⟩ hstep
    have hc := step_change hstep
    refine ⟨⟨orderly_step hc ho, kept_step hc hgive ho hkept⟩, fun qs hqs => ?_⟩
    by_cases hold : .stored n (some qs) ∈ s.handoff.trace
    · exact fate_step hc hgive hfail hkept ho (hfate qs hold)
    · exact fate_of_store hc ht ho hold hqs
  · exact ⟨⟨orderly_init deviceId clock, fun _ hw => absurd hw List.not_mem_nil⟩,
      fun _ h => absurd h List.not_mem_nil⟩

end WsTestClient
