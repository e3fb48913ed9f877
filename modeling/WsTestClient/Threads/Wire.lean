import WsTestClient.Threads.Mutex
import WsTestClient.Threads.Progress

/-!
# What goes over the wire

A worker writes the payloads of one list, in order, and the lists come from `ws_get_payload`.  This
file follows each worker from its start to its end, through any interleaving.

* `Assigned` says which list a worker has been given: the one for its fixed request, or the reply
  to a message that a reader has stored.
* `Bereft` is about a worker whose list the manager has destroyed: it goes on to write as many
  payloads as were left, whatever they are.
* `Wire` is the invariant: what a worker has written and what it has yet to write make up its list
  (`wired_step`).
* `worker_writes` — a body that returns has written its list, a body that throws the beginning of
  one, and but for destroyed lists everything on the wire is one of the program's payloads.

A reader, and a body whose call has returned, may find anything in place of `send_bad_payloads`
(`Action.found`).  The results of this file hold for any bound `found` on what they find: with
`found := true` they are about all runs, and with `found := false` about those in which nobody is
made to send bad payloads by accident.
-/

set_option autoImplicit false

namespace WsTestClient

open Transition

/-! ## The lists -/

/-- The lists `ws_get_payload` can return. -/
def knownPayloads (includeBadPayloads : Bool) : List (List Payload) :=
  [wsGetProbesPayload, wsEventPayload, [wsPayload]] ++
    if includeBadPayloads then [[wsBadPayload]] else []

theorem wsGetPayload_known {counter : UInt64} {request : Text} {bad : Bool} {ps : List Payload}
    (h : (wsGetPayload counter request bad).1 = some ps) : ps ∈ knownPayloads bad := by
  rw [wsGetPayload] at h
  split at h
  · split at h
    · rename_i hbad
      obtain rfl := Option.some.inj h
      simp [knownPayloads, (Bool.and_eq_true_iff.1 hbad).2]
    · obtain rfl := Option.some.inj h
      simp [knownPayloads]
  · split at h
    · obtain rfl := Option.some.inj h
      simp [knownPayloads]
    · split at h
      · obtain rfl := Option.some.inj h
        simp [knownPayloads]
      · simp at h

/-- What the step finds in place of a `send_bad_payloads` that is no more. -/
def Action.found : Action → Bool
  | .enter _ flag => flag
  | .store _ flag => flag
  | _ => false

/-- The lists for the bodies that make a fixed request; a handshake writes nothing. -/
def Fixed (cfg : Config) (found : Bool) (b : Body) (abandoned : Bool) (ps : List Payload) : Prop :=
  match b with
  | .handshake => ps = []
  | .extra => False
  | .event => ps = wsEventPayload
  | .main =>
    ps = [wsPayload] ∨ (cfg.sendBadPayloads || abandoned && found) = true ∧ ps = [wsBadPayload]

/-- The list a worker with the body `b` has been given, and the message it answers. -/
inductive Assigned (cfg : Config) (found : Bool) (trace : List Obs) :
    Body → Bool → Option Nat → List Payload → Prop
  | fixed {b : Body} {abandoned : Bool} {ps : List Payload} (h : Fixed cfg found b abandoned ps) :
      Assigned cfg found trace b abandoned none ps
  | reply {abandoned : Bool} {n : Nat} {ps : List Payload} (h : .stored n (some ps) ∈ trace) :
      Assigned cfg found trace .extra abandoned (some n) ps

/-- What worker `w` has written, and the message each payload answers. -/
def writes (w : Nat) (log : List Obs) : List (Option Nat × Payload) :=
  log.filterMap fun
    | .wrote w' msg p => if w' = w then some (msg, p) else none
    | _ => none

theorem writes_snoc (w : Nat) (log : List Obs) (o : Obs) :
    writes w (log ++ [o]) = writes w log ++ writes w [o] :=
  List.filterMap_append ..

theorem writes_snoc_of_ne {w : Nat} (log : List Obs) {o : Obs} (h : ∀ msg p, o ≠ .wrote w msg p) :
    writes w (log ++ [o]) = writes w log := by
  have hnone : writes w [o] = [] := by
    cases o with
    | wrote v msg p =>
      have hne : v ≠ w := fun hv => h msg p (hv ▸ rfl)
      simp [writes, hne]
    | _ => simp [writes]
  rw [writes_snoc, hnone, List.append_nil]

theorem writes_trace (w : Nat) (log : List Obs) : writes w (trace log) = writes w log := by
  rw [writes, trace, List.filterMap_filter]
  congr 1
  funext o
  cases o <;> simp [Obs.isManager]

/-! ## The invariant -/

/-- The reply that worker `w` was writing has been destroyed.  It has written a beginning of it, and
then others in the place of the rest, of which `left` are still to come. -/
inductive Bereft (trace : List Obs) (w left : Nat) : Prop
  | intro {n : Nat} {sent rest freed : List Payload} (hlist : .stored n (some (sent ++ rest)) ∈ trace)
      (hwrites : writes w trace = sent.map (some n, ·) ++ freed.map (none, ·))
      (hleft : freed.length + left = rest.length) : Bereft trace w left

/-- Worker `w`, at the control point of its body, has written what it has of its list. -/
inductive Wire (cfg : Config) (found : Bool) (trace : List Obs) (w : Nat) (b : Body)
    (abandoned : Bool) : WorkerPc → Prop
  | created (hwrites : writes w trace = []) : Wire cfg found trace w b abandoned .created
  | running {msg : Option Nat} {sent rest : List Payload}
      (hlist : Assigned cfg found trace b abandoned msg (sent ++ rest))
      (hwrites : writes w trace = sent.map (msg, ·)) :
      Wire cfg found trace w b abandoned (.running msg rest)
  /-- The manager has given up on the worker, or was misled, and has destroyed the reply. -/
  | dangling {left : Nat} (hbody : b = .extra) (ha : abandoned = true) (h : Bereft trace w left) :
      Wire cfg found trace w b abandoned (.dangling left)
  | returned {msg : Option Nat} {ps : List Payload}
      (hlist : Assigned cfg found trace b abandoned msg ps)
      (hwrites : writes w trace = ps.map (msg, ·)) :
      Wire cfg found trace w b abandoned (.finished false)
  /-- The body throws with `rest` still to be written. -/
  | threw {msg : Option Nat} {sent rest : List Payload}
      (hlist : Assigned cfg found trace b abandoned msg (sent ++ rest))
      (hwrites : writes w trace = sent.map (msg, ·)) :
      Wire cfg found trace w b abandoned (.finished true)
  /-- The body finds no reply in the slot, and throws. -/
  | missed (hbody : b = .extra) (hwrites : writes w trace = []) :
      Wire cfg found trace w b abandoned (.finished true)
  /-- The body ends after its reply has been destroyed. -/
  | bereft {threw : Bool} {left : Nat} (hbody : b = .extra) (ha : abandoned = true)
      (h : Bereft trace w left) (hleft : threw = false → left = 0) :
      Wire cfg found trace w b abandoned (.finished threw)

section

variable {cfg : Config} {found : Bool} {trace trace' : List Obs} {b : Body} {abandoned : Bool}

theorem Fixed.abandon {ps : List Payload} (h : Fixed cfg found b abandoned ps) :
    Fixed cfg found b true ps := by
  cases b with
  | main =>
    refine Or.imp_right (And.imp_left fun hbad => ?_) h
    rcases Bool.or_eq_true_iff.1 hbad with hbad | hbad
    · simp [hbad]
    · simp [(Bool.and_eq_true_iff.1 hbad).2]
  | _ => exact h

theorem Assigned.abandon {msg : Option Nat} {ps : List Payload}
    (h : Assigned cfg found trace b abandoned msg ps) : Assigned cfg found trace b true msg ps := by
  cases h with
  | fixed h => exact .fixed h.abandon
  | reply h => exact .reply h

theorem Assigned.mono {msg : Option Nat} {ps : List Payload}
    (h : Assigned cfg found trace b abandoned msg ps) (hsub : trace ⊆ trace') :
    Assigned cfg found trace' b abandoned msg ps := by
  cases h with
  | fixed h => exact .fixed h
  | reply h => exact .reply (hsub h)

variable {w : Nat} {pc : WorkerPc}

/-- The call for the worker returns. -/
theorem Wire.abandon (h : Wire cfg found trace w b abandoned pc) :
    Wire cfg found trace w b true pc := by
  cases h with
  | created hwrites => exact .created hwrites
  | running hlist hwrites => exact .running hlist.abandon hwrites
  | dangling hbody _ h => exact .dangling hbody rfl h
  | returned hlist hwrites => exact .returned hlist.abandon hwrites
  | threw hlist hwrites => exact .threw hlist.abandon hwrites
  | missed hbody hwrites => exact .missed hbody hwrites
  | bereft hbody _ h hleft => exact .bereft hbody rfl h hleft

theorem Bereft.mono {left : Nat} (h : Bereft trace w left) (hsub : trace ⊆ trace')
    (hsame : writes w trace' = writes w trace) : Bereft trace' w left := by
  cases h with
  | intro hlist hwrites hleft => exact .intro (hsub hlist) (hsame.trans hwrites) hleft

/-- The trace grows by something that is not about this worker. -/
theorem Wire.mono (h : Wire cfg found trace w b abandoned pc) (hsub : trace ⊆ trace')
    (hsame : writes w trace' = writes w trace) : Wire cfg found trace' w b abandoned pc := by
  cases h with
  | created hwrites => exact .created (hsame.trans hwrites)
  | running hlist hwrites => exact .running (hlist.mono hsub) (hsame.trans hwrites)
  | dangling hbody ha h => exact .dangling hbody ha (h.mono hsub hsame)
  | returned hlist hwrites => exact .returned (hlist.mono hsub) (hsame.trans hwrites)
  | threw hlist hwrites => exact .threw (hlist.mono hsub) (hsame.trans hwrites)
  | missed hbody hwrites => exact .missed hbody (hsame.trans hwrites)
  | bereft hbody ha h hleft => exact .bereft hbody ha (h.mono hsub hsame) hleft

/-- A worker that has written nothing begins with its list. -/
theorem Wire.begin {msg : Option Nat} {ps : List Payload}
    (h : Wire cfg found trace w b abandoned .created)
    (hlist : Assigned cfg found trace b abandoned msg ps) :
    Wire cfg found trace w b abandoned (.running msg ps) := by
  cases h with
  | created hwrites =>
    have hlist' : Assigned cfg found trace b abandoned msg ([] ++ ps) := hlist
    exact .running hlist' hwrites

/-- The next payload of the list is written. -/
theorem Wire.write {msg : Option Nat} {p : Payload} {rest : List Payload}
    (h : Wire cfg found trace w b abandoned (.running msg (p :: rest))) :
    Wire cfg found (trace ++ [.wrote w msg p]) w b abandoned (.running msg rest) := by
  cases h with
  | @running _ sent _ hlist hwrites =>
    have hlist' : Assigned cfg found (trace ++ [.wrote w msg p]) b abandoned msg
        ((sent ++ [p]) ++ rest) := by
      rw [List.append_assoc]
      exact hlist.mono (List.subset_append_left _ _)
    have hwrites' : writes w (trace ++ [.wrote w msg p]) = (sent ++ [p]).map (msg, ·) := by
      rw [writes_snoc, hwrites, List.map_append]
      simp [writes]
    exact .running hlist' hwrites'

/-- A reply is destroyed under the worker that is writing it. -/
theorem Wire.destroy {msg : Option Nat} {rest : List Payload}
    (h : Wire cfg found trace w .extra true (.running msg rest)) :
    Wire cfg found trace w .extra true (.dangling rest.length) := by
  cases h with
  | running hlist hwrites =>
    cases hlist with
    | fixed hfixed => exact hfixed.elim
    | reply hstored =>
      rename_i sent n
      have hnone : writes w trace = sent.map (some n, ·) ++ ([] : List Payload).map (none, ·) := by
        rw [hwrites, List.map_nil, List.append_nil]
      exact .dangling rfl rfl (.intro hstored hnone (Nat.zero_add _))

/-- A worker writes something in the place of a payload of its reply. -/
theorem Wire.writeFreed {left : Nat} {p : Payload}
    (h : Wire cfg found trace w b abandoned (.dangling (left + 1))) :
    Wire cfg found (trace ++ [.wrote w none p]) w b abandoned (.dangling left) := by
  cases h with
  | dangling hbody ha h =>
    cases h with
    | @intro n sent rest freed hlist hwrites hleft =>
      have hwrites' : writes w (trace ++ [.wrote w none p]) =
          sent.map (some n, ·) ++ (freed ++ [p]).map (none, ·) := by
        rw [writes_snoc, hwrites, List.map_append, List.append_assoc]
        simp [writes]
      have hleft' : (freed ++ [p]).length + left = rest.length := by
        rw [List.length_append, List.length_singleton]
        omega
      exact .dangling hbody ha (.intro (List.mem_append_left _ hlist) hwrites' hleft')

/-- A body throws. -/
theorem Wire.throws (h : Wire cfg found trace w b abandoned pc) (hpc : pc.isActive = true) :
    Wire cfg found trace w b abandoned (.finished true) := by
  cases h with
  | created _ | returned _ _ | threw _ _ | missed _ _ | bereft _ _ _ _ => exact absurd hpc nofun
  | running hlist hwrites => exact .threw hlist hwrites
  | dangling hbody ha h => exact .bereft hbody ha h nofun

/-- All is written, and the body returns. -/
theorem Wire.returns {msg : Option Nat} (h : Wire cfg found trace w b abandoned (.running msg [])) :
    Wire cfg found trace w b abandoned (.finished false) := by
  cases h with
  | running hlist hwrites =>
    rw [List.append_nil] at hlist
    exact .returned hlist hwrites

theorem Wire.ends (h : Wire cfg found trace w b abandoned (.dangling 0)) :
    Wire cfg found trace w b abandoned (.finished false) := by
  cases h with
  | dangling hbody ha h => exact .bereft hbody ha h fun _ => rfl

end

/-- What `Change` leaves open: the lists that `ws_get_payload` returns. -/
structure Looked (cfg : Config) (found : Bool) (a : Action) (h' : Handoff) : Prop where
  begun : ∀ w flag worker rest, a = .enter w flag → h'.workers[w]? = some worker →
    worker.pc = .running none rest → Fixed cfg found worker.body worker.abandoned rest
  ended : ∀ w flag worker threw, a = .enter w flag → h'.workers[w]? = some worker →
    worker.pc = .finished threw → worker.body = .extra ∧ threw = true
  stored : ∀ r flag reply, a = .store r flag → h'.slot = some reply →
    reply.payloads ∈ knownPayloads found

structure Wired (cfg : Config) (found : Bool) (h : Handoff) : Prop where
  workers : ∀ w worker, h.workers[w]? = some worker →
    Wire cfg found h.trace w worker.body worker.abandoned worker.pc
  fresh : ∀ w, h.workers.length ≤ w → writes w h.trace = []
  slot : ∀ r : Reply, h.slot = some r → .stored r.msg (some r.payloads) ∈ h.trace
  known : ∀ n ps, .stored n (some ps) ∈ h.trace → ps ∈ knownPayloads found

section

variable {cfg : Config} {found : Bool} {h : Handoff}

/-- Worker `w` moves on to `worker` without a trace. -/
theorem Wired.set_worker (hi : Wired cfg found h) {h' : Handoff} {w : Nat} (worker : Worker)
    (hw : Wire cfg found h.trace w worker.body worker.abandoned worker.pc)
    (hworkers : h'.workers = h.workers.set w worker) (htrace : h'.trace = h.trace)
    (hslot : h'.slot = h.slot) : Wired cfg found h' where
  workers v x hx := by
    rw [hworkers] at hx
    rw [htrace]
    rcases workers_set hx with ⟨rfl, rfl⟩ | ⟨-, hx⟩
    · exact hw
    · exact hi.workers v x hx
  fresh v hv := by
    rw [htrace]
    exact hi.fresh v (by simpa [hworkers] using hv)
  slot r hr := htrace ▸ hi.slot r (hslot ▸ hr)
  known n ps hn := hi.known n ps (htrace ▸ hn)

/-- Something is logged that is neither stored nor written. -/
theorem Wired.snoc (hi : Wired cfg found h) {o : Obs} (hwrote : ∀ w msg p, o ≠ .wrote w msg p)
    (hstored : ∀ n ps, o ≠ .stored n ps) : Wired cfg found { h with trace := h.trace ++ [o] } where
  workers v x hx := (hi.workers v x hx).mono (List.subset_append_left _ _)
    (writes_snoc_of_ne _ fun msg p => hwrote v msg p)
  fresh v hv := (writes_snoc_of_ne _ fun msg p => hwrote v msg p).trans (hi.fresh v hv)
  slot r hr := List.mem_append_left _ (hi.slot r hr)
  known n ps hn := hi.known n ps ((mem_snoc.1 hn).resolve_right fun heq => hstored n _ heq.symm)

/-- Worker `w` writes, which takes it to `pc`. -/
theorem Wired.write (hi : Wired cfg found h) {w : Nat} {worker : Worker} {msg : Option Nat}
    {p : Payload} {pc : WorkerPc} (hw : h.workers[w]? = some worker)
    (hwire : Wire cfg found (h.trace ++ [.wrote w msg p]) w worker.body worker.abandoned pc) :
    Wired cfg found { h.setWorkerPc w worker pc with trace := h.trace ++ [.wrote w msg p] } where
  workers v x hx := by
    rcases workers_set hx with ⟨rfl, rfl⟩ | ⟨hv, hx⟩
    · exact hwire
    · refine (hi.workers v x hx).mono (List.subset_append_left _ _) (writes_snoc_of_ne _ ?_)
      rintro msg' p' heq
      exact hv (Obs.wrote.inj heq).1.symm
  fresh v hv := by
    have hlt : w < h.workers.length := (List.getElem?_eq_some_iff.1 hw).1
    have hlen : h.workers.length ≤ v := by simpa [Handoff.setWorkerPc] using hv
    refine (writes_snoc_of_ne _ ?_).trans (hi.fresh v hlen)
    rintro msg' p' heq
    have := (Obs.wrote.inj heq).1
    omega
  slot r hr := List.mem_append_left _ (hi.slot r hr)
  known n ps hn := hi.known n ps ((mem_snoc.1 hn).resolve_right nofun)

/-- A worker leaves its body. -/
theorem wire_of_leaves {a : Action} {w : Nat} {worker : Worker} {threw : Bool}
    (hwire : Wire cfg found h.trace w worker.body worker.abandoned worker.pc)
    (hwhy : Leaves h w worker a threw)
    (hended : ∀ flag, a = .enter w flag → worker.body = .extra ∧ threw = true) :
    Wire cfg found h.trace w worker.body worker.abandoned (.finished threw) := by
  cases hwhy with
  | @atOnce flag _ hpc _ =>
    obtain ⟨hbody, rfl⟩ := hended flag rfl
    rw [hpc] at hwire
    cases hwire with
    | created hwrites => exact .missed hbody hwrites
  | throws hpc => exact hwire.throws hpc
  | returns hpc => exact (hpc ▸ hwire).returns
  | bereft hpc => exact (hpc ▸ hwire).ends

/-- The reply that worker `w` is writing is destroyed: its call has returned, as the manager waits
for nobody. -/
theorem Wired.wire_destroy (hi : Wired cfg found h) (hwaited : Waited h.pc h.workers)
    (hheld : Held h.mutex h.workers) {w : Nat} {worker : Worker} {msg : Option Nat} {p : Payload}
    {rest : List Payload} (hpc : h.pc = .clearSlot) (hmutex : h.mutex = some w)
    (hw : h.workers[w]? = some worker) (hrun : worker.pc = .running msg (p :: rest)) :
    Wire cfg found h.trace w worker.body worker.abandoned (.dangling (p :: rest).length) := by
  have hbody : worker.body = .extra := by
    obtain ⟨x, hx, hbody, -⟩ := hheld w hmutex
    exact Option.some.inj (hw.symm.trans hx) ▸ hbody
  have ha : worker.abandoned = true := by
    refine hwaited.none_of_not_wait ?_ w worker hw (by rw [hrun]; rfl)
    rintro b v hwait
    exact absurd (hpc.symm.trans hwait) nofun
  have hwire := hi.workers w worker hw
  rw [hrun, hbody, ha] at hwire
  rw [hbody, ha]
  exact hwire.destroy

theorem wired_step {a : Action} {h' : Handoff} (hc : Change a h h') (hlook : Looked cfg found a h')
    (hwaited : Waited h.pc h.workers) (hheld : Held h.mutex h.workers) (hi : Wired cfg found h) :
    Wired cfg found h' := by
  cases hc with
  | skip | tick | goto | resume | otherOrphan | miss => exact { hi with }
  | clear _ _ => exact { hi with slot := fun _ h => absurd h nofun }
  | start _ =>
    refine { hi with workers := fun v x hx => ?_, fresh := fun v hv => hi.fresh v ?_ }
    · rcases workers_concat hx with hx | ⟨rfl, rfl⟩
      · exact hi.workers v x hx
      · exact .created (hi.fresh _ (Nat.le_refl _))
    · replace hv : (h.workers ++ [_]).length ≤ v := hv
      rw [List.length_append] at hv
      omega
  | @misled _ _ w worker _ _ hw _ _ _ =>
    exact hi.set_worker { worker with abandoned := true } (hi.workers w worker hw).abandon rfl rfl rfl
  | @giveUp _ _ w worker _ _ hw _ _ _ =>
    exact hi.set_worker { worker with abandoned := true } (hi.workers w worker hw).abandon rfl rfl rfl
  | @hit _ _ w worker _ _ hw =>
    exact hi.set_worker { worker with done := true } (hi.workers w worker hw) rfl rfl rfl
  | @destroy _ w worker _ p rest hpc hmutex hw hrun =>
    have hwire := hi.wire_destroy hwaited hheld hpc hmutex hw hrun
    have hset : Wired cfg found (h.setWorkerPc w worker (.dangling (p :: rest).length)) :=
      hi.set_worker { worker with pc := .dangling (p :: rest).length } hwire rfl rfl rfl
    exact { hset with slot := fun _ h => absurd h nofun }
  | @begin _ w flag worker rest hw hpc _ =>
    have hfixed := hlook.begun w flag _ rest rfl (workers_set_self hw) rfl
    have hwire := (hpc ▸ hi.workers w worker hw).begin (.fixed hfixed)
    exact hi.set_worker { worker with pc := .running none rest } hwire rfl rfl rfl
  | @take _ w _ worker r hw hpc hbody _ hslot =>
    have hlist : Assigned cfg found h.trace worker.body worker.abandoned (some r.msg) r.payloads := by
      rw [hbody]
      exact .reply (hi.slot r hslot)
    have hwire := (hpc ▸ hi.workers w worker hw).begin hlist
    have hset : Wired cfg found { h.setWorkerPc w worker (.running (some r.msg) r.payloads) with
        mutex := some w } :=
      hi.set_worker { worker with pc := .running (some r.msg) r.payloads } hwire rfl rfl rfl
    exact hset.snoc nofun nofun
  | @write _ w worker _ _ _ hw hpc => exact hi.write hw (hpc ▸ hi.workers w worker hw).write
  | @writeFreed _ w worker _ _ hw hpc =>
    exact hi.write hw (hpc ▸ hi.workers w worker hw).writeFreed
  | @leave _ _ w worker threw hw hwhy =>
    have hwire := wire_of_leaves (hi.workers w worker hw) hwhy fun flag ha =>
      hlook.ended w flag (worker.over threw) threw ha (workers_set_self hw) rfl
    exact hi.set_worker (worker.over threw) hwire rfl rfl rfl
  | @store _ r flag payloads _ =>
    have hwrote : ∀ w msg p, Obs.stored h.messages payloads ≠ .wrote w msg p := nofun
    have hnew : ∀ ps, payloads = some ps → ps ∈ knownPayloads found := by
      rintro ps rfl
      exact hlook.stored r flag ⟨h.messages, ps⟩ rfl rfl
    refine ⟨fun v x hx => ?_, fun v hv => ?_, fun reply hreply => ?_, fun n ps hn => ?_⟩
    · exact (hi.workers v x hx).mono (List.subset_append_left _ _) (writes_snoc_of_ne _ (hwrote v))
    · exact (writes_snoc_of_ne _ (hwrote v)).trans (hi.fresh v hv)
    · obtain ⟨ps, rfl, rfl⟩ := Option.map_eq_some_iff.1 hreply
      exact mem_snoc.2 (Or.inr rfl)
    · rcases mem_snoc.1 hn with hn | hn
      · exact hi.known n ps hn
      · exact hnew ps (Obs.stored.inj hn).2.symm

end

/-! ## The lists that are looked up -/

theorem wsGetPayload_event (counter : UInt64) (bad : Bool) :
    wsGetPayload counter "event".toList bad = (some wsEventPayload, counter) := by
  have hmain : ¬ baseMainPayload <:+: "event".toList := by decide
  have hprobes : ¬ baseGetProbes <:+: "event".toList := by decide
  have hevent : baseEvent <:+: "event".toList := by decide
  rw [wsGetPayload, if_neg hmain, if_neg hprobes, if_pos hevent]

theorem wsGetPayload_main (counter : UInt64) (bad : Bool) :
    ∃ ps, (wsGetPayload counter "main_payload".toList bad).1 = some ps ∧
      (ps = [wsPayload] ∨ bad = true ∧ ps = [wsBadPayload]) := by
  have hmain : baseMainPayload <:+: "main_payload".toList := List.infix_refl _
  rw [wsGetPayload, if_pos hmain]
  split
  · rename_i hpick
    exact ⟨_, rfl, Or.inr ⟨(Bool.and_eq_true_iff.1 hpick).2, rfl⟩⟩
  · exact ⟨_, rfl, Or.inl rfl⟩

section

variable {cfg : Config} {found flag : Bool}

/-- What a body finds in place of `send_bad_payloads`. -/
theorem Worker.sendBadPayloads_le {worker : Worker} (hfound : flag = true → found = true)
    (h : worker.sendBadPayloads cfg flag = true) :
    (cfg.sendBadPayloads || worker.abandoned && found) = true := by
  rw [Worker.sendBadPayloads] at h
  split at h
  · rename_i ha
    simp [ha, hfound h]
  · simp [h]

theorem looked_of_worker {h' : Handoff} {w : Nat} {x : Worker} (hx : h'.workers[w]? = some x)
    (hbegun : ∀ rest, x.pc = .running none rest → Fixed cfg found x.body x.abandoned rest)
    (hover : ∀ threw, x.pc = .finished threw → x.body = .extra ∧ threw = true) :
    Looked cfg found (.enter w flag) h' where
  begun v _ y rest hv hy hpc := by
    obtain rfl := (Action.enter.inj hv).1
    obtain rfl := Option.some.inj (hx.symm.trans hy)
    exact hbegun rest hpc
  ended v _ y threw hv hy hpc := by
    obtain rfl := (Action.enter.inj hv).1
    obtain rfl := Option.some.inj (hx.symm.trans hy)
    exact hover threw hpc
  stored _ _ _ hr := absurd hr nofun

/-- A body with a fixed request begins with the list that is looked up for it. -/
theorem lookUp_looked {σ : Sys} {w : Nat} {worker : Worker} {request : Text} {bad : Bool}
    {ps : List Payload} (hw : σ.workers[w]? = some worker)
    (hps : (wsGetPayload σ.whichMainPayload request bad).1 = some ps)
    (hfixed : Fixed cfg found worker.body worker.abandoned ps) :
    Looked cfg found (.enter w flag) (σ.lookUp w worker request bad).handoff := by
  have hlook : σ.lookUp w worker request bad =
      { σ.setWorkerPc w worker (.running none ps) with
        whichMainPayload := (wsGetPayload σ.whichMainPayload request bad).2 } := by
    simp only [Sys.lookUp, hps]
    rfl
  rw [hlook]
  refine looked_of_worker (workers_set_self hw) (fun rest hpc => ?_) (by simp)
  obtain ⟨-, rfl⟩ := WorkerPc.running.inj hpc
  exact hfixed

theorem enter_looked {σ σ' : Sys} {w : Nat} (hfound : flag = true → found = true)
    (h : σ.enter cfg w flag = some σ') : Looked cfg found (.enter w flag) σ'.handoff := by
  rw [Sys.enter] at h
  cases hw : σ.workers[w]? with
  | none => simp [hw] at h
  | some worker =>
    simp only [hw, Option.ite_none_right_eq_some] at h
    obtain ⟨-, h⟩ := h
    cases hbody : worker.body with
    | handshake =>
      simp only [hbody, Option.some.injEq] at h
      rw [← h]
      refine looked_of_worker (workers_set_self hw) (fun rest hpc => ?_) (by simp)
      obtain ⟨-, rfl⟩ := WorkerPc.running.inj hpc
      simp [Fixed, hbody]
    | extra =>
      simp only [hbody, Option.ite_none_right_eq_some] at h
      obtain ⟨-, h⟩ := h
      cases hslot : σ.ws.extraPayload with
      | none =>
        simp only [hslot, Option.some.injEq] at h
        rw [← h]
        refine looked_of_worker (workers_set_self hw) (by simp [Worker.over]) fun threw hpc => ?_
        exact ⟨hbody, (WorkerPc.finished.inj hpc).symm⟩
      | some r =>
        simp only [hslot, Option.some.injEq] at h
        rw [← h]
        exact looked_of_worker (workers_set_self hw) (by simp) (by simp)
    | event =>
      simp only [hbody, Option.some.injEq] at h
      rw [← h]
      exact lookUp_looked hw (congrArg Prod.fst (wsGetPayload_event _ _)) (by simp [Fixed, hbody])
    | main =>
      simp only [hbody, Option.some.injEq] at h
      rw [← h]
      obtain ⟨ps, hps, hlist⟩ := wsGetPayload_main σ.whichMainPayload (worker.sendBadPayloads cfg flag)
      have hfixed : Fixed cfg found worker.body worker.abandoned ps := by
        rw [hbody]
        exact hlist.imp_right (And.imp_left (Worker.sendBadPayloads_le hfound))
      exact lookUp_looked hw hps hfixed

theorem knownPayloads_mono {bad bad' : Bool} (h : bad = true → bad' = true) {ps : List Payload}
    (hps : ps ∈ knownPayloads bad) : ps ∈ knownPayloads bad' := by
  cases bad with
  | true => exact (h rfl).symm ▸ hps
  | false =>
    rw [knownPayloads, if_neg nofun, List.append_nil] at hps
    exact List.mem_append_left _ hps

theorem store_looked {σ σ' : Sys} {r : Nat} (hfound : flag = true → found = true)
    (h : σ.store r flag = some σ') : Looked cfg found (.store r flag) σ'.handoff where
  begun _ _ _ _ ha := absurd ha nofun
  ended _ _ _ _ ha := absurd ha nofun
  stored _ _ reply _ hreply := by
    rw [Sys.store, Option.ite_none_right_eq_some] at h
    obtain rfl := Option.some.inj h.2
    obtain ⟨ps, hps, rfl⟩ := Option.map_eq_some_iff.1 hreply
    exact knownPayloads_mono hfound (wsGetPayload_known hps)

theorem step_looked {σ σ' : Sys} {a : Action} (hfound : a.found = true → found = true)
    (h : step cfg σ a = some σ') : Looked cfg found a σ'.handoff := by
  cases a with
  | enter w flag => exact enter_looked hfound h
  | store r flag => exact store_looked hfound h
  | _ =>
    exact ⟨fun _ _ _ _ ha => absurd ha nofun, fun _ _ _ _ ha => absurd ha nofun,
      fun _ _ _ ha => absurd ha nofun⟩

end

/-! ## Events -/

/-- With `no-events`, no event body is ever started. -/
structure EventsWanted (cfg : Config) (pc : Pc) (workers : List Worker) : Prop where
  start : pc = .start .event → cfg.sendEvents = true
  workers : ∀ worker ∈ workers, worker.body = .event → cfg.sendEvents = true

theorem wanted_of_gate {cfg : Config} {σ σ' : Sys} {a : Action} (h : step cfg σ a = some σ')
    (ha : a.isEnv = false) (hpc' : σ'.pc = .start .event) : cfg.sendEvents = true := by
  have hgate : σ.pc = .packetGate := by
    rcases manager_step h ha with ⟨b, -, hwait, -⟩ | hnext
    · simp [hwait] at hpc'
    · rw [hpc'] at hnext
      cases hpc : σ.pc with
      | packetGate => rfl
      | wait b w => cases b <;> simp [hpc, Pc.next, Body.next] at hnext
      | _ => simp [hpc, Pc.next] at hnext
  cases a with
  | manage =>
    replace h : σ.manage cfg = some σ' := h
    rw [Sys.manage, hgate] at h
    obtain rfl := Option.some.inj h
    by_contra hno
    rw [Bool.not_eq_true] at hno
    dsimp only [Sys.goto] at hpc'
    split at hpc' <;> simp [hno] at hpc'
  | giveUp => simp [step, Sys.giveUp, hgate] at h
  | tcpConnects => simp [step, Sys.tcpConnects, hgate] at h
  | tcpThrows => simp [step, Sys.tcpThrows, hgate] at h
  | _ => simp [Action.isEnv] at ha

/-- The body of a worker stays, and that of a new one is the one the manager is about to start. -/
theorem Change.forall_bodies {P : Body → Prop} {a : Action} {h h' : Handoff} (hc : Change a h h')
    (hstart : ∀ b, h.pc = .start b → P b) (hall : ∀ worker ∈ h.workers, P worker.body) :
    ∀ worker ∈ h'.workers, P worker.body := by
  intro y hy
  obtain ⟨v, hy⟩ := List.getElem?_of_mem hy
  rcases hc.worker_cases hy with ⟨x, hx, hxy⟩ | ⟨b, hpc, rfl⟩ | ⟨b, x, -, hx, -, -, rfl⟩ |
    ⟨b, x, -, hx, -, rfl⟩
  · exact hxy.body ▸ hall x (List.mem_of_getElem? hx)
  · exact hstart b hpc
  · exact hall x (List.mem_of_getElem? hx)
  · exact hall x (List.mem_of_getElem? hx)

theorem wanted_step {cfg : Config} {σ σ' : Sys} {a : Action} (h : step cfg σ a = some σ')
    (hi : EventsWanted cfg σ.pc σ.workers) : EventsWanted cfg σ'.pc σ'.workers where
  start hpc' := by
    cases ha : a.isEnv with
    | true => exact hi.start ((env_frame ha h).1 ▸ hpc')
    | false => exact wanted_of_gate h ha hpc'
  workers := by
    refine (step_change h).forall_bodies (P := fun b => b = .event → cfg.sendEvents = true) ?_
      hi.workers
    rintro b hpc rfl
    exact hi.start hpc

/-! ## Whole runs -/

section

variable {cfg : Config} {found : Bool}

theorem wired_run {deviceId : Text} {clock : Int} {as : List Action} {σ : Sys}
    (hrun : run (step cfg) (.init deviceId clock) as = some σ)
    (hfound : ∀ a ∈ as, a.found = true → found = true) : Wired cfg found σ.handoff := by
  let inv (σ : Sys) : Prop :=
    Wired cfg found σ.handoff ∧ Waited σ.pc σ.workers ∧ Held σ.mutex σ.workers
  have hinv : ∀ s a t, inv s → (a.found = true → found = true) → step cfg s a = some t → inv t := by
    rintro s a t ⟨hwired, hwaited, hheld⟩ ha h
    have hc := step_change h
    exact ⟨wired_step hc (step_looked ha h) hwaited hheld hwired, waited_step hc hwaited,
      held_step hc hheld⟩
  have hinit : inv (.init deviceId clock) :=
    ⟨⟨nofun, fun _ _ => rfl, nofun, nofun⟩, waited_init deviceId clock, nofun⟩
  exact (run_invariant hinv hinit (.of_mem fun a ha _ => hfound a ha) hrun).1

theorem wanted_run {deviceId : Text} {clock : Int} {as : List Action} {σ : Sys}
    (hrun : run (step cfg) (.init deviceId clock) as = some σ) :
    EventsWanted cfg σ.pc σ.workers :=
  run_preserves (I := fun σ => EventsWanted cfg σ.pc σ.workers)
    (fun _ _ _ hi h => wanted_step h hi)
    ⟨by simp [Sys.init], by simp [Sys.init]⟩ hrun

/-- A payload written in the place of the rest of a reply that has been destroyed. -/
def Freed (worker : Worker) (msg : Option Nat) : Prop :=
  worker.body = .extra ∧ worker.abandoned = true ∧ msg = none

/-- What a worker may have written as part of the reply to `msg`, or else for its fixed request: one
of the program's payloads, unless its reply has been destroyed.  A bad one may be there if these are
asked for, and in a reply or when the call has returned also if `true` was found. -/
def Sent (cfg : Config) (found : Bool) (worker : Worker) (msg : Option Nat) (p : Payload) : Prop :=
  (∃ ps ∈ knownPayloads (cfg.sendBadPayloads || found && (msg.isSome || worker.abandoned)), p ∈ ps) ∨
    Freed worker msg

/-- A list a worker has been given is one of the program's, and so is what comes off it. -/
theorem sent_of_assigned {h : Handoff} (hi : Wired cfg found h) {worker : Worker}
    {msg : Option Nat} {ps : List Payload}
    (hlist : Assigned cfg found h.trace worker.body worker.abandoned msg ps) {p : Payload}
    (hp : p ∈ ps) : Sent cfg found worker msg p := by
  refine Or.inl ⟨ps, ?_, hp⟩
  generalize worker.body = b at hlist
  cases hlist with
  | reply hstored =>
    refine knownPayloads_mono (fun hbad => ?_) (hi.known _ _ hstored)
    simp [hbad]
  | fixed hfixed =>
    cases b with
    | handshake =>
      rw [Fixed] at hfixed
      simp [hfixed] at hp
    | extra => exact hfixed.elim
    | event =>
      rw [Fixed] at hfixed
      simp [knownPayloads, hfixed]
    | main =>
      rcases hfixed with rfl | ⟨hbad, rfl⟩
      · simp [knownPayloads]
      · rw [Option.isSome_none, Bool.false_or, Bool.and_comm found, hbad]
        simp [knownPayloads]

theorem sent_of_bereft {h : Handoff} (hi : Wired cfg found h) {w left : Nat} {worker : Worker}
    (hbereft : Bereft h.trace w left) (hbody : worker.body = .extra) (ha : worker.abandoned = true)
    {msg : Option Nat} {p : Payload} (hp : (msg, p) ∈ writes w h.trace) :
    Sent cfg found worker msg p := by
  cases hbereft with
  | @intro n sent rest freed hstored hwrites hleft =>
    rw [hwrites] at hp
    rcases List.mem_append.1 hp with hp | hp
    · obtain ⟨q, hq, heq⟩ := List.mem_map.1 hp
      obtain ⟨rfl, rfl⟩ := Prod.mk.inj heq
      have hlist : Assigned cfg found h.trace worker.body worker.abandoned (some n) (sent ++ rest) := by
        rw [hbody]
        exact .reply hstored
      exact sent_of_assigned hi hlist (List.mem_append_left _ hq)
    · obtain ⟨q, hq, heq⟩ := List.mem_map.1 hp
      exact Or.inr ⟨hbody, ha, (Prod.mk.inj heq).1.symm⟩

theorem sent_of_wire {h : Handoff} (hi : Wired cfg found h) {w : Nat} {worker : Worker}
    (hw : h.workers[w]? = some worker) {msg : Option Nat} {p : Payload}
    (hp : (msg, p) ∈ writes w h.trace) : Sent cfg found worker msg p := by
  have hassigned : ∀ {msg' : Option Nat} {sent rest : List Payload},
      Assigned cfg found h.trace worker.body worker.abandoned msg' (sent ++ rest) →
      writes w h.trace = sent.map (msg', ·) → Sent cfg found worker msg p := by
    intro msg' sent rest hlist hwrites
    rw [hwrites, List.mem_map] at hp
    obtain ⟨q, hq, heq⟩ := hp
    obtain ⟨rfl, rfl⟩ := Prod.mk.inj heq
    exact sent_of_assigned hi hlist (List.mem_append_left _ hq)
  have hwire := hi.workers w worker hw
  generalize worker.pc = pc at hwire
  cases hwire with
  | created hwrites => simp [hwrites] at hp
  | running hlist hwrites => exact hassigned hlist hwrites
  | dangling hbody ha hbereft => exact sent_of_bereft hi hbereft hbody ha hp
  | @returned _ ps hlist hwrites =>
    rw [← List.append_nil ps] at hlist
    exact hassigned hlist hwrites
  | threw hlist hwrites => exact hassigned hlist hwrites
  | missed _ hwrites => simp [hwrites] at hp
  | bereft hbody ha hbereft _ => exact sent_of_bereft hi hbereft hbody ha hp

/-- Without bad payloads, none of the lists has one. -/
theorem ne_wsBadPayload_of_known {ps : List Payload} (hps : ps ∈ knownPayloads false) {p : Payload}
    (hp : p ∈ ps) : p ≠ wsBadPayload := by
  have hlengths : ∀ ps ∈ knownPayloads false, ∀ p ∈ ps, p.length ≠ wsBadPayload.length := by
    decide +kernel
  exact fun heq => hlengths ps hps p hp (congrArg List.length heq)

/-- How a bad payload may come to be written. -/
theorem bad_of_sent {worker : Worker} {msg : Option Nat}
    (h : Sent cfg found worker msg wsBadPayload) :
    cfg.sendBadPayloads = true ∨ found = true ∧ (msg.isSome = true ∨ worker.abandoned = true) ∨
      Freed worker msg := by
  rcases h with ⟨ps, hps, hp⟩ | hfreed
  · cases hasked : cfg.sendBadPayloads || found && (msg.isSome || worker.abandoned) with
    | false =>
      rw [hasked] at hps
      exact absurd rfl (ne_wsBadPayload_of_known hps hp)
    | true =>
      rw [Bool.or_eq_true, Bool.and_eq_true, Bool.or_eq_true] at hasked
      exact hasked.imp_right Or.inl
  · exact Or.inr (Or.inr hfreed)

/-- Everything written was sent by some worker. -/
theorem sent_of_wrote {deviceId : Text} {clock : Int} {as : List Action} {σ : Sys}
    (hrun : run (step cfg) (.init deviceId clock) as = some σ)
    (hfound : ∀ a ∈ as, a.found = true → found = true) {w : Nat} {msg : Option Nat}
    {p : Payload} (hp : .wrote w msg p ∈ σ.log) :
    ∃ worker, σ.workers[w]? = some worker ∧ Sent cfg found worker msg p := by
  have hwired := wired_run hrun hfound
  have hmem : (msg, p) ∈ writes w σ.handoff.trace := by
    rw [show σ.handoff.trace = trace σ.log from rfl, writes_trace]
    exact List.mem_filterMap.2 ⟨_, hp, by simp⟩
  have hlt : w < σ.workers.length := by
    by_contra hge
    rw [hwired.fresh w (Nat.le_of_not_lt hge)] at hmem
    simp at hmem
  exact ⟨_, List.getElem?_eq_getElem hlt, sent_of_wire hwired (List.getElem?_eq_getElem hlt) hmem⟩

end

/-- **What goes over the wire.**  In every reachable state, each worker has written a beginning of
the list it was given, in order, and all of it if its body has returned: the payloads for its fixed
request, or those a reader has stored for a message.  Only a worker for a reply whose call has
returned may have lost its list on the way, and has then written something else in the place of the
rest.  But for that, everything written is one of the program's payloads; a bad one only if these
are asked for, or found to be.  The event of a pass is written only if asked for. -/
theorem worker_writes (cfg : Config) (found : Bool) (deviceId : Text) (clock : Int)
    (as : List Action) (σ : Sys) (hrun : run (step cfg) (.init deviceId clock) as = some σ)
    (hfound : ∀ a ∈ as, a.found = true → found = true) :
    (∀ w worker, σ.workers[w]? = some worker →
      Wire cfg found σ.log w worker.body worker.abandoned worker.pc ∧
        (worker.body = .event → cfg.sendEvents = true)) ∧
    ∀ w msg p, .wrote w msg p ∈ σ.log →
      ∃ worker, σ.workers[w]? = some worker ∧ Sent cfg found worker msg p ∧
        (p = wsBadPayload → cfg.sendBadPayloads = true ∨
          found = true ∧ (msg.isSome = true ∨ worker.abandoned = true) ∨ Freed worker msg) := by
  refine ⟨fun w worker hw => ⟨?_, (wanted_run hrun).workers worker (List.mem_of_getElem? hw)⟩,
    fun w msg p hp => ?_⟩
  · exact ((wired_run hrun hfound).workers w worker hw).mono List.filter_sublist.subset
      (writes_trace w σ.log).symm
  · obtain ⟨worker, hw, hsent⟩ := sent_of_wrote hrun hfound hp
    exact ⟨worker, hw, hsent, fun heq => bad_of_sent (heq ▸ hsent)⟩

/-- Worker 1 sends the reply to a request for the probes, which has two payloads. -/
theorem worker_writes_probes :
    ∃ σ ∈ run (step usageConfig) (.init [] (seconds 10))
        (connectRun ++ messageRun "get_probes".toList ++
          [.manage, .manage, .enter 1 false, .write 1]),
      ∃ worker, σ.workers[1]? = some worker ∧
        Wire usageConfig false σ.log 1 worker.body worker.abandoned worker.pc := by
  have hsome : ((run (step usageConfig) (.init [] (seconds 10)) (connectRun ++
      messageRun "get_probes".toList ++ [.manage, .manage, .enter 1 false, .write 1])).bind fun σ =>
        σ.workers[1]?).isSome = true := by decide +kernel
  obtain ⟨worker, hworker⟩ := Option.isSome_iff_exists.1 hsome
  obtain ⟨σ, hσ, hworker⟩ := Option.bind_eq_some_iff.1 hworker
  exact ⟨σ, hσ, worker, hworker, ((worker_writes usageConfig false [] (seconds 10) _ σ hσ
    (by decide)).1 1 worker hworker).1⟩

end WsTestClient
