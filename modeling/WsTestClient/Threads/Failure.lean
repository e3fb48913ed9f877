import WsTestClient.Threads.Refinement
import WsTestClient.Threads.Slot

/-!
# A reply whose write fails

The block of `ws_manage_ws` that sends a reply tests the slot, has a worker write the payloads, and
clears the slot.  What it does not do is look at the result of `run_with_timeout`, nor could it see
there that a write has thrown.  So this file follows one pass through the block, over any
interleaving with the other threads in which no reader stores, and says when the slot may be cleared.

* `Stage` is the invariant: where the pass is in the block, and, as long as nothing has failed, how
  much of the reply its worker has written (`stage_step`);
* `reply_kept_iff` — the slot is cleared after the whole reply has been written exactly when nothing
  has failed, and no reply survives a failure; `failed_write_drops_reply` is one that does not.
-/

set_option autoImplicit false

namespace WsTestClient

open Transition

/-! ## A pass through the block -/

/-- The control points from the test of the slot to its clearing. -/
def Pc.inBlock : Pc → Bool
  | .testSlot | .start .extra | .wait .extra _ | .clearSlot => true
  | _ => false

/-- The pass is in the block, and no reader stores. -/
def InBlock (σ : Sys) (a : Action) : Prop := σ.pc.inBlock = true ∧ a.isStore = false

instance (σ : Sys) (a : Action) : Decidable (InBlock σ a) :=
  inferInstanceAs (Decidable (σ.pc.inBlock = true ∧ a.isStore = false))

/-- The worker started by the pass that begins in `σ` has written `ps` of the reply `r` when the
system is in `s`. -/
def Sys.Sent (σ : Sys) (r : Reply) (s : Sys) (ps : List Payload) : Prop :=
  written σ.workers.length r.msg s.log = written σ.workers.length r.msg σ.log ++ ps

instance (σ : Sys) (r : Reply) (s : Sys) (ps : List Payload) : Decidable (σ.Sent r s ps) :=
  inferInstanceAs (Decidable (written _ _ _ = written _ _ _ ++ ps))

/-- The wait for worker `w` ends before its body: at the deadline, or because an orphan has set
`done`. -/
def EndsEarly (pc : Pc) (workers : List Worker) (w : Nat) (a : Action) : Prop :=
  a = .giveUp ∨ a = .manage ∧ pc = .wait .extra w ∧ ∃ worker ∈ workers[w]?, worker.pc.isOver = false

instance (pc : Pc) (workers : List Worker) (w : Nat) (a : Action) :
    Decidable (EndsEarly pc workers w a) :=
  inferInstanceAs (Decidable (a = .giveUp ∨ a = .manage ∧ pc = .wait .extra w ∧
    ∃ worker ∈ workers[w]?, worker.pc.isOver = false))

/-- With `k` payloads of the reply written and at least one left, the next write of the worker
throws, or `run_with_timeout` returns without it. -/
def FailsEarly (σ : Sys) (r : Reply) (s : Sys) (a : Action) : Prop :=
  (a = .fail σ.workers.length ∨ EndsEarly s.pc s.workers σ.workers.length a) ∧
    ∃ k < r.payloads.length, σ.Sent r s (r.payloads.take k)

instance (σ : Sys) (r : Reply) (s : Sys) (a : Action) : Decidable (FailsEarly σ r s a) :=
  inferInstanceAs (Decidable ((a = .fail σ.workers.length ∨
    EndsEarly s.pc s.workers σ.workers.length a) ∧
      ∃ k < r.payloads.length, σ.Sent r s (r.payloads.take k)))

/-- Some step of the pass along `as` fails early. -/
def Fails (cfg : Config) (σ : Sys) (r : Reply) (as : List Action) : Prop :=
  ¬ Along (step cfg) (fun s a => ¬ FailsEarly σ r s a) σ as

instance (cfg : Config) (σ : Sys) (r : Reply) (as : List Action) : Decidable (Fails cfg σ r as) :=
  inferInstanceAs (Decidable (¬ Along (step cfg) (fun s a => ¬ FailsEarly σ r s a) σ as))

/-! ## What the worker has written -/

/-- What of the reply `ps` a worker has yet to write. -/
def WorkerPc.rest (ps : List Payload) : WorkerPc → List Payload
  | .created => ps
  | .running _ rest => rest
  | .dangling _ => []
  | .finished _ => []

theorem WorkerPc.rest_of_isOver {pc : WorkerPc} (h : pc.isOver = true) (ps : List Payload) :
    pc.rest ps = [] := by
  cases pc with
  | finished threw => rfl
  | _ => exact absurd h nofun

/-- The worker `w` of the pass is on the reply `r`, which is still in the slot; and if nothing has
failed, what it has written beyond `before` and what it has yet to write make up the reply. -/
structure Sending (ok : Prop) (before : List Payload) (w : Nat) (r : Reply) (h : Handoff)
    (worker : Worker) : Prop where
  hw : h.workers[w]? = some worker
  hbody : worker.body = .extra
  hslot : h.slot = some r
  hmsg : ∀ msg rest, worker.pc = .running msg rest → msg = some r.msg
  hkept : ∀ left, worker.pc ≠ .dangling left
  hwritten : ok → ∃ sent, written w r.msg h.trace = before ++ sent ∧
    sent ++ worker.pc.rest r.payloads = r.payloads

section

variable {ok : Prop} {before : List Payload} {w : Nat} {r : Reply} {a : Action} {h h' : Handoff}
  {worker : Worker}

/-- Another worker moves on, and logs nothing or something that is not about this one. -/
theorem Sending.other (hi : Sending ok before w r h worker) {v : Nat} {y : Worker}
    {trace : List Obs} {mutex : Option Nat} {strays : Nat} (hv : v ≠ w)
    (htrace : written w r.msg trace = written w r.msg h.trace) :
    Sending ok before w r { h with
      workers := h.workers.set v y, trace := trace, mutex := mutex, strays := strays } worker :=
  { hi with
    hw := workers_set_other hv hi.hw
    hwritten := fun hok => by
      rw [htrace]
      exact hi.hwritten hok }

/-- The worker finds the reply. -/
theorem Sending.take (hi : Sending ok before w r h worker) (hpc : worker.pc = .created) :
    Sending ok before w r
      { h.setWorkerPc w worker (.running (some r.msg) r.payloads) with
        mutex := some w
        trace := h.trace ++ [.took w r.msg] }
      { worker with pc := .running (some r.msg) r.payloads } where
  hw := workers_set_self hi.hw
  hbody := hi.hbody
  hslot := hi.hslot
  hmsg := by
    rintro msg rest ⟨rfl, rfl⟩
    rfl
  hkept := nofun
  hwritten hok := by
    obtain ⟨sent, hsent, hrest⟩ := hi.hwritten hok
    rw [hpc] at hrest
    refine ⟨sent, ?_, hrest⟩
    rw [written_snoc, ← hsent]
    exact List.append_nil _

/-- The worker writes a payload. -/
theorem Sending.write (hi : Sending ok before w r h worker) {msg : Option Nat} {p : Payload}
    {rest : List Payload} (hpc : worker.pc = .running msg (p :: rest)) :
    Sending ok before w r
      { h.setWorkerPc w worker (.running msg rest) with trace := h.trace ++ [.wrote w msg p] }
      { worker with pc := .running msg rest } where
  hw := workers_set_self hi.hw
  hbody := hi.hbody
  hslot := hi.hslot
  hmsg := by
    rintro msg rest ⟨rfl, rfl⟩
    exact hi.hmsg _ _ hpc
  hkept := nofun
  hwritten hok := by
    obtain ⟨sent, hsent, hrest⟩ := hi.hwritten hok
    obtain rfl := hi.hmsg _ _ hpc
    rw [hpc] at hrest
    refine ⟨sent ++ [p], ?_, ?_⟩
    · rw [written_snoc, written_wrote_self, hsent, List.append_assoc]
    · rw [List.append_assoc]
      exact hrest

/-- The worker leaves its body, with nothing left to write. -/
theorem Sending.leave (hi : Sending ok before w r h worker) (threw : Bool) (mutex : Option Nat)
    (strays : Nat) (hrest : ok → worker.pc.rest r.payloads = []) :
    Sending ok before w r { h with
      workers := h.workers.set w (worker.over threw), mutex := mutex, strays := strays }
      (worker.over threw) where
  hw := workers_set_self hi.hw
  hbody := hi.hbody
  hslot := hi.hslot
  hmsg := nofun
  hkept := nofun
  hwritten hok := by
    obtain ⟨sent, hsent, hall⟩ := hi.hwritten hok
    rw [hrest hok] at hall
    exact ⟨sent, hsent, hall⟩

/-- What happens to the call for a worker does not touch its body. -/
theorem Sending.call (hi : Sending ok before w r h worker) {v : Nat} {x : Worker} (y : Worker)
    (hx : h.workers[v]? = some x) (hbody : y.body = x.body) (hpc : y.pc = x.pc) (pc : Pc)
    (strays : Nat) : ∃ worker', Sending ok before w r { h with
      workers := h.workers.set v y, pc := pc, strays := strays } worker' := by
  by_cases hv : v = w
  · subst hv
    obtain rfl := Option.some.inj (hi.hw.symm.trans hx)
    exact ⟨y, { hi with
      hw := workers_set_self hx
      hbody := hbody.trans hi.hbody
      hmsg := hpc ▸ hi.hmsg
      hkept := hpc ▸ hi.hkept
      hwritten := hpc ▸ hi.hwritten }⟩
  · exact ⟨worker, { hi with hw := workers_set_other hv hi.hw }⟩

/-- The worker stays on the reply until the slot is cleared, and nothing of the reply is lost unless
a write throws. -/
theorem Sending.step (hi : Sending ok before w r h worker) (hc : Change a h h')
    (hstore : a.isStore = false) (hkeep : h.pc = .clearSlot → h'.pc = .clearSlot)
    (hfail : ok → a = .fail w → worker.pc.rest r.payloads = []) :
    ∃ worker', Sending ok before w r h' worker' := by
  have hself : ∀ {x : Worker}, h.workers[w]? = some x → worker = x := fun hx =>
    Option.some.inj (hi.hw.symm.trans hx)
  cases hc with
  | skip | tick | goto | resume | otherOrphan | miss => exact ⟨worker, { hi with }⟩
  | clear hpc _ => exact absurd (hkeep hpc) nofun
  | destroy hpc _ _ _ => exact absurd (hkeep hpc) nofun
  | store => exact absurd hstore nofun
  | start _ =>
    refine ⟨worker, { hi with hw := ?_ }⟩
    show (h.workers ++ [_])[w]? = some worker
    rw [List.getElem?_append_left (List.getElem?_eq_some_iff.1 hi.hw).1]
    exact hi.hw
  | @misled _ _ _ x _ _ hx _ _ _ => exact hi.call { x with abandoned := true } hx rfl rfl _ _
  | @giveUp _ _ _ x _ _ hx _ _ _ => exact hi.call { x with abandoned := true } hx rfl rfl _ _
  | @hit _ _ _ x _ _ hx => exact hi.call { x with done := true } hx rfl rfl _ _
  | @begin _ v flag x _ hx _ hother =>
    refine ⟨worker, hi.other ?_ rfl⟩
    rintro rfl
    exact hother (hself hx ▸ hi.hbody)
  | @take _ v flag x r' hx hpc _ _ hr' =>
    by_cases hv : v = w
    · subst hv
      obtain rfl := hself hx
      obtain rfl := Option.some.inj (hi.hslot.symm.trans hr')
      exact ⟨_, hi.take hpc⟩
    · exact ⟨worker, hi.other hv ((written_snoc ..).trans (List.append_nil _))⟩
  | @write _ v x msg p rest hx hpc =>
    by_cases hv : v = w
    · subst hv
      obtain rfl := hself hx
      exact ⟨_, hi.write hpc⟩
    · refine ⟨worker, hi.other hv ?_⟩
      rw [written_snoc, written_wrote_of_ne hv, List.append_nil]
  | @writeFreed _ v x p left hx hpc =>
    have hv : v ≠ w := by
      rintro rfl
      exact hi.hkept (left + 1) (hself hx ▸ hpc)
    refine ⟨worker, hi.other hv ?_⟩
    rw [written_snoc, written_wrote_of_ne hv, List.append_nil]
  | @leave _ _ v x threw hx hwhy =>
    by_cases hv : v = w
    · subst hv
      obtain rfl := hself hx
      refine ⟨_, hi.leave threw _ _ fun hok => ?_⟩
      cases hwhy with
      | atOnce _ hextra => exact absurd (hi.hslot.symm.trans (hextra hi.hbody).2) nofun
      | throws _ => exact hfail hok rfl
      | bereft hpc => exact absurd hpc (hi.hkept 0)
      | returns hpc => rw [hpc]; rfl
    · exact ⟨worker, hi.other hv rfl⟩

/-- If nothing is left to write, the whole reply is written. -/
theorem Sending.all (hi : Sending ok before w r h worker) (hok : ok)
    (hrest : worker.pc.rest r.payloads = []) :
    written w r.msg h.trace = before ++ r.payloads := by
  obtain ⟨sent, hsent, hall⟩ := hi.hwritten hok
  rw [hrest, List.append_nil] at hall
  rw [hsent, hall]

/-- If the whole reply is written, nothing is left to write. -/
theorem Sending.rest_eq_nil (hi : Sending ok before w r h worker) (hok : ok)
    (hall : before ++ r.payloads <+: written w r.msg h.trace) :
    worker.pc.rest r.payloads = [] := by
  obtain ⟨sent, hsent, hrest⟩ := hi.hwritten hok
  rw [hsent, List.prefix_append_right_inj] at hall
  have hlen := congrArg List.length hrest
  rw [List.length_append] at hlen
  have hle := hall.length_le
  exact List.eq_nil_of_length_eq_zero (by omega)

/-- If something is left to write, only a first part of the reply is written. -/
theorem Sending.part (hi : Sending ok before w r h worker) (hok : ok)
    (hrest : worker.pc.rest r.payloads ≠ []) :
    ∃ k < r.payloads.length, written w r.msg h.trace = before ++ r.payloads.take k := by
  obtain ⟨sent, hsent, hall⟩ := hi.hwritten hok
  have hlen := congrArg List.length hall
  rw [List.length_append] at hlen
  have hpos := List.length_pos_iff.2 hrest
  refine ⟨sent.length, by omega, ?_⟩
  rw [hsent, ← hall, List.take_left]

/-! ## The pass -/

/-- The trace only grows. -/
theorem Change.trace_prefix (hc : Change a h h') : h.trace <+: h'.trace := by
  cases hc with
  | take | write | writeFreed | store => exact List.prefix_append _ _
  | _ => exact List.prefix_refl _

/-- The wait for a worker ends with its body, or early. -/
theorem Change.pc_of_wait (hc : Change a h h') (hpc : h.pc = .wait .extra w) :
    h'.pc = .wait .extra w ∨ h'.pc = .clearSlot ∧ (EndsEarly h.pc h.workers w a ∨
      ∃ worker, h.workers[w]? = some worker ∧ worker.pc.isOver = true) := by
  have hclear : ∀ {b : Body} {v : Nat} {pc : Pc}, h.pc = .wait b v → pc.Follows b →
      v = w ∧ pc = .clearSlot := by
    intro b v pc hpc' hnext
    obtain ⟨rfl, rfl⟩ := Pc.wait.inj (hpc'.symm.trans hpc)
    exact ⟨rfl, hnext.elim (fun h => h.2) fun h => absurd rfl h.1⟩
  cases hc with
  | goto hplain _ => exact absurd hpc (Pc.not_wait_of_isPlain hplain _ _)
  | start hpc' => exact absurd (hpc'.symm.trans hpc) nofun
  | clear hpc' _ => exact absurd (hpc'.symm.trans hpc) nofun
  | destroy hpc' _ _ _ => exact absurd (hpc'.symm.trans hpc) nofun
  | resume hpc' hx _ hover hnext =>
    obtain ⟨rfl, hnext⟩ := hclear hpc' hnext
    exact Or.inr ⟨hnext, Or.inr ⟨_, hx, hover⟩⟩
  | misled hpc' hx _ hover hnext =>
    obtain ⟨rfl, hnext⟩ := hclear hpc' hnext
    exact Or.inr ⟨hnext, Or.inl (Or.inr ⟨rfl, hpc, _, hx, hover⟩)⟩
  | giveUp hpc' _ _ _ hnext => exact Or.inr ⟨(hclear hpc' hnext).2, Or.inl (Or.inl rfl)⟩
  | _ => exact Or.inl hpc

/-- The slot is cleared in one step. -/
theorem Change.pc_of_clear (hc : Change a h h') (hpc : h.pc = .clearSlot) :
    h'.pc = .clearSlot ∨ h'.pc = .checkConnection ∧ h'.slot = none ∧ h'.trace = h.trace := by
  cases hc with
  | goto hplain _ =>
    rw [hpc] at hplain
    exact absurd hplain nofun
  | start hpc' => exact absurd (hpc'.symm.trans hpc) nofun
  | resume hpc' _ _ _ _ => exact absurd (hpc'.symm.trans hpc) nofun
  | misled hpc' _ _ _ _ => exact absurd (hpc'.symm.trans hpc) nofun
  | giveUp hpc' _ _ _ _ => exact absurd (hpc'.symm.trans hpc) nofun
  | clear | destroy => exact Or.inr ⟨rfl, rfl, rfl⟩
  | _ => exact Or.inl hpc

/-- What has been written as a whole stays so. -/
theorem Sending.all_step (hi : Sending ok before w r h' worker) (hc : Change a h h') (hok : ok)
    (hall : written w r.msg h.trace = before ++ r.payloads) :
    written w r.msg h'.trace = before ++ r.payloads := by
  have hle : written w r.msg h.trace <+: written w r.msg h'.trace := hc.trace_prefix.filterMap _
  exact hi.all hok (hi.rest_eq_nil hok (hall ▸ hle))

/-- Where the pass is in the block behind the test, and, if nothing has failed, what its worker has
written beyond `before`. -/
inductive Stage (ok : Prop) (before : List Payload) (w : Nat) (r : Reply) (h : Handoff) : Prop
  | starting (hpc : h.pc = .start .extra) (hlen : h.workers.length = w) (hslot : h.slot = some r)
      (hwritten : written w r.msg h.trace = before)
  | waiting {worker : Worker} (hpc : h.pc = .wait .extra w)
      (hsending : Sending ok before w r h worker)
  | clearing {worker : Worker} (hpc : h.pc = .clearSlot)
      (hsending : Sending ok before w r h worker)
      (hall : ok → written w r.msg h.trace = before ++ r.payloads)
  | left (hpc : h.pc = .checkConnection) (hslot : h.slot = none)
      (hall : ok → written w r.msg h.trace = before ++ r.payloads)

/-- Nothing happens to the reply before the manager has started the worker. -/
theorem Stage.starting_of_pc (hc : Change a h h') (hstore : a.isStore = false)
    (hpc : h.pc = .start .extra) (hpc' : h'.pc = .start .extra) (hlen : h.workers.length = w)
    (hslot : h.slot = some r) (hwritten : written w r.msg h.trace = before) :
    Stage ok before w r h' := by
  cases hc with
  | skip | tick | otherOrphan | miss => exact .starting hpc hlen hslot hwritten
  | goto _ _ => exact .starting hpc' hlen hslot hwritten
  | start _ => exact absurd hpc' nofun
  | resume hwait _ _ _ _ => exact absurd (hwait.symm.trans hpc) nofun
  | misled hwait _ _ _ _ => exact absurd (hwait.symm.trans hpc) nofun
  | giveUp hwait _ _ _ _ => exact absurd (hwait.symm.trans hpc) nofun
  | hit _ hwait _ => exact absurd (hwait.symm.trans hpc) nofun
  | clear hclear _ => exact absurd (hclear.symm.trans hpc) nofun
  | destroy hclear _ _ _ => exact absurd (hclear.symm.trans hpc) nofun
  | store => exact absurd hstore nofun
  | begin _ _ _ => exact .starting hpc (List.length_set.trans hlen) hslot hwritten
  | leave _ _ => exact .starting hpc (List.length_set.trans hlen) hslot hwritten
  | take _ _ _ _ _ =>
    refine .starting hpc (List.length_set.trans hlen) hslot ?_
    rw [written_snoc, hwritten]
    exact List.append_nil before
  | @write _ v x msg p rest hx _ =>
    have hv : v ≠ w := by
      have hlt : v < h.workers.length := (List.getElem?_eq_some_iff.1 hx).1
      omega
    refine .starting hpc (List.length_set.trans hlen) hslot ?_
    rw [written_snoc, written_wrote_of_ne hv, List.append_nil]
    exact hwritten
  | @writeFreed _ v x p left hx _ =>
    have hv : v ≠ w := by
      have hlt : v < h.workers.length := (List.getElem?_eq_some_iff.1 hx).1
      omega
    refine .starting hpc (List.length_set.trans hlen) hslot ?_
    rw [written_snoc, written_wrote_of_ne hv, List.append_nil]
    exact hwritten

theorem Stage.waiting_step (hc : Change a h h') (hstore : a.isStore = false)
    (hquiet : ok → a = .fail w ∨ EndsEarly h.pc h.workers w a →
      ¬ ∃ k < r.payloads.length, written w r.msg h.trace = before ++ r.payloads.take k)
    (hpc : h.pc = .wait .extra w) (hi : Sending ok before w r h worker) :
    Stage ok before w r h' := by
  have hrest : ok → a = .fail w ∨ EndsEarly h.pc h.workers w a → worker.pc.rest r.payloads = [] := by
    intro hok ha
    by_contra hrest
    exact hquiet hok ha (hi.part hok hrest)
  obtain ⟨worker', hi'⟩ := hi.step hc hstore (fun h => absurd (hpc.symm.trans h) nofun)
    fun hok ha => hrest hok (Or.inl ha)
  rcases hc.pc_of_wait hpc with hpc' | ⟨hpc', hend⟩
  · exact .waiting hpc' hi'
  · refine .clearing hpc' hi' fun hok => ?_
    refine hi'.all_step hc hok (hi.all hok ?_)
    rcases hend with ha | ⟨x, hx, hover⟩
    · exact hrest hok (Or.inr ha)
    · obtain rfl := Option.some.inj (hi.hw.symm.trans hx)
      exact WorkerPc.rest_of_isOver hover _

theorem Stage.clearing_step (hc : Change a h h') (hstore : a.isStore = false)
    (hpc : h.pc = .clearSlot) (hi : Sending ok before w r h worker)
    (hall : ok → written w r.msg h.trace = before ++ r.payloads) : Stage ok before w r h' := by
  rcases hc.pc_of_clear hpc with hpc' | ⟨hpc', hslot, htrace⟩
  · obtain ⟨worker', hi'⟩ := hi.step hc hstore (fun _ => hpc')
      fun hok _ => hi.rest_eq_nil hok (hall hok ▸ List.prefix_refl _)
    exact .clearing hpc' hi' fun hok => hi'.all_step hc hok (hall hok)
  · exact .left hpc' hslot (htrace ▸ hall)

end

variable {cfg : Config} {ok : Prop} {w : Nat} {r : Reply} {σ s t : Sys} {a : Action}
  {as : List Action}

theorem Stage.starting_step (hstep : step cfg s a = some t) (hstore : a.isStore = false)
    (hpc : s.pc = .start .extra) {before : List Payload} (hlen : s.workers.length = w)
    (hslot : s.ws.extraPayload = some r) (hwritten : written w r.msg s.handoff.trace = before) :
    Stage ok before w r t.handoff := by
  cases ha : a.isEnv with
  | true =>
    exact .starting_of_pc (step_change hstep) hstore hpc ((env_frame ha hstep).1.trans hpc) hlen
      hslot hwritten
  | false =>
    cases a with
    | manage =>
      replace hstep : s.manage cfg = some t := hstep
      rw [Sys.manage, hpc] at hstep
      obtain rfl := Option.some.inj hstep
      obtain rfl := hlen
      refine .waiting rfl ⟨List.getElem?_concat_length, rfl, hslot, by simp, by simp,
        fun _ => ⟨[], ?_, rfl⟩⟩
      rw [List.append_nil]
      exact hwritten
    | giveUp =>
      replace hstep : s.giveUp = some t := hstep
      simp [Sys.giveUp, hpc] at hstep
    | tcpConnects =>
      replace hstep : s.tcpConnects = some t := hstep
      simp [Sys.tcpConnects, hpc] at hstep
    | tcpThrows =>
      replace hstep : s.tcpThrows = some t := hstep
      simp [Sys.tcpThrows, hpc] at hstep
    | _ => simp [Action.isEnv] at ha

/-- **A step of the pass** keeps the invariant. -/
theorem stage_step (hstep : step cfg s a = some t) (hin : InBlock s a)
    (hquiet : ok → ¬ FailsEarly σ r s a)
    (hi : Stage ok (written σ.workers.length r.msg σ.log) σ.workers.length r s.handoff) :
    Stage ok (written σ.workers.length r.msg σ.log) σ.workers.length r t.handoff := by
  have hc := step_change hstep
  cases hi with
  | starting hpc hlen hslot hwritten => exact .starting_step hstep hin.2 hpc hlen hslot hwritten
  | waiting hpc hsending =>
    refine .waiting_step hc hin.2 (fun hok ha hpart => hquiet hok ⟨ha, ?_⟩) hpc hsending
    obtain ⟨k, hk, hwritten⟩ := hpart
    exact ⟨k, hk, (written_trace ..).symm.trans hwritten⟩
  | clearing hpc hsending hall => exact .clearing_step hc hin.2 hpc hsending hall
  | left hpc _ _ =>
    have hblock : s.pc.inBlock = true := hin.1
    rw [show s.pc = .checkConnection from hpc] at hblock
    exact absurd hblock nofun

/-- Behind the block the slot is empty, and, if nothing has failed, the whole reply is written. -/
theorem block_run (ok : Prop) (hpc : σ.pc = .testSlot) (hopen : σ.ws.isOpen = true)
    (hslot : σ.ws.extraPayload = some r) (hrun : run (step cfg) σ (.manage :: as) = some t)
    (hblock : Along (step cfg) InBlock σ (.manage :: as)) (hleft : t.pc = .checkConnection)
    (hquiet : Along (step cfg) (fun s a => ok → ¬ FailsEarly σ r s a) σ (.manage :: as)) :
    t.ws.extraPayload = none ∧ (ok → σ.Sent r t r.payloads) := by
  obtain ⟨s, hstep, hrun⟩ := run_cons_eq_some.1 hrun
  have htest : s = σ.goto (.start .extra) := by
    replace hstep : σ.manage cfg = some s := hstep
    rw [Sys.manage, hpc] at hstep
    simpa [hopen, hslot] using hstep.symm
  have hstage : Stage ok (written σ.workers.length r.msg σ.log) σ.workers.length r t.handoff := by
    refine run_invariant (I := fun s => Stage ok _ _ r s.handoff) ?_ ?_
      ((hblock.2 s hstep).and (hquiet.2 s hstep)) hrun
    · intro s a t hi hC hstep
      exact stage_step hstep hC.1 hC.2 hi
    · rw [htest]
      exact .starting rfl rfl hslot (written_trace ..)
  cases hstage with
  | left _ hslot hall => exact ⟨hslot, fun hok => (written_trace ..).symm.trans (hall hok)⟩
  | starting hpc' _ _ _ => simp [Sys.handoff, hleft] at hpc'
  | waiting hpc' _ => simp [Sys.handoff, hleft] at hpc'
  | clearing hpc' _ _ => simp [Sys.handoff, hleft] at hpc'

/-- **A reply survives no failure.**  Follow a pass through the block, from the test of a slot that
holds a reply `r` of `n` payloads to the statement behind the block, while no reader stores.  That
the slot still holds `r` if a write throws or `run_with_timeout` returns without the worker after
`k < n` payloads, and is empty only if all `n` have been written, is true exactly of the passes in
which nothing fails. -/
theorem reply_kept_iff (cfg : Config) (σ τ : Sys) (r : Reply) (as : List Action)
    (hpc : σ.pc = .testSlot) (hopen : σ.ws.isOpen = true) (hslot : σ.ws.extraPayload = some r)
    (hrun : run (step cfg) σ (.manage :: as) = some τ)
    (hblock : Along (step cfg) InBlock σ (.manage :: as)) (hleft : τ.pc = .checkConnection) :
    ((Fails cfg σ r (.manage :: as) → τ.ws.extraPayload = some r) ∧
        (τ.ws.extraPayload = none → σ.Sent r τ r.payloads)) ↔
      ¬ Fails cfg σ r (.manage :: as) := by
  constructor
  · intro ⟨hkept, _⟩ hfails
    obtain ⟨hnone, -⟩ := block_run False hpc hopen hslot hrun hblock hleft
      (.of_mem fun _ _ _ h => h.elim)
    exact absurd ((hkept hfails).symm.trans hnone) nofun
  · intro hok
    obtain ⟨-, hall⟩ := block_run True hpc hopen hslot hrun hblock hleft
      ((not_not.1 hok).mono fun _ _ h _ => h)
    exact ⟨fun hfails => absurd hfails hok, fun _ => hall trivial⟩

/-- A device that is connected, with the reply to a request for the probes, two payloads, in its
slot. -/
def probesRun : List Action := connectRun ++ messageRun "get_probes".toList

/-- A pass through the block in which worker 1 does `as` once it has found the reply. -/
def passRun (as : List Action) : List Action :=
  .manage :: .manage :: .enter 1 false :: as ++ [.manage, .manage]

/-- Both payloads are written. -/
theorem reply_kept_iff_probes :
    ∃ σ ∈ run (step usageConfig) (.init [] (seconds 10)) probesRun,
      ∃ τ ∈ run (step usageConfig) σ (passRun [.write 1, .write 1, .finish 1]),
        σ.Sent ⟨0, wsGetProbesPayload⟩ τ wsGetProbesPayload := by
  obtain ⟨σ, hσ, ⟨hpc, hopen, hslot⟩, τ, hτ, hblock, hleft, hok, hnone⟩ :
      ∃ σ ∈ run (step usageConfig) (.init [] (seconds 10)) probesRun,
        (σ.pc = .testSlot ∧ σ.ws.isOpen = true ∧
          σ.ws.extraPayload = some ⟨0, wsGetProbesPayload⟩) ∧
        ∃ τ ∈ run (step usageConfig) σ (passRun [.write 1, .write 1, .finish 1]),
          Along (step usageConfig) InBlock σ (passRun [.write 1, .write 1, .finish 1]) ∧
            τ.pc = .checkConnection ∧
            ¬ Fails usageConfig σ ⟨0, wsGetProbesPayload⟩
              (passRun [.write 1, .write 1, .finish 1]) ∧
            τ.ws.extraPayload = none := by decide +kernel
  refine ⟨σ, hσ, τ, hτ, ?_⟩
  exact ((reply_kept_iff usageConfig σ τ ⟨0, wsGetProbesPayload⟩ _ hpc hopen hslot hτ hblock
    hleft).2 hok).2 hnone

/-- **A failed write drops the reply.**  The second of the two payloads is not written, for the
write throws; `run_with_timeout` says that all is well, and the slot is cleared. -/
theorem failed_write_drops_reply :
    ∃ σ ∈ run (step usageConfig) (.init [] (seconds 10)) probesRun,
      σ.pc = .testSlot ∧ σ.ws.isOpen = true ∧
        σ.ws.extraPayload = some ⟨0, wsGetProbesPayload⟩ ∧
      ∃ τ ∈ run (step usageConfig) σ (passRun [.write 1, .fail 1]),
        Along (step usageConfig) InBlock σ (passRun [.write 1, .fail 1]) ∧
          τ.pc = .checkConnection ∧
          Fails usageConfig σ ⟨0, wsGetProbesPayload⟩ (passRun [.write 1, .fail 1]) ∧
          τ.ws.extraPayload = none ∧
          ¬ σ.Sent ⟨0, wsGetProbesPayload⟩ τ wsGetProbesPayload := by
  decide +kernel

end WsTestClient
