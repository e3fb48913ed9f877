import WsTestClient.Threads.System

/-!
# How replies are handed from the readers to the workers

The replies pass through one slot, `extra_payload`, and the only parts of the system that matter to
them are the control point of the manager, the workers and the clock their deadlines are read off,
the stray writes to come, the mutex, the slot itself, and what has been stored, found and written so
far.  `Handoff` is that part, and `Change` is an abstract step of it: it knows neither the connection
and the packet timer nor what the readers do before they store.

`step_change` connects the two: **every step of the system is a `Change` of its hand-off.**  The
invariants of the following files are proved against `Change`, one case for each of its
constructors, and never unfold `step`.
-/

set_option autoImplicit false

namespace WsTestClient

/-! ## The abstract step -/

/-- An event of the manager, as opposed to one of the hand-off. -/
def Obs.isManager : Obs → Bool
  | .manager _ => true
  | _ => false

/-- The part of a log that is about the hand-off. -/
def trace (log : List Obs) : List Obs := log.filter fun o => !o.isManager

theorem mem_trace {log : List Obs} {o : Obs} (h : o.isManager = false) :
    o ∈ trace log ↔ o ∈ log := by
  simp [trace, h]

theorem trace_concat {log : List Obs} {o : Obs} (h : o.isManager = false) :
    trace (log ++ [o]) = trace log ++ [o] := by
  simp [trace, h]

theorem trace_manager (log : List Obs) (ev : Event) : trace (log ++ [.manager ev]) = trace log := by
  simp [trace, Obs.isManager]

/-- The part of the system that replies pass through. -/
structure Handoff where
  clock : Int
  pc : Pc
  workers : List Worker
  strays : Nat
  mutex : Option Nat
  slot : Option Reply
  messages : Nat
  /-- What has been stored, found and written. -/
  trace : List Obs

/-- The hand-off of a state of the system. -/
def Sys.handoff (σ : Sys) : Handoff where
  clock := σ.clock
  pc := σ.pc
  workers := σ.workers
  strays := σ.strays
  mutex := σ.mutex
  slot := σ.ws.extraPayload
  messages := σ.messages
  trace := trace σ.log

/-- The control points that neither wait for a worker nor are about to clear the slot. -/
def Pc.isPlain : Pc → Bool
  | .wait _ _ => false
  | .clearSlot => false
  | _ => true

/-- Where the manager goes on after `run_with_timeout` has returned from the body `b`. -/
def Pc.Follows (b : Body) (pc : Pc) : Prop :=
  b = .extra ∧ pc = .clearSlot ∨ b ≠ .extra ∧ pc.isPlain = true

/-- Worker `w` moves on to `pc`. -/
def Handoff.setWorkerPc (h : Handoff) (w : Nat) (worker : Worker) (pc : WorkerPc) : Handoff :=
  { h with workers := h.workers.set w { worker with pc := pc } }

/-- The call for worker `w` returns before the body has ended, and the manager goes on at `pc`. -/
def Handoff.abandon (h : Handoff) (w : Nat) (worker : Worker) (pc : Pc) : Handoff :=
  { h with workers := h.workers.set w { worker with abandoned := true }, pc := pc }

/-- Why worker `w` leaves its body in the step `a`: there is nothing to send, the operation it is
in throws, or all is written. -/
inductive Leaves (h : Handoff) (w : Nat) (worker : Worker) : Action → Bool → Prop
  | atOnce {flag threw : Bool} (hpc : worker.pc = .created)
      (hextra : worker.body = .extra → h.mutex = none ∧ h.slot = none) :
      Leaves h w worker (.enter w flag) threw
  | throws (hpc : worker.pc.isActive = true) : Leaves h w worker (.fail w) true
  | returns {msg : Option Nat} (hpc : worker.pc = .running msg []) :
      Leaves h w worker (.finish w) false
  | bereft (hpc : worker.pc = .dangling 0) : Leaves h w worker (.finish w) false

theorem WorkerPc.not_over_of_isActive {pc : WorkerPc} (h : pc.isActive = true) :
    pc.isOver = false := by
  cases pc with
  | finished _ => exact absurd h nofun
  | _ => rfl

theorem Leaves.not_over {h : Handoff} {w : Nat} {worker : Worker} {a : Action} {threw : Bool}
    (hwhy : Leaves h w worker a threw) : worker.pc.isOver = false := by
  cases hwhy with
  | atOnce hpc _ => rw [hpc]; rfl
  | throws hpc => exact WorkerPc.not_over_of_isActive hpc
  | returns hpc => rw [hpc]; rfl
  | bereft hpc => rw [hpc]; rfl

/-- What a step can do to the hand-off. -/
inductive Change : Action → Handoff → Handoff → Prop
  /-- A step that has nothing to do with it. -/
  | skip {a : Action} (h : Handoff) : Change a h h
  | tick {h : Handoff} {now : Int} (hclock : h.clock ≤ now) :
      Change (.tick now) h { h with clock := now }
  /-- The manager goes from one plain control point to another. -/
  | goto {a : Action} {h : Handoff} {pc : Pc} (hpc : h.pc.isPlain = true)
      (hnext : pc.isPlain = true) : Change a h { h with pc := pc }
  /-- The manager calls `run_with_timeout`. -/
  | start {h : Handoff} {b : Body} (hpc : h.pc = .start b) :
      Change .manage h { h with
        workers := h.workers ++ [⟨b, .created, h.clock + b.timeout, false, false⟩]
        pc := .wait b h.workers.length }
  /-- The manager sees `done`, and the body it waits for has ended. -/
  | resume {h : Handoff} {b : Body} {w : Nat} {worker : Worker} {pc : Pc}
      (hpc : h.pc = .wait b w) (hw : h.workers[w]? = some worker) (hdone : worker.done = true)
      (hover : worker.pc.isOver = true) (hnext : pc.Follows b) :
      Change .manage h { h with pc := pc }
  /-- The manager sees `done`, and the body it waits for has not ended. -/
  | misled {h : Handoff} {b : Body} {w : Nat} {worker : Worker} {pc : Pc}
      (hpc : h.pc = .wait b w) (hw : h.workers[w]? = some worker) (hdone : worker.done = true)
      (hover : worker.pc.isOver = false) (hnext : pc.Follows b) :
      Change .manage h (h.abandon w worker pc)
  /-- The manager gives up on the worker it waits for. -/
  | giveUp {h : Handoff} {b : Body} {w : Nat} {worker : Worker} {pc : Pc}
      (hpc : h.pc = .wait b w) (hw : h.workers[w]? = some worker)
      (hlate : worker.deadline < h.clock) (hdone : worker.done = false)
      (hnext : pc.Follows b) : Change .giveUp h (h.abandon w worker pc)
  /-- The manager clears the slot, and nobody is writing what is in it. -/
  | clear {h : Handoff} (hpc : h.pc = .clearSlot)
      (hfree : ∀ w ∈ h.mutex, ∀ worker ∈ h.workers[w]?, worker.pc.isWriting = false) :
      Change .manage h { h with slot := none, pc := .checkConnection }
  /-- The manager clears the slot under the worker that is writing what is in it. -/
  | destroy {h : Handoff} {w : Nat} {worker : Worker} {msg : Option Nat} {p : Payload}
      {rest : List Payload} (hpc : h.pc = .clearSlot) (hmutex : h.mutex = some w)
      (hw : h.workers[w]? = some worker) (hrun : worker.pc = .running msg (p :: rest)) :
      Change .manage h { h.setWorkerPc w worker (.dangling (p :: rest).length) with
        slot := none
        pc := .checkConnection }
  /-- A worker enters a body that does not look at the slot. -/
  | begin {h : Handoff} {w : Nat} {flag : Bool} {worker : Worker} {rest : List Payload}
      (hw : h.workers[w]? = some worker) (hpc : worker.pc = .created)
      (hbody : worker.body ≠ .extra) :
      Change (.enter w flag) h (h.setWorkerPc w worker (.running none rest))
  /-- A worker enters the critical section and finds a reply. -/
  | take {h : Handoff} {w : Nat} {flag : Bool} {worker : Worker} {r : Reply}
      (hw : h.workers[w]? = some worker) (hpc : worker.pc = .created)
      (hbody : worker.body = .extra) (hmutex : h.mutex = none) (hslot : h.slot = some r) :
      Change (.enter w flag) h { h.setWorkerPc w worker (.running (some r.msg) r.payloads) with
        mutex := some w
        trace := h.trace ++ [.took w r.msg] }
  /-- A worker writes a payload. -/
  | write {h : Handoff} {w : Nat} {worker : Worker} {msg : Option Nat} {p : Payload}
      {rest : List Payload} (hw : h.workers[w]? = some worker)
      (hpc : worker.pc = .running msg (p :: rest)) :
      Change (.write w) h { h.setWorkerPc w worker (.running msg rest) with
        trace := h.trace ++ [.wrote w msg p] }
  /-- A worker writes without the payloads it was to send. -/
  | writeFreed {h : Handoff} {w : Nat} {worker : Worker} {p : Payload} {left : Nat}
      (hw : h.workers[w]? = some worker) (hpc : worker.pc = .dangling (left + 1)) :
      Change (.writeFreed w p) h { h.setWorkerPc w worker (.dangling left) with
        trace := h.trace ++ [.wrote w none p] }
  /-- A worker leaves its body, and the critical section if it is in it. -/
  | leave {a : Action} {h : Handoff} {w : Nat} {worker : Worker} {threw : Bool}
      (hw : h.workers[w]? = some worker) (hwhy : Leaves h w worker a threw) :
      Change a h { h with
        workers := h.workers.set w (worker.over threw)
        mutex := if h.mutex = some w then none else h.mutex
        strays := if worker.abandoned then h.strays + 1 else h.strays }
  /-- A reader stores what it looked up for the next message. -/
  | store {h : Handoff} {r : Nat} {flag : Bool} {payloads : Option (List Payload)}
      (hmutex : h.mutex = none) :
      Change (.store r flag) h { h with
        slot := payloads.map (⟨h.messages, ·⟩)
        messages := h.messages + 1
        trace := h.trace ++ [.stored h.messages payloads] }
  /-- An orphan of another device ends. -/
  | otherOrphan (h : Handoff) : Change .otherOrphan h { h with strays := h.strays + 1 }
  /-- A stray write hits the call the manager is in. -/
  | hit {h : Handoff} {b : Body} {w : Nat} {worker : Worker} (hstrays : 0 < h.strays)
      (hpc : h.pc = .wait b w) (hw : h.workers[w]? = some worker) :
      Change .strayDone h { h with
        workers := h.workers.set w { worker with done := true }
        strays := h.strays - 1 }
  /-- A stray write hits nothing. -/
  | miss {a : Action} {h : Handoff} (hstrays : 0 < h.strays) :
      Change a h { h with strays := h.strays - 1 }

/-! ## Lists of workers -/

theorem workers_set {l : List Worker} {w v : Nat} {x y : Worker}
    (h : (l.set w x)[v]? = some y) : v = w ∧ y = x ∨ v ≠ w ∧ l[v]? = some y := by
  by_cases hv : v = w
  · subst hv
    have hlt : v < l.length := by
      have := (List.getElem?_eq_some_iff.1 h).1
      rwa [List.length_set] at this
    rw [List.getElem?_set_self hlt] at h
    exact Or.inl ⟨rfl, (Option.some.inj h).symm⟩
  · rw [List.getElem?_set_ne (Ne.symm hv)] at h
    exact Or.inr ⟨hv, h⟩

theorem workers_set_self {l : List Worker} {w : Nat} {x y : Worker} (h : l[w]? = some y) :
    (l.set w x)[w]? = some x :=
  List.getElem?_set_self (List.getElem?_eq_some_iff.1 h).1

theorem workers_set_other {l : List Worker} {w v : Nat} {x y : Worker} (hv : v ≠ w)
    (h : l[w]? = some y) : (l.set v x)[w]? = some y := by
  rwa [List.getElem?_set_ne hv]

theorem workers_concat {l : List Worker} {v : Nat} {x y : Worker}
    (h : (l ++ [x])[v]? = some y) : l[v]? = some y ∨ v = l.length ∧ y = x := by
  rcases Nat.lt_trichotomy v l.length with hlt | heq | hgt
  · rw [List.getElem?_append_left hlt] at h
    exact Or.inl h
  · subst heq
    rw [List.getElem?_concat_length] at h
    exact Or.inr ⟨rfl, (Option.some.inj h).symm⟩
  · rw [List.getElem?_eq_none (by rw [List.length_append, List.length_singleton]; omega)] at h
    exact absurd h (by simp)

/-! ## Steps of the manager -/

/-- The hand-off does not see what the manager reports. -/
theorem handoff_emit_goto (σ : Sys) (ev : Event) (pc : Pc) :
    ((σ.emit ev).goto pc).handoff = { σ.handoff with pc := pc } := by
  simp only [Sys.handoff, Sys.emit, Sys.goto, trace_manager]

theorem change_goto {a : Action} {σ σ' : Sys} {pc : Pc}
    (h : σ'.handoff = { σ.handoff with pc := pc }) (hpc : σ.pc.isPlain = true)
    (hnext : pc.isPlain = true) : Change a σ.handoff σ'.handoff := by
  rw [h]
  exact .goto hpc hnext

/-- After `run_with_timeout` the manager goes on to a control point that follows the body. -/
theorem handoff_resume (σ : Sys) (b : Body) (res : BodyResult) :
    ∃ pc : Pc, pc.Follows b ∧ (σ.resume b res).handoff = { σ.handoff with pc := pc } := by
  cases b with
  | extra => exact ⟨.clearSlot, Or.inl ⟨rfl, rfl⟩, handoff_emit_goto _ _ _⟩
  | event => exact ⟨.start .main, Or.inr ⟨nofun, rfl⟩, handoff_emit_goto _ _ _⟩
  | main => exact ⟨.testSlot, Or.inr ⟨nofun, rfl⟩, handoff_emit_goto _ _ _⟩
  | handshake =>
    refine ⟨if runWithTimeout res then .startReader else .testSlot, Or.inr ⟨nofun, ?_⟩,
      handoff_emit_goto _ _ _⟩
    split <;> rfl

theorem WorkerPc.of_isWriting {pc : WorkerPc} (h : pc.isWriting = true) :
    ∃ msg p rest, pc = .running msg (p :: rest) := by
  cases pc with
  | running msg rest =>
    cases rest with
    | nil => exact absurd h nofun
    | cons p rest => exact ⟨msg, p, rest, rfl⟩
  | _ => exact absurd h nofun

theorem WorkerPc.dangle_of_not_writing {pc : WorkerPc} (h : pc.isWriting = false) :
    pc.dangle = pc := by
  cases pc with
  | running msg rest =>
    cases rest with
    | nil => rfl
    | cons p rest => exact absurd h nofun
  | _ => rfl

/-- Destroying the payloads changes nothing but for a worker that is still to write some of them. -/
theorem bereave_cases (workers : List Worker) (mutex : Option Nat) :
    (bereave workers mutex = workers ∧
        ∀ w ∈ mutex, ∀ worker ∈ workers[w]?, worker.pc.isWriting = false) ∨
      ∃ w worker msg p rest, mutex = some w ∧ workers[w]? = some worker ∧
        worker.pc = .running msg (p :: rest) ∧
        bereave workers mutex =
          workers.set w { worker with pc := .dangling (p :: rest).length } := by
  cases mutex with
  | none => exact Or.inl ⟨rfl, nofun⟩
  | some w =>
    rw [bereave, List.modify_eq_set_getElem?]
    cases hw : workers[w]? with
    | none =>
      refine Or.inl ⟨rfl, fun v hv worker hworker => ?_⟩
      obtain rfl := Option.some.inj hv
      exact absurd (hw.symm.trans hworker) (Option.some_ne_none worker).symm
    | some worker =>
      cases hwriting : worker.pc.isWriting with
      | true =>
        obtain ⟨msg, p, rest, hrun⟩ := WorkerPc.of_isWriting hwriting
        refine Or.inr ⟨w, worker, msg, p, rest, rfl, hw, hrun, ?_⟩
        show workers.set w { worker with pc := worker.pc.dangle } = _
        rw [hrun]
        rfl
      | false =>
        refine Or.inl ⟨?_, fun v hv x hx => ?_⟩
        · show workers.set w { worker with pc := worker.pc.dangle } = workers
          rw [WorkerPc.dangle_of_not_writing hwriting]
          obtain ⟨hlt, rfl⟩ := List.getElem?_eq_some_iff.1 hw
          exact List.set_getElem_self hlt
        · obtain rfl := Option.some.inj hv
          obtain rfl := Option.some.inj (hw.symm.trans hx)
          exact hwriting

/-- The manager clears the slot, under a worker that is writing or not. -/
theorem clearSlot_change {σ : Sys} (hpc : σ.pc = .clearSlot) :
    Change .manage σ.handoff (σ.clearSlot.goto .checkConnection).handoff := by
  show Change .manage σ.handoff { σ.handoff with
    workers := bereave σ.workers σ.mutex, slot := none, pc := .checkConnection }
  rcases bereave_cases σ.workers σ.mutex with ⟨heq, hfree⟩ | ⟨w, worker, msg, p, rest, hmutex, hw,
    hrun, heq⟩
  · rw [heq]
    exact .clear hpc hfree
  · rw [heq]
    exact .destroy hpc hmutex hw hrun

theorem manage_change {cfg : Config} {σ σ' : Sys} (h : σ.manage cfg = some σ') :
    Change .manage σ.handoff σ'.handoff := by
  rw [Sys.manage] at h
  cases hpc : σ.pc with
  | wait b w =>
    rw [hpc] at h
    cases hw : σ.workers[w]? with
    | none => simp [hw] at h
    | some worker =>
      simp only [hw, Option.ite_none_right_eq_some] at h
      obtain ⟨hdone, h⟩ := h
      have hmisled : worker.pc.isOver = false →
          Change .manage σ.handoff ((σ.abandon w worker).resume b .misled).handoff := by
        intro hover
        obtain ⟨pc, hnext, hσ'⟩ := handoff_resume (σ.abandon w worker) b .misled
        rw [hσ']
        exact .misled hpc hw hdone hover hnext
      cases hworker : worker.pc with
      | finished threw =>
        simp only [hworker, Option.some.injEq] at h
        obtain ⟨pc, hnext, hσ'⟩ := handoff_resume σ b (if threw then .threw else .returned)
        rw [← h, hσ']
        exact .resume hpc hw hdone (by rw [hworker]; rfl) hnext
      | _ =>
        simp only [hworker, Option.some.injEq] at h
        exact h ▸ hmisled (by rw [hworker]; rfl)
  | start b =>
    rw [hpc] at h
    obtain rfl := Option.some.inj h
    exact .start hpc
  | clearSlot =>
    rw [hpc] at h
    obtain rfl := Option.some.inj h
    exact clearSlot_change hpc
  | testSlot =>
    rw [hpc] at h
    obtain rfl := Option.some.inj h
    exact change_goto rfl (by rw [hpc]; rfl) (by split <;> rfl)
  | checkConnection =>
    rw [hpc] at h
    obtain rfl := Option.some.inj h
    exact change_goto rfl (by rw [hpc]; rfl) (by split <;> rfl)
  | checkTimer =>
    rw [hpc] at h
    obtain rfl := Option.some.inj h
    dsimp only
    split
    · exact change_goto (handoff_emit_goto _ _ _) (by rw [hpc]; rfl) rfl
    · exact change_goto rfl (by rw [hpc]; rfl) rfl
  | tcpConnect => rw [hpc] at h; exact absurd h nofun
  | startReader =>
    rw [hpc] at h
    obtain rfl := Option.some.inj h
    exact change_goto (handoff_emit_goto _ _ _) (by rw [hpc]; rfl) rfl
  | setConnected =>
    rw [hpc] at h
    obtain rfl := Option.some.inj h
    exact change_goto (handoff_emit_goto _ _ _) (by rw [hpc]; rfl) rfl
  | packetGate =>
    rw [hpc] at h
    obtain rfl := Option.some.inj h
    dsimp only
    split
    · exact change_goto (handoff_emit_goto _ _ _) (by rw [hpc]; rfl) rfl
    · exact change_goto rfl (by rw [hpc]; rfl) rfl

theorem giveUp_change {σ σ' : Sys} (h : σ.giveUp = some σ') :
    Change .giveUp σ.handoff σ'.handoff := by
  rw [Sys.giveUp] at h
  cases hpc : σ.pc with
  | wait b w =>
    cases hw : σ.workers[w]? with
    | none => simp [hpc, hw] at h
    | some worker =>
      simp only [hpc, hw, Option.ite_none_right_eq_some] at h
      obtain ⟨hlate, h⟩ := h
      obtain rfl := Option.some.inj h
      obtain ⟨pc, hnext, hσ'⟩ := handoff_resume (σ.abandon w worker) b .timedOut
      rw [hσ']
      exact .giveUp hpc hw hlate.1 hlate.2 hnext
  | _ => rw [hpc] at h; exact absurd h nofun

theorem tcpConnects_change {σ σ' : Sys} (h : σ.tcpConnects = some σ') :
    Change .tcpConnects σ.handoff σ'.handoff := by
  rw [Sys.tcpConnects] at h
  cases hpc : σ.pc with
  | tcpConnect =>
    rw [hpc] at h
    obtain rfl := Option.some.inj h
    exact change_goto rfl (by rw [hpc]; rfl) rfl
  | _ => rw [hpc] at h; exact absurd h nofun

theorem tcpThrows_change {σ σ' : Sys} (h : σ.tcpThrows = some σ') :
    Change .tcpThrows σ.handoff σ'.handoff := by
  rw [Sys.tcpThrows] at h
  cases hpc : σ.pc with
  | tcpConnect =>
    rw [hpc] at h
    obtain rfl := Option.some.inj h
    exact change_goto (handoff_emit_goto _ _ _) (by rw [hpc]; rfl) rfl
  | _ => rw [hpc] at h; exact absurd h nofun

/-! ## Steps of the workers and the readers -/

/-- A body that makes a fixed request either begins to write or is left at once. -/
theorem lookUp_change {σ : Sys} {w : Nat} {flag : Bool} {worker : Worker} (request : Text)
    (bad : Bool) (hw : σ.workers[w]? = some worker) (hpc : worker.pc = .created)
    (hbody : worker.body ≠ .extra) :
    Change (.enter w flag) σ.handoff (σ.lookUp w worker request bad).handoff := by
  rw [Sys.lookUp]
  dsimp only
  split
  · exact .leave hw (.atOnce hpc fun h => absurd h hbody)
  · exact .begin hw hpc hbody

theorem enter_change {cfg : Config} {σ σ' : Sys} {w : Nat} {flag : Bool}
    (h : σ.enter cfg w flag = some σ') : Change (.enter w flag) σ.handoff σ'.handoff := by
  rw [Sys.enter] at h
  cases hw : σ.workers[w]? with
  | none => simp [hw] at h
  | some worker =>
    simp only [hw, Option.ite_none_right_eq_some] at h
    obtain ⟨hpc, h⟩ := h
    cases hbody : worker.body with
    | handshake =>
      simp only [hbody, Option.some.injEq] at h
      rw [← h]
      exact .begin hw hpc (by simp [hbody])
    | extra =>
      simp only [hbody, Option.ite_none_right_eq_some] at h
      obtain ⟨hmutex, h⟩ := h
      cases hslot : σ.ws.extraPayload with
      | none =>
        simp only [hslot, Option.some.injEq] at h
        rw [← h]
        exact .leave hw (.atOnce hpc fun _ => ⟨hmutex, hslot⟩)
      | some r =>
        simp only [hslot, Option.some.injEq] at h
        rw [← h]
        show Change (.enter w flag) σ.handoff { σ.handoff.setWorkerPc w worker _ with
          mutex := some w, trace := trace (σ.log ++ [.took w r.msg]) }
        rw [trace_concat rfl]
        exact .take hw hpc hbody hmutex hslot
    | event =>
      simp only [hbody, Option.some.injEq] at h
      rw [← h]
      exact lookUp_change _ _ hw hpc (by simp [hbody])
    | main =>
      simp only [hbody, Option.some.injEq] at h
      rw [← h]
      exact lookUp_change _ _ hw hpc (by simp [hbody])

theorem write_change {σ σ' : Sys} {w : Nat} (h : σ.write w = some σ') :
    Change (.write w) σ.handoff σ'.handoff := by
  rw [Sys.write] at h
  split at h
  · rename_i worker hw
    split at h
    · rename_i msg p rest hpc
      obtain rfl := Option.some.inj h
      show Change (.write w) σ.handoff { σ.handoff.setWorkerPc w worker _ with
        trace := trace (σ.log ++ [.wrote w msg p]) }
      rw [trace_concat rfl]
      exact .write hw hpc
    · exact absurd h nofun
  · exact absurd h nofun

theorem writeFreed_change {σ σ' : Sys} {w : Nat} {p : Payload} (h : σ.writeFreed w p = some σ') :
    Change (.writeFreed w p) σ.handoff σ'.handoff := by
  rw [Sys.writeFreed] at h
  split at h
  · rename_i worker hw
    split at h
    · rename_i left hpc
      obtain rfl := Option.some.inj h
      show Change (.writeFreed w p) σ.handoff { σ.handoff.setWorkerPc w worker _ with
        trace := trace (σ.log ++ [.wrote w none p]) }
      rw [trace_concat rfl]
      exact .writeFreed hw hpc
    · exact absurd h nofun
  · exact absurd h nofun

theorem fail_change {σ σ' : Sys} {w : Nat} (h : σ.fail w = some σ') :
    Change (.fail w) σ.handoff σ'.handoff := by
  rw [Sys.fail] at h
  split at h
  · rename_i worker hw
    split at h
    · rename_i msg rest hpc
      rw [Option.ite_none_right_eq_some] at h
      obtain rfl := Option.some.inj h.2
      exact .leave hw (.throws (by rw [hpc]; rfl))
    · rename_i left hpc
      obtain rfl := Option.some.inj h
      exact .leave hw (.throws (by rw [hpc]; rfl))
    · exact absurd h nofun
  · exact absurd h nofun

theorem finish_change {σ σ' : Sys} {w : Nat} (h : σ.finish w = some σ') :
    Change (.finish w) σ.handoff σ'.handoff := by
  rw [Sys.finish] at h
  split at h
  · rename_i worker hw
    split at h
    · rename_i msg hpc
      obtain rfl := Option.some.inj h
      have hleave : Change (.finish w) σ.handoff (σ.leave w worker false).handoff :=
        .leave hw (.returns hpc)
      split <;> exact hleave
    · rename_i hpc
      obtain rfl := Option.some.inj h
      exact .leave hw (.bereft hpc)
    · exact absurd h nofun
  · exact absurd h nofun

theorem store_change {σ σ' : Sys} {r : Nat} {flag : Bool} (h : σ.store r flag = some σ') :
    Change (.store r flag) σ.handoff σ'.handoff := by
  rw [Sys.store, Option.ite_none_right_eq_some] at h
  obtain rfl := Option.some.inj h.2
  show Change (.store r flag) σ.handoff { σ.handoff with
    slot := _, messages := _, trace := trace (σ.log ++ [.stored σ.messages _]) }
  rw [trace_concat rfl]
  exact .store h.1.2

/-- A step of a reader that stores nothing. -/
theorem reader_change {a : Action} {σ σ' σ'' : Sys} {c : Prop} [Decidable c]
    (h : (if c then some σ'' else none) = some σ') (hsame : σ''.handoff = σ.handoff) :
    Change a σ.handoff σ'.handoff := by
  rw [Option.ite_none_right_eq_some] at h
  obtain rfl := Option.some.inj h.2
  rw [hsame]
  exact .skip _

/-- A stray write hits the call under way, or nothing. -/
theorem strayDone_change {σ σ' : Sys} (h : σ.strayDone = some σ') :
    Change .strayDone σ.handoff σ'.handoff := by
  rw [Sys.strayDone, Option.ite_none_right_eq_some] at h
  obtain ⟨hstrays, h⟩ := h
  dsimp only at h
  split at h
  · rename_i b w hpc
    split at h
    · rename_i worker hw
      obtain rfl := Option.some.inj h
      exact .hit hstrays hpc hw
    · obtain rfl := Option.some.inj h
      exact .miss hstrays
  · obtain rfl := Option.some.inj h
    exact .miss hstrays

/-- **Every step of the system is a step of the hand-off.** -/
theorem step_change {cfg : Config} {σ σ' : Sys} {a : Action} (h : step cfg σ a = some σ') :
    Change a σ.handoff σ'.handoff := by
  cases a with
  | manage => exact manage_change h
  | giveUp => exact giveUp_change h
  | tcpConnects => exact tcpConnects_change h
  | tcpThrows => exact tcpThrows_change h
  | enter w flag => exact enter_change h
  | write w => exact write_change h
  | writeFreed w p => exact writeFreed_change h
  | fail w => exact fail_change h
  | finish w => exact finish_change h
  | poll r => exact reader_change h rfl
  | receive r text => exact reader_change h rfl
  | readThrows r bytes => exact reader_change h rfl
  | store r flag => exact store_change h
  | clearBuffer r => exact reader_change h rfl
  | setOpen isOpen =>
    obtain rfl := Option.some.inj h
    exact .skip _
  | tick now =>
    rw [step, Option.ite_none_right_eq_some] at h
    obtain rfl := Option.some.inj h.2
    exact .tick h.1
  | otherDevice =>
    obtain rfl := Option.some.inj h
    exact .skip _
  | otherOrphan =>
    obtain rfl := Option.some.inj h
    exact .otherOrphan _
  | strayDone => exact strayDone_change h
  | otherStray =>
    rw [step, Option.ite_none_right_eq_some] at h
    obtain rfl := Option.some.inj h.2
    exact .miss h.1

end WsTestClient
