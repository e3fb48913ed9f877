import WsTestClient.Manage.Timing
import WsTestClient.Threads.Overlap

/-!
# The manager of the system makes passes

`wsManageWs` runs a pass in one go; `step` runs it statement by statement, with the workers, the
readers and the clock moving in between.  This file shows that the two agree: what the manager does
in a run of the system is what it does in a run of passes, for suitable environments of the passes.

* `Pc.finish` is the rest of a pass from a control point on, in an environment in which only the
  fields the rest still asks for matter.  At the entry it is the whole pass (`finish_testSlot`).
* A step of the system either goes on with the pass (`Continues`) or ends it (`Ends`), and
  `step_pass` says that it does one or the other: the environment of the rest before the step is
  that of the rest after the step, with what the step has just learned filled in.
* `refines_passes` concludes for whole runs, and `mainPayloads_spaced_system` carries the spacing
  of the main payloads over from the passes to the system.
-/

set_option autoImplicit false

namespace WsTestClient

open Transition

/-! ## The rest of a pass -/

/-- What the passes of a device leave behind, apart from the stream and the slot, which are not in
the hands of the manager alone. -/
structure History where
  connected : Bool
  lastRunTime : Int
  log : List Event

def History.add (h : History) (ev : Event) : History := { h with log := h.log ++ [ev] }

def Device.history (d : Device) : History := ⟨d.ws.connected, d.ws.lastRunTime, d.log⟩

/-- The manager's part of a log. -/
def Obs.event? : Obs → Option Event
  | .manager ev => some ev
  | _ => none

def Sys.history (σ : Sys) : History :=
  ⟨σ.ws.connected, σ.ws.lastRunTime, σ.log.filterMap Obs.event?⟩

section

variable (cfg : Config) (e : PassEnv)

def finishGate (h : History) : History :=
  let (due, last) := isTime cfg.timeBetweenPackets e.packetTime h.lastRunTime
  { h with lastRunTime := last, log := h.log ++ if due then sends cfg e else [] }

def finishConnected (h : History) : History :=
  finishGate cfg e { h.add .connected with connected := true }

def finishReader (h : History) : History := finishConnected cfg e (h.add .readerStarted)

def finishHandshake (h : History) : History :=
  let h := h.add (.handshake e.handshake)
  if runWithTimeout e.handshake then finishReader cfg e h else h

def finishTcp (h : History) : History :=
  if e.tcpConnect then finishHandshake cfg e h else h.add .tcpThrew

def finishTimer (h : History) : History :=
  let (due, last) := if h.lastRunTime == 0 then (true, h.lastRunTime)
    else isTime cfg.timeBetweenPackets e.gateTime h.lastRunTime
  let call := Event.connectCall e.gateTime (h.lastRunTime != 0)
  let h := { h with lastRunTime := last }
  if due then finishTcp cfg e (h.add call) else finishGate cfg e h

def finishCheck (h : History) : History :=
  if !h.connected || !e.openAtCheck then finishTimer cfg e h else finishGate cfg e h

def finishExtra (h : History) : History := finishCheck cfg e (h.add (.extraWrite e.extraWrite))

def finishTest (h : History) : History :=
  if e.openAtTest && e.slotAtTest.isSome then finishExtra cfg e h else finishCheck cfg e h

/-- The rest of a pass from a control point on. -/
def Pc.finish (pc : Pc) (h : History) : History :=
  match pc with
  | .testSlot => finishTest cfg e h
  | .start .extra => finishExtra cfg e h
  | .wait .extra _ => finishExtra cfg e h
  | .clearSlot => finishCheck cfg e h
  | .checkConnection => finishCheck cfg e h
  | .checkTimer => finishTimer cfg e h
  | .tcpConnect => finishTcp cfg e h
  | .start .handshake => finishHandshake cfg e h
  | .wait .handshake _ => finishHandshake cfg e h
  | .startReader => finishReader cfg e h
  | .setConnected => finishConnected cfg e h
  | .packetGate => finishGate cfg e h
  | .start .event => (h.add (.eventWrite e.eventWrite)).add (.mainWrite e.mainWrite)
  | .wait .event _ => (h.add (.eventWrite e.eventWrite)).add (.mainWrite e.mainWrite)
  | .start .main => h.add (.mainWrite e.mainWrite)
  | .wait .main _ => h.add (.mainWrite e.mainWrite)

end

/-- What a block leaves behind, after the history `l`. -/
def Block.history (b : Block) (l : List Event) : History :=
  ⟨b.ws.connected, b.ws.lastRunTime, l ++ b.log⟩

theorem finishGate_of_due {cfg : Config} {e : PassEnv} {h : History}
    (hdue : (isTime cfg.timeBetweenPackets e.packetTime h.lastRunTime).1 = true) :
    finishGate cfg e h = { h with lastRunTime := e.packetTime, log := h.log ++ sends cfg e } := by
  rw [finishGate, isTime_of_due hdue]
  rfl

theorem finishGate_of_not_due {cfg : Config} {e : PassEnv} {h : History}
    (hdue : (isTime cfg.timeBetweenPackets e.packetTime h.lastRunTime).1 = false) :
    finishGate cfg e h = h := by
  rw [finishGate, isTime_of_not_due hdue]
  show { h with log := h.log ++ [] } = h
  rw [List.append_nil]

theorem finishGate_eq (cfg : Config) (e : PassEnv) (s : WsState) (l : List Event) :
    finishGate cfg e ⟨s.connected, s.lastRunTime, l⟩ = (packetBlock cfg e s).history l := by
  rw [finishGate, packetBlock]
  cases hdue : (isTime cfg.timeBetweenPackets e.packetTime s.lastRunTime).1 with
  | false => rw [isTime_of_not_due hdue]; rfl
  | true => rw [isTime_of_due hdue]; rfl

theorem Block.history_andThen (b : Block) (next : WsState → Block) (l : List Event) :
    (b.andThen next).history l =
      if b.returned then b.history l else (next b.ws).history (l ++ b.log) := by
  rw [Block.andThen]
  split
  · rfl
  · rw [Block.history, Block.history, List.append_assoc]

/-- The rest of a pass from the TCP connect on is `ws_connect` and, if that succeeds, the packet
gate. -/
theorem finishTcp_eq (cfg : Config) (e : PassEnv) (h : History) :
    finishTcp cfg e h = if connects e then
        finishGate cfg e { h with connected := true, log := h.log ++ (wsConnect e).2 ++ [.connected] }
      else { h with log := h.log ++ (wsConnect e).2 } := by
  rw [finishTcp, finishHandshake, wsConnect, connects]
  cases e.tcpConnect with
  | false => rfl
  | true =>
    cases runWithTimeout e.handshake with
    | false => rfl
    | true => simp [finishReader, finishConnected, History.add]

theorem finishTimer_eq (cfg : Config) (e : PassEnv) (s : WsState) (l : List Event) :
    finishTimer cfg e ⟨s.connected, s.lastRunTime, l⟩ =
      if (connectDue cfg e.gateTime s).1 then
        finishTcp cfg e ⟨s.connected, attemptStamp e.gateTime s,
          l ++ [.connectCall e.gateTime (s.lastRunTime != 0)]⟩
      else finishGate cfg e ⟨s.connected, s.lastRunTime, l⟩ := by
  have hconnect : (if s.lastRunTime == 0 then (true, s.lastRunTime)
      else isTime cfg.timeBetweenPackets e.gateTime s.lastRunTime) =
      connectDue cfg e.gateTime s := rfl
  simp only [finishTimer, hconnect]
  cases hdue : (connectDue cfg e.gateTime s).1 with
  | false => rw [connectDue_of_not_due hdue]; rfl
  | true => rw [connectDue_of_due hdue]; rfl

theorem finishCheck_eq (cfg : Config) (e : PassEnv) (s : WsState) (l : List Event) :
    finishCheck cfg e ⟨s.connected, s.lastRunTime, l⟩ =
      ((connectionBlock cfg e s).andThen (packetBlock cfg e)).history l := by
  have hcheck : finishCheck cfg e ⟨s.connected, s.lastRunTime, l⟩ =
      if attempts cfg e s then
        finishTcp cfg e ⟨s.connected, attemptStamp e.gateTime s,
          l ++ [.connectCall e.gateTime (s.lastRunTime != 0)]⟩
      else finishGate cfg e ⟨s.connected, s.lastRunTime, l⟩ := by
    rw [finishCheck, finishTimer_eq, attempts]
    cases !s.connected || !e.openAtCheck <;> rfl
  rw [hcheck, Block.history_andThen]
  cases hatt : attempts cfg e s with
  | false =>
    rw [connectionBlock_of_not_attempts hatt, if_neg Bool.false_ne_true,
      if_neg Bool.false_ne_true, List.append_nil]
    exact finishGate_eq cfg e { s with isOpen := e.openAtCheck } l
  | true =>
    rw [if_pos rfl, finishTcp_eq]
    cases hc : connects e with
    | false =>
      rw [connectionBlock_of_error hatt hc, if_neg Bool.false_ne_true, if_pos rfl, Block.history,
        attemptLog, List.append_assoc]
      rfl
    | true =>
      rw [connectionBlock_of_success hatt hc, if_pos rfl, if_neg Bool.false_ne_true,
        ← finishGate_eq, attemptLog, List.append_assoc, List.append_assoc]
      rfl

theorem Block.andThen_assoc (b : Block) (f g : WsState → Block) :
    (b.andThen f).andThen g = b.andThen fun s => (f s).andThen g := by
  rw [Block.andThen, Block.andThen, Block.andThen]
  cases hb : b.returned with
  | true => simp [hb]
  | false =>
    cases hf : (f b.ws).returned with
    | true => simp [hf, Block.andThen]
    | false => simp [hf, Block.andThen, List.append_assoc]

/-- The rest of a pass from the entry on is the pass. -/
theorem finish_testSlot (cfg : Config) (e : PassEnv) (d : Device) :
    Pc.testSlot.finish cfg e d.history = (d.pass cfg e).history := by
  have hpass : (d.pass cfg e).history = (wsManageWs cfg e d.ws).history d.log := rfl
  rw [hpass, wsManageWs, beforeGate, Block.andThen_assoc, Block.history_andThen,
    (extraPayloadBlock_spec e d.ws).1, if_neg Bool.false_ne_true]
  show finishTest cfg e d.history = _
  rw [← finishCheck_eq, finishTest, extraPayloadBlock]
  cases hsome : e.openAtTest && e.slotAtTest.isSome with
  | false =>
    simp only [Bool.false_eq_true, if_false, List.append_nil]
    rfl
  | true =>
    simp only [if_true]
    rfl

/-! ## One step -/

/-- The clock readings the rest of a pass will take. -/
def Pc.toCome (e : PassEnv) : Pc → List Int
  | .testSlot | .start .extra | .wait .extra _ | .clearSlot | .checkConnection | .checkTimer =>
    [e.gateTime, e.packetTime]
  | .tcpConnect | .start .handshake | .wait .handshake _ | .startReader | .setConnected
  | .packetGate => [e.packetTime]
  | .start .event | .wait .event _ | .start .main | .wait .main _ => []

/-- The readings to come are in order, and none is before now. -/
def Ahead (pc : Pc) (now : Int) (e : PassEnv) : Prop := (now :: pc.toCome e).Pairwise (· ≤ ·)

/-- The history when the current pass is over, if the rest of it finds the environment `e`. -/
def Sys.complete (cfg : Config) (e : PassEnv) (σ : Sys) : History := σ.pc.finish cfg e σ.history

/-- The pass goes on: whatever the rest of it will find after the step, there is something to be
found before the step that leads to the same history. -/
structure Continues (cfg : Config) (σ σ' : Sys) : Prop where
  boundary : σ'.pc = .testSlot → σ.pc = .testSlot ∧ σ'.history = σ.history
  current : ∀ e', Ahead σ'.pc σ'.clock e' → ∃ e, Ahead σ.pc σ.clock e ∧
    e.packetTime ≤ max σ'.clock e'.packetTime ∧ σ.complete cfg e = σ'.complete cfg e'

/-- The pass is over after the step. -/
structure Ends (cfg : Config) (σ σ' : Sys) : Prop where
  boundary : σ'.pc = .testSlot
  current : ∃ e, Ahead σ.pc σ.clock e ∧ e.packetTime ≤ σ'.clock ∧ σ.complete cfg e = σ'.history

theorem Ahead.mono {pc : Pc} {now now' : Int} {e : PassEnv} (h : Ahead pc now' e)
    (hle : now ≤ now') : Ahead pc now e :=
  List.pairwise_cons.2 ⟨fun t ht => hle.trans ((List.pairwise_cons.1 h).1 t ht),
    (List.pairwise_cons.1 h).2⟩

/-- A step of which the manager takes no notice. -/
theorem continues_of_eq {cfg : Config} {σ σ' : Sys} (hpc : σ'.pc = σ.pc)
    (hhist : σ'.history = σ.history) (hclock : σ.clock ≤ σ'.clock) : Continues cfg σ σ' where
  boundary h := ⟨hpc.symm.trans h, hhist⟩
  current e' h := by
    refine ⟨e', ?_, le_max_right _ _, ?_⟩
    · rw [← hpc]
      exact h.mono hclock
    · rw [Sys.complete, Sys.complete, hpc, hhist]

theorem history_emit_goto (σ : Sys) (ev : Event) (pc : Pc) :
    ((σ.emit ev).goto pc).history = σ.history.add ev := by
  simp [Sys.history, Sys.emit, Sys.goto, History.add, Obs.event?]

/-- A step that takes no reading, and fills in what it has learned. -/
theorem continues_of_fill {cfg : Config} {σ σ' : Sys} {pc : Pc} (fill : PassEnv → PassEnv)
    (hpc : σ.pc = pc) (hpc' : decide (σ'.pc = .testSlot) = false) (hclock : σ'.clock = σ.clock)
    (htoCome : ∀ e, pc.toCome (fill e) = σ'.pc.toCome e)
    (hlast : ∀ e, (fill e).packetTime = e.packetTime)
    (hcomplete : ∀ e, pc.finish cfg (fill e) σ.history = σ'.complete cfg e) :
    Continues cfg σ σ' where
  boundary h := absurd h (of_decide_eq_false hpc')
  current e he := by
    refine ⟨fill e, ?_, (hlast e).le.trans (le_max_right _ _), ?_⟩
    · rwa [Ahead, hpc, htoCome, ← hclock]
    · rw [Sys.complete, hpc]
      exact hcomplete e

/-- A step that takes the reading of the connection block, or goes past it. -/
theorem continues_of_gate {cfg : Config} {σ σ' : Sys} {pc : Pc} (fill : PassEnv → PassEnv)
    (hpc : σ.pc = pc) (hpc' : decide (σ'.pc = .testSlot) = false) (hclock : σ'.clock = σ.clock)
    (htoCome : ∀ e, pc.toCome (fill e) = [σ.clock, e.packetTime])
    (htoCome' : ∀ e, σ'.pc.toCome e = [e.packetTime])
    (hlast : ∀ e, (fill e).packetTime = e.packetTime)
    (hcomplete : ∀ e, pc.finish cfg (fill e) σ.history = σ'.complete cfg e) :
    Continues cfg σ σ' where
  boundary h := absurd h (of_decide_eq_false hpc')
  current e he := by
    refine ⟨fill e, ?_, (hlast e).le.trans (le_max_right _ _), ?_⟩
    · rw [Ahead, htoCome', hclock] at he
      rw [Ahead, hpc, htoCome]
      simpa using he
    · rw [Sys.complete, hpc]
      exact hcomplete e

theorem ahead_of_now (now : Int) {e : PassEnv} (hgate : e.gateTime = now)
    (hpacket : e.packetTime = now) (pc : Pc) : Ahead pc now e := by
  have hnow : ∀ t ∈ pc.toCome e, t = now := by
    rw [Pc.toCome.eq_def, hgate, hpacket]
    split <;> simp
  refine List.pairwise_cons.2 ⟨fun t ht => (hnow t ht).ge, ?_⟩
  exact List.pairwise_of_forall_mem_list fun t ht u hu => by rw [hnow t ht, hnow u hu]

/-- A step that ends the pass, in an environment whose readings are all taken now. -/
theorem ends_of_env {cfg : Config} {σ σ' : Sys} {pc : Pc} (e : PassEnv) (hpc : σ.pc = pc)
    (hpc' : σ'.pc = .testSlot) (hclock : σ'.clock = σ.clock) (hgate : e.gateTime = σ.clock)
    (hpacket : e.packetTime = σ.clock) (hcomplete : pc.finish cfg e σ.history = σ'.history) :
    Ends cfg σ σ' where
  boundary := hpc'
  current := by
    refine ⟨e, ahead_of_now σ.clock hgate hpacket σ.pc, by rw [hpacket, hclock], ?_⟩
    rw [Sys.complete, hpc]
    exact hcomplete

/-- The manager goes on after `run_with_timeout`. -/
theorem resume_pass {cfg : Config} {σ τ : Sys} {b : Body} {w : Nat} (res : BodyResult)
    (hpc : σ.pc = .wait b w) (hhist : τ.history = σ.history) (hclock : τ.clock = σ.clock) :
    Continues cfg σ (τ.resume b res) ∨ Ends cfg σ (τ.resume b res) := by
  have hnext : ∀ (ev : Event) (pc : Pc), ((τ.emit ev).goto pc).history = σ.history.add ev := by
    intro ev pc
    rw [history_emit_goto, hhist]
  cases b with
  | extra =>
    refine Or.inl (continues_of_fill (fun e => { e with extraWrite := res }) hpc rfl hclock
      (fun _ => rfl) (fun _ => rfl) fun e => ?_)
    show finishCheck cfg _ (σ.history.add (.extraWrite res)) = finishCheck cfg e (Sys.history _)
    rw [Sys.resume, hnext]
    rfl
  | event =>
    refine Or.inl (continues_of_fill (fun e => { e with eventWrite := res }) hpc rfl hclock
      (fun _ => rfl) (fun _ => rfl) fun e => ?_)
    show (σ.history.add (.eventWrite res)).add _ = (Sys.history _).add (.mainWrite e.mainWrite)
    rw [Sys.resume, hnext]
  | main =>
    exact Or.inr (ends_of_env { smoothPass σ.clock with mainWrite := res } hpc rfl hclock rfl rfl
      (hnext _ _).symm)
  | handshake =>
    rw [Sys.resume]
    cases hres : runWithTimeout res with
    | true =>
      refine Or.inl (continues_of_fill (fun e => { e with handshake := res }) hpc rfl hclock
        (fun _ => rfl) (fun _ => rfl) fun e => ?_)
      show finishHandshake cfg _ σ.history = finishReader cfg e (Sys.history _)
      rw [finishHandshake, hnext]
      exact if_pos hres
    | false =>
      refine Or.inr (ends_of_env { smoothPass σ.clock with handshake := res } hpc rfl hclock rfl rfl
        ?_)
      show finishHandshake cfg _ σ.history = Sys.history _
      rw [finishHandshake, hnext]
      exact if_neg (by simp [hres])

theorem checkConnection_pass {cfg : Config} {σ σ' : Sys} (hpc : σ.pc = .checkConnection)
    (h : σ.manage cfg = some σ') : Continues cfg σ σ' := by
  rw [Sys.manage, hpc] at h
  obtain rfl := Option.some.inj h
  cases hneed : !σ.ws.connected || !σ.ws.isOpen with
  | true =>
    exact continues_of_fill (fun e => { e with openAtCheck := σ.ws.isOpen }) hpc rfl rfl
      (fun _ => rfl) (fun _ => rfl) fun _ => if_pos hneed
  | false =>
    refine continues_of_gate (fun e => { e with openAtCheck := σ.ws.isOpen, gateTime := σ.clock })
      hpc rfl rfl (fun _ => rfl) (fun _ => rfl) (fun _ => rfl) fun e => ?_
    exact if_neg (Bool.eq_false_iff.1 hneed)

theorem checkTimer_pass {cfg : Config} {σ σ' : Sys} (hpc : σ.pc = .checkTimer)
    (h : σ.manage cfg = some σ') : Continues cfg σ σ' := by
  rw [Sys.manage, hpc] at h
  dsimp only at h
  cases hdue : (connectDue cfg σ.clock σ.ws).1 with
  | true =>
    rw [connectDue_of_due hdue] at h
    obtain rfl := Option.some.inj h
    refine continues_of_gate (fun e => { e with gateTime := σ.clock }) hpc rfl rfl
      (fun _ => rfl) (fun _ => rfl) (fun _ => rfl) fun e => ?_
    refine (finishTimer_eq cfg { e with gateTime := σ.clock } σ.ws σ.history.log).trans ?_
    rw [if_pos hdue]
    show _ = finishTcp cfg e (Sys.history (Sys.goto _ _))
    rw [history_emit_goto]
    rfl
  | false =>
    rw [connectDue_of_not_due hdue] at h
    obtain rfl := Option.some.inj h
    refine continues_of_gate (fun e => { e with gateTime := σ.clock }) hpc rfl rfl
      (fun _ => rfl) (fun _ => rfl) (fun _ => rfl) fun e => ?_
    refine (finishTimer_eq cfg { e with gateTime := σ.clock } σ.ws σ.history.log).trans ?_
    rw [if_neg (by simp [hdue])]
    rfl

theorem packetGate_pass {cfg : Config} {σ σ' : Sys} (hpc : σ.pc = .packetGate)
    (h : σ.manage cfg = some σ') : Continues cfg σ σ' ∨ Ends cfg σ σ' := by
  rw [Sys.manage, hpc] at h
  dsimp only at h
  cases hdue : (isTime cfg.timeBetweenPackets σ.clock σ.ws.lastRunTime).1 with
  | true =>
    rw [isTime_of_due hdue] at h
    obtain rfl := Option.some.inj h
    refine Or.inl ⟨fun hpc' => absurd hpc' (of_decide_eq_false rfl), fun e _ =>
      ⟨{ e with packetTime := σ.clock }, ?_, le_max_left _ _, ?_⟩⟩
    · rw [hpc]
      exact List.pairwise_pair.2 (Int.le_refl _)
    · rw [Sys.complete, hpc]
      refine (finishGate_of_due (e := { e with packetTime := σ.clock }) (h := σ.history)
        hdue).trans ?_
      show _ = Pc.finish cfg e (.start _) (Sys.history (Sys.goto _ _))
      rw [history_emit_goto, sends]
      cases cfg.sendEvents <;> simp [Pc.finish, History.add, Sys.history]
  | false =>
    rw [isTime_of_not_due hdue] at h
    obtain rfl := Option.some.inj h
    exact Or.inr (ends_of_env (smoothPass σ.clock) hpc rfl rfl rfl rfl
      (finishGate_of_not_due (e := smoothPass σ.clock) (h := σ.history) hdue))

theorem manage_pass {cfg : Config} {σ σ' : Sys} (h : σ.manage cfg = some σ') :
    Continues cfg σ σ' ∨ Ends cfg σ σ' := by
  cases hpc : σ.pc with
  | testSlot =>
    rw [Sys.manage, hpc] at h
    obtain rfl := Option.some.inj h
    refine Or.inl (continues_of_fill (fun e => { e with
      openAtTest := σ.ws.isOpen, slotAtTest := σ.ws.extraPayload }) hpc ?_ rfl (fun e => ?_)
      (fun _ => rfl) fun e => ?_)
    · show decide ((if _ then _ else _ : Pc) = _) = _
      split <;> rfl
    · show _ = Pc.toCome e (if _ then _ else _)
      split <;> rfl
    · show finishTest cfg _ _ = Pc.finish cfg e (if _ then _ else _) _
      rw [finishTest]
      split <;> rfl
  | start b =>
    rw [Sys.manage, hpc] at h
    obtain rfl := Option.some.inj h
    refine Or.inl (continues_of_fill id hpc rfl rfl (fun e => ?_) (fun _ => rfl) fun e => ?_)
    · cases b <;> rfl
    · cases b <;> rfl
  | wait b w =>
    rw [Sys.manage, hpc] at h
    cases hw : σ.workers[w]? with
    | none => simp [hw] at h
    | some worker =>
      simp only [hw, Option.ite_none_right_eq_some] at h
      obtain ⟨-, h⟩ := h
      split at h
      · obtain rfl := Option.some.inj h
        exact resume_pass _ hpc rfl rfl
      · obtain rfl := Option.some.inj h
        exact resume_pass _ hpc rfl rfl
  | clearSlot =>
    rw [Sys.manage, hpc] at h
    obtain rfl := Option.some.inj h
    exact Or.inl (continues_of_fill id hpc rfl rfl (fun _ => rfl) (fun _ => rfl) fun _ => rfl)
  | checkConnection => exact Or.inl (checkConnection_pass hpc h)
  | checkTimer => exact Or.inl (checkTimer_pass hpc h)
  | tcpConnect =>
    rw [Sys.manage, hpc] at h
    simp at h
  | startReader =>
    rw [Sys.manage, hpc] at h
    obtain rfl := Option.some.inj h
    refine Or.inl (continues_of_fill id hpc rfl rfl (fun _ => rfl) (fun _ => rfl) fun e => ?_)
    show _ = finishConnected cfg e (Sys.history _)
    rw [history_emit_goto]
    rfl
  | setConnected =>
    rw [Sys.manage, hpc] at h
    obtain rfl := Option.some.inj h
    refine Or.inl (continues_of_fill id hpc rfl rfl (fun _ => rfl) (fun _ => rfl) fun e => ?_)
    show _ = finishGate cfg e (Sys.history _)
    rw [history_emit_goto]
    rfl
  | packetGate => exact packetGate_pass hpc h

theorem giveUp_pass {cfg : Config} {σ σ' : Sys} (h : σ.giveUp = some σ') :
    Continues cfg σ σ' ∨ Ends cfg σ σ' := by
  rw [Sys.giveUp] at h
  cases hpc : σ.pc with
  | wait b w =>
    cases hw : σ.workers[w]? with
    | none => simp [hpc, hw] at h
    | some worker =>
      simp only [hpc, hw, Option.ite_none_right_eq_some] at h
      obtain rfl := Option.some.inj h.2
      exact resume_pass _ hpc rfl rfl
  | _ => simp [hpc] at h

theorem tcpConnects_pass {cfg : Config} {σ σ' : Sys} (h : σ.tcpConnects = some σ') :
    Continues cfg σ σ' := by
  rw [Sys.tcpConnects] at h
  cases hpc : σ.pc with
  | tcpConnect =>
    rw [hpc] at h
    obtain rfl := Option.some.inj h
    exact continues_of_fill (fun e => { e with tcpConnect := true }) hpc rfl rfl (fun _ => rfl)
      (fun _ => rfl) fun _ => rfl
  | _ => simp [hpc] at h

theorem tcpThrows_pass {cfg : Config} {σ σ' : Sys} (h : σ.tcpThrows = some σ') :
    Ends cfg σ σ' := by
  rw [Sys.tcpThrows] at h
  cases hpc : σ.pc with
  | tcpConnect =>
    rw [hpc] at h
    obtain rfl := Option.some.inj h
    refine ends_of_env { smoothPass σ.clock with tcpConnect := false } hpc rfl rfl rfl rfl ?_
    rw [history_emit_goto]
    rfl
  | _ => simp [hpc] at h

/-- The steps that are not the manager's. -/
def Action.isEnv : Action → Bool
  | .manage | .giveUp | .tcpConnects | .tcpThrows => false
  | _ => true

/-- The manager and what it works with are as they were. -/
def Sys.SameManager (σ σ' : Sys) : Prop := σ'.pc = σ.pc ∧ σ'.history = σ.history

/-- What the others log is not part of the history. -/
theorem sameManager_snoc {σ σ' : Sys} {o : Obs} (hpc : σ'.pc = σ.pc)
    (hconnected : σ'.ws.connected = σ.ws.connected)
    (hlast : σ'.ws.lastRunTime = σ.ws.lastRunTime) (hlog : σ'.log = σ.log ++ [o])
    (ho : o.event? = none) : σ.SameManager σ' := by
  refine ⟨hpc, ?_⟩
  rw [Sys.history, Sys.history, hconnected, hlast, hlog]
  simp [ho]

theorem enter_frame {cfg : Config} {σ σ' : Sys} {w : Nat} {flag : Bool}
    (h : σ.enter cfg w flag = some σ') : σ.SameManager σ' := by
  have hlookUp : ∀ worker request bad, σ.SameManager (σ.lookUp w worker request bad) := by
    intro worker request bad
    rw [Sys.lookUp]
    dsimp only
    split <;> exact ⟨rfl, rfl⟩
  rw [Sys.enter] at h
  split at h
  · rename_i worker hw
    rw [Option.ite_none_right_eq_some] at h
    obtain ⟨-, h⟩ := h
    split at h
    · obtain rfl := Option.some.inj h
      exact ⟨rfl, rfl⟩
    · rw [Option.ite_none_right_eq_some] at h
      obtain ⟨-, h⟩ := h
      split at h
      · obtain rfl := Option.some.inj h
        exact ⟨rfl, rfl⟩
      · obtain rfl := Option.some.inj h
        exact sameManager_snoc rfl rfl rfl rfl rfl
    · obtain rfl := Option.some.inj h
      exact hlookUp _ _ _
    · obtain rfl := Option.some.inj h
      exact hlookUp _ _ _
  · simp at h

theorem worker_frame {cfg : Config} {σ σ' : Sys} {a : Action} {w : Nat}
    (ha : a = .write w ∨ a = .fail w ∨ a = .finish w) (h : step cfg σ a = some σ') :
    σ.SameManager σ' := by
  rcases ha with rfl | rfl | rfl
  · replace h : σ.write w = some σ' := h
    rw [Sys.write] at h
    split at h
    · split at h
      · obtain rfl := Option.some.inj h
        exact sameManager_snoc rfl rfl rfl rfl rfl
      · simp at h
    · simp at h
  · replace h : σ.fail w = some σ' := h
    rw [Sys.fail] at h
    split at h
    · split at h
      · rw [Option.ite_none_right_eq_some] at h
        obtain rfl := Option.some.inj h.2
        exact ⟨rfl, rfl⟩
      · obtain rfl := Option.some.inj h
        exact ⟨rfl, rfl⟩
      · simp at h
    · simp at h
  · replace h : σ.finish w = some σ' := h
    rw [Sys.finish] at h
    split at h
    · split at h
      · obtain rfl := Option.some.inj h
        dsimp only
        split <;> exact ⟨rfl, rfl⟩
      · obtain rfl := Option.some.inj h
        exact ⟨rfl, rfl⟩
      · simp at h
    · simp at h

theorem writeFreed_frame {σ σ' : Sys} {w : Nat} {p : Payload} (h : σ.writeFreed w p = some σ') :
    σ.SameManager σ' := by
  rw [Sys.writeFreed] at h
  split at h
  · split at h
    · obtain rfl := Option.some.inj h
      exact sameManager_snoc rfl rfl rfl rfl rfl
    · simp at h
  · simp at h

theorem strayDone_frame {σ σ' : Sys} (h : σ.strayDone = some σ') : σ.SameManager σ' := by
  rw [Sys.strayDone, Option.ite_none_right_eq_some] at h
  obtain ⟨-, h⟩ := h
  dsimp only at h
  split at h
  · split at h
    · obtain rfl := Option.some.inj h
      exact ⟨rfl, rfl⟩
    · obtain rfl := Option.some.inj h
      exact ⟨rfl, rfl⟩
  · obtain rfl := Option.some.inj h
    exact ⟨rfl, rfl⟩

theorem env_frame {cfg : Config} {σ σ' : Sys} {a : Action} (ha : a.isEnv = true)
    (h : step cfg σ a = some σ') : σ.SameManager σ' := by
  have hreader : ∀ {c : Prop} [Decidable c] {τ : Sys},
      (if c then some τ else none) = some σ' → σ.SameManager τ → σ.SameManager σ' := by
    intro c _ τ h hτ
    rw [Option.ite_none_right_eq_some] at h
    exact Option.some.inj h.2 ▸ hτ
  cases a with
  | manage => exact absurd ha nofun
  | giveUp => exact absurd ha nofun
  | tcpConnects => exact absurd ha nofun
  | tcpThrows => exact absurd ha nofun
  | enter w flag => exact enter_frame h
  | write w => exact worker_frame (Or.inl rfl) h
  | writeFreed w p => exact writeFreed_frame h
  | fail w => exact worker_frame (Or.inr (Or.inl rfl)) h
  | finish w => exact worker_frame (Or.inr (Or.inr rfl)) h
  | poll r => exact hreader h ⟨rfl, rfl⟩
  | receive r text => exact hreader h ⟨rfl, rfl⟩
  | readThrows r bytes => exact hreader h ⟨rfl, rfl⟩
  | store r flag => exact hreader h (sameManager_snoc rfl rfl rfl rfl rfl)
  | clearBuffer r => exact hreader h ⟨rfl, rfl⟩
  | setOpen isOpen =>
    obtain rfl := Option.some.inj h
    exact ⟨rfl, rfl⟩
  | tick now =>
    rw [step, Option.ite_none_right_eq_some] at h
    obtain rfl := Option.some.inj h.2
    exact ⟨rfl, rfl⟩
  | otherDevice =>
    obtain rfl := Option.some.inj h
    exact ⟨rfl, rfl⟩
  | otherOrphan =>
    obtain rfl := Option.some.inj h
    exact ⟨rfl, rfl⟩
  | strayDone => exact strayDone_frame h
  | otherStray => exact hreader h ⟨rfl, rfl⟩

/-- **A step goes on with the pass or ends it.** -/
theorem step_pass {cfg : Config} {σ σ' : Sys} {a : Action} (h : step cfg σ a = some σ') :
    Continues cfg σ σ' ∨ Ends cfg σ σ' := by
  cases ha : a.isEnv with
  | true =>
    obtain ⟨hpc, hhist⟩ := env_frame ha h
    exact Or.inl (continues_of_eq hpc hhist (step_change h).clock_le)
  | false =>
    cases a with
    | manage => exact manage_pass h
    | giveUp => exact giveUp_pass h
    | tcpConnects => exact Or.inl (tcpConnects_pass h)
    | tcpThrows => exact Or.inr (tcpThrows_pass h)
    | _ => exact absurd ha nofun

/-! ## Whole runs -/

/-- The passes `es` account for the state `σ` of a run that began at `start`: they are the passes
that are over, and with any environment for the rest of the current pass there is one more. -/
structure Explained (cfg : Config) (deviceId : Text) (start : Int) (es : List PassEnv) (σ : Sys) :
    Prop where
  steady : (start :: readings es).Pairwise (· ≤ ·)
  past : ∀ t ∈ start :: readings es, t ≤ σ.clock
  boundary : σ.pc = .testSlot → σ.history = (runPasses cfg deviceId es).history
  current : ∀ e', Ahead σ.pc σ.clock e' → ∃ e,
    (start :: readings (es ++ [e])).Pairwise (· ≤ ·) ∧ e.packetTime ≤ max σ.clock e'.packetTime ∧
      σ.complete cfg e' = (runPasses cfg deviceId (es ++ [e])).history

theorem Explained.of_boundary {cfg : Config} {deviceId : Text} {start : Int} {es : List PassEnv}
    {σ : Sys} (hsteady : (start :: readings es).Pairwise (· ≤ ·))
    (hpast : ∀ t ∈ start :: readings es, t ≤ σ.clock) (hpc : σ.pc = .testSlot)
    (hhist : σ.history = (runPasses cfg deviceId es).history) :
    Explained cfg deviceId start es σ where
  steady := hsteady
  past := hpast
  boundary _ := hhist
  current e he := by
    rw [Ahead, hpc] at he
    obtain ⟨hnow, hpass⟩ := List.pairwise_cons.1 he
    refine ⟨e, ?_, le_max_right _ _, ?_⟩
    · rw [readings_concat, ← List.cons_append]
      refine List.pairwise_append.2 ⟨hsteady, hpass, fun t ht u hu => ?_⟩
      exact (hpast t ht).trans (hnow u hu)
    · rw [Sys.complete, hpc, hhist, finish_testSlot, runPasses_concat]

theorem Continues.explained {cfg : Config} {deviceId : Text} {start : Int} {es : List PassEnv}
    {σ σ' : Sys} (h : Continues cfg σ σ') (hclock : σ.clock ≤ σ'.clock)
    (hi : Explained cfg deviceId start es σ) : Explained cfg deviceId start es σ' where
  steady := hi.steady
  past t ht := (hi.past t ht).trans hclock
  boundary hpc := by
    obtain ⟨hpc', hhist⟩ := h.boundary hpc
    rw [hhist, hi.boundary hpc']
  current e' he' := by
    obtain ⟨e₁, he₁, hlast₁, hcomplete₁⟩ := h.current e' he'
    obtain ⟨e, hsteady, hlast, hcomplete⟩ := hi.current e₁ he₁
    exact ⟨e, hsteady, by omega, hcomplete₁.symm.trans hcomplete⟩

theorem Ends.explained {cfg : Config} {deviceId : Text} {start : Int} {es : List PassEnv}
    {σ σ' : Sys} (h : Ends cfg σ σ') (hclock : σ.clock ≤ σ'.clock)
    (hi : Explained cfg deviceId start es σ) : ∃ e, Explained cfg deviceId start (es ++ [e]) σ' := by
  obtain ⟨e₁, he₁, hlast₁, hcomplete₁⟩ := h.current
  obtain ⟨e, hsteady, hlast, hcomplete⟩ := hi.current e₁ he₁
  refine ⟨e, .of_boundary hsteady ?_ h.boundary (hcomplete₁.symm.trans hcomplete)⟩
  -- the pass that is over has taken all its readings, the last one at the packet gate
  have hpacket : e.packetTime ≤ σ'.clock := by omega
  rw [readings_concat, ← List.cons_append] at hsteady ⊢
  obtain ⟨-, hpass, hbefore⟩ := List.pairwise_append.1 hsteady
  intro t ht
  rcases List.mem_append.1 ht with ht | ht
  · exact (hbefore t ht e.packetTime (by simp)).trans hpacket
  · rcases List.mem_pair.1 ht with rfl | rfl
    · exact (List.pairwise_pair.1 hpass).trans hpacket
    · exact hpacket

theorem explained_step {cfg : Config} {deviceId : Text} {start : Int} {σ σ' : Sys} {a : Action}
    (h : step cfg σ a = some σ') (hi : ∃ es, Explained cfg deviceId start es σ) :
    ∃ es, Explained cfg deviceId start es σ' := by
  obtain ⟨es, hi⟩ := hi
  have hclock : σ.clock ≤ σ'.clock := (step_change h).clock_le
  rcases step_pass h with hgoes | hends
  · exact ⟨es, hgoes.explained hclock hi⟩
  · obtain ⟨e, he⟩ := hends.explained hclock hi
    exact ⟨es ++ [e], he⟩

theorem explained_init (cfg : Config) (deviceId : Text) (clock : Int) :
    Explained cfg deviceId clock [] (.init deviceId clock) := by
  refine .of_boundary (List.pairwise_singleton _ _) (fun t ht => ?_) rfl rfl
  rw [List.mem_singleton.1 ht]
  exact Int.le_refl _

theorem explained_run {cfg : Config} {deviceId : Text} {clock : Int} {as : List Action} {σ : Sys}
    (hrun : run (step cfg) (.init deviceId clock) as = some σ) :
    ∃ es, Explained cfg deviceId clock es σ :=
  run_preserves (I := fun σ => ∃ es, Explained cfg deviceId clock es σ)
    (fun _ _ _ hi h => explained_step h hi) ⟨[], explained_init cfg deviceId clock⟩ hrun

/-! The rest of a pass only adds to the history. -/

section

variable (cfg : Config) (e : PassEnv) (h : History)

theorem log_prefix_add (ev : Event) : h.log <+: (h.add ev).log := List.prefix_append _ _

theorem log_prefix_finishGate : h.log <+: (finishGate cfg e h).log := List.prefix_append _ _

theorem log_prefix_finishConnected : h.log <+: (finishConnected cfg e h).log :=
  (log_prefix_add h _).trans (log_prefix_finishGate cfg e _)

theorem log_prefix_finishReader : h.log <+: (finishReader cfg e h).log :=
  (log_prefix_add h _).trans (log_prefix_finishConnected cfg e _)

theorem log_prefix_finishHandshake : h.log <+: (finishHandshake cfg e h).log := by
  rw [finishHandshake]
  split
  · exact (log_prefix_add h _).trans (log_prefix_finishReader cfg e _)
  · exact log_prefix_add h _

theorem log_prefix_finishTcp : h.log <+: (finishTcp cfg e h).log := by
  rw [finishTcp]
  split
  · exact log_prefix_finishHandshake cfg e h
  · exact log_prefix_add h _

theorem log_prefix_finishTimer : h.log <+: (finishTimer cfg e h).log := by
  cases hdue : (if h.lastRunTime == 0 then (true, h.lastRunTime)
      else isTime cfg.timeBetweenPackets e.gateTime h.lastRunTime) with
  | mk due last =>
    simp only [finishTimer, hdue]
    split
    · exact (log_prefix_add { h with lastRunTime := last } _).trans (log_prefix_finishTcp cfg e _)
    · exact log_prefix_finishGate cfg e { h with lastRunTime := last }

theorem log_prefix_finishCheck : h.log <+: (finishCheck cfg e h).log := by
  rw [finishCheck]
  split
  · exact log_prefix_finishTimer cfg e h
  · exact log_prefix_finishGate cfg e h

theorem log_prefix_finishExtra : h.log <+: (finishExtra cfg e h).log :=
  (log_prefix_add h _).trans (log_prefix_finishCheck cfg e _)

theorem log_prefix_finishTest : h.log <+: (finishTest cfg e h).log := by
  rw [finishTest]
  split
  · exact log_prefix_finishExtra cfg e h
  · exact log_prefix_finishCheck cfg e h

theorem log_prefix_finish (pc : Pc) : h.log <+: (pc.finish cfg e h).log := by
  have hwrites : h.log <+: ((h.add (.eventWrite e.eventWrite)).add (.mainWrite e.mainWrite)).log :=
    (log_prefix_add h _).trans (log_prefix_add _ _)
  cases pc with
  | testSlot => exact log_prefix_finishTest cfg e h
  | start b | wait b _ =>
    cases b with
    | handshake => exact log_prefix_finishHandshake cfg e h
    | extra => exact log_prefix_finishExtra cfg e h
    | event => exact hwrites
    | main => exact log_prefix_add h _
  | clearSlot | checkConnection => exact log_prefix_finishCheck cfg e h
  | checkTimer => exact log_prefix_finishTimer cfg e h
  | tcpConnect => exact log_prefix_finishTcp cfg e h
  | startReader => exact log_prefix_finishReader cfg e h
  | setConnected => exact log_prefix_finishConnected cfg e h
  | packetGate => exact log_prefix_finishGate cfg e h

end

/-- The current pass, as far as it has come, is the beginning of one more pass. -/
theorem Explained.begun {cfg : Config} {deviceId : Text} {start : Int} {es : List PassEnv} {σ : Sys}
    (hi : Explained cfg deviceId start es σ) :
    ∃ e, (start :: readings (es ++ [e])).Pairwise (· ≤ ·) ∧
      σ.history.log <+: (runPasses cfg deviceId (es ++ [e])).log := by
  obtain ⟨e, hsteady, -, hcomplete⟩ := hi.current (smoothPass σ.clock)
    (ahead_of_now σ.clock rfl rfl σ.pc)
  refine ⟨e, hsteady, ?_⟩
  have hlog : (runPasses cfg deviceId (es ++ [e])).log =
      (σ.complete cfg (smoothPass σ.clock)).log := congrArg History.log hcomplete.symm
  rw [hlog]
  exact log_prefix_finish cfg _ σ.history σ.pc

/-- **The system refines the passes.**  What the manager has done in a run of the system is the
beginning of what it does in a run of passes whose clock readings are in order and begin with the
run; and whenever it is between two passes, the history is that of a run of passes. -/
theorem refines_passes (cfg : Config) (deviceId : Text) (clock : Int) (as : List Action) (σ : Sys)
    (hrun : run (step cfg) (.init deviceId clock) as = some σ) :
    (∃ es, (clock :: readings es).Pairwise (· ≤ ·) ∧
      σ.history.log <+: (runPasses cfg deviceId es).log) ∧
    (σ.pc = .testSlot → ∃ es, (clock :: readings es).Pairwise (· ≤ ·) ∧
      σ.history = (runPasses cfg deviceId es).history) := by
  obtain ⟨es, hi⟩ := explained_run hrun
  obtain ⟨e, hsteady, hbegin⟩ := hi.begun
  exact ⟨⟨es ++ [e], hsteady, hbegin⟩, fun hpc => ⟨es, hi.steady, hi.boundary hpc⟩⟩

/-- **Main payloads are never sent too often**, however the threads are interleaved. -/
theorem mainPayloads_spaced_system (cfg : Config) (deviceId : Text) (clock : Int)
    (hpos : 0 < clock) (as : List Action) (σ : Sys)
    (hrun : run (step cfg) (.init deviceId clock) as = some σ) :
    Spaced cfg.timeBetweenPackets (sendTimes (σ.log.filterMap Obs.event?)) := by
  obtain ⟨⟨es, hsteady, hbegin⟩, -⟩ := refines_passes cfg deviceId clock as σ hrun
  obtain ⟨hstart, hclock⟩ := List.pairwise_cons.1 hsteady
  have hspaced := sendTimes_spaced cfg deviceId es hclock fun t ht => hpos.le.trans (hstart t ht)
  exact hspaced.prefix (hbegin.filterMap Event.sendTime?)

end WsTestClient
