import WsTestClient.Transition
import WsTestClient.Util

/-!
# One pass of the manager over a device

`wsManageWs` is `ws_manage_ws` of `main.cpp`: one visit of the managing thread to one device.  It
is written as the sequence of its three blocks, each of which may return early from the function:

* `extraPayloadBlock` sends the reply a reader left in `extra_payload` and empties the slot;
* `connectionBlock` decides whether to call `ws_connect`, and calls it;
* `packetBlock` is the packet gate and, behind it, the event and main payload writes.

Everything the code asks of the outside during a pass is collected in a `PassEnv`: the readings of
the steady clock, what `is_open()` answers, what a reader has left in the slot, and how the
connection attempt and the four bodies handed to `run_with_timeout` fare.  What the pass does in
return is its `log`.  Creating a thread is taken to succeed.

`runPasses` strings passes together from the state `main` builds, so `(runPasses cfg id es).log` is
the history of a device over the passes `es`.  What a pass does is decided by three questions — is
a connection attempted (`attempts`), does it report success (`connects`), and does the packet gate
let the pass through (`passesGate`) — and `wsManageWs_log`, `wsManageWs_connected`,
`wsManageWs_isOpen` and `wsManageWs_lastRunTime` say what the answers amount to.  The rest of the
development uses these and never unfolds the code again.
-/

set_option autoImplicit false

namespace WsTestClient

/-- The command line parameters the manager works with. -/
structure Config where
  timeBetweenPackets : Int
  timeReconnect : Int
  sendBadPayloads : Bool
  sendEvents : Bool

/-- What the outside does during one pass. -/
structure PassEnv where
  /-- `is_open()` at the test of the extra payload. -/
  openAtTest : Bool
  /-- What the readers have left in `extra_payload` by then. -/
  slotAtTest : Option Reply
  extraWrite : BodyResult
  /-- `is_open()` at the connection check. -/
  openAtCheck : Bool
  /-- The clock at the connection block: the reading of its `is_time`, if that is evaluated, and
  the time at which `ws_connect` is called. -/
  gateTime : Int
  /-- `net::connect` returns; otherwise it throws. -/
  tcpConnect : Bool
  handshake : BodyResult
  /-- `is_open()` after a `ws_connect` that reported success. -/
  openAfterConnect : Bool
  /-- The reading of the `is_time` behind the connection block. -/
  packetTime : Int
  eventWrite : BodyResult
  mainWrite : BodyResult

/-- What a pass does, as far as anyone outside the manager can tell. -/
inductive Event
  | extraWrite (res : BodyResult)
  /-- `ws_connect` is called at `now`; `byTimer` tells whether `is_time` let it through, rather
  than a `last_run_time` that is still the default. -/
  | connectCall (now : Int) (byTimer : Bool)
  | tcpThrew
  | handshake (res : BodyResult)
  /-- `ws_async_read` detaches a new reader thread. -/
  | readerStarted
  /-- `ws_state.connected = true`. -/
  | connected
  /-- The packet gate lets the pass through at the reading `now`. -/
  | packetGate (now : Int)
  | eventWrite (res : BodyResult)
  | mainWrite (res : BodyResult)
  deriving DecidableEq

/-- The state a block leaves behind, what it did, and whether it returned from the function. -/
structure Block where
  ws : WsState
  log : List Event
  returned : Bool

/-- The next block runs unless this one returned. -/
def Block.andThen (b : Block) (next : WsState → Block) : Block :=
  if b.returned then b else { next b.ws with log := b.log ++ (next b.ws).log }

/-! ## The code -/

/-- `is_time`: its answer, and what it leaves in `last_run_time`. -/
def isTime (time : Int) (now lastRunTime : Int) : Bool × Int :=
  let elapsed := durationCastSeconds (now - lastRunTime)
  if elapsed < time then (false, lastRunTime) else (true, now)

/-- `ws_connect`.  The handshake is run by `run_with_timeout`, which reports an exception of its
body as completion; the `catch` around the call never sees it. -/
def wsConnect (e : PassEnv) : WsConnRes × List Event :=
  if !e.tcpConnect then
    ({ error := true }, [.tcpThrew])
  else
    let done := runWithTimeout e.handshake
    if !done then
      ({ error := true }, [.handshake e.handshake])
    else
      ({ error := false }, [.handshake e.handshake, .readerStarted])

/-- The block that sends a waiting reply.  The slot is emptied whatever became of the write. -/
def extraPayloadBlock (e : PassEnv) (s : WsState) : Block :=
  let s := { s with isOpen := e.openAtTest, extraPayload := e.slotAtTest }
  if s.isOpen && s.extraPayload.isSome then
    ⟨{ s with extraPayload := none }, [.extraWrite e.extraWrite], false⟩
  else
    ⟨s, [], false⟩

/-- The condition under which the connection block calls `ws_connect`, and what it leaves in
`last_run_time`: a default `last_run_time` short-circuits `is_time`. -/
def connectDue (cfg : Config) (now : Int) (s : WsState) : Bool × Int :=
  if s.lastRunTime == 0 then (true, s.lastRunTime)
  else isTime cfg.timeBetweenPackets now s.lastRunTime

/-- The block that connects a device that is not connected or whose stream has closed. -/
def connectionBlock (cfg : Config) (e : PassEnv) (s : WsState) : Block :=
  let s := { s with isOpen := e.openAtCheck }
  if !s.connected || !s.isOpen then
    let (due, last) := connectDue cfg e.gateTime s
    let call := Event.connectCall e.gateTime (s.lastRunTime != 0)
    let s := { s with lastRunTime := last }
    if due then
      let (connRes, log) := wsConnect e
      if connRes.error then
        ⟨s, call :: log, true⟩
      else
        ⟨{ s with connected := true, isOpen := e.openAfterConnect },
          call :: log ++ [.connected], false⟩
    else
      ⟨s, [], false⟩
  else
    ⟨s, [], false⟩

/-- What happens behind the packet gate. -/
def sends (cfg : Config) (e : PassEnv) : List Event :=
  .packetGate e.packetTime :: (if cfg.sendEvents then [.eventWrite e.eventWrite] else []) ++
    [.mainWrite e.mainWrite]

/-- The packet gate and the writes behind it. -/
def packetBlock (cfg : Config) (e : PassEnv) (s : WsState) : Block :=
  let (due, last) := isTime cfg.timeBetweenPackets e.packetTime s.lastRunTime
  let s := { s with lastRunTime := last }
  if !due then ⟨s, [], true⟩ else ⟨s, sends cfg e, false⟩

/-- The pass up to the packet gate. -/
def beforeGate (cfg : Config) (e : PassEnv) (s : WsState) : Block :=
  (extraPayloadBlock e s).andThen (connectionBlock cfg e)

/-- `ws_manage_ws`. -/
def wsManageWs (cfg : Config) (e : PassEnv) (s : WsState) : Block :=
  (beforeGate cfg e s).andThen (packetBlock cfg e)

/-! ## Runs of passes -/

/-- A device and its history. -/
structure Device where
  ws : WsState
  log : List Event

/-- The device `main` creates for a line of the ids file. -/
def Device.init (deviceId : Text) : Device := ⟨.init deviceId, []⟩

/-- One pass, recorded in the history. -/
def Device.pass (cfg : Config) (d : Device) (e : PassEnv) : Device :=
  ⟨(wsManageWs cfg e d.ws).ws, d.log ++ (wsManageWs cfg e d.ws).log⟩

/-- The passes as a step function; a pass is always possible. -/
def passStep (cfg : Config) (d : Device) (e : PassEnv) : Option Device := some (d.pass cfg e)

/-- The device after the passes `es`. -/
def runPasses (cfg : Config) (deviceId : Text) (es : List PassEnv) : Device :=
  es.foldl (Device.pass cfg) (.init deviceId)

theorem run_passStep (cfg : Config) (deviceId : Text) (es : List PassEnv) :
    Transition.run (passStep cfg) (.init deviceId) es = some (runPasses cfg deviceId es) :=
  Transition.run_total _ _ _

theorem runPasses_concat (cfg : Config) (deviceId : Text) (es : List PassEnv) (e : PassEnv) :
    runPasses cfg deviceId (es ++ [e]) = (runPasses cfg deviceId es).pass cfg e := by
  rw [runPasses, List.foldl_append]; rfl

/-! ## What a pass can do -/

/-- The pass calls `ws_connect`. -/
def attempts (cfg : Config) (e : PassEnv) (s : WsState) : Bool :=
  (!s.connected || !e.openAtCheck) && (connectDue cfg e.gateTime s).1

/-- `ws_connect` reports success. -/
def connects (e : PassEnv) : Bool := e.tcpConnect && runWithTimeout e.handshake

/-- What a connection attempt at the reading `now` leaves in `last_run_time`: only the timer stamps
it. -/
def attemptStamp (now : Int) (s : WsState) : Int :=
  if s.lastRunTime = 0 then 0 else now

/-- What a connection attempt does up to the return of `ws_connect`. -/
def attemptLog (e : PassEnv) (s : WsState) : List Event :=
  .connectCall e.gateTime (s.lastRunTime != 0) :: (wsConnect e).2

theorem isTime_of_due {time : Int} {now last : Int} (h : (isTime time now last).1 = true) :
    isTime time now last = (true, now) := by
  rw [isTime] at h ⊢
  split
  · rename_i hlt; simp [hlt] at h
  · rfl

theorem isTime_of_not_due {time : Int} {now last : Int}
    (h : (isTime time now last).1 = false) : isTime time now last = (false, last) := by
  rw [isTime] at h ⊢
  split
  · rfl
  · rename_i hlt; simp [hlt] at h

/-- The timer is due exactly when the whole interval has passed. -/
theorem isTime_iff {time : Int} {now last : Int} (h : last ≤ now) :
    (isTime time now last).1 = true ↔ last + seconds time ≤ now := by
  have hd : time ≤ durationCastSeconds (now - last) ↔ seconds time ≤ now - last :=
    le_durationCastSeconds (by omega)
  have hle : (isTime time now last).1 = true ↔ time ≤ durationCastSeconds (now - last) := by
    simp only [isTime]; split <;> simp <;> omega
  rw [hle, hd]
  omega

theorem wsConnect_error (e : PassEnv) : (wsConnect e).1.error = !connects e := by
  rw [wsConnect, connects]
  cases e.tcpConnect <;> cases runWithTimeout e.handshake <;> rfl

/-- The first block touches neither the connection nor the timer, and never returns. -/
theorem extraPayloadBlock_spec (e : PassEnv) (s : WsState) :
    (extraPayloadBlock e s).returned = false ∧
      (extraPayloadBlock e s).ws.connected = s.connected ∧
      (extraPayloadBlock e s).ws.lastRunTime = s.lastRunTime ∧
      ∀ ev ∈ (extraPayloadBlock e s).log, ev = .extraWrite e.extraWrite := by
  simp only [extraPayloadBlock]
  split <;> simp

theorem connectDue_of_due {cfg : Config} {now : Int} {s : WsState}
    (h : (connectDue cfg now s).1 = true) : connectDue cfg now s = (true, attemptStamp now s) := by
  rw [connectDue, attemptStamp] at *
  by_cases h0 : s.lastRunTime = 0
  · simp [h0]
  · simp only [beq_iff_eq, if_neg h0] at h ⊢
    exact isTime_of_due h

theorem connectDue_of_not_due {cfg : Config} {now : Int} {s : WsState}
    (h : (connectDue cfg now s).1 = false) : connectDue cfg now s = (false, s.lastRunTime) := by
  rw [connectDue] at *
  by_cases h0 : s.lastRunTime = 0
  · simp [h0] at h
  · simp only [beq_iff_eq, if_neg h0] at h ⊢
    exact isTime_of_not_due h

/-- A stamped device asks the timer. -/
theorem connectDue_of_stamped (cfg : Config) (now : Int) {s : WsState} (h0 : s.lastRunTime ≠ 0) :
    connectDue cfg now s = isTime cfg.timeBetweenPackets now s.lastRunTime := by
  rw [connectDue, if_neg (by simpa using h0)]

theorem connectionBlock_of_not_attempts {cfg : Config} {e : PassEnv} {s : WsState}
    (h : attempts cfg e s = false) :
    connectionBlock cfg e s = ⟨{ s with isOpen := e.openAtCheck }, [], false⟩ := by
  rw [attempts, Bool.and_eq_false_iff] at h
  rw [connectionBlock]
  by_cases hneed : (!s.connected || !e.openAtCheck) = true
  · have hdue := connectDue_of_not_due (h.resolve_left (by simp [hneed]))
    simp only [hneed, if_true]
    rw [show connectDue cfg e.gateTime { s with isOpen := e.openAtCheck } =
      connectDue cfg e.gateTime s from rfl,
      hdue]
    rfl
  · simp only [if_neg hneed]

theorem connectionBlock_of_error {cfg : Config} {e : PassEnv} {s : WsState}
    (h : attempts cfg e s = true) (hc : connects e = false) :
    connectionBlock cfg e s =
      ⟨{ s with isOpen := e.openAtCheck, lastRunTime := attemptStamp e.gateTime s }, attemptLog e s,
        true⟩ := by
  rw [attempts, Bool.and_eq_true] at h
  simp only [connectionBlock, h.1, if_true]
  rw [show connectDue cfg e.gateTime { s with isOpen := e.openAtCheck } =
      connectDue cfg e.gateTime s from rfl,
    connectDue_of_due h.2]
  simp only [if_true, wsConnect_error, hc]
  rfl

theorem connectionBlock_of_success {cfg : Config} {e : PassEnv} {s : WsState}
    (h : attempts cfg e s = true) (hc : connects e = true) :
    connectionBlock cfg e s =
      ⟨{ s with isOpen := e.openAfterConnect, connected := true,
                lastRunTime := attemptStamp e.gateTime s }, attemptLog e s ++ [.connected], false⟩ := by
  rw [attempts, Bool.and_eq_true] at h
  simp only [connectionBlock, h.1, if_true]
  rw [show connectDue cfg e.gateTime { s with isOpen := e.openAtCheck } =
      connectDue cfg e.gateTime s from rfl,
    connectDue_of_due h.2]
  simp only [if_true, wsConnect_error, hc]
  rfl

/-- What the connection block does. -/
def connectionLog (cfg : Config) (e : PassEnv) (s : WsState) : List Event :=
  if attempts cfg e s then attemptLog e s ++ (if connects e then [.connected] else []) else []

/-- `last_run_time` as the packet gate finds it. -/
def gateStamp (cfg : Config) (e : PassEnv) (s : WsState) : Int :=
  if attempts cfg e s then attemptStamp e.gateTime s else s.lastRunTime

/-- The connection block goes on to the packet gate. -/
def reachesGate (cfg : Config) (e : PassEnv) (s : WsState) : Bool :=
  !attempts cfg e s || connects e

/-- The packet gate is reached and lets the pass through. -/
def passesGate (cfg : Config) (e : PassEnv) (s : WsState) : Bool :=
  reachesGate cfg e s && (isTime cfg.timeBetweenPackets e.packetTime (gateStamp cfg e s)).1

theorem attempts_congr {cfg : Config} {e : PassEnv} {s s' : WsState}
    (hc : s.connected = s'.connected) (hl : s.lastRunTime = s'.lastRunTime) :
    attempts cfg e s = attempts cfg e s' := by
  rw [attempts, attempts, connectDue, connectDue, hc, hl]

/-- The pass up to the packet gate, read off its entry state. -/
theorem beforeGate_spec (cfg : Config) (e : PassEnv) (s : WsState) :
    (beforeGate cfg e s).returned = !reachesGate cfg e s ∧
      (beforeGate cfg e s).ws.connected = (s.connected || attempts cfg e s && connects e) ∧
      (beforeGate cfg e s).ws.isOpen =
        (if attempts cfg e s && connects e then e.openAfterConnect else e.openAtCheck) ∧
      (beforeGate cfg e s).ws.lastRunTime = gateStamp cfg e s ∧
      (beforeGate cfg e s).log = (extraPayloadBlock e s).log ++ connectionLog cfg e s := by
  obtain ⟨hret, hconn, hlast, -⟩ := extraPayloadBlock_spec e s
  have ha : attempts cfg e (extraPayloadBlock e s).ws = attempts cfg e s :=
    attempts_congr hconn hlast
  have hlog : attemptLog e (extraPayloadBlock e s).ws = attemptLog e s := by
    rw [attemptLog, attemptLog, hlast]
  have hstamp : attemptStamp e.gateTime (extraPayloadBlock e s).ws = attemptStamp e.gateTime s := by
    rw [attemptStamp, attemptStamp, hlast]
  rw [beforeGate, Block.andThen, hret, reachesGate, gateStamp, connectionLog]
  cases hatt : attempts cfg e s with
  | false =>
    rw [connectionBlock_of_not_attempts (ha.trans hatt)]
    simp [hconn, hlast]
  | true =>
    cases hc : connects e with
    | false =>
      rw [connectionBlock_of_error (ha.trans hatt) hc]
      simp [hconn, hlog, hstamp]
    | true =>
      rw [connectionBlock_of_success (ha.trans hatt) hc]
      simp [hlog, hstamp]

theorem packetBlock_spec (cfg : Config) (e : PassEnv) (s : WsState) :
    (packetBlock cfg e s).ws.connected = s.connected ∧
      (packetBlock cfg e s).ws.isOpen = s.isOpen ∧
      (packetBlock cfg e s).ws.lastRunTime =
        (if (isTime cfg.timeBetweenPackets e.packetTime s.lastRunTime).1 then e.packetTime
          else s.lastRunTime) ∧
      (packetBlock cfg e s).log =
        (if (isTime cfg.timeBetweenPackets e.packetTime s.lastRunTime).1 then sends cfg e
          else []) := by
  rw [packetBlock]
  cases hdue : (isTime cfg.timeBetweenPackets e.packetTime s.lastRunTime).1 with
  | false => rw [isTime_of_not_due hdue]; simp
  | true => rw [isTime_of_due hdue]; simp

/-- **What a pass does**: it sends the waiting reply, attempts to connect, and sends its packets,
each part or not. -/
theorem wsManageWs_log (cfg : Config) (e : PassEnv) (s : WsState) :
    (wsManageWs cfg e s).log =
      (extraPayloadBlock e s).log ++ connectionLog cfg e s ++
        (if passesGate cfg e s then sends cfg e else []) := by
  obtain ⟨hret, -, -, hlast, hlog⟩ := beforeGate_spec cfg e s
  rw [wsManageWs, Block.andThen, hret, passesGate]
  cases reachesGate cfg e s with
  | false => simp [hlog]
  | true => simp [hlog, hlast, (packetBlock_spec cfg e (beforeGate cfg e s).ws).2.2.2]

theorem wsManageWs_connected (cfg : Config) (e : PassEnv) (s : WsState) :
    (wsManageWs cfg e s).ws.connected = (s.connected || attempts cfg e s && connects e) := by
  obtain ⟨hret, hconn, -⟩ := beforeGate_spec cfg e s
  rw [wsManageWs, Block.andThen, hret]
  cases reachesGate cfg e s with
  | false => simpa using hconn
  | true => simpa [(packetBlock_spec cfg e (beforeGate cfg e s).ws).1] using hconn

theorem wsManageWs_isOpen (cfg : Config) (e : PassEnv) (s : WsState) :
    (wsManageWs cfg e s).ws.isOpen =
      (if attempts cfg e s && connects e then e.openAfterConnect else e.openAtCheck) := by
  obtain ⟨hret, -, hopen, -⟩ := beforeGate_spec cfg e s
  rw [wsManageWs, Block.andThen, hret]
  cases reachesGate cfg e s with
  | false => simpa using hopen
  | true => simpa [(packetBlock_spec cfg e (beforeGate cfg e s).ws).2.1] using hopen

theorem wsManageWs_lastRunTime (cfg : Config) (e : PassEnv) (s : WsState) :
    (wsManageWs cfg e s).ws.lastRunTime =
      (if passesGate cfg e s then e.packetTime else gateStamp cfg e s) := by
  obtain ⟨hret, -, -, hlast, -⟩ := beforeGate_spec cfg e s
  rw [wsManageWs, Block.andThen, hret, passesGate]
  cases reachesGate cfg e s with
  | false => simp [hlast]
  | true => simp [hlast, (packetBlock_spec cfg e (beforeGate cfg e s).ws).2.2.1]

end WsTestClient
