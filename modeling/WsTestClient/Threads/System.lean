import WsTestClient.Manage.Pass

/-!
# The threads of one device

`WsTestClient.Manage.Pass` treats a pass of the manager as one step.  Here the same code is run in
small steps, interleaved with everything else that touches the device:

* the **manager**, whose control points are `Pc`, and which visits the device over and over;
* the **workers** that `run_with_timeout` detaches, one for each body it is handed.  The manager
  waits until `done` is set or gives up at the deadline; a worker that was left running goes on, as
  an orphan;
* the **readers** that `ws_async_read` detaches, which share one buffer;
* the **environment**: the clock, the stream opening and closing, and the other devices, which
  share the counter of `ws_get_payload`, and some of them the thread of the manager.

`step` is the step function, for `Transition.run`.  Its labels, `Action`, say whose turn it is and
settle what is not in the hands of the code.  Critical sections are explicit: the worker that sends
a reply holds the mutex from the moment it reads the slot until it ends, and a reader stores only
while the mutex is free.  The manager tests and clears the slot without it, as in the source.

Three references of the source outlive what they refer to, and each is part of the model.

* `wrapper` refers to the `done` of its call.  An orphan that ends writes to a place on the stack of
  the manager's thread where the `done` of a later call may be: such a write is a *stray* one, and
  may end the call under way at that moment, `strayDone`.  The later call may be one for another
  device of the thread (`otherOrphan`, `otherStray`).  What else a stray write may hit is left out.
* The worker that sends a reply iterates over the slot itself.  When the manager clears the slot
  before the worker is through, the worker is left `dangling`, and sends what it finds there.
* The bodies of the writes, and the readers, refer to a parameter `send_bad_payloads` by its place on
  the stack.  A reader reads it after `ws_async_read` has returned, and an orphan may do so after
  `ws_manage_ws` has: what they find there is part of the label of the step.

The `log` is what an observer sees.  It tells apart the replies to different messages, which the
program does not; nothing in `step` reads it.
-/

set_option autoImplicit false

namespace WsTestClient

/-! ## The states of the threads -/

/-- The four bodies handed to `run_with_timeout`. -/
inductive Body
  | handshake
  | extra
  | event
  | main
  deriving DecidableEq

/-- The timeout each body is given: eight seconds for a handshake, five for a write. -/
def Body.timeout : Body → Int
  | .handshake => seconds 8
  | .extra => seconds 5
  | .event => seconds 5
  | .main => seconds 5

/-- Where a worker is in its body. -/
inductive WorkerPc
  /-- The thread exists, the body has not begun. -/
  | created
  /-- The body is under way, with `rest` still to be written; `msg` is the message these payloads
  answer, if they are a reply. -/
  | running (msg : Option Nat) (rest : List Payload)
  /-- The body is under way, but the payloads it iterates over are gone; `left` were still to be
  written. -/
  | dangling (left : Nat)
  /-- The body has ended. -/
  | finished (threw : Bool)
  deriving DecidableEq

/-- The body has ended. -/
def WorkerPc.isOver : WorkerPc → Bool
  | .finished _ => true
  | _ => false

/-- The body is under way. -/
def WorkerPc.isActive : WorkerPc → Bool
  | .running _ _ => true
  | .dangling _ => true
  | _ => false

/-- There are payloads still to be written. -/
def WorkerPc.isWriting : WorkerPc → Bool
  | .running _ (_ :: _) => true
  | _ => false

/-- What becomes of a worker when the payloads it iterates over are destroyed.  One that has written
the last of them does not look at them any more. -/
def WorkerPc.dangle : WorkerPc → WorkerPc
  | .running _ (p :: rest) => .dangling (p :: rest).length
  | pc => pc

/-- A call of `run_with_timeout` and the thread it started. -/
structure Worker where
  body : Body
  pc : WorkerPc
  /-- When the call gives up. -/
  deadline : Int
  /-- The `done` of the call, up to its return. -/
  done : Bool
  /-- The call has returned before the body had ended. -/
  abandoned : Bool
  deriving DecidableEq

/-- The worker after its body has ended: the wrapper sets the `done` of the call, unless that has
returned. -/
def Worker.over (worker : Worker) (threw : Bool) : Worker :=
  { worker with pc := .finished threw, done := worker.done || !worker.abandoned }

/-- What the body of the worker finds in place of `send_bad_payloads`. -/
def Worker.sendBadPayloads (worker : Worker) (cfg : Config) (flag : Bool) : Bool :=
  if worker.abandoned then flag else cfg.sendBadPayloads

/-- The workers after the payloads that the one inside the critical section iterates over, if there
is one, have been destroyed. -/
def bereave (workers : List Worker) : Option Nat → List Worker
  | none => workers
  | some w => workers.modify w fun worker => { worker with pc := worker.pc.dangle }

/-- Where the manager is in `ws_manage_ws`. -/
inductive Pc
  /-- At the test of the extra payload, the entry of the function. -/
  | testSlot
  /-- About to call `run_with_timeout` on a body. -/
  | start (b : Body)
  /-- In the polling loop of `run_with_timeout`, for worker number `w`. -/
  | wait (b : Body) (w : Nat)
  /-- About to set `extra_payload` to `nullopt`. -/
  | clearSlot
  | checkConnection
  | checkTimer
  | tcpConnect
  | startReader
  | setConnected
  | packetGate
  deriving DecidableEq

/-- Where a reader is in its loop. -/
inductive ReaderPc
  /-- At the test of `is_open()`. -/
  | polling
  /-- Blocked in `read`. -/
  | reading
  /-- About to look up and store what is in the buffer. -/
  | received
  /-- About to clear the buffer. -/
  | clearing
  deriving DecidableEq

/-- What an observer sees. -/
inductive Obs
  | manager (ev : Event)
  /-- A reader has stored what was looked up for message number `msg`. -/
  | stored (msg : Nat) (payloads : Option (List Payload))
  /-- Worker `w` has found the reply to message `msg` in the slot. -/
  | took (w msg : Nat)
  /-- Worker `w` has written `p` to the stream, as part of the reply to message `msg` if there is
  one. -/
  | wrote (w : Nat) (msg : Option Nat) (p : Payload)
  deriving DecidableEq

/-- The state of the whole system around one device. -/
structure Sys where
  ws : WsState
  clock : Int
  whichMainPayload : UInt64
  /-- The worker inside the critical section, if any. -/
  mutex : Option Nat
  pc : Pc
  /-- All workers ever started, in order. -/
  workers : List Worker
  readers : List ReaderPc
  /-- The buffer all readers receive into. -/
  buffer : Text
  /-- How many messages have been stored. -/
  messages : Nat
  /-- How many orphans of the manager's thread have ended and are about to set a `done` that is no
  more. -/
  strays : Nat
  log : List Obs
  deriving DecidableEq

/-- The system when the manager visits the device for the first time. -/
def Sys.init (deviceId : Text) (clock : Int) : Sys where
  ws := .init deviceId
  clock := clock
  whichMainPayload := 1
  mutex := none
  pc := .testSlot
  workers := []
  readers := []
  buffer := []
  messages := 0
  strays := 0
  log := []

/-- Whose turn it is, and what happens. -/
inductive Action
  /-- The manager executes its next statement; in a polling loop, it sees `done`. -/
  | manage
  /-- The manager's polling loop sees the deadline pass. -/
  | giveUp
  /-- `net::connect` returns. -/
  | tcpConnects
  /-- `net::connect` throws. -/
  | tcpThrows
  /-- Worker `w` enters its body.  If its call has returned by then, `flag` is what it finds in place
  of `send_bad_payloads`. -/
  | enter (w : Nat) (flag : Bool)
  /-- Worker `w` writes its next payload. -/
  | write (w : Nat)
  /-- Worker `w`, left dangling, writes `p`. -/
  | writeFreed (w : Nat) (p : Payload)
  /-- The operation worker `w` is in throws. -/
  | fail (w : Nat)
  /-- The body of worker `w` returns. -/
  | finish (w : Nat)
  /-- Reader `r` tests whether the stream is open, and if so starts to read. -/
  | poll (r : Nat)
  /-- Reader `r` receives a message. -/
  | receive (r : Nat) (text : Text)
  /-- The read of reader `r` throws, after it has received `bytes`. -/
  | readThrows (r : Nat) (bytes : Text)
  /-- Reader `r` looks up what is in the buffer, and stores the result; `flag` is what it finds in
  place of `send_bad_payloads`. -/
  | store (r : Nat) (flag : Bool)
  /-- Reader `r` clears the buffer. -/
  | clearBuffer (r : Nat)
  /-- The stream opens or closes. -/
  | setOpen (isOpen : Bool)
  /-- The clock moves on. -/
  | tick (now : Int)
  /-- Another device makes `ws_get_payload` pick a main payload. -/
  | otherDevice
  /-- An orphan ends that a call for another device of the manager's thread has left running. -/
  | otherOrphan
  /-- An orphan that has ended sets `done`. -/
  | strayDone
  /-- An orphan that has ended sets `done` while the manager's thread is at another device. -/
  | otherStray
  deriving DecidableEq

/-! ## The manager -/

namespace Sys

def goto (σ : Sys) (pc : Pc) : Sys := { σ with pc := pc }

def emit (σ : Sys) (ev : Event) : Sys := { σ with log := σ.log ++ [.manager ev] }

/-- The statement after the call of `run_with_timeout` on `b`, which came out as `res`. -/
def resume (σ : Sys) (b : Body) (res : BodyResult) : Sys :=
  match b with
  | .extra => (σ.emit (.extraWrite res)).goto .clearSlot
  | .handshake =>
    (σ.emit (.handshake res)).goto (if runWithTimeout res then .startReader else .testSlot)
  | .event => (σ.emit (.eventWrite res)).goto (.start .main)
  | .main => (σ.emit (.mainWrite res)).goto .testSlot

def setWorkerPc (σ : Sys) (w : Nat) (worker : Worker) (pc : WorkerPc) : Sys :=
  { σ with workers := σ.workers.set w { worker with pc := pc } }

/-- The call for worker `w` returns before the body has ended. -/
def abandon (σ : Sys) (w : Nat) (worker : Worker) : Sys :=
  { σ with workers := σ.workers.set w { worker with abandoned := true } }

/-- `extra_payload = nullopt`, which destroys the payloads under the worker inside the critical
section. -/
def clearSlot (σ : Sys) : Sys :=
  { σ with
    ws := { σ.ws with extraPayload := none }
    workers := bereave σ.workers σ.mutex }

/-- The next statement of `ws_manage_ws`. -/
def manage (cfg : Config) (σ : Sys) : Option Sys :=
  match σ.pc with
  | .testSlot =>
    some (σ.goto (if σ.ws.isOpen && σ.ws.extraPayload.isSome then .start .extra
      else .checkConnection))
  | .start b =>
    let worker : Worker := ⟨b, .created, σ.clock + b.timeout, false, false⟩
    some { σ with workers := σ.workers ++ [worker], pc := .wait b σ.workers.length }
  | .wait b w =>
    match σ.workers[w]? with
    | some worker =>
      if worker.done then
        match worker.pc with
        | .finished threw => some (σ.resume b (if threw then .threw else .returned))
        | _ => some ((σ.abandon w worker).resume b .misled)
      else none
    | none => none
  | .clearSlot => some (σ.clearSlot.goto .checkConnection)
  | .checkConnection =>
    some (σ.goto (if !σ.ws.connected || !σ.ws.isOpen then .checkTimer else .packetGate))
  | .checkTimer =>
    let (due, last) := connectDue cfg σ.clock σ.ws
    let call := Event.connectCall σ.clock (σ.ws.lastRunTime != 0)
    let σ := { σ with ws := { σ.ws with lastRunTime := last } }
    some (if due then (σ.emit call).goto .tcpConnect else σ.goto .packetGate)
  -- `net::connect` blocks; see `tcpConnects` and `tcpThrows`
  | .tcpConnect => none
  | .startReader =>
    let σ := { σ with readers := σ.readers ++ [ReaderPc.polling] }
    some ((σ.emit .readerStarted).goto .setConnected)
  | .setConnected =>
    some (({ σ with ws := { σ.ws with connected := true } }.emit .connected).goto .packetGate)
  | .packetGate =>
    let (due, last) := isTime cfg.timeBetweenPackets σ.clock σ.ws.lastRunTime
    let σ := { σ with ws := { σ.ws with lastRunTime := last } }
    some (if due then
      (σ.emit (.packetGate σ.clock)).goto (.start (if cfg.sendEvents then .event else .main))
    else σ.goto .testSlot)

/-- The deadline of the call the manager is in has passed, and `done` is not set. -/
def giveUp (σ : Sys) : Option Sys :=
  match σ.pc with
  | .wait b w =>
    match σ.workers[w]? with
    | some worker =>
      if worker.deadline < σ.clock ∧ worker.done = false then
        some ((σ.abandon w worker).resume b .timedOut)
      else none
    | none => none
  | _ => none

def tcpConnects (σ : Sys) : Option Sys :=
  match σ.pc with
  | .tcpConnect => some (σ.goto (.start .handshake))
  | _ => none

def tcpThrows (σ : Sys) : Option Sys :=
  match σ.pc with
  | .tcpConnect => some ((σ.emit .tcpThrew).goto .testSlot)
  | _ => none

/-! ## The workers -/

/-- The body of worker `w` is left, and with it the critical section, if it was in it. -/
def leave (σ : Sys) (w : Nat) (worker : Worker) (threw : Bool) : Sys :=
  { σ with
    workers := σ.workers.set w (worker.over threw)
    mutex := if σ.mutex = some w then none else σ.mutex
    strays := if worker.abandoned then σ.strays + 1 else σ.strays }

/-- The payloads `ws_get_payload` returns for a fixed request; without any, the body returns. -/
def lookUp (σ : Sys) (w : Nat) (worker : Worker) (request : Text) (bad : Bool) : Sys :=
  let (payloads, counter) := wsGetPayload σ.whichMainPayload request bad
  let σ := { σ with whichMainPayload := counter }
  match payloads with
  | none => σ.leave w worker false
  | some ps => σ.setWorkerPc w worker (.running none ps)

/-- The first statements of a body, up to its first operation on the stream. -/
def enter (cfg : Config) (σ : Sys) (w : Nat) (flag : Bool) : Option Sys :=
  match σ.workers[w]? with
  | some worker =>
    if worker.pc = .created then
      match worker.body with
      | .handshake => some (σ.setWorkerPc w worker (.running none []))
      | .extra =>
        if σ.mutex = none then
          match σ.ws.extraPayload with
          -- `value()` throws, and the lock guard unlocks again
          | none => some (σ.leave w worker true)
          | some reply =>
            some { σ.setWorkerPc w worker (.running (some reply.msg) reply.payloads) with
              mutex := some w, log := σ.log ++ [.took w reply.msg] }
        else none
      | .event => some (σ.lookUp w worker "event".toList (worker.sendBadPayloads cfg flag))
      | .main => some (σ.lookUp w worker "main_payload".toList (worker.sendBadPayloads cfg flag))
    else none
  | none => none

def write (σ : Sys) (w : Nat) : Option Sys :=
  match σ.workers[w]? with
  | some worker =>
    match worker.pc with
    | .running msg (p :: rest) =>
      some { σ.setWorkerPc w worker (.running msg rest) with log := σ.log ++ [.wrote w msg p] }
    | _ => none
  | none => none

/-- A write of what has come to be where the payloads were. -/
def writeFreed (σ : Sys) (w : Nat) (p : Payload) : Option Sys :=
  match σ.workers[w]? with
  | some worker =>
    match worker.pc with
    | .dangling (n + 1) =>
      some { σ.setWorkerPc w worker (.dangling n) with log := σ.log ++ [.wrote w none p] }
    | _ => none
  | none => none

/-- A write throws, or the handshake does. -/
def fail (σ : Sys) (w : Nat) : Option Sys :=
  match σ.workers[w]? with
  | some worker =>
    match worker.pc with
    | .running _ rest =>
      if rest ≠ [] ∨ worker.body = .handshake then some (σ.leave w worker true) else none
    | .dangling (_ + 1) => some (σ.leave w worker true)
    | _ => none
  | none => none

/-- All is written, or the handshake is complete, which opens the stream. -/
def finish (σ : Sys) (w : Nat) : Option Sys :=
  match σ.workers[w]? with
  | some worker =>
    match worker.pc with
    | .running _ [] =>
      let σ := σ.leave w worker false
      some (if worker.body = .handshake then { σ with ws := { σ.ws with isOpen := true } } else σ)
    | .dangling 0 => some (σ.leave w worker false)
    | _ => none
  | none => none

/-! ## The readers -/

def setReader (σ : Sys) (r : Nat) (pc : ReaderPc) : Sys :=
  { σ with readers := σ.readers.set r pc }

def poll (σ : Sys) (r : Nat) : Option Sys :=
  if σ.readers[r]? = some .polling then
    some (σ.setReader r (if σ.ws.isOpen then .reading else .clearing))
  else none

/-- `read` appends what it receives to the buffer. -/
def receive (σ : Sys) (r : Nat) (text : Text) : Option Sys :=
  if σ.readers[r]? = some .reading then
    some { σ.setReader r .received with buffer := σ.buffer ++ text }
  else none

def readThrows (σ : Sys) (r : Nat) (bytes : Text) : Option Sys :=
  if σ.readers[r]? = some .reading then
    some { σ.setReader r .clearing with buffer := σ.buffer ++ bytes }
  else none

/-- The critical section of a reader. -/
def store (σ : Sys) (r : Nat) (flag : Bool) : Option Sys :=
  if σ.readers[r]? = some .received ∧ σ.mutex = none then
    let (payloads, counter) := wsGetPayload σ.whichMainPayload σ.buffer flag
    some { σ.setReader r .clearing with
      ws := { σ.ws with extraPayload := payloads.map (⟨σ.messages, ·⟩) }
      whichMainPayload := counter
      messages := σ.messages + 1
      log := σ.log ++ [.stored σ.messages payloads] }
  else none

def clearBuffer (σ : Sys) (r : Nat) : Option Sys :=
  if σ.readers[r]? = some .clearing then some { σ.setReader r .polling with buffer := [] }
  else none

/-! ## The orphans -/

/-- A stray write sets the `done` of the call under way, if there is one. -/
def strayDone (σ : Sys) : Option Sys :=
  if 0 < σ.strays then
    let σ' := { σ with strays := σ.strays - 1 }
    match σ.pc with
    | .wait _ w =>
      match σ.workers[w]? with
      | some worker => some { σ' with workers := σ.workers.set w { worker with done := true } }
      | none => some σ'
    | _ => some σ'
  else none

end Sys

/-- One step of the system. -/
def step (cfg : Config) (σ : Sys) : Action → Option Sys
  | .manage => σ.manage cfg
  | .giveUp => σ.giveUp
  | .tcpConnects => σ.tcpConnects
  | .tcpThrows => σ.tcpThrows
  | .enter w flag => σ.enter cfg w flag
  | .write w => σ.write w
  | .writeFreed w p => σ.writeFreed w p
  | .fail w => σ.fail w
  | .finish w => σ.finish w
  | .poll r => σ.poll r
  | .receive r text => σ.receive r text
  | .readThrows r bytes => σ.readThrows r bytes
  | .store r flag => σ.store r flag
  | .clearBuffer r => σ.clearBuffer r
  | .setOpen isOpen => some { σ with ws := { σ.ws with isOpen := isOpen } }
  | .tick now => if σ.clock ≤ now then some { σ with clock := now } else none
  | .otherDevice => some { σ with whichMainPayload := σ.whichMainPayload + 1 }
  | .otherOrphan => some { σ with strays := σ.strays + 1 }
  | .strayDone => σ.strayDone
  | .otherStray => if 0 < σ.strays then some { σ with strays := σ.strays - 1 } else none

end WsTestClient
