import Mathlib.Algebra.Order.Group.Int
import WsTestClient.DevicePayloads

/-!
# The state of a device, and what `run_with_timeout` reports

The data model of `util.hpp`: the state the manager, the readers and the workers of one device
share (`WsState`), the steady clock it is stamped with, and the verdict of `run_with_timeout`.

* **Time.**  A reading of the steady clock is the number of nanoseconds since the clock's epoch, an
  `Int`, so the default constructed `time_point{}` is `0`.  `durationCastSeconds` truncates
  towards zero, as `std::chrono::duration_cast` does; `le_durationCastSeconds` says when a
  truncated duration is still at least a whole number of seconds.
* **The stream.**  All the manager asks of the Beast stream is `is_open()`, so the stream is that
  answer.
* **Replies.**  A `Reply` is what `ws_get_payload` returned for a server message.  It also carries
  the number of that message, which the program does not store: it is there to say which message
  a payload on the wire belongs to.
-/

set_option autoImplicit false

namespace WsTestClient

/-! ## The steady clock -/

/-- `std::chrono::seconds(n)`, in nanoseconds. -/
def seconds (n : Int) : Int := n * 1000000000

/-- `std::chrono::duration_cast<std::chrono::seconds>`. -/
def durationCastSeconds (d : Int) : Int := d.tdiv 1000000000

@[simp] theorem seconds_zero : seconds 0 = 0 := rfl

theorem seconds_le_seconds {m n : Int} (h : m ≤ n) : seconds m ≤ seconds n := by
  simp only [seconds]; omega

/-- Truncation loses nothing against a whole number of seconds. -/
theorem le_durationCastSeconds {d n : Int} (hd : 0 ≤ d) :
    n ≤ durationCastSeconds d ↔ seconds n ≤ d := by
  rw [durationCastSeconds, Int.tdiv_eq_ediv_of_nonneg hd, seconds,
    Int.le_ediv_iff_mul_le (by decide)]

/-! ## The shared state -/

/-- The payloads looked up for server message number `msg`. -/
structure Reply where
  /-- Which message they answer. -/
  msg : Nat
  /-- What `ws_get_payload` returned for it. -/
  payloads : List Payload
  deriving DecidableEq

/-- `ws_state_t`, without the buffer the readers receive into. -/
structure WsState where
  /-- The stream's `is_open()`. -/
  isOpen : Bool
  deviceId : Text
  connected : Bool
  extraPayload : Option Reply
  lastRunTime : Int
  deriving DecidableEq

/-- The state `main` builds for a line of the ids file: not connected, no reply waiting, and
`last_run_time` the default `time_point`. -/
def WsState.init (deviceId : Text) : WsState where
  isOpen := false
  deviceId := deviceId
  connected := false
  extraPayload := none
  lastRunTime := 0

/-- `ws_conn_res_t`. -/
structure WsConnRes where
  error : Bool

/-! ## `run_with_timeout` -/

/-- How a body handed to `run_with_timeout` fares, as the polling loop sees it. -/
inductive BodyResult
  /-- It returned in time. -/
  | returned
  /-- It threw a `std::exception` in time. -/
  | threw
  /-- It was still running at the deadline; the detached worker goes on. -/
  | timedOut
  /-- It was still running when the body of an earlier call of the thread, which had been left
  running in its turn, ended: the wrapper of that one writes `true` to a `done` that is no more, in
  whose place on the stack the `done` of this call may be. -/
  | misled
  deriving DecidableEq

/-- The verdict of `run_with_timeout`.  The wrapper swallows the exception of the body and sets
`done` all the same, so a body that threw counts as done; and the loop does not know who has set
`done`. -/
def runWithTimeout : BodyResult → Bool
  | .returned => true
  | .threw => true
  | .timedOut => false
  | .misled => true

@[simp] theorem runWithTimeout_eq_true {res : BodyResult} :
    runWithTimeout res = true ↔ res ≠ .timedOut := by
  cases res <;> decide

end WsTestClient
