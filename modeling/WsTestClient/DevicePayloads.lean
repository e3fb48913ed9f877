import Mathlib.Data.List.Infix

/-!
# The payloads, and the lookup that answers a request

`wsGetPayload` is `ws_get_payload` of `device_payloads.cpp`: it classifies a request by the
keywords it contains and returns the payloads to be sent.  The same function serves the server's
messages, which the readers pass to it, and the two fixed requests `"event"` and `"main_payload"`
the manager makes itself.

The counter `which_main_payload` is a function-local `static`, so it is shared by every caller; it
is passed in and handed back here.  The other static, `current_probe`, is never read.

`lookups` are the answers to the calls of a whole run, whoever makes them.  Only the calls for a
main payload touch the counter, so it is their number that decides between the good and the bad
payload: `badPayloads_alternate`.
-/

set_option autoImplicit false

namespace WsTestClient

/-- The bytes of a `std::string`, one `Char` a byte. -/
abbrev Text := List Char

/-- `payload_t`. -/
abbrev Payload := List UInt8

/-! ## The tables -/

/-- One probe of a probe settings payload: its number, and two flags among a hundred bytes. -/
def probeSettings (probe : UInt8) : Payload :=
  probe :: List.replicate 32 0 ++ 1 :: List.replicate 32 0 ++ 1 :: List.replicate 33 0

/-- A probe settings payload: a header, the settings of six probes, and a trailing checksum. -/
def probesPayload (half checkLow checkHigh : UInt8) : Payload :=
  [102, half, 3, 15] ++ [13, 14, 15, 16, 17, 12].flatMap probeSettings ++ [0, checkLow, checkHigh]

def wsGetProbesPayload : List Payload := [probesPayload 1 208 19, probesPayload 0 140 123]

def wsEventPayload : List Payload :=
  [[0x02, 0, 0, 0, 0, 1, 0, 0, 0, 0, 0, 0, 0, 0, 0, 0, 0, 1, 0xaa, 0xe0]]

def wsPayload : Payload :=
  [250, 2, 32, 3, 224, 4, 32, 5, 32, 9, 32, 10, 32, 11, 224, 6, 128, 0, 0, 0, 0, 7, 128, 100, 0,
   0, 0, 8, 192, 139, 15, 27, 66, 1, 8, 192, 204, 240, 0, 0, 8, 192, 0, 0, 0, 0, 8, 192, 0, 0, 0,
   0, 8, 192, 10, 164, 160, 64, 8, 192, 0, 0, 0, 0, 8, 192, 0, 0, 0, 0, 8, 192, 0, 0, 0, 0, 65,
   192, 51, 51, 211, 65, 65, 193, 31, 133, 217, 65, 65, 66, 0, 0, 0, 0, 65, 67, 0, 0, 0, 0, 65,
   196, 0, 0, 160, 64, 65, 69, 0, 0, 0, 0, 66, 192, 61, 10, 207, 65, 66, 193, 143, 194, 163, 65,
   66, 194, 124, 188, 59, 68, 66, 195, 176, 246, 218, 64, 66, 68, 0, 0, 0, 0, 66, 69, 0, 0, 0, 0,
   26, 148]

/-- The bad payload is the good one, eighteen times over in one message. -/
def wsBadPayload : Payload := (List.replicate 18 wsPayload).flatten

/-! ## The lookup -/

def baseMainPayload : Text := "main_payload".toList

def baseGetProbes : Text := "get_probes".toList

def baseEvent : Text := "event".toList

/-- `ws_get_payload`, with the static counter `which_main_payload` passed in and handed back. -/
def wsGetPayload (whichMainPayload : UInt64) (request : Text) (includeBadPayloads : Bool) :
    Option (List Payload) × UInt64 :=
  if baseMainPayload <:+: request then
    if whichMainPayload % 2 == 0 && includeBadPayloads then
      (some [wsBadPayload], whichMainPayload + 1)
    else
      (some [wsPayload], whichMainPayload + 1)
  else if baseGetProbes <:+: request then
    (some wsGetProbesPayload, whichMainPayload)
  else if baseEvent <:+: request then
    (some wsEventPayload, whichMainPayload)
  else
    (none, whichMainPayload)

/-! ## Sequences of lookups -/

/-- A call of `ws_get_payload`. -/
structure Call where
  request : Text
  includeBadPayloads : Bool

/-- The call is answered with a main payload. -/
def Call.isMain (call : Call) : Bool := decide (baseMainPayload <:+: call.request)

/-- The answers to the calls of a run, the counter being `whichMainPayload` before the first. -/
def lookups (whichMainPayload : UInt64) : List Call → List (Option (List Payload))
  | [] => []
  | call :: calls =>
    let (payloads, whichMainPayload) :=
      wsGetPayload whichMainPayload call.request call.includeBadPayloads
    payloads :: lookups whichMainPayload calls

/-- How many of the calls are for a main payload. -/
def mainCalls (calls : List Call) : Nat := calls.countP Call.isMain

theorem wsBadPayload_ne_wsPayload : wsBadPayload ≠ wsPayload := by
  intro h
  have hlen := congrArg List.length h
  have hpos : 0 < wsPayload.length := List.length_pos_iff.2 (List.cons_ne_nil _ _)
  simp only [wsBadPayload, List.length_flatten, List.map_replicate, List.sum_replicate_nat] at hlen
  omega

/-- A call for a main payload advances the counter, whichever payload it picks. -/
theorem wsGetPayload_of_isMain {call : Call} (h : call.isMain = true) (counter : UInt64) :
    wsGetPayload counter call.request call.includeBadPayloads =
      (some [if counter.toNat % 2 = 0 ∧ call.includeBadPayloads = true then wsBadPayload
        else wsPayload], counter + 1) := by
  have hparity : (counter % 2 == 0) = decide (counter.toNat % 2 = 0) := by
    rw [Bool.eq_iff_iff, beq_iff_eq, decide_eq_true_eq, ← UInt64.toNat_inj]
    rfl
  rw [wsGetPayload, if_pos (of_decide_eq_true h), hparity]
  by_cases hpick : counter.toNat % 2 = 0 ∧ call.includeBadPayloads = true
  · simp [hpick]
  · simp only [Bool.and_eq_true, decide_eq_true_eq, hpick, if_false]

/-- Any other call neither looks at the counter nor changes it. -/
theorem wsGetPayload_of_not_isMain {call : Call} (h : call.isMain = false)
    (counter counter' : UInt64) :
    wsGetPayload counter call.request call.includeBadPayloads =
      ((wsGetPayload counter' call.request call.includeBadPayloads).1, counter) := by
  simp only [wsGetPayload, if_neg (of_decide_eq_false h)]
  split
  · rfl
  · split <;> rfl

/-- The answer at a position is given with a counter that has advanced once for every call for a
main payload before it, modulo two. -/
theorem lookups_getElem? (calls : List Call) (k : Nat) (call : Call) (hk : calls[k]? = some call)
    (counter : UInt64) :
    ∃ counter' : UInt64, counter'.toNat % 2 = (counter.toNat + mainCalls (calls.take k)) % 2 ∧
      (lookups counter calls)[k]? =
        some (wsGetPayload counter' call.request call.includeBadPayloads).1 := by
  induction calls generalizing k counter with
  | nil => exact absurd hk (by simp)
  | cons first calls ih =>
    cases k with
    | zero =>
      obtain rfl : first = call := by simpa using hk
      exact ⟨counter, rfl, rfl⟩
    | succ k =>
      obtain ⟨counter', hparity, hanswer⟩ := ih k (by simpa using hk)
        (wsGetPayload counter first.request first.includeBadPayloads).2
      refine ⟨counter', ?_, hanswer⟩
      rw [hparity, List.take_succ_cons, mainCalls, mainCalls, List.countP_cons]
      cases hmain : first.isMain with
      | true =>
        rw [wsGetPayload_of_isMain hmain]
        simp only [UInt64.toNat_add, if_true]
        -- the wrap at the end of the counter keeps its parity
        have hone : (1 : UInt64).toNat = 1 := rfl
        omega
      | false =>
        rw [wsGetPayload_of_not_isMain hmain counter counter]
        simp

/-- **Bad payloads alternate**: of the calls for a main payload those at even positions get the bad
payload, if they accept one; the other calls have no part in this. -/
theorem badPayloads_alternate (calls : List Call) (k : Nat) (call : Call)
    (hk : calls[k]? = some call) :
    ∃ answer, (lookups 1 calls)[k]? = some answer ∧
      (call.isMain = true →
        (answer = some [wsBadPayload] ↔
          mainCalls (calls.take (k + 1)) % 2 = 0 ∧ call.includeBadPayloads = true) ∧
        (answer = some [wsPayload] ↔
          ¬ (mainCalls (calls.take (k + 1)) % 2 = 0 ∧ call.includeBadPayloads = true))) ∧
      (call.isMain = false → ∀ counter,
        wsGetPayload counter call.request call.includeBadPayloads = (answer, counter)) := by
  obtain ⟨counter, hparity, hanswer⟩ := lookups_getElem? calls k call hk 1
  refine ⟨_, hanswer, fun hmain => ?_, fun hmain counter' => ?_⟩
  · have hone : (1 : UInt64).toNat = 1 := rfl
    have htake : mainCalls (calls.take (k + 1)) = mainCalls (calls.take k) + 1 := by
      rw [mainCalls, List.take_add_one, hk, List.countP_append]
      simp [mainCalls, hmain]
    have hpick : mainCalls (calls.take (k + 1)) % 2 = 0 ↔ counter.toNat % 2 = 0 := by omega
    rw [wsGetPayload_of_isMain hmain, hpick]
    by_cases h : counter.toNat % 2 = 0 ∧ call.includeBadPayloads = true
    · simp [h, wsBadPayload_ne_wsPayload]
    · simp only [h, if_false, Option.some.injEq, List.cons.injEq, and_true, not_false_eq_true,
        iff_false]
      exact wsBadPayload_ne_wsPayload.symm
  · exact wsGetPayload_of_not_isMain hmain counter' counter

/-- The second request for a main payload is answered with the bad one. -/
theorem badPayloads_alternate_second :
    (lookups 1 [⟨baseMainPayload, true⟩, ⟨baseEvent, true⟩, ⟨baseMainPayload, true⟩])[2]? =
      some (some [wsBadPayload]) := by
  obtain ⟨answer, hanswer, hmain, -⟩ := badPayloads_alternate
    [⟨baseMainPayload, true⟩, ⟨baseEvent, true⟩, ⟨baseMainPayload, true⟩] 2 ⟨baseMainPayload, true⟩
    rfl
  rw [hanswer, (hmain (by decide)).1.2 (by decide)]

end WsTestClient
