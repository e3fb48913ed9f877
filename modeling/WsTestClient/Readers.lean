import WsTestClient.DevicePayloads

/-!
# The two readers

A reader of a device is written twice in the source: as the loop of a thread, `ws_async_read`, and
as the completion handler of an asynchronous read, `read_handler`, which a coroutine awaits.  Both
let the stream append to a buffer that outlives the read, look up what is in it, and clear it; they
learn of a failure in different ways, the thread by an exception and the handler by an error code.

They differ in `send_bad_payloads`.  The handler is passed it by value.  The thread refers to the
parameter of `ws_async_read`, which has returned by then: what it finds in its place is part of the
input, one value a round.

`ReaderState` is what a read works on.  `readers_frame_alike_iff` follows both over any sequence of
reads: a request that is looked up is the message just received and nothing else, and the two do the
same as long as the thread finds the right value whenever it is the turn of a bad payload.
-/

set_option autoImplicit false

namespace WsTestClient

/-- What becomes of a read. -/
inductive ReadOutcome
  /-- A complete message is appended to the buffer. -/
  | message (text : Text)
  /-- The read fails, with some bytes of a message in the buffer. -/
  | failed (bytes : Text)

/-- The message received, if there is one. -/
def ReadOutcome.text? : ReadOutcome → Option Text
  | .message text => some text
  | .failed _ => none

/-- What `read_handler` reports to the coroutine. -/
inductive ReadResult
  | error
  | closed
  | success

/-- The part of the device's state a reader works on, and the counter of `ws_get_payload`. -/
structure ReaderState where
  buffer : Text
  extraPayload : Option (List Payload)
  whichMainPayload : UInt64
  /-- The requests looked up so far, which the program does not keep. -/
  requests : List Text

namespace ReaderState

/-- The stream appends what it has read to the buffer. -/
def fill (s : ReaderState) (bytes : Text) : ReaderState := { s with buffer := s.buffer ++ bytes }

/-- The critical section: what is in the buffer is looked up, and the answer is stored. -/
def lookUp (sendBadPayloads : Bool) (s : ReaderState) : ReaderState :=
  let (payloads, counter) := wsGetPayload s.whichMainPayload s.buffer sendBadPayloads
  { s with
    extraPayload := payloads
    whichMainPayload := counter
    requests := s.requests ++ [s.buffer] }

/-- `buffer.clear()`. -/
def clear (s : ReaderState) : ReaderState := { s with buffer := [] }

end ReaderState

/-! ## The code -/

/-- A round of the loop of `ws_async_read`, the stream being open; `flag` is what is found in place of
`send_bad_payloads`, should it be looked at.  A read that fails throws, and leaves the `try` block. -/
def wsAsyncReadRound (flag : Bool) (s : ReaderState) (outcome : ReadOutcome) : ReaderState :=
  let s := match outcome with
    | .message text => (s.fill text).lookUp flag
    | .failed bytes => s.fill bytes
  s.clear

/-- The loop, with what is found in each round. -/
def wsAsyncRead (s : ReaderState) (rounds : List (ReadOutcome × Bool)) : ReaderState :=
  rounds.foldl (fun s round => wsAsyncReadRound round.2 s round.1) s

/-- `read_handler`, up to the resumption of the coroutine; `ec` tells whether there was an error. -/
def readHandler (sendBadPayloads : Bool) (ec : Bool) (s : ReaderState) : ReadResult × ReaderState :=
  let (res, s) :=
    if !ec then (ReadResult.success, s.lookUp sendBadPayloads) else (ReadResult.error, s)
  (res, s.clear)

/-- `async_read` completes, and calls the handler. -/
def coroutineRead (sendBadPayloads : Bool) (s : ReaderState) (outcome : ReadOutcome) :
    ReaderState :=
  match outcome with
  | .message text => (readHandler sendBadPayloads false (s.fill text)).2
  | .failed bytes => (readHandler sendBadPayloads true (s.fill bytes)).2

/-- The coroutine reads over and over. -/
def coroutineReads (sendBadPayloads : Bool) (s : ReaderState) (outcomes : List ReadOutcome) :
    ReaderState :=
  outcomes.foldl (coroutineRead sendBadPayloads) s

/-! ## Any number of reads -/

/-- The messages among the outcomes. -/
def received (outcomes : List ReadOutcome) : List Text := outcomes.filterMap ReadOutcome.text?

theorem received_message (text : Text) (outcomes : List ReadOutcome) :
    received (.message text :: outcomes) = text :: received outcomes := rfl

/-- The answers to the messages among the outcomes. -/
def answers (sendBadPayloads : Bool) (counter : UInt64) (outcomes : List ReadOutcome) :
    List (Option (List Payload)) :=
  lookups counter ((received outcomes).map fun text => ⟨text, sendBadPayloads⟩)

/-- How many of the messages ask for a main payload. -/
def mainMessages (outcomes : List ReadOutcome) : Nat :=
  (received outcomes).countP fun text => decide (baseMainPayload <:+: text)

/-- Both readers have framed the messages, and alike: the buffer is empty again, the requests looked
up are the messages received, and `extra_payload` is the answer to the last of them. -/
structure FramedAlike (sendBadPayloads : Bool) (s : ReaderState) (rounds : List (ReadOutcome × Bool)) :
    Prop where
  same : wsAsyncRead s rounds = coroutineReads sendBadPayloads s (rounds.map Prod.fst)
  buffer : (wsAsyncRead s rounds).buffer = []
  requests : (wsAsyncRead s rounds).requests = s.requests ++ received (rounds.map Prod.fst)
  extraPayload : (wsAsyncRead s rounds).extraPayload =
    (answers sendBadPayloads s.whichMainPayload (rounds.map Prod.fst)).getLast?.getD s.extraPayload

/-- Whenever it is the turn of a bad payload, the thread finds what `send_bad_payloads` was. -/
def FindsFlag (sendBadPayloads : Bool) (counter : UInt64) (rounds : List (ReadOutcome × Bool)) : Prop :=
  ∀ pre text flag, pre ++ [(.message text, flag)] <+: rounds → baseMainPayload <:+: text →
    (counter.toNat + mainMessages (pre.map Prod.fst)) % 2 = 0 → flag = sendBadPayloads

/-- Whatever becomes of the read, both readers end it the same way. -/
theorem coroutineRead_eq (sendBadPayloads : Bool) (s : ReaderState) (outcome : ReadOutcome) :
    coroutineRead sendBadPayloads s outcome = wsAsyncReadRound sendBadPayloads s outcome := by
  cases outcome <;> rfl

/-- A message received into an empty buffer is looked up as it is. -/
theorem round_message (flag : Bool) {s : ReaderState} (hs : s.buffer = []) (text : Text) :
    wsAsyncReadRound flag s (.message text) =
      ⟨[], (wsGetPayload s.whichMainPayload text flag).1,
        (wsGetPayload s.whichMainPayload text flag).2, s.requests ++ [text]⟩ := by
  simp [wsAsyncReadRound, ReaderState.fill, ReaderState.lookUp, ReaderState.clear, hs]

/-- A failed read leaves nothing behind. -/
theorem round_failed (flag : Bool) {s : ReaderState} (hs : s.buffer = []) (bytes : Text) :
    wsAsyncReadRound flag s (.failed bytes) = s := by
  simp [wsAsyncReadRound, ReaderState.fill, ReaderState.clear, ← hs]

theorem wsAsyncRead_concat (s : ReaderState) (rounds : List (ReadOutcome × Bool))
    (outcome : ReadOutcome) (flag : Bool) :
    wsAsyncRead s (rounds ++ [(outcome, flag)]) =
      wsAsyncReadRound flag (wsAsyncRead s rounds) outcome := by
  simp [wsAsyncRead]

theorem coroutineReads_concat (sendBadPayloads : Bool) (s : ReaderState)
    (outcomes : List ReadOutcome) (outcome : ReadOutcome) :
    coroutineReads sendBadPayloads s (outcomes ++ [outcome]) =
      wsAsyncReadRound sendBadPayloads (coroutineReads sendBadPayloads s outcomes) outcome := by
  rw [← coroutineRead_eq]
  simp [coroutineReads]

/-- Whatever the thread finds, it has looked up the messages, and cleared the buffer. -/
theorem wsAsyncRead_frames (rounds : List (ReadOutcome × Bool)) (s : ReaderState)
    (hs : s.buffer = []) :
    (wsAsyncRead s rounds).buffer = [] ∧
      (wsAsyncRead s rounds).requests = s.requests ++ received (rounds.map Prod.fst) := by
  induction rounds generalizing s with
  | nil => exact ⟨hs, (List.append_nil _).symm⟩
  | cons round rounds ih =>
    obtain ⟨outcome, flag⟩ := round
    rw [wsAsyncRead, List.foldl_cons]
    cases outcome with
    | failed bytes =>
      rw [round_failed flag hs]
      exact ih s hs
    | message text =>
      rw [round_message flag hs]
      obtain ⟨hbuffer, hrequests⟩ := ih ⟨[], _, _, s.requests ++ [text]⟩ rfl
      refine ⟨hbuffer, hrequests.trans ?_⟩
      rw [List.append_assoc]
      rfl

/-- The counter moves on with every request for a main payload, whatever is found. -/
theorem wsGetPayload_parity (counter : UInt64) (text : Text) (flag : Bool) (n : Nat) :
    ((wsGetPayload counter text flag).2.toNat + n) % 2 =
      (counter.toNat + (n + if baseMainPayload <:+: text then 1 else 0)) % 2 := by
  cases hmain : Call.isMain ⟨text, flag⟩ with
  | true =>
    rw [wsGetPayload_of_isMain hmain, if_pos (of_decide_eq_true hmain), UInt64.toNat_add]
    have hone : (1 : UInt64).toNat = 1 := rfl
    omega
  | false => rw [wsGetPayload_of_not_isMain hmain counter counter, if_neg (of_decide_eq_false hmain),
      Nat.add_zero]

theorem wsAsyncRead_parity (rounds : List (ReadOutcome × Bool)) (s : ReaderState)
    (hs : s.buffer = []) :
    (wsAsyncRead s rounds).whichMainPayload.toNat % 2 =
      (s.whichMainPayload.toNat + mainMessages (rounds.map Prod.fst)) % 2 := by
  induction rounds generalizing s with
  | nil => rfl
  | cons round rounds ih =>
    obtain ⟨outcome, flag⟩ := round
    rw [wsAsyncRead, List.foldl_cons]
    cases outcome with
    | failed bytes =>
      rw [round_failed flag hs]
      exact ih s hs
    | message text =>
      rw [round_message flag hs]
      refine (ih ⟨[], _, _, s.requests ++ [text]⟩ rfl).trans ?_
      rw [wsGetPayload_parity, List.map_cons, mainMessages, mainMessages, received_message,
        List.countP_cons]
      simp

/-- What the coroutine has stored after any number of reads. -/
theorem coroutineReads_extraPayload (sendBadPayloads : Bool) (outcomes : List ReadOutcome)
    (s : ReaderState) (hs : s.buffer = []) :
    (coroutineReads sendBadPayloads s outcomes).extraPayload =
      (answers sendBadPayloads s.whichMainPayload outcomes).getLast?.getD s.extraPayload := by
  induction outcomes generalizing s with
  | nil => rfl
  | cons outcome outcomes ih =>
    rw [coroutineReads, List.foldl_cons, coroutineRead_eq]
    cases outcome with
    | failed bytes =>
      rw [round_failed sendBadPayloads hs]
      exact ih s hs
    | message text =>
      rw [round_message sendBadPayloads hs]
      refine (ih ⟨[], _, _, s.requests ++ [text]⟩ rfl).trans ?_
      rw [answers, answers, received_message]
      simp [lookups, List.getLast?_cons]

/-- What is found matters for one request: one for a main payload when it is the turn of a bad one. -/
theorem wsGetPayload_eq_iff (counter : UInt64) (text : Text) (flag bad : Bool) :
    wsGetPayload counter text flag = wsGetPayload counter text bad ↔
      (baseMainPayload <:+: text → counter.toNat % 2 = 0 → flag = bad) := by
  by_cases hmain : baseMainPayload <:+: text
  · have hflag := @wsGetPayload_of_isMain ⟨text, flag⟩ (decide_eq_true hmain) counter
    have hbad := @wsGetPayload_of_isMain ⟨text, bad⟩ (decide_eq_true hmain) counter
    dsimp only at hflag hbad
    rw [hflag, hbad]
    by_cases hturn : counter.toNat % 2 = 0
    · cases flag <;> cases bad <;>
        simp [hmain, hturn, wsBadPayload_ne_wsPayload, wsBadPayload_ne_wsPayload.symm]
    · simp [hturn]
  · simp [wsGetPayload, hmain]

/-- The two are still together after another read if and only if, should it matter, the thread finds
the right value. -/
theorem same_concat_iff {sendBadPayloads : Bool} {s : ReaderState}
    {rounds : List (ReadOutcome × Bool)} (hs : s.buffer = [])
    (hsame : wsAsyncRead s rounds = coroutineReads sendBadPayloads s (rounds.map Prod.fst))
    (outcome : ReadOutcome) (flag : Bool) :
    wsAsyncRead s (rounds ++ [(outcome, flag)]) =
        coroutineReads sendBadPayloads s ((rounds ++ [(outcome, flag)]).map Prod.fst) ↔
      ∀ text, outcome = .message text → baseMainPayload <:+: text →
        (s.whichMainPayload.toNat + mainMessages (rounds.map Prod.fst)) % 2 = 0 →
        flag = sendBadPayloads := by
  have hbuffer := (wsAsyncRead_frames rounds s hs).1
  rw [wsAsyncRead_concat, List.map_append, List.map_singleton, coroutineReads_concat, ← hsame,
    ← wsAsyncRead_parity rounds s hs]
  cases outcome with
  | failed bytes =>
    rw [round_failed flag hbuffer, round_failed sendBadPayloads hbuffer]
    exact iff_of_true rfl nofun
  | message text =>
    rw [round_message flag hbuffer, round_message sendBadPayloads hbuffer]
    simp only [ReaderState.mk.injEq, true_and, and_true, ReadOutcome.message.injEq, forall_eq',
      ← Prod.ext_iff]
    exact wsGetPayload_eq_iff _ text flag sendBadPayloads

theorem framedAlike_of_same {sendBadPayloads : Bool} {s : ReaderState}
    {rounds : List (ReadOutcome × Bool)} (hs : s.buffer = [])
    (hsame : wsAsyncRead s rounds = coroutineReads sendBadPayloads s (rounds.map Prod.fst)) :
    FramedAlike sendBadPayloads s rounds := by
  obtain ⟨hbuffer, hrequests⟩ := wsAsyncRead_frames rounds s hs
  refine ⟨hsame, hbuffer, hrequests, ?_⟩
  rw [hsame]
  exact coroutineReads_extraPayload sendBadPayloads _ s hs

/-- **The readers frame messages alike if and only if the thread finds the right flag.**  From an empty
buffer, after every read of any sequence the thread and the coroutine are in the same state, with
the messages framed, just when the thread finds `send_bad_payloads` at every request for a main
payload that meets an even counter. -/
theorem readers_frame_alike_iff (sendBadPayloads : Bool) (rounds : List (ReadOutcome × Bool))
    (s : ReaderState) (hs : s.buffer = []) :
    (∀ pre, pre <+: rounds → FramedAlike sendBadPayloads s pre) ↔
      FindsFlag sendBadPayloads s.whichMainPayload rounds := by
  refine ⟨fun h pre text flag hpre => ?_, fun h pre hpre => framedAlike_of_same hs ?_⟩
  · have hbefore := (h pre ((List.prefix_append _ _).trans hpre)).same
    exact (same_concat_iff hs hbefore _ flag).1 (h _ hpre).same text rfl
  · induction pre using List.reverseRecOn with
    | nil => rfl
    | append_singleton pre round ih =>
      obtain ⟨outcome, flag⟩ := round
      refine (same_concat_iff hs (ih ((List.prefix_append _ _).trans hpre)) outcome flag).2 ?_
      rintro text rfl
      exact h pre text flag hpre

/-- A failed read between two messages. -/
theorem readers_frame_alike_iff_three :
    FramedAlike true ⟨[], none, 1, []⟩ [(.message baseEvent, true), (.failed "main_".toList, true),
      (.message "payload".toList, true)] := by
  refine (readers_frame_alike_iff true _ ⟨[], none, 1, []⟩ rfl).2 ?_ _ (List.prefix_refl _)
  intro pre text flag hpre _ _
  have hmem := hpre.subset (List.mem_append_right pre List.mem_cons_self)
  simp only [List.mem_cons, Prod.mk.injEq, List.not_mem_nil, or_false] at hmem
  rcases hmem with ⟨-, h⟩ | ⟨-, h⟩ | ⟨-, h⟩ <;> exact h

/-- **The readers part.**  Bad payloads are not wanted, and at the second request for a main payload
the thread finds `true` where the flag was: it answers with the bad payload, and the coroutine does
not. -/
theorem readers_part :
    ¬ ∀ pre, pre <+: [(ReadOutcome.message baseMainPayload, false),
      (.message baseMainPayload, true)] → FramedAlike false ⟨[], none, 1, []⟩ pre :=
  fun h => absurd (h _ (List.prefix_refl _)).extraPayload (by decide +kernel)

end WsTestClient
