import Mathlib
import WsTestClient.DevicePayloads
import WsTestClient.Decimal

/-!
# The stringifier of the logger

Log messages are put together by `StringifierBase` of `utl_log.hpp`, which appends one argument
after the other to a buffer.  `Value` is an argument, as `_append_selector` tells them apart, with
its text where another library decides on it; `append` is the code, buffer for buffer.  Floating
point numbers and complex ones are left out, and there is memory for any string up to `maxSize`.

* `text` is what a value looks like, and `append_eq` says that this is what is appended, whatever is
  in the buffer: the paths that work in place, for padding on the right and for lists, agree with
  those that build a string of their own.
* It also says that a string that gets too long is all that can go wrong: the array `append_int`
  writes to is large enough for every integral type (`length_toChars_le`).
-/

set_option autoImplicit false

namespace WsTestClient.Log

open Decimal

/-! ## Values -/

/-- A value of an integral type whose magnitude has the given number of binary digits,
`std::numeric_limits<T>::digits`. -/
structure Integral where
  digits : Nat
  digits_le : digits ≤ 128
  value : Int
  lower : -2 ^ digits ≤ value
  upper : value < 2 ^ digits

/-- An argument of the stringifier. -/
inductive Value
  | bool (b : Bool)
  /-- A character, or anything that can be converted to a string. -/
  | string (s : Text)
  /-- An integer, or the number behind an enumeration. -/
  | int (i : Integral)
  | array (vs : List Value)
  | tuple (vs : List Value)
  /-- Something `operator<<` prints as `s`. -/
  | printable (s : Text)
  | padLeft (v : Value) (size : Nat)
  | padRight (v : Value) (size : Nat)
  | pad (v : Value) (size : Nat)

/-- How formatting can go wrong. -/
inductive Failure
  | runtimeError (what : Text)
  | lengthError
  /-- The behaviour is undefined. -/
  | undefined
  deriving DecidableEq

/-- `_max_int_digits`, by `std::numeric_limits<T>::digits10`. -/
def maxIntDigits (digits : Nat) : Nat := 2 + Nat.log 10 (2 ^ digits)

/-! ## Strings -/

/-- `std::string::max_size()`, which is up to the library; this is what libstdc++ has. -/
def maxSize : Nat := 2 ^ 62 - 1

/-- `buffer += s`. -/
def extend (buffer s : Text) : Except Failure Text :=
  if buffer.length + s.length ≤ maxSize then .ok (buffer ++ s) else .error .lengthError

/-- `buffer.append(count, ch)`. -/
def fill (buffer : Text) (count : Nat) (ch : Char) : Except Failure Text :=
  if buffer.length + count ≤ maxSize then .ok (buffer ++ List.replicate count ch)
  else .error .lengthError

/-! ## The code -/

/-- `append_int`. -/
def appendInt (buffer : Text) (i : Integral) : Except Failure Text :=
  let str := toChars i.value
  -- `std::to_chars` reports an error if the number does not fit
  if str.length ≤ maxIntDigits i.digits then extend buffer str
  else .error (.runtimeError
    "Stringifier encountered std::to_chars() error while serializing an integer.".toList)

mutual

/-- `_append_selector`, with the methods it selects from. -/
def append (buffer : Text) : Value → Except Failure Text
  | .bool b => extend buffer (if b then "true" else "false").toList
  | .string s => extend buffer s
  | .int i => appendInt buffer i
  | .array vs => do
    let buffer ← extend buffer "\x7b ".toList
    let buffer ← appendArray buffer vs
    extend buffer " \x7d".toList
  | .tuple vs => do
    let buffer ← extend buffer "< ".toList
    let buffer ← appendTuple buffer 0 vs
    extend buffer " >".toList
  | .printable s => extend buffer s
  | .padLeft v size => do
    let temp ← append [] v
    let buffer ← (if temp.length < size then fill buffer (size - temp.length) ' ' else .ok buffer)
    extend buffer temp
  | .padRight v size => do
    let oldSize := buffer.length
    let buffer ← append buffer v
    let appendedSize := buffer.length - oldSize
    if appendedSize < size then fill buffer (size - appendedSize) ' ' else .ok buffer
  | .pad v size => do
    let temp ← append [] v
    if temp.length < size then
      let lpadSize := (size - temp.length) / 2
      let rpadSize := size - lpadSize - temp.length
      let buffer ← fill buffer lpadSize ' '
      let buffer ← extend buffer temp
      fill buffer rpadSize ' '
    else extend buffer temp

/-- The elements of an array: the loop ends behind the last of them. -/
def appendArray (buffer : Text) : List Value → Except Failure Text
  | [] => .ok buffer
  | [v] => append buffer v
  | v :: w :: vs => do
    let buffer ← append buffer v
    let buffer ← extend buffer ", ".toList
    appendArray buffer (w :: vs)

/-- The components of a tuple, from number `idx` on. -/
def appendTuple (buffer : Text) (idx : Nat) : List Value → Except Failure Text
  | [] => .ok buffer
  | v :: vs => do
    let buffer ← (if idx = 0 then .ok buffer else extend buffer ", ".toList)
    let buffer ← append buffer v
    appendTuple buffer (idx + 1) vs

end

/-- `append_stringified`: all arguments, one after the other. -/
def appendStringified (buffer : Text) : List Value → Except Failure Text
  | [] => .ok buffer
  | v :: vs => do
    let buffer ← append buffer v
    appendStringified buffer vs

/-- `stringify`, with the overloads for a single integer. -/
def stringify : List Value → Except Failure Text
  | [.int i] => .ok (toChars i.value)
  | vs => appendStringified [] vs

/-! ## What a value looks like -/

/-- The text in the middle of a field. -/
def center (size : Nat) (s : Text) : Text :=
  let left := (size - s.length) / 2
  List.replicate left ' ' ++ s ++ List.replicate (size - left - s.length) ' '

/-- Several texts, with commas between them. -/
def commas (ss : List Text) : Text := (", ".toList).intercalate ss

mutual

def text : Value → Text
  | .bool b => (if b then "true" else "false").toList
  | .string s => s
  | .int i => toChars i.value
  | .array vs => "\x7b ".toList ++ commas (texts vs) ++ " \x7d".toList
  | .tuple vs => "< ".toList ++ commas (texts vs) ++ " >".toList
  | .printable s => s
  | .padLeft v size => (text v).leftpad size ' '
  | .padRight v size => (text v).rightpad size ' '
  | .pad v size => center size (text v)

def texts : List Value → List Text
  | [] => []
  | v :: vs => text v :: texts vs

end

/-! ## Integers fit -/

/-- The array of `append_int` is large enough. -/
theorem length_toChars_le (i : Integral) : (toChars i.value).length ≤ maxIntDigits i.digits := by
  have hlt : i.value.natAbs < 10 ^ (Nat.log 10 (2 ^ i.digits) + 1) := by
    have hlog := Nat.lt_pow_succ_log_self (b := 10) (by decide) (2 ^ i.digits)
    have habs : i.value.natAbs ≤ 2 ^ i.digits := by
      have hlower := i.lower
      have hupper := i.upper
      have hcast : ((2 ^ i.digits : Nat) : Int) = 2 ^ i.digits := by simp
      omega
    exact habs.trans_lt hlog
  have hdigits := (Nat.length_toDigits_le_iff (by decide) (Nat.succ_pos _)).2 hlt
  rw [toChars, maxIntDigits]
  split
  · rw [List.length_cons]
    omega
  · omega

/-! ## What is appended -/

/-- All that `f` does to a buffer is to append `t`. -/
def Writes (f : Text → Except Failure Text) (t : Text) : Prop :=
  ∀ buffer : Text, buffer.length ≤ maxSize → f buffer = extend buffer t

theorem extend_of_le {buffer s : Text} (h : buffer.length + s.length ≤ maxSize) :
    extend buffer s = .ok (buffer ++ s) := if_pos h

theorem extend_of_lt {buffer s : Text} (h : maxSize < buffer.length + s.length) :
    extend buffer s = .error .lengthError := if_neg (Nat.not_le.2 h)

theorem writes_extend (s : Text) : Writes (extend · s) s := fun _ _ => rfl

theorem writes_fill (count : Nat) (ch : Char) :
    Writes (fill · count ch) (List.replicate count ch) := by
  intro buffer _
  dsimp only
  rw [fill, extend, List.length_replicate]

theorem writes_ok : Writes .ok [] := by
  intro buffer hbuffer
  rw [extend_of_le (by simpa using hbuffer), List.append_nil]

theorem Writes.ite {f g : Text → Except Failure Text} {s t : Text} {p : Prop} [Decidable p]
    (hf : Writes f s) (hg : Writes g t) :
    Writes (fun buffer => if p then f buffer else g buffer) (if p then s else t) := by
  intro buffer hbuffer
  split
  · exact hf buffer hbuffer
  · exact hg buffer hbuffer

/-- What is appended in two steps is appended in one; if it does not fit, it does not matter which
of the steps finds out. -/
theorem extend_bind {g : Text → Except Failure Text} {t : Text} (hg : Writes g t)
    (buffer s : Text) :
    (extend buffer s >>= g) = extend buffer (s ++ t) := by
  by_cases hs : buffer.length + s.length ≤ maxSize
  · rw [extend_of_le hs]
    have hlength : (buffer ++ s).length ≤ maxSize := by rwa [List.length_append]
    change g (buffer ++ s) = _
    rw [hg _ hlength, extend, extend, List.length_append, List.length_append, Nat.add_assoc,
      List.append_assoc]
  · have hst : maxSize < buffer.length + (s ++ t).length := by
      rw [List.length_append]
      omega
    rw [extend_of_lt (Nat.not_le.1 hs), extend_of_lt hst]
    rfl

theorem Writes.bind {f g : Text → Except Failure Text} {s t : Text} (hf : Writes f s)
    (hg : Writes g t) : Writes (fun buffer => f buffer >>= g) (s ++ t) := by
  intro buffer hbuffer
  dsimp only
  rw [hf buffer hbuffer, extend_bind hg]

/-- A string of its own is part of what is appended in the end. -/
theorem extend_nil_bind {g : Text → Except Failure Text} {buffer s t : Text}
    (hg : g s = extend buffer t) (hle : s.length ≤ t.length) :
    (extend [] s >>= g) = extend buffer t := by
  by_cases hs : s.length ≤ maxSize
  · rw [extend_of_le (by simpa using hs)]
    exact hg
  · rw [extend_of_lt (by simpa using hs), extend_of_lt (by omega)]
    rfl

/-! ## The code does it -/

theorem appendInt_eq (buffer : Text) (i : Integral) :
    appendInt buffer i = extend buffer (toChars i.value) :=
  if_pos (length_toChars_le i)

theorem commas_cons (s : Text) (ss : List Text) :
    commas (s :: ss) = s ++ ss.flatMap fun t => ", ".toList ++ t := by
  induction ss generalizing s with
  | nil => simp [commas]
  | cons t ss ih =>
    have hih : (", ".toList).intercalate (t :: ss) = t ++ ss.flatMap fun t => ", ".toList ++ t :=
      ih t
    rw [commas, List.intercalate_cons_cons, hih, List.flatMap_cons, List.append_assoc,
      List.append_assoc]

/-- The spaces that fill a text up to a field. -/
theorem writes_padding (k size : Nat) (ch : Char) :
    Writes (fun buffer => if k < size then fill buffer (size - k) ch else .ok buffer)
      (List.replicate (size - k) ch) := by
  intro buffer hbuffer
  dsimp only
  split
  · exact writes_fill _ ch buffer hbuffer
  · rename_i hge
    rw [Nat.sub_eq_zero_of_le (Nat.not_lt.1 hge), List.replicate_zero]
    exact writes_ok buffer hbuffer

/-- Padding in front of a text that is appended next. -/
theorem writes_leftpad (s : Text) (size : Nat) (ch : Char) :
    Writes (fun buffer =>
      (if s.length < size then fill buffer (size - s.length) ch else .ok buffer) >>= (extend · s))
      (s.leftpad size ch) := by
  rw [List.leftpad]
  exact (writes_padding s.length size ch).bind (writes_extend _)

/-- Padding behind what has been appended to the buffer. -/
theorem rightpad_in_place (buffer s : Text) (size : Nat) :
    (extend buffer s >>= fun filled =>
      let appendedSize := filled.length - buffer.length
      if appendedSize < size then fill filled (size - appendedSize) ' ' else .ok filled) =
      extend buffer (s.rightpad size ' ') := by
  by_cases hs : buffer.length + s.length ≤ maxSize
  · have hlength : (buffer ++ s).length - buffer.length = s.length := by
      rw [List.length_append, Nat.add_sub_cancel_left]
    rw [List.rightpad, ← extend_bind (writes_padding s.length size ' '), extend_of_le hs]
    simp only [bind, Except.bind, hlength]
  · have hpad : maxSize < buffer.length + (s.rightpad size ' ').length := by
      rw [List.length_rightpad]
      omega
    rw [extend_of_lt (Nat.not_le.1 hs), extend_of_lt hpad]
    rfl

/-- Padding on both sides. -/
theorem writes_center (s : Text) (size : Nat) :
    Writes (fun buffer => fill buffer ((size - s.length) / 2) ' ' >>= fun buffer =>
      extend buffer s >>= (fill · (size - (size - s.length) / 2 - s.length) ' '))
      (center size s) := by
  have hright : Writes (fun buffer => extend buffer s >>=
      (fill · (size - (size - s.length) / 2 - s.length) ' ')) _ :=
    fun buffer _ => extend_bind (writes_fill _ ' ') buffer s
  rw [center, List.append_assoc]
  exact (writes_fill _ ' ').bind hright

theorem center_of_ge {s : Text} {size : Nat} (h : ¬ s.length < size) : center size s = s := by
  have hzero : size - s.length = 0 := Nat.sub_eq_zero_of_le (Nat.not_lt.1 h)
  rw [center, hzero, Nat.zero_div, Nat.sub_zero, hzero]
  simp

theorem length_le_center (s : Text) (size : Nat) : s.length ≤ (center size s).length := by
  simp only [center, List.length_append, List.length_replicate]
  omega

mutual

/-- **Appending a value** adds its text to the buffer, and nothing else. -/
theorem append_eq (v : Value) : Writes (append · v) (text v) := by
  intro buffer hbuffer
  change append buffer v = _
  cases v with
  | bool b => rw [append, text]
  | string s => rw [append, text]
  | int i => rw [append, text, appendInt_eq]
  | array vs =>
    have hend : Writes (fun b => appendArray b vs >>= (extend · " \x7d".toList))
      (commas (texts vs) ++ " \x7d".toList) := (appendArray_eq vs).bind (writes_extend _)
    rw [append, text, List.append_assoc]
    exact extend_bind hend buffer _
  | tuple vs =>
    have hend : Writes (fun b => appendTuple b 0 vs >>= (extend · " >".toList))
      (commas (texts vs) ++ " >".toList) := (appendTuple_eq 0 vs).bind (writes_extend _)
    rw [append, text, List.append_assoc]
    exact extend_bind hend buffer _
  | printable s => rw [append, text]
  | padLeft v size =>
    have htemp : append [] v = extend [] (text v) := append_eq v [] (Nat.zero_le _)
    rw [append, htemp, text]
    refine extend_nil_bind (writes_leftpad (text v) size ' ' buffer hbuffer) ?_
    rw [List.leftpad, List.length_append]
    exact Nat.le_add_left ..
  | padRight v size =>
    have hvalue : append buffer v = extend buffer (text v) := append_eq v buffer hbuffer
    rw [append, hvalue, text]
    exact rightpad_in_place buffer (text v) size
  | pad v size =>
    have htemp : append [] v = extend [] (text v) := append_eq v [] (Nat.zero_le _)
    rw [append, htemp, text]
    refine extend_nil_bind ?_ (length_le_center ..)
    by_cases hlt : (text v).length < size
    · rw [if_pos hlt]
      exact writes_center (text v) size buffer hbuffer
    · rw [if_neg hlt, center_of_ge hlt]

theorem appendArray_eq (vs : List Value) : Writes (appendArray · vs) (commas (texts vs)) := by
  intro buffer hbuffer
  change appendArray buffer vs = _
  match vs with
  | [] => exact writes_ok buffer hbuffer
  | [v] =>
    have hvalue : append buffer v = extend buffer (text v) := append_eq v buffer hbuffer
    rw [appendArray, hvalue, texts, texts, commas_cons, List.flatMap_nil,
      List.append_nil]
  | v :: w :: vs =>
    have hrest : Writes (fun b => extend b ", ".toList >>= (appendArray · (w :: vs)))
      (", ".toList ++ commas (texts (w :: vs))) :=
        fun b _ => extend_bind (appendArray_eq (w :: vs)) b _
    have hvalue : append buffer v = extend buffer (text v) := append_eq v buffer hbuffer
    rw [appendArray, hvalue]
    refine (extend_bind hrest buffer _).trans ?_
    simp only [texts, commas_cons, List.flatMap_cons, List.append_assoc]

theorem appendTuple_eq (idx : Nat) (vs : List Value) :
    Writes (appendTuple · idx vs) (if idx = 0 then commas (texts vs)
      else (texts vs).flatMap fun t => ", ".toList ++ t) := by
  intro buffer hbuffer
  change appendTuple buffer idx vs = _
  match vs with
  | [] => simpa [appendTuple, texts, commas] using writes_ok buffer hbuffer
  | v :: vs =>
    have hcomma : Writes (fun b => if idx = 0 then .ok b else extend b ", ".toList)
      (if idx = 0 then [] else ", ".toList) := writes_ok.ite (writes_extend _)
    have hrest : Writes (fun b => append b v >>= (appendTuple · (idx + 1) vs)) _ :=
      (append_eq v).bind (appendTuple_eq (idx + 1) vs)
    rw [appendTuple]
    refine (hcomma.bind hrest buffer hbuffer).trans ?_
    rw [texts, commas_cons, List.flatMap_cons, if_neg idx.succ_ne_zero]
    split <;> simp only [List.append_assoc, List.nil_append]

end

theorem appendStringified_eq (vs : List Value) :
    Writes (appendStringified · vs) (texts vs).flatten := by
  induction vs with
  | nil => exact writes_ok
  | cons v vs ih =>
    rw [texts, List.flatten_cons]
    exact (append_eq v).bind ih

/-- A single integer always fits. -/
theorem extend_nil_toChars (i : Integral) :
    extend [] (toChars i.value) = .ok (toChars i.value) := by
  have hlength := length_toChars_le i
  have hlog : Nat.log 10 (2 ^ i.digits) ≤ i.digits :=
    (Nat.log_anti_left (by decide) (by decide)).trans (Nat.log_pow (by decide) _).le
  have hdigits := i.digits_le
  rw [maxIntDigits] at hlength
  refine extend_of_le ?_
  rw [List.length_nil, maxSize]
  omega

/-- **The stringifier** adds the texts of its arguments to the buffer, in order, and fails exactly
if they make it too long; a string made of them alone is the same, also if it is a single
integer. -/
theorem stringifier_eq (buffer : Text) (hbuffer : buffer.length ≤ maxSize) (vs : List Value) :
    (appendStringified buffer vs = if buffer.length + (texts vs).flatten.length ≤ maxSize
        then .ok (buffer ++ (texts vs).flatten) else .error .lengthError) ∧
      stringify vs = if (texts vs).flatten.length ≤ maxSize
        then .ok (texts vs).flatten else .error .lengthError := by
  refine ⟨appendStringified_eq vs buffer hbuffer, ?_⟩
  have hempty : stringify vs = extend [] (texts vs).flatten := by
    rw [stringify.eq_def]
    split
    · rename_i i
      simpa [texts, text] using (extend_nil_toChars i).symm
    · exact appendStringified_eq vs [] (Nat.zero_le _)
  simpa [extend] using hempty

/-- A field that is too wide. -/
theorem stringifier_eq_wide :
    stringify [.padLeft (.string "ab".toList) (2 ^ 62)] = .error .lengthError := by
  rw [(stringifier_eq [] (Nat.zero_le _) [.padLeft (.string "ab".toList) (2 ^ 62)]).2]
  refine if_neg ?_
  simp only [texts, text, List.flatten_cons, List.flatten_nil, List.append_nil]
  rw [List.length_leftpad]
  decide

example : stringify
      [.array [.bool true, .padLeft (.string "ab".toList) 4], .tuple [.string "x".toList]]
    = .ok "\x7b true,   ab \x7d< x >".toList := by decide

end WsTestClient.Log
