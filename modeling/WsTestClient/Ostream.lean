import Mathlib.Algebra.Group.Nat.Defs
import Mathlib.Data.List.Basic

/-!
# Formatted output of unsigned numbers

`Ostream` is a character stream with the part of its formatting state an unsigned number is
written with: the base, the width of the next field and the fill character.  The base and the fill
stay as they are until they are set again; the width is used up by the next number.

`ofHex` reads lower-case hexadecimal digits.  A number written in base sixteen, with zeros in front
of it, reads back as that number (`ofHex_leftpad`), and it has exactly as many digits as the field
is wide if it fits (`length_leftpad_toDigits`).
-/

set_option autoImplicit false

/-- A stream, and how it writes the next number. -/
structure Ostream where
  base : Nat
  width : Nat
  fill : Char
  /-- What has been written. -/
  text : List Char

namespace Ostream

/-- An empty stream that has just been opened. -/
def empty : Ostream where
  base := 10
  width := 0
  fill := ' '
  text := []

/-- `std::hex`. -/
def hex (os : Ostream) : Ostream := { os with base := 16 }

/-- `std::setw`. -/
def setw (os : Ostream) (n : Nat) : Ostream := { os with width := n }

/-- `std::setfill`. -/
def setfill (os : Ostream) (c : Char) : Ostream := { os with fill := c }

/-- `operator<<` on an unsigned number: it is written to the right of its field, and the width is
reset. -/
def put (os : Ostream) (n : Nat) : Ostream :=
  { os with text := os.text ++ (Nat.toDigits os.base n).leftpad os.width os.fill, width := 0 }

/-- `std::endl`. -/
def endl (os : Ostream) : Ostream := { os with text := os.text ++ ['\n'] }

/-! ## Hexadecimal digits -/

/-- The value of a lower-case hexadecimal digit. -/
def hexValue (c : Char) : Option Nat :=
  if '0' ≤ c ∧ c ≤ '9' then some (c.toNat - '0'.toNat)
  else if 'a' ≤ c ∧ c ≤ 'f' then some (c.toNat - 'a'.toNat + 10)
  else none

/-- The value of the digits `cs` after digits of value `n`. -/
def ofHexFrom (n : Nat) : List Char → Option Nat
  | [] => some n
  | c :: cs => (hexValue c).bind fun d => ofHexFrom (16 * n + d) cs

/-- The number some lower-case hexadecimal digits stand for. -/
def ofHex (cs : List Char) : Option Nat := ofHexFrom 0 cs

theorem hexValue_digitChar {d : Nat} (h : d < 16) : hexValue d.digitChar = some d := by
  revert d
  decide

theorem ofHexFrom_append (n : Nat) (cs ds : List Char) :
    ofHexFrom n (cs ++ ds) = (ofHexFrom n cs).bind fun m => ofHexFrom m ds := by
  induction cs generalizing n with
  | nil => rfl
  | cons c cs ih =>
    rw [List.cons_append, ofHexFrom, ofHexFrom]
    cases hexValue c with
    | none => rfl
    | some d => exact ih _

/-- A number reads back from its digits. -/
theorem ofHex_toDigits (n : Nat) : ofHex (Nat.toDigits 16 n) = some n := by
  induction n using Nat.strongRecOn with
  | ind n ih =>
    rw [Nat.toDigits_eq_if (by decide)]
    split
    · rename_i hlt
      simp [ofHex, ofHexFrom, hexValue_digitChar hlt]
    · rename_i hge
      have hd := hexValue_digitChar (Nat.mod_lt n (by decide : 0 < 16))
      rw [ofHex, ofHexFrom_append, ← ofHex, ih (n / 16) (by omega)]
      simp only [Option.bind_some, ofHexFrom, hd]
      congr 1
      omega

/-- Every digit of a number is a lower-case hexadecimal digit. -/
theorem isSome_hexValue_of_mem_toDigits {n : Nat} {c : Char} (h : c ∈ Nat.toDigits 16 n) :
    (hexValue c).isSome = true := by
  induction n using Nat.strongRecOn with
  | ind n ih =>
    rw [Nat.toDigits_eq_if (by decide)] at h
    split at h
    · rename_i hlt
      rw [List.mem_singleton.1 h, hexValue_digitChar hlt]
      rfl
    · rcases List.mem_append.1 h with h | h
      · exact ih (n / 16) (by omega) h
      · rw [List.mem_singleton.1 h, hexValue_digitChar (Nat.mod_lt n (by decide))]
        rfl

/-! ## Numbers in a field filled with zeros -/

/-- Zeros in front do not change the number. -/
theorem ofHex_leftpad (k : Nat) (cs : List Char) : ofHex (cs.leftpad k '0') = ofHex cs := by
  have hzero : hexValue '0' = some 0 := by decide
  rw [List.leftpad]
  induction k - cs.length with
  | zero => rfl
  | succ m ih =>
    rw [List.replicate_succ, List.cons_append, ofHex, ofHexFrom, hzero]
    exact ih

theorem isSome_hexValue_of_mem_leftpad {k n : Nat} {c : Char}
    (h : c ∈ (Nat.toDigits 16 n).leftpad k '0') : (hexValue c).isSome = true := by
  rw [List.leftpad] at h
  rcases List.mem_append.1 h with h | h
  · rw [List.eq_of_mem_replicate h]
    decide
  · exact isSome_hexValue_of_mem_toDigits h

/-- A number that fits its field fills it exactly. -/
theorem length_leftpad_toDigits {k n : Nat} (hk : 0 < k) (h : n < 16 ^ k) :
    ((Nat.toDigits 16 n).leftpad k '0').length = k := by
  have := (Nat.length_toDigits_le_iff (b := 16) (by decide) hk).2 h
  rw [List.length_leftpad]
  omega

end Ostream
