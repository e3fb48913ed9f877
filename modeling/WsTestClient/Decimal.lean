import Mathlib.Data.List.TakeWhile

/-!
# Decimal numbers in a text

`toChars` writes an integer in base ten, as `std::to_chars` and `std::to_string` do, and `strtol`
reads one off the front of a text: it skips white space, accepts a sign, takes all digits there are
and does not care what follows.

`Numeral` is the same reading as a grammar, and `strtol_eq_some_iff` says that the two agree.  So
`strtol` fails exactly on the texts that do not begin with a number.
-/

set_option autoImplicit false

namespace Decimal

/-! ## Writing -/

def toChars (n : Int) : List Char :=
  if n < 0 then '-' :: Nat.toDigits 10 n.natAbs else Nat.toDigits 10 n.natAbs

theorem toChars_of_nonneg {n : Int} (h : 0 ≤ n) : toChars n = Nat.toDigits 10 n.natAbs :=
  if_neg (Int.not_lt.2 h)

/-! ## Reading -/

/-- `isspace` of the C locale. -/
def isSpace (c : Char) : Bool := decide (c = ' ' ∨ '\t' ≤ c ∧ c ≤ '\r')

/-- The sign in front of a number, and what follows it. -/
def splitSign : List Char → Bool × List Char
  | '-' :: cs => (true, cs)
  | '+' :: cs => (false, cs)
  | cs => (false, cs)

/-- The number with the given sign and magnitude. -/
def signed (negative : Bool) (n : Nat) : Int := if negative then -n else n

/-- `strtol` in base ten, without its bounds; `none` if no number can be read. -/
def strtol (cs : List Char) : Option Int :=
  let (negative, cs) := splitSign (cs.dropWhile isSpace)
  let digits := cs.takeWhile Char.isDigit
  if digits = [] then none else some (signed negative (Nat.ofDigitChars 10 digits 0))

/-! ## The grammar -/

/-- The sign `negative` can be written as `cs`. -/
inductive Sign : Bool → List Char → Prop
  | minus : Sign true ['-']
  | plus : Sign false ['+']
  | none : Sign false []

/-- The text begins with the number `n`. -/
inductive Numeral : List Char → Int → Prop
  | intro {spaces sign digits rest : List Char} {negative : Bool}
      (hspaces : ∀ c ∈ spaces, isSpace c = true) (hsign : Sign negative sign) (hne : digits ≠ [])
      (hdigits : ∀ c ∈ digits, c.isDigit = true) (hrest : ∀ c ∈ rest.head?, c.isDigit = false) :
      Numeral (spaces ++ (sign ++ (digits ++ rest)))
        (signed negative (Nat.ofDigitChars 10 digits 0))

theorem takeWhile_append_rest {p : Char → Bool} {cs rest : List Char} (hcs : ∀ c ∈ cs, p c = true)
    (hrest : ∀ c ∈ rest.head?, p c = false) : (cs ++ rest).takeWhile p = cs := by
  rw [List.takeWhile_append_of_pos hcs]
  cases rest with
  | nil => simp
  | cons c rest => simp [hrest c (by simp)]

theorem dropWhile_append_rest {p : Char → Bool} {cs rest : List Char} (hcs : ∀ c ∈ cs, p c = true)
    (hrest : ∀ c ∈ rest.head?, p c = false) : (cs ++ rest).dropWhile p = rest := by
  rw [List.dropWhile_append_of_pos hcs]
  cases rest with
  | nil => simp
  | cons c rest => simp [hrest c (by simp)]

theorem isDigit_iff {c : Char} : c.isDigit = true ↔ '0' ≤ c ∧ c ≤ '9' := by
  simp [Char.isDigit, Char.le_def]

theorem isSpace_of_isDigit {c : Char} (h : c.isDigit = true) : isSpace c = false := by
  obtain ⟨h0, -⟩ := isDigit_iff.1 h
  refine decide_eq_false ?_
  rintro (rfl | ⟨-, h1⟩)
  · exact absurd h0 (by decide)
  · exact absurd (Char.le_trans h0 h1) (by decide)

/-- The first character of a sign and the digits behind it is not white space. -/
theorem head?_sign_append {negative : Bool} {sign digits rest : List Char}
    (hsign : Sign negative sign) (hne : digits ≠ []) (hdigits : ∀ c ∈ digits, c.isDigit = true) :
    ∀ c ∈ (sign ++ (digits ++ rest)).head?, isSpace c = false := by
  intro c hc
  cases hsign with
  | minus =>
    obtain rfl : '-' = c := by simpa using hc
    decide
  | plus =>
    obtain rfl : '+' = c := by simpa using hc
    decide
  | none =>
    obtain ⟨d, ds, rfl⟩ := List.exists_cons_of_ne_nil hne
    obtain rfl : d = c := by simpa using hc
    exact isSpace_of_isDigit (hdigits d List.mem_cons_self)

theorem splitSign_of_sign {negative : Bool} {sign digits rest : List Char}
    (hsign : Sign negative sign) (hne : digits ≠ []) (hdigits : ∀ c ∈ digits, c.isDigit = true) :
    splitSign (sign ++ (digits ++ rest)) = (negative, digits ++ rest) := by
  cases hsign with
  | minus => simp [splitSign]
  | plus => simp [splitSign]
  | none =>
    obtain ⟨d, ds, rfl⟩ := List.exists_cons_of_ne_nil hne
    have hd := hdigits d List.mem_cons_self
    rw [List.nil_append, List.cons_append, splitSign.eq_def]
    split
    · rename_i heq
      rw [(List.cons.inj heq).1] at hd
      exact absurd hd (by decide)
    · rename_i heq
      rw [(List.cons.inj heq).1] at hd
      exact absurd hd (by decide)
    · simp

theorem strtol_of_numeral {cs : List Char} {n : Int} (h : Numeral cs n) : strtol cs = some n := by
  cases h with
  | @intro spaces sign digits rest negative hspaces hsign hne hdigits hrest =>
    rw [strtol, dropWhile_append_rest hspaces (head?_sign_append hsign hne hdigits),
      splitSign_of_sign hsign hne hdigits]
    dsimp only
    rw [takeWhile_append_rest hdigits hrest, if_neg hne]

/-- The text is the sign in front of it and the rest. -/
theorem sign_splitSign (cs : List Char) :
    ∃ sign, Sign (splitSign cs).1 sign ∧ cs = sign ++ (splitSign cs).2 := by
  rw [splitSign.eq_def]
  split
  · exact ⟨['-'], .minus, by simp⟩
  · exact ⟨['+'], .plus, by simp⟩
  · exact ⟨[], .none, by simp⟩

theorem head?_dropWhile {p : Char → Bool} (cs : List Char) :
    ∀ c ∈ (cs.dropWhile p).head?, p c = false := by
  intro c hc
  have hnot := List.head?_dropWhile_not p cs
  rw [hc] at hnot
  exact hnot

/-- **`strtol` reads the grammar.** -/
theorem strtol_eq_some_iff {cs : List Char} {n : Int} : strtol cs = some n ↔ Numeral cs n := by
  refine ⟨fun h => ?_, strtol_of_numeral⟩
  obtain ⟨sign, hsign, hsplit⟩ := sign_splitSign (cs.dropWhile isSpace)
  rw [strtol] at h
  generalize splitSign (cs.dropWhile isSpace) = split at h hsign hsplit
  obtain ⟨negative, tail⟩ := split
  dsimp only at h hsign hsplit
  split at h
  · simp at h
  · rename_i hne
    obtain rfl := Option.some.inj h
    have hcs : cs = cs.takeWhile isSpace ++ (sign ++ (tail.takeWhile Char.isDigit ++
        tail.dropWhile Char.isDigit)) := by
      rw [List.takeWhile_append_dropWhile, ← hsplit, List.takeWhile_append_dropWhile]
    rw [hcs]
    exact .intro (fun c hc => List.mem_takeWhile_imp hc) hsign hne
      (fun c hc => List.mem_takeWhile_imp hc) (head?_dropWhile tail)

end Decimal
