import Mathlib.Data.List.Basic

/-!
# Cutting a text into lines

`Lines.lines sep` is what a loop of `std::getline` collects from a text that is a list: each call
takes the symbols up to the next separator, which it consumes, or up to the end, and finds nothing
only when nothing is left.

The number of lines is the number of separators, and one more when the text does not end with a
separator: `length_lines`.  A text can be put together from lines that contain no separator in two
ways, with a separator after each line or between them; `lines_flatMap` and `lines_intercalate`
say that the lines come back.
-/

set_option autoImplicit false

namespace Lines

universe u

variable {α : Type u} [DecidableEq α] (sep : α)

/-- Put a symbol in front of the first line, which is a new one if there is none. -/
def consFirst (c : α) : List (List α) → List (List α)
  | [] => [[c]]
  | line :: rest => (c :: line) :: rest

/-- All the lines of a text. -/
def lines : List α → List (List α)
  | [] => []
  | c :: cs => if c = sep then [] :: lines cs else consFirst c (lines cs)

@[simp] theorem lines_nil : lines sep [] = [] := rfl

@[simp] theorem lines_cons_self (cs : List α) : lines sep (sep :: cs) = [] :: lines sep cs := by
  rw [lines, if_pos rfl]

theorem lines_cons_of_ne {sep c : α} (h : c ≠ sep) (cs : List α) :
    lines sep (c :: cs) = consFirst c (lines sep cs) := by
  rw [lines, if_neg h]

omit [DecidableEq α] in
theorem length_consFirst_of_ne_nil (c : α) {ls : List (List α)} (h : ls ≠ []) :
    (consFirst c ls).length = ls.length := by
  cases ls with
  | nil => exact absurd rfl h
  | cons l ls => rfl

theorem lines_ne_nil {cs : List α} (h : cs ≠ []) : lines sep cs ≠ [] := by
  cases cs with
  | nil => exact absurd rfl h
  | cons c cs =>
    by_cases hc : c = sep
    · rw [hc, lines_cons_self]
      exact List.cons_ne_nil _ _
    · rw [lines_cons_of_ne hc]
      cases lines sep cs <;> exact List.cons_ne_nil _ _

/-- **Counting lines**: one for each separator, and one more for a last line without. -/
theorem length_lines (cs : List α) :
    (lines sep cs).length =
      cs.count sep + if cs = [] ∨ cs.getLast? = some sep then 0 else 1 := by
  induction cs with
  | nil => simp
  | cons c cs ih =>
    by_cases h : c = sep
    · rw [h, lines_cons_self, List.length_cons, ih, List.count_cons_self]
      cases cs with
      | nil => simp
      | cons d cs => simp [List.getLast?_cons_cons]; omega
    · rw [lines_cons_of_ne h, List.count_cons_of_ne h]
      cases cs with
      | nil => simp [consFirst, h]
      | cons d cs =>
        rw [length_consFirst_of_ne_nil c (lines_ne_nil sep (List.cons_ne_nil d cs)), ih]
        simp [List.getLast?_cons_cons]

/-- The separators fall short of the lines by at most one. -/
theorem count_le_length_lines (cs : List α) :
    cs.count sep ≤ (lines sep cs).length ∧ (lines sep cs).length ≤ cs.count sep + 1 := by
  rw [length_lines]
  split <;> omega

/-! ## Putting lines together -/

variable {sep}

theorem lines_append_sep {line : List α} (h : sep ∉ line) (cs : List α) :
    lines sep (line ++ sep :: cs) = line :: lines sep cs := by
  induction line with
  | nil => exact lines_cons_self sep cs
  | cons c line ih =>
    obtain ⟨hc, hline⟩ := not_or.1 (mt List.mem_cons.2 h)
    rw [List.cons_append, lines_cons_of_ne (Ne.symm hc), ih hline]
    rfl

theorem lines_of_not_mem {line : List α} (h : sep ∉ line) (hne : line ≠ []) :
    lines sep line = [line] := by
  induction line with
  | nil => exact absurd rfl hne
  | cons c line ih =>
    obtain ⟨hc, hline⟩ := not_or.1 (mt List.mem_cons.2 h)
    rw [lines_cons_of_ne (Ne.symm hc)]
    cases line with
    | nil => rfl
    | cons d line =>
      rw [ih hline (List.cons_ne_nil d line)]
      rfl

/-- **Lines with a separator after each come back.** -/
theorem lines_flatMap {ls : List (List α)} (h : ∀ l ∈ ls, sep ∉ l) :
    lines sep (ls.flatMap fun l => l ++ [sep]) = ls := by
  induction ls with
  | nil => rfl
  | cons l ls ih =>
    rw [List.flatMap_cons, List.append_assoc, List.singleton_append,
      lines_append_sep (h l List.mem_cons_self), ih fun m hm => h m (List.mem_cons_of_mem l hm)]

/-- **Lines with separators between them come back**, unless one of them is empty. -/
theorem lines_intercalate {ls : List (List α)} (h : ∀ l ∈ ls, l ≠ [] ∧ sep ∉ l) :
    lines sep (List.intercalate [sep] ls) = ls := by
  induction ls with
  | nil => rfl
  | cons l ls ih =>
    obtain ⟨hne, hl⟩ := h l List.mem_cons_self
    have hls : ∀ m ∈ ls, m ≠ [] ∧ sep ∉ m := fun m hm => h m (List.mem_cons_of_mem l hm)
    cases ls with
    | nil => rw [List.intercalate_singleton, lines_of_not_mem hl hne]
    | cons m ls =>
      rw [List.intercalate_cons_cons, List.append_assoc, List.singleton_append,
        lines_append_sep hl, ih hls]

omit [DecidableEq α] in
/-- A separator at the end makes the difference between the two ways. -/
theorem intercalate_append_sep {ls : List (List α)} (h : ls ≠ []) :
    List.intercalate [sep] ls ++ [sep] = ls.flatMap fun l => l ++ [sep] := by
  induction ls with
  | nil => exact absurd rfl h
  | cons l ls ih =>
    cases ls with
    | nil => simp
    | cons m ls => rw [List.intercalate_cons_cons, List.append_assoc, ih (List.cons_ne_nil m ls)]; rfl

theorem count_flatMap {ls : List (List α)} (h : ∀ l ∈ ls, sep ∉ l) :
    (ls.flatMap fun l => l ++ [sep]).count sep = ls.length := by
  induction ls with
  | nil => rfl
  | cons l ls ih =>
    rw [List.flatMap_cons, List.count_append, List.count_append, List.count_singleton_self,
      List.count_eq_zero_of_not_mem (h l List.mem_cons_self),
      ih fun m hm => h m (List.mem_cons_of_mem l hm), List.length_cons]
    omega

end Lines
