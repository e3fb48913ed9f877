import Mathlib

/-!
# The numbers of the threads

What the thread column shows is not the identifier of a thread but a number that `_get_thread_index`
gives it.  The function keeps a table of the identifiers it has seen, under a mutex, so that its
calls come one after the other in some order; here the order is any.  The table is never cleared, and
an identifier may come back: when a detached thread has ended, another may get its identifier, and
its number with it.

* `threadIndices_eq` — the number of an identifier is its place in the order in which they have come
  for the first time.
-/

set_option autoImplicit false

namespace WsTestClient.Log

variable {Id : Type} [DecidableEq Id]

/-- The static variables of `_get_thread_index`. -/
structure ThreadIds (Id : Type) where
  threadIds : Id → Option UInt64
  nextId : UInt64

def ThreadIds.init : ThreadIds Id where
  threadIds _ := none
  nextId := 0

/-- `_get_thread_index`, with the static variables it leaves behind. -/
def getThreadIndex (s : ThreadIds Id) (id : Id) : UInt64 × ThreadIds Id :=
  match s.threadIds id with
  | none =>
    (s.nextId, ⟨Function.update s.threadIds id (some s.nextId), s.nextId + 1⟩)
  | some index => (index, s)

/-- What the calls return, in the order in which they get the mutex. -/
def threadIndices (s : ThreadIds Id) : List Id → List UInt64
  | [] => []
  | id :: ids => (getThreadIndex s id).1 :: threadIndices (getThreadIndex s id).2 ids

/-! ## First occurrences -/

theorem eraseDups_concat (seen : List Id) (id : Id) :
    (seen ++ [id]).eraseDups = seen.eraseDups ++ if id ∈ seen then [] else [id] := by
  rw [List.eraseDups_append]
  by_cases h : id ∈ seen
  · simp [List.removeAll, h]
  · simp [List.removeAll, h, List.eraseDups_cons]

theorem idxOf_eraseDups_append {seen : List Id} {id : Id} (h : id ∈ seen) (more : List Id) :
    (seen ++ more).eraseDups.idxOf id = seen.eraseDups.idxOf id := by
  rw [List.eraseDups_append, List.idxOf_append, if_pos (List.mem_eraseDups.2 h)]

theorem idxOf_eraseDups_concat {seen : List Id} {id : Id} (h : id ∉ seen) :
    (seen ++ [id]).eraseDups.idxOf id = seen.eraseDups.length := by
  rw [eraseDups_concat, if_neg h, List.idxOf_append, if_neg fun hid => h (List.mem_eraseDups.1 hid),
    List.idxOf_cons_self, Nat.zero_add]

/-! ## The numbering -/

/-- The table holds the identifiers seen so far, each with its place among the first occurrences. -/
structure Numbered (s : ThreadIds Id) (seen : List Id) : Prop where
  index : ∀ id ∈ seen, s.threadIds id = some (UInt64.ofNat (seen.eraseDups.idxOf id))
  unseen : ∀ id, id ∉ seen → s.threadIds id = none
  next : s.nextId = UInt64.ofNat seen.eraseDups.length

theorem numbered_init : Numbered (.init : ThreadIds Id) [] :=
  ⟨by simp, fun _ _ => rfl, rfl⟩

/-- An identifier comes that has not been seen. -/
theorem Numbered.add {s : ThreadIds Id} {seen : List Id} (hi : Numbered s seen) {id : Id}
    (hid : id ∉ seen) :
    Numbered ⟨Function.update s.threadIds id (some s.nextId), s.nextId + 1⟩ (seen ++ [id]) := by
  have hmore : (seen ++ [id]).eraseDups = seen.eraseDups ++ [id] := by
    rw [eraseDups_concat, if_neg hid]
  refine ⟨fun other hother => ?_, fun other hother => ?_, ?_⟩
  · dsimp only
    by_cases hsame : other = id
    · rw [hsame, Function.update_self, idxOf_eraseDups_concat hid, hi.next]
    · have hold : other ∈ seen := (List.mem_append.1 hother).resolve_right fun h =>
        hsame (List.mem_singleton.1 h)
      rw [Function.update_of_ne hsame, idxOf_eraseDups_append hold]
      exact hi.index other hold
  · dsimp only
    rw [List.mem_append, List.mem_singleton, not_or] at hother
    rw [Function.update_of_ne hother.2]
    exact hi.unseen other hother.1
  · dsimp only
    rw [hmore, List.length_append, List.length_singleton, UInt64.ofNat_add, hi.next]
    rfl

/-- An identifier comes again. -/
theorem Numbered.again {s : ThreadIds Id} {seen : List Id} (hi : Numbered s seen) {id : Id}
    (hid : id ∈ seen) : Numbered s (seen ++ [id]) := by
  have hsame : (seen ++ [id]).eraseDups = seen.eraseDups := by
    rw [eraseDups_concat, if_pos hid, List.append_nil]
  have hmem : ∀ other, other ∈ seen ++ [id] ↔ other ∈ seen := fun other => by
    rw [← List.mem_eraseDups, hsame, List.mem_eraseDups]
  refine ⟨fun other hother => ?_, fun other hother => ?_, ?_⟩
  · rw [hsame]
    exact hi.index other ((hmem other).1 hother)
  · exact hi.unseen other fun h => hother ((hmem other).2 h)
  · rw [hsame]
    exact hi.next

theorem numbered_step {s : ThreadIds Id} {seen : List Id} (hi : Numbered s seen) (id : Id) :
    (getThreadIndex s id).1 = UInt64.ofNat ((seen ++ [id]).eraseDups.idxOf id) ∧
      Numbered (getThreadIndex s id).2 (seen ++ [id]) := by
  by_cases hid : id ∈ seen
  · simp only [getThreadIndex, hi.index id hid]
    exact ⟨by rw [idxOf_eraseDups_append hid], hi.again hid⟩
  · simp only [getThreadIndex, hi.unseen id hid]
    exact ⟨by rw [idxOf_eraseDups_concat hid, hi.next], hi.add hid⟩

theorem threadIndices_of_numbered {s : ThreadIds Id} {seen : List Id} (hi : Numbered s seen)
    (ids : List Id) :
    threadIndices s ids = ids.map fun id => UInt64.ofNat ((seen ++ ids).eraseDups.idxOf id) := by
  induction ids generalizing s seen with
  | nil => rfl
  | cons id ids ih =>
    obtain ⟨hindex, hnext⟩ := numbered_step hi id
    have hassoc : seen ++ id :: ids = (seen ++ [id]) ++ ids := by
      rw [List.append_assoc, List.singleton_append]
    have hmem : id ∈ seen ++ [id] := List.mem_append_right seen List.mem_cons_self
    -- what comes later does not move the place of `id`
    have hplace := idxOf_eraseDups_append hmem ids
    rw [threadIndices, List.map_cons, ih hnext, hassoc, hplace, hindex]

/-- **The numbers of the threads**: in whatever order the calls come, each returns the place of the
identifier it is made under, in the order in which the identifiers have come first. -/
theorem threadIndices_eq (ids : List Id) :
    threadIndices .init ids = ids.map fun id => UInt64.ofNat (ids.eraseDups.idxOf id) :=
  threadIndices_of_numbered numbered_init ids

/-- The third thread has got the identifier of the first. -/
example : threadIndices .init [7, 9, 7] = [0, 1, 0] := by decide

end WsTestClient.Log
