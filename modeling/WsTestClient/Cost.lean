import Mathlib.Algebra.Order.Monoid.Defs
import Mathlib.Algebra.BigOperators.Group.List.Basic
import WsTestClient.Transition

/-!
# What a run costs

A cost is given for each step of a step function, and may depend on the state the step starts in and
on its label: the time a step takes, or one if the step is of a certain kind.  `total` adds the costs
up along a run.

Bounds for `total` come from a *potential*, a function of the states that a step raises by at most
its cost: `potential_run` says that then a run raises it by at most the total.
-/

set_option autoImplicit false

namespace Transition

universe u v w

variable {σ : Type u} {ι : Type v} {M : Type w}

/-- The costs of the steps of the run along `as`, taken together. -/
def total [Zero M] [Add M] (step : σ → ι → Option σ) (cost : σ → ι → M) : σ → List ι → M
  | _, [] => 0
  | s, a :: as => cost s a + (step s a).elim 0 fun t => total step cost t as

variable {step : σ → ι → Option σ}

theorem total_cons_of_step [Zero M] [Add M] {cost : σ → ι → M} {s t : σ} {a : ι}
    (h : step s a = some t) (as : List ι) :
    total step cost s (a :: as) = cost s a + total step cost t as := by
  rw [total, h, Option.elim_some]

/-- A cost that depends on the labels alone. -/
theorem total_labels [AddMonoid M] (cost : ι → M) {s t : σ} {as : List ι}
    (hrun : run step s as = some t) :
    total step (fun _ a => cost a) s as = (as.map cost).sum := by
  induction as generalizing s with
  | nil => rfl
  | cons a as ih =>
    obtain ⟨m, hm, hrun⟩ := run_cons_eq_some.1 hrun
    rw [total_cons_of_step hm, ih hrun, List.map_cons, List.sum_cons]

/-- Two costs that are reckoned together. -/
theorem total_add [AddCommMonoid M] (cost cost' : σ → ι → M) (s : σ) (as : List ι) :
    total step (fun s a => cost s a + cost' s a) s as =
      total step cost s as + total step cost' s as := by
  induction as generalizing s with
  | nil => exact (add_zero 0).symm
  | cons a as ih =>
    rw [total, total, total]
    cases step s a with
    | none => simp only [Option.elim_none, add_zero]
    | some t =>
      rw [Option.elim_some, Option.elim_some, Option.elim_some, ih t]
      exact add_add_add_comm _ _ _ _

/-- **The potential rule.**  A potential that each step raises by at most its cost is raised by a
run by at most the total. -/
theorem potential_run [AddCommMonoid M] [PartialOrder M] [IsOrderedAddMonoid M]
    {cost : σ → ι → M} {I : σ → Prop} {potential : σ → M}
    (hI : ∀ s a t, I s → step s a = some t → I t)
    (hstep : ∀ s a t, I s → step s a = some t → potential t ≤ potential s + cost s a) {s t : σ}
    {as : List ι} (hs : I s) (hrun : run step s as = some t) :
    potential t ≤ potential s + total step cost s as := by
  induction as generalizing s with
  | nil =>
    obtain rfl := Option.some.inj hrun
    rw [total, add_zero]
  | cons a as ih =>
    obtain ⟨m, hm, hrun⟩ := run_cons_eq_some.1 hrun
    calc potential t
      _ ≤ potential m + total step cost m as := ih (hI s a m hs hm) hrun
      _ ≤ potential s + cost s a + total step cost m as :=
        add_le_add_left (hstep s a m hs hm) _
      _ = potential s + total step cost s (a :: as) := by
        rw [total_cons_of_step hm, add_assoc]

end Transition
