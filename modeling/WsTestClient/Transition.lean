import Mathlib.Data.List.Infix
import Mathlib.Data.List.Induction

/-!
# Runs of a labelled step function

A component is given by a partial function `step : σ → ι → Option σ`: in state `s` the step
labelled `a` leads to `t` when `step s a = some t`, and is not possible when `step s a = none`.
Nothing here knows what the states are; this file only says what it means to *run* such a
function along a list of labels, and how a fact about one step becomes a fact about a run.

* `run step s as` is the state the labels `as` lead to.
* `Along step C s as` says that every step of the run meets the condition `C`, which may look at
  the state before the step and at its label.
* `Always step P s as` says that `P` holds in every state the run visits, the first one included.

The rules a client uses are `run_preserves`, for "in every run", `run_invariant`, for "in every run
whose steps all meet `C`", and `always_iff_along`, for "in every state of this run": it trades a
property of the visited states for a condition on the steps.
-/

set_option autoImplicit false

namespace Transition

universe u v

variable {σ : Type u} {ι : Type v}

/-- The state the labels `as` lead to from `s`, if all of these steps are possible. -/
def run (step : σ → ι → Option σ) : σ → List ι → Option σ
  | s, [] => some s
  | s, a :: as => (step s a).bind fun t => run step t as

/-- Every step of the run along `as` meets `C`. -/
def Along (step : σ → ι → Option σ) (C : σ → ι → Prop) : σ → List ι → Prop
  | _, [] => True
  | s, a :: as => C s a ∧ ∀ t, step s a = some t → Along step C t as

/-- Every state the run along `as` visits satisfies `P`. -/
def Always (step : σ → ι → Option σ) (P : σ → Prop) (s : σ) (as : List ι) : Prop :=
  ∀ pre t, pre <+: as → run step s pre = some t → P t

variable {step : σ → ι → Option σ} {C D : σ → ι → Prop} {P I : σ → Prop}

/-! ## Runs -/

theorem run_cons (s : σ) (a : ι) (as : List ι) :
    run step s (a :: as) = (step s a).bind fun t => run step t as := rfl

theorem run_cons_eq_some {s u : σ} {a : ι} {as : List ι} :
    run step s (a :: as) = some u ↔ ∃ t, step s a = some t ∧ run step t as = some u := by
  rw [run_cons, Option.bind_eq_some_iff]

theorem run_append (s : σ) (as bs : List ι) :
    run step s (as ++ bs) = (run step s as).bind fun t => run step t bs := by
  induction as generalizing s with
  | nil => rfl
  | cons a as ih =>
    rw [List.cons_append, run_cons, run_cons, Option.bind_assoc]
    exact Option.bind_congr fun t _ => ih t

theorem run_append_of_run {s t : σ} {as : List ι} (h : run step s as = some t) (bs : List ι) :
    run step s (as ++ bs) = run step t bs := by
  rw [run_append, h, Option.bind_some]

theorem run_concat_eq_some {s u : σ} {as : List ι} {a : ι} :
    run step s (as ++ [a]) = some u ↔ ∃ t, run step s as = some t ∧ step t a = some u := by
  rw [run_append, Option.bind_eq_some_iff]
  simp [run]

/-- A step function that is never stuck runs as a fold. -/
theorem run_total (f : σ → ι → σ) (s : σ) (as : List ι) :
    run (fun s a => some (f s a)) s as = some (as.foldl f s) := by
  induction as generalizing s with
  | nil => rfl
  | cons a as ih => exact ih (f s a)

/-! ## Conditions on the steps of a run -/

theorem along_append {s : σ} {as bs : List ι} :
    Along step C s (as ++ bs) ↔
      Along step C s as ∧ ∀ t, run step s as = some t → Along step C t bs := by
  induction as generalizing s with
  | nil => exact ⟨fun h => ⟨trivial, fun t ht => Option.some.inj ht ▸ h⟩, fun h => h.2 s rfl⟩
  | cons a as ih =>
    constructor
    · intro ⟨hC, h⟩
      refine ⟨⟨hC, fun t ht => (ih.1 (h t ht)).1⟩, fun u hu => ?_⟩
      obtain ⟨t, ht, hrun⟩ := run_cons_eq_some.1 hu
      exact (ih.1 (h t ht)).2 u hrun
    · intro ⟨⟨hC, h⟩, hbs⟩
      exact ⟨hC, fun t ht => ih.2 ⟨h t ht, fun u hu => hbs u (run_cons_eq_some.2 ⟨t, ht, hu⟩)⟩⟩

theorem along_concat {s : σ} {as : List ι} {a : ι} :
    Along step C s (as ++ [a]) ↔ Along step C s as ∧ ∀ t, run step s as = some t → C t a := by
  rw [along_append]
  exact and_congr_right fun _ => forall₂_congr fun t _ =>
    ⟨fun h => h.1, fun h => ⟨h, fun _ _ => trivial⟩⟩

theorem Along.mono (hCD : ∀ s a, C s a → D s a) {s : σ} {as : List ι}
    (h : Along step C s as) : Along step D s as := by
  induction as generalizing s with
  | nil => trivial
  | cons a as ih => exact ⟨hCD s a h.1, fun t ht => ih (h.2 t ht)⟩

theorem Along.and {s : σ} {as : List ι} (hC : Along step C s as) (hD : Along step D s as) :
    Along step (fun s a => C s a ∧ D s a) s as := by
  induction as generalizing s with
  | nil => trivial
  | cons a as ih => exact ⟨⟨hC.1, hD.1⟩, fun t ht => ih (hC.2 t ht) (hD.2 t ht)⟩

/-- A decidable condition can be checked along a run. -/
instance Along.decidable [∀ s a, Decidable (C s a)] : ∀ (as : List ι) (s : σ),
    Decidable (Along step C s as)
  | [], _ => instDecidableTrue
  | a :: as, s =>
    letI (t : σ) : Decidable (Along step C t as) := Along.decidable as t
    inferInstanceAs (Decidable (C s a ∧ ∀ t ∈ step s a, Along step C t as))

/-- A condition on the labels alone. -/
theorem Along.of_mem {s : σ} {as : List ι} (h : ∀ a ∈ as, ∀ s, C s a) : Along step C s as := by
  induction as generalizing s with
  | nil => trivial
  | cons a as ih =>
    exact ⟨h a List.mem_cons_self s, fun _ _ => ih fun b hb => h b (List.mem_cons_of_mem a hb)⟩

/-- **The invariant rule.**  What holds at the start and survives every step that meets `C` holds
at the end of every run whose steps meet `C`. -/
theorem run_invariant (hI : ∀ s a t, I s → C s a → step s a = some t → I t) {s t : σ}
    {as : List ι} (hs : I s) (hC : Along step C s as) (hrun : run step s as = some t) : I t := by
  induction as generalizing s with
  | nil => exact Option.some.inj hrun ▸ hs
  | cons a as ih =>
    obtain ⟨m, hm, hrun⟩ := run_cons_eq_some.1 hrun
    exact ih (hI s a m hs hC.1 hm) (hC.2 m hm) hrun

/-- The invariant rule for runs of any kind. -/
theorem run_preserves (hI : ∀ s a t, I s → step s a = some t → I t) {s t : σ} {as : List ι}
    (hs : I s) (hrun : run step s as = some t) : I t :=
  run_invariant (C := fun _ _ => True) (fun s a t h _ => hI s a t h) hs
    (.of_mem fun _ _ _ => trivial) hrun

/-- Two conditions that agree wherever the invariant holds, one of which keeps the invariant, are
met by the same runs. -/
theorem along_congr (hI : ∀ s a t, I s → C s a → step s a = some t → I t)
    (hCD : ∀ s a, I s → (C s a ↔ D s a)) {s : σ} {as : List ι} (hs : I s) :
    Along step C s as ↔ Along step D s as := by
  induction as generalizing s with
  | nil => exact Iff.rfl
  | cons a as ih =>
    refine ⟨fun h => ⟨(hCD s a hs).1 h.1, fun t ht => ?_⟩,
      fun h => ⟨(hCD s a hs).2 h.1, fun t ht => ?_⟩⟩
    · exact (ih (hI s a t hs h.1 ht)).1 (h.2 t ht)
    · exact (ih (hI s a t hs ((hCD s a hs).2 h.1) ht)).2 (h.2 t ht)

/-! ## Properties of the visited states -/

theorem Always.start {s : σ} {as : List ι} (h : Always step P s as) : P s :=
  h [] s List.nil_prefix rfl

theorem Always.end {s t : σ} {as : List ι} (h : Always step P s as)
    (hrun : run step s as = some t) : P t :=
  h as t (List.prefix_refl as) hrun

theorem Always.mono {Q : σ → Prop} (hPQ : ∀ s, P s → Q s) {s : σ} {as : List ι}
    (h : Always step P s as) : Always step Q s as :=
  fun pre t hpre hrun => hPQ t (h pre t hpre hrun)

/-- A property of all visited states is a property of the first one and a condition on every
step: the step leads to such a state again. -/
theorem always_iff_along {s : σ} {as : List ι} :
    Always step P s as ↔ P s ∧ Along step (fun s a => ∀ t, step s a = some t → P t) s as := by
  induction as generalizing s with
  | nil =>
    refine ⟨fun h => ⟨h.start, trivial⟩, fun h pre t hpre hrun => ?_⟩
    rw [List.prefix_nil.1 hpre] at hrun
    exact Option.some.inj hrun ▸ h.1
  | cons a as ih =>
    constructor
    · intro h
      have htail : ∀ t, step s a = some t → Always step P t as := fun t ht pre u hpre hrun =>
        h (a :: pre) u (List.cons_prefix_cons.2 ⟨rfl, hpre⟩) (run_cons_eq_some.2 ⟨t, ht, hrun⟩)
      exact ⟨h.start, fun t ht => (htail t ht).start, fun t ht => (ih.1 (htail t ht)).2⟩
    · rintro ⟨hs, hstep, htail⟩ pre u hpre hrun
      cases pre with
      | nil => exact Option.some.inj hrun ▸ hs
      | cons b pre =>
        obtain ⟨rfl, htl⟩ := List.cons_prefix_cons.1 hpre
        obtain ⟨t, ht, hrun⟩ := run_cons_eq_some.1 hrun
        exact ih.2 ⟨hstep t ht, htail t ht⟩ pre u htl hrun

/-- An invariant holds in every state of a run whose steps meet the condition it needs. -/
theorem always_of_invariant (hI : ∀ s a t, I s → C s a → step s a = some t → I t) {s : σ}
    {as : List ι} (hs : I s) (hC : Along step C s as) : Always step I s as := by
  rintro pre t ⟨post, rfl⟩ hrun
  exact run_invariant hI hs (along_append.1 hC).1 hrun

/-- **The exact condition.**  If, wherever `I` and `P` hold, a step keeps `P` exactly when it meets
`C`, then the runs that never leave `P` are the runs whose steps all meet `C`. -/
theorem always_iff_of_step (hI : ∀ s a t, I s → step s a = some t → I t)
    (hP : ∀ s a, I s → P s → ((∀ t, step s a = some t → P t) ↔ C s a)) {s : σ} {as : List ι}
    (hs : I s) (hPs : P s) : Always step P s as ↔ Along step C s as := by
  rw [always_iff_along, and_iff_right hPs]
  exact along_congr (I := fun s => I s ∧ P s) (fun s a t h hC ht => ⟨hI s a t h.1 ht, hC t ht⟩)
    (fun s a h => hP s a h.1 h.2) ⟨hs, hPs⟩

end Transition
