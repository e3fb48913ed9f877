import WsTestClient.Transition

/-!
# Simulations between step functions

A component is often part of a larger one, or a finer view of a coarser one, and then each step of
the one is matched by a *run* of the other: by one step, by several, or by none at all.  `Simulation`
is what one step owes, `Simulation.run` is what follows for whole runs.

What has to be carried over from the one side to the other is named in the structure: the relation
`R` between the states, the observations `obs` and `obs'` of the labels, which a step and the run
that matches it share, and a condition `C` on the steps of the one, which makes the steps of the
other meet the condition `D`.
-/

set_option autoImplicit false

namespace Transition

universe u v w x y

variable {σ : Type u} {ι : Type v} {τ : Type w} {κ : Type x} {ω : Type y}

/-- Each step of `step` is matched by a run of `step'`. -/
structure Simulation (step : σ → ι → Option σ) (step' : τ → κ → Option τ) (R : σ → τ → Prop)
    (obs : ι → List ω) (obs' : κ → List ω) (C : σ → ι → Prop) (D : τ → κ → Prop) : Prop where
  matched : ∀ {s s' : σ} {a : ι} {t : τ}, R s t → step s a = some s' →
    ∃ bs t', run step' t bs = some t' ∧ R s' t' ∧ bs.flatMap obs' = obs a ∧
      (C s a → Along step' D t bs)

variable {step : σ → ι → Option σ} {step' : τ → κ → Option τ} {R : σ → τ → Prop}
  {obs : ι → List ω} {obs' : κ → List ω} {C : σ → ι → Prop} {D : τ → κ → Prop}

/-- **The simulation rule.**  A whole run is matched by a run with the same observations, whose
steps all meet `D` if those of the first all meet `C`. -/
theorem Simulation.run (h : Simulation step step' R obs obs' C D) {s s' : σ} {as : List ι} {t : τ}
    (hR : R s t) (hrun : Transition.run step s as = some s') :
    ∃ bs t', Transition.run step' t bs = some t' ∧ R s' t' ∧ bs.flatMap obs' = as.flatMap obs ∧
      (Along step C s as → Along step' D t bs) := by
  induction as generalizing s t with
  | nil =>
    obtain rfl := Option.some.inj hrun
    exact ⟨[], t, rfl, hR, rfl, fun _ => trivial⟩
  | cons a as ih =>
    obtain ⟨m, hm, hrun⟩ := run_cons_eq_some.1 hrun
    obtain ⟨bs, t₁, hbs, hR₁, hobs, hcond⟩ := h.matched hR hm
    obtain ⟨cs, t₂, hcs, hR₂, hobs₂, hcond₂⟩ := ih hR₁ hrun
    refine ⟨bs ++ cs, t₂, (run_append_of_run hbs cs).trans hcs, hR₂, ?_, fun halong => ?_⟩
    · rw [List.flatMap_append, hobs, hobs₂, List.flatMap_cons]
    · refine along_append.2 ⟨hcond halong.1, fun t' ht' => ?_⟩
      obtain rfl := Option.some.inj (hbs.symm.trans ht')
      exact hcond₂ (halong.2 m hm)

end Transition
