import WsTestClient.Fleet.System
import WsTestClient.Simulation
import WsTestClient.Threads.Payloads
import WsTestClient.Threads.Progress

/-!
# A device of the fleet is a device

Seen from one device, a fleet is an environment: the clock moves on, the other devices advance the
counter of `ws_get_payload` now and then, and those of the same thread leave orphans behind, whose
stray writes end the calls of one device or another.  This file makes that precise, and with it
carries over to the fleet what is known of the system around one device.

* A step of a device leaves the clock alone (`step_clock`), the counter of `ws_get_payload` where
  `step_counter` says, and the stray writes to come where `Change.strays_cases` says.
* `device_simulation` — every step of the fleet is, for device `i` of thread `t`, its own step, a
  step of the clock, or at most one of the steps `otherDevice`, `otherOrphan` and `otherStray` for
  each of the things it shares.
* `device_run` — so the device makes a run of its own, with the very steps it makes in the fleet, and
  ends where it is in the fleet.  `device_reachable` is the short form.
-/

set_option autoImplicit false

namespace WsTestClient

open Transition

/-! ## What a step of a device shares -/

theorem step_clock {cfg : Config} {σ σ' : Sys} {a : Action} (h : step cfg σ a = some σ')
    (ha : a.isShared = false) : σ'.clock = σ.clock := by
  refine (step_change h).clock_eq ?_
  rintro now rfl
  simp [Action.isShared] at ha

/-- One stray write more is to come, or one less, or as many as before. -/
theorem Change.strays_cases {a : Action} {h h' : Handoff} (hc : Change a h h') :
    h'.strays = h.strays ∨ h'.strays = h.strays + 1 ∨ 0 < h.strays ∧ h'.strays = h.strays - 1 := by
  cases hc with
  | otherOrphan => exact Or.inr (Or.inl rfl)
  | hit hstrays _ _ => exact Or.inr (Or.inr ⟨hstrays, rfl⟩)
  | miss hstrays => exact Or.inr (Or.inr ⟨hstrays, rfl⟩)
  | @leave _ _ _ worker _ _ _ =>
    cases worker.abandoned with
    | true => exact Or.inr (Or.inl rfl)
    | false => exact Or.inl rfl
  | _ => exact Or.inl rfl

/-- What another device does to what is shared, as steps of the environment. -/
theorem environment_run (cfg : Config) (σ : Sys) {counter : UInt64} {strays : Nat}
    (hcounter : counter = σ.whichMainPayload ∨ counter = σ.whichMainPayload + 1)
    (hstrays : strays = σ.strays ∨ strays = σ.strays + 1 ∨ 0 < σ.strays ∧ strays = σ.strays - 1) :
    ∃ bs, (∀ b ∈ bs, b.isShared = true) ∧
      run (step cfg) σ bs = some { σ with whichMainPayload := counter, strays := strays } := by
  obtain ⟨bs, hbs, hrun⟩ : ∃ bs, (∀ b ∈ bs, b.isShared = true) ∧
      run (step cfg) σ bs = some { σ with whichMainPayload := counter } := by
    rcases hcounter with rfl | rfl
    · exact ⟨[], nofun, rfl⟩
    · exact ⟨[.otherDevice], by simp [Action.isShared], rfl⟩
  have hmore : ∀ {b : Action}, b.isShared = true →
      step cfg { σ with whichMainPayload := counter } b =
        some { σ with whichMainPayload := counter, strays := strays } →
      ∃ bs, (∀ b ∈ bs, b.isShared = true) ∧
        run (step cfg) σ bs = some { σ with whichMainPayload := counter, strays := strays } := by
    intro b hb hstep
    refine ⟨bs ++ [b], fun c hc => ?_, run_concat_eq_some.2 ⟨_, hrun, hstep⟩⟩
    rcases List.mem_append.1 hc with hc | hc
    · exact hbs c hc
    · exact List.mem_singleton.1 hc ▸ hb
  rcases hstrays with rfl | rfl | ⟨hpos, rfl⟩
  · exact ⟨bs, hbs, hrun⟩
  · exact hmore (b := .otherOrphan) rfl rfl
  · exact hmore (b := .otherStray) rfl (if_pos hpos)

/-! ## The simulation -/

/-- The step, if it is one of device `i` of thread `t`. -/
def FleetAction.own (t i : Nat) : FleetAction → List Action
  | .device t' i' a => if t' = t ∧ i' = i then [a] else []
  | .tick _ => []

/-- The step, if it is the device's own. -/
def Action.own (a : Action) : List Action := if a.isShared then [] else [a]

/-- If it is device `i` of thread `t` that moves, its step meets `D`. -/
def OwnMeets (D : Sys → Action → Prop) (t i : Nat) (f : Fleet) (a : FleetAction) : Prop :=
  ∀ σ, f.device t i = some σ → ∀ b ∈ a.own t i, D σ b

theorem Fleet.device_shared {f : Fleet} {t i : Nat} {σ : Sys} (h : f.device t i = some σ) :
    σ.clock = f.clock ∧ σ.whichMainPayload = f.whichMainPayload ∧
      ∀ th, f.threads[t]? = some th → σ.strays = th.strays := by
  obtain ⟨th, _, hth, _, rfl⟩ := Fleet.device_eq_some.1 h
  exact ⟨rfl, rfl, fun th' hth' =>
    congrArg ManageThread.strays (Option.some.inj (hth.symm.trans hth'))⟩

theorem Fleet.tick_device (f : Fleet) (now : Int) (t i : Nat) :
    ({ f with clock := now } : Fleet).device t i =
      (f.device t i).map fun σ => { σ with clock := now } := by
  rw [device, device]
  cases f.threads[t]? with
  | none => rfl
  | some th =>
    rw [Option.bind_some, Option.bind_some, Option.map_map]
    rfl

theorem own_of_shared {bs : List Action} (h : ∀ b ∈ bs, b.isShared = true) :
    bs.flatMap Action.own = [] :=
  List.flatMap_eq_nil_iff.2 fun b hb => by rw [Action.own, if_pos (h b hb)]

/-- Each step of the fleet is a run of the device with the same own steps. -/
theorem device_simulation (cfg : Config) (t i : Nat) {D : Sys → Action → Prop}
    (hD : ∀ σ a, a.isShared = true → D σ a) :
    Simulation (fleetStep cfg) (step cfg) (fun f σ => f.device t i = some σ)
      (FleetAction.own t i) Action.own (OwnMeets D t i) D where
  matched {f f' a σ} hσ h := by
    obtain ⟨hclock, hcounter, hstrays⟩ := Fleet.device_shared hσ
    cases fleetStep_moves h with
    | @device t' i' b th τ τ' hth hτ hshared _ hstep =>
      by_cases hown : t' = t ∧ i' = i
      · obtain ⟨rfl, rfl⟩ := hown
        have hview : f.share th τ = σ :=
          Option.some.inj ((Fleet.device_of_thread hth hτ).symm.trans hσ)
        rw [hview] at hstep
        refine ⟨[b], τ', run_cons_eq_some.2 ⟨τ', hstep, rfl⟩, ?_, ?_, fun hC => ?_⟩
        · exact Fleet.put_device_self hth hτ ((step_clock hstep hshared).trans hclock)
        · simp [FleetAction.own, Action.own, hshared]
        · exact ⟨hC σ hσ b (by simp [FleetAction.own]), fun _ _ => trivial⟩
      · have hown' : (FleetAction.device t' i' b).own t i = [] := if_neg hown
        have hother : b ≠ .otherDevice := by
          rintro rfl
          exact absurd hshared nofun
        -- the counter moves when the step looks a main payload up
        have hcounter' : τ'.whichMainPayload = σ.whichMainPayload ∨
            τ'.whichMainPayload = σ.whichMainPayload + 1 := by
          rw [step_counter hstep hother, counterAfter, hcounter]
          split
          · exact Or.inr rfl
          · exact Or.inl rfl
        obtain ⟨bs, σ', hbs, hrun, hσ'⟩ : ∃ bs σ', (∀ b ∈ bs, b.isShared = true) ∧
            run (step cfg) σ bs = some σ' ∧ (f.put t' th i' b τ').device t i = some σ' := by
          by_cases ht : t = t'
          · subst ht
            have hstrays' := (step_change hstep).strays_cases
            have hview := Fleet.put_device_thread (a := b) τ' hth fun hi => hown ⟨rfl, hi.symm⟩
            rw [hσ] at hview
            rw [show (f.share th τ).handoff.strays = σ.strays from (hstrays th hth).symm] at hstrays'
            obtain ⟨bs, hbs, hrun⟩ := environment_run cfg σ hcounter' hstrays'
            exact ⟨bs, _, hbs, hrun, hview⟩
          · have hview := @Fleet.put_device_other f t' i' t i b th τ' ht
            rw [hσ] at hview
            obtain ⟨bs, hbs, hrun⟩ := environment_run cfg σ hcounter' (Or.inl rfl)
            exact ⟨bs, _, hbs, hrun, hview⟩
        exact ⟨bs, σ', hrun, hσ', (own_of_shared hbs).trans hown'.symm,
          fun _ => .of_mem fun b hb s => hD s b (hbs b hb)⟩
    | @tick now hle =>
      refine ⟨[.tick now], { σ with clock := now }, run_cons_eq_some.2 ⟨_, ?_, rfl⟩, ?_, rfl,
        fun _ => ⟨hD σ _ rfl, fun _ _ => trivial⟩⟩
      · exact if_pos (hclock ▸ hle)
      · rw [Fleet.tick_device, hσ, Option.map_some]

/-! ## The devices of the file -/

/-- Device `i` of thread `t` is the one for the line `line` of the ids file. -/
def DealtTo (content : Text) (threadCount : Int) (t i : Nat) (line : Text) : Prop :=
  ∃ group, (startThreads content threadCount)[t]? = some group ∧ group[i]? = some (.init line)

theorem dealtTo_of_getElem? {content : Text} {threadCount : Int} (hT : 1 ≤ threadCount) {t i : Nat}
    {group : List WsState} {ws : WsState} (hgroup : (startThreads content threadCount)[t]? = some group)
    (hws : group[i]? = some ws) : ∃ line, DealtTo content threadCount t i line := by
  have hmem : ws ∈ (Lines.lines '\n' content).map WsState.init := by
    rw [← flatten_startThreads content hT]
    exact List.mem_flatten.2 ⟨group, List.mem_of_getElem? hgroup, List.mem_of_getElem? hws⟩
  obtain ⟨line, -, rfl⟩ := List.mem_map.1 hmem
  exact ⟨line, group, hgroup, hws⟩

/-- A device when the threads are started. -/
theorem Fleet.init_device {content : Text} {threadCount : Int} {t i : Nat} {line : Text}
    (h : DealtTo content threadCount t i line) (clock : Int) :
    (init content threadCount clock).device t i = some (Sys.init line clock) := by
  obtain ⟨group, hgroup, hline⟩ := h
  simp only [device, init, ManageThread.init, List.getElem?_map, hgroup, hline, Option.map_some,
    Option.bind_some]
  rfl

/-- A step neither adds nor removes a thread or a device. -/
theorem fleetStep_lengths {cfg : Config} {f f' : Fleet} {a : FleetAction}
    (h : fleetStep cfg f a = some f') :
    f'.threads.map (fun th => th.devices.length) = f.threads.map fun th => th.devices.length := by
  cases fleetStep_moves h with
  | @device t i b th σ σ' hth hσ _ _ _ =>
    rw [Fleet.put, List.map_set, ManageThread.put_devices, List.length_set]
    refine List.ext_getElem? fun k => ?_
    by_cases hk : t = k
    · subst hk
      obtain ⟨hlt, rfl⟩ := List.getElem?_eq_some_iff.1 hth
      simp [hlt]
    · rw [List.getElem?_set_ne hk]
  | tick _ => rfl

theorem Fleet.device_isSome {f : Fleet} {t i : Nat} :
    (f.device t i).isSome = true ↔
      ∃ n, (f.threads.map fun th => th.devices.length)[t]? = some n ∧ i < n := by
  rw [Option.isSome_iff_exists, List.getElem?_map]
  constructor
  · rintro ⟨σ, hσ⟩
    obtain ⟨th, τ, hth, hτ, -⟩ := device_eq_some.1 hσ
    exact ⟨_, by rw [hth, Option.map_some], (List.getElem?_eq_some_iff.1 hτ).1⟩
  · rintro ⟨n, hn, hi⟩
    obtain ⟨th, hth, rfl⟩ := Option.map_eq_some_iff.1 hn
    exact ⟨_, device_eq_some.2 ⟨th, _, hth, List.getElem?_eq_getElem hi, rfl⟩⟩

theorem fleetRun_lengths {cfg : Config} {f f' : Fleet} {acts : List FleetAction}
    (hrun : run (fleetStep cfg) f acts = some f') :
    f'.threads.map (fun th => th.devices.length) = f.threads.map fun th => th.devices.length :=
  run_preserves (I := fun g => g.threads.map (fun th => th.devices.length) =
      f.threads.map fun th => th.devices.length)
    (fun _ _ _ hi h => (fleetStep_lengths h).trans hi) rfl hrun

/-- The devices of the fleet are those of the file. -/
theorem fleetRun_dealtTo {cfg : Config} {content : Text} {threadCount clock : Int}
    (hT : 1 ≤ threadCount) {acts : List FleetAction} {f : Fleet}
    (hrun : run (fleetStep cfg) (.init content threadCount clock) acts = some f) {t i : Nat}
    {σ : Sys} (hσ : f.device t i = some σ) : ∃ line, DealtTo content threadCount t i line := by
  obtain ⟨n, hn, hi⟩ := Fleet.device_isSome.1 (Option.isSome_of_mem hσ)
  rw [fleetRun_lengths hrun, Fleet.init, List.map_map, List.getElem?_map,
    Option.map_eq_some_iff] at hn
  obtain ⟨group, hgroup, rfl⟩ := hn
  rw [Function.comp_apply, ManageThread.init, List.length_map] at hi
  exact dealtTo_of_getElem? hT hgroup (List.getElem?_eq_getElem hi)

/-- A run of the fleet, as the device for `line` sees it. -/
theorem device_explained {cfg : Config} {content line : Text} {threadCount clock : Int}
    {acts : List FleetAction} {f : Fleet}
    (hrun : run (fleetStep cfg) (.init content threadCount clock) acts = some f) {t i : Nat}
    (hline : DealtTo content threadCount t i line) {σ : Sys} (hσ : f.device t i = some σ)
    {D : Sys → Action → Prop} (hD : ∀ τ a, a.isShared = true → D τ a) :
    ∃ as, run (step cfg) (.init line clock) as = some σ ∧
      as.flatMap Action.own = acts.flatMap (FleetAction.own t i) ∧
      (Along (fleetStep cfg) (OwnMeets D t i) (.init content threadCount clock) acts →
        Along (step cfg) D (.init line clock) as) := by
  obtain ⟨as, τ, has, hτ, hown, hcond⟩ := (device_simulation cfg t i hD).run
    (Fleet.init_device hline clock) hrun
  obtain rfl := Option.some.inj (hσ.symm.trans hτ)
  exact ⟨as, has, hown, hcond⟩

/-- **A device of the fleet is a device.**  However the threads, the workers and the readers of all
devices are interleaved, a device is where a run of its own leads it, from the state `main` built
for its line; in that run it makes the very steps it makes in the fleet, besides those of the clock,
of the counter and of the orphans of other devices, and if its own meet `D`, all steps of the run
do. -/
theorem device_run (cfg : Config) (content : Text) (threadCount clock : Int) (hT : 1 ≤ threadCount)
    (acts : List FleetAction) (f : Fleet)
    (hrun : run (fleetStep cfg) (.init content threadCount clock) acts = some f) (t i : Nat)
    (σ : Sys) (hσ : f.device t i = some σ) (D : Sys → Action → Prop)
    (hD : ∀ τ a, a.isShared = true → D τ a) :
    ∃ line, DealtTo content threadCount t i line ∧ ∃ as,
      run (step cfg) (.init line clock) as = some σ ∧
        as.flatMap Action.own = acts.flatMap (FleetAction.own t i) ∧
        (Along (fleetStep cfg) (OwnMeets D t i) (.init content threadCount clock) acts →
          Along (step cfg) D (.init line clock) as) := by
  obtain ⟨line, hline⟩ := fleetRun_dealtTo hT hrun hσ
  exact ⟨line, hline, device_explained hrun hline hσ hD⟩

/-- A pass of the manager of device `i` of thread `t` whose attempt to connect is refused. -/
def refusedPass (t i : Nat) : List FleetAction :=
  [.manage, .manage, .manage, .tcpThrows].map (.device t i)

/-- Two devices of one thread; the run of the second consists of its own four steps. -/
theorem device_run_refused :
    ∃ f σ, run (fleetStep usageConfig) (.init "a\nb".toList 1 (seconds 100))
        (refusedPass 0 0 ++ refusedPass 0 1) = some f ∧ f.device 0 1 = some σ ∧
      ∃ line, DealtTo "a\nb".toList 1 0 1 line ∧ ∃ as,
        run (step usageConfig) (.init line (seconds 100)) as = some σ ∧
          as.flatMap Action.own = [.manage, .manage, .manage, .tcpThrows] := by
  have hsome : ((run (fleetStep usageConfig) (.init "a\nb".toList 1 (seconds 100))
      (refusedPass 0 0 ++ refusedPass 0 1)).bind fun f => f.device 0 1).isSome = true := by
    decide +kernel
  obtain ⟨σ, hσ⟩ := Option.isSome_iff_exists.1 hsome
  obtain ⟨f, hf, hσ⟩ := Option.bind_eq_some_iff.1 hσ
  obtain ⟨line, hline, as, has, hown, -⟩ := device_run usageConfig "a\nb".toList 1 (seconds 100)
    (by decide) (refusedPass 0 0 ++ refusedPass 0 1) f hf 0 1 σ hσ (fun _ _ => True)
    fun _ _ _ => trivial
  exact ⟨f, σ, hf, hσ, line, hline, as, has, hown⟩

/-- The short form, for what holds in all reachable states of a device. -/
theorem device_reachable {cfg : Config} {content : Text} {threadCount clock : Int}
    (hT : 1 ≤ threadCount) {acts : List FleetAction} {f : Fleet}
    (hrun : run (fleetStep cfg) (.init content threadCount clock) acts = some f) {t i : Nat}
    {σ : Sys} (hσ : f.device t i = some σ) :
    ∃ line, DealtTo content threadCount t i line ∧
      ∃ as, run (step cfg) (.init line clock) as = some σ := by
  obtain ⟨line, hline⟩ := fleetRun_dealtTo hT hrun hσ
  obtain ⟨as, has, -⟩ := device_explained (D := fun _ _ => True) hrun hline hσ fun _ _ _ => trivial
  exact ⟨line, hline, as, has⟩

end WsTestClient
