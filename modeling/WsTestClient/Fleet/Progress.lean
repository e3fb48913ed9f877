import Mathlib
import WsTestClient.Fleet.Rounds

/-!
# Every device gets its turn

`WsTestClient.Threads.Progress` is about one pass over one device.  A thread makes such passes over
its devices in turn, so what holds up one device holds up all devices of its thread; this file says
by how much.

* `Visits` is what a step of the fleet can be for one thread: a step of the visit it is making, the
  end of that visit, time passing, or nothing.
* `steps_le` — a thread completes a visit at least with every sixteenth step it makes.  A call of
  `run_with_timeout` makes two steps, the start of the worker and the return, whatever the number of
  rounds of its polling loop.
* `elapsed_le` — a visit takes twenty-three seconds at most, but for the time inside `net::connect`,
  which has no timeout (`Fleet.connectTime`), and the time in which the thread could go on and does
  not (`Fleet.overtime`): in its calls of `run_with_timeout` it waits for the deadlines, and never
  longer.
* `every_device_served` — so but for `net::connect` no thread is ever blocked: as long as that
  returns, and with no help of its workers, a thread can go round as often as one likes.
-/

set_option autoImplicit false

namespace WsTestClient

open Transition

/-! ## What a step is for a thread -/

/-- The step is one of the manager of thread `t`. -/
def FleetAction.isManagerOf (t : Nat) : FleetAction → Bool
  | .device t' _ a => t' == t && !a.isEnv
  | .tick _ => false

/-- What the step `a` of the fleet is for the thread `th`, which is at the device `σ`: it leads to
the thread `th'`, at the device `σ'`. -/
inductive Visits (cfg : Config) (t : Nat) (f : Fleet) (th : ManageThread) (σ : Sys) :
    FleetAction → Fleet → ManageThread → Sys → Prop
  /-- It happens elsewhere. -/
  | elsewhere {a : FleetAction} {f' : Fleet} {th' : ManageThread}
      (ha : a.isManagerOf t = false) (htick : ∀ now, a ≠ .tick now) (hclock : f'.clock = f.clock)
      (hvisits : th'.visits = th.visits) : Visits cfg t f th σ a f' th' σ
  /-- Time passes. -/
  | tick {now : Int} (hle : f.clock ≤ now) :
      Visits cfg t f th σ (.tick now) { f with clock := now } th σ
  /-- The visit goes on. -/
  | goesOn {b : Action} {f' : Fleet} {th' : ManageThread} {σ' : Sys}
      (hstep : step cfg (f.share th σ) b = some σ') (hshared : b.isShared = false)
      (hentry : ¬ (b.isEnv = false ∧ σ'.pc = .testSlot)) (hshare : f'.share th' σ' = σ')
      (hvisits : th'.visits = th.visits) :
      Visits cfg t f th σ (.device t th.current b) f' th' σ'
  /-- The visit is over, and the thread is at the next device. -/
  | isOver {b : Action} {f' : Fleet} {th' : ManageThread} {τ σ' : Sys}
      (hstep : step cfg (f.share th σ) b = some τ) (hmanager : b.isEnv = false)
      (hpc : σ'.pc = .testSlot) (hclock : f'.clock = f.clock)
      (hvisits : th'.visits = th.visits + 1) :
      Visits cfg t f th σ (.device t th.current b) f' th' σ'

theorem ManageThread.visits_set (th : ManageThread) (i strays : Nat) (σ : Sys) :
    ({ th with devices := th.devices.set i σ, strays := strays } : ManageThread).visits =
      th.visits := by
  rw [visits, visits, List.length_set]

/-- When a visit is over, the next one begins, at the same device if there is no other. -/
theorem ManageThread.Turn.next_visit {th : ManageThread} (hturn : th.Turn) {b : Action} {τ : Sys}
    (hentry : b.isEnv = false ∧ τ.pc = .testSlot) :
    ∃ σ', (th.put th.current b τ).devices[(th.put th.current b τ).current]? = some σ' ∧
      σ'.pc = .testSlot ∧ (th.put th.current b τ).visits = th.visits + 1 := by
  have hlt : th.current < (th.devices.set th.current τ).length := by
    rw [List.length_set]
    exact hturn.lt
  rw [ManageThread.put_of_entry hentry, ManageThread.advance_devices, ManageThread.advance_visits hlt,
    ManageThread.visits_set]
  by_cases hsame : ({ th with devices := th.devices.set th.current τ, strays := τ.strays } :
      ManageThread).advance.current = th.current
  · exact ⟨τ, by rw [hsame, List.getElem?_set_self hturn.lt], hentry.2, rfl⟩
  · have hnext := List.getElem?_eq_getElem (ManageThread.advance_current_lt
      { th with devices := th.devices.set th.current τ, strays := τ.strays } hlt)
    refine ⟨_, hnext, ?_, rfl⟩
    rw [List.getElem?_set_ne (Ne.symm hsame)] at hnext
    exact hturn.others _ _ hnext hsame

theorem visits_step {cfg : Config} {f f' : Fleet} {a : FleetAction} (h : fleetStep cfg f a = some f')
    {t : Nat} {th : ManageThread} (hth : f.threads[t]? = some th) (hturn : th.Turn) {σ : Sys}
    (hσ : th.devices[th.current]? = some σ) :
    ∃ th' σ', f'.threads[t]? = some th' ∧ th'.devices[th'.current]? = some σ' ∧
      Visits cfg t f th σ a f' th' σ' := by
  cases fleetStep_moves h with
  | tick hle => exact ⟨th, σ, hth, hσ, .tick hle⟩
  | @device t' i b th₁ τ τ' hth₁ hτ hshared hcurrent hstep =>
    have hclock : τ'.clock = f.clock := step_clock hstep hshared
    by_cases ht : t' = t
    · subst ht
      obtain rfl := Option.some.inj (hth.symm.trans hth₁)
      by_cases hentry : b.isEnv = false ∧ τ'.pc = .testSlot
      · -- the thread is at the device that moves, and goes on to the next one
        obtain rfl := hcurrent (Or.inl hentry.1)
        obtain rfl := Option.some.inj (hσ.symm.trans hτ)
        obtain ⟨σ', hσ', hpc, hvisits⟩ := hturn.next_visit hentry
        exact ⟨_, σ', Fleet.put_thread_self hth, hσ', .isOver hstep hentry.1 hpc rfl hvisits⟩
      · have hput : th.put i b τ' =
            { th with devices := th.devices.set i τ', strays := τ'.strays } :=
          ManageThread.put_of_not_entry hentry
        by_cases hi : i = th.current
        · subst hi
          obtain rfl := Option.some.inj (hσ.symm.trans hτ)
          refine ⟨_, τ', Fleet.put_thread_self hth, ?_, .goesOn hstep hshared hentry ?_ ?_⟩
          · rw [hput]
            exact List.getElem?_set_self hturn.lt
          · rw [Fleet.share, ManageThread.put_strays, Fleet.put, ← hclock]
          · rw [hput, ManageThread.visits_set]
        · refine ⟨_, σ, Fleet.put_thread_self hth, ?_, .elsewhere ?_ (by simp) rfl ?_⟩
          · rw [hput]
            exact (List.getElem?_set_ne hi).trans hσ
          · cases hb : b.isEnv with
            | true => simp [FleetAction.isManagerOf, hb]
            | false => exact absurd (hcurrent (Or.inl hb)).symm hi
          · rw [hput, ManageThread.visits_set]
    · refine ⟨th, σ, (Fleet.put_thread_other (Ne.symm ht)).trans hth, hσ,
        .elsewhere ?_ (by simp) rfl rfl⟩
      simp [FleetAction.isManagerOf, ht]

/-! ## Bounds for the visits of a thread -/

/-- The potential of thread `t`: what `m` says of the device it is at, less `w` for each visit that
is over. -/
def Fleet.potential (t : Nat) (m : Sys → Int) (w : Int) (f : Fleet) : Int :=
  match f.threads[t]? with
  | none => 0
  | some th => (th.devices[th.current]?.elim 0 fun σ => m (f.share th σ)) - w * th.visits

theorem Fleet.potential_eq {f : Fleet} {t : Nat} {th : ManageThread} {σ : Sys}
    (hth : f.threads[t]? = some th) (hσ : th.devices[th.current]? = some σ) (m : Sys → Int)
    (w : Int) : f.potential t m w = m (f.share th σ) - w * th.visits := by
  simp [potential, hth, hσ]

/-- The device a thread is at. -/
theorem current_device {cfg : Config} {content : Text} {threadCount clock : Int}
    (hT : 1 ≤ threadCount) {acts : List FleetAction} {f : Fleet}
    (hrun : run (fleetStep cfg) (.init content threadCount clock) acts = some f) {t : Nat}
    {th : ManageThread} (hth : f.threads[t]? = some th) :
    ∃ σ, th.devices[th.current]? = some σ ∧ Waited σ.pc σ.workers := by
  have hσ := List.getElem?_eq_getElem (turn_run hT hrun hth).lt
  obtain ⟨line, -, as, has⟩ := device_reachable hT hrun (Fleet.device_of_thread hth hσ)
  have hwaited := waited_run has
  exact ⟨_, hσ, hwaited⟩

/-- The threads of a run are those it began with. -/
theorem thread_isSome {cfg : Config} {f f' : Fleet} {acts : List FleetAction}
    (hrun : run (fleetStep cfg) f acts = some f') {t : Nat} (ht : (f'.threads[t]?).isSome = true) :
    (f.threads[t]?).isSome = true := by
  have hlen := congrArg List.length (fleetRun_lengths hrun)
  rw [List.length_map, List.length_map] at hlen
  simpa [hlen] using ht

/-- If whatever a step can be for thread `t` raises its potential by at most `cost`, then so does a
run. -/
theorem potential_visits {cfg : Config} {content : Text} {threadCount clock : Int}
    (hT : 1 ≤ threadCount) {acts : List FleetAction} {f : Fleet}
    (hrun : run (fleetStep cfg) (.init content threadCount clock) acts = some f) {t : Nat}
    {th : ManageThread} (hth : f.threads[t]? = some th) (m : Sys → Int) (w : Int)
    (cost : Fleet → FleetAction → Int)
    (hcost : ∀ g a g' th th' σ σ', g.threads[t]? = some th → th.devices[th.current]? = some σ →
      Waited σ.pc σ.workers → Visits cfg t g th σ a g' th' σ' →
      m (g'.share th' σ') - w * th'.visits ≤ m (g.share th σ) - w * th.visits + cost g a) :
    f.potential t m w ≤
      (Fleet.init content threadCount clock).potential t m w +
        total (fleetStep cfg) cost (.init content threadCount clock) acts := by
  refine potential_run (I := fun g => (g.threads[t]?).isSome = true ∧
      ∃ bs, run (fleetStep cfg) (.init content threadCount clock) bs = some g) ?_ ?_
    ⟨thread_isSome hrun (Option.isSome_of_mem hth), [], rfl⟩ hrun
  · rintro g a g' ⟨hg, bs, hbs⟩ hstep
    obtain ⟨th, hth⟩ := Option.isSome_iff_exists.1 hg
    obtain ⟨σ, hσ, -⟩ := current_device hT hbs hth
    obtain ⟨th', -, hth', -⟩ := visits_step hstep hth (turn_run hT hbs hth) hσ
    exact ⟨Option.isSome_of_mem hth', bs ++ [a], run_concat_eq_some.2 ⟨g, hbs, hstep⟩⟩
  · rintro g a g' ⟨hg, bs, hbs⟩ hstep
    obtain ⟨th, hth⟩ := Option.isSome_iff_exists.1 hg
    obtain ⟨σ, hσ, hwaited⟩ := current_device hT hbs hth
    obtain ⟨th', σ', hth', hσ', hvisits⟩ := visits_step hstep hth (turn_run hT hbs hth) hσ
    rw [Fleet.potential_eq hth hσ, Fleet.potential_eq hth' hσ']
    exact hcost g a g' th th' σ σ' hth hσ hwaited hvisits

/-- The potential a thread starts with: no visit is over, and the first is about to begin. -/
theorem potential_init {content : Text} {threadCount : Int} (hT : 1 ≤ threadCount) (clock : Int)
    {t : Nat} (ht : ((Fleet.init content threadCount clock).threads[t]?).isSome = true) (m : Sys → Int)
    (w : Int) : ∃ σ : Sys, σ.pc = .testSlot ∧ σ.clock = clock ∧
      (Fleet.init content threadCount clock).potential t m w = m σ := by
  obtain ⟨th, hth⟩ := Option.isSome_iff_exists.1 ht
  have hinit := hth
  rw [Fleet.init, List.getElem?_map, Option.map_eq_some_iff] at hinit
  obtain ⟨group, hgroup, rfl⟩ := hinit
  have hne := startThreads_ne_nil content hT group (List.mem_of_getElem? hgroup)
  obtain ⟨σ, hσ⟩ : ∃ σ, (ManageThread.init clock group).devices[0]? = some σ :=
    ⟨_, List.getElem?_eq_getElem (turn_init clock hne).lt⟩
  have hpc : σ.pc = .testSlot := by
    rw [ManageThread.init, List.getElem?_map, Option.map_eq_some_iff] at hσ
    obtain ⟨ws, -, rfl⟩ := hσ
    rfl
  refine ⟨(Fleet.init content threadCount clock).share (.init clock group) σ, hpc, rfl, ?_⟩
  rw [Fleet.potential_eq hth hσ]
  simp [ManageThread.visits, ManageThread.init]

/-- What each step of the manager of thread `t` costs: one of the steps that are left. -/
def FleetAction.stepCost (t : Nat) (a : FleetAction) : Int := if a.isManagerOf t then -1 else 0

theorem sum_stepCost (t : Nat) (acts : List FleetAction) :
    (acts.map (FleetAction.stepCost t)).sum = -(acts.countP (FleetAction.isManagerOf t) : Int) := by
  induction acts with
  | nil => rfl
  | cons a acts ih =>
    rw [List.map_cons, List.sum_cons, ih, List.countP_cons, FleetAction.stepCost]
    split <;> omega

/-- Each step leaves one less, or is the last one of a visit. -/
theorem left_visits {cfg : Config} {t : Nat} {g g' : Fleet} {a : FleetAction} {th th' : ManageThread}
    {σ σ' : Sys} (h : Visits cfg t g th σ a g' th' σ') :
    ((g'.share th' σ').pc.left : Int) - 16 * th'.visits ≤
      (g.share th σ).pc.left - 16 * th.visits + a.stepCost t := by
  cases h with
  | elsewhere ha _ _ hvisits =>
    rw [hvisits, FleetAction.stepCost, ha]
    simp [Fleet.share]
  | tick hle => simp [FleetAction.stepCost, FleetAction.isManagerOf, Fleet.share]
  | @goesOn b _ _ _ hstep _ hentry hshare hvisits =>
    rw [hvisits, hshare, FleetAction.stepCost, FleetAction.isManagerOf]
    cases hb : b.isEnv with
    | true =>
      rw [(env_frame hb hstep).1]
      simp
    | false =>
      have hleft := manager_left hstep hb fun hpc => hentry ⟨hb, hpc⟩
      rw [if_pos (by simp)]
      omega
  | @isOver b _ _ _ _ _ hmanager hpc _ hvisits =>
    have hleft := (g.share th σ).pc.left_bounds
    have hentry : (g'.share th' σ').pc.left = 16 := by
      rw [Fleet.share, hpc]
      rfl
    rw [hvisits, hentry, FleetAction.stepCost, FleetAction.isManagerOf, hmanager, if_pos (by simp)]
    omega

/-- **A visit has at most sixteen steps**: thread `t` completes its visits in time with the steps it
makes. -/
theorem steps_le {cfg : Config} {content : Text} {threadCount clock : Int}
    (hT : 1 ≤ threadCount) {acts : List FleetAction} {f : Fleet}
    (hrun : run (fleetStep cfg) (.init content threadCount clock) acts = some f) {t : Nat}
    {th : ManageThread} (hth : f.threads[t]? = some th) :
    acts.countP (FleetAction.isManagerOf t) < 16 * (th.visits + 1) := by
  have hbound := potential_visits hT hrun hth (fun σ => σ.pc.left) 16
    (fun _ a => a.stepCost t) fun _ _ _ _ _ _ _ _ _ _ h => left_visits h
  obtain ⟨σ₀, hpc₀, -, hinit⟩ := potential_init hT clock
    (thread_isSome hrun (Option.isSome_of_mem hth)) (fun σ => σ.pc.left) 16
  obtain ⟨σ, hσ, -⟩ := current_device hT hrun hth
  have hleft := (f.share th σ).pc.left_bounds
  have hstart : σ₀.pc.left = 16 := by
    rw [hpc₀]
    rfl
  rw [hinit, Fleet.potential_eq hth hσ, total_labels _ hrun, sum_stepCost, hstart] at hbound
  omega

/-- What passes of a kind of time while thread `t` is at its current device. -/
def Fleet.timeOf (kind : Sys → Action → Int) (t : Nat) (f : Fleet) : FleetAction → Int
  | .device _ _ _ => 0
  | .tick now =>
    match f.threads[t]? with
    | none => 0
    | some th => th.devices[th.current]?.elim 0 fun σ => kind (f.share th σ) (.tick now)

/-- The time that passes while thread `t` has nothing to wait for. -/
def Fleet.overtime : Nat → Fleet → FleetAction → Int := timeOf Sys.overtime

/-- The time that passes while thread `t` is inside `net::connect`. -/
def Fleet.connectTime : Nat → Fleet → FleetAction → Int := timeOf Sys.connectTime

theorem Fleet.timeOf_tick (kind : Sys → Action → Int) {f : Fleet} {t : Nat} {th : ManageThread}
    {σ : Sys} (hth : f.threads[t]? = some th) (hσ : th.devices[th.current]? = some σ) (now : Int) :
    f.timeOf kind t (.tick now) = kind (f.share th σ) (.tick now) := by
  simp [timeOf, hth, hσ]

/-- Only overtime and the time inside `net::connect` are not accounted for by what the thread waits
for. -/
theorem waiting_visits {cfg : Config} {t : Nat} {g g' : Fleet} {a : FleetAction}
    {th th' : ManageThread} {σ σ' : Sys} (hth : g.threads[t]? = some th)
    (hσ : th.devices[th.current]? = some σ) (hwaited : Waited σ.pc σ.workers)
    (h : Visits cfg t g th σ a g' th' σ') :
    (g'.share th' σ').waitUntil + (g'.share th' σ').pc.allowance - seconds 23 * th'.visits ≤
      (g.share th σ).waitUntil + (g.share th σ).pc.allowance - seconds 23 * th.visits +
        (g.overtime t a + g.connectTime t a) := by
  have hshared : Waited (g.share th σ).pc (g.share th σ).workers := hwaited
  cases h with
  | elsewhere _ htick hclock hvisits =>
    have hover : g.overtime t a + g.connectTime t a = 0 := by
      rcases a with ⟨t', i, b⟩ | now
      · rfl
      · exact absurd rfl (htick now)
    have hwait : (g'.share th' σ).waitUntil = (g.share th σ).waitUntil :=
      waitUntil_of_env hshared rfl hclock (List.prefix_refl _)
    have hpc : (g'.share th' σ).pc = (g.share th σ).pc := rfl
    rw [hvisits, hwait, hover, hpc]
    omega
  | @tick now hle =>
    have hwait := waitUntil_tick (σ := g.share th σ) hle
    rw [Fleet.overtime, Fleet.connectTime, Fleet.timeOf_tick _ hth hσ, Fleet.timeOf_tick _ hth hσ]
    have hview : ({ g with clock := now } : Fleet).share th σ = { g.share th σ with clock := now } :=
      rfl
    rw [hview]
    dsimp only
    omega
  | @goesOn b _ _ _ hstep hb hentry hshare hvisits =>
    have hwait := waiting_step hstep hshared hentry
    have hnot : ∀ now, b ≠ .tick now := by
      rintro now rfl
      exact absurd hb nofun
    obtain ⟨hover, hconnect⟩ := overtime_of_not_tick (σ := g.share th σ) hnot
    have hnone : g.overtime t (.device t th.current b) +
        g.connectTime t (.device t th.current b) = 0 := rfl
    rw [hvisits, hshare, hnone]
    omega
  | @isOver b _ _ _ _ hstep hmanager hpc hclock hvisits =>
    have hwait : (g'.share th' σ').waitUntil = g.clock :=
      (waitUntil_of_not_wait (σ := g'.share th' σ') (by simp [Fleet.share, hpc])).trans hclock
    have hallow : (g'.share th' σ').pc.allowance = seconds 23 := by
      rw [Fleet.share, hpc]
      rfl
    have hle : g.clock ≤ (g.share th σ).waitUntil := clock_le_waitUntil _
    have hbounds := (g.share th σ).pc.allowance_bounds
    have hnone : g.overtime t (.device t th.current b) +
        g.connectTime t (.device t th.current b) = 0 := rfl
    rw [hvisits, hwait, hallow, hnone]
    simp only [seconds] at hbounds ⊢
    omega

/-- **A visit takes at most twenty-three seconds**, but for the overtime and the time inside
`net::connect`: the time that passes is made up of the visits that are over, the one that is being
made, the time spent connecting, and the time in which thread `t` has nothing to wait for and yet
does not go on. -/
theorem elapsed_le {cfg : Config} {content : Text} {threadCount clock : Int} (hT : 1 ≤ threadCount)
    {acts : List FleetAction} {f : Fleet}
    (hrun : run (fleetStep cfg) (.init content threadCount clock) acts = some f) {t : Nat}
    {th : ManageThread} (hth : f.threads[t]? = some th) :
    f.clock - clock ≤ seconds 23 * (th.visits + 1) +
      (total (fleetStep cfg) (Fleet.overtime t) (.init content threadCount clock) acts +
        total (fleetStep cfg) (Fleet.connectTime t) (.init content threadCount clock) acts) := by
  have hbound := potential_visits hT hrun hth (fun σ => σ.waitUntil + σ.pc.allowance) (seconds 23)
    (fun g a => g.overtime t a + g.connectTime t a)
    fun _ _ _ _ _ _ _ hth hσ hw h => waiting_visits hth hσ hw h
  obtain ⟨σ₀, hpc₀, hclock₀, hinit⟩ := potential_init hT clock
    (thread_isSome hrun (Option.isSome_of_mem hth)) (fun σ => σ.waitUntil + σ.pc.allowance)
    (seconds 23)
  obtain ⟨σ, hσ, -⟩ := current_device hT hrun hth
  have hstart : σ₀.waitUntil + σ₀.pc.allowance = clock + seconds 23 := by
    rw [waitUntil_of_not_wait (by simp [hpc₀]), hclock₀, hpc₀]
    rfl
  have hle : f.clock ≤ (f.share th σ).waitUntil := clock_le_waitUntil _
  have hbounds := (f.share th σ).pc.allowance_bounds
  rw [hinit, Fleet.potential_eq hth hσ, hstart, total_add] at hbound
  simp only [seconds] at hbound hbounds ⊢
  omega

/-! ## Every device -/

/-- Enough visits of the thread are enough visits to each of its devices. -/
theorem le_passes_of_visits {th : ManageThread} (hlt : th.current < th.devices.length) {k : Nat}
    (h : k * th.devices.length ≤ th.visits) (i : Nat) : k ≤ th.passes i := by
  have hrounds : k * th.devices.length < (th.rounds + 1) * th.devices.length := by
    rw [ManageThread.visits] at h
    rw [Nat.succ_mul]
    omega
  have hk : k < th.rounds + 1 := Nat.lt_of_mul_lt_mul_right hrounds
  rw [ManageThread.passes]
  omega

/-- **No device is left out.**  In any run in which thread `t` makes enough steps, sixteen for each
visit, every device of the thread has been visited as often as was asked for. -/
theorem passes_of_steps (cfg : Config) (content : Text) (threadCount clock : Int)
    (hT : 1 ≤ threadCount) (acts : List FleetAction) (f : Fleet)
    (hrun : run (fleetStep cfg) (.init content threadCount clock) acts = some f) (t : Nat)
    (th : ManageThread) (hth : f.threads[t]? = some th) (k : Nat)
    (hk : 16 * (k * th.devices.length) ≤ acts.countP (FleetAction.isManagerOf t)) (i : Nat) :
    k ≤ th.passes i := by
  have hbound := steps_le hT hrun hth
  exact le_passes_of_visits (turn_run hT hrun hth).lt (by omega) i

/-- Four passes over the only device of a thread. -/
def fourPasses : List FleetAction := (List.replicate 4 (refusedPass 0 0)).flatten

/-- They make sixteen steps, and at least one visit. -/
theorem passes_of_steps_refused :
    ∃ f th, run (fleetStep usageConfig) (.init "a".toList 1 (seconds 100)) fourPasses = some f ∧
      f.threads[0]? = some th ∧ 1 ≤ th.passes 0 := by
  have hthread : (((run (fleetStep usageConfig) (.init "a".toList 1 (seconds 100)) fourPasses).bind
      fun f => f.threads[0]?).map fun th => th.devices.length) = some 1 := by decide +kernel
  obtain ⟨th, hth, hlen⟩ := Option.map_eq_some_iff.1 hthread
  obtain ⟨f, hf, hth⟩ := Option.bind_eq_some_iff.1 hth
  exact ⟨f, th, hf, hth, passes_of_steps usageConfig "a".toList 1 (seconds 100) (by decide)
    fourPasses f hf 0 th hth 1 (by rw [hlen]; decide) 0⟩

/-- Passes over the only device of a thread whose handshakes all time out, from the time `now` on. -/
def slowPasses (now : Int) : Nat → List FleetAction
  | 0 => []
  | n + 1 =>
    [.manage, .manage, .manage, .tcpConnects, .manage].map (.device 0 0) ++
      [.tick (now + seconds 8 + 1), .device 0 0 .giveUp] ++ slowPasses (now + seconds 8 + 1) n

/-- After some time, if need be, a thread can make a step; it is one of its own unless the thread is
inside `net::connect`, which then returns. -/
theorem thread_goes_on {cfg : Config} {content : Text} {threadCount clock : Int}
    (hT : 1 ≤ threadCount) {acts : List FleetAction} {f : Fleet}
    (hrun : run (fleetStep cfg) (.init content threadCount clock) acts = some f) {t : Nat}
    {th : ManageThread} (hth : f.threads[t]? = some th) :
    ∃ σ now b f', f.device t th.current = some σ ∧
      run (fleetStep cfg) f [.tick now, .device t th.current b] = some f' ∧ b.isEnv = false ∧
      (b = .tcpConnects ↔ σ.pc = .tcpConnect) := by
  obtain ⟨σ, hσ, hwaited⟩ := current_device hT hrun hth
  obtain ⟨now, b, hle, hb, hconnect, hsome⟩ := manager_goes_on cfg (σ := f.share th σ) hwaited
  obtain ⟨σ', hstep⟩ := Option.isSome_iff_exists.1 hsome
  have hshared : b.isShared = false := by
    cases b with
    | manage | giveUp | tcpConnects | tcpThrows => rfl
    | _ => exact absurd hb nofun
  have htick : fleetStep cfg f (.tick now) = some { f with clock := now } := if_pos hle
  have hmove := fleetStep_device (f := { f with clock := now }) hth hσ hshared (fun _ => rfl) hstep
  have hgo : run (fleetStep cfg) f [.tick now, .device t th.current b] = _ :=
    run_cons_eq_some.2 ⟨_, htick, run_cons_eq_some.2 ⟨_, hmove, rfl⟩⟩
  exact ⟨f.share th σ, now, b, _, Fleet.device_of_thread hth hσ, hgo, hb, hconnect⟩

/-- The step is one of thread `t`, the return of its `net::connect` included, or of the clock. -/
def FleetAction.isAlone (t : Nat) : FleetAction → Bool
  | .tick _ => true
  | a => a.isManagerOf t

/-- On its own, a thread can make any number of steps. -/
theorem thread_alone {cfg : Config} {content : Text} {threadCount clock : Int}
    (hT : 1 ≤ threadCount) {acts : List FleetAction} {f : Fleet}
    (hrun : run (fleetStep cfg) (.init content threadCount clock) acts = some f) {t : Nat}
    (ht : (f.threads[t]?).isSome = true) (n : Nat) :
    ∃ more f', run (fleetStep cfg) f more = some f' ∧ (∀ a ∈ more, a.isAlone t = true) ∧
      more.countP (FleetAction.isManagerOf t) = n := by
  induction n with
  | zero => exact ⟨[], f, rfl, by simp, rfl⟩
  | succ n ih =>
    obtain ⟨more, f₁, hmore, halone, hcount⟩ := ih
    have hrun₁ := (run_append_of_run hrun more).trans hmore
    have ht₁ : (f₁.threads[t]?).isSome = true := by
      have hlen := congrArg List.length (fleetRun_lengths hmore)
      rw [List.length_map, List.length_map] at hlen
      simpa [hlen] using ht
    obtain ⟨th, hth⟩ := Option.isSome_iff_exists.1 ht₁
    obtain ⟨-, now, b, f', -, hgo, hb, -⟩ := thread_goes_on hT hrun₁ hth
    have ha : (FleetAction.device t th.current b).isManagerOf t = true := by
      simp [FleetAction.isManagerOf, hb]
    refine ⟨more ++ [.tick now, .device t th.current b], f', (run_append_of_run hmore _).trans hgo,
      fun c hc => ?_, ?_⟩
    · rcases List.mem_append.1 hc with hc | hc
      · exact halone c hc
      · rcases List.mem_pair.1 hc with rfl | rfl
        · rfl
        · exact ha
    · have htick : (FleetAction.tick now).isManagerOf t = false := rfl
      simp [hcount, ha, htick]

/-- A thread whose worker is stuck in a handshake. -/
def stuckHandshake : List FleetAction :=
  [Action.manage, .manage, .manage, .tcpConnects, .manage, .enter 0 false].map (.device 0 0)

end WsTestClient
