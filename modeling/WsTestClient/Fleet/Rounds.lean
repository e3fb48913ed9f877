import WsTestClient.Fleet.Projection

/-!
# The threads go round

A thread of `ws_manage_thread` visits its devices one after the other, over and over.  This file says
what comes of it, in any run of the fleet.

* `ManageThread.Turn` is the invariant of the two loops: every device but the one the inner loop is
  at is between two visits.
* `one_operation_per_thread` — so at most one operation whose call has not returned is under way for
  each thread, whatever the number of its devices.
* `Accounted` counts the visits: a device behind the current one has been visited once more than the
  others.  `round_robin` says what a device has seen of them: its history is that of exactly so many
  passes of `wsManageWs`, and of the beginning of one more.
-/

set_option autoImplicit false

namespace WsTestClient

open Transition

/-! ## The two loops -/

/-- The inner loop is at one of the devices, and all others are between two visits. -/
structure ManageThread.Turn (th : ManageThread) : Prop where
  lt : th.current < th.devices.length
  others : ∀ i σ, th.devices[i]? = some σ → i ≠ th.current → σ.pc = .testSlot

/-- How many visits are over. -/
def ManageThread.visits (th : ManageThread) : Nat := th.rounds * th.devices.length + th.current

/-- How many visits to device `i` are over. -/
def ManageThread.passes (th : ManageThread) (i : Nat) : Nat :=
  th.rounds + if i < th.current then 1 else 0

namespace ManageThread

theorem advance_current_lt (th : ManageThread) (h : th.current < th.devices.length) :
    th.advance.current < th.devices.length := by
  rw [advance]
  split
  · assumption
  · exact Nat.lt_of_le_of_lt (Nat.zero_le _) h

theorem advance_visits {th : ManageThread} (h : th.current < th.devices.length) :
    th.advance.visits = th.visits + 1 := by
  rw [advance]
  split
  · rfl
  · have hlast : th.current + 1 = th.devices.length := by omega
    rw [visits, visits]
    dsimp only
    rw [Nat.succ_mul, Nat.add_zero, Nat.add_assoc, hlast]

/-- When the inner loop goes on, the device it was at has been visited once more. -/
theorem advance_passes {th : ManageThread} (h : th.current < th.devices.length) {i : Nat}
    (hi : i < th.devices.length) :
    th.advance.passes i = th.passes i + if i = th.current then 1 else 0 := by
  simp only [advance, passes]
  by_cases hnext : th.current + 1 < th.devices.length
  all_goals
    simp only [hnext, if_true, if_false]
    repeat' split
  all_goals omega

/-- Devices of one thread are at most one visit apart, and the earlier one is ahead. -/
theorem passes_le {th : ManageThread} {i j : Nat} (h : i ≤ j) :
    th.passes j ≤ th.passes i ∧ th.passes i ≤ th.passes j + 1 := by
  simp only [passes]
  split <;> split <;> omega

theorem put_of_entry {th : ManageThread} {i : Nat} {a : Action} {σ : Sys}
    (h : a.isEnv = false ∧ σ.pc = .testSlot) :
    th.put i a σ =
      ({ th with devices := th.devices.set i σ, strays := σ.strays } : ManageThread).advance := by
  rw [put, if_pos h]

theorem put_of_not_entry {th : ManageThread} {i : Nat} {a : Action} {σ : Sys}
    (h : ¬ (a.isEnv = false ∧ σ.pc = .testSlot)) :
    th.put i a σ = { th with devices := th.devices.set i σ, strays := σ.strays } := by
  rw [put, if_neg h]

/-- A step of a device keeps the turn. -/
theorem Turn.put {cfg : Config} {th : ManageThread} (hi : th.Turn) {i : Nat} {a : Action}
    {σ σ' : Sys} (hσ : th.devices[i]? = some σ) (hcurrent : a.isEnv = false → th.current = i)
    {view : Sys} (hstep : step cfg view a = some σ') (hview : view.pc = σ.pc) :
    (th.put i a σ').Turn := by
  have hlt : i < th.devices.length := (List.getElem?_eq_some_iff.1 hσ).1
  have hother : ∀ j τ, (th.devices.set i σ')[j]? = some τ → j ≠ i → th.devices[j]? = some τ := by
    intro j τ hτ hj
    rwa [List.getElem?_set_ne (Ne.symm hj)] at hτ
  have hself : ∀ τ, (th.devices.set i σ')[i]? = some τ → τ = σ' := by
    intro τ hτ
    rw [List.getElem?_set_self hlt] at hτ
    exact (Option.some.inj hτ).symm
  by_cases hentry : a.isEnv = false ∧ σ'.pc = .testSlot
  · rw [put_of_entry hentry]
    have hcur := hcurrent hentry.1
    refine ⟨?_, fun j τ hτ _ => ?_⟩
    · rw [advance_devices]
      refine advance_current_lt { th with devices := th.devices.set i σ', strays := σ'.strays } ?_
      rw [List.length_set]
      exact hi.lt
    · rw [advance_devices] at hτ
      by_cases hj : j = i
      · subst hj
        exact hself τ hτ ▸ hentry.2
      · exact hi.others j τ (hother j τ hτ hj) (hcur ▸ hj)
  · rw [put_of_not_entry hentry]
    refine ⟨by rw [List.length_set]; exact hi.lt, fun j τ hτ hj => ?_⟩
    by_cases hji : j = i
    · subst hji
      obtain rfl := hself τ hτ
      have henv : a.isEnv = true := by
        cases ha : a.isEnv with
        | true => rfl
        | false => exact absurd (hcurrent ha).symm hj
      rw [(env_frame henv hstep).1, hview]
      exact hi.others j σ hσ hj
    · exact hi.others j τ (hother j τ hτ hji) hj

end ManageThread

/-! ## Counting the visits -/

/-- The inner loops are in turn, and the history of each device is that of as many passes as it has
had visits, with the current one on top. -/
def Accounted (cfg : Config) (content : Text) (threadCount clock : Int) (f : Fleet) : Prop :=
  ∀ t th, f.threads[t]? = some th → th.Turn ∧ ∀ i line σ, DealtTo content threadCount t i line →
    f.device t i = some σ → ∃ es, es.length = th.passes i ∧ Explained cfg line clock es σ

theorem startThreads_ne_nil (content : Text) {threadCount : Int} (hT : 1 ≤ threadCount) :
    ∀ group ∈ startThreads content threadCount, group ≠ [] := by
  obtain ⟨p, hd, hp⟩ := startThreads_dealt content hT
  rw [hp]
  intro group hgroup
  split at hgroup
  · rename_i hrest
    rcases List.mem_append.1 hgroup with hgroup | hgroup
    · exact (hd.full group hgroup).2
    · rw [List.mem_singleton.1 hgroup]
      exact List.ne_nil_of_length_pos hrest
  · exact (hd.full group hgroup).2

theorem turn_init (clock : Int) {group : List WsState} (h : group ≠ []) :
    (ManageThread.init clock group).Turn where
  lt := by
    rw [ManageThread.init, List.length_map]
    exact List.length_pos_iff.2 h
  others i σ hσ _ := by
    rw [ManageThread.init, List.getElem?_map, Option.map_eq_some_iff] at hσ
    obtain ⟨ws, -, rfl⟩ := hσ
    rfl

theorem accounted_init (cfg : Config) (content : Text) {threadCount : Int} (hT : 1 ≤ threadCount)
    (clock : Int) : Accounted cfg content threadCount clock (.init content threadCount clock) := by
  intro t th hth
  rw [Fleet.init, List.getElem?_map, Option.map_eq_some_iff] at hth
  obtain ⟨group, hgroup, rfl⟩ := hth
  refine ⟨turn_init clock (startThreads_ne_nil content hT group (List.mem_of_getElem? hgroup)), ?_⟩
  intro i line σ hline hσ
  rw [Fleet.init_device hline] at hσ
  obtain rfl := Option.some.inj hσ
  exact ⟨[], by simp [ManageThread.passes, ManageThread.init], explained_init cfg line clock⟩

/-- A step of which the manager takes no notice leaves the account as it is. -/
theorem Explained.of_eq {cfg : Config} {deviceId : Text} {start : Int} {es : List PassEnv}
    {σ σ' : Sys} (hi : Explained cfg deviceId start es σ) (hpc : σ'.pc = σ.pc)
    (hhist : σ'.history = σ.history) (hclock : σ.clock ≤ σ'.clock) :
    Explained cfg deviceId start es σ' :=
  (continues_of_eq hpc hhist hclock).explained hclock hi

/-- The account of the device that moves. -/
theorem accounted_self {cfg : Config} {line : Text} {clock : Int} {th : ManageThread} {i : Nat}
    {a : Action} {σ σ' : Sys} (hturn : th.Turn) (hi : i < th.devices.length)
    (hcurrent : a.isEnv = false → th.current = i) (hstep : step cfg σ a = some σ') {es : List PassEnv}
    (hes : es.length = th.passes i) (hold : Explained cfg line clock es σ) :
    ∃ es, es.length = (th.put i a σ').passes i ∧ Explained cfg line clock es σ' := by
  have hclock := (step_change hstep).clock_le
  by_cases hentry : a.isEnv = false ∧ σ'.pc = .testSlot
  · obtain ⟨e, he⟩ := (ends_of_entry hstep hentry.1 hentry.2).explained hclock hold
    refine ⟨es ++ [e], ?_, he⟩
    have hlt : th.current < (th.devices.set i σ').length := by
      rw [List.length_set]
      exact hturn.lt
    rw [ManageThread.put_of_entry hentry, ManageThread.advance_passes hlt (by simpa using hi),
      List.length_append, hes]
    dsimp only
    rw [if_pos (hcurrent hentry.1).symm]
    rfl
  · refine ⟨es, ?_, (continues_of_not_entry hstep hentry).explained hclock hold⟩
    rw [ManageThread.put_of_not_entry hentry, hes]
    rfl

/-- The account of another device of the same thread. -/
theorem passes_put_other {th : ManageThread} {i j : Nat} {a : Action} {σ' : Sys} (hturn : th.Turn)
    (hcurrent : a.isEnv = false → th.current = i) (hj : j < th.devices.length) (hne : j ≠ i) :
    (th.put i a σ').passes j = th.passes j := by
  by_cases hentry : a.isEnv = false ∧ σ'.pc = .testSlot
  · have hlt : th.current < (th.devices.set i σ').length := by
      rw [List.length_set]
      exact hturn.lt
    rw [ManageThread.put_of_entry hentry, ManageThread.advance_passes hlt (by simpa using hj)]
    dsimp only
    rw [if_neg (hcurrent hentry.1 ▸ hne)]
    rfl
  · rw [ManageThread.put_of_not_entry hentry]
    rfl

theorem accounted_step {cfg : Config} {content : Text} {threadCount clock : Int} {f f' : Fleet}
    {a : FleetAction} (h : fleetStep cfg f a = some f')
    (hi : Accounted cfg content threadCount clock f) :
    Accounted cfg content threadCount clock f' := by
  cases fleetStep_moves h with
  | @device t i b th σ σ' hth hσ hshared hcurrent hstep =>
    have hlt : i < th.devices.length := (List.getElem?_eq_some_iff.1 hσ).1
    have hclock : σ'.clock = f.clock := step_clock hstep hshared
    obtain ⟨hturn, hdevices⟩ := hi t th hth
    intro t' th' hth'
    by_cases ht : t' = t
    · subst ht
      rw [Fleet.put_thread_self hth] at hth'
      obtain rfl := Option.some.inj hth'
      have hmanager : b.isEnv = false → th.current = i := fun hb => hcurrent (Or.inl hb)
      refine ⟨hturn.put hσ hmanager hstep rfl, fun i' line τ hline hτ => ?_⟩
      by_cases hii : i' = i
      · subst hii
        rw [Fleet.put_device_self hth hσ hclock] at hτ
        obtain rfl := Option.some.inj hτ
        obtain ⟨es, hes, hold⟩ := hdevices i' line _ hline (Fleet.device_of_thread hth hσ)
        exact accounted_self hturn hlt hmanager hstep hes hold
      · have hlt' : i' < th.devices.length := by
          obtain ⟨_, x, hx, hx', -⟩ := Fleet.device_eq_some.1 hτ
          rw [Fleet.put_thread_self hth] at hx
          obtain rfl := Option.some.inj hx
          simpa using (List.getElem?_eq_some_iff.1 hx').1
        -- a device that does not move sees no more of it than its manager takes notice of
        rw [passes_put_other hturn hmanager hlt' hii]
        rw [Fleet.put_device_thread σ' hth hii, Option.map_eq_some_iff] at hτ
        obtain ⟨τ, hτ, rfl⟩ := hτ
        obtain ⟨es, hes, hold⟩ := hdevices i' line τ hline hτ
        exact ⟨es, hes, hold.of_eq rfl rfl (Int.le_refl _)⟩
    · rw [Fleet.put_thread_other ht] at hth'
      refine ⟨(hi t' th' hth').1, fun i' line τ hline hτ => ?_⟩
      rw [Fleet.put_device_other σ' ht, Option.map_eq_some_iff] at hτ
      obtain ⟨τ, hτ, rfl⟩ := hτ
      obtain ⟨es, hes, hold⟩ := (hi t' th' hth').2 i' line τ hline hτ
      exact ⟨es, hes, hold.of_eq rfl rfl (Int.le_refl _)⟩
  | @tick now hle =>
    intro t th hth
    obtain ⟨hturn, hdevices⟩ := hi t th hth
    refine ⟨hturn, fun i line τ hline hτ => ?_⟩
    rw [Fleet.tick_device, Option.map_eq_some_iff] at hτ
    obtain ⟨τ, hτ, rfl⟩ := hτ
    obtain ⟨es, hes, hold⟩ := hdevices i line τ hline hτ
    exact ⟨es, hes, hold.of_eq rfl rfl ((Fleet.device_shared hτ).1 ▸ hle)⟩

theorem accounted_run {cfg : Config} {content : Text} {threadCount clock : Int}
    (hT : 1 ≤ threadCount) {acts : List FleetAction} {f : Fleet}
    (hrun : run (fleetStep cfg) (.init content threadCount clock) acts = some f) :
    Accounted cfg content threadCount clock f :=
  run_preserves (I := Accounted cfg content threadCount clock) (fun _ _ _ hi h => accounted_step h hi)
    (accounted_init cfg content hT clock) hrun

theorem turn_run {cfg : Config} {content : Text} {threadCount clock : Int} (hT : 1 ≤ threadCount)
    {acts : List FleetAction} {f : Fleet}
    (hrun : run (fleetStep cfg) (.init content threadCount clock) acts = some f) {t : Nat}
    {th : ManageThread} (hth : f.threads[t]? = some th) : th.Turn :=
  (accounted_run hT hrun t th hth).1

/-- **The threads go round.**  Whatever the interleaving, the passes of a thread are dealt out to its
devices evenly, and what a device has seen of them is a run of exactly so many passes of
`wsManageWs`, with clock readings in order; for the device the thread is at, the beginning of one
more. -/
theorem round_robin (cfg : Config) (content : Text) (threadCount clock : Int)
    (hT : 1 ≤ threadCount) (acts : List FleetAction) (f : Fleet)
    (hrun : run (fleetStep cfg) (.init content threadCount clock) acts = some f) (t : Nat)
    (th : ManageThread) (hth : f.threads[t]? = some th) :
    (∀ i j, th.passes i ≤ th.passes j + 1) ∧
      ∀ i σ, f.device t i = some σ → ∃ line es e, DealtTo content threadCount t i line ∧
        es.length = th.passes i ∧ (clock :: readings (es ++ [e])).Pairwise (· ≤ ·) ∧
        (i ≠ th.current → σ.history = (runPasses cfg line es).history) ∧
        σ.history.log <+: (runPasses cfg line (es ++ [e])).log := by
  refine ⟨fun i j => ?_, fun i σ hσ => ?_⟩
  · rcases Nat.le_total i j with hle | hle
    · exact (ManageThread.passes_le hle).2
    · exact Nat.le_succ_of_le (ManageThread.passes_le hle).1
  · obtain ⟨hturn, hdevices⟩ := accounted_run hT hrun t th hth
    obtain ⟨line, hline⟩ := fleetRun_dealtTo hT hrun hσ
    obtain ⟨es, hes, hold⟩ := hdevices i line σ hline hσ
    obtain ⟨e, hsteady, hbegun⟩ := hold.begun
    refine ⟨line, es, e, hline, hes, hsteady, fun hi => hold.boundary ?_, hbegun⟩
    obtain ⟨th', τ, hth', hτ, rfl⟩ := Fleet.device_eq_some.1 hσ
    obtain rfl := Option.some.inj (hth.symm.trans hth')
    exact hturn.others i τ hτ hi

/-- When the first device of a thread has had its visit, the second has not. -/
theorem round_robin_refused :
    ∃ f th, run (fleetStep usageConfig) (.init "a\nb".toList 1 (seconds 100)) (refusedPass 0 0) =
        some f ∧ f.threads[0]? = some th ∧ (th.passes 0, th.passes 1) = (1, 0) ∧
      ∀ i j, th.passes i ≤ th.passes j + 1 := by
  have hthread : (((run (fleetStep usageConfig) (.init "a\nb".toList 1 (seconds 100))
      (refusedPass 0 0)).bind fun f => f.threads[0]?).map fun th => (th.passes 0, th.passes 1)) =
      some (1, 0) := by decide +kernel
  obtain ⟨th, hth, hpasses⟩ := Option.map_eq_some_iff.1 hthread
  obtain ⟨f, hf, hth⟩ := Option.bind_eq_some_iff.1 hth
  exact ⟨f, th, hf, hth, hpasses, (round_robin usageConfig "a\nb".toList 1 (seconds 100) (by decide)
    (refusedPass 0 0) f hf 0 th hth).1⟩

/-! ## One operation for each thread -/

/-- Worker `w` of device `i` of thread `t` is under way. -/
def Fleet.Unfinished (f : Fleet) (t i w : Nat) : Prop := ∃ σ, f.device t i = some σ ∧ σ.Unfinished w

/-- The call that started worker `w` of device `i` of thread `t` has returned before the worker had
ended. -/
def Fleet.Abandoned (f : Fleet) (t i w : Nat) : Prop := ∃ σ, f.device t i = some σ ∧ σ.Abandoned w

theorem length_startThreads_le (content : Text) {threadCount : Int} (hT : 1 ≤ threadCount) :
    ((startThreads content threadCount).length : Int) ≤ threadCount := by
  obtain ⟨p, hd, hp⟩ := startThreads_dealt content hT
  have hcount := hd.count
  have hbound := hd.bound
  rw [hp]
  split
  · rw [List.length_append, List.length_singleton]
    omega
  · omega

theorem length_threads_le {cfg : Config} {content : Text} {threadCount clock : Int}
    (hT : 1 ≤ threadCount) {acts : List FleetAction} {f : Fleet}
    (hrun : run (fleetStep cfg) (.init content threadCount clock) acts = some f) :
    (f.threads.length : Int) ≤ threadCount := by
  have hlen := congrArg List.length (fleetRun_lengths hrun)
  rw [List.length_map, List.length_map, Fleet.init, List.length_map] at hlen
  rw [hlen]
  exact length_startThreads_le content hT

/-- An unfinished operation whose call has not returned is the one its thread waits for. -/
theorem waits_of_unfinished {cfg : Config} {content : Text} {threadCount clock : Int}
    (hT : 1 ≤ threadCount) {acts : List FleetAction} {f : Fleet}
    (hrun : run (fleetStep cfg) (.init content threadCount clock) acts = some f) {t i w : Nat}
    {σ : Sys} (hσ : f.device t i = some σ) (hw : σ.Unfinished w) (hkept : ¬ σ.Abandoned w) :
    ∃ th b, f.threads[t]? = some th ∧ th.current = i ∧ σ.pc = .wait b w := by
  obtain ⟨line, hline, as, has⟩ := device_reachable hT hrun hσ
  obtain ⟨worker, hworker, hdone⟩ := hw
  have hpc : σ.pc = .wait worker.body w := by
    refine (waited_run has).unfinished w worker hworker hdone ?_
    cases ha : worker.abandoned with
    | false => rfl
    | true =>
      exact absurd ⟨worker, hworker, ha, late_run has worker (List.mem_of_getElem? hworker) ha⟩ hkept
  obtain ⟨th, τ, hth, hτ, rfl⟩ := Fleet.device_eq_some.1 hσ
  refine ⟨th, worker.body, hth, ?_, hpc⟩
  by_contra hi
  have hentry := (turn_run hT hrun hth).others i τ hτ (Ne.symm hi)
  exact absurd (hentry.symm.trans hpc) (by simp)

/-- Every call that thread `t` has made has returned because its body had ended. -/
def Fleet.Prompt (t : Nat) (f : Fleet) : Prop :=
  ∀ i σ, f.device t i = some σ → WsTestClient.Prompt σ.handoff

/-- The thread makes no call that gives up. -/
def FleetAction.NoTimeout (t : Nat) (a : FleetAction) : Prop := ∀ i, a ≠ .device t i .giveUp

theorem fleet_prompt_step {cfg : Config} {f f' : Fleet} {a : FleetAction} {t : Nat}
    (h : fleetStep cfg f a = some f') (ha : a.NoTimeout t) (hi : f.Prompt t) : f'.Prompt t := by
  intro i τ hτ
  cases fleetStep_moves h with
  | @device t' i' b th σ σ' hth hσ hshared _ hstep =>
    by_cases ht : t = t'
    · subst ht
      have hb : NoTimeout b := by
        refine ⟨?_, ?_⟩
        · rintro rfl
          exact ha i' rfl
        · rintro rfl
          exact absurd hshared nofun
      have hself : WsTestClient.Prompt σ'.handoff :=
        prompt_step (step_change hstep) hb (hi i' _ (Fleet.device_of_thread hth hσ))
      by_cases hii : i = i'
      · subst hii
        rw [Fleet.put_device_self hth hσ (step_clock hstep hshared)] at hτ
        exact Option.some.inj hτ ▸ hself
      · rw [Fleet.put_device_thread σ' hth hii, Option.map_eq_some_iff] at hτ
        obtain ⟨τ, hτ, rfl⟩ := hτ
        exact ⟨hself.strays, (hi i τ hτ).kept⟩
    · rw [Fleet.put_device_other σ' ht, Option.map_eq_some_iff] at hτ
      obtain ⟨τ, hτ, rfl⟩ := hτ
      exact ⟨(hi i τ hτ).strays, (hi i τ hτ).kept⟩
  | @tick now hle =>
    rw [Fleet.tick_device, Option.map_eq_some_iff] at hτ
    obtain ⟨τ, hτ, rfl⟩ := hτ
    exact ⟨(hi i τ hτ).strays, (hi i τ hτ).kept⟩

theorem fleet_prompt_init {content : Text} {threadCount : Int} (hT : 1 ≤ threadCount) (clock : Int)
    (t : Nat) : (Fleet.init content threadCount clock).Prompt t := by
  intro i σ hσ
  have hempty : run (fleetStep usageConfig) (.init content threadCount clock) [] =
      some (.init content threadCount clock) := rfl
  obtain ⟨line, hline⟩ := fleetRun_dealtTo hT hempty hσ
  rw [Fleet.init_device hline] at hσ
  obtain rfl := Option.some.inj hσ
  exact ⟨rfl, fun _ hw => absurd hw List.not_mem_nil⟩

/-- In a thread that makes no call that gives up, no worker of any device is left running. -/
theorem fleet_not_abandoned {cfg : Config} {content : Text} {threadCount clock : Int}
    (hT : 1 ≤ threadCount) {acts : List FleetAction} {f : Fleet}
    (hrun : run (fleetStep cfg) (.init content threadCount clock) acts = some f) {t : Nat}
    (hgive : ∀ a ∈ acts, a.NoTimeout t) (i w : Nat) : ¬ f.Abandoned t i w := by
  rintro ⟨σ, hσ, worker, hworker, ha, -⟩
  have hprompt : f.Prompt t := run_invariant (fun _ _ _ hi ha h => fleet_prompt_step h ha hi)
    (fleet_prompt_init hT clock t) (.of_mem fun a ha _ => hgive a ha) hrun
  have hkept := ((hprompt i σ hσ).kept worker (List.mem_of_getElem? hworker)).1
  exact absurd (ha.symm.trans hkept) nofun

/-- **One operation for each thread.**  At any time, each manager thread has at most one operation
under way whose call has not returned, on any stream of its devices, and there are no more threads
than were asked for; for a thread whose calls never give up these are all the operations there
are. -/
theorem one_operation_per_thread (cfg : Config) (content : Text) (threadCount clock : Int)
    (hT : 1 ≤ threadCount) (acts : List FleetAction) (f : Fleet)
    (hrun : run (fleetStep cfg) (.init content threadCount clock) acts = some f) :
    (f.threads.length : Int) ≤ threadCount ∧
      (∀ t i j w v, f.Unfinished t i w → f.Unfinished t j v → ¬ f.Abandoned t i w →
        ¬ f.Abandoned t j v → i = j ∧ w = v) ∧
      ∀ t, (∀ a ∈ acts, a.NoTimeout t) → ∀ i j w v, f.Unfinished t i w → f.Unfinished t j v →
        i = j ∧ w = v := by
  have hunique : ∀ t i j w v, f.Unfinished t i w → f.Unfinished t j v → ¬ f.Abandoned t i w →
      ¬ f.Abandoned t j v → i = j ∧ w = v := by
    rintro t i j w v ⟨σ, hσ, hw⟩ ⟨τ, hτ, hv⟩ hkept hkept'
    obtain ⟨th, b, hth, hi, hpc⟩ := waits_of_unfinished hT hrun hσ hw fun h => hkept ⟨σ, hσ, h⟩
    obtain ⟨th', b', hth', hj, hpc'⟩ := waits_of_unfinished hT hrun hτ hv fun h => hkept' ⟨τ, hτ, h⟩
    obtain rfl := Option.some.inj (hth.symm.trans hth')
    obtain rfl := hi.symm.trans hj
    obtain rfl := Option.some.inj (hσ.symm.trans hτ)
    exact ⟨rfl, (Pc.wait.inj (hpc.symm.trans hpc')).2⟩
  refine ⟨length_threads_le hT hrun, hunique, fun t hgive i j w v hw hv => ?_⟩
  exact hunique t i j w v hw hv (fleet_not_abandoned hT hrun hgive i w)
    (fleet_not_abandoned hT hrun hgive j v)

/-- Two threads, each of which waits for the handshake of its only device. -/
def twoHandshakes : List FleetAction :=
  [0, 1].flatMap fun t =>
    [Action.manage, .manage, .manage, .tcpConnects, .manage].map (.device t 0)

/-- Both handshakes are under way, and each thread has no other. -/
theorem one_operation_per_thread_two :
    ∃ f, run (fleetStep usageConfig) (.init "a\nb".toList 2 (seconds 100)) twoHandshakes = some f ∧
      (f.threads.length : Int) ≤ 2 ∧ ∀ t i j w v, f.Unfinished t i w → f.Unfinished t j v →
        i = j ∧ w = v := by
  have hsome : (run (fleetStep usageConfig) (.init "a\nb".toList 2 (seconds 100))
      twoHandshakes).isSome = true := by decide +kernel
  obtain ⟨f, hf⟩ := Option.isSome_iff_exists.1 hsome
  obtain ⟨hthreads, -, hunique⟩ := one_operation_per_thread usageConfig "a\nb".toList 2 (seconds 100)
    (by decide) twoHandshakes f hf
  exact ⟨f, hf, hthreads, fun t => hunique t (by simp [twoHandshakes, FleetAction.NoTimeout])⟩

end WsTestClient
