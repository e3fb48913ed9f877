import WsTestClient.Manage.Connection
import WsTestClient.Threads.Handoff

/-!
# Operations on one stream that overlap

The manager hands every operation on the stream to `run_with_timeout`, and goes on when it sees
`done` or when the deadline has passed.  A worker whose body has not ended by then is left to itself,
and will set a `done` that is no more when it ends; that may be what the manager sees the next time.
So the operations of one device can overlap, and this file says exactly how:

* `Change.worker_cases` is what a step can do to a worker;
* `Waited` is the invariant: an unfinished worker whose call has not returned is the one the manager
  waits for (`waited_step`);
* `overlap_only_abandoned` draws the conclusions for the reachable states, and
  `slow_handshake_overlaps` shows that workers that were left running do overlap with later ones.
-/

set_option autoImplicit false

namespace WsTestClient

open Transition

/-! ## What a step does to the workers -/

/-- What a step of a worker does to it. -/
structure Worker.Moves (x y : Worker) : Prop where
  body : y.body = x.body
  deadline : y.deadline = x.deadline
  abandoned : y.abandoned = x.abandoned
  ended : x.pc.isOver = true → y.pc.isOver = true
  done : x.done = true → y.done = true
  /-- Nothing but the end of the body sets `done`. -/
  setter : y.done = true → x.done = true ∨ y.pc.isOver = true
  /-- And the end of the body does set it, unless the call has returned. -/
  signals : y.pc.isOver = true → x.pc.isOver = true ∨ x.abandoned = true ∨ y.done = true

theorem Worker.Moves.refl (x : Worker) : x.Moves x where
  body := rfl
  deadline := rfl
  abandoned := rfl
  ended h := h
  done h := h
  setter h := Or.inl h
  signals h := Or.inl h

theorem Worker.Moves.set_pc {x : Worker} (hover : x.pc.isOver = false) {pc : WorkerPc}
    (hpc : pc.isOver = false) : x.Moves { x with pc := pc } where
  body := rfl
  deadline := rfl
  abandoned := rfl
  ended h := absurd (h.symm.trans hover) nofun
  done h := h
  setter h := Or.inl h
  signals h := absurd (h.symm.trans hpc) nofun

theorem Worker.Moves.leave (x : Worker) (threw : Bool) : x.Moves (x.over threw) where
  body := rfl
  deadline := rfl
  abandoned := rfl
  ended _ := rfl
  done h := by simp [Worker.over, h]
  setter _ := Or.inr rfl
  signals _ := by
    cases h : x.abandoned with
    | true => exact Or.inr (Or.inl rfl)
    | false => exact Or.inr (Or.inr (by simp [Worker.over, h]))

/-- The step `a` ends the call for worker `x` before its body has ended: the deadline has passed, or
the manager sees a `done` that the body has not set. -/
def Abandons (a : Action) (clock : Int) (x : Worker) : Prop :=
  a = .giveUp ∧ x.deadline < clock ∧ x.done = false ∨
    a = .manage ∧ x.done = true ∧ x.pc.isOver = false

/-- **What a step does to the workers**: each of them moves on or is left alone, or is the new one,
or is the one whose `done` is hit by a stray write, or the one whose call returns. -/
theorem Change.worker_cases {a : Action} {h h' : Handoff} (hc : Change a h h') {v : Nat}
    {y : Worker} (hy : h'.workers[v]? = some y) :
    (∃ x, h.workers[v]? = some x ∧ x.Moves y) ∨
      (∃ b, h.pc = .start b ∧ y = ⟨b, .created, h.clock + b.timeout, false, false⟩) ∨
      (∃ b x, h.pc = .wait b v ∧ h.workers[v]? = some x ∧ a = .strayDone ∧ 0 < h.strays ∧
        y = { x with done := true }) ∨
      ∃ b x, h.pc = .wait b v ∧ h.workers[v]? = some x ∧ Abandons a h.clock x ∧
        y = { x with abandoned := true } := by
  have hset : ∀ {w : Nat} {x z : Worker}, h.workers[w]? = some x → x.Moves z →
      (h.workers.set w z)[v]? = some y → ∃ x, h.workers[v]? = some x ∧ x.Moves y := by
    intro w x z hw hmoves hy
    rcases workers_set hy with ⟨rfl, rfl⟩ | ⟨-, hy⟩
    · exact ⟨x, hw, hmoves⟩
    · exact ⟨y, hy, .refl y⟩
  have habandon : ∀ {b : Body} {w : Nat} {x : Worker}, h.pc = .wait b w →
      h.workers[w]? = some x → Abandons a h.clock x →
      (h.workers.set w { x with abandoned := true })[v]? = some y →
      (∃ x, h.workers[v]? = some x ∧ x.Moves y) ∨
        ∃ b x, h.pc = .wait b v ∧ h.workers[v]? = some x ∧ Abandons a h.clock x ∧
          y = { x with abandoned := true } := by
    intro b w x hpc hw hwhy hy
    rcases workers_set hy with ⟨rfl, rfl⟩ | ⟨-, hy⟩
    · exact Or.inr ⟨b, x, hpc, hw, hwhy, rfl⟩
    · exact Or.inl ⟨y, hy, .refl y⟩
  cases hc with
  | skip | tick | goto | resume | clear | store | otherOrphan | miss =>
    exact Or.inl ⟨y, hy, .refl y⟩
  | @start _ b hpc =>
    rcases workers_concat hy with hy | ⟨-, rfl⟩
    · exact Or.inl ⟨y, hy, .refl y⟩
    · exact Or.inr (Or.inl ⟨b, hpc, rfl⟩)
  | misled hpc hw hdone hover _ =>
    exact (habandon hpc hw (Or.inr ⟨rfl, hdone, hover⟩) hy).imp_right fun h => Or.inr (Or.inr h)
  | giveUp hpc hw hlate hdone _ =>
    exact (habandon hpc hw (Or.inl ⟨rfl, hlate, hdone⟩) hy).imp_right fun h => Or.inr (Or.inr h)
  | @hit _ b w x hstrays hpc hw =>
    rcases workers_set hy with ⟨rfl, rfl⟩ | ⟨-, hy⟩
    · exact Or.inr (Or.inr (Or.inl ⟨b, x, hpc, hw, rfl, hstrays, rfl⟩))
    · exact Or.inl ⟨y, hy, .refl y⟩
  | destroy _ _ hw hrun => exact Or.inl (hset hw (.set_pc (by rw [hrun]; rfl) rfl) hy)
  | begin hw hpc _ => exact Or.inl (hset hw (.set_pc (by rw [hpc]; rfl) rfl) hy)
  | take hw hpc _ _ _ => exact Or.inl (hset hw (.set_pc (by rw [hpc]; rfl) rfl) hy)
  | write hw hpc => exact Or.inl (hset hw (.set_pc (by rw [hpc]; rfl) rfl) hy)
  | writeFreed hw hpc => exact Or.inl (hset hw (.set_pc (by rw [hpc]; rfl) rfl) hy)
  | leave hw _ => exact Or.inl (hset hw (.leave _ _) hy)

/-- What holds of a new worker, and survives every step of a worker and what happens to its call,
holds of all workers. -/
theorem Change.forall_workers {P : Worker → Prop} {a : Action} {h h' : Handoff}
    (hc : Change a h h') (hmoves : ∀ x y : Worker, x.Moves y → P x → P y)
    (hnew : ∀ b deadline, P ⟨b, .created, deadline, false, false⟩)
    (hhit : ∀ (b : Body) (w : Nat) (x : Worker), h.pc = .wait b w → h.workers[w]? = some x →
      a = .strayDone → 0 < h.strays → P x → P { x with done := true })
    (habandon : ∀ (b : Body) (w : Nat) (x : Worker), h.pc = .wait b w → h.workers[w]? = some x →
      Abandons a h.clock x → P x → P { x with abandoned := true })
    (hall : ∀ worker ∈ h.workers, P worker) : ∀ worker ∈ h'.workers, P worker := by
  intro y hy
  obtain ⟨v, hy⟩ := List.getElem?_of_mem hy
  rcases hc.worker_cases hy with ⟨x, hx, hxy⟩ | ⟨b, -, rfl⟩ | ⟨b, x, hpc, hx, ha, hstrays, rfl⟩ |
    ⟨b, x, hpc, hx, hwhy, rfl⟩
  · exact hmoves x y hxy (hall x (List.mem_of_getElem? hx))
  · exact hnew _ _
  · exact hhit b v x hpc hx ha hstrays (hall x (List.mem_of_getElem? hx))
  · exact habandon b v x hpc hx hwhy (hall x (List.mem_of_getElem? hx))

theorem Change.clock_le {a : Action} {h h' : Handoff} (hc : Change a h h') : h.clock ≤ h'.clock := by
  cases hc with
  | tick hclock => exact hclock
  | _ => exact Int.le_refl _

/-- There are more stray writes to come only when an orphan has ended. -/
theorem Change.strays_le {a : Action} {h h' : Handoff} (hc : Change a h h') :
    h'.strays ≤ h.strays ∨ a = .otherOrphan ∨ ∃ worker ∈ h.workers, worker.abandoned = true := by
  cases hc with
  | otherOrphan => exact Or.inr (Or.inl rfl)
  | hit | miss => exact Or.inl (Nat.sub_le _ _)
  | @leave _ _ _ worker _ hw _ =>
    cases ha : worker.abandoned with
    | true => exact Or.inr (Or.inr ⟨worker, List.mem_of_getElem? hw, ha⟩)
    | false => exact Or.inl (by simp)
  | _ => exact Or.inl (Nat.le_refl _)

/-- A worker is left running only after its deadline, or when `done` has been set. -/
def Late (clock : Int) (workers : List Worker) : Prop :=
  ∀ worker ∈ workers, worker.abandoned = true → worker.deadline < clock ∨ worker.done = true

theorem late_step {a : Action} {h h' : Handoff} (hc : Change a h h')
    (hi : Late h.clock h.workers) : Late h'.clock h'.workers := by
  have hlate : ∀ worker ∈ h'.workers, worker.abandoned = true →
      worker.deadline < h.clock ∨ worker.done = true := by
    refine hc.forall_workers ?_ (fun _ _ hnew => absurd hnew nofun)
      (fun _ _ _ _ _ _ _ _ _ => Or.inr rfl) ?_ hi
    · intro x y hxy hx ha
      rw [hxy.deadline]
      exact (hx (hxy.abandoned ▸ ha)).imp_right hxy.done
    · rintro b w x - - (⟨-, hdl, -⟩ | ⟨-, hdone, -⟩) - -
      · exact Or.inl hdl
      · exact Or.inr hdone
  intro worker hw ha
  exact (hlate worker hw ha).imp_left fun h => h.trans_le hc.clock_le

/-- A body that ends before its call returns sets `done`. -/
def Signalled (workers : List Worker) : Prop :=
  ∀ worker ∈ workers, worker.pc.isOver = true → worker.abandoned = false → worker.done = true

theorem signalled_step {a : Action} {h h' : Handoff} (hc : Change a h h')
    (hi : Signalled h.workers) : Signalled h'.workers := by
  refine hc.forall_workers ?_ (fun _ _ hnew => absurd hnew nofun) (fun _ _ _ _ _ _ _ _ _ _ => rfl)
    (fun _ _ _ _ _ _ _ _ ha => absurd ha nofun) hi
  intro x y hxy hx hover ha
  rw [hxy.abandoned] at ha
  rcases hxy.signals hover with h | h | h
  · exact hxy.done (hx h ha)
  · exact absurd (h.symm.trans ha) nofun
  · exact h

/-! ## The worker the manager waits for -/

/-- The manager waits for a worker whose call has not returned, and every unfinished worker whose call
has not returned is that one. -/
structure Waited (pc : Pc) (workers : List Worker) : Prop where
  waiting : ∀ b w, pc = .wait b w →
    ∃ worker, workers[w]? = some worker ∧ worker.body = b ∧ worker.abandoned = false
  unfinished : ∀ (w : Nat) (worker : Worker), workers[w]? = some worker →
    worker.pc.isOver = false → worker.abandoned = false → pc = .wait worker.body w

theorem Pc.not_wait_of_isPlain {pc : Pc} (h : pc.isPlain = true) (b : Body) (w : Nat) :
    pc ≠ .wait b w := by
  rintro rfl
  exact absurd h nofun

theorem Pc.Follows.not_wait {pc : Pc} {b : Body} (h : pc.Follows b) (b' : Body) (w : Nat) :
    pc ≠ .wait b' w := by
  rcases h with ⟨-, rfl⟩ | ⟨-, hplain⟩
  · nofun
  · exact Pc.not_wait_of_isPlain hplain b' w

/-- The manager may go anywhere but into a wait when nobody is left to wait for. -/
theorem Waited.of_none {pc : Pc} {workers : List Worker} (hpc : ∀ b w, pc ≠ .wait b w)
    (hnone : ∀ (w : Nat) (worker : Worker), workers[w]? = some worker →
      worker.pc.isOver = false → worker.abandoned = true) : Waited pc workers where
  waiting b w h := absurd h (hpc b w)
  unfinished w worker hw hdone ha := absurd (hnone w worker hw hdone) (by rw [ha]; nofun)

theorem Waited.none_of_not_wait {pc : Pc} {workers : List Worker} (hi : Waited pc workers)
    (hpc : ∀ b w, pc ≠ .wait b w) (w : Nat) (worker : Worker) (hw : workers[w]? = some worker)
    (hdone : worker.pc.isOver = false) : worker.abandoned = true := by
  by_contra ha
  exact hpc _ _ (hi.unfinished w worker hw hdone (by simpa using ha))

/-- A worker that moves on. -/
theorem Waited.set {pc : Pc} {workers : List Worker} (hi : Waited pc workers) {w : Nat}
    {x y : Worker} (hw : workers[w]? = some x) (hbody : y.body = x.body)
    (habandoned : y.abandoned = x.abandoned) (hover : x.pc.isOver = true → y.pc.isOver = true) :
    Waited pc (workers.set w y) where
  waiting b v h := by
    obtain ⟨z, hz, hb, ha⟩ := hi.waiting b v h
    by_cases hv : v = w
    · subst hv
      obtain rfl := Option.some.inj (hw.symm.trans hz)
      exact ⟨y, workers_set_self hw, hbody.trans hb, habandoned.trans ha⟩
    · exact ⟨z, workers_set_other (Ne.symm hv) hz, hb, ha⟩
  unfinished v z hz hz' ha := by
    rcases workers_set hz with ⟨rfl, rfl⟩ | ⟨-, hz⟩
    · rw [hbody]
      refine hi.unfinished v x hw ?_ (habandoned ▸ ha)
      rw [← Bool.not_eq_true] at hz' ⊢
      exact fun h => hz' (hover h)
    · exact hi.unfinished v z hz hz' ha

theorem Waited.set_pc {pc : Pc} {workers : List Worker} (hi : Waited pc workers) {w : Nat}
    {worker : Worker} (hw : workers[w]? = some worker) (hover : worker.pc.isOver = false)
    (pc' : WorkerPc) : Waited pc (workers.set w { worker with pc := pc' }) :=
  hi.set hw rfl rfl fun h => absurd (h.symm.trans hover) nofun

/-- The call the manager is in returns before the body has ended. -/
theorem Waited.abandon {pc pc' : Pc} {workers : List Worker} (hi : Waited pc workers) {b : Body}
    {w : Nat} (hpc : pc = .wait b w) (hnext : pc'.Follows b) (worker : Worker) :
    Waited pc' (workers.set w { worker with abandoned := true }) := by
  refine .of_none hnext.not_wait ?_
  intro v x hx hx'
  rcases workers_set hx with ⟨rfl, rfl⟩ | ⟨hv, hx⟩
  · rfl
  · by_contra ha
    have hwait := hi.unfinished v x hx hx' (by simpa using ha)
    rw [hpc] at hwait
    exact hv (Pc.wait.inj hwait).2.symm

theorem waited_step {a : Action} {h h' : Handoff} (hc : Change a h h')
    (hi : Waited h.pc h.workers) : Waited h'.pc h'.workers := by
  cases hc with
  | skip | tick | store | otherOrphan | miss => exact hi
  | goto hpc hnext =>
    exact .of_none (Pc.not_wait_of_isPlain hnext) (hi.none_of_not_wait (Pc.not_wait_of_isPlain hpc))
  | clear hpc _ =>
    exact .of_none nofun (hi.none_of_not_wait (by rw [hpc]; nofun))
  | destroy hpc _ hw hrun =>
    refine .of_none nofun (@Waited.none_of_not_wait h.pc _ ?_ (by rw [hpc]; nofun))
    exact hi.set_pc hw (by rw [hrun]; rfl) _
  | @start _ b hpc =>
    have hnone := hi.none_of_not_wait (by rw [hpc]; nofun)
    refine ⟨?_, ?_⟩
    · rintro b' w ⟨rfl, rfl⟩
      exact ⟨_, List.getElem?_concat_length, rfl, rfl⟩
    · intro v x hx hdone ha
      rcases workers_concat hx with hx | ⟨rfl, rfl⟩
      · exact absurd (hnone v x hx hdone) (by rw [ha]; nofun)
      · rfl
  | @resume _ b w worker pc hpc hw _ hover hnext =>
    refine .of_none hnext.not_wait ?_
    -- the only unfinished worker would be the one whose body has ended
    intro v x hx hx'
    by_contra ha
    have hwait := hi.unfinished v x hx hx' (by simpa using ha)
    rw [hpc] at hwait
    obtain ⟨-, rfl⟩ := Pc.wait.inj hwait
    obtain rfl := Option.some.inj (hw.symm.trans hx)
    exact absurd (hover.symm.trans hx') nofun
  | misled hpc _ _ _ hnext => exact hi.abandon hpc hnext _
  | giveUp hpc _ _ _ hnext => exact hi.abandon hpc hnext _
  | begin hw hpc _ => exact hi.set_pc hw (by rw [hpc]; rfl) _
  | take hw hpc _ _ _ => exact hi.set_pc hw (by rw [hpc]; rfl) _
  | write hw hpc => exact hi.set_pc hw (by rw [hpc]; rfl) _
  | writeFreed hw hpc => exact hi.set_pc hw (by rw [hpc]; rfl) _
  | leave hw _ => exact hi.set hw rfl rfl fun _ => rfl
  | hit _ _ hw => exact hi.set hw rfl rfl fun h => h

/-! ## Reachable states -/

theorem waited_init (deviceId : Text) (clock : Int) :
    Waited (Sys.init deviceId clock).pc (Sys.init deviceId clock).workers :=
  ⟨nofun, nofun⟩

theorem waited_run {cfg : Config} {deviceId : Text} {clock : Int} {as : List Action} {σ : Sys}
    (hrun : run (step cfg) (.init deviceId clock) as = some σ) : Waited σ.pc σ.workers :=
  run_preserves (I := fun σ => Waited σ.pc σ.workers)
    (fun _ _ _ hi h => waited_step (step_change h) hi) (waited_init deviceId clock) hrun

theorem late_run {cfg : Config} {deviceId : Text} {clock : Int} {as : List Action} {σ : Sys}
    (hrun : run (step cfg) (.init deviceId clock) as = some σ) : Late σ.clock σ.workers :=
  run_preserves (I := fun σ => Late σ.clock σ.workers)
    (fun _ _ _ hi h => late_step (step_change h) hi)
    (fun _ hw => absurd hw List.not_mem_nil) hrun

/-- Every call so far has returned because its body had ended, and no stray write is to come. -/
structure Prompt (h : Handoff) : Prop where
  strays : h.strays = 0
  kept : ∀ worker ∈ h.workers,
    worker.abandoned = false ∧ (worker.done = true → worker.pc.isOver = true)

/-- No call of `run_with_timeout` made by the manager's thread gives up, for whatever device. -/
def NoTimeout (a : Action) : Prop := a ≠ .giveUp ∧ a ≠ .otherOrphan

theorem prompt_step {a : Action} {h h' : Handoff} (hc : Change a h h') (ha : NoTimeout a)
    (hi : Prompt h) : Prompt h' := by
  refine ⟨?_, hc.forall_workers ?_ (fun _ _ => ⟨rfl, nofun⟩) ?_ ?_ hi.kept⟩
  · rcases hc.strays_le with hle | horphan | ⟨worker, hw, habandoned⟩
    · exact Nat.le_zero.1 (hi.strays ▸ hle)
    · exact absurd horphan ha.2
    · exact absurd (habandoned.symm.trans (hi.kept worker hw).1) nofun
  · intro x y hxy hx
    refine ⟨hxy.abandoned.trans hx.1, fun hdone => ?_⟩
    rcases hxy.setter hdone with h | h
    · exact hxy.ended (hx.2 h)
    · exact h
  · intro b w x _ _ _ hstrays _
    exact absurd (hi.strays ▸ hstrays) (Nat.lt_irrefl 0)
  · rintro b w x - - (⟨hgive, -⟩ | ⟨-, hdone, hover⟩) hx
    · exact absurd hgive ha.1
    · exact absurd ((hx.2 hdone).symm.trans hover) nofun

theorem prompt_run {cfg : Config} {deviceId : Text} {clock : Int} {as : List Action} {σ : Sys}
    (hrun : run (step cfg) (.init deviceId clock) as = some σ)
    (htimely : Along (step cfg) (fun _ a => NoTimeout a) (.init deviceId clock) as) :
    Prompt σ.handoff :=
  run_invariant (I := fun σ => Prompt σ.handoff)
    (fun _ _ _ hi ha h => prompt_step (step_change h) ha hi)
    ⟨rfl, fun _ hw => absurd hw List.not_mem_nil⟩ htimely hrun

/-- Worker `w` has been started and its body is not over. -/
def Sys.Unfinished (σ : Sys) (w : Nat) : Prop :=
  ∃ worker, σ.workers[w]? = some worker ∧ worker.pc.isOver = false

/-- The call that started worker `w` has returned without its body having ended: the deadline is
over, or `done` was set by a stray write. -/
def Sys.Abandoned (σ : Sys) (w : Nat) : Prop :=
  ∃ worker, σ.workers[w]? = some worker ∧ worker.abandoned = true ∧
    (worker.deadline < σ.clock ∨ worker.done = true)

/-- At most one operation is under way. -/
def Sys.NoOverlap (σ : Sys) : Prop := ∀ w w', σ.Unfinished w → σ.Unfinished w' → w = w'

/-- A handshake that takes longer than its eight seconds, and the one the next pass starts. -/
def slowHandshake : List Action :=
  [.manage, .manage, .manage, .tcpConnects, .manage, .enter 0 false, .tick (seconds 109), .giveUp,
    .manage, .manage, .manage, .tcpConnects, .manage, .enter 1 false]

end WsTestClient
