import WsTestClient.Threads.System

/-!
# `run_with_timeout`, statement by statement

In `WsTestClient.Threads.System` a call of `run_with_timeout` ends in one step: the manager sees
that `done` has been set, or that the deadline has passed.  The code takes several: it reads `done`
in the condition of its loop, then the clock, and after the loop `done` once more, and the worker may
set `done` between any two of them.  This file runs the call on its own, statement by statement, with
a worker whose body returns, throws or never ends, and with the orphans that earlier calls of the
same thread have left running: when one of them ends, it writes to where the `done` of its own call
was, and that may be where the `done` of this call is.

`Polling.step` is the step function, `Polling.Moves` says what a step can do, and `Polling.Sound` is
the invariant.  `runWithTimeout_correct` says what the answer of the call means, provided that no
orphan sets `done` before the worker has, and `orphan_completes` that this is needed.
-/

set_option autoImplicit false

namespace WsTestClient

open Transition

/-- Where the caller is in `run_with_timeout`, after the deadline has been set. -/
inductive PollPc
  /-- About to start and detach the thread. -/
  | startThread
  /-- At the condition of the loop, which reads `done`. -/
  | testDone
  /-- In the body of the loop, which reads the clock. -/
  | readClock
  /-- Behind the loop, about to read `done` and return it. -/
  | readDone
  | returned (done : Bool)
  deriving DecidableEq

/-- How many statements the caller has at most left once `done` is set. -/
def PollPc.left : PollPc → Nat
  | .startThread => 4
  | .testDone => 2
  | .readClock => 3
  | .readDone => 1
  | .returned _ => 0

theorem PollPc.left_le (pc : PollPc) : pc.left ≤ 4 := by
  cases pc <;> simp [PollPc.left]

theorem PollPc.left_pos {pc : PollPc} (h : ∀ done, pc ≠ .returned done) : 0 < pc.left := by
  cases pc with
  | returned done => exact absurd rfl (h done)
  | _ => simp [PollPc.left]

/-- Where the worker is in the wrapper. -/
inductive WrapperPc
  /-- There is no thread yet. -/
  | absent
  /-- In the body. -/
  | inBody
  /-- Behind the body, and behind the `catch` if it threw, about to set `done`. -/
  | leftBody
  | finished
  deriving DecidableEq

/-- What happens during the call. -/
inductive PollEvent
  /-- The worker sets `done` at the time `now`. -/
  | doneSet (now : Int)
  /-- An orphan of an earlier call sets `done`. -/
  | orphanDone
  /-- The loop reads the clock. -/
  | reading (now : Int)
  /-- The call reads `done` for the last time and returns it. -/
  | returned (done : Bool)
  deriving DecidableEq

/-- The state of a call. -/
structure Polling where
  clock : Int
  deadline : Int
  done : Bool
  pc : PollPc
  worker : WrapperPc
  /-- How many workers of earlier calls are still to write to `done`. -/
  orphans : Nat
  log : List PollEvent

/-- Whose turn it is, and what happens. -/
inductive PollAction
  /-- The caller executes its next statement. -/
  | poll
  /-- The body returns. -/
  | bodyReturns
  /-- The body throws, and the exception is caught. -/
  | bodyThrows
  /-- The worker sets `done`. -/
  | setDone
  /-- An orphan of an earlier call ends, and sets `done`. -/
  | strayDone
  /-- The clock moves on. -/
  | tick (now : Int)
  deriving DecidableEq

namespace Polling

/-- The deadline, in nanoseconds, of a call at `now` with a timeout in milliseconds. -/
def deadlineOf (timeout now : Int64) : Int := now.toInt + timeout.toInt * 1000000

/-- The number is one of nanoseconds as the clock counts them. -/
def FitsClock (n : Int) : Prop := Int64.minValue.toInt ≤ n ∧ n ≤ Int64.maxValue.toInt

instance (n : Int) : Decidable (FitsClock n) := inferInstanceAs (Decidable (_ ∧ _))

/-- The call has read the clock for its deadline; `none` is an overflow on the way, whose behaviour
is undefined. -/
def init (timeout now : Int64) (orphans : Nat) : Option Polling :=
  if FitsClock (timeout.toInt * 1000000) ∧ FitsClock (deadlineOf timeout now) then
    some {
      clock := now.toInt
      deadline := deadlineOf timeout now
      done := false
      pc := .startThread
      worker := .absent
      orphans := orphans
      log := [] }
  else none

/-- The next statement of the caller. -/
def poll (c : Polling) : Option Polling :=
  match c.pc with
  | .startThread => some { c with worker := .inBody, pc := .testDone }
  | .testDone => some { c with pc := if !c.done then .readClock else .readDone }
  | .readClock =>
    some { c with
      pc := if c.clock > c.deadline then .readDone else .testDone
      log := c.log ++ [.reading c.clock] }
  | .readDone => some { c with pc := .returned c.done, log := c.log ++ [.returned c.done] }
  | .returned _ => none

def leaveBody (c : Polling) : Option Polling :=
  if c.worker = .inBody then some { c with worker := .leftBody } else none

def setDone (c : Polling) : Option Polling :=
  if c.worker = .leftBody then
    some { c with worker := .finished, done := true, log := c.log ++ [.doneSet c.clock] }
  else none

def strayDone (c : Polling) : Option Polling :=
  if 0 < c.orphans then
    some { c with orphans := c.orphans - 1, done := true, log := c.log ++ [.orphanDone] }
  else none

/-- One step of the call. -/
def step (c : Polling) : PollAction → Option Polling
  | .poll => c.poll
  | .bodyReturns => c.leaveBody
  | .bodyThrows => c.leaveBody
  | .setDone => c.setDone
  | .strayDone => c.strayDone
  | .tick now => if c.clock ≤ now then some { c with clock := now } else none

/-- What a step can do. -/
inductive Moves (c : Polling) : PollAction → Polling → Prop
  | startThread (hpc : c.pc = .startThread) :
      Moves c .poll { c with worker := .inBody, pc := .testDone }
  | testDone (hpc : c.pc = .testDone) :
      Moves c .poll { c with pc := if !c.done then .readClock else .readDone }
  | readClock (hpc : c.pc = .readClock) :
      Moves c .poll { c with
        pc := if c.clock > c.deadline then .readDone else .testDone
        log := c.log ++ [.reading c.clock] }
  | readDone (hpc : c.pc = .readDone) :
      Moves c .poll { c with pc := .returned c.done, log := c.log ++ [.returned c.done] }
  | leaveBody {a : PollAction} (hworker : c.worker = .inBody) (ha : a ≠ .poll ∧ a ≠ .strayDone) :
      Moves c a { c with worker := .leftBody }
  | setDone :
      Moves c .setDone
        { c with worker := .finished, done := true, log := c.log ++ [.doneSet c.clock] }
  | strayDone :
      Moves c .strayDone
        { c with orphans := c.orphans - 1, done := true, log := c.log ++ [.orphanDone] }
  | tick {now : Int} (hle : c.clock ≤ now) : Moves c (.tick now) { c with clock := now }

theorem poll_moves {c c' : Polling} (h : c.poll = some c') : Moves c .poll c' := by
  rw [poll] at h
  split at h
  all_goals rename_i hpc
  · exact Option.some.inj h ▸ .startThread hpc
  · exact Option.some.inj h ▸ .testDone hpc
  · exact Option.some.inj h ▸ .readClock hpc
  · exact Option.some.inj h ▸ .readDone hpc
  · simp at h

theorem leaveBody_moves {c c' : Polling} {a : PollAction} (ha : a ≠ .poll ∧ a ≠ .strayDone)
    (h : c.leaveBody = some c') : Moves c a c' := by
  rw [leaveBody, Option.ite_none_right_eq_some] at h
  exact Option.some.inj h.2 ▸ .leaveBody h.1 ha

theorem step_moves {c c' : Polling} {a : PollAction} (h : step c a = some c') : Moves c a c' := by
  cases a with
  | poll => exact poll_moves h
  | bodyReturns => exact leaveBody_moves (by simp) h
  | bodyThrows => exact leaveBody_moves (by simp) h
  | setDone =>
    rw [step, setDone, Option.ite_none_right_eq_some] at h
    exact Option.some.inj h.2 ▸ .setDone
  | strayDone =>
    rw [step, strayDone, Option.ite_none_right_eq_some] at h
    exact Option.some.inj h.2 ▸ .strayDone
  | tick now =>
    rw [step, Option.ite_none_right_eq_some] at h
    exact Option.some.inj h.2 ▸ .tick h.1

/-! ## The invariant -/

/-- What the control points and the log say about each other. -/
structure Sound (c : Polling) : Prop where
  isSet : c.done = true ↔ (∃ t, .doneSet t ∈ c.log) ∨ .orphanDone ∈ c.log
  overdue : c.pc = .readDone → c.done = false →
    c.deadline < c.clock ∧ ∃ t, .reading t ∈ c.log ∧ c.deadline < t
  gaveUp : c.pc = .returned false → c.deadline < c.clock ∧ ∀ t, .doneSet t ∈ c.log → c.deadline < t
  returnedTrue : ∀ l, l ++ [.returned true] <+: c.log → (∃ t, .doneSet t ∈ l) ∨ .orphanDone ∈ l
  returnedFalse : ∀ l, l ++ [.returned false] <+: c.log →
    (∃ t, .reading t ∈ l ∧ c.deadline < t) ∧ ∀ t, .doneSet t ∉ l

theorem sound_init {timeout now : Int64} {orphans : Nat} {c : Polling}
    (h : init timeout now orphans = some c) : Sound c := by
  rw [init, Option.ite_none_right_eq_some] at h
  obtain rfl := Option.some.inj h.2
  refine ⟨⟨nofun, ?_⟩, nofun, nofun, fun l h => ?_, fun l h => ?_⟩
  · rintro (⟨_, h⟩ | h) <;> exact absurd h List.not_mem_nil
  · exact absurd (List.prefix_nil.1 h) (by simp)
  · exact absurd (List.prefix_nil.1 h) (by simp)

theorem prefix_snoc {l log : List PollEvent} {ev ev' : PollEvent} :
    l ++ [ev] <+: log ++ [ev'] ↔ l = log ∧ ev = ev' ∨ l ++ [ev] <+: log := by
  rw [List.prefix_concat_iff]
  simp

theorem testDone_sound {c : Polling} (hi : Sound c) :
    Sound { c with pc := if !c.done then .readClock else .readDone } where
  isSet := hi.isSet
  overdue hpc hdone := by
    replace hdone : c.done = false := hdone
    simp [hdone] at hpc
  gaveUp hpc := by
    cases hdone : c.done <;> simp [hdone] at hpc
  returnedTrue := hi.returnedTrue
  returnedFalse := hi.returnedFalse

theorem readClock_sound {c : Polling} (hi : Sound c) :
    Sound { c with
      pc := if c.clock > c.deadline then .readDone else .testDone
      log := c.log ++ [.reading c.clock] } where
  isSet := by simpa using hi.isSet
  overdue hpc _ := by
    have hlate : c.deadline < c.clock := by
      by_contra hnot
      simp [hnot] at hpc
    exact ⟨hlate, c.clock, List.mem_append_right _ List.mem_cons_self, hlate⟩
  gaveUp hpc := by
    replace hpc : (if c.clock > c.deadline then PollPc.readDone else .testDone) = .returned false := hpc
    split at hpc <;> exact absurd hpc nofun
  returnedTrue l h := hi.returnedTrue l ((prefix_snoc.1 h).resolve_left nofun)
  returnedFalse l h := hi.returnedFalse l ((prefix_snoc.1 h).resolve_left nofun)

theorem readDone_sound {c : Polling} (hpc : c.pc = .readDone) (hi : Sound c) :
    Sound { c with pc := .returned c.done, log := c.log ++ [.returned c.done] } where
  isSet := by simpa using hi.isSet
  overdue := nofun
  gaveUp hpc' := by
    have hdone : c.done = false := PollPc.returned.inj hpc'
    refine ⟨(hi.overdue hpc hdone).1, fun t ht => ?_⟩
    have hset : c.done = true := hi.isSet.2 (Or.inl ⟨t, by simpa using ht⟩)
    exact absurd (hset.symm.trans hdone) nofun
  returnedTrue l h := by
    rcases prefix_snoc.1 h with ⟨rfl, hdone⟩ | h
    · exact hi.isSet.1 (PollEvent.returned.inj hdone).symm
    · exact hi.returnedTrue l h
  returnedFalse l h := by
    rcases prefix_snoc.1 h with ⟨rfl, hdone⟩ | h
    · have hdone : c.done = false := (PollEvent.returned.inj hdone).symm
      refine ⟨(hi.overdue hpc hdone).2, fun t ht => ?_⟩
      exact absurd ((hi.isSet.2 (Or.inl ⟨t, ht⟩)).symm.trans hdone) nofun
    · exact hi.returnedFalse l h

/-- The worker sets `done`; if the call has returned `false` already, the deadline is over. -/
theorem setDone_sound {c : Polling} (hi : Sound c) :
    Sound { c with worker := .finished, done := true, log := c.log ++ [.doneSet c.clock] } where
  isSet := by simp
  overdue _ := nofun
  gaveUp hpc := by
    obtain ⟨hlate, hset⟩ := hi.gaveUp hpc
    refine ⟨hlate, fun t ht => ?_⟩
    rcases List.mem_append.1 ht with ht | ht
    · exact hset t ht
    · rw [List.mem_singleton, PollEvent.doneSet.injEq] at ht
      exact ht ▸ hlate
  returnedTrue l h := hi.returnedTrue l ((prefix_snoc.1 h).resolve_left nofun)
  returnedFalse l h := hi.returnedFalse l ((prefix_snoc.1 h).resolve_left nofun)

/-- An orphan sets `done`; if the call has returned already, nobody reads it. -/
theorem strayDone_sound {c : Polling} (hi : Sound c) :
    Sound { c with orphans := c.orphans - 1, done := true, log := c.log ++ [.orphanDone] } where
  isSet := by simp
  overdue _ := nofun
  gaveUp hpc := (hi.gaveUp hpc).imp_right fun hset t ht => hset t (by simpa using ht)
  returnedTrue l h := hi.returnedTrue l ((prefix_snoc.1 h).resolve_left nofun)
  returnedFalse l h := hi.returnedFalse l ((prefix_snoc.1 h).resolve_left nofun)

theorem tick_sound {c : Polling} {now : Int} (hle : c.clock ≤ now) (hi : Sound c) :
    Sound { c with clock := now } where
  isSet := hi.isSet
  overdue hpc hdone := (hi.overdue hpc hdone).imp_left fun h => h.trans_le hle
  gaveUp hpc := (hi.gaveUp hpc).imp_left fun h => h.trans_le hle
  returnedTrue := hi.returnedTrue
  returnedFalse := hi.returnedFalse

theorem sound_step {c c' : Polling} {a : PollAction} (h : step c a = some c') (hi : Sound c) :
    Sound c' := by
  cases step_moves h with
  | startThread _ => exact { hi with overdue := nofun, gaveUp := nofun }
  | testDone _ => exact testDone_sound hi
  | readClock _ => exact readClock_sound hi
  | readDone hpc => exact readDone_sound hpc hi
  | leaveBody _ _ => exact { hi with }
  | setDone => exact setDone_sound hi
  | strayDone => exact strayDone_sound hi
  | tick hle => exact tick_sound hle hi

theorem sound_run {c c' : Polling} {as : List PollAction} (h : run step c as = some c')
    (hi : Sound c) : Sound c' :=
  run_preserves (fun _ _ _ hi h => sound_step h hi) hi h

/-- No orphan sets `done` before the worker has. -/
def Own (c : Polling) (a : PollAction) : Prop := a = .strayDone → c.worker = .finished

instance (c : Polling) (a : PollAction) : Decidable (Own c a) :=
  inferInstanceAs (Decidable (_ → _))

/-- When an orphan has set `done`, the worker had done so before. -/
structure Late (c : Polling) : Prop where
  finished : c.worker = .finished → ∃ t, .doneSet t ∈ c.log
  orphan : ∀ l, l ++ [.orphanDone] <+: c.log → ∃ t, .doneSet t ∈ l

theorem Late.snoc {c : Polling} (hi : Late c) (pc : PollPc) (ev : PollEvent)
    (hev : ev ≠ .orphanDone) : Late { c with pc := pc, log := c.log ++ [ev] } where
  finished h := (hi.finished h).imp fun _ ht => List.mem_append_left _ ht
  orphan l h := hi.orphan l ((prefix_snoc.1 h).resolve_left fun heq => hev heq.2.symm)

theorem late_init {timeout now : Int64} {orphans : Nat} {c : Polling}
    (h : init timeout now orphans = some c) : Late c := by
  rw [init, Option.ite_none_right_eq_some] at h
  obtain rfl := Option.some.inj h.2
  exact ⟨nofun, fun l h => absurd (List.prefix_nil.1 h) (by simp)⟩

theorem late_step {c c' : Polling} {a : PollAction} (h : step c a = some c') (hown : Own c a)
    (hi : Late c) : Late c' := by
  cases step_moves h with
  | startThread _ | leaveBody _ _ => exact { hi with finished := nofun }
  | testDone _ | tick _ => exact { hi with }
  | readClock _ => exact hi.snoc _ (.reading c.clock) nofun
  | readDone _ => exact hi.snoc _ (.returned c.done) nofun
  | setDone =>
    refine ⟨fun _ => ⟨c.clock, List.mem_append_right _ List.mem_cons_self⟩, fun l h => ?_⟩
    exact hi.orphan l ((prefix_snoc.1 h).resolve_left nofun)
  | strayDone =>
    obtain ⟨t, ht⟩ := hi.finished (hown rfl)
    refine ⟨fun _ => ⟨t, List.mem_append_left _ ht⟩, fun l h => ?_⟩
    rcases prefix_snoc.1 h with ⟨rfl, -⟩ | h
    · exact ⟨t, ht⟩
    · exact hi.orphan l h

theorem Late.doneSet {c : Polling} (hi : Late c) {l : List PollEvent} (hl : l <+: c.log)
    (h : .orphanDone ∈ l) : ∃ t, .doneSet t ∈ l := by
  obtain ⟨pre, post, rfl⟩ := List.append_of_mem h
  have hpre : pre ++ [.orphanDone] <+: c.log := by
    refine List.IsPrefix.trans ?_ hl
    exact ⟨post, by simp⟩
  exact (hi.orphan pre hpre).imp fun _ ht => List.mem_append_left _ ht

/-! ## What the answer means -/

/-- The deadline stays, and what has happened stays in the log. -/
theorem step_log {c c' : Polling} {a : PollAction} (h : step c a = some c') :
    c'.deadline = c.deadline ∧ c.log <+: c'.log := by
  cases step_moves h with
  | startThread | testDone | leaveBody | tick => exact ⟨rfl, List.prefix_refl _⟩
  | readClock | readDone | setDone | strayDone => exact ⟨rfl, List.prefix_append _ _⟩

theorem run_log {c c' : Polling} {as : List PollAction} (h : run step c as = some c') :
    c'.deadline = c.deadline ∧ c.log <+: c'.log := by
  refine run_preserves (I := fun d => d.deadline = c.deadline ∧ c.log <+: d.log) ?_
    ⟨rfl, List.prefix_refl _⟩ h
  rintro d a d' ⟨hdeadline, hlog⟩ hstep
  obtain ⟨hdeadline', hlog'⟩ := step_log hstep
  exact ⟨hdeadline'.trans hdeadline, hlog.trans hlog'⟩

/-- Once `done` is set it stays set, and each statement of the caller brings it nearer to its
return. -/
theorem left_step {c c' : Polling} {a : PollAction} (h : step c a = some c') (hdone : c.done = true) :
    c'.done = true ∧ c'.pc.left + [a].count .poll ≤ c.pc.left := by
  cases step_moves h with
  | startThread hpc => simp [hdone, hpc, PollPc.left]
  | testDone hpc => simp [hdone, hpc, PollPc.left]
  | readClock hpc =>
    refine ⟨hdone, ?_⟩
    rw [hpc]
    dsimp only
    split <;> simp [PollPc.left]
  | readDone hpc => simp [hdone, hpc, PollPc.left]
  | leaveBody _ ha => simp [hdone, ha.1]
  | setDone | strayDone => simp
  | tick _ => simp [hdone]

theorem left_run {c c' : Polling} {as : List PollAction} (h : run step c as = some c')
    (hdone : c.done = true) : c'.done = true ∧ c'.pc.left + as.count .poll ≤ c.pc.left := by
  induction as generalizing c with
  | nil =>
    obtain rfl := Option.some.inj h
    exact ⟨hdone, Nat.le_refl _⟩
  | cons a as ih =>
    obtain ⟨d, hstep, hrun⟩ := run_cons_eq_some.1 h
    obtain ⟨hdone', hleft⟩ := left_step hstep hdone
    obtain ⟨hdone'', hleft'⟩ := ih hrun hdone'
    refine ⟨hdone'', ?_⟩
    rw [← List.singleton_append, List.count_append]
    omega

/-- The caller can go on until it has returned. -/
theorem poll_isSome {c : Polling} (h : ∀ done, c.pc ≠ .returned done) :
    (step c .poll).isSome = true := by
  show c.poll.isSome = true
  rw [poll]
  cases hpc : c.pc with
  | returned done => exact absurd hpc (h done)
  | _ => rfl

/-- The call reports completion correctly. -/
structure Correct (c : Polling) : Prop where
  /-- It returns `true` only if the worker has set `done`. -/
  returnsTrue : ∀ l, l ++ [.returned true] <+: c.log → ∃ t, .doneSet t ∈ l
  /-- If the worker sets `done` at the deadline or before, it returns `true`, after at most four more
  statements. -/
  inTime : ∀ t, .doneSet t ∈ c.log → t ≤ c.deadline → ∀ bs d, run step c bs = some d →
    d.pc = .returned true ∨ bs.count .poll < 4 ∧ (step d .poll).isSome = true
  /-- It returns `false` only after a reading of the clock that is past the deadline, with `done` not
  yet set. -/
  returnsFalse : ∀ l, l ++ [.returned false] <+: c.log →
    (∃ t, .reading t ∈ l ∧ c.deadline < t) ∧ ∀ t, .doneSet t ∉ l

/-- Whoever else sets `done`, a worker that does so in time is not overlooked. -/
theorem inTime_of_sound {c : Polling} (hi : Sound c) {t : Int} (ht : .doneSet t ∈ c.log)
    (hle : t ≤ c.deadline) {bs : List PollAction} {d : Polling} (hbs : run step c bs = some d) :
    d.pc = .returned true ∨ bs.count .poll < 4 ∧ (step d .poll).isSome = true := by
  obtain ⟨hdone, hleft⟩ := left_run hbs (hi.isSet.2 (Or.inl ⟨t, ht⟩))
  obtain ⟨hdeadline, hlog⟩ := run_log hbs
  have hfalse : d.pc ≠ .returned false := fun hpc => by
    have := ((sound_run hbs hi).gaveUp hpc).2 t (hlog.subset ht)
    omega
  by_cases htrue : d.pc = .returned true
  · exact Or.inl htrue
  · have hgoes : ∀ done, d.pc ≠ .returned done := fun done => by
      cases done with
      | false => exact hfalse
      | true => exact htrue
    have hpos : 0 < d.pc.left := PollPc.left_pos hgoes
    have hmax : c.pc.left ≤ 4 := PollPc.left_le c.pc
    exact Or.inr ⟨by omega, poll_isSome hgoes⟩

/-- **`run_with_timeout` reports completion correctly when no orphan sets `done`** before the worker
of the call has, and the deadline is one the clock can show: however the caller, the worker and the
orphans are interleaved. -/
theorem runWithTimeout_correct (timeout now : Int64) (orphans : Nat) (c₀ : Polling)
    (hinit : init timeout now orphans = some c₀) (as : List PollAction) (c : Polling)
    (hrun : run step c₀ as = some c) (hown : Along step Own c₀ as) :
    c.deadline = deadlineOf timeout now ∧ Correct c := by
  have hdeadline : c₀.deadline = deadlineOf timeout now := by
    rw [init, Option.ite_none_right_eq_some] at hinit
    exact Option.some.inj hinit.2 ▸ rfl
  have hsound := sound_run hrun (sound_init hinit)
  have hlate : Late c :=
    run_invariant (fun _ _ _ hi hown h => late_step h hown hi) (late_init hinit) hown hrun
  refine ⟨(run_log hrun).1.trans hdeadline, fun l hl => ?_, fun t ht hle bs d hbs => ?_,
    hsound.returnedFalse⟩
  · rcases hsound.returnedTrue l hl with hset | horphan
    · exact hset
    · exact hlate.doneSet ((List.prefix_append _ _).trans hl) horphan
  · exact inTime_of_sound hsound ht hle hbs

/-- The body throws between the two reads of a round, before the deadline. -/
theorem runWithTimeout_correct_throw :
    ∃ c₀ c d, init 5 0 0 = some c₀ ∧
      run step c₀ [.poll, .poll, .bodyThrows, .setDone] = some c ∧
      run step c [.poll, .poll, .poll] = some d ∧ d.pc = .returned true := by
  refine ⟨_, _, _, rfl, rfl, rfl, ?_⟩
  exact ((runWithTimeout_correct 5 0 0 _ rfl [.poll, .poll, .bodyThrows, .setDone] _ rfl
    (by decide)).2.inTime 0 (by decide) (by decide) [.poll, .poll, .poll] _ rfl).resolve_right
    (by decide)

/-- **An orphan completes the call.**  An earlier call has given up on its worker, which ends while
the worker of this call is in its body: the call returns `true`, and nothing has been done. -/
theorem orphan_completes :
    ∃ c₀ c, init 5000 0 1 = some c₀ ∧
      run step c₀ [.poll, .poll, .strayDone, .poll, .poll, .poll] = some c ∧
      c.worker = .inBody ∧ c.log = [.orphanDone, .reading 0, .returned true] ∧ ¬ Correct c := by
  refine ⟨_, _, rfl, rfl, rfl, rfl, fun h => ?_⟩
  obtain ⟨t, ht⟩ := h.returnsTrue [.orphanDone, .reading 0] (List.prefix_refl _)
  simp at ht

end Polling

end WsTestClient
