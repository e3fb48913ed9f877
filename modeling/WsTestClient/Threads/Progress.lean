import WsTestClient.Cost
import WsTestClient.Threads.Refinement

/-!
# The manager gets through its passes

Nothing that happens to the workers and the readers can hold up the manager for good: what it waits
for is a worker or a deadline, or the return of `net::connect`.  This file says so for one device,
step by step.  A call of `run_with_timeout` is two steps here, its beginning and its end; how often
the polling loop goes round in between is not counted.

* `Pc.next` is the control flow of `ws_manage_ws`, and `manager_step` says that the manager follows
  it.  Every step brings it nearer to the end of the pass (`left_lt_of_next`), so a pass has at most
  sixteen.
* `manager_goes_on` — after letting some time pass, if need be, the manager can always take its next
  step; where it is inside `net::connect`, that is the return of it.
* `Sys.waitUntil` is how long the manager may wait for a worker where it is, and `Pc.allowance` how
  long it may still wait behind that: eighteen or twenty-three seconds at most, whatever becomes of
  the workers.  `waiting_step` says that two things only are not covered by these: the time spent in
  `net::connect`, which has no timeout, and `overtime`, in which the manager could go on and does
  not.
-/

set_option autoImplicit false

namespace WsTestClient

open Transition

/-! ## The control flow -/

/-- Where the manager goes on after `run_with_timeout` has returned from the body. -/
def Body.next : Body → List Pc
  | .extra => [.clearSlot]
  | .handshake => [.startReader, .testSlot]
  | .event => [.start .main]
  | .main => [.testSlot]

/-- Where the manager goes on, unless it is about to call `run_with_timeout`; at the end of the
pass, to the entry. -/
def Pc.next : Pc → List Pc
  | .testSlot => [.start .extra, .checkConnection]
  | .start _ => []
  | .wait b _ => b.next
  | .clearSlot => [.checkConnection]
  | .checkConnection => [.checkTimer, .packetGate]
  | .checkTimer => [.tcpConnect, .packetGate]
  | .tcpConnect => [.start .handshake, .testSlot]
  | .startReader => [.setConnected]
  | .setConnected => [.packetGate]
  | .packetGate => [.start .event, .start .main, .testSlot]

/-- How many steps of the pass are left at most. -/
def Pc.left : Pc → Nat
  | .testSlot => 16
  | .start .extra => 15
  | .wait .extra _ => 14
  | .clearSlot => 13
  | .checkConnection => 12
  | .checkTimer => 11
  | .tcpConnect => 10
  | .start .handshake => 9
  | .wait .handshake _ => 8
  | .startReader => 7
  | .setConnected => 6
  | .packetGate => 5
  | .start .event => 4
  | .wait .event _ => 3
  | .start .main => 2
  | .wait .main _ => 1

/-- The timeouts of the calls of `run_with_timeout` that may still be made in the pass. -/
def Pc.allowance : Pc → Int
  | .testSlot | .start .extra => seconds 23
  | .wait .extra _ | .clearSlot | .checkConnection | .checkTimer | .tcpConnect
  | .start .handshake => seconds 18
  | .wait .handshake _ | .startReader | .setConnected | .packetGate | .start .event => seconds 10
  | .wait .event _ | .start .main => seconds 5
  | .wait .main _ => 0

theorem Pc.left_bounds (pc : Pc) : 1 ≤ pc.left ∧ pc.left ≤ 16 := by
  rcases pc with _ | ⟨⟨⟩⟩ | ⟨⟨⟩, _⟩ | _ | _ | _ | _ | _ | _ | _ <;> simp [left]

theorem Pc.allowance_bounds (pc : Pc) : 0 ≤ pc.allowance ∧ pc.allowance ≤ seconds 23 := by
  rcases pc with _ | ⟨⟨⟩⟩ | ⟨⟨⟩, _⟩ | _ | _ | _ | _ | _ | _ | _ <;> simp [allowance, seconds]

/-- Along the control flow there is less left, and no more to wait for, until the pass is over. -/
theorem left_lt_of_next {pc pc' : Pc} (h : pc' ∈ pc.next) (hpc' : pc' ≠ .testSlot) :
    pc'.left < pc.left ∧ pc'.allowance ≤ pc.allowance := by
  rcases pc with _ | ⟨⟨⟩⟩ | ⟨⟨⟩, _⟩ | _ | _ | _ | _ | _ | _ | _ <;>
    simp only [Pc.next, Body.next, List.mem_cons, List.not_mem_nil, or_false] at h <;>
    rcases h with rfl | rfl | rfl <;> simp_all [Pc.left, Pc.allowance, seconds]

theorem not_wait_of_next {pc pc' : Pc} (h : pc' ∈ pc.next) (b : Body) (w : Nat) :
    pc' ≠ .wait b w := by
  rintro rfl
  rcases pc with _ | ⟨⟨⟩⟩ | ⟨⟨⟩, _⟩ | _ | _ | _ | _ | _ | _ | _ <;> simp [Pc.next, Body.next] at h

theorem left_start (b : Body) (w : Nat) :
    (Pc.wait b w).left < (Pc.start b).left ∧
      b.timeout + (Pc.wait b w).allowance = (Pc.start b).allowance := by
  cases b <;> simp [Pc.left, Pc.allowance, Body.timeout, seconds]

/-! ## The steps of the manager -/

theorem resume_next (σ : Sys) (b : Body) (res : BodyResult) : (σ.resume b res).pc ∈ b.next := by
  cases b with
  | handshake =>
    rw [Sys.resume]
    dsimp only [Sys.goto, Body.next]
    split <;> simp
  | _ => simp [Sys.resume, Sys.goto, Body.next]

/-- What a step of the manager does to its control point and to the workers: it starts one, or
it follows the control flow. -/
theorem manager_step {cfg : Config} {σ σ' : Sys} {a : Action} (h : step cfg σ a = some σ')
    (ha : a.isEnv = false) :
    (∃ b, σ.pc = .start b ∧ σ'.pc = .wait b σ.workers.length ∧
      σ'.workers = σ.workers ++ [⟨b, .created, σ.clock + b.timeout, false, false⟩]) ∨
    σ'.pc ∈ σ.pc.next := by
  cases a with
  | manage =>
    replace h : σ.manage cfg = some σ' := h
    rw [Sys.manage] at h
    cases hpc : σ.pc with
    | start b =>
      rw [hpc] at h
      obtain rfl := Option.some.inj h
      exact Or.inl ⟨b, rfl, rfl, rfl⟩
    | wait b w =>
      rw [hpc] at h
      dsimp only at h
      split at h
      · rw [Option.ite_none_right_eq_some] at h
        obtain ⟨-, h⟩ := h
        split at h
        · obtain rfl := Option.some.inj h
          exact Or.inr (resume_next σ b _)
        · obtain rfl := Option.some.inj h
          exact Or.inr (resume_next _ b _)
      · simp at h
    | tcpConnect => simp [hpc] at h
    | testSlot | checkConnection | checkTimer | packetGate =>
      rw [hpc] at h
      obtain rfl := Option.some.inj h
      refine Or.inr ?_
      dsimp only [Sys.goto, Sys.emit]
      repeat' split
      all_goals simp [Pc.next]
    | _ =>
      rw [hpc] at h
      obtain rfl := Option.some.inj h
      exact Or.inr (by simp [Sys.goto, Sys.emit, Pc.next])
  | giveUp =>
    replace h : σ.giveUp = some σ' := h
    rw [Sys.giveUp] at h
    cases hpc : σ.pc with
    | wait b w =>
      rw [hpc] at h
      dsimp only at h
      split at h
      · rw [Option.ite_none_right_eq_some] at h
        obtain rfl := Option.some.inj h.2
        exact Or.inr (resume_next _ b _)
      · simp at h
    | _ => simp [hpc] at h
  | tcpConnects =>
    replace h : σ.tcpConnects = some σ' := h
    rw [Sys.tcpConnects] at h
    cases hpc : σ.pc with
    | tcpConnect =>
      rw [hpc] at h
      obtain rfl := Option.some.inj h
      exact Or.inr (by simp [Sys.goto, Pc.next])
    | _ => simp [hpc] at h
  | tcpThrows =>
    replace h : σ.tcpThrows = some σ' := h
    rw [Sys.tcpThrows] at h
    cases hpc : σ.pc with
    | tcpConnect =>
      rw [hpc] at h
      obtain rfl := Option.some.inj h
      exact Or.inr (by simp [Sys.goto, Sys.emit, Pc.next])
    | _ => simp [hpc] at h
  | _ => simp [Action.isEnv] at ha

/-- A step that does not end the pass leaves less to do. -/
theorem manager_left {cfg : Config} {σ σ' : Sys} {a : Action} (h : step cfg σ a = some σ')
    (ha : a.isEnv = false) (hpc' : σ'.pc ≠ .testSlot) : σ'.pc.left < σ.pc.left := by
  rcases manager_step h ha with ⟨b, hpc, hwait, -⟩ | hnext
  · rw [hpc, hwait]
    exact (left_start b _).1
  · exact (left_lt_of_next hnext hpc').1

/-- The pass ends with the step that leads back to the entry. -/
theorem ends_of_entry {cfg : Config} {σ σ' : Sys} {a : Action} (h : step cfg σ a = some σ')
    (ha : a.isEnv = false) (hpc' : σ'.pc = .testSlot) : Ends cfg σ σ' := by
  refine (step_pass h).resolve_left fun hgoes => ?_
  obtain ⟨hpc, -⟩ := hgoes.boundary hpc'
  rcases manager_step h ha with ⟨b, hstart, -⟩ | hnext
  · exact absurd (hpc.symm.trans hstart) (by simp)
  · rw [hpc, hpc'] at hnext
    simp [Pc.next] at hnext

/-- Every other step goes on with the pass. -/
theorem continues_of_not_entry {cfg : Config} {σ σ' : Sys} {a : Action}
    (h : step cfg σ a = some σ') (hpc' : ¬ (a.isEnv = false ∧ σ'.pc = .testSlot)) :
    Continues cfg σ σ' := by
  cases ha : a.isEnv with
  | true =>
    obtain ⟨hpc, hhist⟩ := env_frame ha h
    exact continues_of_eq hpc hhist (step_change h).clock_le
  | false =>
    exact (step_pass h).resolve_right fun hends => hpc' ⟨ha, hends.boundary⟩

/-- **The manager is stuck nowhere but in `net::connect`**: when some time has passed, it can take a
step, and unless it is inside `net::connect` that is a step of its own. -/
theorem manager_goes_on (cfg : Config) {σ : Sys} (hi : Waited σ.pc σ.workers) :
    ∃ now a, σ.clock ≤ now ∧ a.isEnv = false ∧ (a = .tcpConnects ↔ σ.pc = .tcpConnect) ∧
      (step cfg { σ with clock := now } a).isSome = true := by
  cases hpc : σ.pc with
  | wait b w =>
    obtain ⟨worker, hw, -, -⟩ := hi.waiting b w hpc
    cases hdone : worker.done with
    | true =>
      refine ⟨σ.clock, .manage, Int.le_refl _, rfl, by simp, ?_⟩
      simp only [step, Sys.manage, hw, hdone, if_true]
      split <;> rfl
    | false =>
      -- nothing but the deadline can be relied on
      refine ⟨max σ.clock (worker.deadline + 1), .giveUp, Int.le_max_left _ _, rfl, by simp, ?_⟩
      have hlate : worker.deadline < max σ.clock (worker.deadline + 1) := by omega
      simp [step, Sys.giveUp, hw, hdone, hlate]
  | tcpConnect =>
    refine ⟨σ.clock, .tcpConnects, Int.le_refl _, rfl, by simp, ?_⟩
    simp [step, Sys.tcpConnects]
  | _ =>
    refine ⟨σ.clock, .manage, Int.le_refl _, rfl, by simp, ?_⟩
    simp [step, Sys.manage]

/-! ## How long the manager waits -/

/-- The manager may wait for a worker until then: to the deadline, if it waits for one. -/
def Sys.waitUntil (σ : Sys) : Int :=
  match σ.pc with
  | .wait _ w =>
    match σ.workers[w]? with
    | some worker => max σ.clock worker.deadline
    | none => σ.clock
  | _ => σ.clock

/-- The time that passes while the manager is inside `net::connect`. -/
def Sys.connectTime (σ : Sys) : Action → Int
  | .tick now => if σ.pc = .tcpConnect then now - σ.clock else 0
  | _ => 0

/-- The time that passes while the manager has nothing to wait for. -/
def Sys.overtime (σ : Sys) : Action → Int
  | .tick now => if σ.pc = .tcpConnect then 0 else max 0 (now - σ.waitUntil)
  | _ => 0

theorem clock_le_waitUntil (σ : Sys) : σ.clock ≤ σ.waitUntil := by
  rw [Sys.waitUntil]
  split
  · split
    · exact Int.le_max_left _ _
    · exact Int.le_refl _
  · exact Int.le_refl _

theorem waitUntil_of_not_wait {σ : Sys} (h : ∀ b w, σ.pc ≠ .wait b w) : σ.waitUntil = σ.clock := by
  rw [Sys.waitUntil]
  split
  · rename_i b w hpc
    exact absurd hpc (h b w)
  · rfl

theorem waitUntil_of_wait {σ : Sys} {b : Body} {w : Nat} {worker : Worker} (hpc : σ.pc = .wait b w)
    (hw : σ.workers[w]? = some worker) : σ.waitUntil = max σ.clock worker.deadline := by
  simp [Sys.waitUntil, hpc, hw]

/-- Once a worker is started, its deadline stays. -/
theorem Change.deadlines {a : Action} {h h' : Handoff} (hc : Change a h h') :
    h.workers.map Worker.deadline <+: h'.workers.map Worker.deadline := by
  have hset : ∀ {w : Nat} {worker x : Worker}, h.workers[w]? = some worker →
      x.deadline = worker.deadline →
      h.workers.map Worker.deadline <+: (h.workers.set w x).map Worker.deadline := by
    intro w worker x hw hx
    obtain ⟨hlt, hget⟩ := List.getElem?_eq_some_iff.1 hw
    have hlt' : w < (h.workers.map Worker.deadline).length := by simpa using hlt
    have hsame : x.deadline = (h.workers.map Worker.deadline)[w] := by simp [hx, hget]
    rw [List.map_set, hsame, List.set_getElem_self]
  cases hc with
  | skip | tick | goto | resume | clear | store | otherOrphan | miss => exact List.prefix_refl _
  | start _ => simp
  | misled _ hw _ _ _ => exact hset hw rfl
  | giveUp _ hw _ _ _ => exact hset hw rfl
  | destroy _ _ hw _ => exact hset hw rfl
  | hit _ _ hw => exact hset hw rfl
  | writeFreed hw _ => exact hset hw rfl
  | begin hw _ _ => exact hset hw rfl
  | take hw _ _ _ _ => exact hset hw rfl
  | write hw _ => exact hset hw rfl
  | leave hw _ => exact hset hw rfl

theorem Change.clock_eq {a : Action} {h h' : Handoff} (hc : Change a h h')
    (ha : ∀ now, a ≠ .tick now) : h'.clock = h.clock := by
  cases hc with
  | tick _ => exact absurd rfl (ha _)
  | _ => rfl

/-- A step other than one of the clock or of the manager leaves the wait as it is. -/
theorem waitUntil_of_env {σ σ' : Sys} (hi : Waited σ.pc σ.workers) (hpc : σ'.pc = σ.pc)
    (hclock : σ'.clock = σ.clock)
    (hdeadlines : σ.workers.map Worker.deadline <+: σ'.workers.map Worker.deadline) :
    σ'.waitUntil = σ.waitUntil := by
  by_cases hwait : ∃ b w, σ.pc = .wait b w
  · obtain ⟨b, w, hwait⟩ := hwait
    obtain ⟨worker, hw, -⟩ := hi.waiting b w hwait
    have hdl : (σ.workers.map Worker.deadline)[w]? = some worker.deadline := by simp [hw]
    obtain ⟨worker', hw', hdl'⟩ : ∃ worker', σ'.workers[w]? = some worker' ∧
        worker'.deadline = worker.deadline := by
      obtain ⟨rest, hrest⟩ := hdeadlines
      have hdl' : (σ.workers.map Worker.deadline ++ rest)[w]? = some worker.deadline := by
        rw [List.getElem?_append_left (List.getElem?_eq_some_iff.1 hdl).1]
        exact hdl
      rw [hrest, List.getElem?_map, Option.map_eq_some_iff] at hdl'
      exact hdl'
    rw [waitUntil_of_wait hwait hw, waitUntil_of_wait (hpc.trans hwait) hw', hdl', hclock]
  · have hnot : ∀ b w, σ.pc ≠ .wait b w := fun b w h => hwait ⟨b, w, h⟩
    rw [waitUntil_of_not_wait hnot, waitUntil_of_not_wait (hpc ▸ hnot), hclock]

/-- When the clock moves on, the manager waits no longer, but for what is beyond its wait. -/
theorem waitUntil_tick {σ : Sys} {now : Int} (hle : σ.clock ≤ now) :
    ({ σ with clock := now } : Sys).waitUntil ≤
      σ.waitUntil + (σ.overtime (.tick now) + σ.connectTime (.tick now)) := by
  by_cases htcp : σ.pc = .tcpConnect
  · have hnot : ∀ b w, σ.pc ≠ .wait b w := fun b w h => absurd (htcp.symm.trans h) nofun
    have hnow : ({ σ with clock := now } : Sys).waitUntil = now :=
      waitUntil_of_not_wait (σ := { σ with clock := now }) hnot
    rw [hnow, waitUntil_of_not_wait hnot, Sys.overtime, Sys.connectTime, if_pos htcp, if_pos htcp]
    omega
  have hover : σ.overtime (.tick now) = max 0 (now - σ.waitUntil) := if_neg htcp
  have hconnect : σ.connectTime (.tick now) = 0 := if_neg htcp
  rw [hconnect]
  by_cases hwait : ∃ b w, σ.pc = .wait b w
  · obtain ⟨b, w, hwait⟩ := hwait
    cases hw : σ.workers[w]? with
    | some worker =>
      have hnow : ({ σ with clock := now } : Sys).waitUntil = max now worker.deadline :=
        waitUntil_of_wait (σ := { σ with clock := now }) hwait hw
      rw [hover, hnow, waitUntil_of_wait hwait hw]
      omega
    | none =>
      have hnow : ∀ τ : Sys, τ.pc = .wait b w → τ.workers[w]? = none → τ.waitUntil = τ.clock := by
        intro τ hpc hnone
        simp [Sys.waitUntil, hpc, hnone]
      rw [hover, hnow σ hwait hw, hnow { σ with clock := now } hwait hw]
      dsimp only
      omega
  · have hnot : ∀ b w, σ.pc ≠ .wait b w := fun b w h => hwait ⟨b, w, h⟩
    have hnow : ({ σ with clock := now } : Sys).waitUntil = now :=
      waitUntil_of_not_wait (σ := { σ with clock := now }) hnot
    rw [hover, hnow, waitUntil_of_not_wait hnot]
    omega

/-- Neither is counted but when time passes. -/
theorem overtime_of_not_tick {σ : Sys} {a : Action} (ha : ∀ now, a ≠ .tick now) :
    σ.overtime a = 0 ∧ σ.connectTime a = 0 := by
  cases a with
  | tick now => exact absurd rfl (ha now)
  | _ => exact ⟨rfl, rfl⟩

/-- Within a pass, only overtime and the time inside `net::connect` are not accounted for by what
the manager waits for. -/
theorem waiting_step {cfg : Config} {σ σ' : Sys} {a : Action} (h : step cfg σ a = some σ')
    (hi : Waited σ.pc σ.workers) (hpc' : ¬ (a.isEnv = false ∧ σ'.pc = .testSlot)) :
    σ'.waitUntil + σ'.pc.allowance ≤
      σ.waitUntil + σ.pc.allowance + (σ.overtime a + σ.connectTime a) := by
  have hchange := step_change h
  cases ha : a.isEnv with
  | true =>
    obtain ⟨hpc, -⟩ := env_frame ha h
    by_cases htick : ∃ now, a = .tick now
    · obtain ⟨now, rfl⟩ := htick
      rw [step, Option.ite_none_right_eq_some] at h
      obtain rfl := Option.some.inj h.2
      have hwait := waitUntil_tick h.1
      show _ + σ.pc.allowance ≤ _
      omega
    · have hnot : ∀ now, a ≠ .tick now := fun now h => htick ⟨now, h⟩
      obtain ⟨hover, hconnect⟩ := overtime_of_not_tick (σ := σ) hnot
      rw [waitUntil_of_env hi hpc (hchange.clock_eq hnot) hchange.deadlines, hpc, hover, hconnect]
      omega
  | false =>
    have hnot : ∀ now, a ≠ .tick now := by
      rintro now rfl
      simp [Action.isEnv] at ha
    obtain ⟨hover, hconnect⟩ := overtime_of_not_tick (σ := σ) hnot
    have hclock : σ'.clock = σ.clock := hchange.clock_eq hnot
    have hle := clock_le_waitUntil σ
    rcases manager_step h ha with ⟨b, hstart, hwait, hworkers⟩ | hnext
    · have hw : σ'.workers[σ.workers.length]? =
          some ⟨b, .created, σ.clock + b.timeout, false, false⟩ := by
        rw [hworkers, List.getElem?_concat_length]
      have hallow := (left_start b σ.workers.length).2
      have htimeout : 0 ≤ b.timeout := by cases b <;> simp [Body.timeout, seconds]
      rw [waitUntil_of_wait hwait hw, hwait, hstart, hclock]
      dsimp only
      omega
    · rw [waitUntil_of_not_wait (not_wait_of_next hnext), hclock]
      have hallow := (left_lt_of_next hnext fun hentry => hpc' ⟨ha, hentry⟩).2
      omega

end WsTestClient
