import Mathlib
import WsTestClient.Cost
import WsTestClient.Threads.System

/-!
# Who gets the bad payload

The counter of `ws_get_payload` belongs to the process, and the good and the bad main payload take
turns by it.  Here the counter is followed through the interleaved runs of a device, in which the
workers of the main write, the readers and the other devices all look main payloads up.

* `step_counter` — the counter moves when a main payload is looked up, and then only.
* `main_payloads_alternate` — so a look-up gets the bad payload if and only if the number of
  look-ups before it, whoever made them, is odd and it finds that bad payloads are wanted.

A look-up is one step.  The source takes no lock for the counter: this device's look-ups exclude each
other no more than those of two devices do.
-/

set_option autoImplicit false

namespace WsTestClient

open Transition

/-! ## The counter -/

/-- The request that a step passes to `ws_get_payload`, if it does. -/
def Sys.request (σ : Sys) : Action → Option Text
  | .enter w _ =>
    match σ.workers[w]?.map Worker.body with
    | some .event => some "event".toList
    | some .main => some "main_payload".toList
    | _ => none
  | .store r _ => if σ.readers[r]? = some .received then some σ.buffer else none
  | _ => none

/-- The step looks up a main payload. -/
def Sys.looksUpMain (σ : Sys) (a : Action) : Bool :=
  (σ.request a).any fun request => decide (baseMainPayload <:+: request)

/-- The counter behind a step that makes the request, if any. -/
def counterAfter (counter : UInt64) (request : Option Text) : UInt64 :=
  if request.any fun request => decide (baseMainPayload <:+: request) then counter + 1 else counter

theorem wsGetPayload_counter (counter : UInt64) (request : Text) (bad : Bool) :
    (wsGetPayload counter request bad).2 = counterAfter counter (some request) := by
  rw [wsGetPayload, counterAfter, Option.any_some]
  by_cases hmain : baseMainPayload <:+: request
  · rw [if_pos hmain, if_pos (decide_eq_true hmain)]
    split <;> rfl
  · rw [if_neg hmain, if_neg (mt of_decide_eq_true hmain)]
    split
    · rfl
    · split <;> rfl

theorem manage_counter {cfg : Config} {σ σ' : Sys} (h : σ.manage cfg = some σ') :
    σ'.whichMainPayload = σ.whichMainPayload := by
  have hresume : ∀ (τ : Sys) b res, (τ.resume b res).whichMainPayload = τ.whichMainPayload := by
    intro τ b res
    cases b <;> rfl
  cases hpc : σ.pc with
  | wait b w =>
    rw [Sys.manage, hpc] at h
    dsimp only at h
    split at h
    · rw [Option.ite_none_right_eq_some] at h
      obtain ⟨-, h⟩ := h
      split at h <;> exact Option.some.inj h ▸ hresume _ _ _
    · simp at h
  | tcpConnect =>
    rw [Sys.manage, hpc] at h
    exact absurd h nofun
  | checkTimer =>
    rw [Sys.manage, hpc] at h
    obtain rfl := Option.some.inj h
    dsimp only
    split <;> rfl
  | packetGate =>
    rw [Sys.manage, hpc] at h
    obtain rfl := Option.some.inj h
    dsimp only
    split <;> rfl
  | _ =>
    rw [Sys.manage, hpc] at h
    obtain rfl := Option.some.inj h
    rfl

theorem giveUp_counter {σ σ' : Sys} (h : σ.giveUp = some σ') :
    σ'.whichMainPayload = σ.whichMainPayload := by
  rw [Sys.giveUp] at h
  split at h
  · rename_i b w hpc
    split at h
    · rw [Option.ite_none_right_eq_some] at h
      obtain rfl := Option.some.inj h.2
      cases b <;> rfl
    · simp at h
  · simp at h

theorem tcpConnects_counter {σ σ' : Sys} (h : σ.tcpConnects = some σ') :
    σ'.whichMainPayload = σ.whichMainPayload := by
  rw [Sys.tcpConnects] at h
  split at h
  · obtain rfl := Option.some.inj h
    rfl
  · simp at h

theorem tcpThrows_counter {σ σ' : Sys} (h : σ.tcpThrows = some σ') :
    σ'.whichMainPayload = σ.whichMainPayload := by
  rw [Sys.tcpThrows] at h
  split at h
  · obtain rfl := Option.some.inj h
    rfl
  · simp at h

theorem lookUp_counter (σ : Sys) (w : Nat) (worker : Worker) (request : Text) (bad : Bool) :
    (σ.lookUp w worker request bad).whichMainPayload =
      counterAfter σ.whichMainPayload (some request) := by
  rw [Sys.lookUp]
  dsimp only
  split <;> exact wsGetPayload_counter _ _ _

theorem enter_counter {cfg : Config} {σ σ' : Sys} {w : Nat} {flag : Bool}
    (h : σ.enter cfg w flag = some σ') :
    σ'.whichMainPayload = counterAfter σ.whichMainPayload (σ.request (.enter w flag)) := by
  rw [Sys.enter] at h
  cases hw : σ.workers[w]? with
  | none => simp [hw] at h
  | some worker =>
    simp only [hw, Option.ite_none_right_eq_some] at h
    obtain ⟨-, h⟩ := h
    simp only [Sys.request, hw, Option.map_some]
    cases hbody : worker.body with
    | handshake =>
      simp only [hbody, Option.some.injEq] at h
      rw [← h]
      rfl
    | extra =>
      simp only [hbody, Option.ite_none_right_eq_some] at h
      obtain ⟨-, h⟩ := h
      split at h <;> exact Option.some.inj h ▸ rfl
    | event =>
      simp only [hbody, Option.some.injEq] at h
      exact h ▸ lookUp_counter σ w worker _ _
    | main =>
      simp only [hbody, Option.some.injEq] at h
      exact h ▸ lookUp_counter σ w worker _ _

theorem write_counter {σ σ' : Sys} {w : Nat} (h : σ.write w = some σ') :
    σ'.whichMainPayload = σ.whichMainPayload := by
  rw [Sys.write] at h
  split at h
  · split at h
    · obtain rfl := Option.some.inj h
      rfl
    · simp at h
  · simp at h

theorem writeFreed_counter {σ σ' : Sys} {w : Nat} {p : Payload}
    (h : σ.writeFreed w p = some σ') : σ'.whichMainPayload = σ.whichMainPayload := by
  rw [Sys.writeFreed] at h
  split at h
  · split at h
    · obtain rfl := Option.some.inj h
      rfl
    · simp at h
  · simp at h

theorem fail_counter {σ σ' : Sys} {w : Nat} (h : σ.fail w = some σ') :
    σ'.whichMainPayload = σ.whichMainPayload := by
  rw [Sys.fail] at h
  split at h
  · split at h
    · rw [Option.ite_none_right_eq_some] at h
      obtain rfl := Option.some.inj h.2
      rfl
    · obtain rfl := Option.some.inj h
      rfl
    · simp at h
  · simp at h

theorem finish_counter {σ σ' : Sys} {w : Nat} (h : σ.finish w = some σ') :
    σ'.whichMainPayload = σ.whichMainPayload := by
  rw [Sys.finish] at h
  split at h
  · split at h
    · obtain rfl := Option.some.inj h
      dsimp only
      split <;> rfl
    · obtain rfl := Option.some.inj h
      rfl
    · simp at h
  · simp at h

theorem strayDone_counter {σ σ' : Sys} (h : σ.strayDone = some σ') :
    σ'.whichMainPayload = σ.whichMainPayload := by
  rw [Sys.strayDone, Option.ite_none_right_eq_some] at h
  obtain ⟨-, h⟩ := h
  dsimp only at h
  split at h
  · split at h <;> exact Option.some.inj h ▸ rfl
  · exact Option.some.inj h ▸ rfl

theorem store_counter {σ σ' : Sys} {r : Nat} {flag : Bool} (h : σ.store r flag = some σ') :
    σ'.whichMainPayload = counterAfter σ.whichMainPayload (σ.request (.store r flag)) := by
  rw [Sys.store, Option.ite_none_right_eq_some] at h
  obtain rfl := Option.some.inj h.2
  rw [Sys.request, if_pos h.1.1]
  exact wsGetPayload_counter _ _ _

/-- What a step of this device does to the counter. -/
theorem step_counter {cfg : Config} {σ σ' : Sys} {a : Action} (h : step cfg σ a = some σ')
    (ha : a ≠ .otherDevice) :
    σ'.whichMainPayload = counterAfter σ.whichMainPayload (σ.request a) := by
  have hreader : ∀ {c : Prop} [Decidable c] {τ : Sys}, (if c then some τ else none) = some σ' →
      τ.whichMainPayload = σ.whichMainPayload → σ'.whichMainPayload = σ.whichMainPayload := by
    intro c _ τ h hτ
    rw [Option.ite_none_right_eq_some] at h
    exact Option.some.inj h.2 ▸ hτ
  cases a with
  | manage => exact manage_counter h
  | giveUp => exact giveUp_counter h
  | tcpConnects => exact tcpConnects_counter h
  | tcpThrows => exact tcpThrows_counter h
  | enter w flag => exact enter_counter h
  | write w => exact write_counter h
  | writeFreed w p => exact writeFreed_counter h
  | fail w => exact fail_counter h
  | finish w => exact finish_counter h
  | poll r => exact hreader h rfl
  | receive r text => exact hreader h rfl
  | readThrows r bytes => exact hreader h rfl
  | store r flag => exact store_counter h
  | clearBuffer r => exact hreader h rfl
  | setOpen isOpen =>
    obtain rfl := Option.some.inj h
    rfl
  | tick now =>
    obtain rfl := Option.some.inj (Option.ite_none_right_eq_some.1 h).2
    rfl
  | otherDevice => exact absurd rfl ha
  | otherOrphan =>
    obtain rfl := Option.some.inj h
    rfl
  | strayDone => exact strayDone_counter h
  | otherStray =>
    obtain rfl := Option.some.inj (Option.ite_none_right_eq_some.1 h).2
    rfl

/-! ## The turns -/

/-- A main payload is looked up in this step, by this device or another. -/
def picksMain (σ : Sys) (a : Action) : Bool := decide (a = .otherDevice) || σ.looksUpMain a

/-- How many main payloads are looked up in the run. -/
def mainLookups (cfg : Config) (σ : Sys) (as : List Action) : Nat :=
  total (step cfg) (fun σ a => if picksMain σ a then 1 else 0) σ as

theorem picksMain_counter {cfg : Config} {σ σ' : Sys} {a : Action} (h : step cfg σ a = some σ') :
    σ'.whichMainPayload =
      σ.whichMainPayload + UInt64.ofNat (if picksMain σ a then 1 else 0) := by
  by_cases ha : a = .otherDevice
  · subst ha
    obtain rfl := Option.some.inj h
    simp [picksMain]
  · rw [step_counter h ha, counterAfter]
    simp only [picksMain, decide_eq_false ha, Bool.false_or, Sys.looksUpMain]
    split <;> simp

theorem run_counter {cfg : Config} {σ σ' : Sys} {as : List Action}
    (hrun : run (step cfg) σ as = some σ') :
    σ'.whichMainPayload = σ.whichMainPayload + UInt64.ofNat (mainLookups cfg σ as) := by
  induction as generalizing σ with
  | nil =>
    obtain rfl := Option.some.inj hrun
    simp [mainLookups, total]
  | cons a as ih =>
    obtain ⟨τ, hτ, hrun⟩ := run_cons_eq_some.1 hrun
    rw [ih hrun, picksMain_counter hτ, mainLookups, mainLookups, total_cons_of_step hτ,
      UInt64.ofNat_add, UInt64.add_assoc]

/-- The main payload whose turn it is after `n` look-ups, if bad payloads are wanted or not. -/
def mainPayload (bad : Bool) (n : Nat) : Payload :=
  if n % 2 = 1 ∧ bad = true then wsBadPayload else wsPayload

theorem wsGetPayload_turn (bad : Bool) (n : Nat) {request : Text}
    (hmain : baseMainPayload <:+: request) :
    wsGetPayload (1 + UInt64.ofNat n) request bad =
      (some [mainPayload bad n], 1 + UInt64.ofNat n + 1) := by
  have hparity : (1 + UInt64.ofNat n).toNat % 2 = 0 ↔ n % 2 = 1 := by
    have hone : (1 : UInt64).toNat = 1 := by simp
    rw [UInt64.toNat_add, UInt64.toNat_ofNat', hone]
    omega
  have hcall : Call.isMain ⟨request, bad⟩ = true := decide_eq_true hmain
  rw [wsGetPayload_of_isMain hcall]
  simp only [mainPayload, hparity]

theorem lookUp_turn {σ : Sys} {w n : Nat} {worker : Worker} {request : Text} (bad : Bool)
    (hw : σ.workers[w]? = some worker) (hcounter : σ.whichMainPayload = 1 + UInt64.ofNat n)
    (hmain : baseMainPayload <:+: request) :
    (σ.lookUp w worker request bad).workers[w]? =
      some { worker with pc := .running none [mainPayload bad n] } := by
  have hlt : w < σ.workers.length := (List.getElem?_eq_some_iff.1 hw).1
  rw [Sys.lookUp, hcounter, wsGetPayload_turn bad n hmain]
  simp [Sys.setWorkerPc, List.getElem?_set_self hlt]

/-- A worker takes the payload whose turn it is. -/
theorem enter_turn {cfg : Config} {σ σ' : Sys} {w n : Nat} {flag : Bool}
    (hstep : σ.enter cfg w flag = some σ') (hcounter : σ.whichMainPayload = 1 + UInt64.ofNat n)
    {request : Text} (hrequest : σ.request (.enter w flag) = some request)
    (hmain : baseMainPayload <:+: request) :
    ∃ worker, σ'.workers[w]? = some worker ∧ worker.body = .main ∧
      worker.pc = .running none [mainPayload (worker.sendBadPayloads cfg flag) n] := by
  cases hw : σ.workers[w]? with
  | none => simp [Sys.request, hw] at hrequest
  | some worker =>
    rw [Sys.request, hw, Option.map_some] at hrequest
    rw [Sys.enter, hw] at hstep
    dsimp only at hstep
    rw [Option.ite_none_right_eq_some] at hstep
    cases hbody : worker.body with
    | main =>
      rw [hbody] at hstep
      obtain rfl := Option.some.inj hstep.2
      exact ⟨_, lookUp_turn _ hw hcounter List.infix_rfl, hbody, rfl⟩
    | event =>
      simp only [hbody, Option.some.injEq] at hrequest
      subst hrequest
      exact absurd hmain (by decide)
    | _ => simp [hbody] at hrequest

/-- A reader stores the payload whose turn it is. -/
theorem store_turn {σ σ' : Sys} {r n : Nat} {flag : Bool} (hstep : σ.store r flag = some σ')
    (hcounter : σ.whichMainPayload = 1 + UInt64.ofNat n) {request : Text}
    (hrequest : σ.request (.store r flag) = some request) (hmain : baseMainPayload <:+: request) :
    σ'.ws.extraPayload = some ⟨σ.messages, [mainPayload flag n]⟩ := by
  obtain ⟨-, hbuffer⟩ := Option.ite_none_right_eq_some.1 hrequest
  obtain rfl := Option.some.inj hbuffer
  rw [Sys.store, Option.ite_none_right_eq_some, hcounter, wsGetPayload_turn flag _ hmain] at hstep
  obtain rfl := Option.some.inj hstep.2
  rfl

/-- **The turns of the main payloads.**  In every run of a device among others, what is handed to a
step that looks a main payload up is the payload whose turn it is, by the number of look-ups before
it: to a worker as all it is to write, to a reader as the reply to what it has received.  Whether
bad payloads are wanted is what the step finds in `send_bad_payloads`, or in its place. -/
theorem main_payloads_alternate (cfg : Config) (deviceId : Text) (clock : Int) (as : List Action)
    (σ : Sys) (hrun : run (step cfg) (.init deviceId clock) as = some σ) (a : Action) (σ' : Sys)
    (hstep : step cfg σ a = some σ') (hmain : σ.looksUpMain a = true) :
    (∃ w flag worker, a = .enter w flag ∧ σ'.workers[w]? = some worker ∧ worker.body = .main ∧
        worker.pc = .running none [mainPayload (worker.sendBadPayloads cfg flag)
          (mainLookups cfg (.init deviceId clock) as)]) ∨
      ∃ r flag, a = .store r flag ∧ σ'.ws.extraPayload =
        some ⟨σ.messages, [mainPayload flag (mainLookups cfg (.init deviceId clock) as)]⟩ := by
  have hcounter : σ.whichMainPayload = 1 + UInt64.ofNat _ := run_counter hrun
  obtain ⟨request, hrequest, hlooks⟩ := (Option.any_eq_true ..).1 hmain
  have hturn := of_decide_eq_true hlooks
  cases a with
  | enter w flag =>
    obtain ⟨worker, hworker, hbody, hpc⟩ := enter_turn hstep hcounter hrequest hturn
    exact .inl ⟨w, flag, worker, rfl, hworker, hbody, hpc⟩
  | store r flag => exact .inr ⟨r, flag, rfl, store_turn hstep hcounter hrequest hturn⟩
  | _ => simp [Sys.request] at hrequest

/-- Bad payloads, and no events. -/
def badConfig : Config where
  timeBetweenPackets := 30
  timeReconnect := 10
  sendBadPayloads := true
  sendEvents := false

/-- A device connects and starts its first main write, while another device looks up a payload. -/
def otherFirst : List Action :=
  [.manage, .manage, .manage, .tcpConnects, .manage, .enter 0 false, .finish 0] ++
    List.replicate 5 .manage ++ [.otherDevice]

/-- Its worker is handed the bad payload. -/
theorem main_payloads_alternate_other :
    ∃ σ σ' worker, run (step badConfig) (.init "a".toList (seconds 100)) otherFirst = some σ ∧
      step badConfig σ (.enter 1 true) = some σ' ∧ σ'.workers[1]? = some worker ∧
        worker.pc = .running none [wsBadPayload] := by
  have hsome : ((run (step badConfig) (.init "a".toList (seconds 100)) otherFirst).bind fun σ =>
      if σ.looksUpMain (.enter 1 true) then step badConfig σ (.enter 1 true) else none).isSome =
        true := by
    decide +kernel
  have hcount : mainLookups badConfig (.init "a".toList (seconds 100)) otherFirst = 1 := by
    decide +kernel
  obtain ⟨σ', hσ'⟩ := Option.isSome_iff_exists.1 hsome
  obtain ⟨σ, hrun, hσ'⟩ := Option.bind_eq_some_iff.1 hσ'
  obtain ⟨hmain, hstep⟩ := Option.ite_none_right_eq_some.1 hσ'
  rcases main_payloads_alternate badConfig "a".toList (seconds 100) otherFirst σ hrun
    (.enter 1 true) σ' hstep hmain with ⟨w, flag, worker, hw, hworker, -, hpc⟩ | ⟨r, flag, hr, -⟩
  · obtain ⟨rfl, rfl⟩ := Action.enter.inj hw
    have hbad : worker.sendBadPayloads badConfig true = true := by
      rw [Worker.sendBadPayloads]
      split <;> rfl
    rw [hcount, hbad] at hpc
    exact ⟨σ, σ', worker, hrun, hstep, hworker, hpc⟩
  · simp at hr

end WsTestClient
