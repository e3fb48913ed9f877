import WsTestClient.Threads.Refinement
import WsTestClient.Threads.Slot

/-!
# The mutex of a device

`ws_state_mutex` is taken in two places: by the worker that sends a reply, for as long as the writes
take, and by a reader, for the one assignment with which it stores.  Neither has a timeout.

* `mutex_held_iff` — the mutex is held exactly while a worker is inside the body that sends a reply;
  so at most one worker is, and while it is, no reader stores.
* `held_blocks_replies` — while the holder does not leave its body, nothing is stored and no other
  reply is found, in any run.  The manager goes on all the same (`manager_goes_on`), so a write that
  hangs leaves the device without replies while its payloads go out.
-/

set_option autoImplicit false

namespace WsTestClient

open Transition

/-- Worker `w` is inside the body that sends a reply. -/
def SendsReply (workers : List Worker) (w : Nat) : Prop :=
  ∃ worker, workers[w]? = some worker ∧ worker.body = .extra ∧ worker.pc.isActive = true

theorem sendsReply_self {workers : List Worker} {w : Nat} {x y : Worker} (hw : workers[w]? = some x)
    (hbody : y.body = .extra) (hactive : y.pc.isActive = true) :
    SendsReply (workers.set w y) w :=
  ⟨y, workers_set_self hw, hbody, hactive⟩

theorem SendsReply.other {workers : List Worker} {v w : Nat} {y : Worker}
    (h : SendsReply workers w) (hv : v ≠ w) : SendsReply (workers.set v y) w := by
  obtain ⟨x, hx, hbody, hactive⟩ := h
  exact ⟨x, workers_set_other hv hx, hbody, hactive⟩

/-- A worker that stays in its body, if it is in it. -/
theorem SendsReply.set {workers : List Worker} {v w : Nat} {x y : Worker}
    (h : SendsReply workers w) (hv : workers[v]? = some x) (hbody : y.body = x.body)
    (hactive : x.pc.isActive = true → y.pc.isActive = true) : SendsReply (workers.set v y) w := by
  by_cases hne : v = w
  · subst hne
    obtain ⟨x', hx, hxb, hxa⟩ := h
    obtain rfl := Option.some.inj (hv.symm.trans hx)
    exact sendsReply_self hv (hbody.trans hxb) (hactive hxa)
  · exact h.other hne

/-- The mutex is held by a worker that sends a reply. -/
def Held (mutex : Option Nat) (workers : List Worker) : Prop :=
  ∀ w, mutex = some w → SendsReply workers w

theorem held_step {a : Action} {h h' : Handoff} (hc : Change a h h') (hi : Held h.mutex h.workers) :
    Held h'.mutex h'.workers := by
  intro v hv
  cases hc with
  | skip | tick | goto | resume | clear | otherOrphan | miss => exact hi v hv
  | store hmutex => exact hi v hv
  | start _ =>
    obtain ⟨x, hx, hbody, hactive⟩ := hi v hv
    refine ⟨x, ?_, hbody, hactive⟩
    exact (List.getElem?_append_left (List.getElem?_eq_some_iff.1 hx).1).trans hx
  | misled _ hw _ _ _ => exact (hi v hv).set hw rfl fun h => h
  | giveUp _ hw _ _ _ => exact (hi v hv).set hw rfl fun h => h
  | hit _ _ hw => exact (hi v hv).set hw rfl fun h => h
  | destroy _ _ hw _ => exact (hi v hv).set hw rfl fun _ => rfl
  | begin hw _ _ => exact (hi v hv).set hw rfl fun _ => rfl
  | write hw _ => exact (hi v hv).set hw rfl fun _ => rfl
  | writeFreed hw _ => exact (hi v hv).set hw rfl fun _ => rfl
  | take hw _ hbody _ _ =>
    obtain rfl := Option.some.inj hv
    exact sendsReply_self hw hbody rfl
  | @leave _ _ w worker _ hw _ =>
    have hkeep : h.mutex = some v ∧ v ≠ w := by
      replace hv : (if h.mutex = some w then none else h.mutex) = some v := hv
      split at hv
      · simp at hv
      · rename_i hnot
        exact ⟨hv, fun hne => hnot (hne ▸ hv)⟩
    exact (hi v hkeep.1).other (Ne.symm hkeep.2)

theorem held_run {cfg : Config} {deviceId : Text} {clock : Int} {as : List Action} {σ : Sys}
    (hrun : run (step cfg) (.init deviceId clock) as = some σ) : Held σ.mutex σ.workers :=
  run_preserves (I := fun σ => Held σ.mutex σ.workers)
    (fun _ _ _ hi h => held_step (step_change h) hi) (fun _ hw => by simp [Sys.init] at hw) hrun

theorem orderly_run {cfg : Config} {deviceId : Text} {clock : Int} {as : List Action} {σ : Sys}
    (hrun : run (step cfg) (.init deviceId clock) as = some σ) : Orderly σ.handoff :=
  run_preserves (I := fun σ => Orderly σ.handoff) (fun _ _ _ hi h => orderly_step (step_change h) hi)
    (orderly_init deviceId clock) hrun

/-- **The mutex is held exactly by the worker that sends a reply.** -/
theorem mutex_held_iff (cfg : Config) (deviceId : Text) (clock : Int) (as : List Action) (σ : Sys)
    (hrun : run (step cfg) (.init deviceId clock) as = some σ) (w : Nat) :
    σ.mutex = some w ↔ SendsReply σ.workers w := by
  refine ⟨held_run hrun w, ?_⟩
  rintro ⟨worker, hw, hbody, hactive⟩
  exact (orderly_run hrun).locked w worker hw hbody hactive

/-- Worker 1 has found the reply to a message. -/
def foundReply : List Action :=
  connectRun ++ messageRun "event".toList ++ [.manage, .manage, .enter 1 false]

theorem mutex_held_iff_found :
    ∃ σ, run (step usageConfig) (.init [] (seconds 10)) foundReply = some σ ∧
      SendsReply σ.workers 1 := by
  have hfound : (run (step usageConfig) (.init [] (seconds 10)) foundReply).map Sys.mutex =
      some (some 1) := by decide +kernel
  obtain ⟨σ, hσ, hmutex⟩ := Option.map_eq_some_iff.1 hfound
  exact ⟨σ, hσ, (mutex_held_iff usageConfig [] (seconds 10) foundReply σ hσ 1).1 hmutex⟩

/-! ## What waits for it -/

/-- A reply is stored, or found in the slot. -/
def Obs.isReply : Obs → Bool
  | .stored _ _ | .took _ _ => true
  | _ => false

/-- What has been stored and found so far. -/
def replies (log : List Obs) : List Obs := log.filter Obs.isReply

theorem replies_trace (log : List Obs) : replies (trace log) = replies log := by
  rw [replies, trace, List.filter_filter]
  refine List.filter_congr fun o _ => ?_
  cases o <;> rfl

/-- A step that is not the holder leaving its body leaves the mutex and the replies as they are. -/
theorem held_blocks_step {a : Action} {h h' : Handoff} (hc : Change a h h')
    (hi : Held h.mutex h.workers) {w : Nat} (hmutex : h.mutex = some w)
    (ha : a ≠ .fail w ∧ a ≠ .finish w) :
    h'.mutex = some w ∧ replies h'.trace = replies h.trace := by
  cases hc with
  | skip | tick | goto | resume | misled | clear | destroy | start | giveUp | begin | otherOrphan
  | hit | miss => exact ⟨hmutex, rfl⟩
  | take _ _ _ hfree _ | store hfree => simp [hmutex] at hfree
  | write _ _ =>
    refine ⟨hmutex, ?_⟩
    simp [replies, Obs.isReply]
  | writeFreed _ _ =>
    refine ⟨hmutex, ?_⟩
    simp [replies, Obs.isReply]
  | @leave _ _ v worker _ hv hwhy =>
    have hne : v ≠ w := by
      rintro rfl
      cases hwhy with
      | atOnce hcreated _ =>
        obtain ⟨x, hx, -, hactive⟩ := hi v hmutex
        obtain rfl := Option.some.inj (hv.symm.trans hx)
        rw [hcreated] at hactive
        exact absurd hactive nofun
      | throws _ => exact ha.1 rfl
      | returns _ => exact ha.2 rfl
      | bereft _ => exact ha.2 rfl
    have hkeep : h.mutex ≠ some v := by
      rw [hmutex]
      exact fun heq => hne (Option.some.inj heq).symm
    exact ⟨(if_neg hkeep).trans hmutex, rfl⟩

/-- **A write that hangs blocks all replies.**  From a state in which worker `w` holds the mutex,
as long as `w` does not leave its body, no reader stores anything and no worker finds a reply. -/
theorem held_blocks_replies (cfg : Config) (deviceId : Text) (clock : Int) (as : List Action)
    (σ : Sys) (hrun : run (step cfg) (.init deviceId clock) as = some σ) (w : Nat)
    (hmutex : σ.mutex = some w) (bs : List Action) (σ' : Sys)
    (hbs : run (step cfg) σ bs = some σ') (hstay : .fail w ∉ bs ∧ .finish w ∉ bs) :
    σ'.mutex = some w ∧ replies σ'.log = replies σ.log := by
  have hinv : ∀ s a t, (Held s.mutex s.workers ∧ s.mutex = some w ∧ replies s.log = replies σ.log) →
      (a ≠ .fail w ∧ a ≠ .finish w) → step cfg s a = some t →
      Held t.mutex t.workers ∧ t.mutex = some w ∧ replies t.log = replies σ.log := by
    rintro s a t ⟨hheld, hs, hlog⟩ ha h
    have hc := step_change h
    obtain ⟨ht, hsame⟩ := held_blocks_step hc hheld hs ha
    refine ⟨held_step hc hheld, ht, ?_⟩
    rw [← hlog, ← replies_trace t.log, ← replies_trace s.log]
    exact hsame
  have halong : Along (step cfg) (fun _ a => a ≠ .fail w ∧ a ≠ .finish w) σ bs := by
    refine .of_mem fun a ha _ => ⟨?_, ?_⟩
    · rintro rfl
      exact hstay.1 ha
    · rintro rfl
      exact hstay.2 ha
  exact (run_invariant hinv ⟨held_run hrun, hmutex, rfl⟩ halong hbs).2

/-- The write hangs: the manager gives up after five seconds and goes on, and the reader receives
another message. -/
def hangingWrite : List Action :=
  [.poll 0, .receive 0 "event".toList, .tick (seconds 16), .giveUp, .manage, .manage]

theorem held_blocks_replies_hanging :
    ∃ σ ∈ run (step usageConfig) (.init [] (seconds 10)) foundReply,
      ∃ σ' ∈ run (step usageConfig) σ hangingWrite,
        σ'.mutex = some 1 ∧ replies σ'.log = replies σ.log := by
  have hfound : ((run (step usageConfig) (.init [] (seconds 10)) foundReply).map fun σ =>
      (σ.mutex, (run (step usageConfig) σ hangingWrite).isSome)) = some (some 1, true) := by
    decide +kernel
  obtain ⟨σ, hσ, hpair⟩ := Option.map_eq_some_iff.1 hfound
  obtain ⟨hmutex, hsome⟩ := Prod.mk.inj hpair
  obtain ⟨σ', hσ'⟩ := Option.isSome_iff_exists.1 hsome
  exact ⟨σ, hσ, σ', hσ', held_blocks_replies usageConfig [] (seconds 10) foundReply σ hσ 1 hmutex
    hangingWrite σ' hσ' (by decide)⟩

end WsTestClient
