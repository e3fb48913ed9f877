import Mathlib
import WsTestClient.Fleet.Rounds

/-!
# The load on the server

Each device lets its main payloads through at the packet gate, no two of them less than
`time_between_packets` apart.  Taken together, the devices of the fleet therefore pass the gate at
most as often in any such interval as the ids file has lines: `load_bound`.
-/

set_option autoImplicit false

namespace WsTestClient

open Transition

/-- Of times that are `n` seconds apart, at most one falls into an interval of that length. -/
theorem Spaced.countP_le_one {n : Int} {l : List Int} (h : Spaced n l) (u : Int) :
    l.countP (fun t => u ≤ t ∧ t < u + seconds n) ≤ 1 := by
  rcases Int.lt_or_le (seconds n) 0 with hneg | hpos
  · have hnone : l.countP (fun t => u ≤ t ∧ t < u + seconds n) = 0 :=
      List.countP_eq_zero.2 fun t _ => by
        simp only [decide_eq_true_eq]
        omega
    omega
  · have hpairs : l.Pairwise fun t t' => t + seconds n ≤ t' := by
      let _ : Trans (fun t t' : Int => t + seconds n ≤ t') (fun t t' => t + seconds n ≤ t')
          (fun t t' => t + seconds n ≤ t') := ⟨fun h₁ h₂ => by omega⟩
      exact List.isChain_iff_pairwise.1 h
    clear h
    induction l with
    | nil => simp
    | cons t l ih =>
      obtain ⟨hfirst, hrest⟩ := List.pairwise_cons.1 hpairs
      rw [List.countP_cons]
      split
      · rename_i hin
        rw [decide_eq_true_eq] at hin
        have hnone : l.countP (fun t => u ≤ t ∧ t < u + seconds n) = 0 :=
          List.countP_eq_zero.2 fun t' ht' => by
            have hgap := hfirst t' ht'
            simp only [decide_eq_true_eq]
            omega
        omega
      · exact ih hrest

/-- How often the device has passed the packet gate in the `n` seconds from `u` on. -/
def Sys.sendsIn (σ : Sys) (n u : Int) : Nat :=
  (sendTimes (σ.log.filterMap Obs.event?)).countP fun t => u ≤ t ∧ t < u + seconds n

/-- How often all devices together have passed the packet gate in the `n` seconds from `u` on. -/
def Fleet.sendsIn (f : Fleet) (n u : Int) : Nat :=
  (f.threads.map fun th => (th.devices.map fun σ => σ.sendsIn n u).sum).sum

/-- The devices of a run are as many as the file has lines. -/
theorem count_devices {cfg : Config} {content : Text} {threadCount clock : Int}
    (hT : 1 ≤ threadCount) {acts : List FleetAction} {f : Fleet}
    (hrun : run (fleetStep cfg) (.init content threadCount clock) acts = some f) :
    (f.threads.map fun th => th.devices.length).sum = (Lines.lines '\n' content).length := by
  have hlen := congrArg List.length (flatten_startThreads content hT)
  rw [List.length_flatten, List.length_map] at hlen
  rw [fleetRun_lengths hrun, Fleet.init, List.map_map, ← hlen]
  refine congrArg List.sum (List.map_congr_left fun group _ => ?_)
  rw [Function.comp_apply, ManageThread.init, List.length_map]

/-- **The load is bounded by the number of devices**: in any interval of `time_between_packets`, the
packet gates of all devices together let through at most as many passes as the ids file has lines,
however the threads are interleaved. -/
theorem load_bound (cfg : Config) (content : Text) (threadCount clock : Int) (hT : 1 ≤ threadCount)
    (hpos : 0 < clock) (acts : List FleetAction) (f : Fleet)
    (hrun : run (fleetStep cfg) (.init content threadCount clock) acts = some f) (u : Int) :
    f.sendsIn cfg.timeBetweenPackets u ≤ (Lines.lines '\n' content).length := by
  have hdevice : ∀ th ∈ f.threads, ∀ σ ∈ th.devices, σ.sendsIn cfg.timeBetweenPackets u ≤ 1 := by
    intro th hth σ hσ
    obtain ⟨t, hth⟩ := List.getElem?_of_mem hth
    obtain ⟨i, hσ⟩ := List.getElem?_of_mem hσ
    obtain ⟨line, -, as, has⟩ := device_reachable hT hrun (Fleet.device_of_thread hth hσ)
    exact (mainPayloads_spaced_system cfg line clock hpos as _ has).countP_le_one u
  rw [← count_devices hT hrun, Fleet.sendsIn]
  refine List.sum_le_sum fun th hth => ?_
  calc (th.devices.map fun σ => σ.sendsIn cfg.timeBetweenPackets u).sum
    _ ≤ (th.devices.map fun _ => 1).sum := List.sum_le_sum fun σ hσ => hdevice th hth σ hσ
    _ = th.devices.length := by simp

/-- Two devices of two threads connect to the server and go through the packet gate. -/
def twoConnect : List FleetAction :=
  [0, 1].flatMap fun t => [Action.manage, .manage, .manage, .tcpConnects, .manage, .enter 0 false,
    .finish 0, .manage, .manage, .manage, .manage].map (.device t 0)

theorem load_bound_two :
    ∃ f, run (fleetStep usageConfig) (.init "a\nb".toList 2 (seconds 100)) twoConnect = some f ∧
      f.sendsIn 30 (seconds 90) ≤ 2 := by
  have hsome : (run (fleetStep usageConfig) (.init "a\nb".toList 2 (seconds 100))
      twoConnect).isSome = true := by decide +kernel
  obtain ⟨f, hf⟩ := Option.isSome_iff_exists.1 hsome
  exact ⟨f, hf, load_bound usageConfig "a\nb".toList 2 (seconds 100) (by decide) (by decide)
    twoConnect f hf (seconds 90)⟩

end WsTestClient
