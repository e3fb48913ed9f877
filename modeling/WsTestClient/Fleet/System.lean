import WsTestClient.Partition
import WsTestClient.Threads.Refinement

/-!
# All devices and all threads

`WsTestClient.Threads.System` is about one device.  The program has as many as the ids file has
lines, dealt out to threads by `startThreads`, and each of these threads runs `ws_manage_thread`: a
loop that never ends over its devices, with one call of `ws_manage_ws` for each.

A `Fleet` is the state of all of this.  What the devices share is what they share in the program:
the steady clock, the static counter of `ws_get_payload` and, those of one thread, the place on its
stack where the orphans of its calls write to.  Everything else — the stream, the slot, its mutex,
the workers and the readers — belongs to one device, and is its `Sys`.  The copies of the clock, the
counter and the stray writes in these `Sys` are not used: `Fleet.device` puts the shared ones in
their place.

`fleetStep` is the step function.  Its labels say which device moves and how; a thread moves the
manager of one device only, the one its inner loop is at, and that is also where the stray writes to
its stack go.  All threads are there from the start: one
that `main` has not started yet is one that has not moved yet.  The pause of `time_between_devices_ms`
after each visit is time passing, like any other; and `ws_manage_ws` throws nothing that the `try`
of the loop would catch, as long as threads can be created.
-/

set_option autoImplicit false

namespace WsTestClient

open Transition

/-! ## The states -/

/-- A thread of `ws_manage_thread`. -/
structure ManageThread where
  /-- `*ws_states`, with what goes on around each of them. -/
  devices : List Sys
  /-- The device the inner loop is at. -/
  current : Nat
  /-- How many orphans have ended and are about to write to the stack of the thread. -/
  strays : Nat
  /-- How often the inner loop is over; nothing in the program reads it. -/
  rounds : Nat

structure Fleet where
  clock : Int
  whichMainPayload : UInt64
  threads : List ManageThread

/-- The thread that `main` starts on the devices `group`. -/
def ManageThread.init (clock : Int) (group : List WsState) : ManageThread where
  devices := group.map fun ws => { Sys.init ws.deviceId clock with ws := ws }
  current := 0
  strays := 0
  rounds := 0

/-- The threads that `main` starts for an ids file. -/
def Fleet.init (content : Text) (threadCount : Int) (clock : Int) : Fleet where
  clock := clock
  whichMainPayload := 1
  threads := (startThreads content threadCount).map (.init clock)

/-- Whose turn it is, and what happens. -/
inductive FleetAction
  /-- The step `a` of device `i` of thread `t`. -/
  | device (t i : Nat) (a : Action)
  /-- The clock moves on. -/
  | tick (now : Int)
  deriving DecidableEq

/-- The steps of a device that stand for what the devices share. -/
def Action.isShared : Action → Bool
  | .tick _ | .otherDevice | .otherOrphan | .otherStray => true
  | _ => false

/-! ## The code -/

/-- The inner loop goes on to the next device, or the outer loop begins again. -/
def ManageThread.advance (th : ManageThread) : ManageThread :=
  if th.current + 1 < th.devices.length then { th with current := th.current + 1 }
  else { th with current := 0, rounds := th.rounds + 1 }

/-- Device `i` has made the step `a`, which has led it to `σ`; a step of the manager that leads
back to the entry of `ws_manage_ws` is the end of the visit. -/
def ManageThread.put (th : ManageThread) (i : Nat) (a : Action) (σ : Sys) : ManageThread :=
  let th := { th with devices := th.devices.set i σ, strays := σ.strays }
  if a.isEnv = false ∧ σ.pc = .testSlot then th.advance else th

/-- The devices of a thread see the shared clock, the shared counter and the stray writes to come. -/
def Fleet.share (f : Fleet) (th : ManageThread) (σ : Sys) : Sys :=
  { σ with clock := f.clock, whichMainPayload := f.whichMainPayload, strays := th.strays }

/-- Device `i` of thread `t`. -/
def Fleet.device (f : Fleet) (t i : Nat) : Option Sys :=
  f.threads[t]?.bind fun th => (th.devices[i]?).map (f.share th)

/-- Device `i` of the thread `th`, which is thread number `t`, has made the step `a`. -/
def Fleet.put (f : Fleet) (t : Nat) (th : ManageThread) (i : Nat) (a : Action) (σ : Sys) : Fleet :=
  { f with
    whichMainPayload := σ.whichMainPayload
    threads := f.threads.set t (th.put i a σ) }

/-- One step of the fleet. -/
def fleetStep (cfg : Config) (f : Fleet) : FleetAction → Option Fleet
  | .device t i a =>
    match f.threads[t]? with
    | none => none
    | some th =>
      match th.devices[i]? with
      | none => none
      | some σ =>
        if a.isShared = false ∧ (a.isEnv = false ∨ a = .strayDone → th.current = i) then
          (step cfg (f.share th σ) a).map (f.put t th i a)
        else none
  | .tick now => if f.clock ≤ now then some { f with clock := now } else none

/-- What a step can do. -/
inductive FleetMoves (cfg : Config) (f : Fleet) : FleetAction → Fleet → Prop
  | device {t i : Nat} {a : Action} {th : ManageThread} {σ σ' : Sys} (hth : f.threads[t]? = some th)
      (hσ : th.devices[i]? = some σ) (hshared : a.isShared = false)
      (hcurrent : a.isEnv = false ∨ a = .strayDone → th.current = i)
      (hstep : step cfg (f.share th σ) a = some σ') :
      FleetMoves cfg f (.device t i a) (f.put t th i a σ')
  | tick {now : Int} (hle : f.clock ≤ now) : FleetMoves cfg f (.tick now) { f with clock := now }

theorem fleetStep_moves {cfg : Config} {f f' : Fleet} {a : FleetAction}
    (h : fleetStep cfg f a = some f') : FleetMoves cfg f a f' := by
  rcases a with ⟨t, i, a⟩ | now
  · rw [fleetStep] at h
    split at h
    · simp at h
    · rename_i th hth
      split at h
      · simp at h
      · rename_i σ hσ
        rw [Option.ite_none_right_eq_some, Option.map_eq_some_iff] at h
        obtain ⟨⟨hshared, hcurrent⟩, σ', hstep, rfl⟩ := h
        exact .device hth hσ hshared hcurrent hstep
  · rw [fleetStep, Option.ite_none_right_eq_some] at h
    exact Option.some.inj h.2 ▸ .tick h.1

/-- A device that can move can do so in the fleet, if it is its turn. -/
theorem fleetStep_device {cfg : Config} {f : Fleet} {t i : Nat} {a : Action} {th : ManageThread}
    {σ σ' : Sys} (hth : f.threads[t]? = some th) (hσ : th.devices[i]? = some σ)
    (hshared : a.isShared = false) (hcurrent : a.isEnv = false ∨ a = .strayDone → th.current = i)
    (hstep : step cfg (f.share th σ) a = some σ') :
    fleetStep cfg f (.device t i a) = some (f.put t th i a σ') := by
  simp only [fleetStep, hth, hσ, if_pos (And.intro hshared hcurrent), hstep, Option.map_some]

/-! ## The parts of a fleet -/

@[simp] theorem ManageThread.advance_devices (th : ManageThread) :
    th.advance.devices = th.devices := by
  rw [advance]
  split <;> rfl

@[simp] theorem ManageThread.advance_strays (th : ManageThread) : th.advance.strays = th.strays := by
  rw [advance]
  split <;> rfl

@[simp] theorem ManageThread.put_devices (th : ManageThread) (i : Nat) (a : Action) (σ : Sys) :
    (th.put i a σ).devices = th.devices.set i σ := by
  rw [put]
  split
  · exact advance_devices _
  · rfl

@[simp] theorem ManageThread.put_strays (th : ManageThread) (i : Nat) (a : Action) (σ : Sys) :
    (th.put i a σ).strays = σ.strays := by
  rw [put]
  split
  · exact advance_strays _
  · rfl

theorem Fleet.device_eq_some {f : Fleet} {t i : Nat} {σ : Sys} :
    f.device t i = some σ ↔
      ∃ th τ, f.threads[t]? = some th ∧ th.devices[i]? = some τ ∧ f.share th τ = σ := by
  simp only [Fleet.device, Option.map_eq_some_iff, Option.bind_eq_some_iff]
  constructor
  · rintro ⟨th, hth, τ, hτ, hshare⟩
    exact ⟨th, τ, hth, hτ, hshare⟩
  · rintro ⟨th, τ, hth, hτ, hshare⟩
    exact ⟨th, hth, τ, hτ, hshare⟩

/-- The device of a fleet, seen through the thread. -/
theorem Fleet.device_of_thread {f : Fleet} {t i : Nat} {th : ManageThread} {σ : Sys}
    (hth : f.threads[t]? = some th) (hσ : th.devices[i]? = some σ) :
    f.device t i = some (f.share th σ) :=
  device_eq_some.2 ⟨th, σ, hth, hσ, rfl⟩

theorem Fleet.put_thread_self {f : Fleet} {t i : Nat} {a : Action} {th : ManageThread} {σ' : Sys}
    (hth : f.threads[t]? = some th) : (f.put t th i a σ').threads[t]? = some (th.put i a σ') :=
  List.getElem?_set_self (List.getElem?_eq_some_iff.1 hth).1

theorem Fleet.put_thread_other {f : Fleet} {t i t' : Nat} {a : Action} {th : ManageThread}
    {σ' : Sys} (hne : t' ≠ t) : (f.put t th i a σ').threads[t']? = f.threads[t']? :=
  List.getElem?_set_ne (Ne.symm hne)

/-- The device that has moved is where its step has led it. -/
theorem Fleet.put_device_self {f : Fleet} {t i : Nat} {a : Action}
    {th : ManageThread} {σ σ' : Sys} (hth : f.threads[t]? = some th) (hσ : th.devices[i]? = some σ)
    (hclock : σ'.clock = f.clock) : (f.put t th i a σ').device t i = some σ' := by
  have hi : i < th.devices.length := (List.getElem?_eq_some_iff.1 hσ).1
  have hself : (th.put i a σ').devices[i]? = some σ' := by
    rw [ManageThread.put_devices, List.getElem?_set_self hi]
  rw [device_of_thread (put_thread_self hth) hself, share, ManageThread.put_strays, put, ← hclock]

/-- The other devices of the thread see the move by the counter and the stray writes to come. -/
theorem Fleet.put_device_thread {f : Fleet} {t i i' : Nat} {a : Action} {th : ManageThread}
    (σ' : Sys) (hth : f.threads[t]? = some th) (hne : i' ≠ i) :
    (f.put t th i a σ').device t i' = (f.device t i').map fun σ =>
      { σ with whichMainPayload := σ'.whichMainPayload, strays := σ'.strays } := by
  rw [device, device, put_thread_self hth, hth, Option.bind_some, Option.bind_some,
    ManageThread.put_devices, List.getElem?_set_ne (Ne.symm hne), Option.map_map]
  refine congrArg (fun g => Option.map g th.devices[i']?) (funext fun σ => ?_)
  rw [Function.comp_apply, share, share, ManageThread.put_strays]
  rfl

/-- The devices of other threads see it by the counter only. -/
theorem Fleet.put_device_other {f : Fleet} {t i t' i' : Nat} {a : Action} {th : ManageThread}
    (σ' : Sys) (hne : t' ≠ t) :
    (f.put t th i a σ').device t' i' = (f.device t' i').map fun σ =>
      { σ with whichMainPayload := σ'.whichMainPayload } := by
  rw [device, device, put_thread_other hne]
  cases f.threads[t']? with
  | none => rfl
  | some th' =>
    rw [Option.bind_some, Option.bind_some, Option.map_map]
    rfl

end WsTestClient
