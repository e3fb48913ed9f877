import WsTestClient.Lines
import WsTestClient.Util

/-!
# How `main` deals the devices out to threads

`main` reads the ids file twice.  The first time it counts the newlines and divides that number,
plus one, by the requested number of threads: `devices_per_thread`.  The second time it reads line
by line, puts a device for each line into the current vector, and hands the vector to a new thread
when it has exactly that many devices and threads are left; what remains at the end goes to one
last thread.

`startThreads` is that loop, and the vectors handed to threads are its result, in order.  The loop
invariant is `Dealt`; the main result is `startThreads_exact`.
-/

set_option autoImplicit false

namespace WsTestClient

open Lines

/-- The state of the loop over the lines. -/
structure Partition where
  /-- The vectors already handed to a thread. -/
  started : List (List WsState)
  /-- `*one_thread_ws_states`. -/
  current : List WsState
  actualThreadCount : Int

/-- The body of the loop: one device for the line, and a new thread if the vector is full. -/
def pushDevice (devicesPerThread threadCount : Int) (p : Partition) (line : Text) : Partition :=
  let current := p.current ++ [WsState.init line]
  if (current.length : Int) = devicesPerThread ∧ p.actualThreadCount < threadCount - 1 then
    ⟨p.started ++ [current], [], p.actualThreadCount + 1⟩
  else
    { p with current := current }

/-- `devices_per_thread`: the newlines of the file, plus one, divided among the threads. -/
def devicesPerThread (content : Text) (threadCount : Int) : Int :=
  let lineCount : Int := content.count '\n' + 1
  lineCount.tdiv threadCount

/-- The vectors `main` hands to `ws_manage_thread`, in the order the threads are started. -/
def startThreads (content : Text) (threadCount : Int) : List (List WsState) :=
  let p := (lines '\n' content).foldl (pushDevice (devicesPerThread content threadCount) threadCount)
    ⟨[], [], 0⟩
  if 0 < p.current.length then p.started ++ [p.current] else p.started

/-! ## The loop invariant -/

/-- The loop has dealt out the lines `ls`: they are in the vectors, in order; the vectors handed
over are full and fewer than the threads; and as long as threads are left, the current vector is
not full. -/
structure Dealt (size threads : Int) (ls : List Text) (p : Partition) : Prop where
  devices : p.started.flatten ++ p.current = ls.map WsState.init
  full : ∀ b ∈ p.started, (b.length : Int) = size ∧ b ≠ []
  count : p.actualThreadCount = p.started.length
  bound : p.actualThreadCount ≤ threads - 1
  room : p.actualThreadCount < threads - 1 → 0 < size → (p.current.length : Int) < size

theorem dealt_start {size threads : Int} (h : 1 ≤ threads) : Dealt size threads [] ⟨[], [], 0⟩ where
  devices := rfl
  full := by simp
  count := rfl
  bound := by simpa using h
  room _ hsize := hsize

theorem dealt_pushDevice {size threads : Int} {ls : List Text} {p : Partition}
    (h : Dealt size threads ls p) (line : Text) :
    Dealt size threads (ls ++ [line]) (pushDevice size threads p line) := by
  have hdev : p.started.flatten ++ (p.current ++ [WsState.init line]) =
      (ls ++ [line]).map WsState.init := by
    rw [← List.append_assoc, h.devices, List.map_append]; rfl
  rw [pushDevice]
  split
  · rename_i hcut
    refine ⟨?_, fun b hb => ?_, ?_, ?_, fun _ hsize => hsize⟩
    · rw [List.flatten_append, List.append_nil]
      simpa using hdev
    · rcases List.mem_append.1 hb with hb | hb
      · exact h.full b hb
      · rw [List.mem_singleton] at hb
        exact hb ▸ ⟨hcut.1, by simp⟩
    · simp only [List.length_append, List.length_singleton, h.count]
      omega
    · simp only
      omega
  · rename_i hcut
    refine ⟨hdev, h.full, h.count, h.bound, fun hleft hsize => ?_⟩
    have hroom := h.room hleft hsize
    have hne : ((p.current ++ [WsState.init line]).length : Int) ≠ size := fun he => hcut ⟨he, hleft⟩
    simp only [List.length_append, List.length_singleton] at hne ⊢
    omega

theorem dealt_foldl (size : Int) {threads : Int} (h : 1 ≤ threads) (ls : List Text) :
    Dealt size threads ls (ls.foldl (pushDevice size threads) ⟨[], [], 0⟩) := by
  induction ls using List.reverseRecOn with
  | nil => exact dealt_start h
  | append_singleton ls line ih =>
    rw [List.foldl_append]
    exact dealt_pushDevice ih line

/-- What is handed to threads is what the loop has dealt out, and last what is left over. -/
theorem startThreads_dealt (content : Text) {threadCount : Int} (hT : 1 ≤ threadCount) :
    ∃ p, Dealt (devicesPerThread content threadCount) threadCount (lines '\n' content) p ∧
      startThreads content threadCount =
        if 0 < p.current.length then p.started ++ [p.current] else p.started :=
  ⟨_, dealt_foldl _ hT _, rfl⟩

theorem length_flatten_of_full {size : Int} {bs : List (List WsState)}
    (h : ∀ b ∈ bs, (b.length : Int) = size) : (bs.flatten.length : Int) = bs.length * size := by
  induction bs with
  | nil => simp
  | cons b bs ih =>
    have hb := h b List.mem_cons_self
    have hbs := ih fun b' hb' => h b' (List.mem_cons_of_mem _ hb')
    rw [List.flatten_cons, List.length_append, List.length_cons, Int.natCast_add, Int.natCast_succ,
      Int.add_mul, Int.one_mul, hb, hbs, Int.add_comm]

/-- The lines dealt out are those in the full vectors and those in the current one. -/
theorem Dealt.length_devices {size threads : Int} {ls : List Text} {p : Partition}
    (h : Dealt size threads ls p) :
    (ls.length : Int) = p.started.length * size + p.current.length := by
  have hlen := congrArg List.length h.devices
  rw [List.length_append, List.length_map] at hlen
  rw [← hlen, Int.natCast_add, length_flatten_of_full fun b hb => (h.full b hb).1]

/-! ## The vectors handed to threads -/

/-- No device is lost, made twice or moved. -/
theorem flatten_startThreads (content : Text) {threadCount : Int} (hT : 1 ≤ threadCount) :
    (startThreads content threadCount).flatten = (lines '\n' content).map WsState.init := by
  obtain ⟨p, hd, hp⟩ := startThreads_dealt content hT
  rw [hp, ← hd.devices]
  split
  · simp
  · rename_i hrest
    have hempty : p.current = [] := List.eq_nil_of_length_eq_zero (by omega)
    rw [hempty, List.append_nil]

theorem devicesPerThread_eq (content : Text) {threadCount : Int} :
    devicesPerThread content threadCount = ((content.count '\n' : Int) + 1) / threadCount :=
  Int.tdiv_eq_ediv_of_nonneg (by omega)

/-- With at least as many devices as threads, a vector has at least one device, and the newline at
the end of the file makes the vectors together at most one device too large. -/
theorem devicesPerThread_fits (content : Text) {threadCount : Int} (hT : 1 ≤ threadCount)
    (hle : threadCount ≤ (lines '\n' content).length) :
    1 ≤ devicesPerThread content threadCount ∧
      threadCount * devicesPerThread content threadCount ≤ (lines '\n' content).length + 1 := by
  rw [devicesPerThread_eq]
  have hlines := (count_le_length_lines '\n' content).2
  have hsep := (count_le_length_lines '\n' content).1
  have hcap := Int.ediv_mul_le ((content.count '\n' : Int) + 1) (b := threadCount) (by omega)
  refine ⟨(Int.le_ediv_iff_mul_le (by omega)).2 (by omega), ?_⟩
  rw [Int.mul_comm]
  omega

/-- With at least as many devices as threads, the loop starts all but the last thread, and leaves
at least one device for that one. -/
theorem Dealt.last_thread {size threads : Int} {ls : List Text} {p : Partition}
    (h : Dealt size threads ls p) (hthreads : threads ≤ ls.length) (hsize : 1 ≤ size)
    (hfit : threads * size ≤ ls.length + 1) :
    (p.started.length : Int) = threads - 1 ∧ 0 < p.current.length := by
  have hlen := h.length_devices
  have hcount := h.count
  have hbound := h.bound
  have hall : (p.started.length : Int) = threads - 1 := by
    by_contra hne
    have hleft : p.actualThreadCount < threads - 1 := by omega
    have hroom := h.room hleft (by omega)
    -- one more full vector would still fit below the last thread
    have hle : ((p.started.length : Int) + 1) * size ≤ (threads - 1) * size :=
      Int.mul_le_mul_of_nonneg_right (by omega) (by omega)
    rw [Int.add_mul, Int.sub_mul] at hle
    omega
  refine ⟨hall, ?_⟩
  rw [hall, Int.sub_mul] at hlen
  by_contra hempty
  have hcur : p.current.length = 0 := by omega
  rw [hcur] at hlen
  rcases Int.lt_or_le size 2 with hone | htwo
  · have hsize1 : size = 1 := by omega
    rw [hsize1] at hlen
    omega
  · omega

/-- **The partition is exact**: the vectors handed to threads hold the devices of the file in
order, none is empty, there are at most as many as threads, all but the last have
`devices_per_thread` devices, and with enough devices all threads are started. -/
theorem startThreads_exact (content : Text) (threadCount : Int) (hT : 1 ≤ threadCount) :
    (startThreads content threadCount).flatten = (lines '\n' content).map WsState.init ∧
      (∀ b ∈ startThreads content threadCount, b ≠ []) ∧
      ((startThreads content threadCount).length : Int) ≤ threadCount ∧
      (∀ b ∈ (startThreads content threadCount).dropLast,
        (b.length : Int) = ((content.count '\n' : Int) + 1) / threadCount) ∧
      (threadCount ≤ (lines '\n' content).length →
        ((startThreads content threadCount).length : Int) = threadCount) := by
  refine ⟨flatten_startThreads content hT, ?_⟩
  obtain ⟨p, hd, hp⟩ := startThreads_dealt content hT
  rw [hp, ← devicesPerThread_eq]
  have hcount := hd.count
  have hbound := hd.bound
  have hlast : threadCount ≤ (lines '\n' content).length →
      (p.started.length : Int) = threadCount - 1 ∧ 0 < p.current.length := fun hle =>
    have ⟨hone, hfit⟩ := devicesPerThread_fits content hT hle
    hd.last_thread hle hone hfit
  split
  · rename_i hrest
    refine ⟨fun b hb => ?_, ?_, fun b hb => ?_, fun hle => ?_⟩
    · rcases List.mem_append.1 hb with hb | hb
      · exact (hd.full b hb).2
      · rw [List.mem_singleton] at hb
        exact hb ▸ List.ne_nil_of_length_pos hrest
    · rw [List.length_append, List.length_singleton]
      omega
    · rw [List.dropLast_concat] at hb
      exact (hd.full b hb).1
    · have := (hlast hle).1
      rw [List.length_append, List.length_singleton]
      omega
  · rename_i hrest
    exact ⟨fun b hb => (hd.full b hb).2, by omega,
      fun b hb => (hd.full b (List.mem_of_mem_dropLast hb)).1,
      fun hle => absurd (hlast hle).2 hrest⟩

/-- Five devices for two threads, the file ending in a newline: batches of three and two. -/
theorem startThreads_exact_five :
    (startThreads "a\nb\nc\nd\ne\n".toList 2).flatten =
        (lines '\n' "a\nb\nc\nd\ne\n".toList).map WsState.init ∧
      (startThreads "a\nb\nc\nd\ne\n".toList 2).map List.length = [3, 2] :=
  ⟨(startThreads_exact _ 2 (by decide)).1, by decide⟩

end WsTestClient
