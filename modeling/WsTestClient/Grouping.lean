import WsTestClient.Partition

/-!
# Small files, and the newline at the end of the file

Two questions about the vectors `startThreads` hands to threads, both decided by the division that
sets `devices_per_thread`.

* With fewer devices than threads the division gives zero, or one when the newline at the end of
  the file makes up the difference.  A vector never has zero devices after a `push_back`, so in the
  first case all devices go to one thread: `startThreads_one_each_iff`.
* The newline at the end counts as one more line in the division, though not as one more device.
  `startThreads_final_newline_iff` says for which files this moves the cuts.
-/

set_option autoImplicit false

namespace WsTestClient

open Lines

/-! ## Where the first cut falls -/

/-- When no vector is ever full, or there is only one thread, all devices go to one thread. -/
theorem startThreads_uncut {content : Text} {threadCount : Int} (hT : 1 ≤ threadCount)
    (hne : lines '\n' content ≠ [])
    (h : devicesPerThread content threadCount ≤ 0 ∨ threadCount = 1) :
    startThreads content threadCount = [(lines '\n' content).map WsState.init] := by
  obtain ⟨p, hd, hp⟩ := startThreads_dealt content hT
  have hstarted : p.started = [] := by
    rcases h with hsize | hone
    · refine List.eq_nil_iff_forall_not_mem.2 fun b hb => ?_
      obtain ⟨hlen, hb⟩ := hd.full b hb
      have := List.length_pos_iff.2 hb
      omega
    · have hcount := hd.count
      have hbound := hd.bound
      exact List.eq_nil_of_length_eq_zero (by omega)
  have hcur : p.current = (lines '\n' content).map WsState.init := by
    simpa [hstarted] using hd.devices
  have hpos : 0 < p.current.length := by
    rw [hcur, List.length_map]
    exact List.length_pos_iff.2 hne
  rw [hp, if_pos hpos, hstarted, hcur, List.nil_append]

/-- With a thread to spare, the first thread gets `devices_per_thread` devices. -/
theorem startThreads_head (content : Text) {threadCount : Int} (hT : 2 ≤ threadCount)
    (hsize : 1 ≤ devicesPerThread content threadCount)
    (hle : devicesPerThread content threadCount ≤ (lines '\n' content).length) :
    ∃ b bs, startThreads content threadCount = b :: bs ∧
      (b.length : Int) = devicesPerThread content threadCount := by
  obtain ⟨p, hd, hp⟩ := startThreads_dealt content (by omega : 1 ≤ threadCount)
  cases hstarted : p.started with
  | nil =>
    -- the current vector would have all devices, and would be full
    have hcount := hd.count
    have hlen := hd.length_devices
    have hroom := hd.room
    simp only [hstarted, List.length_nil, Int.natCast_zero, Int.zero_mul] at hcount hlen
    omega
  | cons b bs =>
    have hfull := (hd.full b (by simp [hstarted])).1
    rw [hp, hstarted]
    split
    · exact ⟨b, bs ++ [p.current], rfl, hfull⟩
    · exact ⟨b, bs, rfl, hfull⟩

/-- A single device is in a single vector. -/
theorem startThreads_of_length_one {content : Text} {threadCount : Int} (hT : 1 ≤ threadCount)
    (hone : (lines '\n' content).length = 1) :
    startThreads content threadCount = [(lines '\n' content).map WsState.init] := by
  obtain ⟨p, hd, hp⟩ := startThreads_dealt content hT
  obtain ⟨line, hline⟩ := List.length_eq_one_iff.1 hone
  have hdev := hd.devices
  rw [hline, List.map_singleton] at hdev
  rw [hp, hline, List.map_singleton]
  cases hstarted : p.started with
  | nil =>
    have hcur : p.current = [WsState.init line] := by simpa [hstarted] using hdev
    simp [hcur]
  | cons b bs =>
    -- the first vector has the device, and there is nothing left for others
    obtain ⟨d, b, rfl⟩ := List.exists_cons_of_ne_nil (hd.full b (by simp [hstarted])).2
    rw [hstarted] at hdev
    simp only [List.flatten_cons, List.cons_append, List.append_assoc, List.cons.injEq,
      List.append_eq_nil_iff] at hdev
    obtain ⟨rfl, rfl, hbs, hcur⟩ := hdev
    have hnil : bs = [] := by
      refine List.eq_nil_iff_forall_not_mem.2 fun c hc => ?_
      exact (hd.full c (by simp [hstarted, hc])).2 (List.flatten_eq_nil_iff.1 hbs c hc)
    simp [hnil, hcur]

/-! ## Fewer devices than threads -/

/-- With fewer devices than threads, a vector is full with one device if the newline at the end of
the file is missing just one line for all the threads, and never otherwise. -/
theorem devicesPerThread_of_lt {content : Text} {threadCount : Int}
    (hpos : 1 ≤ (lines '\n' content).length)
    (hlt : ((lines '\n' content).length : Int) < threadCount) :
    devicesPerThread content threadCount =
      if ((lines '\n' content).length : Int) + 1 = threadCount ∧ content.getLast? = some '\n' then 1
      else 0 := by
  have hne : content ≠ [] := by
    rintro rfl
    exact absurd hpos (by decide)
  have hlen := length_lines '\n' content
  rw [devicesPerThread_eq]
  by_cases hlast : content.getLast? = some '\n'
  · simp only [hlast, or_true, if_true, Nat.add_zero] at hlen
    rw [← hlen]
    by_cases hall : ((lines '\n' content).length : Int) + 1 = threadCount
    · rw [if_pos ⟨hall, hlast⟩, hall]
      exact Int.ediv_self (by omega)
    · rw [if_neg fun h => hall h.1]
      exact Int.ediv_eq_zero_of_lt (by omega) (by omega)
  · simp only [hne, hlast, or_false, if_false] at hlen
    rw [if_neg fun h => hlast h.2]
    exact Int.ediv_eq_zero_of_lt (by omega) (by omega)

/-- **When each of a few devices gets a thread of its own**: exactly when there is only one device,
or there is one device less than threads and the file ends with a newline. -/
theorem startThreads_one_each_iff (content : Text) (threadCount : Int)
    (hpos : 1 ≤ (lines '\n' content).length)
    (hlt : ((lines '\n' content).length : Int) < threadCount) :
    ((startThreads content threadCount).length = (lines '\n' content).length ∧
        ∀ b ∈ startThreads content threadCount, b.length = 1) ↔
      (lines '\n' content).length = 1 ∨
        ((lines '\n' content).length : Int) + 1 = threadCount ∧ content.getLast? = some '\n' := by
  have hT : 1 ≤ threadCount := by omega
  have hne : lines '\n' content ≠ [] := List.length_pos_iff.1 hpos
  have hsize := devicesPerThread_of_lt hpos hlt
  split at hsize
  · rename_i hall
    -- vectors of one device; all but the last thread are started in the loop
    refine iff_of_true ?_ (Or.inr hall)
    obtain ⟨p, hd, hp⟩ := startThreads_dealt content hT
    rw [hsize] at hd
    have hlen := hd.length_devices
    have hcount := hd.count
    have hbound := hd.bound
    have hroom := hd.room
    have hstarted : p.current.length = 0 := by omega
    rw [hp, if_neg (by omega)]
    refine ⟨by omega, fun b hb => ?_⟩
    have := (hd.full b hb).1
    omega
  · rename_i hall
    rw [startThreads_uncut hT hne (Or.inl hsize.le), or_iff_left hall]
    simp [eq_comm]

/-- Three devices and four threads, the file ending in a newline: three vectors of one device. -/
theorem startThreads_one_each_three :
    (startThreads "a\nb\nc\n".toList 4).length = (lines '\n' "a\nb\nc\n".toList).length ∧
      ∀ b ∈ startThreads "a\nb\nc\n".toList 4, b.length = 1 :=
  (startThreads_one_each_iff "a\nb\nc\n".toList 4 (by decide) (by decide)).2 (by decide)

/-- Three devices and four threads, the file not ending in a newline: all go to one thread. -/
theorem few_devices_share_thread :
    1 ≤ (lines '\n' "a\nb\nc".toList).length ∧ ((lines '\n' "a\nb\nc".toList).length : Int) < 4 ∧
      (startThreads "a\nb\nc".toList 4).length = 1 ∧
      ¬ ((startThreads "a\nb\nc".toList 4).length = (lines '\n' "a\nb\nc".toList).length ∧
        ∀ b ∈ startThreads "a\nb\nc".toList 4, b.length = 1) := by
  decide

/-! ## The newline at the end of the file -/

/-- The two files have the same lines, but the newline at the end of the second one makes one line
more in the division. -/
theorem final_newline {ids : List Text} (hne : ids ≠ []) (hids : ∀ id ∈ ids, id ≠ [] ∧ '\n' ∉ id)
    (threadCount : Int) :
    lines '\n' (List.intercalate ['\n'] ids) = ids ∧
      lines '\n' (List.intercalate ['\n'] ids ++ ['\n']) = ids ∧
      devicesPerThread (List.intercalate ['\n'] ids) threadCount = ids.length / threadCount ∧
      devicesPerThread (List.intercalate ['\n'] ids ++ ['\n']) threadCount =
        (ids.length + 1) / threadCount := by
  have hsep : ∀ id ∈ ids, '\n' ∉ id := fun id hid => (hids id hid).2
  have hcount := count_flatMap hsep
  rw [← intercalate_append_sep hne] at hcount
  refine ⟨lines_intercalate hids, ?_, ?_, ?_⟩
  · rw [intercalate_append_sep hne, lines_flatMap hsep]
  · rw [devicesPerThread_eq, ← hcount]
    simp
  · rw [devicesPerThread_eq, hcount]

/-- The number of devices per thread is the same unless the extra line completes a vector for each
thread. -/
theorem succ_ediv_of_not_dvd {n : Nat} {threadCount : Int} (hT : 1 ≤ threadCount)
    (h : ¬ threadCount ∣ (n : Int) + 1) : ((n : Int) + 1) / threadCount = n / threadCount := by
  obtain ⟨t, rfl⟩ := Int.eq_ofNat_of_zero_le (by omega : 0 ≤ threadCount)
  have hnat : ¬ t ∣ n + 1 := by exact_mod_cast h
  exact_mod_cast Nat.succ_div_of_not_dvd hnat

/-- If the extra line completes a vector for each thread, a vector has one device less without it. -/
theorem ediv_of_dvd_succ {n : Nat} {threadCount : Int} (hT : 2 ≤ threadCount)
    (h : threadCount ∣ (n : Int) + 1) : (n : Int) / threadCount = (n + 1) / threadCount - 1 := by
  obtain ⟨k, hk⟩ := h
  have hdiv : (n : Int) = threadCount - 1 + threadCount * (k - 1) := by
    rw [Int.mul_sub, ← hk]
    omega
  rw [hk, Int.mul_ediv_cancel_left k (by omega), hdiv, Int.add_mul_ediv_left _ _ (by omega),
    Int.ediv_eq_zero_of_lt (by omega) (by omega), Int.zero_add]

/-- Two files with the same devices, one of which has a larger quotient, do not give the first thread
the same. -/
theorem startThreads_ne {content content' : Text} {threadCount : Int} (hT : 2 ≤ threadCount)
    (hlines : lines '\n' content' = lines '\n' content)
    (hsize : devicesPerThread content threadCount = devicesPerThread content' threadCount - 1)
    (hpos : 1 ≤ devicesPerThread content' threadCount)
    (hlt : devicesPerThread content' threadCount < (lines '\n' content).length) :
    startThreads content threadCount ≠ startThreads content' threadCount := by
  intro heq
  have hne : lines '\n' content ≠ [] := List.length_pos_iff.1 (by omega)
  obtain ⟨b', bs', hb', hlen'⟩ := startThreads_head content' hT hpos (by rw [hlines]; omega)
  rcases Int.lt_or_le 1 (devicesPerThread content' threadCount) with hcut | huncut
  · obtain ⟨b, bs, hb, hlen⟩ := startThreads_head content hT (by omega) (by omega)
    rw [hb, hb'] at heq
    rw [(List.cons.inj heq).1] at hlen
    omega
  · -- without the newline there is only one thread, which gets all the devices
    rw [startThreads_uncut (by omega) hne (Or.inl (by omega)), hb'] at heq
    rw [← (List.cons.inj heq).1, List.length_map] at hlen'
    omega

/-- **When the newline at the end of the file makes no difference**: with one thread, with one
device, and otherwise exactly when the number of threads does not divide the number of devices
plus one. -/
theorem startThreads_final_newline_iff (ids : List Text) (hne : ids ≠ [])
    (hids : ∀ id ∈ ids, id ≠ [] ∧ '\n' ∉ id) (threadCount : Int) (hT : 1 ≤ threadCount) :
    startThreads (List.intercalate ['\n'] ids) threadCount =
        startThreads (List.intercalate ['\n'] ids ++ ['\n']) threadCount ↔
      threadCount = 1 ∨ ids.length = 1 ∨ ¬ threadCount ∣ (ids.length : Int) + 1 := by
  obtain ⟨hlines, hlines', hsize, hsize'⟩ := final_newline hne hids threadCount
  generalize List.intercalate ['\n'] ids ++ ['\n'] = content' at *
  generalize List.intercalate ['\n'] ids = content at *
  have hpos : 0 < ids.length := List.length_pos_iff.2 hne
  constructor
  · intro heq
    by_contra h
    obtain ⟨hT1, hlen1, hdvd⟩ : threadCount ≠ 1 ∧ ids.length ≠ 1 ∧
        threadCount ∣ (ids.length : Int) + 1 := by simpa using h
    have hquot := ediv_of_dvd_succ (by omega) hdvd
    obtain ⟨k, hk⟩ := hdvd
    rw [hk, Int.mul_ediv_cancel_left k (by omega)] at hsize' hquot
    have hk1 : 1 ≤ k := by
      by_contra hk0
      have := Int.mul_nonpos_of_nonneg_of_nonpos (by omega : 0 ≤ threadCount) (by omega : k ≤ 0)
      omega
    have hk2 : 2 * k ≤ ids.length + 1 := by
      rw [hk]
      exact Int.mul_le_mul_of_nonneg_right (by omega) (by omega)
    refine startThreads_ne (by omega) (hlines'.trans hlines.symm) ?_ ?_ ?_ heq
    · rw [hsize, hsize', hquot]
    · rwa [hsize']
    · rw [hsize', hlines]
      omega
  · rintro (hT1 | hlen1 | hdvd)
    · rw [startThreads_uncut hT (by rwa [hlines]) (Or.inr hT1),
        startThreads_uncut hT (by rwa [hlines']) (Or.inr hT1), hlines, hlines']
    · rw [startThreads_of_length_one hT (by rw [hlines, hlen1]),
        startThreads_of_length_one hT (by rw [hlines', hlen1]), hlines, hlines']
    · rw [startThreads, startThreads, hlines, hlines', hsize, hsize',
        succ_ediv_of_not_dvd hT hdvd]

/-- Two devices and two threads: the newline makes no difference. -/
theorem startThreads_final_newline_two :
    startThreads (List.intercalate ['\n'] ["a".toList, "b".toList]) 2 =
      startThreads (List.intercalate ['\n'] ["a".toList, "b".toList] ++ ['\n']) 2 :=
  (startThreads_final_newline_iff ["a".toList, "b".toList] (by decide) (by decide) 2 (by decide)).2
    (by decide)

/-- Three devices and two threads: without the newline the first thread gets one device, with it
two. -/
theorem final_newline_moves_cut :
    (∀ id ∈ ["a".toList, "b".toList, "c".toList], id ≠ [] ∧ '\n' ∉ id) ∧
      (startThreads (List.intercalate ['\n'] ["a".toList, "b".toList, "c".toList]) 2).map
        List.length = [1, 2] ∧
      startThreads (List.intercalate ['\n'] ["a".toList, "b".toList, "c".toList]) 2 ≠
        startThreads (List.intercalate ['\n'] ["a".toList, "b".toList, "c".toList] ++ ['\n']) 2 := by
  decide

end WsTestClient
