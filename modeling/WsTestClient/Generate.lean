import Mathlib.Algebra.Order.Group.Int
import WsTestClient.Ostream
import WsTestClient.Partition

/-!
# The command that generates an ids file

`gen` is what `main` does for the `gen` command, on a file that could be opened: it converts the
count it read from the command line, an `int`, to `size_t`, and `generate_random_ids` writes a line
for each round of a loop whose index is an `int` again.

The dice is given by its throws, `dice k` being number `k`; each round throws it once.  Incrementing
the largest `int` is undefined, and there the model returns `none`.

`gen_of_nonneg` says what is written for a count that is not negative, and `gen_of_neg` that a
negative one, which `size_t` turns into a huge number, runs the index over its end.
-/

set_option autoImplicit false

namespace WsTestClient

open Lines Ostream

/-- An `int` where a `size_t` is expected. -/
def toSizeT (n : Int32) : UInt64 := UInt64.ofInt n.toInt

/-- The id a number is written as. -/
def idText (d : UInt64) : Text := (Nat.toDigits 16 d.toNat).leftpad 10 '0'

/-- The output statement of the loop. -/
def writeId (file : Ostream) (d : UInt64) : Ostream :=
  (((file.hex.setw 10).setfill '0').put d.toNat).endl

theorem toInt_add_one {i : Int32} (h : i ≠ Int32.maxValue) : (i + 1).toInt = i.toInt + 1 := by
  have hlt := i.toInt_lt
  have hle := i.le_toInt
  have hmax : i.toInt ≠ 2147483647 := fun heq => h (Int32.toInt_inj.1 heq)
  have hone : (1 : Int32).toInt = 1 := rfl
  rw [Int32.toInt_add, hone]
  apply Int.bmod_eq_of_le <;> omega

/-- The loop of `generate_random_ids`, from the index `i` on. -/
def generateFrom (dice : Nat → UInt64) (count : UInt64) (i : Int32) (file : Ostream) :
    Option Ostream :=
  if toSizeT i < count then
    let file := writeId file (dice i.toNatClampNeg)
    -- `i++`
    if i = Int32.maxValue then none else generateFrom dice count (i + 1) file
  else some file
termination_by (Int32.maxValue.toInt - i.toInt).toNat
decreasing_by
  rename_i hmax
  have hle := i.toInt_le
  have hne : i.toInt ≠ Int32.maxValue.toInt := fun heq => hmax (Int32.toInt_inj.1 heq)
  rw [toInt_add_one hmax]
  omega

/-- `generate_random_ids`. -/
def generateRandomIds (dice : Nat → UInt64) (count : UInt64) : Option Ostream :=
  generateFrom dice count 0 .empty

/-- The `gen` command, on a count as `std::stoi` returned it. -/
def gen (dice : Nat → UInt64) (count : Int32) : Option Ostream :=
  generateRandomIds dice (toSizeT count)

/-! ## The loop -/

theorem toNat_toSizeT (n : Int32) : (toSizeT n).toNat = (n.toInt % 2 ^ 64).toNat := by
  rw [toSizeT, UInt64.ofInt, UInt64.toNat_ofNat']
  omega

/-- What the comparison of the loop amounts to: a negative count is larger than every index. -/
theorem toSizeT_lt_toSizeT {i count : Int32} (hi : 0 ≤ i.toInt) :
    toSizeT i < toSizeT count ↔ i.toInt < count.toInt ∨ count.toInt < 0 := by
  have hi' := i.toInt_lt
  have hlt := count.toInt_lt
  have hle := count.le_toInt
  rw [UInt64.lt_iff_toNat_lt, toNat_toSizeT, toNat_toSizeT]
  omega

/-- What a round adds to the file: the formatting state the round before has left does not
matter. -/
theorem text_writeId (file : Ostream) (d : UInt64) :
    (writeId file d).text = file.text ++ (idText d ++ ['\n']) :=
  List.append_assoc ..

theorem text_foldl_writeId (dice : Nat → UInt64) (ks : List Nat) (file : Ostream) :
    (ks.foldl (fun file k => writeId file (dice k)) file).text =
      file.text ++ (ks.map fun k => idText (dice k)).flatMap fun id => id ++ ['\n'] := by
  induction ks generalizing file with
  | nil => simp
  | cons k ks ih =>
    rw [List.foldl_cons, ih, text_writeId, List.map_cons, List.flatMap_cons, List.append_assoc]

/-- From an index up to the count, the loop makes a round for each index that is left. -/
theorem generateFrom_of_le (dice : Nat → UInt64) {count i : Int32} (hi : 0 ≤ i.toInt)
    (hle : i.toInt ≤ count.toInt) (file : Ostream) :
    generateFrom dice (toSizeT count) i file =
      some ((List.range' i.toNatClampNeg (count.toInt - i.toInt).toNat).foldl
        (fun file k => writeId file (dice k)) file) := by
  induction hn : (count.toInt - i.toInt).toNat generalizing i file with
  | zero =>
    have hnlt : ¬ toSizeT i < toSizeT count := by
      rw [toSizeT_lt_toSizeT hi]
      omega
    rw [generateFrom, if_neg hnlt]
    rfl
  | succ n ih =>
    have hlt : toSizeT i < toSizeT count := by
      rw [toSizeT_lt_toSizeT hi]
      omega
    have hmax : i ≠ Int32.maxValue := by
      rintro rfl
      have := count.toInt_le
      omega
    have hnext := toInt_add_one hmax
    have hclamp : (i + 1).toNatClampNeg = i.toNatClampNeg + 1 := by
      show (i + 1).toInt.toNat = i.toInt.toNat + 1
      omega
    rw [generateFrom, if_pos hlt, if_neg hmax, ih (by omega) (by omega) _ (by omega), hclamp]
    rfl

/-- With a negative count the loop runs until the index overflows. -/
theorem generateFrom_of_neg (dice : Nat → UInt64) {count i : Int32} (hi : 0 ≤ i.toInt)
    (hneg : count.toInt < 0) (file : Ostream) :
    generateFrom dice (toSizeT count) i file = none := by
  have hlt : toSizeT i < toSizeT count := (toSizeT_lt_toSizeT hi).2 (Or.inr hneg)
  induction hn : (Int32.maxValue.toInt - i.toInt).toNat generalizing i file with
  | zero =>
    have hmax : i = Int32.maxValue := by
      have := i.toInt_le
      exact Int32.toInt_inj.1 (by omega)
    rw [generateFrom, if_pos hlt, if_pos hmax]
  | succ n ih =>
    have hmax : i ≠ Int32.maxValue := by
      rintro rfl
      omega
    have hnext := toInt_add_one hmax
    have hi' : 0 ≤ (i + 1).toInt := by omega
    rw [generateFrom, if_pos hlt, if_neg hmax,
      ih hi' _ ((toSizeT_lt_toSizeT hi').2 (Or.inr hneg)) (by omega)]

/-! ## The file -/

theorem isSome_hexValue_of_mem_idText {d : UInt64} {c : Char} (h : c ∈ idText d) :
    (hexValue c).isSome = true :=
  isSome_hexValue_of_mem_leftpad h

theorem newline_not_mem_idText (d : UInt64) : '\n' ∉ idText d := fun h =>
  absurd (isSome_hexValue_of_mem_idText h) (by decide)

/-- For a count that is not negative, the command ends, and the file has a line for each throw. -/
theorem gen_of_nonneg (dice : Nat → UInt64) {count : Int32} (h : 0 ≤ count.toInt) :
    ∃ file, gen dice count = some file ∧
      lines '\n' file.text = (List.range count.toInt.toNat).map fun k => idText (dice k) := by
  have hzero : (0 : Int32).toInt = 0 := rfl
  refine ⟨_, generateFrom_of_le dice hzero.ge (hzero.le.trans h) .empty, ?_⟩
  rw [text_foldl_writeId, hzero, Int.sub_zero, List.range_eq_range']
  refine lines_flatMap fun id hid => ?_
  obtain ⟨k, -, rfl⟩ := List.mem_map.1 hid
  exact newline_not_mem_idText (dice k)

theorem gen_of_neg (dice : Nat → UInt64) {count : Int32} (h : count.toInt < 0) :
    gen dice count = none :=
  generateFrom_of_neg dice (by decide) h .empty

/-- **When the command writes as many lines as it was asked for**: exactly when that number is not
negative; otherwise the index of its loop overflows. -/
theorem gen_lines_iff (dice : Nat → UInt64) (count : Int32) :
    (∃ file, gen dice count = some file ∧
        ((lines '\n' file.text).length : Int) = max count.toInt 0) ↔ 0 ≤ count.toInt := by
  constructor
  · rintro ⟨file, hfile, -⟩
    by_contra hneg
    rw [gen_of_neg dice (by omega)] at hfile
    exact absurd hfile nofun
  · intro h
    obtain ⟨file, hfile, hlines⟩ := gen_of_nonneg dice h
    refine ⟨file, hfile, ?_⟩
    rw [hlines, List.length_map, List.length_range]
    omega

/-- Asked for minus one line, the command does not stop after none. -/
theorem gen_minus_one :
    ¬ ∃ file, gen (fun _ => 1) (-1) = some file ∧
      ((lines '\n' file.text).length : Int) = max (-1 : Int32).toInt 0 := by
  rw [gen_of_neg (fun _ => 1) (by decide)]
  exact nofun

/-- **Generated ids read back**: `main` finds a device for each throw, in order, its id has ten
lower-case hexadecimal digits that stand for the number thrown, and the threads get these devices
in this order. -/
theorem gen_reads_back (dice : Nat → UInt64) (count : Int32) (hcount : 0 ≤ count.toInt)
    (hdice : ∀ k < count.toInt.toNat, dice k ≤ 0xffffffffff) (threadCount : Int)
    (hT : 1 ≤ threadCount) :
    ∃ file, gen dice count = some file ∧
      ((lines '\n' file.text).length : Int) = count.toInt ∧
      (lines '\n' file.text).map ofHex =
        (List.range count.toInt.toNat).map (fun k => some (dice k).toNat) ∧
      (∀ id ∈ lines '\n' file.text, id.length = 10 ∧ ∀ c ∈ id, (hexValue c).isSome = true) ∧
      (startThreads file.text threadCount).flatten.map WsState.deviceId = lines '\n' file.text := by
  obtain ⟨file, hfile, hlines⟩ := gen_of_nonneg dice hcount
  refine ⟨file, hfile, ?_, ?_, ?_, ?_⟩
  · rw [hlines, List.length_map, List.length_range]
    omega
  · rw [hlines, List.map_map]
    refine List.map_congr_left fun k _ => ?_
    show ofHex (idText (dice k)) = _
    rw [idText, ofHex_leftpad, ofHex_toDigits]
  · intro id hid
    rw [hlines] at hid
    obtain ⟨k, hk, rfl⟩ := List.mem_map.1 hid
    refine ⟨length_leftpad_toDigits (by decide) ?_, fun c => isSome_hexValue_of_mem_idText⟩
    have hle : (dice k).toNat ≤ 0xffffffffff :=
      UInt64.le_iff_toNat_le.1 (hdice k (List.mem_range.1 hk))
    omega
  · rw [flatten_startThreads file.text hT, List.map_map]
    exact List.map_id _

/-- Three throws, the last one the largest. -/
theorem gen_reads_back_three :
    ∃ file, gen (fun k => if k = 2 then 0xffffffffff else 7) 3 = some file ∧
      (lines '\n' file.text).map ofHex = [some 7, some 7, some 0xffffffffff] := by
  obtain ⟨file, hfile, -, hhex, -⟩ :=
    gen_reads_back (fun k => if k = 2 then 0xffffffffff else 7) 3 (by decide) (by decide) 2
      (by decide)
  exact ⟨file, hfile, hhex⟩

end WsTestClient
