import WsTestClient.Log.Stringify

/-!
# The columns of the log

A line of the log consists of up to six columns, and the header names them.  `format_header` and the
functions `format_column_…` of `utl_log.hpp` each append to a buffer; here they are, with what they
ask of the clocks and of the thread collected in a `Moment`, and next to each the text it appends.

* `integerDigitCount_eq` — the digits counted for the padding are those that are written.
* `aligned_iff` — a line stands under its header exactly when all that is in its columns fits, and
  never to the left of it.
* `rowColumns_of_not_fits` — the call site is the one column that can fail in a buffer with room for
  it: a file name that is too long is cut by a negative number of characters, and a line number that
  is too long is padded by one.
-/

set_option autoImplicit false

namespace WsTestClient.Log

open Decimal

/-! ## Options and messages -/

inductive Verbosity
  | err
  | warn
  | note
  | info
  | debug
  | trace
  deriving DecidableEq

/-- The number behind the enumerator. -/
def Verbosity.toNat : Verbosity → Nat
  | .err => 0
  | .warn => 1
  | .note => 2
  | .info => 3
  | .debug => 4
  | .trace => 5

structure Columns where
  datetime : Bool := true
  uptime : Bool := true
  thread : Bool := true
  callsite : Bool := true
  level : Bool := true
  message : Bool := true

structure Callsite where
  file : Text
  line : Int32

/-- What the clocks and the thread say when a line is formatted. -/
structure Moment where
  /-- The bytes `std::strftime` has written for the local time. -/
  datetime : Text
  datetime_length : datetime.length = 19
  /-- The milliseconds since the program was entered, which are signed. -/
  elapsedMs : Nat
  elapsedMs_lt : elapsedMs < 2 ^ 63
  /-- `_get_thread_index`. -/
  threadIndex : UInt64

/-! ## Counting digits -/

/-- The loop of `_integer_digit_count`. -/
def digitLoop (value : Int) (digits : Nat) : Nat :=
  if value = 0 then digits else digitLoop (value.tdiv 10) (digits + 1)
termination_by value.natAbs
decreasing_by
  have habs : (value.tdiv 10).natAbs = value.natAbs / 10 := Int.natAbs_tdiv value 10
  omega

/-- `_integer_digit_count`. -/
def integerDigitCount (value : Int) : Nat := digitLoop value (if value ≤ 0 then 1 else 0)

theorem digitLoop_eq (value : Int) (digits : Nat) :
    digitLoop value digits =
      digits + if value = 0 then 0 else (Nat.toDigits 10 value.natAbs).length := by
  induction hn : value.natAbs using Nat.strongRecOn generalizing value digits with
  | ind n ih =>
    subst hn
    rw [digitLoop]
    split
    · rfl
    · rename_i hne
      have habs : (value.tdiv 10).natAbs = value.natAbs / 10 := Int.natAbs_tdiv value 10
      rw [ih _ (by omega) _ _ habs, Nat.toDigits_eq_if (by decide) (n := value.natAbs)]
      by_cases hlt : value.natAbs < 10
      · have hzero : value.tdiv 10 = 0 := by omega
        simp [hzero, hlt]
      · have hne' : value.tdiv 10 ≠ 0 := by omega
        rw [if_neg hne', if_neg hlt, List.length_append, List.length_singleton]
        omega

/-- **The digits are counted right.** -/
theorem integerDigitCount_eq (value : Int) : integerDigitCount value = (toChars value).length := by
  rw [integerDigitCount, digitLoop_eq, toChars]
  rcases Int.lt_trichotomy value 0 with hneg | rfl | hpos
  · rw [if_pos hneg.le, if_neg hneg.ne, if_pos hneg, List.length_cons, Nat.add_comm]
  · simp
  · rw [if_neg hpos.not_ge, if_neg hpos.ne', if_neg hpos.not_gt, Nat.zero_add]

/-! ## Widths and delimiters -/

def wUptimeSec : Nat := 4

def wUptimeMs : Nat := 3

def wCallsiteBeforeDot : Nat := 22

def wCallsiteAfterDot : Nat := 4

def colWDatetime : Nat := 19

def colWUptime : Nat := wUptimeSec + 1 + wUptimeMs

def colWThread : Nat := 6

def colWCallsite : Nat := wCallsiteBeforeDot + 1 + wCallsiteAfterDot

def colWLevel : Nat := 5

/-- The delimiters to the left of the columns, `_col_ld_…`. -/
structure Delimiters where
  datetime : Text
  uptime : Text
  thread : Text
  callsite : Text
  level : Text
  message : Text

def colLd : Delimiters := ⟨[], ['('], ['['], [' '], [], [' ']⟩

/-- The delimiters to the right of the columns, `_col_rd_…`. -/
def colRd : Delimiters := ⟨[' '], [')'], [']'], [' '], ['|'], ['\n']⟩

/-! ## The header -/

/-- The heading of a column, between its delimiters, if the column is enabled. -/
def heading (enabled : Bool) (buffer ld title : Text) (width : Nat) (rd : Text) :
    Except Failure Text :=
  if enabled then appendStringified buffer [.string ld, .padRight (.string title) width, .string rd]
  else .ok buffer

/-- `format_header`, up to the last column. -/
def headerColumns (c : Columns) (buffer : Text) : Except Failure Text := do
  let buffer ← heading c.datetime buffer colLd.datetime "date       time".toList colWDatetime
    colRd.datetime
  let buffer ← heading c.uptime buffer colLd.uptime "uptime".toList colWUptime colRd.uptime
  let buffer ← heading c.thread buffer colLd.thread "thread".toList colWThread colRd.thread
  let buffer ← heading c.callsite buffer colLd.callsite "callsite".toList colWCallsite
    colRd.callsite
  heading c.level buffer colLd.level "level".toList colWLevel colRd.level

/-! ## The columns of a line -/

/-- `format_column_datetime`. -/
def formatColumnDatetime (m : Moment) (buffer : Text) : Except Failure Text := do
  let buffer ← extend buffer colLd.datetime
  let buffer ← extend buffer (m.datetime.take colWDatetime)
  extend buffer colRd.datetime

/-- `format_column_uptime`. -/
def formatColumnUptime (m : Moment) (buffer : Text) : Except Failure Text := do
  let sec := m.elapsedMs / 1000
  let ms := m.elapsedMs % 1000
  let secDigits := integerDigitCount sec
  let msDigits := integerDigitCount ms
  let buffer ← extend buffer colLd.uptime
  let buffer ← (if secDigits < wUptimeSec then fill buffer (wUptimeSec - secDigits) ' '
    else .ok buffer)
  let buffer ← extend buffer (toChars sec)
  let buffer ← extend buffer ['.']
  let buffer ← (if msDigits < wUptimeMs then fill buffer (wUptimeMs - msDigits) '0' else .ok buffer)
  let buffer ← extend buffer (toChars ms)
  extend buffer colRd.uptime

/-- `format_column_thread`. -/
def formatColumnThread (m : Moment) (buffer : Text) : Except Failure Text := do
  let threadIdWidth := integerDigitCount m.threadIndex.toNat
  let buffer ← extend buffer colLd.thread
  let buffer ← (if threadIdWidth < colWThread then fill buffer (colWThread - threadIdWidth) ' '
    else .ok buffer)
  let buffer ← extend buffer (toChars m.threadIndex.toNat)
  extend buffer colRd.thread

/-- What is behind the last separator of a path. -/
def filename (file : Text) : Text :=
  (file.reverse.takeWhile fun c => c != '/' && c != '\\').reverse

/-- `format_column_callsite`. -/
def formatColumnCallsite (cs : Callsite) (buffer : Text) : Except Failure Text := do
  let filename := filename cs.file
  let buffer ← (if filename.length < wCallsiteBeforeDot then
      fill buffer (wCallsiteBeforeDot - filename.length) ' '
    -- `remove_prefix` of the negative difference, as an unsigned number
    else if wCallsiteBeforeDot < filename.length then .error .undefined
    else .ok buffer)
  let buffer ← extend buffer colLd.callsite
  let buffer ← extend buffer filename
  let buffer ← extend buffer [':']
  let buffer ← extend buffer (toChars cs.line.toInt)
  let lineDigits := integerDigitCount cs.line.toInt
  let buffer ← fill buffer (UInt64.ofNat wCallsiteAfterDot - UInt64.ofNat lineDigits).toNat ' '
  extend buffer colRd.callsite

def levelText : Verbosity → Text
  | .err => "  ERR".toList
  | .warn => " WARN".toList
  | .note => " NOTE".toList
  | .info => " INFO".toList
  | .debug => "DEBUG".toList
  | .trace => "TRACE".toList

/-- `format_column_level`. -/
def formatColumnLevel (level : Verbosity) (buffer : Text) : Except Failure Text := do
  let buffer ← extend buffer colLd.level
  let buffer ← extend buffer (levelText level)
  extend buffer colRd.level

/-- `format`, up to the last column. -/
def rowColumns (c : Columns) (cs : Callsite) (level : Verbosity) (m : Moment) (buffer : Text) :
    Except Failure Text := do
  let buffer ← (if c.datetime then formatColumnDatetime m buffer else .ok buffer)
  let buffer ← (if c.uptime then formatColumnUptime m buffer else .ok buffer)
  let buffer ← (if c.thread then formatColumnThread m buffer else .ok buffer)
  let buffer ← (if c.callsite then formatColumnCallsite cs buffer else .ok buffer)
  if c.level then formatColumnLevel level buffer else .ok buffer

/-! ## What the columns look like -/

def datetimeText (m : Moment) : Text :=
  colLd.datetime ++ (m.datetime ++ colRd.datetime)

def uptimeText (m : Moment) : Text :=
  colLd.uptime ++ ((toChars ↑(m.elapsedMs / 1000)).leftpad wUptimeSec ' ' ++ (['.'] ++
    ((toChars ↑(m.elapsedMs % 1000)).leftpad wUptimeMs '0' ++ colRd.uptime)))

def threadText (m : Moment) : Text :=
  colLd.thread ++ ((toChars ↑m.threadIndex.toNat).leftpad colWThread ' ' ++ colRd.thread)

/-- A file name that is short enough, with the number of the line behind it. -/
def callsiteText (cs : Callsite) : Text :=
  List.replicate (wCallsiteBeforeDot - (filename cs.file).length) ' ' ++ (colLd.callsite ++
    (filename cs.file ++ ([':'] ++ ((toChars cs.line.toInt).rightpad wCallsiteAfterDot ' ' ++
      colRd.callsite))))

/-- The columns to the left of the call site. -/
def leftText (c : Columns) (m : Moment) : Text :=
  (if c.datetime then datetimeText m else []) ++ ((if c.uptime then uptimeText m else []) ++
    if c.thread then threadText m else [])

/-- The columns from the call site on, up to the last. -/
def rightText (c : Columns) (cs : Callsite) (level : Verbosity) : Text :=
  (if c.callsite then callsiteText cs else []) ++
    if c.level then colLd.level ++ (levelText level ++ colRd.level) else []

theorem writes_formatColumnDatetime (m : Moment) :
    Writes (formatColumnDatetime m) (datetimeText m) := by
  have hall : m.datetime.take colWDatetime = m.datetime :=
    List.take_of_length_le m.datetime_length.le
  rw [datetimeText, ← hall]
  exact (writes_extend _).bind ((writes_extend _).bind (writes_extend _))

theorem writes_formatColumnUptime (m : Moment) : Writes (formatColumnUptime m) (uptimeText m) := by
  simp only [uptimeText, List.leftpad, List.append_assoc, ← integerDigitCount_eq]
  exact (writes_extend _).bind ((writes_padding _ _ _).bind ((writes_extend _).bind
    ((writes_extend _).bind ((writes_padding _ _ _).bind ((writes_extend _).bind
      (writes_extend _))))))

theorem writes_formatColumnThread (m : Moment) : Writes (formatColumnThread m) (threadText m) := by
  simp only [threadText, List.leftpad, List.append_assoc, ← integerDigitCount_eq]
  exact (writes_extend _).bind ((writes_padding _ _ _).bind ((writes_extend _).bind
    (writes_extend _)))

theorem writes_formatColumnLevel (level : Verbosity) :
    Writes (formatColumnLevel level) (colLd.level ++ (levelText level ++ colRd.level)) :=
  (writes_extend _).bind ((writes_extend _).bind (writes_extend _))

/-- A column is appended if it is enabled. -/
theorem Writes.column {f : Text → Except Failure Text} {s : Text} (hf : Writes f s)
    (enabled : Bool) :
    Writes (fun buffer => if enabled then f buffer else .ok buffer) (if enabled then s else []) :=
  hf.ite writes_ok

/-- The columns to the left of the call site are appended in any case. -/
theorem rowColumns_eq (c : Columns) (cs : Callsite) (level : Verbosity) (m : Moment) {buffer : Text}
    (hbuffer : buffer.length ≤ maxSize) :
    rowColumns c cs level m buffer = (extend buffer (leftText c m) >>= fun buffer =>
      (if c.callsite then formatColumnCallsite cs buffer else .ok buffer) >>= fun buffer =>
        if c.level then formatColumnLevel level buffer else .ok buffer) := by
  have hleft := ((writes_formatColumnDatetime m).column c.datetime).bind
    (((writes_formatColumnUptime m).column c.uptime).bind
      ((writes_formatColumnThread m).column c.thread)) buffer hbuffer
  rw [leftText, ← hleft]
  simp only [rowColumns, bind_assoc]

/-! ## The widths -/

theorem length_toChars_nat (n : Nat) {k : Nat} (hk : 0 < k) :
    (toChars (n : Int)).length ≤ k ↔ n < 10 ^ k := by
  rw [toChars_of_nonneg (Int.natCast_nonneg n), Int.natAbs_natCast]
  exact Nat.length_toDigits_le_iff (by decide) hk

/-- How many characters the columns of a line take up to the call site and behind it. -/
def leftWidth (c : Columns) (m : Moment) : Nat :=
  (if c.datetime then 20 else 0) +
    (if c.uptime then 6 + max 4 (toChars ↑(m.elapsedMs / 1000)).length else 0) +
    if c.thread then 2 + max 6 (toChars ↑m.threadIndex.toNat).length else 0

theorem length_datetimeText (m : Moment) : (datetimeText m).length = 20 := by
  simp [datetimeText, colLd, colRd, m.datetime_length]

theorem length_uptimeText (m : Moment) :
    (uptimeText m).length = 6 + max 4 (toChars ↑(m.elapsedMs / 1000)).length := by
  have hms : (toChars ↑(m.elapsedMs % 1000)).length ≤ 3 :=
    (length_toChars_nat _ (by decide)).2 (Nat.mod_lt _ (by decide))
  simp only [uptimeText, colLd, colRd, wUptimeSec, wUptimeMs, List.length_append,
    List.length_leftpad, List.length_cons, List.length_nil]
  omega

theorem length_threadText (m : Moment) :
    (threadText m).length = 2 + max 6 (toChars ↑m.threadIndex.toNat).length := by
  simp only [threadText, colLd, colRd, colWThread, List.length_append, List.length_leftpad,
    List.length_cons, List.length_nil]
  omega

/-- The columns to the left of the call site. -/
theorem length_leftText (c : Columns) (m : Moment) : (leftText c m).length = leftWidth c m := by
  simp only [leftText, List.length_append, apply_ite List.length, List.length_nil,
    length_datetimeText, length_uptimeText, length_threadText, leftWidth]
  omega

theorem cell_le (enabled : Bool) {width n : Nat} (h : width ≤ n) :
    (if enabled then width else 0) ≤ n := by
  cases enabled <;> simp [h]

theorem length_leftText_le (c : Columns) (m : Moment) : (leftText c m).length ≤ 67 := by
  have helapsed := m.elapsedMs_lt
  have hsec : (toChars ↑(m.elapsedMs / 1000)).length ≤ 19 :=
    (length_toChars_nat _ (by decide)).2 (by omega)
  have hindex : (toChars ↑m.threadIndex.toNat).length ≤ 20 :=
    (length_toChars_nat _ (by decide)).2 (m.threadIndex.toNat_lt.trans (by decide))
  have hdatetime := cell_le c.datetime (le_refl 20)
  have huptime := cell_le c.uptime
    (show 6 + max 4 (toChars ↑(m.elapsedMs / 1000)).length ≤ 25 by omega)
  have hthread := cell_le c.thread
    (show 2 + max 6 (toChars ↑m.threadIndex.toNat).length ≤ 22 by omega)
  rw [length_leftText, leftWidth]
  omega

/-! ## What fits -/

/-- The call site fits its column. -/
def CallsiteFits (cs : Callsite) : Prop :=
  (filename cs.file).length ≤ 22 ∧ -1000 < cs.line.toInt ∧ cs.line.toInt < 10000

/-- What is in the columns fits. -/
structure Fits (c : Columns) (cs : Callsite) (m : Moment) : Prop where
  uptime : c.uptime = true → m.elapsedMs < 10000000
  thread : c.thread = true → m.threadIndex.toNat < 1000000
  callsite : c.callsite = true → CallsiteFits cs

instance (cs : Callsite) : Decidable (CallsiteFits cs) := inferInstanceAs (Decidable (_ ∧ _))

theorem length_toChars_le_four {n : Int} :
    (toChars n).length ≤ 4 ↔ -1000 < n ∧ n < 10000 := by
  rcases Int.lt_or_le n 0 with hneg | hpos
  · have hdigits : (Nat.toDigits 10 n.natAbs).length ≤ 3 ↔ n.natAbs < 10 ^ 3 :=
      Nat.length_toDigits_le_iff (by decide) (by decide)
    rw [toChars, if_pos hneg, List.length_cons]
    omega
  · have hdigits : (Nat.toDigits 10 n.natAbs).length ≤ 4 ↔ n.natAbs < 10 ^ 4 :=
      Nat.length_toDigits_le_iff (by decide) (by decide)
    rw [toChars_of_nonneg hpos, hdigits]
    omega

/-- The padding behind the number of the line, as it should be. -/
theorem toNat_lineDigits {k : Nat} (h : k ≤ 4) :
    (UInt64.ofNat wCallsiteAfterDot - UInt64.ofNat k).toNat = 4 - k := by
  have hk : (UInt64.ofNat k).toNat = k :=
    UInt64.toNat_ofNat_of_lt' (by simp only [UInt64.size]; omega)
  have hle : UInt64.ofNat k ≤ UInt64.ofNat wCallsiteAfterDot := by
    rw [UInt64.le_iff_toNat_le, hk]
    exact h
  rw [UInt64.toNat_sub_of_le _ _ hle, hk]
  rfl

/-- The padding behind a number that is too long. -/
theorem maxSize_lt_lineDigits {k : Nat} (h : 4 < k) (hk : k ≤ 11) :
    maxSize < (UInt64.ofNat wCallsiteAfterDot - UInt64.ofNat k).toNat := by
  have hword : (UInt64.ofNat k).toNat = k :=
    UInt64.toNat_ofNat_of_lt' (by simp only [UInt64.size]; omega)
  have hfour : (UInt64.ofNat wCallsiteAfterDot).toNat = 4 := by decide
  rw [UInt64.toNat_sub, hword, hfour, maxSize]
  omega

theorem length_toChars_int32 (n : Int32) : (toChars n.toInt).length ≤ 11 := by
  have hlower : -2 ^ 31 ≤ n.toInt := n.le_toInt
  have hupper := n.toInt_lt
  have hdigits : (Nat.toDigits 10 n.toInt.natAbs).length ≤ 10 :=
    (Nat.length_toDigits_le_iff (by decide) (by decide)).2 (by omega)
  rw [toChars]
  split
  · rw [List.length_cons]
    omega
  · omega

theorem writes_formatColumnCallsite {cs : Callsite} (h : CallsiteFits cs) :
    Writes (formatColumnCallsite cs) (callsiteText cs) := by
  have hname : ¬ wCallsiteBeforeDot < (filename cs.file).length := Nat.not_lt.2 h.1
  have hline : (toChars cs.line.toInt).length ≤ 4 := length_toChars_le_four.2 h.2
  have hend : Writes (fun buffer => fill buffer
        (UInt64.ofNat wCallsiteAfterDot - UInt64.ofNat (toChars cs.line.toInt).length).toNat ' ' >>=
          (extend · colRd.callsite))
      (List.replicate (wCallsiteAfterDot - (toChars cs.line.toInt).length) ' ' ++
        colRd.callsite) := by
    rw [toNat_lineDigits hline]
    exact (writes_fill _ ' ').bind (writes_extend _)
  intro buffer hbuffer
  simp only [formatColumnCallsite, if_neg hname, integerDigitCount_eq, callsiteText, List.rightpad,
    List.append_assoc]
  exact (writes_padding _ _ ' ').bind ((writes_extend _).bind ((writes_extend _).bind
    ((writes_extend _).bind ((writes_extend _).bind hend)))) buffer hbuffer

/-- Behind a text that is appended, it does not matter whether this text is what does not fit. -/
theorem Writes.bind_lengthError {f g : Text → Except Failure Text} {s : Text} (hf : Writes f s)
    (hg : ∀ buffer : Text, buffer.length ≤ maxSize → g buffer = .error .lengthError) (buffer : Text)
    (hbuffer : buffer.length ≤ maxSize) : (f buffer >>= g) = .error .lengthError := by
  rw [hf buffer hbuffer]
  by_cases hs : buffer.length + s.length ≤ maxSize
  · rw [extend_of_le hs]
    exact hg _ (by rwa [List.length_append])
  · rw [extend_of_lt (Nat.not_le.1 hs)]
    rfl

/-- A call site that does not fit. -/
theorem formatColumnCallsite_error {cs : Callsite} (h : ¬ CallsiteFits cs) {buffer : Text}
    (hbuffer : buffer.length ≤ maxSize) : formatColumnCallsite cs buffer =
      .error (if 22 < (filename cs.file).length then .undefined else .lengthError) := by
  by_cases hname : wCallsiteBeforeDot < (filename cs.file).length
  · rw [formatColumnCallsite, if_neg hname.not_gt, if_pos hname]
    exact congrArg Except.error (if_pos hname).symm
  · have hlong : 4 < (toChars cs.line.toInt).length := by
      refine Nat.lt_of_not_le fun hle => h ⟨Nat.not_lt.1 hname, length_toChars_le_four.1 hle⟩
    have hend : ∀ buffer : Text, buffer.length ≤ maxSize → (fill buffer
        (UInt64.ofNat wCallsiteAfterDot - UInt64.ofNat (toChars cs.line.toInt).length).toNat ' ' >>=
          (extend · colRd.callsite)) = .error .lengthError := by
      intro buffer _
      have hwide := maxSize_lt_lineDigits hlong (length_toChars_int32 cs.line)
      rw [fill, if_neg (by omega)]
      rfl
    have hcode : formatColumnCallsite cs buffer = .error .lengthError := by
      simp only [formatColumnCallsite, if_neg hname, integerDigitCount_eq]
      exact (writes_padding _ _ ' ').bind_lengthError ((writes_extend _).bind_lengthError
        ((writes_extend _).bind_lengthError ((writes_extend _).bind_lengthError
          ((writes_extend _).bind_lengthError hend)))) buffer hbuffer
    exact hcode.trans (congrArg Except.error (if_neg hname).symm)

/-! ## Lines and header -/

/-- How many characters the header takes up to the call site. -/
def headerLeftWidth (c : Columns) : Nat :=
  (if c.datetime then 20 else 0) + (if c.uptime then 10 else 0) + if c.thread then 8 else 0

/-- How many characters both take from the call site on. -/
def rightWidth (c : Columns) : Nat := (if c.callsite then 29 else 0) + if c.level then 6 else 0

/-- The heading of a column. -/
def headingText (enabled : Bool) (ld title : Text) (width : Nat) (rd : Text) : Text :=
  if enabled then ld ++ (title.rightpad width ' ' ++ rd) else []

/-- The header, up to the last column. -/
def headerColumnsText (c : Columns) : Text :=
  headingText c.datetime colLd.datetime "date       time".toList colWDatetime colRd.datetime ++
    (headingText c.uptime colLd.uptime "uptime".toList colWUptime colRd.uptime ++
      (headingText c.thread colLd.thread "thread".toList colWThread colRd.thread ++
        (headingText c.callsite colLd.callsite "callsite".toList colWCallsite colRd.callsite ++
          headingText c.level colLd.level "level".toList colWLevel colRd.level)))

theorem writes_heading (enabled : Bool) (ld title : Text) (width : Nat) (rd : Text) :
    Writes (heading enabled · ld title width rd) (headingText enabled ld title width rd) := by
  have htitle := appendStringified_eq [.string ld, .padRight (.string title) width, .string rd]
  simp only [texts, text, List.flatten_cons, List.flatten_nil, List.append_nil] at htitle
  exact htitle.column enabled

theorem writes_headerColumns (c : Columns) : Writes (headerColumns c) (headerColumnsText c) :=
  (writes_heading _ _ _ _ _).bind ((writes_heading _ _ _ _ _).bind ((writes_heading _ _ _ _ _).bind
    ((writes_heading _ _ _ _ _).bind (writes_heading _ _ _ _ _))))

theorem length_headerColumnsText (c : Columns) :
    (headerColumnsText c).length = headerLeftWidth c + rightWidth c := by
  simp only [headerColumnsText, headingText, List.length_append, apply_ite List.length,
    List.length_nil, List.length_rightpad]
  have hdatetime : colLd.datetime.length +
      (max colWDatetime "date       time".toList.length + colRd.datetime.length) = 20 := by decide
  have huptime : colLd.uptime.length +
      (max colWUptime "uptime".toList.length + colRd.uptime.length) = 10 := by decide
  have hthread : colLd.thread.length +
      (max colWThread "thread".toList.length + colRd.thread.length) = 8 := by decide
  have hcallsite : colLd.callsite.length +
      (max colWCallsite "callsite".toList.length + colRd.callsite.length) = 29 := by decide
  have hlevel : colLd.level.length +
      (max colWLevel "level".toList.length + colRd.level.length) = 6 := by decide
  simp only [hdatetime, huptime, hthread, hcallsite, hlevel, headerLeftWidth, rightWidth]
  omega

theorem length_headerColumnsText_le (c : Columns) : (headerColumnsText c).length ≤ 73 := by
  have hlength := length_headerColumnsText c
  have hdatetime := cell_le c.datetime (le_refl 20)
  have huptime := cell_le c.uptime (le_refl 10)
  have hthread := cell_le c.thread (le_refl 8)
  have hcallsite := cell_le c.callsite (le_refl 29)
  have hlevel := cell_le c.level (le_refl 6)
  rw [headerLeftWidth, rightWidth] at hlength
  omega

theorem headerColumns_eq (c : Columns) : headerColumns c [] = .ok (headerColumnsText c) := by
  have hlength := length_headerColumnsText_le c
  rw [writes_headerColumns c [] (Nat.zero_le _), extend_of_le, List.nil_append]
  rw [List.length_nil, maxSize]
  omega

theorem length_callsiteText {cs : Callsite} (h : CallsiteFits cs) :
    (callsiteText cs).length = 29 := by
  have hname : (filename cs.file).length ≤ 22 := h.1
  have hline : (toChars cs.line.toInt).length ≤ 4 := length_toChars_le_four.2 h.2
  simp only [callsiteText, colLd, colRd, wCallsiteBeforeDot, wCallsiteAfterDot, List.length_append,
    List.length_replicate, List.length_rightpad, List.length_cons, List.length_nil]
  omega

theorem length_rightText {c : Columns} {cs : Callsite} (h : c.callsite = true → CallsiteFits cs)
    (level : Verbosity) : (rightText c cs level).length = rightWidth c := by
  have hlevel : (levelText level).length = 5 := by
    cases level <;> decide
  have hcallsite : (if c.callsite then callsiteText cs else []).length =
      if c.callsite then 29 else 0 := by
    split
    · exact length_callsiteText (h ‹_›)
    · rfl
  rw [rightText, List.length_append, hcallsite, rightWidth]
  simp only [apply_ite List.length, List.length_append, List.length_cons, List.length_nil, colLd,
    colRd, hlevel]

/-- A line whose call site fits has all its columns appended. -/
theorem writes_rowColumns {c : Columns} {cs : Callsite} (h : c.callsite = true → CallsiteFits cs)
    (level : Verbosity) (m : Moment) :
    Writes (rowColumns c cs level m) (leftText c m ++ rightText c cs level) := by
  intro buffer hbuffer
  have hcallsite : Writes (fun buffer => if c.callsite then formatColumnCallsite cs buffer
      else .ok buffer) (if c.callsite then callsiteText cs else []) := by
    by_cases hc : c.callsite = true
    · simpa only [if_pos hc] using writes_formatColumnCallsite (h hc)
    · simpa only [if_neg hc] using writes_ok
  rw [rowColumns_eq c cs level m hbuffer]
  exact extend_bind (hcallsite.bind ((writes_formatColumnLevel level).column c.level)) buffer _

/-- One whose call site does not fit fails there, if it gets so far. -/
theorem rowColumns_of_not_fits {c : Columns} {cs : Callsite} (hc : c.callsite = true)
    (h : ¬ CallsiteFits cs) (level : Verbosity) (m : Moment) {buffer : Text}
    (hbuffer : buffer.length ≤ maxSize) :
    rowColumns c cs level m buffer = .error (if 22 < (filename cs.file).length ∧
      buffer.length + (leftText c m).length ≤ maxSize then .undefined else .lengthError) := by
  rw [rowColumns_eq c cs level m hbuffer]
  by_cases hroom : buffer.length + (leftText c m).length ≤ maxSize
  · rw [extend_of_le hroom]
    have hlength : (buffer ++ leftText c m).length ≤ maxSize := by rwa [List.length_append]
    simp only [bind, Except.bind, if_pos hc, formatColumnCallsite_error h hlength, hroom, and_true]
  · rw [extend_of_lt (Nat.not_le.1 hroom)]
    simp only [hroom, and_false, if_false]
    rfl

theorem headerLeftWidth_le (c : Columns) (m : Moment) : headerLeftWidth c ≤ leftWidth c m := by
  have hcell : ∀ (b : Bool) {k n : Nat}, k ≤ n → (if b then k else 0) ≤ if b then n else 0 := by
    intro b k n hle
    cases b <;> simp [hle]
  exact Nat.add_le_add (Nat.add_le_add_left (hcell _ (by omega)) _) (hcell _ (by omega))

theorem leftWidth_eq_iff (c : Columns) (m : Moment) :
    leftWidth c m = headerLeftWidth c ↔ (c.uptime = true → m.elapsedMs < 10000000) ∧
      (c.thread = true → m.threadIndex.toNat < 1000000) := by
  have hsec : (toChars ↑(m.elapsedMs / 1000)).length ≤ 4 ↔ m.elapsedMs / 1000 < 10 ^ 4 :=
    length_toChars_nat _ (by decide)
  have hindex : (toChars ↑m.threadIndex.toNat).length ≤ 6 ↔ m.threadIndex.toNat < 10 ^ 6 :=
    length_toChars_nat _ (by decide)
  rw [leftWidth, headerLeftWidth]
  cases c.uptime with
  | true =>
    cases c.thread with
    | true =>
      simp only [if_true, true_implies]
      omega
    | false =>
      simp only [if_true, true_implies, Bool.false_eq_true, if_false, false_implies, and_true]
      omega
  | false =>
    cases c.thread with
    | true =>
      simp only [if_true, true_implies, Bool.false_eq_true, if_false, false_implies, true_and]
      omega
    | false => simp

/-- **When a line is aligned**: the message stands under its heading if and only if all that is in
front of it fits its column; and no line has it further to the left.  As any of the columns can be
disabled, this goes for each of them. -/
theorem aligned_iff (c : Columns) (cs : Callsite) (level : Verbosity) (m : Moment) :
    ((∃ head row, headerColumns c [] = .ok head ∧ rowColumns c cs level m [] = .ok row ∧
        row.length = head.length) ↔ Fits c cs m) ∧
      ∀ head row, headerColumns c [] = .ok head → rowColumns c cs level m [] = .ok row →
        head.length ≤ row.length := by
  have hhead := headerColumns_eq c
  have hheadLength := length_headerColumnsText c
  have hle := headerLeftWidth_le c m
  have heq := leftWidth_eq_iff c m
  by_cases hcallsite : c.callsite = true → CallsiteFits cs
  · have hrow := writes_rowColumns hcallsite level m [] (Nat.zero_le _)
    have hrowLength : (leftText c m ++ rightText c cs level).length =
        leftWidth c m + rightWidth c := by
      rw [List.length_append, length_leftText, length_rightText hcallsite]
    have hok : ∀ row, rowColumns c cs level m [] = .ok row →
        row.length = leftWidth c m + rightWidth c := by
      intro row' hrow'
      rw [hrow, extend] at hrow'
      split at hrow'
      · rw [← Except.ok.inj hrow', List.nil_append, hrowLength]
      · simp at hrow'
    refine ⟨⟨?_, fun hfits => ?_⟩, fun head' row' hhead' hrow' => ?_⟩
    · rintro ⟨head', row', hhead', hrow', hsame⟩
      obtain rfl := Except.ok.inj (hhead.symm.trans hhead')
      have hrowLength' := hok row' hrow'
      obtain ⟨huptime, hthread⟩ := heq.1 (by omega)
      exact ⟨huptime, hthread, hcallsite⟩
    · have hsame := heq.2 ⟨hfits.uptime, hfits.thread⟩
      have hroom := length_headerColumnsText_le c
      have hfit : List.length ([] : Text) + (leftText c m ++ rightText c cs level).length ≤
          maxSize := by
        rw [List.length_nil, hrowLength, maxSize]
        omega
      rw [extend_of_le hfit] at hrow
      refine ⟨_, _, hhead, hrow, ?_⟩
      rw [List.nil_append]
      omega
    · obtain rfl := Except.ok.inj (hhead.symm.trans hhead')
      have hrowLength' := hok row' hrow'
      omega
  · obtain ⟨hc, hnot⟩ := Classical.not_imp.1 hcallsite
    have hempty : ([] : Text).length ≤ maxSize := Nat.zero_le _
    have hrow := rowColumns_of_not_fits hc hnot level m hempty
    refine ⟨⟨?_, fun hfits => absurd (hfits.callsite hc) hnot⟩, fun head' row' _ hrow' => ?_⟩
    · rintro ⟨_, row', -, hrow', -⟩
      simp [hrow] at hrow'
    · simp [hrow] at hrow'

end WsTestClient.Log
