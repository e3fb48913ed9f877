import WsTestClient.Log.Columns

/-!
# A message and its text

`Sink::format` puts the whole message together in a buffer, with the header in front if it has found
`print_header` set, before it writes anything.  `formatBuffer` is that part of it: it either has the
text for the stream or throws.

* `formatBuffer_toOption` — what there is for the stream is the header, if it is due, and the line.
* `formatLine_error_iff` — when a line fails, in any buffer: at a call site that does not fit, or if
  it gets too long for a string.
-/

set_option autoImplicit false

namespace WsTestClient.Log

/-! ## Sinks and calls -/

inductive Colors
  | enable
  | disable
  deriving DecidableEq

/-- What a sink is created with. -/
structure Options where
  verbosity : Verbosity
  colors : Colors
  flushInterval : Int
  columns : Columns

/-- The sink used when no other has been added, as in this program. -/
def defaultSink : Options where
  verbosity := .trace
  colors := .enable
  flushInterval := 0
  columns := {}

def colorHeading : Text := "\x1b[36;1m".toList

def colorReset : Text := "\x1b[0m".toList

def color : Verbosity → Text
  | .err => "\x1b[31;1m".toList
  | .warn => "\x1b[33m".toList
  | .note => "\x1b[35m".toList
  | .info => "\x1b[37m".toList
  | .debug => "\x1b[32m".toList
  | .trace => "\x1b[90m".toList

/-- A call of `format`. -/
structure Call where
  /-- Which instantiation of the template it is. -/
  types : Nat
  callsite : Callsite
  level : Verbosity
  /-- The reading of the clock at the beginning. -/
  now : Int
  moment : Moment
  args : List Value

/-! ## The code -/

/-- `format_column_message`. -/
def formatColumnMessage (args : List Value) (buffer : Text) : Except Failure Text := do
  let buffer ← extend buffer colLd.message
  let buffer ← appendStringified buffer args
  extend buffer colRd.message

/-- `format_header`. -/
def formatHeader (o : Options) (buffer : Text) : Except Failure Text := do
  let buffer ← (if o.colors = .enable then extend buffer colorHeading else .ok buffer)
  let buffer ← headerColumns o.columns buffer
  let buffer ← (if o.columns.message then
    appendStringified buffer [.string colLd.message, .string "message".toList, .string colRd.message]
    else .ok buffer)
  if o.colors = .enable then extend buffer colorReset else .ok buffer

/-- `format`, between the header and the stream. -/
def formatLine (o : Options) (c : Call) (buffer : Text) : Except Failure Text := do
  let buffer ← (if o.colors = .enable then extend buffer (color c.level) else .ok buffer)
  let buffer ← rowColumns o.columns c.callsite c.level c.moment buffer
  let buffer ← (if o.columns.message then formatColumnMessage c.args buffer else .ok buffer)
  if o.colors = .enable then extend buffer colorReset else .ok buffer

/-- `format` puts the whole buffer together. -/
def formatBuffer (o : Options) (c : Call) (header : Bool) : Except Failure Text := do
  let buffer ← (if header then formatHeader o [] else .ok [])
  formatLine o c buffer

/-! ## What it looks like -/

/-- What switches a color on or off, if there are colors. -/
def tint (o : Options) (code : Text) : Text := if o.colors = .enable then code else []

/-- The last column, with the end of the line. -/
def messageText (c : Columns) (message : Text) : Text :=
  if c.message then colLd.message ++ (message ++ colRd.message) else []

def headerText (o : Options) : Text :=
  tint o colorHeading ++ (headerColumnsText o.columns ++
    (messageText o.columns "message".toList ++ tint o colorReset))

/-- What a line begins with, up to the call site. -/
def lineStart (o : Options) (c : Call) : Text :=
  tint o (color c.level) ++ leftText o.columns c.moment

/-- The line of a call whose call site fits. -/
def lineText (o : Options) (c : Call) : Text :=
  lineStart o c ++ (rightText o.columns c.callsite c.level ++
    (messageText o.columns (texts c.args).flatten ++ tint o colorReset))

/-- What a call has for the stream: its line, and the header in front of it if that is due. -/
def chunkText (o : Options) (c : Call) (header : Bool) : Text :=
  (if header then headerText o else []) ++ lineText o c

/-- The call can be formatted. -/
def Formats (o : Options) (c : Call) (header : Bool) : Prop :=
  (o.columns.callsite = true → CallsiteFits c.callsite) ∧ (chunkText o c header).length ≤ maxSize

instance (o : Options) (c : Call) (header : Bool) : Decidable (Formats o c header) :=
  inferInstanceAs (Decidable (_ ∧ _))

/-- If there is room for the header, there is room without it. -/
theorem Formats.mono {o : Options} {c : Call} (h : Formats o c true) (header : Bool) :
    Formats o c header := by
  cases header with
  | true => exact h
  | false =>
    have hlength := h.2
    refine ⟨h.1, ?_⟩
    simp only [chunkText, if_true, Bool.false_eq_true, if_false, List.length_append,
      List.length_nil] at hlength ⊢
    omega

/-! ## The header -/

theorem writes_tint (o : Options) (code : Text) :
    Writes (fun buffer => if o.colors = .enable then extend buffer code else .ok buffer)
      (tint o code) :=
  (writes_extend code).ite writes_ok

theorem writes_formatHeader (o : Options) : Writes (formatHeader o) (headerText o) := by
  have hmessage := appendStringified_eq
    [.string colLd.message, .string "message".toList, .string colRd.message]
  simp only [texts, text, List.flatten_cons, List.flatten_nil, List.append_nil] at hmessage
  exact (writes_tint o _).bind ((writes_headerColumns _).bind
    ((hmessage.column o.columns.message).bind (writes_tint o _)))

theorem length_tint_le (o : Options) (code : Text) : (tint o code).length ≤ code.length := by
  rw [tint]
  split
  · exact le_rfl
  · exact Nat.zero_le _

theorem length_headerText_le (o : Options) : (headerText o).length ≤ 100 := by
  have hheading := length_tint_le o colorHeading
  have hreset := length_tint_le o colorReset
  have hcolumns := length_headerColumnsText_le o.columns
  have hmessage : (messageText o.columns "message".toList).length ≤ 9 := by
    rw [messageText]
    split <;> decide
  have hcolors : colorHeading.length = 7 ∧ colorReset.length = 4 := by decide
  simp only [headerText, List.length_append]
  omega

theorem formatHeader_eq (o : Options) : formatHeader o [] = .ok (headerText o) := by
  have hlength := length_headerText_le o
  rw [writes_formatHeader o [] (Nat.zero_le _), extend_of_le, List.nil_append]
  rw [List.length_nil, maxSize]
  omega

/-! ## The line -/

theorem writes_formatColumnMessage (args : List Value) :
    Writes (formatColumnMessage args)
      (colLd.message ++ ((texts args).flatten ++ colRd.message)) :=
  (writes_extend _).bind ((appendStringified_eq args).bind (writes_extend _))

theorem writes_formatLine {o : Options} {c : Call}
    (h : o.columns.callsite = true → CallsiteFits c.callsite) :
    Writes (formatLine o c) (lineText o c) := by
  have hrow := writes_rowColumns h c.level c.moment
  have hmessage := (writes_formatColumnMessage c.args).column o.columns.message
  have hall := (writes_tint o (color c.level)).bind (hrow.bind (hmessage.bind
    (writes_tint o colorReset)))
  rw [lineText, lineStart, messageText]
  simp only [List.append_assoc] at hall ⊢
  exact hall

theorem formatLine_of_not_fits {o : Options} {c : Call} (hc : o.columns.callsite = true)
    (h : ¬ CallsiteFits c.callsite) {buffer : Text} (hbuffer : buffer.length ≤ maxSize) :
    formatLine o c buffer = .error (if 22 < (filename c.callsite.file).length ∧
      buffer.length + (lineStart o c).length ≤ maxSize then .undefined else .lengthError) := by
  have hstart : (lineStart o c).length =
      (tint o (color c.level)).length + (leftText o.columns c.moment).length := by
    rw [lineStart, List.length_append]
  have htint : (if o.colors = .enable then extend buffer (color c.level) else .ok buffer) =
      extend buffer (tint o (color c.level)) := writes_tint o (color c.level) buffer hbuffer
  rw [formatLine, htint, hstart]
  by_cases hroom : buffer.length + (tint o (color c.level)).length ≤ maxSize
  · have hlength : (buffer ++ tint o (color c.level)).length ≤ maxSize := by
      rwa [List.length_append]
    rw [extend_of_le hroom]
    simp only [bind, Except.bind, rowColumns_of_not_fits hc h c.level c.moment hlength,
      List.length_append, Nat.add_assoc]
  · rw [extend_of_lt (Nat.not_le.1 hroom), if_neg (by omega)]
    rfl

/-- **When a line fails**, in any buffer: if the name of the file is too long, for which the
behaviour is undefined, once the line has got so far; and else if the number of the line is too long,
or the line itself. -/
theorem formatLine_error_iff (o : Options) (c : Call) (buffer : Text)
    (hbuffer : buffer.length ≤ maxSize) (e : Failure) :
    formatLine o c buffer = .error e ↔
      if o.columns.callsite = true ∧ 22 < (filename c.callsite.file).length then
        e = if buffer.length + (lineStart o c).length ≤ maxSize then .undefined else .lengthError
      else e = .lengthError ∧ (o.columns.callsite = true ∧
          ¬ (-1000 < c.callsite.line.toInt ∧ c.callsite.line.toInt < 10000) ∨
        maxSize < buffer.length + (lineText o c).length) := by
  by_cases hcallsite : o.columns.callsite = true → CallsiteFits c.callsite
  · have hshort : ¬ (o.columns.callsite = true ∧ 22 < (filename c.callsite.file).length) :=
      fun h => absurd (hcallsite h.1).1 (Nat.not_le.2 h.2)
    have hline : ¬ (o.columns.callsite = true ∧
        ¬ (-1000 < c.callsite.line.toInt ∧ c.callsite.line.toInt < 10000)) :=
      fun h => h.2 (hcallsite h.1).2
    rw [if_neg hshort, or_iff_right hline, writes_formatLine hcallsite buffer hbuffer, extend]
    split
    · rename_i hroom
      simp [Nat.not_lt.2 hroom]
    · rename_i hroom
      simp [Nat.not_le.1 hroom, eq_comm]
  · obtain ⟨hc, hnot⟩ := Classical.not_imp.1 hcallsite
    rw [formatLine_of_not_fits hc hnot hbuffer, Except.error.injEq]
    by_cases hname : 22 < (filename c.callsite.file).length
    · simp only [hc, hname, true_and, and_self, if_true]
      exact eq_comm
    · have hline : ¬ (-1000 < c.callsite.line.toInt ∧ c.callsite.line.toInt < 10000) := fun h =>
        hnot ⟨Nat.not_lt.1 hname, h⟩
      simp only [hc, hname, hline, false_and, and_false, if_false, not_false_eq_true, and_self,
        true_or, and_true]
      exact eq_comm

/-- The first message of `main`. -/
def resolverResult : Call where
  types := 0
  callsite := ⟨"src/main.cpp".toList, 390⟩
  level := .info
  now := 7
  moment := ⟨"2024-01-01 12:00:00".toList, by decide, 7, by decide, 0⟩
  args := [.string "Resolver result: ".toList, .string "10.0.0.1".toList]

/-- A file whose name has a character too many. -/
theorem formatLine_error_iff_name :
    formatLine defaultSink
      { resolverResult with callsite := ⟨"src/device_payloads_bad.cpp".toList, 50⟩ } [] =
        .error .undefined := by
  rw [formatLine_error_iff _ _ [] (Nat.zero_le _)]
  decide +kernel

/-! ## The buffer -/

/-- **What there is for the stream.** -/
theorem formatBuffer_toOption (o : Options) (c : Call) (header : Bool) :
    (formatBuffer o c header).toOption =
      if Formats o c header then some (chunkText o c header) else none := by
  have hbuffer : ∃ buffer : Text, buffer.length ≤ 100 ∧
      formatBuffer o c header = formatLine o c buffer ∧
        chunkText o c header = buffer ++ lineText o c := by
    cases header with
    | true =>
      refine ⟨headerText o, length_headerText_le o, ?_, rfl⟩
      simp only [formatBuffer, if_true, formatHeader_eq, bind, Except.bind]
    | false => exact ⟨[], Nat.zero_le _, rfl, rfl⟩
  obtain ⟨buffer, hshort, hcode, htext⟩ := hbuffer
  have hlength : buffer.length ≤ maxSize := by
    rw [maxSize]
    omega
  have hformats : Formats o c header ↔ (o.columns.callsite = true → CallsiteFits c.callsite) ∧
      buffer.length + (lineText o c).length ≤ maxSize := by
    rw [Formats, htext, List.length_append]
  rw [hcode, htext]
  by_cases hcallsite : o.columns.callsite = true → CallsiteFits c.callsite
  · rw [writes_formatLine hcallsite buffer hlength, extend]
    by_cases hroom : buffer.length + (lineText o c).length ≤ maxSize
    · rw [if_pos hroom, if_pos (hformats.2 ⟨hcallsite, hroom⟩)]
      rfl
    · rw [if_neg hroom, if_neg fun h => hroom (hformats.1 h).2]
      rfl
  · obtain ⟨hc, hnot⟩ := Classical.not_imp.1 hcallsite
    rw [formatLine_of_not_fits hc hnot hlength, if_neg fun h => hcallsite (hformats.1 h).1]
    rfl

/-- A message that leaves room for what is put around it can be formatted, with the header and
without it. -/
theorem formats_of_short {o : Options} {c : Call}
    (hcallsite : o.columns.callsite = true → CallsiteFits c.callsite)
    (hshort : (texts c.args).flatten.length ≤ maxSize - 300) (header : Bool) :
    Formats o c header := by
  refine Formats.mono ⟨hcallsite, ?_⟩ header
  have hheader := length_headerText_le o
  have hcolor := length_tint_le o (color c.level)
  have hcolors : (color c.level).length ≤ 7 := by
    cases c.level <;> decide
  have hleft := length_leftText_le o.columns c.moment
  have hright : (rightText o.columns c.callsite c.level).length ≤ 35 := by
    rw [length_rightText hcallsite, rightWidth]
    split <;> split <;> decide
  have hmessage : (messageText o.columns (texts c.args).flatten).length ≤
      2 + (texts c.args).flatten.length := by
    rw [messageText]
    split
    · simp only [colLd, colRd, List.length_append, List.length_cons, List.length_nil]
      omega
    · exact Nat.zero_le _
  have hreset : (tint o colorReset).length ≤ 4 := length_tint_le o colorReset
  have hsize : 300 ≤ maxSize := by decide
  simp only [chunkText, if_true, lineText, lineStart, List.length_append]
  omega

end WsTestClient.Log
