import WsTestClient.Log.Sink

/-!
# The log of this program

The logger is a library, and what can go wrong in it depends on its clients.  This file is about this
one: it logs from four files, through the default sink.

* `callsiteFits_of_program` — the names of the files are short enough, and so are the files, wherever
  they are compiled.
* `log_complete` — so nothing that is logged is lost.
-/

set_option autoImplicit false

namespace WsTestClient.Log

open Transition

/-! ## Call sites -/

/-- The files that use the logger, and how many lines they have. -/
def sourceFiles : List (Text × Int) :=
  [("main.cpp".toList, 463), ("util.cpp".toList, 28), ("device_payloads.cpp".toList, 67),
    ("coro_read.hpp".toList, 105)]

/-- A separator of `find_last_of`. -/
def IsSeparator (c : Char) : Prop := c = '/' ∨ c = '\\'

/-- The call site is a line of the program, whose file is in the directory `dir`. -/
inductive OfProgram : Callsite → Prop
  | intro {dir name : Text} {lines : Int} {line : Int32} (hname : (name, lines) ∈ sourceFiles)
      (hdir : ∀ c ∈ dir.getLast?, IsSeparator c) (hline : 1 ≤ line.toInt ∧ line.toInt ≤ lines) :
      OfProgram ⟨dir ++ name, line⟩

theorem filename_append {dir name : Text} (hname : ∀ c ∈ name, ¬ IsSeparator c)
    (hdir : ∀ c ∈ dir.getLast?, IsSeparator c) : filename (dir ++ name) = name := by
  rw [filename, List.reverse_append, Decimal.takeWhile_append_rest, List.reverse_reverse]
  · intro c hc
    simpa [IsSeparator] using hname c (List.mem_reverse.1 hc)
  · intro c hc
    rw [List.head?_reverse] at hc
    rcases hdir c hc with rfl | rfl
    · rfl
    · rfl

theorem sourceFiles_fit : ∀ file ∈ sourceFiles,
    (∀ c ∈ file.1, ¬ IsSeparator c) ∧ file.1.length ≤ 22 ∧ file.2 < 10000 := by
  simp [sourceFiles, IsSeparator]

/-- **The call sites of the program fit**, in whatever directory it is compiled. -/
theorem callsiteFits_of_program {cs : Callsite} (h : OfProgram cs) : CallsiteFits cs := by
  cases h with
  | @intro dir name lines line hname hdir hline =>
    obtain ⟨hplain, hshort, hlines⟩ := sourceFiles_fit _ hname
    refine ⟨?_, ?_⟩
    · rw [filename_append hplain hdir]
      exact hshort
    · dsimp only at hlines ⊢
      omega

/-! ## Messages -/

/-- A call of the program, whose message leaves the logger some room. -/
structure Logs (c : Call) : Prop where
  callsite : OfProgram c.callsite
  short : (texts c.args).flatten.length ≤ maxSize - 300

/-- The calls of thread `t`. -/
def SinkAction.calls (t : Nat) : SinkAction → List Call
  | .call t' c => if t' = t then [c] else []
  | _ => []

/-- The default sink lets everything through. -/
theorem accepts_defaultSink (c : Call) : accepts defaultSink c = true := by
  rw [accepts, decide_eq_true_iff]
  cases c.level <;> decide

theorem accepted_eq_calls (a : SinkAction) (t : Nat) :
    a.accepted defaultSink t = a.calls t := by
  cases a with
  | call t' c => simp [SinkAction.accepted, SinkAction.calls, accepts_defaultSink]
  | _ => rfl

theorem formats_of_logs {c : Call} (h : Logs c) (header : Bool) : Formats defaultSink c header :=
  formats_of_short (fun _ => callsiteFits_of_program h.callsite) h.short header

/-- Calls that can all be formatted all come to something. -/
theorem outcome_of_logs {found : List (Call × Bool)} (h : ∀ p ∈ found, Logs p.1) :
    outcome defaultSink found = found.map fun p => chunkText defaultSink p.1 p.2 := by
  rw [outcome, ← List.filterMap_eq_map']
  refine List.filterMap_congr fun p hp => ?_
  exact if_pos (formats_of_logs (h p hp) p.2)

/-- **Nothing is lost.**  Whatever the threads log and however they are interleaved, a thread that
has returned has written exactly the lines of its messages, in order, some with the header in front;
all that is written is flushed; and when all threads have returned there is a header, if there is
anything. -/
theorem log_complete (acts : List SinkAction) (s : Sink)
    (hrun : run (sinkStep defaultSink) .init acts = some s)
    (hcalls : ∀ t c, .call t c ∈ acts → Logs c) :
    (∀ t, s.threads t = .idle → ∃ found : List (Call × Bool),
        found.map Prod.fst = acts.flatMap (SinkAction.calls t) ∧
          s.written t = found.map fun p =>
            (if p.2 then headerText defaultSink else []) ++ lineText defaultSink p.1) ∧
      s.flushed = s.output.length ∧
        ((∀ t, s.threads t = .idle) → s.output ≠ [] → ∃ chunk ∈ s.output,
          chunk.text = headerText defaultSink ++ lineText defaultSink chunk.call) := by
  refine ⟨fun t hidle => ?_, (flushed_run hrun).all rfl, fun hidle hne => ?_⟩
  · obtain ⟨found, htold⟩ := told_run hrun (told_init defaultSink t)
    have hfound := htold.calls
    have htexts := htold.texts
    rw [hidle, List.nil_append, List.flatMap_congr fun a _ => accepted_eq_calls a t] at hfound
    simp only [ThreadPc.waiting, List.append_nil] at hfound
    rw [hidle] at htexts
    simp only [ThreadPc.pending, List.append_nil] at htexts
    refine ⟨found, hfound, htexts.trans (outcome_of_logs fun p hp => ?_)⟩
    have hmem : p.1 ∈ acts.flatMap (SinkAction.calls t) := hfound ▸ List.mem_map_of_mem hp
    obtain ⟨a, ha, hp⟩ := List.mem_flatMap.1 hmem
    cases a with
    | call t' c =>
      have hc : t' = t ∧ p.1 = c := by simpa [SinkAction.calls] using hp
      exact hc.2 ▸ hcalls t' c ha
    | _ => simp [SinkAction.calls] at hp
  · have hfits : ∀ t c, .call t c ∈ acts → Formats defaultSink c true :=
      fun t c hc => formats_of_logs (hcalls t c hc) true
    obtain ⟨chunk, hchunk, hheader⟩ := someHeader_run hrun hfits hidle hne
    have htext := (made_run hrun).chunks chunk hchunk
    rw [chunkText, if_pos hheader] at htext
    exact ⟨chunk, hchunk, htext⟩

theorem ofProgram_main {line : Int32} (hline : 1 ≤ line.toInt ∧ line.toInt ≤ 463) :
    OfProgram ⟨"src/main.cpp".toList, line⟩ := by
  have hfile : "src/main.cpp".toList = "src/".toList ++ "main.cpp".toList := rfl
  rw [hfile]
  exact .intro List.mem_cons_self (by simp [IsSeparator]) hline

/-- The first two messages of `main`, on two threads. -/
theorem log_complete_two :
    ∃ s, run (sinkStep defaultSink) .init twoFirst = some s ∧
      (∃ found : List (Call × Bool), found.map Prod.fst = [lineCount] ∧
        s.written 1 = found.map fun p =>
          (if p.2 then headerText defaultSink else []) ++ lineText defaultSink p.1) ∧
      s.flushed = s.output.length := by
  have hsome : (run (sinkStep defaultSink) .init twoFirst).isSome = true := by decide +kernel
  obtain ⟨s, hs⟩ := Option.isSome_iff_exists.1 hsome
  have hcalls : ∀ t c, .call t c ∈ twoFirst → Logs c := by
    intro t c hc
    have hc' : t = 0 ∧ c = resolverResult ∨ t = 1 ∧ c = lineCount := by simpa [twoFirst] using hc
    rcases hc' with ⟨-, rfl⟩ | ⟨-, rfl⟩
    · exact ⟨ofProgram_main (by decide), by decide⟩
    · exact ⟨ofProgram_main (by decide), by decide⟩
  have hidle : s.threads 1 = .idle := by
    -- its last step is to write
    have hlast : run (sinkStep defaultSink) .init (twoFirst.dropLast ++ [.write 1]) = some s := hs
    obtain ⟨m, -, hm⟩ := run_concat_eq_some.1 hlast
    cases sinkStep_moves hm with
    | writes _ => simp
  obtain ⟨hwritten, hflushed, -⟩ := log_complete twoFirst s hs hcalls
  exact ⟨s, hs, hwritten 1 hidle, hflushed⟩

end WsTestClient.Log
