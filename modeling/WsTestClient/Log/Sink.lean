import WsTestClient.Log.Format
import WsTestClient.Transition

/-!
# A sink that all threads write to

All threads of the program log to one `Sink`.  Its function `format` puts a message together in a
buffer of the thread and then writes the buffer to the stream under a mutex.  The first message is to
bring the header along; who finds `print_header` set clears it and formats the header, under a mutex
again.  But that one is a local variable of a function template: there is one for each combination of
argument types, here called the `types` of a call.

`sinkStep` runs this in small steps, interleaved by their labels; reading `print_header` is one of
them, and clearing it another.

* `messages_once` — each thread's messages come out once and in order, those that the verbosity lets
  through and that can be formatted.
* `headers_le` — each combination of argument types brings at most one header along, and when all
  calls have returned there is one, if anything was written at all.  That there can be two is seen in
  `headers_le_two`.
* `header_first` — after a first call that is over before any other begins, as in `main`, the header
  is at the top and nowhere else.
* `flushes_spaced` — with a flush interval, the stream is flushed no more often than that; without
  one, nothing is ever left in it.
-/

set_option autoImplicit false

namespace WsTestClient.Log

open Transition

/-! ## The threads -/

/-- Where a thread is in `format`. -/
inductive ThreadPc
  | idle
  /-- Before the mutex of the header. -/
  | entered (c : Call)
  /-- It has found `print_header` set, and holds the mutex. -/
  | claiming (c : Call)
  /-- The buffer is complete, with the header in front if `header`. -/
  | formatted (c : Call) (header : Bool) (buffer : Text)

/-- What is written to the stream at once, and where it comes from. -/
structure Chunk where
  thread : Nat
  call : Call
  header : Bool
  text : Text

structure Sink where
  printHeader : Bool
  /-- `header_mutex` of each instantiation, and who holds it. -/
  headerMutex : Nat → Option Nat
  threads : Nat → ThreadPc
  output : List Chunk
  lastFlushed : Int
  /-- The readings of the calls that have flushed the stream. -/
  flushes : List Int
  /-- How much of the output has been flushed. -/
  flushed : Nat

def Sink.init : Sink where
  printHeader := true
  headerMutex _ := none
  threads _ := .idle
  output := []
  lastFlushed := 0
  flushes := []
  flushed := 0

inductive SinkAction
  /-- Thread `t` calls `format`. -/
  | call (t : Nat) (c : Call)
  /-- Thread `t` takes the mutex and looks at `print_header`. -/
  | look (t : Nat)
  /-- Thread `t` clears `print_header` and formats the header. -/
  | claim (t : Nat)
  /-- Thread `t` writes its buffer. -/
  | write (t : Nat)

namespace Sink

def setThread (s : Sink) (t : Nat) (pc : ThreadPc) : Sink :=
  { s with threads := Function.update s.threads t pc }

/-- The line is formatted; if that throws, the buffer is lost. -/
def format (o : Options) (s : Sink) (t : Nat) (c : Call) (header : Bool) : Sink :=
  match formatBuffer o c header with
  | .ok buffer => s.setThread t (.formatted c header buffer)
  | .error _ => s.setThread t .idle

/-- All that is in the stream. -/
def stream (s : Sink) : Text := (s.output.map Chunk.text).flatten

/-- The end of `format`, behind the mutex of the stream. -/
def flush (o : Options) (s : Sink) (now : Int) : Sink :=
  if o.flushInterval = 0 then
    { s with flushes := s.flushes ++ [now], flushed := s.output.length }
  else if o.flushInterval < now - s.lastFlushed then
    { s with lastFlushed := now, flushes := s.flushes ++ [now], flushed := s.output.length }
  else s

end Sink

/-- The verbosity of the sink lets the call through. -/
def accepts (o : Options) (c : Call) : Bool := decide (c.level.toNat ≤ o.verbosity.toNat)

def sinkStep (o : Options) (s : Sink) : SinkAction → Option Sink
  | .call t c =>
    match s.threads t with
    | .idle => some (if accepts o c then s.setThread t (.entered c) else s)
    | _ => none
  | .look t =>
    match s.threads t with
    | .entered c =>
      if s.headerMutex c.types = none then
        some (if s.printHeader then
          { s.setThread t (.claiming c) with
            headerMutex := Function.update s.headerMutex c.types (some t) }
        else s.format o t c false)
      else none
    | _ => none
  | .claim t =>
    match s.threads t with
    | .claiming c =>
      let s : Sink := { s with
        printHeader := false
        headerMutex := Function.update s.headerMutex c.types none }
      some (s.format o t c true)
    | _ => none
  | .write t =>
    match s.threads t with
    | .formatted c header buffer =>
      let s : Sink := { s.setThread t .idle with output := s.output ++ [⟨t, c, header, buffer⟩] }
      some (s.flush o c.now)
    | _ => none

/-! ## What a step does -/

/-- Where a thread is when its message has been formatted, or could not be. -/
def ThreadPc.ready (o : Options) (c : Call) (header : Bool) : ThreadPc :=
  if Formats o c header then .formatted c header (chunkText o c header) else .idle

theorem Sink.format_eq (o : Options) (s : Sink) (t : Nat) (c : Call) (header : Bool) :
    s.format o t c header = s.setThread t (.ready o c header) := by
  have hbuffer := formatBuffer_toOption o c header
  rw [format, ThreadPc.ready]
  split
  · rename_i buffer hok
    by_cases h : Formats o c header
    · rw [hok, if_pos h] at hbuffer
      rw [if_pos h, Option.some.inj hbuffer]
    · rw [hok, if_neg h] at hbuffer
      simp [Except.toOption] at hbuffer
  · rename_i e he
    by_cases h : Formats o c header
    · rw [he, if_pos h] at hbuffer
      simp [Except.toOption] at hbuffer
    · rw [if_neg h]

/-- What a step of the sink does. -/
inductive SinkMoves (o : Options) (s : Sink) : SinkAction → Sink → Prop
  | ignores {t : Nat} {c : Call} (hpc : s.threads t = .idle) (ha : accepts o c = false) :
      SinkMoves o s (.call t c) s
  | enters {t : Nat} {c : Call} (hpc : s.threads t = .idle) (ha : accepts o c = true) :
      SinkMoves o s (.call t c) (s.setThread t (.entered c))
  | claims {t : Nat} {c : Call} (hpc : s.threads t = .entered c)
      (hfree : s.headerMutex c.types = none) (hheader : s.printHeader = true) :
      SinkMoves o s (.look t) { s.setThread t (.claiming c) with
        headerMutex := Function.update s.headerMutex c.types (some t) }
  | passes {t : Nat} {c : Call} (hpc : s.threads t = .entered c) (hheader : s.printHeader = false) :
      SinkMoves o s (.look t) (s.setThread t (.ready o c false))
  | formats {t : Nat} {c : Call} (hpc : s.threads t = .claiming c) :
      SinkMoves o s (.claim t)
        { s.setThread t (.ready o c true) with
          printHeader := false
          headerMutex := Function.update s.headerMutex c.types none }
  | writes {t : Nat} {c : Call} {header : Bool} {buffer : Text}
      (hpc : s.threads t = .formatted c header buffer) :
      SinkMoves o s (.write t)
        (({ s.setThread t .idle with output := s.output ++ [⟨t, c, header, buffer⟩] } : Sink).flush
          o c.now)

theorem sinkStep_moves {o : Options} {s s' : Sink} {a : SinkAction} (h : sinkStep o s a = some s') :
    SinkMoves o s a s' := by
  cases a with
  | call t c =>
    rw [sinkStep] at h
    split at h
    · rename_i hpc
      split at h
      · rename_i ha
        exact Option.some.inj h ▸ .enters hpc ha
      · rename_i ha
        exact Option.some.inj h ▸ .ignores hpc (by simpa using ha)
    · simp at h
  | look t =>
    rw [sinkStep] at h
    split at h
    · rename_i c hpc
      rw [Option.ite_none_right_eq_some] at h
      obtain ⟨hfree, h⟩ := h
      split at h
      · rename_i hheader
        exact Option.some.inj h ▸ .claims hpc hfree hheader
      · rename_i hheader
        rw [Sink.format_eq] at h
        exact Option.some.inj h ▸ .passes hpc (by simpa using hheader)
    · simp at h
  | claim t =>
    rw [sinkStep] at h
    split at h
    · rename_i c hpc
      dsimp only at h
      rw [Sink.format_eq] at h
      exact Option.some.inj h ▸ .formats hpc
    · simp at h
  | write t =>
    rw [sinkStep] at h
    split at h
    · rename_i c header buffer hpc
      exact Option.some.inj h ▸ .writes hpc
    · simp at h

/-- Flushing leaves alone what the threads work with. -/
theorem Sink.flush_frame (o : Options) (s : Sink) (now : Int) : ∃ lastFlushed flushes flushed,
    s.flush o now = { s with lastFlushed := lastFlushed, flushes := flushes, flushed := flushed } := by
  rw [flush]
  split
  · exact ⟨_, _, _, rfl⟩
  · split
    · exact ⟨_, _, _, rfl⟩
    · exact ⟨_, _, _, rfl⟩

@[simp] theorem Sink.flush_threads (o : Options) (s : Sink) (now : Int) :
    (s.flush o now).threads = s.threads := by
  obtain ⟨_, _, _, h⟩ := s.flush_frame o now
  rw [h]

@[simp] theorem Sink.flush_output (o : Options) (s : Sink) (now : Int) :
    (s.flush o now).output = s.output := by
  obtain ⟨_, _, _, h⟩ := s.flush_frame o now
  rw [h]

@[simp] theorem Sink.flush_printHeader (o : Options) (s : Sink) (now : Int) :
    (s.flush o now).printHeader = s.printHeader := by
  obtain ⟨_, _, _, h⟩ := s.flush_frame o now
  rw [h]

@[simp] theorem Sink.flush_headerMutex (o : Options) (s : Sink) (now : Int) :
    (s.flush o now).headerMutex = s.headerMutex := by
  obtain ⟨_, _, _, h⟩ := s.flush_frame o now
  rw [h]

@[simp] theorem Sink.setThread_self (s : Sink) (t : Nat) (pc : ThreadPc) :
    (s.setThread t pc).threads t = pc := Function.update_self ..

theorem Sink.setThread_of_ne (s : Sink) {t t' : Nat} (h : t' ≠ t) (pc : ThreadPc) :
    (s.setThread t pc).threads t' = s.threads t' := Function.update_of_ne h ..

section
variable {threads : Nat → ThreadPc} (P : ThreadPc → Prop) {t u : Nat} {pc : ThreadPc}

/-- When thread `t` has moved, any thread is where that one has got, or where it was. -/
theorem moved_or (h : P (Function.update threads t pc u)) : u = t ∧ P pc ∨ u ≠ t ∧ P (threads u) := by
  by_cases hut : u = t
  · rw [hut, Function.update_self] at h
    exact .inl ⟨hut, h⟩
  · rw [Function.update_of_ne hut] at h
    exact .inr ⟨hut, h⟩

/-- A thread at a place where `t` is not has not moved. -/
theorem unmoved (h : P (threads u)) (ht : ¬ P (threads t)) : P (Function.update threads t pc u) := by
  have hut : u ≠ t := by
    rintro rfl
    exact ht h
  rwa [Function.update_of_ne hut]

end

/-! ## What is ready -/

section
variable {o : Options} {c : Call} {header : Bool}

/-- The call a thread has yet to format. -/
def ThreadPc.waiting : ThreadPc → List Call
  | .entered c | .claiming c => [c]
  | _ => []

/-- What a thread has yet to write. -/
def ThreadPc.pending : ThreadPc → List Text
  | .formatted _ _ buffer => [buffer]
  | _ => []

/-- What comes of calls, each of which is to bring the header along or not. -/
def outcome (o : Options) (found : List (Call × Bool)) : List Text :=
  found.filterMap fun p => if Formats o p.1 p.2 then some (chunkText o p.1 p.2) else none

theorem waiting_ready : (ThreadPc.ready o c header).waiting = [] := by
  rw [ThreadPc.ready]
  split <;> rfl

theorem pending_ready : (ThreadPc.ready o c header).pending = outcome o [(c, header)] := by
  rw [ThreadPc.ready, outcome, List.filterMap_cons, List.filterMap_nil]
  split <;> rfl

theorem ready_ne_entered (d : Call) : ThreadPc.ready o c header ≠ .entered d := by
  rw [ThreadPc.ready]
  split <;> simp

theorem ready_ne_claiming (d : Call) : ThreadPc.ready o c header ≠ .claiming d := by
  rw [ThreadPc.ready]
  split <;> simp

theorem ready_eq_formatted {d : Call} {h : Bool} {buffer : Text}
    (heq : ThreadPc.ready o c header = .formatted d h buffer) :
    d = c ∧ h = header ∧ buffer = chunkText o c header := by
  rw [ThreadPc.ready] at heq
  split at heq
  · obtain ⟨rfl, rfl, rfl⟩ := ThreadPc.formatted.inj heq
    exact ⟨rfl, rfl, rfl⟩
  · simp at heq

end

/-! ## Messages -/

/-- What thread `t` has written. -/
def Sink.written (s : Sink) (t : Nat) : List Text :=
  (s.output.filter fun chunk => chunk.thread = t).map Chunk.text

/-- The call, if it is one of thread `t` that the verbosity lets through. -/
def SinkAction.accepted (o : Options) (t : Nat) : SinkAction → List Call
  | .call t' c => if t' = t ∧ accepts o c = true then [c] else []
  | _ => []

/-- Thread `t` has been asked for `calls`, and those it has looked up `print_header` for have come to
what they should. -/
structure Told (o : Options) (t : Nat) (s : Sink) (calls : List Call) (found : List (Call × Bool)) :
    Prop where
  calls : found.map Prod.fst ++ (s.threads t).waiting = calls
  texts : s.written t ++ (s.threads t).pending = outcome o found

/-- A step of thread `u` that writes nothing. -/
theorem Told.move {o : Options} {t : Nat} {s s' : Sink} {calls : List Call}
    {found : List (Call × Bool)} (hi : Told o t s calls found) (u : Nat) (pc : ThreadPc)
    (a : SinkAction) (looked : List (Call × Bool))
    (hthreads : s'.threads = Function.update s.threads u pc) (houtput : s'.output = s.output)
    (hother : u ≠ t → a.accepted o t = [])
    (hwaiting : looked.map Prod.fst ++ pc.waiting = (s.threads u).waiting ++ a.accepted o u)
    (hpending : pc.pending = (s.threads u).pending ++ outcome o looked) :
    ∃ found', Told o t s' (calls ++ a.accepted o t) found' := by
  have hwritten : s'.written t = s.written t := by rw [Sink.written, houtput, Sink.written]
  by_cases hu : u = t
  · subst hu
    refine ⟨found ++ looked, ?_, ?_⟩
    · rw [hthreads, Function.update_self, List.map_append, List.append_assoc, hwaiting, ← hi.calls,
        List.append_assoc]
    · rw [hthreads, Function.update_self, hwritten, hpending, ← List.append_assoc, hi.texts, outcome,
        outcome, outcome, List.filterMap_append]
  · have hsame : s'.threads t = s.threads t := by
      rw [hthreads, Function.update_of_ne (Ne.symm hu)]
    refine ⟨found, ?_, ?_⟩
    · rw [hsame, hother hu, List.append_nil]
      exact hi.calls
    · rw [hsame, hwritten]
      exact hi.texts

/-- A step has what is called for wait, what waits pend, and what pends written. -/
theorem told_step {o : Options} {s s' : Sink} {a : SinkAction} (h : SinkMoves o s a s') {t : Nat}
    {calls : List Call} {found : List (Call × Bool)} (hi : Told o t s calls found) :
    ∃ found', Told o t s' (calls ++ a.accepted o t) found' := by
  cases h with
  | ignores hpc ha => exact ⟨found, by simpa [SinkAction.accepted, ha] using hi⟩
  | @enters u c hpc ha =>
    refine hi.move u (.entered c) (.call u c) [] rfl rfl (fun hu => ?_) ?_ ?_
    · simp [SinkAction.accepted, hu]
    · simp [SinkAction.accepted, ha, hpc, ThreadPc.waiting]
    · simp [hpc, ThreadPc.pending, outcome]
  | @claims u c hpc _ _ =>
    refine hi.move u (.claiming c) (.look u) [] rfl rfl (fun _ => rfl) ?_ ?_
    · simp [SinkAction.accepted, hpc, ThreadPc.waiting]
    · simp [hpc, ThreadPc.pending, outcome]
  | @passes u c hpc _ =>
    refine hi.move u (.ready o c false) (.look u) [(c, false)] rfl rfl (fun _ => rfl) ?_ ?_
    · rw [hpc, waiting_ready]
      rfl
    · rw [hpc, pending_ready]
      rfl
  | @formats u c hpc =>
    refine hi.move u (.ready o c true) (.claim u) [(c, true)] rfl rfl (fun _ => rfl) ?_ ?_
    · rw [hpc, waiting_ready]
      rfl
    · rw [hpc, pending_ready]
      rfl
  | @writes u c header buffer hpc =>
    have hcalls := hi.calls
    have htexts := hi.texts
    refine ⟨found, ?_, ?_⟩
    · by_cases hu : t = u
      · subst hu
        simpa [SinkAction.accepted, hpc, ThreadPc.waiting, Sink.setThread] using hcalls
      · simpa [SinkAction.accepted, Sink.setThread, hu] using hcalls
    · by_cases hu : t = u
      · subst hu
        simpa [hpc, ThreadPc.pending, Sink.written, Sink.setThread] using htexts
      · simpa [Sink.written, Sink.setThread, hu, Ne.symm hu] using htexts

theorem told_run {o : Options} {s s' : Sink} {acts : List SinkAction}
    (hrun : run (sinkStep o) s acts = some s') {t : Nat} {calls : List Call}
    {found : List (Call × Bool)} (hi : Told o t s calls found) :
    ∃ found', Told o t s' (calls ++ acts.flatMap (SinkAction.accepted o t)) found' := by
  induction acts generalizing s calls found with
  | nil =>
    obtain rfl := Option.some.inj hrun
    exact ⟨found, by simpa using hi⟩
  | cons a acts ih =>
    obtain ⟨m, hm, hrun⟩ := run_cons_eq_some.1 hrun
    obtain ⟨found', hi'⟩ := told_step (sinkStep_moves hm) hi
    rw [List.flatMap_cons, ← List.append_assoc]
    exact ih hrun hi'

theorem told_init (o : Options) (t : Nat) : Told o t .init [] [] := ⟨rfl, rfl⟩

/-- A message with arguments of other types. -/
def lineCount : Call where
  types := 1
  callsite := ⟨"src/main.cpp".toList, 404⟩
  level := .info
  now := 7
  moment := { resolverResult.moment with threadIndex := 1 }
  args := [.string "File Line count: ".toList, .int ⟨63, by decide, 5, by decide, by decide⟩]

/-- Two threads find `print_header` set, in critical sections of different instantiations. -/
def twoFirst : List SinkAction :=
  [.call 0 resolverResult, .call 1 lineCount, .look 0, .look 1, .claim 1, .claim 0, .write 0, .write 1]

/-- The thread is about to write a header for instantiation `k`. -/
def ThreadPc.bears (k : Nat) : ThreadPc → Bool
  | .formatted c header _ => header && decide (c.types = k)
  | _ => false

/-- The thread is inside the critical section of instantiation `k`. -/
def ThreadPc.claims (k : Nat) : ThreadPc → Bool
  | .claiming c => decide (c.types = k)
  | _ => false

theorem claims_ready (o : Options) (c : Call) (header : Bool) (k : Nat) :
    (ThreadPc.ready o c header).claims k = false := by
  rw [ThreadPc.ready]
  split <;> rfl

theorem bears_ready (o : Options) {c : Call} {header : Bool} {k : Nat}
    (h : header = false ∨ c.types ≠ k) : (ThreadPc.ready o c header).bears k = false := by
  rw [ThreadPc.ready]
  split
  · rcases h with rfl | hk
    · rfl
    · simp [ThreadPc.bears, hk]
  · rfl

/-- How many headers instantiation `k` has written. -/
def Sink.headers (s : Sink) (k : Nat) : Nat :=
  s.output.countP fun chunk => chunk.header && decide (chunk.call.types = k)

/-- Who brings the header along for instantiation `k`: nobody, the thread in its critical section, a
thread behind it, or a message that is written. -/
structure OneHeader (s : Sink) (k : Nat) : Prop where
  cleared : (0 < s.headers k ∨ ∃ t, (s.threads t).bears k = true) → s.printHeader = false
  claiming : ∀ t, (s.threads t).claims k = true → s.headerMutex k = some t ∧ s.headers k = 0 ∧
    ∀ u, (s.threads u).bears k = false
  bearer : ∀ t, (s.threads t).bears k = true → s.headers k = 0 ∧
    ∀ u, (s.threads u).bears k = true → u = t
  once : s.headers k ≤ 1

theorem oneHeader_init (k : Nat) : OneHeader .init k := by
  constructor <;> simp [Sink.init, Sink.headers, ThreadPc.bears, ThreadPc.claims]

/-- A thread moves on, and is no concern of instantiation `k` behind its step. -/
theorem OneHeader.quiet {s s' : Sink} {k t : Nat} {pc : ThreadPc} (hi : OneHeader s k)
    (hthreads : s'.threads = Function.update s.threads t pc) (hbears : pc.bears k = false)
    (hclaims : pc.claims k = false) (hheaders : s'.headers k = s.headers k)
    (hprint : s.printHeader = false → s'.printHeader = false)
    (hmutex : s'.headerMutex k = s.headerMutex k) : OneHeader s' k := by
  have hback : ∀ u, (s'.threads u).bears k = true → (s.threads u).bears k = true := by
    intro u hu
    rw [hthreads] at hu
    exact ((moved_or (ThreadPc.bears k · = true) hu).resolve_left (by simp [hbears])).2
  refine ⟨fun h => hprint (hi.cleared ?_), fun u hu => ?_, fun u hu => ?_, hheaders ▸ hi.once⟩
  · rw [hheaders] at h
    exact h.imp_right fun ⟨u, hu⟩ => ⟨u, hback u hu⟩
  · rw [hthreads] at hu
    have hbefore := (moved_or (ThreadPc.claims k · = true) hu).resolve_left (by simp [hclaims])
    obtain ⟨hlock, hzero, hnone⟩ := hi.claiming u hbefore.2
    refine ⟨hmutex.trans hlock, hheaders.trans hzero, fun v => ?_⟩
    by_contra hv
    exact absurd (hnone v) (by simpa using hback v (by simpa using hv))
  · obtain ⟨hzero, hunique⟩ := hi.bearer u (hback u hu)
    exact ⟨hheaders.trans hzero, fun v hv => hunique v (hback v hv)⟩

/-- The critical section of instantiation `k` is entered: the header is still there for the taking. -/
theorem OneHeader.claim {s : Sink} {k t : Nat} {c : Call} (hi : OneHeader s k) (hk : c.types = k)
    (hfree : s.headerMutex k = none) (hheader : s.printHeader = true) :
    OneHeader { s.setThread t (.claiming c) with
      headerMutex := Function.update s.headerMutex c.types (some t) } k := by
  have hnone : ¬ (0 < s.headers k ∨ ∃ u, (s.threads u).bears k = true) := fun h =>
    absurd (hi.cleared h) (by simp [hheader])
  have hbears : ∀ u, ((s.setThread t (.claiming c)).threads u).bears k ≠ true := by
    intro u hu
    rcases moved_or (ThreadPc.bears k · = true) hu with ⟨-, hu⟩ | ⟨-, hu⟩
    · simp [ThreadPc.bears] at hu
    · exact hnone (.inr ⟨u, hu⟩)
  have hzero : s.headers k = 0 := by
    by_contra hpos
    exact hnone (.inl (Nat.pos_of_ne_zero hpos))
  refine ⟨?_, fun u hu => ?_, fun u hu => ?_, hi.once⟩
  · rintro (hpos | ⟨u, hu⟩)
    · exact absurd (.inl hpos) hnone
    · exact absurd hu (hbears u)
  · rcases moved_or (ThreadPc.claims k · = true) hu with ⟨rfl, -⟩ | ⟨-, hu⟩
    · have hlock : Function.update s.headerMutex c.types (some u) k = some u := by
        rw [← hk, Function.update_self]
      exact ⟨hlock, hzero, fun v => Bool.eq_false_iff.2 (hbears v)⟩
    · rw [(hi.claiming u hu).1] at hfree
      simp at hfree
  · exact absurd hu (hbears u)

/-- It is left, with the header. -/
theorem OneHeader.leave {o : Options} {s : Sink} {k t : Nat} {c : Call} (hi : OneHeader s k)
    (hpc : s.threads t = .claiming c) (hk : c.types = k) :
    OneHeader { s.setThread t (.ready o c true) with
      printHeader := false
      headerMutex := Function.update s.headerMutex c.types none } k := by
  obtain ⟨hlock, hzero, hnone⟩ := hi.claiming t (by simp [hpc, ThreadPc.claims, hk])
  have hbears : ∀ u, ((s.setThread t (.ready o c true)).threads u).bears k = true → u = t := by
    intro u hu
    by_contra hut
    rw [Sink.setThread_of_ne s hut, hnone u] at hu
    simp at hu
  refine ⟨fun _ => rfl, fun u hu => ?_, fun u hu => ?_, hi.once⟩
  · have hut : u ≠ t := by
      rintro rfl
      rw [Sink.setThread_self, claims_ready] at hu
      exact absurd hu Bool.false_ne_true
    rw [Sink.setThread_of_ne s hut] at hu
    exact absurd (Option.some.inj ((hi.claiming u hu).1.symm.trans hlock)) hut
  · exact ⟨hzero, fun v hv => (hbears v hv).trans (hbears u hu).symm⟩

theorem headers_concat (s : Sink) (t k : Nat) (chunk : Chunk) :
    ({ s.setThread t .idle with output := s.output ++ [chunk] } : Sink).headers k =
      s.headers k + if chunk.header = true ∧ chunk.call.types = k then 1 else 0 := by
  simp [Sink.headers, List.countP_append, List.countP_singleton]

/-- It is written. -/
theorem OneHeader.deliver {s : Sink} {k t : Nat} {c : Call} {buffer : Text} (hi : OneHeader s k)
    (hpc : s.threads t = .formatted c true buffer) (hk : c.types = k) :
    OneHeader { s.setThread t .idle with output := s.output ++ [⟨t, c, true, buffer⟩] } k := by
  have ht : (s.threads t).bears k = true := by simp [hpc, ThreadPc.bears, hk]
  obtain ⟨hzero, hunique⟩ := hi.bearer t ht
  have hone : ({ s.setThread t .idle with
      output := s.output ++ [⟨t, c, true, buffer⟩] } : Sink).headers k = 1 := by
    rw [headers_concat, hzero]
    simp [hk]
  have hbears : ∀ u, ((s.setThread t .idle).threads u).bears k ≠ true := by
    intro u hu
    rcases moved_or (ThreadPc.bears k · = true) hu with ⟨-, hu⟩ | ⟨hut, hu⟩
    · simp [ThreadPc.bears] at hu
    · exact hut (hunique u hu)
  refine ⟨fun _ => hi.cleared (.inr ⟨t, ht⟩), fun u hu => ?_, fun u hu => ?_, hone.le⟩
  · have hbefore := (moved_or (ThreadPc.claims k · = true) hu).resolve_left
      (by simp [ThreadPc.claims])
    rw [(hi.claiming u hbefore.2).2.2 t] at ht
    simp at ht
  · exact absurd hu (hbears u)

theorem oneHeader_flush {o : Options} {s : Sink} {k : Nat} (hi : OneHeader s k) (now : Int) :
    OneHeader (s.flush o now) k := by
  have hheaders : (s.flush o now).headers k = s.headers k := by simp [Sink.headers]
  refine ⟨?_, ?_, ?_, hheaders ▸ hi.once⟩
  · simpa [hheaders] using hi.cleared
  · simpa [hheaders] using hi.claiming
  · simpa [hheaders] using hi.bearer

theorem oneHeader_step {o : Options} {s s' : Sink} {a : SinkAction} (h : SinkMoves o s a s') {k : Nat}
    (hi : OneHeader s k) : OneHeader s' k := by
  cases h with
  | ignores _ _ => exact hi
  | enters _ _ => exact hi.quiet rfl (by simp [ThreadPc.bears]) (by simp [ThreadPc.claims]) rfl id rfl
  | @claims t c _ hfree hheader =>
    by_cases hk : c.types = k
    · exact hi.claim hk (hk ▸ hfree) hheader
    · exact hi.quiet rfl (by simp [ThreadPc.bears]) (by simp [ThreadPc.claims, hk]) rfl id
        (Function.update_of_ne (Ne.symm hk) ..)
  | passes _ _ =>
    exact hi.quiet rfl (bears_ready o (.inl rfl)) (claims_ready ..) rfl id rfl
  | @formats t c hpc =>
    by_cases hk : c.types = k
    · exact hi.leave hpc hk
    · exact hi.quiet rfl (bears_ready o (.inr hk)) (claims_ready ..) rfl (fun _ => rfl)
        (Function.update_of_ne (Ne.symm hk) ..)
  | @writes t c header buffer hpc =>
    refine oneHeader_flush ?_ _
    have hcount := headers_concat s t k ⟨t, c, header, buffer⟩
    by_cases hk : header = true ∧ c.types = k
    · obtain ⟨rfl, hk⟩ := hk
      exact hi.deliver hpc hk
    · rw [if_neg hk, Nat.add_zero] at hcount
      exact hi.quiet rfl (by simp [ThreadPc.bears]) (by simp [ThreadPc.claims]) hcount id rfl

/-! ## What the chunks say -/

/-- Buffers and chunks hold what their calls are to write. -/
structure Made (o : Options) (s : Sink) : Prop where
  buffers : ∀ t c header buffer, s.threads t = .formatted c header buffer →
    buffer = chunkText o c header
  chunks : ∀ chunk ∈ s.output, chunk.text = chunkText o chunk.call chunk.header

theorem made_init (o : Options) : Made o .init := by
  constructor <;> simp [Sink.init]

/-- A thread moves on that writes nothing. -/
theorem Made.move {o : Options} {s s' : Sink} (hi : Made o s) {t : Nat} {pc : ThreadPc}
    (hthreads : s'.threads = Function.update s.threads t pc) (houtput : s'.output = s.output)
    (hpc : ∀ c header buffer, pc = .formatted c header buffer → buffer = chunkText o c header) :
    Made o s' := by
  refine ⟨fun u c header buffer hu => ?_, houtput ▸ hi.chunks⟩
  rw [hthreads] at hu
  rcases moved_or (· = .formatted c header buffer) hu with ⟨-, hu⟩ | ⟨-, hu⟩
  · exact hpc c header buffer hu
  · exact hi.buffers u c header buffer hu

theorem made_step {o : Options} {s s' : Sink} {a : SinkAction} (h : SinkMoves o s a s')
    (hi : Made o s) : Made o s' := by
  have hready : ∀ d header c header' buffer, ThreadPc.ready o d header = .formatted c header' buffer →
      buffer = chunkText o c header' := by
    intro d header c header' buffer heq
    obtain ⟨rfl, rfl, hbuffer⟩ := ready_eq_formatted heq
    exact hbuffer
  cases h with
  | ignores _ _ => exact hi
  | enters _ _ => exact hi.move rfl rfl (by simp)
  | claims _ _ _ => exact hi.move rfl rfl (by simp)
  | passes _ _ => exact hi.move rfl rfl (hready _ _)
  | formats _ => exact hi.move rfl rfl (hready _ _)
  | @writes t c header buffer hpc =>
    refine ⟨fun u d header' buffer' hu => ?_, fun chunk hchunk => ?_⟩
    · rw [Sink.flush_threads] at hu
      have hbefore := (moved_or (· = .formatted d header' buffer') hu).resolve_left (by simp)
      exact hi.buffers u d header' buffer' hbefore.2
    · rw [Sink.flush_output, List.mem_append, List.mem_singleton] at hchunk
      rcases hchunk with hchunk | rfl
      · exact hi.chunks chunk hchunk
      · exact hi.buffers t c header buffer hpc

/-- Every chunk of a run is the line of its call, with the header in front of it if it says so. -/
theorem made_run {o : Options} {acts : List SinkAction} {s : Sink}
    (hrun : run (sinkStep o) .init acts = some s) : Made o s :=
  run_preserves (fun _ _ _ hi h => made_step (sinkStep_moves h) hi) (made_init o) hrun

/-! ## At least one header -/

/-- The header is still to come, or on its way, or written; provided that all calls can be formatted
along with it. -/
structure SomeHeader (o : Options) (s : Sink) : Prop where
  fits : ∀ t c, s.threads t = .entered c ∨ s.threads t = .claiming c → Formats o c true
  begun : (s.output ≠ [] ∨ ∃ t c header buffer, s.threads t = .formatted c header buffer) →
    s.printHeader = false
  there : s.printHeader = false →
    (∃ chunk ∈ s.output, chunk.header = true) ∨ ∃ t c buffer, s.threads t = .formatted c true buffer

theorem someHeader_init (o : Options) : SomeHeader o .init := by
  constructor <;> simp [Sink.init]

/-- A thread moves on in front of the stream. -/
theorem SomeHeader.quiet {o : Options} {s s' : Sink} (hi : SomeHeader o s) (t : Nat)
    (pc : ThreadPc) (hthreads : s'.threads = Function.update s.threads t pc)
    (hbefore : ∀ c header buffer, s.threads t ≠ .formatted c header buffer)
    (hbehind : ∀ c header buffer, pc ≠ .formatted c header buffer)
    (hfits : ∀ c, pc = .entered c ∨ pc = .claiming c → Formats o c true)
    (houtput : s'.output = s.output) (hprint : s'.printHeader = s.printHeader) : SomeHeader o s' := by
  refine ⟨fun u c hu => ?_, fun h => ?_, fun h => ?_⟩
  · rw [hthreads] at hu
    rcases moved_or (fun pc => pc = .entered c ∨ pc = .claiming c) hu with ⟨-, hu⟩ | ⟨-, hu⟩
    · exact hfits c hu
    · exact hi.fits u c hu
  · rw [houtput, hthreads] at h
    refine hprint.trans (hi.begun (h.imp_right fun ⟨u, c, header, buffer, hu⟩ =>
      ⟨u, c, header, buffer, ?_⟩))
    exact ((moved_or (· = .formatted c header buffer) hu).resolve_left fun h =>
      hbehind c header buffer h.2).2
  · rw [houtput, hthreads]
    refine (hi.there (hprint.symm.trans h)).imp_right fun ⟨u, c, buffer, hu⟩ => ⟨u, c, buffer, ?_⟩
    exact unmoved (· = .formatted c true buffer) hu (hbefore c true buffer)

/-- Nor does it wait for anything once it is ready. -/
theorem SomeHeader.fits_ready {o : Options} {s : Sink} (hi : SomeHeader o s) {t u : Nat} {c d : Call}
    {header : Bool} (hu : Function.update s.threads t (.ready o c header) u = .entered d ∨
      Function.update s.threads t (.ready o c header) u = .claiming d) : Formats o d true := by
  rcases moved_or (fun pc => pc = .entered d ∨ pc = .claiming d) hu with ⟨-, hu⟩ | ⟨-, hu⟩
  · exact absurd hu (not_or.2 ⟨ready_ne_entered d, ready_ne_claiming d⟩)
  · exact hi.fits u d hu

theorem someHeader_step {o : Options} {s s' : Sink} {a : SinkAction} (h : SinkMoves o s a s')
    (ha : ∀ t c, a = .call t c → Formats o c true) (hi : SomeHeader o s) : SomeHeader o s' := by
  cases h with
  | ignores _ _ => exact hi
  | @enters t c hpc _ =>
    refine hi.quiet t (.entered c) rfl (by simp [hpc]) (by simp) (fun d hd => ?_) rfl rfl
    obtain rfl : c = d := by simpa using hd
    exact ha t c rfl
  | @claims t c hpc _ _ =>
    refine hi.quiet t (.claiming c) rfl (by simp [hpc]) (by simp) (fun d hd => ?_) rfl rfl
    obtain rfl : c = d := by simpa using hd
    exact hi.fits t c (.inl hpc)
  | @passes t c hpc hheader =>
    refine ⟨fun u d hu => hi.fits_ready hu, fun _ => hheader, fun _ => ?_⟩
    refine (hi.there hheader).imp_right fun ⟨u, d, buffer, hu⟩ => ⟨u, d, buffer, ?_⟩
    exact unmoved (· = .formatted d true buffer) hu (by simp [hpc])
  | @formats t c hpc =>
    have hready : ThreadPc.ready o c true = .formatted c true (chunkText o c true) :=
      if_pos (hi.fits t c (.inr hpc))
    refine ⟨fun u d hu => hi.fits_ready hu, fun _ => rfl, fun _ => .inr ⟨t, c, chunkText o c true, ?_⟩⟩
    exact (Sink.setThread_self s t _).trans hready
  | @writes t c header buffer hpc =>
    have hprint := hi.begun (.inr ⟨t, c, header, buffer, hpc⟩)
    refine ⟨fun u d hu => ?_, fun _ => by simpa [Sink.setThread] using hprint, fun _ => ?_⟩
    · rw [Sink.flush_threads] at hu
      exact hi.fits u d ((moved_or (fun pc => pc = .entered d ∨ pc = .claiming d) hu).resolve_left
        (by simp)).2
    · simp only [Sink.flush_output, Sink.flush_threads]
      rcases hi.there hprint with ⟨chunk, hchunk, hheader⟩ | ⟨u, d, buffer', hu⟩
      · exact .inl ⟨chunk, List.mem_append_left _ hchunk, hheader⟩
      · by_cases hut : u = t
        · rw [hut, hpc] at hu
          obtain ⟨-, rfl, -⟩ := ThreadPc.formatted.inj hu
          exact .inl ⟨⟨t, c, true, buffer⟩, by simp, by simp⟩
        · exact .inr ⟨u, d, buffer', (Sink.setThread_of_ne s hut _).trans hu⟩

/-- When all threads have returned, the header is written. -/
theorem someHeader_run {o : Options} {acts : List SinkAction} {s : Sink}
    (hrun : run (sinkStep o) .init acts = some s)
    (hfits : ∀ t c, .call t c ∈ acts → Formats o c true)
    (hidle : ∀ t, s.threads t = .idle) (hne : s.output ≠ []) :
    ∃ chunk ∈ s.output, chunk.header = true := by
  have hcalls : Along (sinkStep o) (fun _ a => ∀ t c, a = .call t c → Formats o c true) .init acts := by
    refine .of_mem fun a ha _ t c heq => hfits t c ?_
    rwa [← heq]
  have hsome : SomeHeader o s := run_invariant
    (fun _ _ _ hi ha h => someHeader_step (sinkStep_moves h) ha hi) (someHeader_init o) hcalls hrun
  rcases hsome.there (hsome.begun (.inl hne)) with h | ⟨t, c, buffer, ht⟩
  · exact h
  · simp [hidle t] at ht

/-- The chunk `first` has brought the header along, and nobody else will. -/
structure Settled (first : Chunk) (s : Sink) : Prop where
  cleared : s.printHeader = false
  claiming : ∀ t c, s.threads t ≠ .claiming c
  bearing : ∀ t c buffer, s.threads t ≠ .formatted c true buffer
  output : ∃ others, s.output = first :: others ∧ ∀ chunk ∈ others, chunk.header = false

/-- A thread moves on that brings no header along. -/
theorem Settled.quiet {first : Chunk} {s s' : Sink} (hi : Settled first s) {t : Nat} {pc : ThreadPc}
    (hthreads : s'.threads = Function.update s.threads t pc) (hclaiming : ∀ c, pc ≠ .claiming c)
    (hbearing : ∀ c buffer, pc ≠ .formatted c true buffer) (hcleared : s'.printHeader = false)
    (houtput : s'.output = s.output ∨
      ∃ chunk : Chunk, s'.output = s.output ++ [chunk] ∧ chunk.header = false) :
    Settled first s' := by
  refine ⟨hcleared, fun u c hu => ?_, fun u c buffer hu => ?_, ?_⟩
  · rw [hthreads] at hu
    rcases moved_or (· = .claiming c) hu with ⟨-, hu⟩ | ⟨-, hu⟩
    · exact hclaiming c hu
    · exact hi.claiming u c hu
  · rw [hthreads] at hu
    rcases moved_or (· = .formatted c true buffer) hu with ⟨-, hu⟩ | ⟨-, hu⟩
    · exact hbearing c buffer hu
    · exact hi.bearing u c buffer hu
  · obtain ⟨others, heq, hothers⟩ := hi.output
    rcases houtput with hsame | ⟨chunk, hmore, hheader⟩
    · exact ⟨others, hsame.trans heq, hothers⟩
    · refine ⟨others ++ [chunk], by rw [hmore, heq, List.cons_append], fun d hd => ?_⟩
      rcases List.mem_append.1 hd with hd | hd
      · exact hothers d hd
      · rwa [List.mem_singleton.1 hd]

theorem settled_step {o : Options} {first : Chunk} {s s' : Sink} {a : SinkAction}
    (h : SinkMoves o s a s') (hi : Settled first s) : Settled first s' := by
  cases h with
  | ignores _ _ => exact hi
  | enters _ _ => exact hi.quiet rfl (by simp) (by simp) hi.cleared (.inl rfl)
  | claims _ _ hheader => simp [hi.cleared] at hheader
  | passes _ hheader =>
    refine hi.quiet rfl ready_ne_claiming (fun c buffer heq => ?_) hheader (.inl rfl)
    exact absurd (ready_eq_formatted heq).2.1 (by simp)
  | formats hpc => exact absurd hpc (hi.claiming _ _)
  | @writes t c header buffer hpc =>
    have hheader : header = false := by
      by_contra htrue
      rw [Bool.not_eq_false] at htrue
      exact hi.bearing t c buffer (htrue ▸ hpc)
    refine hi.quiet (Sink.flush_threads ..) (by simp) (by simp) ?_
      (.inr ⟨⟨t, c, header, buffer⟩, ?_, hheader⟩)
    · rw [Sink.flush_printHeader]
      exact hi.cleared
    · rw [Sink.flush_output]

/-- **The header comes first**, and once, if the first call is over before another begins, and can be
formatted; as in `main`, which logs how the host was resolved before it starts a thread.  What is in
the stream is the header, then the line of that call, and then nothing but the lines of others. -/
theorem header_first (o : Options) (t : Nat) (c : Call) (ha : accepts o c = true)
    (hf : Formats o c true) (acts : List SinkAction) (s : Sink)
    (hrun : run (sinkStep o) .init ([.call t c, .look t, .claim t, .write t] ++ acts) = some s) :
    ∃ others, s.output.map Chunk.call = c :: others ∧
      s.stream = headerText o ++ (lineText o c ++ (others.map (lineText o)).flatten) := by
  have hmade := made_run hrun
  rw [run_append, Option.bind_eq_some_iff] at hrun
  obtain ⟨s₁, hfirst, hrun⟩ := hrun
  have hready : ThreadPc.ready o c true = .formatted c true (chunkText o c true) := if_pos hf
  have hflush : Sink.flush o { Sink.init with
      printHeader := false, output := [⟨t, c, true, chunkText o c true⟩] } c.now = s₁ := by
    simpa [run, sinkStep, Sink.init, ha, hready, Sink.setThread, Sink.format_eq] using hfirst
  have hsettled : Settled ⟨t, c, true, chunkText o c true⟩ s₁ := by
    rw [← hflush]
    constructor <;> simp [Sink.init]
  obtain ⟨others, houtput, hothers⟩ :=
    (run_preserves (fun _ _ _ hi h => settled_step (sinkStep_moves h) hi) hsettled hrun).output
  have hlines : others.map Chunk.text = (others.map Chunk.call).map (lineText o) := by
    rw [List.map_map]
    refine List.map_congr_left fun chunk hchunk => ?_
    have hmem : chunk ∈ s.output := houtput ▸ List.mem_cons_of_mem _ hchunk
    rw [hmade.chunks chunk hmem, chunkText, hothers chunk hchunk]
    rfl
  refine ⟨others.map Chunk.call, by rw [houtput, List.map_cons], ?_⟩
  rw [Sink.stream, houtput, List.map_cons, List.flatten_cons, hlines, chunkText, if_pos rfl,
    List.append_assoc]

theorem header_first_two :
    ∃ s others, run (sinkStep defaultSink) .init
        ([.call 0 resolverResult, .look 0, .claim 0, .write 0] ++
          [.call 1 lineCount, .look 1, .write 1]) = some s ∧
      s.output.map Chunk.call = resolverResult :: others ∧
        s.stream = headerText defaultSink ++
          (lineText defaultSink resolverResult ++ (others.map (lineText defaultSink)).flatten) := by
  have hsome : (run (sinkStep defaultSink) .init
      ([.call 0 resolverResult, .look 0, .claim 0, .write 0] ++
        [.call 1 lineCount, .look 1, .write 1])).isSome = true := by decide +kernel
  obtain ⟨s, hs⟩ := Option.isSome_iff_exists.1 hsome
  obtain ⟨others, hcalls, hstream⟩ := header_first defaultSink 0 resolverResult (by decide)
    (by decide +kernel) [.call 1 lineCount, .look 1, .write 1] s hs
  exact ⟨s, others, hs, hcalls, hstream⟩

/-! ## Flushing -/

/-- With an interval, the last flush is the one remembered, and all flushes are more than the
interval apart; without one, all output is flushed. -/
structure Flushed (o : Options) (s : Sink) : Prop where
  spaced : o.flushInterval ≠ 0 →
    (0 :: s.flushes).IsChain (fun a b => a + o.flushInterval < b) ∧
      (0 :: s.flushes).getLast? = some s.lastFlushed
  all : o.flushInterval = 0 → s.flushed = s.output.length

theorem flushed_flush {o : Options} {s : Sink} (now : Int)
    (hspaced : o.flushInterval ≠ 0 →
      (0 :: s.flushes).IsChain (fun a b => a + o.flushInterval < b) ∧
        (0 :: s.flushes).getLast? = some s.lastFlushed) : Flushed o (s.flush o now) := by
  by_cases hzero : o.flushInterval = 0
  · refine ⟨fun hne => absurd hzero hne, fun _ => ?_⟩
    rw [Sink.flush, if_pos hzero]
  · obtain ⟨hchain, hlast⟩ := hspaced hzero
    refine ⟨fun _ => ?_, fun h => absurd h hzero⟩
    rw [Sink.flush, if_neg hzero]
    split
    · rename_i hlate
      dsimp only
      rw [← List.cons_append]
      refine ⟨?_, List.getLast?_concat ..⟩
      refine hchain.append (List.isChain_singleton _) fun a ha b hb => ?_
      rw [hlast, Option.mem_some_iff] at ha
      obtain rfl : now = b := by simpa using hb
      omega
    · exact ⟨hchain, hlast⟩

theorem flushed_step {o : Options} {s s' : Sink} {a : SinkAction} (h : SinkMoves o s a s')
    (hi : Flushed o s) : Flushed o s' := by
  cases h with
  | writes _ => exact flushed_flush _ hi.spaced
  | _ => exact ⟨hi.spaced, hi.all⟩

theorem flushed_run {o : Options} {acts : List SinkAction} {s : Sink}
    (hrun : run (sinkStep o) .init acts = some s) : Flushed o s := by
  refine run_preserves (fun _ _ _ hi h => flushed_step (sinkStep_moves h) hi) ?_ hrun
  exact ⟨fun _ => by simp [Sink.init], fun _ => by simp [Sink.init]⟩

/-- **Flushing**: with an interval, the stream is flushed for calls whose readings of the clock are
more than the interval apart, in whatever order the threads come to write; without one, what is
written is flushed at once. -/
theorem flushes_spaced (o : Options) (acts : List SinkAction) (s : Sink)
    (hrun : run (sinkStep o) .init acts = some s) :
    (o.flushInterval ≠ 0 → s.flushes.IsChain fun a b => a + o.flushInterval < b) ∧
      (o.flushInterval = 0 → s.flushed = s.output.length) := by
  have hflushed := flushed_run hrun
  exact ⟨fun hne => (hflushed.spaced hne).1.tail, hflushed.all⟩

/-- Three messages, two of which flush the stream. -/
theorem flushes_spaced_three :
    ∃ s, run (sinkStep { defaultSink with flushInterval := 3 }) .init
        (twoFirst ++ [.call 1 { lineCount with now := 12 }, .look 1, .write 1]) = some s ∧
      s.flushes = [7, 12] ∧ s.flushes.IsChain fun a b => a + 3 < b := by
  have hflushes : (run (sinkStep { defaultSink with flushInterval := 3 }) .init
      (twoFirst ++ [.call 1 { lineCount with now := 12 }, .look 1, .write 1])).map Sink.flushes =
        some [7, 12] := by decide +kernel
  obtain ⟨s, hs, hflushed⟩ := Option.map_eq_some_iff.1 hflushes
  exact ⟨s, hs, hflushed, (flushes_spaced { defaultSink with flushInterval := 3 } _ s hs).1 (by decide)⟩

end WsTestClient.Log
