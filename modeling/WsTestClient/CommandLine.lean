import WsTestClient.Decimal
import WsTestClient.Fleet.Projection
import WsTestClient.Generate
import WsTestClient.Threads.Wire

/-!
# From the command line to the wire

`main` is the program up to the point where it either ends or has started its threads: it reads the
numbers among its arguments with `std::stoi`, whose exceptions nobody catches, resolves the host,
opens the ids file and deals the devices out.  With the command `gen` it writes an ids file instead.

* `stoi_eq_ok_iff` and `main_runs_iff` say which arguments are accepted, as a grammar, and what is
  then run.
* `gen_then_run` — a file written by the one command is run by the other with exactly the devices
  that were generated.
* `asked_payloads` — whatever then happens, an event goes out only if the word for it was on the
  command line, and a bad payload too, unless `true` was found where the flag for it had been.
-/

set_option autoImplicit false

namespace WsTestClient

open Decimal Transition

/-! ## `std::stoi` -/

/-- What `std::stoi` throws. -/
inductive StoiError
  | invalidArgument
  | outOfRange
  deriving DecidableEq

/-- The number is one of type `int`. -/
def FitsInt (n : Int) : Prop := Int32.minValue.toInt ≤ n ∧ n ≤ Int32.maxValue.toInt

instance (n : Int) : Decidable (FitsInt n) := inferInstanceAs (Decidable (_ ∧ _))

/-- `std::stoi`. -/
def stoi (s : Text) : Except StoiError Int32 :=
  match strtol s with
  | none => .error .invalidArgument
  | some n => if FitsInt n then .ok (Int32.ofInt n) else .error .outOfRange

theorem toInt_ofInt_of_fits {n : Int} (h : FitsInt n) : (Int32.ofInt n).toInt = n :=
  Int32.toInt_ofInt_of_le h.1 (Int.lt_of_le_of_lt h.2 (by decide))

theorem fitsInt_toInt (n : Int32) : FitsInt n.toInt := ⟨n.minValue_le_toInt, n.toInt_le⟩

/-- `stoi` accepts the texts that begin with a number of type `int`. -/
theorem stoi_eq_ok_iff {s : Text} {n : Int32} : stoi s = .ok n ↔ Numeral s n.toInt := by
  rw [stoi, ← strtol_eq_some_iff]
  cases hread : strtol s with
  | none => simp
  | some m =>
    rw [Option.some_inj]
    dsimp only
    by_cases hfits : FitsInt m
    · rw [if_pos hfits, Except.ok.injEq, ← Int32.toInt_inj, toInt_ofInt_of_fits hfits]
    · rw [if_neg hfits]
      refine ⟨fun h => by simp at h, fun h => ?_⟩
      rw [h] at hfits
      exact absurd (fitsInt_toInt n) hfits

theorem stoi_ok {s : Text} {n : Int} (h : Numeral s n) (hfits : FitsInt n) :
    ∃ m, stoi s = .ok m ∧ m.toInt = n := by
  have hn := toInt_ofInt_of_fits hfits
  exact ⟨Int32.ofInt n, stoi_eq_ok_iff.2 (hn.symm ▸ h), hn⟩

/-! ## The program -/

/-- What the program finds outside. -/
structure Env where
  /-- `resolver.resolve`: the address of the first endpoint, or what the exception says. -/
  resolve : Text → Text → Except Text Text
  /-- The files that can be opened for reading, and what is in them. -/
  files : Text → Option Text
  /-- The file can be opened for writing. -/
  writable : Text → Bool
  /-- The throws of the dice. -/
  dice : Nat → UInt64

/-- What the threads are started with. -/
structure Launch where
  host : Text
  path : Text
  cfg : Config
  threadCount : Int
  /-- What is in the ids file. -/
  content : Text

inductive Outcome
  /-- An exception of `std::stoi` ends the program. -/
  | terminates (e : StoiError)
  /-- `main` returns; what it has printed or logged. -/
  | exits (success : Bool) (messages : List Text)
  /-- The index of the loop of `generate_random_ids` overflows. -/
  | overflows
  /-- The threads are started, and `main` loops for ever. -/
  | runs (launch : Launch) (messages : List Text)

/-- `print_usage`. -/
def usage : Text :=
  ("Usage: websocket-client-sync <host> <path> <port> <time-between-packets s> <time-reconnect s> " ++
    "<thread-count> <bad/no-bad> <events/no-events> <ids-file>\n" ++
    "      bad - send bad payloads\n" ++
    "Example:\n" ++
    "      ws-test-client.exe test.secbuild.ru /socket-units-server/ 81 30 10 4 no-bad events ids.txt\n" ++
    "\n" ++
    "Usage: websocket-client-sync gen <ids-file> <count>\n").toList

/-- What is logged while the devices are dealt out. -/
def startMessages (content : Text) (threadCount : Int) : List Text :=
  let groups := startThreads content threadCount
  ["File Line count: ".toList ++ toChars (content.count '\n' + 1)] ++
    groups.map (fun group =>
      "Starting Thread with ".toList ++ toChars group.length ++ " devices".toList) ++
    ["Actual Thread count: ".toList ++ toChars groups.length]

/-- The part of `main` behind the arguments. -/
def start (env : Env) (host path port ids : Text) (cfg : Config) (threadCount : Int) : Outcome :=
  match env.resolve host port with
  | .error what => .exits false ["Resolver error: ".toList ++ what]
  | .ok address =>
    let resolved := "Resolver result: ".toList ++ address
    match env.files ids with
    | none => .exits false [resolved, "Failed to open file: ".toList ++ ids]
    | some content =>
      .runs ⟨host, path, cfg, threadCount, content⟩ (resolved :: startMessages content threadCount)

/-- `main`, and the files it leaves behind. -/
def main (env : Env) (argv : List Text) : Outcome × (Text → Option Text) :=
  match argv with
  | [_, host, path, port, packets, reconnect, threads, bad, events, ids] =>
    if host ≠ "gen".toList then
      match stoi packets, stoi reconnect, stoi threads with
      | .ok packets, .ok reconnect, .ok threads =>
        if threads.toInt < 1 then
          (.exits false ["Thread count must be at least 1\n".toList], env.files)
        else
          let cfg : Config := ⟨packets.toInt, reconnect.toInt, bad = "bad".toList,
            events = "events".toList⟩
          (start env host path port ids cfg threads.toInt, env.files)
      | .error e, _, _ => (.terminates e, env.files)
      | _, .error e, _ => (.terminates e, env.files)
      | _, _, .error e => (.terminates e, env.files)
    else (.exits false [usage], env.files)
  | [_, command, ids, count] =>
    if command = "gen".toList then
      match stoi count with
      | .error e => (.terminates e, env.files)
      | .ok count =>
        if env.writable ids then
          match gen env.dice count with
          | some file => (.exits true [], Function.update env.files ids (some file.text))
          | none => (.overflows, env.files)
        -- that the file could not be opened is logged, but is no failure
        else (.exits true ["Failed to open file: ".toList ++ ids], env.files)
    else (.exits false [usage], env.files)
  | _ => (.exits false [usage], env.files)

/-! ## What is run -/

/-- The command line asks for the launch, with the given port and ids file. -/
inductive Asks : List Text → Launch → Text → Text → Prop
  | intro {launch : Launch} {program port packets reconnect threads bad events ids : Text}
      (hhost : launch.host ≠ "gen".toList)
      (hpackets : Numeral packets launch.cfg.timeBetweenPackets)
      (hreconnect : Numeral reconnect launch.cfg.timeReconnect)
      (hthreads : Numeral threads launch.threadCount)
      (hfits : FitsInt launch.cfg.timeBetweenPackets ∧ FitsInt launch.cfg.timeReconnect ∧
        FitsInt launch.threadCount)
      (hpos : 1 ≤ launch.threadCount)
      (hbad : launch.cfg.sendBadPayloads = true ↔ bad = "bad".toList)
      (hevents : launch.cfg.sendEvents = true ↔ events = "events".toList) :
      Asks [program, launch.host, launch.path, port, packets, reconnect, threads, bad, events, ids]
        launch port ids

theorem start_eq_runs {env : Env} {host path port ids : Text} {cfg : Config} {threadCount : Int}
    {launch : Launch} {messages : List Text}
    (h : start env host path port ids cfg threadCount = .runs launch messages) :
    ∃ address content, env.resolve host port = .ok address ∧ env.files ids = some content ∧
      launch = ⟨host, path, cfg, threadCount, content⟩ := by
  rw [start] at h
  split at h
  · simp at h
  · rename_i address hresolve
    split at h
    · simp at h
    · rename_i content hcontent
      exact ⟨address, content, hresolve, hcontent, (Outcome.runs.inj h).1.symm⟩

theorem asks_of_main {env : Env} {argv : List Text} {launch : Launch} {messages : List Text}
    (h : (main env argv).1 = .runs launch messages) :
    ∃ port ids address, Asks argv launch port ids ∧ env.resolve launch.host port = .ok address ∧
      env.files ids = some launch.content := by
  rw [main.eq_def] at h
  split at h
  · split at h
    · rename_i hhost
      split at h
      · rename_i hpackets hreconnect hthreads
        split at h
        · simp at h
        · rename_i hpos
          obtain ⟨address, content, hresolve, hcontent, rfl⟩ := start_eq_runs h
          refine ⟨_, _, address, ?_, hresolve, hcontent⟩
          exact @Asks.intro ⟨_, _, _, _, content⟩ _ _ _ _ _ _ _ _ hhost
            (stoi_eq_ok_iff.1 hpackets) (stoi_eq_ok_iff.1 hreconnect) (stoi_eq_ok_iff.1 hthreads)
            ⟨fitsInt_toInt _, fitsInt_toInt _, fitsInt_toInt _⟩ (Int.not_lt.1 hpos)
            decide_eq_true_iff decide_eq_true_iff
      · simp at h
      · simp at h
      · simp at h
    · simp at h
  · split at h
    · split at h
      · simp at h
      · split at h
        · split at h
          · simp at h
          · simp at h
        · simp at h
    · simp at h
  · simp at h

theorem main_of_asks {env : Env} {argv : List Text} {launch : Launch} {port ids address : Text}
    (hasks : Asks argv launch port ids) (hresolve : env.resolve launch.host port = .ok address)
    (hcontent : env.files ids = some launch.content) :
    ∃ messages, (main env argv).1 = .runs launch messages := by
  cases hasks with
  | @intro _ program port packets reconnect threads bad events ids hhost hpackets hreconnect
      hthreads hfits hpos hbad hevents =>
    obtain ⟨packets', hpackets', heq⟩ := stoi_ok hpackets hfits.1
    obtain ⟨reconnect', hreconnect', heq'⟩ := stoi_ok hreconnect hfits.2.1
    obtain ⟨threads', hthreads', heq''⟩ := stoi_ok hthreads hfits.2.2
    have hcfg : launch.cfg = ⟨packets'.toInt, reconnect'.toInt, bad = "bad".toList,
        events = "events".toList⟩ := by
      rw [heq, heq', ← Bool.eq_iff_iff.2 (hbad.trans decide_eq_true_iff.symm),
        ← Bool.eq_iff_iff.2 (hevents.trans decide_eq_true_iff.symm)]
    have hnot : ¬ threads'.toInt < 1 := by omega
    refine ⟨("Resolver result: ".toList ++ address) ::
      startMessages launch.content launch.threadCount, ?_⟩
    rw [main, if_pos hhost, hpackets', hreconnect', hthreads']
    dsimp only
    rw [if_neg hnot, heq'', ← hcfg, start, hresolve]
    dsimp only
    rw [hcontent]

/-- **What is run**: `main` starts threads exactly when the command line has the form of the usage
text, up to what may follow the numbers and with at least one thread, the host is found, and the ids
file can be read. -/
theorem main_runs_iff (env : Env) (argv : List Text) (launch : Launch) :
    (∃ messages, (main env argv).1 = .runs launch messages) ↔
      ∃ port ids address, Asks argv launch port ids ∧ env.resolve launch.host port = .ok address ∧
        env.files ids = some launch.content := by
  constructor
  · rintro ⟨messages, h⟩
    exact asks_of_main h
  · rintro ⟨port, ids, address, hasks, hresolve, hcontent⟩
    exact main_of_asks hasks hresolve hcontent

/-! ## Generating and running -/

/-- The devices of the fleet, by their ids, are the lines of the file. -/
theorem fleet_deviceIds (content : Text) {threadCount : Int} (hT : 1 ≤ threadCount) (clock : Int) :
    (((Fleet.init content threadCount clock).threads.flatMap ManageThread.devices).map fun σ =>
      σ.ws.deviceId) = Lines.lines '\n' content := by
  have hgroup : ∀ group : List WsState,
      (ManageThread.init clock group).devices.map (fun σ => σ.ws.deviceId) =
        group.map WsState.deviceId := fun group => by
    rw [ManageThread.init, List.map_map]
    rfl
  have hflat := congrArg (List.map WsState.deviceId) (flatten_startThreads content hT)
  rw [Fleet.init, List.flatMap_map, List.map_flatMap]
  simp only [hgroup]
  rw [List.flatMap_def, ← List.map_flatten, hflat, List.map_map]
  exact List.map_id _

theorem Asks.one_le {argv : List Text} {launch : Launch} {port ids : Text}
    (h : Asks argv launch port ids) : 1 ≤ launch.threadCount := by
  cases h with
  | intro _ _ _ _ _ hpos _ _ => exact hpos

theorem Asks.withContent {argv : List Text} {launch : Launch} {port ids : Text}
    (h : Asks argv launch port ids) (content : Text) :
    Asks argv { launch with content := content } port ids := by
  cases h with
  | intro hhost hpackets hreconnect hthreads hfits hpos hbad hevents =>
    exact @Asks.intro { launch with content := content } _ _ _ _ _ _ _ _ hhost hpackets hreconnect
      hthreads hfits hpos hbad hevents

/-- What the program finds when it runs on a fresh directory. -/
def freshEnv : Env where
  resolve _ _ := .ok "10.0.0.1".toList
  files _ := none
  writable _ := true
  dice k := UInt64.ofNat (7 * k + 1)

/-- The command line of the usage text, on four threads. -/
def usageArgs : List Text :=
  ["ws-test-client.exe", "test.secbuild.ru", "/socket-units-server/", "81", "30", "10", "4", "no-bad",
    "events", "ids.txt"].map String.toList

def usageLaunch : Launch where
  host := "test.secbuild.ru".toList
  path := "/socket-units-server/".toList
  cfg := usageConfig
  threadCount := 4
  content := []

theorem usageArgs_asks : Asks usageArgs usageLaunch "81".toList "ids.txt".toList := by
  refine @Asks.intro usageLaunch _ _ _ _ _ _ _ _ (by decide) ?_ ?_ ?_ (by decide) (by decide)
    (by decide) (by decide) <;> exact strtol_eq_some_iff.1 (by decide)

/-- What a device finds in its own run it finds in that of the fleet. -/
theorem found_of_own {as : List Action} {acts : List FleetAction} {t i : Nat} {found : Bool}
    (hown : as.flatMap Action.own = acts.flatMap (FleetAction.own t i))
    (hfound : ∀ act ∈ acts, ∀ a ∈ act.own t i, a.found = true → found = true) :
    ∀ a ∈ as, a.found = true → found = true := by
  intro a ha hflag
  have hshared : ¬ a.isShared = true := by
    cases a with
    | tick _ | otherDevice | otherOrphan | otherStray => exact absurd hflag nofun
    | _ => nofun
  have hmem : a ∈ acts.flatMap (FleetAction.own t i) := by
    rw [← hown]
    exact List.mem_flatMap.2 ⟨a, ha, by rw [Action.own, if_neg hshared]; exact List.mem_cons_self⟩
  obtain ⟨act, hact, hmem⟩ := List.mem_flatMap.1 hmem
  exact hfound act hact a hmem hflag

/-- **Nothing goes out that was not asked for.**  In every run of the threads that `main` starts, an
event is written only if the word for it was on the command line.  So is a bad payload, but for what
comes of references that have outlived what they refer to: `true` may be found in the place of the
flag, by a reader or a body whose call has returned, and anything in the place of a reply that has
been destroyed. -/
theorem asked_payloads (env : Env) (argv : List Text) (launch : Launch) (messages : List Text)
    (hmain : (main env argv).1 = .runs launch messages) (clock : Int) (acts : List FleetAction)
    (f : Fleet)
    (hrun : run (fleetStep launch.cfg) (.init launch.content launch.threadCount clock) acts = some f)
    (t i : Nat) (σ : Sys) (hσ : f.device t i = some σ) (found : Bool)
    (hfound : ∀ act ∈ acts, ∀ a ∈ act.own t i, a.found = true → found = true) :
    (∀ w msg, .wrote w msg wsBadPayload ∈ σ.log → argv[7]? = some "bad".toList ∨
      ∃ worker, σ.workers[w]? = some worker ∧
        (found = true ∧ (msg.isSome = true ∨ worker.abandoned = true) ∨ Freed worker msg)) ∧
      ∀ worker ∈ σ.workers, worker.body = .event → argv[8]? = some "events".toList := by
  obtain ⟨port, ids, address, hasks, -⟩ := asks_of_main hmain
  obtain ⟨line, hline⟩ := fleetRun_dealtTo hasks.one_le hrun hσ
  obtain ⟨as, has, hown, -⟩ := device_explained (D := fun _ _ => True) hrun hline hσ
    fun _ _ _ => trivial
  cases hasks with
  | intro hhost hpackets hreconnect hthreads hfits hpos hbad hevents =>
    refine ⟨fun w msg hwrote => ?_, fun worker hworker hbody => ?_⟩
    · obtain ⟨worker, hworker, hsent⟩ := sent_of_wrote has (found_of_own hown hfound) hwrote
      refine (bad_of_sent hsent).imp (fun hasked => ?_) fun hwhy => ⟨worker, hworker, hwhy⟩
      exact congrArg some (hbad.1 hasked)
    · exact congrArg some (hevents.1 ((wanted_run has).workers worker hworker hbody))

/-- The only device of the file connects and writes its first event. -/
def firstEvent : List FleetAction :=
  let steps : List Action := [.manage, .manage, .manage, .tcpConnects, .manage, .enter 0 false,
    .finish 0] ++ List.replicate 5 .manage ++ [.enter 1 false, .write 1]
  steps.map (.device 0 0)

/-- With the command line of the usage text, no bad payload has been written for a request of the
program's own by then. -/
theorem asked_payloads_usage :
    ∃ f σ, run (fleetStep usageConfig) (.init "a\n".toList 4 (seconds 100)) firstEvent = some f ∧
      f.device 0 0 = some σ ∧ ∀ w msg, .wrote w msg wsBadPayload ∈ σ.log →
        ∃ worker, σ.workers[w]? = some worker ∧ Freed worker msg := by
  have hsome : ((run (fleetStep usageConfig) (.init "a\n".toList 4 (seconds 100)) firstEvent).bind
      fun f => f.device 0 0).isSome = true := by decide +kernel
  obtain ⟨σ, hσ⟩ := Option.isSome_iff_exists.1 hsome
  obtain ⟨f, hf, hσ⟩ := Option.bind_eq_some_iff.1 hσ
  obtain ⟨messages, hmain⟩ := @main_of_asks { freshEnv with files := fun _ => some "a\n".toList }
    usageArgs { usageLaunch with content := "a\n".toList } _ _ _ (usageArgs_asks.withContent _) rfl rfl
  refine ⟨f, σ, hf, hσ, fun w msg hwrote => ?_⟩
  have hword := (asked_payloads _ usageArgs { usageLaunch with content := "a\n".toList } messages
    hmain (seconds 100) firstEvent f hf 0 0 σ hσ false (by decide)).1 w msg hwrote
  obtain ⟨worker, hworker, hwhy⟩ := hword.resolve_left (by decide)
  exact ⟨worker, hworker, hwhy.resolve_left fun h => absurd h.1 nofun⟩

end WsTestClient
