import WsTestClient.Manage.Pass

/-!
# What a run of passes says about the connection

Two things the manager should keep true of a device over any run of passes, whatever the attempts
to connect come to and whenever the stream closes:

* the device counts as connected, and is sent packets, only after a handshake really returned
  (`Honest`);
* at most one of the reader threads `ws_async_read` started is alive (`readersAlive`).

The code keeps neither in general.  `run_with_timeout` reports a handshake that threw as done, and
one that is still running when the `done` it polls is set for an earlier call, so `ws_connect`
reports success for both; and every `ws_connect` that reports success detaches one more reader,
whose loop has no exit.  `honest_iff` and `readers_le_one_iff` say exactly which runs are free of
the two defects.

Behind both is `neverConnected_lastRunTime`: a device that has never been connected has never been
stamped either, so its passes always attempt to connect and never get to the packet gate without.
-/

set_option autoImplicit false

namespace WsTestClient

open Transition

/-- The parameters of the usage example: packets every 30 s, reconnects every 10 s. -/
def usageConfig : Config where
  timeBetweenPackets := 30
  timeReconnect := 10
  sendBadPayloads := false
  sendEvents := true

/-- A pass at the clock reading `now` in which nothing goes wrong. -/
def smoothPass (now : Int) : PassEnv where
  openAtTest := true
  slotAtTest := none
  extraWrite := .returned
  openAtCheck := true
  gateTime := now
  tcpConnect := true
  handshake := .returned
  openAfterConnect := true
  packetTime := now
  eventWrite := .returned
  mainWrite := .returned

/-! ## What the parts of a pass do

The logs of the three blocks, as far as the events that matter here are concerned. -/

/-- The event starts a write of event or main payloads. -/
def Event.isSend : Event → Bool
  | .eventWrite _ => true
  | .mainWrite _ => true
  | _ => false

/-- The event supposes that a handshake has returned. -/
def Event.needsHandshake (ev : Event) : Bool := ev.isSend || decide (ev = .connected)

/-- What `ws_connect` does, and that it reports success only with a reader started. -/
theorem wsConnect_log (e : PassEnv) :
    (wsConnect e).2 = if connects e then [.handshake e.handshake, .readerStarted]
      else if e.tcpConnect then [.handshake e.handshake] else [.tcpThrew] := by
  rw [wsConnect, connects]
  cases e.tcpConnect <;> cases runWithTimeout e.handshake <;> rfl

theorem connects_iff (e : PassEnv) :
    connects e = true ↔ e.tcpConnect = true ∧ e.handshake ≠ .timedOut := by
  rw [connects, Bool.and_eq_true, runWithTimeout_eq_true]

theorem extraPayloadBlock_not_needsHandshake (e : PassEnv) (s : WsState) :
    ∀ ev ∈ (extraPayloadBlock e s).log, ev.needsHandshake = false := by
  intro ev hev
  rw [(extraPayloadBlock_spec e s).2.2.2 ev hev]
  rfl

theorem attemptLog_not_needsHandshake (e : PassEnv) (s : WsState) :
    ∀ ev ∈ attemptLog e s, ev.needsHandshake = false := by
  intro ev hev
  rw [attemptLog, wsConnect_log, List.mem_cons] at hev
  rcases hev with rfl | hev
  · rfl
  · split at hev
    · simp only [List.mem_cons, List.not_mem_nil, or_false] at hev
      rcases hev with rfl | rfl <;> rfl
    · split at hev <;> (rw [List.mem_singleton] at hev; subst hev; rfl)

/-- A pass starts event or main writes exactly when it passes the packet gate. -/
theorem exists_isSend_iff (cfg : Config) (e : PassEnv) (s : WsState) :
    (∃ ev ∈ (wsManageWs cfg e s).log, ev.isSend = true) ↔ passesGate cfg e s = true := by
  have hbefore : ∀ ev ∈ (extraPayloadBlock e s).log ++ connectionLog cfg e s,
      ev.isSend = false := by
    intro ev hev
    rcases List.mem_append.1 hev with hev | hev
    · rw [(extraPayloadBlock_spec e s).2.2.2 ev hev]; rfl
    · rw [connectionLog] at hev
      split at hev
      · rcases List.mem_append.1 hev with hev | hev
        · exact (Bool.or_eq_false_iff.1 (attemptLog_not_needsHandshake e s ev hev)).1
        · split at hev
          · rw [List.mem_singleton] at hev; subst hev; rfl
          · exact absurd hev List.not_mem_nil
      · exact absurd hev List.not_mem_nil
  rw [wsManageWs_log]
  constructor
  · rintro ⟨ev, hev, hsend⟩
    rcases List.mem_append.1 hev with hev | hev
    · rw [hbefore ev hev] at hsend
      exact absurd hsend Bool.false_ne_true
    · split at hev
      · assumption
      · exact absurd hev List.not_mem_nil
  · intro hgate
    refine ⟨.mainWrite e.mainWrite, List.mem_append_right _ ?_, rfl⟩
    simp [hgate, sends]

/-! ## A device that was never connected -/

/-- Nothing stamps `last_run_time` before the first `ws_connect` that reports success. -/
def NeverStamped (d : Device) : Prop := d.ws.connected = false → d.ws.lastRunTime = 0

/-- An unstamped device that is not connected always attempts to connect. -/
theorem NeverStamped.attempts {d : Device} (h : NeverStamped d) (hc : d.ws.connected = false)
    (cfg : Config) (e : PassEnv) : attempts cfg e d.ws = true := by
  simp [WsTestClient.attempts, connectDue, hc, h hc]

theorem neverStamped_pass {d : Device} (h : NeverStamped d) (cfg : Config) (e : PassEnv) :
    NeverStamped (d.pass cfg e) := by
  intro hc
  simp only [Device.pass, wsManageWs_connected, Bool.or_eq_false_iff] at hc
  have ha := h.attempts hc.1 cfg e
  rw [ha, Bool.true_and] at hc
  simp [Device.pass, wsManageWs_lastRunTime, passesGate, reachesGate, gateStamp, attemptStamp,
    ha, hc.2, h hc.1]

/-- **A device that has never been connected has never been stamped.** -/
theorem neverConnected_lastRunTime (cfg : Config) (deviceId : Text) (es : List PassEnv) :
    NeverStamped (runPasses cfg deviceId es) :=
  run_preserves (I := NeverStamped)
    (fun _ e _ h ht => Option.some.inj ht ▸ neverStamped_pass h cfg e) (fun _ => rfl)
    (run_passStep cfg deviceId es)

/-! ## Connected only after a handshake -/

/-- Every event that supposes a handshake comes after one that returned. -/
def Backed (l : List Event) : Prop :=
  ∀ ev ∈ l, ev.needsHandshake = true → .handshake .returned ∈ l

/-- At every moment of the device's history, the connected flag was set and packets were sent only
after a handshake that returned. -/
structure HonestDevice (d : Device) : Prop where
  connected : d.ws.connected = true → .handshake .returned ∈ d.log
  history : ∀ l, l <+: d.log → Backed l

/-- If the pass calls `ws_connect`, that reports success or starts a reader only for a handshake
that returned. -/
def HonestConnect (cfg : Config) (d : Device) (e : PassEnv) : Prop :=
  attempts cfg e d.ws = true →
    (wsConnect e).1.error = false ∨ .readerStarted ∈ (wsConnect e).2 →
      e.tcpConnect = true ∧ e.handshake = .returned

/-- Over the run, a device counts as connected only after a handshake really succeeded. -/
def Honest (cfg : Config) (deviceId : Text) (es : List PassEnv) : Prop :=
  Always (passStep cfg) HonestDevice (.init deviceId) es ∧
    Along (passStep cfg) (HonestConnect cfg) (.init deviceId) es

/-- If the pass runs a handshake, it is the return of that handshake, or else the deadline, that ends
the wait for it: not its exception, and not what an earlier call left behind. -/
def EndsByReturn (cfg : Config) (d : Device) (e : PassEnv) : Prop :=
  attempts cfg e d.ws = true → e.tcpConnect = true →
    e.handshake = .returned ∨ e.handshake = .timedOut

theorem honestConnect_iff (cfg : Config) (d : Device) (e : PassEnv) :
    HonestConnect cfg d e ↔ EndsByReturn cfg d e := by
  have hreports : ((wsConnect e).1.error = false ∨ Event.readerStarted ∈ (wsConnect e).2) ↔
      connects e = true := by
    rw [wsConnect_error, wsConnect_log]
    cases connects e <;> cases e.tcpConnect <;> simp
  rw [HonestConnect, EndsByReturn, hreports, connects_iff]
  refine forall_congr' fun _ => ?_
  cases e.tcpConnect <;> cases e.handshake <;> decide

theorem backed_of_none {l : List Event} (h : ∀ ev ∈ l, ev.needsHandshake = false) : Backed l := by
  intro ev hev hneeds
  rw [h ev hev] at hneeds
  exact absurd hneeds Bool.false_ne_true

/-- A history that is backed up to a handshake that returned is backed whatever follows. -/
theorem backed_append {p r : List Event} (hp : ∀ l, l <+: p → Backed l)
    (hmem : .handshake .returned ∈ p) : ∀ l, l <+: p ++ r → Backed l := by
  intro l hl
  rcases List.prefix_or_prefix_of_prefix hl (List.prefix_append p r) with h | h
  · exact hp l h
  · exact fun _ _ _ => h.subset hmem

theorem backed_of_none_prefix {p l : List Event} (h : ∀ ev ∈ p, ev.needsHandshake = false)
    (hl : l <+: p) : Backed l :=
  backed_of_none fun ev hev => h ev (hl.subset hev)

theorem honestDevice_pass {cfg : Config} {d : Device} {e : PassEnv} (hn : NeverStamped d)
    (h : HonestDevice d) (hends : EndsByReturn cfg d e) : HonestDevice (d.pass cfg e) := by
  by_cases hmem : Event.handshake .returned ∈ d.log
  · -- a handshake has returned before: everything from here on is backed by it
    exact ⟨fun _ => List.mem_append_left _ hmem, backed_append h.history hmem⟩
  have hc : d.ws.connected = false := by
    rw [← Bool.not_eq_true]; exact fun hc => hmem (h.connected hc)
  have ha := hn.attempts hc cfg e
  have hold : ∀ ev ∈ d.log, ev.needsHandshake = false := fun ev hev =>
    Bool.eq_false_iff.2 fun hneeds => hmem (h.history d.log (List.prefix_refl _) ev hev hneeds)
  have hpre : ∀ ev ∈ d.log ++ ((extraPayloadBlock e d.ws).log ++ attemptLog e d.ws),
      ev.needsHandshake = false := by
    intro ev hev
    rcases List.mem_append.1 hev with hev | hev
    · exact hold ev hev
    · rcases List.mem_append.1 hev with hev | hev
      · exact extraPayloadBlock_not_needsHandshake e d.ws ev hev
      · exact attemptLog_not_needsHandshake e d.ws ev hev
  cases hcon : connects e with
  | false =>
    -- the attempt fails: nothing that supposes a handshake happens
    constructor
    · intro hconn
      simp [Device.pass, wsManageWs_connected, hc, ha, hcon] at hconn
    · intro l hl
      rw [Device.pass, wsManageWs_log, connectionLog, passesGate, reachesGate] at hl
      simp only [ha, hcon, if_true, Bool.not_true, Bool.or_false, Bool.false_and,
        Bool.false_eq_true, if_false, List.append_nil] at hl
      exact backed_of_none_prefix hpre hl
  | true =>
    -- the attempt succeeds, and then its handshake has returned
    obtain ⟨htcp, htime⟩ := (connects_iff e).1 hcon
    have hret : e.handshake = .returned := (hends ha htcp).resolve_right htime
    have hin : Event.handshake .returned ∈
        d.log ++ ((extraPayloadBlock e d.ws).log ++ attemptLog e d.ws) := by
      simp [attemptLog, wsConnect_log, hcon, hret]
    have hlog : (d.pass cfg e).log =
        d.log ++ ((extraPayloadBlock e d.ws).log ++ attemptLog e d.ws) ++
          (.connected :: (if passesGate cfg e d.ws then sends cfg e else [])) := by
      simp [Device.pass, wsManageWs_log, connectionLog, ha, hcon]
    refine ⟨fun _ => hlog ▸ List.mem_append_left _ hin, ?_⟩
    rw [hlog]
    exact backed_append (fun l hl => backed_of_none_prefix hpre hl) hin

/-- **When a device is connected only after a handshake succeeded**: exactly when every handshake of
the run returns in time or runs out its eight seconds. -/
theorem honest_iff (cfg : Config) (deviceId : Text) (es : List PassEnv) :
    Honest cfg deviceId es ↔ Along (passStep cfg) (EndsByReturn cfg) (.init deviceId) es := by
  constructor
  · rintro ⟨-, h⟩
    exact h.mono fun d e => (honestConnect_iff cfg d e).1
  · intro h
    refine ⟨?_, h.mono fun d e => (honestConnect_iff cfg d e).2⟩
    have hinit : NeverStamped (.init deviceId) ∧ HonestDevice (.init deviceId) := by
      refine ⟨fun _ => rfl, fun hc => absurd hc Bool.false_ne_true, fun l hl => ?_⟩
      rw [List.prefix_nil.1 hl]
      exact backed_of_none fun _ h => absurd h List.not_mem_nil
    refine Always.mono (fun _ h => h.2) (always_of_invariant
      (I := fun d => NeverStamped d ∧ HonestDevice d) ?_ hinit h)
    rintro d e t ⟨hn, hd⟩ hends ht
    rw [← Option.some.inj ht]
    exact ⟨neverStamped_pass hn cfg e, honestDevice_pass hn hd hends⟩

/-- A handshake that throws at once leaves the device connected, with a reader started. -/
theorem swallowed_exception_connects :
    ¬ Honest usageConfig [] [{ smoothPass (seconds 100) with handshake := .threw }] := by
  intro h
  have hrun := run_passStep usageConfig [] [{ smoothPass (seconds 100) with handshake := .threw }]
  exact absurd ((h.1.end hrun).connected rfl) (by decide)

/-! ## One reader per device -/

/-- The reader threads alive after the history `l`: all that were started, since the loop of
`ws_async_read` has no exit. -/
def readersAlive (l : List Event) : Nat := l.count .readerStarted

/-- At no moment of the device's history were two readers alive. -/
def OneReader (d : Device) : Prop := ∀ l, l <+: d.log → readersAlive l ≤ 1

theorem oneReader_iff (d : Device) : OneReader d ↔ readersAlive d.log ≤ 1 :=
  ⟨fun h => h d.log (List.prefix_refl _), fun h _ hl => (hl.sublist.count_le _).trans h⟩

theorem readersAlive_pass (cfg : Config) (d : Device) (e : PassEnv) :
    readersAlive (d.pass cfg e).log =
      readersAlive d.log + if attempts cfg e d.ws && connects e then 1 else 0 := by
  have hx : List.count .readerStarted (extraPayloadBlock e d.ws).log = 0 := by
    rw [List.count_eq_zero]
    intro hmem
    cases (extraPayloadBlock_spec e d.ws).2.2.2 _ hmem
  have hs : List.count .readerStarted (if passesGate cfg e d.ws then sends cfg e else []) = 0 := by
    rw [List.count_eq_zero]
    intro hmem
    split at hmem
    · rw [sends] at hmem
      split at hmem <;> simp at hmem
    · exact absurd hmem List.not_mem_nil
  rw [readersAlive, readersAlive, Device.pass, wsManageWs_log, List.count_append,
    List.count_append, List.count_append, hx, hs, connectionLog, attemptLog, wsConnect_log]
  cases attempts cfg e d.ws <;> cases connects e <;> cases e.tcpConnect <;> simp

/-- With a reader alive, the pass does not get through `ws_connect` again. -/
def NoReconnect (cfg : Config) (d : Device) (e : PassEnv) : Prop :=
  0 < readersAlive d.log →
    ¬ (attempts cfg e d.ws = true ∧ e.tcpConnect = true ∧ e.handshake ≠ .timedOut)

/-- **When a device has at most one reader**: exactly when, once a reader has been started, no
later pass of the run gets through the TCP connect and then sees `done` within the eight seconds of
its handshake. -/
theorem readers_le_one_iff (cfg : Config) (deviceId : Text) (es : List PassEnv) :
    Always (passStep cfg) OneReader (.init deviceId) es ↔
      Along (passStep cfg) (NoReconnect cfg) (.init deviceId) es := by
  refine always_iff_of_step (I := fun _ => True) (fun _ _ _ _ _ => trivial) (fun d e _ hone => ?_)
    trivial ((oneReader_iff _).2 (Nat.zero_le 1))
  rw [oneReader_iff] at hone
  have hstep : (∀ t, passStep cfg d e = some t → OneReader t) ↔ OneReader (d.pass cfg e) :=
    ⟨fun h => h _ rfl, fun h t ht => Option.some.inj ht ▸ h⟩
  rw [hstep, oneReader_iff, readersAlive_pass, NoReconnect, ← connects_iff, ← Bool.and_eq_true]
  split
  · rename_i h
    simp only [h, not_true_eq_false, imp_false]
    omega
  · rename_i h
    simp only [Bool.not_eq_true] at h
    simp only [h, Bool.false_eq_true, not_false_eq_true, implies_true, iff_true]
    omega

/-- The stream closes once and is reconnected: now two readers are alive. -/
theorem reconnect_starts_second_reader :
    ¬ Always (passStep usageConfig) OneReader (.init [])
      [smoothPass (seconds 100), { smoothPass (seconds 200) with openAtCheck := false }] := by
  intro h
  have hrun := run_passStep usageConfig []
    [smoothPass (seconds 100), { smoothPass (seconds 200) with openAtCheck := false }]
  exact absurd ((oneReader_iff _).1 (h.end hrun)) (by decide)

end WsTestClient
