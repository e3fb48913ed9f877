import Mathlib.Data.List.Chain
import WsTestClient.Manage.Connection

/-!
# What a run of passes says about time

The connection block and the packet gate consult one timer: both call `is_time` with the same
interval and stamp the same `last_run_time`.  This file follows that field over a run of passes
whose clock readings never go back.

* **Packets.**  Every send stamps the field and nothing ever turns it back, so two sends are at
  least `time_between_packets` apart (`mainPayloads_spaced`).
* **Reconnects.**  `time_reconnect` is never read.  An attempt is let through by the timer of the
  packets, or, while the field still holds the default, without any; `connects_spaced` says when
  attempts are `time_reconnect` apart nevertheless.
* **Sharing the field.**  The two consultations of one pass may fall on the two sides of the end
  of the interval, and then the pass sends on a stream that is closed (`sendsOpen_iff`).  And an
  attempt let through by the timer uses up the interval the next packet was waiting for
  (`sendsDue_iff`).
-/

set_option autoImplicit false

namespace WsTestClient

open Transition

/-! ## Clock readings -/

/-- The readings the passes take, in order. -/
def readings (es : List PassEnv) : List Int := es.flatMap fun e => [e.gateTime, e.packetTime]

/-- The clock never goes back. -/
def Steady (es : List PassEnv) : Prop := (readings es).Pairwise (· ≤ ·)

instance (es : List PassEnv) : Decidable (Steady es) :=
  inferInstanceAs (Decidable ((readings es).Pairwise (· ≤ ·)))

theorem readings_concat (es : List PassEnv) (e : PassEnv) :
    readings (es ++ [e]) = readings es ++ [e.gateTime, e.packetTime] := by
  simp [readings]

theorem mem_readings_concat {es : List PassEnv} {e : PassEnv} {t : Int} :
    t ∈ readings (es ++ [e]) ↔ t ∈ readings es ∨ t = e.gateTime ∨ t = e.packetTime := by
  simp [readings_concat]

theorem Steady.init {es : List PassEnv} {e : PassEnv} (h : Steady (es ++ [e])) : Steady es := by
  rw [Steady, readings_concat] at h
  exact (List.pairwise_append.1 h).1

theorem Steady.le_gateTime {es : List PassEnv} {e : PassEnv} (h : Steady (es ++ [e])) {t : Int}
    (ht : t ∈ readings es) : t ≤ e.gateTime := by
  rw [Steady, readings_concat] at h
  exact (List.pairwise_append.1 h).2.2 t ht _ List.mem_cons_self

theorem Steady.gateTime_le_packetTime {es : List PassEnv} {e : PassEnv}
    (h : Steady (es ++ [e])) : e.gateTime ≤ e.packetTime := by
  rw [Steady, readings_concat] at h
  exact (List.pairwise_cons.1 (List.pairwise_append.1 h).2.1).1 _ List.mem_cons_self

/-! ## The times in a history -/

/-- When the event calls `ws_connect`. -/
def Event.connectTime? : Event → Option Int
  | .connectCall now _ => some now
  | _ => none

/-- When the event calls `ws_connect` because the timer let it. -/
def Event.timerTime? : Event → Option Int
  | .connectCall now true => some now
  | _ => none

/-- When the event passes the packet gate. -/
def Event.sendTime? : Event → Option Int
  | .packetGate now => some now
  | _ => none

/-- The clock readings at which `ws_connect` was called. -/
def connectTimes (l : List Event) : List Int := l.filterMap Event.connectTime?

/-- The clock readings at which the timer let a call of `ws_connect` through. -/
def timerTimes (l : List Event) : List Int := l.filterMap Event.timerTime?

/-- The clock readings at which the event and main payload writes were started. -/
def sendTimes (l : List Event) : List Int := l.filterMap Event.sendTime?

/-- Successive times are at least `n` seconds apart. -/
def Spaced (n : Int) (l : List Int) : Prop := l.IsChain fun t t' => t + seconds n ≤ t'

theorem spaced_concat {n : Int} {l : List Int} {t : Int} (h : Spaced n l)
    (ht : ∀ u ∈ l, u + seconds n ≤ t) : Spaced n (l ++ [t]) := by
  refine List.isChain_append.2 ⟨h, List.isChain_singleton t, fun u hu v hv => ?_⟩
  rw [List.head?_cons, Option.mem_some_iff] at hv
  exact hv ▸ ht u (List.mem_of_mem_getLast? hu)

theorem extraPayloadBlock_filterMap (f : Event → Option Int) (hf : ∀ res, f (.extraWrite res) = none)
    (e : PassEnv) (s : WsState) : (extraPayloadBlock e s).log.filterMap f = [] := by
  rw [List.filterMap_eq_nil_iff]
  intro ev hev
  rw [(extraPayloadBlock_spec e s).2.2.2 ev hev, hf]

/-- In the connection block there is at most one call of `ws_connect`, and no send. -/
theorem times_connectionLog (cfg : Config) (e : PassEnv) (s : WsState) :
    connectTimes (connectionLog cfg e s) = (if attempts cfg e s then [e.gateTime] else []) ∧
      timerTimes (connectionLog cfg e s) =
        (if attempts cfg e s && s.lastRunTime != 0 then [e.gateTime] else []) ∧
      sendTimes (connectionLog cfg e s) = [] := by
  rw [connectionLog, attemptLog, wsConnect_log]
  cases attempts cfg e s with
  | false => exact ⟨rfl, rfl, rfl⟩
  | true =>
    cases s.lastRunTime != 0 <;> cases connects e <;> cases e.tcpConnect <;> exact ⟨rfl, rfl, rfl⟩

/-- Behind the packet gate there is one send, and no call of `ws_connect`. -/
theorem times_sends (cfg : Config) (e : PassEnv) :
    connectTimes (sends cfg e) = [] ∧ timerTimes (sends cfg e) = [] ∧
      sendTimes (sends cfg e) = [e.packetTime] := by
  rw [sends]
  cases cfg.sendEvents <;> exact ⟨rfl, rfl, rfl⟩

/-- What a pass adds to the times in the history, whichever times these are. -/
theorem filterMap_pass (f : Event → Option Int) (hf : ∀ res, f (.extraWrite res) = none)
    (cfg : Config) (d : Device) (e : PassEnv) :
    (d.pass cfg e).log.filterMap f =
      d.log.filterMap f ++ (connectionLog cfg e d.ws).filterMap f ++
        if passesGate cfg e d.ws then (sends cfg e).filterMap f else [] := by
  rw [Device.pass, wsManageWs_log, List.filterMap_append, List.filterMap_append,
    List.filterMap_append, extraPayloadBlock_filterMap f hf, List.nil_append, List.append_assoc]
  cases passesGate cfg e d.ws <;> rfl

theorem connectTimes_pass (cfg : Config) (d : Device) (e : PassEnv) :
    connectTimes (d.pass cfg e).log =
      connectTimes d.log ++ if attempts cfg e d.ws then [e.gateTime] else [] := by
  rw [connectTimes, filterMap_pass _ fun _ => rfl, ← connectTimes, ← connectTimes, ← connectTimes,
    (times_connectionLog cfg e d.ws).1, (times_sends cfg e).1, ite_self, List.append_nil]

theorem timerTimes_pass (cfg : Config) (d : Device) (e : PassEnv) :
    timerTimes (d.pass cfg e).log =
      timerTimes d.log ++ if attempts cfg e d.ws && d.ws.lastRunTime != 0 then [e.gateTime]
        else [] := by
  rw [timerTimes, filterMap_pass _ fun _ => rfl, ← timerTimes, ← timerTimes, ← timerTimes,
    (times_connectionLog cfg e d.ws).2.1, (times_sends cfg e).2.1, ite_self, List.append_nil]

theorem sendTimes_pass (cfg : Config) (d : Device) (e : PassEnv) :
    sendTimes (d.pass cfg e).log =
      sendTimes d.log ++ if passesGate cfg e d.ws then [e.packetTime] else [] := by
  rw [sendTimes, filterMap_pass _ fun _ => rfl, ← sendTimes, ← sendTimes, ← sendTimes,
    (times_connectionLog cfg e d.ws).2.2, (times_sends cfg e).2.2, List.append_nil]

/-! ## The stamp -/

/-- Where `last_run_time` can be as the packet gate finds it. -/
theorem gateStamp_cases (cfg : Config) (e : PassEnv) (s : WsState) :
    (gateStamp cfg e s = s.lastRunTime ∧ (attempts cfg e s && s.lastRunTime != 0) = false) ∨
      (gateStamp cfg e s = e.gateTime ∧ (attempts cfg e s && s.lastRunTime != 0) = true) := by
  rw [gateStamp, attemptStamp]
  by_cases h0 : s.lastRunTime = 0
  · left; cases attempts cfg e s <;> simp [h0]
  · cases attempts cfg e s <;> simp [h0]

/-- `last_run_time` is the default or one of the readings taken. -/
theorem lastRunTime_mem_readings (cfg : Config) (deviceId : Text) (es : List PassEnv) :
    (runPasses cfg deviceId es).ws.lastRunTime = 0 ∨
      (runPasses cfg deviceId es).ws.lastRunTime ∈ readings es := by
  induction es using List.reverseRecOn with
  | nil => exact Or.inl rfl
  | append_singleton es e ih =>
    rw [runPasses_concat, Device.pass, wsManageWs_lastRunTime, mem_readings_concat]
    split
    · exact Or.inr (Or.inr (Or.inr rfl))
    · rcases gateStamp_cases cfg e (runPasses cfg deviceId es).ws with ⟨h, -⟩ | ⟨h, -⟩
      · rw [h]
        exact ih.imp id Or.inl
      · exact Or.inr (Or.inr (Or.inl h))

/-- With a clock that never goes back and never shows less than zero, `last_run_time` is not
ahead of the clock. -/
theorem lastRunTime_le_gateTime (cfg : Config) (deviceId : Text) {es : List PassEnv} {e : PassEnv}
    (hclock : Steady (es ++ [e])) (hpos : ∀ t ∈ readings (es ++ [e]), 0 ≤ t) :
    (runPasses cfg deviceId es).ws.lastRunTime ≤ e.gateTime := by
  rcases lastRunTime_mem_readings cfg deviceId es with h | h
  · exact h ▸ hpos _ (mem_readings_concat.2 (Or.inr (Or.inl rfl)))
  · exact hclock.le_gateTime h

/-- The stamp the packet gate finds is between the old one and the gate's reading. -/
theorem gateStamp_bounds (cfg : Config) {e : PassEnv} {s : WsState}
    (hlast : s.lastRunTime ≤ e.gateTime) (hgate : e.gateTime ≤ e.packetTime) :
    s.lastRunTime ≤ gateStamp cfg e s ∧ gateStamp cfg e s ≤ e.packetTime := by
  rcases gateStamp_cases cfg e s with ⟨h, -⟩ | ⟨h, -⟩ <;> omega

/-- A pass stamps the device with the reading of an attempt the timer let through, or with the
later one of a send, and never turns the stamp back. -/
theorem lastRunTime_pass (cfg : Config) {d : Device} {e : PassEnv}
    (hlast : d.ws.lastRunTime ≤ e.gateTime) (hgate : e.gateTime ≤ e.packetTime) :
    d.ws.lastRunTime ≤ (d.pass cfg e).ws.lastRunTime ∧
      gateStamp cfg e d.ws ≤ (d.pass cfg e).ws.lastRunTime ∧
      ((d.pass cfg e).ws.lastRunTime = gateStamp cfg e d.ws ∨
        (d.pass cfg e).ws.lastRunTime = e.packetTime ∧ passesGate cfg e d.ws = true) := by
  obtain ⟨hle, hpacket⟩ := gateStamp_bounds cfg hlast hgate
  rw [Device.pass, wsManageWs_lastRunTime]
  split
  · rename_i hpass
    exact ⟨hle.trans hpacket, hpacket, Or.inr ⟨rfl, hpass⟩⟩
  · exact ⟨hle, le_refl _, Or.inl rfl⟩

/-- `last_run_time` is the latest of the times that stamp it: the sends, and the attempts the timer
let through. -/
structure Stamped (d : Device) : Prop where
  sends : ∀ t ∈ sendTimes d.log, t ≤ d.ws.lastRunTime
  timer : ∀ t ∈ timerTimes d.log, t ≤ d.ws.lastRunTime
  source : d.ws.lastRunTime = 0 ∨ d.ws.lastRunTime ∈ sendTimes d.log ∨
    d.ws.lastRunTime ∈ timerTimes d.log

theorem stamped_pass {cfg : Config} {d : Device} {e : PassEnv} (h : Stamped d)
    (hlast : d.ws.lastRunTime ≤ e.gateTime) (hgate : e.gateTime ≤ e.packetTime) :
    Stamped (d.pass cfg e) := by
  obtain ⟨hle, hstamp, hws⟩ := lastRunTime_pass cfg hlast hgate
  have hcases := gateStamp_cases cfg e d.ws
  constructor
  · intro t ht
    rw [sendTimes_pass] at ht
    rcases List.mem_append.1 ht with ht | ht
    · exact (h.sends t ht).trans hle
    · split at ht
      · rename_i hpass
        rw [List.mem_singleton] at ht
        rw [Device.pass, wsManageWs_lastRunTime, if_pos hpass, ht]
      · exact absurd ht List.not_mem_nil
  · intro t ht
    rw [timerTimes_pass] at ht
    rcases List.mem_append.1 ht with ht | ht
    · exact (h.timer t ht).trans hle
    · split at ht
      · rename_i ha
        rcases hcases with ⟨-, hno⟩ | ⟨hg, -⟩
        · rw [ha] at hno
          exact absurd hno.symm Bool.false_ne_true
        · rw [List.mem_singleton] at ht
          omega
      · exact absurd ht List.not_mem_nil
  · rw [sendTimes_pass, timerTimes_pass]
    rcases hws with hw | ⟨hw, hpass⟩
    · rcases hcases with ⟨hg, -⟩ | ⟨hg, ha⟩
      · rw [hw, hg]
        exact h.source.imp_right (Or.imp (List.mem_append_left _) (List.mem_append_left _))
      · rw [hw, hg, if_pos ha]
        exact Or.inr (Or.inr (List.mem_append_right _ List.mem_cons_self))
    · rw [hw, if_pos hpass]
      exact Or.inr (Or.inl (List.mem_append_right _ List.mem_cons_self))

theorem stamped_runPasses (cfg : Config) (deviceId : Text) (es : List PassEnv)
    (hclock : Steady es) (hpos : ∀ t ∈ readings es, 0 ≤ t) :
    Stamped (runPasses cfg deviceId es) := by
  induction es using List.reverseRecOn with
  | nil =>
    exact ⟨fun t ht => absurd ht List.not_mem_nil, fun t ht => absurd ht List.not_mem_nil,
      Or.inl rfl⟩
  | append_singleton es e ih =>
    rw [runPasses_concat]
    exact stamped_pass (ih hclock.init fun t ht => hpos t (mem_readings_concat.2 (Or.inl ht)))
      (lastRunTime_le_gateTime cfg deviceId hclock hpos) hclock.gateTime_le_packetTime

/-! ## Packets are spaced -/

theorem sendTimes_spaced (cfg : Config) (deviceId : Text) (es : List PassEnv)
    (hclock : Steady es) (hpos : ∀ t ∈ readings es, 0 ≤ t) :
    Spaced cfg.timeBetweenPackets (sendTimes (runPasses cfg deviceId es).log) := by
  induction es using List.reverseRecOn with
  | nil => exact List.isChain_nil
  | append_singleton es e ih =>
    have hpos' : ∀ t ∈ readings es, 0 ≤ t := fun t ht => hpos t (mem_readings_concat.2 (Or.inl ht))
    have hspaced := ih hclock.init hpos'
    obtain ⟨hle, hpacket⟩ := gateStamp_bounds cfg (lastRunTime_le_gateTime cfg deviceId hclock hpos)
      hclock.gateTime_le_packetTime
    rw [runPasses_concat, sendTimes_pass]
    split
    · rename_i hpass
      have hdue := (isTime_iff hpacket).1 (Bool.and_eq_true_iff.1 hpass).2
      refine spaced_concat hspaced fun t ht => ?_
      have := (stamped_runPasses cfg deviceId es hclock.init hpos').sends t ht
      omega
    · simpa using hspaced

/-- **Main payloads are never sent too often**: over every run, the readings at which successive
passes go through the packet gate are at least `time_between_packets` apart. -/
theorem mainPayloads_spaced (cfg : Config) (deviceId : Text) (es : List PassEnv)
    (hclock : Steady es) (hpos : ∀ t ∈ readings es, 0 < t) :
    Spaced cfg.timeBetweenPackets (sendTimes (runPasses cfg deviceId es).log) :=
  sendTimes_spaced cfg deviceId es hclock fun t ht => (hpos t ht).le

/-- Two sends in a run of three passes, thirty seconds apart. -/
theorem mainPayloads_spaced_usage :
    Spaced 30 (sendTimes (runPasses usageConfig []
      [smoothPass (seconds 100), smoothPass (seconds 129), smoothPass (seconds 130)]).log) :=
  mainPayloads_spaced usageConfig [] _ (by decide) (by decide)

/-! ## Attempts to connect -/

/-- An attempt that is not the first one is made with a stamped `last_run_time`, at least
`time_reconnect` after the stamp. -/
def Rested (cfg : Config) (d : Device) (e : PassEnv) : Prop :=
  attempts cfg e d.ws = true → connectTimes d.log ≠ [] →
    d.ws.lastRunTime ≠ 0 ∧ d.ws.lastRunTime + seconds cfg.timeReconnect ≤ e.gateTime

/-- The attempts so far are spaced, and behind the stamp if there is one. -/
structure ConnectsSpaced (cfg : Config) (d : Device) : Prop where
  stamped : d.ws.lastRunTime ≠ 0 → ∀ t ∈ connectTimes d.log, t ≤ d.ws.lastRunTime
  spaced : Spaced cfg.timeReconnect (connectTimes d.log)

theorem connectTimes_mem_readings (cfg : Config) (deviceId : Text) (es : List PassEnv) :
    ∀ t ∈ connectTimes (runPasses cfg deviceId es).log, t ∈ readings es := by
  induction es using List.reverseRecOn with
  | nil => exact fun t ht => absurd ht List.not_mem_nil
  | append_singleton es e ih =>
    intro t ht
    rw [runPasses_concat, connectTimes_pass] at ht
    rw [mem_readings_concat]
    rcases List.mem_append.1 ht with ht | ht
    · exact Or.inl (ih t ht)
    · split at ht
      · exact Or.inr (Or.inl (List.mem_singleton.1 ht))
      · exact absurd ht List.not_mem_nil

theorem connectsSpaced_pass {cfg : Config} {d : Device} {e : PassEnv} (h : ConnectsSpaced cfg d)
    (hold : ∀ t ∈ connectTimes d.log, t ≤ e.gateTime) (hlast : d.ws.lastRunTime ≤ e.gateTime)
    (hgate : e.gateTime ≤ e.packetTime) (hrest : Rested cfg d e) :
    ConnectsSpaced cfg (d.pass cfg e) := by
  constructor
  · intro h0 t ht
    -- a stamp that is not the gate's own is either older than the pass or the default
    have hstamp : e.gateTime ≤ (d.pass cfg e).ws.lastRunTime ∨
        d.ws.lastRunTime ≠ 0 ∧ attempts cfg e d.ws = false := by
      rcases (lastRunTime_pass cfg hlast hgate).2.2 with hw | ⟨hw, -⟩
      · rcases gateStamp_cases cfg e d.ws with ⟨hg, hno⟩ | ⟨hg, -⟩
        · have hd : d.ws.lastRunTime ≠ 0 := fun hd => h0 (hw.trans (hg.trans hd))
          exact Or.inr ⟨hd, by simpa [hd] using hno⟩
        · exact Or.inl (by omega)
      · exact Or.inl (by omega)
    rw [connectTimes_pass] at ht
    rcases hstamp with hs | ⟨hd, ha⟩
    · rcases List.mem_append.1 ht with ht | ht
      · exact (hold t ht).trans hs
      · split at ht
        · exact List.mem_singleton.1 ht ▸ hs
        · exact absurd ht List.not_mem_nil
    · rw [ha, if_neg Bool.false_ne_true, List.append_nil] at ht
      exact (h.stamped hd t ht).trans (lastRunTime_pass cfg hlast hgate).1
  · rw [connectTimes_pass]
    split
    · rename_i ha
      refine spaced_concat h.spaced fun t ht => ?_
      obtain ⟨h0, hle⟩ := hrest ha (List.ne_nil_of_mem ht)
      have := h.stamped h0 t ht
      omega
    · simpa using h.spaced

/-- **When attempts to connect are `time_reconnect` apart**: in every run in which each attempt
after the first one finds a stamped `last_run_time` that is at least `time_reconnect` old. -/
theorem connects_spaced (cfg : Config) (deviceId : Text) (es : List PassEnv)
    (hclock : Steady es) (hpos : ∀ t ∈ readings es, 0 < t)
    (hrest : Along (passStep cfg) (Rested cfg) (.init deviceId) es) :
    Spaced cfg.timeReconnect (connectTimes (runPasses cfg deviceId es).log) := by
  suffices h : ConnectsSpaced cfg (runPasses cfg deviceId es) from h.spaced
  induction es using List.reverseRecOn with
  | nil => exact ⟨fun _ t ht => absurd ht List.not_mem_nil, List.isChain_nil⟩
  | append_singleton es e ih =>
    obtain ⟨hrests, hrest⟩ := along_concat.1 hrest
    rw [runPasses_concat]
    refine connectsSpaced_pass
      (ih hclock.init (fun t ht => hpos t (mem_readings_concat.2 (Or.inl ht))) hrests)
      (fun t ht => hclock.le_gateTime (connectTimes_mem_readings cfg deviceId es t ht))
      (lastRunTime_le_gateTime cfg deviceId hclock fun t ht => (hpos t ht).le)
      hclock.gateTime_le_packetTime (hrest _ (run_passStep cfg deviceId es))

/-- A stream that has closed is reconnected after a minute. -/
theorem connects_spaced_usage :
    Spaced 10 (connectTimes (runPasses usageConfig []
      [smoothPass (seconds 100), { smoothPass (seconds 160) with openAtCheck := false }]).log) :=
  connects_spaced usageConfig [] _ (by decide) (by decide)
    ⟨fun _ h => absurd rfl h, fun t ht => ⟨fun _ _ => Option.some.inj ht ▸ by decide,
      fun _ _ => trivial⟩⟩

/-- A device that cannot reach its server attempts to connect in every pass, with no pause at
all. -/
theorem refused_attempts_unspaced :
    Steady [{ smoothPass (seconds 100) with tcpConnect := false },
        { smoothPass (seconds 101) with tcpConnect := false }] ∧
      ¬ Spaced 10 (connectTimes (runPasses usageConfig []
        [{ smoothPass (seconds 100) with tcpConnect := false },
          { smoothPass (seconds 101) with tcpConnect := false }]).log) := by
  refine ⟨by decide, fun h => ?_⟩
  exact absurd (List.isChain_pair.1 h) (by decide)

/-! ## A device that was never connected -/

/-- If the pass calls `ws_connect`, that reports an error. -/
def Refused (cfg : Config) (d : Device) (e : PassEnv) : Prop :=
  attempts cfg e d.ws = true → (wsConnect e).1.error = true

/-- Nothing takes the connected flag back. -/
theorem refused_of_not_connected (cfg : Config) (deviceId : Text) (es : List PassEnv)
    (h : (runPasses cfg deviceId es).ws.connected = false) :
    Along (passStep cfg) (Refused cfg) (.init deviceId) es := by
  induction es using List.reverseRecOn with
  | nil => trivial
  | append_singleton es e ih =>
    rw [runPasses_concat, Device.pass, wsManageWs_connected, Bool.or_eq_false_iff] at h
    refine along_concat.2 ⟨ih h.1, fun d hd ha => ?_⟩
    obtain rfl := Option.some.inj ((run_passStep cfg deviceId es).symm.trans hd)
    rw [ha, Bool.true_and] at h
    rw [wsConnect_error, h.2]
    rfl

/-- **A device that was never connected neither waits nor sends**: all its calls of `ws_connect`
have reported an error, `last_run_time` is the default, and the next pass calls `ws_connect` once
and gets past the connection block only if that reports success. -/
theorem neverConnected (cfg : Config) (deviceId : Text) (es : List PassEnv)
    (h : (runPasses cfg deviceId es).ws.connected = false) :
    Along (passStep cfg) (Refused cfg) (.init deviceId) es ∧
      (runPasses cfg deviceId es).ws.lastRunTime = 0 ∧
      ∀ e, connectTimes (wsManageWs cfg e (runPasses cfg deviceId es).ws).log = [e.gateTime] ∧
        ((beforeGate cfg e (runPasses cfg deviceId es).ws).returned = false ↔
          (wsConnect e).1.error = false) := by
  have hn := neverConnected_lastRunTime cfg deviceId es
  refine ⟨refused_of_not_connected cfg deviceId es h, hn h, fun e => ?_⟩
  have ha := hn.attempts h cfg e
  constructor
  · have hpass := connectTimes_pass cfg ⟨(runPasses cfg deviceId es).ws, []⟩ e
    rw [ha, if_pos rfl] at hpass
    exact hpass
  · rw [(beforeGate_spec cfg e _).1, reachesGate, ha, wsConnect_error]
    cases connects e <;> decide

/-- A device whose server refused it twice. -/
theorem neverConnected_refused :
    (runPasses usageConfig [] [{ smoothPass (seconds 100) with tcpConnect := false },
      { smoothPass (seconds 101) with handshake := .timedOut }]).ws.lastRunTime = 0 :=
  (neverConnected usageConfig [] _ (by decide)).2.1

/-! ## Packets on an open stream -/

/-- With the stream closed, a pass leaves the connection alone exactly when the device is stamped
and the interval is not over. -/
theorem attempts_eq_false_of_closed {cfg : Config} {e : PassEnv} {s : WsState}
    (hclosed : e.openAtCheck = false) (hlast : s.lastRunTime ≠ 0 → s.lastRunTime ≤ e.gateTime) :
    attempts cfg e s = false ↔
      s.lastRunTime ≠ 0 ∧ e.gateTime < s.lastRunTime + seconds cfg.timeBetweenPackets := by
  rw [attempts, hclosed, Bool.not_false, Bool.or_true, Bool.true_and]
  by_cases h0 : s.lastRunTime = 0
  · simp [connectDue, h0]
  · rw [connectDue_of_stamped cfg e.gateTime h0, ← Bool.not_eq_true, isTime_iff (hlast h0), not_le,
      and_iff_right h0]

/-- **When a pass sends on an open stream only**: unless the stream was closed at the check and the
end of the interval falls between the two readings of the pass, so that it is too early to
reconnect and a moment later time to send. -/
theorem sendsOpen_iff (cfg : Config) (deviceId : Text) (es : List PassEnv) (e : PassEnv)
    (hclock : Steady (es ++ [e])) (hopen : connects e = true → e.openAfterConnect = true) :
    ((∃ ev ∈ (wsManageWs cfg e (runPasses cfg deviceId es).ws).log, ev.isSend = true) →
        (wsManageWs cfg e (runPasses cfg deviceId es).ws).ws.isOpen = true) ↔
      ¬ (e.openAtCheck = false ∧ (runPasses cfg deviceId es).ws.lastRunTime ≠ 0 ∧
        e.gateTime < (runPasses cfg deviceId es).ws.lastRunTime + seconds cfg.timeBetweenPackets ∧
        (runPasses cfg deviceId es).ws.lastRunTime + seconds cfg.timeBetweenPackets ≤
          e.packetTime) := by
  have hgate := hclock.gateTime_le_packetTime
  have hlast : (runPasses cfg deviceId es).ws.lastRunTime ≠ 0 →
      (runPasses cfg deviceId es).ws.lastRunTime ≤ e.gateTime := fun h0 =>
    hclock.le_gateTime ((lastRunTime_mem_readings cfg deviceId es).resolve_left h0)
  generalize (runPasses cfg deviceId es).ws = s at hlast ⊢
  rw [exists_isSend_iff, wsManageWs_isOpen]
  constructor
  · rintro h ⟨hclosed, h0, hearly, hlate⟩
    have ha : attempts cfg e s = false := (attempts_eq_false_of_closed hclosed hlast).2 ⟨h0, hearly⟩
    have hpass : passesGate cfg e s = true := by
      simpa [passesGate, reachesGate, gateStamp, ha] using
        (isTime_iff ((hlast h0).trans hgate)).2 hlate
    simpa [ha, hclosed] using h hpass
  · intro h hpass
    rw [passesGate, Bool.and_eq_true, reachesGate, gateStamp] at hpass
    obtain ⟨hreach, hdue⟩ := hpass
    cases ha : attempts cfg e s with
    | true =>
      have hc : connects e = true := by simpa [ha] using hreach
      simp [hc, hopen hc]
    | false =>
      rw [Bool.false_and, if_neg Bool.false_ne_true, ← Bool.not_eq_false]
      intro hclosed
      obtain ⟨h0, hearly⟩ := (attempts_eq_false_of_closed hclosed hlast).1 ha
      rw [ha, if_neg Bool.false_ne_true] at hdue
      exact h ⟨hclosed, h0, hearly, (isTime_iff ((hlast h0).trans hgate)).1 hdue⟩

/-- A pass that reconnects a closed stream sends on the open one. -/
theorem sendsOpen_iff_usage :
    ¬ ((smoothPass (seconds 130)).openAtCheck = false ∧
      (runPasses usageConfig [] [smoothPass (seconds 100)]).ws.lastRunTime ≠ 0 ∧
      (smoothPass (seconds 130)).gateTime <
        (runPasses usageConfig [] [smoothPass (seconds 100)]).ws.lastRunTime + seconds 30 ∧
      (runPasses usageConfig [] [smoothPass (seconds 100)]).ws.lastRunTime + seconds 30 ≤
        (smoothPass (seconds 130)).packetTime) :=
  (sendsOpen_iff usageConfig [] [smoothPass (seconds 100)] (smoothPass (seconds 130)) (by decide)
    fun _ => rfl).1 fun _ => by decide

/-- The stream has closed, the connection block asks the timer a nanosecond too early, and the
packet gate asks it again in time: the pass sends on the closed stream. -/
theorem sends_on_closed_stream :
    Steady [smoothPass (seconds 100),
        { smoothPass (seconds 130) with openAtCheck := false, gateTime := seconds 130 - 1 }] ∧
      ¬ ((∃ ev ∈ (wsManageWs usageConfig
              { smoothPass (seconds 130) with openAtCheck := false, gateTime := seconds 130 - 1 }
              (runPasses usageConfig [] [smoothPass (seconds 100)]).ws).log, ev.isSend = true) →
          (wsManageWs usageConfig
            { smoothPass (seconds 130) with openAtCheck := false, gateTime := seconds 130 - 1 }
            (runPasses usageConfig [] [smoothPass (seconds 100)]).ws).ws.isOpen = true) := by
  decide

/-! ## Reconnects and the next packet -/

/-- The pass evaluates the packet gate with the stream open and connected, and the last send is at
least an interval ago. -/
structure GateDue (cfg : Config) (d : Device) (e : PassEnv) : Prop where
  reaches : (beforeGate cfg e d.ws).returned = false
  isOpen : (beforeGate cfg e d.ws).ws.isOpen = true
  connected : (beforeGate cfg e d.ws).ws.connected = true
  due : ∀ t ∈ (sendTimes d.log).getLast?, t + seconds cfg.timeBetweenPackets ≤ e.packetTime

/-- The pass starts the main payload write. -/
def SendsMain (cfg : Config) (d : Device) (e : PassEnv) : Prop :=
  ∃ res, .mainWrite res ∈ (wsManageWs cfg e d.ws).log

/-- No attempt to connect that the timer let through, in an earlier pass or in this one, is less
than an interval ago at the packet gate. -/
structure NoRecentReconnect (cfg : Config) (d : Device) (e : PassEnv) : Prop where
  earlier : ∀ t ∈ timerTimes d.log, t + seconds cfg.timeBetweenPackets ≤ e.packetTime
  now : attempts cfg e d.ws = true → d.ws.lastRunTime ≠ 0 →
    e.gateTime + seconds cfg.timeBetweenPackets ≤ e.packetTime

theorem sendsMain_iff (cfg : Config) (d : Device) (e : PassEnv) :
    SendsMain cfg d e ↔ passesGate cfg e d.ws = true := by
  rw [← exists_isSend_iff]
  constructor
  · rintro ⟨res, h⟩
    exact ⟨_, h, rfl⟩
  · intro h
    rw [exists_isSend_iff] at h
    refine ⟨e.mainWrite, ?_⟩
    rw [wsManageWs_log, if_pos h, sends]
    simp

/-- In a spaced list the last time is the latest. -/
theorem Spaced.le_getLast {n : Int} {l : List Int} (h : Spaced n l) (hn : 0 ≤ n) {t : Int}
    (ht : t ∈ l) : ∃ u ∈ l.getLast?, t ≤ u := by
  have hle : l.IsChain (· ≤ ·) := h.imp fun u v huv => by
    have := seconds_le_seconds hn
    simp only [seconds_zero] at this
    omega
  refine ⟨l.getLast (List.ne_nil_of_mem ht), List.getLast?_eq_some_getLast _, ?_⟩
  exact (List.isChain_iff_pairwise.1 hle).rel_getLast ht

/-- **When a packet that is due is sent**: exactly when the timer has let no attempt to connect
through within the last interval. -/
theorem sendsDue_iff (cfg : Config) (deviceId : Text) (es : List PassEnv) (e : PassEnv)
    (hT : 0 ≤ cfg.timeBetweenPackets) (hclock : Steady (es ++ [e]))
    (hepoch : ∀ t ∈ readings (es ++ [e]), seconds cfg.timeBetweenPackets ≤ t) :
    (GateDue cfg (runPasses cfg deviceId es) e → SendsMain cfg (runPasses cfg deviceId es) e) ↔
      (GateDue cfg (runPasses cfg deviceId es) e →
        NoRecentReconnect cfg (runPasses cfg deviceId es) e) := by
  refine imp_congr_right fun hdue => ?_
  have hsec := seconds_le_seconds hT
  have hpos : ∀ t ∈ readings (es ++ [e]), 0 ≤ t := fun t ht => hsec.trans (hepoch t ht)
  have hpos' : ∀ t ∈ readings es, 0 ≤ t := fun t ht => hpos t (mem_readings_concat.2 (Or.inl ht))
  have hlast := lastRunTime_le_gateTime cfg deviceId hclock hpos
  have hgate := hclock.gateTime_le_packetTime
  have hstamped := stamped_runPasses cfg deviceId es hclock.init hpos'
  have hspaced := sendTimes_spaced cfg deviceId es hclock.init hpos'
  generalize runPasses cfg deviceId es = d at *
  obtain ⟨hle, hpacket⟩ := gateStamp_bounds cfg hlast hgate
  have hret := (beforeGate_spec cfg e d.ws).1
  have hreach : reachesGate cfg e d.ws = true := by
    rw [hdue.reaches] at hret
    simpa using hret.symm
  rw [sendsMain_iff, passesGate, hreach, Bool.true_and, isTime_iff hpacket]
  constructor
  · intro hsend
    refine ⟨fun t ht => ?_, fun ha h0 => ?_⟩
    · have := hstamped.timer t ht
      omega
    · rcases gateStamp_cases cfg e d.ws with ⟨-, hno⟩ | ⟨hg, -⟩
      · simp [ha, h0] at hno
      · omega
  · rintro ⟨hearlier, hnow⟩
    rcases gateStamp_cases cfg e d.ws with ⟨hg, -⟩ | ⟨hg, ha⟩
    · rw [hg]
      rcases hstamped.source with h0 | hsend | htimer
      · have := hepoch e.packetTime (mem_readings_concat.2 (Or.inr (Or.inr rfl)))
        omega
      · obtain ⟨u, hu, hle⟩ := hspaced.le_getLast hT hsend
        have := hdue.due u hu
        omega
      · exact hearlier _ htimer
    · obtain ⟨hatt, h0⟩ : attempts cfg e d.ws = true ∧ d.ws.lastRunTime ≠ 0 := by simpa using ha
      rw [hg]
      exact hnow hatt h0

/-- On a stream that stays up the packet goes out as soon as it is due. -/
theorem sendsDue_iff_usage :
    SendsMain usageConfig (runPasses usageConfig [] [smoothPass (seconds 100)])
      (smoothPass (seconds 130)) :=
  (sendsDue_iff usageConfig [] [smoothPass (seconds 100)] (smoothPass (seconds 130)) (by decide)
    (by decide) (by decide)).2 (fun _ => ⟨by decide, by decide⟩)
    ⟨by decide, by decide, by decide, by decide⟩

/-- The stream has closed and is reconnected when the next packet is due: the packet is not sent,
although the stream is open and connected and the last one was sent an interval ago. -/
theorem reconnect_postpones_packet :
    Steady [smoothPass (seconds 100), { smoothPass (seconds 130) with openAtCheck := false }] ∧
      ¬ (GateDue usageConfig (runPasses usageConfig [] [smoothPass (seconds 100)])
            { smoothPass (seconds 130) with openAtCheck := false } →
          SendsMain usageConfig (runPasses usageConfig [] [smoothPass (seconds 100)])
            { smoothPass (seconds 130) with openAtCheck := false }) := by
  refine ⟨by decide, fun h => ?_⟩
  have hdue : GateDue usageConfig (runPasses usageConfig [] [smoothPass (seconds 100)])
      { smoothPass (seconds 130) with openAtCheck := false } :=
    ⟨by decide, by decide, by decide, by decide⟩
  exact absurd ((sendsMain_iff _ _ _).1 (h hdue)) (by decide)

end WsTestClient
