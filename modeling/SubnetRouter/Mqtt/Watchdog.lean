import SubnetRouter.Lib.Run
import SubnetRouter.Settings.MultiKey

namespace SubnetRouter.Mqtt

open Lib Settings

/-!
# The broker watchdog (`main/mqtt_integration.c`)

The event handler notes when the broker was last there; once a second the manager looks whether
it has been away for the timeout, and then wakes it, once.  The two run on different tasks and
share three variables without a lock, so each assignment of the handler and each look of the
manager is a step of its own.

* `watchdogMachine` — the events and the manager, with the clock between them.
* `Outage` — what there was to see in one outage: when it began, the manager's ticks, the bursts.
* `Undisturbed` — a step at which the three shared variables still tell the outage.
* `watchdog_bursts` — the silence counts from the start of the outage, and each outage has one
  burst, at the first tick at which it has lasted for the timeout.
-/

/-! ### The code -/

/-- One outage, in microseconds: its start, the ticks during it and the bursts sent. It is kept for
    the record only; the code does not have it. -/
structure Outage where
  start : Nat
  ticks : List Nat
  bursts : List Nat
deriving DecidableEq

/-- The manager comes round during an outage, and may send a burst. -/
def Outage.tick (o : Outage) (now : Nat) (sent : Bool) : Outage :=
  ⟨o.start, o.ticks ++ [now], if sent then o.bursts ++ [now] else o.bursts⟩

/-- Where the handler of an event stands. Its writes are not under a lock, so the manager may come
    in between two of them. -/
inductive HandlerPhase where
  | idle
  /-- In `MQTT_EVENT_CONNECTED`, before it sets `s_last_broker_ok_us`. -/
  | connectedTime
  /-- In `MQTT_EVENT_CONNECTED`, before it clears `s_watchdog_triggered`. -/
  | connectedClear
  /-- In `MQTT_EVENT_DISCONNECTED`, before it sets `s_last_broker_ok_us`. -/
  | disconnectedTime
deriving DecidableEq

/-- Where the round of the manager stands. It reads the clock only behind its tests, and sets its
    flag only behind the burst. -/
inductive ManagerPhase where
  | idle
  /-- Behind the tests of `s_connected` and `s_watchdog_triggered`, before the clock is read. -/
  | looking
  /-- Behind `wol_send_saved_mac_text`, before `s_watchdog_triggered` is set; its result. -/
  | sending (wakeErr : EspErr)
deriving DecidableEq

/-- The variables that the event handler and the manager share, where the two stand, the
    outages so far, and the bursts that were sent outside of any outage. -/
structure Watchdog where
  now : Nat
  sConnected : Bool
  sLastBrokerOkUs : Nat
  sWatchdogTriggered : Bool
  sWatchdogWakeCount : Nat
  handler : HandlerPhase
  manager : ManagerPhase
  outage : Option Outage
  past : List Outage
  stray : List Nat
deriving DecidableEq

/-- The outages, the current one first. -/
def Watchdog.outages (s : Watchdog) : List Outage := s.outage.toList ++ s.past

/-- What may happen: time passes, the handler is called for an event or goes on, the manager
    looks at the flags, reads the clock (with the result of the burst, should it send one), or
    goes on after a burst. -/
inductive WatchdogStep where
  | wait (us : Nat)
  | connected
  | disconnected
  | handle
  | look
  | measure (wakeErr : EspErr)
  | setTriggered

/-- `broker_watchdog_timeout_seconds * 1000000LL`. -/
def timeoutUs (cfg : MqttConfig) : Nat := cfg.brokerWatchdogTimeoutSeconds.toNat * 1000000

/-- The conditions of `manager_task` on the flags and the configuration. -/
def Watchdog.alert (cfg : MqttConfig) (s : Watchdog) : Bool :=
  !s.sConnected && cfg.enabled && cfg.brokerWatchdogEnabled &&
    cfg.brokerWatchdogWolMac.text ≠ [] && !s.sWatchdogTriggered

/-- Its condition on the silence. -/
def Watchdog.due (cfg : MqttConfig) (s : Watchdog) : Bool :=
  timeoutUs cfg ≤ s.now - s.sLastBrokerOkUs

/-- The manager comes to the end of its tests; the result of the burst, if it sends one. The tick is
    entered into the outage under way, and a burst without one is a stray. -/
def Watchdog.tick (s : Watchdog) (burst : Option EspErr) : Watchdog :=
  let sent : Bool := burst = some espOk
  { s with
    manager := match burst with
      | none => .idle
      | some wakeErr => .sending wakeErr
    outage := s.outage.map fun o => o.tick s.now sent
    stray := if sent ∧ s.outage = none then s.stray ++ [s.now] else s.stray }

/-- The next assignment of the handler.  An outage begins when the handler of a
    `MQTT_EVENT_DISCONNECTED` that follows a connection reads the clock. -/
def Watchdog.handle (s : Watchdog) : Option Watchdog :=
  match s.handler with
  | .idle => none
  | .connectedTime => some { s with sLastBrokerOkUs := s.now, handler := .connectedClear }
  | .connectedClear => some { s with sWatchdogTriggered := false, handler := .idle }
  | .disconnectedTime => some { s with
      sLastBrokerOkUs := s.now
      handler := .idle
      outage := some (s.outage.getD ⟨s.now, [], []⟩) }

/-- The events and the manager.  An outage ends with the next connection. Time passes by itself, in
    any amount. -/
def watchdogMachine (cfg : MqttConfig) : Machine Watchdog WatchdogStep where
  step s
    | .wait us => some { s with now := s.now + us }
    | .connected => if s.handler = .idle then
        some { s with
          sConnected := true
          handler := .connectedTime
          outage := none
          past := s.outages }
      else none
    | .disconnected => if s.handler = .idle then
        some { s with sConnected := false, handler := .disconnectedTime }
      else none
    | .handle => s.handle
    | .look => if s.manager = .idle then
        some (if s.alert cfg then { s with manager := .looking } else s.tick none)
      else none
    | .measure wakeErr => if s.manager = .looking then
        some (s.tick (if s.due cfg then some wakeErr else none))
      else none
    | .setTriggered => match s.manager with
        | .sending wakeErr => some { s with
            sWatchdogTriggered := true
            sWatchdogWakeCount :=
              if wakeErr = espOk then (s.sWatchdogWakeCount + 1) % 2 ^ 32 else s.sWatchdogWakeCount
            manager := .idle }
        | _ => none

/-- `mqtt_integration_broker_silence_seconds`. -/
def brokerSilenceSeconds (s : Watchdog) : Nat :=
  if s.sConnected ∨ s.sLastBrokerOkUs = 0 then 0
  else (s.now - s.sLastBrokerOkUs) / 1000000 % 2 ^ 32

/-- After `start_client`: without a connection so far; the clock has been running since boot. The
    first outage begins here. -/
def startClient (us : Nat) : Watchdog where
  now := us + 1
  sConnected := false
  sLastBrokerOkUs := us + 1
  sWatchdogTriggered := false
  sWatchdogWakeCount := 0
  handler := .idle
  manager := .idle
  outage := some ⟨us + 1, [], []⟩
  past := []
  stray := []

/-! ### The outages -/

/-- The first tick at which an outage has lasted for the timeout. -/
def Outage.deadline (cfg : MqttConfig) (o : Outage) : Option Nat :=
  o.ticks.find? fun t => timeoutUs cfg ≤ t - o.start

/-- One burst, at that tick. -/
def Outage.Answered (cfg : MqttConfig) (o : Outage) : Prop := o.bursts = (o.deadline cfg).toList

/-- When no event is being handled, the silence counts from the start of the outage. It is in whole
    seconds and 32 bits wide, as the code computes it. -/
def Measured (s : Watchdog) : Prop :=
  s.handler = .idle →
    match s.outage with
    | none => brokerSilenceSeconds s = 0
    | some o => s.sLastBrokerOkUs = o.start ∧
        brokerSilenceSeconds s = (s.now - o.start) / 1000000 % 2 ^ 32

/-- One burst for each outage, and none outside of them. -/
def Answered (cfg : MqttConfig) (s : Watchdog) : Prop :=
  (∀ o ∈ s.outages, o.Answered cfg) ∧ s.stray = []

/-- The watchdog is switched on, for a device. -/
structure Watching (cfg : MqttConfig) : Prop where
  enabled : cfg.enabled = true
  watchdog : cfg.brokerWatchdogEnabled = true
  device : cfg.brokerWatchdogWolMac.text ≠ []

/-- The manager has sent a burst and not set the flag yet. -/
def ManagerPhase.isSending : ManagerPhase → Bool
  | .sending _ => true
  | _ => false

/-- The time that `MQTT_EVENT_DISCONNECTED` writes during an outage is the one that is there,
    `MQTT_EVENT_CONNECTED` does not clear the flag while a burst is on its way to set it, and
    a burst that falls due does so during an outage, and goes out. -/
def Undisturbed (cfg : MqttConfig) (s : Watchdog) : WatchdogStep → Prop
  | .handle =>
    (s.handler = .disconnectedTime → s.outage.isSome = true → s.now = s.sLastBrokerOkUs) ∧
      (s.handler = .connectedClear → s.manager.isSending = false)
  | .measure wakeErr => s.due cfg = true → s.outage.isSome = true ∧ wakeErr = espOk
  | _ => True

instance (cfg : MqttConfig) (s : Watchdog) (a : WatchdogStep) :
    Decidable (Undisturbed cfg s a) := by
  cases a <;> unfold Undisturbed <;> infer_instance

/-- An outage that is on: the variables tell its start, it has been answered so far, and its
    deadline is behind it when the flag is set or about to be. -/
structure InOutage (cfg : MqttConfig) (s : Watchdog) (o : Outage) : Prop where
  connected : s.sConnected = false
  handler : s.handler = .idle ∨ s.handler = .disconnectedTime
  last : s.sLastBrokerOkUs = o.start
  booted : 0 < o.start
  answered : o.Answered cfg
  deadline : (o.deadline cfg).isSome ↔
    s.sWatchdogTriggered = true ∨ s.manager.isSending = true

/-- Outside of an outage, the connection is there, unless the handler is about to note the
    start of the next one; and but for a connection that is still being noted, the flag is
    clear and will stay so. -/
structure Between (s : Watchdog) : Prop where
  connected : s.handler ≠ .disconnectedTime → s.sConnected = true
  clear : s.handler = .idle ∨ s.handler = .disconnectedTime →
    s.sWatchdogTriggered = false ∧ s.manager.isSending = false

/-- What holds between the steps, of any run whose steps meet the condition. The last two parts tell
    an outage from the time without one. -/
structure Inv (cfg : MqttConfig) (s : Watchdog) : Prop where
  booted : 0 < s.now
  past : ∀ o ∈ s.past, o.Answered cfg
  stray : s.stray = []
  looking : s.manager = .looking → s.sWatchdogTriggered = false
  disconnecting : s.handler = .disconnectedTime → s.sConnected = false
  between : s.outage = none → Between s
  outage : ∀ o ∈ s.outage, InOutage cfg s o

variable {cfg : MqttConfig} {s t : Watchdog} {a : WatchdogStep} {o : Outage}

/-- One more tick: it is the deadline if there was none and the outage has lasted for the
    timeout. -/
theorem deadline_tick (o : Outage) (now : Nat) (sent : Bool) :
    (o.tick now sent).deadline cfg =
      (o.deadline cfg).or (if timeoutUs cfg ≤ now - o.start then some now else none) := by
  unfold Outage.deadline Outage.tick
  rw [List.find?_append]
  congr 1
  by_cases hlong : timeoutUs cfg ≤ now - o.start <;> simp [hlong]

/-- An outage stays answered if a burst is sent at the deadline, and then only. The deadline is the
    first tick at which the silence is long enough. -/
theorem Outage.Answered.tick (h : o.Answered cfg) {now : Nat} {sent : Bool}
    (hsent : sent = true ↔ o.deadline cfg = none ∧ timeoutUs cfg ≤ now - o.start) :
    (o.tick now sent).Answered cfg ∧
      (((o.tick now sent).deadline cfg).isSome ↔ (o.deadline cfg).isSome ∨ sent = true) := by
  unfold Outage.Answered at h ⊢
  rw [deadline_tick]
  cases hdeadline : o.deadline cfg with
  -- The deadline is set already: this tick must be quiet.
  | some t =>
    have hquiet : sent = false := by
      rw [Bool.eq_false_iff]
      intro hon
      rw [hdeadline] at hsent
      cases (hsent.mp hon).1
    rw [hdeadline] at h
    rw [hquiet]
    exact ⟨h, by simp⟩
  | none =>
    rw [hdeadline] at h
    -- It is not set: the burst goes out exactly if the silence is long enough.
    simp only [hdeadline, true_and] at hsent
    by_cases hlong : timeoutUs cfg ≤ now - o.start
    · rw [if_pos hlong, hsent.mpr hlong]
      refine ⟨?_, by simp⟩
      show o.bursts ++ [now] = [now]
      rw [h]
      rfl
    · have hquiet : sent = false := by
        rw [Bool.eq_false_iff]
        exact fun hon => hlong (hsent.mp hon)
      rw [if_neg hlong, hquiet]
      exact ⟨h, by simp⟩

theorem Inv.answered (h : Inv cfg s) : ∀ o ∈ s.outages, o.Answered cfg := by
  intro o ho
  rw [Watchdog.outages, List.mem_append, Option.mem_toList] at ho
  rcases ho with hcurrent | hpast
  · exact (h.outage o hcurrent).answered
  · exact h.past o hpast

theorem Inv.measured (h : Inv cfg s) : Measured s := by
  intro hidle
  unfold brokerSilenceSeconds
  cases houtage : s.outage with
  | none => simp [(h.between houtage).connected (by simp [hidle])]
  | some o =>
    have hin := h.outage o houtage
    refine ⟨hin.last, ?_⟩
    rw [if_neg (by simp [hin.connected, hin.last, Nat.ne_of_gt hin.booted]), hin.last]

/-- The end of a round: in an outage a burst goes out at the deadline, and then only, and
    outside of outages none does. -/
theorem Inv.tick (h : Inv cfg s) (hquiet : s.manager.isSending = false) {burst : Option EspErr}
    (hok : ∀ wakeErr ∈ burst, wakeErr = espOk) (houtage : burst.isSome → s.outage.isSome)
    (hburst : ∀ o ∈ s.outage, (burst.isSome ↔
      o.deadline cfg = none ∧ timeoutUs cfg ≤ s.now - o.start)) :
    Inv cfg (s.tick burst) := by
  have hmanager : (s.tick burst).manager.isSending = burst.isSome := by
    cases burst <;> rfl
  -- The burst's notification has succeeded, so whether it was sent and whether it arrived agree.
  have hsent : decide (burst = some espOk) = burst.isSome := by
    cases burst with
    | none => rfl
    | some wakeErr =>
      rw [hok wakeErr rfl]
      exact decide_eq_true rfl
  refine ⟨h.booted, h.past, ?_, ?_, h.disconnecting, ?_, ?_⟩
  · show (if _ ∧ s.outage = none then s.stray ++ [s.now] else s.stray) = []
    rw [hsent, if_neg ?_, h.stray]
    -- No burst is sent outside of an outage.
    rintro ⟨hsome, hnone⟩
    have hon := houtage hsome
    rw [hnone] at hon
    cases hon
  · intro hlooking
    cases burst <;> cases hlooking
  -- Outside of one the manager is left as it was.
  · intro hnone
    have hout : s.outage = none := Option.map_eq_none_iff.mp hnone
    refine ⟨(h.between hout).connected, fun hphase => ⟨((h.between hout).clear hphase).1, ?_⟩⟩
    rw [hmanager, Option.isSome_eq_false_iff, Option.isNone_iff_eq_none,
      ← Option.not_isSome_iff_eq_none]
    intro hsome
    have hon := houtage hsome
    rw [hout] at hon
    cases hon
  · intro o' ho'
    -- Within one it is `Outage.Answered.tick`.
    obtain ⟨o, ho, rfl⟩ := Option.map_eq_some_iff.mp ho'
    have hin := h.outage o ho
    have hdue : decide (burst = some espOk) = true ↔
        o.deadline cfg = none ∧ timeoutUs cfg ≤ s.now - o.start := by
      rw [hsent]
      exact hburst o ho
    obtain ⟨hanswered, hdeadline⟩ := hin.answered.tick hdue
    refine ⟨hin.connected, hin.handler, hin.last, hin.booted, hanswered, ?_⟩
    rw [hdeadline, hin.deadline, hquiet, hsent, hmanager]
    show _ ↔ s.sWatchdogTriggered = true ∨ burst.isSome = true
    simp

/-- The look at the flags. If they do not ask for more the round ends here, and counts as a tick
    without a burst. -/
theorem Inv.look (hwatching : Watching cfg) (h : Inv cfg s) (hidle : s.manager = .idle) :
    Inv cfg (if s.alert cfg then { s with manager := .looking } else s.tick none) := by
  have hquiet : s.manager.isSending = false := by
    rw [hidle]
    rfl
  split_ifs with halert
  · have hclear : s.sWatchdogTriggered = false := by
      simp only [Watchdog.alert, Bool.and_eq_true, Bool.not_eq_true'] at halert
      exact halert.2
    refine ⟨h.booted, h.past, h.stray, fun _ => hclear, h.disconnecting, ?_, ?_⟩
    · intro hnone
      exact ⟨(h.between hnone).connected, fun hphase => ⟨((h.between hnone).clear hphase).1, rfl⟩⟩
    · intro o ho
      have hin := h.outage o ho
      have hdeadline := hin.deadline
      rw [hquiet] at hdeadline
      exact ⟨hin.connected, hin.handler, hin.last, hin.booted, hin.answered, hdeadline⟩
  · refine h.tick hquiet nofun nofun fun o ho => ?_
    -- the round ends at the flag: this outage has had its burst
    have hin := h.outage o ho
    have htriggered : s.sWatchdogTriggered = true := by
      simpa [Watchdog.alert, hin.connected, hwatching.enabled, hwatching.watchdog,
        hwatching.device] using halert
    have hsome := hin.deadline.mpr (.inl htriggered)
    constructor
    · intro hnone
      cases hnone
    · rintro ⟨hnone, -⟩
      rw [hnone] at hsome
      cases hsome

/-- The look at the clock. The round ends with a burst exactly if the silence is long enough by
    then. -/
theorem Inv.measure (h : Inv cfg s) (hlooking : s.manager = .looking) {wakeErr : EspErr}
    (hundisturbed : s.due cfg = true → s.outage.isSome = true ∧ wakeErr = espOk) :
    Inv cfg (s.tick (if s.due cfg then some wakeErr else none)) := by
  have hquiet : s.manager.isSending = false := by
    rw [hlooking]
    rfl
  have hsome : (if s.due cfg then some wakeErr else none).isSome = s.due cfg := by
    cases s.due cfg <;> rfl
  apply h.tick hquiet
  · intro e he
    rw [Option.mem_def, Option.ite_none_right_eq_some, Option.some.injEq] at he
    rw [← he.2]
    exact (hundisturbed he.1).2
  · intro hdue
    rw [hsome] at hdue
    exact (hundisturbed hdue).1
  · intro o ho
    have hin := h.outage o ho
    -- the flag is clear, so the deadline is still ahead
    have hnone : o.deadline cfg = none := by
      rw [← Option.not_isSome_iff_eq_none, hin.deadline, h.looking hlooking, hquiet]
      simp
    rw [hsome, hnone, Watchdog.due, hin.last, decide_eq_true_iff]
    exact ⟨fun hlong => ⟨rfl, hlong⟩, And.right⟩

/-- The handler goes on. Its later writes date the silence and clear the flag; the condition keeps
    the manager out of the time in between. -/
theorem Inv.handle (h : Inv cfg s) (hundisturbed : Undisturbed cfg s .handle)
    (hstep : s.handle = some t) : Inv cfg t := by
  have hout : s.handler = .connectedTime ∨ s.handler = .connectedClear → s.outage = none := by
    intro hphase
    rw [Option.eq_none_iff_forall_not_mem]
    intro o ho
    rcases hphase with hphase | hphase <;> simpa [hphase] using (h.outage o ho).handler
  cases hphase : s.handler with
  | idle => simp [Watchdog.handle, hphase] at hstep
  | connectedTime =>
    simp only [Watchdog.handle, hphase, Option.some.injEq] at hstep
    subst hstep
    have hnone := hout (.inl hphase)
    refine ⟨h.booted, h.past, h.stray, h.looking, nofun, fun _ => ⟨fun _ => ?_, by simp⟩, ?_⟩
    · exact (h.between hnone).connected (by simp [hphase])
    · intro o ho
      change s.outage = some o at ho
      rw [hnone] at ho
      cases ho
  | connectedClear =>
    simp only [Watchdog.handle, hphase, Option.some.injEq] at hstep
    subst hstep
    have hnone := hout (.inr hphase)
    refine ⟨h.booted, h.past, h.stray, fun _ => rfl, nofun,
      fun _ => ⟨fun _ => ?_, fun _ => ⟨rfl, hundisturbed.2 hphase⟩⟩, ?_⟩
    · exact (h.between hnone).connected (by simp [hphase])
    · intro o ho
      change s.outage = some o at ho
      rw [hnone] at ho
      cases ho
  | disconnectedTime =>
    simp only [Watchdog.handle, hphase, Option.some.injEq] at hstep
    subst hstep
    refine ⟨h.booted, h.past, h.stray, h.looking, nofun, nofun, ?_⟩
    intro o ho
    have hconnected := h.disconnecting hphase
    obtain rfl := Option.some.inj ho
    cases houtage : s.outage with
    | none =>
      -- a new outage
      obtain ⟨hclear, hquiet⟩ := (h.between houtage).clear (.inr hphase)
      refine ⟨hconnected, .inl rfl, rfl, h.booted, rfl, ?_⟩
      show _ ↔ s.sWatchdogTriggered = true ∨ s.manager.isSending = true
      simp [Outage.deadline, hclear, hquiet]
    | some o =>
      have hin := h.outage o houtage
      refine ⟨hconnected, .inl rfl, ?_, hin.booted, hin.answered, hin.deadline⟩
      -- the time is written again, and is the same
      show s.now = o.start
      rw [hundisturbed.1 hphase (by rw [houtage]; rfl), hin.last]

/-- One step. The events and the manager take turns, and time may pass before each of them. -/
theorem inv_step (hwatching : Watching cfg) (hundisturbed : Undisturbed cfg s a)
    (hstep : (watchdogMachine cfg).step s a = some t) (h : Inv cfg s) : Inv cfg t := by
  cases a with
  | wait us =>
    cases hstep
    exact ⟨Nat.lt_of_lt_of_le h.booted (Nat.le_add_right _ _), h.past, h.stray, h.looking,
      h.disconnecting, fun hnone => ⟨(h.between hnone).connected, (h.between hnone).clear⟩,
      fun o ho =>
        have hin := h.outage o ho
        ⟨hin.connected, hin.handler, hin.last, hin.booted, hin.answered, hin.deadline⟩⟩
  | connected =>
    obtain ⟨-, hstep⟩ := Option.ite_none_right_eq_some.mp hstep
    cases hstep
    exact ⟨h.booted, h.answered, h.stray, h.looking, nofun,
      fun _ => ⟨fun _ => rfl, by simp⟩, nofun⟩
  | disconnected =>
    obtain ⟨hidle, hstep⟩ := Option.ite_none_right_eq_some.mp hstep
    cases hstep
    refine ⟨h.booted, h.past, h.stray, h.looking, fun _ => rfl, fun hnone => ?_, fun o ho => ?_⟩
    · exact ⟨fun hne => absurd rfl hne, fun _ => (h.between hnone).clear (.inl hidle)⟩
    · have hin := h.outage o ho
      exact ⟨rfl, .inr rfl, hin.last, hin.booted, hin.answered, hin.deadline⟩
  | handle => exact h.handle hundisturbed hstep
  | look =>
    obtain ⟨hidle, hstep⟩ := Option.ite_none_right_eq_some.mp hstep
    cases hstep
    exact h.look hwatching hidle
  | measure wakeErr =>
    obtain ⟨hlooking, hstep⟩ := Option.ite_none_right_eq_some.mp hstep
    cases hstep
    exact h.measure hlooking hundisturbed
  | setTriggered =>
    cases hmanager : s.manager with
    | idle => simp [watchdogMachine, hmanager] at hstep
    | looking => simp [watchdogMachine, hmanager] at hstep
    | sending wakeErr =>
      simp only [watchdogMachine, hmanager, Option.some.injEq] at hstep
      subst hstep
      refine ⟨h.booted, h.past, h.stray, nofun, h.disconnecting, fun hnone => ?_, fun o ho => ?_⟩
      · refine ⟨(h.between hnone).connected, fun hphase => ?_⟩
        -- nothing is on its way outside of an outage
        have hquiet := ((h.between hnone).clear hphase).2
        rw [hmanager] at hquiet
        cases hquiet
      · have hin := h.outage o ho
        refine ⟨hin.connected, hin.handler, hin.last, hin.booted, hin.answered, ?_⟩
        rw [hin.deadline, hmanager]
        simp [ManagerPhase.isSending]

theorem inv_startClient (us : Nat) : Inv cfg (startClient us) where
  booted := Nat.succ_pos us
  past := nofun
  stray := rfl
  looking := nofun
  disconnecting := nofun
  between := nofun
  outage o ho := by
    obtain rfl := Option.some.inj ho
    exact ⟨rfl, .inl rfl, rfl, Nat.succ_pos us, rfl, by simp [Outage.deadline, startClient,
      ManagerPhase.isSending]⟩

/-- **One burst for each outage.** In every run of undisturbed steps with the watchdog on, the
    silence counts from the start of the current outage, and each outage has one burst, at the
    first tick at which it has lasted for the timeout, and none before; nor is there a burst
    outside of the outages. -/
theorem watchdog_bursts (cfg : MqttConfig) (hwatching : Watching cfg) (us : Nat)
    (steps : List WatchdogStep) (s : Watchdog)
    (hundisturbed : (watchdogMachine cfg).Meets (Undisturbed cfg) (startClient us) steps)
    (hrun : (watchdogMachine cfg).run (startClient us) steps = some s) :
    Measured s ∧ Answered cfg s := by
  have hinv : Inv cfg s :=
    Machine.invariant_of_meets (I := Inv cfg)
      (fun _ _ _ hmet hstep h => inv_step hwatching hmet hstep h) hundisturbed hrun
      (inv_startClient us)
  exact ⟨hinv.measured, hinv.answered, hinv.stray⟩

/-! ### A broker that comes back, and one that stays away -/

/-- A watchdog of 30 seconds. Its wake address is set, so that a burst can be sent. -/
def halfMinute : MqttConfig :=
  { oldMqtt with
    brokerWatchdogEnabled := true
    brokerWatchdogTimeoutSeconds := 30
    brokerWatchdogWolMac := .strlcpy 17 "02:00:00:00:00:01".toList }

/-- A connection, an outage of 40 seconds with two rounds of the manager after the timeout, and
    a connection. -/
def oneOutage : List WatchdogStep :=
  [.wait 1000000, .connected, .handle, .handle, .wait 60000000, .disconnected, .handle,
    .wait 30000000, .look, .measure espOk, .setTriggered, .wait 10000000, .look, .connected,
    .handle, .handle]

/-- The broker is woken once, after 30 seconds. -/
theorem oneOutage_burst :
    ∃ s, (watchdogMachine halfMinute).run (startClient 0) oneOutage = some s ∧
      s.past = [⟨61000001, [91000001, 101000001], [91000001]⟩, ⟨1, [], []⟩] ∧
      Measured s ∧ Answered halfMinute s := by
  refine ⟨_, rfl, by decide, ?_⟩
  exact watchdog_bursts halfMinute ⟨by decide, by decide, by decide⟩ 0 oneOutage _ (by decide) rfl

/-- The client tries to connect again after 20 seconds, and fails. -/
def retried : List WatchdogStep :=
  [.wait 20000000, .disconnected, .handle, .wait 15000000, .look, .measure espOk]

/-- The failed attempt restarts the silence: no burst after 35 seconds. -/
theorem retry_restarts_silence :
    ¬ ∀ (cfg : MqttConfig) (us : Nat) (steps : List WatchdogStep) (s : Watchdog), Watching cfg →
      (watchdogMachine cfg).run (startClient us) steps = some s →
        Measured s ∧ Answered cfg s := by
  intro h
  have hanswered := (h halfMinute 0 retried _ ⟨by decide, by decide, by decide⟩ rfl).2.1
    ⟨1, [35000001], []⟩ (by decide)
  revert hanswered
  unfold Outage.Answered
  decide

-- A round of the manager between the two assignments of `MQTT_EVENT_DISCONNECTED` takes the
-- time of the connection for the start of the outage, and sends its burst at once.
example :
    ((watchdogMachine halfMinute).run (startClient 0)
      [.connected, .handle, .handle, .wait 60000000, .disconnected, .look, .measure espOk]).map
        Watchdog.stray = some [60000001] := by
  decide

end SubnetRouter.Mqtt
