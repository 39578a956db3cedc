import SubnetRouter.Lib.Run
import SubnetRouter.Settings.MultiKey

namespace SubnetRouter.Ntfy.Rounds

open Lib Settings

/-!
# The ntfy task (`main/ntfy_integration.c`)

Once a second the task looks whether the uplink is there and Tailscale is not.  When that has been
so for the configured delay it publishes an alert, and it learns how the publication went from a
flag that every other publication writes as well.  Then it may fetch the commands.

* `countSecond`, `alertDue`, `pollDue` — the parts of a round.
* `taskMachine` — the seconds, the publication of an alert, the reads of the flag, and the
  publications of others at any time.
* `Moves` — the steps, one by one.
-/

/-! ### The task -/

/-- The locals of `task_main`. They are counters of seconds, and two flags about what the task has
    done before. -/
structure TaskLocals where
  downSeconds : Nat
  pollSeconds : Nat
  retrySeconds : Nat
  alerted : Bool
  couldPollBefore : Bool
deriving DecidableEq

/-- What the task sees in one second: its copy of the configuration, `uplink_connected`, and whether
    Tailscale is enabled and not connected. -/
structure Second where
  c : NtfyConfig
  uplinkConnected : Bool
  tsDown : Bool
deriving DecidableEq

/-- `n + 1` in a `uint32_t`. -/
def succ32 (n : Nat) : Nat := (n + 1) % 4294967296

/-- The locals while there is nothing to do. -/
def idle : TaskLocals := ⟨0, 0, 0, false, false⟩

/-- The counters of one second. The end of an outage clears its length and the flag, but not the
    wait for the next try. -/
def countSecond (l : TaskLocals) (x : Second) : TaskLocals :=
  { l with
    downSeconds := if x.tsDown then succ32 l.downSeconds else 0
    alerted := if x.tsDown then l.alerted else false
    retrySeconds := l.retrySeconds - 1 }

/-- The task sends an alert. -/
def alertDue (l : TaskLocals) (x : Second) : Bool :=
  x.c.tailscaleAlerts && x.tsDown && x.c.failureDelaySeconds.toNat ≤ l.downSeconds &&
    !l.alerted && l.retrySeconds == 0

/-- `can_poll`. -/
def canPoll (x : Second) : Bool :=
  x.c.commandsEnabled && (!x.c.commandsOnlyWhenTailscaleDown || x.tsDown)

/-- The end of a round: whether the commands are polled, and the locals. The first second in which
    it may poll counts as one with the interval over. -/
def pollDue (l : TaskLocals) (x : Second) : Bool × TaskLocals :=
  let interval := x.c.pollIntervalSeconds.toNat
  let pollSeconds := if canPoll x && !l.couldPollBefore then interval else l.pollSeconds
  let l := { l with couldPollBefore := canPoll x }
  if canPoll x then
    if interval ≤ succ32 pollSeconds then (true, { l with pollSeconds := 0 })
    else (false, { l with pollSeconds := succ32 pollSeconds })
  else (false, { l with pollSeconds := 0 })

/-! ### The task among the other publishers -/

/-- Where the task is: between two rounds, in `send_tailscale_alert`, behind it, or about to look at
    the flag a second time.  `before` is the flag before the alert. -/
inductive Phase
  | waiting
  | publishing (before : Bool) (x : Second)
  | published (before : Bool) (x : Second)
  | checking (before : Bool) (x : Second)
deriving DecidableEq

/-- The task, `s_status`, and how often the commands were polled. The status is written by other
    publishers too. -/
structure Task where
  locals : TaskLocals
  lastPublishOk : Bool
  alertsSent : Nat
  phase : Phase
  polls : Nat
deriving DecidableEq

/-- What happens: a second passes, the alert is published (`none` when there is no memory for it or
    for the client), the task reads the flag, or somebody else has published. -/
inductive Step
  | second (x : Second)
  | publish (result : Option Bool)
  | look
  | other (ok : Bool)
deriving DecidableEq

/-- The rest of a round. -/
def Task.finish (s : Task) (l : TaskLocals) (x : Second) : Task :=
  let r := pollDue l x
  { s with locals := r.2, phase := .waiting, polls := s.polls + r.1.toNat }

/-- A round up to the alert. Without the service or the uplink the locals are as they were at the
    start. -/
def Task.round (s : Task) (x : Second) : Task :=
  if !x.c.enabled || !x.uplinkConnected then { s with locals := idle }
  else
    let l := countSecond s.locals x
    if alertDue l x then { s with locals := l, phase := .publishing s.lastPublishOk x }
    else s.finish l x

/-- `publish_message` in `send_tailscale_alert`. `none` is an alert that comes to no publication,
    which leaves the status alone. -/
def Task.publishMessage (s : Task) : Option Bool → Task
  | none => s
  | some ok =>
    { s with
      lastPublishOk := ok
      alertsSent := if ok then succ32 s.alertsSent else s.alertsSent }

/-- One step.  `if (!alerted || (!before && !s_status.last_publish_ok))` looks at the flag again
    when the alert went out and the flag was not set before it. -/
def step (s : Task) : Step → Option Task
  | .second x =>
    match s.phase with
    | .waiting => some (s.round x)
    | _ => none
  | .publish result =>
    match s.phase with
    | .publishing before x => some { s.publishMessage result with phase := .published before x }
    | _ => none
  | .look =>
    match s.phase with
    | .published before x =>
      let l := { s.locals with alerted := s.lastPublishOk }
      if !l.alerted then some (s.finish { l with retrySeconds := 60 } x)
      else if before then some (s.finish l x)
      else some { s with locals := l, phase := .checking before x }
    | .checking _ x =>
      if !s.lastPublishOk then some (s.finish { s.locals with retrySeconds := 60 } x)
      else some (s.finish s.locals x)
    | _ => none
  | .other ok => some { s with lastPublishOk := ok }

/-- The task among the other publishers. -/
def taskMachine : Machine Task Step := ⟨step⟩

/-- The task at its start. -/
def started : Task := ⟨idle, false, 0, .waiting, 0⟩

/-- The seconds of a run. -/
def seconds (as : List Step) : List Second :=
  as.filterMap fun
    | .second x => some x
    | _ => none

variable {s s' : Task} {a : Step} {as : List Step} {l : TaskLocals} {x : Second}

/-! ### What a step does -/

@[simp] theorem pollDue_downSeconds : (pollDue l x).2.downSeconds = l.downSeconds := by
  unfold pollDue
  dsimp only
  split_ifs <;> rfl

@[simp] theorem pollDue_retrySeconds : (pollDue l x).2.retrySeconds = l.retrySeconds := by
  unfold pollDue
  dsimp only
  split_ifs <;> rfl

@[simp] theorem pollDue_alerted : (pollDue l x).2.alerted = l.alerted := by
  unfold pollDue
  dsimp only
  split_ifs <;> rfl

/-- A second in which the uplink is there and Tailscale is not. -/
def Outage (x : Second) : Prop :=
  x.c.enabled = true ∧ x.uplinkConnected = true ∧ x.tsDown = true

instance (x : Second) : Decidable (Outage x) := inferInstanceAs (Decidable (_ ∧ _ ∧ _))

/-- The steps, one by one. Between the publication and the look at its result another publisher may
    write the flag. -/
inductive Moves (s : Task) : Step → Task → Prop
  | off (x : Second) (hphase : s.phase = .waiting) (hoff : ¬ (x.c.enabled ∧ x.uplinkConnected)) :
      Moves s (.second x) { s with locals := idle }
  | quiet (x : Second) (hphase : s.phase = .waiting) (hon : x.c.enabled ∧ x.uplinkConnected)
      (hdue : alertDue (countSecond s.locals x) x = false) :
      Moves s (.second x) (s.finish (countSecond s.locals x) x)
  | alert (x : Second) (hphase : s.phase = .waiting) (hon : x.c.enabled ∧ x.uplinkConnected)
      (hdue : alertDue (countSecond s.locals x) x = true) :
      Moves s (.second x)
        { s with locals := countSecond s.locals x, phase := .publishing s.lastPublishOk x }
  | publish (before : Bool) (x : Second) (result : Option Bool)
      (hphase : s.phase = .publishing before x) :
      Moves s (.publish result) { s.publishMessage result with phase := .published before x }
  | failed (before : Bool) (x : Second) (hphase : s.phase = .published before x)
      (hflag : s.lastPublishOk = false) :
      Moves s .look (s.finish { s.locals with alerted := false, retrySeconds := 60 } x)
  | sent (x : Second) (hphase : s.phase = .published true x) (hflag : s.lastPublishOk = true) :
      Moves s .look (s.finish { s.locals with alerted := true } x)
  | again (x : Second) (hphase : s.phase = .published false x) (hflag : s.lastPublishOk = true) :
      Moves s .look
        { s with locals := { s.locals with alerted := true }, phase := .checking false x }
  | checked (before : Bool) (x : Second) (retrySeconds : Nat)
      (hphase : s.phase = .checking before x)
      (hretry : retrySeconds = 60 ∨ retrySeconds = s.locals.retrySeconds) :
      Moves s .look (s.finish { s.locals with retrySeconds } x)
  | other (ok : Bool) : Moves s (.other ok) { s with lastPublishOk := ok }

/-- A step is one of these. Later proofs go along them, and do not unfold the step again. -/
theorem moves_of_step (h : taskMachine.step s a = some s') : Moves s a s' := by
  change step s a = some s' at h
  cases a with
  | second x =>
    cases hphase : s.phase <;> simp only [step, hphase, reduceCtorEq] at h
    obtain rfl := Option.some.inj h
    unfold Task.round
    -- The round is left without an uplink or with the integration off.
    have hoff : (!x.c.enabled || !x.uplinkConnected) = true ↔
        ¬ (x.c.enabled = true ∧ x.uplinkConnected = true) := by
      rw [← Bool.not_and, Bool.not_eq_true', ← Bool.not_eq_true, Bool.and_eq_true]
    split_ifs with h
    · exact .off x hphase (hoff.mp h)
    · rw [hoff] at h
      dsimp only
      split_ifs with hdue
      · exact .alert x hphase (not_not.mp h) hdue
      · exact .quiet x hphase (not_not.mp h) (Bool.eq_false_iff.mpr hdue)
  | publish result =>
    cases hphase : s.phase <;> simp only [step, hphase, reduceCtorEq] at h
    obtain rfl := Option.some.inj h
    exact .publish _ _ result hphase
  | look =>
    cases hphase : s.phase with
    | waiting => simp [step, hphase] at h
    | publishing before x => simp [step, hphase] at h
    -- The result of the alert is looked at through the flag that all publishers share.
    | published before x =>
      cases hflag : s.lastPublishOk with
      | false =>
        simp only [step, hphase, hflag, Bool.not_false, if_true] at h
        exact Option.some.inj h ▸ .failed before x hphase hflag
      | true =>
        cases before with
        | true =>
          simp only [step, hphase, hflag, Bool.not_true, Bool.false_eq_true, if_false,
            if_true] at h
          exact Option.some.inj h ▸ .sent x hphase hflag
        -- Another publisher has succeeded in between, so the flag tells nothing about this alert.
        | false =>
          simp only [step, hphase, hflag, Bool.not_true, Bool.false_eq_true, if_false] at h
          have hagain := Moves.again x hphase hflag
          rw [hflag] at hagain
          exact Option.some.inj h ▸ hagain
    | checking before x =>
      simp only [step, hphase] at h
      split_ifs at h with hflag
      · exact Option.some.inj h ▸ .checked before x 60 hphase (.inl rfl)
      · exact Option.some.inj h ▸ .checked before x _ hphase (.inr rfl)
  | other ok => exact Option.some.inj h ▸ .other ok

/-- When an alert is due. -/
theorem alertDue_iff : alertDue l x = true ↔
    x.c.tailscaleAlerts = true ∧ x.tsDown = true ∧
      x.c.failureDelaySeconds.toNat ≤ l.downSeconds ∧ l.alerted = false ∧ l.retrySeconds = 0 := by
  simp [alertDue, and_assoc]

theorem succ32_le (n : Nat) : succ32 n ≤ n + 1 := Nat.mod_le _ _

@[simp] theorem seconds_append (as bs : List Step) :
    seconds (as ++ bs) = seconds as ++ seconds bs :=
  List.filterMap_append ..

@[simp] theorem seconds_second (x : Second) : seconds [.second x] = [x] := rfl

@[simp] theorem seconds_publish (r : Option Bool) : seconds [.publish r] = [] := rfl

@[simp] theorem seconds_look : seconds [.look] = [] := rfl

@[simp] theorem seconds_other (ok : Bool) : seconds [.other ok] = [] := rfl

theorem mem_seconds {y : Second} : y ∈ seconds as ↔ .second y ∈ as := by
  unfold seconds
  rw [List.mem_filterMap]
  constructor
  · rintro ⟨a, ha, hy⟩
    cases a with
    | second x => exact Option.some.inj hy ▸ ha
    | publish | look | other => cases hy
  · exact fun hy => ⟨_, hy, rfl⟩

/-- Alerts after 15 seconds, with the other settings as they are by default. -/
def alertConfig : NtfyConfig :=
  { ntfyLoadConfig (fun _ => none) with
    enabled := true, tailscaleAlerts := true, failureDelaySeconds := 15 }

/-- A second of an outage. -/
def outageSecond : Second := ⟨alertConfig, true, true⟩

end SubnetRouter.Ntfy.Rounds
