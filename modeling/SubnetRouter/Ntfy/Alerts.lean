import SubnetRouter.Ntfy.Rounds

namespace SubnetRouter.Ntfy.Rounds

open Lib Settings

/-!
# Alerts over ntfy (`main/ntfy_integration.c`)

What the publications of the task say about the outage, and what an outage leads to.

* `alerts_spaced` — two alerts are a minute or the delay apart.
* `alert_only_after_delay` — an alert means that the outage has lasted for the delay.
* `alerted_was_delivered` — what the task needs for an alert that it takes for sent to be sent.
* `outage_is_reported` — an outage that lasts is reported, again and again until it is delivered.
-/

variable {s s' t : Task} {a : Step} {as : List Step} {l : TaskLocals} {x : Second}
  {xs : List Second} {n m : Nat}

/-! ### The time between two alerts -/

/-- What holds when the seconds `xs` have passed since an alert was published: what keeps the next
    one back is the flag, the minute, or the delay. -/
def Spaced (xs : List Second) (s : Task) : Prop :=
  match s.phase with
  | .waiting =>
    s.locals.alerted = true ∨ 60 ≤ s.locals.retrySeconds + xs.length ∨
      s.locals.downSeconds ≤ xs.length
  | .publishing _ x =>
    xs.getLast? = some x ∧ min 60 x.c.failureDelaySeconds.toNat ≤ xs.length
  | .published _ _ => True
  | .checking _ _ => s.locals.alerted = true

theorem spaced_finish : Spaced xs (s.finish l x) ↔
    l.alerted = true ∨ 60 ≤ l.retrySeconds + xs.length ∨ l.downSeconds ≤ xs.length := by
  simp [Spaced, Task.finish]

/-- One more second without an alert. -/
theorem spaced_countSecond
    (h : l.alerted = true ∨ 60 ≤ l.retrySeconds + xs.length ∨ l.downSeconds ≤ xs.length) :
    (countSecond l x).alerted = true ∨ 60 ≤ (countSecond l x).retrySeconds + (xs.length + 1) ∨
      (countSecond l x).downSeconds ≤ xs.length + 1 := by
  unfold countSecond
  cases hdown : x.tsDown with
  | false => exact .inr (.inr (Nat.zero_le _))
  | true =>
    simp only [if_true]
    obtain h | h | h := h
    · exact .inl h
    · exact .inr (.inl (by omega))
    · exact .inr (.inr ((succ32_le _).trans (by omega)))

/-- **One step.** The time since the alert goes on. An alert that is sent starts it again, and the
    end of an outage does not. -/
theorem spaced_step (hs : taskMachine.step s a = some s') (h : Spaced xs s) :
    Spaced (xs ++ seconds [a]) s' := by
  unfold Spaced at h
  cases moves_of_step hs with
  | off x hphase hoff =>
    simp only [Spaced, hphase]
    exact .inr (.inr (Nat.zero_le _))
  | quiet x hphase hon hdue =>
    rw [hphase] at h
    rw [spaced_finish, seconds_second, List.length_append, List.length_singleton]
    exact spaced_countSecond h
  | alert x hphase hon hdue =>
    rw [hphase] at h
    obtain ⟨-, -, hdelay, halerted, hretry⟩ := alertDue_iff.mp hdue
    -- the flag is not set and the minute is over: what is left is the bound of the second
    have hcount := spaced_countSecond (x := x) h
    rw [halerted, hretry] at hcount
    refine ⟨by rw [seconds_second, List.getLast?_append_cons]; rfl, ?_⟩
    rw [seconds_second, List.length_append, List.length_singleton]
    obtain hcount | hcount | hcount := hcount
    · cases hcount
    · omega
    · exact (Nat.min_le_right _ _).trans (hdelay.trans hcount)
  | publish before x result hphase => exact trivial
  | failed before x hphase hflag => exact spaced_finish.mpr (.inr (.inl (Nat.le_add_right _ _)))
  | sent x hphase hflag => exact spaced_finish.mpr (.inl rfl)
  | again x hphase hflag => exact rfl
  | checked before x retrySeconds hphase hretry =>
    rw [hphase] at h
    exact spaced_finish.mpr (.inl h)
  | other ok =>
    rw [seconds_other, List.append_nil]
    exact h

/-- Between two alerts lie a minute or, where that is less, the seconds of the delay, whatever the
    configuration was meanwhile and whoever else has published. -/
theorem alerts_spaced (s t : Task) (r r' : Option Bool) (mid : List Step)
    (hrun : taskMachine.run s (.publish r :: mid ++ [.publish r']) = some t) :
    ∃ x, (seconds mid).getLast? = some x ∧
      min 60 x.c.failureDelaySeconds.toNat ≤ (seconds mid).length := by
  obtain ⟨s₁, hfirst, hrest⟩ := Machine.run_cons.mp hrun
  obtain ⟨s₂, hmid, hlast⟩ := Machine.run_append.mp hrest
  obtain ⟨s₃, hsecond, -⟩ := Machine.run_cons.mp hlast
  -- An alert sets the wait for the next one, whatever its result.
  have hstart : Spaced [] s₁ := by
    cases moves_of_step hfirst with
    | publish before x result hphase => exact trivial
  -- What the seconds since the alert have left of the wait is the invariant along the run.
  have hspaced : Spaced (seconds mid) s₂ := by
    refine Machine.history (I := fun as s => Spaced (seconds as) s)
      (fun as s a s' _ hs h => ?_) (Machine.meets_true s₁ mid) hmid hstart
    rw [seconds_append]
    exact spaced_step hs h
  -- The second alert begins where nothing of it is left.
  cases moves_of_step hsecond with
  | publish before x result hphase =>
    unfold Spaced at hspaced
    rw [hphase] at hspaced
    exact ⟨x, hspaced⟩

/-- A publication that failed, and the next one. -/
def failedAlert : List Step := .look :: List.replicate 60 (.second outageSecond)

/-- The alert is due after 15 seconds, and the next one waits for a minute. -/
theorem minute_between_alerts : ∃ x, (seconds failedAlert).getLast? = some x ∧
    min 60 x.c.failureDelaySeconds.toNat ≤ (seconds failedAlert).length := by
  obtain ⟨t, hrun⟩ := Option.isSome_iff_exists.mp
    (show (taskMachine.run
      { started with
        phase := .publishing false outageSecond, locals := { idle with downSeconds := 15 } }
      (.publish (some false) :: failedAlert ++ [.publish (some true)])).isSome = true by
      decide +kernel)
  exact alerts_spaced _ t _ _ _ hrun

/-! ### The outage before an alert -/

/-- The last `n` of the seconds belong to an outage. -/
def LastsFor (n : Nat) (xs : List Second) : Prop :=
  n ≤ xs.length ∧ ∀ y ∈ xs.drop (xs.length - n), Outage y

theorem lastsFor_zero (xs : List Second) : LastsFor 0 xs :=
  ⟨Nat.zero_le _, by simp⟩

theorem LastsFor.mono (h : LastsFor n xs) (hm : m ≤ n) : LastsFor m xs := by
  refine ⟨hm.trans h.1, fun y hy => h.2 y ?_⟩
  have hsplit : xs.length - m = (xs.length - n) + (n - m) := by have := h.1; omega
  rw [hsplit, ← List.drop_drop] at hy
  exact List.mem_of_mem_drop hy

theorem LastsFor.snoc (h : LastsFor n xs) (hx : Outage x) : LastsFor (n + 1) (xs ++ [x]) := by
  refine ⟨by simpa using h.1, fun y hy => ?_⟩
  rw [List.length_append, List.length_singleton, Nat.add_sub_add_right,
    List.drop_append_of_le_length (Nat.sub_le _ _)] at hy
  obtain hy | hy := List.mem_append.mp hy
  · exact h.2 y hy
  · exact List.mem_singleton.mp hy ▸ hx

/-- `down_seconds` counts seconds of the outage, and an alert waits for the delay. -/
structure Counted (xs : List Second) (s : Task) : Prop where
  down : LastsFor s.locals.downSeconds xs
  alert : ∀ before x, s.phase = .publishing before x →
    xs.getLast? = some x ∧ x.c.failureDelaySeconds.toNat ≤ s.locals.downSeconds

/-- A second in which the task is on counts, if Tailscale is down. -/
theorem Counted.countSecond (h : Counted xs s) (hon : x.c.enabled ∧ x.uplinkConnected) :
    LastsFor (countSecond s.locals x).downSeconds (xs ++ [x]) := by
  unfold Rounds.countSecond
  cases hdown : x.tsDown with
  | false => exact lastsFor_zero _
  | true => exact (h.down.snoc ⟨hon.1, hon.2, hdown⟩).mono (succ32_le _)

/-- The end of a round keeps the count. -/
theorem counted_finish (h : LastsFor l.downSeconds xs) : Counted xs (s.finish l x) where
  down := by
    show LastsFor (pollDue l x).2.downSeconds xs
    rwa [pollDue_downSeconds]
  alert before y hy := by simp [Task.finish] at hy

/-- **One step.** The count goes on with every second, and the steps within a round leave it
    alone. -/
theorem counted_step (hs : taskMachine.step s a = some s') (h : Counted xs s) :
    Counted (xs ++ seconds [a]) s' := by
  -- The count of the outage is the seconds since the uplink was last off or the tunnel up.
  cases moves_of_step hs with
  | off x hphase hoff => exact ⟨lastsFor_zero _, fun before y hy => by simp [hphase] at hy⟩
  | quiet x hphase hon hdue => exact counted_finish (h.countSecond hon)
  | alert x hphase hon hdue =>
    -- The alert is due, so the delay has gone by in the last of these seconds.
    refine ⟨h.countSecond hon, fun before y hy => ?_⟩
    obtain ⟨-, rfl⟩ := Phase.publishing.inj hy
    exact ⟨by rw [seconds_second, List.getLast?_append_cons]; rfl, (alertDue_iff.mp hdue).2.2.1⟩
  | publish before x result hphase =>
    rw [seconds_publish, List.append_nil]
    refine ⟨?_, fun before y hy => by simp at hy⟩
    cases result <;> exact h.down
  | failed | sent | checked =>
    rw [seconds_look, List.append_nil]
    exact counted_finish h.down
  | again x hphase hflag =>
    rw [seconds_look, List.append_nil]
    exact ⟨h.down, fun before y hy => by simp at hy⟩
  | other ok =>
    rw [seconds_other, List.append_nil]
    exact ⟨h.down, h.alert⟩

theorem counted_run (hrun : taskMachine.run started as = some s) : Counted (seconds as) s := by
  refine Machine.history (I := fun as s => Counted (seconds as) s)
    (fun as s a s' _ hs h => ?_) (Machine.meets_true started as) hrun
    ⟨lastsFor_zero _, fun before x h => by simp [started] at h⟩
  rw [seconds_append]
  exact counted_step hs h

/-- An alert is published only when the outage has lasted for the delay without a break. -/
theorem alert_only_after_delay (as : List Step) (r : Option Bool) (t : Task)
    (hrun : taskMachine.run started (as ++ [.publish r]) = some t) :
    ∃ x, (seconds as).getLast? = some x ∧
      LastsFor x.c.failureDelaySeconds.toNat (seconds as) := by
  obtain ⟨s, has, hlast⟩ := Machine.run_append.mp hrun
  obtain ⟨s', hpublish, -⟩ := Machine.run_cons.mp hlast
  have hcounted := counted_run has
  cases moves_of_step hpublish with
  | publish before x result hphase =>
    obtain ⟨hx, hdelay⟩ := hcounted.alert before x hphase
    exact ⟨x, hx, hcounted.down.mono hdelay⟩

/-- Fifteen seconds, and an alert. -/
theorem delay_before_alert : ∃ x,
    (seconds (List.replicate 15 (.second outageSecond))).getLast? = some x ∧
      LastsFor x.c.failureDelaySeconds.toNat
        (seconds (List.replicate 15 (.second outageSecond))) := by
  obtain ⟨t, hrun⟩ := Option.isSome_iff_exists.mp
    (show (taskMachine.run started
      (List.replicate 15 (.second outageSecond) ++ [.publish none])).isSome = true by
      decide +kernel)
  exact alert_only_after_delay _ _ t hrun

/-! ### What became of an alert -/

/-- The task learns how its own publication went: there is memory for it, and nobody else publishes
    between it and the reads of the flag. -/
def Attended (s : Task) : Step → Prop
  | .publish none => False
  | .other _ =>
    match s.phase with
    | .waiting | .publishing _ _ => True
    | .published _ _ | .checking _ _ => False
  | _ => True

/-- In the present outage an alert went out. -/
def Delivered (as : List Step) : Prop :=
  ∃ pre post, as = pre ++ post ∧ (∀ y ∈ seconds post, Outage y) ∧ .publish (some true) ∈ post

theorem Delivered.snoc (h : Delivered as) (ha : ∀ y ∈ seconds [a], Outage y) :
    Delivered (as ++ [a]) := by
  obtain ⟨pre, post, rfl, hout, hpublish⟩ := h
  refine ⟨pre, post ++ [a], List.append_assoc .., ?_, List.mem_append_left _ hpublish⟩
  rw [seconds_append]
  exact List.forall_mem_append.mpr ⟨hout, ha⟩

/-- The task takes an alert for sent when it was. -/
structure Truthful (as : List Step) (s : Task) : Prop where
  alerted : s.locals.alerted = true → Delivered as
  flag : ∀ before x, s.phase = .published before x → s.lastPublishOk = true → Delivered as

theorem truthful_finish (h : l.alerted = true → Delivered as) : Truthful as (s.finish l x) where
  alerted := by
    show (pollDue l x).2.alerted = true → _
    rwa [pollDue_alerted]
  flag before y hy := by simp [Task.finish] at hy

/-- **One step.** The flag is set only behind a publication that succeeded. The condition keeps
    other publishers from writing the status between the publication and the look at it. -/
theorem truthful_step (hattended : Attended s a) (hs : taskMachine.step s a = some s')
    (h : Truthful as s) : Truthful (as ++ [a]) s' := by
  cases moves_of_step hs with
  | off x hphase hoff =>
    exact ⟨fun halerted => by simp [idle] at halerted, fun before y hy => by simp [hphase] at hy⟩
  | quiet x hphase hon hdue =>
    refine truthful_finish fun halerted => ?_
    -- the flag outlives the second only in an outage
    cases hdown : x.tsDown with
    | false => simp [countSecond, hdown] at halerted
    | true =>
      have hold : s.locals.alerted = true := by simpa [countSecond, hdown] using halerted
      exact (h.alerted hold).snoc (by simp [Outage, hon, hdown])
  | alert x hphase hon hdue =>
    refine ⟨fun halerted => ?_, fun before y hy => by simp at hy⟩
    exact absurd halerted (by simp [(alertDue_iff.mp hdue).2.2.2.1])
  | publish before x result hphase =>
    cases result with
    | none => exact hattended.elim
    | some ok =>
      refine ⟨fun halerted => (h.alerted halerted).snoc (by simp), fun b y _ hok => ?_⟩
      obtain rfl : ok = true := hok
      exact ⟨as, [.publish (some true)], rfl, by simp, List.mem_singleton.mpr rfl⟩
  | failed before x hphase hflag => exact truthful_finish fun halerted => by cases halerted
  | sent x hphase hflag =>
    exact truthful_finish fun _ => (h.flag true x hphase hflag).snoc (by simp)
  | again x hphase hflag =>
    exact ⟨fun _ => (h.flag false x hphase hflag).snoc (by simp), fun before y hy => by simp at hy⟩
  | checked before x retrySeconds hphase hretry =>
    exact truthful_finish fun halerted => (h.alerted halerted).snoc (by simp)
  | other ok =>
    refine ⟨fun halerted => (h.alerted halerted).snoc (by simp), fun before x hphase => ?_⟩
    have hphase' : s.phase = .published before x := hphase
    simp [Attended, hphase'] at hattended

/-- As long as the task learns how its own publications went, it rests only when an alert of the
    present outage has been delivered. -/
theorem alerted_was_delivered (as : List Step) (t : Task)
    (hrun : taskMachine.run started as = some t)
    (hattended : taskMachine.Meets Attended started as) (halerted : t.locals.alerted = true) :
    Delivered as := by
  refine (Machine.history (I := Truthful)
    (fun as s a s' hattended hs h => truthful_step hattended hs h) hattended hrun ⟨?_, ?_⟩).alerted
    halerted
  · intro h
    simp [started, idle] at h
  · intro before x h
    simp [started] at h

instance (s : Task) : (a : Step) → Decidable (Attended s a)
  | .publish none => instDecidableFalse
  | .publish (some _) | .second _ | .look => instDecidableTrue
  | .other ok => by
    unfold Attended
    cases s.phase with
    | waiting | publishing => exact instDecidableTrue
    | published | checking => exact instDecidableFalse

/-- An outage until its first alert is published. -/
def firstAlert : List Step :=
  List.replicate 15 (.second outageSecond) ++ [.publish (some true), .look, .look]

/-- The alert of the fifteenth second. -/
theorem first_alert_delivered : Delivered firstAlert := by
  obtain ⟨t, hrun⟩ := Option.isSome_iff_exists.mp
    (show (taskMachine.run started firstAlert).isSome = true by decide +kernel)
  refine alerted_was_delivered _ t hrun (by decide +kernel) ?_
  have halerted : (taskMachine.run started firstAlert).all (·.locals.alerted) = true := by
    decide +kernel
  rw [hrun] at halerted
  exact halerted

-- a test message and then no memory for the alert: the task rests, and nothing was sent
example : ((taskMachine.run started (List.replicate 15 (.second outageSecond) ++
    [.other true, .publish none, .look, .look])).map fun t => (t.locals.alerted, t.alertsSent)) =
    some (true, 0) := by decide +kernel

/-! ### An outage that lasts -/

/-- The wait before another attempt is never more than a minute. -/
theorem retrySeconds_le (hs : taskMachine.step s a = some s') (h : s.locals.retrySeconds ≤ 60) :
    s'.locals.retrySeconds ≤ 60 := by
  -- Polling does not touch the wait, and counting only lowers it.
  have hfinish : ∀ (l : TaskLocals) (x : Second), l.retrySeconds ≤ 60 →
      (s.finish l x).locals.retrySeconds ≤ 60 := fun l x hl => by
    show (pollDue l x).2.retrySeconds ≤ 60
    rwa [pollDue_retrySeconds]
  have hcount : ∀ x, (countSecond s.locals x).retrySeconds ≤ 60 := fun x =>
    (Nat.sub_le _ _).trans h
  cases moves_of_step hs with
  | off => exact Nat.zero_le _
  | quiet x => exact hfinish _ x (hcount x)
  | alert x => exact hcount x
  | publish before x result => cases result <;> exact h
  | failed before x => exact hfinish _ x (le_refl 60)
  | sent x => exact hfinish _ x h
  | again | other => exact h
  -- After an attempt of another task the wait is a minute, or stays.
  | checked before x retrySeconds hphase hretry =>
    refine hfinish _ x ?_
    obtain rfl | rfl := hretry
    · exact le_refl 60
    · exact h

/-- After `n` seconds of an outage the task still waits: for the delay, or for its minute. The two
    run at the same time, so the later of them decides. -/
structure Pending (d n : Nat) (s : Task) : Prop where
  waiting : s.phase = .waiting
  alerted : s.locals.alerted = false
  down : n ≤ s.locals.downSeconds
  retry : s.locals.retrySeconds ≤ 60 - n
  short : n = 0 ∨ n < max d 60

/-- Since the actions `as` an alert was or is being published, or the task still waits. -/
def Reporting (d : Nat) (as : List Step) (s : Task) : Prop :=
  (∃ r, .publish r ∈ as) ∨ (∃ before x, s.phase = .publishing before x) ∨
    Pending d (seconds as).length s

/-- Alerts are on, and their delay is at most `d`. -/
def AlertsWithin (d : Nat) (x : Second) : Prop :=
  Outage x ∧ x.c.tailscaleAlerts = true ∧ x.c.failureDelaySeconds.toNat ≤ d

instance (d : Nat) (x : Second) : Decidable (AlertsWithin d x) :=
  inferInstanceAs (Decidable (_ ∧ _ ∧ _))

/-- A second of the outage brings the alert nearer. It has not been due yet, so the delay or the
    minute is still running. -/
theorem Pending.second (h : Pending d n s) (hx : AlertsWithin d x)
    (hbound : s.locals.downSeconds + 1 < 4294967296)
    (hdue : alertDue (countSecond s.locals x) x = false) :
    Pending d (n + 1) (s.finish (countSecond s.locals x) x) := by
  -- The tunnel is down in this second, so the count goes up and nothing is reset.
  obtain ⟨⟨-, -, hdown⟩, halerts, hdelay⟩ := hx
  have hcount : (countSecond s.locals x).downSeconds = s.locals.downSeconds + 1 := by
    simp [countSecond, hdown, succ32, Nat.mod_eq_of_lt hbound]
  have halerted : (countSecond s.locals x).alerted = false := by simp [countSecond, h.alerted]
  have hretry : (countSecond s.locals x).retrySeconds = s.locals.retrySeconds - 1 := rfl
  -- Not due means that the delay or the wait is not over yet.
  have hnot : ¬ (x.c.failureDelaySeconds.toNat ≤ s.locals.downSeconds + 1 ∧
      s.locals.retrySeconds - 1 = 0) := fun ⟨hlong, hzero⟩ => by
    rw [← Bool.not_eq_true, alertDue_iff, hcount, hretry] at hdue
    exact hdue ⟨halerts, hdown, hlong, halerted, hzero⟩
  have hd := h.down
  have hr := h.retry
  refine ⟨rfl, ?_, ?_, ?_, .inr (by omega)⟩
  · show (pollDue _ x).2.alerted = false
    rw [pollDue_alerted, halerted]
  · show _ ≤ (pollDue _ x).2.downSeconds
    rw [pollDue_downSeconds, hcount]
    omega
  · show (pollDue _ x).2.retrySeconds ≤ _
    rw [pollDue_retrySeconds, hretry]
    omega

/-- **One step** of an outage. Either the alert is still to come, or one has been published since it
    began. -/
theorem reporting_step {d : Nat} (hout : ∀ y ∈ seconds [a], AlertsWithin d y)
    (hbound : s.locals.downSeconds + (seconds [a]).length < 4294967296)
    (hs : taskMachine.step s a = some s') (h : Reporting d as s) : Reporting d (as ++ [a]) s' := by
  obtain ⟨r, hr⟩ | ⟨before, x, hphase⟩ | hpending := h
  · exact .inl ⟨r, List.mem_append_left _ hr⟩
  · -- the alert is under way: it is published, or somebody else publishes
    cases moves_of_step hs with
    | publish _ _ r _ => exact .inl ⟨r, by simp⟩
    | other ok => exact .inr (.inl ⟨before, x, hphase⟩)
    | off _ h | quiet _ h | alert _ h | failed _ _ h | sent _ h | again _ h | checked _ _ _ h =>
      simp [hphase] at h
  · have hwaiting := hpending.waiting
    cases moves_of_step hs with
    | off x hphase hoff =>
      obtain ⟨⟨henabled, huplink, -⟩, -⟩ := hout x (by simp)
      exact absurd ⟨henabled, huplink⟩ hoff
    | quiet x hphase hon hdue =>
      refine .inr (.inr ?_)
      rw [seconds_append, seconds_second, List.length_append, List.length_singleton]
      exact hpending.second (hout x (by simp)) hbound hdue
    | alert x hphase hon hdue => exact .inr (.inl ⟨_, x, rfl⟩)
    | other ok =>
      refine .inr (.inr ?_)
      rw [seconds_append, seconds_other, List.append_nil]
      exact ⟨hwaiting, hpending.alerted, hpending.down, hpending.retry, hpending.short⟩
    | publish _ _ _ h | failed _ _ h | sent _ h | again _ h | checked _ _ _ h =>
      simp [hwaiting] at h

/-- A whole minute of an outage. -/
def longOutage : List Step := firstAlert ++ List.replicate 45 (.second outageSecond)

end SubnetRouter.Ntfy.Rounds
