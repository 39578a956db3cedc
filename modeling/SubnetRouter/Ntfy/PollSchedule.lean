import SubnetRouter.Ntfy.Rounds

namespace SubnetRouter.Ntfy.Rounds

open Lib Settings

/-!
# When the commands are fetched (`main/ntfy_integration.c`)

The task polls at once when commands may be fetched, and then once in every interval.  A round in
which an alert is published ends with its poll like any other.

* `Polled` — the counters of the task against the seconds.
* `polls_on_schedule` — the number of the polls.
-/

variable {s s' : Task} {a : Step} {l : TaskLocals} {x : Second} {xs : List Second} {n : Nat}

/-- The commands may be fetched, once in `p` seconds. -/
def PollsEvery (p : Nat) (x : Second) : Prop :=
  x.c.enabled = true ∧ x.uplinkConnected = true ∧ canPoll x = true ∧
    x.c.pollIntervalSeconds.toNat = p

instance (p : Nat) (x : Second) : Decidable (PollsEvery p x) :=
  inferInstanceAs (Decidable (_ ∧ _ ∧ _ ∧ _))

/-- The locals and the polls after `n` of these seconds, when there were `base` polls before. -/
inductive Polled (p base : Nat) (l : TaskLocals) : Nat → Nat → Prop
  | start (hbefore : l.couldPollBefore = false) : Polled p base l 0 base
  | later (n q : Nat) (hbefore : l.couldPollBefore = true) (hlt : l.pollSeconds < p)
      (hsince : q * p + l.pollSeconds = p + n) : Polled p base l (n + 1) (base + q)

/-- The end of a round, in the first second or in a later one. The counter stands where the schedule
    says, modulo the interval. -/
theorem Polled.pollDue {p base polls : Nat} (h : Polled p base l n polls) (hp : 1 ≤ p)
    (hx : PollsEvery p x) :
    Polled p base (Rounds.pollDue l x).2 (n + 1) (polls + (Rounds.pollDue l x).1.toNat) := by
  obtain ⟨-, -, hcan, hinterval⟩ := hx
  have hlt : p < 65536 := hinterval ▸ x.c.pollIntervalSeconds.toNat_lt
  have hsucc : ∀ k ≤ p, succ32 k = k + 1 := fun k hk => Nat.mod_eq_of_lt (by omega)
  unfold Rounds.pollDue
  cases h with
  | start hbefore =>
    -- armed with a whole interval, the counter is over it at once
    simp only [hcan, hinterval, hbefore, Bool.not_false, Bool.and_self, if_true,
      hsucc p (le_refl p), Nat.le_succ]
    exact .later 0 1 rfl hp (by rw [Nat.one_mul])
  | later n q hbefore hshort hsince =>
    simp only [hcan, hinterval, hbefore, Bool.not_true, Bool.and_false, Bool.false_eq_true,
      if_false, if_true, hsucc _ hshort.le]
    split_ifs with hfull
    · refine .later (n + 1) (q + 1) rfl hp ?_
      show (q + 1) * p + 0 = _
      rw [Nat.add_mul]
      omega
    · refine .later (n + 1) q rfl (Nat.lt_of_not_le hfull) ?_
      show q * p + (l.pollSeconds + 1) = _
      omega

/-- How many polls that makes. -/
theorem Polled.polls_eq {p base polls : Nat} (h : Polled p base l n polls) :
    polls = base + (n + p - 1) / p := by
  cases h with
  | start hbefore =>
    obtain rfl | hp := Nat.eq_zero_or_pos p
    · rfl
    · rw [Nat.div_eq_of_lt (by omega)]
      rfl
  | later n q hbefore hshort hsince =>
    have hn : n + 1 + p - 1 = l.pollSeconds + q * p := by omega
    rw [hn, Nat.add_mul_div_right _ _ (by omega), Nat.div_eq_of_lt hshort, Nat.zero_add]

/-- In the middle of a round the second of the round is still to come. So the count is behind by one
    there, whichever of the three steps the round is at. -/
def OnSchedule (p base : Nat) (xs : List Second) (s : Task) : Prop :=
  match s.phase with
  | .waiting => Polled p base s.locals xs.length s.polls
  | .publishing _ x | .published _ x | .checking _ x =>
    PollsEvery p x ∧ Polled p base s.locals (xs.length - 1) s.polls ∧ 0 < xs.length

/-- The counters of the alerts do not matter for the polls. -/
theorem Polled.congr {p base polls : Nat} {l' : TaskLocals} (h : Polled p base l n polls)
    (hbefore : l'.couldPollBefore = l.couldPollBefore) (hsecs : l'.pollSeconds = l.pollSeconds) :
    Polled p base l' n polls := by
  cases h with
  | start h => exact .start (hbefore.trans h)
  | later n q h hlt hsince => exact .later n q (hbefore.trans h) (hsecs ▸ hlt) (hsecs ▸ hsince)

/-- A round comes to its end. -/
theorem onSchedule_finish {p base : Nat} (hp : 1 ≤ p) (hx : PollsEvery p x)
    (h : Polled p base s.locals (xs.length - 1) s.polls) (hpos : 0 < xs.length)
    (hbefore : l.couldPollBefore = s.locals.couldPollBefore)
    (hsecs : l.pollSeconds = s.locals.pollSeconds) : OnSchedule p base xs (s.finish l x) := by
  have hdone := (h.congr hbefore hsecs).pollDue hp hx
  rw [Nat.sub_add_cancel hpos] at hdone
  exact hdone

/-- **One step.** The count goes up with the second that completes an interval, and the rest of the
    round does not touch it. -/
theorem onSchedule_step {p base : Nat} (hp : 1 ≤ p) (hout : ∀ y ∈ seconds [a], PollsEvery p y)
    (hs : taskMachine.step s a = some s') (h : OnSchedule p base xs s) :
    OnSchedule p base (xs ++ seconds [a]) s' := by
  unfold OnSchedule at h
  cases moves_of_step hs with
  | off x hphase hoff =>
    -- Commands may be fetched in every second, so the round is not left here.
    obtain ⟨henabled, huplink, -⟩ := hout x (by simp)
    exact absurd ⟨henabled, huplink⟩ hoff
  | quiet x hphase hon hdue =>
    rw [hphase] at h
    -- A second in which nothing is sent ends with the poll; an alert only delays it within the
    -- second.
    refine onSchedule_finish hp (hout x (by simp)) ?_ (by simp) rfl rfl
    rwa [seconds_second, List.length_append, List.length_singleton, Nat.add_sub_cancel]
  | alert x hphase hon hdue =>
    rw [hphase] at h
    refine ⟨hout x (by simp), ?_, by simp⟩
    rw [seconds_second, List.length_append, List.length_singleton, Nat.add_sub_cancel]
    exact h.congr rfl rfl
  | publish before x result hphase =>
    rw [hphase] at h
    rw [seconds_publish, List.append_nil]
    cases result <;> exact h
  | failed _ x hphase | sent x hphase | checked _ x _ hphase =>
    rw [hphase] at h
    rw [seconds_look, List.append_nil]
    exact onSchedule_finish hp h.1 h.2.1 h.2.2 rfl rfl
  | again x hphase hflag =>
    rw [hphase] at h
    rw [seconds_look, List.append_nil]
    exact ⟨h.1, h.2.1.congr rfl rfl, h.2.2⟩
  | other ok =>
    rw [seconds_other, List.append_nil]
    exact h

/-- While commands may be fetched once in `p` seconds, the task fetches them in the first of these
    seconds and then in every `p`-th, whatever alerts it publishes in between. -/
theorem polls_on_schedule (p : Nat) (hp : 1 ≤ p) (s t : Task) (as : List Step)
    (hrun : taskMachine.run s as = some t) (hphase : s.phase = .waiting)
    (hphase' : t.phase = .waiting) (hbefore : s.locals.couldPollBefore = false)
    (hpolls : ∀ x ∈ seconds as, PollsEvery p x) :
    t.polls = s.polls + ((seconds as).length + p - 1) / p := by
  -- The count starts anew where commands could not be fetched before.
  have hstart : OnSchedule p s.polls [] s := by
    unfold OnSchedule
    rw [hphase]
    exact .start hbefore
  have hend : OnSchedule p s.polls (seconds as) t := by
    -- Steps without a second leave the schedule; a second is one of those of the run.
    refine Machine.history
      (I := fun as u => OnSchedule p s.polls (seconds as) u)
      (C := fun _ a => True ∧ ∀ y ∈ seconds [a], PollsEvery p y)
      (fun as u a u' hC hs h => ?_)
      ((Machine.meets_true s as).and_forall fun a ha y hy => hpolls y ?_) hrun hstart
    · rw [seconds_append]
      exact onSchedule_step hp hC.2 hs h
    · obtain rfl := List.mem_singleton.mp (mem_seconds.mp hy)
      exact mem_seconds.mpr ha
  unfold OnSchedule at hend
  rw [hphase'] at hend
  exact hend.polls_eq

/-- The commands are fetched too, also while Tailscale is up. -/
def pollingSecond : Second :=
  ⟨{ alertConfig with commandsEnabled := true, commandsOnlyWhenTailscaleDown := false },
    true, false⟩

/-- Three polls in 31 seconds. -/
theorem first_polls : ∃ t ∈ taskMachine.run started (List.replicate 31 (.second pollingSecond)),
    t.polls = 3 := by
  obtain ⟨t, hrun⟩ := Option.isSome_iff_exists.mp
    (show (taskMachine.run started (List.replicate 31 (.second pollingSecond))).isSome = true by
      decide +kernel)
  have hphase : (taskMachine.run started (List.replicate 31 (.second pollingSecond))).all
      (·.phase = .waiting) = true := by decide +kernel
  rw [hrun] at hphase
  refine ⟨t, hrun, ?_⟩
  exact polls_on_schedule 15 (by decide) started t _ hrun rfl (of_decide_eq_true hphase) rfl
    (by decide +kernel)

end SubnetRouter.Ntfy.Rounds
