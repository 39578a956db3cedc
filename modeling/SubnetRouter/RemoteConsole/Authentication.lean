import Mathlib.Data.List.Infix
import SubnetRouter.RemoteConsole.Task

namespace SubnetRouter.RemoteConsole

open Lib

/-!
# No command without a password (`components/remote_console/remote_console.c`)

What the record of the console may look like: each event is allowed by the older ones
(`Allowed`), and this is kept because the phase of the task knows what the record says of
the connection it serves (`Backed`).

* `Authenticated` — what the record says of commands, verifications and rejections.
* `taskStep_kept` — one step of the task.
* `Console.step_inv` — one step of anybody, while there is at most one task.
* `commands_authenticated` — every run without a second `remote_console_enable`.
-/

/-- A verification on the connection. -/
def Event.isVerification (fd : Sock) : Event → Bool
  | verified fd' _ _ => fd' == fd
  | _ => false

/-- Commands run only on connections on which `verify_web_password` has returned true; at most
    three verifications on a connection, all of them after `is_web_password_set` has
    returned true on it, and none on one on which it has returned false; no command on a
    rejected connection. -/
structure Authenticated (log : List Event) : Prop where
  ran_verified : ∀ fd line older, .ran fd line :: older <:+ log →
    ∃ configured, .verified fd configured true ∈ older
  attempts : ∀ fd, log.countP (Event.isVerification fd) ≤ rcMaxAuthAttempts
  verified_checked : ∀ fd configured ok older, .verified fd configured ok :: older <:+ log →
    .checked fd true ∈ older
  not_verified : ∀ fd configured ok, .checked fd false ∈ log → .verified fd configured ok ∉ log
  not_ran : ∀ fd line, .rejected fd ∈ log → .ran fd line ∉ log

/-! ### Records -/

/-- The connection was let in and found a password configured, and the record holds so many
    verifications on it. -/
structure Admitted (log : List Event) (fd : Sock) (attempt : Nat) : Prop where
  checked : .checked fd true ∈ log
  not_unset : .checked fd false ∉ log
  not_rejected : .rejected fd ∉ log
  attempts : log.countP (Event.isVerification fd) = attempt

/-- The connection was let in, and its client has given the password. -/
structure Proven (log : List Event) (fd : Sock) : Prop where
  verified : ∃ configured, .verified fd configured true ∈ log
  not_rejected : .rejected fd ∉ log

/-- The older events allow this one. They come newest first, and only those of the same connection
    matter. -/
def Allowed (older : List Event) : Event → Prop
  | .rejected fd => ∀ e ∈ older, e.sock ≠ fd
  | .checked fd _ => ∀ e ∈ older, e.sock ≠ fd
  | .verified fd _ _ => ∃ attempt < rcMaxAuthAttempts, Admitted older fd attempt
  | .ran fd _ => Proven older fd

/-- Every event is allowed by the older ones. -/
def Proper : List Event → Prop
  | [] => True
  | e :: older => Allowed older e ∧ Proper older

variable {log older : List Event} {e e' : Event} {fd : Sock} {attempt : Nat}

theorem Proper.allowed (h : Proper log) (he : e :: older <:+ log) : Allowed older e := by
  induction log with
  | nil => simp at he
  | cons d log ih =>
    rcases List.suffix_cons_iff.mp he with heq | hsuffix
    · obtain ⟨rfl, rfl⟩ := List.cons.inj heq
      exact h.1
    · exact ih h.2 hsuffix

/-- Of two events, one is older than the other. -/
theorem Proper.allowed_or (h : Proper log) (he : e ∈ log) (he' : e' ∈ log) (hne : e ≠ e') :
    (∃ older, Allowed older e ∧ e' ∈ older) ∨ ∃ older, Allowed older e' ∧ e ∈ older := by
  induction log with
  | nil => simp at he
  | cons d log ih =>
    rcases List.mem_cons.mp he with rfl | hold
    · exact .inl ⟨log, h.1, (List.mem_cons.mp he').resolve_left hne.symm⟩
    · rcases List.mem_cons.mp he' with rfl | hold'
      · exact .inr ⟨log, h.1, hold⟩
      · exact ih h.2 hold hold'

/-- An allowed verification is one of the first three on its connection. -/
theorem Allowed.attempts_lt (h : Allowed older e) (hver : Event.isVerification fd e = true) :
    older.countP (Event.isVerification fd) < rcMaxAuthAttempts := by
  cases e with
  | verified fd' configured ok =>
    rw [Event.isVerification, beq_iff_eq] at hver
    subst hver
    obtain ⟨attempt, hattempt, hadmitted⟩ := h
    exact hadmitted.attempts ▸ hattempt
  | rejected | checked | ran => exact absurd hver Bool.false_ne_true

/-- A record in which every event is allowed says what it should. By induction on the record, from
    its oldest event on. -/
theorem Proper.authenticated (h : Proper log) : Authenticated log where
  ran_verified fd line older hran := (h.allowed hran).verified
  attempts fd := by
    -- Along the record: every verification that is allowed is below the limit of its connection.
    induction log with
    | nil => simp
    | cons e log ih =>
      rw [List.countP_cons]
      by_cases hver : Event.isVerification fd e = true
      · rw [if_pos hver]
        exact h.1.attempts_lt hver
      · simpa [hver] using ih h.2
  verified_checked fd configured ok older hver := by
    obtain ⟨_, _, hadmitted⟩ := h.allowed hver
    exact hadmitted.checked
  not_verified fd configured ok hunset hver := by
    -- Of two events of a connection the later one was allowed with the earlier in the record.
    obtain ⟨older, hallowed, hmem⟩ | ⟨older, hallowed, hmem⟩ :=
      h.allowed_or hunset hver (by simp)
    · exact hallowed _ hmem rfl
    · obtain ⟨_, _, hadmitted⟩ := hallowed
      exact hadmitted.not_unset hmem
  not_ran fd line hrejected hran := by
    obtain ⟨older, hallowed, hmem⟩ | ⟨older, hallowed, hmem⟩ :=
      h.allowed_or hrejected hran (by simp)
    · exact hallowed _ hmem rfl
    · exact hallowed.not_rejected hmem

/-! ### What a phase knows -/

/-- One of the first `n` connections. -/
def Known (n : Nat) (fd : Sock) : Prop := ∃ c < n, fd = some c

/-- An accepted connection that the record says nothing of. -/
structure Untouched (log : List Event) (n : Nat) (fd : Sock) : Prop where
  known : Known n fd
  ne : ∀ e ∈ log, e.sock ≠ fd

/-- What the record says of the connection that a task serves. Past the verification it has to show
    a password that was accepted. -/
def Backed (log : List Event) (n : Nat) (client : Sock) : Phase → Prop
  | .tailnetCheck _ => Untouched log n client
  | .bindCheck _ => Untouched log n client
  | .locking => Untouched log n client
  | .gate fd => fd = client ∧ Untouched log n fd
  | .authReading fd attempt _ =>
    fd = client ∧ attempt < rcMaxAuthAttempts ∧ Admitted log fd attempt
  | .verifying fd attempt _ =>
    fd = client ∧ attempt < rcMaxAuthAttempts ∧ Admitted log fd attempt
  | .entering => Proven log client
  | .sessionTop fd => Proven log fd
  | .sessionReading fd _ => Proven log fd
  | .running fd _ => Proven log fd
  | _ => True

/-- The record is proper and about accepted connections, and the phase is backed by it. -/
structure Kept (log : List Event) (n : Nat) (client : Sock) (ph : Phase) : Prop where
  proper : Proper log
  known : ∀ e ∈ log, Known n e.sock
  backed : Backed log n client ph

/-- The record and the phase of a task agree. -/
def Shared.Kept (st : Shared) (ph : Phase) : Prop :=
  RemoteConsole.Kept st.log st.nextConn st.clientSocket ph

variable {n : Nat} {client client' : Sock} {ph ph' : Phase} {r : Reader}
  {passwordInput : List UInt8}

/-- A step that records nothing. -/
theorem Kept.goto (h : Kept log n client ph) (hbacked : Backed log n client' ph') :
    Kept log n client' ph' :=
  ⟨h.proper, h.known, hbacked⟩

/-- Another event that is allowed, on an accepted connection. -/
theorem Kept.record (h : Kept log n client ph) (hallowed : Allowed log e) (hknown : Known n e.sock)
    (hbacked : Backed (e :: log) n client' ph') : Kept (e :: log) n client' ph' := by
  refine ⟨⟨hallowed, h.proper⟩, ?_, hbacked⟩
  intro d hd
  rcases List.mem_cons.mp hd with rfl | hold
  · exact hknown
  · exact h.known d hold

/-- The next connection is accepted: the record is about older ones. -/
theorem Kept.accept (h : Kept log n client ph) (peer : Ip4) :
    Kept log (n + 1) (some n) (.tailnetCheck peer) := by
  refine ⟨h.proper, ?_, ⟨n, Nat.lt_succ_self n, rfl⟩, ?_⟩
  · intro e he
    obtain ⟨c, hc, hsock⟩ := h.known e he
    exact ⟨c, Nat.lt_succ_of_lt hc, hsock⟩
  · intro e he heq
    obtain ⟨c, hc, hsock⟩ := h.known e he
    rw [hsock, Option.some.injEq] at heq
    exact hc.ne heq

/-- A filter rejects the connection. -/
theorem Kept.reject (h : Kept log n client ph) (hnew : Untouched log n client) :
    Kept (.rejected client :: log) n none .acceptTop :=
  h.record hnew.ne hnew.known trivial

/-- A verification is an event of its connection. -/
theorem Event.sock_of_isVerification (h : Event.isVerification fd e = true) : e.sock = fd := by
  cases e with
  | verified fd' configured ok => exact beq_iff_eq.mp h
  | rejected | checked | ran => exact absurd h Bool.false_ne_true

/-- A password is configured: the attempts begin. -/
theorem Kept.admission (h : Kept log n client (.gate fd)) :
    Kept (.checked fd true :: log) n client (attemptAuth fd 0) := by
  obtain ⟨hclient, hnew⟩ := h.backed
  refine h.record hnew.ne hnew.known ⟨hclient, by decide, ?_⟩
  have hcount : log.countP (Event.isVerification fd) = 0 :=
    List.countP_eq_zero.mpr fun e he hver => hnew.ne e he (Event.sock_of_isVerification hver)
  exact
    { checked := List.mem_cons_self
      not_unset := by simpa using fun he => hnew.ne _ he rfl
      not_rejected := by simpa using fun he => hnew.ne _ he rfl
      attempts := by rw [List.countP_cons, hcount]; rfl }

/-- No password is configured: the connection is closed. -/
theorem Kept.lock (h : Kept log n client (.gate fd)) :
    Kept (.checked fd false :: log) n client .cleaning :=
  h.record h.backed.2.ne h.backed.2.known trivial

/-- Whatever `recv_line` does in `authenticate_client`. -/
theorem Kept.passwordRead (h : Kept log n client (.authReading fd attempt r))
    (result : LineResult) : Kept log n client (passwordRead fd attempt result) := by
  cases result with
  | more | line => exact h.goto h.backed
  | closed | timeout | interrupted => exact h.goto trivial

/-- The record after one more verification. -/
theorem Admitted.verified (h : Admitted log fd attempt) (configured ok : Bool) :
    Admitted (.verified fd configured ok :: log) fd (attempt + 1) where
  checked := List.mem_cons_of_mem _ h.checked
  not_unset := by simpa using h.not_unset
  not_rejected := by simpa using h.not_rejected
  attempts := by
    rw [List.countP_cons, h.attempts, Event.isVerification, if_pos (beq_self_eq_true fd)]

/-- The connection that the record speaks of was accepted. -/
theorem Admitted.known (h : Admitted log fd attempt) (hkept : Kept log n client ph) : Known n fd :=
  hkept.known _ h.checked

theorem Proven.known (h : Proven log fd) (hkept : Kept log n client ph) : Known n fd := by
  obtain ⟨configured, hver⟩ := h.verified
  exact hkept.known _ hver

/-- The password is right. -/
theorem Kept.login (h : Kept log n client (.verifying fd attempt passwordInput))
    (configured : Bool) : Kept (.verified fd configured true :: log) n client .entering := by
  obtain ⟨hclient, hattempt, hadmitted⟩ := h.backed
  refine h.record ⟨attempt, hattempt, hadmitted⟩ (hadmitted.known h) ?_
  exact
    { verified := ⟨configured, hclient ▸ List.mem_cons_self⟩
      not_rejected := hclient ▸ (hadmitted.verified configured true).not_rejected }

/-- The password is wrong: another attempt, or the delay. -/
theorem Kept.refuse (h : Kept log n client (.verifying fd attempt passwordInput))
    (configured : Bool) :
    Kept (.verified fd configured false :: log) n client
      (if attempt + 1 < rcMaxAuthAttempts then attemptAuth fd (attempt + 1) else .delaying fd) := by
  obtain ⟨hclient, hattempt, hadmitted⟩ := h.backed
  refine h.record ⟨attempt, hattempt, hadmitted⟩ (hadmitted.known h) ?_
  split
  · rename_i hnext
    exact ⟨hclient, hnext, hadmitted.verified configured false⟩
  · trivial

variable {st : Shared} {x : TaskIn} {p : Shared × Phase}

/-- Whatever `recv_line` does in `handle_session`. -/
theorem Shared.Kept.commandRead (h : st.Kept (.sessionReading fd r)) (result : LineResult) :
    (commandRead st fd result).1.Kept (commandRead st fd result).2 := by
  have hproven : Proven st.log fd := h.backed
  cases result with
  | more | interrupted => exact h.goto hproven
  | closed | timeout => exact h.goto trivial
  | line l =>
    simp only [RemoteConsole.commandRead]
    split_ifs with hempty hquit
    · exact h.goto hproven
    · exact h.goto trivial
    · refine RemoteConsole.Kept.record h hproven (hproven.known h) ?_
      obtain ⟨configured, hver⟩ := hproven.verified
      exact ⟨⟨configured, List.mem_cons_of_mem _ hver⟩, by simpa using hproven.not_rejected⟩

/-- **Step lemma.** One step of the task keeps its phase backed by the record. One case for each
    phase. -/
theorem taskStep_kept (h : st.Kept ph) (hstep : taskStep st ph x = some p) : p.1.Kept p.2 := by
  cases ph with
  | outerTop | acceptTop =>
    obtain ⟨-, -, rfl⟩ := Option.map_eq_some_iff.mp hstep
    refine h.goto ?_
    dsimp only
    split <;> trivial
  | opening =>
    obtain ⟨ok, -, rfl⟩ := Option.map_eq_some_iff.mp hstep
    cases ok <;> exact h.goto trivial
  | retrying | delaying | cleaning | closingServer | exiting =>
    obtain ⟨-, -, rfl⟩ := Option.map_eq_some_iff.mp hstep
    exact h.goto trivial
  | accepting =>
    obtain ⟨peer, -, hpeer⟩ := Option.bind_eq_some_iff.mp hstep
    cases peer with
    | none =>
      obtain rfl := Option.some.inj hpeer
      refine h.goto ?_
      dsimp only
      split <;> trivial
    | some peer =>
      obtain ⟨-, hp⟩ := Option.ite_none_right_eq_some.mp hpeer
      obtain rfl := Option.some.inj hp
      exact RemoteConsole.Kept.accept h peer
  | tailnetCheck peer =>
    obtain ⟨-, -, rfl⟩ := Option.map_eq_some_iff.mp hstep
    split
    · exact RemoteConsole.Kept.reject h h.backed
    · exact h.goto h.backed
  | bindCheck peer =>
    obtain ⟨addresses, -, rfl⟩ := Option.map_eq_some_iff.mp hstep
    dsimp only
    split
    · exact h.goto h.backed
    · exact RemoteConsole.Kept.reject h h.backed
  | locking =>
    obtain ⟨-, -, rfl⟩ := Option.map_eq_some_iff.mp hstep
    unfold lockStep
    split
    · exact h.goto trivial
    · exact h.goto ⟨rfl, h.backed⟩
  -- without a password the connection is closed
  | gate fd =>
    obtain ⟨readable, -, rfl⟩ := Option.map_eq_some_iff.mp hstep
    unfold gateStep
    split
    · exact RemoteConsole.Kept.admission h
    · exact RemoteConsole.Kept.lock h
  | authReading fd attempt r =>
    obtain ⟨result, -, rfl⟩ := Option.map_eq_some_iff.mp hstep
    exact RemoteConsole.Kept.passwordRead h result
  -- the record of this answer is what a session rests on
  | verifying fd attempt passwordInput =>
    obtain ⟨ok, -, rfl⟩ := Option.map_eq_some_iff.mp hstep
    unfold verifyStep
    split
    · exact RemoteConsole.Kept.login h st.passwordSet
    · exact RemoteConsole.Kept.refuse h st.passwordSet
  | entering | running =>
    obtain ⟨-, -, rfl⟩ := Option.map_eq_some_iff.mp hstep
    exact h.goto h.backed
  | sessionTop fd =>
    obtain ⟨-, -, rfl⟩ := Option.map_eq_some_iff.mp hstep
    refine h.goto ?_
    dsimp only
    split
    · trivial
    · exact h.backed
  | sessionReading fd r =>
    obtain ⟨result, -, rfl⟩ := Option.map_eq_some_iff.mp hstep
    exact h.commandRead result
  | ended => exact absurd hstep (by simp [taskStep])

/-! ### The system -/

namespace Console

variable {s s' t : Console} {a : Act} {as : List Act} {k : Nat} {c : CallIn}

/-- At most one server task is alive. -/
def Sole (s : Console) : Prop := ∀ i j, s.tasks i ≠ .ended → s.tasks j ≠ .ended → i = j

/-- The record agrees with the phase of every task. -/
def Recorded (s : Console) : Prop := ∀ i, s.shared.Kept (s.tasks i)

/-- A call leaves the record and the client socket alone, and creates a task or none. -/
theorem callStep_frame (h : s.callStep k c = some s') :
    s'.shared.log = s.shared.log ∧ s'.shared.nextConn = s.shared.nextConn ∧
      s'.shared.clientSocket = s.shared.clientSocket ∧
      ∀ i, s'.tasks i = s.tasks i ∨ s'.tasks i = .outerTop := by
  unfold callStep at h
  split at h
  -- Only the call that creates adds a task; it puts it at the start of the loop.
  case h_3 =>
    split_ifs at h <;> obtain rfl := Option.some.inj h
    · refine ⟨rfl, rfl, rfl, fun i => ?_⟩
      show s.createTask.tasks i = _ ∨ s.createTask.tasks i = _
      rw [createTask_tasks]
      split
      · exact .inr rfl
      · exact .inl rfl
    · exact ⟨rfl, rfl, rfl, fun i => .inl rfl⟩
  -- An idle call has no step.
  case h_7 => exact absurd h (by simp)
  all_goals
    try split_ifs at h
    all_goals
      obtain rfl := Option.some.inj h
      exact ⟨rfl, rfl, rfl, fun i => .inl rfl⟩

/-- No call of `remote_console_enable` is in progress. -/
def Settled (s : Console) : Prop := ∀ k, s.calls k ≠ .enabling ∧ s.calls k ≠ .creating

theorem Settled.goto (hs : s.Settled) (k : Nat) {call : Call}
    (hcall : call ≠ .enabling ∧ call ≠ .creating) : (s.goto k call).Settled := by
  intro j
  rw [goto_calls]
  split
  · exact hcall
  · exact hs j

/-- Without `remote_console_enable` no task is created. -/
theorem callStep_settled (hs : s.Settled) (hc : c ≠ .enable) (h : s.callStep k c = some s') :
    s'.tasks = s.tasks ∧ s'.Settled := by
  unfold callStep at h
  split at h
  case h_1 => exact absurd rfl hc
  case h_2 hcall => exact absurd hcall (hs k).1
  case h_3 hcall => exact absurd hcall (hs k).2
  case h_7 => exact absurd h (by simp)
  case h_6 =>
    obtain rfl := Option.some.inj h
    exact ⟨rfl, Settled.goto hs k (by decide)⟩
  all_goals
    dsimp only at h
    split_ifs at h <;> obtain rfl := Option.some.inj h
    all_goals exact ⟨rfl, Settled.goto hs k (by decide)⟩

/-- **Step lemma.** While at most one task is alive, the record agrees with all of them. The others
    have ended, and so nothing is asked of them. -/
theorem recorded_step (hsole : s.Sole) (h : s.Recorded) (hstep : s.step a = some s') :
    s'.Recorded := by
  intro i
  cases a with
  | task j x =>
    obtain ⟨p, hp, rfl⟩ := Option.map_eq_some_iff.mp hstep
    have hkept : p.1.Kept p.2 := taskStep_kept (h j) hp
    by_cases hij : i = j
    · subst hij
      simpa using hkept
    · -- the task that has stepped is the only one
      have hj : s.tasks j ≠ .ended := fun hended => by simp [hended, taskStep] at hp
      have hi : s.tasks i = .ended := by_contra fun hi => hij (hsole i j hi hj)
      simp only [Function.update_of_ne hij, hi]
      exact hkept.goto trivial
  | call k c =>
    obtain ⟨hlog, hnext, hclient, htasks⟩ := callStep_frame hstep
    have hkept := h i
    rw [Shared.Kept, hlog, hnext, hclient]
    rcases htasks i with hsame | hnew
    · exact hsame ▸ hkept
    · exact hnew ▸ hkept.goto trivial
  | kick =>
    obtain rfl := Option.some.inj hstep
    have hkept := h i
    unfold kick
    split <;> exact hkept
  | setPassword set | setBind bind | setTimeout sec =>
    obtain rfl := Option.some.inj hstep
    exact h i

/-- No step but one of `remote_console_enable` lets a second task be alive. -/
theorem sole_step (hs : s.Settled) (hsole : s.Sole) (ha : ∀ k, a ≠ .call k .enable)
    (hstep : s.step a = some s') : s'.Settled ∧ s'.Sole := by
  cases a with
  | task j x =>
    obtain ⟨p, hp, rfl⟩ := Option.map_eq_some_iff.mp hstep
    have hj : s.tasks j ≠ .ended := fun hended => by simp [hended, taskStep] at hp
    have hold : ∀ i, Function.update s.tasks j p.2 i ≠ .ended → s.tasks i ≠ .ended := by
      intro i hi
      by_cases hij : i = j
      · exact hij ▸ hj
      · rwa [Function.update_of_ne hij] at hi
    exact ⟨hs, fun i i' hi hi' => hsole i i' (hold i hi) (hold i' hi')⟩
  | call k c =>
    have hc : c ≠ .enable := fun hc => ha k (hc ▸ rfl)
    obtain ⟨htasks, hsettled⟩ := callStep_settled hs hc hstep
    exact ⟨hsettled, by rwa [Sole, htasks]⟩
  | kick | setPassword set | setBind bind | setTimeout sec =>
    obtain rfl := Option.some.inj hstep
    exact ⟨hs, hsole⟩

end Console

variable {enabled created passwordSet : Bool} {bind : BitVec 8} {idleTimeoutSec : Nat}
  {as : List Console.Act} {t : Console}

/-- After `remote_console_init` nothing is recorded. -/
theorem recorded_init : (init enabled created bind idleTimeoutSec passwordSet).Recorded := by
  intro i
  refine ⟨trivial, by simp [init], ?_⟩
  simp only [init]
  split <;> trivial

/-- Only `remote_console_init` itself has created a task. -/
theorem init_alive {i : Nat}
    (h : (init enabled created bind idleTimeoutSec passwordSet).tasks i ≠ .ended) :
    (enabled && created) = true ∧ i = 0 := by
  by_contra hne
  exact h (if_neg (by simpa using hne))

/-- After `remote_console_init` there is at most one task. -/
theorem sole_init : (init enabled created bind idleTimeoutSec passwordSet).Sole := by
  intro i j hi hj
  rw [(init_alive hi).2, (init_alive hj).2]

/-- **No command without a password.** However kicks, disables and changes of the password
    and of the configuration interleave with the task, and whatever the clients send, commands
    run only after `verify_web_password` has returned true on their connection; there are at
    most three verifications on a connection, only after `is_web_password_set` has returned
    true on it; and none runs on a connection that a filter has rejected. -/
theorem commands_authenticated (hno : ∀ k, .call k .enable ∉ as)
    (hrun : console.run (init enabled created bind idleTimeoutSec passwordSet) as = some t) :
    Authenticated t.shared.log := by
  have hmeets : console.Meets (fun _ a => True ∧ ∀ k, a ≠ .call k .enable)
      (init enabled created bind idleTimeoutSec passwordSet) as := by
    refine (Machine.meets_true _ as).and_forall ?_
    rintro a ha k rfl
    exact hno k ha
  have hinv : t.Settled ∧ t.Sole ∧ t.Recorded := by
    refine Machine.invariant_of_meets (I := fun s => s.Settled ∧ s.Sole ∧ s.Recorded) ?_ hmeets
      hrun ⟨fun k => ⟨nofun, nofun⟩, sole_init, recorded_init⟩
    rintro s a s' ⟨-, ha⟩ hstep ⟨hs, hsole, hrec⟩
    obtain ⟨hs', hsole'⟩ := Console.sole_step hs hsole ha hstep
    exact ⟨hs', hsole', Console.recorded_step hsole hrec hstep⟩
  exact (hinv.2.2 0).proper.authenticated

/-! ### Two runs -/

/-- A client of the access point is let in and asked for its password. -/
def promptSteps : List Console.Act :=
  [.task 0 .tick, .task 0 (.opened true), .task 0 .tick, .task 0 (.accepted (some 0xC0A80402)),
    .task 0 .tick, .task 0 (.addresses 0xC0A80401 0xC0A80401 0), .task 0 .tick,
    .task 0 (.passwordRead true)]

/-- The bytes arrive, and after each of them the loop of `recv_line` looks at its flags. -/
def typeSteps (bytes : List UInt8) : List Console.Act :=
  bytes.flatMap fun c => [.task 0 (.read (.poll false)), .task 0 (.read (.byte c))]

/-- A router with the console enabled on the access point, and a password. -/
def accessPointConsole : Console := init true true rcBindAp 300 true

/-- The client logs in at the second attempt and runs the command `a`. -/
def loginSteps : List Console.Act :=
  promptSteps ++ typeSteps [0x62, 0x0A] ++ [.task 0 (.answer false)] ++
    typeSteps [0x61, 0x0A] ++ [.task 0 (.answer true), .task 0 .tick, .task 0 .tick] ++
    typeSteps [0x61, 0x0A]

theorem loginSteps_log : (console.run accessPointConsole loginSteps).map (·.shared.log) =
    some [.ran (some 0) [0x61], .verified (some 0) true true, .verified (some 0) true false,
      .checked (some 0) true] := rfl

theorem login_authenticated : ∃ t, console.run accessPointConsole loginSteps = some t ∧
    .ran (some 0) [0x61] ∈ t.shared.log ∧ Authenticated t.shared.log := by
  obtain ⟨t, hrun, hlog⟩ := Option.map_eq_some_iff.mp loginSteps_log
  have hno : ∀ k, .call k .enable ∉ loginSteps := fun k => by
    simp [loginSteps, promptSteps, typeSteps]
  exact ⟨t, hrun, hlog ▸ List.mem_cons_self, commands_authenticated hno hrun⟩

/-- The password is cleared while the client is typing: its line is verified although none is
    configured. -/
theorem unset_password_verified :
    (console.run accessPointConsole (promptSteps ++ [.setPassword false] ++
      typeSteps [0x61, 0x0A] ++ [.task 0 (.answer false)])).map (·.shared.log) =
    some [.verified (some 0) false false, .checked (some 0) true] := rfl

end SubnetRouter.RemoteConsole
