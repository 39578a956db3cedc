import SubnetRouter.RemoteConsole.Authentication

namespace SubnetRouter.RemoteConsole

open Lib

/-!
# One console server (`components/remote_console/remote_console.c`)

`remote_console_disable` forgets the handle of its task after 500 ms, and
`remote_console_enable` lowers the flag that a forgotten task was meant to see.  While every
disable returns after its task has ended, `rc_state.task_handle` is the task
(`Console.Tracked`).

* `Console.Single` — one task at most, and no command for a session that a disable has cut off.
* `Console.Prompt` — the condition on the calls.
* `taskStep_socket` — the connection that a task serves.
* `single_server` — every run that meets the condition.
* `Console.late_exit_second_task` — a disable that returns too early, and the enable after it.
-/

/-- The connection that a task in this phase serves. Some phases have it as an argument of a call,
    and others read the shared variable. -/
def Phase.socket (client : Sock) : Phase → Sock
  | tailnetCheck _ => client
  | bindCheck _ => client
  | locking => client
  | gate fd => fd
  | authReading fd _ _ => fd
  | verifying fd _ _ => fd
  | delaying fd => fd
  | entering => client
  | sessionTop fd => fd
  | sessionReading fd _ => fd
  | running fd _ => fd
  | _ => none

@[simp] theorem Phase.socket_ended (client : Sock) : ended.socket client = none := rfl

@[simp] theorem Phase.socket_outerTop (client : Sock) : outerTop.socket client = none := rfl

namespace Console

/-- No server task is alive. -/
def NoTask (s : Console) : Prop := ∀ i, s.tasks i = .ended

/-- At most one task is alive, and none runs a command for a session accepted before a return
    of `remote_console_disable` that no `remote_console_enable` has followed. -/
structure Single (s : Console) : Prop where
  sole : s.Sole
  stopped : ∀ i c line, s.tasks i = .running (some c) line → s.barredBelow ≤ c

/-- A disable that has found the handle, or that has nothing to do, returns when no task is
    alive; and an enable does not find the handle `NULL` while another one is about to create
    its task. -/
def Prompt (s : Console) : Act → Prop
  | .call k .disable => s.calls k = .idle → s.shared.enabled = false → s.NoTask
  | .call k (.proceed _) =>
    (s.calls k = .waiting → s.NoTask) ∧
      (s.calls k = .enabling → s.shared.taskHandle = none → ∀ j, s.calls j ≠ .creating)
  | _ => True

/-- The handle is that of the task, nobody creates one beside it, and it serves no connection
    that was cut off. -/
structure Tracked (s : Console) : Prop where
  handle : ∀ i, s.tasks i ≠ .ended → s.shared.taskHandle = some i
  creating : ∀ k, s.calls k = .creating → s.NoTask ∧ ∀ j, s.calls j = .creating → j = k
  recorded : s.Recorded
  barred : s.barredBelow ≤ s.shared.nextConn
  serving : ∀ i c, (s.tasks i).socket s.shared.clientSocket = some c → s.barredBelow ≤ c

end Console

/-! ### The task -/

variable {st : Shared} {ph : Phase} {x : TaskIn} {p : Shared × Phase} {c : Nat}

/-- Whatever `recv_line` does in `authenticate_client`, the connection stays the same. -/
theorem socket_passwordRead {client fd : Sock} {attempt : Nat} {result : LineResult}
    (hc : (passwordRead fd attempt result).socket client = some c) : fd = some c := by
  cases result with
  | more | line => exact hc
  | closed | timeout | interrupted => cases hc

/-- Whatever `recv_line` does in `handle_session`, the connection stays the same. -/
theorem socket_commandRead {client fd : Sock} {result : LineResult}
    (hc : (commandRead st fd result).2.socket client = some c) : fd = some c := by
  cases result with
  | more | interrupted => exact hc
  | closed | timeout => cases hc
  | line l =>
    simp only [commandRead] at hc
    split_ifs at hc
    · exact hc
    · cases hc
    · exact hc

/-- A step goes on with the connection it serves, or accepts the next one. So two tasks never come
    to serve the same one. -/
theorem taskStep_socket (h : st.Kept ph) (hstep : taskStep st ph x = some p)
    (hc : p.2.socket p.1.clientSocket = some c) :
    ph.socket st.clientSocket = some c ∨ c = st.nextConn := by
  cases ph with
  | outerTop | acceptTop =>
    obtain ⟨-, -, rfl⟩ := Option.map_eq_some_iff.mp hstep
    dsimp only at hc
    split at hc <;> cases hc
  | opening =>
    obtain ⟨ok, -, rfl⟩ := Option.map_eq_some_iff.mp hstep
    cases ok <;> cases hc
  | retrying | delaying | cleaning | closingServer | exiting =>
    obtain ⟨-, -, rfl⟩ := Option.map_eq_some_iff.mp hstep
    cases hc
  | accepting =>
    obtain ⟨peer, -, hpeer⟩ := Option.bind_eq_some_iff.mp hstep
    cases peer with
    | none =>
      obtain rfl := Option.some.inj hpeer
      dsimp only at hc
      split at hc <;> cases hc
    | some peer =>
      obtain ⟨-, hp⟩ := Option.ite_none_right_eq_some.mp hpeer
      obtain rfl := Option.some.inj hp
      exact .inr (Option.some.inj hc).symm
  | tailnetCheck peer =>
    obtain ⟨-, -, rfl⟩ := Option.map_eq_some_iff.mp hstep
    split at hc
    · cases hc
    · exact .inl hc
  | bindCheck peer =>
    obtain ⟨addresses, -, rfl⟩ := Option.map_eq_some_iff.mp hstep
    dsimp only at hc
    split at hc
    · exact .inl hc
    · cases hc
  | locking =>
    obtain ⟨-, -, rfl⟩ := Option.map_eq_some_iff.mp hstep
    unfold lockStep at hc
    split at hc
    · cases hc
    · exact .inl hc
  | gate fd =>
    obtain ⟨readable, -, rfl⟩ := Option.map_eq_some_iff.mp hstep
    unfold gateStep at hc
    split at hc
    · exact .inl hc
    · cases hc
  | authReading fd attempt r =>
    obtain ⟨result, -, rfl⟩ := Option.map_eq_some_iff.mp hstep
    exact .inl (socket_passwordRead hc)
  | verifying fd attempt passwordInput =>
    obtain ⟨ok, -, rfl⟩ := Option.map_eq_some_iff.mp hstep
    unfold verifyStep at hc
    split at hc
    -- the session reads `rc_state.client_socket` again, which is the one that was verified
    · have hclient : fd = st.clientSocket := h.backed.1
      exact .inl (hclient ▸ hc)
    · dsimp only at hc
      split at hc <;> exact .inl hc
  | entering | running =>
    obtain ⟨-, -, rfl⟩ := Option.map_eq_some_iff.mp hstep
    exact .inl hc
  | sessionTop fd =>
    obtain ⟨-, -, rfl⟩ := Option.map_eq_some_iff.mp hstep
    dsimp only at hc
    split at hc
    · cases hc
    · exact .inl hc
  | sessionReading fd r =>
    obtain ⟨result, -, rfl⟩ := Option.map_eq_some_iff.mp hstep
    exact .inl (socket_commandRead hc)
  | ended => exact absurd hstep (by simp [taskStep])

/-- Connections are only added, and only the end of the task clears the handle. It is what the other
    tasks can rely on. -/
theorem taskStep_frame (hstep : taskStep st ph x = some p) :
    st.nextConn ≤ p.1.nextConn ∧ (p.2 = .ended ∨ p.1.taskHandle = st.taskHandle) := by
  -- The phases in groups by the outcome: connections are counted only when a client is accepted.
  cases ph with
  | outerTop | retrying | acceptTop | delaying | entering | sessionTop | running | cleaning
  | closingServer | authReading =>
    obtain ⟨-, -, rfl⟩ := Option.map_eq_some_iff.mp hstep
    exact ⟨le_rfl, .inr rfl⟩
  | exiting =>
    obtain ⟨-, -, rfl⟩ := Option.map_eq_some_iff.mp hstep
    exact ⟨le_rfl, .inl rfl⟩
  | accepting =>
    obtain ⟨peer, -, hpeer⟩ := Option.bind_eq_some_iff.mp hstep
    cases peer with
    | none =>
      obtain rfl := Option.some.inj hpeer
      exact ⟨le_rfl, .inr rfl⟩
    | some peer =>
      -- A client that is accepted takes the next number.
      obtain ⟨-, hp⟩ := Option.ite_none_right_eq_some.mp hpeer
      obtain rfl := Option.some.inj hp
      exact ⟨Nat.le_succ _, .inr rfl⟩
  | opening | tailnetCheck =>
    obtain ⟨_, -, rfl⟩ := Option.map_eq_some_iff.mp hstep
    split <;> exact ⟨le_rfl, .inr rfl⟩
  | bindCheck =>
    obtain ⟨_, -, rfl⟩ := Option.map_eq_some_iff.mp hstep
    dsimp only
    split <;> exact ⟨le_rfl, .inr rfl⟩
  | locking | gate | verifying =>
    obtain ⟨_, -, rfl⟩ := Option.map_eq_some_iff.mp hstep
    simp only [lockStep, gateStep, verifyStep]
    split <;> exact ⟨le_rfl, .inr rfl⟩
  | sessionReading fd r =>
    obtain ⟨result, -, rfl⟩ := Option.map_eq_some_iff.mp hstep
    simp only [commandRead]
    split
    -- A line that was read leads to a command, to more input or to the end.
    case h_5 => split_ifs <;> exact ⟨le_rfl, .inr rfl⟩
    all_goals exact ⟨le_rfl, .inr rfl⟩
  | ended => exact absurd hstep (by simp [taskStep])

namespace Console

variable {s s' : Console} {a : Act} {k : Nat}

theorem Tracked.sole (h : s.Tracked) : s.Sole := by
  intro i j hi hj
  exact Option.some.inj ((h.handle i hi).symm.trans (h.handle j hj))

/-- Beside a task that is alive there is no other. -/
theorem Tracked.ended_of_ne {i j : Nat} (h : s.Tracked) (hj : s.tasks j ≠ .ended) (hij : i ≠ j) :
    s.tasks i = .ended := by
  by_contra hi
  exact hij (h.sole i j hi hj)

theorem Tracked.single (h : s.Tracked) : s.Single :=
  ⟨h.sole, fun i c line hrun => h.serving i c (by rw [hrun]; rfl)⟩

/-- Another shared state with the same handle, record and client socket. -/
theorem Tracked.share (h : s.Tracked) (st : Shared)
    (hhandle : st.taskHandle = s.shared.taskHandle) (hlog : st.log = s.shared.log)
    (hnext : st.nextConn = s.shared.nextConn) (hclient : st.clientSocket = s.shared.clientSocket) :
    Tracked { s with shared := st } := by
  refine ⟨?_, h.creating, ?_, ?_, ?_⟩
  · exact fun i hi => hhandle.trans (h.handle i hi)
  · intro i
    have hkept := h.recorded i
    rwa [Shared.Kept, ← hlog, ← hnext, ← hclient] at hkept
  · exact hnext.symm ▸ h.barred
  · intro i c hc
    exact h.serving i c (hclient ▸ hc)

/-- A caller goes on, and not to create a task. -/
theorem Tracked.goto (h : s.Tracked) (k : Nat) {call : Call} (hcall : call ≠ .creating) :
    (s.goto k call).Tracked := by
  have hold : ∀ j, (s.goto k call).calls j = .creating → s.calls j = .creating := by
    intro j hj
    rw [goto_calls] at hj
    split at hj
    · exact absurd hj hcall
    · exact hj
  refine ⟨h.handle, ?_, h.recorded, h.barred, h.serving⟩
  intro j hj
  exact ⟨(h.creating j (hold j hj)).1, fun i hi => (h.creating j (hold j hj)).2 i (hold i hi)⟩

/-- A disable returns when no task is alive. -/
theorem Tracked.disabled (h : s.Tracked) (hno : s.NoTask) (k : Nat) :
    (s.disabled k).Tracked := by
  have hbarred : Tracked { s with barredBelow := s.shared.nextConn } := by
    refine ⟨h.handle, h.creating, h.recorded, le_rfl, ?_⟩
    intro i c hc
    rw [hno i, Phase.socket_ended] at hc
    cases hc
  exact hbarred.goto k (by decide)

/-- An enable creates its task. No task is alive then, and nobody else is about to create one. -/
theorem Tracked.createTask (h : s.Tracked) (hcall : s.calls k = .creating) :
    (s.createTask.goto k .idle).Tracked := by
  obtain ⟨hno, honly⟩ := h.creating k hcall
  -- No task was left when the handle was found empty, so the new one is the only one.
  have htasks : ∀ i, (s.createTask.goto k .idle).tasks i =
      if i = s.nextTask then .outerTop else .ended := by
    intro i
    exact (s.createTask_tasks i).trans (by rw [hno i])
  refine ⟨?_, ?_, ?_, h.barred, ?_⟩
  · intro i hi
    by_cases hnew : i = s.nextTask
    · exact congrArg some hnew.symm
    · exact absurd (by rw [htasks, if_neg hnew]) hi
  -- Only this call was creating.
  · intro j hj
    rw [goto_calls] at hj
    split at hj
    · exact absurd hj (by decide)
    · exact absurd (honly j hj) ‹_›
  -- The record agrees with the new task, which has done nothing yet.
  · intro i
    rw [htasks]
    refine (h.recorded i).goto ?_
    split <;> trivial
  · intro i c hc
    rw [htasks] at hc
    split at hc <;> cases hc

/-- A disable gives up the handle when no task is alive. -/
theorem Tracked.forgetHandle (h : s.Tracked) (hno : s.NoTask) : s.forgetHandle.Tracked :=
  ⟨fun i hi => absurd (hno i) hi, h.creating, h.recorded, h.barred, h.serving⟩

/-- Without a handle there is no task. -/
theorem Tracked.noTask (h : s.Tracked) (hhandle : s.shared.taskHandle = none) : s.NoTask := by
  intro i
  by_contra hi
  exact absurd ((h.handle i hi).symm.trans hhandle) (by simp)

/-- An enable finds the handle `NULL`: no task is alive, and nobody is creating one. -/
theorem Tracked.begin (h : s.Tracked) (hhandle : s.shared.taskHandle = none)
    (halone : ∀ j, s.calls j ≠ .creating) (k : Nat) : (s.goto k .creating).Tracked := by
  have hno := h.noTask hhandle
  refine ⟨h.handle, ?_, h.recorded, h.barred, h.serving⟩
  intro j hj
  have honly : ∀ i, (s.goto k .creating).calls i = .creating → i = k := by
    intro i hi
    rw [goto_calls] at hi
    split at hi
    · assumption
    · exact absurd hi (halone i)
  exact ⟨hno, fun i hi => (honly i hi).trans (honly j hj).symm⟩

/-- A new enable lifts the bar. -/
theorem Tracked.lift (h : s.Tracked) : Tracked { s with barredBelow := 0 } :=
  ⟨h.handle, h.creating, h.recorded, Nat.zero_le _, fun _ _ _ => Nat.zero_le _⟩

/-- **Step lemma for the calls.** Only an enable makes a task, and the condition says that the one
    before it has ended by then. -/
theorem tracked_callStep {x : CallIn} (h : s.Tracked) (hprompt : s.Prompt (.call k x))
    (hstep : s.callStep k x = some s') : s'.Tracked := by
  unfold callStep at hstep
  split at hstep
  -- `remote_console_enable` sets `enabled`
  case h_1 =>
    split_ifs at hstep <;> obtain rfl := Option.some.inj hstep
    · exact h.lift
    · refine Tracked.goto ?_ k (by decide)
      exact h.lift.share _ rfl rfl rfl rfl
  -- it finds no handle, and begins to create a task
  case h_2 hcall =>
    split_ifs at hstep with hhandle <;> obtain rfl := Option.some.inj hstep
    · refine Tracked.begin ?_ ?_ ?_ k
      · exact h.share _ rfl rfl rfl rfl
      · exact hhandle
      · exact hprompt.2 hcall hhandle
    · exact h.goto k (by decide)
  -- the task is created, or `enabled` is taken back
  case h_3 hcall =>
    split_ifs at hstep <;> obtain rfl := Option.some.inj hstep
    · exact h.createTask hcall
    · refine Tracked.goto ?_ k (by decide)
      exact h.share _ rfl rfl rfl rfl
  -- `remote_console_disable`, also of a console that is disabled already
  case h_4 hcall =>
    split_ifs at hstep with henabled <;> obtain rfl := Option.some.inj hstep
    · refine Tracked.goto ?_ k (by decide)
      exact h.share _ rfl rfl rfl rfl
    · exact h.disabled (hprompt hcall (Bool.eq_false_iff.mpr henabled)) k
  case h_5 =>
    dsimp only at hstep
    split_ifs at hstep with hhandle <;> obtain rfl := Option.some.inj hstep
    · refine Tracked.disabled ?_ ?_ k
      · exact h.share _ rfl rfl rfl rfl
      · exact h.noTask hhandle
    · refine Tracked.goto ?_ k (by decide)
      exact h.share _ rfl rfl rfl rfl
  -- the wait is over: the condition says that the task is gone
  case h_6 hcall =>
    obtain rfl := Option.some.inj hstep
    exact (h.forgetHandle (hprompt.1 hcall)).disabled (hprompt.1 hcall) k
  case h_7 => exact absurd hstep (by simp)

/-- **Step lemma.** Tasks, calls and settings, each with what it may change. -/
theorem tracked_step (h : s.Tracked) (hprompt : s.Prompt a) (hstep : s.step a = some s') :
    s'.Tracked := by
  cases a with
  | task j x =>
    have hrecorded := recorded_step h.sole h.recorded hstep
    obtain ⟨p, hp, rfl⟩ := Option.map_eq_some_iff.mp hstep
    have hj : s.tasks j ≠ .ended := fun hended => by simp [hended, taskStep] at hp
    obtain ⟨hnext, hhandle⟩ := taskStep_frame hp
    refine ⟨?_, ?_, hrecorded, h.barred.trans hnext, ?_⟩
    · intro i hi
      dsimp only at hi ⊢
      by_cases hij : i = j
      · subst hij
        rw [Function.update_self] at hi
        exact (hhandle.resolve_left hi).trans (h.handle i hj)
      · rw [Function.update_of_ne hij] at hi
        exact absurd (h.ended_of_ne hj hij) hi
    · intro k hk
      exact absurd ((h.creating k hk).1 j) hj
    · intro i c hc
      dsimp only at hc ⊢
      by_cases hij : i = j
      · -- the connection is the one that was served, or the next one
        subst hij
        rw [Function.update_self] at hc
        rcases taskStep_socket (h.recorded i) hp hc with hold | rfl
        · exact h.serving i c hold
        · exact h.barred
      · rw [Function.update_of_ne hij, h.ended_of_ne hj hij, Phase.socket_ended] at hc
        cases hc
  | call k x => exact tracked_callStep h hprompt hstep
  | kick =>
    obtain rfl := Option.some.inj hstep
    unfold kick
    split <;> exact h.share _ rfl rfl rfl rfl
  | setPassword set | setBind bind | setTimeout sec =>
    obtain rfl := Option.some.inj hstep
    exact h.share _ rfl rfl rfl rfl

/-- An enable that finds the console disabled and the handle `NULL` creates a task. -/
theorem enable_creates (hcall : s.calls k = .idle) (hoff : s.shared.enabled = false)
    (hhandle : s.shared.taskHandle = none) :
    ∃ t, console.run s [.call k .enable, .call k (.proceed true), .call k (.proceed true)] =
      some t ∧ t.tasks = s.createTask.tasks := by
  simp [Machine.run, console, step, callStep, hcall, hoff, hhandle, goto, createTask]

/-- A disable whose wait is over before its task has ended, and the enable after it: two tasks
    are alive. -/
theorem late_exit_second_task {i : Nat} (hcall : s.calls k = .waiting)
    (hi : s.tasks i ≠ .ended) (hnew : i ≠ s.nextTask) (hoff : s.shared.enabled = false) :
    ∃ t, console.run s [.call k (.proceed true), .call k .enable, .call k (.proceed true),
      .call k (.proceed true)] = some t ∧ ¬ t.Sole := by
  have hforget : s.callStep k (.proceed true) = some (s.forgetHandle.disabled k) := by
    simp only [callStep, hcall]
  have hidle : (s.forgetHandle.disabled k).calls k = .idle := by
    rw [Console.disabled, goto_calls, if_pos rfl]
  obtain ⟨t, hrun, htasks⟩ := enable_creates hidle hoff rfl
  have hafter : ∀ j, t.tasks j = if j = s.nextTask then .outerTop else s.tasks j := fun j =>
    htasks ▸ createTask_tasks _ j
  refine ⟨t, Machine.run_cons.mpr ⟨_, hforget, hrun⟩, fun hsole => hnew ?_⟩
  refine hsole i s.nextTask ?_ ?_
  · rwa [hafter, if_neg hnew]
  · rw [hafter, if_pos rfl]
    exact nofun

end Console

variable {enabled created passwordSet : Bool} {bind : BitVec 8} {idleTimeoutSec : Nat}
  {as : List Console.Act} {t : Console}

/-- After `remote_console_init` the handle is that of the task. -/
theorem tracked_init : (init enabled created bind idleTimeoutSec passwordSet).Tracked := by
  refine ⟨?_, fun k hk => (nomatch hk), recorded_init, Nat.zero_le _, fun _ _ _ => Nat.zero_le _⟩
  intro i hi
  obtain ⟨hcreated, rfl⟩ := init_alive hi
  exact if_pos hcreated

theorem tracked_run
    (hmeets : console.Meets Console.Prompt
      (init enabled created bind idleTimeoutSec passwordSet) as)
    (hrun : console.run (init enabled created bind idleTimeoutSec passwordSet) as = some t) :
    t.Tracked :=
  Machine.invariant_of_meets (fun _ _ _ hprompt hstep h => Console.tracked_step h hprompt hstep)
    hmeets hrun tracked_init

/-- **Single server.** In every run in which each disable returns after its task has ended,
    and no two enables create a task at the same time, at most one task is alive, and no
    session that a disable has cut off runs a command. -/
theorem single_server
    (hmeets : console.Meets Console.Prompt
      (init enabled created bind idleTimeoutSec passwordSet) as)
    (hrun : console.run (init enabled created bind idleTimeoutSec passwordSet) as = some t) :
    t.Single :=
  (tracked_run hmeets hrun).single

/-- In these runs every command is authenticated, however often the console is enabled. -/
theorem authenticated_of_prompt
    (hmeets : console.Meets Console.Prompt
      (init enabled created bind idleTimeoutSec passwordSet) as)
    (hrun : console.run (init enabled created bind idleTimeoutSec passwordSet) as = some t) :
    Authenticated t.shared.log :=
  ((tracked_run hmeets hrun).recorded 0).proper.authenticated

/-- A console that cannot open its socket is disabled, ends, and is enabled again. -/
def promptExitSteps : List Console.Act :=
  [.task 0 .tick, .task 0 (.opened false), .call 1 .disable, .call 1 (.proceed true),
    .task 0 .tick, .task 0 .tick, .task 0 .tick, .call 1 (.proceed true),
    .call 1 .enable, .call 1 (.proceed true), .call 1 (.proceed true)]

/-- The condition is about calls; the steps of a task need nothing. -/
theorem meets_task {i : Nat} {x : TaskIn} {s u : Console}
    (hstep : console.step s (.task i x) = some u) (hrest : console.Meets Console.Prompt u as) :
    console.Meets Console.Prompt s (.task i x :: as) :=
  (Machine.meets_cons hstep).mpr ⟨trivial, hrest⟩

/-- Its calls meet the condition: the disable returns when task 0 has ended. -/
theorem promptExitSteps_meets :
    console.Meets Console.Prompt accessPointConsole promptExitSteps := by
  refine meets_task rfl (meets_task rfl ?_)
  refine (Machine.meets_cons rfl).mpr ⟨nofun, ?_⟩
  refine (Machine.meets_cons rfl).mpr ⟨⟨nofun, nofun⟩, ?_⟩
  refine meets_task rfl (meets_task rfl (meets_task rfl ?_))
  -- the wait is over, and task 0 has ended
  refine (Machine.meets_cons rfl).mpr ⟨⟨fun _ i => ?_, nofun⟩, ?_⟩
  · cases i <;> rfl
  refine (Machine.meets_cons rfl).mpr ⟨trivial, ?_⟩
  -- no other call is creating a task
  refine (Machine.meets_cons rfl).mpr ⟨⟨nofun, fun _ _ j => ?_⟩, ?_⟩
  · rcases j with _ | _ | j
    · exact nofun
    · exact nofun
    · exact nofun
  exact (Machine.meets_cons rfl).mpr ⟨⟨nofun, nofun⟩, Machine.meets_nil⟩

theorem promptExitSteps_tasks :
    (console.run accessPointConsole promptExitSteps).map (fun t => (t.tasks 0, t.tasks 1)) =
      some (.ended, .outerTop) := rfl

theorem prompt_exit_single : ∃ t, console.run accessPointConsole promptExitSteps = some t ∧
    t.tasks 1 = .outerTop ∧ t.Single := by
  obtain ⟨t, hrun, htasks⟩ := Option.map_eq_some_iff.mp promptExitSteps_tasks
  exact ⟨t, hrun, (Prod.mk.inj htasks).2, single_server promptExitSteps_meets hrun⟩

/-- The same disable returns while the task is still in its delay of five seconds. -/
def lateExitSteps : List Console.Act :=
  [.task 0 .tick, .task 0 (.opened false), .call 1 .disable, .call 1 (.proceed true),
    .call 1 (.proceed true), .call 1 .enable, .call 1 (.proceed true), .call 1 (.proceed true)]

/-- A disable returns while a session is inside `recv`, and the end of a line arrives. -/
def lateLineSteps : List Console.Act :=
  loginSteps ++ [.task 0 .tick, .task 0 .tick] ++ typeSteps [0x62] ++
    [.task 0 (.read (.poll false)), .call 1 .disable, .call 1 (.proceed true),
      .call 1 (.proceed true), .task 0 (.read (.byte 0x0A))]

theorem lateExitSteps_tasks :
    (console.run accessPointConsole lateExitSteps).map (fun t => (t.tasks 0, t.tasks 1)) =
      some (.retrying, .outerTop) := rfl

theorem lateLineSteps_task :
    (console.run accessPointConsole lateLineSteps).map (fun t => (t.tasks 0, t.barredBelow)) =
      some (.running (some 0) [0x62], 1) := rfl

/-- In the first run two tasks are alive; in the second the session runs a command after
    the console was disabled. -/
theorem late_exit_not_single :
    (∃ t, console.run accessPointConsole lateExitSteps = some t ∧ ¬ t.Sole) ∧
      ∃ t, console.run accessPointConsole lateLineSteps = some t ∧ ¬ t.Single := by
  obtain ⟨t, hrun, htasks⟩ := Option.map_eq_some_iff.mp lateExitSteps_tasks
  obtain ⟨u, hlate, hline⟩ := Option.map_eq_some_iff.mp lateLineSteps_task
  obtain ⟨hzero, hone⟩ := Prod.mk.inj htasks
  obtain ⟨hrunning, hbarred⟩ := Prod.mk.inj hline
  refine ⟨⟨t, hrun, fun hsole => ?_⟩, u, hlate, fun hsingle => ?_⟩
  · exact absurd (hsole 0 1 (by rw [hzero]; exact nofun) (by rw [hone]; exact nofun)) (by decide)
  · exact absurd (hbarred ▸ hsingle.stopped 0 0 _ hrunning) (by decide)

end SubnetRouter.RemoteConsole
