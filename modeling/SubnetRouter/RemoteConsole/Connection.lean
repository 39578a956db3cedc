import SubnetRouter.RemoteConsole.Task

namespace SubnetRouter.RemoteConsole

open Lib

/-!
# A console connection, line by line (`components/remote_console/remote_console.c`)

The client sends a stream of bytes, and `recv_line` takes it one byte at a time.

* `Connection`, `connection` — a client that is served, with the bytes that it sends and the lines
  that its attempts and commands came from.
* `Connection.OnceFor` — a line has led to one attempt or command at most.
* `stepped` — what a step counts, and whether the line goes on.
* `TakesOnce` — nothing comes of what is left of a line when it has filled the buffer.
* `commandDue`, `passwordDue` — the same as a count of what the rest of a line can lead to.
-/

/-! ### A connection -/

/-- The client is being served: from its first attempt to the end of its session. Only then bytes
    are taken from it. -/
def Phase.serves : Phase → Bool
  | authReading .. => true
  | verifying .. => true
  | delaying _ => true
  | entering => true
  | sessionTop _ => true
  | sessionReading .. => true
  | running .. => true
  | _ => false

/-- A client that is served: where the task stands, the bytes received so far and those that are
    still to come; and for the record, the line that each password and each command came from. -/
structure Connection where
  phase : Phase
  received : List UInt8
  rest : List UInt8
  attempts : List Nat
  commands : List Nat

namespace Connection

/-- The number of the line that the next byte belongs to. -/
def line (c : Connection) : Nat := c.received.count 0x0A

/-- The next byte is the first one of its line. -/
def AtStart (c : Connection) : Prop := c.received = [] ∨ c.received.getLast? = some 0x0A

/-- Take the byte that `recv` returns from the stream. No byte is read that was not sent, and none
    is read twice. -/
def take (c : Connection) : TaskIn → Option Connection
  | .read (.byte b) =>
    match c.rest with
    | b' :: rest =>
      if b = b' then some { c with received := c.received ++ [b], rest := rest } else none
    | [] => none
  | _ => some c

/-- What `recv_line` returns in a step. -/
def result (st : Shared) (x : TaskIn) : Phase → Option LineResult
  | .authReading fd _ r => x.read?.bind (recvLine st fd r)
  | .sessionReading fd r => x.read?.bind (recvLine st fd r)
  | _ => none

/-- A line is taken as a password. -/
def attempted : Phase → Option LineResult → Bool
  | .authReading .., some (.line _) => true
  | _, _ => false

/-- A line that is not empty is taken as a command; `quit` and `exit` are commands. -/
def executed : Phase → Option LineResult → Bool
  | .sessionReading .., some (.line l) => l ≠ []
  | _, _ => false

/-- A step of the task on the client of socket `fd`, with whatever the other tasks have made of the
    shared state; but `rc_state.client_socket` is written by this task only. -/
def step (fd : Nat) (c : Connection) : Shared × TaskIn → Option Connection
  | (st, x) =>
    if st.clientSocket = some fd ∧ c.phase.serves then
      (c.take x).bind fun d => (taskStep st c.phase x).map fun p =>
        { d with
          phase := p.2
          attempts :=
            if attempted c.phase (result st x c.phase) then c.line :: c.attempts else c.attempts
          commands :=
            if executed c.phase (result st x c.phase) then c.line :: c.commands else c.commands }
    else none

/-- The start: the first attempt, with all bytes to come. -/
def start (fd : Nat) (stream : List UInt8) : Connection :=
  ⟨attemptAuth (some fd) 0, [], stream, [], []⟩

/-- The attempts and commands that came from a line. -/
def actions (c : Connection) (k : Nat) : Nat := c.attempts.count k + c.commands.count k

/-- A line has led to at most one attempt and at most one command, and not to both: one of the two
    would have been made of its tail. -/
def OnceFor (c : Connection) (k : Nat) : Prop :=
  c.attempts.count k ≤ 1 ∧ c.commands.count k ≤ 1 ∧ ¬ (k ∈ c.attempts ∧ k ∈ c.commands)

theorem onceFor_iff {c : Connection} {k : Nat} : c.OnceFor k ↔ c.actions k ≤ 1 := by
  unfold OnceFor actions
  rw [← List.count_pos_iff, ← List.count_pos_iff]
  omega

end Connection

/-- The machine of a connection. -/
def connection (fd : Nat) : Machine Connection (Shared × TaskIn) := ⟨Connection.step fd⟩

/-- How many attempts and commands a step leads to. -/
def actsOf (ph : Phase) (result : Option LineResult) : Nat :=
  (if Connection.attempted ph result then 1 else 0) +
    if Connection.executed ph result then 1 else 0

/-! ### A step -/

variable {fd : Nat} {st : Shared}

/-- The rest of the current line. -/
def Connection.lineRest (c : Connection) : List UInt8 := c.rest.takeWhile (· ≠ 0x0A)

/-- A step takes a byte from the stream or none. -/
def Moves (c d : Connection) (x : TaskIn) : Prop :=
  ((∀ b, x ≠ .read (.byte b)) ∧ d.received = c.received ∧ d.rest = c.rest) ∨
    ∃ b, x = .read (.byte b) ∧ d.received = c.received ++ [b] ∧ c.rest = b :: d.rest

/-- What a step of a connection is: a step of the task, with what it leads to counted for the
    current line. -/
structure Stepped (fd : Nat) (c d : Connection) (st : Shared) (x : TaskIn) : Prop where
  client : c.phase.serves = true
  socket : st.clientSocket = some fd
  task : ∃ st', taskStep st c.phase x = some (st', d.phase)
  moves : Moves c d x
  actions : ∀ j, d.actions j = c.actions j +
    if j = c.line then actsOf c.phase (Connection.result st x c.phase) else 0

theorem take_cases {c d : Connection} {x : TaskIn} (h : c.take x = some d) :
    Moves c d x ∧ d.attempts = c.attempts ∧ d.commands = c.commands := by
  unfold Connection.take at h
  split at h
  · split at h
    · rename_i b _ b' rest hrest
      split_ifs at h with hb
      cases h
      exact ⟨Or.inr ⟨b, rfl, rfl, hb ▸ hrest⟩, rfl, rfl⟩
    · cases h
  · rename_i hquiet
    cases h
    exact ⟨Or.inl ⟨hquiet, rfl, rfl⟩, rfl, rfl⟩

theorem stepped {c d : Connection} {x : TaskIn} (hstep : (connection fd).step c (st, x) = some d) :
    Stepped fd c d st x := by
  change Connection.step fd c (st, x) = some d at hstep
  unfold Connection.step at hstep
  dsimp only at hstep
  -- The connection steps only while the client socket is its own.
  by_cases hclient : st.clientSocket = some fd ∧ c.phase.serves = true
  swap
  · rw [if_neg hclient] at hstep
    cases hstep
  rw [if_pos hclient] at hstep
  obtain ⟨e, htake, hmap⟩ := Option.bind_eq_some_iff.mp hstep
  obtain ⟨⟨st', ph⟩, htask, rfl⟩ := Option.map_eq_some_iff.mp hmap
  obtain ⟨hmoves, hattempts, hcommands⟩ := take_cases htake
  refine ⟨hclient.2, hclient.1, ⟨st', htask⟩, hmoves, fun j => ?_⟩
  unfold Connection.actions actsOf
  dsimp only
  -- The byte read moves the count of the current line; the others keep theirs.
  by_cases hj : j = c.line
  · subst hj
    split_ifs <;> simp <;> omega
  · have hj' : ¬ c.line = j := fun h => hj h.symm
    split_ifs <;> simp [hj']

/-- The line goes on, or ends. -/
theorem Moves.line_cases {c d : Connection} {x : TaskIn} (h : Moves c d x) :
    ((∀ b, x ≠ .read (.byte b)) ∧ d.line = c.line ∧ d.lineRest = c.lineRest) ∨
      (∃ b, x = .read (.byte b) ∧ b ≠ 0x0A ∧ d.line = c.line ∧ c.lineRest = b :: d.lineRest) ∨
      x = .read (.byte 0x0A) ∧ d.line = c.line + 1 ∧ c.lineRest = [] := by
  rcases h with ⟨hquiet, hreceived, hrest⟩ | ⟨b, rfl, hreceived, hrest⟩
  · refine Or.inl ⟨hquiet, ?_, ?_⟩
    · rw [Connection.line, Connection.line, hreceived]
    · rw [Connection.lineRest, Connection.lineRest, hrest]
  · have hline : d.line = c.line + if b = 0x0A then 1 else 0 := by
      rw [Connection.line, Connection.line, hreceived, List.count_append, List.count_singleton]
      simp
    have hlineRest : c.lineRest = (b :: d.rest).takeWhile (· ≠ 0x0A) := by
      rw [Connection.lineRest, hrest]
    by_cases hb : b = 0x0A
    · subst hb
      exact Or.inr (Or.inr ⟨rfl, hline, hlineRest⟩)
    · rw [if_neg hb] at hline
      rw [List.takeWhile_cons_of_pos (by simpa using hb)] at hlineRest
      exact Or.inr (Or.inl ⟨b, rfl, hb, hline, hlineRest⟩)

/-- How a line begins. -/
theorem Moves.atStart {c d : Connection} {x : TaskIn} (h : Moves c d x) (hd : d.AtStart) :
    (∀ b, x ≠ .read (.byte b)) ∧ d.line = c.line ∧ c.AtStart ∨
      x = .read (.byte 0x0A) ∧ d.line = c.line + 1 := by
  rcases h with ⟨hquiet, hreceived, -⟩ | ⟨b, rfl, hreceived, -⟩
  · refine Or.inl ⟨hquiet, ?_, ?_⟩
    · rw [Connection.line, Connection.line, hreceived]
    · rwa [Connection.AtStart, ← hreceived]
  · rw [Connection.AtStart, hreceived] at hd
    have hb : b = 0x0A := by simpa using hd
    subst hb
    refine Or.inr ⟨rfl, ?_⟩
    rw [Connection.line, Connection.line, hreceived, List.count_append]
    rfl

/-! ### What is left of a line -/

/-- The text of a line after one more byte; Ctrl+C starts it anew. Control characters that are not
    named here are left out. -/
def edit (text : List UInt8) (c : UInt8) : List UInt8 :=
  if c = 0x08 ∨ c = 0x7F then text.dropLast
  else if c = 0x03 then []
  else if 0x20 ≤ c ∧ c < 0x7F then text ++ [c]
  else text

/-- What is left of a line when its text first has `size` characters, unless one of the `stops`
    comes before that. -/
def tailFrom (stops : List UInt8) (size : Nat) (text : List UInt8) :
    List UInt8 → Option (List UInt8)
  | [] => none
  | c :: line =>
    if c ∈ stops then none
    else if (edit text c).length = size then some line
    else tailFrom stops size (edit text c) line

/-- The sizes of the two texts, without the null character. -/
def passwordSize : Nat := passwordInputLen - 1
def commandSize : Nat := rcMaxLineLen - 1

/-- What is left of a command line, and of a password line; Ctrl+D ends the connection, and so does
    Ctrl+C before the password. -/
def commandTail (line : List UInt8) : Option (List UInt8) := tailFrom [0x04] commandSize [] line
def passwordTail (line : List UInt8) : Option (List UInt8) :=
  tailFrom [0x03, 0x04] passwordSize [] line

/-- No command: the line is not filled up, and it is empty at its end or never gets there. -/
def NoCommand (line : List UInt8) : Prop :=
  commandTail line = none ∧ (0x04 ∈ line ∨ line.foldl edit [] = [])

/-- No password: the line is not filled up, and never gets to its end. -/
def NoPassword (line : List UInt8) : Prop :=
  passwordTail line = none ∧ (0x03 ∈ line ∨ 0x04 ∈ line)

/-- Nothing comes of the tail of a command line. -/
def CommandOnce (line : List UInt8) : Prop := ∀ tail ∈ commandTail line, NoCommand tail

/-- Nothing comes of the tail of a password line: no command if the password is right, and no other
    attempt if it is wrong and there is one left. -/
def PasswordOnce (attempt : Nat) (line : List UInt8) : Prop :=
  ∀ tail ∈ passwordTail line,
    NoCommand tail ∧ (attempt + 1 < rcMaxAuthAttempts → NoPassword tail)

/-- Nothing comes of the tail of a line, by where the task stands when the line begins. While a
    password is verified the line may still turn out to be a command or the next attempt. -/
def TakesOnce : Phase → List UInt8 → Prop
  | .authReading _ attempt _, line => PasswordOnce attempt line
  | .verifying _ attempt _, line =>
    CommandOnce line ∧ (attempt + 1 < rcMaxAuthAttempts → PasswordOnce (attempt + 1) line)
  | .entering, line => CommandOnce line
  | .sessionTop _, line => CommandOnce line
  | .sessionReading _ _, line => CommandOnce line
  | .running _ _, line => CommandOnce line
  | _, _ => True

/-! ### What a line can lead to -/

/-- How many commands the rest of a line leads to, behind the text so far. A text that fills the
    buffer is a command by itself, and what follows begins another. -/
def commandDue (text : List UInt8) : List UInt8 → Nat
  | [] => if text = [] then 0 else 1
  | c :: line =>
    if c = 0x04 then 0
    else if (edit text c).length = commandSize then 1 + commandDue [] line
    else commandDue (edit text c) line

/-- How many attempts and commands it leads to, at most. Whether an attempt succeeds is not known,
    so the larger of the two ways counts. -/
def passwordDue (attempt : Nat) (text : List UInt8) : List UInt8 → Nat
  | [] => 1
  | c :: line =>
    if c ∈ [0x03, 0x04] then 0
    else if (edit text c).length = passwordSize then
      1 + max (commandDue [] line)
        (if attempt + 1 < rcMaxAuthAttempts then passwordDue (attempt + 1) [] line else 0)
    else passwordDue attempt (edit text c) line

/-- The same after an attempt, whatever comes of it. -/
def attemptDue (attempt : Nat) (line : List UInt8) : Nat :=
  max (commandDue [] line)
    (if attempt + 1 < rcMaxAuthAttempts then passwordDue (attempt + 1) [] line else 0)

variable {text line tail : List UInt8} {attempt : Nat}

/-- No command is due exactly if there is none. -/
theorem commandDue_eq_zero : commandDue text line = 0 ↔
    tailFrom [0x04] commandSize text line = none ∧
      (0x04 ∈ line ∨ line.foldl edit text = []) := by
  induction line generalizing text with
  | nil => simp [commandDue, tailFrom]
  | cons c line ih =>
    by_cases hstop : c = 0x04
    · simp [commandDue, tailFrom, hstop]
    · by_cases hfull : (edit text c).length = commandSize
      · simp [commandDue, tailFrom, hstop, hfull]
      · simp [commandDue, tailFrom, hstop, hfull, ih, Ne.symm hstop]

/-- At most one command is due exactly if nothing comes of the tail. -/
theorem commandDue_le_one : commandDue text line ≤ 1 ↔
    ∀ tail ∈ tailFrom [0x04] commandSize text line, NoCommand tail := by
  induction line generalizing text with
  | nil =>
    refine iff_of_true ?_ nofun
    unfold commandDue
    split <;> decide
  | cons c line ih =>
    by_cases hstop : c = 0x04
    · simp [commandDue, tailFrom, hstop]
    · by_cases hfull : (edit text c).length = commandSize
      · have hzero : 1 + commandDue [] line ≤ 1 ↔ NoCommand line := by
          rw [NoCommand, commandTail, ← commandDue_eq_zero]
          omega
        simp [commandDue, tailFrom, hstop, hfull, hzero]
      · simp [commandDue, tailFrom, hstop, hfull, ih]

theorem passwordDue_eq_zero : passwordDue attempt text line = 0 ↔
    tailFrom [0x03, 0x04] passwordSize text line = none ∧ (0x03 ∈ line ∨ 0x04 ∈ line) := by
  induction line generalizing text with
  | nil => simp [passwordDue]
  | cons c line ih =>
    by_cases hstop : c ∈ [0x03, 0x04]
    · rw [passwordDue, tailFrom, if_pos hstop, if_pos hstop]
      refine iff_of_true rfl ⟨rfl, ?_⟩
      simp only [List.mem_cons, List.not_mem_nil, or_false] at hstop ⊢
      rcases hstop with rfl | rfl <;> simp
    · by_cases hfull : (edit text c).length = passwordSize
      · rw [passwordDue, tailFrom, if_neg hstop, if_neg hstop, if_pos hfull, if_pos hfull]
        simp
      · rw [passwordDue, tailFrom, if_neg hstop, if_neg hstop, if_neg hfull, if_neg hfull, ih]
        simp only [List.mem_cons, List.not_mem_nil, or_false, not_or] at hstop
        simp [Ne.symm hstop.1, Ne.symm hstop.2]

theorem passwordDue_le_one : passwordDue attempt text line ≤ 1 ↔
    ∀ tail ∈ tailFrom [0x03, 0x04] passwordSize text line,
      NoCommand tail ∧ (attempt + 1 < rcMaxAuthAttempts → NoPassword tail) := by
  induction line generalizing text with
  | nil => exact iff_of_true (Nat.le_refl 1) nofun
  | cons c line ih =>
    by_cases hstop : c ∈ [0x03, 0x04]
    · rw [passwordDue, tailFrom, if_pos hstop, if_pos hstop]
      exact iff_of_true (Nat.zero_le 1) nofun
    · by_cases hfull : (edit text c).length = passwordSize
      · have hcommand : NoCommand line ↔ commandDue [] line = 0 := commandDue_eq_zero.symm
        have hpassword : NoPassword line ↔ passwordDue (attempt + 1) [] line = 0 :=
          passwordDue_eq_zero.symm
        rw [passwordDue, tailFrom, if_neg hstop, if_neg hstop, if_pos hfull, if_pos hfull]
        simp only [Option.mem_some_iff, forall_eq', hcommand, hpassword]
        split <;> omega
      · rw [passwordDue, tailFrom, if_neg hstop, if_neg hstop, if_neg hfull, if_neg hfull, ih]

end SubnetRouter.RemoteConsole
