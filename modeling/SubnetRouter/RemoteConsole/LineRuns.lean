import SubnetRouter.RemoteConsole.LineBudget

namespace SubnetRouter.RemoteConsole

open Lib

/-!
# Runs that lead to as much as is due (`components/remote_console/remote_console.c`)

No other task interferes, and the password is right or wrong, whichever leads to more.

* `Leads` — some run leads to so many attempts and commands of the current line.
* `commandsLead`, `passwordsLead` — by induction on the line, from where `recv` waits.
* `leads_due` — from wherever the task stands.
-/

variable {r : Reader} {size : Nat} {st : Shared} {fd : Nat} {line : List UInt8} {attempt : Nat}

/-! ### Steps of a run -/

/-- The shared state while no other task interferes. -/
def idle (fd : Nat) : Shared :=
  ⟨true, rcBindAp, 300, .active, true, some fd, 1, 0, some 0, true, false, false, true, fd + 1, []⟩

/-- From where the task stands, with these bytes to come, some run leads to `n` more attempts and
    commands of the current line. -/
def Leads (fd n : Nat) (ph : Phase) (stream : List UInt8) : Prop :=
  ∀ c : Connection, c.phase = ph → c.rest = stream →
    ∃ as d, (connection fd).run c as = some d ∧ c.actions c.line + n ≤ d.actions c.line

section Leads

variable {m n : Nat} {ph : Phase} {stream : List UInt8} {x : TaskIn} {p : Shared × Phase}
  {result : Option LineResult}

theorem Leads.zero (fd : Nat) (ph : Phase) (stream : List UInt8) : Leads fd 0 ph stream :=
  fun c _ _ => ⟨[], c, rfl, Nat.le_refl _⟩

/-- The step of a connection behind a step of the task. -/
theorem exists_step {c e : Connection} (hclient : c.phase.serves = true) (htake : c.take x = some e)
    (htask : taskStep (idle fd) c.phase x = some p) :
    ∃ d, (connection fd).step c (idle fd, x) = some d ∧ d.phase = p.2 ∧
      d.received = e.received ∧ d.rest = e.rest := by
  have hstep : Connection.step fd c (idle fd, x) = (some e).bind fun d => (some p).map fun p =>
      { d with
        phase := p.2
        attempts :=
          if Connection.attempted c.phase (Connection.result (idle fd) x c.phase) then
            c.line :: c.attempts else c.attempts
        commands :=
          if Connection.executed c.phase (Connection.result (idle fd) x c.phase) then
            c.line :: c.commands else c.commands } := by
    rw [← htake, ← htask]
    exact if_pos ⟨rfl, hclient⟩
  exact ⟨_, hstep, rfl, rfl, rfl⟩

/-- One step, then the rest of a run. -/
theorem run_of_step {c d : Connection} (hstep : (connection fd).step c (idle fd, x) = some d)
    (hline : d.line = c.line)
    (hm : m ≤ actsOf c.phase (Connection.result (idle fd) x c.phase) + n)
    (h : ∃ as e, (connection fd).run d as = some e ∧ d.actions d.line + n ≤ e.actions d.line) :
    ∃ as e, (connection fd).run c as = some e ∧ c.actions c.line + m ≤ e.actions c.line := by
  obtain ⟨as, e, hrun, hmost⟩ := h
  refine ⟨(idle fd, x) :: as, e, Machine.run_cons.mpr ⟨d, hstep, hrun⟩, ?_⟩
  have hactions := (stepped hstep).actions c.line
  rw [if_pos rfl] at hactions
  rw [hline] at hmost
  omega

/-- The byte that `recv` returns. -/
def byteOf : TaskIn → Option UInt8
  | .read (.byte b) => some b
  | _ => none

/-- A step that takes no byte. -/
theorem Leads.quiet (hclient : ph.serves = true) (hx : byteOf x = none)
    (hresult : Connection.result (idle fd) x ph = result)
    (htask : taskStep (idle fd) ph x = some p) (hm : m ≤ actsOf ph result + n)
    (h : Leads fd n p.2 stream) : Leads fd m ph stream := by
  rintro c rfl rfl
  subst hresult
  have htake : c.take x = some c := by
    unfold Connection.take
    split
    · rename_i b
      cases hx
    · rfl
  obtain ⟨d, hstep, hphase, hreceived, hrest⟩ := exists_step hclient htake htask
  have hline : d.line = c.line := by
    rw [Connection.line, Connection.line, hreceived]
  exact run_of_step hstep hline hm (h d hphase hrest)

theorem take_head {c : Connection} {b : UInt8} (hstream : c.rest = b :: stream) :
    c.take (.read (.byte b)) = some { c with received := c.received ++ [b], rest := stream } := by
  unfold Connection.take
  rw [hstream]
  exact if_pos rfl

/-- A step that takes a byte of the line. -/
theorem Leads.byte {b : UInt8} (hclient : ph.serves = true) (hb : b ≠ 0x0A)
    (hresult : Connection.result (idle fd) (.read (.byte b)) ph = result)
    (htask : taskStep (idle fd) ph (.read (.byte b)) = some p) (hm : m ≤ actsOf ph result + n)
    (h : Leads fd n p.2 stream) : Leads fd m ph (b :: stream) := by
  rintro c rfl hstream
  subst hresult
  obtain ⟨d, hstep, hphase, hreceived, hrest⟩ := exists_step hclient (take_head hstream) htask
  have hline : d.line = c.line := by
    rw [Connection.line, Connection.line, hreceived, List.count_append, List.count_singleton]
    simp [hb]
  exact run_of_step hstep hline hm (h d hphase hrest)

/-- The step that takes the end of the line. -/
theorem Leads.ends (hclient : ph.serves = true)
    (hresult : Connection.result (idle fd) (.read (.byte 0x0A)) ph = result)
    (htask : taskStep (idle fd) ph (.read (.byte 0x0A)) = some p) (hm : m ≤ actsOf ph result) :
    Leads fd m ph (0x0A :: stream) := by
  rintro c rfl hstream
  subst hresult
  obtain ⟨d, hstep, -, -, -⟩ := exists_step hclient (take_head hstream) htask
  refine ⟨[(idle fd, .read (.byte 0x0A))], d, Machine.run_cons.mpr ⟨d, hstep, rfl⟩, ?_⟩
  have hactions := (stepped hstep).actions c.line
  rw [if_pos rfl] at hactions
  omega

end Leads

section Run

variable {stream more : List UInt8}

/-- The head of the loop of `recv_line`, with room in the buffer. -/
theorem recvLine_poll (fd : Nat) (h : r.Fits size) (hwait : r.inRecv = false)
    (hlt : r.buf.length < size) :
    recvLine (idle fd) (some fd) r (.poll false) = some (.more { r with inRecv := true }) := by
  have hroom : ¬ r.maxLen - 1 ≤ r.buf.length := by
    rw [h.maxLen_eq]
    omega
  simp [recvLine, hwait, hroom, idle]

/-- The same, with a full buffer. -/
theorem recvLine_full (fd : Nat) (h : r.Fits size) (hwait : r.inRecv = false)
    (hfull : r.buf.length = size) :
    recvLine (idle fd) (some fd) r (.poll false) = some (.line r.buf) := by
  have hroom : r.maxLen - 1 ≤ r.buf.length := Nat.le_of_eq (h.maxLen_eq.trans hfull.symm)
  unfold recvLine
  dsimp only
  rw [if_neg (by simp [hwait]), if_pos hroom]

theorem recvLine_byte (st : Shared) (fd : Nat) (hin : r.inRecv = true) (c : UInt8) :
    recvLine st (some fd) r (.byte c) = some (recvByte r c) := by
  simp [recvLine, hin]

theorem Reader.Fits.recv (h : r.Fits size) (hlt : r.buf.length < size) :
    Reader.Fits { r with inRecv := true } size :=
  ⟨h.maxLen_eq, h.length_le, fun _ => hlt⟩

theorem Reader.Fits.not_waiting (h : r.Fits size) (hfull : r.buf.length = size) :
    r.inRecv = false := by
  by_contra hin
  have hlt := h.waiting (by simpa using hin)
  omega

theorem taskStep_sessionReading {x : ReadStep} {result : LineResult}
    (h : recvLine st (some fd) r x = some result) :
    taskStep st (.sessionReading (some fd) r) (.read x) = some (commandRead st (some fd) result) :=
  congrArg (Option.map (commandRead st (some fd))) h

theorem taskStep_authReading {x : ReadStep} {result : LineResult}
    (h : recvLine st (some fd) r x = some result) :
    taskStep st (.authReading (some fd) attempt r) (.read x) =
      some (st, passwordRead (some fd) attempt result) :=
  congrArg (Option.map fun result => (st, passwordRead (some fd) attempt result)) h

/-- Waiting for a byte of a command line, some run leads to what is due. -/
def CommandsLead (fd : Nat) (line stream : List UInt8) : Prop :=
  ∀ r : Reader, r.Fits commandSize → r.inRecv = true →
    Leads fd (commandDue r.buf line) (.sessionReading (some fd) r) stream

/-- The same for a password line. -/
def PasswordsLead (fd : Nat) (line stream : List UInt8) : Prop :=
  ∀ attempt (r : Reader), r.Fits passwordSize → r.inRecv = true →
    Leads fd (passwordDue attempt r.buf line) (.authReading (some fd) attempt r) stream

theorem leads_sessionPoll (hfits : r.Fits commandSize) (hin : r.inRecv = false)
    (hlt : r.buf.length < commandSize) (h : CommandsLead fd line stream) :
    Leads fd (commandDue r.buf line) (.sessionReading (some fd) r) stream := by
  have hpoll := recvLine_poll fd hfits hin hlt
  refine Leads.quiet (x := .read (.poll false)) rfl rfl hpoll (taskStep_sessionReading hpoll)
    (Nat.le_add_left _ _) ?_
  exact h _ (hfits.recv hlt) rfl

theorem leads_authPoll (hfits : r.Fits passwordSize) (hin : r.inRecv = false)
    (hlt : r.buf.length < passwordSize) (h : PasswordsLead fd line stream) :
    Leads fd (passwordDue attempt r.buf line) (.authReading (some fd) attempt r) stream := by
  have hpoll := recvLine_poll fd hfits hin hlt
  refine Leads.quiet (x := .read (.poll false)) rfl rfl hpoll (taskStep_authReading hpoll)
    (Nat.le_add_left _ _) ?_
  exact h attempt _ (hfits.recv hlt) rfl

/-- The next command line, from the head of the loop of `handle_session`. -/
theorem leads_sessionTop (h : CommandsLead fd line stream) :
    Leads fd (commandDue [] line) (.sessionTop (some fd)) stream := by
  have hfits := Reader.fits_start rcMaxLineLen 300
  have hlt : (Reader.start rcMaxLineLen 300).buf.length < commandSize := by decide
  apply Leads.quiet (x := .tick) rfl rfl rfl rfl (Nat.le_add_left _ _)
  exact leads_sessionPoll hfits rfl hlt h

/-- A full line is a command, and not `quit` or `exit`. -/
theorem commandRead_full (st : Shared) (fd : Nat) {l : List UInt8}
    (hfull : l.length = commandSize) :
    (commandRead st (some fd) (.line l)).2 = .running (some fd) l := by
  have hempty : l ≠ [] := by
    rintro rfl
    cases hfull
  have hquit : ¬ (l = quitCommand ∨ l = exitCommand) := by
    rintro (rfl | rfl) <;> cases hfull
  unfold commandRead
  dsimp only
  rw [if_neg hempty, if_neg hquit]

/-- The rest of a command line. -/
theorem leads_sessionReading (hfits : r.Fits commandSize) (h : CommandsLead fd line stream) :
    Leads fd (due (.sessionReading (some fd) r) line) (.sessionReading (some fd) r) stream := by
  rw [due]
  by_cases hfull : r.buf.length = commandSize
  · -- the text is a command, and the next line starts in the middle of this one
    have hread := recvLine_full fd hfits (hfits.not_waiting hfull) hfull
    have hacts : actsOf (.sessionReading (some fd) r) (some (.line r.buf)) = 1 := by
      have hempty : r.buf ≠ [] := by
        intro hempty
        rw [hempty] at hfull
        cases hfull
      simp [actsOf, Connection.attempted, Connection.executed, hempty]
    have hrun : Leads fd (commandDue [] line) (.running (some fd) r.buf) stream :=
      Leads.quiet (x := .tick) rfl rfl rfl rfl (Nat.le_add_left _ _) (leads_sessionTop h)
    rw [← commandRead_full (idle fd) fd hfull] at hrun
    rw [if_pos hfull]
    exact Leads.quiet (x := .read (.poll false)) rfl rfl hread (taskStep_sessionReading hread)
      (Nat.le_of_eq (congrArg (· + commandDue [] line) hacts.symm)) hrun
  · rw [if_neg hfull]
    cases hin : r.inRecv with
    | true => exact h r hfits hin
    | false => exact leads_sessionPoll hfits hin (Nat.lt_of_le_of_ne hfits.length_le hfull) h

/-- The rest of a line leads to as many commands as are due. By induction on the line, for every
    text so far. -/
theorem commandsLead (hline : 0x0A ∉ line) : CommandsLead fd line (line ++ 0x0A :: more) := by
  induction line with
  | nil =>
    intro r hfits hin
    have hend := recvLine_byte (idle fd) fd hin 0x0A
    refine Leads.ends rfl hend (taskStep_sessionReading hend) ?_
    rw [recvByte_end, commandDue]
    by_cases hempty : r.buf = [] <;>
      simp [actsOf, Connection.attempted, Connection.executed, hempty]
  | cons c line ih =>
    intro r hfits hin
    obtain ⟨hne, hrest⟩ := not_or.mp (fun h => hline (List.mem_cons.mpr h))
    have hc : c ≠ 0x0A := fun h => hne h.symm
    have hread := recvLine_byte (idle fd) fd hin c
    by_cases hclose : c = 0x04
    · rw [commandDue, if_pos hclose]
      exact Leads.zero fd _ _
    by_cases hinterrupt : c = 0x03
    · -- the session starts another command line in the middle of this one
      subst hinterrupt
      refine Leads.byte rfl hc hread (taskStep_sessionReading hread) (Nat.le_add_left _ _) ?_
      exact leads_sessionTop (ih hrest)
    · rw [recvByte_edit r hc (by simp [hclose, hinterrupt])] at hread
      have hnext := leads_sessionReading (hfits.edit (hfits.waiting hin) c) (ih hrest)
      refine Leads.byte rfl hc hread (taskStep_sessionReading hread) ?_ hnext
      rw [commandDue, if_neg hclose]
      exact Nat.le_add_left _ _

theorem leads_attemptAuth (h : PasswordsLead fd line stream) :
    Leads fd (passwordDue attempt [] line) (attemptAuth (some fd) attempt) stream :=
  leads_authPoll (Reader.fits_start passwordInputLen passwordTimeoutSec) rfl (by decide) h

/-- After an attempt, the password is right or wrong, whichever leads to more. The run is one in
    which the answer is that one. -/
theorem leads_verifying {l : List UInt8} (hcommands : CommandsLead fd line stream)
    (h : PasswordsLead fd line stream) :
    Leads fd (attemptDue attempt line) (.verifying (some fd) attempt l) stream := by
  -- Right: the session begins, and the line is read as a command.
  have hright : Leads fd (commandDue [] line) (.verifying (some fd) attempt l) stream := by
    apply Leads.quiet (x := .answer true) rfl rfl rfl rfl (Nat.le_add_left _ _)
    apply Leads.quiet (x := .tick) rfl rfl rfl rfl (Nat.le_add_left _ _)
    exact leads_sessionTop hcommands
  unfold attemptDue
  -- Wrong: the next attempt reads it, unless this was the last.
  by_cases hmore : attempt + 1 < rcMaxAuthAttempts
  · have hnext : (verifyStep (idle fd) (some fd) attempt false).2 =
        attemptAuth (some fd) (attempt + 1) := if_pos hmore
    have hwrong : Leads fd (passwordDue (attempt + 1) [] line) (.verifying (some fd) attempt l)
        stream := by
      apply Leads.quiet (x := .answer false) rfl rfl rfl rfl (Nat.le_add_left _ _)
      rw [hnext]
      exact leads_attemptAuth h
    rw [if_pos hmore]
    -- The larger of the two bounds is that of the better choice.
    rcases Nat.le_total (commandDue [] line) (passwordDue (attempt + 1) [] line) with hle | hle
    · rwa [Nat.max_eq_right hle]
    · rwa [Nat.max_eq_left hle]
  · rwa [if_neg hmore, Nat.max_zero]

/-- The rest of a password line. -/
theorem leads_authReading (hfits : r.Fits passwordSize) (hcommands : CommandsLead fd line stream)
    (h : PasswordsLead fd line stream) :
    Leads fd (due (.authReading (some fd) attempt r) line) (.authReading (some fd) attempt r)
      stream := by
  rw [due]
  by_cases hfull : r.buf.length = passwordSize
  · -- the text is an attempt, and what comes of it starts in the middle of this line
    have hread := recvLine_full fd hfits (hfits.not_waiting hfull) hfull
    rw [if_pos hfull]
    refine Leads.quiet (x := .read (.poll false)) rfl rfl hread (taskStep_authReading hread)
      (Nat.le_refl (1 + attemptDue attempt line)) ?_
    exact leads_verifying hcommands h
  · rw [if_neg hfull]
    cases hin : r.inRecv with
    | true => exact h attempt r hfits hin
    | false => exact leads_authPoll hfits hin (Nat.lt_of_le_of_ne hfits.length_le hfull) h

/-- By induction on the line. -/
theorem passwordsLead (hline : 0x0A ∉ line) : PasswordsLead fd line (line ++ 0x0A :: more) := by
  induction line with
  | nil =>
    intro attempt r hfits hin
    have hend := recvLine_byte (idle fd) fd hin 0x0A
    exact Leads.ends rfl hend (taskStep_authReading hend) (Nat.le_refl 1)
  | cons c line ih =>
    intro attempt r hfits hin
    obtain ⟨hne, hrest⟩ := not_or.mp (fun h => hline (List.mem_cons.mpr h))
    have hc : c ≠ 0x0A := fun h => hne h.symm
    rw [passwordDue]
    by_cases hstop : c ∈ ([0x03, 0x04] : List UInt8)
    · -- the connection ends here
      rw [if_pos hstop]
      exact Leads.zero fd _ _
    · have hread := recvLine_byte (idle fd) fd hin c
      rw [recvByte_edit r hc hstop] at hread
      rw [if_neg hstop]
      refine Leads.byte rfl hc hread (taskStep_authReading hread) (Nat.le_add_left _ _) ?_
      exact leads_authReading (hfits.edit (hfits.waiting hin) c) (commandsLead hrest) (ih hrest)

/-- **As much as is due**, in some run, from every place where the line may begin. -/
theorem leads_due {ph : Phase} (hline : 0x0A ∉ line) (hserves : Serves fd ph) :
    Leads fd (due ph line) ph (line ++ 0x0A :: more) := by
  have hcommands : CommandsLead fd line (line ++ 0x0A :: more) := commandsLead hline
  have hpasswords : PasswordsLead fd line (line ++ 0x0A :: more) := passwordsLead hline
  have htop := leads_sessionTop hcommands
  -- The line comes to a password or to a command, by the phase that it finds.
  cases ph with
  | authReading s attempt r =>
    obtain ⟨rfl, hfits⟩ := hserves
    exact leads_authReading hfits hcommands hpasswords
  | verifying s attempt l =>
    obtain rfl : s = some fd := hserves
    exact leads_verifying hcommands hpasswords
  | entering => exact Leads.quiet (x := .tick) rfl rfl rfl rfl (Nat.le_add_left _ _) htop
  | sessionTop s =>
    obtain rfl : s = some fd := hserves
    exact htop
  | sessionReading s r =>
    obtain ⟨rfl, hfits⟩ := hserves
    exact leads_sessionReading hfits hcommands
  | running s l =>
    obtain rfl : s = some fd := hserves
    exact Leads.quiet (x := .tick) rfl rfl rfl rfl (Nat.le_add_left _ _) htop
  | _ => exact Leads.zero fd _ _

end Run

end SubnetRouter.RemoteConsole
