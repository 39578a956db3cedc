import Mathlib.Order.Defs.LinearOrder
import SubnetRouter.RemoteConsole.Connection

namespace SubnetRouter.RemoteConsole

open Lib

/-!
# The most a line can lead to (`components/remote_console/remote_console.c`)

`recv_line` returns when its buffer is full and leaves the rest of the line in the socket, for the
next call.

* `recvLine_cases` — what a step of `recv_line` can do.
* `due` — how many more attempts and commands the rest of a line can lead to.
* `taskStep_cases` — what a step of a served client can do; `taskStep_pays` — it pays for what it
  leads to.
* `actions_le_due` — so no run has more of them than were due.
-/

/-! ### One call of `recv_line` -/

/-- A reader with a text that fits, and that is not full when it waits for a byte. -/
structure Reader.Fits (r : Reader) (size : Nat) : Prop where
  maxLen_eq : r.maxLen - 1 = size
  length_le : r.buf.length ≤ size
  waiting : r.inRecv = true → r.buf.length < size

variable {r : Reader} {size : Nat} {st : Shared} {fd : Nat} {c : UInt8} {x : ReadStep}
  {result : LineResult}

theorem Reader.fits_start (maxLen timeoutSec : Nat) :
    (Reader.start maxLen timeoutSec).Fits (maxLen - 1) :=
  ⟨rfl, Nat.zero_le _, nofun⟩

theorem length_edit_le (text : List UInt8) (c : UInt8) :
    (edit text c).length ≤ text.length + 1 := by
  unfold edit
  split_ifs
  · rw [List.length_dropLast]
    omega
  · exact Nat.zero_le _
  · rw [List.length_append]
    exact Nat.le_refl _
  · exact Nat.le_succ _

/-- A byte of a line that neither ends nor interrupts it edits its text. -/
theorem recvByte_edit (r : Reader) (hend : c ≠ 0x0A) (hstop : c ∉ ([0x03, 0x04] : List UInt8)) :
    recvByte r c = .more { r with buf := edit r.buf c, inRecv := false } := by
  simp only [List.mem_cons, List.not_mem_nil, or_false, not_or] at hstop
  unfold recvByte edit
  by_cases hcr : c = 0x0D
  · subst hcr
    rfl
  · rw [if_neg hcr, if_neg hend, if_neg hstop.1]
    split_ifs <;> simp_all

theorem recvByte_end (r : Reader) : recvByte r 0x0A = .line r.buf := rfl

/-- The reader after an edit. -/
theorem Reader.Fits.edit (h : r.Fits size) (hlt : r.buf.length < size) (c : UInt8) :
    Reader.Fits { r with buf := edit r.buf c, inRecv := false } size :=
  ⟨h.maxLen_eq, Nat.le_trans (length_edit_le r.buf c) hlt, nofun⟩

/-- **A step of `recv_line`**: it goes on with its text, returns a text that fills the buffer, gives
    up, or takes a byte. -/
theorem recvLine_cases (h : r.Fits size) (hstep : recvLine st (some fd) r x = some result) :
    ((∀ c, x ≠ .byte c) ∧
        ((∃ r', result = .more r' ∧ r'.buf = r.buf ∧ r'.Fits size) ∨
          (result = .line r.buf ∧ r.buf.length = size) ∨ result = .closed ∨ result = .timeout)) ∨
      ∃ c, x = .byte c ∧ r.buf.length < size ∧ result = recvByte r c := by
  have hlength := h.length_le
  have hmax := h.maxLen_eq
  cases x with
  | poll timedOut =>
    refine Or.inl ⟨nofun, ?_⟩
    unfold recvLine at hstep
    dsimp only at hstep
    -- full, told to stop, out of time, or on to `recv`
    split_ifs at hstep with hin hfull hflag htime
    · exact Or.inr (Or.inl ⟨(Option.some.inj hstep).symm, by omega⟩)
    · exact Or.inr (Or.inr (Or.inl (Option.some.inj hstep).symm))
    · exact Or.inr (Or.inr (Or.inr (Option.some.inj hstep).symm))
    · have hroom : r.buf.length < size := by omega
      exact Or.inl ⟨_, (Option.some.inj hstep).symm, rfl, hmax, hlength, fun _ => hroom⟩
  | wouldBlock =>
    refine Or.inl ⟨nofun, ?_⟩
    unfold recvLine at hstep
    dsimp only at hstep
    split_ifs at hstep
    exact Or.inl ⟨_, (Option.some.inj hstep).symm, rfl, hmax, hlength, nofun⟩
  | failed =>
    refine Or.inl ⟨nofun, ?_⟩
    unfold recvLine at hstep
    dsimp only at hstep
    split_ifs at hstep
    exact Or.inr (Or.inr (Or.inl (Option.some.inj hstep).symm))
  | byte c =>
    unfold recvLine at hstep
    dsimp only at hstep
    split_ifs at hstep with hin
    rw [Bool.and_eq_true] at hin
    exact Or.inr ⟨c, rfl, h.waiting hin.1, (Option.some.inj hstep).symm⟩

/-! ### What is due, along a step -/

/-- How many attempts and commands the rest of the line leads to, at most, by where the task
    stands. -/
def due : Phase → List UInt8 → Nat
  | .authReading _ attempt r, line =>
    if r.buf.length = passwordSize then 1 + attemptDue attempt line
    else passwordDue attempt r.buf line
  | .verifying _ attempt _, line => attemptDue attempt line
  | .entering, line => commandDue [] line
  | .sessionTop _, line => commandDue [] line
  | .sessionReading _ r, line =>
    if r.buf.length = commandSize then 1 + commandDue [] line else commandDue r.buf line
  | .running _ _, line => commandDue [] line
  | _, _ => 0

/-- The text so far of the line that is being typed. -/
def Phase.typed : Phase → List UInt8
  | authReading _ _ r => r.buf
  | sessionReading _ r => r.buf
  | _ => []

/-- The task serves the socket, with readers of the two sizes. Passwords and commands are read into
    buffers of their own. -/
def Serves (fd : Nat) : Phase → Prop
  | .authReading s _ r => s = some fd ∧ r.Fits passwordSize
  | .verifying s _ _ => s = some fd
  | .sessionTop s => s = some fd
  | .sessionReading s r => s = some fd ∧ r.Fits commandSize
  | .running s _ => s = some fd
  | _ => True

theorem serves_attemptAuth (fd attempt : Nat) : Serves fd (attemptAuth (some fd) attempt) :=
  ⟨rfl, Reader.fits_start passwordInputLen passwordTimeoutSec⟩

theorem due_attemptAuth (s : Sock) (attempt : Nat) (line : List UInt8) :
    due (attemptAuth s attempt) line = passwordDue attempt [] line := by
  have hempty : ¬ ([] : List UInt8).length = passwordSize := by decide
  show (if ([] : List UInt8).length = passwordSize then 1 + attemptDue attempt line
    else passwordDue attempt [] line) = _
  rw [if_neg hempty]

theorem due_sessionStart (s : Sock) (timeoutSec : Nat) (line : List UInt8) :
    due (.sessionReading s (Reader.start rcMaxLineLen timeoutSec)) line = commandDue [] line := by
  have hempty : ¬ ([] : List UInt8).length = commandSize := by decide
  show (if ([] : List UInt8).length = commandSize then 1 + commandDue [] line
    else commandDue [] line) = _
  rw [if_neg hempty]

/-- After an attempt: the session, the next attempt or the end. -/
theorem verifyStep_due (st : Shared) (fd attempt : Nat) (ok : Bool) :
    Serves fd (verifyStep st (some fd) attempt ok).2 ∧
      (verifyStep st (some fd) attempt ok).2.typed = [] ∧
      ∀ line, due (verifyStep st (some fd) attempt ok).2 line ≤ attemptDue attempt line := by
  unfold verifyStep attemptDue
  cases ok with
  | true => exact ⟨trivial, rfl, fun line => Nat.le_max_left _ _⟩
  | false =>
    by_cases hmore : attempt + 1 < rcMaxAuthAttempts
    · simp only [Bool.false_eq_true, if_false, if_pos hmore]
      refine ⟨serves_attemptAuth fd _, rfl, fun line => ?_⟩
      rw [due_attemptAuth]
      exact Nat.le_max_right _ _
    · simp only [Bool.false_eq_true, if_false, if_neg hmore]
      exact ⟨trivial, rfl, fun line => Nat.zero_le _⟩

/-- The next command line, or the end. -/
theorem sessionTop_due (st : Shared) (fd : Nat) :
    let ph : Phase := if st.kickRequested || st.shutdownRequested then .cleaning
      else .sessionReading (some fd) (Reader.start rcMaxLineLen st.idleTimeoutSec)
    Serves fd ph ∧ ph.typed = [] ∧ ∀ line, due ph line ≤ commandDue [] line := by
  intro ph
  unfold ph
  by_cases hflags : (st.kickRequested || st.shutdownRequested) = true
  · rw [if_pos hflags]
    exact ⟨trivial, rfl, fun line => Nat.zero_le _⟩
  · rw [if_neg hflags]
    refine ⟨⟨rfl, Reader.fits_start rcMaxLineLen _⟩, rfl, fun line => ?_⟩
    exact Nat.le_of_eq (due_sessionStart ..)

/-- What is due before a step is enough for what it leads to and for what is due behind it; at the
    end of the line, for what it leads to. -/
structure Pays (ph ph' : Phase) (x : TaskIn) (result : Option LineResult) : Prop where
  quiet : (∀ c, x ≠ .read (.byte c)) → ∀ line, actsOf ph result + due ph' line ≤ due ph line
  byte : ∀ c, x = .read (.byte c) → c ≠ 0x0A →
    ∀ line, actsOf ph result + due ph' line ≤ due ph (c :: line)
  ends : x = .read (.byte 0x0A) → actsOf ph result ≤ due ph []

section Pays

variable {ph ph' : Phase} {x : TaskIn} {result : Option LineResult}

theorem Pays.of_quiet (hx : ∀ c, x ≠ .read (.byte c))
    (h : ∀ line, actsOf ph result + due ph' line ≤ due ph line) : Pays ph ph' x result :=
  ⟨fun _ => h, fun c hc => absurd hc (hx c), fun hc => absurd hc (hx 0x0A)⟩

theorem Pays.of_byte (hc : c ≠ 0x0A)
    (h : ∀ line, actsOf ph result + due ph' line ≤ due ph (c :: line)) :
    Pays ph ph' (.read (.byte c)) result := by
  refine ⟨fun hquiet => absurd rfl (hquiet c), fun d hd _ => ?_, fun hd => ?_⟩
  · cases hd
    exact h
  · cases hd
    exact absurd rfl hc

theorem Pays.of_end (h : actsOf ph result ≤ due ph []) :
    Pays ph ph' (.read (.byte 0x0A)) result := by
  refine ⟨fun hquiet => absurd rfl (hquiet 0x0A), fun d hd hne => ?_, fun _ => h⟩
  cases hd
  exact absurd rfl hne

end Pays

/-- A byte of a password. Either it leaves less to be paid for, or it completes an attempt that is
    paid for with it. -/
theorem pays_passwordByte (h : r.Fits passwordSize) (hlt : r.buf.length < passwordSize)
    (c : UInt8) :
    Serves fd (passwordRead (some fd) attempt (recvByte r c)) ∧
      Pays (.authReading (some fd) attempt r) (passwordRead (some fd) attempt (recvByte r c))
        (.read (.byte c)) (some (recvByte r c)) := by
  have hdue : ∀ line, due (.authReading (some fd) attempt r) line =
      passwordDue attempt r.buf line := fun line => if_neg (Nat.ne_of_lt hlt)
  by_cases hend : c = 0x0A
  · rw [hend]
    refine ⟨rfl, .of_end ?_⟩
    rw [hdue]
    exact Nat.le_refl 1
  by_cases hstop : c ∈ ([0x03, 0x04] : List UInt8)
  · -- the connection ends
    have hclosed : passwordRead (some fd) attempt (recvByte r c) = .cleaning ∧
        actsOf (.authReading (some fd) attempt r) (some (recvByte r c)) = 0 := by
      simp only [List.mem_cons, List.not_mem_nil, or_false] at hstop
      rcases hstop with rfl | rfl <;> exact ⟨rfl, rfl⟩
    rw [hclosed.1]
    refine ⟨trivial, .of_byte hend fun line => ?_⟩
    rw [hclosed.2]
    exact Nat.zero_le _
  · have hnext : ∀ line, passwordDue attempt r.buf (c :: line) =
        if (edit r.buf c).length = passwordSize then 1 + attemptDue attempt line
        else passwordDue attempt (edit r.buf c) line := fun line => if_neg hstop
    rw [recvByte_edit r hend hstop]
    refine ⟨⟨rfl, h.edit hlt c⟩, .of_byte hend fun line => ?_⟩
    rw [hdue, hnext]
    exact Nat.le_of_eq (Nat.zero_add _)

/-- `recv_line` in `authenticate_client`. -/
theorem pays_authReading (h : r.Fits passwordSize)
    (hresult : recvLine st (some fd) r x = some result) :
    Serves fd (passwordRead (some fd) attempt result) ∧
      Pays (.authReading (some fd) attempt r) (passwordRead (some fd) attempt result) (.read x)
        (some result) := by
  rcases recvLine_cases h hresult with ⟨hquiet, hcases⟩ | ⟨c, rfl, hlt, rfl⟩
  · have hx : ∀ c, TaskIn.read x ≠ .read (.byte c) := fun c hc => hquiet c (TaskIn.read.inj hc)
    rcases hcases with ⟨r', rfl, hbuf, hfits⟩ | ⟨rfl, hfull⟩ | rfl | rfl
    · refine ⟨⟨rfl, hfits⟩, .of_quiet hx fun line => ?_⟩
      show 0 + due (.authReading (some fd) attempt r') line ≤ _
      simp only [due, hbuf, Nat.zero_add, Nat.le_refl]
    · refine ⟨rfl, .of_quiet hx fun line => ?_⟩
      have hdue : due (.authReading (some fd) attempt r) line = 1 + attemptDue attempt line :=
        if_pos hfull
      exact Nat.le_of_eq hdue.symm
    · exact ⟨trivial, .of_quiet hx fun line => Nat.zero_le _⟩
    · exact ⟨trivial, .of_quiet hx fun line => Nat.zero_le _⟩
  · exact pays_passwordByte h hlt c

/-- After a command line: the next one, or the end. -/
theorem commandRead_line_due (st : Shared) (fd : Nat) (l : List UInt8) :
    Serves fd (commandRead st (some fd) (.line l)).2 ∧
      (commandRead st (some fd) (.line l)).2.typed = [] ∧
      ∀ line, due (commandRead st (some fd) (.line l)).2 line ≤ commandDue [] line := by
  unfold commandRead
  dsimp only
  split_ifs
  · exact ⟨rfl, rfl, fun line => Nat.le_refl _⟩
  · exact ⟨trivial, rfl, fun line => Nat.zero_le _⟩
  · exact ⟨rfl, rfl, fun line => Nat.le_refl _⟩

/-- A byte of a command. Either it leaves less to be paid for, or it completes a command that is
    paid for with it. -/
theorem pays_commandByte (st : Shared) (h : r.Fits commandSize) (hlt : r.buf.length < commandSize)
    (c : UInt8) :
    Serves fd (commandRead st (some fd) (recvByte r c)).2 ∧
      Pays (.sessionReading (some fd) r) (commandRead st (some fd) (recvByte r c)).2
        (.read (.byte c)) (some (recvByte r c)) := by
  have hdue : ∀ line, due (.sessionReading (some fd) r) line = commandDue r.buf line :=
    fun line => if_neg (Nat.ne_of_lt hlt)
  by_cases hend : c = 0x0A
  · rw [hend]
    refine ⟨(commandRead_line_due st fd r.buf).1, .of_end ?_⟩
    show 0 + (if decide (r.buf ≠ []) = true then 1 else 0) ≤ _
    rw [hdue, commandDue]
    by_cases hempty : r.buf = [] <;> simp [hempty]
  by_cases hclose : c = 0x04
  · rw [hclose]
    exact ⟨trivial, .of_byte (by decide) fun line => Nat.zero_le _⟩
  by_cases hinterrupt : c = 0x03
  · -- the text is given up, and the line goes on with an empty one
    rw [hinterrupt]
    refine ⟨rfl, .of_byte (by decide) fun line => ?_⟩
    show 0 + commandDue [] line ≤ _
    rw [hdue, Nat.zero_add]
    exact Nat.le_refl _
  · have hnext : ∀ line, commandDue r.buf (c :: line) =
        if (edit r.buf c).length = commandSize then 1 + commandDue [] line
        else commandDue (edit r.buf c) line := fun line => if_neg hclose
    rw [recvByte_edit r hend (by simp [hclose, hinterrupt])]
    refine ⟨⟨rfl, h.edit hlt c⟩, .of_byte hend fun line => ?_⟩
    rw [hdue, hnext]
    exact Nat.le_of_eq (Nat.zero_add _)

/-- `recv_line` in `handle_session`. A full buffer, a byte, a timeout or the end of the connection,
    each with what it pays. -/
theorem pays_sessionReading (h : r.Fits commandSize)
    (hresult : recvLine st (some fd) r x = some result) :
    Serves fd (commandRead st (some fd) result).2 ∧
      Pays (.sessionReading (some fd) r) (commandRead st (some fd) result).2 (.read x)
        (some result) := by
  -- Without a byte the line is kept, or given out because it is full; a byte is the other case.
  rcases recvLine_cases h hresult with ⟨hquiet, hcases⟩ | ⟨c, rfl, hlt, rfl⟩
  · have hx : ∀ c, TaskIn.read x ≠ .read (.byte c) := fun c hc => hquiet c (TaskIn.read.inj hc)
    rcases hcases with ⟨r', rfl, hbuf, hfits⟩ | ⟨rfl, hfull⟩ | rfl | rfl
    · refine ⟨⟨rfl, hfits⟩, .of_quiet hx fun line => ?_⟩
      show 0 + due (.sessionReading (some fd) r') line ≤ _
      simp only [due, hbuf, Nat.zero_add, Nat.le_refl]
    -- The full line is run, and what comes up to the next newline is a line of its own.
    · obtain ⟨hserves, -, hnext⟩ := commandRead_line_due st fd r.buf
      refine ⟨hserves, .of_quiet hx fun line => ?_⟩
      have hone : actsOf (.sessionReading (some fd) r) (some (.line r.buf)) ≤ 1 := by
        show 0 + _ ≤ 1
        split_ifs <;> decide
      have hdue : due (.sessionReading (some fd) r) line = 1 + commandDue [] line := if_pos hfull
      rw [hdue]
      exact Nat.add_le_add hone (hnext line)
    · exact ⟨trivial, .of_quiet hx fun line => Nat.zero_le _⟩
    · exact ⟨trivial, .of_quiet hx fun line => Nat.zero_le _⟩
  · exact pays_commandByte st h hlt c

theorem TaskIn.eq_read {x : TaskIn} {y : ReadStep} (h : x.read? = some y) : x = .read y := by
  cases x with
  | read z => exact congrArg TaskIn.read (Option.some.inj h)
  | tick | opened | accepted | addresses | passwordRead | answer => cases h

theorem TaskIn.not_read_of_tick {x : TaskIn} {u : Unit} (h : x.tick? = some u) :
    x.read? = none := by
  cases x with
  | tick => rfl
  | read | opened | accepted | addresses | passwordRead | answer => cases h

theorem TaskIn.not_read_of_answer {x : TaskIn} {ok : Bool} (h : x.answer? = some ok) :
    x.read? = none := by
  cases x with
  | answer => rfl
  | read | opened | accepted | addresses | passwordRead | tick => cases h

theorem actsOf_none (ph : Phase) : actsOf ph none = 0 := by
  cases ph <;> rfl

theorem result_authReading (s : Sock) (attempt : Nat) (r : Reader) (y : ReadStep) :
    Connection.result st (.read y) (.authReading s attempt r) = recvLine st s r y := rfl

theorem result_sessionReading (s : Sock) (r : Reader) (y : ReadStep) :
    Connection.result st (.read y) (.sessionReading s r) = recvLine st s r y := rfl

/-- A step outside of `recv_line`. -/
theorem Pays.of_other {ph ph' : Phase} {x : TaskIn} (hx : x.read? = none)
    (hresult : Connection.result st x ph = none) (h : ∀ line, due ph' line ≤ due ph line) :
    Pays ph ph' x (Connection.result st x ph) := by
  have hquiet : ∀ c, x ≠ .read (.byte c) := by
    rintro c rfl
    cases hx
  refine .of_quiet hquiet fun line => ?_
  rw [hresult, actsOf_none, Nat.zero_add]
  exact h line

/-- What a step of a served client is: one of `recv_line`, or one that takes nothing from the
    client, leaves no text and makes nothing due. -/
theorem taskStep_cases {ph : Phase} {x : TaskIn} {p : Shared × Phase} (hclient : ph.serves = true)
    (hsocket : st.clientSocket = some fd) (h : Serves fd ph) (hstep : taskStep st ph x = some p) :
    (∃ attempt r y result, ph = .authReading (some fd) attempt r ∧ r.Fits passwordSize ∧
        x = .read y ∧ recvLine st (some fd) r y = some result ∧
        p = (st, passwordRead (some fd) attempt result)) ∨
      (∃ r y result, ph = .sessionReading (some fd) r ∧ r.Fits commandSize ∧
        x = .read y ∧ recvLine st (some fd) r y = some result ∧
        p = commandRead st (some fd) result) ∨
      (x.read? = none ∧ Connection.result st x ph = none ∧ Serves fd p.2 ∧ p.2.typed = [] ∧
        ∀ line, due p.2 line ≤ due ph line) := by
  cases ph with
  | authReading s attempt r =>
    obtain ⟨rfl, hfits⟩ := h
    obtain ⟨result, hresult, rfl⟩ := Option.map_eq_some_iff.mp hstep
    obtain ⟨y, hy, hread⟩ := Option.bind_eq_some_iff.mp hresult
    exact Or.inl ⟨attempt, r, y, result, rfl, hfits, TaskIn.eq_read hy, hread, rfl⟩
  | sessionReading s r =>
    obtain ⟨rfl, hfits⟩ := h
    obtain ⟨result, hresult, rfl⟩ := Option.map_eq_some_iff.mp hstep
    obtain ⟨y, hy, hread⟩ := Option.bind_eq_some_iff.mp hresult
    exact Or.inr (Or.inl ⟨r, y, result, rfl, hfits, TaskIn.eq_read hy, hread, rfl⟩)
  | verifying s attempt l =>
    obtain rfl : s = some fd := h
    obtain ⟨ok, hok, rfl⟩ := Option.map_eq_some_iff.mp hstep
    obtain ⟨hserves, htyped, hdue⟩ := verifyStep_due st fd attempt ok
    exact Or.inr (Or.inr ⟨TaskIn.not_read_of_answer hok, rfl, hserves, htyped, hdue⟩)
  | delaying s =>
    obtain ⟨_, htick, rfl⟩ := Option.map_eq_some_iff.mp hstep
    exact Or.inr (Or.inr ⟨TaskIn.not_read_of_tick htick, rfl, trivial, rfl, fun _ => Nat.zero_le _⟩)
  | entering =>
    -- `handle_session` reads `rc_state.client_socket`, which is still that of the client
    obtain ⟨_, htick, rfl⟩ := Option.map_eq_some_iff.mp hstep
    exact Or.inr (Or.inr ⟨TaskIn.not_read_of_tick htick, rfl, hsocket, rfl, fun _ => Nat.le_refl _⟩)
  | sessionTop s =>
    obtain rfl : s = some fd := h
    obtain ⟨_, htick, rfl⟩ := Option.map_eq_some_iff.mp hstep
    obtain ⟨hserves, htyped, hdue⟩ := sessionTop_due st fd
    exact Or.inr (Or.inr ⟨TaskIn.not_read_of_tick htick, rfl, hserves, htyped, hdue⟩)
  | running s l =>
    obtain rfl : s = some fd := h
    obtain ⟨_, htick, rfl⟩ := Option.map_eq_some_iff.mp hstep
    exact Or.inr (Or.inr ⟨TaskIn.not_read_of_tick htick, rfl, rfl, rfl, fun _ => Nat.le_refl _⟩)
  | _ => cases hclient

/-- **A step pays** for what it leads to. -/
theorem taskStep_pays {ph : Phase} {x : TaskIn} {p : Shared × Phase} (hclient : ph.serves = true)
    (hsocket : st.clientSocket = some fd) (h : Serves fd ph) (hstep : taskStep st ph x = some p) :
    Serves fd p.2 ∧ Pays ph p.2 x (Connection.result st x ph) := by
  rcases taskStep_cases hclient hsocket h hstep with
    ⟨attempt, r, y, result, rfl, hfits, rfl, hread, rfl⟩ |
    ⟨r, y, result, rfl, hfits, rfl, hread, rfl⟩ | ⟨hx, hresult, hserves, -, hdue⟩
  · rw [result_authReading, hread]
    exact pays_authReading hfits hread
  · rw [result_sessionReading, hread]
    exact pays_sessionReading hfits hread
  · exact ⟨hserves, .of_other hx hresult hdue⟩

/-! ### At most what is due -/

/-- What a line has led to, and what is due of it, is no more than `n`. -/
def Within (fd k n : Nat) (c : Connection) : Prop :=
  Serves fd c.phase ∧ (c.line = k ∧ c.actions k + due c.phase c.lineRest ≤ n ∨
    k < c.line ∧ c.actions k ≤ n)

/-- One step. The sum of what the line has led to and of what may still come of it does not grow. -/
theorem within_step {c d : Connection} {k n : Nat} {a : Shared × TaskIn}
    (hstep : (connection fd).step c a = some d) (h : Within fd k n c) : Within fd k n d := by
  obtain ⟨hserves, hwithin⟩ := h
  have hs := stepped hstep
  obtain ⟨st', htask⟩ := hs.task
  obtain ⟨hserves', hpays⟩ := taskStep_pays hs.client hs.socket hserves htask
  dsimp only at hserves' hpays
  refine ⟨hserves', ?_⟩
  have hactions := hs.actions k
  rcases hwithin with ⟨hline, hdue⟩ | ⟨hlater, hmost⟩
  · rw [if_pos hline.symm] at hactions
    rcases hs.moves.line_cases with ⟨hquiet, hline', hrest⟩ | ⟨b, hb, hne, hline', hrest⟩ |
        ⟨hend, hline', hrest⟩
    · have hpaid := hpays.quiet hquiet c.lineRest
      rw [← hrest] at hpaid hdue
      exact Or.inl ⟨hline'.trans hline, by omega⟩
    · have hpaid := hpays.byte b hb hne d.lineRest
      rw [hrest] at hdue
      exact Or.inl ⟨hline'.trans hline, by omega⟩
    · -- whatever is due behind the end of the line is the next line's
      have hpaid := hpays.ends hend
      rw [hrest] at hdue
      exact Or.inr ⟨by omega, by omega⟩
  · rw [if_neg (by omega)] at hactions
    have hmono : c.line ≤ d.line := by
      rcases hs.moves.line_cases with ⟨-, hline', -⟩ | ⟨b, -, -, hline', -⟩ | ⟨-, hline', -⟩ <;>
        omega
    exact Or.inr ⟨by omega, by omega⟩

/-- **At most what is due**, in every run from there on. -/
theorem actions_le_due {c d : Connection} {as : List (Shared × TaskIn)}
    (hserves : Serves fd c.phase) (hrun : (connection fd).run c as = some d) :
    d.actions c.line ≤ c.actions c.line + due c.phase c.lineRest := by
  have hwithin : Within fd c.line (c.actions c.line + due c.phase c.lineRest) d :=
    Machine.invariant (fun _ _ _ hstep h => within_step hstep h) hrun
      ⟨hserves, Or.inl ⟨rfl, Nat.le_refl _⟩⟩
  rcases hwithin.2 with ⟨-, hdue⟩ | ⟨-, hmost⟩
  · exact Nat.le_trans (Nat.le_add_right _ _) hdue
  · exact hmost

end SubnetRouter.RemoteConsole
