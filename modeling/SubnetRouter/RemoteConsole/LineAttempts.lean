import SubnetRouter.RemoteConsole.LineRuns

namespace SubnetRouter.RemoteConsole

open Lib

/-!
# One line, one attempt (`components/remote_console/remote_console.c`)

A line that fills the buffer is cut there: `recv_line` returns, and its next call takes what is left
for a line of its own.

* `Fresh`, `fresh_step` — a line begins with nothing counted and nothing typed.
* `once_per_line_iff` — a line leads to at most one attempt or command exactly if nothing comes of
  what is left of it.
* `long_password_tried_twice` — a password that is one character too long.
-/

variable {r : Reader} {size : Nat} {st : Shared} {fd : Nat} {line : List UInt8}
  {result : LineResult}

/-! ### The start of a line -/

/-- Nothing is counted for a line that has not begun, and it begins with an empty text. -/
structure Fresh (fd : Nat) (c : Connection) : Prop where
  serves : Serves fd c.phase
  ahead : ∀ j, c.line < j → c.actions j = 0
  atStart : c.AtStart → c.actions c.line = 0 ∧ c.phase.typed = []

section Fresh

variable {ph : Phase} {x : TaskIn} {p : Shared × Phase} {c d : Connection}

/-- With an empty buffer, `recv_line` returns no line until a byte comes. -/
theorem recvLine_empty {y : ReadStep} (h : r.Fits size) (hsize : 0 < size) (hempty : r.buf = [])
    (hquiet : ∀ b, y ≠ .byte b) (hstep : recvLine st (some fd) r y = some result) :
    (∃ r', result = .more r' ∧ r'.buf = []) ∨ result = .closed ∨ result = .timeout := by
  rcases recvLine_cases h hstep with ⟨-, ⟨r', hmore, hbuf, -⟩ | ⟨-, hfull⟩ | hrest⟩ | ⟨c, hbyte, -⟩
  · exact Or.inl ⟨r', hmore, hbuf.trans hempty⟩
  · rw [hempty] at hfull
    exact absurd hfull (Nat.ne_of_lt hsize)
  · exact Or.inr hrest
  · exact absurd hbyte (hquiet c)

theorem recvLine_end {s : Sock} (hstep : recvLine st s r (.byte 0x0A) = some result) :
    result = .line r.buf := by
  unfold recvLine at hstep
  dsimp only at hstep
  split_ifs at hstep
  exact (Option.some.inj hstep).symm

/-- No step fills an empty text, or does anything with it, without a byte. -/
theorem taskStep_quiet (hclient : ph.serves = true) (hsocket : st.clientSocket = some fd)
    (h : Serves fd ph) (htyped : ph.typed = []) (hquiet : ∀ b, x ≠ .read (.byte b))
    (hstep : taskStep st ph x = some p) :
    actsOf ph (Connection.result st x ph) = 0 ∧ p.2.typed = [] := by
  -- Either a line is being read, of a password or of a command, or nothing is done with one.
  rcases taskStep_cases hclient hsocket h hstep with
    ⟨attempt, r, y, result, rfl, hfits, rfl, hread, rfl⟩ |
    ⟨r, y, result, rfl, hfits, rfl, hread, rfl⟩ | ⟨-, hresult, -, hempty, -⟩
  · rw [result_authReading, hread]
    -- Without a byte the line read stays empty, or the connection ends.
    rcases recvLine_empty hfits (by decide) htyped (fun b hb => hquiet b (congrArg _ hb)) hread with
      ⟨r', rfl, hempty⟩ | rfl | rfl
    · exact ⟨rfl, hempty⟩
    · exact ⟨rfl, rfl⟩
    · exact ⟨rfl, rfl⟩
  · rw [result_sessionReading, hread]
    rcases recvLine_empty hfits (by decide) htyped (fun b hb => hquiet b (congrArg _ hb)) hread with
      ⟨r', rfl, hempty⟩ | rfl | rfl
    · exact ⟨rfl, hempty⟩
    · exact ⟨rfl, rfl⟩
    · exact ⟨rfl, rfl⟩
  · rw [hresult]
    exact ⟨actsOf_none ph, hempty⟩

/-- The end of a line leaves no text. -/
theorem taskStep_end (hclient : ph.serves = true) (hsocket : st.clientSocket = some fd)
    (h : Serves fd ph) (hstep : taskStep st ph (.read (.byte 0x0A)) = some p) :
    p.2.typed = [] := by
  rcases taskStep_cases hclient hsocket h hstep with
    ⟨attempt, r, y, result, -, -, hx, hread, rfl⟩ | ⟨r, y, result, -, -, hx, hread, rfl⟩ |
    ⟨-, -, -, hempty, -⟩
  · cases hx
    obtain rfl := recvLine_end hread
    rfl
  · cases hx
    obtain rfl := recvLine_end hread
    exact (commandRead_line_due st fd r.buf).2.1
  · exact hempty

end Fresh

/-- One step. -/
theorem fresh_step {c d : Connection} {a : Shared × TaskIn}
    (hstep : (connection fd).step c a = some d) (h : Fresh fd c) : Fresh fd d := by
  have hs := stepped hstep
  obtain ⟨st', htask⟩ := hs.task
  have hline : c.line ≤ d.line := by
    rcases hs.moves.line_cases with ⟨-, hline, -⟩ | ⟨b, -, -, hline, -⟩ | ⟨-, hline, -⟩ <;> omega
  have hahead : ∀ j, c.line < j → d.actions j = 0 := by
    intro j hj
    rw [hs.actions j, if_neg (by omega), h.ahead j hj]
  refine ⟨(taskStep_pays hs.client hs.socket h.serves htask).1, ?_, ?_⟩
  · exact fun j hj => hahead j (Nat.lt_of_le_of_lt hline hj)
  · intro hd
    rcases hs.moves.atStart hd with ⟨hquiet, hsame, hc⟩ | ⟨hend, hnext⟩
    · obtain ⟨hnone, htyped⟩ := h.atStart hc
      obtain ⟨hacts, htyped'⟩ := taskStep_quiet hs.client hs.socket h.serves htyped hquiet htask
      refine ⟨?_, htyped'⟩
      rw [hsame, hs.actions c.line, if_pos rfl, hnone, hacts]
    · -- the line that begins was still ahead
      rw [hend] at htask
      refine ⟨?_, taskStep_end hs.client hs.socket h.serves htask⟩
      rw [hnext]
      exact hahead _ (Nat.lt_succ_self _)

theorem fresh_start (fd : Nat) (stream : List UInt8) : Fresh fd (.start fd stream) :=
  ⟨serves_attemptAuth fd 0, fun _ _ => rfl, fun _ => ⟨rfl, rfl⟩⟩

/-! ### One line, one attempt -/

/-- The condition, as a count. It is about the bytes of the line and the place where it begins. -/
theorem takesOnce_iff {ph : Phase} (htyped : ph.typed = []) :
    TakesOnce ph line ↔ due ph line ≤ 1 := by
  have hpassword : ∀ attempt, PasswordOnce attempt line ↔ passwordDue attempt [] line ≤ 1 :=
    fun _ => passwordDue_le_one.symm
  have hcommand : CommandOnce line ↔ commandDue [] line ≤ 1 := commandDue_le_one.symm
  cases ph with
  | authReading s attempt r =>
    have hempty : r.buf = [] := htyped
    have hroom : ¬ r.buf.length = passwordSize := by
      rw [hempty]
      decide
    rw [TakesOnce, due, if_neg hroom, hempty]
    exact hpassword attempt
  | verifying s attempt l =>
    rw [TakesOnce, due, attemptDue, hcommand, hpassword]
    split <;> omega
  | sessionReading s r =>
    have hempty : r.buf = [] := htyped
    have hroom : ¬ r.buf.length = commandSize := by
      rw [hempty]
      decide
    rw [TakesOnce, due, if_neg hroom, hempty]
    exact hcommand
  | entering | sessionTop | running => exact hcommand
  | _ => exact iff_of_true trivial (Nat.zero_le 1)

/-- **One line, one attempt, exactly when nothing comes of its tail.**  For every byte stream, and
    whatever the other tasks do: a line that begins where the task stands leads to at most one
    attempt or command in all runs exactly if it does not fill the buffer, or nothing comes of what
    is left of it then. -/
theorem once_per_line_iff {fd : Nat} {stream line more : List UInt8} {as : List (Shared × TaskIn)}
    {c : Connection} (hrun : (connection fd).run (.start fd stream) as = some c)
    (hstart : c.AtStart) (hrest : c.rest = line ++ 0x0A :: more) (hline : 0x0A ∉ line) :
    (∀ bs d, (connection fd).run c bs = some d → d.OnceFor c.line) ↔ TakesOnce c.phase line := by
  have hfresh : Fresh fd c :=
    Machine.invariant (fun _ _ _ hstep h => fresh_step hstep h) hrun (fresh_start fd stream)
  obtain ⟨hnone, htyped⟩ := hfresh.atStart hstart
  have hlineRest : c.lineRest = line := by
    rw [Connection.lineRest, hrest, List.takeWhile_append_of_pos]
    · simp
    · intro b hb
      have hne : b ≠ 0x0A := fun h => hline (h ▸ hb)
      simpa using hne
  rw [takesOnce_iff htyped]
  constructor
  · -- a run that leads to all that is due
    intro honce
    obtain ⟨bs, d, hd, hmost⟩ := leads_due hline hfresh.serves c rfl hrest
    have hone := Connection.onceFor_iff.mp (honce bs d hd)
    omega
  · intro hdue bs d hd
    have hmost := actions_le_due hfresh.serves hd
    rw [hnone, hlineRest] at hmost
    exact Connection.onceFor_iff.mpr (by omega)

/-- A password line of one character. -/
theorem once_per_short_line :
    PasswordOnce 0 [0x61] ∧ ∀ bs d,
      (connection 0).run (.start 0 [0x61, 0x0A]) bs = some d → d.OnceFor 0 := by
  have hrun : (connection 0).run (.start 0 [0x61, 0x0A]) [] = some (.start 0 [0x61, 0x0A]) := rfl
  have hrest : (Connection.start 0 [0x61, 0x0A]).rest = [0x61] ++ 0x0A :: [] := rfl
  have htail : passwordTail [0x61] = none := by decide
  have honce : PasswordOnce 0 [0x61] := by
    intro tail hmem
    rw [htail] at hmem
    cases hmem
  exact ⟨honce, (once_per_line_iff hrun (Or.inl rfl) hrest (by decide)).mpr honce⟩

/-- 64 characters and a line feed. -/
def longPassword : List UInt8 := List.replicate 64 0x61 ++ [0x0A]

/-- `recv_line` takes 63 of them, the password is wrong, and the next attempt takes the last one. -/
def longPasswordSteps : List TaskIn :=
  (List.replicate 63 [.read (.poll false), .read (.byte 0x61)]).flatten ++
    [.read (.poll false), .answer false, .read (.poll false), .read (.byte 0x61),
      .read (.poll false), .read (.byte 0x0A)]

/-- The counterexample: one line of 65 bytes is tried as two passwords. -/
theorem long_password_tried_twice :
    ∃ d, (connection 0).run (.start 0 longPassword) (longPasswordSteps.map (idle 0, ·)) = some d ∧
      d.rest = [] ∧ d.attempts = [0, 0] ∧ ¬ d.OnceFor 0 := by
  have hrun : ((connection 0).run (.start 0 longPassword) (longPasswordSteps.map (idle 0, ·))).map
      (fun d => (d.rest, d.attempts)) = some ([], [0, 0]) := by decide +kernel
  obtain ⟨d, hd, hmap⟩ := Option.map_eq_some_iff.mp hrun
  obtain ⟨hrest, hattempts⟩ := Prod.mk.inj hmap
  refine ⟨d, hd, hrest, hattempts, ?_⟩
  rintro ⟨honce, -⟩
  rw [hattempts] at honce
  exact absurd honce (by decide)

end SubnetRouter.RemoteConsole
