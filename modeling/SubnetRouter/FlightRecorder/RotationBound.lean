import SubnetRouter.FlightRecorder.LineAssembly

namespace SubnetRouter.FlightRecorder.Rotation

open Lib

/-!
# How long the active file gets (`writer_task`)

The writer adds to the active file in three places, the header, the line and the snapshot, and
compares `s_cur_bytes` with the limit behind the second one.

* `Writer.round` — one round of the loop, with the records that it adds.
* `Bounded` — each record goes into a file that is not past the limit yet.
* `LeavesLong` — a file that is past the limit gets nothing more in the round.
* `Writer.Fits` — what such rounds keep: `s_cur_bytes` is the length of the file, up to the header.
* `rotation_bounded_iff` — the runs in which the limit is exceeded by one record at most.
* `quiet_run_passes_limit` — snapshots alone never come to the comparison.
-/

/-! ### The code -/

def sdlogFileMaxBytes : Nat := 1024 * 1024

/-- `SDLOG_SNAP_PERIOD_MS`. -/
def snapPeriodMs : Nat := 10000

/-- `SDLOG_SNAP_ANOMALY_PERIOD_MS`. -/
def snapAnomalyPeriodMs : Nat := 1000

/-- `SDLOG_DERP_HB_ANOMALY_S`. -/
def derpHbAnomalyS : Nat := 15

/-- `SDLOG_CTRL_RX_ANOMALY_S`. -/
def ctrlRxAnomalyS : Nat := 30

/-- `sizeof hdr`. -/
def hdrSize : Nat := 160

/-- How a call of `open_new_file` goes: whether `fopen` creates the file, what `snprintf` returns
    for the header, and how many bytes of that the card takes. -/
structure Opening where
  created : Bool
  header : Nat
  header_le : header ≤ hdrSize
  taken : Nat

/-- The length of a line in the queue. -/
structure Line where
  len : Nat
  len_pos : 0 < len
  len_le : len ≤ sdlogLineMax

/-- What one round of the loop finds: the line, if there is one within `SDLOG_TICK_MS`, and how much
    of it the card takes; the openings of a missing file and of a rotation; the time in
    microseconds; the two times in milliseconds that `s_ml` gives; and what `snprintf` returns for
    the snapshot, and how much of that the card takes. -/
structure Round where
  got : Option Line
  lineTaken : Nat
  reopen : Opening
  rotation : Opening
  now : Nat
  sMl : Option (Nat × Nat)
  snap : Nat
  snapTaken : Nat

namespace Round

/-- What `fwrite` returns for the line. -/
def lineBytes (r : Round) : Nat :=
  match r.got with
  | none => 0
  | some line => min r.lineTaken line.len

/-- `hb_age` and `coord_age`: the seconds since a time in milliseconds, 0 if it is not known. -/
def age (r : Round) (ms : Nat) : Nat :=
  if ms ≠ 0 ∧ ms < r.now / 1000 then (r.now / 1000 - ms) / 1000 % 2 ^ 32 else 0

/-- `anomaly`. -/
def anomaly (r : Round) : Bool :=
  match r.sMl with
  | none => false
  | some (hb, cr) => derpHbAnomalyS < r.age hb || ctrlRxAnomalyS < r.age cr

/-- `snap_iv_us`. -/
def snapIvUs (r : Round) : Nat := (if r.anomaly then snapAnomalyPeriodMs else snapPeriodMs) * 1000

end Round

/-- A record that has been added to the active file: how many bytes, and the length of the file with
    them. -/
structure Record where
  bytes : Nat
  fileLength : Nat
deriving DecidableEq, Repr

/-- If there is anything of the record, the file is past the limit by no more than that. -/
def Record.OnlyOne (rec : Record) : Prop :=
  0 < rec.bytes → rec.fileLength ≤ sdlogFileMaxBytes + rec.bytes

/-- The writer: the length of the file that is open, `s_cur_bytes`, `last_snap_us`, and whether the
    task has ended. -/
structure Writer where
  sFp : Option Nat
  sCurBytes : Nat
  lastSnapUs : Nat
  exited : Bool
deriving DecidableEq, Repr

namespace Writer

/-- `open_new_file`.  The file before is closed in any case. -/
def openNewFile (w : Writer) (o : Opening) : Writer :=
  if o.created then { w with sFp := some (min o.taken o.header), sCurBytes := o.header }
  else { w with sFp := none }

/-- The writer reopens the active file if it went away. -/
def reopened (w : Writer) (o : Opening) : Writer := if w.sFp = none then w.openNewFile o else w

/-- The file gets so many bytes more. -/
def append (w : Writer) (length bytes : Nat) : Writer :=
  { w with sFp := some (length + bytes), sCurBytes := (w.sCurBytes + bytes) % 2 ^ 32 }

/-- `open_new_file` if the file is full. -/
def rotated (w : Writer) (o : Opening) : Writer :=
  if sdlogFileMaxBytes ≤ w.sCurBytes then w.openNewFile o else w

/-- The line of the round. The file may be rotated behind it; the record keeps the length that the
    line has led to. -/
def handleLine (w : Writer) (r : Round) : Writer × List Record :=
  match r.got, w.sFp with
  | some _, some length =>
    ((w.append length r.lineBytes).rotated r.rotation, [⟨r.lineBytes, length + r.lineBytes⟩])
  | _, _ => (w, [])

/-- It is time for a snapshot. -/
def SnapDue (w : Writer) (r : Round) : Prop := w.lastSnapUs + r.snapIvUs ≤ r.now

instance (w : Writer) (r : Round) : Decidable (w.SnapDue r) := by
  unfold SnapDue
  infer_instance

/-- What `fwrite` returns for the snapshot in `emit_snap`, 0 if it is not time for one. -/
def snapBytes (w : Writer) (r : Round) : Nat :=
  if w.SnapDue r then min r.snapTaken (min r.snap sdlogLineMax) else 0

/-- The snapshot of the round. It goes to the file that is open behind the line, without a look at
    its length. -/
def handleSnap (w : Writer) (r : Round) : Writer × List Record :=
  match w.sFp with
  | some length =>
    if w.SnapDue r then
      ({ w.append length (w.snapBytes r) with lastSnapUs := r.now },
        [⟨w.snapBytes r, length + w.snapBytes r⟩])
    else (w, [])
  | none => (w, [])

/-- One round with a line or without a message. -/
def round (w : Writer) (r : Round) : Writer × List Record :=
  let (w, line) := (w.reopened r.reopen).handleLine r
  let (w, snap) := w.handleSnap r
  (w, line ++ snap)

end Writer

/-- What can happen: a round of the loop, the marker `SDLOG_MSG_FLUSH`, `SDLOG_MSG_POISON`, or
    `sdlog_erase_all` between two rounds. -/
inductive Act where
  | round (r : Round)
  | flush
  | poison
  | eraseAll

namespace Writer

/-- The records that a step adds. -/
def records (w : Writer) : Act → List Record
  | .round r => (w.round r).2
  | _ => []

/-- One step. A `fsync` does not change the length. After the poison the task is gone and nothing is
    written any more. -/
def step (w : Writer) (a : Act) : Option Writer :=
  if w.exited then none
  else match a with
    | .round r => some (w.round r).1
    | .flush => some w
    | .poison => some { w with sFp := none, exited := true }
    | .eraseAll => some { w with sFp := none }

/-- `writer_task` in front of its loop. -/
def started (o : Opening) (now : Nat) : Writer := openNewFile ⟨none, 0, now, false⟩ o

end Writer

/-- `writer_task`. -/
def writerTask : Machine Writer Act := ⟨Writer.step⟩

/-- **The bound.**  A record that is added to the file is the only one beyond the limit. -/
def Bounded (w : Writer) (a : Act) : Prop := ∀ rec ∈ w.records a, rec.OnlyOne

/-- The file is not past the limit, or gets none of the bytes. -/
def Writer.Spares (w : Writer) (bytes : Nat) : Prop :=
  ∀ length, w.sFp = some length → sdlogFileMaxBytes < length → bytes = 0

/-- **The condition.**  A file that is past the limit gets none of the bytes of a line, or, in a
    round without a line, of a snapshot. -/
def LeavesLong (w : Writer) : Act → Prop
  | .round r => w.Spares r.lineBytes ∧ (r.got = none → w.Spares (w.snapBytes r))
  | _ => True

/-! ### What a round does to the file -/

namespace Writer

/-- The counter is right up to what the card did not take of the header, and the file is past the
    limit by one record at most. -/
structure Fits (w : Writer) : Prop where
  le_bytes : ∀ length, w.sFp = some length → length ≤ w.sCurBytes
  bytes_le : ∀ length, w.sFp = some length → w.sCurBytes ≤ length + hdrSize
  length_le : ∀ length, w.sFp = some length → length ≤ sdlogFileMaxBytes + sdlogLineMax

/-- The file is not past the limit. -/
def Short (w : Writer) : Prop := ∀ length, w.sFp = some length → length ≤ sdlogFileMaxBytes

variable {w : Writer} {r : Round} {o : Opening} {length bytes : Nat}

/-- A file that is not past the limit may get anything. -/
theorem Short.spares (h : w.Short) (bytes : Nat) : w.Spares bytes := fun length hlength hlong =>
  absurd (h length hlength) (Nat.not_le_of_lt hlong)

theorem spares_zero (w : Writer) : w.Spares 0 := fun _ _ _ => rfl

/-- No file, or a new one with its header. -/
theorem openNewFile_cases (w : Writer) (o : Opening) :
    (w.openNewFile o).sFp = none ∨
      ∃ length, (w.openNewFile o).sFp = some length ∧ (w.openNewFile o).sCurBytes = o.header ∧
        length ≤ o.header := by
  unfold openNewFile
  split
  · exact .inr ⟨_, rfl, rfl, Nat.min_le_right _ _⟩
  · exact .inl rfl

@[simp] theorem lastSnapUs_openNewFile : (w.openNewFile o).lastSnapUs = w.lastSnapUs := by
  unfold openNewFile
  split <;> rfl

theorem fits_openNewFile (w : Writer) (o : Opening) : (w.openNewFile o).Fits := by
  have hheader := o.header_le
  have hroom : hdrSize ≤ sdlogFileMaxBytes := by decide
  obtain hnone | ⟨length, hsome, hbytes, hlength⟩ := w.openNewFile_cases o
  · constructor <;> simp [hnone]
  · constructor <;> rw [hsome] <;> rintro _ ⟨⟩ <;> omega

theorem short_openNewFile (w : Writer) (o : Opening) : (w.openNewFile o).Short := by
  have hheader := o.header_le
  have hroom : hdrSize ≤ sdlogFileMaxBytes := by decide
  obtain hnone | ⟨length, hsome, -, hlength⟩ := w.openNewFile_cases o
  · simp [Short, hnone]
  · rw [Short, hsome]
    rintro _ ⟨⟩
    omega

/-- A record of at most a line into a file that fits, unless that is past the limit already. -/
theorem Fits.append (h : w.Fits) (hlength : w.sFp = some length) (hbytes : bytes ≤ sdlogLineMax)
    (hspares : w.Spares bytes) : (w.append length bytes).Fits := by
  have hle := h.le_bytes length hlength
  have hge := h.bytes_le length hlength
  have hmax := h.length_le length hlength
  have hspare := hspares length hlength
  have hsmall : sdlogFileMaxBytes + sdlogLineMax + hdrSize + sdlogLineMax < 2 ^ 32 := by decide
  have hbytes' : (w.append length bytes).sCurBytes = w.sCurBytes + bytes :=
    Nat.mod_eq_of_lt (by omega)
  refine ⟨?_, ?_, ?_⟩ <;> rintro _ ⟨⟩
  · rw [hbytes']
    omega
  · rw [hbytes']
    omega
  · by_cases hlong : sdlogFileMaxBytes < length
    · -- the file keeps the length that the last snapshot has left
      have hzero := hspare hlong
      omega
    · omega

/-- Behind the comparison with the limit the file is not past it. -/
theorem Fits.short_rotated (h : w.Fits) (o : Opening) : (w.rotated o).Short := by
  unfold rotated
  split
  · exact w.short_openNewFile o
  · -- the counter may be ahead of the file, never behind it
    rename_i hbelow
    intro length hlength
    have hle := h.le_bytes length hlength
    omega

theorem Fits.rotated (h : w.Fits) (o : Opening) : (w.rotated o).Fits := by
  unfold Writer.rotated
  split
  · exact w.fits_openNewFile o
  · exact h

theorem Fits.reopened (h : w.Fits) (o : Opening) : (w.reopened o).Fits := by
  unfold Writer.reopened
  split
  · exact w.fits_openNewFile o
  · exact h

/-- What matters of the file is the same when it has been reopened. -/
theorem spares_reopened : (w.reopened o).Spares bytes ↔ w.Spares bytes := by
  unfold reopened
  split
  · rename_i hnone
    have hleft : w.Spares bytes := by simp [Spares, hnone]
    exact iff_of_true ((w.short_openNewFile o).spares bytes) hleft
  · exact Iff.rfl

/-- A round without a line leaves the file to the snapshot. -/
theorem handleLine_of_none (hgot : r.got = none) : w.handleLine r = (w, []) := by
  simp [handleLine, hgot]

/-- **The line of a round** keeps the file fitting, and leaves no file past the limit if there is
    one. -/
theorem Fits.handleLine (h : w.Fits) (hspares : w.Spares r.lineBytes) :
    (w.handleLine r).1.Fits ∧ (r.got ≠ none → (w.handleLine r).1.Short) := by
  unfold Writer.handleLine
  split
  · rename_i line length hgot hlength
    have hbytes : r.lineBytes ≤ sdlogLineMax := by
      simp only [Round.lineBytes, hgot]
      exact (Nat.min_le_right _ _).trans line.len_le
    have happend := h.append hlength hbytes hspares
    exact ⟨happend.rotated r.rotation, fun _ => happend.short_rotated r.rotation⟩
  · rename_i hmissing
    refine ⟨h, fun hgot length hlength => ?_⟩
    obtain ⟨line, hline⟩ := Option.ne_none_iff_exists'.mp hgot
    exact absurd hlength (hmissing line length hline)

theorem snapBytes_le (w : Writer) (r : Round) : w.snapBytes r ≤ sdlogLineMax := by
  unfold snapBytes
  split
  · exact (Nat.min_le_right _ _).trans (Nat.min_le_right _ _)
  · exact Nat.zero_le _

/-- The snapshot, when it is time for one. -/
theorem handleSnap_of_due (hlength : w.sFp = some length) (hdue : w.SnapDue r) :
    w.handleSnap r = ({ w.append length (w.snapBytes r) with lastSnapUs := r.now },
      [⟨w.snapBytes r, length + w.snapBytes r⟩]) := by
  simp only [handleSnap, hlength, hdue, if_true]

/-- **The snapshot of a round** keeps the file fitting, if that is not past the limit. -/
theorem Fits.handleSnap (h : w.Fits) (hspares : w.Spares (w.snapBytes r)) :
    (w.handleSnap r).1.Fits := by
  unfold Writer.handleSnap
  split
  · rename_i length hlength
    split
    · have happend := h.append hlength (w.snapBytes_le r) hspares
      exact ⟨happend.le_bytes, happend.bytes_le, happend.length_le⟩
    · exact h
  · exact h

@[simp] theorem lastSnapUs_reopened : (w.reopened o).lastSnapUs = w.lastSnapUs := by
  unfold reopened
  split
  · exact lastSnapUs_openNewFile
  · rfl

/-- The time of a snapshot does not depend on the file. -/
theorem snapBytes_reopened : (w.reopened o).snapBytes r = w.snapBytes r := by
  simp only [snapBytes, SnapDue, lastSnapUs_reopened]

/-- A round without a line, while a file is open. -/
theorem round_of_none (hgot : r.got = none) (hlength : w.sFp = some length) :
    w.round r = w.handleSnap r := by
  have hopen : ¬ w.sFp = none := by simp [hlength]
  simp only [round, reopened, if_neg hopen, handleLine_of_none hgot, List.nil_append]

/-- A round that leaves a long file alone spares it in both places. -/
theorem spares_of_leavesLong (hfits : w.Fits) (h : LeavesLong w (.round r)) :
    (w.reopened r.reopen).Spares r.lineBytes ∧
      ((w.reopened r.reopen).handleLine r).1.Spares
        (((w.reopened r.reopen).handleLine r).1.snapBytes r) := by
  have hline : (w.reopened r.reopen).Spares r.lineBytes := spares_reopened.mpr h.1
  refine ⟨hline, ?_⟩
  by_cases hgot : r.got = none
  · rw [handleLine_of_none hgot, snapBytes_reopened]
    exact spares_reopened.mpr (h.2 hgot)
  · -- behind a line the limit has just been tested
    exact (((hfits.reopened r.reopen).handleLine hline).2 hgot).spares _

/-- **One step** that leaves a long file alone keeps the file fitting. -/
theorem Fits.step {a : Act} {w' : Writer} (hleaves : LeavesLong w a)
    (hstep : writerTask.step w a = some w') (h : w.Fits) : w'.Fits := by
  unfold writerTask Writer.step at hstep
  cases hexited : w.exited with
  | true => simp [hexited] at hstep
  | false =>
    simp only [hexited, Bool.false_eq_true, if_false] at hstep
    cases a with
    | round r =>
      obtain rfl := Option.some.inj hstep
      obtain ⟨hline, hsnap⟩ := spares_of_leavesLong h hleaves
      exact ((h.reopened r.reopen).handleLine hline).1.handleSnap hsnap
    | flush => exact Option.some.inj hstep ▸ h
    | poison | eraseAll =>
      obtain rfl := Option.some.inj hstep
      constructor <;> simp

end Writer

/-! ### The bound -/

namespace Writer

variable {w : Writer} {r : Round} {length bytes : Nat}

/-- A record is within the bound if the file spares it. -/
theorem onlyOne_iff (hlength : w.sFp = some length) :
    (Record.mk bytes (length + bytes)).OnlyOne ↔ w.Spares bytes := by
  constructor
  · intro hbound n hn hlong
    obtain rfl : length = n := Option.some.inj (hlength.symm.trans hn)
    by_contra hpos
    have hle : length + bytes ≤ sdlogFileMaxBytes + bytes := hbound (Nat.pos_of_ne_zero hpos)
    omega
  · intro hspares hpos
    by_contra hover
    have hlong : sdlogFileMaxBytes < length := by
      dsimp only at hover
      omega
    have hzero := hspares length hlength hlong
    exact absurd hzero (Nat.ne_of_gt hpos)

theorem line_onlyOne_iff : (∀ rec ∈ (w.handleLine r).2, rec.OnlyOne) ↔ w.Spares r.lineBytes := by
  unfold handleLine
  split
  · rename_i hlength
    simpa using onlyOne_iff hlength
  · rename_i hmissing
    refine iff_of_true (by simp) fun length hlength _ => ?_
    cases hgot : r.got with
    | none => simp [Round.lineBytes, hgot]
    | some line => exact absurd hlength (hmissing line length hgot)

theorem snap_onlyOne_iff :
    (∀ rec ∈ (w.handleSnap r).2, rec.OnlyOne) ↔ w.Spares (w.snapBytes r) := by
  unfold handleSnap
  split
  · rename_i hlength
    split
    · simpa using onlyOne_iff hlength
    · rename_i hdue
      refine iff_of_true (by simp) ?_
      simp only [snapBytes, hdue, if_false]
      exact w.spares_zero
  · rename_i hnone
    refine iff_of_true (by simp) ?_
    simp [Spares, hnone]

/-- **One step** is within the bound exactly if it leaves a long file alone. -/
theorem Fits.leavesLong_iff (h : w.Fits) (a : Act) : LeavesLong w a ↔ Bounded w a := by
  cases a with
  | round r =>
    have hsplit : Bounded w (.round r) ↔ (w.reopened r.reopen).Spares r.lineBytes ∧
        ((w.reopened r.reopen).handleLine r).1.Spares
          (((w.reopened r.reopen).handleLine r).1.snapBytes r) := by
      rw [← line_onlyOne_iff, ← snap_onlyOne_iff]
      exact List.forall_mem_append
    rw [hsplit]
    refine ⟨spares_of_leavesLong h, fun ⟨hline, hsnap⟩ => ?_⟩
    refine ⟨spares_reopened.mp hline, fun hgot => ?_⟩
    rw [handleLine_of_none hgot, snapBytes_reopened] at hsnap
    exact spares_reopened.mp hsnap
  | flush | poison | eraseAll => exact iff_of_true trivial (by simp [Bounded, records])

end Writer

/-- **The rotation bound.**  The active file is never past the limit by more than one record exactly
    in the runs in which a file that is past the limit gets nothing more before it is rotated. -/
theorem rotation_bounded_iff (o : Opening) (now : Nat) (as : List Act) :
    writerTask.Meets LeavesLong (Writer.started o now) as ↔
      writerTask.Meets Bounded (Writer.started o now) as :=
  Machine.meets_iff_of_invariant (I := Writer.Fits) (fun _ _ _ => Writer.Fits.step)
    (fun _ a h => h.leavesLong_iff a) (Writer.fits_openNewFile _ o)

/-! ### A quiet run -/

/-- A file with its header. -/
def newFile : Opening := ⟨true, 100, by decide, 100⟩

/-- A second without a message, after the control plane has fallen silent, with a snapshot of 150
    bytes. -/
def quietRound (i : Nat) : Round where
  got := none
  lineTaken := 0
  reopen := newFile
  rotation := newFile
  now := (100 + i) * 1000000
  sMl := some (0, 1000)
  snap := 150
  snapTaken := 150

/-- The first `k` of them. -/
def quietTicks (k : Nat) : List Act := (List.range k).map fun i => .round (quietRound i)

/-- The writer after so many of them. -/
def quietWriter (k : Nat) : Writer :=
  ⟨some (100 + 150 * k), 100 + 150 * k, (99 + k) * 1000000, false⟩

/-- The silence is an anomaly, and it is time for a snapshot each second. -/
theorem snapIvUs_quietRound {k : Nat} (hk : k < 10000) : (quietRound k).snapIvUs = 1000000 := by
  have hage : (quietRound k).age 1000 = 99 + k := by
    have hms : (quietRound k).now / 1000 = (100 + k) * 1000 := by
      show (100 + k) * 1000000 / 1000 = (100 + k) * 1000
      omega
    have hknown : 1000 ≠ 0 ∧ 1000 < (100 + k) * 1000 := by omega
    rw [Round.age, hms, if_pos hknown]
    omega
  have hanomaly : (quietRound k).anomaly = true := by
    have hlong : ctrlRxAnomalyS < 99 + k := Nat.lt_of_lt_of_le (by decide) (Nat.le_add_right 99 k)
    have hml : (quietRound k).sMl = some (0, 1000) := rfl
    simp only [Round.anomaly, hml, hage, decide_eq_true hlong, Bool.or_true]
  rw [Round.snapIvUs, hanomaly]
  rfl

/-- One more second, one more snapshot. -/
theorem round_quietWriter {k : Nat} (hk : k < 10000) : (quietWriter k).round (quietRound k) =
    (quietWriter (k + 1), [⟨150, 100 + 150 * k + 150⟩]) := by
  have hdue : (quietWriter k).SnapDue (quietRound k) := by
    show (99 + k) * 1000000 + (quietRound k).snapIvUs ≤ (100 + k) * 1000000
    rw [snapIvUs_quietRound hk]
    omega
  have hbytes : (quietWriter k).snapBytes (quietRound k) = 150 := by
    rw [Writer.snapBytes, if_pos hdue]
    rfl
  have hnext : { (quietWriter k).append (100 + 150 * k) 150 with
      lastSnapUs := (quietRound k).now } = quietWriter (k + 1) := by
    have hlength : 100 + 150 * k + 150 = 100 + 150 * (k + 1) := by omega
    have hcount : (100 + 150 * k + 150) % 2 ^ 32 = 100 + 150 * (k + 1) := by omega
    have hnow : (quietRound k).now = (99 + (k + 1)) * 1000000 := by
      show (100 + k) * 1000000 = _
      omega
    simp only [quietWriter, Writer.append, Writer.mk.injEq, and_true]
    exact ⟨congrArg some hlength, hcount, hnow⟩
  rw [Writer.round_of_none rfl rfl, Writer.handleSnap_of_due rfl hdue, hbytes, hnext]

theorem run_quietTicks {k : Nat} (hk : k ≤ 10000) :
    writerTask.run (Writer.started newFile 99000000) (quietTicks k) = some (quietWriter k) := by
  induction k with
  | zero => rfl
  | succ k ih =>
    rw [quietTicks, List.range_succ, List.map_append, Machine.run_append]
    refine ⟨quietWriter k, ih (by omega), Machine.run_cons.mpr ⟨_, ?_, rfl⟩⟩
    exact congrArg (fun w => some w.1) (round_quietWriter hk)

/-- Another snapshot goes into the file, however long that is. -/
theorem not_meets_quietTicks {k : Nat} (hk : k < 10000)
    (hlong : sdlogFileMaxBytes < 100 + 150 * k) :
    ¬ writerTask.Meets Bounded (Writer.started newFile 99000000) (quietTicks (k + 1)) := by
  intro hmeets
  rw [quietTicks, List.range_succ, List.map_append] at hmeets
  have hlast := (hmeets.append_right (run_quietTicks (Nat.le_of_lt hk))).1
  rw [Bounded, Writer.records, round_quietWriter hk] at hlast
  have hle : 100 + 150 * k + 150 ≤ sdlogFileMaxBytes + 150 :=
    hlast _ List.mem_cons_self (show 0 < 150 by decide)
  omega

/-- **Snapshots alone** are never compared with the limit: the file grows on. -/
theorem quiet_run_passes_limit :
    (∃ w length, writerTask.run (Writer.started newFile 99000000) (quietTicks 7000) = some w ∧
      w.sFp = some length ∧ sdlogFileMaxBytes + sdlogLineMax < length) ∧
    ¬ writerTask.Meets Bounded (Writer.started newFile 99000000) (quietTicks 7001) :=
  ⟨⟨_, _, run_quietTicks (by decide), rfl, by decide⟩, not_meets_quietTicks (by decide) (by decide)⟩

end SubnetRouter.FlightRecorder.Rotation
