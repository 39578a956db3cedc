import Mathlib.Algebra.Group.Nat.Defs
import SubnetRouter.Lib.Run
import SubnetRouter.Settings.Nvs

namespace SubnetRouter.FlightRecorder

open Lib Settings

/-!
# Flushing the recorder (`sdlog_flush`)

The callers of `sdlog_flush` put a marker into the queue of the log lines and wait for the
writer task to come to it.  The markers are all the same, and one binary semaphore tells of
each that the writer has been there.

* `ActiveFile` — the lines in the buffers of the open file, and those on the card for good.
* `flusher` — the machine of the callers, the producers and the writer.
* `Alone` — a marker is posted while no other one is on its way, and the card does what it is
  asked to.
* `Ordered` — the lines are in order in the file and the queue, and the marker behind all those
  that a caller waits for.
* `flush_truthful` — every run of such steps.
* `late_completion` — the marker of a call that has timed out completes the next call.
-/

/-! ### The active file -/

/-- A message in the queue: a line, numbered as it came in, or the marker `SDLOG_MSG_FLUSH`. -/
inductive Msg where
  | line (id : Nat)
  | flush
deriving DecidableEq, Repr

/-- The lines among the messages. -/
def linesOf (ms : List Msg) : List Nat :=
  ms.filterMap fun
    | .line id => some id
    | .flush => none

/-- The lines before the first marker. -/
def ahead (ms : List Msg) : List Nat := linesOf (ms.takeWhile fun m => m ≠ .flush)

/-- The lines in the buffers of the open file (`s_fp`), and those that are on the card for
    good. -/
structure ActiveFile where
  sFp : Option (List Nat)
  durable : List Nat
deriving DecidableEq, Repr

/-- How the calls of `open_new_file` go: the `fsync` of the file before, and the `fopen`. -/
structure Opening where
  synced : Bool
  created : Bool
deriving DecidableEq, Repr

/-- How the calls of one round of the writer go: `open_new_file` where no file is open, the
    `fwrite` of the line, `open_new_file` if that fills the file, and the `fsync` if it is time
    for one. -/
structure Round where
  reopen : Opening
  whole : Bool
  rotation : Option Opening
  sync : Option Bool
deriving DecidableEq, Repr

namespace ActiveFile

/-- `fsync_active`.  After a failure the lines are still in the buffers. -/
def fsyncActive (f : ActiveFile) (ok : Bool) : ActiveFile :=
  match f.sFp with
  | none => f
  | some lines => if ok then ⟨some [], f.durable ++ lines⟩ else f

/-- `open_new_file`.  The buffers of the file before are gone. -/
def openNewFile (f : ActiveFile) (o : Opening) : ActiveFile :=
  ⟨if o.created then some [] else none, (f.fsyncActive o.synced).durable⟩

/-- A line, if a file is open, and another file if it is full then. Without a file the line is lost,
    as it has left the queue. -/
def writeLine (f : ActiveFile) (id : Nat) (r : Round) : ActiveFile :=
  match f.sFp with
  | none => f
  | some lines =>
    let f := { f with sFp := some (if r.whole then lines ++ [id] else lines) }
    match r.rotation with
    | none => f
    | some o => f.openNewFile o

/-- One round of `writer_task`, with a line or after `SDLOG_TICK_MS` without a message. A file that
    could not be opened is tried again first. -/
def round (f : ActiveFile) (got : Option Nat) (r : Round) : ActiveFile :=
  let f := if f.sFp = none then f.openNewFile r.reopen else f
  let f := match got with
    | none => f
    | some id => f.writeLine id r
  match r.sync with
  | none => f
  | some ok => f.fsyncActive ok

/-- The lines that have been written. -/
def lines (f : ActiveFile) : List Nat := f.durable ++ f.sFp.getD []

/-- The lines `ids` have been written, and nothing is lost. -/
structure Extends (f g : ActiveFile) (ids : List Nat) : Prop where
  lines : g.lines = f.lines ++ ids
  durable : f.durable <+: g.durable

end ActiveFile

/-- The line of the round gets into the file, and stays there. -/
def Round.Keeps (r : Round) (f : ActiveFile) : Prop :=
  (f.sFp = none → r.reopen.created = true) ∧ r.whole = true ∧ ∀ o ∈ r.rotation, o.synced = true

instance (r : Round) (f : ActiveFile) : Decidable (r.Keeps f) := by
  unfold Round.Keeps
  infer_instance

/-! ### The callers, the producers and the writer -/

def sdlogQueueDepth : Nat := 32

/-- `ESP_FAIL`. -/
def espFail : EspErr := -1

/-- `ESP_ERR_TIMEOUT`. -/
def espErrTimeout : EspErr := 0x107

/-- Where the writer is: before its first `open_new_file`, at `xQueueReceive`, with a message, or
    before the `xSemaphoreGive` that follows a marker. -/
inductive Writer where
  | opening
  | receiving
  | handling (m : Msg)
  | waking
deriving DecidableEq, Repr

/-- Where a caller is: not in `sdlog_flush`, before it posts its marker, or after that; `lines` is
    the number of lines that were queued before the marker. -/
inductive Caller where
  | idle
  | cleared
  | waiting (lines : Nat)
deriving DecidableEq, Repr

/-- The recorder while it runs.  `returns` has the results of the calls so far, with the number
    of lines before the marker. -/
structure Flusher where
  nextLine : Nat
  queue : List Msg
  dropped : Nat
  flushDone : Bool
  writer : Writer
  file : ActiveFile
  callers : Nat → Caller
  returns : List (EspErr × Nat)

/-- What may happen: `sdlog_vprintf` has a line, a caller or the writer goes on. A caller's steps
    are those of `sdlog_flush`, from clearing the flag to the end of its wait. -/
inductive FlushStep where
  | vprintf
  | clear (c : Nat)
  | post (c : Nat)
  | postTimeout (c : Nat)
  | complete (c : Nat)
  | waitTimeout (c : Nat)
  | firstOpen (o : Opening)
  | receive
  | tick (r : Round)
  | write (r : Round)
  | sync (ok : Bool)
  | wake

namespace Flusher

/-- A caller goes on. -/
def setCaller (s : Flusher) (c : Nat) (x : Caller) : Flusher :=
  { s with callers := fun c' => if c' = c then x else s.callers c' }

/-- A caller returns. -/
def returned (s : Flusher) (c : Nat) (err : EspErr) (lines : Nat) : Flusher :=
  { s.setCaller c .idle with returns := (err, lines) :: s.returns }

/-- `xQueueSend` finds room. -/
def room (s : Flusher) : Bool := s.queue.length < sdlogQueueDepth

/-- `xQueueSend`. -/
def send (s : Flusher) (m : Msg) : Flusher := { s with queue := s.queue ++ [m] }

end Flusher

/-- The machine of any number of callers, the producers and the writer. They share the queue and one
    flag `flushDone`, which the callers do not own one by one. -/
def flusher : Machine Flusher FlushStep where
  step s
    | .vprintf =>
      if s.room then some { s.send (.line s.nextLine) with nextLine := s.nextLine + 1 }
      else some { s with dropped := (s.dropped + 1) % 2 ^ 32 }
    | .clear c =>
      if s.callers c = .idle then some { s.setCaller c .cleared with flushDone := false } else none
    | .post c =>
      if s.callers c = .cleared ∧ s.room then
        some ((s.send .flush).setCaller c (.waiting s.nextLine))
      else none
    | .postTimeout c =>
      if s.callers c = .cleared ∧ !s.room then some (s.returned c espFail 0) else none
    | .complete c => match s.callers c with
      | .waiting lines =>
        if s.flushDone then some { s.returned c espOk lines with flushDone := false } else none
      | _ => none
    | .waitTimeout c => match s.callers c with
      | .waiting lines => if s.flushDone then none else some (s.returned c espErrTimeout lines)
      | _ => none
    | .firstOpen o =>
      if s.writer = .opening then
        some { s with writer := .receiving, file := s.file.openNewFile o }
      else none
    | .receive => match s.writer, s.queue with
      | .receiving, m :: ms => some { s with writer := .handling m, queue := ms }
      | _, _ => none
    | .tick r =>
      if s.writer = .receiving ∧ s.queue = [] then some { s with file := s.file.round none r }
      else none
    | .write r => match s.writer with
      | .handling (.line id) =>
        some { s with writer := .receiving, file := s.file.round (some id) r }
      | _ => none
    | .sync ok => match s.writer with
      | .handling .flush => some { s with writer := .waking, file := s.file.fsyncActive ok }
      | _ => none
    | .wake =>
      if s.writer = .waking then some { s with writer := .receiving, flushDone := true } else none

/-- The recorder after `start_writer`. -/
def writerStarted : Flusher :=
  ⟨0, [], 0, false, .opening, ⟨none, []⟩, fun _ => .idle, []⟩

/-- Every call that returned `ESP_OK` has the lines before its marker on the card. -/
def Truthful (s : Flusher) : Prop :=
  ∀ r ∈ s.returns, r.1 = espOk → ∀ id < r.2, id ∈ s.file.durable

namespace Flusher

/-- The messages that the writer has not dealt with. -/
def pending (s : Flusher) : List Msg :=
  match s.writer with
  | .handling m => m :: s.queue
  | _ => s.queue

/-- The markers and completions on their way. -/
def completions (s : Flusher) : Nat :=
  s.pending.count .flush + (if s.writer = .waking then 1 else 0) + (if s.flushDone then 1 else 0)

end Flusher

/-- A marker is posted while no other one is on its way, each line gets into the file, and the
    `fsync` for a marker succeeds. -/
def Alone (s : Flusher) : FlushStep → Prop
  | .post _ => s.completions = 0
  | .write r => r.Keeps s.file
  | .sync ok => s.file.sFp = none ∨ ok = true
  | _ => True

instance (s : Flusher) (a : FlushStep) : Decidable (Alone s a) := by
  cases a <;> unfold Alone <;> infer_instance

/-! ### The lines in the file -/

namespace ActiveFile

variable {f g h : ActiveFile} {ids ids' : List Nat} {r : Round}

theorem Extends.refl (f : ActiveFile) : f.Extends f [] :=
  ⟨(List.append_nil _).symm, List.prefix_rfl⟩

theorem Extends.trans (hfg : f.Extends g ids) (hgh : g.Extends h ids') :
    f.Extends h (ids ++ ids') := by
  refine ⟨?_, hfg.durable.trans hgh.durable⟩
  rw [hgh.lines, hfg.lines, List.append_assoc]

theorem durable_prefix_lines (f : ActiveFile) : f.durable <+: f.lines := List.prefix_append _ _

theorem fsyncActive_extends (f : ActiveFile) (ok : Bool) : f.Extends (f.fsyncActive ok) [] := by
  unfold fsyncActive
  split
  · exact .refl f
  · rename_i lines hopen
    split
    · refine ⟨?_, List.prefix_append _ _⟩
      simp [ActiveFile.lines, hopen]
    · exact .refl f

/-- After the `fsync` all lines are on the card. -/
theorem durable_fsyncActive {ok : Bool} (hok : f.sFp = none ∨ ok = true) :
    (f.fsyncActive ok).durable = f.lines := by
  unfold fsyncActive ActiveFile.lines
  cases hfp : f.sFp with
  | none => simp
  | some lines =>
    have hok : ok = true := by simpa [hfp] using hok
    simp [hok]

theorem openNewFile_extends {o : Opening} (hsynced : f.sFp = none ∨ o.synced = true) :
    f.Extends (f.openNewFile o) [] := by
  refine ⟨?_, (f.fsyncActive_extends o.synced).durable⟩
  show (f.fsyncActive o.synced).durable ++ Option.getD (if o.created then some [] else none) [] = _
  rw [durable_fsyncActive hsynced]
  split <;> rfl

theorem writeLine_extends {lines : List Nat} (hopen : f.sFp = some lines)
    (hwhole : r.whole = true) (hrotation : ∀ o ∈ r.rotation, o.synced = true) (id : Nat) :
    f.Extends (f.writeLine id r) [id] := by
  have hwritten : f.Extends { f with sFp := some (lines ++ [id]) } [id] :=
    ⟨by simp [ActiveFile.lines, hopen], List.prefix_rfl⟩
  rw [writeLine, hopen, hwhole]
  dsimp only [if_true]
  split
  · exact hwritten
  · rename_i o hfull
    exact hwritten.trans (openNewFile_extends (Or.inr (hrotation o hfull)))

/-- The line of a round comes last, as long as the round does not lose it. -/
theorem round_extends {got : Option Nat} (hkeeps : got ≠ none → r.Keeps f) :
    f.Extends (f.round got r) got.toList := by
  have hreopen : f.Extends (if f.sFp = none then f.openNewFile r.reopen else f) [] := by
    split
    · rename_i hclosed
      exact openNewFile_extends (Or.inl hclosed)
    · exact .refl f
  have hsync : ∀ g : ActiveFile, g.Extends
      (match r.sync with
        | none => g
        | some ok => g.fsyncActive ok) [] := by
    intro g
    split
    · exact .refl g
    · exact g.fsyncActive_extends _
  cases got with
  | none => exact hreopen.trans (hsync _)
  | some id =>
    obtain ⟨hcreated, hwhole, hrotation⟩ := hkeeps nofun
    -- the file is open when the line is written
    have hopen : ∃ lines,
        (if f.sFp = none then f.openNewFile r.reopen else f).sFp = some lines := by
      split
      · rename_i hclosed
        exact ⟨[], by rw [openNewFile, hcreated hclosed]; rfl⟩
      · rename_i hfp
        exact Option.ne_none_iff_exists'.mp hfp
    obtain ⟨lines, hopen⟩ := hopen
    exact (hreopen.trans (writeLine_extends hopen hwhole hrotation id)).trans (hsync _)

end ActiveFile

/-! ### The lines in the queue -/

section

variable {ms ns : List Msg}

@[simp] theorem linesOf_append : linesOf (ms ++ ns) = linesOf ms ++ linesOf ns :=
  List.filterMap_append

@[simp] theorem ahead_line (id : Nat) (ms : List Msg) :
    ahead (.line id :: ms) = id :: ahead ms := rfl

/-- Lines in front of other messages. -/
theorem linesOf_lines (ids : List Nat) (ms : List Msg) :
    linesOf (ids.map .line ++ ms) = ids ++ linesOf ms := by
  induction ids with
  | nil => rfl
  | cons id ids ih => exact congrArg (id :: ·) ih

/-- Lines in front of the first marker. -/
theorem ahead_lines (ids : List Nat) (ms : List Msg) :
    ahead (ids.map .line ++ ms) = ids ++ ahead ms := by
  induction ids with
  | nil => rfl
  | cons id ids ih => exact congrArg (id :: ·) ih

/-- What comes behind a marker does not matter to it. -/
theorem ahead_append (h : Msg.flush ∈ ms) : ahead (ms ++ ns) = ahead ms := by
  induction ms with
  | nil => cases h
  | cons m ms ih =>
    cases m with
    | flush => rfl
    | line id =>
      have hlater : Msg.flush ∈ ms := by simpa using h
      rw [List.cons_append, ahead_line, ahead_line, ih hlater]

/-- The lines before the marker that is posted now. -/
theorem ahead_marker (h : Msg.flush ∉ ms) : ahead (ms ++ [.flush]) = linesOf ms := by
  rw [ahead, List.takeWhile_append_of_pos]
  · rw [linesOf_append]
    exact List.append_nil _
  · intro m hm
    rw [decide_eq_true_iff]
    rintro rfl
    exact h hm

end

/-! ### Every run -/

/-- Some caller waits, with so many lines before its marker. -/
def Flusher.Waits (s : Flusher) (n : Nat) : Prop := ∃ c, s.callers c = .waiting n

/-- The lines come in order: on the card, in the buffers of the file, at the writer, in the queue.
    The one marker or completion on its way is behind every line that a caller waits for. -/
structure Ordered (s : Flusher) : Prop where
  unopened : s.writer = .opening → s.file.sFp = none
  order : s.file.lines ++ linesOf s.pending = List.range s.nextLine
  one : s.completions ≤ 1
  posted : ∀ n, s.Waits n → n ≤ s.nextLine
  queued : .flush ∈ s.pending → ∀ n, s.Waits n → n ≤ (s.file.lines ++ ahead s.pending).length
  synced : s.writer = .waking ∨ s.flushDone = true → ∀ n, s.Waits n → n ≤ s.file.durable.length
  returned : ∀ r ∈ s.returns, r.1 = espOk → r.2 ≤ s.file.durable.length

variable {s t : Flusher} {a : FlushStep} {c : Nat}

/-- The lines on the card are the first ones. -/
theorem Ordered.truthful (h : Ordered s) : Truthful s := by
  intro r hr hok id hid
  have hbegin : s.file.durable <+: List.range s.nextLine := by
    rw [← h.order]
    exact s.file.durable_prefix_lines.trans (List.prefix_append _ _)
  have hlt : id < s.file.durable.length := Nat.lt_of_lt_of_le hid (h.returned r hr hok)
  have hget : s.file.durable[id] = id := by
    rw [hbegin.getElem hlt, List.getElem_range]
  exact hget ▸ List.getElem_mem hlt

theorem waits_setCaller {x : Caller} {n : Nat} (hwaits : (s.setCaller c x).Waits n) :
    x = .waiting n ∨ s.Waits n := by
  obtain ⟨c', hc'⟩ := hwaits
  by_cases hsame : c' = c
  · exact Or.inl (by simpa [Flusher.setCaller, hsame] using hc')
  · exact Or.inr ⟨c', by simpa [Flusher.setCaller, hsame] using hc'⟩

/-- A caller that starts or returns takes nothing from the others. -/
theorem Ordered.caller (h : Ordered s) {callers : Nat → Caller} {flushDone : Bool}
    {returns : List (EspErr × Nat)} (hdone : flushDone = true → s.flushDone = true)
    (hwaits : ∀ n, { s with callers := callers }.Waits n → s.Waits n)
    (hreturned : ∀ r ∈ returns, r.1 = espOk → r.2 ≤ s.file.durable.length) :
    Ordered { s with callers := callers, flushDone := flushDone, returns := returns } where
  unopened := h.unopened
  order := h.order
  one := by
    refine Nat.le_trans (Nat.add_le_add_left ?_ _) h.one
    cases flushDone with
    | false => exact Nat.zero_le _
    | true => rw [hdone rfl]
  posted n hn := h.posted n (hwaits n hn)
  queued hflush n hn := h.queued hflush n (hwaits n hn)
  synced hgiven n hn := h.synced (hgiven.imp_right hdone) n (hwaits n hn)
  returned := hreturned

@[simp] theorem pending_send (m : Msg) : (s.send m).pending = s.pending ++ [m] := by
  unfold Flusher.pending Flusher.send
  cases s.writer <;> rfl

/-- The writer has no message. -/
theorem pending_of_empty (hempty : ∀ m, s.writer ≠ .handling m) :
    s.pending = ([] : List Nat).map .line ++ s.queue := by
  unfold Flusher.pending
  split
  · rename_i m hm
    exact absurd hm (hempty m)
  · rfl

/-- A line joins the queue at its end. It has a number that no line had before. -/
theorem Ordered.vprintf (h : Ordered s) :
    Ordered { s.send (.line s.nextLine) with nextLine := s.nextLine + 1 } where
  unopened := h.unopened
  order := by
    show s.file.lines ++ linesOf (s.send (.line s.nextLine)).pending = _
    rw [pending_send, linesOf_append, ← List.append_assoc, h.order, List.range_succ]
    rfl
  one := by
    have hcount : (s.send (.line s.nextLine)).pending.count .flush = s.pending.count .flush := by
      simp
    show (s.send (.line s.nextLine)).pending.count .flush + _ + _ ≤ 1
    rw [hcount]
    exact h.one
  posted n hn := Nat.le_succ_of_le (h.posted n hn)
  queued hflush n hn := by
    -- the line is behind the marker
    have hflush : .flush ∈ (s.send (.line s.nextLine)).pending := hflush
    show n ≤ (s.file.lines ++ ahead (s.send (.line s.nextLine)).pending).length
    rw [pending_send] at hflush ⊢
    have hbefore : .flush ∈ s.pending := by simpa using hflush
    rw [ahead_append hbefore]
    exact h.queued hbefore n hn
  synced := h.synced
  returned := h.returned

/-- The marker is behind every line that anybody waits for. Nobody else's marker is under way, so
    its completion is the one that is waited for. -/
theorem Ordered.post (h : Ordered s) (halone : s.completions = 0) (c : Nat) :
    Ordered ((s.send .flush).setCaller c (.waiting s.nextLine)) := by
  have hcount : s.pending.count .flush = 0 := by unfold Flusher.completions at halone; omega
  have hnone : .flush ∉ s.pending := List.count_eq_zero.mp hcount
  have hpending : ((s.send .flush).setCaller c (.waiting s.nextLine)).pending =
      s.pending ++ [.flush] := pending_send (s := s) .flush
  have hposted : ∀ n, ((s.send .flush).setCaller c (.waiting s.nextLine)).Waits n →
      n ≤ s.nextLine := by
    intro n hn
    rcases waits_setCaller hn with hthis | hother
    · exact Nat.le_of_eq (Caller.waiting.inj hthis).symm
    · exact h.posted n hother
  refine ⟨h.unopened, ?_, ?_, hposted, fun _ n hn => ?_, ?_, h.returned⟩
  · show s.file.lines ++ linesOf _ = _
    rw [hpending, linesOf_append]
    exact (congrArg _ (List.append_nil _)).trans h.order
  · unfold Flusher.completions at halone ⊢
    rw [hpending, List.count_append]
    show s.pending.count .flush + 1 + (if s.writer = .waking then 1 else 0) +
      (if s.flushDone then 1 else 0) ≤ 1
    omega
  · -- every line so far is before the marker
    show n ≤ (s.file.lines ++ ahead _).length
    rw [hpending, ahead_marker hnone, h.order, List.length_range]
    exact hposted n hn
  · -- no completion is on its way
    unfold Flusher.completions at halone
    rintro (hwaking | hdone)
    · have hwaking : s.writer = .waking := hwaking
      rw [if_pos hwaking] at halone
      omega
    · have hdone : s.flushDone = true := hdone
      rw [if_pos hdone] at halone
      omega

/-- The writer takes a message; it is still to be dealt with. -/
theorem Ordered.receive (h : Ordered s) {m : Msg} {ms : List Msg}
    (hwriter : s.writer = .receiving) (hqueue : s.queue = m :: ms) :
    Ordered { s with writer := .handling m, queue := ms } := by
  have hpending : s.pending = m :: ms := by rw [Flusher.pending, hwriter, hqueue]
  refine ⟨nofun, ?_, ?_, h.posted, ?_, ?_, h.returned⟩
  · show s.file.lines ++ linesOf (m :: ms) = _
    rw [← hpending]
    exact h.order
  · have hone := h.one
    unfold Flusher.completions at hone
    rw [hpending, hwriter] at hone
    exact hone
  · show .flush ∈ m :: ms → ∀ n, s.Waits n → n ≤ (s.file.lines ++ ahead (m :: ms)).length
    rw [← hpending]
    exact h.queued
  · intro hgiven
    exact h.synced (Or.inr (hgiven.resolve_left nofun))

/-- The writer has written the lines that it had. What is still to come is what is in the queue. -/
theorem Ordered.round (h : Ordered s) {g : ActiveFile} {ids : List Nat}
    (hpending : s.pending = ids.map .line ++ s.queue) (hwriter : s.writer ≠ .waking)
    (hextends : s.file.Extends g ids) : Ordered { s with writer := .receiving, file := g } := by
  have hdurable : s.file.durable.length ≤ g.durable.length := hextends.durable.length_le
  refine ⟨nofun, ?_, ?_, h.posted, fun hflush n hn => ?_, fun hgiven n hn => ?_,
    fun r hr hok => ?_⟩
  -- Order: the written lines and those still queued are the lines that were pending.
  · show g.lines ++ linesOf s.queue = _
    rw [hextends.lines, List.append_assoc, ← linesOf_lines, ← hpending]
    exact h.order
  -- At most one flush is under way, and the writer is not about to answer one.
  · have hone := h.one
    unfold Flusher.completions at hone
    rw [hpending, List.count_append, if_neg hwriter] at hone
    show s.queue.count .flush + 0 + (if s.flushDone then 1 else 0) ≤ 1
    omega
  -- A queued flush stands behind the lines that its caller had posted.
  · show n ≤ (g.lines ++ ahead s.queue).length
    rw [hextends.lines, List.append_assoc, ← ahead_lines, ← hpending]
    refine h.queued ?_ n hn
    rw [hpending]
    exact List.mem_append_right _ hflush
  · exact Nat.le_trans (h.synced (Or.inr (hgiven.resolve_left nofun)) n hn) hdurable
  · exact Nat.le_trans (h.returned r hr hok) hdurable

/-- All the lines before the marker are on the card. The queue is in order, so they were written
    before the marker was taken. -/
theorem Ordered.sync (h : Ordered s) {ok : Bool} (hok : s.file.sFp = none ∨ ok = true)
    (hwriter : s.writer = .handling .flush) :
    Ordered { s with writer := .waking, file := s.file.fsyncActive ok } := by
  have hpending : s.pending = .flush :: s.queue := by rw [Flusher.pending, hwriter]
  have hextends := s.file.fsyncActive_extends ok
  have hdurable := ActiveFile.durable_fsyncActive hok
  have hone : s.queue.count .flush + 1 + (if s.flushDone then 1 else 0) ≤ 1 := by
    have hone := h.one
    unfold Flusher.completions at hone
    rw [hpending, hwriter, List.count_cons_self] at hone
    exact hone
  refine ⟨nofun, ?_, ?_, h.posted, fun hflush => ?_, fun _ n hn => ?_,
    fun r hr hreturned => ?_⟩
  · show (s.file.fsyncActive ok).lines ++ linesOf s.queue = _
    rw [hextends.lines, List.append_nil, ← h.order, hpending]
    rfl
  · show s.queue.count .flush + 1 + (if s.flushDone then 1 else 0) ≤ 1
    exact hone
  · -- there is no second marker
    have hsecond : 0 < s.queue.count .flush := List.count_pos_iff.mpr hflush
    omega
  · -- the marker is first, so the lines before it are all in the file
    show n ≤ (s.file.fsyncActive ok).durable.length
    have hbefore := h.queued (hpending ▸ List.mem_cons_self) n hn
    rw [hpending] at hbefore
    rw [hdurable]
    exact hbefore.trans_eq (congrArg List.length (List.append_nil _))
  · exact Nat.le_trans (h.returned r hr hreturned) hextends.durable.length_le

/-- The completion of the marker is given. -/
theorem Ordered.wake (h : Ordered s) (hwriter : s.writer = .waking) :
    Ordered { s with writer := .receiving, flushDone := true } := by
  have hpending : s.pending = s.queue := by rw [Flusher.pending, hwriter]
  refine ⟨nofun, ?_, ?_, h.posted, ?_, fun _ => h.synced (Or.inl hwriter), h.returned⟩
  · have horder := h.order
    rw [hpending] at horder
    exact horder
  · have hone := h.one
    unfold Flusher.completions at hone
    rw [hpending, if_pos hwriter] at hone
    show s.queue.count .flush + 0 + 1 ≤ 1
    omega
  · have hqueued := h.queued
    rw [hpending] at hqueued
    exact hqueued

/-- Nobody waits for more after a caller has gone on to where it does not wait. -/
theorem waits_of_setCaller {x : Caller} (hx : ∀ n, x ≠ .waiting n) (n : Nat)
    (hwaits : (s.setCaller c x).Waits n) : s.Waits n :=
  (waits_setCaller hwaits).resolve_left (hx n)

/-! ### The steps that look at where a task is -/

theorem complete_cases (hstep : flusher.step s (.complete c) = some t) :
    ∃ n, s.callers c = .waiting n ∧ s.flushDone = true ∧
      t = { s.returned c espOk n with flushDone := false } := by
  cases hcaller : s.callers c with
  | idle | cleared => simp [flusher, hcaller] at hstep
  | waiting n =>
    simp only [flusher, hcaller] at hstep
    obtain ⟨hdone, hstep⟩ := Option.ite_none_right_eq_some.mp hstep
    exact ⟨n, rfl, hdone, (Option.some.inj hstep).symm⟩

theorem waitTimeout_cases (hstep : flusher.step s (.waitTimeout c) = some t) :
    ∃ n, t = s.returned c espErrTimeout n := by
  cases hcaller : s.callers c with
  | idle | cleared => simp [flusher, hcaller] at hstep
  | waiting n =>
    simp only [flusher, hcaller] at hstep
    obtain ⟨-, hstep⟩ := Option.ite_none_left_eq_some.mp hstep
    exact ⟨n, (Option.some.inj hstep).symm⟩

theorem receive_cases (hstep : flusher.step s .receive = some t) :
    ∃ m ms, s.writer = .receiving ∧ s.queue = m :: ms ∧
      t = { s with writer := .handling m, queue := ms } := by
  cases hwriter : s.writer with
  | opening | handling | waking => simp [flusher, hwriter] at hstep
  | receiving =>
    cases hqueue : s.queue with
    | nil => simp [flusher, hwriter, hqueue] at hstep
    | cons m ms =>
      simp only [flusher, hwriter, hqueue] at hstep
      exact ⟨m, ms, rfl, rfl, (Option.some.inj hstep).symm⟩

theorem write_cases {r : Round} (hstep : flusher.step s (.write r) = some t) :
    ∃ id, s.writer = .handling (.line id) ∧
      t = { s with writer := .receiving, file := s.file.round (some id) r } := by
  cases hwriter : s.writer with
  | opening | receiving | waking => simp [flusher, hwriter] at hstep
  | handling m =>
    cases m with
    | flush => simp [flusher, hwriter] at hstep
    | line id =>
      simp only [flusher, hwriter] at hstep
      exact ⟨id, rfl, (Option.some.inj hstep).symm⟩

theorem sync_cases {ok : Bool} (hstep : flusher.step s (.sync ok) = some t) :
    s.writer = .handling .flush ∧
      t = { s with writer := .waking, file := s.file.fsyncActive ok } := by
  cases hwriter : s.writer with
  | opening | receiving | waking => simp [flusher, hwriter] at hstep
  | handling m =>
    cases m with
    | line id => simp [flusher, hwriter] at hstep
    | flush =>
      simp only [flusher, hwriter] at hstep
      exact ⟨rfl, (Option.some.inj hstep).symm⟩

/-- Every step: a line joins the queue at its end, the caller of a step waits for nothing that is
    not behind the marker, and the writer takes the messages in order. -/
theorem ordered_step (halone : Alone s a) (hstep : flusher.step s a = some t) (h : Ordered s) :
    Ordered t := by
  cases a with
  | vprintf =>
    by_cases hroom : s.room = true
    · simp only [flusher, hroom, if_true, Option.some.injEq] at hstep
      exact hstep ▸ h.vprintf
    · simp only [flusher, hroom] at hstep
      cases hstep
      exact ⟨h.unopened, h.order, h.one, h.posted, h.queued, h.synced, h.returned⟩
  | clear c =>
    obtain ⟨-, hstep⟩ := Option.ite_none_right_eq_some.mp hstep
    cases hstep
    exact h.caller nofun (waits_of_setCaller nofun) h.returned
  | post c =>
    obtain ⟨-, hstep⟩ := Option.ite_none_right_eq_some.mp hstep
    cases hstep
    exact h.post halone c
  | postTimeout c =>
    obtain ⟨-, hstep⟩ := Option.ite_none_right_eq_some.mp hstep
    cases hstep
    exact h.caller id (waits_of_setCaller nofun) (List.forall_mem_cons.mpr ⟨nofun, h.returned⟩)
  | complete c =>
    obtain ⟨n, hcaller, hdone, rfl⟩ := complete_cases hstep
    exact h.caller nofun (waits_of_setCaller nofun)
      (List.forall_mem_cons.mpr ⟨fun _ => h.synced (Or.inr hdone) n ⟨c, hcaller⟩, h.returned⟩)
  | waitTimeout c =>
    obtain ⟨n, rfl⟩ := waitTimeout_cases hstep
    exact h.caller id (waits_of_setCaller nofun) (List.forall_mem_cons.mpr ⟨nofun, h.returned⟩)
  -- what is pending stays pending
  | firstOpen o =>
    obtain ⟨hwriter, hstep⟩ := Option.ite_none_right_eq_some.mp hstep
    cases hstep
    have hextends : s.file.Extends (s.file.openNewFile o) [] :=
      ActiveFile.openNewFile_extends (Or.inl (h.unopened hwriter))
    exact h.round (pending_of_empty (by simp [hwriter])) (by simp [hwriter]) hextends
  | receive =>
    obtain ⟨m, ms, hwriter, hqueue, rfl⟩ := receive_cases hstep
    exact h.receive hwriter hqueue
  | tick r =>
    obtain ⟨⟨hwriter, -⟩, hstep⟩ := Option.ite_none_right_eq_some.mp hstep
    cases hstep
    have hextends : s.file.Extends (s.file.round none r) [] := ActiveFile.round_extends nofun
    have hround := h.round (pending_of_empty (by simp [hwriter])) (by simp [hwriter]) hextends
    rwa [← hwriter] at hround
  -- the line that was received is the first of those that are pending
  | write r =>
    obtain ⟨id, hwriter, rfl⟩ := write_cases hstep
    have hpending : s.pending = [id].map .line ++ s.queue := by
      rw [Flusher.pending, hwriter]
      rfl
    have hextends : s.file.Extends (s.file.round (some id) r) [id] :=
      ActiveFile.round_extends fun _ => halone
    exact h.round hpending (by simp [hwriter]) hextends
  | sync ok =>
    obtain ⟨hwriter, rfl⟩ := sync_cases hstep
    exact h.sync halone hwriter
  | wake =>
    obtain ⟨hwriter, hstep⟩ := Option.ite_none_right_eq_some.mp hstep
    cases hstep
    exact h.wake hwriter

theorem ordered_writerStarted : Ordered writerStarted where
  unopened _ := rfl
  order := rfl
  one := Nat.zero_le _
  posted := by
    rintro n ⟨c, hc⟩
    cases hc
  queued := nofun
  synced := by
    rintro (hwaking | hdone)
    · cases hwaking
    · cases hdone
  returned := nofun

/-- **A flush that succeeds has saved the lines before it.** In every run in which each marker is
    posted while no other one is on its way, each line gets into the file and the `fsync` for a
    marker succeeds, the calls that return `ESP_OK` have all the lines that were queued before
    their marker on the card. -/
theorem flush_truthful (steps : List FlushStep) (s : Flusher)
    (halone : flusher.Meets Alone writerStarted steps)
    (hrun : flusher.run writerStarted steps = some s) : Truthful s := by
  have hordered : Ordered s :=
    Machine.invariant_of_meets (I := Ordered) (fun _ _ _ hmet hstep h => ordered_step hmet hstep h)
      halone hrun ordered_writerStarted
  exact hordered.truthful

/-! ### A flush, and one that comes too early -/

/-- A round in which all goes well, and nothing else is to be done. -/
def plainRound : Round := ⟨⟨true, true⟩, true, none, none⟩

/-- Two lines, and a flush. -/
def oneFlush : List FlushStep :=
  [.vprintf, .firstOpen ⟨true, true⟩, .vprintf, .clear 0, .post 0, .vprintf, .receive,
    .write plainRound, .receive, .write plainRound, .receive, .sync true, .wake, .complete 0]

/-- The flush returns `ESP_OK` with the two lines on the card. -/
theorem oneFlush_truthful :
    ∃ s, flusher.run writerStarted oneFlush = some s ∧ s.returns = [(espOk, 2)] ∧
      s.file.durable = [0, 1] ∧ Truthful s := by
  refine ⟨_, rfl, rfl, rfl, ?_⟩
  exact flush_truthful oneFlush _ (by decide) rfl

/-- The first call times out before the writer comes to its marker, and then there is a second
    call. -/
def secondFlush : List FlushStep :=
  [.firstOpen ⟨true, true⟩, .clear 0, .post 0, .waitTimeout 0, .clear 1, .vprintf, .post 1,
    .receive, .sync true, .wake, .complete 1]

/-- The marker of the first call completes the second one, whose line is still in the queue. -/
theorem late_completion :
    ¬ ∀ (steps : List FlushStep) (s : Flusher),
      flusher.run writerStarted steps = some s → Truthful s := by
  intro h
  have hsaved := h secondFlush _ rfl (espOk, 1) (by decide) rfl 0 (by decide)
  revert hsaved
  decide

end SubnetRouter.FlightRecorder
