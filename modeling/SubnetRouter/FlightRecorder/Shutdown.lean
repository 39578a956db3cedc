import SubnetRouter.FlightRecorder.Flush

namespace SubnetRouter.FlightRecorder

open Lib

/-!
# Starting and stopping the recorder (`start_writer`, `stop_writer`)

`sdlog_disable` sends the writer task a poison pill, waits for at most a second until the task
has left, and deletes the queue and the line buffers; `sdlog_enable` makes them again, and a
task if there is none.

* `Lifecycle` — the variables that the tasks share, and where each task is.
* `lifecycle` — the machine of `sdlog_enable`, `sdlog_disable`, the calls of `sdlog_vprintf`,
  the file reads and the writer task.
* `DeletesUnused`, `Served` — what goes is not in use, and an enabled recorder has a writer.
* `InTime` — the wait of `stop_writer` is long enough.
* `Others` — what a step of the other tasks leaves as it was, while the holder of
  `s_state_mutex` stands still.
* `shutdown_safe` — every run in which the wait is long enough.
-/

/-! ### The tasks -/

/-- A message in the queue: a line, or the poison pill. -/
inductive Entry where
  | line
  | poison
deriving DecidableEq, Repr

/-- A queue: which one it is, and what is in it. -/
structure LogQueue where
  id : Nat
  entries : List Entry
deriving DecidableEq, Repr

/-- What the writer takes `s_file_mutex` for: to open its first file, in its loop, and to close
    the file in the end. -/
inductive Job where
  | firstFile
  | round
  | drain
deriving DecidableEq, Repr

/-- Where `writer_task` is: before `xQueueReceive`, in it, before or after it takes the file
    mutex, or before it clears `s_writer_task`. -/
inductive WriterAt where
  | top
  | receiving (queue : Nat)
  | locking (job : Job)
  | holding (job : Job)
  | leaving
deriving DecidableEq, Repr

/-- The writer has not received the poison pill, so it comes to the queue again. -/
def WriterAt.usesQueue : WriterAt → Bool
  | top | receiving _ | locking .firstFile | locking .round | holding .firstFile
  | holding .round => true
  | locking .drain | holding .drain | leaving => false

/-- Where a call of `sdlog_vprintf` is that has found `s_enabled` set: before it looks at
    `s_queue`, before it takes the format mutex, with the mutex, before `xQueueSend`, or before
    it gives the mutex back. -/
inductive ProducerAt where
  | enabledSeen
  | checked
  | formatting
  | sending
  | giving
deriving DecidableEq, Repr

/-- Where the holder of `s_state_mutex` is: nowhere, at a statement of `start_writer`, or at one
    of `stop_writer`. -/
inductive ControlAt where
  | free
  | createQueue
  | createFmtMutex
  | createRawbuf
  | createPktbuf
  | createTask
  | look
  | post
  | polling (i : Nat)
  | deleteQueue
  | freeRawbuf
  | freePktbuf
deriving DecidableEq, Repr

/-- A holder of the file mutex. -/
inductive FileUser where
  | writer
  | reader
deriving DecidableEq, Repr

/-- The shared variables; `none` and `false` stand for `NULL`.  `s_fmt_mutex` is held or free, and
    `s_writer_task` is the task itself, which clears the handle as the last thing that it does. -/
structure Lifecycle where
  sPresent : Bool
  sEnabled : Bool
  control : ControlAt
  sQueue : Option LogQueue
  nextQueue : Nat
  sFmtMutex : Option Bool
  sRawbuf : Bool
  sPktbuf : Bool
  sWriterTask : Option WriterAt
  sFileMutex : Option FileUser
  producers : List ProducerAt
deriving DecidableEq, Repr

/-- What may happen.  `ok` tells whether a creation succeeds, or whether `xQueueSend` does;
    `complete` tells whether the text ends a line that is to be recorded. -/
inductive LifeStep where
  | enable
  | disable
  | proceed (ok : Bool)
  | vprintf
  | producer (i : Nat) (complete : Bool)
  | writer
  | readStart
  | readEnd
deriving DecidableEq, Repr

/-- A step of the holder of `s_state_mutex`. -/
def LifeStep.holds : LifeStep → Bool
  | enable | disable | proceed _ => true
  | vprintf | producer _ _ | writer | readStart | readEnd => false

namespace Lifecycle

/-- `xQueueSend` finds room. -/
def room (s : Lifecycle) : Bool := s.sQueue.any fun q => q.entries.length < sdlogQueueDepth

/-- `xQueueSend` where there is room. -/
def send (s : Lifecycle) (e : Entry) : Lifecycle :=
  { s with sQueue := s.sQueue.map fun q => { q with entries := q.entries ++ [e] } }

/-- `start_writer` and `stop_writer`, statement by statement; after the last one the mutex is
    free. -/
def proceed (s : Lifecycle) (ok : Bool) : Option Lifecycle :=
  match s.control with
  | .free => none
  | .createQueue => some { s with
      control := .createFmtMutex
      sQueue := if s.sQueue = none ∧ ok then some ⟨s.nextQueue, []⟩ else s.sQueue
      nextQueue := s.nextQueue + 1 }
  | .createFmtMutex => some { s with
      control := .createRawbuf
      sFmtMutex := if s.sFmtMutex = none ∧ ok then some false else s.sFmtMutex }
  | .createRawbuf => some { s with control := .createPktbuf, sRawbuf := s.sRawbuf || ok }
  | .createPktbuf => some { s with control := .createTask, sPktbuf := s.sPktbuf || ok }
  | .createTask => some { s with
      control := .free
      sWriterTask :=
        if s.sWriterTask = none ∧ s.sQueue ≠ none ∧ ok then some (.locking .firstFile)
        else s.sWriterTask }
  | .look => some { s with
      control := if s.sQueue ≠ none ∧ s.sWriterTask ≠ none then .post else .deleteQueue }
  | .post =>
    if s.room = ok then some { if ok then s.send .poison else s with control := .polling 0 }
    else none
  | .polling i => some { s with
      control := if i < 40 ∧ s.sWriterTask ≠ none then .polling (i + 1) else .deleteQueue }
  | .deleteQueue => some { s with control := .freeRawbuf, sQueue := none }
  | .freeRawbuf => some { s with control := .freePktbuf, sRawbuf := false }
  | .freePktbuf => some { s with control := .free, sPktbuf := false }

/-- The call `i` of `sdlog_vprintf` goes on. It cannot where it would use what is not there. The
    flag, the queue and the mutex are looked at one after the other, with the other tasks between
    them. -/
def producerStep (s : Lifecycle) (i : Nat) (complete : Bool) : Option Lifecycle :=
  match s.producers[i]? with
  | none => none
  | some .enabledSeen =>
    if s.sQueue ≠ none then some { s with producers := s.producers.set i .checked }
    else some { s with producers := s.producers.eraseIdx i }
  | some .checked => match s.sFmtMutex with
    | none => none
    | some true => some { s with producers := s.producers.eraseIdx i }
    | some false => some { s with
        sFmtMutex := some true
        producers := s.producers.set i .formatting }
  | some .formatting =>
    let next := if s.sRawbuf ∧ s.sPktbuf ∧ complete then .sending else .giving
    some { s with producers := s.producers.set i next }
  | some .sending =>
    if s.sQueue = none then none
    else some { if s.room then s.send .line else s with producers := s.producers.set i .giving }
  | some .giving => some { s with
      sFmtMutex := some false
      producers := s.producers.eraseIdx i }

/-- The writer task goes on. It cannot where it would use what is not there. While it waits for a
    message it holds the queue it waits on, which may be deleted meanwhile. -/
def writerStep (s : Lifecycle) : Option Lifecycle :=
  match s.sWriterTask with
  | none => none
  | some .top => s.sQueue.map fun q => { s with sWriterTask := some (.receiving q.id) }
  | some (.receiving id) => match s.sQueue with
    | none => none
    | some q =>
      if q.id ≠ id then none
      else match q.entries with
        | [] => some { s with sWriterTask := some (.locking .round) }
        | .line :: es => some { s with
            sQueue := some ⟨id, es⟩
            sWriterTask := some (.locking .round) }
        | .poison :: es => some { s with
            sQueue := some ⟨id, es⟩
            sWriterTask := some (.locking .drain) }
  | some (.locking job) =>
    if s.sFileMutex = none then
      some { s with sFileMutex := some .writer, sWriterTask := some (.holding job) }
    else none
  | some (.holding job) => some { s with
      sFileMutex := none
      sWriterTask := some (if job = .drain then .leaving else .top) }
  | some .leaving => some { s with sWriterTask := none }

end Lifecycle

/-- The machine of all the tasks: the one that starts and stops the recorder, the callers of
    `sdlog_vprintf`, the writer, and the readers of the files. -/
def lifecycle : Machine Lifecycle LifeStep where
  step s
    | .enable =>
      if s.control = .free then
        if s.sPresent ∧ s.sEnabled = false then
          some { s with sEnabled := true, control := .createQueue }
        else some s
      else none
    | .disable =>
      if s.control = .free then some { s with sEnabled := false, control := .look } else none
    | .proceed ok => s.proceed ok
    | .vprintf =>
      if s.sEnabled then some { s with producers := s.producers ++ [.enabledSeen] } else some s
    | .producer i complete => s.producerStep i complete
    | .writer => s.writerStep
    | .readStart => if s.sFileMutex = none then some { s with sFileMutex := some .reader } else none
    | .readEnd => if s.sFileMutex = some .reader then some { s with sFileMutex := none } else none

/-- `sdlog_init`, before `start_writer` if the recorder is to run. Nothing has been made yet. -/
def sdlogInit (present enabled : Bool) : Lifecycle where
  sPresent := present
  sEnabled := present && enabled
  control := if present && enabled then .createQueue else .free
  sQueue := none
  nextQueue := 0
  sFmtMutex := none
  sRawbuf := false
  sPktbuf := false
  sWriterTask := none
  sFileMutex := none
  producers := []

/-! ### What is to hold -/

/-- The writer comes to the queue again. -/
def Lifecycle.writerUses (s : Lifecycle) : Bool := s.sWriterTask.any WriterAt.usesQueue

/-- The queue goes when neither the writer nor a call of `sdlog_vprintf` can still use it, and
    the line buffers when no such call can. -/
def DeletesUnused (s : Lifecycle) : LifeStep → Prop
  | .proceed _ => match s.control with
    | .deleteQueue => s.sQueue ≠ none → s.writerUses = false ∧ s.producers = []
    | .freeRawbuf => s.sRawbuf = true → s.producers = []
    | .freePktbuf => s.sPktbuf = true → s.producers = []
    | _ => True
  | _ => True

/-- There is a writer in its loop, at the queue that there is, with no pill for it. -/
def Lifecycle.Consuming (s : Lifecycle) : Prop :=
  ∃ q w, s.sQueue = some q ∧ .poison ∉ q.entries ∧ s.sWriterTask = some w ∧
    w.usesQueue = true ∧ ∀ id, w = .receiving id → id = q.id

/-- After `sdlog_enable`, and until the next `sdlog_disable`, the queue has its writer. -/
def Lifecycle.Served (s : Lifecycle) : Prop :=
  s.sEnabled = true → s.control = .free → s.Consuming

/-- The wait of `stop_writer` ends when the writer has received the pill and every call of
    `sdlog_vprintf` that had found the recorder enabled has returned; and `start_writer` makes
    its queue and its task, for which the handle of the one before is cleared by then. -/
def InTime (s : Lifecycle) : LifeStep → Prop
  | .proceed ok => match s.control with
    | .createQueue => ok = true
    | .createTask => ok = true ∧ s.sWriterTask = none
    | .polling i =>
      i < 40 ∧ s.sWriterTask ≠ none ∨ s.writerUses = false ∧ s.producers = []
    | _ => True
  | _ => True

instance (s : Lifecycle) (a : LifeStep) : Decidable (DeletesUnused s a) := by
  unfold DeletesUnused
  split
  · split <;> infer_instance
  · infer_instance

instance (s : Lifecycle) (a : LifeStep) : Decidable (InTime s a) := by
  unfold InTime
  split
  · split <;> infer_instance
  · infer_instance

/-! ### What the other tasks do -/

namespace Lifecycle

/-- Neither the writer nor a call of `sdlog_vprintf` can use the queue. -/
structure Quiet (s : Lifecycle) : Prop where
  writer : s.writerUses = false
  producers : s.producers = []

/-- There is a queue with no pill in it. -/
def Fresh (s : Lifecycle) : Prop := ∃ q, s.sQueue = some q ∧ .poison ∉ q.entries

/-- What stays as it was while the holder of `s_state_mutex` stands still. Every step of a producer,
    the writer or a reader keeps to it. -/
structure Others (s t : Lifecycle) : Prop where
  control : t.control = s.control
  enabled : t.sEnabled = s.sEnabled
  quiet : s.sEnabled = false → s.Quiet → t.Quiet
  unused : s.writerUses = false → t.writerUses = false
  queue : s.sQueue = none → t.sQueue = none
  fresh : s.writerUses = false → s.Fresh → t.Fresh
  consuming : s.Consuming → t.Consuming

variable {s t : Lifecycle} {a : LifeStep}

/-- A change that does not touch the queue, the writer and the calls of `sdlog_vprintf`. -/
theorem Others.of_same (hcontrol : t.control = s.control) (henabled : t.sEnabled = s.sEnabled)
    (hqueue : t.sQueue = s.sQueue) (hwriter : t.sWriterTask = s.sWriterTask)
    (hproducers : s.sEnabled = false → s.producers = [] → t.producers = []) : Others s t := by
  have huses : t.writerUses = s.writerUses := congrArg (Option.any _) hwriter
  refine ⟨hcontrol, henabled, fun hoff h => ⟨huses.trans h.writer, hproducers hoff h.producers⟩,
    huses.trans, hqueue.trans, fun _ h => ?_, fun h => ?_⟩
  · unfold Fresh
    rw [hqueue]
    exact h
  · unfold Consuming
    rw [hqueue, hwriter]
    exact h

/-- A line is put at the end of the queue. -/
theorem Others.send (s : Lifecycle) : Others s (s.send .line) where
  control := rfl
  enabled := rfl
  quiet _ h := ⟨h.writer, h.producers⟩
  unused := id
  queue hnone := by
    show s.sQueue.map _ = none
    rw [hnone]
    rfl
  fresh := by
    -- A line in front of no pill is no pill, so the queue stays fresh, or is still consumed.
    rintro - ⟨q, hq, hpoison⟩
    refine ⟨{ q with entries := q.entries ++ [.line] }, ?_, by simpa using hpoison⟩
    show s.sQueue.map _ = _
    rw [hq]
    rfl
  consuming := by
    rintro ⟨q, w, hq, hpoison, hw, huses, hreceiving⟩
    refine ⟨{ q with entries := q.entries ++ [.line] }, w, ?_, by simpa using hpoison, hw, huses,
      hreceiving⟩
    show s.sQueue.map _ = _
    rw [hq]
    rfl

theorem Others.trans {u : Lifecycle} (hst : Others s t) (htu : Others t u) : Others s u where
  control := htu.control.trans hst.control
  enabled := htu.enabled.trans hst.enabled
  quiet hoff h := htu.quiet (hst.enabled.trans hoff) (hst.quiet hoff h)
  unused h := htu.unused (hst.unused h)
  queue h := htu.queue (hst.queue h)
  fresh hunused h := htu.fresh (hst.unused hunused) (hst.fresh hunused h)
  consuming h := htu.consuming (hst.consuming h)

/-- A call of `sdlog_vprintf` puts in lines only. Neither the settings nor the writer are touched by
    it. -/
theorem others_producerStep {i : Nat} {complete : Bool}
    (hstep : s.producerStep i complete = some t) : Others s t := by
  unfold producerStep at hstep
  -- The five places of `sdlog_vprintf`; only the last one touches the queue.
  cases hcall : s.producers[i]? with
  | none =>
    rw [hcall] at hstep
    cases hstep
  | some p =>
    have hproducers : ∀ {ps : List ProducerAt},
        s.sEnabled = false → s.producers = [] → ps = [] := by
      intro ps _ hnone
      simp [hnone] at hcall
    rw [hcall] at hstep
    cases p with
    | enabledSeen | checked =>
      dsimp only at hstep
      split at hstep <;> cases hstep <;> exact .of_same rfl rfl rfl rfl hproducers
    | formatting | giving =>
      cases hstep
      exact .of_same rfl rfl rfl rfl hproducers
    | sending =>
      obtain ⟨-, hstep⟩ := Option.ite_none_left_eq_some.mp hstep
      cases hstep
      -- `xQueueSend` does not wait: a full queue drops the line.
      by_cases hroom : s.room = true
      · rw [if_pos hroom]
        exact (Others.send s).trans (.of_same rfl rfl rfl rfl hproducers)
      · rw [if_neg hroom]
        exact .of_same rfl rfl rfl rfl hproducers

/-- What the writer does when it has received its pill. -/
theorem Others.of_leaving (hcontrol : t.control = s.control) (henabled : t.sEnabled = s.sEnabled)
    (hqueue : t.sQueue = s.sQueue) (hproducers : t.producers = s.producers)
    (hbefore : s.writerUses = false) (hafter : t.writerUses = false) : Others s t := by
  refine ⟨hcontrol, henabled, fun _ h => ⟨hafter, hproducers.trans h.producers⟩, fun _ => hafter,
    hqueue.trans, fun _ h => ?_, ?_⟩
  · unfold Fresh
    rw [hqueue]
    exact h
  · rintro ⟨q, w, -, -, hw, huses, -⟩
    rw [writerUses, hw, Option.any_some, huses] at hbefore
    cases hbefore

/-- What the writer does in its loop. -/
theorem Others.of_loop (hcontrol : t.control = s.control) (henabled : t.sEnabled = s.sEnabled)
    (hqueue : s.sQueue = none → t.sQueue = none) (hbefore : s.writerUses = true)
    (hconsuming : s.Consuming → t.Consuming) : Others s t := by
  refine ⟨hcontrol, henabled, fun _ h => ?_, fun h => ?_, hqueue, fun h => ?_, hconsuming⟩
  · rw [h.writer] at hbefore
    cases hbefore
  · rw [h] at hbefore
    cases hbefore
  · rw [h] at hbefore
    cases hbefore

/-- The writer goes on in its loop, not at the queue. -/
theorem Consuming.go {w : WriterAt} (h : s.Consuming) (hqueue : t.sQueue = s.sQueue)
    (hw : t.sWriterTask = some w) (huses : w.usesQueue = true) (haway : ∀ id, w ≠ .receiving id) :
    t.Consuming := by
  obtain ⟨q, -, hq, hpoison, -⟩ := h
  exact ⟨q, w, hqueue.trans hq, hpoison, hw, huses, fun id hid => absurd hid (haway id)⟩

/-- `xQueueReceive` returns: the writer goes on in its loop unless it gets a pill. Taking a message
    makes the queue shorter and nothing else. -/
theorem others_receiving {id : Nat} (hw : s.sWriterTask = some (.receiving id))
    (hstep : s.writerStep = some t) : Others s t := by
  have huses : s.writerUses = true := by
    rw [writerUses, hw]
    rfl
  unfold writerStep at hstep
  cases hq : s.sQueue with
  | none => simp [hw, hq] at hstep
  | some q =>
    simp only [hw, hq] at hstep
    obtain ⟨-, hstep⟩ := Option.ite_none_left_eq_some.mp hstep
    have hthere : ∀ {q' : Option LogQueue}, s.sQueue = none → q' = none := by
      intro q' hnone
      rw [hq] at hnone
      cases hnone
    cases hentries : q.entries with
    | nil =>
      simp only [hentries] at hstep
      cases hstep
      exact .of_loop rfl rfl hthere huses fun h => h.go hq.symm rfl rfl nofun
    | cons e es =>
      simp only [hentries] at hstep
      have hpoison : s.Consuming → .poison ∉ e :: es := by
        rintro ⟨q', w, hq', hpoison, -⟩
        rw [hq] at hq'
        cases hq'
        exact hentries ▸ hpoison
      cases e with
      | line =>
        cases hstep
        refine .of_loop rfl rfl hthere huses fun h => ?_
        have hlater : .poison ∉ es := fun hlater => hpoison h (List.mem_cons_of_mem _ hlater)
        exact ⟨⟨id, es⟩, _, rfl, hlater, rfl, rfl, nofun⟩
      | poison =>
        -- with a pill in the queue the writer was not consuming
        cases hstep
        exact .of_loop rfl rfl hthere huses fun h => absurd List.mem_cons_self (hpoison h)

/-- The writer stays in its loop until it receives a pill, and comes no more to the queue then. One
    case for each place where it may be. -/
theorem others_writerStep (hstep : s.writerStep = some t) : Others s t := by
  have hwriter := hstep
  unfold writerStep at hstep
  -- One case for each place of the writer: the loop keeps it consuming, the drain leaves.
  cases hw : s.sWriterTask with
  | none =>
    rw [hw] at hstep
    cases hstep
  | some w =>
    have huses : s.writerUses = w.usesQueue := by rw [writerUses, hw, Option.any_some]
    rw [hw] at hstep
    cases w with
    | top =>
      obtain ⟨q, hq, rfl⟩ := Option.map_eq_some_iff.mp hstep
      refine .of_loop rfl rfl id huses ?_
      rintro ⟨q', w, hq', hpoison, -⟩
      rw [hq] at hq'
      cases hq'
      refine ⟨q, .receiving q.id, hq, hpoison, rfl, rfl, fun id hid => ?_⟩
      -- It waits on the queue that there is, whose identity it has read.
      exact (WriterAt.receiving.inj hid).symm
    | receiving id => exact others_receiving hw hwriter
    | locking job =>
      obtain ⟨-, hstep⟩ := Option.ite_none_right_eq_some.mp hstep
      cases hstep
      cases job with
      | firstFile | round => exact .of_loop rfl rfl id huses fun h => h.go rfl rfl rfl nofun
      -- A drain is behind the pill, and the writer comes to the queue no more.
      | drain => exact .of_leaving rfl rfl rfl rfl huses rfl
    | holding job =>
      cases hstep
      cases job with
      | firstFile | round => exact .of_loop rfl rfl id huses fun h => h.go rfl rfl rfl nofun
      | drain => exact .of_leaving rfl rfl rfl rfl huses rfl
    | leaving =>
      cases hstep
      exact .of_leaving rfl rfl rfl rfl huses rfl

/-- Every step but those of the holder of `s_state_mutex`. -/
theorem others_step (ha : a.holds = false) (hstep : lifecycle.step s a = some t) :
    Others s t := by
  cases a with
  | enable | disable | proceed => cases ha
  | vprintf =>
    by_cases hon : s.sEnabled = true
    · obtain rfl := Option.some.inj ((if_pos hon).symm.trans hstep)
      refine .of_same rfl rfl rfl rfl fun hoff _ => ?_
      rw [hon] at hoff
      cases hoff
    · obtain rfl := Option.some.inj ((if_neg hon).symm.trans hstep)
      exact .of_same rfl rfl rfl rfl fun _ hnone => hnone
  | producer i complete => exact others_producerStep hstep
  | writer => exact others_writerStep hstep
  | readStart | readEnd =>
    obtain ⟨-, hstep⟩ := Option.ite_none_right_eq_some.mp hstep
    cases hstep
    exact .of_same rfl rfl rfl rfl fun _ hnone => hnone

/-! ### The holder of `s_state_mutex` -/

/-- The recorder is off, and there is no queue. -/
structure Idle (s : Lifecycle) : Prop where
  quiet : s.Quiet
  queue : s.sQueue = none

/-- What holds at each statement. The cases are those of `control`: what has been made, and who may
    still use it. -/
def Sound (s : Lifecycle) : Prop :=
  match s.control with
  | .free => if s.sEnabled then s.Consuming else s.Idle
  | .createQueue => s.sEnabled = true ∧ s.writerUses = false ∧ s.sQueue = none
  | .createFmtMutex | .createRawbuf | .createPktbuf | .createTask =>
    s.sEnabled = true ∧ s.writerUses = false ∧ s.Fresh
  | .look => s.sEnabled = false ∧ (s.Consuming ∨ s.Idle)
  | .post | .polling _ => s.sEnabled = false
  | .deleteQueue => s.sEnabled = false ∧ s.Quiet
  | .freeRawbuf | .freePktbuf => s.sEnabled = false ∧ s.Idle

theorem Quiet.of_same (h : s.Quiet) (hwriter : t.sWriterTask = s.sWriterTask)
    (hproducers : t.producers = s.producers) : t.Quiet :=
  ⟨(congrArg (Option.any _) hwriter).trans h.writer, hproducers.trans h.producers⟩

theorem Idle.others (h : s.Idle) (hoff : s.sEnabled = false) (hothers : Others s t) : t.Idle :=
  ⟨hothers.quiet hoff h.quiet, hothers.queue h.queue⟩

/-- What holds at a statement is left so by the other tasks. -/
theorem Sound.others (h : s.Sound) (hothers : Others s t) : t.Sound := by
  unfold Sound at h ⊢
  rw [hothers.control, hothers.enabled]
  -- the other tasks leave the holder where it is
  generalize s.control = control at h ⊢
  cases control with
  | free =>
    dsimp only at h ⊢
    by_cases hon : s.sEnabled = true
    · rw [if_pos hon] at h ⊢
      exact hothers.consuming h
    · rw [if_neg hon] at h ⊢
      exact h.others (by simpa using hon) hothers
  | createQueue => exact ⟨h.1, hothers.unused h.2.1, hothers.queue h.2.2⟩
  | createFmtMutex | createRawbuf | createPktbuf | createTask =>
    exact ⟨h.1, hothers.unused h.2.1, hothers.fresh h.2.1 h.2.2⟩
  | look => exact ⟨h.1, h.2.imp hothers.consuming fun hidle => hidle.others h.1 hothers⟩
  | post | polling => exact h
  | deleteQueue => exact ⟨h.1, hothers.quiet h.1 h.2⟩
  | freeRawbuf | freePktbuf => exact ⟨h.1, h.2.others h.1 hothers⟩

/-- The next statement. Making and deleting an object is sound because of what the statement before
    it has left; only the end of the wait needs the condition. -/
theorem Sound.proceed {ok : Bool} (h : s.Sound) (hintime : InTime s (.proceed ok))
    (hstep : s.proceed ok = some t) : t.Sound := by
  unfold Lifecycle.proceed at hstep
  unfold InTime at hintime
  unfold Sound at h
  generalize s.control = control at hstep hintime h
  cases control with
  | free => cases hstep
  | createQueue =>
    cases hstep
    refine ⟨h.1, h.2.1, ⟨s.nextQueue, []⟩, ?_, nofun⟩
    exact if_pos ⟨h.2.2, hintime⟩
  | createFmtMutex | createRawbuf | createPktbuf =>
    cases hstep
    exact h
  -- the new writer opens a file first, and finds the queue as it is
  | createTask =>
    obtain ⟨hon, -, q, hq, hpoison⟩ := h
    obtain ⟨hok, hw⟩ := hintime
    cases hstep
    have hconsuming : Consuming { s with
        control := .free
        sWriterTask :=
          if s.sWriterTask = none ∧ s.sQueue ≠ none ∧ ok then some (.locking .firstFile)
          else s.sWriterTask } := by
      refine ⟨q, .locking .firstFile, hq, hpoison, ?_, rfl, nofun⟩
      exact if_pos ⟨hw, by simp [hq], hok⟩
    unfold Sound
    simpa [hon] using hconsuming
  -- without a writer there is nobody to wait for
  | look =>
    obtain ⟨hoff, hbefore⟩ := h
    cases hstep
    show Sound { s with control := if _ then _ else _ }
    by_cases hthere : s.sQueue ≠ none ∧ s.sWriterTask ≠ none
    · rw [if_pos hthere]
      exact hoff
    · rw [if_neg hthere]
      rcases hbefore with ⟨q, w, hq, -, hw, -⟩ | hidle
      · exact absurd ⟨by simp [hq], by simp [hw]⟩ hthere
      · exact ⟨hoff, hidle.quiet.of_same rfl rfl⟩
  | post =>
    obtain ⟨-, hstep⟩ := Option.ite_none_right_eq_some.mp hstep
    cases hstep
    show (if ok = true then s.send .poison else s).sEnabled = false
    cases ok <;> exact h
  -- after the last poll the queue goes, so the writer has to be gone by then
  | polling i =>
    cases hstep
    show Sound { s with control := if _ then _ else _ }
    by_cases hmore : i < 40 ∧ s.sWriterTask ≠ none
    · rw [if_pos hmore]
      exact h
    · rw [if_neg hmore]
      obtain ⟨hunused, hnone⟩ := hintime.resolve_left hmore
      exact ⟨h, hunused, hnone⟩
  | deleteQueue =>
    cases hstep
    exact ⟨h.1, h.2.of_same rfl rfl, rfl⟩
  | freeRawbuf =>
    cases hstep
    exact ⟨h.1, h.2.quiet.of_same rfl rfl, h.2.queue⟩
  | freePktbuf =>
    cases hstep
    show if s.sEnabled = true then _ else _
    rw [h.1]
    exact ⟨h.2.quiet.of_same rfl rfl, h.2.queue⟩

/-- A call of `sdlog_enable` begins. -/
theorem Sound.enable (h : s.Sound) (hstep : lifecycle.step s .enable = some t) : t.Sound := by
  obtain ⟨hfree, hstep⟩ := Option.ite_none_right_eq_some.mp hstep
  by_cases hcall : s.sPresent = true ∧ s.sEnabled = false
  · obtain rfl := Option.some.inj ((if_pos hcall).symm.trans hstep)
    simp only [Sound, hfree, hcall.2] at h
    exact ⟨rfl, h.quiet.writer, h.queue⟩
  · obtain rfl := Option.some.inj ((if_neg hcall).symm.trans hstep)
    exact h

/-- A call of `sdlog_disable` begins. -/
theorem Sound.disable (h : s.Sound) (hstep : lifecycle.step s .disable = some t) : t.Sound := by
  obtain ⟨hfree, hstep⟩ := Option.ite_none_right_eq_some.mp hstep
  cases hstep
  simp only [Sound, hfree] at h
  refine ⟨rfl, ?_⟩
  cases hon : s.sEnabled with
  | true =>
    rw [hon, if_pos rfl] at h
    exact Or.inl h
  | false =>
    rw [hon] at h
    exact Or.inr ⟨h.quiet.of_same rfl rfl, h.queue⟩

/-- One step. -/
theorem sound_step (hintime : InTime s a) (hstep : lifecycle.step s a = some t) (h : s.Sound) :
    t.Sound := by
  cases a with
  | enable => exact h.enable hstep
  | disable => exact h.disable hstep
  | proceed ok => exact h.proceed hintime hstep
  | vprintf | producer | writer | readStart | readEnd =>
    exact h.others (others_step rfl hstep)

/-- What goes is not in use. -/
theorem Sound.deletesUnused (h : s.Sound) (a : LifeStep) : DeletesUnused s a := by
  cases a with
  | proceed ok =>
    unfold Sound at h
    unfold DeletesUnused
    generalize s.control = control at h ⊢
    cases control with
    | deleteQueue => exact fun _ => ⟨h.2.writer, h.2.producers⟩
    | freeRawbuf | freePktbuf => exact fun _ => h.2.quiet.producers
    | _ => trivial
  | _ => trivial

theorem Sound.served (h : s.Sound) : s.Served := by
  intro hon hfree
  simp only [Sound, hfree, hon, if_true] at h
  exact h

theorem sound_sdlogInit (present enabled : Bool) : (sdlogInit present enabled).Sound := by
  unfold Sound sdlogInit
  cases hon : present && enabled with
  | true => exact ⟨rfl, rfl, rfl⟩
  | false => exact ⟨⟨rfl, rfl⟩, rfl⟩

/-- In some steps of its own the writer leaves `q` as the queue. -/
def Leaves (s : Lifecycle) (q : LogQueue) : Prop :=
  ∃ n t, lifecycle.run s (List.replicate n .writer) = some t ∧ t.sQueue = some q

theorem Leaves.of_queue {q : LogQueue} (hq : s.sQueue = some q) : s.Leaves q :=
  ⟨0, s, rfl, hq⟩

theorem Leaves.of_step {q : LogQueue} (hstep : s.writerStep = some t) (h : t.Leaves q) :
    s.Leaves q := by
  obtain ⟨n, u, hrun, hu⟩ := h
  exact ⟨n + 1, u, Machine.run_cons.mpr ⟨t, hstep, hrun⟩, hu⟩

section

variable {id : Nat} {e : Entry} {es : List Entry}

theorem leaves_of_receiving (hqueue : s.sQueue = some ⟨id, e :: es⟩)
    (hw : s.sWriterTask = some (.receiving id)) : s.Leaves ⟨id, es⟩ := by
  have hstep : ∃ job, s.writerStep =
      some { s with sQueue := some ⟨id, es⟩, sWriterTask := some (.locking job) } := by
    unfold writerStep
    simp only [hw, hqueue]
    cases e with
    | line => exact ⟨.round, if_neg (not_not_intro rfl)⟩
    | poison => exact ⟨.drain, if_neg (not_not_intro rfl)⟩
  obtain ⟨job, hstep⟩ := hstep
  exact .of_step hstep (.of_queue rfl)

theorem leaves_of_top (hqueue : s.sQueue = some ⟨id, e :: es⟩) (hw : s.sWriterTask = some .top) :
    s.Leaves ⟨id, es⟩ := by
  have hstep : s.writerStep = some { s with sWriterTask := some (.receiving id) } := by
    rw [writerStep, hw]
    dsimp only
    rw [hqueue]
    rfl
  exact .of_step hstep (leaves_of_receiving hqueue rfl)

theorem leaves_of_holding {job : Job} (hqueue : s.sQueue = some ⟨id, e :: es⟩)
    (hw : s.sWriterTask = some (.holding job)) (hjob : job ≠ .drain) : s.Leaves ⟨id, es⟩ := by
  have hstep : s.writerStep = some { s with sFileMutex := none, sWriterTask := some .top } := by
    rw [writerStep, hw]
    dsimp only
    rw [if_neg hjob]
  exact .of_step hstep (leaves_of_top hqueue rfl)

/-- The writer that there is takes the next message, if it does not have to wait for a file read
    to end. -/
theorem Consuming.leaves (h : s.Consuming) (hqueue : s.sQueue = some ⟨id, e :: es⟩)
    (hfile : ∀ job, s.sWriterTask = some (.locking job) → s.sFileMutex = none) :
    s.Leaves ⟨id, es⟩ := by
  obtain ⟨q, w, hq, -, hw, huses, hreceiving⟩ := h
  rw [hqueue] at hq
  cases hq
  -- From each place in the loop the writer comes back to the queue by its own steps.
  cases w with
  | top => exact leaves_of_top hqueue hw
  | receiving id' =>
    obtain rfl := hreceiving id' rfl
    exact leaves_of_receiving hqueue hw
  | locking job =>
    -- Draining, it would use the queue no more.
    have hjob : job ≠ .drain := by
      rintro rfl
      cases huses
    have hstep : s.writerStep =
        some { s with sFileMutex := some .writer, sWriterTask := some (.holding job) } := by
      rw [writerStep, hw]
      exact if_pos (hfile job hw)
    exact .of_step hstep (leaves_of_holding hqueue rfl hjob)
  | holding job =>
    have hjob : job ≠ .drain := by
      rintro rfl
      cases huses
    exact leaves_of_holding hqueue hw hjob
  | leaving => cases huses

end

end Lifecycle

/-- **What is deleted is not in use, and an enabled recorder has its writer.** In every run in
    which the wait of `stop_writer` ends after the writer has received its pill and the calls of
    `sdlog_vprintf` have returned, and `start_writer` finds the handle cleared and gets its queue
    and its task, the queue and the line buffers go when nobody can still use them, and after
    `sdlog_enable` a writer is there that comes to the queue. -/
theorem shutdown_safe (present enabled : Bool) (steps : List LifeStep)
    (hintime : lifecycle.Meets InTime (sdlogInit present enabled) steps) :
    lifecycle.Meets DeletesUnused (sdlogInit present enabled) steps ∧
      ∀ s, lifecycle.run (sdlogInit present enabled) steps = some s → s.Served := by
  have hsound := Lifecycle.sound_sdlogInit present enabled
  have hstep : ∀ s a t, InTime s a → lifecycle.step s a = some t → s.Sound → t.Sound :=
    fun _ _ _ hmet hstep h => Lifecycle.sound_step hmet hstep h
  refine ⟨Machine.Meets.of_invariant hstep (fun s a h _ => h.deletesUnused a) hintime hsound, ?_⟩
  intro s hrun
  exact (Machine.invariant_of_meets (I := Lifecycle.Sound) hstep hintime hrun hsound).served

/-! ### A recorder that is switched off and on again -/

/-- The statements of `start_writer`, with every creation successful. -/
def started : List LifeStep := List.replicate 5 (.proceed true)

/-- The writer opens its first file and waits for a message. -/
def firstFile : List LifeStep := List.replicate 3 .writer

/-- A line is logged. -/
def oneLine : List LifeStep := .vprintf :: List.replicate 5 (.producer 0 true)

/-- A stop that waits for the writer, and a new start. The queue and the buffers are deleted in
    between, and made again. -/
def offAndOn : List LifeStep :=
  started ++ firstFile ++ oneLine ++
    [.disable, .proceed true, .proceed true, .writer, .writer, .writer, .writer, .proceed true,
      .writer, .writer, .writer, .writer, .proceed true, .proceed true, .proceed true,
      .proceed true, .enable] ++ started

/-- The new writer is there. -/
theorem offAndOn_safe :
    lifecycle.Meets DeletesUnused (sdlogInit true true) offAndOn ∧
      ∃ s, lifecycle.run (sdlogInit true true) offAndOn = some s ∧
        s.sWriterTask = some (.locking .firstFile) ∧ s.Served := by
  have hsafe := shutdown_safe true true offAndOn (by decide)
  exact ⟨hsafe.1, _, rfl, rfl, hsafe.2 _ rfl⟩

/-- The whole wait of `stop_writer`. -/
def wholeWait : List LifeStep := List.replicate 41 (.proceed true)

/-- A file read takes longer than the wait, while the writer has a line to write; then comes
    `vQueueDelete`. -/
def readDuringLine : List LifeStep :=
  started ++ firstFile ++ [.readStart] ++ oneLine ++
    [.writer, .disable, .proceed true, .proceed true] ++ wholeWait

/-- A file read takes longer than the wait, while the writer is about to close its file; it ends
    after the recorder has been enabled again. -/
def readDuringDrain : List LifeStep :=
  started ++ firstFile ++ [.readStart, .disable, .proceed true, .proceed true, .writer] ++
    wholeWait ++ [.proceed true, .proceed true, .proceed true, .enable] ++ started ++
    [.readEnd, .writer, .writer, .writer]

/-- In the first case the queue goes while the writer is to come to it again; in the second one
    the recorder is enabled without a writer. -/
theorem read_outlasts_wait :
    (¬ ∀ (present enabled : Bool) (steps : List LifeStep),
      lifecycle.Meets DeletesUnused (sdlogInit present enabled) steps) ∧
    ¬ ∀ (present enabled : Bool) (steps : List LifeStep) (s : Lifecycle),
      lifecycle.run (sdlogInit present enabled) steps = some s → s.Served := by
  refine ⟨fun h => ?_, fun h => ?_⟩
  · have hdelete := (h true true (readDuringLine ++ [.proceed true])).append_right rfl
    obtain ⟨hwriter, -⟩ := hdelete.1 nofun
    cases hwriter
  · have hserved := h true true readDuringDrain _ rfl rfl rfl
    obtain ⟨q, w, -, -, hw, -⟩ := hserved
    cases hw

end SubnetRouter.FlightRecorder
