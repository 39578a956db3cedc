import Mathlib.Algebra.Group.Nat.Defs
import SubnetRouter.Lib.Run
import SubnetRouter.Log.Capture

namespace SubnetRouter.Log

open Lib

/-!
# Polling the log (`main/web_ui.c`, `log_raw_handler`)

A poll reads since the place that the client has reached, and then reads the size of the ring,
twice, to tell whether the client fell behind.  Lines may come, and the ring may be cleared,
between the reads.

* `logRawHandler` — a poll.
* `pollMachine` — a client that follows the counter and starts over when it fell behind, with
  appends and clears at any time.
* `Judged` — the later reads of the size can tell.
* `log_polling` — what a read and a poll return, and that the client holds a piece of the append
  stream, each byte once.
-/

/-! ### A poll -/

/-- What may happen to the ring at any time. -/
inductive LogChange where
  | append (src : List UInt8)
  | clear

/-- One change. -/
def LogChange.apply (s : LogCapture) : LogChange → LogCapture
  | .append src => bufferAppend s src
  | .clear => logCaptureClear s

/-- Several. -/
def changed (s : LogCapture) (changes : List LogChange) : LogCapture :=
  changes.foldl LogChange.apply s

/-- The response of a poll. `lost` says that bytes behind the client's cursor are gone; `seq` is the
    cursor for its next poll. -/
structure LogResponse where
  seq : Nat
  lost : Bool
  size : Nat
  cap : Nat
  data : List UInt8

/-- The difference of two 64-bit numbers. -/
def subU64 (a b : Nat) : Nat := if b ≤ a then a - b else a + 2 ^ 64 - b

/-- `log_raw_handler` on a parsed query; `c₁`, `c₂` and `c₃` come before each of the three reads of
    the size, and `scratch` tells whether its buffer could be allocated. -/
def logRawHandler (s : LogCapture) (since : Nat) (scratch : Bool) (c₁ c₂ c₃ : List LogChange) :
    Option LogResponse :=
  if !scratch then none
  else
    let read := logCaptureReadSince s since (logCaptureCapacity s + 1)
    let newSeq := read.2.getD 0
    let s₁ := changed s c₁
    let s₂ := changed s₁ c₂
    let s₃ := changed s₂ c₃
    let oldest :=
      if logCaptureSize s₁ < newSeq then subU64 newSeq (logCaptureSize s₂) else 0
    some ⟨newSeq, since ≠ 0 ∧ since < oldest, logCaptureSize s₃, logCaptureCapacity s₃, read.1⟩

/-! ### A client -/

/-- The place that a client has reached, and what it shows. -/
structure LogClient where
  seq : Nat
  view : List UInt8

/-- The client follows the counter, and starts over when it fell behind. -/
def LogClient.receive (c : LogClient) (r : LogResponse) : LogClient :=
  ⟨r.seq, if r.lost then r.data else c.view ++ r.data⟩

/-- The log, its append stream and a client. -/
structure Polled where
  log : LogCapture
  stream : List UInt8
  client : LogClient

/-- A change, or a poll of the client, with the changes during the poll. -/
inductive LogEvent where
  | change (c : LogChange)
  | poll (scratch : Bool) (c₁ c₂ c₃ : List LogChange)

/-- A change of the log and of its stream. A clear empties the ring and takes nothing back from the
    stream. -/
def Polled.change (p : Polled) (c : LogChange) : Polled :=
  { p with
    log := c.apply p.log
    stream := match c with
      | .append src => p.stream ++ kept p.log.live.ring.cap src
      | .clear => p.stream }

/-- Several. -/
def Polled.changes (p : Polled) (cs : List LogChange) : Polled := cs.foldl Polled.change p

/-- A log with a client; a poll that gets no response leaves the client where it is. The log may
    change between the reads of one poll, which are not under one lock. -/
def pollMachine : Machine Polled LogEvent where
  step p
    | .change c => some (p.change c)
    | .poll scratch c₁ c₂ c₃ =>
      let client := match logRawHandler p.log p.client.seq scratch c₁ c₂ c₃ with
        | some r => p.client.receive r
        | none => p.client
      some { p.changes (c₁ ++ c₂ ++ c₃) with client := client }

/-- The start: a ring of any capacity (no slots before the buffer is allocated), and a client that
    has seen nothing. -/
def startPolled (slots : List UInt8) (precrash : PrecrashRing) : Polled :=
  ⟨⟨⟨⟨slots, 0, 0⟩, 0⟩, precrash⟩, [], ⟨0, []⟩⟩

/-- The cursor is still in the ring when it is read, or no more bytes are in the ring at the later
    reads of its size than then. -/
def Judged (s : LogCapture) (since : Nat) (c₁ c₂ : List LogChange) : Prop :=
  oldestPreserved s ≤ since ∨
    logCaptureSize (changed s c₁) ≤ logCaptureSize s ∧
      logCaptureSize (changed (changed s c₁) c₂) ≤ logCaptureSize s

instance {s : LogCapture} {since : Nat} {c₁ c₂ : List LogChange} :
    Decidable (Judged s since c₁ c₂) :=
  inferInstanceAs (Decidable (_ ∨ _ ∧ _))

/-- Each poll of the client can be judged. -/
def PollsJudged (p : Polled) : LogEvent → Prop
  | .change _ => True
  | .poll _ c₁ c₂ _ => p.client.seq = 0 ∨ Judged p.log p.client.seq c₁ c₂

instance {p : Polled} {e : LogEvent} : Decidable (PollsJudged p e) := by
  cases e <;> unfold PollsJudged <;> infer_instance

/-! ### What a poll returns -/

variable {s : LogCapture} {stream : List UInt8} {since : Nat} {scratch : Bool}
  {c₁ c₂ c₃ : List LogChange} {r : LogResponse} {p : Polled}

/-- **What a poll returns**: its buffer takes all that is in the ring. -/
theorem response_eq (h : Captured s stream)
    (hr : logRawHandler s since scratch c₁ c₂ c₃ = some r) :
    r.seq = stream.length ∧ r.data = stream.drop (max since (oldestPreserved s)) ∧
      (r.lost = true ↔ since ≠ 0 ∧ since <
        if logCaptureSize (changed s c₁) < stream.length then
          subU64 stream.length (logCaptureSize (changed (changed s c₁) c₂)) else 0) := by
  unfold logRawHandler at hr
  split at hr
  · cases hr
  have hcount := h.holds.count_le
  have hoffset : max since
      (max (oldestPreserved s) (stream.length - (logCaptureCapacity s + 1 - 1))) =
        max since (oldestPreserved s) := by
    have hseq := h.seq
    unfold oldestPreserved logCaptureCapacity
    omega
  rw [logCaptureReadSince_eq h since (Nat.succ_ne_zero _), hoffset] at hr
  cases hr
  exact ⟨rfl, rfl, decide_eq_true_iff⟩

/-- A client that asks for everything gets all that is preserved, and has lost nothing. -/
theorem response_zero (h : Captured s stream)
    (hr : logRawHandler s 0 scratch c₁ c₂ c₃ = some r) :
    r.lost = false ∧ r.data = stream.drop (oldestPreserved s) := by
  obtain ⟨-, hdata, hlost⟩ := response_eq h hr
  refine ⟨?_, by rw [hdata, Nat.zero_max]⟩
  cases hflag : r.lost with
  | false => rfl
  | true => exact absurd rfl (hlost.mp hflag).1

/-- **A poll that has lost nothing** returns the stream from its cursor on. -/
theorem response_kept (h : Captured s stream)
    (hr : logRawHandler s since scratch c₁ c₂ c₃ = some r) (hsince : since ≠ 0)
    (hjudged : Judged s since c₁ c₂) (hkept : r.lost = false) :
    r.data = stream.drop since := by
  obtain ⟨-, hdata, hlost⟩ := response_eq h hr
  have hseq := h.seq
  have hcursor : oldestPreserved s ≤ since := by
    rcases hjudged with hle | ⟨hsize₁, hsize₂⟩
    · exact hle
    -- were it before the oldest byte, the sizes would have told
    by_contra hbefore
    have holdest : oldestPreserved s = stream.length - s.live.ring.count := by
      rw [oldestPreserved, hseq]
    unfold logCaptureSize at hsize₁ hsize₂ hlost
    have htold : r.lost = true := by
      apply hlost.mpr
      refine ⟨hsince, ?_⟩
      rw [if_pos (by omega), subU64, if_pos (by omega)]
      omega
    rw [hkept] at htold
    cases htold
  rw [hdata, Nat.max_eq_left hcursor]

/-! ### Runs -/

/-- A change keeps the buffer the end of the stream. -/
theorem captured_change (h : Captured p.log p.stream) (c : LogChange) :
    Captured (p.change c).log (p.change c).stream := by
  cases c with
  | append src => exact h.bufferAppend src
  | clear => exact h.clear

theorem captured_changes (h : Captured p.log p.stream) (cs : List LogChange) :
    Captured (p.changes cs).log (p.changes cs).stream := by
  induction cs generalizing p with
  | nil => exact h
  | cons c cs ih => exact ih (captured_change h c)

/-- The stream only grows, and no change reaches the client. -/
theorem changes_frame (p : Polled) (cs : List LogChange) :
    (p.changes cs).client = p.client ∧ p.stream <+: (p.changes cs).stream := by
  induction cs generalizing p with
  | nil => exact ⟨rfl, List.prefix_refl _⟩
  | cons c cs ih =>
    obtain ⟨hclient, hstream⟩ := ih (p.change c)
    refine ⟨hclient, List.IsPrefix.trans ?_ hstream⟩
    cases c with
    | append src => exact List.prefix_append _ _
    | clear => exact List.prefix_refl _

/-- The client shows a piece of the stream that ends at its place. -/
structure Follows (c : LogClient) (stream : List UInt8) : Prop where
  seq_le : c.seq ≤ stream.length
  view_le : c.view.length ≤ c.seq
  view_eq : c.view = (stream.take c.seq).drop (c.seq - c.view.length)

/-- The stream may grow. -/
theorem Follows.mono {c : LogClient} {stream' : List UInt8} (h : Follows c stream)
    (hgrows : stream <+: stream') : Follows c stream' := by
  obtain ⟨more, rfl⟩ := hgrows
  refine ⟨?_, h.view_le, ?_⟩
  · rw [List.length_append]
    exact Nat.le_trans h.seq_le (Nat.le_add_right _ _)
  · rw [List.take_append_of_le_length h.seq_le]
    exact h.view_eq

/-- A view that is the end of the stream. -/
theorem follows_of_drop {k : Nat} (view : List UInt8) (hview : view = stream.drop k) :
    Follows ⟨stream.length, view⟩ stream := by
  have hlength : view.length = stream.length - k := by rw [hview, List.length_drop]
  refine ⟨Nat.le_refl _, ?_, ?_⟩
  · show view.length ≤ stream.length
    omega
  · show view = (stream.take stream.length).drop (stream.length - view.length)
    rw [List.take_length, hview, List.length_drop]
    by_cases hk : k ≤ stream.length
    · rw [show stream.length - (stream.length - k) = k by omega]
    · rw [List.drop_of_length_le (by omega), List.drop_of_length_le (by omega)]

/-- **A poll extends the piece, or starts a new one.** It starts one when it says that bytes were
    lost, or when it was the first. -/
theorem Follows.receive {c : LogClient} (h : Follows c stream) (hcaptured : Captured s stream)
    (hr : logRawHandler s c.seq scratch c₁ c₂ c₃ = some r)
    (hjudged : c.seq = 0 ∨ Judged s c.seq c₁ c₂) : Follows (c.receive r) stream := by
  obtain ⟨hseq, hdata, -⟩ := response_eq hcaptured hr
  unfold LogClient.receive
  rw [hseq]
  cases hlost : r.lost with
  | true => exact follows_of_drop r.data hdata
  | false =>
    show Follows ⟨stream.length, c.view ++ r.data⟩ stream
    by_cases hzero : c.seq = 0
    · -- nothing was shown yet
      have hview : c.view = [] := List.length_eq_zero_iff.mp (by have := h.view_le; omega)
      rw [hview, List.nil_append]
      exact follows_of_drop r.data hdata
    · have hkept : r.data = stream.drop c.seq :=
        response_kept hcaptured hr hzero (hjudged.resolve_left hzero) hlost
      have hlength : (stream.take c.seq).length = c.seq := by
        rw [List.length_take, Nat.min_eq_left h.seq_le]
      have hjoin : c.view ++ r.data = stream.drop (c.seq - c.view.length) := by
        have hsplit := List.take_append_drop c.seq stream
        rw [hkept]
        conv_rhs => rw [← hsplit, List.drop_append_of_le_length (by omega), ← h.view_eq]
      exact follows_of_drop _ hjoin

/-- One step. -/
theorem follows_step {q : Polled} {e : LogEvent} (hjudged : PollsJudged p e)
    (hstep : pollMachine.step p e = some q)
    (h : Captured p.log p.stream ∧ Follows p.client p.stream) :
    Captured q.log q.stream ∧ Follows q.client q.stream := by
  obtain ⟨hcaptured, hfollows⟩ := h
  cases e with
  -- The log moves on; the client is told nothing.
  | change c =>
    cases hstep
    obtain ⟨hclient, hgrows⟩ := changes_frame p [c]
    exact ⟨captured_change hcaptured c, hclient ▸ hfollows.mono hgrows⟩
  | poll scratch c₁ c₂ c₃ =>
    cases hstep
    obtain ⟨-, hgrows⟩ := changes_frame p (c₁ ++ c₂ ++ c₃)
    -- The changes of the three gaps happen around the handler's reads.
    refine ⟨captured_changes hcaptured _, ?_⟩
    show Follows (match logRawHandler p.log p.client.seq scratch c₁ c₂ c₃ with
      | some r => p.client.receive r
      | none => p.client) _
    cases hr : logRawHandler p.log p.client.seq scratch c₁ c₂ c₃ with
    | none => exact hfollows.mono hgrows
    | some r => exact (hfollows.receive hcaptured hr hjudged).mono hgrows

/-- The buffer is the end of the stream along every run, judged or not. -/
theorem captured_run {slots : List UInt8} {precrash : PrecrashRing} {events : List LogEvent}
    (hrun : pollMachine.run (startPolled slots precrash) events = some p) :
    Captured p.log p.stream := by
  refine Machine.invariant (I := fun p => Captured p.log p.stream) ?_ hrun ?_
  · intro p e q hstep h
    cases e with
    | change c =>
      cases hstep
      exact captured_change h c
    | poll scratch c₁ c₂ c₃ =>
      cases hstep
      exact captured_changes h _
  · exact ⟨Ring.holds_of_count_zero rfl rfl [], rfl, fun _ => rfl⟩

/-- **Polling the log.** In every state that appends, clears and polls lead to:

    * a read returns exactly the stream from the place it asks for, the oldest byte preserved or
      as much as its buffer takes, up to the counter that it returns;
    * a poll returns the stream up to the counter, all that is preserved if it asks for
      everything, and all from its cursor on if it is told that nothing is lost;
    * a client that follows the counter, and starts over when told so, shows exactly the bytes of
      the stream from some place up to its own. -/
theorem log_polling (slots : List UInt8) (precrash : PrecrashRing) (events : List LogEvent) :
    ∀ p, pollMachine.run (startPolled slots precrash) events = some p →
      (∀ since outSize, outSize ≠ 0 → logCaptureReadSince p.log since outSize =
        (p.stream.drop (max since (max (oldestPreserved p.log) (p.stream.length - (outSize - 1)))),
          some p.stream.length)) ∧
      (∀ since scratch c₁ c₂ c₃ r, logRawHandler p.log since scratch c₁ c₂ c₃ = some r →
        r.seq = p.stream.length ∧
        (since = 0 → r.lost = false ∧ r.data = p.stream.drop (oldestPreserved p.log)) ∧
        (since ≠ 0 → Judged p.log since c₁ c₂ → r.lost = false →
          r.data = p.stream.drop since)) ∧
      (pollMachine.Meets PollsJudged (startPolled slots precrash) events →
        Follows p.client p.stream) := by
  intro p hrun
  have hcaptured := captured_run hrun
  refine ⟨fun since _ hout => logCaptureReadSince_eq hcaptured since hout, ?_, ?_⟩
  · intro since scratch c₁ c₂ c₃ r hr
    refine ⟨(response_eq hcaptured hr).1, ?_, ?_⟩
    · rintro rfl
      exact response_zero hcaptured hr
    · exact fun hsince hjudged hkept => response_kept hcaptured hr hsince hjudged hkept
  · intro hmeets
    refine (Machine.invariant_of_meets (I := fun p =>
      Captured p.log p.stream ∧ Follows p.client p.stream)
      (fun _ _ _ hjudged hstep h => follows_step hjudged hstep h) hmeets hrun ?_).2
    exact ⟨⟨Ring.holds_of_count_zero rfl rfl [], rfl, fun _ => rfl⟩, ⟨Nat.le_refl _, Nat.le_refl _,
      rfl⟩⟩

/-- Two lines, each followed by a poll. -/
def twoPolls : List LogEvent :=
  [.change (.append [65, 10]), .poll true [] [] [], .change (.append [66, 10]),
    .poll true [] [] []]

/-- The client shows both lines. -/
theorem twoPolls_shown :
    ∃ p, pollMachine.run (startPolled (List.replicate 8 0) ⟨0xC0DEAFFE, List.replicate 8 0, 0, 0⟩)
        twoPolls = some p ∧
      p.client.view = [65, 10, 66, 10] ∧ Follows p.client p.stream := by
  refine ⟨_, rfl, by decide, ?_⟩
  exact (log_polling _ _ twoPolls _ rfl).2.2 (by decide)

/-! ### Everything is what is left -/

/-- A line, a clear and another line. -/
def clearedBetween : List LogEvent :=
  [.change (.append [65, 10]), .change .clear, .change (.append [66, 10])]

/-- A client that asks for everything after a clear is told that nothing is lost, and gets the
    second line only. -/
theorem everything_after_clear :
    ¬ ∀ (slots : List UInt8) (precrash : PrecrashRing) (events : List LogEvent) (p : Polled)
      (since : Nat) (r : LogResponse),
      pollMachine.run (startPolled slots precrash) events = some p →
        logRawHandler p.log since true [] [] [] = some r → r.lost = false →
          r.data = p.stream.drop since := by
  intro h
  have hdata := h (List.replicate 1024 0) ⟨0xC0DEAFFE, List.replicate 4096 0, 0, 0⟩
    clearedBetween _ 0 _ rfl rfl rfl
  revert hdata
  decide +kernel

end SubnetRouter.Log
