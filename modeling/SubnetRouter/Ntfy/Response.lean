import Mathlib.Data.List.TakeWhile
import SubnetRouter.Lib.BoundedAppend
import SubnetRouter.Lib.Memory

namespace SubnetRouter.Ntfy

open Lib

/-!
# The response to a poll (`main/ntfy_integration.c`, `http_event` and `poll_commands`)

The body of a response comes in pieces, which are collected in a buffer of 8192 bytes; a piece that
does not fit is dropped.  The buffer is then cut into lines, and each line is parsed as an event.

* `httpEvent`, `commandLines` — the code.
* `CutShort` — the lines of a text, the last one perhaps cut short.
* `collected_spec` — what the buffer holds, in bounds and terminated.
* `response_prefix_iff` — for which sizes of the pieces the lines are lines of the body.
* `spliced_command` — a line that nobody sent.
-/

/-! ### The code -/

/-- `response_buffer_t`. -/
structure ResponseBuffer where
  data : Buffer
  capacity : Nat
  used : Nat

/-- `esp_http_client_event_t`, with the data of `HTTP_EVENT_ON_DATA`. -/
inductive HttpEvent where
  | onData (data : List UInt8)
  | other

/-- `http_event`. A piece that does not fit is dropped as a whole, and one that does is terminated
    at once. -/
def httpEvent (buffer : ResponseBuffer) : HttpEvent → ResponseBuffer
  | .onData data =>
    if 0 < data.length ∧ buffer.used + data.length < buffer.capacity then
      { buffer with
        data := (buffer.data.store buffer.used data).store (buffer.used + data.length) [0]
        used := buffer.used + data.length }
    else buffer
  | .other => buffer

def responseCapacity : Nat := 8192

/-- The buffer of `poll_commands`, from `calloc`. -/
def emptyResponse : ResponseBuffer := ⟨.alloc responseCapacity fun _ => 0, responseCapacity, 0⟩

/-- The buffer after the events of a response. -/
def collected (events : List HttpEvent) : ResponseBuffer := events.foldl httpEvent emptyResponse

/-- The bytes in use. -/
def ResponseBuffer.text (buffer : ResponseBuffer) : List UInt8 :=
  buffer.data.mem.load 0 buffer.used

/-- A piece between line ends, if it is not empty. -/
def token (piece : List UInt8) : List (List UInt8) := if piece = [] then [] else [piece]

/-- What `strtok_r` makes of a text with line ends, behind the beginning of a piece. -/
def tokensFrom (piece : List UInt8) : List UInt8 → List (List UInt8)
  | [] => token piece
  | c :: text =>
    if c = 0x0A then token piece ++ tokensFrom [] text else tokensFrom (piece ++ [c]) text

/-- The lines of a text that are not empty. -/
def tokens (text : List UInt8) : List (List UInt8) := tokensFrom [] text

/-- The string in the buffer. -/
def ResponseBuffer.string (buffer : ResponseBuffer) : List UInt8 :=
  (buffer.data.mem.load 0 buffer.capacity).takeWhile (· ≠ 0)

/-- The lines that `poll_commands` hands to `cJSON_Parse`. -/
def commandLines (buffer : ResponseBuffer) : List (List UInt8) := tokens buffer.string

/-! ### Lines of a text, and of its front -/

/-- The first lines of others, the last one perhaps cut short. -/
def CutShort (cut whole : List (List UInt8)) : Prop :=
  cut <+: whole ∨ ∃ front part line rest, cut = front ++ [part] ∧ whole = front ++ line :: rest ∧
    part <+: line

variable {cut whole : List (List UInt8)} {piece line text body : List UInt8}

theorem CutShort.append_left (h : CutShort cut whole) (lines : List (List UInt8)) :
    CutShort (lines ++ cut) (lines ++ whole) := by
  rcases h with hfront | ⟨front, part, line, rest, rfl, rfl, hpart⟩
  · exact Or.inl ((List.prefix_append_right_inj lines).mpr hfront)
  · refine Or.inr ⟨lines ++ front, part, line, rest, ?_, ?_, hpart⟩
    · rw [List.append_assoc]
    · rw [List.append_assoc]

/-- A piece is the beginning of the first line from there on. -/
theorem tokensFrom_eq_cons (hpiece : piece ≠ []) (text : List UInt8) :
    ∃ line rest, tokensFrom piece text = line :: rest ∧ piece <+: line := by
  induction text generalizing piece with
  | nil => exact ⟨piece, [], if_neg hpiece, List.prefix_rfl⟩
  | cons c text ih =>
    by_cases hc : c = 0x0A
    · refine ⟨piece, tokensFrom [] text, ?_, List.prefix_rfl⟩
      rw [tokensFrom, if_pos hc, token, if_neg hpiece, List.singleton_append]
    · have hlonger : piece ++ [c] ≠ [] := by simp
      obtain ⟨line, rest, heq, hfront⟩ := ih hlonger
      refine ⟨line, rest, ?_, (List.prefix_append piece [c]).trans hfront⟩
      rw [tokensFrom, if_neg hc, heq]

/-- **The lines of the front of a text** are its first lines, the last one cut short. -/
theorem cutShort_tokensFrom (piece text more : List UInt8) :
    CutShort (tokensFrom piece text) (tokensFrom piece (text ++ more)) := by
  induction text generalizing piece with
  | nil =>
    by_cases hpiece : piece = []
    · left
      rw [hpiece]
      exact List.nil_prefix
    · obtain ⟨line, rest, heq, hfront⟩ := tokensFrom_eq_cons hpiece more
      exact Or.inr ⟨[], piece, line, rest, if_neg hpiece, heq, hfront⟩
  | cons c text ih =>
    rw [List.cons_append, tokensFrom, tokensFrom]
    by_cases hc : c = 0x0A
    · rw [if_pos hc, if_pos hc]
      exact (ih []).append_left (token piece)
    · rw [if_neg hc, if_neg hc]
      exact ih (piece ++ [c])

/-- A line and what comes behind its end. -/
theorem tokensFrom_line (hline : 0x0A ∉ line) (piece text : List UInt8) :
    tokensFrom piece (line ++ 0x0A :: text) = token (piece ++ line) ++ tokens text := by
  induction line generalizing piece with
  | nil => rw [List.nil_append, List.append_nil, tokensFrom, if_pos rfl, tokens]
  | cons c line ih =>
    rw [List.mem_cons, not_or] at hline
    rw [List.cons_append, tokensFrom, if_neg (Ne.symm hline.1), ih hline.2, List.append_assoc,
      List.singleton_append]

theorem cutShort_tokens (h : text <+: body) : CutShort (tokens text) (tokens body) := by
  obtain ⟨more, rfl⟩ := h
  exact cutShort_tokensFrom [] text more

/-! ### What is in the buffer -/

/-- A buffer with a text and its terminator, written in bounds. What the code goes on with is a C
    string in any case. -/
structure Collected (buffer : ResponseBuffer) (text : List UInt8) : Prop where
  capacity_eq : buffer.capacity = responseCapacity
  cap_eq : buffer.data.cap = responseCapacity
  used_lt : buffer.used < responseCapacity
  text_eq : buffer.text = text
  terminated : buffer.data.mem buffer.used = 0
  inBounds : buffer.data.InBounds

variable {buffer : ResponseBuffer}

theorem Collected.used_eq (h : Collected buffer text) : buffer.used = text.length := by
  rw [← h.text_eq]
  exact (Memory.length_load ..).symm

theorem collected_empty : Collected emptyResponse [] where
  capacity_eq := rfl
  cap_eq := rfl
  used_lt := by decide
  text_eq := rfl
  terminated := rfl
  inBounds := Buffer.inBounds_alloc responseCapacity fun _ => 0

/-- A piece of the body; of other events there is none. -/
def HttpEvent.pieces : HttpEvent → List (List UInt8)
  | onData data => [data]
  | other => []

/-- The pieces of the body. -/
def pieces (events : List HttpEvent) : List (List UInt8) := events.flatMap HttpEvent.pieces

/-- A piece that fits. -/
theorem Collected.append (h : Collected buffer text) {data : List UInt8}
    (hfits : buffer.used + data.length < responseCapacity) :
    Collected { buffer with
      data := (buffer.data.store buffer.used data).store (buffer.used + data.length) [0]
      used := buffer.used + data.length } (text ++ data) where
  capacity_eq := h.capacity_eq
  cap_eq := h.cap_eq
  used_lt := hfits
  text_eq := by
    show ((buffer.data.mem.store buffer.used data).store (buffer.used + data.length) [0]).load 0
      (buffer.used + data.length) = text ++ data
    -- The two stores lie behind the text, and do not touch it.
    rw [Memory.load_store_disjoint _ (Or.inl (by omega)), Memory.load_add,
      Memory.load_store_disjoint _ (Or.inl (by omega)), Nat.zero_add, Memory.load_store_self,
      ← h.text_eq]
    rfl
  terminated := @Memory.store_self _ _ [0] 0 Nat.zero_lt_one
  inBounds := by
    rw [Buffer.inBounds_store, Buffer.inBounds_store, Buffer.cap_store, h.cap_eq]
    refine ⟨⟨h.inBounds, Or.inr (Nat.le_of_lt hfits)⟩, Or.inr ?_⟩
    show buffer.used + data.length + 1 ≤ responseCapacity
    omega

/-- **An event appends its piece if it fits.** -/
theorem Collected.httpEvent (h : Collected buffer text) (event : HttpEvent) :
    Collected (httpEvent buffer event) (appendFitting responseCapacity text event.pieces) := by
  have hused := h.used_eq
  cases event with
  | other => exact h
  | onData data =>
    show Collected (if 0 < data.length ∧ buffer.used + data.length < buffer.capacity then _
      else buffer) (appendFitting responseCapacity text [data])
    rw [h.capacity_eq]
    -- An empty piece is not stored, and adds nothing either.
    by_cases hfits : buffer.used + data.length < responseCapacity
    · rw [appendFitting_cons_fits (by omega), appendFitting_nil]
      by_cases hempty : data.length = 0
      · rw [if_neg (by omega), List.length_eq_zero_iff.mp hempty, List.append_nil]
        exact h
      · rw [if_pos ⟨by omega, hfits⟩]
        have happend := h.append hfits
        rwa [h.capacity_eq] at happend
    · rw [if_neg (fun hboth => hfits hboth.2), appendFitting_cons_drop (by omega),
        appendFitting_nil]
      exact h

/-- **The events of a response**, in any order and number. -/
theorem Collected.foldl (h : Collected buffer text) (events : List HttpEvent) :
    Collected (events.foldl Ntfy.httpEvent buffer)
      (appendFitting responseCapacity text (pieces events)) := by
  induction events generalizing buffer text with
  | nil => exact h
  | cons event events ih =>
    have hrest := ih (h.httpEvent event)
    rwa [appendFitting, appendFitting, ← List.foldl_append] at hrest

/-- The string is what was collected, up to a null character. -/
theorem Collected.string_eq (h : Collected buffer text) :
    buffer.string = text.takeWhile (· ≠ 0) := by
  obtain ⟨more, hmore⟩ : ∃ more, responseCapacity = buffer.used + (more + 1) :=
    ⟨responseCapacity - buffer.used - 1, by have := h.used_lt; omega⟩
  unfold ResponseBuffer.string
  rw [h.capacity_eq, hmore, Memory.load_add, show buffer.data.mem.load 0 buffer.used = text
    from h.text_eq, Nat.zero_add, Memory.load_succ, h.terminated, List.takeWhile_append]
  split
  · rename_i hall
    rw [(List.takeWhile_prefix _).eq_of_length hall]
    exact List.append_nil text
  · rfl

/-- **Lines of the body.** Where the buffer holds the front of a body, its lines are the first ones
    of the body, the last one perhaps cut short. -/
theorem Collected.lines (h : Collected buffer text) (hfront : text <+: body) :
    CutShort (commandLines buffer) (tokens body) := by
  apply cutShort_tokens
  rw [h.string_eq]
  exact (List.takeWhile_prefix _).trans hfront

/-! ### When nothing is spliced -/

theorem collected_spec (events : List HttpEvent) :
    Collected (collected events) (appendFitting responseCapacity [] (pieces events)) :=
  collected_empty.foldl events

/-- **The response is not spliced.** For every way in which the network cuts the body: whatever is
    in the pieces, and whatever other events there are, the buffer holds the front of the body, and
    its lines are the first ones of the body, the last one perhaps cut short; exactly if no piece
    fits after the first one that does not. -/
theorem response_prefix_iff (lengths : List Nat) :
    (∀ events, (pieces events).map List.length = lengths →
      (collected events).text <+: (pieces events).flatten ∧
        CutShort (commandLines (collected events)) (tokens (pieces events).flatten)) ↔
      NoneFitsLater 8192 lengths := by
  have hbytes : Nontrivial UInt8 := ⟨0, 1, by decide⟩
  have hcapacity : 0 < responseCapacity := by decide
  show _ ↔ NoneFitsLater responseCapacity lengths
  rw [← appendFitting_prefix_iff (α := UInt8) hcapacity]
  constructor
  -- Any cutting into pieces of these lengths comes in as events.
  · rintro h chunks rfl
    have hpieces : pieces (chunks.map HttpEvent.onData) = chunks := by
      rw [pieces, List.flatMap_map]
      exact List.flatMap_singleton' chunks
    have hfront := (h (chunks.map .onData) (by rw [hpieces])).1
    rw [hpieces, (collected_spec _).text_eq, hpieces] at hfront
    exact hfront
  · rintro h events rfl
    have hfront := h (pieces events) rfl
    -- What was collected is the front of the body, from which its lines follow.
    refine ⟨?_, (collected_spec events).lines hfront⟩
    rw [(collected_spec events).text_eq]
    exact hfront

/-- A line and its end, with the beginning of the next line; 20 more bytes of that line; and its
    last four. -/
def splicedPieces (line : List UInt8) : List (List UInt8) :=
  [line ++ 0x0A :: [0x72, 0x65], List.replicate 20 0x2E, [0x62, 0x6F, 0x6F, 0x74]]

/-- The bytes of `reboot`. -/
def rebootLine : List UInt8 := [0x72, 0x65, 0x62, 0x6F, 0x6F, 0x74]

/-- After a line of 8180 characters there is no room for the 20 bytes. -/
theorem appendFitting_splicedPieces (hlength : line.length = 8180) :
    appendFitting responseCapacity [] (splicedPieces line) = line ++ 0x0A :: rebootLine := by
  have hsize : responseCapacity = 8192 := rfl
  have hfirst : (line ++ 0x0A :: [0x72, 0x65] : List UInt8).length = 8183 := by simp [hlength]
  have hlast : ([0x62, 0x6F, 0x6F, 0x74] : List UInt8).length = 4 := rfl
  unfold splicedPieces
  rw [appendFitting_cons_fits (by rw [List.length_nil]; omega), List.nil_append,
    appendFitting_cons_drop (by rw [List.length_replicate]; omega),
    appendFitting_cons_fits (by omega), appendFitting_nil, List.append_assoc]
  rfl

/-- What `strtok` sees of them. -/
theorem string_splicedPieces (hlength : line.length = 8180) (hnul : 0 ∉ line) :
    (collected ((splicedPieces line).map HttpEvent.onData)).string =
      line ++ 0x0A :: rebootLine := by
  have hspec := collected_spec ((splicedPieces line).map HttpEvent.onData)
  rw [show pieces ((splicedPieces line).map HttpEvent.onData) = splicedPieces line from rfl,
    appendFitting_splicedPieces hlength] at hspec
  rw [hspec.string_eq, List.takeWhile_eq_self_iff]
  intro c hc
  have hne : c ≠ 0 := by
    rintro rfl
    simp [hnul, rebootLine] at hc
  simpa using hne

/-- A line that nobody sent. The piece in the middle does not fit and is dropped, and the end of the
    first one runs into the last one. -/
theorem spliced_reboot (hlength : line.length = 8180) (hend : 0x0A ∉ line) (hnul : 0 ∉ line)
    (hother : ¬ rebootLine <+: line) :
    let events := (splicedPieces line).map HttpEvent.onData
    rebootLine ∈ commandLines (collected events) ∧
      (∀ sent ∈ tokens (pieces events).flatten, ¬ rebootLine <+: sent) ∧
      ¬ (collected events).text <+: (pieces events).flatten := by
  intro events
  have hpieces : pieces events = splicedPieces line := rfl
  have hbody : (pieces events).flatten =
      line ++ 0x0A :: ([0x72, 0x65] ++ List.replicate 20 0x2E ++ [0x62, 0x6F, 0x6F, 0x74]) := by
    rw [hpieces]
    simp [splicedPieces]
  have hspec := collected_spec events
  rw [hpieces, appendFitting_splicedPieces hlength] at hspec
  refine ⟨?_, ?_, ?_⟩
  · rw [commandLines, string_splicedPieces hlength hnul, tokens, tokensFrom_line hend]
    exact List.mem_append_right _ (by decide)
  · -- neither of the two lines that were sent begins like that
    rw [hbody, tokens, tokensFrom_line hend]
    intro sent hsent
    rcases List.mem_append.mp hsent with hfirst | hsecond
    · have hline : sent = line := by
        unfold token at hfirst
        split at hfirst
        · cases hfirst
        · exact List.mem_singleton.mp hfirst
      rwa [hline]
    · have hall : ∀ sent ∈ tokens ([0x72, 0x65] ++ List.replicate 20 0x2E ++
          [0x62, 0x6F, 0x6F, 0x74]), ¬ rebootLine <+: sent := by decide
      exact hall sent hsecond
  · rw [hspec.text_eq, hbody, List.prefix_append_right_inj]
    decide

/-- With a line of 8180 characters. -/
theorem spliced_command :
    let events := (splicedPieces (List.replicate 8180 0x78)).map HttpEvent.onData
    rebootLine ∈ commandLines (collected events) ∧
      (∀ sent ∈ tokens (pieces events).flatten, ¬ rebootLine <+: sent) ∧
      ¬ (collected events).text <+: (pieces events).flatten :=
  spliced_reboot List.length_replicate (by rw [List.mem_replicate]; decide)
    (by rw [List.mem_replicate]; decide) fun hfront => by
      have hfirst := List.eq_of_mem_replicate (hfront.subset (List.mem_cons_self (a := 0x72)))
      exact absurd hfirst (by decide)

end SubnetRouter.Ntfy
