import SubnetRouter.Lib.Memory

namespace SubnetRouter.Lib

/-!
# Output through a buffer

A program collects its output in an allocated buffer, sends the buffer off as a chunk when it gets
full, and what is left at the end.

* `OutBuffer` — the buffer, the place of its next byte and the chunks; `put`, `send`, `flush`.
* `Carries` — what was sent and what is still in the buffer make up a text, and every store was in
  bounds.
* `Carries.put`, `Carries.flush` — a piece that fits is added to the text; a flush leaves it.
* `Carries.foldl` — a loop whose rounds each add a piece and end below a limit.
-/

/-- A buffer, the place of its next byte and the chunks that were sent. -/
structure OutBuffer where
  buf : Buffer
  pos : Nat
  sent : List (List UInt8)

namespace OutBuffer

/-- A fresh buffer, with whatever is in it. -/
def start (cap : Nat) (junk : Memory) : OutBuffer := ⟨.alloc cap junk, 0, []⟩

/-- Copy a piece to the next place, whether it fits or not. -/
def put (o : OutBuffer) (piece : List UInt8) : OutBuffer :=
  { o with buf := o.buf.store o.pos piece, pos := o.pos + piece.length }

/-- The bytes in the buffer. -/
def pending (o : OutBuffer) : List UInt8 := o.buf.mem.load 0 o.pos

/-- Send the bytes in the buffer. -/
def send (o : OutBuffer) : OutBuffer := { o with pos := 0, sent := o.sent ++ [o.pending] }

/-- Send them if there are any. -/
def flush (o : OutBuffer) : OutBuffer := if 0 < o.pos then o.send else o

/-- Through a buffer of `cap` bytes, the text so far: sent, or still in the buffer. Nothing is lost
    between the two, and nothing is sent twice. -/
structure Carries (cap : Nat) (o : OutBuffer) (text : List UInt8) : Prop where
  cap_eq : o.buf.cap = cap
  text_eq : o.sent.flatten ++ o.pending = text
  pos_le : o.pos ≤ cap
  inBounds : o.buf.InBounds
  /-- A chunk of no bytes would end a chunked response. -/
  chunks : ∀ chunk ∈ o.sent, chunk ≠ [] ∧ chunk.length ≤ cap

variable {α : Type} {cap : Nat} {o : OutBuffer} {text piece : List UInt8} {junk : Memory}

@[simp] theorem pos_put : (o.put piece).pos = o.pos + piece.length := rfl

@[simp] theorem pos_send : o.send.pos = 0 := rfl

@[simp] theorem length_pending : o.pending.length = o.pos := Memory.length_load ..

theorem pos_flush : o.flush.pos = 0 := by
  unfold flush
  split
  · rfl
  · show o.pos = 0
    omega

theorem carries_start (cap : Nat) (junk : Memory) : Carries cap (start cap junk) [] where
  cap_eq := rfl
  text_eq := rfl
  pos_le := Nat.zero_le _
  inBounds := Buffer.inBounds_alloc cap junk
  chunks := fun _ hchunk => absurd hchunk List.not_mem_nil

/-- A piece behind those in the buffer. -/
theorem pending_put (o : OutBuffer) (piece : List UInt8) :
    (o.put piece).pending = o.pending ++ piece := by
  show (o.buf.mem.store o.pos piece).load 0 (o.pos + piece.length) = _
  rw [Memory.load_add, Memory.load_store_disjoint _ (Or.inl (by omega)), Nat.zero_add,
    Memory.load_store_self]
  rfl

/-- **A piece that fits is added.** -/
theorem Carries.put (h : Carries cap o text) (hfits : o.pos + piece.length ≤ cap) :
    Carries cap (o.put piece) (text ++ piece) where
  cap_eq := h.cap_eq
  text_eq := by
    show o.sent.flatten ++ (o.put piece).pending = _
    rw [pending_put, ← List.append_assoc, h.text_eq]
  pos_le := hfits
  inBounds := Buffer.inBounds_store.mpr ⟨h.inBounds, Or.inr (h.cap_eq ▸ hfits)⟩
  chunks := h.chunks

theorem Carries.send (h : Carries cap o text) (hpos : 0 < o.pos) : Carries cap o.send text where
  cap_eq := h.cap_eq
  text_eq := by
    show (o.sent ++ [o.pending]).flatten ++ [] = text
    rw [List.append_nil, List.flatten_concat]
    exact h.text_eq
  pos_le := Nat.zero_le _
  inBounds := h.inBounds
  chunks := by
    intro chunk hchunk
    rcases List.mem_append.mp hchunk with hold | hnew
    · exact h.chunks chunk hold
    · rw [List.mem_singleton.mp hnew]
      refine ⟨fun hempty => ?_, by rw [length_pending]; exact h.pos_le⟩
      have hlength : o.pending.length = 0 := by rw [hempty, List.length_nil]
      rw [length_pending] at hlength
      omega

/-- **A flush leaves the text.** -/
theorem Carries.flush (h : Carries cap o text) : Carries cap o.flush text := by
  unfold OutBuffer.flush
  split
  · rename_i hpos
    exact h.send hpos
  · exact h

/-- After a flush everything is sent. -/
theorem Carries.flatten_flush (h : Carries cap o text) : o.flush.sent.flatten = text := by
  have htext := h.flush.text_eq
  have hpending : o.flush.pending = [] := by
    apply List.length_eq_zero_iff.mp
    rw [length_pending, pos_flush]
  rwa [hpending, List.append_nil] at htext

/-- **The loop.** Rounds that each add a piece, from below a limit to below it. -/
theorem Carries.foldl {f : OutBuffer → α → OutBuffer} {pieces : α → List UInt8} {limit : Nat}
    (hround : ∀ o text x, Carries cap o text → o.pos ≤ limit →
      Carries cap (f o x) (text ++ pieces x) ∧ (f o x).pos ≤ limit)
    (h : Carries cap o text) (hpos : o.pos ≤ limit) (xs : List α) :
    Carries cap (xs.foldl f o) (text ++ xs.flatMap pieces) ∧ (xs.foldl f o).pos ≤ limit := by
  induction xs generalizing o text with
  | nil => exact ⟨by simpa using h, hpos⟩
  | cons x xs ih =>
    obtain ⟨hnext, hlimit⟩ := hround o text x h hpos
    rw [List.foldl_cons, List.flatMap_cons, ← List.append_assoc]
    exact ih hnext hlimit

end OutBuffer

end SubnetRouter.Lib
