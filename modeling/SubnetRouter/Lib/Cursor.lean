import Mathlib.Data.List.GetD
import SubnetRouter.Lib.Memory

namespace SubnetRouter.Lib

/-!
# Writing along a pointer

C code that makes a message goes along it with a pointer: it writes some bytes and moves behind
them.  A `Cursor` is a buffer with such a pointer.  However many writes there are, what they have
written is one string of bytes, and they stay inside the buffer exactly if its end does.

* `put` — one write.
* `Wrote` — what a sequence of writes has done; `Wrote.put` — one more.
* `Wrote.load`, `Wrote.load_disjoint` — what is in memory then.
-/

namespace Memory

/-- Two adjacent stores are one. -/
theorem store_append (m : Memory) (off : Nat) (as bs : List UInt8) :
    m.store off (as ++ bs) = (m.store off as).store (off + as.length) bs := by
  funext i
  unfold store
  rw [List.length_append]
  by_cases hright : off + as.length ≤ i ∧ i < off + as.length + bs.length
  · have hboth : off ≤ i ∧ i < off + (as.length + bs.length) := by omega
    rw [if_pos hright, if_pos hboth, List.getD_append_right _ _ _ _ (by omega)]
    congr 1
    omega
  · rw [if_neg hright]
    by_cases hleft : off ≤ i ∧ i < off + as.length
    · have hboth : off ≤ i ∧ i < off + (as.length + bs.length) := by omega
      rw [if_pos hleft, if_pos hboth, List.getD_append _ _ _ _ (by omega)]
    · have hboth : ¬ (off ≤ i ∧ i < off + (as.length + bs.length)) := by omega
      rw [if_neg hleft, if_neg hboth]

theorem store_nil (m : Memory) (off : Nat) : m.store off [] = m := by
  funext i
  have hout : ¬ (off ≤ i ∧ i < off + ([] : List UInt8).length) := by
    rw [List.length_nil]
    omega
  unfold store
  rw [if_neg hout]

end Memory

/-- A buffer, and the place to write to next. -/
structure Cursor where
  buf : Buffer
  pos : Nat

namespace Cursor

/-- Write bytes, and move behind them. -/
def put (c : Cursor) (bs : List UInt8) : Cursor := ⟨c.buf.store c.pos bs, c.pos + bs.length⟩

/-- From one cursor to the other these bytes have been written, and nothing else. Whether they were
    inside the buffer is stated along with it, as an equivalence. -/
structure Wrote (c : Cursor) (bs : List UInt8) (d : Cursor) : Prop where
  cap : d.buf.cap = c.buf.cap
  pos : d.pos = c.pos + bs.length
  mem : d.buf.mem = c.buf.mem.store c.pos bs
  inBounds : d.buf.InBounds ↔
    c.buf.InBounds ∧ (bs.length = 0 ∨ c.pos + bs.length ≤ c.buf.cap)

variable {c d : Cursor} {bs cs : List UInt8} {off n : Nat}

theorem Wrote.nil (c : Cursor) : Wrote c [] c :=
  ⟨rfl, rfl, (Memory.store_nil _ _).symm, by simp⟩

/-- **One more write.** -/
theorem Wrote.put (h : Wrote c bs d) (cs : List UInt8) : Wrote c (bs ++ cs) (d.put cs) where
  cap := h.cap
  pos := by
    show d.pos + cs.length = _
    rw [h.pos, List.length_append, Nat.add_assoc]
  mem := by
    show d.buf.mem.store d.pos cs = _
    rw [h.mem, h.pos, Memory.store_append]
  inBounds := by
    show (d.buf.store d.pos cs).InBounds ↔ _
    rw [Buffer.inBounds_store, h.inBounds, h.pos, h.cap, List.length_append, and_assoc]
    refine and_congr_right fun _ => ?_
    omega

/-- What was written is there. -/
theorem Wrote.load (h : Wrote c bs d) : d.buf.mem.load c.pos bs.length = bs := by
  rw [h.mem, Memory.load_store_self]

/-- Everything else is as it was. -/
theorem Wrote.load_disjoint (h : Wrote c bs d) (hoff : off + n ≤ c.pos ∨ c.pos + bs.length ≤ off) :
    d.buf.mem.load off n = c.buf.mem.load off n := by
  rw [h.mem, Memory.load_store_disjoint _ hoff]

end Cursor

end SubnetRouter.Lib
