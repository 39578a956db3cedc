import SubnetRouter.Lib.Bytes

namespace SubnetRouter.Lib

/-!
# Byte strings in a buffer

A walk over a buffer meets one byte string after the other.  `HoldsAt l i s` says that `s` stands
in `l` at index `i`.

* `holdsAt_append` — a string is read piece by piece.
* `HoldsAt.byteAt_eq`, `HoldsAt.be16_eq`, `HoldsAt.be32_eq` — its fields are those of the buffer.
* `byteAt_append_of_le` — what is behind a string.
-/

/-- `s` stands in `l` at index `i`. -/
def HoldsAt (l : List UInt8) (i : Nat) (s : List UInt8) : Prop := s <+: l.drop i

variable {l s t : List UInt8} {i k : Nat}

theorem holdsAt_append : HoldsAt l i (s ++ t) ↔ HoldsAt l i s ∧ HoldsAt l (i + s.length) t := by
  unfold HoldsAt
  rw [← List.drop_drop]
  constructor
  · rintro ⟨rest, hrest⟩
    rw [← hrest, List.append_assoc, List.drop_left]
    exact ⟨List.prefix_append _ _, List.prefix_append _ _⟩
  · rintro ⟨⟨rest, hrest⟩, htail⟩
    rw [← hrest, List.drop_left] at htail
    rw [← hrest]
    exact (List.prefix_append_right_inj s).mpr htail

theorem HoldsAt.byteAt_eq (h : HoldsAt l i s) (hk : k < s.length) :
    byteAt l (i + k) = byteAt s k := by
  obtain ⟨rest, hrest⟩ := h
  rw [byteAt, List.getD_eq_getElem?_getD, ← List.getElem?_drop, ← hrest,
    List.getElem?_append_left hk, ← List.getD_eq_getElem?_getD, byteAt]

theorem HoldsAt.be16_eq (h : HoldsAt l i s) (hk : k + 2 ≤ s.length) :
    be16 l (i + k) = be16 s k := by
  rw [be16, be16, h.byteAt_eq (by omega), Nat.add_assoc, h.byteAt_eq (by omega)]

theorem HoldsAt.be32_eq (h : HoldsAt l i s) (hk : k + 4 ≤ s.length) :
    be32 l (i + k) = be32 s k := by
  rw [be32, be32, h.be16_eq (by omega), Nat.add_assoc, h.be16_eq (by omega)]

/-- The front of a buffer stands at its start. -/
theorem holdsAt_zero : HoldsAt l 0 s ↔ s <+: l := by rw [HoldsAt, List.drop_zero]

/-- Behind a string the index counts on. -/
theorem byteAt_append_of_le (m : List UInt8) (h : l.length ≤ i) :
    byteAt (l ++ m) i = byteAt m (i - l.length) := by
  obtain ⟨k, rfl⟩ := Nat.exists_eq_add_of_le h
  rw [byteAt_append_right, Nat.add_sub_cancel_left]

end SubnetRouter.Lib
