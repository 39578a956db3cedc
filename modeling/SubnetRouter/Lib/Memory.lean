import SubnetRouter.Lib.Bytes

namespace SubnetRouter.Lib

/-!
# Byte memory and allocated buffers

A `Memory` is a byte at every address; a `Buffer` is an allocation of `cap` bytes in it,
together with a log of the ranges written so far.  A store outside the allocation still
happens (as it does in C), and `InBounds` says that none did.

* `load_store_self`, `load_store_disjoint` — reading back what was, or was not, written.
* `inBounds_store` — bounds checking, store by store.
-/

/-- A byte at every offset from the start of the allocation. -/
abbrev Memory := Nat → UInt8

namespace Memory

/-- Write bytes at an offset. -/
def store (m : Memory) (off : Nat) (bs : List UInt8) : Memory :=
  fun i => if off ≤ i ∧ i < off + bs.length then bs.getD (i - off) 0 else m i

/-- Read `n` bytes at an offset. -/
def load (m : Memory) (off n : Nat) : List UInt8 := (List.range n).map fun k => m (off + k)

@[simp] theorem length_load (m : Memory) (off n : Nat) : (m.load off n).length = n := by
  simp [load]

/-- A byte of a read is the byte in memory. -/
theorem byteAt_load (m : Memory) (off : Nat) {n k : Nat} (h : k < n) :
    byteAt (m.load off n) k = m (off + k) := by
  have hk : k < (m.load off n).length := by rwa [length_load]
  rw [byteAt, List.getD_eq_getElem?_getD, List.getElem?_eq_getElem hk, Option.getD_some]
  simp only [load, List.getElem_map, List.getElem_range]

/-- A field of a read is the same field read by itself. -/
theorem be16_load (m : Memory) (off : Nat) {n k : Nat} (h : k + 2 ≤ n) :
    be16 (m.load off n) k = be16 (m.load (off + k) 2) 0 := by
  have h0 : k < n := by omega
  have h1 : k + 1 < n := by omega
  simp only [be16, byteAt_load m off h0, byteAt_load m off h1,
    byteAt_load m (off + k) (show 0 < 2 by omega),
    byteAt_load m (off + k) (show 0 + 1 < 2 by omega), Nat.add_zero, Nat.zero_add, Nat.add_assoc]

theorem be32_load (m : Memory) (off : Nat) {n k : Nat} (h : k + 4 ≤ n) :
    be32 (m.load off n) k = be32 (m.load (off + k) 4) 0 := by
  rw [be32, be32, be16_load m off (show k + 2 ≤ n by omega),
    be16_load m off (show k + 2 + 2 ≤ n by omega), be16_load m (off + k) (show 0 + 2 ≤ 4 by omega),
    be16_load m (off + k) (show 0 + 2 + 2 ≤ 4 by omega)]
  rfl

/-- A stored byte reads back. -/
theorem store_self (m : Memory) (off : Nat) {bs : List UInt8} {k : Nat} (h : k < bs.length) :
    m.store off bs (off + k) = byteAt bs k := by
  have hin : off ≤ off + k ∧ off + k < off + bs.length := by omega
  rw [store, if_pos hin, Nat.add_sub_cancel_left, byteAt]

/-- A store elsewhere leaves the byte. -/
theorem store_disjoint (m : Memory) {o i : Nat} {bs : List UInt8}
    (h : i < o ∨ o + bs.length ≤ i) : m.store o bs i = m i := by
  have hout : ¬ (o ≤ i ∧ i < o + bs.length) := by omega
  rw [store, if_neg hout]

/-- A store gives back its bytes. -/
theorem load_store_self (m : Memory) (off : Nat) (bs : List UInt8) :
    (m.store off bs).load off bs.length = bs := by
  apply List.ext_getElem (by simp)
  intro k hk hk'
  simp only [load, List.getElem_map, List.getElem_range]
  rw [store_self m off hk', byteAt, List.getD_eq_getElem?_getD, List.getElem?_eq_getElem hk',
    Option.getD_some]

/-- A stored 16-bit field reads back. -/
theorem be16_load_store (m : Memory) (off v : Nat) :
    be16 ((m.store off (bytes16 v)).load off 2) 0 = v % 65536 := by
  have hload := load_store_self m off (bytes16 v)
  rw [length_bytes16] at hload
  rw [hload]
  exact toNat_bytes16 v

/-- A store elsewhere is not seen. -/
theorem load_store_disjoint (m : Memory) {off n o : Nat} {bs : List UInt8}
    (h : off + n ≤ o ∨ o + bs.length ≤ off) : (m.store o bs).load off n = m.load off n := by
  apply List.map_congr_left
  intro k hk
  have hk' := List.mem_range.mp hk
  exact store_disjoint m (by omega)

/-- Two adjacent reads are one. -/
theorem load_add (m : Memory) (off n k : Nat) :
    m.load off (n + k) = m.load off n ++ m.load (off + n) k := by
  simp only [load, List.range_add, List.map_append, List.map_map, Function.comp_def, Nat.add_assoc]

/-- The first byte of a read, and the others. -/
theorem load_succ (m : Memory) (off n : Nat) :
    m.load off (n + 1) = m off :: m.load (off + 1) n := by
  rw [Nat.add_comm n 1, load_add]
  rfl

theorem take_load (m : Memory) (off : Nat) {n k : Nat} (h : k ≤ n) :
    (m.load off n).take k = m.load off k := by
  have hsplit := load_add m off k (n - k)
  rw [Nat.add_sub_cancel' h] at hsplit
  rw [hsplit, List.take_left' (length_load m off k)]

theorem drop_load (m : Memory) (off : Nat) {n k : Nat} (h : k ≤ n) :
    (m.load off n).drop k = m.load (off + k) (n - k) := by
  have hsplit := load_add m off k (n - k)
  rw [Nat.add_sub_cancel' h] at hsplit
  rw [hsplit, List.drop_left' (length_load m off k)]

end Memory

/-- An allocation of `cap` bytes and the ranges `(offset, length)` written to it. -/
structure Buffer where
  cap : Nat
  mem : Memory
  writes : List (Nat × Nat)

namespace Buffer

/-- A fresh allocation with whatever the heap held. -/
def alloc (cap : Nat) (junk : Memory) : Buffer := ⟨cap, junk, []⟩

def store (b : Buffer) (off : Nat) (bs : List UInt8) : Buffer :=
  ⟨b.cap, b.mem.store off bs, b.writes ++ [(off, bs.length)]⟩

/-- Every byte written lies inside the allocation. -/
def InBounds (b : Buffer) : Prop :=
  ∀ w ∈ b.writes, ∀ i, w.1 ≤ i → i < w.1 + w.2 → i < b.cap

variable {b : Buffer} {off : Nat} {bs : List UInt8}

@[simp] theorem cap_alloc (cap : Nat) (junk : Memory) : (alloc cap junk).cap = cap := rfl

@[simp] theorem cap_store : (b.store off bs).cap = b.cap := rfl

@[simp] theorem mem_store : (b.store off bs).mem = b.mem.store off bs := rfl

@[simp] theorem inBounds_alloc (cap : Nat) (junk : Memory) : (alloc cap junk).InBounds := by
  simp [InBounds, alloc]

/-- A store stays in bounds when it is empty or ends inside the allocation. -/
theorem inBounds_store :
    (b.store off bs).InBounds ↔ b.InBounds ∧ (bs.length = 0 ∨ off + bs.length ≤ b.cap) := by
  unfold InBounds
  simp only [store, List.mem_append, List.mem_singleton]
  constructor
  · intro h
    refine ⟨fun w hw => h w (.inl hw), ?_⟩
    by_cases hne : bs.length = 0
    · exact .inl hne
    · have hlast := h (off, bs.length) (.inr rfl) (off + bs.length - 1) (by omega) (by omega)
      exact .inr (by omega)
  · rintro ⟨h, hend⟩ w (hw | rfl) i hlo hhi
    · exact h w hw i hlo hhi
    · rcases hend with hzero | hend
      · simp only at hlo hhi
        omega
      · exact Nat.lt_of_lt_of_le hhi hend

end Buffer

end SubnetRouter.Lib
