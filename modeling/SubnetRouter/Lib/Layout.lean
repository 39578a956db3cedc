import SubnetRouter.Lib.CharArray

namespace SubnetRouter.Lib

/-!
# Structs as bytes

A `Layout` says how the values of a type lie in a fixed number of bytes.  Reading takes the
first bytes of what is there, and zeros for what is missing, as a read into a cleared buffer
does.

* `u8`, `u32`, `chars` — bytes, little-endian words and character arrays.
* `pair`, `map` — members one behind the other, and a struct for a tuple of them.
* `table` — an array of structs; `decode_encode` — what was written reads back.
-/

/-- How the values of a type lie in memory. Every value has the same number of bytes, and what is
    behind them does not disturb the reading. -/
structure Layout (α : Type) where
  size : Nat
  encode : α → List UInt8
  decode : List UInt8 → α
  length_encode : ∀ x, (encode x).length = size
  decode_append : ∀ x rest, decode (encode x ++ rest) = x

namespace Layout

variable {α β : Type}

/-- What was written reads back. -/
theorem decode_encode (l : Layout α) (x : α) : l.decode (l.encode x) = x := by
  have h := l.decode_append x []
  rwa [List.append_nil] at h

/-- `uint8_t`. The one byte is the value. -/
def u8 : Layout UInt8 where
  size := 1
  encode b := [b]
  decode bs := byteAt bs 0
  length_encode _ := rfl
  decode_append _ _ := rfl

/-- The four bytes of a word. -/
theorem ofNat_bytes (v : UInt32) : UInt32.ofNat ((UInt8.ofNat v.toNat).toNat +
    (UInt8.ofNat (v.toNat / 256)).toNat * 256 + (UInt8.ofNat (v.toNat / 65536)).toNat * 65536 +
    (UInt8.ofNat (v.toNat / 16777216)).toNat * 16777216) = v := by
  have hv := v.toNat_lt
  apply UInt32.toNat_inj.mp
  simp only [UInt8.toNat_ofNat', UInt32.toNat_ofNat']
  omega

/-- `uint32_t`, the low byte first, as the processor has it. -/
def u32 : Layout UInt32 where
  size := 4
  encode v := [UInt8.ofNat v.toNat, UInt8.ofNat (v.toNat / 256), UInt8.ofNat (v.toNat / 65536),
    UInt8.ofNat (v.toNat / 16777216)]
  decode bs := UInt32.ofNat ((byteAt bs 0).toNat + (byteAt bs 1).toNat * 256 +
    (byteAt bs 2).toNat * 65536 + (byteAt bs 3).toNat * 16777216)
  length_encode _ := rfl
  decode_append v _ := ofNat_bytes v

/-- `char[n]`. All of it counts, also what is behind a terminator. -/
def chars (n : Nat) : Layout (CharArray n) where
  size := n
  encode a := a.bytes
  decode bs := ⟨(List.range n).map (byteAt bs), by simp⟩
  length_encode a := a.length_eq
  decode_append a rest := by
    ext1
    have hwhole := take_drop_eq_map (l := a.bytes ++ rest) (i := 0) (n := n)
      (by simp [a.length_eq])
    simp only [Nat.zero_add, List.drop_zero] at hwhole
    show (List.range n).map (byteAt (a.bytes ++ rest)) = a.bytes
    rw [← hwhole, List.take_left' a.length_eq]

/-- One behind the other. The second is read where the first one ends, without a gap for
    alignment. -/
def pair (l : Layout α) (m : Layout β) : Layout (α × β) where
  size := l.size + m.size
  encode p := l.encode p.1 ++ m.encode p.2
  decode bs := (l.decode bs, m.decode (bs.drop l.size))
  length_encode p := by rw [List.length_append, l.length_encode, m.length_encode]
  decode_append p rest := by
    rw [List.append_assoc, l.decode_append, List.drop_left' (l.length_encode p.1),
      m.decode_append]

/-- The same bytes, for another type. Only one direction is asked for: what is put apart comes
    together again. -/
def map (l : Layout α) (make : α → β) (parts : β → α) (h : ∀ x, make (parts x) = x) :
    Layout β where
  size := l.size
  encode x := l.encode (parts x)
  decode bs := make (l.decode bs)
  length_encode x := l.length_encode (parts x)
  decode_append x rest := by rw [l.decode_append, h]

/-- The structs of an array. -/
def decodeTable (l : Layout α) : Nat → List UInt8 → List α
  | 0, _ => []
  | n + 1, bs => l.decode bs :: l.decodeTable n (bs.drop l.size)

@[simp] theorem length_decodeTable (l : Layout α) (n : Nat) (bs : List UInt8) :
    (l.decodeTable n bs).length = n := by
  induction n generalizing bs with
  | zero => rfl
  | succ n ih => rw [decodeTable, List.length_cons, ih]

/-- The struct at an index. -/
theorem getElem?_decodeTable (l : Layout α) {n i : Nat} (h : i < n) (bs : List UInt8) :
    (l.decodeTable n bs)[i]? = some (l.decode (bs.drop (i * l.size))) := by
  induction n generalizing i bs with
  | zero => omega
  | succ n ih =>
    cases i with
    | zero => simp [decodeTable]
    | succ i =>
      rw [decodeTable, List.getElem?_cons_succ, ih (by omega), List.drop_drop]
      congr 3
      rw [Nat.add_mul, Nat.one_mul, Nat.add_comm]

theorem length_flatMap_encode (l : Layout α) (xs : List α) :
    (xs.flatMap l.encode).length = xs.length * l.size := by
  induction xs with
  | nil => simp
  | cons x xs ih =>
    rw [List.flatMap_cons, List.length_append, l.length_encode, ih, List.length_cons,
      Nat.add_mul, Nat.one_mul, Nat.add_comm]

theorem decodeTable_append (l : Layout α) (xs : List α) (rest : List UInt8) :
    l.decodeTable xs.length (xs.flatMap l.encode ++ rest) = xs := by
  induction xs with
  | nil => rfl
  | cons x xs ih =>
    rw [List.length_cons, decodeTable, List.flatMap_cons, List.append_assoc, l.decode_append,
      List.drop_left' (l.length_encode x), ih]

/-- An array of `n` structs. Its length is part of the type, so a value of another length cannot be
    written. -/
def table (l : Layout α) (n : Nat) : Layout { xs : List α // xs.length = n } where
  size := n * l.size
  encode xs := xs.1.flatMap l.encode
  decode bs := ⟨l.decodeTable n bs, l.length_decodeTable n bs⟩
  length_encode xs := by rw [l.length_flatMap_encode, xs.2]
  decode_append xs rest := by
    obtain ⟨xs, rfl⟩ := xs
    exact Subtype.ext (l.decodeTable_append xs rest)

end Layout

end SubnetRouter.Lib
