import Mathlib.Algebra.Group.Nat.Defs
import Mathlib.Data.List.Induction

namespace SubnetRouter.Lib

/-!
# Byte strings in network order

Reading and writing 8-, 16- and 32-bit big-endian fields of a byte string.  Reads past the
end give `0`; callers check lengths first.
-/

/-- The byte at an index (`0` past the end). -/
def byteAt (l : List UInt8) (i : Nat) : UInt8 := l.getD i 0

/-- The big-endian 16-bit field at an index. -/
def be16 (l : List UInt8) (i : Nat) : Nat := (byteAt l i).toNat * 256 + (byteAt l (i + 1)).toNat

/-- The big-endian 32-bit field at an index. -/
def be32 (l : List UInt8) (i : Nat) : BitVec 32 :=
  BitVec.ofNat 32 (be16 l i * 65536 + be16 l (i + 2))

/-- A 16-bit value as two big-endian bytes. -/
def bytes16 (v : Nat) : List UInt8 := [UInt8.ofNat (v / 256), UInt8.ofNat v]

/-- A 32-bit value as four big-endian bytes. -/
def bytes32 (v : BitVec 32) : List UInt8 := bytes16 (v.toNat / 65536) ++ bytes16 v.toNat

variable {l m : List UInt8} {i v : Nat}

@[simp] theorem length_bytes16 (v : Nat) : (bytes16 v).length = 2 := rfl

@[simp] theorem length_bytes32 (v : BitVec 32) : (bytes32 v).length = 4 := rfl

theorem be16_lt (l : List UInt8) (i : Nat) : be16 l i < 65536 := by
  have h0 := (byteAt l i).toNat_lt
  have h1 := (byteAt l (i + 1)).toNat_lt
  unfold be16
  omega

/-- The first two bytes. -/
theorem take_two (h : 2 ≤ l.length) : l.take 2 = [byteAt l 0, byteAt l 1] := by
  rcases l with _ | ⟨a, _ | ⟨b, l⟩⟩
  · simp at h
  · simp at h
  · rfl

/-- A part of a byte string, byte by byte. -/
theorem take_drop_eq_map {n : Nat} (h : i + n ≤ l.length) :
    (l.drop i).take n = (List.range n).map fun k => byteAt l (i + k) := by
  apply List.ext_getElem
  · simp only [List.length_take, List.length_drop, List.length_map, List.length_range]
    omega
  · intro k hk hk'
    have hin : i + k < l.length := by
      simp only [List.length_map, List.length_range] at hk'
      omega
    simp only [List.getElem_take, List.getElem_drop, List.getElem_map, List.getElem_range, byteAt,
      List.getD_eq_getElem?_getD, List.getElem?_eq_getElem hin, Option.getD_some]

/-- Reading past a prefix reads the rest. -/
theorem byteAt_append_right (l m : List UInt8) (i : Nat) :
    byteAt (l ++ m) (l.length + i) = byteAt m i := by
  simp [byteAt, List.getD_eq_getElem?_getD, List.getElem?_append_right]

/-- Reading within a prefix ignores the rest. -/
theorem byteAt_append_left (m : List UInt8) (h : i < l.length) :
    byteAt (l ++ m) i = byteAt l i := by
  simp [byteAt, List.getD_eq_getElem?_getD, List.getElem?_append_left h]

/-- Bytes in front of a cut are still there. -/
theorem byteAt_take {n : Nat} (h : i < n) : byteAt (l.take n) i = byteAt l i := by
  rw [byteAt, byteAt, List.getD_eq_getElem?_getD, List.getD_eq_getElem?_getD,
    List.getElem?_take_of_lt h]

theorem be16_append_right (l m : List UInt8) (i : Nat) :
    be16 (l ++ m) (l.length + i) = be16 m i := by
  simp only [be16, Nat.add_assoc, byteAt_append_right]

theorem be16_append_left (m : List UInt8) (h : i + 1 < l.length) :
    be16 (l ++ m) i = be16 l i := by
  simp only [be16, byteAt_append_left m (show i < l.length by omega), byteAt_append_left m h]

theorem be32_append_right (l m : List UInt8) (i : Nat) :
    be32 (l ++ m) (l.length + i) = be32 m i := by
  rw [be32, be16_append_right, Nat.add_assoc, be16_append_right, ← be32]

/-- The value of two written bytes. -/
theorem toNat_bytes16 (v : Nat) :
    (UInt8.ofNat (v / 256)).toNat * 256 + (UInt8.ofNat v).toNat = v % 65536 := by
  simp only [UInt8.toNat_ofNat']
  omega

/-- A 16-bit field is written as its own two bytes. -/
theorem bytes16_be16 (l : List UInt8) (i : Nat) :
    bytes16 (be16 l i) = [byteAt l i, byteAt l (i + 1)] := by
  have hhi := (byteAt l i).toNat_lt
  have hlo := (byteAt l (i + 1)).toNat_lt
  have h0 : UInt8.ofNat (be16 l i / 256) = byteAt l i := by
    apply UInt8.toNat_inj.mp
    rw [UInt8.toNat_ofNat', be16]
    omega
  have h1 : UInt8.ofNat (be16 l i) = byteAt l (i + 1) := by
    apply UInt8.toNat_inj.mp
    rw [UInt8.toNat_ofNat', be16]
    omega
  rw [bytes16, h0, h1]

/-- A 32-bit field is written as its own four bytes. -/
theorem bytes32_be32 (l : List UInt8) (i : Nat) :
    bytes32 (be32 l i) = bytes16 (be16 l i) ++ bytes16 (be16 l (i + 2)) := by
  have hhi := be16_lt l i
  have hlo := be16_lt l (i + 2)
  have hval : (be32 l i).toNat = be16 l i * 65536 + be16 l (i + 2) := by
    rw [be32, BitVec.toNat_ofNat]
    omega
  have hlow : bytes16 (be16 l i * 65536 + be16 l (i + 2)) = bytes16 (be16 l (i + 2)) := by
    simp only [bytes16, List.cons.injEq, and_true]
    constructor <;> apply UInt8.toNat_inj.mp <;> simp only [UInt8.toNat_ofNat'] <;> omega
  have hdiv : (be16 l i * 65536 + be16 l (i + 2)) / 65536 = be16 l i := by omega
  rw [bytes32, hval, hlow, hdiv]

/-- Four bytes are those of the field that starts there. -/
theorem take_drop_four (h : i + 4 ≤ l.length) : (l.drop i).take 4 = bytes32 (be32 l i) := by
  rw [take_drop_eq_map h, bytes32_be32, bytes16_be16, bytes16_be16]
  rfl

/-- A written 32-bit field reads back. -/
theorem be32_bytes32 (v : BitVec 32) (m : List UInt8) : be32 (bytes32 v ++ m) 0 = v := by
  have hlo : be16 (bytes32 v ++ m) 2 = v.toNat % 65536 := toNat_bytes16 v.toNat
  have hhi : be16 (bytes32 v ++ m) 0 = v.toNat / 65536 % 65536 := toNat_bytes16 _
  have hv := v.isLt
  apply BitVec.eq_of_toNat_eq
  rw [be32, hlo, hhi, BitVec.toNat_ofNat]
  omega

/-! ### Byte strings as numbers -/

/-- The number that a byte string denotes. -/
def bytesValue (l : List UInt8) : Nat := l.foldl (fun n b => n * 256 + b.toNat) 0

theorem bytesValue_concat (l : List UInt8) (b : UInt8) :
    bytesValue (l ++ [b]) = bytesValue l * 256 + b.toNat := by
  rw [bytesValue, List.foldl_append]
  rfl

/-- Bytes in front are higher. -/
theorem bytesValue_append (l m : List UInt8) :
    bytesValue (l ++ m) = bytesValue l * 256 ^ m.length + bytesValue m := by
  induction m using List.reverseRecOn with
  | nil => simp [bytesValue]
  | append_singleton m b ih =>
    rw [← List.append_assoc, bytesValue_concat, bytesValue_concat, ih, List.length_append,
      List.length_singleton, Nat.pow_succ, Nat.add_mul, Nat.mul_assoc, Nat.add_assoc]

/-- Strings of one length with one value are equal. -/
theorem bytesValue_inj (hlen : l.length = m.length) : bytesValue l = bytesValue m ↔ l = m := by
  refine ⟨fun h => ?_, fun h => h ▸ rfl⟩
  induction l using List.reverseRecOn generalizing m with
  | nil => exact (List.length_eq_zero_iff.mp hlen.symm).symm
  | append_singleton l a ih =>
    rcases List.eq_nil_or_concat m with rfl | ⟨m, b, rfl⟩
    · simp at hlen
    rw [List.concat_eq_append] at hlen h ⊢
    rw [bytesValue_concat, bytesValue_concat] at h
    have ha := a.toNat_lt
    have hb := b.toNat_lt
    have hlow : a = b := UInt8.toNat_inj.mp (by omega)
    have hhigh : l = m := ih (by simpa using hlen) (by omega)
    rw [hlow, hhigh]

/-- A 32-bit value is the number of its bytes. -/
theorem bytesValue_bytes32 (v : BitVec 32) : bytesValue (bytes32 v) = v.toNat := by
  have hv := v.isLt
  simp only [bytesValue, bytes32, bytes16, List.cons_append, List.nil_append, List.foldl_cons,
    List.foldl_nil, UInt8.toNat_ofNat']
  omega

end SubnetRouter.Lib
