import SubnetRouter.Lib.Checksum

namespace SubnetRouter.Lib

/-!
# Incremental update of an Internet checksum (RFC 1624)

When a 16-bit word `m` of the data becomes `m'`, the checksum `c` becomes `~(~c + ~m + m')`, a
one's complement sum.  The words are added in the byte order of the machine, here the low byte
first; this turns every word by one byte, and so the sum.

* `carryLoop`, `updatedChecksum` — the loop of end-around carries, and the new checksum.
* `wordSum_set` — what one byte adds to the sum of the words.
* `sum_update` — the sum after an update of a word at an even place, and at an odd place.
-/

/-! ### Words in the byte order of the machine -/

/-- The 16-bit word at an address, low byte first. -/
def le16 (m : Memory) (i : Nat) : Nat := (m i).toNat + (m (i + 1)).toNat * 256

/-- A word in memory. -/
def leBytes (v : Nat) : List UInt8 := [UInt8.ofNat v, UInt8.ofNat (v / 256)]

/-- The two bytes of a word change places. -/
def swap16 (v : Nat) : Nat := v % 256 * 256 + v / 256

/-- `while (sum >> 16) sum = (sum & 0xFFFF) + (sum >> 16);` -/
def carryLoop (sum : Nat) : Nat :=
  if sum < 65536 then sum else carryLoop (sum % 65536 + sum / 65536)
termination_by sum
decreasing_by omega

/-- The checksum `c` after the word `m` has become `m'`. -/
def updatedChecksum (c m m' : Nat) : Nat := 65535 - carryLoop (65535 - c + (65535 - m) + m')

variable {m : Memory} {l : List UInt8} {i k n v w c : Nat} {a b : UInt8}

@[simp] theorem length_leBytes (v : Nat) : (leBytes v).length = 2 := rfl

theorem le16_lt (m : Memory) (i : Nat) : le16 m i < 65536 := by
  have hlo := (m i).toNat_lt
  have hhi := (m (i + 1)).toNat_lt
  unfold le16
  omega

theorem swap16_lt (h : v < 65536) : swap16 v < 65536 := by
  unfold swap16
  omega

theorem swap16_swap16 (h : v < 65536) : swap16 (swap16 v) = v := by
  unfold swap16
  omega

/-- The word in network order. -/
theorem swap16_le16 (m : Memory) (i : Nat) : swap16 (le16 m i) = be16 (m.load i 2) 0 := by
  have hlo := (m i).toNat_lt
  have hhi := (m (i + 1)).toNat_lt
  have hbe : be16 (m.load i 2) 0 = (m i).toNat * 256 + (m (i + 1)).toNat := rfl
  rw [hbe, swap16, le16]
  omega

/-- A word turned by one byte is 256 times the word. -/
theorem swap16_mod (v : Nat) : swap16 v % 65535 = 256 * v % 65535 := by
  unfold swap16
  omega

theorem le16_store_self (m : Memory) (i : Nat) (h : v < 65536) :
    le16 (m.store i (leBytes v)) i = v := by
  have h0 := @Memory.store_self m i (leBytes v) 0 (by rw [length_leBytes]; omega)
  have h1 := @Memory.store_self m i (leBytes v) 1 (by rw [length_leBytes]; omega)
  rw [Nat.add_zero] at h0
  rw [le16, h0, h1]
  change (UInt8.ofNat v).toNat + (UInt8.ofNat (v / 256)).toNat * 256 = v
  rw [UInt8.toNat_ofNat', UInt8.toNat_ofNat']
  omega

theorem le16_store_disjoint (m : Memory) {o : Nat} {bs : List UInt8}
    (h : i + 2 ≤ o ∨ o + bs.length ≤ i) : le16 (m.store o bs) i = le16 m i := by
  rw [le16, le16, Memory.store_disjoint _ (by omega), Memory.store_disjoint _ (by omega)]

/-! ### The new checksum -/

/-- The loop folds the sum. -/
theorem carryLoop_eq (sum : Nat) : carryLoop sum = fold16 sum := by
  induction sum using carryLoop.induct with
  | case1 sum hlt => rw [carryLoop, if_pos hlt, fold16_of_lt hlt]
  | case2 sum hge ih => rw [carryLoop, if_neg hge, ih, fold16_carry]

theorem updatedChecksum_lt (c m m' : Nat) : updatedChecksum c m m' < 65536 := by
  unfold updatedChecksum
  omega

/-- **RFC 1624**: the sum of the checksum and the word is kept, as a one's complement number. -/
theorem updatedChecksum_add (m' : Nat) {m : Nat} (hc : c < 65536) (hm : m < 65536) :
    (updatedChecksum c m m' + m') % 65535 = (c + m) % 65535 := by
  have hfold := fold16_lt (65535 - c + (65535 - m) + m')
  rw [updatedChecksum, carryLoop_eq]
  rw [fold16] at hfold ⊢
  split_ifs at hfold ⊢ <;> omega

/-! ### What a byte adds to the sum -/

/-- A byte at an even place is the high byte of its word. -/
def byteWeight (i : Nat) : Nat := if i % 2 = 0 then 256 else 1

/-- Another byte at a place. It counts once or 256 times, by where it stands in its word. -/
theorem wordSum_set (h : i < l.length) (b : UInt8) :
    wordSum (l.set i b) + byteWeight i * (byteAt l i).toNat =
      wordSum l + byteWeight i * b.toNat := by
  induction l using wordSum.induct generalizing i with
  | case1 x y rest ih =>
    -- The first byte of a word, the second one, or a byte further on.
    rcases i with _ | _ | i
    · change b.toNat * 256 + y.toNat + wordSum rest + 256 * x.toNat
        = x.toNat * 256 + y.toNat + wordSum rest + 256 * b.toNat
      omega
    · change x.toNat * 256 + b.toNat + wordSum rest + 1 * y.toNat
        = x.toNat * 256 + y.toNat + wordSum rest + 1 * b.toNat
      omega
    · have hrest := ih (i := i) (by simpa using h)
      -- Two places further on the weight is the same.
      have hweight : byteWeight (i + 1 + 1) = byteWeight i := by
        unfold byteWeight
        rw [show (i + 1 + 1) % 2 = i % 2 by omega]
      rw [hweight]
      change x.toNat * 256 + y.toNat + wordSum (rest.set i b) + byteWeight i * (byteAt rest i).toNat
        = x.toNat * 256 + y.toNat + wordSum rest + byteWeight i * b.toNat
      omega
  | case2 x =>
    obtain rfl : i = 0 := by simpa using h
    change b.toNat * 256 + 256 * x.toNat = x.toNat * 256 + 256 * b.toNat
    omega
  | case3 => simp at h

/-- A store in a range is a change of the bytes read there. -/
theorem load_store_two (m : Memory) (off n k : Nat) (a b : UInt8) :
    (m.store (off + k) [a, b]).load off n = ((m.load off n).set k a).set (k + 1) b := by
  apply List.ext_getElem
  · simp
  · intro j hj hj'
    rw [Memory.length_load] at hj
    simp only [Memory.load, List.getElem_map, List.getElem_range, List.getElem_set]
    by_cases h1 : k + 1 = j
    · subst h1
      rw [if_pos rfl, ← Nat.add_assoc]
      exact @Memory.store_self m (off + k) [a, b] 1 (by simp)
    · rw [if_neg h1]
      by_cases h0 : k = j
      · subst h0
        rw [if_pos rfl]
        exact @Memory.store_self m (off + k) [a, b] 0 (by simp)
      · rw [if_neg h0]
        exact Memory.store_disjoint m (by simp only [List.length_cons, List.length_nil]; omega)

/-- What a word adds to the sum: at an odd place its low byte is the low byte of one word of the
    sum and its high byte the high byte of the next. -/
def wordWeight (k v : Nat) : Nat := if k % 2 = 0 then swap16 v else v

/-- Another word at a place. The sum changes by the difference of the two words, swapped where the
    place is odd. -/
theorem wordSum_store (m : Memory) (off : Nat) (hk : k + 2 ≤ n) (hv : v < 65536) :
    wordSum ((m.store (off + k) (leBytes v)).load off n) + wordWeight k (le16 m (off + k)) =
      wordSum (m.load off n) + wordWeight k v := by
  -- Storing a word is storing its two bytes, one after the other.
  have hfirst := wordSum_set (l := m.load off n) (i := k) (by rw [Memory.length_load]; omega)
    (UInt8.ofNat v)
  have hsecond := wordSum_set (l := (m.load off n).set k (UInt8.ofNat v)) (i := k + 1)
    (by rw [List.length_set, Memory.length_load]; omega) (UInt8.ofNat (v / 256))
  have hb0 : byteAt (m.load off n) k = m (off + k) := Memory.byteAt_load m off (by omega)
  have hb1 : byteAt ((m.load off n).set k (UInt8.ofNat v)) (k + 1) = m (off + k + 1) := by
    rw [byteAt, List.getD_eq_getElem?_getD, List.getElem?_set_ne (by omega),
      ← List.getD_eq_getElem?_getD, ← byteAt, Memory.byteAt_load m off (by omega), Nat.add_assoc]
  have hv0 : (UInt8.ofNat v).toNat = v % 256 := UInt8.toNat_ofNat'
  have hv1 : (UInt8.ofNat (v / 256)).toNat = v / 256 := by
    rw [UInt8.toNat_ofNat']
    omega
  have hlo := (m (off + k)).toNat_lt
  have hhi := (m (off + k + 1)).toNat_lt
  rw [hb0, hv0] at hfirst
  rw [hb1, hv1] at hsecond
  rw [leBytes, load_store_two, wordWeight, wordWeight, le16]
  unfold byteWeight at hfirst hsecond
  -- At an even place the low byte comes first, at an odd one the words are crossed.
  by_cases heven : k % 2 = 0
  · rw [if_pos heven] at hfirst
    rw [if_neg (by omega)] at hsecond
    rw [if_pos heven, if_pos heven, swap16, swap16]
    omega
  · rw [if_neg heven] at hfirst
    rw [if_pos (by omega)] at hsecond
    rw [if_neg heven, if_neg heven]
    omega

/-! ### The sum after an update -/

/-- The word at `off + k` becomes `v`, and then the checksum at `off + c` is updated for it. -/
def updateField (m : Memory) (off k c v : Nat) : Memory :=
  (m.store (off + k) (leBytes v)).store (off + c) (leBytes
    (updatedChecksum (le16 (m.store (off + k) (leBytes v)) (off + c)) (le16 m (off + k)) v))

/-- **The sum after an update.**  A word at an even place leaves it, as a one's complement number;
    at an odd place it changes by 255 times the change of the word. -/
theorem sum_update (m : Memory) (off : Nat) (hk : k + 2 ≤ n) (hc : c + 2 ≤ n) (heven : c % 2 = 0)
    (hv : v < 65536) :
    if k % 2 = 0 then
      wordSum ((updateField m off k c v).load off n) % 65535 = wordSum (m.load off n) % 65535
    else (wordSum ((updateField m off k c v).load off n) + 255 * v) % 65535
      = (wordSum (m.load off n) + 255 * le16 m (off + k)) % 65535 := by
  have hword := wordSum_store m off hk hv
  generalize hstored : m.store (off + k) (leBytes v) = stored at hword
  have hsum := wordSum_store stored off hc
    (updatedChecksum_lt (le16 stored (off + c)) (le16 m (off + k)) v)
  -- The update keeps the old and new words' difference, up to a multiple of 65535.
  have hkept := updatedChecksum_add v (le16_lt stored (off + c)) (le16_lt m (off + k))
  have hupdate : updateField m off k c v = stored.store (off + c)
      (leBytes (updatedChecksum (le16 stored (off + c)) (le16 m (off + k)) v)) := by
    rw [updateField, hstored]
  rw [← hupdate, wordWeight, wordWeight, if_pos heven, if_pos heven] at hsum
  have hold := swap16_mod (le16 stored (off + c))
  have hnew := swap16_mod (updatedChecksum (le16 stored (off + c)) (le16 m (off + k)) v)
  rw [wordWeight, wordWeight] at hword
  -- At an even place the word is stored swapped, which is times 256 up to that multiple.
  split_ifs at hword ⊢ with hplace
  · have hold' := swap16_mod (le16 m (off + k))
    have hnew' := swap16_mod v
    omega
  · omega

variable {pseudo : List UInt8} {off : Nat}

/-- **When the checksum still verifies**: always for a word at an even place, and for one at an
    odd place if it is the same word modulo 257. -/
theorem verifies_update (m : Memory) (off : Nat) (hpseudo : pseudo.length % 2 = 0)
    (hpos : 0 < wordSum (pseudo ++ (updateField m off k c v).load off n)) (hk : k + 2 ≤ n)
    (hc : c + 2 ≤ n) (heven : c % 2 = 0) (hv : v < 65536)
    (hverifies : Verifies (pseudo ++ m.load off n)) :
    Verifies (pseudo ++ (updateField m off k c v).load off n) ↔
      k % 2 = 0 ∨ v % 257 = le16 m (off + k) % 257 := by
  have hsum := sum_update m off hk hc heven hv
  rw [wordSum_append hpseudo] at hpos
  rw [verifies_iff, wordSum_append hpseudo] at hverifies ⊢
  split_ifs at hsum with hplace
  · simp only [hplace, true_or, iff_true]
    omega
  · simp only [hplace, false_or]
    omega

end SubnetRouter.Lib
