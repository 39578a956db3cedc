import SubnetRouter.Lib.Memory

namespace SubnetRouter.Lib

/-!
# The Internet checksum (RFC 1071)

The 16-bit one's complement of the one's complement sum of all 16-bit words, a last odd byte
being the high byte of a word.  A receiver adds up all words, the checksum included, and expects
all ones.

* `onesSum`, `Verifies` — the sum with its end-around carries, and the receiver's test.
* `onesSum_eq` — the sum is that of the numbers, folded to 16 bits at the end.
* `verifies_store` — a checksum field that is filled with the complement verifies.
-/

/-- One's complement addition of 16-bit words: the carry is added at the other end. -/
def onesAdd (a b : Nat) : Nat := if a + b < 65536 then a + b else a + b - 65535

/-- The one's complement sum of the words of a byte string. -/
def onesSum : List UInt8 → Nat
  | a :: b :: rest => onesAdd (a.toNat * 256 + b.toNat) (onesSum rest)
  | [a] => a.toNat * 256
  | [] => 0

/-- The receiver's test. -/
def Verifies (data : List UInt8) : Prop := onesSum data = 65535

instance (data : List UInt8) : Decidable (Verifies data) := inferInstanceAs (Decidable (_ = _))

/-- The value of a checksum field over `data`, in which the field is zero.  All ones may stand
    for zero: both are the same number. -/
def Complements (v : Nat) (data : List UInt8) : Prop :=
  v = 65535 - onesSum data ∨ v = 65535 ∧ onesSum data = 65535

/-! ### Folding at the end -/

/-- The sum of the words as numbers. -/
def wordSum : List UInt8 → Nat
  | a :: b :: rest => a.toNat * 256 + b.toNat + wordSum rest
  | [a] => a.toNat * 256
  | [] => 0

/-- The 16-bit one's complement number of a sum; only zero itself is zero. -/
def fold16 (n : Nat) : Nat := if n = 0 then 0 else (n - 1) % 65535 + 1

variable {l m : List UInt8} {n : Nat}

theorem fold16_lt (n : Nat) : fold16 n < 65536 := by
  unfold fold16
  split_ifs <;> omega

theorem fold16_of_lt (h : n < 65536) : fold16 n = n := by
  unfold fold16
  split_ifs <;> omega

/-- A round of carries does not change the number. -/
theorem fold16_carry (n : Nat) : fold16 (n % 65536 + n / 65536) = fold16 n := by
  unfold fold16
  split_ifs <;> omega

theorem onesAdd_fold16 {a : Nat} (ha : a < 65536) (n : Nat) :
    onesAdd a (fold16 n) = fold16 (a + n) := by
  unfold onesAdd fold16
  split_ifs <;> omega

/-- **Folding at the end.** -/
theorem onesSum_eq (l : List UInt8) : onesSum l = fold16 (wordSum l) := by
  induction l using wordSum.induct with
  | case1 a b rest ih =>
    have ha := a.toNat_lt
    have hb := b.toNat_lt
    rw [onesSum, wordSum, ih]
    exact onesAdd_fold16 (by omega) _
  | case2 a =>
    have ha := a.toNat_lt
    rw [onesSum, wordSum, fold16_of_lt (by omega)]
  | case3 => rfl

theorem verifies_iff : Verifies l ↔ 0 < wordSum l ∧ wordSum l % 65535 = 0 := by
  rw [Verifies, onesSum_eq, fold16]
  constructor
  · intro h
    split_ifs at h
    omega
  · rintro ⟨hpos, hmod⟩
    rw [if_neg (by omega)]
    omega

/-- The words behind an even number of bytes are words of their own. -/
theorem wordSum_append (h : l.length % 2 = 0) : wordSum (l ++ m) = wordSum l + wordSum m := by
  induction l using wordSum.induct with
  | case1 a b rest ih =>
    have hrest : rest.length % 2 = 0 := by
      rw [List.length_cons, List.length_cons] at h
      omega
    rw [List.cons_append, List.cons_append, wordSum, wordSum, ih hrest]
    omega
  | case2 a => simp at h
  | case3 => rw [List.nil_append, wordSum, Nat.zero_add]

theorem wordSum_bytes16 (v : Nat) : wordSum (bytes16 v) = v % 65536 := by
  rw [bytes16, wordSum, wordSum, Nat.add_zero, toNat_bytes16]

/-- Each word is less than 2^16. -/
theorem wordSum_le (l : List UInt8) : wordSum l ≤ (l.length + 1) / 2 * 65535 := by
  induction l using wordSum.induct with
  | case1 a b rest ih =>
    have ha := a.toNat_lt
    have hb := b.toNat_lt
    rw [wordSum, List.length_cons, List.length_cons]
    omega
  | case2 a =>
    have ha := a.toNat_lt
    rw [wordSum, List.length_singleton]
    omega
  | case3 => exact Nat.zero_le _

/-! ### Filling the field -/

/-- The complement makes the sum all ones. -/
theorem complements_add {v : Nat} (h : Complements v l) :
    v < 65536 ∧ 0 < wordSum l + v ∧ (wordSum l + v) % 65535 = 0 := by
  rw [Complements, onesSum_eq, fold16] at h
  split_ifs at h <;> omega

/-- A buffer with a 16-bit field at an even place, word by word. -/
theorem wordSum_load_field (mem : Memory) {off k n : Nat} (hk : k % 2 = 0) (hn : k + 2 ≤ n) :
    wordSum (mem.load off n) = wordSum (mem.load off k) + (wordSum (mem.load (off + k) 2)
      + wordSum (mem.load (off + k + 2) (n - k - 2))) := by
  have hsplit : n = k + (2 + (n - k - 2)) := by omega
  conv_lhs => rw [hsplit, Memory.load_add, Memory.load_add]
  rw [wordSum_append (by rwa [Memory.length_load]),
    wordSum_append (by rw [Memory.length_load])]

/-- **A filled checksum field verifies.** `pseudo` is summed up in front of the buffer's
    `n` bytes, whose field at `k` is zero until it is filled. -/
theorem verifies_store {pseudo : List UInt8} {mem : Memory} {off k n v : Nat}
    (hpseudo : pseudo.length % 2 = 0) (hk : k % 2 = 0) (hn : k + 2 ≤ n)
    (hzero : mem.load (off + k) 2 = bytes16 0) (hv : Complements v (pseudo ++ mem.load off n)) :
    Verifies (pseudo ++ (mem.store (off + k) (bytes16 v)).load off n) := by
  obtain ⟨hlt, hpos, hmod⟩ := complements_add hv
  have hbefore : (mem.store (off + k) (bytes16 v)).load off k = mem.load off k :=
    Memory.load_store_disjoint mem (.inl (Nat.le_refl _))
  have hafter : (mem.store (off + k) (bytes16 v)).load (off + k + 2) (n - k - 2)
      = mem.load (off + k + 2) (n - k - 2) := by
    refine Memory.load_store_disjoint mem (.inr ?_)
    exact Nat.add_le_add_left (Nat.le_of_eq (length_bytes16 v)) _
  have hfield : wordSum ((mem.store (off + k) (bytes16 v)).load (off + k) 2) = v := by
    rw [← length_bytes16 v, Memory.load_store_self, wordSum_bytes16, Nat.mod_eq_of_lt hlt]
  -- the sum has grown by the value of the field
  have hfilled : wordSum (pseudo ++ (mem.store (off + k) (bytes16 v)).load off n)
      = wordSum (pseudo ++ mem.load off n) + v := by
    rw [wordSum_append hpseudo, wordSum_append hpseudo, wordSum_load_field _ hk hn,
      wordSum_load_field mem hk hn, hbefore, hafter, hfield, hzero, wordSum_bytes16]
    omega
  rw [verifies_iff, hfilled]
  exact ⟨hpos, hmod⟩

end SubnetRouter.Lib
