import Mathlib.Algebra.Group.Nat.Defs
import SubnetRouter.Lib.Bytes
import SubnetRouter.Lib.Digits
import SubnetRouter.Net.Ip4

namespace SubnetRouter

open Lib

/-!
# IPv6 prefixes and their text

The text of a prefix in the form of RFC 4291, `x:x:x:x:x:x:x:x/length`: eight groups of one
to four hexadecimal digits and a decimal length of at most 128.

* `Ip6Cidr.parse` — the prefix that a text denotes.
* `Ip6Cidr.parse_format` — a prefix that is written group by group reads back.
* `Ip6Cidr.contains_iff` — an address is in a prefix of at least 96 bits exactly when its
  first 96 bits are those of the prefix and the rest is in the prefix of the last 32 bits.
-/

/-- An IPv6 prefix: eight 16-bit groups and a length. That the groups are in range is part of it, so
    every value can be printed. -/
structure Ip6Cidr where
  groups : List Nat
  len : Nat
  length_eq : groups.length = 8
  group_lt : ∀ g ∈ groups, g < 65536
  len_le : len ≤ 128
deriving DecidableEq, Repr

namespace Ip6Cidr

/-- A group of one to four hexadecimal digits. -/
def readGroup (s : List Char) : Option Nat := if s.length ≤ 4 then readDigits 16 s else none

/-- The prefix that a text denotes. The groups are written out, without the `::` that would shorten
    them. -/
def parse (text : List Char) : Option Ip6Cidr :=
  match text.splitOn '/' with
  | [addr, len] =>
    match (addr.splitOn ':').mapM readGroup, readDigits 10 len with
    | some groups, some n =>
      if h : groups.length = 8 ∧ (∀ g ∈ groups, g < 65536) ∧ n ≤ 128 then
        some ⟨groups, n, h.1, h.2.1, h.2.2⟩
      else none
    | _, _ => none
  | _ => none

/-- The text of eight groups and a length. -/
def format (groups : List Nat) (len : Nat) : List Char :=
  [':'].intercalate (groups.map (Nat.toDigits 16)) ++ '/' :: Nat.toDigits 10 len

/-- The value of 16-bit groups, the first one highest. -/
def groupsValue (groups : List Nat) : Nat := groups.foldl (fun n g => n * 65536 + g) 0

/-- The address, as a 128-bit number, starts with the bits of the prefix. -/
def Contains (c : Ip6Cidr) (addr : Nat) : Prop :=
  addr / 2 ^ (128 - c.len) = groupsValue c.groups / 2 ^ (128 - c.len)

instance (c : Ip6Cidr) (addr : Nat) : Decidable (c.Contains addr) :=
  inferInstanceAs (Decidable (_ = _))

/-- A joined text holds the characters of its parts and the separator. -/
theorem not_mem_intercalate {sep c : Char} {parts : List (List Char)} (hsep : c ≠ sep)
    (hparts : ∀ s ∈ parts, c ∉ s) : c ∉ [sep].intercalate parts := by
  induction parts with
  | nil => simp
  | cons s parts ih =>
    obtain ⟨hs, hrest⟩ := List.forall_mem_cons.mp hparts
    rcases parts with _ | ⟨s', parts⟩
    · simpa using hs
    · rw [List.intercalate_cons_cons, List.append_assoc, List.singleton_append, List.mem_append,
        List.mem_cons, not_or, not_or]
      exact ⟨hs, hsep, ih hrest⟩

/-- A 16-bit group reads back. -/
theorem readGroup_toDigits {g : Nat} (h : g < 65536) : readGroup (Nat.toDigits 16 g) = some g := by
  have hlen : (Nat.toDigits 16 g).length ≤ 4 :=
    (Nat.length_toDigits_le_iff (by decide) (by decide)).mpr h
  rw [readGroup, if_pos hlen, readDigits_toDigits (by decide) (by decide)]

/-- **What was written group by group reads back.** Neither separator is a digit, so the text splits
    where it was put together. -/
theorem parse_format {groups : List Nat} {len : Nat} (length_eq : groups.length = 8)
    (group_lt : ∀ g ∈ groups, g < 65536) (len_le : len ≤ 128) :
    parse (format groups len) = some ⟨groups, len, length_eq, group_lt, len_le⟩ := by
  -- The groups have no slash and no colon, so the text is split where it was joined.
  have hslash : '/' ∉ [':'].intercalate (groups.map (Nat.toDigits 16)) := by
    apply not_mem_intercalate (by decide)
    intro s hs
    obtain ⟨g, -, rfl⟩ := List.mem_map.mp hs
    exact not_mem_toDigits (by decide) (by decide) (by decide) g
  have hsplit : (format groups len).splitOn '/' =
      [[':'].intercalate (groups.map (Nat.toDigits 16)), Nat.toDigits 10 len] := by
    rw [format, List.splitOn_append_cons_self_of_not_mem hslash, List.splitOn_eq_singleton]
    exact not_mem_toDigits (by decide) (by decide) (by decide) len
  have hgroups : ([':'].intercalate (groups.map (Nat.toDigits 16))).splitOn ':' =
      groups.map (Nat.toDigits 16) := by
    apply List.splitOn_intercalate
    · intro s hs
      obtain ⟨g, -, rfl⟩ := List.mem_map.mp hs
      exact not_mem_toDigits (by decide) (by decide) (by decide) g
    · simpa using List.ne_nil_of_length_pos (by omega : 0 < groups.length)
  -- Each group reads back by itself.
  have hread : (groups.map (Nat.toDigits 16)).mapM readGroup = some groups := by
    clear length_eq hslash hsplit hgroups
    induction groups with
    | nil => rfl
    | cons g groups ih =>
      obtain ⟨hg, hrest⟩ := List.forall_mem_cons.mp group_lt
      rw [List.map_cons, List.mapM_cons, readGroup_toDigits hg, ih hrest]
      rfl
  rw [parse, hsplit]
  simp only [hgroups, hread, readDigits_toDigits (show 1 < 10 by decide) (by decide)]
  rw [dif_pos ⟨length_eq, group_lt, len_le⟩]

/-! ### Membership -/

/-- Two numbers agree above their low `k` bits exactly when their high parts agree and their
    low parts do above these bits. -/
theorem div_two_pow_eq_iff {a b x y k w : Nat} (hk : k ≤ w) (hx : x < 2 ^ w) (hy : y < 2 ^ w) :
    (a * 2 ^ w + x) / 2 ^ k = (b * 2 ^ w + y) / 2 ^ k ↔ a = b ∧ x / 2 ^ k = y / 2 ^ k := by
  obtain ⟨m, rfl⟩ := Nat.exists_eq_add_of_le hk
  -- A division by fewer bits than the low part has leaves the high part a multiple.
  have hsplit : ∀ c z : Nat, (c * 2 ^ (k + m) + z) / 2 ^ k = c * 2 ^ m + z / 2 ^ k := by
    intro c z
    rw [Nat.pow_add, Nat.mul_comm (2 ^ k), ← Nat.mul_assoc, Nat.add_comm,
      Nat.add_mul_div_right _ _ (Nat.two_pow_pos k), Nat.add_comm]
  have hlow : ∀ z : Nat, z < 2 ^ (k + m) → z / 2 ^ k < 2 ^ m := by
    intro z hz
    apply Nat.div_lt_of_lt_mul
    rwa [← Nat.pow_add]
  rw [hsplit, hsplit]
  constructor
  · intro h
    -- The rest stays below that multiple, so dividing once more compares the high parts.
    have hab : a = b := by
      have hdiv := congrArg (· / 2 ^ m) h
      simpa [Nat.add_comm _ (_ / 2 ^ k), Nat.add_mul_div_right _ _ (Nat.two_pow_pos m),
        Nat.div_eq_of_lt (hlow x hx), Nat.div_eq_of_lt (hlow y hy)] using hdiv
    subst hab
    exact ⟨rfl, Nat.add_left_cancel h⟩
  · rintro ⟨rfl, h⟩
    rw [h]

/-- **Membership.** In a prefix of at least 96 bits lie the addresses with its first 96 bits
    whose last 32 bits lie in the prefix of the rest. -/
theorem contains_iff {c : Ip6Cidr} {addr high : Nat} {low network : BitVec 32} {bits : Nat}
    (hbits : bits ≤ 32) (hlen : c.len = 96 + bits)
    (hvalue : groupsValue c.groups = high * 2 ^ 32 + network.toNat) {high' : Nat}
    (haddr : addr = high' * 2 ^ 32 + low.toNat) :
    c.Contains addr ↔ high' = high ∧ InCidr low network bits := by
  have hk : 128 - c.len = 32 - bits := by omega
  rw [Contains, hk, hvalue, haddr, div_two_pow_eq_iff (by omega) low.isLt network.isLt]
  rfl

end Ip6Cidr

end SubnetRouter
