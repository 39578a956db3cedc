import SubnetRouter.FourVia6
import SubnetRouter.Net.Ip6Cidr
import SubnetRouter.Web.Password

namespace SubnetRouter.FourVia6

open Lib

/-!
# The advertised 4via6 prefix (`main/fourvia6.c`)

`fourvia6_calculate_prefix` prints the IPv6 prefix that stands for an IPv4 subnet behind a
site; `fourvia6_translate_wg_input` accepts packets by their bytes.

* `parseCidr`, `calculatePrefix`, `init` — from the configured text to both.
* `calculatePrefix_eq` — the text is that of one `Ip6Cidr`.
* `contains_iff_tests` — its addresses are those that pass the byte tests.
* `advertised_prefix_exact` — what is advertised is what is accepted.
-/

/-! ### Configuration -/

/-- `sscanf`'s `%u`: at least one digit. -/
def scanU (s : List Char) : Option (Nat × List Char) :=
  if (Web.strtoul s).2.length = s.length then none else some (Web.strtoul s)

/-- A literal character of a `sscanf` format. -/
def scanChar (c : Char) (s : List Char) : Option (List Char) :=
  if s.head? = some c then some s.tail else none

/-- `sscanf(text, "%u.%u.%u.%u/%u%c", …) == 5`: five numbers and nothing behind them. Each `%u` may
    have blanks and a sign in front of its digits. -/
def scanCidr (text : List Char) : Option (Nat × Nat × Nat × Nat × Nat) := do
  let (a, s) ← scanU text
  let (b, s) ← (scanChar '.' s).bind scanU
  let (c, s) ← (scanChar '.' s).bind scanU
  let (d, s) ← (scanChar '.' s).bind scanU
  let (bits, s) ← (scanChar '/' s).bind scanU
  if s.isEmpty then some (a, b, c, d, bits) else none

/-- `parse_cidr`: network and prefix length. Host bits of the address are masked away. -/
def parseCidr (text : Option (List Char)) : Option (Ip4 × Nat) :=
  match text.bind scanCidr with
  | none => none
  | some (a, b, c, d, bits) =>
    if 255 < a ∨ 255 < b ∨ 255 < c ∨ 255 < d ∨ 32 < bits then none
    else
      let ip : Ip4 := BitVec.ofNat 32 a <<< 24 ||| BitVec.ofNat 32 b <<< 16 |||
        BitVec.ofNat 32 c <<< 8 ||| BitVec.ofNat 32 d
      some (ip &&& prefixMask bits, bits)

/-- The fixed part of the format, `"fd7a:115c:a1e0:b1a:0:"`. -/
def viaText : List Char := "fd7a:115c:a1e0:b1a:0:".toList

/-- What `fourvia6_calculate_prefix` prints. The groups are hexadecimal, without leading zeros. -/
def prefixText (network : Ip4) (bits : Nat) (siteId : UInt16) : List Char :=
  viaText ++ Nat.toDigits 16 siteId.toNat ++
    ':' :: Nat.toDigits 16 ((network >>> 16) &&& 0xffff#32).toNat ++
    ':' :: Nat.toDigits 16 (network &&& 0xffff#32).toNat ++
    '/' :: Nat.toDigits 10 (96 + bits)

/-- `fourvia6_calculate_prefix`: whether the text fits, and what is in `out`. A text that does not
    fit is cut, and the function then says so. -/
def calculatePrefix (lanCidr : Option (List Char)) (siteId : UInt16) (outSize : Nat) :
    Bool × List Char :=
  match parseCidr lanCidr with
  | none => (false, [])
  | some (network, bits) =>
    let text := prefixText network bits siteId
    (decide (text.length < outSize), text.take (outSize - 1))

/-- `sizeof s_prefix_text`. -/
def prefixTextSize : Nat := 64

/-- `fourvia6_init`, with what NVS holds: the module state and `s_prefix_text`. A CIDR that cannot
    be read switches the module off. -/
def init (st : State) (flag : Nat) (cidr : Option (List Char)) (site : UInt16) :
    State × List Char :=
  let flows := List.replicate flowCount ⟨false, Ip6.zero, ⟨0, 0#32, 0#32, 0, 0⟩, 0⟩
  match parseCidr cidr with
  | some (network, bits) =>
    ({ st with
        enabled := flag != 0
        network := network
        prefixLen := bits
        siteId := site.toNat
        flows := flows }, (calculatePrefix cidr site prefixTextSize).2)
  | none =>
    ({ st with
        enabled := false
        network := 0
        prefixLen := 0
        siteId := site.toNat
        flows := flows }, [])

/-! ### The text -/

variable {network : Ip4} {bits : Nat} {siteId : UInt16} {lan : Option (List Char)}

/-- A parsed subnet has a length of at most 32, and no bits behind it. -/
theorem parseCidr_spec (h : parseCidr lan = some (network, bits)) :
    bits ≤ 32 ∧ network &&& prefixMask bits = network := by
  unfold parseCidr at h
  split at h
  · cases h
  · split at h
    · cases h
    · rename_i hrange
      simp only [Option.some.injEq, Prod.mk.injEq] at h
      obtain ⟨rfl, rfl⟩ := h
      refine ⟨by omega, ?_⟩
      rw [BitVec.and_assoc, BitVec.and_self]

/-- The eight groups of the prefix. -/
def viaGroups (network : Ip4) (siteId : UInt16) : List Nat :=
  [0xfd7a, 0x115c, 0xa1e0, 0xb1a, 0, siteId.toNat, ((network >>> 16) &&& 0xffff#32).toNat,
    (network &&& 0xffff#32).toNat]

theorem toNat_high (network : Ip4) :
    ((network >>> 16) &&& 0xffff#32).toNat = network.toNat / 65536 := by
  have hlt := network.isLt
  rw [BitVec.toNat_and, BitVec.toNat_ushiftRight, Nat.shiftRight_eq_div_pow]
  show network.toNat / 2 ^ 16 &&& 2 ^ 16 - 1 = _
  rw [Nat.and_two_pow_sub_one_eq_mod]
  omega

theorem toNat_low (network : Ip4) : (network &&& 0xffff#32).toNat = network.toNat % 65536 := by
  rw [BitVec.toNat_and]
  show network.toNat &&& 2 ^ 16 - 1 = _
  rw [Nat.and_two_pow_sub_one_eq_mod]

theorem viaGroups_eq (network : Ip4) (siteId : UInt16) : viaGroups network siteId =
    [0xfd7a, 0x115c, 0xa1e0, 0xb1a, 0, siteId.toNat, network.toNat / 65536,
      network.toNat % 65536] := by
  rw [viaGroups, toNat_high, toNat_low]

theorem viaGroups_lt (network : Ip4) (siteId : UInt16) :
    ∀ g ∈ viaGroups network siteId, g < 65536 := by
  have hn := network.isLt
  have hs := siteId.toNat_lt
  simp only [viaGroups_eq, List.mem_cons, List.not_mem_nil, or_false]
  omega

/-- The text is the one of these groups. -/
theorem prefixText_eq (network : Ip4) (bits : Nat) (siteId : UInt16) :
    prefixText network bits siteId = Ip6Cidr.format (viaGroups network siteId) (96 + bits) := by
  have hvia : viaText = Nat.toDigits 16 0xfd7a ++ ':' :: Nat.toDigits 16 0x115c ++
      ':' :: Nat.toDigits 16 0xa1e0 ++ ':' :: Nat.toDigits 16 0xb1a ++
      ':' :: Nat.toDigits 16 0 ++ [':'] := by decide
  simp [prefixText, hvia, Ip6Cidr.format, viaGroups, List.intercalate_cons_cons]

/-- The text fits the buffer of the module. -/
theorem length_prefixText_lt (hbits : bits ≤ 32) :
    (prefixText network bits siteId).length < prefixTextSize := by
  have hgroup : ∀ g ∈ viaGroups network siteId, (Nat.toDigits 16 g).length ≤ 4 := fun g hg =>
    (Nat.length_toDigits_le_iff (by decide) (by decide)).mpr (viaGroups_lt network siteId g hg)
  have hsite := hgroup siteId.toNat (by simp [viaGroups])
  have hhigh := hgroup ((network >>> 16) &&& 0xffff#32).toNat (by simp [viaGroups])
  have hlow := hgroup (network &&& 0xffff#32).toNat (by simp [viaGroups])
  have hlen : (Nat.toDigits 10 (96 + bits)).length ≤ 3 :=
    (Nat.length_toDigits_le_iff (by decide) (by decide)).mpr (by omega)
  have hvia : viaText.length = 21 := by decide
  simp only [prefixText, List.length_append, List.length_cons, prefixTextSize, hvia]
  omega

/-- The prefix that is advertised. -/
def viaCidr (network : Ip4) (siteId : UInt16) (hbits : bits ≤ 32) : Ip6Cidr :=
  ⟨viaGroups network siteId, 96 + bits, rfl, viaGroups_lt network siteId, by omega⟩

/-- The text denotes that prefix. -/
theorem parse_prefixText (network : Ip4) (siteId : UInt16) (hbits : bits ≤ 32) :
    Ip6Cidr.parse (prefixText network bits siteId) = some (viaCidr network siteId hbits) := by
  rw [prefixText_eq]
  exact Ip6Cidr.parse_format rfl (viaGroups_lt network siteId) (by omega)

/-- **The text is printed whole**, into any buffer that `snprintf` does not cut it in. -/
theorem calculatePrefix_eq {outSize : Nat} (hlan : parseCidr lan = some (network, bits))
    (hok : (calculatePrefix lan siteId outSize).1 = true) :
    (calculatePrefix lan siteId outSize).2 = prefixText network bits siteId := by
  simp only [calculatePrefix, hlan, decide_eq_true_eq] at hok ⊢
  exact List.take_of_length_le (by omega)

/-- The module's text is one line. -/
theorem newline_not_mem_init (st : State) (flag : Nat) (lan : Option (List Char))
    (siteId : UInt16) : '\n' ∉ (init st flag lan siteId).2 := by
  unfold init calculatePrefix
  rcases hlan : parseCidr lan with _ | ⟨network, bits⟩
  · simp
  · intro hmem
    simp only at hmem
    have hin := List.mem_of_mem_take hmem
    have hdigits : ∀ b n, 1 < b → b ≤ 16 → '\n' ∉ Nat.toDigits b n := fun b n hb hb' =>
      not_mem_toDigits hb hb' (by decide) n
    have hvia : '\n' ∉ viaText := by decide
    simp [prefixText, hvia, hdigits 16 _ (by decide) (by decide),
      hdigits 10 _ (by decide) (by decide)] at hin

/-! ### The addresses -/

/-- An IPv6 address as a 128-bit number. -/
def Ip6.value (d : Ip6) : Nat := bytesValue d.bytes

/-- The tests of the input path on the destination: the fixed 64 bits, the site field and the
    masked target. -/
def ViaTests (st : State) (d : Ip6) : Prop :=
  copyPartial d.bytes 8 0 = viaPrefix ∧ (be32 d.bytes 8).toNat = st.siteId ∧
    be32 d.bytes 12 &&& prefixMask st.prefixLen = st.network

instance (st : State) (d : Ip6) : Decidable (ViaTests st d) := inferInstanceAs (Decidable (_ ∧ _))

/-- The targets that `target_allowed` never lets through: loopback, multicast, the unspecified
    and the broadcast address, and CGNAT. -/
def alwaysExcluded (ip : Ip4) : Bool :=
  ip >>> 24 == 127#32 || ip >>> 28 == 0xe#32 || ip == 0#32 || ip == 0xffffffff#32 ||
    ip &&& 0xffc00000#32 == 0x64400000#32

/-- The high, middle and low part of an address. -/
theorem Ip6.value_eq (d : Ip6) :
    d.value = (bytesValue (copyPartial d.bytes 8 0) * 2 ^ 32 + (be32 d.bytes 8).toNat) * 2 ^ 32 +
      (be32 d.bytes 12).toNat := by
  have hlen := d.length_eq
  have hsplit : d.bytes =
      copyPartial d.bytes 8 0 ++ bytes32 (be32 d.bytes 8) ++ bytes32 (be32 d.bytes 12) := by
    rw [← take_drop_four (by omega), ← take_drop_four (by omega)]
    simp only [copyPartial, List.drop_zero]
    have hlast : (d.bytes.drop 12).take 4 = d.bytes.drop 12 :=
      List.take_of_length_le (by rw [List.length_drop]; omega)
    have hmid : d.bytes.drop 12 = (d.bytes.drop 8).drop 4 := by rw [List.drop_drop]
    rw [hlast, hmid, List.append_assoc, List.take_append_drop, List.take_append_drop]
  have hword : (256 : Nat) ^ 4 = 2 ^ 32 := rfl
  conv_lhs => rw [Ip6.value, hsplit]
  rw [bytesValue_append, bytesValue_append, bytesValue_bytes32, bytesValue_bytes32,
    length_bytes32, length_bytes32, hword]

/-- **The advertised addresses are those that pass the tests.** The prefix ends within the IPv4 part
    of the address, so it says the same as the comparison with the LAN. -/
theorem contains_iff_tests {st : State} (hbits : bits ≤ 32)
    (hnetwork : network &&& prefixMask bits = network)
    (hst : st.network = network ∧ st.prefixLen = bits ∧ st.siteId = siteId.toNat) (d : Ip6) :
    (viaCidr network siteId hbits).Contains d.value ↔ ViaTests st d := by
  obtain ⟨rfl, rfl, hsite⟩ := hst
  -- The prefix's number is the fixed 64 bits, the site and the network, one above the other.
  have hvalue : Ip6Cidr.groupsValue (viaGroups st.network siteId) =
      (bytesValue viaPrefix * 2 ^ 32 + siteId.toNat) * 2 ^ 32 + st.network.toNat := by
    have hn := st.network.isLt
    have hvia : bytesValue viaPrefix = 0xfd7a115ca1e00b1a := by decide
    simp only [Ip6Cidr.groupsValue, viaGroups_eq, List.foldl_cons, List.foldl_nil, hvia]
    omega
  have hvia : bytesValue (copyPartial d.bytes 8 0) = bytesValue viaPrefix ↔
      copyPartial d.bytes 8 0 = viaPrefix := by
    apply bytesValue_inj
    simp [copyPartial, d.length_eq, viaPrefix]
  rw [Ip6Cidr.contains_iff hbits rfl hvalue d.value_eq, ViaTests, hsite, ← hvia,
    ← and_prefixMask_eq_iff, hnetwork, ← and_assoc]
  have hmid := (be32 d.bytes 8).isLt
  have hs := siteId.toNat_lt
  -- Equal high parts are equal fixed bits and an equal site.
  constructor
  · rintro ⟨hhigh, hlow⟩
    exact ⟨by omega, hlow⟩
  · rintro ⟨⟨hvia, hmiddle⟩, hlow⟩
    exact ⟨by omega, hlow⟩

/-- `target_allowed` is the network test on targets that are not always excluded. -/
theorem targetAllowed_eq (st : State) (ip : Ip4) :
    targetAllowed st ip = (!alwaysExcluded ip && ip &&& prefixMask st.prefixLen == st.network) := by
  unfold targetAllowed alwaysExcluded
  split
  · rename_i hspecial
    simp [hspecial]
  · rename_i hspecial
    split
    · rename_i hcgnat
      simp [hcgnat]
    · rename_i hcgnat
      rw [Bool.not_eq_true] at hspecial hcgnat
      rw [hspecial, hcgnat]
      rfl

/-- The fields of a copied part are those of the whole. -/
theorem be32_copyPartial {b : List UInt8} {len off i : Nat} (h : i + 4 ≤ len) :
    be32 (copyPartial b len off) i = be32 b (off + i) := by
  have hbyte : ∀ j, j < len → byteAt (copyPartial b len off) j = byteAt b (off + j) := by
    intro j hj
    simp [byteAt, copyPartial, List.getD_eq_getElem?_getD, hj]
  simp only [be32, be16]
  rw [hbyte i (by omega), hbyte (i + 1) (by omega), hbyte (i + 2) (by omega),
    hbyte (i + 2 + 1) (by omega)]
  rfl

/-- A packet to an address is taken for this site and its target allowed exactly when the
    address passes the tests, but for the targets that never are. -/
theorem accepted_iff_tests {st : State} {b : List UInt8} {d : Ip6} (henabled : st.enabled = true)
    (hlen : 40 ≤ b.length) (hversion : (byteAt b 0).toNat / 16 = 6)
    (hd : copyPartial b 16 24 = d.bytes) (hspecial : alwaysExcluded (be32 d.bytes 12) = false) :
    (∃ r, matchRequest st b = some r ∧ targetAllowed st r.target = true) ↔ ViaTests st d := by
  -- The three fields that are compared lie in the destination address.
  have hvia : copyPartial b 8 24 = copyPartial d.bytes 8 0 := by
    rw [← hd]
    simp [copyPartial, List.take_take]
  have hsite : be32 b 32 = be32 d.bytes 8 := by
    rw [← hd, be32_copyPartial (by decide)]
  have htarget : be32 b 36 = be32 d.bytes 12 := by
    rw [← hd, be32_copyPartial (by decide)]
  unfold matchRequest ViaTests
  rw [dif_neg (by omega), if_neg (by simp [hversion]), henabled, hvia, hsite, htarget]
  simp only [Bool.not_true, Bool.false_or]
  -- The tests of `match_request` in its order: the fixed bits, then the site.
  by_cases hvia : copyPartial d.bytes 8 0 = viaPrefix
  · rw [if_neg (by simp [hvia])]
    by_cases hs : (be32 d.bytes 8).toNat = st.siteId
    · rw [if_neg (by simp [hs])]
      simp [hvia, hs, targetAllowed_eq, hspecial]
    · rw [if_pos hs]
      simp [hs]
  · rw [if_pos (by simp [hvia])]
    simp [hvia]

/-- **The advertised prefix is the accepted range.** For every subnet that `parse_cidr` accepts
    and every site, the module's text is printed whole and denotes a prefix; its addresses are
    those that pass the tests, and an IPv6 packet to one of them is translated unless its
    target is one that never is. -/
theorem advertised_prefix_exact {st : State} {flag : Nat}
    (hlan : parseCidr lan = some (network, bits)) :
    (∀ outSize, (calculatePrefix lan siteId outSize).1 = true →
        (calculatePrefix lan siteId outSize).2 = (init st flag lan siteId).2) ∧
      (calculatePrefix lan siteId prefixTextSize).1 = true ∧
      ∃ c, Ip6Cidr.parse (init st flag lan siteId).2 = some c ∧
        ∀ d : Ip6, (c.Contains d.value ↔ ViaTests (init st flag lan siteId).1 d) ∧
          ∀ b, flag ≠ 0 → 40 ≤ b.length → (byteAt b 0).toNat / 16 = 6 →
            copyPartial b 16 24 = d.bytes → alwaysExcluded (be32 d.bytes 12) = false →
            (c.Contains d.value ↔ ∃ r, matchRequest (init st flag lan siteId).1 b = some r ∧
              targetAllowed (init st flag lan siteId).1 r.target = true) := by
  obtain ⟨hbits, hnetwork⟩ := parseCidr_spec hlan
  -- The text fits, so `calculate_prefix` returns it whole.
  have hfits : (calculatePrefix lan siteId prefixTextSize).1 = true := by
    simpa [calculatePrefix, hlan] using length_prefixText_lt hbits
  have htext : (init st flag lan siteId).2 = prefixText network bits siteId := by
    simp only [init, hlan]
    exact calculatePrefix_eq hlan hfits
  have hst : (init st flag lan siteId).1.network = network ∧
      (init st flag lan siteId).1.prefixLen = bits ∧
      (init st flag lan siteId).1.siteId = siteId.toNat := by
    simp [init, hlan]
  refine ⟨?_, hfits, viaCidr network siteId hbits, ?_, ?_⟩
  -- Larger or smaller, a buffer that takes the text takes all of it.
  · intro outSize hok
    rw [htext, calculatePrefix_eq hlan hok]
  · rw [htext, parse_prefixText network siteId hbits]
  · intro d
    have htests := contains_iff_tests hbits hnetwork hst d
    refine ⟨htests, ?_⟩
    intro b hflag hlen hversion hd hspecial
    have henabled : (init st flag lan siteId).1.enabled = true := by simp [init, hlan, hflag]
    rw [htests, accepted_iff_tests henabled hlen hversion hd hspecial]

/-- `192.168.7.0/24` behind site 9: the text, and the address of its router. -/
theorem advertised_prefix_sample :
    ∃ c, Ip6Cidr.parse (init ⟨false, 0, 0, 0, [], 0, 0⟩ 1 (some "192.168.7.0/24".toList) 9).2 =
        some c ∧
      c.Contains (Ip6.value ⟨viaPrefix ++ [0, 0, 0, 9, 192, 168, 7, 1], rfl⟩) := by
  have hlan : parseCidr (some "192.168.7.0/24".toList) = some (0xC0A80700#32, 24) := by
    decide +kernel
  obtain ⟨c, hc, htests⟩ : ∃ c, Ip6Cidr.parse (init ⟨false, 0, 0, 0, [], 0, 0⟩ 1
      (some "192.168.7.0/24".toList) 9).2 = some c ∧ _ := (advertised_prefix_exact hlan).2.2
  exact ⟨c, hc, (htests ⟨viaPrefix ++ [0, 0, 0, 9, 192, 168, 7, 1], rfl⟩).1.mpr
    (by decide +kernel)⟩

end SubnetRouter.FourVia6
