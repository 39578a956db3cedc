import SubnetRouter.AclRules
import SubnetRouter.ForwardFilter
import SubnetRouter.Net.Dotted

namespace SubnetRouter.Acl

open Lib TailnetForward

/-!
# The addresses of a rule as text (`components/acl/acl.c`)

A rule is entered and shown with the text of its addresses: `any`, an address, or an address with
a prefix length.  `acl_parse_ip` reads such a text into an address and a mask, and `acl_format_ip`
writes it.

* `aclParseIp`, `aclFormatIp` — the code; the masks are kept in host order.
* `AclReads` — what the parser makes of a text; `aclParseIp_eq_some_iff`.
* `acl_parse_format` — what is shown can be entered again.
-/

/-- `atoi`: the number that a text starts with, or `0`; a `long` has 32 bits. -/
def atoi (text : List Char) : Int :=
  match strtol text with
  | some (v, _) => max (-2147483648) (min 2147483647 v)
  | none => 0

/-- `strcasecmp(str, "any") == 0`. -/
def isAny (str : List Char) : Bool := str.map Char.toLower == ['a', 'n', 'y']

/-- `acl_parse_ip`, with `lwip_ntohl` of what it stores. The text is copied into 32 bytes first, so
    only its first 31 characters are read; the address in front of the slash is left to
    `ip4addr_aton`. -/
def aclParseIp (aton : List Char → Option Ip4) (str : List Char) : Option (Ip4 × Ip4) :=
  if isAny str then some (0, 0)
  else
    let copy := str.take 31
    let ipStr := copy.takeWhile (· != '/')
    let cidr : Int := match copy.dropWhile (· != '/') with
      | [] => 32
      | _ :: slash => atoi slash
    if cidr < 0 ∨ 32 < cidr then none
    else
      match aton ipStr with
      | none => none
      | some addr => some (addr &&& prefixMask cidr.toNat, prefixMask cidr.toNat)

/-- `count_bits` of a mask in host order; no bit is left after 32 turns of its loop. -/
def countBits : Nat → Nat → Nat
  | 0, _ => 0
  | fuel + 1, m => if m = 0 then 0 else m % 2 + countBits fuel (m / 2)

/-- The text that `acl_format_ip` prints. -/
def aclText (ip mask : Ip4) : List Char :=
  if ip = 0 ∧ mask = 0 then ['a', 'n', 'y']
  else if mask = 0xFFFFFFFF then dotted ip
  else dotted ip ++ '/' :: Nat.toDigits 10 (countBits 32 mask.toNat)

/-- `acl_format_ip`: `snprintf` cuts the text to what fits in front of a null character. -/
def aclFormatIp (ip mask : Ip4) (bufLen : Nat) : List Char := (aclText ip mask).take (bufLen - 1)

/-! ### Numbers -/

variable {aton : List Char → Option Ip4} {str before slash ds : List Char} {ip mask addr : Ip4}
  {bits n : Nat}

theorem digitsValue_eq (ds : List Char) : digitsValue ds = Nat.ofDigitChars 10 ds 0 :=
  Nat.ofDigitChars_eq_foldl.symm

theorem not_isSpace_of_isDigit {c : Char} (h : c.isDigit = true) : isSpace c = false := by
  have hlo : 48 ≤ c.toNat := (Char.isDigit_iff_toNat.mp h).1
  have hblank : c ≠ ' ' := by
    rintro rfl
    cases h
  have hcontrol : ¬ c.toNat ≤ 13 := by omega
  simp [isSpace, hblank, hcontrol]

/-- A text that is a number and nothing else. It has neither blanks nor a sign in front, and no
    rest. -/
theorem strtol_of_digits (hne : ds ≠ []) (hall : ∀ c ∈ ds, c.isDigit = true) :
    strtol ds = some ((Nat.ofDigitChars 10 ds 0 : Int), []) := by
  have htake : ds.takeWhile Char.isDigit = ds := by
    rw [List.takeWhile_eq_self_iff]
    exact hall
  have hdrop : ds.dropWhile Char.isDigit = [] := List.dropWhile_eq_nil_iff.mpr hall
  obtain ⟨d, rest, rfl⟩ := List.exists_cons_of_ne_nil hne
  have hd := hall d List.mem_cons_self
  -- None of the branches of `strtol` applies: a digit is no space and no sign.
  have hspace : (d :: rest).dropWhile isSpace = d :: rest :=
    List.dropWhile_cons_of_neg (by rw [not_isSpace_of_isDigit hd]; exact Bool.false_ne_true)
  have hminus : d ≠ '-' := by
    rintro rfl
    cases hd
  have hplus : d ≠ '+' := by
    rintro rfl
    cases hd
  unfold strtol
  rw [hspace]
  dsimp only
  split
  · rename_i hcons
    exact absurd (List.cons.inj hcons).1 hminus
  · rename_i hcons
    exact absurd (List.cons.inj hcons).1 hplus
  · simp only [htake, hdrop, digitsValue_eq, if_neg hne, Int.one_mul]

theorem atoi_of_digits (hne : ds ≠ []) (hall : ∀ c ∈ ds, c.isDigit = true) :
    atoi ds = min 2147483647 (Nat.ofDigitChars 10 ds 0 : Int) := by
  rw [atoi, strtol_of_digits hne hall]
  dsimp only
  omega

theorem atoi_toDigits (h : n ≤ 32) : atoi (Nat.toDigits 10 n) = n := by
  rw [atoi_of_digits Nat.toDigits_ne_nil fun c hc =>
    Nat.isDigit_of_mem_toDigits (by decide) (by decide) hc, Nat.ofDigitChars_ten_toDigits]
  omega

/-- Counting the bits of a netmask gives its length. -/
theorem countBits_prefixMask (h : bits ≤ 32) : countBits 32 (prefixMask bits).toNat = bits := by
  have hall : ∀ k : Fin 33, countBits 32 (prefixMask k.val).toNat = k.val := by decide +kernel
  exact hall ⟨bits, Nat.lt_succ_of_le h⟩

theorem prefixMask_inj (h : bits ≤ 32) (hn : n ≤ 32) : prefixMask bits = prefixMask n ↔ bits = n :=
  ⟨fun heq => by rw [← countBits_prefixMask h, heq, countBits_prefixMask hn], congrArg prefixMask⟩

/-! ### The parser -/

/-- A text that stands for an address and a prefix length: what `acl_parse_ip` makes of it.  It
    looks at the first 31 characters only. -/
inductive AclReads (aton : List Char → Option Ip4) (str : List Char) : Ip4 → Nat → Prop
  | any (h : isAny str = true) : AclReads aton str 0 0
  | address {addr : Ip4} (hany : isAny str = false) (hslash : '/' ∉ str.take 31)
      (haddr : aton (str.take 31) = some addr) : AclReads aton str addr 32
  | cidr {before slash : List Char} {addr : Ip4} {bits : Nat} (hany : isAny str = false)
      (hcopy : str.take 31 = before ++ '/' :: slash) (hslash : '/' ∉ before)
      (haddr : aton before = some addr) (hbits : atoi slash = bits) (hle : bits ≤ 32) :
      AclReads aton str addr bits

theorem takeWhile_slash (hslash : '/' ∉ before) (rest : List Char) :
    (before ++ '/' :: rest).takeWhile (· != '/') = before ∧
      (before ++ '/' :: rest).dropWhile (· != '/') = '/' :: rest := by
  have hall : ∀ c ∈ before, (c != '/') = true := by
    intro c hc
    rw [bne_iff_ne]
    rintro rfl
    exact hslash hc
  rw [List.takeWhile_append_of_pos hall, List.dropWhile_append_of_pos hall]
  simp

theorem takeWhile_no_slash (hslash : '/' ∉ str) :
    str.takeWhile (· != '/') = str ∧ str.dropWhile (· != '/') = [] := by
  have hall : ∀ c ∈ str, (c != '/') = true := by
    intro c hc
    rw [bne_iff_ne]
    rintro rfl
    exact hslash hc
  rw [List.takeWhile_eq_self_iff, List.dropWhile_eq_nil_iff]
  exact ⟨hall, hall⟩

theorem AclReads.le (h : AclReads aton str addr bits) : bits ≤ 32 := by
  cases h with
  | any => omega
  | address => omega
  | cidr _ _ _ _ _ hle => exact hle

/-- What the text stands for is what the parser stores: the address without its host bits, and
    the mask. -/
theorem AclReads.aclParseIp (h : AclReads aton str addr bits) :
    aclParseIp aton str = some (addr &&& prefixMask bits, prefixMask bits) := by
  cases h with
  | any hany =>
    rw [Acl.aclParseIp, if_pos hany]
    rfl
  | address hany hslash haddr =>
    obtain ⟨htake, hdrop⟩ := takeWhile_no_slash hslash
    rw [Acl.aclParseIp, hany, if_neg Bool.false_ne_true]
    dsimp only
    rw [htake, hdrop, haddr]
    rfl
  | cidr hany hcopy hslash haddr hbits hle =>
    obtain ⟨htake, hdrop⟩ := takeWhile_slash hslash _
    rw [Acl.aclParseIp, hany, if_neg Bool.false_ne_true]
    dsimp only
    rw [hcopy, htake, hdrop]
    simp only [hbits, haddr, Int.toNat_natCast]
    exact if_neg (by omega)

/-- The parser reads nothing else. The cases are its branches, each with what it has checked. -/
theorem aclReads_of_aclParseIp (h : aclParseIp aton str = some (ip, mask)) :
    ∃ addr bits, AclReads aton str addr bits := by
  rw [aclParseIp] at h
  -- The branches of `acl_parse_ip` in its order: "any", then a slash in the copy, then none.
  cases hany : isAny str with
  | true => exact ⟨0, 0, .any hany⟩
  | false =>
    rw [hany, if_neg Bool.false_ne_true] at h
    dsimp only at h
    by_cases hslash : '/' ∈ str.take 31
    · obtain ⟨before, slash, hcopy, hbefore⟩ := List.eq_append_cons_of_mem hslash
      obtain ⟨htake, hdrop⟩ := takeWhile_slash hbefore slash
      rw [hcopy, htake, hdrop] at h
      dsimp only at h
      split_ifs at h with hrange
      cases haddr : aton before with
      | none => rw [haddr] at h; cases h
      | some addr =>
        exact ⟨addr, (atoi slash).toNat, .cidr hany hcopy hbefore haddr (by omega) (by omega)⟩
    · obtain ⟨htake, hdrop⟩ := takeWhile_no_slash hslash
      -- Without a slash in the copy the whole copy is the address, and the mask is that of a host.
      rw [htake, hdrop] at h
      dsimp only at h
      rw [if_neg (by decide)] at h
      cases haddr : aton (str.take 31) with
      | none => rw [haddr] at h; cases h
      | some addr => exact ⟨addr, 32, .address hany hslash haddr⟩

/-- **The parser**: an address without its host bits and a mask, for the texts that it reads. -/
theorem aclParseIp_eq_some_iff : aclParseIp aton str = some (ip, mask) ↔
    ∃ addr bits, AclReads aton str addr bits ∧ ip = addr &&& prefixMask bits ∧
      mask = prefixMask bits := by
  constructor
  · intro h
    obtain ⟨addr, bits, hreads⟩ := aclReads_of_aclParseIp h
    rw [hreads.aclParseIp, Option.some.injEq, Prod.mk.injEq] at h
    exact ⟨addr, bits, hreads, h.1.symm, h.2.symm⟩
  · rintro ⟨addr, bits, hreads, rfl, rfl⟩
    exact hreads.aclParseIp

/-! ### The round trip -/

/-- A text with any other character is not `any`. -/
theorem isAny_eq_false {c : Char} (h : c ∈ str) (hc : c.toLower ∉ ['a', 'n', 'y']) :
    isAny str = false := by
  rw [isAny, beq_eq_false_iff_ne]
  intro heq
  have hmem := List.mem_map_of_mem (f := Char.toLower) h
  rw [heq] at hmem
  exact hc hmem

theorem dot_mem_dotted (ip : Ip4) : '.' ∈ dotted ip := by
  simp [dotted, octets, List.intercalate_cons_cons]

theorem slash_notMem_dotted (ip : Ip4) : '/' ∉ dotted ip :=
  fun h => absurd (isDotted_of_mem_dotted h) (by decide)

theorem aclParseIp_dotted (haton : aton (dotted ip) = some ip) :
    aclParseIp aton (dotted ip) = some (ip, 0xFFFFFFFF) := by
  have hlen := length_dotted_le ip
  have hcopy : (dotted ip).take 31 = dotted ip := List.take_of_length_le (by omega)
  have hreads : AclReads aton (dotted ip) ip 32 :=
    .address (isAny_eq_false (dot_mem_dotted ip) (by decide))
      (by rw [hcopy]; exact slash_notMem_dotted ip) (by rw [hcopy]; exact haton)
  have hall : prefixMask 32 = BitVec.allOnes 32 := by decide
  rw [hreads.aclParseIp, hall, BitVec.and_allOnes]
  rfl

/-- The text of a network: an address, a slash and at most two digits. -/
theorem length_cidr_le (h : bits ≤ 32) (ip : Ip4) :
    (dotted ip ++ '/' :: Nat.toDigits 10 bits).length ≤ 18 := by
  have hlen := length_dotted_le ip
  have hdigits : (Nat.toDigits 10 bits).length ≤ 2 :=
    (Nat.length_toDigits_le_iff (by decide) (by decide)).mpr (by omega)
  rw [List.length_append, List.length_cons]
  omega

theorem aclParseIp_cidr (haton : aton (dotted ip) = some ip) (h : bits ≤ 32) :
    aclParseIp aton (dotted ip ++ '/' :: Nat.toDigits 10 bits) =
      some (ip &&& prefixMask bits, prefixMask bits) := by
  have hlen := length_cidr_le h ip
  have hdot : '.' ∈ dotted ip ++ '/' :: Nat.toDigits 10 bits :=
    List.mem_append_left _ (dot_mem_dotted ip)
  exact (AclReads.cidr (isAny_eq_false hdot (by decide)) (List.take_of_length_le (by omega))
    (slash_notMem_dotted ip) haton (atoi_toDigits h) h).aclParseIp

/-- The text for what the parser stores, by the prefix length. -/
theorem aclText_prefixMask (h : bits ≤ 32) (addr : Ip4) :
    aclText (addr &&& prefixMask bits) (prefixMask bits) =
      if bits = 0 then ['a', 'n', 'y']
      else if bits = 32 then dotted (addr &&& prefixMask bits)
      else dotted (addr &&& prefixMask bits) ++ '/' :: Nat.toDigits 10 bits := by
  have hzero : prefixMask bits = 0 ↔ bits = 0 := prefixMask_inj h (Nat.zero_le 32)
  have hfull : prefixMask bits = 0xFFFFFFFF ↔ bits = 32 := prefixMask_inj h (Nat.le_refl 32)
  rw [aclText, countBits_prefixMask h]
  by_cases hbits : bits = 0
  · have hnone : addr &&& 0 = 0 := BitVec.and_zero
    rw [if_pos hbits, hzero.mpr hbits, hnone, if_pos ⟨rfl, rfl⟩]
  · rw [if_neg hbits, if_neg fun hany => hbits (hzero.mp hany.2)]
    simp only [hfull]

/-- **What is shown can be entered again**: for what the parser stores, the formatter writes the
    whole text into the buffers of its callers, and the parser reads it back.  Of `ip4addr_aton`
    this takes no more than that it reads every address in its dotted form. -/
theorem acl_parse_format (haton : ∀ ip, aton (dotted ip) = some ip)
    (hparse : aclParseIp aton str = some (ip, mask)) {bufLen : Nat} (hbuf : 24 ≤ bufLen) :
    (aclText ip mask).length < bufLen ∧ aclFormatIp ip mask bufLen = aclText ip mask ∧
      aclParseIp aton (aclFormatIp ip mask bufLen) = some (ip, mask) := by
  obtain ⟨addr, bits, hreads, rfl, rfl⟩ := aclParseIp_eq_some_iff.mp hparse
  have hle := hreads.le
  have htext := aclText_prefixMask hle addr
  have hmasked : addr &&& prefixMask bits &&& prefixMask bits = addr &&& prefixMask bits := by
    rw [BitVec.and_assoc, BitVec.and_self]
  -- each of the three forms fits, and is read back
  obtain ⟨hlen, hback⟩ : (aclText (addr &&& prefixMask bits) (prefixMask bits)).length ≤ 18 ∧
      aclParseIp aton (aclText (addr &&& prefixMask bits) (prefixMask bits)) =
        some (addr &&& prefixMask bits, prefixMask bits) := by
    rw [htext]
    by_cases hzero : bits = 0
    · subst hzero
      rw [if_pos rfl]
      refine ⟨by decide, ?_⟩
      have hnone : addr &&& prefixMask 0 = 0 := BitVec.and_zero
      rw [hnone]
      rfl
    · rw [if_neg hzero]
      by_cases hfull : bits = 32
      · subst hfull
        rw [if_pos rfl]
        exact ⟨(length_dotted_le _).trans (by decide), aclParseIp_dotted (haton _)⟩
      · rw [if_neg hfull, aclParseIp_cidr (haton _) hle, hmasked]
        exact ⟨length_cidr_le hle _, rfl⟩
  have hwhole : aclFormatIp (addr &&& prefixMask bits) (prefixMask bits) bufLen =
      aclText (addr &&& prefixMask bits) (prefixMask bits) := List.take_of_length_le (by omega)
  rw [hwhole]
  exact ⟨by omega, rfl, hback⟩

/-- The network 10.1.2.0/23 is shown as it was entered. -/
theorem acl_parse_format_network :
    aclFormatIp 0x0A010200 0xFFFFFE00 24 =
        ['1', '0', '.', '1', '.', '2', '.', '0', '/', '2', '3'] ∧
      aclParseIp readDotted (aclFormatIp 0x0A010200 0xFFFFFE00 24) =
        some (0x0A010200, 0xFFFFFE00) := by
  have hparse : aclParseIp readDotted ['1', '0', '.', '1', '.', '3', '.', '4', '/', '2', '3'] =
      some (0x0A010200, 0xFFFFFE00) := by decide +kernel
  exact ⟨by decide +kernel, (acl_parse_format standardAton_readDotted.reads hparse (by decide)).2.2⟩

end SubnetRouter.Acl
