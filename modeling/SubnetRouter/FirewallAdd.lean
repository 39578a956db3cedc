import Mathlib.Data.Rat.Defs
import SubnetRouter.AclText
import SubnetRouter.Settings.Json

namespace SubnetRouter.Acl

open Lib Settings

/-!
# Adding a firewall rule (`main/web_ui.c`)

`firewall_add_handler` makes a rule of a JSON body.  It reads the addresses with `acl_parse_ip`,
which takes a prefix length with `atoi` from a cut copy, and casts the numbers of the body, which
are doubles, to eight and sixteen bits.

* `Casts` — what C says about these casts; `firewallAddHandler` — the handler.
* `Describes`, `FieldSays`, `AsRequested` — what is asked for, and that it is installed.
* `Misread` — texts that the parser takes for something else.
* `firewall_add_iff` — which requests are installed as they are asked for.
-/

/-! ### Bodies -/

/-- What `strtod` gives for a JSON number. -/
inductive Double where
  | finite (q : ℚ)
  | infinite (negative : Bool)

/-- Without the fraction. -/
def truncate (q : ℚ) : Int := q.num.tdiv q.den

/-- The casts of a double: its integral part, where the type holds it, and anything elsewhere. C
    leaves the other values undefined, so nothing is said about them. -/
structure Casts where
  toInt : Double → Int
  toU8 : Double → UInt8
  toU16 : Double → UInt16
  toInt_eq : ∀ q, -2147483648 ≤ truncate q → truncate q < 2147483648 →
    toInt (.finite q) = truncate q
  toU8_eq : ∀ q, 0 ≤ truncate q → truncate q < 256 → (toU8 (.finite q)).toNat = truncate q
  toU16_eq : ∀ q, 0 ≤ truncate q → truncate q < 65536 → (toU16 (.finite q)).toNat = truncate q

/-- A member of the body. -/
inductive Item where
  | number (valuedouble : Double)
  | string (valuestring : List Char)
  | other

/-- The members of the body, none if it is no object. -/
abbrev Body := List (String × Item)

namespace Body

/-- `cJSON_GetObjectItem`. -/
def getObjectItem (body : Body) (key : String) : Option Item :=
  (body.find? fun m => Json.sameName m.1 key).map Prod.snd

/-- `valuestring` of a member that is a string. -/
def stringItem (body : Body) (key : String) : Option (List Char) :=
  match body.getObjectItem key with
  | some (.string valuestring) => some valuestring
  | _ => none

/-- `valuedouble` of a member that is a number. -/
def numberItem (body : Body) (key : String) : Option Double :=
  match body.getObjectItem key with
  | some (.number valuedouble) => some valuedouble
  | _ => none

/-- `cJSON_IsNumber(item) ? (uint8_t)item->valuedouble : absent`. -/
def u8Item (body : Body) (c : Casts) (key : String) (absent : UInt8) : UInt8 :=
  ((body.numberItem key).map c.toU8).getD absent

/-- The same for `uint16_t`. -/
def u16Item (body : Body) (c : Casts) (key : String) (absent : UInt16) : UInt16 :=
  ((body.numberItem key).map c.toU16).getD absent

end Body

/-! ### The handler -/

/-- `parse_acl_index`. The index is -1 for a missing field, and for every number that is no
    list's. -/
def parseAclIndex (c : Casts) (body : Body) : Int :=
  match body.numberItem "acl" with
  | none => -1
  | some v =>
    let n := c.toInt v
    if n < 0 ∨ maxAclLists ≤ n then -1 else n

/-- `ACL_ALLOW`. -/
def aclAllow : UInt8 := 1

/-- What the handler answers: a 400 with its text, or a save response. -/
inductive Response where
  | badRequest (text : String)
  | saveResponse (serr : EspErr)
deriving DecidableEq

/-- The results of the NVS calls of `save_acl_rules`. -/
structure SaveResults where
  openResult : EspErr
  setResult : Fin maxAclLists → EspErr
  commitResult : EspErr

/-- `firewall_add_handler`, behind `require_auth` and `recv_body`. A request without its texts or
    its list, and a text that cannot be read, are turned away before anything changes; a failed save
    leaves the rule in RAM. -/
def firewallAddHandler (c : Casts) (aton : List Char → Option Ip4) (s : AclStore) (body : Body)
    (nvs : SaveResults) : Response × AclStore :=
  let aclNo := parseAclIndex c body
  match body.stringItem "src", body.stringItem "dest" with
  | some src, some dest =>
    if aclNo < 0 then (.badRequest "missing acl/src/dest", s)
    else
      match aclParseIp aton src, aclParseIp aton dest with
      | some (src, sMask), some (dest, dMask) =>
        let proto := body.u8Item c "proto" 0
        let sPort := body.u16Item c "s_port" 0
        let dPort := body.u16Item c "d_port" 0
        let allow := body.u8Item c "action" aclAllow
        let added :=
          aclAdd s.lists aclNo.toNat ⟨src, sMask, dest, dMask, proto, sPort, dPort, allow⟩
        if !added.1 then (.badRequest "list full", { s with lists := added.2 })
        else
          let saved := saveAclRules { s with lists := added.2 } nvs.openResult nvs.setResult
            nvs.commitResult
          (.saveResponse saved.1, saved.2)
      | _, _ => (.badRequest "bad src/dest CIDR", s)
  | _, _ => (.badRequest "missing acl/src/dest", s)

/-! ### What is asked for -/

/-- The text is one of the three forms, and nothing else: the address and the prefix length. It is
    stated without the parser, over the digits themselves. -/
inductive Describes (aton : List Char → Option Ip4) : List Char → Ip4 → Nat → Prop
  | any {text : List Char} (h : isAny text = true) : Describes aton text 0 0
  | address {text : List Char} {addr : Ip4} (haddr : aton text = some addr) :
      Describes aton text addr 32
  | cidr {before ds : List Char} {addr : Ip4} (haddr : aton before = some addr) (hne : ds ≠ [])
      (hdigits : ∀ d ∈ ds, d.isDigit = true) (hle : Nat.ofDigitChars 10 ds 0 ≤ 32) :
      Describes aton (before ++ '/' :: ds) addr (Nat.ofDigitChars 10 ds 0)

/-- A numeric field holds an integer up to a bound.  Where a field may be `omitted`, it then asks
    for `0`, "any". -/
inductive FieldSays (omitted : Bool) (bound : Nat) : Option Item → Nat → Prop
  | missing (h : omitted = true) : FieldSays omitted bound none 0
  | integer {n : Nat} (hle : n ≤ bound) : FieldSays omitted bound (some (.number (.finite n))) n

/-- The packets that are asked for. A prefix length of 0 asks for every address, and a protocol or a
    port of 0 for all of them. -/
structure Request where
  srcAddr : Ip4
  srcBits : Nat
  destAddr : Ip4
  destBits : Nat
  proto : Nat
  sPort : Nat
  dPort : Nat

namespace Request

/-- A packet of the protocol from the source to the destination. -/
def WantsFlow (q : Request) (pkt : PacketInfo) : Prop :=
  (q.proto = 0 ∨ pkt.proto.toNat = q.proto) ∧ InCidr pkt.srcIp q.srcAddr q.srcBits ∧
    InCidr pkt.destIp q.destAddr q.destBits

/-- A TCP or UDP packet with the ports, if a port is asked for. -/
def WantsPorts (q : Request) (pkt : PacketInfo) : Prop :=
  q.sPort = 0 ∧ q.dPort = 0 ∨ (pkt.proto = ipprotoTcp ∨ pkt.proto = ipprotoUdp) ∧
    (q.sPort = 0 ∨ pkt.srcPort = q.sPort) ∧ (q.dPort = 0 ∨ pkt.dstPort = q.dPort)

end Request

/-- The body asks for these packets. `omitted` is how a field that is left out is read: as 0, or as
    a field that is missing. -/
structure AsksFor (aton : List Char → Option Ip4) (omitted : Bool) (body : Body) (q : Request) :
    Prop where
  src : ∃ text, body.stringItem "src" = some text ∧ Describes aton text q.srcAddr q.srcBits
  dest : ∃ text, body.stringItem "dest" = some text ∧ Describes aton text q.destAddr q.destBits
  proto : FieldSays omitted 255 (body.getObjectItem "proto") q.proto
  sPort : FieldSays omitted 65535 (body.getObjectItem "s_port") q.sPort
  dPort : FieldSays omitted 65535 (body.getObjectItem "d_port") q.dPort

/-- The rules of a list. -/
def AclList.rules (l : AclList) : List AclEntry := l.entries.takeWhile AclEntry.valid

/-- The handler has appended a rule to the list that the body names, and to no other. -/
structure Appended (c : Casts) (body : Body) (lists lists' : AclState) (r : AclEntry) : Prop where
  appended : ∃ n : Fin maxAclLists, parseAclIndex c body = n.val ∧
    (lists' n).rules = (lists n).rules ++ [r] ∧
    ∀ m ≠ n, (lists' m).rules = (lists m).rules

/-- The request is answered with 400 and changes nothing, or the rule that is appended takes
    exactly the packets that the body asks for. -/
def AsRequested (c : Casts) (aton : List Char → Option Ip4) (omitted : Bool) (s : AclStore)
    (body : Body) (nvs : SaveResults) : Prop :=
  (∃ text, firewallAddHandler c aton s body nvs = (.badRequest text, s)) ∨
    ∃ (q : Request) (r : AclEntry), AsksFor aton omitted body q ∧
      Appended c body s.lists (firewallAddHandler c aton s body nvs).2.lists r ∧
      (∀ pkt, r.matchesFlow pkt = true ↔ q.WantsFlow pkt) ∧
      ∀ pkt, r.matchesPorts pkt = true ↔ q.WantsPorts pkt

/-! ### Requests that go wrong -/

/-- An address, a slash, and behind it a text in which `atoi` finds a prefix length that does not
    stand there: the text is no number, or not the same after the copy has been cut. -/
def Misread (aton : List Char → Option Ip4) (text : List Char) : Prop :=
  ∃ before slash, text = before ++ '/' :: slash ∧ aton before ≠ none ∧
    0 ≤ atoi (slash.take (30 - before.length)) ∧ atoi (slash.take (30 - before.length)) ≤ 32 ∧
    ¬ (slash ≠ [] ∧ (∀ d ∈ slash, d.isDigit = true) ∧
      atoi (slash.take (30 - before.length)) = Nat.ofDigitChars 10 slash 0)

/-- The parser takes the text, rightly or not. -/
def Readable (aton : List Char → Option Ip4) (text : List Char) : Prop :=
  (∃ addr bits, Describes aton text addr bits) ∨ Misread aton text

/-- The request goes through: its list has room, and its texts are taken. Whether they mean what
    they say is another matter (`Precise`). -/
structure Complete (c : Casts) (aton : List Char → Option Ip4) (a : RuleState) (body : Body)
    (n : Fin maxAclLists) (src dest : List Char) : Prop where
  index : parseAclIndex c body = n.val
  room : (a.rules n).rules.length < maxAclEntries
  srcItem : body.stringItem "src" = some src
  destItem : body.stringItem "dest" = some dest
  srcReadable : Readable aton src
  destReadable : Readable aton dest

/-- Its texts are read as they stand, and its fields hold integers in their ranges. Only then is the
    rule that is stored the one that was asked for. -/
structure Precise (aton : List Char → Option Ip4) (omitted : Bool) (body : Body)
    (src dest : List Char) : Prop where
  src : ¬ Misread aton src
  dest : ¬ Misread aton dest
  proto : ∃ n, FieldSays omitted 255 (body.getObjectItem "proto") n
  sPort : ∃ n, FieldSays omitted 65535 (body.getObjectItem "s_port") n
  dPort : ∃ n, FieldSays omitted 65535 (body.getObjectItem "d_port") n

/-! ### Texts -/

variable {aton : List Char → Option Ip4} {omitted : Bool} {text before slash ds : List Char}
  {addr : Ip4} {bits n : Nat}

/-- An address is no keyword. -/
theorem isAny_of_aton (haton : StandardAton aton) (h : aton text = some addr) :
    isAny text = false := by
  cases text with
  | nil => rfl
  | cons c rest =>
    refine isAny_eq_false List.mem_cons_self ?_
    rcases Bool.or_eq_true_iff.mp (haton.isDotted h c List.mem_cons_self) with hdot | hdigit
    · rw [beq_iff_eq.mp hdot]
      decide
    · obtain ⟨hlo, hhi⟩ : 48 ≤ c.toNat ∧ c.toNat ≤ 57 := Char.isDigit_iff_toNat.mp hdigit
      have hall : ∀ k : Fin 58, 48 ≤ k.val →
          (Char.ofNat k.val).toLower ∉ ['a', 'n', 'y'] := by decide
      have hc := hall ⟨c.toNat, by omega⟩ hlo
      rwa [Char.ofNat_toNat] at hc

theorem slash_notMem_of_aton (haton : StandardAton aton) (h : aton text = some addr) :
    '/' ∉ text := fun hmem => absurd (haton.isDotted h '/' hmem) (by decide)

/-- The copy of a text with a slash. -/
theorem take_cidr (h : before.length ≤ 15) (slash : List Char) :
    (before ++ '/' :: slash).take 31 = before ++ '/' :: slash.take (30 - before.length) := by
  have hsplit : 31 - before.length = 30 - before.length + 1 := by omega
  rw [List.take_append, List.take_of_length_le (by omega), hsplit, List.take_succ_cons]

/-- The text in front of the first slash, and the one behind it. -/
theorem append_slash_inj {before' slash' : List Char} (hbefore : '/' ∉ before)
    (hbefore' : '/' ∉ before') (h : before ++ '/' :: slash = before' ++ '/' :: slash') :
    before = before' ∧ slash = slash' := by
  obtain ⟨htake, hdrop⟩ := takeWhile_slash hbefore slash
  obtain ⟨htake', hdrop'⟩ := takeWhile_slash hbefore' slash'
  rw [h] at htake hdrop
  exact ⟨htake.symm.trans htake', (List.cons.inj (hdrop.symm.trans hdrop')).2⟩

/-- The digits in front have at most the value of all. -/
theorem ofDigitChars_take_le (ds : List Char) (k : Nat) :
    Nat.ofDigitChars 10 (ds.take k) 0 ≤ Nat.ofDigitChars 10 ds 0 := by
  have hsplit : Nat.ofDigitChars 10 ds 0 = 10 ^ (ds.drop k).length *
      Nat.ofDigitChars 10 (ds.take k) 0 + Nat.ofDigitChars 10 (ds.drop k) 0 := by
    rw [← Nat.ofDigitChars_eq_ofDigitChars_zero, ← Nat.ofDigitChars_append, List.take_append_drop]
  have hone : 1 ≤ 10 ^ (ds.drop k).length := Nat.one_le_pow _ _ (by decide)
  have hle := Nat.le_mul_of_pos_left (Nat.ofDigitChars 10 (ds.take k) 0) hone
  omega

/-- A text that is one of the three forms is taken, for its address, and if it is not misread for
    its prefix length. -/
theorem Describes.reads (haton : StandardAton aton) (h : Describes aton text addr bits) :
    ∃ n, AclReads aton text addr n ∧ (¬ Misread aton text → n = bits) := by
  cases h with
  | any hany => exact ⟨0, .any hany, fun _ => rfl⟩
  -- An address is shorter than the copy, which therefore holds all of it.
  | address haddr =>
    have hlen := haton.length_le haddr
    have hcopy : text.take 31 = text := List.take_of_length_le (by omega)
    exact ⟨32, .address (isAny_of_aton haton haddr)
      (by rw [hcopy]; exact slash_notMem_of_aton haton haddr) (by rw [hcopy, haddr]),
      fun _ => rfl⟩
  | @cidr before ds _ haddr hne hdigits hle =>
    have hlen := haton.length_le haddr
    have hslash : '/' ∈ before ++ '/' :: ds := List.mem_append_right _ List.mem_cons_self
    -- The copy may cut the prefix length, but not to nothing, and only to a smaller number.
    have hcutne : ds.take (30 - before.length) ≠ [] := by
      rw [← List.length_pos_iff, List.length_take, Nat.lt_min, List.length_pos_iff]
      exact ⟨by omega, hne⟩
    have hcut := atoi_of_digits hcutne fun d hd => hdigits d (List.mem_of_mem_take hd)
    have hcutle := ofDigitChars_take_le ds (30 - before.length)
    have hpos : 0 ≤ atoi (ds.take (30 - before.length)) := by omega
    obtain ⟨n, hn⟩ := Int.eq_ofNat_of_zero_le hpos
    refine ⟨n, .cidr (isAny_eq_false hslash (by decide)) (take_cidr hlen ds)
      (slash_notMem_of_aton haton haddr) haddr hn (by omega), fun hread => ?_⟩
    -- Where the cut number differs from the whole, the text is misread.
    by_contra hvalue
    refine hread ⟨before, ds, rfl, by rw [haddr]; exact Option.some_ne_none addr, by omega,
      by omega, fun hproper => hvalue ?_⟩
    have heq := hproper.2.2
    omega

/-- A text that is taken is read as it stands, or misread. The cases are those of the parser: the
    word for all, an address alone, and a prefix. -/
theorem AclReads.describes (haton : StandardAton aton) (h : AclReads aton text addr n) :
    Misread aton text ∨ Describes aton text addr n := by
  cases h with
  | any hany => exact .inr (.any hany)
  | address hany hslash haddr =>
    have hlen := haton.length_le haddr
    rw [List.length_take] at hlen
    -- The parser saw the copy; the text itself ends there for an address.
    have hcopy : text.take 31 = text := List.take_of_length_le (by omega)
    rw [hcopy] at haddr
    exact .inr (.address haddr)
  | @cidr before slash' _ _ hany hcopy hslash haddr hbits hle =>
    have hlen := haton.length_le haddr
    -- For a network the text goes on behind the copy, with digits or with anything else.
    have htext : text = before ++ '/' :: (slash' ++ text.drop 31) := by
      conv_lhs => rw [← List.take_append_drop 31 text, hcopy]
      rw [List.append_assoc, List.cons_append]
    generalize slash' ++ text.drop 31 = slash at htext
    have hcut : slash.take (30 - before.length) = slash' := by
      rw [htext, take_cidr hlen] at hcopy
      exact (List.cons.inj (List.append_cancel_left hcopy)).2
    -- Read as it stands: digits only, and the number of the copy is that of the text.
    by_cases hproper : slash ≠ [] ∧ (∀ d ∈ slash, d.isDigit = true) ∧
        atoi (slash.take (30 - before.length)) = Nat.ofDigitChars 10 slash 0
    · obtain ⟨hne, hdigits, hvalue⟩ := hproper
      rw [hcut, hbits, Int.natCast_inj] at hvalue
      subst hvalue
      rw [htext]
      exact .inr (.cidr haddr hne hdigits hle)
    · refine .inl ⟨before, slash, htext, by rw [haddr]; exact Option.some_ne_none addr, ?_, ?_,
        hproper⟩
      · rw [hcut]
        omega
      · rw [hcut]
        omega

/-- A text that is misread is taken for a prefix length that does not stand there. -/
theorem Misread.reads (haton : StandardAton aton) (h : Misread aton text) :
    ∃ addr n, AclReads aton text addr n ∧
      ∀ addr' bits, Describes aton text addr' bits → bits ≠ n := by
  obtain ⟨before, slash, htext, haddr, hlo, hhi, hproper⟩ := h
  obtain ⟨addr, haddr⟩ := Option.ne_none_iff_exists'.mp haddr
  obtain ⟨n, hn⟩ := Int.eq_ofNat_of_zero_le hlo
  have hbefore := slash_notMem_of_aton haton haddr
  have hslash : '/' ∈ text := by
    rw [htext]
    exact List.mem_append_right _ List.mem_cons_self
  have hany := isAny_eq_false hslash (by decide)
  -- The parser takes the text for `n`, whatever stands behind the copy.
  refine ⟨addr, n, .cidr hany (by rw [htext, take_cidr (haton.length_le haddr)]) hbefore haddr hn
    (by omega), ?_⟩
  intro addr' bits hdescribes
  cases hdescribes with
  | any hyes => rw [hany] at hyes; cases hyes
  | address haddr' => exact absurd hslash (slash_notMem_of_aton haton haddr')
  | cidr haddr' hne hdigits hle =>
    -- The text has one slash before its address ends, so both readings split it alike.
    obtain ⟨rfl, rfl⟩ := append_slash_inj (slash_notMem_of_aton haton haddr') hbefore htext
    rintro rfl
    exact hproper ⟨hne, hdigits, hn⟩

theorem readable_iff (haton : StandardAton aton) :
    Readable aton text ↔ ∃ addr n, AclReads aton text addr n := by
  constructor
  · rintro (⟨addr, bits, hdescribes⟩ | hmisread)
    · obtain ⟨n, hreads, -⟩ := hdescribes.reads haton
      exact ⟨addr, n, hreads⟩
    · obtain ⟨addr, n, hreads, -⟩ := hmisread.reads haton
      exact ⟨addr, n, hreads⟩
  · rintro ⟨addr, n, hreads⟩
    exact (hreads.describes haton).symm.imp (fun h => ⟨addr, n, h⟩) id

/-! ### Numbers -/

theorem truncate_natCast (n : Nat) : truncate n = n := by
  rw [truncate, Rat.num_natCast, Rat.den_natCast]
  exact Int.tdiv_one _

variable {c : Casts} {body : Body} {key : String}

/-- A field that holds an integer in range is cast to it. -/
theorem FieldSays.toU8 (h : FieldSays omitted 255 (body.getObjectItem key) n) :
    (body.u8Item c key 0).toNat = n := by
  rw [Body.u8Item, Body.numberItem]
  generalize body.getObjectItem key = item at h
  cases h with
  | missing => rfl
  | integer hle =>
    have hcast := c.toU8_eq n (by rw [truncate_natCast]; omega) (by rw [truncate_natCast]; omega)
    rw [truncate_natCast] at hcast
    exact Int.ofNat_inj.mp hcast

theorem FieldSays.toU16 (h : FieldSays omitted 65535 (body.getObjectItem key) n) :
    (body.u16Item c key 0).toNat = n := by
  rw [Body.u16Item, Body.numberItem]
  generalize body.getObjectItem key = item at h
  cases h with
  | missing => rfl
  | integer hle =>
    have hcast := c.toU16_eq n (by rw [truncate_natCast]; omega) (by rw [truncate_natCast]; omega)
    rw [truncate_natCast] at hcast
    exact Int.ofNat_inj.mp hcast

/-! ### Rules -/

/-- The rule that `acl_add` stores for two networks. -/
def networkRule (srcAddr : Ip4) (srcBits : Nat) (destAddr : Ip4) (destBits : Nat) (proto : UInt8)
    (sPort dPort : UInt16) (allow : UInt8) : AclRule :=
  ⟨srcAddr &&& prefixMask srcBits, prefixMask srcBits, destAddr &&& prefixMask destBits,
    prefixMask destBits, proto, sPort, dPort, allow⟩

variable {srcAddr destAddr : Ip4} {srcBits destBits : Nat} {proto allow : UInt8}
  {sPort dPort : UInt16} {pkt : PacketInfo} {q : Request}

theorem and_masked_eq_iff (ip addr : Ip4) (bits : Nat) :
    ip &&& prefixMask bits = addr &&& prefixMask bits &&& prefixMask bits ↔
      InCidr ip addr bits := by
  rw [BitVec.and_assoc, BitVec.and_self, and_prefixMask_eq_iff]

/-- The rule takes the flow that it is for. -/
theorem matchesFlow_networkRule :
    (networkRule srcAddr srcBits destAddr destBits proto sPort dPort allow).entry.matchesFlow
        pkt = true ↔
      (proto = 0 ∨ pkt.proto = proto) ∧ InCidr pkt.srcIp srcAddr srcBits ∧
        InCidr pkt.destIp destAddr destBits := by
  simp only [AclEntry.matchesFlow, AclRule.entry, networkRule, Bool.and_eq_true, Bool.or_eq_true,
    beq_iff_eq, and_masked_eq_iff, true_and, and_assoc, @eq_comm _ proto pkt.proto]

/-- The rule filters on the ports that it is for. -/
theorem matchesPorts_networkRule (hsPort : sPort.toNat = q.sPort) (hdPort : dPort.toNat = q.dPort) :
    (networkRule srcAddr srcBits destAddr destBits proto sPort dPort allow).entry.matchesPorts
      pkt = true ↔ q.WantsPorts pkt := by
  have hentry : (networkRule srcAddr srcBits destAddr destBits proto sPort dPort
      allow).entry.hasPorts = true ↔ ¬ (q.sPort = 0 ∧ q.dPort = 0) := by
    rw [AclEntry.hasPorts, Bool.or_eq_true, bne_iff_ne, bne_iff_ne, ← hsPort, ← hdPort, not_and_or]
    exact Iff.rfl
  rw [AclEntry.matchesPorts, Request.WantsPorts]
  by_cases hany : q.sPort = 0 ∧ q.dPort = 0
  · rw [if_neg fun h => hentry.mp h hany]
    exact iff_of_true rfl (.inl hany)
  · rw [if_pos (hentry.mpr hany), or_iff_right hany]
    simp only [AclRule.entry, networkRule, hsPort, hdPort, Bool.and_eq_true, Bool.or_eq_true,
      beq_iff_eq, and_assoc, @eq_comm _ q.sPort pkt.srcPort, @eq_comm _ q.dPort pkt.dstPort]

/-- A prefix that lies in another has its bits. -/
theorem getLsbD_of_inCidr (hsub : ∀ ip, InCidr ip addr bits → InCidr ip addr n) {i : Nat}
    (hi : i < 32) (hbit : (prefixMask n).getLsbD i = true) :
    (prefixMask bits).getLsbD i = true := by
  -- the address that differs wherever the first prefix allows it
  have hin : InCidr (addr ^^^ ~~~prefixMask bits) addr bits := by
    rw [← and_prefixMask_eq_iff]
    apply BitVec.eq_of_getLsbD_eq
    intro j hj
    simp only [BitVec.getLsbD_and, BitVec.getLsbD_xor, BitVec.getLsbD_not, hj, decide_true,
      Bool.true_and]
    cases (prefixMask bits).getLsbD j <;> simp
  have hsame := (and_prefixMask_eq_iff _ _ n).mpr (hsub _ hin)
  have hat := congrArg (fun v => BitVec.getLsbD v i) hsame
  simp only [BitVec.getLsbD_and, BitVec.getLsbD_xor, BitVec.getLsbD_not, hi, decide_true,
    Bool.true_and, hbit, Bool.and_true] at hat
  cases h : (prefixMask bits).getLsbD i with
  | true => rfl
  | false => rw [h] at hat; simp at hat

/-- Two prefix lengths for the same addresses are one. -/
theorem inCidr_bits_inj (h : bits ≤ 32) (hn : n ≤ 32)
    (hsame : ∀ ip, InCidr ip addr bits ↔ InCidr ip addr n) : bits = n := by
  rw [← prefixMask_inj h hn]
  apply BitVec.eq_of_getLsbD_eq
  intro i hi
  exact Bool.eq_iff_iff.mpr ⟨getLsbD_of_inCidr (fun ip => (hsame ip).mpr) hi,
    getLsbD_of_inCidr (fun ip => (hsame ip).mp) hi⟩

/-! ### The handler -/

variable {a : RuleState} {nvs : SaveResults} {src dest : List Char} {r : AclEntry}

theorem rules_encode (a : RuleState) (m : Fin maxAclLists) :
    (a.encode.lists m).rules = (a.rules m).rules := takeWhile_tableOf rfl (a.rules m).valid

theorem parseAclIndex_lt (c : Casts) (body : Body) : parseAclIndex c body < maxAclLists := by
  rw [parseAclIndex]
  split
  · decide
  · dsimp only
    split_ifs with h
    · decide
    · omega

theorem saveAclRules_lists (s : AclStore) (nvs : SaveResults) :
    (saveAclRules s nvs.openResult nvs.setResult nvs.commitResult).2.lists = s.lists := by
  rw [saveAclRules]
  split <;> rfl

/-- A rule that is added to a list with room. -/
theorem aclAdd_room {m : Fin maxAclLists} (hroom : (a.rules m).rules.length < maxAclEntries)
    (rule : AclRule) : (aclAdd a.encode.lists m.val rule).1 = true ∧
      ((aclAdd a.encode.lists m.val rule).2 m).rules = (a.rules m).rules ++ [rule.entry] ∧
      ∀ k ≠ m, ((aclAdd a.encode.lists m.val rule).2 k).rules = (a.rules k).rules := by
  rw [aclAdd_encode, RuleState.replace, dif_pos m.isLt]
  simp only [RuleList.append, dif_pos hroom, rules_encode]
  refine ⟨trivial, ?_, fun k hk => ?_⟩
  · rw [Function.update_self]
  · rw [Function.update_of_ne hk]

/-- A full list is left alone. -/
theorem aclAdd_full {m : Fin maxAclLists} (hfull : ¬ (a.rules m).rules.length < maxAclEntries)
    (rule : AclRule) : aclAdd a.encode.lists m.val rule = (false, a.encode.lists) := by
  rw [aclAdd_encode, RuleState.replace, dif_pos m.isLt]
  simp only [RuleList.append, dif_neg hfull]

/-- The rule that the handler makes of two networks and the fields of the body. -/
def bodyRule (c : Casts) (body : Body) (srcAddr : Ip4) (srcBits : Nat) (destAddr : Ip4)
    (destBits : Nat) : AclEntry :=
  (networkRule srcAddr srcBits destAddr destBits (body.u8Item c "proto" 0)
    (body.u16Item c "s_port" 0) (body.u16Item c "d_port" 0) (body.u8Item c "action" aclAllow)).entry

/-- A request that goes through appends the rule that the parser makes of its texts. -/
theorem handler_installs (nvs : SaveResults) {m : Fin maxAclLists}
    (hindex : parseAclIndex c body = m.val) (hroom : (a.rules m).rules.length < maxAclEntries)
    (hsrc : body.stringItem "src" = some src) (hdest : body.stringItem "dest" = some dest)
    (hs : AclReads aton src srcAddr srcBits) (hd : AclReads aton dest destAddr destBits) :
    (∃ serr, (firewallAddHandler c aton a.encode body nvs).1 = .saveResponse serr) ∧
      Appended c body a.encode.lists (firewallAddHandler c aton a.encode body nvs).2.lists
        (bodyRule c body srcAddr srcBits destAddr destBits) := by
  -- There is room, so `acl_add` appends and the handler saves.
  obtain ⟨hok, happended, hothers⟩ := aclAdd_room hroom
    (networkRule srcAddr srcBits destAddr destBits (body.u8Item c "proto" 0)
      (body.u16Item c "s_port" 0) (body.u16Item c "d_port" 0)
      (body.u8Item c "action" aclAllow))
  have hno : ¬ (m.val : Int) < 0 := by omega
  simp only [firewallAddHandler, hsrc, hdest, hindex, if_neg hno, hs.aclParseIp, hd.aclParseIp,
    Int.toNat_natCast]
  rw [networkRule] at hok
  simp only [hok, Bool.not_true, Bool.false_eq_true, if_false]
  refine ⟨⟨_, rfl⟩, ⟨m, hindex, ?_, fun k hk => ?_⟩⟩
  · rw [saveAclRules_lists, rules_encode]
    exact happended
  · rw [saveAclRules_lists, rules_encode]
    exact hothers k hk

/-- A request that does not go through is answered with 400. It fails at the index, at one of the
    texts, or at a list that is full. -/
theorem handler_refuses (haton : StandardAton aton)
    (h : ∀ m src dest, ¬ Complete c aton a body m src dest) :
    ∃ text, firewallAddHandler c aton a.encode body nvs = (.badRequest text, a.encode) := by
  rw [firewallAddHandler]
  dsimp only
  cases hsrc : body.stringItem "src" with
  | none => exact ⟨_, rfl⟩
  | some src =>
    cases hdest : body.stringItem "dest" with
    | none => exact ⟨_, rfl⟩
    | some dest =>
      dsimp only
      by_cases hindex : parseAclIndex c body < 0
      · exact ⟨_, if_pos hindex⟩
      · rw [if_neg hindex]
        cases hs : aclParseIp aton src with
        | none => exact ⟨_, rfl⟩
        | some s =>
          cases hd : aclParseIp aton dest with
          | none => exact ⟨_, rfl⟩
          | some d =>
            -- only the room is left to be missing
            have hlt := parseAclIndex_lt c body
            obtain ⟨m, hm⟩ : ∃ m : Fin maxAclLists, parseAclIndex c body = m.val :=
              ⟨⟨(parseAclIndex c body).toNat, by omega⟩, by dsimp only; omega⟩
            have hfull : ¬ (a.rules m).rules.length < maxAclEntries := fun hroom =>
              h m src dest ⟨hm, hroom, hsrc, hdest,
                (readable_iff haton).mpr (aclReads_of_aclParseIp hs),
                (readable_iff haton).mpr (aclReads_of_aclParseIp hd)⟩
            refine ⟨"list full", ?_⟩
            dsimp only
            rw [hm, Int.toNat_natCast, aclAdd_full hfull]
            rfl

/-- What has been appended is one rule. -/
theorem Appended.unique {lists lists' : AclState} {r r' : AclEntry}
    (h : Appended c body lists lists' r) (h' : Appended c body lists lists' r') : r = r' := by
  obtain ⟨m, hm, happended, -⟩ := h
  obtain ⟨m', hm', happended', -⟩ := h'
  obtain rfl : m = m' := Fin.ext (by omega)
  rw [happended] at happended'
  exact List.singleton_inj.mp (List.append_cancel_left happended')

/-! ### As requested -/

/-- A rule for two networks takes the flow that is asked for exactly if their prefix lengths are
    those that are asked for. -/
theorem bodyRule_wantsFlow_iff (hproto : (body.u8Item c "proto" 0).toNat = q.proto)
    (hs : srcBits ≤ 32) (hd : destBits ≤ 32) (hqs : q.srcBits ≤ 32) (hqd : q.destBits ≤ 32) :
    (∀ pkt, (bodyRule c body q.srcAddr srcBits q.destAddr destBits).matchesFlow pkt = true ↔
        q.WantsFlow pkt) ↔ srcBits = q.srcBits ∧ destBits = q.destBits := by
  have hprotos : ∀ v : UInt8, body.u8Item c "proto" 0 = 0 ∨ v = body.u8Item c "proto" 0 ↔
      q.proto = 0 ∨ v.toNat = q.proto := by
    intro v
    rw [← hproto, ← UInt8.toNat_inj, ← UInt8.toNat_inj]
    exact Iff.rfl
  have hflow : ∀ pkt, (bodyRule c body q.srcAddr srcBits q.destAddr destBits).matchesFlow pkt =
      true ↔ (q.proto = 0 ∨ pkt.proto.toNat = q.proto) ∧ InCidr pkt.srcIp q.srcAddr srcBits ∧
        InCidr pkt.destIp q.destAddr destBits := by
    intro pkt
    rw [bodyRule, matchesFlow_networkRule, hprotos]
  simp only [hflow, Request.WantsFlow]
  constructor
  · intro h
    -- packets of the protocol that match on one side tell the lengths of the other
    have hown : q.proto = 0 ∨ (body.u8Item c "proto" 0).toNat = q.proto := .inr hproto
    constructor
    · refine inCidr_bits_inj hs hqs fun ip =>
        show InCidr ip q.srcAddr srcBits ↔ InCidr ip q.srcAddr q.srcBits from ?_
      have hip := h ⟨ip, q.destAddr, body.u8Item c "proto" 0, 0, 0⟩
      simpa only [hown, true_and, show ∀ n, InCidr q.destAddr q.destAddr n from fun _ => rfl,
        and_true] using hip
    · refine inCidr_bits_inj hd hqd fun ip =>
        show InCidr ip q.destAddr destBits ↔ InCidr ip q.destAddr q.destBits from ?_
      have hip := h ⟨q.srcAddr, ip, body.u8Item c "proto" 0, 0, 0⟩
      simpa only [hown, true_and, show ∀ n, InCidr q.srcAddr q.srcAddr n from fun _ => rfl]
        using hip
  · rintro ⟨rfl, rfl⟩ pkt
    exact Iff.rfl

theorem Describes.le (h : Describes aton text addr bits) : bits ≤ 32 := by
  cases h with
  | any => omega
  | address => omega
  | cidr _ _ _ hle => exact hle

/-- A text with the prefix length that stands there is not misread. -/
theorem not_misread (haton : StandardAton aton) (hdescribes : Describes aton text addr bits)
    (hreads : AclReads aton text addr bits) : ¬ Misread aton text := by
  intro hmisread
  obtain ⟨addr', n, hreads', hother⟩ := hmisread.reads haton
  have hparse := hreads.aclParseIp.symm.trans hreads'.aclParseIp
  rw [Option.some.injEq, Prod.mk.injEq, prefixMask_inj hdescribes.le hreads'.le] at hparse
  exact hother addr bits hdescribes hparse.2

/-- What goes through and is installed as requested is precise. A text that is misread gives a rule
    for other packets than were asked for. -/
theorem AsRequested.precise (haton : StandardAton aton)
    (h : AsRequested c aton omitted a.encode body nvs) {m : Fin maxAclLists}
    (hcomplete : Complete c aton a body m src dest) : Precise aton omitted body src dest := by
  obtain ⟨hindex, hroom, hsrc, hdest, hsread, hdread⟩ := hcomplete
  -- It was not refused: with everything readable the handler installs.
  rcases h with ⟨text, hrefused⟩ | ⟨q, r, hasks, happended, hflow, -⟩
  · obtain ⟨_, _, hs⟩ := (readable_iff haton).mp hsread
    obtain ⟨_, _, hd⟩ := (readable_iff haton).mp hdread
    obtain ⟨⟨serr, hsaved⟩, -⟩ := handler_installs nvs hindex hroom hsrc hdest hs hd
    rw [hrefused] at hsaved
    cases hsaved
  · obtain ⟨text, htext, hsdescribes⟩ := hasks.src
    obtain rfl : src = text := Option.some.inj (hsrc.symm.trans htext)
    obtain ⟨text, htext, hddescribes⟩ := hasks.dest
    obtain rfl : dest = text := Option.some.inj (hdest.symm.trans htext)
    obtain ⟨srcBits, hs, -⟩ := hsdescribes.reads haton
    obtain ⟨destBits, hd, -⟩ := hddescribes.reads haton
    obtain ⟨-, hinstalled⟩ := handler_installs nvs hindex hroom hsrc hdest hs hd
    obtain rfl := happended.unique hinstalled
    -- The installed rule wants the requested flow only if the prefix lengths agree.
    obtain ⟨rfl, rfl⟩ := (bodyRule_wantsFlow_iff hasks.proto.toU8 hs.le hd.le hsdescribes.le
      hddescribes.le).mp hflow
    exact ⟨not_misread haton hsdescribes hs, not_misread haton hddescribes hd,
      ⟨_, hasks.proto⟩, ⟨_, hasks.sPort⟩, ⟨_, hasks.dPort⟩⟩

/-- A precise request that goes through is installed as requested. Then its texts, its fields and
    the rule say the same. -/
theorem asRequested_of_precise (haton : StandardAton aton) {m : Fin maxAclLists}
    (hcomplete : Complete c aton a body m src dest)
    (hprecise : Precise aton omitted body src dest) :
    AsRequested c aton omitted a.encode body nvs := by
  obtain ⟨hindex, hroom, hsrc, hdest, hsread, hdread⟩ := hcomplete
  -- Neither text is misread, so both are read for what they describe.
  obtain ⟨srcAddr, srcBits, hsdescribes⟩ := hsread.resolve_right hprecise.src
  obtain ⟨destAddr, destBits, hddescribes⟩ := hdread.resolve_right hprecise.dest
  obtain ⟨n, hs, hsbits⟩ := hsdescribes.reads haton
  obtain ⟨k, hd, hdbits⟩ := hddescribes.reads haton
  rw [hsbits hprecise.src] at hs
  rw [hdbits hprecise.dest] at hd
  obtain ⟨proto, hproto⟩ := hprecise.proto
  obtain ⟨sPort, hsPort⟩ := hprecise.sPort
  obtain ⟨dPort, hdPort⟩ := hprecise.dPort
  obtain ⟨-, hinstalled⟩ := handler_installs nvs hindex hroom hsrc hdest hs hd
  let q : Request := ⟨srcAddr, srcBits, destAddr, destBits, proto, sPort, dPort⟩
  -- The rule of the body matches the flows and ports that the request wants.
  have hflow : ∀ pkt, (bodyRule c body q.srcAddr q.srcBits q.destAddr q.destBits).matchesFlow pkt =
      true ↔ q.WantsFlow pkt :=
    (bodyRule_wantsFlow_iff hproto.toU8 hs.le hd.le hs.le hd.le).mpr ⟨rfl, rfl⟩
  have hports : ∀ pkt, (bodyRule c body q.srcAddr q.srcBits q.destAddr q.destBits).matchesPorts
      pkt = true ↔ q.WantsPorts pkt := by
    intro pkt
    rw [bodyRule]
    exact matchesPorts_networkRule hsPort.toU16 hdPort.toU16
  exact .inr ⟨q, _, ⟨⟨src, hsrc, hsdescribes⟩, ⟨dest, hdest, hddescribes⟩, hproto, hsPort, hdPort⟩,
    hinstalled, hflow, hports⟩

/-- **Adding a rule.** A request is refused or installed as it asks exactly if, should it go
    through, its texts are read as they stand and its fields hold integers in their ranges. -/
theorem firewall_add_iff (haton : StandardAton aton) (c : Casts) (omitted : Bool) (a : RuleState)
    (body : Body) (nvs : SaveResults) :
    AsRequested c aton omitted a.encode body nvs ↔
      ∀ m src dest, Complete c aton a body m src dest → Precise aton omitted body src dest := by
  constructor
  · exact fun h m src dest hcomplete => h.precise haton hcomplete
  · intro h
    by_cases hsome : ∃ m src dest, Complete c aton a body m src dest
    · obtain ⟨m, src, dest, hcomplete⟩ := hsome
      exact asRequested_of_precise haton hcomplete (h m src dest hcomplete)
    · refine .inl (handler_refuses haton fun m src dest hcomplete => hsome ?_)
      exact ⟨m, src, dest, hcomplete⟩

/-- Casts that wrap around, as the low bits of a wider integer do. It shows that `Casts` can be
    met. -/
def wrappingCasts : Casts where
  toInt
    | .finite q => truncate q
    | .infinite _ => 0
  toU8
    | .finite q => UInt8.ofNat (truncate q % 256).toNat
    | .infinite _ => 0
  toU16
    | .finite q => UInt16.ofNat (truncate q % 65536).toNat
    | .infinite _ => 0
  toInt_eq _ _ _ := rfl
  toU8_eq q hlo hhi := by
    have hmod : (truncate q % 256).toNat % 256 = (truncate q).toNat := by omega
    dsimp only
    rw [UInt8.toNat_ofNat', hmod]
    omega
  toU16_eq q hlo hhi := by
    have hmod : (truncate q % 65536).toNat % 65536 = (truncate q).toNat := by omega
    dsimp only
    rw [UInt16.toNat_ofNat', hmod]
    omega

/-- 10.0.0.0, and the body of a request for packets from a network in it to everywhere. -/
def tenText : List Char := ['1', '0', '.', '0', '.', '0', '.', '0']

def tenBody (slash : List Char) : Body :=
  [("acl", .number (.finite 0)), ("src", .string (tenText ++ '/' :: slash)),
    ("dest", .string ['a', 'n', 'y'])]

/-- No rules yet, and NVS that works. -/
def noRules : RuleState := .boot fun _ => none

def nvsOk : SaveResults := ⟨espOk, fun _ => espOk, espOk⟩

theorem readDotted_tenText : readDotted tenText = some 0x0A000000 := by decide +kernel

/-- The network 10.0.0.0/8 is asked for and installed. -/
theorem firewall_add_network :
    AsRequested wrappingCasts readDotted true noRules.encode (tenBody ['8']) nvsOk := by
  refine (firewall_add_iff standardAton_readDotted wrappingCasts true noRules (tenBody ['8'])
    nvsOk).mpr fun m src dest hcomplete => ?_
  obtain rfl : tenText ++ ['/', '8'] = src := Option.some.inj hcomplete.srcItem
  obtain rfl : ['a', 'n', 'y'] = dest := Option.some.inj hcomplete.destItem
  have hdigits : ∀ d ∈ ['8'], d.isDigit = true := fun d hd => by rw [List.mem_singleton.mp hd]; rfl
  have hdescribes : Describes readDotted (tenText ++ ['/', '8']) 0x0A000000 8 :=
    .cidr readDotted_tenText (by decide) hdigits (by decide)
  have hreads : AclReads readDotted (tenText ++ ['/', '8']) 0x0A000000 8 :=
    .cidr (by decide) rfl (by decide) readDotted_tenText (by decide) (by decide)
  exact ⟨not_misread standardAton_readDotted hdescribes hreads,
    not_misread standardAton_readDotted (.any (by decide)) (.any (by decide)),
    ⟨0, .missing rfl⟩, ⟨0, .missing rfl⟩, ⟨0, .missing rfl⟩⟩

/-- Behind the slash there is no number, and the rule is installed for every address. -/
theorem firewall_add_no_number : ¬ ∀ (c : Casts) (aton : List Char → Option Ip4) (a : RuleState)
    (body : Body) (nvs : SaveResults), StandardAton aton →
      AsRequested c aton true a.encode body nvs := by
  intro h
  have hmisread : Misread readDotted (tenText ++ ['/', 'a', 'b', 'c']) :=
    ⟨tenText, ['a', 'b', 'c'], rfl, by rw [readDotted_tenText]; exact Option.some_ne_none _,
      by decide, by decide, fun hproper => absurd (hproper.2.1 'a' List.mem_cons_self) (by decide)⟩
  have hany : Readable readDotted ['a', 'n', 'y'] := .inl ⟨0, 0, .any (by decide)⟩
  have hcomplete : Complete wrappingCasts readDotted noRules (tenBody ['a', 'b', 'c']) aclToEsp
      (tenText ++ ['/', 'a', 'b', 'c']) ['a', 'n', 'y'] :=
    ⟨by decide +kernel, by decide, rfl, rfl, .inr hmisread, hany⟩
  have hrequested := h wrappingCasts readDotted noRules (tenBody ['a', 'b', 'c']) nvsOk
    standardAton_readDotted
  exact (hrequested.precise standardAton_readDotted hcomplete).src hmisread

end SubnetRouter.Acl
