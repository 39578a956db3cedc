import SubnetRouter.Net.Frame
import SubnetRouter.PortMap

namespace SubnetRouter.TailnetForward

open Lib

/-!
# The packet filters (`main/tailnet_forward.c`, `main/netif_hooks.c`)

`sta_input_hook` asks `tailnet_forward_allow_uplink_packet` about every frame from the uplink,
`ap_input_hook` and `wg_input_hook` ask `tailnet_forward_allow_non_uplink_packet` about what
comes from an AP client or out of the tunnel.

* `FirstSegment` — what the filters look for in a packet; `packetFields_eq_some_iff` — what
  they read.
* `parseCidr` — `tailnet_forward_parse_cidr`; `allowsSource_iff` — the mask test is membership
  in the CIDR.
* `allowUplinkPacket_spec` — the uplink filter, decision and counters.
* `dropped_only_to_uplink_iff` — the other filter, which does not look at the destination.
-/

/-! ### What a packet is for -/

/-- Where the IP header starts: behind an Ethernet header, or at once. -/
def ipStart (eth : Bool) : Nat := if eth then 14 else 0

/-- The length of the IP header. -/
def headerLen (eth : Bool) (b : List UInt8) : Nat := (byteAt b (ipStart eth) &&& 0x0F).toNat * 4

/-- An IPv4 packet at fragment offset 0 that carries TCP or UDP to the destination port. `eth` tells
    whether an Ethernet header is in front of it. -/
structure FirstSegment (eth : Bool) (b : List UInt8) (proto : UInt8) (port : Nat) : Prop where
  ethertype : eth = true → be16 b 12 = 0x0800
  version : byteAt b (ipStart eth) >>> 4 = 4
  headerLen_ge : 20 ≤ headerLen eth b
  offset : be16 b (ipStart eth + 6) % 0x2000 = 0
  proto_eq : byteAt b (ipStart eth + 9) = proto
  tcp_or_udp : proto = 6 ∨ proto = 17
  port_eq : be16 b (ipStart eth + headerLen eth b + 2) = port

theorem firstSegment_iff {eth : Bool} {b : List UInt8} {proto : UInt8} {port : Nat} :
    FirstSegment eth b proto port ↔ (eth = true → be16 b 12 = 0x0800) ∧
      byteAt b (ipStart eth) >>> 4 = 4 ∧ 20 ≤ headerLen eth b ∧
      be16 b (ipStart eth + 6) % 0x2000 = 0 ∧ byteAt b (ipStart eth + 9) = proto ∧
      (proto = 6 ∨ proto = 17) ∧ be16 b (ipStart eth + headerLen eth b + 2) = port :=
  ⟨fun ⟨h1, h2, h3, h4, h5, h6, h7⟩ => ⟨h1, h2, h3, h4, h5, h6, h7⟩,
    fun ⟨h1, h2, h3, h4, h5, h6, h7⟩ => ⟨h1, h2, h3, h4, h5, h6, h7⟩⟩

instance (eth : Bool) (b : List UInt8) (proto : UInt8) (port : Nat) :
    Decidable (FirstSegment eth b proto port) :=
  decidable_of_iff _ firstSegment_iff.symm

/-- The source and destination addresses. -/
def sourceOf (eth : Bool) (b : List UInt8) : Ip4 := be32 b (ipStart eth + 12)

def destinationOf (eth : Bool) (b : List UInt8) : Ip4 := be32 b (ipStart eth + 16)

variable {eth : Bool} {b p : List UInt8} {src : Ip4} {proto : UInt8} {port : Nat}

/-- **What the filters read**, of a packet whose ports are in the first pbuf. It says both when
    something is read and what it is. -/
theorem packetFields_eq_some_iff : packetFields eth b = some (src, proto, port) ↔
    FirstSegment eth b proto port ∧ ipStart eth + headerLen eth b + 4 ≤ b.length ∧
      sourceOf eth b = src := by
  -- the code compares the EtherType byte by byte
  have hether : (eth && (byteAt b 12 != 8 || byteAt b 13 != 0)) = true ↔
      ¬ (eth = true → be16 b 12 = 0x0800) := by
    have h12 := (byteAt b 12).toNat_lt
    have h13 := (byteAt b 13).toNat_lt
    have hbytes : be16 b 12 = 0x0800 ↔ byteAt b 12 = 8 ∧ byteAt b 13 = 0 := by
      rw [be16, ← UInt8.toNat_inj, ← UInt8.toNat_inj]
      show (byteAt b 12).toNat * 256 + (byteAt b 13).toNat = 2048 ↔ _ = 8 ∧ _ = 0
      omega
    rw [hbytes]
    cases eth
    · simp
    · simp [Classical.or_iff_not_imp_left]
  unfold packetFields
  simp only [hether, Option.ite_none_left_eq_some, not_not, not_or, Nat.not_lt,
    Option.some.injEq, Prod.mk.injEq]
  rw [firstSegment_iff]
  unfold ipStart headerLen sourceOf
  constructor
  · rintro ⟨-, hethertype, ⟨hversion, hoffset⟩, ⟨hihl, hlen⟩, hproto, rfl, rfl, rfl⟩
    refine ⟨⟨hethertype, hversion, hihl, hoffset, rfl, ?_, rfl⟩, hlen, rfl⟩
    by_contra hne
    exact hproto (not_or.mp hne)
  · rintro ⟨⟨hethertype, hversion, hihl, hoffset, rfl, hproto, rfl⟩, hlen, rfl⟩
    refine ⟨by omega, hethertype, ⟨hversion, hoffset⟩, ⟨hihl, hlen⟩, ?_, rfl, rfl, rfl⟩
    rintro ⟨h6, h17⟩
    exact hproto.elim h6 h17

/-! ### The allowed sources -/

/-- `isspace`. -/
def isSpace (c : Char) : Bool := c == ' ' || (9 ≤ c.toNat && c.toNat ≤ 13)

/-- The value of decimal digits. -/
def digitsValue (ds : List Char) : Nat := ds.foldl (fun n d => 10 * n + (d.toNat - 48)) 0

/-- `strtol` in base 10: the value and what is left, or `none` if there are no digits. Blanks and
    one sign may stand in front of them. -/
def strtol (text : List Char) : Option (Int × List Char) :=
  let text := text.dropWhile isSpace
  let (sign, text) : Int × List Char := match text with
    | '-' :: rest => (-1, rest)
    | '+' :: rest => (1, rest)
    | _ => (1, text)
  let digits := text.takeWhile Char.isDigit
  -- a value that does not fit a `long` saturates, and is out of every range checked here
  if digits = [] then none else some (sign * digitsValue digits, text.dropWhile Char.isDigit)

/-- `tailnet_forward_parse_cidr`, into a buffer of 32 bytes. Nothing may stand behind the prefix
    length, and a text without a slash is refused. -/
def parseCidr (aton : List Char → Option Ip4) (text : List Char) : Option (Ip4 × Nat) :=
  let copy := text.take 31
  match copy.dropWhile (· != '/') with
  | [] => none
  | _ :: slash =>
    match strtol slash, aton (copy.takeWhile (· != '/')) with
    | some (p, []), some a =>
      if p < 0 ∨ 32 < p then none else some (a &&& prefixMask p.toNat, p.toNat)
    | _, _ => none

/-- A CIDR that was parsed is a network with its host bits cleared. -/
theorem parseCidr_spec {aton : List Char → Option Ip4} {text : List Char} {network : Ip4}
    {bits : Nat} (h : parseCidr aton text = some (network, bits)) :
    network &&& prefixMask bits = network := by
  unfold parseCidr at h
  dsimp only at h
  split at h
  · cases h
  · split at h
    · rw [Option.ite_none_left_eq_some, Option.some.injEq, Prod.mk.injEq] at h
      obtain ⟨-, rfl, rfl⟩ := h
      rw [BitVec.and_assoc, BitVec.and_self]
    · cases h

/-- **The source test.** For a network with its host bits cleared the mask test is membership
    in the CIDR, `/0` and `/32` included. -/
theorem allowsSource_iff {r : Rule}
    (h : r.sourceNetwork &&& prefixMask r.sourcePrefix = r.sourceNetwork) :
    r.allowsSource src = true ↔ InCidr src r.sourceNetwork r.sourcePrefix := by
  rw [Rule.allowsSource, beq_iff_eq, ← and_prefixMask_eq_iff, h]

/-! ### The uplink filter -/

variable {aton : List Char → Option Ip4} {conflicts : UInt8 → Nat → Bool} {webPort : Nat}
  {slot : Slot} {slots : List Slot}

/-- Rules that were accepted are valid. -/
theorem valid_of_setAllError {rules : List Rule}
    (h : setAllError aton conflicts webPort rules = none) : ∀ r ∈ rules, r.valid = true := by
  intro r hr
  obtain ⟨before, hcheck⟩ := checkRule_of_setAllError h r hr
  exact (of_checkRule hcheck).1

/-- The scan is decided by the first rule that listens. -/
theorem fst_filterSlots (src : Ip4) (proto : UInt8) (port : Nat) (slots : List Slot) :
    (filterSlots src proto port slots).1 =
      ((slots.find? fun slot => slot.rule.listens proto port).map fun slot =>
        slot.rt.installed && slot.rule.allowsSource src).getD true := by
  induction slots with
  | nil => rfl
  | cons slot rest ih =>
    rw [filterSlots, List.find?_cons]
    cases slot.rule.listens proto port with
    | true => rfl
    | false => exact ih

/-- The slots in which the packet is counted: those that listen, if no two do. By induction on the
    slots. -/
theorem snd_filterSlots (src : Ip4) (proto : UInt8) (port : Nat)
    (h : (slots.map Slot.rule).Pairwise Rule.Apart) :
    (filterSlots src proto port slots).2 = slots.map fun slot =>
      if slot.rule.listens proto port then
        slot.counted (filterSlots src proto port slots).1
      else slot := by
  induction slots with
  | nil => rfl
  | cons slot rest ih =>
    rw [List.map_cons, List.pairwise_cons] at h
    obtain ⟨hapart, hrest⟩ := h
    rw [filterSlots, List.map_cons]
    cases hlistens : slot.rule.listens proto port with
    | false =>
      simp only [Bool.false_eq_true, if_false, List.cons.injEq, true_and]
      exact ih hrest
    | true =>
      simp only [if_true, List.cons.injEq, true_and]
      -- the rules behind are apart from this one, and do not listen
      have hothers : ∀ other ∈ rest, other.rule.listens proto port = false := by
        intro other hother
        by_contra hlisten
        simp only [Rule.listens, Bool.not_eq_false, Bool.and_eq_true, beq_iff_eq]
          at hlistens hlisten
        exact hapart other.rule (List.mem_map_of_mem hother) ⟨hlistens.1.1.2, hlisten.1.1.2,
          hlistens.1.2.trans hlisten.1.2.symm, hlistens.2.trans hlisten.2.symm⟩
      rw [List.map_congr_left (g := id) fun other hother => by simp [hothers other hother],
        List.map_id]

/-- A packet is dropped through a rule that listens and is not installed or does not allow its
    source. -/
theorem filterSlots_eq_false_iff (h : (slots.map Slot.rule).Pairwise Rule.Apart) :
    (filterSlots src proto port slots).1 = false ↔ ∃ slot ∈ slots,
      slot.rule.listens proto port = true ∧
        (slot.rt.installed = false ∨ slot.rule.allowsSource src = false) := by
  rw [fst_filterSlots]
  constructor
  · intro hdrop
    -- The loop decides by the first rule that listens for this packet.
    cases hfind : slots.find? fun slot => slot.rule.listens proto port with
    | none =>
      rw [hfind] at hdrop
      cases hdrop
    | some slot =>
      have hlistens : slot.rule.listens proto port = true := by simpa using List.find?_some hfind
      rw [hfind, Option.map_some, Option.getD_some, Bool.and_eq_false_iff] at hdrop
      exact ⟨slot, List.mem_of_find?_eq_some hfind, hlistens, hdrop⟩
  · rintro ⟨slot, hmem, hlistens, hdrop⟩
    obtain ⟨first, hfind⟩ : ∃ first,
        (slots.find? fun slot => slot.rule.listens proto port) = some first := by
      rw [← Option.isSome_iff_exists, List.find?_isSome]
      exact ⟨slot, hmem, hlistens⟩
    have hfirst : first.rule.listens proto port = true := by simpa using List.find?_some hfind
    -- Rules that are apart do not share a port, so the first one is the one at hand.
    have heq : first = slot := by
      simp only [Rule.listens, Bool.and_eq_true, beq_iff_eq] at hlistens hfirst
      exact eq_of_apart h (List.mem_of_find?_eq_some hfind) hmem hfirst.1.1.2 hlistens.1.1.2
        (hfirst.1.2.trans hlistens.1.2.symm) (hfirst.2.trans hlistens.2.symm)
    rw [hfind, heq, Option.map_some, Option.getD_some, Bool.and_eq_false_iff]
    exact hdrop

/-- The packet is for the listen port of the rule, which is enabled. -/
def Rule.Governs (r : Rule) (p : List UInt8) : Prop :=
  r.enabled = true ∧ FirstSegment true p r.proto r.listenPort

instance (r : Rule) (p : List UInt8) : Decidable (r.Governs p) :=
  inferInstanceAs (Decidable (_ ∧ _))

/-- The L4 header of a packet for a port is in the first pbuf: 20 bytes of TCP, 8 of UDP. -/
def HeadersInFirst (p : List UInt8) : Prop :=
  ∀ proto port, FirstSegment true p proto port →
    14 + headerLen true p + (if proto = 6 then 20 else 8) ≤ p.length

/-- What the filter reads of such a packet. -/
theorem packetFields_of_headers (hheaders : HeadersInFirst p)
    (h : FirstSegment true p proto port) :
    packetFields true p = some (sourceOf true p, proto, port) := by
  rw [packetFields_eq_some_iff]
  refine ⟨h, ?_, rfl⟩
  have hlen := hheaders proto port h
  show 14 + headerLen true p + 4 ≤ p.length
  split at hlen <;> omega

/-- A packet has one protocol and one destination port. -/
theorem FirstSegment.unique {proto' : UInt8} {port' : Nat} (h : FirstSegment eth b proto port)
    (h' : FirstSegment eth b proto' port') : proto = proto' ∧ port = port' :=
  ⟨h.proto_eq.symm.trans h'.proto_eq, h.port_eq.symm.trans h'.port_eq⟩

/-- The rules that listen on a packet's port govern it. -/
theorem listens_iff_governs {r : Rule} (hvalid : r.valid = true)
    (h : FirstSegment true p proto port) : r.listens proto port = true ↔ r.Governs p := by
  simp only [Rule.listens, hvalid, Bool.true_and, Bool.and_eq_true, beq_iff_eq, and_assoc]
  refine and_congr_right fun _ => ⟨?_, fun hfor => hfor.unique h⟩
  rintro ⟨rfl, rfl⟩
  exact h

/-- **The uplink filter.** For an accepted table, a packet is dropped exactly when it is for
    the listen port of an enabled rule that is not installed or does not allow its source; the
    packet is counted once, at that rule, and nothing else changes. -/
theorem allowUplinkPacket_spec
    (haccepted : setAllError aton conflicts webPort (slots.map Slot.rule) = none)
    (hcidr : ∀ slot ∈ slots, ∃ text,
      parseCidr aton text = some (slot.rule.sourceNetwork, slot.rule.sourcePrefix))
    (hheaders : HeadersInFirst p) :
    ((allowUplinkPacket slots p).1 = false ↔ ∃ slot ∈ slots, slot.rule.Governs p ∧
      (slot.rt.installed = false ∨
        ¬ InCidr (sourceOf true p) slot.rule.sourceNetwork slot.rule.sourcePrefix)) ∧
      (allowUplinkPacket slots p).2 = slots.map fun slot =>
        if slot.rule.Governs p then slot.counted (allowUplinkPacket slots p).1 else slot := by
  cases hfields : packetFields true p with
  | none =>
    -- the packet is for no port
    have hnone : ∀ r : Rule, ¬ r.Governs p := by
      rintro r ⟨-, hfor⟩
      rw [packetFields_of_headers hheaders hfor] at hfields
      cases hfields
    rw [allowUplinkPacket, hfields]
    simp [hnone]
  | some fields =>
    obtain ⟨src, proto, port⟩ := fields
    obtain ⟨hfor, -, rfl⟩ := packetFields_eq_some_iff.mp hfields
    have hapart := pairwise_of_setAllError haccepted
    have hgoverns : ∀ slot ∈ slots, (slot.rule.listens proto port = true ↔
        slot.rule.Governs p) := by
      intro slot hslot
      apply listens_iff_governs ?_ hfor
      exact valid_of_setAllError haccepted slot.rule (List.mem_map_of_mem hslot)
    have hsource : ∀ slot ∈ slots, (slot.rule.allowsSource (sourceOf true p) = false ↔
        ¬ InCidr (sourceOf true p) slot.rule.sourceNetwork slot.rule.sourcePrefix) := by
      intro slot hslot
      obtain ⟨text, htext⟩ := hcidr slot hslot
      rw [← allowsSource_iff (parseCidr_spec htext), Bool.not_eq_true]
    have hresult : allowUplinkPacket slots p = filterSlots (sourceOf true p) proto port slots := by
      rw [allowUplinkPacket, hfields]
    rw [hresult, filterSlots_eq_false_iff hapart]
    constructor
    · refine exists_congr fun slot => and_congr_right fun hslot => ?_
      rw [hgoverns slot hslot, hsource slot hslot]
    · rw [snd_filterSlots _ proto port hapart]
      apply List.map_congr_left
      intro slot hslot
      simp only [hgoverns slot hslot]

/-- TCP port 443 of the uplink, from 192.168.1.0/24, to a Tailnet host. It is valid and enabled;
    whether its host is there is not the rule's. -/
def httpsRule : Rule :=
  { valid := true
    enabled := true
    proto := 6
    sourcePrefix := 24
    listenPort := 443
    destinationPort := 443
    sourceNetwork := 0xC0A80100#32
    destination := ['n', 'a', 's'] }

/-- The rule, installed, with a count of blocked packets. -/
def httpsSlot (blocked : Nat) : Slot := ⟨httpsRule, true, 0x64400009#32, 0, blocked, ""⟩

/-- `ip4addr_aton` on the text 192.168.1.0. -/
def lanAton (text : List Char) : Option Ip4 :=
  if text = "192.168.1.0".toList then some 0xC0A80100#32 else none

/-- A TCP segment to port 443, a 20-byte header without data. The addresses are the caller's. -/
def httpsSegment (src dst : Ip4) : Ipv4Packet where
  tos := 0
  ident := 7
  dontFragment := true
  moreFragments := false
  fragOffset := 0
  ttl := 64
  proto := 6
  chksum := 0
  src := src
  dst := dst
  options := []
  payload := [0xC0, 0, 1, 0xBB, 0, 0, 0, 1, 0, 0, 0, 0, 0x50, 2, 0x20, 0, 0, 0, 0, 0]
  options_words := Ipv4Packet.noOptions

/-- It arrives in an Ethernet frame, in one pbuf. -/
def httpsFrame (src dst : Ip4) : List UInt8 :=
  (httpsSegment src dst).frame ⟨2, 0, 0, 0, 0, 1⟩ ⟨2, 0, 0, 0, 0, 2⟩

theorem headersInFirst_httpsFrame (src dst : Ip4) : HeadersInFirst (httpsFrame src dst) := by
  intro proto port _
  have hbyte : byteAt (httpsFrame src dst) 14 = 0x45 := by
    apply UInt8.toNat_inj.mp
    simp [httpsFrame, Ipv4Packet.versionIhl_frame, httpsSegment]
  have hheader : headerLen true (httpsFrame src dst) = 20 := by
    show (byteAt (httpsFrame src dst) 14 &&& 0x0F).toNat * 4 = 20
    rw [hbyte]
    rfl
  have hlen : (httpsFrame src dst).length = 54 := by
    rw [httpsFrame, Ipv4Packet.length_frame]
    rfl
  rw [hheader, hlen]
  split <;> omega

theorem httpsRule_accepted :
    setAllError lanAton (fun _ _ => false) 80 [httpsRule] = none ∧
      parseCidr lanAton "192.168.1.0/24".toList =
        some (httpsRule.sourceNetwork, httpsRule.sourcePrefix) := by
  decide +kernel

/-- A segment from outside 192.168.1.0/24 is dropped. -/
theorem foreign_source_dropped :
    (allowUplinkPacket [httpsSlot 0] (httpsFrame 0x0A010203#32 0xC0A80132#32)).1 = false := by
  apply (allowUplinkPacket_spec httpsRule_accepted.1 ?_ (headersInFirst_httpsFrame _ _)).1.mpr
  · exact ⟨httpsSlot 0, List.mem_singleton_self _, by decide, .inr (by decide)⟩
  · intro slot hslot
    rw [List.mem_singleton.mp hslot]
    exact ⟨_, httpsRule_accepted.2⟩

/-- The counter of a dropped packet does not grow when it stands at its last value. -/
theorem blocked_counter_wraps :
    setAllError lanAton (fun _ _ => false) 80 ([httpsSlot 4294967295].map Slot.rule) = none ∧
      HeadersInFirst (httpsFrame 0x0A010203#32 0xC0A80132#32) ∧
      httpsRule.Governs (httpsFrame 0x0A010203#32 0xC0A80132#32) ∧
      allowUplinkPacket [httpsSlot 4294967295] (httpsFrame 0x0A010203#32 0xC0A80132#32) =
        (false, [httpsSlot 0]) :=
  ⟨httpsRule_accepted.1, headersInFirst_httpsFrame _ _, by decide, by decide +kernel⟩

/-! ### The filter of the AP and the tunnel -/

/-- `tailnet_forward_allow_non_uplink_packet`. -/
def allowNonUplinkPacket (slots : List Slot) (p : List UInt8) (eth : Bool) : Bool :=
  match packetFields eth p with
  | none => true
  | some (_, proto, port) => !tailnetForwardListenConflicts slots proto port

/-- An enabled rule listens on the packet's protocol and destination port, and the port is in
    the first pbuf. -/
def HitsListener (slots : List Slot) (p : List UInt8) (eth : Bool) : Prop :=
  ipStart eth + headerLen eth p + 4 ≤ p.length ∧ ∃ slot ∈ slots, slot.rule.valid = true ∧
    slot.rule.enabled = true ∧ FirstSegment eth p slot.rule.proto slot.rule.listenPort

/-- **What the filter drops**: every packet for the number of a listen port, whatever its
    destination. -/
theorem allowNonUplinkPacket_eq_false_iff :
    allowNonUplinkPacket slots p eth = false ↔ HitsListener slots p eth := by
  unfold HitsListener
  constructor
  · intro hdrop
    unfold allowNonUplinkPacket at hdrop
    -- A packet whose fields are not read is never dropped.
    split at hdrop
    · cases hdrop
    · rename_i src proto port hfields
      obtain ⟨hfor, hlen, -⟩ := packetFields_eq_some_iff.mp hfields
      rw [Bool.not_eq_false', tailnetForwardListenConflicts, List.any_eq_true] at hdrop
      obtain ⟨slot, hslot, hlistens⟩ := hdrop
      simp only [Rule.listens, Bool.and_eq_true, beq_iff_eq] at hlistens
      obtain ⟨⟨⟨hvalid, henabled⟩, rfl⟩, rfl⟩ := hlistens
      exact ⟨hlen, slot, hslot, hvalid, henabled, hfor⟩
  · rintro ⟨hlen, slot, hslot, hvalid, henabled, hfor⟩
    -- The fields are those of the packet, and the port is that of the listener.
    have hfields := packetFields_eq_some_iff.mpr ⟨hfor, hlen, rfl⟩
    rw [allowNonUplinkPacket, hfields, Bool.not_eq_false', tailnetForwardListenConflicts,
      List.any_eq_true]
    exact ⟨slot, hslot, by simp [Rule.listens, hvalid, henabled]⟩

/-- **Scope of the filter.** It drops the packet only if that is addressed to the uplink
    address, exactly when the packet is so addressed or hits no listener. -/
theorem dropped_only_to_uplink_iff (slots : List Slot) (p : List UInt8) (eth : Bool)
    (staIp : Ip4) :
    (allowNonUplinkPacket slots p eth = false → destinationOf eth p = staIp) ↔
      (destinationOf eth p = staIp ∨ ¬ HitsListener slots p eth) := by
  rw [allowNonUplinkPacket_eq_false_iff, Classical.or_iff_not_imp_right, not_not]

/-- With the rule for port 443, an AP client cannot reach port 443 of 1.1.1.1. -/
theorem transit_segment_dropped :
    allowNonUplinkPacket [httpsSlot 0] (httpsFrame 0xC0A80402#32 0x01010101#32) true = false ∧
      ¬ (allowNonUplinkPacket [httpsSlot 0] (httpsFrame 0xC0A80402#32 0x01010101#32) true = false →
        destinationOf true (httpsFrame 0xC0A80402#32 0x01010101#32) = 0xC0A80132#32) := by
  decide +kernel

end SubnetRouter.TailnetForward
