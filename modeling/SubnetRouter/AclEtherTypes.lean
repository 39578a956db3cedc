import SubnetRouter.Acl

namespace SubnetRouter.Acl

open Lib

/-!
# The firewall and frames that are not IPv4

The hooks hand whole Ethernet frames to `acl_check_packet`, which tells them from bare IP packets
by their EtherType: it knows IPv4, ARP, IPv6 and the lengths of IEEE 802.3.  A frame with any
other EtherType is read as a bare packet, from its destination address on.

* `EthernetFrame` — a frame; `bareInfo` — the packet that its bytes are taken for.
* `unfiltered_iff_noMatch` — a frame passes unfiltered if no rule matches what is read from it.
* `notIpv4_unfiltered_iff` — when a frame that is not IPv4 does.
-/

/-- An Ethernet frame, as the hooks hand it over: two addresses, the EtherType and the bytes behind
    them. -/
structure EthernetFrame where
  macDst : Mac
  macSrc : Mac
  etherType : UInt16
  payload : List UInt8

/-- The frame on the wire. -/
def EthernetFrame.bytes (f : EthernetFrame) : List UInt8 :=
  f.macDst.bytes ++ f.macSrc.bytes ++ bytes16 f.etherType.toNat ++ f.payload

/-- The check knows that this EtherType is not IPv4: ARP, IPv6 or a length. -/
def Recognised (etherType : UInt16) : Prop :=
  etherType = 0x0806 ∨ etherType = 0x86DD ∨ etherType < 0x0600

/-- What the check reads from bytes that it takes for a bare packet. -/
def bareInfo (bytes : List UInt8) : PacketInfo :=
  let ports := readPorts bytes (byteAt bytes 9) ((byteAt bytes 0).toNat % 16 * 4)
  ⟨be32 bytes 12, be32 bytes 16, byteAt bytes 9, ports.1, ports.2⟩

/-- The check answers `ACL_NO_MATCH` and changes no hit counter. -/
structure Unfiltered (st : AclState) (n : Fin maxAclLists) (bytes : List UInt8) : Prop where
  noMatch : (aclCheckPacket st n (some bytes)).1 = .noMatch
  hits : ∀ k, ((aclCheckPacket st n (some bytes)).2 k).entries.map AclEntry.hitCount =
    (st k).entries.map AclEntry.hitCount

variable {st : AclState} {n : Fin maxAclLists} {bytes : List UInt8} {pkt : PacketInfo}
  {rs : List AclEntry} {f : EthernetFrame} {len i : Nat}

/-! ### No rule matches -/

/-- The counters stay exactly if no rule matches. -/
theorem hits_countHit_iff : (countHit pkt rs).map AclEntry.hitCount = rs.map AclEntry.hitCount ↔
    ∀ r ∈ rs, r.matchesPacket pkt = false := by
  induction rs with
  | nil => simp [countHit]
  | cons r rs ih =>
    rw [countHit, List.forall_mem_cons]
    by_cases hmatch : r.matchesPacket pkt = true
    · rw [if_pos hmatch, List.map_cons, List.map_cons, List.cons.injEq, hmatch]
      -- a counter that goes up, or wraps, is another number
      have hne : ¬ (r.hitCount + 1) % 2 ^ 32 = r.hitCount := by omega
      exact iff_of_false (fun h => hne h.1) (fun h => absurd h.1 (by decide))
    · rw [if_neg hmatch, List.map_cons, List.map_cons, List.cons.injEq, ih]
      exact and_congr_left fun _ => iff_of_true rfl (Bool.not_eq_true _ ▸ hmatch)

/-- Without a rule that matches there is no decision. -/
theorem decision_of_noMatch (h : ∀ r ∈ rs, r.matchesPacket pkt = false) :
    decision rs pkt = .noMatch := by
  have hnone : (rs.find? fun r => r.matchesPacket pkt) = none :=
    List.find?_eq_none.mpr fun r hr => by rw [h r hr]; decide
  rw [decision, hnone]

theorem aclCheckPacket_of_none (h : parsePacket bytes = none) :
    aclCheckPacket st n (some bytes) = (.noMatch, st) := by
  rw [aclCheckPacket, dif_pos n.isLt, Option.bind_some, h]

theorem aclCheckPacket_of_some (h : parsePacket bytes = some pkt) :
    aclCheckPacket st n (some bytes) = (decision (st n).entries pkt, Function.update st n
      ⟨countHit pkt (st n).entries, (st n).stats.count (decision (st n).entries pkt),
        by rw [length_countHit, (st n).entries_length]⟩) := by
  rw [aclCheckPacket, dif_pos n.isLt, Option.bind_some, h]

/-- **A frame passes unfiltered** exactly if no rule matches what is read from it. A frame of which
    nothing can be read passes. -/
theorem unfiltered_iff_noMatch : Unfiltered st n bytes ↔
    ∀ pkt, parsePacket bytes = some pkt → ∀ r ∈ (st n).entries, r.matchesPacket pkt = false := by
  constructor
  · rintro ⟨-, hhits⟩ pkt hpkt
    -- A rule that matched would have counted this packet, so the unchanged counters tell that none
    -- did.
    have hn := hhits n
    rw [aclCheckPacket_of_some hpkt] at hn
    simp only [Function.update_self] at hn
    exact hits_countHit_iff.mp hn
  · intro h
    cases hpkt : parsePacket bytes with
    | none =>
      -- An unreadable frame leaves the check before any rule is looked at.
      have hcheck : aclCheckPacket st n (some bytes) = (.noMatch, st) := aclCheckPacket_of_none hpkt
      exact ⟨by rw [hcheck], fun k => by rw [hcheck]⟩
    | some pkt =>
      refine ⟨by rw [aclCheckPacket_of_some hpkt]; exact decision_of_noMatch (h pkt hpkt),
        fun k => ?_⟩
      rw [aclCheckPacket_of_some hpkt]
      -- Only the statistics of list `n` are written.
      by_cases hk : k = n
      · subst hk
        simp only [Function.update_self]
        exact hits_countHit_iff.mpr (h pkt hpkt)
      · simp only [Function.update_of_ne hk]

/-! ### What is read from a frame -/

theorem etherType_bytes (f : EthernetFrame) : be16 f.bytes 12 = f.etherType.toNat := by
  have hfront : (f.macDst.bytes ++ f.macSrc.bytes).length = 12 := rfl
  have hread := be16_append_right (f.macDst.bytes ++ f.macSrc.bytes)
    (bytes16 f.etherType.toNat ++ f.payload) 0
  rw [hfront, ← List.append_assoc, Nat.add_zero] at hread
  rw [EthernetFrame.bytes, hread]
  have htype : bytes16 f.etherType.toNat ++ f.payload =
      UInt8.ofNat (f.etherType.toNat / 256) :: UInt8.ofNat f.etherType.toNat :: f.payload := rfl
  have hlt := f.etherType.toNat_lt
  rw [htype, be16, byteAt, byteAt, List.getD_cons_zero, List.getD_cons_succ, List.getD_cons_zero,
    UInt8.toNat_ofNat', UInt8.toNat_ofNat']
  omega

/-- Where the check looks for the IP header in a frame that is not IPv4. -/
theorem ipOffset_frame (h : f.etherType ≠ 0x0800) (hlen : 14 ≤ (f.bytes.take len).length) :
    Recognised f.etherType ∧ ipOffset (f.bytes.take len) = none ∨
      ¬ Recognised f.etherType ∧ ipOffset (f.bytes.take len) = some 0 := by
  have hsize : 14 ≤ len := Nat.le_trans hlen (List.length_take_le _ _)
  have hread : be16 (f.bytes.take len) 12 = f.etherType.toNat := by
    rw [be16, byteAt_take (by omega), byteAt_take (by omega), ← be16, etherType_bytes]
  have hne : ¬ f.etherType.toNat = 0x0800 := fun heq => h (UInt16.toNat_inj.mp heq)
  have hrecognised : Recognised f.etherType ↔ f.etherType.toNat = 0x0806 ∨
      f.etherType.toNat = 0x86DD ∨ f.etherType.toNat < 0x0600 := by
    rw [Recognised, ← UInt16.toNat_inj, ← UInt16.toNat_inj, UInt16.lt_iff_toNat_lt]
    exact Iff.rfl
  rw [ipOffset, if_pos hlen, hread, hrecognised]
  by_cases hknown : f.etherType.toNat = 0x0806 ∨ f.etherType.toNat = 0x86DD ∨
      f.etherType.toNat < 0x0600
  · exact .inl ⟨hknown, by rw [if_pos (.inr hknown), if_pos hne]⟩
  · exact .inr ⟨hknown, if_neg (not_or.mpr ⟨hne, hknown⟩)⟩

/-- A frame that is not IPv4 is read as a bare packet if the check does not know its EtherType,
    its first byte has the version 4, and twenty bytes are there. -/
theorem parsePacket_frame_eq_some (h : f.etherType ≠ 0x0800) :
    parsePacket (f.bytes.take len) = some pkt ↔
      (¬ Recognised f.etherType ∧ f.macDst.b0.toNat / 16 = 4 ∧ 20 ≤ (f.bytes.take len).length) ∧
        bareInfo (f.bytes.take len) = pkt := by
  by_cases hshort : (f.bytes.take len).length < 20
  · -- too short, whatever the offset is
    refine iff_of_false (fun hsome => ?_) (fun hbare => by omega)
    rw [parsePacket] at hsome
    cases hoff : ipOffset (f.bytes.take len) with
    | none => simp [hoff] at hsome
    | some offset =>
      rw [hoff] at hsome
      dsimp only at hsome
      rw [if_pos (by omega)] at hsome
      cases hsome
  · have hlen : 20 ≤ len := by
      have := List.length_take_le len f.bytes
      omega
    have hfirst : byteAt (f.bytes.take len) 0 = f.macDst.b0 := by
      rw [byteAt_take (by omega)]
      rfl
    rw [parsePacket]
    have hframe : 14 ≤ (f.bytes.take len).length := by omega
    rcases ipOffset_frame h hframe with ⟨hknown, hoff⟩ | ⟨hknown, hoff⟩
    · rw [hoff]
      exact iff_of_false nofun fun hbare => hbare.1.1 hknown
    · rw [hoff]
      dsimp only
      rw [if_neg hshort, hfirst]
      by_cases hversion : f.macDst.b0.toNat / 16 = 4
      · rw [if_neg (not_not.mpr hversion), Option.some.injEq, bareInfo, hfirst]
        exact ⟨fun heq => ⟨⟨hknown, hversion, by omega⟩, by rw [← heq]; simp only [Nat.zero_add]⟩,
          fun heq => by rw [← heq.2]; simp only [Nat.zero_add]⟩
      · rw [if_pos hversion]
        exact iff_of_false nofun fun hbare => hversion hbare.1.2.1

/-- **Frames that are not IPv4.** One passes unfiltered, as a first segment of any length, exactly
    if the check knows its EtherType, its destination address does not begin like an IPv4 header,
    its first twenty bytes are not there, or no rule matches the packet that its bytes would be. -/
theorem notIpv4_unfiltered_iff (st : AclState) (n : Fin maxAclLists) (f : EthernetFrame) (len : Nat)
    (h : f.etherType ≠ 0x0800) : Unfiltered st n (f.bytes.take len) ↔
      Recognised f.etherType ∨ f.macDst.b0.toNat / 16 ≠ 4 ∨ (f.bytes.take len).length < 20 ∨
        ∀ r ∈ (st n).entries, r.matchesPacket (bareInfo (f.bytes.take len)) = false := by
  rw [unfiltered_iff_noMatch]
  constructor
  · intro hpass
    -- The first three disjuncts are the ways not to be read as bare IPv4; otherwise a packet is
    -- read.
    by_cases hbare : ¬ Recognised f.etherType ∧ f.macDst.b0.toNat / 16 = 4 ∧
        20 ≤ (f.bytes.take len).length
    · exact .inr (.inr (.inr (hpass _ ((parsePacket_frame_eq_some h).mpr ⟨hbare, rfl⟩))))
    · by_cases hknown : Recognised f.etherType
      · exact .inl hknown
      · by_cases hversion : f.macDst.b0.toNat / 16 = 4
        · exact .inr (.inr (.inl (by
            by_contra hlong
            exact hbare ⟨hknown, hversion, by omega⟩)))
        · exact .inr (.inl hversion)
  · intro hcase pkt hpkt
    obtain ⟨⟨hknown, hversion, hlen⟩, rfl⟩ := (parsePacket_frame_eq_some h).mp hpkt
    rcases hcase with hcase | hcase | hcase | hcase
    · exact absurd hcase hknown
    · exact absurd hversion hcase
    -- `hlen` contradicts the length that the parser has asked for.
    · omega
    · exact hcase

/-! ### A tagged frame -/

/-- A list with the one rule that denies everything. -/
def denyEverything : AclList where
  entries := ⟨0, 0, 0, 0, 0, 0, 0, 0, 0, true⟩ :: List.replicate 15 .empty
  stats := ⟨0, 0, 0⟩
  entries_length := rfl

/-- An ARP request. -/
def arpFrame : EthernetFrame :=
  ⟨⟨0x48, 0x3F, 0xDA, 1, 2, 3⟩, ⟨0x02, 0, 0, 0, 0, 1⟩, 0x0806, List.replicate 46 0⟩

/-- The same with a VLAN tag. -/
def taggedFrame : EthernetFrame := { arpFrame with etherType := 0x8100 }

/-- ARP passes a list that denies everything. -/
theorem arp_unfiltered :
    Unfiltered (fun _ => denyEverything) aclToEsp (arpFrame.bytes.take 60) :=
  (notIpv4_unfiltered_iff (fun _ => denyEverything) aclToEsp arpFrame 60 (by decide)).mpr
    (.inl (.inl rfl))

/-- The tagged frame to `48:3F:DA:…` is taken for an IPv4 packet, and denied. -/
theorem tagged_denied : ¬ ∀ (st : AclState) (n : Fin maxAclLists) (f : EthernetFrame) (len : Nat),
    f.etherType ≠ 0x0800 → Unfiltered st n (f.bytes.take len) := by
  intro h
  have hpass := (h (fun _ => denyEverything) aclToEsp taggedFrame 60 (by decide)).noMatch
  revert hpass
  decide

end SubnetRouter.Acl
