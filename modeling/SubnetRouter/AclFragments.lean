import SubnetRouter.Acl

namespace SubnetRouter.Acl

open Lib

/-!
# The firewall and IPv4 fragments

`acl_check_packet` looks at every frame alone: it ignores the fragment offset and reads the
ports only when a whole TCP or UDP header is in the frame.  Cut into fragments of eight bytes,
a TCP segment shows it no port at all (`portView`), so only rules without ports still apply.

* `parsePacket_frame` — what the check reads from a well-formed frame.
* `decision_noPorts` — without ports, the first matching rule without port filters decides.
* `evasionFree_iff` — a denied datagram has a denied fragment under every fragmentation
  exactly when its ports fit in the first fragment or a rule without ports denies it.
-/

/-- The ports the check sees in a packet with this payload. -/
def portView (proto : UInt8) (payload : List UInt8) : Nat × Nat :=
  match l4HeaderLen proto with
  | some need => if need ≤ payload.length then (be16 payload 0, be16 payload 2) else (0, 0)
  | none => (0, 0)

/-- The packet as the rules see it, with these ports. -/
def flowInfo (p : Ipv4Packet) (ports : Nat × Nat) : PacketInfo :=
  ⟨p.src, p.dst, p.proto, ports.1, ports.2⟩

variable {entries : List AclEntry} {d f : Ipv4Packet} {macDst macSrc : Mac}

/-- Reading the ports of a frame reads the start of the payload. -/
theorem readPorts_frame (p : Ipv4Packet) (macDst macSrc : Mac) :
    readPorts (p.frame macDst macSrc) p.proto (34 + p.options.length)
      = portView p.proto p.payload := by
  unfold readPorts portView
  cases l4HeaderLen p.proto with
  | none => rfl
  | some need =>
    simp only [Ipv4Packet.length_frame, Nat.add_le_add_iff_left]
    have h0 := p.be16_frame_payload macDst macSrc 0
    have h2 := p.be16_frame_payload macDst macSrc 2
    simp only [Nat.add_zero] at h0
    rw [h0, h2]

/-- What the check reads from a frame. -/
theorem parsePacket_frame (p : Ipv4Packet) (macDst macSrc : Mac) :
    parsePacket (p.frame macDst macSrc) = some (flowInfo p (portView p.proto p.payload)) := by
  have hlen := p.length_frame macDst macSrc
  have hlong : 14 ≤ (p.frame macDst macSrc).length := by omega
  have hoff : ipOffset (p.frame macDst macSrc) = some 14 := by
    simp [ipOffset, p.etherType_frame macDst macSrc, hlong]
  have hvhl := p.versionIhl_frame macDst macSrc
  have hopt := p.options_words
  have hversion : (byteAt (p.frame macDst macSrc) 14).toNat / 16 = 4 := by omega
  have hihl : 14 + (byteAt (p.frame macDst macSrc) 14).toNat % 16 * 4
      = 34 + p.options.length := by omega
  have hshort : ¬ (p.frame macDst macSrc).length < 14 + 20 := by omega
  simp only [parsePacket, hoff, if_neg hshort, hversion, ne_eq, not_true_eq_false, if_false, hihl,
    p.proto_frame macDst macSrc, readPorts_frame, p.src_frame macDst macSrc,
    p.dst_frame macDst macSrc, flowInfo]

/-- The answer on a frame is the decision on the flow with the visible ports. -/
theorem answer_frame (entries : List AclEntry) (p : Ipv4Packet) (macDst macSrc : Mac) :
    answer entries (p.frame macDst macSrc)
      = decision entries (flowInfo p (portView p.proto p.payload)) := by
  rw [answer, parsePacket_frame]

/-- Fragments keep the flow of their datagram. -/
theorem flowInfo_fragment {off : Nat} {more : Bool} (h : f.IsFragmentOf d off more)
    (ports : Nat × Nat) : flowInfo f ports = flowInfo d ports := by
  simp only [flowInfo, h.same_proto, h.same_src, h.same_dst]

/-! ### No visible ports -/

/-- The first rule without port filters that matches the flow. -/
def firstPortless (entries : List AclEntry) (p : Ipv4Packet) : Option AclEntry :=
  entries.find? fun r => r.matchesFlow (flowInfo p (0, 0)) && !r.hasPorts

/-- A rule with port filters never matches ports `0`. -/
theorem matchesPorts_zero (r : AclEntry) (p : Ipv4Packet) :
    r.matchesPorts (flowInfo p (0, 0)) = !r.hasPorts := by
  have hbeq : ∀ port : Nat, (port == 0) = !(port != 0) := fun port => by cases port <;> rfl
  unfold AclEntry.matchesPorts AclEntry.hasPorts flowInfo
  simp only [hbeq]
  cases r.sPort != 0 <;> cases r.dPort != 0 <;> simp

/-- Without ports, the first matching rule without port filters decides. -/
theorem decision_noPorts (entries : List AclEntry) (p : Ipv4Packet) :
    decision entries (flowInfo p (0, 0)) =
      ((firstPortless entries p).map AclEntry.action).getD .noMatch := by
  have hpred : (fun r : AclEntry => r.matchesPacket (flowInfo p (0, 0)))
      = fun r => r.matchesFlow (flowInfo p (0, 0)) && !r.hasPorts := by
    funext r
    rw [AclEntry.matchesPacket, matchesPorts_zero]
  rw [decision_eq, hpred]
  rfl

/-- A rule without ports decides to deny. -/
def PortlessDeny (entries : List AclEntry) (d : Ipv4Packet) : Prop :=
  ∃ r, firstPortless entries d = some r ∧ r.action = .deny

theorem decision_noPorts_eq_deny :
    decision entries (flowInfo d (0, 0)) = .deny ↔ PortlessDeny entries d := by
  rw [decision_noPorts, PortlessDeny]
  cases firstPortless entries d <;> simp

/-! ### Fragmentation -/

/-- A prefix that holds the L4 header shows the same ports. -/
theorem portView_prefix {proto : UInt8} {chunk rest : List UInt8} {need : Nat}
    (hneed : l4HeaderLen proto = some need) (hfour : 4 ≤ need) (hlen : need ≤ chunk.length) :
    portView proto (chunk ++ rest) = portView proto chunk := by
  have h0 : be16 (chunk ++ rest) 0 = be16 chunk 0 := be16_append_left rest (by omega)
  have h2 : be16 (chunk ++ rest) 2 = be16 chunk 2 := be16_append_left rest (by omega)
  have hall : need ≤ (chunk ++ rest).length := by rw [List.length_append]; omega
  simp only [portView, hneed, if_pos hlen, if_pos hall, h0, h2]

/-- Too short for the L4 header: no ports. -/
theorem portView_short {proto : UInt8} {payload : List UInt8} {need : Nat}
    (hneed : l4HeaderLen proto = some need) (hlen : payload.length < need) :
    portView proto payload = (0, 0) := by
  simp only [portView, hneed, if_neg (Nat.not_le.mpr hlen)]

/-- Every way of splitting the datagram leaves at least one fragment that the list denies. -/
def EvasionFree (st : AclState) (n : Fin maxAclLists) (d : Ipv4Packet) (macDst macSrc : Mac) :
    Prop :=
  ∀ fs, d.IsFragmentation fs →
    .deny ∈ aclCheckPackets st n (fs.map fun f => f.frame macDst macSrc)

variable {st : AclState} {n : Fin maxAclLists}

/-- Some fragment is denied. -/
theorem deny_mem_aclCheckPackets {fs : List Ipv4Packet} :
    .deny ∈ aclCheckPackets st n (fs.map fun f => f.frame macDst macSrc) ↔
      ∃ f ∈ fs, answer (st n).entries (f.frame macDst macSrc) = .deny := by
  simp only [aclCheckPackets_eq, List.mem_map, exists_exists_and_eq_and]

/-- The ports of the datagram are in its first fragment: UDP, or less than a TCP header. -/
def PortsInFirstFragment (d : Ipv4Packet) : Prop :=
  d.proto = ipprotoUdp ∨ d.payload.length < 20

/-- The first fragment shows the ports of the datagram or none. -/
theorem portView_head {fs : List Ipv4Packet} {need : Nat}
    (hneed : l4HeaderLen d.proto = some need) (hfour : 4 ≤ need) (h : d.IsFragmentation fs) :
    ∃ f ∈ fs, (∃ off more, f.IsFragmentOf d off more) ∧
      (portView f.proto f.payload = portView d.proto d.payload ∨
        8 ≤ f.payload.length ∧ f.payload.length < need ∧ need ≤ d.payload.length ∧
          portView f.proto f.payload = (0, 0)) := by
  obtain ⟨f, hf, ⟨off, more, hfrag⟩, hpay⟩ := h.head
  refine ⟨f, hf, ⟨off, more, hfrag⟩, ?_⟩
  rw [hfrag.same_proto]
  rcases hpay with hwhole | ⟨hpos, hdvd, rest, hrest⟩
  · exact .inl (by rw [hwhole])
  · by_cases hlen : need ≤ f.payload.length
    · exact .inl (by rw [hrest, portView_prefix hneed hfour hlen])
    · have hshort : f.payload.length < need := by omega
      by_cases hall : need ≤ d.payload.length
      · exact .inr ⟨Nat.le_of_dvd hpos hdvd, hshort, hall, portView_short hneed hshort⟩
      · refine .inl ?_
        rw [portView_short hneed hshort, portView_short hneed (by omega)]

/-- **Fragments and the firewall.** A denied TCP or UDP datagram has a denied fragment under
    every fragmentation exactly when its ports are in the first fragment or, among the rules
    without port filters, the first one that matches its protocol and addresses denies. -/
theorem evasionFree_iff (hproto : d.proto = ipprotoTcp ∨ d.proto = ipprotoUdp)
    (hdeny : (aclCheckPacket st n (some (d.frame macDst macSrc))).1 = .deny) :
    EvasionFree st n d macDst macSrc ↔
      PortsInFirstFragment d ∨ PortlessDeny (st n).entries d := by
  rw [aclCheckPacket_fst, answer_frame] at hdeny
  constructor
  · intro hfree
    by_contra hnot
    simp only [PortsInFirstFragment, not_or, Nat.not_lt] at hnot
    obtain ⟨⟨hudp, hlen⟩, hportless⟩ := hnot
    have htcp : d.proto = ipprotoTcp := hproto.resolve_right hudp
    have hneed : l4HeaderLen d.proto = some 20 := by simp [l4HeaderLen, htcp]
    -- cut into eight-byte fragments, no fragment shows a port
    obtain ⟨f, hf, hans⟩ :=
      deny_mem_aclCheckPackets.mp (hfree _ d.isFragmentation_eightByteSplit)
    obtain ⟨off, more, hfrag⟩ :=
      (d.isSplit_eightByteSplit 0 d.payload).mem_isFragmentOf hf
    have hsmall := d.length_payload_eightByteSplit 0 d.payload f hf
    have hview : portView f.proto f.payload = (0, 0) :=
      portView_short (hfrag.same_proto ▸ hneed) (by omega)
    rw [answer_frame, hview, flowInfo_fragment hfrag, decision_noPorts_eq_deny] at hans
    exact hportless hans
  · intro hcond fs hfs
    obtain ⟨need, hneed, hfour, htcp⟩ : ∃ need, l4HeaderLen d.proto = some need ∧ 4 ≤ need ∧
        (need ≤ 8 ∨ d.proto ≠ ipprotoUdp ∧ need = 20) := by
      rcases hproto with h | h
      · exact ⟨20, by simp [l4HeaderLen, h], by omega, .inr ⟨by rw [h]; decide, rfl⟩⟩
      · exact ⟨8, by rw [h]; rfl, by omega, .inl (by omega)⟩
    obtain ⟨f, hf, ⟨off, more, hfrag⟩, hview⟩ := portView_head hneed hfour hfs
    refine deny_mem_aclCheckPackets.mpr ⟨f, hf, ?_⟩
    rw [answer_frame, flowInfo_fragment hfrag]
    rcases hview with hsame | ⟨height, hshort, hall, hzero⟩
    · rw [hsame]; exact hdeny
    · rw [hzero, decision_noPorts_eq_deny]
      refine hcond.resolve_left ?_
      rintro (hudp | hlen)
      · rcases htcp with h8 | ⟨hne, -⟩
        · omega
        · exact hne hudp
      · omega

/-! ### A port rule against a TCP segment and a UDP datagram -/

/-- Deny TCP (or UDP) to port 80, whatever the addresses. -/
def denyPort80 (proto : UInt8) : AclEntry := ⟨0, 0, 0, 0, 0, 80, proto, 0, 0, true⟩

/-- All four lists hold the one rule. -/
def oneRuleState (r : AclEntry) : AclState := fun _ =>
  ⟨r :: List.replicate 15 .empty, ⟨0, 0, 0⟩, rfl⟩

/-- 192.168.1.20:1024 → 192.168.1.50:80 with twenty bytes behind the IP header. -/
def port80Packet (proto : UInt8) : Ipv4Packet where
  tos := 0
  ident := 7
  dontFragment := false
  moreFragments := false
  fragOffset := 0
  ttl := 64
  proto := proto
  chksum := 0
  src := 0xC0A80114#32
  dst := 0xC0A80132#32
  options := []
  payload := [4, 0, 0, 80, 0, 0, 0, 1, 0, 0, 0, 0, 0x50, 2, 0x20, 0, 0, 0, 0, 0]
  options_words := Ipv4Packet.noOptions

def zeroMac : Mac := ⟨0, 0, 0, 0, 0, 0⟩

theorem evasionFree_udp :
    EvasionFree (oneRuleState (denyPort80 17)) aclToEsp (port80Packet 17) zeroMac zeroMac :=
  (evasionFree_iff (.inr rfl) (by decide)).mpr (.inl (.inl rfl))

/-- The segment in fragments of eight, eight and four bytes. -/
def port80Fragments : List Ipv4Packet :=
  let d := port80Packet 6
  [d.fragment 0 (d.payload.take 8) true, d.fragment 1 ((d.payload.drop 8).take 8) true,
    d.fragment 2 (d.payload.drop 16) false]

/-- The list denies the TCP segment but none of its three fragments. -/
theorem port80_evades :
    (aclCheckPacket (oneRuleState (denyPort80 6)) aclToEsp
        (some ((port80Packet 6).frame zeroMac zeroMac))).1 = .deny ∧
      (port80Packet 6).IsFragmentation port80Fragments ∧
      aclCheckPackets (oneRuleState (denyPort80 6)) aclToEsp
        (port80Fragments.map fun f => f.frame zeroMac zeroMac) = [.noMatch, .noMatch, .noMatch] ∧
      ¬ EvasionFree (oneRuleState (denyPort80 6)) aclToEsp (port80Packet 6) zeroMac zeroMac := by
  have hsplit : (port80Packet 6).IsFragmentation port80Fragments :=
    ⟨⟨rfl, rfl, rfl, rfl, rfl, rfl⟩, by decide, by decide, _, rfl,
      ⟨rfl, rfl, rfl, rfl, rfl, rfl⟩, by decide, by decide, _, rfl,
      ⟨rfl, rfl, rfl, rfl, rfl, rfl⟩, rfl⟩
  have hanswers : aclCheckPackets (oneRuleState (denyPort80 6)) aclToEsp
      (port80Fragments.map fun f => f.frame zeroMac zeroMac)
        = [.noMatch, .noMatch, .noMatch] := by decide
  refine ⟨by decide, hsplit, hanswers, fun hfree => ?_⟩
  have hmem := hfree _ hsplit
  rw [hanswers] at hmem
  exact absurd hmem (by decide)

end SubnetRouter.Acl
