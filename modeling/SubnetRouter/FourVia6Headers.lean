import SubnetRouter.FourVia6RoundTrip

namespace SubnetRouter.FourVia6

open Lib

/-!
# Headers of the translated packets

The traffic class of IPv6 lies across two bytes, behind the version; the TOS of IPv4 is a byte of
its own.  Either translator looks at one byte of the other header only.

* `V4HeaderRight`, `V6HeaderRight` — version, traffic class and length.
* `tos_of_sent`, `trafficClass_of_answer` — what becomes of the eight bits.
* `headers_right_iff` — the packets whose headers are right.
-/

/-- The eight bits between version and flow label. -/
def trafficClass (p : List UInt8) : Nat := be16 p 0 / 16 % 256

/-- The `Type of Service` byte. -/
def tos (p : List UInt8) : Nat := (byteAt p 1).toNat

/-- The IPv4 header that an IPv6 packet calls for. -/
structure V4HeaderRight (request p : List UInt8) : Prop where
  version : (byteAt p 0).toNat / 16 = 4
  tos_eq : tos p = trafficClass request
  length : 20 ≤ p.length ∧ be16 p 2 = 20 + (p.drop 20).length

/-- The IPv6 header that an IPv4 packet calls for. -/
structure V6HeaderRight (reply p : List UInt8) : Prop where
  version : (byteAt p 0).toNat / 16 = 6
  trafficClass_eq : trafficClass p = tos reply
  length : 40 ≤ p.length ∧ be16 p 4 = (p.drop 40).length

/-! ### Requests -/

section Request

variable {st : State} {b payload : List UInt8} {r : Request} {peer : Ip4} {random : Nat}
  {junk : Memory} {v4 : V4Packet}

theorem flowNibble_of_matchRequest (h : matchRequest st b = some r) :
    r.flowNibble = byteAt b 0 &&& 0x0f := by
  have hroom := length_of_matchRequest h
  unfold matchRequest at h
  rw [dif_neg (by omega)] at h
  simp only [Option.ite_none_left_eq_some, Option.some.injEq] at h
  rw [← h.2.2.2]

/-- The TOS byte is the upper half of the traffic class, moved to the lower half. -/
theorem tos_of_sent (h : matchRequest st b = some r) :
    r.flowNibble.toNat = trafficClass b / 16 := by
  have hlo := (byteAt b (0 + 1)).toNat_lt
  have hmask : (byteAt b 0).toNat &&& 15 = (byteAt b 0).toNat % 16 :=
    Nat.and_two_pow_sub_one_eq_mod _ 4
  rw [flowNibble_of_matchRequest h, UInt8.toNat_and, trafficClass, be16]
  refine hmask.trans ?_
  omega

theorem length_v4Header {protocol : UInt8} {body : Buffer} :
    (v4Header r peer random protocol body).mem.load 2 2 = bytes16 (20 + r.payloadLen) := by
  show Memory.load (Memory.store _ 10 _) 2 2 = _
  rw [Memory.load_store_disjoint _ (.inl (by omega))]
  simp only [Buffer.mem_store]
  rw [Memory.load_store_disjoint _ (.inl (by omega)),
    Memory.load_store_disjoint _ (.inl (by omega)),
    Memory.load_store_disjoint _ (.inl (by omega)),
    Memory.load_store_disjoint _ (.inl (by omega)),
    Memory.load_store_disjoint _ (.inl (by omega)),
    Memory.load_store_disjoint _ (.inl (by omega))]
  exact Memory.load_store_self _ 2 (bytes16 (20 + r.payloadLen))

/-- **Requests.** The header is right if there is no traffic class. Only the upper half of it is
    read, and put where the lower half belongs. -/
theorem v4HeaderRight_iff (hmatch : matchRequest st b = some r)
    (h : buildV4 r payload peer junk random = some v4) (hlen : payload.length = r.payloadLen)
    (hmax : 40 + r.payloadLen < 65536) :
    V4HeaderRight b (v4.out.mem.load 0 v4.out.cap) ↔ trafficClass b = 0 := by
  obtain ⟨hcap, -⟩ := buildV4_inBounds h hlen hmax
  obtain ⟨body, hout, -⟩ := buildV4_eq_some h
  have hversion : (byteAt (v4.out.mem.load 0 v4.out.cap) 0).toNat / 16 = 4 := by
    rw [Memory.byteAt_load _ _ (by omega), hout, Nat.add_zero, load_v4Header.1]
    rfl
  have htos : tos (v4.out.mem.load 0 v4.out.cap) = trafficClass b / 16 := by
    rw [tos, Memory.byteAt_load _ _ (by omega), hout, ← tos_of_sent hmatch]
    rfl
  have hlength : be16 (v4.out.mem.load 0 v4.out.cap) 2 = 20 + r.payloadLen := by
    rw [Memory.be16_load _ _ (by omega), Nat.zero_add, hout, length_v4Header]
    exact (toNat_bytes16 _).trans (Nat.mod_eq_of_lt (by omega))
  constructor
  · -- only zero is its own upper half
    intro hright
    have heq := hright.tos_eq
    omega
  · intro hzero
    refine ⟨hversion, by omega, ?_⟩
    rw [List.length_drop, Memory.length_load, hlength]
    omega

end Request

/-! ### Replies -/

section Reply

variable {siteId : Nat} {b payload : List UInt8} {r : Reply} {client : Ip6} {buffer : Buffer}

theorem tos_of_parseReply (h : parseReply b = some r) : r.tos.toNat = tos b := by
  simp only [parseReply, Option.ite_none_left_eq_some, not_or] at h
  obtain ⟨-, -, -, -, h⟩ := h
  split at h
  · cases h
    rfl
  · rw [Option.ite_none_left_eq_some] at h
    cases h.2
    rfl

/-- The traffic class has the upper half of the TOS byte only. -/
theorem trafficClass_of_answer {cap : Nat} (h : 2 ≤ cap) :
    trafficClass ((replyL4 r (replyBase siteId r client payload buffer)).mem.load 0 cap)
      = r.tos.toNat / 16 * 16 := by
  have htos := r.tos.toNat_lt
  have hfirst : (replyBase siteId r client payload buffer).mem 0
      = (0x60 : UInt8) ||| (r.tos >>> 4) := rfl
  have hsecond : (replyBase siteId r client payload buffer).mem 1 = 0 := rfl
  rw [trafficClass, be16, Memory.byteAt_load _ _ (by omega), Memory.byteAt_load _ _ (by omega),
    mem_replyL4_of_lt (by omega), mem_replyL4_of_lt (by omega), hfirst, hsecond, toNat_version_or,
    UInt8.toNat_zero]
  omega

/-- **Replies.** The header is right if the lower half of the TOS byte is empty, and the length of
    the packet is a 16-bit number. -/
theorem v6HeaderRight_iff (h : parseReply b = some r) (hlt : r.payloadLen < 65516)
    (hcap : buffer.cap = (40 + r.payloadLen) % 65536) :
    V6HeaderRight b ((replyL4 r (replyBase siteId r client payload buffer)).mem.load 0
      buffer.cap) ↔ tos b % 16 = 0 ∧ 40 + r.payloadLen < 65536 := by
  have htos := r.tos.toNat_lt
  rw [← tos_of_parseReply h]
  constructor
  · -- 40 bytes are there only if the sum has not wrapped
    rintro ⟨-, hclass, hwhole, -⟩
    rw [Memory.length_load] at hwhole
    rw [trafficClass_of_answer (by omega), ← tos_of_parseReply h] at hclass
    omega
  · rintro ⟨hlow, hfits⟩
    rw [Nat.mod_eq_of_lt hfits] at hcap
    refine ⟨?_, ?_, ?_, ?_⟩
    · rw [Memory.byteAt_load _ _ (by omega), mem_replyL4_of_lt (by omega)]
      exact version_of_tos r.tos
    · rw [trafficClass_of_answer (by omega), ← tos_of_parseReply h]
      omega
    · rw [Memory.length_load]
      omega
    · rw [Memory.be16_load _ _ (by omega), load_replyL4 _ _ (by omega), Nat.zero_add,
        load_replyBase_payloadLen, List.length_drop, Memory.length_load, hcap,
        Nat.add_sub_cancel_left]
      exact (toNat_bytes16 _).trans (Nat.mod_eq_of_lt (by omega))

end Reply

/-! ### Both directions -/

/-- **Headers of the translated packets.** Whatever packet comes in: translated to IPv4, its header
    is right if and only if it has no traffic class; translated to IPv6, if and only if the lower
    half of its TOS byte is empty and the IPv6 packet is shorter than 2^16 bytes. -/
theorem headers_right_iff (st : State) (p : Pbuf) (heap : Option Memory) (now : Int) :
    (∀ (peer : Option Ip4) (random : Nat) (taken : Bool) (out : Buffer) (st' : State),
      translateWgInput st (some p) peer heap random now = ((taken, some out), st') →
        (V4HeaderRight p.bytes (out.mem.load 0 out.cap) ↔ trafficClass p.bytes = 0)) ∧
    ∀ (out : Buffer) (st' : State),
      translateWgOutput st (some p) heap now = (some out, st') →
        (V6HeaderRight p.bytes (out.mem.load 0 out.cap) ↔
          tos p.bytes % 16 = 0 ∧ 40 + l4Len p.bytes < 65536) := by
  constructor
  -- To IPv4: the TOS byte is zero, whatever the traffic class was.
  · intro peer random taken out st' h
    obtain ⟨q, r, junk, v4, hq, hmatch, hdropped, -, hlen, hbuild, rfl, -⟩ :=
      translateWgInput_eq_some h
    obtain rfl := Option.some.inj hq
    have hroom := payloadLen_of_requestDropped hdropped
    have htot := p.tot_len_lt
    exact v4HeaderRight_iff hmatch hbuild hlen (by omega)
  -- To IPv6: half of the TOS byte is lost, and the length of the buffer has 16 bits.
  · intro out st' h
    obtain ⟨q, r, flows, flow, junk, hq, hparse, -, -, -, rfl, -⟩ := translateWgOutput_eq_some h
    obtain rfl := Option.some.inj hq
    obtain ⟨hlen, -, -, hlt, -⟩ := parseReply_spec hparse
    rw [cap_replyL4, cap_replyBase, ← hlen]
    exact v6HeaderRight_iff hparse (by omega) rfl

/-- A UDP request and an answer without priorities. -/
theorem plain_headers_right :
    (∃ sent st', translateWgInput freshSite.st (some udpRequest) (some 0x64400001#32)
      (some fun _ => 0) 0 0 = ((true, some sent), st') ∧
        V4HeaderRight udpRequest.bytes (sent.mem.load 0 sent.cap)) ∧
    ∃ out st', translateWgOutput (siteWithFlow 17) (some (eightByteReply 17)) (some fun _ => 0) 0
      = (some out, st') ∧
        V6HeaderRight (eightByteReply 17).bytes (out.mem.load 0 out.cap) := by
  constructor
  · obtain ⟨sent, st', h, -⟩ := udpRequest_sent
    refine ⟨sent, st', h, ((headers_right_iff _ _ _ _).1 _ _ _ _ _ h).mpr ?_⟩
    decide
  · have hsome : (translateWgOutput (siteWithFlow 17) (some (eightByteReply 17))
        (some fun _ => 0) 0).1.isSome := by decide +kernel
    obtain ⟨out, st', h⟩ := exists_of_isSome hsome
    refine ⟨out, st', h, ((headers_right_iff _ _ _ _).2 _ _ h).mpr ?_⟩
    decide

/-- The UDP request again, with the traffic class of expedited forwarding. -/
def expeditedRequest : Pbuf :=
  { bytes := [0x6b, 0x80, 0, 0, 0, 8, 17, 64] ++ (client 1).bytes ++ viaPrefix ++
      [0, 0, 0, 1, 192, 168, 4, 50, 48, 57, 0, 80, 0, 8, 0, 0]
    tot_len_lt := by simp [client, viaPrefix] }

/-- A request of class 0xb8 reaches the LAN with 0x0b. -/
theorem expedited_class_halved :
    ¬ ∀ (st : State) (p : Pbuf) (peer : Option Ip4) (heap : Option Memory) (random : Nat)
      (now : Int) (taken : Bool) (out : Buffer) (st' : State),
      translateWgInput st (some p) peer heap random now = ((taken, some out), st') →
        V4HeaderRight p.bytes (out.mem.load 0 out.cap) := by
  intro h
  have hsent : (translateWgInput freshSite.st (some expeditedRequest) (some 0x64400001#32)
      (some fun _ => 0) 0 0).1.2.map (fun out => tos (out.mem.load 0 out.cap)) = some 0x0b := by
    decide +kernel
  have hright := h freshSite.st expeditedRequest (some 0x64400001#32) (some fun _ => 0) 0 0
  generalize translateWgInput freshSite.st (some expeditedRequest) (some 0x64400001#32)
    (some fun _ => 0) 0 0 = result at hsent hright
  obtain ⟨⟨taken, out⟩, st'⟩ := result
  obtain ⟨sent, rfl, htos⟩ := Option.map_eq_some_iff.mp hsent
  have heq := (hright taken sent st' rfl).tos_eq
  rw [htos] at heq
  exact absurd heq (by decide)

end SubnetRouter.FourVia6
