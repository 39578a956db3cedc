import SubnetRouter.FourVia6

namespace SubnetRouter.FourVia6

open Lib

/-!
# Bounds of the translated packets

Both directions of the translator build their packet in a `pbuf_alloc`ed buffer whose length
parameter has 16 bits, and both recompute a checksum at an offset that depends on the
protocol.  The request direction checks what it needs (`translateWgInput_inBounds`); the reply
direction does not, and stays inside its buffer exactly for the packets that fit
(`translateWgOutput_inBounds_iff`).

* `translateWgOutput_eq_some` — everything a translated reply has gone through.
* `replyBase_inBounds`, `replyL4_inBounds` — the writes of the two parts.
-/

variable {st st' : State} {p : Pbuf} {heap : Option Memory} {now : Int} {out : Buffer}

/-! ### The reply direction -/

/-- The length of the L4 part by the packet's own IPv4 header: `total - ihl`. -/
def l4Len (b : List UInt8) : Nat := be16 b 2 - (byteAt b 0).toNat % 16 * 4

/-- The translated reply fits: its length survives `pbuf_alloc`'s 16-bit parameter, and a TCP
    segment reaches the end of its checksum field. -/
def FitsAllocation (b : List UInt8) : Prop :=
  40 + l4Len b < 65536 ∧ (byteAt b 9 = 6 → 18 ≤ l4Len b)

/-- The lengths and the protocol are those of the packet's own IPv4 header. -/
theorem header_of_parseReply {b : List UInt8} {r : Reply} (h : parseReply b = some r) :
    r.ihl = (byteAt b 0).toNat % 16 * 4 ∧ r.total = be16 b 2 ∧ r.protocol = byteAt b 9 := by
  simp only [parseReply, Option.ite_none_left_eq_some, not_or] at h
  obtain ⟨-, -, -, -, h⟩ := h
  -- both result branches read the same header fields
  split at h
  · cases h
    exact ⟨rfl, rfl, rfl⟩
  · rw [Option.ite_none_left_eq_some] at h
    obtain ⟨-, h⟩ := h
    cases h
    exact ⟨rfl, rfl, rfl⟩

/-- What the checks before the flow lookup establish. -/
theorem parseReply_spec {b : List UInt8} {r : Reply} (h : parseReply b = some r) :
    r.payloadLen = l4Len b ∧ r.protocol = byteAt b 9 ∧ 8 ≤ l4Len b ∧ l4Len b < 65516 ∧
      (r.protocol = 6 ∨ r.protocol = 17 ∨ r.protocol = 1) := by
  obtain ⟨hri, hrt, hrp⟩ := header_of_parseReply h
  simp only [parseReply, Option.ite_none_left_eq_some, not_or] at h
  obtain ⟨-, ⟨hihl, hle, -, -, hproto⟩, hl4, -, -⟩ := h
  have htotal := be16_lt b 2
  have hprotocol : byteAt b 9 = 6 ∨ byteAt b 9 = 17 ∨ byteAt b 9 = 1 := by
    by_contra hne
    simp only [not_or] at hne
    exact hproto hne
  have hlen : r.payloadLen = l4Len b := by rw [Reply.payloadLen, hri, hrt, l4Len]
  refine ⟨hlen, hrp, ?_, ?_, hrp ▸ hprotocol⟩ <;> unfold l4Len <;> omega

/-- **Inversion of the reply direction.** A translated reply passed the checks, matched a
    flow, and consists of `replyBase` and `replyL4`. -/
theorem translateWgOutput_eq_some {packet : Option Pbuf}
    (h : translateWgOutput st packet heap now = (some out, st')) :
    ∃ p r flows flow junk, packet = some p ∧ parseReply p.bytes = some r ∧
      flowLookup r.key now st.flows = (flows, some flow) ∧ heap = some junk ∧
      (copyPartial p.bytes r.payloadLen r.ihl).length = r.payloadLen ∧
      out = replyL4 r (replyBase st.siteId r flow.clientV6
        (copyPartial p.bytes r.payloadLen r.ihl)
        (Buffer.alloc ((40 + r.payloadLen) % 65536) junk)) ∧
      st' = { st with flows := flows, translated := (st.translated + 1) % 2 ^ 32 } := by
  -- The splits follow the checks of the function; each `return` but the last gives no packet.
  unfold translateWgOutput at h
  split at h
  · cases h
  · split at h
    · cases h
    · rename_i p
      split at h
      · cases h
      · rename_i r hparse
        split at h
        · cases h
        · rename_i flows flow hflow
          split at h
          · cases h
          · rename_i junk
            -- The last one is that of a payload that could not be copied whole.
            simp only at h
            split at h
            · cases h
            · rename_i hlen
              obtain ⟨hout, hst⟩ := Prod.mk.inj h
              exact ⟨p, r, flows, flow, junk, rfl, hparse, hflow, rfl, not_not.mp hlen,
                (Option.some.inj hout).symm, hst.symm⟩

/-- Header and payload stay inside exactly when the allocation holds both. -/
theorem replyBase_inBounds {siteId : Nat} {r : Reply} {client : Ip6} {payload : List UInt8}
    {cap : Nat} {junk : Memory} (hne : 0 < payload.length) :
    (replyBase siteId r client payload (Buffer.alloc cap junk)).InBounds ↔
      40 + payload.length ≤ cap := by
  have hclient := client.length_eq
  have hvia : viaPrefix.length = 8 := rfl
  unfold replyBase
  simp only [Buffer.inBounds_store, List.length_replicate, List.length_singleton,
    length_bytes16, length_bytes32, hclient, hvia, Buffer.inBounds_alloc, Buffer.cap_store,
    Buffer.cap_alloc, true_and]
  constructor <;> intro h <;> omega

/-- The allocation's length is never touched after `pbuf_alloc`. -/
@[simp] theorem cap_replyBase {siteId : Nat} {r : Reply} {client : Ip6} {payload : List UInt8}
    {b : Buffer} : (replyBase siteId r client payload b).cap = b.cap := by
  simp only [replyBase, Buffer.cap_store]

@[simp] theorem cap_replyL4 {r : Reply} {b : Buffer} : (replyL4 r b).cap = b.cap := by
  unfold replyL4
  split <;> rfl

/-- The last byte the L4 part writes, from the start of the L4 header. -/
def l4WriteEnd (protocol : UInt8) : Nat :=
  if protocol = 6 then 18 else if protocol = 17 then 8 else 4

/-- The L4 part stays inside exactly when its checksum field does. -/
theorem replyL4_inBounds {r : Reply} {b : Buffer} :
    (replyL4 r b).InBounds ↔ b.InBounds ∧ 40 + l4WriteEnd r.protocol ≤ b.cap := by
  unfold replyL4 l4WriteEnd
  by_cases htcp : r.protocol = 6
  · simp only [htcp, true_or, if_true, Buffer.inBounds_store, length_bytes16, Buffer.cap_store,
      and_assoc]
    exact and_congr_right fun _ => by omega
  · by_cases hudp : r.protocol = 17
    · have hne : ¬ ((17 : UInt8) = 6) := by decide
      simp only [hudp, hne, or_true, if_true, if_false, Buffer.inBounds_store, length_bytes16,
        Buffer.cap_store, and_assoc]
      exact and_congr_right fun _ => by omega
    · simp only [htcp, hudp, or_self, if_false, Buffer.inBounds_store, length_bytes16,
        List.length_singleton, Buffer.cap_store, and_assoc]
      exact and_congr_right fun _ => by omega

/-- A reply fits into what is allocated for it exactly when the length is not cut, and a TCP
    checksum is within the segment. -/
theorem reply_inBounds_iff {bytes payload : List UInt8} {r : Reply} (siteId : Nat) (client : Ip6)
    (junk : Memory) (hparse : parseReply bytes = some r) (hcopy : payload.length = r.payloadLen) :
    ((replyL4 r (replyBase siteId r client payload
        (Buffer.alloc ((40 + r.payloadLen) % 65536) junk))).cap = 40 + l4Len bytes ∧
      (replyL4 r (replyBase siteId r client payload
        (Buffer.alloc ((40 + r.payloadLen) % 65536) junk))).InBounds) ↔ FitsAllocation bytes := by
  obtain ⟨hlen, hproto, hge, hlt, hprotocol⟩ := parseReply_spec hparse
  have hpos : 0 < payload.length := by omega
  rw [replyL4_inBounds, replyBase_inBounds hpos, cap_replyL4, cap_replyBase, Buffer.cap_alloc,
    hcopy, hlen]
  unfold FitsAllocation
  rw [← hproto]
  constructor
  · rintro ⟨hcap, hbase, hl4⟩
    refine ⟨by omega, fun htcp => ?_⟩
    rw [hcap, l4WriteEnd, if_pos htcp] at hl4
    omega
  · rintro ⟨hfits, htcp⟩
    have hcap : (40 + l4Len bytes) % 65536 = 40 + l4Len bytes := Nat.mod_eq_of_lt hfits
    rw [hcap]
    refine ⟨rfl, Nat.le_refl _, Nat.add_le_add_left ?_ 40⟩
    -- UDP and ICMP write within the eight bytes that every accepted reply has
    unfold l4WriteEnd
    split
    · exact htcp ‹_›
    · split <;> omega

/-- **Bounds of the reply direction.** A translated reply has a buffer of `40 + payload_len`
    bytes and writes only inside it exactly when it fits: neither is guaranteed by the checks,
    which accept a TCP segment of 8 bytes and an L4 part of 65515. -/
theorem translateWgOutput_inBounds_iff
    (h : translateWgOutput st (some p) heap now = (some out, st')) :
    (out.cap = 40 + l4Len p.bytes ∧ out.InBounds) ↔ FitsAllocation p.bytes := by
  obtain ⟨q, r, flows, flow, junk, hq, hparse, -, -, hcopy, rfl, -⟩ :=
    translateWgOutput_eq_some h
  obtain rfl := Option.some.inj hq
  exact reply_inBounds_iff st.siteId flow.clientV6 junk hparse hcopy

/-- A translated reply has a packet and a next state. -/
theorem exists_of_isSome {packet : Option Pbuf}
    (h : (translateWgOutput st packet heap now).1.isSome) :
    ∃ out st', translateWgOutput st packet heap now = (some out, st') := by
  obtain ⟨out, hout⟩ := Option.isSome_iff_exists.mp h
  exact ⟨out, _, Prod.ext hout rfl⟩

/-- A site for 192.168.4.0/24 whose first flow is that of a client to port 80 of
    192.168.4.50, by way of the peer 100.64.0.1. -/
def siteWithFlow (protocol : UInt8) : State :=
  { enabled := true
    network := 0xC0A80400#32
    prefixLen := 24
    siteId := 1
    flows := ⟨true, ⟨List.replicate 16 0xfd, rfl⟩,
      ⟨protocol, 0x64400001#32, 0xC0A80432#32, 12345, 80⟩, 0⟩ ::
        List.replicate 47 ⟨false, Ip6.zero, ⟨0, 0#32, 0#32, 0, 0⟩, 0⟩
    translated := 0
    dropped := 0 }

/-- An answer of that flow with the first eight bytes of an L4 header and nothing else. -/
def eightByteReply (protocol : UInt8) : Pbuf :=
  { bytes := [0x45, 0, 0, 28, 0, 0, 0, 0, 64, protocol, 0, 0, 192, 168, 4, 50, 100, 64, 0, 1,
      0, 80, 48, 57, 0, 8, 0, 0]
    tot_len_lt := by simp }

/-- A UDP answer of eight L4 bytes is translated within its 48 bytes. -/
theorem eightByteUdp_inBounds :
    ∃ out st', translateWgOutput (siteWithFlow 17) (some (eightByteReply 17)) (some fun _ => 0) 0
      = (some out, st') ∧ out.cap = 40 + l4Len (eightByteReply 17).bytes ∧ out.InBounds := by
  have hsome : (translateWgOutput (siteWithFlow 17) (some (eightByteReply 17)) (some fun _ => 0)
    0).1.isSome := by decide
  obtain ⟨out, st', h⟩ := exists_of_isSome hsome
  exact ⟨out, st', h, (translateWgOutput_inBounds_iff h).mpr ⟨by decide, by decide⟩⟩

/-- A TCP answer of eight L4 bytes is translated into 48 bytes, behind which its checksum is
    written. -/
theorem eightByteTcp_writesBehind :
    ∃ out st', translateWgOutput (siteWithFlow 6) (some (eightByteReply 6)) (some fun _ => 0) 0
      = (some out, st') ∧ out.cap = 48 ∧
        ¬ (out.cap = 40 + l4Len (eightByteReply 6).bytes ∧ out.InBounds) := by
  have hsome : (translateWgOutput (siteWithFlow 6) (some (eightByteReply 6)) (some fun _ => 0)
    0).1.isSome := by decide
  obtain ⟨out, st', h⟩ := exists_of_isSome hsome
  obtain ⟨p, r, flows, flow, junk, hp, hparse, -, -, -, hout, -⟩ := translateWgOutput_eq_some h
  obtain rfl := Option.some.inj hp
  obtain ⟨hlen, hproto, -⟩ := parseReply_spec hparse
  have hl4 : l4Len (eightByteReply 6).bytes = 8 := by decide
  have hcap : out.cap = 48 := by rw [hout, cap_replyL4, cap_replyBase, Buffer.cap_alloc, hlen, hl4]
  refine ⟨out, st', h, hcap, ?_⟩
  rintro ⟨-, hin⟩
  have hprotocol : byteAt (eightByteReply 6).bytes 9 = 6 := by decide
  rw [hout, replyL4_inBounds, ← cap_replyL4, ← hout, hcap, hproto, hprotocol] at hin
  exact absurd hin.2 (by decide)

/-! ### The request direction -/

/-- **Inversion of the request direction.** A translated request passed the checks, and is
    what `buildV4` made of it; its flow is remembered. -/
theorem translateWgInput_eq_some {packet : Option Pbuf} {peer : Option Ip4} {random : Nat}
    {taken : Bool}
    (h : translateWgInput st packet peer heap random now = ((taken, some out), st')) :
    ∃ p r junk v4, packet = some p ∧ matchRequest st p.bytes = some r ∧
      requestDropped st p.bytes r (peer.getD 0) = false ∧ heap = some junk ∧
      (copyPartial p.bytes r.payloadLen 40).length = r.payloadLen ∧
      buildV4 r (copyPartial p.bytes r.payloadLen 40) (peer.getD 0) junk random = some v4 ∧
      out = v4.out ∧
      st' = { st with
        flows := flowRemember st.flows r.client v4.key now
        translated := (st.translated + 1) % 2 ^ 32 } := by
  -- As for the reply: every branch but the last leaves without a packet.
  unfold translateWgInput at h
  split at h
  · cases h
  · rename_i p
    split at h
    · cases h
    · rename_i r hmatch
      simp only at h
      split at h
      · cases h
      · rename_i hdropped
        split at h
        · cases h
        · rename_i junk
          split at h
          · cases h
          · rename_i hlen
            split at h
            · cases h
            · rename_i v4 hbuild
              obtain ⟨hout, hst⟩ := Prod.mk.inj h
              have hv4 := Option.some.inj (Prod.mk.inj hout).2
              exact ⟨p, r, junk, v4, rfl, hmatch, Bool.eq_false_iff.mpr hdropped, rfl,
                not_not.mp hlen, hbuild, hv4.symm, hst.symm⟩

/-- A request that is not translated leaves the flow table alone. -/
theorem flows_translateWgInput_none {packet : Option Pbuf} {peer : Option Ip4} {random : Nat}
    {taken : Bool} (h : translateWgInput st packet peer heap random now = ((taken, none), st')) :
    st'.flows = st.flows := by
  unfold translateWgInput at h
  split at h
  · cases h; rfl
  · split at h
    · cases h; rfl
    · simp only at h
      split at h
      · cases h; rfl
      · split at h
        · cases h; rfl
        · split at h
          · cases h; rfl
          · split at h
            · cases h; rfl
            · cases h

/-- A matched request has room for its IPv6 header. -/
theorem length_of_matchRequest {b : List UInt8} {r : Request} (h : matchRequest st b = some r) :
    40 ≤ b.length := by
  unfold matchRequest at h
  by_contra hlt
  rw [dif_pos (by omega)] at h
  cases h

/-- A request that was not dropped carries its whole payload. -/
theorem payloadLen_of_requestDropped {b : List UInt8} {r : Request} {peer : Ip4}
    (h : requestDropped st b r peer = false) : 40 + r.payloadLen ≤ b.length := by
  simp only [requestDropped, Bool.or_eq_false_iff, decide_eq_false_iff_not,
    Nat.not_lt] at h
  exact h.1.1.2

/-- What `buildV4` makes of a payload of the announced length stays in its buffer: the length
    checks per protocol cover the checksum field, and a payload that arrived in a packet with
    a 40-byte header leaves room for the IPv4 header in 16 bits. -/
theorem buildV4_inBounds {r : Request} {payload : List UInt8} {peer : Ip4} {junk : Memory}
    {random : Nat} {v4 : V4Packet} (h : buildV4 r payload peer junk random = some v4)
    (hlen : payload.length = r.payloadLen) (hmax : 40 + r.payloadLen < 65536) :
    v4.out.cap = 20 + r.payloadLen ∧ v4.out.InBounds := by
  have hcap : (20 + r.payloadLen) % 65536 = 20 + r.payloadLen := Nat.mod_eq_of_lt (by omega)
  unfold buildV4 at h
  simp only at h
  split at h
  · rw [Option.ite_none_left_eq_some] at h
    obtain ⟨hshort, h⟩ := h
    have hv4 := Option.some.inj h
    rw [← hv4]
    -- the length check covers the checksum field
    have hfits : (if r.protocol = 6 then 16 else 6) + 2 ≤ r.payloadLen := by
      split <;> rename_i htcp
      · by_contra hlt
        exact hshort (.inr ⟨htcp, by omega⟩)
      · omega
    simp only [Buffer.inBounds_store, List.length_replicate, List.length_singleton,
      length_bytes16, length_bytes32, Buffer.inBounds_alloc, Buffer.cap_store, Buffer.cap_alloc,
      true_and, hcap, hlen]
    omega
  · rw [Option.ite_none_left_eq_some] at h
    obtain ⟨hshort, h⟩ := h
    have hv4 := Option.some.inj h
    rw [← hv4]
    simp only [Buffer.inBounds_store, List.length_replicate, List.length_singleton,
      length_bytes16, length_bytes32, Buffer.inBounds_alloc, Buffer.cap_store, Buffer.cap_alloc,
      true_and, hcap, hlen]
    omega

/-- **Bounds of the request direction.** A translated request always has a buffer of
    `20 + payload_len` bytes and writes only inside it. -/
theorem translateWgInput_inBounds {peer : Option Ip4} {random : Nat}
    (h : translateWgInput st (some p) peer heap random now = ((true, some out), st')) :
    ∃ r, matchRequest st p.bytes = some r ∧ out.cap = 20 + r.payloadLen ∧ out.InBounds := by
  obtain ⟨q, r, junk, v4, hq, hmatch, hdropped, -, hlen, hbuild, rfl, -⟩ :=
    translateWgInput_eq_some h
  obtain rfl := Option.some.inj hq
  have hroom := payloadLen_of_requestDropped hdropped
  have htot := p.tot_len_lt
  obtain ⟨hcap, hin⟩ := buildV4_inBounds hbuild hlen (by omega)
  exact ⟨r, hmatch, hcap, hin⟩

end SubnetRouter.FourVia6
