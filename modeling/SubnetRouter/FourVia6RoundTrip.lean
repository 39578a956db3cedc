import SubnetRouter.FourVia6Flows

namespace SubnetRouter.FourVia6

open Lib

/-!
# Request and reply through the 4via6 translator

A translated request is answered by the LAN host, and the answer goes back through the flow
table that the request has just been entered in.  The two translators agree on every address,
port, echo id and payload byte; the one thing that can go wrong is the length of the way back,
which `pbuf_alloc` takes modulo 2^16 (`roundTrip_iff`).

* `IsReplyTo` — the answer of the LAN host, read off the two IPv4 packets.
* `exists_rememberSlot`, `found_after_remember` — the request's flow is in the table afterwards.
* `sentKey_of_buildV4` — the request leaves with the fields of its flow.
* `load_replyBase_source`, `l4_of_answer` — what the translated answer is made of.
* `wellFormed_run` — the states that traffic leads to are those of `roundTrip_iff`.
-/

/-! ### The exchange -/

/-- The site id and the table have the sizes of their C types, and no time stamp is the timer's
    last value. -/
structure State.WellFormed (st : State) : Prop where
  siteId_lt : st.siteId < 65536
  length_flows : st.flows.length = flowCount
  lastSeen_lt : ∀ f ∈ st.flows, f.lastSeenUs < int64Max

/-- The header length of an IPv4 packet. -/
def headerLen (b : List UInt8) : Nat := (byteAt b 0).toNat % 16 * 4

/-- The length of a full L4 header. -/
def l4HeaderLen (protocol : UInt8) : Nat := if protocol = 6 then 20 else 8

/-- `reply` is the LAN host's answer to the IPv4 packet `sent`: one whole IPv4 packet with
    addresses and ports swapped; an echo request is answered by an echo reply with its id. -/
structure IsReplyTo (sent reply : List UInt8) : Prop where
  version : (byteAt reply 0).toNat / 16 = 4
  header : 20 ≤ headerLen reply
  total_le : be16 reply 2 ≤ reply.length
  unfragmented : be16 reply 6 % 0x4000 = 0
  protocol : byteAt reply 9 = byteAt sent 9
  source : be32 reply 12 = be32 sent 16
  destination : be32 reply 16 = be32 sent 12
  l4 : headerLen reply + l4HeaderLen (byteAt reply 9) ≤ be16 reply 2
  ports : byteAt sent 9 = 6 ∨ byteAt sent 9 = 17 →
    be16 reply (headerLen reply) = be16 sent (headerLen sent + 2) ∧
      be16 reply (headerLen reply + 2) = be16 sent (headerLen sent)
  echo : byteAt sent 9 = 1 → byteAt sent (headerLen sent) = 8 ∧
    byteAt reply (headerLen reply) = 0 ∧
      be16 reply (headerLen reply + 4) = be16 sent (headerLen sent + 4)

/-- The offset of the checksum field in an L4 header. -/
def checksumOffset (protocol : UInt8) : Nat :=
  if protocol = 6 then 16 else if protocol = 17 then 6 else 2

/-- `out` is the IPv6 packet that brings `reply` back to the sender of `request`: the request's
    addresses swapped, the reply's L4 part with a checksum of its own, and ICMPv6's echo reply
    for that of ICMP. -/
structure RoundTrip (request reply : List UInt8) (out : Buffer) : Prop where
  cap : out.cap = 40 + l4Len reply
  inBounds : out.InBounds
  version : (out.mem 0).toNat / 16 = 6
  payloadLen : be16 (out.mem.load 0 40) 4 = l4Len reply
  nextHeader : out.mem 6 = byteAt request 6
  source : out.mem.load 8 16 = copyPartial request 16 24
  destination : out.mem.load 24 16 = copyPartial request 16 8
  l4 : ∀ k < l4Len reply, k ≠ checksumOffset (byteAt reply 9) →
    k ≠ checksumOffset (byteAt reply 9) + 1 →
      out.mem (40 + k) =
        if byteAt reply 9 = 1 ∧ k = 0 then 129 else byteAt reply (headerLen reply + k)

/-! ### The flow table -/

section Table

variable {client : Ip6} {key : FlowKey} {flows : List Flow}

/-- A slot that was found may be replaced, but is not lost. -/
theorem isSome_rememberSlot {i : Nat} {slot : Option Nat} {oldest : Int} (h : slot.isSome) :
    (rememberSlot client key i slot oldest flows).isSome := by
  induction flows generalizing i slot oldest with
  | nil => exact h
  | cons f fs ih =>
    unfold rememberSlot
    split
    · rfl
    · split
      · exact ih rfl
      · split
        · exact ih rfl
        · exact ih h

/-- The slot is one of the table. By induction on the flows that are left, for any slot found so
    far. -/
theorem rememberSlot_lt {i s : Nat} {slot : Option Nat} {oldest : Int}
    (hslot : ∀ k, slot = some k → k < i + flows.length)
    (h : rememberSlot client key i slot oldest flows = some s) : s < i + flows.length := by
  induction flows generalizing i slot oldest with
  | nil => exact hslot s h
  | cons f fs ih =>
    -- The index goes on with the list, so the end of the table is the same.
    have hlen : i + 1 + fs.length = i + (f :: fs).length := by
      rw [List.length_cons]
      omega
    have hi : ∀ k, some i = some k → k < i + 1 + fs.length := by
      intro k hk
      obtain rfl := Option.some.inj hk
      omega
    have hold : ∀ k, slot = some k → k < i + 1 + fs.length := fun k hk => hlen ▸ hslot k hk
    unfold rememberSlot at h
    rw [← hlen]
    -- An own entry ends the search, a free or an older one is kept in hand.
    split at h
    · exact hi s h
    · split at h
      · exact ih hi h
      · split at h
        · exact ih hi h
        · exact ih hold h

/-- A table whose time stamps are all below `INT64_MAX` has a slot for every flow: its first
    entry is taken when nothing better is found. -/
theorem exists_rememberSlot (client : Ip6) (key : FlowKey) (hne : flows ≠ [])
    (hseen : ∀ f ∈ flows, f.lastSeenUs < int64Max) :
    ∃ s < flows.length, rememberSlot client key 0 none int64Max flows = some s := by
  have hsome : (rememberSlot client key 0 none int64Max flows).isSome := by
    rcases flows with _ | ⟨f, fs⟩
    · exact absurd rfl hne
    · unfold rememberSlot
      split
      · rfl
      · split
        · exact isSome_rememberSlot rfl
        · have hf : f.lastSeenUs < int64Max := hseen f List.mem_cons_self
          rw [if_pos (by simp [hf])]
          exact isSome_rememberSlot rfl
  obtain ⟨s, hs⟩ := Option.isSome_iff_exists.mp hsome
  have hlt := rememberSlot_lt (fun k hk => by cases hk) hs
  exact ⟨s, by omega, hs⟩

/-- The flow is in the table after `flow_remember`. -/
theorem mem_flowRemember_self (client : Ip6) (key : FlowKey) (now : Int) (hne : flows ≠ [])
    (hseen : ∀ f ∈ flows, f.lastSeenUs < int64Max) :
    ⟨true, client, key, now⟩ ∈ flowRemember flows client key now := by
  obtain ⟨s, hs, hslot⟩ := exists_rememberSlot client key hne hseen
  unfold flowRemember
  rw [hslot]
  exact List.mem_set hs _

/-- **A remembered flow is found.** Until it times out, and when no other client has an entry
    with the key, a lookup of the key gives the client. -/
theorem found_after_remember {now now' : Int} (hne : flows ≠ [])
    (hseen : ∀ f ∈ flows, f.lastSeenUs < int64Max)
    (halone : ∀ f ∈ flows, f.valid = true → f.key = key → f.clientV6 = client)
    (htime : now' - now ≤ timeoutUs key.protocol) :
    ∃ flow flows', flowLookup key now' (flowRemember flows client key now) = (flows', some flow) ∧
      flow.clientV6 = client := by
  have hmem := mem_flowRemember_self client key now hne hseen
  have hmatch : Flow.Matches key now' ⟨true, client, key, now⟩ = true := by
    simp only [Flow.Matches, decide_eq_true htime, decide_true, Bool.and_self]
  have hsome : ((flowRemember flows client key now).find? (Flow.Matches key now')).isSome :=
    List.find?_isSome.mpr ⟨_, hmem, hmatch⟩
  obtain ⟨g, hg⟩ := Option.isSome_iff_exists.mp hsome
  have hlookup := flowLookup_snd key now' (flowRemember flows client key now)
  rw [hg, Option.map_some] at hlookup
  refine ⟨{ g with lastSeenUs := now' }, _, Prod.ext rfl hlookup, ?_⟩
  show g.clientV6 = client
  -- the entry found need not be the new one
  rcases mem_flowRemember (List.mem_of_find?_eq_some hg) with rfl | hold
  · rfl
  · have hlive := List.find?_some hg
    simp only [Flow.Matches, Bool.and_eq_true, decide_eq_true_eq] at hlive
    exact halone g hold hlive.1.1 hlive.2

end Table

/-! ### The request on the LAN -/

/-- The flow of the IPv4 packet that a request is translated to. -/
def sentKey (b : List UInt8) : FlowKey :=
  if byteAt b 9 = 6 ∨ byteAt b 9 = 17 then
    ⟨byteAt b 9, be32 b 12, be32 b 16, be16 b (headerLen b), be16 b (headerLen b + 2)⟩
  else ⟨byteAt b 9, be32 b 12, be32 b 16, be16 b (headerLen b + 4), 0⟩

/-- The IPv4 header that `buildV4` puts in front of the L4 part. It is `buildV4` up to the L4 part,
    as one term. -/
def v4Header (r : Request) (peer : Ip4) (random : Nat) (protocol : UInt8) (b : Buffer) :
    Buffer :=
  let b := b.store 0 [0x45] |>.store 1 [r.flowNibble] |>.store 2 (bytes16 (20 + r.payloadLen))
    |>.store 4 (bytes16 random) |>.store 6 (bytes16 0x4000) |>.store 8 [r.hopLimit - 1]
    |>.store 9 [protocol] |>.store 12 (bytes32 peer) |>.store 16 (bytes32 r.target)
  b.store 10 (bytes16 (checksumPlain (b.mem.load 0 20)))

section V4Header

variable {r : Request} {peer : Ip4} {random : Nat} {protocol : UInt8} {b : Buffer}

/-- The fields of the header that a reply is matched by. -/
theorem load_v4Header :
    (v4Header r peer random protocol b).mem 0 = 0x45 ∧
      (v4Header r peer random protocol b).mem 9 = protocol ∧
      (v4Header r peer random protocol b).mem.load 12 4 = bytes32 peer ∧
      (v4Header r peer random protocol b).mem.load 16 4 = bytes32 r.target := by
  refine ⟨rfl, rfl, ?_, ?_⟩
  · show Memory.load (Memory.store _ 10 _) 12 4 = bytes32 peer
    rw [Memory.load_store_disjoint _ (.inr (by simp)), Buffer.mem_store,
      Memory.load_store_disjoint _ (.inl (by omega))]
    exact Memory.load_store_self _ 12 (bytes32 peer)
  · show Memory.load (Memory.store _ 10 _) 16 4 = bytes32 r.target
    rw [Memory.load_store_disjoint _ (.inr (by simp))]
    exact Memory.load_store_self _ 16 (bytes32 r.target)

/-- The same fields, read off the packet. -/
theorem fields_v4Header {cap : Nat} (h : 20 ≤ cap) :
    headerLen ((v4Header r peer random protocol b).mem.load 0 cap) = 20 ∧
      byteAt ((v4Header r peer random protocol b).mem.load 0 cap) 9 = protocol ∧
      be32 ((v4Header r peer random protocol b).mem.load 0 cap) 12 = peer ∧
      be32 ((v4Header r peer random protocol b).mem.load 0 cap) 16 = r.target := by
  obtain ⟨hver, hproto, hsrc, hdst⟩ := load_v4Header (r := r) (b := b)
  refine ⟨?_, ?_, ?_, ?_⟩
  · rw [headerLen, Memory.byteAt_load _ _ (by omega), Nat.zero_add, hver]
    rfl
  · rw [Memory.byteAt_load _ _ (by omega), Nat.zero_add, hproto]
  · rw [Memory.be32_load _ _ (by omega), Nat.zero_add, hsrc]
    exact be32_bytes32 peer []
  · rw [Memory.be32_load _ _ (by omega), Nat.zero_add, hdst]
    exact be32_bytes32 r.target []

/-- The header leaves what is behind it. -/
theorem mem_v4Header_of_le {i : Nat} (h : 20 ≤ i) :
    (v4Header r peer random protocol b).mem i = b.mem i := by
  unfold v4Header
  simp only [Buffer.mem_store]
  repeat rw [Memory.store_disjoint _ (.inr (by simp; omega))]

end V4Header

/-- **Inversion of `buildV4`.** The header stands in front of an L4 part that still has the
    payload's ports, or its echo id. -/
theorem buildV4_eq_some {r : Request} {payload : List UInt8} {peer : Ip4} {junk : Memory}
    {random : Nat} {v4 : V4Packet} (h : buildV4 r payload peer junk random = some v4) :
    ∃ body, v4.out = v4Header r peer random v4.key.protocol body ∧ 8 ≤ r.payloadLen ∧
      v4.key.peerV4 = peer ∧ v4.key.targetV4 = r.target ∧
      if r.protocol = 6 ∨ r.protocol = 17 then
        v4.key.protocol = r.protocol ∧ v4.key.clientPort = be16 payload 0 ∧
          v4.key.targetPort = be16 payload 2 ∧
            ∀ k < 4, k < payload.length → body.mem (20 + k) = byteAt payload k
      else
        v4.key.protocol = 1 ∧ v4.key.clientPort = be16 payload 4 ∧ v4.key.targetPort = 0 ∧
          ∀ k, 4 ≤ k → k < payload.length → body.mem (20 + k) = byteAt payload k := by
  unfold buildV4 at h
  simp only at h
  by_cases hproto : r.protocol = 6 ∨ r.protocol = 17
  · rw [if_pos hproto, Option.ite_none_left_eq_some, not_or] at h
    obtain ⟨⟨hmin, -⟩, h⟩ := h
    rw [← Option.some.inj h]
    refine ⟨_, rfl, by omega, rfl, rfl, ?_⟩
    rw [if_pos hproto]
    refine ⟨rfl, rfl, rfl, ?_⟩
    intro k hk hpayload
    -- the checksum field is behind the ports
    have hoff : 20 + k < 20 + if r.protocol = 6 then 16 else 6 := by
      split <;> omega
    simp only [Buffer.mem_store]
    rw [Memory.store_disjoint _ (.inl hoff), Memory.store_disjoint _ (.inl hoff)]
    exact Memory.store_self _ 20 hpayload
  · rw [if_neg hproto, Option.ite_none_left_eq_some, not_or] at h
    obtain ⟨⟨hmin, -⟩, h⟩ := h
    rw [← Option.some.inj h]
    refine ⟨_, rfl, by omega, rfl, rfl, ?_⟩
    rw [if_neg hproto]
    refine ⟨rfl, rfl, rfl, ?_⟩
    intro k hk hpayload
    -- type and checksum are the first four bytes
    simp only [Buffer.mem_store]
    rw [Memory.store_disjoint _ (.inr (by simp; omega)),
      Memory.store_disjoint _ (.inr (by simp; omega)),
      Memory.store_disjoint _ (.inr (by simp; omega))]
    exact Memory.store_self _ 20 hpayload

/-- **Fields of the translated request.** What the LAN host is sent has the addresses and the
    ports, or the echo id, of the flow that is remembered. -/
theorem sentKey_of_buildV4 {r : Request} {payload : List UInt8} {peer : Ip4} {junk : Memory}
    {random : Nat} {v4 : V4Packet} (h : buildV4 r payload peer junk random = some v4)
    (hlen : payload.length = r.payloadLen) (hcap : v4.out.cap = 20 + r.payloadLen) :
    sentKey (v4.out.mem.load 0 v4.out.cap) = v4.key := by
  obtain ⟨body, hout, hmin, hpeer, htarget, hl4⟩ := buildV4_eq_some h
  have hfields : ∀ k, 20 ≤ k → k < v4.out.cap → byteAt (v4.out.mem.load 0 v4.out.cap) k
      = body.mem k := by
    intro k hk hlt
    rw [Memory.byteAt_load _ _ hlt, Nat.zero_add, hout, mem_v4Header_of_le hk]
  obtain ⟨hheader, hproto', hsrc', hdst'⟩ :
      headerLen (v4.out.mem.load 0 v4.out.cap) = 20 ∧
      byteAt (v4.out.mem.load 0 v4.out.cap) 9 = v4.key.protocol ∧
      be32 (v4.out.mem.load 0 v4.out.cap) 12 = v4.key.peerV4 ∧
      be32 (v4.out.mem.load 0 v4.out.cap) 16 = v4.key.targetV4 := by
    rw [hcap, hout, hpeer, htarget]
    exact fields_v4Header (by omega)
  unfold sentKey
  rw [hheader, hproto', hsrc', hdst']
  split at hl4
  · -- TCP and UDP: both ports are sent as they came
    rename_i htcp
    obtain ⟨hkey, hclient, htport, hbody⟩ := hl4
    have hport : ∀ k, k + 1 < 4 → be16 (v4.out.mem.load 0 v4.out.cap) (20 + k)
        = be16 payload k := by
      intro k hk
      rw [be16, be16, hfields _ (by omega) (by omega), hfields _ (by omega) (by omega),
        hbody k (by omega) (by omega), Nat.add_assoc, hbody (k + 1) hk (by omega)]
    rw [hkey, if_pos htcp, hport 2 (by omega), ← htport, ← hkey]
    have h0 : be16 (v4.out.mem.load 0 v4.out.cap) 20 = v4.key.clientPort := by
      rw [hclient]
      exact hport 0 (by omega)
    rw [h0]
  · -- ICMP: the identifier takes the place of the client's port
    rename_i hicmp
    obtain ⟨hkey, hclient, htport, hbody⟩ := hl4
    have hid : be16 (v4.out.mem.load 0 v4.out.cap) (20 + 4) = v4.key.clientPort := by
      rw [hclient, be16, be16, hfields _ (by omega) (by omega), hfields _ (by omega) (by omega),
        hbody 4 (by omega) (by omega), Nat.add_assoc, hbody (4 + 1) (by omega) (by omega)]
    have hne : ¬ (v4.key.protocol = 6 ∨ v4.key.protocol = 17) := by
      rw [hkey]
      decide
    rw [if_neg hne, hid, ← htport]

/-- The answer belongs to the flow of what was sent. -/
theorem IsReplyTo.replyKey_eq {sent reply : List UInt8} (h : IsReplyTo sent reply)
    (hproto : byteAt sent 9 = 6 ∨ byteAt sent 9 = 17 ∨ byteAt sent 9 = 1) :
    replyKey reply = sentKey sent := by
  unfold replyKey sentKey
  simp only [h.protocol, h.source, h.destination]
  by_cases htcp : byteAt sent 9 = 6 ∨ byteAt sent 9 = 17
  · obtain ⟨htarget, hclient⟩ := h.ports htcp
    rw [if_pos htcp, if_pos htcp, ← htarget, ← hclient]
    rfl
  · have hicmp : byteAt sent 9 = 1 := (or_assoc.mpr hproto).resolve_left htcp
    obtain ⟨-, -, hid⟩ := h.echo hicmp
    rw [if_neg htcp, if_neg htcp, ← hid]
    rfl

/-- The answer of the LAN host passes the checks before the flow lookup. It is no fragment, and of a
    protocol that was translated. -/
theorem IsReplyTo.parses {sent reply : List UInt8} (h : IsReplyTo sent reply)
    (hproto : byteAt sent 9 = 6 ∨ byteAt sent 9 = 17 ∨ byteAt sent 9 = 1) :
    ∃ r, parseReply reply = some r := by
  obtain ⟨hver, hihl, htotal, hfrag, hsame, -, -, hl4, -, hecho⟩ := h
  unfold headerLen at hihl hl4 hecho
  have hmin : 8 ≤ l4HeaderLen (byteAt reply 9) := by
    unfold l4HeaderLen
    split <;> omega
  -- eight bytes of the L4 header are there
  have hports : (copyPartial reply 8 ((byteAt reply 0).toNat % 16 * 4)).length = 8 := by
    simp only [copyPartial, List.length_take, List.length_drop]
    omega
  have hknown : ¬ (byteAt reply 9 ≠ 6 ∧ byteAt reply 9 ≠ 17 ∧ byteAt reply 9 ≠ 1) := by
    rw [hsame]
    rintro ⟨h6, h17, h1⟩
    rcases hproto with hp | hp | hp
    · exact h6 hp
    · exact h17 hp
    · exact h1 hp
  have hchecks : ¬ ((byteAt reply 0).toNat % 16 * 4 < 20 ∨
      be16 reply 2 < (byteAt reply 0).toNat % 16 * 4 ∨ reply.length < be16 reply 2 ∨
      be16 reply 6 % 0x4000 ≠ 0 ∨
      (byteAt reply 9 ≠ 6 ∧ byteAt reply 9 ≠ 17 ∧ byteAt reply 9 ≠ 1)) := by
    rintro (hlt | hlt | hlt | hne | hne)
    · omega
    · omega
    · omega
    · exact hne hfrag
    · exact hknown hne
  unfold parseReply
  rw [if_neg (by omega)]
  simp only
  rw [if_neg hchecks, if_neg (by omega), if_neg (not_not.mpr hports)]
  split
  · exact ⟨_, rfl⟩
  · rename_i htcp
    have hicmp : byteAt sent 9 = 1 := (or_assoc.mpr hproto).resolve_left (hsame ▸ htcp)
    have htype : byteAt (copyPartial reply 8 ((byteAt reply 0).toNat % 16 * 4)) 0 = 0 := by
      rw [byteAt_copyPartial (by omega), Nat.add_zero]
      exact (hecho hicmp).2.1
    rw [if_neg (fun hne => hne.1 htype)]
    exact ⟨_, rfl⟩

/-- A full TCP header reaches behind its checksum field. -/
theorem IsReplyTo.tcp_room {sent reply : List UInt8} (h : IsReplyTo sent reply)
    (htcp : byteAt reply 9 = 6) : 18 ≤ l4Len reply := by
  have hfull := h.l4
  rw [l4HeaderLen, if_pos htcp] at hfull
  show 18 ≤ be16 reply 2 - headerLen reply
  omega

/-! ### The answer on the way back -/

section Answer

variable {siteId : Nat} {r : Reply} {client : Ip6} {payload : List UInt8} {b : Buffer}

/-- The source field: the 4via6 prefix, the site id in 32 bits, the LAN host. The upper half of the
    site id is zero from the start. -/
theorem load_replyBase_source :
    (replyBase siteId r client payload b).mem.load 8 16
      = viaPrefix ++ (bytes16 0 ++ (bytes16 siteId ++ bytes32 r.key.targetV4)) := by
  have hvia : (replyBase siteId r client payload b).mem.load 8 8 = viaPrefix := by
    show Memory.load (Memory.store _ 24 client.bytes) 8 8 = viaPrefix
    rw [Memory.load_store_disjoint _ (.inl (by omega)), Buffer.mem_store,
      Memory.load_store_disjoint _ (.inl (by omega)), Buffer.mem_store,
      Memory.load_store_disjoint _ (.inl (by omega))]
    exact Memory.load_store_self _ 8 viaPrefix
  have hsite : (replyBase siteId r client payload b).mem.load (8 + 8 + 2) 2 = bytes16 siteId := by
    show Memory.load (Memory.store _ 24 client.bytes) 18 2 = bytes16 siteId
    rw [Memory.load_store_disjoint _ (.inl (by omega)), Buffer.mem_store,
      Memory.load_store_disjoint _ (.inl (by omega))]
    exact Memory.load_store_self _ 18 (bytes16 siteId)
  have htarget : (replyBase siteId r client payload b).mem.load (8 + 8 + 2 + 2) 4
      = bytes32 r.key.targetV4 := by
    show Memory.load (Memory.store _ 24 client.bytes) 20 4 = _
    rw [Memory.load_store_disjoint _ (.inl (by omega))]
    exact Memory.load_store_self _ 20 (bytes32 r.key.targetV4)
  calc (replyBase siteId r client payload b).mem.load 8 (8 + (2 + (2 + 4)))
      = (replyBase siteId r client payload b).mem.load 8 8
          ++ ((replyBase siteId r client payload b).mem.load (8 + 8) 2
            ++ ((replyBase siteId r client payload b).mem.load (8 + 8 + 2) 2
              ++ (replyBase siteId r client payload b).mem.load (8 + 8 + 2 + 2) 4)) := by
        rw [Memory.load_add, Memory.load_add, Memory.load_add]
    _ = viaPrefix ++ (bytes16 0 ++ (bytes16 siteId ++ bytes32 r.key.targetV4)) := by
        rw [hvia, hsite, htarget]
        -- bytes 16 and 17 are still those of the cleared header
        rfl

/-- The payload length field. -/
theorem load_replyBase_payloadLen :
    (replyBase siteId r client payload b).mem.load 4 2 = bytes16 r.payloadLen := by
  show Memory.load (Memory.store _ 24 client.bytes) 4 2 = bytes16 r.payloadLen
  rw [Memory.load_store_disjoint _ (.inl (by omega))]
  simp only [Buffer.mem_store]
  rw [Memory.load_store_disjoint _ (.inl (by omega)),
    Memory.load_store_disjoint _ (.inl (by omega)),
    Memory.load_store_disjoint _ (.inl (by omega)),
    Memory.load_store_disjoint _ (.inl (by omega)),
    Memory.load_store_disjoint _ (.inl (by omega))]
  exact Memory.load_store_self _ 4 (bytes16 r.payloadLen)

/-- The L4 part, as it came from the LAN. -/
theorem mem_replyBase_l4 {k : Nat} (h : k < payload.length) :
    (replyBase siteId r client payload b).mem (40 + k) = byteAt payload k := by
  have hclient := client.length_eq
  have hvia : viaPrefix.length = 8 := rfl
  unfold replyBase
  simp only [Buffer.mem_store]
  rw [Memory.store_disjoint _ (.inr (by omega)),
    Memory.store_disjoint _ (.inr (by rw [length_bytes32]; omega)),
    Memory.store_disjoint _ (.inr (by rw [length_bytes16]; omega)),
    Memory.store_disjoint _ (.inr (by omega)),
    Memory.store_disjoint _ (.inr (by rw [List.length_singleton]; omega)),
    Memory.store_disjoint _ (.inr (by rw [List.length_singleton]; omega)),
    Memory.store_disjoint _ (.inr (by rw [length_bytes16]; omega)),
    Memory.store_disjoint _ (.inr (by rw [List.length_singleton]; omega))]
  exact Memory.store_self _ 40 h

/-- The L4 part leaves the bytes of the IPv6 header. -/
theorem mem_replyL4_of_lt {i : Nat} (h : i < 40) : (replyL4 r b).mem i = b.mem i := by
  have hload := load_replyL4 r b (show i + 1 ≤ 40 by omega)
  have hbyte := congrArg (byteAt · 0) hload
  simp only [Memory.byteAt_load _ _ Nat.one_pos, Nat.add_zero] at hbyte
  exact hbyte

/-- TCP and UDP: the checksum field is cleared, then filled. -/
theorem mem_replyL4_ports (h : r.protocol = 6 ∨ r.protocol = 17) :
    ∃ check, (replyL4 r b).mem = (b.mem.store (40 + checksumOffset r.protocol) (bytes16 0)).store
      (40 + checksumOffset r.protocol) (bytes16 check) := by
  have hoff : checksumOffset r.protocol = if r.protocol = 6 then 16 else 6 := by
    unfold checksumOffset
    rcases h with h6 | h17
    · rw [if_pos h6, if_pos h6]
    · rw [if_pos h17]
  unfold replyL4
  rw [if_pos h, hoff]
  exact ⟨_, rfl⟩

/-- An echo reply: the type, then the checksum field. -/
theorem mem_replyL4_echo (h : r.protocol = 1) (hecho : b.mem 40 = 0) :
    ∃ check, (replyL4 r b).mem
      = ((b.mem.store 40 [129]).store 42 (bytes16 0)).store 42 (bytes16 check) := by
  have hne : ¬ (r.protocol = 6 ∨ r.protocol = 17) := by
    rw [h]
    decide
  unfold replyL4
  rw [if_neg hne, hecho]
  exact ⟨_, rfl⟩

/-- Of the L4 part only the checksum changes, and the type of an echo reply. The rest is the payload
    of the answer. -/
theorem mem_replyL4_l4 {k : Nat} (hproto : r.protocol = 6 ∨ r.protocol = 17 ∨ r.protocol = 1)
    (hecho : r.protocol = 1 → b.mem 40 = 0) (hlo : k ≠ checksumOffset r.protocol)
    (hhi : k ≠ checksumOffset r.protocol + 1) :
    (replyL4 r b).mem (40 + k)
      = if r.protocol = 1 ∧ k = 0 then 129 else b.mem (40 + k) := by
  by_cases hicmp : r.protocol = 1
  · obtain ⟨check, hmem⟩ := mem_replyL4_echo hicmp (hecho hicmp)
    have hoff : checksumOffset r.protocol = 2 := by
      rw [hicmp]
      rfl
    rw [hoff] at hlo hhi
    -- both writes of the checksum field, then that of the type
    rw [hmem, Memory.store_disjoint _ (by rw [length_bytes16]; omega),
      Memory.store_disjoint _ (by rw [length_bytes16]; omega)]
    by_cases hk : k = 0
    · rw [if_pos ⟨hicmp, hk⟩, hk]
      exact Memory.store_self _ 40 Nat.one_pos
    · rw [if_neg (not_and_of_not_right _ hk)]
      exact Memory.store_disjoint _ (.inr (by rw [List.length_singleton]; omega))
  · have hports : r.protocol = 6 ∨ r.protocol = 17 := (or_assoc.mpr hproto).resolve_right hicmp
    obtain ⟨check, hmem⟩ := mem_replyL4_ports hports
    rw [if_neg (not_and_of_not_left _ hicmp), hmem,
      Memory.store_disjoint _ (by rw [length_bytes16]; omega),
      Memory.store_disjoint _ (by rw [length_bytes16]; omega)]

/-- The L4 part of the answer: that of the reply, but for the checksum and an echo reply's
    type. -/
theorem l4_of_answer {reply : List UInt8} (hparse : parseReply reply = some r)
    (hcopy : (copyPartial reply r.payloadLen r.ihl).length = r.payloadLen)
    (hecho : byteAt reply 9 = 1 → byteAt reply (headerLen reply) = 0) {k : Nat}
    (hk : k < l4Len reply) (hlo : k ≠ checksumOffset (byteAt reply 9))
    (hhi : k ≠ checksumOffset (byteAt reply 9) + 1) :
    (replyL4 r (replyBase siteId r client (copyPartial reply r.payloadLen r.ihl) b)).mem (40 + k)
      = if byteAt reply 9 = 1 ∧ k = 0 then 129 else byteAt reply (headerLen reply + k) := by
  obtain ⟨hlen, hproto, -, -, hprotocol⟩ := parseReply_spec hparse
  obtain ⟨hihl, -, -⟩ := header_of_parseReply hparse
  -- The copy behind the header is the reply's payload, byte for byte.
  have hbyte : ∀ j < l4Len reply,
      (replyBase siteId r client (copyPartial reply r.payloadLen r.ihl) b).mem (40 + j)
        = byteAt reply (headerLen reply + j) := by
    intro j hj
    have hj' : j < (copyPartial reply r.payloadLen r.ihl).length := by omega
    rw [mem_replyBase_l4 hj', byteAt_copyPartial hj', hihl]
    rfl
  -- Only the type of an echo reply is written over.
  have hzero : r.protocol = 1 →
      (replyBase siteId r client (copyPartial reply r.payloadLen r.ihl) b).mem 40 = 0 := by
    intro hicmp
    rw [hbyte 0 (by omega)]
    exact hecho (hproto ▸ hicmp)
  rw [mem_replyL4_l4 hprotocol hzero (hproto ▸ hlo) (hproto ▸ hhi), hbyte k hk, hproto]

/-- The first byte of the IPv6 header: the version, and the upper half of the TOS byte. -/
theorem toNat_version_or (tos : UInt8) :
    ((0x60 : UInt8) ||| (tos >>> 4)).toNat = 96 + tos.toNat / 16 := by
  have htos := tos.toNat_lt
  have hnibble : tos.toNat / 16 < 2 ^ 4 := by omega
  have hor : 2 ^ 4 * 6 ||| tos.toNat / 16 = 2 ^ 4 * 6 + tos.toNat / 16 :=
    (Nat.two_pow_add_eq_or_of_lt hnibble 6).symm
  rw [UInt8.toNat_or, UInt8.toNat_shiftRight, Nat.shiftRight_eq_div_pow]
  exact hor

/-- The version nibble survives the traffic class. -/
theorem version_of_tos (tos : UInt8) : ((0x60 : UInt8) ||| (tos >>> 4)).toNat / 16 = 6 := by
  have htos := tos.toNat_lt
  rw [toNat_version_or]
  omega

end Answer

/-! ### Both ways -/

variable {st st' : State} {p reply : Pbuf} {peer : Option Ip4} {heap : Option Memory}
  {random : Nat} {now now' : Int} {sent : Buffer}

/-- The destination of a matched request: the 4via6 prefix, the site id, the LAN host. -/
theorem destination_of_matchRequest {b : List UInt8} {r : Request} (hsite : st.siteId < 65536)
    (h : matchRequest st b = some r) :
    copyPartial b 16 24
      = viaPrefix ++ (bytes16 0 ++ (bytes16 st.siteId ++ bytes32 (be32 b 36))) := by
  have hroom := length_of_matchRequest h
  unfold matchRequest at h
  rw [dif_neg (by omega)] at h
  simp only [Option.ite_none_left_eq_some, Bool.or_eq_true, not_or, bne_iff_ne, ne_eq,
    not_not] at h
  obtain ⟨-, ⟨-, hvia⟩, hid, -⟩ := h
  have hsplit : copyPartial b 16 24
      = copyPartial b 8 24 ++ (copyPartial b 4 32 ++ copyPartial b 4 36) := by
    simp only [copyPartial]
    rw [show 16 = 8 + (4 + 4) from rfl, List.take_add, List.take_add, List.drop_drop,
      List.drop_drop]
  have hfour : copyPartial b 4 32 = bytes16 0 ++ bytes16 st.siteId := by
    rw [copyPartial, take_drop_four (by omega), bytes32, hid, Nat.div_eq_of_lt hsite]
  rw [hsplit, hvia, hfour, copyPartial, take_drop_four (by omega), List.append_assoc]

/-- A translated request is TCP, UDP or ICMPv6. -/
theorem protocol_of_requestDropped {b : List UInt8} {r : Request} {peer : Ip4}
    (h : requestDropped st b r peer = false) :
    r.protocol = 6 ∨ r.protocol = 17 ∨ r.protocol = 58 := by
  simp only [requestDropped, Bool.or_eq_false_iff, Bool.and_eq_false_iff, bne_eq_false_iff_eq]
    at h
  rcases h.2 with (h6 | h17) | h58
  · exact .inl h6
  · exact .inr (.inl h17)
  · exact .inr (.inr h58)

/-- What a translated request leaves behind, in the table and on the LAN. The reply that answers it
    is found by the flow remembered here. -/
structure Sent (st : State) (p : Pbuf) (peer : Ip4) (now : Int) (client : Ip6) (sent : Buffer)
    (st' : State) : Prop where
  enabled : st.enabled = true
  source : client.bytes = copyPartial p.bytes 16 8
  protocol : byteAt p.bytes 6 = 6 ∨ byteAt p.bytes 6 = 17 ∨ byteAt p.bytes 6 = 58
  key : sentKey (sent.mem.load 0 sent.cap) = requestKey p.bytes peer
  state : st' = { st with
    flows := flowRemember st.flows client (requestKey p.bytes peer) now
    translated := (st.translated + 1) % 2 ^ 32 }

/-- **The way to the LAN.** From a request that is translated: what it was, and the flow that it
    leaves behind. -/
theorem sent_of_translateWgInput
    (h : translateWgInput st (some p) peer heap random now = ((true, some sent), st')) :
    ∃ r, matchRequest st p.bytes = some r ∧ sourceOf p.bytes = some r.client ∧
      Sent st p (peer.getD 0) now r.client sent st' := by
  obtain ⟨q, r, junk, v4, hq, hmatch, hdropped, -, hlen, hbuild, rfl, rfl⟩ :=
    translateWgInput_eq_some h
  obtain rfl := Option.some.inj hq
  have hroom := payloadLen_of_requestDropped hdropped
  have htot := p.tot_len_lt
  have hkey := key_of_buildV4 hmatch hlen hbuild
  have hproto := protocol_of_requestDropped hdropped
  -- The buffer is as long as the packet, so the key is read inside it.
  obtain ⟨hcap, -⟩ := buildV4_inBounds hbuild hlen (by omega)
  have hsent := sentKey_of_buildV4 hbuild hlen hcap
  have hfields : st.enabled = true ∧ r.protocol = byteAt p.bytes 6 ∧
      r.client.bytes = copyPartial p.bytes 16 8 := by
    have hmin := length_of_matchRequest hmatch
    -- The fields of the matched request are those of the packet.
    unfold matchRequest at hmatch
    rw [dif_neg (by omega)] at hmatch
    simp only [Option.ite_none_left_eq_some, Bool.or_eq_true, not_or, Bool.not_eq_true',
      Bool.not_eq_false, Option.some.injEq] at hmatch
    obtain ⟨-, ⟨henabled, -⟩, -, hr⟩ := hmatch
    rw [← hr]
    exact ⟨henabled, rfl, rfl⟩
  obtain ⟨henabled, hprotocol, hclient⟩ := hfields
  refine ⟨r, hmatch, client_of_matchRequest hmatch, ?_⟩
  exact
    { enabled := henabled
      source := hclient
      protocol := hprotocol ▸ hproto
      key := hkey ▸ hsent
      state := by rw [hkey] }

/-- The LAN host is sent TCP, UDP or ICMP, as the request's own next header says. -/
theorem Sent.protocol_eq {peer : Ip4} {client : Ip6} (h : Sent st p peer now client sent st') :
    byteAt (sent.mem.load 0 sent.cap) 9
      = if byteAt p.bytes 6 = 6 ∨ byteAt p.bytes 6 = 17 then byteAt p.bytes 6 else 1 := by
  have hsent : byteAt (sent.mem.load 0 sent.cap) 9
      = (sentKey (sent.mem.load 0 sent.cap)).protocol := by
    unfold sentKey
    split <;> rfl
  rw [hsent, h.key]
  unfold requestKey
  split <;> rfl

/-- The next header of the answer is that of the request. -/
theorem Sent.nextHeader_eq {peer : Ip4} {client : Ip6} (h : Sent st p peer now client sent st') :
    (if byteAt (sent.mem.load 0 sent.cap) 9 = 1 then 58 else byteAt (sent.mem.load 0 sent.cap) 9)
      = byteAt p.bytes 6 := by
  rw [h.protocol_eq]
  rcases h.protocol with h6 | h17 | h58
  · rw [h6]
    rfl
  · rw [h17]
    rfl
  · rw [h58]
    rfl

/-- **The way back.** The answer of the LAN host is translated for the request's client. Nobody
    else's flow has the key, and it has not expired by then. -/
theorem answer_translated {peer : Ip4} {client : Ip6} (hst : st.WellFormed)
    (hsent : Sent st p peer now client sent st')
    (halone : ∀ f ∈ st.flows, f.valid = true → f.key = requestKey p.bytes peer →
      f.clientV6 = client)
    (hreply : IsReplyTo (sent.mem.load 0 sent.cap) reply.bytes)
    (htime : now' - now ≤ timeoutUs (byteAt reply.bytes 9)) (junk : Memory) :
    ∃ r st'', parseReply reply.bytes = some r ∧ r.key = requestKey p.bytes peer ∧
      (copyPartial reply.bytes r.payloadLen r.ihl).length = r.payloadLen ∧
      translateWgOutput st' (some reply) (some junk) now' =
        (some (replyL4 r (replyBase st.siteId r client
          (copyPartial reply.bytes r.payloadLen r.ihl)
          (Buffer.alloc ((40 + r.payloadLen) % 65536) junk))), st'') := by
  have hproto : byteAt (sent.mem.load 0 sent.cap) 9 = 6 ∨
      byteAt (sent.mem.load 0 sent.cap) 9 = 17 ∨ byteAt (sent.mem.load 0 sent.cap) 9 = 1 := by
    rw [hsent.protocol_eq]
    split
    · rename_i htcp
      exact htcp.imp_right .inl
    · exact .inr (.inr rfl)
  obtain ⟨r, hparse⟩ := hreply.parses hproto
  have hkey : r.key = requestKey p.bytes peer := by
    rw [key_of_parseReply hparse, hreply.replyKey_eq hproto, hsent.key]
  have hkeyProtocol : (requestKey p.bytes peer).protocol = byteAt reply.bytes 9 := by
    rw [← hkey, key_of_parseReply hparse]
    unfold replyKey
    simp only
    split <;> rfl
  have hne : st.flows ≠ [] := by
    intro hnil
    have hlen := hst.length_flows
    rw [hnil] at hlen
    cases hlen
  -- the flow is in the table, and has not timed out
  obtain ⟨flow, flows', hfound, hclient⟩ :=
    found_after_remember hne hst.lastSeen_lt halone (hkeyProtocol ▸ htime)
  obtain ⟨hihl, htotal, -⟩ := header_of_parseReply hparse
  have hcopy : (copyPartial reply.bytes r.payloadLen r.ihl).length = r.payloadLen := by
    have hle := hreply.total_le
    simp only [copyPartial, List.length_take, List.length_drop, Reply.payloadLen]
    omega
  refine ⟨r, { st' with flows := flows', translated := (st'.translated + 1) % 2 ^ 32 }, hparse,
    hkey, hcopy, ?_⟩
  unfold translateWgOutput
  rw [hsent.state]
  simp only [hsent.enabled, Bool.not_true, Bool.false_eq_true, if_false, hparse, hkey, hfound,
    hcopy, ne_eq, not_true, hclient]

/-- **The answer in IPv6**, where it fits: it comes from what the request was sent to. A longer one
    would be cut by the 16-bit length of its buffer. -/
theorem roundTrip_of_fits {peer : Ip4} {request : Request} {r : Reply} {junk : Memory}
    (hst : st.WellFormed) (hmatch : matchRequest st p.bytes = some request)
    (hsent : Sent st p peer now request.client sent st')
    (hreply : IsReplyTo (sent.mem.load 0 sent.cap) reply.bytes)
    (hparse : parseReply reply.bytes = some r) (hkey : r.key = requestKey p.bytes peer)
    (hcopy : (copyPartial reply.bytes r.payloadLen r.ihl).length = r.payloadLen)
    (hfits : 40 + l4Len reply.bytes < 65536) :
    RoundTrip p.bytes reply.bytes (replyL4 r (replyBase st.siteId r request.client
      (copyPartial reply.bytes r.payloadLen r.ihl)
      (Buffer.alloc ((40 + r.payloadLen) % 65536) junk))) := by
  obtain ⟨hlen, hproto, -, hlt, -⟩ := parseReply_spec hparse
  obtain ⟨hcap, hin⟩ := (reply_inBounds_iff st.siteId request.client junk hparse hcopy).mpr
    ⟨hfits, hreply.tcp_room⟩
  have htarget : r.key.targetV4 = be32 p.bytes 36 := by
    rw [hkey]
    unfold requestKey
    split <;> rfl
  exact
    { cap := hcap
      inBounds := hin
      version := by
        rw [mem_replyL4_of_lt (by omega)]
        exact version_of_tos r.tos
      payloadLen := by
        rw [Memory.be16_load _ _ (by omega), load_replyL4 _ _ (by omega), Nat.zero_add,
          load_replyBase_payloadLen, hlen]
        exact (toNat_bytes16 _).trans (Nat.mod_eq_of_lt (by omega))
      -- an echo reply went out as ICMP and comes back as ICMPv6
      nextHeader := by
        rw [mem_replyL4_of_lt (by omega)]
        show (if r.protocol = 1 then 58 else r.protocol) = byteAt p.bytes 6
        rw [hproto, hreply.protocol, hsent.nextHeader_eq]
      source := by
        rw [load_replyL4 _ _ (by omega), load_replyBase_source, htarget,
          destination_of_matchRequest hst.siteId_lt hmatch]
      destination := by
        rw [load_replyL4 _ _ (by omega), load_replyBase_client, hsent.source]
      l4 := by
        intro k hk hlo hhi
        have hecho : byteAt reply.bytes 9 = 1 →
            byteAt reply.bytes (headerLen reply.bytes) = 0 := by
          intro hicmp
          rw [hreply.protocol] at hicmp
          exact (hreply.echo hicmp).2.1
        exact l4_of_answer hparse hcopy hecho hk hlo hhi }

/-- **The 4via6 round trip.** The LAN host's answer to a translated request is translated, and
    brought back to the request's sender exactly when its IPv6 packet has less than 2^16
    bytes: beyond that the buffer is too short. -/
theorem roundTrip_iff (hst : st.WellFormed)
    (h : translateWgInput st (some p) peer heap random now = ((true, some sent), st'))
    (halone : ∀ f ∈ st.flows, f.valid = true → f.key = requestKey p.bytes (peer.getD 0) →
      sourceOf p.bytes = some f.clientV6)
    (hreply : IsReplyTo (sent.mem.load 0 sent.cap) reply.bytes)
    (htime : now' - now ≤ timeoutUs (byteAt reply.bytes 9)) (junk : Memory) :
    ∃ out st'', translateWgOutput st' (some reply) (some junk) now' = (some out, st'') ∧
      (RoundTrip p.bytes reply.bytes out ↔ 40 + l4Len reply.bytes < 65536) := by
  obtain ⟨request, hmatch, hclient, hsent⟩ := sent_of_translateWgInput h
  have halone' : ∀ f ∈ st.flows, f.valid = true → f.key = requestKey p.bytes (peer.getD 0) →
      f.clientV6 = request.client := by
    intro f hf hvalid hkey
    have hsource := halone f hf hvalid hkey
    rw [hclient, Option.some.injEq] at hsource
    exact hsource.symm
  obtain ⟨r, st'', hparse, hkey, hcopy, hout⟩ :=
    answer_translated hst hsent halone' hreply htime junk
  refine ⟨_, st'', hout, ?_⟩
  -- the contents agree in any case; only the length decides
  constructor
  · intro hround
    exact ((reply_inBounds_iff st.siteId request.client junk hparse hcopy).mp
      ⟨hround.cap, hround.inBounds⟩).1
  · exact roundTrip_of_fits hst hmatch hsent hreply hparse hkey hcopy

/-! ### Reachable states -/

theorem length_flowRemember (flows : List Flow) (client : Ip6) (key : FlowKey) (now : Int) :
    (flowRemember flows client key now).length = flows.length := by
  unfold flowRemember
  split
  · exact List.length_set
  · rfl

theorem length_flowLookup (key : FlowKey) (now : Int) (flows : List Flow) :
    (flowLookup key now flows).1.length = flows.length := by
  induction flows with
  | nil => rfl
  | cons f fs ih =>
    unfold flowLookup
    repeat' split
    all_goals simp only [List.length_cons, ih]

/-- Neither direction changes the configuration. -/
theorem siteId_translateWgInput (st : State) (packet : Option Pbuf) (peer : Option Ip4)
    (heap : Option Memory) (random : Nat) (now : Int) :
    (translateWgInput st packet peer heap random now).2.siteId = st.siteId := by
  unfold translateWgInput
  dsimp only
  repeat' split
  all_goals rfl

theorem siteId_translateWgOutput (st : State) (packet : Option Pbuf) (heap : Option Memory)
    (now : Int) : (translateWgOutput st packet heap now).2.siteId = st.siteId := by
  unfold translateWgOutput
  dsimp only
  repeat' split
  all_goals rfl

/-- When a packet comes. -/
def Packet.time : Packet → Int
  | .request _ _ _ _ now => now
  | .reply _ _ now => now

/-- A request keeps the state well-formed. -/
theorem wellFormed_translateWgInput {packet : Option Pbuf} (h : st.WellFormed)
    (htime : now < int64Max) :
    (translateWgInput st packet peer heap random now).2.WellFormed := by
  have hsite := siteId_translateWgInput st packet peer heap random now
  rcases hres : translateWgInput st packet peer heap random now with ⟨⟨taken, _ | out⟩, st'⟩
  · have hflows := flows_translateWgInput_none hres
    rw [hres] at hsite
    exact ⟨hsite ▸ h.siteId_lt, hflows ▸ h.length_flows, hflows ▸ h.lastSeen_lt⟩
  · obtain ⟨p, r, junk, v4, -, -, -, -, -, -, -, rfl⟩ := translateWgInput_eq_some hres
    refine ⟨h.siteId_lt, (length_flowRemember _ _ _ _).trans h.length_flows, ?_⟩
    intro f hf
    rcases mem_flowRemember hf with rfl | hold
    · exact htime
    · exact h.lastSeen_lt f hold

/-- A reply keeps the state well-formed. -/
theorem wellFormed_translateWgOutput {packet : Option Pbuf} (h : st.WellFormed)
    (htime : now < int64Max) : (translateWgOutput st packet heap now).2.WellFormed := by
  have hsite := siteId_translateWgOutput st packet heap now
  rcases flows_translateWgOutput st packet heap now with hsame | ⟨key, hlookup⟩
  · exact ⟨hsite ▸ h.siteId_lt, hsame ▸ h.length_flows, hsame ▸ h.lastSeen_lt⟩
  · refine ⟨hsite ▸ h.siteId_lt, ?_, ?_⟩
    · rw [hlookup, length_flowLookup]
      exact h.length_flows
    · intro g hg
      rw [hlookup] at hg
      obtain ⟨f, hf, -, -, hseen⟩ := mem_flowLookup hg
      rcases hseen with hnow | hold
      · rw [hnow]
        exact htime
      · rw [hold]
        exact h.lastSeen_lt f hf

/-- **Run lemma.** A state is well-formed as long as the timer has not run out. -/
theorem wellFormed_run {s t : Traffic} {packets : List Packet} (h : s.st.WellFormed)
    (htimes : traffic.Meets (fun _ a => a.time < int64Max) s packets)
    (hrun : traffic.run s packets = some t) : t.st.WellFormed := by
  apply Machine.invariant_of_meets ?_ htimes hrun h
  intro u a u' htime hstep hu
  obtain rfl := Option.some.inj hstep
  cases a with
  | request packet peer heap random now =>
    have hnext : (u.next (.request packet peer heap random now)).st
        = (translateWgInput u.st packet peer heap random now).2 := by
      simp only [Traffic.next]
      split
      · rename_i heq
        rw [heq]
      · rename_i heq
        rw [heq]
    rw [hnext]
    exact wellFormed_translateWgInput hu htime
  | reply packet heap now => exact wellFormed_translateWgOutput hu htime

/-! ### An exchange -/

/-- A client's UDP request without data, from port 12345 to port 80 of 192.168.4.50. -/
def udpRequest : Pbuf :=
  { bytes := [0x60, 0, 0, 0, 0, 8, 17, 64] ++ (client 1).bytes ++ viaPrefix ++
      [0, 0, 0, 1, 192, 168, 4, 50, 48, 57, 0, 80, 0, 8, 0, 0]
    tot_len_lt := by simp [client, viaPrefix] }

/-- The packet that the LAN host is sent for it. -/
def udpSent : List UInt8 :=
  [0x45, 0, 0, 28, 0, 0, 0x40, 0, 63, 17, 18, 182, 100, 64, 0, 1, 192, 168, 4, 50, 48, 57, 0, 80,
    0, 8, 166, 57]

/-- The headers of the LAN host's answer with `n` bytes of data. -/
def udpAnswerHeader (n : Nat) : List UInt8 :=
  [0x45, 0, UInt8.ofNat ((28 + n) / 256), UInt8.ofNat (28 + n), 0, 0, 0, 0, 64, 17, 0, 0,
    192, 168, 4, 50, 100, 64, 0, 1, 0, 80, 48, 57, UInt8.ofNat ((8 + n) / 256),
    UInt8.ofNat (8 + n), 0, 0]

/-- The LAN host's answer with `n` bytes of data. -/
def udpAnswer (n : Nat) (h : n < 65508) : Pbuf :=
  { bytes := udpAnswerHeader n ++ List.replicate n 0
    tot_len_lt := by simp [udpAnswerHeader]; omega }

theorem udpRequest_sent :
    ∃ sent st', translateWgInput freshSite.st (some udpRequest) (some 0x64400001#32)
      (some fun _ => 0) 0 0 = ((true, some sent), st') ∧ sent.mem.load 0 sent.cap = udpSent := by
  have hbytes : (translateWgInput freshSite.st (some udpRequest) (some 0x64400001#32)
      (some fun _ => 0) 0 0).1.2.map (fun sent => sent.mem.load 0 sent.cap) = some udpSent := by
    decide +kernel
  have htaken : (translateWgInput freshSite.st (some udpRequest) (some 0x64400001#32)
      (some fun _ => 0) 0 0).1.1 = true := by decide +kernel
  generalize translateWgInput freshSite.st (some udpRequest) (some 0x64400001#32)
    (some fun _ => 0) 0 0 = result at hbytes htaken
  obtain ⟨⟨taken, out⟩, st'⟩ := result
  obtain ⟨sent, rfl, hload⟩ := Option.map_eq_some_iff.mp hbytes
  cases htaken
  exact ⟨sent, st', rfl, hload⟩

section UdpAnswer

variable {n : Nat} (h : n < 65508)

theorem total_udpAnswer : be16 (udpAnswer n h).bytes 2 = 28 + n := by
  show (UInt8.ofNat ((28 + n) / 256)).toNat * 256 + (UInt8.ofNat (28 + n)).toNat = 28 + n
  rw [toNat_bytes16, Nat.mod_eq_of_lt (by omega)]

theorem headerLen_udpAnswer : headerLen (udpAnswer n h).bytes = 20 := by
  show (0x45 : UInt8).toNat % 16 * 4 = 20
  rfl

theorem l4Len_udpAnswer : l4Len (udpAnswer n h).bytes = 8 + n := by
  show be16 (udpAnswer n h).bytes 2 - headerLen (udpAnswer n h).bytes = 8 + n
  rw [total_udpAnswer, headerLen_udpAnswer]
  omega

theorem udpAnswer_isReply : IsReplyTo udpSent (udpAnswer n h).bytes where
  version := by
    show (0x45 : UInt8).toNat / 16 = 4
    rfl
  header := Nat.le_of_eq (headerLen_udpAnswer h).symm
  total_le := by
    -- The header tells exactly as many bytes as there are.
    rw [total_udpAnswer]
    simp only [udpAnswer, List.length_append, List.length_replicate]
    exact Nat.le_refl (28 + n)
  unfragmented := by
    show be16 [0, 0] 0 % 0x4000 = 0
    rfl
  protocol := rfl
  source := rfl
  destination := rfl
  l4 := by
    rw [total_udpAnswer, headerLen_udpAnswer]
    show 20 + 8 ≤ 28 + n
    omega
  ports := by
    intro _
    rw [headerLen_udpAnswer]
    exact ⟨rfl, rfl⟩
  echo := fun hicmp => absurd hicmp (by decide)

end UdpAnswer

/-- The site's time stamps are zero. -/
theorem freshSite_wellFormed : freshSite.st.WellFormed where
  siteId_lt := by decide
  length_flows := rfl
  lastSeen_lt := by
    intro f hf
    rw [List.eq_of_mem_replicate hf]
    decide

/-- An answer without data comes back. -/
theorem udp_comes_back :
    ∃ sent st' out st'', translateWgInput freshSite.st (some udpRequest) (some 0x64400001#32)
      (some fun _ => 0) 0 0 = ((true, some sent), st') ∧
      translateWgOutput st' (some (udpAnswer 0 (by decide))) (some fun _ => 0) 1
        = (some out, st'') ∧
      RoundTrip udpRequest.bytes (udpAnswer 0 (by decide)).bytes out := by
  obtain ⟨sent, st', hin, hload⟩ := udpRequest_sent
  have halone : ∀ f ∈ freshSite.st.flows, f.valid = true →
      f.key = requestKey udpRequest.bytes ((some 0x64400001#32 : Option Ip4).getD 0) →
        sourceOf udpRequest.bytes = some f.clientV6 := by
    intro f hf hvalid
    rw [freshSite_fresh.1 f hf] at hvalid
    cases hvalid
  have hreply : IsReplyTo (sent.mem.load 0 sent.cap) (udpAnswer 0 (by decide)).bytes :=
    hload ▸ udpAnswer_isReply (by decide)
  have htime : (1 : Int) - 0 ≤ timeoutUs (byteAt (udpAnswer 0 (by decide)).bytes 9) := by decide
  obtain ⟨out, st'', hout, hround⟩ :=
    roundTrip_iff freshSite_wellFormed hin halone hreply htime fun _ => 0
  exact ⟨sent, st', out, st'', hin, hout, hround.mpr (by rw [l4Len_udpAnswer]; decide)⟩

/-- An answer with 65488 bytes of data, 65516 in all, is translated into an empty buffer. -/
theorem long_answer_cut :
    ∃ sent st' out st'', translateWgInput freshSite.st (some udpRequest) (some 0x64400001#32)
      (some fun _ => 0) 0 0 = ((true, some sent), st') ∧
      IsReplyTo (sent.mem.load 0 sent.cap)
        (udpAnswer 65488 (by decide)).bytes ∧
      translateWgOutput st' (some (udpAnswer 65488 (by decide)))
        (some fun _ => 0) 1 = (some out, st'') ∧ out.cap = 0 ∧
      ¬ RoundTrip udpRequest.bytes (udpAnswer 65488 (by decide)).bytes out := by
  obtain ⟨sent, st', hin, hload⟩ := udpRequest_sent
  obtain ⟨request, hmatch, hclient, hsent⟩ := sent_of_translateWgInput hin
  have hreply : IsReplyTo (sent.mem.load 0 sent.cap)
      (udpAnswer 65488 (by decide)).bytes :=
    hload ▸ udpAnswer_isReply (by decide)
  -- The table is fresh, so nothing competes for the flow.
  have halone : ∀ f ∈ freshSite.st.flows, f.valid = true →
      f.key = requestKey udpRequest.bytes ((some 0x64400001#32 : Option Ip4).getD 0) →
        f.clientV6 = request.client := by
    intro f hf hvalid
    rw [freshSite_fresh.1 f hf] at hvalid
    cases hvalid
  have htime : (1 : Int) - 0 ≤ timeoutUs (byteAt (udpAnswer 65488 (by decide)).bytes 9) := by
    decide
  obtain ⟨r, st'', hparse, -, -, hout⟩ :=
    answer_translated freshSite_wellFormed hsent halone hreply htime fun _ => 0
  obtain ⟨hlen, -⟩ := parseReply_spec hparse
  rw [l4Len_udpAnswer] at hlen
  refine ⟨sent, st', _, st'', hin, hreply, hout, ?_, ?_⟩
  · rw [cap_replyL4, cap_replyBase, Buffer.cap_alloc, hlen]
  -- The payload and the header wrap to a length of zero, against the length of the answer.
  · intro hround
    have hcap := hround.cap
    rw [cap_replyL4, cap_replyBase, Buffer.cap_alloc, hlen, l4Len_udpAnswer] at hcap
    omega

end SubnetRouter.FourVia6
