import SubnetRouter.Lib.Checksum
import SubnetRouter.Net.Dotted

namespace SubnetRouter.Diag

open Lib

/-!
# One probe (`components/net_diag/net_diag.c`)

A raw socket receives every ICMP message that comes in.  A probe is sent with an identifier and a
sequence number, and of all that is received until the deadline only an answer to it counts.

* `buildEcho`, `parseReply`, `doProbe` — the code.
* `parse_reply_reads_received` — what is left in the buffer behind a message does not matter.
* `Carries` — the packets that have the two numbers where an answer has them.
* `parseReply_ne_iff` — of all packets, `parse_reply` takes exactly these.
* `Answer` — the messages that answer a probe, with headers of any length.
* `probe_finds_answer` — a probe takes its own answer out of any traffic that does not carry its
  numbers.
-/

/-! ### The code -/

/-- `ICMP_ECHO_REQUEST`, `ICMP_ECHO_REPLY`, `ICMP_TIME_EXCEEDED`, `ICMP_DEST_UNREACH`. -/
def icmpEchoRequest : UInt8 := 8

@[inherit_doc icmpEchoRequest] def icmpEchoReply : UInt8 := 0

@[inherit_doc icmpEchoRequest] def icmpTimeExceeded : UInt8 := 11

@[inherit_doc icmpEchoRequest] def icmpDestUnreach : UInt8 := 3

/-- `ICMP_HDR_LEN`. -/
def icmpHdrLen : Nat := 8

/-- `ICMP_PAYLOAD_LEN`. -/
def icmpPayloadLen : Nat := 24

/-- `RECV_BUF_LEN`. -/
def recvBufLen : Nat := 256

/-- `build_echo`, as it stands behind its checksum. -/
def echoBody (id seq : UInt16) : List UInt8 :=
  bytes16 id.toNat ++ bytes16 seq.toNat ++
    (List.range icmpPayloadLen).map fun i => UInt8.ofNat (i + 65)

/-- `build_echo`. -/
def buildEcho (id seq : UInt16) : List UInt8 :=
  let chksum := 65535 - onesSum ([icmpEchoRequest, 0] ++ bytes16 0 ++ echoBody id seq)
  [icmpEchoRequest, 0] ++ bytes16 chksum ++ echoBody id seq

/-- `parse_reply`; `len` bytes of the buffer were received. The lengths of both IP headers are those
    that the bytes claim, each tested before what it leads to is read. -/
def parseReply (buf : List UInt8) (len : Nat) (expectId expectSeq : UInt16) : Int :=
  if len < 20 + icmpHdrLen then -2
  else
    let ihl := (byteAt buf 0 &&& 0x0F).toNat * 4
    if len < ihl + icmpHdrLen then -2
    else if byteAt buf ihl = icmpEchoReply then
      if be16 buf (ihl + 4) = expectId.toNat ∧ be16 buf (ihl + 6) = expectSeq.toNat then 0
      else -2
    else if byteAt buf ihl = icmpTimeExceeded ∨ byteAt buf ihl = icmpDestUnreach then
      let innerIp := ihl + icmpHdrLen
      let innerAvail := len - innerIp
      if innerAvail < 20 + 8 then -2
      else
        let innerIhl := (byteAt buf innerIp &&& 0x0F).toNat * 4
        if innerAvail < innerIhl + 8 then -2
        else
          let innerIcmp := innerIp + innerIhl
          if be16 buf (innerIcmp + 4) ≠ expectId.toNat ∨
              be16 buf (innerIcmp + 6) ≠ expectSeq.toNat then -2
          else if byteAt buf ihl = icmpTimeExceeded then 1 else -3
    else -2

/-- `probe_result_t`. The status is 0 for an echo reply, −1 for a timeout, −2 for an error of the
    socket, and that of the ICMP error otherwise. -/
structure ProbeResult where
  status : Int
  source : List Char
  rttUs : Nat
deriving DecidableEq

/-- One round of the loop in `do_probe`: the clock before `recvfrom`, what it gives (a datagram, its
    source and what the buffer holds behind it), and the clock after it.  Clocks count the
    microseconds since the probe was sent. -/
structure Round where
  now : Nat
  received : Option (List UInt8 × Ip4 × List UInt8)
  tNow : Nat

/-- The loop; no result when the rounds are over. A message that `parse_reply` does not take for the
    probe's own is passed over, and the time goes on. -/
def receive (id seq : UInt16) (timeoutMs : Nat) : List Round → Option ProbeResult
  | [] => none
  | r :: rounds =>
    if timeoutMs * 1000 ≤ r.now then some ⟨-1, [], 0⟩
    else
      match r.received with
      | none => some ⟨-1, [], 0⟩
      | some (datagram, source, stale) =>
        let rxbuf := datagram.take recvBufLen
        let st := parseReply (rxbuf ++ stale) rxbuf.length id seq
        if st = -2 then receive id seq timeoutMs rounds
        else some ⟨st, dotted source, r.tNow⟩

/-- What the network stack does for a probe: whether the calls succeed, the TTL that a socket has
    by itself, and the rounds that follow, which depend on the TTL that the probe is sent with. -/
structure Calls where
  socketOk : Bool
  setTtlOk : Bool
  sendtoOk : Bool
  defaultTtl : Nat
  rounds : Nat → List Round

/-- The TTL of the socket behind `setsockopt(IP_TTL)`, which is not called for 0 and whose failure
    is only logged. -/
def Calls.socketTtl (calls : Calls) (ttl : Nat) : Nat :=
  if 0 < ttl ∧ calls.setTtlOk = true then ttl else calls.defaultTtl

/-- `do_probe`; the probe that is handed to `sendto` with its TTL, if one is, and the result. A
    failing `setsockopt` is only logged, and the probe goes out with the TTL that the socket has. -/
def doProbe (id seq : UInt16) (ttl timeoutMs : Nat) (calls : Calls) :
    Option (Nat × List UInt8) × Option ProbeResult :=
  if calls.socketOk then
    let sentTtl := calls.socketTtl ttl
    if calls.sendtoOk then
      (some (sentTtl, buildEcho id seq), receive id seq timeoutMs (calls.rounds sentTtl))
    else (some (sentTtl, buildEcho id seq), some ⟨-2, [], 0⟩)
  else (none, some ⟨-2, [], 0⟩)

/-- The checksum of a probe is right. -/
theorem verifies_buildEcho (id seq : UInt16) : Verifies (buildEcho id seq) := by
  have hcomplements : Complements (65535 - onesSum ([icmpEchoRequest, 0] ++ bytes16 0 ++
      echoBody id seq)) ([icmpEchoRequest, 0] ++ bytes16 0 ++ echoBody id seq) := .inl rfl
  unfold buildEcho
  dsimp only
  generalize 65535 - onesSum _ = v at *
  obtain ⟨hlt, hpos, hmod⟩ := complements_add hcomplements
  have hsum (k : Nat) : wordSum ([icmpEchoRequest, 0] ++ bytes16 k ++ echoBody id seq) =
      wordSum [icmpEchoRequest, 0] + (k % 65536 + wordSum (echoBody id seq)) := by
    rw [List.append_assoc, wordSum_append (by rfl), wordSum_append (by rw [length_bytes16]),
      wordSum_bytes16]
  rw [hsum] at hpos hmod
  rw [verifies_iff, hsum]
  omega

/-! ### Reading only what was received -/

variable {id seq : UInt16} {l m : List UInt8} {timeoutMs : Nat}

/-- Whatever the lengths in the headers are, `parse_reply` does not look behind the bytes that were
    received. The buffer is the same for all messages, so behind a short one there is what is left
    of a longer one; each check of a length stands in front of the reads that it is for. -/
theorem parse_reply_reads_received (l stale : List UInt8) (id seq : UInt16) :
    parseReply (l ++ stale) l.length id seq = parseReply l l.length id seq := by
  unfold parseReply icmpHdrLen
  by_cases hlen : l.length < 20 + 8
  · rw [if_pos hlen, if_pos hlen]
  rw [if_neg hlen, if_neg hlen, byteAt_append_left stale (by omega)]
  dsimp only
  -- the first byte was received, so both sides have this length of the IP header
  generalize (byteAt l 0 &&& 0x0F).toNat * 4 = ihl
  by_cases hihl : l.length < ihl + 8
  · rw [if_pos hihl, if_pos hihl]
  rw [if_neg hihl, if_neg hihl, byteAt_append_left stale (by omega : ihl < l.length),
    be16_append_left stale (by omega : ihl + 4 + 1 < l.length),
    be16_append_left stale (by omega : ihl + 6 + 1 < l.length)]
  by_cases hreply : byteAt l ihl = icmpEchoReply
  · rw [if_pos hreply, if_pos hreply]
  rw [if_neg hreply, if_neg hreply]
  by_cases herror : byteAt l ihl = icmpTimeExceeded ∨ byteAt l ihl = icmpDestUnreach
  · rw [if_pos herror, if_pos herror]
    -- the quoted packet: its header has the length that its own first byte gives
    by_cases hinner : l.length - (ihl + 8) < 20 + 8
    · rw [if_pos hinner, if_pos hinner]
    rw [if_neg hinner, if_neg hinner, byteAt_append_left stale (by omega : ihl + 8 < l.length)]
    generalize (byteAt l (ihl + 8) &&& 0x0F).toNat * 4 = innerIhl
    by_cases hihl' : l.length - (ihl + 8) < innerIhl + 8
    · rw [if_pos hihl', if_pos hihl']
    rw [if_neg hihl', if_neg hihl',
      be16_append_left stale (by omega : ihl + 8 + innerIhl + 4 + 1 < l.length),
      be16_append_left stale (by omega : ihl + 8 + innerIhl + 6 + 1 < l.length)]
  · rw [if_neg herror, if_neg herror]

/-! ### Where the numbers are read -/

/-- An IPv4 header; its first byte gives its length in words. -/
structure IpHeader where
  bytes : List UInt8
  atLeast : 20 ≤ bytes.length
  ihl : (byteAt bytes 0 &&& 0x0F).toNat * 4 = bytes.length

/-- What stands between the IP header and the identifier: the type, the code and the checksum of
    an echo reply; or the eight bytes of an error, and the quoted packet up to where an echo request
    would have its identifier, behind a header of the length that its own first byte gives.  `rest`
    is the number of bytes behind the sequence number. -/
inductive Front (rest : Nat) : List UInt8 → Prop
  | reply (icmp : List UInt8) (hicmp : icmp.length = 4) (htype : byteAt icmp 0 = icmpEchoReply) :
      Front rest icmp
  | error (icmp quoted : List UInt8) (hicmp : icmp.length = 8)
      (htype : byteAt icmp 0 = icmpTimeExceeded ∨ byteAt icmp 0 = icmpDestUnreach)
      (hquoted : (byteAt quoted 0 &&& 0x0F).toNat * 4 + 4 = quoted.length)
      (hwhole : 24 ≤ quoted.length + rest) : Front rest (icmp ++ quoted)

/-- The packet with these two numbers behind the front. -/
def carrying (header : IpHeader) (front : List UInt8) (id seq : UInt16) (rest : List UInt8) :
    List UInt8 :=
  header.bytes ++ (front ++ (bytes16 id.toNat ++ bytes16 seq.toNat ++ rest))

/-- The packet has the two numbers where an answer to the probe has them, whether it is one or not:
    the error of a router may quote a packet of another protocol that has these bytes there. -/
def Carries (id seq : UInt16) (packet : List UInt8) : Prop :=
  ∃ (header : IpHeader) (front rest : List UInt8), Front rest.length front ∧
    packet = carrying header front id seq rest

/-- What `parse_reply` makes of a type of answer. -/
def statusOf (type : UInt8) : Int :=
  if type = icmpEchoReply then 0 else if type = icmpTimeExceeded then 1 else -3

theorem statusOf_ne (type : UInt8) : statusOf type ≠ -2 := by
  unfold statusOf
  split_ifs <;> decide

theorem IpHeader.length_le (h : IpHeader) : h.bytes.length ≤ 60 := by
  have hnibble : (byteAt h.bytes 0 &&& 0x0F).toNat ≤ 15 := by
    rw [UInt8.toNat_and]
    exact Nat.and_le_right
  have hihl := h.ihl
  omega

/-- The first byte of a packet gives the length of its header. -/
theorem IpHeader.ihl_append (h : IpHeader) (m : List UInt8) :
    (byteAt (h.bytes ++ m) 0 &&& 0x0F).toNat * 4 = h.bytes.length := by
  have hpos : 0 < h.bytes.length := by
    have := h.atLeast
    omega
  rw [byteAt_append_left m hpos, h.ihl]

theorem be16_bytes16 (v : UInt16) (m : List UInt8) : be16 (bytes16 v.toNat ++ m) 0 = v.toNat :=
  (toNat_bytes16 v.toNat).trans (Nat.mod_eq_of_lt v.toNat_lt)

/-- The two numbers of a probe, in a message that carries them. -/
theorem be16_numbers (l : List UInt8) (id seq : UInt16) (m : List UInt8) :
    be16 (l ++ (bytes16 id.toNat ++ bytes16 seq.toNat ++ m)) l.length = id.toNat ∧
      be16 (l ++ (bytes16 id.toNat ++ bytes16 seq.toNat ++ m)) (l.length + 2) = seq.toNat := by
  rw [List.append_assoc]
  constructor
  · exact (be16_append_right l _ 0).trans (be16_bytes16 id _)
  · rw [be16_append_right l _ 2]
    exact (be16_append_right (bytes16 id.toNat) _ 0).trans (be16_bytes16 seq _)

/-- The two numbers where they are read. -/
theorem eq_of_numbers {l : List UInt8} {k : Nat} (hlen : k + 4 ≤ l.length)
    (hid : be16 l k = id.toNat) (hseq : be16 l (k + 2) = seq.toNat) :
    l = l.take k ++ (bytes16 id.toNat ++ bytes16 seq.toNat ++ l.drop (k + 4)) := by
  have hfour : (l.drop k).take 4 = bytes16 id.toNat ++ bytes16 seq.toNat := by
    rw [take_drop_eq_map hlen, ← hid, ← hseq, bytes16_be16, bytes16_be16]
    rfl
  calc l = l.take k ++ ((l.drop k).take 4 ++ (l.drop k).drop 4) := by
        rw [List.take_append_drop, List.take_append_drop]
    _ = _ := by rw [hfour, List.drop_drop]

/-- **`parse_reply` and two numbers**: they are those of the probe, or the packet is not taken. It
    is enough that the numbers stand where they are read; what else is in the packet does not
    matter. -/
theorem parseReply_carrying (header : IpHeader) {front rest : List UInt8}
    (hfront : Front rest.length front) (id seq id' seq' : UInt16) :
    parseReply (carrying header front id' seq' rest) (carrying header front id' seq' rest).length
      id seq = if id' = id ∧ seq' = seq then statusOf (byteAt front 0) else -2 := by
  have hnumbers := be16_numbers (header.bytes ++ front) id' seq' rest
  rw [List.append_assoc, ← carrying, List.length_append] at hnumbers
  have hlength : (carrying header front id' seq' rest).length =
      header.bytes.length + front.length + 4 + rest.length := by
    simp [carrying]
    omega
  have hihl : (byteAt (carrying header front id' seq' rest) 0 &&& 0x0F).toNat * 4 =
      header.bytes.length := header.ihl_append _
  have hatLeast := header.atLeast
  have htypeAt (hpos : 0 < front.length) :
      byteAt (carrying header front id' seq' rest) header.bytes.length = byteAt front 0 :=
    (byteAt_append_right header.bytes _ 0).trans (byteAt_append_left _ hpos)
  cases hfront with
  | reply _ hicmp htype =>
    rw [hicmp] at hnumbers hlength
    unfold parseReply icmpHdrLen
    rw [if_neg (by omega)]
    dsimp only
    rw [hihl, if_neg (by omega), htypeAt (by omega), if_pos htype, hnumbers.1, hnumbers.2, htype]
    simp only [UInt16.toNat_inj]
    rfl
  | error icmp quoted hicmp htype hquoted hwhole =>
    rw [List.length_append, hicmp] at hnumbers hlength
    have hfirst : byteAt (icmp ++ quoted) 0 = byteAt icmp 0 := byteAt_append_left _ (by omega)
    rw [List.length_append, hfirst] at htypeAt
    -- the quoted packet begins behind the eight bytes of the message
    have hinner : (byteAt (carrying header (icmp ++ quoted) id' seq' rest)
        (header.bytes.length + 8) &&& 0x0F).toNat * 4 + 4 = quoted.length := by
      have hbehind : byteAt (carrying header (icmp ++ quoted) id' seq' rest)
          (header.bytes.length + 8) = byteAt quoted 0 := by
        unfold carrying
        rw [byteAt_append_right, List.append_assoc, ← hicmp]
        exact (byteAt_append_right icmp _ 0).trans (byteAt_append_left _ (by omega))
      rw [hbehind]
      exact hquoted
    have hnotReply : byteAt icmp 0 ≠ icmpEchoReply := by
      rcases htype with htype | htype <;> rw [htype] <;> decide
    unfold parseReply icmpHdrLen
    rw [if_neg (by omega)]
    dsimp only
    rw [hihl, if_neg (by omega), htypeAt (by omega), if_neg hnotReply, if_pos htype,
      if_neg (by omega), if_neg (by omega)]
    have hwhere : header.bytes.length + 8 + (byteAt (carrying header (icmp ++ quoted) id' seq' rest)
        (header.bytes.length + 8) &&& 0x0F).toNat * 4 + 4 =
          header.bytes.length + (8 + quoted.length) := by
      omega
    rw [hwhere, show ∀ k, k + 6 = k + 4 + 2 from fun _ => rfl, hwhere, hnumbers.1, hnumbers.2,
      hfirst]
    unfold statusOf
    rw [if_neg hnotReply]
    by_cases hmine : id' = id ∧ seq' = seq
    · rw [if_pos hmine, if_neg (by simp [hmine])]
    · rw [if_neg hmine, if_pos (by rwa [Ne, Ne, ← not_and_or, UInt16.toNat_inj, UInt16.toNat_inj])]

/-- A reply with the numbers in its header. -/
theorem carries_reply (header : IpHeader) (hlen : 8 ≤ m.length) (htype : byteAt m 0 = icmpEchoReply)
    (hid : be16 m 4 = id.toNat) (hseq : be16 m 6 = seq.toNat) :
    Carries id seq (header.bytes ++ m) := by
  refine ⟨header, m.take 4, m.drop 8, .reply _ ?_ ?_, ?_⟩
  · exact List.length_take_of_le (by omega)
  · rw [byteAt_take (by decide), htype]
  · rw [carrying, ← eq_of_numbers (by omega) hid hseq]

/-- An error whose quoted packet has them where an echo request would. -/
theorem carries_error (header : IpHeader) {innerIhl : Nat}
    (htype : byteAt m 0 = icmpTimeExceeded ∨ byteAt m 0 = icmpDestUnreach)
    (hinner : (byteAt m 8 &&& 0x0F).toNat * 4 = innerIhl) (hwhole : 36 ≤ m.length)
    (hquoted : innerIhl + 16 ≤ m.length) (hid : be16 m (innerIhl + 12) = id.toNat)
    (hseq : be16 m (innerIhl + 14) = seq.toNat) : Carries id seq (header.bytes ++ m) := by
  have hlength : ((m.drop 8).take (innerIhl + 4)).length = innerIhl + 4 := by
    rw [List.length_take, List.length_drop]
    omega
  refine ⟨header, m.take 8 ++ (m.drop 8).take (innerIhl + 4), m.drop (innerIhl + 12 + 4),
    .error _ _ ?_ ?_ ?_ ?_, ?_⟩
  · exact List.length_take_of_le (by omega)
  · rwa [byteAt_take (by decide)]
  · -- the quoted header has the length that its own first byte gives
    have hfirst : byteAt (m.drop 8) 0 = byteAt m 8 := by
      have h := byteAt_append_right (m.take 8) (m.drop 8) 0
      rwa [List.take_append_drop, List.length_take_of_le (by omega), eq_comm] at h
    rw [byteAt_take (by omega), hfirst, hinner, hlength]
  · rw [hlength, List.length_drop]
    omega
  · rw [← List.take_add, carrying, show 8 + (innerIhl + 4) = innerIhl + 12 by omega,
      ← eq_of_numbers (by omega) hid hseq]

/-- **What `parse_reply` takes**: of all IPv4 packets those that have the numbers of the probe where
    an answer has them.  That a quoted packet is an echo request, or was sent by this device, is
    not looked at. -/
theorem parseReply_ne_iff (header : IpHeader) (m : List UInt8) (id seq : UInt16) :
    parseReply (header.bytes ++ m) (header.bytes ++ m).length id seq ≠ -2 ↔
      Carries id seq (header.bytes ++ m) := by
  constructor
  · intro htaken
    have hatLeast := header.atLeast
    have hlength : (header.bytes ++ m).length = header.bytes.length + m.length :=
      List.length_append
    have hbyte (k : Nat) : byteAt (header.bytes ++ m) (header.bytes.length + k) = byteAt m k :=
      byteAt_append_right header.bytes m k
    have hword (k : Nat) : be16 (header.bytes ++ m) (header.bytes.length + k) = be16 m k :=
      be16_append_right header.bytes m k
    -- the offsets in the code are those of the packet; in the message they begin at its header
    unfold parseReply icmpHdrLen at htaken
    dsimp only at htaken
    rw [header.ihl_append, show byteAt (header.bytes ++ m) header.bytes.length = byteAt m 0 from
      hbyte 0, hbyte 8] at htaken
    simp only [Nat.add_assoc, hword] at htaken
    generalize hihl : (byteAt m 8 &&& 0x0F).toNat * 4 = innerIhl at htaken
    by_cases hshort : (header.bytes ++ m).length < 20 + 8
    · rw [if_pos hshort] at htaken
      exact absurd rfl htaken
    rw [if_neg hshort] at htaken
    by_cases hshort' : (header.bytes ++ m).length < header.bytes.length + 8
    · rw [if_pos hshort'] at htaken
      exact absurd rfl htaken
    rw [if_neg hshort'] at htaken
    by_cases hreply : byteAt m 0 = icmpEchoReply
    · rw [if_pos hreply] at htaken
      by_cases hnumbers : be16 m 4 = id.toNat ∧ be16 m 6 = seq.toNat
      · exact carries_reply header (by omega) hreply hnumbers.1 hnumbers.2
      · rw [if_neg hnumbers] at htaken
        exact absurd rfl htaken
    rw [if_neg hreply] at htaken
    by_cases herror : byteAt m 0 = icmpTimeExceeded ∨ byteAt m 0 = icmpDestUnreach
    · rw [if_pos herror] at htaken
      by_cases hinner : (header.bytes ++ m).length - (header.bytes.length + 8) < 20 + 8
      · rw [if_pos hinner] at htaken
        exact absurd rfl htaken
      rw [if_neg hinner] at htaken
      by_cases hinner' : (header.bytes ++ m).length - (header.bytes.length + 8) < innerIhl + 8
      · rw [if_pos hinner'] at htaken
        exact absurd rfl htaken
      rw [if_neg hinner'] at htaken
      by_cases hother : be16 m (8 + (innerIhl + 4)) ≠ id.toNat ∨
          be16 m (8 + (innerIhl + 6)) ≠ seq.toNat
      · rw [if_pos hother] at htaken
        exact absurd rfl htaken
      · rw [not_or, not_not, not_not, show 8 + (innerIhl + 4) = innerIhl + 12 by omega,
          show 8 + (innerIhl + 6) = innerIhl + 14 by omega] at hother
        exact carries_error header herror hihl (by omega) (by omega) hother.1 hother.2
    · rw [if_neg herror] at htaken
      exact absurd rfl htaken
  · rintro ⟨header', front, rest, hfront, hpacket⟩
    rw [hpacket, parseReply_carrying header' hfront, if_pos ⟨rfl, rfl⟩]
    exact statusOf_ne _

/-! ### Answers -/

/-- A message about a probe: the reply of its target, or the error of a router, which quotes the
    header and the first bytes of what it has dropped. -/
inductive Answer
  | reply (header : IpHeader) (code : UInt8) (chksum : UInt16) (rest : List UInt8)
  | error (expired : Bool) (header : IpHeader) (code : UInt8) (chksum : UInt16) (unused : BitVec 32)
      (quoted : IpHeader) (quotedChksum : UInt16) (rest : List UInt8)

namespace Answer

/-- The header of the packet. -/
def header : Answer → IpHeader
  | reply header _ _ _ => header
  | error _ header _ _ _ _ _ _ => header

/-- The type of the message. -/
def type : Answer → UInt8
  | reply .. => icmpEchoReply
  | error expired _ _ _ _ _ _ _ => if expired then icmpTimeExceeded else icmpDestUnreach

/-- What `parse_reply` says of it. -/
def status (a : Answer) : Int := statusOf a.type

/-- The message between the header and the identifier: the type, the code and the checksum, and for
    an error the header and the front of the probe that it quotes. -/
def front (a : Answer) : List UInt8 :=
  match a with
  | reply _ code chksum _ => [a.type, code] ++ bytes16 chksum.toNat
  | error _ _ code chksum unused quoted quotedChksum _ =>
    [a.type, code] ++ bytes16 chksum.toNat ++ bytes32 unused ++
      (quoted.bytes ++ ([icmpEchoRequest, 0] ++ bytes16 quotedChksum.toNat))

/-- The bytes behind the sequence number. -/
def rest : Answer → List UInt8
  | reply _ _ _ rest => rest
  | error _ _ _ _ _ _ _ rest => rest

/-- The message about the probe with these numbers. -/
def bytes (a : Answer) (id seq : UInt16) : List UInt8 := carrying a.header a.front id seq a.rest

/-- An answer has its numbers where they are read. -/
theorem isFront (a : Answer) (n : Nat) : Front n a.front := by
  cases a with
  | reply => exact .reply _ rfl rfl
  | error expired _ _ _ _ quoted =>
    refine .error _ _ rfl ?_ ?_ ?_
    · cases expired
      · exact .inr rfl
      · exact .inl rfl
    · rw [quoted.ihl_append, List.length_append]
      rfl
    · have hquoted := quoted.atLeast
      show 24 ≤ (quoted.bytes ++ _).length + n
      rw [List.length_append]
      show 24 ≤ quoted.bytes.length + 4 + n
      omega

end Answer

theorem Answer.type_front (a : Answer) : byteAt a.front 0 = a.type := by
  cases a <;> rfl

/-- **`parse_reply` and an answer**: it is taken if the numbers are those of the probe. -/
theorem parseReply_answer (a : Answer) (id seq id' seq' : UInt16) :
    parseReply (a.bytes id' seq') (a.bytes id' seq').length id seq =
      if id' = id ∧ seq' = seq then a.status else -2 := by
  rw [Answer.status, ← a.type_front]
  exact parseReply_carrying a.header (a.isFront _) id seq id' seq'

/-! ### An answer among other traffic -/

/-- The receive buffer has room for the numbers of any answer. -/
theorem Answer.length_front_le (a : Answer) :
    a.header.bytes.length + (a.front.length + 4) ≤ recvBufLen := by
  have hheader := a.header.length_le
  have hsize : recvBufLen = 256 := rfl
  cases a with
  | reply header code chksum rest =>
    show header.bytes.length + (4 + 4) ≤ recvBufLen
    dsimp only [Answer.header] at hheader
    omega
  | error expired header code chksum unused quoted quotedChksum rest =>
    have hquoted := quoted.length_le
    dsimp only [Answer.header] at hheader ⊢
    simp only [Answer.front, List.length_append, length_bytes16, length_bytes32, List.length_cons,
      List.length_nil]
    omega

/-- It cuts off bytes of the rest only. -/
theorem Answer.take_bytes (a : Answer) (id seq : UInt16) : ∃ rest,
    (a.bytes id seq).take recvBufLen = carrying a.header a.front id seq rest := by
  have hfront := a.length_front_le
  refine ⟨a.rest.take (recvBufLen - (a.header.bytes.length + (a.front.length + 4))), ?_⟩
  have hsplit (rest : List UInt8) : carrying a.header a.front id seq rest =
      (a.header.bytes ++ (a.front ++ (bytes16 id.toNat ++ bytes16 seq.toNat))) ++ rest := by
    simp only [carrying, List.append_assoc]
  have hlength : (a.header.bytes ++ (a.front ++ (bytes16 id.toNat ++ bytes16 seq.toNat))).length =
      a.header.bytes.length + (a.front.length + 4) := by
    simp
  rw [bytes, hsplit, hsplit, List.take_append, List.take_of_length_le (by omega), hlength]

/-- More bytes behind the numbers do not matter. -/
theorem Front.mono {n n' : Nat} {front : List UInt8} (h : Front n front) (hle : n ≤ n') :
    Front n' front := by
  cases h with
  | reply _ hicmp htype => exact .reply _ hicmp htype
  | error icmp quoted hicmp htype hquoted hwhole =>
    exact .error icmp quoted hicmp htype hquoted (by omega)

/-- Nor do they for the place of the numbers. -/
theorem Carries.append {packet : List UInt8} (h : Carries id seq packet) (m : List UInt8) :
    Carries id seq (packet ++ m) := by
  obtain ⟨header, front, rest, hfront, rfl⟩ := h
  refine ⟨header, front, rest ++ m, hfront.mono (by simp), ?_⟩
  simp only [carrying, List.append_assoc]

/-- What a raw socket receives too: IPv4 packets that do not have the numbers of the probe where an
    answer has them.  They may be too short, messages of another type, answers to another probe, or
    errors about packets of any protocol. -/
structure Unrelated (id seq : UInt16) (packet : List UInt8) : Prop where
  ip : ∃ (header : IpHeader) (m : List UInt8), packet = header.bytes ++ m
  other : ¬ Carries id seq packet

/-- Other packets are not taken. -/
theorem Unrelated.parseReply {packet : List UInt8} (h : Unrelated id seq packet)
    (stale : List UInt8) :
    Diag.parseReply (packet.take recvBufLen ++ stale) (packet.take recvBufLen).length id seq =
      -2 := by
  rw [parse_reply_reads_received]
  by_contra htaken
  obtain ⟨⟨header, m, rfl⟩, hother⟩ := h
  have hlen := header.length_le
  have hsize : recvBufLen = 256 := rfl
  have hcut : (header.bytes ++ m).take recvBufLen =
      header.bytes ++ m.take (recvBufLen - header.bytes.length) := by
    rw [List.take_append, List.take_of_length_le (by omega)]
  -- what the buffer holds would carry the numbers, and so would the packet
  rw [hcut] at htaken
  have hcarries := ((parseReply_ne_iff header _ id seq).mp htaken).append
    ((header.bytes ++ m).drop recvBufLen)
  rw [← hcut, List.take_append_drop] at hcarries
  exact hother hcarries

/-- An answer to another probe is one of them. -/
theorem Answer.unrelated (a : Answer) {id' seq' : UInt16} (h : ¬ (id' = id ∧ seq' = seq)) :
    Unrelated id seq (a.bytes id' seq') := by
  refine ⟨⟨a.header, _, rfl⟩, fun hcarries => ?_⟩
  have htaken := (parseReply_ne_iff a.header _ id seq).mpr hcarries
  rw [← carrying, ← Answer.bytes, parseReply_answer, if_neg h] at htaken
  exact htaken rfl

/-- What a probe can meet with: an answer with its source and the time it took, silence, or no way
    to send. -/
inductive Hop
  | answer (a : Answer) (source : Ip4) (rttUs : Nat)
  | silent
  | failed

/-- The result of the probe. -/
def Hop.result : Hop → ProbeResult
  | answer a source rttUs => ⟨a.status, dotted source, rttUs⟩
  | silent => ⟨-1, [], 0⟩
  | failed => ⟨-2, [], 0⟩

/-- The rounds bring other messages, and then the answer or the end of the time. It is what is asked
    of the network: nothing is said about how many messages come, or what is in them. -/
inductive Hears (id seq : UInt16) (timeoutMs : Nat) : List Round → Hop → Prop
  | other (now tNow : Nat) (datagram : List UInt8) (source : Ip4) (stale : List UInt8)
      (rounds : List Round) (hop : Hop) (hnow : now < timeoutMs * 1000)
      (hother : Unrelated id seq datagram) (h : Hears id seq timeoutMs rounds hop) :
      Hears id seq timeoutMs (⟨now, some (datagram, source, stale), tNow⟩ :: rounds) hop
  | answer (now tNow : Nat) (a : Answer) (source : Ip4) (stale : List UInt8) (rounds : List Round)
      (hnow : now < timeoutMs * 1000) :
      Hears id seq timeoutMs (⟨now, some (a.bytes id seq, source, stale), tNow⟩ :: rounds)
        (.answer a source tNow)
  | timedOut (now tNow : Nat) (rounds : List Round) :
      Hears id seq timeoutMs (⟨now, none, tNow⟩ :: rounds) .silent
  | late (r : Round) (rounds : List Round) (hnow : timeoutMs * 1000 ≤ r.now) :
      Hears id seq timeoutMs (r :: rounds) .silent

/-- What the network does for a probe that is sent with this TTL. -/
def Shows (id seq : UInt16) (timeoutMs : Nat) (calls : Calls) (sentTtl : Nat) : Hop → Prop
  | .failed => calls.socketOk = false ∨ calls.sendtoOk = false
  | hop => calls.socketOk = true ∧ calls.sendtoOk = true ∧
      Hears id seq timeoutMs (calls.rounds sentTtl) hop

/-- The loop finds what the rounds bring. By induction on what is heard: packets that are not taken
    are passed over. -/
theorem Hears.receive {rounds : List Round} {hop : Hop} (h : Hears id seq timeoutMs rounds hop) :
    Diag.receive id seq timeoutMs rounds = some hop.result := by
  -- The induction is over what is heard; each constructor is a round of the loop.
  induction h with
  | other now tNow datagram source stale rounds hop hnow hother h ih =>
    unfold Diag.receive
    rw [if_neg (Nat.not_le.mpr hnow)]
    dsimp only
    rw [if_pos (hother.parseReply stale), ih]
  | answer now tNow a source stale rounds hnow =>
    unfold Diag.receive
    rw [if_neg (Nat.not_le.mpr hnow)]
    dsimp only
    -- An answer is longer than the buffer at most in its data, which is not read.
    have htaken : parseReply ((a.bytes id seq).take recvBufLen ++ stale)
        ((a.bytes id seq).take recvBufLen).length id seq = a.status := by
      obtain ⟨rest, hcut⟩ := a.take_bytes id seq
      rw [parse_reply_reads_received, hcut, parseReply_carrying a.header (a.isFront _),
        if_pos (And.intro rfl rfl), a.type_front]
      rfl
    rw [htaken, if_neg (show a.status ≠ -2 from statusOf_ne a.type)]
    rfl
  | timedOut now tNow rounds =>
    unfold Diag.receive
    split_ifs <;> rfl
  -- The time is over before the socket is read again.
  | late r rounds hnow =>
    unfold Diag.receive
    rw [if_pos hnow]
    rfl

/-- **A probe finds its answer.** Whatever IPv4 packets the socket receives in between that do not
    carry its numbers where an answer has them, a probe ends with its own answer, where it comes
    from and the time that it took, or with the timeout when there is none.  What answers depends on
    the TTL that the probe is sent with: the one that was asked for, if the socket took it. -/
theorem probe_finds_answer (id seq : UInt16) (ttl timeoutMs : Nat) (calls : Calls) (hop : Hop)
    (h : Shows id seq timeoutMs calls (calls.socketTtl ttl) hop) :
    (doProbe id seq ttl timeoutMs calls).2 = some hop.result := by
  unfold doProbe
  cases hop with
  | failed =>
    obtain h | h := h
    · rw [h]
      rfl
    · simp only [h, Bool.false_eq_true, if_false]
      split_ifs <;> rfl
  | silent | answer =>
    obtain ⟨hsocket, hsendto, hears⟩ := h
    rw [if_pos hsocket]
    dsimp only
    rw [if_pos hsendto]
    exact hears.receive

/-- A header without options. -/
def plainHeader : IpHeader := ⟨0x45 :: List.replicate 19 0, by decide, by decide⟩

/-- A header with four bytes of options. -/
def optionHeader : IpHeader := ⟨0x46 :: List.replicate 23 0, by decide, by decide⟩

/-- A router that drops a probe on its way. -/
def expiredOnTheWay : Answer := .error true optionHeader 0 0 0 plainHeader 0 []

/-- The router answers the probe before, and then this one. -/
theorem second_answer_found :
    (doProbe 7 2 2 1500 ⟨true, true, true, 64, fun _ =>
      [⟨0, some (expiredOnTheWay.bytes 7 1, 0x0A000001, []), 20⟩,
      ⟨20, some (expiredOnTheWay.bytes 7 2, 0x0A000001, []), 3900⟩]⟩).2 =
        some ⟨1, "10.0.0.1".toList, 3900⟩ := by
  refine (probe_finds_answer 7 2 2 1500 _ (.answer expiredOnTheWay 0x0A000001 3900)
    ⟨rfl, rfl, .other 0 20 _ _ _ _ _ (by decide) (expiredOnTheWay.unrelated (by decide)) ?_⟩).trans
    (by decide +kernel)
  exact .answer 20 3900 _ _ _ _ (by decide)

end SubnetRouter.Diag
