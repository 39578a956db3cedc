import SubnetRouter.FourVia6RoundTrip
import SubnetRouter.Lib.Checksum

namespace SubnetRouter.FourVia6

open Lib

/-!
# Checksums of the translated packets

Each translator fills one checksum field of the L4 part, over a pseudo-header of the new
addresses, and the request direction that of the IPv4 header as well.  The receivers' tests pass
for every packet that is emitted with its whole L4 header (`checksums_verify`).

* `NoWrap`, `checksumAdd_eq`, `checksumFinish_eq` — the 32-bit sum of the code is the sum.
* `V4Checksums`, `V6Checksums` — what the LAN host and the client test.
* `body_of_buildV4`, `mem_replyL4` — the packets before their checksum field is filled.
-/

/-! ### The sums of the code -/

/-- No addition of `checksum_add` wraps. The sum is 32 bits wide in the source and is only folded at
    the end. -/
def NoWrap : Nat → List UInt8 → Prop
  | sum, a :: b :: rest =>
    sum + (a.toNat * 256 + b.toNat) < 2 ^ 32 ∧ NoWrap (sum + (a.toNat * 256 + b.toNat)) rest
  | sum, [a] => sum + a.toNat * 256 < 2 ^ 32
  | _, [] => True

/-- The pseudo-header that `checksum_v4` sums up. -/
def pseudoV4 (src dst : Ip4) (protocol : UInt8) (length : Nat) : List UInt8 :=
  bytes32 src ++ bytes32 dst ++ [0, protocol] ++ bytes16 length

/-- The pseudo-header that `checksum_v6` sums up. -/
def pseudoV6 (src dst : List UInt8) (nextHeader : UInt8) (length : Nat) : List UInt8 :=
  src ++ (dst ++ (bytes32 (BitVec.ofNat 32 length) ++ [0, 0, 0, nextHeader]))

section Sums

variable {src dst : Ip4} {src6 dst6 data payload : List UInt8} {protocol : UInt8}

/-- A sum below 2^32 is reached without a wrap. -/
theorem noWrap_of_lt (sum : Nat) (h : sum + wordSum data < 2 ^ 32) : NoWrap sum data := by
  induction data using wordSum.induct generalizing sum with
  | case1 a b rest ih =>
    rw [wordSum, ← Nat.add_assoc] at h
    exact ⟨Nat.lt_of_le_of_lt (Nat.le_add_right _ _) h, ih _ h⟩
  | case2 a =>
    rw [wordSum] at h
    exact h
  | case3 => trivial

theorem checksumAdd_eq (sum : Nat) (h : sum + wordSum data < 2 ^ 32) :
    checksumAdd sum data = sum + wordSum data := by
  induction data using wordSum.induct generalizing sum with
  | case1 a b rest ih =>
    rw [wordSum, ← Nat.add_assoc] at h ⊢
    rw [checksumAdd, Nat.mod_eq_of_lt (Nat.lt_of_le_of_lt (Nat.le_add_right _ _) h), ih _ h]
  | case2 a =>
    rw [wordSum] at h ⊢
    rw [checksumAdd, Nat.mod_eq_of_lt h]
  | case3 =>
    rw [wordSum]
    rfl

/-- The carry loop does not change the 16-bit number. -/
theorem fold16_foldCarries (fuel n : Nat) : fold16 (foldCarries fuel n) = fold16 n := by
  induction fuel generalizing n with
  | zero => rfl
  | succ fuel ih =>
    rw [foldCarries]
    split_ifs
    · rfl
    · rw [ih, fold16_carry]

theorem foldCarries_of_lt (fuel : Nat) {n : Nat} (h : n < 65536) : foldCarries fuel n = n := by
  unfold foldCarries
  split
  · rfl
  · rw [if_pos (by omega)]

/-- The second round leaves no carry, and the first one a single carry at most. -/
theorem foldCarries_three_lt {sum : Nat} (h : sum < 2 ^ 32) : foldCarries 3 sum < 65536 := by
  have hsecond : ∀ n ≤ 131070, foldCarries 2 n < 65536 := by
    intro n hn
    rw [foldCarries]
    split_ifs with hsmall
    · omega
    · rw [foldCarries_of_lt 1 (by omega)]
      omega
  rw [foldCarries]
  split_ifs with hsmall
  · omega
  · exact hsecond _ (by omega)

theorem checksumFinish_eq {sum : Nat} (h : sum < 2 ^ 32) :
    checksumFinish sum = 65535 - fold16 sum := by
  have hlt := foldCarries_three_lt h
  rw [checksumFinish, ← fold16_foldCarries 3 sum, fold16_of_lt hlt, Nat.mod_eq_of_lt hlt]

/-- A sum may go on where another one has ended, unless at an odd byte. -/
theorem checksumAdd_append (sum : Nat) (h : data.length % 2 = 0) :
    checksumAdd sum (data ++ payload) = checksumAdd (checksumAdd sum data) payload := by
  induction data using wordSum.induct generalizing sum with
  | case1 a b rest ih =>
    have hrest : rest.length % 2 = 0 := by
      rw [List.length_cons, List.length_cons] at h
      omega
    exact ih _ hrest
  | case2 a => simp at h
  | case3 => rfl

/-- A payload, whose length is a 16-bit number, does not fill the accumulator, nor does it with
    the pseudo-header of IPv6 in front. -/
theorem wordSum_lt (h : data.length ≤ 40 + 65535) : 0 + wordSum data < 2 ^ 32 := by
  have hle := wordSum_le data
  have hhalf : (data.length + 1) / 2 ≤ 32788 := by omega
  have hmul := Nat.mul_le_mul_right 65535 hhalf
  omega

/-- **The sum of the code.** -/
theorem finish_checksumAdd (h : data.length ≤ 40 + 65535) :
    checksumFinish (checksumAdd 0 data) = 65535 - onesSum data := by
  have hlt := wordSum_lt h
  rw [checksumAdd_eq 0 hlt, checksumFinish_eq hlt, onesSum_eq, Nat.zero_add]

/-- `checksum_plain`. -/
theorem checksumPlain_eq (h : data.length < 65536) :
    checksumPlain data = 65535 - onesSum data :=
  finish_checksumAdd (by omega)

@[simp] theorem length_pseudoV4 (src dst : Ip4) (protocol : UInt8) (n : Nat) :
    (pseudoV4 src dst protocol n).length = 12 := rfl

theorem length_pseudoV6 (hsrc : src6.length = 16) (hdst : dst6.length = 16) (nextHeader : UInt8)
    (n : Nat) : (pseudoV6 src6 dst6 nextHeader n).length = 40 := by
  simp only [pseudoV6, List.length_append, hsrc, hdst, length_bytes32]
  rfl

/-- `checksum_v4`. -/
theorem checksumV4_eq (h : payload.length < 65536) :
    checksumV4 src dst protocol payload
      = 65535 - onesSum (pseudoV4 src dst protocol payload.length ++ payload) := by
  rw [← finish_checksumAdd (by rw [List.length_append, length_pseudoV4]; omega),
    checksumAdd_append 0 (by rw [length_pseudoV4])]
  rfl

/-- `checksum_v6`. -/
theorem checksumV6_eq (hsrc : src6.length = 16) (hdst : dst6.length = 16)
    (h : payload.length < 65536) :
    checksumV6 src6 dst6 protocol payload
      = 65535 - onesSum (pseudoV6 src6 dst6 protocol payload.length ++ payload) := by
  have hlen := length_pseudoV6 hsrc hdst protocol payload.length
  rw [← finish_checksumAdd (by rw [List.length_append, hlen]; omega),
    checksumAdd_append 0 (by rw [hlen]), pseudoV6, checksumAdd_append 0 (by rw [hsrc]),
    checksumAdd_append _ (by rw [hdst])]
  rfl

end Sums

/-! ### What the receivers test -/

/-- The L4 part of an IPv4 packet. -/
def l4Of (p : List UInt8) : List UInt8 := p.drop (headerLen p)

/-- The tests of an IPv4 host: the header, and the L4 part behind a pseudo-header of the header's
    addresses and protocol and the length of the L4 part, which ICMP does without. -/
structure V4Checksums (p : List UInt8) : Prop where
  header : Verifies (p.take (headerLen p))
  ports : byteAt p 9 ≠ 1 →
    Verifies (pseudoV4 (be32 p 12) (be32 p 16) (byteAt p 9) (l4Of p).length ++ l4Of p)
  icmp : byteAt p 9 = 1 → Verifies (l4Of p)
  udp : byteAt p 9 = 17 → be16 (l4Of p) 6 ≠ 0

/-- The tests of an IPv6 host; the pseudo-header is that of ICMPv6, too. -/
structure V6Checksums (p : List UInt8) : Prop where
  l4 : Verifies (pseudoV6 (copyPartial p 16 8) (copyPartial p 16 24) (byteAt p 6)
    (p.drop 40).length ++ p.drop 40)
  udp : byteAt p 6 = 17 → be16 (p.drop 40) 6 ≠ 0

/-- A UDP checksum of zero is sent as all ones. -/
def nonzeroForUdp (protocol : UInt8) (check : Nat) : Nat :=
  if protocol = 17 ∧ check = 0 then 0xffff else check

section Field

variable {protocol : UInt8} {data : List UInt8}

/-- What the code puts in the field complements the sum. -/
theorem complements_nonzeroForUdp :
    Complements (nonzeroForUdp protocol (65535 - onesSum data)) data := by
  have hlt : onesSum data < 65536 := by
    rw [onesSum_eq]
    exact fold16_lt _
  unfold nonzeroForUdp Complements
  split_ifs
  · right
    omega
  · exact .inl rfl

theorem nonzeroForUdp_udp (check : Nat) : nonzeroForUdp 17 check ≠ 0 := by
  unfold nonzeroForUdp
  split_ifs with h
  · decide
  · exact fun hzero => h ⟨rfl, hzero⟩

theorem nonzeroForUdp_lt : nonzeroForUdp protocol (65535 - onesSum data) < 65536 := by
  unfold nonzeroForUdp
  split_ifs <;> omega

/-- The field of a UDP datagram, once it is filled in. -/
theorem udpField_ne_zero {m : Memory} {off n : Nat} (hroom : 6 + 2 ≤ n) :
    be16 ((m.store (off + 6) (bytes16 (nonzeroForUdp 17 (65535 - onesSum data)))).load off n) 6
      ≠ 0 := by
  rw [Memory.be16_load _ _ hroom, Memory.be16_load_store, Nat.mod_eq_of_lt nonzeroForUdp_lt]
  exact nonzeroForUdp_udp _

end Field

/-! ### Requests -/

section Request

variable {r : Request} {payload : List UInt8} {peer : Ip4} {junk : Memory} {random : Nat}
  {v4 : V4Packet} {b : Buffer} {protocol : UInt8}

/-- The value of the checksum field of the L4 part. -/
def v4Check (r : Request) (peer : Ip4) (protocol : UInt8) (data : List UInt8) : Nat :=
  if protocol = 1 then checksumPlain data
  else nonzeroForUdp protocol (checksumV4 peer r.target protocol data)

/-- The IPv4 packet before its header is written: an L4 part with its checksum filled in, and zero
    where the header's own will be. -/
theorem body_of_buildV4 (h : buildV4 r payload peer junk random = some v4) :
    ∃ (body : Buffer) (m : Memory), v4.out = v4Header r peer random v4.key.protocol body ∧
      body.mem.load 10 2 = bytes16 0 ∧
      checksumOffset v4.key.protocol + 2 ≤ r.payloadLen ∧
      m.load (20 + checksumOffset v4.key.protocol) 2 = bytes16 0 ∧
      body.mem = m.store (20 + checksumOffset v4.key.protocol)
        (bytes16 (v4Check r peer v4.key.protocol (m.load 20 r.payloadLen))) := by
  have hzero : ∀ m : Memory, (m.store 0 (List.replicate 20 0)).load 10 2 = bytes16 0 :=
    fun _ => rfl
  unfold buildV4 at h
  simp only at h
  by_cases hproto : r.protocol = 6 ∨ r.protocol = 17
  · -- TCP and UDP: the field lies in the header that the length check asks for
    rw [if_pos hproto, Option.ite_none_left_eq_some, not_or] at h
    obtain ⟨⟨hmin, htcp⟩, h⟩ := h
    have hoff : (if r.protocol = 6 then 16 else 6) = checksumOffset r.protocol := by
      unfold checksumOffset
      rcases hproto with h6 | h17
      · rw [if_pos h6, if_pos h6]
      · rw [if_pos h17]
    have hnot : r.protocol ≠ 1 := by
      rcases hproto with h6 | h17
      · rw [h6]
        decide
      · rw [h17]
        decide
    have hroom : checksumOffset r.protocol + 2 ≤ r.payloadLen := by
      rw [← hoff]
      split_ifs with h6
      · rw [not_and] at htcp
        have := htcp h6
        omega
      · omega
    rw [hoff] at h
    rw [← Option.some.inj h]
    refine ⟨_, (((Buffer.alloc ((20 + r.payloadLen) % 65536) junk).store 0
      (List.replicate 20 0)).store 20 payload |>.store (20 + checksumOffset r.protocol)
        (bytes16 0)).mem, rfl, ?_, hroom, ?_, ?_⟩
    · simp only [Buffer.mem_store]
      rw [Memory.load_store_disjoint _ (.inl (by omega)),
        Memory.load_store_disjoint _ (.inl (by omega)),
        Memory.load_store_disjoint _ (.inl (by omega))]
      exact hzero junk
    · exact Memory.load_store_self _ (20 + checksumOffset r.protocol) (bytes16 0)
    · show Memory.store _ (20 + checksumOffset r.protocol) _ = _
      rw [v4Check, if_neg hnot]
      rfl
  · -- ICMP: the type is written before the field
    rw [if_neg hproto, Option.ite_none_left_eq_some, not_or] at h
    obtain ⟨⟨hmin, -⟩, h⟩ := h
    rw [← Option.some.inj h]
    refine ⟨_, ((((Buffer.alloc ((20 + r.payloadLen) % 65536) junk).store 0
      (List.replicate 20 0)).store 20 payload |>.store 20 [_]).store 22 (bytes16 0)).mem, rfl,
        ?_, ?_, ?_, rfl⟩
    · simp only [Buffer.mem_store]
      rw [Memory.load_store_disjoint _ (.inl (by omega)),
        Memory.load_store_disjoint _ (.inl (by omega)),
        Memory.load_store_disjoint _ (.inl (by omega)),
        Memory.load_store_disjoint _ (.inl (by omega))]
      exact hzero junk
    · show 2 + 2 ≤ r.payloadLen
      omega
    · exact Memory.load_store_self _ 22 (bytes16 0)

/-- The IPv4 header before its checksum is filled in: the field is as it was. -/
theorem mem_v4Header (r : Request) (peer : Ip4) (random : Nat) (protocol : UInt8) (b : Buffer) :
    ∃ m : Memory, (v4Header r peer random protocol b).mem
      = m.store 10 (bytes16 (checksumPlain (m.load 0 20))) ∧ m.load 10 2 = b.mem.load 10 2 := by
  refine ⟨_, rfl, ?_⟩
  simp only [Buffer.mem_store]
  rw [Memory.load_store_disjoint _ (.inl (by omega)),
    Memory.load_store_disjoint _ (.inl (by omega)),
    Memory.load_store_disjoint _ (.inr (by simp)),
    Memory.load_store_disjoint _ (.inr (by simp)),
    Memory.load_store_disjoint _ (.inr (by simp)),
    Memory.load_store_disjoint _ (.inr (by simp)),
    Memory.load_store_disjoint _ (.inr (by simp)),
    Memory.load_store_disjoint _ (.inr (by simp)),
    Memory.load_store_disjoint _ (.inr (by simp))]

theorem verifies_v4Header (hzero : b.mem.load 10 2 = bytes16 0) :
    Verifies ((v4Header r peer random protocol b).mem.load 0 20) := by
  obtain ⟨m, hmem, hfield⟩ := mem_v4Header r peer random protocol b
  have hsum : Complements (checksumPlain (m.load 0 20)) ([] ++ m.load 0 20) := by
    rw [checksumPlain_eq (by rw [Memory.length_load]; omega)]
    exact .inl rfl
  have hfilled := verifies_store (k := 10) rfl rfl (by omega) (hfield.trans hzero) hsum
  rw [hmem]
  exact hfilled

theorem load_v4Header_l4 (n : Nat) :
    (v4Header r peer random protocol b).mem.load 20 n = b.mem.load 20 n := by
  apply List.map_congr_left
  intro k _
  exact mem_v4Header_of_le (by omega)

theorem checksumOffset_even (protocol : UInt8) : checksumOffset protocol % 2 = 0 := by
  unfold checksumOffset
  split_ifs <;> rfl

/-- **Requests.** The header's checksum and that of the L4 part both verify, each stored over a
    field that was zero. -/
theorem v4Checksums_of_buildV4 (h : buildV4 r payload peer junk random = some v4)
    (hlen : payload.length = r.payloadLen) (hmax : 40 + r.payloadLen < 65536) :
    V4Checksums (v4.out.mem.load 0 v4.out.cap) := by
  obtain ⟨hcap, -⟩ := buildV4_inBounds h hlen hmax
  obtain ⟨body, m, hout, hheader, hroom, hfield, hbody⟩ := body_of_buildV4 h
  obtain ⟨hihl, hproto, hsrc, hdst⟩ :=
    fields_v4Header (r := r) (b := body) (show 20 ≤ v4.out.cap by omega)
  rw [← hout] at hihl hproto hsrc hdst
  have hl4 : l4Of (v4.out.mem.load 0 v4.out.cap) = body.mem.load 20 r.payloadLen := by
    rw [l4Of, hihl, Memory.drop_load _ _ (by omega), hcap, Nat.add_sub_cancel_left, hout]
    exact load_v4Header_l4 _
  have heven := checksumOffset_even v4.key.protocol
  have hdata : (m.load 20 r.payloadLen).length < 65536 := by
    rw [Memory.length_load]
    omega
  refine ⟨?_, ?_, ?_, ?_⟩
  · rw [hihl, Memory.take_load _ _ (by omega), hout]
    exact verifies_v4Header hheader
  · intro hnot
    rw [hproto] at hnot
    rw [hsrc, hdst, hproto, hl4, Memory.length_load, hbody]
    refine verifies_store (by rw [length_pseudoV4]) heven hroom hfield ?_
    rw [v4Check, if_neg hnot, checksumV4_eq hdata, Memory.length_load]
    exact complements_nonzeroForUdp
  · -- no pseudo-header
    intro hicmp
    rw [hproto] at hicmp
    rw [hl4, hbody, ← List.nil_append (Memory.load _ _ _)]
    refine verifies_store rfl heven hroom hfield ?_
    rw [v4Check, if_pos hicmp, checksumPlain_eq hdata]
    exact .inl rfl
  · intro hudp
    rw [hproto] at hudp
    rw [hudp] at hbody hroom
    have hcheck : v4Check r peer 17 (m.load 20 r.payloadLen) = nonzeroForUdp 17 (65535 - onesSum
        (pseudoV4 peer r.target 17 r.payloadLen ++ m.load 20 r.payloadLen)) := by
      rw [v4Check, if_neg (by decide), checksumV4_eq hdata, Memory.length_load]
    rw [hl4, hbody, hcheck]
    exact udpField_ne_zero hroom

end Request

/-! ### Replies -/

section Reply

variable {siteId : Nat} {r : Reply} {client : Ip6} {payload : List UInt8} {b : Buffer}
  {junk : Memory}

/-- The next header of the IPv6 packet. -/
def nextHeader (protocol : UInt8) : UInt8 := if protocol = 1 then 58 else protocol

/-- The IPv6 packet before its checksum field is filled in. -/
theorem mem_replyL4 (h : r.protocol = 6 ∨ r.protocol = 17 ∨ r.protocol = 1) :
    ∃ m : Memory, (replyL4 r b).mem = m.store (40 + checksumOffset r.protocol)
        (bytes16 (nonzeroForUdp (nextHeader r.protocol) (checksumV6 (m.load 8 16) (m.load 24 16)
          (nextHeader r.protocol) (m.load 40 r.payloadLen)))) ∧
      m.load (40 + checksumOffset r.protocol) 2 = bytes16 0 := by
  unfold replyL4
  rcases h with h6 | h17 | h1
  · rw [h6]
    exact ⟨_, rfl, Memory.load_store_self _ (40 + 16) (bytes16 0)⟩
  · rw [h17]
    exact ⟨_, rfl, Memory.load_store_self _ (40 + 6) (bytes16 0)⟩
  · rw [h1]
    exact ⟨_, rfl, Memory.load_store_self _ 42 (bytes16 0)⟩

theorem nextHeader_replyL4 {cap : Nat} (h : 6 < cap) :
    byteAt ((replyL4 r (replyBase siteId r client payload b)).mem.load 0 cap) 6
      = nextHeader r.protocol := by
  rw [Memory.byteAt_load _ _ h, Nat.zero_add, mem_replyL4_of_lt (by omega)]
  rfl

/-- The checksum field is part of the L4 header. -/
theorem checksumOffset_le (h : r.protocol = 6 ∨ r.protocol = 17 ∨ r.protocol = 1) :
    checksumOffset r.protocol + 2 ≤ l4HeaderLen (nextHeader r.protocol) := by
  rcases h with h6 | h17 | h1
  · rw [h6]
    decide
  · rw [h17]
    decide
  · rw [h1]
    decide

/-- **Replies.** The checksum is over the IPv6 pseudo-header, and is stored where the protocol has
    its field. -/
theorem v6Checksums_of_replyL4 (hproto : r.protocol = 6 ∨ r.protocol = 17 ∨ r.protocol = 1)
    (hroom : checksumOffset r.protocol + 2 ≤ r.payloadLen) (hmax : r.payloadLen < 65536) :
    V6Checksums ((replyL4 r (replyBase siteId r client payload b)).mem.load 0
      (40 + r.payloadLen)) := by
  obtain ⟨m, hmem, hfield⟩ := mem_replyL4 (b := replyBase siteId r client payload b) hproto
  -- what the client reads from the header is what the sum was taken over
  have hnext : byteAt ((replyL4 r (replyBase siteId r client payload b)).mem.load 0
      (40 + r.payloadLen)) 6 = nextHeader r.protocol := nextHeader_replyL4 (by omega)
  have haddress : ∀ off, off + 16 ≤ 40 → copyPartial ((replyL4 r (replyBase siteId r client
      payload b)).mem.load 0 (40 + r.payloadLen)) 16 off = m.load off 16 := by
    intro off hoff
    rw [copyPartial, Memory.drop_load _ _ (by omega), Memory.take_load _ _ (by omega), hmem,
      Memory.load_store_disjoint _ (.inl (by omega)), Nat.zero_add]
  have hl4 : ((replyL4 r (replyBase siteId r client payload b)).mem.load 0
      (40 + r.payloadLen)).drop 40 = (m.store (40 + checksumOffset r.protocol)
        (bytes16 (nonzeroForUdp (nextHeader r.protocol) (checksumV6 (m.load 8 16) (m.load 24 16)
          (nextHeader r.protocol) (m.load 40 r.payloadLen))))).load 40 r.payloadLen := by
    rw [Memory.drop_load _ _ (by omega), Nat.add_sub_cancel_left, ← hmem]
  have hsrc := Memory.length_load m 8 16
  have hdst := Memory.length_load m 24 16
  have hcheck : checksumV6 (m.load 8 16) (m.load 24 16) (nextHeader r.protocol)
      (m.load 40 r.payloadLen) = 65535 - onesSum (pseudoV6 (m.load 8 16) (m.load 24 16)
        (nextHeader r.protocol) r.payloadLen ++ m.load 40 r.payloadLen) := by
    rw [checksumV6_eq hsrc hdst (by rwa [Memory.length_load]), Memory.length_load]
  rw [hcheck] at hl4
  constructor
  · rw [haddress 8 (by omega), haddress 24 (by omega), hnext, hl4, Memory.length_load]
    refine verifies_store ?_ (checksumOffset_even _) hroom hfield complements_nonzeroForUdp
    rw [length_pseudoV6 hsrc hdst]
  · intro hudp
    have hprotocol : r.protocol = 17 := by
      rw [hnext, nextHeader] at hudp
      split_ifs at hudp with hicmp
      · exact absurd hudp (by decide)
      · exact hudp
    have hoff : checksumOffset r.protocol = 6 := by
      rw [hprotocol]
      rfl
    have hudp' : nextHeader r.protocol = 17 := by rw [← hnext, hudp]
    rw [hl4, hudp', hoff]
    exact udpField_ne_zero (by omega)

end Reply

/-! ### Both directions -/

/-- The IPv6 packet has its whole L4 header. -/
def HasL4Header (out : Buffer) : Prop :=
  40 + l4HeaderLen (byteAt (out.mem.load 0 out.cap) 6) ≤ out.cap

instance (out : Buffer) : Decidable (HasL4Header out) := inferInstanceAs (Decidable (_ ≤ _))

/-- **Checksums of the translated packets.** Every packet that is handed to the LAN, and every one
    that is handed to WireGuard with its whole L4 header, passes its receiver's tests; and no sum
    over a payload wraps. -/
theorem checksums_verify :
    (∀ (st st' : State) (packet : Option Pbuf) (peer : Option Ip4) (heap : Option Memory)
      (random : Nat) (now : Int) (taken : Bool) (out : Buffer),
      translateWgInput st packet peer heap random now = ((taken, some out), st') →
        V4Checksums (out.mem.load 0 out.cap)) ∧
    (∀ (st st' : State) (packet : Option Pbuf) (heap : Option Memory) (now : Int) (out : Buffer),
      translateWgOutput st packet heap now = (some out, st') → HasL4Header out →
        V6Checksums (out.mem.load 0 out.cap)) ∧
    ∀ payload : List UInt8, payload.length < 65536 →
      NoWrap 0 payload ∧
      (∀ src dst protocol, NoWrap 0 (pseudoV4 src dst protocol payload.length ++ payload)) ∧
      ∀ (src dst : Ip6) (protocol : UInt8),
        NoWrap 0 (pseudoV6 src.bytes dst.bytes protocol payload.length ++ payload) := by
  refine ⟨?_, ?_, ?_⟩
  · intro st st' packet peer heap random now taken out h
    obtain ⟨p, r, junk, v4, rfl, -, hdropped, -, hlen, hbuild, rfl, -⟩ :=
      translateWgInput_eq_some h
    have hroom := payloadLen_of_requestDropped hdropped
    have htot := p.tot_len_lt
    exact v4Checksums_of_buildV4 hbuild hlen (by omega)
  · intro st st' packet heap now out h hwhole
    obtain ⟨p, r, flows, flow, junk, rfl, hparse, -, -, -, rfl, -⟩ := translateWgOutput_eq_some h
    obtain ⟨hlen, -, -, hlt, hproto⟩ := parseReply_spec hparse
    rw [HasL4Header, cap_replyL4, cap_replyBase, Buffer.cap_alloc] at hwhole
    rw [cap_replyL4, cap_replyBase, Buffer.cap_alloc]
    -- a length that has wrapped leaves no room for any L4 header
    have hcap : (40 + r.payloadLen) % 65536 = 40 + r.payloadLen := by
      omega
    rw [hcap, nextHeader_replyL4 (by omega)] at hwhole
    rw [hcap]
    have hfield := checksumOffset_le hproto
    exact v6Checksums_of_replyL4 hproto (by omega) (by omega)
  · intro payload hlen
    have hnoWrap : ∀ pseudo : List UInt8, pseudo.length ≤ 40 → NoWrap 0 (pseudo ++ payload) := by
      intro pseudo hpseudo
      apply noWrap_of_lt 0
      apply wordSum_lt
      rw [List.length_append]
      omega
    refine ⟨hnoWrap [] (by simp), fun src dst protocol => hnoWrap _ (by simp), ?_⟩
    intro src dst protocol
    apply hnoWrap
    exact Nat.le_of_eq (length_pseudoV6 src.length_eq dst.length_eq _ _)

/-- A UDP request and an answer of eight bytes. -/
theorem udp_checksums_verify :
    (∃ sent st', translateWgInput freshSite.st (some udpRequest) (some 0x64400001#32)
      (some fun _ => 0) 0 0 = ((true, some sent), st') ∧
        V4Checksums (sent.mem.load 0 sent.cap)) ∧
    ∃ out st', translateWgOutput (siteWithFlow 17) (some (eightByteReply 17)) (some fun _ => 0) 0
      = (some out, st') ∧ HasL4Header out ∧ V6Checksums (out.mem.load 0 out.cap) := by
  constructor
  · obtain ⟨sent, st', h, -⟩ := udpRequest_sent
    exact ⟨sent, st', h, checksums_verify.1 _ _ _ _ _ _ _ _ _ h⟩
  · have hwhole : (translateWgOutput (siteWithFlow 17) (some (eightByteReply 17))
        (some fun _ => 0) 0).1.map (fun out => decide (HasL4Header out)) = some true := by
      decide +kernel
    have hsome : (translateWgOutput (siteWithFlow 17) (some (eightByteReply 17))
        (some fun _ => 0) 0).1.isSome := by decide +kernel
    obtain ⟨out, st', h⟩ := exists_of_isSome hsome
    rw [h, Option.map_some, Option.some.injEq, decide_eq_true_eq] at hwhole
    exact ⟨out, st', h, hwhole, checksums_verify.2.1 _ _ _ _ _ _ h hwhole⟩

end SubnetRouter.FourVia6
