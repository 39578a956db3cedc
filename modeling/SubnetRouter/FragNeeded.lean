import SubnetRouter.Lib.Checksum
import SubnetRouter.Net.Ip4

namespace SubnetRouter.NetifHooks

open Lib

/-!
# The answer to a packet that is too long (`main/netif_hooks.c`)

`send_icmp_frag_needed` tells a client of the access point that its packet does not fit the tunnel
and may not be fragmented.  The answer quotes the packet's IP header, whose length is a field of
the packet, and up to eight bytes behind it.

* `Segment`, `Exchange` — what came in, and what was read and sent.
* `sendIcmpFragNeeded` — the call.
* `isFragNeeded_fragNeededReply` — the answer, whatever is quoted.
* `quotes_received_iff` — the packets that are answered from received bytes only.
-/

/-! ### The call -/

/-- The first pbuf of a chain: `p->len` bytes at `p->payload`, and what lies behind them. -/
structure Segment where
  mem : Memory
  len : Nat
  len_lt : len < 65536

/-- What a call reads of the frame, as ranges of offset and length, and what it sends. -/
structure Exchange where
  reads : List (Nat × Nat)
  sent : Option Buffer

/-- The lengths of the answer: the quoted header, and the quoted bytes behind it. -/
def availData (len ihl : Nat) : Nat :=
  let avail := if 14 + ihl < len then len - 14 - ihl else 0
  if 8 < avail then 8 else avail

/-- The answer up to the ICMP header: Ethernet with the addresses swapped, IPv4 from the netif. The
    IPv4 checksum is complete, as nothing behind it is covered. -/
def fragNeededHeaders (inetChksum : List UInt8 → Nat) (eth : Memory) (netifIp : Ip4)
    (icmpTotal : Nat) (junk : Memory) : Buffer :=
  let frameLen := 14 + (20 + icmpTotal)
  let b := (Buffer.alloc frameLen junk).store 0 (List.replicate frameLen 0)
    |>.store 0 (eth.load 6 6) |>.store 6 (eth.load 0 6) |>.store 12 [0x08, 0x00]
    |>.store 14 [0x45] |>.store 15 [0] |>.store 16 (bytes16 (20 + icmpTotal))
    |>.store 18 (bytes16 0) |>.store 20 (bytes16 0) |>.store 22 [64] |>.store 23 [1]
    |>.store 24 (bytes16 0) |>.store 26 (bytes32 netifIp) |>.store 30 (eth.load 26 4)
  b.store 24 (bytes16 (inetChksum (b.mem.load 14 20)))

/-- The whole answer; `inet_chksum` gives the value of the field. It quotes the header and the first
    bytes of the payload, as far as the frame has them in its first segment. -/
def fragNeededReply (inetChksum : List UInt8 → Nat) (eth : Memory) (netifIp : Ip4) (mtu : UInt16)
    (ihl avail : Nat) (junk : Memory) : Buffer :=
  let icmpTotal := 4 + (4 + ihl + avail)
  let b := (fragNeededHeaders inetChksum eth netifIp icmpTotal junk).store 34 [3] |>.store 35 [4]
    |>.store 36 [0, 0] |>.store 38 [0, 0] |>.store 40 (bytes16 mtu.toNat)
    |>.store 42 (eth.load 14 ihl)
  let b := if 0 < avail then b.store (42 + ihl) (eth.load (14 + ihl) avail) else b
  b.store 36 (bytes16 (inetChksum (b.mem.load 34 icmpTotal)))

/-- What is read for the answer. -/
def replyReads (ihl avail : Nat) : List (Nat × Nat) :=
  [(6, 6), (0, 6), (26, 4), (14, ihl)] ++ if 0 < avail then [(14 + ihl, avail)] else []

/-- `send_icmp_frag_needed`.  `netif` is the address of the netif, `linkoutput` whether there is a
    saved output function, `heap` the outcome of `pbuf_alloc`. -/
def sendIcmpFragNeeded (inetChksum : List UInt8 → Nat) (p : Option Segment) (netif : Option Ip4)
    (linkoutput : Bool) (mtu : UInt16) (heap : Option Memory) : Exchange :=
  match p, netif, linkoutput with
  | some p, some netifIp, true =>
    let eth := p.mem
    -- the length of the IP header is not known yet: room for the shortest one
    if p.len < 14 + 20 then ⟨[], none⟩
    else if eth 12 ≠ 0x08 then ⟨[(12, 1)], none⟩
    else if eth 13 ≠ 0x00 then ⟨[(12, 1), (13, 1)], none⟩
    else
      let reads := [(12, 1), (13, 1), (14, 1)]
      let vhl := (eth 14).toNat
      if vhl / 16 ≠ 4 then ⟨reads, none⟩
      else
        let reads := reads ++ [(16, 2)]
        if be16 (eth.load 16 2) 0 ≤ mtu.toNat then ⟨reads, none⟩
        else
          let reads := reads ++ [(20, 2)]
          let flagsOffset := be16 (eth.load 20 2) 0
          -- IP_DF, then IP_OFFMASK
          if flagsOffset / 0x4000 % 2 = 0 ∨ flagsOffset % 0x2000 ≠ 0 then ⟨reads, none⟩
          else
            -- no answer to ICMP
            let reads := reads ++ [(23, 1)]
            if eth 23 = 1 then ⟨reads, none⟩
            else
              let ihl := vhl % 16 * 4
              if ihl < 20 ∨ 60 < ihl then ⟨reads, none⟩
              else
                let avail := availData p.len ihl
                match heap with
                | none => ⟨reads, none⟩
                | some junk => ⟨reads ++ replyReads ihl avail,
                    some (fragNeededReply inetChksum eth netifIp mtu ihl avail junk)⟩
  | _, _, _ => ⟨[], none⟩

/-! ### What is expected of it -/

/-- An ICMP message of type 3 and code 4 in an IPv4 packet in an Ethernet frame, with a checksum
    over all that is behind the IP header. -/
structure IsFragNeeded (out : Buffer) : Prop where
  etherType : be16 (out.mem.load 12 2) 0 = 0x0800
  versionIhl : out.mem 14 = 0x45
  protocol : out.mem 23 = 1
  totalLength : 14 + be16 (out.mem.load 16 2) 0 = out.cap
  headerChecksum : Verifies (out.mem.load 14 20)
  type : out.mem 34 = 3
  code : out.mem 35 = 4
  checksum : Verifies (out.mem.load 34 (out.cap - 34))

/-- The call reads received bytes, writes into its buffer, and sends such a message or nothing. -/
structure QuotesReceived (p : Segment) (x : Exchange) : Prop where
  reads : ∀ r ∈ x.reads, ∀ i, r.1 ≤ i → i < r.1 + r.2 → i < p.len
  writes : ∀ out ∈ x.sent, out.InBounds
  message : ∀ out ∈ x.sent, IsFragNeeded out

/-- The frame calls for an answer: IPv4, longer than the MTU, not to be fragmented and no later
    fragment, not ICMP, with a possible header length. -/
def MayAnswer (p : Segment) (mtu : UInt16) : Prop :=
  34 ≤ p.len ∧ p.mem 12 = 0x08 ∧ p.mem 13 = 0x00 ∧ (p.mem 14).toNat / 16 = 4 ∧
    mtu.toNat < be16 (p.mem.load 16 2) 0 ∧ be16 (p.mem.load 20 2) 0 / 0x4000 % 2 = 1 ∧
    be16 (p.mem.load 20 2) 0 % 0x2000 = 0 ∧ p.mem 23 ≠ 1 ∧ 20 ≤ (p.mem 14).toNat % 16 * 4

instance (p : Segment) (mtu : UInt16) : Decidable (MayAnswer p mtu) :=
  inferInstanceAs (Decidable (_ ∧ _))

/-- An answer is sent. -/
def Answered (p : Segment) (netif : Option Ip4) (linkoutput : Bool) (mtu : UInt16)
    (heap : Option Memory) : Prop :=
  netif.isSome ∧ linkoutput = true ∧ heap.isSome ∧ MayAnswer p mtu

/-- The IP header has been received with all its options. -/
def HeaderReceived (p : Segment) : Prop := 14 + (p.mem 14).toNat % 16 * 4 ≤ p.len

/-! ### The answer -/

section Reply

variable {inetChksum : List UInt8 → Nat} {eth junk : Memory} {netifIp : Ip4} {mtu : UInt16}
  {icmpTotal ihl avail : Nat}

/-- The answer before its ICMP checksum, which is taken over the header, the MTU and the quote. -/
def fragNeededBody (inetChksum : List UInt8 → Nat) (eth : Memory) (netifIp : Ip4) (mtu : UInt16)
    (ihl avail : Nat) (junk : Memory) : Memory :=
  let icmpTotal := 4 + (4 + ihl + avail)
  let m := (fragNeededHeaders inetChksum eth netifIp icmpTotal junk).mem.store 34 [3]
    |>.store 35 [4] |>.store 36 [0, 0] |>.store 38 [0, 0] |>.store 40 (bytes16 mtu.toNat)
    |>.store 42 (eth.load 14 ihl)
  m.store (42 + ihl) (eth.load (14 + ihl) avail)

theorem mem_fragNeededReply : (fragNeededReply inetChksum eth netifIp mtu ihl avail junk).mem
    = (fragNeededBody inetChksum eth netifIp mtu ihl avail junk).store 36 (bytes16 (inetChksum
        ((fragNeededBody inetChksum eth netifIp mtu ihl avail junk).load 34
          (4 + (4 + ihl + avail))))) := by
  unfold fragNeededReply fragNeededBody
  dsimp only
  split_ifs with havail
  · rfl
  · -- nothing is stored behind the quoted header
    obtain rfl : avail = 0 := by omega
    have hnil : ∀ (m : Memory) (off : Nat), m.store off (eth.load (14 + ihl) 0) = m := by
      intro m off
      funext i
      refine Memory.store_disjoint m ?_
      rw [Memory.length_load]
      omega
    simp only [hnil]
    rfl

theorem cap_fragNeededReply : (fragNeededReply inetChksum eth netifIp mtu ihl avail junk).cap
    = 34 + (8 + ihl + avail) := by
  unfold fragNeededReply fragNeededHeaders
  dsimp only
  split_ifs <;> simp only [Buffer.cap_store, Buffer.cap_alloc] <;> omega

/-- All writes stay in the buffer. -/
theorem inBounds_fragNeededReply :
    (fragNeededReply inetChksum eth netifIp mtu ihl avail junk).InBounds := by
  unfold fragNeededReply fragNeededHeaders
  dsimp only
  split_ifs <;>
    simp only [Buffer.inBounds_store, Buffer.inBounds_alloc, Buffer.cap_store, Buffer.cap_alloc,
      List.length_replicate, Memory.length_load, length_bytes16, length_bytes32,
      List.length_cons, List.length_nil, true_and] <;>
    omega

/-- The ICMP header and what is quoted lie behind the IP header. -/
theorem load_fragNeededBody_headers {off n : Nat} (h : off + n ≤ 34) :
    (fragNeededBody inetChksum eth netifIp mtu ihl avail junk).load off n
      = (fragNeededHeaders inetChksum eth netifIp (4 + (4 + ihl + avail)) junk).mem.load off n := by
  unfold fragNeededBody
  dsimp only
  rw [Memory.load_store_disjoint _ (.inl (by omega)),
    Memory.load_store_disjoint _ (.inl (by omega)),
    Memory.load_store_disjoint _ (.inl (by omega)),
    Memory.load_store_disjoint _ (.inl (by omega)),
    Memory.load_store_disjoint _ (.inl (by omega)),
    Memory.load_store_disjoint _ (.inl (by omega)),
    Memory.load_store_disjoint _ (.inl (by omega))]

/-- Type, code and an empty checksum field. -/
theorem load_fragNeededBody_icmp :
    (fragNeededBody inetChksum eth netifIp mtu ihl avail junk).load 34 4 = [3, 4, 0, 0] := by
  unfold fragNeededBody
  dsimp only
  rw [Memory.load_store_disjoint _ (.inl (by omega)),
    Memory.load_store_disjoint _ (.inl (by omega)),
    Memory.load_store_disjoint _ (.inl (by omega)),
    Memory.load_store_disjoint _ (.inl (by omega))]
  rfl

theorem load_fragNeededHeaders (inetChksum : List UInt8 → Nat) (eth junk : Memory) (netifIp : Ip4)
    (icmpTotal : Nat) :
    (fragNeededHeaders inetChksum eth netifIp icmpTotal junk).mem.load 12 2 = [0x08, 0x00] ∧
      (fragNeededHeaders inetChksum eth netifIp icmpTotal junk).mem.load 14 1 = [0x45] ∧
      (fragNeededHeaders inetChksum eth netifIp icmpTotal junk).mem.load 16 2
        = bytes16 (20 + icmpTotal) ∧
      (fragNeededHeaders inetChksum eth netifIp icmpTotal junk).mem.load 23 1 = [1] :=
  ⟨rfl, rfl, rfl, rfl⟩

/-- `inet_chksum` is the checksum of RFC 1071. -/
def IsInetChksum (inetChksum : List UInt8 → Nat) : Prop :=
  ∀ data, inetChksum data = 65535 - onesSum data

theorem verifies_fragNeededHeaders (hchksum : IsInetChksum inetChksum) :
    Verifies ((fragNeededHeaders inetChksum eth netifIp icmpTotal junk).mem.load 14 20) := by
  obtain ⟨m, hmem, hzero⟩ : ∃ m : Memory,
      (fragNeededHeaders inetChksum eth netifIp icmpTotal junk).mem
        = m.store 24 (bytes16 (inetChksum (m.load 14 20))) ∧ m.load 24 2 = bytes16 0 :=
    ⟨_, rfl, rfl⟩
  have hsum : Complements (inetChksum (m.load 14 20)) ([] ++ m.load 14 20) := .inl (hchksum _)
  have hfilled := verifies_store (k := 10) rfl rfl (by omega) hzero hsum
  rw [hmem]
  exact hfilled

/-- A byte is a range of length one. -/
theorem mem_of_load {m : Memory} {i : Nat} {b : UInt8} (h : m.load i 1 = [b]) : m i = b := by
  have hbyte : byteAt (m.load i 1) 0 = m i := Memory.byteAt_load m i Nat.one_pos
  rw [h] at hbyte
  exact hbyte.symm

/-- **The answer**, whatever is quoted. Both checksums are the last bytes stored in their
    headers. -/
theorem isFragNeeded_fragNeededReply (hchksum : IsInetChksum inetChksum) (hihl : ihl ≤ 60)
    (havail : avail ≤ 8) :
    IsFragNeeded (fragNeededReply inetChksum eth netifIp mtu ihl avail junk) := by
  have hheaders : ∀ off n, off + n ≤ 34 →
      (fragNeededReply inetChksum eth netifIp mtu ihl avail junk).mem.load off n
        = (fragNeededHeaders inetChksum eth netifIp (4 + (4 + ihl + avail))
            junk).mem.load off n := by
    intro off n h
    rw [mem_fragNeededReply, Memory.load_store_disjoint _ (.inl (by omega)),
      load_fragNeededBody_headers h]
  have hicmp : (fragNeededReply inetChksum eth netifIp mtu ihl avail junk).mem.load 34 2
      = [3, 4] := by
    rw [mem_fragNeededReply, Memory.load_store_disjoint _ (.inl (by omega)),
      ← Memory.take_load _ 34 (show 2 ≤ 4 by omega), load_fragNeededBody_icmp]
    rfl
  have htype : byteAt ((fragNeededReply inetChksum eth netifIp mtu ihl avail junk).mem.load 34 2) 0
      = 3 := by
    rw [hicmp]
    rfl
  have hcode : byteAt ((fragNeededReply inetChksum eth netifIp mtu ihl avail junk).mem.load 34 2) 1
      = 4 := by
    rw [hicmp]
    rfl
  -- what the sum is taken of has an empty field
  have hzero : (fragNeededBody inetChksum eth netifIp mtu ihl avail junk).load (34 + 2) 2
      = bytes16 0 := by
    have hdrop := Memory.drop_load (fragNeededBody inetChksum eth netifIp mtu ihl avail junk) 34
      (show 2 ≤ 4 by omega)
    rw [load_fragNeededBody_icmp] at hdrop
    exact hdrop.symm
  obtain ⟨hether, hversion, hlength, hprotocol⟩ :=
    load_fragNeededHeaders inetChksum eth junk netifIp (4 + (4 + ihl + avail))
  refine ⟨?_, ?_, ?_, ?_, ?_, ?_, ?_, ?_⟩
  · rw [hheaders 12 2 (by omega), hether]
    rfl
  · exact mem_of_load ((hheaders 14 1 (by omega)).trans hversion)
  · exact mem_of_load ((hheaders 23 1 (by omega)).trans hprotocol)
  · have hvalue : be16 (bytes16 (20 + (4 + (4 + ihl + avail)))) 0
        = (20 + (4 + (4 + ihl + avail))) % 65536 := toNat_bytes16 _
    rw [hheaders 16 2 (by omega), hlength, cap_fragNeededReply, hvalue]
    omega
  · rw [hheaders 14 20 (by omega)]
    exact verifies_fragNeededHeaders hchksum
  · rwa [Memory.byteAt_load _ _ (by omega)] at htype
  · rwa [Memory.byteAt_load _ _ (by omega)] at hcode
  · have hlen : 34 + (8 + ihl + avail) - 34 = 4 + (4 + ihl + avail) := by omega
    have hfilled := verifies_store (k := 2) rfl rfl (by omega) hzero (.inl (hchksum ([] ++
      (fragNeededBody inetChksum eth netifIp mtu ihl avail junk).load 34
        (4 + (4 + ihl + avail)))))
    rw [cap_fragNeededReply, mem_fragNeededReply, hlen]
    exact hfilled

end Reply

/-! ### The call -/

section Call

variable {inetChksum : List UInt8 → Nat} {p : Segment} {netif : Option Ip4} {linkoutput : Bool}
  {mtu : UInt16} {heap : Option Memory}

/-- What the checks read. -/
def checkReads : List (Nat × Nat) := [(12, 1), (13, 1), (14, 1), (16, 2), (20, 2), (23, 1)]

/-- A frame that is answered. -/
theorem sendIcmpFragNeeded_of_mayAnswer (h : MayAnswer p mtu) (netifIp : Ip4) (junk : Memory) :
    sendIcmpFragNeeded inetChksum (some p) (some netifIp) true mtu (some junk) =
      ⟨checkReads ++ replyReads ((p.mem 14).toNat % 16 * 4)
          (availData p.len ((p.mem 14).toNat % 16 * 4)),
        some (fragNeededReply inetChksum p.mem netifIp mtu ((p.mem 14).toNat % 16 * 4)
          (availData p.len ((p.mem 14).toNat % 16 * 4)) junk)⟩ := by
  obtain ⟨hlen, h12, h13, hversion, hlong, hdf, hoffset, hproto, hihl⟩ := h
  unfold sendIcmpFragNeeded
  dsimp only
  rw [if_neg (by omega), if_neg (not_not.mpr h12), if_neg (not_not.mpr h13),
    if_neg (not_not.mpr hversion), if_neg (by omega), if_neg (by omega), if_neg hproto,
    if_neg (by omega)]
  rfl

/-- A frame that is not answered: nothing is sent, and of the frame the first 34 bytes are read at
    most, if it has them. -/
theorem sendIcmpFragNeeded_of_not_answered (inetChksum : List UInt8 → Nat)
    (h : ¬ Answered p netif linkoutput mtu heap) :
    (sendIcmpFragNeeded inetChksum (some p) netif linkoutput mtu heap).sent = none ∧
      ∀ r ∈ (sendIcmpFragNeeded inetChksum (some p) netif linkoutput mtu heap).reads,
        r.1 + r.2 ≤ 34 ∧ 34 ≤ p.len := by
  have hsilent : ∀ reads : List (Nat × Nat), (∀ r ∈ reads, r.1 + r.2 ≤ 34) → 34 ≤ p.len →
      (Exchange.mk reads none).sent = none ∧
        ∀ r ∈ (Exchange.mk reads none).reads, r.1 + r.2 ≤ 34 ∧ 34 ≤ p.len :=
    fun reads hreads hlen => ⟨rfl, fun r hr => ⟨hreads r hr, hlen⟩⟩
  rcases netif with _ | netifIp
  · exact ⟨rfl, by simp [sendIcmpFragNeeded]⟩
  rcases linkoutput with _ | _
  · exact ⟨rfl, by simp [sendIcmpFragNeeded]⟩
  unfold sendIcmpFragNeeded
  dsimp only
  -- one check after the other
  by_cases hlen : p.len < 14 + 20
  · rw [if_pos hlen]
    exact ⟨rfl, fun r hr => absurd hr List.not_mem_nil⟩
  rw [if_neg hlen]
  by_cases h12 : p.mem 12 ≠ 0x08
  · rw [if_pos h12]
    exact hsilent _ (by decide) (by omega)
  rw [if_neg h12]
  by_cases h13 : p.mem 13 ≠ 0x00
  · rw [if_pos h13]
    exact hsilent _ (by decide) (by omega)
  rw [if_neg h13]
  by_cases hversion : (p.mem 14).toNat / 16 ≠ 4
  · rw [if_pos hversion]
    exact hsilent _ (by decide) (by omega)
  rw [if_neg hversion]
  by_cases hlong : be16 (p.mem.load 16 2) 0 ≤ mtu.toNat
  · rw [if_pos hlong]
    exact hsilent _ (by decide) (by omega)
  rw [if_neg hlong]
  by_cases hflags : be16 (p.mem.load 20 2) 0 / 0x4000 % 2 = 0 ∨
      be16 (p.mem.load 20 2) 0 % 0x2000 ≠ 0
  · rw [if_pos hflags]
    exact hsilent _ (by decide) (by omega)
  rw [if_neg hflags]
  by_cases hproto : p.mem 23 = 1
  · rw [if_pos hproto]
    exact hsilent _ (by decide) (by omega)
  rw [if_neg hproto]
  by_cases hihl : (p.mem 14).toNat % 16 * 4 < 20 ∨ 60 < (p.mem 14).toNat % 16 * 4
  · rw [if_pos hihl]
    exact hsilent _ (by decide) (by omega)
  rw [if_neg hihl]
  rcases heap with _ | junk
  · exact hsilent _ (by decide) (by omega)
  · refine absurd ⟨rfl, rfl, rfl, ?_⟩ h
    exact ⟨by omega, not_not.mp h12, not_not.mp h13, not_not.mp hversion, by omega, by omega,
      by omega, hproto, by omega⟩

/-- The quoted bytes behind the header have been received. -/
theorem availData_spec (len ihl : Nat) :
    availData len ihl ≤ 8 ∧ (0 < availData len ihl → 14 + ihl + availData len ihl ≤ len) := by
  unfold availData
  dsimp only
  split_ifs <;> omega

/-- An answered frame is read up to its 34th byte, then its IP header, then what is quoted behind
    it. -/
theorem mem_reads {ihl avail : Nat} {r : Nat × Nat} (h : r ∈ checkReads ++ replyReads ihl avail) :
    r.1 + r.2 ≤ 34 ∨ r = (14, ihl) ∨ 0 < avail ∧ r = (14 + ihl, avail) := by
  have hchecks : ∀ r ∈ checkReads ++ [(6, 6), (0, 6), (26, 4)], r.1 + r.2 ≤ 34 := by decide
  have hsplit : checkReads ++ replyReads ihl avail
      = (checkReads ++ [(6, 6), (0, 6), (26, 4)]) ++
        ((14, ihl) :: if 0 < avail then [(14 + ihl, avail)] else []) := rfl
  rw [hsplit, List.mem_append, List.mem_cons] at h
  rcases h with hfirst | hheader | hbehind
  · exact .inl (hchecks r hfirst)
  · exact .inr (.inl hheader)
  · split_ifs at hbehind with hpos
    · exact .inr (.inr ⟨hpos, List.mem_singleton.mp hbehind⟩)
    · cases hbehind

/-- A frame that is not answered is looked at as far as it has been received. -/
theorem quotesReceived_of_not_answered (inetChksum : List UInt8 → Nat)
    (h : ¬ Answered p netif linkoutput mtu heap) :
    QuotesReceived p (sendIcmpFragNeeded inetChksum (some p) netif linkoutput mtu heap) := by
  obtain ⟨hsent, hreads⟩ := sendIcmpFragNeeded_of_not_answered inetChksum h
  refine ⟨?_, ?_, ?_⟩
  · intro r hr i hlo hhi
    have hfirst := hreads r hr
    omega
  · intro out hout
    rw [hsent] at hout
    cases hout
  · intro out hout
    rw [hsent] at hout
    cases hout

/-- An answer quotes received bytes if and only if the header has been received. The header is
    copied by its own length, without a look at that of the segment. -/
theorem quotesReceived_answer_iff (hchksum : IsInetChksum inetChksum) (hmay : MayAnswer p mtu)
    (netifIp : Ip4) (junk : Memory) :
    QuotesReceived p (sendIcmpFragNeeded inetChksum (some p) (some netifIp) true mtu (some junk)) ↔
      HeaderReceived p := by
  have hlen := hmay.1
  obtain ⟨havail, hbehind⟩ := availData_spec p.len ((p.mem 14).toNat % 16 * 4)
  rw [sendIcmpFragNeeded_of_mayAnswer hmay, HeaderReceived]
  constructor
  · -- the last byte of the quoted header
    intro hquotes
    by_contra hshort
    have hread := hquotes.reads (14, (p.mem 14).toNat % 16 * 4) (by simp [replyReads])
      (14 + (p.mem 14).toNat % 16 * 4 - 1)
    dsimp only at hread
    omega
  · intro hheader
    refine ⟨?_, ?_, ?_⟩
    · intro r hr i hlo hhi
      rcases mem_reads hr with hfirst | rfl | ⟨hpos, rfl⟩
      · omega
      · exact Nat.lt_of_lt_of_le hhi hheader
      · exact Nat.lt_of_lt_of_le hhi (hbehind hpos)
    · rintro out hout
      obtain rfl := Option.some.inj hout
      exact inBounds_fragNeededReply
    · rintro out hout
      obtain rfl := Option.some.inj hout
      exact isFragNeeded_fragNeededReply hchksum (by omega) havail

/-- **Quoted bytes.** A frame is handled with received bytes only if and only if it is not answered
    or its IP header has been received as a whole.  In any case the answer is an ICMP message that
    the code has room for. -/
theorem quotes_received_iff (hchksum : IsInetChksum inetChksum) :
    QuotesReceived p (sendIcmpFragNeeded inetChksum (some p) netif linkoutput mtu heap) ↔
      (Answered p netif linkoutput mtu heap → HeaderReceived p) := by
  by_cases hanswered : Answered p netif linkoutput mtu heap
  · obtain ⟨hnetif, rfl, hheap, hmay⟩ := hanswered
    obtain ⟨netifIp, rfl⟩ := Option.isSome_iff_exists.mp hnetif
    obtain ⟨junk, rfl⟩ := Option.isSome_iff_exists.mp hheap
    rw [forall_prop_of_true ⟨rfl, rfl, rfl, hmay⟩]
    exact quotesReceived_answer_iff hchksum hmay netifIp junk
  · exact iff_of_true (quotesReceived_of_not_answered inetChksum hanswered)
      fun h => absurd h hanswered

end Call

/-- A UDP packet of 1500 bytes that may not be fragmented; the first `len` bytes of its frame have
    been received in the first pbuf. -/
def longFrame (versionIhl : UInt8) (len : Nat) (h : len < 65536) : Segment :=
  ⟨fun i => byteAt [2, 0, 0, 0, 0, 1, 2, 0, 0, 0, 0, 2, 0x08, 0x00, versionIhl, 0, 0x05, 0xdc, 0, 0,
    0x40, 0, 64, 17, 0, 0, 192, 168, 4, 2, 8, 8, 8, 8] i, len, h⟩

/-- The usual header, and eight bytes behind it. -/
theorem longFrame_quoted :
    let x := sendIcmpFragNeeded (fun data => 65535 - onesSum data)
      (some (longFrame 0x45 42 (by decide))) (some 0xC0A80401#32) true 1280 (some fun _ => 0)
    x.sent.isSome ∧ QuotesReceived (longFrame 0x45 42 (by decide)) x := by
  refine ⟨by decide +kernel, (quotes_received_iff fun _ => rfl).mpr fun _ => ?_⟩
  unfold HeaderReceived
  decide

/-- A header of 60 bytes by its own account, of which 20 have been received. -/
theorem unreceived_options_quoted :
    ¬ ∀ (inetChksum : List UInt8 → Nat), IsInetChksum inetChksum → ∀ (p : Segment)
      (netif : Option Ip4) (linkoutput : Bool) (mtu : UInt16) (heap : Option Memory),
      QuotesReceived p (sendIcmpFragNeeded inetChksum (some p) netif linkoutput mtu heap) := by
  intro h
  have hquotes := h (fun data => 65535 - onesSum data) (fun _ => rfl)
    (longFrame 0x4f 34 (by decide)) (some 0xC0A80401#32) true 1280 (some fun _ => 0)
  have hmay : MayAnswer (longFrame 0x4f 34 (by decide)) 1280 := by decide
  rw [sendIcmpFragNeeded_of_mayAnswer hmay] at hquotes
  have hread := hquotes.reads (14, 60) (by decide) 73 (by decide) (by decide)
  exact absurd hread (by decide)

end SubnetRouter.NetifHooks
