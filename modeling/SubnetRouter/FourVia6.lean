import Mathlib.Algebra.Group.Nat.Defs
import Mathlib.Algebra.Group.Int.Defs
import SubnetRouter.Lib.Memory
import SubnetRouter.Net.Ip4

namespace SubnetRouter.FourVia6

open Lib

/-!
# The 4via6 translator (`main/fourvia6.c`)

Inner WireGuard IPv6 packets to `fd7a:115c:a1e0:b1a:0:<site>:<v4>` become IPv4 towards the
LAN; a table of 48 flows turns the LAN's replies back into IPv6.

* `flowRemember`, `flowLookup` — the flow table.
* `translateWgInput` — `fourvia6_translate_wg_input`: IPv6 request to IPv4.
* `translateWgOutput` — `fourvia6_translate_wg_output`: IPv4 reply to IPv6.

Both translators build their packet in a `Buffer`, so that every byte they write is on
record.
-/

/-! ### State -/

/-- An IPv6 address: sixteen bytes in network order. -/
@[ext] structure Ip6 where
  bytes : List UInt8
  length_eq : bytes.length = 16
deriving DecidableEq, Repr

/-- The address `::`. -/
def Ip6.zero : Ip6 := ⟨List.replicate 16 0, rfl⟩

/-- A received pbuf chain, whose `tot_len` is a 16-bit field. -/
structure Pbuf where
  bytes : List UInt8
  tot_len_lt : bytes.length < 65536

/-- What a flow is looked up by (addresses and ports in host order). For ICMP the identifier stands
    in for the client's port. -/
structure FlowKey where
  protocol : UInt8
  peerV4 : Ip4
  targetV4 : Ip4
  clientPort : Nat
  targetPort : Nat
deriving DecidableEq, Repr

/-- `fourvia6_flow_t`. The client's address is what the key does not tell, and what a reply
    needs. -/
structure Flow where
  valid : Bool
  clientV6 : Ip6
  key : FlowKey
  lastSeenUs : Int
deriving DecidableEq, Repr

/-- The module state: configuration, flow table and counters. The table has its full length; slots
    that are free are not valid. -/
structure State where
  enabled : Bool
  network : Ip4
  prefixLen : Nat
  siteId : Nat
  flows : List Flow
  translated : Nat
  dropped : Nat

/-- `FOURVIA6_FLOW_COUNT`. -/
def flowCount : Nat := 48

/-- `FOURVIA6_TCP_TIMEOUT_US`, `FOURVIA6_UDP_TIMEOUT_US`, `FOURVIA6_ICMP_TIMEOUT_US`. -/
def timeoutUs (protocol : UInt8) : Int :=
  if protocol = 6 then 15 * 60 * 1000000
  else if protocol = 17 then 2 * 60 * 1000000
  else 30 * 1000000

/-- `VIA_PREFIX`: fd7a:115c:a1e0:b1a::/64. -/
def viaPrefix : List UInt8 := [0xfd, 0x7a, 0x11, 0x5c, 0xa1, 0xe0, 0x0b, 0x1a]

/-! ### Checksums -/

/-- `checksum_add`, with its 32-bit accumulator. -/
def checksumAdd : Nat → List UInt8 → Nat
  | sum, a :: b :: rest => checksumAdd ((sum + (a.toNat * 256 + b.toNat)) % 2 ^ 32) rest
  | sum, [a] => (sum + a.toNat * 256) % 2 ^ 32
  | sum, [] => sum

/-- The carry loop of `checksum_finish`: `while (sum >> 16)`. -/
def foldCarries : Nat → Nat → Nat
  | 0, sum => sum
  | fuel + 1, sum =>
    if sum / 65536 = 0 then sum else foldCarries fuel (sum % 65536 + sum / 65536)

/-- `checksum_finish`; a 32-bit sum has no carries left after three rounds. -/
def checksumFinish (sum : Nat) : Nat := 65535 - foldCarries 3 sum % 65536

/-- `checksum_plain`. -/
def checksumPlain (data : List UInt8) : Nat := checksumFinish (checksumAdd 0 data)

/-- `checksum_v4`. -/
def checksumV4 (src dst : Ip4) (protocol : UInt8) (payload : List UInt8) : Nat :=
  let pseudo := bytes32 src ++ bytes32 dst ++ [0, protocol] ++ bytes16 payload.length
  checksumFinish (checksumAdd (checksumAdd 0 pseudo) payload)

/-- `checksum_v6`. -/
def checksumV6 (src dst : List UInt8) (nextHeader : UInt8) (payload : List UInt8) : Nat :=
  let sum := checksumAdd (checksumAdd 0 src) dst
  let tail := bytes32 (BitVec.ofNat 32 payload.length) ++ [0, 0, 0, nextHeader]
  checksumFinish (checksumAdd (checksumAdd sum tail) payload)

/-! ### The flow table -/

/-- `target_allowed`. -/
def targetAllowed (st : State) (ip : Ip4) : Bool :=
  if ip >>> 24 == 127#32 || ip >>> 28 == 0xe#32 || ip == 0#32 || ip == 0xffffffff#32 then false
  else if ip &&& 0xffc00000#32 == 0x64400000#32 then false
  else ip &&& prefixMask st.prefixLen == st.network

/-- The slot scan of `flow_remember`: the entry of the same client and flow, else the last
    unused slot, else the first slot that was ever older than `oldest`. -/
def rememberSlot (client : Ip6) (key : FlowKey) : Nat → Option Nat → Int → List Flow → Option Nat
  | _, slot, _, [] => slot
  | i, slot, oldest, f :: fs =>
    if f.valid && f.key == key && f.clientV6 == client then some i
    -- no early exit: a later unused slot replaces an earlier one
    else if !f.valid then rememberSlot client key (i + 1) (some i) oldest fs
    else if slot.isNone && f.lastSeenUs < oldest then
      rememberSlot client key (i + 1) (some i) f.lastSeenUs fs
    else rememberSlot client key (i + 1) slot oldest fs

/-- `INT64_MAX`. -/
def int64Max : Int := 2 ^ 63 - 1

/-- `flow_remember`. -/
def flowRemember (flows : List Flow) (client : Ip6) (key : FlowKey) (now : Int) : List Flow :=
  match rememberSlot client key 0 none int64Max flows with
  | some slot => flows.set slot ⟨true, client, key, now⟩
  | none => flows

/-- `flow_lookup`: the first live entry with the key, refreshed; expired entries met on the
    way are invalidated. -/
def flowLookup (key : FlowKey) (now : Int) : List Flow → List Flow × Option Flow
  | [] => ([], none)
  | f :: fs =>
    if !f.valid then
      let r := flowLookup key now fs
      (f :: r.1, r.2)
    else if timeoutUs key.protocol < now - f.lastSeenUs then
      let r := flowLookup key now fs
      ({ f with valid := false } :: r.1, r.2)
    else if f.key = key then ({ f with lastSeenUs := now } :: fs, some { f with lastSeenUs := now })
    else
      let r := flowLookup key now fs
      (f :: r.1, r.2)

/-! ### Requests: IPv6 to IPv4 -/

/-- `pbuf_copy_partial`: at most `len` bytes from an offset. -/
def copyPartial (b : List UInt8) (len off : Nat) : List UInt8 := (b.drop off).take len

/-- What the input path reads from the 40-byte IPv6 header. The peer's IPv4 address is not in it:
    the caller knows it. -/
structure Request where
  flowNibble : UInt8
  payloadLen : Nat
  protocol : UInt8
  hopLimit : UInt8
  client : Ip6
  target : Ip4

/-- The client address of a header of at least 40 bytes. -/
def clientOf (b : List UInt8) (h : 40 ≤ b.length) : Ip6 :=
  ⟨copyPartial b 16 8, by simp only [copyPartial, List.length_take, List.length_drop]; omega⟩

/-- The packet is IPv6 into this site's range; anything else is left to lwIP. Only the prefix and
    the site are compared; the target is checked against the LAN later. -/
def matchRequest (st : State) (b : List UInt8) : Option Request :=
  if h : b.length < 40 then none
  else if (byteAt b 0).toNat / 16 ≠ 6 then none
  else if !st.enabled || copyPartial b 8 24 != viaPrefix then none
  else if (be32 b 32).toNat ≠ st.siteId then none
  else some
    { flowNibble := byteAt b 0 &&& 0x0f
      payloadLen := be16 b 4
      protocol := byteAt b 6
      hopLimit := byteAt b 7
      client := clientOf b (by omega)
      target := be32 b 36 }

/-- The checks after which a matched packet is counted as dropped. -/
def requestDropped (st : State) (b : List UInt8) (r : Request) (peer : Ip4) : Bool :=
  !targetAllowed st r.target || peer == 0#32 || b.length < 40 + r.payloadLen || r.hopLimit ≤ 1 ||
    (r.protocol != 6 && r.protocol != 17 && r.protocol != 58)

/-- What the input path hands to `flow_remember` and the packet it hands to lwIP. -/
structure V4Packet where
  out : Buffer
  key : FlowKey

/-- The IPv4 packet: payload with translated L4 header, then the IPv4 header; `none` where
    the source frees both packets. -/
def buildV4 (r : Request) (payload : List UInt8) (peer : Ip4) (junk : Memory) (random : Nat) :
    Option V4Packet :=
  let b := (Buffer.alloc ((20 + r.payloadLen) % 65536) junk).store 0 (List.replicate 20 0)
    |>.store 20 payload
  let header (b : Buffer) (protocol : UInt8) : Buffer :=
    let b := b.store 0 [0x45] |>.store 1 [r.flowNibble] |>.store 2 (bytes16 (20 + r.payloadLen))
      |>.store 4 (bytes16 random) |>.store 6 (bytes16 0x4000) |>.store 8 [r.hopLimit - 1]
      |>.store 9 [protocol] |>.store 12 (bytes32 peer) |>.store 16 (bytes32 r.target)
    b.store 10 (bytes16 (checksumPlain (b.mem.load 0 20)))
  if r.protocol = 6 ∨ r.protocol = 17 then
    if r.payloadLen < 8 ∨ (r.protocol = 6 ∧ r.payloadLen < 20) then none
    else
      -- the checksum field of the L4 header, zero while the sum is taken
      let off := if r.protocol = 6 then 16 else 6
      let b := b.store (20 + off) (bytes16 0)
      let check := checksumV4 peer r.target r.protocol (b.mem.load 20 r.payloadLen)
      -- a UDP checksum of zero would mean that there is none
      let check := if r.protocol = 17 ∧ check = 0 then 0xffff else check
      some ⟨header (b.store (20 + off) (bytes16 check)) r.protocol,
        ⟨r.protocol, peer, r.target, be16 payload 0, be16 payload 2⟩⟩
  else
    -- ICMPv6: echo request and reply only
    if r.payloadLen < 8 ∨ (b.mem 20 ≠ 128 ∧ b.mem 20 ≠ 129) then none
    else
      let b := b.store 20 [if b.mem 20 = 128 then 8 else 0] |>.store 22 (bytes16 0)
      let b := b.store 22 (bytes16 (checksumPlain (b.mem.load 20 r.payloadLen)))
      some ⟨header b 1, ⟨1, peer, r.target, be16 payload 4, 0⟩⟩

/-- `fourvia6_translate_wg_input`.  `peer` is the sender's tailnet address (`none` unless it
    is IPv4), `heap` the outcome of `pbuf_alloc`, `random` that of `esp_random`.  Returns
    whether the packet was taken over, and the IPv4 packet handed to lwIP. -/
def translateWgInput (st : State) (packet : Option Pbuf) (peer : Option Ip4)
    (heap : Option Memory) (random : Nat) (now : Int) : (Bool × Option Buffer) × State :=
  match packet with
  | none => ((false, none), st)
  | some p =>
    match matchRequest st p.bytes with
    | none => ((false, none), st)
    | some r =>
      let peerV4 := peer.getD 0
      if requestDropped st p.bytes r peerV4 then
        ((true, none), { st with dropped := (st.dropped + 1) % 2 ^ 32 })
      else
        match heap with
        | none => ((true, none), st)
        | some junk =>
          let payload := copyPartial p.bytes r.payloadLen 40
          if payload.length ≠ r.payloadLen then ((true, none), st)
          else
            match buildV4 r payload peerV4 junk random with
            | none => ((true, none), st)
            | some v4 => ((true, some v4.out),
                { st with
                  flows := flowRemember st.flows r.client v4.key now
                  translated := (st.translated + 1) % 2 ^ 32 })

/-! ### Replies: IPv4 to IPv6 -/

/-- What the output path reads from the IPv4 header and the first eight L4 bytes. The key is that of
    the request it answers, with the ends swapped. -/
structure Reply where
  ihl : Nat
  total : Nat
  protocol : UInt8
  tos : UInt8
  ttl : UInt8
  key : FlowKey

/-- `total - ihl`. -/
def Reply.payloadLen (r : Reply) : Nat := r.total - r.ihl

/-- The checks before the flow lookup; `none` where the source returns `NULL`. Fragments are
    refused, as they would carry no ports. -/
def parseReply (b : List UInt8) : Option Reply :=
  if b.length < 20 ∨ (byteAt b 0).toNat / 16 ≠ 4 then none
  else
    let ihl := (byteAt b 0).toNat % 16 * 4
    let total := be16 b 2
    let protocol := byteAt b 9
    if ihl < 20 ∨ total < ihl ∨ b.length < total ∨ be16 b 6 % 0x4000 ≠ 0 ∨
        (protocol ≠ 6 ∧ protocol ≠ 17 ∧ protocol ≠ 1) then none
    else
      let target := be32 b 12
      let peer := be32 b 16
      if total < ihl + 8 then none
      else
        let ports := copyPartial b 8 ihl
        if ports.length ≠ 8 then none
        else if protocol = 6 ∨ protocol = 17 then
          some ⟨ihl, total, protocol, byteAt b 1, byteAt b 8,
            ⟨protocol, peer, target, be16 ports 2, be16 ports 0⟩⟩
        -- ICMP: the identifier stands in for the client port
        else if byteAt ports 0 ≠ 0 ∧ byteAt ports 0 ≠ 8 then none
        else some ⟨ihl, total, protocol, byteAt b 1, byteAt b 8,
          ⟨protocol, peer, target, be16 ports 4, 0⟩⟩

/-- Header and payload of the reply, before its L4 checksum. The stores come in the order of the
    source, the payload before the header. -/
def replyBase (siteId : Nat) (r : Reply) (client : Ip6) (payload : List UInt8) (b : Buffer) :
    Buffer :=
  b.store 0 (List.replicate 40 0)
    |>.store 40 payload
    |>.store 0 [(0x60 : UInt8) ||| (r.tos >>> 4)]
    |>.store 4 (bytes16 r.payloadLen)
    |>.store 6 [if r.protocol = 1 then 58 else r.protocol]
    |>.store 7 [if 1 < r.ttl then r.ttl - 1 else 1]
    |>.store 8 viaPrefix
    |>.store 18 (bytes16 siteId)
    |>.store 20 (bytes32 r.key.targetV4)
    |>.store 24 client.bytes

/-- The L4 part: ICMP type, then the checksum over the IPv6 pseudo-header. A UDP checksum of 0 is
    sent as `0xffff`, since 0 would mean none. -/
def replyL4 (r : Reply) (b : Buffer) : Buffer :=
  if r.protocol = 6 ∨ r.protocol = 17 then
    -- only eight L4 bytes are known to be there, also for TCP
    let off := if r.protocol = 6 then 16 else 6
    let b := b.store (40 + off) (bytes16 0)
    let check := checksumV6 (b.mem.load 8 16) (b.mem.load 24 16) r.protocol
      (b.mem.load 40 r.payloadLen)
    let check := if r.protocol = 17 ∧ check = 0 then 0xffff else check
    b.store (40 + off) (bytes16 check)
  else
    let b := b.store 40 [if b.mem 40 = 0 then 129 else 128]
    let b := b.store 42 (bytes16 0)
    b.store 42 (bytes16 (checksumV6 (b.mem.load 8 16) (b.mem.load 24 16) 58
      (b.mem.load 40 r.payloadLen)))

/-- `fourvia6_translate_wg_output`; `pbuf_alloc` takes a 16-bit length. The lookup removes expired
    flows also when nothing is found, so the table may change without a translation. -/
def translateWgOutput (st : State) (packet : Option Pbuf) (heap : Option Memory) (now : Int) :
    Option Buffer × State :=
  if !st.enabled then (none, st)
  else match packet with
  | none => (none, st)
  | some p =>
    match parseReply p.bytes with
    | none => (none, st)
    | some r =>
      match flowLookup r.key now st.flows with
      | (flows, none) => (none, { st with flows := flows })
      | (flows, some flow) =>
        match heap with
        | none => (none, { st with flows := flows })
        | some junk =>
          let payload := copyPartial p.bytes r.payloadLen r.ihl
          if payload.length ≠ r.payloadLen then (none, { st with flows := flows })
          else
            let b := replyBase st.siteId r flow.clientV6 payload
              (Buffer.alloc ((40 + r.payloadLen) % 65536) junk)
            (some (replyL4 r b),
              { st with flows := flows, translated := (st.translated + 1) % 2 ^ 32 })

end SubnetRouter.FourVia6
