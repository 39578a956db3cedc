import Mathlib.Algebra.Group.Nat.Defs
import Mathlib.Logic.Function.Basic
import SubnetRouter.Net.Frame

namespace SubnetRouter.Acl

open Lib

/-!
# The ACL firewall (`components/acl/acl.c`)

Four lists of at most sixteen rules; `acl_check_packet` answers with the action of the first
rule that matches the packet.

* `parsePacket` — what the check reads from the frame: addresses, protocol and, when the
  whole TCP or UDP header is present, the ports (`0` otherwise).
* `aclCheckPacket` — first match, with the hit counter of the rule and the list statistics.
* `aclCheckPackets_eq` — the counters never decide: a sequence of checks gives each frame the
  answer it gets alone.
-/

/-- `MAX_ACL_LISTS`. -/
def maxAclLists : Nat := 4

/-- `ACL_TO_ESP`, the list on uplink input. -/
def aclToEsp : Fin maxAclLists := ⟨0, by decide⟩

/-- `MAX_ACL_ENTRIES`. -/
def maxAclEntries : Nat := 16

/-- `ACL_DENY`, `ACL_ALLOW`, `ACL_NO_MATCH`. The hooks in `netif_hooks.c` let the last one pass,
    like the second: a list without a matching rule filters nothing. -/
inductive AclAction where
  | deny
  | allow
  | noMatch
deriving DecidableEq, Repr

/-- `acl_entry_t`. Addresses are stored pre-masked, so that a rule compares them with the masked
    address of the packet; a port of 0 is any port, and a protocol of 0 any protocol. -/
structure AclEntry where
  src : Ip4
  sMask : Ip4
  dest : Ip4
  dMask : Ip4
  sPort : Nat
  dPort : Nat
  proto : UInt8
  allow : UInt8
  hitCount : Nat
  valid : Bool
deriving DecidableEq, Repr

/-- The all-zero entry of an unused slot. -/
def AclEntry.empty : AclEntry := ⟨0, 0, 0, 0, 0, 0, 0, 0, 0, false⟩

/-- `acl_stats_t`. -/
structure AclStats where
  packetsAllowed : Nat
  packetsDenied : Nat
  packetsNomatch : Nat
deriving DecidableEq, Repr

/-- One list: the rule array and its statistics. The array has its full length, also where its
    entries are not in use, as in the source. -/
structure AclList where
  entries : List AclEntry
  stats : AclStats
  entries_length : entries.length = maxAclEntries
deriving DecidableEq

/-- `acl_lists` and `acl_stats`. -/
abbrev AclState := Fin maxAclLists → AclList

/-- What the rules are matched against. `acl_check_packet` extracts it from the first segment once,
    before it looks at any rule. -/
structure PacketInfo where
  srcIp : Ip4
  destIp : Ip4
  proto : UInt8
  srcPort : Nat
  dstPort : Nat
deriving DecidableEq, Repr

/-! ### Header extraction -/

/-- The bytes of the L4 header that must be present before the ports are read. -/
def l4HeaderLen (proto : UInt8) : Option Nat :=
  if proto = ipprotoTcp then some 20 else if proto = ipprotoUdp then some 8 else none

/-- Where the IP header starts, or `none` for an Ethernet frame that is not IPv4. The function is
    given packets with and without link-layer header, and tells them apart by the two bytes where
    the EtherType would be. -/
def ipOffset (payload : List UInt8) : Option Nat :=
  if 14 ≤ payload.length then
    let ethertype := be16 payload 12
    -- anything else in these two bytes is taken for a packet without link-layer header
    if ethertype = 0x0800 ∨ ethertype = 0x0806 ∨ ethertype = 0x86DD ∨ ethertype < 0x0600 then
      if ethertype ≠ 0x0800 then none else some 14
    else some 0
  else some 0

/-- The ports, read when the whole L4 header is in the first segment. Otherwise they stay 0, which a
    rule with a port filter does not match. -/
def readPorts (payload : List UInt8) (proto : UInt8) (l4 : Nat) : Nat × Nat :=
  match l4HeaderLen proto with
  | some need => if l4 + need ≤ payload.length then (be16 payload l4, be16 payload (l4 + 2))
    else (0, 0)
  | none => (0, 0)

/-- The fields the rules look at, or `none` where the check answers `ACL_NO_MATCH` without
    consulting them. -/
def parsePacket (payload : List UInt8) : Option PacketInfo :=
  match ipOffset payload with
  | none => none
  | some offset =>
    if payload.length < offset + 20 then none
    else
      let vhl := (byteAt payload offset).toNat
      if vhl / 16 ≠ 4 then none
      else
        let proto := byteAt payload (offset + 9)
        let ports := readPorts payload proto (offset + vhl % 16 * 4)
        some ⟨be32 payload (offset + 12), be32 payload (offset + 16), proto, ports.1, ports.2⟩

/-! ### Rule matching -/

/-- The rule filters on a port. -/
def AclEntry.hasPorts (r : AclEntry) : Bool := r.sPort != 0 || r.dPort != 0

/-- The rule is in use and its protocol and addresses match. -/
def AclEntry.matchesFlow (r : AclEntry) (pkt : PacketInfo) : Bool :=
  r.valid && (r.proto == 0 || r.proto == pkt.proto) && pkt.srcIp &&& r.sMask == r.src &&
    pkt.destIp &&& r.dMask == r.dest

/-- The port filters match; they never match a packet that is neither TCP nor UDP. A rule with no
    port filter matches whatever the ports are. -/
def AclEntry.matchesPorts (r : AclEntry) (pkt : PacketInfo) : Bool :=
  if r.hasPorts then
    (pkt.proto == ipprotoTcp || pkt.proto == ipprotoUdp) &&
      (r.sPort == 0 || r.sPort == pkt.srcPort) && (r.dPort == 0 || r.dPort == pkt.dstPort)
  else true

def AclEntry.matchesPacket (r : AclEntry) (pkt : PacketInfo) : Bool :=
  r.matchesFlow pkt && r.matchesPorts pkt

/-- `rule->allow & 0x01`. -/
def AclEntry.action (r : AclEntry) : AclAction :=
  if r.allow &&& 1 = 1 then .allow else .deny

/-- The hit counter of the first matching rule goes up. It is the rule that decides about the
    packet, as the loop of the source leaves at it. -/
def countHit (pkt : PacketInfo) : List AclEntry → List AclEntry
  | [] => []
  | r :: rs =>
    if r.matchesPacket pkt then { r with hitCount := (r.hitCount + 1) % 2 ^ 32 } :: rs
    else r :: countHit pkt rs

@[simp] theorem length_countHit (pkt : PacketInfo) (rs : List AclEntry) :
    (countHit pkt rs).length = rs.length := by
  induction rs with
  | nil => rfl
  | cons r rs ih =>
    rw [countHit]
    split <;> simp [ih]

/-- The statistics after a decision. -/
def AclStats.count (s : AclStats) : AclAction → AclStats
  | .allow => { s with packetsAllowed := (s.packetsAllowed + 1) % 2 ^ 32 }
  | .deny => { s with packetsDenied := (s.packetsDenied + 1) % 2 ^ 32 }
  | .noMatch => { s with packetsNomatch := (s.packetsNomatch + 1) % 2 ^ 32 }

/-- The action of the first matching rule. -/
def decision (entries : List AclEntry) (pkt : PacketInfo) : AclAction :=
  match entries.find? fun r => r.matchesPacket pkt with
  | some r => r.action
  | none => .noMatch

/-- `acl_check_packet`; `p` is the first segment of the pbuf, `none` for a null pointer. A packet
    that cannot be read is not matched and not counted. -/
def aclCheckPacket (st : AclState) (aclNo : Nat) (p : Option (List UInt8)) :
    AclAction × AclState :=
  if h : aclNo < maxAclLists then
    match p.bind parsePacket with
    | none => (.noMatch, st)
    | some pkt =>
      let l := st ⟨aclNo, h⟩
      let result := decision l.entries pkt
      (result, Function.update st ⟨aclNo, h⟩
        ⟨countHit pkt l.entries, l.stats.count result, by simp [l.entries_length]⟩)
  else (.noMatch, st)

/-- Check frames one after the other, collecting the answers. -/
def aclCheckPackets (st : AclState) (aclNo : Nat) : List (List UInt8) → List AclAction
  | [] => []
  | p :: ps => (aclCheckPacket st aclNo (some p)).1 ::
      aclCheckPackets (aclCheckPacket st aclNo (some p)).2 aclNo ps

/-! ### Counters do not decide -/

/-- A hit changes no field that rules are matched on. -/
theorem find?_countHit (pkt pkt' : PacketInfo) (rs : List AclEntry) :
    ((countHit pkt rs).find? fun r => r.matchesPacket pkt').map AclEntry.action
      = (rs.find? fun r => r.matchesPacket pkt').map AclEntry.action := by
  induction rs with
  | nil => rfl
  | cons r rs ih =>
    rw [countHit]
    split_ifs with hhit
    -- only `hitCount` differs, and no predicate reads it
    · rw [List.find?_cons, List.find?_cons]
      have hsame : AclEntry.matchesPacket { r with hitCount := (r.hitCount + 1) % 2 ^ 32 } pkt'
          = r.matchesPacket pkt' := rfl
      rw [hsame]
      cases r.matchesPacket pkt' <;> rfl
    · rw [List.find?_cons, List.find?_cons]
      cases r.matchesPacket pkt' with
      | true => rfl
      | false => exact ih

/-- `decision` through the action of the first match. -/
theorem decision_eq (entries : List AclEntry) (pkt : PacketInfo) :
    decision entries pkt
      = ((entries.find? fun r => r.matchesPacket pkt).map AclEntry.action).getD .noMatch := by
  unfold decision
  cases entries.find? fun r => r.matchesPacket pkt <;> rfl

theorem decision_countHit (pkt pkt' : PacketInfo) (entries : List AclEntry) :
    decision (countHit pkt entries) pkt' = decision entries pkt' := by
  rw [decision_eq, decision_eq, find?_countHit]

/-- The answer of a check, whatever the counters are. -/
def answer (entries : List AclEntry) (p : List UInt8) : AclAction :=
  match parsePacket p with
  | some pkt => decision entries pkt
  | none => .noMatch

variable {st : AclState} {n : Fin maxAclLists}

theorem aclCheckPacket_fst (st : AclState) (n : Fin maxAclLists) (p : List UInt8) :
    (aclCheckPacket st n (some p)).1 = answer (st n).entries p := by
  rw [aclCheckPacket, dif_pos n.isLt, Option.bind_some, answer]
  cases parsePacket p <;> rfl

/-- One check leaves the answers of the list as they are. -/
theorem answer_aclCheckPacket (st : AclState) (n : Fin maxAclLists) (p q : List UInt8) :
    answer ((aclCheckPacket st n (some p)).2 n).entries q = answer (st n).entries q := by
  rw [aclCheckPacket, dif_pos n.isLt, Option.bind_some]
  cases parsePacket p with
  | none => rfl
  | some pkt =>
    simp only [Function.update_self, answer]
    cases parsePacket q with
    | none => rfl
    | some pkt' => exact decision_countHit pkt pkt' _

/-- Checks one after the other give each frame the answer it gets alone. -/
theorem aclCheckPackets_eq (st : AclState) (n : Fin maxAclLists) (ps : List (List UInt8)) :
    aclCheckPackets st n ps = ps.map (answer (st n).entries) := by
  induction ps generalizing st with
  | nil => rfl
  | cons p ps ih =>
    rw [aclCheckPackets, List.map_cons, ih, aclCheckPacket_fst]
    congr 1
    exact List.map_congr_left fun q _ => answer_aclCheckPacket st n p q

end SubnetRouter.Acl
