import Mathlib.Data.List.Sort
import SubnetRouter.Lib.Run
import SubnetRouter.Net.Frame

namespace SubnetRouter.Dhcp

open Lib

/-!
# The DHCP server (`components/dhcpserver/dhcpserver.c`, `main/dhcp_reservations.c`)

The server keeps a list of leases, sorted by address, and a cursor `client_address_plus` to the
address it means to give out next.  `parse_msg` handles one message, `dhcps_tmr` one tick of
the lease timer, and `dhcp_reservations_set_all` replaces the reservation table that
`parse_msg` reads through `dhcp_reservations_lookup`.

* `dhcpsPollSet`, `dhcpsStart` — the pool of a fresh server.
* `parseOptions`, `parseMsg` — one message.
* `dhcpsTmr` — one tick.
* `dhcpServer` — the machine of all messages, ticks and changes of the table.
-/

/-- The network-order word of an address as the little-endian core reads it: the last octet
    weighs most.  The source steps through addresses in host order and compares these words. -/
def networkOrder (ip : Ip4) : Nat :=
  ((ip.toNat % 256 * 256 + ip.toNat / 256 % 256) * 256 + ip.toNat / 256 / 256 % 256) * 256 +
    ip.toNat / 256 / 256 / 256

/-! ### Reservations -/

/-- `dhcp_reservation_t`, less its display name. -/
structure DhcpReservation where
  mac : Mac
  ip : Ip4
  valid : Bool
deriving DecidableEq, Repr

/-- `DHCP_RESERVATIONS_MAX`. -/
def dhcpReservationsMax : Nat := 16

/-- `mac_is_zero`. -/
def macIsZero (mac : Mac) : Bool := mac.bytes.all (· == 0)

/-- `dhcp_reservations_lookup`: `0` when there is no reservation. -/
def dhcpReservationsLookup (sTable : List DhcpReservation) (mac : Mac) : Ip4 :=
  match sTable.find? fun r => r.valid && r.mac == mac with
  | some r => r.ip
  | none => 0

/-- The table after `dhcp_reservations_set_all`; the slots past the last entry are not valid. -/
def dhcpReservationsSetAll (arr : List DhcpReservation) : List DhcpReservation :=
  ((arr.take dhcpReservationsMax).filter fun r => !macIsZero r.mac).map
    fun r => { r with valid := true }

/-! ### The server -/

/-- `struct dhcps_pool`: a lease. Its timer counts down at each tick of `dhcps_tmr`, and the lease
    is freed when it reaches zero. -/
structure DhcpsPool where
  ip : Ip4
  mac : Mac
  leaseTimer : BitVec 32
  hostname : List UInt8
deriving DecidableEq, Repr

/-- `dhcps_lease_t`: the addresses to give out. `dhcps_start` computes them from the mask, unless
    they are set. -/
structure DhcpsLease where
  enable : Bool
  startIp : Ip4
  endIp : Ip4
deriving DecidableEq, Repr

/-- `dhcps_t`: what decides about leases. The address at hand and the cursor of the search live in
    the server from one message to the next. -/
structure Dhcps where
  serverAddress : Ip4
  clientAddress : Ip4
  clientAddressPlus : Ip4
  dhcpsMask : Ip4
  plist : List DhcpsPool
  renew : Bool
  dhcpsPoll : DhcpsLease
  dhcpsLeaseTime : BitVec 32
  /-- `DHCPS_LEASE_UNIT`, which the build sets. -/
  leaseUnit : BitVec 32
  hasDeclinedIp : Bool
  currentHostname : List UInt8
deriving DecidableEq, Repr

def dhcpsMaxLease : BitVec 32 := 100
def maxStationNum : Nat := 16
def dhcpsMaxHostnameLen : Nat := 32

/-- `dhcps_new`, with the mask, the pool and the lease time that `dhcps_set_option_info` has
    set since. -/
def dhcpsNew (leaseUnit mask : BitVec 32) (poll : DhcpsLease) (leaseTime : BitVec 32) : Dhcps where
  serverAddress := 0
  clientAddress := 0
  clientAddressPlus := 0
  dhcpsMask := mask
  plist := []
  renew := false
  dhcpsPoll := poll
  dhcpsLeaseTime := leaseTime
  leaseUnit := leaseUnit
  hasDeclinedIp := false
  currentHostname := []

/-- The pool that was asked for does not hold the server, lies in its subnet, and is small
    enough. -/
def pollValid (poll : DhcpsLease) (serverIp mask : Ip4) : Bool :=
  !(decide (poll.startIp ≤ serverIp) && decide (serverIp ≤ poll.endIp)) &&
    poll.startIp &&& mask == serverIp &&& mask && poll.endIp &&& mask == serverIp &&& mask &&
    !decide (poll.endIp - poll.startIp + 1 > dhcpsMaxLease)

/-- The longer side of the subnet, seen from the server. It is cut to the number of leases that the
    server can keep. -/
def defaultPoll (serverIp mask : Ip4) : DhcpsLease :=
  let rangeStartIp := serverIp &&& mask
  let rangeEndIp := rangeStartIp ||| ~~~mask
  let (rangeStartIp, rangeEndIp) :=
    if serverIp - rangeStartIp > rangeEndIp - serverIp then (rangeStartIp + 1, serverIp - 1)
    else (serverIp + 1, rangeEndIp - 1)
  let rangeEndIp :=
    if rangeEndIp - rangeStartIp + 1 > dhcpsMaxLease then rangeStartIp + dhcpsMaxLease - 1
    else rangeEndIp
  ⟨true, rangeStartIp, rangeEndIp⟩

/-- `dhcps_poll_set`. -/
def dhcpsPollSet (poll : DhcpsLease) (serverIp mask : Ip4) : DhcpsLease :=
  if poll.enable && pollValid poll serverIp mask then poll else defaultPoll serverIp mask

/-- `dhcps_start`, or `none` for its errors. The mask must be one of a prefix, and the server's
    address neither the network's nor the broadcast address. -/
def dhcpsStart (dhcps : Dhcps) (ip : Ip4) : Option Dhcps :=
  let mask := dhcps.dhcpsMask
  if ip = 0 then none
  else if (mask - 1) ||| mask ≠ 0xFFFFFFFF then none
  else if ip = (ip &&& mask) ||| ~~~mask ∨ ip = ip &&& mask then none
  else
    let poll := dhcpsPollSet dhcps.dhcpsPoll ip mask
    some { dhcps with
      serverAddress := ip, dhcpsPoll := poll, clientAddressPlus := poll.startIp }

/-! ### Options -/

/-- `DHCPS_STATE_*`. -/
inductive DhcpsState where
  | offer | decline | ack | nak | idle | release
deriving DecidableEq, Repr

/-- What `parse_options` collects: `s.state`, `type` and `current_hostname`. Each option writes over
    what an earlier one has left. -/
structure Options where
  state : DhcpsState
  type : UInt8
  hostname : List UInt8
deriving DecidableEq, Repr

def dhcpOptionPad : UInt8 := 0
def dhcpOptionHostname : UInt8 := 12
def dhcpOptionReqIpaddr : UInt8 := 50
def dhcpOptionMsgType : UInt8 := 53
def dhcpOptionEnd : UInt8 := 255

def dhcpDiscover : UInt8 := 1
def dhcpRequest : UInt8 := 3
def dhcpDecline : UInt8 := 4
def dhcpRelease : UInt8 := 7

/-- One option with its data.  The hostname is a C string of at most 31 bytes. -/
def Options.read (o : Options) (client : Ip4) (code : UInt8) (data : List UInt8) : Options :=
  if code = dhcpOptionMsgType then
    match data with
    | type :: _ => { o with type := type }
    | [] => o
  else if code = dhcpOptionHostname then
    if data = [] then o
    else { o with hostname := (data.take (dhcpsMaxHostnameLen - 1)).takeWhile (· ≠ 0) }
  else if code = dhcpOptionReqIpaddr then
    if 4 ≤ data.length then
      { o with state := if be32 data 0 = client then .ack else .nak }
    else o
  else o

/-- The loop of `parse_options`; the fuel is the number of bytes. It ends at the end mark, and where
    a length runs beyond the message. -/
def readOptions (client : Ip4) : Nat → List UInt8 → Options → Options
  | 0, _, o => o
  | _ + 1, [], o => o
  | fuel + 1, code :: rest, o =>
    if code = dhcpOptionPad then readOptions client fuel rest o
    else if code = dhcpOptionEnd then o
    else
      match rest with
      | [] => o
      | optLen :: rest =>
        if rest.length < optLen.toNat then o
        else
          readOptions client fuel (rest.drop optLen.toNat)
            (o.read client code (rest.take optLen.toNat))

/-- `parse_options`: the state, and the hostname for `current_hostname`. The message type decides,
    and for a request the address it asks for, or whether it renews. -/
def parseOptions (client : Ip4) (renew : Bool) (options : List UInt8) :
    DhcpsState × List UInt8 :=
  let o := readOptions client options.length options ⟨.idle, 0, []⟩
  let state :=
    if o.type = dhcpDiscover then .offer
    else if o.type = dhcpRequest then
      if o.state = .ack ∨ o.state = .nak then o.state else if renew then .ack else .nak
    else if o.type = dhcpDecline then .decline
    else if o.type = dhcpRelease then .release
    else o.state
  (state, o.hostname)

/-! ### Messages -/

/-- `struct dhcps_msg`: what `parse_msg` reads.  `options` are the bytes after the cookie, as
    many as the received length leaves. -/
structure DhcpsMsg where
  ciaddr : Ip4
  chaddr : Mac
  cookie : BitVec 32
  options : List UInt8
deriving DecidableEq, Repr

/-- The DHCP cookie, in host order. -/
def magicCookie : BitVec 32 := 0x63825363

/-- `node_insert_to_list`: before the first lease with a greater address. -/
def nodeInsertToList (plist : List DhcpsPool) (pinsert : DhcpsPool) : List DhcpsPool :=
  plist.orderedInsert (fun a b => networkOrder a.ip < networkOrder b.ip) pinsert

/-- Free the node of a client. -/
def removeNode (mac : Mac) (plist : List DhcpsPool) : List DhcpsPool :=
  plist.eraseP fun pool => pool.mac == mac

/-- Change the lease at the node of a client. -/
def updateNode (mac : Mac) (f : DhcpsPool → DhcpsPool) : List DhcpsPool → List DhcpsPool
  | [] => []
  | pool :: plist => if pool.mac = mac then f pool :: plist else pool :: updateNode mac f plist

/-- `client_address`, `client_address_plus`, `first_address` and `flag`, which the search through
    the leases moves on. -/
structure Search where
  clientAddress : Ip4
  clientAddressPlus : Ip4
  firstAddress : Ip4
  flag : Bool
deriving DecidableEq, Repr

/-- The search passes a lease of another client. The cursor moves on where it stands on a leased
    address, and the first free address until it is below one. -/
def Search.visit (q : Search) (ip : Ip4) : Search :=
  let q :=
    if ip = q.clientAddressPlus then
      { q with clientAddressPlus := q.clientAddressPlus + 1
               clientAddress := q.clientAddressPlus + 1 }
    else q
  if q.flag then q
  else if networkOrder q.firstAddress < networkOrder ip then { q with flag := true }
  else { q with firstAddress := q.firstAddress + 1 }

/-- The loop over the leases: it stops at the lease of the client. -/
def searchLeases (mac : Mac) : List DhcpsPool → Search → Option DhcpsPool × Search
  | [], q => (none, q)
  | pool :: plist, q =>
    if pool.mac = mac then (some pool, q) else searchLeases mac plist (q.visit pool.ip)

namespace Dhcps

/-- `lease_timer` of a new or renewed lease. -/
def leaseTimer (dhcps : Dhcps) : BitVec 32 := dhcps.dhcpsLeaseTime * dhcps.leaseUnit

/-- The address for a client without a lease. A reserved address is taken without a test of any
    kind. -/
def selectAddress (dhcps : Dhcps) (q : Search) (reservedIp : Ip4) : Ip4 :=
  let clientAddress :=
    if networkOrder q.clientAddressPlus > networkOrder dhcps.dhcpsPoll.endIp then q.firstAddress
    else q.clientAddress
  if reservedIp ≠ 0 then reservedIp else clientAddress

/-- Enter a lease for the address, unless it is above the end of the pool; whether there is a
    node now. -/
def enterLease (dhcps : Dhcps) (mac : Mac) (clientAddress : Ip4) : Dhcps × Bool :=
  let poll := dhcps.dhcpsPoll
  if networkOrder clientAddress > networkOrder poll.endIp then
    ({ dhcps with clientAddress := clientAddress, clientAddressPlus := poll.startIp }, false)
  else
    ({ dhcps with
        clientAddress := clientAddress
        clientAddressPlus :=
          if clientAddress = poll.endIp then poll.startIp else clientAddress + 1
        plist := nodeInsertToList dhcps.plist ⟨clientAddress, mac, dhcps.leaseTimer, []⟩ }, true)

/-- `parse_msg` up to the label `POOL_CHECK`: find the lease of the client, or enter a new one;
    whether there is a node now. -/
def findLease (lookup : Mac → Ip4) (dhcps : Dhcps) (m : DhcpsMsg) : Dhcps × Bool :=
  let plus := dhcps.clientAddressPlus
  let first := dhcps.dhcpsPoll.startIp
  let declined := dhcps.hasDeclinedIp
  let dhcps := { dhcps with renew := false, hasDeclinedIp := false }
  let (found, q) :=
    if dhcps.plist.isEmpty then (none, ⟨if declined then plus else first, plus, first, false⟩)
    else searchLeases m.chaddr dhcps.plist ⟨plus, plus, first, false⟩
  match found with
  | some pool =>
    let refresh := fun pool : DhcpsPool => { pool with leaseTimer := dhcps.leaseTimer }
    ({ dhcps with
        renew := pool.ip == m.ciaddr
        clientAddress := pool.ip
        clientAddressPlus := q.clientAddressPlus
        plist := updateNode m.chaddr refresh dhcps.plist }, true)
  | none =>
    { dhcps with clientAddressPlus := q.clientAddressPlus }.enterLease m.chaddr
      (dhcps.selectAddress q (lookup m.chaddr))

/-- From the label `POOL_CHECK` on: the address is tested against the end of the pool, the options
    are read, and the lease is kept, renamed or freed by what they say. -/
def poolCheck (dhcps : Dhcps) (m : DhcpsMsg) (hasNode : Bool) : Dhcps × DhcpsState :=
  let removed := if hasNode then removeNode m.chaddr dhcps.plist else dhcps.plist
  if networkOrder dhcps.clientAddress > networkOrder dhcps.dhcpsPoll.endIp ∨
      dhcps.clientAddress = 0 then
    ({ dhcps with plist := removed }, .nak)
  else
    let (ret, hostname) := parseOptions dhcps.clientAddress dhcps.renew m.options
    let dhcps := { dhcps with currentHostname := hostname }
    if ret = .release ∨ ret = .nak ∨ ret = .decline then
      ({ dhcps with
          plist := removed
          hasDeclinedIp := dhcps.hasDeclinedIp || ret == .decline
          clientAddress := 0 }, ret)
    else
      let name := fun pool : DhcpsPool => { pool with hostname := hostname }
      ({ dhcps with
          plist := if hasNode then updateNode m.chaddr name dhcps.plist else dhcps.plist }, ret)

end Dhcps

/-- `parse_msg`; `none` for a message without the cookie. With it, the client's lease is found or
    made first, and then judged. -/
def parseMsg (lookup : Mac → Ip4) (dhcps : Dhcps) (m : DhcpsMsg) : Dhcps × Option DhcpsState :=
  if m.cookie ≠ magicCookie then (dhcps, none)
  else
    let (dhcps, hasNode) := dhcps.findLease lookup m
    let (dhcps, ret) := dhcps.poolCheck m hasNode
    (dhcps, some ret)

/-! ### The timer -/

/-- `kill_oldest_dhcps_pool`: free the first lease with the smallest timer, if there are two. -/
def killOldestDhcpsPool (plist : List DhcpsPool) : List DhcpsPool :=
  match plist with
  | pool :: next :: rest =>
    let minTimer := (next :: rest).foldl
      (fun timer p => if p.leaseTimer < timer then p.leaseTimer else timer) pool.leaseTimer
    plist.eraseP fun p => p.leaseTimer == minTimer
  | _ => plist

/-- `dhcps_tmr` of a started server. The leases are counted in a byte, so that beyond 255 the oldest
    one is not always freed. -/
def dhcpsTmr (dhcps : Dhcps) : Dhcps :=
  let ticked := dhcps.plist.map fun pool => { pool with leaseTimer := pool.leaseTimer - 1 }
  let plist := ticked.filter fun pool => pool.leaseTimer ≠ 0
  let numDhcpsPool := plist.length % 256
  { dhcps with plist := if numDhcpsPool > maxStationNum then killOldestDhcpsPool plist else plist }

/-! ### The machine -/

/-- The server and the reservation table. -/
structure State where
  dhcps : Dhcps
  sTable : List DhcpReservation
deriving DecidableEq, Repr

/-- What can happen to a started server: a message, a tick of its timer, or a change of the
    reservations by the web page or the console. -/
inductive Act where
  | message (m : DhcpsMsg)
  | tick
  | setReservations (arr : List DhcpReservation)
deriving DecidableEq, Repr

/-- The reservation lookup that `parse_msg` makes. -/
def State.lookup (s : State) : Mac → Ip4 := dhcpReservationsLookup s.sTable

/-- One message, tick or change of the table. -/
def dhcpStep (s : State) : Act → State
  | .message m => { s with dhcps := (parseMsg s.lookup s.dhcps m).1 }
  | .tick => { s with dhcps := dhcpsTmr s.dhcps }
  | .setReservations arr => { s with sTable := dhcpReservationsSetAll arr }

/-- The DHCP server. -/
def dhcpServer : Machine State Act := ⟨fun s a => some (dhcpStep s a)⟩

end SubnetRouter.Dhcp
