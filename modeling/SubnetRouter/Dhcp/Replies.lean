import Mathlib.Algebra.GroupWithZero.Nat
import SubnetRouter.Dhcp.Promise
import SubnetRouter.Lib.Cursor

namespace SubnetRouter.Dhcp

open Lib

/-!
# The replies (`components/dhcpserver/dhcpserver.c`)

The server answers in the buffer of the request: it overwrites some fields, goes along the options
with a pointer, and sends as many bytes as the request had, or a whole message.

* `handleDhcp` — one datagram, from its bytes to those of the reply.
* `replyOptions` — what the options of a reply are meant to say.
* `read_back` — whoever walks over options finds them, and nothing else.
* `handle_dhcp_stays_inside` — nothing is written outside the buffer.
* `reply_reads_back` — the reply says what the server has decided, and promises what it keeps.
-/

/-! ### Messages in memory -/

def dhcpReply : UInt8 := 2
def dhcpHtypeEthernet : UInt8 := 1

def dhcpOffer : UInt8 := 2
def dhcpAck : UInt8 := 5
def dhcpNak : UInt8 := 6

def dhcpOptionSubnetMask : UInt8 := 1
def dhcpOptionRouter : UInt8 := 3
def dhcpOptionDnsServer : UInt8 := 6
def dhcpOptionInterfaceMtu : UInt8 := 26
def dhcpOptionBroadcastAddress : UInt8 := 28
def dhcpOptionPerformRouterDiscovery : UInt8 := 31
def dhcpOptionLeaseTime : UInt8 := 51
def dhcpOptionServerId : UInt8 := 54
def dhcpOptionCaptiveportalUri : UInt8 := 114

/-- `sizeof(struct dhcps_msg)`. -/
def dhcpsMsgSize : Nat := 548

/-- What the build sets, and what is set in `dhcps_t` about the options of an offer; `gw` is the
    gateway of the interface. -/
structure OfferInfo where
  /-- `ETHARP_SUPPORT_STATIC_ENTRIES`. -/
  staticEntries : Bool
  /-- `CONFIG_LWIP_DHCPS_ADD_DNS`. -/
  addDns : Bool
  dhcpsOffer : UInt8
  dhcpsDns : UInt8
  dnsMain : Ip4
  dnsBackup : Ip4
  captiveportalUri : Option (List UInt8)
  gw : Ip4

/-- `dhcps_router_enabled`. -/
def dhcpsRouterEnabled (offer : UInt8) : Bool := offer &&& 1 != 0

/-- `dhcps_dns_enabled`. -/
def dhcpsDnsEnabled (offer : UInt8) : Bool := offer &&& 2 != 0

/-- The broadcast address of the server's subnet. -/
def broadcastAddr (dhcps : Dhcps) : Ip4 :=
  (dhcps.serverAddress &&& dhcps.dhcpsMask) ||| ~~~dhcps.dhcpsMask

/-- `dhcps_option_ip`. -/
def dhcpsOptionIp (optptr : Cursor) (ip : Ip4) : Cursor := optptr.put (bytes32 ip)

/-- `add_msg_type`. -/
def addMsgType (optptr : Cursor) (type : UInt8) : Cursor :=
  optptr.put [dhcpOptionMsgType, 1, type]

/-- The router, in `add_offer_options`. -/
def addRouter (o : OfferInfo) (optptr : Cursor) : Cursor :=
  if dhcpsRouterEnabled o.dhcpsOffer then
    if o.gw ≠ 0 then dhcpsOptionIp (optptr.put [dhcpOptionRouter, 4]) o.gw else optptr
  else optptr

/-- The DNS servers, in `add_offer_options`. The ones that are configured come first; without them
    the server itself is told, if the offer is to have one. -/
def addDnsServers (dhcps : Dhcps) (o : OfferInfo) (optptr : Cursor) : Cursor :=
  if dhcpsDnsEnabled o.dhcpsDns then
    let size : UInt8 := if o.dnsBackup ≠ 0 then 4 + 4 else 4
    let optptr := dhcpsOptionIp (optptr.put [dhcpOptionDnsServer, size]) o.dnsMain
    if o.dnsBackup ≠ 0 then dhcpsOptionIp optptr o.dnsBackup else optptr
  else if o.addDns then
    dhcpsOptionIp (optptr.put [dhcpOptionDnsServer, 4]) dhcps.serverAddress
  else optptr

/-- The URI of the captive portal, in `add_offer_options`. -/
def addCaptiveportalUri (o : OfferInfo) (optptr : Cursor) : Cursor :=
  match o.captiveportalUri with
  | some uri => (optptr.put [dhcpOptionCaptiveportalUri, UInt8.ofNat uri.length]).put uri
  | none => optptr

/-- `add_offer_options`. The options are written one behind the other, each from where the one
    before has ended. -/
def addOfferOptions (dhcps : Dhcps) (o : OfferInfo) (optptr : Cursor) : Cursor :=
  let optptr := dhcpsOptionIp (optptr.put [dhcpOptionSubnetMask, 4]) dhcps.dhcpsMask
  let optptr := (optptr.put [dhcpOptionLeaseTime, 4]).put (bytes32 dhcps.leaseTimer)
  let optptr := dhcpsOptionIp (optptr.put [dhcpOptionServerId, 4]) dhcps.serverAddress
  let optptr := addRouter o optptr
  let optptr := addDnsServers dhcps o optptr
  let optptr := dhcpsOptionIp (optptr.put [dhcpOptionBroadcastAddress, 4]) (broadcastAddr dhcps)
  let optptr := optptr.put [dhcpOptionInterfaceMtu, 2, 0x05, 0xdc]
  let optptr := addCaptiveportalUri o optptr
  let optptr := optptr.put [dhcpOptionPerformRouterDiscovery, 1, 0x00]
  optptr.put [43, 6, 0x01, 4, 0x00, 0x00, 0x00, 0x02]

/-- `add_end`. -/
def addEnd (optptr : Cursor) : Cursor := optptr.put [dhcpOptionEnd]

/-- `create_msg`. The client's own fields, its `xid` and its address among them, are left as they
    came in. -/
def createMsg (dhcps : Dhcps) (o : OfferInfo) (m : Buffer) : Buffer :=
  let m := m.store 0 [dhcpReply, dhcpHtypeEthernet, 6]
  let m := if o.staticEntries then m else m.store 10 (bytes16 0x8000)
  let m := m.store 16 (bytes32 (yiaddr dhcps))
  m.store 236 (bytes32 magicCookie)

/-- `dhcps_response_ip_set`: where the reply goes. With static entries it follows the relay and the
    client's own address, without them it is always broadcast. -/
def dhcpsResponseIpSet (o : OfferInfo) (m : Buffer) : Ip4 :=
  if o.staticEntries then
    let giaddr := be32 (m.mem.load 24 4) 0
    let ciaddr := be32 (m.mem.load 12 4) 0
    if giaddr ≠ 0 then giaddr
    else if ciaddr ≠ 0 then ciaddr
    else if be16 (m.mem.load 10 2) 0 < 0x8000 then be32 (m.mem.load 16 4) 0
    else 0xFFFFFFFF
  else 0xFFFFFFFF

/-- What goes out: the bytes of a reply, and where to. -/
structure Sent where
  data : List UInt8
  dest : Ip4
deriving DecidableEq, Repr

/-- The buffer of the message afterwards, and what was sent; `none` when there is no room for it. -/
structure Replied where
  message : Buffer
  sent : Option Sent

/-- The bytes of a message that are sent: `dhcps_pbuf_alloc`, and the copy. -/
def pbufOf (m : Buffer) (len : Nat) : List UInt8 :=
  m.mem.load 0 (if dhcpsMsgSize < len then len else dhcpsMsgSize)

/-- `send_offer`; `pbufAlloc` is whether there is a buffer for the reply. The message is written
    even where there is none, and is then dropped. -/
def sendOffer (dhcps : Dhcps) (o : OfferInfo) (m : Buffer) (len : Nat) (pbufAlloc : Bool) :
    Replied :=
  let m := createMsg dhcps o m
  let stop := addMsgType ⟨m, 240⟩ dhcpOffer
  let stop := addOfferOptions dhcps o stop
  let m := (addEnd stop).buf
  ⟨m, if pbufAlloc then some ⟨pbufOf m len, dhcpsResponseIpSet o m⟩ else none⟩

/-- `send_nak`. A refusal has no options but its type, and never goes to an address of the
    client. -/
def sendNak (dhcps : Dhcps) (o : OfferInfo) (m : Buffer) (len : Nat) (pbufAlloc : Bool) : Replied :=
  let m := createMsg dhcps o m
  let stop := addMsgType ⟨m, 240⟩ dhcpNak
  let m := (addEnd stop).buf
  let giaddr := be32 (m.mem.load 24 4) 0
  let dest := if o.staticEntries then if giaddr ≠ 0 then giaddr else 0xFFFFFFFF else 0xFFFFFFFF
  ⟨m, if pbufAlloc then some ⟨pbufOf m len, dest⟩ else none⟩

/-- `send_ack`. It differs from an offer in the message type only. -/
def sendAck (dhcps : Dhcps) (o : OfferInfo) (m : Buffer) (len : Nat) (pbufAlloc : Bool) : Replied :=
  let m := createMsg dhcps o m
  let stop := addMsgType ⟨m, 240⟩ dhcpAck
  let stop := addOfferOptions dhcps o stop
  let m := (addEnd stop).buf
  ⟨m, if pbufAlloc then some ⟨pbufOf m len, dhcpsResponseIpSet o m⟩ else none⟩

/-- The fields that `parse_msg` reads. The length of the options is a signed number, and a message
    that is shorter than its fixed part has none. -/
def DhcpsMsg.ofMemory (m : Memory) (totLen : Nat) : DhcpsMsg where
  ciaddr := be32 (m.load 12 4) 0
  chaddr := ⟨m 28, m 29, m 30, m 31, m 32, m 33⟩
  cookie := be32 (m.load 236 4) 0
  options := m.load 240 (totLen - 240)

/-- `p->tot_len`, as a number. -/
def totLen (p : List (List UInt8)) : Nat := (p.map List.length).sum

/-- The copy that `handle_dhcp` makes of the first two parts of a datagram; the rest of the buffer
    is zero. -/
def received (p : List (List UInt8)) : Buffer :=
  let pmsgDhcps := Buffer.alloc (max dhcpsMsgSize (totLen p)) fun _ => 0
  let pmsgDhcps := pmsgDhcps.store 0 (p.getD 0 [])
  pmsgDhcps.store (p.getD 0 []).length (p.getD 1 [])

/-- The message that `parse_msg` reads from a datagram. -/
def msgOf (p : List (List UInt8)) : DhcpsMsg := DhcpsMsg.ofMemory (received p).mem (totLen p)

/-- What `handle_dhcp` leaves: the server, the buffer of the message if there was one, and what it
    has sent. -/
structure Handled where
  dhcps : Dhcps
  message : Option Buffer
  sent : Option Sent

/-- `handle_dhcp` of a datagram in these parts; `memCalloc` and `pbufAlloc` are whether there is
    memory.  The length is kept in 16 bits with a sign, so that there is no buffer for a datagram
    of 32768 bytes or more. -/
def handleDhcp (lookup : Mac → Ip4) (o : OfferInfo) (memCalloc pbufAlloc : Bool) (dhcps : Dhcps)
    (p : List (List UInt8)) : Handled :=
  if memCalloc ∧ totLen p < 0x8000 then
    let m := received p
    let mallocLen := max dhcpsMsgSize (totLen p)
    let (dhcps, state) := parseMsg lookup dhcps (msgOf p)
    match state with
    | some .offer =>
      let r := sendOffer dhcps o m mallocLen pbufAlloc
      ⟨dhcps, some r.message, r.sent⟩
    | some .ack =>
      let r := sendAck dhcps o m mallocLen pbufAlloc
      ⟨dhcps, some r.message, r.sent⟩
    | some .nak =>
      let r := sendNak dhcps o m mallocLen pbufAlloc
      ⟨dhcps, some r.message, r.sent⟩
    | _ => ⟨dhcps, some m, none⟩
  else ⟨dhcps, none, none⟩

/-! ### What the options say -/

/-- The code and the data of an option. -/
def Item.value : Item → Option (UInt8 × List UInt8)
  | .pad => none
  | .option o => some (o.code, o.data)

/-- The bytes of an option. -/
def encodeOption (o : UInt8 × List UInt8) : List UInt8 := o.1 :: UInt8.ofNat o.2.length :: o.2

/-- An option that can be read: it is neither of the two single bytes, and its length fits into
    one. -/
def Readable (o : UInt8 × List UInt8) : Prop :=
  o.1 ≠ dhcpOptionPad ∧ o.1 ≠ dhcpOptionEnd ∧ o.2.length < 256

theorem readable {code : UInt8} {data : List UInt8}
    (hcode : code ≠ dhcpOptionPad ∧ code ≠ dhcpOptionEnd) (hlen : data.length < 256) :
    Readable (code, data) :=
  ⟨hcode.1, hcode.2, hlen⟩

/-- The router, as an option. -/
def routerOption (o : OfferInfo) : List (UInt8 × List UInt8) :=
  if dhcpsRouterEnabled o.dhcpsOffer ∧ o.gw ≠ 0 then [(dhcpOptionRouter, bytes32 o.gw)] else []

/-- The DNS servers, as an option. -/
def dnsOption (dhcps : Dhcps) (o : OfferInfo) : List (UInt8 × List UInt8) :=
  if dhcpsDnsEnabled o.dhcpsDns then
    [(dhcpOptionDnsServer,
      bytes32 o.dnsMain ++ if o.dnsBackup ≠ 0 then bytes32 o.dnsBackup else [])]
  else if o.addDns then [(dhcpOptionDnsServer, bytes32 dhcps.serverAddress)] else []

/-- The captive portal, as an option. -/
def uriOption (o : OfferInfo) : List (UInt8 × List UInt8) :=
  o.captiveportalUri.toList.map fun uri => (dhcpOptionCaptiveportalUri, uri)

/-- The options of an offer or an acknowledgement. -/
def offerOptions (dhcps : Dhcps) (o : OfferInfo) : List (UInt8 × List UInt8) :=
  [(dhcpOptionSubnetMask, bytes32 dhcps.dhcpsMask),
    (dhcpOptionLeaseTime, bytes32 dhcps.leaseTimer),
    (dhcpOptionServerId, bytes32 dhcps.serverAddress)] ++ routerOption o ++ dnsOption dhcps o ++
  [(dhcpOptionBroadcastAddress, bytes32 (broadcastAddr dhcps)),
    (dhcpOptionInterfaceMtu, [0x05, 0xdc])] ++ uriOption o ++
  [(dhcpOptionPerformRouterDiscovery, [0]), (43, [1, 4, 0, 0, 0, 2])]

/-- The options of the reply to a message with this state. Only three of the states are answered. -/
def replyOptions (dhcps : Dhcps) (o : OfferInfo) : DhcpsState → List (UInt8 × List UInt8)
  | .offer => (dhcpOptionMsgType, [dhcpOffer]) :: offerOptions dhcps o
  | .ack => (dhcpOptionMsgType, [dhcpAck]) :: offerOptions dhcps o
  | .nak => [(dhcpOptionMsgType, [dhcpNak])]
  | _ => []

variable {items : List Item} {tail rest bs : List UInt8} {opts : List (UInt8 × List UInt8)}
  {c d : Cursor} {dhcps : Dhcps} {o : OfferInfo} {m : Buffer} {state : DhcpsState}

/-- **Reading back.** Whoever walks over such options finds them, and nothing else. By induction on
    the options: the walk has to stop at the end of each. -/
theorem read_back (hopts : ∀ opt ∈ opts, Readable opt)
    (h : Splits (opts.flatMap encodeOption ++ dhcpOptionEnd :: rest) items tail) :
    items.filterMap Item.value = opts ∧ tail = dhcpOptionEnd :: rest := by
  induction opts generalizing items with
  | nil =>
    obtain ⟨heq, hstops⟩ := h
    rw [List.flatMap_nil, List.nil_append] at heq
    match items, heq with
    | [], heq => exact ⟨rfl, heq.symm⟩
    | .pad :: items, heq => cases heq
    | .option o :: items, heq => exact absurd (List.cons.inj heq).1.symm o.ne_end
  | cons opt opts ih =>
    obtain ⟨code, data⟩ := opt
    obtain ⟨⟨hpad, hend, hlen⟩, hrest⟩ := List.forall_mem_cons.mp hopts
    obtain ⟨heq, hstops⟩ := h
    rw [List.flatMap_cons, List.append_assoc, encodeOption, List.cons_append,
      List.cons_append] at heq
    have hlen' : (UInt8.ofNat data.length).toNat = data.length := UInt8.toNat_ofNat_of_lt' hlen
    match items, heq with
    | [], heq =>
      -- a walk does not stop at an option that is whole
      rw [List.flatMap_nil, List.nil_append] at heq
      rw [← heq] at hstops
      cases hstops with
      | endMark => exact absurd rfl hend
      | truncated hcode hshort =>
        rw [hlen', List.length_append] at hshort
        exact absurd hshort (Nat.not_lt.mpr (Nat.le_add_right _ _))
    | .pad :: items, heq => exact absurd (List.cons.inj heq).1 hpad
    | .option o :: items, heq =>
      rw [List.flatMap_cons, List.append_assoc, Item.encode, List.cons_append,
        List.cons_append] at heq
      obtain ⟨hcode, htail⟩ := List.cons.inj heq
      obtain ⟨hlength, hdata⟩ := List.cons.inj htail
      have hsame : data.length = o.data.length := by
        rw [← hlen', hlength]
        exact UInt8.toNat_ofNat_of_lt' o.length_lt
      obtain ⟨hdata, htail⟩ := List.append_inj hdata hsame
      obtain ⟨hitems, hend⟩ := ih hrest ⟨htail, hstops⟩
      refine ⟨?_, hend⟩
      dsimp only at hcode hdata
      rw [List.filterMap_cons_some (by rfl : Item.value (.option o) = _), hitems, hcode, hdata]

/-! ### What the pointer writes -/

/-- An option, its first two bytes and then its data. -/
theorem wrote_option (h : c.Wrote bs d) (code len : UInt8) {data : List UInt8}
    (hlen : len = UInt8.ofNat data.length) :
    c.Wrote (bs ++ encodeOption (code, data)) ((d.put [code, len]).put data) := by
  subst hlen
  have := (h.put [code, UInt8.ofNat data.length]).put data
  rw [List.append_assoc] at this
  exact this

theorem wrote_ip (h : c.Wrote bs d) (code : UInt8) (ip : Ip4) :
    c.Wrote (bs ++ encodeOption (code, bytes32 ip)) (dhcpsOptionIp (d.put [code, 4]) ip) :=
  wrote_option h code 4 rfl

theorem wrote_addRouter (o : OfferInfo) (h : c.Wrote bs d) :
    c.Wrote (bs ++ (routerOption o).flatMap encodeOption) (addRouter o d) := by
  unfold addRouter routerOption
  by_cases henabled : dhcpsRouterEnabled o.dhcpsOffer = true
  · by_cases hgw : o.gw ≠ 0
    · rw [if_pos henabled, if_pos hgw, if_pos ⟨henabled, hgw⟩, List.flatMap_singleton]
      exact wrote_option h dhcpOptionRouter 4 rfl
    · rw [if_pos henabled, if_neg hgw, if_neg fun hboth => hgw hboth.2, List.flatMap_nil,
        List.append_nil]
      exact h
  · rw [if_neg henabled, if_neg fun hboth => henabled hboth.1, List.flatMap_nil, List.append_nil]
    exact h

theorem wrote_addDnsServers (dhcps : Dhcps) (o : OfferInfo) (h : c.Wrote bs d) :
    c.Wrote (bs ++ (dnsOption dhcps o).flatMap encodeOption) (addDnsServers dhcps o d) := by
  unfold addDnsServers dnsOption
  split_ifs with henabled hbackup hadd
  · -- the second server goes behind the first
    rw [List.flatMap_singleton]
    have := (h.put [dhcpOptionDnsServer, 4 + 4]).put (bytes32 o.dnsMain)
    have := this.put (bytes32 o.dnsBackup)
    rw [List.append_assoc, List.append_assoc] at this
    exact this
  · rw [List.flatMap_singleton, List.append_nil]
    exact wrote_option h dhcpOptionDnsServer 4 rfl
  · rw [List.flatMap_singleton]
    exact wrote_option h dhcpOptionDnsServer 4 rfl
  · simpa using h

theorem wrote_addCaptiveportalUri (o : OfferInfo) (h : c.Wrote bs d) :
    c.Wrote (bs ++ (uriOption o).flatMap encodeOption) (addCaptiveportalUri o d) := by
  unfold addCaptiveportalUri uriOption
  cases o.captiveportalUri with
  | none => simpa using h
  | some uri =>
    rw [Option.toList_some, List.map_singleton, List.flatMap_singleton]
    exact wrote_option h dhcpOptionCaptiveportalUri _ rfl

/-- **The options of an offer.** -/
theorem wrote_addOfferOptions (h : c.Wrote bs d) :
    c.Wrote (bs ++ (offerOptions dhcps o).flatMap encodeOption) (addOfferOptions dhcps o d) := by
  unfold addOfferOptions offerOptions
  have hmask := wrote_ip h dhcpOptionSubnetMask dhcps.dhcpsMask
  have htime := wrote_ip hmask dhcpOptionLeaseTime dhcps.leaseTimer
  have hserver := wrote_ip htime dhcpOptionServerId dhcps.serverAddress
  have hdns := wrote_addDnsServers dhcps o (wrote_addRouter o hserver)
  have hbroadcast := wrote_ip hdns dhcpOptionBroadcastAddress (broadcastAddr dhcps)
  have hmtu := hbroadcast.put (encodeOption (dhcpOptionInterfaceMtu, [0x05, 0xdc]))
  have huri := wrote_addCaptiveportalUri o hmtu
  have hlast := (huri.put (encodeOption (dhcpOptionPerformRouterDiscovery, [0]))).put
    (encodeOption (43, [1, 4, 0, 0, 0, 2]))
  simp only [List.flatMap_append, List.flatMap_cons, List.flatMap_nil, List.append_nil,
    List.append_assoc] at hlast ⊢
  exact hlast

/-! ### One reply -/

/-- A reply in the buffer of this message: the fields are set, the options are written from the
    cookie on, and the buffer is sent. -/
structure Answers (dhcps : Dhcps) (o : OfferInfo) (m : Buffer) (len : Nat) (state : DhcpsState)
    (r : Replied) : Prop where
  wrote : ∃ stop : Cursor, r.message = stop.buf ∧ Cursor.Wrote ⟨createMsg dhcps o m, 240⟩
    ((replyOptions dhcps o state).flatMap encodeOption ++ [dhcpOptionEnd]) stop
  sent : ∀ sent ∈ r.sent, sent.data = pbufOf r.message len

theorem answers_sendOffer (dhcps : Dhcps) (o : OfferInfo) (m : Buffer) (len : Nat)
    (pbufAlloc : Bool) : Answers dhcps o m len .offer (sendOffer dhcps o m len pbufAlloc) where
  wrote := by
    have htype := (Cursor.Wrote.nil ⟨createMsg dhcps o m, 240⟩).put
      (encodeOption (dhcpOptionMsgType, [dhcpOffer]))
    exact ⟨_, rfl, (wrote_addOfferOptions htype).put [dhcpOptionEnd]⟩
  sent := by
    cases pbufAlloc with
    | false => simp [sendOffer]
    | true => simp [sendOffer]

theorem answers_sendAck (dhcps : Dhcps) (o : OfferInfo) (m : Buffer) (len : Nat)
    (pbufAlloc : Bool) : Answers dhcps o m len .ack (sendAck dhcps o m len pbufAlloc) where
  wrote := by
    have htype := (Cursor.Wrote.nil ⟨createMsg dhcps o m, 240⟩).put
      (encodeOption (dhcpOptionMsgType, [dhcpAck]))
    exact ⟨_, rfl, (wrote_addOfferOptions htype).put [dhcpOptionEnd]⟩
  sent := by
    cases pbufAlloc with
    | false => simp [sendAck]
    | true => simp [sendAck]

theorem answers_sendNak (dhcps : Dhcps) (o : OfferInfo) (m : Buffer) (len : Nat)
    (pbufAlloc : Bool) : Answers dhcps o m len .nak (sendNak dhcps o m len pbufAlloc) where
  wrote := by
    have htype := (Cursor.Wrote.nil ⟨createMsg dhcps o m, 240⟩).put
      (encodeOption (dhcpOptionMsgType, [dhcpNak]))
    exact ⟨_, rfl, htype.put [dhcpOptionEnd]⟩
  sent := by
    cases pbufAlloc with
    | false => simp [sendNak]
    | true => simp [sendNak]

/-- The options of a reply fit behind the cookie, with the mark at their end. The sum is over the
    options that a reply may have, the longest URI included. -/
theorem length_replyOptions_le (dhcps : Dhcps) (state : DhcpsState)
    (huri : ∀ uri ∈ o.captiveportalUri, uri.length ≤ 247) :
    ((replyOptions dhcps o state).flatMap encodeOption).length ≤ 307 := by
  -- Each piece that is there or not has its own bound; the URI is the only long one.
  have hrouter : ((routerOption o).flatMap encodeOption).length ≤ 6 := by
    unfold routerOption
    split <;> simp [encodeOption]
  have hdns : ((dnsOption dhcps o).flatMap encodeOption).length ≤ 10 := by
    unfold dnsOption
    split_ifs <;> simp [encodeOption]
  have huri' : ((uriOption o).flatMap encodeOption).length ≤ 249 := by
    unfold uriOption
    cases h : o.captiveportalUri with
    | none => simp
    | some uri =>
      have := huri uri h
      simp only [Option.toList_some, List.map_singleton, List.flatMap_singleton, encodeOption,
        List.length_cons]
      omega
  have hoffer : ((offerOptions dhcps o).flatMap encodeOption).length ≤ 304 := by
    unfold offerOptions
    simp only [List.flatMap_append, List.length_append, List.flatMap_cons, List.flatMap_nil,
      encodeOption, List.length_cons, List.length_nil, length_bytes32] at *
    omega
  -- An offer and an acknowledgement are the offer options behind the message type.
  cases state <;>
    simp only [replyOptions, List.flatMap_cons, List.flatMap_nil, encodeOption,
      List.length_append, List.length_cons, List.length_nil] <;> omega

/-- Every option of a reply can be read. Its length has to fit a byte, which is where the bound on
    the URI comes from. -/
theorem readable_replyOptions (huri : ∀ uri ∈ o.captiveportalUri, uri.length ≤ 247) :
    ∀ opt ∈ replyOptions dhcps o state, Readable opt := by
  -- An option can be read if its code is neither padding nor the end, and its length is a byte.
  have hrouter : ∀ opt ∈ routerOption o, Readable opt := by
    unfold routerOption
    split
    · exact List.forall_mem_singleton.mpr (readable (by decide) (by simp))
    · exact List.forall_mem_nil _
  have hdns : ∀ opt ∈ dnsOption dhcps o, Readable opt := by
    unfold dnsOption
    split_ifs
    · exact List.forall_mem_singleton.mpr (readable (by decide) (by simp))
    · exact List.forall_mem_singleton.mpr (readable (by decide) (by simp))
    · exact List.forall_mem_singleton.mpr (readable (by decide) (by simp))
    · exact List.forall_mem_nil _
  have huri' : ∀ opt ∈ uriOption o, Readable opt := by
    -- The URI's length is the bound of the hypothesis, below 256.
    intro opt hopt
    obtain ⟨uri, hmem, rfl⟩ := List.mem_map.mp hopt
    have := huri uri (Option.mem_toList.mp hmem)
    exact readable (by decide) (Nat.lt_of_le_of_lt this (by decide))
  have hoffer : ∀ opt ∈ offerOptions dhcps o, Readable opt := by
    unfold offerOptions
    simp only [List.forall_mem_append, List.forall_mem_cons]
    refine ⟨⟨⟨⟨⟨⟨?_, ?_, ?_, List.forall_mem_nil _⟩, hrouter⟩, hdns⟩, ?_, ?_,
      List.forall_mem_nil _⟩, huri'⟩, ?_, ?_, List.forall_mem_nil _⟩
    all_goals exact readable (by decide) (by simp)
  cases state with
  | offer | ack => exact List.forall_mem_cons.mpr ⟨readable (by decide) (by simp), hoffer⟩
  | nak => exact List.forall_mem_singleton.mpr (readable (by decide) (by simp))
  | decline | idle | release => exact List.forall_mem_nil _

/-! ### One datagram -/

variable {lookup : Mac → Ip4} {p : List (List UInt8)} {memCalloc pbufAlloc : Bool}

/-- What `handle_dhcp` does with a datagram: nothing is there afterwards, or nothing is sent, or
    there is the reply to an offer, an acknowledgement or a refusal. -/
theorem handleDhcp_cases (lookup : Mac → Ip4) (o : OfferInfo) (memCalloc pbufAlloc : Bool)
    (dhcps : Dhcps) (p : List (List UInt8)) :
    (handleDhcp lookup o memCalloc pbufAlloc dhcps p).message = none ∧
        (handleDhcp lookup o memCalloc pbufAlloc dhcps p).sent = none ∨
      (handleDhcp lookup o memCalloc pbufAlloc dhcps p).message = some (received p) ∧
        (handleDhcp lookup o memCalloc pbufAlloc dhcps p).sent = none ∨
      ∃ state r, (parseMsg lookup dhcps (msgOf p)).2 = some state ∧
        (state = .offer ∨ state = .ack ∨ state = .nak) ∧
        Answers (parseMsg lookup dhcps (msgOf p)).1 o (received p) (max dhcpsMsgSize (totLen p))
          state r ∧
        (handleDhcp lookup o memCalloc pbufAlloc dhcps p).message = some r.message ∧
        (handleDhcp lookup o memCalloc pbufAlloc dhcps p).sent = r.sent := by
  unfold handleDhcp
  split
  -- The `switch` over the state: three of them send, the others free the buffer.
  · rcases parseMsg lookup dhcps (msgOf p) with ⟨dhcps, state⟩
    match state with
    | some .offer =>
      exact .inr (.inr ⟨.offer, _, rfl, .inl rfl, answers_sendOffer _ _ _ _ _, rfl, rfl⟩)
    | some .ack =>
      exact .inr (.inr ⟨.ack, _, rfl, .inr (.inl rfl), answers_sendAck _ _ _ _ _, rfl, rfl⟩)
    | some .nak =>
      exact .inr (.inr ⟨.nak, _, rfl, .inr (.inr rfl), answers_sendNak _ _ _ _ _, rfl, rfl⟩)
    | none | some .decline | some .idle | some .release => exact .inr (.inl ⟨rfl, rfl⟩)
  · exact .inl ⟨rfl, rfl⟩

/-- The buffer has room for the datagram. -/
theorem inBounds_received (p : List (List UInt8)) : (received p).InBounds := by
  have hparts : (p.getD 0 []).length + (p.getD 1 []).length ≤ totLen p := by
    match p with
    | [] => exact Nat.zero_le _
    | [first] => simp [totLen]
    | first :: second :: rest =>
      simp only [totLen, List.getD_cons_zero, List.getD_cons_succ, List.map_cons, List.sum_cons]
      omega
  unfold received
  rw [Buffer.inBounds_store, Buffer.inBounds_store]
  refine ⟨⟨Buffer.inBounds_alloc _ _, .inr ?_⟩, .inr ?_⟩
  · show 0 + _ ≤ max dhcpsMsgSize (totLen p)
    omega
  · show _ ≤ max dhcpsMsgSize (totLen p)
    omega

theorem cap_createMsg (dhcps : Dhcps) (o : OfferInfo) (m : Buffer) :
    (createMsg dhcps o m).cap = m.cap := by
  unfold createMsg
  split <;> rfl

theorem inBounds_createMsg (h : m.InBounds) (hcap : dhcpsMsgSize ≤ m.cap) :
    (createMsg dhcps o m).InBounds := by
  have hsize : dhcpsMsgSize = 548 := rfl
  unfold createMsg
  dsimp only
  rw [Buffer.inBounds_store, Buffer.inBounds_store]
  split
  · rw [Buffer.inBounds_store]
    refine ⟨⟨⟨h, .inr ?_⟩, .inr ?_⟩, .inr ?_⟩ <;> simp <;> omega
  · rw [Buffer.inBounds_store, Buffer.inBounds_store]
    refine ⟨⟨⟨⟨h, .inr ?_⟩, .inr ?_⟩, .inr ?_⟩, .inr ?_⟩ <;> simp <;> omega

/-- **Nothing is written outside the buffer**, whatever comes in and whatever is sent. It holds of
    the stores as they are made, and not just of the bytes that are sent. -/
theorem handle_dhcp_stays_inside (lookup : Mac → Ip4) (o : OfferInfo)
    (huri : ∀ uri ∈ o.captiveportalUri, uri.length ≤ 247) (memCalloc pbufAlloc : Bool)
    (dhcps : Dhcps) (p : List (List UInt8)) :
    ∀ m ∈ (handleDhcp lookup o memCalloc pbufAlloc dhcps p).message, m.InBounds := by
  intro m hm
  -- Nothing is there, or the datagram as it came, or a reply that was written into it.
  obtain ⟨hmsg, -⟩ | ⟨hmsg, -⟩ | ⟨state, r, -, -, hanswers, hmsg, -⟩ :=
    handleDhcp_cases lookup o memCalloc pbufAlloc dhcps p
  · rw [hmsg] at hm
    cases hm
  · rw [hmsg] at hm
    obtain rfl := Option.some.inj hm
    exact inBounds_received p
  · rw [hmsg] at hm
    obtain rfl := Option.some.inj hm
    obtain ⟨stop, hstop, hwrote⟩ := hanswers.wrote
    have hcap : (received p).cap = max dhcpsMsgSize (totLen p) := rfl
    have hsize : dhcpsMsgSize = 548 := rfl
    rw [hstop, hwrote.inBounds]
    refine ⟨inBounds_createMsg (inBounds_received p) (by omega), .inr ?_⟩
    -- The options of the longest reply still fit behind the cookie.
    have hlen := length_replyOptions_le (parseMsg lookup dhcps (msgOf p)).1 state huri
    rw [List.length_append, List.length_singleton, cap_createMsg, hcap]
    show 240 + _ ≤ _
    omega

/-- A `DHCPDISCOVER` of the first client, in two parts: the fields and the cookie, and the
    options. -/
def discoverDatagram : List (List UInt8) :=
  [[1, 1, 6, 0, 1, 2, 3, 4] ++ List.replicate 20 0 ++ [2, 0, 0, 0, 0, 1] ++
      List.replicate 202 0 ++ [99, 130, 83, 99], [53, 1, 1, 255]]

/-- The gateway is the router, and the client asks it for names. -/
def gatewayInfo : OfferInfo := ⟨true, true, 1, 2, 0xC0A80401, 0, none, 0xC0A80401⟩

/-- The answer to a client in two parts stays inside. -/
theorem discover_stays_inside : ∃ dhcps ∈ started 0xC0A80401,
    ∀ m ∈ (handleDhcp (fun _ => 0) gatewayInfo true true dhcps discoverDatagram).message,
      m.InBounds := by
  obtain ⟨dhcps, hstart⟩ := Option.isSome_iff_exists.mp
    (show (started 0xC0A80401).isSome = true by decide +kernel)
  exact ⟨dhcps, hstart, handle_dhcp_stays_inside (fun _ => 0) gatewayInfo
    (by intro uri h; cases h) true true dhcps discoverDatagram⟩

/-! ### Reading it back -/

/-- What a client reads in a reply to its datagram.  `dhcps` is the server after it, and `state`
    what it has decided. -/
structure ReadsBack (dhcps : Dhcps) (o : OfferInfo) (p : List (List UInt8)) (state : DhcpsState)
    (data : List UInt8) (items : List Item) : Prop where
  length : data.length = max dhcpsMsgSize (totLen p)
  kind : data.take 3 = [dhcpReply, dhcpHtypeEthernet, 6]
  xid : (data.drop 4).take 4 = (received p).mem.load 4 4
  chaddr : (data.drop 28).take 16 = (received p).mem.load 28 16
  address : be32 data 16 = yiaddr dhcps
  cookie : be32 data 236 = magicCookie
  options : items.filterMap Item.value = replyOptions dhcps o state

/-- What `create_msg` leaves alone. -/
theorem load_createMsg_of_disjoint (dhcps : Dhcps) (o : OfferInfo) (m : Buffer) {off n : Nat}
    (h : 3 ≤ off ∧ off + n ≤ 10 ∨ 20 ≤ off ∧ off + n ≤ 236) :
    (createMsg dhcps o m).mem.load off n = m.mem.load off n := by
  have hcookie : (bytes32 magicCookie).length = 4 := rfl
  have hyiaddr : (bytes32 (yiaddr dhcps)).length = 4 := rfl
  have hkind : [dhcpReply, dhcpHtypeEthernet, 6].length = 3 := rfl
  unfold createMsg
  rw [Buffer.mem_store, Buffer.mem_store, Memory.load_store_disjoint _ (by omega),
    Memory.load_store_disjoint _ (by omega)]
  split
  · rw [Buffer.mem_store, Memory.load_store_disjoint _ (by omega)]
  · rw [Buffer.mem_store, Buffer.mem_store,
      Memory.load_store_disjoint _ (by rw [length_bytes16]; omega),
      Memory.load_store_disjoint _ (by omega)]

/-- What `create_msg` puts into the fields. -/
theorem load_createMsg (dhcps : Dhcps) (o : OfferInfo) (m : Buffer) :
    (createMsg dhcps o m).mem.load 0 3 = [dhcpReply, dhcpHtypeEthernet, 6] ∧
      (createMsg dhcps o m).mem.load 16 4 = bytes32 (yiaddr dhcps) ∧
        (createMsg dhcps o m).mem.load 236 4 = bytes32 magicCookie := by
  unfold createMsg
  refine ⟨?_, ?_, Memory.load_store_self _ _ _⟩
  · rw [Buffer.mem_store, Buffer.mem_store, Memory.load_store_disjoint _ (.inl (by decide)),
      Memory.load_store_disjoint _ (.inl (by decide))]
    split
    · exact Memory.load_store_self _ _ [dhcpReply, dhcpHtypeEthernet, 6]
    · rw [Buffer.mem_store, Memory.load_store_disjoint _ (.inl (by decide))]
      exact Memory.load_store_self _ _ [dhcpReply, dhcpHtypeEthernet, 6]
  · rw [Buffer.mem_store, Buffer.mem_store, Memory.load_store_disjoint _ (.inl (by decide))]
    exact Memory.load_store_self _ _ (bytes32 _)

/-- **One reply.** Whoever reads a reply finds what it was made of. The fixed fields stand in front,
    and `read_back` is about what is behind them. -/
theorem readsBack_of_answers {r : Replied} {sent : Sent}
    (huri : ∀ uri ∈ o.captiveportalUri, uri.length ≤ 247)
    (h : Answers dhcps o (received p) (max dhcpsMsgSize (totLen p)) state r)
    (hsent : sent ∈ r.sent) (hsplits : Splits (sent.data.drop 240) items tail) :
    ReadsBack dhcps o p state sent.data items := by
  have hsize : dhcpsMsgSize = 548 := rfl
  obtain ⟨stop, hstop, hwrote⟩ := h.wrote
  have hlen : (if dhcpsMsgSize < max dhcpsMsgSize (totLen p) then max dhcpsMsgSize (totLen p)
      else dhcpsMsgSize) = max dhcpsMsgSize (totLen p) := by
    split <;> omega
  have hdata : sent.data = stop.buf.mem.load 0 (max dhcpsMsgSize (totLen p)) := by
    rw [h.sent sent hsent, pbufOf, hlen, hstop]
  generalize hn : max dhcpsMsgSize (totLen p) = n at *
  have hfit : 548 ≤ n := by omega
  -- in front of the options the message is as `create_msg` has left it
  have hfront : ∀ off k, off + k ≤ 240 →
      stop.buf.mem.load off k = (createMsg dhcps o (received p)).mem.load off k := fun off k hk =>
    hwrote.load_disjoint (.inl hk)
  have hpart : ∀ off k, off + k ≤ n →
      (sent.data.drop off).take k = stop.buf.mem.load off k := by
    intro off k hk
    rw [hdata, Memory.drop_load _ _ (by omega), Memory.take_load _ _ (by omega), Nat.zero_add]
  obtain ⟨hkind, hyiaddr, hcookie⟩ := load_createMsg dhcps o (received p)
  constructor
  · rw [hdata, Memory.length_load, hn]
  · have := hpart 0 3 (by omega)
    rw [List.drop_zero] at this
    rw [this, hfront 0 3 (by omega), hkind]
  · rw [hpart 4 4 (by omega), hfront 4 4 (by omega),
      load_createMsg_of_disjoint _ _ _ (.inl ⟨by omega, by omega⟩)]
  · rw [hpart 28 16 (by omega), hfront 28 16 (by omega),
      load_createMsg_of_disjoint _ _ _ (.inr ⟨by omega, by omega⟩)]
  · rw [hdata, Memory.be32_load _ _ (by omega), Nat.zero_add, hfront 16 4 (by omega), hyiaddr]
    exact be32_bytes32 _ []
  · rw [hdata, Memory.be32_load _ _ (by omega), Nat.zero_add, hfront 236 4 (by omega), hcookie]
    exact be32_bytes32 _ []
  · -- the options are what was written, up to the mark
    have hbytes := hwrote.load
    have hle := length_replyOptions_le dhcps state huri
    generalize hbs : (replyOptions dhcps o state).flatMap encodeOption ++ [dhcpOptionEnd] = bs at *
    have hbslen : bs.length ≤ 308 := by
      rw [← hbs, List.length_append, List.length_singleton]
      omega
    have hrest : sent.data.drop 240 =
        (replyOptions dhcps o state).flatMap encodeOption ++
          dhcpOptionEnd :: stop.buf.mem.load (240 + bs.length) (n - 240 - bs.length) := by
      have hsplit : n - 240 = bs.length + (n - 240 - bs.length) := by omega
      rw [hdata, Memory.drop_load _ _ (by omega), Nat.zero_add, hsplit, Memory.load_add, hbytes,
        ← hbs, List.append_assoc, List.singleton_append, hbs, ← hsplit]
    rw [hrest] at hsplits
    exact (read_back (readable_replyOptions huri) hsplits).1

/-- **The reply reads back.** Whoever reads the reply to a datagram finds its own `xid` and
    hardware address, the address that the server has decided on, and these options, each once; and
    the address and the time in an offer or an acknowledgement are those of the lease that the
    server keeps. -/
theorem reply_reads_back (lookup : Mac → Ip4) (o : OfferInfo)
    (huri : ∀ uri ∈ o.captiveportalUri, uri.length ≤ 247) (memCalloc pbufAlloc : Bool)
    (dhcps : Dhcps) (p : List (List UInt8)) (sent : Sent)
    (hsent : sent ∈ (handleDhcp lookup o memCalloc pbufAlloc dhcps p).sent) (items : List Item)
    (tail : List UInt8) (hsplits : Splits (sent.data.drop 240) items tail) :
    ∃ state, (parseMsg lookup dhcps (msgOf p)).2 = some state ∧
      ReadsBack (parseMsg lookup dhcps (msgOf p)).1 o p state sent.data items ∧
        (state ≠ .nak → ∃ pool,
          (parseMsg lookup dhcps (msgOf p)).1.lease (msgOf p).chaddr = some pool ∧
            pool.ip = be32 sent.data 16 ∧
              (dhcpOptionLeaseTime, bytes32 pool.leaseTimer) ∈ items.filterMap Item.value) := by
  -- Something was sent, so the case with an answer is the only one left.
  obtain ⟨-, hnone⟩ | ⟨-, hnone⟩ | ⟨state, r, hstate, hkind, hanswers, -, hr⟩ :=
    handleDhcp_cases lookup o memCalloc pbufAlloc dhcps p
  · rw [hnone] at hsent
    cases hsent
  · rw [hnone] at hsent
    cases hsent
  · rw [hr] at hsent
    have hreads := readsBack_of_answers huri hanswers hsent hsplits
    refine ⟨state, hstate, hreads, fun hnak => ?_⟩
    have hreply : state = .offer ∨ state = .ack := by
      obtain h | h | h := hkind
      · exact .inl h
      · exact .inr h
      · exact absurd h hnak
    -- The lease that the answer leaves behind has the address and the time that it tells.
    obtain ⟨-, hostname, hlease⟩ := Dhcps.lease_of_reply hstate hreply
    refine ⟨_, hlease, hreads.address.symm, ?_⟩
    rw [hreads.options, ← Dhcps.parseMsg_leaseTimer lookup dhcps (msgOf p)]
    have htime : ∀ d : Dhcps, (dhcpOptionLeaseTime, bytes32 d.leaseTimer) ∈ offerOptions d o := by
      intro d
      simp [offerOptions]
    obtain rfl | rfl := hreply
    · exact List.mem_cons_of_mem _ (htime _)
    · exact List.mem_cons_of_mem _ (htime _)

/-- The first client reads its offer. -/
theorem offer_reads_back : ∃ dhcps ∈ started 0xC0A80401,
    ∃ sent ∈ (handleDhcp (fun _ => 0) gatewayInfo true true dhcps discoverDatagram).sent,
      ∃ items state, (parseMsg (fun _ => 0) dhcps (msgOf discoverDatagram)).2 = some state ∧
        ReadsBack (parseMsg (fun _ => 0) dhcps (msgOf discoverDatagram)).1 gatewayInfo
          discoverDatagram state sent.data items := by
  obtain ⟨dhcps, hstart⟩ := Option.isSome_iff_exists.mp
    (show (started 0xC0A80401).isSome = true by decide +kernel)
  have hsome : ∀ dhcps ∈ started 0xC0A80401,
      (handleDhcp (fun _ => 0) gatewayInfo true true dhcps discoverDatagram).sent.isSome := by
    decide +kernel
  obtain ⟨sent, hsent⟩ := Option.isSome_iff_exists.mp (hsome dhcps hstart)
  obtain ⟨items, tail, hsplits⟩ := exists_splits (sent.data.drop 240)
  obtain ⟨state, hstate, hreads, -⟩ := reply_reads_back (fun _ => 0) gatewayInfo
    (by intro uri h; cases h) true true dhcps discoverDatagram sent hsent items tail hsplits
  exact ⟨dhcps, hstart, sent, hsent, items, state, hstate, hreads⟩

end SubnetRouter.Dhcp
