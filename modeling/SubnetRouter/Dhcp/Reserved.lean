import SubnetRouter.Dhcp.Leases
import SubnetRouter.Dhcp.OptionWalk

namespace SubnetRouter.Dhcp

open Lib

/-!
# Reserved addresses

`parse_msg` replaces the address from the pool by the reserved one, "regardless of pool range", in
front of the two checks that compare the address with the end of the pool.

* `Asks`, `Honoured` — a client asks for its address, and gets it.
* `parseMsg_reserved` — the answer to the message of such a client.
* `reservation_honoured_iff` — which reservations are honoured.
-/

/-- The message asks for an address, and this state answers it: a `DHCPDISCOVER`, which takes any
    address, or a `DHCPREQUEST` for this one.  A client that has no lease names it in an
    option. -/
inductive Asks (m : DhcpsMsg) (ip : Ip4) : DhcpsState → Prop
  | discover {items : List Item} {tail : List UInt8} (hsplits : Splits m.options items tail)
      (htype : lastMsgType items = some dhcpDiscover) : Asks m ip .offer
  | request {items : List Item} {tail : List UInt8} (hsplits : Splits m.options items tail)
      (htype : lastMsgType items = some dhcpRequest) (hreq : lastReqIpaddr items = some ip) :
      Asks m ip .ack

/-- What `create_msg` puts into the answer. -/
def yiaddr (dhcps : Dhcps) : Ip4 := dhcps.clientAddress

/-- The server answers with the address, and there is a lease of it for the client. -/
structure Honoured (s : State) (m : DhcpsMsg) (ip : Ip4) (reply : DhcpsState) : Prop where
  reply : (parseMsg s.lookup s.dhcps m).2 = some reply
  address : yiaddr (parseMsg s.lookup s.dhcps m).1 = ip
  lease : ∃ pool ∈ (parseMsg s.lookup s.dhcps m).1.plist, pool.mac = m.chaddr ∧ pool.ip = ip

variable {s : State} {m : DhcpsMsg} {ip : Ip4} {reply : DhcpsState} {dhcps : Dhcps}

/-- The options of such a message give the state that answers it. -/
theorem Asks.parseOptions (h : Asks m ip reply) (renew : Bool) :
    (parseOptions ip renew m.options).1 = reply := by
  cases h with
  | discover hsplits htype => rw [parseOptions_items hsplits, stateOf, if_pos htype]
  | request hsplits htype hreq =>
    have hdiscover : (some dhcpRequest : Option UInt8) ≠ some dhcpDiscover := by decide
    rw [parseOptions_items hsplits, stateOf, htype, hreq, if_neg hdiscover, if_pos rfl,
      if_neg (Option.some_ne_none ip), reqState, if_pos rfl]

theorem Asks.reply_eq (h : Asks m ip reply) : reply = .offer ∨ reply = .ack := by
  cases h with
  | discover => exact .inl rfl
  | request => exact .inr rfl

/-- After `POOL_CHECK` a message that asks for the address at hand is answered with it, and no
    lease is lost. -/
theorem poolCheck_asks (hfit : dhcps.Leasable dhcps.clientAddress)
    (hasks : Asks m dhcps.clientAddress reply) (hasNode : Bool) :
    (dhcps.poolCheck m hasNode).2 = reply ∧
      (dhcps.poolCheck m hasNode).1.clientAddress = dhcps.clientAddress ∧
      (dhcps.poolCheck m hasNode).1.plist.map (fun pool => (pool.mac, pool.ip)) =
        dhcps.plist.map (fun pool => (pool.mac, pool.ip)) := by
  have hin : ¬ (networkOrder dhcps.clientAddress > networkOrder dhcps.dhcpsPoll.endIp ∨
      dhcps.clientAddress = 0) := fun h => h.elim hfit.1.not_gt hfit.2
  have hret := hasks.parseOptions dhcps.renew
  have hstay : ¬ (reply = .release ∨ reply = .nak ∨ reply = .decline) := by
    rcases hasks.reply_eq with rfl | rfl <;> decide
  simp only [Dhcps.poolCheck, if_neg hin, hret, if_neg hstay]
  refine ⟨trivial, trivial, ?_⟩
  split
  · refine Dhcps.map_updateNode ?_ m.chaddr dhcps.plist
    exact fun _ => rfl
  · rfl

/-- An address above the end of the pool is refused. -/
theorem poolCheck_above (habove : networkOrder dhcps.dhcpsPoll.endIp <
    networkOrder dhcps.clientAddress) (hasNode : Bool) :
    (dhcps.poolCheck m hasNode).2 = .nak := by
  simp only [Dhcps.poolCheck, if_pos (Or.inl habove)]

/-- The message of a client without a lease that has a reservation is handled with that address. -/
theorem parseMsg_reserved {lookup : Mac → Ip4} (hcookie : m.cookie = magicCookie)
    (hnew : m.chaddr ∉ dhcps.macs) (hres : lookup m.chaddr ≠ 0) :
    ∃ d : Dhcps, d.plist = dhcps.plist ∧ d.dhcpsPoll = dhcps.dhcpsPoll ∧
      parseMsg lookup dhcps m =
        (((d.enterLease m.chaddr (lookup m.chaddr)).1.poolCheck m
            (d.enterLease m.chaddr (lookup m.chaddr)).2).1,
          some ((d.enterLease m.chaddr (lookup m.chaddr)).1.poolCheck m
            (d.enterLease m.chaddr (lookup m.chaddr)).2).2) := by
  obtain ⟨d, hd, hlist, hpoll, -⟩ := Dhcps.findLease_new lookup hnew
  refine ⟨d, hlist, hpoll, ?_⟩
  rw [parseMsg, if_neg (not_not.mpr hcookie), hd, Dhcps.candidate_of_reserved hres]

/-- Up to the end of the pool the reservation is honoured. -/
theorem honoured_of_le (hcookie : m.cookie = magicCookie) (hnew : m.chaddr ∉ s.dhcps.macs)
    (hres : s.lookup m.chaddr ≠ 0) (hasks : Asks m (s.lookup m.chaddr) reply)
    (hle : networkOrder (s.lookup m.chaddr) ≤ networkOrder s.dhcps.dhcpsPoll.endIp) :
    Honoured s m (s.lookup m.chaddr) reply := by
  obtain ⟨d, hlist, hpoll, hmsg⟩ := parseMsg_reserved hcookie hnew hres
  obtain ⟨hclient, -, hpoll', -⟩ := d.enterLease_frame m.chaddr (s.lookup m.chaddr)
  obtain ⟨-, hinsert⟩ := Dhcps.enterLease_of_le (hpoll ▸ hle) m.chaddr
  have hfit : (d.enterLease m.chaddr (s.lookup m.chaddr)).1.Leasable
      (d.enterLease m.chaddr (s.lookup m.chaddr)).1.clientAddress := by
    rw [Dhcps.Leasable, hclient, hpoll', hpoll]
    exact ⟨hle, hres⟩
  obtain ⟨hreply, haddress, hpools⟩ := poolCheck_asks hfit (hclient.symm ▸ hasks)
    (d.enterLease m.chaddr (s.lookup m.chaddr)).2
  refine ⟨?_, ?_, ?_⟩
  · rw [hmsg, hreply]
  · rw [hmsg, yiaddr, haddress, hclient]
  · -- the lease has been entered, and its pair of client and address stays
    have hmem : (m.chaddr, s.lookup m.chaddr) ∈
        (parseMsg s.lookup s.dhcps m).1.plist.map (fun pool => (pool.mac, pool.ip)) := by
      rw [hmsg, hpools, hinsert]
      exact ((Dhcps.perm_nodeInsertToList _ d.plist _).mem_iff).mpr List.mem_cons_self
    obtain ⟨pool, hpool, heq⟩ := List.mem_map.mp hmem
    exact ⟨pool, hpool, congrArg Prod.fst heq, congrArg Prod.snd heq⟩

/-- Above it the answer is `DHCPNAK`. -/
theorem parseMsg_above (hcookie : m.cookie = magicCookie) (hnew : m.chaddr ∉ s.dhcps.macs)
    (hres : s.lookup m.chaddr ≠ 0)
    (habove : networkOrder s.dhcps.dhcpsPoll.endIp < networkOrder (s.lookup m.chaddr)) :
    (parseMsg s.lookup s.dhcps m).2 = some .nak := by
  obtain ⟨d, -, hpoll, hmsg⟩ := parseMsg_reserved hcookie hnew hres
  obtain ⟨hclient, -, hpoll', -⟩ := d.enterLease_frame m.chaddr (s.lookup m.chaddr)
  rw [hmsg, poolCheck_above (by rw [hclient, hpoll', hpoll]; exact habove)]

/-- **Reservations.** A client without a lease that asks for its reserved address gets it exactly
    if that is not above the end of the pool, as the words compare in network order. -/
theorem reservation_honoured_iff (hcookie : m.cookie = magicCookie)
    (hnew : m.chaddr ∉ s.dhcps.macs) (hlookup : s.lookup m.chaddr = ip) (hne : ip ≠ 0)
    (hasks : Asks m ip reply) :
    Honoured s m ip reply ↔ networkOrder ip ≤ networkOrder s.dhcps.dhcpsPoll.endIp := by
  subst hlookup
  constructor
  · intro h
    by_contra habove
    have hnak := parseMsg_above hcookie hnew hne (not_le.mp habove)
    rw [h.reply, Option.some.injEq] at hnak
    rcases hasks.reply_eq with rfl | rfl <;> cases hnak
  · exact honoured_of_le hcookie hnew hne hasks

/-- Its only option is the message type. -/
theorem asks_discover (mac : Mac) (ip : Ip4) : Asks (discover mac) ip .offer := by
  let type : DhcpOption :=
    ⟨dhcpOptionMsgType, [dhcpDiscover], by decide, by decide, by decide⟩
  have hsplits : Splits (discover mac).options [.option type] [dhcpOptionEnd] :=
    ⟨rfl, .endMark []⟩
  exact .discover hsplits rfl

/-- The access point with its default pool, and a reservation for one client. -/
def withReservation (ip : Ip4) (dhcps : Dhcps) : State := ⟨dhcps, [⟨firstMac, ip, true⟩]⟩

/-- An address in the pool is honoured. -/
theorem reservation_in_pool : ∃ dhcps ∈ started 0xC0A80401,
    Honoured (withReservation 0xC0A8040A dhcps) (discover firstMac) 0xC0A8040A .offer := by
  have hle : ∀ dhcps ∈ started 0xC0A80401, firstMac ∉ dhcps.macs ∧
      networkOrder 0xC0A8040A ≤ networkOrder dhcps.dhcpsPoll.endIp := by decide +kernel
  obtain ⟨dhcps, hstart⟩ := Option.isSome_iff_exists.mp
    (show (started 0xC0A80401).isSome = true by decide +kernel)
  have hlookup : (withReservation 0xC0A8040A dhcps).lookup (discover firstMac).chaddr =
      0xC0A8040A := rfl
  exact ⟨dhcps, hstart, (reservation_honoured_iff rfl (hle dhcps hstart).1 hlookup (by decide)
    (asks_discover firstMac 0xC0A8040A)).mpr (hle dhcps hstart).2⟩

/-- The address 192.168.4.200 is one of the subnet, and above the pool. -/
theorem reservation_above_pool : ¬ ∀ (s : State) (m : DhcpsMsg) (ip : Ip4) (reply : DhcpsState),
    m.cookie = magicCookie → m.chaddr ∉ s.dhcps.macs → s.lookup m.chaddr = ip → ip ≠ 0 →
      ip &&& s.dhcps.dhcpsMask = s.dhcps.serverAddress &&& s.dhcps.dhcpsMask →
      ip ≠ s.dhcps.serverAddress → Asks m ip reply → Honoured s m ip reply := by
  intro hall
  have hstarted : ∀ dhcps ∈ started 0xC0A80401, firstMac ∉ dhcps.macs ∧
      0xC0A804C8 &&& dhcps.dhcpsMask = dhcps.serverAddress &&& dhcps.dhcpsMask ∧
      0xC0A804C8 ≠ dhcps.serverAddress ∧
      (parseMsg (withReservation 0xC0A804C8 dhcps).lookup dhcps (discover firstMac)).2 =
        some .nak := by decide +kernel
  obtain ⟨dhcps, hstart⟩ := Option.isSome_iff_exists.mp
    (show (started 0xC0A80401).isSome = true by decide +kernel)
  obtain ⟨hnew, hsubnet, hserver, hnak⟩ := hstarted dhcps hstart
  have hreply := (hall (withReservation 0xC0A804C8 dhcps) (discover firstMac) 0xC0A804C8 .offer rfl
    hnew rfl (by decide) hsubnet hserver (asks_discover firstMac 0xC0A804C8)).reply
  exact absurd (hreply.symm.trans hnak) (by decide)

end SubnetRouter.Dhcp
