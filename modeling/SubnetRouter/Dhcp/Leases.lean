import SubnetRouter.Dhcp.Search

namespace SubnetRouter.Dhcp

open Lib

/-!
# Lease uniqueness

What one message does to the leases, and when it leaves two leases of one address behind.

* `Dhcps.parseMsg_renew`, `Dhcps.parseMsg_new_keeps`, `Dhcps.parseMsg_new_drops` — one message.
* `Clashes` — the messages that lease an address twice; `not_clashes_iff` — one step.
* `unique_leases_iff` — a whole run.
-/

/-- The message ends with the node freed: its state is `RELEASE`, `NAK` or `DECLINE`. -/
def DhcpsMsg.Frees (m : DhcpsMsg) (client : Ip4) (renew : Bool) : Prop :=
  (parseOptions client renew m.options).1 ∈ [DhcpsState.release, .nak, .decline]

instance (m : DhcpsMsg) (client : Ip4) (renew : Bool) : Decidable (m.Frees client renew) :=
  inferInstanceAs (Decidable (_ ∈ _))

namespace Dhcps

variable {lookup : Mac → Ip4} {dhcps : Dhcps} {m : DhcpsMsg}

/-! ### The lease list -/

/-- The loop finds the first lease of the client. -/
theorem searchLeases_eq (mac : Mac) (plist : List DhcpsPool) (q : Search) :
    (∃ pool ∈ plist, pool.mac = mac ∧ ∃ q', searchLeases mac plist q = (some pool, q')) ∨
      mac ∉ plist.map DhcpsPool.mac ∧
        searchLeases mac plist q = (none, (plist.map DhcpsPool.ip).foldl Search.visit q) := by
  induction plist generalizing q with
  | nil => exact .inr ⟨List.not_mem_nil, rfl⟩
  | cons pool plist ih =>
    by_cases hmac : pool.mac = mac
    · exact .inl ⟨pool, List.mem_cons_self, hmac, q, if_pos hmac⟩
    · have hstep : searchLeases mac (pool :: plist) q = searchLeases mac plist (q.visit pool.ip) :=
        if_neg hmac
      rw [hstep]
      rcases ih (q.visit pool.ip) with ⟨found, hmem, hfound, hq⟩ | ⟨hnone, hq⟩
      · exact .inl ⟨found, List.mem_cons_of_mem pool hmem, hfound, hq⟩
      · exact .inr ⟨fun h => (List.mem_cons.mp h).elim (fun h => hmac h.symm) hnone, hq⟩

theorem map_updateNode {β : Type} {g : DhcpsPool → β} {f : DhcpsPool → DhcpsPool}
    (hf : ∀ pool, g (f pool) = g pool) (mac : Mac) (plist : List DhcpsPool) :
    (updateNode mac f plist).map g = plist.map g := by
  induction plist with
  | nil => rfl
  | cons pool plist ih =>
    rw [updateNode]
    split
    · rw [List.map_cons, List.map_cons, hf]
    · rw [List.map_cons, List.map_cons, ih]

/-- The address is one that a lease can be kept for. -/
def Leasable (dhcps : Dhcps) (ip : Ip4) : Prop :=
  networkOrder ip ≤ networkOrder dhcps.dhcpsPoll.endIp ∧ ip ≠ 0

instance (dhcps : Dhcps) (ip : Ip4) : Decidable (dhcps.Leasable ip) :=
  inferInstanceAs (Decidable (_ ∧ _))

/-- After `POOL_CHECK` the lease stays if the address is fit for one and the options do not
    free it. -/
theorem poolCheck_keeps (hfit : dhcps.Leasable dhcps.clientAddress)
    (hkeep : ¬ m.Frees dhcps.clientAddress dhcps.renew) (hasNode : Bool) :
    (dhcps.poolCheck m hasNode).1.ips = dhcps.ips ∧
      (dhcps.poolCheck m hasNode).1.macs = dhcps.macs := by
  have hin : ¬ (networkOrder dhcps.clientAddress > networkOrder dhcps.dhcpsPoll.endIp ∨
      dhcps.clientAddress = 0) := fun h => h.elim hfit.1.not_gt hfit.2
  have hstay : ¬ ((parseOptions dhcps.clientAddress dhcps.renew m.options).1 = .release ∨
      (parseOptions dhcps.clientAddress dhcps.renew m.options).1 = .nak ∨
      (parseOptions dhcps.clientAddress dhcps.renew m.options).1 = .decline) := by
    simpa [DhcpsMsg.Frees] using hkeep
  simp only [poolCheck, if_neg hin, if_neg hstay, ips, macs]
  split
  · refine ⟨map_updateNode ?_ m.chaddr dhcps.plist, map_updateNode ?_ m.chaddr dhcps.plist⟩ <;>
      exact fun _ => rfl
  · exact ⟨rfl, rfl⟩

/-- Otherwise its node is freed. -/
theorem poolCheck_drops
    (h : ¬ (dhcps.Leasable dhcps.clientAddress ∧ ¬ m.Frees dhcps.clientAddress dhcps.renew))
    (hasNode : Bool) :
    (dhcps.poolCheck m hasNode).1.plist =
      if hasNode then removeNode m.chaddr dhcps.plist else dhcps.plist := by
  by_cases hout : networkOrder dhcps.clientAddress > networkOrder dhcps.dhcpsPoll.endIp ∨
      dhcps.clientAddress = 0
  · simp only [poolCheck, if_pos hout]
  · have hfit : dhcps.Leasable dhcps.clientAddress :=
      ⟨not_lt.mp fun h => hout (.inl h), fun h => hout (.inr h)⟩
    have hfree : m.Frees dhcps.clientAddress dhcps.renew := by
      by_contra hkeep
      exact h ⟨hfit, hkeep⟩
    have hleave : (parseOptions dhcps.clientAddress dhcps.renew m.options).1 = .release ∨
        (parseOptions dhcps.clientAddress dhcps.renew m.options).1 = .nak ∨
        (parseOptions dhcps.clientAddress dhcps.renew m.options).1 = .decline := by
      simpa [DhcpsMsg.Frees] using hfree
    simp only [poolCheck, if_neg hout, if_pos hleave]

/-- A client with a lease keeps it up to `POOL_CHECK`. -/
theorem findLease_renew (lookup : Mac → Ip4) (h : m.chaddr ∈ dhcps.macs) :
    (dhcps.findLease lookup m).2 = true ∧ (dhcps.findLease lookup m).1.ips = dhcps.ips ∧
      (dhcps.findLease lookup m).1.macs = dhcps.macs := by
  have hlist : dhcps.plist.isEmpty = false := by
    cases hplist : dhcps.plist with
    | nil => simp [macs, hplist] at h
    | cons pool plist => rfl
  rcases searchLeases_eq m.chaddr dhcps.plist ⟨dhcps.clientAddressPlus, dhcps.clientAddressPlus,
      dhcps.dhcpsPoll.startIp, false⟩ with ⟨pool, hmem, hmac, q, hq⟩ | ⟨hnone, hq⟩
  · simp only [findLease, hlist, hq, Bool.false_eq_true, if_false, ips, macs]
    refine ⟨trivial, map_updateNode ?_ m.chaddr dhcps.plist,
      map_updateNode ?_ m.chaddr dhcps.plist⟩ <;> exact fun _ => rfl
  · exact absurd h hnone

/-- A client without one has its lease entered for the candidate. -/
theorem findLease_new (lookup : Mac → Ip4) (h : m.chaddr ∉ dhcps.macs) :
    ∃ d : Dhcps,
      dhcps.findLease lookup m = d.enterLease m.chaddr (dhcps.candidate lookup m.chaddr) ∧
        d.plist = dhcps.plist ∧ d.dhcpsPoll = dhcps.dhcpsPoll ∧ d.renew = false := by
  refine ⟨{ dhcps with renew := false, hasDeclinedIp := false }, ?_, rfl, rfl, rfl⟩
  cases hempty : dhcps.plist.isEmpty with
  | true =>
    simp only [findLease, candidate, hempty, if_true]
    rfl
  | false =>
    rcases searchLeases_eq m.chaddr dhcps.plist ⟨dhcps.clientAddressPlus,
        dhcps.clientAddressPlus, dhcps.dhcpsPoll.startIp, false⟩ with
      ⟨pool, hmem, hmac, -⟩ | ⟨hnone, hq⟩
    · exact absurd (List.mem_map.mpr ⟨pool, hmem, hmac⟩) h
    · simp only [findLease, candidate, hempty, hq, Bool.false_eq_true, if_false]
      rfl

/-- A lease that is entered. -/
theorem enterLease_of_le {ip : Ip4}
    (h : networkOrder ip ≤ networkOrder dhcps.dhcpsPoll.endIp) (mac : Mac) :
    (dhcps.enterLease mac ip).2 = true ∧ (dhcps.enterLease mac ip).1.plist =
      nodeInsertToList dhcps.plist ⟨ip, mac, dhcps.leaseTimer, []⟩ := by
  rw [enterLease, if_neg h.not_gt]
  exact ⟨rfl, rfl⟩

/-- A lease that is refused. -/
theorem enterLease_of_gt {ip : Ip4}
    (h : networkOrder dhcps.dhcpsPoll.endIp < networkOrder ip) (mac : Mac) :
    (dhcps.enterLease mac ip).2 = false ∧ (dhcps.enterLease mac ip).1.plist = dhcps.plist := by
  rw [enterLease, if_pos h]
  exact ⟨rfl, rfl⟩

theorem enterLease_frame (dhcps : Dhcps) (mac : Mac) (ip : Ip4) :
    (dhcps.enterLease mac ip).1.clientAddress = ip ∧
      (dhcps.enterLease mac ip).1.renew = dhcps.renew ∧
      (dhcps.enterLease mac ip).1.dhcpsPoll = dhcps.dhcpsPoll ∧
      (dhcps.enterLease mac ip).1.serverAddress = dhcps.serverAddress := by
  rw [enterLease]
  split <;> exact ⟨rfl, rfl, rfl, rfl⟩

/-- Taking out the node of a client that has just been entered. -/
theorem removeNode_nodeInsertToList {plist : List DhcpsPool} {pool : DhcpsPool} {mac : Mac}
    (hpool : pool.mac = mac) (h : mac ∉ plist.map DhcpsPool.mac) :
    removeNode mac (nodeInsertToList plist pool) = plist := by
  refine eraseP_orderedInsert _ (beq_iff_eq.mpr hpool) fun other hother => ?_
  exact beq_false_of_ne fun heq => h (List.mem_map.mpr ⟨other, hother, heq⟩)

/-! ### One message -/

theorem parseMsg_of_cookie (h : m.cookie = magicCookie) :
    (parseMsg lookup dhcps m).1 =
      ((dhcps.findLease lookup m).1.poolCheck m (dhcps.findLease lookup m).2).1 := by
  rw [parseMsg, if_neg (not_not.mpr h)]

/-- The message of a client with a lease, or without the cookie, gives out no address. -/
theorem parseMsg_renew (lookup : Mac → Ip4) (h : m.cookie = magicCookie → m.chaddr ∈ dhcps.macs) :
    (parseMsg lookup dhcps m).1.ips.Sublist dhcps.ips ∧
      (parseMsg lookup dhcps m).1.macs.Sublist dhcps.macs := by
  by_cases hcookie : m.cookie = magicCookie
  · obtain ⟨hnode, hips, hmacs⟩ := findLease_renew lookup (h hcookie)
    rw [parseMsg_of_cookie hcookie, ← hips, ← hmacs]
    by_cases hkeep : (dhcps.findLease lookup m).1.Leasable
        (dhcps.findLease lookup m).1.clientAddress ∧
        ¬ m.Frees (dhcps.findLease lookup m).1.clientAddress (dhcps.findLease lookup m).1.renew
    · obtain ⟨hips', hmacs'⟩ := poolCheck_keeps hkeep.1 hkeep.2 (dhcps.findLease lookup m).2
      rw [hips', hmacs']
      exact ⟨List.Sublist.refl _, List.Sublist.refl _⟩
    · have hdrop := poolCheck_drops hkeep (dhcps.findLease lookup m).2
      rw [if_pos hnode] at hdrop
      rw [ips, macs, hdrop]
      exact ⟨List.eraseP_sublist.map _, List.eraseP_sublist.map _⟩
  · rw [parseMsg, if_pos hcookie]
    exact ⟨List.Sublist.refl _, List.Sublist.refl _⟩

/-- The message of a new client gives out its candidate, if that is fit for a lease and the
    options do not free it. -/
theorem parseMsg_new_keeps (hcookie : m.cookie = magicCookie) (hnew : m.chaddr ∉ dhcps.macs)
    (hfit : dhcps.Leasable (dhcps.candidate lookup m.chaddr))
    (hkeep : ¬ m.Frees (dhcps.candidate lookup m.chaddr) false) :
    ∃ pool : DhcpsPool, pool.ip = dhcps.candidate lookup m.chaddr ∧ pool.mac = m.chaddr ∧
      (parseMsg lookup dhcps m).1.ips = (nodeInsertToList dhcps.plist pool).map DhcpsPool.ip ∧
      (parseMsg lookup dhcps m).1.macs =
        (nodeInsertToList dhcps.plist pool).map DhcpsPool.mac := by
  obtain ⟨d, hd, hlist, hpoll, hrenew⟩ := findLease_new lookup hnew
  -- The candidate is below the end of the pool, so the new node enters the list.
  have hle := hfit.1
  rw [← hpoll] at hle
  obtain ⟨hclient, hrenew', hpoll', -⟩ :=
    d.enterLease_frame m.chaddr (dhcps.candidate lookup m.chaddr)
  have hfit' : (d.enterLease m.chaddr (dhcps.candidate lookup m.chaddr)).1.Leasable
      (d.enterLease m.chaddr (dhcps.candidate lookup m.chaddr)).1.clientAddress := by
    rw [Leasable, hclient, hpoll', hpoll]
    exact hfit
  -- `POOL_CHECK` then asks about the new lease what `hkeep` says about the candidate.
  rw [← hclient, ← hrenew, ← hrenew'] at hkeep
  obtain ⟨hips, hmacs⟩ := poolCheck_keeps hfit' hkeep
    (d.enterLease m.chaddr (dhcps.candidate lookup m.chaddr)).2
  refine ⟨⟨dhcps.candidate lookup m.chaddr, m.chaddr, d.leaseTimer, []⟩, rfl, rfl, ?_, ?_⟩
  · rw [parseMsg_of_cookie hcookie, hd, hips, ips, (enterLease_of_le hle m.chaddr).2, hlist]
  · rw [parseMsg_of_cookie hcookie, hd, hmacs, macs, (enterLease_of_le hle m.chaddr).2, hlist]

/-- Otherwise the leases stay as they are: no lease can be had for the candidate, or the message
    gives it up at once. -/
theorem parseMsg_new_drops (hcookie : m.cookie = magicCookie) (hnew : m.chaddr ∉ dhcps.macs)
    (hdrop : ¬ (dhcps.Leasable (dhcps.candidate lookup m.chaddr) ∧
      ¬ m.Frees (dhcps.candidate lookup m.chaddr) false)) :
    (parseMsg lookup dhcps m).1.plist = dhcps.plist := by
  obtain ⟨d, hd, hlist, hpoll, hrenew⟩ := findLease_new lookup hnew
  obtain ⟨hclient, hrenew', hpoll', -⟩ :=
    d.enterLease_frame m.chaddr (dhcps.candidate lookup m.chaddr)
  -- Seen from `POOL_CHECK`, the new lease is unfit or is freed.
  have hdrop' : ¬ ((d.enterLease m.chaddr (dhcps.candidate lookup m.chaddr)).1.Leasable
      (d.enterLease m.chaddr (dhcps.candidate lookup m.chaddr)).1.clientAddress ∧
      ¬ m.Frees (d.enterLease m.chaddr (dhcps.candidate lookup m.chaddr)).1.clientAddress
        (d.enterLease m.chaddr (dhcps.candidate lookup m.chaddr)).1.renew) := by
    rw [Leasable, hclient, hpoll', hpoll, hrenew', hrenew]
    exact hdrop
  have hfreed := poolCheck_drops hdrop'
    (d.enterLease m.chaddr (dhcps.candidate lookup m.chaddr)).2
  rw [parseMsg_of_cookie hcookie, hd, hfreed]
  -- Either the node was entered and is removed again, or it never was.
  rcases le_or_gt (networkOrder (dhcps.candidate lookup m.chaddr))
      (networkOrder d.dhcpsPoll.endIp) with hle | hgt
  · obtain ⟨hnode, hinsert⟩ := enterLease_of_le hle m.chaddr
    rw [if_pos hnode, hinsert, hlist]
    exact removeNode_nodeInsertToList rfl hnew
  · obtain ⟨hnode, hsame⟩ := enterLease_of_gt hgt m.chaddr
    rw [hnode, hsame, hlist]
    rfl

/-! ### The timer -/

theorem killOldestDhcpsPool_sublist (plist : List DhcpsPool) :
    (killOldestDhcpsPool plist).Sublist plist := by
  unfold killOldestDhcpsPool
  split
  · exact List.eraseP_sublist
  · exact List.Sublist.refl _

theorem dhcpsTmr_sublist (dhcps : Dhcps) :
    (dhcpsTmr dhcps).ips.Sublist dhcps.ips ∧ (dhcpsTmr dhcps).macs.Sublist dhcps.macs := by
  have hticked : ∀ {β : Type} (g : DhcpsPool → β),
      (∀ pool : DhcpsPool, g { pool with leaseTimer := pool.leaseTimer - 1 } = g pool) →
      ((dhcpsTmr dhcps).plist.map g).Sublist (dhcps.plist.map g) := by
    intro β g hg
    have hsame : (dhcps.plist.map fun pool : DhcpsPool =>
        { pool with leaseTimer := pool.leaseTimer - 1 }).map g = dhcps.plist.map g := by
      rw [List.map_map]
      exact List.map_congr_left fun pool _ => hg pool
    rw [← hsame]
    refine List.Sublist.map g ?_
    rw [dhcpsTmr]
    dsimp only
    split
    · exact (killOldestDhcpsPool_sublist _).trans List.filter_sublist
    · exact List.filter_sublist
  exact ⟨hticked _ fun _ => rfl, hticked _ fun _ => rfl⟩

/-! ### Uniqueness -/

/-- The leases are sorted by address, one for each client. -/
structure Sound (dhcps : Dhcps) : Prop where
  ordered : Ordered networkOrder dhcps.ips
  macs_nodup : dhcps.macs.Nodup

/-- No two leases have one address, and no two have one client. -/
def UniqueLeases (dhcps : Dhcps) : Prop := dhcps.ips.Nodup ∧ dhcps.macs.Nodup

theorem Sound.of_sublist {dhcps' : Dhcps} (h : dhcps.Sound)
    (hips : dhcps'.ips.Sublist dhcps.ips) (hmacs : dhcps'.macs.Sublist dhcps.macs) :
    dhcps'.Sound :=
  ⟨h.ordered.sublist hips, h.macs_nodup.sublist hmacs⟩

/-- A new lease goes to its place in the order. -/
theorem ordered_nodeInsertToList {plist : List DhcpsPool}
    (h : Ordered networkOrder (plist.map DhcpsPool.ip)) (pool : DhcpsPool) :
    Ordered networkOrder ((nodeInsertToList plist pool).map DhcpsPool.ip) := by
  rw [Ordered, List.pairwise_map] at h ⊢
  exact Ordered.orderedInsert h pool

theorem perm_nodeInsertToList {β : Type} (g : DhcpsPool → β) (plist : List DhcpsPool)
    (pool : DhcpsPool) :
    ((nodeInsertToList plist pool).map g).Perm (g pool :: plist.map g) :=
  (List.perm_orderedInsert _ pool plist).map g

/-- One message keeps the order, and one lease for each client. -/
theorem Sound.parseMsg (h : dhcps.Sound) (lookup : Mac → Ip4) (m : DhcpsMsg) :
    (parseMsg lookup dhcps m).1.Sound := by
  by_cases hrenew : m.cookie = magicCookie → m.chaddr ∈ dhcps.macs
  · obtain ⟨hips, hmacs⟩ := parseMsg_renew lookup hrenew
    exact h.of_sublist hips hmacs
  · obtain ⟨hcookie, hnew⟩ := Classical.not_imp.mp hrenew
    by_cases hkeep : dhcps.Leasable (dhcps.candidate lookup m.chaddr) ∧
        ¬ m.Frees (dhcps.candidate lookup m.chaddr) false
    · obtain ⟨pool, hip, hmac, hips, hmacs⟩ := parseMsg_new_keeps hcookie hnew hkeep.1 hkeep.2
      refine ⟨hips ▸ ordered_nodeInsertToList h.ordered pool, ?_⟩
      rw [hmacs, (perm_nodeInsertToList DhcpsPool.mac dhcps.plist pool).nodup_iff]
      exact List.nodup_cons.mpr ⟨hmac ▸ hnew, h.macs_nodup⟩
    · have hsame := parseMsg_new_drops hcookie hnew hkeep
      exact ⟨by rw [ips, hsame]; exact h.ordered, by rw [macs, hsame]; exact h.macs_nodup⟩

/-- The message of a new client makes two leases of one address exactly when it keeps a lease
    for an address that is leased already. -/
theorem nodup_parseMsg_iff (hnd : dhcps.ips.Nodup) (hcookie : m.cookie = magicCookie)
    (hnew : m.chaddr ∉ dhcps.macs) :
    (parseMsg lookup dhcps m).1.ips.Nodup ↔
      ¬ (dhcps.candidate lookup m.chaddr ∈ dhcps.ips ∧
        dhcps.Leasable (dhcps.candidate lookup m.chaddr) ∧
        ¬ m.Frees (dhcps.candidate lookup m.chaddr) false) := by
  by_cases hkeep : dhcps.Leasable (dhcps.candidate lookup m.chaddr) ∧
      ¬ m.Frees (dhcps.candidate lookup m.chaddr) false
  · obtain ⟨pool, hip, hmac, hips, hmacs⟩ := parseMsg_new_keeps hcookie hnew hkeep.1 hkeep.2
    rw [hips, (perm_nodeInsertToList DhcpsPool.ip dhcps.plist pool).nodup_iff, List.nodup_cons,
      hip]
    exact ⟨fun h hclash => h.1 hclash.1, fun h => ⟨fun hmem => h ⟨hmem, hkeep⟩, hnd⟩⟩
  · rw [ips, parseMsg_new_drops hcookie hnew hkeep]
    exact ⟨fun _ hclash => hkeep hclash.2, fun _ => hnd⟩

end Dhcps

/-! ### Runs -/

/-- The message of a new client is about to lease it an address that is leased already: its
    reservation has one, or the cursor runs over to one, or the cursor is exhausted and the
    search comes back to one. -/
def ClashesAt (lookup : Mac → Ip4) (dhcps : Dhcps) (m : DhcpsMsg) (ip : Ip4) : Prop :=
  dhcps.Leasable ip ∧ ¬ m.Frees ip false ∧
    if lookup m.chaddr ≠ 0 then ip = lookup m.chaddr
    else dhcps.RunsOver ∧ ip = dhcps.overrun ∨ dhcps.Exhausted ∧ dhcps.SearchReturns ip

/-- The action is such a message. -/
def Clashes (s : State) : Act → Prop
  | .message m => m.cookie = magicCookie ∧ m.chaddr ∉ s.dhcps.macs ∧
      ∃ ip ∈ s.dhcps.ips, ClashesAt s.lookup s.dhcps m ip
  | _ => False

instance (lookup : Mac → Ip4) (dhcps : Dhcps) (m : DhcpsMsg) (ip : Ip4) :
    Decidable (ClashesAt lookup dhcps m ip) := inferInstanceAs (Decidable (_ ∧ _ ∧ ite _ _ _))

instance (s : State) : (a : Act) → Decidable (Clashes s a)
  | .message m =>
    have : Decidable (∃ ip ∈ s.dhcps.ips, ClashesAt s.lookup s.dhcps m ip) :=
      List.decidableBEx _ s.dhcps.ips
    inferInstanceAs (Decidable (m.cookie = magicCookie ∧ m.chaddr ∉ s.dhcps.macs ∧ _))
  | .tick => .isFalse id
  | .setReservations _ => .isFalse id

/-- One step makes two leases of one address exactly if it clashes. The ways out of the handler are
    gone through, and only a lease that is entered can make the difference. -/
theorem not_clashes_iff {s : State} (a : Act) (h : s.dhcps.Sound) (hnd : s.dhcps.ips.Nodup) :
    ¬ Clashes s a ↔ (dhcpStep s a).dhcps.ips.Nodup := by
  -- The timer only removes leases, and the reservations are no leases.
  cases a with
  | tick => exact ⟨fun _ => hnd.sublist (Dhcps.dhcpsTmr_sublist s.dhcps).1, fun _ => id⟩
  | setReservations arr => exact ⟨fun _ => hnd, fun _ => id⟩
  | message m =>
    -- A renewal keeps the addresses that there are; only a new client can clash.
    by_cases hrenew : m.cookie = magicCookie → m.chaddr ∈ s.dhcps.macs
    · obtain ⟨hips, -⟩ := Dhcps.parseMsg_renew s.lookup hrenew
      exact ⟨fun _ => hnd.sublist hips, fun _ hclash => hclash.2.1 (hrenew hclash.1)⟩
    · obtain ⟨hcookie, hnew⟩ := Classical.not_imp.mp hrenew
      refine Iff.trans (not_congr ?_) (Dhcps.nodup_parseMsg_iff hnd hcookie hnew).symm
      -- What the candidate is for an address that is leased already, by reservation or by search.
      have hcandidate : ∀ ip ∈ s.dhcps.ips, s.dhcps.Leasable ip →
          (s.dhcps.candidate s.lookup m.chaddr = ip ↔
            if s.lookup m.chaddr ≠ 0 then ip = s.lookup m.chaddr
            else s.dhcps.RunsOver ∧ ip = s.dhcps.overrun ∨
              s.dhcps.Exhausted ∧ s.dhcps.SearchReturns ip) := by
        intro ip hip hfit
        split
        · rename_i hres
          rw [Dhcps.candidate_of_reserved hres, eq_comm]
        · rename_i hres
          exact Dhcps.mem_ips_candidate_iff h.ordered hnd (not_not.mp hres) ip hip hfit.1
      constructor
      · rintro ⟨-, -, ip, hip, hfit, hkeep, hcomes⟩
        obtain rfl := (hcandidate ip hip hfit).mpr hcomes
        exact ⟨hip, hfit, hkeep⟩
      · rintro ⟨hip, hfit, hkeep⟩
        exact ⟨hcookie, hnew, _, hip, hfit, hkeep, (hcandidate _ hip hfit).mp rfl⟩

/-- Every step keeps the order, and one lease for each client. -/
theorem sound_dhcpStep {s : State} (a : Act) (h : s.dhcps.Sound) : (dhcpStep s a).dhcps.Sound := by
  cases a with
  | message m => exact h.parseMsg s.lookup m
  | tick =>
    obtain ⟨hips, hmacs⟩ := Dhcps.dhcpsTmr_sublist s.dhcps
    exact h.of_sublist hips hmacs
  | setReservations arr => exact h

/-- A fresh server has no leases. -/
theorem dhcpsStart_plist {leaseUnit mask leaseTime : BitVec 32} {poll : DhcpsLease} {ip : Ip4}
    {dhcps : Dhcps} (h : dhcpsStart (dhcpsNew leaseUnit mask poll leaseTime) ip = some dhcps) :
    dhcps.plist = [] := by
  simp only [dhcpsStart] at h
  split_ifs at h
  obtain rfl := Option.some.inj h
  rfl

theorem sound_dhcpsStart {leaseUnit mask leaseTime : BitVec 32} {poll : DhcpsLease} {ip : Ip4}
    {dhcps : Dhcps} (h : dhcpsStart (dhcpsNew leaseUnit mask poll leaseTime) ip = some dhcps) :
    dhcps.Sound := by
  have hempty := dhcpsStart_plist h
  exact ⟨by rw [Dhcps.ips, hempty]; exact .nil, by rw [Dhcps.macs, hempty]; exact .nil⟩

/-- **Lease uniqueness.** From a fresh server, the leases are unique in every state of a run
    exactly if no message on the way clashes. -/
theorem unique_leases_iff {leaseUnit mask leaseTime : BitVec 32} {poll : DhcpsLease} {ip : Ip4}
    {dhcps : Dhcps}
    (hstart : dhcpsStart (dhcpsNew leaseUnit mask poll leaseTime) ip = some dhcps)
    (sTable : List DhcpReservation) (acts : List Act) :
    dhcpServer.Meets (fun s a => ¬ Clashes s a) ⟨dhcps, sTable⟩ acts ↔
      ∀ n t, dhcpServer.run ⟨dhcps, sTable⟩ (acts.take n) = some t → t.dhcps.UniqueLeases := by
  have hsound := sound_dhcpsStart hstart
  have hunique : dhcps.UniqueLeases :=
    ⟨by rw [Dhcps.ips, dhcpsStart_plist hstart]; exact .nil, hsound.macs_nodup⟩
  -- A run is unique step by step, as the leases are sound in every state of it.
  refine Machine.meets_iff_reached (I := fun s : State => s.dhcps.Sound)
    (U := fun s : State => s.dhcps.UniqueLeases) (fun s a s' hs h => ?_)
    (fun s a h hU => ?_) hsound hunique
  · obtain rfl := Option.some.inj hs
    exact sound_dhcpStep a h
  · rw [not_clashes_iff a h hU.1]
    constructor
    · rintro hnd s' hs
      obtain rfl := Option.some.inj hs
      exact ⟨hnd, (sound_dhcpStep a h).macs_nodup⟩
    · exact fun hall => (hall (dhcpStep s a) rfl).1

/-- A `DHCPDISCOVER`. -/
def discover (mac : Mac) : DhcpsMsg := ⟨0, mac, magicCookie, [dhcpOptionMsgType, 1, 1, 255]⟩

def firstMac : Mac := ⟨2, 0, 0, 0, 0, 1⟩
def secondMac : Mac := ⟨2, 0, 0, 0, 0, 2⟩
def thirdMac : Mac := ⟨2, 0, 0, 0, 0, 3⟩

/-- The access point at 192.168.4.1/24, with the default pool. -/
def started (ip : Ip4) : Option Dhcps := dhcpsStart (dhcpsNew 60 0xFFFFFF00 ⟨false, 0, 0⟩ 120) ip

/-- Two clients get addresses from the pool, and a third one the address reserved for it. -/
theorem three_clients_unique : ∃ dhcps ∈ started 0xC0A80401, ∀ n t,
    dhcpServer.run ⟨dhcps, []⟩ ([.message (discover firstMac), .tick,
      .message (discover secondMac), .setReservations [⟨thirdMac, 0xC0A8040A, true⟩],
      .message (discover thirdMac)].take n) = some t → t.dhcps.UniqueLeases := by
  have hmeets : ∀ dhcps ∈ started 0xC0A80401, dhcpServer.Meets (fun s a => ¬ Clashes s a)
      ⟨dhcps, []⟩ [.message (discover firstMac), .tick, .message (discover secondMac),
        .setReservations [⟨thirdMac, 0xC0A8040A, true⟩], .message (discover thirdMac)] := by
    decide +kernel
  obtain ⟨dhcps, hstart⟩ := Option.isSome_iff_exists.mp
    (show (started 0xC0A80401).isSome = true by decide +kernel)
  exact ⟨dhcps, hstart, (unique_leases_iff hstart [] _).mp (hmeets dhcps hstart)⟩

/-- **The defect.** An address that the first client has on lease is reserved for the second:
    192.168.4.2 is leased twice. -/
theorem reserved_address_leased_twice : ¬ ∀ dhcps ∈ started 0xC0A80401, ∀ t,
    dhcpServer.run ⟨dhcps, []⟩ [.message (discover firstMac),
      .setReservations [⟨secondMac, 0xC0A80402, true⟩], .message (discover secondMac)] =
        some t → t.dhcps.UniqueLeases := by
  have htwice : ∃ dhcps ∈ started 0xC0A80401, ∃ t ∈ dhcpServer.run ⟨dhcps, []⟩
      [.message (discover firstMac), .setReservations [⟨secondMac, 0xC0A80402, true⟩],
        .message (discover secondMac)], ¬ t.dhcps.ips.Nodup := by
    decide +kernel
  intro h
  obtain ⟨dhcps, hstart, t, hrun, hdup⟩ := htwice
  exact hdup (h dhcps hstart t hrun).1

end SubnetRouter.Dhcp
