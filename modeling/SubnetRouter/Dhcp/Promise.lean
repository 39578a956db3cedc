import SubnetRouter.Dhcp.Pool
import SubnetRouter.Dhcp.Reserved

namespace SubnetRouter.Dhcp

open Lib

/-!
# A lease is a promise

An offer names an address and a time.  Until the time is over the server has to give this address
to the client that comes back for it, whoever else sends messages in between, and whatever becomes
of the reservations.

* `lease`, `dhcpSearchIpOnMac` — what the server finds for a client.
* `lease_parseMsg_of_ne` — a message leaves the leases of all other clients as they are.
* `lease_of_reply` — an offer or an acknowledgement leaves a whole lease behind.
* `holds_dhcpStep` — what one step leaves of a lease; `holds_run` — and a run.
* `promise_kept` — the client that comes back in time is acknowledged.
-/

namespace Dhcps

/-- The lease that is found for a client: the first with its address. -/
def lease (dhcps : Dhcps) (mac : Mac) : Option DhcpsPool :=
  dhcps.plist.find? fun pool => pool.mac == mac

/-- `dhcp_search_ip_on_mac`. -/
def dhcpSearchIpOnMac (dhcps : Dhcps) (mac : Mac) : Option Ip4 :=
  (dhcps.lease mac).map DhcpsPool.ip

variable {lookup : Mac → Ip4} {dhcps : Dhcps} {m : DhcpsMsg} {pool : DhcpsPool} {mac : Mac}
  {f : DhcpsPool → DhcpsPool} {plist : List DhcpsPool} {ret : DhcpsState}

/-! ### The list -/

/-- A change at the node of one client, as any client sees it: the others see nothing of it. -/
theorem find_updateNode (hf : ∀ pool, (f pool).mac = pool.mac) (other : Mac)
    (plist : List DhcpsPool) :
    (updateNode other f plist).find? (fun pool => pool.mac == mac) =
      (plist.find? fun pool => pool.mac == mac).map fun pool =>
        if pool.mac = other then f pool else pool := by
  induction plist with
  | nil => rfl
  | cons first plist ih =>
    by_cases hother : first.mac = other
    · rw [updateNode, if_pos hother]
      by_cases hmac : first.mac = mac
      · simp [hf, hmac, ← hother]
      · -- behind the node nothing changes, and nothing there is the node of the client
        have hne : ∀ pool ∈ plist.find? (fun pool => pool.mac == mac), pool.mac ≠ other := by
          intro pool hpool heq
          have hfound := List.find?_some hpool
          rw [beq_iff_eq, heq, ← hother] at hfound
          exact hmac hfound
        have hfirst : (first.mac == mac) = false := beq_false_of_ne hmac
        rw [List.find?_cons, List.find?_cons, hf, hfirst]
        cases hfound : plist.find? (fun pool => pool.mac == mac) with
        | none => rfl
        | some pool => simp [hne pool hfound]
    · rw [updateNode, if_neg hother, List.find?_cons, List.find?_cons]
      cases hfirst : first.mac == mac with
      | true => simp [hother]
      | false => exact ih

theorem find_updateNode_of_ne (hf : ∀ pool, (f pool).mac = pool.mac) {other : Mac}
    (hne : mac ≠ other) (plist : List DhcpsPool) :
    (updateNode other f plist).find? (fun pool => pool.mac == mac) =
      plist.find? fun pool => pool.mac == mac := by
  rw [find_updateNode hf]
  cases hfound : plist.find? fun pool => pool.mac == mac with
  | none => rfl
  | some pool =>
    have hmac := List.find?_some hfound
    rw [beq_iff_eq] at hmac
    rw [Option.map_some, if_neg (by rw [hmac]; exact hne)]

theorem find_removeNode_of_ne {other : Mac} (hne : mac ≠ other) (plist : List DhcpsPool) :
    (removeNode other plist).find? (fun pool => pool.mac == mac) =
      plist.find? fun pool => pool.mac == mac := by
  induction plist with
  | nil => rfl
  | cons first plist ih =>
    unfold removeNode at ih ⊢
    by_cases hother : first.mac = other
    · have hfirst : (first.mac == mac) = false :=
        beq_false_of_ne fun heq => hne (heq.symm.trans hother)
      rw [List.eraseP_cons_of_pos (by simpa using hother), List.find?_cons, hfirst]
    · rw [List.eraseP_cons_of_neg (by simpa using hother), List.find?_cons, List.find?_cons, ih]

/-- A new node is found by its own client, and by no other. -/
theorem find_nodeInsertToList (plist : List DhcpsPool) (pinsert : DhcpsPool)
    (hnone : pinsert.mac = mac → plist.find? (fun pool => pool.mac == mac) = none) :
    (nodeInsertToList plist pinsert).find? (fun pool => pool.mac == mac) =
      if pinsert.mac = mac then some pinsert else plist.find? fun pool => pool.mac == mac := by
  induction plist with
  | nil =>
    by_cases hmac : pinsert.mac = mac
    · simp [nodeInsertToList, hmac]
    · simp [nodeInsertToList, hmac]
  | cons first plist ih =>
    -- A node of this client at the front would be found, against `hnone`.
    have hrest : pinsert.mac = mac → (first.mac == mac) = false ∧
        plist.find? (fun pool => pool.mac == mac) = none := by
      intro hmac
      have := hnone hmac
      rw [List.find?_cons] at this
      split at this <;> simp_all
    unfold nodeInsertToList at ih ⊢
    rw [List.orderedInsert]
    -- The new node is put in front, or behind the first one, where the induction goes on.
    split
    · rw [List.find?_cons]
      by_cases hmac : pinsert.mac = mac
      · simp [hmac]
      · simp [hmac, beq_false_of_ne hmac]
    · rw [List.find?_cons, ih fun hmac => (hrest hmac).2]
      by_cases hmac : pinsert.mac = mac
      · rw [(hrest hmac).1, if_pos hmac, if_pos hmac]
      · rw [if_neg hmac, if_neg hmac, List.find?_cons]

/-! ### The leases of the others -/

theorem lease_enterLease_of_ne (hne : mac ≠ m.chaddr) (ip : Ip4) :
    (dhcps.enterLease m.chaddr ip).1.lease mac = dhcps.lease mac := by
  have hne' : ¬ m.chaddr = mac := fun heq => hne heq.symm
  unfold enterLease
  dsimp only
  split
  · rfl
  · unfold lease
    rw [find_nodeInsertToList _ _ fun heq => absurd heq hne', if_neg hne']

theorem lease_findLease_of_ne (hne : mac ≠ m.chaddr) :
    (dhcps.findLease lookup m).1.lease mac = dhcps.lease mac := by
  unfold findLease
  dsimp only
  split
  · refine find_updateNode_of_ne ?_ hne _
    exact fun _ => rfl
  · refine (lease_enterLease_of_ne hne _).trans ?_
    rfl

theorem lease_poolCheck_of_ne (hne : mac ≠ m.chaddr) (hasNode : Bool) :
    (dhcps.poolCheck m hasNode).1.lease mac = dhcps.lease mac := by
  -- The two exits remove the sender's own node at most.
  have hremoved : ∀ d : Dhcps,
      d.plist = (if hasNode then removeNode m.chaddr dhcps.plist else dhcps.plist) →
        d.lease mac = dhcps.lease mac := by
    intro d hd
    unfold lease
    rw [hd]
    split
    · exact find_removeNode_of_ne hne _
    · rfl
  unfold poolCheck
  dsimp only
  split
  · exact hremoved _ rfl
  · split
    · exact hremoved _ rfl
    · unfold lease
      dsimp only
      split
      · refine find_updateNode_of_ne ?_ hne _
        exact fun _ => rfl
      · rfl

/-- **The leases of the others.** A message touches no lease of another client. -/
theorem lease_parseMsg_of_ne (lookup : Mac → Ip4) (dhcps : Dhcps) (hne : mac ≠ m.chaddr) :
    (parseMsg lookup dhcps m).1.lease mac = dhcps.lease mac := by
  by_cases hcookie : m.cookie = magicCookie
  · rw [parseMsg_of_cookie hcookie, lease_poolCheck_of_ne hne, lease_findLease_of_ne hne]
  · rw [parseMsg, if_pos hcookie]

/-! ### The lease of the client itself -/

theorem searchLeases_fst (mac : Mac) (plist : List DhcpsPool) (q : Search) :
    (searchLeases mac plist q).1 = plist.find? fun pool => pool.mac == mac := by
  induction plist generalizing q with
  | nil => rfl
  | cons pool plist ih =>
    rw [searchLeases, List.find?_cons]
    by_cases hmac : pool.mac = mac
    · rw [if_pos hmac, beq_iff_eq.mpr hmac]
    · rw [if_neg hmac, beq_false_of_ne hmac]
      exact ih _

/-- A lease that is found is renewed, and its address is the one at hand. Whether the client asks
    for that address is noted along with it. -/
theorem findLease_of_lease (lookup : Mac → Ip4) (h : dhcps.lease m.chaddr = some pool) :
    (dhcps.findLease lookup m).2 = true ∧
      (dhcps.findLease lookup m).1.lease m.chaddr =
        some { pool with leaseTimer := dhcps.leaseTimer } ∧
      (dhcps.findLease lookup m).1.clientAddress = pool.ip ∧
      (dhcps.findLease lookup m).1.renew = (pool.ip == m.ciaddr) ∧
      (dhcps.findLease lookup m).1.dhcpsPoll = dhcps.dhcpsPoll := by
  have hmac : pool.mac = m.chaddr := by
    have := List.find?_some h
    rwa [beq_iff_eq] at this
  have hempty : dhcps.plist.isEmpty = false := by
    cases hplist : dhcps.plist with
    | nil => simp [lease, hplist] at h
    | cons first plist => rfl
  -- The search gives the lease back, as the client has no other.
  have hfound : ∀ q, searchLeases m.chaddr dhcps.plist q =
      (some pool, (searchLeases m.chaddr dhcps.plist q).2) := fun q =>
    Prod.ext ((searchLeases_fst _ _ q).trans h) rfl
  unfold findLease
  dsimp only
  rw [hempty, if_neg Bool.false_ne_true, hfound]
  refine ⟨rfl, ?_, rfl, rfl, rfl⟩
  -- Only the timer of this client's node is written.
  unfold lease at h ⊢
  refine (find_updateNode ?_ _ _).trans ?_
  · exact fun _ => rfl
  · rw [h, Option.map_some, if_pos hmac]
    rfl

/-- For a client without a lease some address is entered, or refused. -/
theorem findLease_of_none (lookup : Mac → Ip4) (h : dhcps.lease m.chaddr = none) :
    ∃ (d : Dhcps) (ip : Ip4), dhcps.findLease lookup m = d.enterLease m.chaddr ip ∧
      d.lease m.chaddr = none ∧ d.dhcpsPoll = dhcps.dhcpsPoll ∧
        d.leaseTimer = dhcps.leaseTimer := by
  have hnone : ∀ q, searchLeases m.chaddr dhcps.plist q =
      (none, (searchLeases m.chaddr dhcps.plist q).2) := fun q =>
    Prod.ext ((searchLeases_fst _ _ q).trans h) rfl
  unfold findLease
  dsimp only
  rw [hnone]
  cases dhcps.plist.isEmpty with
  | true => exact ⟨_, _, rfl, h, rfl, rfl⟩
  | false => exact ⟨_, _, rfl, h, rfl, rfl⟩

/-- What is entered for a client without a lease. -/
theorem lease_enterLease {ip : Ip4} (hnone : dhcps.lease mac = none)
    (hle : networkOrder ip ≤ networkOrder dhcps.dhcpsPoll.endIp) :
    (dhcps.enterLease mac ip).1.lease mac = some ⟨ip, mac, dhcps.leaseTimer, []⟩ := by
  unfold lease
  rw [(enterLease_of_le hle mac).2, find_nodeInsertToList _ _ fun _ => hnone, if_pos rfl]

/-- From `POOL_CHECK` on a lease that fits and is not freed stays, with the name of the client. -/
theorem poolCheck_of_lease (h : dhcps.lease m.chaddr = some pool)
    (hfit : dhcps.Leasable dhcps.clientAddress)
    (hkeep : ¬ m.Frees dhcps.clientAddress dhcps.renew) :
    (dhcps.poolCheck m true).2 = (parseOptions dhcps.clientAddress dhcps.renew m.options).1 ∧
      (dhcps.poolCheck m true).1.clientAddress = dhcps.clientAddress ∧
      ∃ hostname, (dhcps.poolCheck m true).1.lease m.chaddr = some { pool with hostname } := by
  have hmac : pool.mac = m.chaddr := by
    have := List.find?_some h
    rwa [beq_iff_eq] at this
  -- Neither the exit for an unfit address nor the one for a freed lease is taken.
  have hin : ¬ (networkOrder dhcps.clientAddress > networkOrder dhcps.dhcpsPoll.endIp ∨
      dhcps.clientAddress = 0) := fun h => h.elim hfit.1.not_gt hfit.2
  have hstay : ¬ ((parseOptions dhcps.clientAddress dhcps.renew m.options).1 = .release ∨
      (parseOptions dhcps.clientAddress dhcps.renew m.options).1 = .nak ∨
      (parseOptions dhcps.clientAddress dhcps.renew m.options).1 = .decline) := by
    simpa [DhcpsMsg.Frees] using hkeep
  simp only [poolCheck, if_neg hin, if_neg hstay, if_true]
  refine ⟨trivial, trivial, (parseOptions dhcps.clientAddress dhcps.renew m.options).2, ?_⟩
  -- What is left of `POOL_CHECK` stores the host name with the lease.
  unfold lease at h ⊢
  refine (find_updateNode ?_ _ _).trans ?_
  · exact fun _ => rfl
  · rw [h, Option.map_some, if_pos hmac]

/-- An offer or an acknowledgement means that the address fits and nothing is freed. -/
theorem kept_of_poolCheck {hasNode : Bool} (h : (dhcps.poolCheck m hasNode).2 = ret)
    (hret : ret = .offer ∨ ret = .ack) :
    dhcps.Leasable dhcps.clientAddress ∧ ¬ m.Frees dhcps.clientAddress dhcps.renew := by
  by_cases hout : networkOrder dhcps.clientAddress > networkOrder dhcps.dhcpsPoll.endIp ∨
      dhcps.clientAddress = 0
  · simp only [poolCheck, if_pos hout] at h
    rw [← h] at hret
    simp at hret
  · refine ⟨⟨not_lt.mp fun h => hout (.inl h), fun h => hout (.inr h)⟩, fun hfree => ?_⟩
    have hleave : (parseOptions dhcps.clientAddress dhcps.renew m.options).1 = .release ∨
        (parseOptions dhcps.clientAddress dhcps.renew m.options).1 = .nak ∨
        (parseOptions dhcps.clientAddress dhcps.renew m.options).1 = .decline := by
      simpa [DhcpsMsg.Frees] using hfree
    simp only [poolCheck, if_neg hout, if_pos hleave] at h
    rw [h] at hleave
    rcases hret with rfl | rfl <;> simp at hleave

/-- A message of a client with a lease that it does not free: the lease is renewed, and the answer
    is about its address. -/
theorem parseMsg_of_lease (lookup : Mac → Ip4) (hcookie : m.cookie = magicCookie)
    (h : dhcps.lease m.chaddr = some pool) (hfit : dhcps.Leasable pool.ip)
    (hkeep : ¬ m.Frees pool.ip (pool.ip == m.ciaddr)) :
    (parseMsg lookup dhcps m).2 =
        some (parseOptions pool.ip (pool.ip == m.ciaddr) m.options).1 ∧
      (parseMsg lookup dhcps m).1.clientAddress = pool.ip ∧
      ∃ hostname, (parseMsg lookup dhcps m).1.lease m.chaddr =
        some ⟨pool.ip, pool.mac, dhcps.leaseTimer, hostname⟩ := by
  obtain ⟨hnode, hlease, hclient, hrenew, hpoll⟩ := findLease_of_lease lookup h
  have hfit' : (dhcps.findLease lookup m).1.Leasable
      (dhcps.findLease lookup m).1.clientAddress := by
    rw [Leasable, hclient, hpoll]
    exact hfit
  rw [← hrenew, ← hclient] at hkeep
  obtain ⟨hret, hclient', hostname, hlease'⟩ := poolCheck_of_lease hlease hfit' hkeep
  rw [parseMsg_of_cookie hcookie, parseMsg, if_neg (not_not.mpr hcookie)]
  dsimp only
  rw [hnode, hret, hclient', hclient, hrenew]
  exact ⟨rfl, rfl, hostname, hlease'⟩

/-- **What an answer leaves behind.** With an offer or an acknowledgement there is a lease of the
    address for the client, for the whole time. -/
theorem lease_of_reply (h : (parseMsg lookup dhcps m).2 = some ret)
    (hret : ret = .offer ∨ ret = .ack) :
    dhcps.Leasable (parseMsg lookup dhcps m).1.clientAddress ∧
      ∃ hostname, (parseMsg lookup dhcps m).1.lease m.chaddr =
        some ⟨(parseMsg lookup dhcps m).1.clientAddress, m.chaddr, dhcps.leaseTimer,
          hostname⟩ := by
  have hcookie : m.cookie = magicCookie := by
    by_contra hne
    rw [parseMsg, if_pos hne] at h
    cases h
  have hpool : ((dhcps.findLease lookup m).1.poolCheck m (dhcps.findLease lookup m).2).2 = ret := by
    rw [parseMsg, if_neg (not_not.mpr hcookie)] at h
    exact Option.some.inj h
  obtain ⟨hfit, hkeep⟩ := kept_of_poolCheck hpool hret
  rw [parseMsg_of_cookie hcookie]
  -- Either the client was known and its lease is renewed, or a new node was entered.
  cases hlease : dhcps.lease m.chaddr with
  | some pool =>
    have hmac : pool.mac = m.chaddr := by
      have := List.find?_some hlease
      rwa [beq_iff_eq] at this
    obtain ⟨hnode, hfound, hclient, -, hpoll⟩ := findLease_of_lease lookup hlease
    obtain ⟨-, hclient', hostname, hlease'⟩ := poolCheck_of_lease hfound hfit hkeep
    rw [hnode, hclient', hlease', hclient, hmac]
    rw [hclient, Leasable, hpoll] at hfit
    exact ⟨hfit, hostname, rfl⟩
  | none =>
    obtain ⟨d, ip, hd, hnone, hpoll, htimer⟩ := findLease_of_none lookup hlease
    obtain ⟨hclient, -, hpoll', -⟩ := d.enterLease_frame m.chaddr ip
    rw [hd, Leasable, hclient, hpoll'] at hfit
    have hfound := lease_enterLease hnone hfit.1
    rw [hd] at hkeep ⊢
    -- The new node carries the candidate, so the fitness that was checked is its own.
    have hfit' : (d.enterLease m.chaddr ip).1.Leasable
        (d.enterLease m.chaddr ip).1.clientAddress := by
      rw [Leasable, hclient, hpoll']
      exact hfit
    obtain ⟨-, hclient', hostname, hlease'⟩ := poolCheck_of_lease hfound hfit' hkeep
    rw [(enterLease_of_le hfit.1 m.chaddr).1, hclient', hlease', hclient, ← htimer]
    rw [hpoll] at hfit
    exact ⟨hfit, hostname, rfl⟩

/-! ### Time -/

/-- No message changes how long leases last. So a renewal gives the full time in every state of a
    run. -/
theorem parseMsg_leaseTimer (lookup : Mac → Ip4) (dhcps : Dhcps) (m : DhcpsMsg) :
    (parseMsg lookup dhcps m).1.leaseTimer = dhcps.leaseTimer := by
  -- `enter_lease`, the search and `POOL_CHECK` write other fields only.
  have henter : ∀ (d : Dhcps) (mac : Mac) (ip : Ip4),
      (d.enterLease mac ip).1.leaseTimer = d.leaseTimer := by
    intro d mac ip
    unfold enterLease
    dsimp only
    split <;> rfl
  have hfind : (dhcps.findLease lookup m).1.leaseTimer = dhcps.leaseTimer := by
    unfold findLease
    dsimp only
    split
    · rfl
    · exact henter _ _ _
  have hpool : ∀ (d : Dhcps) (hasNode : Bool),
      (d.poolCheck m hasNode).1.leaseTimer = d.leaseTimer := by
    intro d hasNode
    unfold poolCheck
    dsimp only
    split
    · rfl
    · split <;> rfl
  by_cases hcookie : m.cookie = magicCookie
  · rw [parseMsg_of_cookie hcookie, hpool, hfind]
  · rw [parseMsg, if_pos hcookie]

theorem toNat_pred {timer : BitVec 32} (h : 0 < timer.toNat) :
    (timer - 1).toNat = timer.toNat - 1 := by
  bv_omega

/-- A tick takes a lease that has not come to its end nearer to it, unless there are too many. By
    induction on the list, the client's node is the first one of its own in what the tick leaves,
    too. -/
theorem lease_dhcpsTmr (hlease : dhcps.lease mac = some pool)
    (hcount : dhcps.plist.length ≤ maxStationNum) (htimer : 1 < pool.leaseTimer.toNat) :
    (dhcpsTmr dhcps).lease mac = some { pool with leaseTimer := pool.leaseTimer - 1 } := by
  have hne : pool.leaseTimer - 1 ≠ 0 := by
    intro heq
    have hzero : (pool.leaseTimer - 1).toNat = 0 := congrArg BitVec.toNat heq
    rw [toNat_pred (by omega)] at hzero
    omega
  -- The count is of eight bits, but there are at most 16 leases.
  have hnum : ∀ l : List DhcpsPool, l.length ≤ dhcps.plist.length →
      ¬ l.length % 256 > maxStationNum := by
    intro l hl
    have : maxStationNum = 16 := rfl
    omega
  have hkept : ∀ plist : List DhcpsPool, plist.find? (fun pool => pool.mac == mac) = some pool →
      ((plist.map fun pool : DhcpsPool => { pool with leaseTimer := pool.leaseTimer - 1 }).filter
        fun pool => pool.leaseTimer ≠ 0).find? (fun pool => pool.mac == mac) =
          some { pool with leaseTimer := pool.leaseTimer - 1 } := by
    -- The client's node survives the filter, as its timer is not yet zero.
    intro plist hfound
    induction plist with
    | nil => cases hfound
    | cons first plist ih =>
      rw [List.find?_cons] at hfound
      rw [List.map_cons]
      cases hfirst : first.mac == mac with
      | true =>
        rw [hfirst] at hfound
        obtain rfl := Option.some.inj hfound
        rw [List.filter_cons_of_pos (by simpa using hne), List.find?_cons]
        dsimp only
        rw [hfirst]
      | false =>
        rw [hfirst] at hfound
        rw [List.filter_cons]
        split
        · rw [List.find?_cons]
          dsimp only
          rw [hfirst]
          exact ih hfound
        · exact ih hfound
  unfold dhcpsTmr lease
  dsimp only
  rw [if_neg (hnum _ ((List.length_filter_le _ _).trans (Nat.le_of_eq (List.length_map _))))]
  exact hkept dhcps.plist hlease

/-- The client has the address on a lease that lasts at least so many ticks more. -/
structure Holds (mac : Mac) (ip : Ip4) (n : Nat) (dhcps : Dhcps) : Prop where
  lease : ∃ pool, dhcps.lease mac = some pool ∧ pool.ip = ip ∧ n < pool.leaseTimer.toNat
  fits : dhcps.Leasable ip
  renewed : n < dhcps.leaseTimer.toNat

/-- Such an answer makes the client hold the address for the whole time. -/
theorem holds_parseMsg {n : Nat} (h : (parseMsg lookup dhcps m).2 = some ret)
    (hret : ret = .offer ∨ ret = .ack) (hn : n < dhcps.leaseTimer.toNat) :
    Holds m.chaddr (yiaddr (parseMsg lookup dhcps m).1) n (parseMsg lookup dhcps m).1 := by
  obtain ⟨hfit, hostname, hlease⟩ := lease_of_reply h hret
  refine ⟨⟨_, hlease, rfl, hn⟩, ?_, ?_⟩
  · rw [Leasable, (parseMsg_frame lookup dhcps m).1]
    exact hfit
  · rw [parseMsg_leaseTimer]
    exact hn

end Dhcps

/-! ### The promise -/

open Dhcps

variable {mac : Mac} {ip : Ip4} {s t : State} {a : Act} {as : List Act} {n : Nat}
  {m : DhcpsMsg} {ret : DhcpsState}

/-- The client frees nothing itself, and no tick finds more leases than there can be stations. -/
def Keeps (mac : Mac) (ip : Ip4) (s : State) : Act → Prop
  | .message m => m.chaddr = mac → m.cookie = magicCookie → ¬ m.Frees ip (ip == m.ciaddr)
  | .tick => s.dhcps.plist.length ≤ maxStationNum
  | .setReservations _ => True

instance (mac : Mac) (ip : Ip4) (s : State) (a : Act) : Decidable (Keeps mac ip s a) := by
  cases a <;> unfold Keeps <;> infer_instance

/-- **One step.** What a client holds it goes on holding, for one tick less after a tick. Only its
    own messages, a tick and a change of the pool need an argument; the rest leaves the client's
    lease alone. -/
theorem holds_dhcpStep (hkeeps : Keeps mac ip s a)
    (h : s.dhcps.Holds mac ip (n + [a].count .tick)) : (dhcpStep s a).dhcps.Holds mac ip n := by
  obtain ⟨⟨pool, hlease, hip, htimer⟩, hfit, hrenewed⟩ := h
  cases a with
  | setReservations arr => exact ⟨⟨pool, hlease, hip, htimer⟩, hfit, hrenewed⟩
  | tick =>
    have hcount : [Act.tick].count .tick = 1 := rfl
    rw [hcount] at htimer hrenewed
    refine ⟨⟨_, lease_dhcpsTmr hlease hkeeps (by omega), hip, ?_⟩, hfit, ?_⟩
    · show n < (pool.leaseTimer - 1).toNat
      rw [toNat_pred (by omega)]
      omega
    · exact Nat.lt_of_succ_lt hrenewed
  | message m =>
    have hcount : [Act.message m].count .tick = 0 := rfl
    rw [hcount] at htimer hrenewed
    have hfit' : (parseMsg s.lookup s.dhcps m).1.Leasable ip := by
      rw [Leasable, (parseMsg_frame s.lookup s.dhcps m).1]
      exact hfit
    have hrenewed' : n < (parseMsg s.lookup s.dhcps m).1.leaseTimer.toNat := by
      rw [parseMsg_leaseTimer]
      exact hrenewed
    refine ⟨?_, hfit', hrenewed'⟩
    show ∃ pool, (parseMsg s.lookup s.dhcps m).1.lease mac = some pool ∧ _
    by_cases hmac : m.chaddr = mac
    · by_cases hcookie : m.cookie = magicCookie
      · -- the client's own message renews the lease
        subst hmac hip
        obtain ⟨-, -, hostname, hlease'⟩ :=
          parseMsg_of_lease s.lookup hcookie hlease hfit (hkeeps rfl hcookie)
        exact ⟨_, hlease', rfl, hrenewed⟩
      · rw [parseMsg, if_pos hcookie]
        exact ⟨pool, hlease, hip, htimer⟩
    · rw [lease_parseMsg_of_ne _ _ fun heq => hmac heq.symm]
      exact ⟨pool, hlease, hip, htimer⟩

/-- **A run.** It takes from the time that is left only the ticks in it. -/
theorem holds_run (hkeeps : dhcpServer.Meets (Keeps mac ip) s as)
    (hrun : dhcpServer.run s as = some t) (h : s.dhcps.Holds mac ip (n + as.count .tick)) :
    t.dhcps.Holds mac ip n := by
  induction as generalizing s with
  | nil =>
    rw [Machine.run_nil, Option.some.injEq] at hrun
    exact hrun ▸ h
  | cons a as ih =>
    obtain ⟨s', hs, hrest⟩ := Machine.run_cons.mp hrun
    obtain ⟨hkeep, hmeets⟩ := (Machine.meets_cons hs).mp hkeeps
    obtain rfl := Option.some.inj hs
    refine ih hmeets hrest (holds_dhcpStep hkeep ?_)
    rw [Nat.add_assoc, Nat.add_comm (as.count _), ← List.count_append]
    exact h

/-- A `DHCPREQUEST` for an address: in the option, or, to renew it, in `ciaddr`. -/
def DhcpsMsg.Requests (m : DhcpsMsg) (ip : Ip4) : Prop :=
  m.cookie = magicCookie ∧ ∃ items tail, Splits m.options items tail ∧
    lastMsgType items = some dhcpRequest ∧
      (lastReqIpaddr items = some ip ∨ lastReqIpaddr items = none ∧ m.ciaddr = ip)

/-- Such a request is acknowledged when the address is the client's. -/
theorem DhcpsMsg.Requests.parseOptions (h : m.Requests ip) :
    (parseOptions ip (ip == m.ciaddr) m.options).1 = .ack := by
  obtain ⟨-, items, tail, hsplits, htype, hreq⟩ := h
  have hdiscover : (some dhcpRequest : Option UInt8) ≠ some dhcpDiscover := by decide
  rw [parseOptions_items hsplits, stateOf, htype, if_neg hdiscover, if_pos rfl]
  obtain hreq | ⟨hreq, hciaddr⟩ := hreq
  · rw [hreq, if_neg (Option.some_ne_none ip), reqState, if_pos rfl]
  · rw [hreq, if_pos rfl, hciaddr, if_pos (beq_self_eq_true ip)]

/-- **The promise is kept.** In a started server, let a client be offered an address, or get it
    acknowledged.  Whatever the others send and whatever is reserved in the meantime: when it comes
    back before the time is over, the address is still its own, and is acknowledged. -/
theorem promise_kept (hret : (parseMsg s.lookup s.dhcps m).2 = some ret)
    (hreply : ret = .offer ∨ ret = .ack) (hip : yiaddr (parseMsg s.lookup s.dhcps m).1 = ip)
    (hkeeps : dhcpServer.Meets (Keeps m.chaddr ip) (dhcpStep s (.message m)) as)
    (htime : as.count .tick < s.dhcps.leaseTimer.toNat)
    (hrun : dhcpServer.run (dhcpStep s (.message m)) as = some t) (m' : DhcpsMsg)
    (hclient : m'.chaddr = m.chaddr) (hrequests : m'.Requests ip) :
    t.dhcps.dhcpSearchIpOnMac m.chaddr = some ip ∧
      (parseMsg t.lookup t.dhcps m').2 = some .ack ∧
        yiaddr (parseMsg t.lookup t.dhcps m').1 = ip := by
  subst hip
  have hholds : (dhcpStep s (.message m)).dhcps.Holds m.chaddr _ (0 + as.count .tick) :=
    holds_parseMsg hret hreply (by omega)
  -- `Holds` is what the run keeps: the lease is there, and has enough time left.
  obtain ⟨⟨pool, hlease, hpool, -⟩, hfit, -⟩ := holds_run hkeeps hrun hholds
  rw [← hpool] at hfit hrequests ⊢
  have hack := hrequests.parseOptions
  -- A request for its own address is acknowledged, so the lease is not freed by it.
  have hkeep : ¬ m'.Frees pool.ip (pool.ip == m'.ciaddr) := by
    rw [DhcpsMsg.Frees, hack]
    decide
  rw [← hclient] at hlease
  obtain ⟨hstate, haddress, -⟩ :=
    parseMsg_of_lease t.lookup hrequests.1 hlease hfit hkeep
  rw [hack] at hstate
  rw [← hclient]
  refine ⟨?_, hstate, haddress⟩
  rw [dhcpSearchIpOnMac, hlease, Option.map_some]

/-- The `DHCPREQUEST` of the first client for 192.168.4.2. -/
def requestFirst : DhcpsMsg :=
  ⟨0, firstMac, magicCookie, [dhcpOptionMsgType, 1, 3, dhcpOptionReqIpaddr, 4, 192, 168, 4, 2, 255]⟩

theorem requests_requestFirst : requestFirst.Requests 0xC0A80402 :=
  ⟨rfl, [.option ⟨dhcpOptionMsgType, [3], by decide, by decide, by decide⟩,
    .option ⟨dhcpOptionReqIpaddr, [192, 168, 4, 2], by decide, by decide, by decide⟩], [255],
    ⟨rfl, .endMark []⟩, by decide, .inl (by decide)⟩

/-- In between another client is given an address, and the one that the first was offered is
    reserved for a third, which asks for it too. -/
def inBetween : List Act :=
  [.message (discover secondMac), .tick, .setReservations [⟨thirdMac, 0xC0A80402, true⟩],
    .message (discover thirdMac), .tick]

/-- The first client gets what it was offered. -/
theorem first_client_acknowledged : ∃ dhcps ∈ started 0xC0A80401,
    ∃ t ∈ dhcpServer.run (dhcpStep ⟨dhcps, []⟩ (.message (discover firstMac))) inBetween,
      t.dhcps.dhcpSearchIpOnMac firstMac = some 0xC0A80402 ∧
        (parseMsg t.lookup t.dhcps requestFirst).2 = some .ack ∧
          yiaddr (parseMsg t.lookup t.dhcps requestFirst).1 = 0xC0A80402 := by
  obtain ⟨dhcps, hstart⟩ := Option.isSome_iff_exists.mp
    (show (started 0xC0A80401).isSome = true by decide +kernel)
  -- The runs are evaluated for every server that the start can return, which is one.
  have hoffer : ∀ dhcps ∈ started 0xC0A80401,
      (parseMsg (State.lookup ⟨dhcps, []⟩) dhcps (discover firstMac)).2 = some .offer ∧
        yiaddr (parseMsg (State.lookup ⟨dhcps, []⟩) dhcps (discover firstMac)).1 = 0xC0A80402 ∧
          inBetween.count .tick < dhcps.leaseTimer.toNat := by
    decide +kernel
  have hkeeps : ∀ dhcps ∈ started 0xC0A80401, dhcpServer.Meets (Keeps firstMac 0xC0A80402)
      (dhcpStep ⟨dhcps, []⟩ (.message (discover firstMac))) inBetween := by
    decide +kernel
  have hrun : ∀ dhcps ∈ started 0xC0A80401,
      (dhcpServer.run (dhcpStep ⟨dhcps, []⟩ (.message (discover firstMac))) inBetween).isSome := by
    decide +kernel
  obtain ⟨t, ht⟩ := Option.isSome_iff_exists.mp (hrun dhcps hstart)
  obtain ⟨hret, hip, htime⟩ := hoffer dhcps hstart
  exact ⟨dhcps, hstart, t, ht, promise_kept hret (.inl rfl) hip (hkeeps dhcps hstart) htime ht
    requestFirst rfl requests_requestFirst⟩

end SubnetRouter.Dhcp
