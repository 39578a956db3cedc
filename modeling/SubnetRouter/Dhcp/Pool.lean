import SubnetRouter.Dhcp.Leases

namespace SubnetRouter.Dhcp

open Lib

/-!
# Pool confinement

`dhcps_poll_set` chooses at most a hundred addresses of the subnet, without the server.  A
client without a reservation is to get one of them.  The cursor is set past every address that
is given out, reserved ones too, and the end of the pool is tested on network-order words; both
let an address outside the pool through.

* `PoolChosen` — what `dhcps_poll_set` ensures; `poolChosen_dhcpsStart`.
* `Confined` — the property of one step; `KeepsToPool` — the condition on it.
* `Dhcps.has_candidate` — one message; `leases_confined` — a whole run.
-/

/-! ### The pool -/

/-- The address lies between `start_ip` and `end_ip`, in host order. -/
def DhcpsLease.Has (poll : DhcpsLease) (ip : Ip4) : Prop := poll.startIp ≤ ip ∧ ip ≤ poll.endIp

instance (poll : DhcpsLease) (ip : Ip4) : Decidable (poll.Has ip) :=
  inferInstanceAs (Decidable (_ ∧ _))

/-- The server is not in the pool, and the pool is small. -/
structure PoolChosen (poll : DhcpsLease) (serverIp : Ip4) : Prop where
  server_out : ¬ poll.Has serverIp
  small : poll.startIp ≤ poll.endIp → poll.endIp.toNat < poll.startIp.toNat + 100

theorem and_mask_le (ip mask : Ip4) : (ip &&& mask).toNat ≤ ip.toNat := by
  rw [BitVec.toNat_and]
  exact Nat.and_le_left

theorem le_broadcast (ip mask : Ip4) : ip.toNat ≤ ((ip &&& mask) ||| ~~~mask).toNat := by
  -- all bits of the address are in its broadcast address
  have hbits : ip &&& ((ip &&& mask) ||| ~~~mask) = ip := by
    ext i hi
    simp only [BitVec.getElem_and, BitVec.getElem_or, BitVec.getElem_not]
    cases ip[i] <;> cases mask[i] <;> rfl
  calc ip.toNat = (ip &&& ((ip &&& mask) ||| ~~~mask)).toNat := by rw [hbits]
    _ ≤ ((ip &&& mask) ||| ~~~mask).toNat := by
      rw [BitVec.toNat_and]
      exact Nat.and_le_right

theorem poolChosen_of_valid {poll : DhcpsLease} {serverIp mask : Ip4}
    (h : pollValid poll serverIp mask = true) : PoolChosen poll serverIp := by
  simp only [pollValid, Bool.and_eq_true, Bool.not_eq_true', Bool.and_eq_false_iff,
    decide_eq_false_iff_not, dhcpsMaxLease] at h
  obtain ⟨⟨⟨hserver, -⟩, -⟩, hsmall⟩ := h
  have hout : ¬ poll.Has serverIp := fun hin => hserver.elim (· hin.1) (· hin.2)
  have hcount := of_decide_eq_false hsmall
  refine ⟨hout, fun hle => ?_⟩
  rw [DhcpsLease.Has] at hout
  bv_omega

theorem poolChosen_default {serverIp mask : Ip4}
    (hbroadcast : serverIp ≠ (serverIp &&& mask) ||| ~~~mask) :
    PoolChosen (defaultPoll serverIp mask) serverIp := by
  have hnet := and_mask_le serverIp mask
  have hbcast := le_broadcast serverIp mask
  generalize hb : (serverIp &&& mask) ||| ~~~mask = broadcast at *
  generalize hn : serverIp &&& mask = net at *
  -- cutting the range to a hundred addresses only takes some away
  have hcut : ∀ start stop : Ip4, ¬ (start ≤ serverIp ∧ serverIp ≤ stop) →
      start.toNat ≤ stop.toNat + 1 → PoolChosen ⟨true, start,
        if stop - start + 1 > dhcpsMaxLease then start + dhcpsMaxLease - 1 else stop⟩ serverIp := by
    intro start stop hout hle
    have hcount : dhcpsMaxLease = 100 := rfl
    constructor
    · rintro ⟨hge, hend⟩
      dsimp only at hge hend
      split at hend <;> rw [hcount] at * <;> bv_omega
    · dsimp only
      split <;> rw [hcount] at * <;> bv_omega
  simp only [defaultPoll, hb, hn]
  split
  · exact hcut _ _ (by bv_omega) (by bv_omega)
  · exact hcut _ _ (by bv_omega) (by bv_omega)

/-- **The pool of a fresh server.** -/
theorem poolChosen_dhcpsStart {dhcps dhcps' : Dhcps} {ip : Ip4}
    (h : dhcpsStart dhcps ip = some dhcps') :
    PoolChosen dhcps'.dhcpsPoll dhcps'.serverAddress := by
  simp only [dhcpsStart] at h
  split_ifs at h with hzero hmask hends
  obtain rfl := Option.some.inj h
  dsimp only [dhcpsPollSet]
  split
  · rename_i hvalid
    exact poolChosen_of_valid (Bool.and_eq_true_iff.mp hvalid).2
  · exact poolChosen_default fun heq => hends (.inl heq)

namespace Dhcps

variable {lookup : Mac → Ip4} {dhcps : Dhcps} {m : DhcpsMsg}

/-- No message changes the pool or the server's address. What it changes is the leases, and where
    the search goes on. -/
theorem parseMsg_frame (lookup : Mac → Ip4) (dhcps : Dhcps) (m : DhcpsMsg) :
    (parseMsg lookup dhcps m).1.dhcpsPoll = dhcps.dhcpsPoll ∧
      (parseMsg lookup dhcps m).1.serverAddress = dhcps.serverAddress := by
  -- Neither the search for the lease nor `POOL_CHECK` writes the two fields.
  have hfind : (dhcps.findLease lookup m).1.dhcpsPoll = dhcps.dhcpsPoll ∧
      (dhcps.findLease lookup m).1.serverAddress = dhcps.serverAddress := by
    rw [findLease]
    dsimp only
    split
    · exact ⟨rfl, rfl⟩
    · exact (enterLease_frame _ _ _).2.2
  have hpool : ∀ (d : Dhcps) (hasNode : Bool), (d.poolCheck m hasNode).1.dhcpsPoll = d.dhcpsPoll ∧
      (d.poolCheck m hasNode).1.serverAddress = d.serverAddress := by
    intro d hasNode
    rw [poolCheck]
    dsimp only
    split
    · exact ⟨rfl, rfl⟩
    · split <;> exact ⟨rfl, rfl⟩
  by_cases hcookie : m.cookie = magicCookie
  · rw [parseMsg_of_cookie hcookie, (hpool _ _).1, (hpool _ _).2]
    exact hfind
  · rw [parseMsg, if_pos hcookie]
    exact ⟨rfl, rfl⟩

end Dhcps

/-! ### The property and its condition -/

/-- An address put into a new lease of a client without a reservation is one of the pool, and
    not the server's. -/
def Confined (s : State) : Act → Prop
  | .message m => m.cookie = magicCookie → ∀ pool ∈ (s.dhcps.findLease s.lookup m).1.plist,
      pool.mac ∉ s.dhcps.macs → s.lookup pool.mac = 0 →
        s.dhcps.dhcpsPoll.Has pool.ip ∧ pool.ip ≠ s.dhcps.serverAddress
  | _ => True

namespace Dhcps

variable {lookup : Mac → Ip4} {dhcps : Dhcps} {m : DhcpsMsg}

/-- The start of the pool is in it, or it is above the end in network order and never given
    out. -/
def StartFits (dhcps : Dhcps) : Prop :=
  dhcps.dhcpsPoll.startIp ≤ dhcps.dhcpsPoll.endIp ∨
    networkOrder dhcps.dhcpsPoll.endIp < networkOrder dhcps.dhcpsPoll.startIp

/-- The addresses outside the pool from the cursor to the end of its /24 are on lease or above
    the end of the pool, and the first address past the /24 is in the pool or above its end if
    the cursor gets there. -/
def CursorFits (dhcps : Dhcps) : Prop :=
  (∀ i < dhcps.span,
    networkOrder (next^[i] dhcps.clientAddressPlus) ≤ networkOrder dhcps.dhcpsPoll.endIp →
      ¬ dhcps.dhcpsPoll.Has (next^[i] dhcps.clientAddressPlus) →
        next^[i] dhcps.clientAddressPlus ∈ dhcps.ips) ∧
  (dhcps.RunsOver → dhcps.dhcpsPoll.Has dhcps.overrun ∨
    networkOrder dhcps.dhcpsPoll.endIp < networkOrder dhcps.overrun)

/-- The search does not step past an address that ends in 255. -/
def SearchFits (dhcps : Dhcps) : Prop :=
  ∀ k ≤ dhcps.ips.length, 0 < k → Passes networkOrder next k dhcps.dhcpsPoll.startIp dhcps.ips →
    (next^[k] dhcps.dhcpsPoll.startIp).toNat % 256 ≠ 0

/-- What an address for a new client without a reservation takes: the start of the pool if
    there are no leases and nothing was declined, else the cursor, and if it is exhausted the
    search. -/
def PoolReady (dhcps : Dhcps) : Prop :=
  if dhcps.plist = [] ∧ dhcps.hasDeclinedIp = false then dhcps.StartFits
  else dhcps.CursorFits ∧ (dhcps.Exhausted → dhcps.StartFits ∧ dhcps.SearchFits)

instance (dhcps : Dhcps) : Decidable dhcps.StartFits := inferInstanceAs (Decidable (_ ∨ _))

instance (dhcps : Dhcps) : Decidable dhcps.CursorFits :=
  inferInstanceAs (Decidable ((∀ i < dhcps.span, _ → _ → _) ∧ (dhcps.RunsOver → _)))

instance (dhcps : Dhcps) : Decidable dhcps.SearchFits :=
  inferInstanceAs (Decidable (∀ k, k ≤ dhcps.ips.length → 0 < k → _ → _))

instance (dhcps : Dhcps) : Decidable dhcps.PoolReady := inferInstanceAs (Decidable (ite _ _ _))

/-! ### One message -/

theorem has_startIp (h : dhcps.StartFits)
    (hle : networkOrder dhcps.dhcpsPoll.startIp ≤ networkOrder dhcps.dhcpsPoll.endIp) :
    dhcps.dhcpsPoll.Has dhcps.dhcpsPoll.startIp :=
  ⟨BitVec.le_refl _, h.resolve_right hle.not_gt⟩

/-- In the /24 where the pool starts, the end of a small pool is the same in both orders. -/
theorem has_of_same_block {serverIp ip : Ip4} (hchosen : PoolChosen dhcps.dhcpsPoll serverIp)
    (hstart : dhcps.dhcpsPoll.startIp ≤ dhcps.dhcpsPoll.endIp)
    (hsame : dhcps.dhcpsPoll.startIp.toNat / 256 = ip.toNat / 256)
    (hge : dhcps.dhcpsPoll.startIp ≤ ip)
    (hle : networkOrder ip ≤ networkOrder dhcps.dhcpsPoll.endIp) : dhcps.dhcpsPoll.Has ip := by
  have hsmall := hchosen.small hstart
  have hoctet := octet_le_of_networkOrder_le hle
  rw [BitVec.le_def] at hstart hge
  refine ⟨hge, ?_⟩
  by_cases hblock : ip.toNat / 256 = dhcps.dhcpsPoll.endIp.toNat / 256
  · exact (networkOrder_le_iff hblock).mp hle
  · -- a pool that goes on in the next /24 ends at a smaller last octet than it starts at
    omega

/-- The search stays in the /24 where the pool starts. Only the last byte is counted up, which is
    why the pool has to fit in there. -/
theorem has_gap {serverIp : Ip4} (hchosen : PoolChosen dhcps.dhcpsPoll serverIp)
    (hord : Ordered networkOrder dhcps.ips) (hfits : dhcps.StartFits)
    (hsearch : dhcps.SearchFits)
    (hle : networkOrder (gap networkOrder next dhcps.dhcpsPoll.startIp dhcps.ips) ≤
      networkOrder dhcps.dhcpsPoll.endIp) :
    dhcps.dhcpsPoll.Has (gap networkOrder next dhcps.dhcpsPoll.startIp dhcps.ips) := by
  have hlt := dhcps.dhcpsPoll.startIp.isLt
  obtain ⟨k, hk, hgap, hpass, -⟩ := gap_spec next hord dhcps.dhcpsPoll.startIp
  -- The search meets a network order of zero at the end of the block, and so stops before.
  have hstay : k < 256 - dhcps.dhcpsPoll.startIp.toNat % 256 := by
    by_contra hge
    have hzero := hsearch (256 - dhcps.dhcpsPoll.startIp.toNat % 256) (by omega) (by omega)
      (hpass.of_le (by omega))
    rw [toNat_next_iterate] at hzero
    omega
  have hnat : (next^[k] dhcps.dhcpsPoll.startIp).toNat = dhcps.dhcpsPoll.startIp.toNat + k := by
    rw [toNat_next_iterate]
    omega
  -- Within one /24 the network order of the addresses is their own order.
  have hsame : dhcps.dhcpsPoll.startIp.toNat / 256 =
      (next^[k] dhcps.dhcpsPoll.startIp).toNat / 256 := by
    rw [hnat]
    omega
  have hge : dhcps.dhcpsPoll.startIp.toNat ≤ (next^[k] dhcps.dhcpsPoll.startIp).toNat := by
    rw [hnat]
    omega
  rw [hgap] at hle ⊢
  have hstart := hfits.resolve_right (((networkOrder_le_iff hsame).mpr hge).trans hle).not_gt
  exact has_of_same_block hchosen hstart hsame hge hle

/-- **The address for a new client without a reservation**, if it is not above the end of the
    pool in network order, is one of the pool. -/
theorem has_candidate {serverIp : Ip4} {mac : Mac} (hchosen : PoolChosen dhcps.dhcpsPoll serverIp)
    (hord : Ordered networkOrder dhcps.ips) (hready : dhcps.PoolReady) (hres : lookup mac = 0)
    (hle : networkOrder (dhcps.candidate lookup mac) ≤ networkOrder dhcps.dhcpsPoll.endIp) :
    dhcps.dhcpsPoll.Has (dhcps.candidate lookup mac) := by
  by_cases hlist : dhcps.plist = []
  · have hips : dhcps.ips = [] := by rw [ips, hlist]; rfl
    have hcursor : dhcps.cursor = dhcps.clientAddressPlus := by rw [cursor, hips]; rfl
    rw [candidate_of_nil hlist hres] at hle ⊢
    by_cases hfresh : dhcps.hasDeclinedIp = false
    · rw [if_pos (.inr hfresh)] at hle ⊢
      rw [PoolReady, if_pos ⟨hlist, hfresh⟩] at hready
      exact has_startIp hready hle
    · rw [PoolReady, if_neg fun h => hfresh h.2] at hready
      split at hle <;> rename_i habove
      · rw [if_pos habove]
        have hleft : dhcps.Exhausted := (exhausted_iff hord).mp
          (hcursor ▸ habove.resolve_right hfresh)
        exact has_startIp (hready.2 hleft).1 hle
      · rw [if_neg habove]
        by_contra hout
        have hpos : 0 < dhcps.span := by rw [span]; omega
        have hheld := hready.1.1 0 hpos hle hout
        rw [hips] at hheld
        exact List.not_mem_nil hheld
  · rw [PoolReady, if_neg fun h => hlist h.1] at hready
    rw [candidate_eq hlist hres] at hle ⊢
    split at hle <;> rename_i habove
    · rw [if_pos habove]
      obtain ⟨hstart, hsearch⟩ := hready.2 ((exhausted_iff hord).mp habove)
      exact has_gap hchosen hord hstart hsearch hle
    · rw [if_neg habove]
      rcases cursor_cases hord with ⟨hfree, k, hk, hcursor, -⟩ | ⟨hover, hcursor⟩
      · -- addresses outside the pool are all held, and this one is free
        by_contra hout
        rw [hcursor] at hle hout hfree
        exact hfree (hready.1.1 k hk hle hout)
      · rw [hcursor] at hle ⊢
        exact (hready.1.2 hover).resolve_right hle.not_gt

end Dhcps

/-- The message is not of a new client without a reservation, or the pool is ready for it. -/
def KeepsToPool (s : State) : Act → Prop
  | .message m => m.cookie = magicCookie → m.chaddr ∉ s.dhcps.macs → s.lookup m.chaddr = 0 →
      s.dhcps.PoolReady
  | _ => True

instance (s : State) : (a : Act) → Decidable (KeepsToPool s a)
  | .message m => inferInstanceAs (Decidable (m.cookie = magicCookie → _ → _ → _))
  | .tick => .isTrue trivial
  | .setReservations _ => .isTrue trivial

/-- One step. An address is given out by a message only, so that is the case to look at. -/
theorem confined_of_keepsToPool {s : State} {a : Act} (hsound : s.dhcps.Sound)
    (hchosen : PoolChosen s.dhcps.dhcpsPoll s.dhcps.serverAddress) (h : KeepsToPool s a) :
    Confined s a := by
  cases a with
  | tick => trivial
  | setReservations arr => trivial
  | message m =>
    intro hcookie pool hpool hnew hres
    -- A known client keeps its lease; for a new one the candidate decides.
    by_cases hknown : m.chaddr ∈ s.dhcps.macs
    · obtain ⟨-, -, hmacs⟩ := Dhcps.findLease_renew s.lookup hknown
      exact absurd (hmacs ▸ List.mem_map.mpr ⟨pool, hpool, rfl⟩) hnew
    · obtain ⟨d, hd, hlist, hpoll, -⟩ := Dhcps.findLease_new s.lookup hknown
      rw [hd] at hpool
      rcases le_or_gt (networkOrder (s.dhcps.candidate s.lookup m.chaddr))
          (networkOrder d.dhcpsPoll.endIp) with hle | hgt
      · rw [(Dhcps.enterLease_of_le hle m.chaddr).2, nodeInsertToList,
          List.mem_orderedInsert, hlist] at hpool
        rw [hpoll] at hle
        rcases hpool with rfl | hold
        -- The candidate comes from the search, which has not left the pool.
        · have hin := Dhcps.has_candidate hchosen hsound.ordered (h hcookie hknown hres) hres hle
          exact ⟨hin, fun heq => hchosen.server_out (heq ▸ hin)⟩
        · exact absurd (List.mem_map.mpr ⟨pool, hold, rfl⟩) hnew
      · rw [(Dhcps.enterLease_of_gt hgt m.chaddr).2, hlist] at hpool
        exact absurd (List.mem_map.mpr ⟨pool, hpool, rfl⟩) hnew

/-! ### Runs -/

/-- The pool stays as it was chosen. -/
theorem poolChosen_dhcpStep {s : State} (a : Act)
    (h : PoolChosen s.dhcps.dhcpsPoll s.dhcps.serverAddress) :
    PoolChosen (dhcpStep s a).dhcps.dhcpsPoll (dhcpStep s a).dhcps.serverAddress := by
  cases a with
  | message m =>
    obtain ⟨hpoll, hserver⟩ := Dhcps.parseMsg_frame s.lookup s.dhcps m
    rw [dhcpStep, hpoll, hserver]
    exact h
  | tick => exact h
  | setReservations arr => exact h

/-- **Pool confinement.** From a fresh server, in a run whose messages all find the pool ready,
    every address put into a new lease of a client without a reservation is one of the pool. -/
theorem leases_confined {leaseUnit mask leaseTime : BitVec 32} {poll : DhcpsLease} {ip : Ip4}
    {dhcps : Dhcps}
    (hstart : dhcpsStart (dhcpsNew leaseUnit mask poll leaseTime) ip = some dhcps)
    (sTable : List DhcpReservation) (acts : List Act)
    (hmeets : dhcpServer.Meets KeepsToPool ⟨dhcps, sTable⟩ acts) :
    dhcpServer.Meets Confined ⟨dhcps, sTable⟩ acts := by
  refine Machine.Meets.of_invariant (I := fun s : State => s.dhcps.Sound ∧
    PoolChosen s.dhcps.dhcpsPoll s.dhcps.serverAddress) (fun s a s' _ hs hI => ?_)
    (fun s a hI hkeeps => confined_of_keepsToPool hI.1 hI.2 hkeeps) hmeets
    ⟨sound_dhcpsStart hstart, poolChosen_dhcpsStart hstart⟩
  obtain rfl := Option.some.inj hs
  exact ⟨sound_dhcpStep a hI.1, poolChosen_dhcpStep a hI.2⟩

/-- The access point at 192.168.4.1/24, with the pool 192.168.4.250 to 192.168.4.253. -/
def startedWithPool : Option Dhcps :=
  dhcpsStart (dhcpsNew 60 0xFFFFFF00 ⟨true, 0xC0A804FA, 0xC0A804FD⟩ 120) 0xC0A80401

/-- Two clients get addresses of the pool, and between them a third one the address reserved
    for it. -/
theorem three_clients_confined : ∃ dhcps ∈ startedWithPool,
    dhcpServer.Meets Confined ⟨dhcps, [⟨thirdMac, 0xC0A804FC, true⟩]⟩
      [.message (discover firstMac), .tick, .message (discover thirdMac),
        .message (discover secondMac)] := by
  have hmeets : ∀ dhcps ∈ startedWithPool,
      dhcpServer.Meets KeepsToPool ⟨dhcps, [⟨thirdMac, 0xC0A804FC, true⟩]⟩
        [.message (discover firstMac), .tick, .message (discover thirdMac),
          .message (discover secondMac)] := by
    decide +kernel
  obtain ⟨dhcps, hstart⟩ := Option.isSome_iff_exists.mp
    (show startedWithPool.isSome = true by decide +kernel)
  exact ⟨dhcps, hstart, leases_confined hstart _ _ (hmeets dhcps hstart)⟩

instance (s : State) : (a : Act) → Decidable (Confined s a)
  | .message m => inferInstanceAs (Decidable (m.cookie = magicCookie → ∀ pool ∈ _, _ → _ → _ ∧ _))
  | .tick => .isTrue trivial
  | .setReservations _ => .isTrue trivial

/-- **The defect.** A client takes its reserved address 192.168.4.49, below the pool, and the
    cursor is set past it: the next client gets 192.168.4.50, the server's own address. -/
theorem server_address_leased : ¬ ∀ dhcps ∈ started 0xC0A80432,
    dhcpServer.Meets Confined ⟨dhcps, [⟨firstMac, 0xC0A80431, true⟩]⟩
      [.message (discover firstMac), .message (discover secondMac)] := by
  decide +kernel

end SubnetRouter.Dhcp
