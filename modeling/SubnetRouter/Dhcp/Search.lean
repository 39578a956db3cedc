import SubnetRouter.Dhcp.Server
import SubnetRouter.Lib.SortedScan

namespace SubnetRouter.Dhcp

open Lib

/-!
# The address for a new client

`parse_msg` makes two searches in one pass over the leases: `client_address_plus` is a `sweep`
and `first_address` a `gap` along the sorted addresses.  Adding one to an address raises its
network-order word unless the address ends in 255, so each search is right up to the end of
the /24 that it starts in.

* `networkOrder_next_lt_iff` — where the two orders disagree.
* `Dhcps.RunsOver`, `Dhcps.Exhausted`, `Dhcps.SearchReturns` — what can go wrong with the cursor
  and with the search.
* `Dhcps.cursor_cases` — where the cursor stops.
* `Dhcps.mem_ips_candidate_iff` — when the address for a client without a reservation is leased
  already.
-/

/-! ### Addresses in both orders -/

theorem eq_and_eq_of_shift_add {m n r t : Nat} (hr : r < 256) (ht : t < 256)
    (h : m * 256 + r = n * 256 + t) : m = n ∧ r = t := by
  omega

theorem networkOrder_injective : Function.Injective networkOrder := by
  intro a b h
  have hlt : ∀ n : Nat, n % 256 < 256 := fun n => Nat.mod_lt n (by decide)
  have ha : a.toNat / 256 / 256 / 256 < 256 := by have := a.isLt; omega
  have hb : b.toNat / 256 / 256 / 256 < 256 := by have := b.isLt; omega
  -- the octets agree one after the other, from the one that weighs least
  obtain ⟨h, hfirst⟩ := eq_and_eq_of_shift_add ha hb h
  obtain ⟨h, hsecond⟩ := eq_and_eq_of_shift_add (hlt _) (hlt _) h
  obtain ⟨hfourth, hthird⟩ := eq_and_eq_of_shift_add (hlt _) (hlt _) h
  apply BitVec.eq_of_toNat_eq
  omega

/-- The next address. -/
def next (ip : Ip4) : Ip4 := ip + 1

theorem toNat_next (ip : Ip4) : (next ip).toNat = (ip.toNat + 1) % 2 ^ 32 := by
  simp [next, BitVec.toNat_add]

theorem next_ne (ip : Ip4) : next ip ≠ ip := by
  intro h
  have hnat := congrArg BitVec.toNat h
  have hlt := ip.isLt
  rw [toNat_next] at hnat
  omega

theorem toNat_next_iterate (ip : Ip4) (k : Nat) :
    (next^[k] ip).toNat = (ip.toNat + k) % 2 ^ 32 := by
  induction k with
  | zero => exact (Nat.mod_eq_of_lt ip.isLt).symm
  | succ k ih =>
    rw [Function.iterate_succ_apply', toNat_next, ih, Nat.mod_add_mod, Nat.add_assoc]

/-- The next address has a smaller word exactly after an address that ends in 255. -/
theorem networkOrder_next_lt_iff (ip : Ip4) :
    networkOrder (next ip) < networkOrder ip ↔ ip.toNat % 256 = 255 := by
  have hlt := ip.isLt
  rw [networkOrder, networkOrder, toNat_next]
  omega

/-- In one /24 both orders agree. -/
theorem networkOrder_le_iff {a b : Ip4} (h : a.toNat / 256 = b.toNat / 256) :
    networkOrder a ≤ networkOrder b ↔ a.toNat ≤ b.toNat := by
  simp only [networkOrder, h]
  omega

/-- The last octet decides first. -/
theorem octet_le_of_networkOrder_le {a b : Ip4} (h : networkOrder a ≤ networkOrder b) :
    a.toNat % 256 ≤ b.toNat % 256 := by
  have ha := a.isLt
  have hb := b.isLt
  simp only [networkOrder] at h
  omega

namespace Dhcps

variable {lookup : Mac → Ip4} {dhcps : Dhcps} {mac : Mac} {q : Search}

/-- The leased addresses. -/
def ips (dhcps : Dhcps) : List Ip4 := dhcps.plist.map DhcpsPool.ip

/-- The clients with a lease. -/
def macs (dhcps : Dhcps) : List Mac := dhcps.plist.map DhcpsPool.mac

/-! ### The two searches -/

/-- Both searches over all leases of other clients. The one upwards from the client's address and
    the one for the first gap do not touch each other. -/
theorem foldl_visit (h : q.clientAddress = q.clientAddressPlus) (ips : List Ip4) :
    (ips.foldl Search.visit q).clientAddressPlus = sweep next q.clientAddressPlus ips ∧
      (ips.foldl Search.visit q).clientAddress = sweep next q.clientAddressPlus ips ∧
      (ips.foldl Search.visit q).firstAddress =
        if q.flag then q.firstAddress else gap networkOrder next q.firstAddress ips := by
  induction ips generalizing q with
  | nil => exact ⟨rfl, h, by split <;> rfl⟩
  | cons ip ips ih =>
    have hplus : (q.visit ip).clientAddressPlus = stepPast next q.clientAddressPlus ip := by
      simp only [Search.visit, stepPast, next]
      split_ifs <;> rfl
    have hsame : (q.visit ip).clientAddress = (q.visit ip).clientAddressPlus := by
      simp only [Search.visit]
      split_ifs <;> first | rfl | exact h
    obtain ⟨hp, hc, hf⟩ := ih hsame
    rw [hplus] at hp hc
    refine ⟨hp, hc, ?_⟩
    rw [List.foldl_cons, hf]
    by_cases hflag : q.flag = true
    · -- the first gap has been found further up
      have hkeep : (q.visit ip).flag = true ∧ (q.visit ip).firstAddress = q.firstAddress := by
        by_cases hat : ip = q.clientAddressPlus <;> simp [Search.visit, hat, hflag]
      rw [if_pos hkeep.1, if_pos hflag, hkeep.2]
    · by_cases habove : networkOrder q.firstAddress < networkOrder ip
      · have hstop : (q.visit ip).flag = true ∧ (q.visit ip).firstAddress = q.firstAddress := by
          by_cases hat : ip = q.clientAddressPlus
          · simp [Search.visit, if_pos hat, hflag, habove]
          · simp [Search.visit, if_neg hat, hflag, habove]
        rw [if_pos hstop.1, if_neg hflag, hstop.2, gap, if_pos habove]
      · have hmove : (q.visit ip).flag = q.flag ∧
            (q.visit ip).firstAddress = next q.firstAddress := by
          by_cases hat : ip = q.clientAddressPlus
          · simp [Search.visit, next, if_pos hat, hflag, habove]
          · simp [Search.visit, next, if_neg hat, hflag, habove]
        rw [hmove.1, hmove.2, if_neg hflag, if_neg hflag, gap, if_neg habove]

/-- The address for a client that is new to the server: what the searches over all leases come
    to. -/
def candidate (lookup : Mac → Ip4) (dhcps : Dhcps) (mac : Mac) : Ip4 :=
  let plus := dhcps.clientAddressPlus
  let first := dhcps.dhcpsPoll.startIp
  dhcps.selectAddress
    (if dhcps.plist.isEmpty then ⟨if dhcps.hasDeclinedIp then plus else first, plus, first, false⟩
    else dhcps.ips.foldl Search.visit ⟨plus, plus, first, false⟩) (lookup mac)

/-! ### The cursor -/

/-- The addresses from the cursor to the end of its /24. -/
def span (dhcps : Dhcps) : Nat := 256 - dhcps.clientAddressPlus.toNat % 256

/-- All addresses from the cursor to the end of its /24 are leased. -/
def RunsOver (dhcps : Dhcps) : Prop :=
  ∀ i < dhcps.span, next^[i] dhcps.clientAddressPlus ∈ dhcps.ips

/-- The first address past that /24. -/
def overrun (dhcps : Dhcps) : Ip4 := next^[dhcps.span] dhcps.clientAddressPlus

/-- No address is left for the cursor: all from it to the end of its /24 are leased or above
    the end of the pool, and so is the one past the /24 if the cursor gets there. -/
def Exhausted (dhcps : Dhcps) : Prop :=
  (∀ i < dhcps.span,
    networkOrder (next^[i] dhcps.clientAddressPlus) ≤ networkOrder dhcps.dhcpsPoll.endIp →
      next^[i] dhcps.clientAddressPlus ∈ dhcps.ips) ∧
  (dhcps.RunsOver → networkOrder dhcps.dhcpsPoll.endIp < networkOrder dhcps.overrun)

instance (dhcps : Dhcps) : Decidable dhcps.RunsOver :=
  inferInstanceAs (Decidable (∀ i < dhcps.span, _))

instance (dhcps : Dhcps) : Decidable dhcps.Exhausted :=
  inferInstanceAs (Decidable ((∀ i < dhcps.span, _ → _) ∧ (dhcps.RunsOver → _)))

/-- The cursor after a pass over all leases. -/
def cursor (dhcps : Dhcps) : Ip4 := sweep next dhcps.clientAddressPlus dhcps.ips

theorem toNat_of_lt_span {i : Nat} (hi : i < dhcps.span) :
    (next^[i] dhcps.clientAddressPlus).toNat = dhcps.clientAddressPlus.toNat + i := by
  have hlt := dhcps.clientAddressPlus.isLt
  rw [span] at hi
  rw [toNat_next_iterate]
  omega

/-- **The cursor.** It stops at a free address of its /24, or runs over. In the first case all the
    addresses that it has passed are leased. -/
theorem cursor_cases (hord : Ordered networkOrder dhcps.ips) :
    (dhcps.cursor ∉ dhcps.ips ∧
        ∃ k < dhcps.span, dhcps.cursor = next^[k] dhcps.clientAddressPlus ∧
          ∀ i < k, next^[i] dhcps.clientAddressPlus ∈ dhcps.ips) ∨
      dhcps.RunsOver ∧ dhcps.cursor = dhcps.overrun := by
  obtain ⟨k, hk, hused, hrises, hstop⟩ :=
    sweep_spec networkOrder_injective next_ne hord dhcps.clientAddressPlus
  have hpos : 0 < dhcps.span := by rw [span]; omega
  -- the word falls at the last address of the /24 and nowhere before
  have hfall : ∀ i < dhcps.span,
      networkOrder (next^[i + 1] dhcps.clientAddressPlus) <
        networkOrder (next^[i] dhcps.clientAddressPlus) ↔ i + 1 = dhcps.span := by
    intro i hi
    rw [Function.iterate_succ_apply', networkOrder_next_lt_iff, toNat_of_lt_span hi]
    rw [span] at hi ⊢
    omega
  have hle : k ≤ dhcps.span := by
    by_contra hgt
    have hlast : dhcps.span - 1 + 1 = dhcps.span := by omega
    have hrise := hrises (dhcps.span - 1) (by omega)
    exact absurd ((hfall (dhcps.span - 1) (by omega)).mpr hlast) hrise.not_gt
  rcases hle.lt_or_eq with hlt | rfl
  · refine .inl ⟨fun hmem => ?_, k, hlt, hk, hused⟩
    obtain ⟨j, rfl, hdrop⟩ := hstop hmem
    exact absurd ((hfall j (by omega)).mp hdrop) hlt.ne
  · exact .inr ⟨hused, hk⟩

/-- The cursor ends up above the end of the pool exactly when no address is left for it, between
    where it starts and that end. -/
theorem exhausted_iff (hord : Ordered networkOrder dhcps.ips) :
    networkOrder dhcps.dhcpsPoll.endIp < networkOrder dhcps.cursor ↔ dhcps.Exhausted := by
  rcases cursor_cases hord with ⟨hfree, k, hk, hcursor, hused⟩ | ⟨hover, hcursor⟩
  · constructor
    · intro habove
      refine ⟨fun i hi hin => ?_, fun hover => absurd (hcursor ▸ hover k hk) hfree⟩
      rcases lt_or_ge i k with hlt | hge
      · exact hused i hlt
      · -- later addresses of the /24 are above the end too
        rw [hcursor] at habove
        have hsame : (next^[k] dhcps.clientAddressPlus).toNat / 256 =
            (next^[i] dhcps.clientAddressPlus).toNat / 256 := by
          rw [toNat_of_lt_span hk, toNat_of_lt_span hi]
          rw [span] at hk hi
          omega
        have hmono := (networkOrder_le_iff hsame).mpr
          (by rw [toNat_of_lt_span hk, toNat_of_lt_span hi]; omega)
        exact absurd hin (habove.trans_le hmono).not_ge
    · intro hleft
      by_contra hin
      exact hfree (hcursor ▸ hleft.1 k hk (hcursor ▸ not_lt.mp hin))
  · constructor
    · exact fun habove => ⟨fun i hi _ => hover i hi, fun _ => hcursor ▸ habove⟩
    · exact fun hleft => hcursor ▸ hleft.2 hover

/-! ### The search from the start of the pool -/

/-- The search steps over leases up to an address that ends in `.0`, which one of them has. -/
def SearchReturns (dhcps : Dhcps) (ip : Ip4) : Prop :=
  ∃ k ≤ dhcps.ips.length, Passes networkOrder next k dhcps.dhcpsPoll.startIp dhcps.ips ∧
    ip = next^[k] dhcps.dhcpsPoll.startIp ∧ ip.toNat % 256 = 0 ∧ ip ∈ dhcps.ips.take k

instance (dhcps : Dhcps) (ip : Ip4) : Decidable (dhcps.SearchReturns ip) :=
  inferInstanceAs (Decidable (∃ k, k ≤ dhcps.ips.length ∧ _))

/-- The search stops at a leased address exactly when it comes back to one. -/
theorem searchReturns_iff (hord : Ordered networkOrder dhcps.ips) (hnd : dhcps.ips.Nodup)
    (ip : Ip4) :
    dhcps.SearchReturns ip ↔
      gap networkOrder next dhcps.dhcpsPoll.startIp dhcps.ips = ip ∧ ip ∈ dhcps.ips := by
  rw [gap_mem_iff networkOrder_injective hord hnd]
  constructor
  · rintro ⟨k, hk, hpass, hip, -, hback⟩
    exact ⟨k, hk, hpass, hip, hback⟩
  · rintro ⟨k, hk, hpass, hip, hback⟩
    refine ⟨k, hk, hpass, hip, ?_, hback⟩
    cases k with
    | zero => simp at hback
    | succ k =>
      -- the word has fallen at the last step, so that one left an address ending in 255
      have hle := hpass.key_le hord ip hback
      rw [hip, Function.iterate_succ_apply'] at hle
      have hne := networkOrder_injective.ne (next_ne (next^[k] dhcps.dhcpsPoll.startIp))
      have hlast := (networkOrder_next_lt_iff _).mp (lt_of_le_of_ne hle hne)
      rw [hip, Function.iterate_succ_apply', toNat_next]
      omega

/-! ### The address for a new client -/

/-- With an empty list, the address is the start of the pool; after a declined address it is the
    cursor, unless that is above the end of the pool. -/
theorem candidate_of_nil (hlist : dhcps.plist = []) (hres : lookup mac = 0) :
    dhcps.candidate lookup mac =
      if networkOrder dhcps.dhcpsPoll.endIp < networkOrder dhcps.clientAddressPlus ∨
          dhcps.hasDeclinedIp = false then dhcps.dhcpsPoll.startIp
      else dhcps.clientAddressPlus := by
  have hempty : dhcps.plist.isEmpty = true := by rw [hlist]; rfl
  by_cases habove : networkOrder dhcps.dhcpsPoll.endIp < networkOrder dhcps.clientAddressPlus
  · simp [candidate, selectAddress, hres, hempty, habove]
  · cases hdeclined : dhcps.hasDeclinedIp <;>
      simp [candidate, selectAddress, hres, hempty, habove, hdeclined]

/-- With leases on the list, the address is the cursor or else what the search finds. -/
theorem candidate_eq (hlist : dhcps.plist ≠ []) (hres : lookup mac = 0) :
    dhcps.candidate lookup mac =
      if networkOrder dhcps.dhcpsPoll.endIp < networkOrder dhcps.cursor then
        gap networkOrder next dhcps.dhcpsPoll.startIp dhcps.ips
      else dhcps.cursor := by
  have hempty : dhcps.plist.isEmpty = false := by simpa using hlist
  obtain ⟨hplus, hclient, hfirst⟩ := foldl_visit (q := ⟨dhcps.clientAddressPlus,
    dhcps.clientAddressPlus, dhcps.dhcpsPoll.startIp, false⟩) rfl dhcps.ips
  simp only [candidate, selectAddress, hres, hempty, Bool.false_eq_true, if_false, hplus,
    hclient, hfirst, ne_eq, not_true_eq_false]
  rfl

/-- A reservation comes before both. -/
theorem candidate_of_reserved (hres : lookup mac ≠ 0) :
    dhcps.candidate lookup mac = lookup mac := if_pos hres

/-- **The address for a client without a reservation** is a leased one exactly when the cursor
    runs over to a leased address, or is exhausted and the search comes back to one. -/
theorem mem_ips_candidate_iff (hord : Ordered networkOrder dhcps.ips) (hnd : dhcps.ips.Nodup)
    (hres : lookup mac = 0) (ip : Ip4) (hip : ip ∈ dhcps.ips)
    (hend : networkOrder ip ≤ networkOrder dhcps.dhcpsPoll.endIp) :
    dhcps.candidate lookup mac = ip ↔
      dhcps.RunsOver ∧ ip = dhcps.overrun ∨ dhcps.Exhausted ∧ dhcps.SearchReturns ip := by
  have hlist : dhcps.plist ≠ [] := by
    rintro hnil
    simp [ips, hnil] at hip
  rw [candidate_eq hlist hres, searchReturns_iff hord hnd, ← exhausted_iff hord]
  -- Only beyond the end of the pool does the search start again from its beginning.
  by_cases habove : networkOrder dhcps.dhcpsPoll.endIp < networkOrder dhcps.cursor
  · rw [if_pos habove]
    constructor
    · exact fun hgap => .inr ⟨habove, hgap, hip⟩
    · rintro (⟨hover, rfl⟩ | ⟨-, hgap, -⟩)
      -- A cursor that ran over stopped at a leased address below the end, against `habove`.
      · rcases cursor_cases hord with ⟨hfree, k, hk, hcursor, -⟩ | ⟨-, hcursor⟩
        · exact absurd (hcursor ▸ hover k hk) hfree
        · exact absurd hend (hcursor ▸ habove).not_ge
      · exact hgap
  · rw [if_neg habove]
    -- Below the end the cursor itself is the candidate: a free address, or the overrun.
    rcases cursor_cases hord with ⟨hfree, k, hk, hcursor, -⟩ | ⟨hover, hcursor⟩
    · constructor
      · rintro rfl
        exact absurd hip hfree
      · rintro (⟨hover, -⟩ | ⟨hgt, -⟩)
        · exact absurd (hcursor ▸ hover k hk) hfree
        · exact absurd hgt habove
    · constructor
      · exact fun heq => .inl ⟨hover, heq.symm.trans hcursor⟩
      · rintro (⟨-, heq⟩ | ⟨hgt, -⟩)
        · exact hcursor.trans heq.symm
        · exact absurd hgt habove

end Dhcps

end SubnetRouter.Dhcp
