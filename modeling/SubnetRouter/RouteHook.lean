import SubnetRouter.Net.Ip4

namespace SubnetRouter.RouteHook

/-!
# The source-route hook (`main/lwip_route_hook.c`)

lwIP asks `__wrap_ip4_route_src_hook` for an outgoing interface before it consults its own
table.  The hook decides in a fixed order:

* 1 — a 100.64.0.0/10 destination goes to the WireGuard netif;
* 1b — a forwarded packet to an accepted subnet route goes to the WireGuard netif;
* 2 — with an exit node and `lan_bypass`, LAN destinations leave by the matching netif;
* 3 — with an exit node, the router's own public traffic leaves by the station and forwarded
  public traffic by the WireGuard netif;
* 4 — everything else is ESP-IDF's own hook.

`wrapIp4RouteSrcHook_forwardedPublic` evaluates the whole chain on a forwarded packet to a
public destination; `exitNode_failClosed_iff` says when such a packet stays off the uplink.
-/

/-- One entry of the accepted-routes table (network in host order). -/
structure AcceptedRoute where
  network : Ip4
  prefixLen : Nat
deriving DecidableEq, Repr

/-- The table entry is usable and contains the destination. -/
def AcceptedRoute.covers (r : AcceptedRoute) (dst : Ip4) : Bool :=
  r.prefixLen ≠ 0 && r.prefixLen ≤ 32 &&
    dst &&& prefixMask r.prefixLen == r.network &&& prefixMask r.prefixLen

/-- The globals the hook reads. `tailscaleAcceptedRoutes` holds the
    `tailscale_accepted_routes_count` valid entries of the table. -/
structure RouteState where
  netifList : List Netif
  netifDefault : Option Netif
  tailscaleExitNodeIp : Ip4
  tailscaleLanBypass : Int
  tailscaleAcceptRoutes : Int
  tailscaleAcceptedRoutes : List AcceptedRoute

/-- `find_wg_netif`: the first netif whose address is set and in 100.64.0.0/10. -/
def findWgNetif (netifs : List Netif) : Option Netif :=
  netifs.find? fun n => n.ipAddr != 0#32 && ipInCgnat n.ipAddr

/-- `find_sta_netif`: the first station netif that is up with its link up. -/
def findStaNetif (netifs : List Netif) : Option Netif :=
  netifs.find? fun n => n.isSta && n.up && n.linkUp

/-- Some netif holds the address. -/
def isLocal (netifs : List Netif) (src : Ip4) : Bool := netifs.any fun n => n.ipAddr == src

/-- Step 1b: a forwarded packet whose destination is in an accepted route. The router's own packets
    are left to the later steps. -/
def acceptRouteMatch (st : RouteState) (src : Option Ip4) (dst : Ip4) : Bool :=
  st.tailscaleAcceptRoutes ≠ 0 && !st.tailscaleAcceptedRoutes.isEmpty &&
    match src with
    | none => false
    | some s => s != 0#32 && !isLocal st.netifList s &&
        st.tailscaleAcceptedRoutes.any fun r => r.covers dst

/-- The netif scan of step 2: either the first non-WireGuard netif whose prefix contains the
    destination (2a), or the remembered station netif for the RFC 1918 fallback (2b). -/
def lanScan (dst : Ip4) : Option Netif → List Netif → Netif ⊕ Option Netif
  | staMatch, [] => .inr staMatch
  | staMatch, n :: ns =>
    if n.ipAddr = 0#32 then lanScan dst staMatch ns
    else if ipInCgnat n.ipAddr then lanScan dst staMatch ns
    else if n.covers dst then .inl n
    else if staMatch.isNone && n.isSta && n.up && n.linkUp then lanScan dst (some n) ns
    else lanScan dst staMatch ns

/-- Step 2: exit node and `lan_bypass`. The netif whose subnet holds the destination comes first;
    for other private destinations it is the station. -/
def lanBypassStep (st : RouteState) (dst : Ip4) : Option Netif :=
  if st.tailscaleExitNodeIp ≠ 0#32 ∧ st.tailscaleLanBypass ≠ 0 then
    match lanScan dst none st.netifList with
    | .inl n => some n
    | .inr staMatch => if isPrivate dst then staMatch else none
  else none

/-- Step 3: exit node, public destination. Without a tunnel that is up a forwarded packet gets no
    answer here. -/
def exitNodeStep (st : RouteState) (src : Option Ip4) (dst : Ip4) : Option Netif :=
  if st.tailscaleExitNodeIp ≠ 0#32 then
    let srcIsSelf := match src with
      | none => true
      | some s => s == 0#32 || isLocal st.netifList s
    if isPrivate dst then none
    -- the router's own traffic keeps the uplink: the tunnel itself runs over it
    else if srcIsSelf then findStaNetif st.netifList
    else (findWgNetif st.netifList).filter fun wg => wg.up
  else none

/-- `__wrap_ip4_route_src_hook`; `real` is `__real_ip4_route_src_hook`. It is asked when no step has
    an answer. -/
def wrapIp4RouteSrcHook (real : Option Ip4 → Ip4 → Option Netif) (st : RouteState)
    (src dest : Option Ip4) : Option Netif :=
  match dest with
  | none => none
  | some dst =>
    if ipInCgnat dst then findWgNetif st.netifList
    else if acceptRouteMatch st src dst then findWgNetif st.netifList
    else match lanBypassStep st dst with
      | some n => some n
      -- a private destination without a netif falls through even with an exit node
      | none => match exitNodeStep st src dst with
        | some n => some n
        | none => real src dst

/-- The netif the packet leaves by: the hook's answer, else `netif_default`. -/
def egress (real : Option Ip4 → Ip4 → Option Netif) (st : RouteState) (src dst : Ip4) :
    Option Netif :=
  (wrapIp4RouteSrcHook real st (some src) (some dst)).or st.netifDefault

/-! ### Forwarded packets to public destinations -/

/-- What is relied on of `__real_ip4_route_src_hook`: it returns only an up netif whose
    address is the source. -/
def RealHookSpec (real : Option Ip4 → Ip4 → Option Netif) (netifs : List Netif) : Prop :=
  ∀ src dst n, real (some src) dst = some n → n ∈ netifs ∧ n.up = true ∧ n.ipAddr = src

/-- A forwarded packet to a public destination: the source is no address of the router, and
    the destination is neither in 100.64.0.0/10, nor RFC 1918, nor in an accepted route, nor,
    with `lan_bypass`, in the prefix of a netif other than the WireGuard one. -/
structure ForwardedPublic (st : RouteState) (src dst : Ip4) : Prop where
  src_ne_zero : src ≠ 0#32
  src_foreign : ∀ n ∈ st.netifList, n.ipAddr ≠ src
  dst_not_cgnat : ipInCgnat dst = false
  dst_not_private : isPrivate dst = false
  no_accepted_route : st.tailscaleAcceptRoutes ≠ 0 →
    ∀ r ∈ st.tailscaleAcceptedRoutes, r.covers dst = false
  no_lan_prefix : st.tailscaleLanBypass ≠ 0 →
    ∀ n ∈ st.netifList, n.ipAddr ≠ 0#32 → ipInCgnat n.ipAddr = false → n.covers dst = false

variable {st : RouteState} {src dst : Ip4} {real : Option Ip4 → Ip4 → Option Netif}

/-- No netif holds the source of a forwarded packet. -/
theorem ForwardedPublic.isLocal_eq_false (h : ForwardedPublic st src dst) :
    isLocal st.netifList src = false := by
  simpa [isLocal] using h.src_foreign

/-- Step 1b passes a forwarded packet to a public destination on. -/
theorem acceptRouteMatch_forwardedPublic (h : ForwardedPublic st src dst) :
    acceptRouteMatch st (some src) dst = false := by
  by_cases hacc : st.tailscaleAcceptRoutes = 0
  · simp [acceptRouteMatch, hacc]
  · have hroutes : (st.tailscaleAcceptedRoutes.any fun r => r.covers dst) = false := by
      simpa using h.no_accepted_route hacc
    simp [acceptRouteMatch, hroutes]

/-- The scan of step 2 finds no netif when none has the destination in its prefix. -/
theorem lanScan_eq_inr {netifs : List Netif}
    (h : ∀ n ∈ netifs, n.ipAddr ≠ 0#32 → ipInCgnat n.ipAddr = false → n.covers dst = false)
    (staMatch : Option Netif) : ∃ m, lanScan dst staMatch netifs = .inr m := by
  induction netifs generalizing staMatch with
  | nil => exact ⟨staMatch, rfl⟩
  | cons n ns ih =>
    have ih' := ih fun m hm => h m (List.mem_cons_of_mem n hm)
    rw [lanScan]
    split_ifs with hzero hcgnat hcov hsta
    · exact ih' staMatch
    · exact ih' staMatch
    · have := h n List.mem_cons_self hzero (by simpa using hcgnat)
      simp [this] at hcov
    · exact ih' (some n)
    · exact ih' staMatch

/-- Step 2 passes a forwarded packet to a public destination on. -/
theorem lanBypassStep_forwardedPublic (h : ForwardedPublic st src dst) :
    lanBypassStep st dst = none := by
  unfold lanBypassStep
  by_cases hon : st.tailscaleExitNodeIp ≠ 0#32 ∧ st.tailscaleLanBypass ≠ 0
  · obtain ⟨m, hm⟩ := lanScan_eq_inr (h.no_lan_prefix hon.2) none
    simp only [if_pos hon, hm, h.dst_not_private, Bool.false_eq_true, if_false]
  · rw [if_neg hon]

/-- Step 3 answers with the WireGuard netif as soon as it is up. -/
theorem exitNodeStep_forwardedPublic (hexit : st.tailscaleExitNodeIp ≠ 0#32)
    (h : ForwardedPublic st src dst) :
    exitNodeStep st (some src) dst = (findWgNetif st.netifList).filter fun wg => wg.up := by
  simp [exitNodeStep, hexit, h.dst_not_private, h.src_ne_zero, h.isLocal_eq_false]

/-- ESP-IDF's hook has no answer for a source that no netif holds. -/
theorem real_forwardedPublic (hreal : RealHookSpec real st.netifList)
    (h : ForwardedPublic st src dst) : real (some src) dst = none := by
  rw [Option.eq_none_iff_forall_not_mem]
  intro n hn
  obtain ⟨hmem, -, haddr⟩ := hreal src dst n hn
  exact h.src_foreign n hmem haddr

/-- **The hook on forwarded public traffic.** With an exit node selected, the hook answers
    with the WireGuard netif when it is up, and otherwise not at all. -/
theorem wrapIp4RouteSrcHook_forwardedPublic (hreal : RealHookSpec real st.netifList)
    (hexit : st.tailscaleExitNodeIp ≠ 0#32) (h : ForwardedPublic st src dst) :
    wrapIp4RouteSrcHook real st (some src) (some dst)
      = (findWgNetif st.netifList).filter fun wg => wg.up := by
  simp only [wrapIp4RouteSrcHook, h.dst_not_cgnat, acceptRouteMatch_forwardedPublic h,
    lanBypassStep_forwardedPublic h, exitNodeStep_forwardedPublic hexit h,
    real_forwardedPublic hreal h, Bool.false_eq_true, if_false]
  cases (findWgNetif st.netifList).filter fun wg => wg.up <;> rfl

/-! ### Fail-closed exit node -/

/-- The packet leaves by the WireGuard netif or has no route; in particular it never leaves
    by the station uplink. -/
def FailClosed (real : Option Ip4 → Ip4 → Option Netif) (st : RouteState) (src dst : Ip4) :
    Prop :=
  ∀ n, egress real st src dst = some n → n.isWg = true ∧ n.isSta = false

/-- The tunnel takes the default traffic: the netif found by its 100.64.0.0/10 address is the
    WireGuard netif and up; or none found so is up and `netif_default` is the WireGuard netif
    or unset. -/
def TunnelTakesDefault (st : RouteState) : Prop :=
  (∃ wg, findWgNetif st.netifList = some wg ∧ wg.up = true ∧ wg.isWg = true) ∨
    ((∀ wg, findWgNetif st.netifList = some wg → wg.up = false) ∧
      ∀ n, st.netifDefault = some n → n.isWg = true)

/-- **Fail-closed exit node.** With an exit node selected, forwarded public traffic stays off
    the uplink exactly when the tunnel takes the default traffic. -/
theorem exitNode_failClosed_iff (hreal : RealHookSpec real st.netifList)
    (hexit : st.tailscaleExitNodeIp ≠ 0#32) (h : ForwardedPublic st src dst) :
    FailClosed real st src dst ↔ TunnelTakesDefault st := by
  have hwg : ∀ n : Netif, (n.isWg = true ∧ n.isSta = false) ↔ n.isWg = true :=
    fun n => ⟨And.left, fun hn => ⟨hn, Netif.isSta_of_isWg hn⟩⟩
  unfold FailClosed TunnelTakesDefault egress
  rw [wrapIp4RouteSrcHook_forwardedPublic hreal hexit h]
  simp only [hwg]
  cases hfind : findWgNetif st.netifList with
  | none => simp
  | some wg =>
    -- the netif found by address decides whether the default route is consulted
    cases hup : wg.up with
    | true => simp [Option.filter, hup]
    | false => simp [Option.filter, hup]

/-! ### A station uplink with the tunnel up, and with the tunnel gone -/

/-- ESP-IDF's hook: the up netif whose address is the source. -/
def idfSrcHook (netifs : List Netif) (src : Option Ip4) (_ : Ip4) : Option Netif :=
  src.bind fun s => netifs.find? fun n => n.up && n.ipAddr == s

theorem idfSrcHook_spec (netifs : List Netif) : RealHookSpec (idfSrcHook netifs) netifs := by
  intro src dst n hn
  have hfind : netifs.find? (fun n => n.up && n.ipAddr == src) = some n := hn
  have hpred := List.find?_some hfind
  simp only [Bool.and_eq_true, beq_iff_eq] at hpred
  exact ⟨List.mem_of_find?_eq_some hfind, hpred.1, hpred.2⟩

/-- Station 192.168.1.50/24. -/
def staNetif : Netif := ⟨('s', 't'), 1, 0xC0A80132#32, 0xFFFFFF00#32, true, true⟩

/-- WireGuard 100.64.0.9/10. -/
def wgNetif : Netif := ⟨('w', 'g'), 0, 0x64400009#32, 0xFFC00000#32, true, true⟩

/-- An exit node is selected and `netif_default` is the station. -/
def exitNodeState (netifs : List Netif) : RouteState :=
  ⟨netifs, some staNetif, 0x64400001#32, 1, 0, []⟩

/-- An AP client's packet 192.168.4.2 → 1.1.1.1 is forwarded public traffic. -/
theorem exitNodeState_forwardedPublic {netifs : List Netif}
    (h : netifs = [wgNetif, staNetif] ∨ netifs = [staNetif]) :
    ForwardedPublic (exitNodeState netifs) 0xC0A80402#32 0x01010101#32 := by
  rcases h with rfl | rfl <;> constructor <;> decide

theorem exitNode_failClosed_tunnelUp :
    FailClosed (idfSrcHook [wgNetif, staNetif]) (exitNodeState [wgNetif, staNetif])
      0xC0A80402#32 0x01010101#32 :=
  (exitNode_failClosed_iff (idfSrcHook_spec _) (by decide)
    (exitNodeState_forwardedPublic (.inl rfl))).mpr
    (.inl ⟨wgNetif, by decide, by decide, by decide⟩)

/-- Without a WireGuard netif the same packet leaves by the station uplink. -/
theorem exitNode_leaks_without_tunnel :
    RealHookSpec (idfSrcHook [staNetif]) (exitNodeState [staNetif]).netifList ∧
      (exitNodeState [staNetif]).tailscaleExitNodeIp ≠ 0#32 ∧
      ForwardedPublic (exitNodeState [staNetif]) 0xC0A80402#32 0x01010101#32 ∧
      egress (idfSrcHook [staNetif]) (exitNodeState [staNetif]) 0xC0A80402#32 0x01010101#32
        = some staNetif ∧
      ¬ FailClosed (idfSrcHook [staNetif]) (exitNodeState [staNetif])
        0xC0A80402#32 0x01010101#32 := by
  refine ⟨idfSrcHook_spec _, by decide, exitNodeState_forwardedPublic (.inr rfl), by decide, ?_⟩
  intro hclosed
  have hsta := hclosed staNetif (by decide)
  exact absurd hsta.1 (by decide)

end SubnetRouter.RouteHook
