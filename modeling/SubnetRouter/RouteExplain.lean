import SubnetRouter.RouteHook

namespace SubnetRouter.RouteHook

/-!
# The explained route (`route_explain` in `main/lwip_route_hook.c`)

The Tools page asks `route_explain` by which netif a packet would leave.  It runs the decision
steps of the source-route hook a second time, and then what `ip4_route` does when the hook has
no answer.

* `ip4Route` — where a packet leaves: the hook, a subnet match, the default netif.
* `routeExplain` — the explanation, with its netif and its text.
* `explainSteps_netif` — its copy of the steps agrees with the hook's.
* `routeExplain_agrees_iff` — when the explained netif is the one the packet leaves by.
-/

/-! ### Where a packet leaves -/

/-- The first netif with an address, up and with its link up, whose prefix has the
    destination. -/
def subnetMatch (netifs : List Netif) (dst : Ip4) : Option Netif :=
  netifs.find? fun n => n.ipAddr != 0#32 && n.up && n.linkUp && n.covers dst

/-- `netif_default`, if it can be used. -/
def usableDefault (st : RouteState) : Option Netif :=
  st.netifDefault.filter fun n => n.up && n.ipAddr != 0#32

/-- lwIP's `ip4_route` behind the hook. Without an answer of the hook it is the subnets, and then
    the default netif, if that can be used. -/
def ip4Route (real : Option Ip4 → Ip4 → Option Netif) (st : RouteState) (src : Option Ip4)
    (dst : Ip4) : Option Netif :=
  match wrapIp4RouteSrcHook real st src (some dst) with
  | some n => some n
  | none => (subnetMatch st.netifList dst).or (usableDefault st)

/-! ### The explanation -/

/-- The fields of `microlink_peer_info_t` that are read. -/
structure PeerInfo where
  hostname : List Char
  vpnIp : Ip4
  subnetRoutes : List AcceptedRoute

/-- `short_peer_name` into 40 bytes. -/
def shortPeerName (hostname : List Char) : String :=
  if hostname = [] then "(unnamed)"
  else String.ofList ((hostname.takeWhile (· != '.')).take 39)

/-- `name_netif`. -/
def nameNetif : Option Netif → String
  | none => "no-route"
  | some n => String.ofList [n.name.1, n.name.2] ++ toString n.num

/-- What is explained: the netif named, and the reason. -/
structure Explanation where
  netif : Option Netif
  reason : String

/-- `out_netif`. -/
def Explanation.outNetif (e : Explanation) : String := nameNetif e.netif

/-- A dotted address. -/
def dotted (ip : Ip4) : String :=
  toString (ip.toNat / 16777216) ++ "." ++ toString (ip.toNat / 65536 % 256) ++ "." ++
    toString (ip.toNat / 256 % 256) ++ "." ++ toString (ip.toNat % 256)

/-- The name of the peer that advertises an accepted route. -/
def routePeer (peers : List PeerInfo) (r : AcceptedRoute) : String :=
  match peers.find? fun p => p.subnetRoutes.any (· == r) with
  | some p => shortPeerName p.hostname
  | none => "unknown peer"

/-- The name of the exit node's peer. -/
def exitPeer (st : RouteState) (peers : List PeerInfo) : String :=
  match peers.find? fun p => p.vpnIp == st.tailscaleExitNodeIp with
  | some p => shortPeerName p.hostname
  | none => "exit-node peer"

/-- The copy of step 1b. Unlike the hook, it also says which route it was, and whose. -/
def explainAcceptedRoute (st : RouteState) (peers : List PeerInfo) (srcIsSelf : Bool)
    (dst : Ip4) : Option Explanation :=
  if !srcIsSelf && st.tailscaleAcceptRoutes ≠ 0 && !st.tailscaleAcceptedRoutes.isEmpty then
    (st.tailscaleAcceptedRoutes.find? fun r => r.covers dst).map fun r =>
      { netif := findWgNetif st.netifList
        reason := "matches accepted route " ++ dotted r.network ++ "/" ++ toString r.prefixLen ++
          " → WG tunnel via " ++ routePeer peers r }
  else none

/-- The copy of step 2; its loop over the netifs is the hook's. The two results have texts of their
    own. -/
def explainLanBypass (st : RouteState) (dst : Ip4) : Option Explanation :=
  if st.tailscaleExitNodeIp ≠ 0#32 ∧ st.tailscaleLanBypass ≠ 0 then
    match lanScan dst none st.netifList with
    | .inl n => some ⟨some n, "netif prefix match (lan-bypass step 2a, exit-node on)"⟩
    | .inr (some sta) =>
      if isPrivate dst then some ⟨some sta, "RFC1918 destination, lan-bypass → STA upstream"⟩
      else none
    | .inr none => none
  else none

/-- The copy of step 3. As in the hook, a tunnel that is down decides nothing. -/
def explainExitNode (st : RouteState) (peers : List PeerInfo) (srcIsSelf : Bool) (dst : Ip4) :
    Option Explanation :=
  if st.tailscaleExitNodeIp ≠ 0#32 then
    if isPrivate dst then none
    else if srcIsSelf then
      (findStaNetif st.netifList).map fun n =>
        ⟨some n, "self-origin public dst → STA (bypassing exit-node to break chicken-and-egg)"⟩
    else
      match findWgNetif st.netifList with
      | some wg =>
        if wg.up then
          some ⟨some wg, "forwarded public dst → WG tunnel via exit-node " ++ exitPeer st peers⟩
        else none
      | none => none
  else none

/-- The copy of what `ip4_route` does without an answer of the hook. Where nothing is left it says
    so, and there is no netif. -/
def explainFallback (st : RouteState) (peers : List PeerInfo) (dst : Ip4) : Explanation :=
  match subnetMatch st.netifList dst with
  | some n => ⟨some n, "subnet match on " ++ nameNetif (some n) ++ "'s own prefix"⟩
  | none =>
    match st.netifDefault with
    -- unlike `ip4_route`, this does not ask whether it is up and has an address
    | some d =>
      if st.tailscaleExitNodeIp ≠ 0#32 ∧ findWgNetif st.netifList = some d then
        ⟨some d, "exit-node default route → WG tunnel via " ++ exitPeer st peers⟩
      else ⟨some d, "netif_default fallback"⟩
    | none => ⟨none, "no route"⟩

/-- The decision steps 1 to 3, with the first that decides. A source of 0 counts as the router
    itself. -/
def explainSteps (st : RouteState) (peers : List PeerInfo) (src dst : Ip4) :
    Option Explanation :=
  let srcIsSelf := src == 0#32 || isLocal st.netifList src
  if ipInCgnat dst then
    some ⟨findWgNetif st.netifList, "CGNAT (100.64.0.0/10) → WG tunnel (Phase 1.5c built-in)"⟩
  else
    match explainAcceptedRoute st peers srcIsSelf dst with
    | some e => some e
    | none =>
      match explainLanBypass st dst with
      | some e => some e
      | none => explainExitNode st peers srcIsSelf dst

/-- `route_explain`; source `0` stands for the router itself. -/
def routeExplain (st : RouteState) (peers : List PeerInfo) (src dst : Ip4) : Explanation :=
  match explainSteps st peers src dst with
  | some e => e
  | none => explainFallback st peers dst

/-! ### The two copies agree -/

variable {st : RouteState} {peers : List PeerInfo} {src : Option Ip4} {dst : Ip4}
  {real : Option Ip4 → Ip4 → Option Netif}

/-- `src_is_self`; a packet without a source address is the router's own. -/
def srcIsSelf (st : RouteState) (src : Option Ip4) : Bool :=
  src.getD 0#32 == 0#32 || isLocal st.netifList (src.getD 0#32)

/-- A route is found exactly when one covers the destination. -/
theorem isSome_find_covers (routes : List AcceptedRoute) (dst : Ip4) :
    (routes.find? fun r => r.covers dst).isSome = routes.any fun r => r.covers dst := by
  rw [Bool.eq_iff_iff, List.find?_isSome, List.any_eq_true]

/-- Step 1b of the hook, with the router's own packets told apart as in the explanation. -/
theorem acceptRouteMatch_eq (st : RouteState) (src : Option Ip4) (dst : Ip4) :
    acceptRouteMatch st src dst =
      (!srcIsSelf st src && st.tailscaleAcceptRoutes ≠ 0 && !st.tailscaleAcceptedRoutes.isEmpty
        && (st.tailscaleAcceptedRoutes.find? fun r => r.covers dst).isSome) := by
  rw [isSome_find_covers]
  cases src with
  | none => simp [acceptRouteMatch, srcIsSelf]
  | some s =>
    show (_ && _ && (!(s == 0#32) && !isLocal st.netifList s && _)) =
      (!(s == 0#32 || isLocal st.netifList s) && _ && _ && _)
    rw [Bool.not_or]
    ac_rfl

/-- Step 1b. -/
theorem explainAcceptedRoute_netif :
    (explainAcceptedRoute st peers (srcIsSelf st src) dst).map Explanation.netif =
      if acceptRouteMatch st src dst then some (findWgNetif st.netifList) else none := by
  rw [acceptRouteMatch_eq, explainAcceptedRoute]
  by_cases hon : (!srcIsSelf st src && st.tailscaleAcceptRoutes ≠ 0 &&
      !st.tailscaleAcceptedRoutes.isEmpty) = true
  · rw [if_pos hon, hon, Bool.true_and]
    cases st.tailscaleAcceptedRoutes.find? fun r => r.covers dst <;> rfl
  · rw [if_neg hon, Bool.eq_false_iff.mpr hon]
    rfl

/-- Step 2. -/
theorem explainLanBypass_netif :
    (explainLanBypass st dst).map Explanation.netif = (lanBypassStep st dst).map some := by
  unfold explainLanBypass lanBypassStep
  split
  · cases lanScan dst none st.netifList with
    | inl n => rfl
    | inr staMatch => cases staMatch <;> cases isPrivate dst <;> rfl
  · rfl

/-- Step 3 of the hook, in the same way. -/
theorem exitNodeStep_eq (st : RouteState) (src : Option Ip4) (dst : Ip4) :
    exitNodeStep st src dst =
      if st.tailscaleExitNodeIp ≠ 0#32 then
        if isPrivate dst then none
        else if srcIsSelf st src then findStaNetif st.netifList
        else (findWgNetif st.netifList).filter fun wg => wg.up
      else none := by
  cases src <;> rfl

/-- Step 3. -/
theorem explainExitNode_netif :
    (explainExitNode st peers (srcIsSelf st src) dst).map Explanation.netif =
      (exitNodeStep st src dst).map some := by
  rw [exitNodeStep_eq, explainExitNode]
  split_ifs with hon hpriv hown
  · rfl
  · show ((findStaNetif st.netifList).map _).map Explanation.netif = _
    rw [Option.map_map]
    rfl
  · cases findWgNetif st.netifList with
    | none => rfl
    | some wg => cases hup : wg.up <;> simp [Option.filter, hup]
  · rfl

/-- **The copied steps.** The explanation decides in the steps 1 to 3 exactly when the hook's
    own steps do, and names their netif: in the steps 1 and 1b also a missing one. -/
theorem explainSteps_netif :
    (explainSteps st peers (src.getD 0#32) dst).map Explanation.netif =
      if ipInCgnat dst || acceptRouteMatch st src dst then some (findWgNetif st.netifList)
      else ((lanBypassStep st dst).or (exitNodeStep st src dst)).map some := by
  have hroute : (explainAcceptedRoute st peers (srcIsSelf st src) dst).map Explanation.netif = _ :=
    explainAcceptedRoute_netif
  have hlan : (explainLanBypass st dst).map Explanation.netif = _ := explainLanBypass_netif
  have hexit : (explainExitNode st peers (srcIsSelf st src) dst).map Explanation.netif = _ :=
    explainExitNode_netif
  -- The same order of steps as in the hook, each explained by its own lemma.
  show (if ipInCgnat dst then _ else
    match explainAcceptedRoute st peers (srcIsSelf st src) dst with
    | some e => some e
    | none => match explainLanBypass st dst with
      | some e => some e
      | none => explainExitNode st peers (srcIsSelf st src) dst).map Explanation.netif = _
  cases ipInCgnat dst with
  | true => rfl
  | false =>
    -- The accepted route decides on both sides or on none, and so do the two steps behind it.
    cases hfirst : explainAcceptedRoute st peers (srcIsSelf st src) dst with
    | some e =>
      rw [hfirst, Option.map_some] at hroute
      cases hmatch : acceptRouteMatch st src dst <;> simp_all
    | none =>
      rw [hfirst, Option.map_none] at hroute
      cases hmatch : acceptRouteMatch st src dst with
      | true => simp [hmatch] at hroute
      | false =>
        cases hsecond : explainLanBypass st dst <;> cases hstep : lanBypassStep st dst <;>
          simp_all

/-- What `ip4_route` does without an answer of the hook, but for its check of
    `netif_default`. -/
theorem explainFallback_netif :
    (explainFallback st peers dst).netif = (subnetMatch st.netifList dst).or st.netifDefault := by
  unfold explainFallback
  cases subnetMatch st.netifList dst with
  | some n => rfl
  | none =>
    cases st.netifDefault with
    | none => rfl
    | some d =>
      show (if _ then (_ : Explanation) else _).netif = some d
      split_ifs <;> rfl

/-! ### When the explanation is the route -/

/-- A packet of the steps 1 and 1b needs a netif with a 100.64.0.0/10 address, or no route at
    all.  Any other packet is decided in the steps 2 or 3, or its source and the check of
    `netif_default` must make no difference. -/
def ExplainFits (st : RouteState) (src : Option Ip4) (dst : Ip4) : Prop :=
  if ipInCgnat dst || acceptRouteMatch st src dst then
    (findWgNetif st.netifList).isSome ∨
      (subnetMatch st.netifList dst).or (usableDefault st) = none
  else
    (lanBypassStep st dst).isSome ∨ (exitNodeStep st src dst).isSome ∨
      match idfSrcHook st.netifList src dst with
      | some n => (subnetMatch st.netifList dst).or st.netifDefault = some n
      | none => (subnetMatch st.netifList dst).isSome ∨ usableDefault st = st.netifDefault

/-- The hook, with its two copies of the answer of the steps 1 and 1b merged. -/
theorem wrapIp4RouteSrcHook_eq :
    wrapIp4RouteSrcHook real st src (some dst) =
      if ipInCgnat dst || acceptRouteMatch st src dst then findWgNetif st.netifList
      else ((lanBypassStep st dst).or (exitNodeStep st src dst)).or (real src dst) := by
  show (if _ then _ else if _ then _ else match lanBypassStep st dst with
    | some n => some n
    | none => match exitNodeStep st src dst with
      | some n => some n
      | none => real src dst) = _
  cases ipInCgnat dst <;> cases acceptRouteMatch st src dst <;>
    cases lanBypassStep st dst <;> cases exitNodeStep st src dst <;> rfl

/-- What `ip4_route` does is the hook's answer, or else the two fallbacks. -/
theorem ip4Route_eq :
    ip4Route real st src dst = (wrapIp4RouteSrcHook real st src (some dst)).or
      ((subnetMatch st.netifList dst).or (usableDefault st)) := by
  unfold ip4Route
  cases wrapIp4RouteSrcHook real st src (some dst) <;> rfl

/-- The netif of the explanation. But for its last resort it is what the hook and `ip4_route` would
    answer. -/
theorem routeExplain_netif :
    (routeExplain st peers (src.getD 0#32) dst).netif =
      if ipInCgnat dst || acceptRouteMatch st src dst then findWgNetif st.netifList
      else ((lanBypassStep st dst).or (exitNodeStep st src dst)).or
        ((subnetMatch st.netifList dst).or st.netifDefault) := by
  have hsteps : (explainSteps st peers (src.getD 0#32) dst).map Explanation.netif = _ :=
    explainSteps_netif
  unfold routeExplain
  -- With a tunnel destination both ask the list for the tunnel.
  split_ifs at hsteps ⊢ with hwg
  · obtain ⟨e, he, hnetif⟩ := Option.map_eq_some_iff.mp hsteps
    rw [he]
    exact hnetif
  · cases hdecide : (lanBypassStep st dst).or (exitNodeStep st src dst) with
    | some n =>
      rw [hdecide] at hsteps
      obtain ⟨e, he, hnetif⟩ := Option.map_eq_some_iff.mp hsteps
      rw [he]
      exact hnetif
    -- No step decides: what is left is the connected subnet and the default.
    | none =>
      rw [hdecide, Option.map_none, Option.map_eq_none_iff] at hsteps
      rw [hsteps]
      exact explainFallback_netif

/-- Behind the hook both take the first subnet match; they differ in `netif_default` only. -/
theorem or_netifDefault_eq_iff :
    (subnetMatch st.netifList dst).or st.netifDefault =
        (subnetMatch st.netifList dst).or (usableDefault st) ↔
      (subnetMatch st.netifList dst).isSome ∨ usableDefault st = st.netifDefault := by
  cases subnetMatch st.netifList dst with
  | some n => simp
  | none => simp [eq_comm]

/-- **Route explanation.** The explained netif is the one the packet leaves by exactly when
    `ExplainFits`. -/
theorem routeExplain_agrees_iff (st : RouteState) (peers : List PeerInfo) (src : Option Ip4)
    (dst : Ip4) (real : Option Ip4 → Ip4 → Option Netif)
    (hreal : ∀ src dst, real src dst = idfSrcHook st.netifList src dst) :
    (routeExplain st peers (src.getD 0#32) dst).netif = ip4Route real st src dst ↔
      ExplainFits st src dst := by
  rw [routeExplain_netif, ip4Route_eq, wrapIp4RouteSrcHook_eq, ExplainFits, hreal]
  split_ifs with hwg
  · cases findWgNetif st.netifList with
    | some wg => simp
    | none => simp [eq_comm]
  · cases lanBypassStep st dst with
    | some n => simp
    | none =>
      cases exitNodeStep st src dst with
      | some n => simp
      | none =>
        cases idfSrcHook st.netifList src dst with
        | some n => simp
        | none => simpa using or_netifDefault_eq_iff

/-! ### A station uplink alone, and next to the tunnel -/

/-- No exit node, `netif_default` is the station. -/
def stationState (netifs : List Netif) : RouteState := ⟨netifs, some staNetif, 0#32, 0, 0, []⟩

theorem tunnel_explained :
    (routeExplain (stationState [staNetif, wgNetif]) [] 0#32 0x64400005#32).netif =
      ip4Route (idfSrcHook [staNetif, wgNetif]) (stationState [staNetif, wgNetif]) none
        0x64400005#32 :=
  (routeExplain_agrees_iff (stationState [staNetif, wgNetif]) [] none 0x64400005#32
    (idfSrcHook [staNetif, wgNetif]) fun _ _ => rfl).mpr <| by
      rw [ExplainFits, if_pos (by decide)]
      exact .inl (by decide)

/-- Without a tunnel, a packet to 100.64.0.5 is explained to have no route and leaves by the
    station. -/
theorem noRoute_explained_without_tunnel :
    (routeExplain (stationState [staNetif]) [] 0#32 0x64400005#32).outNetif = "no-route" ∧
      (routeExplain (stationState [staNetif]) [] 0#32 0x64400005#32).netif = none ∧
      ip4Route (idfSrcHook [staNetif]) (stationState [staNetif]) none 0x64400005#32 =
        some staNetif := by
  decide

end SubnetRouter.RouteHook
