import SubnetRouter.Lib.Table
import SubnetRouter.NetifHooks

namespace SubnetRouter.TailscaleMtu

open SubnetRouter.Lib
open SubnetRouter.NetifHooks

/-!
# The tunnel netif (`main/tailscale_mtu.c`)

Three searches of the netif list look for the tunnel: the route hook's and the input hook's
take the first address in 100.64.0.0/10, the one here the first netif named `wg`.

* `findWgNetif` — the search by name.
* `selection_agrees_iff` — when all three find the tunnel.
-/

/-- `find_wg_netif`. -/
def findWgNetif (netifs : List Netif) : Option Netif := netifs.find? fun n => n.isWg

/-- The netif list as the two `find_wg_netif` see it. -/
def netifs (nodes : List Node) : List Netif := nodes.map Node.netif

/-- The netif has an address in 100.64.0.0/10. -/
def InCgnat (n : Node) : Prop := ipInCgnat n.netif.ipAddr = true

instance (n : Node) : Decidable (InCgnat n) := inferInstanceAs (Decidable (_ = _))

/-- The unset address is not in 100.64.0.0/10. -/
theorem ne_zero_of_ipInCgnat {ip : Ip4} (h : ipInCgnat ip = true) : ip ≠ 0#32 := by
  rintro rfl
  exact absurd h (by decide)

/-- The address test of the searches. -/
theorem addressed_iff (n : Node) :
    (n.netif.ipAddr != 0#32 && ipInCgnat n.netif.ipAddr) = true ↔ InCgnat n := by
  rw [Bool.and_eq_true, bne_iff_ne]
  exact ⟨And.right, fun h => ⟨ne_zero_of_ipInCgnat h, h⟩⟩

/-- The refresh leaves the netif it stops at in `hooked_wg`. -/
theorem hookedWg_refresh {s : Hooks} {n : Node}
    (h : refreshTarget s.netifList.nodes = some n) :
    (netifHooksRefreshCb s).hookedWg = some n.ptr := by
  rw [netifHooksRefreshCb, h]
  show (if s.isHooked n then s else _).hookedWg = some n.ptr
  split_ifs with hhooked
  · rw [Hooks.isHooked, Bool.and_eq_true, beq_iff_eq] at hhooked
    exact hhooked.1
  · rfl

/-- **Selection of the tunnel.** In a list with one netif that is named `wg` and has an address
    in 100.64.0.0/10, all three searches find it exactly when no netif before it has such an
    address or that name. -/
theorem selection_agrees_iff (s : Hooks) (pre post : List Node) (wg : Node)
    (hlist : s.netifList.nodes = pre ++ wg :: post) (hname : wg.netif.isWg = true)
    (haddr : InCgnat wg) (honly : ∀ n ∈ pre ++ post, n.netif.isWg = true → ¬ InCgnat n) :
    (RouteHook.findWgNetif (netifs s.netifList.nodes) = some wg.netif ∧
        findWgNetif (netifs s.netifList.nodes) = some wg.netif ∧
        (netifHooksRefreshCb s).hookedWg = some wg.ptr) ↔
      ∀ n ∈ pre, ¬ InCgnat n ∧ n.netif.isWg = false := by
  have hwgAddr := (addressed_iff wg).mpr haddr
  -- a first match is at the tunnel only if the tunnel is not also further in front
  have hpre : wg.netif ∉ netifs pre := by
    intro hmem
    obtain ⟨n, hn, heq⟩ := List.mem_map.mp hmem
    refine honly n (List.mem_append_left post hn) (by rw [heq, hname]) ?_
    rw [InCgnat, heq]
    exact haddr
  have hsplit : netifs s.netifList.nodes = netifs pre ++ wg.netif :: netifs post := by
    rw [hlist, netifs, List.map_append, List.map_cons]
    rfl
  have hroute : RouteHook.findWgNetif (netifs s.netifList.nodes) = some wg.netif ↔
      ∀ n ∈ pre, ¬ InCgnat n := by
    rw [RouteHook.findWgNetif, hsplit, find?_append_cons_iff (a := wg.netif) hwgAddr hpre,
      netifs, List.forall_mem_map]
    exact forall₂_congr fun n _ => not_congr (addressed_iff n)
  have hmtu : findWgNetif (netifs s.netifList.nodes) = some wg.netif ↔
      ∀ n ∈ pre, n.netif.isWg = false := by
    rw [findWgNetif, hsplit, find?_append_cons_iff hname hpre, netifs, List.forall_mem_map]
    simp only [Bool.not_eq_true]
  have hrefresh : (∀ n ∈ pre, ¬ InCgnat n) →
      (netifHooksRefreshCb s).hookedWg = some wg.ptr := by
    intro hnone
    apply hookedWg_refresh
    rw [refreshTarget, hlist, find?_append_cons_iff (a := wg) hwgAddr
      fun hmem => hnone wg hmem haddr]
    exact fun n hn => (not_congr (addressed_iff n)).mpr (hnone n hn)
  rw [hroute, hmtu]
  constructor
  · rintro ⟨hnone, hnames, -⟩ n hn
    exact ⟨hnone n hn, hnames n hn⟩
  · intro h
    exact ⟨fun n hn => (h n hn).1, fun n hn => (h n hn).2, hrefresh fun n hn => (h n hn).1⟩

/-- A netif as it was added. -/
def nodeOf (netif : Netif) (ptr original : Nat) : Node :=
  ⟨netif, ptr, original, .own original, own_input original⟩

/-- The tunnel and a station in 100.64.0.0/10, in some order, before a refresh. -/
def hooksOf (l : NetifList) : Hooks := ⟨l, none, none⟩

theorem tunnel_selected :
    RouteHook.findWgNetif (netifs [nodeOf RouteHook.wgNetif 2 20, nodeOf carrierSta 1 10]) =
      some RouteHook.wgNetif :=
  ((selection_agrees_iff
    (hooksOf ⟨[nodeOf RouteHook.wgNetif 2 20, nodeOf carrierSta 1 10], by decide⟩) []
    [nodeOf carrierSta 1 10] (nodeOf RouteHook.wgNetif 2 20) rfl (by decide) (by decide)
    (by decide)).mpr (by decide)).1

/-- Behind a station in 100.64.0.0/10 the tunnel is found by its name only. -/
theorem station_selected :
    RouteHook.findWgNetif (netifs [nodeOf carrierSta 1 10, nodeOf RouteHook.wgNetif 2 20]) =
        some carrierSta ∧
      findWgNetif (netifs [nodeOf carrierSta 1 10, nodeOf RouteHook.wgNetif 2 20]) =
        some RouteHook.wgNetif ∧
      (netifHooksRefreshCb (hooksOf
        ⟨[nodeOf carrierSta 1 10, nodeOf RouteHook.wgNetif 2 20], by decide⟩)).hookedWg =
        some 1 := by
  decide

end SubnetRouter.TailscaleMtu
