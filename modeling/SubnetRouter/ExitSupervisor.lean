import SubnetRouter.Lib.Run
import SubnetRouter.RouteHook

namespace SubnetRouter.ExitSupervisor

open Lib
open SubnetRouter.RouteHook (AcceptedRoute)

/-!
# The exit-node supervisor (`main/lwip_route_hook.c`)

A task looks at the selected exit node and at the netifs every two seconds.  It moves the default
route to the tunnel or back, pins the tunnel's own packets to the uplink, keeps a ping session to
the exit node, and copies the routes of the peers.  Everything it looks at belongs to other tasks,
which go on meanwhile.

* `superviseStep` — the task, one access after the other.
* `machine` — the task, the settings, the netifs and the tunnel.
* `one_keepalive` — there is never more than the one ping session that the task knows.
* `supervisor_settles` — as soon as the others leave it one round, everything is as it should be.
-/

/-! ### The netifs -/

/-- A netif in lwIP's list, with its address in memory. -/
abbrev Listed := Nat × Netif

/-- `find_wg_netif`. -/
def findWgNetif (netifList : List Listed) : Option Nat :=
  (netifList.find? fun n => n.2.ipAddr != 0 && ipInCgnat n.2.ipAddr).map Prod.fst

/-- `find_sta_netif`. -/
def findStaNetif (netifList : List Listed) : Option Nat :=
  (netifList.find? fun n => n.2.isSta && n.2.up && n.2.linkUp).map Prod.fst

/-- `netif_is_up`; lwIP takes a netif down when it leaves the list. -/
def netifIsUp (netifList : List Listed) (netif : Nat) : Bool :=
  netifList.any fun n => n.1 == netif && n.2.up

/-! ### The state -/

/-- A ping session that has been made and not deleted. `target` is the address it was made for, and
    does not change with the settings. -/
structure Session where
  hdl : Nat
  target : Ip4
  running : Bool
deriving DecidableEq, Repr

/-- Where the task is in its loop, with the local variables that it still needs. What is not a local
    variable is read again in the step that needs it. -/
inductive Phase
  | asleep
  | foundWg (wg : Option Nat)
  | found (wg sta : Option Nat)
  | caching (wg sta : Option Nat) (wgReady : Bool)
  | choosing (wg sta : Option Nat) (wgReady : Bool)
  | pinning (wg sta : Nat)
  | keeping (wg : Nat)
  | unpinning (want : Option Nat)
  | stopping (want : Option Nat)
  | applying (want : Option Nat)
  | routing
deriving DecidableEq, Repr

/-- The task's own variables, and what it shares with the others.  `microlink` is the tunnel, if
    there is one, with the netif that its packets are pinned to. -/
structure System where
  netifList : List Listed
  netifDefault : Option Nat
  tailscaleExitNodeIp : Ip4
  tailscaleAcceptRoutes : Int
  microlink : Option (Option Nat)
  acceptedRoutes : List AcceptedRoute
  sessions : List Session
  nextHdl : Nat
  sOriginalDefault : Option Nat
  sWgUdpPinned : Bool
  sKeepalivePing : Option Nat
  sKeepaliveTarget : Ip4
  phase : Phase

/-- What the calls of a step return: whether the pinning, the new session and its start succeed,
    and the routes of the peers, those that can be read. -/
structure Calls where
  pin : Bool
  newSession : Bool
  start : Bool
  peers : List (Option (List AcceptedRoute))

/-- `TAILSCALE_ACCEPTED_ROUTES_MAX`. -/
def tailscaleAcceptedRoutesMax : Nat := 32

/-! ### The task -/

namespace System

/-- `esp_ping_delete_session`. -/
def deleteSession (s : System) (hdl : Nat) : System :=
  { s with sessions := s.sessions.filter fun session => session.hdl ≠ hdl }

/-- `keepalive_stop`. The target is cleared also when there was no session. -/
def keepaliveStop (s : System) : System :=
  let s :=
    match s.sKeepalivePing with
    | some hdl => { s.deleteSession hdl with sKeepalivePing := none }
    | none => s
  { s with sKeepaliveTarget := 0 }

/-- `keepalive_start`. A session for the same target is kept; for another one the old session goes
    first, and the new one may then fail to be made or started. -/
def keepaliveStart (s : System) (c : Calls) (targetIp : Ip4) : System :=
  if s.sKeepaliveTarget = targetIp ∧ s.sKeepalivePing ≠ none then s
  else
    let s := s.keepaliveStop
    if c.newSession then
      let hdl := s.nextHdl
      if c.start then
        { s with
          nextHdl := hdl + 1, sKeepalivePing := some hdl
          sessions := s.sessions ++ [⟨hdl, targetIp, true⟩], sKeepaliveTarget := targetIp }
      else
        -- made, but not started: it is deleted again
        let s : System := { s with
          nextHdl := hdl + 1, sessions := s.sessions ++ [⟨hdl, targetIp, false⟩] }
        s.deleteSession hdl
    else s

end System

/-- The inner loop over the routes of a peer. -/
def addRoutes : List AcceptedRoute → List AcceptedRoute → List AcceptedRoute
  | table, [] => table
  | table, r :: rest =>
    if table.length < tailscaleAcceptedRoutesMax then addRoutes (table ++ [r]) rest else table

/-- The loop over the peers; one that cannot be read is left out. It ends early once the table is
    full. -/
def addPeers : List AcceptedRoute → List (Option (List AcceptedRoute)) → List AcceptedRoute
  | table, [] => table
  | table, peer :: rest =>
    if table.length < tailscaleAcceptedRoutesMax then
      addPeers (match peer with | some routes => addRoutes table routes | none => table) rest
    else table

/-- The next step of `route_supervisor_task`. Between two of them netifs come and go, and the exit
    node is set or cleared. -/
def superviseStep (s : System) (c : Calls) : System :=
  match s.phase with
  | .asleep => { s with phase := .foundWg (findWgNetif s.netifList) }
  | .foundWg wg => { s with phase := .found wg (findStaNetif s.netifList) }
  | .found wg sta => { s with phase := .caching wg sta (wg.any (netifIsUp s.netifList)) }
  | .caching wg sta wgReady =>
    let cache := s.sOriginalDefault = none ∧ s.netifDefault ≠ none ∧
      (wg = none ∨ s.netifDefault ≠ wg)
    { s with
      sOriginalDefault := if cache then s.netifDefault else s.sOriginalDefault
      phase := .choosing wg sta wgReady }
  | .choosing wg sta wgReady =>
    if s.tailscaleExitNodeIp ≠ 0 then
      match wg, sta, wgReady with
      | some wg, some sta, true => { s with phase := .pinning wg sta }
      | _, _, _ => { s with phase := .applying none }
    else { s with phase := .unpinning s.sOriginalDefault }
  | .pinning wg sta =>
    if s.sWgUdpPinned = false ∧ s.microlink ≠ none ∧ c.pin then
      { s with microlink := some (some sta), sWgUdpPinned := true, phase := .keeping wg }
    else { s with phase := .keeping wg }
  | .keeping wg => { s.keepaliveStart c s.tailscaleExitNodeIp with phase := .applying (some wg) }
  | .unpinning want =>
    if s.sWgUdpPinned then
      { s with
        microlink := if c.pin then s.microlink.map fun _ => none else s.microlink
        sWgUdpPinned := false, phase := .stopping want }
    else { s with phase := .stopping want }
  | .stopping want => { s.keepaliveStop with phase := .applying want }
  | .applying want =>
    if want ≠ none ∧ want ≠ s.netifDefault then { s with netifDefault := want, phase := .routing }
    else { s with phase := .routing }
  | .routing =>
    let peers := if s.microlink = none then [] else c.peers
    { s with
      acceptedRoutes := if s.tailscaleAcceptRoutes ≠ 0 then addPeers [] peers else []
      phase := .asleep }

/-- The task; a setting is changed; netifs come, go and change; esp-netif chooses a default; the
    tunnel is made or torn down. -/
inductive Act
  | supervise (c : Calls)
  | setExitNode (ip : Ip4)
  | setAcceptRoutes (on : Int)
  | netifs (netifList : List Listed)
  | default (netif : Option Nat)
  | microlink (present : Bool)

def step (s : System) : Act → Option System
  | .supervise c => some (superviseStep s c)
  | .setExitNode ip => some { s with tailscaleExitNodeIp := ip }
  | .setAcceptRoutes on => some { s with tailscaleAcceptRoutes := on }
  | .netifs netifList => some { s with netifList }
  | .default netif => some { s with netifDefault := netif }
  | .microlink present => some { s with microlink := if present then some none else none }

/-- The supervisor among the others. -/
def machine : Machine System Act := ⟨step⟩

/-- The task is started, with the settings of the boot. -/
def boot (exitNodeIp : Ip4) (acceptRoutes : Int) : System :=
  ⟨[], none, exitNodeIp, acceptRoutes, none, [], [], 0, none, false, none, 0, .asleep⟩

variable {s s' t : System} {a : Act} {as : List Act} {c : Calls}

/-! ### One ping session -/

/-- The sessions are the one that the task knows, and it runs. -/
def OneSession (s : System) : Prop :=
  s.sessions = s.sKeepalivePing.toList.map (⟨·, s.sKeepaliveTarget, true⟩) ∧
    (s.sKeepalivePing = none → s.sKeepaliveTarget = 0)

/-- `keepalive_stop` touches nothing but the session. -/
theorem keepaliveStop_frame (s : System) : ∃ sessions ping, s.keepaliveStop =
    { s with sessions := sessions, sKeepalivePing := ping, sKeepaliveTarget := 0 } := by
  unfold System.keepaliveStop System.deleteSession
  cases s.sKeepalivePing with
  | none => exact ⟨_, _, rfl⟩
  | some hdl => exact ⟨_, _, rfl⟩

/-- Neither does `keepalive_start`. -/
theorem keepaliveStart_frame (s : System) (c : Calls) (targetIp : Ip4) :
    ∃ sessions nextHdl ping target, s.keepaliveStart c targetIp =
      { s with
        sessions := sessions, nextHdl := nextHdl, sKeepalivePing := ping,
        sKeepaliveTarget := target } := by
  obtain ⟨sessions, ping, hstop⟩ := keepaliveStop_frame s
  unfold System.keepaliveStart System.deleteSession
  rw [hstop]
  dsimp only
  split_ifs <;> exact ⟨_, _, _, _, rfl⟩

theorem oneSession_keepaliveStop (h : OneSession s) :
    OneSession s.keepaliveStop ∧ s.keepaliveStop.sKeepalivePing = none := by
  obtain ⟨hsessions, hnone⟩ := h
  unfold System.keepaliveStop OneSession
  cases hping : s.sKeepalivePing with
  | none =>
    rw [hping] at hsessions
    exact ⟨⟨by simpa [hping] using hsessions, fun _ => rfl⟩, hping⟩
  | some hdl =>
    rw [hping] at hsessions
    refine ⟨⟨?_, fun _ => rfl⟩, rfl⟩
    simp [System.deleteSession, hsessions]

theorem oneSession_keepaliveStart (h : OneSession s) (targetIp : Ip4) :
    OneSession (s.keepaliveStart c targetIp) := by
  unfold System.keepaliveStart
  split
  · exact h
  · obtain ⟨⟨hsessions, htarget⟩, hnone⟩ := oneSession_keepaliveStop h
    rw [hnone] at hsessions
    dsimp only
    split
    · split
      · exact ⟨by simp [hsessions], by simp⟩
      · refine ⟨?_, fun _ => htarget hnone⟩
        simp [System.deleteSession, hsessions, hnone]
    · exact ⟨by rw [hsessions, hnone], htarget⟩

/-- Only two steps touch the session. -/
theorem oneSession_superviseStep (c : Calls) (h : OneSession s) :
    OneSession (superviseStep s c) := by
  unfold superviseStep
  cases hphase : s.phase with
  | keeping wg => exact oneSession_keepaliveStart h _
  | stopping want => exact (oneSession_keepaliveStop h).1
  | choosing wg sta wgReady =>
    dsimp only
    split
    · split <;> exact h
    · exact h
  | pinning wg sta | unpinning want | applying want =>
    dsimp only
    split <;> exact h
  | asleep | foundWg wg | found wg sta | caching wg sta wgReady | routing => exact h

theorem oneSession_step (hs : step s a = some s') (h : OneSession s) : OneSession s' := by
  cases a with
  | supervise c =>
    obtain rfl := Option.some.inj hs
    exact oneSession_superviseStep c h
  | setExitNode | setAcceptRoutes | netifs | default | microlink =>
    obtain rfl := Option.some.inj hs
    exact h

/-- **One ping session.** Whatever the others do in between, and whichever calls fail: the ping
    sessions that exist are the one that the task knows, if it knows one, and it runs. -/
theorem one_keepalive (exitNodeIp : Ip4) (acceptRoutes : Int) (as : List Act) (t : System)
    (hrun : machine.run (boot exitNodeIp acceptRoutes) as = some t) :
    t.sessions = t.sKeepalivePing.toList.map (⟨·, t.sKeepaliveTarget, true⟩) :=
  (Machine.invariant (M := machine) (I := OneSession) (fun _ _ _ hs h => oneSession_step hs h) hrun
    ⟨rfl, fun _ => rfl⟩).1

/-- The uplink and the tunnel. -/
def twoNetifs : List Listed :=
  [(1, ⟨('s', 't'), 1, 0xC0A80117, 0xFFFFFF00, true, true⟩),
    (2, ⟨('w', 'g'), 0, 0x64400001, 0xFFC00000, true, false⟩)]

/-- A peer with a subnet, and one that cannot be read. -/
def twoPeers : List (Option (List AcceptedRoute)) := [some [⟨0x0A000000, 8⟩], none]

def goodCalls : Calls := ⟨true, true, true, twoPeers⟩

/-- The exit node is selected in the middle of a round. -/
def selectedMidway : List Act :=
  [.netifs twoNetifs, .default (some 1), .microlink true] ++
    List.replicate 3 (.supervise goodCalls) ++ [.setExitNode 0x64400005] ++
    List.replicate 6 (.supervise goodCalls)

/-- There is one, to the exit node. -/
theorem midway_session : ∃ t, machine.run (boot 0 1) selectedMidway = some t ∧
    t.sessions = t.sKeepalivePing.toList.map (⟨·, t.sKeepaliveTarget, true⟩) ∧
      t.sKeepalivePing = some 0 :=
  ⟨_, rfl, one_keepalive 0 1 selectedMidway _ rfl, rfl⟩

/-! ### The pin -/

/-- The task's note on the pin is true. -/
def PinNoted (s : System) : Prop :=
  ∀ pinned ∈ s.microlink, (s.sWgUdpPinned = true ↔ pinned ≠ none)

/-- The task is about to take off the pin. -/
def Phase.isUnpinning : Phase → Bool
  | .unpinning _ => true
  | _ => false

/-- The tunnel is not torn down or made anew while it is pinned, and its pin can be taken off. -/
def KeepsTunnel (s : System) : Act → Prop
  | .microlink _ => s.sWgUdpPinned = false
  | .supervise c => s.phase.isUnpinning = true → c.pin = true
  | _ => True

instance (s : System) (a : Act) : Decidable (KeepsTunnel s a) := by
  cases a <;> unfold KeepsTunnel <;> infer_instance

/-- Every step keeps the note true. The task notes what its calls have done; the condition keeps the
    tunnel from being made anew under a pin, and an unpinning from failing. -/
theorem pinNoted_step (hkeeps : KeepsTunnel s a) (hs : step s a = some s') (h : PinNoted s) :
    PinNoted s' := by
  -- `KeepsTunnel` is used twice: a new instance comes while the flag is down, and unpinning
  -- succeeds.
  cases a with
  | setExitNode | setAcceptRoutes | netifs | default =>
    obtain rfl := Option.some.inj hs
    exact h
  | microlink present =>
    obtain rfl := Option.some.inj hs
    -- A new instance has no pinned socket, so the flag must be down when it comes.
    have hflag : s.sWgUdpPinned = false := hkeeps
    intro pinned hpinned
    cases present with
    | false => cases hpinned
    | true =>
      obtain rfl := Option.some.inj hpinned
      simp [hflag]
  | supervise c =>
    obtain rfl := Option.some.inj hs
    unfold superviseStep
    -- In the phases of the pass only the two pin calls touch the instance.
    cases hphase : s.phase with
    | pinning wg sta =>
      dsimp only
      split
      · intro pinned hpinned
        obtain rfl := Option.some.inj hpinned
        simp
      · exact h
    | unpinning want =>
      dsimp only
      rw [if_pos (hkeeps (by rw [hphase]; rfl))]
      split
      · intro pinned hpinned
        obtain ⟨old, -, rfl⟩ := Option.map_eq_some_iff.mp hpinned
        simp
      · exact h
    | choosing wg sta wgReady =>
      dsimp only
      split
      · split <;> exact h
      · exact h
    | keeping wg =>
      obtain ⟨_, _, _, _, hframe⟩ := keepaliveStart_frame s c s.tailscaleExitNodeIp
      dsimp only
      rw [hframe]
      exact h
    | stopping want =>
      obtain ⟨_, _, hframe⟩ := keepaliveStop_frame s
      dsimp only
      rw [hframe]
      exact h
    | applying want =>
      dsimp only
      split <;> exact h
    | asleep | foundWg wg | found wg sta | caching wg sta wgReady | routing => exact h

/-! ### The routes of the peers -/

theorem addRoutes_eq (routes : List AcceptedRoute) {table : List AcceptedRoute}
    (h : table.length ≤ tailscaleAcceptedRoutesMax) :
    addRoutes table routes = (table ++ routes).take tailscaleAcceptedRoutesMax := by
  induction routes generalizing table with
  | nil => rw [addRoutes, List.append_nil, List.take_of_length_le h]
  | cons r routes ih =>
    rw [addRoutes]
    split
    · rename_i hlt
      rw [ih (by rw [List.length_append, List.length_singleton]; omega), List.append_assoc,
        List.singleton_append]
    · have hfull : table.length = tailscaleAcceptedRoutesMax := by omega
      rw [List.take_append_of_le_length (by omega), ← hfull, List.take_length]

/-- What is cut off in between would be cut off at the end. -/
theorem take_append_take (n : Nat) (l m : List AcceptedRoute) :
    (l.take n ++ m).take n = (l ++ m).take n := by
  by_cases hlen : l.length ≤ n
  · rw [List.take_of_length_le hlen]
  · have hle : n ≤ (l.take n).length := by
      rw [List.length_take]
      omega
    rw [List.take_append_of_le_length hle, List.take_take, Nat.min_self,
      List.take_append_of_le_length (by omega)]

/-- **The table.** It holds the routes of the peers that could be read, in turn, as far as there is
    room. -/
theorem addPeers_eq (peers : List (Option (List AcceptedRoute))) {table : List AcceptedRoute}
    (h : table.length ≤ tailscaleAcceptedRoutesMax) :
    addPeers table peers =
      (table ++ (peers.filterMap id).flatten).take tailscaleAcceptedRoutesMax := by
  induction peers generalizing table with
  | nil =>
    rw [addPeers, List.filterMap_nil, List.flatten_nil, List.append_nil,
      List.take_of_length_le h]
  | cons peer peers ih =>
    -- While there is room, a peer's routes are added; an unreadable peer adds none.
    by_cases hroom : table.length < tailscaleAcceptedRoutesMax
    · cases peer with
      | none =>
        rw [addPeers, if_pos hroom, List.filterMap_cons_none (by rfl)]
        exact ih h
      | some routes =>
        rw [addPeers, if_pos hroom,
          List.filterMap_cons_some (by rfl : id (some routes) = some routes), List.flatten_cons,
          ih (by rw [addRoutes_eq routes h]; exact List.length_take_le _ _),
          addRoutes_eq routes h, ← List.append_assoc]
        exact take_append_take _ _ _
    -- A full table is left as it is, and so is its first part.
    · have hfull : table.length = tailscaleAcceptedRoutesMax := by omega
      have hkept : addPeers table (peer :: peers) = table := by
        cases peer <;> rw [addPeers, if_neg hroom]
      rw [hkept, List.take_append_of_le_length (by omega), ← hfull, List.take_length]

/-! ### One round -/

/-- The netif that the default route should have, if the task wants any. With an exit node it is the
    tunnel, once that and the station are there; without one, the netif remembered from before. -/
def wanted (s : System) : Option Nat :=
  if s.tailscaleExitNodeIp ≠ 0 then
    match findWgNetif s.netifList, findStaNetif s.netifList with
    | some wg, some _ => if netifIsUp s.netifList wg then some wg else none
    | _, _ => none
  else s.sOriginalDefault

/-- The pin and the ping session are as the exit node asks for. With an exit node and no tunnel yet
    nothing is asked. -/
def Served (s : System) : Prop :=
  (s.tailscaleExitNodeIp = 0 → s.sWgUdpPinned = false ∧ s.sessions = []) ∧
    (s.tailscaleExitNodeIp ≠ 0 → wanted s ≠ none →
      (s.microlink ≠ none → s.sWgUdpPinned = true) ∧
        ∃ hdl, s.sessions = [⟨hdl, s.tailscaleExitNodeIp, true⟩])

/-- The default route goes where it should. -/
def Routed (s : System) : Prop := ∀ netif ∈ wanted s, s.netifDefault = some netif

/-- The routes of these peers, as far as they are accepted. The table is filled in the order of the
    peers, and cut at its size. -/
def Accepted (peers : List (Option (List AcceptedRoute))) (s : System) : Prop :=
  s.acceptedRoutes =
    if s.tailscaleAcceptRoutes ≠ 0 ∧ s.microlink ≠ none then
      (peers.filterMap id).flatten.take tailscaleAcceptedRoutesMax
    else []

/-- What the task has done, up to each of its steps, while nobody interferes. It is indexed by the
    phase: each one adds what its step has just settled. -/
def Underway (peers : List (Option (List AcceptedRoute))) (s : System) : Prop :=
  match s.phase with
  | .asleep => Routed s ∧ Served s ∧ Accepted peers s
  | .foundWg wg => wg = findWgNetif s.netifList
  | .found wg sta => wg = findWgNetif s.netifList ∧ sta = findStaNetif s.netifList
  | .caching wg sta wgReady | .choosing wg sta wgReady =>
    wg = findWgNetif s.netifList ∧ sta = findStaNetif s.netifList ∧
      wgReady = wg.any (netifIsUp s.netifList)
  | .pinning wg _ => s.tailscaleExitNodeIp ≠ 0 ∧ wanted s = some wg
  | .keeping wg => s.tailscaleExitNodeIp ≠ 0 ∧ wanted s = some wg ∧
      (s.microlink ≠ none → s.sWgUdpPinned = true)
  | .unpinning want => s.tailscaleExitNodeIp = 0 ∧ want = wanted s
  | .stopping want => s.tailscaleExitNodeIp = 0 ∧ want = wanted s ∧ s.sWgUdpPinned = false
  | .applying want => want = wanted s ∧ Served s
  | .routing => Routed s ∧ Served s

/-- All calls succeed, and these are the peers. -/
def Calls.Ok (peers : List (Option (List AcceptedRoute))) (c : Calls) : Prop :=
  c.pin = true ∧ c.newSession = true ∧ c.start = true ∧ c.peers = peers

instance (peers : List (Option (List AcceptedRoute))) (c : Calls) : Decidable (c.Ok peers) :=
  inferInstanceAs (Decidable (_ ∧ _))

/-- A session to the target is there after `keepalive_start`, if its calls succeed. -/
theorem sessions_keepaliveStart (h : OneSession s) (hnew : c.newSession = true)
    (hstart : c.start = true) (targetIp : Ip4) :
    ∃ hdl, (s.keepaliveStart c targetIp).sessions = [⟨hdl, targetIp, true⟩] := by
  unfold System.keepaliveStart
  split
  · rename_i hsame
    obtain ⟨hdl, hping⟩ := Option.ne_none_iff_exists'.mp hsame.2
    refine ⟨hdl, ?_⟩
    rw [h.1, hping, hsame.1]
    rfl
  · obtain ⟨⟨hsessions, -⟩, hnone⟩ := oneSession_keepaliveStop h
    rw [hnone] at hsessions
    exact ⟨s.keepaliveStop.nextHdl, by simp [hsessions]⟩

/-- **One step of the task**, undisturbed. One case for each phase: what the step has found or done
    is what the next phase relies on. -/
theorem underway_superviseStep {peers : List (Option (List AcceptedRoute))} (hok : c.Ok peers)
    (hone : OneSession s) (h : Underway peers s) : Underway peers (superviseStep s c) := by
  obtain ⟨hpin, hnew, hstart, hpeers⟩ := hok
  unfold superviseStep
  cases hphase : s.phase with
  | asleep => exact rfl
  | foundWg wg =>
    rw [Underway, hphase] at h
    exact ⟨h, rfl⟩
  | found wg sta =>
    rw [Underway, hphase] at h
    exact ⟨h.1, h.2, rfl⟩
  | caching wg sta wgReady =>
    rw [Underway, hphase] at h
    exact h
  | choosing wg sta wgReady =>
    rw [Underway, hphase] at h
    obtain ⟨hwg, hsta, hready⟩ := h
    dsimp only
    by_cases hexit : s.tailscaleExitNodeIp = 0
    · rw [if_neg (not_not.mpr hexit)]
      refine ⟨hexit, ?_⟩
      show _ = wanted s
      rw [wanted, if_neg (not_not.mpr hexit)]
    · rw [if_pos hexit]
      -- without a tunnel that is up, and an uplink, nothing is wanted
      have hnone : wanted s = none → Underway peers { s with phase := .applying none } :=
        fun hwanted => ⟨hwanted.symm, fun hoff => absurd hoff hexit, fun _ hsome =>
          absurd hwanted hsome⟩
      subst hwg hsta hready
      have hwanted : wanted s = match findWgNetif s.netifList, findStaNetif s.netifList with
          | some wg, some _ => if netifIsUp s.netifList wg then some wg else none
          | _, _ => none := by
        rw [wanted, if_pos hexit]
      cases hwg : findWgNetif s.netifList with
      | none => exact hnone (by rw [hwanted, hwg])
      | some wg =>
        cases hsta : findStaNetif s.netifList with
        | none => exact hnone (by rw [hwanted, hwg, hsta])
        | some sta =>
          rw [hwg, hsta] at hwanted
          dsimp only at hwanted
          cases hup : netifIsUp s.netifList wg with
          | false =>
            rw [hup] at hwanted
            rw [Option.any_some, hup]
            exact hnone hwanted
          | true =>
            rw [hup] at hwanted
            rw [Option.any_some, hup]
            exact ⟨hexit, hwanted⟩
  | pinning wg sta =>
    rw [Underway, hphase] at h
    obtain ⟨hexit, hwanted⟩ := h
    dsimp only
    split
    · exact ⟨hexit, hwanted, fun _ => rfl⟩
    · rename_i hnot
      refine ⟨hexit, hwanted, fun hml => ?_⟩
      by_contra hflag
      exact hnot ⟨by simpa using hflag, hml, hpin⟩
  | keeping wg =>
    rw [Underway, hphase] at h
    obtain ⟨hexit, hwanted, hpinned⟩ := h
    obtain ⟨hdl, hsessions⟩ := sessions_keepaliveStart hone hnew hstart s.tailscaleExitNodeIp
    obtain ⟨sessions, nextHdl, ping, target, hframe⟩ :=
      keepaliveStart_frame s c s.tailscaleExitNodeIp
    rw [hframe] at hsessions
    dsimp only at hsessions ⊢
    rw [hframe]
    exact ⟨hwanted.symm, fun hoff => absurd hoff hexit, fun _ _ => ⟨hpinned, hdl, hsessions⟩⟩
  | unpinning want =>
    rw [Underway, hphase] at h
    obtain ⟨hexit, hwant⟩ := h
    dsimp only
    split
    · exact ⟨hexit, hwant, rfl⟩
    · rename_i hflag
      exact ⟨hexit, hwant, by simpa using hflag⟩
  | stopping want =>
    rw [Underway, hphase] at h
    obtain ⟨hexit, hwant, hflag⟩ := h
    obtain ⟨⟨hsessions, -⟩, hnone⟩ := oneSession_keepaliveStop hone
    obtain ⟨sessions, ping, hframe⟩ := keepaliveStop_frame s
    rw [hnone] at hsessions
    rw [hframe] at hsessions
    dsimp only at hsessions ⊢
    rw [hframe]
    exact ⟨hwant, fun _ => ⟨hflag, hsessions⟩, fun hon => absurd hexit hon⟩
  | applying want =>
    rw [Underway, hphase] at h
    obtain ⟨hwant, hserved⟩ := h
    dsimp only
    split
    · refine ⟨?_, hserved⟩
      intro netif hnetif
      exact hwant.trans hnetif
    · rename_i hsame
      refine ⟨?_, hserved⟩
      intro netif hnetif
      show s.netifDefault = some netif
      have hsome : want = some netif := hwant.trans hnetif
      by_contra hne
      exact hsame ⟨by rw [hsome]; exact Option.some_ne_none netif, by
        rw [hsome]; exact fun heq => hne heq.symm⟩
  | routing =>
    rw [Underway, hphase] at h
    obtain ⟨hrouted, hserved⟩ := h
    refine ⟨hrouted, hserved, ?_⟩
    unfold Accepted
    dsimp only
    by_cases haccept : s.tailscaleAcceptRoutes ≠ 0
    · by_cases hml : s.microlink = none
      · rw [if_pos haccept, if_pos hml, if_neg fun h => h.2 hml, addPeers]
      · rw [if_pos haccept, if_neg hml, if_pos ⟨haccept, hml⟩, hpeers,
          addPeers_eq peers (Nat.zero_le _), List.nil_append]
    · rw [if_neg haccept, if_neg fun h => haccept h.1]

/-! ### The others leave it alone -/

/-- Everything is as the settings ask for: the default route goes to the tunnel, or back to where it
    was first; the packets of the tunnel are pinned, or not; the ping session is there, or not; and
    the accepted routes are those of the peers. -/
structure Settled (peers : List (Option (List AcceptedRoute))) (s : System) : Prop where
  routed : ∀ netif ∈ wanted s, s.netifDefault = some netif
  off : s.tailscaleExitNodeIp = 0 → (∀ pinned ∈ s.microlink, pinned = none) ∧ s.sessions = []
  on : s.tailscaleExitNodeIp ≠ 0 → wanted s ≠ none → (∀ pinned ∈ s.microlink, pinned ≠ none) ∧
    ∃ hdl, s.sessions = [⟨hdl, s.tailscaleExitNodeIp, true⟩]
  accepted : s.acceptedRoutes =
    if s.tailscaleAcceptRoutes ≠ 0 ∧ s.microlink ≠ none then
      (peers.filterMap id).flatten.take tailscaleAcceptedRoutesMax
    else []

/-- The task runs, its calls succeed, and these are the peers. -/
def Undisturbed (peers : List (Option (List AcceptedRoute))) (_ : System) : Act → Prop
  | .supervise c => c.Ok peers
  | _ => False

instance (peers : List (Option (List AcceptedRoute))) (s : System) (a : Act) :
    Decidable (Undisturbed peers s a) := by
  cases a <;> unfold Undisturbed <;> infer_instance

theorem Undisturbed.keepsTunnel {peers : List (Option (List AcceptedRoute))}
    (h : Undisturbed peers s a) : KeepsTunnel s a := by
  cases a with
  | supervise c => exact fun _ => h.1
  | setExitNode | setAcceptRoutes | netifs | default | microlink => exact absurd h id

theorem undisturbed_step {peers : List (Option (List AcceptedRoute))}
    (hquiet : Undisturbed peers s a) (hs : step s a = some s')
    (h : OneSession s ∧ PinNoted s ∧ Underway peers s) :
    OneSession s' ∧ PinNoted s' ∧ Underway peers s' := by
  obtain ⟨hone, hnoted, hunderway⟩ := h
  cases a with
  | supervise c =>
    refine ⟨oneSession_step hs hone, pinNoted_step hquiet.keepsTunnel hs hnoted, ?_⟩
    obtain rfl := Option.some.inj hs
    exact underway_superviseStep hquiet hone hunderway
  | setExitNode | setAcceptRoutes | netifs | default | microlink => exact absurd hquiet id

/-- **The supervisor settles.** Whatever has happened before, in whichever order: when the task
    begins a round, and nobody interferes until it sleeps again, everything is as the settings ask
    for; and so it stays, for any number of such rounds. -/
theorem supervisor_settles (exitNodeIp : Ip4) (acceptRoutes : Int) (before after : List Act)
    (s t : System) (hkeeps : machine.Meets KeepsTunnel (boot exitNodeIp acceptRoutes) before)
    (hbefore : machine.run (boot exitNodeIp acceptRoutes) before = some s)
    (hasleep : s.phase = .asleep) (peers : List (Option (List AcceptedRoute)))
    (hquiet : machine.Meets (Undisturbed peers) s after) (hne : after ≠ [])
    (hafter : machine.run s after = some t) (hdone : t.phase = .asleep) : Settled peers t := by
  have hone : OneSession s :=
    Machine.invariant (M := machine) (I := OneSession) (fun _ _ _ hs h => oneSession_step hs h)
      hbefore ⟨rfl, fun _ => rfl⟩
  have hnoted : PinNoted s :=
    Machine.invariant_of_meets (M := machine) (I := PinNoted)
      (fun _ _ _ hk hs h => pinNoted_step hk hs h) hkeeps hbefore (fun _ h => by cases h)
  obtain ⟨a, after, rfl⟩ := List.exists_cons_of_ne_nil hne
  obtain ⟨s', hs, hrest⟩ := Machine.run_cons.mp hafter
  obtain ⟨hfirst, hquiet'⟩ := (Machine.meets_cons (M := machine) hs).mp hquiet
  -- the first step begins the round
  have hbegun : OneSession s' ∧ PinNoted s' ∧ Underway peers s' := by
    refine ⟨oneSession_step (a := a) hs hone, pinNoted_step hfirst.keepsTunnel hs hnoted, ?_⟩
    cases a with
    | supervise c =>
      obtain rfl := Option.some.inj hs
      unfold superviseStep
      rw [hasleep]
      exact rfl
    | setExitNode | setAcceptRoutes | netifs | default | microlink => exact absurd hfirst id
  obtain ⟨-, hnoted', hunderway⟩ :=
    Machine.invariant_of_meets (M := machine)
      (I := fun s => OneSession s ∧ PinNoted s ∧ Underway peers s)
      (fun _ _ _ hq hs h => undisturbed_step hq hs h) hquiet' hrest hbegun
  rw [Underway, hdone] at hunderway
  obtain ⟨hrouted, ⟨hoff, hon⟩, haccepted⟩ := hunderway
  refine ⟨hrouted, fun hexit => ?_, fun hexit hwanted => ?_, haccepted⟩
  · obtain ⟨hflag, hsessions⟩ := hoff hexit
    refine ⟨fun pinned hpinned => ?_, hsessions⟩
    have := hnoted' pinned hpinned
    rw [hflag] at this
    simpa using this
  · obtain ⟨hflag, hsessions⟩ := hon hexit hwanted
    refine ⟨fun pinned hpinned => (hnoted' pinned hpinned).mp (hflag ?_), hsessions⟩
    rw [hpinned]
    exact Option.some_ne_none pinned

/-- After one more round the default route goes to the tunnel. -/
theorem selected_midway_settles : ∃ s t,
    machine.run (boot 0 1) selectedMidway = some s ∧
      machine.run s (List.replicate 9 (.supervise goodCalls)) = some t ∧
        Settled twoPeers t ∧ t.netifDefault = some 2 ∧ t.acceptedRoutes = [⟨0x0A000000, 8⟩] :=
  ⟨_, _, rfl, rfl, supervisor_settles 0 1 selectedMidway
    (List.replicate 9 (.supervise goodCalls)) _ _ (by decide +kernel) rfl rfl twoPeers
    (by decide +kernel) (by decide) rfl rfl, rfl, rfl⟩

end SubnetRouter.ExitSupervisor
