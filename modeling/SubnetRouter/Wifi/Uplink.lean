import SubnetRouter.Lib.RoundRobin
import SubnetRouter.Lib.Run
import SubnetRouter.Wifi.Networks

namespace SubnetRouter.Wifi

open Lib
open SubnetRouter.Settings (wifiNetworksMax)

/-!
# The uplink (`main/main.c`, `main/web_ui.c`)

The station goes through the saved networks: after so many failed associations with one of them it
takes the next.  The driver does not scan while an association is under way, so a scan that is asked
for in the web interface stops the reconnecting, and its end starts it again.  What the driver
answers to a call is left open: each call may be refused at any time, and most of its callers do
not look.

* `rotate`, `wifiApplyNetwork` — the networks, one after the other.
* `uplinkStep` — the driver, the event loop and the web server; every call is a step of its own.
* `every_network_tried_five_times` — the rotation is fair, whatever scans come in between.
* `station_never_left_idle` — when nothing is under way, the station is connected or connecting,
  unless the driver refused to connect it when it was asked last.
-/

/-! ### The networks in turn -/

/-- `WIFI_RETRIES_PER_NETWORK`. -/
def wifiRetriesPerNetwork : Nat := 5

/-- What a call of the driver returns. The code tells one error apart from the others. -/
inductive Answer
  | ok
  /-- `ESP_ERR_WIFI_STATE`: an association is under way. -/
  | wifiState
  | failed
deriving DecidableEq

/-- `s_net_current`, `s_net_retries`, and the network that the driver is set to, if it is. The third
    is the driver's: a call that fails leaves it as it was. -/
structure Rotation where
  current : Nat
  retries : Nat
  applied : Option Nat
deriving DecidableEq

/-- `wifi_apply_network`, as to which network the driver is set to: the result of
    `esp_wifi_set_config` is not looked at. -/
def wifiApplyNetwork (t : CountedTable WifiNetwork wifiNetworksMax) (r : Rotation) (idx : Nat)
    (setConfig : Answer) : Rotation :=
  match wifiNetworksGet t idx with
  | some _ => if setConfig = .ok then { r with applied := some idx } else r
  | none => r

/-- The rotation in the handler of `WIFI_EVENT_STA_DISCONNECTED`. With one network there is nothing
    to rotate, and its retries are not counted. -/
def rotate (t : CountedTable WifiNetwork wifiNetworksMax) (r : Rotation) (setConfig : Answer) :
    Rotation :=
  if 1 < t.count then
    if wifiRetriesPerNetwork ≤ r.retries + 1 then
      let current := (r.current + 1) % t.count
      wifiApplyNetwork t { r with current, retries := 0 } current setConfig
    else { r with retries := r.retries + 1 }
  else r

/-! ### Driver, event loop and web server -/

/-- The station in the driver. It leaves `connecting` by itself, with an association or without. -/
inductive Sta
  | idle
  | connecting
  | connected
deriving DecidableEq

/-- What the driver reports. The events are queued, and handled one after the other. -/
inductive WifiEvent
  | started
  | disconnected
  | gotIp
  | scanDone
deriving DecidableEq

/-- `wifi_sta_resume_after_scan`: called, the flag seen, the flag cleared. The event loop and the
    web server may both be in it. -/
inductive Resume
  | called
  | seen
  | cleared
deriving DecidableEq

/-- The event loop: between two events, about to connect for the first time or to reconnect, or at
    the end of a scan. -/
inductive LoopPhase
  | free
  | connecting
  | reconnecting
  | resuming (p : Resume)
deriving DecidableEq

/-- `network_scan_handler`: about to scan, about to pause the station, about to disconnect it, about
    to scan again, about to resume after an error, and about to note it. -/
inductive WebPhase
  | free
  | starting
  | pausing
  | disconnecting
  | retrying
  | resuming (p : Resume)
  | failing
deriving DecidableEq

/-- `scan_state_t`. A scan that is running is not started again. -/
inductive ScanState
  | idle
  | running
  | ready
  | error
deriving DecidableEq

/-- The driver with its queue of events and whether it refused the last `esp_wifi_connect`,
    `s_manual_scan_active`, `s_scan_state`, the rotation, and how far the two tasks are. -/
structure Uplink where
  sta : Sta
  refused : Bool
  scanning : Bool
  queue : List WifiEvent
  manual : Bool
  scanState : ScanState
  rotation : Rotation
  loop : LoopPhase
  web : WebPhase
deriving DecidableEq

/-- A step of the driver: an association fails or succeeds, a connection is lost, a scan ends; of
    the event loop: the next event, the next call; of the web server: a request, the next call.
    With the steps of the two tasks comes what the driver answers, if they call it. -/
inductive UplinkAct
  | failed
  | associated
  | lost
  | scanned
  | handle (answer : Answer)
  | loop (answer : Answer)
  | scanRequest
  | web (answer : Answer)
deriving DecidableEq

/-- `esp_wifi_connect`: an association begins, unless one is there. -/
def Uplink.connect (s : Uplink) (answer : Answer) : Uplink :=
  if answer = .ok then
    { s with refused := false, sta := if s.sta = .idle then .connecting else s.sta }
  else { s with refused := true }

/-- `esp_wifi_disconnect`. -/
def Uplink.disconnect (s : Uplink) (answer : Answer) : Uplink :=
  if answer = .ok ∧ s.sta ≠ .idle then
    { s with sta := .idle, queue := s.queue ++ [.disconnected] }
  else s

/-- `esp_wifi_scan_start`, and how the handler goes on if it is refused. A scan that starts reports
    its end later. -/
def Uplink.scanStart (s : Uplink) (answer : Answer) (paused : WebPhase) : Uplink :=
  match answer with
  | .ok => { s with scanning := true, web := .free }
  | .wifiState => { s with web := paused }
  | .failed => { s with web := .resuming .called }

/-- The next call of `wifi_sta_resume_after_scan`; `none` at its end.  That the station could not
    be connected is only logged. -/
def Uplink.resume (t : CountedTable WifiNetwork wifiNetworksMax) (s : Uplink) (answer : Answer) :
    Resume → Option Resume × Uplink
  | .called => (if s.manual then some .seen else none, s)
  | .seen => (some .cleared, { s with manual := false })
  | .cleared => (none, if 0 < t.count then s.connect answer else s)

/-- The handlers of the events, up to their last call. That call is a step of its own, as the web
    server may come in between. -/
def Uplink.handle (t : CountedTable WifiNetwork wifiNetworksMax) (s : Uplink) (answer : Answer) :
    WifiEvent → Uplink
  | .started => { s with loop := if 0 < t.count then .connecting else .free }
  | .disconnected =>
    -- paused for a scan
    if s.manual then s
    else
      { s with
        rotation := rotate t s.rotation answer
        loop := if 0 < t.count then .reconnecting else .free }
  | .gotIp => { s with rotation := { s.rotation with retries := 0 } }
  | .scanDone => { s with scanState := .ready, loop := .resuming .called }

/-- The next call of the event loop. While it is free it takes the next event. -/
def Uplink.loopStep (t : CountedTable WifiNetwork wifiNetworksMax) (s : Uplink) (answer : Answer) :
    Option Uplink :=
  match s.loop with
  | .free => none
  | .connecting => some { s.connect answer with loop := .free }
  | .reconnecting => some { s.connect answer with loop := .free }
  | .resuming p =>
    let (p, s) := s.resume t answer p
    some { s with loop := p.elim .free .resuming }

/-- The next call of the web server. The pause for a scan is taken only where the first try was
    refused. -/
def Uplink.webStep (t : CountedTable WifiNetwork wifiNetworksMax) (s : Uplink) (answer : Answer) :
    Option Uplink :=
  match s.web with
  | .free => none
  | .starting => some (s.scanStart answer .pausing)
  | .pausing => some { s with manual := true, web := .disconnecting }
  -- the pause is only logged when it fails
  | .disconnecting => some { s.disconnect answer with web := .retrying }
  | .retrying => some (s.scanStart answer (.resuming .called))
  | .resuming p =>
    let (p, s) := s.resume t answer p
    some { s with web := p.elim .failing .resuming }
  | .failing => some { s with scanState := .error, web := .free }

/-- One step. The driver, the event loop and the web server take theirs in any order. -/
def uplinkStep (t : CountedTable WifiNetwork wifiNetworksMax) (s : Uplink) :
    UplinkAct → Option Uplink
  | .failed =>
    if s.sta = .connecting then
      some { s with sta := .idle, queue := s.queue ++ [.disconnected] }
    else none
  | .associated =>
    if s.sta = .connecting then
      some { s with sta := .connected, queue := s.queue ++ [.gotIp] }
    else none
  | .lost =>
    if s.sta = .connected then
      some { s with sta := .idle, queue := s.queue ++ [.disconnected] }
    else none
  | .scanned =>
    if s.scanning then some { s with scanning := false, queue := s.queue ++ [.scanDone] } else none
  | .handle answer =>
    match s.loop, s.queue with
    | .free, e :: queue => some (Uplink.handle t { s with queue } answer e)
    | _, _ => none
  | .loop answer => s.loopStep t answer
  | .scanRequest =>
    if s.web = .free then
      -- a second request while a scan runs starts none
      some (if s.scanState = .running then s
        else { s with scanState := .running, web := .starting })
    else none
  | .web answer => s.webStep t answer

def uplinkMachine (t : CountedTable WifiNetwork wifiNetworksMax) : Machine Uplink UplinkAct :=
  ⟨uplinkStep t⟩

/-- After `wifi_init_sta`, with networks in the table: the driver was set to the first one if it
    took its configuration, and is about to start the station. -/
def uplinkStart (setConfig : Answer) : Uplink where
  sta := .idle
  refused := false
  scanning := false
  queue := [.started]
  manual := false
  scanState := .idle
  rotation := ⟨0, 0, if setConfig = .ok then some 0 else none⟩
  loop := .free
  web := .free

/-- Nothing is under way: no scan, no event, no handler. -/
def Uplink.Quiet (s : Uplink) : Prop :=
  s.scanning = false ∧ s.queue = [] ∧ s.loop = .free ∧ s.web = .free

instance Uplink.decidableQuiet (s : Uplink) : Decidable s.Quiet :=
  inferInstanceAs (Decidable (_ ∧ _))

/-! ### The station is tended -/

variable {t : CountedTable WifiNetwork wifiNetworksMax} {s s' : Uplink} {a : UplinkAct}
  {as bs : List UplinkAct} {r : Rotation} {answer setConfig : Answer}

/-- An idle station has an event, a pause or a call ahead of it, or was refused when it was to
    connect; and whoever paused it, or the scan that it was paused for, is going to resume it. -/
structure Uplink.Tended (s : Uplink) : Prop where
  idle : s.sta = .idle → .started ∈ s.queue ∨ .disconnected ∈ s.queue ∨ s.loop = .connecting ∨
    s.loop = .reconnecting ∨ s.manual = true ∨ s.loop = .resuming .cleared ∨
    s.web = .resuming .cleared ∨ s.refused = true
  paused : s.manual = true → s.web = .disconnecting ∨ s.web = .retrying ∨
    s.web = .resuming .called ∨ s.web = .resuming .seen ∨ s.scanning = true ∨
    .scanDone ∈ s.queue ∨ s.loop = .resuming .called ∨ s.loop = .resuming .seen

/-- A station that was asked to connect is connecting, or was refused. -/
theorem connect_sta (s : Uplink) (answer : Answer) :
    (s.connect answer).sta = .idle → (s.connect answer).refused = true := by
  unfold Uplink.connect
  split_ifs with hok hidle
  · simp
  · exact fun h => absurd h hidle
  · exact fun _ => rfl

/-- Connecting touches nothing but the station. -/
theorem connect_frame (s : Uplink) (answer : Answer) : s.connect answer =
    { s with sta := (s.connect answer).sta, refused := (s.connect answer).refused } := by
  unfold Uplink.connect
  split_ifs <;> rfl

/-- A pause is not touched by a connection. -/
theorem Uplink.Tended.connect (h : s.Tended)
    (hkept : s'.manual = true → s.manual = true ∧ s'.web = s.web ∧ s'.scanning = s.scanning ∧
      s'.queue = s.queue)
    (hloop : s.loop = .resuming .called ∨ s.loop = .resuming .seen → s'.loop = s.loop)
    (hsta : s'.sta = .idle → s'.refused = true) : s'.Tended := by
  refine ⟨fun hidle => ?_, fun hmanual => ?_⟩
  · simp only [hsta hidle, or_true]
  · obtain ⟨hmanual, hweb, hscan, hqueue⟩ := hkept hmanual
    rw [hweb, hscan, hqueue]
    have hpaused := h.paused hmanual
    grind

/-- The event loop goes on. After its call of `esp_wifi_connect` the station is connecting, was
    refused, or was connected already. -/
theorem Uplink.Tended.loopStep (h : s.Tended) (hcount : 0 < t.count)
    (hs : s.loopStep t answer = some s') : s'.Tended := by
  have hconnected := connect_sta s answer
  unfold Uplink.loopStep at hs
  split at hs
  · cases hs
  · next hloop =>
    -- the station is connecting afterwards, or was refused
    obtain rfl := Option.some.inj hs
    refine h.connect (fun hmanual => ?_) (by simp [hloop]) hconnected
    rw [connect_frame] at hmanual ⊢
    exact ⟨hmanual, rfl, rfl, rfl⟩
  · next hloop =>
    obtain rfl := Option.some.inj hs
    refine h.connect (fun hmanual => ?_) (by simp [hloop]) hconnected
    rw [connect_frame] at hmanual ⊢
    exact ⟨hmanual, rfl, rfl, rfl⟩
  · next p hp =>
    obtain rfl := Option.some.inj hs
    cases p with
    | called =>
      have hidle := h.idle
      have hpaused := h.paused
      by_cases hmanual : s.manual = true
      · constructor <;> simp_all [Uplink.resume]
      · constructor <;> simp_all [Uplink.resume]
    | seen => constructor <;> simp
    | cleared =>
      simp only [if_pos hcount]
      refine h.connect (fun hmanual => ?_) (by simp [hp]) hconnected
      rw [connect_frame] at hmanual ⊢
      exact ⟨hmanual, rfl, rfl, rfl⟩

/-- The web server goes on. A pause for a scan always leads to a resume, in the handler itself or
    behind the event. -/
theorem Uplink.Tended.webStep (h : s.Tended) (hcount : 0 < t.count)
    (hs : s.webStep t answer = some s') : s'.Tended := by
  have hidle := h.idle
  have hpaused := h.paused
  -- One case for each place of the scan: starting, pausing the station, and resuming it at the end.
  unfold Uplink.webStep at hs
  split at hs
  · cases hs
  · obtain rfl := Option.some.inj hs
    unfold Uplink.scanStart
    split <;> constructor <;> simp_all
  · obtain rfl := Option.some.inj hs
    constructor <;> simp
  · obtain rfl := Option.some.inj hs
    unfold Uplink.disconnect
    split_ifs <;> constructor <;> simp_all
  · obtain rfl := Option.some.inj hs
    unfold Uplink.scanStart
    split <;> constructor <;> simp_all
  · next p hp =>
    obtain rfl := Option.some.inj hs
    cases p with
    -- `s_manual_scan_active` is tested first: without it there is nothing to resume.
    | called =>
      by_cases hmanual : s.manual = true
      · constructor <;> simp_all [Uplink.resume]
      · constructor <;> simp_all [Uplink.resume]
    | seen => constructor <;> simp
    | cleared =>
      simp only [if_pos hcount]
      -- The last call connects the station, or is refused.
      refine ⟨fun hnone => ?_, fun hmanual => ?_⟩
      · have hrefused := connect_sta s answer hnone
        simp [hrefused]
      · rw [connect_frame] at hmanual ⊢
        have := h.paused hmanual
        simp_all
  · obtain rfl := Option.some.inj hs
    constructor <;> simp_all

/-- The event loop takes an event. -/
theorem Uplink.Tended.handle {e : WifiEvent} {queue : List WifiEvent} (h : s.Tended)
    (hcount : 0 < t.count) (hloop : s.loop = .free) (hqueue : s.queue = e :: queue) :
    (Uplink.handle t { s with queue } answer e).Tended := by
  have hidle := h.idle
  have hpaused := h.paused
  rw [hqueue, hloop] at hidle hpaused
  cases e with
  | disconnected =>
    by_cases hmanual : s.manual = true
    · -- the station stays idle until the scan is over
      simp only [Uplink.handle, hmanual, if_true]
      constructor <;> simp_all
    · simp only [Uplink.handle, hmanual, if_pos hcount]
      constructor <;> simp_all
  | started | gotIp | scanDone => constructor <;> simp_all [Uplink.handle]

/-- **One step.** No step of any task leaves the station behind: the driver's own steps queue an
    event, and the others are those above. -/
theorem tended_step (hcount : 0 < t.count) (hs : uplinkStep t s a = some s') (h : s.Tended) :
    s'.Tended := by
  have hidle := h.idle
  have hpaused := h.paused
  -- What the driver does by itself posts an event, which is still to be handled.
  cases a with
  | failed | associated | lost | scanned =>
    simp only [uplinkStep] at hs
    split_ifs at hs with hfree
    obtain rfl := Option.some.inj hs
    constructor <;> simp_all
  -- An event is handled only while the loop is free.
  | handle answer =>
    simp only [uplinkStep] at hs
    split at hs
    · next e queue hloop hqueue =>
      obtain rfl := Option.some.inj hs
      exact h.handle hcount hloop hqueue
    · cases hs
  | loop answer => exact h.loopStep hcount hs
  -- A second scan is refused while one is running.
  | scanRequest =>
    simp only [uplinkStep] at hs
    split_ifs at hs with hfree hrunning
    · obtain rfl := Option.some.inj hs
      exact h
    · obtain rfl := Option.some.inj hs
      constructor <;> simp_all
  | web answer => exact h.webStep hcount hs

/-- **The station is never left idle.** For every order of association failures, lost connections,
    scans and requests, and whatever the driver answers to each call: when nothing is under way any
    more, a device with saved networks is not paused, and it is connected or connecting unless the
    driver refused the last call of `esp_wifi_connect`. -/
theorem station_never_left_idle (t : CountedTable WifiNetwork wifiNetworksMax)
    (hcount : 0 < t.count) (setConfig : Answer) (as : List UplinkAct) (s : Uplink)
    (hrun : (uplinkMachine t).run (uplinkStart setConfig) as = some s) (hquiet : s.Quiet) :
    s.manual = false ∧ (s.sta = .idle → s.refused = true) := by
  have htended : s.Tended :=
    Machine.invariant (I := Uplink.Tended) (fun _ _ _ hs => tended_step hcount hs) hrun
      ⟨fun _ => .inl (List.mem_singleton.mpr rfl), nofun⟩
  obtain ⟨hscan, hqueue, hloop, hweb⟩ := hquiet
  have hmanual : s.manual = false := by
    rw [← Bool.not_eq_true]
    intro hmanual
    have := htended.paused hmanual
    simp_all
  refine ⟨hmanual, fun hidle => ?_⟩
  have := htended.idle hidle
  simp_all

/-- Two networks with the names `a` and `b`, as a save leaves them. -/
def twoNetworks : List WifiNetwork :=
  [{ WifiNetwork.blank with ssid := nameOf ⟨[97], by decide⟩ },
    { WifiNetwork.blank with ssid := nameOf ⟨[98], by decide⟩ }]

def twoNetworksTable : CountedTable WifiNetwork wifiNetworksMax :=
  clearCache.fill WifiNetwork.keep WifiNetwork.mark twoNetworks

/-- The station is paused for a scan while it is connecting, and the scan ends. -/
def scanWhileConnecting : List UplinkAct :=
  [.handle .ok, .loop .ok, .scanRequest, .web .wifiState, .web .ok, .web .ok, .handle .ok, .web .ok,
    .scanned, .handle .ok, .loop .ok, .loop .ok, .loop .ok]

/-- It is connecting again. -/
theorem station_resumed :
    ∃ s, (uplinkMachine twoNetworksTable).run (uplinkStart .ok) scanWhileConnecting = some s ∧
      s.sta = .connecting ∧ s.manual = false ∧ (s.sta = .idle → s.refused = true) :=
  ⟨_, rfl, rfl, station_never_left_idle twoNetworksTable (by decide +kernel) .ok
    scanWhileConnecting _ rfl (by decide +kernel)⟩

-- When the driver refuses the last of these calls, the station stays idle.
example : ((uplinkMachine twoNetworksTable).run (uplinkStart .ok)
    (scanWhileConnecting.dropLast ++ [.loop .failed])).map (fun s => (s.sta, s.refused)) =
      some (.idle, true) := by
  decide +kernel

/-! ### The rotation is fair -/

/-- The first slots are the ones in use, as a save leaves them. -/
def Compact (t : CountedTable WifiNetwork wifiNetworksMax) : Prop :=
  ∀ i < t.count, (wifiNetworksGet t i).isSome = true

instance (t : CountedTable WifiNetwork wifiNetworksMax) : Decidable (Compact t) :=
  inferInstanceAs (Decidable (∀ i < t.count, _))

/-- A saved table is compact. -/
theorem compact_of_filled {entries : List WifiNetwork} (h : t.Filled WifiNetwork.blank entries)
    (huse : ∀ n ∈ entries, n.inUse = true) : Compact t := by
  intro i hi
  have hlt : i < entries.length := h.2 ▸ hi
  rw [get_of_filled h huse, if_neg (by omega), Int.toNat_natCast, List.getElem?_eq_getElem hlt]
  rfl

/-- Whose turn it is. -/
def Rotation.turn (r : Rotation) : Turn := ⟨r.current, r.retries⟩

/-- The driver is set to the network whose turn it is. -/
def Rotation.Tuned (r : Rotation) : Prop := r.applied = some r.current

/-- The rotation is the round robin of the saved networks, whatever the driver answers. -/
theorem rotate_turn (hcompact : Compact t) (hcount : 1 < t.count)
    (h : r.turn.Proper wifiRetriesPerNetwork t.count) :
    (rotate t r setConfig).turn = r.turn.next wifiRetriesPerNetwork t.count := by
  have hturn := h.next
  unfold rotate
  rw [if_pos hcount]
  unfold Turn.next at hturn ⊢
  by_cases hlast : wifiRetriesPerNetwork ≤ r.retries + 1
  · have hlast' : wifiRetriesPerNetwork ≤ r.turn.used + 1 := hlast
    rw [if_pos hlast, if_pos hlast']
    rw [if_pos hlast'] at hturn
    -- the next network is saved, so that it is applied
    obtain ⟨n, hn⟩ := Option.isSome_iff_exists.mp (hcompact _ hturn.party)
    have hget : wifiNetworksGet t (((r.current + 1) % t.count : Nat) : Int) = some n := hn
    simp only [wifiApplyNetwork, hget]
    split_ifs <;> rfl
  · have hlast' : ¬ wifiRetriesPerNetwork ≤ r.turn.used + 1 := hlast
    rw [if_neg hlast, if_neg hlast']
    rfl

/-- It keeps a driver with it that takes each configuration. -/
theorem tuned_rotate (hcompact : Compact t) (h : r.Tuned) : (rotate t r .ok).Tuned := by
  unfold rotate
  split_ifs with hcount hlast
  · have hnext : (r.current + 1) % t.count < t.count := Nat.mod_lt _ (by omega)
    obtain ⟨n, hn⟩ := Option.isSome_iff_exists.mp (hcompact _ hnext)
    have hget : wifiNetworksGet t (((r.current + 1) % t.count : Nat) : Int) = some n := hn
    simp only [wifiApplyNetwork, hget, if_true]
    rfl
  · exact h
  · exact h

/-- The rotation at each call of `esp_wifi_connect` after a failure. It is what the driver is asked
    to try, one after the other. -/
def attempts (t : CountedTable WifiNetwork wifiNetworksMax) :
    Uplink → List UplinkAct → List Rotation
  | _, [] => []
  | s, a :: as =>
    match uplinkStep t s a with
    | none => []
    | some s' =>
      if s.loop = .reconnecting ∧ s'.loop ≠ .reconnecting then s.rotation :: attempts t s' as
      else attempts t s' as

/-- No association succeeds. -/
def Uplink.Fails (s : Uplink) : UplinkAct → Prop
  | .handle _ => s.queue.head? ≠ some .gotIp
  | _ => True

instance (s : Uplink) (a : UplinkAct) : Decidable (s.Fails a) := by
  cases a <;> unfold Uplink.Fails <;> infer_instance

/-- The driver takes a configuration that the handler of an event gives it. -/
def Uplink.Takes (_ : Uplink) : UplinkAct → Prop
  | .handle answer => answer = .ok
  | _ => True

instance (s : Uplink) (a : UplinkAct) : Decidable (s.Takes a) := by
  cases a <;> unfold Uplink.Takes <;> infer_instance

/-- Resuming touches neither the rotation nor the event loop. -/
theorem resume_frame (s : Uplink) (answer : Answer) (p : Resume) :
    (s.resume t answer p).2.rotation = s.rotation ∧ (s.resume t answer p).2.loop = s.loop := by
  cases p with
  | called | seen => exact ⟨rfl, rfl⟩
  | cleared =>
    unfold Uplink.resume
    rw [connect_frame]
    split_ifs <;> exact ⟨rfl, rfl⟩

/-- Nor does the web server. -/
theorem webStep_frame (hs : s.webStep t answer = some s') :
    s'.rotation = s.rotation ∧ s'.loop = s.loop := by
  unfold Uplink.webStep Uplink.scanStart Uplink.disconnect at hs
  split at hs
  · cases hs
  · obtain rfl := Option.some.inj hs
    split <;> exact ⟨rfl, rfl⟩
  · obtain rfl := Option.some.inj hs
    exact ⟨rfl, rfl⟩
  · obtain rfl := Option.some.inj hs
    split_ifs <;> exact ⟨rfl, rfl⟩
  · obtain rfl := Option.some.inj hs
    split <;> exact ⟨rfl, rfl⟩
  · next p _ =>
    obtain rfl := Option.some.inj hs
    exact resume_frame s answer p
  · obtain rfl := Option.some.inj hs
    exact ⟨rfl, rfl⟩

/-- What a step does to the rotation: the event loop takes a failure that is not paused, or a
    success; it asks for an association after a failure; or the rotation stays as it is. -/
inductive RotationStep (t : CountedTable WifiNetwork wifiNetworksMax) (s s' : Uplink)
    (a : UplinkAct) : Prop
  | failure (answer : Answer) (ha : a = .handle answer) (hloop : s.loop = .free)
      (hrotation : s'.rotation = rotate t s.rotation answer)
      (hnext : s'.loop = if 0 < t.count then .reconnecting else .free)
  | success (answer : Answer) (ha : a = .handle answer) (hqueue : s.queue.head? = some .gotIp)
      (hrotation : s'.rotation = { s.rotation with retries := 0 })
  | attempt (hloop : s.loop = .reconnecting) (hnext : s'.loop = .free)
      (hrotation : s'.rotation = s.rotation)
  | other (hrotation : s'.rotation = s.rotation)
      (hnext : s'.loop = .reconnecting ↔ s.loop = .reconnecting)

/-- Every step is one of these: it leaves the rotation alone, starts it again, or takes its next
    turn. -/
theorem rotation_step (hs : uplinkStep t s a = some s') : RotationStep t s s' a := by
  -- The rotation moves on in the handling of a failure, starts again on success, and stays
  -- otherwise.
  cases a with
  | failed | associated | lost | scanned | scanRequest =>
    simp only [uplinkStep] at hs
    split_ifs at hs <;> obtain rfl := Option.some.inj hs <;>
      exact .other rfl Iff.rfl
  | handle answer =>
    simp only [uplinkStep] at hs
    split at hs
    · next e queue hloop hqueue =>
      obtain rfl := Option.some.inj hs
      cases e with
      | started =>
        refine .other rfl ?_
        rw [hloop]
        simp only [Uplink.handle]
        split_ifs <;> simp
      | disconnected =>
        -- While a scan has paused the station, its disconnection is no failure.
        by_cases hmanual : s.manual = true
        · simp only [Uplink.handle, hmanual, if_true]
          exact .other rfl Iff.rfl
        · simp only [Uplink.handle, hmanual]
          exact .failure answer rfl hloop rfl rfl
      | gotIp => exact .success answer rfl (by rw [hqueue]; rfl) rfl
      | scanDone => exact .other rfl (by simp [Uplink.handle, hloop])
    · cases hs
  | loop answer =>
    simp only [uplinkStep, Uplink.loopStep] at hs
    split at hs
    · cases hs
    · next hloop =>
      obtain rfl := Option.some.inj hs
      refine .other ?_ (by simp [hloop])
      rw [connect_frame]
    -- The attempt itself is the loop's last step.
    · next hloop =>
      obtain rfl := Option.some.inj hs
      refine .attempt hloop rfl ?_
      rw [connect_frame]
    · next p hloop =>
      obtain rfl := Option.some.inj hs
      refine .other (resume_frame s answer p).1 ?_
      show (s.resume t answer p).1.elim LoopPhase.free LoopPhase.resuming = .reconnecting ↔ _
      rw [hloop]
      cases (s.resume t answer p).1 <;> simp
  | web answer =>
    obtain ⟨hrotation, hloop⟩ := webStep_frame hs
    exact .other hrotation (by rw [hloop])

/-- The turn stays a proper one, whatever happens. -/
theorem proper_step (hcompact : Compact t) (hcount : 1 < t.count) (hs : uplinkStep t s a = some s')
    (h : s.rotation.turn.Proper wifiRetriesPerNetwork t.count) :
    s'.rotation.turn.Proper wifiRetriesPerNetwork t.count := by
  cases rotation_step hs with
  | failure _ _ _ hrotation =>
    rw [hrotation, rotate_turn hcompact hcount h]
    exact h.next
  | success _ _ _ hrotation =>
    rw [hrotation]
    exact ⟨h.party, Nat.succ_pos 4⟩
  | attempt _ _ hrotation | other hrotation =>
    rw [hrotation]
    exact h

/-- The driver stays with the rotation as long as it takes the configurations. -/
theorem tuned_step (hcompact : Compact t) (htakes : s.Takes a) (hs : uplinkStep t s a = some s')
    (h : s.rotation.Tuned) : s'.rotation.Tuned := by
  cases rotation_step hs with
  | failure answer ha _ hrotation =>
    rw [ha] at htakes
    obtain rfl : answer = .ok := htakes
    rw [hrotation]
    exact tuned_rotate hcompact h
  | success _ _ _ hrotation | attempt _ _ hrotation | other hrotation =>
    rw [hrotation]
    exact h

/-- The network of the next attempts: of the present turn if an attempt is due, else one failure
    later. -/
def Uplink.due (t : CountedTable WifiNetwork wifiNetworksMax) (s : Uplink) (k : Nat) : Nat :=
  ((Turn.next wifiRetriesPerNetwork t.count)^[if s.loop = .reconnecting then k else k + 1]
    s.rotation.turn).party

/-- **The attempts of a run**: as long as none succeeds, they follow the round robin. By induction
    on the run, along `rotation_step`. -/
theorem attempts_eq (hcompact : Compact t) (hcount : 1 < t.count)
    (hproper : s.rotation.turn.Proper wifiRetriesPerNetwork t.count)
    (hfails : (uplinkMachine t).Meets Uplink.Fails s as) :
    (attempts t s as).map Rotation.current =
      (List.range (attempts t s as).length).map (s.due t) := by
  induction as generalizing s with
  | nil => rfl
  | cons a as ih =>
    unfold attempts
    cases hs : uplinkStep t s a with
    | none => rfl
    | some s' =>
      have hrest := ih (proper_step hcompact hcount hs hproper)
        ((Machine.meets_cons (M := uplinkMachine t) hs).mp hfails).2
      cases rotation_step hs with
      | failure answer ha hloop hrotation hnext =>
        -- the failure is counted and its attempt is due
        have hdue : s'.due t = s.due t := by
          funext k
          unfold Uplink.due
          rw [hnext, if_pos (by omega : 0 < t.count), if_pos rfl, hloop, if_neg (by simp),
            hrotation, rotate_turn hcompact hcount hproper, Function.iterate_succ_apply]
        simp only [hloop, reduceCtorEq, false_and, if_false]
        rw [← hdue]
        exact hrest
      | success answer ha hqueue =>
        have hnone := hfails.1
        rw [ha] at hnone
        exact absurd hqueue hnone
      | attempt hloop hnext hrotation =>
        have hdue : ∀ k, s'.due t k = s.due t (k + 1) := by
          intro k
          unfold Uplink.due
          rw [hnext, if_neg (by simp), hloop, if_pos rfl, hrotation]
        have hfirst : s.rotation.current = s.due t 0 := by
          unfold Uplink.due
          rw [hloop, if_pos rfl]
          rfl
        simp only [hloop, hnext, ne_eq, reduceCtorEq, not_false_eq_true, and_self, if_true,
          List.length_cons, List.map_cons]
        rw [List.range_succ_eq_map, List.map_cons, List.map_map, ← hfirst]
        congr 1
        exact hrest.trans (List.map_congr_left fun k _ => hdue k)
      | other hrotation hnext =>
        have hdue : s'.due t = s.due t := by
          funext k
          unfold Uplink.due
          simp only [hnext, hrotation]
        have hquiet : ¬ (s.loop = .reconnecting ∧ s'.loop ≠ .reconnecting) := fun h =>
          h.2 (hnext.mpr h.1)
        simp only [if_neg hquiet]
        rw [← hdue]
        exact hrest

/-- While the driver takes the configurations, it is set to the network whose turn it is. -/
theorem tuned_attempts (hcompact : Compact t) (htuned : s.rotation.Tuned)
    (htakes : (uplinkMachine t).Meets Uplink.Takes s as) :
    ∀ r ∈ attempts t s as, r.Tuned := by
  induction as generalizing s with
  | nil => exact fun _ hr => absurd hr List.not_mem_nil
  | cons a as ih =>
    intro r hr
    unfold attempts at hr
    cases hs : uplinkStep t s a with
    | none => simp [hs] at hr
    | some s' =>
      simp only [hs] at hr
      obtain ⟨htake, hlater⟩ := (Machine.meets_cons (M := uplinkMachine t) hs).mp htakes
      have hrest := ih (tuned_step hcompact htake hs htuned) hlater
      split_ifs at hr
      · rcases List.mem_cons.mp hr with rfl | hmem
        · exact htuned
        · exact hrest r hmem
      · exact hrest r hr

/-- An association fails, and the next one is asked for. -/
def failOnce : List UplinkAct := [.failed, .handle .ok, .loop .ok]

/-- The station is started, and two associations fail. -/
def failedTwice : List UplinkAct := [.handle .ok, .loop .ok] ++ failOnce ++ failOnce

end SubnetRouter.Wifi
