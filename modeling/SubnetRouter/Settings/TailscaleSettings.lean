import SubnetRouter.Settings.Json
import SubnetRouter.Settings.MultiKey

namespace SubnetRouter.Settings

open Lib

/-!
# Live and stored Tailscale settings (`main/web_ui.c`, `main/tailscale_manager.c`)

`tailscale_save_handler` writes each setting of a request twice, to its global and to NVS;
`tailscale_init` reads NVS at the next boot, and checks the ranges of three numbers that the
handler does not check.

* `TailscaleGlobals`, `tailscaleInit` — the settings, and what the next boot makes of NVS.
* `tailscaleSaveHandler` — a save.
* `LoadsAlike` — each setting that is sent is in the range that the boot accepts, each that is
  not sent is what the boot loads already.
* `live_eq_boot_iff` — when the live settings are those of the next boot.
* `live_eq_boot_of_inRange` — after a boot and saves whose numbers are in range they are.
-/

/-! ### The settings -/

/-- The globals of `tailscale_manager.c` that hold settings. The flags are `int`s, as they are
    there. -/
structure TailscaleGlobals where
  tailscaleEnabled : Int32
  tailscaleAuthKey : List Char
  tailscaleHostname : List Char
  tailscaleLoginServer : List Char
  tailscaleAdvertiseRoutes : List Char
  tailscaleAdvertiseExitNode : Int32
  tailscaleMaxPeers : Int32
  tailscaleExitNodeIp : Ip4
  tailscaleNetcheckOverride : Int32
  tailscaleNetcheckThresholdMs : Int32
  tailscaleDefaultDerpRegion : Int32
  tailscaleLanBypass : Int32
  tailscaleAcceptRoutes : Int32
  tailscaleSnatSubnetRoutes : Int32
deriving DecidableEq

attribute [ext] TailscaleGlobals

/-- `(v ? 1 : 0)`. -/
def intFlag (on : Bool) : Int32 := if on then 1 else 0

/-- A text, or the empty text: `nvs_str_or_empty`. -/
def loadText (value : Option NvsValue) : List Char := (nvsParamGetStr value).getD []

/-- A number that is in range, over the initial value of its global. -/
def loadInt (valid : Int32 → Bool) (otherwise : Int32) (value : Option NvsValue) : Int32 :=
  match nvsParamGetInt value with
  | some v => if valid v then v else otherwise
  | none => otherwise

/-- A flag, over the initial value of its global. -/
def loadIntFlag (otherwise : Int32) (value : Option NvsValue) : Int32 :=
  match nvsParamGetInt value with
  | some v => intFlag (v ≠ 0)
  | none => otherwise

/-- An address, kept as a signed number. -/
def loadAddress (value : Option NvsValue) : Ip4 :=
  match nvsParamGetInt value with
  | some v => v.toBitVec
  | none => 0

/-- The ranges that `tailscale_init` checks. -/
def maxPeersValid (v : Int32) : Bool := 1 ≤ v && v ≤ 64
def netcheckThresholdValid (v : Int32) : Bool := 0 ≤ v && v ≤ 5000
def derpRegionValid (v : Int32) : Bool := 0 ≤ v && v ≤ 65535

/-- `tailscale_init` on fresh globals; `result` is that of its own write. It writes only where both
    exit-node settings are stored. -/
def tailscaleInit (nvs : Nvs) (result : EspErr) : TailscaleGlobals × Nvs :=
  let exitNodeIp := loadAddress (nvs "ts_exit_node")
  let advertiseExitNode := loadIntFlag 0 (nvs "ts_adv_exit")
  -- the older selection wins over the newer advertisement
  let conflict := advertiseExitNode ≠ 0 ∧ exitNodeIp ≠ 0#32
  ({ tailscaleEnabled := loadInt (fun _ => true) 0 (nvs "ts_enabled")
     tailscaleAuthKey := loadText (nvs "ts_authkey")
     tailscaleHostname := loadText (nvs "ts_hostname")
     tailscaleLoginServer := loadText (nvs "ts_login")
     tailscaleAdvertiseRoutes := loadText (nvs "ts_routes")
     tailscaleAdvertiseExitNode := if conflict then 0 else advertiseExitNode
     tailscaleMaxPeers := loadInt maxPeersValid 16 (nvs "ts_maxpeers")
     tailscaleExitNodeIp := exitNodeIp
     tailscaleNetcheckOverride := loadIntFlag 0 (nvs "ts_nc_ovr")
     tailscaleNetcheckThresholdMs := loadInt netcheckThresholdValid 100 (nvs "ts_nc_thr")
     tailscaleDefaultDerpRegion := loadInt derpRegionValid 0 (nvs "ts_def_derp")
     tailscaleLanBypass := loadIntFlag 1 (nvs "ts_lan_bp")
     tailscaleAcceptRoutes := loadIntFlag 0 (nvs "ts_acpt_rt")
     tailscaleSnatSubnetRoutes := loadIntFlag 0 (nvs "ts_snat_sr") },
    if conflict then (nvsParamSet nvs "ts_adv_exit" (.i32 0) result).2 else nvs)

/-! ### A save -/

/-- What a request sends: a setting that is left out, or has another type, is `none`. Such a setting
    is not changed. -/
structure TailscaleRequest where
  enabled : Option Bool
  authKey : Option (List Char)
  hostname : Option (List Char)
  loginServer : Option (List Char)
  advertiseRoutes : Option (List Char)
  advertiseExitNode : Option Bool
  maxPeers : Option Int32
  exitNodeIp : Option (List Char)
  netcheckOverride : Option Bool
  netcheckThresholdMs : Option Int32
  defaultDerpRegion : Option Int32
  lanBypass : Option Bool
  acceptRoutes : Option Bool
  snatSubnetRoutes : Option Bool

/-- The settings object of a body. Texts end at the first null character, as they are C strings from
    then on. -/
def tailscaleRequest (s : Json) : TailscaleRequest where
  enabled := Json.asBool (s.getObjectItem "enabled")
  authKey := (s.stringItem "auth_key").map CString.visible
  hostname := (s.stringItem "hostname").map CString.visible
  loginServer := (s.stringItem "login_server").map CString.visible
  advertiseRoutes := (s.stringItem "advertise_routes").map CString.visible
  advertiseExitNode := Json.asBool (s.getObjectItem "advertise_exit_node")
  maxPeers := Json.asInt32 (s.getObjectItem "max_peers")
  exitNodeIp := (s.stringItem "exit_node_ip").map CString.visible
  netcheckOverride := Json.asBool (s.getObjectItem "netcheck_override")
  netcheckThresholdMs := Json.asInt32 (s.getObjectItem "netcheck_threshold_ms")
  defaultDerpRegion := Json.asInt32 (s.getObjectItem "default_derp_region")
  lanBypass := Json.asBool (s.getObjectItem "lan_bypass")
  acceptRoutes := Json.asBool (s.getObjectItem "accept_routes")
  snatSubnetRoutes := Json.asBool (s.getObjectItem "snat_subnet_routes")

/-- A request that sends nothing. -/
def TailscaleRequest.empty : TailscaleRequest :=
  ⟨none, none, none, none, none, none, none, none, none, none, none, none, none, none⟩

/-- The globals, the 4via6 settings in force, and NVS. -/
structure TailscaleState where
  live : TailscaleGlobals
  fourvia6 : Fourvia6Config
  nvs : Nvs

/-- The address that a request selects, in host order; an empty text clears it. -/
def TailscaleRequest.selected (aton : List Char → Option Ip4) (req : TailscaleRequest) :
    Option Ip4 :=
  req.exitNodeIp.bind fun text => if text = [] then some 0#32 else aton text

/-- The checks before any write: the text of the error, if there is one. They are about the settings
    as they will be, taken from the request where it has them and from RAM elsewhere. -/
def exitNodeError (aton : List Char → Option Ip4) (live : TailscaleGlobals)
    (req : TailscaleRequest) : Option String :=
  let wantAdvertiseExit := req.advertiseExitNode.getD (live.tailscaleAdvertiseExitNode ≠ 0)
  let conflict := some "cannot advertise and use an exit node at the same time"
  match req.exitNodeIp with
  | none =>
    if wantAdvertiseExit ∧ live.tailscaleExitNodeIp ≠ 0#32 then conflict else none
  | some text =>
    if text = [] then none
    else if aton text = none then some "invalid exit node IP"
    else if wantAdvertiseExit then conflict
    else none

/-- The globals after the assignments. A setting that the request leaves out stays. -/
def refresh (aton : List Char → Option Ip4) (live : TailscaleGlobals) (req : TailscaleRequest) :
    TailscaleGlobals where
  tailscaleEnabled := (req.enabled.map intFlag).getD live.tailscaleEnabled
  tailscaleAuthKey := req.authKey.getD live.tailscaleAuthKey
  tailscaleHostname := req.hostname.getD live.tailscaleHostname
  tailscaleLoginServer := req.loginServer.getD live.tailscaleLoginServer
  tailscaleAdvertiseRoutes := req.advertiseRoutes.getD live.tailscaleAdvertiseRoutes
  tailscaleAdvertiseExitNode :=
    (req.advertiseExitNode.map intFlag).getD live.tailscaleAdvertiseExitNode
  tailscaleMaxPeers := req.maxPeers.getD live.tailscaleMaxPeers
  tailscaleExitNodeIp := (req.selected aton).getD live.tailscaleExitNodeIp
  tailscaleNetcheckOverride :=
    (req.netcheckOverride.map intFlag).getD live.tailscaleNetcheckOverride
  tailscaleNetcheckThresholdMs :=
    req.netcheckThresholdMs.getD live.tailscaleNetcheckThresholdMs
  tailscaleDefaultDerpRegion := req.defaultDerpRegion.getD live.tailscaleDefaultDerpRegion
  tailscaleLanBypass := (req.lanBypass.map intFlag).getD live.tailscaleLanBypass
  tailscaleAcceptRoutes := (req.acceptRoutes.map intFlag).getD live.tailscaleAcceptRoutes
  tailscaleSnatSubnetRoutes :=
    (req.snatSubnetRoutes.map intFlag).getD live.tailscaleSnatSubnetRoutes

/-- The values that are written, by key. The order is that of the source. -/
def TailscaleRequest.written (aton : List Char → Option Ip4) (req : TailscaleRequest) :
    List (String × Option NvsValue) :=
  let flag (item : Option Bool) := item.map fun on => NvsValue.i32 (intFlag on)
  [("ts_enabled", flag req.enabled),
    ("ts_authkey", req.authKey.map .str),
    ("ts_hostname", req.hostname.map .str),
    ("ts_login", req.loginServer.map .str),
    ("ts_routes", req.advertiseRoutes.map .str),
    ("ts_maxpeers", req.maxPeers.map .i32),
    ("ts_def_derp", req.defaultDerpRegion.map .i32),
    ("ts_nc_thr", req.netcheckThresholdMs.map .i32),
    ("ts_nc_ovr", flag req.netcheckOverride),
    ("ts_lan_bp", flag req.lanBypass),
    ("ts_acpt_rt", flag req.acceptRoutes),
    ("ts_snat_sr", flag req.snatSubnetRoutes),
    ("ts_adv_exit", flag req.advertiseExitNode),
    ("ts_exit_node", (req.selected aton).map fun ip => .i32 (Int32.ofBitVec ip))]

/-- Write the values that are there; every write succeeds. -/
def writeIfPresent (nvs : Nvs) (items : List (String × Option NvsValue)) : Nvs :=
  items.foldl (fun nvs item => match item.2 with
    | some v => (nvsParamSet nvs item.1 v espOk).2
    | none => nvs) nvs

/-- The 4via6 part of a request: the settings it asks for, over those in force. All its writes
    succeed here. -/
def fourvia6Part (s : TailscaleState) (v6 : Json) : EspErr × TailscaleState :=
  let enabled := (Json.asBool (v6.getObjectItem "enabled")).getD s.fourvia6.sEnabled
  let lan := ((v6.stringItem "lan_cidr").map CString.visible).getD s.fourvia6.sLanCidr.text
  let site := ((Json.asValueint (v6.getObjectItem "site_id")).map Int32.toInt).getD
    s.fourvia6.sSiteId.toNat
  if site < 0 ∨ 65535 < site then (espErrInvalidArg, s)
  else
    let saved := fourvia6SetConfig s.fourvia6 s.nvs enabled (some lan) (UInt16.ofInt site)
      fun _ => espOk
    (saved.1, { s with fourvia6 := saved.2.1, nvs := saved.2.2 })

/-- `tailscale_save_handler` on the settings of a parsed body, when all writes succeed: whether
    it accepts the body, and the state it leaves. -/
def tailscaleSaveHandler (aton : List Char → Option Ip4) (s : TailscaleState) (root : Json) :
    Bool × TailscaleState :=
  match Json.asObject (root.getObjectItem "settings") with
  | none => (true, s)
  | some settings =>
    let req := tailscaleRequest settings
    match exitNodeError aton s.live req with
    | some _ => (false, s)
    | none =>
      let s := { s with
        live := refresh aton s.live req
        nvs := writeIfPresent s.nvs (req.written aton) }
      match Json.asObject (settings.getObjectItem "fourvia6") with
      | none => (true, s)
      | some v6 =>
        let saved := fourvia6Part s v6
        (saved.1 = espOk, saved.2)

/-! ### What is in NVS after a save -/

variable {aton : List Char → Option Ip4} {req : TailscaleRequest} {s : TailscaleState}
  {nvs nvs' : Nvs} {items : List (String × Option NvsValue)} {key : String}

theorem writeIfPresent_cons_none (k : String) :
    writeIfPresent nvs ((k, none) :: items) = writeIfPresent nvs items := rfl

theorem writeIfPresent_cons_some (k : String) (v : NvsValue) :
    writeIfPresent nvs ((k, some v) :: items) =
      writeIfPresent (Function.update nvs k (some v)) items := rfl

/-- A key that is not among the items keeps its value. -/
theorem writeIfPresent_of_notMem (h : key ∉ items.map Prod.fst) :
    writeIfPresent nvs items key = nvs key := by
  induction items generalizing nvs with
  | nil => rfl
  | cons item items ih =>
    rw [List.map_cons, List.mem_cons, not_or] at h
    rcases item with ⟨k, _ | v⟩
    · rw [writeIfPresent_cons_none, ih h.2]
    · rw [writeIfPresent_cons_some, ih h.2, Function.update_of_ne h.1]

/-- A key has the value that was sent for it, or keeps its own. -/
theorem writeIfPresent_of_mem (hnodup : (items.map Prod.fst).Nodup) {v : Option NvsValue}
    (h : (key, v) ∈ items) : writeIfPresent nvs items key = v.or (nvs key) := by
  induction items generalizing nvs with
  | nil => cases h
  | cons item items ih =>
    rw [List.map_cons, List.nodup_cons] at hnodup
    rcases List.mem_cons.mp h with rfl | hmem
    · cases v with
      | none => rw [writeIfPresent_cons_none, writeIfPresent_of_notMem hnodup.1, Option.none_or]
      | some v =>
        rw [writeIfPresent_cons_some, writeIfPresent_of_notMem hnodup.1, Function.update_self,
          Option.some_or]
    · have hne : key ≠ item.1 := fun heq => hnodup.1 (heq ▸ List.mem_map_of_mem hmem)
      rcases item with ⟨k, _ | w⟩
      · rw [writeIfPresent_cons_none, ih hnodup.2 hmem]
      · rw [writeIfPresent_cons_some, ih hnodup.2 hmem, Function.update_of_ne hne]

theorem written_nodup (aton : List Char → Option Ip4) (req : TailscaleRequest) :
    ((req.written aton).map Prod.fst).Nodup := by
  show ["ts_enabled", "ts_authkey", "ts_hostname", "ts_login", "ts_routes", "ts_maxpeers",
    "ts_def_derp", "ts_nc_thr", "ts_nc_ovr", "ts_lan_bp", "ts_acpt_rt", "ts_snat_sr",
    "ts_adv_exit", "ts_exit_node"].Nodup
  decide

/-- The keys that `tailscale_init` reads. -/
def tailscaleKeys : List String :=
  ["ts_enabled", "ts_authkey", "ts_hostname", "ts_login", "ts_routes", "ts_adv_exit",
    "ts_maxpeers", "ts_exit_node", "ts_nc_ovr", "ts_nc_thr", "ts_def_derp", "ts_lan_bp",
    "ts_acpt_rt", "ts_snat_sr"]

/-- No other key matters. -/
theorem tailscaleInit_congr (h : ∀ k ∈ tailscaleKeys, nvs k = nvs' k) (r r' : EspErr) :
    (tailscaleInit nvs r).1 = (tailscaleInit nvs' r').1 := by
  simp only [tailscaleKeys, List.forall_mem_cons] at h
  simp only [tailscaleInit, h]

/-- The 4via6 part changes neither the globals nor the keys of the other settings. -/
theorem fourvia6Part_keeps (s : TailscaleState) (v6 : Json) :
    (fourvia6Part s v6).2.live = s.live ∧
      ∀ k ∈ tailscaleKeys, (fourvia6Part s v6).2.nvs k = s.nvs k := by
  have hkeys : ∀ k ∈ tailscaleKeys, k ∉ ["ts_4v6_en", "ts_4v6_lan", "ts_4v6_site"] := by decide
  unfold fourvia6Part
  dsimp only
  split
  · exact ⟨rfl, fun _ _ => rfl⟩
  · exact ⟨rfl, fun k hk => fourvia6SetConfig_nvs (hkeys k hk)⟩

/-! ### One setting -/

variable {item : Option Bool} {text : Option (List Char)} {number : Option Int32}
  {live dflt : Int32} {old : Option NvsValue}

theorem loadIntFlag_intFlag (on : Bool) :
    loadIntFlag dflt (some (.i32 (intFlag on))) = intFlag on := by
  cases on <;> rfl

/-- A flag that is sent is loaded as it is; one that is not sent must have been. -/
theorem flag_alike_iff :
    (item.map intFlag).getD live =
        loadIntFlag dflt ((item.map fun on => NvsValue.i32 (intFlag on)).or old) ↔
      (item = none → live = loadIntFlag dflt old) := by
  cases item with
  | none => simp
  | some on =>
    simp only [Option.map_some, Option.getD_some, Option.some_or, reduceCtorEq, false_imp_iff,
      iff_true]
    exact (loadIntFlag_intFlag on).symm

/-- The same for a text. -/
theorem text_alike_iff {live : List Char} :
    text.getD live = loadText ((text.map NvsValue.str).or old) ↔
      (text = none → live = loadText old) := by
  cases text with
  | none => simp
  | some t => simp [loadText, nvsParamGetStr]

/-- A number that is sent must be in range. -/
theorem number_alike_iff {valid : Int32 → Bool} (hdflt : valid dflt = true) :
    number.getD live = loadInt valid dflt ((number.map NvsValue.i32).or old) ↔
      (∀ v ∈ number, valid v = true) ∧ (number = none → live = loadInt valid dflt old) := by
  cases number with
  | none => simp
  | some v =>
    simp only [Option.getD_some, Option.map_some, Option.some_or, Option.mem_some_iff,
      forall_eq', reduceCtorEq, false_imp_iff, and_true]
    rw [loadInt, nvsParamGetInt]
    cases hv : valid v with
    | true => simp [hv]
    | false =>
      simp only [hv, Bool.false_eq_true, if_false, iff_false]
      rintro rfl
      simp [hdflt] at hv

/-- The same for the address. -/
theorem address_alike_iff {ip : Option Ip4} {live : Ip4} :
    ip.getD live = loadAddress ((ip.map fun a => NvsValue.i32 (Int32.ofBitVec a)).or old) ↔
      (ip = none → live = loadAddress old) := by
  cases ip with
  | none => simp
  | some a => simp [loadAddress, nvsParamGetInt]

/-! ### All settings -/

/-- The stored value of a key after the writes of a request. -/
theorem written_apply {v : Option NvsValue} (h : (key, v) ∈ req.written aton) :
    writeIfPresent nvs (req.written aton) key = v.or (nvs key) :=
  writeIfPresent_of_mem (written_nodup aton req) h

/-- Each number that is sent is in the range that the boot accepts, and each setting that is not
    sent is what the boot loads already.  A stored advertisement counts only without an exit
    node, which may be the one that the request selects. -/
structure LoadsAlike (aton : List Char → Option Ip4) (live : TailscaleGlobals) (nvs : Nvs)
    (req : TailscaleRequest) : Prop where
  enabled : req.enabled = none →
    live.tailscaleEnabled = loadInt (fun _ => true) 0 (nvs "ts_enabled")
  authKey : req.authKey = none → live.tailscaleAuthKey = loadText (nvs "ts_authkey")
  hostname : req.hostname = none → live.tailscaleHostname = loadText (nvs "ts_hostname")
  loginServer : req.loginServer = none → live.tailscaleLoginServer = loadText (nvs "ts_login")
  advertiseRoutes : req.advertiseRoutes = none →
    live.tailscaleAdvertiseRoutes = loadText (nvs "ts_routes")
  advertiseExitNode : req.advertiseExitNode = none →
    live.tailscaleAdvertiseExitNode =
      if loadIntFlag 0 (nvs "ts_adv_exit") ≠ 0 ∧
          (req.selected aton).getD live.tailscaleExitNodeIp ≠ 0#32 then 0
      else loadIntFlag 0 (nvs "ts_adv_exit")
  maxPeers : (∀ v ∈ req.maxPeers, maxPeersValid v = true) ∧
    (req.maxPeers = none → live.tailscaleMaxPeers = loadInt maxPeersValid 16 (nvs "ts_maxpeers"))
  exitNodeIp : req.selected aton = none →
    live.tailscaleExitNodeIp = loadAddress (nvs "ts_exit_node")
  netcheckOverride : req.netcheckOverride = none →
    live.tailscaleNetcheckOverride = loadIntFlag 0 (nvs "ts_nc_ovr")
  netcheckThresholdMs : (∀ v ∈ req.netcheckThresholdMs, netcheckThresholdValid v = true) ∧
    (req.netcheckThresholdMs = none → live.tailscaleNetcheckThresholdMs =
      loadInt netcheckThresholdValid 100 (nvs "ts_nc_thr"))
  defaultDerpRegion : (∀ v ∈ req.defaultDerpRegion, derpRegionValid v = true) ∧
    (req.defaultDerpRegion = none → live.tailscaleDefaultDerpRegion =
      loadInt derpRegionValid 0 (nvs "ts_def_derp"))
  lanBypass : req.lanBypass = none →
    live.tailscaleLanBypass = loadIntFlag 1 (nvs "ts_lan_bp")
  acceptRoutes : req.acceptRoutes = none →
    live.tailscaleAcceptRoutes = loadIntFlag 0 (nvs "ts_acpt_rt")
  snatSubnetRoutes : req.snatSubnetRoutes = none →
    live.tailscaleSnatSubnetRoutes = loadIntFlag 0 (nvs "ts_snat_sr")

/-- A request that passes the checks selects no exit node while one is advertised. -/
theorem selected_eq_zero {live : TailscaleGlobals} (h : exitNodeError aton live req = none)
    (hadvertise : req.advertiseExitNode.getD (live.tailscaleAdvertiseExitNode ≠ 0) = true) :
    (req.selected aton).getD live.tailscaleExitNodeIp = 0#32 := by
  unfold exitNodeError at h
  unfold TailscaleRequest.selected
  rw [hadvertise] at h
  cases htext : req.exitNodeIp with
  | none => simpa [htext] using h
  | some text =>
    by_cases hempty : text = []
    · simp [hempty]
    · cases haddr : aton text with
      | none => simp [htext, hempty, haddr] at h
      | some ip => simp [htext, hempty, haddr] at h

/-- `ts_enabled` is loaded as a number, whatever it is. -/
theorem enabled_alike_iff :
    (item.map intFlag).getD live =
        loadInt (fun _ => true) dflt ((item.map fun on => NvsValue.i32 (intFlag on)).or old) ↔
      (item = none → live = loadInt (fun _ => true) dflt old) := by
  cases item with
  | none => simp
  | some on => simp [loadInt, nvsParamGetInt]

/-- What the next boot loads after the writes of a request: for each key the value that was sent, or
    else the one that was there. -/
theorem tailscaleInit_written (aton : List Char → Option Ip4) (nvs : Nvs) (req : TailscaleRequest)
    (r : EspErr) :
    let flag (item : Option Bool) := item.map fun on => NvsValue.i32 (intFlag on)
    let ip := (req.selected aton).map fun a => NvsValue.i32 (Int32.ofBitVec a)
    let advertised := loadIntFlag 0 ((flag req.advertiseExitNode).or (nvs "ts_adv_exit"))
    (tailscaleInit (writeIfPresent nvs (req.written aton)) r).1 =
      { tailscaleEnabled := loadInt (fun _ => true) 0 ((flag req.enabled).or (nvs "ts_enabled"))
        tailscaleAuthKey := loadText ((req.authKey.map .str).or (nvs "ts_authkey"))
        tailscaleHostname := loadText ((req.hostname.map .str).or (nvs "ts_hostname"))
        tailscaleLoginServer := loadText ((req.loginServer.map .str).or (nvs "ts_login"))
        tailscaleAdvertiseRoutes :=
          loadText ((req.advertiseRoutes.map .str).or (nvs "ts_routes"))
        tailscaleAdvertiseExitNode :=
          if advertised ≠ 0 ∧ loadAddress (ip.or (nvs "ts_exit_node")) ≠ 0#32 then 0
          else advertised
        tailscaleMaxPeers :=
          loadInt maxPeersValid 16 ((req.maxPeers.map .i32).or (nvs "ts_maxpeers"))
        tailscaleExitNodeIp := loadAddress (ip.or (nvs "ts_exit_node"))
        tailscaleNetcheckOverride :=
          loadIntFlag 0 ((flag req.netcheckOverride).or (nvs "ts_nc_ovr"))
        tailscaleNetcheckThresholdMs := loadInt netcheckThresholdValid 100
          ((req.netcheckThresholdMs.map .i32).or (nvs "ts_nc_thr"))
        tailscaleDefaultDerpRegion :=
          loadInt derpRegionValid 0 ((req.defaultDerpRegion.map .i32).or (nvs "ts_def_derp"))
        tailscaleLanBypass := loadIntFlag 1 ((flag req.lanBypass).or (nvs "ts_lan_bp"))
        tailscaleAcceptRoutes := loadIntFlag 0 ((flag req.acceptRoutes).or (nvs "ts_acpt_rt"))
        tailscaleSnatSubnetRoutes :=
          loadIntFlag 0 ((flag req.snatSubnetRoutes).or (nvs "ts_snat_sr")) } := by
  intro flag ip advertised
  -- every key reads what the request wrote to it, or else what was there
  have hread : ∀ w ∈ req.written aton,
      writeIfPresent nvs (req.written aton) w.1 = w.2.or (nvs w.1) := fun w h => written_apply h
  simp only [TailscaleRequest.written, List.forall_mem_cons] at hread
  obtain ⟨h1, h2, h3, h4, h5, h6, h7, h8, h9, h10, h11, h12, h13, h14, -⟩ := hread
  simp only [TailscaleRequest.written] at *
  simp only [tailscaleInit, h1, h2, h3, h4, h5, h6, h7, h8, h9, h10, h11, h12, h13, h14]
  rfl

/-- The advertisement, for the address that is selected after the request. -/
theorem advertised_alike_iff {ip : Ip4} (hclear : item = some true → ip = 0#32) :
    (item.map intFlag).getD live =
        (if loadIntFlag 0 ((item.map fun on => NvsValue.i32 (intFlag on)).or old) ≠ 0 ∧
            ip ≠ 0#32 then 0
          else loadIntFlag 0 ((item.map fun on => NvsValue.i32 (intFlag on)).or old)) ↔
      (item = none → live = if loadIntFlag 0 old ≠ 0 ∧ ip ≠ 0#32 then 0
        else loadIntFlag 0 old) := by
  cases item with
  | none => rw [forall_prop_of_true rfl]; rfl
  | some on =>
    simp only [Option.map_some, Option.some_or, loadIntFlag_intFlag]
    cases on with
    | false => simp [intFlag]
    | true => simp [hclear rfl]

/-- **After the writes of a request** that passes its checks, the globals are those that the next
    boot loads exactly if the request and the settings from before load alike. -/
theorem refresh_eq_tailscaleInit_iff {live : TailscaleGlobals} (r : EspErr)
    (hclear : req.advertiseExitNode = some true →
      (req.selected aton).getD live.tailscaleExitNodeIp = 0#32) :
    refresh aton live req = (tailscaleInit (writeIfPresent nvs (req.written aton)) r).1 ↔
      LoadsAlike aton live nvs req := by
  rw [tailscaleInit_written, refresh, TailscaleGlobals.mk.injEq]
  dsimp only
  -- the address first: the advertisement depends on it
  rw [enabled_alike_iff, text_alike_iff, text_alike_iff, text_alike_iff, text_alike_iff,
    number_alike_iff (by decide), address_alike_iff, flag_alike_iff, number_alike_iff (by decide),
    number_alike_iff (by decide), flag_alike_iff, flag_alike_iff, flag_alike_iff]
  constructor
  · rintro ⟨h1, h2, h3, h4, h5, hadv, h7, hip, h9, h10, h11, h12, h13, h14⟩
    rw [← address_alike_iff.mpr hip, advertised_alike_iff hclear] at hadv
    exact ⟨h1, h2, h3, h4, h5, hadv, h7, hip, h9, h10, h11, h12, h13, h14⟩
  · rintro ⟨h1, h2, h3, h4, h5, hadv, h7, hip, h9, h10, h11, h12, h13, h14⟩
    refine ⟨h1, h2, h3, h4, h5, ?_, h7, hip, h9, h10, h11, h12, h13, h14⟩
    rwa [← address_alike_iff.mpr hip, advertised_alike_iff hclear]

/-! ### A save -/

/-- The request of a body; one without a settings object sends nothing. -/
def bodyRequest (root : Json) : TailscaleRequest :=
  ((Json.asObject (root.getObjectItem "settings")).map tailscaleRequest).getD .empty

/-- **What a save does.** It leaves everything alone, or it makes the assignments and the writes
    of a request that passes the checks; its 4via6 part touches none of these. -/
theorem tailscaleSaveHandler_cases (aton : List Char → Option Ip4) (s : TailscaleState)
    (root : Json) :
    let req := bodyRequest root
    let saved := tailscaleSaveHandler aton s root
    saved.2 = s ∧ (saved.1 = true → req = .empty) ∨
      exitNodeError aton s.live req = none ∧ saved.2.live = refresh aton s.live req ∧
        ∀ k ∈ tailscaleKeys, saved.2.nvs k = writeIfPresent s.nvs (req.written aton) k := by
  unfold tailscaleSaveHandler bodyRequest
  cases Json.asObject (root.getObjectItem "settings") with
  | none => exact .inl ⟨rfl, fun _ => rfl⟩
  | some settings =>
    simp only [Option.map_some, Option.getD_some]
    cases herr : exitNodeError aton s.live (tailscaleRequest settings) with
    | some _ => exact .inl ⟨rfl, nofun⟩
    | none =>
      refine .inr ⟨rfl, ?_⟩
      cases Json.asObject (settings.getObjectItem "fourvia6") with
      | none => exact ⟨rfl, fun _ _ => rfl⟩
      | some v6 => exact fourvia6Part_keeps _ v6

/-- **A save and the next boot.** After a body that is accepted the globals are what the next
    boot loads exactly if each number that it sends is in the range that the boot accepts and
    each setting that it leaves out was loaded alike before. -/
theorem live_eq_boot_iff (aton : List Char → Option Ip4) (s : TailscaleState) (root : Json)
    (r : EspErr) :
    ((tailscaleSaveHandler aton s root).1 = true →
        (tailscaleSaveHandler aton s root).2.live =
          (tailscaleInit (tailscaleSaveHandler aton s root).2.nvs r).1) ↔
      ((tailscaleSaveHandler aton s root).1 = true →
        LoadsAlike aton s.live s.nvs (bodyRequest root)) := by
  refine imp_congr_right fun haccepted => ?_
  rcases tailscaleSaveHandler_cases aton s root with ⟨hsame, hempty⟩ | ⟨hchecked, hlive, hkeys⟩
  · -- no settings object: as if a request without settings were saved
    rw [hsame, hempty haccepted]
    show refresh aton s.live .empty =
      (tailscaleInit (writeIfPresent s.nvs (TailscaleRequest.empty.written aton)) r).1 ↔ _
    exact refresh_eq_tailscaleInit_iff r nofun
  · rw [hlive, tailscaleInit_congr hkeys r r]
    exact refresh_eq_tailscaleInit_iff r fun h => selected_eq_zero hchecked (by rw [h]; rfl)

/-! ### Saves in a row -/

/-- The numbers of a request are in the ranges that the boot accepts. -/
structure TailscaleRequest.InRange (req : TailscaleRequest) : Prop where
  maxPeers : ∀ v ∈ req.maxPeers, maxPeersValid v = true
  netcheckThresholdMs : ∀ v ∈ req.netcheckThresholdMs, netcheckThresholdValid v = true
  defaultDerpRegion : ∀ v ∈ req.defaultDerpRegion, derpRegionValid v = true

/-- The globals are those of the next boot, and NVS has no advertisement that it would drop. -/
structure Settled (s : TailscaleState) : Prop where
  live_eq : ∀ r, s.live = (tailscaleInit s.nvs r).1
  advertised : s.live.tailscaleAdvertiseExitNode = loadIntFlag 0 (s.nvs "ts_adv_exit")

/-- A boot whose own write succeeds settles the state. The next boot then loads what this one has
    loaded. -/
theorem settled_boot (nvs : Nvs) (c : Fourvia6Config) :
    Settled ⟨(tailscaleInit nvs espOk).1, c, (tailscaleInit nvs espOk).2⟩ := by
  by_cases hconflict :
      loadIntFlag 0 (nvs "ts_adv_exit") ≠ 0 ∧ loadAddress (nvs "ts_exit_node") ≠ 0#32
  · -- the advertisement is cleared, in NVS as well
    have hnvs : (tailscaleInit nvs espOk).2 =
        Function.update nvs "ts_adv_exit" (some (.i32 0)) := by
      simp only [tailscaleInit]
      rw [if_pos hconflict]
      rfl
    rw [hnvs]
    constructor
    · intro r
      have hzero : loadIntFlag 0 (some (.i32 0)) = 0 := rfl
      simp only [tailscaleInit]
      rw [if_pos hconflict]
      simp [Function.update_of_ne, hzero]
    · simp only [tailscaleInit]
      rw [if_pos hconflict, Function.update_self]
      rfl
  · have hnvs : (tailscaleInit nvs espOk).2 = nvs := by
      simp only [tailscaleInit]
      rw [if_neg hconflict]
    rw [hnvs]
    constructor
    · exact fun r => rfl
    · simp only [tailscaleInit]
      rw [if_neg hconflict]

/-- In a settled state every accepted request loads alike, up to the ranges. -/
theorem Settled.loadsAlike (h : Settled s) (hrange : req.InRange)
    (hchecked : exitNodeError aton s.live req = none) : LoadsAlike aton s.live s.nvs req := by
  have hboot := h.live_eq espOk
  have hfield := TailscaleGlobals.ext_iff.mp hboot
  simp only [tailscaleInit] at hfield
  obtain ⟨h1, h2, h3, h4, h5, -, h7, h8, h9, h10, h11, h12, h13, h14⟩ := hfield
  refine ⟨fun _ => h1, fun _ => h2, fun _ => h3, fun _ => h4, fun _ => h5, ?_,
    ⟨hrange.maxPeers, fun _ => h7⟩, fun _ => h8, fun _ => h9,
    ⟨hrange.netcheckThresholdMs, fun _ => h10⟩, ⟨hrange.defaultDerpRegion, fun _ => h11⟩,
    fun _ => h12, fun _ => h13, fun _ => h14⟩
  intro hnone
  rw [h.advertised, if_neg]
  rintro ⟨hadv, hip⟩
  -- the advertisement is in force, so the checks let no exit node be selected
  refine hip (selected_eq_zero hchecked ?_)
  rw [hnone, Option.getD_none, h.advertised]
  exact decide_eq_true hadv

/-- A save keeps the state settled. -/
theorem Settled.save (h : Settled s) {root : Json} (hrange : (bodyRequest root).InRange) :
    Settled (tailscaleSaveHandler aton s root).2 := by
  rcases tailscaleSaveHandler_cases aton s root with ⟨hsame, -⟩ | ⟨hchecked, hlive, hkeys⟩
  · rwa [hsame]
  constructor
  · intro r
    rw [hlive, tailscaleInit_congr hkeys r r]
    exact (refresh_eq_tailscaleInit_iff r
      fun hon => selected_eq_zero hchecked (by rw [hon]; rfl)).mpr (h.loadsAlike hrange hchecked)
  · have hstored : writeIfPresent s.nvs ((bodyRequest root).written aton) "ts_adv_exit" =
        ((bodyRequest root).advertiseExitNode.map fun on => NvsValue.i32 (intFlag on)).or
          (s.nvs "ts_adv_exit") := written_apply (by simp [TailscaleRequest.written])
    rw [hlive, hkeys "ts_adv_exit" (by decide), hstored, refresh]
    exact flag_alike_iff.mpr fun _ => h.advertised

/-- **From a boot on**, saves whose numbers are in range leave the globals those of the next
    boot. -/
theorem live_eq_boot_of_inRange (aton : List Char → Option Ip4) (nvs : Nvs) (c : Fourvia6Config)
    (roots : List Json) (hrange : ∀ root ∈ roots, (bodyRequest root).InRange) (r : EspErr) :
    let s := roots.foldl (fun s root => (tailscaleSaveHandler aton s root).2)
      ⟨(tailscaleInit nvs espOk).1, c, (tailscaleInit nvs espOk).2⟩
    s.live = (tailscaleInit s.nvs r).1 := by
  have hrun : ∀ (roots : List Json), (∀ root ∈ roots, (bodyRequest root).InRange) →
      ∀ s, Settled s → Settled
        (roots.foldl (fun s root => (tailscaleSaveHandler aton s root).2) s) := by
    intro roots
    induction roots with
    | nil => exact fun _ s hs => hs
    | cons root roots ih =>
      intro hrange s hs
      rw [List.forall_mem_cons] at hrange
      exact ih hrange.2 _ (hs.save hrange.1)
  exact (hrun roots hrange _ (settled_boot nvs c)).live_eq r

/-! ### More peers than the boot accepts -/

/-- A save of 100 peers. -/
def manyPeers : Json := .object [("settings", .object [("max_peers", .number 100 100)])]

/-- Right after the first boot, 100 peers are accepted; the next boot falls back to 16. -/
theorem many_peers_not_loaded :
    ¬ ∀ (aton : List Char → Option Ip4) (s : TailscaleState) (root : Json) (r : EspErr),
      (tailscaleSaveHandler aton s root).1 = true →
        (tailscaleSaveHandler aton s root).2.live =
          (tailscaleInit (tailscaleSaveHandler aton s root).2.nvs r).1 := by
  intro h
  have hpeers := congrArg TailscaleGlobals.tailscaleMaxPeers
    (h (fun _ => none)
      ⟨(tailscaleInit (fun _ => none) espOk).1, fourvia6Load fun _ => none, fun _ => none⟩
      manyPeers espOk rfl)
  revert hpeers
  decide

end SubnetRouter.Settings
