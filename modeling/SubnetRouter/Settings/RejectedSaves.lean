import SubnetRouter.Settings.TailscaleSettings
import SubnetRouter.Web.Auth

namespace SubnetRouter.Settings.TailscaleSave

open Lib

/-!
# Saves that are refused (`main/web_ui.c`, `main/fourvia6.c`, `main/tailscale_mtu.c`)

`tailscale_save_handler` as a whole: what it answers before it looks at the settings, its writes
with their results, the 4via6 settings, which it checks after them, and the MTU.

* `tailscaleSaveHandler` — the code; `saveSettings_of_espOk` relates it to the saves that succeed.
* `writesMade` — what a request has written by the time that its 4via6 settings are refused.
* `SendsLive` — it sends the values in force.
* `refused_unchanged_iff` — when a request that is refused leaves everything as it was.
-/

/-! ### The code -/

/-- `ts_mtu_mode_t`. -/
inductive TsMtuMode where
  | auto
  | fixed
deriving DecidableEq

/-- The number that is stored for a mode. -/
def TsMtuMode.byte : TsMtuMode → UInt8
  | .auto => 0
  | .fixed => 1

/-- `s_state` of `tailscale_mtu.c`, and the MTU of the tunnel netif, if there is one; `ap_mss_clamp`
    and `ap_pmtu` are `effMss` and `effPmtu`. -/
structure TsMtuState where
  mode : TsMtuMode
  fixedMtu : UInt16
  effMtu : UInt16
  effMss : UInt16
  effPmtu : UInt16
  source : String
  wgMtu : Option UInt16
deriving DecidableEq

/-- `TS_MTU_DIRECT_DEFAULT`, `TS_MTU_DERP_DEFAULT`, `TS_MTU_MIN` and `TS_MTU_MAX`. -/
def tsMtuDirectDefault : UInt16 := 1420
def tsMtuDerpDefault : UInt16 := 1280
def tsMtuMin : UInt16 := 576
def tsMtuMax : UInt16 := 1500

/-- What the peer list says: `exit_path_is_derp` and `any_direct_peer`. -/
structure PeerPaths where
  exitPathIsDerp : Bool
  anyDirectPeer : Bool

/-- `apply`. The MTU of the tunnel's netif is set along with it, if the netif is there. -/
def TsMtuState.apply (m : TsMtuState) (mtu mss pmtu : UInt16) (source : String) : TsMtuState :=
  { m with
    effMtu := mtu
    effMss := mss
    effPmtu := pmtu
    source := source
    wgMtu := m.wgMtu.map fun old => if 0 < mtu then mtu else old }

/-- `tailscale_mtu_update`. A fixed MTU is clamped, and otherwise it depends on how the peers are
    reached. -/
def tailscaleMtuUpdate (paths : PeerPaths) (live : TailscaleGlobals) (m : TsMtuState) :
    TsMtuState :=
  if live.tailscaleEnabled = 0 then m.apply 0 0 0 "off"
  else
    let (mtu, source) :=
      match m.mode with
      | .fixed => (min (max m.fixedMtu tsMtuMin) tsMtuMax, "user")
      | .auto =>
        if live.tailscaleExitNodeIp ≠ 0#32 then
          if paths.exitPathIsDerp then (tsMtuDerpDefault, "auto-DERP (exit relayed)")
          else (tsMtuDirectDefault, "auto-direct (exit direct)")
        else if paths.anyDirectPeer then (tsMtuDirectDefault, "auto-direct")
        else (tsMtuDerpDefault, "auto-DERP")
    m.apply mtu (if 40 < mtu then mtu - 40 else 0) (if 0 < mtu then mtu + 20 else 0) source

/-- The settings in force and in NVS. -/
structure Router where
  tailscale : TailscaleState
  mtu : TsMtuState

/-- A request, with what it meets: the session, the allocation of the buffer, the body and what
    `cJSON_Parse` makes of it, the result of each NVS write, and the paths of the peers. -/
structure SaveRequest where
  authenticated : Bool
  bufferAllocated : Bool
  contentLen : Int
  body : Web.Recv (Option Json)
  results : String → EspErr
  paths : PeerPaths

/-- `tailscale_mtu_set`; the results of its writes are not looked at. A fixed MTU out of range is
    refused before anything is written. -/
def tailscaleMtuSet (s : Router) (mode : TsMtuMode) (fixedMtu : UInt16) (r : SaveRequest) :
    EspErr × Router :=
  if mode = .fixed ∧ (fixedMtu < tsMtuMin ∨ tsMtuMax < fixedMtu) then (espErrInvalidArg, s)
  else
    let nvs := (nvsParamSet s.tailscale.nvs "ts_mtu_mode" (.u8 mode.byte)
      (r.results "ts_mtu_mode")).2
    let nvs := (nvsParamSet nvs "ts_mtu" (.u16 fixedMtu) (r.results "ts_mtu")).2
    (espOk,
      { tailscale := { s.tailscale with nvs := nvs }
        mtu := tailscaleMtuUpdate r.paths s.tailscale.live
          { s.mtu with mode := mode, fixedMtu := fixedMtu } })

/-- The MTU part of a body. A member that is missing or out of range keeps the value in force. -/
def saveMtu (s : Router) (root : Json) (r : SaveRequest) : Router :=
  match Json.asObject (root.getObjectItem "mtu") with
  | none => s
  | some mtu =>
    let mode :=
      match Json.asInt32 (mtu.getObjectItem "mode") with
      | some v => if v = 0 then .auto else if v = 1 then .fixed else s.mtu.mode
      | none => s.mtu.mode
    let fixedMtu :=
      match Json.asInt32 (mtu.getObjectItem "fixed_mtu") with
      | some v => if 576 ≤ v ∧ v ≤ 1500 then UInt16.ofInt v.toInt else s.mtu.fixedMtu
      | none => s.mtu.fixedMtu
    (tailscaleMtuSet s mode fixedMtu r).2

/-- The end of the handler: the error of the settings, or the MTU part and the response. -/
def finishSave (s : Router) (root : Json) (r : SaveRequest) :
    Option String × TailscaleState → Web.Response × Router
  | (some error, t) => (.badRequest error, { s with tailscale := t })
  | (none, t) => (.ok, saveMtu { s with tailscale := t } root r)

/-- `nvs_save_*` of the values that are there; a result is only recorded for the response. A write
    that fails does not keep the others from being made. -/
def saveIfPresent (results : String → EspErr) (nvs : Nvs)
    (items : List (String × Option NvsValue)) : Nvs :=
  items.foldl (fun nvs item => match item.2 with
    | some v => (nvsParamSet nvs item.1 v (results item.1)).2
    | none => nvs) nvs

/-- The 4via6 settings that a request asks for. -/
structure Fourvia6Request where
  enabled : Bool
  lanCidr : List Char
  siteId : Int

/-- What is left out is as it is in force. -/
def fourvia6Request (c : Fourvia6Config) (v6 : Json) : Fourvia6Request where
  enabled := (Json.asBool (v6.getObjectItem "enabled")).getD c.sEnabled
  lanCidr := ((v6.stringItem "lan_cidr").map CString.visible).getD c.sLanCidr.text
  siteId := ((Json.asValueint (v6.getObjectItem "site_id")).map Int32.toInt).getD c.sSiteId.toNat

/-- Its writes. -/
def Fourvia6Request.saves (w : Fourvia6Request) : List (String × NvsValue) :=
  fourvia6Saves w.enabled (some w.lanCidr) (UInt16.ofInt w.siteId)

/-- The site is no 16-bit number. -/
def Fourvia6Request.OutOfRange (w : Fourvia6Request) : Prop := w.siteId < 0 ∨ 65535 < w.siteId

instance (w : Fourvia6Request) : Decidable w.OutOfRange := by
  unfold Fourvia6Request.OutOfRange
  infer_instance

/-- The result of call `i` of those writes. -/
def resultsOf (results : String → EspErr) (writes : List (String × NvsValue)) (i : Nat) : EspErr :=
  results ((writes.map Prod.fst).getD i "")

/-- The text in `error` after `fourvia6_set_config`, which has room for 96 bytes. The texts are the
    source's. -/
def Fourvia6Request.errorText (w : Fourvia6Request) (espErrToName : EspErr → String)
    (err : EspErr) : String :=
  if w.enabled ∧ FourVia6.parseCidr (some w.lanCidr) = none then
    "IPv4 LAN subnet must be a valid CIDR"
  else if w.lanCidr ≠ [] ∧ FourVia6.parseCidr (some w.lanCidr) = none then
    "Invalid IPv4 LAN subnet"
  else String.ofList (("NVS write failed: " ++ espErrToName err).toList.take 95)

section Handler

variable (aton : List Char → Option Ip4) (espErrToName : EspErr → String)

/-- The 4via6 part: the text of the error, if there is one, and the state. By then the other
    settings of the body are in force. -/
def saveFourvia6 (results : String → EspErr) (s : TailscaleState) (v6 : Json) :
    Option String × TailscaleState :=
  let w := fourvia6Request s.fourvia6 v6
  if w.OutOfRange then (some "invalid 4via6 settings", s)
  else
    let saved := fourvia6SetConfig s.fourvia6 s.nvs w.enabled (some w.lanCidr)
      (UInt16.ofInt w.siteId) (resultsOf results w.saves)
    (if saved.1 = espOk then none else some (w.errorText espErrToName saved.1),
      { s with fourvia6 := saved.2.1, nvs := saved.2.2 })

/-- The settings of a body, if it has any. Only the exit node is checked before they are taken
    over. -/
def saveSettings (results : String → EspErr) (s : TailscaleState) :
    Option Json → Option String × TailscaleState
  | none => (none, s)
  | some settings =>
    let req := tailscaleRequest settings
    match exitNodeError aton s.live req with
    | some error => (some error, s)
    | none =>
      let s := { s with
        live := refresh aton s.live req
        nvs := saveIfPresent results s.nvs (req.written aton) }
      match Json.asObject (settings.getObjectItem "fourvia6") with
      | none => (none, s)
      | some v6 => saveFourvia6 espErrToName results s v6

/-- `tailscale_save_handler`. What is wrong with the request itself is answered before anything is
    read from it. -/
def tailscaleSaveHandler (s : Router) (r : SaveRequest) : Web.Response × Router :=
  if !r.authenticated then (.authRequired, s)
  else if !r.bufferAllocated then (.serverError, s)
  else
    match Web.recvBody 3072 r.contentLen r.body with
    | .error response => (response, s)
    | .ok none => (.badRequest "invalid JSON", s)
    | .ok (some root) =>
      finishSave s root r (saveSettings aton espErrToName r.results s.tailscale
        (Json.asObject (root.getObjectItem "settings")))

end Handler

theorem espErrInvalidArg_ne : espErrInvalidArg ≠ espOk := by decide

/-- The 4via6 part, if its writes all succeed. Then it is the one of the model without failures. -/
theorem saveFourvia6_of_espOk (espErrToName : EspErr → String) (s : TailscaleState) (v6 : Json) :
    let saved := saveFourvia6 espErrToName (fun _ => espOk) s v6
    ((fourvia6Part s v6).1 = espOk ↔ saved.1 = none) ∧ (fourvia6Part s v6).2 = saved.2 := by
  intro saved
  -- A site that is out of range is refused before anything is written.
  by_cases hsite : (fourvia6Request s.fourvia6 v6).OutOfRange
  · have hpart : fourvia6Part s v6 = (espErrInvalidArg, s) := if_pos hsite
    have hsaved : saved = (some "invalid 4via6 settings", s) := if_pos hsite
    rw [hpart, hsaved]
    exact ⟨iff_of_false espErrInvalidArg_ne nofun, rfl⟩
  · let w := fourvia6Request s.fourvia6 v6
    let set := fourvia6SetConfig s.fourvia6 s.nvs w.enabled (some w.lanCidr)
      (UInt16.ofInt w.siteId) fun _ => espOk
    have hpart : fourvia6Part s v6 =
        (set.1, { s with fourvia6 := set.2.1, nvs := set.2.2 }) := if_neg hsite
    have hsaved : saved = (if set.1 = espOk then none else some (w.errorText espErrToName set.1),
        { s with fourvia6 := set.2.1, nvs := set.2.2 }) := if_neg hsite
    rw [hpart, hsaved]
    -- Otherwise the answer is up to `fourvia6_set_config`.
    refine ⟨?_, rfl⟩
    dsimp only
    split_ifs with herr
    · exact iff_of_true herr rfl
    · exact iff_of_false herr nofun

/-- A save whose writes all succeed. Then it is the one of the model without failures. -/
theorem saveSettings_of_espOk (aton : List Char → Option Ip4) (espErrToName : EspErr → String)
    (s : TailscaleState) (root : Json) :
    let saved := saveSettings aton espErrToName (fun _ => espOk) s
      (Json.asObject (root.getObjectItem "settings"))
    Settings.tailscaleSaveHandler aton s root = (saved.1.isNone, saved.2) := by
  rw [Settings.tailscaleSaveHandler]
  cases Json.asObject (root.getObjectItem "settings") with
  | none => rfl
  | some settings =>
    simp only [saveSettings]
    -- The check of the exit node comes first, and refuses alike in both.
    cases exitNodeError aton s.live (tailscaleRequest settings) with
    | some error => rfl
    | none =>
      cases Json.asObject (settings.getObjectItem "fourvia6") with
      | none => rfl
      | some v6 =>
        -- With every write succeeding, the two accounts of the 4via6 part agree.
        obtain ⟨hok, hstate⟩ := saveFourvia6_of_espOk espErrToName { s with
          live := refresh aton s.live (tailscaleRequest settings)
          nvs := writeIfPresent s.nvs ((tailscaleRequest settings).written aton) } v6
        refine Prod.ext ?_ hstate
        rw [Bool.eq_iff_iff, decide_eq_true_iff, Option.isNone_iff_eq_none]
        exact hok

/-! ### The condition -/

/-- A status from 400 to 499. -/
def Refused (response : Web.Response) : Prop := ∃ n ∈ response.status, 400 ≤ n ∧ n < 500

/-- The settings object of a request that is received. It is `none` for one that is turned away. -/
def SaveRequest.settings (r : SaveRequest) : Option Json :=
  if r.authenticated && r.bufferAllocated then
    match Web.recvBody 3072 r.contentLen r.body with
    | .ok (some root) => Json.asObject (root.getObjectItem "settings")
    | _ => none
  else none

/-- The 4via6 settings are refused: the site or the subnet is not valid, or a write fails. -/
def Fourvia6Request.Fails (w : Fourvia6Request) (results : String → EspErr) : Prop :=
  w.OutOfRange ∨ fourvia6Refuses w.enabled (some w.lanCidr) = true ∨
    ∃ e ∈ w.saves, results e.1 ≠ espOk

/-- The write of a value, if it is there and the write succeeds. -/
def settingsWrite (results : String → EspErr) (item : String × Option NvsValue) :
    Option (String × NvsValue) :=
  if results item.1 = espOk then item.2.map (Prod.mk item.1) else none

/-- The 4via6 writes before the first that fails. -/
def Fourvia6Request.writes (w : Fourvia6Request) (results : String → EspErr) :
    List (String × NvsValue) :=
  if w.OutOfRange ∨ fourvia6Refuses w.enabled (some w.lanCidr) = true then []
  else w.saves.takeWhile fun e => results e.1 = espOk

/-- What a request writes. -/
def writesMade (aton : List Char → Option Ip4) (results : String → EspErr) (req : TailscaleRequest)
    (w : Fourvia6Request) : List (String × NvsValue) :=
  (req.written aton).filterMap (settingsWrite results) ++ w.writes results

/-- A request sends the values that are in force. Those that it leaves out may be anything. -/
structure SendsLive (aton : List Char → Option Ip4) (live : TailscaleGlobals)
    (req : TailscaleRequest) : Prop where
  enabled : ∀ on ∈ req.enabled, live.tailscaleEnabled = intFlag on
  authKey : ∀ text ∈ req.authKey, live.tailscaleAuthKey = text
  hostname : ∀ text ∈ req.hostname, live.tailscaleHostname = text
  loginServer : ∀ text ∈ req.loginServer, live.tailscaleLoginServer = text
  advertiseRoutes : ∀ text ∈ req.advertiseRoutes, live.tailscaleAdvertiseRoutes = text
  advertiseExitNode : ∀ on ∈ req.advertiseExitNode, live.tailscaleAdvertiseExitNode = intFlag on
  maxPeers : ∀ v ∈ req.maxPeers, live.tailscaleMaxPeers = v
  exitNodeIp : ∀ ip ∈ req.selected aton, live.tailscaleExitNodeIp = ip
  netcheckOverride : ∀ on ∈ req.netcheckOverride, live.tailscaleNetcheckOverride = intFlag on
  netcheckThresholdMs : ∀ v ∈ req.netcheckThresholdMs, live.tailscaleNetcheckThresholdMs = v
  defaultDerpRegion : ∀ v ∈ req.defaultDerpRegion, live.tailscaleDefaultDerpRegion = v
  lanBypass : ∀ on ∈ req.lanBypass, live.tailscaleLanBypass = intFlag on
  acceptRoutes : ∀ on ∈ req.acceptRoutes, live.tailscaleAcceptRoutes = intFlag on
  snatSubnetRoutes : ∀ on ∈ req.snatSubnetRoutes, live.tailscaleSnatSubnetRoutes = intFlag on

/-! ### What is written -/

variable {aton : List Char → Option Ip4} {espErrToName : EspErr → String} {nvs : Nvs}
  {results : String → EspErr} {req : TailscaleRequest} {w : Fourvia6Request}
  {s : TailscaleState} {live : TailscaleGlobals}

theorem nvsParamSet_of_ne (key : String) (v : NvsValue) {err : EspErr} (h : err ≠ espOk) :
    nvsParamSet nvs key v err = (err, nvs) := if_neg h

theorem nvsParamSet_espOk (key : String) (v : NvsValue) :
    nvsParamSet nvs key v espOk = (espOk, Function.update nvs key (some v)) := rfl

/-- The settings are written as far as the writes succeed. -/
theorem saveIfPresent_eq (nvs : Nvs) (items : List (String × Option NvsValue)) :
    saveIfPresent results nvs items = writeAll nvs (items.filterMap (settingsWrite results)) := by
  induction items generalizing nvs with
  | nil => rfl
  | cons item items ih =>
    rcases item with ⟨k, _ | v⟩
    · rw [List.filterMap_cons_none (by simp [settingsWrite])]
      exact ih nvs
    · show saveIfPresent results (nvsParamSet nvs k v (results k)).2 items = _
      by_cases hok : results k = espOk
      · rw [List.filterMap_cons_some (b := (k, v)) (by simp [settingsWrite, hok]), hok,
          nvsParamSet_espOk]
        exact ih _
      · rw [List.filterMap_cons_none (by simp [settingsWrite, hok]), nvsParamSet_of_ne k v hok]
        exact ih nvs

/-- Writes in a row, each behind the success of those before. -/
theorem nvsSaveAll_resultsOf (results : String → EspErr) (nvs : Nvs)
    (writes : List (String × NvsValue)) :
    (nvsSaveAll (resultsOf results writes) nvs writes).2 =
        writeAll nvs (writes.takeWhile fun e => results e.1 = espOk) ∧
      ((nvsSaveAll (resultsOf results writes) nvs writes).1 = espOk ↔
        ∀ e ∈ writes, results e.1 = espOk) := by
  induction writes generalizing nvs with
  | nil => exact ⟨rfl, iff_of_true rfl nofun⟩
  | cons e writes ih =>
    have hfirst : resultsOf results (e :: writes) 0 = results e.1 := rfl
    have hrest : (fun i => resultsOf results (e :: writes) (i + 1)) = resultsOf results writes :=
      rfl
    rw [nvsSaveAll, hfirst, hrest, List.forall_mem_cons]
    -- The first write that fails ends the row.
    by_cases hok : results e.1 = espOk
    · rw [hok, nvsParamSet_espOk, List.takeWhile_cons_of_pos (by simpa using hok)]
      dsimp only
      rw [if_pos rfl]
      exact ⟨(ih _).1, by rw [(ih _).2]; exact (and_iff_right rfl).symm⟩
    · rw [nvsParamSet_of_ne _ _ hok, List.takeWhile_cons_of_neg (by simpa using hok)]
      dsimp only
      rw [if_neg hok]
      exact ⟨rfl, iff_of_false hok fun h => hok h.1⟩

/-- `fourvia6_set_config` fails exactly if it refuses or a write fails, and changes NVS only, by
    the writes before the first that fails. -/
theorem fourvia6SetConfig_spec (results : String → EspErr) (c : Fourvia6Config) (nvs : Nvs)
    (hsite : ¬ w.OutOfRange) :
    let set := fourvia6SetConfig c nvs w.enabled (some w.lanCidr) (UInt16.ofInt w.siteId)
      (resultsOf results w.saves)
    (set.1 = espOk ↔ ¬ w.Fails results) ∧
      (set.1 ≠ espOk → set.2 = (c, writeAll nvs (w.writes results))) := by
  intro set
  -- Refused before any write, or decided by the writes.
  by_cases hrefuses : fourvia6Refuses w.enabled (some w.lanCidr) = true
  · have hset : set = (espErrInvalidArg, c, nvs) := if_pos hrefuses
    rw [hset, Fourvia6Request.writes, if_pos (.inr hrefuses)]
    exact ⟨iff_of_false espErrInvalidArg_ne (not_not.mpr (.inr (.inl hrefuses))), fun _ => rfl⟩
  · obtain ⟨hnvs, hresult⟩ := nvsSaveAll_resultsOf results nvs w.saves
    have hfails : ¬ w.Fails results ↔ ∀ e ∈ w.saves, results e.1 = espOk := by
      simp [Fourvia6Request.Fails, hsite, hrefuses]
    have hset : set = if (nvsSaveAll (resultsOf results w.saves) nvs w.saves).1 ≠ espOk then
        ((nvsSaveAll (resultsOf results w.saves) nvs w.saves).1, c,
          (nvsSaveAll (resultsOf results w.saves) nvs w.saves).2)
        else (espOk, fourvia6Load (nvsSaveAll (resultsOf results w.saves) nvs w.saves).2,
          (nvsSaveAll (resultsOf results w.saves) nvs w.saves).2) := if_neg hrefuses
    rw [hfails, ← hresult, Fourvia6Request.writes, if_neg (not_or.mpr ⟨hsite, hrefuses⟩), ← hnvs,
      hset]
    -- The settings are loaded again only after all of them.
    by_cases hok : (nvsSaveAll (resultsOf results w.saves) nvs w.saves).1 = espOk
    · rw [if_neg (not_not.mpr hok)]
      exact ⟨iff_of_true rfl hok, fun h => absurd rfl h⟩
    · rw [if_pos hok]
      exact ⟨Iff.rfl, fun _ => rfl⟩

/-- The 4via6 part: when it fails, and what it has written by then. -/
theorem saveFourvia6_spec (espErrToName : EspErr → String) (results : String → EspErr)
    (s : TailscaleState) (v6 : Json) :
    let w := fourvia6Request s.fourvia6 v6
    let saved := saveFourvia6 espErrToName results s v6
    (saved.1 = none ↔ ¬ w.Fails results) ∧
      (saved.1 ≠ none → saved.2 = { s with nvs := writeAll s.nvs (w.writes results) }) := by
  intro w saved
  by_cases hsite : w.OutOfRange
  · have hsaved : saved = (some "invalid 4via6 settings", s) := if_pos hsite
    rw [hsaved, Fourvia6Request.writes, if_pos (.inl hsite)]
    exact ⟨iff_of_false nofun (not_not.mpr (.inl hsite)), fun _ => rfl⟩
  -- In range: the part fails with `fourvia6_set_config`.
  · obtain ⟨hok, hleaves⟩ := fourvia6SetConfig_spec results s.fourvia6 s.nvs hsite
    generalize hset : fourvia6SetConfig s.fourvia6 s.nvs w.enabled (some w.lanCidr)
      (UInt16.ofInt w.siteId) (resultsOf results w.saves) = set at hok hleaves
    have hsaved : saved = (if set.1 = espOk then none else some (w.errorText espErrToName set.1),
        { s with fourvia6 := set.2.1, nvs := set.2.2 }) := by
      rw [← hset]
      exact if_neg hsite
    rw [hsaved, ← hok]
    by_cases herr : set.1 = espOk
    · exact ⟨iff_of_true (if_pos herr) herr, fun h => absurd (if_pos herr) h⟩
    · refine ⟨iff_of_false (by rw [if_neg herr]; nofun) herr, fun _ => ?_⟩
      rw [hleaves herr]

/-- The settings are written in their order. -/
theorem settingsWrites_sublist (items : List (String × Option NvsValue)) :
    ((items.filterMap (settingsWrite results)).map Prod.fst).Sublist (items.map Prod.fst) := by
  induction items with
  | nil => exact .slnil
  | cons item items ih =>
    cases hwrite : settingsWrite results item with
    | none =>
      rw [List.filterMap_cons_none hwrite]
      exact ih.cons _
    | some e =>
      have hkey : e.1 = item.1 := by
        rw [settingsWrite] at hwrite
        split_ifs at hwrite
        obtain ⟨v, -, rfl⟩ := Option.map_eq_some_iff.mp hwrite
        rfl
      rw [List.filterMap_cons_some hwrite, List.map_cons, List.map_cons, hkey]
      exact ih.cons_cons _

/-- No key is written twice. -/
theorem writesMade_nodup : ((writesMade aton results req w).map Prod.fst).Nodup := by
  have hkeys : ((req.written aton).map Prod.fst ++ w.saves.map Prod.fst).Nodup := by
    show ["ts_enabled", "ts_authkey", "ts_hostname", "ts_login", "ts_routes", "ts_maxpeers",
      "ts_def_derp", "ts_nc_thr", "ts_nc_ovr", "ts_lan_bp", "ts_acpt_rt", "ts_snat_sr",
      "ts_adv_exit", "ts_exit_node", "ts_4v6_en", "ts_4v6_lan", "ts_4v6_site"].Nodup
    decide
  have hfourvia6 : ((w.writes results).map Prod.fst).Sublist (w.saves.map Prod.fst) := by
    rw [Fourvia6Request.writes]
    split_ifs
    · exact List.nil_sublist _
    · exact (List.takeWhile_sublist _).map _
  rw [writesMade, List.map_append]
  exact hkeys.sublist ((settingsWrites_sublist _).append hfourvia6)

/-! ### What is sent -/

theorem getD_eq_self_iff {α : Type} {item : Option α} {v : α} :
    item.getD v = v ↔ ∀ x ∈ item, v = x := by
  cases item with
  | none => simp
  | some x => simp [eq_comm]

/-- The globals are left as they are exactly if the request sends what they are. -/
theorem refresh_eq_self_iff : refresh aton live req = live ↔ SendsLive aton live req := by
  rw [TailscaleGlobals.ext_iff]
  simp only [refresh, getD_eq_self_iff, Option.mem_map, forall_exists_index, and_imp,
    forall_apply_eq_imp_iff₂]
  constructor
  · rintro ⟨h1, h2, h3, h4, h5, h6, h7, h8, h9, h10, h11, h12, h13, h14⟩
    exact ⟨h1, h2, h3, h4, h5, h6, h7, h8, h9, h10, h11, h12, h13, h14⟩
  · rintro ⟨h1, h2, h3, h4, h5, h6, h7, h8, h9, h10, h11, h12, h13, h14⟩
    exact ⟨h1, h2, h3, h4, h5, h6, h7, h8, h9, h10, h11, h12, h13, h14⟩

/-! ### Requests that are refused -/

/-- A request with settings that pass the first check and a 4via6 part is refused by that part, if
    at all. -/
theorem saveSettings_some (espErrToName : EspErr → String) (results : String → EspErr)
    {settings v6 : Json}
    (hcheck : exitNodeError aton s.live (tailscaleRequest settings) = none)
    (hv6 : Json.asObject (settings.getObjectItem "fourvia6") = some v6) :
    let w := fourvia6Request s.fourvia6 v6
    let saved := saveSettings aton espErrToName results s (some settings)
    (saved.1 = none ↔ ¬ w.Fails results) ∧ (saved.1 ≠ none → saved.2 = { s with
      live := refresh aton s.live (tailscaleRequest settings)
      nvs := writeAll s.nvs (writesMade aton results (tailscaleRequest settings) w) }) := by
  intro w saved
  -- The check passes, so the settings are written before the 4via6 part is judged.
  have hsaved : saved = saveFourvia6 espErrToName results { s with
      live := refresh aton s.live (tailscaleRequest settings)
      nvs := saveIfPresent results s.nvs ((tailscaleRequest settings).written aton) } v6 := by
    simp only [saved, saveSettings, hcheck, hv6]
  obtain ⟨hnone, hleaves⟩ := saveFourvia6_spec espErrToName results
    { s with
      live := refresh aton s.live (tailscaleRequest settings)
      nvs := saveIfPresent results s.nvs ((tailscaleRequest settings).written aton) } v6
  rw [hsaved]
  refine ⟨hnone, fun herr => ?_⟩
  rw [hleaves herr, saveIfPresent_eq, writesMade, writeAll_append]

/-- Without settings that are received nothing is refused after a change. Such a request is turned
    away at once, or goes on to the MTU. -/
theorem unchanged_of_settings_eq_none {s : Router} {r : SaveRequest} (h : r.settings = none)
    (href : Refused (tailscaleSaveHandler aton espErrToName s r).1) :
    (tailscaleSaveHandler aton espErrToName s r).2 = s := by
  unfold tailscaleSaveHandler at href ⊢
  unfold SaveRequest.settings at h
  -- Not logged in or no memory: nothing was changed.
  cases hauth : r.authenticated with
  | false => rfl
  | true =>
    cases hbuffer : r.bufferAllocated with
    | false => rfl
    | true =>
      rw [hauth, hbuffer] at h href
      cases hbody : Web.recvBody 3072 r.contentLen r.body with
      | error response => rfl
      | ok parsed =>
        cases parsed with
        | none => rfl
        | some root =>
          -- Without settings the save finishes, and its answer is no refusal.
          simp only [hbody, Bool.and_self, if_true] at h
          simp only [hbody, h, saveSettings, finishSave] at href
          obtain ⟨n, hn, hlow, -⟩ := href
          obtain rfl := Option.some.inj hn
          exact absurd hlow (by decide)

/-- With settings that are received the answer is up to them. Only they can have it refused, and
    then the rest of the body is not looked at. -/
theorem tailscaleSaveHandler_of_settings (aton : List Char → Option Ip4)
    (espErrToName : EspErr → String) (s : Router) {r : SaveRequest} {settings : Json}
    (h : r.settings = some settings) :
    let saved := saveSettings aton espErrToName r.results s.tailscale (some settings)
    let result := tailscaleSaveHandler aton espErrToName s r
    (Refused result.1 ↔ saved.1 ≠ none) ∧
      (saved.1 ≠ none → result.2 = { s with tailscale := saved.2 }) := by
  intro saved result
  -- The request came through, so the save is finished from what the settings led to.
  obtain ⟨root, hresult⟩ : ∃ root, result = finishSave s root r saved := by
    unfold SaveRequest.settings at h
    split_ifs at h with hreceived
    rw [Bool.and_eq_true] at hreceived
    cases hbody : Web.recvBody 3072 r.contentLen r.body with
    | error response => simp [hbody] at h
    | ok parsed =>
      cases parsed with
      | none => simp [hbody] at h
      | some root =>
        simp only [hbody] at h
        refine ⟨root, ?_⟩
        simp only [result, saved, tailscaleSaveHandler, hreceived.1, hreceived.2, hbody, h,
          Bool.not_true, Bool.false_eq_true, if_false]
  rw [hresult]
  rcases saved with ⟨_ | error, t⟩
  -- A finished save is answered without an error.
  · refine ⟨iff_of_false ?_ (not_not.mpr rfl), fun hne => absurd rfl hne⟩
    rintro ⟨n, hn, hlow, -⟩
    obtain rfl := Option.some.inj hn
    exact absurd hlow (by decide)
  · exact ⟨iff_of_true ⟨400, rfl, by decide⟩ nofun, fun _ => rfl⟩

/-- A request with settings leaves everything as it was if the settings do, where they are
    refused. -/
theorem unchanged_iff_of_settings (aton : List Char → Option Ip4) (espErrToName : EspErr → String)
    (s : Router) {r : SaveRequest} {settings : Json} (h : r.settings = some settings) :
    (Refused (tailscaleSaveHandler aton espErrToName s r).1 →
        (tailscaleSaveHandler aton espErrToName s r).2 = s) ↔
      ((saveSettings aton espErrToName r.results s.tailscale (some settings)).1 ≠ none →
        (saveSettings aton espErrToName r.results s.tailscale (some settings)).2 =
          s.tailscale) := by
  obtain ⟨hrefused, hstate⟩ := tailscaleSaveHandler_of_settings aton espErrToName s h
  rw [hrefused]
  refine imp_congr_right fun herr => ?_
  rw [hstate herr]
  exact ⟨fun h => congrArg Router.tailscale h, fun h => by rw [h]⟩

/-- **Refused requests.** A request that is answered with a status from 400 to 499 leaves all
    settings and NVS as they were exactly if, where its settings pass the first check and its 4via6
    settings are refused, it sends the values in force and has written what NVS had. -/
theorem refused_unchanged_iff (aton : List Char → Option Ip4) (espErrToName : EspErr → String)
    (s : Router) (r : SaveRequest) :
    (Refused (tailscaleSaveHandler aton espErrToName s r).1 →
        (tailscaleSaveHandler aton espErrToName s r).2 = s) ↔
      ∀ settings ∈ r.settings, ∀ v6 ∈ Json.asObject (settings.getObjectItem "fourvia6"),
        exitNodeError aton s.tailscale.live (tailscaleRequest settings) = none →
        (fourvia6Request s.tailscale.fourvia6 v6).Fails r.results →
          SendsLive aton s.tailscale.live (tailscaleRequest settings) ∧
            ∀ e ∈ writesMade aton r.results (tailscaleRequest settings)
                (fourvia6Request s.tailscale.fourvia6 v6), s.tailscale.nvs e.1 = some e.2 := by
  cases hsettings : r.settings with
  | none => exact iff_of_true (unchanged_of_settings_eq_none hsettings) nofun
  | some settings =>
    rw [unchanged_iff_of_settings aton espErrToName s hsettings]
    simp only [Option.mem_some_iff, forall_eq']
    cases hcheck : exitNodeError aton s.tailscale.live (tailscaleRequest settings) with
    | some error =>
      -- the first check is in front of all writes
      refine iff_of_true (fun _ => ?_) nofun
      simp only [saveSettings, hcheck]
    | none =>
      cases hv6 : Json.asObject (settings.getObjectItem "fourvia6") with
      | none =>
        refine iff_of_true (fun herr => ?_) nofun
        simp only [saveSettings, hcheck, hv6] at herr
        exact absurd rfl herr
      | some v6 =>
        obtain ⟨hnone, hleaves⟩ := saveSettings_some espErrToName r.results hcheck hv6
        simp only [Option.mem_some_iff, forall_eq', forall_true_left]
        rw [ne_eq, hnone, not_not]
        refine imp_congr_right fun hfails => ?_
        rw [hleaves fun h => hnone.mp h hfails, ← refresh_eq_self_iff,
          ← writeAll_eq_self_iff writesMade_nodup]
        exact ⟨fun h => ⟨congrArg TailscaleState.live h, congrArg TailscaleState.nvs h⟩,
          fun h => by rw [h.1, h.2]⟩

/-- Right after the first boot, a save of 20 peers and of a subnet that is none. It is refused, and
    the number of peers is in force all the same. -/
def spoiledSave : SaveRequest where
  authenticated := true
  bufferAllocated := true
  contentLen := 80
  body := .complete (some (.object [("settings", .object
    [("max_peers", .number 20 20),
      ("fourvia6", .object [("enabled", .bool true), ("lan_cidr", .string "lan".toList)])])]))
  results := fun _ => espOk
  paths := ⟨false, false⟩

/-- It is refused, and there are 20 peers. -/
theorem refused_with_peers :
    ¬ ∀ (aton : List Char → Option Ip4) (espErrToName : EspErr → String) (s : Router)
      (r : SaveRequest), Refused (tailscaleSaveHandler aton espErrToName s r).1 →
        (tailscaleSaveHandler aton espErrToName s r).2 = s := by
  intro h
  have hsame := h (fun _ => none) (fun _ => "")
    ⟨⟨(tailscaleInit (fun _ => none) espOk).1, fourvia6Load fun _ => none, fun _ => none⟩,
      ⟨.auto, tsMtuDerpDefault, 0, 0, 0, "off", none⟩⟩ spoiledSave ⟨400, by decide, by decide⟩
  have hpeers := congrArg (fun t : Router => t.tailscale.live.tailscaleMaxPeers) hsame
  revert hpeers
  decide

end SubnetRouter.Settings.TailscaleSave
