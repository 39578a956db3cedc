import SubnetRouter.FourVia6Prefix
import SubnetRouter.Lib.Hex
import SubnetRouter.Net.Frame
import SubnetRouter.Settings.Nvs

namespace SubnetRouter.Settings

open Lib

/-!
# Settings saved under several keys

`mqtt_integration_set_config`, `ntfy_integration_set_config` and `fourvia6_set_config` write
their settings key by key and stop at the first write that fails; the keys written by then keep
their new values.

* `mqttIntegrationSetConfig`, `mqttLoadConfig`; `ntfyIntegrationSetConfig`, `ntfyLoadConfig`;
  `fourvia6SetConfig`, `fourvia6Load` — the saves, and what the next boot loads.
* `save_unchanged_iff` — when a save by fields that fails loads as before.
* `fourvia6_unchanged_iff` — the same for 4via6, whose flag counts only with a valid subnet.
* `multiKeySaves_unchanged_iff` — the three of them.
-/

/-! ### Saves by fields -/

section Fields

variable {C : Type} {fields : List (Field String NvsValue)} {saves : C → List (String × NvsValue)}
  {load : Nvs → C} {c : C}

/-- **A save that fails** loads as before exactly if the values written by then are those that
    were loaded before. -/
theorem save_unchanged_iff (hnodup : (fields.map Field.key).Nodup)
    (hinj : Function.Injective saves) (hload : ∀ nvs, saves (load nvs) = readAll fields nvs)
    (hsaves : Saves fields (saves c)) (nvs : Nvs) (results : Nat → EspErr) :
    ((nvsSaveAll results nvs (saves c)).1 ≠ espOk →
        load (nvsSaveAll results nvs (saves c)).2 = load nvs) ↔
      ∀ k, firstFailure results (saves c).length = some k →
        (saves c).take k = (saves (load nvs)).take k := by
  rw [nvsSaveAll_eq]
  cases hfail : firstFailure results (saves c).length with
  | none => simp
  | some k =>
    have herr := (firstFailure_spec hfail).2
    have hloads : load (writeAll nvs ((saves c).take k)) = load nvs ↔
        (saves c).take k = (saves (load nvs)).take k := by
      rw [← hinj.eq_iff, hload, hload, readAll_writeAll_take_iff hnodup hsaves]
    simp only [ne_eq, herr, not_false_eq_true, forall_const, hloads, Option.some.injEq,
      forall_eq']

end Fields

/-! ### MQTT (`main/mqtt_integration.c`) -/

/-- `mqtt_integration_config_t`. Each text carries the bound of its array, terminator excluded. -/
structure MqttConfig where
  enabled : Bool
  homeAssistantDiscovery : Bool
  uri : CString 159
  username : CString 63
  password : CString 95
  baseTopic : CString 95
  discoveryPrefix : CString 47
  intervalSeconds : UInt16
  brokerWatchdogEnabled : Bool
  brokerWatchdogTimeoutSeconds : UInt32
  brokerWatchdogWolMac : CString 17
deriving DecidableEq

/-- The default topic: `"esp32-router/%02x%02x%02x"` of the station's MAC. -/
def defaultBaseTopic (mac : Mac) : CString 95 :=
  .strlcpy 95 ("esp32-router/".toList ++ hexEncode [mac.b3, mac.b4, mac.b5])

/-- The default discovery topic. -/
def defaultDiscovery : CString 47 := .strlcpy 47 "homeassistant".toList

/-- The range of `mqtt_int`. -/
def intervalValid (v : UInt16) : Bool := 5 ≤ v

/-- The range of `mqtt_wdto`. -/
def watchdogTimeoutValid (v : UInt32) : Bool := 30 ≤ v && v ≤ 86400

/-- `load_config`, over `config_defaults`. A key that is missing, or holds a value out of range,
    gives its default. -/
def mqttLoadConfig (mac : Mac) (nvs : Nvs) : MqttConfig where
  enabled := loadFlag false (nvs "mqtt_en")
  homeAssistantDiscovery := loadFlag false (nvs "mqtt_ha")
  intervalSeconds := loadU16 intervalValid 30 (nvs "mqtt_int")
  uri := loadString 159 .empty (nvs "mqtt_uri")
  username := loadString 63 .empty (nvs "mqtt_user")
  password := loadString 95 .empty (nvs "mqtt_pass")
  baseTopic := loadString 95 (defaultBaseTopic mac) (nvs "mqtt_topic")
  discoveryPrefix := loadString 47 defaultDiscovery (nvs "mqtt_hapfx")
  brokerWatchdogWolMac := loadString 17 .empty (nvs "mqtt_wmac")
  brokerWatchdogEnabled := loadFlag false (nvs "mqtt_wdog")
  brokerWatchdogTimeoutSeconds := loadU32 watchdogTimeoutValid 300 (nvs "mqtt_wdto")

/-- The checks of `mqtt_integration_set_config`; `wolParseMac` tells which texts `wol_parse_mac`
    accepts. -/
def mqttRefuses (wolParseMac : List Char → Bool) (c : MqttConfig) : Bool :=
  c.intervalSeconds < 5 || c.intervalSeconds > 3600 ||
    (c.enabled && (c.uri.text.isEmpty || c.baseTopic.text.isEmpty)) ||
    (c.brokerWatchdogTimeoutSeconds < 30 || c.brokerWatchdogTimeoutSeconds > 86400 ||
      (c.brokerWatchdogEnabled && (!c.enabled || !wolParseMac c.brokerWatchdogWolMac.text)))

/-- The writes, in their order. The first that fails ends the save, with the ones before it in
    NVS. -/
def mqttSaves (c : MqttConfig) : List (String × NvsValue) :=
  [("mqtt_en", .u8 (flagByte c.enabled)),
    ("mqtt_uri", .str c.uri.text),
    ("mqtt_user", .str c.username.text),
    ("mqtt_pass", .str c.password.text),
    ("mqtt_topic", .str c.baseTopic.text),
    ("mqtt_hapfx", .str c.discoveryPrefix.text),
    ("mqtt_wmac", .str c.brokerWatchdogWolMac.text),
    ("mqtt_ha", .u8 (flagByte c.homeAssistantDiscovery)),
    ("mqtt_int", .u16 c.intervalSeconds),
    ("mqtt_wdog", .u8 (flagByte c.brokerWatchdogEnabled)),
    ("mqtt_wdto", .u32 c.brokerWatchdogTimeoutSeconds)]

/-- `s_config` and NVS. -/
structure MqttSettings where
  sConfig : MqttConfig
  nvs : Nvs

/-- `mqtt_integration_set_config`. The configuration in RAM changes only behind the last write. -/
def mqttIntegrationSetConfig (wolParseMac : List Char → Bool) (s : MqttSettings) (c : MqttConfig)
    (results : Nat → EspErr) : EspErr × MqttSettings :=
  if mqttRefuses wolParseMac c then (espErrInvalidArg, s)
  else
    let saved := nvsSaveAll results s.nvs (mqttSaves c)
    if saved.1 ≠ espOk then (saved.1, { s with nvs := saved.2 })
    else (espOk, { sConfig := c, nvs := saved.2 })

/-- The keys of the MQTT settings, and how they are read. The order is that of the writes. -/
def mqttFields (mac : Mac) : List (Field String NvsValue) :=
  [flagField "mqtt_en" false, strField "mqtt_uri" 159 .empty, strField "mqtt_user" 63 .empty,
    strField "mqtt_pass" 95 .empty, strField "mqtt_topic" 95 (defaultBaseTopic mac),
    strField "mqtt_hapfx" 47 defaultDiscovery, strField "mqtt_wmac" 17 .empty,
    flagField "mqtt_ha" false, u16Field "mqtt_int" intervalValid 30, flagField "mqtt_wdog" false,
    u32Field "mqtt_wdto" watchdogTimeoutValid 300]

theorem mqttSaves_load (mac : Mac) (nvs : Nvs) :
    mqttSaves (mqttLoadConfig mac nvs) = readAll (mqttFields mac) nvs := rfl

theorem mqttFields_nodup (mac : Mac) : ((mqttFields mac).map Field.key).Nodup := by
  show ["mqtt_en", "mqtt_uri", "mqtt_user", "mqtt_pass", "mqtt_topic", "mqtt_hapfx", "mqtt_wmac",
    "mqtt_ha", "mqtt_int", "mqtt_wdog", "mqtt_wdto"].Nodup
  decide

theorem flagByte_injective : Function.Injective flagByte := by
  intro a b h
  cases a <;> cases b <;> simp_all [flagByte]

theorem mqttSaves_injective : Function.Injective mqttSaves := by
  intro c d h
  rcases c with ⟨⟩
  rcases d with ⟨⟩
  simp only [mqttSaves, List.cons.injEq, Prod.mk.injEq, NvsValue.u8.injEq, NvsValue.str.injEq,
    NvsValue.u16.injEq, NvsValue.u32.injEq, flagByte_injective.eq_iff, ← CString.ext_iff, true_and,
    and_true] at h
  simp [h]

/-- What an accepted configuration writes is read as it is. -/
theorem mqttSaves_saves {wolParseMac : List Char → Bool} {c : MqttConfig} (mac : Mac)
    (h : mqttRefuses wolParseMac c = false) : Saves (mqttFields mac) (mqttSaves c) := by
  simp only [mqttRefuses, Bool.or_eq_false_iff, decide_eq_false_iff_not] at h
  obtain ⟨⟨⟨hinterval, -⟩, -⟩, ⟨hmin, hmax⟩, -⟩ := h
  have hint : intervalValid c.intervalSeconds = true := by
    simpa [intervalValid] using hinterval
  have htimeout : watchdogTimeoutValid c.brokerWatchdogTimeoutSeconds = true := by
    rw [watchdogTimeoutValid, Bool.and_eq_true, decide_eq_true_eq, decide_eq_true_eq]
    exact ⟨by simpa using hmin, by simpa using hmax⟩
  simp only [Saves, mqttFields, mqttSaves, List.forall₂_cons, List.forall₂_nil_left_iff, and_true]
  exact ⟨⟨rfl, flagField_read _ _ _⟩, ⟨rfl, strField_read _ _ _⟩, ⟨rfl, strField_read _ _ _⟩,
    ⟨rfl, strField_read _ _ _⟩, ⟨rfl, strField_read _ _ _⟩, ⟨rfl, strField_read _ _ _⟩,
    ⟨rfl, strField_read _ _ _⟩, ⟨rfl, flagField_read _ _ _⟩, ⟨rfl, u16Field_read _ _ hint⟩,
    ⟨rfl, flagField_read _ _ _⟩, ⟨rfl, u32Field_read _ _ htimeout⟩⟩

/-! ### ntfy (`main/ntfy_integration.c`) -/

/-- `ntfy_integration_config_t`. Each text carries the bound of its array, terminator excluded. -/
structure NtfyConfig where
  enabled : Bool
  tailscaleAlerts : Bool
  commandsEnabled : Bool
  commandsOnlyWhenTailscaleDown : Bool
  allowDirectMac : Bool
  infoEnabled : Bool
  infoIncludeDetails : Bool
  server : CString 159
  topic : CString 95
  token : CString 159
  failureDelaySeconds : UInt16
  pollIntervalSeconds : UInt16
deriving DecidableEq

/-- The default server. -/
def defaultNtfyServer : CString 159 := .strlcpy 159 "https://ntfy.sh".toList

/-- `load_config`, over `defaults`. Unlike the MQTT settings, its numbers are not checked for their
    range when they are read. -/
def ntfyLoadConfig (nvs : Nvs) : NtfyConfig where
  enabled := loadFlag false (nvs "ntfy_en")
  tailscaleAlerts := loadFlag false (nvs "ntfy_alert")
  commandsEnabled := loadFlag false (nvs "ntfy_cmd")
  commandsOnlyWhenTailscaleDown := loadFlag true (nvs "ntfy_down")
  allowDirectMac := loadFlag false (nvs "ntfy_mac")
  infoEnabled := loadFlag true (nvs "ntfy_info")
  infoIncludeDetails := loadFlag false (nvs "ntfy_infdet")
  failureDelaySeconds := loadU16 (fun _ => true) 120 (nvs "ntfy_delay")
  pollIntervalSeconds := loadU16 (fun _ => true) 15 (nvs "ntfy_poll")
  server := loadString 159 defaultNtfyServer (nvs "ntfy_srv")
  topic := loadString 95 .empty (nvs "ntfy_topic")
  token := loadString 159 .empty (nvs "ntfy_token")

/-- `topic_valid`. -/
def topicValid (topic : List Char) : Bool :=
  !topic.isEmpty && topic.all fun c => c.isAlphanum || c == '-' || c == '_'

/-- `config_valid`. The endpoint has to be in order only where the service is enabled; the numbers
    always. -/
def ntfyConfigValid (c : NtfyConfig) : Bool :=
  let serverOk := ("https://".toList.isPrefixOf c.server.text ||
      "http://".toList.isPrefixOf c.server.text) &&
    !c.server.text.any fun ch => "@?#\r\n\t ".toList.contains ch
  (!c.enabled || (serverOk && topicValid c.topic.text)) &&
    c.failureDelaySeconds ≥ 15 && c.failureDelaySeconds ≤ 3600 &&
    c.pollIntervalSeconds ≥ 5 && c.pollIntervalSeconds ≤ 300

/-- The writes, in their order. The first that fails ends the save, with the ones before it in
    NVS. -/
def ntfySaves (c : NtfyConfig) : List (String × NvsValue) :=
  [("ntfy_en", .u8 (flagByte c.enabled)),
    ("ntfy_alert", .u8 (flagByte c.tailscaleAlerts)),
    ("ntfy_cmd", .u8 (flagByte c.commandsEnabled)),
    ("ntfy_down", .u8 (flagByte c.commandsOnlyWhenTailscaleDown)),
    ("ntfy_mac", .u8 (flagByte c.allowDirectMac)),
    ("ntfy_info", .u8 (flagByte c.infoEnabled)),
    ("ntfy_infdet", .u8 (flagByte c.infoIncludeDetails)),
    ("ntfy_srv", .str c.server.text),
    ("ntfy_topic", .str c.topic.text),
    ("ntfy_token", .str c.token.text),
    ("ntfy_delay", .u16 c.failureDelaySeconds),
    ("ntfy_poll", .u16 c.pollIntervalSeconds)]

/-- `s_config`, `s_last_event_id` and NVS. -/
structure NtfySettings where
  sConfig : NtfyConfig
  sLastEventId : CString 47
  nvs : Nvs

/-- `ntfy_integration_set_config`; a changed endpoint forgets the last event. Whether that key could
    be erased is not looked at. -/
def ntfyIntegrationSetConfig (s : NtfySettings) (c : NtfyConfig) (results : Nat → EspErr) :
    EspErr × NtfySettings :=
  if !ntfyConfigValid c then (espErrInvalidArg, s)
  else
    let saved := nvsSaveAll results s.nvs (ntfySaves c)
    if saved.1 ≠ espOk then (saved.1, { s with nvs := saved.2 })
    else if s.sConfig.server ≠ c.server ∨ s.sConfig.topic ≠ c.topic then
      (espOk,
        { sConfig := c
          sLastEventId := .empty
          nvs := nvsParamErase saved.2 "ntfy_last" (results 12) })
    else (espOk, { s with sConfig := c, nvs := saved.2 })

/-- The keys of the ntfy settings, and how they are read. The order is that of the writes. -/
def ntfyFields : List (Field String NvsValue) :=
  [flagField "ntfy_en" false, flagField "ntfy_alert" false, flagField "ntfy_cmd" false,
    flagField "ntfy_down" true, flagField "ntfy_mac" false, flagField "ntfy_info" true,
    flagField "ntfy_infdet" false, strField "ntfy_srv" 159 defaultNtfyServer,
    strField "ntfy_topic" 95 .empty, strField "ntfy_token" 159 .empty,
    u16Field "ntfy_delay" (fun _ => true) 120, u16Field "ntfy_poll" (fun _ => true) 15]

theorem ntfySaves_load (nvs : Nvs) : ntfySaves (ntfyLoadConfig nvs) = readAll ntfyFields nvs := rfl

theorem ntfyFields_nodup : (ntfyFields.map Field.key).Nodup := by
  show ["ntfy_en", "ntfy_alert", "ntfy_cmd", "ntfy_down", "ntfy_mac", "ntfy_info", "ntfy_infdet",
    "ntfy_srv", "ntfy_topic", "ntfy_token", "ntfy_delay", "ntfy_poll"].Nodup
  decide

theorem ntfySaves_injective : Function.Injective ntfySaves := by
  intro c d h
  rcases c with ⟨⟩
  rcases d with ⟨⟩
  simp only [ntfySaves, List.cons.injEq, Prod.mk.injEq, NvsValue.u8.injEq, NvsValue.str.injEq,
    NvsValue.u16.injEq, flagByte_injective.eq_iff, ← CString.ext_iff, true_and, and_true] at h
  simp [h]

/-- What a configuration writes is read as it is. -/
theorem ntfySaves_saves (c : NtfyConfig) : Saves ntfyFields (ntfySaves c) := by
  simp only [Saves, ntfyFields, ntfySaves, List.forall₂_cons, List.forall₂_nil_left_iff, and_true]
  exact ⟨⟨rfl, flagField_read _ _ _⟩, ⟨rfl, flagField_read _ _ _⟩, ⟨rfl, flagField_read _ _ _⟩,
    ⟨rfl, flagField_read _ _ _⟩, ⟨rfl, flagField_read _ _ _⟩, ⟨rfl, flagField_read _ _ _⟩,
    ⟨rfl, flagField_read _ _ _⟩, ⟨rfl, strField_read _ _ _⟩, ⟨rfl, strField_read _ _ _⟩,
    ⟨rfl, strField_read _ _ _⟩, ⟨rfl, u16Field_read _ _ rfl⟩, ⟨rfl, u16Field_read _ _ rfl⟩⟩

/-! ### 4via6 (`main/fourvia6.c`) -/

/-- The 4via6 settings in force. The prefix is a text that was computed from the others, and is kept
    with them. -/
structure Fourvia6Config where
  sEnabled : Bool
  sNetwork : Ip4
  sPrefixLen : Nat
  sSiteId : UInt16
  sLanCidr : CString 18
  sPrefixText : List Char
deriving DecidableEq

/-- A subnet that is valid, with the part of its text that `s_lan_cidr` holds. -/
def lanSubnet (cidr : Option (List Char)) : Option ((Ip4 × Nat) × CString 18) :=
  (FourVia6.parseCidr cidr).map fun subnet => (subnet, .strlcpy 18 (cidr.getD []))

/-- `fourvia6_init` on the stored flag, subnet and site. A subnet that cannot be read switches it
    off, and the site stays. -/
def fourvia6Config (flag : Bool) (cidr : Option (List Char)) (site : UInt16) : Fourvia6Config :=
  match lanSubnet cidr with
  | some (subnet, text) =>
    ⟨flag, subnet.1, subnet.2, site, text,
      (FourVia6.calculatePrefix cidr site FourVia6.prefixTextSize).2⟩
  | none => ⟨false, 0, 0, site, .empty, []⟩

/-- The stored flag. -/
def storedFlag (nvs : Nvs) : Bool := loadFlag false (nvs "ts_4v6_en")

/-- The stored subnet. -/
def storedLan (nvs : Nvs) : Option (List Char) := nvsParamGetStr (nvs "ts_4v6_lan")

/-- The stored site. -/
def storedSite (nvs : Nvs) : UInt16 := (nvsParamGetU16 (nvs "ts_4v6_site")).getD 0

/-- What `fourvia6_init` loads. -/
def fourvia6Load (nvs : Nvs) : Fourvia6Config :=
  fourvia6Config (storedFlag nvs) (storedLan nvs) (storedSite nvs)

/-- The checks of `fourvia6_set_config`. -/
def fourvia6Refuses (enabled : Bool) (lanCidr : Option (List Char)) : Bool :=
  (enabled && (FourVia6.parseCidr lanCidr).isNone) ||
    (!(lanCidr.getD []).isEmpty && (FourVia6.parseCidr lanCidr).isNone)

/-- The writes, in their order. A subnet that is left out is stored as an empty text. -/
def fourvia6Saves (enabled : Bool) (lanCidr : Option (List Char)) (siteId : UInt16) :
    List (String × NvsValue) :=
  [("ts_4v6_en", .u8 (flagByte enabled)),
    ("ts_4v6_lan", .str (lanCidr.getD [])),
    ("ts_4v6_site", .u16 siteId)]

/-- `fourvia6_set_config`, which loads what it has saved. So the settings in force are those in NVS,
    whenever all the writes succeed. -/
def fourvia6SetConfig (s : Fourvia6Config) (nvs : Nvs) (enabled : Bool)
    (lanCidr : Option (List Char)) (siteId : UInt16) (results : Nat → EspErr) :
    EspErr × Fourvia6Config × Nvs :=
  if fourvia6Refuses enabled lanCidr then (espErrInvalidArg, s, nvs)
  else
    let saved := nvsSaveAll results nvs (fourvia6Saves enabled lanCidr siteId)
    if saved.1 ≠ espOk then (saved.1, s, saved.2)
    else (espOk, fourvia6Load saved.2, saved.2)

/-- Keys of other settings are left alone. -/
theorem fourvia6SetConfig_nvs {s : Fourvia6Config} {nvs : Nvs} {enabled : Bool}
    {lanCidr : Option (List Char)} {siteId : UInt16} {results : Nat → EspErr} {key : String}
    (h : key ∉ ["ts_4v6_en", "ts_4v6_lan", "ts_4v6_site"]) :
    (fourvia6SetConfig s nvs enabled lanCidr siteId results).2.2 key = nvs key := by
  have hkey : key ∉ (fourvia6Saves enabled lanCidr siteId).map Prod.fst := h
  unfold fourvia6SetConfig
  dsimp only
  split_ifs
  · rfl
  · exact nvsSaveAll_of_notMem hkey
  · exact nvsSaveAll_of_notMem hkey

/-- What is loaded is what `fourvia6_init` leaves in the module's variables. -/
theorem fourvia6Config_eq_init (st : FourVia6.State) (flag : Nat) (cidr : Option (List Char))
    (site : UInt16) :
    let loaded := fourvia6Config (flag != 0) cidr site
    let inits := FourVia6.init st flag cidr site
    loaded.sEnabled = inits.1.enabled ∧ loaded.sNetwork = inits.1.network ∧
      loaded.sPrefixLen = inits.1.prefixLen ∧ loaded.sSiteId.toNat = inits.1.siteId ∧
      loaded.sPrefixText = inits.2 := by
  unfold fourvia6Config lanSubnet FourVia6.init
  rcases FourVia6.parseCidr cidr with _ | ⟨network, bits⟩ <;> simp

section Fourvia6

variable {flag flag' : Bool} {cidr cidr' : Option (List Char)} {site : UInt16}

/-- A valid subnet gives a text. -/
theorem calculatePrefix_ne_nil (h : FourVia6.parseCidr cidr ≠ none) :
    (FourVia6.calculatePrefix cidr site FourVia6.prefixTextSize).2 ≠ [] := by
  obtain ⟨⟨network, bits⟩, hsubnet⟩ := Option.ne_none_iff_exists'.mp h
  simp only [FourVia6.calculatePrefix, hsubnet, ne_eq, List.take_eq_nil_iff]
  rintro (hsize | hnil)
  · exact absurd hsize (by decide)
  · simp [FourVia6.prefixText] at hnil

/-- Without a valid subnet the flag does not count. The prefix is computed from the others, and so
    makes no difference. -/
theorem fourvia6Config_eq_iff : fourvia6Config flag cidr site = fourvia6Config flag' cidr' site ↔
    lanSubnet cidr = lanSubnet cidr' ∧ (lanSubnet cidr' ≠ none → flag = flag') := by
  unfold fourvia6Config lanSubnet
  -- A text is accepted or not, on either side.
  cases hcidr : FourVia6.parseCidr cidr with
  | none =>
    cases hcidr' : FourVia6.parseCidr cidr' with
    | none => simp
    | some subnet' =>
      -- A prefix is not empty, so the two sides differ.
      simp only [Option.map_none, Option.map_some, reduceCtorEq, false_and, iff_false]
      intro heq
      exact calculatePrefix_ne_nil (by simp [hcidr']) (congrArg Fourvia6Config.sPrefixText heq).symm
  | some subnet =>
    cases hcidr' : FourVia6.parseCidr cidr' with
    | none =>
      simp only [Option.map_none, Option.map_some, reduceCtorEq, false_and, iff_false]
      intro heq
      exact calculatePrefix_ne_nil (by simp [hcidr]) (congrArg Fourvia6Config.sPrefixText heq)
    | some subnet' =>
      -- With both accepted, the flag, the subnet and the text are compared one by one.
      simp only [Option.map_some, Option.some.injEq, Prod.mk.injEq, Fourvia6Config.mk.injEq,
        ne_eq, reduceCtorEq, not_false_eq_true, forall_const, true_and]
      constructor
      · rintro ⟨hflag, hnetwork, hbits, htext, -⟩
        exact ⟨⟨Prod.ext hnetwork hbits, htext⟩, hflag⟩
      · rintro ⟨⟨rfl, htext⟩, hflag⟩
        refine ⟨hflag, rfl, rfl, htext, ?_⟩
        rw [FourVia6.calculatePrefix, FourVia6.calculatePrefix, hcidr, hcidr']

/-- The first `k` writes load as before: the subnet, if it is among them, is the one loaded, and
    the flag too, unless no valid subnet is stored. -/
def Fourvia6Keeps (nvs : Nvs) (enabled : Bool) (lanCidr : Option (List Char)) (k : Nat) : Prop :=
  (1 ≤ k → lanSubnet (storedLan nvs) ≠ none → enabled = storedFlag nvs) ∧
    (2 ≤ k → lanSubnet (some (lanCidr.getD [])) = lanSubnet (storedLan nvs))

/-- **A save of the 4via6 settings that fails.** What decides is where it stops, and what the keys
    in front had before. -/
theorem fourvia6_unchanged_iff (nvs : Nvs) (enabled : Bool) (lanCidr : Option (List Char))
    (siteId : UInt16) (results : Nat → EspErr) :
    let saved := nvsSaveAll results nvs (fourvia6Saves enabled lanCidr siteId)
    (saved.1 ≠ espOk → fourvia6Load saved.2 = fourvia6Load nvs) ↔
      ∀ k, firstFailure results 3 = some k → Fourvia6Keeps nvs enabled lanCidr k := by
  have hflag : ∀ b, loadFlag false (some (.u8 (flagByte b))) = b := by
    intro b
    cases b <;> rfl
  show ((nvsSaveAll results nvs (fourvia6Saves enabled lanCidr siteId)).1 ≠ espOk → _) ↔ _
  rw [nvsSaveAll_eq]
  show _ ↔ ∀ k, firstFailure results (fourvia6Saves enabled lanCidr siteId).length = some k → _
  cases hfail : firstFailure results (fourvia6Saves enabled lanCidr siteId).length with
  | none => simp
  | some k =>
    obtain ⟨hk, herr⟩ := firstFailure_spec hfail
    replace hk : k < 3 := hk
    simp only [ne_eq, herr, not_false_eq_true, forall_const, Option.some.injEq, forall_eq']
    -- nothing is written, the flag, or the flag and the subnet
    obtain rfl | rfl | rfl : k = 0 ∨ k = 1 ∨ k = 2 := by omega
    · exact iff_of_true rfl ⟨by simp, by simp⟩
    · show fourvia6Config (loadFlag false (some (.u8 (flagByte enabled)))) (storedLan nvs)
        (storedSite nvs) = _ ↔ _
      rw [hflag, fourvia6Load, fourvia6Config_eq_iff]
      simp [Fourvia6Keeps]
    · show fourvia6Config (loadFlag false (some (.u8 (flagByte enabled))))
        (some (lanCidr.getD [])) (storedSite nvs) = _ ↔ _
      rw [hflag, fourvia6Load, fourvia6Config_eq_iff]
      rw [and_comm, Fourvia6Keeps, forall_prop_of_true (show 1 ≤ 2 by decide),
        forall_prop_of_true (show 2 ≤ 2 by decide)]

end Fourvia6

/-! ### The three saves -/

/-- **Saves that fail half-way.** When one of the three calls returns an error, the settings that
    the next boot would load are those from before exactly if the values written before the
    failing write are the values that were loaded already. -/
theorem multiKeySaves_unchanged_iff (results : Nat → EspErr) :
    (∀ (mac : Mac) (wolParseMac : List Char → Bool) (s : MqttSettings) (c : MqttConfig),
      let result := mqttIntegrationSetConfig wolParseMac s c results
      (result.1 ≠ espOk → mqttLoadConfig mac result.2.nvs = mqttLoadConfig mac s.nvs) ↔
        (mqttRefuses wolParseMac c = false → ∀ k, firstFailure results 11 = some k →
          (mqttSaves c).take k = (mqttSaves (mqttLoadConfig mac s.nvs)).take k)) ∧
    (∀ (s : NtfySettings) (c : NtfyConfig),
      let result := ntfyIntegrationSetConfig s c results
      (result.1 ≠ espOk → ntfyLoadConfig result.2.nvs = ntfyLoadConfig s.nvs) ↔
        (ntfyConfigValid c = true → ∀ k, firstFailure results 12 = some k →
          (ntfySaves c).take k = (ntfySaves (ntfyLoadConfig s.nvs)).take k)) ∧
    (∀ (s : Fourvia6Config) (nvs : Nvs) (enabled : Bool) (lanCidr : Option (List Char))
        (siteId : UInt16),
      let result := fourvia6SetConfig s nvs enabled lanCidr siteId results
      (result.1 ≠ espOk → fourvia6Load result.2.2 = fourvia6Load nvs) ↔
        (fourvia6Refuses enabled lanCidr = false → ∀ k, firstFailure results 3 = some k →
          Fourvia6Keeps nvs enabled lanCidr k)) := by
  refine ⟨?_, ?_, ?_⟩
  · intro mac wolParseMac s c
    -- a refusal comes before the first write
    cases hrefuses : mqttRefuses wolParseMac c with
    | true => simp [mqttIntegrationSetConfig, hrefuses]
    | false =>
      have hsave := save_unchanged_iff (mqttFields_nodup mac) mqttSaves_injective
        (mqttSaves_load mac) (mqttSaves_saves mac hrefuses) s.nvs results
      rw [forall_prop_of_true rfl]
      refine Iff.trans ?_ hsave
      unfold mqttIntegrationSetConfig
      by_cases herr : (nvsSaveAll results s.nvs (mqttSaves c)).1 = espOk <;> simp [hrefuses, herr]
  · intro s c
    cases hvalid : ntfyConfigValid c with
    | false => simp [ntfyIntegrationSetConfig, hvalid]
    | true =>
      have hsave := save_unchanged_iff ntfyFields_nodup ntfySaves_injective ntfySaves_load
        (ntfySaves_saves c) s.nvs results
      rw [forall_prop_of_true rfl]
      refine Iff.trans ?_ hsave
      unfold ntfyIntegrationSetConfig
      by_cases herr : (nvsSaveAll results s.nvs (ntfySaves c)).1 = espOk
      · simp only [hvalid, herr, ne_eq, not_true_eq_false, false_imp_iff, iff_true, if_false,
          Bool.not_true, Bool.false_eq_true]
        split_ifs <;> simp
      · simp [hvalid, herr]
  · intro s nvs enabled lanCidr siteId
    cases hrefuses : fourvia6Refuses enabled lanCidr with
    | true => simp [fourvia6SetConfig, hrefuses]
    | false =>
      rw [forall_prop_of_true rfl]
      refine Iff.trans ?_ (fourvia6_unchanged_iff nvs enabled lanCidr siteId results)
      unfold fourvia6SetConfig
      by_cases herr : (nvsSaveAll results nvs (fourvia6Saves enabled lanCidr siteId)).1 = espOk <;>
        simp [hrefuses, herr]

/-! ### A new broker with the old password -/

/-- The settings in force. The cases below change one of them, with a write that fails. -/
def oldMqtt : MqttConfig where
  enabled := true
  homeAssistantDiscovery := false
  uri := .strlcpy 159 "mqtt://10.0.0.2".toList
  username := .strlcpy 63 "router".toList
  password := .strlcpy 95 "s3cret".toList
  baseTopic := .strlcpy 95 "router".toList
  discoveryPrefix := defaultDiscovery
  intervalSeconds := 30
  brokerWatchdogEnabled := false
  brokerWatchdogTimeoutSeconds := 300
  brokerWatchdogWolMac := .empty

/-- The settings that are saved: another broker, without a password. -/
def newMqtt : MqttConfig :=
  { oldMqtt with uri := .strlcpy 159 "mqtt://203.0.113.7".toList, password := .empty }

/-- The fourth write fails; the next boot sends the old password to the new broker. -/
theorem new_broker_with_old_password :
    ¬ ∀ (mac : Mac) (wolParseMac : List Char → Bool) (s : MqttSettings) (c : MqttConfig)
      (results : Nat → EspErr), (mqttIntegrationSetConfig wolParseMac s c results).1 ≠ espOk →
        mqttLoadConfig mac (mqttIntegrationSetConfig wolParseMac s c results).2.nvs =
          mqttLoadConfig mac s.nvs := by
  intro h
  have huri := congrArg MqttConfig.uri
    (h ⟨0, 0, 0, 0, 0, 0⟩ (fun _ => false) ⟨oldMqtt, writeAll (fun _ => none) (mqttSaves oldMqtt)⟩
      newMqtt (fun i => if i = 3 then 0x1105 else espOk) (by decide))
  revert huri
  decide

end SubnetRouter.Settings
