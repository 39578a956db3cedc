import SubnetRouter.Lib.Table
import SubnetRouter.Settings.Json
import SubnetRouter.Settings.Tables

namespace SubnetRouter.Settings

open Lib CountedTable

/-!
# The secrets backup (`main/web_ui.c`)

`system_secrets_get_handler` writes the uplink networks and four other secrets into a JSON
bundle, `system_secrets_post_handler` takes such a bundle and replaces the network table by the
networks in it.

* `systemSecretsGetHandler`, `systemSecretsPostHandler` — the two handlers.
* `restoreNetwork_eq` — what comes back of one network.
* `restore_unchanged_iff` — when a restored table is the one that was saved.
* `static_address_lost` — a network whose static address does not come back.
-/

/-! ### The handlers -/

/-- `wifi_networks_get`. -/
def wifiNetworksGet (t : CountedTable WifiNetwork wifiNetworksMax) (i : Nat) :
    Option WifiNetwork :=
  (t.slots[i]?).filter fun n => n.valid && !n.ssid.text.isEmpty

/-- A number as the bundle has it. -/
def byteNumber (b : UInt8) : Json := .number b.toNat.toInt32 b.toNat.toInt32

/-- A network in the bundle. The static addresses are not among its members. -/
def networkJson (n : WifiNetwork) : Json := .object
  [("ssid", .string n.ssid.text), ("password", .string n.passwd.text),
    ("eap_method", byteNumber n.eapMethod), ("eap_phase2", byteNumber n.eapPhase2),
    ("eap_cert_bundle", .bool (n.eapUseCertBundle != 0)),
    ("eap_identity", .string n.eapIdentity.text), ("eap_username", .string n.eapUsername.text),
    ("eap_password", .string n.eapPassword.text)]

/-- The networks that the bundle lists. -/
def listedNetworks (t : CountedTable WifiNetwork wifiNetworksMax) : List WifiNetwork :=
  (List.range t.count).filterMap (wifiNetworksGet t)

/-- A text setting, or the empty text. -/
def storedText (nvs : Nvs) (key : String) : Json :=
  .string ((nvsParamGetStr (nvs key)).getD [])

/-- `system_secrets_get_handler`. The passwords come from NVS, and the networks from the table in
    RAM. -/
def systemSecretsGetHandler (nvs : Nvs) (t : CountedTable WifiNetwork wifiNetworksMax) : Json :=
  .object
    [("auth_key", storedText nvs "ts_authkey"), ("ap_password", storedText nvs "ap_passwd"),
      ("mqtt_password", storedText nvs "mqtt_pass"), ("ntfy_token", storedText nvs "ntfy_token"),
      ("networks", .array ((listedNetworks t).map networkJson))]

/-- `save_str_if_present`; a write that fails is recorded for the response only. -/
def saveStrIfPresent (nvs : Nvs) (root : Json) (jsonKey nvsKey : String) (result : EspErr) : Nvs :=
  match root.stringItem jsonKey with
  | some text => (nvsParamSet nvs nvsKey (.str (CString.visible text)) result).2
  | none => nvs

/-- `strlcpy` of a member into a cleared field, if it is a string. -/
def copyString (e : Json) (key : String) (cap : Nat) : CString cap :=
  match e.stringItem key with
  | some text => .strlcpy cap text
  | none => .empty

/-- `(uint8_t)` of a member, if it is a number. -/
def copyByte (e : Json) (key : String) : UInt8 :=
  match Json.asValueint (e.getObjectItem key) with
  | some v => UInt8.ofInt v.toInt
  | none => 0

/-- The network that is built from an item of the bundle, in a cleared entry; `none` if it has
    no name. -/
def restoreNetwork (e : Json) : Option WifiNetwork :=
  match e.stringItem "ssid" with
  | none => none
  | some ssid =>
    if CString.visible ssid = [] then none
    else some { WifiNetwork.blank with
      ssid := .strlcpy 32 ssid
      passwd := copyString e "password" 64
      eapMethod := copyByte e "eap_method"
      eapPhase2 := copyByte e "eap_phase2"
      eapUseCertBundle := match Json.asBool (e.getObjectItem "eap_cert_bundle") with
        | some b => flagByte b
        | none => 0
      eapIdentity := copyString e "eap_identity" 63
      eapUsername := copyString e "eap_username" 63
      eapPassword := copyString e "eap_password" 63
      valid := true }

/-- `system_secrets_post_handler` for a session that is let in; `contentLen` is the length of
    the body, `root` what it parses to, and the results are those of the NVS calls. -/
def systemSecretsPostHandler (nvs : Nvs) (s : SavedTable WifiNetwork wifiNetworksMax)
    (contentLen : Nat) (root : Option Json) (results : Nat → EspErr) (r : NvsCalls) :
    Nvs × SavedTable WifiNetwork wifiNetworksMax :=
  -- `recv_body` refuses what does not fit its buffer
  if contentLen = 0 ∨ 4096 ≤ contentLen then (nvs, s)
  else
    match root with
    | none => (nvs, s)
    | some root =>
      let nvs := saveStrIfPresent nvs root "auth_key" "ts_authkey" (results 0)
      let nvs := saveStrIfPresent nvs root "ap_password" "ap_passwd" (results 1)
      let nvs := saveStrIfPresent nvs root "mqtt_password" "mqtt_pass" (results 2)
      let nvs := saveStrIfPresent nvs root "ntfy_token" "ntfy_token" (results 3)
      match Json.asArray (root.getObjectItem "networks") with
      | none => (nvs, s)
      | some items =>
        let arr := (items.filterMap restoreNetwork).take wifiNetworksMax
        (nvs, (wifiNetworksSetAll s (some arr) arr.length r).2)

/-! ### One network -/

variable {n : WifiNetwork} {t : CountedTable WifiNetwork wifiNetworksMax}
  {l : List WifiNetwork}

/-- `wifi_networks_get` finds the network. -/
def WifiNetwork.Usable (n : WifiNetwork) : Prop := n.valid = true ∧ n.ssid.text ≠ []

/-- Nothing is set that the bundle leaves out. The flag of the certificates has one of the two
    values that a bundle can bring back. -/
structure WifiNetwork.Restorable (n : WifiNetwork) : Prop where
  staticIp : n.staticIp = .empty
  subnet : n.subnet = .empty
  gateway : n.gateway = .empty
  dns : n.dns = .empty
  eapUseCertBundle : n.eapUseCertBundle = 0 ∨ n.eapUseCertBundle = 1

/-- A byte survives the way through a number. -/
theorem copyByte_byteNumber {e : Json} {key : String} {b : UInt8}
    (h : e.getObjectItem key = some (byteNumber b)) : copyByte e key = b := by
  have hnat : (b.toNat.toInt32).toInt = b.toNat := by
    have hlt := b.toNat_lt
    exact Int32.toInt_ofNat_of_lt (by omega)
  have hmod : ((b.toNat : Int) % 2 ^ 8).toNat = b.toNat := by
    have hlt := b.toNat_lt
    omega
  rw [copyByte, h]
  show UInt8.ofInt (b.toNat.toInt32).toInt = b
  rw [hnat, UInt8.ofInt, hmod, UInt8.ofNat_toNat]

/-- A text survives. -/
theorem copyString_string {e : Json} {key : String} {cap : Nat} {s : CString cap}
    (h : e.getObjectItem key = some (.string s.text)) : copyString e key cap = s := by
  rw [copyString, Json.stringItem, h]
  exact CString.strlcpy_text s

/-- The network that comes back: the fields of the bundle, the others cleared. -/
def WifiNetwork.restored (n : WifiNetwork) : WifiNetwork :=
  { WifiNetwork.blank with
    ssid := n.ssid, passwd := n.passwd, eapMethod := n.eapMethod, eapPhase2 := n.eapPhase2
    eapUseCertBundle := flagByte (n.eapUseCertBundle != 0), eapIdentity := n.eapIdentity
    eapUsername := n.eapUsername, eapPassword := n.eapPassword, valid := true }

/-- **What comes back of a network** that can be used. Every member is read where it was written. -/
theorem restoreNetwork_eq (h : n.Usable) :
    restoreNetwork (networkJson n) = some n.restored := by
  have hssid : (networkJson n).stringItem "ssid" = some n.ssid.text := by
    simp [networkJson, Json.stringItem, Json.getObjectItem, Json.sameName, Json.asString]
  have hbundle : Json.asBool ((networkJson n).getObjectItem "eap_cert_bundle")
      = some (n.eapUseCertBundle != 0) := by
    simp [networkJson, Json.getObjectItem, Json.sameName, Json.asBool]
  have hvisible : CString.visible n.ssid.text ≠ [] := by
    rw [CString.visible_eq n.ssid.noNul]
    exact h.2
  -- the other members are read back as they were written
  have hpasswd : copyString (networkJson n) "password" 64 = n.passwd :=
    copyString_string (by simp [networkJson, Json.getObjectItem, Json.sameName])
  have hmethod : copyByte (networkJson n) "eap_method" = n.eapMethod :=
    copyByte_byteNumber (by simp [networkJson, Json.getObjectItem, Json.sameName])
  have hphase2 : copyByte (networkJson n) "eap_phase2" = n.eapPhase2 :=
    copyByte_byteNumber (by simp [networkJson, Json.getObjectItem, Json.sameName])
  have hidentity : copyString (networkJson n) "eap_identity" 63 = n.eapIdentity :=
    copyString_string (by simp [networkJson, Json.getObjectItem, Json.sameName])
  have husername : copyString (networkJson n) "eap_username" 63 = n.eapUsername :=
    copyString_string (by simp [networkJson, Json.getObjectItem, Json.sameName])
  have hpassword : copyString (networkJson n) "eap_password" 63 = n.eapPassword :=
    copyString_string (by simp [networkJson, Json.getObjectItem, Json.sameName])
  rw [restoreNetwork, hssid]
  simp only [hvisible, if_false, hbundle, hpasswd, hmethod, hphase2, hidentity, husername,
    hpassword, CString.strlcpy_text]
  rfl

/-- A network that comes back as it was. -/
theorem restored_eq_self_iff (h : n.Usable) : n.restored = n ↔ n.Restorable := by
  have hflag : flagByte (n.eapUseCertBundle != 0) = n.eapUseCertBundle ↔
      n.eapUseCertBundle = 0 ∨ n.eapUseCertBundle = 1 := by
    by_cases hzero : n.eapUseCertBundle = 0
    · simp [hzero, flagByte]
    · rw [or_iff_right hzero, flagByte, if_pos (by simpa using hzero)]
      exact eq_comm
  constructor
  · intro heq
    refine ⟨?_, ?_, ?_, ?_, hflag.mp (congrArg WifiNetwork.eapUseCertBundle heq)⟩
    · exact (congrArg WifiNetwork.staticIp heq).symm
    · exact (congrArg WifiNetwork.subnet heq).symm
    · exact (congrArg WifiNetwork.gateway heq).symm
    · exact (congrArg WifiNetwork.dns heq).symm
  · -- the bundle carries all the other fields
    rintro ⟨hstatic, hsubnet, hgateway, hdns, hbundle⟩
    rcases n with ⟨⟩
    simp only [WifiNetwork.restored, WifiNetwork.blank, WifiNetwork.mk.injEq, true_and, and_true]
    exact ⟨hstatic.symm, hsubnet.symm, hgateway.symm, hdns.symm, h.1.symm, hflag.mpr hbundle⟩

/-! ### The table -/

/-- The networks listed are the usable ones in the first slots. -/
theorem listedNetworks_eq (t : CountedTable WifiNetwork wifiNetworksMax) :
    listedNetworks t = (t.slots.take t.count).filter fun n => n.valid && !n.ssid.text.isEmpty := by
  rw [← filterMap_range_getElem?, List.filter_filterMap]
  rfl

theorem usable_iff : (n.valid && !n.ssid.text.isEmpty) = true ↔ n.Usable := by
  simp [WifiNetwork.Usable]

theorem usable_of_mem_listed (h : n ∈ listedNetworks t) : n.Usable := by
  rw [listedNetworks_eq] at h
  exact usable_iff.mp (List.mem_filter.mp h).2

/-- No more networks are listed than the table has slots. -/
theorem length_listed_le : (listedNetworks t).length ≤ wifiNetworksMax := by
  have hslots : (listedNetworks t).Sublist t.slots := by
    rw [listedNetworks_eq]
    exact List.filter_sublist.trans (List.take_sublist _ _)
  exact t.length_slots ▸ hslots.length_le

/-- A table with usable networks in front lists them. -/
theorem listed_of_filled (h : t.Filled WifiNetwork.blank l) (husable : ∀ n ∈ l, n.Usable) :
    listedNetworks t = l := by
  rw [listedNetworks_eq, h.1, h.2, List.take_left, List.filter_eq_self]
  exact fun n hn => usable_iff.mpr (husable n hn)

/-- The networks that come back of a table. -/
theorem restored_listed : ((listedNetworks t).map networkJson).filterMap restoreNetwork =
    (listedNetworks t).map WifiNetwork.restored := by
  rw [List.filterMap_map, ← List.filterMap_eq_map]
  exact List.filterMap_congr fun n hn => restoreNetwork_eq (usable_of_mem_listed hn)

/-- All of them are kept as they are. -/
theorem kept_restored : kept WifiNetwork.keep WifiNetwork.mark
    ((listedNetworks t).map WifiNetwork.restored) =
      (listedNetworks t).map WifiNetwork.restored := by
  have hkeep : ((listedNetworks t).map WifiNetwork.restored).filter WifiNetwork.keep =
      (listedNetworks t).map WifiNetwork.restored := by
    rw [List.filter_eq_self]
    intro m hm
    obtain ⟨n, hn, rfl⟩ := List.mem_map.mp hm
    have hssid := (usable_of_mem_listed hn).2
    simpa [WifiNetwork.keep, WifiNetwork.restored] using hssid
  rw [kept, hkeep, List.map_map]
  rfl

/-- The restored table, if the body is accepted and the array found. -/
theorem systemSecretsPost_ram (nvs : Nvs) {s : SavedTable WifiNetwork wifiNetworksMax}
    {contentLen : Nat} (hlen : ¬ (contentLen = 0 ∨ 4096 ≤ contentLen)) (results : Nat → EspErr)
    (r : NvsCalls) :
    (systemSecretsPostHandler nvs s contentLen
        (some (systemSecretsGetHandler nvs s.ram)) results r).2.ram =
      (clear wifiNetworksMax WifiNetwork.blank).fill WifiNetwork.keep WifiNetwork.mark
        ((listedNetworks s.ram).map WifiNetwork.restored) := by
  have hnetworks : Json.asArray ((systemSecretsGetHandler nvs s.ram).getObjectItem "networks") =
      some ((listedNetworks s.ram).map networkJson) := by
    simp [systemSecretsGetHandler, Json.getObjectItem, Json.sameName, Json.asArray]
  have hfits : ((listedNetworks s.ram).map WifiNetwork.restored).length ≤ wifiNetworksMax := by
    rw [List.length_map]
    exact length_listed_le
  rw [systemSecretsPostHandler, if_neg hlen]
  simp only [hnetworks, restored_listed, List.take_of_length_le hfits]
  rw [wifiNetworksSetAll, arrayRequest, SavedTable.setAll, SavedTable.replace_ram, arrayEntries,
    Int.toNat_natCast, Nat.min_eq_left hfits, List.take_length]

/-- A table that holds the restored networks is one of restorable networks. -/
theorem filled_restored_iff : t.Filled WifiNetwork.blank
      ((listedNetworks t).map WifiNetwork.restored) ↔
    t.Filled WifiNetwork.blank (listedNetworks t) ∧ ∀ n ∈ listedNetworks t, n.Restorable := by
  constructor
  · intro h
    have husable : ∀ m ∈ (listedNetworks t).map WifiNetwork.restored, m.Usable := by
      intro m hm
      obtain ⟨n, hn, rfl⟩ := List.mem_map.mp hm
      exact ⟨rfl, (usable_of_mem_listed hn).2⟩
    have hself := listed_of_filled h husable
    refine ⟨hself ▸ h, fun n hn => (restored_eq_self_iff (usable_of_mem_listed hn)).mp ?_⟩
    -- position by position, the list is its own image
    obtain ⟨i, hi⟩ := List.mem_iff_getElem?.mp hn
    have himage := congrArg (·[i]?) hself
    simp only [List.getElem?_map, hi, Option.map_some, Option.some.injEq] at himage
    exact himage.symm
  · rintro ⟨hfilled, hrestorable⟩
    have hself : (listedNetworks t).map WifiNetwork.restored = listedNetworks t := by
      conv_rhs => rw [← List.map_id (listedNetworks t)]
      exact List.map_congr_left fun n hn =>
        (restored_eq_self_iff (usable_of_mem_listed hn)).mpr (hrestorable n hn)
    rwa [hself]

/-- **The backup round trip.** Posting the bundle of a table leaves the table as it was exactly if
    the body is refused for its length, or the table consists of its usable networks alone and
    none of them has a static address, a DNS server or a flag that the bundle does not carry. -/
theorem secrets_round_trip_iff (nvs : Nvs) (s : SavedTable WifiNetwork wifiNetworksMax)
    (contentLen : Nat) (results : Nat → EspErr) (r : NvsCalls) :
    (systemSecretsPostHandler nvs s contentLen
        (some (systemSecretsGetHandler nvs s.ram)) results r).2.ram = s.ram ↔
      (contentLen = 0 ∨ 4096 ≤ contentLen) ∨
        (s.ram.Filled WifiNetwork.blank (listedNetworks s.ram) ∧
          ∀ n ∈ listedNetworks s.ram, n.Restorable) := by
  by_cases hlen : contentLen = 0 ∨ 4096 ≤ contentLen
  · rw [systemSecretsPostHandler, if_pos hlen]
    exact iff_of_true rfl (.inl hlen)
  · have hfits : ((listedNetworks s.ram).map WifiNetwork.restored).length ≤ wifiNetworksMax := by
      rw [List.length_map]
      exact length_listed_le
    rw [systemSecretsPost_ram nvs hlen, fill_eq_iff hfits, kept_restored, filled_restored_iff,
      or_iff_right hlen]

/-- The uplink at home, with a static address. The address is what it loses. -/
def staticNetwork : WifiNetwork :=
  { WifiNetwork.blank with
    ssid := .strlcpy 32 "home".toList
    passwd := .strlcpy 64 "correct horse".toList
    staticIp := .strlcpy 15 "192.168.1.50".toList
    subnet := .strlcpy 15 "255.255.255.0".toList
    gateway := .strlcpy 15 "192.168.1.1".toList
    valid := true }

/-- Its table. -/
def staticTable : SavedTable WifiNetwork wifiNetworksMax :=
  (wifiNetworksSetAll ⟨clear _ WifiNetwork.blank, true, none⟩ (some [staticNetwork]) 1
    .succeed).2

/-- The static address does not come back. -/
theorem static_address_lost :
    ¬ ∀ (nvs : Nvs) (s : SavedTable WifiNetwork wifiNetworksMax) (contentLen : Nat),
      (systemSecretsPostHandler nvs s contentLen (some (systemSecretsGetHandler nvs s.ram))
        (fun _ => espOk) .succeed).2.ram = s.ram := by
  intro h
  have hslots := congrArg (fun t => t.slots.map fun n => n.staticIp)
    (h (fun _ => none) staticTable 300)
  revert hslots
  decide

end SubnetRouter.Settings
