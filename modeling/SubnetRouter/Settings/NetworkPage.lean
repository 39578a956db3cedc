import SubnetRouter.Settings.Resubmitted
import SubnetRouter.Settings.SecretsBackup

namespace SubnetRouter.Settings

open Lib CountedTable

/-!
# The page of the uplink networks (`main/web_ui.c`, `main/wifi_networks.c`)

The page never shows a password.  It posts the networks without those that were not typed in again,
and the handler takes the missing ones from the table, by the name of the network.

* `networkItem`, `networkOf` — a network on the page, and what is made of one that is posted.
* `networkSaveHandler`, `wifiNetworksStart`, `wifiInitSta` — the handler, and a restart with its
  migrations.
* `NetworkDevice` — the table, and the copy of one network that the Wi-Fi driver keeps.
* `passwords_stay_with_their_network` — no run gives a password to a network of another name, but
  for names that are too long for the driver.
* `networks_resubmitted_iff` — when a page that is saved as it was read changes nothing.
-/

/-! ### What the page reads -/

/-- A text, unless it is empty. -/
def textItem {cap : Nat} (key : String) (text : CString cap) : List (String × Json) :=
  if text.text = [] then [] else [(key, .string text.text)]

/-- `network_handler`, an entry of `networks`. Of the passwords it only says, for EAP, whether there
    is one. -/
def networkItem (n : WifiNetwork) : Json :=
  .object [("ssid", .string n.ssid.text),
    ("static_ip", .object (textItem "ip" n.staticIp ++ textItem "mask" n.subnet ++
      textItem "gw" n.gateway ++ textItem "dns" n.dns)),
    ("eap", .object [("method", byteNumber n.eapMethod), ("phase2", byteNumber n.eapPhase2),
      ("cert_bundle", .bool (n.eapUseCertBundle != 0)),
      ("identity", .string n.eapIdentity.text), ("username", .string n.eapUsername.text),
      ("has_password", .bool (!n.eapPassword.text.isEmpty))])]

/-- `network_handler`, as to the networks. -/
def networkHandler (t : CountedTable WifiNetwork wifiNetworksMax) : Json :=
  .array ((listedNetworks t).map networkItem)

/-! ### What it saves -/

/-- The entry that `lookup_existing_password` and `lookup_existing_eap_password` find. -/
def lookupExisting (t : CountedTable WifiNetwork wifiNetworksMax) (ssid : CString 32) :
    Option WifiNetwork :=
  (listedNetworks t).find? fun n => n.ssid.text = ssid.text

/-- `lookup_existing_password`, into a cleared field. -/
def lookupExistingPassword (t : CountedTable WifiNetwork wifiNetworksMax) (ssid : CString 32) :
    CString 64 :=
  ((lookupExisting t ssid).map WifiNetwork.passwd).getD .empty

/-- `lookup_existing_eap_password`, into a cleared field. -/
def lookupExistingEapPassword (t : CountedTable WifiNetwork wifiNetworksMax) (ssid : CString 32) :
    CString 63 :=
  ((lookupExisting t ssid).map WifiNetwork.eapPassword).getD .empty

/-- A member that is a text and not empty. -/
def typedText (e : Json) (key : String) : Option (List Char) :=
  (e.stringItem key).filter fun text => CString.visible text ≠ []

/-- A password that was typed in, or else the one that is there. -/
def typedOr {cap : Nat} (e : Json) (key : String) (existing : CString cap) : CString cap :=
  match typedText e key with
  | some text => .strlcpy cap text
  | none => existing

/-- The static address of an entry. Without the object all four fields stay empty; with it a member
    that is missing is empty. -/
def withStaticIp (sip : Option Json) (n : WifiNetwork) : WifiNetwork :=
  match Json.asObject sip with
  | none => n
  | some sip => { n with
      staticIp := copyString sip "ip" 15
      subnet := copyString sip "mask" 15
      gateway := copyString sip "gw" 15
      dns := copyString sip "dns" 15 }

/-- The EAP block of an entry. Its password is the one that was typed, or the one saved under the
    name. -/
def withEap (t : CountedTable WifiNetwork wifiNetworksMax) (eap : Option Json) (n : WifiNetwork) :
    WifiNetwork :=
  match Json.asObject eap with
  | none => n
  | some eap => { n with
      eapMethod := copyByte eap "method"
      eapPhase2 := copyByte eap "phase2"
      eapUseCertBundle := flagByte ((Json.asBool (eap.getObjectItem "cert_bundle")).getD false)
      eapIdentity := copyString eap "identity" 63
      eapUsername := copyString eap "username" 63
      eapPassword := typedOr eap "password" (lookupExistingEapPassword t n.ssid) }

/-- The network of an entry in a cleared slot, with its name and password; `none` without a name. A
    password that was not typed is looked up under the name. -/
def namedNetwork (t : CountedTable WifiNetwork wifiNetworksMax) (e : Json) : Option WifiNetwork :=
  (typedText e "ssid").map fun ssid =>
    { WifiNetwork.blank with
      ssid := .strlcpy 32 ssid
      passwd := typedOr e "password" (lookupExistingPassword t (.strlcpy 32 ssid))
      valid := true }

/-- `network_save_handler`, an entry of `networks`. -/
def networkOf (t : CountedTable WifiNetwork wifiNetworksMax) (e : Json) : Option WifiNetwork :=
  (namedNetwork t e).map fun n =>
    withEap t (e.getObjectItem "eap") (withStaticIp (e.getObjectItem "static_ip") n)

/-- `network_save_handler`, the member `sta` of an older page. -/
def networkOfSta (t : CountedTable WifiNetwork wifiNetworksMax) (root sta : Json) :
    Option WifiNetwork :=
  (namedNetwork t sta).map fun n => withStaticIp (root.getObjectItem "static_ip") n

/-- The networks of a request: none to be saved, or those that replace the table. A request of the
    older form has one network, in `sta`. -/
def postedNetworks (t : CountedTable WifiNetwork wifiNetworksMax) (root : Json) :
    Option (List WifiNetwork) :=
  match Json.asArray (root.getObjectItem "networks") with
  | some items => some ((items.filterMap (networkOf t)).take wifiNetworksMax)
  | none =>
    match Json.asObject (root.getObjectItem "sta") with
    | none => none
    | some sta => (networkOfSta t root sta).map fun one => [one]

/-- `network_save_handler`, as to the networks. A request that is turned away, or names no networks,
    leaves the table alone. -/
def networkSaveHandler (s : SavedTable WifiNetwork wifiNetworksMax) (r : TableRequest) :
    SavedTable WifiNetwork wifiNetworksMax :=
  match requestRoot 4096 r with
  | .error _ => s
  | .ok root =>
    match postedNetworks s.ram root with
    | none => s
    | some arr => (wifiNetworksSetAll s (some arr) arr.length r.nvs).2

/-! ### A restart -/

/-- What the Wi-Fi driver keeps of its own: `ssid[32]` and `password[64]` of a `wifi_sta_config_t`,
    which have a byte less than the fields of a network. -/
structure StaConfig where
  ssid : CString 31
  password : CString 63
deriving DecidableEq

/-- The cleared configuration. -/
def StaConfig.blank : StaConfig := ⟨.empty, .empty⟩

/-- The table of networks, and the configuration in the NVS of the driver. -/
structure NetworkDevice where
  table : SavedTable WifiNetwork wifiNetworksMax
  driver : StaConfig

/-- A device of which neither has been written. -/
def NetworkDevice.new : NetworkDevice := ⟨.new _ .blank, .blank⟩

/-- What `wifi_apply_eap` returns. -/
def wifiApplyEap (n : WifiNetwork) : Bool := n.eapMethod != 0 && !n.eapUsername.text.isEmpty

/-- `wifi_apply_network`, as to the configuration of the driver; the result of
    `esp_wifi_set_config` is dropped. -/
def NetworkDevice.wifiApplyNetwork (d : NetworkDevice) (idx : Nat) (setConfig : Bool) :
    NetworkDevice :=
  match wifiNetworksGet d.table.ram idx with
  | none => d
  | some n =>
    let password := if wifiApplyEap n then .empty else .strlcpy 63 n.passwd.text
    if setConfig then { d with driver := ⟨.strlcpy 31 n.ssid.text, password⟩ } else d

/-- What a restart meets: whether the blob can be read, the keys of the single-network firmware,
    whether the driver's configuration is read and written, and the calls of up to three saves. -/
structure NetworkBoot where
  readable : Bool
  nvs : Nvs
  getConfig : Bool
  setConfig : Bool
  calls : Fin 3 → NvsCalls

/-- A text setting, into a cleared field. -/
def storedString (nvs : Nvs) (key : String) (cap : Nat) : CString cap :=
  match nvsParamGetStr (nvs key) with
  | some text => .strlcpy cap text
  | none => .empty

/-- `migrate_legacy_into`. There is no network where the legacy keys have no name. -/
def migrateLegacyInto (nvs : Nvs) : Option WifiNetwork :=
  match nvsParamGetStr (nvs "ssid") with
  | none => none
  | some ssid =>
    if CString.visible ssid = [] then none
    else some { WifiNetwork.blank with
      ssid := .strlcpy 32 ssid
      passwd := storedString nvs "passwd" 64
      staticIp := storedString nvs "static_ip" 15
      subnet := storedString nvs "subnet" 15
      gateway := storedString nvs "gateway" 15
      valid := true }

/-- `wifi_networks_init`, where a blob has the current layout. The legacy keys are read only where
    there is no table to load. -/
def wifiNetworksStart (s : SavedTable WifiNetwork wifiNetworksMax) (b : NetworkBoot) :
    SavedTable WifiNetwork wifiNetworksMax :=
  if b.readable ∧ s.blob ≠ none then { s with ram := wifiNetworksInit s.blob, loaded := true }
  else
    match migrateLegacyInto b.nvs with
    | some tmp => { (wifiNetworksSetAll s (some [tmp]) 1 (b.calls 0)).2 with loaded := true }
    | none => { s with ram := wifiNetworksInit none, loaded := true }

/-- The network of the placeholder that older builds shipped, given its name and password. -/
def WifiNetwork.isPlaceholder (placeholder : List Char × List Char) (n : WifiNetwork) : Bool :=
  n.ssid.text == placeholder.1 && n.passwd.text == placeholder.2

/-- `wifi_init_sta`, the removal of the placeholder. It goes only when it is the one network there
    is. -/
def removePlaceholder (placeholder : List Char × List Char)
    (s : SavedTable WifiNetwork wifiNetworksMax) (r : NvsCalls) :
    SavedTable WifiNetwork wifiNetworksMax :=
  if s.ram.count = 1 ∧ (wifiNetworksGet s.ram 0).any (·.isPlaceholder placeholder) = true then
    (wifiNetworksSetAll s (some []) 0 r).2
  else s

/-- `wifi_init_sta`: the first network is applied, or an empty table takes over what the driver has
    kept.  If there is nothing to take over the driver is cleared; where that fails the firmware
    aborts, and a restart is what follows. -/
def wifiInitSta (placeholder : List Char × List Char) (d : NetworkDevice) (b : NetworkBoot) :
    NetworkDevice :=
  let table := removePlaceholder placeholder d.table (b.calls 1)
  -- `configured` is the count: the removal leaves an empty table in RAM, whatever NVS returns
  if 0 < table.ram.count then { d with table }.wifiApplyNetwork 0 b.setConfig
  else if b.getConfig = true ∧ d.driver.ssid.text ≠ [] ∧
      ¬ (d.driver.ssid.text = placeholder.1 ∧ d.driver.password.text = placeholder.2) then
    let n := { WifiNetwork.blank with
      ssid := .strlcpy 32 d.driver.ssid.text
      passwd := .strlcpy 64 d.driver.password.text
      valid := true }
    { d with table := (wifiNetworksSetAll table (some [n]) 1 (b.calls 2)).2 }
  else { table, driver := if b.setConfig then .blank else d.driver }

/-! ### Runs -/

/-- The ways in which the table changes, and the driver's configuration: `rotate` is a call of
    `wifi_apply_network` when the station turns to another network. -/
inductive NetworkAction where
  | page (r : TableRequest)
  | bundle (nvs : Nvs) (contentLen : Nat) (root : Option Json) (results : Nat → EspErr)
      (r : NvsCalls)
  | rotate (idx : Nat) (setConfig : Bool)
  | restart (b : NetworkBoot)

/-- `network_save_handler`, `system_secrets_post_handler`, a rotation, and a restart. What the
    legacy keys hold at that time is part of a restart. -/
def networkMachine (placeholder : List Char × List Char) : Machine NetworkDevice NetworkAction where
  step
    | d, .page r => some { d with table := networkSaveHandler d.table r }
    | d, .bundle nvs contentLen root results r => some
        { d with table := (systemSecretsPostHandler nvs d.table contentLen root results r).2 }
    | d, .rotate idx setConfig => some (d.wifiApplyNetwork idx setConfig)
    | d, .restart b =>
      some (wifiInitSta placeholder { d with table := wifiNetworksStart d.table b } b)

/-! ### Where passwords come from -/

/-- An item gives a network a password. -/
def givenIn {cap : Nat} (e : Json) (pw : Option (List Char)) : List (CString 32 × CString cap) :=
  match typedText e "ssid", pw with
  | some ssid, some pw => [(.strlcpy 32 ssid, .strlcpy cap pw)]
  | _, _ => []

/-- The items of a page: its networks, or the one of an older page. -/
def pageItems (root : Json) : List Json :=
  match Json.asArray (root.getObjectItem "networks") with
  | some items => items
  | none => (Json.asObject (root.getObjectItem "sta")).toList

/-- The items of a bundle. -/
def bundleItems (root : Json) : List Json :=
  (Json.asArray (root.getObjectItem "networks")).getD []

/-- The passwords that an action gives, each with the name of its network: those that are typed in
    on the page, those of a bundle, and the one that stands in the key `passwd` of the
    single-network firmware when a restart reads it beside `ssid`. -/
def NetworkAction.passwords : NetworkAction → List (CString 32 × CString 64)
  | .page r =>
    match requestRoot 4096 r with
    | .error _ => []
    | .ok root => (pageItems root).flatMap fun e => givenIn e (typedText e "password")
  | .bundle _ _ root _ _ =>
    (root.toList.flatMap bundleItems).flatMap fun e => givenIn e (e.stringItem "password")
  | .rotate _ _ => []
  | .restart b => [(storedString b.nvs "ssid" 32, storedString b.nvs "passwd" 64)]

/-- The EAP passwords that an action brings from outside, each with the name it was given to. -/
def NetworkAction.eapPasswords : NetworkAction → List (CString 32 × CString 63)
  | .page r =>
    match requestRoot 4096 r with
    | .error _ => []
    | .ok root => (pageItems root).flatMap fun e =>
        givenIn e ((Json.asObject (e.getObjectItem "eap")).bind fun eap => typedText eap "password")
  | .bundle _ _ root _ _ =>
    (root.toList.flatMap bundleItems).flatMap fun e => givenIn e (e.stringItem "eap_password")
  | .rotate _ _ | .restart _ => []

/-- A name and a password as they come back from the driver. -/
def cutByDriver (given : CString 32 × CString 64) : CString 32 × CString 64 :=
  (.strlcpy 32 (CString.strlcpy 31 given.1.text).text,
    .strlcpy 64 (CString.strlcpy 63 given.2.text).text)

/-- The pair is what was given; or, if that does not fit into the driver, what it makes of it. -/
def Comes (given pair : CString 32 × CString 64) : Prop :=
  pair = given ∨
    (31 < given.1.text.length ∨ 63 < given.2.text.length) ∧ pair = cutByDriver given

/-- A password of a network of this name that an action has given. -/
def Brought (as : List NetworkAction) (ssid : CString 32) (passwd : CString 64) : Prop :=
  ∃ a ∈ as, ∃ given ∈ a.passwords, Comes given (ssid, passwd)

/-- A usable network whose passwords were given to a network of its name. An EAP password came with
    that very name; for the other one `Brought` says what is asked. -/
structure WifiNetwork.Given (as : List NetworkAction) (n : WifiNetwork) : Prop where
  usable : n.Usable
  flag : n.eapUseCertBundle = 0 ∨ n.eapUseCertBundle = 1
  passwd : n.passwd = .empty ∨ Brought as n.ssid n.passwd
  eapPassword : n.eapPassword = .empty ∨ ∃ a ∈ as, (n.ssid, n.eapPassword) ∈ a.eapPasswords

/-- The driver holds no password, or one that was given to a network of the name that it holds. -/
def StaConfig.Given (as : List NetworkAction) (c : StaConfig) : Prop :=
  c.password = .empty ∨
    Brought as (.strlcpy 32 c.ssid.text) (.strlcpy 64 c.password.text)

variable {t : CountedTable WifiNetwork wifiNetworksMax}
  {s : SavedTable WifiNetwork wifiNetworksMax} {n : WifiNetwork} {as bs : List NetworkAction}
  {e : Json}

theorem Brought.mono {ssid : CString 32} {passwd : CString 64} (h : Brought as ssid passwd)
    (hsub : ∀ a ∈ as, a ∈ bs) : Brought bs ssid passwd := by
  obtain ⟨a, ha, hgives⟩ := h
  exact ⟨a, hsub a ha, hgives⟩

theorem WifiNetwork.Given.mono (h : n.Given as) (hsub : ∀ a ∈ as, a ∈ bs) : n.Given bs where
  usable := h.usable
  flag := h.flag
  passwd := h.passwd.imp_right fun hbrought => hbrought.mono hsub
  eapPassword := h.eapPassword.imp_right fun ⟨a, ha, hgives⟩ => ⟨a, hsub a ha, hgives⟩

theorem WifiNetwork.Given.mark (h : n.Given as) : n.mark.Given as := by
  have hmark : n.mark = n := by rw [WifiNetwork.mark, ← h.usable.1]
  rwa [hmark]

/-- A typed text is visible. -/
theorem typedText_eq_some {key : String} {text : List Char} (h : typedText e key = some text) :
    e.stringItem key = some text ∧ CString.visible text ≠ [] := by
  obtain ⟨hitem, hvisible⟩ := Option.filter_eq_some_iff.mp h
  exact ⟨hitem, by simpa using hvisible⟩

theorem strlcpy_ne_nil {cap : Nat} {text : List Char} (hcap : 0 < cap)
    (h : CString.visible text ≠ []) : (CString.strlcpy cap text).text ≠ [] := by
  rw [CString.text_strlcpy]
  intro hnil
  obtain hzero | hempty := List.take_eq_nil_iff.mp hnil
  · omega
  · exact h hempty

/-- What is typed in is given; otherwise it is what was there. -/
theorem typedOr_cases {cap : Nat} (e : Json) (key : String) (existing : CString cap) :
    typedOr e key existing = existing ∨
      ∃ text, typedText e key = some text ∧ typedOr e key existing = .strlcpy cap text := by
  unfold typedOr
  cases htyped : typedText e key with
  | none => exact .inl rfl
  | some text => exact .inr ⟨text, rfl, rfl⟩

/-- What is found belongs to a network of this name. -/
theorem lookupExisting_spec {ssid : CString 32} {m : WifiNetwork}
    (h : lookupExisting t ssid = some m) : m ∈ listedNetworks t ∧ m.ssid = ssid := by
  refine ⟨List.mem_of_find?_eq_some h, ?_⟩
  have htext := List.find?_some h
  exact CString.ext (by simpa using htext)

/-- A password that is taken from the table was given to this name. -/
theorem lookupExistingPassword_given (hlisted : ∀ m ∈ listedNetworks t, m.Given as)
    (ssid : CString 32) : lookupExistingPassword t ssid = .empty ∨
      Brought as ssid (lookupExistingPassword t ssid) := by
  unfold lookupExistingPassword
  cases hlookup : lookupExisting t ssid with
  | none => exact .inl rfl
  | some m =>
    obtain ⟨hmem, rfl⟩ := lookupExisting_spec hlookup
    exact (hlisted m hmem).passwd

theorem lookupExistingEapPassword_given (hlisted : ∀ m ∈ listedNetworks t, m.Given as)
    (ssid : CString 32) : lookupExistingEapPassword t ssid = .empty ∨
      ∃ a ∈ as, (ssid, lookupExistingEapPassword t ssid) ∈ a.eapPasswords := by
  unfold lookupExistingEapPassword
  cases hlookup : lookupExisting t ssid with
  | none => exact .inl rfl
  | some m =>
    obtain ⟨hmem, rfl⟩ := lookupExisting_spec hlookup
    exact (hlisted m hmem).eapPassword

/-! ### The page keeps this -/

variable {r : TableRequest} {root : Json}

/-- The name and the password of a posted network. -/
theorem namedNetwork_given (hroot : requestRoot 4096 r = .ok root) (he : e ∈ pageItems root)
    (hlisted : ∀ m ∈ listedNetworks t, m.Given as) (h : namedNetwork t e = some n) :
    n.Given (as ++ [.page r]) ∧
      ∃ ssid, typedText e "ssid" = some ssid ∧ n.ssid = .strlcpy 32 ssid := by
  obtain ⟨ssid, hssid, rfl⟩ := Option.map_eq_some_iff.mp h
  refine ⟨⟨⟨rfl, ?_⟩, .inl rfl, ?_, .inl rfl⟩, ssid, hssid, rfl⟩
  · exact strlcpy_ne_nil (by decide) (typedText_eq_some hssid).2
  · obtain hkept | ⟨text, htext, htyped⟩ :=
      typedOr_cases e "password" (lookupExistingPassword t (.strlcpy 32 ssid))
    · show typedOr e "password" _ = _ ∨ Brought _ _ (typedOr e "password" _)
      rw [hkept]
      exact (lookupExistingPassword_given hlisted _).imp_right fun hbrought =>
        hbrought.mono fun a ha => List.mem_append_left _ ha
    · refine .inr ⟨.page r, by simp, (.strlcpy 32 ssid, .strlcpy 64 text), ?_, .inl ?_⟩
      · simp only [NetworkAction.passwords, hroot]
        refine List.mem_flatMap.mpr ⟨e, he, ?_⟩
        simp [givenIn, hssid, htext]
      · show (_, typedOr e "password" _) = _
        rw [htyped]

theorem withStaticIp_given (sip : Option Json) (h : n.Given as) :
    (withStaticIp sip n).Given as := by
  unfold withStaticIp
  cases Json.asObject sip with
  | none => exact h
  | some sip => exact ⟨h.usable, h.flag, h.passwd, h.eapPassword⟩

@[simp] theorem ssid_withStaticIp (sip : Option Json) (n : WifiNetwork) :
    (withStaticIp sip n).ssid = n.ssid := by
  unfold withStaticIp
  cases Json.asObject sip <;> rfl

/-- The EAP block of a posted network. Its password was typed into this page, or is the one that the
    table has under the name. -/
theorem withEap_given (hroot : requestRoot 4096 r = .ok root) (he : e ∈ pageItems root)
    (hlisted : ∀ m ∈ listedNetworks t, m.Given as) (h : n.Given (as ++ [.page r]))
    {ssid : List Char} (hssid : typedText e "ssid" = some ssid)
    (hname : n.ssid = .strlcpy 32 ssid) :
    (withEap t (e.getObjectItem "eap") n).Given (as ++ [.page r]) := by
  unfold withEap
  -- Without an EAP block the network is left as it came.
  cases heap : Json.asObject (e.getObjectItem "eap") with
  | none => exact h
  | some eap =>
    refine ⟨h.usable, ?_, h.passwd, ?_⟩
    · show flagByte _ = 0 ∨ flagByte _ = 1
      cases (Json.asBool (eap.getObjectItem "cert_bundle")).getD false
      · exact .inl rfl
      · exact .inr rfl
    · show typedOr eap "password" _ = _ ∨ ∃ a ∈ _, (n.ssid, typedOr eap "password" _) ∈ _
      -- The password of the block is looked up in the table, or typed into the page.
      obtain hkept | ⟨text, htext, htyped⟩ :=
        typedOr_cases eap "password" (lookupExistingEapPassword t n.ssid)
      · rw [hkept]
        refine (lookupExistingEapPassword_given hlisted _).imp_right fun ⟨a, ha, hgives⟩ => ?_
        exact ⟨a, List.mem_append_left _ ha, hgives⟩
      · refine .inr ⟨.page r, by simp, ?_⟩
        rw [htyped, hname]
        simp only [NetworkAction.eapPasswords, hroot]
        refine List.mem_flatMap.mpr ⟨e, he, ?_⟩
        simp [givenIn, hssid, heap, htext]

/-- All that a page posts, in either form of the request. -/
theorem postedNetworks_given (hroot : requestRoot 4096 r = .ok root)
    (hlisted : ∀ m ∈ listedNetworks t, m.Given as) {arr : List WifiNetwork}
    (h : postedNetworks t root = some arr) : ∀ n ∈ arr, n.Given (as ++ [.page r]) := by
  unfold postedNetworks at h
  -- Either a list of networks, or the single one of older pages.
  split at h
  · rename_i items hitems
    obtain rfl := Option.some.inj h
    intro n hn
    obtain ⟨e, he, hof⟩ := List.mem_filterMap.mp (List.mem_of_mem_take hn)
    obtain ⟨n, hnamed, rfl⟩ := Option.map_eq_some_iff.mp hof
    have hmem : e ∈ pageItems root := by
      rw [pageItems, hitems]
      exact he
    obtain ⟨hgiven, ssid, hssid, hname⟩ := namedNetwork_given hroot hmem hlisted hnamed
    -- The EAP block and the address go behind the network, and keep its name.
    refine withEap_given hroot hmem hlisted (withStaticIp_given _ hgiven) hssid ?_
    rw [ssid_withStaticIp, hname]
  · rename_i hitems
    split at h
    · cases h
    · rename_i sta hsta
      obtain ⟨one, hone, rfl⟩ := Option.map_eq_some_iff.mp h
      obtain ⟨n, hnamed, rfl⟩ := Option.map_eq_some_iff.mp hone
      have hmem : sta ∈ pageItems root := by
        rw [pageItems, hitems, hsta]
        exact List.mem_singleton_self sta
      intro m hm
      obtain rfl := List.mem_singleton.mp hm
      exact withStaticIp_given _ (namedNetwork_given hroot hmem hlisted hnamed).1

/-! ### So does everything -/

theorem SavedTable.HoldsOnly.mono {α : Type} {size : Nat} {blank : α} {Ok Ok' : α → Prop}
    {s : SavedTable α size} (h : s.HoldsOnly blank Ok) (himp : ∀ e, Ok e → Ok' e) :
    s.HoldsOnly blank Ok' where
  ram := by
    obtain ⟨entries, hfilled, hok⟩ := h.ram
    exact ⟨entries, hfilled, fun e he => himp e (hok e he)⟩
  blob slots hslots := by
    obtain ⟨entries, hentries, hok⟩ := h.blob slots hslots
    exact ⟨entries, hentries, fun e he => himp e (hok e he)⟩

/-- A save of networks that were given. -/
theorem wifiNetworksSetAll_holdsOnly (hs : s.HoldsOnly .blank (WifiNetwork.Given as))
    {arr : List WifiNetwork} (harr : ∀ n ∈ arr, n.Given as) (count : Int) (r : NvsCalls) :
    (wifiNetworksSetAll s (some arr) count r).2.HoldsOnly .blank (WifiNetwork.Given as) := by
  show (s.replace .blank WifiNetwork.keep WifiNetwork.mark _ r).2.HoldsOnly .blank _
  refine hs.replace ?_ fun n hn _ => ?_
  · rw [arrayEntries, List.length_take]
    exact Nat.le_trans (Nat.min_le_left _ _) (Nat.min_le_right _ _)
  · exact (harr n (List.mem_of_mem_take hn)).mark

/-- The networks that a table lists. -/
theorem listed_given (hs : s.HoldsOnly .blank (WifiNetwork.Given as)) :
    ∀ n ∈ listedNetworks s.ram, n.Given as := by
  obtain ⟨entries, hfilled, hok⟩ := hs.ram
  rw [listed_of_filled hfilled fun n hn => (hok n hn).usable]
  exact hok

theorem networkSave_holdsOnly (hs : s.HoldsOnly .blank (WifiNetwork.Given as)) (r : TableRequest) :
    (networkSaveHandler s r).HoldsOnly .blank (WifiNetwork.Given (as ++ [.page r])) := by
  have hmono := hs.mono fun n (hn : n.Given as) =>
    hn.mono fun a ha => List.mem_append_left [.page r] ha
  unfold networkSaveHandler
  split
  · exact hmono
  · rename_i root hroot
    split
    · exact hmono
    · rename_i arr harr
      exact wifiNetworksSetAll_holdsOnly hmono
        (postedNetworks_given hroot (listed_given hs) harr) _ _

/-- A text that is copied is given. -/
theorem copyString_cases (e : Json) (key : String) (cap : Nat) :
    copyString e key cap = .empty ∨
      ∃ text, e.stringItem key = some text ∧ copyString e key cap = .strlcpy cap text := by
  unfold copyString
  cases htext : e.stringItem key with
  | none => exact .inl rfl
  | some text => exact .inr ⟨text, rfl, rfl⟩

/-- A network of a bundle. It brings its passwords along, so they are given by this very action. -/
theorem restoreNetwork_given {nvs : Nvs} {contentLen : Nat} {results : Nat → EspErr}
    {calls : NvsCalls} {items : List Json}
    (hitems : Json.asArray (root.getObjectItem "networks") = some items) (he : e ∈ items)
    (h : restoreNetwork e = some n) :
    n.Given [.bundle nvs contentLen (some root) results calls] := by
  have hmem : e ∈ (some root).toList.flatMap bundleItems := by
    simpa [bundleItems, hitems] using he
  unfold restoreNetwork at h
  split at h
  · cases h
  · rename_i ssid hssid
    split_ifs at h with hvisible
    -- Only a network with a name is restored.
    have htyped : typedText e "ssid" = some ssid := by
      simp [typedText, hssid, hvisible]
    obtain rfl := Option.some.inj h
    refine ⟨⟨rfl, strlcpy_ne_nil (by decide) hvisible⟩, ?_, ?_, ?_⟩
    · dsimp only
      rcases Json.asBool (e.getObjectItem "eap_cert_bundle") with _ | _ | _
      · exact .inl rfl
      · exact .inl rfl
      · exact .inr rfl
    -- Each password is that of the item, or stays empty.
    · refine (copyString_cases e "password" 64).imp_right fun ⟨text, htext, hcopy⟩ => ?_
      refine ⟨_, List.mem_singleton_self _, (.strlcpy 32 ssid, .strlcpy 64 text), ?_, .inl ?_⟩
      · refine List.mem_flatMap.mpr ⟨e, hmem, ?_⟩
        simp [givenIn, htyped, htext]
      · exact Prod.ext rfl hcopy
    · refine (copyString_cases e "eap_password" 63).imp_right fun ⟨text, htext, hcopy⟩ => ?_
      refine ⟨_, List.mem_singleton_self _, List.mem_flatMap.mpr ⟨e, hmem, ?_⟩⟩
      simp [givenIn, htyped, htext, hcopy]

theorem bundle_holdsOnly (hs : s.HoldsOnly .blank (WifiNetwork.Given as)) (nvs : Nvs)
    (contentLen : Nat) (root : Option Json) (results : Nat → EspErr) (r : NvsCalls) :
    (systemSecretsPostHandler nvs s contentLen root results r).2.HoldsOnly .blank
      (WifiNetwork.Given (as ++ [.bundle nvs contentLen root results r])) := by
  have hmono := hs.mono fun n (hn : n.Given as) =>
    hn.mono fun a ha => List.mem_append_left [.bundle nvs contentLen root results r] ha
  unfold systemSecretsPostHandler
  split_ifs
  · exact hmono
  · split
    · exact hmono
    · dsimp only
      split
      · exact hmono
      · rename_i root items hitems
        refine wifiNetworksSetAll_holdsOnly hmono (fun n hn => ?_) _ _
        obtain ⟨e, he, hrestore⟩ := List.mem_filterMap.mp (List.mem_of_mem_take hn)
        exact (restoreNetwork_given hitems he hrestore).mono fun a ha =>
          List.mem_append_right as ha

/-- The pair that stood in the two keys is taken over. -/
theorem migrateLegacyInto_given {b : NetworkBoot} (hb : .restart b ∈ as)
    (h : migrateLegacyInto b.nvs = some n) : n.Given as := by
  unfold migrateLegacyInto at h
  split at h
  · cases h
  · rename_i ssid hssid
    split_ifs at h with hvisible
    obtain rfl := Option.some.inj h
    have hkey : storedString b.nvs "ssid" 32 = .strlcpy 32 ssid := by
      rw [storedString, hssid]
    refine ⟨⟨rfl, strlcpy_ne_nil (by decide) hvisible⟩, .inl rfl, .inr ?_, .inl rfl⟩
    exact ⟨_, hb, _, List.mem_singleton_self _, .inl (Prod.ext hkey.symm rfl)⟩

theorem wifiNetworksStart_holdsOnly {b : NetworkBoot}
    (hs : s.HoldsOnly .blank (WifiNetwork.Given as)) (hb : .restart b ∈ as) :
    (wifiNetworksStart s b).HoldsOnly .blank (WifiNetwork.Given as) := by
  unfold wifiNetworksStart
  split_ifs
  · refine hs.restart ⟨rfl, rfl⟩ fun n hn => ⟨?_, rfl⟩
    exact usable_iff.mpr hn.usable
  · split
    · rename_i tmp htmp
      have hgiven : ∀ n ∈ [tmp], n.Given as := by
        intro n hn
        obtain rfl := List.mem_singleton.mp hn
        exact migrateLegacyInto_given hb htmp
      have hsaved := wifiNetworksSetAll_holdsOnly hs hgiven 1 (b.calls 0)
      exact ⟨hsaved.ram, hsaved.blob⟩
    · exact ⟨⟨[], filled_clear _ _, fun _ he => nomatch he⟩, hs.blob⟩

theorem removePlaceholder_holdsOnly (hs : s.HoldsOnly .blank (WifiNetwork.Given as))
    (placeholder : List Char × List Char) (r : NvsCalls) :
    (removePlaceholder placeholder s r).HoldsOnly .blank (WifiNetwork.Given as) := by
  unfold removePlaceholder
  split_ifs
  · exact wifiNetworksSetAll_holdsOnly hs (fun _ hn => absurd hn List.not_mem_nil) _ _
  · exact hs

/-! ### And what comes back from the driver -/

/-- A text is cut once. -/
theorem strlcpy_cut {cap cut : Nat} (text : List Char) (hle : cut ≤ cap) :
    CString.strlcpy cut (CString.strlcpy cap (CString.strlcpy cut text).text).text =
      .strlcpy cut text := by
  have hfits : (CString.strlcpy cap (CString.strlcpy cut text).text).text =
      (CString.strlcpy cut text).text := by
    rw [CString.text_strlcpy, CString.visible_eq (CString.strlcpy cut text).noNul]
    exact List.take_of_length_le ((CString.strlcpy cut text).length_le.trans hle)
  rw [hfits, CString.strlcpy_text]

/-- What fits into the driver comes back as it was. -/
theorem strlcpy_short {cap cut : Nat} {text : CString cap} (h : text.text.length ≤ cut) :
    CString.strlcpy cap (CString.strlcpy cut text.text).text = text := by
  apply CString.ext
  rw [CString.text_strlcpy, CString.visible_eq (CString.strlcpy cut text.text).noNul,
    CString.text_strlcpy, CString.visible_eq text.noNul, List.take_of_length_le h,
    List.take_of_length_le text.length_le]

/-- A pair that goes through the driver once more. -/
theorem Comes.cut {given pair : CString 32 × CString 64} (h : Comes given pair) :
    Comes given (cutByDriver pair) := by
  obtain rfl | ⟨hlong, rfl⟩ := h
  · by_cases hlong : 31 < pair.1.text.length ∨ 63 < pair.2.text.length
    · exact .inr ⟨hlong, rfl⟩
    · rw [not_or, not_lt, not_lt] at hlong
      exact .inl (Prod.ext (strlcpy_short hlong.1) (strlcpy_short hlong.2))
  · refine .inr ⟨hlong, Prod.ext ?_ ?_⟩
    · exact congrArg (fun c : CString 31 => CString.strlcpy 32 c.text) (strlcpy_cut _ (by decide))
    · exact congrArg (fun c : CString 63 => CString.strlcpy 64 c.text) (strlcpy_cut _ (by decide))

/-- What `wifi_networks_get` finds is one of the networks that the table holds. -/
theorem wifiNetworksGet_given {d : NetworkDevice} {idx : Nat}
    (hs : d.table.HoldsOnly .blank (WifiNetwork.Given as))
    (h : wifiNetworksGet d.table.ram idx = some n) : n.Given as := by
  obtain ⟨entries, ⟨hslots, -⟩, hok⟩ := hs.ram
  obtain ⟨hget, huse⟩ := Option.filter_eq_some_iff.mp h
  have hmem := List.mem_of_getElem? hget
  rw [hslots] at hmem
  obtain hmem | hmem := List.mem_append.mp hmem
  · exact hok n hmem
  · obtain rfl := List.eq_of_mem_replicate hmem
    simp [WifiNetwork.blank] at huse

/-- The table and the driver hold nothing but passwords that were given. -/
structure NetworkDevice.Given (as : List NetworkAction) (d : NetworkDevice) : Prop where
  table : d.table.HoldsOnly .blank (WifiNetwork.Given as)
  driver : d.driver.Given as

/-- A network that is applied. -/
theorem NetworkDevice.Given.apply {d : NetworkDevice} (h : d.Given as) (idx : Nat)
    (setConfig : Bool) : (d.wifiApplyNetwork idx setConfig).Given as := by
  unfold NetworkDevice.wifiApplyNetwork
  cases hget : wifiNetworksGet d.table.ram idx with
  | none => exact h
  | some n =>
    dsimp only
    cases setConfig with
    | false => exact h
    | true =>
      -- The driver is given the network's own password, or none for EAP.
      refine ⟨h.table, ?_⟩
      cases heap : wifiApplyEap n with
      | true => exact .inl rfl
      | false =>
        refine (wifiNetworksGet_given h.table hget).passwd.imp (fun hempty => ?_) ?_
        · show CString.strlcpy 63 n.passwd.text = .empty
          rw [hempty]
          rfl
        · rintro ⟨a, ha, given, hgiven, hcomes⟩
          exact ⟨a, ha, given, hgiven, hcomes.cut⟩

theorem NetworkDevice.Given.initSta {placeholder : List Char × List Char} {d : NetworkDevice}
    (h : d.Given as) (b : NetworkBoot) : (wifiInitSta placeholder d b).Given as := by
  have hremoved := removePlaceholder_holdsOnly h.table placeholder (b.calls 1)
  unfold wifiInitSta
  dsimp only
  -- The four ways of the start: apply the first network, take over the driver's, clear it, or
  -- nothing.
  split_ifs with hcount htaken hclears
  · have htable : NetworkDevice.Given as
        { d with table := removePlaceholder placeholder d.table (b.calls 1) } :=
      ⟨hremoved, h.driver⟩
    exact htable.apply 0 b.setConfig
  · refine ⟨wifiNetworksSetAll_holdsOnly hremoved (fun n hn => ?_) _ _, h.driver⟩
    obtain rfl := List.mem_singleton.mp hn
    -- The driver's network goes into the table under the driver's name.
    refine ⟨⟨rfl, strlcpy_ne_nil (by decide) ?_⟩, .inl rfl, ?_, .inl rfl⟩
    · rw [CString.visible_eq d.driver.ssid.noNul]
      exact htaken.2.1
    · refine h.driver.imp_left fun hempty => ?_
      show CString.strlcpy 64 d.driver.password.text = .empty
      rw [hempty]
      rfl
  · exact ⟨hremoved, .inl rfl⟩
  · exact ⟨hremoved, h.driver⟩

/-- **Whatever is done**, the table and the driver hold passwords that were given to their names. By
    induction on the run, from an empty table. -/
theorem networkMachine_given {placeholder : List Char × List Char} {d : NetworkDevice}
    (hrun : (networkMachine placeholder).run .new as = some d) : d.Given as := by
  refine Machine.history (I := NetworkDevice.Given) ?_ (Machine.meets_true _ as) hrun
    ⟨holdsOnly_new, .inl rfl⟩
  intro as d a d' _ hstep hd
  -- What was given before is still given.
  have hsub : ∀ b ∈ as, b ∈ as ++ [a] := fun b hb => List.mem_append_left [a] hb
  have hmono : d.Given (as ++ [a]) :=
    ⟨hd.table.mono fun n hn => hn.mono hsub, hd.driver.imp_right fun hb => hb.mono hsub⟩
  -- Every action keeps what is there, or brings in what it gives itself.
  cases a with
  | page r =>
    obtain rfl := Option.some.inj hstep
    exact ⟨networkSave_holdsOnly hd.table r, hmono.driver⟩
  | bundle nvs contentLen root results r =>
    obtain rfl := Option.some.inj hstep
    exact ⟨bundle_holdsOnly hd.table nvs contentLen root results r, hmono.driver⟩
  | rotate idx setConfig => exact Option.some.inj hstep ▸ hmono.apply idx setConfig
  -- A restart migrates the table first, and then starts the station from it.
  | restart b =>
    obtain rfl := Option.some.inj hstep
    have hstarted : NetworkDevice.Given (as ++ [.restart b])
        { d with table := wifiNetworksStart d.table b } :=
      ⟨wifiNetworksStart_holdsOnly hmono.table (by simp), hmono.driver⟩
    exact hstarted.initSta b

/-- **Passwords stay with their networks.** After any saves, restored bundles, rotations and
    restarts, a password in the table is empty, or was given to a network of just this name.  Only
    what is too long for the driver's own copy can come back from there cut off: 31 characters of
    the name, and 63 of the password. -/
theorem passwords_stay_with_their_network (placeholder : List Char × List Char)
    (as : List NetworkAction) (d : NetworkDevice) (n : WifiNetwork)
    (hrun : (networkMachine placeholder).run .new as = some d)
    (hn : n ∈ listedNetworks d.table.ram) :
    (n.passwd = .empty ∨ ∃ a ∈ as, ∃ given ∈ a.passwords, (n.ssid, n.passwd) = given ∨
      (31 < given.1.text.length ∨ 63 < given.2.text.length) ∧
        (n.ssid, n.passwd) = cutByDriver given) ∧
      (n.eapPassword = .empty ∨ ∃ a ∈ as, (n.ssid, n.eapPassword) ∈ a.eapPasswords) := by
  have hgiven := listed_given (networkMachine_given hrun).table n hn
  exact ⟨hgiven.passwd, hgiven.eapPassword⟩

/-- A network with a name of 32 characters and its password are typed in. -/
def lakeTyped : TableRequest :=
  posted (.object [("networks", .array [.object
    [("ssid", .string "guests of the hotel at the lake!".toList),
      ("password", .string "correct horse".toList)]])])

/-- Another one is put in front of it. -/
def workTyped : TableRequest :=
  posted (.object [("networks", .array [.object [("ssid", .string "work".toList),
    ("password", .string "battery staple".toList)],
    .object [("ssid", .string "guests of the hotel at the lake!".toList)]])])

/-- Both are removed. -/
def allRemoved : TableRequest := posted (.object [("networks", .array [])])

/-- A restart at which every call succeeds, with none of the old keys. -/
def plainBoot : NetworkBoot := ⟨true, fun _ => none, true, true, fun _ => .succeed⟩

/-- The station turns to the second network before they are removed. -/
def lakeRun : List NetworkAction :=
  [.page lakeTyped, .page workTyped, .restart plainBoot, .rotate 1 true, .page allRemoved,
    .restart plainBoot]

/-- The driver gives the removed network back: its password is the one that was kept for it, its
    name has lost the last character. -/
theorem removed_network_comes_back :
    ∃ d, (networkMachine ("otherapssid".toList, "otherappasswd".toList)).run .new lakeRun = some d ∧
      (listedNetworks d.table.ram).map (fun n => (n.ssid.text, n.passwd.text)) =
        [("guests of the hotel at the lake".toList, "correct horse".toList)] ∧
      ∀ n ∈ listedNetworks d.table.ram, n.passwd = .empty ∨
        ∃ a ∈ lakeRun, ∃ given ∈ a.passwords, (n.ssid, n.passwd) = given ∨
          (31 < given.1.text.length ∨ 63 < given.2.text.length) ∧
            (n.ssid, n.passwd) = cutByDriver given :=
  ⟨_, rfl, by decide +kernel, fun n hn => (passwords_stay_with_their_network
    ("otherapssid".toList, "otherappasswd".toList) lakeRun _ n rfl hn).1⟩

/-! ### A page that is saved as it was read -/

/-- A text with another key is passed over. -/
theorem getObjectItem_textItem {key key' : String} {cap : Nat} {text : CString cap}
    {rest : List (String × Json)} (h : Json.sameName key key' = false) :
    (Json.object (textItem key text ++ rest)).getObjectItem key' =
      (Json.object rest).getObjectItem key' := by
  unfold textItem
  split_ifs
  · rfl
  · simp [Json.getObjectItem, h]

/-- A text that may be left out is copied as it was. -/
theorem copyString_textItem {key : String} {cap : Nat} {text : CString cap}
    {rest : List (String × Json)} (h : Json.sameName key key = true)
    (hrest : (Json.object rest).getObjectItem key = none) :
    copyString (.object (textItem key text ++ rest)) key cap = text := by
  unfold textItem
  split_ifs with hempty
  · have hnone : (Json.object rest).stringItem key = none := by rw [Json.stringItem, hrest]; rfl
    rw [List.nil_append, copyString, hnone]
    exact CString.ext hempty.symm
  · exact copyString_string (by simp [Json.getObjectItem, h])

/-- A text with another key is not copied. -/
theorem copyString_skip {key key' : String} {cap cap' : Nat} {text : CString cap}
    {rest : List (String × Json)} (h : Json.sameName key key' = false) :
    copyString (.object (textItem key text ++ rest)) key' cap' =
      copyString (.object rest) key' cap' := by
  rw [copyString, copyString, Json.stringItem, Json.stringItem, getObjectItem_textItem h]

/-- The static address of a network comes back. All four texts are members of the object, the empty
    ones included. -/
theorem withStaticIp_networkItem (m : WifiNetwork) :
    withStaticIp ((networkItem n).getObjectItem "static_ip") m = { m with
      staticIp := n.staticIp
      subnet := n.subnet
      gateway := n.gateway
      dns := n.dns } := by
  have hitem : Json.asObject ((networkItem n).getObjectItem "static_ip") =
      some (.object (textItem "ip" n.staticIp ++ (textItem "mask" n.subnet ++
        (textItem "gw" n.gateway ++ (textItem "dns" n.dns ++ []))))) := by
    simp [networkItem, Json.getObjectItem, Json.sameName, Json.asObject]
  have hempty (key : String) : (Json.object []).getObjectItem key = none := rfl
  unfold withStaticIp
  rw [hitem]
  dsimp only
  -- each text is behind those of other keys, and in front of others
  rw [copyString_textItem (by decide) (by
      rw [getObjectItem_textItem (by decide), getObjectItem_textItem (by decide),
        getObjectItem_textItem (by decide), hempty]),
    copyString_skip (by decide), copyString_textItem (by decide) (by
      rw [getObjectItem_textItem (by decide), getObjectItem_textItem (by decide), hempty]),
    copyString_skip (by decide), copyString_skip (by decide), copyString_textItem (by decide) (by
      rw [getObjectItem_textItem (by decide), hempty]),
    copyString_skip (by decide), copyString_skip (by decide), copyString_skip (by decide),
    copyString_textItem (by decide) (hempty _)]

/-- A network, with the passwords that are found under its name. It is what a page brings back that
    was posted unchanged. -/
def WifiNetwork.relookedUp (t : CountedTable WifiNetwork wifiNetworksMax) (n : WifiNetwork) :
    WifiNetwork :=
  { n with
    passwd := lookupExistingPassword t n.ssid
    eapPassword := lookupExistingEapPassword t n.ssid }

/-- What is made of a network that the page was given. All its members come back, but the passwords,
    which are looked up. -/
theorem networkOf_networkItem (husable : n.Usable)
    (hflag : n.eapUseCertBundle = 0 ∨ n.eapUseCertBundle = 1) :
    networkOf t (networkItem n) = some (n.relookedUp t) := by
  have hssid : typedText (networkItem n) "ssid" = some n.ssid.text := by
    have hitem : (networkItem n).stringItem "ssid" = some n.ssid.text := by
      simp [networkItem, Json.stringItem, Json.getObjectItem, Json.sameName, Json.asString]
    simp [typedText, hitem, CString.visible_eq n.ssid.noNul, husable.2]
  have hpassword : typedText (networkItem n) "password" = none := by
    simp [typedText, networkItem, Json.stringItem, Json.getObjectItem, Json.sameName,
      Json.asString]
  have hnamed : namedNetwork t (networkItem n) = some { WifiNetwork.blank with
      ssid := n.ssid, passwd := lookupExistingPassword t n.ssid, valid := true } := by
    simp [namedNetwork, typedOr, hssid, hpassword]
  -- the EAP block has all its members but the password
  obtain ⟨eap, heap, hmethod, hphase2, hbundle, hidentity, husername, htyped⟩ :
      ∃ eap, Json.asObject ((networkItem n).getObjectItem "eap") = some eap ∧
        copyByte eap "method" = n.eapMethod ∧ copyByte eap "phase2" = n.eapPhase2 ∧
        Json.asBool (eap.getObjectItem "cert_bundle") = some (n.eapUseCertBundle != 0) ∧
        copyString eap "identity" 63 = n.eapIdentity ∧
        copyString eap "username" 63 = n.eapUsername ∧ typedText eap "password" = none := by
    refine ⟨_, by simp [networkItem, Json.getObjectItem, Json.sameName, Json.asObject]; rfl,
      ?_, ?_, ?_, ?_, ?_, ?_⟩
    · exact copyByte_byteNumber (by simp [Json.getObjectItem, Json.sameName])
    · exact copyByte_byteNumber (by simp [Json.getObjectItem, Json.sameName])
    · simp [Json.getObjectItem, Json.sameName, Json.asBool]
    · exact copyString_string (by simp [Json.getObjectItem, Json.sameName])
    · exact copyString_string (by simp [Json.getObjectItem, Json.sameName])
    · simp [typedText, Json.stringItem, Json.getObjectItem, Json.sameName, Json.asString]
  have hkeptFlag : flagByte (n.eapUseCertBundle != 0) = n.eapUseCertBundle := by
    obtain hzero | hone := hflag
    · rw [hzero]; rfl
    · rw [hone]; rfl
  rw [networkOf, hnamed, Option.map_some, withStaticIp_networkItem, withEap, heap]
  dsimp only
  rw [hmethod, hphase2, hbundle, hidentity, husername, typedOr, htyped, Option.getD_some,
    hkeptFlag, WifiNetwork.relookedUp, ← husable.1]

/-- A name is found with the passwords of the first network that has it. -/
theorem lookupExisting_of_mem (h : n ∈ listedNetworks t) : ∃ m ∈ listedNetworks t,
    m.ssid = n.ssid ∧ lookupExistingPassword t n.ssid = m.passwd ∧
      lookupExistingEapPassword t n.ssid = m.eapPassword := by
  cases hlookup : lookupExisting t n.ssid with
  | none => simpa using List.find?_eq_none.mp hlookup n h
  | some m =>
    obtain ⟨hmem, hname⟩ := lookupExisting_spec hlookup
    refine ⟨m, hmem, hname, ?_, ?_⟩
    · rw [lookupExistingPassword, hlookup]
      rfl
    · rw [lookupExistingEapPassword, hlookup]
      rfl

/-- Looking the passwords up again makes no difference exactly if the name decides about them. The
    lookup takes the first network of a name. -/
theorem map_relookedUp_eq_iff :
    (listedNetworks t).map (WifiNetwork.relookedUp t) = listedNetworks t ↔
      ∀ n ∈ listedNetworks t, ∀ m ∈ listedNetworks t, n.ssid = m.ssid →
        n.passwd = m.passwd ∧ n.eapPassword = m.eapPassword := by
  -- A list is mapped to itself exactly if each of its members is.
  have hself : (listedNetworks t).map (WifiNetwork.relookedUp t) = listedNetworks t ↔
      ∀ n ∈ listedNetworks t, n.relookedUp t = n := by
    conv_lhs => rw [← List.map_id (listedNetworks t), List.map_map]
    exact List.map_inj_left
  rw [hself]
  constructor
  -- A lookup by name finds one entry for both of them.
  · intro hsame n hn m hm hname
    have hpasswd : ∀ k ∈ listedNetworks t, lookupExistingPassword t k.ssid = k.passwd :=
      fun k hk => congrArg WifiNetwork.passwd (hsame k hk)
    have heap : ∀ k ∈ listedNetworks t, lookupExistingEapPassword t k.ssid = k.eapPassword :=
      fun k hk => congrArg WifiNetwork.eapPassword (hsame k hk)
    rw [← hpasswd n hn, ← hpasswd m hm, ← heap n hn, ← heap m hm, hname]
    exact ⟨rfl, rfl⟩
  -- What it finds has the same name, and so the same passwords.
  · intro hdecides n hn
    obtain ⟨m, hm, hname, hpasswd, heap⟩ := lookupExisting_of_mem hn
    obtain ⟨hpasswd', heap'⟩ := hdecides m hm n hn hname
    rw [WifiNetwork.relookedUp, hpasswd, heap, hpasswd', heap']

/-- A table that is given networks, all of which are kept as they are. -/
theorem filled_networkSave {root : Json} {arr : List WifiNetwork}
    (hroot : requestRoot 4096 r = .ok root) (hposted : postedNetworks s.ram root = some arr)
    (hlen : arr.length ≤ wifiNetworksMax) (harr : ∀ n ∈ arr, n.keep = true ∧ n.mark = n) :
    (networkSaveHandler s r).ram.Filled .blank arr := by
  unfold networkSaveHandler
  rw [hroot]
  dsimp only
  rw [hposted]
  dsimp only
  rw [wifiNetworksSetAll, arrayRequest_of_length hlen]
  have hfilled : (s.replace .blank WifiNetwork.keep WifiNetwork.mark arr r.nvs).2.ram.Filled .blank
      (kept WifiNetwork.keep WifiNetwork.mark arr) := filled_replace s r.nvs hlen
  rwa [kept_eq_self harr] at hfilled

/-- Tables of these networks are the same exactly if the networks are. -/
theorem filled_eq_iff {u : CountedTable WifiNetwork wifiNetworksMax} {l l' : List WifiNetwork}
    (ht : t.Filled .blank l) (hu : u.Filled .blank l') (hlen : l.length = l'.length) :
    t = u ↔ l = l' := by
  constructor
  · rintro rfl
    exact (List.append_inj (ht.1.symm.trans hu.1) hlen).1
  · rintro rfl
    exact ht.ext hu

/-- **A page of networks that is saved as it was read** gives each network the passwords of the
    first one of its name, and so leaves the table as it is exactly if networks of the same name
    have the same passwords. -/
theorem networks_resubmitted_iff (placeholder : List Char × List Char) (as : List NetworkAction)
    {r : TableRequest} {root : Json}
    (d : NetworkDevice) (hrun : (networkMachine placeholder).run .new as = some d)
    (hr : r.Arrives 4096 root)
    (hroot : root.getObjectItem "networks" = some (networkHandler d.table.ram)) :
    let s := d.table
    (networkSaveHandler s r).ram.Filled .blank
        ((listedNetworks s.ram).map (WifiNetwork.relookedUp s.ram)) ∧
      ((networkSaveHandler s r).ram = s.ram ↔
        ∀ n ∈ listedNetworks s.ram, ∀ m ∈ listedNetworks s.ram, n.ssid = m.ssid →
          n.passwd = m.passwd ∧ n.eapPassword = m.eapPassword) := by
  obtain ⟨s, driver⟩ := d
  dsimp only at hroot ⊢
  have hholds : s.HoldsOnly .blank (WifiNetwork.Given as) := (networkMachine_given hrun).table
  have hgiven := listed_given hholds
  have hlen : ((listedNetworks s.ram).map (WifiNetwork.relookedUp s.ram)).length ≤
      wifiNetworksMax := by
    rw [List.length_map]
    exact length_listed_le
  -- The page prints each network so that it is read back, but for its passwords.
  have hread : ((listedNetworks s.ram).map networkItem).filterMap (networkOf s.ram) =
      (listedNetworks s.ram).map (WifiNetwork.relookedUp s.ram) := by
    rw [List.filterMap_map, ← List.filterMap_eq_map]
    exact List.filterMap_congr fun n hn =>
      networkOf_networkItem (hgiven n hn).usable (hgiven n hn).flag
  have hposted : postedNetworks s.ram root =
      some ((listedNetworks s.ram).map (WifiNetwork.relookedUp s.ram)) := by
    simp only [postedNetworks, hroot, networkHandler, Json.asArray, hread,
      List.take_of_length_le hlen]
  -- What is saved is kept whole, as every network in the table has a name and is valid.
  have hsaved := filled_networkSave (requestRoot_of_arrives hr) hposted hlen fun m hm => by
    obtain ⟨n, hn, rfl⟩ := List.mem_map.mp hm
    have husable := (hgiven n hn).usable
    refine ⟨by simpa [WifiNetwork.keep, WifiNetwork.relookedUp] using husable.2, ?_⟩
    rw [WifiNetwork.mark, WifiNetwork.relookedUp, ← husable.1]
  refine ⟨hsaved, ?_⟩
  obtain ⟨entries, hfilled, hentries⟩ := hholds.ram
  have hlisted : listedNetworks s.ram = entries :=
    listed_of_filled hfilled fun n hn => (hentries n hn).usable
  -- The table stays exactly if the lists agree.
  rw [filled_eq_iff hsaved (hlisted ▸ hfilled) (List.length_map _), map_relookedUp_eq_iff]

/-- Two networks of one name, with a password each. -/
def twoOfOneName : TableRequest :=
  posted (.object [("networks", .array [.object [("ssid", .string "home".toList),
    ("password", .string "correct horse".toList)], .object [("ssid", .string "home".toList),
    ("password", .string "battery staple".toList)]])])

/-- The second password is lost when the page is saved again. -/
theorem second_password_lost :
    let s := networkSaveHandler (.new _ .blank) twoOfOneName
    (networkSaveHandler s (posted (.object [("networks", networkHandler s.ram)]))).ram ≠ s.ram := by
  intro s hsame
  have hnetworks (j : Json) :
      (Json.object [("networks", j)]).getObjectItem "networks" = some j := by
    simp [Json.getObjectItem, Json.sameName]
  have hall := (networks_resubmitted_iff ([], []) [.page twoOfOneName] ⟨s, .blank⟩ rfl
    ⟨rfl, rfl, by decide, rfl⟩ (hnetworks _)).2.mp hsame
  revert hall
  decide +kernel

end SubnetRouter.Settings
