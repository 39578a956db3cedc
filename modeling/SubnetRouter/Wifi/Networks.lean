import SubnetRouter.Nvs.Items
import SubnetRouter.Settings.Tables

namespace SubnetRouter.Wifi

open Lib Nvs
open SubnetRouter.Settings (NvsCalls EspErr SavedTable espOk arrayRequest wifiNetworksMax)

/-!
# The uplink networks in flash (`main/wifi_networks.c`)

The table of networks is one blob, written as the bytes of five structs.  Two older layouts are
told apart by their size, read entry by entry into the present one and saved again; without a
blob the keys of the single-network firmware are read.

* `WifiNetwork`, `WifiNetworkV1`, `WifiNetworkV2` — the three layouts.
* `wifiNetworksInit`, `wifiNetworksSetAll`, `wifiNetworksGet` — the module.
* `savedTable_setAll`, `ram_init_of_stored` — the bytes are those of a saved table.
* `init_of_current`, `init_of_v1`, `init_of_v2`, `init_of_legacy` — what each case of
  `wifiNetworksInit` leaves.
* `migration_exact_iff` — when a migrated table holds the old networks that were in use.
-/

/-! ### Layouts -/

/-- `wifi_network_t`. The texts are arrays, as they may come out of a blob without a terminator. -/
structure WifiNetwork where
  ssid : CharArray 33
  passwd : CharArray 65
  staticIp : CharArray 16
  subnet : CharArray 16
  gateway : CharArray 16
  dns : CharArray 16
  valid : UInt8
  eapMethod : UInt8
  eapPhase2 : UInt8
  eapUseCertBundle : UInt8
  reserved : CharArray 4
  eapIdentity : CharArray 64
  eapUsername : CharArray 64
  eapPassword : CharArray 64
deriving DecidableEq

/-- `wifi_network_v1_t`. There is no name server yet, and no EAP. -/
structure WifiNetworkV1 where
  ssid : CharArray 33
  passwd : CharArray 65
  staticIp : CharArray 16
  subnet : CharArray 16
  gateway : CharArray 16
  valid : UInt8
  reserved : CharArray 7
deriving DecidableEq

/-- `wifi_network_v2_t`. The name server is new in it. -/
structure WifiNetworkV2 where
  ssid : CharArray 33
  passwd : CharArray 65
  staticIp : CharArray 16
  subnet : CharArray 16
  gateway : CharArray 16
  dns : CharArray 16
  valid : UInt8
  reserved : CharArray 7
deriving DecidableEq

open Layout in
/-- The bytes of `wifi_network_t`. All its members are bytes, so there is no padding between
    them. -/
def WifiNetwork.layout : Layout WifiNetwork :=
  (pair (chars 33) <| pair (chars 65) <| pair (chars 16) <| pair (chars 16) <| pair (chars 16) <|
    pair (chars 16) <| pair u8 <| pair u8 <| pair u8 <| pair u8 <| pair (chars 4) <|
    pair (chars 64) <| pair (chars 64) (chars 64)).map
    (fun (ssid, passwd, ip, subnet, gateway, dns, valid, eap, phase2, bundle, reserved, identity,
        username, password) =>
      ⟨ssid, passwd, ip, subnet, gateway, dns, valid, eap, phase2, bundle, reserved, identity,
        username, password⟩)
    (fun n => (n.ssid, n.passwd, n.staticIp, n.subnet, n.gateway, n.dns, n.valid, n.eapMethod,
      n.eapPhase2, n.eapUseCertBundle, n.reserved, n.eapIdentity, n.eapUsername, n.eapPassword))
    fun _ => rfl

open Layout in
/-- The bytes of `wifi_network_v1_t`. The size of a table tells the layouts apart. -/
def WifiNetworkV1.layout : Layout WifiNetworkV1 :=
  (pair (chars 33) <| pair (chars 65) <| pair (chars 16) <| pair (chars 16) <| pair (chars 16) <|
    pair u8 (chars 7)).map
    (fun (ssid, passwd, ip, subnet, gateway, valid, reserved) =>
      ⟨ssid, passwd, ip, subnet, gateway, valid, reserved⟩)
    (fun n => (n.ssid, n.passwd, n.staticIp, n.subnet, n.gateway, n.valid, n.reserved))
    fun _ => rfl

open Layout in
/-- The bytes of `wifi_network_v2_t`. Its entries are longer by the name server. -/
def WifiNetworkV2.layout : Layout WifiNetworkV2 :=
  (pair (chars 33) <| pair (chars 65) <| pair (chars 16) <| pair (chars 16) <| pair (chars 16) <|
    pair (chars 16) <| pair u8 (chars 7)).map
    (fun (ssid, passwd, ip, subnet, gateway, dns, valid, reserved) =>
      ⟨ssid, passwd, ip, subnet, gateway, dns, valid, reserved⟩)
    (fun n => (n.ssid, n.passwd, n.staticIp, n.subnet, n.gateway, n.dns, n.valid, n.reserved))
    fun _ => rfl

/-- `s_nets` as it is written. -/
def tableLayout : Layout { nets : List WifiNetwork // nets.length = wifiNetworksMax } :=
  WifiNetwork.layout.table wifiNetworksMax

/-- The table of the first layout. -/
def tableLayoutV1 : Layout { nets : List WifiNetworkV1 // nets.length = wifiNetworksMax } :=
  WifiNetworkV1.layout.table wifiNetworksMax

/-- The table of the second layout. -/
def tableLayoutV2 : Layout { nets : List WifiNetworkV2 // nets.length = wifiNetworksMax } :=
  WifiNetworkV2.layout.table wifiNetworksMax

/-- The three layouts are told apart by their size. -/
theorem layout_sizes :
    tableLayout.size = 1810 ∧ tableLayoutV1.size = 770 ∧ tableLayoutV2.size = 850 := ⟨rfl, rfl, rfl⟩

/-- All zero. -/
def WifiNetwork.blank : WifiNetwork :=
  ⟨.zero 33, .zero 65, .zero 16, .zero 16, .zero 16, .zero 16, 0, 0, 0, 0, .zero 4, .zero 64,
    .zero 64, .zero 64⟩

/-- An entry of the first layout in the present one. What it did not have is zero. -/
def WifiNetworkV1.expand (o : WifiNetworkV1) : WifiNetwork :=
  { WifiNetwork.blank with
    ssid := o.ssid
    passwd := o.passwd
    staticIp := o.staticIp
    subnet := o.subnet
    gateway := o.gateway
    valid := o.valid }

/-- An entry of the second layout in the present one. What it did not have is zero. -/
def WifiNetworkV2.expand (o : WifiNetworkV2) : WifiNetwork :=
  { WifiNetwork.blank with
    ssid := o.ssid
    passwd := o.passwd
    staticIp := o.staticIp
    subnet := o.subnet
    gateway := o.gateway
    dns := o.dns
    valid := o.valid }

/-! ### The module -/

/-- `NVS_KEY`. -/
def nvsKey : String := "wifi_nets"

/-- `s_nets` and `s_count`, `s_loaded`, and the namespace in NVS. -/
structure State where
  ram : CountedTable WifiNetwork wifiNetworksMax
  loaded : Bool
  nvs : Items

/-- `clear_cache`. -/
def clearCache : CountedTable WifiNetwork wifiNetworksMax :=
  .clear wifiNetworksMax WifiNetwork.blank

/-- `valid && ssid[0]`. -/
def WifiNetwork.inUse (n : WifiNetwork) : Bool := n.valid != 0 && !n.ssid.isEmpty

/-- `ssid[0]`. -/
def WifiNetwork.keep (n : WifiNetwork) : Bool := !n.ssid.isEmpty

/-- `valid = 1`. -/
def WifiNetwork.mark (n : WifiNetwork) : WifiNetwork := { n with valid := 1 }

/-- `wifi_networks_set_all`. Networks without a name are left out, and the others marked as
    valid. -/
def wifiNetworksSetAll (s : State) (arr : Option (List WifiNetwork)) (count : Int)
    (r : NvsCalls) : EspErr × State :=
  match arrayRequest arr count wifiNetworksMax with
  | .error err => (err, s)
  | .ok entries =>
    -- the cache is replaced before NVS is opened
    let ram := clearCache.fill WifiNetwork.keep WifiNetwork.mark entries
    if r.nvsOpen ≠ espOk then (r.nvsOpen, { s with ram := ram })
    else
      (r.err,
        { ram := ram
          loaded := true
          nvs :=
            if r.err = espOk then
              setBlob s.nvs nvsKey (tableLayout.encode ⟨ram.slots, ram.length_slots⟩)
            else s.nvs })

/-- `strlcpy` of a setting that is there. -/
def copyParam {cap : Nat} (nvs : Items) (key : String) : CharArray (cap + 1) :=
  match paramGetStr nvs key with
  | some text => (CharArray.zero (cap + 1)).strlcpy text
  | none => .zero (cap + 1)

/-- `migrate_legacy_into`. Without a name there is no network, and the other keys are not read. -/
def migrateLegacyInto (nvs : Items) : Option WifiNetwork :=
  match paramGetStr nvs "ssid" with
  | none => none
  | some ssid =>
    if ssid.bytes = [] then none
    else some
      { WifiNetwork.blank with
        ssid := (CharArray.zero 33).strlcpy ssid
        passwd := copyParam nvs "passwd"
        staticIp := copyParam nvs "static_ip"
        subnet := copyParam nvs "subnet"
        gateway := copyParam nvs "gateway"
        valid := 1 }

/-- The snapshot of a table of an older layout is saved; `wifi_networks_init` does not look at
    the result. -/
def saveMigrated (nvs : Items) (snapshot : List WifiNetwork) (r : NvsCalls) : State :=
  { (wifiNetworksSetAll ⟨clearCache, false, nvs⟩ (some snapshot) snapshot.length r).2 with
    loaded := true }

/-- `wifi_networks_init`; `r` is for the save of a migrated table. The table in RAM is the migrated
    one also where that save fails. -/
def wifiNetworksInit (nvs : Items) (r : NvsCalls) : State :=
  let legacy : State :=
    match migrateLegacyInto nvs with
    | some tmp => saveMigrated nvs [tmp] r
    | none => ⟨clearCache, true, nvs⟩
  match nvs nvsKey with
  | some (.blob bytes) =>
    if bytes.length = tableLayout.size then
      -- taken as it is, holes and all
      let nets := tableLayout.decode bytes
      ⟨⟨nets.1, nets.1.countP WifiNetwork.inUse, nets.2⟩, true, nvs⟩
    else if bytes.length = tableLayoutV1.size then
      saveMigrated nvs ((tableLayoutV1.decode bytes).1.map WifiNetworkV1.expand) r
    else if bytes.length = tableLayoutV2.size then
      saveMigrated nvs ((tableLayoutV2.decode bytes).1.map WifiNetworkV2.expand) r
    -- a blob of another size counts as none
    else legacy
  | _ => legacy

/-- `wifi_networks_get` on the loaded table. -/
def wifiNetworksGet (t : CountedTable WifiNetwork wifiNetworksMax) (i : Int) :
    Option WifiNetwork :=
  if i < 0 ∨ (wifiNetworksMax : Int) ≤ i then none
  else (t.slots[i.toNat]?).filter WifiNetwork.inUse

/-! ### What a start leaves -/

variable {nvs : Items} {r : NvsCalls} {bytes : List UInt8} {n : WifiNetwork}
  {t : CountedTable WifiNetwork wifiNetworksMax} {entries : List WifiNetwork}

@[simp] theorem inUse_blank : WifiNetwork.blank.inUse = false := rfl

@[simp] theorem inUse_mark (n : WifiNetwork) : n.mark.inUse = n.keep := by
  simp [WifiNetwork.inUse, WifiNetwork.mark, WifiNetwork.keep]

/-- The networks that a save keeps. -/
def keptNetworks (arr : List WifiNetwork) : List WifiNetwork :=
  CountedTable.kept WifiNetwork.keep WifiNetwork.mark arr

theorem inUse_of_mem_kept {arr : List WifiNetwork} (h : n ∈ keptNetworks arr) :
    n.inUse = true := by
  obtain ⟨m, hm, rfl⟩ := List.mem_map.mp h
  rw [inUse_mark]
  exact (List.mem_filter.mp hm).2

/-- The table that NVS has in the present layout. A blob of any other size is none. -/
def storedTable (nvs : Items) :
    Option { nets : List WifiNetwork // nets.length = wifiNetworksMax } :=
  match nvs nvsKey with
  | some (.blob bytes) =>
    if bytes.length = tableLayout.size then some (tableLayout.decode bytes) else none
  | _ => none

/-- The table in RAM and the one in NVS, without the bytes. -/
def State.savedTable (s : State) : SavedTable WifiNetwork wifiNetworksMax :=
  ⟨s.ram, s.loaded, storedTable s.nvs⟩

theorem storedTable_setBlob
    (nets : { nets : List WifiNetwork // nets.length = wifiNetworksMax }) :
    storedTable (setBlob nvs nvsKey (tableLayout.encode nets)) = some nets := by
  unfold storedTable
  simp only [setBlob_self, tableLayout.length_encode, if_true, tableLayout.decode_encode]

/-- **A save of the bytes is a save of the table.** So what is known of the tables of the other
    modules holds of this one. -/
theorem savedTable_setAll (s : State) (arr : Option (List WifiNetwork)) (count : Int)
    (r : NvsCalls) :
    let saved := s.savedTable.setAll WifiNetwork.blank WifiNetwork.keep WifiNetwork.mark
      (arrayRequest arr count wifiNetworksMax) r
    (wifiNetworksSetAll s arr count r).1 = saved.1 ∧
      (wifiNetworksSetAll s arr count r).2.savedTable = saved.2 := by
  unfold wifiNetworksSetAll SavedTable.setAll
  -- A refused request returns before NVS is opened.
  rcases arrayRequest arr count wifiNetworksMax with err | entries
  · exact ⟨rfl, rfl⟩
  dsimp only
  unfold SavedTable.replace
  -- NVS opens or not; only then are the bytes written.
  by_cases hopen : r.nvsOpen = espOk
  · rw [if_neg (not_not.mpr hopen), if_neg (not_not.mpr hopen)]
    refine ⟨rfl, ?_⟩
    unfold State.savedTable
    dsimp only
    -- The blob is there exactly if the write succeeded.
    by_cases hok : r.err = espOk
    · rw [if_pos hok, if_pos hok, storedTable_setBlob]
      rfl
    · rw [if_neg hok, if_neg hok]
      rfl
  · rw [if_pos hopen, if_pos hopen]
    exact ⟨rfl, rfl⟩

/-- And a start from it is one of the table. -/
theorem ram_init_of_stored
    {nets : { nets : List WifiNetwork // nets.length = wifiNetworksMax }}
    (h : storedTable nvs = some nets) : (wifiNetworksInit nvs r).ram =
      SavedTable.boot WifiNetwork.blank WifiNetwork.inUse id (some nets) := by
  unfold storedTable at h
  split at h
  · rename_i bytes hitem
    rw [Option.ite_none_right_eq_some, Option.some.injEq] at h
    obtain ⟨hsize, rfl⟩ := h
    unfold wifiNetworksInit
    simp only [hitem, if_pos hsize, SavedTable.boot, List.map_id]
  · cases h

/-- A table that fits is saved as a whole. -/
theorem arrayRequest_snapshot {snapshot : List WifiNetwork}
    (h : snapshot.length ≤ wifiNetworksMax) :
    arrayRequest (some snapshot) snapshot.length wifiNetworksMax = .ok snapshot := by
  simp only [arrayRequest, Settings.arrayEntries, Int.toNat_natCast, Nat.min_eq_left h,
    List.take_length]

/-- What is saved of it is in RAM, whatever NVS reports. -/
theorem ram_saveMigrated {snapshot : List WifiNetwork} (h : snapshot.length ≤ wifiNetworksMax) :
    (saveMigrated nvs snapshot r).ram =
      clearCache.fill WifiNetwork.keep WifiNetwork.mark snapshot := by
  obtain ⟨-, hsaved⟩ := savedTable_setAll ⟨clearCache, false, nvs⟩ (some snapshot) snapshot.length r
  rw [arrayRequest_snapshot h] at hsaved
  exact (congrArg SavedTable.ram hsaved).trans SavedTable.replace_ram

/-- And in NVS, if it reports success. -/
theorem storedTable_saveMigrated {snapshot : List WifiNetwork}
    (h : snapshot.length ≤ wifiNetworksMax) (hok : r.err = espOk) :
    storedTable (saveMigrated nvs snapshot r).nvs =
      some ⟨(clearCache.fill WifiNetwork.keep WifiNetwork.mark snapshot).slots,
        CountedTable.length_slots _⟩ := by
  obtain ⟨-, hsaved⟩ := savedTable_setAll ⟨clearCache, false, nvs⟩ (some snapshot) snapshot.length r
  rw [arrayRequest_snapshot h] at hsaved
  exact (congrArg SavedTable.blob hsaved).trans (SavedTable.replace_blob.trans (if_pos hok))

/-- The saved table: the kept networks first, blanks behind. -/
theorem filled_saveMigrated (nvs : Items) (r : NvsCalls) {snapshot : List WifiNetwork}
    (h : snapshot.length ≤ wifiNetworksMax) :
    (saveMigrated nvs snapshot r).ram.Filled WifiNetwork.blank (keptNetworks snapshot) := by
  rw [ram_saveMigrated h]
  exact CountedTable.filled_fill h

/-- A blob of the present layout is taken as it is. -/
theorem init_of_current {nets : { nets : List WifiNetwork // nets.length = wifiNetworksMax }}
    (h : nvs nvsKey = some (.blob (tableLayout.encode nets))) :
    wifiNetworksInit nvs r = ⟨⟨nets.1, nets.1.countP WifiNetwork.inUse, nets.2⟩, true, nvs⟩ := by
  unfold wifiNetworksInit
  simp only [h, tableLayout.length_encode, if_true, tableLayout.decode_encode]

/-- One of the first layout is expanded and saved. -/
theorem init_of_v1 (h : nvs nvsKey = some (.blob bytes))
    (hsize : bytes.length = tableLayoutV1.size) :
    wifiNetworksInit nvs r =
      saveMigrated nvs ((tableLayoutV1.decode bytes).1.map WifiNetworkV1.expand) r := by
  have hne : ¬ bytes.length = tableLayout.size := by
    rw [hsize, layout_sizes.1, layout_sizes.2.1]
    decide
  unfold wifiNetworksInit
  simp only [h, if_neg hne, if_pos hsize]

/-- So is one of the second layout. -/
theorem init_of_v2 (h : nvs nvsKey = some (.blob bytes))
    (hsize : bytes.length = tableLayoutV2.size) :
    wifiNetworksInit nvs r =
      saveMigrated nvs ((tableLayoutV2.decode bytes).1.map WifiNetworkV2.expand) r := by
  have hne : ¬ bytes.length = tableLayout.size := by
    rw [hsize, layout_sizes.1, layout_sizes.2.2]
    decide
  have hne' : ¬ bytes.length = tableLayoutV1.size := by
    rw [hsize, layout_sizes.2.1, layout_sizes.2.2]
    decide
  unfold wifiNetworksInit
  simp only [h, if_neg hne, if_neg hne', if_pos hsize]

/-- **A table that was saved is loaded as it was.** -/
theorem init_after_save {snapshot : List WifiNetwork} (h : snapshot.length ≤ wifiNetworksMax)
    (hok : r.err = espOk) (r' : NvsCalls) :
    (wifiNetworksInit (saveMigrated nvs snapshot r).nvs r').ram
      = (saveMigrated nvs snapshot r).ram := by
  rw [ram_init_of_stored (storedTable_saveMigrated h hok), ram_saveMigrated h]
  refine SavedTable.boot_fill ⟨inUse_blank, rfl⟩ (fun n hkeep => ⟨?_, rfl⟩) h
  rwa [inUse_mark]

/-- What can be read from a table that starts with the networks in use. -/
theorem get_of_filled (h : t.Filled WifiNetwork.blank entries)
    (huse : ∀ n ∈ entries, n.inUse = true) (i : Int) :
    wifiNetworksGet t i = if i < 0 then none else entries[i.toNat]? := by
  have hlen : entries.length ≤ wifiNetworksMax := by
    have hslots := t.length_slots
    rw [h.1, List.length_append] at hslots
    omega
  unfold wifiNetworksGet
  by_cases hneg : i < 0
  · rw [if_pos (.inl hneg), if_pos hneg]
  rw [if_neg hneg]
  by_cases hbig : (wifiNetworksMax : Int) ≤ i
  · rw [if_pos (.inr hbig), List.getElem?_eq_none (by omega)]
  rw [if_neg (by omega), h.1]
  by_cases hin : i.toNat < entries.length
  · rw [List.getElem?_append_left hin, List.getElem?_eq_getElem hin, Option.filter_some,
      if_pos (huse _ (List.getElem_mem hin))]
  · -- a blank, which is not in use
    rw [List.getElem?_append_right (by omega), List.getElem?_replicate,
      List.getElem?_eq_none (by omega)]
    split_ifs <;> rfl

/-! ### Migrated tables -/

/-- `valid && ssid[0]` of an entry of an older layout. -/
def WifiNetworkV1.inUse (o : WifiNetworkV1) : Bool := o.valid != 0 && !o.ssid.isEmpty
def WifiNetworkV2.inUse (o : WifiNetworkV2) : Bool := o.valid != 0 && !o.ssid.isEmpty

/-- The settings that the first layout did not have are empty: it is a network with a shared key
    alone. -/
structure PlainPsk (n : WifiNetwork) : Prop where
  eapMethod : n.eapMethod = 0
  eapPhase2 : n.eapPhase2 = 0
  eapUseCertBundle : n.eapUseCertBundle = 0
  reserved : n.reserved = .zero 4
  eapIdentity : n.eapIdentity = .zero 64
  eapUsername : n.eapUsername = .zero 64
  eapPassword : n.eapPassword = .zero 64

/-- `n` is the network `o`, marked as in use: the shared fields are equal, the others empty. Equal
    means byte for byte, behind a terminator too. -/
structure CarriesV1 (o : WifiNetworkV1) (n : WifiNetwork) : Prop where
  ssid : n.ssid = o.ssid
  passwd : n.passwd = o.passwd
  staticIp : n.staticIp = o.staticIp
  subnet : n.subnet = o.subnet
  gateway : n.gateway = o.gateway
  dns : n.dns = .zero 16
  valid : n.valid = 1
  plain : PlainPsk n

/-- The same for the second layout, which had the name server. It is the only field more. -/
structure CarriesV2 (o : WifiNetworkV2) (n : WifiNetwork) : Prop where
  ssid : n.ssid = o.ssid
  passwd : n.passwd = o.passwd
  staticIp : n.staticIp = o.staticIp
  subnet : n.subnet = o.subnet
  gateway : n.gateway = o.gateway
  dns : n.dns = o.dns
  valid : n.valid = 1
  plain : PlainPsk n

theorem carriesV1_iff (o : WifiNetworkV1) (n : WifiNetwork) :
    CarriesV1 o n ↔ n = o.expand.mark := by
  constructor
  · rintro ⟨hssid, hpasswd, hip, hsubnet, hgateway, hdns, hvalid, ⟨h1, h2, h3, h4, h5, h6, h7⟩⟩
    cases n
    simp_all [WifiNetworkV1.expand, WifiNetwork.mark, WifiNetwork.blank]
  · rintro rfl
    exact ⟨rfl, rfl, rfl, rfl, rfl, rfl, rfl, ⟨rfl, rfl, rfl, rfl, rfl, rfl, rfl⟩⟩

theorem carriesV2_iff (o : WifiNetworkV2) (n : WifiNetwork) :
    CarriesV2 o n ↔ n = o.expand.mark := by
  constructor
  · rintro ⟨hssid, hpasswd, hip, hsubnet, hgateway, hdns, hvalid, ⟨h1, h2, h3, h4, h5, h6, h7⟩⟩
    cases n
    simp_all [WifiNetworkV2.expand, WifiNetwork.mark, WifiNetwork.blank]
  · rintro rfl
    exact ⟨rfl, rfl, rfl, rfl, rfl, rfl, rfl, ⟨rfl, rfl, rfl, rfl, rfl, rfl, rfl⟩⟩

section Migrated

variable {α : Type}

/-- The table holds exactly the old entries that were in use, in their order; they are found at
    the first indices, and a start after a successful save yields the same table. -/
structure MigratedExactly (inUse : α → Bool) (carries : α → WifiNetwork → Prop) (olds : List α)
    (r : NvsCalls) (s : State) : Prop where
  table : ∃ entries, List.Forall₂ carries (olds.filter inUse) entries ∧
    s.ram.Filled WifiNetwork.blank entries ∧
    ∀ i : Int, wifiNetworksGet s.ram i = if i < 0 then none else entries[i.toNat]?
  stable : r.err = espOk → ∀ r', (wifiNetworksInit s.nvs r').ram = s.ram

/-- A filled table determines its entries. -/
theorem entries_of_filled {entries' : List WifiNetwork}
    (h : t.Filled WifiNetwork.blank entries) (h' : t.Filled WifiNetwork.blank entries') :
    entries = entries' := by
  have hlen : entries.length = entries'.length := h.2.symm.trans h'.2
  have heq := h.1.symm.trans h'.1
  exact List.append_inj_left heq hlen

/-- The smaller of two selections is the other one exactly if they select the same. -/
theorem filter_eq_filter_iff {p q : α → Bool} {l : List α} (hpq : ∀ x, p x = true → q x = true) :
    (l.filter p).length = (l.filter q).length ↔ ∀ x ∈ l, q x = true → p x = true := by
  constructor
  · intro hlen x hx hq
    have hsub : (l.filter p).Sublist (l.filter q) := List.monotone_filter_right l hpq
    have heq := hsub.eq_of_length hlen
    have hmem : x ∈ l.filter p := heq ▸ List.mem_filter.mpr ⟨hx, hq⟩
    exact (List.mem_filter.mp hmem).2
  · intro h
    rw [List.filter_congr (q := q)]
    intro x hx
    exact Bool.eq_iff_iff.mpr ⟨hpq x, h x hx⟩

/-- **Migration of a table**, from either layout: nothing else is in the new table exactly if no
    old entry with a name was out of use. -/
theorem migratedExactly_iff {inUse : α → Bool} {carries : α → WifiNetwork → Prop}
    {expand : α → WifiNetwork} {olds : List α} (hsize : olds.length ≤ wifiNetworksMax)
    (hcarries : ∀ o n, carries o n ↔ n = (expand o).mark)
    (huse : ∀ o, inUse o = true → (expand o).keep = true) :
    MigratedExactly inUse carries olds r (saveMigrated nvs (olds.map expand) r) ↔
      ∀ o ∈ olds, (expand o).keep = true → inUse o = true := by
  have hlen : (olds.map expand).length ≤ wifiNetworksMax := by rwa [List.length_map]
  have hfilled := filled_saveMigrated nvs r hlen
  have hkept : keptNetworks (olds.map expand)
      = (olds.filter (WifiNetwork.keep ∘ expand)).map (WifiNetwork.mark ∘ expand) := by
    rw [keptNetworks, CountedTable.kept, List.filter_map, List.map_map]
  have hforall : ∀ l : List α, ∀ ns,
      List.Forall₂ carries l ns ↔ l.map (WifiNetwork.mark ∘ expand) = ns := by
    intro l ns
    rw [← List.forall₂_eq_eq_eq, List.forall₂_map_left_iff]
    have hsame : carries = fun o n => (WifiNetwork.mark ∘ expand) o = n := by
      ext o n
      exact (hcarries o n).trans eq_comm
    rw [hsame]
  -- both selections keep the order, so their lengths tell whether they differ
  have hselect := filter_eq_filter_iff (p := inUse) (q := WifiNetwork.keep ∘ expand) (l := olds)
    huse
  constructor
  · rintro ⟨⟨entries, hold, hfill, -⟩, -⟩
    have heq := entries_of_filled hfilled hfill
    rw [hforall] at hold
    rw [← hold, hkept] at heq
    have hlen' := congrArg List.length heq
    rw [List.length_map, List.length_map] at hlen'
    exact hselect.mp hlen'.symm
  · intro h
    refine ⟨⟨_, ?_, hfilled, get_of_filled hfilled fun n hn => inUse_of_mem_kept hn⟩,
      fun hok r' => init_after_save hlen hok r'⟩
    rw [hforall, hkept]
    congr 1
    apply List.filter_congr
    intro o ho
    exact Bool.eq_iff_iff.mpr ⟨huse o, h o ho⟩

end Migrated

/-- **Migration.** From every blob of an older layout, whatever is in it, the start leaves
    exactly the networks that were in use, each with its settings, and the next start the same
    ones, if and only if each old entry with a name was marked valid. -/
theorem migration_exact_iff (nvs : Items) (r : NvsCalls) :
    (∀ blob : { bytes : List UInt8 // bytes.length = tableLayoutV1.size },
      let olds := (tableLayoutV1.decode blob.1).1
      MigratedExactly WifiNetworkV1.inUse CarriesV1 olds r
          (wifiNetworksInit (setBlob nvs nvsKey blob.1) r) ↔
        ∀ o ∈ olds, o.ssid.isEmpty = false → o.valid ≠ 0) ∧
    (∀ blob : { bytes : List UInt8 // bytes.length = tableLayoutV2.size },
      let olds := (tableLayoutV2.decode blob.1).1
      MigratedExactly WifiNetworkV2.inUse CarriesV2 olds r
          (wifiNetworksInit (setBlob nvs nvsKey blob.1) r) ↔
        ∀ o ∈ olds, o.ssid.isEmpty = false → o.valid ≠ 0) := by
  constructor
  -- Version 1: the entries are expanded one by one, and kept if they were in use.
  · intro blob olds
    rw [init_of_v1 setBlob_self blob.2]
    have hsize : olds.length ≤ wifiNetworksMax := (tableLayoutV1.decode blob.1).2.le
    have huse : ∀ o, WifiNetworkV1.inUse o = true → o.expand.keep = true :=
      fun o ho => (Bool.and_eq_true_iff.mp ho).2
    refine (migratedExactly_iff hsize carriesV1_iff huse).trans ?_
    refine forall₂_congr fun o _ => ?_
    -- An entry without a name is no entry of either.
    cases hssid : o.ssid.isEmpty <;>
      simp [WifiNetwork.keep, WifiNetworkV1.inUse, WifiNetworkV1.expand, hssid]
  -- Version 2 likewise, with its own layout.
  · intro blob olds
    rw [init_of_v2 setBlob_self blob.2]
    have hsize : olds.length ≤ wifiNetworksMax := (tableLayoutV2.decode blob.1).2.le
    have huse : ∀ o, WifiNetworkV2.inUse o = true → o.expand.keep = true :=
      fun o ho => (Bool.and_eq_true_iff.mp ho).2
    refine (migratedExactly_iff hsize carriesV2_iff huse).trans ?_
    refine forall₂_congr fun o _ => ?_
    cases hssid : o.ssid.isEmpty <;>
      simp [WifiNetwork.keep, WifiNetworkV2.inUse, WifiNetworkV2.expand, hssid]

/-! ### A network that comes back -/

/-- A text of at most 32 characters as `char[33]`. -/
def nameOf (text : CText) : CharArray 33 := (CharArray.zero 33).strlcpy text

/-- `old`. -/
def oldName : CText := ⟨[111, 108, 100], by decide⟩

/-- A network of the first layout that was removed: its entry was only marked as not in use. -/
def removedNetwork : WifiNetworkV1 :=
  ⟨nameOf oldName, .zero 65, .zero 16, .zero 16, .zero 16, 0, .zero 7⟩

/-- The table with this entry. -/
def removedTable : { nets : List WifiNetworkV1 // nets.length = wifiNetworksMax } :=
  ⟨List.replicate wifiNetworksMax removedNetwork, List.length_replicate⟩

/-- The migration puts it back in use. -/
theorem removed_network_revived :
    ¬ ∀ (nvs : Items) (r : NvsCalls)
        (blob : { bytes : List UInt8 // bytes.length = tableLayoutV1.size }),
      MigratedExactly WifiNetworkV1.inUse CarriesV1 (tableLayoutV1.decode blob.1).1 r
        (wifiNetworksInit (setBlob nvs nvsKey blob.1) r) := by
  intro h
  have hexact := h (fun _ => none) .succeed
    ⟨tableLayoutV1.encode removedTable, tableLayoutV1.length_encode _⟩
  obtain ⟨⟨entries, hold, hfilled, -⟩, -⟩ := hexact
  rw [init_of_v1 setBlob_self (tableLayoutV1.length_encode _)] at hfilled
  rw [Layout.decode_encode] at hold hfilled
  -- no old entry was in use, but all five are in the table
  have hnone : entries = [] := List.forall₂_nil_left_iff.mp hold
  have hkept := entries_of_filled hfilled
    (filled_saveMigrated _ _ (by rw [List.length_map, removedTable.2]))
  rw [hnone] at hkept
  exact absurd (congrArg List.length hkept) (by decide)

end SubnetRouter.Wifi
