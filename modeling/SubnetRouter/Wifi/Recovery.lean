import Mathlib.Data.List.TakeDrop
import SubnetRouter.Wifi.Networks

namespace SubnetRouter.Wifi

open Lib Nvs
open SubnetRouter.Settings (NvsCalls EspErr espOk wifiNetworksMax)

/-!
# Setting the uplink from the serial console (`components/cli/cli.c`)

`set_sta` writes the keys of the single-network firmware and leaves it to the next start to put
them into slot 0 of the table.  The start looks at these keys only when there is no table.

* `cmdSetSta` — the command.
* `FirstIs` — slot 0 has the given name and password; `firstStored` — what a stored table gives.
* `set_sta_recovers_iff` — when the command does what it says.
-/

/-! ### The command -/

/-- `nvs_set_str_ns`; `result` is what the first call that fails returns, `ESP_OK` if none does. -/
def nvsSetStrNs (nvs : Items) (key : String) (value : CText) (result : EspErr) :
    EspErr × Items :=
  if result = espOk then (espOk, setStr nvs key value) else (result, nvs)

/-- `cmd_set_sta` behind `arg_parse`: the exit code, and the namespace. The table of networks is not
    written. -/
def cmdSetSta (nvs : Items) (ssid : CText) (pw : Option CText) (results : Nat → EspErr) :
    Int × Items :=
  -- the second key is written whatever became of the first
  let (e1, nvs) := nvsSetStrNs nvs "ssid" ssid (results 0)
  let (e2, nvs) :=
    match pw with
    | some pw => nvsSetStrNs nvs "passwd" pw (results 1)
    | none => (espOk, nvs)
  if e1 ≠ espOk ∨ e2 ≠ espOk then (1, nvs) else (0, nvs)

variable {nvs nvs' : Items} {ssid pw : CText} {results : Nat → EspErr} {r : NvsCalls}

/-- A command that reports success has written both keys. -/
theorem cmdSetSta_ok (h : (cmdSetSta nvs ssid (some pw) results).1 = 0) :
    (cmdSetSta nvs ssid (some pw) results).2 = setStr (setStr nvs "ssid" ssid) "passwd" pw := by
  unfold cmdSetSta nvsSetStrNs at h ⊢
  by_cases h0 : results 0 = espOk
  · by_cases h1 : results 1 = espOk
    · simp [h0, h1]
    · simp [h0, h1] at h
  · simp [h0] at h

/-! ### Slot 0 -/

/-- Slot 0 of the table has this name and this password. -/
def FirstIs (t : CountedTable WifiNetwork wifiNetworksMax) (ssid pw : CText) : Prop :=
  ∃ n, wifiNetworksGet t 0 = some n ∧ n.ssid.text = ssid ∧ n.passwd.text = pw

/-- What the table in NVS gives for slot 0 on a start: no table, or the first network, if any. Older
    layouts drop their holes, so there it is the first one with a name. -/
def firstStored (nvs : Items) : Option (Option WifiNetwork) :=
  match nvs nvsKey with
  | some (.blob bytes) =>
    if bytes.length = tableLayout.size then
      some ((tableLayout.decode bytes).1.head?.filter WifiNetwork.inUse)
    else if bytes.length = tableLayoutV1.size then
      some (((tableLayoutV1.decode bytes).1.map WifiNetworkV1.expand).find? WifiNetwork.keep)
    else if bytes.length = tableLayoutV2.size then
      some (((tableLayoutV2.decode bytes).1.map WifiNetworkV2.expand).find? WifiNetwork.keep)
    else none
  | _ => none

/-- There is no table, and name and password fit their fields; or the table has them first. -/
def Recovers (nvs : Items) (ssid pw : CText) : Prop :=
  match firstStored nvs with
  | none => ssid.bytes ≠ [] ∧ ssid.bytes.length ≤ 32 ∧ pw.bytes.length ≤ 64
  | some first => ∃ n ∈ first, n.ssid.text = ssid ∧ n.passwd.text = pw

instance (nvs : Items) (ssid pw : CText) : Decidable (Recovers nvs ssid pw) := by
  unfold Recovers
  cases firstStored nvs with
  | none => exact inferInstanceAs (Decidable (_ ∧ _))
  | some first => exact inferInstanceAs (Decidable (∃ n ∈ first, _))

/-- Only the table counts. -/
theorem firstStored_congr (h : nvs' nvsKey = nvs nvsKey) : firstStored nvs' = firstStored nvs := by
  unfold firstStored
  rw [h]

/-- Slot 0 of a saved table is the first network that was kept. -/
theorem firstIs_saveMigrated {snapshot : List WifiNetwork}
    (h : snapshot.length ≤ wifiNetworksMax) :
    FirstIs (saveMigrated nvs snapshot r).ram ssid pw ↔
      ∃ n ∈ snapshot.find? WifiNetwork.keep, n.ssid.text = ssid ∧ n.passwd.text = pw := by
  have hget := get_of_filled (filled_saveMigrated nvs r h)
    (fun n hn => inUse_of_mem_kept hn) 0
  have hfirst : (keptNetworks snapshot)[(0 : Int).toNat]?
      = (snapshot.find? WifiNetwork.keep).map WifiNetwork.mark := by
    show (keptNetworks snapshot)[0]? = _
    rw [← List.head?_eq_getElem?, keptNetworks, CountedTable.kept, List.head?_map,
      List.head?_filter]
  unfold FirstIs
  rw [hget, if_neg (by decide), hfirst]
  cases snapshot.find? WifiNetwork.keep with
  | none => simp
  | some n =>
    simp only [Option.map_some, Option.some.injEq, exists_eq_left', Option.mem_def]
    -- the mark is not part of name and password
    exact Iff.rfl

/-- Slot 0 of a table of the present layout. -/
theorem firstIs_current {nets : { nets : List WifiNetwork // nets.length = wifiNetworksMax }}
    {count : Nat} : FirstIs ⟨nets.1, count, nets.2⟩ ssid pw ↔
      ∃ n ∈ nets.1.head?.filter WifiNetwork.inUse, n.ssid.text = ssid ∧ n.passwd.text = pw := by
  unfold FirstIs wifiNetworksGet
  rw [if_neg (by decide)]
  show (∃ n, (nets.1[0]?).filter WifiNetwork.inUse = some n ∧ _) ↔ _
  rw [← List.head?_eq_getElem?]
  rfl

/-- Without a table the keys of the single-network firmware are migrated. -/
theorem init_of_legacy (hnone : firstStored nvs = none) :
    wifiNetworksInit nvs r =
      match migrateLegacyInto nvs with
      | some tmp => saveMigrated nvs [tmp] r
      | none => ⟨clearCache, true, nvs⟩ := by
  unfold firstStored at hnone
  unfold wifiNetworksInit
  cases hitem : nvs nvsKey with
  | none => rfl
  | some item =>
    cases item with
    | blob bytes =>
      -- a blob of another size is no table
      simp only [hitem] at hnone
      split_ifs at hnone with h1 h2 h3
      exact (if_neg h1).trans ((if_neg h2).trans (if_neg h3))
    | str => rfl
    | i32 => rfl

/-- Then slot 0 has what is in the two keys, cut to its fields. It is all of it exactly if both
    fit. -/
theorem firstIs_legacy (hnone : firstStored nvs = none) (hssid : nvs "ssid" = some (.str ssid))
    (hpw : nvs "passwd" = some (.str pw)) :
    FirstIs (wifiNetworksInit nvs r).ram ssid pw ↔
      ssid.bytes ≠ [] ∧ ssid.bytes.length ≤ 32 ∧ pw.bytes.length ≤ 64 := by
  rw [init_of_legacy hnone]
  unfold migrateLegacyInto copyParam
  simp only [paramGetStr, hssid, hpw]
  by_cases hempty : ssid.bytes = []
  · -- nothing is migrated, and slot 0 stays blank
    simp only [hempty, if_true, ne_eq, not_true_eq_false, false_and, iff_false]
    rintro ⟨n, hget, -⟩
    have hblank : wifiNetworksGet clearCache 0 = none := by decide
    rw [hblank] at hget
    cases hget
  · rw [if_neg hempty]
    dsimp only
    rw [firstIs_saveMigrated (by simp [wifiNetworksMax])]
    have hname : ((CharArray.zero 33).strlcpy ssid).isEmpty = false := by
      rw [← Bool.not_eq_true, CharArray.isEmpty_iff, CharArray.bytes_text_strlcpy,
        List.take_eq_nil_iff]
      simp [hempty]
    simp only [List.find?_cons, WifiNetwork.keep, hname, Bool.not_false, Option.mem_def,
      Option.some.injEq, exists_eq_left', CText.ext_iff, CharArray.bytes_text_strlcpy,
      List.take_eq_self_iff, ne_eq, hempty, not_false_eq_true, true_and]

/-- What a start makes of slot 0, from what is in NVS: a table, if there is one, or else the two
    keys. -/
theorem firstIs_init (hssid : nvs "ssid" = some (.str ssid))
    (hpw : nvs "passwd" = some (.str pw)) :
    FirstIs (wifiNetworksInit nvs r).ram ssid pw ↔ Recovers nvs ssid pw := by
  by_cases hnone : firstStored nvs = none
  · rw [firstIs_legacy hnone hssid hpw, Recovers, hnone]
  -- there is a table, so the two keys are not looked at
  unfold Recovers
  unfold firstStored at hnone ⊢
  cases hitem : nvs nvsKey with
  | none => simp [hitem] at hnone
  | some item =>
    cases item with
    | blob bytes =>
      simp only [hitem] at hnone ⊢
      split_ifs at hnone ⊢ with h1 h2 h3
      · unfold wifiNetworksInit
        simp only [hitem, if_pos h1]
        exact firstIs_current
      · rw [init_of_v1 hitem h2, firstIs_saveMigrated]
        rw [List.length_map, (tableLayoutV1.decode bytes).2]
      · rw [init_of_v2 hitem h3, firstIs_saveMigrated]
        rw [List.length_map, (tableLayoutV2.decode bytes).2]
      · exact absurd rfl hnone
    | str => simp [hitem] at hnone
    | i32 => simp [hitem] at hnone

/-- **Recovery from the console.** For every namespace, name and password: after a `set_sta` that
    reported success and a start, slot 0 has exactly this name and this password if and only if
    there was no table in NVS and both fit, or the table had them first already. -/
theorem set_sta_recovers_iff (nvs : Items) (ssid pw : CText) (results : Nat → EspErr)
    (r : NvsCalls) (h : (cmdSetSta nvs ssid (some pw) results).1 = 0) :
    FirstIs (wifiNetworksInit (cmdSetSta nvs ssid (some pw) results).2 r).ram ssid pw ↔
      Recovers nvs ssid pw := by
  rw [cmdSetSta_ok h]
  have htable : setStr (setStr nvs "ssid" ssid) "passwd" pw nvsKey = nvs nvsKey := by
    rw [setStr_of_ne (by decide), setStr_of_ne (by decide)]
  have hssid : setStr (setStr nvs "ssid" ssid) "passwd" pw "ssid" = some (.str ssid) := by
    rw [setStr_of_ne (by decide), setStr_self]
  rw [firstIs_init hssid setStr_self, Recovers, Recovers, firstStored_congr htable]

/-- `home`, `secret99`. -/
def homeName : CText := ⟨[104, 111, 109, 101], by decide⟩
def homePassword : CText := ⟨[115, 101, 99, 114, 101, 116, 57, 57], by decide⟩

/-- On a device without a table the command works. -/
theorem first_uplink_set :
    FirstIs (wifiNetworksInit (cmdSetSta (fun _ => none) homeName (some homePassword)
      fun _ => espOk).2 .succeed).ram homeName homePassword := by
  have hempty : Recovers (fun _ => none) homeName homePassword := by decide
  exact (set_sta_recovers_iff _ _ _ _ _ rfl).mpr hempty

/-- The table of a device whose only network, `old`, is out of reach. -/
def oldTable : { nets : List WifiNetwork // nets.length = wifiNetworksMax } :=
  ⟨{ WifiNetwork.blank with ssid := nameOf oldName, valid := 1 } ::
    List.replicate 4 WifiNetwork.blank, rfl⟩

/-- The command reports success, and the device comes back with the old network. -/
theorem old_network_stays :
    ¬ ∀ (nvs : Items) (ssid pw : CText) (results : Nat → EspErr) (r : NvsCalls),
      (cmdSetSta nvs ssid (some pw) results).1 = 0 →
        FirstIs (wifiNetworksInit (cmdSetSta nvs ssid (some pw) results).2 r).ram ssid pw := by
  intro h
  have hfirst := h (setBlob (fun _ => none) nvsKey (tableLayout.encode oldTable)) homeName
    homePassword (fun _ => espOk) .succeed rfl
  have hstored : setStr (setStr (setBlob (fun _ => none) nvsKey (tableLayout.encode oldTable))
      "ssid" homeName) "passwd" homePassword nvsKey
        = some (.blob (tableLayout.encode oldTable)) := by
    rw [setStr_of_ne (by decide), setStr_of_ne (by decide), setBlob_self]
  rw [cmdSetSta_ok rfl, init_of_current hstored] at hfirst
  obtain ⟨n, hget, hname, -⟩ := hfirst
  obtain rfl := Option.some.inj hget
  exact absurd hname (by decide)

end SubnetRouter.Wifi
