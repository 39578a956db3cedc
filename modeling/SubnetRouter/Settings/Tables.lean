import SubnetRouter.Dhcp.Server
import SubnetRouter.Lib.Refill
import SubnetRouter.PortMap
import SubnetRouter.Settings.Nvs

namespace SubnetRouter.Settings

open Lib CountedTable
open SubnetRouter.Dhcp (DhcpReservation dhcpReservationsMax macIsZero)
open SubnetRouter.TailnetForward (PortmapEntry Slot portmapConflict portmapMax)

/-!
# Tables saved as one blob

Five modules keep a table in RAM and in one NVS blob, and replace both in `*_set_all`:
`main/portmap.c`, `main/dhcp_reservations.c`, `main/mac_deny.c`, `main/wifi_networks.c` and
`main/wol.c`.  All of them clear and fill the table in RAM before they write it.

* `SavedTable.replace` — clear, fill, write; `SavedTable.boot` — what the next boot loads.
* `replace_unchanged_iff` — when an error leaves the table in RAM as it was.
* `replace_agrees_iff` — when what runs is still what the next boot loads.
* `portmapSetAll`, `dhcpReservationsSetAll`, `macDenySetAll`, `wifiNetworksSetAll`, `wolSetAll`.
* `tableSaves_unchanged_iff`, `tableSaves_agree_iff` — the five of them.
-/

/-! ### A table in RAM and in NVS -/

/-- What the three NVS calls of a save return. -/
structure NvsCalls where
  nvsOpen : EspErr
  nvsSetBlob : EspErr
  nvsCommit : EspErr

/-- Every call succeeds. -/
def NvsCalls.succeed : NvsCalls := ⟨espOk, espOk, espOk⟩

/-- The error of a save. -/
def NvsCalls.err (r : NvsCalls) : EspErr :=
  if r.nvsOpen ≠ espOk then r.nvsOpen
  else if r.nvsSetBlob ≠ espOk then r.nvsSetBlob
  else r.nvsCommit

/-- `s_table` and `s_count`, `s_loaded`, and the blob. -/
structure SavedTable (α : Type) (size : Nat) where
  ram : CountedTable α size
  loaded : Bool
  blob : Option { slots : List α // slots.length = size }

/-- The first `count` entries of an array, at most as many as the table holds. -/
def arrayEntries {α : Type} (arr : List α) (count : Int) (size : Nat) : List α :=
  arr.take (min count.toNat size)

namespace SavedTable

section Replace

variable {α : Type} {size : Nat} (blank : α) (keep : α → Bool) (mark : α → α)

/-- Clear and fill the table, then write it. RAM has the new table whatever the write returns. -/
def replace (s : SavedTable α size) (arr : List α) (r : NvsCalls) : EspErr × SavedTable α size :=
  let ram := (clear size blank).fill keep mark arr
  -- `s_loaded` is set behind the early return of a failed `nvs_open`
  if r.nvsOpen ≠ espOk then (r.nvsOpen, { s with ram := ram })
  else
    (r.err,
      { ram := ram
        loaded := true
        blob := if r.err = espOk then some ⟨ram.slots, ram.length_slots⟩ else s.blob })

/-- The table that `*_init` loads. The slots are taken as they lie in the blob, and the count is
    that of the slots in use. -/
def boot (inUse : α → Bool) (load : α → α)
    (blob : Option { slots : List α // slots.length = size }) : CountedTable α size :=
  match blob with
  | some slots => ⟨slots.1.map load, slots.1.countP inUse, by rw [List.length_map, slots.2]⟩
  | none => clear size blank

end Replace

variable {α : Type} {size : Nat} {blank : α} {keep : α → Bool} {mark : α → α}
  {inUse : α → Bool} {load : α → α} {s : SavedTable α size} {arr : List α} {r : NvsCalls}

/-- A call that returns an error has not touched the table in RAM. -/
def Unchanged (s : SavedTable α size) (result : EspErr × SavedTable α size) : Prop :=
  result.1 ≠ espOk → result.2.ram = s.ram

theorem replace_err : (s.replace blank keep mark arr r).1 = r.err := by
  unfold replace NvsCalls.err
  split_ifs <;> rfl

theorem replace_ram :
    (s.replace blank keep mark arr r).2.ram = (clear size blank).fill keep mark arr := by
  unfold replace
  split_ifs <;> rfl

theorem replace_blob : (s.replace blank keep mark arr r).2.blob =
    if r.err = espOk then
      some ⟨((clear size blank).fill keep mark arr).slots, CountedTable.length_slots _⟩
    else s.blob := by
  unfold replace
  by_cases hopen : r.nvsOpen = espOk
  · rw [if_neg (not_not.mpr hopen)]
  · rw [if_pos hopen]
    have herr : r.err ≠ espOk := by
      rw [NvsCalls.err, if_pos hopen]
      exact hopen
    rw [if_neg herr]

/-- **When an error leaves the table as it was**: there is none, or the table held what is kept
    of the array. -/
theorem replace_unchanged_iff (h : arr.length ≤ size) :
    s.Unchanged (s.replace blank keep mark arr r) ↔
      r.err = espOk ∨ s.ram.Filled blank (kept keep mark arr) := by
  rw [Unchanged, replace_err, replace_ram, fill_eq_iff h]
  exact imp_iff_not_or.trans (or_congr_left not_not)

/-- A filled table is loaded as it was written. -/
theorem boot_fill (hblank : inUse blank = false ∧ load blank = blank)
    (hmark : ∀ x, keep x = true → inUse (mark x) = true ∧ load (mark x) = mark x)
    (h : arr.length ≤ size) :
    boot blank inUse load (some ⟨((clear size blank).fill keep mark arr).slots,
      CountedTable.length_slots _⟩) = (clear size blank).fill keep mark arr := by
  have hfilled : ((clear size blank).fill keep mark arr).Filled blank (kept keep mark arr) :=
    filled_fill h
  obtain ⟨hslots, hcount⟩ := hfilled
  -- a kept entry is in use and loaded as it is; the blanks behind are not in use
  have hkept : ∀ y ∈ kept keep mark arr, inUse y = true ∧ load y = y := by
    intro y hy
    obtain ⟨x, hx, rfl⟩ := List.mem_map.mp hy
    exact hmark x (List.mem_filter.mp hx).2
  have hload : (kept keep mark arr).map load = kept keep mark arr := by
    conv_rhs => rw [← List.map_id (kept keep mark arr)]
    exact List.map_congr_left fun y hy => (hkept y hy).2
  ext1
  · show ((clear size blank).fill keep mark arr).slots.map load = _
    rw [hslots, List.map_append, hload, List.map_replicate, hblank.2]
  · show ((clear size blank).fill keep mark arr).slots.countP inUse = _
    rw [hcount, hslots, List.countP_append, List.countP_replicate, hblank.1, if_neg (by decide),
      Nat.add_zero, List.countP_eq_length]
    exact fun y hy => (hkept y hy).1

/-- **What runs is what the next boot loads**, after a save as before it, exactly if the save
    succeeds or leaves the table in RAM as it was. -/
theorem replace_agrees_iff (hblank : inUse blank = false ∧ load blank = blank)
    (hmark : ∀ x, keep x = true → inUse (mark x) = true ∧ load (mark x) = mark x)
    (h : arr.length ≤ size) (hbefore : s.ram = boot blank inUse load s.blob) :
    (s.replace blank keep mark arr r).2.ram =
        boot blank inUse load (s.replace blank keep mark arr r).2.blob ↔
      s.Unchanged (s.replace blank keep mark arr r) := by
  rw [replace_unchanged_iff h, ← fill_eq_iff h, replace_ram, replace_blob]
  by_cases herr : r.err = espOk
  · rw [if_pos herr, boot_fill hblank hmark h]
    exact iff_of_true rfl (.inl herr)
  · -- the blob is the one from before
    rw [if_neg herr, ← hbefore]
    exact (or_iff_right herr).symm

/-- The array of a request replaces the table; a request that is refused does not. All the modules
    but `wol_set_all` save this way. -/
def setAll (blank : α) (keep : α → Bool) (mark : α → α) (s : SavedTable α size)
    (request : Except EspErr (List α)) (r : NvsCalls) : EspErr × SavedTable α size :=
  match request with
  | .error err => (err, s)
  | .ok arr => s.replace blank keep mark arr r

/-- The request is refused, or the save succeeds, or the table holds what is kept of the array. -/
def Keeps (blank : α) (keep : α → Bool) (mark : α → α) (s : SavedTable α size)
    (request : Except EspErr (List α)) (r : NvsCalls) : Prop :=
  ∀ arr, request = .ok arr → r.err = espOk ∨ s.ram.Filled blank (kept keep mark arr)

theorem setAll_unchanged_iff {request : Except EspErr (List α)}
    (h : ∀ arr, request = .ok arr → arr.length ≤ size) :
    s.Unchanged (s.setAll blank keep mark request r) ↔ s.Keeps blank keep mark request r := by
  rcases request with err | arr
  · exact iff_of_true (fun _ => rfl) (fun _ hok => nomatch hok)
  · show s.Unchanged (s.replace blank keep mark arr r) ↔ _
    rw [replace_unchanged_iff (h arr rfl)]
    exact ⟨fun hkeeps _ hok => Except.ok.inj hok ▸ hkeeps, fun hkeeps => hkeeps arr rfl⟩

/-- A request leaves what runs and what the next boot loads in agreement exactly if an error
    leaves the table in RAM as it was. -/
theorem setAll_agrees_iff {request : Except EspErr (List α)}
    (hblank : inUse blank = false ∧ load blank = blank)
    (hmark : ∀ x, keep x = true → inUse (mark x) = true ∧ load (mark x) = mark x)
    (h : ∀ arr, request = .ok arr → arr.length ≤ size)
    (hbefore : s.ram = boot blank inUse load s.blob) :
    (s.setAll blank keep mark request r).2.ram =
        boot blank inUse load (s.setAll blank keep mark request r).2.blob ↔
      s.Unchanged (s.setAll blank keep mark request r) := by
  rcases request with err | arr
  · exact iff_of_true hbefore fun _ => rfl
  · exact replace_agrees_iff hblank hmark (h arr rfl) hbefore

end SavedTable

/-! ### The five tables -/

/-- `portmap_entry_t` with its name. -/
structure PortmapRecord extends PortmapEntry where
  name : CString 31
deriving DecidableEq

/-- `dhcp_reservation_t` with its name. -/
structure DhcpReservationRecord extends DhcpReservation where
  name : CString 31
deriving DecidableEq

/-- `mac_deny_entry_t`. An entry without a MAC address is an unused slot. -/
structure MacDenyEntry where
  mac : Mac
  valid : Bool
  name : CString 31
deriving DecidableEq

/-- `wifi_network_t`. A network without a name is an unused slot. -/
structure WifiNetwork where
  ssid : CString 32
  passwd : CString 64
  staticIp : CString 15
  subnet : CString 15
  gateway : CString 15
  dns : CString 15
  valid : Bool
  eapMethod : UInt8
  eapPhase2 : UInt8
  eapUseCertBundle : UInt8
  eapIdentity : CString 63
  eapUsername : CString 63
  eapPassword : CString 63
deriving DecidableEq

/-- `wol_device_t`. The broadcast address is kept as a text, which may be empty. -/
structure WolDevice where
  name : CString 31
  mac : Mac
  valid : Bool
  broadcast : CString 15
  port : UInt16
deriving DecidableEq

/-- `MAC_DENY_MAX`. -/
def macDenyMax : Nat := 16

/-- `WIFI_NETWORKS_MAX`. -/
def wifiNetworksMax : Nat := 5

/-- `WOL_MAX_DEVICES`. -/
def wolMaxDevices : Nat := 12

/-- The zero MAC. -/
def Mac.zero : Mac := ⟨0, 0, 0, 0, 0, 0⟩

/-- The all-zero entries of unused slots. -/
def PortmapRecord.blank : PortmapRecord := ⟨⟨0, false, 0, 0, 0⟩, .empty⟩
def DhcpReservationRecord.blank : DhcpReservationRecord := ⟨⟨Mac.zero, 0, false⟩, .empty⟩
def MacDenyEntry.blank : MacDenyEntry := ⟨Mac.zero, false, .empty⟩
def WifiNetwork.blank : WifiNetwork :=
  ⟨.empty, .empty, .empty, .empty, .empty, .empty, false, 0, 0, 0, .empty, .empty, .empty⟩
def WolDevice.blank : WolDevice := ⟨.empty, Mac.zero, false, .empty, 0⟩

/-- The check for a null pointer, and the clamp of the count. A negative count asks for no entry. -/
def arrayRequest {α : Type} (arr : Option (List α)) (count : Int) (size : Nat) :
    Except EspErr (List α) :=
  match arr with
  | none => .error espErrInvalidArg
  | some arr => .ok (arrayEntries arr count size)

theorem length_arrayRequest {α : Type} {arr : Option (List α)} {count : Int} {size : Nat}
    {entries : List α} (h : arrayRequest arr count size = .ok entries) :
    entries.length ≤ size := by
  cases arr with
  | none => cases h
  | some arr =>
    obtain rfl := Except.ok.inj h
    rw [arrayEntries, List.length_take]
    omega

/-- The checks of `portmap_set_all` against the rules and the port of the Web UI. They come before
    the table is touched. -/
def portmapRequest (rules : List Slot) (webUiConfiguredPort : Nat)
    (arr : Option (List PortmapRecord)) (count : Int) : Except EspErr (List PortmapRecord) :=
  match arrayRequest arr count portmapMax with
  | .error err => .error err
  | .ok arr =>
    if portmapConflict rules webUiConfiguredPort [] (arr.map PortmapRecord.toPortmapEntry) then
      .error espErrInvalidState
    else .ok arr

/-- The check of `wol_set_all`: a null pointer will do for an empty array. -/
def wolRequest (devices : Option (List WolDevice)) (count : Int) :
    Except EspErr (List WolDevice) :=
  if devices = none ∧ 0 < count then .error espErrInvalidArg
  else .ok (arrayEntries (devices.getD []) count wolMaxDevices)

/-- `valid = 1`, and the default port. -/
def WolDevice.mark (d : WolDevice) : WolDevice :=
  { d with valid := true, port := if d.port = 0 then 9 else d.port }

/-- What is kept of an array, and what is set in it. -/
def PortmapRecord.keep (e : PortmapRecord) : Bool := e.isFilled
def PortmapRecord.mark (e : PortmapRecord) : PortmapRecord := { e with valid := true }
def DhcpReservationRecord.keep (e : DhcpReservationRecord) : Bool := !macIsZero e.mac
def DhcpReservationRecord.mark (e : DhcpReservationRecord) : DhcpReservationRecord :=
  { e with valid := true }
def MacDenyEntry.keep (e : MacDenyEntry) : Bool := !macIsZero e.mac
def MacDenyEntry.mark (e : MacDenyEntry) : MacDenyEntry := { e with valid := true }
def WifiNetwork.keep (n : WifiNetwork) : Bool := !n.ssid.text.isEmpty
def WifiNetwork.mark (n : WifiNetwork) : WifiNetwork := { n with valid := true }
def WolDevice.keep (d : WolDevice) : Bool := !macIsZero d.mac

/-- `portmap_set_all`. It is the only one of these with a check of the entries against other
    modules. -/
def portmapSetAll (rules : List Slot) (webUiConfiguredPort : Nat)
    (s : SavedTable PortmapRecord portmapMax) (arr : Option (List PortmapRecord)) (count : Int)
    (r : NvsCalls) : EspErr × SavedTable PortmapRecord portmapMax :=
  s.setAll PortmapRecord.blank PortmapRecord.keep PortmapRecord.mark
    (portmapRequest rules webUiConfiguredPort arr count) r

/-- `dhcp_reservations_set_all`. Entries without a MAC address are left out. -/
def dhcpReservationsSetAll (s : SavedTable DhcpReservationRecord dhcpReservationsMax)
    (arr : Option (List DhcpReservationRecord)) (count : Int) (r : NvsCalls) :
    EspErr × SavedTable DhcpReservationRecord dhcpReservationsMax :=
  s.setAll DhcpReservationRecord.blank DhcpReservationRecord.keep DhcpReservationRecord.mark
    (arrayRequest arr count dhcpReservationsMax) r

/-- `mac_deny_set_all`. -/
def macDenySetAll (s : SavedTable MacDenyEntry macDenyMax) (arr : Option (List MacDenyEntry))
    (count : Int) (r : NvsCalls) : EspErr × SavedTable MacDenyEntry macDenyMax :=
  s.setAll MacDenyEntry.blank MacDenyEntry.keep MacDenyEntry.mark
    (arrayRequest arr count macDenyMax) r

/-- `wifi_networks_set_all`. Networks without a name are left out. -/
def wifiNetworksSetAll (s : SavedTable WifiNetwork wifiNetworksMax)
    (arr : Option (List WifiNetwork)) (count : Int) (r : NvsCalls) :
    EspErr × SavedTable WifiNetwork wifiNetworksMax :=
  s.setAll WifiNetwork.blank WifiNetwork.keep WifiNetwork.mark
    (arrayRequest arr count wifiNetworksMax) r

/-- `wol_set_all`. It counts as loaded also where NVS could not be opened. -/
def wolSetAll (s : SavedTable WolDevice wolMaxDevices) (devices : Option (List WolDevice))
    (count : Int) (r : NvsCalls) : EspErr × SavedTable WolDevice wolMaxDevices :=
  match wolRequest devices count with
  | .error err => (err, s)
  | .ok devices =>
    let result := s.replace WolDevice.blank WolDevice.keep WolDevice.mark devices r
    -- `s_loaded` is set on every path from here
    (result.1, { result.2 with loaded := true })

theorem length_portmapRequest {rules : List Slot} {port : Nat} {arr : Option (List PortmapRecord)}
    {count : Int} {entries : List PortmapRecord}
    (h : portmapRequest rules port arr count = .ok entries) : entries.length ≤ portmapMax := by
  unfold portmapRequest at h
  cases hreq : arrayRequest arr count portmapMax with
  | error err => simp [hreq] at h
  | ok arr =>
    simp only [hreq] at h
    split_ifs at h with hconflict
    exact Except.ok.inj h ▸ length_arrayRequest hreq

theorem length_wolRequest {devices : Option (List WolDevice)} {count : Int}
    {entries : List WolDevice} (h : wolRequest devices count = .ok entries) :
    entries.length ≤ wolMaxDevices := by
  unfold wolRequest at h
  split_ifs at h
  obtain rfl := Except.ok.inj h
  rw [arrayEntries, List.length_take]
  omega

/-- `wol_set_all` replaces its table as the others do. -/
theorem wolSetAll_eq (s : SavedTable WolDevice wolMaxDevices) (devices : Option (List WolDevice))
    (count : Int) (r : NvsCalls) :
    let result := s.setAll WolDevice.blank WolDevice.keep WolDevice.mark
      (wolRequest devices count) r
    (wolSetAll s devices count r).1 = result.1 ∧
      (wolSetAll s devices count r).2.ram = result.2.ram ∧
      (wolSetAll s devices count r).2.blob = result.2.blob := by
  unfold wolSetAll SavedTable.setAll
  cases wolRequest devices count <;> exact ⟨rfl, rfl, rfl⟩

/-- **Table saves that fail.** When one of the five calls returns an error, its table and count
    in RAM are what they were before exactly if the request was refused before the table was
    cleared, or the table already held what is kept of the array. -/
theorem tableSaves_unchanged_iff (count : Int) (r : NvsCalls) :
    (∀ (rules : List Slot) (webUiConfiguredPort : Nat) (s : SavedTable PortmapRecord portmapMax)
        (arr : Option (List PortmapRecord)),
      s.Unchanged (portmapSetAll rules webUiConfiguredPort s arr count r) ↔
        s.Keeps PortmapRecord.blank PortmapRecord.keep PortmapRecord.mark
          (portmapRequest rules webUiConfiguredPort arr count) r) ∧
    (∀ (s : SavedTable DhcpReservationRecord dhcpReservationsMax)
        (arr : Option (List DhcpReservationRecord)),
      s.Unchanged (dhcpReservationsSetAll s arr count r) ↔
        s.Keeps DhcpReservationRecord.blank DhcpReservationRecord.keep DhcpReservationRecord.mark
          (arrayRequest arr count dhcpReservationsMax) r) ∧
    (∀ (s : SavedTable MacDenyEntry macDenyMax) (arr : Option (List MacDenyEntry)),
      s.Unchanged (macDenySetAll s arr count r) ↔
        s.Keeps MacDenyEntry.blank MacDenyEntry.keep MacDenyEntry.mark
          (arrayRequest arr count macDenyMax) r) ∧
    (∀ (s : SavedTable WifiNetwork wifiNetworksMax) (arr : Option (List WifiNetwork)),
      s.Unchanged (wifiNetworksSetAll s arr count r) ↔
        s.Keeps WifiNetwork.blank WifiNetwork.keep WifiNetwork.mark
          (arrayRequest arr count wifiNetworksMax) r) ∧
    (∀ (s : SavedTable WolDevice wolMaxDevices) (devices : Option (List WolDevice)),
      s.Unchanged (wolSetAll s devices count r) ↔
        s.Keeps WolDevice.blank WolDevice.keep WolDevice.mark (wolRequest devices count) r) := by
  -- Four of the calls are `SavedTable.setAll` as they stand; Wake-on-LAN is it up to its copy.
  refine ⟨?_, ?_, ?_, ?_, ?_⟩
  · intro rules port s arr
    exact SavedTable.setAll_unchanged_iff fun _ => length_portmapRequest
  · intro s arr
    exact SavedTable.setAll_unchanged_iff fun _ => length_arrayRequest
  · intro s arr
    exact SavedTable.setAll_unchanged_iff fun _ => length_arrayRequest
  · intro s arr
    exact SavedTable.setAll_unchanged_iff fun _ => length_arrayRequest
  · intro s devices
    obtain ⟨herr, hram, -⟩ := wolSetAll_eq s devices count r
    rw [← SavedTable.setAll_unchanged_iff fun _ => length_wolRequest, SavedTable.Unchanged,
      SavedTable.Unchanged, herr, hram]

/-! ### The next boot -/

/-- `portmap_init`. -/
def portmapInit : Option { l : List PortmapRecord // l.length = portmapMax } →
    CountedTable PortmapRecord portmapMax :=
  SavedTable.boot PortmapRecord.blank (·.valid) id

/-- `dhcp_reservations_init`. -/
def dhcpReservationsInit :
    Option { l : List DhcpReservationRecord // l.length = dhcpReservationsMax } →
      CountedTable DhcpReservationRecord dhcpReservationsMax :=
  SavedTable.boot DhcpReservationRecord.blank (·.valid) id

/-- `mac_deny_init`. -/
def macDenyInit : Option { l : List MacDenyEntry // l.length = macDenyMax } →
    CountedTable MacDenyEntry macDenyMax :=
  SavedTable.boot MacDenyEntry.blank (·.valid) id

/-- `wifi_networks_init` on a blob of the current layout. -/
def wifiNetworksInit : Option { l : List WifiNetwork // l.length = wifiNetworksMax } →
    CountedTable WifiNetwork wifiNetworksMax :=
  SavedTable.boot WifiNetwork.blank (fun n => n.valid && !n.ssid.text.isEmpty) id

/-- `wol_init`. -/
def wolInit : Option { l : List WolDevice // l.length = wolMaxDevices } →
    CountedTable WolDevice wolMaxDevices :=
  SavedTable.boot WolDevice.blank (·.valid)
    fun d => if d.valid ∧ d.port = 0 then { d with port := 9 } else d

/-- A device that has been marked has its port. -/
theorem WolDevice.mark_port_ne (d : WolDevice) : d.mark.port ≠ 0 := by
  unfold WolDevice.mark
  by_cases hport : d.port = 0 <;> simp [hport]

/-- **The next boot.** Where a table is what its module would load, a call leaves it so exactly
    if an error leaves it as it was. -/
theorem tableSaves_agree_iff :
    (∀ (rules : List Slot) (webUiConfiguredPort : Nat) (s : SavedTable PortmapRecord portmapMax)
        (arr : Option (List PortmapRecord)) (count : Int) (r : NvsCalls),
      s.ram = portmapInit s.blob →
      let result := portmapSetAll rules webUiConfiguredPort s arr count r
      (result.2.ram = portmapInit result.2.blob ↔ s.Unchanged result)) ∧
    (∀ (s : SavedTable DhcpReservationRecord dhcpReservationsMax)
        (arr : Option (List DhcpReservationRecord)) (count : Int) (r : NvsCalls),
      s.ram = dhcpReservationsInit s.blob →
      let result := dhcpReservationsSetAll s arr count r
      (result.2.ram = dhcpReservationsInit result.2.blob ↔ s.Unchanged result)) ∧
    (∀ (s : SavedTable MacDenyEntry macDenyMax) (arr : Option (List MacDenyEntry)) (count : Int)
        (r : NvsCalls),
      s.ram = macDenyInit s.blob →
      let result := macDenySetAll s arr count r
      (result.2.ram = macDenyInit result.2.blob ↔ s.Unchanged result)) ∧
    (∀ (s : SavedTable WifiNetwork wifiNetworksMax) (arr : Option (List WifiNetwork)) (count : Int)
        (r : NvsCalls),
      s.ram = wifiNetworksInit s.blob →
      let result := wifiNetworksSetAll s arr count r
      (result.2.ram = wifiNetworksInit result.2.blob ↔ s.Unchanged result)) ∧
    (∀ (s : SavedTable WolDevice wolMaxDevices) (devices : Option (List WolDevice)) (count : Int)
        (r : NvsCalls),
      s.ram = wolInit s.blob →
      let result := wolSetAll s devices count r
      (result.2.ram = wolInit result.2.blob ↔ s.Unchanged result)) := by
  refine ⟨?_, ?_, ?_, ?_, ?_⟩
  · intro rules port s arr count r hbefore
    exact SavedTable.setAll_agrees_iff ⟨rfl, rfl⟩ (fun _ _ => ⟨rfl, rfl⟩)
      (fun _ => length_portmapRequest) hbefore
  · intro s arr count r hbefore
    exact SavedTable.setAll_agrees_iff ⟨rfl, rfl⟩ (fun _ _ => ⟨rfl, rfl⟩)
      (fun _ => length_arrayRequest) hbefore
  · intro s arr count r hbefore
    exact SavedTable.setAll_agrees_iff ⟨rfl, rfl⟩ (fun _ _ => ⟨rfl, rfl⟩)
      (fun _ => length_arrayRequest) hbefore
  · intro s arr count r hbefore
    refine SavedTable.setAll_agrees_iff ⟨rfl, rfl⟩ (fun n hkeep => ⟨?_, rfl⟩)
      (fun _ => length_arrayRequest) hbefore
    -- the save marks it valid, so its name decides
    show (true && !n.ssid.text.isEmpty) = true
    exact hkeep
  · intro s devices count r hbefore
    obtain ⟨herr, hram, hblob⟩ := wolSetAll_eq s devices count r
    show (wolSetAll s devices count r).2.ram = wolInit (wolSetAll s devices count r).2.blob ↔ _
    rw [SavedTable.Unchanged, herr, hram, hblob]
    refine SavedTable.setAll_agrees_iff ⟨rfl, rfl⟩ (fun d _ => ⟨rfl, ?_⟩)
      (fun _ => length_wolRequest) hbefore
    exact if_neg fun hport => d.mark_port_ne hport.2

/-! ### A failed save that clears the denylist -/

/-- One station is denied. -/
def deniedStation : MacDenyEntry := ⟨⟨2, 0, 0, 0, 0, 1⟩, true, .empty⟩

/-- The denylist with this station, as it was saved. -/
def savedDenylist : SavedTable MacDenyEntry macDenyMax :=
  ((⟨clear macDenyMax MacDenyEntry.blank, true, none⟩ : SavedTable MacDenyEntry macDenyMax).replace
    MacDenyEntry.blank MacDenyEntry.keep MacDenyEntry.mark [deniedStation] .succeed).2

/-- The list is emptied, and the write fails: the station is let in until the next boot. -/
theorem failed_save_empties_denylist :
    ¬ ∀ (s : SavedTable MacDenyEntry macDenyMax) (arr : Option (List MacDenyEntry)) (count : Int)
      (r : NvsCalls), (macDenySetAll s arr count r).1 ≠ espOk →
        (macDenySetAll s arr count r).2.ram = s.ram := by
  intro h
  have hram := congrArg CountedTable.count
    (h savedDenylist (some []) 0 ⟨espOk, 0x1105, espOk⟩ (by decide))
  revert hram
  decide

end SubnetRouter.Settings
