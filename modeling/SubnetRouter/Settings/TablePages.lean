import SubnetRouter.Lib.Scan
import SubnetRouter.Lib.SlotFill
import SubnetRouter.Net.Dotted
import SubnetRouter.Settings.Json
import SubnetRouter.Settings.Tables
import SubnetRouter.Web.Auth

namespace SubnetRouter.Settings

open Lib CountedTable
open SubnetRouter.Dhcp (dhcpReservationsMax macIsZero)
open SubnetRouter.TailnetForward (Slot portmapConflict portmapMax)

/-!
# The pages of the tables (`main/web_ui.c`)

A page reads a table as a JSON array and posts the array back, changed or not.  Three of the
handlers leave out an entry that is not in order, and decode the next one into the slot that it has
begun to fill; the handler of the Wake-on-LAN targets refuses the whole request.

* `dhcpReservationsHandler`, `macDenyHandler`, `portmapHandler`, `wolHandler` — what a page reads.
* `dhcpReservationsSaveHandler`, `macDenySaveHandler`, `portmapSaveHandler`, `wolSaveHandler`.
* `left_out_entries_leave_nothing` — the slots hold what each entry by itself decodes to.
-/

/-! ### Addresses -/

/-- The first bytes of an address are written. -/
def writeMac (out : Mac) (bytes : List UInt8) : Mac :=
  ⟨bytes.getD 0 out.b0, bytes.getD 1 out.b1, bytes.getD 2 out.b2, bytes.getD 3 out.b3,
    bytes.getD 4 out.b4, bytes.getD 5 out.b5⟩

/-- The six numbers of an address, with colons or with hyphens between them. -/
def scanMac (width : Option Nat) (text : List Char) : Option (List Nat × List Char) :=
  match scanFields width ':' 6 text with
  | some r => some r
  | none => scanFields width '-' 6 text

/-- `parse_mac_str`; the bytes in front of one that is too great are written. -/
def parseMacStr (text : List Char) (out : Mac) : Mac × Bool :=
  match scanMac none text with
  | none => (out, false)
  | some (v, _) => (writeMac out ((v.takeWhile (· ≤ 255)).map UInt8.ofNat), v.all (· ≤ 255))

/-- `wol_parse_mac`; blanks may stand behind the address. Each of the six numbers has two digits at
    most. -/
def wolParseMac (text : List Char) : Option Mac :=
  match scanMac (some 2) text with
  | none => none
  | some (v, rest) =>
    if rest.all (fun c => c == ' ' || c == '\t') then
      some (writeMac Mac.zero (v.map UInt8.ofNat))
    else none

/-- The text of an address. -/
def wolFormatMac (mac : Mac) : List Char := pairs ':' mac.bytes

/-! ### Requests -/

/-- A request, with what it meets: the session, the allocation of the buffer, the body and what
    `cJSON_Parse` makes of it, and the calls of the save. -/
structure TableRequest where
  authenticated : Bool
  bufferAllocated : Bool
  contentLen : Int
  body : Web.Recv (Option Json)
  nvs : NvsCalls

/-- What is answered: a refusal, or the outcome of a save, with the key and the error if it was
    not written. -/
inductive TableReply
  | refused (response : Web.Response)
  | saved (error : Option (String × EspErr))

/-- `nvs_save_record_err`, for one write. -/
def recordErr (key : String) (err : EspErr) : Option (String × EspErr) :=
  if err = espOk then none else some (key, err)

/-- The body of a request, as it was parsed. The handlers have these checks in common, each with a
    buffer of its own size. -/
def requestRoot (bufSize : Nat) (r : TableRequest) : Except Web.Response Json :=
  if !r.authenticated then .error .authRequired
  else if !r.bufferAllocated then .error .serverError
  else
    match Web.recvBody bufSize r.contentLen r.body with
    | .error response => .error response
    | .ok none => .error (.badRequest "invalid JSON")
    | .ok (some root) => .ok root

/-- The array of a request, in the member `key`. Without it the answer is the text `missing`. -/
def requestArray (bufSize : Nat) (key missing : String) (r : TableRequest) :
    Except Web.Response (List Json) :=
  match requestRoot bufSize r with
  | .error response => .error response
  | .ok root =>
    match Json.asArray (root.getObjectItem key) with
    | none => .error (.badRequest missing)
    | some items => .ok items

/-- A table of which nothing has been saved. -/
def SavedTable.new {α : Type} (size : Nat) (blank : α) : SavedTable α size :=
  ⟨clear size blank, true, none⟩

/-- A page: the array, and how many entries the table holds. -/
def tablePage (key : String) (items : List Json) (max : Int32) : Json :=
  .object [(key, .array items), ("max", .number max max)]

/-! ### Reservations -/

/-- The valid entries of a table, as `*_get` finds them. -/
def validEntries {α : Type} {size : Nat} (valid : α → Bool) (t : CountedTable α size) : List α :=
  t.slots.filter valid

/-- `dhcp_reservations_handler`, an entry. -/
def reservationItem (r : DhcpReservationRecord) : Json :=
  .object [("mac", .string (wolFormatMac r.mac)), ("ip", .string (dotted r.ip)),
    ("name", .string r.name.text)]

/-- `dhcp_reservations_handler`. -/
def dhcpReservationsHandler (t : CountedTable DhcpReservationRecord dhcpReservationsMax) : Json :=
  tablePage "reservations" ((validEntries (·.valid) t).map reservationItem) 16

variable (aton : List Char → Option Ip4)

/-- The name of an entry, if it has one, into the slot. -/
def nameItem (e : Json) (name : CString 31) : CString 31 :=
  match e.stringItem "name" with
  | some text => .strlcpy 31 text
  | none => name

/-- An entry of `dhcp_reservations_save_handler`, into the slot `r`. An entry that is left out may
    have written its MAC address there. -/
def reservationStep (e : Json) (r : DhcpReservationRecord) : DhcpReservationRecord × Bool :=
  match e.stringItem "mac", e.stringItem "ip" with
  | some mac, some ip =>
    match parseMacStr (CString.visible mac) r.mac with
    | (mac, false) => ({ r with mac }, false)
    | (mac, true) =>
      match aton (CString.visible ip) with
      | none => ({ r with mac }, false)
      | some a =>
        if a = 0 then ({ r with mac }, false)
        else ({ mac, ip := a, valid := true, name := nameItem e r.name }, true)
  | _, _ => (r, false)

/-- `dhcp_reservations_save_handler`. The entries that count are put one behind the other, and
    handed over as one array. -/
def dhcpReservationsSaveHandler (s : SavedTable DhcpReservationRecord dhcpReservationsMax)
    (r : TableRequest) : TableReply × SavedTable DhcpReservationRecord dhcpReservationsMax :=
  match requestArray 4096 "reservations" "missing reservations[]" r with
  | .error response => (.refused response, s)
  | .ok items =>
    let out := fillSlots dhcpReservationsMax .blank (reservationStep aton) items [] .blank
    let (err, s) := dhcpReservationsSetAll s (some out) out.length r.nvs
    (.saved (recordErr "dhcp_res" err), s)

/-! ### The denylist -/

/-- `mac_deny_handler`, an entry. -/
def macDenyItem (e : MacDenyEntry) : Json :=
  .object [("mac", .string (wolFormatMac e.mac)), ("name", .string e.name.text)]

/-- `mac_deny_handler`. -/
def macDenyHandler (t : CountedTable MacDenyEntry macDenyMax) : Json :=
  tablePage "denylist" ((validEntries (·.valid) t).map macDenyItem) 16

/-- An entry of `mac_deny_save_handler`, into the slot `r`. An entry that is left out may have
    written a part of its MAC address there. -/
def macDenyStep (e : Json) (r : MacDenyEntry) : MacDenyEntry × Bool :=
  match e.stringItem "mac" with
  | none => (r, false)
  | some mac =>
    match parseMacStr (CString.visible mac) r.mac with
    | (mac, false) => ({ r with mac }, false)
    | (mac, true) => ({ mac, valid := true, name := nameItem e r.name }, true)

/-- `mac_deny_save_handler`, as to the table. That denied clients are disconnected is left out. -/
def macDenySaveHandler (s : SavedTable MacDenyEntry macDenyMax) (r : TableRequest) :
    TableReply × SavedTable MacDenyEntry macDenyMax :=
  match requestArray 2048 "denylist" "missing denylist[]" r with
  | .error response => (.refused response, s)
  | .ok items =>
    let out := fillSlots macDenyMax .blank macDenyStep items [] .blank
    let (err, s) := macDenySetAll s (some out) out.length r.nvs
    (.saved (recordErr "mac_deny" err), s)

/-! ### Port mappings -/

/-- `portmap_proto_str`. -/
def portmapProtoStr (proto : UInt8) : String :=
  if proto = 6 then "tcp" else if proto = 17 then "udp" else "?"

/-- `portmap_proto_from_str`. -/
def portmapProtoFromStr (text : List Char) : UInt8 :=
  if (CString.visible text).map Char.toLower = "tcp".toList then 6
  else if (CString.visible text).map Char.toLower = "udp".toList then 17
  else 0

/-- `portmap_handler`, an entry. Ports are written as numbers, and the address as a text. -/
def portmapItem (e : PortmapRecord) : Json :=
  .object [("proto", .string (portmapProtoStr e.proto).toList),
    ("ext_port", .number (Int32.ofNat e.extPort) (Int32.ofNat e.extPort)),
    ("int_ip", .string (dotted e.intIp)),
    ("int_port", .number (Int32.ofNat e.intPort) (Int32.ofNat e.intPort)),
    ("name", .string e.name.text)]

/-- `portmap_handler`. -/
def portmapHandler (t : CountedTable PortmapRecord portmapMax) : Json :=
  tablePage "mappings" ((validEntries (·.valid) t).map portmapItem) 16

/-- A number that is no port. -/
def badPort (v : Int32) : Bool := v ≤ 0 || 65535 < v

/-- An entry of `portmap_save_handler`, into the slot `r`. The four members are read first, and one
    that is missing leaves the slot as it was. -/
def portmapStep (e : Json) (r : PortmapRecord) : PortmapRecord × Bool :=
  match e.stringItem "proto", Json.asInt32 (e.getObjectItem "ext_port"), e.stringItem "int_ip",
      Json.asInt32 (e.getObjectItem "int_port") with
  | some proto, some ep, some intIp, some ip =>
    let r := { r with proto := portmapProtoFromStr proto }
    if r.proto = 0 then (r, false)
    else if badPort ep || badPort ip then (r, false)
    else
      let r := { r with extPort := ep.toInt.toNat, intPort := ip.toInt.toNat }
      match aton (CString.visible intIp) with
      | none => (r, false)
      | some a =>
        if a = 0 then (r, false)
        else ({ r with intIp := a, name := nameItem e r.name, valid := true }, true)
  | _, _, _, _ => (r, false)

/-- `portmap_save_handler`. The module may still refuse the array, for a conflict with the rules or
    the port of the Web UI. -/
def portmapSaveHandler (rules : List Slot) (webUiConfiguredPort : Nat)
    (s : SavedTable PortmapRecord portmapMax) (r : TableRequest) :
    TableReply × SavedTable PortmapRecord portmapMax :=
  match requestArray 4096 "mappings" "missing mappings[]" r with
  | .error response => (.refused response, s)
  | .ok items =>
    let out := fillSlots portmapMax .blank (portmapStep aton) items [] .blank
    let (err, s) := portmapSetAll rules webUiConfiguredPort s (some out) out.length r.nvs
    (.saved (recordErr "portmap" err), s)

/-! ### Wake-on-LAN targets -/

/-- `wol_handler`, an entry. -/
def wolItem (d : WolDevice) : Json :=
  let port := Int32.ofNat (if d.port = 0 then 9 else d.port.toNat)
  .object [("name", .string d.name.text), ("mac", .string (wolFormatMac d.mac)),
    ("broadcast", .string d.broadcast.text), ("port", .number port port)]

/-- `wol_handler`; `wol_get` counts the valid entries. -/
def wolHandler (t : CountedTable WolDevice wolMaxDevices) : Json :=
  .object [("max", .number 12 12),
    ("devices", .array (((validEntries (·.valid) t).take t.count).map wolItem))]

/-- An entry of `wol_save_handler`. Here an entry that is not in order has the whole request
    refused. -/
def wolDevice (entry : Json) : Except String WolDevice :=
  match (entry.stringItem "mac").bind fun mac => wolParseMac (CString.visible mac) with
  | none => .error "invalid WOL MAC address"
  | some mac =>
    let d := { WolDevice.blank with mac }
    let d := match entry.stringItem "name" with
      | some name => { d with name := .strlcpy 31 name }
      | none => d
    let broadcast := ((entry.stringItem "broadcast").map CString.visible).getD []
    if broadcast ≠ [] ∧ aton broadcast = none then .error "invalid broadcast address"
    else
      let d := { d with broadcast := .strlcpy 15 broadcast }
      let port := (Json.asValueint (entry.getObjectItem "port")).getD 9
      if badPort port then .error "invalid WOL UDP port"
      else .ok { d with port := UInt16.ofNat port.toInt.toNat, valid := true }

/-- The entries, up to the first that is not in order. The text of its error is the answer. -/
def wolDevices : List Json → Except String (List WolDevice)
  | [] => .ok []
  | entry :: items =>
    match wolDevice aton entry with
    | .error text => .error text
    | .ok d =>
      match wolDevices items with
      | .error text => .error text
      | .ok devices => .ok (d :: devices)

/-- `wol_save_handler`; an error of the save is a response of its own there. Too many entries are
    refused, where the other pages cut the list. -/
def wolSaveHandler (s : SavedTable WolDevice wolMaxDevices) (r : TableRequest) :
    TableReply × SavedTable WolDevice wolMaxDevices :=
  match requestArray 4096 "devices" "missing devices[]" r with
  | .error response => (.refused response, s)
  | .ok items =>
    if wolMaxDevices < items.length then (.refused (.badRequest "too many WOL devices"), s)
    else
      match wolDevices aton items with
      | .error text => (.refused (.badRequest text), s)
      | .ok devices =>
        let (err, s) := wolSetAll s (some devices) devices.length r.nvs
        (.saved (recordErr "wol_devices" err), s)

/-! ### Entries that are left out -/

variable {aton} {mac out out' : Mac} {text : List Char}

theorem length_of_scanMac {width : Option Nat} {v : List Nat} {rest : List Char}
    (h : scanMac width text = some (v, rest)) : v.length = 6 := by
  unfold scanMac at h
  split at h
  · rename_i r hfields
    rw [Option.some.inj h] at hfields
    exact length_of_scanFields hfields
  · exact length_of_scanFields h

/-- Six bytes are a whole address. -/
theorem writeMac_of_length {bytes : List UInt8} (h : bytes.length = 6) :
    writeMac out bytes = writeMac out' bytes := by
  obtain ⟨a, b, c, d, e, f, rfl⟩ : ∃ a b c d e f, bytes = [a, b, c, d, e, f] := by
    match bytes, h with
    | [a, b, c, d, e, f], _ => exact ⟨a, b, c, d, e, f, rfl⟩
  rfl

/-- What a slot held makes no difference to an address that is in order. -/
theorem parseMacStr_cases (text : List Char) (out out' : Mac) :
    (∃ mac, parseMacStr text out = (mac, true) ∧ parseMacStr text out' = (mac, true)) ∨
      ∃ mac mac', parseMacStr text out = (mac, false) ∧ parseMacStr text out' = (mac', false) := by
  unfold parseMacStr
  cases hscan : scanMac none text with
  | none => exact .inr ⟨out, out', rfl, rfl⟩
  | some r =>
    obtain ⟨v, rest⟩ := r
    dsimp only
    by_cases hall : v.all (· ≤ 255) = true
    · have hwhole : v.takeWhile (· ≤ 255) = v := by
        rw [List.takeWhile_eq_self_iff]
        exact List.all_eq_true.mp hall
      refine .inl ⟨_, Prod.ext rfl hall, Prod.ext ?_ hall⟩
      rw [hwhole]
      exact writeMac_of_length (by rw [List.length_map, length_of_scanMac hscan])
    · rw [Bool.eq_false_iff.mpr hall]
      exact .inr ⟨_, _, rfl, rfl⟩

/-- A slot with no name, which does not count, makes no difference to a reservation. An entry that
    is left out may leave its MAC address there, which the next one writes over. -/
theorem takesClean_reservation :
    TakesClean .blank (reservationStep aton) fun r => r.name = .empty ∧ r.valid = false where
  start := ⟨rfl, rfl⟩
  takes := by
    rintro e ⟨⟨mac, ip, valid⟩, name⟩ ⟨hname, hvalid⟩
    obtain rfl : name = .empty := hname
    obtain rfl : valid = false := hvalid
    unfold reservationStep
    -- An item without the two texts, with a bad address, or with the address zero is skipped.
    split
    · rename_i macText ipText _ _
      obtain ⟨m, hslot, hblank⟩ | ⟨m, m', hslot, hblank⟩ :=
        parseMacStr_cases (CString.visible macText) mac DhcpReservationRecord.blank.mac
      · dsimp only
        rw [hslot, hblank]
        dsimp only
        cases aton (CString.visible ipText) with
        | none => exact .inr ⟨_, _, rfl, rfl, rfl, rfl⟩
        | some a =>
          by_cases ha : a = 0
          · subst ha
            exact .inr ⟨_, _, rfl, rfl, rfl, rfl⟩
          · simp only [if_neg ha]
            exact .inl ⟨_, rfl, rfl⟩
      · dsimp only
        rw [hslot, hblank]
        exact .inr ⟨_, _, rfl, rfl, rfl, rfl⟩
    · exact .inr ⟨_, _, rfl, rfl, rfl, rfl⟩

theorem takesClean_macDeny :
    TakesClean .blank macDenyStep fun r => r.name = .empty ∧ r.valid = false where
  start := ⟨rfl, rfl⟩
  takes := by
    rintro e ⟨mac, valid, name⟩ ⟨hname, hvalid⟩
    obtain rfl : name = .empty := hname
    obtain rfl : valid = false := hvalid
    unfold macDenyStep
    split
    · exact .inr ⟨_, _, rfl, rfl, rfl, rfl⟩
    · rename_i macText _
      obtain ⟨m, hslot, hblank⟩ | ⟨m, m', hslot, hblank⟩ :=
        parseMacStr_cases (CString.visible macText) mac MacDenyEntry.blank.mac
      · dsimp only
        rw [hslot, hblank]
        exact .inl ⟨_, rfl, rfl⟩
      · dsimp only
        rw [hslot, hblank]
        exact .inr ⟨_, _, rfl, rfl, rfl, rfl⟩

theorem takesClean_portmap :
    TakesClean .blank (portmapStep aton) fun r => r.name = .empty ∧ r.valid = false where
  start := ⟨rfl, rfl⟩
  takes := by
    -- What a skipped item leaves in the slot is overwritten before the next one counts.
    rintro e ⟨⟨proto, valid, extPort, intPort, intIp⟩, name⟩ ⟨hname, hvalid⟩
    obtain rfl : name = .empty := hname
    obtain rfl : valid = false := hvalid
    -- A proto, then a port, then the address: the tests of the source in their order.
    unfold portmapStep
    split
    · rename_i protoText ep ipText ip _ _ _ _
      dsimp only
      by_cases hproto : portmapProtoFromStr protoText = 0
      · simp only [if_pos hproto]
        exact .inr ⟨_, _, rfl, rfl, rfl, rfl⟩
      · simp only [if_neg hproto]
        by_cases hport : (badPort ep || badPort ip) = true
        · simp only [if_pos hport]
          exact .inr ⟨_, _, rfl, rfl, rfl, rfl⟩
        · simp only [if_neg hport]
          cases aton (CString.visible ipText) with
          | none => exact .inr ⟨_, _, rfl, rfl, rfl, rfl⟩
          | some a =>
            by_cases ha : a = 0
            · subst ha
              exact .inr ⟨_, _, rfl, rfl, rfl, rfl⟩
            · simp only [if_neg ha]
              exact .inl ⟨_, rfl, rfl⟩
    · exact .inr ⟨_, _, rfl, rfl, rfl, rfl⟩

/-- An array that fits is handed on as it is. -/
theorem arrayRequest_of_length {α : Type} {arr : List α} {size : Nat} (h : arr.length ≤ size) :
    arrayRequest (some arr) arr.length size = .ok arr := by
  show Except.ok (arr.take (min (arr.length : Int).toNat size)) = _
  rw [Int.toNat_natCast, Nat.min_eq_left h, List.take_length]

/-- A table that is replaced holds what is kept of the array. -/
theorem filled_replace {α : Type} {size : Nat} {blank : α} {keep : α → Bool} {mark : α → α}
    {arr : List α} (s : SavedTable α size) (r : NvsCalls) (h : arr.length ≤ size) :
    (s.replace blank keep mark arr r).2.ram.Filled blank (kept keep mark arr) := by
  rw [SavedTable.replace_ram]
  exact filled_fill h

/-- **Entries that are left out** leave nothing behind: the table holds what each entry decodes to
    in a slot of its own, as far as there is room, but for those with the zero address, and whatever
    was in it is gone.  Only port mappings can still be refused after they are decoded, for a port
    that is taken, and then the table is as it was. -/
theorem left_out_entries_leave_nothing (aton : List Char → Option Ip4) (items : List Json)
    (r : TableRequest) :
    (requestArray 4096 "reservations" "missing reservations[]" r = .ok items →
      ∀ s, (dhcpReservationsSaveHandler aton s r).2.ram.Filled .blank
        (kept DhcpReservationRecord.keep DhcpReservationRecord.mark
          ((items.filterMap (alone .blank (reservationStep aton))).take dhcpReservationsMax))) ∧
    (requestArray 2048 "denylist" "missing denylist[]" r = .ok items →
      ∀ s, (macDenySaveHandler s r).2.ram.Filled .blank
        (kept MacDenyEntry.keep MacDenyEntry.mark
          ((items.filterMap (alone .blank macDenyStep)).take macDenyMax))) ∧
    (requestArray 4096 "mappings" "missing mappings[]" r = .ok items →
      ∀ rules webUiConfiguredPort s,
        let out := (items.filterMap (alone .blank (portmapStep aton))).take portmapMax
        let result := portmapSaveHandler aton rules webUiConfiguredPort s r
        if portmapConflict rules webUiConfiguredPort [] (out.map PortmapRecord.toPortmapEntry) then
          result = (.saved (some ("portmap", espErrInvalidState)), s)
        else result.2.ram.Filled .blank (kept PortmapRecord.keep PortmapRecord.mark out)) := by
  refine ⟨?_, ?_, ?_⟩
  · intro hitems s
    simp only [dhcpReservationsSaveHandler, hitems, fillSlots_eq takesClean_reservation,
      dhcpReservationsSetAll, arrayRequest_of_length (List.length_take_le _ _)]
    exact filled_replace s r.nvs (List.length_take_le _ _)
  · intro hitems s
    simp only [macDenySaveHandler, hitems, fillSlots_eq takesClean_macDeny, macDenySetAll,
      arrayRequest_of_length (List.length_take_le _ _)]
    exact filled_replace s r.nvs (List.length_take_le _ _)
  · intro hitems rules webUiConfiguredPort s out result
    -- the mappings are checked before the old ones are cleared
    have hresult : result = (.saved (recordErr "portmap" (portmapSetAll rules webUiConfiguredPort s
        (some out) out.length r.nvs).1),
        (portmapSetAll rules webUiConfiguredPort s (some out) out.length r.nvs).2) := by
      simp only [result, out, portmapSaveHandler, hitems, fillSlots_eq takesClean_portmap]
    rw [hresult, portmapSetAll, portmapRequest, arrayRequest_of_length (List.length_take_le _ _)]
    dsimp only
    split_ifs with hconflict
    · rfl
    · exact filled_replace s r.nvs (List.length_take_le _ _)

/-- Two entries that would do for any of the tables, if the first did not have a number that is
    too great in its address, and no port. -/
def oneLeftOut : List Json :=
  [.object [("mac", .string "02:00:00:00:00:100".toList), ("ip", .string "192.168.4.6".toList),
      ("name", .string "left out".toList), ("proto", .string "tcp".toList),
      ("ext_port", .number 0 0), ("int_ip", .string "192.168.4.6".toList),
      ("int_port", .number 80 80)],
    .object [("mac", .string "02-0-0-0-0-2".toList), ("ip", .string "192.168.4.7".toList),
      ("proto", .string "UDP".toList), ("ext_port", .number 53 53),
      ("int_ip", .string "192.168.4.7".toList), ("int_port", .number 5353 5353)]]

/-- They are posted to the three pages. -/
def oneLeftOutRequest : TableRequest :=
  ⟨true, true, 600, .complete (some (.object [("reservations", .array oneLeftOut),
    ("denylist", .array oneLeftOut), ("mappings", .array oneLeftOut)])), .succeed⟩

/-- Nothing of the first is in the entry of the second. -/
theorem second_entry_alone :
    let mac : Mac := ⟨2, 0, 0, 0, 0, 2⟩
    (dhcpReservationsSaveHandler readDotted (.new _ .blank) oneLeftOutRequest).2.ram.Filled .blank
      [⟨⟨mac, 0xC0A80407#32, true⟩, .empty⟩] ∧
    (macDenySaveHandler (.new _ .blank) oneLeftOutRequest).2.ram.Filled .blank
      [⟨mac, true, .empty⟩] ∧
    (portmapSaveHandler readDotted [] 80 (.new _ .blank) oneLeftOutRequest).2.ram.Filled .blank
      [⟨⟨17, true, 53, 5353, 0xC0A80407#32⟩, .empty⟩] := by
  -- The theorem at the array whose first item is left out; what is kept of it is evaluated.
  obtain ⟨hreservations, hdenylist, hmappings⟩ :=
    left_out_entries_leave_nothing readDotted oneLeftOut oneLeftOutRequest
  refine ⟨?_, ?_, ?_⟩
  · have h := hreservations rfl (.new _ .blank)
    have hkept : kept DhcpReservationRecord.keep DhcpReservationRecord.mark
        ((oneLeftOut.filterMap (alone .blank (reservationStep readDotted))).take
          dhcpReservationsMax) = [⟨⟨⟨2, 0, 0, 0, 0, 2⟩, 0xC0A80407#32, true⟩, .empty⟩] := by
      decide +kernel
    rwa [hkept] at h
  · have h := hdenylist rfl (.new _ .blank)
    have hkept : kept MacDenyEntry.keep MacDenyEntry.mark
        ((oneLeftOut.filterMap (alone .blank macDenyStep)).take macDenyMax) =
          [⟨⟨2, 0, 0, 0, 0, 2⟩, true, .empty⟩] := by
      decide +kernel
    rwa [hkept] at h
  · have h := hmappings rfl [] 80 (.new _ .blank)
    -- No rule listens on the port that is mapped.
    rw [if_neg (by decide +kernel)] at h
    have hkept : kept PortmapRecord.keep PortmapRecord.mark
        ((oneLeftOut.filterMap (alone .blank (portmapStep readDotted))).take portmapMax) =
          [⟨⟨17, true, 53, 5353, 0xC0A80407#32⟩, .empty⟩] := by
      decide +kernel
    rwa [hkept] at h

end SubnetRouter.Settings
