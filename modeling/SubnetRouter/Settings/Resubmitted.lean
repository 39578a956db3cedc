import SubnetRouter.Lib.Run
import SubnetRouter.Settings.TablePages

namespace SubnetRouter.Settings

open Lib CountedTable
open SubnetRouter.Dhcp (dhcpReservationsMax macIsZero)
open SubnetRouter.TailnetForward (Slot portmapConflict portmapMax)

/-!
# A page that is saved as it was read (`main/web_ui.c`)

The page of a table posts all of it, also when nothing on it was changed.  The tables come from
saves and restarts, with any errors of NVS between them.

* `tableMachine` — saves and restarts; `Holds` — what every entry of the table in RAM and in NVS
  has, whatever was posted and written before.
* `pages_resubmitted` — the array that a page was given stands for the table it was read from.
-/

/-! ### Saves and restarts -/

section Holds

variable {α ρ : Type} {size : Nat}

/-- A request is answered, or the device starts again. -/
inductive TableAction (ρ : Type) where
  | save (r : ρ)
  | restart

/-- The table of a module, with the handler that saves it and what it loads when it starts. A run is
    any sequence of the two. -/
def tableMachine (save : SavedTable α size → ρ → SavedTable α size)
    (init : Option { slots : List α // slots.length = size } → CountedTable α size) :
    Machine (SavedTable α size) (TableAction ρ) where
  step
    | s, .save r => some (save s r)
    | s, .restart => some { s with ram := init s.blob, loaded := true }

/-- The slots hold entries of a kind, and blanks behind them. -/
def Holds (blank : α) (Ok : α → Prop) (slots : List α) : Prop :=
  ∃ entries, slots = entries ++ List.replicate (slots.length - entries.length) blank ∧
    ∀ e ∈ entries, Ok e

/-- So does the table in RAM, which is counted, and so does the blob. -/
structure SavedTable.HoldsOnly (blank : α) (Ok : α → Prop) (s : SavedTable α size) : Prop where
  ram : ∃ entries, s.ram.Filled blank entries ∧ ∀ e ∈ entries, Ok e
  blob : ∀ slots, s.blob = some slots → Holds blank Ok slots.1

variable {blank : α} {Ok : α → Prop} {keep : α → Bool} {mark : α → α} {inUse : α → Bool}
  {load : α → α} {s : SavedTable α size} {entries arr : List α} {r : NvsCalls}

theorem Filled.length_le {t : CountedTable α size} (h : t.Filled blank entries) :
    entries.length ≤ size := by
  have hlen := congrArg List.length h.1
  rw [t.length_slots, List.length_append, List.length_replicate] at hlen
  omega

theorem holdsOnly_new : (SavedTable.new size blank).HoldsOnly blank Ok where
  ram := ⟨[], filled_clear size blank, fun _ he => nomatch he⟩
  blob _ h := nomatch h

/-- A save keeps this, if the handler hands on entries of this kind only. -/
theorem SavedTable.HoldsOnly.replace (h : s.HoldsOnly blank Ok) (hlen : arr.length ≤ size)
    (harr : ∀ x ∈ arr, keep x = true → Ok (mark x)) :
    (s.replace blank keep mark arr r).2.HoldsOnly blank Ok := by
  -- What is filled in is what is kept of the array.
  have hfilled : ((clear size blank).fill keep mark arr).Filled blank (kept keep mark arr) :=
    filled_fill hlen
  have hkept : ∀ e ∈ kept keep mark arr, Ok e := by
    intro e he
    obtain ⟨x, hx, rfl⟩ := List.mem_map.mp he
    obtain ⟨hx, hkeep⟩ := List.mem_filter.mp hx
    exact harr x hx hkeep
  refine ⟨⟨kept keep mark arr, ?_, hkept⟩, ?_⟩
  -- RAM has it in any case, NVS only if the write succeeded.
  · rw [SavedTable.replace_ram]
    exact hfilled
  · intro slots hslots
    rw [SavedTable.replace_blob] at hslots
    split_ifs at hslots with herr
    · obtain rfl := Option.some.inj hslots
      refine ⟨kept keep mark arr, ?_, hkept⟩
      rw [CountedTable.length_slots]
      exact hfilled.1
    · exact h.blob slots hslots

/-- A restart keeps it, if such entries count when they are loaded, and are loaded as they are. -/
theorem SavedTable.HoldsOnly.restart (h : s.HoldsOnly blank Ok)
    (hblank : inUse blank = false ∧ load blank = blank)
    (hok : ∀ e, Ok e → inUse e = true ∧ load e = e) :
    ({ s with ram := SavedTable.boot blank inUse load s.blob, loaded := true } :
      SavedTable α size).HoldsOnly blank Ok := by
  refine ⟨?_, h.blob⟩
  -- What is loaded is what was stored, entry by entry.
  cases hblob : s.blob with
  | none => exact ⟨[], filled_clear size blank, fun _ he => nomatch he⟩
  | some slots =>
    obtain ⟨entries, hslots, hentries⟩ := h.blob slots hblob
    rw [slots.2] at hslots
    have hload : entries.map load = entries := by
      conv_rhs => rw [← List.map_id entries]
      exact List.map_congr_left fun e he => (hok e (hentries e he)).2
    refine ⟨entries, ⟨?_, ?_⟩, hentries⟩
    -- Behind the entries there are blank slots, which do not count.
    · show slots.1.map load = _
      rw [hslots, List.map_append, hload, List.map_replicate, hblank.2]
    · show slots.1.countP inUse = _
      rw [hslots, List.countP_append, List.countP_replicate, hblank.1, if_neg (by decide),
        Nat.add_zero, List.countP_eq_length]
      exact fun e he => (hok e (hentries e he)).1

/-- What a page reads of such a table. -/
theorem validEntries_of_filled {valid : α → Bool} {t : CountedTable α size}
    (h : t.Filled blank entries) (hblank : valid blank = false)
    (hentries : ∀ e ∈ entries, valid e = true) : validEntries valid t = entries := by
  rw [validEntries, h.1, List.filter_append, List.filter_eq_self.mpr hentries,
    List.filter_replicate_of_neg (by simp [hblank]), List.append_nil]

/-- Entries that a save keeps as they are. -/
theorem kept_eq_self (hentries : ∀ e ∈ entries, keep e = true ∧ mark e = e) :
    kept keep mark entries = entries := by
  rw [kept, List.filter_eq_self.mpr fun e he => (hentries e he).1]
  conv_rhs => rw [← List.map_id entries]
  exact List.map_congr_left fun e he => (hentries e he).2

/-- **Runs.** What saves and restarts keep holds of a table after any of them. -/
theorem tableMachine_holdsOnly {save : SavedTable α size → ρ → SavedTable α size}
    {init : Option { slots : List α // slots.length = size } → CountedTable α size}
    {as : List (TableAction ρ)} {t : SavedTable α size}
    (hsave : ∀ s r, s.HoldsOnly blank Ok → (save s r).HoldsOnly blank Ok)
    (hrestart : ∀ s : SavedTable α size, s.HoldsOnly blank Ok →
      ({ s with ram := init s.blob, loaded := true } : SavedTable α size).HoldsOnly blank Ok)
    (hrun : (tableMachine save init).run (.new size blank) as = some t) :
    t.HoldsOnly blank Ok := by
  refine Machine.invariant ?_ hrun holdsOnly_new
  rintro s (r | _) s' hstep hs
  · exact Option.some.inj hstep ▸ hsave s r hs
  · exact Option.some.inj hstep ▸ hrestart s hs

/-- The request was taken for a save, and the table is what it was. With a write that succeeds the
    same holds of NVS. -/
structure Resubmitted (key : String) (err : EspErr) (s : SavedTable α size)
    (result : TableReply × SavedTable α size) : Prop where
  reply : result.1 = .saved (recordErr key err)
  ram : result.2.ram = s.ram
  blob : err = espOk → result.2.blob = some ⟨s.ram.slots, s.ram.length_slots⟩

/-- A table that is replaced by its own entries. -/
theorem resubmitted_replace (key : String) (r : NvsCalls) (h : s.ram.Filled blank entries)
    (hentries : ∀ e ∈ entries, keep e = true ∧ mark e = e) :
    Resubmitted key r.err s (.saved (recordErr key (s.replace blank keep mark entries r).1),
      (s.replace blank keep mark entries r).2) := by
  have hsame : (clear size blank).fill keep mark entries = s.ram := by
    rw [fill_eq_iff (Filled.length_le h), kept_eq_self hentries]
    exact h
  refine ⟨by rw [SavedTable.replace_err], by rw [SavedTable.replace_ram, hsame], ?_⟩
  intro herr
  rw [SavedTable.replace_blob, if_pos herr]
  simp only [hsame]

/-- The array of a page is decoded to the entries that it was written from. -/
theorem fillSlots_items {step : Json → α → α × Bool} {item : α → Json} {Clean : α → Prop}
    (hclean : TakesClean blank step Clean) (hlen : entries.length ≤ size)
    (hitem : ∀ e ∈ entries, alone blank step (item e) = some e) :
    fillSlots size blank step (entries.map item) [] blank = entries := by
  have hread : (entries.map item).filterMap (alone blank step) = entries := by
    rw [List.filterMap_map]
    conv_rhs => rw [← List.filterMap_some (l := entries)]
    exact List.filterMap_congr hitem
  rw [fillSlots_eq hclean, hread, List.take_of_length_le hlen]

end Holds

/-! ### Addresses -/

variable {aton : List Char → Option Ip4} {mac out : Mac}

theorem scanMac_formatted {width : Option Nat} (hwidth : width = none ∨ width = some 2) :
    scanMac width (wolFormatMac mac) = some (mac.bytes.map UInt8.toNat, []) := by
  have hcolon : isHexDigit ':' = false := by decide
  have hbytes : mac.bytes ≠ [] := List.cons_ne_nil _ _
  have hscan : scanFields width ':' 6 (pairs ':' mac.bytes) =
      some (mac.bytes.map UInt8.toNat, []) := scanFields_pairs hwidth hcolon hbytes
  rw [scanMac, wolFormatMac, hscan]

theorem writeMac_bytes : writeMac out ((mac.bytes.map UInt8.toNat).map UInt8.ofNat) = mac := by
  rw [List.map_map]
  simp [writeMac, Mac.bytes]

theorem parseMacStr_formatted : parseMacStr (wolFormatMac mac) out = (mac, true) := by
  have hsmall : ∀ n ∈ mac.bytes.map UInt8.toNat, n ≤ 255 := by
    intro n hn
    obtain ⟨b, -, rfl⟩ := List.mem_map.mp hn
    have hb := b.toNat_lt
    omega
  unfold parseMacStr
  rw [scanMac_formatted (.inl rfl)]
  dsimp only
  rw [List.takeWhile_eq_self_iff.mpr (by simpa using hsmall), writeMac_bytes,
    List.all_eq_true.mpr (by simpa using hsmall)]

theorem wolParseMac_formatted : wolParseMac (wolFormatMac mac) = some mac := by
  unfold wolParseMac
  rw [scanMac_formatted (.inr rfl)]
  show some (writeMac Mac.zero ((mac.bytes.map UInt8.toNat).map UInt8.ofNat)) = some mac
  rw [writeMac_bytes]

/-- A written address has no null character. -/
theorem visible_wolFormatMac : CString.visible (wolFormatMac mac) = wolFormatMac mac := by
  refine CString.visible_eq (Ip6Cidr.not_mem_intercalate (by decide) ?_)
  intro digits hdigits hmem
  obtain ⟨b, -, rfl⟩ := List.mem_map.mp hdigits
  have hhex := isHexDigit_of_mem_hexEncode hmem
  revert hhex
  decide

theorem visible_dotted (ip : Ip4) : CString.visible (dotted ip) = dotted ip := by
  refine CString.visible_eq fun hmem => ?_
  have hdotted := isDotted_of_mem_dotted hmem
  revert hdotted
  decide

/-! ### Requests -/

/-- A request arrives in the buffer of a handler, with this body. A body that is too long for the
    buffer does not. -/
structure TableRequest.Arrives (bufSize : Nat) (page : Json) (r : TableRequest) : Prop where
  authenticated : r.authenticated = true
  bufferAllocated : r.bufferAllocated = true
  fits : 0 < r.contentLen ∧ r.contentLen < bufSize
  body : r.body = .complete (some page)

theorem requestRoot_of_arrives {bufSize : Nat} {page : Json} {r : TableRequest}
    (h : r.Arrives bufSize page) : requestRoot bufSize r = .ok page := by
  obtain ⟨hauth, hbuffer, hfits, hbody⟩ := h
  have hrecv : Web.recvBody bufSize r.contentLen r.body = .ok (some page) := by
    unfold Web.recvBody
    rw [if_neg (by omega), hbody]
  simp [requestRoot, hauth, hbuffer, hrecv]

theorem requestArray_of_arrives {bufSize : Nat} {key missing : String} {page : Json}
    {r : TableRequest} {items : List Json} (h : r.Arrives bufSize page)
    (hitems : Json.asArray (page.getObjectItem key) = some items) :
    requestArray bufSize key missing r = .ok items := by
  simp [requestArray, requestRoot_of_arrives h, hitems]

/-! ### Reservations -/

/-- An entry of the reservations. -/
structure DhcpReservationRecord.Ok (e : DhcpReservationRecord) : Prop where
  valid : e.valid = true
  mac : macIsZero e.mac = false
  ip : e.ip ≠ 0

theorem DhcpReservationRecord.Ok.kept {e : DhcpReservationRecord} (h : e.Ok) :
    e.keep = true ∧ e.mark = e := by
  refine ⟨by rw [DhcpReservationRecord.keep, h.mac]; rfl, ?_⟩
  rw [DhcpReservationRecord.mark, ← h.valid]

theorem alone_reservationItem (haton : ∀ ip, aton (dotted ip) = some ip)
    {e : DhcpReservationRecord} (h : e.Ok) :
    alone .blank (reservationStep aton) (reservationItem e) = some e := by
  have hmac : (reservationItem e).stringItem "mac" = some (wolFormatMac e.mac) := by
    simp [reservationItem, Json.stringItem, Json.getObjectItem, Json.sameName, Json.asString]
  have hip : (reservationItem e).stringItem "ip" = some (dotted e.ip) := by
    simp [reservationItem, Json.stringItem, Json.getObjectItem, Json.sameName, Json.asString]
  have hname : nameItem (reservationItem e) .empty = e.name := by
    simp [nameItem, reservationItem, Json.stringItem, Json.getObjectItem, Json.sameName,
      Json.asString]
  apply alone_of_counts
  unfold reservationStep
  simp only [hmac, hip, visible_wolFormatMac, visible_dotted, parseMacStr_formatted, haton,
    if_neg h.ip]
  show ((⟨⟨e.mac, e.ip, true⟩, nameItem (reservationItem e) .empty⟩ :
    DhcpReservationRecord), true) = (e, true)
  rw [hname, ← h.valid]

theorem reservation_ok {e : Json} {x : DhcpReservationRecord}
    (h : alone .blank (reservationStep aton) e = some x) (hkeep : x.keep = true) : x.mark.Ok := by
  have hstep := counts_of_alone h
  have hip : x.ip ≠ 0 := by
    unfold reservationStep at hstep
    split at hstep
    · split at hstep
      · cases hstep
      · split at hstep
        · cases hstep
        · split_ifs at hstep with ha
          · cases hstep
          · rw [← (Prod.mk.inj hstep).1]
            exact ha
    · cases hstep
  refine ⟨rfl, ?_, hip⟩
  rw [DhcpReservationRecord.keep, Bool.not_eq_true'] at hkeep
  exact hkeep

/-- `dhcp_reservations_save_handler` and `dhcp_reservations_init`. -/
def reservationMachine (aton : List Char → Option Ip4) :
    Machine (SavedTable DhcpReservationRecord dhcpReservationsMax) (TableAction TableRequest) :=
  tableMachine (fun s r => (dhcpReservationsSaveHandler aton s r).2) dhcpReservationsInit

theorem reservationMachine_holdsOnly {as : List (TableAction TableRequest)}
    {t : SavedTable DhcpReservationRecord dhcpReservationsMax}
    (hrun : (reservationMachine aton).run (.new _ .blank) as = some t) :
    t.HoldsOnly .blank DhcpReservationRecord.Ok := by
  refine tableMachine_holdsOnly ?_ ?_ hrun
  · intro s r hs
    unfold dhcpReservationsSaveHandler
    split
    · exact hs
    · rw [fillSlots_eq takesClean_reservation]
      simp only [dhcpReservationsSetAll, arrayRequest_of_length (List.length_take_le _ _)]
      refine hs.replace (List.length_take_le _ _) fun x hx hkeep => ?_
      obtain ⟨e, -, halone⟩ := List.mem_filterMap.mp (List.mem_of_mem_take hx)
      exact reservation_ok halone hkeep
  · intro s hs
    exact hs.restart ⟨rfl, rfl⟩ fun e he => ⟨he.valid, rfl⟩

theorem reservations_resubmitted (haton : ∀ ip, aton (dotted ip) = some ip)
    {s : SavedTable DhcpReservationRecord dhcpReservationsMax} {r : TableRequest}
    (hs : s.HoldsOnly .blank DhcpReservationRecord.Ok)
    (hr : r.Arrives 4096 (dhcpReservationsHandler s.ram)) :
    Resubmitted "dhcp_res" r.nvs.err s (dhcpReservationsSaveHandler aton s r) := by
  obtain ⟨entries, hfilled, hok⟩ := hs.ram
  have hvalid : validEntries (·.valid) s.ram = entries :=
    validEntries_of_filled hfilled rfl fun e he => (hok e he).valid
  have hitems : requestArray 4096 "reservations" "missing reservations[]" r =
      .ok (entries.map reservationItem) := by
    refine requestArray_of_arrives hr ?_
    simp [dhcpReservationsHandler, tablePage, Json.getObjectItem, Json.sameName, Json.asArray,
      hvalid]
  have hout := fillSlots_items takesClean_reservation (Filled.length_le hfilled)
    fun e he => alone_reservationItem haton (hok e he)
  simp only [dhcpReservationsSaveHandler, hitems, hout, dhcpReservationsSetAll,
    arrayRequest_of_length (Filled.length_le hfilled)]
  exact resubmitted_replace _ _ hfilled fun e he => (hok e he).kept

/-! ### The denylist -/

/-- An entry of the denylist. -/
structure MacDenyEntry.Ok (e : MacDenyEntry) : Prop where
  valid : e.valid = true
  mac : macIsZero e.mac = false

theorem MacDenyEntry.Ok.kept {e : MacDenyEntry} (h : e.Ok) : e.keep = true ∧ e.mark = e := by
  refine ⟨by rw [MacDenyEntry.keep, h.mac]; rfl, ?_⟩
  rw [MacDenyEntry.mark, ← h.valid]

theorem macDeny_ok {x : MacDenyEntry} (hkeep : x.keep = true) : x.mark.Ok := by
  refine ⟨rfl, ?_⟩
  rw [MacDenyEntry.keep, Bool.not_eq_true'] at hkeep
  exact hkeep

theorem alone_macDenyItem {e : MacDenyEntry} (h : e.Ok) :
    alone .blank macDenyStep (macDenyItem e) = some e := by
  have hmac : (macDenyItem e).stringItem "mac" = some (wolFormatMac e.mac) := by
    simp [macDenyItem, Json.stringItem, Json.getObjectItem, Json.sameName, Json.asString]
  have hname : nameItem (macDenyItem e) .empty = e.name := by
    simp [nameItem, macDenyItem, Json.stringItem, Json.getObjectItem, Json.sameName, Json.asString]
  apply alone_of_counts
  unfold macDenyStep
  simp only [hmac, visible_wolFormatMac, parseMacStr_formatted]
  show ((⟨e.mac, true, nameItem (macDenyItem e) .empty⟩ : MacDenyEntry), true) = (e, true)
  rw [hname, ← h.valid]

/-- `mac_deny_save_handler` and `mac_deny_init`. -/
def macDenyMachine : Machine (SavedTable MacDenyEntry macDenyMax) (TableAction TableRequest) :=
  tableMachine (fun s r => (macDenySaveHandler s r).2) macDenyInit

theorem macDenyMachine_holdsOnly {as : List (TableAction TableRequest)}
    {t : SavedTable MacDenyEntry macDenyMax}
    (hrun : macDenyMachine.run (.new _ .blank) as = some t) :
    t.HoldsOnly .blank MacDenyEntry.Ok := by
  refine tableMachine_holdsOnly ?_ ?_ hrun
  · intro s r hs
    unfold macDenySaveHandler
    split
    · exact hs
    · rw [fillSlots_eq takesClean_macDeny]
      simp only [macDenySetAll, arrayRequest_of_length (List.length_take_le _ _)]
      exact hs.replace (List.length_take_le _ _) fun x _ hkeep => macDeny_ok hkeep
  · intro s hs
    exact hs.restart ⟨rfl, rfl⟩ fun e he => ⟨he.valid, rfl⟩

theorem macDeny_resubmitted {s : SavedTable MacDenyEntry macDenyMax} {r : TableRequest}
    (hs : s.HoldsOnly .blank MacDenyEntry.Ok) (hr : r.Arrives 2048 (macDenyHandler s.ram)) :
    Resubmitted "mac_deny" r.nvs.err s (macDenySaveHandler s r) := by
  obtain ⟨entries, hfilled, hok⟩ := hs.ram
  have hvalid : validEntries (·.valid) s.ram = entries :=
    validEntries_of_filled hfilled rfl fun e he => (hok e he).valid
  have hitems : requestArray 2048 "denylist" "missing denylist[]" r =
      .ok (entries.map macDenyItem) := by
    refine requestArray_of_arrives hr ?_
    simp [macDenyHandler, tablePage, Json.getObjectItem, Json.sameName, Json.asArray, hvalid]
  have hout := fillSlots_items takesClean_macDeny (Filled.length_le hfilled)
    fun e he => alone_macDenyItem (hok e he)
  simp only [macDenySaveHandler, hitems, hout, macDenySetAll,
    arrayRequest_of_length (Filled.length_le hfilled)]
  exact resubmitted_replace _ _ hfilled fun e he => (hok e he).kept

/-! ### Port mappings -/

theorem badPort_eq_false_iff {v : Int32} : badPort v = false ↔ 0 < v.toInt ∧ v.toInt ≤ 65535 := by
  have hmax : (65535 : Int32).toInt = 65535 := by decide
  rw [badPort, Bool.or_eq_false_iff, decide_eq_false_iff_not, decide_eq_false_iff_not,
    Int32.le_iff_toInt_le, Int32.lt_iff_toInt_lt, hmax, Int32.toInt_zero]
  omega

/-- A port is read as it was written. -/
theorem port_ofNat {n : Nat} (h : 0 < n ∧ n ≤ 65535) :
    badPort (Int32.ofNat n) = false ∧ (Int32.ofNat n).toInt.toNat = n := by
  have hn : (Int32.ofNat n).toInt = n := Int32.toInt_ofNat_of_lt (by omega)
  rw [badPort_eq_false_iff, hn]
  omega

/-- An entry of the port mappings. -/
structure PortmapRecord.Ok (e : PortmapRecord) : Prop where
  valid : e.valid = true
  isFilled : e.isFilled = true
  ports : e.extPort ≤ 65535 ∧ e.intPort ≤ 65535

theorem PortmapRecord.Ok.kept {e : PortmapRecord} (h : e.Ok) : e.keep = true ∧ e.mark = e := by
  refine ⟨h.isFilled, ?_⟩
  rw [PortmapRecord.mark, ← h.valid]

theorem portmap_ok {e : Json} {x : PortmapRecord}
    (h : alone .blank (portmapStep aton) e = some x) (hkeep : x.keep = true) : x.mark.Ok := by
  have hstep := counts_of_alone h
  refine ⟨rfl, hkeep, ?_⟩
  unfold portmapStep at hstep
  split at hstep
  · rename_i proto ep intIp ip _ _ _ _
    dsimp only at hstep
    -- The item was refused in each of the earlier branches; here both ports are proper.
    split_ifs at hstep with hproto hport
    · cases hstep
    · cases hstep
    · split at hstep
      · cases hstep
      · split_ifs at hstep with ha
        · cases hstep
        · rw [Bool.not_eq_true, Bool.or_eq_false_iff, badPort_eq_false_iff, badPort_eq_false_iff]
            at hport
          rw [← (Prod.mk.inj hstep).1]
          show ep.toInt.toNat ≤ 65535 ∧ ip.toInt.toNat ≤ 65535
          omega
  · cases hstep

/-- What is filled has its fields in range. -/
theorem PortmapRecord.Ok.fields {e : PortmapRecord} (h : e.Ok) :
    (e.proto = 6 ∨ e.proto = 17) ∧ 0 < e.extPort ∧ 0 < e.intPort ∧ e.intIp ≠ 0 := by
  have hfilled := h.isFilled
  unfold TailnetForward.PortmapEntry.isFilled at hfilled
  split_ifs at hfilled with hfields hproto
  simp only [Bool.or_eq_true, beq_iff_eq, not_or] at hfields
  simp only [Bool.and_eq_true, bne_iff_ne, not_and_or, not_not] at hproto
  obtain ⟨⟨hext, hint⟩, hip⟩ := hfields
  exact ⟨hproto, Nat.pos_of_ne_zero hext, Nat.pos_of_ne_zero hint, hip⟩

theorem portmapProtoFromStr_protoStr {proto : UInt8} (h : proto = 6 ∨ proto = 17) :
    portmapProtoFromStr (portmapProtoStr proto).toList = proto := by
  obtain rfl | rfl := h
  · decide +kernel
  · decide +kernel

theorem alone_portmapItem (haton : ∀ ip, aton (dotted ip) = some ip) {e : PortmapRecord}
    (h : e.Ok) : alone .blank (portmapStep aton) (portmapItem e) = some e := by
  obtain ⟨hproto, hext, hint, hip⟩ := h.fields
  obtain ⟨hextOk, hextEq⟩ := port_ofNat ⟨hext, h.ports.1⟩
  obtain ⟨hintOk, hintEq⟩ := port_ofNat ⟨hint, h.ports.2⟩
  -- Each field is printed under the name under which the parser asks for it.
  have hprotoItem : (portmapItem e).stringItem "proto" = some (portmapProtoStr e.proto).toList := by
    simp [portmapItem, Json.stringItem, Json.getObjectItem, Json.sameName, Json.asString]
  have hextItem : Json.asInt32 ((portmapItem e).getObjectItem "ext_port") =
      some (Int32.ofNat e.extPort) := by
    simp [portmapItem, Json.getObjectItem, Json.sameName, Json.asInt32]
  have hipItem : (portmapItem e).stringItem "int_ip" = some (dotted e.intIp) := by
    simp [portmapItem, Json.stringItem, Json.getObjectItem, Json.sameName, Json.asString]
  have hintItem : Json.asInt32 ((portmapItem e).getObjectItem "int_port") =
      some (Int32.ofNat e.intPort) := by
    simp [portmapItem, Json.getObjectItem, Json.sameName, Json.asInt32]
  have hname : nameItem (portmapItem e) .empty = e.name := by
    simp [nameItem, portmapItem, Json.stringItem, Json.getObjectItem, Json.sameName, Json.asString]
  have hne : e.proto ≠ 0 := by
    obtain heq | heq := hproto <;> rw [heq] <;> decide
  -- Alone in a blank slot the item gives the record itself, mark and name included.
  apply alone_of_counts
  unfold portmapStep
  simp only [hprotoItem, hextItem, hipItem, hintItem, portmapProtoFromStr_protoStr hproto,
    if_neg hne, hextOk, hintOk, hextEq, hintEq, visible_dotted, haton, if_neg hip]
  show ((⟨⟨e.proto, true, e.extPort, e.intPort, e.intIp⟩, nameItem (portmapItem e) .empty⟩ :
    PortmapRecord), true) = (e, true)
  rw [hname, ← h.valid]

/-- A request to the page of the port mappings, with the rules and the port that it is checked
    against. -/
structure PortmapRequest where
  rules : List Slot
  webUiConfiguredPort : Nat
  request : TableRequest

/-- `portmap_save_handler` and `portmap_init`. -/
def portmapMachine (aton : List Char → Option Ip4) :
    Machine (SavedTable PortmapRecord portmapMax) (TableAction PortmapRequest) :=
  tableMachine (fun s r => (portmapSaveHandler aton r.rules r.webUiConfiguredPort s r.request).2)
    portmapInit

theorem portmapMachine_holdsOnly {as : List (TableAction PortmapRequest)}
    {t : SavedTable PortmapRecord portmapMax}
    (hrun : (portmapMachine aton).run (.new _ .blank) as = some t) :
    t.HoldsOnly .blank PortmapRecord.Ok := by
  refine tableMachine_holdsOnly ?_ ?_ hrun
  · rintro s ⟨rules, port, r⟩ hs
    unfold portmapSaveHandler
    split
    · exact hs
    · rw [fillSlots_eq takesClean_portmap]
      simp only [portmapSetAll, portmapRequest, arrayRequest_of_length (List.length_take_le _ _)]
      split_ifs
      · exact hs
      · refine hs.replace (List.length_take_le _ _) fun x hx hkeep => ?_
        obtain ⟨e, -, halone⟩ := List.mem_filterMap.mp (List.mem_of_mem_take hx)
        exact portmap_ok halone hkeep
  · intro s hs
    exact hs.restart ⟨rfl, rfl⟩ fun e he => ⟨he.valid, rfl⟩

theorem portmap_resubmitted (haton : ∀ ip, aton (dotted ip) = some ip)
    {s : SavedTable PortmapRecord portmapMax} {rules : List Slot} {port : Nat} {r : TableRequest}
    (hs : s.HoldsOnly .blank PortmapRecord.Ok) (hr : r.Arrives 4096 (portmapHandler s.ram))
    (hconflict : portmapConflict rules port []
      ((validEntries (·.valid) s.ram).map PortmapRecord.toPortmapEntry) = false) :
    Resubmitted "portmap" r.nvs.err s (portmapSaveHandler aton rules port s r) := by
  obtain ⟨entries, hfilled, hok⟩ := hs.ram
  have hvalid : validEntries (·.valid) s.ram = entries :=
    validEntries_of_filled hfilled rfl fun e he => (hok e he).valid
  rw [hvalid] at hconflict
  have hitems : requestArray 4096 "mappings" "missing mappings[]" r =
      .ok (entries.map portmapItem) := by
    -- The page is the array that the request posts, as it arrives whole.
    refine requestArray_of_arrives hr ?_
    simp [portmapHandler, tablePage, Json.getObjectItem, Json.sameName, Json.asArray, hvalid]
  have hout := fillSlots_items takesClean_portmap (Filled.length_le hfilled)
    fun e he => alone_portmapItem haton (hok e he)
  -- There is no conflict, so the table is replaced by its own entries.
  simp only [portmapSaveHandler, hitems, hout, portmapSetAll, portmapRequest,
    arrayRequest_of_length (Filled.length_le hfilled)]
  rw [if_neg (Bool.eq_false_iff.mp hconflict)]
  exact resubmitted_replace _ _ hfilled fun e he => (hok e he).kept

/-! ### Wake-on-LAN targets -/

/-- A Wake-on-LAN target. -/
structure WolDevice.Ok (d : WolDevice) : Prop where
  valid : d.valid = true
  mac : macIsZero d.mac = false
  port : d.port ≠ 0

theorem WolDevice.Ok.kept {d : WolDevice} (h : d.Ok) : d.keep = true ∧ d.mark = d := by
  refine ⟨by rw [WolDevice.keep, h.mac]; rfl, ?_⟩
  rw [WolDevice.mark, if_neg h.port, ← h.valid]

theorem wol_ok {d : WolDevice} (hkeep : d.keep = true) : d.mark.Ok := by
  refine ⟨rfl, ?_, d.mark_port_ne⟩
  rw [WolDevice.keep, Bool.not_eq_true'] at hkeep
  exact hkeep

/-- The handler takes the broadcast address as it is in the table. -/
def WolDevice.Readable (aton : List Char → Option Ip4) (d : WolDevice) : Prop :=
  d.broadcast.text ≠ [] → aton d.broadcast.text ≠ none

theorem wolDevice_wolItem {d : WolDevice} (h : d.Ok) (hread : d.Readable aton) :
    wolDevice aton (wolItem d) = .ok d := by
  -- The port is not zero, as the check of a device has demanded.
  have hpos : 0 < d.port.toNat := by
    rw [Nat.pos_iff_ne_zero]
    exact fun hzero => h.port (UInt16.toNat_inj.mp hzero)
  have hlt := d.port.toNat_lt
  obtain ⟨hportOk, hportEq⟩ := port_ofNat ⟨hpos, by omega⟩
  have hmac : (wolItem d).stringItem "mac" = some (wolFormatMac d.mac) := by
    simp [wolItem, Json.stringItem, Json.getObjectItem, Json.sameName, Json.asString]
  have hname : (wolItem d).stringItem "name" = some d.name.text := by
    simp [wolItem, Json.stringItem, Json.getObjectItem, Json.sameName, Json.asString]
  have hbroadcast : (wolItem d).stringItem "broadcast" = some d.broadcast.text := by
    simp [wolItem, Json.stringItem, Json.getObjectItem, Json.sameName, Json.asString]
  have hport : Json.asValueint ((wolItem d).getObjectItem "port") =
      some (Int32.ofNat d.port.toNat) := by
    simp [wolItem, Json.getObjectItem, Json.sameName, Json.asValueint, h.port]
  -- The address is readable, and everything else reads back as it was printed.
  unfold wolDevice
  simp only [hmac, hname, hbroadcast, hport, Option.bind_some, Option.map_some, Option.getD_some,
    visible_wolFormatMac, wolParseMac_formatted, CString.visible_eq d.broadcast.noNul, hportOk,
    hportEq, CString.strlcpy_text, UInt16.ofNat_toNat]
  rw [if_neg fun hbad => hread hbad.1 hbad.2, if_neg (by decide), ← h.valid]

/-- A save keeps this, whatever it is given. -/
theorem wolSetAll_holdsOnly {s : SavedTable WolDevice wolMaxDevices}
    (hs : s.HoldsOnly .blank WolDevice.Ok) (devices : Option (List WolDevice)) (count : Int)
    (r : NvsCalls) : (wolSetAll s devices count r).2.HoldsOnly .blank WolDevice.Ok := by
  unfold wolSetAll
  split
  · exact hs
  · rename_i entries hrequest
    have hsaved : (s.replace .blank WolDevice.keep WolDevice.mark entries r).2.HoldsOnly .blank
        WolDevice.Ok := hs.replace (length_wolRequest hrequest) fun d _ hkeep => wol_ok hkeep
    exact ⟨hsaved.ram, hsaved.blob⟩

/-- `wol_save_handler` and `wol_init`. -/
def wolMachine (aton : List Char → Option Ip4) :
    Machine (SavedTable WolDevice wolMaxDevices) (TableAction TableRequest) :=
  tableMachine (fun s r => (wolSaveHandler aton s r).2) wolInit

theorem wolMachine_holdsOnly {as : List (TableAction TableRequest)}
    {t : SavedTable WolDevice wolMaxDevices}
    (hrun : (wolMachine aton).run (.new _ .blank) as = some t) :
    t.HoldsOnly .blank WolDevice.Ok := by
  refine tableMachine_holdsOnly ?_ ?_ hrun
  · intro s r hs
    unfold wolSaveHandler
    split
    · exact hs
    · split_ifs
      · exact hs
      · split
        · exact hs
        · exact wolSetAll_holdsOnly hs _ _ _
  · intro s hs
    refine hs.restart ⟨rfl, rfl⟩ fun d hd => ⟨hd.valid, ?_⟩
    exact if_neg fun hport => hd.port hport.2

theorem wolDevices_map {devices : List WolDevice}
    (hread : ∀ d ∈ devices, wolDevice aton (wolItem d) = .ok d) :
    wolDevices aton (devices.map wolItem) = .ok devices := by
  induction devices with
  | nil => rfl
  | cons d devices ih =>
    rw [List.map_cons, wolDevices, hread d List.mem_cons_self,
      ih fun d hd => hread d (List.mem_cons_of_mem _ hd)]

theorem wol_resubmitted {s : SavedTable WolDevice wolMaxDevices} {r : TableRequest}
    (hs : s.HoldsOnly .blank WolDevice.Ok) (hr : r.Arrives 4096 (wolHandler s.ram))
    (hread : ∀ d ∈ validEntries (·.valid) s.ram, d.Readable aton) :
    Resubmitted "wol_devices" r.nvs.err s (wolSaveHandler aton s r) := by
  obtain ⟨entries, hfilled, hok⟩ := hs.ram
  have hvalid : validEntries (·.valid) s.ram = entries :=
    validEntries_of_filled hfilled rfl fun d hd => (hok d hd).valid
  have hlen := Filled.length_le hfilled
  rw [hvalid] at hread
  have hitems : requestArray 4096 "devices" "missing devices[]" r = .ok (entries.map wolItem) := by
    refine requestArray_of_arrives hr ?_
    -- The page lists as many devices as the table counts.
    have htake : (validEntries (·.valid) s.ram).take s.ram.count = entries := by
      rw [hvalid, hfilled.2, List.take_length]
    simp [wolHandler, Json.getObjectItem, Json.sameName, Json.asArray, htake]
  have hdevices : wolDevices aton (entries.map wolItem) = .ok entries :=
    wolDevices_map fun d hd => wolDevice_wolItem (hok d hd) (hread d hd)
  have hrequest : wolRequest (some entries) entries.length = .ok entries := by
    show (if _ then _ else Except.ok (entries.take (min (entries.length : Int).toNat _))) = _
    rw [if_neg (by simp), Int.toNat_natCast, Nat.min_eq_left hlen, List.take_length]
  have hsaved := resubmitted_replace "wol_devices" r.nvs hfilled fun d hd => (hok d hd).kept
  simp only [wolSaveHandler, hitems, List.length_map, hdevices, wolSetAll, hrequest]
  rw [if_neg (by omega)]
  exact ⟨hsaved.reply, hsaved.ram, hsaved.blob⟩

/-! ### The four pages -/

/-- **A page that is saved as it was read.** After any saves and restarts, the array of the page of
    a table is taken for a save that leaves the table as it is and, if the write succeeds, is what
    the next boot loads.  The port mappings must not have come into conflict with what listens
    elsewhere since, and the broadcast addresses must be such that they are read back. -/
theorem pages_resubmitted (haton : ∀ ip, aton (dotted ip) = some ip) (r : TableRequest) :
    (∀ as s, (reservationMachine aton).run (.new _ .blank) as = some s →
      r.Arrives 4096 (dhcpReservationsHandler s.ram) →
      Resubmitted "dhcp_res" r.nvs.err s (dhcpReservationsSaveHandler aton s r)) ∧
    (∀ as s, macDenyMachine.run (.new _ .blank) as = some s →
      r.Arrives 2048 (macDenyHandler s.ram) →
      Resubmitted "mac_deny" r.nvs.err s (macDenySaveHandler s r)) ∧
    (∀ as s rules port, (portmapMachine aton).run (.new _ .blank) as = some s →
      r.Arrives 4096 (portmapHandler s.ram) →
      portmapConflict rules port []
        ((validEntries (·.valid) s.ram).map PortmapRecord.toPortmapEntry) = false →
      Resubmitted "portmap" r.nvs.err s (portmapSaveHandler aton rules port s r)) ∧
    (∀ as s, (wolMachine aton).run (.new _ .blank) as = some s →
      r.Arrives 4096 (wolHandler s.ram) →
      (∀ d ∈ validEntries (·.valid) s.ram, d.Readable aton) →
      Resubmitted "wol_devices" r.nvs.err s (wolSaveHandler aton s r)) := by
  -- One part for each table: what its machine keeps, then the page read back.
  refine ⟨?_, ?_, ?_, ?_⟩
  · intro as s hrun hr
    exact reservations_resubmitted haton (reservationMachine_holdsOnly hrun) hr
  · intro as s hrun hr
    exact macDeny_resubmitted (macDenyMachine_holdsOnly hrun) hr
  · intro as s rules port hrun hr hconflict
    exact portmap_resubmitted haton (portmapMachine_holdsOnly hrun) hr hconflict
  · intro as s hrun hr hread
    exact wol_resubmitted (wolMachine_holdsOnly hrun) hr hread

/-- A page is posted. -/
def posted (page : Json) : TableRequest := ⟨true, true, 200, .complete (some page), .succeed⟩

/-- One target, with the broadcast address of its network. -/
def oneTargetRequest : TableRequest :=
  posted (.object [("devices", .array [.object [("mac", .string "02:00:00:00:00:03".toList),
    ("broadcast", .string "192.168.4.255".toList)]])])

instance {d : WolDevice} : Decidable (d.Readable aton) := inferInstanceAs (Decidable (_ → _))

/-- Each page, with one entry. -/
theorem pages_of_one_entry :
    (let s := (dhcpReservationsSaveHandler readDotted (.new _ .blank) oneLeftOutRequest).2
    Resubmitted "dhcp_res" espOk s
      (dhcpReservationsSaveHandler readDotted s (posted (dhcpReservationsHandler s.ram)))) ∧
    (let s := (macDenySaveHandler (.new _ .blank) oneLeftOutRequest).2
    Resubmitted "mac_deny" espOk s (macDenySaveHandler s (posted (macDenyHandler s.ram)))) ∧
    (let s := (portmapSaveHandler readDotted [] 80 (.new _ .blank) oneLeftOutRequest).2
    Resubmitted "portmap" espOk s
      (portmapSaveHandler readDotted [] 80 s (posted (portmapHandler s.ram)))) ∧
    (let s := (wolSaveHandler readDotted (.new _ .blank) oneTargetRequest).2
    Resubmitted "wol_devices" espOk s (wolSaveHandler readDotted s (posted (wolHandler s.ram)))) :=
  ⟨(pages_resubmitted readDotted_dotted (posted _)).1 [.save oneLeftOutRequest] _ rfl
      ⟨rfl, rfl, by decide, rfl⟩,
    (pages_resubmitted readDotted_dotted (posted _)).2.1 [.save oneLeftOutRequest] _ rfl
      ⟨rfl, rfl, by decide, rfl⟩,
    (pages_resubmitted readDotted_dotted (posted _)).2.2.1 [.save ⟨[], 80, oneLeftOutRequest⟩] _ []
      80 rfl ⟨rfl, rfl, by decide, rfl⟩ (by decide +kernel),
    (pages_resubmitted readDotted_dotted (posted _)).2.2.2 [.save oneTargetRequest] _ rfl
      ⟨rfl, rfl, by decide, rfl⟩ (by decide +kernel)⟩

end SubnetRouter.Settings
