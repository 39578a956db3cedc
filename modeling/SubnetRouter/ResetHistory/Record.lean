import SubnetRouter.Nvs.Items

namespace SubnetRouter.ResetHistory

open Lib Nvs

/-!
# The reset history (`main/reset_history.c`)

Every boot adds a row to a blob of ten: when it was, what the reset was, who asked for it, and
what is known of a crash.  A blob of the first firmware has rows of 84 bytes in place of 180.

* `Entry`, `OldEntry` — the rows; `sanitizeBlob`, `migrateV1ToV2`, `classifyReset`.
* `resetHistoryRecordBoot`, `resetHistoryNoteRestart` — the two calls.
* `storedHistory_recordBoot` — the blob after a boot.
* `migration_iff` — what becomes of a blob of the first firmware.
-/

/-! ### Rows -/

/-- `reset_history_entry_t`. The texts are arrays of a fixed size, terminated or not, as they come
    out of a blob. -/
structure Entry where
  wallclock : UInt32
  reason : CharArray 16
  who : CharArray 32
  crash : CharArray 128
deriving DecidableEq

/-- `old_entry_t`. Its name had more room, and there was no crash column. -/
structure OldEntry where
  wallclock : UInt32
  reason : CharArray 16
  who : CharArray 64
deriving DecidableEq

/-- `RESET_HISTORY_MAX`. -/
def resetHistoryMax : Nat := 10

open Layout in
/-- The bytes of `reset_history_entry_t`. -/
def Entry.layout : Layout Entry :=
  (pair u32 <| pair (chars 16) <| pair (chars 32) (chars 128)).map
    (fun (wallclock, reason, who, crash) => ⟨wallclock, reason, who, crash⟩)
    (fun e => (e.wallclock, e.reason, e.who, e.crash)) fun _ => rfl

open Layout in
/-- The bytes of `old_entry_t`. -/
def OldEntry.layout : Layout OldEntry :=
  (pair u32 <| pair (chars 16) (chars 64)).map
    (fun (wallclock, reason, who) => ⟨wallclock, reason, who⟩)
    (fun e => (e.wallclock, e.reason, e.who)) fun _ => rfl

/-- `hist`. -/
abbrev History := { rows : List Entry // rows.length = resetHistoryMax }

/-- `hist` as it is written, and the history of the first firmware. -/
def historyLayout : Layout History := Entry.layout.table resetHistoryMax
def oldHistoryLayout : Layout { rows : List OldEntry // rows.length = resetHistoryMax } :=
  OldEntry.layout.table resetHistoryMax

/-- All zero. -/
def Entry.blank : Entry := ⟨0, .zero 16, .zero 32, .zero 128⟩

/-- `memset(hist, 0, sizeof hist)`. -/
def History.blank : History := ⟨List.replicate resetHistoryMax Entry.blank, List.length_replicate⟩

/-- A text constant. -/
def literal (s : String) : CText where
  bytes := (s.toList.map fun c => UInt8.ofNat c.toNat).filter (· ≠ 0)
  noNul hmem := by simp at hmem

/-- `strstr(s, sub) != NULL`. -/
def strstr (s sub : CText) : Bool := s.bytes.tails.any fun rest => sub.bytes.isPrefixOf rest

/-- The reason names a panic or a watchdog. -/
def isCrashReason (reason : CText) : Bool :=
  strstr reason (literal "PANIC") || strstr reason (literal "WDT")

/-- One row of `sanitize_blob`. Every text is terminated before any of them is looked at. -/
def sanitizeRow (e : Entry) : Entry :=
  let e :=
    { e with reason := e.reason.terminate, who := e.who.terminate, crash := e.crash.terminate }
  -- a row without a reason keeps its crash column
  if e.reason.isEmpty then e
  else if !isCrashReason e.reason.text then { e with crash := .zero 128 }
  else e

/-- `sanitize_blob`. -/
def sanitizeBlob (hist : History) : History :=
  ⟨hist.1.map sanitizeRow, by rw [List.length_map, hist.2]⟩

/-! ### Migration -/

/-- Keys in NVS. -/
def keyBlob : String := "rst_hist"
def keyLast : String := "last_rst"
def keyCount : String := "rst_count"
def keyWho : String := "rst_who"
def keyAppsha : String := "app_sha8"
def keyCrash : String := "last_crash"

/-- One row of `migrate_v1_to_v2`, into a row that has been cleared. A long name is cut to its new
    room. -/
def OldEntry.migrate (o : OldEntry) (e : Entry) : Entry where
  wallclock := o.wallclock
  reason := e.reason.strncpy o.reason.text
  who := e.who.strncpy o.who.text
  crash := e.crash

/-- The crash text goes into the first row whose reason is a crash. That is the newest one, as the
    rows are stored. -/
def backfill (crash : CText) : List Entry → List Entry
  | [] => []
  | e :: rest =>
    if isCrashReason e.reason.text then { e with crash := e.crash.strncpy crash } :: rest
    else e :: backfill crash rest

theorem length_backfill (crash : CText) (rows : List Entry) :
    (backfill crash rows).length = rows.length := by
  induction rows with
  | nil => rfl
  | cons e rest ih =>
    unfold backfill
    split_ifs
    · rfl
    · rw [List.length_cons, ih, List.length_cons]

/-- `migrate_v1_to_v2`. A blob that is longer than the old layout is not read. -/
def migrateV1ToV2 (nvs : Items) (hist : History) : History :=
  match getBlob nvs keyBlob oldHistoryLayout.size with
  | .ok bytes =>
    let old := oldHistoryLayout.decode bytes
    let rows := List.zipWith OldEntry.migrate old.1 hist.1
    have hrows : rows.length = resetHistoryMax := by
      rw [List.length_zipWith, old.2, hist.2, Nat.min_self]
    match getStr nvs keyCrash 160 with
    | some lc =>
      if lc.bytes = [] then ⟨rows, hrows⟩
      else ⟨backfill lc rows, by rw [length_backfill, hrows]⟩
    | none => ⟨rows, hrows⟩
  | _ => hist

/-! ### The record of a boot -/

/-- `esp_reset_reason_t`. -/
inductive ResetReason where
  | unknown
  | powerOn
  | ext
  | sw
  | panic
  | intWdt
  | taskWdt
  | wdt
  | deepSleep
  | brownout
  | sdio
  | usb
  | jtag
  | efuse
  | pwrGlitch
  | cpuLockup
deriving DecidableEq, Repr

/-- Its number. -/
def ResetReason.code : ResetReason → Int
  | unknown => 0
  | powerOn => 1
  | ext => 2
  | sw => 3
  | panic => 4
  | intWdt => 5
  | taskWdt => 6
  | wdt => 7
  | deepSleep => 8
  | brownout => 9
  | sdio => 10
  | usb => 11
  | jtag => 12
  | efuse => 13
  | pwrGlitch => 14
  | cpuLockup => 15

/-- The `switch` of `classify_reset`. The reasons that it does not list have no label of their
    own. -/
def ResetReason.name : ResetReason → CText
  | powerOn => literal "POWERON"
  | ext => literal "EXT"
  | sw => literal "SW"
  | panic => literal "PANIC"
  | intWdt => literal "INT_WDT"
  | taskWdt => literal "TASK_WDT"
  | wdt => literal "WDT"
  | deepSleep => literal "DEEPSLEEP"
  | brownout => literal "BROWNOUT"
  | sdio => literal "SDIO"
  | _ => literal "UNKNOWN"

/-- What a boot finds: the first half of the image's hash in hex (empty without a description),
    whether the last partition was rejected, the reset reason, and the time. -/
structure Boot where
  curSha : CText
  lastInvalid : Bool
  reason : ResetReason
  now : Nat

/-- `classify_reset`: the label, who asked for it, and the namespace. A new image gives the label,
    whatever the chip reports. -/
def classifyReset (b : Boot) (nvs : Items) : CText × CText × Items :=
  let savedSha := (getStr nvs keyAppsha 17).getD .empty
  let changed := decide (b.curSha.bytes ≠ [] ∧ savedSha ≠ b.curSha)
  let nvs := if changed then setStr nvs keyAppsha b.curSha else nvs
  let rs :=
    if changed then if b.lastInvalid then literal "ROLLBACK" else literal "FLASH"
    else b.reason.name
  -- a name that does not fit is not read; after `ESP_RST_SW` the key stays
  let who := if b.reason = .sw then (getStr nvs keyWho 64).getD .empty else .empty
  let nvs := if b.reason ≠ .sw then erase nvs keyWho else nvs
  (rs, who, setI32 (setStr nvs keyLast rs) keyCount b.reason.code)

/-- The row of the present boot. Without a clock that has been set its time is 0. -/
def bootRow (b : Boot) (rs who : CText) : Entry where
  wallclock := if 1700000000 < b.now then UInt32.ofNat b.now else 0
  reason := (CharArray.zero 16).strncpy rs
  who := (CharArray.zero 32).strncpy who
  crash := .zero 128

/-- What `reset_history_record_boot` reads: `nvs_get_blob` fills the cleared rows from the
    front, if the blob fits. -/
def readHistory (nvs : Items) : History :=
  match getBlob nvs keyBlob historyLayout.size with
  -- a blob of the first firmware is shorter than the buffer: it is read here
  | .ok bytes => historyLayout.decode bytes
  | .invalidLength =>
    if blobSize nvs keyBlob = some oldHistoryLayout.size then migrateV1ToV2 nvs .blank else .blank
  | .notFound => .blank

/-- A row in front, and the last one dropped. -/
def History.push (hist : History) (row : Entry) : History :=
  ⟨row :: hist.1.take 9, by simp [hist.2, resetHistoryMax]⟩

/-- `reset_history_record_boot`; nothing is recorded when `nvs_open` fails. The new row goes in
    front of the history that is there, and the oldest one out. -/
def resetHistoryRecordBoot (opens : Bool) (b : Boot) (nvs : Items) : Items :=
  if !opens then nvs
  else
    let (rs, who, nvs) := classifyReset b nvs
    let hist := sanitizeBlob (readHistory nvs)
    setBlob nvs keyBlob (historyLayout.encode (hist.push (bootRow b rs who)))

/-- `reset_history_note_restart`, up to `esp_restart`. -/
def resetHistoryNoteRestart (who : Option CText) (nvs : Items) : Items :=
  setStr nvs keyWho (who.getD (literal "?"))

/-! ### The blob after a boot -/

variable {b : Boot} {nvs nvs' : Items} {e : Entry} {o : OldEntry}

/-- The history in NVS, in the present layout. A blob of any other size is none. -/
def storedHistory (nvs : Items) : Option History :=
  match nvs keyBlob with
  | some (.blob bytes) =>
    if bytes.length = historyLayout.size then some (historyLayout.decode bytes) else none
  | _ => none

/-- What is read depends on the blob and on the crash text only. -/
theorem readHistory_congr (hblob : nvs' keyBlob = nvs keyBlob)
    (hcrash : nvs' keyCrash = nvs keyCrash) : readHistory nvs' = readHistory nvs := by
  have hmigrate : migrateV1ToV2 nvs' .blank = migrateV1ToV2 nvs .blank := by
    unfold migrateV1ToV2
    rw [getBlob_congr hblob, getStr_congr hcrash]
  rw [readHistory, readHistory, getBlob_congr hblob, blobSize_congr hblob, hmigrate]

/-- The classification writes neither. -/
theorem readHistory_classifyReset (b : Boot) (nvs : Items) :
    readHistory (classifyReset b nvs).2.2 = readHistory nvs := by
  have hkeep : ∀ key, key ∉ [keyAppsha, keyWho, keyLast, keyCount] →
      (classifyReset b nvs).2.2 key = nvs key := by
    intro key hkey
    simp only [List.mem_cons, List.not_mem_nil, or_false, not_or] at hkey
    obtain ⟨hsha, hwho, hlast, hcount⟩ := hkey
    simp only [classifyReset]
    rw [setI32_of_ne hcount, setStr_of_ne hlast]
    split_ifs <;> simp [hsha, hwho]
  exact readHistory_congr (hkeep _ (by decide)) (hkeep _ (by decide))

/-- **A boot.** Its row is put in front of what was read. -/
theorem storedHistory_recordBoot (b : Boot) (nvs : Items) :
    storedHistory (resetHistoryRecordBoot true b nvs) =
      some ((sanitizeBlob (readHistory nvs)).push
        (bootRow b (classifyReset b nvs).1 (classifyReset b nvs).2.1)) := by
  simp only [resetHistoryRecordBoot, Bool.not_true, Bool.false_eq_true, if_false, storedHistory,
    setBlob_self, historyLayout.length_encode, if_true, historyLayout.decode_encode,
    readHistory_classifyReset]

/-! ### A blob of the first firmware -/

/-- The row has what the old row had, as far as it fits, and a crash text only if its reason is
    a crash. -/
structure HoldsOld (o : OldEntry) (row : Entry) : Prop where
  wallclock : row.wallclock = o.wallclock
  reason : row.reason.text = o.reason.text.take 15
  who : row.who.text = o.who.text.take 31
  crash : row.crash.text ≠ .empty → isCrashReason row.reason.text = true

/-- The 180 bytes of `e` read as the 84 bytes of `o` do, and a row without a reason has no text
    at the place of the crash. -/
structure ReadsAlike (e : Entry) (o : OldEntry) : Prop where
  wallclock : e.wallclock = o.wallclock
  reason : e.reason.text.take 15 = o.reason.text.take 15
  who : e.who.text.take 31 = o.who.text.take 31
  crash : e.reason.text = .empty → e.crash.text.take 127 = .empty

theorem text_terminate {cap : Nat} (a : CharArray (cap + 1)) :
    a.terminate.text = a.text.take cap := by
  ext1
  exact a.bytes_text_terminate

/-- What sanitizing leaves of the first three columns. -/
theorem sanitizeRow_columns (e : Entry) : (sanitizeRow e).wallclock = e.wallclock ∧
    (sanitizeRow e).reason.text = e.reason.text.take 15 ∧
    (sanitizeRow e).who.text = e.who.text.take 31 := by
  unfold sanitizeRow
  dsimp only
  split_ifs <;> exact ⟨rfl, text_terminate e.reason, text_terminate e.who⟩

/-- A terminated reason is empty exactly if it was. -/
theorem isEmpty_terminate_iff (a : CharArray 16) :
    a.terminate.isEmpty = true ↔ a.text = .empty := by
  rw [CharArray.isEmpty_iff, CharArray.bytes_text_terminate, List.take_eq_nil_iff, CText.ext_iff]
  simp

/-- A crash text on a row that is no crash was left there because the row has no reason. -/
theorem sanitizeRow_crash_iff (e : Entry) :
    ((sanitizeRow e).crash.text ≠ .empty → isCrashReason (sanitizeRow e).reason.text = true) ↔
      (e.reason.text = .empty → e.crash.text.take 127 = .empty) := by
  have hnot : isCrashReason CText.empty = false := by decide +kernel
  unfold sanitizeRow
  dsimp only
  by_cases hempty : e.reason.terminate.isEmpty = true
  · have hreason := (isEmpty_terminate_iff e.reason).mp hempty
    rw [if_pos hempty, text_terminate, text_terminate, hreason]
    have htake : CText.empty.take 15 = CText.empty := rfl
    rw [htake, hnot]
    simp
  · have hreason := fun h => hempty ((isEmpty_terminate_iff e.reason).mpr h)
    rw [if_neg hempty]
    refine iff_of_true ?_ fun h => absurd h hreason
    split_ifs with hcrash
    · -- the crash column has been cleared
      intro htext
      exact absurd (CText.ext (CharArray.bytes_text_zero 128)) htext
    · intro _
      simpa using hcrash

/-- One row. -/
theorem holdsOld_sanitizeRow_iff : HoldsOld o (sanitizeRow e) ↔ ReadsAlike e o := by
  obtain ⟨hwallclock, hreason, hwho⟩ := sanitizeRow_columns e
  have hcrash := sanitizeRow_crash_iff e
  constructor
  · rintro ⟨h1, h2, h3, h4⟩
    exact ⟨hwallclock ▸ h1, hreason ▸ h2, hwho ▸ h3, hcrash.mp h4⟩
  · rintro ⟨h1, h2, h3, h4⟩
    exact ⟨hwallclock.trans h1, hreason.trans h2, hwho.trans h3, hcrash.mpr h4⟩

/-- A blob of the first firmware fits the buffer, so it is read as rows of 180 bytes. -/
theorem readHistory_old {bytes : List UInt8} (h : bytes.length = oldHistoryLayout.size) :
    readHistory (setBlob nvs keyBlob bytes) = historyLayout.decode bytes := by
  have hfits : bytes.length ≤ historyLayout.size := by
    rw [h]
    decide
  simp only [readHistory, getBlob, setBlob_self, if_pos hfits]

/-- The row at an index of either layout. -/
theorem getElem?_historyLayout {bytes : List UInt8} {i : Nat} (h : i < resetHistoryMax) :
    (historyLayout.decode bytes).1[i]? = some (Entry.layout.decode (bytes.drop (i * 180))) :=
  Entry.layout.getElem?_decodeTable h bytes

theorem getElem?_oldHistoryLayout {bytes : List UInt8} {i : Nat} (h : i < resetHistoryMax) :
    (oldHistoryLayout.decode bytes).1[i]? = some (OldEntry.layout.decode (bytes.drop (i * 84))) :=
  OldEntry.layout.getElem?_decodeTable h bytes

/-- The rows behind that of the present boot. -/
theorem getElem?_push {hist : History} {row : Entry} {i : Nat} (h : i < 9) :
    (hist.push row).1[i + 1]? = hist.1[i]? := by
  show (row :: hist.1.take 9)[i + 1]? = _
  rw [List.getElem?_cons_succ, List.getElem?_take_of_lt h]

/-- Row `i + 1` after the first boot of this firmware holds what row `i` was for the old one. -/
def KeepsRow (b : Boot) (nvs : Items) (bytes : List UInt8) (i : Nat) : Prop :=
  ∃ hist row o, storedHistory (resetHistoryRecordBoot true b (setBlob nvs keyBlob bytes))
      = some hist ∧ hist.1[i + 1]? = some row ∧
    (oldHistoryLayout.decode bytes).1[i]? = some o ∧ HoldsOld o row

theorem keepsRow_iff {bytes : List UInt8} {i : Nat}
    (hsize : bytes.length = oldHistoryLayout.size) (hi : i < 9) :
    KeepsRow b nvs bytes i ↔ ReadsAlike (Entry.layout.decode (bytes.drop (i * 180)))
      (OldEntry.layout.decode (bytes.drop (i * 84))) := by
  have hmax : i < resetHistoryMax := Nat.lt_succ_of_lt hi
  -- whatever the row of the present boot is, the others have moved by one
  have hrow : ∀ row, ((sanitizeBlob (historyLayout.decode bytes)).push row).1[i + 1]?
      = some (sanitizeRow (Entry.layout.decode (bytes.drop (i * 180)))) := by
    intro row
    rw [getElem?_push hi]
    show ((historyLayout.decode bytes).1.map sanitizeRow)[i]? = _
    rw [List.getElem?_map, getElem?_historyLayout hmax, Option.map_some]
  rw [KeepsRow, storedHistory_recordBoot, readHistory_old hsize, getElem?_oldHistoryLayout hmax,
    ← holdsOld_sanitizeRow_iff]
  constructor
  · rintro ⟨hist, row, o, hhist, hat, ho, hholds⟩
    obtain rfl := Option.some.inj hhist
    obtain rfl := Option.some.inj ho
    rw [hrow, Option.some.injEq] at hat
    exact hat ▸ hholds
  · intro hholds
    exact ⟨_, _, _, rfl, hrow _, rfl, hholds⟩

/-- **Migration of the history.** From every blob of the first firmware, the rows behind that of
    the present boot hold its rows, the oldest one dropped, if and only if the bytes at 180, 360
    and so on read as those at 84, 168 and so on do: the rows are never converted. -/
theorem migration_iff (b : Boot) (nvs : Items)
    (blob : { bytes : List UInt8 // bytes.length = oldHistoryLayout.size }) :
    (∀ i < 9, KeepsRow b nvs blob.1 i) ↔
      ∀ i < 9, ReadsAlike (Entry.layout.decode (blob.1.drop (i * 180)))
        (OldEntry.layout.decode (blob.1.drop (i * 84))) :=
  forall₂_congr fun _ hi => keepsRow_iff blob.2 hi

/-- The bytes of a history with two rows do not: the second reason is read from the end of the
    third one, which is a null byte for every reason of less than 13 characters. -/
theorem two_rows_misread {bytes : List UInt8}
    (hsecond : (OldEntry.layout.decode (bytes.drop 84)).reason.text ≠ .empty)
    (hthird : byteAt bytes 184 = 0) :
    ¬ ReadsAlike (Entry.layout.decode (bytes.drop 180))
      (OldEntry.layout.decode (bytes.drop 84)) := by
  rintro ⟨-, hreason, -, -⟩
  -- byte 4 of the row at 180
  have hempty : (Entry.layout.decode (bytes.drop 180)).reason.text.bytes = [] := by
    rw [← CharArray.isEmpty_iff, CharArray.isEmpty, beq_iff_eq]
    show byteAt ((List.range 16).map (byteAt ((bytes.drop 180).drop 4))) 0 = 0
    rw [List.drop_drop]
    show byteAt (bytes.drop 184) 0 = 0
    rw [byteAt, List.getD_eq_getElem?_getD, List.getElem?_drop, ← List.getD_eq_getElem?_getD]
    exact hthird
  have hnil := congrArg CText.bytes hreason
  rw [CText.bytes_take, hempty, List.take_nil, CText.bytes_take, eq_comm, List.take_eq_nil_iff]
    at hnil
  rcases hnil with h15 | hnil
  · exact absurd h15 (by decide)
  · exact hsecond (CText.ext hnil)

/-- A reason in an old row. -/
def oldRow (reason : String) : OldEntry :=
  ⟨1700000001, (CharArray.zero 16).strncpy (literal reason), .zero 64⟩

/-- A power-on and the restart after it, as the first firmware wrote them. -/
def twoRows : { rows : List OldEntry // rows.length = resetHistoryMax } :=
  ⟨oldRow "SW" :: oldRow "POWERON" :: List.replicate 8 ⟨0, .zero 16, .zero 64⟩, rfl⟩

/-- The older row is lost. -/
theorem old_history_garbled :
    ¬ ∀ (b : Boot) (nvs : Items)
        (blob : { bytes : List UInt8 // bytes.length = oldHistoryLayout.size }),
      ∀ i < 9, KeepsRow b nvs blob.1 i := by
  intro h
  have hkeeps := h ⟨literal "", false, .powerOn, 0⟩ (fun _ => none)
    ⟨oldHistoryLayout.encode twoRows, oldHistoryLayout.length_encode _⟩ 1 (by decide)
  rw [keepsRow_iff (oldHistoryLayout.length_encode _) (by decide)] at hkeeps
  exact two_rows_misread (by decide +kernel) (by decide +kernel) hkeeps

end SubnetRouter.ResetHistory
