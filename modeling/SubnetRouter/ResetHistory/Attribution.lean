import SubnetRouter.Lib.Run
import SubnetRouter.ResetHistory.Record

namespace SubnetRouter.ResetHistory

open Lib Nvs

/-!
# Who asked for a restart

`reset_history_note_restart` leaves a name in NVS for the next boot.  The boot reads it when the
reset was a software restart, and erases it when it was not: a name that was read stays, and is
read again by the boot after the next software restart, whoever asked for that one.

* `Ending`, `Cycle` — how a boot ends, and the boot after it.
* `Attributed` — the row of a boot names the call that caused it, if any.
* `attributed_iff`, `attribution_iff` — the boots, and the runs, whose rows do so.
-/

/-! ### Boots in a row -/

/-- How a boot ends. Whoever ends it is what the next boot should find. -/
inductive Ending where
  /-- `reset_history_note_restart(who)`. -/
  | noteRestart (who : Option CText)
  /-- `esp_restart`, called by someone else. -/
  | restart
  /-- A panic, a watchdog, a power cycle. -/
  | reset
  /-- One of these after the name was written and before the restart. -/
  | cutShort (who : Option CText)
deriving DecidableEq

/-- The end of a boot, and what the next one finds. How the boot ended and the reason that the chip
    reports are tied together for a software restart only. -/
structure Cycle where
  ending : Ending
  boot : Boot
  /-- Only a software restart is reported as one. -/
  software : boot.reason = .sw → (∃ who, ending = .noteRestart who) ∨ ending = .restart

/-- What a boot leaves in NVS. Only `reset_history_note_restart` writes the name, whether the
    restart then follows or not. -/
def Ending.leave (nvs : Items) : Ending → Items
  | noteRestart who => resetHistoryNoteRestart who nvs
  | cutShort who => resetHistoryNoteRestart who nvs
  | restart => nvs
  | reset => nvs

/-- The boots as a machine; all NVS calls succeed. -/
def machine : Machine Items Cycle :=
  ⟨fun nvs c => some (resetHistoryRecordBoot true c.boot (c.ending.leave nvs))⟩

/-- The row that the last boot has added. -/
def newestRow (nvs : Items) : Option Entry := (storedHistory nvs).bind fun hist => hist.1.head?

/-- The row of the boot names nobody, or the call that caused it, as far as the name fits. A call
    without a name is entered as `?`. -/
def Attributed (nvs : Items) (c : Cycle) : Prop :=
  ∀ row ∈ newestRow (resetHistoryRecordBoot true c.boot (c.ending.leave nvs)),
    row.who.text ≠ .empty →
      ∃ who, c.ending = .noteRestart who ∧
        ((who.getD (literal "?")).bytes.length ≤ 31 → row.who.text = who.getD (literal "?"))

/-- The name that a boot after a software restart reads. -/
def nameRead (nvs : Items) : CText := (getStr nvs keyWho 64).getD .empty

/-- When nobody has noted the restart, no name is there to be read. -/
def NoStaleName (nvs : Items) (c : Cycle) : Prop :=
  c.ending = .restart → c.boot.reason = .sw → nameRead nvs = .empty

instance (nvs : Items) (c : Cycle) : Decidable (NoStaleName nvs c) :=
  inferInstanceAs (Decidable (_ → _))

/-! ### One boot -/

variable {nvs : Items} {b : Boot} {c : Cycle}

/-- The name of a boot's row, before it is cut. -/
theorem who_classifyReset (b : Boot) (nvs : Items) :
    (classifyReset b nvs).2.1 = if b.reason = .sw then nameRead nvs else .empty := by
  have hkey : keyWho ≠ keyAppsha := by decide
  unfold classifyReset nameRead
  dsimp only
  split_ifs
  · rw [getStr_congr (setStr_of_ne hkey)]
  · rfl
  · rfl

/-- The row of a boot names who was read, cut to its column. -/
theorem who_newestRow (b : Boot) (nvs : Items) :
    ∃ row, newestRow (resetHistoryRecordBoot true b nvs) = some row ∧
      row.who.text = (if b.reason = .sw then nameRead nvs else .empty).take 31 := by
  refine ⟨bootRow b (classifyReset b nvs).1 (classifyReset b nvs).2.1, ?_, ?_⟩
  · rw [newestRow, storedHistory_recordBoot]
    rfl
  · rw [← who_classifyReset]
    ext1
    exact CharArray.bytes_text_strncpy (CharArray.drop_zero 31)

theorem take_eq_empty_iff {s : CText} {n : Nat} (hn : 0 < n) : s.take n = .empty ↔ s = .empty := by
  rw [CText.ext_iff, CText.ext_iff, CText.bytes_take, CText.bytes_empty, List.take_eq_nil_iff]
  have hne : ¬ n = 0 := by omega
  simp [hne]

/-- A name that was noted is read if it has less than 64 characters. -/
theorem nameRead_noteRestart (who : Option CText) (nvs : Items) :
    nameRead (resetHistoryNoteRestart who nvs) =
      if (who.getD (literal "?")).bytes.length < 64 then who.getD (literal "?") else .empty := by
  rw [nameRead, resetHistoryNoteRestart, getStr_of_eq setStr_self]
  split_ifs <;> rfl

/-- **One boot.** Its row is attributed exactly if no other name is there to be read: the key may
    still have the one of an earlier call. -/
theorem attributed_iff (nvs : Items) (c : Cycle) : Attributed nvs c ↔ NoStaleName nvs c := by
  obtain ⟨row, hrow, hwho⟩ := who_newestRow c.boot (c.ending.leave nvs)
  have hone : Attributed nvs c ↔ (row.who.text ≠ .empty → ∃ who, c.ending = .noteRestart who ∧
      ((who.getD (literal "?")).bytes.length ≤ 31 →
        row.who.text = who.getD (literal "?"))) := by
    simp only [Attributed, hrow, Option.mem_some_iff, forall_eq']
  rw [hone, NoStaleName]
  by_cases hsw : c.boot.reason = .sw
  · rw [if_pos hsw] at hwho
    rcases c.software hsw with ⟨who, hending⟩ | hending
    · -- the name is that of the call
      have hnot : ¬ Ending.noteRestart who = .restart := by simp
      simp only [hending, hnot, false_imp_iff, iff_true]
      intro _
      refine ⟨who, rfl, fun hfits => ?_⟩
      have hlt : (who.getD (literal "?")).bytes.length < 64 := by omega
      rw [hwho, hending, Ending.leave, nameRead_noteRestart, if_pos hlt]
      ext1
      exact List.take_of_length_le hfits
    · -- the name is one that has stayed
      rw [hwho, hending, Ending.leave, ne_eq, take_eq_empty_iff (by decide)]
      simp [hsw]
  · -- nothing was read
    rw [if_neg hsw] at hwho
    refine iff_of_true (fun hne => ?_) fun _ h => absurd h hsw
    exact absurd hwho hne

/-- What stays for the next boot: the name, unless the reset was no software restart. -/
theorem who_recordBoot (b : Boot) (nvs : Items) :
    resetHistoryRecordBoot true b nvs keyWho = if b.reason = .sw then nvs keyWho else none := by
  have hblob : keyWho ≠ keyBlob := by decide
  have hcount : keyWho ≠ keyCount := by decide
  have hlast : keyWho ≠ keyLast := by decide
  have hsha : keyWho ≠ keyAppsha := by decide
  simp only [resetHistoryRecordBoot, Bool.not_true, Bool.false_eq_true, if_false, classifyReset]
  rw [setBlob_of_ne hblob, setI32_of_ne hcount, setStr_of_ne hlast]
  by_cases hsw : b.reason = .sw
  · -- nothing is erased, and the hash has a key of its own
    rw [if_neg (not_not.mpr hsw), if_pos hsw]
    split_ifs
    · exact setStr_of_ne hsha
    · rfl
  · rw [if_pos hsw, if_neg hsw, erase_self]

/-- So a restart that nobody has noted is put down to the one before it that somebody had. -/
theorem stale_after_noteRestart {who : CText} (hwho : who ≠ .empty)
    (hfits : who.bytes.length < 64) (hnoted : c.ending = .noteRestart (some who))
    (hsw : c.boot.reason = .sw) {c' : Cycle} (hrestart : c'.ending = .restart)
    (hsw' : c'.boot.reason = .sw) :
    ¬ NoStaleName (resetHistoryRecordBoot true c.boot (c.ending.leave nvs)) c' := by
  intro h
  have hstays : nameRead (resetHistoryRecordBoot true c.boot (c.ending.leave nvs)) = who := by
    have hkey := who_recordBoot c.boot (c.ending.leave nvs)
    rw [if_pos hsw] at hkey
    rw [nameRead, getStr_congr hkey, ← nameRead, hnoted, Ending.leave, nameRead_noteRestart]
    exact if_pos hfits
  exact hwho (hstays ▸ h hrestart hsw')

/-- **Attribution.** In every sequence of boots, from whatever is in NVS, all rows are attributed
    if and only if each software restart that nobody has noted finds no name. -/
theorem attribution_iff (nvs : Items) (cycles : List Cycle) :
    machine.Meets Attributed nvs cycles ↔ machine.Meets NoStaleName nvs cycles :=
  Machine.meets_congr attributed_iff

/-- A boot after a software restart. -/
def restarted : Boot := ⟨literal "", false, .sw, 0⟩

/-- An update is installed from the web page, and later the device is restarted over MQTT. -/
def updateThenRestart : List Cycle :=
  [⟨.noteRestart (some (literal "web ota")), restarted, fun _ => .inl ⟨_, rfl⟩⟩,
    ⟨.restart, restarted, fun _ => .inr rfl⟩]

/-- The second restart is put down to the update. -/
theorem restart_put_down_to_update :
    ¬ ∀ (nvs : Items) (cycles : List Cycle), machine.Meets Attributed nvs cycles := by
  intro h
  obtain ⟨-, hsecond⟩ := h (fun _ => none) updateThenRestart
  have hstale := (attributed_iff _ _).mp (hsecond _ rfl).1
  exact stale_after_noteRestart (by decide +kernel) (by decide +kernel) rfl rfl rfl rfl hstale

end SubnetRouter.ResetHistory
