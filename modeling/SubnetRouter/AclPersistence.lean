import SubnetRouter.AclRules

namespace SubnetRouter.Acl

open Lib Settings

/-!
# Saved rules and the next boot (`components/acl/acl_nvs.c`)

`save_acl_rules` writes the four lists under their own keys and commits; each write puts its
result where the one before has put its own, and the commit comes last.  `load_acl_rules` reads
each list by itself and leaves the list empty where it cannot.

* `Restored` — the next boot has the rules of a list, with their counters at zero.
* `restored_iff` — when it has, once the list is written.
* `Truthful` — `ESP_OK` means that all lists are written, and restored.
* `save_truthful_iff` — when a save is.
-/

/-- The rules of a list, in order. -/
def AclList.validEntries (l : AclList) : List AclEntry := l.entries.filter AclEntry.valid

/-- A boot: the lists are not kept, the blobs are. -/
def reboot (s : AclStore) : AclStore := ⟨aclInit, fun _ => 0, s.nvs⟩

/-- How the calls of NVS go in a save and in the load of the next boot. Each list has a key of its
    own, so writing and reading may fail for some of the lists only. -/
structure NvsResults where
  openResult : EspErr
  setResult : Fin maxAclLists → EspErr
  commitResult : EspErr
  loadOpenResult : EspErr
  getResult : Fin maxAclLists → EspErr

/-- A save. -/
def NvsResults.save (r : NvsResults) (s : AclStore) : EspErr × AclStore :=
  saveAclRules s r.openResult r.setResult r.commitResult

/-- A boot and its load. -/
def NvsResults.boot (r : NvsResults) (s : AclStore) : AclStore :=
  loadAclRules (reboot s) r.loadOpenResult r.getResult

/-- The list can be read at the boot. -/
def NvsResults.Readable (r : NvsResults) (n : Fin maxAclLists) : Prop :=
  r.loadOpenResult = espOk ∧ r.getResult n = espOk

/-- The boot after a save has the rules of the list, in their order, with no hits. -/
def Restored (s : AclStore) (r : NvsResults) (n : Fin maxAclLists) : Prop :=
  ((r.boot (r.save s).2).lists n).validEntries = (s.lists n).validEntries.map AclEntry.resetHits

/-- A save that returns `ESP_OK` has written all lists and committed them, and the next boot
    restores them. -/
def Truthful (s : AclStore) (r : NvsResults) : Prop :=
  (r.save s).1 = espOk →
    (∀ n, r.setResult n = espOk) ∧ r.commitResult = espOk ∧ ∀ n, Restored s r n

variable {s : AclStore} {r : NvsResults} {n : Fin maxAclLists} {es : List AclEntry}

/-! ### The rules of a list -/

theorem validEntries_aclInit (n : Fin maxAclLists) : (aclInit n).validEntries = [] := by
  rw [AclList.validEntries, List.filter_eq_nil_iff]
  intro e he
  rw [List.eq_of_mem_replicate he]
  decide

/-- Counters do not tell a rule from an unused slot. -/
theorem filter_valid_map (es : List AclEntry) :
    (es.map fun e => if e.valid then e.resetHits else e).filter AclEntry.valid =
      (es.filter AclEntry.valid).map AclEntry.resetHits := by
  induction es with
  | nil => rfl
  | cons e es ih =>
    rw [List.map_cons]
    by_cases hvalid : e.valid = true
    · have hreset : e.resetHits.valid = true := hvalid
      rw [if_pos hvalid, List.filter_cons_of_pos hreset, List.filter_cons_of_pos hvalid,
        List.map_cons, ih]
    · rw [if_neg hvalid, List.filter_cons_of_neg hvalid, List.filter_cons_of_neg hvalid, ih]

/-! ### A save and a boot -/

theorem save_fst_eq_ok_iff :
    (r.save s).1 = espOk ↔ r.openResult = espOk ∧ r.commitResult = espOk := by
  rw [NvsResults.save, saveAclRules]
  split_ifs with hopen
  · exact ⟨fun h => absurd h hopen, fun h => absurd h.1 hopen⟩
  · exact ⟨fun h => ⟨not_not.mp hopen, h⟩, And.right⟩

/-- A list that could be written is the one that is stored. -/
theorem nvs_save (hopen : r.openResult = espOk) (hset : r.setResult n = espOk) :
    (r.save s).2.nvs n = some ⟨(s.lists n).entries, (s.lists n).entries_length⟩ := by
  rw [NvsResults.save, saveAclRules, if_neg (not_not.mpr hopen)]
  exact if_pos hset

/-- **One list.** A list that is written is restored exactly if it can be read, or has no rules. A
    list that cannot be read comes back empty. -/
theorem restored_iff (hopen : r.openResult = espOk) (hset : r.setResult n = espOk) :
    Restored s r n ↔ ((s.lists n).validEntries ≠ [] → r.Readable n) := by
  have hstored : (reboot (r.save s).2).nvs n =
      some ⟨(s.lists n).entries, (s.lists n).entries_length⟩ := nvs_save hopen hset
  rw [Restored, NvsResults.boot]
  by_cases hread : r.Readable n
  · -- the blob is the array of the save
    refine iff_of_true ?_ fun _ => hread
    rw [loadAclRules, if_neg (not_not.mpr hread.1)]
    dsimp only
    rw [hstored]
    dsimp only
    rw [if_pos hread.2]
    exact filter_valid_map _
  · have hempty : (loadAclRules (reboot (r.save s).2) r.loadOpenResult r.getResult).lists n =
        aclInit n := by
      rw [loadAclRules]
      split_ifs with hload
      · rfl
      · dsimp only
        rw [hstored]
        exact if_neg fun hget => hread ⟨not_not.mp hload, hget⟩
    rw [hempty, validEntries_aclInit]
    constructor
    · exact fun heq hne => absurd (List.map_eq_nil_iff.mp heq.symm) hne
    · intro hrules
      rw [not_imp_comm.mp (fun hne => hrules hne) hread, List.map_nil]

/-- **Saves are truthful** exactly if, whenever NVS can be opened and committed, all four lists can
    be written, and those with rules be read at the next boot. -/
theorem save_truthful_iff (s : AclStore) (r : NvsResults) : Truthful s r ↔
    (r.openResult = espOk → r.commitResult = espOk →
      ∀ n, r.setResult n = espOk ∧ ((s.lists n).validEntries ≠ [] → r.Readable n)) := by
  rw [Truthful, save_fst_eq_ok_iff]
  constructor
  · intro h hopen hcommit n
    obtain ⟨hset, -, hrestored⟩ := h ⟨hopen, hcommit⟩
    exact ⟨hset n, (restored_iff hopen (hset n)).mp (hrestored n)⟩
  · rintro h ⟨hopen, hcommit⟩
    have hlists := h hopen hcommit
    exact ⟨fun n => (hlists n).1, hcommit,
      fun n => (restored_iff hopen (hlists n).1).mpr (hlists n).2⟩

/-- NVS is full when the first list is written. -/
def firstListFails : NvsResults where
  openResult := espOk
  setResult n := if n = aclToEsp then 0x1105 else espOk
  commitResult := espOk
  loadOpenResult := espOk
  getResult _ := espOk

/-- The error of the first list is lost: the save returns `ESP_OK`. -/
theorem lost_error : ¬ ∀ (s : AclStore) (r : NvsResults), Truthful s r := by
  intro h
  have hwritten := (h ⟨aclInit, fun _ => 0, fun _ => none⟩ firstListFails rfl).1 aclToEsp
  revert hwritten
  decide

end SubnetRouter.Acl
