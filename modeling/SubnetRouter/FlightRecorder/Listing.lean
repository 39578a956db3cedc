import SubnetRouter.FlightRecorder.Card

namespace SubnetRouter.FlightRecorder

open Lib

/-!
# The list of log files (`sdlog_list_files`)

The function takes the first log files that the directory gives it, as many as there is room for,
and sorts those.

* `sdlogListFiles` — the code.
* `newestFiles` — what should be listed.
* `list_exact_iff` — when it is.
-/

/-! ### The code -/

/-- `sdlog_file_info_t`. Size and time come from `stat`, which may fail for a file that is
    listed. -/
structure FileInfo where
  name : Name
  size : UInt32
  mtime : UInt32
deriving DecidableEq

/-- What a call finds: whether there is an array, the card is there, the mutex comes free in time
    and the directory can be opened; the card; and what the two `stat` calls say of a file. -/
structure ListAccess where
  out : Bool
  present : Bool
  taken : Bool
  opens : Bool
  card : Card
  statSize : Name → Option UInt32
  statMtime : Name → Option UInt32

namespace ListAccess

/-- The entry of a file. -/
def info (a : ListAccess) (f : File) : FileInfo where
  name := copyName f.name
  size := (a.statSize (copyName f.name)).getD 0
  mtime := (a.statMtime (copyName f.name)).getD 0

/-- The loop over the directory, with so many entries left. Entries that are no logs do not count
    against the room. -/
def fill (a : ListAccess) : List File → Nat → List FileInfo
  | [], _ => []
  | _ :: _, 0 => []
  | f :: files, room + 1 =>
    if f.isLog then a.info f :: a.fill files room else a.fill files (room + 1)

/-- `sdlog_list_files`; `none` is -1. A directory that cannot be opened gives an empty list, as one
    without logs does. -/
def sdlogListFiles (a : ListAccess) (maxEntries : Int) : Option (List FileInfo) :=
  if !a.out || maxEntries ≤ 0 then none
  else if !a.present then none
  else if !a.taken then none
  else
    let filled := if a.opens then a.fill a.card.files maxEntries.toNat else []
    some (if 1 < filled.length then newestFirst (fun i => fold i.name) filled else filled)

/-- The log files with the largest names, at most so many, in descending order. -/
def newestFiles (a : ListAccess) (maxEntries : Nat) : List FileInfo :=
  ((newestFirst File.key a.card.logs).take maxEntries).map a.info

/-! ### What is listed -/

variable {a : ListAccess} {maxEntries : Int}

/-- The first log files are entered. -/
theorem fill_eq (a : ListAccess) (files : List File) (room : Nat) :
    a.fill files room = ((files.filter File.isLog).take room).map a.info := by
  induction files generalizing room with
  | nil => simp [fill]
  | cons f files ih =>
    cases room with
    | zero => simp [fill]
    | succ room =>
      rw [fill]
      by_cases hlog : f.isLog = true
      · rw [if_pos hlog, List.filter_cons_of_pos hlog, List.take_succ_cons, List.map_cons, ih]
      · rw [if_neg hlog, List.filter_cons_of_neg hlog, ih]

/-- An entry has the name of its file. -/
theorem fold_info {f : File} (h : f ∈ a.card.logs) : fold (a.info f).name = f.key := by
  rw [info, copyName_of_short (a.card.short f (Card.mem_logs.mp h).1)]
  rfl

/-- Sorting the entries is sorting the files. -/
theorem newestFirst_info {files : List File} (h : files ⊆ a.card.logs) :
    newestFirst (fun i => fold i.name) (files.map a.info) =
      (newestFirst File.key files).map a.info := by
  refine (List.map_mergeSort fun f hf g hg => ?_).symm
  show decide (g.key ≤ f.key) = decide (fold (a.info g).name ≤ fold (a.info f).name)
  rw [fold_info (h hf), fold_info (h hg)]

/-- One entry at most is sorted. -/
theorem newestFirst_of_short (l : List FileInfo) :
    (if 1 < l.length then newestFirst (fun i => fold i.name) l else l) =
      newestFirst (fun i => fold i.name) l := by
  split_ifs with hlen
  · rfl
  · cases l with
    | nil => exact List.mergeSort_nil.symm
    | cons i l =>
      cases l with
      | nil => exact (List.mergeSort_singleton i).symm
      | cons j l => exact absurd (by simp) hlen

/-- A call is not turned away. These are its arguments, the card and the mutex; whether the
    directory opens is not among them. -/
structure Served (a : ListAccess) (maxEntries : Int) : Prop where
  out : a.out = true
  entries : 0 < maxEntries
  present : a.present = true
  taken : a.taken = true

/-- What such a call returns. -/
theorem sdlogListFiles_eq (h : a.Served maxEntries) :
    a.sdlogListFiles maxEntries = some (if a.opens then
      (newestFirst File.key (a.card.logs.take maxEntries.toNat)).map a.info else []) := by
  have hpos : ¬ maxEntries ≤ 0 := not_le.mpr h.entries
  simp only [sdlogListFiles, h.out, h.present, h.taken, hpos, Bool.not_true, Bool.false_or,
    decide_false, Bool.false_eq_true, if_false, newestFirst_of_short]
  cases a.opens with
  | false => exact congrArg some List.mergeSort_nil
  | true =>
    rw [if_pos rfl, if_pos rfl, fill_eq]
    exact congrArg some (newestFirst_info (List.take_subset _ _))

/-- The names of entries, as the FAT tells them apart. -/
theorem map_fold_info {files : List File} (h : files ⊆ a.card.logs) :
    (files.map a.info).map (fun i => fold i.name) = files.map File.key := by
  rw [List.map_map]
  exact List.map_congr_left fun f hf => fold_info (h hf)

/-- Where the newest files are listed, those beyond the first so many are older. -/
theorem older_of_eq {n : Nat}
    (heq : (newestFirst File.key (a.card.logs.take n)).map a.info = a.newestFiles n) :
    ∀ f ∈ a.card.logs.drop n, ∀ g ∈ a.card.logs.take n, f.key < g.key := by
  have hkeys := congrArg (List.map fun i : FileInfo => fold i.name) heq
  rw [newestFiles, map_fold_info, map_fold_info] at hkeys
  · exact lt_of_newestFirst_take a.card.distinct_logs hkeys
  · exact fun f hf => (perm_newestFirst _ _).subset (List.mem_of_mem_take hf)
  · exact fun f hf => List.mem_of_mem_take ((perm_newestFirst _ _).subset hf)

/-- **The newest files** are listed exactly if the directory can be opened, or has no log files, and
    each log file that it gives beyond the first `max_entries` is older than those. -/
theorem list_exact_iff (a : ListAccess) (maxEntries : Int) :
    (a.Served maxEntries → a.sdlogListFiles maxEntries = some (a.newestFiles maxEntries.toNat)) ↔
      (a.Served maxEntries → (a.opens = true ∨ a.card.logs = []) ∧
        ∀ f ∈ a.card.logs.drop maxEntries.toNat, ∀ g ∈ a.card.logs.take maxEntries.toNat,
          f.key < g.key) := by
  refine imp_congr_right fun h => ?_
  have hperm := perm_newestFirst File.key a.card.logs
  rw [sdlogListFiles_eq h, Option.some.injEq]
  -- With an open directory, the list kept by insertion is the newest part of the sorted one.
  cases hopens : a.opens with
  | true =>
    rw [if_pos rfl, and_iff_right (.inl rfl)]
    refine ⟨older_of_eq, fun hlt => ?_⟩
    rw [newestFirst_take a.card.distinct_logs hlt, newestFiles]
  -- With none, nothing is listed, which is right only if there is nothing to list.
  | false =>
    rw [if_neg Bool.false_ne_true, newestFiles, eq_comm, List.map_eq_nil_iff, List.take_eq_nil_iff]
    have hpos := h.entries
    have hzero : ¬ maxEntries.toNat = 0 := by omega
    rw [or_iff_right hzero, or_iff_right Bool.false_ne_true]
    constructor
    · intro hnil
      rw [hnil] at hperm
      have hlogs := hperm.symm.eq_nil
      rw [hlogs]
      exact ⟨rfl, by simp⟩
    · rintro ⟨hlogs, -⟩
      rw [hlogs]
      exact List.mergeSort_nil

/-- Two log files, the older one first in the directory. -/
def twoLogs : Card where
  files := [⟨logName 1, false, []⟩, ⟨logName 2, false, []⟩]
  distinct := by decide
  short := by decide

/-- Where there is room for one the older one is listed. -/
theorem oldest_listed :
    ¬ ∀ (a : ListAccess) (maxEntries : Int), a.Served maxEntries →
      a.sdlogListFiles maxEntries = some (a.newestFiles maxEntries.toNat) := by
  intro h
  let a : ListAccess := ⟨true, true, true, true, twoLogs, fun _ => none, fun _ => none⟩
  have hserved : a.Served 1 := ⟨rfl, by decide, rfl, rfl⟩
  have heq := h a 1 hserved
  rw [sdlogListFiles_eq hserved, Option.some.injEq] at heq
  have hlt := older_of_eq heq ⟨logName 2, false, []⟩ (by decide) ⟨logName 1, false, []⟩ (by decide)
  revert hlt
  decide

end ListAccess

end SubnetRouter.FlightRecorder
