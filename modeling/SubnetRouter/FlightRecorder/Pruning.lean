import SubnetRouter.FlightRecorder.Card

namespace SubnetRouter.FlightRecorder

open Lib

/-!
# Pruning that does not end (`components/sdlog/sdlog.c`)

`prune_old_files` scans the directory again until no more than `s_max_files` log files are left.
Nothing else ends it: not an `unlink` that fails, and not a name that does not fit into `oldest`,
of which `unlink` is then given a part.

* `Directory` — log files with names of any length; `Directory.pruneOldFiles` with the results of
  `opendir` and `unlink`.
* `isSome_pruneOldFiles_iff` — when it has returned after so many rounds.
* `returns_iff` — when it returns.
* `pruneOldFiles_directory` — on a card whose `unlink` always succeeds it is what it is there.
-/

/-- The log directory, with names that differ in more than case. -/
structure Directory where
  files : List File
  distinct : (files.map File.key).Nodup

/-- A card is such a directory. -/
def Card.directory (card : Card) : Directory := ⟨card.files, card.distinct⟩

namespace Directory

/-- The log files. -/
def logs (dir : Directory) : List File := dir.files.filter File.isLog

/-- `unlink`, when it succeeds. -/
def unlink (dir : Directory) (name : Name) : Directory where
  files := dir.files.filter fun f => f.key ≠ fold name
  distinct := dir.distinct.sublist (List.filter_sublist.map _)

/-- The scan. -/
def oldest (dir : Directory) : Option Name := (dir.logs.map File.name).foldl Card.scan none

/-- `prune_old_files`, for so many rounds: whether `opendir` and `unlink` succeed in each of them.
    `none` if it has not returned by then. -/
def pruneOldFiles (maxFiles : Nat) : Nat → (Nat → Bool) → (Nat → Bool) → Directory →
    Option Directory
  | 0, _, _, _ => none
  | rounds + 1, opens, unlinks, dir =>
    if !opens 0 then some dir
    else if dir.logs.length ≤ maxFiles then some dir
    else
      match dir.oldest with
      | none => some dir
      | some name =>
        pruneOldFiles maxFiles rounds (fun i => opens (i + 1)) (fun i => unlinks (i + 1))
          (if unlinks 0 then dir.unlink name else dir)

/-- It returns. -/
def Returns (maxFiles : Nat) (opens unlinks : Nat → Bool) (dir : Directory) : Prop :=
  ∃ rounds, (pruneOldFiles maxFiles rounds opens unlinks dir).isSome = true

/-- How many log files there are too many. -/
def excess (maxFiles : Nat) (dir : Directory) : Nat := dir.logs.length - maxFiles

/-- The names of the log files that are to be removed fit into `oldest`. -/
def Removable (maxFiles : Nat) (dir : Directory) : Prop :=
  ∀ f ∈ dir.logs, below File.key f dir.logs < dir.excess maxFiles → f.name.length < sdlogNameMax

/-! ### The scan -/

variable {dir : Directory} {f g : File} {maxFiles rounds : Nat} {opens unlinks : Nat → Bool}
  {a b : Name} {n : Nat}

/-- Parts of names that differ come from names in the same order. -/
theorem lt_of_take_lt_take (h : a.take n < b.take n) : a < b := by
  induction n generalizing a b with
  | zero => simp at h
  | succ n ih =>
    cases b with
    | nil => simp at h
    | cons d b =>
      cases a with
      | nil => exact List.nil_lt_cons _ _
      | cons c a =>
        rw [List.take_succ_cons, List.take_succ_cons, List.cons_lt_cons_iff] at h
        exact List.cons_lt_cons_iff.mpr (h.imp_right fun h => ⟨h.1, ih h.2⟩)

/-- A comparison with a part of a name looks at that part only. -/
theorem lt_take_iff : a < b.take n ↔ a.take n < b.take n := by
  induction n generalizing a b with
  | zero => simp
  | succ n ih =>
    cases b with
    | nil => simp
    | cons d b =>
      cases a with
      | nil => simp
      | cons c a =>
        rw [List.take_succ_cons, List.take_succ_cons, List.cons_lt_cons_iff,
          List.cons_lt_cons_iff, ih]

theorem fold_copyName (name : Name) : fold (copyName name) = (fold name).take (sdlogNameMax - 1) :=
  List.map_take

/-- The part of a name that `oldest` has room for, as the FAT tells names apart. -/
def room (f : File) : Name := f.key.take (sdlogNameMax - 1)

/-- One entry of the scan, up to case. -/
def scanKey (oldest : Option Name) (k : Name) : Option Name :=
  match oldest with
  | none => some k
  | some o => if k < o then some k else some o

theorem map_fold_scan {oldest : Option Name} (ho : ∀ o ∈ oldest, ∃ name, o = copyName name)
    (name : Name) : (Card.scan oldest name).map fold =
      scanKey (oldest.map fold) ((fold name).take (sdlogNameMax - 1)) := by
  cases oldest with
  | none => exact congrArg some (fold_copyName name)
  | some o =>
    obtain ⟨other, rfl⟩ := ho o rfl
    have hlt : strcaseLt name (copyName other) = true ↔
        (fold name).take (sdlogNameMax - 1) < fold (copyName other) := by
      rw [strcaseLt_iff, fold_copyName, lt_take_iff]
    rw [Card.scan, Option.map_some, scanKey]
    by_cases h : strcaseLt name (copyName other) = true
    · rw [if_pos h, if_pos (hlt.mp h), Option.map_some, fold_copyName]
    · rw [if_neg h, if_neg (mt hlt.mpr h), Option.map_some]

/-- **The scan** ends with what `oldest` has room for of the smallest name. Names are compared as
    they were copied, so two long ones may look alike. -/
theorem fold_oldest (dir : Directory) : dir.oldest.map fold =
    (smallest File.key dir.logs).map room := by
  -- The smallest name so far is a copy of some name, cut to the size of `oldest`.
  have hcopies : ∀ (names : List Name) (oldest : Option Name),
      (∀ o ∈ oldest, ∃ name, o = copyName name) → (names.foldl Card.scan oldest).map fold =
        (names.map fun name => (fold name).take (sdlogNameMax - 1)).foldl scanKey
          (oldest.map fold) := by
    intro names
    induction names with
    | nil => exact fun _ _ => rfl
    | cons name names ih =>
      intro oldest ho
      rw [List.foldl_cons, List.map_cons, List.foldl_cons, ← map_fold_scan ho]
      refine ih _ fun o' ho' => ?_
      cases oldest with
      | none => exact ⟨name, (Option.some.inj ho').symm⟩
      | some o =>
        rw [Card.scan] at ho'
        split_ifs at ho'
        · exact ⟨name, (Option.some.inj ho').symm⟩
        · exact ho o' ho'
  have hnone : ∀ o ∈ (none : Option Name), ∃ name, o = copyName name := by simp
  rw [oldest, hcopies _ none hnone, List.map_map]
  refine foldl_eq_smallest (g := room) (fun f _ => rfl) fun o _ f _ => ?_
  rw [scanKey]
  -- A strictly smaller copy is of a strictly smaller name; equal copies leave either of the two.
  by_cases hroom : room f < room o
  · rw [if_pos hroom, if_pos (lt_of_take_lt_take hroom)]
  · rw [if_neg hroom]
    by_cases hkey : f.key < o.key
    · have hback : ¬ room o < room f := fun h => lt_asymm hkey (lt_of_take_lt_take h)
      rw [if_pos hkey, le_antisymm (not_lt.mp hback) (not_lt.mp hroom)]
    · rw [if_neg hkey]

/-! ### A round -/

theorem mem_logs : f ∈ dir.logs ↔ f ∈ dir.files ∧ f.isLog = true := List.mem_filter

theorem distinct_logs (dir : Directory) : (dir.logs.map File.key).Nodup :=
  dir.distinct.sublist (List.filter_sublist.map _)

theorem length_key (f : File) : f.key.length = f.name.length := List.length_map _

/-- A name that fits is removed. -/
theorem logs_unlink_of_short {name : Name} (hname : fold name = room f)
    (hshort : f.name.length < sdlogNameMax) :
    (dir.unlink name).logs = without File.key f dir.logs := by
  have hroom : room f = f.key :=
    List.take_of_length_le (by rw [length_key]; exact Nat.le_pred_of_lt hshort)
  have hsame : without File.key f dir.logs = dir.logs.filter fun g => g.key ≠ fold name := by
    rw [hname, hroom]
    exact List.filter_congr fun g _ => decide_eq_decide.mpr Iff.rfl
  rw [hsame]
  exact List.filter_comm ..

/-- A part of a name comes before the name. -/
theorem room_lt (hlong : ¬ f.name.length < sdlogNameMax) : room f < f.key := by
  have htake : ∀ (k : Name) (n : Nat), n < k.length → k.take n < k := by
    intro k
    induction k with
    | nil => exact fun n hn => absurd hn (Nat.not_lt_zero n)
    | cons c k ih =>
      intro n hn
      cases n with
      | zero => exact List.nil_lt_cons _ _
      | succ n =>
        rw [List.take_succ_cons, List.cons_lt_cons_iff]
        exact .inr ⟨rfl, ih n (Nat.lt_of_succ_lt_succ hn)⟩
  refine htake f.key _ ?_
  rw [length_key]
  exact Nat.lt_of_lt_of_le (by decide) (Nat.le_of_not_lt hlong)

/-- The part of the smallest name is the name of no log file. -/
theorem logs_unlink_of_long {name : Name} (hname : fold name = room f)
    (hsmallest : smallest File.key dir.logs = some f) (hlong : ¬ f.name.length < sdlogNameMax) :
    (dir.unlink name).logs = dir.logs := by
  have hne : ∀ g ∈ dir.logs, g.key ≠ room f := by
    intro g hg heq
    have hle := smallest_le hsmallest hg
    rw [heq] at hle
    exact absurd (room_lt hlong) (not_lt.mpr hle)
  have hall : dir.logs.filter (fun g => g.key ≠ fold name) = dir.logs := by
    rw [List.filter_eq_self]
    intro g hg
    rw [hname]
    exact decide_eq_true (hne g hg)
  rw [← hall]
  exact List.filter_comm ..

/-- The log files after a round. -/
theorem logs_round (hsmallest : smallest File.key dir.logs = some f) {name : Name}
    (hname : fold name = room f) (unlinked : Bool) :
    (if unlinked then dir.unlink name else dir).logs =
      if unlinked = true ∧ f.name.length < sdlogNameMax then without File.key f dir.logs
      else dir.logs := by
  cases unlinked with
  | false => rfl
  | true =>
    by_cases hshort : f.name.length < sdlogNameMax
    · rw [if_pos rfl, if_pos ⟨rfl, hshort⟩]
      exact logs_unlink_of_short hname hshort
    · rw [if_pos rfl, if_neg fun h => hshort h.2]
      exact logs_unlink_of_long hname hsmallest hshort

/-- What remains to be removed after the smallest log file has been: one fewer, and just as
    removable as before. -/
theorem removable_without {dir' : Directory} (hsmallest : smallest File.key dir.logs = some f)
    (hlogs : dir'.logs = without File.key f dir.logs) (hpos : 0 < dir.excess maxFiles)
    (hshort : f.name.length < sdlogNameMax) :
    dir'.excess maxFiles = dir.excess maxFiles - 1 ∧
      (dir'.Removable maxFiles ↔ dir.Removable maxFiles) := by
  have hmem := smallest_mem hsmallest
  have hlen := (perm_cons_without dir.distinct_logs hmem).length_eq
  rw [List.length_cons] at hlen
  -- One log file fewer is left.
  have hexcess : dir'.excess maxFiles = dir.excess maxFiles - 1 := by
    rw [excess, excess, hlogs]
    omega
  refine ⟨hexcess, ?_⟩
  unfold Removable
  rw [hexcess, hlogs]
  -- The names above the smallest keep their rank but for one, as the number to remove does.
  constructor
  · intro h g hg hbelow
    by_cases hkey : g.key = f.key
    · rwa [← length_key, hkey, length_key]
    -- A name with another key is above the smallest.
    · have hlt : f.key < g.key :=
        lt_of_le_of_ne (smallest_le hsmallest hg) (Ne.symm hkey)
      rw [below_without dir.distinct_logs hmem hlt] at hbelow
      exact h g (mem_without.mpr ⟨hg, hkey⟩) (by omega)
  · intro h g hg hbelow
    obtain ⟨hg, hkey⟩ := mem_without.mp hg
    have hlt : f.key < g.key :=
      lt_of_le_of_ne (smallest_le hsmallest hg) (Ne.symm hkey)
    have hrank := below_without dir.distinct_logs hmem hlt
    exact h g hg (by omega)

/-- Only if its own name fits the smallest log file can be removed. -/
theorem short_of_removable (hsmallest : smallest File.key dir.logs = some f)
    (hpos : 0 < dir.excess maxFiles) (h : dir.Removable maxFiles) :
    f.name.length < sdlogNameMax := by
  refine h f (smallest_mem hsmallest) ?_
  rw [below_smallest hsmallest]
  exact hpos

/-- The first of several rounds. -/
theorem countP_range_succ (unlinks : Nat → Bool) (n : Nat) : (List.range (n + 1)).countP unlinks =
    (List.range n).countP (fun i => unlinks (i + 1)) + if unlinks 0 then 1 else 0 := by
  rw [List.range_succ_eq_map, List.countP_cons, List.countP_map]
  rfl

/-- What a round leaves to be done, and how often `unlink` must still succeed. A round whose
    `unlink` fails leaves everything to the others. -/
theorem round_iff (hsmallest : smallest File.key dir.logs = some f) {name : Name}
    (hname : fold name = room f) (hpos : 0 < dir.excess maxFiles) (unlinks : Nat → Bool)
    (n : Nat) :
    let next := if unlinks 0 then dir.unlink name else dir
    next.Removable maxFiles ∧
        next.excess maxFiles ≤ (List.range n).countP (fun i => unlinks (i + 1)) ↔
      dir.Removable maxFiles ∧ dir.excess maxFiles ≤ (List.range (n + 1)).countP unlinks := by
  intro next
  have hlogs := logs_round hsmallest hname (unlinks 0)
  rw [countP_range_succ]
  -- Two cases: the smallest file is really gone, or the directory is as it was.
  by_cases hremoved : unlinks 0 = true ∧ f.name.length < sdlogNameMax
  · rw [if_pos hremoved] at hlogs
    obtain ⟨hexcess, hremovable⟩ := removable_without hsmallest hlogs hpos hremoved.2
    rw [hremovable, hexcess, if_pos hremoved.1]
    exact and_congr_right fun _ => by omega
  · rw [if_neg hremoved] at hlogs
    have hsame : (next.Removable maxFiles ↔ dir.Removable maxFiles) ∧
        next.excess maxFiles = dir.excess maxFiles := by
      rw [Removable, Removable, excess, excess, hlogs]
      exact ⟨Iff.rfl, rfl⟩
    rw [hsame.1, hsame.2]
    refine and_congr_right fun h => ?_
    -- The name of a file that must be removable is not cut, so it is `unlink` that has failed.
    have hfailed : ¬ unlinks 0 = true := fun hu =>
      hremoved ⟨hu, short_of_removable hsmallest hpos h⟩
    rw [if_neg hfailed, Nat.add_zero]

/-! ### When it returns -/

/-- A round that is the last. -/
theorem pruneOldFiles_last (h : opens 0 = false ∨ dir.excess maxFiles = 0) (rounds : Nat) :
    pruneOldFiles maxFiles (rounds + 1) opens unlinks dir = some dir := by
  rw [pruneOldFiles]
  rcases h with hopen | hfew
  · rw [hopen]
    rfl
  · rw [excess] at hfew
    rw [if_pos (show dir.logs.length ≤ maxFiles by omega), ite_self]

/-- Any other round. -/
theorem pruneOldFiles_round (unlinks : Nat → Bool) (hopen : opens 0 = true)
    (hpos : 0 < dir.excess maxFiles) :
    ∃ f name, smallest File.key dir.logs = some f ∧ fold name = room f ∧ ∀ rounds,
      pruneOldFiles maxFiles (rounds + 1) opens unlinks dir =
        pruneOldFiles maxFiles rounds (fun i => opens (i + 1)) (fun i => unlinks (i + 1))
          (if unlinks 0 then dir.unlink name else dir) := by
  rw [excess] at hpos
  have hscan := fold_oldest dir
  cases hsmallest : smallest File.key dir.logs with
  | none =>
    rw [smallest_eq_none] at hsmallest
    rw [hsmallest, List.length_nil] at hpos
    omega
  | some f =>
    rw [hsmallest, Option.map_some, Option.map_eq_some_iff] at hscan
    obtain ⟨name, holdest, hname⟩ := hscan
    refine ⟨f, name, rfl, hname, fun rounds => ?_⟩
    rw [pruneOldFiles, hopen, Bool.not_true, if_neg Bool.false_ne_true, if_neg (by omega), holdest]

/-- It has returned after `n + 1` rounds exactly if the directory could not be opened in one of
    them, or every log file that is too many can be removed, and `unlink` has succeeded as often. -/
theorem isSome_pruneOldFiles_iff (maxFiles n : Nat) (opens unlinks : Nat → Bool)
    (dir : Directory) :
    (pruneOldFiles maxFiles (n + 1) opens unlinks dir).isSome = true ↔
      (∃ i ≤ n, opens i = false) ∨
        dir.Removable maxFiles ∧ dir.excess maxFiles ≤ (List.range n).countP unlinks := by
  induction n generalizing opens unlinks dir with
  | zero =>
    have hnever : (∃ i ≤ 0, opens i = false) ↔ opens 0 = false :=
      ⟨fun ⟨i, hi, h⟩ => Nat.le_zero.mp hi ▸ h, fun h => ⟨0, Nat.le_refl 0, h⟩⟩
    rw [hnever]
    by_cases hlast : opens 0 = false ∨ dir.excess maxFiles = 0
    · rw [pruneOldFiles_last hlast]
      refine iff_of_true rfl (hlast.imp_right fun h => ?_)
      exact ⟨fun f _ hbelow => absurd hbelow (by omega), by omega⟩
    · rw [not_or, Bool.not_eq_false] at hlast
      obtain ⟨_, _, -, -, hround⟩ := pruneOldFiles_round unlinks hlast.1
        (Nat.pos_of_ne_zero hlast.2)
      rw [hround, hlast.1]
      exact iff_of_false nofun fun h => h.elim nofun fun h => hlast.2 (Nat.le_zero.mp h.2)
  | succ n ih =>
    by_cases hlast : opens 0 = false ∨ dir.excess maxFiles = 0
    · rw [pruneOldFiles_last hlast]
      refine iff_of_true rfl (hlast.imp (fun h => ⟨0, Nat.zero_le _, h⟩) fun h => ?_)
      exact ⟨fun f _ hbelow => absurd hbelow (by omega), by omega⟩
    · -- a round, which takes the oldest file away or fails to; the rest is about what is left
      rw [not_or, Bool.not_eq_false] at hlast
      have hpos := Nat.pos_of_ne_zero hlast.2
      obtain ⟨f, name, hsmallest, hname, hround⟩ := pruneOldFiles_round unlinks hlast.1 hpos
      have hopens : (∃ i ≤ n, opens (i + 1) = false) ↔ ∃ i ≤ n + 1, opens i = false := by
        constructor
        · rintro ⟨i, hi, h⟩
          exact ⟨i + 1, by omega, h⟩
        · rintro ⟨i, hi, h⟩
          cases i with
          | zero => rw [hlast.1] at h; cases h
          | succ i => exact ⟨i, by omega, h⟩
      rw [hround, ih, hopens]
      exact or_congr_right (round_iff hsmallest hname hpos unlinks n)

/-- **Pruning returns** exactly if the directory cannot be opened some time, or the names of the
    log files that are too many fit into `oldest` and `unlink` succeeds as often as there are such
    files. -/
theorem returns_iff (maxFiles : Nat) (opens unlinks : Nat → Bool) (dir : Directory) :
    dir.Returns maxFiles opens unlinks ↔ (∃ i, opens i = false) ∨
      dir.Removable maxFiles ∧ ∃ n, dir.excess maxFiles ≤ (List.range n).countP unlinks := by
  constructor
  · rintro ⟨rounds, hsome⟩
    cases rounds with
    | zero => cases hsome
    | succ n =>
      rcases (isSome_pruneOldFiles_iff maxFiles n opens unlinks dir).mp hsome with
        ⟨i, -, hi⟩ | ⟨hremovable, hcount⟩
      · exact .inl ⟨i, hi⟩
      · exact .inr ⟨hremovable, n, hcount⟩
  · rintro (⟨i, hi⟩ | ⟨hremovable, n, hcount⟩)
    · exact ⟨i + 1, (isSome_pruneOldFiles_iff ..).mpr (.inl ⟨i, Nat.le_refl i, hi⟩)⟩
    · exact ⟨n + 1, (isSome_pruneOldFiles_iff ..).mpr (.inr ⟨hremovable, hcount⟩)⟩

/-- **A card whose `unlink` succeeds** is pruned as `Card.pruneOldFiles` does it. -/
theorem pruneOldFiles_directory (maxFiles passes : Nat) (card : Card) :
    pruneOldFiles maxFiles (passes + 1) (fun i => decide (i < passes)) (fun _ => true)
      card.directory = some (Card.pruneOldFiles maxFiles passes card).directory := by
  induction passes generalizing card with
  | zero => exact pruneOldFiles_last (.inl (by simp)) 0
  | succ passes ih =>
    have hshift : (fun i => decide (i + 1 < passes + 1)) = fun i => decide (i < passes) := by
      funext i
      simp
    have hopen : (!decide (0 < passes + 1)) = false := by simp
    -- The successes of the passes that are left are those of the shorter run.
    rw [Card.pruneOldFiles, pruneOldFiles, hopen, hshift, if_neg Bool.false_ne_true]
    show (if card.logs.length ≤ maxFiles then some card.directory else
      match card.oldest with
      | none => some card.directory
      | some name => pruneOldFiles maxFiles (passes + 1) _ _ (card.unlink name).directory) = _
    by_cases hfew : card.logs.length ≤ maxFiles
    · rw [if_pos hfew, if_pos hfew]
    · rw [if_neg hfew, if_neg hfew]
      cases card.oldest with
      | none => rfl
      | some name => exact ih _

theorem distinct_readOnly :
    ([⟨logName 1, false, []⟩, ⟨logName 2, false, []⟩].map File.key).Nodup := by
  decide

/-- Two log files on a card that has been mounted read-only. -/
def readOnly : Directory where
  files := [⟨logName 1, false, []⟩, ⟨logName 2, false, []⟩]
  distinct := distinct_readOnly

/-- One file is to be left, and pruning never returns. -/
theorem readOnly_not_returns :
    ¬ ∀ (maxFiles : Nat) (opens unlinks : Nat → Bool) (dir : Directory),
      dir.Returns maxFiles opens unlinks := by
  intro h
  obtain ⟨rounds, hsome⟩ := h 1 (fun _ => true) (fun _ => false) readOnly
  cases rounds with
  | zero => cases hsome
  | succ n =>
    obtain ⟨i, -, hi⟩ | ⟨-, hcount⟩ := (isSome_pruneOldFiles_iff ..).mp hsome
    · cases hi
    · rw [List.countP_false] at hcount
      exact absurd hcount (Nat.not_le_of_lt (show 0 < readOnly.excess 1 by decide))

end Directory

end SubnetRouter.FlightRecorder
