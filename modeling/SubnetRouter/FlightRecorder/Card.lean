import Mathlib.Data.Char
import Mathlib.Data.List.Lex
import SubnetRouter.Lib.Digits
import SubnetRouter.Lib.Retention
import SubnetRouter.Lib.Run

namespace SubnetRouter.FlightRecorder

open Lib

/-!
# The flight recorder (`components/sdlog/sdlog.c`)

Log files are named by a sequence number that is kept in NVS, while the files are on a card.
A new file is opened at every boot, rotation and after an erase; then the files with the
smallest names are removed until `s_max_files` are left.

* `Card` — the log directory; no two of its names differ in case only.
* `pruneOldFiles`, `openNewFile`, `loadConfig`, `eraseAll` — the functions of the source.
* `pruneOldFiles_files` — pruning is `retain` on the log files.
* `recorder` — the machine of boots, rotations, erases and factory resets.
-/

/-! ### Names -/

/-- A file name. -/
abbrev Name := List Char

/-- A name without regard to case. -/
def fold (name : Name) : Name := name.map Char.toLower

/-- `strcasecmp(a, b) < 0`. The names are compared in lower case, one character after the other. -/
def strcaseLt : Name → Name → Bool
  | _, [] => false
  | [], _ :: _ => true
  | a :: as, b :: bs =>
    if a.toLower = b.toLower then strcaseLt as bs else a.toLower < b.toLower

theorem strcaseLt_iff {a b : Name} : strcaseLt a b = true ↔ fold a < fold b := by
  induction a generalizing b with
  | nil => cases b <;> simp [strcaseLt, fold]
  | cons c a ih =>
    cases b with
    | nil => simp [strcaseLt, fold]
    | cons d b =>
      rw [strcaseLt, fold, fold, List.map_cons, List.map_cons, List.cons_lt_cons_iff]
      split
      · rename_i heq
        simpa [heq, fold] using ih
      · rename_i hne
        simp [hne]

def sdlogNameMax : Nat := 16

/-- `strncpy` into a buffer of `SDLOG_NAME_MAX` bytes. -/
def copyName (name : Name) : Name := name.take (sdlogNameMax - 1)

/-- The part from the last dot is `.LOG`, without regard to case: the name ends so. -/
def isLogName (name : Name) : Bool := ['.', 'l', 'o', 'g'].isSuffixOf (fold name)

/-- `%08u.LOG`. -/
def logName (seq : BitVec 32) : Name := padded 8 seq.toNat ++ ['.', 'L', 'O', 'G']

theorem copyName_of_short {name : Name} (h : name.length < sdlogNameMax) : copyName name = name :=
  List.take_of_length_le (Nat.le_pred_of_lt h)

theorem length_logName (seq : BitVec 32) : (logName seq).length < sdlogNameMax := by
  have hdigits : (Nat.toDigits 10 seq.toNat).length ≤ 10 :=
    (Nat.length_toDigits_le_iff (by decide) (by decide)).mpr (by omega)
  simp only [logName, padded, List.length_append, List.length_replicate, sdlogNameMax]
  simp only [List.length_cons, List.length_nil]
  omega

theorem isLogName_logName (seq : BitVec 32) : isLogName (logName seq) = true := by
  rw [isLogName, List.isSuffixOf_iff_suffix, fold, logName, List.map_append]
  exact List.suffix_append _ _

/-! ### The card -/

/-- A directory entry. A directory may stand under a log's name; the pruning and the erasing leave
    it alone. -/
structure File where
  name : Name
  isDir : Bool
  content : List UInt8
deriving DecidableEq, Repr

/-- The name of a file, as the FAT tells files apart. -/
def File.key (f : File) : Name := fold f.name

/-- `prune_old_files` and `sdlog_erase_all` look at it. -/
def File.isLog (f : File) : Bool := !f.isDir && isLogName f.name

/-- Other bytes in the file of this name. -/
def File.rewrite (f : File) (name : Name) (g : List UInt8 → List UInt8) : File :=
  if f.key = fold name then { f with content := g f.content } else f

theorem File.name_rewrite (f : File) (name : Name) (g : List UInt8 → List UInt8) :
    (f.rewrite name g).name = f.name := by
  rw [rewrite]
  split <;> rfl

theorem File.key_rewrite (f : File) (name : Name) (g : List UInt8 → List UInt8) :
    (f.rewrite name g).key = f.key := congrArg fold (f.name_rewrite name g)

theorem File.isLog_rewrite (f : File) (name : Name) (g : List UInt8 → List UInt8) :
    (f.rewrite name g).isLog = f.isLog := by
  rw [rewrite]
  split <;> rfl

/-- The log directory: 8.3 names that differ in more than case. -/
structure Card where
  files : List File
  distinct : (files.map File.key).Nodup
  short : ∀ f ∈ files, f.name.length < sdlogNameMax

namespace Card

/-- Some of the entries. -/
def keep (card : Card) (p : File → Bool) : Card where
  files := card.files.filter p
  distinct := card.distinct.sublist (List.filter_sublist.map _)
  short f hf := card.short f (List.mem_filter.mp hf).1

/-- Other bytes in the file of this name. The names stay, so the card stays well formed. -/
def rewrite (card : Card) (name : Name) (g : List UInt8 → List UInt8) : Card where
  files := card.files.map fun f => f.rewrite name g
  distinct := by
    rw [List.map_map, List.map_congr_left fun f _ => f.key_rewrite name g]
    exact card.distinct
  short f hf := by
    obtain ⟨f', hf', rfl⟩ := List.mem_map.mp hf
    exact f'.name_rewrite name g ▸ card.short f' hf'

/-- A new file. Its name is no other's, whatever the case of the letters, as FAT demands. -/
def create (card : Card) (name : Name) (hnew : ∀ f ∈ card.files, f.key ≠ fold name)
    (hshort : name.length < sdlogNameMax) : Card where
  files := card.files ++ [⟨name, false, []⟩]
  distinct := by
    rw [List.map_append, List.nodup_append]
    refine ⟨card.distinct, List.nodup_singleton _, ?_⟩
    rintro _ hk _ hk'
    obtain ⟨f, hf, rfl⟩ := List.mem_map.mp hk
    rw [List.mem_singleton.mp hk']
    exact hnew f hf
  short f hf := by
    rcases List.mem_append.mp hf with hold | hnew
    · exact card.short f hold
    · rwa [List.mem_singleton.mp hnew]

/-- The log files. -/
def logs (card : Card) : List File := card.files.filter File.isLog

/-- `unlink`. -/
def unlink (card : Card) (name : Name) : Card := card.keep fun f => f.key ≠ fold name

/-- A directory has the name: no file of the name can be opened. -/
def blocked (card : Card) (name : Name) : Bool :=
  card.files.any fun f => f.isDir && f.key = fold name

/-- `fopen(path, "w")`, which may fail for other reasons as well. A file of that name is emptied,
    and a directory of that name makes the call fail. -/
def fopenW (card : Card) (seq : BitVec 32) (ok : Bool) : Option Card :=
  if !ok || card.blocked (logName seq) then none
  else if hnew : ∀ f ∈ card.files, f.key ≠ fold (logName seq) then
    some (card.create (logName seq) hnew (length_logName seq))
  else some (card.rewrite (logName seq) fun _ => [])

/-- `fwrite` at the end of the file. -/
def fwrite (card : Card) (name : Name) (bytes : List UInt8) : Card :=
  card.rewrite name fun content => content ++ bytes

/-! ### `prune_old_files` -/

/-- One entry of the scan for the smallest name. -/
def scan (oldest : Option Name) (name : Name) : Option Name :=
  match oldest with
  | none => some (copyName name)
  | some o => if strcaseLt name o then some (copyName name) else some o

/-- The scan. -/
def oldest (card : Card) : Option Name := (card.logs.map File.name).foldl scan none

/-- `prune_old_files`; `opendir` succeeds so many times. Each pass counts the logs again and deletes
    the oldest one, until there are no more than allowed. -/
def pruneOldFiles (maxFiles : Nat) : Nat → Card → Card
  | 0, card => card
  | passes + 1, card =>
    if card.logs.length ≤ maxFiles then card
    else
      match card.oldest with
      | none => card
      | some name => pruneOldFiles maxFiles passes (card.unlink name)

variable {card : Card} {f : File} {maxFiles : Nat}

theorem distinct_logs (card : Card) : (card.logs.map File.key).Nodup :=
  card.distinct.sublist (List.filter_sublist.map _)

/-- The scan finds the file with the smallest name. -/
theorem oldest_eq_smallest (card : Card) :
    card.oldest = (smallest File.key card.logs).map File.name := by
  have hcopy : ∀ f ∈ card.logs, copyName f.name = f.name := fun f hf =>
    copyName_of_short (card.short f (List.mem_filter.mp hf).1)
  refine foldl_eq_smallest (fun f hf => ?_) fun o ho f hf => ?_
  · rw [scan, hcopy f hf]
  · have hlt : strcaseLt f.name o.name = true ↔ f.key < o.key := strcaseLt_iff
    rw [scan, hcopy f hf]
    by_cases h : f.key < o.key
    · rw [if_pos (hlt.mpr h), if_pos h]
    · rw [if_neg (mt hlt.mp h), if_neg h]

/-- Removing a log file by its name. -/
theorem logs_unlink (card : Card) (f : File) :
    (card.unlink f.name).logs = without File.key f card.logs := by
  have hsame : without File.key f card.logs = card.logs.filter fun g => g.key ≠ fold f.name :=
    List.filter_congr fun g _ => decide_eq_decide.mpr Iff.rfl
  rw [hsame]
  exact List.filter_comm ..

/-- **Pruning is `retain` on the log files.** -/
theorem logs_pruneOldFiles (maxFiles passes : Nat) (card : Card) :
    (pruneOldFiles maxFiles passes card).logs = retain File.key maxFiles passes card.logs := by
  induction passes generalizing card with
  | zero => rfl
  | succ passes ih =>
    rw [pruneOldFiles, retain, oldest_eq_smallest]
    split
    · rfl
    · cases smallest File.key card.logs with
      | none => rfl
      | some f =>
        dsimp only [Option.map_some]
        rw [← logs_unlink]
        exact ih _

/-- Pruning adds nothing. -/
theorem pruneOldFiles_subset (maxFiles passes : Nat) (card : Card) :
    (pruneOldFiles maxFiles passes card).files ⊆ card.files := by
  induction passes generalizing card with
  | zero => exact List.Subset.refl _
  | succ passes ih =>
    rw [pruneOldFiles]
    split
    · exact List.Subset.refl _
    · split
      · exact List.Subset.refl _
      · exact fun f hf => (List.mem_filter.mp (ih _ hf)).1

theorem mem_logs : f ∈ card.logs ↔ f ∈ card.files ∧ f.isLog = true := List.mem_filter

end Card

/-! ### The recorder -/

/-- How the calls of `open_new_file` go, the header line that it writes, and the number of
    times that `prune_old_files` can open the directory. -/
structure OpenOutcome where
  created : Bool
  saved : Bool
  header : List UInt8
  passes : Nat
deriving DecidableEq, Repr

/-- The card, NVS, and the variables of the recorder; `curName` is the file that `s_fp` is
    open on. -/
structure Recorder where
  card : Card
  nvsSeq : Option (BitVec 32)
  nvsMaxFiles : Option Nat
  nextSeq : BitVec 32
  maxFiles : Nat
  curName : Option Name

def sdlogDefaultMaxFiles : Nat := 128

namespace Recorder

/-- The sequence number and the limit that `load_config` finds in NVS. -/
def loadedSeq : Option (BitVec 32) → BitVec 32
  | none => 1
  | some seq => if seq = 0 then 1 else seq

def loadedMaxFiles : Option Nat → Nat
  | none => sdlogDefaultMaxFiles
  | some mm => if 0 < mm then mm else sdlogDefaultMaxFiles

/-- `load_config` after a boot; `nvs_open` may fail. Then the defaults apply, and the sequence
    numbers start from 1 again. -/
def loadConfig (s : Recorder) (readable : Bool) : Recorder :=
  { s with
    nextSeq := if readable then loadedSeq s.nvsSeq else 1
    maxFiles := if readable then loadedMaxFiles s.nvsMaxFiles else sdlogDefaultMaxFiles
    curName := none }

/-- `open_new_file`. The next sequence number goes to RAM and to NVS once the file is there, and the
    old files are deleted last. -/
def openNewFile (s : Recorder) (o : OpenOutcome) : Recorder :=
  match s.card.fopenW s.nextSeq o.created with
  | none => { s with curName := none }
  | some card =>
    { s with
      card := Card.pruneOldFiles s.maxFiles o.passes (card.fwrite (logName s.nextSeq) o.header)
      nextSeq := s.nextSeq + 1
      nvsSeq := if o.saved then some (s.nextSeq + 1) else s.nvsSeq
      curName := some (logName s.nextSeq) }

/-- A log line is written to the active file. -/
def writeLine (s : Recorder) (bytes : List UInt8) : Recorder :=
  match s.curName with
  | none => s
  | some name => { s with card := s.card.fwrite name bytes }

/-- `sdlog_erase_all`. -/
def eraseAll (s : Recorder) : Recorder :=
  { s with card := s.card.keep fun f => !f.isLog, curName := none }

/-- `nvs_param_erase_all`, from the factory reset. -/
def factoryReset (s : Recorder) : Recorder := { s with nvsSeq := none, nvsMaxFiles := none }

/-- What can happen.  The writer task opens a new file when it starts, when the active one is
    full and after an erase; it closes the active one when it stops. -/
inductive Act where
  | boot (readable : Bool)
  | open (o : OpenOutcome)
  | write (bytes : List UInt8)
  | close
  | erase
  | factoryReset
deriving DecidableEq, Repr

/-- One step. The factory reset empties NVS alone: RAM and the card stay as they are until the next
    boot. -/
def step (s : Recorder) : Act → Recorder
  | .boot readable => s.loadConfig readable
  | .open o => s.openNewFile o
  | .write bytes => s.writeLine bytes
  | .close => { s with curName := none }
  | .erase => s.eraseAll
  | .factoryReset => s.factoryReset

end Recorder

/-- The machine of boots, rotations, erases and factory resets. -/
def recorder : Machine Recorder Recorder.Act := ⟨fun s a => some (s.step a)⟩

end SubnetRouter.FlightRecorder
