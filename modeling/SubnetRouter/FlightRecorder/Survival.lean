import SubnetRouter.FlightRecorder.Card

namespace SubnetRouter.FlightRecorder

open Lib

/-!
# When log files survive (`components/sdlog/sdlog.c`)

`open_new_file` truncates whatever has the next name, and `prune_old_files` takes the smallest
names for the oldest files.  Both are right as long as the sequence number is ahead of the
names on the card.

* `Recorder.Survives` — no bytes are lost to `fopen`, and pruning leaves the new file alone.
* `Recorder.Fits` — the condition on the card, the sequence number and the limit.
* `survives_iff_fits` — one new file; `run_survives_iff` — a whole run.
* `Recorder.Ahead` — the link between NVS and the card, and the runs that keep it.
-/

namespace Card

variable {card card' : Card} {f x : File} {name : Name} {seq : BitVec 32} {ok : Bool}

/-- The number of log files with a smaller name. -/
def older (card : Card) (name : Name) : Nat := below File.key ⟨name, false, []⟩ card.logs

/-- The number of log files with a greater name. -/
def newer (card : Card) (name : Name) : Nat := above File.key ⟨name, false, []⟩ card.logs

/-- Files are told apart by their keys. -/
theorem eq_of_key_eq (hf : f ∈ card.files) (hx : x ∈ card.files) (h : f.key = x.key) : f = x :=
  List.inj_on_of_nodup_map card.distinct hf hx h

theorem fopenW_eq_none_iff :
    card.fopenW seq ok = none ↔ ok = false ∨ card.blocked (logName seq) = true := by
  rw [fopenW]
  split
  · rename_i hfail
    exact ⟨fun _ => by simpa using hfail, fun _ => rfl⟩
  · rename_i hopen
    have hno : ¬ (ok = false ∨ card.blocked (logName seq) = true) := by simpa using hopen
    split <;> exact ⟨nofun, fun h => absurd h hno⟩

/-- Other bytes in one file leave the names of the log files alone. -/
theorem logs_rewrite (card : Card) (name : Name) (g : List UInt8 → List UInt8) :
    (card.rewrite name g).logs.map File.key = card.logs.map File.key := by
  have hlog : (File.isLog ∘ fun f => f.rewrite name g) = File.isLog :=
    funext fun f => f.isLog_rewrite name g
  rw [logs, rewrite, List.filter_map, hlog, List.map_map]
  exact List.map_congr_left fun f _ => f.key_rewrite name g

/-- A new log file is one more name. -/
theorem logs_create (hnew : ∀ f ∈ card.files, f.key ≠ fold (logName seq)) :
    (card.create (logName seq) hnew (length_logName seq)).logs =
      card.logs ++ [⟨logName seq, false, []⟩] := by
  rw [logs, create, List.filter_append]
  congr 1
  simp [File.isLog, isLogName_logName]

/-- **Truncation.** Opening leaves every file as it was exactly when none with bytes in it has
    the name. -/
theorem fopenW_intact_iff (h : card.fopenW seq ok = some card') :
    (∀ f ∈ card.files, f ∈ card'.files) ↔
      ∀ f ∈ card.files, f.key = fold (logName seq) → f.content = [] := by
  rw [fopenW] at h
  split_ifs at h with hfail hnew <;> obtain rfl := Option.some.inj h
  · exact ⟨fun _ f hf hkey => absurd hkey (hnew f hf), fun _ f hf => List.mem_append_left _ hf⟩
  · constructor
    · intro hintact f hf hkey
      obtain ⟨f', hf', hsame⟩ := List.mem_map.mp (hintact f hf)
      obtain rfl : f' = f := eq_of_key_eq hf' hf (by rw [← hsame, File.key_rewrite])
      rw [← hsame, File.rewrite, if_pos hkey]
    · intro hempty f hf
      refine List.mem_map.mpr ⟨f, hf, ?_⟩
      rw [File.rewrite]
      split
      · rename_i hkey
        rw [← hempty f hf hkey]
      · rfl

/-- A file of the next name is a log file, unless a directory has the name. -/
theorem isLog_of_key_eq (hf : f ∈ card.files) (hkey : f.key = fold (logName seq))
    (hblocked : card.blocked (logName seq) = false) : f.isLog = true := by
  have hdir : f.isDir = false := by
    rw [blocked, List.any_eq_false] at hblocked
    simpa [hkey] using hblocked f hf
  have hname : isLogName f.name = true := by
    have hlog := isLogName_logName seq
    rwa [isLogName, ← hkey] at hlog
  rw [File.isLog, hdir, hname]
  rfl

/-- After opening, the next name is that of a log file, and its rank is what it was. -/
theorem ranks_of_fopenW (h : card.fopenW seq ok = some card') :
    fold (logName seq) ∈ card'.logs.map File.key ∧
      card'.older (logName seq) = card.older (logName seq) ∧
      card'.newer (logName seq) = card.newer (logName seq) := by
  rw [fopenW] at h
  split_ifs at h with hfail hnew <;> obtain rfl := Option.some.inj h
  · rw [older, newer, logs_create, List.map_append]
    refine ⟨List.mem_append_right _ List.mem_cons_self, ?_, ?_⟩
    · simp [older, below]
    · simp [newer, above]
  · have hkeys := logs_rewrite card (logName seq) fun _ => []
    refine ⟨?_, below_congr hkeys rfl, above_congr hkeys rfl⟩
    simp only [not_forall, not_not] at hnew
    obtain ⟨f, hf, hkey⟩ := hnew
    have hblocked : card.blocked (logName seq) = false := by
      simp only [Bool.or_eq_true, not_or] at hfail
      exact Bool.eq_false_iff.mpr hfail.2
    rw [hkeys, ← hkey]
    exact List.mem_map_of_mem (mem_logs.mpr ⟨hf, isLog_of_key_eq hf hkey hblocked⟩)

/-- Opening adds no name but the next one. -/
theorem mem_keys_of_fopenW {k : Name} (h : card.fopenW seq ok = some card')
    (hk : k ∈ card'.logs.map File.key) : k = fold (logName seq) ∨ k ∈ card.logs.map File.key := by
  rw [fopenW] at h
  split_ifs at h with hfail hnew <;> obtain rfl := Option.some.inj h
  · rw [logs_create, List.map_append, List.mem_append] at hk
    exact hk.symm.imp_left List.mem_singleton.mp
  · exact .inr (logs_rewrite card (logName seq) (fun _ => []) ▸ hk)

/-- **Pruning.** The file that was opened last is still there exactly when the names above its
    own leave room for it, or the directory could not be read so far. -/
theorem opened_kept_iff (h : card.fopenW seq ok = some card') (header : List UInt8)
    (maxFiles passes : Nat) :
    (∃ f ∈ (pruneOldFiles maxFiles passes (card'.fwrite (logName seq) header)).files,
      f.key = fold (logName seq)) ↔
      card.newer (logName seq) < maxFiles ∨ passes ≤ card.older (logName seq) := by
  -- Opening leaves the ranks of the other names, and the header changes contents only.
  obtain ⟨hmem, holder, hnewer⟩ := ranks_of_fopenW h
  have hkeys : (card'.fwrite (logName seq) header).logs.map File.key = card'.logs.map File.key :=
    logs_rewrite card' (logName seq) fun content => content ++ header
  obtain ⟨x, hx, hkey⟩ := List.mem_map.mp (hkeys ▸ hmem)
  -- There is only one file of this name, and it is a log file.
  have hkept : (∃ f ∈ (pruneOldFiles maxFiles passes (card'.fwrite (logName seq) header)).files,
      f.key = fold (logName seq)) ↔
      x ∈ (pruneOldFiles maxFiles passes (card'.fwrite (logName seq) header)).logs := by
    constructor
    · rintro ⟨f, hf, hfkey⟩
      obtain rfl := eq_of_key_eq (pruneOldFiles_subset _ _ _ hf) (mem_logs.mp hx).1
        (hfkey.trans hkey.symm)
      exact mem_logs.mpr ⟨hf, (mem_logs.mp hx).2⟩
    · exact fun hlog => ⟨x, (mem_logs.mp hlog).1, hkey⟩
  have habove : above File.key x (card'.fwrite (logName seq) header).logs =
      card.newer (logName seq) := hnewer ▸ above_congr hkeys hkey
  have hbelow : below File.key x (card'.fwrite (logName seq) header).logs =
      card.older (logName seq) := holder ▸ below_congr hkeys hkey
  -- Pruning keeps a file by its rank from above, or ends before it comes to it from below.
  rw [hkept, logs_pruneOldFiles, mem_retain_iff (distinct_logs _) hx, habove, hbelow]

end Card

namespace Recorder

variable {s t : Recorder} {o : OpenOutcome} {a : Act} {as : List Act}

/-- `open_new_file` truncates no file that has bytes in it, and its pruning leaves the file that
    is written from now on. -/
structure Survives (s : Recorder) (o : OpenOutcome) : Prop where
  intact : ∀ card, s.card.fopenW s.nextSeq o.created = some card →
    ∀ f ∈ s.card.files, f ∈ card.files
  current : ∀ name, (s.openNewFile o).curName = some name →
    ∃ f ∈ (s.openNewFile o).card.files, f.key = fold name

/-- If the file can be opened at all: no file with bytes in it has the next name, and fewer log
    files than the limit have a greater name, unless the directory cannot be read often
    enough to come to the new file. -/
def Fits (s : Recorder) (o : OpenOutcome) : Prop :=
  o.created = true → s.card.blocked (logName s.nextSeq) = false →
    (∀ f ∈ s.card.files, f.key = fold (logName s.nextSeq) → f.content = []) ∧
      (s.card.newer (logName s.nextSeq) < s.maxFiles ∨
        o.passes ≤ s.card.older (logName s.nextSeq))

/-- **One new file.** The pruning goes from the smallest name on, so what decides is how many names
    are smaller and how many are greater. -/
theorem survives_iff_fits : s.Survives o ↔ s.Fits o := by
  cases hopen : s.card.fopenW s.nextSeq o.created with
  | none =>
    -- no file is opened, so nothing can be lost by it
    have hafter : s.openNewFile o = { s with curName := none } := by rw [openNewFile, hopen]
    constructor
    · intro _ hcreated hblocked
      rcases Card.fopenW_eq_none_iff.mp hopen with hno | hno
      · exact absurd (hcreated.symm.trans hno) (by decide)
      · exact absurd (hblocked.symm.trans hno) (by decide)
    · intro _
      refine ⟨fun card hcard => ?_, fun name hname => ?_⟩
      · rw [hopen] at hcard
        cases hcard
      · rw [hafter] at hname
        cases hname
  | some card =>
    have hafter : s.openNewFile o =
        { s with
          card := Card.pruneOldFiles s.maxFiles o.passes
            (card.fwrite (logName s.nextSeq) o.header)
          nextSeq := s.nextSeq + 1
          nvsSeq := if o.saved then some (s.nextSeq + 1) else s.nvsSeq
          curName := some (logName s.nextSeq) } := by rw [openNewFile, hopen]
    have hintact := Card.fopenW_intact_iff hopen
    have hkept := Card.opened_kept_iff hopen o.header s.maxFiles o.passes
    constructor
    · intro h _ _
      refine ⟨hintact.mp (h.intact card hopen), hkept.mp ?_⟩
      have hcurrent := h.current
      rw [hafter] at hcurrent
      exact hcurrent _ rfl
    · intro h
      obtain ⟨hcreated, hblocked⟩ :
          o.created = true ∧ s.card.blocked (logName s.nextSeq) = false := by
        have hsome := mt Card.fopenW_eq_none_iff.mpr (by rw [hopen]; exact nofun)
        simpa using hsome
      obtain ⟨hempty, hrank⟩ := h hcreated hblocked
      refine ⟨fun card' hcard' => ?_, fun name hname => ?_⟩
      · obtain rfl := Option.some.inj (hopen.symm.trans hcard')
        exact hintact.mpr hempty
      · rw [hafter] at hname ⊢
        obtain rfl := Option.some.inj hname
        exact hkept.mpr hrank

/-- A new file of a run loses nothing. -/
def FileSurvives (s : Recorder) : Act → Prop
  | .open o => s.Survives o
  | _ => True

/-- A new file of a run meets the condition. -/
def FileFits (s : Recorder) : Act → Prop
  | .open o => s.Fits o
  | _ => True

instance (s : Recorder) (o : OpenOutcome) : Decidable (s.Fits o) :=
  inferInstanceAs (Decidable (_ → _ → _ ∧ _))

instance : (s : Recorder) → (a : Act) → Decidable (s.FileFits a)
  | s, .open o => inferInstanceAs (Decidable (s.Fits o))
  | _, .boot _ => .isTrue trivial
  | _, .write _ => .isTrue trivial
  | _, .close => .isTrue trivial
  | _, .erase => .isTrue trivial
  | _, .factoryReset => .isTrue trivial

theorem fileSurvives_iff (s : Recorder) (a : Act) : s.FileSurvives a ↔ s.FileFits a := by
  cases a with
  | «open» o => exact survives_iff_fits
  | boot | write | close | erase | factoryReset => exact Iff.rfl

/-- **A whole run.** From every content of the card and every sequence number, the new files of
    a run lose nothing exactly when each of them meets the condition. -/
theorem run_survives_iff (s : Recorder) (as : List Act) :
    recorder.Meets FileSurvives s as ↔ recorder.Meets FileFits s as :=
  Machine.meets_congr fileSurvives_iff

/-! ### A factory reset -/

/-- A router with an empty card. -/
def emptyRecorder : Recorder := ⟨⟨[], .nil, nofun⟩, none, none, 1, sdlogDefaultMaxFiles, none⟩

/-- Everything works, and the header is one byte. -/
def goodOpen : OpenOutcome := ⟨true, true, [0x3D], 2⟩

/-- The first file is written, NVS is erased, and the router boots again. -/
def resetRun : List Act :=
  [.boot true, .open goodOpen, .write [0x41], .factoryReset, .boot true, .open goodOpen]

/-- The first file is truncated. -/
theorem reset_truncates : ¬ recorder.Meets FileSurvives emptyRecorder resetRun :=
  mt (Machine.meets_congr fileSurvives_iff).mp (by decide +kernel)

/-! ### While NVS stays with the card -/

/-- Case is a matter of letters. -/
theorem fold_logName {seq : BitVec 32} (h : seq.toNat < 10 ^ 8) :
    fold (logName seq) = padded 8 seq.toNat ++ ['.', 'l', 'o', 'g'] := by
  have hdigit : ∀ d < 10, (Nat.digitChar d).toLower = Nat.digitChar d := by decide
  rw [fold, logName, List.map_append, padded_eq_lastDigits h]
  congr 1
  refine (List.map_congr_left fun c hc => ?_).trans (List.map_id _)
  obtain ⟨d, hd, rfl⟩ := mem_lastDigits hc
  exact hdigit d hd

/-- Names with eight digits sort as their numbers. -/
theorem logName_lt {seq seq' : BitVec 32} (h : seq.toNat < seq'.toNat)
    (h' : seq'.toNat < 10 ^ 8) : fold (logName seq) < fold (logName seq') := by
  rw [fold_logName h', fold_logName (h.trans h')]
  refine append_lt_append_of_length_eq ?_ (padded_lt h h') _ _
  rw [length_padded h', length_padded (h.trans h')]

/-- The sequence numbers in use and in NVS are ahead of all log files. -/
structure Ahead (s : Recorder) : Prop where
  running : ∀ f ∈ s.card.logs, f.key < fold (logName s.nextSeq)
  stored : ∀ f ∈ s.card.logs, f.key < fold (logName (loadedSeq s.nvsSeq))
  room : 0 < s.maxFiles

/-- NVS is neither erased nor unreadable, it takes every new number, and there are no more than
    eight digits. -/
def Steady (s : Recorder) : Act → Prop
  | .boot readable => readable = true
  | .open o => o.saved = true ∧ s.nextSeq.toNat + 1 < 10 ^ 8
  | .factoryReset => False
  | _ => True

/-- A number that is ahead meets the condition. -/
theorem Ahead.fits (h : s.Ahead) : s.Fits o := by
  intro _ hblocked
  refine ⟨fun f hf hkey => ?_, .inl ?_⟩
  · have hlog := Card.mem_logs.mpr ⟨hf, Card.isLog_of_key_eq hf hkey hblocked⟩
    exact absurd (h.running f hlog) (hkey ▸ lt_irrefl _)
  · have hnone : s.card.newer (logName s.nextSeq) = 0 := above_eq_zero h.running
    exact hnone ▸ h.room

/-- Opening, writing and pruning add no name but that of the new file. -/
theorem key_of_mem_openNewFile {card : Card} {f : File}
    (hopen : s.card.fopenW s.nextSeq o.created = some card)
    (hf : f ∈ (s.openNewFile o).card.logs) :
    f.key = fold (logName s.nextSeq) ∨ ∃ g ∈ s.card.logs, g.key = f.key := by
  rw [openNewFile, hopen] at hf
  dsimp only at hf
  rw [Card.logs_pruneOldFiles] at hf
  have hkey : f.key ∈ card.logs.map File.key :=
    Card.logs_rewrite card (logName s.nextSeq) (fun content => content ++ o.header) ▸
      List.mem_map_of_mem (retain_subset _ _ hf)
  rcases Card.mem_keys_of_fopenW hopen hkey with hnew | hold
  · exact .inl hnew
  · exact .inr (List.mem_map.mp hold)

/-- A new file has the largest name, and the next one a larger one still. The pruning that follows
    only takes names away. -/
theorem Ahead.openNewFile (h : s.Ahead) (hsteady : s.Steady (.open o)) :
    (s.openNewFile o).Ahead := by
  obtain ⟨hsaved, hdigits⟩ := hsteady
  cases hopen : s.card.fopenW s.nextSeq o.created with
  | none =>
    rw [Recorder.openNewFile, hopen]
    exact ⟨h.running, h.stored, h.room⟩
  | some card =>
    -- No wrap: the next number still has eight digits.
    have hnext : (s.nextSeq + 1).toNat = s.nextSeq.toNat + 1 := by
      rw [BitVec.toNat_add]
      exact Nat.mod_eq_of_lt (by show s.nextSeq.toNat + 1 < 2 ^ 32; omega)
    have hlt : fold (logName s.nextSeq) < fold (logName (s.nextSeq + 1)) :=
      logName_lt (by omega) (by omega)
    have hahead : ∀ f ∈ (s.openNewFile o).card.logs, f.key < fold (logName (s.nextSeq + 1)) := by
      intro f hf
      -- Every file is the new one or an older one, and both names are below the next.
      rcases key_of_mem_openNewFile hopen hf with hnew | ⟨g, hg, hkey⟩
      · exact hnew ▸ hlt
      · exact hkey ▸ (h.running g hg).trans hlt
    -- The number in NVS is not read as a missing one.
    have hloaded : loadedSeq (some (s.nextSeq + 1)) = s.nextSeq + 1 := by
      rw [loadedSeq, if_neg]
      intro hzero
      rw [hzero] at hnext
      exact absurd hnext (by simp)
    have hafter : (s.openNewFile o).nextSeq = s.nextSeq + 1 ∧
        (s.openNewFile o).nvsSeq = some (s.nextSeq + 1) ∧
        (s.openNewFile o).maxFiles = s.maxFiles := by
      simp [Recorder.openNewFile, hopen, hsaved]
    exact ⟨hafter.1 ▸ hahead, by rwa [hafter.2.1, hloaded], hafter.2.2 ▸ h.room⟩

/-- A line changes no name. -/
theorem Ahead.writeLine (h : s.Ahead) (bytes : List UInt8) : (s.writeLine bytes).Ahead := by
  unfold Recorder.writeLine
  split
  · exact h
  · rename_i name hname
    have hold : ∀ f ∈ (s.card.fwrite name bytes).logs, ∃ g ∈ s.card.logs, g.key = f.key := by
      intro f hf
      exact List.mem_map.mp (Card.logs_rewrite s.card name _ ▸ List.mem_map_of_mem hf)
    refine ⟨fun f hf => ?_, fun f hf => ?_, h.room⟩
    · obtain ⟨g, hg, hkey⟩ := hold f hf
      exact hkey ▸ h.running g hg
    · obtain ⟨g, hg, hkey⟩ := hold f hf
      exact hkey ▸ h.stored g hg

/-- **Step lemma.** A new file, an erasure and a boot, as long as the steps are steady. -/
theorem ahead_step (h : s.Ahead) (hsteady : s.Steady a) : (s.step a).Ahead := by
  -- Only the opening makes a new name; a boot reads the number that was stored with the last one.
  cases a with
  | boot readable =>
    obtain rfl : readable = true := hsteady
    refine ⟨h.stored, h.stored, ?_⟩
    show 0 < loadedMaxFiles s.nvsMaxFiles
    unfold loadedMaxFiles
    split
    · decide
    · split
      · assumption
      · decide
  | «open» o => exact h.openNewFile hsteady
  | write bytes => exact h.writeLine bytes
  | close => exact ⟨h.running, h.stored, h.room⟩
  | erase =>
    -- No log file is left by `erase_all`.
    have hnone : ∀ f, f ∉ s.eraseAll.card.logs := fun f hf => by
      obtain ⟨hkept, hlog⟩ := Card.mem_logs.mp hf
      have hnot := (List.mem_filter.mp hkept).2
      rw [hlog] at hnot
      exact absurd hnot (by decide)
    exact ⟨fun f hf => absurd hf (hnone f), fun f hf => absurd hf (hnone f), h.room⟩
  | factoryReset => exact hsteady.elim

/-- While NVS stays with the card, no log file is lost to a new one. -/
theorem steady_run_survives (h : s.Ahead) (hsteady : recorder.Meets Steady s as) :
    recorder.Meets FileSurvives s as := by
  refine hsteady.of_invariant (I := Ahead) ?_ ?_ h
  · intro s a s' hsteady hstep h
    obtain rfl := Option.some.inj hstep
    exact ahead_step h hsteady
  · intro s a h _
    refine (fileSurvives_iff s a).mpr ?_
    cases a with
    | «open» o => exact h.fits
    | boot | write | close | erase | factoryReset => trivial

end Recorder

end SubnetRouter.FlightRecorder
