import SubnetRouter.FlightRecorder.Card
import SubnetRouter.FlightRecorder.Flush

namespace SubnetRouter.FlightRecorder

open Lib Settings

/-!
# The end of a log file (`sdlog_tail_file`)

The function reads the last bytes of a file, as many as there is room for, and cuts them behind a
newline that it finds by counting newlines from the end.

* `sdlogTailFile` — the code.
* `lineCount` — the lines of some bytes; a last piece without a newline is one.
* `IsTail` — the longest part at the end that has so many lines at most.
* `findCut_spec` — where the loop stops.
* `tail_exact_iff` — when the part that is returned is that one.
-/

/-! ### The code -/

/-- `ESP_ERR_NOT_FOUND`. -/
def espErrNotFound : EspErr := 0x105

/-- `'\n'`. -/
def newline : UInt8 := 10

/-- A character of a safe name. -/
def safeChar (c : Char) : Bool :=
  ('A' ≤ c && c ≤ 'Z') || ('a' ≤ c && c ≤ 'z') || ('0' ≤ c && c ≤ '9') || c = '.' || c = '_' ||
    c = '-'

/-- `name_is_safe`. -/
def nameIsSafe (name : Name) : Bool :=
  name ≠ [] && name.length < sdlogNameMax && !(name.tails.any fun t => ['.', '.'].isPrefixOf t) &&
    name.all safeChar

/-- What a call finds: whether the card is there, the mutex comes free in time and the file can be
    opened, and the card. -/
structure CardAccess where
  present : Bool
  taken : Bool
  opens : Bool
  card : Card

/-- `fopen(path, "r")`. -/
def CardAccess.fopenR (a : CardAccess) (name : Name) : Option (List UInt8) :=
  if a.opens then
    (a.card.files.find? fun f => !f.isDir && f.key = fold name).map File.content
  else none

/-- The loop over `buf`: `i` bytes are left, and so many newlines have been seen. It goes backwards,
    and stops behind the newline that is one too many. -/
def findCut (buf : List UInt8) (nLines : Nat) : Nat → Nat → Nat
  | 0, _ => 0
  | i + 1, seen =>
    if buf[i]? = some newline then
      if nLines < seen + 1 then i + 1 else findCut buf nLines i (seen + 1)
    else findCut buf nLines i seen

/-- The lines that are asked for. -/
def wantedLines (nLines : Int) : Nat := if nLines ≤ 0 then 50 else nLines.toNat

/-- What is read: at most `buf_size - 1` bytes. -/
def window (content : List UInt8) (bufSize : Nat) : List UInt8 :=
  let want := bufSize - 1
  let start := if want < content.length then content.length - want else 0
  (content.drop start).take want

/-- `sdlog_tail_file`: the bytes in `buf` before the null character, and `*out_len`. Only the last
    `bufSize - 1` bytes of the file are looked at, so the first line may be cut. -/
def sdlogTailFile (a : CardAccess) (name : Name) (nLines : Int) (bufSize : Nat) :
    Except EspErr (List UInt8 × Nat) :=
  if !nameIsSafe name || bufSize < 2 then .error espErrInvalidArg
  else if !a.present then .error espErrInvalidState
  else if !a.taken then .error espErrTimeout
  else
    match a.fopenR name with
    | none => .error espErrNotFound
    | some content =>
      let buf := window content bufSize
      let cut := findCut buf (wantedLines nLines) buf.length 0
      if 0 < cut then .ok (buf.drop cut, buf.length - cut) else .ok (buf, buf.length)

/-! ### The last lines -/

/-- Some bytes end without a newline. -/
def Unterminated (s : List UInt8) : Prop := s ≠ [] ∧ s.getLast? ≠ some newline

instance (s : List UInt8) : Decidable (Unterminated s) := by
  unfold Unterminated
  infer_instance

/-- The lines; a last piece without a newline is one. -/
def lineCount (s : List UInt8) : Nat := s.count newline + if Unterminated s then 1 else 0

/-- The longest part at the end of `w` that has at most `n` lines. -/
structure IsTail (w : List UInt8) (n : Nat) (t : List UInt8) : Prop where
  suffix : t <:+ w
  few : lineCount t ≤ n
  longest : ∀ u, u <:+ w → lineCount u ≤ n → u.length ≤ t.length

/-! ### What the loop finds -/

variable {buf w t : List UInt8} {n i seen : Nat} {a : CardAccess} {name : Name} {nLines : Int}
  {bufSize : Nat}

/-- The loop stops behind the newline before the last `n`, if there is one. By induction on the
    bytes that are left, with the newlines seen behind them. -/
theorem findCut_spec (hi : i ≤ buf.length) (hseen : seen = (buf.drop i).count newline)
    (hle : seen ≤ n) :
    findCut buf n i seen = 0 ∧ buf.count newline ≤ n ∨
      ∃ k, findCut buf n i seen = k + 1 ∧ buf[k]? = some newline ∧
        (buf.drop (k + 1)).count newline = n := by
  -- The loop goes back byte by byte; `seen` counts the newlines from `i` on.
  induction i generalizing seen with
  | zero =>
    rw [List.drop_zero] at hseen
    exact .inl ⟨rfl, hseen ▸ hle⟩
  | succ i ih =>
    have hget : buf[i]? = some buf[i] := List.getElem?_eq_getElem hi
    have hdrop : buf.drop i = buf[i] :: buf.drop (i + 1) := List.drop_eq_getElem_cons hi
    rw [findCut]
    by_cases hnl : buf[i]? = some newline
    · have hbyte : buf[i] = newline := Option.some.inj (hget.symm.trans hnl)
      rw [if_pos hnl]
      -- One newline too many: the cut is behind it.
      by_cases hlast : n < seen + 1
      · rw [if_pos hlast]
        exact .inr ⟨i, rfl, hnl, by omega⟩
      · rw [if_neg hlast]
        refine ih (by omega) ?_ (by omega)
        rw [hdrop, hbyte, List.count_cons_self, hseen]
    · have hbyte : buf[i] ≠ newline := fun heq => hnl (hget.trans (congrArg some heq))
      rw [if_neg hnl]
      refine ih (by omega) ?_ hle
      rw [hdrop, List.count_cons_of_ne hbyte, hseen]

theorem lineCount_of_terminated (h : ¬ Unterminated t) : lineCount t = t.count newline := by
  rw [lineCount, if_neg h, Nat.add_zero]

theorem lineCount_of_unterminated (h : Unterminated t) : lineCount t = t.count newline + 1 := by
  rw [lineCount, if_pos h]

theorem count_le_lineCount (s : List UInt8) : s.count newline ≤ lineCount s := Nat.le_add_right _ _

/-- Behind a newline the last piece is the same. -/
theorem unterminated_drop_iff {k : Nat} (h : buf[k]? = some newline) :
    Unterminated (buf.drop (k + 1)) ↔ Unterminated buf := by
  obtain ⟨hk, hbyte⟩ := List.getElem?_eq_some_iff.mp h
  have hne : buf ≠ [] := List.ne_nil_of_length_pos (Nat.zero_lt_of_lt hk)
  by_cases hlast : buf.length ≤ k + 1
  · -- the newline is the last byte
    have hnil : buf.drop (k + 1) = [] := List.drop_of_length_le hlast
    have hend : buf.getLast? = some newline := by
      rw [List.getLast?_eq_getElem?, show buf.length - 1 = k by omega, h]
    rw [hnil]
    exact iff_of_false (fun hu => hu.1 rfl) fun hu => hu.2 hend
  · have hrest : buf.drop (k + 1) ≠ [] := by
      rw [ne_eq, List.drop_eq_nil_iff]
      exact hlast
    rw [Unterminated, Unterminated, List.getLast?_drop, if_neg hlast]
    exact and_congr_left fun _ => iff_of_true hrest hne

/-- A longer part has the newline as well. -/
theorem count_of_longer {k : Nat} {u : List UInt8} (h : buf[k]? = some newline) (hu : u <:+ buf)
    (hlen : (buf.drop (k + 1)).length < u.length) :
    (buf.drop (k + 1)).count newline < u.count newline := by
  obtain ⟨hk, hbyte⟩ := List.getElem?_eq_some_iff.mp h
  have hdrop : buf.drop k = newline :: buf.drop (k + 1) := by
    rw [List.drop_eq_getElem_cons hk, hbyte]
  have hsuffix : buf.drop k <:+ u := by
    refine List.suffix_of_suffix_length_le (List.drop_suffix k buf) hu ?_
    rw [hdrop, List.length_cons]
    exact hlen
  have hcount := hsuffix.sublist.count_le newline
  rw [hdrop, List.count_cons_self] at hcount
  exact hcount

/-- **The end of the buffer** is the longest part with so many lines exactly if the buffer ends
    with a newline, or has fewer newlines. -/
theorem isTail_cut_iff (w : List UInt8) (n : Nat) :
    IsTail w n (w.drop (findCut w n w.length 0)) ↔ ¬ Unterminated w ∨ w.count newline < n := by
  rcases findCut_spec (n := n) (Nat.le_refl w.length) (by simp) (Nat.zero_le n) with
    ⟨hcut, hcount⟩ | ⟨k, hcut, hnl, hcount⟩
  · have hwhole : IsTail w n w ↔ lineCount w ≤ n :=
      ⟨IsTail.few, fun h => ⟨List.suffix_refl w, h, fun u hu _ => hu.length_le⟩⟩
    rw [hcut, List.drop_zero, hwhole]
    by_cases hu : Unterminated w
    · rw [lineCount_of_unterminated hu, or_iff_right (not_not.mpr hu)]
      exact Nat.succ_le_iff
    · rw [lineCount_of_terminated hu]
      exact iff_of_true hcount (.inl hu)
  · have hmany : n < w.count newline := by
      have hlonger := count_of_longer hnl (List.suffix_refl w) (by
        obtain ⟨hk, -⟩ := List.getElem?_eq_some_iff.mp hnl
        rw [List.length_drop]
        omega)
      rwa [hcount] at hlonger
    rw [hcut, or_iff_left (Nat.not_lt_of_lt hmany)]
    have hlast := unterminated_drop_iff hnl
    by_cases hu : Unterminated w
    · -- the piece at the end is one line more
      refine iff_of_false (fun h => ?_) (not_not.mpr hu)
      have hfew := h.few
      rw [lineCount_of_unterminated (hlast.mpr hu), hcount] at hfew
      omega
    · refine iff_of_true ⟨List.drop_suffix _ _, ?_, fun u hsuffix hfew => ?_⟩ hu
      · rw [lineCount_of_terminated (mt hlast.mp hu), hcount]
      · by_contra hlen
        have hlonger := count_of_longer hnl hsuffix (Nat.lt_of_not_le hlen)
        have hlines := count_le_lineCount u
        omega

/-! ### A call -/

/-- The window is the end of the file. -/
theorem window_eq (content : List UInt8) (bufSize : Nat) :
    window content bufSize = content.drop (content.length - (bufSize - 1)) := by
  have hstart : (if bufSize - 1 < content.length then content.length - (bufSize - 1) else 0) =
      content.length - (bufSize - 1) := by
    split_ifs <;> omega
  have hlen : (content.drop (content.length - (bufSize - 1))).length ≤ bufSize - 1 := by
    rw [List.length_drop]
    omega
  rw [window, hstart, List.take_of_length_le hlen]

/-- A call is served: its arguments are valid, and the file of this content is opened. The number of
    lines is not checked. -/
structure Served (a : CardAccess) (name : Name) (bufSize : Nat) (content : List UInt8) : Prop where
  safe : nameIsSafe name = true
  size : 2 ≤ bufSize
  present : a.present = true
  taken : a.taken = true
  file : a.fopenR name = some content

/-- What a call that is served returns. -/
theorem sdlogTailFile_eq (h : Served a name bufSize w) (nLines : Int) :
    let buf := w.drop (w.length - (bufSize - 1))
    let t := buf.drop (findCut buf (wantedLines nLines) buf.length 0)
    sdlogTailFile a name nLines bufSize = .ok (t, t.length) := by
  intro buf t
  have hsize : ¬ bufSize < 2 := by
    have := h.size
    omega
  have hlen : t.length = buf.length - findCut buf (wantedLines nLines) buf.length 0 :=
    List.length_drop
  -- None of the refusals applies to a call that is served.
  simp only [sdlogTailFile, h.safe, h.present, h.taken, h.file, hsize, window_eq, Bool.not_true,
    Bool.false_or, decide_false, Bool.false_eq_true, if_false]
  rw [hlen]
  -- Nothing to cut off is the case that the source handles without `memmove`.
  split_ifs with hcut
  · rfl
  · have hzero : findCut buf (wantedLines nLines) buf.length 0 = 0 := Nat.eq_zero_of_not_pos hcut
    have hwhole : t = buf := by
      show buf.drop _ = buf
      rw [hzero, List.drop_zero]
    rw [hzero, hwhole, Nat.sub_zero]

/-- **The last lines.** A call that is served returns the longest part of the last `buf_size - 1`
    bytes that has at most so many lines exactly if these are no bytes, end with a newline, or have
    fewer newlines. -/
theorem tail_exact_iff (a : CardAccess) (name : Name) (nLines : Int) (bufSize : Nat) :
    (∀ content, Served a name bufSize content →
      ∃ t, sdlogTailFile a name nLines bufSize = .ok (t, t.length) ∧
        IsTail (content.drop (content.length - (bufSize - 1))) (wantedLines nLines) t) ↔
      ∀ content, Served a name bufSize content →
        let w := content.drop (content.length - (bufSize - 1))
        w = [] ∨ w.getLast? = some newline ∨ w.count newline < wantedLines nLines := by
  refine forall₂_congr fun content h => ?_
  have hterminated : ∀ w : List UInt8, ¬ Unterminated w ↔ w = [] ∨ w.getLast? = some newline := by
    intro w
    rw [Unterminated, not_and_or, not_not, not_not]
  rw [← or_assoc, ← hterminated, ← isTail_cut_iff, sdlogTailFile_eq h]
  constructor
  · rintro ⟨t, heq, htail⟩
    obtain ⟨rfl, -⟩ := Prod.mk.inj (Except.ok.inj heq)
    exact htail
  · exact fun htail => ⟨_, rfl, htail⟩

/-- A file with two lines, of which the last one was cut off. -/
def cutOffCard : Card where
  files := [⟨logName 7, false, [0x61, newline, 0x62]⟩]
  distinct := by decide
  short := by decide

/-- Of the one line that is asked for there are two. -/
theorem two_lines_for_one :
    ¬ ∀ (a : CardAccess) (name : Name) (nLines : Int) (bufSize : Nat), 1 ≤ nLines →
      ∀ content, Served a name bufSize content →
        ∃ t, sdlogTailFile a name nLines bufSize = .ok (t, t.length) ∧
          IsTail (content.drop (content.length - (bufSize - 1))) nLines.toNat t := by
  intro h
  have hserved : Served ⟨true, true, true, cutOffCard⟩ (logName 7) 100 [0x61, newline, 0x62] :=
    ⟨by decide, by decide, rfl, rfl, by decide⟩
  obtain ⟨t, heq, htail⟩ := h _ _ 1 _ (by decide) _ hserved
  have hwhole : sdlogTailFile ⟨true, true, true, cutOffCard⟩ (logName 7) 1 100 =
      .ok ([0x61, newline, 0x62], 3) := by rfl
  rw [hwhole] at heq
  obtain ⟨rfl, -⟩ := Prod.mk.inj (Except.ok.inj heq)
  exact absurd htail.few (by decide)

end SubnetRouter.FlightRecorder
