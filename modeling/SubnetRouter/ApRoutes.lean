import Mathlib.Data.List.DropRight
import SubnetRouter.Net.Dotted

namespace SubnetRouter.ApRoutes

/-!
# The AP subnet among the advertised routes (`main/web_ui.c`)

After a change of the AP's address `maintain_ap_cidr_in_routes` proposes a text of routes with the
new subnet in place of the old one.  It builds the text in an array of 512 bytes: with `strlcat`,
which looks at the room that is left, and with `strncat`, which does not.

* `maintainApCidrInRoutes` — the code, with how far it writes.
* `keep`, `intended` — the lines that are kept, and those that should be proposed.
* `Building.Holds` — what the array holds while it is built; `buildRoutes_spec`.
* `maintain_proper_iff` — when the array is large enough, and the proposal is right.
-/

/-! ### The code -/

/-- A C string. -/
abbrev Text := List Char

/-- `\n` or `\r`. -/
def isEol (c : Char) : Bool := c == '\n' || c == '\r'

/-- A blank or a tab. -/
def isBlank (c : Char) : Bool := c == ' ' || c == '\t'

/-- The lines that the two passes see: without the blanks at their ends, and without empty ones. -/
def routeLines (text : Text) : List Text :=
  ((text.splitOnP isEol).map (List.rdropWhile isBlank)).filter (· ≠ [])

/-- `sizeof out`, and the size of the array that the proposal is copied to. -/
def outSize : Nat := 512

/-- `out`: its text, and the end of the furthest write. -/
structure OutBuffer where
  text : Text
  written : Nat

namespace OutBuffer

/-- `out[0] = '\0'`. -/
def empty : OutBuffer := ⟨[], 1⟩

/-- `strlcat(out, src, sizeof out)`. What does not fit is cut off; how far the array was written is
    kept beside the text. -/
def strlcat (b : OutBuffer) (src : Text) : OutBuffer :=
  if outSize ≤ b.text.length then b
  else
    let text := b.text ++ src.take (outSize - 1 - b.text.length)
    ⟨text, max b.written (text.length + 1)⟩

/-- `strncat(out, p, llen)`. -/
def strncat (b : OutBuffer) (line : Text) : OutBuffer :=
  ⟨b.text ++ line, max b.written ((b.text ++ line).length + 1)⟩

/-- `if (out[0]) strlcat(out, "\n", sizeof out)`. -/
def separate (b : OutBuffer) : OutBuffer := if b.text ≠ [] then b.strlcat ['\n'] else b

end OutBuffer

/-- `out` and `out_has_new`. -/
structure Building where
  out : OutBuffer
  outHasNew : Bool

/-- One line of the second pass. The old subnet is dropped, the new one kept once, and every other
    line kept as it is. -/
def Building.addLine (oldCidr : Option Text) (newCidr : Text) (b : Building) (line : Text) :
    Building :=
  let unchanged := oldCidr = some newCidr
  let isOld := ¬ unchanged ∧ oldCidr = some line
  let isNew := newCidr = line
  if isNew ∧ b.outHasNew then b
  else if ¬ isOld then ⟨b.out.separate.strncat line, b.outHasNew || isNew⟩
  else b

/-- The text that is built. -/
def buildRoutes (routes : Option Text) (oldCidr : Option Text) (newCidr : Text) : OutBuffer :=
  let b := (routeLines (routes.getD [])).foldl (Building.addLine oldCidr newCidr) ⟨.empty, false⟩
  if ¬ b.outHasNew then b.out.separate.strlcat newCidr else b.out

/-- The proposal, if there is one, and the end of the furthest write to `out`. -/
structure Offer where
  proposal : Option Text
  written : Nat

/-- `maintain_ap_cidr_in_routes`. Nothing is offered where the result is what is stored already, so
    that the settings are not written again. -/
def maintainApCidrInRoutes (routes oldCidr newCidr : Option Text) : Offer :=
  match newCidr with
  | none => ⟨none, 0⟩
  | some newCidr =>
    if newCidr = [] then ⟨none, 0⟩
    else
      let out := buildRoutes routes oldCidr newCidr
      if routes = some out.text then ⟨none, out.written⟩
      else ⟨some (out.text.take (outSize - 1)), out.written⟩

/-! ### The subnets that it is called with -/

/-- The text of a subnet: not empty, and without line ends and blanks. -/
structure Cidr where
  text : Text
  ne_nil : text ≠ []
  clean : ∀ c ∈ text, isEol c = false ∧ isBlank c = false

/-- `"%s/%u"`. -/
def cidrText (network : Ip4) (bits : Nat) : Text :=
  dotted network ++ '/' :: Nat.toDigits 10 bits

theorem clean_of_isDotted {c : Char} (h : isDotted c = true) :
    isEol c = false ∧ isBlank c = false := by
  have hne : ∀ d : Char, isDotted d = false → c ≠ d := by
    rintro d hd rfl
    rw [hd] at h
    cases h
  simp [isEol, isBlank, hne '\n' rfl, hne '\r' rfl, hne ' ' rfl, hne '\t' rfl]

/-- A subnet. -/
def Cidr.ofPrefix (network : Ip4) (bits : Nat) : Cidr where
  text := cidrText network bits
  ne_nil := by simp [cidrText]
  clean c hc := by
    rcases List.mem_append.mp hc with hmem | hmem
    · exact clean_of_isDotted (isDotted_of_mem_dotted hmem)
    rcases List.mem_cons.mp hmem with rfl | hmem
    · decide
    · have hdigit := Nat.isDigit_of_mem_toDigits (by decide) (by decide) hmem
      exact clean_of_isDotted (by rw [isDotted, hdigit, Bool.or_true])

/-- The loop of `subnet_mask_prefix_len`: how often it goes round, and what is left. A mask with
    ones behind a zero leaves some of them. -/
def leadingOnes : Nat → Ip4 → Nat × Ip4
  | 0, bits => (0, bits)
  | k + 1, bits =>
    if bits.msb then
      let rest := leadingOnes k (bits <<< 1)
      (rest.1 + 1, rest.2)
    else (0, bits)

/-- `subnet_mask_prefix_len`. -/
def subnetMaskPrefixLen (mask : Ip4) : Option Nat :=
  let ones := leadingOnes 32 mask
  if ones.2 ≠ 0#32 then none else some ones.1

/-- `compute_ap_cidr_from_nvs`, on `ap_ip` and `ap_mask`. Whatever is missing or does not parse
    leads to the default subnet. -/
def computeApCidrFromNvs (aton : Text → Option Ip4) (ipStr maskStr : Option Text) : Cidr :=
  let parsed := do
    let ip ← (← ipStr.filter (· ≠ [])) |> aton
    let mask ← (← maskStr.filter (· ≠ [])) |> aton
    let bits ← subnetMaskPrefixLen mask
    pure (Cidr.ofPrefix (ip &&& mask) bits)
  parsed.getD (.ofPrefix (192#8 ++ 168#8 ++ 4#8 ++ 0#8) 24)

example : (computeApCidrFromNvs (fun _ => none) none none).text = "192.168.4.0/24".toList := by
  decide

/-! ### What should be proposed -/

/-- The lines that are kept: not the old subnet, unless it is the new one, and the new subnet
    once. -/
def keep (old : Option Text) (new : Text) : Bool → List Text → List Text
  | _, [] => []
  | seen, line :: lines =>
    if line = new then if seen then keep old new seen lines else line :: keep old new true lines
    else if old = some line then keep old new seen lines
    else line :: keep old new seen lines

/-- The kept lines, and the new subnet. -/
def intended (old : Option Text) (new : Text) (lines : List Text) : List Text :=
  let kept := keep old new false lines
  if new ∈ kept then kept else kept ++ [new]

/-- Lines as a text. -/
def join (lines : List Text) : Text := ['\n'].intercalate lines

/-- All writes to `out` are within it; and a proposal has the stored routes but the old and the new
    subnet in their order, the old one only if it is the new one, and the new one once; and gives no
    further proposal when it is stored, with either subnet as the old one. -/
structure Proper (routes old : Option Text) (new : Text) (offer : Offer) : Prop where
  inBounds : offer.written ≤ outSize
  others : ∀ p ∈ offer.proposal, (routeLines p).filter (· ≠ new) =
    (routeLines (routes.getD [])).filter fun line => line ≠ new ∧ old ≠ some line
  old_only : ∀ p ∈ offer.proposal, ∀ o ∈ old, o ∈ routeLines p → o = new
  new_once : ∀ p ∈ offer.proposal, (routeLines p).count new = 1
  settled : ∀ p ∈ offer.proposal, ∀ old' ∈ [old, some new],
    (maintainApCidrInRoutes (some p) old' (some new)).proposal = none

/-! ### Lines -/

variable {old old' : Option Text} {new line : Text} {lines kept : List Text} {seen : Bool}
  {b : OutBuffer} {st : Building}

/-- A line as the passes see it. -/
def Clean (line : Text) : Prop :=
  line ≠ [] ∧ (∀ c ∈ line, isEol c = false) ∧ line.rdropWhile isBlank = line

theorem Cidr.clean_text (c : Cidr) : Clean c.text := by
  refine ⟨c.ne_nil, fun ch hch => (c.clean ch hch).1, ?_⟩
  refine List.rdropWhile_eq_self_iff.mpr fun hne => ?_
  rw [(c.clean _ (List.getLast_mem hne)).2]
  decide

theorem routeLines_nil : routeLines [] = [] := rfl

/-- A text of one line. -/
theorem routeLines_of_clean (h : Clean line) : routeLines line = [line] := by
  rw [routeLines, List.splitOnP_eq_singleton h.2.1, List.map_singleton, h.2.2]
  simp [h.1]

/-- Two texts with a line end between them. -/
theorem routeLines_append (s t : Text) :
    routeLines (s ++ '\n' :: t) = routeLines s ++ routeLines t := by
  rw [routeLines, List.splitOnP_append_cons s t (by decide), List.map_append, List.filter_append]
  rfl

/-- No piece has a line end. -/
theorem isEol_of_mem_splitOnP {text piece : Text} (h : piece ∈ text.splitOnP isEol) :
    ∀ c ∈ piece, isEol c = false := by
  induction text generalizing piece with
  | nil =>
    rw [List.splitOnP_nil, List.mem_singleton] at h
    rw [h]
    nofun
  | cons c text ih =>
    -- `c` either ends a piece, or belongs to the first piece of the rest.
    rw [List.splitOnP_cons_eq_if_modifyHead] at h
    by_cases hc : isEol c = true
    · rw [if_pos hc] at h
      rcases List.mem_cons.mp h with rfl | hmem
      · nofun
      · exact ih hmem
    · rw [if_neg hc] at h
      cases hpieces : text.splitOnP isEol with
      | nil => exact absurd hpieces (List.splitOnP_ne_nil _ _)
      | cons first rest =>
        rw [hpieces] at h ih
        rcases List.mem_cons.mp h with rfl | hmem
        · exact List.forall_mem_cons.mpr ⟨by simpa using hc, ih List.mem_cons_self⟩
        · exact ih (List.mem_cons_of_mem _ hmem)

/-- Every line is clean. -/
theorem clean_of_mem_routeLines {text : Text} (h : line ∈ routeLines text) : Clean line := by
  obtain ⟨hmem, hne⟩ := List.mem_filter.mp h
  obtain ⟨piece, hpiece, rfl⟩ := List.mem_map.mp hmem
  refine ⟨by simpa using hne, fun c hc => ?_, List.rdropWhile_idempotent _ _⟩
  exact isEol_of_mem_splitOnP hpiece c ((List.rdropWhile_prefix _ _).subset hc)

theorem join_concat (hne : lines ≠ []) : join (lines ++ [line]) = join lines ++ '\n' :: line := by
  induction lines with
  | nil => exact absurd rfl hne
  | cons first rest ih =>
    cases rest with
    | nil => simp [join]
    | cons second rest =>
      have hrest := ih (List.cons_ne_nil _ _)
      rw [join] at hrest ⊢
      rw [List.cons_append, List.cons_append, List.intercalate_cons_cons, ← List.cons_append, hrest,
        join, join, List.intercalate_cons_cons]
      simp

/-- The lines of a text of clean lines. -/
theorem routeLines_join (h : ∀ line ∈ lines, Clean line) : routeLines (join lines) = lines := by
  induction lines using List.reverseRecOn with
  | nil => rfl
  | append_singleton lines line ih =>
    rw [List.forall_mem_append, List.forall_mem_singleton] at h
    by_cases hne : lines = []
    · subst hne
      rw [List.nil_append, join, List.intercalate_singleton]
      exact routeLines_of_clean h.2
    · rw [join_concat hne, routeLines_append, ih h.1, routeLines_of_clean h.2]

theorem join_eq_nil_iff (h : ∀ line ∈ lines, Clean line) : join lines = [] ↔ lines = [] := by
  constructor
  · intro hnil
    have hlines := routeLines_join h
    rw [hnil, routeLines_nil] at hlines
    exact hlines.symm
  · rintro rfl
    rfl

/-! ### What is kept -/

theorem keep_sublist : (keep old new seen lines).Sublist lines := by
  induction lines generalizing seen with
  | nil => exact .slnil
  | cons line lines ih =>
    rw [keep]
    split_ifs
    · exact ih.cons _
    · exact ih.cons_cons _
    · exact ih.cons _
    · exact ih.cons_cons _

/-- The other lines are kept in their order. -/
theorem filter_keep : (keep old new seen lines).filter (· ≠ new) =
    lines.filter fun line => line ≠ new ∧ old ≠ some line := by
  induction lines generalizing seen with
  | nil => rfl
  | cons line lines ih =>
    rw [keep]
    split_ifs with hnew hseen hold
    · rw [ih, List.filter_cons_of_neg (by simp [hnew])]
    · rw [List.filter_cons_of_neg (by simp [hnew]), ih, List.filter_cons_of_neg (by simp [hnew])]
    · rw [ih, List.filter_cons_of_neg (by simp [hold])]
    · rw [List.filter_cons_of_pos (by simp [hnew]), ih,
        List.filter_cons_of_pos (by simp [hnew, hold])]

theorem new_notMem_keep : new ∉ keep old new true lines := by
  induction lines with
  | nil => exact List.not_mem_nil
  | cons line lines ih =>
    rw [keep]
    by_cases hnew : line = new
    · rw [if_pos hnew, if_pos rfl]
      exact ih
    by_cases hold : old = some line
    · rw [if_neg hnew, if_pos hold]
      exact ih
    · rw [if_neg hnew, if_neg hold, List.mem_cons, not_or]
      exact ⟨Ne.symm hnew, ih⟩

/-- The new subnet is kept once. -/
theorem count_keep : (keep old new false lines).count new = if new ∈ lines then 1 else 0 := by
  induction lines with
  | nil => rfl
  | cons line lines ih =>
    rw [keep]
    by_cases hnew : line = new
    · rw [if_pos hnew, if_neg Bool.false_ne_true, hnew, List.count_cons_self,
        List.count_eq_zero_of_not_mem new_notMem_keep, if_pos List.mem_cons_self]
    have hmem : new ∈ line :: lines ↔ new ∈ lines := by simp [Ne.symm hnew]
    rw [if_neg hnew, if_congr hmem rfl rfl]
    by_cases hold : old = some line
    · rw [if_pos hold]
      exact ih
    · rw [if_neg hold, List.count_cons_of_ne hnew]
      exact ih

/-- Lines that are as they should be are all kept. -/
theorem keep_eq_self (hold : ∀ o ∈ old, o ∈ lines → o = new) (hcount : lines.count new ≤ 1)
    (hseen : seen = true → new ∉ lines) : keep old new seen lines = lines := by
  induction lines generalizing seen with
  | nil => rfl
  | cons line lines ih =>
    have hrest : ∀ o ∈ old, o ∈ lines → o = new := fun o ho hmem =>
      hold o ho (List.mem_cons_of_mem _ hmem)
    rw [keep]
    by_cases hnew : line = new
    · subst hnew
      rw [List.count_cons_self] at hcount
      rw [if_pos rfl, if_neg fun hs => hseen hs List.mem_cons_self,
        ih hrest (by omega) fun _ => List.count_eq_zero.mp (by omega)]
    · have hne : ¬ old = some line := fun ho => hnew (hold line ho List.mem_cons_self)
      rw [if_neg hnew, if_neg hne,
        ih hrest (Nat.le_trans (List.count_le_count_cons) hcount)
          fun hs hmem => hseen hs (List.mem_cons_of_mem _ hmem)]

/-! ### What is built -/

namespace OutBuffer

theorem written_le_strlcat (b : OutBuffer) (src : Text) : b.written ≤ (b.strlcat src).written := by
  unfold strlcat
  split_ifs
  · exact Nat.le_refl _
  · exact Nat.le_max_left _ _

theorem written_le_separate (b : OutBuffer) : b.written ≤ b.separate.written := by
  unfold separate
  split_ifs
  · exact written_le_strlcat b _
  · exact Nat.le_refl _

/-- Behind a text that is within the array `strlcat` stays within it. -/
theorem strlcat_spec (src : Text) (hlen : b.text.length < outSize) :
    (b.strlcat src).text = (b.text ++ src).take (outSize - 1) ∧
      (b.written ≤ outSize → (b.strlcat src).written ≤ outSize) := by
  have hfits : b.text.length ≤ outSize - 1 := by omega
  rw [strlcat, if_neg (by omega)]
  refine ⟨by rw [List.take_append, List.take_of_length_le hfits], fun h => Nat.max_le.mpr ⟨h, ?_⟩⟩
  rw [List.length_append, List.length_take]
  omega

/-- A text that fits. -/
theorem strlcat_eq {text src : Text} {written : Nat} (hlen : text.length + src.length < outSize)
    (hwritten : written ≤ text.length + 1) :
    strlcat ⟨text, written⟩ src = ⟨text ++ src, text.length + src.length + 1⟩ := by
  have hroom : ¬ outSize ≤ text.length := by omega
  have hall : src.length ≤ outSize - 1 - text.length := by omega
  have hmax : written ≤ text.length + src.length + 1 := by omega
  rw [strlcat, if_neg hroom]
  dsimp only
  rw [List.take_of_length_le hall, List.length_append, Nat.max_eq_right hmax]

theorem strncat_eq {text line : Text} {written : Nat} (hwritten : written ≤ text.length + 1) :
    strncat ⟨text, written⟩ line = ⟨text ++ line, (text ++ line).length + 1⟩ := by
  have hmax : written ≤ (text ++ line).length + 1 := by
    rw [List.length_append]
    omega
  rw [strncat]
  dsimp only
  rw [Nat.max_eq_right hmax]

/-- The array holds the kept lines, or too much has been written to it. -/
structure Holds (b : OutBuffer) (kept : List Text) : Prop where
  fits : (join kept).length < outSize → b = ⟨join kept, (join kept).length + 1⟩
  beyond : outSize ≤ (join kept).length → outSize < b.written

theorem holds_empty : empty.Holds [] where
  fits _ := rfl
  beyond h := absurd h (by decide)

/-- A line is added. What is written behind the end of the array counts as written, too, so the
    lengths stay those of the lines. -/
theorem Holds.add (h : b.Holds kept) (hkept : ∀ line ∈ kept, Clean line) (hline : Clean line) :
    (b.separate.strncat line).Holds (kept ++ [line]) := by
  have hpos := List.length_pos_iff.mpr hline.1
  by_cases hne : kept = []
  · subst hne
    obtain rfl := h.fits (by decide)
    have hjoin : join ([] ++ [line]) = line := List.intercalate_singleton
    have hadded : (separate ⟨join [], (join []).length + 1⟩).strncat line =
        ⟨line, line.length + 1⟩ := strncat_eq (Nat.le_refl _)
    rw [hadded]
    refine ⟨fun _ => by rw [hjoin], fun hover => ?_⟩
    rw [hjoin] at hover
    exact Nat.lt_succ_of_le hover
  · have htext : join kept ≠ [] := fun hnil => hne ((join_eq_nil_iff hkept).mp hnil)
    have hlen : (join (kept ++ [line])).length = (join kept).length + 1 + line.length := by
      rw [join_concat hne, List.length_append, List.length_cons]
      omega
    constructor
    · intro hfits
      have hjoin : join kept ++ ['\n'] ++ line = join (kept ++ [line]) := by
        rw [join_concat hne, List.append_assoc, List.singleton_append]
      rw [h.fits (by omega), separate, if_pos htext,
        strlcat_eq (by rw [List.length_singleton]; omega) (by omega),
        strncat_eq (by rw [List.length_append]), hjoin]
    · intro hover
      by_cases hj : (join kept).length < outSize
      · -- one character at most is cut, but the line is not
        obtain rfl := h.fits hj
        have hsep := (strlcat_spec (b := ⟨join kept, (join kept).length + 1⟩) ['\n'] hj).1
        have hwritten : (((join kept ++ ['\n']).take (outSize - 1)) ++ line).length + 1 ≤
            ((separate ⟨join kept, (join kept).length + 1⟩).strncat line).written := by
          rw [separate, if_pos htext, strncat, hsep]
          exact Nat.le_max_right _ _
        rw [List.length_append, List.length_take, List.length_append, List.length_singleton]
          at hwritten
        omega
      · exact Nat.lt_of_lt_of_le (h.beyond (by omega))
          (Nat.le_trans (written_le_separate b) (Nat.le_max_left _ _))

end OutBuffer

/-- A line is kept or not as in `keep`. -/
theorem addLine_eq (st : Building) (line : Text) : st.addLine old new line =
    if line = new then if st.outHasNew then st else ⟨st.out.separate.strncat line, true⟩
    else if old = some line then st
    else ⟨st.out.separate.strncat line, st.outHasNew⟩ := by
  unfold Building.addLine
  by_cases hnew : line = new
  · subst hnew
    by_cases hseen : st.outHasNew = true
    · simp [hseen]
    · by_cases hold : old = some line <;> simp [hseen, hold]
  · by_cases hold : old = some line
    · subst hold
      simp [hnew, Ne.symm hnew]
    · simp [hnew, Ne.symm hnew, hold]

/-- **The second pass** keeps the lines of `keep` in the array, or writes behind it. By induction on
    the lines, for any lines kept so far. -/
theorem holds_foldl (old : Option Text) (new : Text) (st : Building) (kept : List Text)
    (hlines : ∀ line ∈ lines, Clean line) (hkept : ∀ line ∈ kept, Clean line)
    (h : st.out.Holds kept) (hseen : st.outHasNew = true ↔ new ∈ kept) :
    let built := lines.foldl (Building.addLine old new) st
    let all := kept ++ keep old new st.outHasNew lines
    built.out.Holds all ∧ (built.outHasNew = true ↔ new ∈ all) := by
  induction lines generalizing st kept with
  | nil => simpa [keep] using ⟨h, hseen⟩
  | cons line lines ih =>
    rw [List.forall_mem_cons] at hlines
    have hadded := h.add hkept hlines.1
    have hkept' : ∀ l ∈ kept ++ [line], Clean l := by
      rw [List.forall_mem_append, List.forall_mem_singleton]
      exact ⟨hkept, hlines.1⟩
    rw [List.foldl_cons, addLine_eq, keep]
    -- The three cases of a line: the new subnet, the old one, and every other.
    by_cases hnew : line = new
    · rw [if_pos hnew, if_pos hnew]
      -- A second copy of the new subnet is dropped, the first one is kept in its place.
      by_cases hs : st.outHasNew = true
      · rw [if_pos hs, if_pos hs]
        exact ih st kept hlines.2 hkept h hseen
      · rw [if_neg hs, if_neg hs, List.append_cons]
        refine ih _ _ hlines.2 hkept' hadded (iff_of_true rfl ?_)
        rw [hnew]
        exact List.mem_append_right _ (List.mem_singleton.mpr rfl)
    · rw [if_neg hnew, if_neg hnew]
      by_cases hold : old = some line
      · rw [if_pos hold, if_pos hold]
        exact ih st kept hlines.2 hkept h hseen
      · rw [if_neg hold, if_neg hold, List.append_cons]
        refine ih _ _ hlines.2 hkept' hadded (hseen.trans ?_)
        simp [Ne.symm hnew]

theorem take_take_append (s t : Text) (n : Nat) : (s.take n ++ t).take n = (s ++ t).take n := by
  rw [List.take_append, List.take_append, List.take_take, Nat.min_self, List.length_take]
  congr 2
  omega

/-- Behind kept lines that fit the new subnet is appended as far as there is room. Nothing is
    written behind the array then. -/
theorem append_new_spec (new : Text) (hkept : ∀ line ∈ kept, Clean line)
    (hlen : (join kept).length < outSize) :
    ((OutBuffer.separate ⟨join kept, (join kept).length + 1⟩).strlcat new).written ≤ outSize ∧
      ((OutBuffer.separate ⟨join kept, (join kept).length + 1⟩).strlcat new).text =
        (join (kept ++ [new])).take (outSize - 1) := by
  by_cases hne : kept = []
  · subst hne
    obtain ⟨htext, hwritten⟩ := OutBuffer.strlcat_spec (b := ⟨[], 1⟩) new (by decide)
    have hjoin : join ([] ++ [new]) = [] ++ new := List.intercalate_singleton
    rw [hjoin]
    exact ⟨hwritten (by decide), htext⟩
  · have hsep : OutBuffer.separate ⟨join kept, (join kept).length + 1⟩ =
        OutBuffer.strlcat ⟨join kept, (join kept).length + 1⟩ ['\n'] :=
      if_pos fun hnil => hne ((join_eq_nil_iff hkept).mp hnil)
    obtain ⟨htext, hwritten⟩ := OutBuffer.strlcat_spec (b := ⟨join kept, (join kept).length + 1⟩)
      ['\n'] hlen
    rw [hsep]
    have hlen' : (OutBuffer.strlcat ⟨join kept, (join kept).length + 1⟩ ['\n']).text.length <
        outSize := by
      rw [htext, List.length_take]
      omega
    obtain ⟨htext', hwritten'⟩ := OutBuffer.strlcat_spec new hlen'
    refine ⟨hwritten' (hwritten hlen), ?_⟩
    -- the separator may already be cut, and then nothing of the subnet is there
    rw [htext', htext, take_take_append, join_concat hne, List.append_assoc,
      List.singleton_append]

/-- The array at the end. Up to its size the proposal is that of the intended lines, and beyond it
    something is written behind it. -/
theorem buildRoutes_spec (routes old : Option Text) (new : Text) :
    let lines := routeLines (routes.getD [])
    let out := buildRoutes routes old new
    ((join (keep old new false lines)).length < outSize → out.written ≤ outSize ∧
        out.text = (join (intended old new lines)).take (outSize - 1)) ∧
      (outSize ≤ (join (keep old new false lines)).length → outSize < out.written) := by
  intro lines out
  have hclean : ∀ line ∈ lines, Clean line := fun line => clean_of_mem_routeLines
  obtain ⟨hbuilt, hseen⟩ := holds_foldl old new ⟨OutBuffer.empty, false⟩ [] hclean nofun
    OutBuffer.holds_empty (by simp)
  rw [List.nil_append] at hbuilt hseen
  -- The folding starts from the empty array, which holds no line.
  have hout : out = if ¬ (lines.foldl (Building.addLine old new) ⟨.empty, false⟩).outHasNew then
      (lines.foldl (Building.addLine old new) ⟨.empty, false⟩).out.separate.strlcat new
    else (lines.foldl (Building.addLine old new) ⟨.empty, false⟩).out := rfl
  generalize lines.foldl (Building.addLine old new) ⟨.empty, false⟩ = st at *
  generalize hkept : keep old new false lines = kept at *
  have hkeptClean : ∀ line ∈ kept, Clean line := fun line hmem =>
    hclean line (keep_sublist.subset (hkept ▸ hmem))
  rw [hout, intended, hkept]
  -- The new subnet is appended behind the loop exactly if no line was equal to it.
  by_cases hmem : new ∈ kept
  · rw [if_neg (not_not.mpr (hseen.mpr hmem)), if_pos hmem]
    refine ⟨fun hlen => ?_, hbuilt.beyond⟩
    have hall : (join kept).length ≤ outSize - 1 := by omega
    rw [hbuilt.fits hlen]
    exact ⟨hlen, (List.take_of_length_le hall).symm⟩
  · rw [if_pos fun hs => hmem (hseen.mp hs), if_neg hmem]
    refine ⟨fun hlen => ?_, fun hover => Nat.lt_of_lt_of_le (hbuilt.beyond hover)
      (Nat.le_trans (OutBuffer.written_le_separate _) (OutBuffer.written_le_strlcat _ _))⟩
    rw [hbuilt.fits hlen]
    exact append_new_spec new hkeptClean hlen

/-! ### The proposal -/

section Intended

variable (old new lines)

theorem intended_cases :
    new ∈ keep old new false lines ∧ intended old new lines = keep old new false lines ∨
      new ∉ keep old new false lines ∧
        intended old new lines = keep old new false lines ++ [new] := by
  by_cases hmem : new ∈ keep old new false lines
  · exact .inl ⟨hmem, if_pos hmem⟩
  · exact .inr ⟨hmem, if_neg hmem⟩

theorem clean_intended (hlines : ∀ line ∈ lines, Clean line) (hnew : Clean new) :
    ∀ line ∈ intended old new lines, Clean line := by
  have hkept : ∀ line ∈ keep old new false lines, Clean line := fun line hmem =>
    hlines line (keep_sublist.subset hmem)
  obtain ⟨-, heq⟩ | ⟨-, heq⟩ := intended_cases old new lines <;> rw [heq]
  · exact hkept
  · rw [List.forall_mem_append, List.forall_mem_singleton]
    exact ⟨hkept, hnew⟩

theorem filter_intended : (intended old new lines).filter (· ≠ new) =
    lines.filter fun line => line ≠ new ∧ old ≠ some line := by
  obtain ⟨-, heq⟩ | ⟨-, heq⟩ := intended_cases old new lines <;> rw [heq]
  · exact filter_keep
  · rw [List.filter_append, filter_keep, List.filter_cons_of_neg (by simp), List.filter_nil,
      List.append_nil]

theorem count_intended : (intended old new lines).count new = 1 := by
  obtain ⟨hmem, heq⟩ | ⟨hmem, heq⟩ := intended_cases old new lines <;> rw [heq]
  · rw [count_keep, if_pos (keep_sublist.subset hmem)]
  · rw [List.count_append, List.count_eq_zero_of_not_mem hmem, List.count_singleton_self]

theorem old_of_mem_intended {o : Text} (ho : o ∈ old) (hmem : o ∈ intended old new lines) :
    o = new := by
  by_contra hne
  have hfilter : o ∈ (intended old new lines).filter (· ≠ new) :=
    List.mem_filter.mpr ⟨hmem, by simpa using hne⟩
  rw [filter_intended, List.mem_filter] at hfilter
  simp [Option.mem_def.mp ho] at hfilter

end Intended

/-- A proposal is what is intended for itself. -/
theorem intended_eq_self (hold : ∀ o ∈ old, o ∈ lines → o = new) (hcount : lines.count new = 1) :
    keep old new false lines = lines ∧ intended old new lines = lines := by
  have hkeep : keep old new false lines = lines :=
    keep_eq_self hold (Nat.le_of_eq hcount) Bool.false_ne_true.elim
  refine ⟨hkeep, ?_⟩
  rw [intended, hkeep]
  exact if_pos (List.count_pos_iff.mp (by omega))

theorem maintain_eq (routes old : Option Text) (hnew : new ≠ []) :
    maintainApCidrInRoutes routes old (some new) =
      if routes = some (buildRoutes routes old new).text then
        ⟨none, (buildRoutes routes old new).written⟩
      else ⟨some ((buildRoutes routes old new).text.take (outSize - 1)),
        (buildRoutes routes old new).written⟩ := if_neg hnew

/-- A text as it should be gives no proposal. -/
theorem proposal_eq_none (hnew : new ≠ []) (hclean : ∀ line ∈ lines, Clean line)
    (hcount : lines.count new = 1) (hold : ∀ o ∈ old, o ∈ lines → o = new)
    (hlen : (join lines).length < outSize) :
    (maintainApCidrInRoutes (some (join lines)) old (some new)).proposal = none := by
  obtain ⟨hfit, -⟩ := buildRoutes_spec (some (join lines)) old new
  obtain ⟨hkeep, hintended⟩ := intended_eq_self hold hcount
  have hall : (join lines).length ≤ outSize - 1 := by omega
  rw [Option.getD_some, routeLines_join hclean, hkeep, hintended,
    List.take_of_length_le hall] at hfit
  rw [maintain_eq _ _ hnew, (hfit hlen).2, if_pos rfl]

/-- A part of the new subnet is not the new subnet. -/
theorem new_notMem_take (c : Cidr) {n : Nat} (h : n < c.text.length) :
    c.text ∉ routeLines (c.text.take n) := by
  intro hmem
  have hpiece : ∀ ch ∈ c.text.take n, isEol ch = false := fun ch hch =>
    (c.clean ch (List.mem_of_mem_take hch)).1
  rw [routeLines, List.splitOnP_eq_singleton hpiece, List.map_singleton] at hmem
  have heq := List.mem_singleton.mp (List.mem_of_mem_filter hmem)
  have hlen := (List.rdropWhile_prefix isBlank (c.text.take n)).length_le
  rw [← heq, List.length_take] at hlen
  omega

/-- Where the new subnet is cut off, the proposal does not have it. -/
theorem new_notMem_cut {c : Cidr} (hkept : ∀ line ∈ kept, Clean line) (hmem : c.text ∉ kept)
    (hfits : (join kept).length < outSize) (hover : outSize ≤ (join (kept ++ [c.text])).length) :
    c.text ∉ routeLines ((join (kept ++ [c.text])).take (outSize - 1)) := by
  by_cases hne : kept = []
  · subst hne
    have hjoin : join ([] ++ [c.text]) = c.text := List.intercalate_singleton
    rw [hjoin] at hover ⊢
    exact new_notMem_take c (by omega)
  · rw [join_concat hne, List.length_append, List.length_cons] at hover
    rw [join_concat hne, List.take_append, List.take_of_length_le (by omega)]
    cases hroom : outSize - 1 - (join kept).length with
    | zero =>
      rw [List.take_zero, List.append_nil, routeLines_join hkept]
      exact hmem
    | succ n =>
      rw [List.take_succ_cons, routeLines_append, routeLines_join hkept, List.mem_append, not_or]
      exact ⟨hmem, new_notMem_take c (by omega)⟩

/-- Where the kept lines do not fit, one of them is appended behind the array. -/
theorem written_of_long (routes old : Option Text) (hnew : new ≠ [])
    (hlong : outSize ≤ (join (keep old new false (routeLines (routes.getD [])))).length) :
    outSize < (maintainApCidrInRoutes routes old (some new)).written := by
  have hwritten := (buildRoutes_spec routes old new).2 hlong
  rw [maintain_eq routes old hnew]
  split_ifs <;> exact hwritten

/-- **The intended lines** are a right proposal where they fit: the lines that were kept, and the
    new subnet once. -/
theorem proper_of_fits (routes : Option Text) (c : Cidr) {n : Nat} (hwritten : n ≤ outSize)
    (hfits : (join (intended old c.text (routeLines (routes.getD [])))).length < outSize) :
    Proper routes old c.text
      ⟨some (join (intended old c.text (routeLines (routes.getD [])))), n⟩ := by
  have hclean := clean_intended old c.text (routeLines (routes.getD []))
    (fun line => clean_of_mem_routeLines) c.clean_text
  have hcount := count_intended old c.text (routeLines (routes.getD []))
  have hold : ∀ o ∈ old, _ := fun o => old_of_mem_intended old c.text (routeLines (routes.getD []))
  -- The proposal is read back line by line, so each demand becomes one on the intended lines.
  have hproposed := routeLines_join hclean
  constructor
  · exact hwritten
  · rintro p ⟨⟩
    rw [hproposed, filter_intended]
  · rintro p ⟨⟩ o ho hmem
    rw [hproposed] at hmem
    exact hold o ho hmem
  · rintro p ⟨⟩
    rw [hproposed, hcount]
  · rintro p ⟨⟩
    -- A second call finds the new subnet, whether the old one is still asked for or not.
    rw [List.forall_mem_cons, List.forall_mem_singleton]
    refine ⟨proposal_eq_none c.ne_nil hclean hcount hold hfits,
      proposal_eq_none c.ne_nil hclean hcount (fun o ho _ => ?_) hfits⟩
    exact (Option.some.inj ho).symm

/-- Where only the kept lines fit, the new subnet is cut off, so it is not there once. -/
theorem not_proper_of_cut (routes : Option Text) (c : Cidr) {n : Nat}
    (hkeep : (join (keep old c.text false (routeLines (routes.getD [])))).length < outSize)
    (hcut : ¬ (join (intended old c.text (routeLines (routes.getD [])))).length < outSize) :
    ¬ Proper routes old c.text
      ⟨some ((join (intended old c.text (routeLines (routes.getD [])))).take (outSize - 1)),
        n⟩ := by
  intro h
  have honce := h.new_once _ rfl
  obtain ⟨-, heq⟩ | ⟨hmem, heq⟩ := intended_cases old c.text (routeLines (routes.getD []))
  · rw [heq] at hcut
    exact hcut hkeep
  · rw [heq] at honce hcut
    have hclean : ∀ line ∈ keep old c.text false (routeLines (routes.getD [])), Clean line :=
      fun line hl => clean_of_mem_routeLines (keep_sublist.subset hl)
    have hmissing := new_notMem_cut hclean hmem hkeep (Nat.le_of_not_lt hcut)
    rw [List.count_eq_zero_of_not_mem hmissing] at honce
    exact absurd honce (by decide)

/-- **The array is large enough, and the proposal right,** exactly if the kept lines fit into the
    array, and the new subnet behind them does too, unless the text that is cut is stored
    already. -/
theorem maintain_proper_iff (routes : Option Text) (old : Option Cidr) (new : Cidr) :
    Proper routes (old.map Cidr.text) new.text
        (maintainApCidrInRoutes routes (old.map Cidr.text) (some new.text)) ↔
      (join (keep (old.map Cidr.text) new.text false (routeLines (routes.getD [])))).length <
          outSize ∧
        ((join (intended (old.map Cidr.text) new.text (routeLines (routes.getD [])))).length <
            outSize ∨
          routes = some ((join (intended (old.map Cidr.text) new.text
            (routeLines (routes.getD [])))).take (outSize - 1))) := by
  generalize old.map Cidr.text = old'
  by_cases hkeep : (join (keep old' new.text false (routeLines (routes.getD [])))).length <
      outSize
  -- The kept lines fit: the array is not left, and only the new subnet can be cut.
  · obtain ⟨hwritten, htext⟩ := (buildRoutes_spec routes old' new.text).1 hkeep
    rw [maintain_eq routes old' new.ne_nil, and_iff_right hkeep, htext]
    -- If the result is what is stored already, the source proposes nothing at all.
    by_cases hsame : routes = some ((join (intended old' new.text
        (routeLines (routes.getD [])))).take (outSize - 1))
    · rw [if_pos hsame]
      exact iff_of_true ⟨hwritten, nofun, nofun, nofun, nofun⟩ (.inr hsame)
    · rw [if_neg hsame, or_iff_left hsame, List.take_take, Nat.min_self]
      by_cases hwhole : (join (intended old' new.text (routeLines (routes.getD [])))).length <
          outSize
      · have hall : (join (intended old' new.text (routeLines (routes.getD [])))).length ≤
            outSize - 1 := by omega
        rw [List.take_of_length_le hall]
        exact iff_of_true (proper_of_fits routes new hwritten hwhole) hwhole
      · exact iff_of_false (not_proper_of_cut routes new hkeep hwhole) hwhole
  -- The kept lines do not fit: the length that is counted runs past the array.
  · have hover := written_of_long routes old' new.ne_nil (Nat.le_of_not_lt hkeep)
    exact iff_of_false (fun h => absurd h.inBounds (Nat.not_le_of_lt hover)) fun h => hkeep h.1

/-- Forty subnets that are entered by hand. -/
def fortyRoutes : Text := join (List.replicate 40 "192.168.100.0/24".toList)

/-- 192.168.4.0/24. -/
def apCidr : Cidr := .ofPrefix (192#8 ++ 168#8 ++ 4#8 ++ 0#8) 24

/-- The array is overrun. -/
theorem long_routes_overrun :
    ¬ ∀ (routes : Option Text) (old : Option Cidr) (new : Cidr),
      Proper routes (old.map Cidr.text) new.text
        (maintainApCidrInRoutes routes (old.map Cidr.text) (some new.text)) := by
  intro h
  have hproper := h (some fortyRoutes) none apCidr
  have hlong : outSize ≤ (join (keep none apCidr.text false (routeLines fortyRoutes))).length := by
    decide +kernel
  have hover := written_of_long (some fortyRoutes) none apCidr.ne_nil hlong
  exact absurd hproper.inBounds (Nat.not_le_of_lt hover)

end SubnetRouter.ApRoutes
