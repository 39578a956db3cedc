import SubnetRouter.Settings.MultiKey

namespace SubnetRouter.Settings

open Lib FourVia6

/-!
# The LAN subnet that is shown (`main/fourvia6.c`)

`fourvia6_set_config` stores the text of the subnet as it was given.  What `fourvia6_get_status`
shows, and what the MQTT switch and the settings form send back, are the first 18 characters; the
parser takes texts of any length.

* `nul_notMem_of_parseCidr` — a valid text is a C string.
* `fourvia6SetConfig_cases` — the settings after a save.
* `shown_unchanged_iff` — the texts that may be sent back.
-/

/-! ### The parser -/

theorem nul_mem_dropWhile {s : List Char} {p : Char → Bool} (hp : p nul = false) (h : nul ∈ s) :
    nul ∈ s.dropWhile p := by
  rw [← List.takeWhile_append_dropWhile (p := p) (l := s), List.mem_append] at h
  refine h.resolve_left fun hmem => ?_
  rw [List.mem_takeWhile_imp hmem] at hp
  cases hp

/-- No number goes past a null character. So what is left of a text still has it. -/
theorem nul_mem_strtoul {s : List Char} (h : nul ∈ s) : nul ∈ (Web.strtoul s).2 := by
  unfold Web.strtoul
  extract_lets t negative u digits value value'
  split_ifs
  · exact h
  · have ht : nul ∈ t := nul_mem_dropWhile (by decide) h
    have hu : nul ∈ u := by
      show nul ∈ if negative || t.head? == some '+' then t.tail else t
      split_ifs with hsign
      · rcases hcons : t with _ | ⟨c, tail⟩
        · rw [hcons] at ht
          cases ht
        · rw [hcons] at ht
          refine (List.mem_cons.mp ht).resolve_left fun hc => ?_
          -- a null character is no sign
          have hno : (negative || t.head? == some '+') = false := by
            show (t.head? == some '-' || t.head? == some '+') = false
            rw [hcons, ← hc]
            rfl
          rw [hno] at hsign
          cases hsign
      · exact ht
    have hdrop : u.drop digits.length = u.dropWhile Char.isDigit := by
      conv_lhs => rw [← List.takeWhile_append_dropWhile (p := Char.isDigit) (l := u)]
      exact List.drop_left' rfl
    show nul ∈ u.drop digits.length
    rw [hdrop]
    exact nul_mem_dropWhile (by decide) hu

theorem nul_mem_of_scanU {s rest : List Char} {v : Nat} (h : scanU s = some (v, rest))
    (hnul : nul ∈ s) : nul ∈ rest := by
  unfold scanU at h
  split_ifs at h
  rw [Option.some.injEq] at h
  have hmem := nul_mem_strtoul hnul
  rwa [h] at hmem

theorem nul_mem_of_scanChar {s rest : List Char} {c : Char} (hc : c ≠ nul)
    (h : scanChar c s = some rest) (hnul : nul ∈ s) : nul ∈ rest := by
  unfold scanChar at h
  split_ifs at h with hhead
  rw [Option.some.injEq] at h
  rcases s with _ | ⟨d, tail⟩
  · cases hnul
  · rw [List.head?_cons, Option.some.injEq] at hhead
    rw [← h]
    exact (List.mem_cons.mp hnul).resolve_left fun heq => hc (hhead.symm.trans heq.symm)

/-- **A valid text is a C string.** -/
theorem nul_notMem_of_parseCidr {text : List Char} (h : parseCidr (some text) ≠ none) :
    nul ∉ text := by
  intro hnul
  obtain ⟨subnet, hsubnet⟩ := Option.ne_none_iff_exists'.mp h
  rcases hscan : scanCidr text with _ | numbers
  · simp [parseCidr, hscan] at hsubnet
  unfold scanCidr at hscan
  simp only [Option.bind_eq_bind, Option.bind_eq_some_iff, Prod.exists] at hscan
  obtain ⟨a, s₁, ha, b, s₂, ⟨s₁', hdot₁, hb⟩, c, s₃, ⟨s₂', hdot₂, hc⟩, d, s₄, ⟨s₃', hdot₃, hd⟩,
    bits, s₅, ⟨s₄', hslash, hbits⟩, hend⟩ := hscan
  -- the null character is still ahead behind each number and each separator
  have hmem := nul_mem_of_scanU ha hnul
  have hmem := nul_mem_of_scanU hb (nul_mem_of_scanChar (by decide) hdot₁ hmem)
  have hmem := nul_mem_of_scanU hc (nul_mem_of_scanChar (by decide) hdot₂ hmem)
  have hmem := nul_mem_of_scanU hd (nul_mem_of_scanChar (by decide) hdot₃ hmem)
  have hmem := nul_mem_of_scanU hbits (nul_mem_of_scanChar (by decide) hslash hmem)
  split_ifs at hend with hempty
  rw [List.isEmpty_iff.mp hempty] at hmem
  cases hmem

/-! ### What is sent back -/

/-- What a round trip has to keep. -/
def SameSubnet (c c' : Fourvia6Config) : Prop :=
  c'.sNetwork = c.sNetwork ∧ c'.sPrefixLen = c.sPrefixLen ∧ c'.sSiteId = c.sSiteId ∧
    c'.sPrefixText = c.sPrefixText

/-- The first 18 characters are no subnet by themselves, or the same one. -/
def ShownSame (lan : List Char) : Prop :=
  parseCidr (some (lan.take 18)) = none ∨ parseCidr (some (lan.take 18)) = parseCidr (some lan)

instance (lan : List Char) : Decidable (ShownSame lan) := inferInstanceAs (Decidable (_ ∨ _))

section RoundTrip

variable {s : Fourvia6Config} {nvs : Nvs} {enabled flag flag' : Bool} {lan : Option (List Char)}
  {cidr cidr' : Option (List Char)} {siteId : UInt16} {results : Nat → EspErr}

theorem sameSubnet_iff : SameSubnet (fourvia6Config flag cidr siteId)
    (fourvia6Config flag' cidr' siteId) ↔ parseCidr cidr' = parseCidr cidr := by
  unfold SameSubnet fourvia6Config lanSubnet
  rcases hcidr : parseCidr cidr with _ | ⟨network, bits⟩
  · rcases hcidr' : parseCidr cidr' with _ | ⟨network', bits'⟩
    · simp
    · refine iff_of_false ?_ (by simp)
      rintro ⟨-, -, -, htext⟩
      exact calculatePrefix_ne_nil (by simp [hcidr']) htext
  · rcases hcidr' : parseCidr cidr' with _ | ⟨network', bits'⟩
    · refine iff_of_false ?_ (by simp)
      rintro ⟨-, -, -, htext⟩
      exact calculatePrefix_ne_nil (by simp [hcidr]) htext.symm
    · simp only [Option.map_some, Option.some.injEq, Prod.mk.injEq, true_and]
      constructor
      · exact fun h => ⟨h.1, h.2.1⟩
      · rintro ⟨rfl, rfl⟩
        refine ⟨rfl, rfl, ?_⟩
        rw [calculatePrefix, calculatePrefix, hcidr, hcidr']

/-- A save loads what it was given, or leaves the settings alone. In the second case it says so. -/
theorem fourvia6SetConfig_cases (s : Fourvia6Config) (nvs : Nvs) (enabled : Bool)
    (lan : Option (List Char)) (siteId : UInt16) (results : Nat → EspErr) :
    (fourvia6SetConfig s nvs enabled lan siteId results).2.1 = s ∧
        (fourvia6SetConfig s nvs enabled lan siteId results).1 ≠ espOk ∨
      fourvia6Refuses enabled lan = false ∧
        (fourvia6SetConfig s nvs enabled lan siteId results).2.1
          = fourvia6Config enabled (some (lan.getD [])) siteId := by
  -- Refused, or written; a write that fails leaves the settings in RAM as they were.
  unfold fourvia6SetConfig
  dsimp only
  by_cases hrefuses : fourvia6Refuses enabled lan = true
  · rw [if_pos hrefuses]
    have herr : espErrInvalidArg ≠ espOk := by decide
    exact .inl ⟨rfl, herr⟩
  · rw [if_neg hrefuses]
    have haccepts := Bool.eq_false_iff.mpr hrefuses
    rw [nvsSaveAll_eq]
    rcases hfail : firstFailure results (fourvia6Saves enabled lan siteId).length with _ | k
    · right
      refine ⟨haccepts, ?_⟩
      -- The flag reads back as it was written.
      have hflag : loadFlag false (some (.u8 (flagByte enabled))) = enabled := by
        cases enabled <;> rfl
      show fourvia6Config (loadFlag false (some (.u8 (flagByte enabled)))) _ _ = _
      rw [hflag]
      rfl
    · obtain ⟨-, herr⟩ := firstFailure_spec hfail
      rw [if_pos herr]
      exact .inl ⟨rfl, herr⟩

/-- What is not refused is saved if all writes succeed. -/
theorem fourvia6SetConfig_ok (h : fourvia6Refuses enabled lan = false) :
    (fourvia6SetConfig s nvs enabled lan siteId fun _ => espOk).1 = espOk := by
  unfold fourvia6SetConfig
  rw [if_neg (Bool.eq_false_iff.mp h)]
  rfl

theorem parseCidr_getD : parseCidr (some (lan.getD [])) = parseCidr lan := by
  rcases lan with _ | text
  · decide
  · rfl

/-- A text that is accepted without a valid subnet is empty. -/
theorem getD_eq_nil_of_accepts (h : fourvia6Refuses enabled lan = false)
    (hnone : parseCidr lan = none) : lan.getD [] = [] := by
  simp only [fourvia6Refuses, hnone, Option.isNone_none, Bool.and_true, Bool.or_eq_false_iff,
    Bool.not_eq_false', List.isEmpty_iff] at h
  exact h.2

/-- The text that is shown. -/
theorem text_shown (h : fourvia6Refuses enabled lan = false) :
    (fourvia6Config flag (some (lan.getD [])) siteId).sLanCidr.text = (lan.getD []).take 18 := by
  unfold fourvia6Config lanSubnet
  rw [parseCidr_getD]
  rcases hsubnet : parseCidr lan with _ | subnet
  · rw [getD_eq_nil_of_accepts h hsubnet]
    rfl
  · have hnul : nul ∉ lan.getD [] := by
      apply nul_notMem_of_parseCidr
      simp [parseCidr_getD, hsubnet]
    show (CString.visible (lan.getD [])).take 18 = _
    rw [CString.visible_eq hnul]

/-- **The round trip of the subnet.** When a save has been accepted, what is shown can be sent back
    with any flag if and only if the first 18 characters are no subnet, and refused, or the one
    that was saved. -/
theorem shown_unchanged_iff
    (h : (fourvia6SetConfig s nvs enabled lan siteId results).1 = espOk) :
    (∀ (enabled' : Bool) (results' : Nat → EspErr),
      let saved := (fourvia6SetConfig s nvs enabled lan siteId results).2
      SameSubnet saved.1 (fourvia6SetConfig saved.1 saved.2 enabled'
        (some saved.1.sLanCidr.text) saved.1.sSiteId results').2.1) ↔
      ShownSame (lan.getD []) := by
  obtain ⟨haccepts, hconfig⟩ :=
    (fourvia6SetConfig_cases s nvs enabled lan siteId results).resolve_left fun hfail => hfail.2 h
  generalize (fourvia6SetConfig s nvs enabled lan siteId results).2 = saved at hconfig
  have hsite : (fourvia6Config enabled (some (lan.getD [])) siteId).sSiteId = siteId := by
    unfold fourvia6Config
    split <;> rfl
  dsimp only
  rw [hconfig, text_shown haccepts, hsite]
  constructor
  · intro hsame
    by_cases hnone : parseCidr (some ((lan.getD []).take 18)) = none
    · exact .inl hnone
    · -- sent back, and all writes succeed
      have hagain : fourvia6Refuses true (some ((lan.getD []).take 18)) = false := by
        obtain ⟨subnet, hsubnet⟩ := Option.ne_none_iff_exists'.mp hnone
        simp [fourvia6Refuses, hsubnet]
      have hback := (fourvia6SetConfig_cases (fourvia6Config enabled (some (lan.getD [])) siteId)
        saved.2 true (some ((lan.getD []).take 18)) siteId fun _ => espOk).resolve_left
          fun hfail => hfail.2 (fourvia6SetConfig_ok hagain)
      have hkept := hsame true fun _ => espOk
      rw [hback.2, sameSubnet_iff] at hkept
      exact .inr hkept
  · intro hshown enabled' results'
    rcases fourvia6SetConfig_cases (fourvia6Config enabled (some (lan.getD [])) siteId) saved.2
      enabled' (some ((lan.getD []).take 18)) siteId results' with ⟨hsame, -⟩ | ⟨hagain, hback⟩
    · rw [hsame]
      exact ⟨rfl, rfl, rfl, rfl⟩
    · rw [hback, sameSubnet_iff]
      rcases hshown with hnone | heq
      · -- accepted without a subnet: nothing is shown, because nothing was given
        have hnil : (lan.getD []).take 18 = [] := getD_eq_nil_of_accepts hagain hnone
        have hempty : lan.getD [] = [] := by simpa using hnil
        rw [Option.getD_some, hempty]
        rfl
      · exact heq

end RoundTrip

/-- A subnet of at most 18 characters is shown whole. -/
theorem shownSame_of_length_le {lan : List Char} (h : lan.length ≤ 18) : ShownSame lan := by
  rw [ShownSame, List.take_of_length_le h]
  exact .inr rfl

/-- The settings before any save. -/
def unsetConfig : Fourvia6Config := fourvia6Load fun _ => none

/-- A subnet in its usual spelling, which is then switched off. -/
theorem usual_spelling_unchanged :
    let saved := (fourvia6SetConfig unsetConfig (fun _ => none) true
      (some "192.168.100.0/24".toList) 7 fun _ => espOk).2
    SameSubnet saved.1 (fourvia6SetConfig saved.1 saved.2 false
      (some saved.1.sLanCidr.text) saved.1.sSiteId fun _ => espOk).2.1 :=
  (shown_unchanged_iff (fourvia6SetConfig_ok (by decide +kernel))).mpr
    (shownSame_of_length_le (by decide)) false fun _ => espOk

/-- The same subnet in 20 characters, switched on again over MQTT. -/
theorem long_spelling_becomes_default_route :
    ¬ ∀ (s : Fourvia6Config) (nvs : Nvs) (enabled : Bool) (lan : Option (List Char))
      (siteId : UInt16) (results : Nat → EspErr),
      (fourvia6SetConfig s nvs enabled lan siteId results).1 = espOk →
      ∀ (enabled' : Bool) (results' : Nat → EspErr),
        let saved := (fourvia6SetConfig s nvs enabled lan siteId results).2
        SameSubnet saved.1 (fourvia6SetConfig saved.1 saved.2 enabled'
          (some saved.1.sLanCidr.text) saved.1.sSiteId results').2.1 := by
  intro h
  have haccepts : fourvia6Refuses true (some "192.168.100.0/000024".toList) = false := by
    decide +kernel
  obtain ⟨-, hbits, -⟩ := h unsetConfig (fun _ => none) true
    (some "192.168.100.0/000024".toList) 7 (fun _ => espOk) (fourvia6SetConfig_ok haccepts) true
      fun _ => espOk
  revert hbits
  decide +kernel

end SubnetRouter.Settings
