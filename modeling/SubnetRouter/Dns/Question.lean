import SubnetRouter.Dns.Message
import SubnetRouter.Lib.Sections

namespace SubnetRouter.Dns

open Lib

/-!
# Recognising a question

`dns_question_len` walks over the labels behind the header.  It stops at the root label, at a byte
that is no length of a label, and where the labels leave the datagram; the last of these looks
like the first when the labels end exactly where the datagram does.

* `Labels`, `IsQuestion` — whole labels one after the other, and a complete question.
* `questionEnd_eq_some` — where the walk ends.
* `questionReads_lt` — it reads received bytes only.
* `recognises_iff` — exactly which datagrams are told right.
-/

/-! ### What a question is -/

/-- Whole labels, each of which starts inside the datagram, from one index up to another. A label
    may reach beyond the end, as the loop of the source tests only where one starts. -/
inductive Labels (p : List UInt8) (len : Nat) : Nat → Nat → Prop
  | nil (i : Nat) : Labels p len i i
  | cons {i j : Nat} (hin : i < len) (hpos : 0 < (byteAt p i).toNat)
      (hle : (byteAt p i).toNat ≤ 63) (rest : Labels p len (i + 1 + (byteAt p i).toNat) j) :
      Labels p len i j

/-- From offset 12 on stand labels, a root label and four bytes of type and class, `n` bytes
    in all, inside the datagram and the limit of a key. -/
structure IsQuestion (p : List UInt8) (len n : Nat) : Prop where
  question : ∃ root, Labels p len 12 root ∧ byteAt p root = 0 ∧ 12 + n = root + 1 + 4
  inside : 12 + n ≤ len
  key : n ≤ dnsCacheKeyMax

/-- The indices that the loop of `dns_question_len` reads, in their order. They are recorded beside
    the loop, to be compared with the length. -/
def questionReads (p : List UInt8) (len : Nat) : Nat → Nat → List Nat
  | 0, _ => []
  | fuel + 1, i =>
    if i < len then
      if byteAt p i = 0 then [i]
      else if byteAt p i &&& 0xC0 ≠ 0 then [i]
      else i :: questionReads p len fuel (i + 1 + (byteAt p i).toNat)
    else []

/-- What is expected of `dns_question_len`: it finds the questions and nothing else, from
    received bytes, in at most one turn for each of them. -/
structure Recognises (p : List UInt8) (len : Nat) : Prop where
  question : ∀ n, 0 < n → (dnsQuestionLen p len = n ↔ IsQuestion p len n)
  reads : ∀ fuel, ∀ i ∈ questionReads p len fuel 12, i < len
  ends : ∀ fuel, len ≤ fuel → questionEnd p len fuel 12 = questionEnd p len len 12

/-- The labels run exactly to the end of the datagram, with no root label. -/
def RunsOut (p : List UInt8) (len : Nat) : Prop :=
  12 + 5 ≤ len ∧ len ≤ 12 + dnsCacheKeyMax ∧ Labels p len 12 len

/-! ### The walk -/

variable {p q : List UInt8} {len i j j' e n fuel : Nat}

/-- The two high bits tell a label from a pointer. -/
theorem and_C0_eq_zero (b : UInt8) : b &&& 0xC0 = 0 ↔ b.toNat ≤ 63 := by
  have hall : ∀ v : Fin 256, (UInt8.ofNat v.val &&& 0xC0 = 0) ↔ v.val ≤ 63 := by decide +kernel
  have hb := hall ⟨b.toNat, b.toNat_lt⟩
  rwa [UInt8.ofNat_toNat] at hb

theorem toNat_pos_iff (b : UInt8) : 0 < b.toNat ↔ b ≠ 0 := by
  rw [Nat.pos_iff_ne_zero, ne_eq, ne_eq, ← UInt8.toNat_inj]
  exact Iff.rfl

/-- Labels move on. -/
theorem Labels.le (h : Labels p len i j) : i ≤ j := by
  induction h with
  | nil => exact Nat.le_refl _
  | cons => omega

/-- Two walks that stop at no label stop at the same place. -/
theorem Labels.unique (h : Labels p len i j) (h' : Labels p len i j')
    (hj : byteAt p j = 0 ∨ len ≤ j) (hj' : byteAt p j' = 0 ∨ len ≤ j') : j = j' := by
  induction h with
  | nil i =>
    cases h' with
    | nil => rfl
    | cons hin hpos _ _ =>
      rcases hj with hzero | hend
      · exact absurd hzero ((toNat_pos_iff _).mp hpos)
      · omega
  | cons hin hpos _ _ ih =>
    cases h' with
    | nil =>
      rcases hj' with hzero | hend
      · exact absurd hzero ((toNat_pos_iff _).mp hpos)
      · omega
    | cons _ _ _ rest => exact ih rest hj

/-- The bytes read are received bytes. -/
theorem questionReads_lt (h : i ∈ questionReads p len fuel e) : i < len := by
  induction fuel generalizing e with
  | zero => simp [questionReads] at h
  | succ fuel ih =>
    rw [questionReads] at h
    split_ifs at h with hin hzero hpointer
    · rwa [List.mem_singleton.mp h]
    · rwa [List.mem_singleton.mp h]
    · rcases List.mem_cons.mp h with rfl | hrest
      · exact hin
      · exact ih hrest
    · simp at h

/-- A root label ends the walk behind the type and the class. -/
theorem questionEnd_root (hin : i < len) (hzero : byteAt p i = 0) :
    questionEnd p len (fuel + 1) i = some (i + 1 + 4) := by
  rw [questionEnd, if_pos hin, if_pos hzero]

/-- A label is walked over. -/
theorem questionEnd_label (hin : i < len) (hpos : 0 < (byteAt p i).toNat)
    (hle : (byteAt p i).toNat ≤ 63) : questionEnd p len (fuel + 1) i =
      questionEnd p len fuel (i + 1 + (byteAt p i).toNat) := by
  have hlabel : ¬ byteAt p i &&& 0xC0 ≠ 0 := fun hne => hne ((and_C0_eq_zero _).mpr hle)
  rw [questionEnd, if_pos hin, if_neg ((toNat_pos_iff _).mp hpos), if_neg hlabel]

/-- **Where the walk ends**: behind the question of a root label, or where the labels have left
    the datagram. -/
theorem questionEnd_eq_some (h : len ≤ i + fuel) : questionEnd p len fuel i = some e ↔
    (∃ root, Labels p len i root ∧ root < len ∧ byteAt p root = 0 ∧ e = root + 1 + 4) ∨
      (Labels p len i e ∧ len ≤ e) := by
  constructor
  · -- the turns of the loop, each of which is a label until the last
    intro hend
    induction fuel generalizing i with
    | zero =>
      rw [questionEnd, Option.some.injEq] at hend
      subst hend
      exact .inr ⟨.nil i, by omega⟩
    | succ fuel ih =>
      rw [questionEnd] at hend
      split_ifs at hend with hin hzero hpointer
      · exact .inl ⟨i, .nil i, hin, hzero, (Option.some.inj hend).symm⟩
      · have hpos := (toNat_pos_iff _).mpr hzero
        have hle := (and_C0_eq_zero _).mp (not_not.mp hpointer)
        rcases ih (by omega) hend with ⟨root, hlabels, hroot⟩ | ⟨hlabels, hout⟩
        · exact .inl ⟨root, .cons hin hpos hle hlabels, hroot⟩
        · exact .inr ⟨.cons hin hpos hle hlabels, hout⟩
      · rw [Option.some.injEq] at hend
        subst hend
        exact .inr ⟨.nil i, Nat.le_of_not_lt hin⟩
  · rintro (⟨root, hlabels, hroot, hzero, rfl⟩ | ⟨hlabels, hout⟩)
    · induction hlabels generalizing fuel with
      | nil i =>
        obtain ⟨fuel, rfl⟩ : ∃ k, fuel = k + 1 := ⟨fuel - 1, by omega⟩
        exact questionEnd_root hroot hzero
      | cons hin hpos hle _ ih =>
        obtain ⟨fuel, rfl⟩ : ∃ k, fuel = k + 1 := ⟨fuel - 1, by omega⟩
        rw [questionEnd_label hin hpos hle]
        exact ih (by omega) hroot hzero
    · induction hlabels generalizing fuel with
      | nil i =>
        have hstop : ¬ i < len := Nat.not_lt.mpr hout
        cases fuel with
        | zero => rfl
        | succ fuel => rw [questionEnd, if_neg hstop]
      | cons hin hpos hle _ ih =>
        obtain ⟨fuel, rfl⟩ : ∃ k, fuel = k + 1 := ⟨fuel - 1, by omega⟩
        rw [questionEnd_label hin hpos hle]
        exact ih (by omega) hout

/-- The length found, and where the walk ended. -/
theorem dnsQuestionLen_eq_iff (hn : 0 < n) : dnsQuestionLen p len = n ↔
    questionEnd p len len 12 = some (12 + n) ∧ 12 + 5 ≤ len ∧ 12 + n ≤ len ∧
      5 ≤ n ∧ n ≤ dnsCacheKeyMax := by
  unfold dnsQuestionLen
  split_ifs with hshort
  · omega
  · cases hend : questionEnd p len len 12 with
    | none =>
      simp only [reduceCtorEq, false_and, iff_false]
      omega
    | some e =>
      dsimp only
      rw [Option.some.injEq]
      split_ifs with hout hrange <;> omega

/-! ### What it tells right -/

/-- A question is found. -/
theorem IsQuestion.found (h : IsQuestion p len n) : dnsQuestionLen p len = n := by
  obtain ⟨⟨root, hlabels, hzero, hn⟩, hinside, hkey⟩ := h
  have hfrom := hlabels.le
  refine (dnsQuestionLen_eq_iff (by omega)).mpr ⟨?_, by omega, hinside, by omega, hkey⟩
  refine (questionEnd_eq_some (by omega)).mpr (.inl ⟨root, hlabels, by omega, hzero, hn⟩)

/-- What is found and is no question is a run of labels to the very end. -/
theorem isQuestion_or_runsOut (hn : 0 < n) (h : dnsQuestionLen p len = n) :
    IsQuestion p len n ∨ RunsOut p len ∧ 12 + n = len := by
  obtain ⟨hend, hlen, hinside, -, hkey⟩ := (dnsQuestionLen_eq_iff hn).mp h
  rcases (questionEnd_eq_some (by omega)).mp hend with ⟨root, hlabels, -, hzero, hroot⟩ | hout
  · exact .inl ⟨⟨root, hlabels, hzero, hroot⟩, hinside, hkey⟩
  · obtain ⟨hlabels, hle⟩ := hout
    have heq : 12 + n = len := Nat.le_antisymm hinside hle
    exact .inr ⟨⟨hlen, by omega, heq ▸ hlabels⟩, heq⟩

/-- A run of labels to the end is taken for a question, which it is not. -/
theorem RunsOut.taken (h : RunsOut p len) :
    dnsQuestionLen p len = len - 12 ∧ ¬ IsQuestion p len (len - 12) := by
  obtain ⟨hlen, hkey, hlabels⟩ := h
  constructor
  · refine (dnsQuestionLen_eq_iff (by omega)).mpr ⟨?_, hlen, by omega, by omega, by omega⟩
    refine (questionEnd_eq_some (by omega)).mpr (.inr ⟨?_, by omega⟩)
    rwa [show 12 + (len - 12) = len by omega]
  · rintro ⟨⟨root, hroot, hzero, hend⟩, -, -⟩
    -- both walks stop at no label, but at different places
    have hsame := hroot.unique hlabels (.inl hzero) (.inr (Nat.le_refl _))
    omega

/-- **Which datagrams are told right**: those whose labels do not run out at their very end. -/
theorem recognises_iff (p : List UInt8) (len : Nat) : Recognises p len ↔ ¬ RunsOut p len := by
  constructor
  · intro h hout
    obtain ⟨htaken, hno⟩ := hout.taken
    have hlen := hout.1
    exact hno ((h.question _ (by omega)).mp htaken)
  · intro hok
    refine ⟨fun n hn => ⟨fun hfound => ?_, IsQuestion.found⟩, fun _ i hi => questionReads_lt hi,
      fun fuel hfuel => questionEnd_fuel (by omega) (by omega)⟩
    rcases isQuestion_or_runsOut hn hfound with hquestion | ⟨hout, -⟩
    · exact hquestion
    · exact absurd hout hok

/-- A header and one label of four bytes. -/
def rootless : List UInt8 := [0, 7, 1, 0, 0, 1, 0, 0, 0, 0, 0, 0, 4, 97, 98, 99, 100]

/-- It is no question, and is taken for one of five bytes. -/
theorem rootless_taken : ¬ ∀ n, 0 < n →
    (dnsQuestionLen rootless 17 = n ↔ IsQuestion rootless 17 n) := by
  intro h
  have hlabels : Labels rootless 17 12 17 :=
    .cons (by decide) (by decide) (by decide) (.nil 17)
  have hout : RunsOut rootless 17 := ⟨by decide, by decide, hlabels⟩
  exact hout.taken.2 ((h 5 (by decide)).mp (by decide))

end SubnetRouter.Dns
