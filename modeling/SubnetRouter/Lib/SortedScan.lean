import Mathlib.Data.List.Sort
import Mathlib.Logic.Function.Iterate
import Mathlib.Order.Basic

namespace SubnetRouter.Lib

/-!
# Looking for a free element along a sorted list

A list of used elements is sorted by a key, and candidates are generated by a successor.  Two
searches make one pass over the list.

* `sweep` moves a cursor on whenever the list shows the element it stands on.
* `gap` moves a candidate on until the list shows a greater element.

Both are right while the successor raises the key (`sweep_spec`, `Passes.key_le`).  At a step
that lowers the key they can stop at a used element; `gap_mem_iff` says exactly when `gap`
does.
-/

variable {α κ : Type} [LinearOrder κ] {key : α → κ} {succ : α → α}

/-- Move the cursor on if it stands on `a`. -/
def stepPast [DecidableEq α] (succ : α → α) (p a : α) : α := if a = p then succ p else p

/-- Move a cursor along the list. -/
def sweep [DecidableEq α] (succ : α → α) (p : α) (l : List α) : α := l.foldl (stepPast succ) p

/-- Move a candidate on until the list shows an element above it. -/
def gap (key : α → κ) (succ : α → α) : α → List α → α
  | p, [] => p
  | p, a :: l => if key p < key a then p else gap key succ (succ p) l

/-- The search for a gap steps over the first `k` elements of the list. -/
def Passes (key : α → κ) (succ : α → α) : Nat → α → List α → Prop
  | 0, _, _ => True
  | _ + 1, _, [] => False
  | k + 1, p, a :: l => key a ≤ key p ∧ Passes key succ k (succ p) l

instance decidablePasses : ∀ (k : Nat) (p : α) (l : List α), Decidable (Passes key succ k p l)
  | 0, _, _ => .isTrue trivial
  | _ + 1, _, [] => .isFalse id
  | k + 1, p, a :: l =>
    have := decidablePasses k (succ p) l
    inferInstanceAs (Decidable (key a ≤ key p ∧ Passes key succ k (succ p) l))

/-- The elements of the list stand in the order of their keys. -/
def Ordered (key : α → κ) (l : List α) : Prop := l.Pairwise fun a b => key a ≤ key b

variable {p a : α} {l : List α} {j k : Nat}

/-! ### Insertion -/

/-- Inserting before the first greater element keeps the order. -/
theorem Ordered.orderedInsert (h : Ordered key l) (a : α) :
    Ordered key (l.orderedInsert (fun a b => key a < key b) a) := by
  induction l with
  | nil => exact List.pairwise_singleton _ a
  | cons b l ih =>
    obtain ⟨hhead, htail⟩ := List.pairwise_cons.mp h
    rw [List.orderedInsert_cons]
    split
    · rename_i hlt
      refine List.pairwise_cons.mpr ⟨fun c hc => ?_, h⟩
      rcases List.mem_cons.mp hc with rfl | hc
      · exact hlt.le
      · exact hlt.le.trans (hhead c hc)
    · rename_i hge
      refine List.pairwise_cons.mpr ⟨fun c hc => ?_, ih htail⟩
      rcases (List.mem_orderedInsert _).mp hc with rfl | hc
      · exact not_lt.mp hge
      · exact hhead c hc

/-- Taking out again what was inserted. -/
theorem eraseP_orderedInsert (r : α → α → Prop) [DecidableRel r] {q : α → Bool}
    (ha : q a = true) (hl : ∀ b ∈ l, q b = false) : (l.orderedInsert r a).eraseP q = l := by
  induction l with
  | nil => exact List.eraseP_cons_of_pos ha
  | cons b l ih =>
    rw [List.orderedInsert_cons]
    split
    · exact List.eraseP_cons_of_pos ha
    · have hb : ¬ q b = true := by simp [hl b List.mem_cons_self]
      rw [List.eraseP_cons_of_neg hb, ih fun c hc => hl c (List.mem_cons_of_mem b hc)]

/-! ### The cursor -/

/-- While the successor raises the key, every candidate is at or above the first. -/
theorem key_le_iterate (hrise : ∀ i, i + 1 < k → key (succ^[i] p) < key (succ^[i + 1] p))
    (hj : j < k) : key p ≤ key (succ^[j] p) := by
  induction j with
  | zero => exact le_rfl
  | succ j ih => exact (ih (by omega)).trans (hrise j hj).le

section Cursor

variable [DecidableEq α]

@[simp] theorem sweep_nil : sweep succ p [] = p := rfl

@[simp] theorem sweep_cons : sweep succ p (a :: l) = sweep succ (stepPast succ p a) l := rfl

theorem sweep_of_notMem (h : p ∉ l) : sweep succ p l = p := by
  induction l with
  | nil => rfl
  | cons a l ih =>
    have hne : ¬ a = p := fun heq => h (heq ▸ List.mem_cons_self)
    rw [sweep_cons, stepPast, if_neg hne]
    exact ih fun hmem => h (List.mem_cons_of_mem a hmem)

/-- **The cursor.** It moves over used elements only, raising the key at every step but
    perhaps the last, and where that one raises the key too it stops at an unused element. -/
theorem sweep_spec (hinj : Function.Injective key) (hsucc : ∀ x, succ x ≠ x)
    (hord : Ordered key l) (p : α) :
    ∃ k, sweep succ p l = succ^[k] p ∧ (∀ i < k, succ^[i] p ∈ l) ∧
      (∀ i, i + 1 < k → key (succ^[i] p) < key (succ^[i + 1] p)) ∧
      (sweep succ p l ∈ l → ∃ j, k = j + 1 ∧ key (succ^[j + 1] p) < key (succ^[j] p)) := by
  have hne : ∀ x, key (succ x) ≠ key x := fun x h => hsucc x (hinj h)
  induction l generalizing p with
  | nil => exact ⟨0, rfl, fun i hi => absurd hi (Nat.not_lt_zero i), fun i hi => by omega, nofun⟩
  | cons a l ih =>
    obtain ⟨hhead, htail⟩ := List.pairwise_cons.mp hord
    by_cases hat : a = p
    · subst hat
      rw [sweep_cons, stepPast, if_pos rfl]
      rcases lt_or_gt_of_ne (hne a) with hdrop | hrise
      · -- nothing further down the list has so small a key
        have hstay : sweep succ (succ a) l = succ a :=
          sweep_of_notMem fun hmem => absurd (hhead _ hmem) hdrop.not_ge
        refine ⟨1, hstay, fun i hi => ?_, fun i hi => by omega, fun _ => ⟨0, rfl, hdrop⟩⟩
        obtain rfl : i = 0 := by omega
        exact List.mem_cons_self
      · obtain ⟨k, hk, hused, hrises, hstop⟩ := ih htail (succ a)
        have hrises' : ∀ i, i + 1 < k + 1 →
            key (succ^[i] a) < key (succ^[i + 1] a) := fun i hi => by
          cases i with
          | zero => exact hrise
          | succ i => exact hrises i (by omega)
        refine ⟨k + 1, hk, fun i hi => ?_, hrises', fun hmem => ?_⟩
        · cases i with
          | zero => exact List.mem_cons_self
          | succ i => exact List.mem_cons_of_mem a (hused i (by omega))
        · rcases List.mem_cons.mp hmem with hback | hmem
          · refine ⟨k, rfl, ?_⟩
            have hend : succ^[k + 1] a = a := hk.symm.trans hback
            refine lt_of_le_of_ne ?_ ?_
            · rw [hend]
              exact key_le_iterate hrises' (Nat.lt_succ_self k)
            · rw [Function.iterate_succ_apply']
              exact hne _
          · obtain ⟨j, rfl, hdrop⟩ := hstop hmem
            exact ⟨j + 1, rfl, hdrop⟩
    · rw [sweep_cons, stepPast, if_neg hat]
      obtain ⟨k, hk, hused, hrises, hstop⟩ := ih htail p
      refine ⟨k, hk, fun i hi => List.mem_cons_of_mem a (hused i hi), hrises, fun hmem => ?_⟩
      rcases List.mem_cons.mp hmem with hback | hmem
      · cases k with
        | zero => exact absurd (hback.symm.trans hk) hat
        | succ k =>
          refine ⟨k, rfl, lt_of_le_of_ne ?_ ?_⟩
          · rw [← hk, hback]
            exact (hhead p (hused 0 (by omega))).trans (key_le_iterate hrises (by omega))
          · rw [Function.iterate_succ_apply']
            exact hne _
      · exact hstop hmem

end Cursor

/-! ### The gap -/

/-- A search that steps over more elements has stepped over fewer. -/
theorem Passes.of_le (h : Passes key succ k p l) (hj : j ≤ k) : Passes key succ j p l := by
  induction j generalizing k p l with
  | zero => trivial
  | succ j ih =>
    cases l with
    | nil =>
      cases k with
      | zero => omega
      | succ k => exact h.elim
    | cons b l =>
      cases k with
      | zero => omega
      | succ k => exact ⟨h.1, ih h.2 (by omega)⟩

/-- The elements stepped over are at or below the last candidate but one. -/
theorem Passes.key_le (h : Passes key succ (k + 1) p l) (hord : Ordered key l) :
    ∀ a ∈ l.take (k + 1), key a ≤ key (succ^[k] p) := by
  induction k generalizing p l with
  | zero =>
    cases l with
    | nil => nofun
    | cons b l => simpa using h.1
  | succ k ih =>
    cases l with
    | nil => nofun
    | cons b l =>
      obtain ⟨hhead, htail⟩ := List.pairwise_cons.mp hord
      have hrest := ih h.2 htail
      intro a ha
      rcases List.mem_cons.mp ha with rfl | ha
      · -- the next element is stepped over too, and it is not below this one
        cases l with
        | nil => exact h.2.elim
        | cons c l =>
          exact (hhead c List.mem_cons_self).trans (hrest c List.mem_cons_self)
      · exact hrest a ha

/-- A search that steps over `k` elements and finds the next one above stops there. -/
theorem gap_of_passes (h : Passes key succ k p l)
    (habove : ∀ a ∈ (l.drop k).head?, key (succ^[k] p) < key a) :
    gap key succ p l = succ^[k] p := by
  induction k generalizing p l with
  | zero =>
    cases l with
    | nil => rfl
    | cons b l => exact if_pos (habove b rfl)
  | succ k ih =>
    cases l with
    | nil => exact h.elim
    | cons b l => exact (if_neg h.1.not_gt).trans (ih h.2 habove)

/-- **The gap.** The search steps over a first part of the list; what follows is above. -/
theorem gap_spec (succ : α → α) (hord : Ordered key l) (p : α) :
    ∃ k ≤ l.length, gap key succ p l = succ^[k] p ∧ Passes key succ k p l ∧
      ∀ a ∈ l.drop k, key (succ^[k] p) < key a := by
  induction l generalizing p with
  | nil => exact ⟨0, Nat.le_refl 0, rfl, trivial, nofun⟩
  | cons b l ih =>
    obtain ⟨hhead, htail⟩ := List.pairwise_cons.mp hord
    by_cases habove : key p < key b
    · refine ⟨0, Nat.zero_le _, if_pos habove, trivial, fun a ha => ?_⟩
      rcases List.mem_cons.mp ha with rfl | ha
      · exact habove
      · exact habove.trans_le (hhead a ha)
    · obtain ⟨k, hk, hgap, hpass, hrest⟩ := ih htail (succ p)
      exact ⟨k + 1, Nat.succ_le_succ hk, (if_neg habove).trans hgap,
        ⟨not_lt.mp habove, hpass⟩, hrest⟩

/-- The search stops at a used element exactly when it comes back to one it has stepped
    over. -/
theorem gap_mem_iff (hinj : Function.Injective key) (hord : Ordered key l) (hnd : l.Nodup) :
    gap key succ p l = a ∧ a ∈ l ↔
      ∃ k ≤ l.length, Passes key succ k p l ∧ a = succ^[k] p ∧ a ∈ l.take k := by
  constructor
  · rintro ⟨rfl, hmem⟩
    obtain ⟨k, hk, hgap, hpass, habove⟩ := gap_spec succ hord p
    refine ⟨k, hk, hpass, hgap, ?_⟩
    have hpart : gap key succ p l ∈ l.take k ++ l.drop k := by rwa [List.take_append_drop]
    refine (List.mem_append.mp hpart).resolve_right fun hdrop => ?_
    have hlt := habove _ hdrop
    rw [hgap] at hlt
    exact lt_irrefl _ hlt
  · rintro ⟨k, -, hpass, rfl, hback⟩
    have hsplit : (l.take k ++ l.drop k).Nodup := by rwa [List.take_append_drop]
    have hsorted : Ordered key (l.take k ++ l.drop k) := by rwa [List.take_append_drop]
    refine ⟨gap_of_passes hpass fun a ha => ?_, List.mem_of_mem_take hback⟩
    have hdrop : a ∈ l.drop k := List.mem_of_mem_head? ha
    refine lt_of_le_of_ne ((List.pairwise_append.mp hsorted).2.2 _ hback a hdrop) fun heq => ?_
    exact (List.nodup_append.mp hsplit).2.2 _ hback _ hdrop (hinj heq)

end SubnetRouter.Lib
