import Mathlib.Data.List.Basic

namespace SubnetRouter.Lib

/-!
# Tables scanned in slot order

A fixed table is a list, a slot an index into it, and a lookup takes the first slot that
matches.

* `find?_some_iff_first` — the entry a scan finds, by its slot.
* `find?_append_cons_iff` — when a given entry is the one found.
* `find?_owner_iff` — when the entry found is one of a given kind.
* `filterMap_range_getElem?` — the first slots, one after the other.
* `mem_set_of`, `set_of_getElem?_eq` — the entries of an updated table.
* `find?_set_self`, `find?_set_none`, `find?_set_of_not` — a scan of an updated table.
-/

variable {α : Type} {l : List α} {p : α → Bool} {x : α}

/-- The entry found is the matching entry with no matching entry in a lower slot. -/
theorem find?_some_iff_first : l.find? p = some x ↔
    ∃ i : Nat, l[i]? = some x ∧ p x = true ∧
      ∀ (j : Nat) (y : α), j < i → l[j]? = some y → p y = false := by
  rw [List.find?_eq_some_iff_getElem]
  constructor
  · rintro ⟨hp, i, hi, hx, hbefore⟩
    refine ⟨i, by rw [List.getElem?_eq_getElem hi, hx], hp, ?_⟩
    intro j y hj hy
    obtain ⟨hlt, rfl⟩ := List.getElem?_eq_some_iff.mp hy
    exact Bool.not_eq_true' _ ▸ hbefore j hj
  · rintro ⟨i, hx, hp, hbefore⟩
    obtain ⟨hi, rfl⟩ := List.getElem?_eq_some_iff.mp hx
    refine ⟨hp, i, hi, rfl, ?_⟩
    intro j hj
    rw [hbefore j _ hj (List.getElem?_eq_getElem (Nat.lt_trans hj hi))]
    rfl

/-- An entry that matches is found exactly when none before it does. -/
theorem find?_append_cons_iff {pre post : List α} {a : α} (ha : p a = true) (hpre : a ∉ pre) :
    (pre ++ a :: post).find? p = some a ↔ ∀ b ∈ pre, ¬ p b = true := by
  rw [List.find?_append, List.find?_cons_of_pos ha]
  constructor
  · intro h b hb hpb
    cases hfind : pre.find? p with
    | none => exact absurd hpb (by simpa using List.find?_eq_none.mp hfind b hb)
    | some c =>
      rw [hfind, Option.some_or, Option.some.injEq] at h
      exact hpre (h ▸ List.mem_of_find?_eq_some hfind)
  · intro h
    rw [List.find?_eq_none.mpr h, Option.none_or]

/-- **Owner of a first match.** The entry found satisfies `q` exactly when every matching entry
    that does not is preceded by a matching entry that does. -/
theorem find?_owner_iff {q : α → Prop} (h : l.find? p = some x) :
    q x ↔ ∀ (j : Nat) (y : α), l[j]? = some y → p y = true → ¬ q y →
      ∃ (i : Nat) (z : α), i < j ∧ l[i]? = some z ∧ p z = true ∧ q z := by
  obtain ⟨i, hx, hp, hfirst⟩ := find?_some_iff_first.mp h
  constructor
  · intro hq j y hy hpy hny
    have hij : i ≤ j := by
      by_contra hlt
      exact absurd hpy (Bool.eq_false_iff.mp (hfirst j y (by omega) hy))
    have hne : i ≠ j := by
      rintro rfl
      rw [hx, Option.some.injEq] at hy
      exact hny (hy ▸ hq)
    exact ⟨i, x, by omega, hx, hp, hq⟩
  · intro hall
    by_contra hnq
    obtain ⟨j, z, hj, hz, hpz, -⟩ := hall i x hx hp hnq
    exact absurd hpz (Bool.eq_false_iff.mp (hfirst j z hj hz))

/-- Going through the first slots. -/
theorem filterMap_range_getElem? (l : List α) (k : Nat) :
    (List.range k).filterMap (fun i => l[i]?) = l.take k := by
  induction k with
  | zero => rfl
  | succ k ih =>
    rw [List.range_succ, List.filterMap_append, ih, List.take_add_one]
    rcases hk : l[k]? with _ | a <;> simp [hk]

/-- An entry of an updated table is the new one or was there before. -/
theorem mem_set_of {i : Nat} {a b : α} (h : b ∈ l.set i a) : b = a ∨ b ∈ l :=
  (List.mem_or_eq_of_mem_set h).symm

/-- Writing what a slot holds changes nothing. -/
theorem set_of_getElem?_eq {i : Nat} {a : α} (h : l[i]? = some a) : l.set i a = l := by
  obtain ⟨hlt, rfl⟩ := List.getElem?_eq_some_iff.mp h
  exact List.set_getElem_self hlt

/-- The slots of an updated table. -/
theorem getElem?_set_cases {i j : Nat} {a b : α} (h : (l.set i a)[j]? = some b) :
    (i = j ∧ b = a) ∨ (i ≠ j ∧ l[j]? = some b) := by
  rw [List.getElem?_set] at h
  split at h
  · rename_i hij
    split at h
    · exact .inl ⟨hij, (Option.some.inj h).symm⟩
    · cases h
  · rename_i hij
    exact .inr ⟨hij, h⟩

/-- The entry written is found when it matches and no other slot does. -/
theorem find?_set_self {i : Nat} {a : α} (hi : i < l.length) (ha : p a = true)
    (hother : ∀ (j : Nat) (y : α), j ≠ i → l[j]? = some y → p y = false) :
    (l.set i a).find? p = some a := by
  apply find?_some_iff_first.mpr
  refine ⟨i, by simp [hi], ha, ?_⟩
  intro j y hj hy
  rcases getElem?_set_cases hy with ⟨hij, -⟩ | ⟨hij, hold⟩
  · omega
  · exact hother j y (Ne.symm hij) hold

/-- Nothing is found when neither the entry written nor another slot matches. -/
theorem find?_set_none {i : Nat} {a : α} (ha : p a = false)
    (hother : ∀ (j : Nat) (y : α), j ≠ i → l[j]? = some y → p y = false) :
    (l.set i a).find? p = none := by
  apply List.find?_eq_none.mpr
  intro y hy
  obtain ⟨j, hj⟩ := List.mem_iff_getElem?.mp hy
  rcases getElem?_set_cases hj with ⟨-, rfl⟩ | ⟨hij, hold⟩
  · simp [ha]
  · simp [hother j y (Ne.symm hij) hold]

/-- A scan does not see a slot that matches neither before nor after the update. -/
theorem find?_set_of_not {i : Nat} {a : α} (ha : p a = false)
    (hold : ∀ y : α, l[i]? = some y → p y = false) : (l.set i a).find? p = l.find? p := by
  induction l generalizing i with
  | nil => rfl
  | cons b bs ih =>
    rcases i with _ | i
    · have hb : p b = false := hold b rfl
      rw [List.set_cons_zero, List.find?_cons, List.find?_cons, ha, hb]
    · have hrest : (bs.set i a).find? p = bs.find? p := ih fun y hy => hold y (by simpa using hy)
      rw [List.set_cons_succ, List.find?_cons, List.find?_cons, hrest]

end SubnetRouter.Lib
