import Mathlib.Data.List.Basic

namespace SubnetRouter.Lib

/-!
# Fixed tables that are cleared and filled again

A table has `size` slots and a counter of those in use.  To replace its contents, a program
clears it and goes through an array: entries that are not worth keeping are skipped, the others
are put into the next slot, after some fields have been set.

* `CountedTable` — slots and counter; `clear`, `push`, `fill` — the program.
* `slots_fill`, `count_fill` — the kept entries first, in order, and blanks behind them.
* `fill_eq_iff` — when filling makes no difference.
-/

/-- A table of `size` slots and the number of those in use. The slots behind them hold what was left
    there. -/
structure CountedTable (α : Type) (size : Nat) where
  slots : List α
  count : Nat
  length_slots : slots.length = size
deriving DecidableEq

namespace CountedTable

variable {α : Type} {size : Nat} {t u : CountedTable α size} {blank x : α} {keep : α → Bool}
  {mark : α → α} {arr : List α}

@[ext] theorem ext (hslots : t.slots = u.slots) (hcount : t.count = u.count) : t = u := by
  cases t
  cases u
  simpa using ⟨hslots, hcount⟩

/-- All slots blank. -/
def clear (size : Nat) (blank : α) : CountedTable α size :=
  ⟨List.replicate size blank, 0, List.length_replicate⟩

/-- Write the next slot. -/
def push (t : CountedTable α size) (x : α) : CountedTable α size :=
  ⟨t.slots.set t.count x, t.count + 1, by rw [List.length_set, t.length_slots]⟩

/-- Put in the entries worth keeping, one after the other. -/
def fill (keep : α → Bool) (mark : α → α) (t : CountedTable α size) (arr : List α) :
    CountedTable α size :=
  arr.foldl (fun t x => if keep x then t.push (mark x) else t) t

/-- What is kept of an array. -/
def kept (keep : α → Bool) (mark : α → α) (arr : List α) : List α := (arr.filter keep).map mark

/-- The entries so far, with blanks behind them. -/
def Filled (blank : α) (t : CountedTable α size) (entries : List α) : Prop :=
  t.slots = entries ++ List.replicate (size - entries.length) blank ∧ t.count = entries.length

theorem filled_clear (size : Nat) (blank : α) : (clear size blank).Filled blank [] := ⟨rfl, rfl⟩

/-- One more entry, if there is room. -/
theorem Filled.push {entries : List α} (h : t.Filled blank entries)
    (hroom : entries.length < size) : (t.push x).Filled blank (entries ++ [x]) := by
  obtain ⟨hslots, hcount⟩ := h
  constructor
  · show t.slots.set t.count x = _
    rw [hslots, hcount, List.set_append_right _ _ (Nat.le_refl _), Nat.sub_self,
      List.length_append, List.length_singleton, List.append_assoc]
    have hblank : size - entries.length = size - (entries.length + 1) + 1 := by omega
    rw [hblank, List.replicate_succ, List.set_cons_zero, List.singleton_append]
  · show t.count + 1 = _
    rw [hcount, List.length_append, List.length_singleton]

/-- The loop, from the entries so far. -/
theorem Filled.fill {entries : List α} (h : t.Filled blank entries)
    (hroom : entries.length + arr.length ≤ size) :
    (t.fill keep mark arr).Filled blank (entries ++ kept keep mark arr) := by
  induction arr generalizing t entries with
  | nil => simpa [CountedTable.fill, kept] using h
  | cons x arr ih =>
    rw [List.length_cons] at hroom
    by_cases hkeep : keep x = true
    · have hpush : (t.push (mark x)).Filled blank (entries ++ [mark x]) := h.push (by omega)
      have hrest := ih hpush (by simp; omega)
      simpa [CountedTable.fill, kept, hkeep] using hrest
    · have hrest := ih h (by omega)
      simpa [CountedTable.fill, kept, hkeep] using hrest

/-- **The filled table.** -/
theorem filled_fill (h : arr.length ≤ size) :
    ((clear size blank).fill keep mark arr).Filled blank (kept keep mark arr) :=
  (filled_clear size blank).fill (by simpa using h)

theorem Filled.ext {entries : List α} (ht : t.Filled blank entries) (hu : u.Filled blank entries) :
    t = u := by
  ext1
  · rw [ht.1, hu.1]
  · rw [ht.2, hu.2]

/-- Filling makes no difference exactly when the table holds what is kept of the array. -/
theorem fill_eq_iff (h : arr.length ≤ size) :
    (clear size blank).fill keep mark arr = t ↔ t.Filled blank (kept keep mark arr) := by
  constructor
  · rintro rfl
    exact filled_fill h
  · exact (filled_fill h).ext

instance [DecidableEq α] {entries : List α} : Decidable (t.Filled blank entries) :=
  inferInstanceAs (Decidable (_ ∧ _))

end CountedTable

end SubnetRouter.Lib
