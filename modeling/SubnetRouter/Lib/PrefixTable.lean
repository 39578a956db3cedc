import Mathlib.Data.List.Basic
import Mathlib.Data.List.TakeWhile

namespace SubnetRouter.Lib

/-!
# Fixed tables whose used slots come first

A table of `size` slots holds a list when the items come first and blanks behind them.  A program
then adds an item by writing the first slot that is not in use, and deletes one by blanking its
slot and moving the used slots behind it up, up to the first that is not in use.

* `tableOf` — the table of a list.
* `findIdx?_tableOf`, `set_tableOf` — adding appends.
* `moveUp`, `closeGap`, `closeGap_tableOf` — deleting removes one item and keeps the order.
* `takeWhile_tableOf`, `find?_tableOf`, `map_tableOf` — reading.
-/

variable {α : Type} {used : α → Bool} {blank x : α} {size : Nat} {l : List α}

/-- The items, and blanks behind them. -/
def tableOf (size : Nat) (blank : α) (l : List α) : List α :=
  l ++ List.replicate (size - l.length) blank

theorem length_tableOf (h : l.length ≤ size) : (tableOf size blank l).length = size := by
  rw [tableOf, List.length_append, List.length_replicate]
  omega

/-! ### Reading -/

/-- The items are the used slots at the front. -/
theorem takeWhile_tableOf (hblank : used blank = false) (hused : ∀ y ∈ l, used y = true) :
    (tableOf size blank l).takeWhile used = l := by
  rw [tableOf, List.takeWhile_append_of_pos hused]
  cases size - l.length with
  | zero => simp
  | succ k => simp [List.replicate_succ, hblank]

/-- A search that no blank answers sees the items only. -/
theorem find?_tableOf {p : α → Bool} (hblank : p blank = false) :
    (tableOf size blank l).find? p = l.find? p := by
  have hrest : (List.replicate (size - l.length) blank).find? p = none := by
    apply List.find?_eq_none.mpr
    intro y hy
    rw [List.eq_of_mem_replicate hy, hblank]
    simp
  rw [tableOf, List.find?_append, hrest, Option.or_none]

/-- An update of each slot that leaves blanks alone. -/
theorem map_tableOf {f : α → α} (hblank : f blank = blank) :
    (tableOf size blank l).map f = tableOf size blank (l.map f) := by
  rw [tableOf, tableOf, List.map_append, List.map_replicate, hblank, List.length_map]

theorem getElem?_tableOf_of_lt {i : Nat} (h : i < l.length) :
    (tableOf size blank l)[i]? = l[i]? := by
  rw [tableOf, List.getElem?_append_left h]

/-- A slot behind the items is not in use. -/
theorem not_used_of_length_le {i : Nat} (hblank : used blank = false) (h : l.length ≤ i) :
    used ((tableOf size blank l).getD i blank) = false := by
  rw [List.getD_eq_getElem?_getD, tableOf, List.getElem?_append_right h, List.getElem?_replicate]
  split
  · exact hblank
  · exact hblank

/-! ### Adding -/

/-- The first slot that is not in use comes right behind the items. -/
theorem findIdx?_tableOf (hblank : used blank = false) (hused : ∀ y ∈ l, used y = true) :
    (tableOf size blank l).findIdx? (fun y => !used y) =
      if l.length < size then some l.length else none := by
  have hitems : l.findIdx? (fun y => !used y) = none := by
    apply List.findIdx?_eq_none_iff.mpr
    intro y hy
    rw [hused y hy]
    rfl
  rw [tableOf, List.findIdx?_append, hitems, Option.none_or]
  split
  next h =>
    obtain ⟨k, hk⟩ : ∃ k, size - l.length = k + 1 := ⟨size - l.length - 1, by omega⟩
    rw [hk, List.replicate_succ, List.findIdx?_cons, hblank]
    simp
  next h =>
    have hzero : size - l.length = 0 := by omega
    rw [hzero]
    rfl

/-- Writing that slot appends. -/
theorem set_tableOf (h : l.length < size) :
    (tableOf size blank l).set l.length x = tableOf size blank (l ++ [x]) := by
  have hroom : size - l.length = size - (l ++ [x]).length + 1 := by
    rw [List.length_append, List.length_singleton]
    omega
  rw [tableOf, tableOf, List.set_append_right _ _ (Nat.le_refl _), Nat.sub_self, hroom,
    List.replicate_succ, List.set_cons_zero, List.append_assoc, List.singleton_append]

/-! ### Deleting -/

/-- Move a slot up into the one before it. -/
def moveUp (blank : α) (t : List α) (i : Nat) : List α :=
  (t.set i (t.getD (i + 1) blank)).set (i + 1) blank

/-- Move slots up from slot `i` on, up to the first that is not in use; `steps` more slots are
    looked at. -/
def closeGap (used : α → Bool) (blank : α) : Nat → Nat → List α → List α
  | 0, _, t => t
  | steps + 1, i, t =>
    if used (t.getD (i + 1) blank) then closeGap used blank steps (i + 1) (moveUp blank t i) else t

@[simp] theorem length_closeGap (steps i : Nat) (t : List α) :
    (closeGap used blank steps i t).length = t.length := by
  induction steps generalizing i t with
  | zero => rfl
  | succ steps ih =>
    rw [closeGap]
    split
    · rw [ih, moveUp, List.length_set, List.length_set]
    · rfl

/-- One move takes the gap over the next item. -/
theorem moveUp_gap (pre post : List α) (y : α) :
    moveUp blank (pre ++ blank :: y :: post) pre.length = (pre ++ [y]) ++ blank :: post := by
  have hnext : (pre ++ blank :: y :: post).getD (pre.length + 1) blank = y := by
    simp [List.getD_eq_getElem?_getD]
  rw [moveUp, hnext, List.set_append_right _ _ (Nat.le_refl _), Nat.sub_self, List.set_cons_zero,
    List.set_append_right _ _ (by omega), Nat.add_sub_cancel_left, List.set_cons_succ,
    List.set_cons_zero, List.append_assoc, List.singleton_append]

/-- **The loop closes the gap**: it passes over the items behind it and stops at the blanks. By
    induction on the items behind the gap. -/
theorem closeGap_gap {steps k : Nat} {pre post : List α} (hblank : used blank = false)
    (hused : ∀ y ∈ post, used y = true) (hsteps : post.length ≤ steps) :
    closeGap used blank steps pre.length (pre ++ blank :: (post ++ List.replicate k blank)) =
      pre ++ (post ++ blank :: List.replicate k blank) := by
  induction steps generalizing pre post with
  | zero =>
    obtain rfl : post = [] := List.length_eq_zero_iff.mp (by omega)
    rfl
  | succ steps ih =>
    cases post with
    | nil =>
      -- nothing to move: behind the gap there are blanks only, or nothing
      have hnext : (pre ++ blank :: ([] ++ List.replicate k blank)).getD (pre.length + 1) blank =
          blank := by
        cases k <;> simp [List.getD_eq_getElem?_getD, List.replicate_succ]
      rw [closeGap, hnext, hblank]
      rfl
    | cons y post =>
      rw [List.length_cons] at hsteps
      have hnext : (pre ++ blank :: (y :: post ++ List.replicate k blank)).getD (pre.length + 1)
          blank = y := by
        simp [List.getD_eq_getElem?_getD]
      have hmove : moveUp blank (pre ++ blank :: (y :: post ++ List.replicate k blank))
          pre.length = (pre ++ [y]) ++ blank :: (post ++ List.replicate k blank) :=
        moveUp_gap pre (post ++ List.replicate k blank) y
      have hlength : (pre ++ [y]).length = pre.length + 1 := by simp
      rw [closeGap, hnext, if_pos (hused y (List.mem_cons_self ..)), hmove, ← hlength,
        ih (fun z hz => hused z (List.mem_cons_of_mem y hz)) (by omega), List.append_assoc,
        List.singleton_append, List.cons_append]

/-- **Deleting.** To blank the slot of an item and close the gap removes the item. -/
theorem closeGap_tableOf {i : Nat} (hblank : used blank = false) (hused : ∀ y ∈ l, used y = true)
    (hsize : l.length ≤ size) (h : i < l.length) :
    closeGap used blank (size - 1 - i) i ((tableOf size blank l).set i blank) =
      tableOf size blank (l.eraseIdx i) := by
  have hsplit : (tableOf size blank l).set i blank =
      l.take i ++ blank :: (l.drop (i + 1) ++ List.replicate (size - l.length) blank) := by
    rw [tableOf, List.set_append_left _ _ h, List.set_eq_take_append_cons_drop, if_pos h,
      List.append_assoc, List.cons_append]
  have hlength : (l.take i).length = i := by rw [List.length_take]; omega
  have hsteps : (l.drop (i + 1)).length ≤ size - 1 - i := by rw [List.length_drop]; omega
  have hclosed : closeGap used blank (size - 1 - i) (l.take i).length
      (l.take i ++ blank :: (l.drop (i + 1) ++ List.replicate (size - l.length) blank)) = _ :=
    closeGap_gap hblank (fun y hy => hused y (List.mem_of_mem_drop hy)) hsteps
  rw [hlength] at hclosed
  have hblanks : size - (l.eraseIdx i).length = size - l.length + 1 := by
    rw [List.length_eraseIdx_of_lt h]
    omega
  rw [hsplit, hclosed, tableOf, hblanks, List.eraseIdx_eq_take_drop_succ, List.append_assoc,
    List.replicate_succ]

end SubnetRouter.Lib
