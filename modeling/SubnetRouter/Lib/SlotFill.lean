import Mathlib.Data.List.Basic

namespace SubnetRouter.Lib

/-!
# Filling the next slot until it counts

A loop decodes items into the slots of a cleared array.  Each item is written into the next free
slot, and only when all of it is in order does the slot count; otherwise the loop goes on, with what
was written so far left in the slot.

* `fillSlots` — the loop; `alone` — an item by itself.
* `fillSlots_eq` — if what is left in a slot makes no difference to the next item, the array holds
  what each item by itself decodes to, and nothing of those that were left out.
-/

variable {ι α : Type}

/-- Items into slots, at most `size` of them; `step` writes an item into a slot and tells whether it
    counts.  `slot` is the next slot. -/
def fillSlots (size : Nat) (blank : α) (step : ι → α → α × Bool) : List ι → List α → α → List α
  | [], done, _ => done
  | i :: items, done, slot =>
    if size ≤ done.length then done
    else
      match step i slot with
      | (slot, true) => fillSlots size blank step items (done ++ [slot]) blank
      | (slot, false) => fillSlots size blank step items done slot

/-- What an item by itself decodes to, in a blank slot. -/
def alone (blank : α) (step : ι → α → α × Bool) (i : ι) : Option α :=
  match step i blank with
  | (slot, true) => some slot
  | (_, false) => none

variable {size : Nat} {blank slot : α} {step : ι → α → α × Bool} {items : List ι} {done : List α}
  {Clean : α → Prop}

/-- A step takes a clean slot for a blank one, and leaves it clean if the item does not count. So
    what an item that was left out has written into its slot does not show in the next one. -/
structure TakesClean (blank : α) (step : ι → α → α × Bool) (Clean : α → Prop) : Prop where
  start : Clean blank
  takes : ∀ i slot, Clean slot →
    (∃ x, step i slot = (x, true) ∧ step i blank = (x, true)) ∨
      ∃ x y, step i slot = (x, false) ∧ step i blank = (y, false) ∧ Clean x

theorem alone_of_counts {i : ι} {x : α} (h : step i blank = (x, true)) :
    alone blank step i = some x := by
  rw [alone, h]

theorem alone_of_skips {i : ι} {x : α} (h : step i blank = (x, false)) :
    alone blank step i = none := by
  rw [alone, h]

/-- What an item decodes to has counted. -/
theorem counts_of_alone {i : ι} {x : α} (h : alone blank step i = some x) :
    step i blank = (x, true) := by
  unfold alone at h
  split at h
  · rename_i hstep
    rw [hstep, Option.some.inj h]
  · cases h

/-- The loop collects what the items decode to behind what it has, as far as there is room. -/
theorem fillSlots_append (h : TakesClean blank step Clean) (hslot : Clean slot)
    (hdone : done.length ≤ size) :
    fillSlots size blank step items done slot =
      done ++ (items.filterMap (alone blank step)).take (size - done.length) := by
  induction items generalizing done slot with
  | nil => simp [fillSlots]
  | cons i items ih =>
    unfold fillSlots
    split_ifs with hfull
    -- The array is full.
    · rw [Nat.sub_eq_zero_of_le hfull, List.take_zero, List.append_nil]
    -- An item counts and takes the slot, or is skipped and leaves it clean.
    · obtain ⟨x, hstep, hblank⟩ | ⟨x, y, hstep, hblank, hclean⟩ := h.takes i slot hslot
      · have hroom : size - done.length = size - (done.length + 1) + 1 := by omega
        rw [hstep]
        dsimp only
        rw [ih h.start (by simp; omega), List.filterMap_cons_some (alone_of_counts hblank), hroom,
          List.take_succ_cons, List.append_assoc, List.length_append, List.length_singleton]
        rfl
      · rw [hstep]
        dsimp only
        rw [ih hclean hdone, List.filterMap_cons_none (alone_of_skips hblank)]

/-- **The array** holds what the items by themselves decode to, as far as there is room. -/
theorem fillSlots_eq (h : TakesClean blank step Clean) :
    fillSlots size blank step items [] blank = (items.filterMap (alone blank step)).take size := by
  rw [fillSlots_append h h.start (Nat.zero_le size), List.nil_append, List.length_nil,
    Nat.sub_zero]

end SubnetRouter.Lib
