import Mathlib.Data.List.Basic

namespace SubnetRouter.Lib

/-!
# Rings that keep the newest items

A ring has slots, the slot that is written next, and the number of slots in use.  A push writes
that slot; when all are in use it overwrites the oldest item.

* `Ring.push`, `Ring.pushAll`, `Ring.clear` — the writes; `Ring.writeIndices` — where they go.
* `Ring.copyOut` — the loop that reads a piece in at most two chunks; `Ring.readIndices` — from
  where.
* `Ring.Holds` — the ring keeps the newest items of a history.
* `Ring.Holds.copyOut` — what the loop reads is the end of the history.
* `Ring.exists_holds` — a ring that is found with its places in range holds some history.
-/

/-- Slots, the next one to write, and the number of those in use. -/
structure Ring (α : Type) where
  slots : List α
  head : Nat
  count : Nat

namespace Ring

variable {α : Type} {r : Ring α} {l : List α} {x : α}

/-- The number of slots. -/
def cap (r : Ring α) : Nat := r.slots.length

/-- Write the next slot. -/
def push (r : Ring α) (x : α) : Ring α where
  slots := r.slots.set r.head x
  head := (r.head + 1) % r.cap
  count := if r.count < r.cap then r.count + 1 else r.count

/-- Write several. -/
def pushAll (r : Ring α) (xs : List α) : Ring α := xs.foldl push r

/-- The slots that these pushes write. -/
def writeIndices (r : Ring α) : List α → List Nat
  | [] => []
  | x :: xs => r.head :: (r.push x).writeIndices xs

/-- Forget the items; the slots keep what they have. -/
def clear (r : Ring α) : Ring α := { r with head := 0, count := 0 }

/-- Read `want` slots from `pos` on, wrapping around: each round copies up to the last slot. There
    are as many rounds as the caller allows. -/
def copyOut (slots : List α) : Nat → Nat → Nat → List α
  | 0, _, _ => []
  | rounds + 1, pos, want =>
    if want = 0 then []
    else
      let chunk := if pos + want ≤ slots.length then want else slots.length - pos
      (slots.drop pos).take chunk ++
        copyOut slots rounds ((pos + chunk) % slots.length) (want - chunk)

/-- The slots that `copyOut` reads, in its order. They say where it reads, apart from what is
    there. -/
def readIndices (cap : Nat) : Nat → Nat → Nat → List Nat
  | 0, _, _ => []
  | rounds + 1, pos, want =>
    if want = 0 then []
    else
      let chunk := if pos + want ≤ cap then want else cap - pos
      List.range' pos chunk ++ readIndices cap rounds ((pos + chunk) % cap) (want - chunk)

/-- The slot `k` places before the next one. -/
def back (cap head k : Nat) : Nat := (head + cap - k) % cap

/-! ### Places -/

theorem back_of_le {cap head k : Nat} (hhead : head < cap) (hk : k ≤ head) :
    back cap head k = head - k := by
  rw [back, show head + cap - k = head - k + cap by omega, Nat.add_mod_right,
    Nat.mod_eq_of_lt (by omega)]

theorem back_of_lt {cap head k : Nat} (hhead : head < k) (hk : k ≤ cap) :
    back cap head k = head + cap - k :=
  Nat.mod_eq_of_lt (by omega)

/-- A push moves every place one further back. -/
theorem back_advance {cap head k : Nat} (hhead : head < cap) (hk : k < cap) :
    back cap ((head + 1) % cap) (k + 1) = back cap head k := by
  by_cases hwrap : head + 1 < cap
  · rw [Nat.mod_eq_of_lt hwrap]
    by_cases hle : k ≤ head
    · rw [back_of_le hhead hle, back_of_le hwrap (by omega)]
      omega
    · rw [back_of_lt (by omega) (by omega), back_of_lt (by omega) (by omega)]
      omega
  · have hlast : head + 1 = cap := by omega
    rw [hlast, Nat.mod_self, back_of_le hhead (by omega), back_of_lt (by omega) (by omega)]
    omega

theorem back_ne_head {cap head k : Nat} (hhead : head < cap) (hpos : 0 < k) (hk : k < cap) :
    back cap head k ≠ head := by
  by_cases hle : k ≤ head
  · rw [back_of_le hhead hle]
    omega
  · rw [back_of_lt (by omega) (by omega)]
    omega

/-! ### The newest items of a history -/

/-- The ring keeps the newest `count` items of the history `l`. The items are counted from the end
    of the history, backwards from the head. -/
structure Holds (r : Ring α) (l : List α) : Prop where
  head_lt : 0 < r.cap → r.head < r.cap
  count_le : r.count ≤ r.cap
  count_le_length : r.count ≤ l.length
  newest : ∀ k, 0 < k → k ≤ r.count → r.slots[back r.cap r.head k]? = l[l.length - k]?

/-- A ring that is not in use holds nothing, of any history. -/
theorem holds_of_count_zero (hhead : r.head = 0) (hcount : r.count = 0) (l : List α) :
    r.Holds l where
  head_lt h := by omega
  count_le := by omega
  count_le_length := by omega
  newest k hpos hk := by omega

theorem Holds.clear (_h : r.Holds l) : r.clear.Holds l := holds_of_count_zero rfl rfl l

@[simp] theorem cap_push : (r.push x).cap = r.cap := List.length_set

/-- **A push appends to the history.** A ring that is full gives up its oldest item for it. -/
theorem Holds.push (h : r.Holds l) (hcap : 0 < r.cap) (x : α) : (r.push x).Holds (l ++ [x]) := by
  have hhead := h.head_lt hcap
  have hcount := h.count_le
  have hlength := h.count_le_length
  have hsucc : (r.push x).count ≤ r.count + 1 := by
    show (if r.count < r.cap then r.count + 1 else r.count) ≤ r.count + 1
    split <;> omega
  have hle : (r.push x).count ≤ r.cap := by
    show (if r.count < r.cap then r.count + 1 else r.count) ≤ r.cap
    split <;> omega
  refine ⟨fun _ => ?_, ?_, ?_, ?_⟩
  · rw [cap_push]
    exact Nat.mod_lt _ hcap
  · rwa [cap_push]
  · rw [List.length_append, List.length_singleton]
    omega
  · intro k hpos hk
    obtain ⟨k, rfl⟩ : ∃ j, k = j + 1 := ⟨k - 1, by omega⟩
    rw [cap_push, List.length_append, List.length_singleton, Nat.add_sub_add_right]
    show (r.slots.set r.head x)[back r.cap ((r.head + 1) % r.cap) (k + 1)]? = _
    rw [back_advance hhead (by omega)]
    by_cases hzero : k = 0
    · -- the slot that was just written
      subst hzero
      rw [back_of_le hhead (Nat.zero_le _), Nat.sub_zero, List.getElem?_set_self hhead,
        Nat.sub_zero, List.getElem?_concat_length]
    · rw [List.getElem?_set_ne (back_ne_head hhead (by omega) (by omega)).symm,
        h.newest k (by omega) (by omega), List.getElem?_append_left (by omega)]

theorem cap_pushAll (xs : List α) : (r.pushAll xs).cap = r.cap := by
  induction xs generalizing r with
  | nil => rfl
  | cons x xs ih => exact ih.trans cap_push

/-- The number of slots in use, if it is in range; one that is too great stays. -/
theorem count_pushAll (xs : List α) : (r.pushAll xs).count =
    if r.count ≤ r.cap then min r.cap (r.count + xs.length) else r.count := by
  induction xs generalizing r with
  | nil =>
    show r.count = _
    rw [List.length_nil, Nat.add_zero]
    split <;> omega
  | cons x xs ih =>
    have hcount : (r.push x).count = if r.count < r.cap then r.count + 1 else r.count := rfl
    show ((r.push x).pushAll xs).count = _
    rw [ih, cap_push, hcount, List.length_cons]
    split_ifs <;> omega

theorem head_pushAll_lt (hcap : 0 < r.cap) (hhead : r.head < r.cap) (xs : List α) :
    (r.pushAll xs).head < r.cap := by
  induction xs generalizing r with
  | nil => exact hhead
  | cons x xs ih =>
    have hnext : (r.push x).head < (r.push x).cap := by
      rw [cap_push]
      exact Nat.mod_lt _ hcap
    have hrest := ih (by rwa [cap_push]) hnext
    rwa [cap_push] at hrest

/-- **Writes stay in the slots** exactly if the first of them does. -/
theorem writeIndices_lt_iff (hcap : 0 < r.cap) (xs : List α) :
    (∀ i ∈ r.writeIndices xs, i < r.cap) ↔ (xs ≠ [] → r.head < r.cap) := by
  induction xs generalizing r with
  | nil => simp [writeIndices]
  | cons x xs ih =>
    have hnext : (r.push x).head < (r.push x).cap := by
      rw [cap_push]
      exact Nat.mod_lt _ hcap
    have hrest := (ih (by rwa [cap_push])).mpr fun _ => hnext
    rw [cap_push] at hrest
    rw [writeIndices, List.forall_mem_cons]
    exact ⟨fun h _ => h.1, fun h => ⟨h (List.cons_ne_nil x xs), hrest⟩⟩

/-- Several pushes. -/
theorem Holds.pushAll (h : r.Holds l) (hcap : 0 < r.cap) (xs : List α) :
    (r.pushAll xs).Holds (l ++ xs) := by
  induction xs generalizing r l with
  | nil => rwa [List.append_nil]
  | cons x xs ih =>
    have hrest := ih (h.push hcap x) (by rwa [cap_push])
    rwa [List.append_assoc, List.singleton_append] at hrest

/-- Of more items than there are slots the last ones are enough. -/
theorem Holds.pushLast (h : r.Holds l) (hcap : 0 < r.cap) (xs : List α) :
    (r.pushAll (xs.drop (xs.length - r.cap))).Holds (l ++ xs) := by
  have hlast := h.pushAll hcap (xs.drop (xs.length - r.cap))
  by_cases hfits : xs.length ≤ r.cap
  · rwa [show xs.length - r.cap = 0 by omega, List.drop_zero] at hlast ⊢
  · have hcapLast := cap_pushAll (r := r) (xs.drop (xs.length - r.cap))
    have hcount := hlast.count_le
    refine ⟨hlast.head_lt, hcount, ?_, fun k hpos hk => ?_⟩
    · rw [List.length_append]
      omega
    · -- no item is further back than the slots go
      rw [hlast.newest k hpos hk, List.getElem?_append_right (by
        rw [List.length_append, List.length_drop]; omega),
        List.getElem?_append_right (by rw [List.length_append]; omega), List.getElem?_drop]
      congr 1
      rw [List.length_append, List.length_append, List.length_drop]
      omega

/-! ### Reading -/

/-- The loop reads all the slots it wants, in order. By induction on the rounds, each of which reads
    at least one slot. -/
theorem getElem?_copyOut {slots : List α} {rounds pos want : Nat} (hpos : pos < slots.length)
    (hrounds : want ≤ rounds) :
    (copyOut slots rounds pos want).length = want ∧
      ∀ j < want, (copyOut slots rounds pos want)[j]? = slots[(pos + j) % slots.length]? := by
  induction rounds generalizing pos want with
  | zero =>
    obtain rfl : want = 0 := by omega
    exact ⟨rfl, fun j hj => absurd hj (Nat.not_lt_zero j)⟩
  | succ rounds ih =>
    rw [copyOut]
    by_cases hzero : want = 0
    · subst hzero
      exact ⟨rfl, fun j hj => absurd hj (Nat.not_lt_zero j)⟩
    rw [if_neg hzero]
    by_cases hfits : pos + want ≤ slots.length
    · -- the last round
      have hchunk : ((slots.drop pos).take want).length = want := by
        rw [List.length_take, List.length_drop]
        omega
      have hrest : copyOut slots rounds ((pos + want) % slots.length) (want - want) = [] := by
        rw [Nat.sub_self]
        cases rounds <;> rfl
      simp only [if_pos hfits, hrest, List.append_nil]
      refine ⟨hchunk, fun j hj => ?_⟩
      rw [List.getElem?_take_of_lt hj, List.getElem?_drop, Nat.mod_eq_of_lt (by omega)]
    · -- up to the last slot, and on from the first
      have hchunk : ((slots.drop pos).take (slots.length - pos)).length = slots.length - pos := by
        rw [List.length_take, List.length_drop, Nat.min_self]
      have hwrap : (pos + (slots.length - pos)) % slots.length = 0 := by
        rw [show pos + (slots.length - pos) = slots.length by omega, Nat.mod_self]
      have hleft : want - (slots.length - pos) ≤ rounds := by omega
      obtain ⟨hlength, hget⟩ := ih (Nat.lt_of_le_of_lt (Nat.zero_le pos) hpos) hleft
      simp only [if_neg hfits, hwrap]
      refine ⟨by rw [List.length_append, hchunk, hlength]; omega, fun j hj => ?_⟩
      by_cases hj' : j < slots.length - pos
      · rw [List.getElem?_append_left (by omega), List.getElem?_take_of_lt hj',
          List.getElem?_drop, Nat.mod_eq_of_lt (by omega)]
      · rw [List.getElem?_append_right (by omega), hchunk, hget _ (by omega)]
        congr 1
        rw [Nat.zero_add, show pos + j = j - (slots.length - pos) + slots.length by omega,
          Nat.add_mod_right]

/-- Item `j` of those that are read is `want - j` places back. -/
theorem back_add_mod {cap head want j : Nat} (hwant : want ≤ cap) (hj : j < want) :
    (back cap head want + j) % cap = back cap head (want - j) := by
  rw [back, back, Nat.mod_add_mod]
  congr 1
  omega

/-- **Reads stay in the slots.** -/
theorem readIndices_lt {cap rounds pos want : Nat} (hpos : pos < cap) :
    ∀ i ∈ readIndices cap rounds pos want, i < cap := by
  induction rounds generalizing pos want with
  | zero => simp [readIndices]
  | succ rounds ih =>
    intro i hi
    rw [readIndices] at hi
    by_cases hzero : want = 0
    · rw [if_pos hzero] at hi
      cases hi
    · rw [if_neg hzero] at hi
      rcases List.mem_append.mp hi with hchunk | hrest
      · have hrange := List.mem_range'_1.mp hchunk
        split at hrange <;> omega
      · exact ih (Nat.mod_lt _ (by omega)) i hrest

/-- **Found content.** A ring with its places in range holds some history. -/
theorem exists_holds (hhead : r.head < r.cap) (hcount : r.count ≤ r.cap) :
    ∃ l : List α, l.length = r.count ∧ r.Holds l := by
  have hcap : 0 < r.cap := by omega
  have hpos : back r.cap r.head r.count < r.slots.length := Nat.mod_lt _ hcap
  obtain ⟨hlen, hget⟩ := getElem?_copyOut hpos (Nat.le_refl r.count)
  refine ⟨copyOut r.slots r.count (back r.cap r.head r.count) r.count, hlen, fun _ => hhead,
    hcount, by omega, fun k hk hle => ?_⟩
  have hplace : (back r.cap r.head r.count + (r.count - k)) % r.slots.length =
      back r.cap r.head (r.count - (r.count - k)) := back_add_mod hcount (by omega)
  rw [hlen, hget _ (by omega), hplace, Nat.sub_sub_self hle]

/-- **What is read is the end of the history.** -/
theorem Holds.copyOut (h : r.Holds l) {want : Nat} (hwant : want ≤ r.count) :
    copyOut r.slots want (back r.cap r.head want) want = l.drop (l.length - want) := by
  have hlength := h.count_le_length
  by_cases hzero : want = 0
  · subst hzero
    rw [Nat.sub_zero, List.drop_length]
    rfl
  have hcap : 0 < r.cap := by have := h.count_le; omega
  have hpos : back r.cap r.head want < r.slots.length := Nat.mod_lt _ hcap
  obtain ⟨hlen, hget⟩ := getElem?_copyOut hpos (Nat.le_refl want)
  apply List.ext_getElem?
  intro j
  by_cases hj : j < want
  · have hplace : (back r.cap r.head want + j) % r.slots.length = back r.cap r.head (want - j) :=
      back_add_mod (Nat.le_trans hwant h.count_le) hj
    rw [hget j hj, hplace, h.newest (want - j) (by omega) (by omega), List.getElem?_drop]
    congr 1
    omega
  · rw [List.getElem?_eq_none (by omega), List.getElem?_eq_none (by rw [List.length_drop]; omega)]

end Ring

end SubnetRouter.Lib
