import Mathlib.Data.List.Count
import Mathlib.Data.List.MinMax
import Mathlib.Data.List.Nodup
import Mathlib.Data.List.Perm.Basic

namespace SubnetRouter.Lib

/-!
# Keeping the newest entries

Entries have keys in a linear order, no two the same.  `retain` removes the smallest entry, as
often as it gets the chance, until a limit is kept.

* `below`, `above` — how many entries have a smaller or a greater key.
* `length_eq_below_add_above` — an entry and those on its two sides are all there is.
* `mem_retain_iff` — what is kept has few entries above it, or the chances run out before.
* `newestFirst` — the entries by falling keys; `newestFirst_take`, `lt_of_newestFirst_take` — when
  the entries at the front of a list are the newest ones.
-/

variable {α κ : Type} [LinearOrder κ] {key : α → κ} {l : List α} {x o : α} {limit : Nat}

/-- The number of entries with a smaller key. -/
def below (key : α → κ) (x : α) (l : List α) : Nat := l.countP fun a => key a < key x

/-- The number of entries with a greater key. -/
def above (key : α → κ) (x : α) (l : List α) : Nat := l.countP fun a => key x < key a

/-- Ranks are about keys only. -/
theorem below_congr {l' : List α} {y : α} (hl : l.map key = l'.map key) (hx : key x = key y) :
    below key x l = below key y l' := by
  have hmap : ∀ (a : α) (m : List α), below key a m = (m.map key).countP fun k => k < key a :=
    fun a m => by rw [List.countP_map]; rfl
  rw [hmap, hmap, hl, hx]

theorem above_congr {l' : List α} {y : α} (hl : l.map key = l'.map key) (hx : key x = key y) :
    above key x l = above key y l' := by
  have hmap : ∀ (a : α) (m : List α), above key a m = (m.map key).countP fun k => key a < k :=
    fun a m => by rw [List.countP_map]; rfl
  rw [hmap, hmap, hl, hx]

theorem above_eq_zero (h : ∀ a ∈ l, key a < key x) : above key x l = 0 :=
  List.countP_eq_zero.mpr fun a ha hlt => lt_asymm (h a ha) (of_decide_eq_true hlt)

/-- All entries but the one with this key. -/
def without (key : α → κ) (o : α) (l : List α) : List α := l.filter fun a => key a ≠ key o

/-- The entry with the smallest key. -/
def smallest (key : α → κ) (l : List α) : Option α := l.argmin key

theorem smallest_eq_none : smallest key l = none ↔ l = [] := List.argmin_eq_none

theorem smallest_mem (h : smallest key l = some o) : o ∈ l := List.argmin_mem h

theorem smallest_le (h : smallest key l = some o) {a : α} (ha : a ∈ l) : key o ≤ key a :=
  List.le_of_mem_argmin ha h

/-- Nothing is below the smallest entry. -/
theorem below_smallest (h : smallest key l = some o) : below key o l = 0 := by
  refine List.countP_eq_zero.mpr fun a ha hlt => ?_
  exact not_lt.mpr (smallest_le h ha) (of_decide_eq_true hlt)

/-- Remove the smallest entry so many times, or until the limit is kept. With as many passes as
    there are entries too many, it is kept. -/
def retain (key : α → κ) (limit : Nat) : Nat → List α → List α
  | 0, l => l
  | passes + 1, l =>
    if l.length ≤ limit then l
    else
      match smallest key l with
      | none => l
      | some o => retain key limit passes (without key o l)

/-- A scan that keeps the smaller of two entries, or a copy of it, finds the smallest. `g` is what
    the scan makes of an entry. -/
theorem foldl_eq_smallest {β : Type} {g : α → β} {step : Option β → β → Option β}
    (hnone : ∀ a ∈ l, step none (g a) = some (g a))
    (hsome : ∀ o ∈ l, ∀ a ∈ l,
      step (some (g o)) (g a) = some (g (if key a < key o then a else o))) :
    (l.map g).foldl step none = (smallest key l).map g := by
  -- Generalised to any entry at hand: the scan and `argmin` then go on alike.
  have hfold : ∀ (rest : List α) (o : Option α), (∀ b ∈ o, b ∈ l) → (∀ a ∈ rest, a ∈ l) →
      (rest.map g).foldl step (o.map g) =
        (rest.foldl (List.argAux fun a b => key a < key b) o).map g := by
    intro rest
    induction rest with
    | nil => exact fun _ _ _ => rfl
    | cons a rest ih =>
      intro o ho hrest
      have ha := hrest a List.mem_cons_self
      rw [List.map_cons, List.foldl_cons, List.foldl_cons]
      cases o with
      | none =>
        rw [Option.map_none, hnone a ha]
        exact ih (some a) (by simpa using ha) fun b hb => hrest b (List.mem_cons_of_mem a hb)
      | some o =>
        have haux : List.argAux (fun a b => key a < key b) (some o) a =
            some (if key a < key o then a else o) := (apply_ite some ..).symm
        rw [Option.map_some, hsome o (ho o rfl) a ha, haux]
        refine ih (some _) ?_ fun b hb => hrest b (List.mem_cons_of_mem a hb)
        rintro b ⟨⟩
        split
        · exact ha
        · exact ho o rfl
  exact hfold l none (by simp) fun a ha => ha

/-- Where no entry has the key, each one is below or above. -/
theorem length_eq_of_ne (h : ∀ a ∈ l, key a ≠ key x) :
    l.length = below key x l + above key x l := by
  rw [List.length_eq_countP_add_countP fun a => decide (key a < key x)]
  congr 1
  refine List.countP_congr fun a ha => ?_
  have hne := h a ha
  simp only [decide_eq_true_eq, not_lt]
  exact ⟨fun hle => lt_of_le_of_ne hle hne.symm, le_of_lt⟩

/-- The entries are the others and the one that is taken out. -/
theorem perm_cons_without (hnd : (l.map key).Nodup) (ho : o ∈ l) :
    l.Perm (o :: without key o l) := by
  classical
  have hfilter : l.erase o = without key o l := by
    rw [hnd.of_map.erase_eq_filter]
    refine List.filter_congr fun a ha => ?_
    have hinj : key a = key o ↔ a = o :=
      ⟨fun h => List.inj_on_of_nodup_map hnd ha ho h, fun h => h ▸ rfl⟩
    rw [bne, beq_eq_decide, decide_not, decide_eq_decide.mpr hinj]
  exact hfilter ▸ List.perm_cons_erase ho

theorem nodup_without (hnd : (l.map key).Nodup) (o : α) : ((without key o l).map key).Nodup :=
  hnd.sublist (List.filter_sublist.map key)

theorem mem_without : x ∈ without key o l ↔ x ∈ l ∧ key x ≠ key o := by
  simp [without]

/-- **Rank.** An entry, those below it and those above it are all there is. -/
theorem length_eq_below_add_above (hnd : (l.map key).Nodup) (hx : x ∈ l) :
    l.length = below key x l + above key x l + 1 := by
  have hperm := perm_cons_without hnd hx
  have hrest : ∀ a ∈ without key x l, key a ≠ key x := fun a ha => (mem_without.mp ha).2
  rw [hperm.length_eq, List.length_cons, length_eq_of_ne hrest, below, below, above, above,
    hperm.countP_eq, hperm.countP_eq]
  simp

/-- Taking out the smallest entry lowers the rank of the others. -/
theorem below_without (hnd : (l.map key).Nodup) (ho : o ∈ l) (hlt : key o < key x) :
    below key x l = below key x (without key o l) + 1 := by
  rw [below, (perm_cons_without hnd ho).countP_eq, List.countP_cons]
  simp [below, hlt]

theorem above_without (hnd : (l.map key).Nodup) (ho : o ∈ l) (hlt : key o < key x) :
    above key x l = above key x (without key o l) := by
  rw [above, (perm_cons_without hnd ho).countP_eq, List.countP_cons]
  simp [above, hlt.le]

theorem retain_subset (limit passes : Nat) : retain key limit passes l ⊆ l := by
  induction passes generalizing l with
  | zero => exact List.Subset.refl l
  | succ passes ih =>
    rw [retain]
    split
    · exact List.Subset.refl l
    · split
      · exact List.Subset.refl l
      · exact fun a ha => (mem_without.mp (ih ha)).1

/-- **What is kept.** An entry is kept exactly when the entries above it leave room for it, or
    the chances run out on the entries below it. -/
theorem mem_retain_iff (hnd : (l.map key).Nodup) (hx : x ∈ l) (passes : Nat) :
    x ∈ retain key limit passes l ↔ above key x l < limit ∨ passes ≤ below key x l := by
  induction passes generalizing l with
  | zero => simp [retain, hx]
  | succ passes ih =>
    have hlength := length_eq_below_add_above hnd hx
    rw [retain]
    split
    · rename_i hfits
      exact ⟨fun _ => .inl (by omega), fun _ => hx⟩
    · rename_i hmany
      split
      · rename_i hnone
        rw [List.argmin_eq_none.mp hnone] at hx
        cases hx
      · rename_i o hmin
        have ho : o ∈ l := List.argmin_mem hmin
        by_cases hkey : key x = key o
        · obtain rfl : x = o := List.inj_on_of_nodup_map hnd hx ho hkey
          -- nothing is below the smallest entry, and the others fill the limit
          have hbelow : below key x l = 0 := below_smallest hmin
          have hgone : x ∉ retain key limit passes (without key x l) := fun h =>
            (mem_without.mp (retain_subset limit passes h)).2 rfl
          exact ⟨fun h => absurd h hgone, by omega⟩
        · have hlt : key o < key x :=
            lt_of_le_of_ne (List.le_of_mem_argmin hx hmin) (Ne.symm hkey)
          rw [ih (nodup_without hnd o) (mem_without.mpr ⟨hx, hkey⟩),
            above_without hnd ho hlt, below_without hnd ho hlt]
          omega

/-! ### The newest first -/

/-- The entries by falling keys. -/
def newestFirst (key : α → κ) (l : List α) : List α := l.mergeSort fun a b => key b ≤ key a

theorem perm_newestFirst (key : α → κ) (l : List α) : (newestFirst key l).Perm l :=
  List.mergeSort_perm l _

theorem pairwise_newestFirst (key : α → κ) (l : List α) :
    (newestFirst key l).Pairwise fun a b => key b ≤ key a := by
  have htrans : ∀ a b c : α, decide (key b ≤ key a) = true → decide (key c ≤ key b) = true →
      decide (key c ≤ key a) = true := fun a b c hab hbc =>
    decide_eq_true (le_trans (of_decide_eq_true hbc) (of_decide_eq_true hab))
  have htotal : ∀ a b : α, (decide (key b ≤ key a) || decide (key a ≤ key b)) = true := by
    intro a b
    simpa using le_total (key b) (key a)
  exact (List.pairwise_mergeSort htrans htotal l).imp of_decide_eq_true

/-- **The newest at the front.** If every other entry is older than the first so many, these are
    the newest. -/
theorem newestFirst_take (hnd : (l.map key).Nodup) {n : Nat}
    (h : ∀ a ∈ l.drop n, ∀ b ∈ l.take n, key a < key b) :
    newestFirst key (l.take n) = (newestFirst key l).take n := by
  have hmem : ∀ {a : α} {m : List α}, a ∈ newestFirst key m → a ∈ m := fun ha =>
    (perm_newestFirst key _).subset ha
  -- Both are sorted permutations of the list, and the keys are distinct.
  have hperm : (newestFirst key (l.take n) ++ newestFirst key (l.drop n)).Perm
      (newestFirst key l) := by
    refine ((perm_newestFirst key _).append (perm_newestFirst key _)).trans ?_
    rw [List.take_append_drop]
    exact (perm_newestFirst key l).symm
  have hsorted : (newestFirst key (l.take n) ++ newestFirst key (l.drop n)).Pairwise
      fun a b => key b ≤ key a := by
    rw [List.pairwise_append]
    exact ⟨pairwise_newestFirst key _, pairwise_newestFirst key _,
      fun b hb a ha => le_of_lt (h a (hmem ha) b (hmem hb))⟩
  have hwhole : newestFirst key (l.take n) ++ newestFirst key (l.drop n) = newestFirst key l := by
    refine hperm.eq_of_pairwise (fun a b ha hb hba hab => ?_) hsorted (pairwise_newestFirst key l)
    exact List.inj_on_of_nodup_map hnd (hmem (hperm.subset ha)) (hmem hb) (le_antisymm hab hba)
  have hlen : (newestFirst key (l.take n)).length = min n l.length := by
    rw [(perm_newestFirst key _).length_eq, List.length_take]
  -- So the newest `n` are the sorted first part, as far as there are as many.
  rcases Nat.le_total n l.length with hle | hle
  · rw [← hwhole, List.take_left' (by rw [hlen, Nat.min_eq_left hle])]
  · rw [List.take_of_length_le hle, List.take_of_length_le]
    rwa [(perm_newestFirst key l).length_eq]

/-- Only then are they. What was cut off would otherwise have been among the newest. -/
theorem lt_of_newestFirst_take (hnd : (l.map key).Nodup) {n : Nat}
    (h : (newestFirst key (l.take n)).map key = ((newestFirst key l).take n).map key) :
    ∀ a ∈ l.drop n, ∀ b ∈ l.take n, key a < key b := by
  intro a ha b hb
  have hsplit : (l.take n).map key ++ (l.drop n).map key = l.map key := by
    rw [← List.map_append, List.take_append_drop]
  rw [← hsplit, List.nodup_append] at hnd
  have hne : key a ≠ key b := fun heq =>
    hnd.2.2 (key b) (List.mem_map_of_mem hb) (key a) (List.mem_map_of_mem ha) heq.symm
  -- the one is among the newest, the other is not
  have hfront : ∀ k, k ∈ ((newestFirst key l).take n).map key ↔ k ∈ (l.take n).map key := by
    intro k
    rw [← h]
    exact ((perm_newestFirst key (l.take n)).map key).mem_iff
  obtain ⟨b', hb', hkey⟩ := List.mem_map.mp ((hfront (key b)).mpr (List.mem_map_of_mem hb))
  have hback : a ∈ (newestFirst key l).drop n := by
    have hall : a ∈ newestFirst key l :=
      (perm_newestFirst key l).symm.subset (List.mem_of_mem_drop ha)
    rw [← List.take_append_drop n (newestFirst key l), List.mem_append] at hall
    refine hall.resolve_left fun hmem => ?_
    have hfirst := (hfront (key a)).mp (List.mem_map_of_mem hmem)
    exact hnd.2.2 _ hfirst _ (List.mem_map_of_mem ha) rfl
  have hsorted := pairwise_newestFirst key l
  rw [← List.take_append_drop n (newestFirst key l), List.pairwise_append] at hsorted
  have hle := hsorted.2.2 b' hb' a hback
  rw [hkey] at hle
  exact lt_of_le_of_ne hle hne

end SubnetRouter.Lib
