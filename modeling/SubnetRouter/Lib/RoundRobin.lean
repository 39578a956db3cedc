import Mathlib.Data.List.Basic
import Mathlib.Logic.Function.Iterate

namespace SubnetRouter.Lib

/-!
# Round robin

`n` parties take turns of `width` uses each, one party after the other.

* `Turn.next` — one use; the last one of a turn goes on to the next party.
* `Turn.iterate_next` — where any number of uses leads.
* `Turn.count_uses` — any `width * n` uses in a row give every party exactly `width` of them.
-/

/-- Whose turn it is, and how many uses it has had. -/
structure Turn where
  party : Nat
  used : Nat
deriving DecidableEq

namespace Turn

variable {width n c m j k : Nat} {t : Turn}

/-- One use. -/
def next (width n : Nat) (t : Turn) : Turn :=
  if width ≤ t.used + 1 then ⟨(t.party + 1) % n, 0⟩ else ⟨t.party, t.used + 1⟩

/-- A turn that some use can have led to. -/
structure Proper (width n : Nat) (t : Turn) : Prop where
  party : t.party < n
  used : t.used < width

theorem Proper.next (h : t.Proper width n) : (t.next width n).Proper width n := by
  have hn : 0 < n := Nat.lt_of_le_of_lt (Nat.zero_le _) h.party
  have hwidth : 0 < width := Nat.lt_of_le_of_lt (Nat.zero_le _) h.used
  unfold Turn.next
  split_ifs with hlast
  · exact ⟨Nat.mod_lt _ hn, hwidth⟩
  · exact ⟨h.party, Nat.lt_of_not_le hlast⟩

/-- One use more, counted from the start of the turn. The quotient is the party and the remainder
    its uses. -/
theorem next_of_count (hwidth : 0 < width) (c m : Nat) :
    next width n ⟨(c + m / width) % n, m % width⟩ =
      ⟨(c + (m + 1) / width) % n, (m + 1) % width⟩ := by
  have hmod : m % width < width := Nat.mod_lt _ hwidth
  have hm := Nat.div_add_mod m width
  unfold next
  by_cases hlast : width ≤ m % width + 1
  · -- the last use of the turn
    have hsucc : m + 1 = width * (m / width + 1) := by
      rw [Nat.mul_add, Nat.mul_one]
      omega
    have hdiv : (m + 1) / width = m / width + 1 := by
      rw [hsucc, Nat.mul_div_cancel_left _ hwidth]
    have hzero : (m + 1) % width = 0 := by
      rw [hsucc, Nat.mul_mod_right]
    rw [if_pos hlast, hdiv, hzero]
    simp [Nat.add_assoc]
  · have hlt : m % width + 1 < width := by omega
    have hdiv : (m + 1) / width = m / width := by
      have hsucc : m + 1 = width * (m / width) + (m % width + 1) := by omega
      rw [hsucc, Nat.mul_add_div hwidth, Nat.div_eq_of_lt hlt, Nat.add_zero]
    have hrem : (m + 1) % width = m % width + 1 := by
      rw [Nat.add_mod, Nat.mod_eq_of_lt (by omega : 1 < width), Nat.mod_eq_of_lt hlt]
    rw [if_neg hlast, hdiv, hrem]

/-- Where any number of uses leads. -/
theorem iterate_next (h : t.Proper width n) (k : Nat) :
    (next width n)^[k] t =
      ⟨(t.party + (t.used + k) / width) % n, (t.used + k) % width⟩ := by
  have hwidth : 0 < width := Nat.lt_of_le_of_lt (Nat.zero_le _) h.used
  induction k with
  | zero =>
    rw [Function.iterate_zero, id, Nat.add_zero, Nat.div_eq_of_lt h.used, Nat.add_zero,
      Nat.mod_eq_of_lt h.used, Nat.mod_eq_of_lt h.party]
  | succ k ih => rw [Function.iterate_succ', Function.comp, ih, next_of_count hwidth, Nat.add_assoc]

/-! ### How often it is whose turn -/

/-- Full rounds from the first party on. -/
theorem count_rounds (hwidth : 0 < width) (n j : Nat) :
    ((List.range (width * n)).map fun k => k / width).count j = if j < n then width else 0 := by
  induction n with
  | zero => simp
  | succ n ih =>
    -- The last round is the turn of party `n` only.
    have hturn : (List.range width).map (fun k => (width * n + k) / width)
        = List.replicate width n := by
      rw [List.eq_replicate_iff]
      refine ⟨by simp, fun x hx => ?_⟩
      obtain ⟨k, hk, rfl⟩ := List.mem_map.mp hx
      rw [Nat.mul_add_div hwidth, Nat.div_eq_of_lt (List.mem_range.mp hk), Nat.add_zero]
    rw [Nat.mul_add, Nat.mul_one, List.range_add, List.map_append, List.count_append, ih,
      List.map_map]
    show _ + ((List.range width).map fun k => (width * n + k) / width).count j = _
    rw [hturn, List.count_replicate]
    -- `j` had its turn before, has it now, or has none.
    by_cases hj : j < n
    · rw [if_pos hj, if_neg (by simp; omega), if_pos (by omega), Nat.add_zero]
    · by_cases hjn : n = j
      · rw [if_neg hj, if_pos (by simp [hjn]), if_pos (by omega), Nat.zero_add]
      · rw [if_neg hj, if_neg (by simpa using hjn), if_neg (by omega)]

/-- A full round counts the same from one use later on. -/
theorem count_shift {f : Nat → Nat} {len : Nat} (hf : f len = f 0) (j : Nat) :
    ((List.range len).map fun k => f (k + 1)).count j = ((List.range len).map f).count j := by
  have hfront : (List.range (len + 1)).map f = f 0 :: (List.range len).map fun k => f (k + 1) := by
    rw [List.range_succ_eq_map, List.map_cons, List.map_map]
    rfl
  have hback : (List.range (len + 1)).map f = (List.range len).map f ++ [f 0] := by
    rw [List.range_succ, List.map_append, List.map_singleton, hf]
  have hcount := congrArg (List.count j) (hfront.symm.trans hback)
  rw [List.count_append, List.count_cons, List.count_singleton] at hcount
  omega

/-- **Fairness.** From any use on, a full round gives every party its uses. Where the round starts
    does not matter. -/
theorem count_uses (hwidth : 0 < width) (hj : j < n) (c m : Nat) :
    ((List.range (width * n)).map fun k => (c + (m + k) / width) % n).count j = width := by
  -- From the first use on by `count_rounds`; then one use later after another.
  have hfrom : ∀ m, ((List.range (width * n)).map fun k => ((m + k) / width) % n).count j
      = width := by
    intro m
    induction m with
    | zero =>
      have hmap : (List.range (width * n)).map (fun k => ((0 + k) / width) % n)
          = (List.range (width * n)).map fun k => k / width := by
        refine List.map_congr_left fun k hk => ?_
        rw [Nat.zero_add, Nat.mod_eq_of_lt]
        exact Nat.div_lt_of_lt_mul (List.mem_range.mp hk)
      rw [hmap, count_rounds hwidth, if_pos hj]
    | succ m ih =>
      -- The use that comes in at the end is of the party whose use falls out in front.
      have hround : ((m + width * n) / width) % n = ((m + 0) / width) % n := by
        rw [Nat.add_mul_div_left _ _ hwidth, Nat.add_mod_right, Nat.add_zero]
      have hshift := count_shift (f := fun k => ((m + k) / width) % n) hround j
      simp only [Nat.add_assoc, Nat.add_comm 1]
      exact hshift.trans ih
  have hmap : ∀ k, (c + (m + k) / width) % n = ((width * c + m + k) / width) % n := by
    intro k
    rw [Nat.add_assoc, Nat.mul_add_div hwidth]
  simp only [hmap]
  exact hfrom (width * c + m)

end Turn

end SubnetRouter.Lib
