import Mathlib.Algebra.Group.Nat.Defs
import Mathlib.Data.Char
import Mathlib.Data.List.Lex
import SubnetRouter.Lib.Hex

namespace SubnetRouter.Lib

/-!
# Numbers as digit text

`Nat.toDigits` writes a number in lower case without leading zeros, as the `%u` and `%x`
conversions of C do; `readDigits` reads digits of either case.

* `readDigits_toDigits` — what was written reads back.
* `not_mem_toDigits` — digits hold no separator.
* `padded_lt` — numbers of one width, as `%08u` writes them, sort as text.
-/

/-- The value of digits behind a value read so far. One character that is no digit of the base
    spoils all of it. -/
def digitsValue (b : Nat) : Nat → List Char → Option Nat
  | n, [] => some n
  | n, c :: cs =>
    match hexNibble c with
    | some d => if d < b then digitsValue b (b * n + d) cs else none
    | none => none

/-- A nonempty string of digits. -/
def readDigits (b : Nat) (s : List Char) : Option Nat :=
  if s.isEmpty then none else digitsValue b 0 s

variable {b n d : Nat} {c : Char} {cs ds : List Char}

theorem hexNibble_digitChar (h : d < 16) : hexNibble (Nat.digitChar d) = some d := by
  have hall : ∀ k : Fin 16, hexNibble (Nat.digitChar k) = some k.val := by decide
  exact hall ⟨d, h⟩

/-- Digits are read from left to right. -/
theorem digitsValue_append (n : Nat) :
    digitsValue b n (cs ++ ds) = (digitsValue b n cs).bind fun m => digitsValue b m ds := by
  induction cs generalizing n with
  | nil => rfl
  | cons c cs ih =>
    rw [List.cons_append, digitsValue, digitsValue]
    rcases hexNibble c with _ | d
    · rfl
    · by_cases hd : d < b
      · simp only [if_pos hd]
        exact ih _
      · simp only [if_neg hd]
        rfl

/-- A digit of the base. -/
theorem digitsValue_digitChar (hb : b ≤ 16) (hd : d < b) (n : Nat) :
    digitsValue b n [Nat.digitChar d] = some (b * n + d) := by
  rw [digitsValue, hexNibble_digitChar (by omega)]
  simp [hd, digitsValue]

theorem digitsValue_toDigits (hb : 1 < b) (hb' : b ≤ 16) (n : Nat) :
    digitsValue b 0 (Nat.toDigits b n) = some n := by
  induction n using Nat.strongRecOn with
  | ind n ih =>
    rw [Nat.toDigits_eq_if hb]
    split
    · rename_i hlt
      rw [digitsValue_digitChar hb' hlt, Nat.mul_zero, Nat.zero_add]
    · rename_i hge
      have hsmaller : n / b < n := Nat.div_lt_self (by omega) hb
      have hdigit : n % b < b := Nat.mod_lt n (by omega)
      rw [digitsValue_append, ih _ hsmaller, Option.bind_some,
        digitsValue_digitChar hb' hdigit, Nat.div_add_mod]

/-- **What was written reads back.** -/
theorem readDigits_toDigits (hb : 1 < b) (hb' : b ≤ 16) (n : Nat) :
    readDigits b (Nat.toDigits b n) = some n := by
  have hne : (Nat.toDigits b n).isEmpty = false := by simp
  rw [readDigits, hne]
  exact digitsValue_toDigits hb hb' n

/-- A character that is no digit does not occur in what was written. -/
theorem not_mem_toDigits (hb : 1 < b) (hb' : b ≤ 16) (hc : hexNibble c = none) (n : Nat) :
    c ∉ Nat.toDigits b n := by
  have hdigit : ∀ d, d < b → c ≠ Nat.digitChar d := by
    rintro d hd rfl
    rw [hexNibble_digitChar (by omega)] at hc
    cases hc
  induction n using Nat.strongRecOn with
  | ind n ih =>
    rw [Nat.toDigits_eq_if hb]
    split
    · rename_i hlt
      simpa using hdigit n hlt
    · rename_i hge
      rw [List.mem_append, List.mem_singleton, not_or]
      exact ⟨ih _ (Nat.div_lt_self (by omega) hb), hdigit _ (Nat.mod_lt n (by omega))⟩

/-! ### Fixed width -/

/-- Decimal digits, filled up with zeros on the left. -/
def padded (width n : Nat) : List Char :=
  List.replicate (width - (Nat.toDigits 10 n).length) '0' ++ Nat.toDigits 10 n

/-- The last digits of a number. -/
def lastDigits : Nat → Nat → List Char
  | 0, _ => []
  | width + 1, n => lastDigits width (n / 10) ++ [Nat.digitChar (n % 10)]

theorem length_lastDigits (width n : Nat) : (lastDigits width n).length = width := by
  induction width generalizing n with
  | zero => rfl
  | succ width ih => rw [lastDigits, List.length_append, ih, List.length_singleton]

theorem mem_lastDigits {width : Nat} (h : c ∈ lastDigits width n) :
    ∃ d < 10, c = Nat.digitChar d := by
  induction width generalizing n with
  | zero => cases h
  | succ width ih =>
    rcases List.mem_append.mp h with hold | hlast
    · exact ih hold
    · exact ⟨n % 10, Nat.mod_lt n (by decide), List.mem_singleton.mp hlast⟩

/-- A number that fits into the width has no other digits. -/
theorem padded_eq_lastDigits {width : Nat} (h : n < 10 ^ (width + 1)) :
    padded (width + 1) n = lastDigits (width + 1) n := by
  induction width generalizing n with
  | zero =>
    rw [padded, Nat.toDigits_eq_if (by omega), if_pos (by omega)]
    simp [lastDigits, Nat.mod_eq_of_lt (show n < 10 by omega)]
  | succ width ih =>
    have hdiv : n / 10 < 10 ^ (width + 1) :=
      Nat.div_lt_of_lt_mul (by rwa [Nat.mul_comm, ← Nat.pow_succ])
    rw [lastDigits, ← ih hdiv, padded, padded]
    rw [Nat.toDigits_eq_if (b := 10) (n := n) (by omega)]
    split
    · rename_i hsmall
      have hzero : n / 10 = 0 := Nat.div_eq_of_lt hsmall
      rw [hzero, Nat.mod_eq_of_lt hsmall]
      simp [Nat.toDigits_zero, List.replicate_succ']
    · rw [List.length_append, List.length_singleton, Nat.add_sub_add_right, List.append_assoc]

/-- Text of one length sorts by what differs first. -/
theorem append_lt_append_of_length_eq {xs ys : List Char} (hlen : xs.length = ys.length)
    (h : xs < ys) (as bs : List Char) : xs ++ as < ys ++ bs := by
  induction xs generalizing ys with
  | nil =>
    rw [List.length_eq_zero_iff.mp hlen.symm] at h
    exact absurd h (lt_irrefl _)
  | cons x xs ih =>
    obtain ⟨y, ys, rfl⟩ := List.exists_cons_of_length_eq_add_one hlen.symm
    rw [List.cons_append, List.cons_append, List.cons_lt_cons_iff]
    rcases List.cons_lt_cons_iff.mp h with hlt | ⟨heq, hlt⟩
    · exact .inl hlt
    · exact .inr ⟨heq, ih (Nat.succ.inj hlen) hlt⟩

theorem digitChar_lt {a b : Nat} (h : a < b) (hb : b < 10) : Nat.digitChar a < Nat.digitChar b := by
  have hall : ∀ j i : Fin 10, i < j → Nat.digitChar i < Nat.digitChar j := by decide
  exact hall ⟨b, hb⟩ ⟨a, h.trans hb⟩ h

/-- The last digits sort as the numbers that have no others. -/
theorem lastDigits_lt {width m : Nat} (h : n < m) (hm : m < 10 ^ width) :
    lastDigits width n < lastDigits width m := by
  induction width generalizing n m with
  | zero => omega
  | succ width ih =>
    have hdiv : m / 10 < 10 ^ width :=
      Nat.div_lt_of_lt_mul (by rwa [Nat.mul_comm, ← Nat.pow_succ])
    rw [lastDigits, lastDigits]
    by_cases hhigh : n / 10 < m / 10
    · exact append_lt_append_of_length_eq (by rw [length_lastDigits, length_lastDigits])
        (ih hhigh hdiv) _ _
    · have heq : n / 10 = m / 10 := by omega
      have hdigit : Nat.digitChar (n % 10) < Nat.digitChar (m % 10) :=
        digitChar_lt (by omega) (by omega)
      rw [heq]
      exact List.append_left_lt (List.cons_lt_cons_iff.mpr (.inl hdigit))

/-- **Fixed width.** Numbers that fit into the width sort as their text. -/
theorem padded_lt {width m : Nat} (h : n < m) (hm : m < 10 ^ (width + 1)) :
    padded (width + 1) n < padded (width + 1) m := by
  rw [padded_eq_lastDigits hm, padded_eq_lastDigits (h.trans hm)]
  exact lastDigits_lt h hm

theorem length_padded {width : Nat} (h : n < 10 ^ (width + 1)) :
    (padded (width + 1) n).length = width + 1 := by
  rw [padded_eq_lastDigits h, length_lastDigits]

end SubnetRouter.Lib
