import SubnetRouter.Lib.Digits

namespace SubnetRouter.Lib

/-!
# JSON strings

What is between the quotes of a JSON string, as ASCII text, and the UTF-16 code units that it
stands for.

* `unescape` — reading.
* `Stands` — a piece of text that stands for a unit wherever it is.
* `unescape_flatMap` — text that is made of such pieces reads back.
-/

/-- The unit of an escape of one letter. -/
def shortEscape (c : UInt8) : Option Nat :=
  [(0x22, 0x22), (0x5C, 0x5C), (0x2F, 0x2F), (0x62, 0x08), (0x66, 0x0C), (0x6E, 0x0A), (0x72, 0x0D),
    (0x74, 0x09)].lookup c

/-- The value of hexadecimal digits. -/
def hexUnit (digits : List UInt8) : Option Nat :=
  digitsValue 16 0 (digits.map fun c => Char.ofNat c.toNat)

/-- The code units of a string; neither a quote nor a control character stands for itself. It is
    stated for ASCII texts: a byte of 0x80 or more is refused. -/
def unescape : List UInt8 → Option (List Nat)
  | [] => some []
  | c :: text =>
    if c = 0x5C then
      match text with
      | [] => none
      | e :: text =>
        if e = 0x75 then
          match text with
          | d₃ :: d₂ :: d₁ :: d₀ :: text =>
            (hexUnit [d₃, d₂, d₁, d₀]).bind fun unit => (unescape text).map (unit :: ·)
          | _ => none
        else (shortEscape e).bind fun unit => (unescape text).map (unit :: ·)
    else if 0x20 ≤ c ∧ c < 0x80 ∧ c ≠ 0x22 then (unescape text).map (c.toNat :: ·)
    else none

/-- A piece of text stands for a unit. -/
def Stands (piece : List UInt8) (unit : Nat) : Prop :=
  ∀ text, unescape (piece ++ text) = (unescape text).map (unit :: ·)

variable {α : Type} {c : UInt8} {unit : Nat}

/-- A character stands for itself. -/
theorem stands_plain (hplain : 0x20 ≤ c ∧ c < 0x80 ∧ c ≠ 0x22) (hbackslash : c ≠ 0x5C) :
    Stands [c] c.toNat := by
  intro text
  rw [List.singleton_append, unescape.eq_def]
  simp only [if_neg hbackslash, if_pos hplain]

/-- An escape of one letter. -/
theorem stands_short (h : shortEscape c = some unit) : Stands [0x5C, c] unit := by
  intro text
  have hletter : c ≠ 0x75 := by
    rintro rfl
    cases h
  show unescape (0x5C :: c :: text) = _
  rw [unescape.eq_def]
  simp only [if_true, if_neg hletter, h, Option.bind_some]

/-- An escape of four digits. -/
theorem stands_hex {d₃ d₂ d₁ d₀ : UInt8} (h : hexUnit [d₃, d₂, d₁, d₀] = some unit) :
    Stands [0x5C, 0x75, d₃, d₂, d₁, d₀] unit := by
  intro text
  show unescape (0x5C :: 0x75 :: d₃ :: d₂ :: d₁ :: d₀ :: text) = _
  rw [unescape.eq_def]
  simp only [if_true, h, Option.bind_some]

/-- **Text that is made of pieces reads back.** -/
theorem unescape_flatMap {piece : α → List UInt8} {units : α → Nat} {xs : List α}
    (h : ∀ x ∈ xs, Stands (piece x) (units x)) :
    unescape (xs.flatMap piece) = some (xs.map units) := by
  induction xs with
  | nil => rfl
  | cons x xs ih =>
    have hrest := ih fun y hy => h y (List.mem_cons_of_mem x hy)
    rw [List.flatMap_cons, h x List.mem_cons_self, hrest]
    rfl

end SubnetRouter.Lib
