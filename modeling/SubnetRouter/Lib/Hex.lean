import Mathlib.Data.List.Basic

namespace SubnetRouter.Lib

/-!
# Hexadecimal text

Lower-case encoding of byte strings and decoding of either case.
-/

/-- The lower-case digit of a nibble. -/
def hexChar (n : Nat) : Char :=
  ['0', '1', '2', '3', '4', '5', '6', '7', '8', '9', 'a', 'b', 'c', 'd', 'e', 'f'].getD n '0'

/-- The value of a digit, of either case. It is `none` for everything else, also for the letters
    behind `f`. -/
def hexNibble (c : Char) : Option Nat :=
  if '0' ≤ c ∧ c ≤ '9' then some (c.toNat - '0'.toNat)
  else if 'a' ≤ c ∧ c ≤ 'f' then some (c.toNat - 'a'.toNat + 10)
  else if 'A' ≤ c ∧ c ≤ 'F' then some (c.toNat - 'A'.toNat + 10)
  else none

/-- Two lower-case digits per byte. -/
def hexEncode : List UInt8 → List Char
  | [] => []
  | b :: bs => hexChar (b.toNat / 16) :: hexChar (b.toNat % 16) :: hexEncode bs

/-- Two digits per byte, and nothing else. A text of odd length has a digit left over, and is
    refused. -/
def hexDecode : List Char → Option (List UInt8)
  | [] => some []
  | [_] => none
  | hi :: lo :: cs =>
    match hexNibble hi, hexNibble lo, hexDecode cs with
    | some h, some l, some bs => some (UInt8.ofNat (h * 16 + l) :: bs)
    | _, _, _ => none

@[simp] theorem length_hexEncode (bs : List UInt8) : (hexEncode bs).length = 2 * bs.length := by
  induction bs with
  | nil => rfl
  | cons b bs ih =>
    simp only [hexEncode, List.length_cons, ih]
    omega

/-- A digit reads back as its nibble. -/
theorem hexNibble_hexChar {n : Nat} (h : n < 16) : hexNibble (hexChar n) = some n := by
  have hall : ∀ k : Fin 16, hexNibble (hexChar k) = some k.val := by decide
  exact hall ⟨n, h⟩

end SubnetRouter.Lib
