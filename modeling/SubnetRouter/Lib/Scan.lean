import SubnetRouter.Lib.Hex
import Mathlib.Algebra.Group.Nat.Defs

namespace SubnetRouter.Lib

/-!
# Numbers in `sscanf`

The conversion `%x`, with or without a width, and formats of several of them with a separator
between.  White space and a sign may stand in front of a number, and a prefix `0x`; what follows the
last number is left.

* `scanHex`, `scanFields` — one number, and several.
* `scanFields_pairs` — numbers that were written with two digits each are read.
-/

/-- `isspace`. -/
def isWhiteSpace (c : Char) : Bool :=
  [' ', '\t', '\n', Char.ofNat 11, Char.ofNat 12, '\r'].contains c

/-- A hexadecimal digit. -/
def isHexDigit (c : Char) : Bool := (hexNibble c).isSome

/-- The value of digits. -/
def hexValue (digits : List Char) : Nat :=
  digits.foldl (fun n c => n * 16 + (hexNibble c).getD 0) 0

/-- The length of a prefix `0x`, which counts only in front of a digit. -/
def hexPrefix : List Char → Nat
  | '0' :: x :: c :: _ => if (x = 'x' ∨ x = 'X') ∧ isHexDigit c = true then 2 else 0
  | _ => 0

/-- `strtoul` on a number with its sign. -/
def toUnsigned (negative : Bool) (v : Nat) : Nat :=
  if 4294967295 < v then 4294967295 else if negative then (4294967296 - v) % 4294967296 else v

/-- As much of a text as a conversion may take. -/
def limited : Option Nat → List Char → List Char
  | some width, text => text.take width
  | none, text => text

/-- `%x`, or `%2x` with a width: the number, and what is behind it. Blanks in front are skipped and
    do not count for the width; a sign and `0x` do. -/
def scanHex (width : Option Nat) (text : List Char) : Option (Nat × List Char) :=
  let text := text.dropWhile isWhiteSpace
  let field := limited width text
  let negative := field.head? = some '-'
  let sign := if field.head? = some '-' ∨ field.head? = some '+' then 1 else 0
  let start := sign + hexPrefix (field.drop sign)
  let digits := (field.drop start).takeWhile isHexDigit
  if digits = [] then none
  else some (toUnsigned negative (hexValue digits), text.drop (start + digits.length))

/-- So many numbers, with a separator between them. What is behind the last number is left over, and
    is no reason to refuse. -/
def scanFields (width : Option Nat) (separator : Char) :
    Nat → List Char → Option (List Nat × List Char)
  | 0, text => some ([], text)
  | 1, text => (scanHex width text).map fun (v, rest) => ([v], rest)
  | n + 2, text =>
    match scanHex width text with
    | some (v, c :: rest) =>
      if c = separator then
        (scanFields width separator (n + 1) rest).map fun (vs, rest) => (v :: vs, rest)
      else none
    | _ => none

/-- Bytes with two digits each, and a separator between them. -/
def pairs (separator : Char) (bytes : List UInt8) : List Char :=
  [separator].intercalate (bytes.map fun b => hexEncode [b])

variable {width : Option Nat} {separator : Char} {rest : List Char} {b : UInt8} {bytes : List UInt8}

/-- A format is read with all its numbers. -/
theorem length_of_scanFields {n : Nat} {text : List Char} {v : List Nat}
    (h : scanFields width separator n text = some (v, rest)) : v.length = n := by
  fun_induction scanFields width separator n text generalizing v with
  | case1 =>
    obtain ⟨rfl, -⟩ := Prod.mk.inj (Option.some.inj h)
    rfl
  | case2 =>
    obtain ⟨⟨n, tail⟩, -, heq⟩ := Option.map_eq_some_iff.mp h
    obtain ⟨rfl, -⟩ := Prod.mk.inj heq
    rfl
  | case3 _ _ _ _ _ ih =>
    obtain ⟨⟨vs, tail⟩, hvs, heq⟩ := Option.map_eq_some_iff.mp h
    obtain ⟨rfl, rfl⟩ := Prod.mk.inj heq
    rw [List.length_cons, ih hvs]
  | case4 => cases h
  | case5 => cases h

/-- A written digit, as to what it is read as. -/
theorem hexChar_facts {n : Nat} (h : n < 16) :
    isWhiteSpace (hexChar n) = false ∧ isHexDigit (hexChar n) = true ∧
      hexChar n ≠ '-' ∧ hexChar n ≠ '+' ∧ hexChar n ≠ 'x' ∧ hexChar n ≠ 'X' := by
  have hall : ∀ k : Fin 16, isWhiteSpace (hexChar k) = false ∧ isHexDigit (hexChar k) = true ∧
      hexChar k ≠ '-' ∧ hexChar k ≠ '+' ∧ hexChar k ≠ 'x' ∧ hexChar k ≠ 'X' := by decide
  exact hall ⟨n, h⟩

theorem isHexDigit_of_mem_hexEncode {c : Char} (h : c ∈ hexEncode [b]) : isHexDigit c = true := by
  have hb := b.toNat_lt
  have hmem : c = hexChar (b.toNat / 16) ∨ c = hexChar (b.toNat % 16) := by
    simpa [hexEncode] using h
  obtain rfl | rfl := hmem
  · exact (hexChar_facts (by omega)).2.1
  · exact (hexChar_facts (by omega)).2.1

theorem hexPrefix_of_ne {h l : Char} (tail : List Char) (hx : l ≠ 'x') (hX : l ≠ 'X') :
    hexPrefix (h :: l :: tail) = 0 := by
  unfold hexPrefix
  split
  · rename_i heq
    obtain ⟨-, rfl, rfl⟩ := heq
    rw [if_neg fun hprefix => hprefix.1.elim hx hX]
  · rfl

/-- The digits of a number of two digits. -/
theorem takeWhile_two {h l : Char} {tail : List Char} (hh : isHexDigit h = true)
    (hl : isHexDigit l = true) (htail : ∀ c ∈ tail.head?, isHexDigit c = false) :
    (h :: l :: tail).takeWhile isHexDigit = [h, l] := by
  rw [List.takeWhile_cons_of_pos hh, List.takeWhile_cons_of_pos hl]
  cases tail with
  | nil => rfl
  | cons c tail =>
    have hc : ¬ isHexDigit c = true := by simp [htail c rfl]
    rw [List.takeWhile_cons_of_neg hc]

/-- A written byte is read back, if the number ends behind it. With a width of two it does so by
    itself. -/
theorem scanHex_pair (b : UInt8) (rest : List Char) (hwidth : width = none ∨ width = some 2)
    (hrest : ∀ c ∈ rest.head?, isHexDigit c = false) :
    scanHex width (hexEncode [b] ++ rest) = some (b.toNat, rest) := by
  have hb := b.toNat_lt
  obtain ⟨hspace, hhex, hminus, hplus, -, -⟩ := hexChar_facts (n := b.toNat / 16) (by omega)
  obtain ⟨-, hhex', -, -, hx, hX⟩ := hexChar_facts (n := b.toNat % 16) (by omega)
  have hvalue : hexValue [hexChar (b.toNat / 16), hexChar (b.toNat % 16)] = b.toNat := by
    simp only [hexValue, List.foldl_cons, List.foldl_nil,
      hexNibble_hexChar (show b.toNat / 16 < 16 by omega),
      hexNibble_hexChar (show b.toNat % 16 < 16 by omega), Option.getD_some]
    omega
  have htext : (hexEncode [b] ++ rest).dropWhile isWhiteSpace = hexEncode [b] ++ rest := by
    show (hexChar (b.toNat / 16) :: hexChar (b.toNat % 16) :: rest).dropWhile isWhiteSpace = _
    rw [List.dropWhile_cons_of_neg (by simp [hspace])]
    rfl
  -- the width cuts off the rest, which is no part of the number anyway
  obtain ⟨tail, hfield, htail⟩ : ∃ tail, limited width (hexEncode [b] ++ rest) =
      hexChar (b.toNat / 16) :: hexChar (b.toNat % 16) :: tail ∧
      ∀ c ∈ tail.head?, isHexDigit c = false := by
    obtain rfl | rfl := hwidth
    · exact ⟨rest, rfl, hrest⟩
    · exact ⟨[], rfl, by simp⟩
  unfold scanHex
  dsimp only
  rw [htext, hfield]
  simp only [List.head?_cons, Option.some.injEq, hminus, hplus, or_self, if_false, List.drop_zero,
    hexPrefix_of_ne tail hx hX, Nat.add_zero, takeWhile_two hhex hhex' htail, hvalue, decide_false]
  have hsmall : ¬ 4294967295 < b.toNat := by omega
  simp [toUnsigned, hsmall, hexEncode]

/-- **Numbers of two digits** with a separator between them are read back one by one. -/
theorem scanFields_pairs (hwidth : width = none ∨ width = some 2)
    (hseparator : isHexDigit separator = false) (hbytes : bytes ≠ []) :
    scanFields width separator bytes.length (pairs separator bytes) =
      some (bytes.map UInt8.toNat, []) := by
  induction bytes with
  | nil => exact absurd rfl hbytes
  | cons b bytes ih =>
    -- The last number has no separator behind it.
    cases bytes with
    | nil =>
      have hlast := scanHex_pair b [] hwidth (by simp)
      rw [List.append_nil] at hlast
      simp [scanFields, pairs, hlast]
    | cons b' bytes =>
      have hsplit : pairs separator (b :: b' :: bytes) =
          hexEncode [b] ++ separator :: pairs separator (b' :: bytes) := by
        simp [pairs, List.intercalate]
      -- The digits end at the separator, which is none.
      have hfirst := scanHex_pair b (separator :: pairs separator (b' :: bytes)) hwidth
        (by simpa using hseparator)
      have hrest := ih (List.cons_ne_nil b' bytes)
      rw [List.length_cons] at hrest
      rw [hsplit, List.length_cons, List.length_cons, scanFields, hfirst]
      simp [hrest]

end SubnetRouter.Lib
