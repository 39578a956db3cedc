import Mathlib.Data.List.TakeWhile
import SubnetRouter.Lib.Bytes

namespace SubnetRouter.Lib

/-!
# Character arrays, byte by byte

A `CText` is what a `char *` points to, without its terminator; a `CharArray` is a `char[size]`
with whatever its bytes are.  The text of an array ends in front of its first null byte, or at
the end of the array.

* `strlcpy`, `strncpy` — copy a text into an array, cut to what fits.
* `bytes_text_strlcpy`, `bytes_text_strncpy` — the text that is then in it.
-/

/-- A text without a null byte. -/
@[ext] structure CText where
  bytes : List UInt8
  noNul : 0 ∉ bytes
deriving DecidableEq

/-- `char[size]`. -/
@[ext] structure CharArray (size : Nat) where
  bytes : List UInt8
  length_eq : bytes.length = size
deriving DecidableEq

namespace CText

/-- The empty text. -/
def empty : CText := ⟨[], List.not_mem_nil⟩

@[simp] theorem bytes_empty : empty.bytes = [] := rfl

/-- The first characters. -/
def take (n : Nat) (s : CText) : CText :=
  ⟨s.bytes.take n, fun hmem => s.noNul (List.mem_of_mem_take hmem)⟩

@[simp] theorem bytes_take (n : Nat) (s : CText) : (s.take n).bytes = s.bytes.take n := rfl

end CText

namespace CharArray

variable {size cap : Nat} {a b : CharArray size} {dst : CharArray (cap + 1)} {src : CText}

/-- All bytes zero. -/
def zero (size : Nat) : CharArray size := ⟨List.replicate size 0, List.length_replicate⟩

/-- What is in front of the first null byte. Without one it is the whole array, which a reader in C
    would run past. -/
def text (a : CharArray size) : CText where
  bytes := a.bytes.takeWhile (· ≠ 0)
  noNul hmem := by
    have hne := List.mem_takeWhile_imp hmem
    simp at hne

/-- `a[0] == '\0'`. -/
def isEmpty (a : CharArray size) : Bool := byteAt a.bytes 0 == 0

/-- Nothing stands in front of a null byte at the start. -/
theorem isEmpty_iff : a.isEmpty = true ↔ a.text.bytes = [] := by
  show (byteAt a.bytes 0 == 0) = true ↔ a.bytes.takeWhile (· ≠ 0) = []
  cases a.bytes with
  | nil => simp [byteAt]
  | cons c cs => by_cases hc : c = 0 <;> simp [byteAt, hc]

/-- A text ends at a null byte, whatever is behind it. -/
theorem takeWhile_append_nul (l rest : List UInt8) :
    (l ++ 0 :: rest).takeWhile (· ≠ 0) = l.takeWhile (· ≠ 0) := by
  induction l with
  | nil => rfl
  | cons b l ih => by_cases hb : b = 0 <;> simp_all

theorem takeWhile_noNul (s : CText) : s.bytes.takeWhile (· ≠ 0) = s.bytes := by
  rw [List.takeWhile_eq_self_iff]
  intro c hc
  rw [decide_eq_true_eq]
  rintro rfl
  exact s.noNul hc

@[simp] theorem bytes_text_zero (size : Nat) : (zero size).text.bytes = [] := by
  cases size <;> rfl

/-- `strlcpy`: what is behind the terminator stays. A source that is too long is cut, and the array
    is terminated in any case. -/
def strlcpy (dst : CharArray (cap + 1)) (src : CText) : CharArray (cap + 1) where
  bytes := src.bytes.take cap ++ 0 :: dst.bytes.drop ((src.bytes.take cap).length + 1)
  length_eq := by
    simp only [List.length_append, List.length_cons, List.length_drop, List.length_take,
      dst.length_eq]
    omega

/-- `strncpy(dst, src, sizeof dst - 1)`: zeros behind the text, and the last byte stays. Whether the
    array is terminated therefore depends on that byte. -/
def strncpy (dst : CharArray (cap + 1)) (src : CText) : CharArray (cap + 1) where
  bytes := src.bytes.take cap ++ List.replicate (cap - src.bytes.length) 0 ++ dst.bytes.drop cap
  length_eq := by
    simp only [List.length_append, List.length_replicate, List.length_drop, List.length_take,
      dst.length_eq]
    omega

@[simp] theorem bytes_text_strlcpy : (dst.strlcpy src).text.bytes = src.bytes.take cap :=
  (takeWhile_append_nul _ _).trans (takeWhile_noNul (src.take cap))

/-- The text is terminated if the last byte was null before. -/
theorem bytes_text_strncpy (hlast : dst.bytes.drop cap = [0]) :
    (dst.strncpy src).text.bytes = src.bytes.take cap := by
  -- the null byte is one of the padding, or the last one
  have hnul : ∃ rest, List.replicate (cap - src.bytes.length) 0 ++ dst.bytes.drop cap
      = 0 :: rest := by
    rw [hlast]
    cases cap - src.bytes.length with
    | zero => exact ⟨[], rfl⟩
    | succ n => exact ⟨List.replicate n 0 ++ [0], rfl⟩
  obtain ⟨rest, hrest⟩ := hnul
  show List.takeWhile _ (_ ++ _ ++ _) = _
  rw [List.append_assoc, hrest, takeWhile_append_nul]
  exact takeWhile_noNul (src.take cap)

theorem drop_zero (cap : Nat) : (zero (cap + 1)).bytes.drop cap = [0] := by
  simp [zero]

/-- Set the last byte to null. -/
def terminate (a : CharArray (cap + 1)) : CharArray (cap + 1) where
  bytes := a.bytes.take cap ++ [0]
  length_eq := by simp [a.length_eq]

/-- Its text is at most what fits in front. -/
theorem bytes_text_terminate (a : CharArray (cap + 1)) :
    a.terminate.text.bytes = a.text.bytes.take cap := by
  -- up to the cut both texts stop at the same null byte
  have hcut : ∀ l : List UInt8, ∀ n ≤ l.length,
      (l.take n ++ [0]).takeWhile (· ≠ 0) = (l.takeWhile (· ≠ 0)).take n := by
    intro l
    induction l with
    | nil => intro n hn; simp at hn; simp [hn]
    | cons c cs ih =>
      intro n hn
      cases n with
      | zero => simp
      | succ n =>
        have hrest := ih n (by simpa using hn)
        by_cases hc : c = 0
        · simp [hc]
        · simpa [hc] using hrest
  exact hcut a.bytes cap (by rw [a.length_eq]; omega)

end CharArray

end SubnetRouter.Lib
