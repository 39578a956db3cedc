import Mathlib.Data.List.TakeWhile

namespace SubnetRouter.Lib

/-!
# C strings in character arrays

An array of `cap + 1` characters holds any text of at most `cap` of them, without a null
character; what comes behind the terminator is not part of the text.

* `strlcpy` — copy a text, cut to what fits.
* `strlcpy_text` — a text that was in such an array fits into it again.
-/

/-- The null character. -/
def nul : Char := Char.ofNat 0

/-- A C string in an array of `cap + 1` characters. The text is what stands before the terminator,
    for which there is always room. -/
structure CString (cap : Nat) where
  text : List Char
  length_le : text.length ≤ cap
  noNul : nul ∉ text
deriving DecidableEq

namespace CString

variable {cap : Nat} {s t : CString cap} {src : List Char}

@[ext] theorem ext (h : s.text = t.text) : s = t := by
  cases s
  cases t
  simpa using h

/-- The empty string. -/
def empty : CString cap := ⟨[], Nat.zero_le _, List.not_mem_nil⟩

@[simp] theorem text_empty : (empty : CString cap).text = [] := rfl

/-- The part of a text that a C string function sees. -/
def visible (src : List Char) : List Char := src.takeWhile (· ≠ nul)

theorem nul_notMem_visible (src : List Char) : nul ∉ visible src := by
  intro hmem
  have hne := List.mem_takeWhile_imp hmem
  simp at hne

/-- A text without a null character is seen as a whole. -/
theorem visible_eq (h : nul ∉ src) : visible src = src := by
  rw [visible, List.takeWhile_eq_self_iff]
  intro c hc
  have hne : c ≠ nul := by
    rintro rfl
    exact h hc
  simpa using hne

/-- Copy into an array of `cap + 1` characters. -/
def strlcpy (cap : Nat) (src : List Char) : CString cap where
  text := (visible src).take cap
  length_le := List.length_take_le cap _
  noNul hmem := nul_notMem_visible src (List.mem_of_mem_take hmem)

@[simp] theorem text_strlcpy (src : List Char) :
    (strlcpy cap src).text = (visible src).take cap := rfl

/-- A text that was in such an array fits. -/
@[simp] theorem strlcpy_text (s : CString cap) : strlcpy cap s.text = s := by
  ext1
  rw [text_strlcpy, visible_eq s.noNul, List.take_of_length_le s.length_le]

end CString

end SubnetRouter.Lib
