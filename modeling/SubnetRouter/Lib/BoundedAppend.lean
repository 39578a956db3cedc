import Mathlib.Algebra.BigOperators.Group.List.Basic
import Mathlib.Algebra.GroupWithZero.Nat
import Mathlib.Data.List.Infix
import Mathlib.Data.List.Flatten

namespace SubnetRouter.Lib

/-!
# Collecting chunks up to a limit

Chunks are appended one after the other while they fit below a limit; a chunk that does not fit is
dropped as a whole, and later ones are tried again.

* `appendFitting` — the collection.
* `NoneFitsLater` — after the chunk that does not fit, no other one does.
* `appendFitting_prefix_iff` — exactly then the collection is the front of everything, whatever is
  in the chunks.
-/

variable {α : Type}

/-- Append the chunks that fit. -/
def appendFitting (limit : Nat) (text : List α) (chunks : List (List α)) : List α :=
  chunks.foldl (fun text chunk =>
    if text.length + chunk.length < limit then text ++ chunk else text) text

/-- The chunk in which the limit is reached is the last one that could matter. -/
def NoneFitsLater (limit : Nat) (lengths : List Nat) : Prop :=
  ∀ front n later, lengths = front ++ n :: later → front.sum < limit → limit ≤ front.sum + n →
    ∀ m ∈ later, m = 0 ∨ limit ≤ front.sum + m

variable {limit : Nat} {text chunk : List α} {chunks : List (List α)}

@[simp] theorem appendFitting_nil : appendFitting limit text [] = text := rfl

theorem appendFitting_cons_fits (h : text.length + chunk.length < limit) :
    appendFitting limit text (chunk :: chunks) = appendFitting limit (text ++ chunk) chunks := by
  rw [appendFitting, List.foldl_cons, if_pos h]
  rfl

theorem appendFitting_cons_drop (h : ¬ text.length + chunk.length < limit) :
    appendFitting limit text (chunk :: chunks) = appendFitting limit text chunks := by
  rw [appendFitting, List.foldl_cons, if_neg h]
  rfl

/-- What is there stays. -/
theorem prefix_appendFitting (limit : Nat) (text : List α) (chunks : List (List α)) :
    text <+: appendFitting limit text chunks := by
  induction chunks generalizing text with
  | nil => exact List.prefix_rfl
  | cons chunk chunks ih =>
    by_cases hfits : text.length + chunk.length < limit
    · rw [appendFitting_cons_fits hfits]
      exact (List.prefix_append text chunk).trans (ih (text ++ chunk))
    · rw [appendFitting_cons_drop hfits]
      exact ih text

/-- Where no chunk fits that is not empty, nothing is appended. -/
theorem appendFitting_of_none_fits
    (h : ∀ chunk ∈ chunks, chunk.length = 0 ∨ limit ≤ text.length + chunk.length) :
    appendFitting limit text chunks = text := by
  induction chunks with
  | nil => rfl
  | cons chunk chunks ih =>
    have hrest := ih fun c hc => h c (List.mem_cons_of_mem chunk hc)
    rcases h chunk List.mem_cons_self with hempty | hlong
    · by_cases hfits : text.length + chunk.length < limit
      · rw [appendFitting_cons_fits hfits, List.length_eq_zero_iff.mp hempty, List.append_nil]
        exact hrest
      · rwa [appendFitting_cons_drop hfits]
    · rwa [appendFitting_cons_drop (Nat.not_lt.mpr hlong)]

/-- Where one does, something is. -/
theorem length_lt_appendFitting (hmem : chunk ∈ chunks) (hne : chunk.length ≠ 0)
    (hfits : text.length + chunk.length < limit) :
    text.length < (appendFitting limit text chunks).length := by
  induction chunks with
  | nil => cases hmem
  | cons c chunks ih =>
    -- A chunk that is appended and not empty is enough; otherwise the rest has to do it.
    by_cases hc : text.length + c.length < limit
    · rw [appendFitting_cons_fits hc]
      have hgrows := (prefix_appendFitting limit (text ++ c) chunks).length_le
      rw [List.length_append] at hgrows
      by_cases hempty : c.length = 0
      · rw [List.length_eq_zero_iff.mp hempty, List.append_nil]
        apply ih
        rcases List.mem_cons.mp hmem with rfl | hrest
        · exact absurd hempty hne
        · exact hrest
      · omega
    · rw [appendFitting_cons_drop hc]
      apply ih
      rcases List.mem_cons.mp hmem with rfl | hrest
      · exact absurd hfits hc
      · exact hrest

/-- What is collected comes from the text or from a chunk. -/
theorem mem_appendFitting {a : α} (h : a ∈ appendFitting limit text chunks) :
    a ∈ text ∨ ∃ chunk ∈ chunks, a ∈ chunk := by
  induction chunks generalizing text with
  | nil => exact Or.inl h
  | cons c chunks ih =>
    by_cases hc : text.length + c.length < limit
    · rw [appendFitting_cons_fits hc] at h
      rcases ih h with hold | ⟨d, hd, ha⟩
      · rcases List.mem_append.mp hold with htext | hchunk
        · exact Or.inl htext
        · exact Or.inr ⟨c, List.mem_cons_self, hchunk⟩
      · exact Or.inr ⟨d, List.mem_cons_of_mem c hd, ha⟩
    · rw [appendFitting_cons_drop hc] at h
      rcases ih h with htext | ⟨d, hd, ha⟩
      · exact Or.inl htext
      · exact Or.inr ⟨d, List.mem_cons_of_mem c hd, ha⟩

/-- Chunks that all fit. -/
theorem appendFitting_append (h : text.length + chunks.flatten.length < limit)
    (later : List (List α)) :
    appendFitting limit text (chunks ++ later) =
      appendFitting limit (text ++ chunks.flatten) later := by
  induction chunks generalizing text with
  | nil => simp
  | cons c chunks ih =>
    rw [List.flatten_cons, List.length_append] at h
    rw [List.cons_append, appendFitting_cons_fits (by omega), List.flatten_cons,
      ← List.append_assoc]
    apply ih
    rw [List.length_append]
    omega

/-- The chunk in which a limit is reached. -/
theorem exists_reached {used : Nat} (hused : used < limit)
    (htotal : limit ≤ used + chunks.flatten.length) :
    ∃ front c later, chunks = front ++ c :: later ∧ used + front.flatten.length < limit ∧
      limit ≤ used + front.flatten.length + c.length := by
  induction chunks generalizing used with
  | nil =>
    rw [List.flatten_nil, List.length_nil] at htotal
    omega
  | cons c chunks ih =>
    by_cases hc : used + c.length < limit
    · rw [List.flatten_cons, List.length_append] at htotal
      obtain ⟨front, d, later, rfl, hfront, hd⟩ := ih hc (by omega)
      refine ⟨c :: front, d, later, rfl, ?_, ?_⟩
      · rw [List.flatten_cons, List.length_append]
        omega
      · rw [List.flatten_cons, List.length_append]
        omega
    · exact ⟨[], c, chunks, rfl, hused, Nat.not_lt.mp hc⟩

/-- **The front of everything**, if nothing fits after the chunk that does not. -/
theorem appendFitting_prefix (hlimit : 0 < limit)
    (h : NoneFitsLater limit (chunks.map List.length)) :
    appendFitting limit [] chunks <+: chunks.flatten := by
  -- Either everything fits, or there is a first chunk that does not.
  by_cases htotal : chunks.flatten.length < limit
  · have hroom : ([] : List α).length + chunks.flatten.length < limit := by simpa using htotal
    have hall := appendFitting_append hroom []
    rw [List.append_nil, List.nil_append, appendFitting_nil] at hall
    rw [hall]
  · obtain ⟨front, c, later, rfl, hfront, hc⟩ :=
      exists_reached hlimit (show limit ≤ 0 + chunks.flatten.length by omega)
    rw [Nat.zero_add] at hfront hc
    have hsum : (front.map List.length).sum = front.flatten.length := List.length_flatten.symm
    have hnone := h (front.map List.length) c.length (later.map List.length) (by simp)
      (by omega) (by omega)
    -- Before it everything is appended, and after it nothing.
    rw [appendFitting_append (by simpa using hfront), List.nil_append,
      appendFitting_cons_drop (by omega), appendFitting_of_none_fits]
    · rw [List.flatten_append]
      exact List.prefix_append _ _
    · intro d hd
      rw [← hsum]
      exact hnone d.length (List.mem_map_of_mem hd)

/-- Chunks of given lengths, all of one element. -/
def uniformChunks (a : α) (lengths : List Nat) : List (List α) := lengths.map (List.replicate · a)

theorem map_length_uniformChunks (a : α) (lengths : List Nat) :
    (uniformChunks a lengths).map List.length = lengths := by
  simp [uniformChunks, Function.comp_def]

theorem eq_of_mem_uniformChunks {a x : α} {lengths : List Nat}
    (h : x ∈ (uniformChunks a lengths).flatten) : x = a := by
  obtain ⟨chunk, hchunk, hx⟩ := List.mem_flatten.mp h
  obtain ⟨n, -, rfl⟩ := List.mem_map.mp hchunk
  exact List.eq_of_mem_replicate hx

/-- Where everything is `a` and a chunk fits, an `a` comes next. -/
theorem getElem?_appendFitting {a : α} (htext : ∀ x ∈ text, x = a)
    (hchunks : ∀ x ∈ chunks.flatten, x = a) (hmem : chunk ∈ chunks) (hne : chunk.length ≠ 0)
    (hfits : text.length + chunk.length < limit) :
    (appendFitting limit text chunks)[text.length]? = some a := by
  have hlonger := length_lt_appendFitting hmem hne hfits
  rw [List.getElem?_eq_getElem hlonger]
  congr 1
  rcases mem_appendFitting (List.getElem_mem hlonger) with hold | ⟨chunk, hchunk, hx⟩
  · exact htext _ hold
  · exact hchunks _ (List.mem_flatten.mpr ⟨chunk, hchunk, hx⟩)

/-- **A chunk that fits later is spliced**: for some contents of these lengths. Two different items
    suffice, one for the chunks that fit and one for the chunk that does not. -/
theorem exists_spliced {a b : α} (hab : a ≠ b) {front later : List Nat} {n m : Nat}
    (hfront : front.sum < limit) (hn : limit ≤ front.sum + n) (hmem : m ∈ later) (hm : m ≠ 0)
    (hfits : front.sum + m < limit) :
    let chunks := uniformChunks a front ++ List.replicate n b :: uniformChunks a later
    ¬ appendFitting limit [] chunks <+: chunks.flatten := by
  intro chunks hprefix
  obtain ⟨base, hdef⟩ : ∃ base, base = (uniformChunks a front).flatten := ⟨_, rfl⟩
  have hbase : base.length = front.sum := by
    rw [hdef, List.length_flatten, map_length_uniformChunks]
  have htext : appendFitting limit [] chunks =
      appendFitting limit base (uniformChunks a later) := by
    rw [appendFitting_append (by rw [← hdef, hbase]; simpa using hfront), ← hdef, List.nil_append,
      appendFitting_cons_drop]
    rw [List.length_replicate]
    omega
  -- the first place behind the front: `a` in the collection, `b` in the body
  have hcollected : (appendFitting limit base (uniformChunks a later))[base.length]? = some a := by
    have hchunk : List.replicate m a ∈ uniformChunks a later := List.mem_map_of_mem hmem
    apply getElem?_appendFitting _ (fun x hx => eq_of_mem_uniformChunks hx) hchunk
    · rwa [List.length_replicate]
    · rwa [List.length_replicate, hbase]
    · exact fun x hx => eq_of_mem_uniformChunks (hdef ▸ hx)
  have hbody : chunks.flatten[base.length]? = some b := by
    show (uniformChunks a front ++ List.replicate n b :: uniformChunks a later).flatten[_]? = _
    rw [List.flatten_append, ← hdef, List.getElem?_append_right (Nat.le_refl _), Nat.sub_self,
      List.flatten_cons, List.getElem?_append_left (by rw [List.length_replicate]; omega),
      List.getElem?_replicate, if_pos (by omega)]
  rw [htext] at hprefix
  obtain ⟨rest, hrest⟩ := hprefix
  obtain ⟨hlonger, -⟩ := List.getElem?_eq_some_iff.mp hcollected
  rw [← hrest, List.getElem?_append_left hlonger, hcollected] at hbody
  exact hab (Option.some.inj hbody)

/-- **Exact sizes.** Whatever is in the chunks, the collection is the front of everything; exactly
    if nothing fits after the chunk that does not. -/
theorem appendFitting_prefix_iff [Nontrivial α] (hlimit : 0 < limit) (lengths : List Nat) :
    (∀ chunks : List (List α), chunks.map List.length = lengths →
      appendFitting limit [] chunks <+: chunks.flatten) ↔ NoneFitsLater limit lengths := by
  constructor
  · rintro hprefix front n later rfl hfront hn m hmem
    by_contra hsplice
    rw [not_or, Nat.not_le] at hsplice
    obtain ⟨a, b, hab⟩ := exists_pair_ne α
    apply exists_spliced hab hfront hn hmem hsplice.1 hsplice.2
    apply hprefix
    rw [List.map_append, List.map_cons, map_length_uniformChunks, map_length_uniformChunks,
      List.length_replicate]
  · rintro hnone chunks rfl
    exact appendFitting_prefix hlimit hnone

end SubnetRouter.Lib
