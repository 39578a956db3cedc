import Mathlib.Data.List.Nodup
import Mathlib.Logic.Function.Basic

namespace SubnetRouter.Lib

/-!
# Stores written key by key

A record is kept in a store under several keys, one for each field.  Reading a field replaces
what is missing or out of range by a default; a save writes the fields in a fixed order, and
may stop after any of them.

* `Field`, `readAll`, `writeAll` — reading and writing by fields.
* `readAll_writeAll_take` — after a partial save, the fields written are new, the others old.
* `readAll_writeAll_take_iff` — when a partial save makes no difference.
* `writeAll_eq_self_iff` — when writes leave the store as it was.
-/

/-- A value, or none, under every key. -/
abbrev Store (κ ν : Type) := κ → Option ν

/-- A field of a record: its key, and how the value under it is read. -/
structure Field (κ ν : Type) where
  key : κ
  read : Option ν → ν

variable {κ ν : Type} {fields : List (Field κ ν)} {writes : List (κ × ν)} {st : Store κ ν}

/-- Read all fields. -/
def readAll (fields : List (Field κ ν)) (st : Store κ ν) : List (κ × ν) :=
  fields.map fun f => (f.key, f.read (st f.key))

@[simp] theorem length_readAll (fields : List (Field κ ν)) (st : Store κ ν) :
    (readAll fields st).length = fields.length := List.length_map _

/-- The writes are for the fields, in their order, and each value is read as it was written. -/
def Saves (fields : List (Field κ ν)) (writes : List (κ × ν)) : Prop :=
  List.Forall₂ (fun f w => w.1 = f.key ∧ f.read (some w.2) = w.2) fields writes

/-- The keys of a save are those of the fields. -/
theorem Saves.map_fst (h : Saves fields writes) : writes.map Prod.fst = fields.map Field.key := by
  induction h with
  | nil => rfl
  | cons hw _ ih => rw [List.map_cons, List.map_cons, hw.1, ih]

variable [DecidableEq κ]

/-- Write the values in order. -/
def writeAll (st : Store κ ν) (writes : List (κ × ν)) : Store κ ν :=
  writes.foldl (fun st w => Function.update st w.1 (some w.2)) st

theorem writeAll_append (st : Store κ ν) (writes later : List (κ × ν)) :
    writeAll st (writes ++ later) = writeAll (writeAll st writes) later := List.foldl_append

/-- A key that is not written keeps its value. -/
theorem writeAll_of_notMem {k : κ} (h : k ∉ writes.map Prod.fst) : writeAll st writes k = st k := by
  induction writes generalizing st with
  | nil => rfl
  | cons w writes ih =>
    rw [List.map_cons, List.mem_cons, not_or] at h
    show writeAll (Function.update st w.1 (some w.2)) writes k = st k
    rw [ih h.2, Function.update_of_ne h.1]

/-- A key that is written once has the value that was written. -/
theorem writeAll_of_mem (hnodup : (writes.map Prod.fst).Nodup) {w : κ × ν} (h : w ∈ writes) :
    writeAll st writes w.1 = some w.2 := by
  induction writes generalizing st with
  | nil => cases h
  | cons w' writes ih =>
    rw [List.map_cons, List.nodup_cons] at hnodup
    show writeAll (Function.update st w'.1 (some w'.2)) writes w.1 = some w.2
    rcases List.mem_cons.mp h with rfl | hmem
    · rw [writeAll_of_notMem hnodup.1, Function.update_self]
    · exact ih hnodup.2 hmem

/-- **Writes leave the store as it was** exactly if each of them repeats what is there. -/
theorem writeAll_eq_self_iff (hnodup : (writes.map Prod.fst).Nodup) :
    writeAll st writes = st ↔ ∀ w ∈ writes, st w.1 = some w.2 := by
  constructor
  · intro heq w hw
    rw [← heq]
    exact writeAll_of_mem hnodup hw
  · intro h
    ext1 k
    by_cases hk : k ∈ writes.map Prod.fst
    · obtain ⟨w, hw, rfl⟩ := List.mem_map.mp hk
      rw [writeAll_of_mem hnodup hw, h w hw]
    · exact writeAll_of_notMem hk

/-- **Partial saves.** The fields written so far are new, the others are as they were. No two fields
    share a key. -/
theorem readAll_writeAll_take (hnodup : (fields.map Field.key).Nodup) (h : Saves fields writes)
    (k : Nat) :
    readAll fields (writeAll st (writes.take k)) = writes.take k ++ (readAll fields st).drop k := by
  induction h generalizing st k with
  | nil => simp [readAll]
  | @cons f w fields writes hw hrest ih =>
    rcases k with _ | k
    · rfl
    rw [List.map_cons, List.nodup_cons] at hnodup
    obtain ⟨hkey, hread⟩ := hw
    -- the later writes leave the first key alone
    have hlater : f.key ∉ (writes.take k).map Prod.fst := by
      rw [List.map_take, Saves.map_fst hrest]
      exact fun hmem => hnodup.1 (List.mem_of_mem_take hmem)
    have hfirst : writeAll (Function.update st w.1 (some w.2)) (writes.take k) f.key
        = some w.2 := by
      rw [writeAll_of_notMem hlater, hkey, Function.update_self]
    have hold : readAll fields (Function.update st w.1 (some w.2)) = readAll fields st := by
      apply List.map_congr_left
      intro g hg
      have hne : g.key ≠ w.1 := by
        rw [hkey]
        exact fun heq => hnodup.1 (heq ▸ List.mem_map_of_mem hg)
      rw [Function.update_of_ne hne]
    rw [List.take_succ_cons]
    show (f.key, f.read (writeAll (Function.update st w.1 (some w.2)) (writes.take k) f.key)) ::
        readAll fields (writeAll (Function.update st w.1 (some w.2)) (writes.take k)) = _
    rw [hfirst, hread, ih hnodup.2, hold, ← hkey]
    rfl

/-- **When a partial save makes no difference**: the fields written had their new values. -/
theorem readAll_writeAll_take_iff (hnodup : (fields.map Field.key).Nodup)
    (h : Saves fields writes) (k : Nat) :
    readAll fields (writeAll st (writes.take k)) = readAll fields st ↔
      writes.take k = (readAll fields st).take k := by
  have hlen : (writes.take k).length = ((readAll fields st).take k).length := by
    rw [List.length_take, List.length_take, length_readAll, h.length_eq]
  rw [readAll_writeAll_take hnodup h]
  constructor
  · intro heq
    have hsplit : writes.take k ++ (readAll fields st).drop k =
        (readAll fields st).take k ++ (readAll fields st).drop k := by
      rw [heq, List.take_append_drop]
    exact List.append_inj_left hsplit hlen
  · intro heq
    rw [heq, List.take_append_drop]

end SubnetRouter.Lib
