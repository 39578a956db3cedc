import Mathlib.Data.List.Permutation

namespace SubnetRouter.Lib

/-!
# Serial results

Operations on a state are serializable when their joint result is that of running them one
after the other, in some order.

* `Serial` — the final state is the result of some order of the operations.
* `Serial.refl` — the order in which they are listed is one.
-/

variable {σ α : Type} {apply : σ → α → σ} {init final : σ} {ops : List α}

/-- Some order of the operations leads from `init` to `final`. -/
def Serial (apply : σ → α → σ) (init : σ) (ops : List α) (final : σ) : Prop :=
  ∃ order : List α, order.Perm ops ∧ order.foldl apply init = final

/-- The listed order is an order. -/
theorem Serial.refl (apply : σ → α → σ) (init : σ) (ops : List α) :
    Serial apply init ops (ops.foldl apply init) :=
  ⟨ops, List.Perm.refl ops, rfl⟩

/-- All orders of a list can be tried. -/
theorem serial_iff_permutations :
    Serial apply init ops final ↔
      ∃ order ∈ ops.permutations', order.foldl apply init = final := by
  simp only [Serial, List.mem_permutations']

instance [DecidableEq σ] : Decidable (Serial apply init ops final) :=
  decidable_of_iff _ serial_iff_permutations.symm

end SubnetRouter.Lib
