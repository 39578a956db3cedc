import Mathlib.Data.List.Basic

namespace SubnetRouter.Lib

/-!
# Runs of a partial step machine

A `Machine` is a step function over a state type; the action carries everything the
environment decides (which task moves, what an allocation or a flash write returns, what
the clock says), and `none` means that the action is not possible in that state.

* `run` — execute a list of actions from a state.
* `Meets C` — every step of a run meets a condition `C` on the state before the step and
  the action.
* `invariant_of_meets` — the induction rule: what one conditional step preserves, every run
  whose steps all meet the condition preserves.
* `meets_iff_reached` — the same for a condition that is exact at each step.
* `Reactive`, `Reactive.run_encode` — machines that answer each input, and the refinement rule:
  what commutes with an encoding of the states at each step does so over a whole run.
-/

variable {σ α : Type}

/-- A step machine: `step s a = none` when action `a` is not possible in state `s`. -/
structure Machine (σ α : Type) where
  /-- One step. -/
  step : σ → α → Option σ

namespace Machine

/-- Execute the actions in order. -/
def run (M : Machine σ α) : σ → List α → Option σ
  | s, [] => some s
  | s, a :: as => (M.step s a).bind fun s' => M.run s' as

/-- Every step of the run from `s` along the actions meets the condition `C`. -/
def Meets (M : Machine σ α) (C : σ → α → Prop) : σ → List α → Prop
  | _, [] => True
  | s, a :: as => C s a ∧ ∀ s', M.step s a = some s' → M.Meets C s' as

variable {M : Machine σ α} {C : σ → α → Prop} {s s' t : σ} {a : α} {as bs : List α}

@[simp] theorem run_nil : M.run s [] = some s := rfl

/-- A nonempty run is one step followed by a run. -/
theorem run_cons : M.run s (a :: as) = some t ↔
    ∃ s', M.step s a = some s' ∧ M.run s' as = some t := by
  simp [run, Option.bind_eq_some_iff]

/-- A run along a concatenation passes through a middle state. -/
theorem run_append : M.run s (as ++ bs) = some t ↔
    ∃ u, M.run s as = some u ∧ M.run u bs = some t := by
  induction as generalizing s with
  | nil => simp
  | cons a as ih =>
    rw [List.cons_append, run_cons]
    constructor
    · rintro ⟨s', hs, hrest⟩
      obtain ⟨u, hu, ht⟩ := ih.mp hrest
      exact ⟨u, run_cons.mpr ⟨s', hs, hu⟩, ht⟩
    · rintro ⟨u, hu, ht⟩
      obtain ⟨s', hs, hrest⟩ := run_cons.mp hu
      exact ⟨s', hs, ih.mpr ⟨u, hrest, ht⟩⟩

@[simp] theorem meets_nil : M.Meets C s [] := trivial

/-- The condition of a nonempty run splits into that of its first step and of its rest. -/
theorem meets_cons (hs : M.step s a = some s') :
    M.Meets C s (a :: as) ↔ C s a ∧ M.Meets C s' as := by
  simp [Meets, hs]

/-- A condition that can be decided at each step can be decided along a run. -/
instance decidableMeets [∀ s a, Decidable (C s a)] :
    ∀ (as : List α) (s : σ), Decidable (M.Meets C s as)
  | [], _ => .isTrue trivial
  | a :: as, s =>
    match hs : M.step s a with
    | none => decidable_of_iff (C s a) ⟨fun h => ⟨h, by simp [hs]⟩, And.left⟩
    | some s' =>
      have := decidableMeets as s'
      decidable_of_iff (C s a ∧ M.Meets C s' as) (meets_cons hs).symm

/-- The second part of a conditional run is a conditional run. -/
theorem Meets.append_right (h : M.Meets C s (as ++ bs)) (hrun : M.run s as = some t) :
    M.Meets C t bs := by
  induction as generalizing s with
  | nil =>
    rw [run_nil, Option.some.injEq] at hrun
    exact hrun ▸ h
  | cons a as ih =>
    obtain ⟨s', hs, hrest⟩ := run_cons.mp hrun
    exact ih ((meets_cons hs).mp h).2 hrest

/-- The first part of a conditional run is a conditional run. -/
theorem Meets.append_left (h : M.Meets C s (as ++ bs)) : M.Meets C s as := by
  induction as generalizing s with
  | nil => trivial
  | cons a as ih => exact ⟨h.1, fun s' hs => ih (h.2 s' hs)⟩

/-- A condition on the actions alone may be checked on the list. -/
theorem Meets.and_forall {P : α → Prop} (h : M.Meets C s as) (hP : ∀ a ∈ as, P a) :
    M.Meets (fun s a => C s a ∧ P a) s as := by
  induction as generalizing s with
  | nil => trivial
  | cons a as ih =>
    refine ⟨⟨h.1, hP a List.mem_cons_self⟩, fun s' hs => ?_⟩
    exact ih (h.2 s' hs) fun b hb => hP b (List.mem_cons_of_mem a hb)

/-- **Invariant rule.** What every step that meets `C` preserves, every run whose steps all
    meet `C` preserves. -/
theorem invariant_of_meets {I : σ → Prop}
    (hstep : ∀ s a s', C s a → M.step s a = some s' → I s → I s')
    (hmeets : M.Meets C s as) (hrun : M.run s as = some t) (hs : I s) : I t := by
  induction as generalizing s with
  | nil =>
    rw [run_nil, Option.some.injEq] at hrun
    exact hrun ▸ hs
  | cons a as ih =>
    obtain ⟨s', hs', hrest⟩ := run_cons.mp hrun
    have hm := (meets_cons hs').mp hmeets
    exact ih hm.2 hrest (hstep s a s' hm.1 hs' hs)

/-- Equivalent conditions are met along the same runs. -/
theorem meets_congr {D : σ → α → Prop} (h : ∀ s a, C s a ↔ D s a) :
    M.Meets C s as ↔ M.Meets D s as := by
  induction as generalizing s with
  | nil => exact Iff.rfl
  | cons a as ih => exact and_congr (h s a) (forall_congr' fun s' => imp_congr_right fun _ => ih)

/-- A condition that follows from an invariant is met along the runs that keep it. -/
theorem Meets.of_invariant {I : σ → Prop} {D : σ → α → Prop}
    (hstep : ∀ s a s', C s a → M.step s a = some s' → I s → I s')
    (himp : ∀ s a, I s → C s a → D s a) (hmeets : M.Meets C s as) (hs : I s) :
    M.Meets D s as := by
  induction as generalizing s with
  | nil => trivial
  | cons a as ih =>
    refine ⟨himp s a hs hmeets.1, fun s' hs' => ?_⟩
    exact ih (hmeets.2 s' hs') (hstep s a s' hmeets.1 hs' hs)

/-- Conditions that are equivalent wherever an invariant holds that the first of them keeps are met
    along the same runs. -/
theorem meets_iff_of_invariant {I : σ → Prop} {D : σ → α → Prop}
    (hstep : ∀ s a s', C s a → M.step s a = some s' → I s → I s')
    (hiff : ∀ s a, I s → (C s a ↔ D s a)) (hs : I s) : M.Meets C s as ↔ M.Meets D s as :=
  ⟨fun h => h.of_invariant hstep (fun s a hI => (hiff s a hI).mp) hs,
    fun h => h.of_invariant (fun s a s' hD hs hI => hstep s a s' ((hiff s a hI).mpr hD) hs hI)
      (fun s a hI => (hiff s a hI).mpr) hs⟩

/-- **Exact conditions.** Where a step keeps `U` exactly if it meets the condition, a run meets
    the condition exactly if `U` holds in every state that it goes through. -/
theorem meets_iff_reached {I U : σ → Prop}
    (hstep : ∀ s a s', M.step s a = some s' → I s → I s')
    (hexact : ∀ s a, I s → U s → (C s a ↔ ∀ s', M.step s a = some s' → U s'))
    (hI : I s) (hU : U s) :
    M.Meets C s as ↔ ∀ n t, M.run s (as.take n) = some t → U t := by
  induction as generalizing s with
  | nil =>
    refine ⟨fun _ n t hrun => ?_, fun _ => trivial⟩
    rw [List.take_nil, run_nil, Option.some.injEq] at hrun
    exact hrun ▸ hU
  | cons a as ih =>
    -- Both ways the first step gives `U` in the next state, from which the induction goes on.
    constructor
    · intro hmeets n t hrun
      cases n with
      | zero => exact Option.some.inj hrun ▸ hU
      | succ n =>
        obtain ⟨s', hs, hrest⟩ := run_cons.mp hrun
        have hU' := (hexact s a hI hU).mp hmeets.1 s' hs
        exact (ih (hstep s a s' hs hI) hU').mp (hmeets.2 s' hs) n t hrest
    · intro hreached
      -- The prefix of length one reaches the next state.
      have hfirst : ∀ s', M.step s a = some s' → U s' := fun s' hs =>
        hreached 1 s' (run_cons.mpr ⟨s', hs, rfl⟩)
      refine ⟨(hexact s a hI hU).mpr hfirst, fun s' hs => ?_⟩
      refine (ih (hstep s a s' hs hI) (hfirst s' hs)).mpr fun n t hrun => ?_
      exact hreached (n + 1) t (run_cons.mpr ⟨s', hs, hrun⟩)

/-- The unconditional condition holds along every run. -/
theorem meets_true (s : σ) (as : List α) : M.Meets (fun _ _ => True) s as := by
  induction as generalizing s with
  | nil => trivial
  | cons a as ih => exact ⟨trivial, fun s' _ => ih s'⟩

/-- **Unconditional invariant rule.** -/
theorem invariant {I : σ → Prop} (hstep : ∀ s a s', M.step s a = some s' → I s → I s')
    (hrun : M.run s as = some t) (hs : I s) : I t :=
  invariant_of_meets (C := fun _ _ => True) (fun s a s' _ => hstep s a s') (meets_true s as)
    hrun hs

/-- What every step extends from the actions before it to those with it holds behind any actions. -/
theorem history_append {I : List α → σ → Prop}
    (hstep : ∀ as s a s', C s a → M.step s a = some s' → I as s → I (as ++ [a]) s')
    (hmeets : M.Meets C s bs) (hrun : M.run s bs = some t) (hs : I as s) : I (as ++ bs) t := by
  induction bs generalizing as s with
  | nil =>
    obtain rfl := Option.some.inj hrun
    rwa [List.append_nil]
  | cons b bs ih =>
    obtain ⟨s', hb, hrest⟩ := run_cons.mp hrun
    have h := ih ((meets_cons hb).mp hmeets).2 hrest (hstep as s b s' hmeets.1 hb hs)
    rwa [List.append_assoc, List.singleton_append] at h

/-- **Invariant rule with a history.** What every step extends from the actions before it to those
    with it holds of the actions of the whole run. -/
theorem history {I : List α → σ → Prop}
    (hstep : ∀ as s a s', C s a → M.step s a = some s' → I as s → I (as ++ [a]) s')
    (hmeets : M.Meets C s as) (hrun : M.run s as = some t) (hs : I [] s) : I as t :=
  history_append hstep hmeets hrun hs

end Machine

/-! ### Machines that answer -/

/-- A machine that takes every input and answers it. -/
structure Reactive (σ ι ο : Type) where
  /-- One input. -/
  step : σ → ι → ο × σ

namespace Reactive

variable {τ ι ο : Type}

/-- Take the inputs in order, collecting the answers. -/
def run (M : Reactive σ ι ο) : σ → List ι → List ο × σ
  | s, [] => ([], s)
  | s, i :: is =>
    let (o, s) := M.step s i
    let (os, s) := M.run s is
    (o :: os, s)

/-- **Refinement rule.** A machine whose steps are those of another one, with the states
    encoded, gives the same answers along every run and ends in the encoded state. -/
theorem run_encode {M : Reactive σ ι ο} {A : Reactive τ ι ο} {encode : τ → σ}
    (hstep : ∀ a i, M.step (encode a) i = ((A.step a i).1, encode (A.step a i).2)) (a : τ)
    (is : List ι) : M.run (encode a) is = ((A.run a is).1, encode (A.run a is).2) := by
  induction is generalizing a with
  | nil => rfl
  | cons i is ih => simp only [run, hstep, ih]

end Reactive

end SubnetRouter.Lib
