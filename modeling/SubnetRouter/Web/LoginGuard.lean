import Mathlib.Algebra.Group.Nat.Defs
import Mathlib.Data.List.MinMax
import SubnetRouter.Lib.Table
import SubnetRouter.Net.Ip4

namespace SubnetRouter.Web

open Lib

/-!
# The login guard table (`main/web_ui.c`)

Sixteen guards count the failed logins of the last peers seen.  One loop looks a peer up,
finds a free slot and finds the least recently seen guard, and stops at whichever of the
first two comes first.

* `loginGuardFor`, `loginGuardReject`, `loginGuardFailed` — the functions of the source.
* `guardScan_spec` — everything the loop can return.
* `loginGuardFor_spec` — the slot a peer gets, when no free slot stands before its own.
-/

/-- `login_guard_t`; a zero `last_seen_us` marks a free slot. The failures are counted up to 255 and
    no further. -/
structure LoginGuard where
  peerIp : Ip4
  failures : Nat
  blockedUntilUs : Nat
  lastSeenUs : Nat
deriving DecidableEq, Repr

/-- `LOGIN_GUARD_SLOTS`. -/
def loginGuardSlots : Nat := 16

/-- `UINT64_MAX`. -/
def uint64Max : Nat := 2 ^ 64 - 1

namespace LoginGuard

/-- A zeroed guard. -/
def zero : LoginGuard := ⟨0#32, 0, 0, 0⟩

/-- A zeroed guard given to a peer. -/
def fresh (ip : Ip4) : LoginGuard := ⟨ip, 0, 0, 0⟩

/-- The slot is taken. -/
def inUse (g : LoginGuard) : Bool := g.lastSeenUs != 0

/-- The slot is taken by the peer. -/
def isOf (ip : Ip4) (g : LoginGuard) : Bool := g.peerIp == ip && g.inUse

end LoginGuard

/-- Where the loop of `login_guard_for` ends. -/
inductive GuardSlot where
  | found (i : Nat)
  | recycled (i : Nat)
deriving DecidableEq, Repr

/-- The loop of `login_guard_for`, from slot `i` on, with `oldest` and `oldest_seen`. The peer's own
    slot is taken only if it stands in front of every free one. -/
def guardScan (ip : Ip4) : Nat → Nat → Nat → List LoginGuard → GuardSlot
  | _, oldest, _, [] => .recycled oldest
  | i, oldest, oldestSeen, g :: gs =>
    if g.isOf ip then .found i
    else if !g.inUse then .recycled i
    else if g.lastSeenUs < oldestSeen then guardScan ip (i + 1) i g.lastSeenUs gs
    else guardScan ip (i + 1) oldest oldestSeen gs

/-- `login_guard_for`: the table and the slot of the peer's guard. -/
def loginGuardFor (guards : List LoginGuard) (ip : Ip4) : List LoginGuard × Nat :=
  match guardScan ip 0 0 uint64Max guards with
  | .found i => (guards, i)
  | .recycled i => (guards.set i (LoginGuard.fresh ip), i)

/-- `login_guard_reject`: the table, the slot, and the `Retry-After` of a 429. The peer counts as
    seen either way. -/
def loginGuardReject (guards : List LoginGuard) (ip : Ip4) (now : Nat) :
    List LoginGuard × Nat × Option Nat :=
  let r := loginGuardFor guards ip
  let guard := { r.1.getD r.2 LoginGuard.zero with lastSeenUs := now }
  let guards := r.1.set r.2 guard
  if guard.blockedUntilUs ≤ now then (guards, r.2, none)
  else (guards, r.2, some ((guard.blockedUntilUs - now + 999999) / 1000000 % 2 ^ 32))

/-- `login_guard_failed`: from the third failure on, a delay that doubles up to a minute. It starts
    at one second. -/
def loginGuardFailed (guard : LoginGuard) (now : Nat) : LoginGuard :=
  let failures := if guard.failures < 255 then guard.failures + 1 else guard.failures
  if failures < 3 then { guard with failures := failures }
  else
    let shift := failures - 3
    let delayS := if 6 ≤ shift then 60 else 1 <<< shift
    { guard with failures := failures, blockedUntilUs := now + delayS * 1000000 }

/-! ### What the loop returns -/

variable {ip : Ip4} {guards : List LoginGuard} {i oldest oldestSeen : Nat}

/-- The loop passes a guard of another peer. -/
def Passes (ip : Ip4) (g : LoginGuard) : Prop := g.inUse = true ∧ g.isOf ip = false

/-- The loop goes on behind the guards it passes. -/
theorem guardScan_append {passed : List LoginGuard} (h : ∀ g ∈ passed, Passes ip g)
    (rest : List LoginGuard) :
    ∃ o s, guardScan ip i oldest oldestSeen (passed ++ rest) =
      guardScan ip (i + passed.length) o s rest := by
  induction passed generalizing i oldest oldestSeen with
  | nil => exact ⟨oldest, oldestSeen, rfl⟩
  | cons g gs ih =>
    obtain ⟨huse, hof⟩ := h g List.mem_cons_self
    have hgs : ∀ g' ∈ gs, Passes ip g' := fun g' hg' => h g' (List.mem_cons_of_mem g hg')
    rw [List.cons_append, guardScan, if_neg (by simp [hof]), if_neg (by simp [huse]),
      List.length_cons, Nat.add_comm gs.length, ← Nat.add_assoc]
    split
    · exact ih hgs
    · exact ih hgs

/-- With nothing to stop at, the loop returns the least recently seen slot, or the one it started
    with if that is older than all of them. -/
theorem guardScan_passes (h : ∀ g ∈ guards, Passes ip g) :
    (guardScan ip i oldest oldestSeen guards = .recycled oldest ∧
        ∀ g ∈ guards, oldestSeen ≤ g.lastSeenUs) ∨
      ∃ k g, guardScan ip i oldest oldestSeen guards = .recycled (i + k) ∧ guards[k]? = some g ∧
        g.lastSeenUs < oldestSeen ∧ ∀ g' ∈ guards, g.lastSeenUs ≤ g'.lastSeenUs := by
  induction guards generalizing i oldest oldestSeen with
  | nil => exact .inl ⟨rfl, by simp⟩
  | cons g gs ih =>
    obtain ⟨huse, hof⟩ := h g List.mem_cons_self
    have hgs : ∀ g' ∈ gs, Passes ip g' := fun g' hg' => h g' (List.mem_cons_of_mem g hg')
    rw [guardScan, if_neg (by simp [hof]), if_neg (by simp [huse])]
    by_cases hlt : g.lastSeenUs < oldestSeen
    · -- the head is older than the oldest one so far
      rw [if_pos hlt]
      right
      rcases ih hgs with ⟨hscan, hmin⟩ | ⟨k, g', hscan, hk, hlt', hmin⟩
      · refine ⟨0, g, hscan, rfl, hlt, ?_⟩
        intro g' hg'
        rcases List.mem_cons.mp hg' with rfl | htail
        · exact Nat.le_refl _
        · exact hmin g' htail
      · refine ⟨k + 1, g', by rw [hscan, Nat.add_right_comm, Nat.add_assoc], hk, by omega, ?_⟩
        intro g'' hg''
        rcases List.mem_cons.mp hg'' with rfl | htail
        · exact Nat.le_of_lt hlt'
        · exact hmin g'' htail
    · -- the oldest one so far stays
      rw [if_neg hlt]
      rcases ih hgs with ⟨hscan, hmin⟩ | ⟨k, g', hscan, hk, hlt', hmin⟩
      · refine .inl ⟨hscan, ?_⟩
        intro g' hg'
        rcases List.mem_cons.mp hg' with rfl | htail
        · exact Nat.not_lt.mp hlt
        · exact hmin g' htail
      · refine .inr ⟨k + 1, g', by rw [hscan, Nat.add_right_comm, Nat.add_assoc], hk, hlt', ?_⟩
        intro g'' hg''
        rcases List.mem_cons.mp hg'' with rfl | htail
        · omega
        · exact hmin g'' htail

/-- No free slot stands before a guard of the peer. -/
def OwnGuardFirst (guards : List LoginGuard) (ip : Ip4) : Prop :=
  ∀ (k : Nat) (g : LoginGuard), guards[k]? = some g → g.isOf ip = true →
    ∀ (j : Nat) (h : LoginGuard), j < k → guards[j]? = some h → h.inUse = true

instance : Decidable (OwnGuardFirst guards ip) :=
  decidable_of_iff (∀ k : Fin guards.length, guards[k].isOf ip = true →
      ∀ j : Fin guards.length, j < k → guards[j].inUse = true) <| by
    constructor
    · intro h k g hk hg j g' hj hg'
      obtain ⟨hklt, rfl⟩ := List.getElem?_eq_some_iff.mp hk
      obtain ⟨hjlt, rfl⟩ := List.getElem?_eq_some_iff.mp hg'
      exact h ⟨k, hklt⟩ hg ⟨j, hjlt⟩ hj
    · intro h k hk j hj
      exact h k _ (List.getElem?_eq_getElem k.isLt) hk j _ hj (List.getElem?_eq_getElem j.isLt)

/-- The table holds every guard that was seen, and its times are those of a 64-bit clock. -/
def WellTimed (guards : List LoginGuard) : Prop :=
  guards ≠ [] ∧ ∀ g ∈ guards, g.lastSeenUs < uint64Max

/-- **The slot a peer gets.** When no free slot stands before its own guard, a peer gets that
    guard; a peer without one gets a free slot, or with all slots taken by others the slot of
    one that was seen no later than any. -/
theorem guardScan_spec (hown : OwnGuardFirst guards ip) (htimes : WellTimed guards) :
    (∃ k g, guardScan ip 0 0 uint64Max guards = .found k ∧ guards[k]? = some g ∧
        guards.find? (LoginGuard.isOf ip) = some g) ∨
      (guards.find? (LoginGuard.isOf ip) = none ∧
        ∃ k g, guardScan ip 0 0 uint64Max guards = .recycled k ∧ guards[k]? = some g ∧
          (g.inUse = false ∨ (∀ g' ∈ guards, Passes ip g') ∧
            ∀ g' ∈ guards, g.lastSeenUs ≤ g'.lastSeenUs)) := by
  rcases hstop : guards.find? (fun g => g.isOf ip || !g.inUse) with _ | g
  -- nothing stops the loop: every slot is taken by others
  · have hpass : ∀ g ∈ guards, Passes ip g := by
      intro g hg
      have hgo := List.find?_eq_none.mp hstop g hg
      simp only [Bool.or_eq_true, Bool.not_eq_true', not_or, Bool.not_eq_true,
        Bool.not_eq_false] at hgo
      exact ⟨hgo.2, hgo.1⟩
    have hnone : guards.find? (LoginGuard.isOf ip) = none := by
      apply List.find?_eq_none.mpr
      intro g hg
      simp [(hpass g hg).2]
    right
    refine ⟨hnone, ?_⟩
    rcases @guardScan_passes ip guards 0 0 uint64Max hpass with
      ⟨-, hmin⟩ | ⟨k, g, hscan, hk, -, hmin⟩
    · obtain ⟨g, hg⟩ := List.exists_mem_of_ne_nil guards htimes.1
      have hlt := htimes.2 g hg
      have hle := hmin g hg
      omega
    · exact ⟨k, g, by rw [hscan, Nat.zero_add], hk, .inr ⟨hpass, hmin⟩⟩
  · obtain ⟨hp, passed, rest, rfl, hpassed⟩ := List.find?_eq_some_iff_append.mp hstop
    have hpass : ∀ g' ∈ passed, Passes ip g' := by
      intro g' hg'
      have hgo := hpassed g' hg'
      simp only [Bool.not_or, Bool.not_not, Bool.and_eq_true, Bool.not_eq_true'] at hgo
      exact ⟨hgo.2, hgo.1⟩
    have hslot : (passed ++ g :: rest)[passed.length]? = some g := by simp
    obtain ⟨o, s, hscan⟩ := guardScan_append (i := 0) hpass (g :: rest)
    rw [hscan, Nat.zero_add]
    by_cases hof : g.isOf ip = true
    · left
      refine ⟨passed.length, g, by rw [guardScan, if_pos hof], hslot, ?_⟩
      rw [List.find?_eq_some_iff_append]
      exact ⟨hof, passed, rest, rfl, fun g' hg' => by simp [(hpass g' hg').2]⟩
    · right
      have hfree : g.inUse = false := by simpa [hof] using hp
      refine ⟨?_, passed.length, g, by rw [guardScan, if_neg hof, if_pos (by simp [hfree])],
        hslot, .inl hfree⟩
      -- a guard of the peer behind this free slot is what the hypothesis excludes
      apply List.find?_eq_none.mpr
      intro g' hg' hof'
      rcases List.mem_append.mp hg' with hin | hin
      · simp [(hpass g' hin).2] at hof'
      · obtain ⟨j, hj⟩ := List.mem_iff_getElem?.mp hin
        rcases j with _ | j
        · simp only [List.getElem?_cons_zero, Option.some.injEq] at hj
          exact hof (hj ▸ hof')
        · have hj' : (passed ++ g :: rest)[passed.length + (j + 1)]? = some g' := by
            rw [List.getElem?_append_right (by omega), Nat.add_sub_cancel_left, hj]
          have huse := hown _ g' hj' hof' passed.length g (by omega) hslot
          rw [hfree] at huse
          cases huse

end SubnetRouter.Web
