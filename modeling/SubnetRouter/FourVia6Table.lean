import SubnetRouter.FourVia6RoundTrip

namespace SubnetRouter.FourVia6

open Lib

/-!
# What the flow table keeps

`flow_lookup` goes through the table up to its match, and invalidates on the way what has been
idle for longer than the timeout of the protocol that it looks for.  `flow_remember` looks for the
flow's own entry, an unused slot and the oldest entry in one loop over one slot variable.

* `flowLookup_fst` — the table after a lookup.
* `lifetime_iff` — the runs in which no flow is given up before its time.
* `rememberSlot_of_own`, `rememberSlot_of_free`, `rememberSlot_of_full` — the slot of a flow.
* `remember_iff` — the tables in which a new flow takes the right slot.
-/

/-! ### The lifetime of a flow -/

/-- A call on the table, and when it is made. -/
inductive TableCall where
  | remember (client : Ip6) (key : FlowKey) (now : Int)
  | lookup (key : FlowKey) (now : Int)
deriving DecidableEq

/-- The time of a call. -/
def TableCall.now : TableCall → Int
  | remember _ _ now => now
  | lookup _ now => now

/-- The table under these calls. -/
def table : Machine (List Flow) TableCall where
  step flows
    | .remember client key now => some (flowRemember flows client key now)
    | .lookup key now => some (flowLookup key now flows).1

/-- `fourvia6_get_status` counts the entry as active. -/
def Flow.Active (now : Int) (f : Flow) : Bool :=
  f.valid && decide (now - f.lastSeenUs ≤ timeoutUs f.key.protocol)

/-- The `active_flows` of `fourvia6_get_status`. -/
def activeFlows (flows : List Flow) (now : Int) : Nat := flows.countP (Flow.Active now)

/-- What a lookup invalidates has been idle for longer than its own protocol's timeout, and as
    many flows are active as before. -/
def LifetimeKept (flows : List Flow) : TableCall → Prop
  | .remember _ _ _ => True
  | .lookup key now =>
    (∀ (i : Nat) (f g : Flow), flows[i]? = some f → (flowLookup key now flows).1[i]? = some g →
      f.valid = true → g.valid = false → timeoutUs f.key.protocol < now - f.lastSeenUs) ∧
    activeFlows (flowLookup key now flows).1 now = activeFlows flows now

/-- The entries that a lookup goes past. -/
def passed (key : FlowKey) (now : Int) (flows : List Flow) : List Flow :=
  flows.takeWhile fun f => !f.Matches key now

/-- No flow that a lookup goes past has outlived the timeout of the protocol looked for but not
    that of its own. -/
def NoneCutShort (flows : List Flow) : TableCall → Prop
  | .remember _ _ _ => True
  | .lookup key now => ∀ f ∈ passed key now flows, f.valid = true →
      timeoutUs key.protocol < now - f.lastSeenUs → timeoutUs f.key.protocol < now - f.lastSeenUs

instance (flows : List Flow) : (c : TableCall) → Decidable (NoneCutShort flows c)
  | .remember _ _ _ => .isTrue trivial
  | .lookup key now => inferInstanceAs (Decidable (∀ f ∈ passed key now flows, _))

/-- What becomes of an entry that a lookup goes past. -/
def Flow.expire (key : FlowKey) (now : Int) (f : Flow) : Flow :=
  if f.valid ∧ timeoutUs key.protocol < now - f.lastSeenUs then { f with valid := false } else f

/-- The match, if there is one, has been seen now. -/
def refresh (now : Int) : List Flow → List Flow
  | [] => []
  | f :: fs => { f with lastSeenUs := now } :: fs

section Lookup

variable {key : FlowKey} {now : Int} {flows : List Flow} {f g : Flow}

/-- **The table after a lookup.** Up to the flow that is found entries may expire, and behind it
    nothing changes. -/
theorem flowLookup_fst (key : FlowKey) (now : Int) (flows : List Flow) :
    (flowLookup key now flows).1 = (passed key now flows).map (Flow.expire key now) ++
      refresh now (flows.dropWhile fun f => !f.Matches key now) := by
  induction flows with
  | nil => rfl
  | cons f fs ih =>
    unfold passed at ih ⊢
    by_cases hmatch : f.Matches key now = true
    · have hstop : (!f.Matches key now) = false := by rw [hmatch, Bool.not_true]
      rw [List.takeWhile_cons, List.dropWhile_cons, hstop]
      simp only [Flow.Matches, Bool.and_eq_true, decide_eq_true_eq] at hmatch
      have hage : ¬ timeoutUs key.protocol < now - f.lastSeenUs := by omega
      simp only [flowLookup, hmatch.1.1, Bool.not_true, Bool.false_eq_true, if_false, hage,
        hmatch.2, if_true, List.map_nil, List.nil_append, refresh]
    · have hgo : (!f.Matches key now) = true := by
        rw [Bool.not_eq_true] at hmatch
        rw [hmatch, Bool.not_false]
      rw [List.takeWhile_cons, List.dropWhile_cons, if_pos hgo, if_pos hgo, List.map_cons,
        List.cons_append]
      simp only [Flow.Matches, Bool.and_eq_true, decide_eq_true_eq, not_and] at hmatch
      -- the entry is unused, or expired, or of another flow
      by_cases hvalid : f.valid = true
      · by_cases hage : timeoutUs key.protocol < now - f.lastSeenUs
        · simp only [flowLookup, Flow.expire, hvalid, hage, Bool.not_true, Bool.false_eq_true,
            if_false, if_true, and_self, ih]
        · have hkey : ¬ f.key = key := hmatch ⟨hvalid, by omega⟩
          simp only [flowLookup, Flow.expire, hvalid, hage, hkey, Bool.not_true,
            Bool.false_eq_true, if_false, and_false, ih]
      · simp only [flowLookup, Flow.expire, hvalid, Bool.not_false, if_true, false_and, if_false,
          Bool.false_eq_true, ih]

theorem flows_eq_passed_append (key : FlowKey) (now : Int) (flows : List Flow) :
    flows = passed key now flows ++ flows.dropWhile fun f => !f.Matches key now :=
  List.takeWhile_append_dropWhile.symm

theorem timeoutUs_pos (protocol : UInt8) : 0 < timeoutUs protocol := by
  unfold timeoutUs
  split_ifs <;> decide

/-- A refreshed match is as active as it was. -/
theorem countP_refresh {fs : List Flow} (h : ∀ f ∈ fs.head?, f.Matches key now = true) :
    (refresh now fs).countP (Flow.Active now) = fs.countP (Flow.Active now) := by
  rcases fs with _ | ⟨f, fs⟩
  · rfl
  · have hmatch := h f rfl
    simp only [Flow.Matches, Bool.and_eq_true, decide_eq_true_eq] at hmatch
    obtain ⟨⟨hvalid, hage⟩, hkey⟩ := hmatch
    have hold : f.Active now = true := by
      simp only [Flow.Active, hvalid, hkey, Bool.true_and, decide_eq_true hage]
    have hnew : Flow.Active now { f with lastSeenUs := now } = true := by
      have hpos := timeoutUs_pos f.key.protocol
      simp only [Flow.Active, hvalid, Bool.true_and, decide_eq_true_eq]
      omega
    rw [refresh, List.countP_cons, List.countP_cons, hold, hnew]

/-- What is not passed starts with the match. -/
theorem matches_head_dropWhile (key : FlowKey) (now : Int) (flows : List Flow) :
    ∀ f ∈ (flows.dropWhile fun f => !f.Matches key now).head?, f.Matches key now = true := by
  intro f hf
  have hhead := List.head?_dropWhile_not (fun f : Flow => !f.Matches key now) flows
  rw [Option.mem_def.mp hf] at hhead
  exact (Bool.not_eq_false' _).mp hhead

/-- Refreshing validates and invalidates nothing. -/
theorem valid_refresh {fs : List Flow} {i : Nat} (hf : fs[i]? = some f)
    (hg : (refresh now fs)[i]? = some g) : g.valid = f.valid := by
  rcases fs with _ | ⟨h, fs⟩
  · cases hf
  · rcases i with _ | i
    · rw [refresh, List.getElem?_cons_zero, Option.some.injEq] at hg
      rw [List.getElem?_cons_zero, Option.some.injEq] at hf
      rw [← hf, ← hg]
    · rw [refresh, List.getElem?_cons_succ] at hg
      rw [List.getElem?_cons_succ, hg, Option.some.injEq] at hf
      rw [hf]

theorem valid_expire : (f.expire key now).valid = false ↔
    f.valid = false ∨ timeoutUs key.protocol < now - f.lastSeenUs := by
  unfold Flow.expire
  split_ifs with h
  · exact iff_of_true rfl (.inr h.2)
  · rw [not_and] at h
    constructor
    · exact .inl
    · rintro (hvalid | hage)
      · exact hvalid
      · exact Bool.eq_false_iff.mpr fun hvalid => h hvalid hage

/-- What has timed out is not active, invalidated or not. -/
theorem active_expire (h : f.valid = true → timeoutUs key.protocol < now - f.lastSeenUs →
    timeoutUs f.key.protocol < now - f.lastSeenUs) :
    Flow.Active now (f.expire key now) = Flow.Active now f := by
  unfold Flow.expire
  split_ifs with hexpired
  · have hage := h hexpired.1 hexpired.2
    have hlate : ¬ now - f.lastSeenUs ≤ timeoutUs f.key.protocol := by omega
    simp only [Flow.Active, decide_eq_false hlate, Bool.and_false]
  · rfl

/-- **One call.** A lookup measures every flow that it goes past by the timeout of the protocol
    looked for, so one with a longer timeout may be given up early. -/
theorem lifetimeKept_iff (flows : List Flow) (c : TableCall) :
    LifetimeKept flows c ↔ NoneCutShort flows c := by
  rcases c with ⟨client, key, now⟩ | ⟨key, now⟩
  · exact Iff.rfl
  have hsplit := flows_eq_passed_append key now flows
  simp only [LifetimeKept, NoneCutShort, flowLookup_fst]
  constructor
  · rintro ⟨hkept, -⟩ f hf hvalid hage
    obtain ⟨i, hi, hget⟩ := List.mem_iff_getElem.mp hf
    have hold : flows[i]? = some f := by
      rw [hsplit, List.getElem?_append_left hi, List.getElem?_eq_getElem hi, hget]
    refine hkept i f (f.expire key now) hold ?_ hvalid (valid_expire.mpr (.inr hage))
    rw [List.getElem?_append_left (by rwa [List.length_map]), List.getElem?_map,
      List.getElem?_eq_getElem hi, hget, Option.map_some]
  · intro hnone
    constructor
    · intro i f g hf hg hvalid hgone
      by_cases hi : i < (passed key now flows).length
      · -- an entry in front of the match
        rw [hsplit, List.getElem?_append_left hi] at hf
        rw [List.getElem?_append_left (by rwa [List.length_map]), List.getElem?_map, hf,
          Option.map_some, Option.some.injEq] at hg
        rcases valid_expire.mp (hg ▸ hgone) with hinvalid | hage
        · rw [hvalid] at hinvalid
          cases hinvalid
        · exact hnone f (List.mem_of_getElem? hf) hvalid hage
      · -- the match, or an entry behind it
        rw [hsplit, List.getElem?_append_right (by omega)] at hf
        rw [List.getElem?_append_right (by rw [List.length_map]; omega), List.length_map] at hg
        rw [valid_refresh hf hg, hvalid] at hgone
        cases hgone
    · unfold activeFlows
      conv_rhs => rw [hsplit]
      rw [List.countP_append, List.countP_append,
        countP_refresh (matches_head_dropWhile key now flows), List.countP_map]
      congr 1
      apply List.countP_congr
      intro f hf
      rw [Function.comp_apply, active_expire (hnone f hf)]

end Lookup

/-- **The lifetime of a flow.** From every table, over every sequence of calls: no flow is given up
    before its own protocol's timeout if and only if no lookup goes past a flow that has a longer
    one and is just between the two. -/
theorem lifetime_iff (flows : List Flow) (calls : List TableCall) :
    table.Meets LifetimeKept flows calls ↔ table.Meets NoneCutShort flows calls :=
  Machine.meets_congr lifetimeKept_iff

/-- The table after `fourvia6_init`. -/
def unusedTable : List Flow :=
  List.replicate flowCount ⟨false, Ip6.zero, ⟨0, 0#32, 0#32, 0, 0⟩, 0⟩

/-- A TCP flow is remembered, and 31 seconds later an echo reply is looked up. -/
def pingAfterTcp : List TableCall :=
  [.remember (client 1) ⟨6, 0x64400001#32, 0xC0A80432#32, 12345, 80⟩ 0,
    .lookup ⟨1, 0x64400001#32, 0xC0A80432#32, 1, 0⟩ 31000000]

/-- The TCP flow is gone after half a minute instead of 15. -/
theorem tcp_flow_cut_short :
    ¬ ∀ calls : List TableCall, (calls.map TableCall.now).Pairwise (· ≤ ·) →
      table.Meets LifetimeKept unusedTable calls := by
  intro h
  obtain ⟨-, hlookup⟩ := h pingAfterTcp (by decide)
  have hnone := (lifetimeKept_iff _ _).mp (hlookup _ rfl).1
  exact absurd hnone (by decide +kernel)

/-! ### The slot of a flow -/

/-- The entry of a client's flow: `flow_remember` compares the client as well. -/
def Flow.IsOf (client : Ip6) (key : FlowKey) (f : Flow) : Bool :=
  f.valid && f.key == key && f.clientV6 == client

/-- No two valid entries are of one client's flow. -/
def OnePerKey (flows : List Flow) : Prop :=
  ∀ (i j : Nat) (f g : Flow), flows[i]? = some f → flows[j]? = some g → f.valid = true →
    g.IsOf f.clientV6 f.key = true → i = j

/-- What `flow_remember` is for: the flow gets its own entry again, or else a free slot, or else
    that of the flow seen least recently; nothing else changes. -/
def Remembered (flows : List Flow) (client : Ip6) (key : FlowKey) (now : Int)
    (result : List Flow) : Prop :=
  (OnePerKey flows → OnePerKey result) ∧
    ∃ (i : Nat) (f : Flow), flows[i]? = some f ∧ result = flows.set i ⟨true, client, key, now⟩ ∧
      (f.IsOf client key = true ∨
        (∀ g ∈ flows, g.IsOf client key = false) ∧
          (f.valid = false ∨ (∀ g ∈ flows, g.valid = true ∧ f.lastSeenUs ≤ g.lastSeenUs)))

/-- The first flow whose time stamp is below `INT64_MAX`: the one that is given up. -/
def firstFlow (flows : List Flow) : Option Flow := flows.find? (·.lastSeenUs < int64Max)

/-- The flow has an entry, or a slot is free, or the first flow is the one seen least recently. -/
def SlotAtHand (flows : List Flow) (client : Ip6) (key : FlowKey) : Prop :=
  (∃ f ∈ flows, f.IsOf client key = true) ∨ (∃ f ∈ flows, f.valid = false) ∨
    ∃ f ∈ firstFlow flows, ∀ g ∈ flows, f.lastSeenUs ≤ g.lastSeenUs

section Slot

variable {client : Ip6} {key : FlowKey} {flows : List Flow}

/-- One round of the scan. -/
theorem rememberSlot_cons (i : Nat) (slot : Option Nat) (oldest : Int) (f : Flow) :
    rememberSlot client key i slot oldest (f :: flows) =
      if f.IsOf client key then some i
      else if !f.valid then rememberSlot client key (i + 1) (some i) oldest flows
      else if slot.isNone && f.lastSeenUs < oldest then
        rememberSlot client key (i + 1) (some i) f.lastSeenUs flows
      else rememberSlot client key (i + 1) slot oldest flows := rfl

/-- What is found in the rest of the table is found in the table, one place further. -/
theorem found_cons {P : Flow → Prop} {i : Nat} {result : Option Nat} (f : Flow)
    (h : ∃ j g, flows[j]? = some g ∧ P g ∧ result = some (i + 1 + j)) :
    ∃ j g, (f :: flows)[j]? = some g ∧ P g ∧ result = some (i + j) := by
  obtain ⟨j, g, hget, hg, hslot⟩ := h
  refine ⟨j + 1, g, hget, hg, ?_⟩
  rw [hslot, Nat.add_assoc, Nat.add_comm 1 j]

/-- The flow's own entry is taken wherever it stands. -/
theorem rememberSlot_of_own (i : Nat) (slot : Option Nat) (oldest : Int)
    (h : ∃ f ∈ flows, f.IsOf client key = true) :
    ∃ j f, flows[j]? = some f ∧ f.IsOf client key = true ∧
      rememberSlot client key i slot oldest flows = some (i + j) := by
  induction flows generalizing i slot oldest with
  | nil =>
    obtain ⟨f, hf, -⟩ := h
    cases hf
  | cons f fs ih =>
    rw [rememberSlot_cons]
    by_cases hown : f.IsOf client key = true
    · exact ⟨0, f, rfl, hown, if_pos hown⟩
    · have hrest : ∃ g ∈ fs, g.IsOf client key = true := by
        obtain ⟨g, hg, hgown⟩ := h
        rcases List.mem_cons.mp hg with rfl | hg
        · exact absurd hgown hown
        · exact ⟨g, hg, hgown⟩
      -- the scan goes on, whatever it has in hand
      rw [if_neg hown]
      split_ifs
      · exact found_cons f (ih (i + 1) _ _ hrest)
      · exact found_cons f (ih (i + 1) _ _ hrest)
      · exact found_cons f (ih (i + 1) _ _ hrest)

/-- A slot in hand is kept when no other is free. -/
theorem rememberSlot_of_hand (i s : Nat) (oldest : Int)
    (hown : ∀ f ∈ flows, f.IsOf client key = false) (hfull : ∀ f ∈ flows, f.valid = true) :
    rememberSlot client key i (some s) oldest flows = some s := by
  induction flows generalizing i with
  | nil => rfl
  | cons f fs ih =>
    rw [List.forall_mem_cons] at hown hfull
    rw [rememberSlot_cons, hown.1, hfull.1]
    exact ih (i + 1) hown.2 hfull.2

/-- A flow without an entry takes a free slot if there is one. It is a slot of the part that is
    looked at. -/
theorem rememberSlot_of_free (i : Nat) (slot : Option Nat) (oldest : Int)
    (hown : ∀ f ∈ flows, f.IsOf client key = false) (hfree : ∃ f ∈ flows, f.valid = false) :
    ∃ j f, flows[j]? = some f ∧ f.valid = false ∧
      rememberSlot client key i slot oldest flows = some (i + j) := by
  induction flows generalizing i slot oldest with
  | nil =>
    obtain ⟨f, hf, -⟩ := hfree
    cases hf
  | cons f fs ih =>
    rw [List.forall_mem_cons] at hown
    rw [rememberSlot_cons, if_neg (Bool.eq_false_iff.mp hown.1)]
    by_cases hrest : ∃ g ∈ fs, g.valid = false
    · -- a later free slot takes the place of the one in hand
      split_ifs
      · exact found_cons f (ih (i + 1) _ _ hown.2 hrest)
      · exact found_cons f (ih (i + 1) _ _ hown.2 hrest)
      · exact found_cons f (ih (i + 1) _ _ hown.2 hrest)
    · -- this is the last free slot
      have hfull : ∀ g ∈ fs, g.valid = true := by
        intro g hg
        by_contra hvalid
        exact hrest ⟨g, hg, Bool.eq_false_iff.mpr hvalid⟩
      have hf : f.valid = false := by
        obtain ⟨g, hg, hgfree⟩ := hfree
        rcases List.mem_cons.mp hg with rfl | hg
        · exact hgfree
        · exact absurd ⟨g, hg, hgfree⟩ hrest
      refine ⟨0, f, rfl, hf, ?_⟩
      rw [hf, Bool.not_false, if_pos rfl]
      exact rememberSlot_of_hand _ _ _ hown.2 hfull

/-- In a full table a flow without an entry takes the slot of the first flow: once a slot is in
    hand, no other is compared with it. -/
theorem rememberSlot_of_full (i : Nat) (hown : ∀ f ∈ flows, f.IsOf client key = false)
    (hfull : ∀ f ∈ flows, f.valid = true) :
    match firstFlow flows with
    | none => rememberSlot client key i none int64Max flows = none
    | some f => ∃ j, flows[j]? = some f ∧
        rememberSlot client key i none int64Max flows = some (i + j) := by
  induction flows generalizing i with
  | nil => rfl
  | cons f fs ih =>
    rw [List.forall_mem_cons] at hown hfull
    rw [rememberSlot_cons, hown.1, hfull.1, firstFlow, List.find?_cons]
    -- The first entry that is older than the initial mark is taken, and held from then on.
    by_cases hseen : f.lastSeenUs < int64Max
    · rw [decide_eq_true hseen]
      exact ⟨0, rfl, rememberSlot_of_hand _ _ _ hown.2 hfull.2⟩
    · rw [decide_eq_false hseen]
      have hrest := ih (i + 1) hown.2 hfull.2
      rw [firstFlow] at hrest
      -- None further on either, or the one that the rest finds.
      rcases hfirst : fs.find? (·.lastSeenUs < int64Max) with _ | g
      · simp only [hfirst] at hrest ⊢
        exact hrest
      · simp only [hfirst] at hrest ⊢
        obtain ⟨j, hget, hslot⟩ := hrest
        refine ⟨j + 1, hget, ?_⟩
        show rememberSlot client key (i + 1) none int64Max fs = _
        rw [hslot, Nat.add_assoc, Nat.add_comm 1 j]

/-- Filling a slot that was the flow's own, or of a flow without an entry, leaves one entry per
    key. -/
theorem onePerKey_set {i : Nat} {f : Flow} {now : Int} (hone : OnePerKey flows)
    (hget : flows[i]? = some f)
    (h : f.IsOf client key = true ∨ ∀ g ∈ flows, g.IsOf client key = false) :
    OnePerKey (flows.set i ⟨true, client, key, now⟩) := by
  -- another entry of the flow would have been one before
  have hother : ∀ (j : Nat) (g : Flow), flows[j]? = some g → g.IsOf client key = true → i = j := by
    intro j g hg hown
    rcases h with hf | hnone
    · simp only [Flow.IsOf, Bool.and_eq_true, beq_iff_eq] at hf
      refine hone i j f g hget hg hf.1.1 ?_
      rwa [hf.1.2, hf.2]
    · rw [hnone g (List.mem_of_getElem? hg)] at hown
      cases hown
  have hlt : i < flows.length := (List.getElem?_eq_some_iff.mp hget).1
  intro j k g h hg hh hvalid hown
  by_cases hj : i = j
  · by_cases hk : i = k
    · exact hj.symm.trans hk
    · rw [← hj, List.getElem?_set_self hlt, Option.some.injEq] at hg
      rw [List.getElem?_set_ne hk] at hh
      rw [← hg] at hown
      exact absurd (hother k h hh hown) hk
  · rw [List.getElem?_set_ne hj] at hg
    by_cases hk : i = k
    · rw [← hk, List.getElem?_set_self hlt, Option.some.injEq] at hh
      have hgown : g.IsOf client key = true := by
        rw [← hh] at hown
        simp only [Flow.IsOf, Bool.and_eq_true, beq_iff_eq, true_and] at hown
        simp only [Flow.IsOf, hvalid, hown.1, hown.2, beq_self_eq_true, Bool.and_self]
      exact absurd (hother j g hg hgown) hj
    · rw [List.getElem?_set_ne hk] at hh
      exact hone j k g h hg hh hvalid hown

/-- A flow without an entry stands nowhere in the table. -/
theorem getElem?_ne_of_no_entry (now : Int) (hown : ∀ g ∈ flows, g.IsOf client key = false)
    (i : Nat) : flows[i]? ≠ some ⟨true, client, key, now⟩ := by
  intro hnew
  have hisof := hown _ (List.mem_of_getElem? hnew)
  simp [Flow.IsOf] at hisof

/-- So the table shows where it has been put. -/
theorem set_eq_set {i j : Nat} {f : Flow} {now : Int}
    (hown : ∀ g ∈ flows, g.IsOf client key = false) (hget : flows[i]? = some f)
    (h : flows.set j ⟨true, client, key, now⟩ = flows.set i ⟨true, client, key, now⟩) : j = i := by
  by_contra hne
  have hlt : i < flows.length := (List.getElem?_eq_some_iff.mp hget).1
  have hnew : flows[i]? = some ⟨true, client, key, now⟩ := by
    rw [← List.getElem?_set_ne hne, h, List.getElem?_set_self hlt]
  exact getElem?_ne_of_no_entry now hown i hnew

/-- The table after the scan has found a slot. -/
theorem flowRemember_of_slot {j : Nat} (now : Int)
    (h : rememberSlot client key 0 none int64Max flows = some (0 + j)) :
    flowRemember flows client key now = flows.set j ⟨true, client, key, now⟩ := by
  rw [flowRemember, h, Nat.zero_add]

/-- A new flow for a full table takes the right slot if the first flow is the one to give up. The
    loop starts from the first slot and looks for an older one behind it. -/
theorem remembered_iff_of_full (now : Int) (hown : ∀ f ∈ flows, f.IsOf client key = false)
    (hfull : ∀ f ∈ flows, f.valid = true) :
    Remembered flows client key now (flowRemember flows client key now) ↔
      ∃ f ∈ firstFlow flows, ∀ g ∈ flows, f.lastSeenUs ≤ g.lastSeenUs := by
  have hslot := rememberSlot_of_full 0 hown hfull
  rcases hfirst : firstFlow flows with _ | f
  · -- no flow is given up, and the new one is not remembered
    simp only [hfirst] at hslot
    have hsame : flowRemember flows client key now = flows := by
      rw [flowRemember, hslot]
    rw [hsame]
    refine iff_of_false ?_ (by simp)
    rintro ⟨-, i, f, hget, hset, -⟩
    have hlt : i < flows.length := (List.getElem?_eq_some_iff.mp hget).1
    refine getElem?_ne_of_no_entry now hown i ?_
    rw [hset, List.getElem?_set_self hlt]
  · simp only [hfirst] at hslot
    obtain ⟨j, hget, hslot⟩ := hslot
    rw [flowRemember_of_slot now hslot]
    have hmem : f ∈ flows := List.mem_of_getElem? hget
    constructor
    · -- the slot that was filled is the one to fill
      rintro ⟨-, i, g, hg, hset, hright⟩
      obtain rfl := set_eq_set hown hg hset
      obtain rfl : f = g := Option.some.inj (hget.symm.trans hg)
      refine ⟨f, rfl, fun h hh => ?_⟩
      rcases hright with hf | ⟨-, hf | hleast⟩
      · rw [hown f hmem] at hf
        cases hf
      · rw [hfull f hmem] at hf
        cases hf
      · exact (hleast h hh).2
    · rintro ⟨g, hg, hleast⟩
      rw [Option.mem_some_iff] at hg
      subst hg
      refine ⟨fun hone => onePerKey_set hone hget (.inr hown), j, f, hget, rfl, ?_⟩
      exact .inr ⟨hown, .inr fun h hh => ⟨hfull h hh, hleast h hh⟩⟩

/-- **The slot of a flow.** In every table, every flow is put where it belongs if and only if it
    has an entry, or a slot is free, or the first flow happens to be the one to give up. -/
theorem remember_iff (flows : List Flow) (client : Ip6) (key : FlowKey) (now : Int) :
    Remembered flows client key now (flowRemember flows client key now) ↔
      SlotAtHand flows client key := by
  by_cases hown : ∃ f ∈ flows, f.IsOf client key = true
  · obtain ⟨j, f, hget, hf, hslot⟩ := rememberSlot_of_own 0 none int64Max hown
    rw [flowRemember_of_slot now hslot]
    refine iff_of_true ⟨fun hone => ?_, j, f, hget, rfl, .inl hf⟩ (.inl hown)
    exact onePerKey_set hone hget (.inl hf)
  have hnone : ∀ f ∈ flows, f.IsOf client key = false := by
    simpa using hown
  by_cases hfree : ∃ f ∈ flows, f.valid = false
  · obtain ⟨j, f, hget, hf, hslot⟩ := rememberSlot_of_free 0 none int64Max hnone hfree
    rw [flowRemember_of_slot now hslot]
    refine iff_of_true ⟨fun hone => ?_, j, f, hget, rfl, .inr ⟨hnone, .inl hf⟩⟩
      (.inr (.inl hfree))
    exact onePerKey_set hone hget (.inr hnone)
  · have hfull : ∀ f ∈ flows, f.valid = true := by
      simpa using hfree
    rw [remembered_iff_of_full now hnone hfull, SlotAtHand, or_iff_right hown, or_iff_right hfree]

end Slot

/-- A full table of UDP flows with ports 0 to 47: the one in slot 0 has been seen last, as it is
    when the slots have been filled from the end. -/
def fullTable : List Flow :=
  (List.range flowCount).map fun i =>
    ⟨true, client 1, ⟨17, 0x64400001#32, 0xC0A80432#32, i, 53⟩, 48 - i⟩

/-- Another flow takes the slot of the newest of the 48. -/
theorem newest_flow_evicted :
    ¬ ∀ (flows : List Flow) (client : Ip6) (key : FlowKey) (now : Int),
      Remembered flows client key now (flowRemember flows client key now) := by
  intro h
  have hnew := h fullTable (client 1) ⟨17, 0x64400001#32, 0xC0A80432#32, 48, 53⟩ 49
  obtain ⟨f, hf, hleast⟩ :=
    (remembered_iff_of_full 49 (by decide +kernel) (by decide +kernel)).mp hnew
  have hfirst : firstFlow fullTable
      = some ⟨true, client 1, ⟨17, 0x64400001#32, 0xC0A80432#32, 0, 53⟩, 48⟩ := by decide +kernel
  have hlast : ∃ g ∈ fullTable, g.lastSeenUs < 48 := by decide +kernel
  obtain ⟨g, hg, hlt⟩ := hlast
  rw [hfirst, Option.mem_some_iff] at hf
  have hge := hleast g hg
  rw [← hf] at hge
  exact absurd hge (Int.not_le.mpr hlt)

end SubnetRouter.FourVia6
