import SubnetRouter.Lib.Serial
import SubnetRouter.ForwardSound

namespace SubnetRouter.TailnetForward

open Lib

/-!
# Concurrent updates of the rules

`tailnet_forward_set_all` checks a list, writes it to NVS and stores it in RAM, the lock held
for the last step only; `tailnet_forward_set_enabled` copies the rules, edits the copy and hands
it to `tailnet_forward_set_all`.  The HTTP and the MQTT task may run them at the same time.

* `Updates` — the system with the rules in NVS and the calls under way.
* `InOrder` — each call writes its edit of the rules in NVS, and the calls store in the order in
  which they wrote.
* `serial_of_inOrder` — then both copies are what the completed calls give one after the other.
* `switched_rule_returns` — a call that writes a stale copy.
-/

/-- A call of the two functions. -/
inductive Call where
  | setAll (rules : List Rule)
  | setEnabled (i : Nat) (enabled : Bool)
deriving DecidableEq

/-- What a call means to do. To switch a rule that is not there changes nothing. -/
def Call.apply (rules : List Rule) : Call → List Rule
  | .setAll rules => rules
  | .setEnabled i enabled =>
    match rules[i]? with
    | none => rules
    | some rule => rules.set i { rule with enabled := enabled }

/-- The system, with the rules in NVS and the call of each task; and for the record, the tasks
    that have written to NVS and not yet stored, in the order of their writes, and the calls
    that have stored, in that order. -/
structure Updates where
  fwd : Forwarding
  nvs : List Rule
  calls : Nat → Call
  pending : List Nat
  completed : List Call

namespace Updates

/-- The rules in RAM. -/
def rules (s : Updates) : List Rule := s.fwd.slots.map Slot.rule

/-- What a step of task `t` does besides, `fwd` being as it left it. A call is pending from its NVS
    write to its critical section, in the order of the writes. -/
def record (s : Updates) (t : Nat) : TaskAction → Updates
  | .setAll rules => { s with calls := Function.update s.calls t (.setAll rules) }
  | .setEnabled i enabled =>
    { s with calls := Function.update s.calls t (.setEnabled i enabled) }
  | .check _ _ =>
    match s.fwd.tasks t with
    | .storing rules => { s with nvs := rules, pending := s.pending ++ [t] }
    | _ => s
  | .store _ =>
    { s with pending := s.pending.erase t, completed := s.completed ++ [s.calls t] }
  | _ => s

/-- One step of the system. -/
def step (aton : List Char → Option Ip4) (s : Updates) : ForwardAction → Option Updates
  | .task t a => (s.fwd.taskStep aton t a).map fun fwd => { s with fwd := fwd }.record t a
  | .install a => (s.fwd.installStep a).map fun fwd => { s with fwd := fwd }
  | .packet p => some { s with fwd := s.fwd.packet p }

/-- The machine of all interleavings. -/
def machine (aton : List Char → Option Ip4) : Machine Updates ForwardAction :=
  ⟨fun s a => s.step aton a⟩

/-- After a boot: the rules in RAM are those in NVS, and no call has been made. So both orders, of
    the writes and of the sections, begin here. -/
structure Booted (s : Updates) : Prop where
  fwd : s.fwd.Booted
  nvs : s.nvs = s.rules
  pending : s.pending = []
  completed : s.completed = []

/-- The list that a task is about to check. -/
def unchecked : TaskPhase → Option (List Rule)
  | .checking rules => some rules
  | _ => none

/-- A call that writes to NVS writes its edit of the rules that are there, and a call that
    stores is the first to have written of those that still have to. -/
def InOrder (aton : List Char → Option Ip4) (s : Updates) : ForwardAction → Prop
  | .task t (.check port nvs) =>
    ∀ rules ∈ unchecked (s.fwd.tasks t),
      setAllError aton (portmapListenConflicts s.fwd.table) port rules = none → nvs = true →
        rules = (s.calls t).apply s.nvs
  | .task t (.store _) => s.pending.head? = some t
  | _ => True

instance (aton : List Char → Option Ip4) (s : Updates) :
    (a : ForwardAction) → Decidable (InOrder aton s a)
  | .task t (.check _ nvs) =>
    inferInstanceAs (Decidable (∀ rules ∈ unchecked (s.fwd.tasks t), _ → nvs = true → _))
  | .task t (.store _) => inferInstanceAs (Decidable (s.pending.head? = some t))
  | .task _ (.setAll _) => .isTrue trivial
  | .task _ (.setEnabled _ _) => .isTrue trivial
  | .task _ (.managerPass _) => .isTrue trivial
  | .task _ (.portmapSetAll _ _) => .isTrue trivial
  | .task _ .portmapClear => .isTrue trivial
  | .task _ .portmapPut => .isTrue trivial
  | .task _ (.portmapStore _) => .isTrue trivial
  | .task _ .gotIp => .isTrue trivial
  | .task _ (.installAll _) => .isTrue trivial
  | .install _ => .isTrue trivial
  | .packet _ => .isTrue trivial

/-! ### Writes that are still to be stored -/

variable {tasks tasks' : Nat → TaskPhase} {calls calls' : Nat → Call} {base : List Rule}
  {l : List Nat} {t : Nat}

/-- From the rules `base`, each task of the list is about to store its edit of what the task
    before it stores. -/
def Chain (tasks : Nat → TaskPhase) (calls : Nat → Call) : List Rule → List Nat → Prop
  | _, [] => True
  | base, t :: rest =>
    tasks t = .storing ((calls t).apply base) ∧ Chain tasks calls ((calls t).apply base) rest

/-- The tasks of a chain are about to store. -/
theorem Chain.storing (h : Chain tasks calls base l) (ht : t ∈ l) :
    ∃ rules, tasks t = .storing rules := by
  induction l generalizing base with
  | nil => cases ht
  | cons u rest ih =>
    rcases List.mem_cons.mp ht with rfl | hrest
    · exact ⟨_, h.1⟩
    · exact ih h.2 hrest

/-- A chain only depends on its own tasks. -/
theorem Chain.congr (h : Chain tasks calls base l)
    (hsame : ∀ u ∈ l, tasks' u = tasks u ∧ calls' u = calls u) : Chain tasks' calls' base l := by
  induction l generalizing base with
  | nil => trivial
  | cons u rest ih =>
    obtain ⟨htask, hcall⟩ := hsame u List.mem_cons_self
    rw [Chain, htask, hcall]
    exact ⟨h.1, ih h.2 fun v hv => hsame v (List.mem_cons_of_mem u hv)⟩

/-- A chain is prolonged by an edit of its result. -/
theorem Chain.append (h : Chain tasks calls base l)
    (ht : tasks t = .storing ((calls t).apply ((l.map calls).foldl Call.apply base))) :
    Chain tasks calls base (l ++ [t]) := by
  induction l generalizing base with
  | nil => exact ⟨ht, trivial⟩
  | cons u rest ih => exact ⟨h.1, ih h.2 ht⟩

/-- NVS is ahead of RAM by the chain of the tasks that still have to store, and RAM is what the
    calls that have stored give. -/
structure Inv (init : List Rule) (s : Updates) : Prop where
  rules : s.rules = s.completed.foldl Call.apply init
  nvs : s.nvs = (s.pending.map s.calls).foldl Call.apply s.rules
  chain : Chain s.fwd.tasks s.calls s.rules s.pending
  storing : ∀ t rules, s.fwd.tasks t = .storing rules → t ∈ s.pending
  nodup : s.pending.Nodup

variable {aton : List Char → Option Ip4} {init : List Rule} {s s' : Updates} {fwd : Forwarding}

/-- A step that neither writes nor stores rules. -/
theorem Inv.keep (h : s.Inv init) (hrules : fwd.slots.map Slot.rule = s.rules)
    (hsame : ∀ u ∈ s.pending, fwd.tasks u = s.fwd.tasks u ∧ calls u = s.calls u)
    (hstoring : ∀ u rules, fwd.tasks u = .storing rules → u ∈ s.pending) :
    ({ s with fwd := fwd, calls := calls } : Updates).Inv init where
  rules := hrules.trans h.rules
  nvs := by
    show s.nvs = (s.pending.map calls).foldl Call.apply (fwd.slots.map Slot.rule)
    rw [h.nvs, hrules, List.map_congr_left fun u hu => (hsame u hu).2]
  chain := by
    show Chain fwd.tasks calls (fwd.slots.map Slot.rule) s.pending
    rw [hrules]
    exact h.chain.congr hsame
  storing := hstoring
  nodup := h.nodup

/-- A step of a task that is not about to store and does not come to be. -/
theorem Inv.goto {ph : TaskPhase} (h : s.Inv init)
    (hrules : fwd.slots.map Slot.rule = s.rules) (htasks : fwd.tasks = s.fwd.tasks)
    (hphase : ∀ rules, s.fwd.tasks t ≠ .storing rules) (hph : ∀ rules, ph ≠ .storing rules)
    (hcalls : ∀ u, u ≠ t → calls u = s.calls u) :
    ({ s with fwd := fwd.goto t ph, calls := calls } : Updates).Inv init := by
  have hgoto : (fwd.goto t ph).slots.map Slot.rule = s.rules := hrules
  apply h.keep hgoto
  · intro u hu
    -- The tasks in the chain are about to store, so the one at hand is none of them.
    have hne : u ≠ t := by
      rintro rfl
      obtain ⟨rules, hstoring⟩ := h.chain.storing hu
      exact hphase rules hstoring
    exact ⟨by rw [Forwarding.tasks_goto_of_ne fwd hne, htasks], hcalls u hne⟩
  · intro u rules hu
    -- It does not come to be one either.
    by_cases hut : u = t
    · subst hut
      rw [Forwarding.tasks_goto_self] at hu
      exact absurd hu (hph rules)
    · rw [Forwarding.tasks_goto_of_ne fwd hut, htasks] at hu
      exact h.storing u rules hu

/-- A write to NVS. It joins the calls that still have to store, as the last of them. -/
theorem Inv.write {rules : List Rule} (h : s.Inv init) (hphase : s.fwd.tasks t = .checking rules)
    (horder : rules = (s.calls t).apply s.nvs) :
    ({ s with fwd := s.fwd.goto t (.storing rules), nvs := rules, pending := s.pending ++ [t] }
      : Updates).Inv init := by
  -- a task that is still at its checks has not written
  have hnot : t ∉ s.pending := by
    intro hmem
    obtain ⟨other, hstoring⟩ := h.chain.storing hmem
    rw [hphase] at hstoring
    cases hstoring
  have hother : ∀ u, u ≠ t → (s.fwd.goto t (.storing rules)).tasks u = s.fwd.tasks u :=
    fun u hu => Forwarding.tasks_goto_of_ne s.fwd hu _
  constructor
  · exact h.rules
  · show rules = ((s.pending ++ [t]).map s.calls).foldl Call.apply s.rules
    rw [List.map_append, List.foldl_append, ← h.nvs]
    exact horder
  · apply Chain.append
    · exact h.chain.congr fun u hu => ⟨hother u fun heq => hnot (heq ▸ hu), rfl⟩
    · show (s.fwd.goto t (.storing rules)).tasks t = .storing ((s.calls t).apply
        ((s.pending.map s.calls).foldl Call.apply s.rules))
      rw [Forwarding.tasks_goto_self, ← h.nvs, ← horder]
  · intro u other hu
    by_cases hut : u = t
    · exact List.mem_append_right _ (List.mem_singleton.mpr hut)
    · rw [hother u hut] at hu
      exact List.mem_append_left _ (h.storing u other hu)
  · exact List.nodup_append.mpr ⟨h.nodup, List.nodup_singleton t, fun u hu v hv =>
      (List.mem_singleton.mp hv) ▸ fun heq => hnot (heq ▸ hu)⟩

/-- The first of those that still have to store stores. What it stores is its call applied to the
    rules in RAM, which are those it made its copy of. -/
theorem Inv.store {rules : List Rule} (h : s.Inv init) (hphase : s.fwd.tasks t = .storing rules)
    (horder : s.pending.head? = some t) (hrules : fwd.slots.map Slot.rule = rules)
    (htasks : fwd.tasks = s.fwd.tasks) :
    ({ s with
      fwd := fwd.goto t .installing
      pending := s.pending.erase t
      completed := s.completed ++ [s.calls t] } : Updates).Inv init := by
  obtain ⟨rest, hpending⟩ : ∃ rest, s.pending = t :: rest := by
    obtain ⟨rest, heq⟩ := List.head?_eq_some_iff.mp horder
    exact ⟨rest, heq⟩
  have hchain := h.chain
  have hnodup := h.nodup
  have hnvs := h.nvs
  rw [hpending] at hchain hnodup hnvs
  obtain ⟨hstoring, hrest⟩ := hchain
  obtain ⟨hnot, hnodup⟩ := List.nodup_cons.mp hnodup
  -- what it stores is its call applied to the rules in RAM
  have hedit : rules = (s.calls t).apply s.rules := by
    rw [hphase] at hstoring
    exact TaskPhase.storing.inj hstoring
  have herase : s.pending.erase t = rest := by rw [hpending, List.erase_cons_head]
  rw [herase]
  have hother : ∀ u, u ≠ t → (fwd.goto t .installing).tasks u = s.fwd.tasks u := by
    intro u hu
    rw [Forwarding.tasks_goto_of_ne fwd hu, htasks]
  constructor
  · show fwd.slots.map Slot.rule = (s.completed ++ [s.calls t]).foldl Call.apply init
    rw [hrules, List.foldl_append, ← h.rules]
    exact hedit
  · show s.nvs = (rest.map s.calls).foldl Call.apply (fwd.slots.map Slot.rule)
    rw [hrules, hedit]
    exact hnvs
  · show Chain (fwd.goto t .installing).tasks s.calls (fwd.slots.map Slot.rule) rest
    rw [hrules, hedit]
    exact hrest.congr fun u hu => ⟨hother u fun heq => hnot (heq ▸ hu), rfl⟩
  · intro u other hu
    by_cases hut : u = t
    · subst hut
      rw [Forwarding.tasks_goto_self] at hu
      cases hu
    · rw [hother u hut] at hu
      have hmem := h.storing u other hu
      rw [hpending] at hmem
      exact (List.mem_cons.mp hmem).resolve_left hut
  · exact hnodup

/-- A step of a task. The write and the critical section count; the other steps are between calls or
    before the write. -/
theorem inv_taskStep (h : s.Inv init) {a : TaskAction} (horder : InOrder aton s (.task t a))
    (hstep : s.fwd.taskStep aton t a = some fwd) :
    (({ s with fwd := fwd } : Updates).record t a).Inv init := by
  have hupdate : ∀ call u, u ≠ t → Function.update s.calls t call u = s.calls u :=
    fun _ _ hu => Function.update_of_ne hu _ _
  cases Forwarding.taskStep_cases hstep with
  | setAll hphase => exact h.goto rfl rfl (by simp [hphase]) (by simp) (hupdate _)
  | @noSuchRule i enabled hphase =>
    -- the call ends where it began
    have hinv : ({ s with
        fwd := s.fwd.goto t .idle
        calls := Function.update s.calls t (.setEnabled i enabled) } : Updates).Inv init :=
      h.goto rfl rfl (by simp [hphase]) (by simp) (hupdate _)
    rw [← hphase, Forwarding.goto_self] at hinv
    exact hinv
  | setEnabled hphase => exact h.goto rfl rfl (by simp [hphase]) (by simp) (hupdate _)
  | checked hphase hpass =>
    rw [record, Forwarding.tasks_goto_self]
    exact h.write hphase (horder _ (by rw [hphase]; rfl) hpass rfl)
  | refused hphase =>
    rw [record, Forwarding.tasks_goto_self]
    exact h.goto rfl rfl (by simp [hphase]) (by simp) fun _ _ => rfl
  | @store rules views hphase =>
    exact h.store hphase horder (Forwarding.rules_fresh aton views rules) rfl
  | @managerPass views ph hphase hph =>
    refine h.goto (resolveAll_quieter aton views s.fwd.slots).rules rfl (by simp [hphase]) ?_
      fun _ _ => rfl
    rcases hph with rfl | rfl <;> simp
  | portmapRefused => exact h
  | portmapSetAll hphase => exact h.goto rfl rfl (by simp [hphase]) (by simp) fun _ _ => rfl
  | portmapClear hphase =>
    have hcleared : ({ s.fwd with table := [] } : Forwarding).tasks = s.fwd.tasks := rfl
    exact h.goto rfl hcleared (by simp [hphase]) (by simp) fun _ _ => rfl
  | @portmapPut e rest table hphase =>
    have hput : ({ s.fwd with table := table } : Forwarding).tasks = s.fwd.tasks := rfl
    exact h.goto rfl hput (by simp [hphase]) (by simp) fun _ _ => rfl
  | @portmapStore nvs ph hphase hph =>
    refine h.goto rfl rfl (by simp [hphase]) ?_ fun _ _ => rfl
    rcases hph with rfl | rfl <;> simp
  | gotIp hphase => exact h.goto rfl rfl (by simp [hphase]) (by simp) fun _ _ => rfl
  | @installAll _ n hphase =>
    have hqueued : ({ s.fwd with queued := n } : Forwarding).tasks = s.fwd.tasks := rfl
    exact h.goto rfl hqueued (by simp [hphase]) (by simp) fun _ _ => rfl

/-- A step of the installation changes neither the rules nor the tasks. -/
theorem installStep_frame {t : Forwarding} {a : InstallAction} (h : fwd.installStep a = some t) :
    t.slots.map Slot.rule = fwd.slots.map Slot.rule ∧ t.tasks = fwd.tasks := by
  cases Forwarding.installStep_cases h with
  | prepare => exact ⟨(prepareInstall_quieter fwd.slots).rules, rfl⟩
  | mark => exact ⟨map_rule_markInstalled _ _ _, rfl⟩
  | _ => exact ⟨rfl, rfl⟩

/-- Nor does a packet. -/
theorem packet_frame (fwd : Forwarding) (p : List UInt8) :
    (fwd.packet p).slots.map Slot.rule = fwd.slots.map Slot.rule ∧
      (fwd.packet p).tasks = fwd.tasks := by
  have hrules := (allowUplinkPacket_quieter fwd.slots p).rules
  unfold Forwarding.packet
  dsimp only
  split
  · split
    · exact ⟨hrules, rfl⟩
    · exact ⟨hrules, rfl⟩
  · exact ⟨hrules, rfl⟩

/-- **Step lemma.** Tasks, the installation and packets; the last two do not touch the rules. -/
theorem inv_step (h : s.Inv init) {a : ForwardAction} (horder : InOrder aton s a)
    (hstep : s.step aton a = some s') : s'.Inv init := by
  -- What keeps the rules and the tasks keeps the invariant.
  have hframe : ∀ fwd : Forwarding, fwd.slots.map Slot.rule = s.rules → fwd.tasks = s.fwd.tasks →
      ({ s with fwd := fwd } : Updates).Inv init := by
    intro fwd hrules htasks
    apply h.keep hrules
    · intro u _
      exact ⟨congrFun htasks u, rfl⟩
    · rw [htasks]
      exact h.storing
  -- Only tasks write rules; an installation and a packet do not.
  cases a with
  | task t a =>
    obtain ⟨fwd, hfwd, rfl⟩ := Option.map_eq_some_iff.mp hstep
    exact inv_taskStep h horder hfwd
  | install a =>
    obtain ⟨fwd, hfwd, rfl⟩ := Option.map_eq_some_iff.mp hstep
    obtain ⟨hrules, htasks⟩ := installStep_frame hfwd
    exact hframe fwd hrules htasks
  | packet p =>
    obtain rfl := Option.some.inj hstep
    obtain ⟨hrules, htasks⟩ := packet_frame s.fwd p
    exact hframe _ hrules htasks

theorem inv_booted (h : s.Booted) : s.Inv s.rules where
  rules := by rw [h.completed, List.foldl_nil]
  nvs := by
    rw [h.pending]
    exact h.nvs
  chain := by
    rw [h.pending]
    trivial
  storing t rules htask := by
    rw [h.fwd.tasks] at htask
    cases htask
  nodup := by
    rw [h.pending]
    exact List.nodup_nil

/-- **Run lemma.** -/
theorem inv_run {actions : List ForwardAction} (hboot : s.Booted)
    (horder : (machine aton).Meets (InOrder aton) s actions)
    (hrun : (machine aton).run s actions = some s') : s'.Inv s.rules := by
  apply Machine.invariant_of_meets ?_ horder hrun (inv_booted hboot)
  intro u a u' hin hstep hu
  exact inv_step hu hin hstep

end Updates

/-- **No lost update.** In every interleaving in order, whenever no call is between its write to
    NVS and its store, RAM and NVS hold the same rules, and they are what the completed calls
    give one after the other. -/
theorem serial_of_inOrder {aton : List Char → Option Ip4} {s t : Updates}
    {actions : List ForwardAction} (hboot : s.Booted)
    (horder : (Updates.machine aton).Meets (Updates.InOrder aton) s actions)
    (hrun : (Updates.machine aton).run s actions = some t)
    (hquiet : ∀ u rules, t.fwd.tasks u ≠ .storing rules) :
    t.rules = t.nvs ∧ Serial Call.apply s.rules t.completed t.rules := by
  have hinv := Updates.inv_run hboot horder hrun
  have hnone : t.pending = [] := by
    apply List.eq_nil_iff_forall_not_mem.mpr
    intro u hu
    obtain ⟨rules, hstoring⟩ := hinv.chain.storing hu
    exact hquiet u rules hstoring
  constructor
  · have hnvs := hinv.nvs
    rw [hnone] at hnvs
    exact hnvs.symm
  · rw [hinv.rules]
    exact Serial.refl Call.apply s.rules t.completed

/-! ### Two calls -/

/-- A router that boots with one rule. -/
def bootedUpdates : Updates := ⟨bootedForwarding, [sshRule], fun _ => .setAll [], [], []⟩

theorem bootedUpdates_booted : bootedUpdates.Booted :=
  ⟨bootedForwarding_booted, rfl, rfl, rfl⟩

/-- The Tailnet is offline. -/
def offline : Nat → TailnetView := fun _ => ⟨false, false, 0⟩

/-- The rule is switched off, and then all rules are deleted. -/
def switchedThenDeleted : List ForwardAction :=
  [.task 1 (.setEnabled 0 false), .task 1 (.check 80 true), .task 1 (.store offline),
    .task 2 (.setAll []), .task 2 (.check 80 true), .task 2 (.store offline)]

theorem switched_then_deleted :
    ∃ t, (Updates.machine fun _ => none).run bootedUpdates switchedThenDeleted = some t ∧
      t.rules = t.nvs ∧ Serial Call.apply bootedUpdates.rules t.completed t.rules := by
  have horder : (Updates.machine fun _ => none).Meets (Updates.InOrder fun _ => none)
      bootedUpdates switchedThenDeleted := by
    decide +kernel
  have hpending : ((Updates.machine fun _ => none).run bootedUpdates switchedThenDeleted).map
      Updates.pending = some [] := by
    decide +kernel
  obtain ⟨t, hrun, hnone⟩ := Option.map_eq_some_iff.mp hpending
  refine ⟨t, hrun, serial_of_inOrder bootedUpdates_booted horder hrun fun u rules htask => ?_⟩
  have hmem := (Updates.inv_run bootedUpdates_booted horder hrun).storing u rules htask
  rw [hnone] at hmem
  cases hmem

/-- The rule is switched off in a copy; before that is written, all rules are deleted. -/
def deletedThenSwitched : List ForwardAction :=
  [.task 1 (.setEnabled 0 false), .task 2 (.setAll []), .task 2 (.check 80 true),
    .task 2 (.store offline), .task 1 (.check 80 true), .task 1 (.store offline)]

/-- **The deleted rule is back**, which no order of the two calls gives. -/
theorem switched_rule_returns :
    ((Updates.machine fun _ => none).run bootedUpdates deletedThenSwitched).map
        (fun t => (t.rules, t.nvs, t.completed, t.pending)) =
      some ([{ sshRule with enabled := false }], [{ sshRule with enabled := false }],
        [.setAll [], .setEnabled 0 false], []) ∧
      ¬ Serial Call.apply bootedUpdates.rules [.setAll [], .setEnabled 0 false]
        [{ sshRule with enabled := false }] := by
  decide +kernel

end SubnetRouter.TailnetForward
