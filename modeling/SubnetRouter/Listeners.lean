import Mathlib.Data.List.Nodup
import SubnetRouter.Lib.Run
import SubnetRouter.ForwardRuns

namespace SubnetRouter.Listeners

open SubnetRouter.Lib
open SubnetRouter.TailnetForward

/-!
# Who listens on the uplink

Three tables claim ports of the uplink address: the AP-side port maps (`main/portmap.c`), the
enabled rules (`main/tailnet_forward.c`) and the port of the Web UI (`system_save_handler` in
`main/web_ui.c`).  A save checks its own table against the other two, as they are in RAM; a
restart loads both tables from NVS.

* `Owners`, `step` — the three tables, in RAM and in NVS, and their saves.
* `ClearsFlash` — what a save stores is in no conflict with the AP-side table in NVS either.
* `conflictFree_of_clearsFlash` — then no two listeners ever share a port.
* `calls_tailnetForwardSetAll`, `calls_portmapSetAll` — a save is what the steps of
  `ForwardRuns` make when a task runs alone.
* `stale_table_returns` — a table in NVS that a failed write has left behind.
-/

/-! ### Tables and saves -/

/-- `s_table`, `s_rules` and the keys of NVS. RAM and NVS are kept apart, as a write may fail when
    RAM has changed already. -/
structure Owners where
  table : List PortmapEntry
  nvsTable : List PortmapEntry
  rules : List Rule
  nvsRules : List Rule
  /-- `web_port`, if it has been saved. -/
  webPort : Option Nat
deriving DecidableEq

/-- `web_ui_configured_port`. -/
def Owners.webUiConfiguredPort (s : Owners) : Nat :=
  match s.webPort with
  | some port => if port = 0 then 80 else port
  | none => 80

/-- The saves; `ok` tells whether the write to NVS succeeds. A restart loads what is in NVS. -/
inductive Act where
  | portmapSetAll (arr : List PortmapEntry) (ok : Bool)
  | tailnetForwardSetAll (rules : List Rule) (ok : Bool)
  | tailnetForwardSetEnabled (i : Nat) (enabled : Bool) (ok : Bool)
  | webPort (requested : Nat) (ok : Bool)
  | reboot
deriving DecidableEq

section Saves

variable (aton : List Char → Option Ip4) (s : Owners)

/-- `portmap_set_all`: the table in RAM is replaced before the write. A conflict leaves both
    alone. -/
def portmapSetAll (arr : List PortmapEntry) (ok : Bool) : Owners :=
  let arr := arr.take portmapMax
  if portmapConflict (Forwarding.freshSlots s.rules) s.webUiConfiguredPort [] arr then s
  else { s with
    table := portmapFill arr
    nvsTable := if ok then portmapFill arr else s.nvsTable }

/-- `tailnet_forward_set_all`: the rules in RAM are replaced after the write. -/
def tailnetForwardSetAll (rules : List Rule) (ok : Bool) : Owners :=
  if setAllError aton (portmapListenConflicts s.table) s.webUiConfiguredPort rules = none ∧ ok then
    { s with rules := rules, nvsRules := rules }
  else s

/-- The rules as `tailnet_forward_set_enabled` edits them. -/
def switched (i : Nat) (enabled : Bool) : Option (List Rule) :=
  s.rules[i]?.map fun rule => s.rules.set i { rule with enabled := enabled }

/-- The port as `system_save_handler` saves it. It goes to NVS alone, and is checked against what is
    in RAM. -/
def saveWebPort (requested : Nat) (ok : Bool) : Owners :=
  if requested < 1 ∨ 65535 < requested then s
  else if portmapListenConflicts s.table 6 requested ||
      tailnetForwardListenConflicts (Forwarding.freshSlots s.rules) 6 requested then s
  else { s with webPort := if ok then some requested else s.webPort }

/-- One save, or a restart. Each of them runs to its end here; how they overlap is the matter of
    `Forwarding`. -/
def step : Act → Owners
  | .portmapSetAll arr ok => portmapSetAll s arr ok
  | .tailnetForwardSetAll rules ok => tailnetForwardSetAll aton s rules ok
  | .tailnetForwardSetEnabled i enabled ok =>
    match switched s i enabled with
    | none => s
    | some rules => tailnetForwardSetAll aton s rules ok
  | .webPort requested ok => saveWebPort s requested ok
  | .reboot => { s with table := s.nvsTable, rules := s.nvsRules }

end Saves

/-- The saves as a machine. -/
def machine (aton : List Char → Option Ip4) : Machine Owners Act :=
  ⟨fun s a => some (step aton s a)⟩

/-! ### Conflicts -/

/-- The ports of the valid entries. -/
def apListeners (table : List PortmapEntry) : List (UInt8 × Nat) :=
  (table.filter PortmapEntry.valid).map fun e => (e.proto, e.extPort)

/-- The ports of the enabled rules. -/
def ruleListeners (rules : List Rule) : List (UInt8 × Nat) :=
  (rules.filter fun r => r.valid && r.enabled).map fun r => (r.proto, r.listenPort)

/-- All listeners, the Web UI last. -/
def listeners (table : List PortmapEntry) (rules : List Rule) (webUiPort : Nat) :
    List (UInt8 × Nat) :=
  apListeners table ++ (ruleListeners rules ++ [(6, webUiPort)])

/-- No two listeners share a protocol and port. -/
def ConflictFree (s : Owners) : Prop :=
  (listeners s.table s.rules s.webUiConfiguredPort).Nodup

/-- If the list is accepted, none of its rules is in conflict with the AP-side table in NVS. -/
def RulesClear (aton : List Char → Option Ip4) (s : Owners) (rules : List Rule) : Prop :=
  setAllError aton (portmapListenConflicts s.table) s.webUiConfiguredPort rules = none →
    ∀ r ∈ rules, r.enabled = true → portmapListenConflicts s.nvsTable r.proto r.listenPort = false

/-- What is saved in NVS is in no conflict with the AP-side table there. The table in RAM is what
    the saves look at, and NVS may hold another one after a failed write. -/
def ClearsFlash (aton : List Char → Option Ip4) (s : Owners) : Act → Prop
  | .tailnetForwardSetAll rules ok => ok = true → RulesClear aton s rules
  | .tailnetForwardSetEnabled i enabled ok =>
    ok = true → ∀ rules ∈ switched s i enabled, RulesClear aton s rules
  | .webPort requested ok =>
    ok = true → portmapListenConflicts s.table 6 requested = false →
      portmapListenConflicts s.nvsTable 6 requested = false
  | _ => True

instance (aton : List Char → Option Ip4) (s : Owners) (rules : List Rule) :
    Decidable (RulesClear aton s rules) :=
  inferInstanceAs (Decidable (_ → ∀ r ∈ rules, r.enabled = true → _))

instance (aton : List Char → Option Ip4) (s : Owners) :
    (a : Act) → Decidable (ClearsFlash aton s a)
  | .tailnetForwardSetAll _ ok => inferInstanceAs (Decidable (ok = true → _))
  | .tailnetForwardSetEnabled i enabled ok =>
    inferInstanceAs (Decidable (ok = true → ∀ rules ∈ switched s i enabled, _))
  | .webPort _ ok => inferInstanceAs (Decidable (ok = true → _ → _))
  | .portmapSetAll _ _ => .isTrue trivial
  | .reboot => .isTrue trivial

/-! ### Listeners of each table -/

variable {table : List PortmapEntry} {rules : List Rule} {proto : UInt8} {port webUiPort : Nat}

/-- `portmap_listen_conflicts` looks for a listener. -/
theorem mem_apListeners :
    (proto, port) ∈ apListeners table ↔ portmapListenConflicts table proto port = true := by
  simp only [apListeners, portmapListenConflicts, List.mem_map, List.mem_filter, List.any_eq_true,
    Bool.and_eq_true, beq_iff_eq, Prod.mk.injEq, and_assoc]

/-- `tailnet_forward_listen_conflicts` looks for a listener. -/
theorem mem_ruleListeners : (proto, port) ∈ ruleListeners rules ↔
    tailnetForwardListenConflicts (Forwarding.freshSlots rules) proto port = true := by
  simp only [ruleListeners, tailnetForwardListenConflicts, Forwarding.freshSlots, Rule.listens,
    List.mem_map, List.mem_filter, List.any_map, List.any_eq_true, Function.comp_apply,
    Bool.and_eq_true, beq_iff_eq, Prod.mk.injEq, and_assoc]

/-- Three tables without a conflict within and between them. -/
theorem listeners_nodup_iff : (listeners table rules webUiPort).Nodup ↔
    (apListeners table).Nodup ∧ (ruleListeners rules).Nodup ∧
      (6, webUiPort) ∉ ruleListeners rules ∧
      (∀ key ∈ ruleListeners rules, key ∉ apListeners table) ∧
      (6, webUiPort) ∉ apListeners table := by
  rw [listeners, List.nodup_append, List.nodup_append]
  simp only [List.mem_append, List.mem_singleton, List.nodup_singleton, true_and]
  constructor
  · rintro ⟨hap, ⟨hrules, hweb⟩, hapart⟩
    refine ⟨hap, hrules, fun hmem => hweb _ hmem _ rfl rfl, ?_, ?_⟩
    · exact fun key hkey hmem => hapart key hmem key (.inl hkey) rfl
    · exact fun hmem => hapart _ hmem _ (.inr rfl) rfl
  · rintro ⟨hap, hrules, hweb, hapart, hwebAp⟩
    refine ⟨hap, ⟨hrules, ?_⟩, ?_⟩
    · rintro key hkey _ rfl rfl
      exact hweb hkey
    · rintro key hkey other (hother | rfl) rfl
      · exact hapart key hother hkey
      · exact hwebAp hkey

/-- Enabled rules that are apart listen on different ports. -/
theorem ruleListeners_nodup (h : rules.Pairwise Rule.Apart) : (ruleListeners rules).Nodup := by
  rw [ruleListeners, List.Nodup, List.pairwise_map, List.pairwise_filter]
  refine h.imp fun hapart ha hb heq => hapart ?_
  simp only [Bool.and_eq_true] at ha hb
  rw [Prod.mk.injEq] at heq
  exact ⟨ha.2, hb.2, heq.1, heq.2⟩

/-- The listeners of a table that was filled. -/
theorem apListeners_fill (arr : List PortmapEntry) : apListeners (portmapFill arr) =
    (arr.filter PortmapEntry.isFilled).map fun e => (e.proto, e.extPort) := by
  have hvalid : (portmapFill arr).filter PortmapEntry.valid = portmapFill arr := by
    rw [List.filter_eq_self]
    intro e he
    obtain ⟨_, -, rfl⟩ := List.mem_map.mp he
    rfl
  rw [apListeners, hvalid, portmapFill, List.map_map]
  rfl

/-- What the checks of `portmap_set_all` leave: entries that are apart from the rules, from the Web
    UI, and from each other. -/
theorem of_portmapConflict {slots : List Slot} {before arr : List PortmapEntry}
    (h : portmapConflict slots webUiPort before arr = false) :
    (∀ e ∈ arr, e.isFilled = true →
      tailnetForwardListenConflicts slots e.proto e.extPort = false ∧
        ¬ (e.proto = 6 ∧ e.extPort = webUiPort) ∧
        ∀ b ∈ before, b.isFilled = true → (b.proto, b.extPort) ≠ (e.proto, e.extPort)) ∧
      ((arr.filter PortmapEntry.isFilled).map fun e => (e.proto, e.extPort)).Nodup := by
  induction arr generalizing before with
  | nil => simp
  | cons e rest ih =>
    rw [portmapConflict] at h
    split_ifs at h with hconflict
    obtain ⟨hrest, hnodup⟩ := ih h
    have hthis : e.isFilled = true →
        tailnetForwardListenConflicts slots e.proto e.extPort = false ∧
          ¬ (e.proto = 6 ∧ e.extPort = webUiPort) ∧
          ∀ b ∈ before, b.isFilled = true → (b.proto, b.extPort) ≠ (e.proto, e.extPort) := by
      intro hfilled
      rw [hfilled, Bool.true_and, Bool.or_eq_true, Bool.or_eq_true, not_or, not_or,
        Bool.not_eq_true, Bool.and_eq_true, beq_iff_eq, beq_iff_eq, List.any_eq_true] at hconflict
      refine ⟨hconflict.1.1, hconflict.1.2, fun b hb hbfilled heq => hconflict.2 ⟨b, hb, ?_⟩⟩
      rw [Prod.mk.injEq] at heq
      simp [hbfilled, heq]
    refine ⟨?_, ?_⟩
    -- an entry further on has been compared with more than `before`
    · rw [List.forall_mem_cons]
      refine ⟨hthis, fun e' he' hfilled => ?_⟩
      obtain ⟨hrules, hweb, hbefore⟩ := hrest e' he' hfilled
      exact ⟨hrules, hweb, fun b hb => hbefore b (List.mem_append_left _ hb)⟩
    · rw [List.filter_cons]
      split_ifs with hfilled
      · rw [List.map_cons, List.nodup_cons]
        refine ⟨?_, hnodup⟩
        intro hmem
        obtain ⟨e', he', heq⟩ := List.mem_map.mp hmem
        obtain ⟨hin, hfilled'⟩ := List.mem_filter.mp he'
        -- the entries behind are compared with this one
        exact (hrest e' hin hfilled').2.2 e (List.mem_append_right _ (List.mem_singleton_self e))
          hfilled heq.symm
      · exact hnodup

/-! ### Saves -/

/-- Neither the tables in RAM nor those that a restart would load are in conflict, and the rules
    in RAM are those in NVS. -/
structure Inv (s : Owners) : Prop where
  ram : ConflictFree s
  flash : (listeners s.nvsTable s.rules s.webUiConfiguredPort).Nodup
  rules : s.nvsRules = s.rules

variable {aton : List Char → Option Ip4} {s : Owners}

/-- A table that passes its checks claims no port of the rules or the Web UI. -/
theorem listeners_fill {arr : List PortmapEntry} (h : Inv s)
    (hpass : portmapConflict (Forwarding.freshSlots s.rules) s.webUiConfiguredPort [] arr
      = false) :
    (listeners (portmapFill arr) s.rules s.webUiConfiguredPort).Nodup := by
  obtain ⟨hentries, hnodup⟩ := of_portmapConflict hpass
  obtain ⟨-, hrules, hweb, -, -⟩ := listeners_nodup_iff.mp h.ram
  rw [listeners_nodup_iff, apListeners_fill]
  refine ⟨hnodup, hrules, hweb, ?_, ?_⟩
  · rintro ⟨proto, port⟩ hkey hmem
    obtain ⟨e, he, heq⟩ := List.mem_map.mp hmem
    obtain ⟨hin, hfilled⟩ := List.mem_filter.mp he
    obtain ⟨rfl, rfl⟩ := Prod.mk.inj heq
    rw [mem_ruleListeners, (hentries e hin hfilled).1] at hkey
    cases hkey
  · intro hmem
    obtain ⟨e, he, heq⟩ := List.mem_map.mp hmem
    obtain ⟨hin, hfilled⟩ := List.mem_filter.mp he
    exact (hentries e hin hfilled).2.1 (Prod.mk.inj heq)

/-- `portmap_set_all`. -/
theorem inv_portmapSetAll (h : Inv s) (arr : List PortmapEntry) (ok : Bool) :
    Inv (portmapSetAll s arr ok) := by
  unfold portmapSetAll
  dsimp only
  split_ifs with hconflict hok
  · exact h
  · have hnew := listeners_fill h (Bool.eq_false_iff.mpr hconflict)
    exact ⟨hnew, hnew, h.rules⟩
  -- the table in NVS is still the old one
  · have hnew := listeners_fill h (Bool.eq_false_iff.mpr hconflict)
    exact ⟨hnew, h.flash, h.rules⟩

/-- An accepted list next to a table that it is in no conflict with. So no protocol and port is
    listened on twice. -/
theorem listeners_rules (hap : (apListeners table).Nodup)
    (hwebAp : (6, s.webUiConfiguredPort) ∉ apListeners table)
    (hpass : setAllError aton (portmapListenConflicts s.table) s.webUiConfiguredPort rules = none)
    (hclear : ∀ r ∈ rules, r.enabled = true →
      portmapListenConflicts table r.proto r.listenPort = false) :
    (listeners table rules s.webUiConfiguredPort).Nodup := by
  -- Every listener of a rule comes from an enabled one.
  have hsource : ∀ key ∈ ruleListeners rules, ∃ r ∈ rules, r.enabled = true ∧
      (r.proto, r.listenPort) = key := by
    intro key hkey
    obtain ⟨r, hr, heq⟩ := List.mem_map.mp hkey
    obtain ⟨hin, hlistens⟩ := List.mem_filter.mp hr
    exact ⟨r, hin, (Bool.and_eq_true_iff.mp hlistens).2, heq⟩
  rw [listeners_nodup_iff]
  refine ⟨hap, ruleListeners_nodup (pairwise_of_setAllError hpass), ?_, ?_, hwebAp⟩
  -- The check of a rule has excluded the port of the web page.
  · intro hmem
    obtain ⟨r, hin, henabled, heq⟩ := hsource _ hmem
    obtain ⟨before, hcheck⟩ := checkRule_of_setAllError hpass r hin
    exact ((of_checkRule hcheck).2 henabled).2 (Prod.mk.inj heq)
  · intro key hkey hmem
    obtain ⟨r, hin, henabled, rfl⟩ := hsource key hkey
    -- The table has no entry for it.
    rw [mem_apListeners, hclear r hin henabled] at hmem
    cases hmem

/-- `tailnet_forward_set_all`. -/
theorem inv_tailnetForwardSetAll (h : Inv s) {ok : Bool}
    (hclear : ok = true → RulesClear aton s rules) :
    Inv (tailnetForwardSetAll aton s rules ok) := by
  unfold tailnetForwardSetAll
  split_ifs with hpass
  · obtain ⟨hpass, hok⟩ := hpass
    obtain ⟨hap, -, -, -, hwebAp⟩ := listeners_nodup_iff.mp h.ram
    obtain ⟨hnvs, -, -, -, hwebNvs⟩ := listeners_nodup_iff.mp h.flash
    refine ⟨?_, ?_, rfl⟩
    -- against the table in RAM the code has checked; against that in NVS it has not
    · apply listeners_rules hap hwebAp hpass
      intro r hr henabled
      obtain ⟨before, hcheck⟩ := checkRule_of_setAllError hpass r hr
      exact ((of_checkRule hcheck).2 henabled).1
    · exact listeners_rules hnvs hwebNvs hpass (hclear hok hpass)
  · exact h

/-- A port for the Web UI that is in no conflict. -/
theorem listeners_webPort {webUiPort' : Nat} (h : (listeners table rules webUiPort).Nodup)
    (hrules : (6, webUiPort') ∉ ruleListeners rules) (hap : (6, webUiPort') ∉ apListeners table) :
    (listeners table rules webUiPort').Nodup := by
  rw [listeners_nodup_iff] at h ⊢
  exact ⟨h.1, h.2.1, hrules, h.2.2.2.1, hap⟩

/-- The port of the Web UI. It is saved only if neither table listens on it, and the condition
    extends that to the table in NVS. -/
theorem inv_saveWebPort (h : Inv s) {requested : Nat} {ok : Bool}
    (hclear : ok = true → portmapListenConflicts s.table 6 requested = false →
      portmapListenConflicts s.nvsTable 6 requested = false) :
    Inv (saveWebPort s requested ok) := by
  unfold saveWebPort
  split_ifs with hrange hconflict hok
  · exact h
  · exact h
  · rw [not_or, Nat.not_lt, Nat.not_lt] at hrange
    rw [Bool.or_eq_true, not_or, Bool.not_eq_true] at hconflict
    have hport : ({ s with webPort := some requested } : Owners).webUiConfiguredPort =
        requested := by
      show (if requested = 0 then 80 else requested) = requested
      rw [if_neg (by omega)]
    -- nobody else listens on the new port
    have hrules : (6, requested) ∉ ruleListeners s.rules := by
      rw [mem_ruleListeners]
      exact hconflict.2
    have hfree : ∀ table, portmapListenConflicts table 6 requested = false →
        (6, requested) ∉ apListeners table := by
      intro table hfree
      rw [mem_apListeners, hfree]
      exact Bool.false_ne_true
    refine ⟨?_, ?_, h.rules⟩
    · show (listeners s.table s.rules
        ({ s with webPort := some requested } : Owners).webUiConfiguredPort).Nodup
      rw [hport]
      exact listeners_webPort h.ram hrules (hfree s.table hconflict.1)
    · show (listeners s.nvsTable s.rules
        ({ s with webPort := some requested } : Owners).webUiConfiguredPort).Nodup
      rw [hport]
      exact listeners_webPort h.flash hrules (hfree s.nvsTable (hclear hok hconflict.1))
  · exact h

/-- **Step lemma.** -/
theorem inv_step (h : Inv s) {a : Act} (hclear : ClearsFlash aton s a) : Inv (step aton s a) := by
  cases a with
  | portmapSetAll arr ok => exact inv_portmapSetAll h arr ok
  | tailnetForwardSetAll rules ok => exact inv_tailnetForwardSetAll h hclear
  | tailnetForwardSetEnabled i enabled ok =>
    show Inv (match switched s i enabled with
      | none => s
      | some rules => tailnetForwardSetAll aton s rules ok)
    -- the edited copy goes through the checks of `tailnet_forward_set_all`
    cases hswitched : switched s i enabled with
    | none => exact h
    | some rules => exact inv_tailnetForwardSetAll h fun hok => hclear hok rules hswitched
  | webPort requested ok => exact inv_saveWebPort h hclear
  | reboot =>
    have hrules := h.rules
    refine ⟨?_, ?_, rfl⟩
    · show (listeners s.nvsTable s.nvsRules s.webUiConfiguredPort).Nodup
      rw [hrules]
      exact h.flash
    · show (listeners s.nvsTable s.nvsRules s.webUiConfiguredPort).Nodup
      rw [hrules]
      exact h.flash

/-- A router that starts with the tables from NVS, which are in no conflict. -/
structure Booted (s : Owners) : Prop where
  table : s.nvsTable = s.table
  rules : s.nvsRules = s.rules
  free : ConflictFree s

/-- **Listener conflict freedom.** As long as what is saved clears the AP-side table in NVS, no
    two listeners share a protocol and port, over failed writes and restarts. -/
theorem conflictFree_of_clearsFlash {t : Owners} {acts : List Act} (hboot : Booted s)
    (hclear : (machine aton).Meets (ClearsFlash aton) s acts)
    (hrun : (machine aton).run s acts = some t) : ConflictFree t := by
  have hinv : Inv t := by
    refine Machine.invariant_of_meets ?_ hclear hrun ⟨hboot.free, ?_, hboot.rules⟩
    · intro u a u' hclears hstep hu
      obtain rfl := Option.some.inj hstep
      exact inv_step hu hclears
    · rw [hboot.table]
      exact hboot.free
  exact hinv.ram

/-! ### The calls of the stepwise model -/

/-- The two models have the same tables in RAM. -/
def Agrees (f : Forwarding) (s : Owners) : Prop :=
  f.table = s.table ∧ f.slots.map Slot.rule = s.rules

/-- Task `t` makes a call and runs to its end, alone; the tables are those of `s'` then. It connects
    these one-step saves to the steps of the tasks. -/
def Calls (aton : List Char → Option Ip4) (f : Forwarding) (t : Nat) (call : TaskAction)
    (s' : Owners) : Prop :=
  ∃ (steps : List TaskAction) (g : Forwarding), (Forwarding.machine aton).run f
      (.task t call :: steps.map (ForwardAction.task t)) = some g ∧
    Agrees g s' ∧ (g.tasks t = .idle ∨ g.tasks t = .installing)

variable {f : Forwarding} {t : Nat}

/-- The conflict check reads the rules alone. -/
theorem Agrees.listenConflicts (h : Agrees f s) :
    tailnetForwardListenConflicts (Forwarding.freshSlots s.rules) =
      tailnetForwardListenConflicts f.slots := by
  ext proto port
  rw [← h.2]
  simp only [tailnetForwardListenConflicts, Forwarding.freshSlots, List.any_map, Function.comp_def]

/-- Behind the copy of the rules, both models do the same. A list that is refused ends the call, and
    the other steps are those of a save that runs alone. -/
theorem agrees_check (h : Agrees f s) (hphase : f.tasks t = .checking rules) (ok : Bool) :
    ∃ (steps : List TaskAction) (g : Forwarding),
      (Forwarding.machine aton).run f (steps.map (ForwardAction.task t)) = some g ∧
      Agrees g (tailnetForwardSetAll aton s rules ok) ∧
        (g.tasks t = .idle ∨ g.tasks t = .installing) := by
  unfold tailnetForwardSetAll
  split_ifs with hpass
  · obtain ⟨hpass, rfl⟩ := hpass
    -- the resolution of the new slots does not matter here
    obtain ⟨views⟩ : Nonempty (Nat → TailnetView) := ⟨fun _ => ⟨false, false, 0⟩⟩
    have hcheck : f.taskStep aton t (.check s.webUiConfiguredPort true)
        = some (f.goto t (.storing rules)) := by
      unfold Forwarding.taskStep
      rw [hphase]
      simp only [h.1, hpass]
    have hstore : (f.goto t (.storing rules)).taskStep aton t (.store views)
        = some ({ f.goto t (.storing rules) with
            slots := resolveAll aton views (Forwarding.freshSlots rules) }.goto t .installing) := by
      unfold Forwarding.taskStep
      rw [Forwarding.tasks_goto_self]
      rfl
    refine ⟨[.check s.webUiConfiguredPort true, .store views], _,
      Machine.run_cons.mpr ⟨_, hcheck, Machine.run_cons.mpr ⟨_, hstore, rfl⟩⟩, ⟨h.1, ?_⟩,
      .inr (Forwarding.tasks_goto_self _ t _)⟩
    exact Forwarding.rules_fresh aton _ rules
  · have hcheck : f.taskStep aton t (.check s.webUiConfiguredPort ok) = some (f.goto t .idle) := by
      unfold Forwarding.taskStep
      rw [hphase]
      simp only [h.1]
      split
      · rename_i hnone
        exact absurd ⟨hnone, rfl⟩ hpass
      · rfl
    exact ⟨[.check s.webUiConfiguredPort ok], _, Machine.run_cons.mpr ⟨_, hcheck, rfl⟩, h,
      .inl (Forwarding.tasks_goto_self f t _)⟩

/-- A call that ends up at the checks. -/
theorem calls_of_checking {call : TaskAction} (h : Agrees f s)
    (hcall : f.taskStep aton t call = some (f.goto t (.checking rules))) (ok : Bool) :
    Calls aton f t call (tailnetForwardSetAll aton s rules ok) := by
  have hgoto : Agrees (f.goto t (.checking rules)) s := h
  obtain ⟨steps, g, hrun, hagrees, hdone⟩ :=
    agrees_check hgoto (Forwarding.tasks_goto_self f t _) ok
  exact ⟨steps, g, Machine.run_cons.mpr ⟨_, hcall, hrun⟩, hagrees, hdone⟩

/-- **The rules' two calls** do in steps what they do here at once. -/
theorem calls_tailnetForwardSetAll (h : Agrees f s) (hidle : f.tasks t = .idle)
    (rules : List Rule) (ok : Bool) :
    Calls aton f t (.setAll rules) (step aton s (.tailnetForwardSetAll rules ok)) := by
  apply calls_of_checking h
  unfold Forwarding.taskStep
  rw [hidle]

theorem calls_tailnetForwardSetEnabled (h : Agrees f s) (hidle : f.tasks t = .idle) (i : Nat)
    (enabled ok : Bool) :
    Calls aton f t (.setEnabled i enabled)
      (step aton s (.tailnetForwardSetEnabled i enabled ok)) := by
  show Calls aton f t (.setEnabled i enabled) (match switched s i enabled with
    | none => s
    | some rules => tailnetForwardSetAll aton s rules ok)
  -- The rule that is switched is the one in the slot.
  have hrule : s.rules[i]? = f.slots[i]?.map Slot.rule := by rw [← h.2, List.getElem?_map]
  unfold switched
  rw [hrule]
  cases hslot : f.slots[i]? with
  -- No such rule: the call returns, and nothing changes.
  | none =>
    have hcall : f.taskStep aton t (.setEnabled i enabled) = some f := by
      unfold Forwarding.taskStep
      rw [hidle]
      simp only [hslot]
    exact ⟨[], f, Machine.run_cons.mpr ⟨_, hcall, rfl⟩, h, .inl hidle⟩
  | some slot =>
    apply calls_of_checking h
    unfold Forwarding.taskStep
    rw [hidle]
    simp only [hslot, h.2]

/-- The checks of `portmap_set_all` read no more of the slots than whom they listen for. -/
theorem Agrees.portmapConflict (h : Agrees f s) (before arr : List PortmapEntry) :
    TailnetForward.portmapConflict f.slots webUiPort before arr =
      TailnetForward.portmapConflict (Forwarding.freshSlots s.rules) webUiPort before arr := by
  induction arr generalizing before with
  | nil => rfl
  | cons e rest ih =>
    rw [TailnetForward.portmapConflict, TailnetForward.portmapConflict, h.listenConflicts,
      ih (before ++ [e])]

/-- The AP-side table after one more entry. -/
theorem portmapFill_cons (table : List PortmapEntry) (e : PortmapEntry)
    (rest : List PortmapEntry) :
    (if e.isFilled then table ++ [{ e with valid := true }] else table) ++ portmapFill rest =
      table ++ portmapFill (e :: rest) := by
  unfold portmapFill
  split_ifs with hfilled
  · rw [List.filter_cons_of_pos hfilled, List.map_cons, List.append_assoc, List.singleton_append]
  · rw [List.filter_cons_of_neg hfilled]

/-- The loop fills the table entry by entry, and leaves the rules alone. -/
theorem run_portmapPut (aton : List Char → Option Ip4) {f : Forwarding} {t : Nat}
    {arr : List PortmapEntry} (hphase : f.tasks t = .portmapFilling arr) :
    ∃ g, (Forwarding.machine aton).run f
        ((List.replicate arr.length TaskAction.portmapPut).map (ForwardAction.task t)) = some g ∧
      g.table = f.table ++ portmapFill arr ∧ g.slots = f.slots ∧
        g.tasks t = .portmapFilling [] := by
  induction arr generalizing f with
  | nil => exact ⟨f, rfl, (List.append_nil f.table).symm, rfl, hphase⟩
  | cons e rest ih =>
    -- An entry that is not filled is left out of the table by both.
    generalize htable :
      (if e.isFilled then f.table ++ [{ e with valid := true }] else f.table) = table
    have hput : f.taskStep aton t .portmapPut =
        some ({ f with table := table }.goto t (.portmapFilling rest)) := by
      unfold Forwarding.taskStep
      rw [hphase, ← htable]
    obtain ⟨g, hrun, hfilled, hslots, htask⟩ :=
      ih (Forwarding.tasks_goto_self { f with table := table } t _)
    refine ⟨g, Machine.run_cons.mpr ⟨_, hput, hrun⟩, ?_, hslots, htask⟩
    rw [← portmapFill_cons, htable]
    exact hfilled

/-- **The AP-side call** likewise: a conflict ends it, and otherwise the table is cleared, filled
    entry by entry, and written. -/
theorem calls_portmapSetAll (h : Agrees f s) (hidle : f.tasks t = .idle)
    (arr : List PortmapEntry) (ok : Bool) :
    Calls aton f t (.portmapSetAll arr s.webUiConfiguredPort)
      (step aton s (.portmapSetAll arr ok)) := by
  show Calls aton f t _ (portmapSetAll s arr ok)
  have hstep : f.taskStep aton t (.portmapSetAll arr s.webUiConfiguredPort) =
      if TailnetForward.portmapConflict (Forwarding.freshSlots s.rules) s.webUiConfiguredPort []
          (arr.take portmapMax) then some f
      else some (f.goto t (.portmapStoring (arr.take portmapMax))) := by
    unfold Forwarding.taskStep
    rw [hidle]
    simp only [h.portmapConflict]
  unfold portmapSetAll
  dsimp only
  by_cases hconflict : TailnetForward.portmapConflict (Forwarding.freshSlots s.rules)
      s.webUiConfiguredPort [] (arr.take portmapMax) = true
  · rw [if_pos hconflict] at hstep ⊢
    exact ⟨[], f, Machine.run_cons.mpr ⟨_, hstep, rfl⟩, h, .inl hidle⟩
  · -- the call goes on with the table, entry by entry, the write and maybe the install
    rw [if_neg hconflict] at hstep ⊢
    generalize arr.take portmapMax = arr at hstep ⊢
    have hclear : (f.goto t (.portmapStoring arr)).taskStep aton t .portmapClear =
        some ({ f.goto t (.portmapStoring arr) with table := [] }.goto t
          (.portmapFilling arr)) := by
      unfold Forwarding.taskStep
      rw [Forwarding.tasks_goto_self]
    obtain ⟨g, hrun, hfilled, hslots, hphase⟩ := run_portmapPut aton
      (Forwarding.tasks_goto_self { f.goto t (.portmapStoring arr) with table := [] } t
        (.portmapFilling arr))
    have hstore : g.taskStep aton t (.portmapStore ok) =
        some (g.goto t (if ok then .installing else .idle)) := by
      unfold Forwarding.taskStep
      rw [hphase]
    refine ⟨.portmapClear :: (List.replicate arr.length .portmapPut ++ [.portmapStore ok]),
      g.goto t (if ok then .installing else .idle),
      Machine.run_cons.mpr ⟨_, hstep, Machine.run_cons.mpr ⟨_, hclear, ?_⟩⟩, ⟨hfilled, ?_⟩, ?_⟩
    · rw [List.map_append]
      exact Machine.run_append.mpr ⟨g, hrun, Machine.run_cons.mpr ⟨_, hstore, rfl⟩⟩
    · exact (congrArg (List.map Slot.rule) hslots).trans h.2
    · rw [Forwarding.tasks_goto_self]
      cases ok
      · exact .inl rfl
      · exact .inr rfl

/-! ### A write that fails -/

/-- TCP port 8080 of the uplink, to port 80 of 192.168.4.2. -/
def cameraEntry : PortmapEntry := ⟨6, true, 8080, 80, 0xC0A80402#32⟩

/-- TCP port 8080 of the uplink, to port 80 of a Tailnet host. The conflicts are about its port
    8080. -/
def webRule : Rule :=
  { valid := true
    enabled := true
    proto := 6
    sourcePrefix := 24
    listenPort := 8080
    destinationPort := 80
    sourceNetwork := 0xC0A80100#32
    destination := ['n', 'a', 's'] }

/-- The camera alone. -/
def cameraOwners : Owners := ⟨[cameraEntry], [cameraEntry], [], [], none⟩

theorem cameraOwners_booted : Booted cameraOwners :=
  ⟨rfl, rfl, by unfold ConflictFree; decide⟩

/-- The camera's entry is deleted, and its port goes to the rule. -/
theorem port_handed_over :
    ∃ t, (machine fun _ => none).run cameraOwners
        [.portmapSetAll [] true, .tailnetForwardSetAll [webRule] true, .reboot] = some t ∧
      t.rules = [webRule] ∧ ConflictFree t := by
  have hclear : (machine fun _ => none).Meets (ClearsFlash fun _ => none) cameraOwners
      [.portmapSetAll [] true, .tailnetForwardSetAll [webRule] true, .reboot] := by
    decide +kernel
  exact ⟨_, rfl, by decide +kernel, conflictFree_of_clearsFlash cameraOwners_booted hclear rfl⟩

/-- **The table in NVS returns**: the write of the deletion fails, the rule gets the port, and
    after a restart both listen on it. -/
theorem stale_table_returns :
    Booted cameraOwners ∧
      ∃ t, (machine fun _ => none).run cameraOwners
          [.portmapSetAll [] false, .tailnetForwardSetAll [webRule] true, .reboot] = some t ∧
        t.table = [cameraEntry] ∧ t.rules = [webRule] ∧ ¬ ConflictFree t := by
  refine ⟨cameraOwners_booted, _, rfl, by decide +kernel, by decide +kernel, ?_⟩
  unfold ConflictFree
  decide +kernel

end SubnetRouter.Listeners
