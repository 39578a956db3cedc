import Mathlib.Logic.Function.Basic
import SubnetRouter.Lib.Run
import SubnetRouter.PortMap

namespace SubnetRouter.TailnetForward

open Lib

/-!
# Rules, installation and packets together

Two copies of the rules: the rule table, which the uplink filter reads, and lwIP's port map,
which forwards.  Tasks change the table and ask for a new installation; the installation runs
on the tcpip thread, one critical section after the other, with the tasks and the packets in
between.  A packet is forwarded when the filter accepts it and the map has an entry for its
protocol and port.  The AP-side table has no lock: `portmap_set_all` clears it and fills it entry
by entry, and the installation reads an entry once for the test of `valid`, again for the
mapping and once more for the record.

* `Forwarding.taskStep` — `tailnet_forward_set_all`, `tailnet_forward_set_enabled`, the
  manager, `portmap_set_all`.
* `Forwarding.installStep` — `portmap_install_cb`.
* `Forwarding.packet` — a packet from the uplink.
* `Forwarding.taskStep_cases`, `Forwarding.installStep_cases` — the branches of a step.
-/

/-! ### State -/

/-- Where a task stands that changes one of the tables. Two tasks may be inside `set_all` at once:
    what each of them has checked is only its own. -/
inductive TaskPhase where
  | idle
  /-- In `tailnet_forward_set_all`, before its checks. -/
  | checking (rules : List Rule)
  /-- Behind the checks and the NVS write. -/
  | storing (rules : List Rule)
  /-- In `portmap_set_all`, behind its checks and before `clear_cache`. -/
  | portmapStoring (arr : List PortmapEntry)
  /-- In the loop that fills the table again, with the entries it still has to look at. -/
  | portmapFilling (arr : List PortmapEntry)
  /-- Before `portmap_install_all`. -/
  | installing
deriving DecidableEq, Repr

/-- Where `portmap_install_cb` stands. It runs in the thread of lwIP, while other tasks change the
    tables; every read of `s_table` is a step of its own, as it takes no lock. -/
inductive InstallPhase where
  | idle
  /-- In the loop over `s_installed`. -/
  | removing
  /-- In the loop over the AP-side table, before an entry's `valid` is tested. -/
  | mapping (i : Nat)
  /-- Before `ip_portmap_add`, for which the entry is read again. -/
  | mapAdding (i : Nat)
  /-- Before the entry is recorded in `s_installed`, for which it is read once more; with the
      protocol and port that were mapped. -/
  | mapRecording (i : Nat) (proto : UInt8) (port : Nat)
  /-- In the loop over the Tailnet rules, before `tailnet_forward_get_mapping`. -/
  | reading (i : Nat)
  /-- Before `ip_portmap_add`. -/
  | adding (i : Nat) (rule : Rule) (destination : Ip4)
  /-- Before `tailnet_forward_mark_installed`. -/
  | marking (i : Nat) (rule : Rule) (ok : Bool)
deriving DecidableEq, Repr

/-- The tables, lwIP's map, the keys in `s_installed`, the callbacks queued and the one that
    runs, the tasks; and for the record, the packets forwarded through a Tailnet mapping:
    their source and the rule that the mapping was made from. -/
structure Forwarding where
  slots : List Slot
  table : List PortmapEntry
  map : List Mapping
  installed : List (UInt8 × Nat)
  install : InstallPhase
  bindIp : Ip4
  queued : Nat
  tasks : Nat → TaskPhase
  forwarded : List (Ip4 × Rule)

/-! ### Steps -/

/-- A step of a task. What a critical section does is one step, and the parts of a call outside of
    them are steps by themselves. -/
inductive TaskAction where
  | setAll (rules : List Rule)
  | setEnabled (i : Nat) (enabled : Bool)
  /-- The checks of `tailnet_forward_set_all` and its NVS write. -/
  | check (webUiConfiguredPort : Nat) (nvs : Bool)
  /-- The critical section of `tailnet_forward_set_all`. -/
  | store (views : Nat → TailnetView)
  /-- The critical section of the manager. -/
  | managerPass (views : Nat → TailnetView)
  | portmapSetAll (arr : List PortmapEntry) (webUiConfiguredPort : Nat)
  /-- `clear_cache`. -/
  | portmapClear
  /-- One turn of the loop that fills the table. -/
  | portmapPut
  /-- The NVS write, behind the loop. -/
  | portmapStore (nvs : Bool)
  /-- `IP_EVENT_STA_GOT_IP`. -/
  | gotIp
  /-- `portmap_install_all`; whether the callback can be queued. -/
  | installAll (queued : Bool)

/-- A step of the installation. They come in the order of the source, and lwIP's answers are their
    arguments. -/
inductive InstallAction where
  /-- The start, with the station's address, if it has one. -/
  | start (staIp : Option Ip4)
  /-- One `ip_portmap_remove`, or `tailnet_forward_prepare_install` when none is left. -/
  | remove
  /-- A turn of the AP-side loop: the test of `valid`. -/
  | mapAp
  /-- Its `ip_portmap_add`; whether lwIP's map has room. -/
  | addAp (room : Bool)
  /-- Its entry in `s_installed`. -/
  | recordAp
  | read
  | add (room : Bool)
  | mark

/-- A step of the system. Tasks are numbered, and any of them may make any of the calls. -/
inductive ForwardAction where
  | task (t : Nat) (a : TaskAction)
  | install (a : InstallAction)
  /-- A packet from the uplink. -/
  | packet (p : List UInt8)

namespace Forwarding

/-- The task goes on to another phase. -/
def goto (s : Forwarding) (t : Nat) (ph : TaskPhase) : Forwarding :=
  { s with tasks := Function.update s.tasks t ph }

/-- The installation goes on to another phase. -/
def installAt (s : Forwarding) (ph : InstallPhase) : Forwarding := { s with install := ph }

/-- `s_table[i]`.  The table is shared without a lock; what lies behind `s_count` is zero. -/
def entryAt (s : Forwarding) (i : Nat) : PortmapEntry := s.table.getD i ⟨0, false, 0, 0, 0⟩

/-- The resolved addresses, which the manager watches. -/
def resolvedIps (slots : List Slot) : List Ip4 := slots.map fun slot => slot.rt.resolvedIp

/-- One step of a task. It is `none` where the task is not at that place. -/
def taskStep (aton : List Char → Option Ip4) (s : Forwarding) (t : Nat) (a : TaskAction) :
    Option Forwarding :=
  match s.tasks t, a with
  | .idle, .setAll rules => some (s.goto t (.checking rules))
  | .idle, .setEnabled i enabled =>
    match s.slots[i]? with
    | none => some s
    | some slot =>
      let copy := s.slots.map Slot.rule
      some (s.goto t (.checking (copy.set i { slot.rule with enabled := enabled })))
  | .checking rules, .check webUiConfiguredPort nvs =>
    match setAllError aton (portmapListenConflicts s.table) webUiConfiguredPort rules, nvs with
    | none, true => some (s.goto t (.storing rules))
    | _, _ => some (s.goto t .idle)
  | .storing rules, .store views =>
    let slots := rules.map fun rule => ⟨rule, Runtime.zero⟩
    some ({ s with slots := resolveAll aton views slots }.goto t .installing)
  | .idle, .managerPass views =>
    let slots := resolveAll aton views s.slots
    if resolvedIps slots ≠ resolvedIps s.slots then
      some ({ s with slots := slots }.goto t .installing)
    else some { s with slots := slots }
  | .idle, .portmapSetAll arr webUiConfiguredPort =>
    let arr := arr.take portmapMax
    if portmapConflict s.slots webUiConfiguredPort [] arr then some s
    else some (s.goto t (.portmapStoring arr))
  | .portmapStoring arr, .portmapClear =>
    some ({ s with table := [] }.goto t (.portmapFilling arr))
  | .portmapFilling (e :: rest), .portmapPut =>
    let table := if e.isFilled then s.table ++ [{ e with valid := true }] else s.table
    some ({ s with table := table }.goto t (.portmapFilling rest))
  | .portmapFilling [], .portmapStore nvs =>
    some (s.goto t (if nvs then .installing else .idle))
  | .idle, .gotIp => some (s.goto t .installing)
  | .installing, .installAll queued =>
    some ({ s with queued := if queued then s.queued + 1 else s.queued }.goto t .idle)
  | _, _ => none

/-- One step of `portmap_install_cb`. Between two of them the AP-side table and the rules may
    change, so the entry at `i` is read afresh each time. -/
def installStep (s : Forwarding) (a : InstallAction) : Option Forwarding :=
  match s.install, a with
  | .idle, .start staIp =>
    if s.queued = 0 then none
    else
      let s := { s with queued := s.queued - 1 }
      match staIp with
      | none => some s
      | some bindIp => some ({ s with bindIp := bindIp }.installAt .removing)
  | .removing, .remove =>
    match s.installed with
    | (proto, port) :: rest =>
      some { s with map := ipPortmapRemove s.map proto port, installed := rest }
    | [] => some ({ s with slots := prepareInstall s.slots }.installAt (.mapping 0))
  | .mapping i, .mapAp =>
    if portmapMax ≤ i then some (s.installAt (.reading 0))
    else if (s.entryAt i).valid then some (s.installAt (.mapAdding i))
    else some (s.installAt (.mapping (i + 1)))
  | .mapAdding i, .addAp room =>
    -- a task may have changed the entry since the test, and may again before the record
    let e := s.entryAt i
    let added := ipPortmapAdd s.map ⟨e.proto, s.bindIp, e.extPort, e.intIp, e.intPort, none⟩ room
    some ({ s with map := added.2 }.installAt
      (if added.1 then .mapRecording i e.proto e.extPort else .mapping (i + 1)))
  | .mapRecording i _ _, .recordAp =>
    let e := s.entryAt i
    some ({ s with installed := s.installed ++ [(e.proto, e.extPort)] }.installAt
      (.mapping (i + 1)))
  | .reading i, .read =>
    if tailnetForwardMax ≤ i then some (s.installAt .idle)
    else
      match getMapping s.slots i with
      | none => some (s.installAt (.reading (i + 1)))
      | some (rule, destination) => some (s.installAt (.adding i rule destination))
  | .adding i rule destination, .add room =>
    let added := ipPortmapAdd s.map
      ⟨rule.proto, s.bindIp, rule.listenPort, destination, rule.destinationPort, some rule⟩ room
    let installed :=
      if added.1 then s.installed ++ [(rule.proto, rule.listenPort)] else s.installed
    some ({ s with map := added.2, installed := installed }.installAt (.marking i rule added.1))
  | .marking i _ ok, .mark =>
    some ({ s with slots := markInstalled s.slots i ok }.installAt (.reading (i + 1)))
  | _, _ => none

/-- The rule of the Tailnet mapping that forwards packets for this protocol and port. -/
def creator (s : Forwarding) (proto : UInt8) (port : Nat) : Option Rule :=
  (lookup s.map proto port).bind Mapping.creator

/-- A packet from the uplink: the filter, and then the map. The rule that it is forwarded by is the
    one whose installation made the entry, not the one the filter has matched. -/
def packet (s : Forwarding) (p : List UInt8) : Forwarding :=
  let verdict := allowUplinkPacket s.slots p
  let s' := { s with slots := verdict.2 }
  match verdict.1, packetFields true p with
  | true, some (src, proto, port) =>
    match s.creator proto port with
    | some rule => { s' with forwarded := (src, rule) :: s.forwarded }
    | none => s'
  | _, _ => s'

/-- One step of the system. -/
def step (aton : List Char → Option Ip4) (s : Forwarding) : ForwardAction → Option Forwarding
  | .task t a => s.taskStep aton t a
  | .install a => s.installStep a
  | .packet p => some (s.packet p)

/-- The machine of all interleavings. -/
def machine (aton : List Char → Option Ip4) : Machine Forwarding ForwardAction :=
  ⟨fun s a => s.step aton a⟩

/-- After a boot: the rules from NVS, where an earlier `tailnet_forward_set_all` left them
    behind its checks; nothing installed and nobody under way. -/
structure Booted (s : Forwarding) : Prop where
  rules : (s.slots.map Slot.rule).Pairwise Rule.Apart
  installed : ∀ slot ∈ s.slots, slot.rt = Runtime.zero
  map : s.map = []
  install : s.install = .idle
  tasks : ∀ t, s.tasks t = .idle
  forwarded : s.forwarded = []

/-! ### What a step can do -/

/-- The slots that `tailnet_forward_set_all` fills, before their resolution. -/
def freshSlots (rules : List Rule) : List Slot := rules.map fun rule => ⟨rule, Runtime.zero⟩

/-- The slots of a new table are not installed. -/
theorem installed_fresh (aton : List Char → Option Ip4) (views : Nat → TailnetView)
    (rules : List Rule) : ∀ slot ∈ resolveAll aton views (freshSlots rules),
      slot.rt.installed = false := by
  intro slot hslot
  apply Bool.eq_false_iff.mpr
  intro hinstalled
  obtain ⟨slot₀, hmem, -, hinst⟩ :=
    (resolveAll_quieter aton views (freshSlots rules)).installed slot hslot hinstalled
  obtain ⟨rule, -, rfl⟩ := List.mem_map.mp hmem
  cases hinst

/-- The rules of a new table. -/
theorem rules_fresh (aton : List Char → Option Ip4) (views : Nat → TailnetView)
    (rules : List Rule) : (resolveAll aton views (freshSlots rules)).map Slot.rule = rules := by
  rw [(resolveAll_quieter aton views (freshSlots rules)).rules, freshSlots, List.map_map]
  exact List.map_id rules

/-- The branches of a step of a task. It says of each of them what it demands and what it leaves
    behind, so that invariants need not look into `taskStep`. -/
inductive TaskStep (aton : List Char → Option Ip4) (s : Forwarding) (t : Nat) :
    TaskAction → Forwarding → Prop where
  | setAll {rules : List Rule} (hphase : s.tasks t = .idle) :
      TaskStep aton s t (.setAll rules) (s.goto t (.checking rules))
  | noSuchRule {i : Nat} {enabled : Bool} (hphase : s.tasks t = .idle)
      (hslot : s.slots[i]? = none) : TaskStep aton s t (.setEnabled i enabled) s
  | setEnabled {i : Nat} {enabled : Bool} {slot : Slot} (hphase : s.tasks t = .idle)
      (hslot : s.slots[i]? = some slot) :
      TaskStep aton s t (.setEnabled i enabled) (s.goto t (.checking
        ((s.slots.map Slot.rule).set i { slot.rule with enabled := enabled })))
  | checked {rules : List Rule} {port : Nat} (hphase : s.tasks t = .checking rules)
      (hpass : setAllError aton (portmapListenConflicts s.table) port rules = none) :
      TaskStep aton s t (.check port true) (s.goto t (.storing rules))
  | refused {rules : List Rule} {port : Nat} {nvs : Bool} (hphase : s.tasks t = .checking rules) :
      TaskStep aton s t (.check port nvs) (s.goto t .idle)
  | store {rules : List Rule} {views : Nat → TailnetView} (hphase : s.tasks t = .storing rules) :
      TaskStep aton s t (.store views)
        ({ s with slots := resolveAll aton views (freshSlots rules) }.goto t .installing)
  | managerPass {views : Nat → TailnetView} {ph : TaskPhase} (hphase : s.tasks t = .idle)
      (hph : ph = .idle ∨ ph = .installing) :
      TaskStep aton s t (.managerPass views)
        ({ s with slots := resolveAll aton views s.slots }.goto t ph)
  | portmapRefused {arr : List PortmapEntry} {port : Nat} :
      TaskStep aton s t (.portmapSetAll arr port) s
  | portmapSetAll {arr : List PortmapEntry} {port : Nat} (hphase : s.tasks t = .idle) :
      TaskStep aton s t (.portmapSetAll arr port)
        (s.goto t (.portmapStoring (arr.take portmapMax)))
  | portmapClear {arr : List PortmapEntry} (hphase : s.tasks t = .portmapStoring arr) :
      TaskStep aton s t .portmapClear ({ s with table := [] }.goto t (.portmapFilling arr))
  | portmapPut {e : PortmapEntry} {rest table : List PortmapEntry}
      (hphase : s.tasks t = .portmapFilling (e :: rest))
      (htable : table = if e.isFilled then s.table ++ [{ e with valid := true }] else s.table) :
      TaskStep aton s t .portmapPut ({ s with table := table }.goto t (.portmapFilling rest))
  | portmapStore {nvs : Bool} {ph : TaskPhase} (hphase : s.tasks t = .portmapFilling [])
      (hph : ph = .idle ∨ ph = .installing) :
      TaskStep aton s t (.portmapStore nvs) (s.goto t ph)
  | gotIp (hphase : s.tasks t = .idle) : TaskStep aton s t .gotIp (s.goto t .installing)
  | installAll {queued : Bool} {n : Nat} (hphase : s.tasks t = .installing) :
      TaskStep aton s t (.installAll queued) ({ s with queued := n }.goto t .idle)

variable {aton : List Char → Option Ip4} {s s' : Forwarding} {t : Nat}

@[simp] theorem tasks_goto_self (s : Forwarding) (t : Nat) (ph : TaskPhase) :
    (s.goto t ph).tasks t = ph := by
  show Function.update s.tasks t ph t = ph
  rw [Function.update_self]

theorem tasks_goto_of_ne (s : Forwarding) {t u : Nat} (h : u ≠ t) (ph : TaskPhase) :
    (s.goto t ph).tasks u = s.tasks u := by
  show Function.update s.tasks t ph u = s.tasks u
  rw [Function.update_of_ne h]

/-- A task that stays where it is. -/
theorem goto_self (s : Forwarding) (t : Nat) : s.goto t (s.tasks t) = s := by
  rw [goto, Function.update_eq_self]

/-- **Branches of a task's step.** The invariants are proved along these, without unfolding the step
    again. -/
theorem taskStep_cases {a : TaskAction} (h : s.taskStep aton t a = some s') :
    TaskStep aton s t a s' := by
  -- The cases are the phases of a task, in the order of the `match`.
  unfold taskStep at h
  split at h
  · rename_i hphase
    cases h
    exact .setAll hphase
  · rename_i hphase
    split at h
    · rename_i hslot
      cases h
      exact .noSuchRule hphase hslot
    · rename_i hslot
      cases h
      exact .setEnabled hphase hslot
  · rename_i hphase
    split at h
    -- `tailnet_forward_set_all` checks against the map before it stores.
    · rename_i hpass
      cases h
      exact .checked hphase hpass
    · cases h
      exact .refused hphase
  · rename_i hphase
    cases h
    exact .store hphase
  · rename_i views hphase
    dsimp only at h
    -- A pass of the manager may end in an installation, or leave the task where it is.
    split at h
    · cases h
      exact .managerPass hphase (.inr rfl)
    · cases h
      have hstay := goto_self { s with slots := resolveAll aton views s.slots } t
      rw [← hstay]
      exact .managerPass hphase (.inl hphase)
  · rename_i hphase
    dsimp only at h
    -- `portmap_set_all` refuses a list in conflict and returns at once.
    split at h
    · cases h
      exact .portmapRefused
    · cases h
      exact .portmapSetAll hphase
  · rename_i hphase
    cases h
    exact .portmapClear hphase
  · rename_i hphase
    cases h
    exact .portmapPut hphase rfl
  · rename_i nvs hphase
    cases h
    refine .portmapStore hphase ?_
    cases nvs
    · exact .inl rfl
    · exact .inr rfl
  · rename_i hphase
    cases h
    exact .gotIp hphase
  · rename_i hphase
    cases h
    exact .installAll hphase
  · cases h

/-- The branches of a step of the installation, with what each of them has found in the tables. -/
inductive InstallStep (s : Forwarding) : InstallAction → Forwarding → Prop where
  | noAddress {n : Nat} (hphase : s.install = .idle) :
      InstallStep s (.start none) { s with queued := n }
  | start {n : Nat} {bindIp : Ip4} (hphase : s.install = .idle) :
      InstallStep s (.start (some bindIp))
        ({ s with queued := n, bindIp := bindIp }.installAt .removing)
  | remove {proto : UInt8} {port : Nat} {rest : List (UInt8 × Nat)}
      (hphase : s.install = .removing) (hinstalled : s.installed = (proto, port) :: rest) :
      InstallStep s .remove { s with map := ipPortmapRemove s.map proto port, installed := rest }
  | prepare (hphase : s.install = .removing) (hinstalled : s.installed = []) :
      InstallStep s .remove ({ s with slots := prepareInstall s.slots }.installAt (.mapping 0))
  | mapped {i : Nat} (hphase : s.install = .mapping i) (hlast : portmapMax ≤ i) :
      InstallStep s .mapAp (s.installAt (.reading 0))
  | skipAp {i : Nat} (hphase : s.install = .mapping i) (hlast : i < portmapMax) :
      InstallStep s .mapAp (s.installAt (.mapping (i + 1)))
  | mapAp {i : Nat} (hphase : s.install = .mapping i) (hlast : i < portmapMax) :
      InstallStep s .mapAp (s.installAt (.mapAdding i))
  | addAp {i : Nat} {new : Mapping} (hphase : s.install = .mapAdding i)
      (hcreator : new.creator = none) :
      InstallStep s (.addAp true)
        ({ s with map := (ipPortmapAdd s.map new true).2 }.installAt
          (.mapRecording i new.proto new.mport))
  | addApFull {i : Nat} (hphase : s.install = .mapAdding i) :
      InstallStep s (.addAp false) (s.installAt (.mapping (i + 1)))
  | recordAp {i : Nat} {proto : UInt8} {port : Nat}
      (hphase : s.install = .mapRecording i proto port) :
      InstallStep s .recordAp
        ({ s with
          installed := s.installed ++ [((s.entryAt i).proto, (s.entryAt i).extPort)] }.installAt
          (.mapping (i + 1)))
  | finish {i : Nat} (hphase : s.install = .reading i) (hlast : tailnetForwardMax ≤ i) :
      InstallStep s .read (s.installAt .idle)
  | skipRule {i : Nat} (hphase : s.install = .reading i) (hlast : i < tailnetForwardMax) :
      InstallStep s .read (s.installAt (.reading (i + 1)))
  | read {i : Nat} {rule : Rule} {destination : Ip4} (hphase : s.install = .reading i)
      (hlast : i < tailnetForwardMax)
      (hmapping : getMapping s.slots i = some (rule, destination)) :
      InstallStep s .read (s.installAt (.adding i rule destination))
  | add {i : Nat} {rule : Rule} {destination : Ip4} {room : Bool} {new : Mapping}
      (hphase : s.install = .adding i rule destination)
      (hnew : new = ⟨rule.proto, s.bindIp, rule.listenPort, destination, rule.destinationPort,
        some rule⟩) :
      InstallStep s (.add room)
        (({ s with
          map := (ipPortmapAdd s.map new room).2
          installed := if (ipPortmapAdd s.map new room).1
            then s.installed ++ [(new.proto, new.mport)] else s.installed } : Forwarding).installAt
          (.marking i rule (ipPortmapAdd s.map new room).1))
  | mark {i : Nat} {rule : Rule} {ok : Bool} (hphase : s.install = .marking i rule ok) :
      InstallStep s .mark
        ({ s with slots := markInstalled s.slots i ok }.installAt (.reading (i + 1)))

/-- **Branches of a step of the installation.** The invariants are proved along these, without
    unfolding the step again. -/
theorem installStep_cases {a : InstallAction} (h : s.installStep a = some s') :
    InstallStep s a s' := by
  unfold installStep at h
  -- The three loops of `portmap_install`: removing, mapping the table, adding the rules.
  split at h
  · rename_i hphase
    rw [Option.ite_none_left_eq_some] at h
    dsimp only at h
    obtain ⟨-, h⟩ := h
    split at h
    · cases h
      exact .noAddress hphase
    · cases h
      exact .start hphase
  · rename_i hphase
    -- While keys are recorded, the first of them is removed from lwIP's map.
    split at h
    · rename_i hinstalled
      cases h
      exact .remove hphase hinstalled
    · rename_i hinstalled
      cases h
      exact .prepare hphase hinstalled
  · rename_i hphase
    split at h
    · rename_i hlast
      cases h
      exact .mapped hphase hlast
    · rename_i hlast
      rw [Nat.not_le] at hlast
      -- An entry that is not valid is left out.
      split at h
      · cases h
        exact .mapAp hphase hlast
      · cases h
        exact .skipAp hphase hlast
  · rename_i room hphase
    -- `ip_portmap_add` fails where lwIP's array is full, and nothing is recorded then.
    cases room with
    | true =>
      cases h
      exact .addAp hphase (show (Mapping.mk _ _ _ _ _ none).creator = none from rfl)
    | false =>
      cases h
      exact .addApFull hphase
  · rename_i hphase
    cases h
    exact .recordAp hphase
  · rename_i hphase
    split at h
    · rename_i hlast
      cases h
      exact .finish hphase hlast
    · rename_i hlast
      rw [Nat.not_le] at hlast
      -- A rule that is off or has no destination is passed over.
      split at h
      · cases h
        exact .skipRule hphase hlast
      · rename_i hmapping
        cases h
        exact .read hphase hlast hmapping
  · rename_i hphase
    cases h
    exact .add hphase rfl
  · rename_i hphase
    cases h
    exact .mark hphase
  · cases h

end Forwarding

end SubnetRouter.TailnetForward
