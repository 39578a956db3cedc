import SubnetRouter.ForwardRuns

namespace SubnetRouter.TailnetForward

open Lib

/-!
# The source restriction over time

The filter knows the rules of the table, the map those of the last installation.  A packet
through a mapping comes from a source that the mapping's rule allows as long as the two agree
on the port.

* `Forwarding.Covered` — a packet for a live Tailnet mapping finds an enabled rule for its port,
  and the slot that an installation marks still holds the rule that it mapped.
* `Forwarding.Inv` — an enabled rule that is marked as installed has the source restriction
  of the rule that its mapping was made from.
* `forwarded_from_source` — runs whose steps meet the condition.
* `deleted_rule_forwards` — a run with a packet between a deletion and the next installation.
-/

/-- Both rules let the same sources through to the same port. -/
def Rule.SameExposure (a b : Rule) : Prop :=
  a.proto = b.proto ∧ a.listenPort = b.listenPort ∧ a.sourceNetwork = b.sourceNetwork ∧
    a.sourcePrefix = b.sourcePrefix

instance (a b : Rule) : Decidable (a.SameExposure b) := inferInstanceAs (Decidable (_ ∧ _))

/-- The marking of this phase is one of a success, of slot `i` and this rule. -/
def InstallPhase.success : InstallPhase → Option (Nat × Rule)
  | .marking i rule true => some (i, rule)
  | _ => none

namespace Forwarding

/-- A packet for a live Tailnet mapping finds an enabled rule for its protocol and port in the
    table; and when an installation marks a slot as installed, the slot, if it holds an enabled
    rule, holds one with the port and source restriction of the rule that was mapped. -/
def Covered (s : Forwarding) : ForwardAction → Prop
  | .packet p =>
    ∀ x ∈ packetFields true p, (s.creator x.2.1 x.2.2).isSome = true →
      tailnetForwardListenConflicts s.slots x.2.1 x.2.2 = true
  | .install .mark =>
    ∀ x ∈ s.install.success, ∀ slot ∈ s.slots[x.1]?, slot.rule.enabled = true →
      x.2.SameExposure slot.rule
  | _ => True

instance (s : Forwarding) (a : ForwardAction) : Decidable (s.Covered a) :=
  match a with
  | .packet p =>
    inferInstanceAs (Decidable (∀ x ∈ packetFields true p, (s.creator x.2.1 x.2.2).isSome = true →
      tailnetForwardListenConflicts s.slots x.2.1 x.2.2 = true))
  | .install .mark =>
    inferInstanceAs (Decidable (∀ x ∈ s.install.success, ∀ slot ∈ s.slots[x.1]?,
      slot.rule.enabled = true → x.2.SameExposure slot.rule))
  | .install (.start _) => .isTrue trivial
  | .install .remove => .isTrue trivial
  | .install .mapAp => .isTrue trivial
  | .install (.addAp _) => .isTrue trivial
  | .install .recordAp => .isTrue trivial
  | .install .read => .isTrue trivial
  | .install (.add _) => .isTrue trivial
  | .task _ _ => .isTrue trivial

/-! ### The invariant -/

/-- An enabled rule that is marked as installed agrees with `rule` if it has its port. -/
def Agrees (slots : List Slot) (rule : Rule) : Prop :=
  ∀ slot ∈ slots, slot.rule.enabled = true → slot.rt.installed = true →
    slot.rule.proto = rule.proto → slot.rule.listenPort = rule.listenPort →
      rule.SameExposure slot.rule

structure Inv (s : Forwarding) : Prop where
  apart : (s.slots.map Slot.rule).Pairwise Rule.Apart
  storing : ∀ t rules, s.tasks t = .storing rules → rules.Pairwise Rule.Apart
  agrees : ∀ proto port rule, s.creator proto port = some rule →
    rule.proto = proto ∧ rule.listenPort = port ∧ Agrees s.slots rule
  adding : ∀ i rule destination, s.install = .adding i rule destination → Agrees s.slots rule
  marking : ∀ i rule, s.install = .marking i rule true →
    s.creator rule.proto rule.listenPort = some rule
  forwarded : ∀ x ∈ s.forwarded, x.2.allowsSource x.1 = true

variable {aton : List Char → Option Ip4} {s s' : Forwarding} {slots : List Slot} {rule : Rule}
  {map : List Mapping} {keys : List (UInt8 × Nat)} {t : Nat}

/-- Slots that fewer rules are installed in agree with more. -/
theorem agrees_of_quieter (hquiet : Quieter slots s.slots) (h : Agrees s.slots rule) :
    Agrees slots rule := by
  intro slot' hslot' henabled hinstalled hproto hport
  obtain ⟨slot, hslot, hsame, hinst⟩ := hquiet.installed slot' hslot' hinstalled
  rw [← hsame] at henabled hproto hport ⊢
  exact h slot hslot henabled hinst hproto hport

/-- A table without installed rules agrees with every rule. -/
theorem agrees_of_not_installed (h : ∀ slot ∈ slots, slot.rt.installed = false) (rule : Rule) :
    Agrees slots rule := by
  intro slot hslot _ hinstalled
  rw [h slot hslot] at hinstalled
  cases hinstalled

/-- An enabled rule of the table agrees with the table. -/
theorem agrees_of_mem (h : (slots.map Slot.rule).Pairwise Rule.Apart) {slot : Slot}
    (hslot : slot ∈ slots) (henabled : slot.rule.enabled = true) : Agrees slots slot.rule := by
  intro other hother hen _ hproto hport
  rw [eq_of_apart h hother hslot hen henabled hproto hport]
  exact ⟨rfl, rfl, rfl, rfl⟩

/-- The rule of a mapping is an enabled rule of the table. -/
theorem of_getMapping {i : Nat} {destination : Ip4}
    (h : getMapping slots i = some (rule, destination)) :
    ∃ slot ∈ slots, slot.rule.enabled = true ∧ slot.rule = rule := by
  unfold getMapping at h
  split at h
  · cases h
  · rename_i slot hslot
    rw [Option.ite_none_right_eq_some, Option.some.injEq, Prod.mk.injEq] at h
    obtain ⟨hready, rfl, -⟩ := h
    simp only [Bool.and_eq_true] at hready
    exact ⟨slot, List.mem_of_getElem? hslot, hready.1.2, rfl⟩

/-! ### Steps that keep the invariant -/

/-- A task goes on. -/
theorem inv_goto {ph : TaskPhase} (h : s.Inv)
    (hph : ∀ rules, ph = .storing rules → rules.Pairwise Rule.Apart) : (s.goto t ph).Inv := by
  refine ⟨h.apart, ?_, h.agrees, h.adding, h.marking, h.forwarded⟩
  show ∀ t' rules, Function.update s.tasks t ph t' = .storing rules → rules.Pairwise Rule.Apart
  rw [Function.forall_update_iff s.tasks fun _ ph =>
    ∀ rules, ph = .storing rules → rules.Pairwise Rule.Apart]
  exact ⟨hph, fun t' _ => h.storing t'⟩

/-- A change of the slots that installs nothing. -/
theorem inv_slots (h : s.Inv) (hquiet : Quieter slots s.slots) :
    ({ s with slots := slots } : Forwarding).Inv where
  apart := by
    show (slots.map Slot.rule).Pairwise Rule.Apart
    rw [hquiet.rules]
    exact h.apart
  storing := h.storing
  agrees proto port rule hcreator :=
    have hold := h.agrees proto port rule hcreator
    ⟨hold.1, hold.2.1, agrees_of_quieter hquiet hold.2.2⟩
  adding i rule destination hinstall :=
    agrees_of_quieter hquiet (h.adding i rule destination hinstall)
  marking := h.marking
  forwarded := h.forwarded

/-- New slots, none of which is installed. -/
theorem inv_store (h : s.Inv) (hapart : (slots.map Slot.rule).Pairwise Rule.Apart)
    (hnone : ∀ slot ∈ slots, slot.rt.installed = false) :
    ({ s with slots := slots } : Forwarding).Inv where
  apart := hapart
  storing := h.storing
  agrees proto port rule hcreator :=
    have hold := h.agrees proto port rule hcreator
    ⟨hold.1, hold.2.1, agrees_of_not_installed hnone rule⟩
  adding _ rule _ _ := agrees_of_not_installed hnone rule
  marking := h.marking
  forwarded := h.forwarded

/-- The installation goes on, with another map. -/
theorem inv_mapped {ph : InstallPhase} (h : s.Inv)
    (hcreator : ∀ proto port rule, (lookup map proto port).bind Mapping.creator = some rule →
      rule.proto = proto ∧ rule.listenPort = port ∧ Agrees s.slots rule)
    (hadding : ∀ i rule destination, ph = .adding i rule destination → Agrees s.slots rule)
    (hmarking : ∀ i rule, ph = .marking i rule true →
      (lookup map rule.proto rule.listenPort).bind Mapping.creator = some rule) :
    (({ s with map := map, installed := keys } : Forwarding).installAt ph).Inv :=
  ⟨h.apart, h.storing, hcreator, hadding, hmarking, h.forwarded⟩

/-- The installation goes on to a phase in which it holds no rule. -/
theorem inv_installAt {ph : InstallPhase} (h : s.Inv)
    (hadding : ∀ i rule destination, ph ≠ .adding i rule destination)
    (hmarking : ∀ i rule, ph ≠ .marking i rule true) : (s.installAt ph).Inv :=
  inv_mapped h h.agrees (fun i rule destination heq => absurd heq (hadding i rule destination))
    fun i rule heq => absurd heq (hmarking i rule)

/-- The creators after an addition. -/
theorem agrees_of_add (h : s.Inv) {new : Mapping} {room : Bool}
    (hnew : ∀ rule, new.creator = some rule →
      rule.proto = new.proto ∧ rule.listenPort = new.mport ∧ Agrees s.slots rule)
    {proto : UInt8} {port : Nat}
    (hcreator : (lookup (ipPortmapAdd s.map new room).2 proto port).bind Mapping.creator =
      some rule) :
    rule.proto = proto ∧ rule.listenPort = port ∧ Agrees s.slots rule := by
  obtain ⟨m, hm, hrule⟩ := Option.bind_eq_some_iff.mp hcreator
  rcases lookup_of_add hm with ⟨rfl, rfl, rfl⟩ | hold
  · exact hnew rule hrule
  · apply h.agrees proto port rule
    rw [creator, hold]
    exact hrule

/-- A slot that holds what was mapped is marked as installed. That it still holds it is the
    hypothesis on the slot. -/
theorem inv_marked (h : s.Inv) {i : Nat} (hphase : s.install = .marking i rule true)
    (hslot : ∀ slot ∈ s.slots[i]?, slot.rule.enabled = true → rule.SameExposure slot.rule) :
    ({ s with slots := markInstalled s.slots i true } : Forwarding).Inv := by
  refine ⟨?_, h.storing, ?_, ?_, h.marking, h.forwarded⟩
  · show ((markInstalled s.slots i true).map Slot.rule).Pairwise Rule.Apart
    rw [map_rule_markInstalled]
    exact h.apart
  · intro proto port rule' hcreator
    obtain ⟨rfl, rfl, hagrees⟩ := h.agrees proto port rule' hcreator
    refine ⟨rfl, rfl, ?_⟩
    intro slot' hslot' henabled hinstalled hproto hport
    rcases mem_markInstalled hslot' with hold | ⟨slot, hmem, hsame, -⟩
    · exact hagrees slot' hold henabled hinstalled hproto hport
    -- the mapping for its port is the one that was just added
    · rw [hsame] at henabled hproto hport ⊢
      have hexposure := hslot slot hmem henabled
      have hmapped := h.marking i rule hphase
      rw [hexposure.1, hexposure.2.1, hproto, hport] at hmapped
      have heq : some rule' = some rule := hcreator.symm.trans hmapped
      cases heq
      exact hexposure
  · intro j rule' destination heq
    have hadding : s.install = .adding j rule' destination := heq
    rw [hphase] at hadding
    cases hadding

/-- A step of a task. The rules change in the critical sections only, and those leave the map and
    what is recorded of it alone. -/
theorem inv_taskStep (h : s.Inv) {a : TaskAction} (hstep : s.taskStep aton t a = some s') :
    s'.Inv := by
  cases taskStep_cases hstep with
  | setAll => exact inv_goto h (by simp)
  | noSuchRule => exact h
  | setEnabled => exact inv_goto h (by simp)
  | checked _ hpass =>
    apply inv_goto h
    -- the checks of the call make the rules listen apart
    intro rules' heq
    cases heq
    exact pairwise_of_setAllError hpass
  | refused => exact inv_goto h (by simp)
  | @store rules views hphase =>
    refine inv_goto (inv_store h ?_ (installed_fresh aton views rules)) (by simp)
    -- the slots are those of the rules that were checked
    rw [rules_fresh]
    exact h.storing t rules hphase
  | @managerPass views _ _ hph =>
    apply inv_goto (inv_slots h (resolveAll_quieter aton views s.slots))
    rcases hph with rfl | rfl <;> simp
  | portmapRefused => exact h
  | portmapSetAll => exact inv_goto h (by simp)
  -- the AP-side table plays no part
  | portmapClear =>
    have hinv : ({ s with table := [] } : Forwarding).Inv :=
      ⟨h.apart, h.storing, h.agrees, h.adding, h.marking, h.forwarded⟩
    exact inv_goto hinv (by simp)
  | @portmapPut e rest table =>
    have hinv : ({ s with table := table } : Forwarding).Inv :=
      ⟨h.apart, h.storing, h.agrees, h.adding, h.marking, h.forwarded⟩
    exact inv_goto hinv (by simp)
  | portmapStore _ hph =>
    apply inv_goto h
    rcases hph with rfl | rfl <;> simp
  | gotIp => exact inv_goto h (by simp)
  | @installAll _ n =>
    have hinv : ({ s with queued := n } : Forwarding).Inv :=
      ⟨h.apart, h.storing, h.agrees, h.adding, h.marking, h.forwarded⟩
    exact inv_goto hinv (by simp)

/-- A step of the installation. What is added to the map is remembered with the rule it was made
    from; that the slot still holds such a rule when it is marked is what `Covered` says. -/
theorem inv_installStep (h : s.Inv) {a : InstallAction} (hcovered : s.Covered (.install a))
    (hstep : s.installStep a = some s') : s'.Inv := by
  cases installStep_cases hstep with
  | noAddress => exact ⟨h.apart, h.storing, h.agrees, h.adding, h.marking, h.forwarded⟩
  | @start n bindIp =>
    have hbound : ({ s with queued := n, bindIp := bindIp } : Forwarding).Inv :=
      ⟨h.apart, h.storing, h.agrees, h.adding, h.marking, h.forwarded⟩
    exact inv_installAt hbound (by simp) (by simp)
  | remove hphase =>
    refine ⟨h.apart, h.storing, ?_, h.adding, ?_, h.forwarded⟩
    · -- what is found after the removal was found before it
      intro proto port rule hcreator
      obtain ⟨m, hm, hrule⟩ := Option.bind_eq_some_iff.mp hcreator
      apply h.agrees proto port rule
      rw [creator, lookup_of_remove hm]
      exact hrule
    · intro i rule heq
      rw [hphase] at heq
      cases heq
  | prepare =>
    exact inv_installAt (inv_slots h (prepareInstall_quieter s.slots)) (by simp) (by simp)
  | mapped => exact inv_installAt h (by simp) (by simp)
  | skipAp => exact inv_installAt h (by simp) (by simp)
  | mapAp => exact inv_installAt h (by simp) (by simp)
  | addAp _ hnone =>
    refine inv_mapped (s := s) h ?_ (by simp) (by simp)
    -- no mapping of the port carries a rule, so the new one disagrees with none
    intro proto port rule hcreator
    exact agrees_of_add h (by simp [hnone]) hcreator
  | addApFull => exact inv_installAt h (by simp) (by simp)
  | recordAp => exact inv_mapped (s := s) h h.agrees (by simp) (by simp)
  | finish => exact inv_installAt h (by simp) (by simp)
  | skipRule => exact inv_installAt h (by simp) (by simp)
  | read _ _ hmapping =>
    refine inv_mapped h h.agrees ?_ (by simp)
    intro i' rule' destination' heq
    cases heq
    -- the rule comes from an enabled slot
    obtain ⟨slot, hslot, henabled, rfl⟩ := of_getMapping hmapping
    exact agrees_of_mem h.apart hslot henabled
  | @add i rule destination room new hphase hnew =>
    -- the rule has agreed with the table since it was read
    have hagrees := h.adding i rule destination hphase
    refine inv_mapped (s := s) h ?_ (by simp) ?_
    · intro proto port rule' hcreator
      apply agrees_of_add h ?_ hcreator
      intro rule'' heq
      rw [hnew] at heq ⊢
      cases heq
      exact ⟨rfl, rfl, hagrees⟩
    · intro i' rule' heq
      cases room with
      | false => cases heq
      | true =>
        cases heq
        have hfound := lookup_add_self s.map new
        rw [hnew] at hfound ⊢
        rw [hfound]
        rfl
  | @mark i rule ok hphase =>
    cases ok with
    | false =>
      exact inv_installAt (inv_slots h (markInstalled_false_quieter s.slots i)) (by simp) (by simp)
    | true =>
      -- the slot has not changed since: the step is covered
      have hslot : ∀ slot ∈ s.slots[i]?, slot.rule.enabled = true → rule.SameExposure slot.rule :=
        hcovered (i, rule) (by rw [hphase]; rfl)
      exact inv_installAt (inv_marked h hphase hslot) (by simp) (by simp)

/-- A rule that agrees with the table allows what the filter accepts for its port. -/
theorem allowsSource_of_agrees {src : Ip4} {proto : UInt8} {port : Nat}
    (hagrees : Agrees slots rule) (hproto : rule.proto = proto) (hport : rule.listenPort = port)
    (haccept : (filterSlots src proto port slots).1 = true)
    (hlistens : tailnetForwardListenConflicts slots proto port = true) :
    rule.allowsSource src = true := by
  obtain ⟨slot, hslot, hlisten, hinstalled, hsource⟩ :=
    filterSlots_listening haccept (List.any_eq_true.mp hlistens)
  simp only [Rule.listens, Bool.and_eq_true, beq_iff_eq] at hlisten
  obtain ⟨⟨⟨-, henabled⟩, hslotProto⟩, hslotPort⟩ := hlisten
  obtain ⟨-, -, hnetwork, hprefix⟩ := hagrees slot hslot henabled hinstalled
    (hslotProto.trans hproto.symm) (hslotPort.trans hport.symm)
  rw [Rule.allowsSource] at hsource ⊢
  rw [hnetwork, hprefix]
  exact hsource

/-- A packet. The condition is that there is an enabled rule for its port, which it is then filtered
    by. -/
theorem inv_packet (h : s.Inv) {p : List UInt8} (hcovered : s.Covered (.packet p)) :
    (s.packet p).Inv := by
  have hinv := inv_slots h (allowUplinkPacket_quieter s.slots p)
  unfold packet
  dsimp only
  split
  -- Only an accepted packet that some rule's mapping takes is forwarded for this rule.
  · rename_i src proto port haccept hfields
    split
    · rename_i rule hcreator
      obtain ⟨hproto, hport, hagrees⟩ := h.agrees proto port rule hcreator
      -- By `Covered` a rule listens for it, so the filter has judged its source.
      have hlistens : tailnetForwardListenConflicts s.slots proto port = true :=
        hcovered (src, proto, port) hfields (by rw [hcreator]; rfl)
      have hfilter : (filterSlots src proto port s.slots).1 = true := by
        rw [allowUplinkPacket, hfields] at haccept
        exact haccept
      refine ⟨hinv.apart, hinv.storing, hinv.agrees, hinv.adding, hinv.marking, ?_⟩
      -- The new entry is of an allowed source; the older ones are those of before.
      intro x hx
      rcases List.mem_cons.mp hx with rfl | hold
      · exact allowsSource_of_agrees hagrees hproto hport hfilter hlistens
      · exact h.forwarded x hold
    · exact hinv
  · exact hinv

/-- **Step lemma.** A step that meets the condition keeps the invariant. -/
theorem inv_step (h : s.Inv) {a : ForwardAction} (hcovered : s.Covered a)
    (hstep : s.step aton a = some s') : s'.Inv := by
  cases a with
  | task t a => exact inv_taskStep h hstep
  | install a => exact inv_installStep h hcovered hstep
  | packet p =>
    cases hstep
    exact inv_packet h hcovered

/-- A router that has just booted. -/
theorem inv_booted (h : s.Booted) : s.Inv where
  apart := h.rules
  storing t rules htask := by
    rw [h.tasks] at htask
    cases htask
  agrees proto port rule hcreator := by
    rw [creator, h.map] at hcreator
    cases hcreator
  adding i rule destination heq := by
    rw [h.install] at heq
    cases heq
  marking i rule heq := by
    rw [h.install] at heq
    cases heq
  forwarded x hx := by
    rw [h.forwarded] at hx
    cases hx

end Forwarding

/-- **The source restriction.** In every interleaving in which a packet for a live Tailnet
    mapping finds an enabled rule for its port, and a slot is marked as installed only while
    it holds what was mapped: every packet forwarded through a Tailnet mapping comes from a
    source that the rule behind the mapping allows. -/
theorem forwarded_from_source {aton : List Char → Option Ip4} {s t : Forwarding}
    {actions : List ForwardAction} (hboot : s.Booted)
    (hmeets : (Forwarding.machine aton).Meets Forwarding.Covered s actions)
    (hrun : (Forwarding.machine aton).run s actions = some t) :
    ∀ x ∈ t.forwarded, x.2.allowsSource x.1 = true := by
  have hinv : t.Inv := by
    apply Machine.invariant_of_meets ?_ hmeets hrun (Forwarding.inv_booted hboot)
    intro u a u' hcovered hstep hu
    exact Forwarding.inv_step hu hcovered hstep
  exact hinv.forwarded

/-! ### Two runs -/

/-- TCP port 2222 of the uplink, from 192.168.1.0/24, to port 22 of a Tailnet host. Unlike
    `httpsRule` it changes the port. -/
def sshRule : Rule :=
  { valid := true
    enabled := true
    proto := 6
    sourcePrefix := 24
    listenPort := 2222
    destinationPort := 22
    sourceNetwork := 0xC0A80100#32
    destination := ['n', 'a', 's'] }

/-- A router that boots with this rule and no AP-side entries. -/
def bootedForwarding : Forwarding :=
  ⟨[⟨sshRule, Runtime.zero⟩], [], [], [], .idle, 0, 0, fun _ => .idle, []⟩

theorem bootedForwarding_booted : bootedForwarding.Booted where
  rules := List.pairwise_singleton _ _
  installed slot hslot := by
    rw [List.mem_singleton.mp hslot]
  map := rfl
  install := rfl
  tasks _ := rfl
  forwarded := rfl

/-- The frame of a TCP segment to port 2222 of 192.168.1.2, from an address. -/
def sshFrame (src : Ip4) : List UInt8 :=
  List.replicate 12 0 ++ [8, 0, 0x45, 0] ++ bytes16 24 ++ [0, 0, 0, 0, 64, 6, 0, 0] ++
    bytes32 src ++ bytes32 0xC0A80102#32 ++ bytes16 40000 ++ bytes16 2222

/-- The manager resolves the rule, and it is installed. The AP-side table is empty, so each of its
    slots takes one step. -/
def installActions : List ForwardAction :=
  [.task 0 (.managerPass fun _ => ⟨true, true, 0x64400009#32⟩), .task 0 (.installAll true),
    .install (.start (some 0xC0A80102#32)), .install .remove] ++
  List.replicate 17 (.install .mapAp) ++
  [.install .read, .install (.add true), .install .mark] ++
  List.replicate 8 (.install .read)

/-- After the installation, a packet from the allowed subnet and one from elsewhere. -/
def filteredActions : List ForwardAction :=
  installActions ++ [.packet (sshFrame 0xC0A80117#32), .packet (sshFrame 0x0A010203#32)]

/-- Only the first is forwarded. -/
theorem installed_rule_filters :
    ∃ t, (Forwarding.machine fun _ => none).run bootedForwarding filteredActions = some t ∧
      t.forwarded = [(0xC0A80117#32, sshRule)] ∧
      ∀ x ∈ t.forwarded, x.2.allowsSource x.1 = true := by
  have hmeets : (Forwarding.machine fun _ => none).Meets Forwarding.Covered bootedForwarding
      filteredActions := by
    decide +kernel
  have hsources : ((Forwarding.machine fun _ => none).run bootedForwarding filteredActions).map
      Forwarding.forwarded = some [(0xC0A80117#32, sshRule)] := by
    decide +kernel
  obtain ⟨t, hrun, hforwarded⟩ := Option.map_eq_some_iff.mp hsources
  exact ⟨t, hrun, hforwarded, forwarded_from_source bootedForwarding_booted hmeets hrun⟩

/-- After the installation the rule is deleted; before the installation that follows, a packet
    arrives from elsewhere. -/
def deletedActions : List ForwardAction :=
  installActions ++ [.task 1 (.setAll []), .task 1 (.check 80 true),
    .task 1 (.store fun _ => ⟨true, true, 0⟩), .packet (sshFrame 0x0A010203#32)]

/-- **A deleted rule still forwards**, and to everybody: the filter no longer knows the port. -/
theorem deleted_rule_forwards :
    bootedForwarding.Booted ∧
      ∃ t, (Forwarding.machine fun _ => none).run bootedForwarding deletedActions = some t ∧
        t.forwarded = [(0x0A010203#32, sshRule)] ∧
        sshRule.allowsSource 0x0A010203#32 = false := by
  have hsources : ((Forwarding.machine fun _ => none).run bootedForwarding deletedActions).map
      Forwarding.forwarded = some [(0x0A010203#32, sshRule)] := by
    decide +kernel
  obtain ⟨t, hrun, hforwarded⟩ := Option.map_eq_some_iff.mp hsources
  exact ⟨bootedForwarding_booted, t, hrun, hforwarded, by decide⟩

end SubnetRouter.TailnetForward
