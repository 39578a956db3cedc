import Mathlib.Algebra.Group.Nat.Defs
import SubnetRouter.Lib.Bytes
import SubnetRouter.Net.Ip4

namespace SubnetRouter.TailnetForward

open Lib

/-!
# LAN to Tailnet forwarding rules (`main/tailnet_forward.c`)

The rule table and its runtime half, under `s_lock`.  lwIP's parser of dotted addresses is a
parameter (`aton`), and what the Tailnet answers is part of each step.

* `setAllError` — the checks of `tailnet_forward_set_all`; `pairwise_of_setAllError` — a list
  that passes has no two enabled rules for one protocol and port.
* `resolveRule`, `getMapping`, `prepareInstall`, `markInstalled` — the runtime half.
* `allowUplinkPacket` — the filter of the uplink; `filterSlots_listening` — what it
  accepts for a port that an enabled rule listens on.
-/

/-- `TAILNET_FORWARD_MAX`, `TAILNET_FORWARD_DEST_LEN`. -/
def tailnetForwardMax : Nat := 8

def tailnetForwardDestLen : Nat := 96

/-- `tailnet_forward_rule_t`, without its name. The destination is a text, an address or the name of
    a peer. -/
structure Rule where
  valid : Bool
  enabled : Bool
  proto : UInt8
  sourcePrefix : Nat
  listenPort : Nat
  destinationPort : Nat
  sourceNetwork : Ip4
  destination : List Char
deriving DecidableEq, Repr

/-- `tailnet_forward_runtime_t`. It is what the module has found out about a rule, and is not
    saved. -/
structure Runtime where
  installed : Bool
  resolvedIp : Ip4
  acceptedPackets : Nat
  blockedPackets : Nat
  error : String
deriving DecidableEq, Repr

def Runtime.zero : Runtime := ⟨false, 0, 0, 0, ""⟩

/-- One entry of `s_rules` and `s_runtime`; there are `s_count` of them. -/
structure Slot where
  rule : Rule
  rt : Runtime
deriving DecidableEq, Repr

/-- A source inside the CIDR of the rule. -/
def Rule.allowsSource (r : Rule) (src : Ip4) : Bool :=
  src &&& prefixMask r.sourcePrefix == r.sourceNetwork

/-- An enabled rule for this protocol and listen port. -/
def Rule.listens (r : Rule) (proto : UInt8) (port : Nat) : Bool :=
  r.valid && r.enabled && r.proto == proto && r.listenPort == port

/-- Not both enabled for one protocol and port. -/
def Rule.Apart (a b : Rule) : Prop :=
  ¬ (a.enabled = true ∧ b.enabled = true ∧ a.proto = b.proto ∧ a.listenPort = b.listenPort)

/-! ### Checks -/

/-- `hostname_valid`. -/
def hostnameValid (s : List Char) : Bool :=
  if s.length = 0 ∨ tailnetForwardDestLen ≤ s.length then false
  else if !s.all fun c => c.isAlphanum || c == '-' || c == '.' then false
  else s.head? != some '.' && s.getLast? != some '.'

/-- The refusals of `tailnet_forward_set_all`, with the index of the rule. The first rule that is
    not in order decides. -/
inductive SetAllError where
  | tooMany
  | invalidRule (i : Nat)
  | notTailnet (i : Nat)
  | duplicatePort (i : Nat)
  | portmapConflict (i : Nat)
  | webUiConflict (i : Nat)
deriving DecidableEq, Repr

/-- Its message. Rules are numbered from 1 there. -/
def SetAllError.text : SetAllError → String
  | .tooMany => ""
  | .invalidRule i => "Invalid rule " ++ toString (i + 1)
  | .notTailnet i => "Rule " ++ toString (i + 1) ++ " destination must be in 100.64.0.0/10"
  | .duplicatePort i => "Duplicate listen port in rule " ++ toString (i + 1)
  | .portmapConflict i => "Rule " ++ toString (i + 1) ++ " conflicts with AP-side forwarding"
  | .webUiConflict i => "Rule " ++ toString (i + 1) ++ " conflicts with the Web UI port"

section Checks

variable (aton : List Char → Option Ip4) (portmapListenConflicts : UInt8 → Nat → Bool)
  (webUiConfiguredPort : Nat)

/-- The checks of one rule, behind those `before` it. A rule that is switched off may repeat a port,
    but has to be well formed. -/
def checkRule (before : List Rule) (r : Rule) : Option SetAllError :=
  let i := before.length
  if !r.valid || (r.proto != 6 && r.proto != 17) || r.listenPort == 0 || r.destinationPort == 0 ||
      decide (32 < r.sourcePrefix) || !hostnameValid r.destination then some (.invalidRule i)
  else if (aton r.destination).any fun a => !ipInCgnat a then some (.notTailnet i)
  else if before.any fun b => b.enabled && r.enabled && b.proto == r.proto &&
      b.listenPort == r.listenPort then some (.duplicatePort i)
  else if r.enabled && portmapListenConflicts r.proto r.listenPort then some (.portmapConflict i)
  else if r.enabled && r.proto == 6 && r.listenPort == webUiConfiguredPort then
    some (.webUiConflict i)
  else none

/-- The loop over the rules. It stops at the first refusal. -/
def checkRules : List Rule → List Rule → Option SetAllError
  | _, [] => none
  | before, r :: rest =>
    match checkRule aton portmapListenConflicts webUiConfiguredPort before r with
    | some e => some e
    | none => checkRules (before ++ [r]) rest

/-- The checks of `tailnet_forward_set_all`. -/
def setAllError (rules : List Rule) : Option SetAllError :=
  if tailnetForwardMax < rules.length then some .tooMany
  else checkRules aton portmapListenConflicts webUiConfiguredPort [] rules

end Checks

/-! ### The runtime half -/

/-- What `resolve_rule` sees of the Tailnet: `tailscale_connected` with a microlink, the same a
    moment later, and what `microlink_resolve` returns. -/
structure TailnetView where
  connected : Bool
  stillConnected : Bool
  resolved : Ip4
deriving DecidableEq, Repr

/-- The end of `resolve_rule` for a rule that cannot be mapped. -/
def Runtime.unresolved (rt : Runtime) (error : String) : Runtime :=
  { rt with installed := false, resolvedIp := 0, error := error }

/-- `resolve_rule`. An address is taken as it stands; a name is looked up among the peers, if there
    still is a connection. -/
def resolveRule (aton : List Char → Option Ip4) (view : TailnetView) (slot : Slot) : Slot :=
  if !slot.rule.enabled then { slot with rt := slot.rt.unresolved "disabled" }
  else if !view.connected then { slot with rt := slot.rt.unresolved "Tailnet offline" }
  else
    let resolvesTo (h : Ip4) : Slot :=
      if !ipInCgnat h then { slot with rt := slot.rt.unresolved "not a Tailnet IPv4 address" }
      else
        { slot with rt := { slot.rt with
            -- a rule that now resolves elsewhere has to be installed again
            installed := slot.rt.resolvedIp == h && slot.rt.installed
            resolvedIp := h
            error := "" } }
    match aton slot.rule.destination with
    | some a => resolvesTo a
    | none =>
      if !view.stillConnected then { slot with rt := slot.rt.unresolved "Tailnet offline" }
      else resolvesTo view.resolved

/-- `resolve_rule` for every slot. -/
def resolveAll (aton : List Char → Option Ip4) (views : Nat → TailnetView) (slots : List Slot) :
    List Slot :=
  slots.mapIdx fun i slot => resolveRule aton (views i) slot

/-- `tailnet_forward_get_mapping`: the rule of the slot and the address it resolves to. A rule
    without an address has no mapping. -/
def getMapping (slots : List Slot) (i : Nat) : Option (Rule × Ip4) :=
  match slots[i]? with
  | none => none
  | some slot =>
    if slot.rule.valid && slot.rule.enabled && slot.rt.resolvedIp != 0 then
      some (slot.rule, slot.rt.resolvedIp)
    else none

/-- `tailnet_forward_prepare_install`. -/
def prepareInstall (slots : List Slot) : List Slot :=
  slots.map fun slot => { slot with rt := { slot.rt with installed := false } }

/-- `tailnet_forward_mark_installed`, with the message for a full table. The slot is known by its
    index alone, whichever rule is in it now. -/
def markInstalled (slots : List Slot) (i : Nat) (ok : Bool) : List Slot :=
  match slots[i]? with
  | none => slots
  | some slot =>
    let error := if ok then "" else "lwIP port-map table full"
    slots.set i { slot with rt := { slot.rt with installed := ok, error := error } }

/-! ### The filter -/

/-- `packet_fields`, on the bytes of the first pbuf: source, protocol and destination port. Later
    fragments have no ports, and are not read. -/
def packetFields (eth : Bool) (b : List UInt8) : Option (Ip4 × UInt8 × Nat) :=
  let off := if eth then 14 else 0
  if b.length < off + 24 then none
  else if eth && (byteAt b 12 != 8 || byteAt b 13 != 0) then none
  else if byteAt b off >>> 4 ≠ 4 ∨ be16 b (off + 6) % 0x2000 ≠ 0 then none
  else
    let ihl := (byteAt b off &&& 0x0F).toNat * 4
    if ihl < 20 ∨ b.length < off + ihl + 4 then none
    else
      let proto := byteAt b (off + 9)
      if proto ≠ 6 ∧ proto ≠ 17 then none
      else some (be32 b (off + 12), proto, be16 b (off + ihl + 2))

/-- A packet counted at a slot, in one of its 32-bit counters. -/
def Slot.counted (slot : Slot) (ok : Bool) : Slot :=
  { slot with rt :=
      if ok then { slot.rt with acceptedPackets := (slot.rt.acceptedPackets + 1) % 2 ^ 32 }
      else { slot.rt with blockedPackets := (slot.rt.blockedPackets + 1) % 2 ^ 32 } }

/-- The loop of `tailnet_forward_allow_uplink_packet`: the verdict, and the slots with the
    packet counted. -/
def filterSlots (src : Ip4) (proto : UInt8) (port : Nat) : List Slot → Bool × List Slot
  | [] => (true, [])
  | slot :: rest =>
    if slot.rule.listens proto port then
      -- the first enabled rule for the port decides; without one the packet passes
      let ok := slot.rt.installed && slot.rule.allowsSource src
      (ok, slot.counted ok :: rest)
    else
      let result := filterSlots src proto port rest
      (result.1, slot :: result.2)

/-- `tailnet_forward_allow_uplink_packet`. -/
def allowUplinkPacket (slots : List Slot) (p : List UInt8) : Bool × List Slot :=
  match packetFields true p with
  | none => (true, slots)
  | some (src, proto, port) => filterSlots src proto port slots

/-! ### Facts -/

variable {aton : List Char → Option Ip4} {conflicts : UInt8 → Nat → Bool} {webPort : Nat}
  {before rules : List Rule} {r : Rule} {slots slots' : List Slot} {slot : Slot}
  {src : Ip4} {proto : UInt8} {port i : Nat}

/-- A rule that passes its checks is apart from those before it. -/
theorem apart_of_checkRule (h : checkRule aton conflicts webPort before r = none) :
    ∀ b ∈ before, b.Apart r := by
  intro b hb hboth
  unfold checkRule at h
  dsimp only at h
  split at h
  · cases h
  · split at h
    · cases h
    · split at h
      · cases h
      · rename_i hduplicate
        apply hduplicate
        rw [List.any_eq_true]
        obtain ⟨hbe, hre, hproto, hport⟩ := hboth
        exact ⟨b, hb, by simp [hbe, hre, hproto, hport]⟩

theorem pairwise_of_checkRules (h : checkRules aton conflicts webPort before rules = none)
    (hbefore : before.Pairwise Rule.Apart) : (before ++ rules).Pairwise Rule.Apart := by
  induction rules generalizing before with
  | nil =>
    rw [List.append_nil]
    exact hbefore
  | cons r rest ih =>
    rw [checkRules] at h
    split at h
    · cases h
    · rename_i hr
      have hnext : (before ++ [r]).Pairwise Rule.Apart := by
        apply List.pairwise_append.mpr
        refine ⟨hbefore, List.pairwise_singleton _ r, ?_⟩
        intro b hb r' hr'
        rw [List.mem_singleton.mp hr']
        exact apart_of_checkRule hr b hb
      have hall := ih h hnext
      rwa [List.append_assoc, List.singleton_append] at hall

/-- **A list that passes the checks** has no two enabled rules for one protocol and port. -/
theorem pairwise_of_setAllError (h : setAllError aton conflicts webPort rules = none) :
    rules.Pairwise Rule.Apart := by
  unfold setAllError at h
  split at h
  · cases h
  · exact pairwise_of_checkRules h List.Pairwise.nil

/-- A rule that passes its checks is valid and, if enabled, in no conflict. -/
theorem of_checkRule (h : checkRule aton conflicts webPort before r = none) :
    r.valid = true ∧ (r.enabled = true → conflicts r.proto r.listenPort = false ∧
      ¬ (r.proto = 6 ∧ r.listenPort = webPort)) := by
  unfold checkRule at h
  dsimp only at h
  split_ifs at h with hinvalid _ _ hportmap hwebUi
  simp only [Bool.or_eq_true, not_or, Bool.not_eq_true', Bool.not_eq_false] at hinvalid
  refine ⟨hinvalid.1.1.1.1.1, fun henabled => ?_⟩
  rw [henabled, Bool.true_and, Bool.not_eq_true] at hportmap
  refine ⟨hportmap, fun hboth => hwebUi ?_⟩
  simp [henabled, hboth]

/-- Each rule of a list that passes the checks has passed its own. -/
theorem checkRule_of_setAllError (h : setAllError aton conflicts webPort rules = none) :
    ∀ r ∈ rules, ∃ before, checkRule aton conflicts webPort before r = none := by
  -- Generalised to the rules before: each was checked against those in front of it.
  have hall : ∀ before rules : List Rule,
      checkRules aton conflicts webPort before rules = none →
        ∀ r ∈ rules, ∃ before, checkRule aton conflicts webPort before r = none := by
    intro before rules
    induction rules generalizing before with
    | nil => simp
    | cons r rest ih =>
      intro hcheck
      rw [checkRules] at hcheck
      split at hcheck
      · cases hcheck
      · rename_i hr
        rw [List.forall_mem_cons]
        exact ⟨⟨before, hr⟩, ih _ hcheck⟩
  unfold setAllError at h
  split at h
  · cases h
  · exact hall [] rules h

/-- Two enabled rules of the table for one protocol and port are one. -/
theorem eq_of_apart (h : (slots.map Slot.rule).Pairwise Rule.Apart) {a b : Slot} (ha : a ∈ slots)
    (hb : b ∈ slots) (hae : a.rule.enabled = true) (hbe : b.rule.enabled = true)
    (hproto : a.rule.proto = b.rule.proto) (hport : a.rule.listenPort = b.rule.listenPort) :
    a = b := by
  rw [List.pairwise_map, List.pairwise_iff_getElem] at h
  obtain ⟨i, hi, rfl⟩ := List.getElem_of_mem ha
  obtain ⟨j, hj, rfl⟩ := List.getElem_of_mem hb
  rcases Nat.lt_trichotomy i j with hij | rfl | hij
  · exact absurd ⟨hae, hbe, hproto, hport⟩ (h i j hi hj hij)
  · rfl
  · exact absurd ⟨hbe, hae, hproto.symm, hport.symm⟩ (h j i hj hi hij)

/-- The rules stay, and no slot becomes installed. -/
structure Quieter (slots' slots : List Slot) : Prop where
  rules : slots'.map Slot.rule = slots.map Slot.rule
  installed : ∀ slot' ∈ slots', slot'.rt.installed = true →
    ∃ slot ∈ slots, slot.rule = slot'.rule ∧ slot.rt.installed = true

theorem Quieter.refl (slots : List Slot) : Quieter slots slots :=
  ⟨rfl, fun slot hslot hinstalled => ⟨slot, hslot, rfl, hinstalled⟩⟩

/-- What `resolve_rule` can do: give the slot up, or note an address for an enabled rule. The rule
    itself stays as it is. -/
theorem resolveRule_cases (aton : List Char → Option Ip4) (view : TailnetView) (slot : Slot) :
    (∃ error, resolveRule aton view slot = { slot with rt := slot.rt.unresolved error }) ∨
      (slot.rule.enabled = true ∧ ∃ h, resolveRule aton view slot =
        { slot with rt := { slot.rt with
            installed := slot.rt.resolvedIp == h && slot.rt.installed
            resolvedIp := h
            error := "" } }) := by
  -- The branches of `resolve_rule`: off, an address, then a name and its peer.
  unfold resolveRule
  dsimp only
  split
  · exact .inl ⟨_, rfl⟩
  · rename_i henabled
    have henabled : slot.rule.enabled = true := by simpa using henabled
    split
    · exact .inl ⟨_, rfl⟩
    · split
      -- An address that is given needs no peer.
      · split
        · exact .inl ⟨_, rfl⟩
        · exact .inr ⟨henabled, _, rfl⟩
      · split
        · exact .inl ⟨_, rfl⟩
        · split
          · exact .inl ⟨_, rfl⟩
          · exact .inr ⟨henabled, _, rfl⟩

/-- `resolve_rule` keeps the rule. -/
theorem rule_resolveRule (view : TailnetView) (slot : Slot) :
    (resolveRule aton view slot).rule = slot.rule := by
  rcases resolveRule_cases aton view slot with ⟨_, heq⟩ | ⟨_, _, heq⟩
  · rw [heq]
  · rw [heq]

/-- It never installs, and a slot that stays installed resolves to the same address. -/
theorem of_installed_resolveRule {view : TailnetView}
    (h : (resolveRule aton view slot).rt.installed = true) : slot.rt.installed = true ∧
      (resolveRule aton view slot).rt.resolvedIp = slot.rt.resolvedIp := by
  rcases resolveRule_cases aton view slot with ⟨_, heq⟩ | ⟨_, _, heq⟩
  · rw [heq] at h
    cases h
  · rw [heq] at h ⊢
    obtain ⟨hsame, hinstalled⟩ := Bool.and_eq_true_iff.mp h
    exact ⟨hinstalled, (beq_iff_eq.mp hsame).symm⟩

theorem resolveAll_quieter (aton : List Char → Option Ip4) (views : Nat → TailnetView)
    (slots : List Slot) :
    Quieter (resolveAll aton views slots) slots := by
  constructor
  · apply List.ext_getElem?
    intro i
    rw [resolveAll, List.getElem?_map, List.getElem?_mapIdx, List.getElem?_map, Option.map_map]
    congr 1
    funext slot
    exact rule_resolveRule (views i) slot
  · intro slot' hslot' hinstalled
    obtain ⟨i, hi, rfl⟩ := List.mem_mapIdx.mp hslot'
    exact ⟨slots[i], List.getElem_mem hi, (rule_resolveRule (views i) _).symm,
      (of_installed_resolveRule hinstalled).1⟩

theorem prepareInstall_quieter (slots : List Slot) : Quieter (prepareInstall slots) slots := by
  constructor
  · rw [prepareInstall, List.map_map]
    rfl
  · intro slot' hslot' hinstalled
    obtain ⟨slot, -, rfl⟩ := List.mem_map.mp hslot'
    cases hinstalled

/-- Marking keeps the rules. -/
theorem map_rule_markInstalled (slots : List Slot) (i : Nat) (ok : Bool) :
    (markInstalled slots i ok).map Slot.rule = slots.map Slot.rule := by
  unfold markInstalled
  split
  · rfl
  · rename_i slot hslot
    have hself : (slots.map Slot.rule)[i]? = some slot.rule := by
      rw [List.getElem?_map, hslot]
      rfl
    obtain ⟨hi, heq⟩ := List.getElem?_eq_some_iff.mp hself
    rw [List.map_set]
    show (slots.map Slot.rule).set i slot.rule = _
    rw [← heq, List.set_getElem_self]

/-- A slot after the marking was there before, or is the one marked. -/
theorem mem_markInstalled {ok : Bool} {slot' : Slot} (h : slot' ∈ markInstalled slots i ok) :
    slot' ∈ slots ∨
      ∃ slot, slots[i]? = some slot ∧ slot'.rule = slot.rule ∧ slot'.rt.installed = ok := by
  unfold markInstalled at h
  split at h
  · exact .inl h
  · rename_i slot hslot
    rcases List.mem_or_eq_of_mem_set h with hold | rfl
    · exact .inl hold
    · exact .inr ⟨slot, hslot, rfl, rfl⟩

/-- Marking a failure. -/
theorem markInstalled_false_quieter (slots : List Slot) (i : Nat) :
    Quieter (markInstalled slots i false) slots := by
  refine ⟨map_rule_markInstalled slots i false, ?_⟩
  intro slot' hslot' hinstalled
  rcases mem_markInstalled hslot' with hold | ⟨slot, -, -, hnot⟩
  · exact ⟨slot', hold, rfl, hinstalled⟩
  · rw [hnot] at hinstalled
    cases hinstalled

@[simp] theorem Slot.counted_installed (slot : Slot) (ok : Bool) :
    (slot.counted ok).rt.installed = slot.rt.installed := by
  cases ok
  · rfl
  · rfl

/-- The filter only counts. -/
theorem filterSlots_quieter (src : Ip4) (proto : UInt8) (port : Nat) (slots : List Slot) :
    Quieter (filterSlots src proto port slots).2 slots := by
  -- The first rule that listens counts the packet; the slots behind it are not touched.
  induction slots with
  | nil => exact Quieter.refl []
  | cons slot rest ih =>
    unfold filterSlots
    dsimp only
    split
    · refine ⟨rfl, ?_⟩
      intro slot' hslot' hinstalled
      rcases List.mem_cons.mp hslot' with rfl | hrest
      · rw [Slot.counted_installed] at hinstalled
        exact ⟨slot, List.mem_cons_self, rfl, hinstalled⟩
      · exact ⟨slot', List.mem_cons_of_mem slot hrest, rfl, hinstalled⟩
    · refine ⟨congrArg (slot.rule :: ·) ih.rules, ?_⟩
      intro slot' hslot' hinstalled
      rcases List.mem_cons.mp hslot' with rfl | hrest
      · exact ⟨slot', List.mem_cons_self, rfl, hinstalled⟩
      -- Further on it is the induction hypothesis.
      · obtain ⟨slot₀, hmem, hsame, hinst⟩ := ih.installed slot' hrest hinstalled
        exact ⟨slot₀, List.mem_cons_of_mem slot hmem, hsame, hinst⟩

theorem allowUplinkPacket_quieter (slots : List Slot) (p : List UInt8) :
    Quieter (allowUplinkPacket slots p).2 slots := by
  unfold allowUplinkPacket
  split
  · exact Quieter.refl slots
  · exact filterSlots_quieter ..

/-- **The filter** accepts a packet for a port that a rule listens on only through an installed
    rule that allows its source. -/
theorem filterSlots_listening (h : (filterSlots src proto port slots).1 = true)
    (hlistens : ∃ slot ∈ slots, slot.rule.listens proto port = true) :
    ∃ slot ∈ slots, slot.rule.listens proto port = true ∧ slot.rt.installed = true ∧
      slot.rule.allowsSource src = true := by
  induction slots with
  | nil =>
    obtain ⟨slot, hslot, -⟩ := hlistens
    cases hslot
  | cons slot rest ih =>
    unfold filterSlots at h
    dsimp only at h
    split at h
    -- the first rule that listens decides
    · rename_i hfirst
      obtain ⟨hinstalled, hsource⟩ := Bool.and_eq_true_iff.mp h
      exact ⟨slot, List.mem_cons_self, hfirst, hinstalled, hsource⟩
    · rename_i hnot
      obtain ⟨slot₀, hmem, hlisten⟩ := hlistens
      rcases List.mem_cons.mp hmem with rfl | hrest
      · exact absurd hlisten hnot
      · obtain ⟨slot₁, hmem₁, hspec⟩ := ih h ⟨slot₀, hrest, hlisten⟩
        exact ⟨slot₁, List.mem_cons_of_mem slot hmem₁, hspec⟩

end SubnetRouter.TailnetForward
