import SubnetRouter.Lib.Table
import SubnetRouter.ForwardSound

namespace SubnetRouter.TailnetForward

open Lib

/-!
# What the installation records

`portmap_install_cb` keeps two records of what it put into lwIP's map: `s_installed`, by which
it takes everything out again, and the flag `installed` of each rule.  The first is written on
one thread, but what it says of an AP-side mapping is read from the table after the mapping was
made, when a task may have replaced the entry.  The second is set by the number of the slot,
which may hold another rule by then, and is cleared only after the mappings are gone.

* `Forwarding.Counted` — the length of `s_installed`, by the phase of the installation.
* `Forwarding.InSync` — a mapping is removed while no rule is flagged for it, a slot is flagged
  while it holds what was mapped, and an AP-side entry is recorded while the table has its port.
* `Forwarding.InstalledInv` — `s_installed` against lwIP's map, in runs in sync.
* `installSync` — both records.
* `replaced_rule_flagged` — a run in which the flag is set for another rule.
-/

/-- How many keys `s_installed` may hold. It has room for both tables in full, and no phase records
    more than the slots it has passed. -/
def InstallPhase.bound : InstallPhase → Nat
  | .idle => portmapMax + tailnetForwardMax
  | .removing => portmapMax + tailnetForwardMax
  | .mapping i => min i portmapMax
  | .mapAdding i => min i (portmapMax - 1)
  | .mapRecording i _ _ => min i (portmapMax - 1)
  | .reading i => portmapMax + min i tailnetForwardMax
  | .adding i _ _ => portmapMax + min i (tailnetForwardMax - 1)
  | .marking i _ _ => portmapMax + min (i + 1) tailnetForwardMax

variable {aton : List Char → Option Ip4} {s s' : Forwarding} {t i : Nat}

namespace Forwarding

/-! ### How many keys there are -/

/-- No more keys are recorded than the installation may have come to. -/
def Counted (s : Forwarding) : Prop := s.installed.length ≤ s.install.bound

/-- The installation goes on, with no more keys than it may have there. -/
theorem Counted.advance (h : s.Counted) (hinstalled : s'.installed = s.installed)
    (hbound : s.install.bound ≤ s'.install.bound) : s'.Counted := by
  rw [Counted, hinstalled]
  exact Nat.le_trans h hbound

/-- A step of the installation.  Each turn of its two loops records one key at most, so the number
    of keys stays below the place in the loop. -/
theorem counted_installStep {a : InstallAction} (h : s.Counted)
    (hstep : s.installStep a = some s') : s'.Counted := by
  cases installStep_cases hstep with
  | noAddress => exact h.advance rfl (Nat.le_refl _)
  | start hphase =>
    refine h.advance rfl ?_
    rw [hphase]
    exact Nat.le_refl _
  | @remove proto port rest hphase hinstalled =>
    rw [Counted, hinstalled] at h
    exact Nat.le_of_succ_le h
  | prepare hphase hinstalled =>
    show s.installed.length ≤ min 0 portmapMax
    rw [hinstalled]
    exact Nat.zero_le _
  | @mapped i hphase =>
    refine h.advance rfl ?_
    show s.install.bound ≤ portmapMax + min 0 tailnetForwardMax
    rw [hphase]
    exact Nat.le_trans (Nat.min_le_right i portmapMax) (Nat.le_add_right _ _)
  | @skipAp i hphase =>
    refine h.advance rfl ?_
    show s.install.bound ≤ min (i + 1) portmapMax
    rw [hphase, InstallPhase.bound]
    omega
  | @mapAp i hphase hlast =>
    refine h.advance rfl ?_
    show s.install.bound ≤ min i (portmapMax - 1)
    rw [hphase, InstallPhase.bound]
    omega
  | @addAp i _ hphase =>
    refine h.advance rfl ?_
    show s.install.bound ≤ min i (portmapMax - 1)
    rw [hphase]
    exact Nat.le_refl _
  | @addApFull i hphase =>
    refine h.advance rfl ?_
    show s.install.bound ≤ min (i + 1) portmapMax
    rw [hphase, InstallPhase.bound]
    omega
  | @recordAp i proto port hphase =>
    rw [Counted, hphase] at h
    show (s.installed ++ [_]).length ≤ min (i + 1) portmapMax
    rw [List.length_append, List.length_singleton]
    simp only [InstallPhase.bound, portmapMax] at h ⊢
    omega
  | @finish i hphase =>
    refine h.advance rfl ?_
    show s.install.bound ≤ portmapMax + tailnetForwardMax
    rw [hphase, InstallPhase.bound]
    omega
  | @skipRule i hphase =>
    refine h.advance rfl ?_
    show s.install.bound ≤ portmapMax + min (i + 1) tailnetForwardMax
    rw [hphase, InstallPhase.bound]
    omega
  | @read i rule destination hphase hlast =>
    refine h.advance rfl ?_
    show s.install.bound ≤ portmapMax + min i (tailnetForwardMax - 1)
    rw [hphase, InstallPhase.bound]
    omega
  | @add i rule destination room new hphase =>
    rw [Counted, hphase] at h
    show (if (ipPortmapAdd s.map new room).1 then _ else s.installed).length ≤
      portmapMax + min (i + 1) tailnetForwardMax
    simp only [InstallPhase.bound, tailnetForwardMax] at h ⊢
    -- with room one key more, without it none
    split_ifs
    · rw [List.length_append, List.length_singleton]
      omega
    · omega
  -- the key was counted when its mapping was added
  | @mark i rule ok hphase =>
    refine h.advance rfl ?_
    show s.install.bound ≤ portmapMax + min (i + 1) tailnetForwardMax
    rw [hphase]
    exact Nat.le_refl _

/-- A packet changes nothing that the installation reads. -/
theorem packet_install (s : Forwarding) (p : List UInt8) :
    (s.packet p).map = s.map ∧ (s.packet p).installed = s.installed ∧
      (s.packet p).install = s.install := by
  unfold packet
  dsimp only
  split
  · split
    · exact ⟨rfl, rfl, rfl⟩
    · exact ⟨rfl, rfl, rfl⟩
  · exact ⟨rfl, rfl, rfl⟩

/-- A task changes neither lwIP's map nor where the installation stands. -/
theorem taskStep_install {a : TaskAction} (hstep : s.taskStep aton t a = some s') :
    s'.map = s.map ∧ s'.installed = s.installed ∧ s'.install = s.install := by
  cases taskStep_cases hstep <;> exact ⟨rfl, rfl, rfl⟩

/-- The length of `s_installed` over one step. -/
theorem counted_step {a : ForwardAction} (h : s.Counted)
    (hstep : s.step aton a = some s') : s'.Counted := by
  cases a with
  | task t a =>
    obtain ⟨-, hinstalled, hinstall⟩ := taskStep_install hstep
    exact h.advance hinstalled (Nat.le_of_eq (by rw [hinstall]))
  | install a => exact counted_installStep h hstep
  | packet p =>
    obtain rfl := Option.some.inj hstep
    obtain ⟨-, hinstalled, hinstall⟩ := packet_install s p
    exact h.advance hinstalled (Nat.le_of_eq (by rw [hinstall]))

end Forwarding

/-! ### Steps in sync -/

/-- The AP-side entry that was mapped and is still to be recorded: its number and key. -/
def InstallPhase.recording : InstallPhase → Option (Nat × UInt8 × Nat)
  | .mapRecording i proto port => some (i, proto, port)
  | _ => none

namespace Forwarding

/-- The key that is removed next is not that of a flagged rule; an AP-side entry that is
    recorded still has the protocol and port that were mapped; and a slot that is flagged, if
    there is one, holds an enabled rule with the ports that were mapped, and resolves to the
    address that was mapped. -/
def InSync (s : Forwarding) : ForwardAction → Prop
  | .install .remove =>
    ∀ key ∈ s.installed.head?, ∀ slot ∈ s.slots, slot.rt.installed = true →
      ¬ (key.1 = slot.rule.proto ∧ key.2 = slot.rule.listenPort)
  | .install .recordAp =>
    ∀ x ∈ s.install.recording, ((s.entryAt x.1).proto, (s.entryAt x.1).extPort) = x.2
  | .install .mark =>
    ∀ x ∈ s.install.success, ∀ slot ∈ s.slots[x.1]?,
      slot.rule.enabled = true ∧ slot.rule.proto = x.2.proto ∧
        slot.rule.listenPort = x.2.listenPort ∧
        slot.rule.destinationPort = x.2.destinationPort ∧
        ∀ m ∈ lookup s.map x.2.proto x.2.listenPort, slot.rt.resolvedIp = m.daddr
  | _ => True

instance (s : Forwarding) : (a : ForwardAction) → Decidable (s.InSync a)
  | .install .remove =>
    inferInstanceAs (Decidable (∀ key ∈ s.installed.head?, ∀ slot ∈ s.slots,
      slot.rt.installed = true → _))
  | .install .recordAp =>
    inferInstanceAs (Decidable (∀ x ∈ s.install.recording, _ = x.2))
  | .install .mark =>
    inferInstanceAs (Decidable (∀ x ∈ s.install.success, ∀ slot ∈ s.slots[x.1]?,
      _ ∧ _ ∧ _ ∧ _ ∧ ∀ m ∈ lookup s.map x.2.proto x.2.listenPort, _))
  | .install (.start _) => .isTrue trivial
  | .install .mapAp => .isTrue trivial
  | .install (.addAp _) => .isTrue trivial
  | .install .read => .isTrue trivial
  | .install (.add _) => .isTrue trivial
  | .task _ _ => .isTrue trivial
  | .packet _ => .isTrue trivial

/-! ### The keys in `s_installed` -/

/-- The key of every entry of lwIP's map is recorded, but for one that was mapped just now;
    and outside of the removals every key that is or will be recorded has an entry. -/
structure InstalledInv (s : Forwarding) : Prop where
  recorded : ∀ proto port, (lookup s.map proto port).isSome = true →
    (proto, port) ∈ s.installed ∨ (proto, port) ∈ s.install.recording.map Prod.snd
  present : s.install ≠ .removing →
    ∀ key ∈ s.installed, (lookup s.map key.1 key.2).isSome = true
  pending : ∀ x ∈ s.install.recording, (lookup s.map x.2.1 x.2.2).isSome = true

/-- The installation goes on from a phase in which every mapping is recorded to another. -/
theorem InstalledInv.advance (h : s.InstalledInv) (hphase : s.install ≠ .removing)
    (hfrom : s.install.recording = none) (hto : s'.install.recording = none)
    (hmap : s'.map = s.map) (hinstalled : s'.installed = s.installed) : s'.InstalledInv := by
  constructor
  · rw [hmap, hinstalled, hto, ← hfrom]
    exact h.recorded
  · rw [hmap, hinstalled]
    exact fun _ => h.present hphase
  · rw [hto]
    exact fun _ hx => nomatch hx

/-- A step that leaves map, keys and phase alone. -/
theorem InstalledInv.frame (h : s.InstalledInv) (hmap : s'.map = s.map)
    (hinstalled : s'.installed = s.installed) (hinstall : s'.install = s.install) :
    s'.InstalledInv := by
  constructor
  · rw [hmap, hinstalled, hinstall]
    exact h.recorded
  · rw [hmap, hinstalled, hinstall]
    exact h.present
  · rw [hmap, hinstall]
    exact h.pending

/-- An entry that is in the map after an addition is the new one or was there. -/
theorem recorded_of_add (h : s.InstalledInv) (hfrom : s.install.recording = none) {new : Mapping}
    {proto : UInt8} {port : Nat}
    (hsome : (lookup (ipPortmapAdd s.map new true).2 proto port).isSome = true) :
    (proto, port) ∈ s.installed ∨ (proto, port) = (new.proto, new.mport) := by
  rw [lookup_add] at hsome
  split_ifs at hsome with hkey
  · obtain ⟨-, rfl, rfl⟩ := hkey
    exact .inr rfl
  · rcases h.recorded proto port hsome with hold | hpending
    · exact .inl hold
    · rw [hfrom] at hpending
      cases hpending

/-- What has an entry has one after an addition. -/
theorem present_of_add {map : List Mapping} {new : Mapping} {key : UInt8 × Nat}
    (h : (lookup map key.1 key.2).isSome = true ∨ key = (new.proto, new.mport)) :
    (lookup (ipPortmapAdd map new true).2 key.1 key.2).isSome = true := by
  rw [lookup_add]
  split_ifs with hkey
  · rfl
  · refine h.resolve_right ?_
    rintro rfl
    exact hkey ⟨rfl, rfl, rfl⟩

/-- A removal takes the key at the head out of both, the map and the record. -/
theorem InstalledInv.remove {proto : UInt8} {port : Nat} {rest : List (UInt8 × Nat)}
    (h : s.InstalledInv) (hphase : s.install = .removing)
    (hinstalled : s.installed = (proto, port) :: rest) :
    ({ s with map := ipPortmapRemove s.map proto port, installed := rest }
      : Forwarding).InstalledInv := by
  refine ⟨?_, fun hne => absurd hphase hne, ?_⟩
  · intro proto' port' hsome
    refine .inl ?_
    show (proto', port') ∈ rest
    change (lookup (ipPortmapRemove s.map proto port) proto' port').isSome = true at hsome
    rw [lookup_remove] at hsome
    split_ifs at hsome with hkey
    · cases hsome
    -- another key is still recorded, and is not the one that went
    · have hrecorded := h.recorded proto' port' hsome
      rw [hphase, hinstalled, List.mem_cons, Prod.mk.injEq] at hrecorded
      rcases hrecorded with (heq | hmem) | hpending
      · exact absurd ⟨heq.1.symm, heq.2.symm⟩ hkey
      · exact hmem
      · cases hpending
  · intro x hx
    change x ∈ s.install.recording at hx
    rw [hphase] at hx
    cases hx

/-- A mapping of a Tailnet rule is recorded at once. There is no step between the two in which the
    tables could change. -/
theorem InstalledInv.add {ph : InstallPhase} {new : Mapping} {room : Bool} (h : s.InstalledInv)
    (hphase : s.install ≠ .removing) (hfrom : s.install.recording = none)
    (hto : ph.recording = none) :
    (({ s with
      map := (ipPortmapAdd s.map new room).2
      installed := if (ipPortmapAdd s.map new room).1
        then s.installed ++ [(new.proto, new.mport)] else s.installed } : Forwarding).installAt
      ph).InstalledInv := by
  cases room with
  -- without room neither the map nor the keys change
  | false => exact h.advance hphase hfrom hto rfl rfl
  | true =>
    refine ⟨?_, ?_, ?_⟩
    · intro proto port hsome
      refine .inl ?_
      show (proto, port) ∈ s.installed ++ [(new.proto, new.mport)]
      rw [List.mem_append, List.mem_singleton]
      exact recorded_of_add h hfrom hsome
    · intro _ key hmem
      apply present_of_add
      rcases List.mem_append.mp hmem with hold | hnew
      · exact .inl (h.present hphase key hold)
      · exact .inr (List.mem_singleton.mp hnew)
    · intro x hx
      change x ∈ ph.recording at hx
      rw [hto] at hx
      cases hx

/-- A mapping of an AP-side entry waits for its record. -/
theorem InstalledInv.addAp {new : Mapping} (h : s.InstalledInv)
    (hphase : s.install = .mapAdding i) :
    ({ s with map := (ipPortmapAdd s.map new true).2 }.installAt
      (.mapRecording i new.proto new.mport)).InstalledInv := by
  have hfrom : s.install.recording = none := by rw [hphase]; rfl
  refine ⟨?_, ?_, ?_⟩
  · intro proto port hsome
    rcases recorded_of_add h hfrom hsome with hold | hnew
    · exact .inl hold
    · exact .inr (congrArg some hnew.symm)
  · intro _ key hmem
    exact present_of_add (.inl (h.present (by simp [hphase]) key hmem))
  · intro x hx
    obtain rfl := Option.some.inj hx
    exact present_of_add (.inr (Eq.refl (new.proto, new.mport)))

/-- The record of an entry that has the key which was mapped. -/
theorem InstalledInv.recordAp {proto : UInt8} {port : Nat} (h : s.InstalledInv)
    (hphase : s.install = .mapRecording i proto port)
    (hkey : ((s.entryAt i).proto, (s.entryAt i).extPort) = (proto, port)) :
    ({ s with
      installed := s.installed ++ [((s.entryAt i).proto, (s.entryAt i).extPort)] }.installAt
        (.mapping (i + 1))).InstalledInv := by
  rw [hkey]
  refine ⟨?_, ?_, fun x hx => nomatch hx⟩
  -- A key of lwIP's map was recorded before, or is the one that has just been mapped.
  · intro proto' port' hsome
    refine .inl ?_
    show (proto', port') ∈ s.installed ++ [(proto, port)]
    rw [List.mem_append, List.mem_singleton]
    refine (h.recorded proto' port' hsome).imp_right fun hpending => ?_
    rw [hphase] at hpending
    exact (Option.some.inj hpending).symm
  · intro _ key hmem
    -- An old record has its entry; so has the new one, which was pending.
    rcases List.mem_append.mp hmem with hold | hnew
    · exact h.present (by simp [hphase]) key hold
    · rw [List.mem_singleton.mp hnew]
      exact h.pending (i, proto, port) (by rw [hphase]; rfl)

/-- A step of the installation. The keys that are recorded are those that are mapped, as long as the
    entry is read alike both times. -/
theorem installedInv_installStep {a : InstallAction} (h : s.InstalledInv)
    (hsync : s.InSync (.install a)) (hstep : s.installStep a = some s') : s'.InstalledInv := by
  cases installStep_cases hstep with
  | noAddress => exact h.frame rfl rfl rfl
  | start hphase =>
    refine ⟨?_, fun hne => absurd rfl hne, fun x hx => nomatch hx⟩
    have hrecorded := h.recorded
    rw [hphase] at hrecorded
    exact hrecorded
  | remove hphase hinstalled => exact h.remove hphase hinstalled
  | prepare hphase hinstalled =>
    refine ⟨?_, ?_, fun x hx => nomatch hx⟩
    · have hrecorded := h.recorded
      rw [hphase] at hrecorded
      exact hrecorded
    · intro _ key hmem
      change key ∈ s.installed at hmem
      rw [hinstalled] at hmem
      cases hmem
  | mapped hphase => exact h.advance (by simp [hphase]) (by rw [hphase]; rfl) rfl rfl rfl
  | skipAp hphase => exact h.advance (by simp [hphase]) (by rw [hphase]; rfl) rfl rfl rfl
  | mapAp hphase => exact h.advance (by simp [hphase]) (by rw [hphase]; rfl) rfl rfl rfl
  | addAp hphase => exact h.addAp hphase
  | addApFull hphase => exact h.advance (by simp [hphase]) (by rw [hphase]; rfl) rfl rfl rfl
  -- the condition: the entry has not changed since it was mapped
  | @recordAp i proto port hphase =>
    exact h.recordAp hphase (hsync (i, proto, port) (by rw [hphase]; rfl))
  | finish hphase => exact h.advance (by simp [hphase]) (by rw [hphase]; rfl) rfl rfl rfl
  | skipRule hphase => exact h.advance (by simp [hphase]) (by rw [hphase]; rfl) rfl rfl rfl
  | read hphase => exact h.advance (by simp [hphase]) (by rw [hphase]; rfl) rfl rfl rfl
  | add hphase => exact h.add (by simp [hphase]) (by rw [hphase]; rfl) rfl
  | mark hphase => exact h.advance (by simp [hphase]) (by rw [hphase]; rfl) rfl rfl rfl

/-- `s_installed` over one step. -/
theorem installedInv_step {a : ForwardAction} (h : s.InstalledInv) (hsync : s.InSync a)
    (hstep : s.step aton a = some s') : s'.InstalledInv := by
  cases a with
  | task t a =>
    obtain ⟨hmap, hinstalled, hinstall⟩ := taskStep_install hstep
    exact h.frame hmap hinstalled hinstall
  | install a => exact installedInv_installStep h hsync hstep
  | packet p =>
    obtain rfl := Option.some.inj hstep
    obtain ⟨hmap, hinstalled, hinstall⟩ := packet_install s p
    exact h.frame hmap hinstalled hinstall

/-! ### The flag -/

end Forwarding

/-- lwIP's map has the rule's port, with its destination. -/
def Slot.Mapped (map : List Mapping) (slot : Slot) : Prop :=
  ∃ m, lookup map slot.rule.proto slot.rule.listenPort = some m ∧
    m.daddr = slot.rt.resolvedIp ∧ m.dport = slot.rule.destinationPort

/-- The slot from which on nothing has been flagged yet. Before the loop over the Tailnet rules that
    is the first one. -/
def InstallPhase.turn : InstallPhase → Option Nat
  | .idle => none
  | .removing => none
  | .mapping _ => some 0
  | .mapAdding _ => some 0
  | .mapRecording _ _ _ => some 0
  | .reading i => some i
  | .adding i _ _ => some i
  | .marking i _ _ => some i

/-- A slot that is flagged was flagged before, at its number, for the same rule and address. -/
def Kept (slots' slots : List Slot) : Prop :=
  ∀ (i : Nat) (slot' : Slot), slots'[i]? = some slot' → slot'.rt.installed = true →
    ∃ slot : Slot, slots[i]? = some slot ∧ slot.rt.installed = true ∧ slot.rule = slot'.rule ∧
      slot.rt.resolvedIp = slot'.rt.resolvedIp

theorem kept_resolveAll (aton : List Char → Option Ip4) (views : Nat → TailnetView)
    (slots : List Slot) : Kept (resolveAll aton views slots) slots := by
  intro i slot' hslot' hinstalled
  rw [resolveAll, List.getElem?_mapIdx, Option.map_eq_some_iff] at hslot'
  obtain ⟨slot, hslot, rfl⟩ := hslot'
  obtain ⟨hinst, haddr⟩ := of_installed_resolveRule hinstalled
  exact ⟨slot, hslot, hinst, (rule_resolveRule (views i) slot).symm, haddr.symm⟩

/-- Slots of which none is flagged. -/
theorem kept_of_not_installed {slots' : List Slot} (slots : List Slot)
    (h : ∀ slot ∈ slots', slot.rt.installed = false) : Kept slots' slots := by
  intro i slot' hslot' hinstalled
  rw [h slot' (List.mem_of_getElem? hslot')] at hinstalled
  cases hinstalled

theorem kept_markInstalled_false (slots : List Slot) (i : Nat) :
    Kept (markInstalled slots i false) slots := by
  intro j slot' hslot' hinstalled
  unfold markInstalled at hslot'
  split at hslot'
  · exact ⟨slot', hslot', hinstalled, rfl, rfl⟩
  · rcases getElem?_set_cases hslot' with ⟨-, rfl⟩ | ⟨-, hold⟩
    · cases hinstalled
    · exact ⟨slot', hold, hinstalled, rfl, rfl⟩

/-- A counted packet changes neither the rule nor its state. -/
theorem counted_kept (slot : Slot) (ok : Bool) : (slot.counted ok).rule = slot.rule ∧
    (slot.counted ok).rt.resolvedIp = slot.rt.resolvedIp := by
  cases ok
  · exact ⟨rfl, rfl⟩
  · exact ⟨rfl, rfl⟩

theorem kept_filterSlots (src : Ip4) (proto : UInt8) (port : Nat) (slots : List Slot) :
    Kept (filterSlots src proto port slots).2 slots := by
  induction slots with
  | nil =>
    intro i slot' hslot'
    cases hslot'
  | cons slot rest ih =>
    intro i slot' hslot' hinstalled
    unfold filterSlots at hslot'
    dsimp only at hslot'
    -- The slot that counts the packet keeps its rule, its address and its flag.
    split at hslot'
    · rcases i with _ | i
      · obtain rfl := Option.some.inj hslot'
        rw [Slot.counted_installed] at hinstalled
        obtain ⟨hrule, haddr⟩ := counted_kept slot (slot.rt.installed && slot.rule.allowsSource src)
        exact ⟨slot, rfl, hinstalled, hrule.symm, haddr.symm⟩
      · exact ⟨slot', hslot', hinstalled, rfl, rfl⟩
    · rcases i with _ | i
      · exact ⟨slot', hslot', hinstalled, rfl, rfl⟩
      · exact ih i slot' hslot' hinstalled

theorem kept_allowUplinkPacket (slots : List Slot) (p : List UInt8) :
    Kept (allowUplinkPacket slots p).2 slots := by
  unfold allowUplinkPacket
  split
  · intro i slot' hslot' hinstalled
    exact ⟨slot', hslot', hinstalled, rfl, rfl⟩
  · rename_i src proto port _
    exact kept_filterSlots src proto port slots

namespace Forwarding

/-- A flagged rule has its mapping. -/
def Synced (s : Forwarding) : Prop :=
  ∀ slot ∈ s.slots, slot.rt.installed = true → slot.Mapped s.map

/-- A slot that is flagged holds an enabled rule that has its mapping, none behind the turn of
    the installation is flagged, and what the installation is about to add or to flag is for
    another port than the rules that are flagged, or has been mapped. -/
structure FlagInv (s : Forwarding) : Prop where
  apart : (s.slots.map Slot.rule).Pairwise Rule.Apart
  storing : ∀ t rules, s.tasks t = .storing rules → rules.Pairwise Rule.Apart
  flagged : ∀ slot ∈ s.slots, slot.rt.installed = true →
    slot.rule.enabled = true ∧ slot.Mapped s.map
  turn : ∀ n ∈ s.install.turn, ∀ j slot, n ≤ j → s.slots[j]? = some slot →
    slot.rt.installed = false
  adding : ∀ i rule destination, s.install = .adding i rule destination →
    ∀ slot ∈ s.slots, slot.rt.installed = true →
      ¬ (rule.proto = slot.rule.proto ∧ rule.listenPort = slot.rule.listenPort)
  marking : ∀ i rule, s.install = .marking i rule true →
    ∃ m, lookup s.map rule.proto rule.listenPort = some m ∧ m.dport = rule.destinationPort

/-! ### Steps that keep the flags true -/

variable {slots : List Slot} {map : List Mapping} {keys : List (UInt8 × Nat)}

/-- A task goes on. -/
theorem FlagInv.goto {ph : TaskPhase} (h : s.FlagInv)
    (hph : ∀ rules, ph = .storing rules → rules.Pairwise Rule.Apart) :
    (s.goto t ph).FlagInv := by
  refine ⟨h.apart, ?_, h.flagged, h.turn, h.adding, h.marking⟩
  intro u rules hu
  by_cases hut : u = t
  · subst hut
    rw [tasks_goto_self] at hu
    exact hph rules hu
  · rw [tasks_goto_of_ne s hut] at hu
    exact h.storing u rules hu

/-- The slots change, and none becomes flagged. Those that stay flagged keep their rule. -/
theorem FlagInv.changeSlots (h : s.FlagInv) (hapart : (slots.map Slot.rule).Pairwise Rule.Apart)
    (hkept : Kept slots s.slots) : ({ s with slots := slots } : Forwarding).FlagInv where
  apart := hapart
  storing := h.storing
  flagged := by
    intro slot' hslot' hinstalled
    obtain ⟨i, hi⟩ := List.mem_iff_getElem?.mp hslot'
    obtain ⟨slot, hslot, hinst, hrule, haddr⟩ := hkept i slot' hi hinstalled
    obtain ⟨henabled, hmapped⟩ := h.flagged slot (List.mem_of_getElem? hslot) hinst
    rw [hrule] at henabled
    rw [Slot.Mapped, hrule, haddr] at hmapped
    exact ⟨henabled, hmapped⟩
  -- A slot that is flagged now was flagged before, against its turn.
  turn := by
    intro n hn j slot' hj hslot'
    apply Bool.eq_false_iff.mpr
    intro hinstalled
    obtain ⟨slot, hslot, hinst, -⟩ := hkept j slot' hslot' hinstalled
    rw [h.turn n hn j slot hj hslot] at hinst
    cases hinst
  adding := by
    intro i rule destination hphase slot' hslot' hinstalled
    obtain ⟨j, hj⟩ := List.mem_iff_getElem?.mp hslot'
    obtain ⟨slot, hslot, hinst, hrule, -⟩ := hkept j slot' hj hinstalled
    have hother := h.adding i rule destination hphase slot (List.mem_of_getElem? hslot) hinst
    rwa [hrule] at hother
  marking := h.marking

/-- The installation goes on with another map, in which the flagged rules have their mappings. -/
theorem FlagInv.installAt {ph : InstallPhase} (h : s.FlagInv)
    (hmap : ∀ slot ∈ s.slots, slot.rt.installed = true →
      lookup map slot.rule.proto slot.rule.listenPort =
        lookup s.map slot.rule.proto slot.rule.listenPort)
    (hturn : ∀ n ∈ ph.turn, ∀ j slot, n ≤ j → s.slots[j]? = some slot →
      slot.rt.installed = false)
    (hadding : ∀ i rule destination, ph = .adding i rule destination →
      ∀ slot ∈ s.slots, slot.rt.installed = true →
        ¬ (rule.proto = slot.rule.proto ∧ rule.listenPort = slot.rule.listenPort))
    (hmarking : ∀ i rule, ph = .marking i rule true →
      ∃ m, lookup map rule.proto rule.listenPort = some m ∧ m.dport = rule.destinationPort) :
    (({ s with map := map, installed := keys } : Forwarding).installAt ph).FlagInv where
  -- Only the map and the phase change: what is said about the slots carries over.
  apart := h.apart
  storing := h.storing
  flagged := by
    intro slot hslot hinstalled
    obtain ⟨henabled, hmapped⟩ := h.flagged slot hslot hinstalled
    rw [Slot.Mapped, ← hmap slot hslot hinstalled] at hmapped
    exact ⟨henabled, hmapped⟩
  turn := hturn
  adding := hadding
  marking := hmarking

/-- The installation goes on, with nothing to add or to flag. -/
theorem FlagInv.advance {ph : InstallPhase} (h : s.FlagInv)
    (hturn : ∀ n ∈ ph.turn, ∃ n₀ ∈ s.install.turn, n₀ ≤ n)
    (hadding : ∀ i rule destination, ph ≠ .adding i rule destination)
    (hmarking : ∀ i rule, ph ≠ .marking i rule true) : (s.installAt ph).FlagInv := by
  refine h.installAt (fun _ _ _ => rfl) ?_ (fun i rule destination heq =>
    absurd heq (hadding i rule destination)) fun i rule heq => absurd heq (hmarking i rule)
  intro n hn j slot hj hslot
  obtain ⟨n₀, hn₀, hle⟩ := hturn n hn
  exact h.turn n₀ hn₀ j slot (Nat.le_trans hle hj) hslot

/-- The rule that is read is for another port than the rules flagged before. -/
theorem FlagInv.read {rule : Rule} {destination : Ip4} (h : s.FlagInv)
    (hphase : s.install = .reading i) (hmapping : getMapping s.slots i = some (rule, destination)) :
    (s.installAt (.adding i rule destination)).FlagInv := by
  have hturn := h.turn i (by rw [hphase]; rfl)
  refine h.installAt (fun _ _ _ => rfl) ?_ ?_ (by simp)
  · intro n hn
    obtain rfl := Option.some.inj hn
    exact hturn
  · intro i' rule' destination' heq slot hslot hinstalled hport
    cases heq
    unfold getMapping at hmapping
    split at hmapping
    · cases hmapping
    · rename_i read hread
      rw [Option.ite_none_right_eq_some, Option.some.injEq, Prod.mk.injEq] at hmapping
      obtain ⟨hready, rfl, -⟩ := hmapping
      simp only [Bool.and_eq_true] at hready
      have henabled := (h.flagged slot hslot hinstalled).1
      -- one port, two enabled rules: they are one, and this one is not flagged yet
      have heq := eq_of_apart h.apart (List.mem_of_getElem? hread) hslot hready.1.2 henabled
        hport.1 hport.2
      rw [← heq, hturn i read (Nat.le_refl i) hread] at hinstalled
      cases hinstalled

/-- A slot that holds what was mapped is flagged. That it still does is the condition, as the rule
    may have been replaced since it was read. -/
theorem FlagInv.mark {rule : Rule} (h : s.FlagInv) (hphase : s.install = .marking i rule true)
    (hsync : s.InSync (.install .mark)) :
    ({ s with slots := markInstalled s.slots i true }.installAt (.reading (i + 1))).FlagInv where
  apart := by
    show ((markInstalled s.slots i true).map Slot.rule).Pairwise Rule.Apart
    rw [map_rule_markInstalled]
    exact h.apart
  storing := h.storing
  flagged := by
    intro slot' hslot' hinstalled
    obtain ⟨j, hj⟩ := List.mem_iff_getElem?.mp hslot'
    change (markInstalled s.slots i true)[j]? = some slot' at hj
    unfold markInstalled at hj
    split at hj
    · exact h.flagged slot' (List.mem_of_getElem? hj) hinstalled
    · rename_i slot hslot
      rcases getElem?_set_cases hj with ⟨-, rfl⟩ | ⟨-, hold⟩
      -- the slot that is flagged now
      · obtain ⟨henabled, hproto, hlisten, hport, haddr⟩ :=
          hsync (i, rule) (by rw [hphase]; rfl) slot hslot
        obtain ⟨m, hm, hdport⟩ := h.marking i rule hphase
        refine ⟨henabled, m, ?_, (haddr m hm).symm, hdport.trans hport.symm⟩
        show lookup s.map slot.rule.proto slot.rule.listenPort = some m
        rw [hproto, hlisten]
        exact hm
      · exact h.flagged slot' (List.mem_of_getElem? hold) hinstalled
  turn := by
    intro n hn j slot' hj hslot'
    obtain rfl := Option.some.inj hn
    have hturn := h.turn i (by rw [hphase]; rfl)
    change (markInstalled s.slots i true)[j]? = some slot' at hslot'
    unfold markInstalled at hslot'
    split at hslot'
    · exact hturn j slot' (by omega) hslot'
    · rcases getElem?_set_cases hslot' with ⟨heq, -⟩ | ⟨-, hold⟩
      · omega
      · exact hturn j slot' (by omega) hold
  adding := by
    intro i' rule' destination heq
    cases heq
  marking := by
    intro i' rule' heq
    cases heq

/-- A step of a task. What it stores comes without flags, and what is only switched or resolved
    keeps them where they are right. -/
theorem flagInv_taskStep {a : TaskAction} (h : s.FlagInv)
    (hstep : s.taskStep aton t a = some s') : s'.FlagInv := by
  cases taskStep_cases hstep with
  | setAll => exact h.goto (by simp)
  | noSuchRule => exact h
  | setEnabled => exact h.goto (by simp)
  | checked _ hpass =>
    -- what will be stored has passed the check
    apply h.goto
    intro rules' heq
    cases heq
    exact pairwise_of_setAllError hpass
  | refused => exact h.goto (by simp)
  | @store rules views hphase =>
    have hfresh := kept_of_not_installed s.slots (installed_fresh aton views rules)
    refine (h.changeSlots ?_ hfresh).goto (by simp)
    rw [rules_fresh]
    exact h.storing t rules hphase
  | @managerPass views _ _ hph =>
    have hkept := kept_resolveAll aton views s.slots
    refine (h.changeSlots ?_ hkept).goto ?_
    · rw [(resolveAll_quieter aton views s.slots).rules]
      exact h.apart
    · rcases hph with rfl | rfl <;> simp
  | portmapRefused => exact h
  | portmapSetAll => exact h.goto (by simp)
  -- the AP-side table plays no part
  | portmapClear =>
    have hinv : ({ s with table := [] } : Forwarding).FlagInv :=
      ⟨h.apart, h.storing, h.flagged, h.turn, h.adding, h.marking⟩
    exact hinv.goto (by simp)
  | @portmapPut e rest table =>
    have hinv : ({ s with table := table } : Forwarding).FlagInv :=
      ⟨h.apart, h.storing, h.flagged, h.turn, h.adding, h.marking⟩
    exact hinv.goto (by simp)
  | portmapStore _ hph =>
    apply h.goto
    rcases hph with rfl | rfl <;> simp
  | gotIp => exact h.goto (by simp)
  | @installAll _ n =>
    have hinv : ({ s with queued := n } : Forwarding).FlagInv :=
      ⟨h.apart, h.storing, h.flagged, h.turn, h.adding, h.marking⟩
    exact hinv.goto (by simp)

/-- A step of the installation. It flags one slot at a time, and only behind the mapping of its
    rule. -/
theorem flagInv_installStep {a : InstallAction} (h : s.FlagInv) (hsync : s.InSync (.install a))
    (hstep : s.installStep a = some s') : s'.FlagInv := by
  cases installStep_cases hstep with
  | noAddress => exact ⟨h.apart, h.storing, h.flagged, h.turn, h.adding, h.marking⟩
  | @start n bindIp =>
    have hbound : ({ s with queued := n, bindIp := bindIp } : Forwarding).FlagInv :=
      ⟨h.apart, h.storing, h.flagged, h.turn, h.adding, h.marking⟩
    exact hbound.advance (by simp [InstallPhase.turn]) (by simp) (by simp)
  | @remove proto port rest hphase hinstalled =>
    have hinv : (({ s with map := ipPortmapRemove s.map proto port, installed := rest }
        : Forwarding).installAt .removing).FlagInv := by
      refine h.installAt ?_ (by simp [InstallPhase.turn]) (by simp) (by simp)
      -- the condition: no flagged rule loses its mapping
      intro slot hslot hflag
      rw [lookup_remove, if_neg (hsync (proto, port) (by rw [hinstalled]; rfl) slot hslot hflag)]
    rw [Forwarding.installAt, ← hphase] at hinv
    exact hinv
  | prepare =>
    have hnone : ∀ slot ∈ prepareInstall s.slots, slot.rt.installed = false := by
      intro slot hslot
      obtain ⟨_, -, rfl⟩ := List.mem_map.mp hslot
      rfl
    have hslots := h.changeSlots ?_ (kept_of_not_installed s.slots hnone)
    · refine hslots.installAt (fun _ _ _ => rfl) ?_ (by simp) (by simp)
      intro n _ j slot _ hslot
      exact hnone slot (List.mem_of_getElem? hslot)
    · rw [(prepareInstall_quieter s.slots).rules]
      exact h.apart
  | mapped hphase => exact h.advance (by simp [InstallPhase.turn, hphase]) (by simp) (by simp)
  | skipAp hphase => exact h.advance (by simp [InstallPhase.turn, hphase]) (by simp) (by simp)
  | mapAp hphase => exact h.advance (by simp [InstallPhase.turn, hphase]) (by simp) (by simp)
  | addApFull hphase => exact h.advance (by simp [InstallPhase.turn, hphase]) (by simp) (by simp)
  | recordAp hphase =>
    have hturn := h.turn 0 (by rw [hphase]; rfl)
    refine h.installAt (fun _ _ _ => rfl) ?_ (by simp) (by simp)
    intro n hn
    obtain rfl := Option.some.inj hn
    exact hturn
  | addAp hphase =>
    have hturn := h.turn 0 (by rw [hphase]; rfl)
    refine h.installAt ?_ ?_ (by simp) (by simp)
    -- nothing is flagged yet, so no mapping can be shadowed
    · intro slot hslot hinstalled
      obtain ⟨j, hj⟩ := List.mem_iff_getElem?.mp hslot
      rw [hturn j slot (Nat.zero_le j) hj] at hinstalled
      cases hinstalled
    · intro n hn
      obtain rfl := Option.some.inj hn
      exact hturn
  | finish => exact h.advance (by simp [InstallPhase.turn]) (by simp) (by simp)
  | skipRule hphase => exact h.advance (by simp [InstallPhase.turn, hphase]) (by simp) (by simp)
  | read hphase _ hmapping => exact h.read hphase hmapping
  | @add i rule destination room new hphase hnew =>
    have hturn := h.turn i (by rw [hphase]; rfl)
    have hother := h.adding i rule destination hphase
    refine h.installAt ?_ ?_ (by simp) ?_
    · intro slot hslot hflag
      rw [lookup_add, if_neg fun hkey => hother slot hslot hflag ?_]
      rw [hnew] at hkey
      exact hkey.2
    · intro n hn
      obtain rfl := Option.some.inj hn
      exact hturn
    · intro i' rule' heq
      cases room with
      | false => cases heq
      -- what was added is found first
      | true =>
        cases heq
        rw [hnew]
        exact ⟨_, lookup_add_self s.map _, rfl⟩
  | @mark i rule ok hphase =>
    cases ok with
    | true => exact h.mark hphase hsync
    | false =>
      have hslots := h.changeSlots ?_ (kept_markInstalled_false s.slots i)
      · exact hslots.advance (by simp [InstallPhase.turn, hphase]) (by simp) (by simp)
      · rw [map_rule_markInstalled]
        exact h.apart

/-- **Step lemma.** -/
theorem flagInv_step {a : ForwardAction} (h : s.FlagInv) (hsync : s.InSync a)
    (hstep : s.step aton a = some s') : s'.FlagInv := by
  cases a with
  | task t a => exact flagInv_taskStep h hstep
  | install a => exact flagInv_installStep h hsync hstep
  | packet p =>
    obtain rfl := Option.some.inj hstep
    have hinv := h.changeSlots (by
      rw [(allowUplinkPacket_quieter s.slots p).rules]
      exact h.apart) (kept_allowUplinkPacket s.slots p)
    unfold packet
    dsimp only
    split
    · split
      · exact ⟨hinv.apart, hinv.storing, hinv.flagged, hinv.turn, hinv.adding, hinv.marking⟩
      · exact hinv
    · exact hinv

theorem flagInv_booted (h : s.Booted) : s.FlagInv where
  apart := h.rules
  storing t rules htask := by
    rw [h.tasks] at htask
    cases htask
  flagged slot hslot hinstalled := by
    rw [h.installed slot hslot] at hinstalled
    cases hinstalled
  turn n hn := by
    rw [h.install] at hn
    cases hn
  adding i rule destination heq := by
    rw [h.install] at heq
    cases heq
  marking i rule heq := by
    rw [h.install] at heq
    cases heq

theorem installedInv_booted (h : s.Booted) (hnone : s.installed = []) : s.InstalledInv where
  recorded proto port hsome := by
    rw [h.map] at hsome
    cases hsome
  present _ key hmem := by
    rw [hnone] at hmem
    cases hmem
  pending x hx := by
    rw [h.install] at hx
    cases hx

theorem counted_booted (hnone : s.installed = []) : s.Counted := by
  rw [Counted, hnone]
  exact Nat.zero_le _

end Forwarding

/-- **Installation records.** In every interleaving in sync, a rule that is flagged has its
    mapping in lwIP's map, and lwIP's map has entries for exactly the keys in `s_installed`
    whenever no installation is under way.  In every interleaving at all, the array is large
    enough. -/
theorem installSync {actions : List ForwardAction} (hboot : s.Booted) (hnone : s.installed = [])
    (hrun : (Forwarding.machine aton).run s actions = some s') :
    ((Forwarding.machine aton).Meets Forwarding.InSync s actions →
      s'.Synced ∧ (s'.install = .idle → ∀ proto port,
        (proto, port) ∈ s'.installed ↔ (lookup s'.map proto port).isSome = true)) ∧
      s'.installed.length ≤ portmapMax + tailnetForwardMax := by
  refine ⟨fun hmeets => ⟨?_, fun hidle proto port => ?_⟩, ?_⟩
  -- The flags hold in sync only.
  · have hflags : s'.FlagInv := by
      apply Machine.invariant_of_meets ?_ hmeets hrun (Forwarding.flagInv_booted hboot)
      intro u a u' hsync hstep hu
      exact Forwarding.flagInv_step hu hsync hstep
    exact fun slot hslot hflag => (hflags.flagged slot hslot hflag).2
  -- So do the records; between installations no key is pending.
  · have hinstalled : s'.InstalledInv := by
      apply Machine.invariant_of_meets ?_ hmeets hrun (Forwarding.installedInv_booted hboot hnone)
      intro u a u' hsync hstep hu
      exact Forwarding.installedInv_step hu hsync hstep
    refine ⟨hinstalled.present (by rw [hidle]; simp) (proto, port), fun hsome => ?_⟩
    refine (hinstalled.recorded proto port hsome).resolve_right fun hpending => ?_
    rw [hidle] at hpending
    cases hpending
  -- The bound needs no such condition.
  · have hcounted : s'.Counted := by
      apply Machine.invariant ?_ hrun (Forwarding.counted_booted hnone)
      intro u a u' hstep hu
      exact Forwarding.counted_step hu hstep
    refine Nat.le_trans hcounted ?_
    cases s'.install <;> simp only [InstallPhase.bound, tailnetForwardMax] <;> omega

/-! ### An installation, alone and next to an update -/

/-- The rule that is installed is flagged, and mapped. -/
theorem installed_rule_mapped :
    ∃ t, (Forwarding.machine fun _ => none).run bootedForwarding installActions = some t ∧
      t.slots.map (·.rt.installed) = [true] ∧ t.Synced := by
  have hmeets : (Forwarding.machine fun _ => none).Meets Forwarding.InSync bootedForwarding
      installActions := by
    decide +kernel
  have hflags : ((Forwarding.machine fun _ => none).run bootedForwarding installActions).map
      (fun t => t.slots.map (·.rt.installed)) = some [true] := by
    decide +kernel
  obtain ⟨t, hrun, hflag⟩ := Option.map_eq_some_iff.mp hflags
  exact ⟨t, hrun, hflag, ((installSync bootedForwarding_booted rfl hrun).1 hmeets).1⟩

/-- TCP port 3333, to port 33 of the same host. -/
def otherRule : Rule := { sshRule with listenPort := 3333, destinationPort := 33 }

/-- The rule is replaced after the installation has read it. The mapping is then added for the old
    rule, and the flag set on the new one. -/
def replacedActions : List ForwardAction :=
  [.task 0 (.managerPass fun _ => ⟨true, true, 0x64400009#32⟩), .task 0 (.installAll true),
    .install (.start (some 0xC0A80102#32)), .install .remove] ++
  List.replicate 17 (.install .mapAp) ++
  [.install .read, .task 1 (.setAll [otherRule]), .task 1 (.check 80 true),
    .task 1 (.store fun _ => ⟨true, true, 0x64400009#32⟩), .install (.add true), .install .mark]

/-- **A flag without a mapping**: the new rule is flagged, its port is not mapped. -/
theorem replaced_rule_flagged :
    bootedForwarding.Booted ∧ bootedForwarding.installed = [] ∧
      ((Forwarding.machine fun _ => none).run bootedForwarding replacedActions).map
        (fun t => (t.slots.map fun slot => (slot.rule, slot.rt.installed),
          (lookup t.map otherRule.proto otherRule.listenPort).isSome)) =
        some ([(otherRule, true)], false) :=
  ⟨bootedForwarding_booted, rfl, by decide +kernel⟩

/-- TCP port 8080, to port 80 of an AP client. -/
def mappedEntry : PortmapEntry := ⟨6, true, 8080, 80, 0xC0A80402#32⟩

/-- The AP-side table is emptied between the mapping of its entry and the record. The key that is
    recorded is then not the one that was mapped. -/
def clearedActions : List ForwardAction :=
  [.task 0 .gotIp, .task 0 (.installAll true), .install (.start (some 0xC0A80102#32)),
    .install .remove, .install .mapAp, .install (.addAp true), .task 1 (.portmapSetAll [] 80),
    .task 1 .portmapClear, .install .recordAp] ++
  List.replicate 16 (.install .mapAp) ++ List.replicate 9 (.install .read)

-- A mapping without its record: port 8080 stays mapped, and what is recorded, and will be
-- removed by the next installation, is port 0.
example :
    ((Forwarding.machine fun _ => none).run { bootedForwarding with table := [mappedEntry] }
        clearedActions).map
      (fun t => (t.install, t.installed, (lookup t.map 6 8080).isSome)) =
        some (.idle, [(0, 0)], true) := by
  decide +kernel

end SubnetRouter.TailnetForward
