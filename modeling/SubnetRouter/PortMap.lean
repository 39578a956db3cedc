import SubnetRouter.TailnetForward

namespace SubnetRouter.TailnetForward

/-!
# Port mappings (`main/portmap.c`)

The AP-side table, and lwIP's port map, into which it and the Tailnet rules are installed.
lwIP's map is taken as what its calls are meant to do: a table with one entry for a protocol
and port, which `ip_portmap_add` puts in if there is room and `ip_portmap_remove` takes out.
An entry remembers the Tailnet rule it was made from, if it was made from one.

* `portmapSetAllConflict`, `portmapFill` — the checks and the update of `portmap_set_all`.
* `ipPortmapAdd`, `ipPortmapRemove`, `lookup` — lwIP's map.
-/

/-- `PORTMAP_MAX`. -/
def portmapMax : Nat := 16

/-- `portmap_entry_t`, without its name. Ports are in host order, as in the source. -/
structure PortmapEntry where
  proto : UInt8
  valid : Bool
  extPort : Nat
  intPort : Nat
  intIp : Ip4
deriving DecidableEq, Repr

/-! ### The AP-side table -/

/-- `entry_is_filled`. -/
def PortmapEntry.isFilled (e : PortmapEntry) : Bool :=
  if e.extPort == 0 || e.intPort == 0 || e.intIp == 0 then false
  else if e.proto != 6 && e.proto != 17 then false
  else true

/-- `portmap_listen_conflicts`. -/
def portmapListenConflicts (table : List PortmapEntry) (proto : UInt8) (port : Nat) : Bool :=
  table.any fun e => e.valid && e.proto == proto && e.extPort == port

/-- `tailnet_forward_listen_conflicts`. -/
def tailnetForwardListenConflicts (slots : List Slot) (proto : UInt8) (port : Nat) : Bool :=
  slots.any fun slot => slot.rule.listens proto port

/-- The checks of `portmap_set_all`, behind the entries `before`: a conflict. Each entry is compared
    with the Tailnet rules, the port of the web page and the entries in front of it. -/
def portmapConflict (slots : List Slot) (webUiConfiguredPort : Nat) :
    List PortmapEntry → List PortmapEntry → Bool
  | _, [] => false
  | before, e :: rest =>
    if e.isFilled && (tailnetForwardListenConflicts slots e.proto e.extPort ||
        e.proto == 6 && e.extPort == webUiConfiguredPort ||
        before.any fun b => b.isFilled && b.proto == e.proto && b.extPort == e.extPort) then true
    else portmapConflict slots webUiConfiguredPort (before ++ [e]) rest

/-- The table that `portmap_set_all` fills. -/
def portmapFill (arr : List PortmapEntry) : List PortmapEntry :=
  (arr.filter PortmapEntry.isFilled).map fun e => { e with valid := true }

/-! ### lwIP's port map -/

/-- An entry of lwIP's map, with the rule it was made from. The rule is not in the map itself: it is
    remembered to say what a packet was forwarded by. -/
structure Mapping where
  proto : UInt8
  maddr : Ip4
  mport : Nat
  daddr : Ip4
  dport : Nat
  creator : Option Rule
deriving DecidableEq, Repr

/-- The entry is for this protocol and port. -/
def Mapping.isFor (m : Mapping) (proto : UInt8) (port : Nat) : Bool :=
  m.proto == proto && m.mport == port

/-- `ip_portmap_remove`. -/
def ipPortmapRemove (map : List Mapping) (proto : UInt8) (port : Nat) : List Mapping :=
  -- the creator plays no part: an AP-side entry for the port goes as well
  map.filter fun m => !m.isFor proto port

/-- `ip_portmap_add`, which returns whether there was room. -/
def ipPortmapAdd (map : List Mapping) (m : Mapping) (room : Bool) : Bool × List Mapping :=
  if room then (true, m :: ipPortmapRemove map m.proto m.mport) else (false, map)

/-- The entry that forwards packets for this protocol and port. -/
def lookup (map : List Mapping) (proto : UInt8) (port : Nat) : Option Mapping :=
  map.find? fun m => m.isFor proto port

variable {map : List Mapping} {m : Mapping} {proto proto' : UInt8} {port port' : Nat}

/-- Entries are for one protocol and port. -/
theorem isFor_iff : m.isFor proto port = true ↔ m.proto = proto ∧ m.mport = port := by
  rw [Mapping.isFor, Bool.and_eq_true, beq_iff_eq, beq_iff_eq]

/-- A removal empties one protocol and port. Everything else is found as before. -/
theorem lookup_remove (map : List Mapping) (proto' : UInt8) (port' : Nat) (proto : UInt8)
    (port : Nat) : lookup (ipPortmapRemove map proto' port') proto port =
      if proto' = proto ∧ port' = port then none else lookup map proto port := by
  rw [lookup, ipPortmapRemove, List.find?_filter]
  -- Of the entries that are left none is for the key that was removed.
  split_ifs with hkey
  · obtain ⟨rfl, rfl⟩ := hkey
    rw [List.find?_eq_none]
    intro m _
    simp
  -- For another key, being left is no condition on its own entries.
  · have hsame : ∀ m : Mapping, decide ((!m.isFor proto' port') = true ∧
        m.isFor proto port = true) = m.isFor proto port := by
      intro m
      by_cases hm : m.isFor proto port = true
      · have hother : ¬ m.isFor proto' port' = true := by
          intro h'
          obtain ⟨hproto, hport⟩ := isFor_iff.mp hm
          obtain ⟨hproto', hport'⟩ := isFor_iff.mp h'
          exact hkey ⟨hproto'.symm.trans hproto, hport'.symm.trans hport⟩
        simp [hm, hother]
      · simp [hm]
    simp only [hsame]
    rfl

/-- An addition, if there is room, fills the protocol and port of the new entry. -/
theorem lookup_add (map : List Mapping) (new : Mapping) (room : Bool) (proto : UInt8)
    (port : Nat) : lookup (ipPortmapAdd map new room).2 proto port =
      if room = true ∧ new.proto = proto ∧ new.mport = port then some new
      else lookup map proto port := by
  cases room with
  | false => simp [ipPortmapAdd]
  | true =>
    show (new :: ipPortmapRemove map new.proto new.mport).find? _ = _
    rw [List.find?_cons]
    by_cases hfor : new.proto = proto ∧ new.mport = port
    · rw [isFor_iff.mpr hfor, if_pos ⟨rfl, hfor⟩]
    · rw [Bool.eq_false_iff.mpr fun h => hfor (isFor_iff.mp h), if_neg fun h => hfor h.2]
      show lookup (ipPortmapRemove map new.proto new.mport) proto port = _
      rw [lookup_remove, if_neg hfor]

/-- What is found after a removal was there before. -/
theorem lookup_of_remove (h : lookup (ipPortmapRemove map proto' port') proto port = some m) :
    lookup map proto port = some m := by
  rw [lookup_remove, Option.ite_none_left_eq_some] at h
  exact h.2

/-- What is found after an addition is the new entry or was there before. -/
theorem lookup_of_add {new : Mapping} {room : Bool}
    (h : lookup (ipPortmapAdd map new room).2 proto port = some m) :
    (m = new ∧ new.proto = proto ∧ new.mport = port) ∨ lookup map proto port = some m := by
  rw [lookup_add] at h
  split_ifs at h with hfor
  · exact .inl ⟨(Option.some.inj h).symm, hfor.2⟩
  · exact .inr h

/-- An entry that was added is found. -/
theorem lookup_add_self (map : List Mapping) (new : Mapping) :
    lookup (ipPortmapAdd map new true).2 new.proto new.mport = some new := by
  rw [lookup_add, if_pos ⟨rfl, rfl, rfl⟩]

end SubnetRouter.TailnetForward
