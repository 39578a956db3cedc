import Mathlib.Data.List.Nodup
import SubnetRouter.Lib.Run
import SubnetRouter.RouteHook
import SubnetRouter.ForwardFilter

namespace SubnetRouter.NetifHooks

open SubnetRouter.Lib
open SubnetRouter.TailnetForward

/-!
# The input hook of the tunnel (`main/netif_hooks.c`)

`netif_hooks_refresh_cb` looks for the tunnel netif, saves its input function in one global
and puts `wg_input_hook` in its place; the hook filters a packet and passes it to the saved
function.  Netifs come and go, and change their addresses, between two refreshes.

* `Hooks` — the netif list, and the two globals.
* `netifHooksRefreshCb`, `callInput` — the refresh, and what becomes of a packet.
* `delivers_refresh_iff` — when a refresh keeps each packet at its own netif.
* `wgInputHook_delivers` — the runs whose refreshes are so.
-/

/-! ### The netif list -/

/-- A netif's input function: the one it was added with, under a number, or the hook. -/
inductive InputFn where
  | own (f : Nat)
  | wgInputHook
deriving DecidableEq, Repr

/-- A `struct netif` in the list. Its input function is its own, or the hook; there is no third
    one. -/
structure Node where
  netif : Netif
  /-- Where the struct is. -/
  ptr : Nat
  /-- The input function that the netif was added with. -/
  original : Nat
  input : InputFn
  input_eq : input = .own original ∨ input = .wgInputHook
deriving DecidableEq

/-- A netif is added with a function of its own. -/
theorem own_input (original : Nat) :
    InputFn.own original = .own original ∨ InputFn.own original = .wgInputHook := .inl rfl

/-- `n->input = wg_input_hook`. -/
def Node.hook (n : Node) : Node := { n with input := .wgInputHook, input_eq := .inr rfl }

/-- `netif_list`; no two netifs are at one place. -/
structure NetifList where
  nodes : List Node
  nodup : (nodes.map Node.ptr).Nodup
deriving DecidableEq

namespace NetifList

/-- `netif_add` puts a netif in front. -/
def add (l : NetifList) (n : Node) (h : n.ptr ∉ l.nodes.map Node.ptr) : NetifList :=
  ⟨n :: l.nodes, List.nodup_cons.mpr ⟨h, l.nodup⟩⟩

/-- `netif_remove`. -/
def remove (l : NetifList) (ptr : Nat) : NetifList :=
  ⟨l.nodes.filter (·.ptr != ptr), l.nodup.sublist (List.filter_sublist.map _)⟩

/-- A netif is written to. The structs stay where they are, so their addresses stay different. -/
def modify (l : NetifList) (ptr : Nat) (f : Node → Node) (hf : ∀ n, (f n).ptr = n.ptr) :
    NetifList where
  nodes := l.nodes.map fun n => if n.ptr = ptr then f n else n
  nodup := by
    have hptr : (Node.ptr ∘ fun n => if n.ptr = ptr then f n else n) = Node.ptr := by
      ext n
      show Node.ptr (if n.ptr = ptr then f n else n) = n.ptr
      split_ifs
      · exact hf n
      · rfl
    rw [List.map_map, hptr]
    exact l.nodup

/-- A netif of the list is known by its place. -/
theorem eq_of_ptr {l : NetifList} {m n : Node} (hm : m ∈ l.nodes) (hn : n ∈ l.nodes)
    (h : m.ptr = n.ptr) : m = n :=
  List.inj_on_of_nodup_map l.nodup hm hn h

end NetifList

/-! ### The hook -/

/-- The list with `hooked_wg` and `original_wg_input`. Only one original is kept, for the netif that
    was hooked last. -/
structure Hooks where
  netifList : NetifList
  hookedWg : Option Nat
  originalWgInput : Option InputFn
deriving DecidableEq

/-- The netif that the refresh stops at: the first with its address in 100.64.0.0/10. -/
def refreshTarget (nodes : List Node) : Option Node :=
  nodes.find? fun n => n.netif.ipAddr != 0#32 && ipInCgnat n.netif.ipAddr

/-- `n == hooked_wg && n->input == wg_input_hook`. -/
def Hooks.isHooked (s : Hooks) (n : Node) : Bool :=
  s.hookedWg == some n.ptr && n.input == .wgInputHook

/-- `netif_hooks_refresh_cb`. A netif that is hooked already is left alone, and then nothing
    changes. -/
def netifHooksRefreshCb (s : Hooks) : Hooks :=
  match refreshTarget s.netifList.nodes with
  | none => s
  | some n =>
    if s.isHooked n then s
    -- what is saved may be `wg_input_hook` itself, and any earlier original is lost
    else
      { netifList := s.netifList.modify n.ptr Node.hook fun _ => rfl
        hookedWg := some n.ptr
        originalWgInput := some n.input }

/-- What becomes of a packet. It is dropped by a list, or handed to the input function of a
    netif. -/
inductive Delivery where
  | dropped
  /-- There is no saved function: `ERR_VAL`. -/
  | rejected
  | passedTo (f : Nat)
deriving DecidableEq, Repr

/-- The call of an input function; the hook calls the saved one, which may be the hook again. Then
    the calls would go on without end, which is the result `none` for every fuel. -/
def callInput (s : Hooks) (slots : List Slot) (p : List UInt8) : Nat → InputFn → Option Delivery
  | 0, _ => none
  | _ + 1, .own f => some (.passedTo f)
  | fuel + 1, .wgInputHook =>
    if !allowNonUplinkPacket slots p false then some .dropped
    else
      match s.originalWgInput with
      | none => some .rejected
      | some g => callInput s slots p fuel g

/-- What may happen on lwIP's thread. A netif is known by the address of its struct, also to the
    hook. -/
inductive Act where
  | netifAdd (netif : Netif) (ptr original : Nat)
  | netifRemove (ptr : Nat)
  | setAddr (ptr : Nat) (ipAddr netmask : Ip4)
  | refresh
deriving DecidableEq

/-- One event. The place of a netif that was removed may be taken again. The hook is told nothing
    about it, and compares addresses. -/
def step (s : Hooks) : Act → Option Hooks
  | .netifAdd netif ptr original =>
    if h : ptr ∉ s.netifList.nodes.map Node.ptr then
      some { s with
        netifList := s.netifList.add
          ⟨netif, ptr, original, .own original, own_input original⟩ h }
    else none
  | .netifRemove ptr => some { s with netifList := s.netifList.remove ptr }
  | .setAddr ptr ipAddr netmask => some
    { s with
      netifList := s.netifList.modify ptr
        (fun n => { n with netif := { n.netif with ipAddr := ipAddr, netmask := netmask } })
        fun _ => rfl }
  | .refresh => some (netifHooksRefreshCb s)

/-- The events as a machine. -/
def machine : Machine Hooks Act := ⟨step⟩

/-- No netif yet. -/
def initial : Hooks := ⟨⟨[], List.nodup_nil⟩, none, none⟩

/-! ### Where the packets go -/

variable {s : Hooks} {slots : List Slot} {p : List UInt8}

/-- The saved function is not the hook, and the packet of any hooked netif is dropped by the
    filter or passed, once, to that netif's own function. -/
def Delivers (s : Hooks) : Prop :=
  s.originalWgInput ≠ some .wgInputHook ∧
    ∀ n ∈ s.netifList.nodes, n.input = .wgInputHook →
      s.originalWgInput = some (.own n.original) ∧
      ∀ slots p fuel, 2 ≤ fuel → callInput s slots p fuel n.input =
        some (if allowNonUplinkPacket slots p false then .passedTo n.original else .dropped)

/-- A saved function that is a netif's own gets the packets that are not dropped. -/
theorem callInput_of_original {f fuel : Nat} (h : s.originalWgInput = some (.own f))
    (hfuel : 2 ≤ fuel) :
    callInput s slots p fuel .wgInputHook =
      some (if allowNonUplinkPacket slots p false then .passedTo f else .dropped) := by
  obtain ⟨fuel, rfl⟩ := Nat.exists_eq_add_of_le' hfuel
  rw [callInput, h]
  cases allowNonUplinkPacket slots p false <;> rfl

/-- A saved function that is the hook itself calls itself without end. -/
theorem callInput_of_hook (h : s.originalWgInput = some .wgInputHook)
    (hallow : allowNonUplinkPacket slots p false = true) (fuel : Nat) :
    callInput s slots p fuel .wgInputHook = none := by
  induction fuel with
  | zero => rfl
  | succ fuel ih =>
    rw [callInput, hallow, h]
    exact ih

/-- Where the packets go is decided by what was saved. -/
theorem delivers_iff : Delivers s ↔ s.originalWgInput ≠ some .wgInputHook ∧
    ∀ n ∈ s.netifList.nodes, n.input = .wgInputHook →
      s.originalWgInput = some (.own n.original) := by
  refine and_congr_right fun _ => forall₂_congr fun n _ => ?_
  constructor
  · intro h hhook
    exact (h hhook).1
  · intro h hhook
    refine ⟨h hhook, fun slots p fuel hfuel => ?_⟩
    rw [hhook]
    exact callInput_of_original (h hhook) hfuel

/-- Netifs that were hooked before, and no others, stay as they were. -/
theorem Delivers.of_hooked {t : Hooks} (h : Delivers s)
    (horiginal : t.originalWgInput = s.originalWgInput)
    (hnodes : ∀ n ∈ t.netifList.nodes, n.input = .wgInputHook →
      ∃ m ∈ s.netifList.nodes, m.input = .wgInputHook ∧ m.original = n.original) :
    Delivers t := by
  rw [delivers_iff] at h ⊢
  rw [horiginal]
  refine ⟨h.1, fun n hn hhook => ?_⟩
  obtain ⟨m, hm, hmhook, heq⟩ := hnodes n hn hhook
  rw [← heq]
  exact h.2 m hm hmhook

/-- If the refresh installs the hook, then on a netif without it, and any netif that still has
    it has the same function of its own. -/
def KeepsOriginal (s : Hooks) : Prop :=
  ∀ n ∈ refreshTarget s.netifList.nodes, s.isHooked n = false →
    n.input ≠ .wgInputHook ∧
      ∀ m ∈ s.netifList.nodes, m.input = .wgInputHook → m.original = n.original

instance (s : Hooks) : Decidable (KeepsOriginal s) :=
  inferInstanceAs (Decidable (∀ n ∈ refreshTarget s.netifList.nodes, _))

/-- **One refresh.** It keeps each packet at its own netif exactly when `KeepsOriginal`. -/
theorem delivers_refresh_iff (h : Delivers s) :
    Delivers (netifHooksRefreshCb s) ↔ KeepsOriginal s := by
  unfold netifHooksRefreshCb KeepsOriginal
  cases htarget : refreshTarget s.netifList.nodes with
  | none => simpa using h
  | some n =>
    have hn : n ∈ s.netifList.nodes := List.mem_of_find?_eq_some htarget
    cases hhooked : s.isHooked n with
    | true => simpa [hhooked] using h
    | false =>
      simp only [hhooked, Bool.false_eq_true, if_false, Option.mem_some_iff, forall_eq',
        forall_true_left]
      rw [delivers_iff]
      -- the list after the refresh, with what it saved
      show some n.input ≠ _ ∧ (∀ m' ∈ s.netifList.nodes.map _, _) ↔ _
      rw [List.forall_mem_map, Ne, Option.some.injEq]
      refine and_congr_right fun hinput => forall₂_congr fun m hm => ?_
      have hown : n.input = .own n.original := n.input_eq.resolve_right hinput
      split_ifs with hptr
      · -- the netif that is hooked
        obtain rfl : m = n := NetifList.eq_of_ptr hm hn hptr
        simp [Node.hook, hown]
      · simp [hown, eq_comm]

/-- A refresh of the run keeps the originals. -/
def RefreshKeeps (s : Hooks) (a : Act) : Prop := a = .refresh → KeepsOriginal s

instance (s : Hooks) (a : Act) : Decidable (RefreshKeeps s a) :=
  inferInstanceAs (Decidable (_ → _))

/-- No other event hooks a netif. A refresh does, and the condition is about it. -/
theorem delivers_step {t : Hooks} {a : Act} (hkeep : RefreshKeeps s a)
    (hstep : step s a = some t) (h : Delivers s) : Delivers t := by
  cases a with
  | netifAdd netif ptr original =>
    rw [step, Option.dite_none_right_eq_some] at hstep
    obtain ⟨_, hstep⟩ := hstep
    obtain rfl := Option.some.inj hstep
    refine h.of_hooked rfl fun n hn hhook => ?_
    rcases List.mem_cons.mp hn with rfl | hn
    · cases hhook
    · exact ⟨n, hn, hhook, rfl⟩
  | netifRemove ptr =>
    obtain rfl := Option.some.inj hstep
    exact h.of_hooked rfl fun n hn hhook => ⟨n, List.mem_of_mem_filter hn, hhook, rfl⟩
  | setAddr ptr ipAddr netmask =>
    obtain rfl := Option.some.inj hstep
    refine h.of_hooked rfl fun n hn hhook => ?_
    obtain ⟨m, hm, rfl⟩ := List.mem_map.mp hn
    refine ⟨m, hm, ?_⟩
    -- an address changes neither the input function nor the original
    split_ifs at hhook ⊢
    · exact ⟨hhook, rfl⟩
    · exact ⟨hhook, rfl⟩
  | refresh =>
    obtain rfl := Option.some.inj hstep
    exact (delivers_refresh_iff h).mpr (hkeep rfl)

/-- **Delivery.** While every refresh keeps the originals, each packet that reaches the hook
    is dropped by the filter or passed to its own netif's function. -/
theorem wgInputHook_delivers {events : List Act} {t : Hooks}
    (hkeeps : machine.Meets RefreshKeeps initial events)
    (hrun : machine.run initial events = some t) : Delivers t :=
  machine.invariant_of_meets (fun _ _ _ => delivers_step) hkeeps hrun
    (delivers_iff.mpr ⟨by simp [initial], by simp [initial]⟩)

/-- A station uplink behind a carrier's address translation: 100.72.0.2. -/
def carrierSta : Netif := ⟨('s', 't'), 1, 0x64480002#32, 0xFFFF0000#32, true, true⟩

/-- The tunnel comes up in front of the station, and is hooked. -/
def tunnelEvents (sta : Netif) : List Act :=
  [.netifAdd sta 1 10, .netifAdd RouteHook.wgNetif 2 20, .refresh, .refresh]

theorem tunnel_delivers :
    ∃ t, machine.run initial (tunnelEvents carrierSta) = some t ∧ Delivers t := by
  have hkeeps : machine.Meets RefreshKeeps initial (tunnelEvents carrierSta) := by decide
  exact ⟨_, rfl, wgInputHook_delivers hkeeps rfl⟩

/-- The station is hooked before the tunnel is there; its packets then go to the tunnel's
    function.  When the tunnel goes, the hook saves and calls itself. -/
theorem station_misdelivered :
    (machine.run initial [.netifAdd carrierSta 1 10, .refresh,
        .netifAdd RouteHook.wgNetif 2 20, .refresh]).map
      (fun s => (s.netifList.nodes.map fun n => (n.original, callInput s [] [] 2 n.input))) =
      some [(20, some (.passedTo 20)), (10, some (.passedTo 20))] ∧
    ∃ s, machine.run initial [.netifAdd carrierSta 1 10, .refresh,
        .netifAdd RouteHook.wgNetif 2 20, .refresh, .netifRemove 2, .refresh] = some s ∧
      s.originalWgInput = some .wgInputHook ∧
      ∀ fuel, callInput s [] [] fuel .wgInputHook = none := by
  refine ⟨by decide, _, rfl, by decide, fun fuel => ?_⟩
  exact callInput_of_hook (by decide) (by decide) fuel

end SubnetRouter.NetifHooks
