import SubnetRouter.MssClamp
import SubnetRouter.Settings.RejectedSaves

namespace SubnetRouter.PathMtu

open Lib NetifHooks Settings TailscaleSave

/-!
# The MTU of the tunnel, and what clients are told (`main/tailscale_mtu.c`, `main/netif_hooks.c`)

`tailscale_mtu_update` derives three numbers from the mode and the peers: the MTU of the tunnel
netif, the segment size that SYNs are clamped to, and the MTU that the AP hook compares packets with
and signals.

* `anyDirectPeer`, `exitPathIsDerp`, `apInputHook` — the code.
* `derived_update` — the three numbers, while the tunnel is enabled.
* `nextHopMtu_reply` — what an answer signals.
* `path_mtu_agrees` — what passes the AP hook, what is signalled and what a segment takes, in the
  numbers of the code: all three are 20 more than the tunnel carries.
* `path_mtu_agrees_iff` — the hook agrees with the tunnel on exactly the packets that the tunnel
  carries anyway.
* `long_packet_passes` — a packet that is longer than the MTU of the tunnel passes unanswered.
-/

/-! ### The code -/

/-- `microlink_peer_info_t`, as far as it is read here. -/
structure PeerPath where
  vpnIp : Ip4
  online : Bool
  directPath : Bool

/-- The peers of `tailscale_get_microlink`, if it runs, as `microlink_get_peer_info` tells them. -/
abbrev Peers := Option (List (Option PeerPath))

/-- `any_direct_peer`. Slots that cannot be read are passed over. -/
def anyDirectPeer : Peers → Bool
  | none => false
  | some peers => peers.any fun
    | some pi => pi.online && pi.directPath
    | none => false

/-- `exit_path_is_derp`. An exit node that is not among the peers counts as relayed; without an exit
    node nothing does. -/
def exitPathIsDerp (exitNodeIp : Ip4) (ml : Peers) : Bool :=
  if exitNodeIp = 0#32 then false
  else
    match ml with
    | none => true
    | some peers =>
      match (peers.filterMap id).find? fun pi => pi.vpnIp = exitNodeIp with
      | some pi => !(pi.online && pi.directPath)
      | none => true

/-- What the peers say. -/
def peerPaths (live : TailscaleGlobals) (ml : Peers) : PeerPaths :=
  ⟨exitPathIsDerp live.tailscaleExitNodeIp ml, anyDirectPeer ml⟩

/-- `ap_input_hook` on a packet: its answer, and the frame that goes on; nothing if the ACL drops it
    or `tailnet_forward_allow_non_uplink_packet` does not allow it. -/
def apInputHook (m : TsMtuState) (aclDrops allowed : Bool) (inetChksum : List UInt8 → Nat)
    (p : Segment) (netif : Option Ip4) (linkoutput : Bool) (heap : Option Memory) :
    Option (Exchange × Pass) :=
  if aclDrops then none
  else if !allowed then none
  else
    let answer :=
      if 0 < m.effPmtu then sendIcmpFragNeeded inetChksum (some p) netif linkoutput m.effPmtu heap
      else ⟨[], none⟩
    some (answer, clampTcpMss p m.effMss)

/-! ### What is said of it -/

/-- `ip_total_len`. -/
def totalLength (p : Segment) : Nat := be16 (p.mem.load 16 2) 0

/-- A packet that may not be fragmented, as far as the hook looks for one: IPv4 with its header in
    the first pbuf, not a later fragment, not ICMP. -/
def DfPacket (p : Segment) : Prop :=
  34 ≤ p.len ∧ p.mem 12 = 0x08 ∧ p.mem 13 = 0x00 ∧ (p.mem 14).toNat / 16 = 4 ∧
    be16 (p.mem.load 20 2) 0 / 0x4000 % 2 = 1 ∧ be16 (p.mem.load 20 2) 0 % 0x2000 = 0 ∧
    p.mem 23 ≠ 1 ∧ 20 ≤ (p.mem 14).toNat % 16 * 4

instance (p : Segment) : Decidable (DfPacket p) := inferInstanceAs (Decidable (_ ∧ _))

/-- A packet that may not be fragmented, whatever it carries. -/
def DontFragment (p : Segment) : Prop :=
  34 ≤ p.len ∧ p.mem 12 = 0x08 ∧ p.mem 13 = 0x00 ∧ (p.mem 14).toNat / 16 = 4 ∧
    be16 (p.mem.load 20 2) 0 / 0x4000 % 2 = 1

instance (p : Segment) : Decidable (DontFragment p) := inferInstanceAs (Decidable (_ ∧ _))

/-- The numbers that belong together: an MTU in bounds, which the tunnel netif has if there is one,
    the segment size and the MTU that is signalled. -/
structure Derived (m : TsMtuState) : Prop where
  min_le : 576 ≤ m.effMtu.toNat
  le_max : m.effMtu.toNat ≤ 1500
  mss_eq : m.effMss.toNat + 40 = m.effMtu.toNat
  pmtu_eq : m.effPmtu.toNat = m.effMtu.toNat + 20
  netif : ∀ mtu ∈ m.wgMtu, mtu = m.effMtu

/-- The MTU of the next hop in an answer. -/
def nextHopMtu (out : Buffer) : Nat := be16 (out.mem.load 40 2) 0

/-- What the hook does with a packet agrees with a tunnel of this MTU: the packet draws an answer
    or fits if it may not be fragmented, an answer signals no more than the MTU, and a segment of
    the size that a SYN asks for fits with its headers. -/
def AgreesWith (mtu : Nat) (p : Segment) (x : Exchange) (pass : Pass) : Prop :=
  (DontFragment p → x.sent = none → totalLength p ≤ mtu) ∧
    (∀ out ∈ x.sent, nextHopMtu out ≤ mtu) ∧
    ∀ mss, MssAt p mss → mssValue pass.mem mss + 40 ≤ mtu

/-- `derp` in `tailscale_mtu_update`: the traffic is relayed, to the exit node or to all peers. -/
def relays (live : TailscaleGlobals) (ml : Peers) : Bool :=
  if live.tailscaleExitNodeIp ≠ 0#32 then exitPathIsDerp live.tailscaleExitNodeIp ml
  else !anyDirectPeer ml

/-- The MTU of the tunnel that the settings and the peers ask for: the fixed one within its bounds,
    or one of the two defaults. -/
def tunnelMtu (live : TailscaleGlobals) (ml : Peers) (m : TsMtuState) : UInt16 :=
  match m.mode with
  | .fixed => min (max m.fixedMtu tsMtuMin) tsMtuMax
  | .auto => if relays live ml then tsMtuDerpDefault else tsMtuDirectDefault

/-! ### The three numbers -/

variable {live : TailscaleGlobals} {p : Segment} {inetChksum : List UInt8 → Nat}

/-- A mode or the peers choose an MTU in bounds; the other numbers follow from it. -/
theorem derived_apply (m : TsMtuState) (mtu : UInt16) (source : String) (hmin : 576 ≤ mtu.toNat)
    (hmax : mtu.toNat ≤ 1500) :
    Derived (m.apply mtu (if 40 < mtu then mtu - 40 else 0) (if 0 < mtu then mtu + 20 else 0)
      source) := by
  have h40 : 40 < mtu := UInt16.lt_iff_toNat_lt.mpr (show 40 < mtu.toNat by omega)
  have h0 : 0 < mtu := UInt16.lt_iff_toNat_lt.mpr (show 0 < mtu.toNat by omega)
  refine ⟨hmin, hmax, ?_, ?_, ?_⟩
  · show (if 40 < mtu then mtu - 40 else 0).toNat + 40 = mtu.toNat
    rw [if_pos h40, UInt16.toNat_sub_of_le _ _ (UInt16.le_of_lt h40)]
    show mtu.toNat - 40 + 40 = mtu.toNat
    omega
  · show (if 0 < mtu then mtu + 20 else 0).toNat = mtu.toNat + 20
    rw [if_pos h0, UInt16.toNat_add]
    show (mtu.toNat + 20) % 65536 = mtu.toNat + 20
    omega
  · show ∀ new ∈ m.wgMtu.map fun old => if 0 < mtu then mtu else old, new = mtu
    intro new hnew
    obtain ⟨old, -, rfl⟩ := Option.mem_map.mp hnew
    exact if_pos h0

/-- A fixed MTU is brought into bounds. -/
theorem clamped_bounds (fixedMtu : UInt16) :
    576 ≤ (min (max fixedMtu tsMtuMin) tsMtuMax).toNat ∧
      (min (max fixedMtu tsMtuMin) tsMtuMax).toNat ≤ 1500 := by
  have hmin : tsMtuMin.toNat = 576 := rfl
  have hmax : tsMtuMax.toNat = 1500 := rfl
  have hclamped : min (max fixedMtu tsMtuMin) tsMtuMax =
      if (if fixedMtu ≤ tsMtuMin then tsMtuMin else fixedMtu) ≤ tsMtuMax then
        if fixedMtu ≤ tsMtuMin then tsMtuMin else fixedMtu
      else tsMtuMax := rfl
  rw [hclamped]
  simp only [UInt16.le_iff_toNat_le]
  split_ifs <;> omega

/-- **The three numbers**, while the tunnel is enabled: in every mode and for all peers. -/
theorem derived_update (paths : PeerPaths) (m : TsMtuState) (henabled : live.tailscaleEnabled ≠ 0) :
    Derived (tailscaleMtuUpdate paths live m) := by
  have hderp := fun source => derived_apply m tsMtuDerpDefault source (by decide)
    (by decide)
  have hdirect := fun source => derived_apply m tsMtuDirectDefault source (by decide)
    (by decide)
  unfold tailscaleMtuUpdate
  rw [if_neg henabled]
  cases m.mode with
  | fixed =>
    obtain ⟨hmin, hmax⟩ := clamped_bounds m.fixedMtu
    exact derived_apply m _ "user" hmin hmax
  | auto =>
    by_cases hexit : live.tailscaleExitNodeIp ≠ 0#32
    · -- the path to the exit node
      cases hpath : paths.exitPathIsDerp with
      | true => simpa only [if_pos hexit, if_true] using hderp _
      | false => simpa only [if_pos hexit, Bool.false_eq_true, if_false] using hdirect _
    · cases hany : paths.anyDirectPeer with
      | true => simpa only [if_neg hexit, if_true] using hdirect _
      | false => simpa only [if_neg hexit, Bool.false_eq_true, if_false] using hderp _

/-- The update chooses the MTU that the settings ask for. -/
theorem effMtu_update (ml : Peers) (m : TsMtuState) (henabled : live.tailscaleEnabled ≠ 0) :
    (tailscaleMtuUpdate (peerPaths live ml) live m).effMtu = tunnelMtu live ml m := by
  unfold tailscaleMtuUpdate tunnelMtu relays peerPaths
  rw [if_neg henabled]
  cases m.mode with
  | fixed => rfl
  | auto =>
    by_cases hexit : live.tailscaleExitNodeIp ≠ 0#32
    · simp only [if_pos hexit]
      cases exitPathIsDerp live.tailscaleExitNodeIp ml <;> rfl
    · simp only [if_neg hexit]
      cases anyDirectPeer ml <;> rfl

/-! ### The hook -/

theorem mayAnswer_iff (mtu : UInt16) :
    MayAnswer p mtu ↔ DfPacket p ∧ mtu.toNat < totalLength p := by
  unfold MayAnswer DfPacket totalLength
  tauto

/-- An answer signals the MTU that it is for. -/
theorem nextHopMtu_reply (eth junk : Memory) (netifIp : Ip4) (mtu : UInt16) (ihl avail : Nat) :
    nextHopMtu (fragNeededReply inetChksum eth netifIp mtu ihl avail junk) = mtu.toNat := by
  have hlt := mtu.toNat_lt
  have hfield : (fragNeededReply inetChksum eth netifIp mtu ihl avail junk).mem.load 40 2 =
      bytes16 mtu.toNat := by
    rw [mem_fragNeededReply, Memory.load_store_disjoint _ (.inr (by rw [length_bytes16]; omega))]
    unfold fragNeededBody
    dsimp only
    rw [Memory.load_store_disjoint _ (.inl (by omega)),
      Memory.load_store_disjoint _ (.inl (by omega))]
    exact Memory.load_store_self _ 40 (bytes16 mtu.toNat)
  rw [nextHopMtu, hfield]
  exact (toNat_bytes16 mtu.toNat).trans (Nat.mod_eq_of_lt hlt)

/-- What is sent is an answer with the MTU. -/
theorem sendIcmpFragNeeded_sent {netif : Option Ip4} {linkoutput : Bool} {mtu : UInt16}
    {heap : Option Memory} {out : Buffer}
    (h : (sendIcmpFragNeeded inetChksum (some p) netif linkoutput mtu heap).sent = some out) :
    nextHopMtu out = mtu.toNat := by
  by_cases hanswered : Answered p netif linkoutput mtu heap
  · obtain ⟨hnetif, rfl, hheap, hmay⟩ := hanswered
    obtain ⟨netifIp, rfl⟩ := Option.isSome_iff_exists.mp hnetif
    obtain ⟨junk, rfl⟩ := Option.isSome_iff_exists.mp hheap
    rw [sendIcmpFragNeeded_of_mayAnswer hmay] at h
    rw [← Option.some.inj h]
    exact nextHopMtu_reply ..
  · rw [(sendIcmpFragNeeded_of_not_answered inetChksum hanswered).1] at h
    cases h

/-- Where an answer can be sent, a packet that is too long gets one. -/
theorem totalLength_le_of_silent {netifIp : Ip4} {mtu : UInt16} {junk : Memory} (hdf : DfPacket p)
    (h : (sendIcmpFragNeeded inetChksum (some p) (some netifIp) true mtu (some junk)).sent = none) :
    totalLength p ≤ mtu.toNat := by
  by_contra hlong
  have hmay : MayAnswer p mtu := (mayAnswer_iff mtu).mpr ⟨hdf, Nat.lt_of_not_le hlong⟩
  rw [sendIcmpFragNeeded_of_mayAnswer hmay] at h
  cases h

/-- The clamp leaves no segment size above its limit. -/
theorem mssValue_clampTcpMss {maxMss : UInt16} {mss : Nat} (hmax : maxMss ≠ 0) (h : MssAt p mss) :
    mssValue (clampTcpMss p maxMss).mem mss ≤ maxMss.toNat := by
  by_cases habove : maxMss.toNat < mssValue p.mem mss
  · rw [clampTcpMss_lowers ⟨hmax, h, habove⟩]
    exact Nat.le_of_eq (mssValue_lowered p maxMss h.bounds.1)
  · have hnone : ∀ mss', ¬ Above p maxMss mss' := by
      rintro mss' ⟨-, hat, hlt⟩
      exact habove (mssAt_unique h hat ▸ hlt)
    rw [(clampTcpMss_keeps hnone).mem]
    exact Nat.le_of_not_lt habove

/-- The hook on a packet that it does not drop. -/
theorem apInputHook_eq {m : TsMtuState} (hpmtu : 0 < m.effPmtu) {aclDrops allowed linkoutput : Bool}
    {netif : Option Ip4} {heap : Option Memory} {x : Exchange} {pass : Pass}
    (h : apInputHook m aclDrops allowed inetChksum p netif linkoutput heap = some (x, pass)) :
    x = sendIcmpFragNeeded inetChksum (some p) netif linkoutput m.effPmtu heap ∧
      pass = clampTcpMss p m.effMss := by
  unfold apInputHook at h
  dsimp only at h
  rw [if_pos hpmtu] at h
  split_ifs at h
  cases h
  exact ⟨rfl, rfl⟩

/-- **What clients are told.** After an update with the tunnel enabled, in every mode, with every
    fixed MTU and for all peers:

    * the tunnel netif, if there is one, has the MTU;
    * a packet that may not be fragmented and passes the AP hook without an answer, where one can be
      sent, is at most 20 bytes longer than that;
    * an answer signals that MTU plus 20;
    * a segment of the size that a SYN asks for behind the hook fits the MTU, with 40 bytes of
      headers. -/
theorem path_mtu_agrees (live : TailscaleGlobals) (ml : Peers) (m : TsMtuState)
    (henabled : live.tailscaleEnabled ≠ 0) :
    let m' := tailscaleMtuUpdate (peerPaths live ml) live m
    (∀ mtu ∈ m'.wgMtu, mtu = m'.effMtu) ∧
      ∀ aclDrops allowed inetChksum p netif linkoutput heap x pass,
        apInputHook m' aclDrops allowed inetChksum p netif linkoutput heap = some (x, pass) →
        (DfPacket p → netif.isSome → linkoutput = true → heap.isSome → x.sent = none →
          totalLength p ≤ m'.effMtu.toNat + 20) ∧
        (∀ out ∈ x.sent, nextHopMtu out = m'.effMtu.toNat + 20) ∧
        ∀ mss, MssAt p mss → mssValue pass.mem mss + 40 ≤ m'.effMtu.toNat := by
  intro m'
  have hderived : Derived m' := derived_update (peerPaths live ml) m henabled
  obtain ⟨hmin, -, hmss, hpmtu, hnetif⟩ := hderived
  refine ⟨hnetif, ?_⟩
  intro aclDrops allowed inetChksum p netif linkoutput heap x pass hpass
  have hpos : 0 < m'.effPmtu := UInt16.lt_iff_toNat_lt.mpr (show 0 < m'.effPmtu.toNat by omega)
  obtain ⟨rfl, rfl⟩ := apInputHook_eq hpos hpass
  rw [← hpmtu]
  refine ⟨fun hdf hnetif hout hheap hsilent => ?_, fun out hout => ?_, fun mss hat => ?_⟩
  · -- an answer could have been sent, so the packet was short enough
    obtain ⟨netifIp, rfl⟩ := Option.isSome_iff_exists.mp hnetif
    obtain ⟨junk, rfl⟩ := Option.isSome_iff_exists.mp hheap
    obtain rfl := hout
    exact totalLength_le_of_silent hdf hsilent
  · exact sendIcmpFragNeeded_sent hout
  · -- the clamp is on, at 40 below the MTU
    have hclamped : m'.effMss ≠ 0 := by
      intro hzero
      rw [hzero, show (0 : UInt16).toNat = 0 from rfl] at hmss
      omega
    have hvalue := mssValue_clampTcpMss hclamped hat
    omega

/-- An answer is for a packet that may not be fragmented, and is longer than what it signals. -/
theorem of_sent {netif : Option Ip4} {linkoutput : Bool} {mtu : UInt16} {heap : Option Memory}
    {out : Buffer}
    (h : (sendIcmpFragNeeded inetChksum (some p) netif linkoutput mtu heap).sent = some out) :
    DontFragment p ∧ mtu.toNat < totalLength p := by
  by_cases hanswered : Answered p netif linkoutput mtu heap
  · obtain ⟨⟨hlen, htype, htype', hversion, hdf, -⟩, hlong⟩ :=
      (mayAnswer_iff mtu).mp hanswered.2.2.2
    exact ⟨⟨hlen, htype, htype', hversion, hdf⟩, hlong⟩
  · rw [(sendIcmpFragNeeded_of_not_answered inetChksum hanswered).1] at h
    cases h

/-- **Where the hook agrees with the tunnel.** After an update with the tunnel enabled, in every
    mode, with every fixed MTU and for all peers, the tunnel netif has the MTU that the settings
    ask for, and what the hook does with a packet that it lets pass agrees with that MTU exactly if
    the packet may be fragmented or is no longer than the MTU: a longer packet draws an answer that
    signals 20 bytes too many, or none. -/
theorem path_mtu_agrees_iff (live : TailscaleGlobals) (ml : Peers) (m : TsMtuState)
    (henabled : live.tailscaleEnabled ≠ 0) :
    let m' := tailscaleMtuUpdate (peerPaths live ml) live m
    ∀ mtu ∈ m'.wgMtu, mtu = tunnelMtu live ml m ∧
      ∀ aclDrops allowed inetChksum p netif linkoutput heap x pass,
        apInputHook m' aclDrops allowed inetChksum p netif linkoutput heap = some (x, pass) →
        (AgreesWith mtu.toNat p x pass ↔
          (DontFragment p → totalLength p ≤ (tunnelMtu live ml m).toNat)) := by
  intro m' mtu hmtu
  have hderived : Derived m' := derived_update (peerPaths live ml) m henabled
  have heff : mtu = m'.effMtu := hderived.netif mtu hmtu
  have htunnel : mtu = tunnelMtu live ml m := heff.trans (effMtu_update ml m henabled)
  refine ⟨htunnel, ?_⟩
  intro aclDrops allowed inetChksum p netif linkoutput heap x pass hpass
  rw [← htunnel, heff]
  have hpmtu := hderived.pmtu_eq
  have hpos : 0 < m'.effPmtu := UInt16.lt_iff_toNat_lt.mpr (show 0 < m'.effPmtu.toNat by omega)
  have hsegment := ((path_mtu_agrees live ml m henabled).2 _ _ _ _ _ _ _ _ _ hpass).2.2
  obtain ⟨rfl, -⟩ := apInputHook_eq hpos hpass
  constructor
  · rintro ⟨hsilent, hsignal, -⟩ hdf
    rcases Option.eq_none_or_eq_some
      (sendIcmpFragNeeded inetChksum (some p) netif linkoutput m'.effPmtu heap).sent with
      hsent | ⟨out, hsent⟩
    · exact hsilent hdf hsent
    · -- what an answer signals is above the MTU
      have hnext := hsignal out hsent
      rw [sendIcmpFragNeeded_sent hsent, hpmtu] at hnext
      omega
  · intro hfits
    refine ⟨fun hdf _ => hfits hdf, fun out hout => ?_, hsegment⟩
    -- an answer is for a packet that is too long even for what it signals
    obtain ⟨hdf, hlong⟩ := of_sent hout
    have hlength := hfits hdf
    omega

/-- The tunnel is enabled, and all peers are relayed. -/
def relayedLive : TailscaleGlobals :=
  { (tailscaleInit (fun _ => none) espOk).1 with tailscaleEnabled := 1 }

/-- After an update with no peers. -/
def relayed : TsMtuState :=
  tailscaleMtuUpdate (peerPaths relayedLive (some [])) relayedLive
    ⟨.auto, tsMtuDerpDefault, 0, 0, 0, "off", some 1420⟩

/-- A packet that may not be fragmented, of 256 times `hi` and `lo` bytes. -/
def dfFrame (hi lo protocol : UInt8) : Segment :=
  ⟨fun i => byteAt [2, 0, 0, 0, 0, 1, 2, 0, 0, 0, 0, 2, 0x08, 0x00, 0x45, 0, hi, lo, 0, 0,
    0x40, 0, 64, protocol, 0, 0, 192, 168, 4, 2, 8, 8, 8, 8] i, 1514, by decide⟩

/-- The hook on such a packet from a client, with memory for an answer. -/
def relayedHook (p : Segment) : Option (Exchange × Pass) :=
  apInputHook relayed false true (fun data => 65535 - onesSum data) p (some 0xC0A80401#32) true
    (some fun _ => 0)

/-- A packet of 1280 bytes passes, and the hook agrees with the tunnel. -/
theorem dfFrame_within :
    relayed.wgMtu = some 1280 ∧ totalLength (dfFrame 0x05 0x00 17) = 1280 ∧
      ∃ r ∈ relayedHook (dfFrame 0x05 0x00 17), AgreesWith 1280 (dfFrame 0x05 0x00 17) r.1 r.2 := by
  have hlength : totalLength (dfFrame 0x05 0x00 17) = 1280 := by decide
  obtain ⟨hmtu, hagrees⟩ := path_mtu_agrees_iff relayedLive (some [])
    ⟨.auto, tsMtuDerpDefault, 0, 0, 0, "off", some 1420⟩ (by decide) 1280 rfl
  obtain ⟨⟨x, pass⟩, hpass⟩ : ∃ r, relayedHook (dfFrame 0x05 0x00 17) = some r := ⟨_, rfl⟩
  have hpacket := hagrees false true (fun data => 65535 - onesSum data) (dfFrame 0x05 0x00 17)
    (some 0xC0A80401#32) true (some fun _ => 0) x pass hpass
  rw [← hmtu, hlength, show (1280 : UInt16).toNat = 1280 by rfl] at hpacket
  exact ⟨rfl, hlength, (x, pass), hpass, hpacket.mpr fun _ => Nat.le_refl 1280⟩

/-- **A packet too long for the tunnel passes**: the tunnel has an MTU of 1280, and a UDP packet of
    1290 bytes that may not be fragmented draws no answer.  One of 1500 bytes draws an answer that
    signals 1300. -/
theorem long_packet_passes :
    relayed.wgMtu = some 1280 ∧ totalLength (dfFrame 0x05 0x0A 17) = 1290 ∧
      (∃ r ∈ relayedHook (dfFrame 0x05 0x0A 17), r.1.sent = none ∧
        ¬ AgreesWith 1280 (dfFrame 0x05 0x0A 17) r.1 r.2) ∧
      (relayedHook (dfFrame 0x05 0xDC 17)).bind (fun r => r.1.sent.map nextHopMtu) = some 1300 := by
  have hlength : totalLength (dfFrame 0x05 0x0A 17) = 1290 := by decide
  refine ⟨rfl, hlength, ⟨_, rfl, rfl, fun hagrees => ?_⟩, by decide⟩
  have hfits := hagrees.1 (by decide) rfl
  rw [hlength] at hfits
  omega

end SubnetRouter.PathMtu
