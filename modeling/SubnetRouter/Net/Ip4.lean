import Mathlib.Algebra.Group.Nat.Defs
import Mathlib.Data.List.Basic

namespace SubnetRouter

/-!
# IPv4 addresses and network interfaces

Addresses are kept as their host-order value: `lwip_ntohl` is applied wherever the source
compares an address with a range, and the masked comparisons it makes in network order mean
the same in host order.
-/

/-- An IPv4 address (or mask), as its host-order value. -/
abbrev Ip4 := BitVec 32

/-- Tailscale CGNAT: 100.64.0.0/10. -/
def tailscaleCgnatNet : Ip4 := 0x64400000

def tailscaleCgnatMask : Ip4 := 0xFFC00000

/-- `ip_in_cgnat`. -/
def ipInCgnat (ip : Ip4) : Bool := ip &&& tailscaleCgnatMask == tailscaleCgnatNet

/-- The RFC 1918 test: 10.0.0.0/8, 172.16.0.0/12, 192.168.0.0/16. -/
def isPrivate (ip : Ip4) : Bool :=
  ip &&& 0xFF000000 == 0x0A000000 || ip &&& 0xFFF00000 == 0xAC100000 ||
    ip &&& 0xFFFF0000 == 0xC0A80000

/-- The netmask of a prefix length: `0` for `/0`, else `0xFFFFFFFF << (32 - bits)`. -/
def prefixMask (bits : Nat) : Ip4 := if bits = 0 then 0 else 0xFFFFFFFF <<< (32 - bits)

/-- The address lies in `network/bits`: both start with the same `bits` bits. -/
def InCidr (ip network : Ip4) (bits : Nat) : Prop :=
  ip.toNat / 2 ^ (32 - bits) = network.toNat / 2 ^ (32 - bits)

instance (ip network : Ip4) (bits : Nat) : Decidable (InCidr ip network bits) :=
  inferInstanceAs (Decidable (_ = _))

/-- The bits of a netmask. -/
theorem getLsbD_prefixMask (bits : Nat) {i : Nat} (hi : i < 32) :
    (prefixMask bits).getLsbD i = decide (32 - bits ≤ i) := by
  unfold prefixMask
  split
  · rename_i hzero
    simp [hzero]
    omega
  · show (BitVec.ofNat 32 (0xFFFFFFFF <<< (32 - bits))).getLsbD i = _
    have hones : 0xFFFFFFFF = 2 ^ 32 - 1 := rfl
    rw [BitVec.getLsbD_ofNat, Nat.testBit_shiftLeft, hones, Nat.testBit_two_pow_sub_one]
    by_cases hlow : 32 - bits ≤ i
    · simp [hi, hlow]
      omega
    · simp [hlow]

/-- Two addresses agree under a netmask exactly when they are in one prefix. It is proved bit by
    bit. -/
theorem and_prefixMask_eq_iff (x y : Ip4) (bits : Nat) :
    x &&& prefixMask bits = y &&& prefixMask bits ↔ InCidr x y bits := by
  -- Both sides are compared bit by bit, the shifted ones from bit `32 - bits` on.
  have hshift : ∀ z : Ip4, z.toNat / 2 ^ (32 - bits) = (z >>> (32 - bits)).toNat := by
    intro z
    rw [BitVec.toNat_ushiftRight, Nat.shiftRight_eq_div_pow]
  rw [InCidr, hshift, hshift, ← BitVec.toNat_eq]
  constructor
  · intro h
    apply BitVec.eq_of_getLsbD_eq
    intro i hi
    have hbit := congrArg (fun v => BitVec.getLsbD v (32 - bits + i)) h
    by_cases hin : 32 - bits + i < 32
    · simpa [getLsbD_prefixMask bits hin] using hbit
    · simp [BitVec.getLsbD_of_ge _ _ (Nat.le_of_not_lt hin)]
  · intro h
    apply BitVec.eq_of_getLsbD_eq
    intro i hi
    rw [BitVec.getLsbD_and, BitVec.getLsbD_and, getLsbD_prefixMask bits hi]
    -- Below the mask's bits both sides are zero.
    by_cases hlow : 32 - bits ≤ i
    · have hbit := congrArg (fun v => BitVec.getLsbD v (i - (32 - bits))) h
      simp only [BitVec.getLsbD_ushiftRight, Nat.add_sub_cancel' hlow] at hbit
      rw [hbit]
    · simp [hlow]

/-- The fields of lwIP's `struct netif` that the router reads. The addresses are in host order. -/
structure Netif where
  /-- The two name characters: `ap`, `st`, `wg`, … -/
  name : Char × Char
  num : Nat
  ipAddr : Ip4
  netmask : Ip4
  /-- `netif_is_up`. -/
  up : Bool
  /-- `netif_is_link_up`. -/
  linkUp : Bool
deriving DecidableEq, Repr

namespace Netif

/-- `netif_is_sta`: esp-netif names STA interfaces `st`. -/
def isSta (n : Netif) : Bool := n.name == ('s', 't')

/-- The WireGuard interface is the one named `wg`. -/
def isWg (n : Netif) : Bool := n.name == ('w', 'g')

/-- The address lies in this interface's own prefix. -/
def covers (n : Netif) (ip : Ip4) : Bool := ip &&& n.netmask == n.ipAddr &&& n.netmask

/-- The WireGuard interface is not the station uplink. -/
theorem isSta_of_isWg {n : Netif} (h : n.isWg = true) : n.isSta = false := by
  simp only [isWg, beq_iff_eq] at h
  simp [isSta, h]

end Netif

end SubnetRouter
