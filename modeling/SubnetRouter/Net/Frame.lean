import SubnetRouter.Lib.Bytes
import SubnetRouter.Net.Ip4

namespace SubnetRouter

open Lib

/-!
# Ethernet frames carrying IPv4

The wire layout of an IPv4 packet in an Ethernet frame, and RFC 791 fragmentation: a split of
the payload at multiples of eight bytes, each fragment with its own header.
-/

/-- `IPPROTO_TCP`. -/
def ipprotoTcp : UInt8 := 6

/-- `IPPROTO_UDP`. -/
def ipprotoUdp : UInt8 := 17

/-- A 6-byte MAC address. -/
structure Mac where
  (b0 b1 b2 b3 b4 b5 : UInt8)
deriving DecidableEq, Repr

def Mac.bytes (m : Mac) : List UInt8 := [m.b0, m.b1, m.b2, m.b3, m.b4, m.b5]

/-- An IPv4 packet: its header fields (with the options in whole words) and its payload. The lengths
    in the header are those of the lists. -/
structure Ipv4Packet where
  tos : UInt8
  ident : Nat
  dontFragment : Bool
  moreFragments : Bool
  /-- Offset of the payload in the datagram, in units of eight bytes. -/
  fragOffset : Nat
  ttl : UInt8
  proto : UInt8
  chksum : Nat
  src : Ip4
  dst : Ip4
  options : List UInt8
  payload : List UInt8
  options_words : options.length % 4 = 0 ∧ options.length ≤ 40
deriving DecidableEq, Repr

namespace Ipv4Packet

/-- A header without options. -/
theorem noOptions : ([] : List UInt8).length % 4 = 0 ∧ ([] : List UInt8).length ≤ 40 := by decide

/-- The flags and fragment offset word. -/
def flagsOffset (p : Ipv4Packet) : Nat :=
  (if p.dontFragment then 0x4000 else 0) + (if p.moreFragments then 0x2000 else 0) +
    p.fragOffset % 0x2000

/-- The 20 fixed bytes of the header, in network byte order. -/
def headerBytes (p : Ipv4Packet) : List UInt8 :=
  [UInt8.ofNat (0x45 + p.options.length / 4), p.tos]
    ++ bytes16 (20 + p.options.length + p.payload.length) ++ bytes16 p.ident
    ++ bytes16 p.flagsOffset ++ [p.ttl, p.proto] ++ bytes16 p.chksum
    ++ bytes32 p.src ++ bytes32 p.dst

/-- The packet on the wire. -/
def bytes (p : Ipv4Packet) : List UInt8 := p.headerBytes ++ p.options ++ p.payload

/-- An Ethernet frame with EtherType 0x0800 around the packet. -/
def frame (p : Ipv4Packet) (macDst macSrc : Mac) : List UInt8 :=
  macDst.bytes ++ macSrc.bytes ++ [0x08, 0x00] ++ p.bytes

variable (p : Ipv4Packet) (macDst macSrc : Mac)

/-- The bytes up to the payload. -/
theorem frame_eq_append : p.frame macDst macSrc
    = (macDst.bytes ++ macSrc.bytes ++ [0x08, 0x00] ++ p.headerBytes ++ p.options)
      ++ p.payload := by
  simp only [frame, bytes, List.append_assoc]

theorem length_prefix :
    (macDst.bytes ++ macSrc.bytes ++ [0x08, 0x00] ++ p.headerBytes ++ p.options).length
      = 34 + p.options.length := by
  rw [List.length_append]
  rfl

theorem length_frame :
    (p.frame macDst macSrc).length = 34 + p.options.length + p.payload.length := by
  rw [frame_eq_append, List.length_append, length_prefix]

/-- The payload starts behind the options. -/
theorem be16_frame_payload (i : Nat) :
    be16 (p.frame macDst macSrc) (34 + p.options.length + i) = be16 p.payload i := by
  rw [frame_eq_append, ← length_prefix p macDst macSrc, be16_append_right]

theorem etherType_frame : be16 (p.frame macDst macSrc) 12 = 0x0800 := by
  have h0 : byteAt (p.frame macDst macSrc) 12 = 0x08 := rfl
  have h1 : byteAt (p.frame macDst macSrc) 13 = 0x00 := rfl
  rw [be16, h0, h1]
  rfl

/-- The version and header-length byte. -/
theorem versionIhl_frame :
    (byteAt (p.frame macDst macSrc) 14).toNat = 0x45 + p.options.length / 4 := by
  have hbyte : byteAt (p.frame macDst macSrc) 14 = UInt8.ofNat (0x45 + p.options.length / 4) := rfl
  have hopt := p.options_words.2
  rw [hbyte, UInt8.toNat_ofNat']
  omega

theorem proto_frame : byteAt (p.frame macDst macSrc) 23 = p.proto := rfl

/-- What stands in front of the two addresses. -/
private theorem frame_eq_addresses : ∃ front : List UInt8, front.length = 26 ∧
    p.frame macDst macSrc = front ++ (bytes32 p.src ++ (bytes32 p.dst ++ (p.options ++ p.payload)))
      := by
  refine ⟨macDst.bytes ++ (macSrc.bytes ++ ([0x08, 0x00] ++
    ([UInt8.ofNat (0x45 + p.options.length / 4), p.tos] ++
      (bytes16 (20 + p.options.length + p.payload.length) ++ (bytes16 p.ident ++
        (bytes16 p.flagsOffset ++ ([p.ttl, p.proto] ++ bytes16 p.chksum))))))), rfl, ?_⟩
  simp only [frame, bytes, headerBytes, List.append_assoc]

theorem src_frame : be32 (p.frame macDst macSrc) 26 = p.src := by
  obtain ⟨front, hlen, heq⟩ := frame_eq_addresses p macDst macSrc
  have hread := be32_append_right front (bytes32 p.src ++ (bytes32 p.dst ++
    (p.options ++ p.payload))) 0
  rw [heq, ← hlen]
  exact hread.trans (be32_bytes32 p.src _)

theorem dst_frame : be32 (p.frame macDst macSrc) 30 = p.dst := by
  obtain ⟨front, hlen, heq⟩ := frame_eq_addresses p macDst macSrc
  have hfront : (front ++ bytes32 p.src).length = 30 := by
    rw [List.length_append, hlen, length_bytes32]
  have hread := be32_append_right (front ++ bytes32 p.src) (bytes32 p.dst ++
    (p.options ++ p.payload)) 0
  rw [heq, ← List.append_assoc, ← hfront]
  exact hread.trans (be32_bytes32 p.dst _)

/-! ### Fragmentation -/

/-- `f` is a fragment of the datagram `d` that starts at byte `off` of its payload. Addresses,
    protocol and identification are what a receiver puts fragments together by. -/
structure IsFragmentOf (f d : Ipv4Packet) (off : Nat) (more : Bool) : Prop where
  same_ident : f.ident = d.ident
  same_proto : f.proto = d.proto
  same_src : f.src = d.src
  same_dst : f.dst = d.dst
  offset : f.fragOffset * 8 = off
  more_iff : f.moreFragments = more

/-- The fragments carry `rest`, the payload of `d` from byte `off` on, cut at multiples of
    eight bytes. -/
def IsSplit (d : Ipv4Packet) : Nat → List UInt8 → List Ipv4Packet → Prop
  | _, _, [] => False
  | off, rest, [f] => f.IsFragmentOf d off false ∧ f.payload = rest
  | off, rest, f :: g :: fs =>
    f.IsFragmentOf d off true ∧ 0 < f.payload.length ∧ 8 ∣ f.payload.length ∧
      ∃ rest', rest = f.payload ++ rest' ∧ IsSplit d (off + f.payload.length) rest' (g :: fs)

/-- `fs` is a way of splitting the datagram into fragments. -/
def IsFragmentation (d : Ipv4Packet) (fs : List Ipv4Packet) : Prop := d.IsSplit 0 d.payload fs

/-- Every packet of a split carries the flow of the datagram. -/
theorem IsSplit.mem_isFragmentOf {d : Ipv4Packet} {off : Nat} {rest : List UInt8}
    {fs : List Ipv4Packet} (h : d.IsSplit off rest fs) {f : Ipv4Packet} (hf : f ∈ fs) :
    ∃ off' more, f.IsFragmentOf d off' more := by
  induction fs generalizing off rest with
  | nil => cases hf
  | cons g gs ih =>
    cases gs with
    | nil =>
      rw [List.mem_singleton] at hf
      subst hf
      exact ⟨off, false, h.1⟩
    | cons g' gs' =>
      obtain ⟨hg, -, -, rest', -, hrest⟩ := h
      rcases List.mem_cons.mp hf with rfl | hf
      · exact ⟨off, true, hg⟩
      · exact ih hrest hf

/-- The first fragment: the whole payload, or a nonempty prefix of it whose length is a
    multiple of eight. -/
theorem IsFragmentation.head {d : Ipv4Packet} {fs : List Ipv4Packet}
    (h : d.IsFragmentation fs) : ∃ f ∈ fs, (∃ off more, f.IsFragmentOf d off more) ∧
      (f.payload = d.payload ∨
        0 < f.payload.length ∧ 8 ∣ f.payload.length ∧ ∃ rest, d.payload = f.payload ++ rest) := by
  unfold IsFragmentation at h
  match fs, h with
  | [f], h => exact ⟨f, by simp, ⟨_, _, h.1⟩, .inl h.2⟩
  | f :: g :: gs, h =>
    obtain ⟨hf, hpos, hdvd, rest, heq, -⟩ := h
    exact ⟨f, by simp, ⟨_, _, hf⟩, .inr ⟨hpos, hdvd, rest, heq⟩⟩

/-- The fragment of `d` that starts at byte `8 * k` and carries the chunk. -/
def fragment (d : Ipv4Packet) (k : Nat) (chunk : List UInt8) (more : Bool) : Ipv4Packet :=
  { d with moreFragments := more, fragOffset := k, payload := chunk }

/-- The finest split: eight bytes a fragment. Offsets are counted in these units, so nothing finer
    can be sent but the last one. -/
def eightByteSplit (d : Ipv4Packet) (k : Nat) (rest : List UInt8) : List Ipv4Packet :=
  if rest.length ≤ 8 then [d.fragment k rest false]
  else d.fragment k (rest.take 8) true :: d.eightByteSplit (k + 1) (rest.drop 8)
termination_by rest.length
decreasing_by simp only [List.length_drop]; omega

theorem eightByteSplit_ne_nil (d : Ipv4Packet) (k : Nat) (rest : List UInt8) :
    d.eightByteSplit k rest ≠ [] := by
  rw [eightByteSplit]
  split <;> simp

/-- No fragment of the finest split carries more than eight bytes. -/
theorem length_payload_eightByteSplit (d : Ipv4Packet) (k : Nat) (rest : List UInt8) :
    ∀ f ∈ d.eightByteSplit k rest, f.payload.length ≤ 8 := by
  induction k, rest using eightByteSplit.induct with
  | case1 k rest hle => simp [eightByteSplit, hle, fragment]
  | case2 k rest hgt ih =>
    intro f hf
    rw [eightByteSplit, if_neg hgt, List.mem_cons] at hf
    rcases hf with rfl | hf
    · exact List.length_take_le 8 rest
    · exact ih f hf

/-- The finest split is a split. -/
theorem isSplit_eightByteSplit (d : Ipv4Packet) (k : Nat) (rest : List UInt8) :
    d.IsSplit (8 * k) rest (d.eightByteSplit k rest) := by
  induction k, rest using eightByteSplit.induct with
  | case1 k rest hle =>
    rw [eightByteSplit, if_pos hle]
    exact ⟨⟨rfl, rfl, rfl, rfl, Nat.mul_comm k 8, rfl⟩, rfl⟩
  | case2 k rest hgt ih =>
    rw [eightByteSplit, if_neg hgt]
    obtain ⟨g, gs, hgs⟩ :=
      List.exists_cons_of_ne_nil (d.eightByteSplit_ne_nil (k + 1) (rest.drop 8))
    have hlen : (d.fragment k (rest.take 8) true).payload.length = 8 := by
      simp only [fragment, List.length_take]
      omega
    rw [hgs] at ih ⊢
    refine ⟨⟨rfl, rfl, rfl, rfl, Nat.mul_comm k 8, rfl⟩, by omega, by omega, rest.drop 8, ?_, ?_⟩
    · exact (List.take_append_drop 8 rest).symm
    · rw [hlen, show 8 * k + 8 = 8 * (k + 1) by omega]
      exact ih

/-- The finest split of a whole datagram. -/
theorem isFragmentation_eightByteSplit (d : Ipv4Packet) :
    d.IsFragmentation (d.eightByteSplit 0 d.payload) :=
  d.isSplit_eightByteSplit 0 d.payload

end Ipv4Packet

end SubnetRouter
