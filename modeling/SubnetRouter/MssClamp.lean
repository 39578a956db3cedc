import SubnetRouter.FragNeeded
import SubnetRouter.Lib.Incremental
import SubnetRouter.Net.Frame

namespace SubnetRouter.NetifHooks

open Lib

/-!
# Clamping the segment size of TCP connections (`main/netif_hooks.c`)

`clamp_tcp_mss` looks for a TCP SYN in an Ethernet frame, walks over its options up to the maximum
segment size, lowers that to the limit and updates the TCP checksum for it.

* `clampTcpMss` — the call, with what it reads and writes of the frame.
* `FirstMss`, `mssOption_eq_some` — the first MSS option of a header, and what the walk finds.
* `clampTcpMss_lowers`, `clampTcpMss_keeps` — the two outcomes.
* `clamp_verifies_iff` — exactly when the checksum still verifies.
* `touchesNothingElse_iff` — exactly when nothing but a SYN's segment size and checksum is changed.
-/

/-! ### The call -/

/-- A frame behind a filter that works in place, and the ranges of offset and length of the frame
    that it read and wrote. -/
structure Pass where
  mem : Memory
  reads : List (Nat × Nat)
  writes : List (Nat × Nat)

/-- The loop over the options from `opt` to `opt_end`: the place of the MSS value it stops at. A
    length that is too short, or leads beyond the end, ends it without a place. -/
def mssOption (m : Memory) (optEnd : Nat) : Nat → Nat → Option Nat
  | 0, _ => none
  | fuel + 1, opt =>
    if opt < optEnd then
      if m opt = 0 then none
      else if m opt = 1 then mssOption m optEnd fuel (opt + 1)
      else if optEnd ≤ opt + 1 then none
      else
        let optLen := (m (opt + 1)).toNat
        if optLen < 2 ∨ optEnd < opt + optLen then none
        else if m opt = 2 ∧ optLen = 4 then some (opt + 2)
        else mssOption m optEnd fuel (opt + optLen)
    else none

/-- What the loop reads of the kinds and lengths. The value of the MSS itself is read later, and is
    not among them. -/
def optionReads (m : Memory) (optEnd : Nat) : Nat → Nat → List (Nat × Nat)
  | 0, _ => []
  | fuel + 1, opt =>
    if opt < optEnd then
      if m opt = 0 then [(opt, 1)]
      else if m opt = 1 then (opt, 1) :: optionReads m optEnd fuel (opt + 1)
      else if optEnd ≤ opt + 1 then [(opt, 1)]
      else
        let optLen := (m (opt + 1)).toNat
        if optLen < 2 ∨ optEnd < opt + optLen then [(opt, 1), (opt + 1, 1)]
        else if m opt = 2 ∧ optLen = 4 then [(opt, 1), (opt + 1, 1)]
        else (opt, 1) :: (opt + 1, 1) :: optionReads m optEnd fuel (opt + optLen)
    else []

/-- `IPH_HL(iphdr) * 4`. -/
def ipHdrLen (p : Segment) : Nat := (p.mem 14).toNat % 16 * 4

/-- Where `tcphdr` points to. -/
def tcpAt (p : Segment) : Nat := 14 + ipHdrLen p

/-- `(tcphdr[12] >> 4) * 4`. -/
def tcpHdrLen (p : Segment) : Nat := (p.mem (tcpAt p + 12)).toNat / 16 * 4

/-- There are at most 40 bytes of options. -/
def optionFuel : Nat := 40

/-- `clamp_tcp_mss`, for a pbuf `p` that is not NULL. The result tells the memory, and which bytes
    were read and written on the way. -/
def clampTcpMss (p : Segment) (maxMss : UInt16) : Pass :=
  let m := p.mem
  if maxMss = 0 then ⟨m, [], []⟩
  else if p.len < 14 + 20 + 20 then ⟨m, [], []⟩
  else if m 12 ≠ 0x08 then ⟨m, [(12, 1)], []⟩
  else if m 13 ≠ 0x00 then ⟨m, [(12, 1), (13, 1)], []⟩
  else
    let reads := [(12, 1), (13, 1), (14, 1)]
    if (m 14).toNat / 16 ≠ 4 then ⟨m, reads, []⟩
    else
      let reads := reads ++ [(23, 1)]
      if m 23 ≠ ipprotoTcp then ⟨m, reads, []⟩
      else if p.len < 14 + ipHdrLen p + 20 then ⟨m, reads, []⟩
      else
        let tcphdr := tcpAt p
        let reads := reads ++ [(tcphdr + 13, 1)]
        -- the SYN bit
        if m (tcphdr + 13) &&& 0x02 = 0 then ⟨m, reads, []⟩
        else
          let reads := reads ++ [(tcphdr + 12, 1)]
          if tcpHdrLen p < 20 ∨ p.len < 14 + ipHdrLen p + tcpHdrLen p then ⟨m, reads, []⟩
          else
            let optEnd := tcphdr + tcpHdrLen p
            let reads := reads ++ optionReads m optEnd optionFuel (tcphdr + 20)
            match mssOption m optEnd optionFuel (tcphdr + 20) with
            | none => ⟨m, reads, []⟩
            | some mss =>
              let reads := reads ++ [(mss, 2)]
              if maxMss.toNat < swap16 (le16 m mss) then
                let oldMssNet := le16 m mss
                let maxMssNet := swap16 maxMss.toNat
                let chksum := tcphdr + 16
                let m := m.store mss (leBytes maxMssNet)
                let m := m.store chksum
                  (leBytes (updatedChecksum (le16 m chksum) oldMssNet maxMssNet))
                ⟨m, reads ++ [(chksum, 2)], [(mss, 2), (chksum, 2)]⟩
              else ⟨m, reads, []⟩

/-! ### What is expected of it -/

/-- From `opt` on whole options stand before `optEnd`, the first MSS option with its value at
    `mss` among them. -/
inductive FirstMss (m : Memory) (optEnd : Nat) : Nat → Nat → Prop
  | here {opt : Nat} (hkind : m opt = 2) (hlen : m (opt + 1) = 4) (hin : opt + 4 ≤ optEnd) :
      FirstMss m optEnd opt (opt + 2)
  | nop {opt mss : Nat} (hin : opt < optEnd) (hkind : m opt = 1)
      (rest : FirstMss m optEnd (opt + 1) mss) : FirstMss m optEnd opt mss
  | other {opt mss : Nat} (hkind : m opt ≠ 0 ∧ m opt ≠ 1) (hlen : 2 ≤ (m (opt + 1)).toNat)
      (hin : opt + (m (opt + 1)).toNat ≤ optEnd) (hother : ¬ (m opt = 2 ∧ m (opt + 1) = 4))
      (rest : FirstMss m optEnd (opt + (m (opt + 1)).toNat) mss) : FirstMss m optEnd opt mss

/-- The first segment looks like a TCP SYN with all its options. These are the checks of the
    function, which do not look at the fragment offset. -/
structure SynHeader (p : Segment) : Prop where
  length : 14 + 20 + 20 ≤ p.len
  etherType : p.mem 12 = 0x08 ∧ p.mem 13 = 0x00
  version : (p.mem 14).toNat / 16 = 4
  protocol : p.mem 23 = ipprotoTcp
  tcpLength : tcpAt p + 20 ≤ p.len
  syn : p.mem (tcpAt p + 13) &&& 0x02 ≠ 0
  options : 20 ≤ tcpHdrLen p ∧ tcpAt p + tcpHdrLen p ≤ p.len

/-- Its first MSS option has its value at `mss`. -/
def MssAt (p : Segment) (mss : Nat) : Prop :=
  SynHeader p ∧ FirstMss p.mem (tcpAt p + tcpHdrLen p) (tcpAt p + 20) mss

/-- The value of an MSS option. -/
def mssValue (m : Memory) (mss : Nat) : Nat := be16 (m.load mss 2) 0

/-- The option is above the limit; `0` is no limit. -/
def Above (p : Segment) (maxMss : UInt16) (mss : Nat) : Prop :=
  maxMss ≠ 0 ∧ MssAt p mss ∧ maxMss.toNat < mssValue p.mem mss

/-- The packet is no later fragment, has a whole IP header, and the option lies in it. -/
structure OfSyn (p : Segment) (mss : Nat) : Prop where
  headerLength : 20 ≤ ipHdrLen p
  fragmentOffset : be16 (p.mem.load 20 2) 0 % 0x2000 = 0
  inside : mss + 2 ≤ 14 + be16 (p.mem.load 16 2) 0

/-- Nothing is read or written outside the first segment, no segment size is raised, the first one
    is at most the limit, and what is changed is that of a SYN and its checksum. -/
structure TouchesNothingElse (p : Segment) (maxMss : UInt16) (x : Pass) : Prop where
  reads : ∀ r ∈ x.reads, r.1 + r.2 ≤ p.len
  writes : ∀ r ∈ x.writes, r.1 + r.2 ≤ p.len
  ends : ∀ fuel, optionFuel ≤ fuel → mssOption p.mem (tcpAt p + tcpHdrLen p) fuel (tcpAt p + 20)
    = mssOption p.mem (tcpAt p + tcpHdrLen p) optionFuel (tcpAt p + 20)
  capped : ∀ mss, MssAt p mss → mssValue x.mem mss ≤ mssValue p.mem mss ∧
    (maxMss ≠ 0 → mssValue x.mem mss ≤ maxMss.toNat)
  touched : x.mem = p.mem ∨ ∃ mss, MssAt p mss ∧ OfSyn p mss ∧ ∀ i, i < mss ∨ mss + 2 ≤ i →
    i < tcpAt p + 16 ∨ tcpAt p + 18 ≤ i → x.mem i = p.mem i

/-- The length of the TCP segment, by the IP header. -/
def tcpLen (p : Segment) : Nat := be16 (p.mem.load 16 2) 0 - ipHdrLen p

/-- An IPv4 packet with a TCP SYN. Here nothing is said about how much of it the first segment
    holds. -/
structure TcpSyn (p : Segment) : Prop where
  etherType : p.mem 12 = 0x08 ∧ p.mem 13 = 0x00
  version : (p.mem 14).toNat / 16 = 4
  headerLength : 20 ≤ ipHdrLen p
  protocol : p.mem 23 = ipprotoTcp
  syn : p.mem (tcpAt p + 13) &&& 0x02 ≠ 0
  options : 20 ≤ tcpHdrLen p ∧ tcpHdrLen p ≤ tcpLen p

/-- The addresses, the protocol and the length. -/
def tcpPseudo (p : Segment) (m : Memory) : List UInt8 :=
  m.load 26 8 ++ ([0, ipprotoTcp] ++ bytes16 (tcpLen p))

/-- The TCP checksum of the frame verifies. -/
def TcpVerifies (p : Segment) (m : Memory) : Prop :=
  Verifies (tcpPseudo p m ++ m.load (tcpAt p) (tcpLen p))

/-! ### The walk over the options -/

variable {m : Memory} {optEnd opt mss fuel fuel' : Nat}

/-- The walk finds the first MSS option. By induction on the fuel, of which an option takes at least
    one. -/
theorem mssOption_eq_some (h : optEnd ≤ opt + fuel) :
    mssOption m optEnd fuel opt = some mss ↔ FirstMss m optEnd opt mss := by
  constructor
  · -- the turns of the loop
    intro hfound
    induction fuel generalizing opt with
    | zero => cases hfound
    | succ fuel ih =>
      rw [mssOption] at hfound
      dsimp only at hfound
      split_ifs at hfound with hin hend hnop hlast hbad hmss
      · exact .nop hin hnop (ih (by omega) hfound)
      · obtain rfl := Option.some.inj hfound
        exact .here hmss.1 (UInt8.toNat_inj.mp hmss.2) (by omega)
      · refine .other ⟨hend, hnop⟩ (by omega) (by omega) (fun hboth => hmss ⟨hboth.1, ?_⟩)
          (ih (by omega) hfound)
        rw [hboth.2]
        rfl
  · intro hfirst
    induction hfirst generalizing fuel with
    | here hkind hlen hin =>
      obtain ⟨fuel, rfl⟩ : ∃ k, fuel = k + 1 := ⟨fuel - 1, by omega⟩
      have hfour : (4 : UInt8).toNat = 4 := rfl
      rw [mssOption]
      dsimp only
      rw [if_pos (by omega), hkind, if_neg (by decide), if_neg (by decide), if_neg (by omega),
        hlen, hfour, if_neg (by omega), if_pos ⟨rfl, rfl⟩]
    | nop hin hkind _ ih =>
      obtain ⟨fuel, rfl⟩ : ∃ k, fuel = k + 1 := ⟨fuel - 1, by omega⟩
      rw [mssOption, if_pos hin, hkind, if_neg (by decide), if_pos rfl]
      exact ih (by omega)
    | other hkind hlen hin hother _ ih =>
      obtain ⟨fuel, rfl⟩ : ∃ k, fuel = k + 1 := ⟨fuel - 1, by omega⟩
      rw [mssOption]
      dsimp only
      rw [if_pos (by omega), if_neg hkind.1, if_neg hkind.2, if_neg (by omega), if_neg (by omega),
        if_neg (fun hboth => hother ⟨hboth.1, UInt8.toNat_inj.mp hboth.2⟩)]
      exact ih (by omega)

/-- The option lies between the fixed header and the end of the options. -/
theorem FirstMss.bounds (h : FirstMss m optEnd opt mss) : opt + 2 ≤ mss ∧ mss + 2 ≤ optEnd := by
  induction h with
  | here => omega
  | nop => omega
  | other => omega

/-- The walk reads kinds and lengths before the end of the options. By induction on the fuel, along
    the checks of the loop. -/
theorem optionReads_le {r : Nat × Nat} (h : r ∈ optionReads m optEnd fuel opt) :
    r.1 + r.2 ≤ optEnd := by
  -- The induction is on the fuel, that is on the options of the walk.
  induction fuel generalizing opt with
  | zero => simp [optionReads] at h
  | succ fuel ih =>
    rw [optionReads] at h
    dsimp only at h
    split_ifs at h with hin hend hnop hlast hbad hmss
    · obtain rfl := List.mem_singleton.mp h
      exact hin
    · rcases List.mem_cons.mp h with rfl | hrest
      · exact hin
      · exact ih hrest
    · obtain rfl := List.mem_singleton.mp h
      exact hin
    -- A length that is bad, or an MSS, ends the walk after its two bytes.
    · rcases List.mem_pair.mp h with rfl | rfl <;> dsimp only <;> omega
    · rcases List.mem_pair.mp h with rfl | rfl <;> dsimp only <;> omega
    · rcases List.mem_cons.mp h with rfl | hrest
      · exact hin
      · rcases List.mem_cons.mp hrest with rfl | hrest
        · dsimp only
          omega
        · exact ih hrest
    · simp at h

/-! ### The outcomes -/

variable {p : Segment} {maxMss : UInt16}

/-- What is read of a SYN up to its MSS option. -/
def synReads (p : Segment) : List (Nat × Nat) :=
  [(12, 1), (13, 1), (14, 1)] ++ [(23, 1)] ++ [(tcpAt p + 13, 1)] ++ [(tcpAt p + 12, 1)]
    ++ optionReads p.mem (tcpAt p + tcpHdrLen p) optionFuel (tcpAt p + 20)

/-- The frame with the option lowered to the limit, and the checksum updated. -/
def lowered (p : Segment) (maxMss : UInt16) (mss : Nat) : Memory :=
  updateField p.mem (tcpAt p) (mss - tcpAt p) 16 (swap16 maxMss.toNat)

theorem tcpHdrLen_le (p : Segment) : tcpHdrLen p ≤ 60 := by
  have hlt := (p.mem (tcpAt p + 12)).toNat_lt
  unfold tcpHdrLen
  omega

/-- The option that the walk finds. -/
theorem mssOption_optionFuel (p : Segment) :
    mssOption p.mem (tcpAt p + tcpHdrLen p) optionFuel (tcpAt p + 20) = some mss ↔
      FirstMss p.mem (tcpAt p + tcpHdrLen p) (tcpAt p + 20) mss := by
  have hle := tcpHdrLen_le p
  exact mssOption_eq_some (by rw [optionFuel]; omega)

/-- **A SYN with an option above the limit** has it lowered. -/
theorem clampTcpMss_lowers (h : Above p maxMss mss) : clampTcpMss p maxMss =
    ⟨lowered p maxMss mss, synReads p ++ [(mss, 2)] ++ [(tcpAt p + 16, 2)],
      [(mss, 2), (tcpAt p + 16, 2)]⟩ := by
  -- All tests of the function pass for this frame.
  obtain ⟨hmax, ⟨hsyn, hfirst⟩, habove⟩ := h
  have hbounds := hfirst.bounds
  have hlen := hsyn.length
  have htcp := hsyn.tcpLength
  have hoptions := hsyn.options
  have hat : tcpAt p = 14 + ipHdrLen p := rfl
  have hplace : tcpAt p + (mss - tcpAt p) = mss := by omega
  -- The comparison is of the values in the order of the host.
  rw [mssValue, ← swap16_le16] at habove
  rw [lowered, updateField, hplace]
  unfold clampTcpMss
  dsimp only
  rw [if_neg hmax, if_neg (by omega), if_neg (not_not.mpr hsyn.etherType.1),
    if_neg (not_not.mpr hsyn.etherType.2), if_neg (not_not.mpr hsyn.version),
    if_neg (not_not.mpr hsyn.protocol), if_neg (by omega), if_neg hsyn.syn, if_neg (by omega),
    (mssOption_optionFuel p).mpr hfirst]
  dsimp only
  rw [if_pos habove]
  rfl

/-- The frame is left as it is, and read in its first segment. -/
structure Keeps (p : Segment) (x : Pass) : Prop where
  mem : x.mem = p.mem
  writes : x.writes = []
  reads : ∀ r ∈ x.reads, r.1 + r.2 ≤ p.len

/-- The reads of the headers, if they lie in the first segment. -/
theorem headerReads_le (htcp : tcpAt p + 20 ≤ p.len) :
    ∀ r ∈ [(12, 1), (13, 1), (14, 1)] ++ [(23, 1)] ++ [(tcpAt p + 13, 1)]
      ++ [(tcpAt p + 12, 1)], r.1 + r.2 ≤ p.len := by
  have hat : tcpAt p = 14 + ipHdrLen p := rfl
  intro r hr
  simp only [List.cons_append, List.nil_append, List.mem_cons, List.not_mem_nil, or_false] at hr
  rcases hr with rfl | rfl | rfl | rfl | rfl | rfl <;> dsimp only <;> omega

theorem synReads_le (hsyn : SynHeader p) : ∀ r ∈ synReads p, r.1 + r.2 ≤ p.len := by
  intro r hr
  rcases List.mem_append.mp hr with hheader | hoption
  · exact headerReads_le hsyn.tcpLength r hheader
  · exact Nat.le_trans (optionReads_le hoption) hsyn.options.2

/-- **Every other frame** is left as it is. The checks are gone through one after the other, and
    behind each of them nothing has been written. -/
theorem clampTcpMss_keeps (h : ∀ mss, ¬ Above p maxMss mss) : Keeps p (clampTcpMss p maxMss) := by
  have hkeep : ∀ reads : List (Nat × Nat), (∀ r ∈ reads, r.1 + r.2 ≤ p.len) →
      Keeps p ⟨p.mem, reads, []⟩ := fun reads hreads => ⟨rfl, rfl, hreads⟩
  have hat : tcpAt p = 14 + ipHdrLen p := rfl
  unfold clampTcpMss
  dsimp only
  -- one check after the other
  by_cases hmax : maxMss = 0
  · rw [if_pos hmax]
    exact hkeep _ (by simp)
  rw [if_neg hmax]
  by_cases hlen : p.len < 14 + 20 + 20
  · rw [if_pos hlen]
    exact hkeep _ (by simp)
  rw [if_neg hlen]
  have hfront : ∀ reads : List (Nat × Nat), (∀ r ∈ reads, r.1 + r.2 ≤ 54) →
      Keeps p ⟨p.mem, reads, []⟩ :=
    fun reads hreads => hkeep _ fun r hr => Nat.le_trans (hreads r hr) (by omega)
  by_cases h12 : p.mem 12 ≠ 0x08
  · rw [if_pos h12]
    exact hfront _ (by decide)
  rw [if_neg h12]
  by_cases h13 : p.mem 13 ≠ 0x00
  · rw [if_pos h13]
    exact hfront _ (by decide)
  rw [if_neg h13]
  by_cases hversion : (p.mem 14).toNat / 16 ≠ 4
  · rw [if_pos hversion]
    exact hfront _ (by decide)
  rw [if_neg hversion]
  by_cases hproto : p.mem 23 ≠ ipprotoTcp
  · rw [if_pos hproto]
    exact hfront _ (by decide)
  rw [if_neg hproto]
  by_cases htcp : p.len < 14 + ipHdrLen p + 20
  · rw [if_pos htcp]
    exact hfront _ (by decide)
  rw [if_neg htcp]
  have hheader := headerReads_le (p := p) (by omega)
  by_cases hsyn : p.mem (tcpAt p + 13) &&& 0x02 = 0
  · rw [if_pos hsyn]
    exact hkeep _ fun r hr => hheader r (List.mem_append_left _ hr)
  rw [if_neg hsyn]
  by_cases hoptions : tcpHdrLen p < 20 ∨ p.len < 14 + ipHdrLen p + tcpHdrLen p
  · rw [if_pos hoptions]
    exact hkeep _ hheader
  rw [if_neg hoptions]
  have hheaders : SynHeader p := ⟨by omega, ⟨not_not.mp h12, not_not.mp h13⟩, not_not.mp hversion,
    not_not.mp hproto, by omega, hsyn, by omega⟩
  have hreads := synReads_le hheaders
  cases hfound : mssOption p.mem (tcpAt p + tcpHdrLen p) optionFuel (tcpAt p + 20) with
  | none => exact hkeep _ hreads
  | some mss =>
    have hfirst := (mssOption_optionFuel p).mp hfound
    have hbounds := hfirst.bounds
    dsimp only
    rw [swap16_le16]
    by_cases habove : maxMss.toNat < be16 (p.mem.load mss 2) 0
    · exact absurd ⟨hmax, ⟨hheaders, hfirst⟩, habove⟩ (h mss)
    · rw [if_neg habove]
      refine hkeep _ fun r hr => ?_
      rcases List.mem_append.mp hr with hbefore | hmss
      · exact hreads r hbefore
      · obtain rfl := List.mem_singleton.mp hmss
        exact Nat.le_trans hbounds.2 hheaders.options.2

/-! ### The lowered option -/

theorem mssAt_unique {mss' : Nat} (h : MssAt p mss) (h' : MssAt p mss') : mss = mss' := by
  have hfound := (mssOption_optionFuel p).mpr h.2
  rw [(mssOption_optionFuel p).mpr h'.2] at hfound
  exact (Option.some.inj hfound).symm

/-- Where the option lies. -/
theorem MssAt.bounds (h : MssAt p mss) : tcpAt p + 22 ≤ mss ∧ mss + 2 ≤ tcpAt p + tcpHdrLen p ∧
    tcpAt p + tcpHdrLen p ≤ p.len := by
  have hbounds := h.2.bounds
  have hin := h.1.options.2
  omega

/-- The two stores, in their places. -/
theorem lowered_eq (h : tcpAt p ≤ mss) : lowered p maxMss mss =
    (p.mem.store mss (leBytes (swap16 maxMss.toNat))).store (tcpAt p + 16) (leBytes
      (updatedChecksum (le16 (p.mem.store mss (leBytes (swap16 maxMss.toNat))) (tcpAt p + 16))
        (le16 p.mem mss) (swap16 maxMss.toNat))) := by
  rw [lowered, updateField, Nat.add_sub_cancel' h]

/-- The rest of the frame. -/
theorem lowered_of_outside (h : tcpAt p ≤ mss) {i : Nat} (hmss : i < mss ∨ mss + 2 ≤ i)
    (hchksum : i < tcpAt p + 16 ∨ tcpAt p + 18 ≤ i) : lowered p maxMss mss i = p.mem i := by
  rw [lowered_eq h, Memory.store_disjoint _ (by rw [length_leBytes]; omega),
    Memory.store_disjoint _ (by rw [length_leBytes]; omega)]

/-- The option has the limit for its value. -/
theorem mssValue_lowered (p : Segment) (maxMss : UInt16) (h : tcpAt p + 22 ≤ mss) :
    mssValue (lowered p maxMss mss) mss = maxMss.toNat := by
  have hlt := maxMss.toNat_lt
  rw [mssValue, ← swap16_le16, lowered_eq (by omega),
    le16_store_disjoint _ (by rw [length_leBytes]; omega), le16_store_self _ _ (swap16_lt hlt),
    swap16_swap16 hlt]

/-- The call leaves the same options at its end. -/
theorem mssOption_of_le (p : Segment) {fuel : Nat} (h : optionFuel ≤ fuel) :
    mssOption p.mem (tcpAt p + tcpHdrLen p) fuel (tcpAt p + 20)
      = mssOption p.mem (tcpAt p + tcpHdrLen p) optionFuel (tcpAt p + 20) := by
  have hle := tcpHdrLen_le p
  rw [optionFuel] at h
  apply Option.ext
  intro mss
  rw [mssOption_optionFuel, mssOption_eq_some (by omega)]

/-- The value is another one afterwards, so the option has to be that of a SYN. -/
theorem TouchesNothingElse.ofSyn (h : TouchesNothingElse p maxMss (clampTcpMss p maxMss))
    (habove : Above p maxMss mss) : OfSyn p mss := by
  have htouched := h.touched
  rw [clampTcpMss_lowers habove] at htouched
  dsimp only at htouched
  rcases htouched with hsame | ⟨mss', hmss', hof, -⟩
  · have hvalue := mssValue_lowered p maxMss habove.2.1.bounds.1
    rw [hsame] at hvalue
    exact absurd hvalue (Nat.ne_of_gt habove.2.2)
  · exact mssAt_unique habove.2.1 hmss' ▸ hof

/-- **When nothing else is touched**: an option that is above the limit is that of a SYN in the
    packet, not of bytes that only look like one: the data of a later fragment, an IP header cut
    short, or the padding of the frame. -/
theorem touchesNothingElse_iff (p : Segment) (maxMss : UInt16) :
    TouchesNothingElse p maxMss (clampTcpMss p maxMss) ↔
      ∀ mss, Above p maxMss mss → OfSyn p mss := by
  -- At most one option is lowered, and only one above the limit.
  by_cases hany : ∃ mss, Above p maxMss mss
  · obtain ⟨mss, habove⟩ := hany
    have hbounds := habove.2.1.bounds
    have hvalue := mssValue_lowered p maxMss hbounds.1
    refine ⟨fun h mss' habove' => h.ofSyn habove', fun h => ?_⟩
    rw [clampTcpMss_lowers habove]
    refine ⟨fun r hr => ?_, fun r hr => ?_, fun fuel => mssOption_of_le p, fun mss' hmss' => ?_,
      .inr ⟨mss, habove.2.1, h mss habove, fun i hi hi' =>
        lowered_of_outside (by omega) hi hi'⟩⟩
    -- The reads are those of the tests, of the value and of the checksum.
    · rcases List.mem_append.mp hr with hbefore | hlast
      · rcases List.mem_append.mp hbefore with hsyn | hmss
        · exact synReads_le habove.2.1.1 r hsyn
        · obtain rfl := List.mem_singleton.mp hmss
          exact Nat.le_trans hbounds.2.1 hbounds.2.2
      · obtain rfl := List.mem_singleton.mp hlast
        dsimp only
        omega
    · rcases List.mem_pair.mp hr with rfl | rfl <;> dsimp only <;> omega
    · obtain rfl := mssAt_unique habove.2.1 hmss'
      rw [hvalue]
      exact ⟨Nat.le_of_lt habove.2.2, fun _ => Nat.le_refl _⟩
  -- Without one, the packet is returned as it came.
  · have hnone : ∀ mss, ¬ Above p maxMss mss := not_exists.mp hany
    have hkeeps := clampTcpMss_keeps hnone
    refine ⟨fun _ mss habove => absurd habove (hnone mss), fun _ => ⟨hkeeps.reads, ?_,
      fun fuel => mssOption_of_le p, fun mss hmss => ?_, .inl hkeeps.mem⟩⟩
    · rw [hkeeps.writes]
      simp
    · rw [hkeeps.mem]
      exact ⟨Nat.le_refl _, fun hmax => Nat.le_of_not_lt fun hlt => hnone mss ⟨hmax, hmss, hlt⟩⟩

/-- A later fragment: 24 bytes of data that have the look of a SYN with a segment size. The function
    takes the data for a TCP header. -/
def laterFragment : List UInt8 :=
  [2, 0, 0, 0, 0, 1, 2, 0, 0, 0, 0, 2, 8, 0,
    69, 0, 0, 44, 0, 1, 0, 185, 64, 6, 179, 102, 192, 168, 4, 2, 1, 1, 1, 1,
    48, 49, 50, 51, 52, 53, 54, 55, 56, 57, 58, 59, 96, 2, 60, 61, 62, 63, 64, 65,
    2, 4, 5, 180]

/-- A received frame. -/
def segmentOf (frame : List UInt8) (h : frame.length < 65536) : Segment :=
  ⟨byteAt frame, frame.length, h⟩

theorem length_laterFragment : laterFragment.length < 65536 := by decide

/-- Its data is changed. -/
theorem laterFragment_changed : ¬ ∀ (p : Segment) (maxMss : UInt16),
    TouchesNothingElse p maxMss (clampTcpMss p maxMss) := by
  intro h
  have habove : Above (segmentOf laterFragment length_laterFragment) 1240 56 := by
    refine ⟨by decide, ⟨⟨by decide, by decide, by decide, by decide, by decide, by decide,
      by decide⟩, .here (by decide) (by decide) (by decide)⟩, ?_⟩
    unfold mssValue
    decide
  exact absurd ((h _ 1240).ofSyn habove).fragmentOffset (by decide)

/-! ### The checksum -/

/-- A word and the same word turned by one byte are opposite modulo 257. -/
theorem swap16_add_mod (v : Nat) : (swap16 v + v) % 257 = 0 := by
  unfold swap16
  omega

/-- The pseudo-header lies in front of the TCP header. -/
theorem tcpPseudo_lowered (hsyn : TcpSyn p) (h : tcpAt p ≤ mss) :
    tcpPseudo p (lowered p maxMss mss) = tcpPseudo p p.mem := by
  have hheader := hsyn.headerLength
  have hat : tcpAt p = 14 + ipHdrLen p := rfl
  rw [tcpPseudo, lowered_eq h, Memory.load_store_disjoint _ (.inl (by omega)),
    Memory.load_store_disjoint _ (.inl (by omega)), tcpPseudo]

theorem length_tcpPseudo (p : Segment) (m : Memory) : (tcpPseudo p m).length = 12 := by
  simp [tcpPseudo]

/-- The protocol makes the sum positive. -/
theorem wordSum_tcpPseudo_pos (p : Segment) (m : Memory) (l : List UInt8) :
    0 < wordSum (tcpPseudo p m ++ l) := by
  have hprotocol : wordSum ([0, ipprotoTcp] ++ bytes16 (tcpLen p)) = 6 + tcpLen p % 65536 := by
    rw [wordSum_append rfl, wordSum_bytes16]
    rfl
  rw [wordSum_append (by rw [length_tcpPseudo]), tcpPseudo,
    wordSum_append (by rw [Memory.length_load]), hprotocol]
  omega

/-- **The checksum of a lowered option** verifies if the option's value is at an even place, or is
    the same number modulo 257. -/
theorem verifies_lowered (hsyn : TcpSyn p) (hmss : MssAt p mss) (hv : TcpVerifies p p.mem) :
    TcpVerifies p (lowered p maxMss mss) ↔
      mss % 2 = 0 ∨ mssValue p.mem mss % 257 = maxMss.toNat % 257 := by
  have hbounds := hmss.bounds
  have hlen := hsyn.options
  have hat : tcpAt p = 14 + (p.mem 14).toNat % 16 * 4 := rfl
  have hpseudo : (tcpPseudo p p.mem).length % 2 = 0 := by rw [length_tcpPseudo]
  have hupdate := verifies_update p.mem (tcpAt p) (c := 16) (k := mss - tcpAt p)
    (n := tcpLen p) (v := swap16 maxMss.toNat) hpseudo (wordSum_tcpPseudo_pos _ _ _) (by omega)
    (by omega) rfl (swap16_lt maxMss.toNat_lt) hv
  rw [← lowered, Nat.add_sub_cancel' (by omega)] at hupdate
  rw [TcpVerifies, tcpPseudo_lowered hsyn (by omega), hupdate, mssValue, ← swap16_le16]
  -- the place counts from the TCP header, which is at an even place itself
  have hold := swap16_add_mod (le16 p.mem mss)
  have hnew := swap16_add_mod maxMss.toNat
  omega

/-- **When the TCP checksum is still valid**: no option is lowered that has its value at an odd
    place and is another number modulo 257. -/
theorem clamp_verifies_iff (p : Segment) (maxMss : UInt16) (hsyn : TcpSyn p)
    (hv : TcpVerifies p p.mem) : TcpVerifies p (clampTcpMss p maxMss).mem ↔
      ∀ mss, Above p maxMss mss →
        mss % 2 = 0 ∨ mssValue p.mem mss % 257 = maxMss.toNat % 257 := by
  by_cases hany : ∃ mss, Above p maxMss mss
  · obtain ⟨mss, habove⟩ := hany
    rw [clampTcpMss_lowers habove, verifies_lowered hsyn habove.2.1 hv]
    constructor
    · intro h mss' habove'
      rwa [← mssAt_unique habove.2.1 habove'.2.1]
    · exact fun h => h mss habove
  · have hnone : ∀ mss, ¬ Above p maxMss mss := not_exists.mp hany
    rw [(clampTcpMss_keeps hnone).mem]
    exact iff_of_true hv fun mss habove => absurd habove (hnone mss)

/-- A SYN whose options are a NOP and a segment size of 1460, and the end of the list. The NOP puts
    the value at an odd place. -/
def nopSyn : List UInt8 :=
  [2, 0, 0, 0, 0, 1, 2, 0, 0, 0, 0, 2, 8, 0,
    69, 0, 0, 48, 0, 1, 0, 0, 64, 6, 180, 27, 192, 168, 4, 2, 1, 1, 1, 1,
    192, 0, 0, 80, 0, 0, 0, 1, 0, 0, 0, 0, 112, 2, 255, 255, 79, 213, 0, 0,
    1, 2, 4, 5, 180, 0, 0, 0]

theorem length_nopSyn : nopSyn.length < 65536 := by decide

theorem nopSyn_tcpSyn : TcpSyn (segmentOf nopSyn length_nopSyn) :=
  ⟨by decide, by decide, by decide, by decide, by decide, by decide⟩

theorem nopSyn_verifies : TcpVerifies (segmentOf nopSyn length_nopSyn)
    (segmentOf nopSyn length_nopSyn).mem := by
  unfold TcpVerifies
  decide +kernel

theorem nopSyn_above : Above (segmentOf nopSyn length_nopSyn) 1240 57 := by
  refine ⟨by decide, ⟨⟨by decide, by decide, by decide, by decide, by decide, by decide,
    by decide⟩, .nop (by decide) (by decide) (.here (by decide) (by decide) (by decide))⟩, ?_⟩
  unfold mssValue
  decide

/-- Lowered to 1240, it has a wrong checksum. -/
theorem nopSyn_invalid : ¬ ∀ (p : Segment) (maxMss : UInt16), TcpSyn p → TcpVerifies p p.mem →
    TcpVerifies p (clampTcpMss p maxMss).mem := by
  intro h
  have hvalid := h _ 1240 nopSyn_tcpSyn nopSyn_verifies
  rw [clampTcpMss_lowers nopSyn_above,
    verifies_lowered nopSyn_tcpSyn nopSyn_above.2.1 nopSyn_verifies] at hvalid
  exact absurd hvalid (by unfold mssValue; decide)

/-- The same options are left alone under a limit that they keep. -/
theorem nopSyn_kept : TcpVerifies (segmentOf nopSyn length_nopSyn)
      (clampTcpMss (segmentOf nopSyn length_nopSyn) 1460).mem ↔
    ∀ mss, Above (segmentOf nopSyn length_nopSyn) 1460 mss →
      mss % 2 = 0 ∨ mssValue (segmentOf nopSyn length_nopSyn).mem mss % 257 = 1460 % 257 :=
  clamp_verifies_iff _ _ nopSyn_tcpSyn nopSyn_verifies

end SubnetRouter.NetifHooks
