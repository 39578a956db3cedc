import SubnetRouter.MssClamp

namespace SubnetRouter.NetifHooks

open Lib

/-!
# Overriding the TTL of outgoing packets (`main/netif_hooks.c`)

`apply_sta_ttl_override` writes a configured TTL into every IPv4 packet that leaves by the STA
netif and updates the header checksum for it.

* `applyStaTtlOverride` — the call.
* `applyStaTtlOverride_of_overrides`, `applyStaTtlOverride_keeps` — the two outcomes.
* `ttl_override_correct` — valid headers stay valid, nothing else changes, and twice is once.
-/

/-- `apply_sta_ttl_override` with the configured value `override`, for a pbuf `p` that is not
    NULL: the bytes of the frame afterwards. -/
def applyStaTtlOverride (p : Segment) (override : UInt8) : Memory :=
  let m := p.mem
  if override = 0 then m
  else if p.len < 14 + 20 then m
  else if m 12 ≠ 0x08 ∨ m 13 ≠ 0x00 then m
  else if (m 14).toNat / 16 ≠ 4 then m
  else if m 22 = override then m
  else
    -- the word of TTL and protocol
    let oldWord := le16 m 22
    let m := m.store 22 [override]
    let newWord := le16 m 22
    m.store 24 (leBytes (updatedChecksum (le16 m 24) oldWord newWord))

/-- The frame carries an IPv4 header. -/
structure IsIpv4 (p : Segment) : Prop where
  length : 14 + 20 ≤ p.len
  etherType : p.mem 12 = 0x08 ∧ p.mem 13 = 0x00
  version : (p.mem 14).toNat / 16 = 4

/-- The header, of the length that it claims, has a valid checksum. -/
def HeaderVerifies (p : Segment) (m : Memory) : Prop := Verifies (m.load 14 (ipHdrLen p))

/-- The frame is given another TTL. -/
def Overrides (p : Segment) (override : UInt8) : Prop :=
  override ≠ 0 ∧ IsIpv4 p ∧ p.mem 22 ≠ override

/-- The frame with the TTL, and the checksum updated. -/
def overridden (p : Segment) (override : UInt8) : Memory :=
  updateField p.mem 14 8 10 (override.toNat + (p.mem 23).toNat * 256)

/-- The same segment with other bytes. -/
def Segment.withMem (p : Segment) (m : Memory) : Segment := ⟨m, p.len, p.len_lt⟩

variable {p : Segment} {override : UInt8}

theorem leBytes_word (lo hi : UInt8) : leBytes (lo.toNat + hi.toNat * 256) = [lo, hi] := by
  have hlo := lo.toNat_lt
  have hhi := hi.toNat_lt
  have h0 : UInt8.ofNat (lo.toNat + hi.toNat * 256) = lo := by
    apply UInt8.toNat_inj.mp
    rw [UInt8.toNat_ofNat']
    omega
  have h1 : UInt8.ofNat ((lo.toNat + hi.toNat * 256) / 256) = hi := by
    apply UInt8.toNat_inj.mp
    rw [UInt8.toNat_ofNat']
    omega
  rw [leBytes, h0, h1]

/-- Writing the TTL writes its word. -/
theorem store_ttl (m : Memory) (ttl : UInt8) :
    m.store 22 [ttl] = m.store 22 (leBytes (ttl.toNat + (m 23).toNat * 256)) := by
  rw [leBytes_word]
  funext i
  by_cases h22 : i = 22
  · subst h22
    exact (@Memory.store_self m 22 [ttl] 0 (by simp)).trans
      (@Memory.store_self m 22 [ttl, m 23] 0 (by simp)).symm
  · rw [Memory.store_disjoint m (by simp only [List.length_singleton]; omega)]
    by_cases h23 : i = 23
    · subst h23
      exact (@Memory.store_self m 22 [ttl, m 23] 1 (by simp)).symm
    · rw [Memory.store_disjoint m (by simp only [List.length_cons, List.length_nil]; omega)]

theorem word_lt (lo hi : UInt8) : lo.toNat + hi.toNat * 256 < 65536 := by
  have hlo := lo.toNat_lt
  have hhi := hi.toNat_lt
  omega

/-! ### The outcomes -/

/-- **An IPv4 packet with another TTL** is given the configured one. -/
theorem applyStaTtlOverride_of_overrides (h : Overrides p override) :
    applyStaTtlOverride p override = overridden p override := by
  obtain ⟨hset, hip, hother⟩ := h
  have hlen := hip.length
  unfold applyStaTtlOverride
  dsimp only
  have hether : ¬ (p.mem 12 ≠ 0x08 ∨ p.mem 13 ≠ 0x00) :=
    not_or.mpr ⟨not_not.mpr hip.etherType.1, not_not.mpr hip.etherType.2⟩
  rw [if_neg hset, if_neg (by omega), if_neg hether, if_neg (not_not.mpr hip.version),
    if_neg hother, store_ttl, le16_store_self _ _ (word_lt _ _)]
  rfl

/-- **Every other frame** is left as it is. -/
theorem applyStaTtlOverride_keeps (h : ¬ Overrides p override) :
    applyStaTtlOverride p override = p.mem := by
  unfold applyStaTtlOverride
  dsimp only
  -- Each test of the function that fails leaves the frame as it is.
  by_cases hset : override = 0
  · rw [if_pos hset]
  rw [if_neg hset]
  by_cases hlen : p.len < 14 + 20
  · rw [if_pos hlen]
  rw [if_neg hlen]
  by_cases hether : p.mem 12 ≠ 0x08 ∨ p.mem 13 ≠ 0x00
  · rw [if_pos hether]
  rw [if_neg hether]
  by_cases hversion : (p.mem 14).toNat / 16 ≠ 4
  · rw [if_pos hversion]
  rw [if_neg hversion]
  by_cases hsame : p.mem 22 = override
  · rw [if_pos hsame]
  -- Past all tests the frame is one whose TTL is overridden.
  · obtain ⟨h12, h13⟩ := not_or.mp hether
    exact absurd ⟨hset, ⟨by omega, ⟨not_not.mp h12, not_not.mp h13⟩, not_not.mp hversion⟩, hsame⟩ h

/-! ### The frame afterwards -/

theorem overridden_of_outside (p : Segment) (override : UInt8) {i : Nat} (h22 : i ≠ 22)
    (h24 : i ≠ 24) (h25 : i ≠ 25) : overridden p override i = p.mem i := by
  rw [overridden, updateField, Memory.store_disjoint _ (by rw [length_leBytes]; omega),
    leBytes_word]
  by_cases h23 : i = 23
  · subst h23
    exact @Memory.store_self p.mem 22 [override, p.mem 23] 1 (by simp)
  · exact Memory.store_disjoint _ (by simp only [List.length_cons, List.length_nil]; omega)

theorem overridden_ttl (p : Segment) (override : UInt8) : overridden p override 22 = override := by
  rw [overridden, updateField, Memory.store_disjoint _ (by rw [length_leBytes]; omega),
    leBytes_word]
  exact @Memory.store_self p.mem 22 [override, p.mem 23] 0 (by simp)

/-- **A valid header stays valid**, also one that claims to end before its checksum. -/
theorem headerVerifies_overridden (hip : IsIpv4 p) (hv : HeaderVerifies p p.mem) :
    HeaderVerifies p (overridden p override) := by
  have hlen : ipHdrLen p = (p.mem 14).toNat % 16 * 4 := rfl
  by_cases hlong : 12 ≤ ipHdrLen p
  · -- the version makes the sum positive
    have hpos : 0 < wordSum ([] ++ (updateField p.mem 14 8 10
        (override.toNat + (p.mem 23).toNat * 256)).load 14 (ipHdrLen p)) := by
      have hfirst : (overridden p override) 14 = p.mem 14 :=
        overridden_of_outside p override (by omega) (by omega) (by omega)
      have hversion := hip.version
      rw [List.nil_append, ← overridden, wordSum_load_field _ (k := 0) rfl (by omega)]
      change 0 < 0 + ((overridden p override 14).toNat * 256 + (overridden p override 15).toNat + 0
        + wordSum _)
      rw [hfirst]
      omega
    exact (verifies_update p.mem 14 rfl hpos (by omega) (by omega) rfl (word_lt _ _) hv).mpr
      (.inl rfl)
  · rw [HeaderVerifies, overridden, updateField,
      Memory.load_store_disjoint _ (.inl (by omega)),
      Memory.load_store_disjoint _ (.inl (by omega))]
    exact hv

/-- **The override.**  A value of `0` changes nothing.  With any other value an IPv4 packet has this
    TTL afterwards, and a valid header stays valid; no other byte of a frame is changed, other
    frames are left as they are, and a second call changes nothing more. -/
theorem ttl_override_correct (p : Segment) (override : UInt8) :
    (override = 0 → applyStaTtlOverride p override = p.mem) ∧
    (override ≠ 0 → IsIpv4 p → applyStaTtlOverride p override 22 = override) ∧
    (HeaderVerifies p p.mem → HeaderVerifies p (applyStaTtlOverride p override)) ∧
    (∀ i, i ≠ 22 → i ≠ 24 → i ≠ 25 → applyStaTtlOverride p override i = p.mem i) ∧
    (¬ IsIpv4 p → applyStaTtlOverride p override = p.mem) ∧
    applyStaTtlOverride (p.withMem (applyStaTtlOverride p override)) override
      = applyStaTtlOverride p override := by
  by_cases h : Overrides p override
  · rw [applyStaTtlOverride_of_overrides h]
    refine ⟨fun hzero => absurd hzero h.1, fun _ _ => overridden_ttl p override,
      headerVerifies_overridden h.2.1, fun i => overridden_of_outside p override,
      fun hno => absurd h.2.1 hno, applyStaTtlOverride_keeps fun hagain => ?_⟩
    exact hagain.2.2 (overridden_ttl p override)
  · rw [applyStaTtlOverride_keeps h]
    refine ⟨fun _ => rfl, fun hset hip => ?_, id, fun _ _ _ _ => rfl, fun _ => rfl,
      applyStaTtlOverride_keeps h⟩
    exact not_not.mp fun hother => h ⟨hset, hip, hother⟩

/-- An echo request with a TTL of 64. -/
def echoFrame : List UInt8 :=
  [2, 0, 0, 0, 0, 1, 2, 0, 0, 0, 0, 2, 8, 0,
    69, 0, 0, 28, 0, 1, 0, 0, 64, 1, 180, 52, 192, 168, 4, 2, 1, 1, 1, 1,
    8, 0, 247, 253, 0, 1, 0, 1]

theorem length_echoFrame : echoFrame.length < 65536 := by decide

/-- The value `0` stands for no override. -/
theorem zero_passes : ¬ ∀ (p : Segment) (override : UInt8), IsIpv4 p → HeaderVerifies p p.mem →
    applyStaTtlOverride p override 22 = override := by
  intro h
  have hip : IsIpv4 (segmentOf echoFrame length_echoFrame) := ⟨by decide, by decide, by decide⟩
  have hv : HeaderVerifies (segmentOf echoFrame length_echoFrame)
      (segmentOf echoFrame length_echoFrame).mem := by
    unfold HeaderVerifies
    decide +kernel
  exact absurd (h _ 0 hip hv) (by decide)

end SubnetRouter.NetifHooks
