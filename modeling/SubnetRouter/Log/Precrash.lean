import SubnetRouter.Lib.Run
import SubnetRouter.Log.Capture

namespace SubnetRouter.Log

open Lib

/-!
# The log before a crash (`main/log_capture.c`)

`s_precrash` is a ring in memory that a reset keeps and a power-on fills with anything.
`log_capture_init` takes a snapshot of it, if it looks like a ring, and resets it; log lines come
only after that, but the text of a panic can come at any time.

* `capturing` — the machine of power-ons, resets, `log_capture_init`, log lines and panics.
* `StepSound` — a step uses only indices of the data array, and a snapshot is the end of what has
  been appended since the ring was reset.
* `Established` — the condition, on the memory that the power-on left and the text since.
* `Tracked` — what the ring holds, step by step; `stepSound_iff`.
* `precrash_sound_iff` — every run.
-/

/-! ### The code -/

/-- `PRECRASH_RING_BYTES`. -/
def precrashRingBytes : Nat := 4096

/-- `PRECRASH_MAGIC`. -/
def precrashMagic : UInt32 := 0xC0DEAFFE

/-- `DEFAULT_BUFFER_BYTES`. -/
def defaultBufferBytes : Nat := 16 * 1024

/-- What power-on leaves in the memory of `s_precrash`. Nothing is assumed of it but the size of the
    array. -/
structure RtcMemory where
  magic : UInt32
  head : UInt32
  count : UInt32
  data : List UInt8
  length_data : data.length = precrashRingBytes

/-- The variables there. -/
def RtcMemory.ring (m : RtcMemory) : PrecrashRing :=
  ⟨m.magic, ⟨m.data, m.head.toNat, m.count.toNat⟩⟩

/-- `log_capture_append_panic`. -/
def logCaptureAppendPanic (p : PrecrashRing) (s : List UInt8) : PrecrashRing :=
  if s.length = 0 then p else { p.append s with magic := precrashMagic }

/-- The check of `log_capture_init`. -/
def PrecrashRing.Valid (p : PrecrashRing) : Prop :=
  p.magic = precrashMagic ∧ 0 < p.ring.count ∧ p.ring.count ≤ precrashRingBytes ∧
    p.ring.head < precrashRingBytes

instance (p : PrecrashRing) : Decidable p.Valid := by
  unfold PrecrashRing.Valid
  infer_instance

/-- Where the copy of the snapshot starts. -/
def PrecrashRing.start (p : PrecrashRing) : Nat :=
  Ring.back precrashRingBytes p.ring.head p.ring.count

/-- The bytes of `s_snapshot`. -/
def PrecrashRing.content (p : PrecrashRing) : List UInt8 :=
  Ring.copyOut p.ring.slots p.ring.count p.start p.ring.count

/-- How the allocations of `log_capture_init` go: `s_buf`, and `s_snapshot`. -/
structure InitOutcome where
  allocated : Bool
  snapshotAllocated : Bool

/-- `ROUND_UP_1K`, or the default. -/
def bufferCap (bytes : Nat) : Nat :=
  if bytes = 0 then defaultBufferBytes else (bytes + 1023) / 1024 * 1024

/-- The statics of the module; and for the record, the memory that the last power-on left, as
    long as the ring has not been reset since, and what has been appended since then. -/
structure Capturing where
  log : LogCapture
  sSnapshot : Option (List UInt8)
  powerOn : Option RtcMemory
  appended : List UInt8

/-- The live ring before `log_capture_init`. -/
def LiveRing.unallocated : LiveRing := ⟨⟨[], 0, 0⟩, 0⟩

namespace Capturing

/-- A power-on. -/
def booted (m : RtcMemory) : Capturing := ⟨⟨.unallocated, m.ring⟩, none, some m, []⟩

/-- `s_buf` is set, and the log hook is installed. -/
def Installed (s : Capturing) : Prop := 0 < s.log.live.ring.cap

instance (s : Capturing) : Decidable s.Installed := by
  unfold Installed
  infer_instance

/-- `log_capture_init` comes to the snapshot. -/
def Starts (s : Capturing) (o : InitOutcome) : Prop := ¬ s.Installed ∧ o.allocated = true

instance (s : Capturing) (o : InitOutcome) : Decidable (s.Starts o) := by
  unfold Starts
  infer_instance

/-- `log_capture_init` takes a snapshot. -/
def Takes (s : Capturing) (o : InitOutcome) : Prop :=
  s.Starts o ∧ s.log.precrash.Valid ∧ o.snapshotAllocated = true

instance (s : Capturing) (o : InitOutcome) : Decidable (s.Takes o) := by
  unfold Takes
  infer_instance

/-- `log_capture_init`. The snapshot is taken from the ring of the run before, which is cleared only
    then. -/
def logCaptureInit (s : Capturing) (bytes : Nat) (o : InitOutcome) : Capturing :=
  if s.Starts o then
    { log :=
        { live := ⟨⟨List.replicate (bufferCap bytes) 0, 0, 0⟩, s.log.live.sSeq⟩
          precrash := ⟨precrashMagic, s.log.precrash.ring.clear⟩ }
      sSnapshot := if s.Takes o then some s.log.precrash.content else s.sSnapshot
      powerOn := none
      appended := [] }
  else s

end Capturing

/-- What can happen: power comes back with anything in the memory, a reset keeps it,
    `log_capture_init` runs, a log line is appended, the text of a panic is. -/
inductive CaptureAct where
  | powerOn (m : RtcMemory)
  | reset
  | init (bytes : Nat) (o : InitOutcome)
  | line (src : List UInt8)
  | panic (text : List UInt8)

namespace Capturing

/-- One step.  Log lines come through the hook. A reset loses the memory of the heap, and keeps the
    one of the ring. -/
def step (s : Capturing) : CaptureAct → Option Capturing
  | .powerOn m => some (booted m)
  | .reset => some { s with log := { s.log with live := .unallocated }, sSnapshot := none }
  | .init bytes o => some (s.logCaptureInit bytes o)
  | .line src =>
    if s.Installed then
      some { s with log := bufferAppend s.log src, appended := s.appended ++ src }
    else none
  | .panic text => some { s with
      log := { s.log with precrash := logCaptureAppendPanic s.log.precrash text }
      appended := s.appended ++ text }

/-- The indices of the data array that a step uses. The bounds are about them, and not about the
    values read or written. -/
def indices (s : Capturing) : CaptureAct → List Nat
  | .powerOn _ => []
  | .reset => []
  | .init _ o =>
    if s.Takes o then
      Ring.readIndices precrashRingBytes s.log.precrash.ring.count s.log.precrash.start
        s.log.precrash.ring.count
    else []
  | .line src =>
    if s.Installed then s.log.precrash.ring.writeIndices (kept s.log.precrash.ring.cap src) else []
  | .panic text => s.log.precrash.ring.writeIndices (kept s.log.precrash.ring.cap text)

end Capturing

/-- The machine of all orders. -/
def capturing : Machine Capturing CaptureAct := ⟨Capturing.step⟩

/-! ### What is asked of a step, and when it gives it -/

/-- All indices are those of the data array, and a snapshot is what has been appended since the
    ring was reset, or the last 4096 bytes of it. -/
structure StepSound (s : Capturing) (a : CaptureAct) : Prop where
  indices : ∀ i ∈ s.indices a, i < precrashRingBytes
  snapshot : ∀ bytes o, a = .init bytes o → s.Takes o →
    (s.logCaptureInit bytes o).sSnapshot =
      some (s.appended.drop (s.appended.length - precrashRingBytes))

/-- As long as the ring has not been reset since power-on: the text of a panic comes only if the
    head that is in the memory is an index, and a snapshot is taken only after it: of a ring that
    was found empty, or that the text has filled. -/
def Established (s : Capturing) (a : CaptureAct) : Prop :=
  ∀ m ∈ s.powerOn, match a with
    | .panic text => text ≠ [] → m.head.toNat < precrashRingBytes
    | .init _ o => s.Starts o → o.snapshotAllocated = true →
        if s.appended = [] then ¬ m.ring.Valid
        else m.count.toNat = 0 ∨ precrashRingBytes < m.count.toNat ∨
          precrashRingBytes ≤ s.appended.length
    | _ => True

/-! ### What the ring holds -/

/-- Behind `c₀` bytes that were found in it the ring has the bytes `l`; where more were counted
    than there is room for, the count is still what was found. -/
structure Behind (c₀ : Nat) (r : Lib.Ring UInt8) (l : List UInt8) : Prop where
  cap : r.cap = precrashRingBytes
  head_lt : r.head < precrashRingBytes
  inRange : c₀ ≤ precrashRingBytes → ∃ found : List UInt8, found.length = c₀ ∧
    r.Holds (found ++ l) ∧ r.count = min precrashRingBytes (c₀ + l.length)
  beyond : precrashRingBytes < c₀ → r.count = c₀

variable {s t : Capturing} {a : CaptureAct} {m : RtcMemory} {p : PrecrashRing}
  {r : Lib.Ring UInt8} {l xs : List UInt8} {c₀ bytes : Nat} {o : InitOutcome}

theorem precrashRingBytes_pos : 0 < precrashRingBytes := by decide

theorem RtcMemory.cap_ring (m : RtcMemory) : m.ring.ring.cap = precrashRingBytes := m.length_data

/-- What power-on left. -/
theorem behind_found (h : m.head.toNat < precrashRingBytes) :
    Behind m.count.toNat m.ring.ring [] := by
  have hcap := m.cap_ring
  refine ⟨hcap, h, fun hcount => ?_, fun _ => rfl⟩
  have hhead : m.ring.ring.head < m.ring.ring.cap := by rw [hcap]; exact h
  obtain ⟨found, hlen, hholds⟩ := Ring.exists_holds hhead (by rw [hcap]; exact hcount)
  refine ⟨found, hlen, by rwa [List.append_nil], ?_⟩
  rw [List.length_nil, Nat.add_zero, Nat.min_eq_right hcount]
  rfl

/-- After `log_capture_init`. -/
theorem behind_clear (hcap : r.cap = precrashRingBytes) : Behind 0 r.clear [] where
  cap := hcap
  head_lt := precrashRingBytes_pos
  inRange _ := ⟨[], rfl, Ring.holds_of_count_zero rfl rfl [], rfl⟩
  beyond h := absurd h (by decide)

/-- Text or a line is appended. -/
theorem Behind.append (h : Behind c₀ r l) (xs : List UInt8) :
    Behind c₀ (r.pushAll (kept r.cap xs)) (l ++ xs) := by
  have hcap := h.cap
  have hpos : 0 < r.cap := by rw [hcap]; exact precrashRingBytes_pos
  have hcount := Ring.count_pushAll (r := r) (kept r.cap xs)
  have hkept : (kept r.cap xs).length = min precrashRingBytes xs.length := by
    rw [kept, List.length_drop, hcap]
    omega
  refine ⟨by rw [Ring.cap_pushAll, hcap], ?_, fun hc => ?_, fun hc => ?_⟩
  · rw [← hcap]
    exact Ring.head_pushAll_lt hpos (by rw [hcap]; exact h.head_lt) _
  · obtain ⟨found, hlen, hholds, hsize⟩ := h.inRange hc
    refine ⟨found, hlen, ?_, ?_⟩
    · rw [← List.append_assoc]
      exact hholds.pushLast hpos xs
    · rw [hcount, if_pos (by rw [hsize, hcap]; omega), hkept, hsize, hcap, List.length_append]
      omega
  · have hsize := h.beyond hc
    rw [hcount, if_neg (by rw [hsize, hcap]; omega), hsize]

/-- The snapshot has all bytes that are counted. -/
theorem length_content (hcap : p.ring.cap = precrashRingBytes) :
    p.content.length = p.ring.count := by
  have hpos : p.start < p.ring.slots.length := by
    show p.start < p.ring.cap
    rw [hcap]
    exact Nat.mod_lt _ precrashRingBytes_pos
  exact (Ring.getElem?_copyOut hpos (Nat.le_refl _)).1

/-- **The snapshot** is what has been appended exactly if nothing was found in the ring before,
    or what has been appended fills it. -/
theorem Behind.content_eq_iff (h : Behind c₀ p.ring l) (hc : c₀ ≤ precrashRingBytes) :
    p.content = l.drop (l.length - precrashRingBytes) ↔ c₀ = 0 ∨ precrashRingBytes ≤ l.length := by
  obtain ⟨found, hlen, hholds, hcount⟩ := h.inRange hc
  have hread : p.content = (found ++ l).drop (c₀ + l.length - p.ring.count) := by
    rw [PrecrashRing.content, PrecrashRing.start, ← h.cap, hholds.copyOut (Nat.le_refl _),
      List.length_append, hlen]
  constructor
  · intro heq
    have hsame := congrArg List.length heq
    rw [length_content h.cap, hcount, List.length_drop] at hsame
    omega
  · rintro (rfl | hfull)
    · have hdrop : 0 + l.length - p.ring.count = l.length - precrashRingBytes := by omega
      rw [hread, hdrop, List.length_eq_zero_iff.mp hlen, List.nil_append]
    · have hdrop : c₀ + l.length - p.ring.count - found.length = l.length - precrashRingBytes := by
        omega
      rw [hread, List.drop_append, List.drop_of_length_le (by omega), List.nil_append, hdrop]

/-! ### Step by step -/

/-- What the ring holds while power is on. Before the first init that is told against the memory
    found at power-on, and later against what was appended. -/
structure Tracked (s : Capturing) : Prop where
  cap : s.log.precrash.ring.cap = precrashRingBytes
  installed : s.Installed → s.powerOn = none
  reset : s.powerOn = none → Behind 0 s.log.precrash.ring s.appended
  untouched : ∀ m ∈ s.powerOn, s.appended = [] → s.log.precrash = m.ring
  found : ∀ m ∈ s.powerOn, m.head.toNat < precrashRingBytes →
    Behind m.count.toNat s.log.precrash.ring s.appended
  panicked : ∀ m ∈ s.powerOn, s.appended ≠ [] →
    m.head.toNat < precrashRingBytes ∧ s.log.precrash.magic = precrashMagic

theorem not_installed_of_unallocated (h : s.log.live = .unallocated) : ¬ s.Installed := by
  rw [Capturing.Installed, h]
  decide

theorem tracked_booted (m : RtcMemory) : Tracked (.booted m) where
  cap := m.cap_ring
  installed h := absurd h (not_installed_of_unallocated rfl)
  reset := nofun
  untouched m' hm _ := by
    obtain rfl := Option.some.inj hm
    rfl
  found m' hm h := by
    obtain rfl := Option.some.inj hm
    exact behind_found h
  panicked m' hm h := absurd rfl h

/-- The bytes that are appended stay in the array exactly if the head is an index. -/
theorem appendIndices_iff (hcap : r.cap = precrashRingBytes) :
    (∀ i ∈ r.writeIndices (kept r.cap xs), i < precrashRingBytes) ↔
      (xs ≠ [] → r.head < precrashRingBytes) := by
  have hpos : 0 < r.cap := by rw [hcap]; exact precrashRingBytes_pos
  have hiff := Ring.writeIndices_lt_iff hpos (kept r.cap xs)
  have hempty : kept r.cap xs ≠ [] ↔ xs ≠ [] := by
    rw [← List.length_pos_iff, ← List.length_pos_iff, kept, List.length_drop]
    omega
  rw [hempty, hcap] at hiff
  rwa [hcap]

/-- Reading stays in the array. -/
theorem snapshotIndices_lt (p : PrecrashRing) (rounds want : Nat) :
    ∀ i ∈ Ring.readIndices precrashRingBytes rounds p.start want, i < precrashRingBytes :=
  Ring.readIndices_lt (Nat.mod_lt _ precrashRingBytes_pos)

/-- A step of `log_capture_init` is sound exactly if the snapshot is right. -/
theorem stepSound_init_iff : StepSound s (.init bytes o) ↔
    (s.Takes o → s.log.precrash.content = s.appended.drop (s.appended.length - precrashRingBytes))
    := by
  -- A boot that takes a snapshot takes it of what the ring holds.
  have hafter : s.Takes o → (s.logCaptureInit bytes o).sSnapshot = some s.log.precrash.content := by
    intro htakes
    rw [Capturing.logCaptureInit, if_pos htakes.1]
    exact if_pos htakes
  constructor
  · intro h htakes
    have hsnap := h.snapshot bytes o rfl htakes
    rw [hafter htakes] at hsnap
    exact Option.some.inj hsnap
  · intro h
    -- The indices of the copy are below the size of the snapshot in any case.
    refine ⟨fun i hi => ?_, fun bytes' o' heq htakes => ?_⟩
    · rw [Capturing.indices] at hi
      split_ifs at hi
      · exact snapshotIndices_lt _ _ _ i hi
      · cases hi
    · obtain ⟨rfl, rfl⟩ := CaptureAct.init.inj heq
      rw [hafter htakes, h htakes]

/-- The text of a panic is sound exactly if there is none, or the head is an index. -/
theorem stepSound_panic_iff {text : List UInt8}
    (hcap : s.log.precrash.ring.cap = precrashRingBytes) : StepSound s (.panic text) ↔
      (text ≠ [] → s.log.precrash.ring.head < precrashRingBytes) :=
  ⟨fun hs => (appendIndices_iff hcap).mp hs.indices,
    fun hs => ⟨(appendIndices_iff hcap).mpr hs, nofun⟩⟩

/-- Once the ring has been reset nothing is asked. -/
theorem established_of_reset (hpower : s.powerOn = none) : Established s a := by
  intro m hm
  rw [hpower] at hm
  cases hm

/-- The text of a panic is sound exactly if the condition is met. -/
theorem established_panic_iff (h : Tracked s) {text : List UInt8} :
    Established s (.panic text) ↔ StepSound s (.panic text) := by
  rw [stepSound_panic_iff h.cap]
  cases hpower : s.powerOn with
  | none => exact iff_of_true (established_of_reset hpower) fun _ => (h.reset hpower).head_lt
  | some m =>
    have hestablished : Established s (.panic text) ↔
        (text ≠ [] → m.head.toNat < precrashRingBytes) := by
      rw [Established, hpower]
      exact ⟨fun hm => hm m rfl, fun hm m' hm' => Option.some.inj hm' ▸ hm⟩
    rw [hestablished]
    refine imp_congr_right fun _ => ?_
    by_cases hfirst : s.appended = []
    · rw [h.untouched m hpower hfirst]
      exact Iff.rfl
    · have hhead := (h.panicked m hpower hfirst).1
      exact iff_of_true hhead (h.found m hpower hhead).head_lt

/-- A snapshot of untouched memory is never right: whatever is counted there was not appended. -/
theorem not_snapshot_untouched (h : Tracked s) (hpower : s.powerOn = some m)
    (hfirst : s.appended = []) : ¬ m.ring.Valid ↔ (s.log.precrash.Valid →
      s.log.precrash.content = s.appended.drop (s.appended.length - precrashRingBytes)) := by
  rw [h.untouched m hpower hfirst, hfirst]
  refine forall_congr' fun hvalid => iff_of_false id fun hcontent => ?_
  have hlen := length_content (p := m.ring) m.cap_ring
  rw [hcontent, List.drop_nil, List.length_nil] at hlen
  exact absurd hvalid.2.1 (by omega)

/-- A snapshot after the text of a panic is right if the ring was found empty, or invalid, or has
    been filled. -/
theorem snapshot_iff (h : Tracked s) (hpower : s.powerOn = some m) (hlater : s.appended ≠ []) :
    (m.count.toNat = 0 ∨ precrashRingBytes < m.count.toNat ∨
        precrashRingBytes ≤ s.appended.length) ↔
      (s.log.precrash.Valid →
        s.log.precrash.content = s.appended.drop (s.appended.length - precrashRingBytes)) := by
  obtain ⟨hhead, hmagic⟩ := h.panicked m hpower hlater
  have hbehind := h.found m hpower hhead
  have hpos := List.length_pos_iff.mpr hlater
  by_cases hc : m.count.toNat ≤ precrashRingBytes
  · obtain ⟨-, -, -, hcount⟩ := hbehind.inRange hc
    have hvalid : s.log.precrash.Valid := by
      have := precrashRingBytes_pos
      exact ⟨hmagic, by omega, by omega, hbehind.head_lt⟩
    rw [forall_prop_of_true hvalid, hbehind.content_eq_iff hc]
    exact ⟨fun hcase => by omega, fun hcase => by omega⟩
  · have hcount := hbehind.beyond (by omega)
    exact iff_of_true (.inr (.inl (by omega))) fun hvalid => absurd hvalid.2.2.1 (by omega)

/-- `log_capture_init` is sound exactly if the condition is met. It is the step that takes the
    snapshot, and clears the ring. -/
theorem established_init_iff (h : Tracked s) :
    Established s (.init bytes o) ↔ StepSound s (.init bytes o) := by
  rw [stepSound_init_iff]
  cases hpower : s.powerOn with
  -- After a mere reset the ring is known to hold the last bytes.
  | none =>
    refine iff_of_true (established_of_reset hpower) fun _ => ?_
    exact ((h.reset hpower).content_eq_iff (Nat.zero_le _)).mpr (.inl rfl)
  | some m =>
    -- After a power-on it holds what the memory happened to be, and what was appended since.
    have hestablished : Established s (.init bytes o) ↔
        (s.Starts o → o.snapshotAllocated = true →
          if s.appended = [] then ¬ m.ring.Valid
          else m.count.toNat = 0 ∨ precrashRingBytes < m.count.toNat ∨
            precrashRingBytes ≤ s.appended.length) := by
      rw [Established, hpower]
      exact ⟨fun hm => hm m rfl, fun hm m' hm' => Option.some.inj hm' ▸ hm⟩
    rw [hestablished, Capturing.Takes, and_comm (a := s.log.precrash.Valid), and_imp, and_imp]
    refine imp_congr_right fun _ => imp_congr_right fun _ => ?_
    -- With nothing appended, only a memory that looks valid deceives.
    by_cases hfirst : s.appended = []
    · rw [if_pos hfirst]
      exact not_snapshot_untouched h hpower hfirst
    · rw [if_neg hfirst]
      exact snapshot_iff h hpower hfirst

/-- **One step** is sound exactly if the condition is met. -/
theorem stepSound_iff (h : Tracked s) : Established s a ↔ StepSound s a := by
  cases a with
  | powerOn m => exact ⟨fun _ => ⟨nofun, nofun⟩, fun _ _ _ => trivial⟩
  | reset => exact ⟨fun _ => ⟨nofun, nofun⟩, fun _ _ _ => trivial⟩
  | line src =>
    refine ⟨fun _ => ⟨fun i hi => ?_, nofun⟩, fun _ _ _ => trivial⟩
    rw [Capturing.indices] at hi
    split_ifs at hi with hinstalled
    · -- the hook is there only when the ring has been reset
      have hbehind := h.reset (h.installed hinstalled)
      exact (appendIndices_iff h.cap).mpr (fun _ => hbehind.head_lt) i hi
    · cases hi
  | panic text => exact established_panic_iff h
  | init bytes o => exact established_init_iff h

/-- A log line. -/
theorem Tracked.line (h : Tracked s) (hinstalled : s.Installed) (src : List UInt8) :
    Tracked { s with log := bufferAppend s.log src, appended := s.appended ++ src } := by
  have hpower := h.installed hinstalled
  have hring : (bufferAppend s.log src).precrash.ring =
      s.log.precrash.ring.pushAll (kept s.log.precrash.ring.cap src) := by
    unfold bufferAppend
    split_ifs with hempty
    · rw [List.length_eq_zero_iff.mp hempty, kept, List.drop_nil]
      rfl
    · rfl
  have hbehind := (h.reset hpower).append src
  rw [← hring] at hbehind
  have hnone : ∀ {P : RtcMemory → Prop}, ∀ m ∈ s.powerOn, P m := fun m hm => by
    rw [hpower] at hm
    cases hm
  exact ⟨hbehind.cap, fun _ => hpower, fun _ => hbehind, hnone, hnone, hnone⟩

/-- The text of a panic. -/
theorem Tracked.panic (h : Tracked s) {text : List UInt8} (hest : Established s (.panic text)) :
    Tracked { s with
      log := { s.log with precrash := logCaptureAppendPanic s.log.precrash text }
      appended := s.appended ++ text } := by
  -- An empty text is not written.
  by_cases hempty : text = []
  · subst hempty
    rw [List.append_nil]
    exact ⟨h.cap, h.installed, h.reset, h.untouched, h.found, h.panicked⟩
  -- The text's last bytes are pushed, and the memory is marked as valid.
  · have hafter : logCaptureAppendPanic s.log.precrash text =
        ⟨precrashMagic, s.log.precrash.ring.pushAll (kept s.log.precrash.ring.cap text)⟩ :=
      if_neg fun hlen => hempty (List.length_eq_zero_iff.mp hlen)
    rw [hafter]
    refine ⟨?_, h.installed, fun hpower => (h.reset hpower).append text, ?_, ?_, ?_⟩
    · rw [← h.cap]
      exact Ring.cap_pushAll _
    · intro m _ happended
      exact absurd (List.append_eq_nil_iff.mp happended).2 hempty
    · intro m hm hhead
      exact (h.found m hm hhead).append text
    · intro m hm _
      exact ⟨hest m hm hempty, rfl⟩

/-- `log_capture_init`. -/
theorem Tracked.init (h : Tracked s) (bytes : Nat) (o : InitOutcome) :
    Tracked (s.logCaptureInit bytes o) := by
  rw [Capturing.logCaptureInit]
  by_cases hstarts : s.Starts o
  · rw [if_pos hstarts]
    exact ⟨h.cap, fun _ => rfl, fun _ => behind_clear h.cap, nofun, nofun, nofun⟩
  · rw [if_neg hstarts]
    exact h

/-- **What the ring holds is known** after each step that meets the condition. A power-on starts the
    account anew. -/
theorem Tracked.step (h : Tracked s) (hest : Established s a) (hstep : s.step a = some t) :
    Tracked t := by
  -- A reset clears what is in RAM, but for the ring that survives it.
  cases a with
  | powerOn m =>
    obtain rfl := Option.some.inj hstep
    exact tracked_booted m
  | reset =>
    obtain rfl := Option.some.inj hstep
    have hlive := not_installed_of_unallocated (s := { s with
      log := { s.log with live := .unallocated }, sSnapshot := none }) rfl
    exact ⟨h.cap, fun hinst => absurd hinst hlive, h.reset, h.untouched, h.found, h.panicked⟩
  | init bytes o =>
    obtain rfl := Option.some.inj hstep
    exact h.init bytes o
  | line src =>
    -- A line comes only while the capture is installed.
    rw [Capturing.step] at hstep
    split_ifs at hstep with hinstalled
    obtain rfl := Option.some.inj hstep
    exact h.line hinstalled src
  | panic text =>
    obtain rfl := Option.some.inj hstep
    exact h.panic hest

/-- **The ring is sound** along a run, from anything that power-on leaves, exactly if the condition
    is met along it. -/
theorem precrash_sound_iff (m : RtcMemory) (as : List CaptureAct) :
    capturing.Meets Established (.booted m) as ↔ capturing.Meets StepSound (.booted m) as :=
  Machine.meets_iff_of_invariant (I := Tracked) (fun _ _ _ hest hstep h => h.step hest hstep)
    (fun _ _ h => stepSound_iff h) (tracked_booted m)

/-- Power comes back with 5000 where the head is, and the first thing is a panic. -/
theorem panic_before_init_out_of_bounds :
    ¬ ∀ (m : RtcMemory) (as : List CaptureAct), capturing.Meets StepSound (.booted m) as := by
  intro h
  let m : RtcMemory := ⟨0, 5000, 0, List.replicate precrashRingBytes 0, List.length_replicate⟩
  have hsound := (h m [.panic [0x41]]).1
  have hindex := (stepSound_panic_iff (tracked_booted m).cap).mp hsound (List.cons_ne_nil _ _)
  exact absurd hindex (by decide)

end SubnetRouter.Log
