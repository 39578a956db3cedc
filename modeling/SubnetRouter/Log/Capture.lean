import SubnetRouter.Lib.Ring

namespace SubnetRouter.Log

open Lib

/-!
# The log buffer (`main/log_capture.c`)

Each line goes to a ring in RAM, which the log page polls, and to a smaller one in memory that
survives a crash.  A 64-bit counter of all bytes ever appended to the first ring gives each of
them an absolute place; clearing the ring does not reset it.

* `bufferAppend`, `logCaptureClear`, `logCaptureReadSince` — the code.
* `Captured` — the live ring holds the newest bytes of the append stream, and the counter is its
  length.
* `logCaptureReadSince_eq` — what a read since a place returns.
-/

/-! ### The code -/

/-- `s_buf`, `s_head`, `s_count` and `s_seq`; without slots before the buffer is allocated. -/
structure LiveRing where
  ring : Lib.Ring UInt8
  sSeq : Nat

/-- `precrash_ring_t`. -/
structure PrecrashRing where
  magic : UInt32
  ring : Lib.Ring UInt8

/-- The statics of `log_capture.c` that logging writes. -/
structure LogCapture where
  live : LiveRing
  precrash : PrecrashRing

/-- What an append of `src` keeps: the last bytes that fit. -/
def kept (cap : Nat) (src : List UInt8) : List UInt8 := src.drop (src.length - cap)

/-- The first half of `buffer_append`. The sequence number counts the bytes that have gone into the
    ring, and not those that were cut off. -/
def LiveRing.append (s : LiveRing) (src : List UInt8) : LiveRing :=
  if 0 < s.ring.cap then
    let src1 := kept s.ring.cap src
    { ring := s.ring.pushAll src1, sSeq := s.sSeq + src1.length }
  else s

/-- The second half; `PRECRASH_RING_BYTES` is the number of its slots. -/
def PrecrashRing.append (s : PrecrashRing) (src : List UInt8) : PrecrashRing :=
  { s with ring := s.ring.pushAll (kept s.ring.cap src) }

/-- `buffer_append`. -/
def bufferAppend (s : LogCapture) (src : List UInt8) : LogCapture :=
  if src.length = 0 then s else ⟨s.live.append src, s.precrash.append src⟩

/-- `log_capture_clear`; the counter is not reset. -/
def logCaptureClear (s : LogCapture) : LogCapture :=
  if s.live.ring.cap = 0 then s else { s with live := { s.live with ring := s.live.ring.clear } }

/-- `log_capture_size`. -/
def logCaptureSize (s : LogCapture) : Nat := s.live.ring.count

/-- `log_capture_capacity`. -/
def logCaptureCapacity (s : LogCapture) : Nat := s.live.ring.cap

/-- `log_capture_read_since`: the bytes, and what is stored in `*new_seq`. The number is the newest
    one also where a small buffer has left bytes out. -/
def logCaptureReadSince (s : LogCapture) (sinceSeq outSize : Nat) : List UInt8 × Option Nat :=
  let r := s.live.ring
  if outSize = 0 then ([], none)
  else if r.cap = 0 then ([], some 0)
  else
    let cap := outSize - 1
    let curSeq := s.live.sSeq
    let oldestSeq := if r.count < curSeq then curSeq - r.count else 0
    if curSeq ≤ sinceSeq then ([], some curSeq)
    else
      let startSeq := if sinceSeq < oldestSeq then oldestSeq else sinceSeq
      let want := curSeq - startSeq
      -- a buffer that is too small gets the newest bytes
      let want := if cap < want then cap else want
      (Ring.copyOut r.slots want (Ring.back r.cap r.head want) want, some curSeq)

/-! ### The append stream -/

variable {s : LogCapture} {stream : List UInt8}

/-- The bytes that the live ring ever took, in order: the ring holds the newest of them, and the
    counter is their number. -/
structure Captured (s : LogCapture) (stream : List UInt8) : Prop where
  holds : s.live.ring.Holds stream
  seq : s.live.sSeq = stream.length
  unallocated : s.live.ring.cap = 0 → stream = []

theorem cap_bufferAppend (s : LogCapture) (src : List UInt8) :
    (bufferAppend s src).live.ring.cap = s.live.ring.cap := by
  unfold bufferAppend LiveRing.append
  split
  · rfl
  · show (if 0 < s.live.ring.cap then _ else s.live).ring.cap = _
    split
    · exact Ring.cap_pushAll _
    · rfl

/-- An append adds what it keeps to the stream. A text that is longer than the ring is cut in
    front. -/
theorem Captured.bufferAppend (h : Captured s stream) (src : List UInt8) :
    Captured (bufferAppend s src) (stream ++ kept s.live.ring.cap src) := by
  by_cases hempty : src.length = 0
  · obtain rfl : src = [] := List.length_eq_zero_iff.mp hempty
    rw [kept, List.drop_nil, List.append_nil]
    exact h
  by_cases hcap : 0 < s.live.ring.cap
  · have hlive : (Log.bufferAppend s src).live =
        ⟨s.live.ring.pushAll (kept s.live.ring.cap src),
          s.live.sSeq + (kept s.live.ring.cap src).length⟩ := by
      rw [Log.bufferAppend, if_neg hempty, LiveRing.append, if_pos hcap]
    constructor
    · rw [hlive]
      exact h.holds.pushAll hcap _
    · rw [hlive, List.length_append, ← h.seq]
    · intro hzero
      rw [cap_bufferAppend] at hzero
      omega
  · -- no buffer: nothing is kept, and the ring stays as it is
    have hkept : kept s.live.ring.cap src = [] := by
      rw [kept, show s.live.ring.cap = 0 by omega, Nat.sub_zero, List.drop_length]
    have hlive : (Log.bufferAppend s src).live = s.live := by
      rw [Log.bufferAppend, if_neg hempty, LiveRing.append, if_neg hcap]
    rw [hkept, List.append_nil]
    exact ⟨hlive ▸ h.holds, by rw [hlive, h.seq], fun hzero => h.unallocated (hlive ▸ hzero)⟩

/-- Clearing leaves the stream. -/
theorem Captured.clear (h : Captured s stream) : Captured (logCaptureClear s) stream := by
  unfold logCaptureClear
  split
  · exact h
  · exact ⟨h.holds.clear, h.seq, h.unallocated⟩

/-- The place of the oldest byte that is still there. -/
def oldestPreserved (s : LogCapture) : Nat := s.live.sSeq - s.live.ring.count

/-- **A read returns the stream from its start on**: from the place it asks for, the oldest byte
    that is still there, or as much as the buffer of the caller takes, whatever comes last. -/
theorem logCaptureReadSince_eq (h : Captured s stream) (since : Nat) {outSize : Nat}
    (hout : outSize ≠ 0) :
    logCaptureReadSince s since outSize =
      (stream.drop (max since (max (oldestPreserved s) (stream.length - (outSize - 1)))),
        some stream.length) := by
  have hseq := h.seq
  have hcount := h.holds.count_le_length
  unfold logCaptureReadSince oldestPreserved
  rw [if_neg hout]
  by_cases hcap : s.live.ring.cap = 0
  · rw [if_pos hcap, h.unallocated hcap, List.drop_nil]
    rfl
  simp only [if_neg hcap, hseq]
  by_cases hnew : stream.length ≤ since
  · rw [if_pos hnew, List.drop_of_length_le (by omega)]
  rw [if_neg hnew]
  congr 1
  -- the wanted bytes are in the ring, so the loop reads the end of the stream
  have holdest : (if s.live.ring.count < stream.length then stream.length - s.live.ring.count
      else 0) = stream.length - s.live.ring.count := by
    split <;> omega
  rw [holdest]
  have hstart : (if since < stream.length - s.live.ring.count then
      stream.length - s.live.ring.count else since) =
        max since (stream.length - s.live.ring.count) := by
    split <;> omega
  rw [hstart]
  have hwant : (if outSize - 1 < stream.length - max since (stream.length - s.live.ring.count) then
      outSize - 1 else stream.length - max since (stream.length - s.live.ring.count)) =
        stream.length - max since (max (stream.length - s.live.ring.count)
          (stream.length - (outSize - 1))) := by
    split <;> omega
  rw [hwant, h.holds.copyOut (by omega)]
  congr 1
  omega

end SubnetRouter.Log
