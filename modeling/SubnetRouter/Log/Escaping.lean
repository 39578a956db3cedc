import SubnetRouter.Lib.JsonString
import SubnetRouter.Lib.OutBuffer
import SubnetRouter.Log.Polling

namespace SubnetRouter.Log

open Lib

/-!
# The log as a JSON string (`main/web_ui.c`, `log_raw_handler`)

The bytes that a poll has read go out as the text of a JSON string, through a buffer of 1024 bytes
that is sent when the next escape does not fit.

* `escapeByte`, `lrhEmit`, `sendData` — the code.
* `stands_escapeByte` — each escape stands for its byte.
* `carries_lrhByte` — what one round of the loop adds.
* `log_data_escaped` — the chunks make up the escaped text, it reads back, and no store misses the
  buffer.
-/

/-! ### The code -/

/-- The characters of an ASCII text. -/
def asciiBytes (text : List Char) : List UInt8 := text.map fun c => UInt8.ofNat c.toNat

/-- What `log_raw_handler` writes for a byte; two bytes as `%02x` are one as `%04x`. Bytes from 0x80
    on go out as they are. -/
def escapeByte (c : UInt8) : List UInt8 :=
  if c = 0x22 then [0x5C, 0x22]
  else if c = 0x5C then [0x5C, 0x5C]
  else if c = 0x0A then [0x5C, 0x6E]
  else if c = 0x0D then [0x5C, 0x72]
  else if c = 0x09 then [0x5C, 0x74]
  else if c < 0x20 then 0x5C :: 0x75 :: asciiBytes (hexEncode [0, c])
  else [c]

/-- The size of `obuf`. -/
def obufLen : Nat := 1024

/-- `LRH_EMIT`. -/
def lrhEmit (o : OutBuffer) (s : List UInt8) : OutBuffer :=
  (if obufLen < o.pos + s.length then o.flush else o).put s

/-- A round of the loop. -/
def lrhByte (o : OutBuffer) (c : UInt8) : OutBuffer := lrhEmit o (escapeByte c)

/-- The data field of a response: the buffer at the end, with the chunks that were sent; `junk` is
    what is on the stack. -/
def sendData (r : LogResponse) (junk : Memory) : OutBuffer :=
  (r.data.foldl lrhByte (.start obufLen junk)).flush

/-! ### The escapes -/

variable {c : UInt8} {o : OutBuffer} {text : List UInt8}

/-- A control character without a letter. -/
theorem stands_control (h : c < 0x20) :
    Stands (0x5C :: 0x75 :: asciiBytes (hexEncode [0, c])) c.toNat := by
  apply stands_hex
  have hall : ∀ k : Fin 32, hexUnit (asciiBytes (hexEncode [0, UInt8.ofNat k])) = some k.val := by
    decide
  have hvalue := hall ⟨c.toNat, h⟩
  rwa [UInt8.ofNat_toNat] at hvalue

/-- **Each escape stands for its byte**, in ASCII. The cases are those of the handler. -/
theorem stands_escapeByte (h : c < 0x80) : Stands (escapeByte c) c.toNat := by
  unfold escapeByte
  split
  -- The five short escapes, then the control characters, then what is printed as it is.
  · next hc =>
    rw [hc]
    exact stands_short rfl
  split
  · next hc =>
    rw [hc]
    exact stands_short rfl
  split
  · next hc =>
    rw [hc]
    exact stands_short rfl
  split
  · next hc =>
    rw [hc]
    exact stands_short rfl
  split
  · next hc =>
    rw [hc]
    exact stands_short rfl
  split
  · next hc => exact stands_control hc
  · next hquote hbackslash _ _ _ hprintable =>
    exact stands_plain ⟨UInt8.not_lt.mp hprintable, h, hquote⟩ hbackslash

theorem length_escapeByte_le (c : UInt8) : (escapeByte c).length ≤ 6 := by
  unfold escapeByte
  repeat' split
  all_goals simp [asciiBytes]

/-! ### The loop -/

/-- **A round adds its escape**, on whichever side of the flush. -/
theorem carries_lrhByte (h : o.Carries obufLen text) (c : UInt8) :
    (lrhByte o c).Carries obufLen (text ++ escapeByte c) := by
  have hsize : obufLen = 1024 := rfl
  have hlength := length_escapeByte_le c
  unfold lrhByte lrhEmit
  split
  · have hpos : o.flush.pos = 0 := OutBuffer.pos_flush
    exact h.flush.put (by omega)
  · exact h.put (by omega)

/-- The loop, up to any byte. -/
theorem carries_lrhBytes (data : List UInt8) (junk : Memory) :
    (data.foldl lrhByte (.start obufLen junk)).Carries obufLen (data.flatMap escapeByte) := by
  have hstart := OutBuffer.carries_start obufLen junk
  refine (hstart.foldl ?_ (Nat.zero_le obufLen) data).1
  intro o text c h _
  have hround := carries_lrhByte h c
  exact ⟨hround, hround.pos_le⟩

/-- **The log as a JSON string.** For every response of a poll: the chunks of its data field make up
    the escape of its data, which reads back as these bytes if they are ASCII; no chunk is empty or
    longer than the buffer; every store is in the buffer, and the index stays within it. -/
theorem log_data_escaped (r : LogResponse) (junk : Memory) :
    let o := sendData r junk
    o.sent.flatten = r.data.flatMap escapeByte ∧
      ((∀ c ∈ r.data, c ≤ 0x7F) →
        unescape o.sent.flatten = some (r.data.map UInt8.toNat)) ∧
      o.buf.cap = 1024 ∧ o.buf.InBounds ∧
      (∀ chunk ∈ o.sent, chunk ≠ [] ∧ chunk.length ≤ 1024) ∧
      ∀ n, ((r.data.take n).foldl lrhByte (.start obufLen junk)).pos ≤ 1024 := by
  have hcarries := carries_lrhBytes r.data junk
  have hsent : (sendData r junk).sent.flatten = r.data.flatMap escapeByte :=
    hcarries.flatten_flush
  refine ⟨hsent, fun hascii => ?_, hcarries.flush.cap_eq, hcarries.flush.inBounds,
    hcarries.flush.chunks, fun n => (carries_lrhBytes (r.data.take n) junk).pos_le⟩
  rw [hsent]
  apply unescape_flatMap
  intro c hc
  exact stands_escapeByte (UInt8.lt_of_le_of_lt (hascii c hc) (by decide))

end SubnetRouter.Log
