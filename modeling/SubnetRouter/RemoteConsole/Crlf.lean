import SubnetRouter.Lib.OutBuffer

namespace SubnetRouter.RemoteConsole

open Lib

/-!
# Line ends for the client (`components/remote_console/remote_console.c`, `send_to_client_crlf`)

The output of a command goes to the client through a buffer of 512 bytes, with a CR before each LF
that does not have one.

* `sendToClientCrlf` — the code.
* `withCrlf` — the text that the client is to get.
* `carries_crlfByte` — what one round of the loop adds.
* `sendToClientCrlf_lossless` — the chunks make up that text, and no store misses the buffer.
-/

/-! ### The code -/

/-- The size of `net_buf`. -/
def netBufLen : Nat := 512

/-- A round of the loop of `send_to_client_crlf`. The bounds are tested before each store; that no
    byte is lost to them is what the two spare places are for. -/
def crlfByte (data : Memory) (o : OutBuffer) (i : Nat) : OutBuffer :=
  let o :=
    if data i = 0x0A ∧ (i = 0 ∨ data (i - 1) ≠ 0x0D) then
      if o.pos < netBufLen - 1 then o.put [0x0D] else o
    else o
  let o := if o.pos < netBufLen then o.put [data i] else o
  if netBufLen - 2 ≤ o.pos then o.send else o

/-- `send_to_client_crlf`: the buffer at the end, with the chunks that were handed to `send`;
    `junk` is what is on the stack. -/
def sendToClientCrlf (fd : Int) (data : Memory) (len : Nat) (junk : Memory) : OutBuffer :=
  let o := OutBuffer.start netBufLen junk
  if fd < 0 ∨ len = 0 then o
  else ((List.range len).foldl (crlfByte data) o).flush

/-! ### The text -/

/-- A byte behind another one, or the first byte. -/
def crlfPiece (prev : Option UInt8) (c : UInt8) : List UInt8 :=
  if c = 0x0A ∧ prev ≠ some 0x0D then [0x0D, 0x0A] else [c]

/-- A text behind a byte, with a CR before each LF that is not behind a CR. -/
def crlfAfter : Option UInt8 → List UInt8 → List UInt8
  | _, [] => []
  | prev, c :: cs => crlfPiece prev c ++ crlfAfter (some c) cs

/-- A text with a CR before each LF that is not behind a CR. -/
def withCrlf (text : List UInt8) : List UInt8 := crlfAfter none text

example : withCrlf [65, 10, 66, 13, 10, 10] = [65, 13, 10, 66, 13, 10, 13, 10] := by decide

/-- The byte before a place. -/
def byteBefore (data : Memory) (i : Nat) : Option UInt8 :=
  if i = 0 then none else some (data (i - 1))

variable {data junk : Memory} {o : OutBuffer} {text : List UInt8}

/-- Text from a place on is text behind the byte before it. -/
theorem crlfAfter_load (data : Memory) (n i : Nat) :
    crlfAfter (byteBefore data i) (data.load i n) =
      (List.range' i n).flatMap fun k => crlfPiece (byteBefore data k) (data k) := by
  induction n generalizing i with
  | zero => rfl
  | succ n ih =>
    have hbefore : byteBefore data (i + 1) = some (data i) := by simp [byteBefore]
    rw [Memory.load_succ, crlfAfter, List.range'_succ, List.flatMap_cons, ← hbefore, ih]

theorem withCrlf_load (data : Memory) (len : Nat) :
    withCrlf (data.load 0 len) =
      (List.range len).flatMap fun k => crlfPiece (byteBefore data k) (data k) := by
  rw [List.range_eq_range']
  exact crlfAfter_load data len 0

/-! ### The loop -/

/-- The flush at the end of a round leaves room for two bytes. -/
theorem carries_sendFull (h : o.Carries netBufLen text) :
    OutBuffer.Carries netBufLen (if netBufLen - 2 ≤ o.pos then o.send else o) text ∧
      (if netBufLen - 2 ≤ o.pos then o.send else o).pos ≤ netBufLen - 3 := by
  have hsize : netBufLen = 512 := rfl
  split
  · rename_i hfull
    exact ⟨h.send (by omega), Nat.zero_le _⟩
  · exact ⟨h, by omega⟩

/-- **A round adds its byte, with a CR where it is due**: neither guard ever drops one. With three
    places left there is room for both. -/
theorem carries_crlfByte {i : Nat} (h : o.Carries netBufLen text) (hpos : o.pos ≤ netBufLen - 3) :
    (crlfByte data o i).Carries netBufLen (text ++ crlfPiece (byteBefore data i) (data i)) ∧
      (crlfByte data o i).pos ≤ netBufLen - 3 := by
  have hsize : netBufLen = 512 := rfl
  -- The test of the source looks one byte back, but for the first.
  have hdue : (i = 0 ∨ data (i - 1) ≠ 0x0D) ↔ byteBefore data i ≠ some 0x0D := by
    unfold byteBefore
    by_cases hi : i = 0 <;> simp [hi]
  unfold crlfByte crlfPiece
  simp only [hdue]
  -- With a CR: two bytes, for which the three bytes kept free are enough.
  by_cases hlf : data i = 0x0A ∧ byteBefore data i ≠ some 0x0D
  · have hcr : (o.put [0x0D]).Carries netBufLen (text ++ [0x0D]) :=
      h.put (by rw [List.length_singleton]; omega)
    have hroom : (o.put [0x0D]).pos < netBufLen := by
      show o.pos + 1 < netBufLen
      omega
    have hboth : ((o.put [0x0D]).put [data i]).Carries netBufLen (text ++ [0x0D, 0x0A]) := by
      have htext : text ++ [0x0D, 0x0A] = text ++ [0x0D] ++ [data i] := by
        rw [hlf.1, List.append_assoc]
        rfl
      rw [htext]
      exact hcr.put (by rw [List.length_singleton]; omega)
    simp only [if_pos hlf, if_pos (show o.pos < netBufLen - 1 by omega), if_pos hroom]
    exact carries_sendFull hboth
  -- Without one: a single byte.
  · have hbyte : (o.put [data i]).Carries netBufLen (text ++ [data i]) :=
      h.put (by rw [List.length_singleton]; omega)
    simp only [if_neg hlf, if_pos (show o.pos < netBufLen by omega)]
    exact carries_sendFull hbyte

/-- The loop, up to any byte. -/
theorem carries_crlfBytes (data junk : Memory) (n : Nat) :
    let o := (List.range n).foldl (crlfByte data) (.start netBufLen junk)
    o.Carries netBufLen (withCrlf (data.load 0 n)) ∧ o.pos ≤ netBufLen - 3 := by
  have hloop := OutBuffer.Carries.foldl (f := crlfByte data)
    (fun _ _ _ h hpos => carries_crlfByte h hpos) (OutBuffer.carries_start netBufLen junk)
    (Nat.zero_le _) (List.range n)
  rwa [List.nil_append, ← withCrlf_load] at hloop

/-- **The conversion is lossless.** For all data: the chunks that are sent make up the text with a
    CR before each LF that does not have one (nothing goes to a socket that is not there); no chunk
    is empty or longer than the buffer; every store is in the buffer, and after each byte there is
    room for two more. -/
theorem sendToClientCrlf_lossless (fd : Int) (data : Memory) (len : Nat) (junk : Memory) :
    let o := sendToClientCrlf fd data len junk
    o.sent.flatten = (if fd < 0 then [] else withCrlf (data.load 0 len)) ∧
      o.buf.cap = 512 ∧ o.buf.InBounds ∧
      (∀ chunk ∈ o.sent, chunk ≠ [] ∧ chunk.length ≤ 512) ∧
      ∀ n, ((List.range n).foldl (crlfByte data) (.start netBufLen junk)).pos + 2 ≤ 512 := by
  have hrounds : ∀ n,
      ((List.range n).foldl (crlfByte data) (.start netBufLen junk)).pos + 2 ≤ 512 := by
    intro n
    have hpos := (carries_crlfBytes data junk n).2
    rw [show netBufLen - 3 = 509 from rfl] at hpos
    omega
  unfold sendToClientCrlf
  by_cases hnothing : fd < 0 ∨ len = 0
  · -- the early return
    have hstart := OutBuffer.carries_start netBufLen junk
    simp only [if_pos hnothing]
    refine ⟨?_, hstart.cap_eq, hstart.inBounds, hstart.chunks, hrounds⟩
    rcases hnothing with hfd | rfl
    · rw [if_pos hfd]
      rfl
    · exact (ite_self _).symm
  · rw [not_or] at hnothing
    obtain ⟨hcarries, -⟩ := carries_crlfBytes data junk len
    simp only [hnothing.1, hnothing.2, or_self, if_false]
    exact ⟨hcarries.flatten_flush, hcarries.flush.cap_eq, hcarries.flush.inBounds,
      hcarries.flush.chunks, hrounds⟩

end SubnetRouter.RemoteConsole
