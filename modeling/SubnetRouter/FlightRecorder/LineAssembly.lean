import SubnetRouter.FlightRecorder.Tail
import SubnetRouter.Lib.Memory

namespace SubnetRouter.FlightRecorder

open Lib

/-!
# Putting log lines together (`sdlog_vprintf`)

The hook gets a log line in fragments, which it formats one behind the other into `s_rawbuf`.
With a newline, or when the buffer is full, what is there is stripped of its escape sequences into
`s_pktbuf`, and goes to the queue with a newline behind it if its level passes.

* `stripAnsi`, `extractLevel`, `levelPasses` — the functions of the source.
* `Assembler.sdlogVprintf` — the part of the hook under `s_fmt_mutex`.
* `Assembler.Assembling` — the invariant: where the position is, that the unfinished line has no
  newline, that every store has been in bounds, and what the queued records are.
* `assembly_sound` — every run.
-/

/-! ### The code -/

/-- `SDLOG_LINE_MAX`. -/
def sdlogLineMax : Nat := 256

/-- `SDLOG_LVL_OFF`. -/
def sdlogLvlOff : Nat := 0

/-- `SDLOG_LVL_ERROR`. -/
def sdlogLvlError : Nat := 1

/-- `SDLOG_LVL_WARN`. -/
def sdlogLvlWarn : Nat := 2

/-- `SDLOG_LVL_INFO`. -/
def sdlogLvlInfo : Nat := 3

/-- A character of the source. -/
def ascii (c : Char) : UInt8 := c.toNat.toUInt8

/-- `'\033'`. -/
def escape : UInt8 := 27

/-- The string in a buffer. -/
def cString (b : Buffer) : List UInt8 := (b.mem.load 0 b.cap).takeWhile (· ≠ 0)

/-- Behind the next `m`. -/
def afterM (p : List UInt8) : List UInt8 := (p.dropWhile (· ≠ ascii 'm')).drop 1

/-- Behind `[` and the next `m`. -/
def afterEscape (p : List UInt8) : List UInt8 :=
  if p.head? = some (ascii '[') then afterM p.tail else p

/-- `extract_level`: the letter, and where the text behind a colour begins. There is no level where
    the letter is not followed by a blank or a parenthesis. -/
def extractLevel (msg : List UInt8) : UInt8 × List UInt8 :=
  let p := match msg with
    | c :: rest => if c = escape ∧ rest.head? = some (ascii '[') then afterEscape rest else msg
    | [] => []
  let level := match p with
    | c :: d :: _ => if d = ascii ' ' ∨ d = ascii '(' then c else 0
    | _ => 0
  (level, p)

/-- `level_passes`. A line without a level passes every threshold but the one that is off. -/
def levelPasses (lv : UInt8) (thr : Nat) : Bool :=
  if thr = sdlogLvlOff then false
  else if lv = ascii 'E' then sdlogLvlError ≤ thr
  else if lv = ascii 'W' then sdlogLvlWarn ≤ thr
  else if lv = ascii 'I' then sdlogLvlInfo ≤ thr
  else if lv = ascii 'D' ∨ lv = ascii 'V' then false
  else true

theorem length_afterM_le (p : List UInt8) : (afterM p).length ≤ p.length :=
  ((List.drop_sublist _ _).trans (List.dropWhile_sublist _)).length_le

theorem length_afterEscape_le (p : List UInt8) : (afterEscape p).length ≤ p.length := by
  unfold afterEscape
  split
  · exact (length_afterM_le p.tail).trans (by simp)
  · exact Nat.le_refl _

/-- The loop of `strip_ansi`, with `j` characters in `dst`. A sequence that is not closed takes the
    rest of the line with it. -/
def stripLoop (maxLen : Nat) (src : List UInt8) (dst : Buffer) (j : Nat) : Buffer × Nat :=
  match src with
  | [] => (dst, j)
  | c :: src =>
    if j < maxLen - 1 then
      if c = escape then stripLoop maxLen (afterEscape src) dst j
      else stripLoop maxLen src (dst.store j [c]) (j + 1)
    else (dst, j)
termination_by src.length
decreasing_by
  · exact Nat.lt_succ_of_le (length_afterEscape_le src)
  · exact Nat.lt_succ_self _

/-- The length without the line ends behind the text. -/
def trimmed (m : Memory) : Nat → Nat
  | 0 => 0
  | j + 1 => if m j = newline ∨ m j = ascii '\r' then trimmed m j else j + 1

/-- `strip_ansi`. -/
def stripAnsi (src : List UInt8) (dst : Buffer) (maxLen : Nat) : Buffer × Nat :=
  let (dst, j) := stripLoop maxLen src dst 0
  let j := trimmed dst.mem j
  (dst.store j [0], j)

/-- A message of the queue. -/
structure SdlogMsg where
  data : Buffer
  len : Nat

/-- The bytes that the message passes on. -/
def SdlogMsg.record (m : SdlogMsg) : List UInt8 := m.data.mem.load 0 m.len

/-- What `vsnprintf` makes of the arguments of a call: the text, or an error after a part of it.  A
    text that an `int` cannot count is an error too. -/
inductive Fragment where
  | formatted (text : List UInt8) (h : text.length < 2 ^ 31)
  | failed (part : List UInt8)

/-- `vsnprintf` to an offset of the buffer, with room for `space` characters and the null
    character. -/
def vsnprintf (b : Buffer) (off space : Nat) : Fragment → Buffer × Int
  | .formatted text _ => (b.store off (text.take space ++ [0]), text.length)
  | .failed part => (b.store off (part.take space ++ [0]), -1)

/-- A call of the hook: the fragment, the level it reads, what the memory of its message held, and
    whether the queue has room. -/
structure Call where
  fragment : Fragment
  sdLevel : Nat
  junk : Memory
  sent : Bool

/-- The statics of the hook, the messages that have been put into the queue, and those that
    `s_dropped` counts. -/
structure Assembler where
  sRawbuf : Option Buffer
  sPktbuf : Option Buffer
  sRawpos : Int
  queue : List SdlogMsg
  dropped : List SdlogMsg

/-- Format the fragment behind the others. What does not fit is cut, and the position then stands at
    the end of the room. -/
def accumulate (raw : Buffer) (pos : Int) (f : Fragment) : Buffer × Int :=
  let space : Int := sdlogLineMax - pos - 1
  if 0 < space then
    let (raw, n) := vsnprintf raw pos.toNat space.toNat f
    (raw, if 0 < n then pos + (if space < n then space else n) else pos)
  else (raw, pos)

/-- The buffer is full or has a newline. -/
def Completes (raw : Buffer) (pos : Int) : Prop :=
  0 < pos ∧ (sdlogLineMax - 1 ≤ pos ∨ newline ∈ raw.mem.load 0 pos.toNat)

instance (raw : Buffer) (pos : Int) : Decidable (Completes raw pos) := by
  unfold Completes
  infer_instance

/-- The message for the first characters of `s_pktbuf`. -/
def message (pkt : Buffer) (cleanLen : Nat) (junk : Memory) : SdlogMsg :=
  let dl := min cleanLen (sdlogLineMax - 1)
  { data := ((Buffer.alloc sdlogLineMax junk).store 0 (pkt.mem.load 0 dl)).store dl [newline]
    len := (dl + 1) % 2 ^ 16 }

namespace Assembler

/-- `xQueueSend`. -/
def send (s : Assembler) (m : SdlogMsg) (sent : Bool) : Assembler :=
  if sent then { s with queue := s.queue ++ [m] } else { s with dropped := s.dropped ++ [m] }

/-- The line in `s_rawbuf` is complete: it goes to the queue, and the next one begins. A line of
    escape sequences alone is empty and is not sent. -/
def complete (s : Assembler) (raw pkt : Buffer) (pos : Int) (c : Call) : Assembler :=
  let raw := raw.store pos.toNat [0]
  let (level, cleanStart) := extractLevel (cString raw)
  let (pkt, cleanLen) := stripAnsi cleanStart pkt sdlogLineMax
  let s := { s with sRawbuf := some raw, sPktbuf := some pkt, sRawpos := 0 }
  if 0 < cleanLen ∧ levelPasses level c.sdLevel = true then
    s.send (message pkt cleanLen c.junk) c.sent
  else s

/-- `sdlog_vprintf`, with `s_fmt_mutex` taken. A fragment without a newline only adds to the
    line. -/
def sdlogVprintf (s : Assembler) (c : Call) : Assembler :=
  match s.sRawbuf, s.sPktbuf with
  | some raw, some pkt =>
    let (raw, pos) := accumulate raw s.sRawpos c.fragment
    if Completes raw pos then s.complete raw pkt pos c
    else { s with sRawbuf := some raw, sRawpos := pos }
  | _, _ => s

/-- After `start_writer`, whose two allocations may have failed. -/
def started (raw pkt : Option Memory) : Assembler :=
  ⟨raw.map (Buffer.alloc sdlogLineMax), pkt.map (Buffer.alloc sdlogLineMax), 0, [], []⟩

end Assembler

/-- The hook. -/
def vprintfHook : Machine Assembler Call := ⟨fun s c => some (s.sdlogVprintf c)⟩

/-! ### What a run keeps -/

/-- A queued record: 2 to `SDLOG_LINE_MAX` bytes, the last one a newline. -/
structure SdlogMsg.IsLine (m : SdlogMsg) : Prop where
  two_le : 2 ≤ m.len
  len_le : m.len ≤ sdlogLineMax
  newline : m.record.getLast? = some newline

/-- A buffer of `SDLOG_LINE_MAX` bytes, without a store out of bounds so far. -/
def Intact (b : Buffer) : Prop := b.cap = sdlogLineMax ∧ b.InBounds

namespace Assembler

/-- A state without an overrun: the position leaves room in the buffer, no store has been out of
    bounds, and the records in the queue are lines. -/
structure Sound (s : Assembler) : Prop where
  pos_nonneg : 0 ≤ s.sRawpos
  pos_lt : s.sRawpos < sdlogLineMax - 1
  raw : ∀ b, s.sRawbuf = some b → Intact b
  pkt : ∀ b, s.sPktbuf = some b → Intact b
  message : ∀ m, m ∈ s.queue ∨ m ∈ s.dropped → Intact m.data
  records : ∀ m ∈ s.queue, m.IsLine

/-- The fragment has a newline, or as many characters as there is room for. -/
def Finishes (s : Assembler) (text : List UInt8) : Prop :=
  newline ∈ text ∨ sdlogLineMax - 1 ≤ s.sRawpos + text.length

/-- A call that does not wedge: a fragment that completes a line or fills the buffer sets the
    position back, any other one moves it on by its length, and an error leaves it. -/
structure Advances (s : Assembler) (c : Call) : Prop where
  resets : ∀ text h, c.fragment = .formatted text h → s.Finishes text →
    (s.sdlogVprintf c).sRawpos = 0
  carries : ∀ text h, c.fragment = .formatted text h → ¬ s.Finishes text →
    s.sRawbuf.isSome → s.sPktbuf.isSome → (s.sdlogVprintf c).sRawpos = s.sRawpos + text.length
  stays : ∀ part, c.fragment = .failed part → (s.sdlogVprintf c).sRawpos = s.sRawpos

/-- **The invariant.**  There is no newline in the unfinished line, and no position without the
    buffers. -/
structure Assembling (s : Assembler) : Prop where
  sound : s.Sound
  missing : s.sRawbuf = none ∨ s.sPktbuf = none → s.sRawpos = 0
  unfinished : ∀ b, s.sRawbuf = some b → newline ∉ b.mem.load 0 s.sRawpos.toNat

end Assembler

/-! ### The buffers -/

section Buffers

variable {b dst raw pkt : Buffer} {src : List UInt8} {j maxLen p k : Nat} {m : Memory}

/-- **Stripping** stays in bounds, with a byte left for the null character. -/
theorem stripLoop_sound (src : List UInt8) (hj : j ≤ maxLen - 1) (hcap : maxLen ≤ dst.cap)
    (h : dst.InBounds) :
    (stripLoop maxLen src dst j).1.cap = dst.cap ∧ (stripLoop maxLen src dst j).1.InBounds ∧
      (stripLoop maxLen src dst j).2 ≤ maxLen - 1 := by
  fun_induction stripLoop maxLen src dst j with
  | case1 dst j => exact ⟨rfl, h, hj⟩
  | case2 dst j src hroom ih => exact ih hj hcap h
  | case3 dst j c src hroom hplain ih =>
    -- `j` is below `max_len - 1`, so there is room for the null character too
    have hstore : (dst.store j [c]).InBounds :=
      Buffer.inBounds_store.mpr ⟨h, .inr (by rw [List.length_singleton]; omega)⟩
    exact ih (by omega) hcap hstore
  | case4 dst j c src hfull => exact ⟨rfl, h, hj⟩

theorem trimmed_le (m : Memory) (j : Nat) : trimmed m j ≤ j := by
  induction j with
  | zero => exact Nat.le_refl _
  | succ j ih =>
    rw [trimmed]
    split
    · exact Nat.le_succ_of_le ih
    · exact Nat.le_refl _

theorem stripAnsi_sound (src : List UInt8) (hpos : 0 < maxLen) (hcap : maxLen ≤ dst.cap)
    (h : dst.InBounds) :
    (stripAnsi src dst maxLen).1.cap = dst.cap ∧ (stripAnsi src dst maxLen).1.InBounds ∧
      (stripAnsi src dst maxLen).2 ≤ maxLen - 1 := by
  obtain ⟨hcap', hin, hlen⟩ := stripLoop_sound src (Nat.zero_le (maxLen - 1)) hcap h
  have htrim := trimmed_le (stripLoop maxLen src dst 0).1.mem (stripLoop maxLen src dst 0).2
  refine ⟨hcap', Buffer.inBounds_store.mpr ⟨hin, .inr ?_⟩, htrim.trans hlen⟩
  rw [List.length_singleton, hcap']
  omega

theorem len_message (pkt : Buffer) (k : Nat) (junk : Memory) :
    (message pkt k junk).len = min k (sdlogLineMax - 1) + 1 := by
  unfold message sdlogLineMax
  dsimp only
  omega

/-- The record is what `s_pktbuf` holds, and a newline. -/
theorem record_message (pkt : Buffer) (k : Nat) (junk : Memory) : (message pkt k junk).record =
    pkt.mem.load 0 (min k (sdlogLineMax - 1)) ++ [newline] := by
  have hchars := Memory.load_store_self (Buffer.alloc sdlogLineMax junk).mem 0
    (pkt.mem.load 0 (min k (sdlogLineMax - 1)))
  have hend := Memory.load_store_self ((Buffer.alloc sdlogLineMax junk).mem.store 0
    (pkt.mem.load 0 (min k (sdlogLineMax - 1)))) (min k (sdlogLineMax - 1)) [newline]
  rw [Memory.length_load] at hchars
  rw [SdlogMsg.record, len_message, Memory.load_add, Nat.zero_add]
  refine congrArg₂ (· ++ ·) ?_ hend
  exact (Memory.load_store_disjoint _ (.inl (Nat.le_of_eq (Nat.zero_add _)))).trans hchars

/-- **A message** of at least one character is a line. -/
theorem message_isLine (hk : 0 < k) (junk : Memory) : (message pkt k junk).IsLine := by
  refine ⟨?_, ?_, ?_⟩
  · rw [len_message]
    unfold sdlogLineMax
    omega
  · rw [len_message]
    unfold sdlogLineMax
    omega
  · rw [record_message, List.getLast?_concat]

theorem message_intact (pkt : Buffer) (k : Nat) (junk : Memory) :
    Intact (message pkt k junk).data := by
  refine ⟨rfl, ?_⟩
  have hchars : ((Buffer.alloc sdlogLineMax junk).store 0
      (pkt.mem.load 0 (min k (sdlogLineMax - 1)))).InBounds := by
    refine Buffer.inBounds_store.mpr ⟨Buffer.inBounds_alloc _ _, .inr ?_⟩
    rw [Memory.length_load, Buffer.cap_alloc]
    omega
  refine Buffer.inBounds_store.mpr ⟨hchars, .inr ?_⟩
  rw [List.length_singleton, Buffer.cap_store, Buffer.cap_alloc]
  unfold sdlogLineMax
  omega

/-- What has been written behind `p` bytes is read behind them. -/
theorem load_accumulated (m : Memory) (p : Nat) {bs : List UInt8} (hk : k ≤ bs.length) :
    (m.store p (bs ++ [0])).load 0 (p + k) = m.load 0 p ++ bs.take k := by
  have hbehind : (m.store p (bs ++ [0])).load p k = bs.take k := by
    have hself := Memory.load_store_self m p (bs ++ [0])
    have hle : k ≤ (bs ++ [0]).length := by
      rw [List.length_append]
      omega
    rw [← Memory.take_load _ p hle, hself, List.take_append_of_le_length hk]
  rw [Memory.load_add, Nat.zero_add, hbehind,
    Memory.load_store_disjoint m (.inl (Nat.le_of_eq (Nat.zero_add p)))]

end Buffers

/-! ### The fragments -/

namespace Fragment

/-- What `vsnprintf` writes, as far as there is room. -/
def bytes : Fragment → List UInt8
  | .formatted text _ => text
  | .failed part => part

/-- How far the position moves, with room for `space` characters. -/
def count (space : Nat) : Fragment → Nat
  | .formatted text _ => min text.length space
  | .failed _ => 0

theorem count_le (f : Fragment) (space : Nat) : f.count space ≤ (f.bytes.take space).length := by
  cases f with
  | formatted text h => simp [count, bytes, Nat.min_comm]
  | failed part => exact Nat.zero_le _

theorem count_le_space (f : Fragment) (space : Nat) : f.count space ≤ space :=
  (f.count_le space).trans (List.length_take_le _ _)

end Fragment

section Accumulate

variable {raw : Buffer} {p : Nat} {f : Fragment}

/-- **The accumulation**, at a position that leaves room. -/
theorem accumulate_eq (raw : Buffer) (hp : p < sdlogLineMax - 1) (f : Fragment) :
    accumulate raw p f =
      (raw.store p (f.bytes.take (sdlogLineMax - 1 - p) ++ [0]),
        ((p + f.count (sdlogLineMax - 1 - p) : Nat) : Int)) := by
  have hspace : ((sdlogLineMax : Nat) : Int) - p - 1 = (sdlogLineMax - 1 - p : Nat) := by omega
  have hroom : (0 : Int) < (sdlogLineMax - 1 - p : Nat) := by omega
  unfold accumulate
  simp only [hspace, hroom, if_true, Int.toNat_natCast]
  cases f with
  | formatted text h =>
    simp only [vsnprintf, Fragment.bytes, Fragment.count]
    congr 1
    split_ifs <;> omega
  | failed part =>
    simp only [vsnprintf, Fragment.bytes, Fragment.count]
    rfl

/-- The fragment fits into the buffer. -/
theorem accumulate_intact (h : Intact raw) (hp : p < sdlogLineMax - 1) :
    Intact (accumulate raw p f).1 := by
  rw [accumulate_eq raw hp]
  refine ⟨h.1, Buffer.inBounds_store.mpr ⟨h.2, .inr ?_⟩⟩
  have hle := List.length_take_le (sdlogLineMax - 1 - p) f.bytes
  rw [List.length_append, List.length_singleton, h.1]
  omega

/-- The position stays inside the buffer. -/
theorem accumulate_pos (raw : Buffer) (hp : p < sdlogLineMax - 1) (f : Fragment) :
    0 ≤ (accumulate raw p f).2 ∧ (accumulate raw p f).2.toNat ≤ sdlogLineMax - 1 := by
  have hle := f.count_le_space (sdlogLineMax - 1 - p)
  rw [accumulate_eq raw hp]
  simp only [Int.toNat_natCast]
  omega

/-- The unfinished line with the fragment. -/
theorem load_accumulate (hp : p < sdlogLineMax - 1) :
    (accumulate raw p f).1.mem.load 0 (accumulate raw p f).2.toNat =
      raw.mem.load 0 p ++ f.bytes.take (f.count (sdlogLineMax - 1 - p)) := by
  rw [accumulate_eq raw hp]
  show (raw.mem.store p _).load 0 (p + f.count (sdlogLineMax - 1 - p)) = _
  rw [load_accumulated raw.mem p (f.count_le _), List.take_take,
    Nat.min_eq_left (f.count_le_space _)]

/-- **A fragment finishes the line** if it has a newline or fills the buffer. What was there before
    has no newline. -/
theorem completes_formatted {text : List UInt8} {h : text.length < 2 ^ 31}
    (hp : p < sdlogLineMax - 1) (hclean : newline ∉ raw.mem.load 0 p) :
    Completes (accumulate raw p (.formatted text h)).1 (accumulate raw p (.formatted text h)).2 ↔
      newline ∈ text ∨ sdlogLineMax - 1 ≤ p + text.length := by
  rw [Completes, load_accumulate hp, accumulate_eq raw hp]
  have htake : text.take (min text.length (sdlogLineMax - 1 - p)) =
      text.take (sdlogLineMax - 1 - p) := by
    rw [Nat.min_comm, ← List.take_take, List.take_length]
  have hor : newline ∈ raw.mem.load 0 p ++ text.take (min text.length (sdlogLineMax - 1 - p)) ↔
      newline ∈ text.take (sdlogLineMax - 1 - p) := by
    rw [htake, List.mem_append, or_iff_right hclean]
  simp only [Fragment.bytes, Fragment.count, hor]
  constructor
  · rintro ⟨-, hfull | hmem⟩
    · exact .inr (by omega)
    · exact .inl (List.mem_of_mem_take hmem)
  · intro hdone
    by_cases hfull : sdlogLineMax - 1 ≤ p + text.length
    · exact ⟨by omega, .inl (by omega)⟩
    · -- nothing is cut, so the newline is in the buffer
      have hmem := hdone.resolve_right hfull
      have hlen := List.length_pos_of_mem hmem
      refine ⟨by omega, .inr ?_⟩
      rwa [List.take_of_length_le (by omega)]

/-- An error of `vsnprintf` finishes nothing. -/
theorem not_completes_failed (part : List UInt8) (hp : p < sdlogLineMax - 1)
    (hclean : newline ∉ raw.mem.load 0 p) :
    ¬ Completes (accumulate raw p (.failed part)).1 (accumulate raw p (.failed part)).2 := by
  rw [Completes, load_accumulate hp, accumulate_eq raw hp]
  simp only [Fragment.bytes, Fragment.count, List.take_zero, List.append_nil]
  rintro ⟨-, hfull | hmem⟩
  · omega
  · exact hclean hmem

/-- What is not complete leaves room, and has no newline. -/
theorem unfinished_of_not_completes {pos : Int} (hpos : 0 ≤ pos) (hopen : ¬ Completes raw pos) :
    pos < sdlogLineMax - 1 ∧ newline ∉ raw.mem.load 0 pos.toNat := by
  rcases Int.lt_or_eq_of_le hpos with hpos | rfl
  · obtain ⟨hroom, hclean⟩ := not_or.mp fun hor => hopen ⟨hpos, hor⟩
    exact ⟨Int.not_le.mp hroom, hclean⟩
  · exact ⟨by decide, List.not_mem_nil⟩

end Accumulate

/-! ### The hook -/

namespace Assembler

variable {s : Assembler} {c : Call} {raw pkt : Buffer} {pos : Int} {m : SdlogMsg} {sent : Bool}

@[simp] theorem sRawpos_send : (s.send m sent).sRawpos = s.sRawpos := by
  unfold send
  split <;> rfl

/-- A message that is a line may be sent. -/
theorem Assembling.send (h : s.Assembling) (hdata : Intact m.data) (hline : m.IsLine) :
    (s.send m sent).Assembling := by
  unfold Assembler.send
  split
  · refine { h with sound := { h.sound with message := fun m' hm' => ?_, records := ?_ } }
    · rw [List.mem_append, List.mem_singleton, or_right_comm] at hm'
      obtain hm' | rfl := hm'
      · exact h.sound.message m' hm'
      · exact hdata
    · intro m' hm'
      obtain hm' | rfl := (List.mem_append.trans (or_congr_right List.mem_singleton)).mp hm'
      · exact h.sound.records m' hm'
      · exact hline
  · refine { h with sound := { h.sound with message := fun m' hm' => ?_ } }
    rw [List.mem_append, List.mem_singleton, ← or_assoc] at hm'
    obtain hm' | rfl := hm'
    · exact h.sound.message m' hm'
    · exact hdata

/-- The buffers may be replaced by intact ones, if the unfinished line is one. -/
theorem Assembling.set (h : s.Assembling) (hraw : Intact raw) (hpkt : Intact pkt)
    (hpos : 0 ≤ pos ∧ pos < sdlogLineMax - 1) (hclean : newline ∉ raw.mem.load 0 pos.toNat) :
    Assembling { s with sRawbuf := some raw, sPktbuf := some pkt, sRawpos := pos } where
  sound :=
    { h.sound with
      pos_nonneg := hpos.1
      pos_lt := hpos.2
      raw := by
        rintro _ ⟨⟩
        exact hraw
      pkt := by
        rintro _ ⟨⟩
        exact hpkt }
  missing := by simp
  unfinished := by
    rintro _ ⟨⟩
    exact hclean

/-- A line that is complete sets the position back. -/
@[simp] theorem sRawpos_complete : (s.complete raw pkt pos c).sRawpos = 0 := by
  unfold complete
  dsimp only
  split
  · exact sRawpos_send
  · rfl

/-- **A complete line** leaves room in the buffers for the next one. -/
theorem Assembling.complete (h : s.Assembling) (hraw : Intact raw) (hpkt : Intact pkt)
    (hpos : pos.toNat ≤ sdlogLineMax - 1) : (s.complete raw pkt pos c).Assembling := by
  have hterminated : Intact (raw.store pos.toNat [0]) := by
    refine ⟨hraw.1, Buffer.inBounds_store.mpr ⟨hraw.2, .inr ?_⟩⟩
    rw [List.length_singleton, hraw.1]
    unfold sdlogLineMax at *
    omega
  obtain ⟨hcap, hin, -⟩ := stripAnsi_sound (extractLevel (cString (raw.store pos.toNat [0]))).2
    (show 0 < sdlogLineMax by decide) (Nat.le_of_eq hpkt.1.symm) hpkt.2
  -- the next line begins at 0, whether this one passes or not
  have hstart : (0 : Int) ≤ 0 ∧ (0 : Int) < sdlogLineMax - 1 := by decide
  have hset := h.set hterminated ⟨hcap.trans hpkt.1, hin⟩ hstart List.not_mem_nil
  unfold Assembler.complete
  dsimp only
  split
  · rename_i hpass
    exact hset.send (message_intact _ _ _) (message_isLine hpass.1 _)
  · exact hset

/-- The hook, when the buffers are there. -/
theorem sdlogVprintf_of_buffers (hraw : s.sRawbuf = some raw) (hpkt : s.sPktbuf = some pkt) :
    s.sdlogVprintf c =
      if Completes (accumulate raw s.sRawpos c.fragment).1 (accumulate raw s.sRawpos c.fragment).2
      then s.complete (accumulate raw s.sRawpos c.fragment).1 pkt
        (accumulate raw s.sRawpos c.fragment).2 c
      else { s with
        sRawbuf := some (accumulate raw s.sRawpos c.fragment).1
        sRawpos := (accumulate raw s.sRawpos c.fragment).2 } := by
  simp only [sdlogVprintf, hraw, hpkt]

/-- Without one of the buffers the hook does nothing. -/
theorem sdlogVprintf_of_missing (hmissing : s.sRawbuf = none ∨ s.sPktbuf = none) :
    s.sdlogVprintf c = s := by
  unfold sdlogVprintf
  split
  · simp_all
  · rfl

/-- The buffers are there, or one of them is missing. -/
theorem buffers_cases (s : Assembler) :
    (s.sRawbuf = none ∨ s.sPktbuf = none) ∨
      ∃ raw pkt, s.sRawbuf = some raw ∧ s.sPktbuf = some pkt := by
  cases hraw : s.sRawbuf with
  | none => exact .inl (.inl rfl)
  | some raw =>
    cases hpkt : s.sPktbuf with
    | none => exact .inl (.inr rfl)
    | some pkt => exact .inr ⟨raw, pkt, rfl, rfl⟩

/-- The position as a natural number. -/
theorem Sound.pos_eq (h : s.Sound) : ∃ p : Nat, s.sRawpos = p ∧ p < sdlogLineMax - 1 := by
  have hlt := h.pos_lt
  obtain ⟨p, hp⟩ := Int.eq_ofNat_of_zero_le h.pos_nonneg
  exact ⟨p, hp, by omega⟩

/-- **One call** keeps the invariant. -/
theorem Assembling.sdlogVprintf (h : s.Assembling) (c : Call) : (s.sdlogVprintf c).Assembling := by
  obtain hmissing | ⟨raw, pkt, hraw, hpkt⟩ := s.buffers_cases
  · rwa [sdlogVprintf_of_missing hmissing]
  · obtain ⟨p, hp, hroom⟩ := h.sound.pos_eq
    have hintact := accumulate_intact (f := c.fragment) (h.sound.raw raw hraw) hroom
    have hpos := accumulate_pos raw hroom c.fragment
    rw [sdlogVprintf_of_buffers hraw hpkt, hp]
    split
    · exact h.complete hintact (h.sound.pkt pkt hpkt) hpos.2
    · rename_i hopen
      obtain ⟨hlt, hclean⟩ := unfinished_of_not_completes hpos.1 hopen
      have hset := h.set hintact (h.sound.pkt pkt hpkt) ⟨hpos.1, hlt⟩ hclean
      rwa [← hpkt] at hset

/-- A fragment completes the line in the buffer exactly if it finishes it. -/
theorem Assembling.completes_iff (h : s.Assembling) (hraw : s.sRawbuf = some raw)
    {text : List UInt8} (htext : text.length < 2 ^ 31) :
    Completes (accumulate raw s.sRawpos (.formatted text htext)).1
      (accumulate raw s.sRawpos (.formatted text htext)).2 ↔ s.Finishes text := by
  obtain ⟨p, hp, hroom⟩ := h.sound.pos_eq
  have hclean := h.unfinished raw hraw
  rw [hp, Int.toNat_natCast] at hclean
  rw [Finishes, hp, completes_formatted hroom hclean]
  exact or_congr_right (by omega)

/-- **One call** does not wedge: it begins a new line, moves the position on by what it was given,
    or leaves it where it is. -/
theorem Assembling.advances (h : s.Assembling) (c : Call) : s.Advances c := by
  constructor
  -- A fragment that finishes the line starts the next one at the front.
  · intro text htext hfragment hfinishes
    obtain hmissing | ⟨raw, pkt, hraw, hpkt⟩ := s.buffers_cases
    · rw [sdlogVprintf_of_missing hmissing]
      exact h.missing hmissing
    · have hdone := (h.completes_iff hraw htext).mpr hfinishes
      rw [sdlogVprintf_of_buffers hraw hpkt, hfragment, if_pos hdone, sRawpos_complete]
  -- An open fragment moves the position on by what it counted.
  · intro text htext hfragment hopen hraw hpkt
    obtain ⟨raw, hraw⟩ := Option.isSome_iff_exists.mp hraw
    obtain ⟨pkt, hpkt⟩ := Option.isSome_iff_exists.mp hpkt
    have hpartial := mt (h.completes_iff hraw htext).mp hopen
    obtain ⟨p, hp, hroom⟩ := h.sound.pos_eq
    rw [sdlogVprintf_of_buffers hraw hpkt, hfragment, if_neg hpartial]
    show (accumulate raw s.sRawpos (.formatted text htext)).2 = _
    rw [Finishes, hp] at hopen
    obtain ⟨-, hshort⟩ := not_or.mp hopen
    rw [hp, accumulate_eq raw hroom]
    simp only [Fragment.count]
    omega
  -- A formatting error leaves the position, as the line so far is unfinished.
  · intro part hfragment
    obtain hmissing | ⟨raw, pkt, hraw, hpkt⟩ := s.buffers_cases
    · rw [sdlogVprintf_of_missing hmissing]
    · obtain ⟨p, hp, hroom⟩ := h.sound.pos_eq
      have hclean := h.unfinished raw hraw
      rw [hp, Int.toNat_natCast] at hclean
      have hopen := not_completes_failed part hroom hclean
      rw [sdlogVprintf_of_buffers hraw hpkt, hfragment, hp, if_neg hopen, accumulate_eq raw hroom]
      rfl

theorem assembling_started (raw pkt : Option Memory) : (started raw pkt).Assembling where
  sound :=
    { pos_nonneg := le_refl _
      pos_lt := show (0 : Int) < sdlogLineMax - 1 by decide
      raw := by
        intro b hb
        obtain ⟨junk, -, rfl⟩ := Option.map_eq_some_iff.mp hb
        exact ⟨rfl, Buffer.inBounds_alloc _ _⟩
      pkt := by
        intro b hb
        obtain ⟨junk, -, rfl⟩ := Option.map_eq_some_iff.mp hb
        exact ⟨rfl, Buffer.inBounds_alloc _ _⟩
      message := by simp [started]
      records := by simp [started] }
  missing _ := rfl
  unfinished _ _ := List.not_mem_nil

end Assembler

/-- **Line assembly never wedges or overruns.**  After any fragments the state is sound, and each
    call advances. -/
theorem assembly_sound (raw pkt : Option Memory) (calls : List Call) :
    vprintfHook.Meets Assembler.Advances (Assembler.started raw pkt) calls ∧
      ∀ s, vprintfHook.run (Assembler.started raw pkt) calls = some s → s.Sound := by
  have hstep : ∀ s c s', vprintfHook.step s c = some s' → s.Assembling → s'.Assembling := by
    intro s c s' hs h
    obtain rfl := Option.some.inj hs
    exact h.sdlogVprintf c
  have hstarted := Assembler.assembling_started raw pkt
  refine ⟨(Machine.meets_true _ calls).of_invariant (fun s c s' _ => hstep s c s')
    (fun s c h _ => h.advances c) hstarted, fun s hrun => ?_⟩
  exact (Machine.invariant hstep hrun hstarted).sound

end SubnetRouter.FlightRecorder
