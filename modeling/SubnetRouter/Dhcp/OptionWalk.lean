import SubnetRouter.Dhcp.Server
import SubnetRouter.Lib.CharArray
import SubnetRouter.Lib.Memory

namespace SubnetRouter.Dhcp

open Lib

/-!
# The walk over the options

`parse_options` walks over the bytes that a client has sent, with a length that is negative when
the message is short.  `parseOptionsAt` is the walk with its pointer, the ranges it reads and the
buffer of the hostname; `parseOptions` is the same walk over a list.

* `Item`, `Splits` — what the bytes of an options field say.
* `parseOptions_items` — the state that is made of them.
* `walkOptions_spec` — the walk over memory is the walk over a list.
* `parse_options_correct` — it ends, stays inside and returns that state.
-/

/-! ### What the bytes say -/

/-- An option with a length byte. The two codes without one, padding and the end, are no options in
    this sense. -/
structure DhcpOption where
  code : UInt8
  data : List UInt8
  ne_pad : code ≠ dhcpOptionPad
  ne_end : code ≠ dhcpOptionEnd
  length_lt : data.length < 256

/-- What stands in front of the end: single zero bytes and options. -/
inductive Item where
  | pad
  | option (o : DhcpOption)

/-- Where the items stop: at the end of the field, at the end mark, or at an option that is
    not whole. -/
inductive Stops : List UInt8 → Prop
  | nil : Stops []
  | endMark (rest : List UInt8) : Stops (dhcpOptionEnd :: rest)
  | noLength {code : UInt8} (hcode : code ≠ dhcpOptionPad) : Stops [code]
  | truncated {code optLen : UInt8} {rest : List UInt8} (hcode : code ≠ dhcpOptionPad)
      (hlen : rest.length < optLen.toNat) : Stops (code :: optLen :: rest)

namespace Item

def encode : Item → List UInt8
  | pad => [dhcpOptionPad]
  | option o => o.code :: UInt8.ofNat o.data.length :: o.data

/-- The message type that an item gives. -/
def msgType : Item → Option UInt8
  | pad => none
  | option o => if o.code = dhcpOptionMsgType then o.data.head? else none

/-- The address that an item requests. -/
def reqIpaddr : Item → Option Ip4
  | pad => none
  | option o =>
    if o.code = dhcpOptionReqIpaddr ∧ 4 ≤ o.data.length then some (be32 o.data 0) else none

/-- What the walk does at an item. -/
def read (client : Ip4) (o : Options) : Item → Options
  | pad => o
  | option d => o.read client d.code d.data

end Item

/-- The field holds these items, and stops behind them. -/
structure Splits (options : List UInt8) (items : List Item) (tail : List UInt8) : Prop where
  eq : options = items.flatMap Item.encode ++ tail
  stops : Stops tail

/-- The last message type. -/
def lastMsgType (items : List Item) : Option UInt8 := (items.filterMap Item.msgType).getLast?

/-- The last requested address. -/
def lastReqIpaddr (items : List Item) : Option Ip4 := (items.filterMap Item.reqIpaddr).getLast?

/-- What a requested address means to a client that is to get `client`. -/
def reqState (client : Ip4) : Option Ip4 → DhcpsState
  | none => .idle
  | some ip => if ip = client then .ack else .nak

/-- The state for a message type, a requested address and the renew flag, as `parse_options` decides
    it after its loop. A request that asks for no address is acknowledged only if it renews. -/
def stateOf (client : Ip4) (renew : Bool) (type : Option UInt8) (req : Option Ip4) :
    DhcpsState :=
  if type = some dhcpDiscover then .offer
  else if type = some dhcpRequest then
    if req = none then if renew then .ack else .nak else reqState client req
  else if type = some dhcpDecline then .decline
  else if type = some dhcpRelease then .release
  else reqState client req

/-! ### The walk over a list -/

variable {client : Ip4} {renew : Bool} {items : List Item} {item : Item}
  {options tail : List UInt8} {o : Options} {fuel : Nat}

theorem Item.length_encode_pos (item : Item) : 0 < item.encode.length := by
  cases item <;> simp [encode]

theorem readOptions_pad (rest : List UInt8) :
    readOptions client (fuel + 1) (dhcpOptionPad :: rest) o = readOptions client fuel rest o := by
  cases rest <;> rw [readOptions, if_pos rfl]

theorem readOptions_option {code optLen : UInt8} {rest : List UInt8} (hpad : code ≠ dhcpOptionPad)
    (hend : code ≠ dhcpOptionEnd) (hlen : optLen.toNat ≤ rest.length) :
    readOptions client (fuel + 1) (code :: optLen :: rest) o =
      readOptions client fuel (rest.drop optLen.toNat)
        (o.read client code (rest.take optLen.toNat)) := by
  rw [readOptions, if_neg hpad, if_neg hend, if_neg (Nat.not_lt.mpr hlen)]

/-- One turn of the loop walks over one item. -/
theorem readOptions_item (item : Item) (rest : List UInt8) :
    readOptions client (fuel + 1) (item.encode ++ rest) o =
      readOptions client fuel rest (item.read client o) := by
  cases item with
  | pad => exact readOptions_pad rest
  | option d =>
    have hlen : (UInt8.ofNat d.data.length).toNat = d.data.length :=
      UInt8.toNat_ofNat_of_lt' d.length_lt
    have hfits : (UInt8.ofNat d.data.length).toNat ≤ (d.data ++ rest).length := by
      rw [hlen, List.length_append]
      omega
    show readOptions client (fuel + 1)
      (d.code :: UInt8.ofNat d.data.length :: (d.data ++ rest)) o = _
    rw [readOptions_option d.ne_pad d.ne_end hfits, hlen, List.take_left, List.drop_left, Item.read]

/-- Where the items stop, the loop ends. -/
theorem readOptions_stops (h : Stops tail) : readOptions client fuel tail o = o := by
  cases fuel with
  | zero => rw [readOptions]
  | succ fuel =>
    cases h with
    | nil => rw [readOptions]
    | endMark rest =>
      have hne : dhcpOptionEnd ≠ dhcpOptionPad := by decide
      cases rest <;> rw [readOptions, if_neg hne, if_pos rfl]
    | noLength hcode => rw [readOptions, if_neg hcode, ite_self]
    | truncated hcode hlen =>
      rw [readOptions, if_neg hcode, if_pos hlen, ite_self]

/-- The loop reads the items in turn. -/
theorem readOptions_items (h : Stops tail)
    (hfuel : (items.flatMap Item.encode ++ tail).length ≤ fuel) :
    readOptions client fuel (items.flatMap Item.encode ++ tail) o =
      items.foldl (Item.read client) o := by
  induction items generalizing fuel o with
  | nil => exact readOptions_stops h
  | cons item items ih =>
    rw [List.flatMap_cons, List.append_assoc] at hfuel ⊢
    rw [List.length_append] at hfuel
    have hpos := item.length_encode_pos
    obtain ⟨fuel, rfl⟩ : ∃ k, fuel = k + 1 := ⟨fuel - 1, by omega⟩
    rw [readOptions_item, ih (by omega), List.foldl_cons]

/-- Every field is items up to a stop. By strong induction on its length, as an item takes at least
    one byte. -/
theorem exists_splits (options : List UInt8) : ∃ items tail, Splits options items tail := by
  induction hn : options.length using Nat.strong_induction_on generalizing options with
  | _ n ih =>
    subst hn
    -- behind an item that is there, the rest splits
    have hcons : ∀ (item : Item) (rest : List UInt8), options = item.encode ++ rest →
        ∃ items tail, Splits options items tail := by
      rintro item rest rfl
      have hpos := item.length_encode_pos
      obtain ⟨items, tail, heq, hstops⟩ :=
        ih rest.length (by rw [List.length_append]; omega) rest rfl
      refine ⟨item :: items, tail, ?_, hstops⟩
      rw [List.flatMap_cons, List.append_assoc, ← heq]
    by_cases hstops : Stops options
    · exact ⟨[], options, rfl, hstops⟩
    · cases options with
      | nil => exact absurd .nil hstops
      | cons code rest =>
        by_cases hpad : code = dhcpOptionPad
        · exact hcons .pad rest (by rw [hpad]; rfl)
        · by_cases hend : code = dhcpOptionEnd
          · exact absurd (hend ▸ .endMark rest) hstops
          · cases rest with
            | nil => exact absurd (.noLength hpad) hstops
            | cons optLen rest =>
              have hlen : ¬ rest.length < optLen.toNat :=
                fun hlt => hstops (.truncated hpad hlt)
              have htake : (rest.take optLen.toNat).length = optLen.toNat :=
                List.length_take_of_le (by omega)
              have hlt : (rest.take optLen.toNat).length < 256 := by
                rw [htake]
                exact optLen.toNat_lt
              have hcode : optLen = UInt8.ofNat (rest.take optLen.toNat).length := by
                rw [htake, UInt8.ofNat_toNat]
              refine hcons (.option ⟨code, rest.take optLen.toNat, hpad, hend, hlt⟩)
                (rest.drop optLen.toNat) ?_
              show code :: optLen :: rest = code :: UInt8.ofNat _ :: (_ ++ _)
              rw [← hcode, List.take_append_drop]

/-! ### The state -/

theorem lastMsgType_concat :
    lastMsgType (items ++ [item]) = item.msgType.or (lastMsgType items) := by
  rw [lastMsgType, lastMsgType, List.filterMap_append]
  cases h : item.msgType <;> simp [h]

theorem lastReqIpaddr_concat :
    lastReqIpaddr (items ++ [item]) = item.reqIpaddr.or (lastReqIpaddr items) := by
  rw [lastReqIpaddr, lastReqIpaddr, List.filterMap_append]
  cases h : item.reqIpaddr <;> simp [h]

theorem Item.type_read : (item.read client o).type = item.msgType.getD o.type := by
  cases item with
  | pad => rfl
  | option d =>
    rw [Item.read, Options.read.eq_def, Item.msgType]
    split_ifs <;> cases d.data <;> rfl

theorem Item.state_read :
    (item.read client o).state = (item.reqIpaddr.map (reqState client ∘ some)).getD o.state := by
  cases item with
  | pad => rfl
  | option d =>
    rw [Item.read, Options.read.eq_def, Item.reqIpaddr]
    -- The `switch` over the code, in its order: message type, host name, requested address.
    by_cases htype : d.code = dhcpOptionMsgType
    · have hreq : ¬ (d.code = dhcpOptionReqIpaddr ∧ 4 ≤ d.data.length) := by
        rw [htype]
        exact fun h => absurd h.1 (by decide)
      rw [if_pos htype, if_neg hreq]
      cases d.data <;> rfl
    · by_cases hname : d.code = dhcpOptionHostname
      · have hreq : ¬ (d.code = dhcpOptionReqIpaddr ∧ 4 ≤ d.data.length) := by
          rw [hname]
          exact fun h => absurd h.1 (by decide)
        rw [if_neg htype, if_pos hname, if_neg hreq]
        split_ifs <;> rfl
      · rw [if_neg htype, if_neg hname]
        by_cases hreq : d.code = dhcpOptionReqIpaddr ∧ 4 ≤ d.data.length
        · rw [if_pos hreq.1, if_pos hreq.2, if_pos hreq, Option.map_some, Option.getD_some,
            Function.comp_apply, reqState]
        · rw [if_neg hreq]
          split_ifs with hcode hfour
          · exact absurd ⟨hcode, hfour⟩ hreq
          · exact absurd ⟨hcode, hfour⟩ hreq
          · rfl
          · rfl

/-- The type that the walk keeps is the last. -/
theorem type_foldl_read (client : Ip4) (items : List Item) (o : Options) :
    (items.foldl (Item.read client) o).type = (lastMsgType items).getD o.type := by
  induction items using List.reverseRecOn with
  | nil => rfl
  | append_singleton items item ih =>
    rw [List.foldl_append, List.foldl_cons, List.foldl_nil, Item.type_read, ih,
      lastMsgType_concat]
    cases item.msgType <;> rfl

/-- The state that the walk keeps is that of the last requested address. -/
theorem state_foldl_read (client : Ip4) (items : List Item) (o : Options) :
    (items.foldl (Item.read client) o).state =
      ((lastReqIpaddr items).map (reqState client ∘ some)).getD o.state := by
  induction items using List.reverseRecOn with
  | nil => rfl
  | append_singleton items item ih =>
    rw [List.foldl_append, List.foldl_cons, List.foldl_nil, Item.state_read, ih,
      lastReqIpaddr_concat]
    cases item.reqIpaddr <;> rfl

/-- **The state is that of the last message type and the last requested address.** Each of the two
    is looked up among the items, whatever stands between them. -/
theorem parseOptions_items (h : Splits options items tail) :
    (parseOptions client renew options).1 =
      stateOf client renew (lastMsgType items) (lastReqIpaddr items) := by
  have hread : readOptions client options.length options ⟨.idle, 0, []⟩ =
      items.foldl (Item.read client) ⟨.idle, 0, []⟩ := by
    rw [h.eq]
    exact readOptions_items h.stops (Nat.le_refl _)
  have htype := type_foldl_read client items ⟨.idle, 0, []⟩
  have hstate := state_foldl_read client items ⟨.idle, 0, []⟩
  have hreq : ((lastReqIpaddr items).map (reqState client ∘ some)).getD .idle =
      reqState client (lastReqIpaddr items) := by
    cases lastReqIpaddr items <;> rfl
  have hanswered : reqState client (lastReqIpaddr items) = .ack ∨
      reqState client (lastReqIpaddr items) = .nak ↔ lastReqIpaddr items ≠ none := by
    cases lastReqIpaddr items with
    | none => simp [reqState]
    | some ip => by_cases hip : ip = client <;> simp [reqState, hip]
  -- no message type is the type `0`, which is none of those that are asked for
  have hcode : ∀ code : UInt8, code ≠ 0 → ((lastMsgType items).getD 0 = code ↔
      lastMsgType items = some code) := by
    intro code hne
    cases lastMsgType items with
    | none => simpa using Ne.symm hne
    | some type => simp
  rw [parseOptions, stateOf]
  simp only [hread, htype, hstate, hreq, hanswered, hcode dhcpDiscover (by decide),
    hcode dhcpRequest (by decide), hcode dhcpDecline (by decide), hcode dhcpRelease (by decide)]
  split_ifs <;> simp_all

/-! ### The walk over memory -/

/-- The variables of `parse_options` and the buffer it writes; `reads` are the offsets and
    lengths of what it reads from `optptr` on. -/
structure Walk where
  state : DhcpsState
  type : UInt8
  currentHostname : Buffer
  reads : List (Nat × Nat)

namespace Walk

/-- Read `n` bytes at an offset. -/
def touch (w : Walk) (off n : Nat) : Walk := { w with reads := w.reads ++ [(off, n)] }

/-- `memcpy` to the start of the buffer, and a terminator. -/
def copyHostname (w : Walk) (bs : List UInt8) : Walk :=
  { w with currentHostname := (w.currentHostname.store 0 bs).store bs.length [0] }

/-- The `switch` over a code; `off` is where the data of the option starts. An option that is
    shorter than its meaning is skipped, and one of another code is not read. -/
def option (optptr : Memory) (client : Ip4) (code : UInt8) (off optLen : Nat) (w : Walk) : Walk :=
  if code = dhcpOptionMsgType then
    if 1 ≤ optLen then { w.touch off 1 with type := optptr off } else w
  else if code = dhcpOptionHostname then
    if 0 < optLen then
      let hostnameLen := if dhcpsMaxHostnameLen ≤ optLen then dhcpsMaxHostnameLen - 1 else optLen
      (w.touch off hostnameLen).copyHostname (optptr.load off hostnameLen)
    else w
  else if code = dhcpOptionReqIpaddr then
    if 4 ≤ optLen then
      -- `memcmp` of the address as it stands in memory
      { w.touch off 4 with state := if be32 (optptr.load off 4) 0 = client then .ack else .nak }
    else w
  else w

end Walk

/-- The loop of `parse_options` from offset `i` on, or `none` when the fuel does not last. It keeps
    what it has read, so that reads beyond the message could be told. -/
def walkOptions (optptr : Memory) (client : Ip4) (len : Int) : Nat → Nat → Walk → Option Walk
  | 0, _, _ => none
  | fuel + 1, i, w =>
    if (i : Int) < len then
      let w := w.touch i 1
      if optptr i = dhcpOptionPad then walkOptions optptr client len fuel (i + 1) w
      else if optptr i = dhcpOptionEnd then some w
      else if (i : Int) + 1 ≥ len then some w
      else
        let w := w.touch (i + 1) 1
        let optLen := (optptr (i + 1)).toNat
        if (i : Int) + 2 + optLen > len then some w
        else
          walkOptions optptr client len fuel (i + (optLen + 2))
            (w.option optptr client (optptr i) (i + 2) optLen)
    else some w

/-- What `parse_options` has done when it returns: the state, the buffer and the reads. -/
structure Parsed where
  state : DhcpsState
  currentHostname : Buffer
  reads : List (Nat × Nat)

/-- The `switch` over the message type. It comes after the loop, so the last message type counts,
    wherever the others stand. -/
def Walk.parsed (renew : Bool) (w : Walk) : Parsed :=
  let state :=
    if w.type = dhcpDiscover then .offer
    else if w.type = dhcpRequest then
      if ¬(w.state = .ack ∨ w.state = .nak) then if renew then .ack else .nak else w.state
    else if w.type = dhcpDecline then .decline
    else if w.type = dhcpRelease then .release
    else w.state
  ⟨state, w.currentHostname, w.reads⟩

/-- `parse_options` of the `len` bytes at `optptr`, `len` a signed number; `junk` is what
    `current_hostname` held. -/
def parseOptionsAt (fuel : Nat) (dhcps : Dhcps) (junk optptr : Memory) (len : BitVec 16) :
    Option Parsed :=
  let currentHostname := (Buffer.alloc dhcpsMaxHostnameLen junk).store 0 [0]
  (walkOptions optptr dhcps.clientAddress len.toInt fuel 0 ⟨.idle, 0, currentHostname, []⟩).map
    (Walk.parsed dhcps.renew)

/-- The length that `handle_dhcp` passes on for a datagram of `totLen` bytes. -/
def optionsLen (totLen : BitVec 16) : BitVec 16 := totLen - 240

/-- Every byte read lies in front of the end of the options, every byte written lies in
    `current_hostname`, and what is in it has an end. -/
structure Inside (len : Int) (currentHostname : Buffer) (reads : List (Nat × Nat)) : Prop where
  cap : currentHostname.cap = dhcpsMaxHostnameLen
  reads : ∀ r ∈ reads, ∀ k : Nat, r.1 ≤ k → k < r.1 + r.2 → (k : Int) < len
  writes : currentHostname.InBounds
  terminated : ∃ k < dhcpsMaxHostnameLen, currentHostname.mem k = 0

namespace Walk

variable {optptr m : Memory} {code : UInt8} {off n optLen : Nat} {len : Int} {bs : List UInt8}
  {w : Walk}

/-- The variables, with the hostname as a text. -/
def collected (w : Walk) : Options :=
  ⟨w.state, w.type, (w.currentHostname.mem.load 0 dhcpsMaxHostnameLen).takeWhile (· ≠ 0)⟩

theorem inside_touch (h : Inside len w.currentHostname w.reads) {off n : Nat}
    (hend : (off : Int) + n ≤ len) :
    Inside len (w.touch off n).currentHostname (w.touch off n).reads := by
  refine { h with reads := ?_ }
  intro r hr k hlo hhi
  rcases List.mem_append.mp hr with hr | hr
  · exact h.reads r hr k hlo hhi
  · rw [List.mem_singleton] at hr
    subst hr
    simp only at hlo hhi
    omega

theorem inside_copyHostname (h : Inside len w.currentHostname w.reads)
    (hbs : bs.length < dhcpsMaxHostnameLen) :
    Inside len (w.copyHostname bs).currentHostname (w.copyHostname bs).reads where
  cap := h.cap
  reads := h.reads
  writes := by
    have hcap := h.cap
    refine Buffer.inBounds_store.mpr ⟨Buffer.inBounds_store.mpr ⟨h.writes, .inr ?_⟩, .inr ?_⟩
    · omega
    · rw [Buffer.cap_store, List.length_singleton]
      omega
  terminated := ⟨bs.length, hbs, @Memory.store_self _ bs.length [0] 0 (by simp)⟩

/-- What an option that is whole makes the walk touch. -/
theorem inside_option (optptr : Memory) (client : Ip4) (code : UInt8)
    (h : Inside len w.currentHostname w.reads)
    (hend : (off : Int) + optLen ≤ len) :
    Inside len (w.option optptr client code off optLen).currentHostname
      (w.option optptr client code off optLen).reads := by
  rw [option]
  split_ifs with htype hpos hname hdata hmax hreq hfour hclient
  · exact inside_touch h (by omega)
  · exact h
  · -- the name is cut to the buffer
    refine inside_copyHostname (inside_touch h ?_) ?_
    · have hle : dhcpsMaxHostnameLen - 1 ≤ optLen := by omega
      omega
    · rw [Memory.length_load]
      decide
  · refine inside_copyHostname (inside_touch h (by omega)) ?_
    rw [Memory.length_load]
    omega
  · exact h
  · exact inside_touch (n := 4) h (by omega)
  · exact inside_touch (n := 4) h (by omega)
  · exact h
  · exact h

/-- The text is what was copied, up to the first null byte in it. -/
theorem collected_copyHostname (hbs : bs.length < dhcpsMaxHostnameLen) :
    (w.copyHostname bs).collected = { w.collected with hostname := bs.takeWhile (· ≠ 0) } := by
  obtain ⟨k, hk⟩ : ∃ k, dhcpsMaxHostnameLen = bs.length + (1 + k) :=
    ⟨dhcpsMaxHostnameLen - bs.length - 1, by omega⟩
  have hcopied : (w.copyHostname bs).currentHostname.mem.load 0 bs.length = bs := by
    show Memory.load (Memory.store (Memory.store _ 0 bs) bs.length [0]) 0 bs.length = bs
    rw [Memory.load_store_disjoint _ (.inl (by omega)), Memory.load_store_self]
  have hnul : (w.copyHostname bs).currentHostname.mem.load bs.length 1 = [0] :=
    Memory.load_store_self _ bs.length [0]
  rw [collected, hk, Memory.load_add, Memory.load_add, hcopied, Nat.zero_add, hnul,
    List.singleton_append, CharArray.takeWhile_append_nul]
  rfl

/-- **An option over memory is the option over a list.** The bounds that the source checks are those
    of the list, code by code. -/
theorem collected_option : (w.option optptr client code off n).collected =
    w.collected.read client code (optptr.load off n) := by
  rw [option, Options.read.eq_def]
  by_cases htype : code = dhcpOptionMsgType
  · rw [if_pos htype, if_pos htype]
    cases n with
    | zero => rfl
    | succ n =>
      rw [if_pos (by omega), Memory.load_succ]
      rfl
  · rw [if_neg htype, if_neg htype]
    by_cases hname : code = dhcpOptionHostname
    · rw [if_pos hname, if_pos hname]
      by_cases hpos : 0 < n
      · have hne : optptr.load off n ≠ [] := by
          rw [← List.length_pos_iff, Memory.length_load]
          exact hpos
        rw [if_pos hpos, if_neg hne]
        dsimp only
        by_cases hmax : dhcpsMaxHostnameLen ≤ n
        · -- a longer name is cut, as the list is
          rw [if_pos hmax, Memory.take_load _ _ (by omega), collected_copyHostname]
          · rfl
          · rw [Memory.length_load]
            decide
        · have hlen : (optptr.load off n).length ≤ dhcpsMaxHostnameLen - 1 := by
            rw [Memory.length_load]
            omega
          rw [if_neg hmax, List.take_of_length_le hlen, collected_copyHostname]
          · rfl
          · rw [Memory.length_load]
            omega
      · obtain rfl : n = 0 := by omega
        rfl
    · rw [if_neg hname, if_neg hname]
      by_cases hreq : code = dhcpOptionReqIpaddr
      · rw [if_pos hreq, if_pos hreq, Memory.length_load]
        by_cases hfour : 4 ≤ n
        · have hbe : be32 (optptr.load off n) 0 = be32 (optptr.load off 4) 0 :=
            Memory.be32_load optptr off (k := 0) (n := n) (by omega)
          rw [if_pos hfour, if_pos hfour, hbe]
          rfl
        · rw [if_neg hfour, if_neg hfour]
      · rw [if_neg hreq, if_neg hreq]

/-- An option is decided by its own data. So the memory behind the field may be taken as
    anything. -/
theorem option_congr (w : Walk) (client : Ip4) (code : UInt8)
    (hagree : ∀ k < n, m (off + k) = optptr (off + k)) :
    w.option m client code off n = w.option optptr client code off n := by
  -- The option reads its own bytes only, so both memories load the same list.
  have hload : ∀ k ≤ n, m.load off k = optptr.load off k := by
    intro k hk
    apply List.map_congr_left
    intro j hj
    exact hagree j (Nat.lt_of_lt_of_le (List.mem_range.mp hj) hk)
  rw [option, option]
  by_cases htype : code = dhcpOptionMsgType
  · rw [if_pos htype, if_pos htype]
    split_ifs with hpos
    · have hbyte : m off = optptr off := hagree 0 hpos
      rw [hbyte]
    · rfl
  · rw [if_neg htype, if_neg htype]
    by_cases hname : code = dhcpOptionHostname
    · rw [if_pos hname, if_pos hname]
      split_ifs with hpos hmax
      · dsimp only
        rw [hload (dhcpsMaxHostnameLen - 1) (by omega)]
      · dsimp only
        rw [hload n (Nat.le_refl n)]
      · rfl
    · rw [if_neg hname, if_neg hname]
      by_cases hreq : code = dhcpOptionReqIpaddr
      · rw [if_pos hreq, if_pos hreq]
        by_cases hfour : 4 ≤ n
        · rw [if_pos hfour, if_pos hfour, hload 4 hfour]
        · rw [if_neg hfour, if_neg hfour]
      · rw [if_neg hreq, if_neg hreq]

end Walk

variable {optptr optptr' : Memory} {len : Int} {i n k : Nat} {w w' : Walk}

/-- The loop ends at offset `i`: behind the options, at the end mark, or at an option that does
    not fit. -/
def EndsAt (optptr : Memory) (len : Int) (i : Nat) : Prop :=
  (i : Int) < len → optptr i ≠ dhcpOptionPad ∧
    (optptr i = dhcpOptionEnd ∨ (i : Int) + 1 ≥ len ∨
      (i : Int) + 2 + (optptr (i + 1)).toNat > len)

theorem EndsAt.stops (h : EndsAt optptr len i) : Stops (optptr.load i (len.toNat - i)) := by
  by_cases hin : (i : Int) < len
  · obtain ⟨hpad, hcase⟩ := h hin
    obtain ⟨n, hn⟩ : ∃ n, len.toNat - i = n + 1 := ⟨len.toNat - i - 1, by omega⟩
    -- Where the walk ends, the options that are left are of one of the kinds of `Stops`.
    rw [hn, Memory.load_succ]
    by_cases hend : optptr i = dhcpOptionEnd
    · rw [hend]
      exact .endMark _
    · cases n with
      | zero => exact .noLength hpad
      | succ n =>
        rw [Memory.load_succ]
        refine .truncated hpad ?_
        rw [Memory.length_load]
        -- The three ways to end short: the mark, a code without a length, and data beyond the end.
        rcases hcase with hend' | hlast | hover
        · exact absurd hend' hend
        · omega
        · omega
  · have hnil : len.toNat - i = 0 := by omega
    rw [hnil]
    exact .nil

theorem EndsAt.walkOptions (h : EndsAt optptr len i) (client : Ip4) (fuel : Nat)
    (hinside : Inside len w.currentHostname w.reads) :
    ∃ w', walkOptions optptr client len (fuel + 1) i w = some w' ∧
      Inside len w'.currentHostname w'.reads ∧ w'.collected = w.collected := by
  rw [Dhcp.walkOptions]
  by_cases hin : (i : Int) < len
  · obtain ⟨hpad, hcase⟩ := h hin
    have hcode := Walk.inside_touch (n := 1) hinside (show (i : Int) + (1 : Nat) ≤ len by omega)
    rw [if_pos hin, if_neg hpad]
    by_cases hend : optptr i = dhcpOptionEnd
    · exact ⟨_, if_pos hend, hcode, rfl⟩
    · rw [if_neg hend]
      by_cases hlast : (i : Int) + 1 ≥ len
      · exact ⟨_, if_pos hlast, hcode, rfl⟩
      · have hover := (hcase.resolve_left hend).resolve_left hlast
        rw [if_neg hlast]
        exact ⟨_, if_pos hover, Walk.inside_touch (n := 1) hcode (by omega), rfl⟩
  · exact ⟨w, if_neg hin, hinside, rfl⟩

/-- **The walk over memory is the walk over a list**: it ends, has stayed inside, and has
    collected the same. -/
theorem walkOptions_spec (optptr : Memory) (client : Ip4) (hfuel : len.toNat ≤ i + fuel)
    (h : Inside len w.currentHostname w.reads) :
    ∃ w', walkOptions optptr client len (fuel + 1) i w = some w' ∧
      Inside len w'.currentHostname w'.reads ∧
      w'.collected =
        readOptions client fuel (optptr.load i (len.toNat - i)) w.collected := by
  induction fuel generalizing i w with
  | zero =>
    have hends : EndsAt optptr len i := fun hin => by omega
    obtain ⟨w', hwalk, hinside, hw'⟩ := hends.walkOptions client 0 h
    exact ⟨w', hwalk, hinside, by rw [hw', readOptions]⟩
  | succ fuel ih =>
    by_cases hends : EndsAt optptr len i
    · obtain ⟨w', hwalk, hinside, hw'⟩ :=
        hends.walkOptions client (fuel + 1) h
      exact ⟨w', hwalk, hinside, by rw [hw', readOptions_stops hends.stops]⟩
    · -- there is a whole item at `i`
      obtain ⟨hin, hitem⟩ := Classical.not_imp.mp hends
      have hcode := Walk.inside_touch (n := 1) h (show (i : Int) + (1 : Nat) ≤ len by omega)
      obtain ⟨n, hn⟩ : ∃ n, len.toNat - i = n + 1 := ⟨len.toNat - i - 1, by omega⟩
      rw [hn, Memory.load_succ, walkOptions, if_pos hin]
      by_cases hpad : optptr i = dhcpOptionPad
      · obtain ⟨w', hwalk, hinside, hw'⟩ := ih (i := i + 1) (by omega) hcode
        refine ⟨w', by rw [if_pos hpad, hwalk], hinside, ?_⟩
        have hrest : len.toNat - (i + 1) = n := by omega
        rw [hw', hrest, hpad, readOptions_pad]
        rfl
      · obtain ⟨hend, hlast, hover⟩ : optptr i ≠ dhcpOptionEnd ∧ ¬ (i : Int) + 1 ≥ len ∧
            ¬ (i : Int) + 2 + (optptr (i + 1)).toNat > len := by
          have hwhole := not_and.mp hitem hpad
          rwa [not_or, not_or] at hwhole
        obtain ⟨n, rfl⟩ : ∃ k, n = k + 1 := ⟨n - 1, by omega⟩
        have hlength := Walk.inside_touch (n := 1) hcode
          (show ((i + 1 : Nat) : Int) + (1 : Nat) ≤ len by omega)
        have hoption := Walk.inside_option optptr client (optptr i) hlength
          (show ((i + 2 : Nat) : Int) + (optptr (i + 1)).toNat ≤ len by omega)
        obtain ⟨w', hwalk, hinside, hw'⟩ :=
          ih (i := i + ((optptr (i + 1)).toNat + 2)) (by omega) hoption
        have hle : (optptr (i + 1)).toNat ≤ n := by omega
        have hfits : (optptr (i + 1)).toNat ≤ (optptr.load (i + 1 + 1) n).length := by
          rwa [Memory.length_load]
        have hskip : i + ((optptr (i + 1)).toNat + 2) = i + 1 + 1 + (optptr (i + 1)).toNat := by
          omega
        have hrest : len.toNat - (i + 1 + 1 + (optptr (i + 1)).toNat) =
            n - (optptr (i + 1)).toNat := by omega
        refine ⟨w', by rw [if_neg hpad, if_neg hend, if_neg hlast, if_neg hover, hwalk],
          hinside, ?_⟩
        rw [hw', Memory.load_succ, readOptions_option hpad hend hfits, Memory.take_load _ _ hle,
          Memory.drop_load _ _ hle, hskip, hrest, Walk.collected_option]
        rfl

/-- More fuel changes nothing. -/
theorem walkOptions_mono (h : walkOptions optptr client len fuel i w = some w') (k : Nat) :
    walkOptions optptr client len (fuel + k) i w = some w' := by
  induction fuel generalizing i w with
  | zero =>
    rw [walkOptions] at h
    cases h
  | succ fuel ih =>
    rw [Nat.add_right_comm, walkOptions]
    rw [walkOptions] at h
    dsimp only at h ⊢
    split_ifs at h ⊢ with hin hpad hend hlast hover
    · exact ih h
    · exact h
    · exact h
    · exact h
    · exact ih h
    · exact h

/-- The bytes from the end on are of no account. -/
theorem walkOptions_congr (hagree : ∀ k : Nat, (k : Int) < len → optptr' k = optptr k) :
    walkOptions optptr' client len fuel i w = walkOptions optptr client len fuel i w := by
  induction fuel generalizing i w with
  | zero => rfl
  | succ fuel ih =>
    rw [walkOptions, walkOptions]
    by_cases hin : (i : Int) < len
    · rw [if_pos hin, if_pos hin, hagree i hin]
      by_cases hlast : (i : Int) + 1 ≥ len
      · simp only [if_pos hlast, ih]
      · rw [hagree (i + 1) (by omega)]
        by_cases hover : (i : Int) + 2 + (optptr (i + 1)).toNat > len
        · simp only [if_pos hover, ih]
        · have hdata : ∀ k < (optptr (i + 1)).toNat, optptr' (i + 2 + k) = optptr (i + 2 + k) :=
            fun k hk => hagree (i + 2 + k) (by omega)
          have hoption := fun v : Walk => v.option_congr client (optptr i) hdata
          simp only [hoption, ih]
    · rw [if_neg hin, if_neg hin]

/-! ### `parse_options` -/

variable {dhcps : Dhcps} {junk : Memory} {r : Parsed} {size : BitVec 16}

/-- The buffer that the walk starts with: the empty text. -/
theorem inside_start (len : Int) (junk : Memory) :
    Inside len ((Buffer.alloc dhcpsMaxHostnameLen junk).store 0 [0]) [] where
  cap := rfl
  reads := fun r hr => absurd hr List.not_mem_nil
  writes := by
    refine Buffer.inBounds_store.mpr ⟨Buffer.inBounds_alloc _ _, .inr ?_⟩
    rw [Buffer.cap_alloc]
    decide
  terminated := ⟨0, by decide, @Memory.store_self junk 0 [0] 0 (by simp)⟩

theorem collected_start (junk : Memory) :
    (⟨.idle, 0, (Buffer.alloc dhcpsMaxHostnameLen junk).store 0 [0], []⟩ : Walk).collected =
      ⟨.idle, 0, []⟩ := by
  have hload : ((Buffer.alloc dhcpsMaxHostnameLen junk).store 0 [0]).mem.load 0 (1 + 31) =
      [0] ++ ((Buffer.alloc dhcpsMaxHostnameLen junk).store 0 [0]).mem.load 1 31 := by
    rw [Memory.load_add]
    exact congrArg (· ++ _) (Memory.load_store_self junk 0 [0])
  rw [Walk.collected, show dhcpsMaxHostnameLen = 1 + 31 from rfl]
  exact congrArg (fun bs : List UInt8 => (⟨.idle, 0, bs.takeWhile (· ≠ 0)⟩ : Options)) hload

/-- **`parse_options` over memory is `parseOptions` over the bytes of the field.** -/
theorem parseOptionsAt_spec (dhcps : Dhcps) (junk optptr : Memory) (len : BitVec 16) :
    ∃ r, (∀ fuel, len.toInt.toNat < fuel → parseOptionsAt fuel dhcps junk optptr len = some r) ∧
      Inside len.toInt r.currentHostname r.reads ∧
      (r.state, (r.currentHostname.mem.load 0 dhcpsMaxHostnameLen).takeWhile (· ≠ 0)) =
        parseOptions dhcps.clientAddress dhcps.renew (optptr.load 0 len.toInt.toNat) := by
  obtain ⟨w, hwalk, hinside, hcollected⟩ := walkOptions_spec optptr dhcps.clientAddress
    (show len.toInt.toNat ≤ 0 + len.toInt.toNat by omega)
    (w := ⟨.idle, 0, (Buffer.alloc dhcpsMaxHostnameLen junk).store 0 [0], []⟩)
    (inside_start len.toInt junk)
  rw [collected_start, Nat.sub_zero] at hcollected
  refine ⟨w.parsed dhcps.renew, fun fuel hfuel => ?_, hinside, ?_⟩
  · obtain ⟨k, rfl⟩ := Nat.exists_eq_add_of_lt hfuel
    rw [parseOptionsAt, Nat.add_right_comm, walkOptions_mono hwalk k, Option.map_some]
  · rw [parseOptions, Memory.length_load, ← hcollected, Walk.parsed]
    dsimp only
    rw [ite_not]
    rfl

/-- **The walk over the options**: it ends, reads in front of the end only, leaves a text in its
    buffer, and returns the state of the last message type and the last requested address, whole
    ones both.  Bytes from the end on do not matter. -/
theorem parse_options_correct (dhcps : Dhcps) (junk optptr : Memory) (len : BitVec 16) :
    ∃ r, (∀ fuel, len.toInt.toNat < fuel → parseOptionsAt fuel dhcps junk optptr len = some r) ∧
      Inside len.toInt r.currentHostname r.reads ∧
      (∃ items tail, Splits (optptr.load 0 len.toInt.toNat) items tail) ∧
      (∀ items tail, Splits (optptr.load 0 len.toInt.toNat) items tail →
        r.state = stateOf dhcps.clientAddress dhcps.renew (lastMsgType items)
          (lastReqIpaddr items)) ∧
      ∀ optptr' : Memory, (∀ k : Nat, (k : Int) < len.toInt → optptr' k = optptr k) →
        ∀ fuel, parseOptionsAt fuel dhcps junk optptr' len =
          parseOptionsAt fuel dhcps junk optptr len := by
  obtain ⟨r, hreturns, hinside, hr⟩ := parseOptionsAt_spec dhcps junk optptr len
  refine ⟨r, hreturns, hinside, exists_splits _, fun items tail hsplits => ?_,
    fun optptr' hagree fuel => ?_⟩
  · rw [← parseOptions_items hsplits, ← hr]
  · rw [parseOptionsAt, parseOptionsAt, walkOptions_congr hagree]

/-- The length is that of the bytes behind the cookie, negative when there is no cookie. -/
theorem toInt_optionsLen {totLen : BitVec 16} (h : totLen.toNat < 32768) :
    (optionsLen totLen).toInt = (totLen.toNat : Int) - 240 := by
  have hcookie : (240 : BitVec 16).toInt = 240 := rfl
  rw [optionsLen, BitVec.toInt_sub, BitVec.toInt_eq_toNat_of_lt (by omega), hcookie]
  exact Int.bmod_eq_of_le (by omega) (by omega)

/-- Behind the cookie at offset 236 the walk reads received bytes only, and no byte of a message
    that is too short to have options. -/
theorem reads_received {totLen : BitVec 16} (h : totLen.toNat < 32768) (dhcps : Dhcps)
    (junk optptr : Memory) : ∃ r,
      (∀ fuel, totLen.toNat < fuel →
        parseOptionsAt fuel dhcps junk optptr (optionsLen totLen) = some r) ∧
      ∀ read ∈ r.reads, ∀ k, read.1 ≤ k → k < read.1 + read.2 → 240 + k < totLen.toNat := by
  obtain ⟨r, hreturns, hinside, -⟩ := parseOptionsAt_spec dhcps junk optptr (optionsLen totLen)
  have hlen := toInt_optionsLen h
  refine ⟨r, fun fuel hfuel => hreturns fuel (by omega), fun read hread k hlo hhi => ?_⟩
  have hk := hinside.reads read hread k hlo hhi
  omega

end SubnetRouter.Dhcp
