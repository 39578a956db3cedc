import SubnetRouter.Dns.Question

namespace SubnetRouter.Dns.Wire

open Lib

/-!
# The time to live of a response

`dns_resp_ttl` walks over the answer records of a response.  The name of a record is written as
labels, as a pointer, or as labels that end in a pointer; the loop over the labels knows no
pointers and takes such a one for a label of 192 bytes or more.

* `Response` — well-formed responses, and what they look like on the wire.
* `answerTtl_answers` — the walk over records whose names it can follow.
* `answerTtl_lost` — behind labels that end in a pointer it has lost its way: the time to live of
  this record is not read.
* `dnsRespTtl_right_iff` — exactly which responses are given the right time.
-/

/-! ### Responses -/

/-- A label has 1 to 63 bytes. -/
structure Label where
  bytes : List UInt8
  length_pos : 0 < bytes.length
  length_le : bytes.length ≤ 63

def Label.encode (l : Label) : List UInt8 := UInt8.ofNat l.bytes.length :: l.bytes

/-- What stands behind the labels of a name. -/
inductive NameEnd
  | root
  | pointer (offset : Fin 16384)

def NameEnd.encode : NameEnd → List UInt8
  | .root => [0]
  | .pointer offset => [UInt8.ofNat (0xC0 + offset.val / 256), UInt8.ofNat offset.val]

structure Name where
  labels : List Label
  ending : NameEnd

def Name.encode (n : Name) : List UInt8 := n.labels.flatMap Label.encode ++ n.ending.encode

/-- A pointer alone, or labels up to the root. -/
def Name.Plain (n : Name) : Prop := n.labels = [] ∨ n.ending = .root

/-- A resource record of the answer section. Its name may be written in labels, or point back into
    the message. -/
structure Answer where
  name : Name
  typeClass : BitVec 32
  ttl : BitVec 32
  rdata : List UInt8
  rdata_lt : rdata.length < 65536

/-- The record from its name up to its class, then the time to live, then the rest. -/
def Answer.front (a : Answer) : List UInt8 := a.name.encode ++ bytes32 a.typeClass

def Answer.back (a : Answer) : List UInt8 := bytes16 a.rdata.length ++ a.rdata

def Answer.encode (a : Answer) : List UInt8 := a.front ++ (bytes32 a.ttl ++ a.back)

/-- The header of a message, apart from the number of its answers, which follows from the list of
    them. -/
structure Header where
  id : BitVec 16
  flags : UInt8
  rcodeByte : UInt8
  authorities : BitVec 16
  additionals : BitVec 16

/-- A response to one question; the records of the other sections stand in `rest`. Its bytes are
    those of its parts, one behind the other. -/
structure Response where
  header : Header
  question : List UInt8
  answers : List Answer
  answers_lt : answers.length < 65536
  rest : List UInt8

namespace Response

def headerBytes (r : Response) : List UInt8 :=
  bytes16 r.header.id.toNat ++ [r.header.flags, r.header.rcodeByte] ++ bytes16 1
    ++ bytes16 r.answers.length ++ bytes16 r.header.authorities.toNat
    ++ bytes16 r.header.additionals.toNat

def encode (r : Response) : List UInt8 :=
  r.headerBytes ++ (r.question ++ (r.answers.flatMap Answer.encode ++ r.rest))

/-- NOERROR or NXDOMAIN. -/
def Cacheable (r : Response) : Prop :=
  r.header.rcodeByte &&& 0x0F = 0 ∨ r.header.rcodeByte &&& 0x0F = 3

instance (r : Response) : Decidable r.Cacheable := inferInstanceAs (Decidable (_ ∨ _))

/-- What `dns_resp_ttl` is meant to return: the smallest time to live of the answers within its
    bounds, and the negative one where there is none. -/
def expected (r : Response) : Nat :=
  if r.Cacheable then
    match (r.answers.map fun a => a.ttl.toNat).min? with
    | none => 15
    | some ttl => max 10 (min 3600 ttl)
  else 0

/-- It returns so, whatever the buffer holds behind the response. -/
def Right (r : Response) : Prop :=
  ∀ stale, dnsRespTtl (r.encode ++ stale) r.encode.length r.question.length = r.expected

/-- The walk can follow every name that it meets. -/
def Followed (r : Response) : Prop := r.Cacheable → ∀ a ∈ r.answers, a.name.Plain

/-- All answers have the time to live that stands for none in the code. -/
def Saturated (r : Response) : Prop :=
  r.Cacheable ∧ r.answers ≠ [] ∧ ∀ a ∈ r.answers, a.ttl = 0xFFFFFFFF#32

instance (r : Response) : Decidable r.Saturated := inferInstanceAs (Decidable (_ ∧ _ ∧ _))

/-- The responses differ in times to live only. Names, lengths and the other sections are at the
    same places in both. -/
structure SameLayout (r r' : Response) : Prop where
  header : r'.header = r.header
  question : r'.question = r.question
  rest : r'.rest = r.rest
  answers : r'.answers.map (fun a => { a with ttl := 0#32 })
    = r.answers.map fun a => { a with ttl := 0#32 }

end Response

/-- For a datagram `d`: the result is decided by its own bytes, and the loop over labels leaves
    by itself. -/
structure DecidedBy (d : List UInt8) (qlen : Nat) : Prop where
  stale : ∀ stale stale', dnsRespTtl (d ++ stale) d.length qlen
    = dnsRespTtl (d ++ stale') d.length qlen
  ends : ∀ stale i fuel, d.length ≤ fuel →
    skipLabels (d ++ stale) d.length fuel i = skipLabels (d ++ stale) d.length d.length i

/-! ### The loops without their bounds -/

variable {p q : List UInt8} {len i an minttl qlen : Nat}

/-- A turn of the loop over labels. -/
theorem skipLabels_eq (p : List UInt8) (len i : Nat) : skipLabels p len len i =
    if i < len ∧ byteAt p i ≠ 0 then skipLabels p len len (i + 1 + (byteAt p i).toNat) else i := by
  have hmore : skipLabels p len len i = skipLabels p len (len + 1) i :=
    skipLabels_fuel (by omega) (by omega)
  rw [hmore, skipLabels]

theorem le_skipLabels (p : List UInt8) (len fuel i : Nat) : i ≤ skipLabels p len fuel i := by
  induction fuel generalizing i with
  | zero => exact Nat.le_refl _
  | succ fuel ih =>
    rw [skipLabels]
    split_ifs
    · exact Nat.le_trans (by omega) (ih _)
    · exact Nat.le_refl _

/-- Where the record behind a name goes on. -/
def afterName (p : List UInt8) (len i : Nat) : Nat :=
  if byteAt p i &&& 0xC0 = 0xC0 then i + 2 else skipLabels p len len i + 1

/-- A turn of the loop over answers. -/
theorem answerTtl_succ (p : List UInt8) (len an i minttl : Nat) :
    answerTtl p len (an + 1) i minttl =
      if len < i + 1 then none
      else if len < afterName p len i + 10 then none
      else answerTtl p len an (afterName p len i + 10 + be16 p (afterName p len i + 8))
        (min minttl (be32 p (afterName p len i + 4)).toNat) := by
  have hmin (a b : Nat) : (if a < b then a else b) = min b a := by
    rw [Nat.min_def]
    split_ifs <;> omega
  rw [answerTtl, afterName]
  simp only [hmin]

/-! ### What the walk depends on -/

/-- The loops read on from where they are, inside the length they are given. -/
theorem skipLabels_congr {fuel : Nat} (h : ∀ j, i ≤ j → j < len → byteAt p j = byteAt q j) :
    skipLabels p len fuel i = skipLabels q len fuel i := by
  induction fuel generalizing i with
  | zero => rfl
  | succ fuel ih =>
    rw [skipLabels, skipLabels]
    by_cases hin : i < len
    · rw [h i (Nat.le_refl _) hin, ih fun j hj => h j (by omega)]
    · simp only [hin, false_and, if_false]

theorem afterName_congr (hi : i < len) (h : ∀ j, i ≤ j → j < len → byteAt p j = byteAt q j) :
    afterName p len i = afterName q len i := by
  rw [afterName, afterName, h i (Nat.le_refl _) hi, skipLabels_congr h]

theorem lt_afterName (p : List UInt8) (len i : Nat) : i < afterName p len i := by
  have hle := le_skipLabels p len len i
  rw [afterName]
  split_ifs <;> omega

theorem be16_congr {k : Nat} (h : ∀ j, k ≤ j → j < k + 2 → byteAt p j = byteAt q j) :
    be16 p k = be16 q k := by
  rw [be16, be16, h k (by omega) (by omega), h (k + 1) (by omega) (by omega)]

theorem be32_congr {k : Nat} (h : ∀ j, k ≤ j → j < k + 4 → byteAt p j = byteAt q j) :
    be32 p k = be32 q k := by
  rw [be32, be32, be16_congr fun j hj hj' => h j hj (by omega),
    be16_congr fun j hj hj' => h j (by omega) (by omega)]

theorem answerTtl_congr (h : ∀ j, i ≤ j → j < len → byteAt p j = byteAt q j) :
    answerTtl p len an i minttl = answerTtl q len an i minttl := by
  induction an generalizing i minttl with
  | zero => rfl
  | succ an ih =>
    rw [answerTtl_succ, answerTtl_succ]
    by_cases hend : len < i + 1
    · rw [if_pos hend, if_pos hend]
    · have hname : afterName p len i = afterName q len i := afterName_congr (by omega) h
      have hfrom := lt_afterName q len i
      rw [if_neg hend, if_neg hend, hname]
      split_ifs with hshort
      · rfl
      · have httl : be32 p (afterName q len i + 4) = be32 q (afterName q len i + 4) :=
          be32_congr fun j hj hj' => h j (by omega) (by omega)
        have hrd : be16 p (afterName q len i + 8) = be16 q (afterName q len i + 8) :=
          be16_congr fun j hj hj' => h j (by omega) (by omega)
        rw [httl, hrd]
        exact ih fun j hj => h j (by omega)

/-! ### Names -/

variable {n : Name} {a : Answer} {as : List Answer} {s : List UInt8}

theorem and_C0_eq_C0 (b : UInt8) : b &&& 0xC0 = 0xC0 ↔ 192 ≤ b.toNat := by
  have hall : ∀ v : Fin 256, (UInt8.ofNat v.val &&& 0xC0 = 0xC0) ↔ 192 ≤ v.val := by
    decide +kernel
  have hb := hall ⟨b.toNat, b.toNat_lt⟩
  rwa [UInt8.ofNat_toNat] at hb

/-- The length byte of a label. -/
theorem Label.toNat_length (l : Label) : (UInt8.ofNat l.bytes.length).toNat = l.bytes.length := by
  have hle := l.length_le
  rw [UInt8.toNat_ofNat']
  omega

theorem NameEnd.toNat_pointer (offset : Fin 16384) :
    (UInt8.ofNat (0xC0 + offset.val / 256)).toNat = 0xC0 + offset.val / 256 := by
  rw [UInt8.toNat_ofNat']
  omega

/-- The loop walks over whole labels. -/
theorem skipLabels_labels {ls : List Label} (h : HoldsAt p i (ls.flatMap Label.encode))
    (hin : i + (ls.flatMap Label.encode).length ≤ len) :
    skipLabels p len len i = skipLabels p len len (i + (ls.flatMap Label.encode).length) := by
  induction ls generalizing i with
  | nil => rfl
  | cons l ls ih =>
    rw [List.flatMap_cons] at h hin ⊢
    obtain ⟨hlabel, hrest⟩ := holdsAt_append.mp h
    rw [List.length_append, Label.encode, List.length_cons] at hin ⊢
    -- A label's first byte is its length, so the loop moves to the next one.
    have hbyte : (byteAt p i).toNat = l.bytes.length := by
      have hfirst := hlabel.byteAt_eq (k := 0) (by simp [Label.encode])
      rw [Nat.add_zero] at hfirst
      rw [hfirst]
      exact l.toNat_length
    have hpos := l.length_pos
    -- It is not zero, which would end the name.
    have hne : byteAt p i ≠ 0 := (toNat_pos_iff _).mp (by omega)
    rw [skipLabels_eq p len i, if_pos ⟨by omega, hne⟩, hbyte]
    rw [Label.encode, List.length_cons] at hrest
    rw [show i + 1 + l.bytes.length = i + (l.bytes.length + 1) by omega, ih hrest (by omega)]
    rw [Nat.add_assoc i]

/-- The first byte of a label is no pointer. -/
theorem first_label {l : Label} {ls : List Label}
    (h : HoldsAt p i ((l :: ls).flatMap Label.encode)) : ¬ byteAt p i &&& 0xC0 = 0xC0 := by
  have hle := l.length_le
  have hfirst := h.byteAt_eq (k := 0) (by simp [Label.encode])
  rw [Nat.add_zero] at hfirst
  rw [and_C0_eq_C0, hfirst]
  refine Nat.not_le.mpr (Nat.lt_of_le_of_lt ?_ (by decide : 63 < 192))
  exact Nat.le_trans (Nat.le_of_eq l.toNat_length) hle

/-- A plain name is walked over. It is labels up to a zero, or up to a pointer, or a pointer
    alone. -/
theorem afterName_plain (h : HoldsAt p i n.encode) (hn : n.Plain)
    (hin : i + n.encode.length ≤ len) : afterName p len i = i + n.encode.length := by
  obtain ⟨labels, ending⟩ := n
  obtain ⟨hlabels, hend⟩ := holdsAt_append.mp h
  rw [Name.encode, List.length_append] at hin ⊢
  dsimp only at hlabels hend hin ⊢
  cases ending with
  | root =>
    have hzero := hend.byteAt_eq (k := 0) (by decide)
    have hlast : byteAt p (i + (labels.flatMap Label.encode).length) = 0 := hzero
    -- no pointer in front, so the labels are walked over up to the root
    have hfirst : ¬ byteAt p i &&& 0xC0 = 0xC0 := by
      cases labels with
      | nil =>
        rw [List.flatMap_nil, List.length_nil, Nat.add_zero] at hlast
        rw [hlast]
        decide
      | cons l ls => exact first_label hlabels
    have hstop : ¬ (i + (labels.flatMap Label.encode).length < len ∧
        byteAt p (i + (labels.flatMap Label.encode).length) ≠ 0) := fun hno => hno.2 hlast
    rw [afterName, if_neg hfirst, skipLabels_labels hlabels (by omega), skipLabels_eq, if_neg hstop]
    rfl
  | pointer offset =>
    have hnil : labels = [] := hn.resolve_right (by simp)
    subst hnil
    have hbyte := hend.byteAt_eq (k := 0) Nat.zero_lt_two
    have hpointer : byteAt p i &&& 0xC0 = 0xC0 := by
      refine (and_C0_eq_C0 _).mpr ?_
      have hval : (byteAt p i).toNat = 0xC0 + offset.val / 256 :=
        (congrArg UInt8.toNat hbyte).trans (NameEnd.toNat_pointer offset)
      omega
    rw [afterName, if_pos hpointer]
    rfl

/-! ### Records -/

/-- The least time to live, from one on. -/
def leastTtl (minttl : Nat) (as : List Answer) : Nat :=
  (as.map fun a => a.ttl.toNat).foldl min minttl

theorem length_front_add (a : Answer) :
    a.encode.length = a.front.length + 6 + a.rdata.length := by
  simp only [Answer.encode, Answer.back, List.length_append, length_bytes32, length_bytes16]
  omega

/-- What stands behind the name of a record. -/
theorem holdsAt_answer (h : HoldsAt p i a.encode) :
    HoldsAt p i a.name.encode ∧ HoldsAt p (i + a.name.encode.length)
      (bytes32 a.typeClass ++ (bytes32 a.ttl ++ a.back)) := by
  rw [Answer.encode, Answer.front, List.append_assoc] at h
  exact holdsAt_append.mp h

/-- A record whose name is plain is read as it is. The loop goes on behind it, with the smaller of
    the two times. -/
theorem answerTtl_answer (h : HoldsAt p i a.encode) (ha : a.name.Plain)
    (hin : i + a.encode.length ≤ len) : answerTtl p len (an + 1) i minttl =
      answerTtl p len an (i + a.encode.length) (min minttl a.ttl.toNat) := by
  obtain ⟨hname, hfields⟩ := holdsAt_answer h
  have hlen := length_front_add a
  rw [Answer.front, List.length_append, length_bytes32] at hlen
  -- The fields are found behind the name, at the place where `after_name` stops.
  have hafter : afterName p len i = i + a.name.encode.length :=
    afterName_plain hname ha (by omega)
  have hback : HoldsAt p (i + a.name.encode.length + 4) (bytes32 a.ttl ++ a.back) :=
    (holdsAt_append.mp hfields).2
  have httl : be32 p (i + a.name.encode.length + 4) = a.ttl := by
    have hread := hback.be32_eq (k := 0) (by simp)
    rw [Nat.add_zero] at hread
    rw [hread, be32_bytes32]
  have hrd : be16 p (i + a.name.encode.length + 8) = a.rdata.length := by
    have hread := (holdsAt_append.mp hback).2.be16_eq (k := 0)
      (by rw [Answer.back, List.length_append, length_bytes16]; omega)
    rw [length_bytes32, Nat.add_zero] at hread
    rw [hread]
    exact (toNat_bytes16 _).trans (Nat.mod_eq_of_lt a.rdata_lt)
  -- Both tests on the remaining length pass, as the record is within the message.
  have hfrom := lt_afterName p len i
  rw [answerTtl_succ, if_neg (by omega), hafter, if_neg (by omega), httl, hrd]
  congr 1
  omega

/-- **The walk over records with plain names** finds the least time to live. -/
theorem answerTtl_answers (an minttl : Nat) (h : HoldsAt p i (as.flatMap Answer.encode))
    (has : ∀ a ∈ as, a.name.Plain) (hin : i + (as.flatMap Answer.encode).length ≤ len) :
    answerTtl p len (as.length + an) i minttl =
      answerTtl p len an (i + (as.flatMap Answer.encode).length) (leastTtl minttl as) := by
  induction as generalizing i minttl with
  | nil => rw [List.length_nil, Nat.zero_add]; rfl
  | cons a as ih =>
    rw [List.flatMap_cons] at h hin ⊢
    obtain ⟨ha, hrest⟩ := holdsAt_append.mp h
    rw [List.length_append] at hin ⊢
    rw [List.length_cons, show as.length + 1 + an = as.length + an + 1 by omega,
      answerTtl_answer ha (has a (List.mem_cons_self ..)) (by omega),
      ih _ hrest (fun b hb => has b (List.mem_cons_of_mem _ hb)) (by omega), Nat.add_assoc i]
    rfl

/-! ### Messages -/

variable {r : Response}

theorem length_headerBytes (r : Response) : r.headerBytes.length = 12 := rfl

/-- Clamping, as the code writes it. -/
theorem clamp_eq (t : Nat) : (if t < dnsCacheTtlMinS then dnsCacheTtlMinS
    else if dnsCacheTtlMaxS < t then dnsCacheTtlMaxS else t) = max 10 (min 3600 t) := by
  rw [dnsCacheTtlMinS, dnsCacheTtlMaxS]
  split_ifs <;> omega

/-- The fields of the header that the code reads. -/
theorem byteAt_rcode (h : HoldsAt p 0 r.encode) : byteAt p 3 = r.header.rcodeByte := by
  have hread := (holdsAt_append.mp h).1.byteAt_eq (k := 3) (by rw [length_headerBytes]; omega)
  rw [Nat.zero_add] at hread
  exact hread

theorem be16_count (h : HoldsAt p 0 r.encode) : be16 p 6 = r.answers.length := by
  have hread := (holdsAt_append.mp h).1.be16_eq (k := 6) (by rw [length_headerBytes]; omega)
  rw [Nat.zero_add] at hread
  exact hread.trans ((toNat_bytes16 _).trans (Nat.mod_eq_of_lt r.answers_lt))

/-- What is not NOERROR or NXDOMAIN gets no time. -/
theorem dnsRespTtl_other (h : HoldsAt p 0 r.encode) (hc : ¬ r.Cacheable) :
    dnsRespTtl p len qlen = 0 := by
  have hbad : byteAt p 3 &&& 0x0F ≠ 0 ∧ byteAt p 3 &&& 0x0F ≠ 3 := by
    rw [byteAt_rcode h]
    exact not_or.mp hc
  rw [dnsRespTtl]
  simp only [if_pos hbad]

/-- The answers begin behind the question, and their number stands in the header. -/
theorem dnsRespTtl_cacheable (len : Nat) (h : HoldsAt p 0 r.encode) (hc : r.Cacheable) :
    dnsRespTtl p len r.question.length =
      if r.answers = [] then 15
      else
        match answerTtl p len r.answers.length (12 + r.question.length) 0xFFFFFFFF with
        | none => 15
        | some minttl => if minttl = 0xFFFFFFFF then 15 else max 10 (min 3600 minttl) := by
  have hok : ¬ (byteAt p 3 &&& 0x0F ≠ 0 ∧ byteAt p 3 &&& 0x0F ≠ 3) := by
    rw [byteAt_rcode h]
    exact not_and_or.mpr (hc.imp not_not.mpr not_not.mpr)
  rw [dnsRespTtl]
  simp only [if_neg hok, be16_count h, List.length_eq_zero_iff]
  split_ifs with hnil
  · rfl
  · cases answerTtl p len r.answers.length (12 + r.question.length) 0xFFFFFFFF with
    | none => rfl
    | some minttl =>
      simp only [clamp_eq]
      rfl

/-- The walk and the least element of the times to live. -/
theorem min?_ttl (hne : as ≠ []) :
    (as.map fun a => a.ttl.toNat).min? = some (leastTtl 0xFFFFFFFF as) := by
  obtain ⟨a, as, rfl⟩ := List.exists_cons_of_ne_nil hne
  have hlt := a.ttl.isLt
  have hle : min 0xFFFFFFFF a.ttl.toNat = a.ttl.toNat := Nat.min_eq_right (by omega)
  rw [leastTtl, List.map_cons, List.foldl_cons, hle, List.min?_cons']

/-- The least time to live is that of no answer where all are saturated. -/
theorem leastTtl_eq_max (hne : as ≠ []) :
    leastTtl 0xFFFFFFFF as = 0xFFFFFFFF ↔ ∀ a ∈ as, a.ttl = 0xFFFFFFFF#32 := by
  have hmin := List.min?_eq_some_iff.mp (min?_ttl hne)
  constructor
  · intro hmax a ha
    have hle := hmin.2 _ (List.mem_map_of_mem ha)
    have hlt := a.ttl.isLt
    apply BitVec.eq_of_toNat_eq
    rw [BitVec.toNat_ofNat]
    omega
  · intro hall
    obtain ⟨a, ha, heq⟩ := List.mem_map.mp hmin.1
    rw [← heq, hall a ha]
    rfl

/-- The answers of a response begin behind its question. -/
theorem holdsAt_answers (h : HoldsAt p 0 r.encode) :
    HoldsAt p (12 + r.question.length) (r.answers.flatMap Answer.encode) := by
  have hbehind := (holdsAt_append.mp (holdsAt_append.mp h).2).2
  rw [Nat.zero_add, length_headerBytes] at hbehind
  exact (holdsAt_append.mp hbehind).1

theorem length_encode (r : Response) : r.encode.length =
    12 + r.question.length + (r.answers.flatMap Answer.encode).length + r.rest.length := by
  rw [Response.encode, List.length_append, List.length_append, List.length_append,
    length_headerBytes]
  omega

theorem holdsAt_encode (r : Response) (stale : List UInt8) :
    HoldsAt (r.encode ++ stale) 0 r.encode := holdsAt_zero.mpr (List.prefix_append _ _)

/-- **What a response with plain names gives.** -/
theorem dnsRespTtl_followed (h : HoldsAt p 0 r.encode) (hf : r.Followed) :
    dnsRespTtl p r.encode.length r.question.length =
      if r.Saturated then 15 else r.expected := by
  by_cases hc : r.Cacheable
  · rw [dnsRespTtl_cacheable r.encode.length h hc, Response.expected, if_pos hc]
    by_cases hnil : r.answers = []
    · have hsat : ¬ r.Saturated := fun hsat => hsat.2.1 hnil
      rw [if_pos hnil, if_neg hsat, hnil]
      rfl
    · have hlen := length_encode r
      have hwalk := answerTtl_answers 0 0xFFFFFFFF (holdsAt_answers h) (hf hc)
        (show _ ≤ r.encode.length by omega)
      rw [Nat.add_zero, answerTtl] at hwalk
      rw [if_neg hnil, hwalk, min?_ttl hnil]
      simp only [leastTtl_eq_max hnil, Response.Saturated, hc, ne_eq, hnil, not_false_eq_true,
        true_and]
  · have hsat : ¬ r.Saturated := fun hsat => hc hsat.1
    rw [dnsRespTtl_other h hc, if_neg hsat, Response.expected, if_neg hc]

/-- A saturated response has an hour coming. -/
theorem expected_saturated (h : r.Saturated) : r.expected = 3600 := by
  obtain ⟨hc, hne, hall⟩ := h
  rw [Response.expected, if_pos hc, min?_ttl hne, (leastTtl_eq_max hne).mpr hall]
  rfl

theorem right_iff_of_followed (hf : r.Followed) : r.Right ↔ ¬ r.Saturated := by
  constructor
  · intro hright hsat
    have hgives := dnsRespTtl_followed (holdsAt_encode r []) hf
    rw [hright [], if_pos hsat, expected_saturated hsat] at hgives
    exact absurd hgives (by decide)
  · intro hsat stale
    rw [dnsRespTtl_followed (holdsAt_encode r stale) hf, if_neg hsat]

/-! ### Labels that end in a pointer -/

/-- The pointer is taken for a label, which leads behind the time to live of the record. Where it
    leads does not depend on that time. -/
theorem afterName_lost (ha : ¬ a.name.Plain) (hin : i + a.front.length ≤ len) :
    ∃ j, i + a.front.length + 4 ≤ j ∧
      ∀ p, HoldsAt p i a.front → afterName p len i = skipLabels p len len j + 1 := by
  rcases hname : a.name with ⟨labels, ending⟩
  have hnot : labels ≠ [] ∧ ending ≠ .root := by
    rw [hname] at ha
    exact not_or.mp ha
  obtain ⟨l, ls, rfl⟩ := List.exists_cons_of_ne_nil hnot.1
  cases ending with
  | root => exact absurd rfl hnot.2
  | pointer offset =>
    have hlen : a.front.length = ((l :: ls).flatMap Label.encode).length + 2 + 4 := by
      rw [Answer.front, hname, Name.encode, List.length_append, List.length_append,
        length_bytes32]
      rfl
    refine ⟨i + ((l :: ls).flatMap Label.encode).length + 1 + (0xC0 + offset.val / 256),
      by omega, fun p h => ?_⟩
    rw [Answer.front, hname, Name.encode, List.append_assoc] at h
    obtain ⟨hlabels, hend⟩ := holdsAt_append.mp h
    dsimp only at hlabels hend
    -- the byte that is taken for the length of a label
    have hbyte := (holdsAt_append.mp hend).1.byteAt_eq (k := 0) Nat.zero_lt_two
    have hval : (byteAt p (i + ((l :: ls).flatMap Label.encode).length)).toNat
        = 0xC0 + offset.val / 256 :=
      (congrArg UInt8.toNat hbyte).trans (NameEnd.toNat_pointer offset)
    have hne := (toNat_pos_iff _).mp (Nat.lt_of_lt_of_eq (by omega) hval.symm)
    rw [afterName, if_neg (first_label hlabels), skipLabels_labels hlabels (by omega),
      skipLabels_eq, if_pos ⟨by omega, hne⟩, hval]

/-- **The walk has lost its way**: it does not read the time to live of this record. -/
theorem answerTtl_lost (an minttl : Nat) (hp : HoldsAt p i a.front) (hq : HoldsAt q i a.front)
    (ha : ¬ a.name.Plain) (hin : i + a.front.length ≤ len)
    (hbehind : ∀ j, i + a.front.length + 4 ≤ j → byteAt p j = byteAt q j) :
    answerTtl p len (an + 1) i minttl = answerTtl q len (an + 1) i minttl := by
  obtain ⟨j, hj, hafter⟩ := afterName_lost ha hin
  have hskip : skipLabels p len len j = skipLabels q len len j :=
    skipLabels_congr fun k hk _ => hbehind k (by omega)
  have hfrom := le_skipLabels q len len j
  have httl : be32 p (skipLabels q len len j + 1 + 4) = be32 q (skipLabels q len len j + 1 + 4) :=
    be32_congr fun k hk _ => hbehind k (by omega)
  have hrd : be16 p (skipLabels q len len j + 1 + 8) = be16 q (skipLabels q len len j + 1 + 8) :=
    be16_congr fun k hk _ => hbehind k (by omega)
  rw [answerTtl_succ, answerTtl_succ, hafter p hp, hafter q hq, hskip, httl, hrd,
    answerTtl_congr fun k hk _ => hbehind k (by omega)]

/-- The answers with an hour to live. -/
def anHour (as : List Answer) : List Answer := as.map fun b => { b with ttl := 3600#32 }

/-- The response with a time to live in one record, and an hour in all others, so that what is
    returned tells whether that record was read. -/
def Response.withTtl (r : Response) {pre post : List Answer} (a : Answer)
    (h : r.answers = pre ++ a :: post) (ttl : BitVec 32) : Response where
  header := r.header
  question := r.question
  answers := anHour pre ++ { a with ttl := ttl } :: anHour post
  answers_lt := by
    have hlt := r.answers_lt
    rw [h] at hlt
    simpa [anHour] using hlt
  rest := r.rest

variable {pre post : List Answer} {ttl ttl' : BitVec 32}

theorem sameLayout_withTtl (h : r.answers = pre ++ a :: post) (ttl : BitVec 32) :
    r.SameLayout (r.withTtl a h ttl) := by
  refine ⟨rfl, rfl, rfl, ?_⟩
  rw [h, Response.withTtl]
  simp only [anHour, List.map_append, List.map_cons, List.map_map, Function.comp_def]

/-- On the wire the responses differ in the four bytes of that time to live. -/
theorem encode_withTtl (h : r.answers = pre ++ a :: post) (ttl : BitVec 32) :
    (r.withTtl a h ttl).encode = ((r.headerBytes ++ (r.question ++
      ((anHour pre).flatMap Answer.encode ++ a.front))) ++ bytes32 ttl) ++
        (a.back ++ ((anHour post).flatMap Answer.encode ++ r.rest)) := by
  have hheader : (r.withTtl a h ttl).headerBytes = r.headerBytes := by
    have hcount : (r.withTtl a h ttl).answers.length = r.answers.length := by
      rw [h]
      simp [Response.withTtl, anHour]
    rw [Response.headerBytes, hcount]
    rfl
  rw [Response.encode, hheader, Response.withTtl]
  simp only [List.flatMap_append, List.flatMap_cons, Answer.encode, Answer.front, Answer.back,
    List.append_assoc]

/-- The record stands behind the answers in front of it. -/
theorem holdsAt_withTtl (h : r.answers = pre ++ a :: post) (ttl : BitVec 32) :
    HoldsAt (r.withTtl a h ttl).encode (12 + r.question.length)
        ((anHour pre).flatMap Answer.encode) ∧
      HoldsAt (r.withTtl a h ttl).encode
        (12 + r.question.length + ((anHour pre).flatMap Answer.encode).length) a.front := by
  have hall : HoldsAt (r.withTtl a h ttl).encode 0 (r.headerBytes ++ (r.question ++
      ((anHour pre).flatMap Answer.encode ++ a.front))) := by
    rw [holdsAt_zero, encode_withTtl, List.append_assoc _ (bytes32 ttl)]
    exact List.prefix_append _ _
  have hbehind := (holdsAt_append.mp (holdsAt_append.mp hall).2).2
  rw [Nat.zero_add, length_headerBytes] at hbehind
  exact holdsAt_append.mp hbehind

theorem length_encode_withTtl (h : r.answers = pre ++ a :: post) (ttl : BitVec 32) :
    (r.withTtl a h ttl).encode.length = 12 + r.question.length
      + ((anHour pre).flatMap Answer.encode).length + a.front.length + 4 + a.back.length
      + ((anHour post).flatMap Answer.encode).length + r.rest.length := by
  rw [encode_withTtl]
  simp only [List.length_append, length_headerBytes, length_bytes32]
  omega

/-- Behind that time to live they are alike. -/
theorem byteAt_withTtl (h : r.answers = pre ++ a :: post) (ttl ttl' : BitVec 32) {j : Nat}
    (hj : 12 + r.question.length + ((anHour pre).flatMap Answer.encode).length
      + a.front.length + 4 ≤ j) :
    byteAt (r.withTtl a h ttl).encode j = byteAt (r.withTtl a h ttl').encode j := by
  have hfront (t : BitVec 32) : ((r.headerBytes ++ (r.question ++
      ((anHour pre).flatMap Answer.encode ++ a.front))) ++ bytes32 t).length
      = 12 + r.question.length + ((anHour pre).flatMap Answer.encode).length
        + a.front.length + 4 := by
    simp only [List.length_append, length_headerBytes, length_bytes32]
    omega
  have hread (t : BitVec 32) : byteAt (r.withTtl a h t).encode j
      = byteAt (a.back ++ ((anHour post).flatMap Answer.encode ++ r.rest)) (j - (12
        + r.question.length + ((anHour pre).flatMap Answer.encode).length + a.front.length
        + 4)) := by
    rw [encode_withTtl, byteAt_append_of_le _ (by rw [hfront]; exact hj), hfront]
  rw [hread, hread]

/-- The code does not tell them from each other. The first record that it cannot follow is where it
    leaves the time to live unread. -/
theorem dnsRespTtl_withTtl (h : r.answers = pre ++ a :: post) (hc : r.Cacheable)
    (hpre : ∀ b ∈ pre, b.name.Plain) (ha : ¬ a.name.Plain) (ttl ttl' : BitVec 32) :
    dnsRespTtl (r.withTtl a h ttl).encode (r.withTtl a h ttl).encode.length r.question.length =
      dnsRespTtl (r.withTtl a h ttl').encode (r.withTtl a h ttl').encode.length
        r.question.length := by
  have hplain : ∀ b ∈ anHour pre, b.name.Plain := by
    intro b hb
    obtain ⟨c, hmem, rfl⟩ := List.mem_map.mp hb
    exact hpre c hmem
  have hcount (t : BitVec 32) : (r.withTtl a h t).answers.length
      = (anHour pre).length + ((anHour post).length + 1) := by
    rw [Response.withTtl, List.length_append, List.length_cons]
  have hne (t : BitVec 32) : (r.withTtl a h t).answers ≠ [] := by
    simp [Response.withTtl]
  -- up to the record both are read alike, and behind its time to live they are alike
  have hwalk (t : BitVec 32) := answerTtl_answers ((anHour post).length + 1) 0xFFFFFFFF
    (holdsAt_withTtl h t).1 hplain
    (show _ ≤ (r.withTtl a h ttl).encode.length by rw [length_encode_withTtl]; omega)
  have hlost := answerTtl_lost (anHour post).length (leastTtl 0xFFFFFFFF (anHour pre))
    (holdsAt_withTtl h ttl).2 (holdsAt_withTtl h ttl').2 ha
    (show _ ≤ (r.withTtl a h ttl).encode.length by rw [length_encode_withTtl]; omega)
    fun j hj => byteAt_withTtl h ttl ttl' hj
  have hgive (t : BitVec 32) := dnsRespTtl_cacheable (r.withTtl a h ttl).encode.length
    (holdsAt_zero.mpr (List.prefix_refl (r.withTtl a h t).encode)) hc
  have hquestion (t : BitVec 32) : (r.withTtl a h t).question = r.question := rfl
  simp only [hne, if_false, hcount, hquestion, hwalk] at hgive
  rw [show (r.withTtl a h ttl').encode.length = (r.withTtl a h ttl).encode.length by
    rw [length_encode_withTtl, length_encode_withTtl], hgive, hgive, hlost]

/-- What is expected of them. -/
theorem expected_withTtl (ttl : BitVec 32) (h : r.answers = pre ++ a :: post) (hc : r.Cacheable)
    (hle : ttl.toNat ≤ 3600) (hge : 10 ≤ ttl.toNat) :
    (r.withTtl a h ttl).expected = ttl.toNat := by
  have hmin : ((r.withTtl a h ttl).answers.map fun b => b.ttl.toNat).min? = some ttl.toNat := by
    refine List.min?_eq_some_iff.mpr ⟨?_, fun t ht => ?_⟩
    · simp [Response.withTtl]
    · simp only [Response.withTtl, anHour, List.map_append, List.map_cons, List.map_map,
        List.mem_append, List.mem_cons, List.mem_map, Function.comp_apply] at ht
      rcases ht with ⟨b, -, rfl⟩ | rfl | ⟨b, -, rfl⟩
      · exact hle
      · exact Nat.le_refl _
      · exact hle
  have hc' : (r.withTtl a h ttl).Cacheable := hc
  rw [Response.expected, if_pos hc', hmin]
  change max 10 (min 3600 ttl.toNat) = ttl.toNat
  omega

/-- **Some response of this layout is given a wrong time.** Two that differ in one time to live are
    given the same, and it cannot be right for both. -/
theorem exists_not_right (hf : ¬ r.Followed) : ∃ r', r.SameLayout r' ∧ ¬ r'.Right := by
  classical
  obtain ⟨hc, hbad⟩ := not_forall.mp hf
  -- the first record whose name the walk cannot follow
  obtain ⟨b, hb, hnot⟩ : ∃ b ∈ r.answers, ¬ b.name.Plain := by
    obtain ⟨b, hb⟩ := not_forall.mp hbad
    exact ⟨b, Classical.not_imp.mp hb⟩
  have hsome : (r.answers.find? fun b => decide ¬ b.name.Plain).isSome :=
    List.find?_isSome.mpr ⟨b, hb, decide_eq_true hnot⟩
  obtain ⟨a, hfind⟩ := Option.isSome_iff_exists.mp hsome
  obtain ⟨ha, pre, post, heq, hpre⟩ := List.find?_eq_some_iff_append.mp hfind
  have hplain : ∀ b ∈ pre, b.name.Plain := fun b hb => by simpa using hpre b hb
  -- ten seconds and an hour give the same, so one of them is wrong
  have hsame := dnsRespTtl_withTtl heq hc hplain (of_decide_eq_true ha) 10#32 3600#32
  have hten := expected_withTtl 10#32 heq hc (by decide) (by decide)
  have hhour := expected_withTtl 3600#32 heq hc (by decide) (by decide)
  by_cases hright : (r.withTtl a heq 10#32).Right
  · refine ⟨_, sameLayout_withTtl heq 3600#32, fun hright' => ?_⟩
    have h10 := hright []
    have h3600 := hright' []
    rw [List.append_nil] at h10 h3600
    have hclash : (10#32).toNat = (3600#32).toNat := by
      rw [← hten, ← hhour, ← h10, ← h3600]
      exact hsame
    exact absurd hclash (by decide)
  · exact ⟨_, sameLayout_withTtl heq 10#32, hright⟩

/-! ### What is received -/

/-- A datagram that ends with the question is judged by its RCODE alone. -/
theorem dnsRespTtl_short (h : len ≤ 12 + qlen) : dnsRespTtl p len qlen =
    if byteAt p 3 &&& 0x0F ≠ 0 ∧ byteAt p 3 &&& 0x0F ≠ 3 then 0 else 15 := by
  rw [dnsRespTtl]
  dsimp only
  split_ifs with hcode han
  · rfl
  · rfl
  · obtain ⟨an, han⟩ : ∃ an, be16 p 6 = an + 1 := ⟨be16 p 6 - 1, by omega⟩
    rw [han, answerTtl_succ, if_pos (by omega)]
    rfl

/-- The result depends on the bytes of the header and the rest of the datagram. -/
theorem dnsRespTtl_congr (hlen : 4 ≤ len) (h : ∀ j, j < len → byteAt p j = byteAt q j) :
    dnsRespTtl p len qlen = dnsRespTtl q len qlen := by
  by_cases hshort : len ≤ 12 + qlen
  · rw [dnsRespTtl_short hshort, dnsRespTtl_short hshort, h 3 (by omega)]
  · have hcount : be16 p 6 = be16 q 6 := be16_congr fun j _ hj => h j (by omega)
    have hwalk : answerTtl p len (be16 q 6) (12 + qlen) 0xFFFFFFFF
        = answerTtl q len (be16 q 6) (12 + qlen) 0xFFFFFFFF :=
      answerTtl_congr fun j _ hj => h j hj
    rw [dnsRespTtl, dnsRespTtl, h 3 (by omega), hcount]
    dsimp only
    rw [hwalk]

/-- A datagram decides its own result from four bytes on; the RCODE of a shorter one is what
    the buffer held before. -/
theorem decidedBy_iff (d : List UInt8) (qlen : Nat) : DecidedBy d qlen ↔ 4 ≤ d.length := by
  constructor
  · intro h
    by_contra hshort
    have hrcode (b : UInt8) :
        byteAt (d ++ (List.replicate (3 - d.length) 0 ++ [b])) 3 = b := by
      have hlen : (d ++ List.replicate (3 - d.length) 0).length = 3 := by
        rw [List.length_append, List.length_replicate]
        omega
      rw [← List.append_assoc, byteAt_append_of_le _ (Nat.le_of_eq hlen), hlen]
      rfl
    have hclash := h.stale (List.replicate (3 - d.length) 0 ++ [0])
      (List.replicate (3 - d.length) 0 ++ [1])
    rw [dnsRespTtl_short (by omega), dnsRespTtl_short (by omega), hrcode, hrcode] at hclash
    exact absurd hclash (by decide)
  · intro hlen
    refine ⟨fun stale stale' => dnsRespTtl_congr hlen fun j hj => ?_, fun stale i fuel hf =>
      skipLabels_fuel (by omega) (by omega)⟩
    rw [byteAt_append_left stale hj, byteAt_append_left stale' hj]

/-- **Which responses are given the right time.**  A datagram `d` decides its own result from four
    bytes on.  A response whose names the walk can follow is given the right time unless all its
    answers have the time that stands for none; among the responses of a layout with a name that
    it cannot follow there is one that is given a wrong time. -/
theorem dnsRespTtl_right_iff (d : List UInt8) (qlen : Nat) (r : Response) :
    (DecidedBy d qlen ↔ 4 ≤ d.length) ∧ (r.Followed → (r.Right ↔ ¬ r.Saturated)) ∧
      (¬ r.Followed → ∃ r', r.SameLayout r' ∧ ¬ r'.Right) :=
  ⟨decidedBy_iff d qlen, right_iff_of_followed, exists_not_right⟩

/-- One answer of five minutes for the label `a` in front of the name of the question. -/
def relativeAnswer : Response where
  header := ⟨7#16, 0x81, 0x80, 0#16, 0#16⟩
  question := [1, 98, 0, 0, 1, 0, 1]
  answers := [⟨⟨[⟨[97], by decide, by decide⟩], .pointer 12⟩, 0x00010001#32, 300#32,
    [192, 168, 4, 2], by decide⟩]
  answers_lt := by decide
  rest := []

/-- It is kept for fifteen seconds. -/
theorem relativeAnswer_not_right : relativeAnswer.expected = 300 ∧
    dnsRespTtl relativeAnswer.encode relativeAnswer.encode.length 7 = 15 ∧
      ¬ ∀ r : Response, r.Right := by
  have hgives : dnsRespTtl relativeAnswer.encode relativeAnswer.encode.length 7 = 15 := by
    decide +kernel
  have hexpected : relativeAnswer.expected = 300 := by decide +kernel
  refine ⟨hexpected, hgives, fun h => ?_⟩
  have hright := h relativeAnswer []
  rw [hexpected, List.append_nil] at hright
  exact absurd (hgives.symm.trans hright) (by decide)

end SubnetRouter.Dns.Wire
