import SubnetRouter.Lib.Bytes

namespace SubnetRouter.Dns

open Lib

/-!
# DNS messages (`components/dns_relay/dns_relay.c`)

What the relay reads in a DNS message, of which it knows a buffer and the length received: a
question section it can use as a cache key, and the time to live of an answer.

* `dnsQuestionLen`, `dnsIsStdQuery`, `dnsRespTtl`.
* `questionEnd_fuel`, `skipLabels_fuel` — the bounds on their loops are never reached.
* `question_length` — the question section lies inside the message.
-/

/-- `DNS_RELAY_BUF_SIZE`, `DNS_CACHE_KEY_MAX`. -/
def dnsRelayBufSize : Nat := 1024

def dnsCacheKeyMax : Nat := 256

/-- `DNS_CACHE_TTL_MIN_S`, `DNS_CACHE_TTL_MAX_S`, `DNS_CACHE_TTL_NEG_S`. -/
def dnsCacheTtlMinS : Nat := 10

def dnsCacheTtlMaxS : Nat := 3600

def dnsCacheTtlNegS : Nat := 15

/-! ### The question section -/

/-- The loop of `dns_question_len` from index `i`: where the question ends, or `none` for a
    compression pointer. -/
def questionEnd (p : List UInt8) (len : Nat) : Nat → Nat → Option Nat
  | 0, i => some i
  | fuel + 1, i =>
    if i < len then
      if byteAt p i = 0 then some (i + 1 + 4)
      else if byteAt p i &&& 0xC0 ≠ 0 then none
      else questionEnd p len fuel (i + 1 + (byteAt p i).toNat)
    else some i

/-- `dns_question_len`. The length counts from behind the header, and is 0 for every question that
    is not to be cached. -/
def dnsQuestionLen (p : List UInt8) (len : Nat) : Nat :=
  if len < 12 + 5 then 0
  else
    match questionEnd p len len 12 with
    | none => 0
    | some i =>
      if len < i then 0
      else if 5 ≤ i - 12 ∧ i - 12 ≤ dnsCacheKeyMax then i - 12 else 0

/-- `dns_is_std_query`: a query with the standard opcode and exactly one question. The questions
    themselves are not looked at. -/
def dnsIsStdQuery (p : List UInt8) (len : Nat) : Bool :=
  if len < 12 then false
  else if byteAt p 2 &&& 0x80 ≠ 0 then false
  else if (byteAt p 2 >>> 3) &&& 0x0F ≠ 0 then false
  else be16 p 4 == 1

/-- `kl` in the listener and in a worker: the length of the question of a cacheable query. -/
def keyLen (q : List UInt8) : Nat :=
  if dnsIsStdQuery q q.length then dnsQuestionLen q q.length else 0

/-- The `kl` bytes behind the header. -/
def question (p : List UInt8) (kl : Nat) : List UInt8 := (p.drop 12).take kl

/-! ### The time to live -/

/-- The label loop of `dns_resp_ttl`. -/
def skipLabels (p : List UInt8) (len : Nat) : Nat → Nat → Nat
  | 0, i => i
  | fuel + 1, i =>
    if i < len ∧ byteAt p i ≠ 0 then skipLabels p len fuel (i + 1 + (byteAt p i).toNat) else i

/-- The answer loop of `dns_resp_ttl`: the least time to live, or `none` for a record that runs
    over the end. -/
def answerTtl (p : List UInt8) (len : Nat) : Nat → Nat → Nat → Option Nat
  | 0, _, minttl => some minttl
  | an + 1, i, minttl =>
    if len < i + 1 then none
    else
      let i := if byteAt p i &&& 0xC0 = 0xC0 then i + 2 else skipLabels p len len i + 1
      if len < i + 10 then none
      else
        let ttl := (be32 p (i + 4)).toNat
        let rdlen := be16 p (i + 8)
        answerTtl p len an (i + 10 + rdlen) (if ttl < minttl then ttl else minttl)

/-- `dns_resp_ttl`. Only an answer and a missing name are cached; records that cannot be read to the
    end have the negative time to live. -/
def dnsRespTtl (p : List UInt8) (len qlen : Nat) : Nat :=
  let rcode := byteAt p 3 &&& 0x0F
  if rcode ≠ 0 ∧ rcode ≠ 3 then 0
  else
    let an := be16 p 6
    if an = 0 then dnsCacheTtlNegS
    else
      match answerTtl p len an (12 + qlen) 0xFFFFFFFF with
      | none => dnsCacheTtlNegS
      | some minttl =>
        if minttl = 0xFFFFFFFF then dnsCacheTtlNegS
        else if minttl < dnsCacheTtlMinS then dnsCacheTtlMinS
        else if dnsCacheTtlMaxS < minttl then dnsCacheTtlMaxS
        else minttl

/-! ### Facts -/

variable {p q : List UInt8} {len i fuel fuel' : Nat}

/-- The loop over the question ends by itself: every turn moves on. -/
theorem questionEnd_fuel (h : len ≤ i + fuel) (h' : len ≤ i + fuel') :
    questionEnd p len fuel i = questionEnd p len fuel' i := by
  induction fuel generalizing i fuel' with
  | zero =>
    have hend : ¬ i < len := by omega
    cases fuel' with
    | zero => rfl
    | succ fuel' => rw [questionEnd, questionEnd, if_neg hend]
  | succ fuel ih =>
    cases fuel' with
    | zero =>
      have hend : ¬ i < len := by omega
      rw [questionEnd, questionEnd, if_neg hend]
    | succ fuel' =>
      have hnext : questionEnd p len fuel (i + 1 + (byteAt p i).toNat) =
          questionEnd p len fuel' (i + 1 + (byteAt p i).toNat) := ih (by omega) (by omega)
      rw [questionEnd, questionEnd, hnext]

/-- So does the loop over the labels of an answer. -/
theorem skipLabels_fuel (h : len ≤ i + fuel) (h' : len ≤ i + fuel') :
    skipLabels p len fuel i = skipLabels p len fuel' i := by
  induction fuel generalizing i fuel' with
  | zero =>
    have hend : ¬ (i < len ∧ byteAt p i ≠ 0) := by omega
    cases fuel' with
    | zero => rfl
    | succ fuel' => rw [skipLabels, skipLabels, if_neg hend]
  | succ fuel ih =>
    cases fuel' with
    | zero =>
      have hend : ¬ (i < len ∧ byteAt p i ≠ 0) := by omega
      rw [skipLabels, skipLabels, if_neg hend]
    | succ fuel' =>
      have hnext : skipLabels p len fuel (i + 1 + (byteAt p i).toNat) =
          skipLabels p len fuel' (i + 1 + (byteAt p i).toNat) := ih (by omega) (by omega)
      rw [skipLabels, skipLabels, hnext]

/-- A question found ends inside the message and is at most as long as a cache key. -/
theorem dnsQuestionLen_le (h : 0 < dnsQuestionLen p len) :
    12 + dnsQuestionLen p len ≤ len ∧ dnsQuestionLen p len ≤ dnsCacheKeyMax := by
  revert h
  unfold dnsQuestionLen
  split
  · simp
  · split
    · simp
    · split
      · simp
      · split
        · rename_i hlen hrange
          intro _
          omega
        · simp

theorem keyLen_le (h : 0 < keyLen q) : 12 + keyLen q ≤ q.length ∧ keyLen q ≤ dnsCacheKeyMax := by
  revert h
  unfold keyLen
  split
  · exact dnsQuestionLen_le
  · simp

/-- The question section lies inside the message. -/
theorem question_length (h : 0 < keyLen q) : (question q (keyLen q)).length = keyLen q := by
  have hle := (keyLen_le h).1
  rw [question, List.length_take, List.length_drop]
  omega

/-- An answer is not cached, or for ten seconds to an hour. -/
theorem dnsRespTtl_range (qlen : Nat) : dnsRespTtl p len qlen = 0 ∨
    dnsCacheTtlMinS ≤ dnsRespTtl p len qlen ∧ dnsRespTtl p len qlen ≤ dnsCacheTtlMaxS := by
  have hneg : dnsCacheTtlMinS ≤ dnsCacheTtlNegS ∧ dnsCacheTtlNegS ≤ dnsCacheTtlMaxS := by decide
  have hmax : dnsCacheTtlMinS ≤ dnsCacheTtlMaxS := by decide
  unfold dnsRespTtl
  dsimp only
  split
  · exact .inl rfl
  · right
    split
    · exact hneg
    · split
      · exact hneg
      -- the least time to live of the answers, clamped
      · split
        · exact hneg
        · split
          · exact ⟨Nat.le_refl _, hmax⟩
          · split
            · exact ⟨hmax, Nat.le_refl _⟩
            · omega

end SubnetRouter.Dns
