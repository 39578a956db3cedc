import Mathlib.Logic.Function.Basic
import SubnetRouter.Dns.Cache
import SubnetRouter.Lib.Memory

namespace SubnetRouter.Dns.CacheMap

open Lib

/-!
# The response cache as a partial map

The slots of the table keep their bytes in arrays of a fixed size.  A store writes over the front
of an array and leaves what an earlier, longer entry had behind it; a lookup compares and copies
as many bytes as the slot says.  The calls may come with any lengths and at any times.

* `cacheGet`, `cachePut` — the calls, on pointers and arrays.
* `Latest`, `FilledBy` — the store that a slot goes back to, and what the slot has of it.
* `run_filledBy` — the invariant over all runs.
* `cacheGet_eq_some_iff` — exactly when a lookup hits, and with which answer.
* `cacheGet_entry`, `cachePut_entry` — the bytes in use are those of `Cache`.
-/

/-! ### The calls -/

/-- `dns_cache_entry_t`, with its arrays as memory: a store leaves bytes of older ones behind its
    own. -/
structure Slot where
  /-- The deadline; `0` for an empty slot. -/
  expiryUs : Int
  keyLen : Nat
  respLen : Nat
  key : Memory
  resp : Memory

/-- `s_cache`; `none` when it, or its mutex, could not be allocated. -/
abbrev Table := Option (Fin dnsCacheEntries → Slot)

/-- The zeroed table, if there was memory for it. -/
def Table.start (allocated : Bool) : Table :=
  if allocated then some fun _ => ⟨0, 0, 0, fun _ => 0, fun _ => 0⟩ else none

theorem dnsCacheEntries_pos : 0 < dnsCacheEntries := by decide

/-- The slot of the `keyLen` bytes at `q + 12`. -/
def slotOf (q : Memory) (keyLen : Int) : Fin dnsCacheEntries :=
  ⟨(fnv1a (q.load 12 keyLen.toNat)).toNat % dnsCacheEntries, Nat.mod_lt _ dnsCacheEntries_pos⟩

/-- `out` and `*out_len` after a hit. -/
structure Hit where
  out : Memory
  outLen : Nat

/-- `cache_get` at the time `now`. The response is copied before the two bytes of the query's
    transaction id are written over it. -/
def cacheGet (table : Table) (q : Memory) (keyLen now : Int) (out : Memory) : Option Hit :=
  match table with
  | none => none
  | some slots =>
    let e := slots (slotOf q keyLen)
    if e.expiryUs ≠ 0 ∧ (e.keyLen : Int) = keyLen ∧ now < e.expiryUs ∧
        e.key.load 0 keyLen.toNat = q.load 12 keyLen.toNat then
      -- the client's transaction id
      some ⟨((out.store 0 (e.resp.load 0 e.respLen)).store 0 [q 0]).store 1 [q 1], e.respLen⟩
    else none

/-- The arguments of `cache_put`, and the time of the call, from which the deadline is counted. -/
structure Put where
  q : Memory
  keyLen : Int
  resp : Memory
  respLen : Int
  ttlS : UInt32
  now : Int

/-- The deadline of the entry. -/
def Put.expiryUs (p : Put) : Int := p.now + p.ttlS.toNat * 1000000

/-- `cache_put`. A key or a response that does not fit is not stored, and the slot keeps what it
    has. -/
def cachePut (table : Table) (p : Put) : Table :=
  match table with
  | none => none
  | some slots =>
    if p.keyLen ≤ 0 ∨ (dnsCacheKeyMax : Int) < p.keyLen then some slots
    else if p.respLen ≤ 0 ∨ (dnsRelayBufSize : Int) < p.respLen then some slots
    else
      let e := slots (slotOf p.q p.keyLen)
      some (Function.update slots (slotOf p.q p.keyLen)
        { expiryUs := p.expiryUs
          keyLen := p.keyLen.toNat % 65536
          key := e.key.store 0 (p.q.load 12 p.keyLen.toNat)
          respLen := p.respLen.toNat % 65536
          resp := e.resp.store 0 (p.resp.load 0 p.respLen.toNat) })

inductive Call
  | get (q : Memory) (keyLen now : Int) (out : Memory)
  | put (p : Put)

/-- The table behind a call. -/
def step (table : Table) : Call → Table
  | .get .. => table
  | .put p => cachePut table p

/-- The table behind a sequence of calls. -/
def run (allocated : Bool) (cs : List Call) : Table := cs.foldl step (Table.start allocated)

/-! ### What a table goes back to -/

/-- The store is not refused for its lengths. -/
def Put.Stores (p : Put) : Prop :=
  0 < p.keyLen ∧ p.keyLen ≤ dnsCacheKeyMax ∧ 0 < p.respLen ∧ p.respLen ≤ dnsRelayBufSize

/-- It is made under the `keyLen` bytes at `q + 12`. -/
def Put.Under (q : Memory) (keyLen : Int) (p : Put) : Prop :=
  p.keyLen = keyLen ∧ p.q.load 12 p.keyLen.toNat = q.load 12 keyLen.toNat

/-- It is carried out in the slot. -/
def Put.Into (s : Fin dnsCacheEntries) (p : Put) : Prop := p.Stores ∧ slotOf p.q p.keyLen = s

/-- The latest store with a property. -/
def Latest (P : Put → Prop) (cs : List Call) (p : Put) : Prop :=
  ∃ pre post, cs = pre ++ .put p :: post ∧ P p ∧ ∀ later, .put later ∈ post → ¬ P later

/-- What the client gets: the response of the store, with the first two bytes of the query. -/
structure Hit.Answers (h : Hit) (q : Memory) (p : Put) : Prop where
  length : (h.outLen : Int) = p.respLen
  bytes : h.out.load 0 h.outLen = ((p.resp.load 0 h.outLen).set 0 (q 0)).set 1 (q 1)

/-- The slot has the bytes of the store in front. Those behind them are of earlier stores. -/
structure Slot.FilledBy (e : Slot) (p : Put) : Prop where
  expiryUs : e.expiryUs = p.expiryUs
  keyLen : (e.keyLen : Int) = p.keyLen
  respLen : (e.respLen : Int) = p.respLen
  key : e.key.load 0 p.keyLen.toNat = p.q.load 12 p.keyLen.toNat
  resp : e.resp.load 0 p.respLen.toNat = p.resp.load 0 p.respLen.toNat

/-! ### Stores -/

variable {slots : Fin dnsCacheEntries → Slot} {s : Fin dnsCacheEntries} {p p' : Put} {c : Call}
  {cs : List Call} {P Q : Put → Prop} {q : Memory} {keyLen now : Int} {out : Memory} {h : Hit}

/-- The slot that a store makes of one. The lengths are kept in 16 bits, which the tests before have
    made enough. -/
def Slot.stored (e : Slot) (p : Put) : Slot where
  expiryUs := p.expiryUs
  keyLen := p.keyLen.toNat % 65536
  key := e.key.store 0 (p.q.load 12 p.keyLen.toNat)
  respLen := p.respLen.toNat % 65536
  resp := e.resp.store 0 (p.resp.load 0 p.respLen.toNat)

theorem cachePut_stores (hp : p.Stores) : cachePut (some slots) p =
    some (Function.update slots (slotOf p.q p.keyLen)
      ((slots (slotOf p.q p.keyLen)).stored p)) := by
  obtain ⟨hkey, hkey', hresp, hresp'⟩ := hp
  rw [cachePut]
  dsimp only
  rw [if_neg (by omega), if_neg (by omega)]
  rfl

theorem cachePut_refused (hp : ¬ p.Stores) : cachePut (some slots) p = some slots := by
  rw [cachePut]
  dsimp only
  split_ifs with hkey hresp
  · rfl
  · rfl
  · exact absurd ⟨by omega, by omega, by omega, by omega⟩ hp

/-- A store is read back from the front of the arrays, whatever they held. -/
theorem filledBy_stored (e : Slot) (hp : p.Stores) : (e.stored p).FilledBy p := by
  obtain ⟨hkey, hkey', hresp, hresp'⟩ := hp
  rw [dnsCacheKeyMax] at hkey'
  rw [dnsRelayBufSize] at hresp'
  have hread (m src : Memory) (off n : Nat) :
      (m.store 0 (src.load off n)).load 0 n = src.load off n := by
    have hself := Memory.load_store_self m 0 (src.load off n)
    rwa [Memory.length_load] at hself
  refine ⟨rfl, ?_, ?_, hread _ _ _ _, hread _ _ _ _⟩
  · change ((p.keyLen.toNat % 65536 : Nat) : Int) = p.keyLen
    omega
  · change ((p.respLen.toNat % 65536 : Nat) : Int) = p.respLen
    omega

/-! ### Runs -/

theorem run_snoc (allocated : Bool) (cs : List Call) (c : Call) :
    run allocated (cs ++ [c]) = step (run allocated cs) c := by
  rw [run, List.foldl_append]
  rfl

theorem latest_snoc_self (hp : P p) : Latest P (cs ++ [.put p]) p :=
  ⟨cs, [], rfl, hp, by simp⟩

/-- A call without the property leaves the latest store. -/
theorem Latest.snoc (hl : Latest P cs p) (hc : ∀ p', c = .put p' → ¬ P p') :
    Latest P (cs ++ [c]) p := by
  obtain ⟨pre, post, rfl, hp, hlater⟩ := hl
  refine ⟨pre, post ++ [c], by simp, hp, fun later hmem => ?_⟩
  rcases List.mem_append.mp hmem with hold | hnew
  · exact hlater later hold
  · exact hc later (List.mem_singleton.mp hnew).symm

/-- There is one latest store. -/
theorem Latest.unique (hl : Latest P cs p) (hl' : Latest P cs p') : p = p' := by
  obtain ⟨pre, post, rfl, hp, hlater⟩ := hl
  obtain ⟨pre', post', heq, hp', hlater'⟩ := hl'
  -- the one that is further to the right is later than the other
  rcases List.append_eq_append_iff.mp heq with ⟨mid, -, hmid⟩ | ⟨mid, -, hmid⟩
  · cases mid with
    | nil =>
      cases hmid
      rfl
    | cons c mid =>
      rw [List.cons_append, List.cons.injEq] at hmid
      refine absurd hp' (hlater p' ?_)
      rw [hmid.2]
      simp
  · cases mid with
    | nil =>
      cases hmid
      rfl
    | cons c mid =>
      rw [List.cons_append, List.cons.injEq] at hmid
      refine absurd hp (hlater' p ?_)
      rw [hmid.2]
      simp

/-- The latest store with a weaker property, if it has the stronger one. -/
theorem Latest.of_imp (hl : Latest Q cs p) (himp : ∀ p, P p → Q p) (hp : P p) : Latest P cs p := by
  obtain ⟨pre, post, rfl, -, hlater⟩ := hl
  exact ⟨pre, post, rfl, hp, fun later hmem hP => hlater later hmem (himp later hP)⟩

/-- What a slot has: the latest store carried out in it, or nothing. -/
def Settled (slots : Fin dnsCacheEntries → Slot) (cs : List Call) (s : Fin dnsCacheEntries) :
    Prop :=
  (∃ p, Latest (Put.Into s) cs p ∧ (slots s).FilledBy p) ∨
    ((∀ p, .put p ∈ cs → ¬ p.Into s) ∧ (slots s).expiryUs = 0)

theorem step_some (slots : Fin dnsCacheEntries → Slot) (c : Call) :
    ∃ slots', step (some slots) c = some slots' := by
  cases c with
  | get q keyLen now out => exact ⟨slots, rfl⟩
  | put p =>
    by_cases hp : p.Stores
    · exact ⟨_, cachePut_stores hp⟩
    · exact ⟨_, cachePut_refused hp⟩

/-- One call. A store settles the slot that its key falls on, and leaves the other slots settled by
    the calls before it. -/
theorem settled_step {slots' : Fin dnsCacheEntries → Slot} (hs : Settled slots cs s)
    (hstep : step (some slots) c = some slots') : Settled slots' (cs ++ [c]) s := by
  -- a call that is not carried out in this slot
  have hother (hsame : slots' s = slots s) (hc : ∀ p, c = .put p → ¬ p.Into s) :
      Settled slots' (cs ++ [c]) s := by
    rw [Settled, hsame]
    rcases hs with ⟨p, hl, hfilled⟩ | ⟨hnone, hempty⟩
    · exact .inl ⟨p, hl.snoc hc, hfilled⟩
    · refine .inr ⟨fun p hp => ?_, hempty⟩
      rcases List.mem_append.mp hp with hold | hnew
      · exact hnone p hold
      · exact hc p (List.mem_singleton.mp hnew).symm
  cases c with
  | get q keyLen now out =>
    cases hstep
    exact hother rfl fun p hp => by cases hp
  | put p =>
    rw [step] at hstep
    by_cases hp : p.Stores
    · rw [cachePut_stores hp] at hstep
      cases hstep
      by_cases hslot : slotOf p.q p.keyLen = s
      · refine .inl ⟨p, latest_snoc_self ⟨hp, hslot⟩, ?_⟩
        rw [hslot, Function.update_self]
        exact filledBy_stored _ hp
      · refine hother (Function.update_of_ne (Ne.symm hslot) _ _) fun p' hp' hinto => ?_
        cases hp'
        exact hslot hinto.2
    · rw [cachePut_refused hp] at hstep
      cases hstep
      refine hother rfl fun p' hp' hinto => ?_
      cases hp'
      exact hp hinto.1

/-- **Every slot goes back to the latest store carried out in it.** -/
theorem run_settled (cs : List Call) :
    ∃ slots, run true cs = some slots ∧ ∀ s, Settled slots cs s := by
  induction cs using List.reverseRecOn with
  | nil => exact ⟨_, rfl, fun s => .inr ⟨by simp, rfl⟩⟩
  | append_singleton cs c ih =>
    obtain ⟨slots, hrun, hs⟩ := ih
    obtain ⟨slots', hstep⟩ := step_some slots c
    refine ⟨slots', ?_, fun s => settled_step (hs s) hstep⟩
    rw [run_snoc, hrun, hstep]

/-- Without memory for the table there is none. -/
theorem run_unallocated (cs : List Call) : run false cs = none := by
  induction cs using List.reverseRecOn with
  | nil => rfl
  | append_singleton cs c ih =>
    rw [run_snoc, ih]
    cases c <;> rfl

/-! ### Lookups -/

/-- The same bytes have the same slot. -/
theorem slotOf_eq (hp : p.Under q keyLen) : slotOf p.q p.keyLen = slotOf q keyLen := by
  rw [slotOf]
  simp only [hp.2]
  rfl

/-- The two bytes of the transaction id go over the front of what was copied. -/
theorem load_answer (out : Memory) (resp : List UInt8) (a b : UInt8) :
    (((out.store 0 resp).store 0 [a]).store 1 [b]).load 0 resp.length
      = (resp.set 0 a).set 1 b := by
  apply List.ext_getElem
  · simp
  · intro k hk hk'
    rw [Memory.length_load] at hk
    simp only [Memory.load, List.getElem_map, List.getElem_range, Nat.zero_add, List.getElem_set]
    -- Bytes 1 and 0 were written last; the others are those of the response.
    by_cases h1 : k = 1
    · subst h1
      exact @Memory.store_self _ 1 [b] 0 (by simp)
    · rw [if_neg (Ne.symm h1),
        Memory.store_disjoint _ (by simp only [List.length_singleton]; omega)]
      by_cases h0 : k = 0
      · subst h0
        exact @Memory.store_self _ 0 [a] 0 (by simp)
      · rw [if_neg (Ne.symm h0),
          Memory.store_disjoint _ (by simp only [List.length_singleton]; omega)]
        have hself := Memory.store_self out 0 hk
        rw [Nat.zero_add] at hself
        rw [hself, byteAt, List.getD_eq_getElem?_getD, List.getElem?_eq_getElem hk,
          Option.getD_some]

/-- What a client gets that asks again for what was stored. -/
def Put.answer (p : Put) (q out : Memory) : Hit :=
  ⟨((out.store 0 (p.resp.load 0 p.respLen.toNat)).store 0 [q 0]).store 1 [q 1], p.respLen.toNat⟩

theorem answers_answer (hp : 0 < p.respLen) (q out : Memory) : (p.answer q out).Answers q p := by
  have hbytes := load_answer out (p.resp.load 0 p.respLen.toNat) (q 0) (q 1)
  rw [Memory.length_load] at hbytes
  exact ⟨Int.toNat_of_nonneg (by omega), hbytes⟩

/-- **When a lookup hits**: the latest store carried out in the slot of the question was made
    under this question, and has not expired. -/
theorem cacheGet_eq_some_iff (cs : List Call) : cacheGet (run true cs) q keyLen now out = some h ↔
    ∃ p, Latest (Put.Into (slotOf q keyLen)) cs p ∧ p.Under q keyLen ∧ p.expiryUs ≠ 0 ∧
      now < p.expiryUs ∧ h = p.answer q out := by
  obtain ⟨slots, hrun, hs⟩ := run_settled cs
  rw [hrun, cacheGet, Option.ite_none_right_eq_some, Option.some.injEq]
  rcases hs (slotOf q keyLen) with ⟨p, hl, hfilled⟩ | ⟨hnone, hempty⟩
  · -- the slot and the store say the same
    have hlen : (slots (slotOf q keyLen)).respLen = p.respLen.toNat := by
      have hrespLen := hfilled.respLen
      omega
    rw [hfilled.expiryUs, hfilled.keyLen, hlen, hfilled.resp]
    constructor
    · rintro ⟨⟨hlive, hkeyLen, hnow, hkey⟩, rfl⟩
      subst hkeyLen
      exact ⟨p, hl, ⟨rfl, hfilled.key.symm.trans hkey⟩, hlive, hnow, rfl⟩
    · rintro ⟨p', hl', hunder, hlive, hnow, rfl⟩
      obtain rfl := hl.unique hl'
      obtain ⟨rfl, hkey⟩ := hunder
      exact ⟨⟨hlive, rfl, hnow, hfilled.key.trans hkey⟩, rfl⟩
  · constructor
    · rintro ⟨⟨hlive, -⟩, -⟩
      exact absurd hempty hlive
    · rintro ⟨p, ⟨pre, post, rfl, hinto, -⟩, -⟩
      exact absurd hinto (hnone p (by simp))

/-- A store into another slot is not seen. -/
theorem cacheGet_cachePut_of_ne (table : Table) (hne : slotOf p.q p.keyLen ≠ slotOf q keyLen) :
    cacheGet (cachePut table p) q keyLen now out = cacheGet table q keyLen now out := by
  cases table with
  | none => rfl
  | some slots =>
    by_cases hp : p.Stores
    · rw [cachePut_stores hp, cacheGet, cacheGet, Function.update_of_ne (Ne.symm hne)]
    · rw [cachePut_refused hp]

/-- **The cache is a partial map.**  After any calls a lookup hits exactly when the latest store
    carried out in the slot of its question was made under the same question and has not expired.
    That store is the latest one under this question, and the client gets its response, with the
    transaction id of the query.  A store does not change what the other slots return. -/
theorem cache_partial_map (allocated : Bool) (cs : List Call) (q : Memory) (keyLen now : Int)
    (out : Memory) :
    (∀ h, cacheGet (run allocated cs) q keyLen now out = some h →
      ∃ p, Latest (fun p => p.Stores ∧ p.Under q keyLen) cs p ∧ now < p.expiryUs ∧
        h.Answers q p) ∧
    ((∃ h, cacheGet (run allocated cs) q keyLen now out = some h) ↔ allocated = true ∧
      ∃ p, Latest (Put.Into (slotOf q keyLen)) cs p ∧ p.Under q keyLen ∧ p.expiryUs ≠ 0 ∧
        now < p.expiryUs) ∧
    (∀ p : Put, slotOf p.q p.keyLen ≠ slotOf q keyLen →
      cacheGet (cachePut (run allocated cs) p) q keyLen now out
        = cacheGet (run allocated cs) q keyLen now out) := by
  refine ⟨fun h hget => ?_, ?_, fun p => cacheGet_cachePut_of_ne _⟩
  -- Without its memory the cache never hits, and the calls do nothing.
  · cases allocated with
    | false =>
      rw [run_unallocated] at hget
      cases hget
    | true =>
      -- The slot holds the latest store into it; a hit compares its question.
      obtain ⟨p, hl, hunder, -, hnow, rfl⟩ := (cacheGet_eq_some_iff cs).mp hget
      have hinto : p.Into (slotOf q keyLen) := by
        obtain ⟨-, -, -, hp, -⟩ := hl
        exact hp
      refine ⟨p, hl.of_imp (fun p hp => ⟨hp.1, slotOf_eq hp.2⟩) ⟨hinto.1, hunder⟩, hnow, ?_⟩
      exact answers_answer hinto.1.2.2.1 q out
  · cases allocated with
    | false =>
      rw [run_unallocated]
      simp [cacheGet]
    | true =>
      constructor
      · rintro ⟨h, hget⟩
        obtain ⟨p, hl, hunder, hlive, hnow, -⟩ := (cacheGet_eq_some_iff cs).mp hget
        exact ⟨rfl, p, hl, hunder, hlive, hnow⟩
      · rintro ⟨-, p, hl, hunder, hlive, hnow⟩
        exact ⟨_, (cacheGet_eq_some_iff cs).mpr ⟨p, hl, hunder, hlive, hnow, rfl⟩⟩

/-- A question, stored with a response of three bytes and again with one of none. -/
def refilled : List Call :=
  [.put ⟨fun _ => 0, 5, fun _ => 7, 3, 60, 1⟩, .put ⟨fun _ => 0, 5, fun _ => 7, 0, 60, 2⟩]

/-- The second call is refused and the first response is still served. -/
theorem refused_not_latest : ¬ ∀ (cs : List Call) (q : Memory) (keyLen now : Int) (out : Memory) h,
    cacheGet (run true cs) q keyLen now out = some h →
      ∃ p, Latest (Put.Under q keyLen) cs p ∧ now < p.expiryUs ∧ h.Answers q p := by
  intro hall
  have hhit : ∃ h, cacheGet (run true refilled) (fun _ => 0) 5 3 (fun _ => 0) = some h ∧
      h.outLen = 3 := ⟨_, rfl, rfl⟩
  obtain ⟨h, hget, hlen⟩ := hhit
  obtain ⟨p, hl, -, hanswers⟩ := hall _ _ _ _ _ h hget
  have hlast : Latest (Put.Under (fun _ => 0) 5) refilled ⟨fun _ => 0, 5, fun _ => 7, 0, 60, 2⟩ :=
    ⟨[_], [], rfl, ⟨rfl, rfl⟩, by simp⟩
  have hzero := hanswers.length
  rw [hl.unique hlast, hlen] at hzero
  exact absurd hzero (by decide)

/-! ### The table of the relay -/

/-- The bytes in use. -/
def Slot.entry (e : Slot) : CacheEntry :=
  ⟨e.expiryUs.toNat, e.key.load 0 e.keyLen, e.resp.load 0 e.respLen⟩

/-- The table, slot by slot. -/
def entries (slots : Fin dnsCacheEntries → Slot) : List CacheEntry :=
  List.ofFn fun i => (slots i).entry

variable {l resp : List UInt8} {kl t ttlS : Nat}

/-- The question of a received message. -/
theorem load_byteAt (hl : 12 + kl ≤ l.length) :
    Memory.load (byteAt l) 12 kl = question l kl := by
  rw [question, take_drop_eq_map hl]
  rfl

theorem slotOf_byteAt (hl : 12 + kl ≤ l.length) : (slotOf (byteAt l) kl).val = cacheSlot l kl := by
  rw [slotOf, cacheSlot]
  simp only [Int.toNat_natCast, load_byteAt hl]

theorem entries_slot (slots : Fin dnsCacheEntries → Slot) (i : Fin dnsCacheEntries) :
    (entries slots)[i.val]? = some (slots i).entry := by
  rw [entries, List.getElem?_ofFn, dif_pos i.isLt]

/-- Writing over the front, and putting in front. -/
theorem set_two_eq (l : List UInt8) (a b : UInt8) :
    (l.set 0 a).set 1 b = (a :: b :: l.drop 2).take l.length := by
  rcases l with _ | ⟨x, _ | ⟨y, l⟩⟩
  · rfl
  · rfl
  · simp

/-- **A lookup** gives the client the bytes that it gives in the relay. The relay's cache has lists
    of bytes, and this one memory with lengths. -/
theorem cacheGet_entry (hl : 12 + kl ≤ l.length) (hpos : ∀ i, 0 ≤ (slots i).expiryUs)
    (out : Memory) :
    (cacheGet (some slots) (byteAt l) kl t out).map (fun h => h.out.load 0 h.outLen)
      = Dns.cacheGet (some (entries slots)) l kl t := by
  have hslot := entries_slot slots (slotOf (byteAt l) kl)
  rw [slotOf_byteAt hl] at hslot
  rw [cacheGet, Dns.cacheGet, hslot]
  generalize he : slots (slotOf (byteAt l) kl) = e
  have hexpiry : 0 ≤ e.expiryUs := he ▸ hpos _
  rw [Int.toNat_natCast, load_byteAt hl]
  -- A stored length other than the query's fails both comparisons.
  by_cases hlen : e.keyLen = kl
  · have hbytes := load_answer out (e.resp.load 0 e.respLen) (byteAt l 0) (byteAt l 1)
    rw [Memory.length_load] at hbytes
    -- An expiry is never negative here, so both spellings test the same.
    have hlive : e.entry.expiryUs ≠ 0 ↔ e.expiryUs ≠ 0 := by
      change e.expiryUs.toNat ≠ 0 ↔ _
      omega
    have hnow : t < e.entry.expiryUs ↔ (t : Int) < e.expiryUs := by
      change t < e.expiryUs.toNat ↔ _
      omega
    have hkey : e.entry.key = e.key.load 0 kl := by rw [Slot.entry, hlen]
    have hkeyLen' : (e.keyLen : Int) = kl := congrArg Nat.cast hlen
    have hresp : e.entry.resp = e.resp.load 0 e.respLen := rfl
    simp only [hlive, hnow, hkeyLen', hkey, hresp, Memory.length_load, true_and]
    split_ifs
    · rw [Option.map_some, hbytes, set_two_eq, Memory.length_load]
    · rfl
  · have hkeyLen : e.entry.key.length ≠ kl := by rwa [Slot.entry, Memory.length_load]
    have hkeyLen' : (e.keyLen : Int) ≠ kl := fun h => hlen (Int.ofNat_inj.mp h)
    simp only [hkeyLen, hkeyLen', false_and, and_false, if_false, Option.map_none]

/-- One slot is replaced. -/
theorem entries_update (slots : Fin dnsCacheEntries → Slot) (i : Fin dnsCacheEntries) (e : Slot) :
    entries (Function.update slots i e) = (entries slots).set i.val e.entry := by
  apply List.ext_getElem
  · simp [entries]
  · intro k hk hk'
    simp only [entries, List.getElem_set, List.getElem_ofFn]
    by_cases hki : i.val = k
    · subst hki
      rw [if_pos rfl, Function.update_self]
    · rw [if_neg hki, Function.update_of_ne (fun h => hki (congrArg Fin.val h).symm)]

/-- **A store** is the one of the relay. What the relay's cache refuses is refused here, for the
    same reasons. -/
theorem cachePut_entry (hl : 12 + kl ≤ l.length) (ttlS : UInt32) :
    (cachePut (some slots) ⟨byteAt l, kl, byteAt resp, resp.length, ttlS, t⟩).map entries
      = Dns.cachePut (some (entries slots)) l kl resp ttlS.toNat t := by
  have hkey : ((kl : Int) ≤ 0 ∨ (dnsCacheKeyMax : Int) < kl) ↔ (kl = 0 ∨ dnsCacheKeyMax < kl) := by
    omega
  have hresp : ((resp.length : Int) ≤ 0 ∨ (dnsRelayBufSize : Int) < resp.length) ↔
      (resp.length = 0 ∨ dnsRelayBufSize < resp.length) := by
    omega
  rw [cachePut, Dns.cachePut]
  dsimp only
  simp only [hkey, hresp]
  split_ifs with hbad hbad'
  · rfl
  · rfl
  · -- both lengths are in bounds, so the copies are the question and the response
    rw [dnsCacheKeyMax] at hbad
    rw [dnsRelayBufSize] at hbad'
    have hread (m : Memory) (bs : List UInt8) : (m.store 0 bs).load 0 bs.length = bs :=
      Memory.load_store_self m 0 bs
    have hquestion : (question l kl).length = kl := by
      rw [question, List.length_take, List.length_drop]
      omega
    have hwhole : Memory.load (byteAt resp) 0 resp.length = resp := by
      have htake := take_drop_eq_map (l := resp) (i := 0) (n := resp.length) (by omega)
      rw [List.drop_zero, List.take_length] at htake
      exact htake.symm
    have hexpiry : Put.expiryUs ⟨byteAt l, kl, byteAt resp, resp.length, ttlS, t⟩
        = ((t + ttlS.toNat * 1000000 : Nat) : Int) := by
      rw [Put.expiryUs, Int.natCast_add, Int.natCast_mul]
      rfl
    have hkl : kl % 65536 = kl := Nat.mod_eq_of_lt (by omega)
    have hrl : resp.length % 65536 = resp.length := Nat.mod_eq_of_lt (by omega)
    rw [Option.map_some, entries_update, slotOf_byteAt hl, Slot.entry]
    simp only [hexpiry, Int.toNat_natCast, load_byteAt hl, hwhole, hkl, hrl, hread]
    have hfront := hread (slots (slotOf (byteAt l) kl)).key (question l kl)
    rw [hquestion] at hfront
    rw [hfront]

end SubnetRouter.Dns.CacheMap
