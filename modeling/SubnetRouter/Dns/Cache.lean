import SubnetRouter.Dns.Message
import SubnetRouter.Lib.Table

namespace SubnetRouter.Dns

open Lib

/-!
# The response cache of the relay

A direct-mapped table: a question has one slot, found by its hash, and the slot remembers the
question it was filled for.

* `cacheGet`, `cachePut`.
* `cacheGet_eq_some` — a hit is a live entry for this very question, under the client's
  transaction id.
* `live_cachePut` — a live entry was there before or is the one stored.
-/

/-- `DNS_CACHE_ENTRIES`. -/
def dnsCacheEntries : Nat := 256

/-- `dns_cache_entry_t`, with the bytes of the key and of the response in use. What the arrays hold
    behind them does not count. -/
structure CacheEntry where
  /-- The deadline; `0` for an empty slot. -/
  expiryUs : Nat
  key : List UInt8
  resp : List UInt8
deriving DecidableEq, Repr

/-- `s_cache`; `none` when it, or its mutex, could not be allocated. -/
abbrev Cache := Option (List CacheEntry)

/-- A zeroed table. -/
def Cache.empty : Cache := some (List.replicate dnsCacheEntries ⟨0, [], []⟩)

/-- The entry stands in the table. -/
def Cache.Live (cache : Cache) (e : CacheEntry) : Prop :=
  ∃ entries, cache = some entries ∧ e ∈ entries ∧ e.expiryUs ≠ 0

/-- `fnv1a`. -/
def fnv1a (d : List UInt8) : UInt32 :=
  d.foldl (fun h b => (h ^^^ b.toUInt32) * 16777619) 2166136261

/-- The slot of a question. -/
def cacheSlot (q : List UInt8) (kl : Nat) : Nat := (fnv1a (question q kl)).toNat % dnsCacheEntries

/-- `cache_get`: the response, with the first two bytes of the query written over its own. The slot
    is chosen by the hash, and the key compared in full. -/
def cacheGet (cache : Cache) (q : List UInt8) (kl now : Nat) : Option (List UInt8) :=
  match cache with
  | none => none
  | some entries =>
    match entries[cacheSlot q kl]? with
    | none => none
    | some e =>
      if e.expiryUs ≠ 0 ∧ e.key.length = kl ∧ now < e.expiryUs ∧ e.key = question q kl then
        some ((byteAt q 0 :: byteAt q 1 :: e.resp.drop 2).take e.resp.length)
      else none

/-- `cache_put`. Whatever was in the slot is replaced, also when it was for another question and has
    not expired. -/
def cachePut (cache : Cache) (q : List UInt8) (kl : Nat) (resp : List UInt8) (ttlS now : Nat) :
    Cache :=
  match cache with
  | none => none
  | some entries =>
    if kl = 0 ∨ dnsCacheKeyMax < kl then some entries
    else if resp.length = 0 ∨ dnsRelayBufSize < resp.length then some entries
    else some (entries.set (cacheSlot q kl) ⟨now + ttlS * 1000000, question q kl, resp⟩)

variable {cache : Cache} {q resp d : List UInt8} {kl ttlS now : Nat} {e : CacheEntry}

/-- A new table holds nothing. -/
theorem not_live_empty : ¬ Cache.empty.Live e := by
  rintro ⟨entries, heq, he, hlive⟩
  cases heq
  rw [List.eq_of_mem_replicate he] at hlive
  exact hlive rfl

/-- **A hit** is the response of a live entry with this question. -/
theorem cacheGet_eq_some (h : cacheGet cache q kl now = some d) :
    ∃ e, cache.Live e ∧ e.key = question q kl ∧
      d = (byteAt q 0 :: byteAt q 1 :: e.resp.drop 2).take e.resp.length := by
  unfold cacheGet at h
  split at h
  · cases h
  · rename_i entries
    split at h
    · cases h
    · rename_i e hslot
      rw [Option.ite_none_right_eq_some, Option.some.injEq] at h
      obtain ⟨⟨hlive, -, -, hkey⟩, rfl⟩ := h
      exact ⟨e, ⟨entries, rfl, List.mem_of_getElem? hslot, hlive⟩, hkey, rfl⟩

/-- **A live entry after a store** was there before, or is the one stored. -/
theorem live_cachePut (h : (cachePut cache q kl resp ttlS now).Live e) :
    cache.Live e ∨ (e.key = question q kl ∧ e.resp = resp) := by
  obtain ⟨entries', heq, hmem, hlive⟩ := h
  unfold cachePut at heq
  split at heq
  · cases heq
  · split at heq
    · cases heq
      exact .inl ⟨_, rfl, hmem, hlive⟩
    · split at heq
      · cases heq
        exact .inl ⟨_, rfl, hmem, hlive⟩
      · cases heq
        rcases mem_set_of hmem with rfl | hold
        · exact .inr ⟨rfl, rfl⟩
        · exact .inl ⟨_, rfl, hold, hlive⟩

end SubnetRouter.Dns
