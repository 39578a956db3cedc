import Mathlib.Logic.Function.Basic
import SubnetRouter.Lib.Run
import SubnetRouter.Web.Password

namespace SubnetRouter.Web

open Lib

/-!
# The fast cache under concurrency

Any number of tasks call `verify_web_password` and `set_web_password_hashed`.  The atomic steps
are the NVS read, the NVS write and the critical sections of the fast cache; between them
lies the hashing.  A verify stores what it verified, and a set what it wrote, without looking
at the record again.

* `PasswordStore.step` — one atomic step of a task.
* `PasswordStore.Current` — a store into the cache is still about the record in NVS, and a clear
  finds the cache invalid.
* `cache_coherent` — under this condition the cache agrees with NVS while no set is in
  progress, and no verify accepts a password that a finished set has replaced.
-/

/-! ### The steps -/

/-- Where a task stands; a record is the one its call has read or written. What other tasks do
    meanwhile may make it an old one. -/
inductive Phase where
  /-- Not in either function. -/
  | idle
  /-- In `verify_web_password`, before `nvs_dup_str`. -/
  | reading (p : Plaintext)
  /-- In `verify_web_password`, the record verified, before `fast_cache_store`. -/
  | caching (p : Plaintext) (record : List Char)
  /-- In `verify_web_password`, a legacy record verified, before the nested set. -/
  | upgrading (p : Plaintext) (record : List Char)
  /-- In `set_web_password_hashed`, before the NVS write; the legacy record, if nested. -/
  | writing (p : Plaintext) (legacy : Option (List Char))
  /-- In `set_web_password_hashed`, before `fast_cache_store`; the length of the write log then. -/
  | seeding (p : Plaintext) (record : List Char) (mark : Nat)

/-- The task is inside `set_web_password_hashed`. -/
def Phase.inSet : Phase → Bool
  | .writing _ _ => true
  | .seeding _ _ _ => true
  | _ => false

/-- One atomic step of a task. The reads and writes of NVS, and those of the cache, are atomic by
    themselves. -/
inductive CacheStep where
  | verify (p : Plaintext)
  | read (o : ReadOutcome) (md : Bool)
  | store (salt : List UInt8)
  | set (p : Plaintext)
  | invalidate
  | write (md : Bool) (salt : List UInt8) (ok : Bool)
  | seed (salt : List UInt8)

/-- NVS, the fast cache (salt and hash, if valid), the tasks; and for the record, the
    passwords written so far, newest first, and those replaced by a set that has returned
    `ESP_OK` and not written again since. -/
structure PasswordStore where
  nvs : Option (List Char)
  cache : Option (List UInt8 × List UInt8)
  tasks : Nat → Phase
  log : List Plaintext
  revoked : Plaintext → Prop

namespace PasswordStore

/-- The task goes on to another phase. -/
def goto (s : PasswordStore) (task : Nat) (ph : Phase) : PasswordStore :=
  { s with tasks := Function.update s.tasks task ph }

/-- `fast_cache_matches`. -/
def fastCacheMatches (c : Crypto) (s : PasswordStore) (p : Plaintext) : Bool :=
  match s.cache with
  | none => false
  | some (salt, expected) => computeHash c salt p == expected

/-- `fast_cache_store` with its random salt. -/
def fastCacheStore (c : Crypto) (s : PasswordStore) (salt : List UInt8) (p : Plaintext) :
    PasswordStore :=
  { s with cache := some (salt, computeHash c salt p) }

/-- `fast_cache_invalidate`. -/
def fastCacheInvalidate (s : PasswordStore) : PasswordStore := { s with cache := none }

/-- What `set_web_password_hashed` writes: the empty string for a clear, a record for a
    password; `none` when the hash cannot be computed. -/
def recordToWrite (c : Crypto) (md : Bool) (salt : List UInt8) (p : Plaintext) :
    Option (List Char) :=
  if p.isEmpty then some []
  else (computePbkdf2 c md salt p pwPbkdf2Iters).map (formatRecord salt)

/-- A set that fails: a nested one falls back to storing what the verify has verified. -/
def afterFailure (p : Plaintext) : Option (List Char) → Phase
  | none => .idle
  | some record => .caching p record

/-- A clear has written: it returns at once. From then on every password counts as revoked. -/
def cleared (s : PasswordStore) (task : Nat) : PasswordStore :=
  { s with
    nvs := some []
    log := [] :: s.log
    revoked := fun _ => True }.goto task .idle

/-- A set has written the record of a password. The cache is seeded in a step of its own, when
    another set may have come in between. -/
def written (s : PasswordStore) (task : Nat) (p : Plaintext) (record : List Char) :
    PasswordStore :=
  { s with
    nvs := some record
    log := p :: s.log
    revoked := fun q => s.revoked q ∧ q ≠ p }.goto task (.seeding p record (s.log.length + 1))

/-- A set returns: it has replaced every other password that was not written since. -/
def returned (s : PasswordStore) (task : Nat) (p : Plaintext) (mark : Nat) : PasswordStore :=
  { s with
    revoked := fun q =>
      s.revoked q ∨ q ≠ p ∧ q ∉ s.log.take (s.log.length - mark) }.goto task .idle

/-- One step of one task; `none` where the task is not there. Any number of tasks are in these
    functions at once. -/
def step (c : Crypto) (s : PasswordStore) (task : Nat) (a : CacheStep) : Option PasswordStore :=
  match s.tasks task, a with
  | .idle, .verify p =>
    if s.fastCacheMatches c p then some s else some (s.goto task (.reading p))
  | .reading p, .read o md =>
    match nvsDupStr s.nvs o with
    | none => some (s.goto task .idle)
    | some record =>
      if !verifyStored c md record p then some (s.goto task .idle)
      else if isModern record then some (s.goto task (.caching p record))
      else some (s.goto task (.upgrading p record))
  | .caching p _, .store salt =>
    if salt.length = pwSaltLen then some ((s.fastCacheStore c salt p).goto task .idle) else none
  | .idle, .set p => some (s.fastCacheInvalidate.goto task (.writing p none))
  | .upgrading p record, .invalidate =>
    some (s.fastCacheInvalidate.goto task (.writing p (some record)))
  | .writing p legacy, .write md salt ok =>
    if salt.length = pwSaltLen then
      match recordToWrite c md salt p, ok with
      | some record, true =>
        if p.isEmpty then some (s.cleared task) else some (s.written task p record)
      | _, _ => some (s.goto task (afterFailure p legacy))
    else none
  | .seeding p _ mark, .seed salt =>
    if salt.length = pwSaltLen then
      some ((s.fastCacheStore c salt p).returned task p mark)
    else none
  | _, _ => none

@[simp] theorem goto_tasks_self (s : PasswordStore) (task : Nat) (ph : Phase) :
    (s.goto task ph).tasks task = ph :=
  Function.update_self ..

theorem goto_tasks_of_ne (s : PasswordStore) {task t : Nat} (ph : Phase) (h : t ≠ task) :
    (s.goto task ph).tasks t = s.tasks t :=
  Function.update_of_ne h ..

@[simp] theorem fastCacheStore_tasks (c : Crypto) (s : PasswordStore) (salt : List UInt8)
    (p : Plaintext) : (s.fastCacheStore c salt p).tasks = s.tasks := rfl

/-- The machine of all interleavings. -/
def machine (c : Crypto) : Machine PasswordStore (Nat × CacheStep) :=
  ⟨fun s a => s.step c a.1 a.2⟩

/-- The password that a step decides to accept. It is the cache that decides, or the record that was
    read. -/
def accepts (c : Crypto) (s : PasswordStore) (task : Nat) (a : CacheStep) : Option Plaintext :=
  match s.tasks task, a with
  | .idle, .verify p => if s.fastCacheMatches c p then some p else none
  | .reading p, .read o md =>
    match nvsDupStr s.nvs o with
    | none => none
    | some record => if verifyStored c md record p then some p else none
  | _, _ => none

/-- After a boot: nothing cached, no task inside. -/
def Booted (s : PasswordStore) : Prop :=
  s.cache = none ∧ (∀ task, s.tasks task = .idle) ∧ s.log = [] ∧ ∀ q, ¬ s.revoked q

/-- The password verifies against the record in NVS. -/
def Holds (c : Crypto) (s : PasswordStore) (p : Plaintext) : Prop :=
  ∃ record, s.nvs = some record ∧ verifyStored c true record p = true

/-- A cache store happens while the record that its call has read or written is still in NVS,
    or the password verifies against the one that is; a clear is written while the cache is
    invalid. -/
def Current (c : Crypto) (s : PasswordStore) (a : Nat × CacheStep) : Prop :=
  match s.tasks a.1, a.2 with
  | .caching p record, .store _ => s.nvs = some record ∨ s.Holds c p
  | .seeding p record _, .seed _ => s.nvs = some record ∨ s.Holds c p
  | .writing [] _, .write _ _ ok => ok = true → s.cache = none
  | _, _ => True

/-- The passwords that calls are made with. The assumption on the hash functions is about these. -/
def InPlay (W : Plaintext → Prop) (a : Nat × CacheStep) : Prop :=
  match a.2 with
  | .verify p => W p
  | .set p => W p
  | _ => True

/-! ### The invariant -/

/-- What a task knows in its phase. A record that was verified stays a record of the password,
    whatever is in NVS by then. -/
def PhaseOk (c : Crypto) (W : Plaintext → Prop) : Phase → Prop
  | .idle => True
  | .reading p => W p
  | .caching p record => W p ∧ verifyStored c true record p = true
  | .upgrading p record => W p ∧ verifyStored c true record p = true
  | .writing p legacy => W p ∧ ∀ record, legacy = some record → verifyStored c true record p = true
  | .seeding p record _ => W p ∧ verifyStored c true record p = true

/-- The cache holds a password that verifies against NVS. -/
def Coherent (c : Crypto) (s : PasswordStore) : Prop :=
  ∀ salt h, s.cache = some (salt, h) → ∃ p, h = computeHash c salt p ∧ s.Holds c p

/-- A set has written and is about to store. -/
def Seeding (s : PasswordStore) : Prop :=
  ∃ task p record mark, s.tasks task = .seeding p record mark

structure Inv (c : Crypto) (W : Plaintext → Prop) (s : PasswordStore) : Prop where
  coherent : s.Coherent c ∨ s.Seeding
  phases : ∀ task, PhaseOk c W (s.tasks task)
  salts : ∀ salt h, s.cache = some (salt, h) → salt.length = pwSaltLen
  replaced : ∀ q, W q → s.revoked q →
    ¬ s.Holds c q ∧ ∀ salt h, s.cache = some (salt, h) → h ≠ computeHash c salt q

variable {c : Crypto} {W : Plaintext → Prop} {s s' : PasswordStore} {task : Nat} {ph : Phase}
  {p : Plaintext}

/-- The other tasks stay where they are. -/
theorem phases_goto (h : ∀ t, PhaseOk c W (s.tasks t)) (hph : PhaseOk c W ph) (t : Nat) :
    PhaseOk c W ((s.goto task ph).tasks t) :=
  (Function.forall_update_iff s.tasks fun _ ph => PhaseOk c W ph).mpr ⟨hph, fun t _ => h t⟩ t

/-- A task that is not seeding does not end anybody's seeding. -/
theorem seeding_goto (h : s.Seeding)
    (hnot : ∀ p record mark, s.tasks task ≠ .seeding p record mark) :
    (s.goto task ph).Seeding := by
  obtain ⟨t, p, record, mark, ht⟩ := h
  refine ⟨t, p, record, mark, ?_⟩
  have hne : t ≠ task := by
    rintro rfl
    exact hnot p record mark ht
  rw [goto_tasks_of_ne s ph hne, ht]

/-- A step that only moves its task. -/
theorem inv_goto (h : s.Inv c W) (hnot : ∀ p record mark, s.tasks task ≠ .seeding p record mark)
    (hph : PhaseOk c W ph) : (s.goto task ph).Inv c W :=
  ⟨h.coherent.imp id fun hs => seeding_goto hs hnot, phases_goto h.phases hph, h.salts, h.replaced⟩

/-- Invalidating the cache. -/
theorem inv_invalidate (h : s.Inv c W) (hph : PhaseOk c W ph) :
    (s.fastCacheInvalidate.goto task ph).Inv c W := by
  have hnone : ∀ salt h', (s.fastCacheInvalidate.goto task ph).cache = some (salt, h') → False := by
    intro salt h' heq
    cases heq
  refine ⟨.inl ?_, phases_goto h.phases hph, ?_, ?_⟩
  · intro salt h' heq
    exact (hnone salt h' heq).elim
  · intro salt h' heq
    exact (hnone salt h' heq).elim
  · intro q hq hrev
    exact ⟨(h.replaced q hq hrev).1, fun salt h' heq => (hnone salt h' heq).elim⟩

/-- What verifies against NVS is not a password that was replaced, and does not collide with
    one. -/
theorem hash_ne_of_replaced (hfree : CollisionFree c W) (hp : W p) (hholds : s.Holds c p)
    {q : Plaintext} (hq : W q) (hnot : ¬ s.Holds c q) {salt : List UInt8}
    (hsalt : salt.length = pwSaltLen) : computeHash c salt p ≠ computeHash c salt q := by
  intro heq
  have hpq : p = q := hfree.hash salt p q hsalt hp hq heq
  exact hnot (hpq ▸ hholds)

/-- Storing a password that verifies against NVS. -/
theorem inv_store (task : Nat) (hfree : CollisionFree c W) (h : s.Inv c W) (hp : W p)
    (hholds : s.Holds c p) {salt : List UInt8} (hsalt : salt.length = pwSaltLen) :
    ((s.fastCacheStore c salt p).goto task .idle).Inv c W := by
  -- The cache holds what is stored now, and nothing else.
  have hcache : ∀ salt' h', ((s.fastCacheStore c salt p).goto task .idle).cache = some (salt', h') →
      salt' = salt ∧ h' = computeHash c salt p := by
    intro salt' h' heq
    cases heq
    exact ⟨rfl, rfl⟩
  refine ⟨.inl ?_, phases_goto h.phases trivial, ?_, ?_⟩
  · intro salt' h' heq
    obtain ⟨rfl, rfl⟩ := hcache salt' h' heq
    exact ⟨p, rfl, hholds⟩
  · intro salt' h' heq
    rw [(hcache salt' h' heq).1]
    exact hsalt
  -- A password that was replaced does not verify, and does not have this hash.
  · intro q hq hrev
    have hnot := (h.replaced q hq hrev).1
    refine ⟨hnot, ?_⟩
    intro salt' h' heq
    obtain ⟨rfl, rfl⟩ := hcache salt' h' heq
    exact hash_ne_of_replaced hfree hp hholds hq hnot hsalt

/-- A set that stores what verifies against NVS, and returns. -/
theorem inv_returned (hfree : CollisionFree c W) (h : s.Inv c W) (hp : W p)
    (hholds : s.Holds c p) {salt : List UInt8} (hsalt : salt.length = pwSaltLen) (mark : Nat) :
    ((s.fastCacheStore c salt p).returned task p mark).Inv c W := by
  have hstored := inv_store task hfree h hp hholds hsalt
  refine ⟨hstored.coherent, hstored.phases, hstored.salts, ?_⟩
  intro q hq hrev
  rcases hrev with hold | ⟨hne, -⟩
  · exact hstored.replaced q hq hold
  -- NVS verifies `p`, so it verifies no other password in play
  · have hnot : ¬ s.Holds c q := by
      rintro ⟨record, hrecord, hverify⟩
      obtain ⟨record', hrecord', hverify'⟩ := hholds
      rw [hrecord, Option.some.injEq] at hrecord'
      exact hne (verifyStored_unique hfree hq hp hverify (hrecord' ▸ hverify'))
    refine ⟨hnot, ?_⟩
    intro salt' h' heq
    cases heq
    exact hash_ne_of_replaced hfree hp hholds hq hnot hsalt

/-- A clear that finds the cache invalid. -/
theorem inv_cleared (h : s.Inv c W) (hcache : s.cache = none) (task : Nat) :
    (s.cleared task).Inv c W := by
  have hnone : ∀ salt h', (s.cleared task).cache = some (salt, h') → False := by
    intro salt h' heq
    have hsame : (s.cleared task).cache = s.cache := rfl
    rw [hsame, hcache] at heq
    cases heq
  refine ⟨.inl ?_, phases_goto h.phases trivial, ?_, ?_⟩
  · intro salt h' heq
    exact (hnone salt h' heq).elim
  · intro salt h' heq
    exact (hnone salt h' heq).elim
  · intro q _ _
    refine ⟨?_, fun salt h' heq => (hnone salt h' heq).elim⟩
    rintro ⟨record, hrecord, hverify⟩
    cases hrecord
    rw [verifyStored_nil] at hverify
    cases hverify

/-- A set that writes the record of its password. -/
theorem inv_written (hfree : CollisionFree c W) (h : s.Inv c W) (hp : W p) {record : List Char}
    (hrecord : verifyStored c true record p = true) : (s.written task p record).Inv c W := by
  refine ⟨.inr ⟨task, p, record, s.log.length + 1, ?_⟩, phases_goto h.phases ⟨hp, hrecord⟩, h.salts,
    ?_⟩
  · exact goto_tasks_self ..
  · rintro q hq ⟨hrev, hne⟩
    refine ⟨?_, (h.replaced q hq hrev).2⟩
    rintro ⟨record', heq, hverify⟩
    cases heq
    exact hne (verifyStored_unique hfree hq hp hverify hrecord)

/-- The record written for a password verifies it. -/
theorem verifyStored_recordToWrite {md : Bool} {salt : List UInt8} {record : List Char}
    (hsalt : salt.length = pwSaltLen) (hp : ¬ p.isEmpty = true)
    (h : recordToWrite c md salt p = some record) : verifyStored c true record p = true := by
  rw [recordToWrite, if_neg hp, Option.map_eq_some_iff] at h
  obtain ⟨hash, hhash, rfl⟩ := h
  exact verifyStored_formatRecord hsalt (computePbkdf2_eq_some hhash).1

/-- **Step lemma.** A step that meets the condition keeps the invariant. The condition is needed
    where a cache is filled, and where a clear is written. -/
theorem step_inv (hfree : CollisionFree c W) {a : CacheStep} (hcurrent : s.Current c (task, a))
    (hplay : InPlay W (task, a)) (h : s.Inv c W) (hstep : s.step c task a = some s') :
    s'.Inv c W := by
  have hphase := h.phases task
  unfold step at hstep
  unfold Current at hcurrent
  split at hstep
  -- a verify looks at the cache
  · rename_i p heq
    split at hstep
    · cases hstep
      exact h
    · cases hstep
      exact inv_goto h (by simp [heq]) hplay
  -- it reads the record
  · rename_i p o md heq
    rw [heq] at hphase
    split at hstep
    · cases hstep
      exact inv_goto h (by simp [heq]) trivial
    · rename_i record hread
      split at hstep
      · cases hstep
        exact inv_goto h (by simp [heq]) trivial
      · rename_i hverify
        have hok : verifyStored c true record p = true := by
          apply verifyStored_md
          simpa using hverify
        split at hstep
        · cases hstep
          exact inv_goto h (by simp [heq]) ⟨hphase, hok⟩
        · cases hstep
          exact inv_goto h (by simp [heq]) ⟨hphase, hok⟩
  -- it stores what it verified
  · rename_i p record salt heq
    simp only [heq] at hcurrent
    rw [heq] at hphase
    rw [Option.ite_none_right_eq_some] at hstep
    obtain ⟨hsalt, hstep⟩ := hstep
    cases hstep
    have hholds : s.Holds c p := hcurrent.elim (fun hsame => ⟨record, hsame, hphase.2⟩) id
    exact inv_store task hfree h hphase.1 hholds hsalt
  -- a set invalidates the cache
  · cases hstep
    exact inv_invalidate h ⟨hplay, by simp⟩
  -- a nested set invalidates the cache
  · rename_i p record heq
    rw [heq] at hphase
    cases hstep
    refine inv_invalidate h ⟨hphase.1, ?_⟩
    intro record' hsame
    cases hsame
    exact hphase.2
  -- a set writes
  · rename_i p legacy md salt ok heq
    rw [heq] at hphase
    rw [Option.ite_none_right_eq_some] at hstep
    obtain ⟨hsalt, hstep⟩ := hstep
    split at hstep
    · rename_i record hrecord
      split at hstep
      · rename_i hempty
        cases hstep
        obtain rfl := List.isEmpty_iff.mp hempty
        simp only [heq] at hcurrent
        exact inv_cleared h (hcurrent trivial) task
      · rename_i hne
        cases hstep
        exact inv_written hfree h hphase.1 (verifyStored_recordToWrite hsalt hne hrecord)
    · cases hstep
      refine inv_goto h (by simp [heq]) ?_
      rcases legacy with _ | record
      · trivial
      · exact ⟨hphase.1, hphase.2 record rfl⟩
  -- a set stores what it wrote
  · rename_i p record mark salt heq
    simp only [heq] at hcurrent
    rw [heq] at hphase
    rw [Option.ite_none_right_eq_some] at hstep
    obtain ⟨hsalt, hstep⟩ := hstep
    cases hstep
    have hholds : s.Holds c p := hcurrent.elim (fun hsame => ⟨record, hsame, hphase.2⟩) id
    exact inv_returned hfree h hphase.1 hholds hsalt mark
  · cases hstep

/-- A password that a step accepts is not one that was replaced. It is the one in the cache, which
    is coherent, or the one in NVS. -/
theorem not_revoked_of_accepts (h : s.Inv c W) {a : CacheStep} {q : Plaintext}
    (haccept : s.accepts c task a = some q) (hq : W q) : ¬ s.revoked q := by
  intro hrev
  obtain ⟨hnot, hcache⟩ := h.replaced q hq hrev
  unfold accepts at haccept
  split at haccept
  · -- accepted by the cache
    rename_i p _
    rw [Option.ite_none_right_eq_some, Option.some.injEq] at haccept
    obtain ⟨hmatch, rfl⟩ := haccept
    unfold fastCacheMatches at hmatch
    split at hmatch
    · cases hmatch
    · rename_i salt expected hvalid
      rw [beq_iff_eq] at hmatch
      exact hcache salt expected hvalid hmatch.symm
  · -- accepted by the stored record
    rename_i p o md _
    split at haccept
    · cases haccept
    · rename_i record hread
      rw [Option.ite_none_right_eq_some, Option.some.injEq] at haccept
      obtain ⟨hverify, rfl⟩ := haccept
      apply hnot
      rcases hnvs : s.nvs with _ | stored
      · rw [hnvs] at hread
        unfold nvsDupStr at hread
        split at hread <;> cases hread
      · rw [hnvs, nvsDupStr_some, Option.ite_none_right_eq_some, Option.some.injEq] at hread
        exact ⟨stored, hnvs, hread.2 ▸ verifyStored_md hverify⟩
  · cases haccept

/-- **Coherence of the password cache.** In every interleaving in which each cache store is
    still about the record in NVS and each clear is written while the cache is invalid: while
    no set is in progress, a valid cache holds a password that verifies against NVS; and no
    step of a verify accepts a password that a finished set has changed or cleared and that
    was not written again. -/
theorem cache_coherent (hfree : CollisionFree c W) {t : PasswordStore}
    {steps : List (Nat × CacheStep)} (hboot : s.Booted) (hplay : ∀ a ∈ steps, InPlay W a)
    (hmeets : (machine c).Meets (Current c) s steps) (hrun : (machine c).run s steps = some t) :
    ((∀ task, (t.tasks task).inSet = false) → t.Coherent c) ∧
      ∀ task a q, t.accepts c task a = some q → W q → ¬ t.revoked q := by
  have hinv : t.Inv c W := by
    apply Machine.invariant_of_meets ?_ (hmeets.and_forall hplay) hrun
    · -- at boot the cache is empty and no password has been replaced
      obtain ⟨hcache, hidle, -, hrevoked⟩ := hboot
      refine ⟨.inl ?_, ?_, ?_, ?_⟩
      · intro salt h heq
        rw [hcache] at heq
        cases heq
      · intro task
        rw [hidle]
        trivial
      · intro salt h heq
        rw [hcache] at heq
        cases heq
      · intro q _ hrev
        exact absurd hrev (hrevoked q)
    · rintro u ⟨task, a⟩ u' ⟨hcurrent, hplay'⟩ hstep hu
      exact step_inv hfree hcurrent hplay' hu hstep
  refine ⟨?_, fun task a q haccept hq => not_revoked_of_accepts hinv haccept hq⟩
  intro hnone
  rcases hinv.coherent with hcoherent | ⟨task, p, record, mark, hseeding⟩
  · exact hcoherent
  · -- only a task inside the setter may find the cache behind the record
    have hin := hnone task
    rw [hseeding] at hin
    cases hin

/-! ### Two runs -/

/-- One step, then a run. -/
theorem run_step {t : PasswordStore} {a : CacheStep} {as : List (Nat × CacheStep)}
    (hstep : s.step c task a = some s') (hrest : (machine c).run s' as = some t) :
    (machine c).run s ((task, a) :: as) = some t :=
  Machine.run_cons.mpr ⟨s', hstep, hrest⟩

/-- One step that meets the condition, then a run that does. -/
theorem meets_step {a : CacheStep} {as : List (Nat × CacheStep)}
    (hcurrent : s.Current c (task, a)) (hstep : s.step c task a = some s')
    (hrest : (machine c).Meets (Current c) s' as) :
    (machine c).Meets (Current c) s ((task, a) :: as) :=
  (Machine.meets_cons hstep).mpr ⟨hcurrent, hrest⟩

/-- A verify that finds the cache invalid goes on to the read. -/
theorem step_verify_uncached (htask : s.tasks task = .idle) (hcache : s.cache = none) :
    s.step c task (.verify p) = some (s.goto task (.reading p)) := by
  simp [step, htask, fastCacheMatches, hcache]

/-- A read that verifies a modern record goes on to the store. -/
theorem step_read_modern {o : ReadOutcome} {md : Bool} {record : List Char}
    (htask : s.tasks task = .reading p) (hread : nvsDupStr s.nvs o = some record)
    (hverify : verifyStored c md record p = true) (hmodern : isModern record = true) :
    s.step c task (.read o md) = some (s.goto task (.caching p record)) := by
  simp [step, htask, hread, hverify, hmodern]

/-- The store of a verify. -/
theorem step_store {record : List Char} {salt : List UInt8}
    (htask : s.tasks task = .caching p record) (hsalt : salt.length = pwSaltLen) :
    s.step c task (.store salt) = some ((s.fastCacheStore c salt p).goto task .idle) := by
  simp [step, htask, hsalt]

/-- A password filled up with zeros to 32 bytes. -/
def filled (p : Plaintext) : List UInt8 := (p ++ List.replicate 32 0).take 32

/-- Hash functions that keep short passwords apart: SHA-256 drops a 16-byte salt, and HMAC is
    zero but for the first block of PBKDF2. -/
def toyCrypto : Crypto :=
  { sha256 := fun msg => filled (msg.drop 16)
    hmac := fun key msg => if msg.length = 20 then filled key else List.replicate 32 0
    length_hmac := by
      intro key msg
      split
      · simp [filled]
      · rfl }

/-- Later blocks that are zero leave the hash alone. -/
theorem pbkdf2Loop_of_zero (hzero : ∀ u, u.length = 32 → c.hmac p u = List.replicate 32 0)
    {n : Nat} {u hash : List UInt8} (hu : u.length = 32) (hhash : hash.length = 32) :
    pbkdf2Loop c p n u hash = hash := by
  induction n generalizing u hash with
  | zero => rfl
  | succ n ih =>
    have hxor : List.zipWith (fun a b => a ^^^ b) hash (List.replicate 32 0) = hash := by
      apply List.ext_getElem
      · rw [List.length_zipWith, List.length_replicate, hhash, Nat.min_self]
      · intro i _ _
        rw [List.getElem_zipWith, List.getElem_replicate]
        exact UInt8.xor_zero
    rw [pbkdf2Loop, hzero u hu, hxor]
    exact ih (by simp) hhash

/-- With later blocks of zeros, PBKDF2 is its first block. -/
theorem computePbkdf2_of_zero (hzero : ∀ u, u.length = 32 → c.hmac p u = List.replicate 32 0)
    {salt : List UInt8} {iterations : Nat}
    (hrange : ¬ (iterations < pwPbkdf2ItersMin ∨ pwPbkdf2ItersMax < iterations)) :
    computePbkdf2 c true salt p iterations = some (c.hmac p (salt ++ [0, 0, 0, 1])) := by
  rw [computePbkdf2, if_neg hrange]
  simp only [Bool.not_true, Bool.false_eq_true, if_false,
    pbkdf2Loop_of_zero hzero (c.length_hmac _ _) (c.length_hmac _ _)]

theorem computePbkdf2_toyCrypto {salt : List UInt8} {iterations : Nat}
    (hsalt : salt.length = pwSaltLen)
    (hrange : ¬ (iterations < pwPbkdf2ItersMin ∨ pwPbkdf2ItersMax < iterations)) :
    computePbkdf2 toyCrypto true salt p iterations = some (filled p) := by
  have hzero : ∀ u, u.length = 32 → toyCrypto.hmac p u = List.replicate 32 0 := by
    intro u hu
    simp [toyCrypto, hu]
  rw [computePbkdf2_of_zero hzero hrange]
  simp [toyCrypto, hsalt, pwSaltLen]

/-- The passwords of the two runs: one byte, or none for a clear. -/
def ShortPlaintext (p : Plaintext) : Prop := p = [1] ∨ p = []

/-- These hash functions keep them apart. -/
theorem toyCrypto_collisionFree : CollisionFree toyCrypto ShortPlaintext := by
  -- Only two passwords are in play, and their fillings differ.
  have hfilled : ∀ p q, ShortPlaintext p → ShortPlaintext q → filled p = filled q → p = q := by
    rintro p q (rfl | rfl) (rfl | rfl) h
    · rfl
    · exact absurd h (by decide)
    · exact absurd h (by decide)
    · rfl
  refine ⟨?_, ?_⟩
  · intro salt p q hsalt hp hq h
    -- The salt is cut off again, so the hash is that of the password alone.
    have hdrop : ∀ r, computeHash toyCrypto salt r = filled r := by
      intro r
      show filled ((salt ++ r).drop 16) = filled r
      have h16 : salt.length = 16 := hsalt
      rw [List.drop_left' h16]
    rw [hdrop, hdrop] at h
    exact hfilled p q hp hq h
  · intro salt p q iterations h hsalt hp hq h1 h2
    -- A key that is computed is within the range of iterations.
    have hrange : ¬ (iterations < pwPbkdf2ItersMin ∨ pwPbkdf2ItersMax < iterations) := by
      intro hout
      rw [computePbkdf2, if_pos hout] at h1
      cases h1
    rw [computePbkdf2_toyCrypto hsalt hrange, Option.some.injEq] at h1 h2
    exact hfilled p q hp hq (h1.trans h2.symm)

/-- A salt, and the record of the password `[1]` under it. -/
def zeroSalt : List UInt8 := List.replicate pwSaltLen 0

def oldRecord : List Char := formatRecord zeroSalt (filled [1])

theorem verifyStored_oldRecord : verifyStored toyCrypto true oldRecord [1] = true :=
  verifyStored_formatRecord rfl
    (computePbkdf2_toyCrypto rfl (by simp [pwPbkdf2Iters, pwPbkdf2ItersMin, pwPbkdf2ItersMax]))

/-- A router that boots with that record. -/
def bootedStore : PasswordStore := ⟨some oldRecord, none, fun _ => .idle, [], fun _ => False⟩

theorem bootedStore_booted : bootedStore.Booted := ⟨rfl, fun _ => rfl, rfl, fun _ => id⟩

/-- A verify of the old password, up to its NVS read. -/
def verifySteps : List (Nat × CacheStep) :=
  [(0, .verify [1]), (0, .read ⟨true, true, true, true⟩ true)]

/-- The store when the task is about to put the old password into the cache. -/
def verifiedStore : PasswordStore :=
  (bootedStore.goto 0 (.reading [1])).goto 0 (.caching [1] oldRecord)

theorem isModern_oldRecord : isModern oldRecord = true := by
  simp [isModern, oldRecord, formatRecord, List.isPrefixOf_iff_prefix]

theorem step_verify_bootedStore :
    bootedStore.step toyCrypto 0 (.verify [1]) = some (bootedStore.goto 0 (.reading [1])) :=
  step_verify_uncached rfl rfl

theorem step_read_bootedStore :
    (bootedStore.goto 0 (.reading [1])).step toyCrypto 0 (.read ⟨true, true, true, true⟩ true) =
      some verifiedStore := by
  have hread : nvsDupStr bootedStore.nvs ⟨true, true, true, true⟩ = some oldRecord :=
    (nvsDupStr_some oldRecord _).trans (if_pos rfl)
  exact step_read_modern (goto_tasks_self ..) hread verifyStored_oldRecord isModern_oldRecord

theorem tasks_verifiedStore : verifiedStore.tasks 0 = .caching [1] oldRecord :=
  goto_tasks_self ..

theorem tasks_verifiedStore_of_ne {task : Nat} (h : task ≠ 0) :
    verifiedStore.tasks task = .idle := by
  rw [verifiedStore, goto_tasks_of_ne _ _ h, goto_tasks_of_ne _ _ h]
  rfl

theorem step_store_verifiedStore : verifiedStore.step toyCrypto 0 (.store zeroSalt) =
    some ((verifiedStore.fastCacheStore toyCrypto zeroSalt [1]).goto 0 .idle) :=
  step_store tasks_verifiedStore rfl

/-- A verify that nobody disturbs leaves a coherent cache. -/
theorem undisturbed_verify :
    ∃ t, (machine toyCrypto).run bootedStore (verifySteps ++ [(0, .store zeroSalt)]) = some t ∧
      t.cache.isSome = true ∧ t.Coherent toyCrypto := by
  -- The three steps, each evaluated by itself.
  have hrun : (machine toyCrypto).run bootedStore (verifySteps ++ [(0, .store zeroSalt)]) =
      some ((verifiedStore.fastCacheStore toyCrypto zeroSalt [1]).goto 0 .idle) :=
    run_step step_verify_bootedStore
      (run_step step_read_bootedStore (run_step step_store_verifiedStore Machine.run_nil))
  have hplay : ∀ a ∈ verifySteps ++ [(0, .store zeroSalt)], InPlay ShortPlaintext a := by
    intro a ha
    rw [verifySteps, List.cons_append, List.cons_append, List.nil_append] at ha
    simp only [List.mem_cons, List.not_mem_nil, or_false] at ha
    rcases ha with rfl | rfl | rfl
    · exact .inl rfl
    · trivial
    · trivial
  -- The store is by the task that has read the salt.
  have hcurrent : verifiedStore.Current toyCrypto (0, .store zeroSalt) := by
    simp only [Current, tasks_verifiedStore]
    exact .inl rfl
  have hmeets : (machine toyCrypto).Meets (Current toyCrypto) bootedStore
      (verifySteps ++ [(0, .store zeroSalt)]) := by
    apply meets_step ?_ step_verify_bootedStore
    · apply meets_step ?_ step_read_bootedStore
      · exact meets_step hcurrent step_store_verifiedStore Machine.meets_nil
      · simp only [Current, goto_tasks_self]
    · exact trivial
  have hcoherent := cache_coherent toyCrypto_collisionFree bootedStore_booted hplay hmeets hrun
  refine ⟨_, hrun, rfl, hcoherent.1 ?_⟩
  -- No other task does anything here.
  intro task
  by_cases htask : task = 0
  · rw [htask, goto_tasks_self]
    rfl
  · rw [goto_tasks_of_ne _ _ htask, fastCacheStore_tasks, tasks_verifiedStore_of_ne htask]
    rfl

/-- The store after the password was cleared behind that read. -/
def clearedStore : PasswordStore :=
  (verifiedStore.fastCacheInvalidate.goto 1 (.writing [] none)).cleared 1

/-- The old password goes into the cache after it was cleared. -/
def lateStore : PasswordStore := (clearedStore.fastCacheStore toyCrypto zeroSalt [1]).goto 0 .idle

/-- A verify reads the record, the password is cleared, the verify stores what it verified. -/
def overtakingSteps : List (Nat × CacheStep) :=
  verifySteps ++ [(1, .set []), (1, .write true zeroSalt true), (0, .store zeroSalt)]

theorem run_overtakingSteps :
    (machine toyCrypto).run bootedStore overtakingSteps = some lateStore := by
  have hset : verifiedStore.step toyCrypto 1 (.set []) =
      some (verifiedStore.fastCacheInvalidate.goto 1 (.writing [] none)) := rfl
  have hwrite : (verifiedStore.fastCacheInvalidate.goto 1 (.writing [] none)).step toyCrypto 1
      (.write true zeroSalt true) = some clearedStore := rfl
  have hcaching : clearedStore.tasks 0 = .caching [1] oldRecord := rfl
  have hstore : clearedStore.step toyCrypto 0 (.store zeroSalt) = some lateStore :=
    step_store hcaching rfl
  exact run_step step_verify_bootedStore (run_step step_read_bootedStore
    (run_step hset (run_step hwrite (run_step hstore Machine.run_nil))))

/-- **A cleared password comes back.** The clear has returned and no call is in progress, yet
    the cache holds the old password, which verifies against nothing in NVS, and a new verify
    accepts it. -/
theorem cleared_password_accepted :
    bootedStore.Booted ∧ CollisionFree toyCrypto ShortPlaintext ∧
      (∀ a ∈ overtakingSteps, InPlay ShortPlaintext a) ∧
      ∃ t, (machine toyCrypto).run bootedStore overtakingSteps = some t ∧
        (∀ task, t.tasks task = .idle) ∧ t.nvs = some [] ∧ ¬ t.Coherent toyCrypto ∧
        t.revoked [1] ∧ t.accepts toyCrypto 2 (.verify [1]) = some [1] := by
  have hnvs : lateStore.nvs = some [] := rfl
  have hcache : lateStore.cache = some (zeroSalt, computeHash toyCrypto zeroSalt [1]) := rfl
  have htask : lateStore.tasks 2 = .idle := rfl
  refine ⟨bootedStore_booted, toyCrypto_collisionFree, ?_, lateStore, run_overtakingSteps, ?_, hnvs,
    ?_, trivial, ?_⟩
  · intro a ha
    rw [overtakingSteps, verifySteps, List.cons_append, List.cons_append, List.nil_append] at ha
    simp only [List.mem_cons, List.not_mem_nil, or_false] at ha
    rcases ha with rfl | rfl | rfl | rfl | rfl
    · exact .inl rfl
    · trivial
    · exact .inr rfl
    · trivial
    · trivial
  · intro task
    by_cases h0 : task = 0
    · rw [h0]
      rfl
    · rw [lateStore, goto_tasks_of_ne _ _ h0, fastCacheStore_tasks]
      by_cases h1 : task = 1
      · rw [h1]
        rfl
      -- task 1 has made the only other moves
      · calc clearedStore.tasks task
            = (verifiedStore.fastCacheInvalidate.goto 1 (.writing [] none)).tasks task :=
              goto_tasks_of_ne _ _ h1
          _ = verifiedStore.tasks task := goto_tasks_of_ne _ _ h1
          _ = .idle := tasks_verifiedStore_of_ne h0
  · intro hcoherent
    obtain ⟨p, -, record, hrecord, hverify⟩ := hcoherent zeroSalt _ hcache
    rw [hnvs] at hrecord
    cases hrecord
    rw [verifyStored_nil] at hverify
    cases hverify
  · simp only [accepts, htask, fastCacheMatches, hcache, beq_self_eq_true, if_true]

end PasswordStore

end SubnetRouter.Web
