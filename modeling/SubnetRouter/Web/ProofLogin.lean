import Mathlib.Data.Option.Basic
import SubnetRouter.Web.PasswordCache

namespace SubnetRouter.Web

open Lib PasswordStore

/-!
# Proof login (`components/web_password/web_password.c`)

A browser may prove a password instead of sending it: it derives the stored key from the
password and signs a message with it.  The record is then parsed by `parse_pbkdf2_record`, a
second copy of the parser in `verify_pbkdf2`.

* `parsePbkdf2Record_eq` — the two parsers agree on every string.
* `recordWritten_eq` — the buffer of `set_web_password_hashed` holds every record.
* `verifyWebPasswordProof_iff` — what a proof is accepted for.
* `proof_login_agrees` — proof login and password login accept the same passwords.
-/

/-! ### Writing a record -/

/-- The size of `buf` in `set_web_password_hashed`: the prefix with its terminator, ten digits,
    `salt_hex` and `hash_hex` with theirs, and two more. -/
def recordBufSize : Nat :=
  (pwPbkdf2Prefix.length + 1) + 10 + (pwSaltLen * 2 + 1) + (pwHashLen * 2 + 1) + 2

/-- `snprintf` of a text into a buffer of `size` bytes. -/
def snprintfTo (size : Nat) (text : List Char) : List Char := text.take (size - 1)

/-- What `set_web_password_hashed` hands to `nvs_write_str`, with the random salt; `md` is
    whether Mbed TLS gets its context. -/
def recordWritten (c : Crypto) (md : Bool) (salt : List UInt8) (plaintext : Plaintext) :
    Option (List Char) :=
  if plaintext.isEmpty then some []
  else
    (computePbkdf2 c md salt plaintext pwPbkdf2Iters).map fun hash =>
      snprintfTo recordBufSize (formatRecord salt hash)

/-! ### Proofs -/

/-- `parse_pbkdf2_record`. It is the second parser of the same format, and is modelled apart from
    the first. -/
def parsePbkdf2Record (stored : Option (List Char)) : Option Record := do
  let stored ← stored
  guard (pwPbkdf2Prefix.isPrefixOf stored)
  let iterationsText := stored.drop pwPbkdf2Prefix.length
  let (parsed, iterationsEnd) := strtoul iterationsText
  guard (iterationsEnd.length ≠ iterationsText.length ∧ iterationsEnd.head? = some '$' ∧
    pwPbkdf2ItersMin ≤ parsed ∧ parsed ≤ pwPbkdf2ItersMax)
  let saltHex := iterationsEnd.drop 1
  let (saltText, hashText) ← splitAtChar '$' saltHex
  guard (saltText.length = pwSaltLen * 2 ∧ hashText.length = pwHashLen * 2)
  let salt ← hexToBytes saltHex pwSaltLen
  let verifier ← hexToBytes hashText pwHashLen
  return ⟨parsed, salt, verifier⟩

/-- `web_password_get_proof_params`, on what `nvs_dup_str` returns: iterations and salt. -/
def webPasswordGetProofParams (stored : Option (List Char)) : Option (Nat × List UInt8) :=
  (parsePbkdf2Record stored).map fun r => (r.iterations, r.salt)

/-- `verify_web_password_proof`, on what `nvs_dup_str` returns. The stored hash is the key, so the
    password itself is not needed. -/
def verifyWebPasswordProof (c : Crypto) (md : Bool) (stored : Option (List Char))
    (message proof : List UInt8) : Bool :=
  if message.isEmpty then false
  else
    match parsePbkdf2Record stored with
    | none => false
    | some r => md && c.hmac r.hash message == proof

/-- The part of `verify_web_password` behind the cache, on what `nvs_dup_str` returns. A password
    that cannot be read is none. -/
def verifyWebPasswordNvs (c : Crypto) (md : Bool) (stored : Option (List Char))
    (plaintext : Plaintext) : Bool :=
  match stored with
  | none => false
  | some stored => verifyStored c md stored plaintext

variable {c : Crypto} {stored : List Char} {p : Plaintext}

/-- A step of a C parser that returns early when its test fails. -/
theorem guard_bind {α : Type} {P : Prop} [Decidable P] (f : Unit → Option α) :
    (guard P : Option Unit).bind f = if P then f () else none := by
  by_cases h : P <;> simp [h, guard]

/-- **The two parsers agree** on every string, and on every field. They are written differently, but
    check the same things in the same order. -/
theorem parsePbkdf2Record_eq (stored : List Char) :
    parsePbkdf2Record (some stored) = splitRecord stored := by
  unfold parsePbkdf2Record splitRecord
  simp only [Option.bind_eq_bind, Option.bind_some, guard_bind, Option.pure_def]
  by_cases hmodern : pwPbkdf2Prefix.isPrefixOf stored = true
  · simp only [hmodern, if_true, Bool.not_true, Bool.false_eq_true, if_false]
    generalize stored.drop pwPbkdf2Prefix.length = text
    rcases strtoul text with ⟨parsed, rest⟩
    by_cases hbad : rest.length = text.length ∨ rest.head? ≠ some '$' ∨
        parsed < pwPbkdf2ItersMin ∨ pwPbkdf2ItersMax < parsed
    · -- one of the four checks on the iteration count fails
      rw [if_pos hbad, if_neg]
      rintro ⟨hlen, hhead, hmin, hmax⟩
      rcases hbad with h | h | h | h
      · exact hlen h
      · exact h hhead
      · omega
      · omega
    · rw [if_neg hbad]
      simp only [not_or, not_not, Nat.not_lt] at hbad
      rw [if_pos hbad]
      rcases splitAtChar '$' (rest.drop 1) with _ | ⟨saltText, hashText⟩
      · rfl
      · simp only [Option.bind_some]
        by_cases hlen : saltText.length ≠ pwSaltLen * 2 ∨ hashText.length ≠ pwHashLen * 2
        · rw [if_pos hlen, if_neg (by omega)]
        · -- both parts have their lengths, and are read as hex
          rw [if_neg hlen, if_pos (by omega)]
          rcases hexToBytes (rest.drop 1) pwSaltLen with _ | salt
          · rfl
          · rcases hexToBytes hashText pwHashLen with _ | hash <;> rfl
  · simp [hmodern]

/-- Every record fits its buffer: it is at most 117 characters long. -/
theorem recordWritten_eq (c : Crypto) (md : Bool) {salt : List UInt8}
    (hsalt : salt.length = pwSaltLen) (plaintext : Plaintext) :
    recordWritten c md salt plaintext = recordToWrite c md salt plaintext := by
  unfold recordWritten recordToWrite
  split
  · rfl
  · apply Option.map_congr
    intro hash hhash
    have hlen := (computePbkdf2_eq_some hhash).2
    apply List.take_of_length_le
    simp [formatRecord, pwPbkdf2Prefix, recordBufSize, hsalt, hlen, pwSaltLen, pwHashLen]

/-! ### What is accepted -/

/-- The key that the browser derives is computed for every record that is parsed. -/
theorem exists_key {r : Record} (hr : splitRecord stored = some r) (p : Plaintext) :
    ∃ key, computePbkdf2 c true r.salt p r.iterations = some key := by
  -- The parser has refused every number of iterations out of range.
  have hrange : ¬ (r.iterations < pwPbkdf2ItersMin ∨ pwPbkdf2ItersMax < r.iterations) := by
    unfold splitRecord at hr
    simp only at hr
    split at hr
    · cases hr
    · split at hr
      · cases hr
      · rename_i hgood
        split at hr
        · cases hr
        · split at hr
          · cases hr
          · split at hr
            · rw [← Option.some.inj hr]
              exact fun h => hgood (.inr (.inr h))
            · cases hr
  unfold computePbkdf2
  rw [if_neg hrange]
  exact ⟨_, rfl⟩

/-- The password login accepts the passwords whose key is the stored verifier. -/
theorem verifyWebPasswordNvs_iff {r : Record} (hr : splitRecord stored = some r)
    {key : List UInt8} (hkey : computePbkdf2 c true r.salt p r.iterations = some key) :
    verifyWebPasswordNvs c true (some stored) p = true ↔ key = r.hash := by
  have hmodern : isModern stored = true := by
    unfold splitRecord at hr
    split at hr
    · cases hr
    · rename_i hmodern
      simpa [isModern] using hmodern
  simp [verifyWebPasswordNvs, verifyStored, hmodern, verifyPbkdf2, hr, hkey]

/-- The proof login accepts the signatures that the stored verifier makes. -/
theorem verifyWebPasswordProof_iff {r : Record} (hr : splitRecord stored = some r)
    {message proof : List UInt8} (hmessage : message ≠ []) :
    verifyWebPasswordProof c true (some stored) message proof = true ↔
      c.hmac r.hash message = proof := by
  have hne : message.isEmpty = false := by simpa using hmessage
  simp [verifyWebPasswordProof, hne, parsePbkdf2Record_eq, hr]

/-- HMAC keeps the keys in play apart: no two of them sign the message alike. -/
def TagsDistinct (c : Crypto) (message : List UInt8) (K : List UInt8 → Prop) : Prop :=
  ∀ key key', K key → K key' → c.hmac key message = c.hmac key' message → key = key'

/-- **Proof login agrees with password login.** The record written for a password is whole and
    both parsers read it back; the parsers agree on every string; and a non-empty message
    signed with the key derived from a password is accepted if the password is, and only
    then as long as HMAC keeps the keys apart. -/
theorem proof_login_agrees (c : Crypto) :
    (∀ salt q, salt.length = pwSaltLen → q ≠ [] →
      ∃ hash, computePbkdf2 c true salt q pwPbkdf2Iters = some hash ∧
        recordWritten c true salt q = some (formatRecord salt hash) ∧
        splitRecord (formatRecord salt hash) = some ⟨pwPbkdf2Iters, salt, hash⟩ ∧
        parsePbkdf2Record (some (formatRecord salt hash)) =
          some ⟨pwPbkdf2Iters, salt, hash⟩) ∧
      (∀ stored, parsePbkdf2Record (some stored) = splitRecord stored) ∧
      ∀ stored p message iterations salt, message ≠ [] →
        webPasswordGetProofParams stored = some (iterations, salt) →
        ∃ key, computePbkdf2 c true salt p iterations = some key ∧
          (verifyWebPasswordNvs c true stored p = true →
            verifyWebPasswordProof c true stored message (c.hmac key message) = true) ∧
          ∀ K, TagsDistinct c message K → K key →
            (∀ r, parsePbkdf2Record stored = some r → K r.hash) →
            (verifyWebPasswordProof c true stored message (c.hmac key message) = true ↔
              verifyWebPasswordNvs c true stored p = true) := by
  refine ⟨?_, parsePbkdf2Record_eq, ?_⟩
  · intro salt q hsalt hq
    have hne : q.isEmpty = false := by simpa using hq
    have hrange : ¬ (pwPbkdf2Iters < pwPbkdf2ItersMin ∨ pwPbkdf2ItersMax < pwPbkdf2Iters) := by
      decide
    obtain ⟨hash, hhash⟩ : ∃ hash, computePbkdf2 c true salt q pwPbkdf2Iters = some hash := by
      unfold computePbkdf2
      rw [if_neg hrange]
      exact ⟨_, rfl⟩
    -- a record that was written is read back
    have hparse := splitRecord_formatRecord hsalt (computePbkdf2_eq_some hhash).2
    refine ⟨hash, hhash, ?_, hparse, (parsePbkdf2Record_eq _).trans hparse⟩
    rw [recordWritten_eq c true hsalt, recordToWrite, hne, hhash]
    rfl
  · intro stored p message iterations salt hmessage hparams
    obtain ⟨r, hr, hfields⟩ := Option.map_eq_some_iff.mp hparams
    rcases stored with _ | stored
    · cases hr
    rw [parsePbkdf2Record_eq] at hr
    obtain ⟨rfl, rfl⟩ := Prod.mk.inj hfields
    obtain ⟨key, hkey⟩ := exists_key hr p (c := c)
    refine ⟨key, hkey, ?_, ?_⟩
    · rw [verifyWebPasswordNvs_iff hr hkey, verifyWebPasswordProof_iff hr hmessage]
      exact fun heq => heq ▸ rfl
    · intro K hdistinct hK hverifier
      rw [verifyWebPasswordNvs_iff hr hkey, verifyWebPasswordProof_iff hr hmessage]
      -- the tags tell the two keys apart
      have hhash := hverifier r ((parsePbkdf2Record_eq stored).trans hr)
      exact ⟨fun htag => (hdistinct _ _ hhash hK htag).symm, fun heq => heq ▸ rfl⟩

/-- Hash functions that sign with the key itself, but for the later blocks of PBKDF2. So the tag
    tells which key it was made with, as far as 32 bytes go. -/
def keyCrypto : Crypto :=
  { sha256 := fun msg => filled (msg.drop 16)
    hmac := fun key msg => if msg.length = 32 then List.replicate 32 0 else filled key
    length_hmac := by
      intro key msg
      split
      · rfl
      · simp [filled] }

/-- The context of a login and a nonce of zeros. -/
def loginMessage : List UInt8 := List.replicate 37 0

theorem computePbkdf2_keyCrypto (p : Plaintext) :
    computePbkdf2 keyCrypto true zeroSalt p pwPbkdf2Iters = some (filled p) := by
  have hzero : ∀ u, u.length = 32 → keyCrypto.hmac p u = List.replicate 32 0 := by
    intro u hu
    simp [keyCrypto, hu]
  rw [computePbkdf2_of_zero hzero (by decide)]
  rfl

theorem parse_oldRecord :
    parsePbkdf2Record (some oldRecord) = some ⟨pwPbkdf2Iters, zeroSalt, filled [1]⟩ :=
  (parsePbkdf2Record_eq oldRecord).trans
    (splitRecord_formatRecord (by decide) (by decide))

/-- A wrong password is refused by both logins. -/
theorem wrong_password_refused :
    verifyWebPasswordProof keyCrypto true (some oldRecord) loginMessage
        (keyCrypto.hmac (filled [2]) loginMessage) = true ↔
      verifyWebPasswordNvs keyCrypto true (some oldRecord) [2] = true := by
  have hparams : webPasswordGetProofParams (some oldRecord) = some (pwPbkdf2Iters, zeroSalt) := by
    rw [webPasswordGetProofParams, parse_oldRecord]
    rfl
  obtain ⟨key, hkey, -, hiff⟩ := (proof_login_agrees keyCrypto).2.2 (some oldRecord) [2]
    loginMessage pwPbkdf2Iters zeroSalt (by decide) hparams
  -- The key of the wrong password is the one that is evaluated here.
  rw [computePbkdf2_keyCrypto, Option.some.injEq] at hkey
  subst hkey
  apply hiff (fun key => key = filled [1] ∨ key = filled [2])
  -- The two keys in play have different tags.
  · rintro key key' (rfl | rfl) (rfl | rfl) htag
    · rfl
    · exact absurd htag (by decide)
    · exact absurd htag (by decide)
    · rfl
  · exact .inr rfl
  · intro r hr
    rw [parse_oldRecord, Option.some.injEq] at hr
    exact .inl (hr ▸ rfl)

/-- The stored password is accepted by the password login, but no proof over the empty message
    is. -/
theorem empty_message_refused :
    webPasswordGetProofParams (some oldRecord) = some (pwPbkdf2Iters, zeroSalt) ∧
      computePbkdf2 keyCrypto true zeroSalt [1] pwPbkdf2Iters = some (filled [1]) ∧
      verifyWebPasswordNvs keyCrypto true (some oldRecord) [1] = true ∧
      verifyWebPasswordProof keyCrypto true (some oldRecord) []
        (keyCrypto.hmac (filled [1]) []) = false := by
  refine ⟨?_, computePbkdf2_keyCrypto [1], ?_, rfl⟩
  · rw [webPasswordGetProofParams, parse_oldRecord]
    rfl
  · have hr := (parsePbkdf2Record_eq oldRecord).symm.trans parse_oldRecord
    exact (verifyWebPasswordNvs_iff hr (computePbkdf2_keyCrypto [1])).mpr rfl

end SubnetRouter.Web
