import Mathlib.Algebra.Group.Nat.Defs
import SubnetRouter.Lib.Hex

namespace SubnetRouter.Web

open Lib

/-!
# The password component (`components/web_password/web_password.c`)

The password is kept in NVS as a text record, `pbkdf2-sha256$<iterations>$<salt>$<hash>` or
the older `<salt>:<hash>`.  The hash functions are a parameter.

* `nvsDupStr`, `isWebPasswordSet` — reading the record, with the four steps that can fail.
* `verifyStored` — `verify_pbkdf2` or `verify_legacy_sha256`, by the record's prefix.
* `verifyStored_formatRecord` — the record written for a password verifies it.
* `verifyStored_unique` — a record verifies one password only, if there are no collisions.
-/

/-- The bytes of a C string. -/
abbrev Plaintext := List UInt8

/-! ### Reading the record -/

/-- Which steps of `nvs_dup_str` succeed: `nvs_open`, the `nvs_get_str` for the length, `malloc`,
    and the `nvs_get_str` for the value. -/
structure ReadOutcome where
  opened : Bool
  measured : Bool
  allocated : Bool
  copied : Bool
deriving DecidableEq, Repr

/-- Every step succeeds. -/
def ReadOutcome.succeeds (o : ReadOutcome) : Bool :=
  o.opened && o.measured && o.allocated && o.copied

/-- `nvs_dup_str`, on the stored value if there is one. A failure of any of its four calls looks
    like a key that is missing. -/
def nvsDupStr (stored : Option (List Char)) (o : ReadOutcome) : Option (List Char) :=
  if !o.opened then none
  else
    match stored with
    | none => none
    | some value =>
      if !o.measured then none
      else if !o.allocated then none
      else if !o.copied then none
      else some value

/-- `is_web_password_set`. -/
def isWebPasswordSet (stored : Option (List Char)) (o : ReadOutcome) : Bool :=
  match nvsDupStr stored o with
  | none => false
  | some value => !value.isEmpty

/-- A stored value is read exactly when every step succeeds. -/
theorem nvsDupStr_some (value : List Char) (o : ReadOutcome) :
    nvsDupStr (some value) o = if o.succeeds then some value else none := by
  rcases o with ⟨_ | _, _ | _, _ | _, _ | _⟩ <;> rfl

/-- A failed step looks like an absent password. -/
theorem isWebPasswordSet_some {value : List Char} (hne : value ≠ []) (o : ReadOutcome) :
    isWebPasswordSet (some value) o = o.succeeds := by
  have hvalue : (!value.isEmpty) = true := by simpa using hne
  rw [isWebPasswordSet, nvsDupStr_some]
  cases o.succeeds
  · rfl
  · exact hvalue

/-! ### Hashing -/

/-- SHA-256 of a message, and HMAC-SHA-256 of a key and a message. -/
structure Crypto where
  sha256 : List UInt8 → List UInt8
  hmac : List UInt8 → List UInt8 → List UInt8
  length_hmac : ∀ key msg, (hmac key msg).length = 32

/-- `PW_SALT_LEN`, `PW_HASH_LEN`. -/
def pwSaltLen : Nat := 16

def pwHashLen : Nat := 32

/-- `PW_PBKDF2_ITERS`, `PW_PBKDF2_ITERS_MIN`, `PW_PBKDF2_ITERS_MAX`. -/
def pwPbkdf2Iters : Nat := 60000

def pwPbkdf2ItersMin : Nat := 10000

def pwPbkdf2ItersMax : Nat := 500000

/-- `compute_hash`. -/
def computeHash (c : Crypto) (salt : List UInt8) (plaintext : Plaintext) : List UInt8 :=
  c.sha256 (salt ++ plaintext)

/-- The loop of `compute_pbkdf2`, with `u` and `hash_out`. Each round signs the result of the one
    before. -/
def pbkdf2Loop (c : Crypto) (plaintext : Plaintext) :
    Nat → List UInt8 → List UInt8 → List UInt8
  | 0, _, hash => hash
  | n + 1, u, hash =>
    pbkdf2Loop c plaintext n (c.hmac plaintext u)
      (List.zipWith (fun a b => a ^^^ b) hash (c.hmac plaintext u))

/-- `compute_pbkdf2`; `md` is whether Mbed TLS gets its context. Only the first block is computed,
    which is all that is needed. -/
def computePbkdf2 (c : Crypto) (md : Bool) (salt : List UInt8) (plaintext : Plaintext)
    (iterations : Nat) : Option (List UInt8) :=
  if iterations < pwPbkdf2ItersMin ∨ pwPbkdf2ItersMax < iterations then none
  else if !md then none
  else
    let u := c.hmac plaintext (salt ++ [0, 0, 0, 1])
    some (pbkdf2Loop c plaintext (iterations - 1) u u)

/-! ### The text of a record -/

/-- `PW_PBKDF2_PREFIX`: `"pbkdf2-sha256$"`. -/
def pwPbkdf2Prefix : List Char :=
  ['p', 'b', 'k', 'd', 'f', '2', '-', 's', 'h', 'a', '2', '5', '6', '$']

/-- `isspace`. -/
def isSpace (c : Char) : Bool :=
  c == ' ' || c == '\t' || c == '\n' || c == '\r' || c == '\x0b' || c == '\x0c'

/-- The value of decimal digits. -/
def decimal (digits : List Char) : Nat :=
  digits.foldl (fun n d => n * 10 + (d.toNat - '0'.toNat)) 0

/-- `strtoul(s, &end, 10)`, with a 32-bit `unsigned long`: the value and the rest. Without digits
    the rest is the whole text, blanks included. -/
def strtoul (s : List Char) : Nat × List Char :=
  let t := s.dropWhile isSpace
  let negative := t.head? == some '-'
  let u := if negative || t.head? == some '+' then t.tail else t
  let digits := u.takeWhile Char.isDigit
  if digits.isEmpty then (0, s)
  else
    let value := decimal digits
    let value :=
      if 2 ^ 32 ≤ value then 2 ^ 32 - 1
      else if negative then (2 ^ 32 - value) % 2 ^ 32
      else value
    (value, u.drop digits.length)

/-- `sscanf(s, "%2x", &b)`: at most two characters behind white space, one of which may be a
    sign. -/
def scan2x (s : List Char) : Option Nat :=
  match s.dropWhile isSpace with
  | [] => none
  | [a] => hexNibble a
  | a :: b :: _ =>
    match hexNibble a, hexNibble b with
    | some hi, some lo => some (hi * 16 + lo)
    | some hi, none => if a = '0' ∧ (b = 'x' ∨ b = 'X') then none else some hi
    | none, some lo =>
      if a = '+' then some lo else if a = '-' then some ((2 ^ 32 - lo) % 2 ^ 32) else none
    | none, none => none

/-- `hex_to_bytes`. It reads two characters for a byte, and does not look at what is behind the last
    one. -/
def hexToBytes : List Char → Nat → Option (List UInt8)
  | _, 0 => some []
  | s, n + 1 =>
    match scan2x s, hexToBytes (s.drop 2) n with
    | some b, some bs => some (UInt8.ofNat b :: bs)
    | _, _ => none

/-- `strchr`: the text before the character and the text behind it. -/
def splitAtChar (c : Char) (s : List Char) : Option (List Char × List Char) :=
  if c ∈ s then some (s.takeWhile fun d => d != c, (s.dropWhile fun d => d != c).tail) else none

/-- The parts of a PBKDF2 record: iterations, salt and hash, as bytes. -/
structure Record where
  iterations : Nat
  salt : List UInt8
  hash : List UInt8
deriving DecidableEq, Repr

/-- The parsing that `verify_pbkdf2` and `parse_pbkdf2_record` share. The number of iterations is
    kept within bounds, so that no record makes a check take too long. -/
def splitRecord (stored : List Char) : Option Record :=
  if !pwPbkdf2Prefix.isPrefixOf stored then none
  else
    let iterationsText := stored.drop pwPbkdf2Prefix.length
    let parsed := strtoul iterationsText
    if parsed.2.length = iterationsText.length ∨ parsed.2.head? ≠ some '$' ∨
        parsed.1 < pwPbkdf2ItersMin ∨ pwPbkdf2ItersMax < parsed.1 then none
    else
      let saltHex := parsed.2.drop 1
      match splitAtChar '$' saltHex with
      | none => none
      | some (salt, hash) =>
        if salt.length ≠ pwSaltLen * 2 ∨ hash.length ≠ pwHashLen * 2 then none
        else
          match hexToBytes saltHex pwSaltLen, hexToBytes hash pwHashLen with
          | some saltBytes, some hashBytes => some ⟨parsed.1, saltBytes, hashBytes⟩
          | _, _ => none

/-- `verify_pbkdf2`. -/
def verifyPbkdf2 (c : Crypto) (md : Bool) (stored : List Char) (plaintext : Plaintext) : Bool :=
  match splitRecord stored with
  | none => false
  | some r => computePbkdf2 c md r.salt plaintext r.iterations == some r.hash

/-- `verify_legacy_sha256`. A legacy record has no prefix: a salt and a hash, with a colon between
    them. -/
def verifyLegacySha256 (c : Crypto) (stored : List Char) (plaintext : Plaintext) : Bool :=
  match splitAtChar ':' stored with
  | none => false
  | some (salt, hash) =>
    if salt.length ≠ pwSaltLen * 2 ∨ hash.length ≠ pwHashLen * 2 then false
    else
      match hexToBytes stored pwSaltLen, hexToBytes hash pwHashLen with
      | some saltBytes, some expected => computeHash c saltBytes plaintext == expected
      | _, _ => false

/-- `modern`: the record has the PBKDF2 prefix. -/
def isModern (stored : List Char) : Bool := pwPbkdf2Prefix.isPrefixOf stored

/-- The check of a record in `verify_web_password`. -/
def verifyStored (c : Crypto) (md : Bool) (stored : List Char) (plaintext : Plaintext) : Bool :=
  if isModern stored then verifyPbkdf2 c md stored plaintext
  else verifyLegacySha256 c stored plaintext

/-- The record of `set_web_password_hashed`. -/
def formatRecord (salt hash : List UInt8) : List Char :=
  pwPbkdf2Prefix ++ ['6', '0', '0', '0', '0'] ++ '$' :: hexEncode salt ++ '$' :: hexEncode hash

/-! ### Parsing what was formatted -/

/-- Digits are neither white space nor separators. -/
theorem hexChar_spec (n : Nat) :
    isSpace (hexChar n) = false ∧ (hexChar n != '$') = true := by
  by_cases hn : n < 16
  · have hall : ∀ k : Fin 16, isSpace (hexChar k) = false ∧ (hexChar k != '$') = true := by decide
    exact hall ⟨n, hn⟩
  · have hdefault : hexChar n = '0' := by
      rw [hexChar, List.getD_eq_getElem?_getD, List.getElem?_eq_none (by simp; omega),
        Option.getD_none]
    rw [hdefault]
    decide

/-- Two digits scan as their byte. -/
theorem scan2x_hexEncode (b : UInt8) (rest : List Char) :
    scan2x (hexChar (b.toNat / 16) :: hexChar (b.toNat % 16) :: rest) = some b.toNat := by
  have hb := b.toNat_lt
  have hhi := hexNibble_hexChar (n := b.toNat / 16) (by omega)
  have hlo := hexNibble_hexChar (n := b.toNat % 16) (by omega)
  have hvalue : b.toNat / 16 * 16 + b.toNat % 16 = b.toNat := by omega
  have hspace := (hexChar_spec (b.toNat / 16)).1
  unfold scan2x
  rw [List.dropWhile_cons_of_neg (by simp [hspace])]
  simp only [hhi, hlo, hvalue]

/-- Encoded bytes read back, whatever follows them. -/
theorem hexToBytes_hexEncode (bs : List UInt8) (rest : List Char) :
    hexToBytes (hexEncode bs ++ rest) bs.length = some bs := by
  induction bs with
  | nil => rfl
  | cons b bs ih =>
    simp only [hexEncode, List.cons_append, List.length_cons, hexToBytes, scan2x_hexEncode,
      List.drop_succ_cons, List.drop_zero, ih, UInt8.ofNat_toNat]

/-- Encoded bytes hold no separator. -/
theorem splitAtChar_hexEncode (bs : List UInt8) (rest : List Char) :
    splitAtChar '$' (hexEncode bs ++ '$' :: rest) = some (hexEncode bs, rest) := by
  have hall : ∀ d ∈ hexEncode bs, (d != '$') = true := by
    induction bs with
    | nil => simp [hexEncode]
    | cons b bs ih =>
      intro d hd
      rw [hexEncode, List.mem_cons, List.mem_cons] at hd
      rcases hd with rfl | rfl | hrest
      · exact (hexChar_spec _).2
      · exact (hexChar_spec _).2
      · exact ih d hrest
  unfold splitAtChar
  rw [if_pos (by simp), List.takeWhile_append_of_pos hall, List.dropWhile_append_of_pos hall]
  simp

/-- **Round trip.** The record written parses to what it was written from. None of its parts has a
    separator in it. -/
theorem splitRecord_formatRecord {salt hash : List UInt8} (hsalt : salt.length = pwSaltLen)
    (hhash : hash.length = pwHashLen) :
    splitRecord (formatRecord salt hash) = some ⟨pwPbkdf2Iters, salt, hash⟩ := by
  -- The prefix, the number, the salt and the hash are written one behind the other.
  have hmodern : pwPbkdf2Prefix.isPrefixOf (formatRecord salt hash) = true := by
    simp [formatRecord, List.isPrefixOf_iff_prefix]
  have hdrop : (formatRecord salt hash).drop pwPbkdf2Prefix.length =
      '6' :: '0' :: '0' :: '0' :: '0' :: '$' :: (hexEncode salt ++ '$' :: hexEncode hash) := by
    simp [formatRecord]
  have hparse : strtoul ('6' :: '0' :: '0' :: '0' :: '0' :: '$' ::
      (hexEncode salt ++ '$' :: hexEncode hash)) =
        (pwPbkdf2Iters, '$' :: (hexEncode salt ++ '$' :: hexEncode hash)) := by
    simp [strtoul, isSpace, Char.isDigit, decimal, pwPbkdf2Iters, List.takeWhile]
  have hbytes := hexToBytes_hexEncode salt ('$' :: hexEncode hash)
  have hbytes' := hexToBytes_hexEncode hash []
  rw [List.append_nil, hhash] at hbytes'
  rw [hsalt] at hbytes
  unfold splitRecord
  simp only [hmodern, hdrop, hparse, Bool.not_true, Bool.false_eq_true, if_false]
  -- The iterations are within the bounds of the parser.
  rw [if_neg (by simp [pwPbkdf2Iters, pwPbkdf2ItersMin, pwPbkdf2ItersMax])]
  simp only [List.drop_succ_cons, List.drop_zero, splitAtChar_hexEncode]
  -- Both texts have the length of their bytes in hexadecimal.
  rw [if_neg (by simp [hsalt, hhash, pwSaltLen, pwHashLen])]
  simp only [hbytes, hbytes']

/-! ### What a record verifies -/

variable {c : Crypto} {md : Bool} {stored : List Char} {p q : Plaintext}

theorem length_pbkdf2Loop {n : Nat} {u hash : List UInt8} (h : hash.length = 32) :
    (pbkdf2Loop c p n u hash).length = 32 := by
  induction n generalizing u hash with
  | zero => exact h
  | succ n ih =>
    apply ih
    rw [List.length_zipWith, c.length_hmac, h]
    rfl

/-- A computed hash is the hash that a working Mbed TLS computes, of 32 bytes. -/
theorem computePbkdf2_eq_some {salt hash : List UInt8} {iterations : Nat}
    (h : computePbkdf2 c md salt p iterations = some hash) :
    computePbkdf2 c true salt p iterations = some hash ∧ hash.length = pwHashLen := by
  unfold computePbkdf2 at h ⊢
  split at h
  · cases h
  · rename_i hrange
    rw [if_neg hrange]
    split at h
    · cases h
    · refine ⟨h, ?_⟩
      rw [← Option.some.inj h]
      exact length_pbkdf2Loop (c.length_hmac _ _)

/-- What is verified is verified with a working Mbed TLS. -/
theorem verifyStored_md (h : verifyStored c md stored p = true) :
    verifyStored c true stored p = true := by
  unfold verifyStored verifyPbkdf2 at h ⊢
  by_cases hmodern : isModern stored = true
  · rw [if_pos hmodern] at h ⊢
    split at h
    · cases h
    · rename_i r hr
      rw [beq_iff_eq] at h ⊢
      exact (computePbkdf2_eq_some h).1
  · rw [if_neg hmodern] at h ⊢
    exact h

/-- **The record written for a password verifies it.** -/
theorem verifyStored_formatRecord {salt hash : List UInt8} (hsalt : salt.length = pwSaltLen)
    (h : computePbkdf2 c md salt p pwPbkdf2Iters = some hash) :
    verifyStored c true (formatRecord salt hash) p = true := by
  obtain ⟨hcompute, hlen⟩ := computePbkdf2_eq_some h
  have hmodern : isModern (formatRecord salt hash) = true := by
    simp [isModern, formatRecord, List.isPrefixOf_iff_prefix]
  rw [verifyStored, if_pos hmodern, verifyPbkdf2, splitRecord_formatRecord hsalt hlen]
  simp only [hcompute, beq_self_eq_true]

/-- An empty record, which a clear leaves behind, verifies nothing. -/
theorem verifyStored_nil : verifyStored c md [] p = false := rfl

/-- No two of the passwords in play collide, under any 16-byte salt. It is what the results about
    the cache ask of the hash functions. -/
structure CollisionFree (c : Crypto) (W : Plaintext → Prop) : Prop where
  hash : ∀ salt p q, salt.length = pwSaltLen → W p → W q →
    computeHash c salt p = computeHash c salt q → p = q
  pbkdf2 : ∀ salt p q iterations h, salt.length = pwSaltLen → W p → W q →
    computePbkdf2 c true salt p iterations = some h →
      computePbkdf2 c true salt q iterations = some h → p = q

theorem length_hexToBytes {s : List Char} {n : Nat} {bs : List UInt8}
    (h : hexToBytes s n = some bs) : bs.length = n := by
  induction n generalizing s bs with
  | zero => cases h; rfl
  | succ n ih =>
    unfold hexToBytes at h
    split at h
    · rename_i b bs' _ hrest
      cases h
      rw [List.length_cons, ih hrest]
    · cases h

/-- The salt of a parsed record has its length. -/
theorem length_salt_of_splitRecord {r : Record} (h : splitRecord stored = some r) :
    r.salt.length = pwSaltLen := by
  unfold splitRecord at h
  simp only at h
  split at h
  · cases h
  · split at h
    · cases h
    · split at h
      · cases h
      · split at h
        · cases h
        · split at h
          · rename_i saltBytes hashBytes hsalt hhash
            cases h
            exact length_hexToBytes hsalt
          · cases h

/-- **A record verifies one password only**, among passwords that do not collide. It is of one of
    the two formats, and both are covered. -/
theorem verifyStored_unique {W : Plaintext → Prop} (hfree : CollisionFree c W) (hp : W p)
    (hq : W q) (h : verifyStored c true stored p = true)
    (h' : verifyStored c true stored q = true) : p = q := by
  unfold verifyStored at h h'
  -- The two kinds of records, each through the hash that it holds.
  by_cases hmodern : isModern stored = true
  · rw [if_pos hmodern, verifyPbkdf2] at h h'
    rcases hr : splitRecord stored with _ | r
    · simp [hr] at h
    · simp only [hr, beq_iff_eq] at h h'
      -- Two passwords with the record's key have the same PBKDF2, against collision freedom.
      exact hfree.pbkdf2 r.salt p q r.iterations r.hash (length_salt_of_splitRecord hr) hp hq h h'
  · rw [if_neg hmodern, verifyLegacySha256] at h h'
    rcases hsplit : splitAtChar ':' stored with _ | ⟨salt, hash⟩
    · simp [hsplit] at h
    · simp only [hsplit] at h h'
      split at h
      · cases h
      · rename_i hlen
        rw [if_neg hlen] at h'
        rcases hsalt : hexToBytes stored pwSaltLen with _ | saltBytes
        · simp [hsalt] at h
        · rcases hhash : hexToBytes hash pwHashLen with _ | expected
          · simp [hsalt, hhash] at h
          · simp only [hsalt, hhash, beq_iff_eq] at h h'
            exact hfree.hash saltBytes p q (length_hexToBytes hsalt) hp hq (h.trans h'.symm)

end SubnetRouter.Web
