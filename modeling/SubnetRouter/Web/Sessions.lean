import SubnetRouter.Lib.Hex
import SubnetRouter.Lib.Table
import SubnetRouter.Web.LoginGuard

namespace SubnetRouter.Web

open Lib

/-!
# The session table (`main/web_ui.c`)

Four sessions in RAM, each a random hex token and an expiry time that every authenticated
request moves.

* `sessionFindForReq` — the slot that a request's cookie names.
* `sessionFindForReq_eq_some` — such a slot is alive, and its token is the one presented.
* `mem_sessionCreate`, `mem_sessionExtendAllAlive`, `mem_requestAuthenticated` — where the
  sessions of an updated table come from.
-/

/-- `web_session_t`; an empty token marks a free slot. -/
structure Session where
  token : List Char
  expiresUs : Nat
deriving DecidableEq, Repr

/-- A zeroed session. -/
def Session.zero : Session := ⟨[], 0⟩

/-- The session has a token and has not expired. -/
def Session.alive (now : Nat) (s : Session) : Bool := !s.token.isEmpty && decide (now < s.expiresUs)

/-- `WEB_UI_SESSION_TOKEN_LEN`, `WEB_UI_SESSION_MAX`. -/
def webUiSessionTokenLen : Nat := 32

def webUiSessionMax : Nat := 4

/-- `"ts_session="`. -/
def cookieName : List Char := ['t', 's', '_', 's', 'e', 's', 's', 'i', 'o', 'n', '=']

/-- `strstr`. -/
def strstr (needle : List Char) : List Char → Option (List Char)
  | [] => if needle.isEmpty then some [] else none
  | c :: cs => if needle.isPrefixOf (c :: cs) then some (c :: cs) else strstr needle cs

/-- What stands behind the first `ts_session=` of a cookie header of at most 159 characters. A
    longer header is not read at all. -/
def cookieValue (cookie : Option (List Char)) : Option (List Char) :=
  match cookie with
  | none => none
  | some hdr =>
    if 160 ≤ hdr.length then none
    else (strstr cookieName hdr).map fun p => p.drop cookieName.length

/-- `strncmp(p, token, n) == 0 && (p[n] == '\0' || p[n] == ';')`. -/
def tokenMatches (p token : List Char) : Bool :=
  token.isPrefixOf p && ((p.drop token.length).isEmpty || (p.drop token.length).head? == some ';')

/-- `session_find_for_req`. The first session decides that is alive and has the token. -/
def sessionFindForReq (sessions : List Session) (cookie : Option (List Char)) (now : Nat) :
    Option Nat :=
  match cookieValue cookie with
  | none => none
  | some p => sessions.findIdx? fun s => s.alive now && tokenMatches p s.token

/-- `session_pick_new_slot`, from slot `i` on: a free slot, else the earliest expiry. An expired
    session does not count as free. -/
def pickNewSlot : Nat → Nat → Nat → List Session → Nat
  | _, oldest, _, [] => oldest
  | i, oldest, oldestExp, s :: ss =>
    if s.token.isEmpty then i
    else if s.expiresUs < oldestExp then pickNewSlot (i + 1) i s.expiresUs ss
    else pickNewSlot (i + 1) oldest oldestExp ss

/-- `session_pick_new_slot`. -/
def sessionPickNewSlot (sessions : List Session) : Nat := pickNewSlot 0 0 uint64Max sessions

/-- The expiry of a session used at `now`; a zero timeout never expires. -/
def expiryAt (timeoutS now : Nat) : Nat :=
  if timeoutS = 0 then uint64Max else now + timeoutS * 1000000

/-- `session_create` with the random bytes of the new token. -/
def sessionCreate (sessions : List Session) (raw : List UInt8) (timeoutS now : Nat) :
    List Session :=
  sessions.set (sessionPickNewSlot sessions) ⟨hexEncode raw, expiryAt timeoutS now⟩

/-- `session_clear_all`. -/
def sessionClearAll (sessions : List Session) : List Session := sessions.map fun _ => Session.zero

/-- `session_clear_slot`. -/
def sessionClearSlot (sessions : List Session) (i : Option Nat) : List Session :=
  match i with
  | none => sessions
  | some i => sessions.set i Session.zero

/-- `session_extend_all_alive`. -/
def sessionExtendAllAlive (sessions : List Session) (timeoutS now : Nat) : List Session :=
  sessions.map fun s => if s.alive now then { s with expiresUs := expiryAt timeoutS now } else s

/-- `request_authenticated`, given what `is_web_password_set` answers. The session that lets a
    request in gets its full time again. -/
def requestAuthenticated (webAuthEnabled passwordSet : Bool) (sessions : List Session)
    (timeoutS : Nat) (cookie : Option (List Char)) (now : Nat) : Bool × List Session :=
  if !webAuthEnabled || !passwordSet then (true, sessions)
  else
    match sessionFindForReq sessions cookie now with
    | none => (false, sessions)
    | some i =>
      (true, sessions.set i
        { sessions.getD i Session.zero with expiresUs := expiryAt timeoutS now })

/-! ### The token a request presents -/

variable {sessions : List Session} {cookie : Option (List Char)} {timeoutS now i : Nat}
  {s : Session}

/-- The token of a request: its cookie value up to the next semicolon. -/
def presentedToken (cookie : Option (List Char)) : Option (List Char) :=
  (cookieValue cookie).map fun p => p.takeWhile fun c => c != ';'

/-- A token without semicolons that matches is what the value starts with. -/
theorem takeWhile_of_tokenMatches {p token : List Char} (hmatch : tokenMatches p token = true)
    (htoken : ';' ∉ token) : (p.takeWhile fun c => c != ';') = token := by
  simp only [tokenMatches, Bool.and_eq_true, Bool.or_eq_true, List.isPrefixOf_iff_prefix] at hmatch
  obtain ⟨⟨rest, rfl⟩, hend⟩ := hmatch
  rw [List.drop_left] at hend
  have hall : ∀ c ∈ token, (c != ';') = true := by
    intro c hc
    have hne : c ≠ ';' := fun heq => htoken (heq ▸ hc)
    simpa using hne
  rw [List.takeWhile_append_of_pos hall]
  rcases rest with _ | ⟨c, cs⟩
  · simp
  · rcases hend with hnil | hsemi
    · cases hnil
    · have hc : c = ';' := by simpa using hsemi
      simp [hc]

/-- **What a found slot holds.** The session is alive, and its token is the one that the
    request presents. -/
theorem sessionFindForReq_eq_some (h : sessionFindForReq sessions cookie now = some i) :
    ∃ s, sessions[i]? = some s ∧ s.alive now = true ∧
      (';' ∉ s.token → presentedToken cookie = some s.token) := by
  unfold sessionFindForReq at h
  split at h
  · cases h
  · rename_i p hp
    obtain ⟨hlt, hmatch, -⟩ := List.findIdx?_eq_some_iff_getElem.mp h
    rw [Bool.and_eq_true] at hmatch
    refine ⟨sessions[i], List.getElem?_eq_getElem hlt, hmatch.1, ?_⟩
    intro htoken
    rw [presentedToken, hp, Option.map_some, takeWhile_of_tokenMatches hmatch.2 htoken]

/-! ### Where sessions come from -/

/-- A new session, or one that was there. -/
theorem mem_sessionCreate {raw : List UInt8} (h : s ∈ sessionCreate sessions raw timeoutS now) :
    s = ⟨hexEncode raw, expiryAt timeoutS now⟩ ∨ s ∈ sessions :=
  mem_set_of h

theorem mem_sessionClearAll (h : s ∈ sessionClearAll sessions) : s = Session.zero := by
  obtain ⟨s', -, rfl⟩ := List.mem_map.mp h
  rfl

theorem mem_sessionClearSlot {slot : Option Nat} (h : s ∈ sessionClearSlot sessions slot) :
    s = Session.zero ∨ s ∈ sessions := by
  unfold sessionClearSlot at h
  split at h
  · exact .inr h
  · exact mem_set_of h

/-- A session of the extended table is one that was there, or was alive with another expiry. -/
theorem mem_sessionExtendAllAlive (h : s ∈ sessionExtendAllAlive sessions timeoutS now) :
    s ∈ sessions ∨ ∃ s' ∈ sessions, s'.alive now = true ∧ s.token = s'.token := by
  obtain ⟨s', hs', rfl⟩ := List.mem_map.mp h
  by_cases halive : s'.alive now = true
  · rw [if_pos halive]
    exact .inr ⟨s', hs', halive, rfl⟩
  · rw [if_neg halive]
    exact .inl hs'

/-- An authenticated request at most moves the expiry of a session that is alive. -/
theorem mem_requestAuthenticated {webAuthEnabled passwordSet : Bool}
    (h : s ∈ (requestAuthenticated webAuthEnabled passwordSet sessions timeoutS cookie now).2) :
    s ∈ sessions ∨ ∃ s' ∈ sessions, s'.alive now = true ∧ s.token = s'.token := by
  unfold requestAuthenticated at h
  split at h
  · exact .inl h
  · split at h
    · exact .inl h
    · rename_i i hfind
      obtain ⟨s', hs', halive, -⟩ := sessionFindForReq_eq_some hfind
      rcases mem_set_of h with rfl | hold
      · refine .inr ⟨s', List.mem_of_getElem? hs', halive, ?_⟩
        simp [List.getD_eq_getElem?_getD, hs']
      · exact .inl hold

/-- With the gate on and a password set, only a live session is authenticated. -/
theorem requestAuthenticated_iff :
    (requestAuthenticated true true sessions timeoutS cookie now).1 = true ↔
      (sessionFindForReq sessions cookie now).isSome := by
  unfold requestAuthenticated
  rcases sessionFindForReq sessions cookie now with _ | i <;> simp

/-- Tokens are hexadecimal text. -/
theorem semicolon_not_mem_hexEncode (raw : List UInt8) : ';' ∉ hexEncode raw := by
  have hdigit : ∀ n, hexChar n ≠ ';' := by
    intro n
    by_cases hn : n < 16
    -- Sixteen digits, none of them the separator of cookies; beyond them the default is a digit
    -- too.
    · have hall : ∀ k : Fin 16, hexChar k ≠ ';' := by decide
      exact hall ⟨n, hn⟩
    · have hdefault : hexChar n = '0' := by
        unfold hexChar
        rw [List.getD_eq_getElem?_getD, List.getElem?_eq_none (by simp; omega), Option.getD_none]
      rw [hdefault]
      decide
  induction raw with
  | nil => simp [hexEncode]
  | cons b bs ih =>
    intro hmem
    rw [hexEncode, List.mem_cons, List.mem_cons] at hmem
    rcases hmem with hhi | hlo | hrest
    · exact hdigit _ hhi.symm
    · exact hdigit _ hlo.symm
    · exact ih hrest

end SubnetRouter.Web
