import Mathlib.Data.List.Nodup
import Mathlib.Data.List.TakeWhile
import SubnetRouter.Lib.Run
import SubnetRouter.Web.Revocation

namespace SubnetRouter.Web

open Lib

/-!
# The session table over runs (`main/web_ui.c`)

Beside the table, a standing for every token: whether it was issued, whether it was logged
out, cleared or evicted since, when its window was last opened and how long that is, and
whether it was ever idle past it.  The table is what the standings say
(`SessionTable.accepts_iff_good`).

* `Standing` — the history of one token.
* `SessionTable.next` — one step of the table, and what it does to the standings.
* `Backs` — a slot and the standing of its token agree.
* `sessionPickNewSlot_spec` — the slot that a new session takes.
-/

/-! ### Standings -/

/-- What the past says of one token; `windowS` is zero for a window without end. It is kept along
    the run, beside the table. -/
structure Standing where
  issued : Bool
  ended : Bool
  lapsed : Bool
  openedAt : Nat
  windowS : Nat
deriving DecidableEq, Repr

namespace Standing

/-- A token that was not issued yet. -/
def unissued : Standing := ⟨false, false, false, 0, 0⟩

/-- A token that is issued now. -/
def issue (timeoutS now : Nat) : Standing := ⟨true, false, false, now, timeoutS⟩

/-- Issued, neither logged out nor cleared nor evicted since, and never idle past its
    window. -/
def good (p : Standing) : Bool := p.issued && !p.ended && !p.lapsed

/-- Logged out, cleared or evicted. -/
def finish (p : Standing) : Standing := { p with ended := p.ended || p.issued }

/-- A use, or a change of the timeout, opens a new window; it does nothing for a token that
    is not good. -/
def reopen (p : Standing) (timeoutS now : Nat) : Standing :=
  if p.good then { p with openedAt := now, windowS := timeoutS } else p

/-- Time has passed: the token lapses when its window is over. -/
def wait (p : Standing) (now : Nat) : Standing :=
  { p with lapsed :=
      p.lapsed || p.windowS != 0 && decide (p.openedAt + p.windowS * 1000000 ≤ now) }

end Standing

/-! ### The table and its steps -/

/-- What happens to the table; a request carries the state of the web gate. Time passes between
    them, in any amount. -/
inductive SessionAct where
  | create (raw : List UInt8)
  | request (webAuthEnabled passwordSet : Bool) (cookie : Option (List Char))
  | logout (cookie : Option (List Char))
  | clearAll
  | setTimeout (v : Nat)
  | advance (us : Nat)
deriving DecidableEq, Repr

/-- The token that an action issues. -/
def SessionAct.issues : SessionAct → Option (List Char)
  | create raw => some (hexEncode raw)
  | _ => none

/-- The sessions, the timeout and the clock, with the standing of every token. The first three are
    the code's. -/
structure SessionTable where
  sessions : List Session
  timeoutS : Nat
  clock : Nat
  standing : List Char → Standing

namespace SessionTable

/-- The token in the slot that the next session takes; empty when the slot is free. -/
def evicted (t : SessionTable) : List Char :=
  (t.sessions.getD (sessionPickNewSlot t.sessions) Session.zero).token

/-- The action is possible: a token has its 32 random bytes, and the clock is an `int64_t` of
    microseconds. -/
def Possible (t : SessionTable) : SessionAct → Prop
  | .create raw => raw.length = webUiSessionTokenLen
  | .advance us => t.clock + us < 2 ^ 63
  | _ => True

instance (t : SessionTable) (a : SessionAct) : Decidable (t.Possible a) := by
  unfold Possible
  split <;> infer_instance

/-- One action on the table and on the standings. A token that is created anew stands as if it had
    never been there. -/
def next (t : SessionTable) : SessionAct → SessionTable
  | .create raw =>
    { t with
      sessions := sessionCreate t.sessions raw t.timeoutS t.clock
      standing := fun tok =>
        if tok = hexEncode raw then Standing.issue t.timeoutS t.clock
        else if tok = t.evicted then (t.standing tok).finish
        else t.standing tok }
  | .request webAuthEnabled passwordSet cookie =>
    { t with
      sessions :=
        (requestAuthenticated webAuthEnabled passwordSet t.sessions t.timeoutS cookie t.clock).2
      -- a request that passes an open gate is no use of the session it names
      standing := fun tok =>
        if webAuthEnabled && passwordSet && presentedToken cookie == some tok then
          (t.standing tok).reopen t.timeoutS t.clock
        else t.standing tok }
  | .logout cookie =>
    { t with
      sessions := sessionClearSlot t.sessions (sessionFindForReq t.sessions cookie t.clock)
      standing := fun tok =>
        if presentedToken cookie = some tok then (t.standing tok).finish else t.standing tok }
  | .clearAll =>
    { t with
      sessions := sessionClearAll t.sessions
      standing := fun tok => (t.standing tok).finish }
  | .setTimeout v =>
    { t with
      timeoutS := sessionTimeoutClamp v
      sessions := sessionExtendAllAlive t.sessions (sessionTimeoutClamp v) t.clock
      standing := fun tok => (t.standing tok).reopen (sessionTimeoutClamp v) t.clock }
  | .advance us =>
    { t with
      clock := t.clock + us
      standing := fun tok => (t.standing tok).wait (t.clock + us) }

/-- The machine of all histories of the table. -/
def machine : Machine SessionTable SessionAct :=
  ⟨fun t a => if t.Possible a then some (t.next a) else none⟩

/-- The table after a start, with the timeout that was loaded. -/
def started (timeoutS clock : Nat) : SessionTable :=
  ⟨List.replicate webUiSessionMax Session.zero, timeoutS, clock, fun _ => Standing.unissued⟩

/-- The request whose only cookie is this token is accepted, with the web gate closed. -/
def accepts (t : SessionTable) (tok : List Char) : Bool :=
  (requestAuthenticated true true t.sessions t.timeoutS (some (cookieName ++ tok)) t.clock).1

/-- Tokens are distinct: none is issued twice. -/
def Fresh (t : SessionTable) (a : SessionAct) : Prop :=
  ∀ tok, a.issues = some tok → (t.standing tok).issued = false

end SessionTable

/-! ### The slot of a new session -/

variable {sessions : List Session} {s s' : Session} {i now timeoutS : Nat}

/-- The scan ends at a free slot, at the earliest expiry, or where it started from. By induction on
    the sessions, for every start. -/
theorem pickNewSlot_spec {oldest oldestExp : Nat} :
    (∃ k s, pickNewSlot i oldest oldestExp sessions = i + k ∧ sessions[k]? = some s ∧
        (s.token = [] ∨ (∀ s' ∈ sessions, s'.token ≠ []) ∧ s.expiresUs < oldestExp ∧
          ∀ s' ∈ sessions, s.expiresUs ≤ s'.expiresUs)) ∨
      (pickNewSlot i oldest oldestExp sessions = oldest ∧
        ∀ s' ∈ sessions, s'.token ≠ [] ∧ oldestExp ≤ s'.expiresUs) := by
  induction sessions generalizing i oldest oldestExp with
  | nil => exact .inr ⟨rfl, by simp⟩
  | cons s ss ih =>
    rw [pickNewSlot]
    by_cases hfree : s.token = []
    · exact .inl ⟨0, s, by simp [hfree], rfl, .inl hfree⟩
    · rw [if_neg (by simpa using hfree)]
      by_cases hlt : s.expiresUs < oldestExp
      · -- the head is the best candidate so far
        rw [if_pos hlt]
        left
        rcases @ih (i + 1) i s.expiresUs with ⟨k, s', hk, hs', hcase⟩ | ⟨hk, hall⟩
        · refine ⟨k + 1, s', by omega, hs', ?_⟩
          rcases hcase with htok | ⟨hne, hexp, hmin⟩
          · exact .inl htok
          · refine .inr ⟨List.forall_mem_cons.mpr ⟨hfree, hne⟩, by omega, ?_⟩
            exact List.forall_mem_cons.mpr ⟨Nat.le_of_lt hexp, hmin⟩
        · refine ⟨0, s, hk, rfl, .inr ⟨?_, hlt, ?_⟩⟩
          · exact List.forall_mem_cons.mpr ⟨hfree, fun s' hs' => (hall s' hs').1⟩
          · exact List.forall_mem_cons.mpr ⟨Nat.le_refl _, fun s' hs' => (hall s' hs').2⟩
      · -- the candidate stays
        rw [if_neg hlt]
        rcases @ih (i + 1) oldest oldestExp with ⟨k, s', hk, hs', hcase⟩ | ⟨hk, hall⟩
        · refine .inl ⟨k + 1, s', by omega, hs', ?_⟩
          rcases hcase with htok | ⟨hne, hexp, hmin⟩
          · exact .inl htok
          · refine .inr ⟨List.forall_mem_cons.mpr ⟨hfree, hne⟩, hexp, ?_⟩
            exact List.forall_mem_cons.mpr ⟨by omega, hmin⟩
        · refine .inr ⟨hk, ?_⟩
          exact List.forall_mem_cons.mpr ⟨⟨hfree, Nat.not_lt.mp hlt⟩, hall⟩

/-- **The slot of a new session** is free, or holds an expiry that is no later than any. -/
theorem sessionPickNewSlot_spec (hne : sessions ≠ []) :
    ∃ s, sessions[sessionPickNewSlot sessions]? = some s ∧
      (s.token = [] ∨ (∀ s' ∈ sessions, s'.token ≠ []) ∧
        ((∀ s' ∈ sessions, s.expiresUs ≤ s'.expiresUs) ∨
          ∀ s' ∈ sessions, uint64Max ≤ s'.expiresUs)) := by
  rcases @pickNewSlot_spec sessions 0 0 uint64Max with ⟨k, s, hk, hs, hcase⟩ | ⟨hk, hall⟩
  · rw [Nat.zero_add] at hk
    refine ⟨s, by rw [sessionPickNewSlot, hk, hs], ?_⟩
    rcases hcase with htok | ⟨hall, -, hmin⟩
    · exact .inl htok
    · exact .inr ⟨hall, .inl hmin⟩
  · obtain ⟨s, rest, rfl⟩ := List.exists_cons_of_ne_nil hne
    refine ⟨s, by rw [sessionPickNewSlot, hk]; rfl, ?_⟩
    exact .inr ⟨fun s' hs' => (hall s' hs').1, .inr fun s' hs' => (hall s' hs').2⟩

/-- A live session makes room only when every session is alive. -/
theorem alive_of_picked_alive (hnow : now < uint64Max)
    (hs : sessions[sessionPickNewSlot sessions]? = some s) (halive : s.alive now = true) :
    ∀ s' ∈ sessions, s'.alive now = true := by
  have hne : sessions ≠ [] := by
    rintro rfl
    simp at hs
  obtain ⟨s₀, hs₀, hcase⟩ := sessionPickNewSlot_spec hne
  obtain rfl : s = s₀ := Option.some.inj (hs.symm.trans hs₀)
  simp only [Session.alive, Bool.and_eq_true, Bool.not_eq_true', List.isEmpty_eq_false_iff,
    decide_eq_true_eq] at halive ⊢
  rcases hcase with hfree | ⟨hall, hmin | hmax⟩
  · exact absurd hfree halive.1
  · exact fun s' hs' => ⟨hall s' hs', Nat.lt_of_lt_of_le halive.2 (hmin s' hs')⟩
  · exact fun s' hs' => ⟨hall s' hs', Nat.lt_of_lt_of_le hnow (hmax s' hs')⟩

/-! ### The slot of a request -/

/-- The token presented is the one that matches. -/
theorem tokenMatches_takeWhile (p : List Char) :
    tokenMatches p (p.takeWhile fun c => c != ';') = true := by
  have hsplit := List.takeWhile_append_dropWhile (p := fun c => c != ';') (l := p)
  have hdrop : p.drop (p.takeWhile fun c => c != ';').length = p.dropWhile fun c => c != ';' := by
    have hboth := congrArg (List.drop (p.takeWhile fun c => c != ';').length) hsplit
    rw [List.drop_left] at hboth
    exact hboth.symm
  simp only [tokenMatches, Bool.and_eq_true, Bool.or_eq_true, List.isPrefixOf_iff_prefix]
  refine ⟨List.takeWhile_prefix _, ?_⟩
  rw [hdrop]
  rcases hrest : p.dropWhile fun c => c != ';' with _ | ⟨c, cs⟩
  · simp
  · right
    have hne : (p.dropWhile fun c => c != ';') ≠ [] := by simp [hrest]
    have hhead := List.head_dropWhile_not (fun c => c != ';') hne
    simp only [hrest, List.head_cons, bne_eq_false_iff_eq] at hhead
    simp [hhead]

/-- The token of a request is in no live session when no slot is found. -/
theorem presentedToken_ne_of_find_none {cookie : Option (List Char)}
    (h : sessionFindForReq sessions cookie now = none) (hs : s ∈ sessions)
    (halive : s.alive now = true) : presentedToken cookie ≠ some s.token := by
  unfold sessionFindForReq at h
  unfold presentedToken
  rcases hvalue : cookieValue cookie with _ | p
  · simp
  · simp only [hvalue] at h
    intro htok
    rw [Option.map_some, Option.some.injEq] at htok
    have hmatch := tokenMatches_takeWhile p
    rw [htok] at hmatch
    have hno := List.findIdx?_eq_none_iff.mp h s hs
    simp [halive, hmatch] at hno

/-! ### What a slot says of its token -/

/-- A slot and the standing of its token agree.  A slot that has expired keeps its token, which
    may be logged out then. -/
structure Backs (p : Standing) (now : Nat) (s : Session) : Prop where
  issued : p.issued = true
  kept : p.ended = true → p.lapsed = true
  expiry : s.expiresUs = expiryAt p.windowS p.openedAt
  lapsed : p.lapsed = true ↔ s.expiresUs ≤ now

variable {p : Standing} {tok : List Char}

/-- A window lies ahead when it is opened. -/
theorem lt_expiryAt (hnow : now < uint64Max) : now < expiryAt timeoutS now := by
  unfold expiryAt
  split
  · exact hnow
  · omega

/-- A session that is created now. -/
theorem backs_issue (hnow : now < uint64Max) :
    Backs (Standing.issue timeoutS now) now ⟨tok, expiryAt timeoutS now⟩ where
  issued := rfl
  kept := id
  expiry := rfl
  lapsed := by
    have hahead : ¬ expiryAt timeoutS now ≤ now := Nat.not_le.mpr (lt_expiryAt hnow)
    simp [Standing.issue, hahead]

namespace Backs

theorem not_lapsed (h : Backs p now s) (hexp : now < s.expiresUs) : p.lapsed = false := by
  rw [← Bool.not_eq_true, h.lapsed]
  omega

theorem good (h : Backs p now s) (hexp : now < s.expiresUs) : p.good = true := by
  have hlapsed := h.not_lapsed hexp
  have hended : p.ended = false := by
    rw [← Bool.not_eq_true]
    intro hended
    simp [h.kept hended] at hlapsed
  simp [Standing.good, h.issued, hended, hlapsed]

/-- A new window of a live slot. -/
theorem reopen (h : Backs p now s) (hnow : now < uint64Max) (hexp : now < s.expiresUs)
    (hs' : s'.expiresUs = expiryAt timeoutS now) : Backs (p.reopen timeoutS now) now s' := by
  have hlapsed := h.not_lapsed hexp
  have hahead : ¬ s'.expiresUs ≤ now := by
    rw [hs']
    exact Nat.not_le.mpr (lt_expiryAt hnow)
  rw [Standing.reopen, if_pos (h.good hexp)]
  exact ⟨h.issued, h.kept, hs', by simp [hlapsed, hahead]⟩

/-- A slot that has expired stays as it is. -/
theorem reopen_of_expired (h : Backs p now s) (hexp : s.expiresUs ≤ now) :
    Backs (p.reopen timeoutS now) now s := by
  have hbad : p.good = false := by simp [Standing.good, h.lapsed.mpr hexp]
  rw [Standing.reopen, hbad]
  exact h

/-- Time passes for the slot and for its token alike. -/
theorem wait {later : Nat} (h : Backs p now s) (hle : now ≤ later) (hlater : later < uint64Max) :
    Backs (p.wait later) later s := by
  have hlapsed : (p.wait later).lapsed = true ↔ s.expiresUs ≤ later := by
    have hexp := h.expiry
    unfold expiryAt at hexp
    simp only [Standing.wait, Bool.or_eq_true, h.lapsed, Bool.and_eq_true, bne_iff_ne,
      decide_eq_true_eq]
    split at hexp <;> omega
  refine ⟨h.issued, ?_, h.expiry, hlapsed⟩
  intro hended
  simp [Standing.wait, h.kept hended]

end Backs

/-! ### The invariant -/

namespace SessionTable

/-- The tokens by slot. -/
def tokens (t : SessionTable) : List (List Char) := t.sessions.map Session.token

/-- The table and the standings agree: slots hold different tokens that were issued, every
    issued token that was not taken away has its slot, and slot and standing agree. -/
structure Inv (t : SessionTable) : Prop where
  slots : t.sessions ≠ []
  clock : t.clock < uint64Max
  shape : ∀ tok, (t.standing tok).issued = true →
    tok.length = 2 * webUiSessionTokenLen ∧ ';' ∉ tok
  backed : ∀ s ∈ t.sessions, s.token ≠ [] → Backs (t.standing s.token) t.clock s
  held : ∀ tok, (t.standing tok).issued = true → (t.standing tok).ended = false →
    tok ∈ t.tokens
  distinct : ∀ (i j : Nat) (tok : List Char), t.tokens[i]? = some tok →
    t.tokens[j]? = some tok → tok ≠ [] → i = j

variable {t t' : SessionTable} {window : Nat}

theorem mem_tokens (hs : s ∈ t.sessions) : s.token ∈ t.tokens := List.mem_map_of_mem hs

/-- A token in a slot holds no semicolon. -/
theorem Inv.chars (h : t.Inv) (hs : s ∈ t.sessions) : ';' ∉ s.token := by
  by_cases htok : s.token = []
  · simp [htok]
  · exact (h.shape _ (h.backed s hs htok).issued).2

/-- A token in a slot is not empty when it was issued. -/
theorem Inv.ne_nil (h : t.Inv) (hissued : (t.standing tok).issued = true) : tok ≠ [] := by
  rintro rfl
  have hlen := (h.shape _ hissued).1
  simp [webUiSessionTokenLen] at hlen

/-- Two sessions with one token are one. -/
theorem Inv.eq_slot (h : t.Inv) {j : Nat} (hs : t.sessions[i]? = some s)
    (hs' : t.sessions[j]? = some s') (htok : s'.token = s.token) (hne : s.token ≠ []) : i = j := by
  apply h.distinct i j s.token
  · simp [tokens, hs]
  · simp [tokens, hs', htok]
  · exact hne

/-- A table after a start. -/
theorem inv_started (hclock : now < 2 ^ 63) : (started window now).Inv := by
  have hmax : (2 : Nat) ^ 63 < uint64Max := by decide
  have hzero : ∀ tok ∈ (started window now).tokens, tok = [] := by
    intro tok htok
    obtain ⟨s, hs, rfl⟩ := List.mem_map.mp htok
    rw [List.eq_of_mem_replicate hs]
    rfl
  exact {
    slots := by simp [started, webUiSessionMax]
    clock := Nat.lt_trans hclock hmax
    shape := fun tok h => by cases h
    backed := fun s hs htok => absurd (hzero _ (mem_tokens hs)) htok
    held := fun tok h => by cases h
    distinct := fun i j tok htok _ hne => absurd (hzero tok (List.mem_of_getElem? htok)) hne }

/-- A step that moves no token and takes none away keeps the invariant if slots and standings
    agree afterwards. -/
theorem Inv.of_tokens_eq (h : t.Inv) (htokens : t'.tokens = t.tokens)
    (hclock : t'.clock < uint64Max)
    (hsame : ∀ tok, (t'.standing tok).issued = (t.standing tok).issued ∧
      (t'.standing tok).ended = (t.standing tok).ended)
    (hbacked : ∀ s ∈ t'.sessions, s.token ≠ [] → Backs (t'.standing s.token) t'.clock s) :
    t'.Inv where
  slots := by
    intro hnil
    apply h.slots
    have hmap : t'.tokens = [] := by simp [tokens, hnil]
    rw [htokens] at hmap
    exact List.map_eq_nil_iff.mp hmap
  clock := hclock
  shape tok hissued := h.shape tok ((hsame tok).1 ▸ hissued)
  backed := hbacked
  held tok hissued hended := by
    rw [htokens]
    exact h.held tok ((hsame tok).1 ▸ hissued) ((hsame tok).2 ▸ hended)
  distinct := htokens ▸ h.distinct

/-- A step that gives one slot another session keeps the invariant: its token is in no other slot,
    and the one that it takes the place of is ended. -/
theorem Inv.of_set {s₀ : Session} (h : t.Inv) (hs₀ : t.sessions[i]? = some s₀)
    (hsessions : t'.sessions = t.sessions.set i s') (hclock : t'.clock = t.clock)
    (hnew : ∀ s ∈ t.sessions, s.token ≠ [] → s.token ≠ s'.token)
    (hsame : ∀ tok, tok ≠ s'.token → tok ≠ s₀.token → t'.standing tok = t.standing tok)
    (hended : s₀.token ≠ s'.token → (t'.standing s₀.token).issued = true →
      (t'.standing s₀.token).ended = true)
    (hshape : ∀ tok, (t'.standing tok).issued = true →
      tok.length = 2 * webUiSessionTokenLen ∧ ';' ∉ tok)
    (hbacked : s'.token ≠ [] → Backs (t'.standing s'.token) t'.clock s') : t'.Inv := by
  have htokens : t'.tokens = t.tokens.set i s'.token := by
    rw [tokens, hsessions, List.map_set, tokens]
  have hslot : t.tokens[i]? = some s₀.token := by simp [tokens, hs₀]
  have hlt : i < t.tokens.length := (List.getElem?_eq_some_iff.mp hslot).1
  -- no other slot has the new token
  have hnone : ∀ (m : Nat), s'.token ≠ [] → t.tokens[m]? ≠ some s'.token := by
    intro m hne hm
    obtain ⟨s, hs, htok⟩ := List.mem_map.mp (List.mem_of_getElem? hm)
    exact hnew s hs (htok ▸ hne) htok
  exact {
    slots := by
      rw [hsessions]
      simpa using h.slots
    clock := hclock ▸ h.clock
    shape := hshape
    backed := by
      intro s hs htok
      rw [hsessions] at hs
      obtain ⟨j, hj⟩ := List.mem_iff_getElem?.mp hs
      rcases getElem?_set_cases hj with ⟨-, rfl⟩ | ⟨hij, hold⟩
      · exact hbacked htok
      · have hmem := List.mem_of_getElem? hold
        have hother : s.token ≠ s₀.token := fun heq => hij (h.eq_slot hs₀ hold heq (heq ▸ htok))
        rw [hsame s.token (hnew s hmem htok) hother, hclock]
        exact h.backed s hmem htok
    held := by
      intro tok hissued hlive
      rw [htokens]
      by_cases heq : tok = s'.token
      · rw [heq]
        exact List.mem_set hlt _
      by_cases hold : tok = s₀.token
      · -- the token that was there is ended
        rw [hold] at hissued hlive heq
        rw [hended heq hissued] at hlive
        cases hlive
      · rw [hsame tok heq hold] at hissued hlive
        obtain ⟨j, hj⟩ := List.mem_iff_getElem?.mp (h.held tok hissued hlive)
        have hij : i ≠ j := by
          rintro rfl
          rw [hslot, Option.some.injEq] at hj
          exact hold hj.symm
        apply List.mem_iff_getElem?.mpr
        exact ⟨j, by rw [List.getElem?_set_ne hij, hj]⟩
    distinct := by
      intro j k tok hj hk hne
      rw [htokens] at hj hk
      rcases getElem?_set_cases hj with ⟨hj', rfl⟩ | ⟨-, hj⟩
      · rcases getElem?_set_cases hk with ⟨hk', -⟩ | ⟨-, hk⟩
        · exact hj'.symm.trans hk'
        · exact absurd hk (hnone k hne)
      · rcases getElem?_set_cases hk with ⟨-, rfl⟩ | ⟨-, hk⟩
        · exact absurd hj (hnone j hne)
        · exact h.distinct j k tok hj hk hne }

theorem reopen_same (p : Standing) (window now : Nat) :
    (p.reopen window now).issued = p.issued ∧ (p.reopen window now).ended = p.ended := by
  unfold Standing.reopen
  split <;> exact ⟨rfl, rfl⟩

/-! ### Steps -/

theorem inv_advance {us : Nat} (h : t.Inv) (hclock : t.clock + us < 2 ^ 63) :
    (t.next (.advance us)).Inv := by
  have hmax : (2 : Nat) ^ 63 < uint64Max := by decide
  have hlater : t.clock + us < uint64Max := Nat.lt_trans hclock hmax
  refine h.of_tokens_eq rfl hlater (fun tok => ⟨rfl, rfl⟩) ?_
  intro s hs htok
  exact (h.backed s hs htok).wait (Nat.le_add_right _ _) hlater

theorem inv_setTimeout {v : Nat} (h : t.Inv) : (t.next (.setTimeout v)).Inv := by
  refine h.of_tokens_eq ?_ h.clock (fun tok => reopen_same _ _ _) ?_
  · simp only [tokens, next, sessionExtendAllAlive, List.map_map]
    apply List.map_congr_left
    intro s _
    simp only [Function.comp]
    split <;> rfl
  · intro s hs htok
    obtain ⟨s₀, hs₀, rfl⟩ := List.mem_map.mp hs
    by_cases halive : s₀.alive t.clock = true
    · rw [if_pos halive] at htok ⊢
      have hexp : t.clock < s₀.expiresUs := by
        simp only [Session.alive, Bool.and_eq_true, decide_eq_true_eq] at halive
        exact halive.2
      exact (h.backed s₀ hs₀ htok).reopen h.clock hexp rfl
    · rw [if_neg halive] at htok ⊢
      have hexp : s₀.expiresUs ≤ t.clock := by
        simpa [Session.alive, htok] using halive
      exact (h.backed s₀ hs₀ htok).reopen_of_expired hexp

theorem inv_clearAll (h : t.Inv) : (t.next .clearAll).Inv := by
  have hzero : ∀ tok ∈ (t.next .clearAll).tokens, tok = [] := by
    intro tok htok
    obtain ⟨s, hs, rfl⟩ := List.mem_map.mp htok
    rw [mem_sessionClearAll hs]
    rfl
  exact {
    slots := by simpa [next, sessionClearAll] using h.slots
    clock := h.clock
    shape := h.shape
    backed := fun s hs htok => absurd (hzero _ (mem_tokens hs)) htok
    held := by
      intro tok hissued hended
      simp only [next, Standing.finish, Bool.or_eq_false_iff] at hissued hended
      simp [hissued] at hended
    distinct := fun i j tok htok _ hne => absurd (hzero tok (List.mem_of_getElem? htok)) hne }

variable {cookie : Option (List Char)}

/-- The session that a request finds is the live one with the token presented. -/
theorem Inv.find_some (h : t.Inv) (hfind : sessionFindForReq t.sessions cookie t.clock = some i) :
    ∃ s, t.sessions[i]? = some s ∧ s ∈ t.sessions ∧ s.token ≠ [] ∧ t.clock < s.expiresUs ∧
      presentedToken cookie = some s.token := by
  obtain ⟨s, hs, halive, hpresented⟩ := sessionFindForReq_eq_some hfind
  have hmem := List.mem_of_getElem? hs
  simp only [Session.alive, Bool.and_eq_true, Bool.not_eq_true', List.isEmpty_eq_false_iff,
    decide_eq_true_eq] at halive
  exact ⟨s, hs, hmem, halive.1, halive.2, hpresented (h.chars hmem)⟩

/-- When no session is found, no token that is presented and held by a slot is alive. -/
theorem Inv.expired_of_find_none (h : sessionFindForReq t.sessions cookie t.clock = none)
    (hs : s ∈ t.sessions) (htok : s.token ≠ [])
    (hpresented : presentedToken cookie = some s.token) :
    s.expiresUs ≤ t.clock := by
  by_contra hexp
  refine presentedToken_ne_of_find_none h hs ?_ hpresented
  simp only [Session.alive, Bool.and_eq_true, Bool.not_eq_true', List.isEmpty_eq_false_iff,
    decide_eq_true_eq]
  exact ⟨htok, Nat.not_le.mp hexp⟩

theorem inv_request {webAuthEnabled passwordSet : Bool} (h : t.Inv) :
    (t.next (.request webAuthEnabled passwordSet cookie)).Inv := by
  by_cases hgate : (webAuthEnabled && passwordSet) = true
  · obtain ⟨rfl, rfl⟩ := Bool.and_eq_true_iff.mp hgate
    rcases hfind : sessionFindForReq t.sessions cookie t.clock with _ | i
    -- no session found: only expired slots could hold the token presented
    · have hsessions : (t.next (.request true true cookie)).sessions = t.sessions := by
        simp [next, requestAuthenticated, hfind]
      refine h.of_tokens_eq (by rw [tokens, hsessions]; rfl) h.clock ?_ ?_
      · intro tok
        simp only [next]
        split
        · exact reopen_same _ _ _
        · exact ⟨rfl, rfl⟩
      · intro s hs htok
        rw [hsessions] at hs
        simp only [next]
        split
        · rename_i hpresented
          apply (h.backed s hs htok).reopen_of_expired
          exact Inv.expired_of_find_none hfind hs htok (by simpa using hpresented)
        · exact h.backed s hs htok
    · obtain ⟨s₀, hs₀, hmem, htok₀, hexp, hpresented⟩ := h.find_some hfind
      have hsessions : (t.next (.request true true cookie)).sessions =
          t.sessions.set i { s₀ with expiresUs := expiryAt t.timeoutS t.clock } := by
        simp [next, requestAuthenticated, hfind, List.getD_eq_getElem?_getD, hs₀]
      refine h.of_tokens_eq ?_ h.clock ?_ ?_
      · rw [tokens, hsessions, List.map_set, tokens]
        apply set_of_getElem?_eq
        simp [hs₀]
      · intro tok
        simp only [next]
        split
        · exact reopen_same _ _ _
        · exact ⟨rfl, rfl⟩
      · intro s hs htok
        rw [hsessions] at hs
        obtain ⟨j, hj⟩ := List.mem_iff_getElem?.mp hs
        rcases getElem?_set_cases hj with ⟨-, rfl⟩ | ⟨hij, hold⟩
        · simp only [next, hpresented, beq_self_eq_true, Bool.and_self, if_true]
          exact (h.backed s₀ hmem htok₀).reopen h.clock hexp rfl
        · have hother : s₀.token ≠ s.token := fun heq => hij (h.eq_slot hs₀ hold heq.symm htok₀)
          have hnot : presentedToken cookie ≠ some s.token := by
            rw [hpresented]
            exact fun heq => hother (Option.some.inj heq)
          simp only [next, Bool.and_self, Bool.true_and, beq_iff_eq, if_neg hnot]
          exact h.backed s (List.mem_of_getElem? hold) htok
  -- the gate is open: neither the table nor a standing changes
  · have hopen : (!webAuthEnabled || !passwordSet) = true := by
      revert hgate
      cases webAuthEnabled <;> cases passwordSet <;> simp
    have hsame : t.next (.request webAuthEnabled passwordSet cookie) = t := by
      simp [next, requestAuthenticated, hopen, hgate]
    rw [hsame]
    exact h

theorem inv_logout (h : t.Inv) : (t.next (.logout cookie)).Inv := by
  have hstanding : ∀ tok, ((t.next (.logout cookie)).standing tok).issued =
      (t.standing tok).issued := by
    intro tok
    simp only [next]
    split <;> rfl
  rcases hfind : sessionFindForReq t.sessions cookie t.clock with _ | i
  -- no session found: only an expired slot could hold the token that ends
  · have hsessions : (t.next (.logout cookie)).sessions = t.sessions := by
      simp [next, hfind, sessionClearSlot]
    exact {
      slots := hsessions ▸ h.slots
      clock := h.clock
      shape := fun tok hissued => h.shape tok (hstanding tok ▸ hissued)
      backed := by
        intro s hs htok
        rw [hsessions] at hs
        have hback := h.backed s hs htok
        simp only [next]
        split
        · rename_i hpresented
          have hexp := Inv.expired_of_find_none hfind hs htok hpresented
          exact ⟨hback.issued, fun _ => hback.lapsed.mpr hexp, hback.expiry, hback.lapsed⟩
        · exact hback
      held := by
        intro tok hissued hended
        rw [tokens, hsessions]
        apply h.held tok (hstanding tok ▸ hissued)
        simp only [next] at hended
        split at hended
        · exact (Bool.or_eq_false_iff.mp hended).1
        · exact hended
      distinct := by
        rw [tokens, hsessions]
        exact h.distinct }
  · obtain ⟨s₀, hs₀, -, htok₀, -, hpresented⟩ := h.find_some hfind
    have hsessions : (t.next (.logout cookie)).sessions = t.sessions.set i Session.zero := by
      simp [next, hfind, sessionClearSlot]
    -- the slot is cleared, and the token that was in it is ended
    refine h.of_set hs₀ hsessions rfl (fun s hs htok => htok) ?_ ?_ ?_ (fun hne => absurd rfl hne)
    · intro tok _ hne
      have hother : presentedToken cookie ≠ some tok := by
        rw [hpresented]
        exact fun heq => hne (Option.some.inj heq).symm
      simp only [next, if_neg hother]
    · intro _ hissued
      rw [hstanding] at hissued
      simp [next, hpresented, Standing.finish, hissued]
    · exact fun tok hissued => h.shape tok (hstanding tok ▸ hissued)

theorem inv_create {raw : List UInt8} (h : t.Inv) (hlen : raw.length = webUiSessionTokenLen)
    (hfresh : (t.standing (hexEncode raw)).issued = false) : (t.next (.create raw)).Inv := by
  obtain ⟨s₀, hs₀, -⟩ := sessionPickNewSlot_spec h.slots
  have hevicted : t.evicted = s₀.token := by
    simp [evicted, List.getD_eq_getElem?_getD, hs₀]
  have hsessions : (t.next (.create raw)).sessions = t.sessions.set
      (sessionPickNewSlot t.sessions) ⟨hexEncode raw, expiryAt t.timeoutS t.clock⟩ := rfl
  refine h.of_set hs₀ hsessions rfl ?_ ?_ ?_ ?_ ?_
  -- a token in a slot was issued before, so it is not the new one
  · intro s hs htok heq
    have hissued := (h.backed s hs htok).issued
    rw [show s.token = hexEncode raw from heq, hfresh] at hissued
    cases hissued
  · intro tok hne hold
    rw [← hevicted] at hold
    simp only [next, if_neg hne, if_neg hold]
  -- the token that makes room is ended
  · intro hne hissued
    rw [← hevicted] at hne hissued ⊢
    simp only [next, if_neg hne, if_true, Standing.finish] at hissued ⊢
    rw [hissued, Bool.or_true]
  · intro tok hissued
    simp only [next] at hissued
    split at hissued
    · rename_i heq
      subst heq
      exact ⟨by rw [length_hexEncode, hlen], semicolon_not_mem_hexEncode raw⟩
    · split at hissued
      · exact h.shape tok hissued
      · exact h.shape tok hissued
  · intro _
    simp only [next, if_true]
    exact backs_issue h.clock

/-- **Step lemma.** With fresh tokens, every action keeps the invariant. -/
theorem step_inv {a : SessionAct} (hfresh : t.Fresh a) (hstep : machine.step t a = some t')
    (h : t.Inv) : t'.Inv := by
  simp only [machine, Option.ite_none_right_eq_some, Option.some.injEq] at hstep
  obtain ⟨hpossible, rfl⟩ := hstep
  cases a with
  | create raw => exact inv_create h hpossible (hfresh _ rfl)
  | request webAuthEnabled passwordSet cookie => exact inv_request h
  | logout cookie => exact inv_logout h
  | clearAll => exact inv_clearAll h
  | setTimeout v => exact inv_setTimeout h
  | advance us => exact inv_advance h hpossible

/-! ### Runs -/

/-- The tokens issued along a run. -/
def issuedTokens (acts : List SessionAct) : List (List Char) := acts.filterMap SessionAct.issues

/-- A token that is issued after a step was issued before it or by it. -/
theorem issued_of_next {a : SessionAct} (h : ((t.next a).standing tok).issued = true) :
    (t.standing tok).issued = true ∨ a.issues = some tok := by
  -- Only `create` issues a token; the other steps keep what was issued.
  cases a with
  | create raw =>
    simp only [next] at h
    split at h
    · rename_i heq
      exact .inr (by rw [heq]; rfl)
    · split at h <;> exact .inl h
  | request webAuthEnabled passwordSet cookie =>
    simp only [next] at h
    split at h
    · exact .inl ((reopen_same _ _ _).1 ▸ h)
    · exact .inl h
  | logout cookie =>
    simp only [next] at h
    split at h <;> exact .inl h
  | clearAll => exact .inl h
  | setTimeout v => exact .inl ((reopen_same _ _ _).1 ▸ h)
  | advance us => exact .inl h

/-- When the tokens of a run are distinct and new, every step issues a fresh one. By induction on
    the run. -/
theorem meets_fresh {acts : List SessionAct} (hdistinct : (issuedTokens acts).Nodup)
    (hnew : ∀ tok ∈ issuedTokens acts, (t.standing tok).issued = false) :
    machine.Meets Fresh t acts := by
  induction acts generalizing t with
  | nil => trivial
  | cons a as ih =>
    have hsub : ∀ tok ∈ issuedTokens as, tok ∈ issuedTokens (a :: as) := by
      -- The tokens of the rest are among those of the run.
      intro tok htok
      obtain ⟨b, hb, hissues⟩ := List.mem_filterMap.mp htok
      exact List.mem_filterMap.mpr ⟨b, List.mem_cons_of_mem a hb, hissues⟩
    -- A token is issued once in the run.
    have hfirst : ∀ tok, a.issues = some tok → tok ∉ issuedTokens as := by
      intro tok hissues
      rw [issuedTokens, List.filterMap_cons_some hissues, List.nodup_cons] at hdistinct
      exact hdistinct.1
    refine ⟨?_, fun t' hstep => ih ?_ ?_⟩
    · intro tok hissues
      exact hnew tok (List.mem_filterMap.mpr ⟨a, List.mem_cons_self, hissues⟩)
    · exact hdistinct.sublist (List.Sublist.filterMap _ (List.sublist_cons_self a as))
    · intro tok htok
      simp only [machine, Option.ite_none_right_eq_some, Option.some.injEq] at hstep
      obtain ⟨-, rfl⟩ := hstep
      rw [← Bool.not_eq_true]
      intro hissued
      -- It was not issued before the run, and the first step does not issue it again.
      rcases issued_of_next hissued with hold | hissues
      · simp [hnew tok (hsub tok htok)] at hold
      · exact hfirst tok hissues htok

/-- The invariant along a run with distinct tokens. -/
theorem run_inv {acts : List SessionAct} (hclock : now < 2 ^ 63)
    (hdistinct : (issuedTokens acts).Nodup)
    (hrun : machine.run (started window now) acts = some t) : t.Inv :=
  machine.invariant_of_meets (fun _ _ _ hc hstep hinv => step_inv hc hstep hinv)
    (meets_fresh hdistinct fun _ _ => rfl) hrun (inv_started hclock)

/-- A request with one cookie presents its value. -/
theorem cookieValue_cookieName (tok : List Char) :
    cookieValue (some (cookieName ++ tok)) = if 149 ≤ tok.length then none else some tok := by
  have hfound : strstr cookieName (cookieName ++ tok) = some (cookieName ++ tok) := by
    have hprefix : cookieName.isPrefixOf (cookieName ++ tok) = true :=
      List.isPrefixOf_iff_prefix.mpr (List.prefix_append _ _)
    exact if_pos hprefix
  have hlen : (cookieName ++ tok).length = tok.length + 11 := by
    rw [List.length_append, Nat.add_comm]
    rfl
  unfold cookieValue
  by_cases hlong : 149 ≤ tok.length
  · rw [if_pos hlong]
    exact if_pos (by omega)
  · rw [if_neg hlong]
    simp only
    rw [if_neg (by omega), hfound, Option.map_some, List.drop_left]

/-- **Acceptance.** Under the invariant, a token is accepted exactly when it is good. A token in the
    table is alive as long as its window says. -/
theorem Inv.accepts_iff (h : t.Inv) (hchars : ';' ∉ tok) :
    t.accepts tok = true ↔ (t.standing tok).good = true := by
  have hwhole : tok.takeWhile (fun c => c != ';') = tok := by
    rw [List.takeWhile_eq_self_iff]
    intro c hc
    have hne : c ≠ ';' := fun heq => hchars (heq ▸ hc)
    simpa using hne
  rw [accepts, requestAuthenticated_iff]
  constructor
  · intro hfound
    obtain ⟨i, hfind⟩ := Option.isSome_iff_exists.mp hfound
    obtain ⟨s, -, hmem, htok, hexp, hpresented⟩ := h.find_some hfind
    -- the token that the header presents is that of the session
    have heq : s.token = tok := by
      rw [presentedToken, cookieValue_cookieName] at hpresented
      split at hpresented
      · cases hpresented
      · rw [Option.map_some, Option.some.injEq, hwhole] at hpresented
        exact hpresented.symm
    rw [← heq]
    exact (h.backed s hmem htok).good hexp
  · intro hgood
    simp only [Standing.good, Bool.and_eq_true, Bool.not_eq_true'] at hgood
    obtain ⟨⟨hissued, hended⟩, hlapsed⟩ := hgood
    obtain ⟨s, hs, rfl⟩ := List.mem_map.mp (h.held tok hissued hended)
    have htok := h.ne_nil hissued
    have hback := h.backed s hs htok
    have hshort : ¬ 149 ≤ s.token.length := by
      have hlen := (h.shape _ hissued).1
      rw [webUiSessionTokenLen] at hlen
      omega
    have hpresented : presentedToken (some (cookieName ++ s.token)) = some s.token := by
      rw [presentedToken, cookieValue_cookieName, if_neg hshort, Option.map_some, hwhole]
    -- were no session found, the one with the token would have lapsed
    by_contra hnone
    rw [Bool.not_eq_true, Option.isSome_eq_false_iff, Option.isNone_iff_eq_none] at hnone
    have hexp := Inv.expired_of_find_none hnone hs htok hpresented
    rw [hback.lapsed.mpr hexp] at hlapsed
    cases hlapsed

/-- A token that was issued and is no longer good never becomes good again. It could only by being
    issued anew, and new tokens are fresh. -/
theorem not_good_of_next {a : SessionAct} (hfresh : t.Fresh a)
    (hissued : (t.standing tok).issued = true) (hbad : (t.standing tok).good = false) :
    ((t.next a).standing tok).issued = true ∧ ((t.next a).standing tok).good = false := by
  have hreopen : ∀ limit, (t.standing tok).reopen limit t.clock = t.standing tok := by
    intro limit
    simp [Standing.reopen, hbad]
  have hfinish : (t.standing tok).finish.good = false := by
    simp [Standing.finish, Standing.good, hissued]
  cases a with
  | create raw =>
    simp only [next]
    split
    · rename_i heq
      -- the new token is another one
      rw [hfresh tok (by rw [heq]; rfl)] at hissued
      cases hissued
    · split
      · exact ⟨hissued, hfinish⟩
      · exact ⟨hissued, hbad⟩
  | request webAuthEnabled passwordSet cookie =>
    simp only [next, hreopen, ite_self]
    exact ⟨hissued, hbad⟩
  | logout cookie =>
    simp only [next]
    split
    · exact ⟨hissued, hfinish⟩
    · exact ⟨hissued, hbad⟩
  | clearAll => exact ⟨hissued, hfinish⟩
  | setTimeout v =>
    simp only [next, hreopen]
    exact ⟨hissued, hbad⟩
  | advance us =>
    refine ⟨hissued, ?_⟩
    simp only [next, Standing.good, Standing.wait, hissued, Bool.true_and] at hbad ⊢
    revert hbad
    cases (t.standing tok).ended <;> cases (t.standing tok).lapsed <;> simp

/-- **The session table.** After every history of distinct tokens, a token is accepted exactly
    when it was issued, was not logged out, cleared or evicted, and was never idle past its
    window; a token that was issued and is refused stays refused whatever happens next; and a
    new session takes the slot of a live one only when all sessions are alive. -/
theorem accepts_iff_good {acts more : List SessionAct} {u : SessionTable} {window now : Nat}
    (hclock : now < 2 ^ 63) (hdistinct : (issuedTokens (acts ++ more)).Nodup)
    (hrun : machine.run (started window now) acts = some t)
    (hmore : machine.run t more = some u) :
    (∀ tok, ';' ∉ tok → (t.accepts tok = true ↔ (t.standing tok).good = true)) ∧
      (∀ tok, (t.standing tok).issued = true → t.accepts tok = false → u.accepts tok = false) ∧
      ∀ s, t.sessions[sessionPickNewSlot t.sessions]? = some s → s.alive t.clock = true →
        ∀ s' ∈ t.sessions, s'.alive t.clock = true := by
  have hboth : machine.run (started window now) (acts ++ more) = some u :=
    Machine.run_append.mpr ⟨t, hrun, hmore⟩
  have hleft : (issuedTokens acts).Nodup := by
    rw [issuedTokens, List.filterMap_append] at hdistinct
    exact (List.nodup_append.mp hdistinct).1
  have hinv := run_inv hclock hleft hrun
  have hinv' := run_inv hclock hdistinct hboth
  have hmeets : machine.Meets Fresh t more :=
    (meets_fresh hdistinct fun _ _ => rfl).append_right hrun
  refine ⟨fun tok hchars => hinv.accepts_iff hchars, ?_,
    fun s hs halive => alive_of_picked_alive hinv.clock hs halive⟩
  intro tok hissued hrefused
  have hchars := (hinv.shape tok hissued).2
  have hbad : (t.standing tok).good = false := by
    rw [← Bool.not_eq_true, ← hinv.accepts_iff hchars, hrefused]
    exact Bool.false_ne_true
  -- a token that is not good never gets good again
  have hlast : (u.standing tok).issued = true ∧ (u.standing tok).good = false := by
    refine machine.invariant_of_meets
      (I := fun v => (v.standing tok).issued = true ∧ (v.standing tok).good = false)
      ?_ hmeets hmore ⟨hissued, hbad⟩
    intro v a v' hc hstep hv
    simp only [machine, Option.ite_none_right_eq_some, Option.some.injEq] at hstep
    obtain ⟨-, rfl⟩ := hstep
    exact not_good_of_next hc hv.1 hv.2
  rw [← Bool.not_eq_true, hinv'.accepts_iff hchars, hlast.2]
  exact Bool.false_ne_true

/-- A session that is used, and kept through a shorter timeout, is accepted; a minute later it
    is refused. -/
theorem used_session_accepted :
    ∃ t u, machine.run (started 1800 5) [.create (tokenOf 1), .advance 1000000000,
        .request true true (cookieOf 1), .advance 1000000000, .setTimeout 60] = some t ∧
      machine.run t [.advance 60000000] = some u ∧
      t.accepts (hexEncode (tokenOf 1)) = true ∧
      (u.accepts (hexEncode (tokenOf 1)) = true ↔
        (u.standing (hexEncode (tokenOf 1))).good = true) := by
  -- The run is evaluated step by step; the theorem is applied at its end and a minute later.
  have hrun : machine.run (started 1800 5) [.create (tokenOf 1), .advance 1000000000,
      .request true true (cookieOf 1), .advance 1000000000, .setTimeout 60] =
        some (((((((started 1800 5).next (.create (tokenOf 1))).next (.advance 1000000000)).next
          (.request true true (cookieOf 1))).next (.advance 1000000000)).next
            (.setTimeout 60))) := rfl
  have hmore := (rfl : machine.run (((((((started 1800 5).next (.create (tokenOf 1))).next
    (.advance 1000000000)).next (.request true true (cookieOf 1))).next
      (.advance 1000000000)).next (.setTimeout 60))) [.advance 60000000] = some _)
  have hchars := semicolon_not_mem_hexEncode (tokenOf 1)
  have hlast := (accepts_iff_good (by decide) (by decide +kernel)
    (Machine.run_append.mpr ⟨_, hrun, hmore⟩) (show machine.run _ [] = some _ from rfl)).1 _ hchars
  refine ⟨_, _, hrun, hmore, ?_, hlast⟩
  exact ((accepts_iff_good (by decide) (by decide +kernel) hrun hmore).1 _ hchars).mpr
    (by decide +kernel)

end SessionTable

end SubnetRouter.Web
