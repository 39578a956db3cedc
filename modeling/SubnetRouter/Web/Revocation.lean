import SubnetRouter.Lib.Run
import SubnetRouter.Web.Auth

namespace SubnetRouter.Web

open Lib

/-!
# Session revocation over runs

Beside the endpoints, a record of the tokens issued since the password was last set, changed
or cleared.  The web handlers wipe the session table when they change or clear the password;
the setup handler and the `web_password` command do not.  As long as these two find no live
session, every token that is accepted was issued since (`accepted_since_change`).

* `Revocation.next` — one event on any interface.
* `mem_sessions_next` — where the sessions after an event come from.
-/

/-! ### Events -/

/-- What can happen to sessions and password: requests to the endpoints, and the command of the
    console. The clock is part of each of them. -/
inductive AuthEvent where
  | challenge (req : ChallengeRequest)
  | login (req : LoginRequest)
  | setup (req : SetupRequest)
  | change (req : ChangeRequest)
  | clear (cookie : Option (List Char)) (now : Nat) (answers : PasswordAnswers)
  | logout (cookie : Option (List Char)) (now : Nat)
  | save (isSet : Bool) (cookie : Option (List Char)) (now : Nat) (timeoutS : Option Nat)
      (enabled : Option Bool)
  | cli (set : Plaintext → Bool) (pw : Option Plaintext) (now : Nat)

namespace AuthEvent

/-- When the event first looks at the clock. The events of a run come in this order. -/
def begins : AuthEvent → Nat
  | challenge req => req.now
  | login req => req.now
  | setup req => req.later
  | change req => req.authAt
  | clear _ now _ => now
  | logout _ now => now
  | save _ _ now _ _ => now
  | cli _ _ now => now

/-- When it is over. -/
def ends : AuthEvent → Nat
  | login req => req.later
  | change req => req.later
  | e => e.begins

/-- The code that handles it. The console's command changes the password, and has no part in the
    sessions. -/
def outcome (st : AuthState) : AuthEvent → Outcome
  | challenge req => authChallengeHandler st req
  | login req => authLoginHandler st req
  | setup req => authSetupHandler st req
  | change req => authChangePasswordHandler st req
  | clear cookie now answers => authClearPasswordHandler st cookie now answers
  | logout cookie now => authLogoutHandler st cookie now
  | save isSet cookie now timeoutS enabled =>
    systemSaveHandler st isSet cookie now timeoutS enabled
  | cli set pw _ => ⟨.ok, st, (cmdWebPassword set pw).2⟩

/-- The token in the cookie of the response. Only a login and a setup that succeed have one. -/
def issuedToken (st : AuthState) : AuthEvent → Option (List Char)
  | login req =>
    match (authLoginHandler st req).response with
    | .ok => some (hexEncode req.token)
    | _ => none
  | setup req =>
    match (authSetupHandler st req).response with
    | .ok => some (hexEncode req.token)
    | _ => none
  | _ => none

/-- The event sets or clears the password and leaves the session table as it is. -/
def keepsSessions : AuthEvent → Bool
  | setup _ => true
  | cli _ _ _ => true
  | _ => false

end AuthEvent

/-- The endpoints, the time, and the tokens issued since the password last changed. -/
structure Revocation where
  auth : AuthState
  clock : Nat
  issued : List (List Char)

/-- One event; a stored password starts a new record, and a token issued goes into it. -/
def Revocation.next (t : Revocation) (e : AuthEvent) : Revocation :=
  let o := e.outcome t.auth
  ⟨o.state, e.ends,
    (e.issuedToken t.auth).toList ++ (if o.stored.isSome then [] else t.issued)⟩

/-- The machine of all event sequences at non-decreasing times. -/
def revocation : Machine Revocation AuthEvent :=
  ⟨fun t e => if t.clock ≤ e.begins ∧ e.begins ≤ e.ends then some (t.next e) else none⟩

/-- A router after its start: no sessions, nothing issued. -/
def Revocation.Fresh (t : Revocation) : Prop :=
  (∀ s ∈ t.auth.sessions, s = Session.zero) ∧ t.issued = []

/-- A setup or a command that stores a password finds no live session. -/
def Revocation.NoneAlive (t : Revocation) (e : AuthEvent) : Prop :=
  e.keepsSessions = true → (e.outcome t.auth).stored.isSome = true →
    ∀ s ∈ t.auth.sessions, s.alive e.ends = false

/-! ### Where sessions come from -/

/-- A session was there before, or was alive under another expiry. -/
def Kept (sessions : List Session) (now : Nat) (s : Session) : Prop :=
  s ∈ sessions ∨ ∃ s' ∈ sessions, s'.alive now = true ∧ s.token = s'.token

variable {st : AuthState} {s : Session}

private theorem sessions_login (st : AuthState) (req : LoginRequest) :
    (authLoginHandler st req).stored = none ∧
      ((authLoginHandler st req).state.sessions = st.sessions ∨
        (authLoginHandler st req).response = .ok ∧ (authLoginHandler st req).state.sessions =
          sessionCreate st.sessions req.token st.sessionTimeoutS req.later) := by
  unfold authLoginHandler
  simp only
  split
  · exact ⟨rfl, .inl rfl⟩
  · split
    · exact ⟨rfl, .inl rfl⟩
    · split
      · exact ⟨rfl, .inl rfl⟩
      · exact ⟨rfl, .inl rfl⟩
      · exact ⟨rfl, .inl rfl⟩
      · exact ⟨rfl, .inr ⟨rfl, rfl⟩⟩

private theorem sessions_setup (st : AuthState) (req : SetupRequest) :
    (authSetupHandler st req).stored = none ∧
        (authSetupHandler st req).state.sessions = st.sessions ∨
      (authSetupHandler st req).response = .ok ∧ (authSetupHandler st req).state.sessions =
        sessionCreate st.sessions req.token st.sessionTimeoutS req.later := by
  unfold authSetupHandler
  split
  · exact .inl ⟨rfl, rfl⟩
  · split
    · exact .inl ⟨rfl, rfl⟩
    · split
      · exact .inl ⟨rfl, rfl⟩
      · split
        · exact .inl ⟨rfl, rfl⟩
        · simp only
          split
          · exact .inl ⟨rfl, rfl⟩
          · exact .inr ⟨rfl, rfl⟩

private theorem sessions_change (st : AuthState) (req : ChangeRequest) :
    (authChangePasswordHandler st req).stored = none ∧
        (authChangePasswordHandler st req).state.sessions =
          (requireAuth st req.answers.isSet req.cookie req.authAt).2.sessions ∨
      ∃ sessions, (authChangePasswordHandler st req).state.sessions =
        sessionClearAll sessions := by
  -- Every refusal leaves the sessions that the authentication has left; the last branch clears
  -- them.
  unfold authChangePasswordHandler
  simp only
  split
  · exact .inl ⟨rfl, rfl⟩
  · split
    · exact .inl ⟨rfl, rfl⟩
    · split
      · exact .inl ⟨rfl, rfl⟩
      · split
        · exact .inl ⟨rfl, rfl⟩
        · split
          · exact .inl ⟨rfl, rfl⟩
          · split
            · exact .inl ⟨rfl, rfl⟩
            · exact .inr ⟨_, rfl⟩
      · exact .inl ⟨rfl, rfl⟩

private theorem sessions_challenge (st : AuthState) (req : ChallengeRequest) :
    (authChallengeHandler st req).stored = none ∧
      (authChallengeHandler st req).state.sessions = st.sessions := by
  unfold authChallengeHandler
  simp only
  split
  · exact ⟨rfl, rfl⟩
  · split <;> exact ⟨rfl, rfl⟩

private theorem sessions_save {isSet : Bool} {cookie : Option (List Char)} {now : Nat}
    {timeoutS : Option Nat} {enabled : Option Bool}
    (h : s ∈ (systemSaveHandler st isSet cookie now timeoutS enabled).state.sessions) :
    (systemSaveHandler st isSet cookie now timeoutS enabled).stored = none ∧
      Kept st.sessions now s := by
  have hauth : ∀ s' ∈ (requireAuth st isSet cookie now).2.sessions, Kept st.sessions now s' :=
    fun s' hs' => mem_requestAuthenticated hs'
  unfold systemSaveHandler at h ⊢
  simp only at h ⊢
  split at h
  · rename_i hno
    rw [if_pos hno]
    exact ⟨rfl, hauth s h⟩
  · rename_i hno
    rw [if_neg hno]
    refine ⟨rfl, ?_⟩
    rcases timeoutS with _ | v
    · exact hauth s h
    · rcases mem_sessionExtendAllAlive h with hold | ⟨s', hs', halive, htoken⟩
      · exact hauth s hold
      -- extended twice: by the request itself, and by the new timeout
      · rcases hauth s' hs' with hold | ⟨s'', hs'', halive', htoken'⟩
        · exact .inr ⟨s', hold, halive, htoken⟩
        · exact .inr ⟨s'', hs'', halive', htoken.trans htoken'⟩

/-- **Where sessions come from.** A session after an event was just issued, is free, was kept
    by an event that stored no password, or was left alone by one of the two that may. -/
theorem mem_sessions_outcome (e : AuthEvent) (h : s ∈ (e.outcome st).state.sessions) :
    (e.issuedToken st = some s.token ∧ ';' ∉ s.token) ∨ s = Session.zero ∨
      ((e.outcome st).stored = none ∧ Kept st.sessions e.begins s) ∨
      (e.keepsSessions = true ∧ s ∈ st.sessions) := by
  cases e with
  | challenge req =>
    obtain ⟨hstored, hsame⟩ := sessions_challenge st req
    exact .inr (.inr (.inl ⟨hstored, .inl (hsame ▸ h)⟩))
  | login req =>
    obtain ⟨hstored, hsame | ⟨hok, hnew⟩⟩ := sessions_login st req
    · exact .inr (.inr (.inl ⟨hstored, .inl (hsame ▸ h)⟩))
    · rcases mem_sessionCreate (hnew ▸ h : s ∈ sessionCreate _ _ _ _) with rfl | hold
      · -- the new session
        refine .inl ⟨?_, semicolon_not_mem_hexEncode req.token⟩
        rw [AuthEvent.issuedToken, hok]
      · exact .inr (.inr (.inl ⟨hstored, .inl hold⟩))
  | setup req =>
    rcases sessions_setup st req with ⟨hstored, hsame⟩ | ⟨hok, hnew⟩
    · exact .inr (.inr (.inl ⟨hstored, .inl (hsame ▸ h)⟩))
    · rcases mem_sessionCreate (hnew ▸ h : s ∈ sessionCreate _ _ _ _) with rfl | hold
      · refine .inl ⟨?_, semicolon_not_mem_hexEncode req.token⟩
        rw [AuthEvent.issuedToken, hok]
      · exact .inr (.inr (.inr ⟨rfl, hold⟩))
  | change req =>
    rcases sessions_change st req with ⟨hstored, hsame⟩ | ⟨sessions, hclear⟩
    · exact .inr (.inr (.inl ⟨hstored, mem_requestAuthenticated (hsame ▸ h)⟩))
    · -- all slots were cleared
      exact .inr (.inl (mem_sessionClearAll (hclear ▸ h)))
  | clear cookie now answers =>
    simp only [AuthEvent.outcome, authClearPasswordHandler] at h ⊢
    split at h
    · exact .inr (.inl (mem_sessionClearAll h))
    · rename_i hno
      rw [if_neg hno]
      exact .inr (.inr (.inl ⟨rfl, .inl h⟩))
  | logout cookie now =>
    rcases mem_sessionClearSlot h with rfl | hold
    · exact .inr (.inl rfl)
    · exact .inr (.inr (.inl ⟨rfl, .inl hold⟩))
  | save isSet cookie now timeoutS enabled => exact .inr (.inr (.inl (sessions_save h)))
  | cli set pw now => exact .inr (.inr (.inr ⟨rfl, h⟩))

/-! ### Runs -/

/-- Every live session was issued since the password last changed. -/
def Revocation.Inv (t : Revocation) : Prop :=
  ∀ s ∈ t.auth.sessions, ';' ∉ s.token ∧ (s.alive t.clock = true → s.token ∈ t.issued)

/-- What is alive later was alive before. -/
theorem Session.alive_mono {now later : Nat} (hle : now ≤ later) (h : s.alive later = true) :
    s.alive now = true := by
  simp only [Session.alive, Bool.and_eq_true, decide_eq_true_eq] at h ⊢
  exact ⟨h.1, Nat.lt_of_le_of_lt hle h.2⟩

/-- **Step lemma.** An event that stores no password past a live session keeps the
    invariant. -/
theorem revocation_step {t : Revocation} {e : AuthEvent} (hc : t.NoneAlive e)
    (htime : t.clock ≤ e.begins ∧ e.begins ≤ e.ends) (hinv : t.Inv) : (t.next e).Inv := by
  have hends : t.clock ≤ e.ends := Nat.le_trans htime.1 htime.2
  intro s hs
  have hissued : (t.next e).issued = (e.issuedToken t.auth).toList ++
      (if (e.outcome t.auth).stored.isSome then [] else t.issued) := rfl
  rcases mem_sessions_outcome e hs with ⟨htoken, hchars⟩ | rfl | ⟨hstored, hkept⟩ | ⟨hkeeps, hold⟩
  · refine ⟨hchars, fun _ => ?_⟩
    rw [hissued, htoken]
    exact List.mem_append_left _ (List.mem_singleton_self _)
  · exact ⟨by simp [Session.zero], fun halive => by simp [Session.zero, Session.alive] at halive⟩
  · rw [hissued, hstored]
    rcases hkept with hold | ⟨s', hs', halive', htoken⟩
    · obtain ⟨hchars, hsince⟩ := hinv s hold
      refine ⟨hchars, fun halive => ?_⟩
      exact List.mem_append_right _ (hsince (Session.alive_mono hends halive))
    · obtain ⟨hchars, hsince⟩ := hinv s' hs'
      rw [htoken]
      refine ⟨hchars, fun _ => ?_⟩
      exact List.mem_append_right _ (hsince (Session.alive_mono htime.1 halive'))
  · obtain ⟨hchars, hsince⟩ := hinv s hold
    refine ⟨hchars, fun halive => ?_⟩
    rw [hissued]
    by_cases hstored : (e.outcome t.auth).stored.isSome = true
    -- a password was stored: no session that was there is alive now
    · have hdead : s.alive e.ends = false := hc hkeeps hstored s hold
      exact absurd halive (Bool.eq_false_iff.mp hdead)
    · rw [if_neg hstored]
      exact List.mem_append_right _ (hsince (Session.alive_mono hends halive))

/-- **Revocation.** In every run in which no setup and no command stores a password past a
    live session, a token that `session_find_for_req` accepts was issued since the password
    was last set, changed or cleared. -/
theorem accepted_since_change {s t : Revocation} {events : List AuthEvent} (hfresh : s.Fresh)
    (hmeets : revocation.Meets Revocation.NoneAlive s events)
    (hrun : revocation.run s events = some t) {cookie : Option (List Char)} {now i : Nat}
    (hnow : t.clock ≤ now) (haccept : sessionFindForReq t.auth.sessions cookie now = some i) :
    ∃ token, presentedToken cookie = some token ∧ token ∈ t.issued := by
  have hinv : t.Inv := by
    apply Machine.invariant_of_meets ?_ hmeets hrun
    · intro s' hs'
      rw [hfresh.1 s' hs']
      exact ⟨by simp [Session.zero], fun halive => by simp [Session.zero, Session.alive] at halive⟩
    · intro u e u' hc hstep hu
      simp only [revocation, Option.ite_none_right_eq_some, Option.some.injEq] at hstep
      obtain ⟨htime, rfl⟩ := hstep
      exact revocation_step hc htime hu
  obtain ⟨s', hs', halive, hpresented⟩ := sessionFindForReq_eq_some haccept
  obtain ⟨hchars, hsince⟩ := hinv s' (List.mem_of_getElem? hs')
  exact ⟨s'.token, hpresented hchars, hsince (Session.alive_mono hnow halive)⟩

instance (t : Revocation) (e : AuthEvent) : Decidable (t.NoneAlive e) :=
  inferInstanceAs (Decidable (_ → _ → ∀ s ∈ t.auth.sessions, s.alive e.ends = false))

/-- A router that has just started. -/
def startedGate : Revocation := ⟨AuthState.started, 1, []⟩

/-- The password component while a password is set, or not; it verifies and stores
    everything. -/
def agreeable (isSet : Bool) : PasswordAnswers :=
  ⟨isSet, isSet, fun _ => true, fun _ _ _ => true, fun _ => true⟩

/-- The token of 32 equal bytes, and the cookie that presents it. -/
def tokenOf (n : UInt8) : List UInt8 := List.replicate webUiSessionTokenLen n

def cookieOf (n : UInt8) : Option (List Char) := some (cookieName ++ hexEncode (tokenOf n))

/-- A challenge for the zero nonce, and the login that answers it. -/
def challengeEvent (now : Nat) : AuthEvent :=
  .challenge ⟨1#32, now, now, (true, true), List.replicate loginChallengeNonceLen 0,
    agreeable true⟩

def loginEvent (n : UInt8) (now : Nat) : AuthEvent :=
  .login ⟨1#32, 128, .complete ⟨none, some (List.replicate 32 '0'),
    some (List.replicate 64 '0')⟩, now, now, now, tokenOf n, agreeable true⟩

/-- A first-boot setup through the access point. -/
def setupEvent (n : UInt8) (now : Nat) : AuthEvent :=
  .setup ⟨⟨true, some 0xC0A80401#32, some 0xC0A80401#32⟩, 30,
    .complete (some [110, 101, 119, 49]), now, tokenOf n, agreeable false⟩

/-- After a login, a clear through the web and a new setup, the token accepted is the new
    one. -/
theorem web_clear_revokes :
    ∃ t, revocation.run startedGate [challengeEvent 2, loginEvent 1 3,
        .clear (cookieOf 1) 4 (agreeable true), setupEvent 2 5] = some t ∧
      ∃ token, presentedToken (cookieOf 2) = some token ∧ token ∈ t.issued := by
  have hrun : revocation.run startedGate [challengeEvent 2, loginEvent 1 3,
      .clear (cookieOf 1) 4 (agreeable true), setupEvent 2 5] =
        some ((((startedGate.next (challengeEvent 2)).next (loginEvent 1 3)).next
          (.clear (cookieOf 1) 4 (agreeable true))).next (setupEvent 2 5)) := rfl
  have hfresh : startedGate.Fresh := ⟨fun s hs => List.eq_of_mem_replicate hs, rfl⟩
  refine ⟨_, hrun, accepted_since_change hfresh ?_ hrun (Nat.le_refl 5) (i := 0) ?_⟩
  · decide +kernel
  · decide +kernel

/-- After a login, a clear on the command line and a new setup, the token from before the
    clear is accepted. -/
theorem cli_clear_keeps_session :
    ∃ t, revocation.run startedGate [challengeEvent 2, loginEvent 1 3,
        .cli (fun _ => true) none 4, setupEvent 2 5] = some t ∧
      (sessionFindForReq t.auth.sessions (cookieOf 1) 6).isSome = true ∧
      presentedToken (cookieOf 1) = some (hexEncode (tokenOf 1)) ∧
      hexEncode (tokenOf 1) ∉ t.issued := by
  refine ⟨_, rfl, ?_, ?_, ?_⟩
  · decide +kernel
  · decide +kernel
  · decide +kernel

end SubnetRouter.Web
