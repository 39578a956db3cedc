import SubnetRouter.Web.Auth

namespace SubnetRouter.Web

open Lib

/-!
# The gate when the password cannot be read

`nvs_dup_str` answers `NULL` for a record that is not there and for a record that could not be
read, and `is_web_password_set` takes both for "no password".  With a record stored and the
gate on, the two callers that open up without a password fail closed exactly when the read
succeeds, or when they would refuse anyway (`gate_failClosed_iff`).
-/

/-- A setup request that is refused even without a password: it did not come through the
    access point, its body is not received or breaks the policy, or the write fails. -/
def SetupRefused (req : SetupRequest) : Prop :=
  requestArrivedOnAp req.arrival = false ∨
    ∀ body, recvBody 256 req.contentLen req.body = .ok body →
      (checkPasswordPolicy body).isSome = true ∨ req.answers.set (body.getD []) = false

variable {st : AuthState} {cookie : Option (List Char)} {now : Nat}

/-- Without a password, as far as the gate knows, everybody is let in. -/
theorem requireAuth_iff (hgate : st.webAuthEnabled = true) (isSet : Bool) :
    (requireAuth st isSet cookie now).1 = true ↔
      (isSet = false ∨ (sessionFindForReq st.sessions cookie now).isSome = true) := by
  unfold requireAuth
  rw [hgate]
  cases isSet with
  | false => simp [requestAuthenticated]
  | true =>
    show (requestAuthenticated true true _ _ _ _).1 = true ↔ _
    rw [requestAuthenticated_iff]
    simp

/-- The setup handler stores a password unless it believes that there is one, or refuses. -/
theorem setup_stored_iff (req : SetupRequest) :
    (authSetupHandler st req).stored = none ↔ (req.answers.isSet = true ∨ SetupRefused req) := by
  unfold authSetupHandler SetupRefused
  by_cases hset : req.answers.isSet = true
  · simp [hset, refuse]
  · rw [if_neg hset]
    by_cases hap : requestArrivedOnAp req.arrival = true
    · simp only [hap, Bool.not_true, Bool.false_eq_true, if_false, hset, false_or,
        Bool.true_eq_false]
      rcases hbody : recvBody 256 req.contentLen req.body with response | body
      · simp [refuse]
      · rcases hpolicy : checkPasswordPolicy body with _ | policyErr
        · by_cases hwrite : req.answers.set (body.getD []) = true
          · simp [hpolicy, hwrite]
          · simp [hpolicy, hwrite, refuse]
        · simp [hpolicy, refuse]
    · simp [hap, refuse]

/-- **Failing closed.** With a password record stored and the gate on: a request is let in only
    with a live session, exactly when the read succeeds or there is one; and a setup leaves
    the password alone exactly when the read succeeds or the setup is refused anyway. -/
theorem gate_failClosed_iff {record : List Char} (hrecord : record ≠ [])
    (hgate : st.webAuthEnabled = true) (o : ReadOutcome) :
    (∀ cookie now,
      ((requireAuth st (isWebPasswordSet (some record) o) cookie now).1 = true →
        (sessionFindForReq st.sessions cookie now).isSome = true) ↔
      (o.succeeds = true ∨ (sessionFindForReq st.sessions cookie now).isSome = true)) ∧
    ∀ req : SetupRequest, req.answers.isSet = isWebPasswordSet (some record) o →
      ((authSetupHandler st req).stored = none ↔ (o.succeeds = true ∨ SetupRefused req)) := by
  have hread := isWebPasswordSet_some hrecord o
  constructor
  · intro cookie now
    rw [requireAuth_iff hgate, hread]
    cases o.succeeds with
    | false => simp
    | true => simp
  · intro req hanswer
    rw [setup_stored_iff, hanswer, hread]

/-- A stored record. -/
def sampleRecord : List Char :=
  formatRecord (List.replicate pwSaltLen 1) (List.replicate pwHashLen 2)

/-- A setup request through the access point with a password of four characters; the read of
    the record goes as in `o`. -/
def sampleSetup (o : ReadOutcome) : SetupRequest :=
  { arrival := ⟨true, some 0xC0A80401#32, some 0xC0A80401#32⟩
    contentLen := 30
    body := .complete (some [110, 101, 119, 49])
    later := 5
    token := List.replicate webUiSessionTokenLen 7
    answers := ⟨isWebPasswordSet (some sampleRecord) o, true, fun _ => false, fun _ _ _ => false,
      fun _ => true⟩ }

/-- Read without failure: no session, no access, and no new password. -/
theorem read_succeeds_closed :
    ((requireAuth AuthState.started
        (isWebPasswordSet (some sampleRecord) ⟨true, true, true, true⟩) none 5).1 = true →
      (sessionFindForReq AuthState.started.sessions none 5).isSome = true) ∧
      (authSetupHandler AuthState.started (sampleSetup ⟨true, true, true, true⟩)).stored =
        none := by
  have hrecord : sampleRecord ≠ [] := by decide
  have hgate : AuthState.started.webAuthEnabled = true := rfl
  have hiff := gate_failClosed_iff hrecord hgate ⟨true, true, true, true⟩
  exact ⟨(hiff.1 none 5).mpr (.inl rfl), (hiff.2 _ rfl).mpr (.inl rfl)⟩

/-- One failed allocation lets a request without a cookie in, and lets a setup through the
    access point replace the password. -/
theorem malloc_failure_opens :
    (requireAuth AuthState.started
        (isWebPasswordSet (some sampleRecord) ⟨true, true, false, true⟩) none 5).1 = true ∧
      (sessionFindForReq AuthState.started.sessions none 5).isSome = false ∧
      (authSetupHandler AuthState.started (sampleSetup ⟨true, true, false, true⟩)).stored =
        some [110, 101, 119, 49] := by
  refine ⟨?_, ?_, ?_⟩
  · decide
  · decide
  · decide

end SubnetRouter.Web
