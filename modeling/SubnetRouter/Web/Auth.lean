import SubnetRouter.Web.LoginGuard
import SubnetRouter.Web.Password
import SubnetRouter.Web.Sessions

namespace SubnetRouter.Web

open Lib

/-!
# The authentication endpoints (`main/web_ui.c`)

The handlers of `/api/auth/*` over the guards, the login challenges and the sessions.  What
other components answer is part of a request: whether the body arrives and what cJSON finds
in it, what the password component returns, and the clock at each reading.

* `authChallengeHandler`, `authLoginHandler`, `authSetupHandler`,
  `authChangePasswordHandler`, `authClearPasswordHandler`, `authLogoutHandler`.
* `Outcome` — the response, the next state, and the password that was stored, if one was.
-/

/-! ### Responses -/

/-- The ways these handlers answer. Statuses and texts are read off them. -/
inductive Response where
  | ok
  | rateLimited (retryS : Nat)
  | badRequest (text : String)
  | authRequired
  | unauthorised
  | wrongOldPassword
  | forbidden (text : String)
  | requestTimeout
  | serverError
  | closed

/-- The HTTP status; `none` where the connection ends without a response.  Several answers share
    one, and only their texts differ. -/
def Response.status : Response → Option Nat
  | .ok => some 200
  | .rateLimited _ => some 429
  | .badRequest _ => some 400
  | .authRequired => some 401
  | .unauthorised => some 401
  | .wrongOldPassword => some 401
  | .forbidden _ => some 403
  | .requestTimeout => some 408
  | .serverError => some 500
  | .closed => none

/-- The body of an error response. It is empty for the others. -/
def Response.text : Response → String
  | .rateLimited _ => "\x7b\"ok\":false,\"reason\":\"rate_limited\"\x7d"
  | .badRequest text => text
  | .authRequired => "auth required"
  | .unauthorised => "unauthorised"
  | .wrongOldPassword => "wrong old password"
  | .forbidden text => text
  | _ => ""

/-- How `httpd_req_recv` goes on for a body. -/
inductive Recv (β : Type) where
  | timeout
  | closed
  | complete (body : β)

/-- `recv_body` into a buffer of `bufSize` bytes. The announced length is checked before anything is
    received. -/
def recvBody {β : Type} (bufSize : Nat) (contentLen : Int) (recv : Recv β) : Except Response β :=
  if contentLen ≤ 0 ∨ (bufSize : Int) ≤ contentLen then
    .error (.badRequest "body too large or empty")
  else
    match recv with
    | .timeout => .error .requestTimeout
    | .closed => .error .closed
    | .complete body => .ok body

/-! ### State -/

/-- `login_challenge_t`. A challenge that has expired, or was used, leaves its slot free. -/
structure LoginChallenge where
  peerIp : Ip4
  nonce : List UInt8
  expiresUs : Nat
deriving DecidableEq, Repr

/-- `LOGIN_CHALLENGE_SLOTS`, `LOGIN_CHALLENGE_NONCE_LEN`, `LOGIN_CHALLENGE_TTL_US`. -/
def loginChallengeSlots : Nat := 8

def loginChallengeNonceLen : Nat := 16

def loginChallengeTtlUs : Nat := 30 * 1000000

/-- What these endpoints keep in RAM. The password itself is not there: it is asked of the password
    component. -/
structure AuthState where
  guards : List LoginGuard
  challenges : List LoginChallenge
  sessions : List Session
  sessionTimeoutS : Nat
  webAuthEnabled : Bool

/-- The endpoints after a start. All the slots are free, and the timeout is half an hour. -/
def AuthState.started : AuthState :=
  { guards := List.replicate loginGuardSlots LoginGuard.zero
    challenges := List.replicate loginChallengeSlots ⟨0#32, [], 0⟩
    sessions := List.replicate webUiSessionMax Session.zero
    sessionTimeoutS := 1800
    webAuthEnabled := true }

/-- What a handler did; `stored` is the password that `set_web_password_hashed` stored, empty
    for a clear. -/
structure Outcome where
  response : Response
  state : AuthState
  stored : Option Plaintext

/-- A refusal that changes nothing more. -/
def refuse (st : AuthState) (response : Response) : Outcome := ⟨response, st, none⟩

/-- What the password component answers during a request. Nothing ties the answers together here. -/
structure PasswordAnswers where
  isSet : Bool
  hasProofParams : Bool
  verify : Plaintext → Bool
  verifyProof : List Char → List UInt8 → List UInt8 → Bool
  set : Plaintext → Bool

/-! ### Challenges -/

/-- The slot scan of `login_challenge_issue`, from slot `i` on. A free slot is taken at once, and
    else the one that expires first. -/
def challengeScan (now : Nat) : Nat → Nat → Nat → List LoginChallenge → Nat
  | _, slot, _, [] => slot
  | i, slot, oldestExpiry, c :: cs =>
    if c.expiresUs ≤ now then i
    else if c.expiresUs < oldestExpiry then challengeScan now (i + 1) i c.expiresUs cs
    else challengeScan now (i + 1) slot oldestExpiry cs

/-- `login_challenge_issue` with the random nonce. -/
def loginChallengeIssue (challenges : List LoginChallenge) (peer : Ip4) (nonce : List UInt8)
    (now : Nat) : List LoginChallenge :=
  challenges.set (challengeScan now 0 0 uint64Max challenges)
    ⟨peer, nonce, now + loginChallengeTtlUs⟩

/-- `login_challenge_consume`: the matching challenge is zeroed. It has to be the peer's own, and
    not expired. -/
def loginChallengeConsume (challenges : List LoginChallenge) (peer : Ip4) (nonce : List UInt8)
    (now : Nat) : Option (List LoginChallenge) :=
  (challenges.findIdx? fun c =>
    decide (now < c.expiresUs) && c.peerIp == peer && c.nonce == nonce).map fun i =>
      challenges.set i ⟨0#32, [], 0⟩

/-- `hex_decode_exact` into `len` bytes. -/
def hexDecodeExact (text : List Char) (len : Nat) : Option (List UInt8) :=
  if text.length = len * 2 then hexDecode text else none

/-- `s_login_proof_context`. -/
def loginProofContext : List Char := "esp32-router-login-v1".toList

/-- `WEB_PASSWORD_PROOF_LEN`. -/
def webPasswordProofLen : Nat := 32

/-! ### Challenge and login -/

/-- A request to `/api/auth/challenge`; `memory` is the outcome of the two cJSON allocations.
    `issuedAt` is a later reading of the clock than `now`. -/
structure ChallengeRequest where
  peer : Ip4
  now : Nat
  issuedAt : Nat
  memory : Bool × Bool
  nonce : List UInt8
  answers : PasswordAnswers

/-- `auth_challenge_handler`. A challenge may be issued and the response still fail, which uses up a
    slot. -/
def authChallengeHandler (st : AuthState) (req : ChallengeRequest) : Outcome :=
  let guard := loginGuardReject st.guards req.peer req.now
  let st := { st with guards := guard.1 }
  match guard.2.2 with
  | some retryS => refuse st (.rateLimited retryS)
  | none =>
    if !req.memory.1 then refuse st .serverError
    else
      let challenges :=
        if req.answers.hasProofParams then
          loginChallengeIssue st.challenges req.peer req.nonce req.issuedAt
        else st.challenges
      refuse { st with challenges := challenges } (if req.memory.2 then .ok else .serverError)

/-- The string members that a login body may have. -/
structure LoginBody where
  password : Option Plaintext
  nonce : Option (List Char)
  proof : Option (List Char)

/-- A request to `/api/auth/login`: the guard is read at `now`, a challenge consumed at
    `checkedAt`, and the failure or the session dated `later`. -/
structure LoginRequest where
  peer : Ip4
  contentLen : Int
  body : Recv LoginBody
  now : Nat
  checkedAt : Nat
  later : Nat
  token : List UInt8
  answers : PasswordAnswers

/-- How a login body is judged. Only `wrong` counts against the peer. -/
inductive Credential where
  | missing
  | proofRequired
  | wrong
  | right
deriving DecidableEq, Repr

/-- The middle of `auth_login_handler`: the challenges left, and the verdict. A proof that is
    checked uses up its challenge, right or wrong. -/
def judgeLogin (challenges : List LoginChallenge) (req : LoginRequest) (body : LoginBody) :
    List LoginChallenge × Credential :=
  match body.nonce, body.proof with
  | some nonceText, some proofText =>
    match hexDecodeExact nonceText loginChallengeNonceLen,
        hexDecodeExact proofText webPasswordProofLen with
    | some nonce, some proof =>
      match loginChallengeConsume challenges req.peer nonce req.checkedAt with
      | some left =>
        (left, if req.answers.verifyProof loginProofContext nonce proof then .right else .wrong)
      | none => (challenges, .wrong)
    -- malformed hex counts as a wrong proof and uses up no challenge
    | _, _ => (challenges, .wrong)
  | _, _ =>
    match body.password with
    | none => (challenges, .missing)
    | some password =>
      if req.answers.hasProofParams then (challenges, .proofRequired)
      else (challenges, if req.answers.verify password then .right else .wrong)

/-- `login_guard_failed` on the guard in a slot. -/
def failGuard (guards : List LoginGuard) (slot now : Nat) : List LoginGuard :=
  guards.set slot (loginGuardFailed (guards.getD slot LoginGuard.zero) now)

/-- `auth_login_handler`. A peer that is blocked is answered before its body is received. -/
def authLoginHandler (st : AuthState) (req : LoginRequest) : Outcome :=
  let guard := loginGuardReject st.guards req.peer req.now
  let st := { st with guards := guard.1 }
  match guard.2.2 with
  | some retryS => refuse st (.rateLimited retryS)
  | none =>
    match recvBody 256 req.contentLen req.body with
    | .error response => refuse st response
    | .ok body =>
      let judged := judgeLogin st.challenges req body
      let st := { st with challenges := judged.1 }
      match judged.2 with
      | .missing => refuse st (.badRequest "missing password or proof")
      | .proofRequired => refuse st (.badRequest "challenge-response proof required")
      | .wrong =>
        refuse { st with guards := failGuard st.guards guard.2.1 req.later } .unauthorised
      | .right =>
        refuse { st with
          guards := st.guards.set guard.2.1 LoginGuard.zero
          sessions := sessionCreate st.sessions req.token st.sessionTimeoutS req.later } .ok

/-! ### Logout -/

/-- `auth_logout_handler`. -/
def authLogoutHandler (st : AuthState) (cookie : Option (List Char)) (now : Nat) : Outcome :=
  refuse { st with
    sessions := sessionClearSlot st.sessions (sessionFindForReq st.sessions cookie now) } .ok

/-! ### Setup -/

/-- `check_password_policy`: the error, if any. The length is the only rule. -/
def checkPasswordPolicy (pw : Option Plaintext) : Option String :=
  match pw with
  | none => some "missing password"
  | some pw =>
    if pw.length < 4 then some "password must be at least 4 characters" else none

/-- What `request_arrived_on_ap` looks at. -/
structure Arrival where
  apRuntimeEnabled : Bool
  localIp : Option Ip4
  apIp : Option Ip4

/-- `request_arrived_on_ap`. -/
def requestArrivedOnAp (a : Arrival) : Bool :=
  a.apRuntimeEnabled && a.localIp.isSome && a.apIp.isSome && a.localIp == a.apIp

/-- A request to `/api/auth/setup`. `later` is the time when the session is made. -/
structure SetupRequest where
  arrival : Arrival
  contentLen : Int
  body : Recv (Option Plaintext)
  later : Nat
  token : List UInt8
  answers : PasswordAnswers

/-- `auth_setup_handler`. It needs no session, but a password must not be set yet, and the request
    has to come in over the access point. -/
def authSetupHandler (st : AuthState) (req : SetupRequest) : Outcome :=
  if req.answers.isSet then refuse st (.badRequest "password already set")
  else if !requestArrivedOnAp req.arrival then
    refuse st (.forbidden "initial password setup is only allowed through the device AP")
  else
    match recvBody 256 req.contentLen req.body with
    | .error response => refuse st response
    | .ok body =>
      match checkPasswordPolicy body with
      | some policyErr => refuse st (.badRequest policyErr)
      | none =>
        let password := body.getD []
        -- no `sessionClearAll` here: tokens from before the setup stay in the table
        if !req.answers.set password then refuse st .serverError
        else
          { response := .ok
            state := { st with
              sessions := sessionCreate st.sessions req.token st.sessionTimeoutS req.later }
            stored := some password }

/-! ### Change and clear -/

/-- `request_authenticated`, on the state. -/
def requireAuth (st : AuthState) (isSet : Bool) (cookie : Option (List Char)) (now : Nat) :
    Bool × AuthState :=
  let r := requestAuthenticated st.webAuthEnabled isSet st.sessions st.sessionTimeoutS cookie now
  (r.1, { st with sessions := r.2 })

/-- A request to `/api/auth/change_password`: the session is looked up at `authAt`, the guard
    read at `now`, and a failure dated `later`. -/
structure ChangeRequest where
  peer : Ip4
  cookie : Option (List Char)
  contentLen : Int
  body : Recv (Option Plaintext × Option Plaintext)
  authAt : Nat
  now : Nat
  later : Nat
  answers : PasswordAnswers

/-- `auth_change_password_handler`. It asks for a session, and for the old password as well. -/
def authChangePasswordHandler (st : AuthState) (req : ChangeRequest) : Outcome :=
  let auth := requireAuth st req.answers.isSet req.cookie req.authAt
  if !auth.1 then refuse auth.2 .authRequired
  else
    let guard := loginGuardReject auth.2.guards req.peer req.now
    let st := { auth.2 with guards := guard.1 }
    match guard.2.2 with
    | some retryS => refuse st (.rateLimited retryS)
    | none =>
      match recvBody 512 req.contentLen req.body with
      | .error response => refuse st response
      | .ok (some oldPw, some newPw) =>
        if !req.answers.verify oldPw then
          refuse { st with guards := failGuard st.guards guard.2.1 req.later } .wrongOldPassword
        else
          match checkPasswordPolicy (some newPw) with
          | some policyErr => refuse st (.badRequest policyErr)
          | none =>
            if !req.answers.set newPw then refuse st .serverError
            else
              { response := .ok
                state := { st with
                  guards := st.guards.set guard.2.1 LoginGuard.zero
                  sessions := sessionClearAll st.sessions }
                stored := some newPw }
      | .ok _ => refuse st (.badRequest "missing old_password or new_password")

/-- `auth_clear_password_handler`, behind `require_password_session`; whether the clear was
    stored is not looked at. -/
def authClearPasswordHandler (st : AuthState) (cookie : Option (List Char)) (now : Nat)
    (answers : PasswordAnswers) : Outcome :=
  if answers.isSet && (sessionFindForReq st.sessions cookie now).isSome then
    { response := .ok
      state := { st with sessions := sessionClearAll st.sessions }
      stored := if answers.set [] then some [] else none }
  else refuse st (.forbidden "enable web authentication and sign in to access secrets")

/-! ### Settings and the command line -/

/-- `session_timeout_clamp`. -/
def sessionTimeoutClamp (v : Nat) : Nat :=
  if v = 0 then 0 else if v < 60 then 60 else if 28800 < v then 28800 else v

/-- The `session_timeout_s` and `web_auth_enabled` members of a system save, behind
    `require_auth`. -/
def systemSaveHandler (st : AuthState) (isSet : Bool) (cookie : Option (List Char)) (now : Nat)
    (timeoutS : Option Nat) (enabled : Option Bool) : Outcome :=
  let auth := requireAuth st isSet cookie now
  if !auth.1 then refuse auth.2 .authRequired
  else
    let st :=
      match timeoutS with
      | none => auth.2
      | some v => { auth.2 with
          sessionTimeoutS := sessionTimeoutClamp v
          sessions := sessionExtendAllAlive auth.2.sessions (sessionTimeoutClamp v) now }
    refuse { st with webAuthEnabled := enabled.getD st.webAuthEnabled } .ok

/-- `cmd_web_password`: the exit code and the password stored, empty without an argument. -/
def cmdWebPassword (set : Plaintext → Bool) (pw : Option Plaintext) : Nat × Option Plaintext :=
  if set (pw.getD []) then (0, some (pw.getD [])) else (1, none)

end SubnetRouter.Web
