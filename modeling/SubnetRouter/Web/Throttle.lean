import SubnetRouter.Lib.Run
import SubnetRouter.Web.Auth

namespace SubnetRouter.Web

open Lib

/-!
# Login throttling over runs

What a peer owes (its failures, and the time until which it is blocked) is kept in a ledger
beside the guard table: a failed login or password change adds to it, a success of the same
peer clears it, and a peer is forgotten when all slots are in use by others and it is the
least recently seen.  As long as no free slot stands before a requesting peer's own guard, the
table is the ledger (`throttle_inv`), and blocked peers get 429 (`blocked_peer_rejected`).

* `handle_spec` — what the three handlers do with the guards.
* `loginGuardReject_spec` — the slot taken, and whose guard it was.
* `debtOf_set` — the ledger of an updated table.
-/

/-! ### The ledger -/

/-- What a guard holds against its peer. -/
structure Debt where
  failures : Nat
  blockedUntilUs : Nat
deriving DecidableEq, Repr

/-- No failures. -/
def Debt.none : Debt := ⟨0, 0⟩

def LoginGuard.debt (g : LoginGuard) : Debt := ⟨g.failures, g.blockedUntilUs⟩

/-- The debt after one more failure. -/
def Debt.failed (d : Debt) (now : Nat) : Debt :=
  (loginGuardFailed ⟨0#32, d.failures, d.blockedUntilUs, 0⟩ now).debt

/-- What the table holds against a peer. -/
def debtOf (guards : List LoginGuard) (ip : Ip4) : Debt :=
  ((guards.find? (LoginGuard.isOf ip)).map LoginGuard.debt).getD Debt.none

instance (ip : Ip4) (g : LoginGuard) : Decidable (Passes ip g) :=
  inferInstanceAs (Decidable (_ ∧ _))

/-- The peer forgotten by a request: the owner of the slot taken, when all slots are in use by
    other peers than the requesting one and that owner was seen no later than any. -/
def evictedPeer (guards : List LoginGuard) (ip : Ip4) : Option Ip4 :=
  match guards[(loginGuardFor guards ip).2]? with
  | none => .none
  | some g =>
    if ∀ g' ∈ guards, Passes ip g' ∧ g.lastSeenUs ≤ g'.lastSeenUs then some g.peerIp else .none

/-! ### The requests -/

/-- The requests that are throttled. -/
inductive GuardedRequest where
  | challenge (req : ChallengeRequest)
  | login (req : LoginRequest)
  | change (req : ChangeRequest)

namespace GuardedRequest

def peer : GuardedRequest → Ip4
  | challenge req => req.peer
  | login req => req.peer
  | change req => req.peer

/-- When the guard is read. -/
def now : GuardedRequest → Nat
  | challenge req => req.now
  | login req => req.now
  | change req => req.now

/-- When the handler is done. -/
def later : GuardedRequest → Nat
  | challenge req => req.now
  | login req => req.later
  | change req => req.later

def handle (st : AuthState) : GuardedRequest → Outcome
  | challenge req => authChallengeHandler st req
  | login req => authLoginHandler st req
  | change req => authChangePasswordHandler st req

/-- The handler gets to the guard: a password change must pass `require_auth` first. -/
def reachesGuard (st : AuthState) : GuardedRequest → Bool
  | change req => (requireAuth st req.answers.isSet req.cookie req.authAt).1
  | _ => true

end GuardedRequest

/-- What a response says about the peer's credentials. A response to a request that was malformed
    says nothing. -/
inductive Verdict where
  | throttled
  | failed
  | succeeded
  | undecided
deriving DecidableEq, Repr

/-- The verdict, read off the kind of request and the response. A login and a change of the password
    are judged alike. -/
def verdict : GuardedRequest → Response → Verdict
  | _, .rateLimited _ => .throttled
  | .login _, .unauthorised => .failed
  | .login _, .ok => .succeeded
  | .change _, .wrongOldPassword => .failed
  | .change _, .ok => .succeeded
  | _, _ => .undecided

/-- What a verdict does to the guard that the request got. -/
def settle (guards : List LoginGuard) (slot later : Nat) : Verdict → List LoginGuard
  | .failed => failGuard guards slot later
  | .succeeded => guards.set slot LoginGuard.zero
  | _ => guards

/-- A body that is not received is no verdict, and no 429. -/
private theorem verdict_recvBody {β : Type} {bufSize : Nat} {contentLen : Int} {body : Recv β}
    {response : Response} (req : GuardedRequest)
    (h : recvBody bufSize contentLen body = .error response) :
    verdict req response = .undecided ∧ response.status ≠ some 429 := by
  unfold recvBody at h
  split at h
  · cases h
    cases req <;> exact ⟨rfl, by simp [Response.status]⟩
  · split at h
    · cases h
      cases req <;> exact ⟨rfl, by simp [Response.status]⟩
    · cases h
      cases req <;> exact ⟨rfl, by simp [Response.status]⟩
    · cases h

/-- The guards after a handler, when the guard was read as `r`. -/
def Settles (req : GuardedRequest) (o : Outcome) (r : List LoginGuard × Nat × Option Nat) :
    Prop :=
  (r.2.2.isSome ↔ o.response.status = some 429) ∧
    o.state.guards = settle r.1 r.2.1 req.later (verdict req o.response)

private theorem settles_challenge {st : AuthState} {req : ChallengeRequest} :
    Settles (.challenge req) (authChallengeHandler st req)
      (loginGuardReject st.guards req.peer req.now) := by
  rcases hr : loginGuardReject st.guards req.peer req.now with ⟨guards, slot, retry⟩
  simp only [authChallengeHandler, hr]
  rcases retry with _ | retryS
  · rcases req.memory with ⟨_ | _, _ | _⟩ <;> exact ⟨by simp [refuse, Response.status], rfl⟩
  · exact ⟨by simp [refuse, Response.status], rfl⟩

private theorem settles_login {st : AuthState} {req : LoginRequest} :
    Settles (.login req) (authLoginHandler st req)
      (loginGuardReject st.guards req.peer req.now) := by
  rcases hr : loginGuardReject st.guards req.peer req.now with ⟨guards, slot, retry⟩
  simp only [authLoginHandler, hr]
  rcases retry with _ | retryS
  · rcases hbody : recvBody 256 req.contentLen req.body with response | body
    · obtain ⟨hv, hs⟩ := verdict_recvBody (.login req) hbody
      exact ⟨by simp [refuse, hs], by simp [refuse, hv, settle]⟩
    · simp only
      rcases judgeLogin st.challenges req body with ⟨challenges, _ | _ | _ | _⟩ <;>
        exact ⟨by simp [refuse, Response.status], rfl⟩
  · exact ⟨by simp [refuse, Response.status], rfl⟩

private theorem settles_change {st : AuthState} {req : ChangeRequest}
    (h : (requireAuth st req.answers.isSet req.cookie req.authAt).1 = true) :
    Settles (.change req) (authChangePasswordHandler st req)
      (loginGuardReject st.guards req.peer req.now) := by
  have hguards : (requireAuth st req.answers.isSet req.cookie req.authAt).2.guards = st.guards :=
    rfl
  -- The exits of the handler in their order: rejected, no body, wrong, against the policy, changed.
  rcases hr : loginGuardReject st.guards req.peer req.now with ⟨guards, slot, retry⟩
  simp only [authChangePasswordHandler, h, Bool.not_true, Bool.false_eq_true, if_false, hguards,
    hr]
  rcases retry with _ | retryS
  -- A body without one of the passwords is refused, and counts as no attempt.
  · rcases hbody : recvBody 512 req.contentLen req.body with response | ⟨_ | oldPw, _ | newPw⟩
    · obtain ⟨hv, hs⟩ := verdict_recvBody (.change req) hbody
      exact ⟨by simp [refuse, hs], by simp [refuse, hv, settle]⟩
    · exact ⟨by simp [refuse, Response.status], rfl⟩
    · exact ⟨by simp [refuse, Response.status], rfl⟩
    · exact ⟨by simp [refuse, Response.status], rfl⟩
    · simp only
      by_cases hverify : req.answers.verify oldPw = true
      · rcases hpolicy : checkPasswordPolicy (some newPw) with _ | policyErr
        · by_cases hset : req.answers.set newPw = true
          · simp only [hverify, hset, Bool.not_true, Bool.false_eq_true, if_false]
            exact ⟨by simp [Response.status], rfl⟩
          · simp only [hverify, Bool.not_true, Bool.false_eq_true, if_false, hset, Bool.not_false,
              if_true]
            exact ⟨by simp [refuse, Response.status], rfl⟩
        · simp only [hverify, Bool.not_true, Bool.false_eq_true, if_false]
          exact ⟨by simp [refuse, Response.status], rfl⟩
      · simp only [hverify, Bool.not_false, if_true]
        exact ⟨by simp [refuse, Response.status], rfl⟩
  · exact ⟨by simp [refuse, Response.status], rfl⟩

/-- **The handlers and the guards.** A request that reaches the guard is answered 429 exactly
    when the guard rejects it, and the guards change only by the lookup and the verdict. -/
theorem handle_spec {st : AuthState} {req : GuardedRequest} (h : req.reachesGuard st = true) :
    Settles req (req.handle st) (loginGuardReject st.guards req.peer req.now) := by
  cases req with
  | challenge req => exact settles_challenge
  | login req => exact settles_login
  | change req => exact settles_change h

/-- A password change that is not authenticated gets a 401 and leaves the guards alone. -/
theorem handle_unauthenticated {st : AuthState} {req : GuardedRequest}
    (h : req.reachesGuard st = false) :
    (req.handle st).response = .authRequired ∧ (req.handle st).state.guards = st.guards ∧
      verdict req (req.handle st).response = .undecided := by
  cases req with
  | challenge req => cases h
  | login req => cases h
  | change req =>
    have hauth : (requireAuth st req.answers.isSet req.cookie req.authAt).1 = false := h
    simp only [GuardedRequest.handle, authChangePasswordHandler, hauth, Bool.not_false, if_true]
    exact ⟨rfl, rfl, rfl⟩

/-! ### The table and the ledger -/

variable {guards : List LoginGuard} {ip other : Ip4} {slot : Nat} {g : LoginGuard}

/-- No peer has two guards. -/
def UniqueGuards (guards : List LoginGuard) : Prop :=
  ∀ (i j : Nat) (g h : LoginGuard), guards[i]? = some g → guards[j]? = some h →
    g.inUse = true → h.inUse = true → g.peerIp = h.peerIp → i = j

/-- The slot may be given to the peer: it exists, and no other slot is the peer's. -/
def MayTake (guards : List LoginGuard) (ip : Ip4) (slot : Nat) : Prop :=
  slot < guards.length ∧
    ∀ (j : Nat) (h : LoginGuard), j ≠ slot → guards[j]? = some h → h.isOf ip = false

/-- A guard is one peer's only. -/
private theorem isOf_other {g : LoginGuard} (hof : g.isOf ip = true) (hne : other ≠ ip) :
    g.isOf other = false := by
  simp only [LoginGuard.isOf, Bool.and_eq_true, beq_iff_eq] at hof
  simp [LoginGuard.isOf, hof.1, Ne.symm hne]

/-- Two slots of one peer are the same slot. -/
theorem UniqueGuards.eq_of_isOf (h : UniqueGuards guards) {i j : Nat} {g g' : LoginGuard}
    (hi : guards[i]? = some g) (hj : guards[j]? = some g') (hg : g.isOf ip = true)
    (hg' : g'.isOf ip = true) : i = j := by
  simp only [LoginGuard.isOf, Bool.and_eq_true, beq_iff_eq] at hg hg'
  exact h i j g g' hi hj hg.2 hg'.2 (hg.1.trans hg'.1.symm)

/-- Giving a slot to a peer that may take it, or freeing it, keeps guards unique. -/
theorem UniqueGuards.set (h : UniqueGuards guards) (htake : MayTake guards ip slot)
    (hg : g.inUse = true → g.peerIp = ip) : UniqueGuards (guards.set slot g) := by
  intro i j a b hi hj ha hb hsame
  rcases getElem?_set_cases hi with ⟨hslot, rfl⟩ | ⟨hine, hiold⟩
  · rcases getElem?_set_cases hj with ⟨hslot', -⟩ | ⟨hjne, hjold⟩
    · exact hslot.symm.trans hslot'
    · have hother := htake.2 j b (Ne.symm hjne) hjold
      simp [LoginGuard.isOf, hb, ← hsame, hg ha] at hother
  · rcases getElem?_set_cases hj with ⟨-, rfl⟩ | ⟨-, hjold⟩
    · have hother := htake.2 i a (Ne.symm hine) hiold
      simp [LoginGuard.isOf, ha, hsame, hg hb] at hother
    · exact h i j a b hiold hjold ha hb hsame

/-- What the updated table holds against the peer whose slot it is. -/
theorem debtOf_set_self (htake : MayTake guards ip slot)
    (hg : g.isOf ip = true ∨ g.debt = Debt.none ∧ g.inUse = false) :
    debtOf (guards.set slot g) ip = g.debt := by
  unfold debtOf
  rcases hg with hof | ⟨hdebt, hfree⟩
  · rw [find?_set_self htake.1 hof htake.2]
    rfl
  · have hnot : g.isOf ip = false := by simp [LoginGuard.isOf, hfree]
    rw [find?_set_none hnot htake.2, hdebt]
    rfl

/-- What it holds against another peer: nothing, if the slot was that peer's. -/
theorem debtOf_set_other {old : LoginGuard} (hunique : UniqueGuards guards)
    (hold : guards[slot]? = some old) (hg : g.isOf other = false) :
    debtOf (guards.set slot g) other =
      if old.isOf other = true then Debt.none else debtOf guards other := by
  unfold debtOf
  by_cases hof : old.isOf other = true
  · have hrest : ∀ (j : Nat) (h : LoginGuard), j ≠ slot → guards[j]? = some h →
        h.isOf other = false := by
      intro j h hj hh
      by_contra hother
      exact hj (hunique.eq_of_isOf hh hold (by simpa using hother) hof)
    rw [if_pos hof, find?_set_none hg hrest]
    rfl
  · rw [if_neg hof, find?_set_of_not hg]
    intro y hy
    rw [hold, Option.some.injEq] at hy
    exact hy ▸ Bool.eq_false_iff.mpr hof

/-- A request does not evict its own peer. -/
theorem evictedPeer_ne : evictedPeer guards ip ≠ some ip := by
  unfold evictedPeer
  split
  · simp
  · rename_i g hg
    split
    · rename_i hall
      intro hpeer
      -- the owner is in use and passed, so it is not the requesting peer
      obtain ⟨⟨huse, hof⟩, -⟩ := hall g (List.mem_of_getElem? hg)
      simp [LoginGuard.isOf, Option.some.inj hpeer, huse] at hof
    · simp

/-- The slot that a request takes, where `old` is: it may take it, it finds all that is held against
    its peer there, and whoever was in it is evicted. -/
structure Takes (guards : List LoginGuard) (ip : Ip4) (now : Nat) (old : LoginGuard) : Prop where
  slot : guards[(loginGuardFor guards ip).2]? = some old
  mayTake : MayTake guards ip (loginGuardFor guards ip).2
  table : (loginGuardReject guards ip now).1 = guards.set (loginGuardFor guards ip).2
    ⟨ip, (debtOf guards ip).failures, (debtOf guards ip).blockedUntilUs, now⟩
  same : (loginGuardReject guards ip now).2.1 = (loginGuardFor guards ip).2
  blocked : (loginGuardReject guards ip now).2.2.isSome ↔ now < (debtOf guards ip).blockedUntilUs
  evicts : ∀ q, q ≠ ip → (old.isOf q = true ↔ evictedPeer guards ip = some q)

/-- The peer has a guard, in slot `k`. It is the only one, so no other guard changes. -/
theorem takes_own {k : Nat} {old : LoginGuard} (now : Nat) (hunique : UniqueGuards guards)
    (hfor : loginGuardFor guards ip = (guards, k)) (hk : guards[k]? = some old)
    (hfind : guards.find? (LoginGuard.isOf ip) = some old) : Takes guards ip now old := by
  have hof := List.find?_some hfind
  have hpeer : old.peerIp = ip := by
    simp only [LoginGuard.isOf, Bool.and_eq_true, beq_iff_eq] at hof
    exact hof.1
  have hdebt : debtOf guards ip = old.debt := by rw [debtOf, hfind]; rfl
  have hget : guards.getD k LoginGuard.zero = old := by
    rw [List.getD_eq_getElem?_getD, hk, Option.getD_some]
  have hevict : evictedPeer guards ip = .none := by
    unfold evictedPeer
    rw [hfor]
    simp only [hk]
    rw [if_neg]
    -- the scan would have passed the peer's own guard
    intro hall
    have hpass := (hall old (List.mem_of_getElem? hk)).1.2
    rw [hof] at hpass
    cases hpass
  refine ⟨by rw [hfor]; exact hk, ?_, ?_, ?_, ?_, ?_⟩
  · rw [hfor]
    refine ⟨(List.getElem?_eq_some_iff.mp hk).1, ?_⟩
    intro j h hj hh
    by_contra hother
    exact hj (hunique.eq_of_isOf hh hk (by simpa using hother) hof)
  · simp only [loginGuardReject, hfor, hget, hdebt, LoginGuard.debt]
    split <;> simp [← hpeer]
  · simp only [loginGuardReject, hfor]
    split <;> rfl
  · simp only [loginGuardReject, hfor, hget, hdebt, LoginGuard.debt]
    split <;> simp <;> omega
  · intro q hq
    rw [hevict, isOf_other hof hq]
    simp

/-- The peer has none: slot `k` is free, or all slots are taken by others. In the second case the
    peer seen longest ago loses its guard. -/
theorem takes_other {k : Nat} {old : LoginGuard} (now : Nat)
    (hfor : loginGuardFor guards ip = (guards.set k (LoginGuard.fresh ip), k))
    (hk : guards[k]? = some old) (hnone : guards.find? (LoginGuard.isOf ip) = none)
    (hcase : old.inUse = false ∨ (∀ g ∈ guards, Passes ip g) ∧
      ∀ g ∈ guards, old.lastSeenUs ≤ g.lastSeenUs) :
    Takes guards ip now old := by
  have hdebt : debtOf guards ip = Debt.none := by rw [debtOf, hnone]; rfl
  have hlt := (List.getElem?_eq_some_iff.mp hk).1
  have hget : (guards.set k (LoginGuard.fresh ip)).getD k LoginGuard.zero =
      LoginGuard.fresh ip := by
    simp [List.getD_eq_getElem?_getD, hlt]
  refine ⟨by rw [hfor]; exact hk, ?_, ?_, ?_, ?_, ?_⟩
  · rw [hfor]
    refine ⟨hlt, ?_⟩
    intro j h _ hh
    simpa using List.find?_eq_none.mp hnone h (List.mem_of_getElem? hh)
  · simp only [loginGuardReject, hfor, hget, hdebt]
    split <;> simp [LoginGuard.fresh, Debt.none]
  · simp only [loginGuardReject, hfor]
    split <;> rfl
  · simp only [loginGuardReject, hfor, hget, hdebt]
    simp [LoginGuard.fresh, Debt.none]
  · intro q hq
    unfold evictedPeer
    rw [hfor]
    simp only [hk]
    -- a free slot evicts nobody, the oldest of a full table its owner
    rcases hcase with hfree | ⟨hpass, hmin⟩
    · rw [if_neg]
      · simp [LoginGuard.isOf, hfree]
      · intro hall
        have huse := (hall old (List.mem_of_getElem? hk)).1.1
        rw [hfree] at huse
        cases huse
    · rw [if_pos fun g' hg' => ⟨hpass g' hg', hmin g' hg'⟩]
      have huse := (hpass old (List.mem_of_getElem? hk)).1
      simp [LoginGuard.isOf, huse]

/-- **The slot taken**, when no free slot stands before the peer's own guard. -/
theorem loginGuardReject_spec (now : Nat) (hunique : UniqueGuards guards)
    (hown : OwnGuardFirst guards ip) (htimes : WellTimed guards) :
    ∃ old, Takes guards ip now old := by
  rcases guardScan_spec hown htimes with
    ⟨k, old, hscan, hk, hfind⟩ | ⟨hnone, k, old, hscan, hk, hcase⟩
  · have hfor : loginGuardFor guards ip = (guards, k) := by rw [loginGuardFor, hscan]
    exact ⟨old, takes_own now hunique hfor hk hfind⟩
  · have hfor : loginGuardFor guards ip = (guards.set k (LoginGuard.fresh ip), k) := by
      rw [loginGuardFor, hscan]
    exact ⟨old, takes_other now hfor hk hnone hcase⟩

/-! ### Runs -/

/-- The endpoints, the time of the last request, and the ledger. -/
structure Throttle where
  auth : AuthState
  clock : Nat
  ledger : Ip4 → Debt

/-- The ledger without the peer evicted. -/
def forget (ledger : Ip4 → Debt) (evicted : Option Ip4) (peer : Ip4) : Debt :=
  if evicted = some peer then Debt.none else ledger peer

/-- A peer's debt after a verdict. -/
def Debt.after (d : Debt) (later : Nat) : Verdict → Debt
  | .failed => d.failed later
  | .succeeded => Debt.none
  | _ => d

/-- The ledger after a verdict on a peer. -/
def charge (ledger : Ip4 → Debt) (ip : Ip4) (later : Nat) (v : Verdict) : Ip4 → Debt :=
  Function.update ledger ip ((ledger ip).after later v)

/-- One request. The ledger is charged for what the response says, and forgets the peer whose slot
    in the table was taken over. -/
def Throttle.next (t : Throttle) (req : GuardedRequest) : Throttle :=
  let o := req.handle t.auth
  let kept :=
    if req.reachesGuard t.auth then forget t.ledger (evictedPeer t.auth.guards req.peer)
    else t.ledger
  ⟨o.state, req.later, charge kept req.peer req.later (verdict req o.response)⟩

/-- The machine of all request sequences at non-decreasing times of a 64-bit clock. -/
def throttle : Machine Throttle GuardedRequest :=
  ⟨fun t req =>
    if t.clock ≤ req.now ∧ req.now ≤ req.later ∧ req.later < uint64Max then some (t.next req)
    else none⟩

/-- The router after its start: sixteen free guards, no debts, and a running clock. -/
def Throttle.Fresh (t : Throttle) : Prop :=
  t.auth.guards = List.replicate loginGuardSlots LoginGuard.zero ∧
    (0 < t.clock ∧ t.clock < uint64Max) ∧ ∀ ip, t.ledger ip = Debt.none

/-- The request finds its peer's own guard, if it has one: no free slot stands before it.  A
    password change of a blocked peer is authenticated, so that it gets to the guard at all. -/
def Throttle.Unhindered (t : Throttle) (req : GuardedRequest) : Prop :=
  if req.reachesGuard t.auth then OwnGuardFirst t.auth.guards req.peer
  else (t.ledger req.peer).blockedUntilUs ≤ req.now

/-- The guard table is the ledger, and its slots belong to different peers. No slot was seen later
    than the clock, which is past zero, as a zero marks a free slot. -/
structure Throttle.Inv (t : Throttle) : Prop where
  unique : UniqueGuards t.auth.guards
  nonempty : t.auth.guards ≠ []
  seen : ∀ g ∈ t.auth.guards, g.lastSeenUs ≤ t.clock
  clock : 0 < t.clock ∧ t.clock < uint64Max
  agrees : ∀ ip, debtOf t.auth.guards ip = t.ledger ip

/-- A 64-bit clock keeps the table's times in range. -/
theorem Throttle.Inv.wellTimed {t : Throttle} (h : t.Inv) : WellTimed t.auth.guards :=
  ⟨h.nonempty, fun g hg => Nat.lt_of_le_of_lt (h.seen g hg) h.clock.2⟩

/-- The guard that a verdict leaves in a slot. -/
def settled (g : LoginGuard) (later : Nat) : Verdict → LoginGuard
  | .failed => loginGuardFailed g later
  | .succeeded => LoginGuard.zero
  | _ => g

theorem settle_set (hslot : slot < guards.length) (later : Nat) (v : Verdict) :
    settle (guards.set slot g) slot later v = guards.set slot (settled g later v) := by
  have hget : (guards.set slot g).getD slot LoginGuard.zero = g := by
    simp [List.getD_eq_getElem?_getD, hslot]
  cases v with
  | failed => rw [settle, failGuard, hget, List.set_set, settled]
  | succeeded => rw [settle, List.set_set, settled]
  | throttled => rfl
  | undecided => rfl

/-- A failure changes what a guard holds against its peer, and nothing else. -/
theorem loginGuardFailed_spec (g : LoginGuard) (later : Nat) :
    (loginGuardFailed g later).peerIp = g.peerIp ∧
      (loginGuardFailed g later).lastSeenUs = g.lastSeenUs ∧
      (loginGuardFailed g later).debt = g.debt.failed later := by
  unfold Debt.failed loginGuardFailed LoginGuard.debt
  simp only
  generalize (if g.failures < 255 then g.failures + 1 else g.failures) = failures
  by_cases hfew : failures < 3
  · simp only [hfew, if_true, and_self]
  · simp only [hfew, if_false, and_self]

/-- The guard left is the peer's, with the debt after the verdict, or is free. A success frees
    it. -/
theorem settled_spec (hof : g.isOf ip = true) (later : Nat) (v : Verdict) :
    ((settled g later v).isOf ip = true ∨
        (settled g later v).debt = Debt.none ∧ (settled g later v).inUse = false) ∧
      ((settled g later v).inUse = true → (settled g later v).peerIp = ip) ∧
      (settled g later v).lastSeenUs ≤ g.lastSeenUs ∧
      (settled g later v).debt = g.debt.after later v := by
  have hpeer : g.peerIp = ip ∧ g.inUse = true := by
    simpa [LoginGuard.isOf] using hof
  -- One case per verdict: a failure adds to the debt, a success frees the slot.
  cases v with
  | failed =>
    obtain ⟨hp, hl, hd⟩ := loginGuardFailed_spec g later
    have huse : (loginGuardFailed g later).inUse = true := by
      have := hpeer.2
      simpa only [LoginGuard.inUse, hl] using this
    refine ⟨.inl ?_, fun _ => hp.trans hpeer.1, Nat.le_of_eq hl, hd⟩
    simp [settled, LoginGuard.isOf, hp, hpeer.1, huse]
  | succeeded =>
    have hfree : (settled g later .succeeded).inUse = false := rfl
    refine ⟨.inr ⟨rfl, hfree⟩, ?_, Nat.zero_le _, rfl⟩
    intro huse
    rw [hfree] at huse
    cases huse
  | throttled => exact ⟨.inl hof, fun _ => hpeer.1, Nat.le_refl _, rfl⟩
  | undecided => exact ⟨.inl hof, fun _ => hpeer.1, Nat.le_refl _, rfl⟩

/-- A request that does not reach the guards leaves them and the ledger as they are. -/
theorem next_inv_unreached {t : Throttle} {req : GuardedRequest}
    (hno : req.reachesGuard t.auth = false) (hinv : t.Inv)
    (htime : t.clock ≤ req.now ∧ req.now ≤ req.later ∧ req.later < uint64Max) :
    (t.next req).Inv := by
  obtain ⟨-, hsame, hverdict⟩ := handle_unauthenticated hno
  -- Neither the table nor the ledger is touched, and the clock goes on.
  refine ⟨?_, ?_, ?_, ?_, ?_⟩
  · show UniqueGuards (req.handle t.auth).state.guards
    exact hsame ▸ hinv.unique
  · show (req.handle t.auth).state.guards ≠ []
    exact hsame ▸ hinv.nonempty
  · intro h hh
    have hle := hinv.seen h (hsame ▸ hh : h ∈ t.auth.guards)
    show h.lastSeenUs ≤ req.later
    omega
  · exact ⟨by show 0 < req.later; have := hinv.clock.1; omega, htime.2.2⟩
  · intro q
    show debtOf (req.handle t.auth).state.guards q = _
    rw [hsame, hinv.agrees]
    simp only [Throttle.next, hno, hverdict, charge, Debt.after, Function.update_eq_self]
    rfl

/-- **Step lemma.** A request that is not hindered keeps the table equal to the ledger. What the
    guard is charged and what the ledger is charged depend on the same verdict. -/
theorem next_inv {t : Throttle} {req : GuardedRequest} (hc : t.Unhindered req) (hinv : t.Inv)
    (htime : t.clock ≤ req.now ∧ req.now ≤ req.later ∧ req.later < uint64Max) :
    (t.next req).Inv := by
  unfold Throttle.Unhindered at hc
  by_cases hreach : req.reachesGuard t.auth = true
  · rw [if_pos hreach] at hc
    obtain ⟨old, hold, htake, hguards, hslot, -, hevict⟩ :=
      loginGuardReject_spec req.now hinv.unique hc hinv.wellTimed
    obtain ⟨-, hsettle⟩ := handle_spec hreach
    rw [hguards, hslot, settle_set htake.1] at hsettle
    have hnow : 0 < req.now := Nat.lt_of_lt_of_le hinv.clock.1 htime.1
    have hof : LoginGuard.isOf req.peer ⟨req.peer, (debtOf t.auth.guards req.peer).failures,
        (debtOf t.auth.guards req.peer).blockedUntilUs, req.now⟩ = true := by
      simp [LoginGuard.isOf, LoginGuard.inUse]
      omega
    obtain ⟨hself, hpeer, hseen, hdebt⟩ :=
      settled_spec hof req.later (verdict req (req.handle t.auth).response)
    generalize settled _ req.later (verdict req (req.handle t.auth).response) = g at *
    refine ⟨?_, ?_, ?_, ?_, ?_⟩
    · show UniqueGuards (req.handle t.auth).state.guards
      rw [hsettle]
      exact hinv.unique.set htake hpeer
    · show (req.handle t.auth).state.guards ≠ []
      rw [hsettle]
      simpa using hinv.nonempty
    · intro h hh
      show h.lastSeenUs ≤ req.later
      have hmem : h ∈ t.auth.guards.set _ g := hsettle ▸ hh
      rcases mem_set_of hmem with rfl | hold'
      · exact Nat.le_trans hseen htime.2.1
      · have hle := hinv.seen h hold'
        omega
    · exact ⟨Nat.lt_of_lt_of_le hnow htime.2.1, htime.2.2⟩
    · intro q
      show debtOf (req.handle t.auth).state.guards q = _
      rw [hsettle]
      simp only [Throttle.next, hreach, if_true]
      by_cases hq : q = req.peer
      -- the requesting peer: its debt after the verdict
      · rw [hq, debtOf_set_self htake hself, hdebt]
        have hkept : forget t.ledger (evictedPeer t.auth.guards req.peer) req.peer =
            debtOf t.auth.guards req.peer := by
          rw [forget, if_neg evictedPeer_ne, hinv.agrees]
        rw [charge, Function.update_self, hkept]
        rfl
      -- another peer: forgotten if the slot was its own, otherwise untouched
      · have hnot : g.isOf q = false := by
          by_contra hgq
          have hgq' : g.peerIp = q ∧ g.inUse = true := by simpa [LoginGuard.isOf] using hgq
          exact hq (hgq'.1.symm.trans (hpeer hgq'.2))
        rw [debtOf_set_other hinv.unique hold hnot, charge, Function.update_of_ne hq, forget,
          hinv.agrees]
        by_cases hofq : old.isOf q = true
        · rw [if_pos hofq, if_pos ((hevict q hq).mp hofq)]
        · rw [if_neg hofq, if_neg fun h => hofq ((hevict q hq).mpr h)]
  · exact next_inv_unreached (Bool.eq_false_iff.mpr hreach) hinv htime

/-- **Run lemma.** In every run of unhindered requests the table is the ledger. Before the first one
    both are empty. -/
theorem throttle_inv {s t : Throttle} {reqs : List GuardedRequest} (hfresh : s.Fresh)
    (hmeets : throttle.Meets Throttle.Unhindered s reqs) (hrun : throttle.run s reqs = some t) :
    t.Inv := by
  apply Machine.invariant_of_meets ?_ hmeets hrun
  · -- before the first request all guards are unused
    obtain ⟨hguards, hclock, hledger⟩ := hfresh
    have hzero : ∀ g ∈ s.auth.guards, g = LoginGuard.zero := by
      intro g hg
      rw [hguards] at hg
      exact List.eq_of_mem_replicate hg
    refine ⟨?_, ?_, ?_, hclock, ?_⟩
    · intro i j g h hi _ hg
      rw [hzero g (List.mem_of_getElem? hi)] at hg
      cases hg
    · rw [hguards]
      simp [loginGuardSlots]
    · intro g hg
      rw [hzero g hg]
      exact Nat.zero_le _
    · intro ip
      have hnone : s.auth.guards.find? (LoginGuard.isOf ip) = none := by
        apply List.find?_eq_none.mpr
        intro g hg
        rw [hzero g hg]
        simp [LoginGuard.isOf, LoginGuard.inUse, LoginGuard.zero]
      rw [hledger, debtOf, hnone]
      rfl
  · intro u req u' hc hstep hu
    simp only [throttle, Option.ite_none_right_eq_some, Option.some.injEq] at hstep
    obtain ⟨htime, rfl⟩ := hstep
    exact next_inv hc hu htime

/-- What a peer owes changes by its own requests only, unless it is evicted. -/
theorem ledger_kept {t : Throttle} {req : GuardedRequest} {ip : Ip4} (hip : ip ≠ req.peer)
    (hkept : evictedPeer t.auth.guards req.peer ≠ some ip) :
    (t.next req).ledger ip = t.ledger ip := by
  show charge _ req.peer req.later _ ip = t.ledger ip
  rw [charge, Function.update_of_ne hip]
  split
  · rw [forget, if_neg hkept]
  · rfl

/-- **Login throttling.** In every run in which no peer's request meets a free slot before the
    peer's own guard (and no blocked peer's password change lacks a session), every request of
    a blocked peer is answered 429, and the table holds against every peer what the ledger
    does. -/
theorem blocked_peer_rejected {s t u : Throttle} {reqs : List GuardedRequest}
    {req : GuardedRequest} (hfresh : s.Fresh)
    (hmeets : throttle.Meets Throttle.Unhindered s (reqs ++ [req]))
    (hrun : throttle.run s reqs = some t) (hstep : throttle.step t req = some u) :
    (req.now < (t.ledger req.peer).blockedUntilUs →
        (req.handle t.auth).response.status = some 429) ∧
      ∀ ip, debtOf u.auth.guards ip = u.ledger ip := by
  -- The invariant holds before the request and after it.
  have hinv := throttle_inv hfresh hmeets.append_left hrun
  have hc : t.Unhindered req := (hmeets.append_right hrun).1
  have hrun' : throttle.run s (reqs ++ [req]) = some u :=
    Machine.run_append.mpr ⟨t, hrun, Machine.run_cons.mpr ⟨u, hstep, rfl⟩⟩
  refine ⟨?_, (throttle_inv hfresh hmeets hrun').agrees⟩
  intro hblocked
  unfold Throttle.Unhindered at hc
  -- A request that does not reach the guards is not blocked, by `Unhindered`.
  by_cases hreach : req.reachesGuard t.auth = true
  · rw [if_pos hreach] at hc
    -- At the guards, the table's debt is the ledger's, and it is what rejects.
    obtain ⟨_, -, -, -, -, hreject, -⟩ :=
      loginGuardReject_spec req.now hinv.unique hc hinv.wellTimed
    rw [hinv.agrees] at hreject
    exact (handle_spec hreach).1.mp (hreject.mpr hblocked)
  · rw [if_neg hreach] at hc
    omega

instance (t : Throttle) (req : GuardedRequest) : Decidable (t.Unhindered req) :=
  inferInstanceAs (Decidable (if req.reachesGuard t.auth then
    OwnGuardFirst t.auth.guards req.peer else (t.ledger req.peer).blockedUntilUs ≤ req.now))

/-- A router that has just started. -/
def startedRouter : Throttle :=
  { auth := AuthState.started
    clock := 1
    ledger := fun _ => Debt.none }

/-- A challenge request that gets the zero nonce. -/
def challengeOf (peer : Ip4) (now : Nat) : GuardedRequest :=
  .challenge ⟨peer, now, now, (true, true), List.replicate loginChallengeNonceLen 0,
    ⟨true, true, fun _ => false, fun _ _ _ => true, fun _ => false⟩⟩

/-- A proof login for a nonce of `digits` zeros, with a proof that verifies. -/
def proofLogin (peer : Ip4) (now digits : Nat) : GuardedRequest :=
  .login ⟨peer, 128, .complete ⟨none, some (List.replicate digits '0'),
    some (List.replicate 64 '0')⟩, now, now, now, [],
    ⟨true, true, fun _ => false, fun _ _ _ => true, fun _ => false⟩⟩

theorem startedRouter_fresh : startedRouter.Fresh := ⟨rfl, by decide, fun _ => rfl⟩

/-- After three logins with a malformed nonce a peer is answered 429. -/
theorem third_failure_blocks :
    ∃ t, throttle.run startedRouter [proofLogin 1#32 2 0, proofLogin 1#32 3 0,
        proofLogin 1#32 4 0] = some t ∧
      ((proofLogin 1#32 5 32).handle t.auth).response.status = some 429 := by
  have hrun : throttle.run startedRouter [proofLogin 1#32 2 0, proofLogin 1#32 3 0,
      proofLogin 1#32 4 0] = some (((startedRouter.next (proofLogin 1#32 2 0)).next
        (proofLogin 1#32 3 0)).next (proofLogin 1#32 4 0)) := rfl
  refine ⟨_, hrun, ?_⟩
  apply (blocked_peer_rejected startedRouter_fresh ?_ hrun rfl).1
  · decide +kernel
  · decide +kernel

/-- The first peer's success frees slot 0; the second peer, blocked in slot 1, gets that slot,
    and a 401 in place of the 429. -/
theorem freed_slot_unblocks :
    ∃ t, throttle.run startedRouter [challengeOf 1#32 2, proofLogin 2#32 3 0, proofLogin 2#32 4 0,
        proofLogin 2#32 5 0, proofLogin 1#32 6 32] = some t ∧
      7 < (t.ledger 2#32).blockedUntilUs ∧
      ((proofLogin 2#32 7 0).handle t.auth).response.status = some 401 := by
  refine ⟨_, rfl, ?_, ?_⟩
  · decide +kernel
  · decide +kernel

end SubnetRouter.Web
