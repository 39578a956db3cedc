import Mathlib.Data.List.Nodup
import SubnetRouter.Web.Revocation

namespace SubnetRouter.Web

open Lib

/-!
# Login challenges over runs (`main/web_ui.c`)

Beside the eight slots, two records: the challenges that were issued and those that a login
consumed.  Every live slot is one issued challenge that was not consumed, so a nonce is
consumed at most once, by the peer it was issued to and before it expires
(`challenge_single_use`).

* `AuthEvent.grants`, `AuthEvent.consumes` — what an event does to the challenges.
* `challenges_outcome` — every event issues one challenge, consumes one or touches none.
-/

/-- A challenge at the moment it is issued or consumed. It is kept for the record only. -/
structure Grant where
  nonce : List UInt8
  peer : Ip4
  time : Nat
deriving DecidableEq, Repr

/-! ### What requests do to challenges -/

/-- The challenge that `auth_challenge_handler` issues. There is none for a peer that is blocked, or
    while no proof could be checked. -/
def ChallengeRequest.grant (st : AuthState) (req : ChallengeRequest) : Option Grant :=
  if (loginGuardReject st.guards req.peer req.now).2.2.isNone && req.memory.1 &&
      req.answers.hasProofParams then
    some ⟨req.nonce, req.peer, req.issuedAt⟩
  else none

/-- The nonce and the proof of a login body with both, if they are well-formed. Both are of a fixed
    length. -/
def LoginBody.nonceAndProof (body : LoginBody) : Option (List UInt8 × List UInt8) :=
  match body.nonce, body.proof with
  | some nonceText, some proofText =>
    match hexDecodeExact nonceText loginChallengeNonceLen,
        hexDecodeExact proofText webPasswordProofLen with
    | some nonce, some proof => some (nonce, proof)
    | _, _ => none
  | _, _ => none

/-- The body of a login that its guard lets through. -/
def LoginRequest.judged (st : AuthState) (req : LoginRequest) : Option LoginBody :=
  if (loginGuardReject st.guards req.peer req.now).2.2.isSome then none
  else (recvBody 256 req.contentLen req.body).toOption

/-- The challenge that `login_challenge_consume` accepts in `auth_login_handler`. Whether the proof
    is right does not matter for it. -/
def LoginRequest.consumed (st : AuthState) (req : LoginRequest) : Option Grant :=
  match (req.judged st).bind LoginBody.nonceAndProof with
  | some (nonce, _) =>
    if (loginChallengeConsume st.challenges req.peer nonce req.checkedAt).isSome then
      some ⟨nonce, req.peer, req.checkedAt⟩
    else none
  | none => none

variable {st : AuthState} {challenges : List LoginChallenge}

private theorem challenges_challenge (st : AuthState) (req : ChallengeRequest) :
    (authChallengeHandler st req).state.challenges =
      match req.grant st with
      | some g => loginChallengeIssue st.challenges g.peer g.nonce g.time
      | none => st.challenges := by
  unfold authChallengeHandler ChallengeRequest.grant
  rcases loginGuardReject st.guards req.peer req.now with ⟨guards, slot, _ | retryS⟩
  · rcases req.memory with ⟨_ | _, second⟩
    · rfl
    · rcases req.answers.hasProofParams with _ | _ <;> rfl
  · rfl

/-- A body without both a nonce and a proof uses up no challenge. -/
private theorem judgeLogin_password (challenges : List LoginChallenge) (req : LoginRequest)
    {body : LoginBody}
    (h : body.nonce = none ∨ body.proof = none) :
    (judgeLogin challenges req body).1 = challenges ∧ body.nonceAndProof = none := by
  rcases body with ⟨_ | password, _ | nonceText, _ | proofText⟩
  all_goals first
    | exact ⟨rfl, rfl⟩
    | exact ⟨by simp only [judgeLogin]; split <;> rfl, rfl⟩
    | simp at h

/-- **What a login body uses up.** The challenge that its nonce names, if it is well-formed;
    and with both strings it succeeds only through such a challenge. -/
theorem judgeLogin_spec (req : LoginRequest) (body : LoginBody) :
    (judgeLogin challenges req body).1 =
        (match body.nonceAndProof with
        | some (nonce, _) =>
          (loginChallengeConsume challenges req.peer nonce req.checkedAt).getD challenges
        | none => challenges) ∧
      (body.nonce.isSome = true → body.proof.isSome = true →
        (judgeLogin challenges req body).2 = .right →
        ∃ nonce proof, body.nonceAndProof = some (nonce, proof) ∧
          (loginChallengeConsume challenges req.peer nonce req.checkedAt).isSome = true) := by
  -- Without both strings the password is judged, and no challenge is used up.
  rcases hn : body.nonce with _ | nonceText
  · obtain ⟨hsame, hnone⟩ := judgeLogin_password challenges req (.inl hn)
    rw [hnone]
    exact ⟨hsame, by simp⟩
  rcases hp : body.proof with _ | proofText
  · obtain ⟨hsame, hnone⟩ := judgeLogin_password challenges req (.inr hp)
    rw [hnone]
    exact ⟨hsame, by simp⟩
  simp only [judgeLogin, LoginBody.nonceAndProof, hn, hp]
  -- A nonce or a proof that is not well-formed is refused before the challenge is looked up.
  rcases hexDecodeExact nonceText loginChallengeNonceLen with _ | nonce
  · exact ⟨rfl, by simp⟩
  rcases hexDecodeExact proofText webPasswordProofLen with _ | proof
  · exact ⟨rfl, by simp⟩
  -- The challenge is consumed whatever the proof turns out to be.
  rcases hconsume : loginChallengeConsume challenges req.peer nonce req.checkedAt with _ | left
  · simp [hconsume]
  · exact ⟨by simp [hconsume], fun _ _ _ => ⟨nonce, proof, rfl, by simp [hconsume]⟩⟩

private theorem challenges_login (st : AuthState) (req : LoginRequest) :
    (authLoginHandler st req).state.challenges =
      match req.consumed st with
      | some g => (loginChallengeConsume st.challenges g.peer g.nonce g.time).getD st.challenges
      | none => st.challenges := by
  -- What is judged is consumed, so the two accounts agree where a body was judged.
  have hjudged : ∀ body, req.judged st = some body →
      (judgeLogin st.challenges req body).1 =
        match req.consumed st with
        | some g => (loginChallengeConsume st.challenges g.peer g.nonce g.time).getD st.challenges
        | none => st.challenges := by
    intro body hbody
    rw [(judgeLogin_spec req body).1, LoginRequest.consumed, hbody, Option.bind_some]
    rcases body.nonceAndProof with _ | ⟨nonce, proof⟩
    · rfl
    · rcases hconsume : loginChallengeConsume st.challenges req.peer nonce req.checkedAt with
        _ | left
      · simp [hconsume]
      · simp [hconsume]
  unfold authLoginHandler
  simp only
  -- A guard that rejects, or a body that does not come through, leaves the challenges.
  rcases hr : loginGuardReject st.guards req.peer req.now with ⟨guards, slot, _ | retryS⟩
  · rcases hrecv : recvBody 256 req.contentLen req.body with response | body
    · simp [refuse, LoginRequest.consumed, LoginRequest.judged, hr, hrecv, Except.toOption]
    · rw [← hjudged body (by simp [LoginRequest.judged, hr, hrecv, Except.toOption])]
      simp only
      rcases (judgeLogin st.challenges req body).2 <;> rfl
  · simp [refuse, LoginRequest.consumed, LoginRequest.judged, hr]

private theorem challenges_change (req : ChangeRequest) :
    (authChangePasswordHandler st req).state.challenges = st.challenges := by
  unfold authChangePasswordHandler
  simp only
  split
  · rfl
  · split
    · rfl
    · split
      · rfl
      · split
        · rfl
        · split
          · rfl
          · split <;> rfl
      · rfl

/-! ### What events do to challenges -/

namespace AuthEvent

/-- When the event reads the clock for the challenges. -/
def moment : AuthEvent → Nat
  | challenge req => req.issuedAt
  | login req => req.checkedAt
  | e => e.begins

/-- The challenge that the event issues. -/
def grants (st : AuthState) : AuthEvent → Option Grant
  | challenge req => req.grant st
  | _ => none

/-- The challenge that the event consumes. -/
def consumes (st : AuthState) : AuthEvent → Option Grant
  | login req => req.consumed st
  | _ => none

end AuthEvent

/-- A challenge is granted for the time at which it is issued. -/
theorem ChallengeRequest.grant_time {req : ChallengeRequest} {st : AuthState} {g : Grant}
    (hg : req.grant st = some g) : g.time = req.issuedAt := by
  unfold ChallengeRequest.grant at hg
  split at hg
  · rw [← Option.some.inj hg]
  · cases hg

/-- A login that consumes a challenge finds it. -/
theorem LoginRequest.consumed_spec {req : LoginRequest} {st : AuthState} {g : Grant}
    (hg : req.consumed st = some g) : g.time = req.checkedAt ∧
      (loginChallengeConsume st.challenges g.peer g.nonce g.time).isSome = true := by
  unfold LoginRequest.consumed at hg
  split at hg
  · split at hg
    · rename_i hsome
      rw [← Option.some.inj hg]
      exact ⟨rfl, hsome⟩
    · cases hg
  · cases hg

/-- **What an event does to the challenges.** It issues one, consumes one or leaves them as
    they are. -/
theorem challenges_outcome (st : AuthState) (e : AuthEvent) :
    (∃ g, e.grants st = some g ∧ e.consumes st = none ∧ g.time = e.moment ∧
        (e.outcome st).state.challenges =
          loginChallengeIssue st.challenges g.peer g.nonce g.time) ∨
      (∃ g, e.grants st = none ∧ e.consumes st = some g ∧ g.time = e.moment ∧
        some (e.outcome st).state.challenges =
          loginChallengeConsume st.challenges g.peer g.nonce g.time) ∨
      (e.grants st = none ∧ e.consumes st = none ∧
        (e.outcome st).state.challenges = st.challenges) := by
  cases e with
  | challenge req =>
    have hspec := challenges_challenge st req
    rcases hg : req.grant st with _ | g
    · rw [hg] at hspec
      exact .inr (.inr ⟨hg, rfl, hspec⟩)
    · rw [hg] at hspec
      exact .inl ⟨g, hg, rfl, req.grant_time hg, hspec⟩
  | login req =>
    have hspec := challenges_login st req
    rcases hg : req.consumed st with _ | g
    · rw [hg] at hspec
      exact .inr (.inr ⟨rfl, hg, hspec⟩)
    · rw [hg] at hspec
      obtain ⟨htime, hfound⟩ := LoginRequest.consumed_spec hg
      obtain ⟨left, hleft⟩ := Option.isSome_iff_exists.mp hfound
      refine .inr (.inl ⟨g, rfl, hg, htime, ?_⟩)
      simp only [hleft, Option.getD_some] at hspec ⊢
      exact congrArg some hspec
  -- the other handlers leave the challenges alone
  | setup req =>
    refine .inr (.inr ⟨rfl, rfl, ?_⟩)
    simp only [AuthEvent.outcome, authSetupHandler]
    repeat' split
    all_goals rfl
  | change req => exact .inr (.inr ⟨rfl, rfl, challenges_change req⟩)
  | clear cookie now answers =>
    refine .inr (.inr ⟨rfl, rfl, ?_⟩)
    simp only [AuthEvent.outcome, authClearPasswordHandler]
    split <;> rfl
  | logout cookie now => exact .inr (.inr ⟨rfl, rfl, rfl⟩)
  | save isSet cookie now timeoutS enabled =>
    refine .inr (.inr ⟨rfl, rfl, ?_⟩)
    rcases timeoutS with _ | v
    · simp only [AuthEvent.outcome, systemSaveHandler]
      split <;> rfl
    · simp only [AuthEvent.outcome, systemSaveHandler]
      split <;> rfl
  | cli set pw now => exact .inr (.inr ⟨rfl, rfl, rfl⟩)

/-! ### Runs -/

/-- The endpoints, the time, and the challenges issued and consumed so far. The two lists are not in
    the code. -/
structure Challenges where
  auth : AuthState
  clock : Nat
  issued : List Grant
  consumed : List Grant

namespace Challenges

/-- One event on any interface. -/
def next (t : Challenges) (e : AuthEvent) : Challenges :=
  ⟨(e.outcome t.auth).state, e.moment, (e.grants t.auth).toList ++ t.issued,
    (e.consumes t.auth).toList ++ t.consumed⟩

/-- The machine of all event sequences at non-decreasing times. -/
def machine : Machine Challenges AuthEvent :=
  ⟨fun t e => if t.clock ≤ e.moment then some (t.next e) else none⟩

/-- After a start: no challenges. -/
def started (auth : AuthState) (clock : Nat) : Challenges :=
  ⟨{ auth with challenges := List.replicate loginChallengeSlots ⟨0#32, [], 0⟩ }, clock, [], []⟩

/-- The slot is a challenge that was issued and is not consumed. -/
def Outstanding (t : Challenges) (c : LoginChallenge) : Prop :=
  (∃ g ∈ t.issued, g.nonce = c.nonce ∧ g.peer = c.peerIp ∧
      c.expiresUs = g.time + loginChallengeTtlUs) ∧
    c.nonce ∉ t.consumed.map Grant.nonce

/-- The challenge was issued to the peer that consumed it, at most 30 seconds before. -/
def Answers (t : Challenges) (u : Grant) : Prop :=
  ∃ g ∈ t.issued, g.nonce = u.nonce ∧ g.peer = u.peer ∧ g.time ≤ u.time ∧
    u.time < g.time + loginChallengeTtlUs

/-- The slots in use are outstanding challenges with different nonces, and no nonce was
    consumed twice. -/
structure Inv (t : Challenges) : Prop where
  past : ∀ g ∈ t.issued, g.time ≤ t.clock
  slots : ∀ (i : Nat) (c : LoginChallenge), t.auth.challenges[i]? = some c → 0 < c.expiresUs →
    t.Outstanding c
  distinct : ∀ (i j : Nat) (c d : LoginChallenge), t.auth.challenges[i]? = some c →
    t.auth.challenges[j]? = some d → 0 < c.expiresUs → 0 < d.expiresUs → c.nonce = d.nonce → i = j
  answered : ∀ u ∈ t.consumed, t.Answers u
  once : (t.consumed.map Grant.nonce).Nodup

variable {t t' : Challenges} {e : AuthEvent} {g : Grant}

theorem inv_started (auth : AuthState) (clock : Nat) : (started auth clock).Inv := by
  have hfree : ∀ (i : Nat) (c : LoginChallenge),
      (started auth clock).auth.challenges[i]? = some c → ¬ 0 < c.expiresUs := by
    intro i c hc
    rw [List.eq_of_mem_replicate (List.mem_of_getElem? hc)]
    exact Nat.lt_irrefl 0
  exact {
    past := by simp [started]
    slots := fun i c hc hpos => absurd hpos (hfree i c hc)
    distinct := fun i j c d hc _ hpos => absurd hpos (hfree i c hc)
    answered := by simp [started]
    once := List.nodup_nil }

/-- A consumed nonce was issued. -/
theorem Inv.issued_of_consumed (h : t.Inv) {nonce : List UInt8}
    (hmem : nonce ∈ t.consumed.map Grant.nonce) : nonce ∈ t.issued.map Grant.nonce := by
  obtain ⟨u, hu, rfl⟩ := List.mem_map.mp hmem
  obtain ⟨g, hg, hnonce, -⟩ := h.answered u hu
  exact hnonce ▸ List.mem_map_of_mem hg

/-- Issuing a fresh nonce. It takes the place of an old challenge, which can then be consumed no
    more. -/
theorem Inv.issue (h : t.Inv) (hclock : t.clock ≤ g.time)
    (hfresh : g.nonce ∉ t.issued.map Grant.nonce) {auth : AuthState}
    (hauth : auth.challenges = loginChallengeIssue t.auth.challenges g.peer g.nonce g.time) :
    Inv ⟨auth, g.time, g :: t.issued, t.consumed⟩ := by
  -- the nonces in the slots were issued before
  have hother : ∀ (i : Nat) (c : LoginChallenge), t.auth.challenges[i]? = some c →
      0 < c.expiresUs → c.nonce ≠ g.nonce := by
    intro i c hc hpos heq
    obtain ⟨⟨g', hg', hnonce, -⟩, -⟩ := h.slots i c hc hpos
    exact hfresh (heq ▸ hnonce ▸ List.mem_map_of_mem hg')
  exact {
    past := by
      intro g' hg'
      rcases List.mem_cons.mp hg' with rfl | hold
      · exact Nat.le_refl _
      · exact Nat.le_trans (h.past g' hold) hclock
    slots := by
      intro i c hc hpos
      simp only [hauth] at hc
      rcases getElem?_set_cases hc with ⟨-, rfl⟩ | ⟨-, hold⟩
      · refine ⟨⟨g, List.mem_cons_self, rfl, rfl, rfl⟩, ?_⟩
        exact fun hmem => hfresh (h.issued_of_consumed hmem)
      · obtain ⟨⟨g', hg', hmatch⟩, hnot⟩ := h.slots i c hold hpos
        exact ⟨⟨g', List.mem_cons_of_mem g hg', hmatch⟩, hnot⟩
    distinct := by
      intro i j c d hc hd hposc hposd heq
      simp only [hauth] at hc hd
      rcases getElem?_set_cases hc with ⟨hi, rfl⟩ | ⟨-, hold⟩
      · rcases getElem?_set_cases hd with ⟨hj, -⟩ | ⟨-, hold'⟩
        · exact hi.symm.trans hj
        · exact absurd heq.symm (hother j d hold' hposd)
      · rcases getElem?_set_cases hd with ⟨-, rfl⟩ | ⟨-, hold'⟩
        · exact absurd heq (hother i c hold hposc)
        · exact h.distinct i j c d hold hold' hposc hposd heq
    answered := by
      intro u hu
      obtain ⟨g', hg', hmatch⟩ := h.answered u hu
      exact ⟨g', List.mem_cons_of_mem g hg', hmatch⟩
    once := h.once }

/-- Consuming a challenge. It is one that was issued to this peer, and its slot is empty
    afterwards. -/
theorem Inv.consume (h : t.Inv) (hclock : t.clock ≤ g.time) {auth : AuthState}
    (hauth : some auth.challenges =
      loginChallengeConsume t.auth.challenges g.peer g.nonce g.time) :
    Inv ⟨auth, g.time, t.issued, g :: t.consumed⟩ := by
  obtain ⟨i, hfind, hleft⟩ := Option.map_eq_some_iff.mp hauth.symm
  obtain ⟨hlt, hmatch, -⟩ := List.findIdx?_eq_some_iff_getElem.mp hfind
  have hslot := List.getElem?_eq_getElem hlt
  simp only [Bool.and_eq_true, decide_eq_true_eq, beq_iff_eq] at hmatch
  obtain ⟨⟨hexp, hpeer⟩, hnonce⟩ := hmatch
  have hpos : 0 < (t.auth.challenges[i]).expiresUs := by omega
  obtain ⟨⟨g', hg', hnonce', hpeer', htime⟩, hnot⟩ := h.slots i _ hslot hpos
  -- the slots that stay are other ones
  have hstays : ∀ (j : Nat) (c : LoginChallenge), auth.challenges[j]? = some c →
      0 < c.expiresUs → i ≠ j ∧ t.auth.challenges[j]? = some c := by
    intro j c hc hposc
    rw [← hleft] at hc
    rcases getElem?_set_cases hc with ⟨-, rfl⟩ | hold
    · exact absurd hposc (Nat.lt_irrefl 0)
    · exact hold
  exact {
    past := fun g₀ hg₀ => Nat.le_trans (h.past g₀ hg₀) hclock
    slots := by
      intro j c hc hposc
      obtain ⟨hij, hold⟩ := hstays j c hc hposc
      obtain ⟨hissued, hnotc⟩ := h.slots j c hold hposc
      refine ⟨hissued, ?_⟩
      rw [List.map_cons, List.mem_cons, not_or]
      refine ⟨?_, hnotc⟩
      intro heq
      exact hij (h.distinct i j _ c hslot hold hpos hposc (hnonce.trans heq.symm))
    distinct := by
      intro j k c d hc hd hposc hposd heq
      exact h.distinct j k c d (hstays j c hc hposc).2 (hstays k d hd hposd).2 hposc hposd heq
    answered := by
      intro u hu
      rcases List.mem_cons.mp hu with rfl | hold
      · refine ⟨g', hg', hnonce'.trans hnonce, hpeer'.trans hpeer, ?_, by omega⟩
        exact Nat.le_trans (h.past g' hg') hclock
      · exact h.answered u hold
    once := by
      rw [List.map_cons, List.nodup_cons]
      exact ⟨hnonce ▸ hnot, h.once⟩ }

/-- **Step lemma.** As long as the nonces issued are distinct, every event keeps the
    invariant. -/
theorem step_inv (hstep : machine.step t e = some t')
    (hdistinct : (t'.issued.map Grant.nonce).Nodup) (h : t.Inv) : t'.Inv := by
  simp only [machine, Option.ite_none_right_eq_some, Option.some.injEq] at hstep
  obtain ⟨hclock, rfl⟩ := hstep
  rcases challenges_outcome t.auth e with
    ⟨g, hgrant, hconsume, htime, hauth⟩ | ⟨g, hgrant, hconsume, htime, hauth⟩ |
      ⟨hgrant, hconsume, hauth⟩
  · simp only [next, hgrant, hconsume, ← htime] at hdistinct hclock ⊢
    have hfresh : g.nonce ∉ t.issued.map Grant.nonce := (List.nodup_cons.mp hdistinct).1
    exact h.issue (htime ▸ hclock) hfresh hauth
  · simp only [next, hgrant, hconsume, ← htime] at hclock ⊢
    exact h.consume (htime ▸ hclock) hauth
  · simp only [next, hgrant, hconsume]
    exact {
      past := fun g hg => Nat.le_trans (h.past g hg) hclock
      slots := fun i c hc => h.slots i c (hauth ▸ hc)
      distinct := fun i j c d hc hd => h.distinct i j c d (hauth ▸ hc) (hauth ▸ hd)
      answered := h.answered
      once := h.once }

/-- The nonces issued before a step are issued after it. -/
theorem issued_sublist (hstep : machine.step t e = some t') : t.issued.Sublist t'.issued := by
  simp only [machine, Option.ite_none_right_eq_some, Option.some.injEq] at hstep
  obtain ⟨-, rfl⟩ := hstep
  exact List.sublist_append_right _ _

/-- The invariant along a run that issues distinct nonces. -/
theorem run_inv {auth : AuthState} {clock : Nat} {events : List AuthEvent}
    (hrun : machine.run (started auth clock) events = some t)
    (hdistinct : (t.issued.map Grant.nonce).Nodup) : t.Inv := by
  have hcond : (t.issued.map Grant.nonce).Nodup → t.Inv := by
    refine machine.invariant (I := fun v => (v.issued.map Grant.nonce).Nodup → v.Inv) ?_ hrun
      fun _ => inv_started auth clock
    intro v e v' hstep hv hnodup
    exact step_inv hstep hnodup (hv (hnodup.sublist ((issued_sublist hstep).map _)))
  exact hcond hdistinct

/-- A challenge that `login_challenge_consume` accepts was not consumed before. -/
theorem Inv.not_consumed (h : t.Inv) {peer : Ip4} {nonce : List UInt8} {now : Nat}
    (hconsume : (loginChallengeConsume t.auth.challenges peer nonce now).isSome = true) :
    nonce ∉ t.consumed.map Grant.nonce := by
  rw [loginChallengeConsume, Option.isSome_map] at hconsume
  obtain ⟨i, hfind⟩ := Option.isSome_iff_exists.mp hconsume
  obtain ⟨hlt, hmatch, -⟩ := List.findIdx?_eq_some_iff_getElem.mp hfind
  simp only [Bool.and_eq_true, decide_eq_true_eq, beq_iff_eq] at hmatch
  have hslot := h.slots i _ (List.getElem?_eq_getElem hlt) (by omega)
  exact hmatch.2 ▸ hslot.2

/-- A login that succeeds was let through and judged right. -/
theorem right_of_login_ok {req : LoginRequest} {body : LoginBody}
    (hjudged : req.judged st = some body) (hok : (authLoginHandler st req).response = .ok) :
    (judgeLogin st.challenges req body).2 = .right := by
  rcases hr : loginGuardReject st.guards req.peer req.now with ⟨guards, slot, _ | retryS⟩
  · rcases hrecv : recvBody 256 req.contentLen req.body with response | body'
    · simp [LoginRequest.judged, hr, hrecv, Except.toOption] at hjudged
    · obtain rfl : body' = body := by
        simpa [LoginRequest.judged, hr, hrecv, Except.toOption] using hjudged
      simp only [authLoginHandler, hr, hrecv] at hok
      rcases hverdict : (judgeLogin st.challenges req body').2 with _ | _ | _ | _ <;>
        simp [hverdict, refuse] at hok ⊢
  · simp [LoginRequest.judged, hr] at hjudged

/-- **A challenge is used once.** In every run that issues distinct nonces, no nonce is consumed
    twice; what is consumed was issued to the same peer less than 30 seconds before, and to no
    other; and a login with a nonce and a proof succeeds only by consuming a challenge that
    was not consumed yet, so that no pair of them is accepted again. -/
theorem challenge_single_use {auth : AuthState} {clock : Nat} {events : List AuthEvent}
    (hrun : machine.run (started auth clock) events = some t)
    (hdistinct : (t.issued.map Grant.nonce).Nodup) :
    (t.consumed.map Grant.nonce).Nodup ∧
      (∀ u ∈ t.consumed, t.Answers u ∧ ∀ g ∈ t.issued, g.nonce = u.nonce → g.peer = u.peer) ∧
      ∀ req body, req.judged t.auth = some body → body.nonce.isSome = true →
        body.proof.isSome = true → (authLoginHandler t.auth req).response = .ok →
        ∃ g, req.consumed t.auth = some g ∧ g.nonce ∉ t.consumed.map Grant.nonce := by
  -- All three parts are fields of the invariant, which distinct nonces make hold in every state.
  have hinv := run_inv hrun hdistinct
  refine ⟨hinv.once, ?_, ?_⟩
  · intro u hu
    have hanswers := hinv.answered u hu
    refine ⟨hanswers, ?_⟩
    -- An issued nonce belongs to one grant, as the nonces are distinct.
    obtain ⟨g₀, hg₀, hnonce₀, hpeer₀, -⟩ := hanswers
    intro g hg hnonce
    rw [List.inj_on_of_nodup_map hdistinct hg hg₀ (hnonce.trans hnonce₀.symm)]
    exact hpeer₀
  -- A login that is answered with ok was right, so it has consumed the challenge that it named.
  · intro req body hjudged hnonce hproof hok
    obtain ⟨nonce, proof, hpair, hconsume⟩ :=
      (judgeLogin_spec req body).2 hnonce hproof (right_of_login_ok hjudged hok)
    refine ⟨⟨nonce, req.peer, req.checkedAt⟩, ?_, hinv.not_consumed hconsume⟩
    simp [LoginRequest.consumed, hjudged, hpair, hconsume]

/-- A challenge, the login that answers it, and the same login again. -/
theorem replayed_login_refused :
    ∃ t, machine.run (started AuthState.started 1) [challengeEvent 2, loginEvent 1 3] = some t ∧
      (t.consumed.map Grant.nonce).Nodup ∧ t.consumed.length = 1 ∧
      (loginEvent 2 4).consumes t.auth = none := by
  have hrun : machine.run (started AuthState.started 1) [challengeEvent 2, loginEvent 1 3] =
      some (((started AuthState.started 1).next (challengeEvent 2)).next (loginEvent 1 3)) := rfl
  have hspec := challenge_single_use hrun (by decide +kernel)
  exact ⟨_, hrun, hspec.1, by decide +kernel, by decide +kernel⟩

end Challenges

end SubnetRouter.Web
