import SubnetRouter.Lib.Run

namespace SubnetRouter.Lib.LatestWins

/-!
# The latest request wins

A task asks for a target: it writes the target down, takes the next number, and starts a worker
with that number.  A worker reads the target, sleeps, and applies what it read to a device if its
number is still the last one and the target still the same.  Nothing is locked.  Every read and
write is a step of its own, so that requests may write each other's targets and take the same
number.

* `machine` — the steps of any number of requests and workers, in any order.
* `Sound` — what the steps need: workers get started, the device obeys, and two workers do not
  apply at once.
* `Settles` — the invariant: what the device is not yet, somebody is still going to make it.
* `agrees_of_quiet` — once nobody is under way, the device is as the target asks.
-/

variable {τ δ γ ε : Type}

/-- How far a request is: the target is written, the number is read, the next one is stored, the
    worker is started. -/
inductive Request (γ : Type)
  | wrote
  | read (number : γ)
  | stored (number : γ)
  | done
  deriving DecidableEq

/-- How far a worker is: started, asleep with the target that it read, found to be of the last
    request, applying its target to the device as it found it, gone. -/
inductive Phase (τ δ : Type)
  | started
  | asleep (target : τ)
  | last (target : τ)
  | applying (target : τ) (found : δ)
  | gone
  deriving DecidableEq

/-- A worker has the number of its request. -/
structure Worker (τ δ γ : Type) where
  number : γ
  phase : Phase τ δ
  deriving DecidableEq

/-- The shared variables, the device, and all requests and workers that there ever were. Those that
    are done keep their index, so that a step names the same one throughout a run. -/
structure State (τ δ γ : Type) where
  target : τ
  number : γ
  device : δ
  requests : List (Request γ)
  workers : List (Worker τ δ γ)
  deriving DecidableEq

/-- A step of the request or the worker at an index; `env` is what an application meets. Any order
    of them is a run, as long as each one takes its steps in turn. -/
inductive Act (τ ε : Type)
  | write (target : τ)
  | read (i : Nat)
  | store (i : Nat)
  | start (i : Nat) (started : Bool)
  | look (i : Nat)
  | compareNumber (i : Nat)
  | compareTarget (i : Nat)
  | apply (i : Nat) (env : ε)

/-- The number after a number, and what an application makes of the device: from what it meets,
    its target, the device as it was found and the device as it is. -/
structure Protocol (τ δ γ ε : Type) where
  next : γ → γ
  apply : ε → τ → δ → δ → δ

/-- The request at `i` goes on to `r`. -/
def State.request (s : State τ δ γ) (i : Nat) (r : Request γ) : State τ δ γ :=
  { s with requests := s.requests.set i r }

/-- The worker at `i` goes on to `p`. -/
def State.worker (s : State τ δ γ) (i : Nat) (n : γ) (p : Phase τ δ) : State τ δ γ :=
  { s with workers := s.workers.set i ⟨n, p⟩ }

variable [DecidableEq τ] [DecidableEq γ]

/-- One step. It is `none` where the request or the worker is not at that place. -/
def step (P : Protocol τ δ γ ε) (s : State τ δ γ) : Act τ ε → Option (State τ δ γ)
  | .write t => some { s with target := t, requests := s.requests ++ [.wrote] }
  | .read i =>
    match s.requests[i]? with
    | some .wrote => some (s.request i (.read s.number))
    | _ => none
  | .store i =>
    match s.requests[i]? with
    | some (.read n) => some { s.request i (.stored (P.next n)) with number := P.next n }
    | _ => none
  | .start i started =>
    match s.requests[i]? with
    | some (.stored n) =>
      -- a request whose worker cannot be started is lost
      some { s.request i .done with
        workers := if started then s.workers ++ [⟨n, .started⟩] else s.workers }
    | _ => none
  | .look i =>
    match s.workers[i]? with
    | some ⟨n, .started⟩ => some (s.worker i n (.asleep s.target))
    | _ => none
  | .compareNumber i =>
    match s.workers[i]? with
    | some ⟨n, .asleep t⟩ => some (s.worker i n (if n = s.number then .last t else .gone))
    | _ => none
  | .compareTarget i =>
    match s.workers[i]? with
    | some ⟨n, .last t⟩ =>
      some (s.worker i n (if t = s.target then .applying t s.device else .gone))
    | _ => none
  | .apply i env =>
    match s.workers[i]? with
    | some ⟨n, .applying t found⟩ =>
      some { s.worker i n .gone with device := P.apply env t found s.device }
    | _ => none

/-- Requests and workers in any order. -/
def machine (P : Protocol τ δ γ ε) : Machine (State τ δ γ) (Act τ ε) :=
  ⟨step P⟩

/-- The worker is applying its target. -/
def Worker.Applies (w : Worker τ δ γ) : Prop :=
  match w.phase with
  | .applying _ _ => True
  | _ => False

instance (w : Worker τ δ γ) : Decidable w.Applies := by
  unfold Worker.Applies
  split <;> infer_instance

/-- Every worker gets started, what an application meets is as it should be, and a worker goes on
    to its application only when no other one is at it. -/
def Sound (Ok : ε → Prop) (s : State τ δ γ) : Act τ ε → Prop
  | .start _ started => started = true
  | .compareTarget _ => ∀ w ∈ s.workers, ¬ w.Applies
  | .apply _ env => Ok env
  | _ => True

instance {Ok : ε → Prop} [DecidablePred Ok] (s : State τ δ γ) (a : Act τ ε) :
    Decidable (Sound Ok s a) := by
  cases a <;> unfold Sound <;> infer_instance

/-- Nobody is under way. -/
def State.Quiet (s : State τ δ γ) : Prop :=
  (∀ r ∈ s.requests, r = .done) ∧ ∀ w ∈ s.workers, w.phase = .gone

instance [DecidableEq δ] (s : State τ δ γ) : Decidable s.Quiet :=
  inferInstanceAs (Decidable (_ ∧ _))

/-! ### Who is still going to make the target true -/

/-- The request will start a worker that has the last number. -/
def Request.Leads (number : γ) : Request γ → Prop
  | .wrote | .read _ => True
  | .stored n => n = number
  | .done => False

/-- A worker in this phase will apply the target as it is now. Before it has looked, it does so
    because the number is its own; once it has compared both, the target it holds is what counts. -/
def Worker.Covers (number : γ) (target : τ) (w : Worker τ δ γ) : Prop :=
  match w.phase with
  | .started => w.number = number
  | .asleep t => w.number = number ∧ t = target
  | .last t | .applying t _ => t = target
  | .gone => False

/-- Some request or some worker sees to the target. -/
def State.Owed (s : State τ δ γ) : Prop :=
  (∃ (i : Nat) (r : Request γ), s.requests[i]? = some r ∧ r.Leads s.number) ∨
    ∃ (i : Nat) (w : Worker τ δ γ), s.workers[i]? = some w ∧ w.Covers s.number s.target

/-- The worker at `i` applies `t` to the device, which it found as `d`. -/
def State.AppliesAt (s : State τ δ γ) (i : Nat) (t : τ) (d : δ) : Prop :=
  ∃ n, s.workers[i]? = some ⟨n, .applying t d⟩

/-- What the device is not yet is owed; at most one worker is applying, to the device as it is;
    and if that worker's target is an old one, then the new one is owed. -/
structure Settles (Agrees : δ → τ → Prop) (s : State τ δ γ) : Prop where
  owed : s.Owed ∨ Agrees s.device s.target
  found : ∀ i t d, s.AppliesAt i t d → d = s.device
  one : ∀ i j t u d e, s.AppliesAt i t d → s.AppliesAt j u e → i = j
  old : ∀ i t d, s.AppliesAt i t d → t = s.target ∨ s.Owed

variable {P : Protocol τ δ γ ε} {Agrees : δ → τ → Prop} {Ok : ε → Prop} {s s' : State τ δ γ}
  {i j : Nat} {n : γ} {p q : Phase τ δ} {r r' : Request γ} {t : τ} {d : δ} {a : Act τ ε}

section Frame

omit [DecidableEq τ] [DecidableEq γ]

/-- When nobody is under way, nothing is owed. -/
theorem not_owed_of_quiet (h : s.Quiet) : ¬ s.Owed := by
  rintro (⟨i, r, hr, hleads⟩ | ⟨i, w, hw, hcovers⟩)
  · rw [h.1 r (List.mem_of_getElem? hr)] at hleads
    exact hleads
  · unfold Worker.Covers at hcovers
    rw [h.2 w (List.mem_of_getElem? hw)] at hcovers
    exact hcovers

/-- Once nobody is under way, the device is as the target asks. -/
theorem agrees_of_quiet (h : Settles Agrees s) (hquiet : s.Quiet) : Agrees s.device s.target :=
  h.owed.resolve_left (not_owed_of_quiet hquiet)

/-! ### Requests -/

/-- A request goes on; everybody else stays. -/
theorem getElem?_request (hi : s.requests[i]? = some r) :
    (s.request i r').requests[j]? = if i = j then some r' else s.requests[j]? := by
  show (s.requests.set i r')[j]? = _
  have hlt : i < s.requests.length := (List.getElem?_eq_some_iff.mp hi).1
  rw [List.getElem?_set]
  simp only [hlt, if_true]

/-- What is owed stays owed when a request goes on that keeps its lead. -/
theorem owed_request (h : s.Owed) (hi : s.requests[i]? = some r)
    (hleads : r.Leads s.number → r'.Leads s.number) : (s.request i r').Owed := by
  obtain ⟨j, u, hu, hlead⟩ | hworker := h
  · refine .inl ⟨j, ?_⟩
    rw [getElem?_request hi]
    by_cases hij : i = j
    · subst hij
      rw [hi, Option.some.injEq] at hu
      exact ⟨r', if_pos rfl, hleads (hu ▸ hlead)⟩
    · exact ⟨u, (if_neg hij).trans hu, hlead⟩
  · exact .inr hworker

/-- A new target is owed by its request. -/
theorem owed_write : State.Owed { s with target := t, requests := s.requests ++ [.wrote] } :=
  .inl ⟨s.requests.length, .wrote, by simp, trivial⟩

/-- Steps that leave the workers, the device and the target alone need only keep what is owed. -/
theorem Settles.of_owed (h : Settles Agrees s) (hworkers : s'.workers = s.workers)
    (hdevice : s'.device = s.device) (htarget : s'.target = s.target) (howed : s.Owed → s'.Owed) :
    Settles Agrees s' := by
  have happ : ∀ i t d, s'.AppliesAt i t d → s.AppliesAt i t d := by
    rintro i t d ⟨n, hn⟩
    exact ⟨n, hworkers ▸ hn⟩
  refine ⟨?_, fun i t d ha => ?_, fun i j t u d e ha hb => ?_, fun i t d ha => ?_⟩
  · rw [hdevice, htarget]
    exact h.owed.imp_left howed
  · rw [hdevice]
    exact h.found i t d (happ i t d ha)
  · exact h.one i j t u d e (happ i t d ha) (happ j u e hb)
  · rw [htarget]
    exact (h.old i t d (happ i t d ha)).imp_right howed

/-! ### Workers -/

/-- A worker goes on; everybody else stays. -/
theorem getElem?_worker (hi : s.workers[i]? = some ⟨n, p⟩) :
    (s.worker i n q).workers[j]? = if i = j then some ⟨n, q⟩ else s.workers[j]? := by
  show (s.workers.set i ⟨n, q⟩)[j]? = _
  have hlt : i < s.workers.length := (List.getElem?_eq_some_iff.mp hi).1
  rw [List.getElem?_set]
  simp only [hlt, if_true]

/-- What is owed stays owed when a worker goes on that still covers it. -/
theorem owed_worker (h : s.Owed) (hi : s.workers[i]? = some ⟨n, p⟩)
    (hcovers : Worker.Covers s.number s.target ⟨n, p⟩ →
      Worker.Covers s.number s.target (⟨n, q⟩ : Worker τ δ γ)) : (s.worker i n q).Owed := by
  obtain hrequest | ⟨j, w, hw, hcover⟩ := h
  · exact .inl hrequest
  · refine .inr ⟨j, ?_⟩
    rw [getElem?_worker hi]
    by_cases hij : i = j
    · subst hij
      rw [hi, Option.some.injEq] at hw
      exact ⟨⟨n, q⟩, if_pos rfl, hcovers (hw ▸ hcover)⟩
    · exact ⟨w, (if_neg hij).trans hw, hcover⟩

/-- Somebody else who applies was applying before. -/
theorem appliesAt_worker (hi : s.workers[i]? = some ⟨n, p⟩)
    (h : (s.worker i n q).AppliesAt j t d) : (i = j ∧ q = .applying t d) ∨ s.AppliesAt j t d := by
  obtain ⟨m, hm⟩ := h
  rw [getElem?_worker hi] at hm
  by_cases hij : i = j
  · rw [if_pos hij, Option.some.injEq, Worker.mk.injEq] at hm
    exact .inl ⟨hij, hm.2⟩
  · rw [if_neg hij] at hm
    exact .inr ⟨m, hm⟩

/-- A worker goes on, not yet to its application. -/
theorem Settles.worker (h : Settles Agrees s) (hi : s.workers[i]? = some ⟨n, p⟩)
    (hcovers : Worker.Covers s.number s.target ⟨n, p⟩ →
      Worker.Covers s.number s.target (⟨n, q⟩ : Worker τ δ γ))
    (hq : ∀ t d, q ≠ .applying t d) : Settles Agrees (s.worker i n q) := by
  have happ : ∀ {j t d}, (s.worker i n q).AppliesAt j t d → s.AppliesAt j t d := fun ha =>
    (appliesAt_worker hi ha).resolve_left fun h => hq _ _ h.2
  refine ⟨h.owed.imp_left fun ho => owed_worker ho hi hcovers, fun j t d ha => ?_,
    fun j k t u d e ha hb => ?_, fun j t d ha => ?_⟩
  · exact h.found j t d (happ ha)
  · exact h.one j k t u d e (happ ha) (happ hb)
  · exact (h.old j t d (happ ha)).imp_right fun ho => owed_worker ho hi hcovers

/-- A worker goes on to its application while nobody is at it. -/
theorem Settles.compareTarget (h : Settles Agrees s) (hi : s.workers[i]? = some ⟨n, .last t⟩)
    (ht : t = s.target) (hnone : ∀ w ∈ s.workers, ¬ w.Applies) :
    Settles Agrees (s.worker i n (.applying t s.device)) := by
  have hfree : ∀ j u e, ¬ s.AppliesAt j u e := by
    rintro j u e ⟨m, hm⟩
    exact hnone _ (List.mem_of_getElem? hm) trivial
  have honly : ∀ {j u e}, (s.worker i n (.applying t s.device)).AppliesAt j u e →
      i = j ∧ Phase.applying t s.device = .applying u e := fun ha =>
    (appliesAt_worker hi ha).resolve_right (hfree _ _ _)
  refine ⟨h.owed.imp_left fun ho => owed_worker ho hi fun _ => ht, fun j u e ha => ?_,
    fun j k u v e f ha hb => ?_, fun j u e ha => ?_⟩
  · obtain ⟨-, hphase⟩ := honly ha
    cases hphase
    rfl
  · exact (honly ha).1.symm.trans (honly hb).1
  · obtain ⟨-, hphase⟩ := honly ha
    cases hphase
    exact .inl ht

/-- An application ends: the device is as its target asks, and nobody is applying any more. -/
theorem Settles.apply (h : Settles Agrees s) (hi : s.workers[i]? = some ⟨n, .applying t d⟩)
    {device : δ} (hdevice : d = s.device → Agrees device t) :
    Settles Agrees { s.worker i n .gone with device := device } := by
  have happ : s.AppliesAt i t d := ⟨n, hi⟩
  have hnone : ∀ j u e, ¬ State.AppliesAt { s.worker i n .gone with device := device } j u e := by
    intro j u e ha
    obtain ⟨-, hphase⟩ | hold := appliesAt_worker hi ha
    · cases hphase
    · -- it would be the worker that has just gone
      obtain rfl := h.one i j t u d e happ hold
      obtain ⟨m, hm⟩ := ha
      rw [show State.workers { s.worker i n .gone with device := device }
        = (s.worker i n .gone).workers from rfl, getElem?_worker hi, if_pos rfl] at hm
      cases hm
  refine ⟨?_, fun j u e ha => absurd ha (hnone j u e), fun j k u v e f ha _ =>
    absurd ha (hnone j u e), fun j u e ha => absurd ha (hnone j u e)⟩
  by_cases ht : t = s.target
  · exact .inr (ht ▸ hdevice (h.found i t d happ))
  · -- an old target covers nothing, so the new one is owed by somebody else
    have howed : s.Owed := (h.old i t d happ).resolve_left ht
    exact .inl (owed_worker howed hi fun hcover => absurd hcover ht)

/-- A request ends: its worker has the number that it stored. If that is the latest, the worker
    takes over what the request stood for. -/
theorem Settles.start (h : Settles Agrees s) (hi : s.requests[i]? = some (.stored n)) :
    Settles Agrees
      { s.request i .done with workers := s.workers ++ [⟨n, .started⟩] } := by
  have hget : ∀ j : Nat, (s.workers ++ [⟨n, .started⟩])[j]?
      = if j = s.workers.length then some ⟨n, .started⟩ else s.workers[j]? := by
    intro j
    by_cases hj : j < s.workers.length
    · rw [List.getElem?_append_left hj, if_neg (by omega)]
    · by_cases hjl : j = s.workers.length
      · rw [if_pos hjl, hjl, List.getElem?_concat_length]
      · rw [if_neg hjl, List.getElem?_eq_none (by simp; omega), List.getElem?_eq_none (by omega)]
  have happ : ∀ {j t d}, State.AppliesAt
      { s.request i .done with workers := s.workers ++ [⟨n, .started⟩] } j t d →
        s.AppliesAt j t d := by
    rintro j t d ⟨m, hm⟩
    rw [hget] at hm
    by_cases hj : j = s.workers.length
    · rw [if_pos hj] at hm
      cases hm
    · exact ⟨m, (if_neg hj).symm.trans hm⟩
  have howed : s.Owed →
      State.Owed { s.request i .done with workers := s.workers ++ [⟨n, .started⟩] } := by
    rintro (⟨j, r, hr, hlead⟩ | ⟨j, w, hw, hcover⟩)
    · by_cases hij : i = j
      · -- the request that leads is the one whose worker starts
        subst hij
        rw [hi, Option.some.injEq] at hr
        subst hr
        exact .inr ⟨s.workers.length, ⟨n, .started⟩, (hget _).trans (if_pos rfl), hlead⟩
      · exact .inl ⟨j, r, (getElem?_request hi).trans ((if_neg hij).trans hr), hlead⟩
    · have hj : j ≠ s.workers.length := by
        have := (List.getElem?_eq_some_iff.mp hw).1
        omega
      exact .inr ⟨j, w, (hget j).trans ((if_neg hj).trans hw), hcover⟩
  exact ⟨h.owed.imp_left howed, fun j t d ha => h.found j t d (happ ha),
    fun j k t u d e ha hb => h.one j k t u d e (happ ha) (happ hb),
    fun j t d ha => (h.old j t d (happ ha)).imp_right howed⟩

/-- A device that agrees with its target, with nobody under way, is settled. -/
theorem settles_of_quiet (hquiet : s.Quiet) (h : Agrees s.device s.target) : Settles Agrees s := by
  have hnone : ∀ i t d, ¬ s.AppliesAt i t d := by
    rintro i t d ⟨n, hn⟩
    cases hquiet.2 _ (List.mem_of_getElem? hn)
  exact ⟨.inr h, fun i t d ha => absurd ha (hnone i t d), fun i j t u d e ha _ =>
    absurd ha (hnone i t d), fun i t d ha => absurd ha (hnone i t d)⟩

end Frame

/-! ### Steps -/

/-- **One step.** Every sound step keeps what settles the device. Somebody always stands for the
    target: a request, a worker, or the device itself. -/
theorem settles_step (hobeys : ∀ env t d, Ok env → Agrees (P.apply env t d d) t)
    (hsound : Sound Ok s a) (hs : step P s a = some s') (h : Settles Agrees s) :
    Settles Agrees s' := by
  cases a with
  | write t =>
    obtain rfl := Option.some.inj hs
    exact ⟨.inl owed_write, h.found, h.one, fun _ _ _ _ => .inr owed_write⟩
  | read i =>
    simp only [step] at hs
    split at hs
    · next hi =>
      obtain rfl := Option.some.inj hs
      exact h.of_owed rfl rfl rfl fun ho => owed_request ho hi fun _ => trivial
    · cases hs
  | store i =>
    simp only [step] at hs
    split at hs
    · next n hi =>
      -- the request that stores a number leads from then on
      obtain rfl := Option.some.inj hs
      refine h.of_owed rfl rfl rfl fun _ => .inl ⟨i, .stored (P.next n), ?_, rfl⟩
      exact (getElem?_request hi).trans (if_pos rfl)
    · cases hs
  | start i started =>
    obtain rfl : started = true := hsound
    simp only [step] at hs
    split at hs
    · next n hi =>
      obtain rfl := Option.some.inj hs
      exact h.start hi
    · cases hs
  | look i =>
    simp only [step] at hs
    split at hs
    · next n hi =>
      obtain rfl := Option.some.inj hs
      exact h.worker hi (fun hcover => ⟨hcover, rfl⟩) (by simp)
    · cases hs
  | compareNumber i =>
    simp only [step] at hs
    split at hs
    · next n t hi =>
      obtain rfl := Option.some.inj hs
      refine h.worker hi (fun hcover => ?_) fun u d => ?_
      · rw [if_pos hcover.1]
        exact hcover.2
      · split <;> simp
    · cases hs
  | compareTarget i =>
    simp only [step] at hs
    split at hs
    · next n t hi =>
      obtain rfl := Option.some.inj hs
      by_cases ht : t = s.target
      · rw [if_pos ht]
        exact h.compareTarget hi ht hsound
      · rw [if_neg ht]
        exact h.worker hi (fun hcover => absurd hcover ht) (by simp)
    · cases hs
  | apply i env =>
    simp only [step] at hs
    split at hs
    · next n t d hi =>
      obtain rfl := Option.some.inj hs
      exact h.apply hi fun hd => hd ▸ hobeys env t d hsound
    · cases hs

/-- Only a request writes the target. -/
theorem step_target (hs : step P s a = some s') (ha : ∀ t, a ≠ .write t) :
    s'.target = s.target := by
  cases a with
  | write t => exact absurd rfl (ha t)
  | read | store | start | look | compareNumber | compareTarget | apply =>
    simp only [step] at hs
    split at hs
    · obtain rfl := Option.some.inj hs
      rfl
    · cases hs

end SubnetRouter.Lib.LatestWins
