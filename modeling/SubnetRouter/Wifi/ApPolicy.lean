import SubnetRouter.Lib.LatestWins

namespace SubnetRouter.Wifi

open Lib LatestWins

/-!
# The access-point policy (`main/main.c`)

The access point is always on, or it is on only while the uplink is down.  Three tasks ask for it
to go on or off: the Wi-Fi event handler, and the web and the MQTT task when the policy is changed.
Each request starts a worker that changes the mode of the radio after a delay.

* `apPolicyApplyRuntime` — what a worker does with the radio.
* `policyMachine` — the callers, their requests and the workers, in any order.
* `access_point_follows_target` — once all are done, the access point is as asked for last.
* `access_point_follows_policy` — and as the policy wants it, unless a caller was overtaken between
  reading a flag and writing the target.
* `lost_uplink_brings_access_point_back` — an overtaken caller is made up for by the next loss of
  the uplink.
-/

/-! ### The radio -/

/-- `wifi_mode_t` -/
inductive WifiMode
  | null
  | sta
  | ap
  | apsta
  deriving DecidableEq

/-- The mode, and the channel in the configuration of the access point. -/
structure Radio where
  mode : WifiMode
  channel : BitVec 8
  deriving DecidableEq

/-- `wifi_ap_runtime_enabled`, as far as `esp_wifi_get_mode` succeeds. -/
def Radio.apEnabled (r : Radio) : Bool :=
  r.mode = .ap || r.mode = .apsta

/-- What the calls of one application return: whether the mode is read and set, the configuration
    of the access point read and set, and the channels that the uplink and NVS give. -/
structure ApplyCalls where
  getMode : Bool
  getConfig : Bool
  staChannel : Option (BitVec 8)
  learned : Option Int
  setConfig : Bool
  setMode : Bool

/-- The channel for an access point that starts: that of the uplink, else the last one known; 0 to
    leave it. -/
def recoveryChannel (calls : ApplyCalls) : BitVec 8 :=
  match calls.staChannel, calls.learned with
  | some primary, _ => primary
  | none, some learned => if 1 ≤ learned ∧ learned ≤ 13 then BitVec.ofInt 8 learned else 0
  | none, none => 0

/-- `ap_policy_apply_runtime`, with the mode as it was read and the radio as it is. Each of its
    calls may fail, and then leaves alone what it would have set. -/
def apPolicyApplyRuntime (calls : ApplyCalls) (on : Bool) (found : Radio) (radio : Radio) : Radio :=
  if !calls.getMode then radio
  else if on then
    if found.mode = .apsta ∨ found.mode = .ap then radio
    else
      let channel := recoveryChannel calls
      let radio :=
        if calls.getConfig ∧ channel ≠ 0 ∧ calls.setConfig then { radio with channel } else radio
      if calls.setMode then { radio with mode := .apsta } else radio
  else
    if found.mode = .sta then radio
    else if calls.setMode then { radio with mode := .sta } else radio

/-- The mode can be read and set. -/
def ApplyCalls.Ok (calls : ApplyCalls) : Prop :=
  calls.getMode = true ∧ calls.setMode = true

instance : DecidablePred ApplyCalls.Ok := fun _ => inferInstanceAs (Decidable (_ ∧ _))

/-- The access point is on as asked for. -/
def Follows (radio : Radio) (on : Bool) : Prop :=
  radio.apEnabled = on

instance (radio : Radio) (on : Bool) : Decidable (Follows radio on) :=
  inferInstanceAs (Decidable (_ = _))

/-- A worker whose calls succeed does what it was asked for. -/
theorem follows_apply (calls : ApplyCalls) (on : Bool) (radio : Radio) (h : calls.Ok) :
    Follows (apPolicyApplyRuntime calls on radio radio) on := by
  unfold Follows apPolicyApplyRuntime Radio.apEnabled
  rw [h.1, h.2]
  cases on with
  | true =>
    by_cases hmode : radio.mode = .apsta ∨ radio.mode = .ap
    · simp only [Bool.not_true, Bool.false_eq_true, if_false, if_true, if_pos hmode]
      obtain hmode | hmode := hmode <;> simp [hmode]
    · simp [hmode]
  | false =>
    by_cases hmode : radio.mode = .sta <;> simp [hmode]

/-! ### Callers, requests and workers -/

/-- `ap_policy_request` counts with 32 bits. -/
def apPolicyProtocol : Protocol Bool Radio (BitVec 32) ApplyCalls :=
  ⟨(· + 1), apPolicyApplyRuntime⟩

/-- How far a caller is: `wifi_ap_policy_set_auto_off` has stored the flag; the event handler has
    noted a lost, or a gained, uplink; the request is decided; nothing more to do. -/
inductive Caller
  | policy (autoOff : Bool)
  | lost
  | gained
  | asking (on : Bool)
  | returned
  deriving DecidableEq

/-- The flags, the callers, and their requests and workers. Callers keep their index when they have
    returned. -/
structure ApPolicy where
  autoOff : Bool
  apConnect : Bool
  callers : List Caller
  core : State Bool Radio (BitVec 32)
  deriving DecidableEq

/-- A step of a task. The stores of the two flags and the decisions that follow are steps of their
    own. -/
inductive PolicyAct
  | setAutoOff (autoOff : Bool)
  | disconnected
  | gotIp
  | decide (i : Nat)
  | request (i : Nat)
  | core (a : Act Bool ApplyCalls)

/-- The caller at `i` goes on to `c`. -/
def ApPolicy.caller (s : ApPolicy) (i : Nat) (c : Caller) : ApPolicy :=
  { s with callers := s.callers.set i c }

/-- What a caller does after its own store: read the other flag and decide what to ask for. An event
    of the station asks for nothing unless the policy is on. -/
def Caller.decided (autoOff apConnect : Bool) : Caller → Option Caller
  | .policy b => some (.asking (!b || !apConnect))
  | .lost => some (if autoOff then .asking true else .returned)
  | .gained => some (if autoOff then .asking false else .returned)
  | .asking _ | .returned => none

/-- One step.  The event handler on `WIFI_EVENT_STA_DISCONNECTED` and on `IP_EVENT_STA_GOT_IP`, and
    `wifi_ap_policy_set_auto_off`, each store their flag first. -/
def policyStep (s : ApPolicy) : PolicyAct → Option ApPolicy
  | .setAutoOff b => some { s with autoOff := b, callers := s.callers ++ [.policy b] }
  | .disconnected => some { s with apConnect := false, callers := s.callers ++ [.lost] }
  | .gotIp => some { s with apConnect := true, callers := s.callers ++ [.gained] }
  | .decide i =>
    match s.callers[i]? with
    | some c => (c.decided s.autoOff s.apConnect).map (s.caller i)
    | none => none
  | .request i =>
    match s.callers[i]? with
    | some (.asking on) =>
      (LatestWins.step apPolicyProtocol s.core (.write on)).map fun core =>
        { s.caller i .returned with core }
    | _ => none
  | .core (.write _) => none
  | .core a => (LatestWins.step apPolicyProtocol s.core a).map fun core => { s with core }

def policyMachine : Machine ApPolicy PolicyAct := ⟨policyStep⟩

/-- After the boot: the access point is on, and the policy has been read from NVS. -/
def apPolicyBoot (autoOff : Bool) (channel : BitVec 8) : ApPolicy :=
  { autoOff, apConnect := false, callers := [],
    core := ⟨true, 0, ⟨.apsta, channel⟩, [], []⟩ }

/-- A request and its worker, from the count to the application. -/
def workerRun (i : Nat) (calls : ApplyCalls) : List PolicyAct :=
  [.core (.read i), .core (.store i), .core (.start i true), .core (.look i),
    .core (.compareNumber i), .core (.compareTarget i), .core (.apply i calls)]

/-- Workers get started, the mode can be read and set, and two workers do not apply at once. -/
def ApPolicy.Sound (s : ApPolicy) : PolicyAct → Prop
  | .core a => LatestWins.Sound ApplyCalls.Ok s.core a
  | _ => True

instance (s : ApPolicy) (a : PolicyAct) : Decidable (s.Sound a) := by
  cases a <;> unfold ApPolicy.Sound <;> infer_instance

/-- Nobody is under way. -/
def ApPolicy.Quiet (s : ApPolicy) : Prop :=
  (∀ c ∈ s.callers, c = .returned) ∧ s.core.Quiet

instance (s : ApPolicy) : Decidable s.Quiet := inferInstanceAs (Decidable (_ ∧ _))

/-- What the policy wants: the access point is off only when it may be and the uplink is there. -/
def ApPolicy.wanted (s : ApPolicy) : Bool :=
  !s.autoOff || !s.apConnect

variable {s s' : ApPolicy} {a : PolicyAct} {i j : Nat} {c c' : Caller} {as : List PolicyAct}

/-- The requests and workers stay as they are, or they take one of their own steps, which writes
    the target only for a caller that has decided. -/
theorem policyStep_core (hs : policyStep s a = some s') :
    s'.core = s.core ∨
      ∃ b, LatestWins.step apPolicyProtocol s.core b = some s'.core ∧
        (s.Sound a → LatestWins.Sound ApplyCalls.Ok s.core b) := by
  -- A change of the policy or of the uplink does not touch the target.
  cases a with
  | setAutoOff | disconnected | gotIp =>
    obtain rfl := Option.some.inj hs
    exact .inl rfl
  | decide i =>
    simp only [policyStep] at hs
    split at hs
    · obtain ⟨c, -, rfl⟩ := Option.map_eq_some_iff.mp hs
      exact .inl rfl
    · cases hs
  -- A request writes the target for the caller that has decided.
  | request i =>
    simp only [policyStep] at hs
    split at hs
    · next on _ =>
      obtain ⟨core, hcore, rfl⟩ := Option.map_eq_some_iff.mp hs
      exact .inr ⟨.write on, hcore, fun _ => trivial⟩
    · cases hs
  -- A worker's step is its own, and as sound as it was.
  | core b =>
    cases b with
    | write => cases hs
    | read | store | start | look | compareNumber | compareTarget | apply =>
      obtain ⟨core, hcore, rfl⟩ := Option.map_eq_some_iff.mp hs
      exact .inr ⟨_, hcore, id⟩

/-- Every step keeps what settles the radio. -/
theorem settles_policyStep (hsound : s.Sound a) (hs : policyStep s a = some s')
    (h : Settles Follows s.core) : Settles Follows s'.core := by
  obtain hcore | ⟨b, hcore, hb⟩ := policyStep_core hs
  · rw [hcore]
    exact h
  · exact settles_step follows_apply (hb hsound) hcore h

/-- The boot leaves the access point on, as asked for. -/
theorem settles_boot (autoOff : Bool) (channel : BitVec 8) :
    Settles Follows (apPolicyBoot autoOff channel).core :=
  settles_of_quiet ⟨by simp [apPolicyBoot], by simp [apPolicyBoot]⟩ rfl

/-- What settles the radio holds along every sound run. -/
theorem settles_policyRun {C : ApPolicy → PolicyAct → Prop} (hC : ∀ s a, C s a → s.Sound a)
    (hmeets : policyMachine.Meets C s as) (hrun : policyMachine.run s as = some s')
    (h : Settles Follows s.core) : Settles Follows s'.core :=
  Machine.invariant_of_meets (I := fun s => Settles Follows s.core)
    (fun _ _ _ hc hs => settles_policyStep (hC _ _ hc) hs) hmeets hrun h

/-- **The last target wins.** For every order of the callers, requests and workers, and whatever
    they ask for: when all are done, the access point is on exactly if the last target says so. -/
theorem access_point_follows_target (autoOff : Bool) (channel : BitVec 8) (as : List PolicyAct)
    (s : ApPolicy) (hsound : policyMachine.Meets ApPolicy.Sound (apPolicyBoot autoOff channel) as)
    (hrun : policyMachine.run (apPolicyBoot autoOff channel) as = some s) (hquiet : s.Quiet) :
    s.core.device.apEnabled = s.core.target :=
  agrees_of_quiet (settles_policyRun (fun _ _ => id) hsound hrun (settles_boot _ _)) hquiet.2

/-- The uplink comes up, the policy is changed, and the worker of this request runs to its end. -/
def switchedOff : List PolicyAct :=
  [.gotIp, .decide 0, .setAutoOff true, .decide 1, .request 1] ++
    workerRun 0 ⟨true, true, some 6, none, true, true⟩

/-- The access point goes off. -/
theorem access_point_switched_off :
    ∃ s, policyMachine.run (apPolicyBoot false 1) switchedOff = some s ∧
      s.core.device.apEnabled = s.core.target ∧ s.core.device.mode = .sta :=
  ⟨_, rfl, access_point_follows_target false 1 switchedOff _ (by decide) rfl (by decide), rfl⟩

/-! ### The policy -/

/-- The caller is going to make a request. -/
def Caller.Asks (autoOff : Bool) : Caller → Prop
  | .policy _ | .asking _ => True
  | .lost | .gained => autoOff = true
  | .returned => False

/-- Some caller is going to make a request. -/
def ApPolicy.Deciding (s : ApPolicy) : Prop :=
  ∃ (i : Nat) (c : Caller), s.callers[i]? = some c ∧ c.Asks s.autoOff

/-- A request asks for what the policy wants at that moment. -/
def ApPolicy.Timely (s : ApPolicy) : PolicyAct → Prop
  | .request i => ∀ on, s.callers[i]? = some (.asking on) → on = s.wanted
  | _ => True

instance (s : ApPolicy) (a : PolicyAct) : Decidable (s.Timely a) :=
  match a with
  | .request i =>
    match h : s.callers[i]? with
    | some (.asking on) =>
      decidable_of_iff (on = s.wanted) ⟨fun hw u hu => by simp_all, fun hw => hw on h⟩
    | none | some (.policy _) | some .lost | some .gained | some .returned =>
      .isTrue fun on hon => by simp_all
  | .setAutoOff _ | .disconnected | .gotIp | .decide _ | .core _ => .isTrue trivial

/-- A caller goes on; everybody else stays. -/
theorem getElem?_caller (hi : s.callers[i]? = some c) :
    (s.caller i c').callers[j]? = if i = j then some c' else s.callers[j]? := by
  show (s.callers.set i c')[j]? = _
  have hlt : i < s.callers.length := (List.getElem?_eq_some_iff.mp hi).1
  rw [List.getElem?_set]
  simp only [hlt, if_true]

/-- A new caller is there beside those of before. -/
theorem deciding_append (autoOff apConnect : Bool) (c : Caller)
    (h : c.Asks autoOff ∨ s.autoOff = autoOff ∧ s.Deciding) :
    ApPolicy.Deciding { s with autoOff, apConnect, callers := s.callers ++ [c] } := by
  obtain hnew | ⟨rfl, i, c', hc, hasks⟩ := h
  · exact ⟨s.callers.length, c, by simp, hnew⟩
  · refine ⟨i, c', ?_, hasks⟩
    show (s.callers ++ [c])[i]? = some c'
    rw [List.getElem?_append_left (List.getElem?_eq_some_iff.mp hc).1, hc]

/-- A caller that is going to make a request still is when it has decided. -/
theorem asks_decided {autoOff apConnect : Bool} (h : c.decided autoOff apConnect = some c')
    (hasks : c.Asks autoOff) : c'.Asks autoOff := by
  cases c with
  | policy b =>
    obtain rfl := Option.some.inj h
    trivial
  | lost | gained =>
    obtain rfl := Option.some.inj h
    have hauto : autoOff = true := hasks
    rw [if_pos hauto]
    trivial
  | asking | returned => cases h

/-- The target is as the policy wants it, or some caller is going to make a request. -/
def ApPolicy.Follows (s : ApPolicy) : Prop :=
  s.core.target = s.wanted ∨ s.Deciding

/-- **One step.** A step that asks for nothing but what the policy wants keeps the target with the
    policy. -/
theorem follows_policyStep (htimely : s.Timely a) (hs : policyStep s a = some s')
    (h : s.Follows) : s'.Follows := by
  cases a with
  | setAutoOff b =>
    obtain rfl := Option.some.inj hs
    exact .inr (deciding_append b s.apConnect (.policy b) (.inl trivial))
  | disconnected =>
    obtain rfl := Option.some.inj hs
    by_cases hauto : s.autoOff = true
    · exact .inr (deciding_append s.autoOff false .lost (.inl hauto))
    · -- an access point that is always on does not care about the uplink
      refine h.imp (fun ht => ht.trans ?_) fun hd =>
        deciding_append s.autoOff false .lost (.inr ⟨rfl, hd⟩)
      simp [ApPolicy.wanted, hauto]
  | gotIp =>
    obtain rfl := Option.some.inj hs
    by_cases hauto : s.autoOff = true
    · exact .inr (deciding_append s.autoOff true .gained (.inl hauto))
    · refine h.imp (fun ht => ht.trans ?_) fun hd =>
        deciding_append s.autoOff true .gained (.inr ⟨rfl, hd⟩)
      simp [ApPolicy.wanted, hauto]
  | decide i =>
    simp only [policyStep] at hs
    split at hs
    · next c hi =>
      obtain ⟨c', hc', rfl⟩ := Option.map_eq_some_iff.mp hs
      refine h.imp_right ?_
      rintro ⟨j, d, hd, hasks⟩
      refine ⟨j, ?_⟩
      rw [getElem?_caller hi]
      by_cases hij : i = j
      · subst hij
        rw [hi, Option.some.injEq] at hd
        subst hd
        exact ⟨c', if_pos rfl, asks_decided hc' hasks⟩
      · exact ⟨d, (if_neg hij).trans hd, hasks⟩
    · cases hs
  | request i =>
    simp only [policyStep] at hs
    split at hs
    · next on hi =>
      obtain ⟨core, hcore, rfl⟩ := Option.map_eq_some_iff.mp hs
      obtain rfl := Option.some.inj hcore
      exact .inl (htimely on hi)
    · cases hs
  | core b =>
    cases b with
    | write => cases hs
    | read | store | start | look | compareNumber | compareTarget | apply =>
      obtain ⟨core, hcore, rfl⟩ := Option.map_eq_some_iff.mp hs
      exact h.imp_left fun ht => (step_target hcore (by simp)).trans ht

/-- When nobody is under way, no caller is going to make a request. -/
theorem not_deciding_of_quiet (h : s.Quiet) : ¬ s.Deciding := by
  rintro ⟨i, c, hc, hasks⟩
  rw [h.1 c (List.mem_of_getElem? hc)] at hasks
  exact hasks

/-- **The policy holds.** For every order of the callers, requests and workers in which no caller is
    overtaken between reading a flag and writing the target: when all are done, the access point is
    off exactly if it may be and the uplink is there. -/
theorem access_point_follows_policy (autoOff : Bool) (channel : BitVec 8) (as : List PolicyAct)
    (s : ApPolicy)
    (hmeets : policyMachine.Meets (fun s a => s.Sound a ∧ s.Timely a)
      (apPolicyBoot autoOff channel) as)
    (hrun : policyMachine.run (apPolicyBoot autoOff channel) as = some s) (hquiet : s.Quiet) :
    s.core.device.apEnabled = (!s.autoOff || !s.apConnect) := by
  have hfollows : s.Follows :=
    Machine.invariant_of_meets (fun _ _ _ hc hs => follows_policyStep hc.2 hs) hmeets hrun
      (.inl (by simp [apPolicyBoot, ApPolicy.wanted]))
  have hradio : s.core.device.apEnabled = s.core.target :=
    agrees_of_quiet (settles_policyRun (fun _ _ => And.left) hmeets hrun (settles_boot _ _))
      hquiet.2
  exact hradio.trans (hfollows.resolve_right (not_deciding_of_quiet hquiet))

/-- A policy change and the uplink one after the other. -/
theorem access_point_off_by_policy :
    ∃ s, policyMachine.run (apPolicyBoot false 1) switchedOff = some s ∧
      s.core.device.apEnabled = (!s.autoOff || !s.apConnect) :=
  ⟨_, rfl, access_point_follows_policy false 1 switchedOff _ (by decide) rfl (by decide)⟩

/-! ### The uplink is lost -/

/-- Neither a new policy nor a new uplink. -/
def PolicyAct.Loses : PolicyAct → Prop
  | .setAutoOff _ | .gotIp => False
  | _ => True

/-- Under way are only callers that ask for the access point, and it has been asked for unless one
    of them still is. -/
structure ApPolicy.Recovers (s : ApPolicy) : Prop where
  autoOff : s.autoOff = true
  callers : ∀ c ∈ s.callers, c = .returned ∨ c = .lost ∨ c = .asking true
  asked : s.core.target = true ∨ ∃ c ∈ s.callers, c ≠ .returned

/-- The loss is noted. -/
theorem recovers_disconnected (hauto : s.autoOff = true)
    (hcallers : ∀ c ∈ s.callers, c = .returned ∨ c = .lost ∨ c = .asking true) :
    ApPolicy.Recovers { s with apConnect := false, callers := s.callers ++ [.lost] } := by
  refine ⟨hauto, fun c hc => ?_, .inr ⟨.lost, by simp, by decide⟩⟩
  obtain hc | hc := List.mem_append.mp hc
  · exact hcallers c hc
  · exact .inr (.inl (List.mem_singleton.mp hc))

/-- **One step.** Until the uplink or the policy changes, the access point stays asked for. Either
    the loss is still to be handled, or its request is under way or through. -/
theorem recovers_step (hloses : a.Loses) (hs : policyStep s a = some s') (h : s.Recovers) :
    s'.Recovers := by
  cases a with
  -- Neither the policy nor the uplink changes any more.
  | setAutoOff | gotIp => exact hloses.elim
  | disconnected =>
    obtain rfl := Option.some.inj hs
    exact recovers_disconnected h.autoOff h.callers
  -- A caller that decides finds the policy on and the uplink lost: it asks for the access point.
  | decide i =>
    simp only [policyStep] at hs
    split at hs
    · next c hi =>
      obtain ⟨c', hc', rfl⟩ := Option.map_eq_some_iff.mp hs
      obtain rfl : c' = .asking true := by
        obtain rfl | rfl | rfl := h.callers c (List.mem_of_getElem? hi)
        · cases hc'
        · rw [h.autoOff] at hc'
          exact (Option.some.inj hc').symm
        · cases hc'
      refine ⟨h.autoOff, fun d hd => ?_, .inr ⟨.asking true, ?_, by decide⟩⟩
      · obtain hd | rfl := List.mem_or_eq_of_mem_set hd
        · exact h.callers d hd
        · exact .inr (.inr rfl)
      · exact List.mem_set (List.getElem?_eq_some_iff.mp hi).1 _
    · cases hs
  -- The one that asks writes the target.
  | request i =>
    simp only [policyStep] at hs
    split at hs
    · next on hi =>
      obtain ⟨core, hcore, rfl⟩ := Option.map_eq_some_iff.mp hs
      obtain rfl := Option.some.inj hcore
      obtain rfl : on = true := by
        obtain hc | hc | hc := h.callers _ (List.mem_of_getElem? hi)
        · cases hc
        · cases hc
        · exact Caller.asking.inj hc
      refine ⟨h.autoOff, fun d hd => ?_, .inl rfl⟩
      obtain hd | rfl := List.mem_or_eq_of_mem_set hd
      · exact h.callers d hd
      · exact .inl rfl
    · cases hs
  -- The workers leave the target as it is.
  | core b =>
    cases b with
    | write => cases hs
    | read | store | start | look | compareNumber | compareTarget | apply =>
      obtain ⟨core, hcore, rfl⟩ := Option.map_eq_some_iff.mp hs
      exact ⟨h.autoOff, h.callers, h.asked.imp_left fun ht =>
        (step_target hcore (by simp)).trans ht⟩

/-- **A lost uplink brings the access point back.** Whatever order the callers before took, and
    whoever overtook whom: when the uplink is lost while the access point may be off and no caller
    is under way, then it is on as soon as all are done, unless the policy changes or the uplink
    comes back. -/
theorem lost_uplink_brings_access_point_back (autoOff : Bool) (channel : BitVec 8)
    (as bs : List PolicyAct) (s t : ApPolicy)
    (hsound : policyMachine.Meets ApPolicy.Sound (apPolicyBoot autoOff channel)
      (as ++ .disconnected :: bs))
    (hrun : policyMachine.run (apPolicyBoot autoOff channel) as = some s)
    (hauto : s.autoOff = true) (hreturned : ∀ c ∈ s.callers, c = .returned)
    (hlost : policyMachine.run s (.disconnected :: bs) = some t) (hloses : ∀ b ∈ bs, b.Loses)
    (hquiet : t.Quiet) : t.core.device.apEnabled = true := by
  -- All are done, so the device follows the target, by the run of the requests.
  have hradio : t.core.device.apEnabled = t.core.target :=
    agrees_of_quiet (settles_policyRun (fun _ _ => id) hsound
      (Machine.run_append.mpr ⟨s, hrun, hlost⟩) (settles_boot _ _)) hquiet.2
  have hmeets : policyMachine.Meets (fun _ b => b.Loses) s (.disconnected :: bs) :=
    ((Machine.meets_true s _).and_forall
      (List.forall_mem_cons.mpr ⟨trivial, hloses⟩)).of_invariant
      (I := fun _ => True) (fun _ _ _ _ _ _ => trivial) (fun _ _ _ h => h.2) trivial
  obtain ⟨u, hfirst, hrest⟩ := Machine.run_cons.mp hlost
  obtain rfl := Option.some.inj hfirst
  -- From the loss on, the target is on, or someone is still to ask for it.
  have hrecovers : t.Recovers :=
    Machine.invariant_of_meets (fun _ _ _ => recovers_step) (hmeets.2 _ hfirst) hrest
      (recovers_disconnected hauto fun c hc => .inl (hreturned c hc))
  obtain htarget | ⟨c, hc, hne⟩ := hrecovers.asked
  · exact hradio.trans htarget
  -- Nobody is, as all are done.
  · exact absurd (hquiet.1 c hc) hne

/-- The policy is changed while the uplink is up, and the uplink is lost before the caller has asked
    for the access point to go off: it goes off, and stays off. -/
def overtaken : List PolicyAct :=
  [.gotIp, .decide 0, .setAutoOff true, .decide 1, .disconnected, .decide 2, .request 2,
    .request 1] ++
    workerRun 0 ⟨true, true, none, some 6, true, true⟩ ++
    workerRun 1 ⟨true, true, none, some 6, true, true⟩

/-- The next disconnect of the station turns it on again. -/
theorem overtaken_made_up_for :
    ∃ s t, policyMachine.run (apPolicyBoot false 1) overtaken = some s ∧
      s.core.device.apEnabled = false ∧ s.apConnect = false ∧
      policyMachine.run s (.disconnected :: [.decide 3, .request 3] ++
        workerRun 2 ⟨true, true, none, some 6, true, true⟩) = some t ∧
      t.core.device.apEnabled = true :=
  ⟨_, _, rfl, rfl, rfl, rfl, lost_uplink_brings_access_point_back false 1 overtaken
    ([.decide 3, .request 3] ++ workerRun 2 ⟨true, true, none, some 6, true, true⟩) _ _
    (by decide) rfl rfl (by decide) rfl (by simp [workerRun, PolicyAct.Loses]) (by decide)⟩

end SubnetRouter.Wifi
