import SubnetRouter.Lib.Run
import SubnetRouter.Net.Ip4

namespace SubnetRouter.ExitNode

open SubnetRouter.Lib

/-!
# Advertising and using an exit node

A router that advertises itself as an exit node and also uses one would send the traffic it
receives back into the tunnel.  Three places keep the two settings apart: a save of the
Tailscale settings (`tailscale_save_handler` in `main/web_ui.c`), the MQTT command
`advertise_exit_node` (`handle_command` in `main/mqtt_integration.c`) and the boot
(`tailscale_init` in `main/tailscale_manager.c`).  A save and a command run on different tasks:
each checks the other setting first and writes its own some steps later.

* `tailscaleSaveHandlerAllows`, `step` — the check of a save, and the steps of both tasks.
* `NoRace` — a check is not passed while the other task is about to write.
* `exclusive_of_noRace` — without a race, the two settings are never on together.
-/

/-! ### The settings and the two tasks -/

/-- The two fields of a `/api/tailscale` body: `none` when they have another JSON type or are
    left out. -/
structure SaveRequest where
  advertiseExitNode : Option Bool
  exitNodeIp : Option (List Char)
deriving DecidableEq

/-- Where a save is: before its assignment or flash write of each setting. Between any two of them
    the other task may run. -/
inductive WebPhase where
  | idle
  | assigningAdvertise (req : SaveRequest)
  | writingAdvertise (req : SaveRequest)
  | writingExitNode (req : SaveRequest)
  | assigningExitNode (req : SaveRequest)
deriving DecidableEq

/-- Where a command is, with the value it sets. It writes flash first, and assigns the global only
    then. -/
inductive MqttPhase where
  | idle
  | writing (on : Bool)
  | assigning (on : Bool)
deriving DecidableEq

/-- The globals, the NVS keys `ts_adv_exit` and `ts_exit_node`, and the two tasks. A reboot loads
    the globals from the keys. -/
structure Settings where
  tailscaleAdvertiseExitNode : Int
  tailscaleExitNodeIp : Ip4
  tsAdvExit : Option Int
  tsExitNode : Option Int
  web : WebPhase
  mqtt : MqttPhase
deriving DecidableEq

/-- `1` or `0`. -/
def flag (on : Bool) : Int := if on then 1 else 0

/-- A write to NVS that may fail. -/
def nvsSet (ok : Bool) (old : Option Int) (new : Int) : Option Int := if ok then some new else old

/-- `tailscale_init` on what is in NVS; `ok` tells whether its own write succeeds. Where both
    settings are stored the exit node wins, and the advertisement is dropped in RAM whatever the
    write returns. -/
def tailscaleInit (tsAdvExit tsExitNode : Option Int) (ok : Bool) : Settings :=
  let advertise := flag ((tsAdvExit.getD 0) ≠ 0)
  let exitNodeIp := BitVec.ofInt 32 (tsExitNode.getD 0)
  if advertise ≠ 0 ∧ exitNodeIp ≠ 0#32 then
    ⟨0, exitNodeIp, nvsSet ok tsAdvExit 0, tsExitNode, .idle, .idle⟩
  else ⟨advertise, exitNodeIp, tsAdvExit, tsExitNode, .idle, .idle⟩

/-! ### The check of a save -/

variable {aton : List Char → Option Ip4} {s t : Settings} {req : SaveRequest}

/-- The address that a save assigns, if any; an empty text clears the setting. -/
def SaveRequest.selected (aton : List Char → Option Ip4) (req : SaveRequest) : Option Ip4 :=
  req.exitNodeIp.bind fun text => if text = [] then some 0#32 else aton text

/-- `want_advertise_exit`. -/
def wantAdvertiseExit (s : Settings) (req : SaveRequest) : Bool :=
  req.advertiseExitNode.getD (s.tailscaleAdvertiseExitNode ≠ 0)

/-- `want_selected_exit`; `none` for a text that is no address. A request that leaves the field out
    keeps what is in RAM at that moment. -/
def wantSelectedExit (aton : List Char → Option Ip4) (s : Settings) (req : SaveRequest) :
    Option Bool :=
  match req.exitNodeIp with
  | none => some (s.tailscaleExitNodeIp ≠ 0#32)
  | some text => if text = [] then some false else (aton text).map fun _ => true

/-- The save is not rejected. The test looks at the request and at the settings in RAM, once, before
    any of the four steps that carry the save out. -/
def tailscaleSaveHandlerAllows (aton : List Char → Option Ip4) (s : Settings)
    (req : SaveRequest) : Bool :=
  match wantSelectedExit aton s req with
  | none => false
  | some selected => !(wantAdvertiseExit s req && selected)

/-! ### Steps -/

/-- What happens next: a request or a command comes in, a task goes on (`ok` for a flash
    write), or the router restarts. -/
inductive Act where
  | save (req : SaveRequest)
  | web (ok : Bool)
  | command (on : Bool)
  | mqtt (ok : Bool)
  | reboot (ok : Bool)
deriving DecidableEq

/-- The next step of a save. An assignment and the NVS write behind it are two steps, so that a
    command or a reboot may come in between. -/
def webStep (aton : List Char → Option Ip4) (s : Settings) (ok : Bool) : Option Settings :=
  match s.web with
  | .idle => none
  | .assigningAdvertise req => some
    { s with
      tailscaleAdvertiseExitNode :=
        (req.advertiseExitNode.map flag).getD s.tailscaleAdvertiseExitNode
      web := .writingAdvertise req }
  | .writingAdvertise req => some
    { s with
      tsAdvExit := match req.advertiseExitNode with
        | some on => nvsSet ok s.tsAdvExit (flag on)
        | none => s.tsAdvExit
      web := .writingExitNode req }
  | .writingExitNode req => some
    { s with
      tsExitNode := match req.selected aton with
        | some ip => nvsSet ok s.tsExitNode ip.toInt
        | none => s.tsExitNode
      web := .assigningExitNode req }
  | .assigningExitNode req => some
    { s with
      tailscaleExitNodeIp := (req.selected aton).getD s.tailscaleExitNodeIp
      web := .idle }

/-- The next step of a command: `set_tailscale_flag`. It writes first and assigns afterwards, the
    other way round than a save does with this flag. -/
def mqttStep (s : Settings) (ok : Bool) : Option Settings :=
  match s.mqtt with
  | .idle => none
  | .writing on => some
    { s with
      tsAdvExit := nvsSet ok s.tsAdvExit (flag on)
      -- the flag is left alone when the write fails
      mqtt := if ok then .assigning on else .idle }
  | .assigning on => some { s with tailscaleAdvertiseExitNode := flag on, mqtt := .idle }

/-- One step of the router. A save and a command begin with their checks, and then go on one write
    or assignment at a time. -/
def step (aton : List Char → Option Ip4) (s : Settings) : Act → Option Settings
  | .save req =>
    if s.web ≠ .idle then none
    else if tailscaleSaveHandlerAllows aton s req then
      some { s with web := .assigningAdvertise req }
    else some s
  | .web ok => webStep aton s ok
  | .command on =>
    if s.mqtt ≠ .idle then none
    else if on ∧ s.tailscaleExitNodeIp ≠ 0#32 then some s
    else some { s with mqtt := .writing on }
  | .mqtt ok => mqttStep s ok
  | .reboot ok => some (tailscaleInit s.tsAdvExit s.tsExitNode ok)

/-- The router as a machine. -/
def machine (aton : List Char → Option Ip4) : Machine Settings Act := ⟨step aton⟩

/-! ### Races -/

/-- The router does not advertise itself and use an exit node at once. -/
def Exclusive (s : Settings) : Prop :=
  ¬ (s.tailscaleAdvertiseExitNode ≠ 0 ∧ s.tailscaleExitNodeIp ≠ 0#32)

/-- A save that will select an exit node. -/
def SaveRequest.selects (aton : List Char → Option Ip4) (req : SaveRequest) : Prop :=
  (req.selected aton).getD 0#32 ≠ 0#32

/-- The save under way, with all the fields of its request: they stay the same from the check to the
    last write. -/
def WebPhase.request : WebPhase → Option SaveRequest
  | .idle => none
  | .assigningAdvertise req => some req
  | .writingAdvertise req => some req
  | .writingExitNode req => some req
  | .assigningExitNode req => some req

/-- A save is under way that will select an exit node. -/
def Selecting (aton : List Char → Option Ip4) (s : Settings) : Prop :=
  ∃ req ∈ s.web.request, req.selects aton

/-- A command is under way that turns the advertisement on. -/
def Enabling (s : Settings) : Prop := s.mqtt = .writing true ∨ s.mqtt = .assigning true

/-- A request or a command that is let through finds the other task in no race with it: a save
    selects an exit node while no command turns the advertisement on, a command turns it on
    while no save selects an exit node, and a save turns it on while no exit node is selected,
    not even one that the same save clears. -/
def NoRace (aton : List Char → Option Ip4) (s : Settings) : Act → Prop
  | .save req => tailscaleSaveHandlerAllows aton s req = true →
      (req.selects aton → ¬ Enabling s) ∧
        (req.advertiseExitNode = some true → s.tailscaleExitNodeIp = 0#32)
  | .command on => on = true → s.tailscaleExitNodeIp = 0#32 → ¬ Selecting aton s
  | _ => True

instance : Decidable (req.selects aton) := inferInstanceAs (Decidable (_ ≠ _))

instance : Decidable (Selecting aton s) :=
  inferInstanceAs (Decidable (∃ req ∈ s.web.request, req.selects aton))

instance : Decidable (Enabling s) := inferInstanceAs (Decidable (_ ∨ _))

instance : ∀ a, Decidable (NoRace aton s a)
  | .save _ => inferInstanceAs (Decidable (_ → _))
  | .command _ => inferInstanceAs (Decidable (_ → _))
  | .web _ => isTrue trivial
  | .mqtt _ => isTrue trivial
  | .reboot _ => isTrue trivial

/-! ### What holds between the steps -/

/-- What a save that was let through is about to do is in no conflict with the other setting. This
    is what a run without a race keeps; the settings themselves are `exclusive`. -/
structure Safe (aton : List Char → Option Ip4) (s : Settings) : Prop where
  exclusive : Exclusive s
  enabling : Enabling s → s.tailscaleExitNodeIp = 0#32 ∧ ¬ Selecting aton s
  advertising : ∀ req ∈ s.web.request, req.advertiseExitNode = some true →
    s.tailscaleExitNodeIp = 0#32 ∧ ¬ req.selects aton
  selecting : ∀ req ∈ s.web.request, req.selects aton →
    s.tailscaleAdvertiseExitNode = 0 ∨
      (s.web = .assigningAdvertise req ∧ req.advertiseExitNode = some false)

/-- A restart leaves at most one of the two settings on. -/
theorem safe_tailscaleInit (tsAdvExit tsExitNode : Option Int) (ok : Bool) :
    Safe aton (tailscaleInit tsAdvExit tsExitNode ok) := by
  unfold tailscaleInit
  dsimp only
  split_ifs with hboth
  · exact ⟨fun h => h.1 rfl, by simp [Enabling], by simp [WebPhase.request],
      by simp [WebPhase.request]⟩
  · exact ⟨hboth, by simp [Enabling], by simp [WebPhase.request], by simp [WebPhase.request]⟩

/-- A save that selects an exit node and is let through leaves no advertisement on. -/
theorem not_advertising_of_allows (hallows : tailscaleSaveHandlerAllows aton s req = true)
    (hselects : req.selects aton) :
    req.advertiseExitNode = some false ∨
      (req.advertiseExitNode = none ∧ s.tailscaleAdvertiseExitNode = 0) := by
  obtain ⟨text, htext⟩ : ∃ text, req.exitNodeIp = some text := by
    rw [← Option.ne_none_iff_exists']
    intro hnone
    simp [SaveRequest.selects, SaveRequest.selected, hnone] at hselects
  have hne : text ≠ [] := by
    rintro rfl
    simp [SaveRequest.selects, SaveRequest.selected, htext] at hselects
  unfold tailscaleSaveHandlerAllows wantSelectedExit wantAdvertiseExit at hallows
  rw [htext] at hallows
  cases haddr : aton text with
  -- a text that is no address is rejected
  | none => simp [hne, haddr] at hallows
  | some ip =>
    cases hadv : req.advertiseExitNode with
    | none => simpa [hne, haddr, hadv] using hallows
    | some on =>
      have hoff : on = false := by simpa [hne, haddr, hadv] using hallows
      exact .inl (by rw [hoff])

/-- The check of a save. It was made on the settings as they are now; that no command is halfway
    through is the absence of a race. -/
theorem Safe.save (h : Safe aton s)
    (hallows : tailscaleSaveHandlerAllows aton s req = true)
    (hrace : (req.selects aton → ¬ Enabling s) ∧
      (req.advertiseExitNode = some true → s.tailscaleExitNodeIp = 0#32)) :
    Safe aton { s with web := .assigningAdvertise req } where
  exclusive := h.exclusive
  enabling hen := by
    refine ⟨(h.enabling hen).1, ?_⟩
    -- The save selects an exit node while a command is enabling: `hrace` excludes it.
    rintro ⟨_, hreq, hselects⟩
    obtain rfl := Option.some.inj hreq
    exact hrace.1 hselects hen
  advertising := by
    intro _ hreq hon
    obtain rfl := Option.some.inj hreq
    refine ⟨hrace.2 hon, fun hselects => ?_⟩
    -- The check has passed: it advertises nothing, or it clears the exit node.
    rcases not_advertising_of_allows hallows hselects with hoff | ⟨hnone, -⟩
    · simp [hoff] at hon
    · simp [hnone] at hon
  selecting := by
    intro _ hreq hselects
    obtain rfl := Option.some.inj hreq
    rcases not_advertising_of_allows hallows hselects with hoff | ⟨-, hzero⟩
    · exact .inr ⟨rfl, hoff⟩
    · exact .inl hzero

/-- The first step of a save sets or clears the flag, or leaves it alone. To set it is safe, as the
    save would not have been let through with an exit node selected. -/
theorem Safe.assignAdvertise (h : Safe aton s) (hweb : s.web = .assigningAdvertise req) :
    Safe aton
      { s with
        tailscaleAdvertiseExitNode :=
          (req.advertiseExitNode.map flag).getD s.tailscaleAdvertiseExitNode
        web := .writingAdvertise req } := by
  have hreq : s.web.request = some req := by rw [hweb, WebPhase.request]
  have hadvertising := h.advertising req hreq
  have hselecting := h.selecting req hreq
  constructor
  · rintro ⟨hflag, hexit⟩
    cases hadv : req.advertiseExitNode with
    | none =>
      rw [hadv] at hflag
      exact h.exclusive ⟨hflag, hexit⟩
    | some on =>
      cases on with
      | true => exact hexit (hadvertising hadv).1
      | false => simp [hadv, flag] at hflag
  · intro hen
    refine ⟨(h.enabling hen).1, ?_⟩
    rintro ⟨_, hmem, hselects⟩
    exact (h.enabling hen).2 ⟨req, hreq, Option.some.inj hmem ▸ hselects⟩
  · intro _ hmem hon
    obtain rfl := Option.some.inj hmem
    exact hadvertising hon
  · intro _ hmem hselects
    obtain rfl := Option.some.inj hmem
    refine .inl ?_
    show (req.advertiseExitNode.map flag).getD s.tailscaleAdvertiseExitNode = 0
    cases hadv : req.advertiseExitNode with
    | none =>
      rcases hselecting hselects with hzero | ⟨-, hoff⟩
      · exact hzero
      · simp [hadv] at hoff
    | some on =>
      -- one save does not turn both on
      cases on with
      | true => exact absurd hselects (hadvertising hadv).2
      | false => rfl

/-- A flash write of a save, after the flag has been set. -/
theorem Safe.writeNvs {web : WebPhase} {tsAdvExit tsExitNode : Option Int} (h : Safe aton s)
    (hweb : web.request = s.web.request) (hlater : ∀ req, s.web ≠ .assigningAdvertise req) :
    Safe aton { s with tsAdvExit := tsAdvExit, tsExitNode := tsExitNode, web := web } where
  exclusive := h.exclusive
  enabling hen := by
    refine ⟨(h.enabling hen).1, ?_⟩
    rintro ⟨req, hreq, hselects⟩
    exact (h.enabling hen).2 ⟨req, hweb ▸ hreq, hselects⟩
  advertising req hreq hon := h.advertising req (hweb ▸ hreq) hon
  selecting req hreq hselects := by
    rcases h.selecting req (hweb ▸ hreq) hselects with hzero | ⟨hphase, -⟩
    · exact .inl hzero
    · exact absurd hphase (hlater req)

/-- The last step of a save selects an exit node only without an advertisement: the first step has
    cleared it, or the check has found none. -/
theorem Safe.assignExitNode (h : Safe aton s) (hweb : s.web = .assigningExitNode req) :
    Safe aton
      { s with
        tailscaleExitNodeIp := (req.selected aton).getD s.tailscaleExitNodeIp
        web := .idle } := by
  have hreq : s.web.request = some req := by rw [hweb, WebPhase.request]
  -- without a selection the setting is cleared or stays as it is
  have hother : ¬ req.selects aton → s.tailscaleExitNodeIp = 0#32 →
      (req.selected aton).getD s.tailscaleExitNodeIp = 0#32 := by
    intro hnot hzero
    rw [hzero]
    exact not_not.mp hnot
  constructor
  · rintro ⟨hflag, hexit⟩
    by_cases hselects : req.selects aton
    · rcases h.selecting req hreq hselects with hzero | ⟨hphase, -⟩
      · exact hflag hzero
      · simp [hweb] at hphase
    · exact hexit (hother hselects (not_not.mp fun hne => h.exclusive ⟨hflag, hne⟩))
  · intro hen
    refine ⟨hother (fun hselects => (h.enabling hen).2 ⟨req, hreq, hselects⟩)
      (h.enabling hen).1, ?_⟩
    rintro ⟨_, hmem, -⟩
    cases hmem
  · intro _ hmem
    cases hmem
  · intro _ hmem
    cases hmem

/-- A step of a save. -/
theorem Safe.webStep {ok : Bool} (h : Safe aton s) (hstep : webStep aton s ok = some t) :
    Safe aton t := by
  unfold ExitNode.webStep at hstep
  split at hstep
  case h_1 => cases hstep
  case h_2 req hweb =>
    obtain rfl := Option.some.inj hstep
    exact h.assignAdvertise hweb
  case h_3 req hweb =>
    obtain rfl := Option.some.inj hstep
    exact h.writeNvs (by rw [hweb]; rfl) (by simp [hweb])
  case h_4 req hweb =>
    obtain rfl := Option.some.inj hstep
    exact h.writeNvs (by rw [hweb]; rfl) (by simp [hweb])
  case h_5 req hweb =>
    obtain rfl := Option.some.inj hstep
    exact h.assignExitNode hweb

/-- A command that comes in, or goes on. -/
theorem Safe.setMqtt {mqtt : MqttPhase} {tsAdvExit : Option Int} (h : Safe aton s)
    (hen : mqtt = .writing true ∨ mqtt = .assigning true →
      s.tailscaleExitNodeIp = 0#32 ∧ ¬ Selecting aton s) :
    Safe aton { s with tsAdvExit := tsAdvExit, mqtt := mqtt } :=
  ⟨h.exclusive, hen, h.advertising, h.selecting⟩

/-- A command sets the flag only without an exit node, and with none about to be selected. -/
theorem Safe.assignFlag {on : Bool} (h : Safe aton s) (hmqtt : s.mqtt = .assigning on) :
    Safe aton { s with tailscaleAdvertiseExitNode := flag on, mqtt := .idle } := by
  have hnone : on = true → s.tailscaleExitNodeIp = 0#32 ∧ ¬ Selecting aton s := by
    rintro rfl
    exact h.enabling (.inr hmqtt)
  constructor
  · rintro ⟨hflag, hexit⟩
    cases on with
    | true => exact hexit (hnone rfl).1
    | false => exact hflag rfl
  · simp [Enabling]
  · exact h.advertising
  · intro req hreq hselects
    cases on with
    | true => exact absurd ⟨req, hreq, hselects⟩ (hnone rfl).2
    | false => exact .inl rfl

/-- A step of a command. -/
theorem Safe.mqttStep {ok : Bool} (h : Safe aton s) (hstep : mqttStep s ok = some t) :
    Safe aton t := by
  unfold ExitNode.mqttStep at hstep
  split at hstep
  case h_1 => cases hstep
  case h_2 on hmqtt =>
    obtain rfl := Option.some.inj hstep
    apply h.setMqtt
    cases ok with
    | true =>
      intro hen
      obtain rfl : on = true := by simpa using hen
      exact h.enabling (.inl hmqtt)
    | false => simp
  case h_3 on hmqtt =>
    obtain rfl := Option.some.inj hstep
    exact h.assignFlag hmqtt

/-- **One step** without a race. A reboot starts from what is stored, where `tailscale_init`
    resolves a conflict. -/
theorem safe_step {a : Act} (hrace : NoRace aton s a) (hstep : step aton s a = some t)
    (h : Safe aton s) : Safe aton t := by
  -- One case per action; only a save and a command bring a new assignment under way.
  cases a with
  | save req =>
    rw [step, Option.ite_none_left_eq_some] at hstep
    obtain ⟨-, hstep⟩ := hstep
    -- The save handler refuses, or assigns.
    split_ifs at hstep with hallows
    · obtain rfl := Option.some.inj hstep
      exact h.save hallows (hrace hallows)
    · exact Option.some.inj hstep ▸ h
  | web ok => exact h.webStep hstep
  | command on =>
    rw [step, Option.ite_none_left_eq_some] at hstep
    obtain ⟨-, hstep⟩ := hstep
    -- The command refuses an exit node that is set, or goes on with none set.
    split_ifs at hstep with hrejected
    · exact Option.some.inj hstep ▸ h
    · obtain rfl := Option.some.inj hstep
      refine h.setMqtt fun hen => ?_
      obtain rfl : on = true := by simpa using hen
      have hzero : s.tailscaleExitNodeIp = 0#32 := by simpa using hrejected
      exact ⟨hzero, hrace rfl hzero⟩
  | mqtt ok => exact h.mqttStep hstep
  | reboot ok =>
    obtain rfl := Option.some.inj hstep
    exact safe_tailscaleInit _ _ ok

/-- **Exit-node exclusion.** From any boot, in a run without a race the router never advertises
    itself and uses an exit node at once. -/
theorem exclusive_of_noRace (aton : List Char → Option Ip4) (tsAdvExit tsExitNode : Option Int)
    (ok : Bool) {acts : List Act}
    (hrace : (machine aton).Meets (NoRace aton) (tailscaleInit tsAdvExit tsExitNode ok) acts)
    (hrun : (machine aton).run (tailscaleInit tsAdvExit tsExitNode ok) acts = some t) :
    Exclusive t :=
  ((machine aton).invariant_of_meets (I := Safe aton) (fun _ _ _ => safe_step) hrace hrun
    (safe_tailscaleInit tsAdvExit tsExitNode ok)).exclusive

/-! ### A save and a command, one after the other and at once -/

/-- `ip4addr_aton` on the text 100.64.0.1. -/
def peerAton (text : List Char) : Option Ip4 :=
  if text = "100.64.0.1".toList then some 0x64400001#32 else none

/-- Selects 100.64.0.1. -/
def selectPeer : SaveRequest := ⟨none, some "100.64.0.1".toList⟩

/-- The steps of a save that is let through. -/
def saveSteps (req : SaveRequest) : List Act := .save req :: List.replicate 4 (.web true)

/-- A command is rejected after the save, and accepted after a save that clears the setting. -/
theorem exclusive_in_turn :
    ∃ t, (machine peerAton).run (tailscaleInit none none true)
        (saveSteps selectPeer ++ [.command true] ++ saveSteps ⟨none, some []⟩ ++
          [.command true, .mqtt true, .mqtt true]) = some t ∧
      t.tailscaleAdvertiseExitNode = 1 ∧ Exclusive t := by
  have hrace : (machine peerAton).Meets (NoRace peerAton) (tailscaleInit none none true)
      (saveSteps selectPeer ++ [.command true] ++ saveSteps ⟨none, some []⟩ ++
        [.command true, .mqtt true, .mqtt true]) := by
    decide
  exact ⟨_, rfl, rfl, exclusive_of_noRace peerAton none none true hrace rfl⟩

/-- The command passes its check between the check and the assignment of the save. -/
theorem race_sets_both :
    ∃ t, (machine peerAton).run (tailscaleInit none none true)
        ([.save selectPeer, .command true] ++ List.replicate 4 (.web true) ++
          [.mqtt true, .mqtt true]) = some t ∧
      t.tailscaleAdvertiseExitNode = 1 ∧ t.tailscaleExitNodeIp = 0x64400001#32 ∧
      ¬ Exclusive t :=
  ⟨_, rfl, rfl, rfl, by unfold Exclusive; decide⟩

end SubnetRouter.ExitNode
