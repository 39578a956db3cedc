import SubnetRouter.Lib.Run
import SubnetRouter.Settings.Json
import SubnetRouter.Settings.MultiKey

namespace SubnetRouter.Ntfy

open Lib Settings

/-!
# Commands over ntfy (`main/ntfy_integration.c`)

A poll goes through the events of a response.  The id of each message is compared with the last
one, is remembered in its place (48 bytes in RAM, the whole id in NVS), and the message is handed
to `handle_command` unless the ids were equal.

* `handleEvent`, `pollCommands` — the code.
* `ntfyMachine` — events, reboots and changes of the configuration, in any order, with the ids
  whose commands were executed.
* `Remembered` — a command that was executed is delivered again only while its id is remembered.
* `commands_once_iff` — exactly then no command is executed twice.
-/

/-! ### The code -/

/-- The event is a message. -/
def isMessage (event : Json) : Bool :=
  (event.stringItem "event").map CString.visible = some "message".toList

/-- Its id, if it is a string. -/
def eventId (event : Json) : Option (List Char) := (event.stringItem "id").map CString.visible

/-- `response_is_ours`. -/
def responseIsOurs (event : Json) : Bool :=
  match event.stringItem "title" with
  | some title => "ESP32 ".toList.isPrefixOf (CString.visible title)
  | none => false

/-- The text for `handle_command`, if the event has one. -/
def command (event : Json) : Option (List Char) :=
  if isMessage event ∧ ¬ responseIsOurs event then
    (event.stringItem "message").map CString.visible
  else none

/-- Remember an id; `saveResult` is that of the write to NVS. -/
def rememberId (s : NtfySettings) (id : List Char) (saveResult : EspErr) : NtfySettings :=
  { s with
    sLastEventId := .strlcpy 47 id
    nvs := (nvsParamSet s.nvs "ntfy_last" (.str id) saveResult).2 }

/-- The body of the loop of `poll_commands`, for a line that could be parsed: the text that is
    handed to `handle_command`, and the settings. -/
def handleEvent (s : NtfySettings) (event : Json) (saveResult : EspErr) :
    Option (List Char) × NtfySettings :=
  if !isMessage event then (none, s)
  else
    match eventId event with
    | some id =>
      let duplicate : Bool := s.sLastEventId.text = id
      (if duplicate then none else command event, rememberId s id saveResult)
    | none => (command event, s)

/-- `poll_commands` on the lines of a response, with the results of the writes: the texts that
    are handed to `handle_command`, and the settings. -/
def pollCommands (s : NtfySettings) : List (Option Json × EspErr) → List (List Char) × NtfySettings
  | [] => ([], s)
  | (none, _) :: lines => pollCommands s lines
  | (some event, saveResult) :: lines =>
    let handled := handleEvent s event saveResult
    let rest := pollCommands handled.2 lines
    (handled.1.toList ++ rest.1, rest.2)

/-- `ntfy_integration_init`. -/
def ntfyIntegrationInit (nvs : Nvs) : NtfySettings :=
  ⟨ntfyLoadConfig nvs, loadString 47 .empty (nvs "ntfy_last"), nvs⟩

/-! ### The device -/

/-- The settings, the ids whose commands were executed, and the ids that the device has seen last:
    since the boot or the last change of the endpoint, and in NVS. -/
structure NtfyDevice where
  settings : NtfySettings
  executed : List (List Char)
  seen : List Char
  saved : Option (List Char)

/-- What may happen, in any order: a poll takes its next line, the configuration is saved, the
    device reboots. -/
inductive NtfyStep where
  | line (event : Option Json) (saveResult : EspErr)
  | setConfig (c : NtfyConfig) (results : Nat → EspErr)
  | reboot

/-- A save that forgets the last id. -/
def changesEndpoint (s : NtfySettings) (c : NtfyConfig) (results : Nat → EspErr) : Bool :=
  (ntfyIntegrationSetConfig s c results).1 = espOk ∧
    (s.sConfig.server ≠ c.server ∨ s.sConfig.topic ≠ c.topic)

/-- The device; what is seen and saved is told by the steps alone. A reboot starts from what was
    saved, and the settings may change at any time. -/
def ntfyMachine : Machine NtfyDevice NtfyStep where
  step d
    | .line none _ => some d
    | .line (some event) saveResult =>
      let handled := handleEvent d.settings event saveResult
      let d := { d with settings := handled.2 }
      if isMessage event then
        match eventId event with
        | some id => some { d with
            executed := if handled.1.isSome then id :: d.executed else d.executed
            seen := id
            saved := if saveResult = espOk then some id else d.saved }
        | none => some d
      else some d
    | .setConfig c results =>
      let settings := (ntfyIntegrationSetConfig d.settings c results).2
      if changesEndpoint d.settings c results then
        some { d with
          settings := settings
          seen := []
          saved := if results 12 = espOk then none else d.saved }
      else some { d with settings := settings }
    | .reboot => some { d with
        settings := ntfyIntegrationInit d.settings.nvs
        seen := d.saved.getD [] }

/-- The first boot, with anything in NVS. -/
def bootedNtfy (nvs : Nvs) : NtfyDevice :=
  let last := nvsParamGetStr (nvs "ntfy_last")
  ⟨ntfyIntegrationInit nvs, [], last.getD [], last⟩

/-- A command whose id was executed is delivered again only if the id is the first 47 characters
    of the one seen last. -/
def Remembered (d : NtfyDevice) : NtfyStep → Prop
  | .line (some event) _ => ∀ id ∈ eventId event, (command event).isSome → id ∈ d.executed →
      id = (CString.visible d.seen).take 47
  | _ => True

/-- The device remembers what it has seen and saved. -/
structure Remembers (d : NtfyDevice) : Prop where
  ram : d.settings.sLastEventId = .strlcpy 47 d.seen
  nvs : nvsParamGetStr (d.settings.nvs "ntfy_last") = d.saved

variable {d d' : NtfyDevice} {a : NtfyStep} {event : Json} {saveResult : EspErr} {id : List Char}

/-! ### What is remembered -/

theorem sLastEventId_init (nvs : Nvs) :
    (ntfyIntegrationInit nvs).sLastEventId =
      .strlcpy 47 ((nvsParamGetStr (nvs "ntfy_last")).getD []) := by
  show loadString 47 .empty (nvs "ntfy_last") = _
  unfold loadString
  cases nvsParamGetStr (nvs "ntfy_last") with
  | none => rfl
  | some text => rfl

/-- **What a save does to the last id**: a change of the endpoint forgets it in RAM, and in NVS if
    it can; any other save, also one that fails, leaves it in both places. -/
theorem setConfig_last (s : NtfySettings) (c : NtfyConfig) (results : Nat → EspErr) :
    let saved := (ntfyIntegrationSetConfig s c results).2
    saved.sLastEventId = (if changesEndpoint s c results then .empty else s.sLastEventId) ∧
      saved.nvs "ntfy_last" =
        if changesEndpoint s c results ∧ results 12 = espOk then none else s.nvs "ntfy_last" := by
  have hkey : "ntfy_last" ∉ (ntfySaves c).map Prod.fst := by
    show "ntfy_last" ∉ ["ntfy_en", "ntfy_alert", "ntfy_cmd", "ntfy_down", "ntfy_mac", "ntfy_info",
      "ntfy_infdet", "ntfy_srv", "ntfy_topic", "ntfy_token", "ntfy_delay", "ntfy_poll"]
    decide
  have hnvs : (nvsSaveAll results s.nvs (ntfySaves c)).2 "ntfy_last" = s.nvs "ntfy_last" :=
    nvsSaveAll_of_notMem hkey
  unfold changesEndpoint ntfyIntegrationSetConfig
  by_cases hvalid : ntfyConfigValid c = true
  · by_cases herr : (nvsSaveAll results s.nvs (ntfySaves c)).1 = espOk
    · by_cases hchanged : s.sConfig.server ≠ c.server ∨ s.sConfig.topic ≠ c.topic
      · -- the endpoint changes: erased, unless NVS fails
        by_cases herase : results 12 = espOk
        · simp [hvalid, herr, hchanged, nvsParamErase, herase]
        · simp [hvalid, herr, hchanged, nvsParamErase, herase, hnvs]
      · simp [hvalid, herr, hchanged, hnvs]
    · simp [hvalid, herr, hnvs]
  · have hinvalid : espErrInvalidArg ≠ espOk := by decide
    simp [hvalid, hinvalid]

/-- A line that is not a message with an id changes nothing; the id of another one is
    remembered. -/
theorem line_cases {line : Option Json}
    (hstep : ntfyMachine.step d (.line line saveResult) = some d') :
    (d' = d ∧ ∀ event ∈ line, isMessage event = false ∨ eventId event = none) ∨
      ∃ event id, line = some event ∧ isMessage event = true ∧ eventId event = some id ∧
        d' = { d with
          settings := rememberId d.settings id saveResult
          executed :=
            if d.settings.sLastEventId.text = id then d.executed
            else if (command event).isSome then id :: d.executed else d.executed
          seen := id
          saved := if saveResult = espOk then some id else d.saved } := by
  cases line with
  | none =>
    cases hstep
    exact Or.inl ⟨rfl, nofun⟩
  | some event =>
    simp only [ntfyMachine, handleEvent] at hstep
    -- The tests of `handle_event` in their order: its event, its id, and the id remembered.
    cases hmessage : isMessage event with
    | false =>
      simp only [hmessage] at hstep
      cases hstep
      exact Or.inl ⟨rfl, by simpa using Or.inl hmessage⟩
    | true =>
      cases hid : eventId event with
      | none =>
        simp only [hmessage, hid] at hstep
        cases hstep
        exact Or.inl ⟨rfl, by simpa using Or.inr hid⟩
      | some id =>
        simp only [hmessage, hid] at hstep
        cases hstep
        refine Or.inr ⟨event, id, rfl, hmessage, hid, ?_⟩
        by_cases hsame : d.settings.sLastEventId.text = id <;> simp [hsame]

/-- The device remembers what it has seen and saved, from the boot on. The first is in RAM, where a
    long id is cut, and the second in NVS. -/
theorem remembers_step (hstep : ntfyMachine.step d a = some d') (h : Remembers d) :
    Remembers d' := by
  cases a with
  | line line saveResult =>
    obtain ⟨rfl, -⟩ | ⟨event, id, -, -, -, rfl⟩ := line_cases hstep
    · exact h
    · refine ⟨rfl, ?_⟩
      show nvsParamGetStr ((nvsParamSet d.settings.nvs "ntfy_last" (.str id) saveResult).2
        "ntfy_last") = if saveResult = espOk then some id else d.saved
      unfold nvsParamSet
      by_cases hsaved : saveResult = espOk
      · simp [hsaved, nvsParamGetStr]
      · simp [hsaved, h.nvs]
  | setConfig c results =>
    obtain ⟨hram, hnvs⟩ := setConfig_last d.settings c results
    simp only [ntfyMachine] at hstep
    by_cases hchanged : changesEndpoint d.settings c results = true
    · rw [if_pos hchanged] at hstep hram
      cases hstep
      refine ⟨hram, ?_⟩
      show nvsParamGetStr _ = _
      rw [hnvs]
      -- behind the twelve settings, the id is erased for a new endpoint
      by_cases herase : results 12 = espOk
      · rw [if_pos ⟨hchanged, herase⟩, if_pos herase]
        rfl
      · rw [if_neg (fun hboth => herase hboth.2), if_neg herase]
        exact h.nvs
    · rw [if_neg hchanged] at hstep hram
      rw [if_neg (fun hboth => hchanged hboth.1)] at hnvs
      cases hstep
      exact ⟨hram.trans h.ram, by rw [hnvs]; exact h.nvs⟩
  | reboot =>
    cases hstep
    refine ⟨?_, h.nvs⟩
    show (ntfyIntegrationInit d.settings.nvs).sLastEventId = _
    rw [sLastEventId_init, h.nvs]

theorem remembers_booted (nvs : Nvs) : Remembers (bootedNtfy nvs) where
  ram := sLastEventId_init nvs
  nvs := rfl

/-! ### What is executed -/

/-- The id whose command an event executes, if there is one, after an event with the id `seen`. -/
def executedOf (seen : List Char) (event : Json) : List (List Char) :=
  match eventId event, command event with
  | some id, some _ => if id = (CString.visible seen).take 47 then [] else [id]
  | _, _ => []

/-- The ids whose commands are executed by a step. -/
def executedBy (d : NtfyDevice) : NtfyStep → List (List Char)
  | .line (some event) _ => executedOf d.seen event
  | _ => []

theorem command_of_not_isMessage (h : isMessage event = false) : command event = none := by
  simp [command, h]

theorem executedBy_of_ignored {line : Option Json}
    (h : ∀ event ∈ line, isMessage event = false ∨ eventId event = none) :
    executedBy d (.line line saveResult) = [] := by
  cases line with
  | none => rfl
  | some event =>
    show executedOf d.seen event = []
    unfold executedOf
    rcases h event rfl with hmessage | hid
    · rw [command_of_not_isMessage hmessage]
      cases eventId event <;> rfl
    · rw [hid]

/-- **A command is executed unless its id is the one remembered.** Only the last id is, and a part
    of it if it is long. -/
theorem executed_step (hstep : ntfyMachine.step d a = some d') (h : Remembers d) :
    d'.executed = executedBy d a ++ d.executed := by
  cases a with
  | line line saveResult =>
    obtain ⟨rfl, hignored⟩ | ⟨event, id, rfl, -, hid, rfl⟩ := line_cases hstep
    · rw [executedBy_of_ignored hignored, List.nil_append]
    · -- the id in RAM is what fits of the one seen last
      have hlast : d.settings.sLastEventId.text = (CString.visible d.seen).take 47 := by
        rw [h.ram]
        rfl
      show (if d.settings.sLastEventId.text = id then d.executed else _) =
        executedOf d.seen event ++ d.executed
      rw [executedOf, hid, hlast]
      by_cases hsame : (CString.visible d.seen).take 47 = id
      · cases hcommand : command event <;> simp [hsame]
      · cases hcommand : command event <;> simp [hsame, Ne.symm hsame]
  | setConfig c results =>
    simp only [ntfyMachine] at hstep
    split at hstep
    · cases hstep
      rfl
    · cases hstep
      rfl
  | reboot =>
    cases hstep
    rfl

/-- Every step is possible at any time. -/
theorem step_isSome (d : NtfyDevice) (a : NtfyStep) : ∃ d', ntfyMachine.step d a = some d' := by
  cases a with
  | line event saveResult =>
    cases event with
    | none => exact ⟨_, rfl⟩
    | some event =>
      simp only [ntfyMachine]
      split
      · split <;> exact ⟨_, rfl⟩
      · exact ⟨_, rfl⟩
  | setConfig c results =>
    simp only [ntfyMachine]
    split <;> exact ⟨_, rfl⟩
  | reboot => exact ⟨_, rfl⟩

/-- A command that was executed is not executed again exactly if its id is remembered. -/
theorem remembered_iff : Remembered d a ↔ ∀ id ∈ executedBy d a, id ∉ d.executed := by
  cases a with
  | line event saveResult =>
    cases event with
    | none => simp [Remembered, executedBy]
    | some event =>
      show (∀ id ∈ eventId event, (command event).isSome → id ∈ d.executed →
        id = (CString.visible d.seen).take 47) ↔ ∀ id ∈ executedOf d.seen event, id ∉ d.executed
      -- Only a line with an id and a command executes anything.
      unfold executedOf
      cases eventId event with
      | none => simp
      | some id =>
        cases command event with
        | none => simp
        | some text =>
          -- The id remembered is the seen one, cut to the size of its array.
          by_cases hsame : id = (CString.visible d.seen).take 47
          · simp [← hsame]
          · simp [hsame]
  | setConfig c results => simp [Remembered, executedBy]
  | reboot => simp [Remembered, executedBy]

/-- A step executes at most one command. -/
theorem nodup_executedBy (d : NtfyDevice) (a : NtfyStep) : (executedBy d a).Nodup := by
  unfold executedBy executedOf
  split
  · split
    · split <;> simp
    · exact List.nodup_nil
  · exact List.nodup_nil

/-- A step executes no command for the second time exactly if what it delivers again is
    remembered. -/
theorem nodup_step_iff (h : Remembers d) (hnodup : d.executed.Nodup) :
    Remembered d a ↔ ∀ d', ntfyMachine.step d a = some d' → d'.executed.Nodup := by
  obtain ⟨d₁, hstep⟩ := step_isSome d a
  have hone : (∀ d', ntfyMachine.step d a = some d' → d'.executed.Nodup) ↔ d₁.executed.Nodup := by
    constructor
    · exact fun hall => hall d₁ hstep
    · intro hd₁ d' hd'
      rw [hstep, Option.some.injEq] at hd'
      exact hd' ▸ hd₁
  rw [hone, executed_step hstep h, List.nodup_append, remembered_iff]
  constructor
  · intro hfresh
    refine ⟨nodup_executedBy d a, hnodup, ?_⟩
    rintro id hid id' hid' rfl
    exact hfresh id hid hid'
  · rintro ⟨-, -, hdisjoint⟩ id hid hid'
    exact hdisjoint id hid id hid' rfl

/-- **Commands run at most once**, whatever polls deliver, and across reboots and changes of the
    configuration, exactly if each command that is delivered again after it was executed has the
    id that is remembered. -/
theorem commands_once_iff (nvs : Nvs) (steps : List NtfyStep) :
    (∀ n d, ntfyMachine.run (bootedNtfy nvs) (steps.take n) = some d → d.executed.Nodup) ↔
      ntfyMachine.Meets Remembered (bootedNtfy nvs) steps :=
  (Machine.meets_iff_reached (fun _ _ _ hstep h => remembers_step hstep h)
    (fun _ _ h hnodup => nodup_step_iff h hnodup) (remembers_booted nvs) List.nodup_nil).symm

/-! ### Polls -/

/-- A poll is a run through its lines. This connects the handler's loop to the steps of the
    device. -/
theorem run_pollCommands (d : NtfyDevice) (lines : List (Option Json × EspErr)) :
    ∃ d', ntfyMachine.run d (lines.map fun l => .line l.1 l.2) = some d' ∧
      d'.settings = (pollCommands d.settings lines).2 := by
  induction lines generalizing d with
  | nil => exact ⟨d, rfl, rfl⟩
  | cons l lines ih =>
    obtain ⟨event, saveResult⟩ := l
    obtain ⟨d₁, hstep⟩ := step_isSome d (.line event saveResult)
    -- The poll hands the settings on from line to line as the run does.
    obtain ⟨d', hrun, hsettings⟩ := ih d₁
    refine ⟨d', Machine.run_cons.mpr ⟨d₁, hstep, hrun⟩, ?_⟩
    rw [hsettings]
    cases event with
    | none =>
      cases hstep
      rfl
    | some event =>
      have hhandled : d₁.settings = (handleEvent d.settings event saveResult).2 := by
        simp only [ntfyMachine] at hstep
        split at hstep
        · split at hstep <;> cases hstep <;> rfl
        · cases hstep
          rfl
      rw [hhandled]
      rfl

/-! ### An older command again -/

/-- A message with an id. -/
def wakeNas (id : String) : Json :=
  .object [("id", .string id.toList), ("event", .string "message".toList),
    ("message", .string "wol nas".toList)]

/-- A response delivers two commands, and the next one the first of them again. -/
def redelivered : List NtfyStep :=
  [.line (some (wakeNas "aaaa")) espOk, .line (some (wakeNas "bbbb")) espOk,
    .line (some (wakeNas "aaaa")) espOk]

/-- The older command is executed again. -/
theorem older_command_again :
    ¬ ∀ (nvs : Nvs) (steps : List NtfyStep) (d : NtfyDevice),
      ntfyMachine.run (bootedNtfy nvs) steps = some d → d.executed.Nodup := by
  intro h
  have hnodup := h (fun _ => none) redelivered _ rfl
  revert hnodup
  decide

end SubnetRouter.Ntfy
