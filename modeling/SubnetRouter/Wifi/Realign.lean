import SubnetRouter.Lib.Digits
import SubnetRouter.Lib.Run
import SubnetRouter.Settings.Nvs

namespace SubnetRouter.Wifi

open Lib
open SubnetRouter.Settings

/-!
# The channel of the access point (`main/main.c`)

There is one radio, so the access point has to be on the channel of the uplink.  Its channel is
chosen at the boot, from the last one seen; an uplink on another channel makes the device reboot,
at most three times in a row.

* `bootChannel`, `gotIpAlign`, `bootReason` — the boot and the association.
* `machine` — boots, associations, changes of the policy, resets.
* `at_most_three_realigns` — between two aligned associations there are at most three such reboots,
  and one more for each count that could not be written.
* `steady_uplink_realigned_once` — an uplink that stays on its channel costs at most one.
* `realign_reported_once` — the next boot tells the reason, and no later one does.
-/

namespace Realign

/-- NVS, whether the firmware runs, `s_ap_auto_off`, the channel in the configuration of the access
    point, and `g_reboot_why`. -/
structure Device where
  nvs : Nvs
  running : Bool
  autoOff : Bool
  channel : UInt8
  rebootWhy : List Char

/-- What the calls of an association return: the channel of the uplink, if it is known; whether the
    configuration of the access point is read; and the results of the three writes. -/
structure GotIpCalls where
  apInfo : Option UInt8
  apConfig : Bool
  results : Nat → EspErr

/-- A channel as it is kept in NVS. -/
def stored (channel : UInt8) : NvsValue := .i32 (Int32.ofNat channel.toNat)

/-- `wifi_init_softap`: the last channel seen, else the default. -/
def bootChannel (config : UInt8) (nvs : Nvs) : UInt8 :=
  match nvsParamGetInt (nvs "ap_chan_learned") with
  | some learned => if 1 ≤ learned ∧ learned ≤ 13 then learned.toUInt32.toUInt8 else config
  | none => config

/-- `ch-realign %u->%u`. -/
def realignReason (channel primary : UInt8) : List Char :=
  "ch-realign ".toList ++ Nat.toDigits 10 channel.toNat ++ "->".toList ++
    Nat.toDigits 10 primary.toNat

/-- The channel of the uplink is kept for the next boot. It is written only when it differs from
    what is there. -/
def noteChannel (nvs : Nvs) (primary : UInt8) (result : EspErr) : Nvs :=
  let saved := (nvsParamGetInt (nvs "ap_chan_learned")).getD 0
  if saved ≠ Int32.ofNat primary.toNat then
    (nvsParamSet nvs "ap_chan_learned" (stored primary) result).2
  else nvs

/-- Channels that are equal clear the guard. -/
def clearGuard (nvs : Nvs) (result : EspErr) : Nvs :=
  match nvsParamGetInt (nvs "ap_realign_cnt") with
  | some rc => if rc ≠ 0 then (nvsParamSet nvs "ap_realign_cnt" (.i32 0) result).2 else nvs
  | none => nvs

/-- The loop guard in NVS. -/
def guard (nvs : Nvs) : Int32 := (nvsParamGetInt (nvs "ap_realign_cnt")).getD 0

/-- The alignment in the handler of `IP_EVENT_STA_GOT_IP`: whether the device restarts, and NVS. No
    result of its writes is looked at. -/
def gotIpAlign (s : Device) (calls : GotIpCalls) : Bool × Nvs :=
  match calls.apInfo with
  | none => (false, s.nvs)
  | some primary =>
    if 1 ≤ primary ∧ primary ≤ 13 then
      let nvs := noteChannel s.nvs primary (calls.results 0)
      -- a configuration that is not read counts as equal
      if ¬ (calls.apConfig = true ∧ s.channel ≠ primary) then
        (false, clearGuard nvs (calls.results 1))
      else if s.autoOff then (false, nvs)
      else if guard nvs < 3 then
        let nvs := (nvsParamSet nvs "ap_realign_cnt" (.i32 (guard nvs + 1)) (calls.results 1)).2
        let why := realignReason s.channel primary
        (true, (nvsParamSet nvs "reboot_why" (.str why) (calls.results 2)).2)
      else (false, nvs)
    else (false, s.nvs)

/-- The reason for the last reboot, at the start of `app_main`: read, and cleared. A key that is
    empty is not written again. -/
def bootReason (nvs : Nvs) (result : EspErr) : List Char × Nvs :=
  match nvsParamGetStr (nvs "reboot_why") with
  | some why =>
    if why = [] then ([], nvs)
    else ((CString.strlcpy 31 why).text, (nvsParamSet nvs "reboot_why" (.str []) result).2)
  | none => ([], nvs)

/-- An association, a boot, a new policy, a recovery of the access point on some channel, and a
    reset. -/
inductive Act
  | gotIp (calls : GotIpCalls)
  | boot (result : EspErr)
  | setAutoOff (autoOff : Bool) (result : EspErr)
  | retune (channel : UInt8)
  | reset

/-- One step; `config` is `CONFIG_ESP_WIFI_AP_CHANNEL`. A device that restarts does nothing but
    boot. -/
def step (config : UInt8) (s : Device) : Act → Option Device
  | .gotIp calls =>
    if s.running then
      let (restart, nvs) := gotIpAlign s calls
      some { s with nvs, running := !restart }
    else none
  | .boot result =>
    if s.running then none
    else
      let (rebootWhy, nvs) := bootReason s.nvs result
      some ⟨nvs, true, loadFlag false (nvs "ap_auto_off"), bootChannel config nvs, rebootWhy⟩
  | .setAutoOff autoOff result =>
    if s.running then
      let (err, nvs) := nvsParamSet s.nvs "ap_auto_off" (.u8 (flagByte autoOff)) result
      some (if err = espOk then { s with nvs, autoOff } else { s with nvs })
    else none
  | .retune channel => if s.running then some { s with channel } else none
  | .reset => if s.running then some { s with running := false } else none

def machine (config : UInt8) : Machine Device Act := ⟨step config⟩

/-- The reboots for the channel in a run. A step that is not possible ends the count. -/
def realigns (config : UInt8) : Device → List Act → Nat
  | _, [] => 0
  | s, a :: as =>
    match step config s a with
    | none => 0
    | some s' =>
      let more := realigns config s' as
      match a with
      | .gotIp calls => if (gotIpAlign s calls).1 then more + 1 else more
      | _ => more

/-- Those of them whose count could not be written to NVS. The guard in NVS is then what it was
    before. -/
def uncounted (config : UInt8) : Device → List Act → Nat
  | _, [] => 0
  | s, a :: as =>
    match step config s a with
    | none => 0
    | some s' =>
      let more := uncounted config s' as
      match a with
      | .gotIp calls =>
        if (gotIpAlign s calls).1 ∧ calls.results 1 ≠ espOk then more + 1 else more
      | _ => more

/-- The association finds the two channels equal, or cannot tell because the configuration of the
    access point is not read. -/
def Device.Aligned (s : Device) (calls : GotIpCalls) : Prop :=
  ∃ primary ∈ calls.apInfo, 1 ≤ primary ∧ primary ≤ 13 ∧
    ¬ (calls.apConfig = true ∧ s.channel ≠ primary)

variable {config p : UInt8} {s s' : Device} {a : Act} {as : List Act} {nvs : Nvs}
  {calls : GotIpCalls} {key key' : String} {v : NvsValue} {result : EspErr}

/-! ### What is written -/

theorem nvsParamSet_of_ne (h : key' ≠ key) : (nvsParamSet nvs key v result).2 key' = nvs key' := by
  unfold nvsParamSet
  split_ifs
  · exact Function.update_of_ne h _ nvs
  · rfl

theorem nvsParamSet_self (h : result = espOk) : (nvsParamSet nvs key v result).2 key = some v := by
  rw [nvsParamSet, if_pos h]
  exact Function.update_self key _ nvs

theorem noteChannel_of_ne (h : key ≠ "ap_chan_learned") :
    noteChannel nvs p result key = nvs key := by
  unfold noteChannel
  split_ifs
  · exact nvsParamSet_of_ne h
  · rfl

/-- A channel fits into the word that it is kept in. -/
theorem channel_word (hp : 1 ≤ p ∧ p ≤ 13) : Int32.ofNat p.toNat ≠ 0 ∧
    (1 ≤ Int32.ofNat p.toNat ∧ Int32.ofNat p.toNat ≤ 13) ∧
      (Int32.ofNat p.toNat).toUInt32.toUInt8 = p := by
  have hall : ∀ k : Nat, k < 14 → 1 ≤ k → Int32.ofNat k ≠ 0 ∧
      (1 ≤ Int32.ofNat k ∧ Int32.ofNat k ≤ 13) ∧
        (Int32.ofNat k).toUInt32.toUInt8 = UInt8.ofNat k := by decide
  have hle : p.toNat ≤ 13 := UInt8.le_iff_toNat_le.mp hp.2
  have hword := hall p.toNat (by omega) (UInt8.le_iff_toNat_le.mp hp.1)
  rwa [UInt8.ofNat_toNat] at hword

/-- The channel is there for the next boot, if it was or could be written. -/
theorem noteChannel_learned (hp : 1 ≤ p ∧ p ≤ 13) (hok : result = espOk) :
    nvsParamGetInt (noteChannel nvs p result "ap_chan_learned") = some (Int32.ofNat p.toNat) := by
  unfold noteChannel
  by_cases hsaved : (nvsParamGetInt (nvs "ap_chan_learned")).getD 0 = Int32.ofNat p.toNat
  · rw [if_neg (not_not.mpr hsaved)]
    cases hget : nvsParamGetInt (nvs "ap_chan_learned") with
    | some saved =>
      rw [hget] at hsaved
      exact congrArg some hsaved
    | none =>
      -- without a channel in NVS, 0 is compared
      rw [hget] at hsaved
      exact absurd hsaved.symm (channel_word hp).1
  · rw [if_pos hsaved, nvsParamSet_self hok]
    rfl

theorem clearGuard_of_ne (h : key ≠ "ap_realign_cnt") : clearGuard nvs result key = nvs key := by
  unfold clearGuard
  cases nvsParamGetInt (nvs "ap_realign_cnt") with
  | none => rfl
  | some rc =>
    dsimp only
    split_ifs
    · exact nvsParamSet_of_ne h
    · rfl

theorem bootReason_of_ne (h : key ≠ "reboot_why") : (bootReason nvs result).2 key = nvs key := by
  unfold bootReason
  cases nvsParamGetStr (nvs "reboot_why") with
  | none => rfl
  | some why =>
    dsimp only
    split_ifs
    · rfl
    · exact nvsParamSet_of_ne h

/-- The next boot takes the channel that was noted. -/
theorem bootChannel_noted (hp : 1 ≤ p ∧ p ≤ 13)
    (h : nvsParamGetInt (nvs "ap_chan_learned") = some (Int32.ofNat p.toNat)) :
    bootChannel config nvs = p := by
  obtain ⟨-, hrange, hword⟩ := channel_word hp
  unfold bootChannel
  rw [h]
  exact (if_pos hrange).trans hword

/-! ### Reboots in a row -/

/-- A restart for the channel: what it needs, and what it leaves in NVS. -/
structure Restarts (s : Device) (calls : GotIpCalls) (primary : UInt8) : Prop where
  apInfo : calls.apInfo = some primary
  range : 1 ≤ primary ∧ primary ≤ 13
  differs : s.channel ≠ primary
  guard : guard s.nvs < 3
  written : (gotIpAlign s calls).2 =
    (nvsParamSet (nvsParamSet (noteChannel s.nvs primary (calls.results 0)) "ap_realign_cnt"
      (.i32 (Realign.guard s.nvs + 1)) (calls.results 1)).2 "reboot_why"
      (.str (realignReason s.channel primary)) (calls.results 2)).2

/-- The guard is what is under its key. -/
theorem guard_congr {nvs' : Nvs} (h : nvs' "ap_realign_cnt" = nvs "ap_realign_cnt") :
    guard nvs' = guard nvs := by
  unfold guard
  rw [h]

theorem guard_noteChannel : guard (noteChannel nvs p result) = guard nvs :=
  guard_congr (noteChannel_of_ne (by decide))

/-- What a restart is about. -/
theorem restarts_of_fst (h : (gotIpAlign s calls).1 = true) :
    ∃ primary, Restarts s calls primary := by
  cases hinfo : calls.apInfo with
  | none => simp [gotIpAlign, hinfo] at h
  | some primary =>
    refine ⟨primary, ?_⟩
    unfold gotIpAlign at h
    rw [hinfo] at h
    dsimp only at h
    split_ifs at h with hrange heq hauto hguard
    have hbelow := hguard
    rw [guard_noteChannel] at hbelow
    refine ⟨hinfo, hrange, heq.2, hbelow, ?_⟩
    unfold gotIpAlign
    rw [hinfo]
    dsimp only
    rw [if_pos hrange, if_neg (not_not.mpr heq), if_neg hauto, if_pos hguard, guard_noteChannel]

/-- An association that does not restart leaves the reason alone, and the guard unless the channels
    are equal. -/
theorem gotIpAlign_quiet (h : (gotIpAlign s calls).1 = false) :
    (gotIpAlign s calls).2 "reboot_why" = s.nvs "reboot_why" ∧
      (¬ s.Aligned calls → guard (gotIpAlign s calls).2 = guard s.nvs) := by
  unfold gotIpAlign at h ⊢
  cases hinfo : calls.apInfo with
  | none => exact ⟨rfl, fun _ => rfl⟩
  | some primary =>
    rw [hinfo] at h
    dsimp only at h ⊢
    split_ifs at h ⊢ with hrange heq
    · exact ⟨noteChannel_of_ne (by decide), fun _ => guard_noteChannel⟩
    · exact ⟨noteChannel_of_ne (by decide), fun _ => guard_noteChannel⟩
    · refine ⟨?_, fun hno => absurd ⟨primary, hinfo, hrange.1, hrange.2, heq⟩ hno⟩
      exact (clearGuard_of_ne (by decide)).trans (noteChannel_of_ne (by decide))
    · exact ⟨rfl, fun _ => rfl⟩

/-- Clearing the guard leaves it, or sets it to 0. -/
theorem guard_clearGuard : guard (clearGuard nvs result) = guard nvs ∨
    guard (clearGuard nvs result) = 0 := by
  unfold clearGuard
  cases nvsParamGetInt (nvs "ap_realign_cnt") with
  | none => exact .inl rfl
  | some rc =>
    dsimp only
    split_ifs with hrc
    · by_cases hok : result = espOk
      · refine .inr ?_
        unfold guard
        rw [nvsParamSet_self hok]
        rfl
      · rw [nvsParamSet, if_neg hok]
        exact .inl rfl
    · exact .inl rfl

/-- Without a restart the guard stays, or is cleared. -/
theorem guard_quiet (h : (gotIpAlign s calls).1 = false) :
    guard (gotIpAlign s calls).2 = guard s.nvs ∨ guard (gotIpAlign s calls).2 = 0 := by
  by_cases halign : s.Aligned calls
  · obtain ⟨primary, hinfo, h1, h13, heq⟩ := halign
    unfold gotIpAlign
    rw [Option.mem_def.mp hinfo]
    dsimp only
    rw [if_pos ⟨h1, h13⟩, if_pos heq]
    exact guard_clearGuard.imp_left fun h => h.trans guard_noteChannel
  · exact .inl ((gotIpAlign_quiet h).2 halign)

/-- A restart is counted, if the count can be written. -/
theorem Restarts.guard_succ (h : Restarts s calls p) (hok : calls.results 1 = espOk) :
    Realign.guard (gotIpAlign s calls).2 = Realign.guard s.nvs + 1 := by
  rw [h.written]
  unfold Realign.guard
  rw [nvsParamSet_of_ne (by decide), nvsParamSet_self hok]
  rfl

/-- And is not if it cannot. -/
theorem Restarts.guard_same (h : Restarts s calls p) (hok : calls.results 1 ≠ espOk) :
    Realign.guard (gotIpAlign s calls).2 = Realign.guard s.nvs := by
  rw [h.written]
  refine guard_congr ?_
  rw [nvsParamSet_of_ne (by decide), nvsParamSet, if_neg hok]
  exact noteChannel_of_ne (by decide)

/-- The steps other than associations do not touch the guard. -/
theorem guard_step (hs : step config s a = some s') (ha : ∀ calls, a ≠ .gotIp calls) :
    guard s'.nvs = guard s.nvs := by
  cases a with
  | gotIp calls => exact absurd rfl (ha calls)
  | boot result =>
    simp only [step] at hs
    split_ifs at hs
    obtain rfl := Option.some.inj hs
    exact guard_congr (bootReason_of_ne (by decide))
  | setAutoOff autoOff result =>
    simp only [step] at hs
    split_ifs at hs <;> obtain rfl := Option.some.inj hs <;>
      exact guard_congr (nvsParamSet_of_ne (by decide))
  | retune | reset =>
    simp only [step] at hs
    split_ifs at hs
    obtain rfl := Option.some.inj hs
    rfl

/-- No association finds the channels equal. -/
def Unaligned (s : Device) : Act → Prop
  | .gotIp calls => ¬ s.Aligned calls
  | _ => True

/-- A guard below the limit can be counted up. -/
theorem guard_add_one {g : Int32} (h : g < 3) : (g + 1).toInt = g.toInt + 1 := by
  have hlt : g.toInt < 3 := Int32.lt_iff_toInt_lt.mp h
  have hge := Int32.minValue_le_toInt g
  rw [Int32.toInt_add]
  have hone : (1 : Int32).toInt = 1 := rfl
  have hmin : Int32.minValue.toInt = -2147483648 := rfl
  rw [hone, Int.bmod_eq_of_le_mul_two] <;> omega

/-- What the guard still allows. -/
def allowed (g : Int32) : Nat := (3 - g.toInt).toNat

theorem allowed_add_one {g : Int32} (h : g < 3) : allowed (g + 1) + 1 = allowed g := by
  have hlt : g.toInt < 3 := Int32.lt_iff_toInt_lt.mp h
  unfold allowed
  rw [guard_add_one h]
  omega

/-- **Runs.** What the guard still allows bounds the restarts that are counted. By induction on the
    run: a restart that is counted takes one off what is allowed. -/
theorem realigns_le (hmeets : (machine config).Meets Unaligned s as) :
    realigns config s as ≤ allowed (guard s.nvs) + uncounted config s as := by
  induction as generalizing s with
  | nil => exact Nat.zero_le _
  | cons a as ih =>
    unfold realigns uncounted
    cases hs : step config s a with
    | none => exact Nat.zero_le _
    | some s' =>
      have hrest := ih ((Machine.meets_cons (M := machine config) hs).mp hmeets).2
      cases a with
      | gotIp calls =>
        have hnvs : s'.nvs = (gotIpAlign s calls).2 := by
          simp only [step] at hs
          split_ifs at hs
          obtain rfl := Option.some.inj hs
          rfl
        rw [hnvs] at hrest
        dsimp only
        by_cases hrestart : (gotIpAlign s calls).1 = true
        · obtain ⟨p, hp⟩ := restarts_of_fst hrestart
          rw [if_pos hrestart]
          by_cases hok : calls.results 1 = espOk
          -- the guard counts the restart, or the sum of those that it does not count
          · rw [hp.guard_succ hok] at hrest
            rw [if_neg fun h => h.2 hok, ← allowed_add_one hp.guard]
            omega
          · rw [hp.guard_same hok] at hrest
            rw [if_pos ⟨hrestart, hok⟩]
            omega
        · rw [(gotIpAlign_quiet (Bool.eq_false_iff.mpr hrestart)).2 hmeets.1] at hrest
          rw [if_neg hrestart, if_neg fun h => hrestart h.1]
          exact hrest
      | boot | setAutoOff | retune | reset =>
        rw [guard_step hs (by simp)] at hrest
        exact hrest

/-- The guard never goes below 0. It is counted up, or cleared. -/
theorem guard_nonneg_step (hs : step config s a = some s') (h : 0 ≤ guard s.nvs) :
    0 ≤ guard s'.nvs := by
  -- Only an association touches the guard.
  by_cases ha : ∃ calls, a = .gotIp calls
  · obtain ⟨calls, rfl⟩ := ha
    simp only [step] at hs
    split_ifs at hs
    obtain rfl := Option.some.inj hs
    show 0 ≤ guard (gotIpAlign s calls).2
    -- A restart for the channel adds one, if the guard was below the limit and the write succeeds.
    by_cases hrestart : (gotIpAlign s calls).1 = true
    · obtain ⟨p, hp⟩ := restarts_of_fst hrestart
      by_cases hok : calls.results 1 = espOk
      · rw [hp.guard_succ hok, Int32.le_iff_toInt_le, guard_add_one hp.guard]
        rw [Int32.le_iff_toInt_le] at h
        exact Int.le_add_one h
      · rw [hp.guard_same hok]
        exact h
    -- Any other association leaves it, or clears it.
    · obtain hsame | hzero := guard_quiet (Bool.eq_false_iff.mpr hrestart)
      · rw [hsame]
        exact h
      · rw [hzero]
        decide
  · rw [guard_step hs fun calls h => ha ⟨calls, h⟩]
    exact h

/-- A device that is off, with this NVS. -/
def off (nvs : Nvs) : Device := ⟨nvs, false, false, 0, []⟩

/-- An association on this channel of a device with an access point on another one. -/
def onChannel (primary : UInt8) : GotIpCalls := ⟨some primary, true, fun _ => espOk⟩

/-- An uplink that is on another channel after every boot. -/
def flapping : List Act :=
  [.gotIp (onChannel 11), .boot espOk, .gotIp (onChannel 1), .boot espOk, .gotIp (onChannel 11),
    .boot espOk, .gotIp (onChannel 1), .gotIp (onChannel 6)]

instance (s : Device) (calls : GotIpCalls) : Decidable (s.Aligned calls) :=
  inferInstanceAs (Decidable (∃ primary ∈ calls.apInfo, _))

instance (s : Device) (a : Act) : Decidable (Unaligned s a) := by
  cases a <;> unfold Unaligned <;> infer_instance

/-- The uplink is on `p`, its channel can be kept, and nothing but a boot changes the channel of the
    access point. -/
def SteadyOn (p : UInt8) (_ : Device) : Act → Prop
  | .gotIp calls => (∀ q ∈ calls.apInfo, q = p) ∧ calls.results 0 = espOk
  | .retune _ => False
  | _ => True

/-- The channel is kept for the boots, and the access point is on it. -/
structure Settled (p : UInt8) (s : Device) : Prop where
  learned : nvsParamGetInt (s.nvs "ap_chan_learned") = some (Int32.ofNat p.toNat)
  channel : s.running = true → s.channel = p

/-- A settled device does not restart for the channel. -/
theorem Settled.fst_eq_false (h : Settled p s) (hrunning : s.running = true)
    (hp : ∀ q ∈ calls.apInfo, q = p) : (gotIpAlign s calls).1 = false := by
  rw [← Bool.not_eq_true]
  intro hrestart
  obtain ⟨q, hq⟩ := restarts_of_fst hrestart
  obtain rfl := hp q hq.apInfo
  exact hq.differs (h.channel hrunning)

/-- An association on `p` keeps the channel that is kept. What else it writes goes to other keys. -/
theorem gotIpAlign_learned (hp : ∀ q ∈ calls.apInfo, q = p)
    (h : nvsParamGetInt (s.nvs "ap_chan_learned") = some (Int32.ofNat p.toNat)) :
    nvsParamGetInt ((gotIpAlign s calls).2 "ap_chan_learned") = some (Int32.ofNat p.toNat) := by
  -- The channel is noted already, so nothing is written under its key.
  have hnote : noteChannel s.nvs p (calls.results 0) = s.nvs := by
    unfold noteChannel
    rw [h]
    exact if_neg (not_not.mpr rfl)
  unfold gotIpAlign
  cases hinfo : calls.apInfo with
  | none => exact h
  | some primary =>
    obtain rfl := hp primary hinfo
    dsimp only
    rw [hnote]
    -- The other keys are different ones, whatever is written under them.
    split_ifs
    · exact h
    · dsimp only
      rw [nvsParamSet_of_ne (by decide), nvsParamSet_of_ne (by decide)]
      exact h
    · exact h
    · dsimp only
      rw [clearGuard_of_ne (by decide)]
      exact h
    · exact h

/-- **One step.** A settled device stays settled: the channel that it boots with is that of the
    uplink, so no association restarts it. -/
theorem settled_step (hp : 1 ≤ p ∧ p ≤ 13) (hsteady : SteadyOn p s a)
    (hs : step config s a = some s') (h : Settled p s) : Settled p s' := by
  -- A boot reads the channel that is noted, and the access point starts on it.
  cases a with
  | gotIp calls =>
    simp only [step] at hs
    split_ifs at hs with hrunning
    obtain rfl := Option.some.inj hs
    exact ⟨gotIpAlign_learned hsteady.1 h.learned, fun _ => h.channel hrunning⟩
  | boot result =>
    simp only [step] at hs
    split_ifs at hs
    obtain rfl := Option.some.inj hs
    have hkept : nvsParamGetInt ((bootReason s.nvs result).2 "ap_chan_learned")
        = some (Int32.ofNat p.toNat) := by
      rw [bootReason_of_ne (by decide)]
      exact h.learned
    exact ⟨hkept, fun _ => bootChannel_noted hp hkept⟩
  | setAutoOff autoOff result =>
    have hkept : nvsParamGetInt ((nvsParamSet s.nvs "ap_auto_off" (.u8 (flagByte autoOff))
        result).2 "ap_chan_learned") = some (Int32.ofNat p.toNat) := by
      rw [nvsParamSet_of_ne (by decide)]
      exact h.learned
    simp only [step] at hs
    split_ifs at hs with hrunning <;> obtain rfl := Option.some.inj hs <;>
      exact ⟨hkept, fun _ => h.channel hrunning⟩
  | retune => exact hsteady.elim
  | reset =>
    simp only [step] at hs
    split_ifs at hs with hrunning
    obtain rfl := Option.some.inj hs
    exact ⟨h.learned, fun _ => h.channel hrunning⟩

/-- After a restart for the channel the device is settled: the next boot takes it. -/
theorem Restarts.settled (h : Restarts s calls p) (hok : calls.results 0 = espOk)
    (hs : step config s (.gotIp calls) = some s') (hrestart : (gotIpAlign s calls).1 = true) :
    Settled p s' := by
  simp only [step] at hs
  split_ifs at hs
  obtain rfl := Option.some.inj hs
  refine ⟨?_, fun hrunning => ?_⟩
  · show nvsParamGetInt ((gotIpAlign s calls).2 "ap_chan_learned") = _
    rw [h.written, nvsParamSet_of_ne (by decide), nvsParamSet_of_ne (by decide)]
    exact noteChannel_learned h.range hok
  · rw [hrestart] at hrunning
    cases hrunning

/-- A settled device never restarts for the channel again. -/
theorem Settled.realigns_eq_zero (hp : 1 ≤ p ∧ p ≤ 13) (h : Settled p s)
    (hmeets : (machine config).Meets (SteadyOn p) s as) : realigns config s as = 0 := by
  induction as generalizing s with
  | nil => rfl
  | cons a as ih =>
    unfold realigns
    cases hs : step config s a with
    | none => rfl
    | some s' =>
      -- After the step the device is settled still, so the rest has no realignment.
      have hrest := ih (settled_step hp hmeets.1 hs h)
        ((Machine.meets_cons (M := machine config) hs).mp hmeets).2
      -- An association of a settled device finds the access point on its channel.
      cases a with
      | gotIp calls =>
        have hrunning : s.running = true := by
          simp only [step] at hs
          split_ifs at hs with hrunning
          exact hrunning
        dsimp only
        rw [h.fst_eq_false hrunning hmeets.1.1]
        exact hrest
      | boot | setAutoOff | retune | reset => exact hrest

/-- **One realignment is enough.** From any state of the device, over any boots, resets and changes
    of the policy: an uplink that stays on its channel makes the device reboot for the channel at
    most once. -/
theorem steady_uplink_realigned_once (config : UInt8) (p : UInt8) (s : Device) (as : List Act)
    (hmeets : (machine config).Meets (SteadyOn p) s as) : realigns config s as ≤ 1 := by
  induction as generalizing s with
  | nil => exact Nat.zero_le _
  | cons a as ih =>
    unfold realigns
    cases hs : step config s a with
    | none => exact Nat.zero_le _
    | some s' =>
      have hafter := ((Machine.meets_cons (M := machine config) hs).mp hmeets).2
      cases a with
      | gotIp calls =>
        dsimp only
        -- The first restart for the channel settles the device; from then on there are none.
        by_cases hrestart : (gotIpAlign s calls).1 = true
        · obtain ⟨q, hq⟩ := restarts_of_fst hrestart
          obtain rfl := hmeets.1.1 q hq.apInfo
          have hsettled := hq.settled hmeets.1.2 hs hrestart
          rw [if_pos hrestart, hsettled.realigns_eq_zero hq.range hafter]
        · rw [if_neg hrestart]
          exact ih s' hafter
      | boot | setAutoOff | retune | reset => exact ih s' hafter

instance (p : UInt8) (s : Device) : (a : Act) → Decidable (SteadyOn p s a)
  | .gotIp calls =>
    @instDecidableAnd (∀ q ∈ calls.apInfo, q = p) (calls.results 0 = espOk)
      (Option.decidableForallMem _) inferInstance
  | .retune _ => instDecidableFalse
  | .boot _ | .setAutoOff _ _ | .reset => instDecidableTrue

/-- The uplink of a new device is on channel 11. -/
theorem new_device_realigned_once :
    realigns 6 (off fun _ => none) [.boot espOk, .gotIp (onChannel 11), .boot espOk,
      .gotIp (onChannel 11), .reset, .boot espOk, .gotIp (onChannel 11)] ≤ 1 :=
  steady_uplink_realigned_once 6 11 _ _ (by decide +kernel)

/-! ### The reason -/

/-- The reason fits into the 28 characters that it is written to, and has no null character. -/
theorem realignReason_fits (channel primary : UInt8) :
    (realignReason channel primary).length ≤ 19 ∧ nul ∉ realignReason channel primary := by
  have hlen : ∀ b : UInt8, (Nat.toDigits 10 b.toNat).length ≤ 3 := fun b =>
    (Nat.length_toDigits_le_iff (by decide) (by decide)).mpr (by have := b.toNat_lt; omega)
  have hnul : ∀ n, nul ∉ Nat.toDigits 10 n :=
    not_mem_toDigits (by decide) (by decide) (by decide)
  unfold realignReason
  constructor
  · have h1 := hlen channel
    have h2 := hlen primary
    have htext : "ch-realign ".toList.length = 11 ∧ "->".toList.length = 2 := ⟨rfl, rfl⟩
    simp only [List.length_append, htext]
    omega
  · simp only [List.mem_append, not_or]
    exact ⟨⟨⟨by decide, hnul _⟩, by decide⟩, hnul _⟩

/-- The reason is written. -/
theorem Restarts.reason (h : Restarts s calls p) (hok : calls.results 2 = espOk) :
    (gotIpAlign s calls).2 "reboot_why" = some (.str (realignReason s.channel p)) := by
  rw [h.written, nvsParamSet_self hok]

/-- What a boot reads of it, and what it leaves. -/
theorem bootReason_of_str {why : List Char} (hwhy : why ≠ [])
    (hnvs : nvs "reboot_why" = some (.str why)) (hok : result = espOk) :
    (bootReason nvs result).1 = (CString.strlcpy 31 why).text ∧
      (bootReason nvs result).2 "reboot_why" = some (.str []) := by
  have hget : nvsParamGetStr (nvs "reboot_why") = some why := by
    rw [hnvs]
    rfl
  unfold bootReason
  rw [hget]
  dsimp only
  rw [if_neg hwhy]
  exact ⟨rfl, nvsParamSet_self hok⟩

/-- A reason that is cleared stays cleared until the next restart for the channel. No other step
    writes the key. -/
theorem reason_step (hquiet : ∀ calls, a = .gotIp calls → (gotIpAlign s calls).1 = false)
    (hs : step config s a = some s') (h : s.nvs "reboot_why" = some (.str [])) :
    s'.nvs "reboot_why" = some (.str []) := by
  -- Only a restart for the channel writes a reason, and a boot clears it.
  cases a with
  | gotIp calls =>
    simp only [step] at hs
    split_ifs at hs
    obtain rfl := Option.some.inj hs
    exact (gotIpAlign_quiet (hquiet calls rfl)).1.trans h
  | boot result =>
    simp only [step] at hs
    split_ifs at hs
    obtain rfl := Option.some.inj hs
    show (bootReason s.nvs result).2 "reboot_why" = _
    unfold bootReason
    rw [h]
    exact h
  | setAutoOff autoOff result =>
    simp only [step] at hs
    split_ifs at hs <;> obtain rfl := Option.some.inj hs <;>
      exact (nvsParamSet_of_ne (by decide)).trans h
  | retune | reset =>
    simp only [step] at hs
    split_ifs at hs
    obtain rfl := Option.some.inj hs
    exact h

/-- No restart for the channel in a run, one step after the other. -/
theorem quiet_of_realigns_eq_zero (hs : step config s a = some s')
    (h : realigns config s (a :: as) = 0) :
    (∀ calls, a = .gotIp calls → (gotIpAlign s calls).1 = false) ∧ realigns config s' as = 0 := by
  unfold realigns at h
  rw [hs] at h
  cases a with
  | gotIp calls =>
    dsimp only at h
    split_ifs at h with hrestart
    exact ⟨fun c hc => by cases hc; exact Bool.eq_false_iff.mpr hrestart, h⟩
  | boot | setAutoOff | retune | reset => exact ⟨by simp, h⟩

/-- Over a run as well. -/
theorem reason_run (hrun : (machine config).run s as = some s') (hnone : realigns config s as = 0)
    (h : s.nvs "reboot_why" = some (.str [])) : s'.nvs "reboot_why" = some (.str []) := by
  induction as generalizing s with
  | nil => exact Option.some.inj hrun ▸ h
  | cons a as ih =>
    obtain ⟨t, hs, hrest⟩ := Machine.run_cons.mp hrun
    obtain ⟨hquiet, hnone'⟩ := quiet_of_realigns_eq_zero hs hnone
    exact ih hrest hnone' (reason_step hquiet hs h)

/-- **The reason is told once.** After a reboot for the channel the next boot tells both channels;
    and no boot after that one tells anything, until the device reboots for the channel again. -/
theorem realign_reported_once (config : UInt8) (s s₁ s₂ t u : Device) (calls : GotIpCalls)
    (as : List Act) (hs : step config s (.gotIp calls) = some s₁)
    (hrestart : (gotIpAlign s calls).1 = true) (hok : calls.results 2 = espOk)
    (hboot : step config s₁ (.boot espOk) = some s₂) (r : EspErr)
    (hrun : (machine config).run s₂ as = some t) (hnone : realigns config s₂ as = 0)
    (hagain : step config t (.boot r) = some u) :
    (∃ primary ∈ calls.apInfo, s₂.rebootWhy = realignReason s.channel primary) ∧
      u.rebootWhy = [] := by
  obtain ⟨p, hp⟩ := restarts_of_fst hrestart
  obtain ⟨hlen, hnul⟩ := realignReason_fits s.channel p
  -- The reason is never empty, so its presence can be told.
  have hwhy : realignReason s.channel p ≠ [] := by
    unfold realignReason
    simp
  have hwritten : s₁.nvs "reboot_why" = some (.str (realignReason s.channel p)) := by
    simp only [step] at hs
    split_ifs at hs
    obtain rfl := Option.some.inj hs
    exact hp.reason hok
  -- The boot tells it and clears it.
  obtain ⟨htold, hcleared⟩ := bootReason_of_str hwhy hwritten rfl
  simp only [step] at hboot
  split_ifs at hboot
  obtain rfl := Option.some.inj hboot
  refine ⟨⟨p, hp.apInfo, ?_⟩, ?_⟩
  · show (bootReason s₁.nvs espOk).1 = _
    rw [htold, CString.text_strlcpy, CString.visible_eq hnul, List.take_of_length_le (by omega)]
  -- It is still clear at the next boot, which therefore tells nothing.
  · have hstill : t.nvs "reboot_why" = some (.str []) := reason_run hrun hnone hcleared
    simp only [step] at hagain
    split_ifs at hagain
    obtain rfl := Option.some.inj hagain
    show (bootReason t.nvs r).1 = []
    unfold bootReason
    rw [hstill]
    rfl

/-- A new device in its first association, on another channel, and after two boots more. -/
theorem first_realign_reported :
    ∃ s s₁ s₂ t u, (machine 6).run (off fun _ => none) [.boot espOk] = some s ∧
      step 6 s (.gotIp (onChannel 11)) = some s₁ ∧ step 6 s₁ (.boot espOk) = some s₂ ∧
      (machine 6).run s₂ [.gotIp (onChannel 11), .reset] = some t ∧
      step 6 t (.boot espOk) = some u ∧
      (∃ primary ∈ (onChannel 11).apInfo, s₂.rebootWhy = realignReason s.channel primary) ∧
      u.rebootWhy = [] :=
  ⟨_, _, _, _, _, rfl, rfl, rfl, rfl, rfl, realign_reported_once 6 _ _ _ _ _ (onChannel 11)
    [.gotIp (onChannel 11), .reset] rfl (by decide +kernel) rfl rfl espOk rfl (by decide +kernel)
    rfl⟩

end Realign

end SubnetRouter.Wifi
