import SubnetRouter.Acl
import SubnetRouter.Lib.PrefixTable
import SubnetRouter.Lib.Run
import SubnetRouter.Settings.Nvs

namespace SubnetRouter.Acl

open Lib Settings

/-!
# The ACL lists as lists of rules (`components/acl/acl.c`, `acl_nvs.c`)

Each list is an array of sixteen slots.  Adding takes the first slot that is not in use, deleting
moves the slots behind up, saving and loading copy the whole array, and checking goes through it.

* `aclMachine` — the code: every call, with its answer.
* `ruleMachine` — what it is for: lists of at most sixteen rules; adding appends, deleting takes
  one out, checking takes the first rule that matches.
* `RuleState.encode` — the rules first, unused slots behind them.
* `acl_refines_rules` — over every run the code gives the answers of the lists, and its arrays
  are their encoding.
-/

/-! ### The calls -/

/-- The blob of one list in NVS: a copy of its array. -/
abbrev AclBlob := { entries : List AclEntry // entries.length = maxAclEntries }

/-- The statics of `acl.c`, and the blobs. -/
structure AclStore where
  lists : AclState
  lastDenyLogTime : Fin maxAclLists → Int
  nvs : Fin maxAclLists → Option AclBlob

attribute [ext] AclStore

/-- `ACL_LOG_INTERVAL_US`. -/
def aclLogIntervalUs : Int := 500000

/-- An array of unused slots. -/
def emptyEntries : AclBlob := ⟨List.replicate maxAclEntries .empty, List.length_replicate⟩

/-- `acl_init`. -/
def aclInit : AclState := fun _ => ⟨emptyEntries.1, ⟨0, 0, 0⟩, emptyEntries.2⟩

/-- `acl_clear`. The statistics of the list stay; the counters of its rules go with them. -/
def aclClear (lists : AclState) (aclNo : Nat) : AclState :=
  if h : aclNo < maxAclLists then
    Function.update lists ⟨aclNo, h⟩
      ⟨emptyEntries.1, (lists ⟨aclNo, h⟩).stats, emptyEntries.2⟩
  else lists

/-- An entry with its counter at zero. -/
def AclEntry.resetHits (e : AclEntry) : AclEntry := { e with hitCount := 0 }

/-- An entry with one more hit. -/
def AclEntry.hit (e : AclEntry) : AclEntry := { e with hitCount := (e.hitCount + 1) % 2 ^ 32 }

/-- `acl_clear_stats`. The rules stay, with their hit counters at zero. -/
def aclClearStats (lists : AclState) (aclNo : Nat) : AclState :=
  if h : aclNo < maxAclLists then
    let l := lists ⟨aclNo, h⟩
    Function.update lists ⟨aclNo, h⟩
      ⟨l.entries.map AclEntry.resetHits, ⟨0, 0, 0⟩, by rw [List.length_map, l.entries_length]⟩
  else lists

/-- The arguments of `acl_add`. The addresses come as the caller has parsed them; `acl_add` masks
    them. -/
structure AclRule where
  src : Ip4
  sMask : Ip4
  dest : Ip4
  dMask : Ip4
  proto : UInt8
  sPort : UInt16
  dPort : UInt16
  allow : UInt8

/-- The entry that `acl_add` stores, with pre-masked addresses. -/
def AclRule.entry (r : AclRule) : AclEntry :=
  ⟨r.src &&& r.sMask, r.sMask, r.dest &&& r.dMask, r.dMask, r.sPort.toNat, r.dPort.toNat, r.proto,
    r.allow, 0, true⟩

/-- `acl_add`. The rule takes the first slot that is not in use; with none left nothing changes. -/
def aclAdd (lists : AclState) (aclNo : Nat) (r : AclRule) : Bool × AclState :=
  if h : aclNo < maxAclLists then
    let l := lists ⟨aclNo, h⟩
    match l.entries.findIdx? fun e => !e.valid with
    | none => (false, lists)
    | some slot => (true, Function.update lists ⟨aclNo, h⟩
        ⟨l.entries.set slot r.entry, l.stats, by rw [List.length_set, l.entries_length]⟩)
  else (false, lists)

/-- `acl_delete`. The rules behind the gap move up, so that the slots in use stay in front. -/
def aclDelete (lists : AclState) (aclNo ruleIdx : Nat) : Bool × AclState :=
  if h : aclNo < maxAclLists then
    let l := lists ⟨aclNo, h⟩
    if ruleIdx < maxAclEntries ∧ (l.entries.getD ruleIdx .empty).valid = true then
      (true, Function.update lists ⟨aclNo, h⟩
        ⟨closeGap AclEntry.valid .empty (maxAclEntries - 1 - ruleIdx) ruleIdx
            (l.entries.set ruleIdx .empty), l.stats,
          by rw [length_closeGap, List.length_set, l.entries_length]⟩)
    else (false, lists)
  else (false, lists)

/-- `acl_check_packet` at time `now`: a denied packet may be logged. The log line is limited to one
    per interval and list, and its time is all that the check keeps of it. -/
def aclCheckPacketAt (s : AclStore) (aclNo : Nat) (now : Int) (p : Option (List UInt8)) :
    AclAction × AclStore :=
  let checked := aclCheckPacket s.lists aclNo p
  (checked.1, { s with
    lists := checked.2
    lastDenyLogTime := fun n =>
      if n.val = aclNo ∧ checked.1 = .deny ∧ aclLogIntervalUs ≤ now - s.lastDenyLogTime n then now
      else s.lastDenyLogTime n })

/-- `save_acl_rules`; only the last result is returned. A list whose `nvs_set_blob` fails is only
    logged, and keeps what it had in NVS. -/
def saveAclRules (s : AclStore) (openResult : EspErr) (setResult : Fin maxAclLists → EspErr)
    (commitResult : EspErr) : EspErr × AclStore :=
  if openResult ≠ espOk then (openResult, s)
  else (commitResult, { s with
    nvs := fun n =>
      if setResult n = espOk then some ⟨(s.lists n).entries, (s.lists n).entries_length⟩
      else s.nvs n })

/-- `load_acl_rules`; counters do not persist. A list whose key is missing, or cannot be read,
    starts empty. -/
def loadAclRules (s : AclStore) (openResult : EspErr) (getResult : Fin maxAclLists → EspErr) :
    AclStore :=
  if openResult ≠ espOk then { s with lists := aclInit }
  else { s with
    lists := fun n => match s.nvs n with
      | some blob =>
        if getResult n = espOk then
          ⟨blob.1.map fun e => if e.valid then e.resetHits else e, ⟨0, 0, 0⟩,
            by rw [List.length_map, blob.2]⟩
        else aclInit n
      | none => aclInit n }

/-- The rules that `firewall_handler` shows of a list, with their indices. -/
def firewallRules (l : AclList) : List (AclEntry × Nat) :=
  (l.entries.takeWhile AclEntry.valid).zipIdx

/-! ### The code as a machine -/

/-- A call of the module: an edit, a packet, a save or a load, or a listing as the web page and the
    console make it. -/
inductive AclCall where
  | add (aclNo : Nat) (r : AclRule)
  | delete (aclNo ruleIdx : Nat)
  | clear (aclNo : Nat)
  | clearStats (aclNo : Nat)
  | check (aclNo : Nat) (now : Int) (p : Option (List UInt8))
  | save (openResult : EspErr) (setResult : Fin maxAclLists → EspErr) (commitResult : EspErr)
  | load (openResult : EspErr) (getResult : Fin maxAclLists → EspErr)
  | listing (n : Fin maxAclLists)

/-- An answer of the module, which is what its callers can tell apart. -/
inductive AclAnswer where
  | done
  | success (ok : Bool)
  | action (a : AclAction)
  | err (e : EspErr)
  | rules (shown : List (AclEntry × Nat))

/-- The code, as a machine that answers calls. Its state are the arrays, the times of the last log
    lines and NVS. -/
def aclMachine : Reactive AclStore AclCall AclAnswer where
  step s
    | .add aclNo r =>
      let added := aclAdd s.lists aclNo r
      (.success added.1, { s with lists := added.2 })
    | .delete aclNo ruleIdx =>
      let deleted := aclDelete s.lists aclNo ruleIdx
      (.success deleted.1, { s with lists := deleted.2 })
    | .clear aclNo => (.done, { s with lists := aclClear s.lists aclNo })
    | .clearStats aclNo => (.done, { s with lists := aclClearStats s.lists aclNo })
    | .check aclNo now p =>
      let checked := aclCheckPacketAt s aclNo now p
      (.action checked.1, checked.2)
    | .save openResult setResult commitResult =>
      let saved := saveAclRules s openResult setResult commitResult
      (.err saved.1, saved.2)
    | .load openResult getResult => (.err espOk, loadAclRules s openResult getResult)
    | .listing n => (.rules (firewallRules (s.lists n)), s)

/-! ### Lists of rules -/

/-- A list of at most sixteen rules. -/
structure RuleList where
  rules : List AclEntry
  length_le : rules.length ≤ maxAclEntries
  valid : ∀ r ∈ rules, r.valid = true

/-- The rules, the statistics and the time of the last log of each list, and the rules that are
    saved. -/
structure RuleState where
  rules : Fin maxAclLists → RuleList
  stats : Fin maxAclLists → AclStats
  lastDenyLogTime : Fin maxAclLists → Int
  saved : Fin maxAclLists → Option RuleList

namespace RuleList

/-- No rules. -/
def nil : RuleList := ⟨[], Nat.zero_le _, nofun⟩

/-- One more rule at the end, if there is room. In the abstract there are no slots: a list is the
    rules in their order. -/
def append (l : RuleList) (r : AclRule) : Option RuleList :=
  if h : l.rules.length < maxAclEntries then
    some ⟨l.rules ++ [r.entry], by rw [List.length_append]; exact h, by
      intro e he
      rcases List.mem_append.mp he with he | he
      · exact l.valid e he
      · rw [List.mem_singleton.mp he]
        rfl⟩
  else none

/-- Without the rule at an index, if there is one. The rules behind it take the indices before
    theirs. -/
def remove (l : RuleList) (i : Nat) : Option RuleList :=
  if i < l.rules.length then
    some ⟨l.rules.eraseIdx i, Nat.le_trans (List.length_eraseIdx_le ..) l.length_le,
      fun e he => l.valid e (List.mem_of_mem_eraseIdx he)⟩
  else none

/-- One more hit of the rule at an index. The rule stays as it is otherwise, so the list is as valid
    as before. -/
def hit (l : RuleList) (i : Nat) : RuleList where
  rules := l.rules.modify i AclEntry.hit
  length_le := by rw [List.length_modify]; exact l.length_le
  valid := by
    intro e he
    obtain ⟨j, hj⟩ := List.mem_iff_getElem?.mp he
    rw [List.getElem?_modify, Option.map_eq_map, Option.map_eq_some_iff] at hj
    obtain ⟨r, hr, rfl⟩ := hj
    have hvalid : r.valid = true := l.valid r (List.mem_of_getElem? hr)
    split
    · exact hvalid
    · exact hvalid

/-- All counters at zero. -/
def resetHits (l : RuleList) : RuleList where
  rules := l.rules.map AclEntry.resetHits
  length_le := by rw [List.length_map]; exact l.length_le
  valid := by
    intro e he
    obtain ⟨r, hr, rfl⟩ := List.mem_map.mp he
    exact l.valid r hr

/-- The first rule that matches a packet. -/
def firstMatch (l : RuleList) (pkt : PacketInfo) : Option Nat :=
  l.rules.findIdx? fun r => r.matchesPacket pkt

/-- Its array: the rules first, unused slots behind them. -/
def entries (l : RuleList) : AclBlob :=
  ⟨tableOf maxAclEntries .empty l.rules, length_tableOf l.length_le⟩

end RuleList

namespace RuleState

/-- Replace one list, or fail and leave everything alone. All the edits go through it, and with them
    the test of the list's number. -/
def replace (a : RuleState) (aclNo : Nat) (change : RuleList → Option RuleList) :
    Bool × RuleState :=
  if h : aclNo < maxAclLists then
    match change (a.rules ⟨aclNo, h⟩) with
    | some l => (true, { a with rules := Function.update a.rules ⟨aclNo, h⟩ l })
    | none => (false, a)
  else (false, a)

/-- The first rule that matches decides; it counts the packet, and so do the statistics.  A
    frame that cannot be read is answered without either. -/
def check (a : RuleState) (aclNo : Nat) (now : Int) (p : Option (List UInt8)) :
    AclAction × RuleState :=
  if h : aclNo < maxAclLists then
    match p.bind parsePacket with
    | none => (.noMatch, a)
    | some pkt =>
      let n : Fin maxAclLists := ⟨aclNo, h⟩
      match (a.rules n).firstMatch pkt with
      | none =>
        (.noMatch, { a with stats := Function.update a.stats n ((a.stats n).count .noMatch) })
      | some i =>
        let action := ((a.rules n).rules.getD i .empty).action
        let logged := action = .deny ∧ aclLogIntervalUs ≤ now - a.lastDenyLogTime n
        (action, { a with
          rules := Function.update a.rules n ((a.rules n).hit i)
          stats := Function.update a.stats n ((a.stats n).count action)
          lastDenyLogTime :=
            if logged then Function.update a.lastDenyLogTime n now else a.lastDenyLogTime })
  else (.noMatch, a)

/-- The arrays, the statistics and the blobs of lists of rules. -/
def encode (a : RuleState) : AclStore where
  lists n := ⟨(a.rules n).entries.1, a.stats n, (a.rules n).entries.2⟩
  lastDenyLogTime := a.lastDenyLogTime
  nvs n := (a.saved n).map RuleList.entries

end RuleState

/-- Lists of rules as a machine: what the array of the source stands for, without slots, gaps and
    validity flags. -/
def ruleMachine : Reactive RuleState AclCall AclAnswer where
  step a
    | .add aclNo r =>
      let added := a.replace aclNo fun l => l.append r
      (.success added.1, added.2)
    | .delete aclNo ruleIdx =>
      let deleted := a.replace aclNo fun l => l.remove ruleIdx
      (.success deleted.1, deleted.2)
    | .clear aclNo => (.done, (a.replace aclNo fun _ => some .nil).2)
    | .clearStats aclNo => (.done,
      if h : aclNo < maxAclLists then
        { a with
          rules := Function.update a.rules ⟨aclNo, h⟩ (a.rules ⟨aclNo, h⟩).resetHits
          stats := Function.update a.stats ⟨aclNo, h⟩ ⟨0, 0, 0⟩ }
      else a)
    | .check aclNo now p =>
      let checked := a.check aclNo now p
      (.action checked.1, checked.2)
    | .save openResult setResult commitResult =>
      if openResult ≠ espOk then (.err openResult, a)
      else (.err commitResult, { a with
        saved := fun n => if setResult n = espOk then some (a.rules n) else a.saved n })
    | .load openResult getResult => (.err espOk, { a with
      rules := fun n => match a.saved n with
        | some l => if openResult = espOk ∧ getResult n = espOk then l.resetHits else .nil
        | none => .nil
      stats := fun _ => ⟨0, 0, 0⟩ })
    | .listing n => (.rules (a.rules n).rules.zipIdx, a)

/-! ### The code refines the lists -/

variable {l : RuleList} {a : RuleState} {pkt : PacketInfo}

theorem not_matchesPacket_empty : AclEntry.empty.matchesPacket pkt = false := rfl

/-- The hit of the first match, by its index. -/
theorem countHit_eq (rs : List AclEntry) :
    countHit pkt rs = match rs.findIdx? fun r => r.matchesPacket pkt with
      | some i => rs.modify i AclEntry.hit
      | none => rs := by
  induction rs with
  | nil => rfl
  | cons r rs ih =>
    rw [countHit, List.findIdx?_cons]
    cases r.matchesPacket pkt with
    | true => rfl
    | false =>
      simp only [Bool.false_eq_true, if_false, ih]
      cases rs.findIdx? fun r => r.matchesPacket pkt <;> rfl

/-- The decision, by the index of the first match. -/
theorem decision_eq_findIdx? (rs : List AclEntry) :
    decision rs pkt = match rs.findIdx? fun r => r.matchesPacket pkt with
      | some i => (rs.getD i .empty).action
      | none => .noMatch := by
  induction rs with
  | nil => rfl
  | cons r rs ih =>
    rw [decision, List.find?_cons, List.findIdx?_cons]
    cases r.matchesPacket pkt with
    | true => rfl
    | false =>
      rw [decision] at ih
      simp only [Bool.false_eq_true, if_false, ih]
      cases rs.findIdx? fun r => r.matchesPacket pkt <;> rfl

/-- Unused slots decide nothing. -/
theorem decision_entries (l : RuleList) (pkt : PacketInfo) :
    decision l.entries.1 pkt = decision l.rules pkt := by
  have hfind : l.entries.1.find? (fun r => r.matchesPacket pkt) =
      l.rules.find? fun r => r.matchesPacket pkt := find?_tableOf not_matchesPacket_empty
  rw [decision, decision, hfind]

theorem countHit_replicate (k : Nat) :
    countHit pkt (List.replicate k .empty) = List.replicate k .empty := by
  induction k with
  | zero => rfl
  | succ k ih =>
    rw [List.replicate_succ, countHit, ih]
    rfl

/-- Unused slots count nothing. -/
theorem countHit_append_empty (rs : List AclEntry) (k : Nat) :
    countHit pkt (rs ++ List.replicate k .empty) =
      countHit pkt rs ++ List.replicate k .empty := by
  induction rs with
  | nil => exact countHit_replicate k
  | cons r rs ih =>
    rw [List.cons_append, countHit, countHit, ih]
    split <;> rfl

theorem countHit_entries {l l' : RuleList} (h : l'.rules = countHit pkt l.rules) :
    countHit pkt l.entries.1 = l'.entries.1 := by
  show countHit pkt (l.rules ++ _) = l'.rules ++ _
  rw [countHit_append_empty, h, length_countHit]

/-- Two lists of `acl_lists` and `acl_stats` are equal if their arrays and statistics are. -/
theorem AclList.ext {l l' : AclList} (hentries : l.entries = l'.entries)
    (hstats : l.stats = l'.stats) : l = l' := by
  cases l
  cases l'
  simp_all

/-- The array of one list after its rules and statistics changed. -/
theorem update_encode {n : Fin maxAclLists} {x : AclList} (l : RuleList) (st : AclStats)
    (hentries : x.entries = l.entries.1) (hstats : x.stats = st) :
    Function.update a.encode.lists n x = (RuleState.encode { a with
      rules := Function.update a.rules n l
      stats := Function.update a.stats n st }).lists := by
  funext m
  by_cases hm : m = n
  · subst hm
    apply AclList.ext
    · simp [RuleState.encode, hentries]
    · simp [RuleState.encode, hstats]
  · simp [RuleState.encode, hm]

/-- The same when the statistics do not change. -/
theorem update_encode_rules {n : Fin maxAclLists} {x : AclList} (l : RuleList)
    (hentries : x.entries = l.entries.1) (hstats : x.stats = a.stats n) :
    Function.update a.encode.lists n x =
      (RuleState.encode { a with rules := Function.update a.rules n l }).lists := by
  rw [update_encode l (a.stats n) hentries hstats, Function.update_eq_self]

/-- **Adding appends.** -/
theorem aclAdd_encode (a : RuleState) (aclNo : Nat) (r : AclRule) :
    let added := a.replace aclNo fun l => l.append r
    aclAdd a.encode.lists aclNo r = (added.1, added.2.encode.lists) := by
  unfold aclAdd RuleState.replace
  by_cases hno : aclNo < maxAclLists
  · rw [dif_pos hno, dif_pos hno]
    let n : Fin maxAclLists := ⟨aclNo, hno⟩
    -- the first slot that is not in use is the one behind the rules
    have hslot : (a.encode.lists n).entries.findIdx? (fun e => !e.valid) =
        if (a.rules n).rules.length < maxAclEntries then some (a.rules n).rules.length else none :=
      findIdx?_tableOf rfl (a.rules n).valid
    by_cases hroom : (a.rules n).rules.length < maxAclEntries
    · rw [if_pos hroom] at hslot
      simp only [n] at hslot hroom
      simp only [hslot, RuleList.append, dif_pos hroom]
      congr 1
      exact update_encode_rules _ (set_tableOf hroom) rfl
    · rw [if_neg hroom] at hslot
      simp only [n] at hslot hroom
      simp only [hslot, RuleList.append, dif_neg hroom]
  · rw [dif_neg hno, dif_neg hno]

/-- **Deleting removes.** The loop that moves the rules up gives the array of the list without that
    rule, and an index that is no rule's changes neither. -/
theorem aclDelete_encode (a : RuleState) (aclNo ruleIdx : Nat) :
    let deleted := a.replace aclNo fun l => l.remove ruleIdx
    aclDelete a.encode.lists aclNo ruleIdx = (deleted.1, deleted.2.encode.lists) := by
  unfold aclDelete RuleState.replace
  by_cases hno : aclNo < maxAclLists
  · rw [dif_pos hno, dif_pos hno]
    let n : Fin maxAclLists := ⟨aclNo, hno⟩
    by_cases hidx : ruleIdx < (a.rules n).rules.length
    · -- the slot is in use, and the gap is closed
      have hsize := (a.rules n).length_le
      have hused : ruleIdx < maxAclEntries ∧
          ((a.encode.lists n).entries.getD ruleIdx .empty).valid = true := by
        refine ⟨by omega, ?_⟩
        have hget : (a.encode.lists n).entries[ruleIdx]? = (a.rules n).rules[ruleIdx]? :=
          getElem?_tableOf_of_lt hidx
        rw [List.getD_eq_getElem?_getD, hget, List.getElem?_eq_getElem hidx, Option.getD_some]
        exact (a.rules n).valid _ (List.getElem_mem hidx)
      simp only [n] at hidx hused hsize
      simp only [if_pos hused, RuleList.remove, if_pos hidx]
      congr 1
      exact update_encode_rules _ (closeGap_tableOf rfl (a.rules n).valid hsize hidx) rfl
    · -- behind the rules no slot is in use
      have hfree : ¬ (ruleIdx < maxAclEntries ∧
          ((a.encode.lists n).entries.getD ruleIdx .empty).valid = true) := by
        rintro ⟨-, hvalid⟩
        have hunused : ((a.encode.lists n).entries.getD ruleIdx .empty).valid = false :=
          not_used_of_length_le rfl (Nat.le_of_not_lt hidx)
        exact absurd hvalid (by rw [hunused]; exact Bool.false_ne_true)
      simp only [n] at hidx hfree
      simp only [if_neg hfree, RuleList.remove, if_neg hidx]
  · rw [dif_neg hno, dif_neg hno]

theorem aclClear_encode (a : RuleState) (aclNo : Nat) :
    aclClear a.encode.lists aclNo = (a.replace aclNo fun _ => some .nil).2.encode.lists := by
  unfold aclClear RuleState.replace
  by_cases hno : aclNo < maxAclLists
  · rw [dif_pos hno, dif_pos hno]
    exact update_encode_rules RuleList.nil rfl rfl
  · rw [dif_neg hno, dif_neg hno]

theorem entries_resetHits (l : RuleList) :
    l.entries.1.map AclEntry.resetHits = l.resetHits.entries.1 := map_tableOf rfl

/-- The time of the last log, list by list. -/
theorem lastDenyLogTime_eq (last : Fin maxAclLists → Int) (n : Fin maxAclLists) (now : Int)
    (action : AclAction) :
    (fun m : Fin maxAclLists =>
        if m.val = n.val ∧ action = .deny ∧ aclLogIntervalUs ≤ now - last m then now else last m) =
      if action = .deny ∧ aclLogIntervalUs ≤ now - last n then Function.update last n now
      else last := by
  funext m
  by_cases hm : m = n
  · subst hm
    by_cases hlog : action = .deny ∧ aclLogIntervalUs ≤ now - last m
    · rw [if_pos hlog, if_pos ⟨rfl, hlog⟩, Function.update_self]
    · rw [if_neg hlog, if_neg (fun h => hlog h.2)]
  · have hval : m.val ≠ n.val := fun h => hm (Fin.ext h)
    rw [if_neg (fun h => hval h.1)]
    split
    · rw [Function.update_of_ne hm]
    · rfl

/-- **Checking takes the first match.** The scan over the slots and the search in the list find the
    same rule, and count the same. -/
theorem aclCheckPacketAt_encode (a : RuleState) (aclNo : Nat) (now : Int)
    (p : Option (List UInt8)) :
    let checked := a.check aclNo now p
    aclCheckPacketAt a.encode aclNo now p = (checked.1, checked.2.encode) := by
  unfold aclCheckPacketAt aclCheckPacket RuleState.check
  by_cases hno : aclNo < maxAclLists
  · rw [dif_pos hno, dif_pos hno]
    cases p.bind parsePacket with
    | none => simp
    | some pkt =>
      have hdecision : decision (a.encode.lists ⟨aclNo, hno⟩).entries pkt = _ :=
        (decision_entries _ pkt).trans (decision_eq_findIdx? _)
      have hcount : countHit pkt (a.rules ⟨aclNo, hno⟩).rules = _ := countHit_eq _
      simp only [RuleList.firstMatch]
      cases hfirst : (a.rules ⟨aclNo, hno⟩).rules.findIdx? fun r => r.matchesPacket pkt with
      | none =>
        -- only the statistics change
        simp only [hfirst] at hdecision hcount
        simp only [hdecision]
        refine Prod.ext rfl (AclStore.ext ?_ (by simp [RuleState.encode]) rfl)
        rw [update_encode _ _ (countHit_entries hcount.symm) rfl, Function.update_eq_self]
        rfl
      | some i =>
        -- the hit is counted at the rule, and a denial is logged if it is time
        simp only [hfirst] at hdecision hcount
        simp only [hdecision]
        refine Prod.ext rfl (AclStore.ext ?_ ?_ rfl)
        · exact update_encode ((a.rules ⟨aclNo, hno⟩).hit i) _ (countHit_entries hcount.symm) rfl
        · exact lastDenyLogTime_eq a.lastDenyLogTime ⟨aclNo, hno⟩ now _
  · rw [dif_neg hno, dif_neg hno]
    simp

/-- A failed change leaves the saved rules and the times alone, and so does one that succeeds. -/
theorem encode_replace (a : RuleState) (aclNo : Nat) (change : RuleList → Option RuleList) :
    (a.replace aclNo change).2.encode =
      { a.encode with lists := (a.replace aclNo change).2.encode.lists } := by
  unfold RuleState.replace
  split
  · split <;> rfl
  · rfl

/-- Counters that are reset at a load. -/
theorem entries_load (l : RuleList) :
    (l.entries.1.map fun e => if e.valid then e.resetHits else e) = l.resetHits.entries.1 := by
  have hmap : l.entries.1.map (fun e => if e.valid then e.resetHits else e) =
      tableOf maxAclEntries .empty (l.rules.map fun e => if e.valid then e.resetHits else e) :=
    map_tableOf rfl
  have hrules : l.rules.map (fun e => if e.valid then e.resetHits else e) =
      l.rules.map AclEntry.resetHits :=
    List.map_congr_left fun e he => by rw [if_pos (l.valid e he)]
  rw [hmap, hrules]
  rfl

/-- **Loading gives the saved rules back**, list by list: with their counters at zero, and without
    any where the list cannot be read. -/
theorem loadAclRules_encode (a : RuleState) (openResult : EspErr)
    (getResult : Fin maxAclLists → EspErr) :
    loadAclRules a.encode openResult getResult = RuleState.encode { a with
      rules := fun n => match a.saved n with
        | some l => if openResult = espOk ∧ getResult n = espOk then l.resetHits else .nil
        | none => .nil
      stats := fun _ => ⟨0, 0, 0⟩ } := by
  unfold loadAclRules
  by_cases hopen : openResult = espOk
  · rw [if_neg (by simp [hopen])]
    refine AclStore.ext ?_ rfl rfl
    funext n
    cases hsaved : a.saved n with
    | none => simp [RuleState.encode, hsaved]; rfl
    | some l =>
      by_cases hget : getResult n = espOk
      · simp only [RuleState.encode, hsaved, Option.map_some, hopen, hget, and_self, if_true]
        exact AclList.ext (entries_load l) rfl
      · simp [RuleState.encode, hsaved, hget]; rfl
  · -- NVS cannot be opened, so nothing is loaded after the reset
    rw [if_pos hopen]
    refine AclStore.ext ?_ rfl rfl
    funext n
    cases hsaved : a.saved n with
    | none => simp [RuleState.encode, hsaved]; rfl
    | some l => simp [RuleState.encode, hsaved, hopen]; rfl

/-- One call. Whatever is called, the arrays stand for the lists before it and after it, and the
    answers are the same. -/
theorem aclMachine_step (a : RuleState) (c : AclCall) :
    aclMachine.step a.encode c = ((ruleMachine.step a c).1, (ruleMachine.step a c).2.encode) := by
  cases c with
  | add aclNo r =>
    simp only [aclMachine, ruleMachine, aclAdd_encode]
    rw [encode_replace]
  | delete aclNo ruleIdx =>
    simp only [aclMachine, ruleMachine, aclDelete_encode]
    rw [encode_replace]
  | clear aclNo =>
    simp only [aclMachine, ruleMachine, aclClear_encode]
    rw [encode_replace]
  | clearStats aclNo =>
    simp only [aclMachine, ruleMachine, aclClearStats]
    split
    · rw [update_encode _ _ (entries_resetHits _) rfl]
      rfl
    · rfl
  | check aclNo now p =>
    simp only [aclMachine, ruleMachine, aclCheckPacketAt_encode]
  | save openResult setResult commitResult =>
    simp only [aclMachine, ruleMachine, saveAclRules]
    split
    · rfl
    · -- each blob that is written is the array of its list
      refine Prod.ext rfl (AclStore.ext rfl rfl ?_)
      funext n
      simp only [RuleState.encode]
      split <;> rfl
  | load openResult getResult =>
    simp only [aclMachine, ruleMachine]
    rw [loadAclRules_encode]
  | listing n =>
    have hrules : (a.encode.lists n).entries.takeWhile AclEntry.valid = (a.rules n).rules :=
      takeWhile_tableOf rfl (a.rules n).valid
    simp only [aclMachine, ruleMachine, firewallRules, hrules]

/-- The statics after a reset, with the rules that earlier runs saved in NVS. Nothing is loaded
    yet. -/
def RuleState.boot (saved : Fin maxAclLists → Option RuleList) : RuleState where
  rules _ := .nil
  stats _ := ⟨0, 0, 0⟩
  lastDenyLogTime _ := 0
  saved := saved

/-- **The ACL lists are lists of rules.** Over every run of calls, with any failures of NVS, the
    code answers as the lists do, and its arrays hold their rules first, unused slots behind. -/
theorem acl_refines_rules (saved : Fin maxAclLists → Option RuleList) (calls : List AclCall) :
    let a := ruleMachine.run (.boot saved) calls
    aclMachine.run ⟨aclInit, fun _ => 0, fun n => (saved n).map RuleList.entries⟩ calls =
      (a.1, a.2.encode) :=
  Reactive.run_encode aclMachine_step (.boot saved) calls

/-! ### A denied packet is logged -/

/-- A rule that denies everything. -/
def denyAll : AclRule := ⟨0, 0, 0, 0, 0, 0, 0, 0⟩

/-- A UDP packet from 10.0.0.1, without payload. -/
def udpPacket : List UInt8 :=
  [0x45, 0, 0, 20, 0, 0, 0, 0, 64, 17, 0, 0, 10, 0, 0, 1, 10, 0, 0, 2]

/-- Half a second after the reset a denied packet sets the time of the last log, too. -/
theorem denied_packet_sets_log_time :
    ¬ ∀ (calls : List AclCall) (aclNo : Nat) (now : Int) (p : List UInt8),
      let s := (aclMachine.run ⟨aclInit, fun _ => 0, fun _ => none⟩ calls).2
      (aclCheckPacketAt s aclNo now (some p)).2.lastDenyLogTime = s.lastDenyLogTime := by
  intro h
  have htime := congrFun (h [.add 0 denyAll] 0 500000 udpPacket) aclToEsp
  revert htime
  decide

end SubnetRouter.Acl
