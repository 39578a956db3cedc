import Mathlib.Algebra.Group.Nat.Defs
import Mathlib.Data.List.Basic
import SubnetRouter.Settings.Nvs

namespace SubnetRouter.Ota

open Settings

/-!
# The firmware upload (`main/ota.c`)

The body of a request goes piece by piece into the inactive OTA partition, which becomes the boot
partition at the end.

* `uploadLoop`, `otaUploadHandler` — the code.
* `uploadLoop_complete` — a loop that does not fail has written the whole body, in order.
* `upload_all_or_nothing` — when the boot partition is switched, and the clean-up on every path.
* `failed_malloc_frees_nothing` — without a buffer there is nothing to free.
-/

/-! ### The code -/

def otaHttpRxBuf : Int := 2048

/-- `ESP_FAIL`. -/
def espFail : EspErr := -1

/-- A request with a body of as many bytes as it announces, in a `size_t`. -/
structure OtaRequest where
  body : List UInt8
  length_lt : body.length < 2 ^ 32

/-- `req->content_len`. -/
def OtaRequest.contentLen (req : OtaRequest) : BitVec 32 := BitVec.ofNat 32 req.body.length

/-- What the calls return: `esp_ota_get_next_update_partition`, `esp_ota_begin`, `malloc`, each
    `httpd_req_recv` with the `esp_ota_write` after it (and then the connection is closed),
    `esp_ota_end` after what was written, `esp_ota_set_boot_partition`, `httpd_resp_sendstr`. -/
structure OtaEnv where
  partition : Option Nat
  otaBegin : EspErr
  heap : Bool
  transfers : List (Int × EspErr)
  otaEnd : List UInt8 → EspErr
  setBoot : EspErr
  sendstr : EspErr

/-- The calls that count, with what they return; `malloc` only if there is a buffer. Their order is
    what the handler is judged by. -/
inductive OtaCall where
  | otaBegin (err : EspErr)
  | malloc
  | write (data : List UInt8) (err : EspErr)
  | free
  | abort
  | otaEnd (err : EspErr)
  | setBoot (target : Nat) (err : EspErr)
deriving DecidableEq, Repr

/-- What the client is told. The texts are those of the source. -/
inductive OtaReply where
  /-- `HTTPD_400_BAD_REQUEST`. -/
  | badRequest (text : String)
  /-- `HTTPD_500_INTERNAL_SERVER_ERROR`. -/
  | serverError (text : String)
  /-- The same, with `esp_err_to_name`. -/
  | named (err : EspErr)
  /-- `httpd_resp_send_500`. -/
  | send500
  | json (text : String)
deriving DecidableEq, Repr

/-- What the handler returns, its reply, its calls and the boot partition. The partition changes
    only in the last of the calls. -/
structure OtaRun where
  ret : EspErr
  reply : OtaReply
  calls : List OtaCall
  boot : Nat

/-- The bytes that were written. -/
def written (calls : List OtaCall) : List UInt8 :=
  calls.flatMap fun
    | .write data err => if err = espOk then data else []
    | _ => []

/-- The loop, on the bytes that the client still has to send: its calls, and its reply if it fails;
    `httpd_req_recv` returns no more bytes than are wanted. -/
def uploadLoop (rest : List UInt8) (remaining : Int) (transfers : List (Int × EspErr)) :
    List OtaCall × Option OtaReply :=
  if remaining ≤ 0 then ([], none)
  else
    match transfers with
    | [] => ([], some (.serverError "recv failed"))
    | (result, err) :: transfers =>
      let wanted := if remaining < otaHttpRxBuf then remaining else otaHttpRxBuf
      let received := min result wanted
      if received ≤ 0 then ([], some (.serverError "recv failed"))
      else
        let data := rest.take received.toNat
        if err ≠ espOk then ([.write data err], some (.named err))
        else
          let next := uploadLoop (rest.drop received.toNat) (remaining - received) transfers
          (.write data err :: next.1, next.2)

/-- `ota_upload_handler`; `remaining` is an `int`. Each failure ends it with the calls that undo
    what was begun, except behind `esp_ota_end`, which closes the handle itself. -/
def otaUploadHandler (req : OtaRequest) (env : OtaEnv) (boot : Nat) : OtaRun :=
  if req.contentLen = 0 then ⟨espFail, .badRequest "empty body", [], boot⟩
  else
    match env.partition with
    | none => ⟨espFail, .serverError "no OTA partition available", [], boot⟩
    | some target =>
      if env.otaBegin ≠ espOk then
        ⟨espFail, .named env.otaBegin, [.otaBegin env.otaBegin], boot⟩
      else if !env.heap then ⟨espFail, .send500, [.otaBegin espOk, .abort], boot⟩
      else
        match uploadLoop req.body req.contentLen.toInt env.transfers with
        | (calls, some reply) =>
          ⟨espFail, reply, [.otaBegin espOk, .malloc] ++ calls ++ [.free, .abort], boot⟩
        | (calls, none) =>
          let ended := env.otaEnd (written calls)
          let calls := [.otaBegin espOk, .malloc] ++ calls ++ [.free, .otaEnd ended]
          if ended ≠ espOk then ⟨espFail, .named ended, calls, boot⟩
          else
            let calls := calls ++ [.setBoot target env.setBoot]
            if env.setBoot ≠ espOk then ⟨espFail, .named env.setBoot, calls, boot⟩
            else ⟨env.sendstr, .json "\x7b\"ok\":true,\"reboot_required\":true\x7d", calls, target⟩

/-! ### What is said of a run -/

/-- `esp_ota_set_boot_partition` was called and succeeded. -/
def OtaRun.Switched (r : OtaRun) : Prop := ∃ target, .setBoot target espOk ∈ r.calls

/-- The calls that end what `esp_ota_begin` has begun. -/
def OtaCall.closes : OtaCall → Bool
  | abort => true
  | otaEnd _ => true
  | _ => false

/-! ### The loop -/

variable {rest : List UInt8} {remaining result : Int} {err : EspErr}
  {transfers : List (Int × EspErr)}

theorem uploadLoop_done (h : remaining ≤ 0) (rest : List UInt8)
    (transfers : List (Int × EspErr)) : uploadLoop rest remaining transfers = ([], none) := by
  unfold uploadLoop
  rw [if_pos h]

theorem uploadLoop_closed (h : ¬ remaining ≤ 0) (rest : List UInt8) :
    uploadLoop rest remaining [] = ([], some (.serverError "recv failed")) := by
  unfold uploadLoop
  rw [if_neg h]

/-- A round of the loop: `httpd_req_recv` fails, or `esp_ota_write` does, or a piece is written and
    the loop goes on behind it. -/
theorem uploadLoop_cons (h : ¬ remaining ≤ 0) (rest : List UInt8) :
    uploadLoop rest remaining ((result, err) :: transfers) =
        ([], some (.serverError "recv failed")) ∨
      (∃ data, err ≠ espOk ∧ uploadLoop rest remaining ((result, err) :: transfers) =
        ([.write data err], some (.named err))) ∨
      ∃ n : Nat, (n : Int) ≤ remaining ∧
        uploadLoop rest remaining ((result, err) :: transfers) =
          (.write (rest.take n) espOk :: (uploadLoop (rest.drop n) (remaining - n) transfers).1,
            (uploadLoop (rest.drop n) (remaining - n) transfers).2) := by
  rw [uploadLoop, if_neg h]
  dsimp only
  -- `httpd_req_recv` hands over at most the buffer, and at most what remains.
  generalize hreceived : min result (if remaining < otaHttpRxBuf then remaining else otaHttpRxBuf)
    = received
  by_cases hfailed : received ≤ 0
  · exact Or.inl (if_pos hfailed)
  rw [if_neg hfailed]
  by_cases hwritten : err ≠ espOk
  · exact Or.inr (Or.inl ⟨_, hwritten, if_pos hwritten⟩)
  -- The number received is positive and within the remaining length.
  refine Or.inr (Or.inr ⟨received.toNat, ?_, ?_⟩)
  · split at hreceived <;> omega
  · rw [if_neg hwritten, not_not.mp hwritten, Int.toNat_of_nonneg (by omega)]

/-- The loop only writes. -/
theorem uploadLoop_writes (rest : List UInt8) (remaining : Int) (transfers : List (Int × EspErr)) :
    ∀ call ∈ (uploadLoop rest remaining transfers).1, ∃ data err, call = .write data err := by
  induction transfers generalizing rest remaining with
  -- Without another transfer the loop is done, or the connection closes.
  | nil =>
    by_cases hmore : remaining ≤ 0
    · simp [uploadLoop_done hmore]
    · simp [uploadLoop_closed hmore]
  | cons transfer transfers ih =>
    obtain ⟨result, err⟩ := transfer
    by_cases hmore : remaining ≤ 0
    · simp [uploadLoop_done hmore]
    -- The three ways of a round; only the last goes on.
    rcases uploadLoop_cons hmore rest with heq | ⟨data, -, heq⟩ | ⟨n, -, heq⟩
    · rw [heq]
      exact fun call hcall => absurd hcall List.not_mem_nil
    · rw [heq]
      exact fun call hcall => ⟨_, _, List.mem_singleton.mp hcall⟩
    · rw [heq]
      intro call hcall
      rcases List.mem_cons.mp hcall with rfl | hnext
      · exact ⟨_, _, rfl⟩
      · exact ih _ _ call hnext

/-- **A loop that does not fail has written everything**, each byte once and in order: `remaining`
    is always the number of the bytes to come. -/
theorem uploadLoop_complete (hlength : (rest.length : Int) = remaining)
    (hdone : (uploadLoop rest remaining transfers).2 = none) :
    written (uploadLoop rest remaining transfers).1 = rest := by
  have hnothing : ∀ {rest : List UInt8} {remaining : Int} {transfers : List (Int × EspErr)},
      (rest.length : Int) = remaining → remaining ≤ 0 →
        written (uploadLoop rest remaining transfers).1 = rest := by
    intro rest remaining transfers hlength hmore
    rw [uploadLoop_done hmore]
    exact (List.length_eq_zero_iff.mp (by omega)).symm
  induction transfers generalizing rest remaining with
  | nil =>
    by_cases hmore : remaining ≤ 0
    · exact hnothing hlength hmore
    · rw [uploadLoop_closed hmore] at hdone
      cases hdone
  | cons transfer transfers ih =>
    obtain ⟨result, err⟩ := transfer
    by_cases hmore : remaining ≤ 0
    · exact hnothing hlength hmore
    rcases uploadLoop_cons hmore rest with heq | ⟨data, -, heq⟩ | ⟨n, hn, heq⟩
    · rw [heq] at hdone
      cases hdone
    · rw [heq] at hdone
      cases hdone
    · -- a piece is written, and the loop goes on with the rest
      rw [heq] at hdone ⊢
      have hrest : ((rest.drop n).length : Int) = remaining - n := by
        rw [List.length_drop]
        omega
      have hnext := ih hrest hdone
      show rest.take n ++ written (uploadLoop (rest.drop n) (remaining - n) transfers).1 = rest
      rw [hnext, List.take_append_drop]

/-- With the length as an `int`, a loop that does not fail has written the whole body, or nothing if
    the length does not fit. -/
theorem uploadLoop_contentLen (transfers : List (Int × EspErr)) (req : OtaRequest)
    (hdone : (uploadLoop req.body req.contentLen.toInt transfers).2 = none) :
    written (uploadLoop req.body req.contentLen.toInt transfers).1 = req.body ∨
      2 ^ 31 ≤ req.body.length ∧
        written (uploadLoop req.body req.contentLen.toInt transfers).1 = [] := by
  have hlength := req.length_lt
  have htoInt : req.contentLen.toInt =
      if 2 * req.body.length < 2 ^ 32 then (req.body.length : Int)
      else (req.body.length : Int) - 2 ^ 32 := by
    unfold OtaRequest.contentLen
    rw [BitVec.toInt_eq_toNat_cond, BitVec.toNat_ofNat, Nat.mod_eq_of_lt hlength]
    rfl
  by_cases hfits : 2 * req.body.length < 2 ^ 32
  · rw [if_pos hfits] at htoInt
    exact Or.inl (uploadLoop_complete htoInt.symm hdone)
  · -- a negative `remaining`
    rw [if_neg hfits] at htoInt
    rw [uploadLoop_done (by omega)]
    exact Or.inr ⟨by omega, rfl⟩

/-! ### The handler -/

/-- Only `esp_ota_write` is called. -/
def OnlyWrites (calls : List OtaCall) : Prop := ∀ call ∈ calls, ∃ data err, call = .write data err

variable {calls : List OtaCall}

theorem OnlyWrites.countP_eq (h : OnlyWrites calls) {p : OtaCall → Bool}
    (hp : ∀ data err, p (.write data err) = false) : calls.countP p = 0 := by
  rw [List.countP_eq_zero]
  intro call hcall
  obtain ⟨data, err, rfl⟩ := h call hcall
  rw [hp]
  exact Bool.false_ne_true

theorem OnlyWrites.notMem (h : OnlyWrites calls) {call : OtaCall}
    (hcall : ∀ data err, call ≠ .write data err) : call ∉ calls := by
  intro hmem
  obtain ⟨data, err, rfl⟩ := h call hmem
  exact hcall data err rfl

@[simp] theorem written_append (calls calls' : List OtaCall) :
    written (calls ++ calls') = written calls ++ written calls' := List.flatMap_append ..

/-- The ways through the handler. They are told apart by its calls, so that a property of the calls
    is checked once for each way. -/
inductive Path (req : OtaRequest) (env : OtaEnv) (boot : Nat) (r : OtaRun) : Prop where
  /-- `esp_ota_begin` is not called, or fails. -/
  | notBegun (hcalls : .otaBegin espOk ∉ r.calls ∧ ∀ call ∈ r.calls, ∃ err, call = .otaBegin err)
      (hboot : r.boot = boot)
  | noBuffer (hheap : env.heap = false) (hcalls : r.calls = [.otaBegin espOk, .abort])
      (hboot : r.boot = boot)
  /-- The loop fails. -/
  | aborted (writes : List OtaCall) (honly : OnlyWrites writes) (hheap : env.heap = true)
      (hcalls : r.calls = .otaBegin espOk :: .malloc :: (writes ++ [.free, .abort]))
      (hboot : r.boot = boot)
  /-- `esp_ota_end` fails. -/
  | invalid (writes : List OtaCall) (honly : OnlyWrites writes) (hheap : env.heap = true)
      (err : EspErr) (herr : err ≠ espOk)
      (hcalls : r.calls = .otaBegin espOk :: .malloc :: (writes ++ [.free, .otaEnd err]))
      (hboot : r.boot = boot)
  | ended (writes : List OtaCall) (honly : OnlyWrites writes) (hheap : env.heap = true)
      (hwritten : env.otaEnd (written writes) = espOk ∧
        (written writes = req.body ∨ 2 ^ 31 ≤ req.body.length ∧ written writes = []))
      (target : Nat) (htarget : env.partition = some target)
      (hcalls : r.calls = .otaBegin espOk :: .malloc ::
        (writes ++ [.free, .otaEnd espOk, .setBoot target env.setBoot]))
      (hboot : r.boot = if env.setBoot = espOk then target else boot)

/-- **What the handler can do.** Every branch of it is one of these ways, whatever the calls
    return. -/
theorem path (req : OtaRequest) (env : OtaEnv) (boot : Nat) :
    Path req env boot (otaUploadHandler req env boot) := by
  unfold otaUploadHandler
  by_cases hempty : req.contentLen = 0
  · -- an empty body is refused
    rw [if_pos hempty]
    exact .notBegun ⟨List.not_mem_nil, fun _ hcall => absurd hcall List.not_mem_nil⟩ rfl
  rw [if_neg hempty]
  cases htarget : env.partition with
  | none => exact .notBegun ⟨List.not_mem_nil, fun _ hcall => absurd hcall List.not_mem_nil⟩ rfl
  | some target =>
    dsimp only
    by_cases hbegin : env.otaBegin ≠ espOk
    · rw [if_pos hbegin]
      refine .notBegun ⟨?_, fun call hcall => ⟨_, List.mem_singleton.mp hcall⟩⟩ rfl
      simpa using hbegin.symm
    rw [if_neg hbegin]
    cases hheap : env.heap with
    | false => exact .noBuffer hheap rfl rfl
    | true =>
      have honly := uploadLoop_writes req.body req.contentLen.toInt env.transfers
      have hwhole := uploadLoop_contentLen env.transfers req
      rcases hloop : uploadLoop req.body req.contentLen.toInt env.transfers with ⟨writes, failure⟩
      rw [hloop] at honly hwhole
      cases failure with
      | some reply => exact .aborted writes honly hheap rfl rfl
      -- the buffer is freed before `esp_ota_end`
      | none =>
        dsimp only [Bool.not_true]
        by_cases hended : env.otaEnd (written writes) ≠ espOk
        · simp only [if_pos hended]
          exact .invalid writes honly hheap _ hended rfl rfl
        · simp only [if_neg hended]
          rw [not_not] at hended
          by_cases hset : env.setBoot ≠ espOk
          · simp only [if_pos hset]
            refine .ended writes honly hheap ⟨hended, hwhole rfl⟩ target htarget ?_ ?_
            · simp [hended]
            · exact (if_neg hset).symm
          · simp only [if_neg hset]
            refine .ended writes honly hheap ⟨hended, hwhole rfl⟩ target htarget ?_ ?_
            · simp [hended]
            · exact (if_pos (not_not.mp hset)).symm

/-- Where `esp_ota_end` does not succeed, the boot partition is not touched. Otherwise it is known
    what was called, and in which order. -/
theorem Path.ended_or {req : OtaRequest} {env : OtaEnv} {boot : Nat} {r : OtaRun}
    (h : Path req env boot r) :
    ((∀ target, .setBoot target espOk ∉ r.calls) ∧ .otaEnd espOk ∉ r.calls ∧ r.boot = boot) ∨
      ∃ writes target, OnlyWrites writes ∧ env.otaEnd (written writes) = espOk ∧
        (written writes = req.body ∨ 2 ^ 31 ≤ req.body.length ∧ written writes = []) ∧
        env.partition = some target ∧
        r.calls = .otaBegin espOk :: .malloc ::
          (writes ++ [.free, .otaEnd espOk, .setBoot target env.setBoot]) ∧
        r.boot = if env.setBoot = espOk then target else boot := by
  -- One case for each exit of the handler.
  cases h with
  | notBegun hcalls hboot =>
    refine Or.inl ⟨fun target hmem => ?_, fun hmem => ?_, hboot⟩
    · obtain ⟨err, herr⟩ := hcalls.2 _ hmem
      cases herr
    · obtain ⟨err, herr⟩ := hcalls.2 _ hmem
      cases herr
  | noBuffer hheap hcalls hboot => exact Or.inl ⟨by simp [hcalls], by simp [hcalls], hboot⟩
  -- After a failed receive or write the update is aborted, and neither ended nor booted.
  | aborted writes honly hheap hcalls hboot =>
    have hset : ∀ target, .setBoot target espOk ∉ writes := fun _ => honly.notMem nofun
    have hend : .otaEnd espOk ∉ writes := honly.notMem nofun
    exact Or.inl ⟨by simp [hcalls, hset], by simp [hcalls, hend], hboot⟩
  -- `esp_ota_end` was called and has refused the image.
  | invalid writes honly hheap err herr hcalls hboot =>
    have hset : ∀ target, .setBoot target espOk ∉ writes := fun _ => honly.notMem nofun
    have hend : .otaEnd espOk ∉ writes := honly.notMem nofun
    exact Or.inl ⟨by simp [hcalls, hset], by simp [hcalls, hend, herr.symm], hboot⟩
  | ended writes honly hheap hwritten target htarget hcalls hboot =>
    exact Or.inr ⟨writes, target, honly, hwritten.1, hwritten.2, htarget, hcalls, hboot⟩

/-- A successful `esp_ota_begin` is the first call; then there is one close, and one `free` if there
    is a buffer. -/
theorem Path.cleanup {req : OtaRequest} {env : OtaEnv} {boot : Nat} {r : OtaRun}
    (h : Path req env boot r) (hbegun : .otaBegin espOk ∈ r.calls) :
    ∃ later, r.calls = .otaBegin espOk :: later ∧
      later.countP OtaCall.closes = 1 ∧ later.count .free = if env.heap then 1 else 0 := by
  -- the writes in the middle count nothing
  have hmiddle : ∀ {writes : List OtaCall}, OnlyWrites writes →
      writes.countP OtaCall.closes = 0 ∧ writes.count .free = 0 := fun honly =>
    ⟨honly.countP_eq fun _ _ => rfl, honly.countP_eq fun _ _ => rfl⟩
  cases h with
  | notBegun hcalls hboot => exact absurd hbegun hcalls.1
  | noBuffer hheap hcalls hboot => exact ⟨_, hcalls, rfl, by rw [hheap]; rfl⟩
  | aborted writes honly hheap hcalls hboot =>
    refine ⟨_, hcalls, ?_, ?_⟩
    · simp [(hmiddle honly).1, OtaCall.closes]
    · simp [(hmiddle honly).2, hheap]
  | invalid writes honly hheap err herr hcalls hboot =>
    refine ⟨_, hcalls, ?_, ?_⟩
    · simp [(hmiddle honly).1, OtaCall.closes]
    · simp [(hmiddle honly).2, hheap]
  | ended writes honly hheap hwritten target htarget hcalls hboot =>
    refine ⟨_, hcalls, ?_, ?_⟩
    · simp [(hmiddle honly).1, OtaCall.closes, List.countP_cons]
    · simp [(hmiddle honly).2, hheap]

/-- **All or nothing.** For every body, all results and every boot partition, where `esp_ota_end`
    fails on a handle that was never written to if the length does not fit into an `int`:

    * the boot partition is switched exactly if the whole body was written, each byte once and in
      order, and `esp_ota_end` and `esp_ota_set_boot_partition` succeed;
    * it is the target then, and what it was otherwise;
    * behind a successful `esp_ota_begin` come exactly one `esp_ota_abort` or `esp_ota_end` and one
      `free`, if there is a buffer. -/
theorem upload_all_or_nothing (req : OtaRequest) (env : OtaEnv) (boot : Nat)
    (hnever : 2 ^ 31 ≤ req.body.length → env.otaEnd [] ≠ espOk) :
    let r := otaUploadHandler req env boot
    (r.Switched ↔
        written r.calls = req.body ∧ .otaEnd espOk ∈ r.calls ∧ env.setBoot = espOk) ∧
      (r.Switched → env.partition = some r.boot) ∧ (¬ r.Switched → r.boot = boot) ∧
      (.otaBegin espOk ∈ r.calls → ∃ later, r.calls = .otaBegin espOk :: later ∧
        later.countP OtaCall.closes = 1 ∧ later.count .free = if env.heap then 1 else 0) := by
  intro r
  have hpath : Path req env boot r := path req env boot
  have hcleanup := fun hbegun => hpath.cleanup hbegun
  rcases hpath.ended_or with ⟨hset, hend, hboot⟩ |
    ⟨writes, target, honly, hended, hwhole, htarget, hcalls, hboot⟩
  · -- the handler stopped before `esp_ota_set_boot_partition`
    have hnot : ¬ r.Switched := fun ⟨target, hmem⟩ => hset target hmem
    exact ⟨⟨fun h => absurd h hnot, fun h => absurd h.2.1 hend⟩, fun h => absurd h hnot,
      fun _ => hboot, hcleanup⟩
  · -- it was called, after a loop that did not fail
    have hwritten : written r.calls = req.body := by
      have hbody : written writes = req.body :=
        hwhole.resolve_right fun hnothing => hnever hnothing.1 (hnothing.2 ▸ hended)
      rw [hcalls]
      show written (writes ++ _) = _
      rw [written_append, hbody]
      exact List.append_nil _
    have hswitched : r.Switched ↔ env.setBoot = espOk := by
      have hset : ∀ target, .setBoot target espOk ∉ writes := fun _ => honly.notMem nofun
      constructor
      · rintro ⟨target', hmem⟩
        rw [hcalls] at hmem
        have hlast : target' = target ∧ espOk = env.setBoot := by simpa [hset] using hmem
        exact hlast.2.symm
      · intro hset
        exact ⟨target, by simp [hcalls, hset]⟩
    have hend : .otaEnd espOk ∈ r.calls := by simp [hcalls]
    refine ⟨?_, fun h => ?_, fun h => ?_, hcleanup⟩
    · rw [hswitched]
      exact ⟨fun h => ⟨hwritten, hend, h⟩, fun h => h.2.2⟩
    · rw [hboot, if_pos (hswitched.mp h), htarget]
    · rw [hboot, if_neg (fun hset => h (hswitched.mpr hset))]

/-- A body of three bytes. -/
def threeBytes : OtaRequest := ⟨[1, 2, 3], by decide⟩

/-- Two bytes, then the rest; `esp_ota_end` takes anything but nothing. Every other call
    succeeds. -/
def twoPieces : OtaEnv where
  partition := some 1
  otaBegin := espOk
  heap := true
  transfers := [(2, espOk), (7, espOk)]
  otaEnd := fun data => if data = [] then espErrInvalidArg else espOk
  setBoot := espOk
  sendstr := espOk

/-- The upload goes through. -/
theorem twoPieces_switched :
    (otaUploadHandler threeBytes twoPieces 0).Switched ∧
      (otaUploadHandler threeBytes twoPieces 0).boot = 1 := by
  refine ⟨?_, rfl⟩
  exact (upload_all_or_nothing threeBytes twoPieces 0 (by decide)).1.mpr (by decide)

/-- Without a buffer nothing is freed; and where `esp_ota_set_boot_partition` fails, the boot
    partition stays, although the whole body was written and `esp_ota_end` succeeded. -/
theorem failed_malloc_frees_nothing :
    (let r := otaUploadHandler threeBytes { twoPieces with heap := false } 0
     .otaBegin espOk ∈ r.calls ∧ r.calls.count .free = 0) ∧
      (let r := otaUploadHandler threeBytes { twoPieces with setBoot := espFail } 0
       written r.calls = threeBytes.body ∧ .otaEnd espOk ∈ r.calls ∧ ¬ r.Switched) := by
  refine ⟨by decide, by decide, by decide, ?_⟩
  rintro ⟨target, hmem⟩
  have hcalls : (otaUploadHandler threeBytes { twoPieces with setBoot := espFail } 0).calls =
      [.otaBegin espOk, .malloc, .write [1, 2] espOk, .write [3] espOk, .free, .otaEnd espOk,
        .setBoot 1 espFail] := by decide
  rw [hcalls] at hmem
  have hfail : espOk ≠ espFail := by decide
  simp [hfail] at hmem

end SubnetRouter.Ota
