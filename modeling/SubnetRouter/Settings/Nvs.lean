import Mathlib.Data.List.TakeWhile
import SubnetRouter.Lib.CString
import SubnetRouter.Lib.KeyStore

namespace SubnetRouter.Settings

open Lib

/-!
# Settings in NVS (`main/nvs_params.c`)

Values of one namespace under text keys.  Every `nvs_param_set_*` opens, writes and commits on
its own and may fail, and every save of several keys goes on only while the writes succeed.

* `Nvs`, `nvsParamSet`, `nvsParamGetU8` … — one key.
* `nvsSaveAll` — a save of several keys, and `nvsSaveAll_eq` where it stops.
* `u8Flag`, `str`, `u16`, `u32` — how the loaders read a field.
-/

/-- `esp_err_t`. -/
abbrev EspErr := Int

/-- `ESP_OK`. -/
def espOk : EspErr := 0

/-- `ESP_ERR_INVALID_ARG`. -/
def espErrInvalidArg : EspErr := 0x102

/-- `ESP_ERR_INVALID_STATE`. -/
def espErrInvalidState : EspErr := 0x103

/-- A typed value. A key that holds another type is not found when it is read. -/
inductive NvsValue where
  | u8 (v : UInt8)
  | u16 (v : UInt16)
  | u32 (v : UInt32)
  | i32 (v : Int32)
  | str (text : List Char)
deriving DecidableEq

/-- The namespace `NVS_NAMESPACE`. -/
abbrev Nvs := Store String NvsValue

/-! ### One key -/

/-- `nvs_param_set_*`; `result` is what the first call that fails returns, `ESP_OK` if none does. -/
def nvsParamSet (nvs : Nvs) (key : String) (value : NvsValue) (result : EspErr) : EspErr × Nvs :=
  if result = espOk then (espOk, Function.update nvs key (some value)) else (result, nvs)

/-- `nvs_param_erase`; its result is ignored by all callers. -/
def nvsParamErase (nvs : Nvs) (key : String) (result : EspErr) : Nvs :=
  if result = espOk then Function.update nvs key none else nvs

/-- `nvs_param_get_u8` on what is under the key. -/
def nvsParamGetU8 : Option NvsValue → Option UInt8
  | some (.u8 v) => some v
  | _ => none

/-- `nvs_param_get_u16`. -/
def nvsParamGetU16 : Option NvsValue → Option UInt16
  | some (.u16 v) => some v
  | _ => none

/-- `nvs_param_get_u32`. -/
def nvsParamGetU32 : Option NvsValue → Option UInt32
  | some (.u32 v) => some v
  | _ => none

/-- `nvs_param_get_int`. -/
def nvsParamGetInt : Option NvsValue → Option Int32
  | some (.i32 v) => some v
  | _ => none

/-- `nvs_param_get_str`. -/
def nvsParamGetStr : Option NvsValue → Option (List Char)
  | some (.str text) => some text
  | _ => none

/-! ### Saves of several keys -/

/-- `nvs_param_set_*` calls in a row, each behind `if (err == ESP_OK)`; `results i` is the result
    of call `i`. -/
def nvsSaveAll (results : Nat → EspErr) (nvs : Nvs) : List (String × NvsValue) → EspErr × Nvs
  | [] => (espOk, nvs)
  | w :: writes =>
    let (err, nvs) := nvsParamSet nvs w.1 w.2 (results 0)
    if err = espOk then nvsSaveAll (fun i => results (i + 1)) nvs writes else (err, nvs)

/-- The first of `n` calls that fails. -/
def firstFailure (results : Nat → EspErr) (n : Nat) : Option Nat :=
  (List.range n).find? fun i => results i ≠ espOk

theorem firstFailure_succ (results : Nat → EspErr) (n : Nat) :
    firstFailure results (n + 1) = if results 0 ≠ espOk then some 0
      else (firstFailure (fun i => results (i + 1)) n).map (· + 1) := by
  rw [firstFailure, List.range_succ_eq_map, List.find?_cons]
  by_cases hzero : results 0 = espOk
  · simp only [hzero, ne_eq, not_true_eq_false, decide_false, if_false, firstFailure,
      List.find?_map]
    rfl
  · simp [hzero]

/-- **Where a save stops.** All keys are written, or those before the first call that fails. -/
theorem nvsSaveAll_eq (results : Nat → EspErr) (nvs : Nvs) (writes : List (String × NvsValue)) :
    nvsSaveAll results nvs writes =
      match firstFailure results writes.length with
      | none => (espOk, writeAll nvs writes)
      | some k => (results k, writeAll nvs (writes.take k)) := by
  induction writes generalizing results nvs with
  | nil => rfl
  | cons w writes ih =>
    rw [List.length_cons, firstFailure_succ, nvsSaveAll, nvsParamSet]
    by_cases hzero : results 0 = espOk
    · simp only [hzero, if_true, ne_eq, not_true_eq_false, if_false]
      rw [ih]
      cases firstFailure (fun i => results (i + 1)) writes.length <;> rfl
    · simp only [hzero, if_false, ne_eq, not_false_eq_true, if_true]
      rfl

/-- A call that fails is one of those made, and its result is an error. -/
theorem firstFailure_spec {results : Nat → EspErr} {n k : Nat}
    (h : firstFailure results n = some k) : k < n ∧ results k ≠ espOk :=
  ⟨List.mem_range.mp (List.mem_of_find?_eq_some h), by simpa using List.find?_some h⟩

/-- A save leaves the other keys alone, wherever it stops. -/
theorem nvsSaveAll_of_notMem {results : Nat → EspErr} {nvs : Nvs}
    {writes : List (String × NvsValue)} {key : String} (h : key ∉ writes.map Prod.fst) :
    (nvsSaveAll results nvs writes).2 key = nvs key := by
  rw [nvsSaveAll_eq]
  cases firstFailure results writes.length with
  | none => exact writeAll_of_notMem h
  | some k =>
    refine writeAll_of_notMem fun hmem => h ?_
    rw [List.map_take] at hmem
    exact List.mem_of_mem_take hmem

/-! ### Fields -/

/-- `(flag) ? 1 : 0`. -/
def flagByte (on : Bool) : UInt8 := if on then 1 else 0

/-- A flag kept in a byte, with its default. -/
def loadFlag (otherwise : Bool) (value : Option NvsValue) : Bool :=
  match nvsParamGetU8 value with
  | some b => b ≠ 0
  | none => otherwise

/-- `load_string` into an array of `cap + 1` characters, over its default. -/
def loadString (cap : Nat) (otherwise : CString cap) (value : Option NvsValue) : CString cap :=
  match nvsParamGetStr value with
  | some text => CString.strlcpy cap text
  | none => otherwise

/-- A number in a 16-bit word, if it is in range. -/
def loadU16 (valid : UInt16 → Bool) (otherwise : UInt16) (value : Option NvsValue) : UInt16 :=
  match nvsParamGetU16 value with
  | some v => if valid v then v else otherwise
  | none => otherwise

/-- A number in a 32-bit word, if it is in range. -/
def loadU32 (valid : UInt32 → Bool) (otherwise : UInt32) (value : Option NvsValue) : UInt32 :=
  match nvsParamGetU32 value with
  | some v => if valid v then v else otherwise
  | none => otherwise

/-- A field that holds a flag. -/
def flagField (key : String) (otherwise : Bool) : Field String NvsValue :=
  ⟨key, fun value => .u8 (flagByte (loadFlag otherwise value))⟩

/-- A field that holds a text. -/
def strField (key : String) (cap : Nat) (otherwise : CString cap) : Field String NvsValue :=
  ⟨key, fun value => .str (loadString cap otherwise value).text⟩

/-- A field that holds a 16-bit number. -/
def u16Field (key : String) (valid : UInt16 → Bool) (otherwise : UInt16) :
    Field String NvsValue :=
  ⟨key, fun value => .u16 (loadU16 valid otherwise value)⟩

/-- A field that holds a 32-bit number. -/
def u32Field (key : String) (valid : UInt32 → Bool) (otherwise : UInt32) :
    Field String NvsValue :=
  ⟨key, fun value => .u32 (loadU32 valid otherwise value)⟩

/-- Flags are read as they were written. -/
theorem flagField_read (key : String) (otherwise on : Bool) :
    (flagField key otherwise).read (some (.u8 (flagByte on))) = .u8 (flagByte on) := by
  cases on <;> rfl

/-- So are texts that fit. -/
theorem strField_read (key : String) {cap : Nat} (otherwise s : CString cap) :
    (strField key cap otherwise).read (some (.str s.text)) = .str s.text := by
  show NvsValue.str (CString.strlcpy cap s.text).text = _
  rw [CString.strlcpy_text]

/-- And numbers in range. -/
theorem u16Field_read (key : String) {valid : UInt16 → Bool} (otherwise : UInt16) {v : UInt16}
    (h : valid v = true) : (u16Field key valid otherwise).read (some (.u16 v)) = .u16 v := by
  simp [u16Field, loadU16, nvsParamGetU16, h]

theorem u32Field_read (key : String) {valid : UInt32 → Bool} (otherwise : UInt32) {v : UInt32}
    (h : valid v = true) : (u32Field key valid otherwise).read (some (.u32 v)) = .u32 v := by
  simp [u32Field, loadU32, nvsParamGetU32, h]

end SubnetRouter.Settings
