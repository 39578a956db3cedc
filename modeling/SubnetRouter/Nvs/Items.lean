import SubnetRouter.Lib.KeyStore
import SubnetRouter.Lib.Layout

namespace SubnetRouter.Nvs

open Lib

/-!
# Items of an NVS namespace, read into buffers

The modules that call `nvs_get_str` and `nvs_get_blob` themselves bring a buffer and its size.
A text or a blob that does not fit is not read at all: the call reports
`ESP_ERR_NVS_INVALID_LENGTH` and leaves the buffer as it was.

* `Items` — what is under the keys.
* `getStr`, `getBlob`, `blobSize` — the reads; `setStr`, `setBlob`, `erase` — the writes.
-/

/-- A text, a blob or a number. A key of one kind is not found when it is read as another. -/
inductive Item where
  | str (text : CText)
  | blob (bytes : List UInt8)
  | i32 (v : Int)
deriving DecidableEq

/-- The items of one namespace. -/
abbrev Items := Store String Item

/-- What `nvs_get_blob` reports. `invalidLength` is a blob that is longer than the buffer. -/
inductive BlobRead where
  | ok (bytes : List UInt8)
  | invalidLength
  | notFound
deriving DecidableEq

variable {nvs nvs' : Items} {key key' : String} {room : Nat} {text : CText} {bytes : List UInt8}

/-- `nvs_get_str` into `room` bytes, one of them for the terminator. -/
def getStr (nvs : Items) (key : String) (room : Nat) : Option CText :=
  match nvs key with
  | some (.str text) => if text.bytes.length < room then some text else none
  | _ => none

/-- `nvs_param_get_str`: a buffer of the right size is allocated. -/
def paramGetStr (nvs : Items) (key : String) : Option CText :=
  match nvs key with
  | some (.str text) => some text
  | _ => none

/-- `nvs_get_blob` into `room` bytes. -/
def getBlob (nvs : Items) (key : String) (room : Nat) : BlobRead :=
  match nvs key with
  | some (.blob bytes) => if bytes.length ≤ room then .ok bytes else .invalidLength
  | _ => .notFound

/-- `nvs_get_blob` without a buffer. -/
def blobSize (nvs : Items) (key : String) : Option Nat :=
  match nvs key with
  | some (.blob bytes) => some bytes.length
  | _ => none

/-- `nvs_set_str`. -/
def setStr (nvs : Items) (key : String) (text : CText) : Items :=
  Function.update nvs key (some (.str text))

/-- `nvs_set_blob`. -/
def setBlob (nvs : Items) (key : String) (bytes : List UInt8) : Items :=
  Function.update nvs key (some (.blob bytes))

/-- `nvs_set_i32`. -/
def setI32 (nvs : Items) (key : String) (v : Int) : Items :=
  Function.update nvs key (some (.i32 v))

/-- `nvs_erase_key`. -/
def erase (nvs : Items) (key : String) : Items := Function.update nvs key none

@[simp] theorem setStr_self : setStr nvs key text key = some (.str text) :=
  Function.update_self key _ nvs

@[simp] theorem setStr_of_ne (h : key' ≠ key) : setStr nvs key text key' = nvs key' :=
  Function.update_of_ne h _ nvs

@[simp] theorem setBlob_self : setBlob nvs key bytes key = some (.blob bytes) :=
  Function.update_self key _ nvs

@[simp] theorem setBlob_of_ne (h : key' ≠ key) : setBlob nvs key bytes key' = nvs key' :=
  Function.update_of_ne h _ nvs

@[simp] theorem setI32_of_ne {v : Int} (h : key' ≠ key) : setI32 nvs key v key' = nvs key' :=
  Function.update_of_ne h _ nvs

@[simp] theorem erase_self : erase nvs key key = none := by
  rw [erase, Function.update_self]

@[simp] theorem erase_of_ne (h : key' ≠ key) : erase nvs key key' = nvs key' := by
  rw [erase, Function.update_of_ne h]

/-- A text that was written is read, if it fits. -/
theorem getStr_of_eq (h : nvs key = some (.str text)) :
    getStr nvs key room = if text.bytes.length < room then some text else none := by
  simp only [getStr, h]

/-- What is read depends on what is under the key only. -/
theorem getStr_congr (h : nvs' key = nvs key) : getStr nvs' key room = getStr nvs key room := by
  simp only [getStr, h]

theorem getBlob_congr (h : nvs' key = nvs key) :
    getBlob nvs' key room = getBlob nvs key room := by
  simp only [getBlob, h]

theorem blobSize_congr (h : nvs' key = nvs key) : blobSize nvs' key = blobSize nvs key := by
  simp only [blobSize, h]

end SubnetRouter.Nvs
