import Mathlib.Data.List.Basic

namespace SubnetRouter.Settings

/-!
# JSON trees as the handlers read them

A parsed body.  A lookup takes the first member of an object whose name is the key up to case,
and a handler uses what it finds only if it has the type it expects.
-/

/-- A JSON value; of a number, the two conversions that the handlers make: `valueint` and
    `(int32_t)valuedouble`. -/
inductive Json where
  | null
  | bool (b : Bool)
  | number (valueint truncated : Int32)
  | string (text : List Char)
  | array (items : List Json)
  | object (members : List (String × Json))

namespace Json

/-- Names are compared without regard to case. -/
def sameName (a b : String) : Bool := a.toList.map Char.toLower == b.toList.map Char.toLower

/-- `cJSON_GetObjectItem`. -/
def getObjectItem : Json → String → Option Json
  | .object members, key => (members.find? fun m => sameName m.1 key).map Prod.snd
  | _, _ => none

/-- `cJSON_IsString`, with the text. -/
def asString : Option Json → Option (List Char)
  | some (.string text) => some text
  | _ => none

/-- `cJSON_IsBool`, with the value. -/
def asBool : Option Json → Option Bool
  | some (.bool b) => some b
  | _ => none

/-- `cJSON_IsNumber`, with `valueint`. -/
def asValueint : Option Json → Option Int32
  | some (.number v _) => some v
  | _ => none

/-- `cJSON_IsNumber`, with `(int32_t)valuedouble`. -/
def asInt32 : Option Json → Option Int32
  | some (.number _ v) => some v
  | _ => none

/-- `cJSON_IsArray`, with the items. -/
def asArray : Option Json → Option (List Json)
  | some (.array items) => some items
  | _ => none

/-- `cJSON_IsObject`. -/
def asObject : Option Json → Option Json
  | some (.object members) => some (.object members)
  | _ => none

/-- The text of a member, if it is a string. -/
def stringItem (j : Json) (key : String) : Option (List Char) := asString (j.getObjectItem key)

end Json

end SubnetRouter.Settings
