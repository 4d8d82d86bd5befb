import Cubbies.Lib.CString

set_option autoImplicit false

/-! # cJSON values

The tree `cJSON_Parse` returns, with the accessors the firmware calls. The parser itself is not part
of the repository: it is the parameter `CJson`, and the results hold for every such function unless
they name a property of it. -/

namespace Cubbies

open CString

/-- A `cJSON` node. A number keeps the `valueint` the code reads. -/
inductive Json where
  | null
  | bool (value : Bool)
  | number (valueint : ℤ)
  | string (valuestring : Bytes)
  | array (items : List Json)
  | object (fields : List (Bytes × Json))

/-- `cJSON_ParseWithLength`, and `cJSON_Parse` on the text of a C string. -/
class CJson where
  parse : Bytes → Option Json

namespace Json

/-- `tolower` on one byte. -/
def toLower (b : UInt8) : UInt8 := if 65 ≤ b ∧ b ≤ 90 then b + 32 else b

/-- `cJSON_GetObjectItem`: the first field whose name matches, letter case ignored. -/
def getObjectItem (j : Json) (name : Bytes) : Option Json :=
  match j with
  | .object fields =>
      (fields.find? fun f => f.1.map toLower = name.map toLower).map Prod.snd
  | _ => none

/-- `cJSON_GetObjectItemCaseSensitive`. -/
def getObjectItemCaseSensitive (j : Json) (name : Bytes) : Option Json :=
  match j with
  | .object fields => (fields.find? fun f => f.1 = name).map Prod.snd
  | _ => none

/-- The children of a node. -/
def children : Json → List Json
  | .array items => items
  | .object fields => fields.map Prod.snd
  | _ => []

/-- `cJSON_GetArraySize`. -/
def getArraySize (j : Json) : ℕ := j.children.length

/-- `cJSON_GetArrayItem`. -/
def getArrayItem (j : Json) (i : ℕ) : Option Json := j.children[i]?

/-- The `valueint` member: the parser leaves 1 there for `true`, 0 for what is not a number. -/
def valueint : Json → ℤ
  | .number v => v
  | .bool true => 1
  | _ => 0

/-- The `valuestring` member, `NULL` for what is not a string. -/
def valuestring? : Json → Option Bytes
  | .string s => some s
  | _ => none

/-- `cJSON_IsNumber`, with the number. -/
def number? : Json → Option ℤ
  | .number v => some v
  | _ => none

/-- `cJSON_IsArray`, with the elements. -/
def array? : Json → Option (List Json)
  | .array items => some items
  | _ => none

/-- `cJSON_IsTrue`. -/
def isTrue : Json → Bool
  | .bool b => b
  | _ => false

/-- The object's field `name` when it is a string. -/
def stringField? (j : Json) (name : Bytes) : Option Bytes :=
  (j.getObjectItem name).bind valuestring?

/-- The object's field `name` when it is a number. -/
def numberField? (j : Json) (name : Bytes) : Option ℤ :=
  (j.getObjectItem name).bind number?

/-- The object's field `name` when it is an array. -/
def arrayField? (j : Json) (name : Bytes) : Option (List Json) :=
  (j.getObjectItem name).bind array?

end Json

end Cubbies
