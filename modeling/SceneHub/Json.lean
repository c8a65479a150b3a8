/-!
# JSON Trees

The tree `cJSON` parses a text into, with the accessors the code reads it by.
A number is the rational its `valuedouble` stands for, and an object keeps its
members in the order of the text. Reading and printing texts is assumed of
`cJSON`, so a text only appears where a size or a file is at stake.

## Main definitions

* `Json`: The tree.
* `Json.get`: `cJSON_GetObjectItemCaseSensitive`.
-/

namespace SceneHub

inductive Json where
  | null
  | bool (value : Bool)
  | number (value : Rat)
  | string (value : String)
  | array (items : List Json)
  | object (members : List (String × Json))
  deriving Repr

namespace Json

/-- `cJSON_GetObjectItemCaseSensitive`: the first member of that name. Of a
    value that is no object there is none. -/
def get (name : String) : Json → Option Json
  | .object members => (members.find? fun m => m.1 = name).map Prod.snd
  | _ => none

/-- `cJSON_IsNull`, `cJSON_IsObject`. -/
def isNull : Json → Bool
  | .null => true
  | _ => false

def isObject : Json → Bool
  | .object _ => true
  | _ => false

/-- `valueint`: the number cut to an integer, within the limits of `int`. -/
def valueInt (value : Rat) : Int :=
  if 2147483647 ≤ value then 2147483647
  else if value ≤ -2147483648 then -2147483648
  else if 0 ≤ value then value.floor else -((-value).floor)

end Json

end SceneHub
