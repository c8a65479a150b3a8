import SceneHub.Json
import SceneHub.Lib.Codec
import SceneHub.Storage.Stored

/-!
# Reading and Writing Fields

The small functions both directions of the scenario JSON are made of, from
`room_scenario_json.c`, `room_scenario_json_import_reactive.c`, which repeats
them, and `room_scenario_json_export.c`.

A text is measured in bytes, and its limit includes the closing zero.

## Main definitions

* `CJson`: Printing and parsing, which `cJSON` does.
* `Json.stringRequired`, `Json.stringOptional` and the other readers.
* `Json.ofFields`: An object with the fields that are present.
* `importCommand`, `exportCommand`: A device command in both directions.
-/

namespace SceneHub

open Lib (readAll readFrom)

/-- `cJSON_PrintUnformatted` and `cJSON_Parse`. -/
structure CJson where
  print : Json → String
  parse : String → Option Json

/-- `ROOM_SCENARIO_COMMAND_PARAMS_JSON_MAX_LEN`. -/
def paramsMaxLen : Nat := 384

/-- Most texts have 32 bytes: ids, types of events, labels of buttons, flags. -/
def idMaxLen : Nat := 32

/-- Names, and labels of steps. -/
def nameMaxLen : Nat := 64

def promptMaxLen : Nat := 96

def messageMaxLen : Nat := 160

namespace Json

/-! ### Reading -/

def stringRequired (obj : Json) (name : String) (maxLen : Nat) : Except EspErr String :=
  match obj.get name with
  | some (.string s) => if s = "" ∨ maxLen ≤ s.utf8ByteSize then .error .invalidArg else .ok s
  | _ => .error .invalidArg

def stringOptional (obj : Json) (name : String) (maxLen : Nat) : Except EspErr String :=
  match obj.get name with
  | none | some .null => .ok ""
  | some (.string s) => if maxLen ≤ s.utf8ByteSize then .error .invalidArg else .ok s
  | _ => .error .invalidArg

/-- A number that is a whole one of 32 bits. -/
def toUInt32 (value : Rat) : Except EspErr UInt32 :=
  if value < 0 ∨ 4294967295 < value ∨ (value.floor : Rat) ≠ value then .error .invalidArg
  else .ok (UInt32.ofNat value.floor.toNat)

def uint32Required (obj : Json) (name : String) : Except EspErr UInt32 :=
  match obj.get name with
  | some (.number value) => toUInt32 value
  | _ => .error .invalidArg

def uint32Optional (obj : Json) (name : String) : Except EspErr UInt32 :=
  match obj.get name with
  | none | some .null => .ok 0
  | some (.number value) => toUInt32 value
  | _ => .error .invalidArg

/-- A boolean that must be there. -/
def boolRequired (obj : Json) (name : String) : Except EspErr Bool :=
  match obj.get name with
  | some (.bool value) => .ok value
  | _ => .error .invalidArg

/-- A boolean with a default where the member is missing. -/
def boolOr (obj : Json) (name : String) (absent : Bool) : Except EspErr Bool :=
  match obj.get name with
  | none => .ok absent
  | some (.bool value) => .ok value
  | _ => .error .invalidArg

/-- The name of an enumeration's value that must be there. -/
def enumRequired {α : Type} (obj : Json) (name : String) (fromStr : String → Option α) :
    Except EspErr α :=
  match obj.get name with
  | some (.string s) =>
    match fromStr s with
    | some value => .ok value
    | none => .error .invalidArg
  | _ => .error .invalidArg

/-- The name of an enumeration's value with a default where it is missing. -/
def enumOr {α : Type} (obj : Json) (name : String) (fromStr : String → Option α) (absent : α) :
    Except EspErr α :=
  match obj.get name with
  | none => .ok absent
  | _ => obj.enumRequired name fromStr

/-- The same where `null` counts as missing. -/
def enumOrNull {α : Type} (obj : Json) (name : String) (fromStr : String → Option α)
    (absent : α) : Except EspErr α :=
  match obj.get name with
  | none | some .null => .ok absent
  | _ => obj.enumRequired name fromStr

/-- The items of a member, none where it is no array: `count` of the callers. -/
def items (obj : Json) (name : String) : List Json :=
  match obj.get name with
  | some (.array items) => items
  | _ => []

/-- An array with at least one item and at most `max`. -/
def group (obj : Json) (name : String) (max : Nat) : Except EspErr (List Json) :=
  if (obj.items name).length = 0 ∨ max < (obj.items name).length then .error .invalidArg
  else .ok (obj.items name)

/-! ### Writing -/

/-- An object with the fields that are present. -/
def ofFields (fields : List (String × Option Json)) : Json :=
  .object (fields.filterMap fun field => field.2.map fun value => (field.1, value))

/-- A text that is written only if it is not empty. -/
def nonEmpty (s : String) : Option Json := if s ≠ "" then some (.string s) else none

/-- A number that is written only if it is not zero. -/
def nonZero (n : UInt32) : Option Json := if 0 < n then some (.number n.toNat) else none

end Json

/-! ### Commands, events and flags -/

section

variable (cj : CJson)

/-- `json_copy_object_string_optional` on the member `params`. -/
def importParams (obj : Json) : Except EspErr String :=
  match obj.get "params" with
  | none | some .null => .ok ""
  | some (.object members) =>
    if paramsMaxLen ≤ (cj.print (.object members)).utf8ByteSize then .error .invalidSize
    else .ok (cj.print (.object members))
  | _ => .error .invalidArg

/-- `json_add_object_string_optional`. -/
def exportParams (paramsJson : String) : Except EspErr (Option Json) :=
  if paramsJson = "" then .ok none
  else match cj.parse paramsJson with
    | some (.object members) => .ok (some (.object members))
    | _ => .error .invalidArg

/-- `room_scenario_import_command_json`, and the body of the loop over the
    commands of a group, which does not ask for an object and cannot tell. -/
def importCommand (obj : Json) : Except EspErr DeviceCommand := do
  let deviceId ← obj.stringRequired "device_id" idMaxLen
  let commandId ← obj.stringRequired "command_id" idMaxLen
  let paramsJson ← importParams cj obj
  return ⟨deviceId, commandId, paramsJson⟩

/-- The members `room_scenario_export_command_json` adds to an object. -/
def commandFields (command : DeviceCommand) : Except EspErr (List (String × Option Json)) := do
  let params ← exportParams cj command.paramsJson
  return [("device_id", some (.string command.deviceId)),
    ("command_id", some (.string command.commandId)), ("params", params)]

def exportCommand (command : DeviceCommand) : Except EspErr Json := do
  let fields ← commandFields cj command
  return Json.ofFields fields

end

/-- An event of a group. Only its two ids are read. -/
def importEventRef (obj : Json) : Except EspErr Stored.WaitDeviceEvent := do
  let deviceId ← obj.stringRequired "device_id" idMaxLen
  let eventId ← obj.stringRequired "event_id" idMaxLen
  return { deviceId, eventId }

def exportEventRef (event : Stored.WaitDeviceEvent) : Json :=
  Json.ofFields [("device_id", some (.string event.deviceId)),
    ("event_id", some (.string event.eventId))]

/-- A flag with its wanted value. The member for its name differs. -/
def importFlag (nameField : String) (obj : Json) : Except EspErr Flag := do
  let name ← obj.stringRequired nameField idMaxLen
  let value ← obj.boolRequired "value"
  return ⟨name, value⟩

def exportFlag (nameField : String) (flag : Flag) : Json :=
  Json.ofFields [(nameField, some (.string flag.name)), ("value", some (.bool flag.value))]

/-- The member for a timeout action, left out for the default. -/
def timeoutActionField (action : TimeoutAction) : String × Option Json :=
  ("timeout_action", if action ≠ .continue then some (.string action.toStr) else none)

end SceneHub
