import SceneHub.Executor.Params

/-!
# Resolving a Command

`scenehub_device_command_resolver`: a command of a device is looked up and its parameters
are checked. They are checked as a tree: the members of the default arguments, with the
members of the parameters over them.

A flat device lists its commands. A compact one has them in the manifest it describes
itself with, and the command is filled in from there.

Of a command only the fields are kept that decide how it is carried out and with which
arguments.

## Main definitions

* `mergeEffectiveParams`: The parameters that are checked.
* `validateParams`, `validateCompactParams`: The checks.
* `resolve`: `scenehub_device_command_resolve`.
-/

namespace SceneHub.Executor

open JsonText (Reader)

/-- An error code with the text of the error. -/
abbrev Failure := EspErr × String

/-! ### Reading a tree -/

def jsonString (object : Json) (key : String) : String :=
  match object.get key with
  | some (.string text) => text
  | _ => ""

def jsonValuePresent : Option Json → Bool
  | none => false
  | some value => !value.isNull

/-- `json_number_like`, with the number it hands back. -/
def jsonNumberLike : Json → Option Int
  | .number value => some (Json.valueInt value)
  | .string text => if text = "" then none else strtol text.toList
  | _ => none

def jsonBoolLike : Json → Bool
  | .bool _ => true
  | .number _ => true
  | .string _ => true
  | _ => false

/-- `cJSON_IsTrue` of a member. -/
def isTrue (object : Json) (key : String) : Bool :=
  match object.get key with
  | some (.bool value) => value
  | _ => false

def membersOf : Option Json → List (String × Json)
  | some (.object members) => members
  | _ => []

/-! ### Default arguments and parameters -/

/-- `json_object_set_dup` of a key that is not empty: the first member of that key is
    replaced, or a member is added. -/
def setMember (key : String) (value : Json) : List (String × Json) → List (String × Json)
  | [] => [(key, value)]
  | m :: members =>
    if m.1 = key then (key, value) :: members else m :: setMember key value members

/-- The loops of `merge_effective_params`. -/
def setMembers : List (String × Json) → List (String × Json) →
    Except EspErr (List (String × Json))
  | [], effective => .ok effective
  | m :: members, effective =>
    if m.1 = "" then .error .invalidArg else setMembers members (setMember m.1 m.2 effective)

def mergeEffectiveParams (r : Reader) (defaultArgs : Option Json) (params : List Char) :
    Except EspErr Json :=
  match setMembers (membersOf defaultArgs) [] with
  | .error err => .error err
  | .ok effective =>
    if params = [] then .ok (.object effective)
    else match r.parse params with
      | some (.object overrides) => (setMembers overrides effective).map Json.object
      | _ => .error .invalidArg

/-! ### Commands -/

inductive ParamType where
  | text
  | number
  | checkbox
  | audioFileSelect
  deriving DecidableEq, Repr

/-- `quest_device_command_param_t`. -/
structure Param where
  key : String
  type : ParamType
  optional : Bool
  deriving DecidableEq, Repr

/-- `quest_device_command_t`. -/
structure Command where
  id : String
  command : String
  defaultArgsJson : List Char
  params : List Param
  deriving DecidableEq, Repr

/-- `quest_device_t`. A flat device has no description. -/
structure Device where
  id : String
  enabled : Bool
  commands : List Command
  deviceDescriptionJson : List Char

def maxCommandParams : Nat := 8

/-- The sizes of the fields of a command that are filled in from a manifest. -/
def idMaxLen : Nat := 32
def commandNameMaxLen : Nat := 48
def paramKeyMaxLen : Nat := 32
def defaultArgsJsonMaxLen : Nat := 160

/-- `quest_str_copy` into an array of `size` bytes. -/
def strCopy (size : Nat) (text : String) : String := String.ofList (text.toList.take (size - 1))

/-! ### Checking the parameters of a flat device -/

/-- The `switch` of `scenehub_device_command_validate_params`. -/
def checkParam : ParamType → Json → Except Failure Unit
  | .number, value =>
    if (jsonNumberLike value).isSome then .ok ()
    else .error (.invalidArg, "device_command_number_invalid")
  | .checkbox, value =>
    if jsonBoolLike value then .ok () else .error (.invalidArg, "device_command_bool_invalid")
  | .audioFileSelect, .string text =>
    if text = "" then .error (.invalidArg, "device_command_audio_file_missing") else .ok ()
  | .audioFileSelect, _ => .error (.invalidArg, "device_command_audio_file_missing")
  | .text, .string text =>
    if text = "" then .error (.invalidArg, "device_command_text_invalid") else .ok ()
  | .text, _ => .error (.invalidArg, "device_command_text_invalid")

/-- What a parameter that is not there is answered with. -/
def checkMissing (isOptional : Bool) : Except Failure Unit :=
  if isOptional then .ok () else .error (.invalidArg, "device_command_param_required")

/-- The loop of `scenehub_device_command_validate_params`. -/
def checkParams (effective : Json) : List Param → Except Failure Unit
  | [] => .ok ()
  | p :: params =>
    if p.key = "" then .error (.invalidArg, "device_command_schema_invalid")
    else
      let checked := match effective.get p.key with
        | none => checkMissing p.optional
        | some value => if value.isNull then checkMissing p.optional else checkParam p.type value
      match checked with
      | .error failure => .error failure
      | .ok () => checkParams effective params

def flatDefaultArgs (r : Reader) (command : Command) : Option Json :=
  if command.defaultArgsJson = [] then none else r.parse command.defaultArgsJson

def validateParams (r : Reader) (command : Command) (params : List Char) : Except Failure Unit :=
  if command.defaultArgsJson ≠ [] ∧ ¬((flatDefaultArgs r command).any Json.isObject) then
    .error (.invalidArg, "device_command_default_args_invalid")
  else match mergeEffectiveParams r (flatDefaultArgs r command) params with
    | .error err => .error (err, "device_command_params_invalid")
    | .ok effective => checkParams effective (command.params.take maxCommandParams)

/-! ### Checking the parameters of a compact device -/

def compactManifestRootValid (root : Json) : Bool :=
  root.isObject &&
  (match root.get "manifest_version" with
    | some (.number version) => Json.valueInt version = 2
    | _ => false) &&
  jsonString root "format" = "compact_resources" && jsonString root "node_kind" ≠ "" &&
  jsonString root "capability_contract" = "scenehub.node.compact.v1"

def findTemplateById (root : Json) (commandId : String) : Option Json :=
  match root.get "command_templates" with
  | some (.array templates) =>
    if commandId = "" then none
    else templates.find? fun item => item.isObject && jsonString item "id" = commandId
  | _ => none

def schemaForTemplate (root template : Json) : Option Json :=
  if jsonString template "args_schema_ref" = "" then none
  else match root.get "schemas" with
    | some (.object schemas) => (Json.object schemas).get (jsonString template "args_schema_ref")
    | _ => none

def selectOptionExists (schemaItem : Json) : Json → Bool
  | .string selected =>
    match schemaItem.get "options" with
    | some (.array options) => options.any fun option =>
      match option with
      | .string text => text = selected
      | _ => false
    | _ => false
  | _ => false

def resourceChannelExists (root : Json) (target : String) (value : Json) : Bool :=
  match (root.get "resources").bind (Json.get target), jsonNumberLike value with
  | some (.array items), some selected => items.any fun item =>
    match item.get (if target = "led_strips" then "strip" else "channel") with
    | some (.number id) => Json.valueInt id = selected
    | _ => false
  | _, _ => false

/-- What `validate_compact_params` checks of a value that is there. -/
def checkCompactValue (root : Json) (target : String) (schemaItem value : Json) :
    Except Failure Unit :=
  if jsonString schemaItem "type" = "resource_channel" then
    if resourceChannelExists root target value then .ok ()
    else .error (.invalidArg, "device_command_resource_invalid")
  else if jsonString schemaItem "type" = "select" then
    if selectOptionExists schemaItem value then .ok ()
    else .error (.invalidArg, "device_command_option_invalid")
  else if jsonString schemaItem "type" = "number" then
    if (jsonNumberLike value).isSome then .ok ()
    else .error (.invalidArg, "device_command_number_invalid")
  else if jsonString schemaItem "type" = "checkbox" then
    if jsonBoolLike value then .ok () else .error (.invalidArg, "device_command_bool_invalid")
  else .ok ()

/-- The loop of `validate_compact_params`. -/
def checkSchema (root : Json) (target : String) (effective : Json) : List Json → Except Failure Unit
  | [] => .ok ()
  | item :: schema =>
    if jsonString item "key" = "" then .error (.invalidArg, "device_command_schema_invalid")
    else
      let checked := match effective.get (jsonString item "key") with
        | none => checkMissing (isTrue item "optional")
        | some value =>
          if value.isNull then checkMissing (isTrue item "optional")
          else checkCompactValue root target item value
      match checked with
      | .error failure => .error failure
      | .ok () => checkSchema root target effective schema

def validateCompactParams (r : Reader) (root template : Json) (schema : Option Json)
    (params : List Char) : Except Failure Unit :=
  match schema with
  | some (.array items) =>
    match mergeEffectiveParams r (template.get "default_args") params with
    | .error _ => .error (.invalidArg, "device_command_params_invalid")
    | .ok effective => checkSchema root (jsonString template "target") effective items
  | _ => .error (.invalidArg, "device_command_schema_not_found")

def compactParamType (type : String) : ParamType :=
  if type = "number" then .number
  else if type = "resource_channel" then .number
  else if type = "checkbox" then .checkbox
  else if type = "audio_file_select" then .audioFileSelect
  else .text

/-- The parameter that `fill_compact_command` takes over from an item of the schema. -/
def fillParam (item : Json) : Param :=
  ⟨strCopy paramKeyMaxLen (jsonString item "key"), compactParamType (jsonString item "type"),
    isTrue item "optional"⟩

/-- The default arguments as `fill_compact_command` prints them. -/
def printDefaultArgs (r : Reader) (template : Json) : List Char :=
  match template.get "default_args" with
  | some (.object members) => r.print (.object members)
  | _ => []

def fillCompactCommand (r : Reader) (template : Json) (schema : Option Json) :
    Except Failure Command :=
  if defaultArgsJsonMaxLen ≤ (printDefaultArgs r template).length then
    .error (.invalidSize, "device_command_invalid")
  else .ok
    { id := strCopy idMaxLen (jsonString template "id")
      command := strCopy commandNameMaxLen (jsonString template "command")
      defaultArgsJson := printDefaultArgs r template
      params := match schema with
        | some (.array items) => (items.take maxCommandParams).map fillParam
        | _ => [] }

/-! ### Resolving -/

/-- The manifest of a compact device and the template of a command in it. -/
def compactTemplate (r : Reader) (device : Device) (commandId : String) :
    Except Failure (Json × Json) :=
  match r.parse device.deviceDescriptionJson with
  | none => .error (.invalidArg, "device_description_invalid")
  | some root =>
    if !compactManifestRootValid root then .error (.invalidArg, "device_description_invalid")
    else match findTemplateById root commandId with
      | none => .error (.notFound, "device_command_not_found")
      | some template => .ok (root, template)

def resolveCompactCommand (r : Reader) (device : Device) (commandId : String)
    (params : List Char) : Except Failure Command :=
  match compactTemplate r device commandId with
  | .error failure => .error failure
  | .ok (root, template) =>
    match validateCompactParams r root template (schemaForTemplate root template) params with
    | .error failure => .error failure
    | .ok () => fillCompactCommand r template (schemaForTemplate root template)

/-- `scenehub_device_command_resolve` of a device that is known. -/
def resolve (r : Reader) (device : Device) (commandId : String) (requireEnabled : Bool)
    (params : List Char) : Except Failure Command :=
  if commandId = "" then .error (.invalidArg, "device_command_invalid")
  else if requireEnabled ∧ ¬device.enabled then .error (.invalidState, "device_disabled")
  else if device.deviceDescriptionJson ≠ [] then resolveCompactCommand r device commandId params
  else match device.commands.find? (fun command => command.id = commandId) with
    | none => .error (.notFound, "device_command_not_found")
    | some command =>
      match validateParams r command params with
      | .error failure => .error failure
      | .ok () => .ok command

end SceneHub.Executor
