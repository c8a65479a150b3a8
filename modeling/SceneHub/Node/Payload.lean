import SceneHub.Node.Channels

/-!
# Arguments of Commands and Events

The texts a rule's commands and events carry: `build_command_args_json` and
`build_emit_args_json` of `node_rule_compile.c`, with the escaping of
`node_json.c`.

The commands differ in the fields they take. `commandFields` lists them for each
command in the order they are written, and one function writes them.

## Main definitions

* `ArgField`: A field of a command's arguments.
* `commandFields`: The fields of each command.
* `buildCommandArgsJson`, `buildEmitArgsJson`: The texts.
-/

namespace SceneHub.Node

/-- The size of `payload_json`. -/
def payloadSize : Nat := 96

/-- A text that fits the payload. -/
def payloadText (text : String) : Option String :=
  if text.utf8ByteSize < payloadSize then some text else none

/-- `(int32_t)valuedouble` and `(long)valuedouble`: cut towards zero. A number
    out of range gives the nearest limit. -/
def castInt32 (value : Rat) : Int := Json.valueInt value

/-- `(uint32_t)valuedouble` and `(unsigned long)valuedouble`. -/
def castUInt32 (value : Rat) : UInt32 :=
  if value ≤ 0 then 0
  else if 4294967295 ≤ value then 4294967295
  else UInt32.ofNat value.floor.toNat

/-! ### Commands -/

inductive ArgKind where
  | bool
  | long
  | ulong
  | text
  deriving DecidableEq, Repr

/-- A field of a command's arguments. -/
structure ArgField where
  name : String
  kind : ArgKind
  required : Bool := false
  deriving DecidableEq, Repr

/-- The value of a field in its printed form, if it is there and of its kind. A
    text is printed as it is. -/
def ArgKind.print (kind : ArgKind) (value : Option Json) : Option String :=
  match kind, value with
  | .bool, some (.bool on) => some (if on then "true" else "false")
  | .long, some (.number x) => some (toString (castInt32 x))
  | .ulong, some (.number x) => some (toString (castUInt32 x))
  | .text, some (.string s) => some ("\"" ++ s ++ "\"")
  | _, _ => none

/-- The part of the text for one field; `none` if a required one is missing. -/
def ArgField.write (args : Json) (field : ArgField) : Option String :=
  match field.kind.print (args.get field.name) with
  | some value => some (",\"" ++ field.name ++ "\":" ++ value)
  | none => if field.required then none else some ""

/-- The fields of a command behind its channel, in the order they are written. -/
def commandFields : String → Option (List ArgField)
  | "relay.set" | "io.set" => some [⟨"on", .bool, true⟩]
  | "relay.pulse" => some [⟨"duration_ms", .ulong, true⟩]
  | "mosfet.set" => some [⟨"value", .long, true⟩]
  | "mosfet.fade" => some [⟨"target", .long, true⟩, ⟨"duration_ms", .ulong, false⟩]
  | "mosfet.pulse" => some [⟨"value", .long, true⟩, ⟨"duration_ms", .ulong, false⟩]
  | "mosfet.blink" =>
    some [⟨"value", .long, false⟩, ⟨"final_value", .long, false⟩, ⟨"on_ms", .ulong, false⟩,
      ⟨"off_ms", .ulong, false⟩, ⟨"count", .long, false⟩]
  | "mosfet.breathe" =>
    some [⟨"min", .long, false⟩, ⟨"max", .long, false⟩, ⟨"final_value", .long, false⟩,
      ⟨"fade_ms", .ulong, false⟩, ⟨"hold_ms", .ulong, false⟩, ⟨"count", .long, false⟩]
  | "mosfet.effect" =>
    some [⟨"effect", .text, true⟩, ⟨"value", .long, false⟩, ⟨"target", .long, false⟩,
      ⟨"min", .long, false⟩, ⟨"max", .long, false⟩, ⟨"final_value", .long, false⟩,
      ⟨"duration_ms", .ulong, false⟩, ⟨"repeat", .ulong, false⟩, ⟨"on", .bool, false⟩]
  | "led.off" => some []
  | "led.solid" | "led.breathe" => some [⟨"color", .text, true⟩]
  | "led.blink" => some [⟨"color", .text, true⟩, ⟨"times", .long, false⟩]
  | "led.effect" => some [⟨"effect", .text, true⟩]
  | _ => none

/-- The commands without arguments. -/
def isAllOff (command : String) : Bool :=
  command = "node.all_off" || command = "relay.all_off" || command = "mosfet.all_off" ||
  command = "io.all_off"

def buildCommandArgsJson (config : Option NodeConfig) (action : Json) : Option String :=
  match action.get "command" with
  | some (.string command) =>
    if isAllOff command then payloadText "\x7b\x7d"
    else match action.get "args" with
      | some (.object members) =>
        match (Json.object members).get "output" with
        | some (.string output) =>
          match resolveOutputChannel config command output, commandFields command with
          | some channel, some fields =>
            match fields.mapM (ArgField.write (.object members)) with
            | some texts =>
              payloadText
                ("\x7b\"channel\":" ++ toString channel ++ String.join texts ++ "\x7d")
            | none => none
          | _, _ => none
        | _ => none
      | _ => none
  | _ => none

/-! ### Events -/

/-- `%04x` of a control character. -/
def hexByte (c : Char) : String :=
  "00" ++ String.ofList [Nat.digitChar (c.toNat / 16), Nat.digitChar (c.toNat % 16)]

/-- `node_json_append_escaped` on one character. -/
def escapeChar (c : Char) : String :=
  if c = '"' then "\\\""
  else if c = '\\' then "\\\\"
  else if c = '\x08' then "\\b"
  else if c = '\x0c' then "\\f"
  else if c = '\n' then "\\n"
  else if c = '\r' then "\\r"
  else if c = '\t' then "\\t"
  else if c.toNat < 32 then "\\u" ++ hexByte c
  else c.toString

/-- `node_json_escape_string`, whose buffer is as large as the payload. -/
def escapeString (text : String) : String := String.join (text.toList.map escapeChar)

/-- One argument of an event. -/
def emitArg (member : String × Json) : Option String :=
  match member.2 with
  | .bool on => some ("\"" ++ escapeString member.1 ++ "\":" ++ if on then "true" else "false")
  | .number x => some ("\"" ++ escapeString member.1 ++ "\":" ++ toString (castInt32 x))
  | .string s => some ("\"" ++ escapeString member.1 ++ "\":\"" ++ escapeString s ++ "\"")
  | _ => none

def buildEmitArgsJson : Option Json → Option String
  | none => some "\x7b\x7d"
  | some (.object members) =>
    match members.mapM emitArg with
    | some texts => payloadText ("\x7b" ++ String.intercalate "," texts ++ "\x7d")
    | none => none
  | some _ => none

end SceneHub.Node
