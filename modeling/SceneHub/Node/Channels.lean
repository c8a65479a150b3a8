import SceneHub.Json

/-!
# Names and Channels of a Node

How the texts of a rule bundle name the pins of a node: the helpers at the head
of `node_rule_compile.c`, which `node_rule_schema.c` repeats, and the identifier
check of `node_text.c`.

A pin is named by its number behind a prefix, or by its label once that is
brought into the form of an identifier.

## Main definitions

* `NodeConfig`: The pins of a node.
* `identifierValid`: What may name a state, a timer or an event.
* `logicalChannelFromName`, `labelMatchesName`: The two ways to name a pin.
* `resolveOutputChannel`, `resolveInputChannel`: The pin a rule means.
-/

namespace SceneHub.Node

def eventNameMaxLen : Nat := 48

/-- `node_pin_role_t`, as far as rules tell pins apart. -/
inductive PinRole where
  | input
  | output
  | other
  deriving DecidableEq, Repr

/-- A relay, a MOSFET, a universal pin or an LED strip. Only universal pins have
    a role. -/
structure Pin where
  enabled : Bool := false
  channel : Nat := 0
  role : PinRole := .other
  label : String := ""
  deriving DecidableEq, Repr

/-- The part of `node_config_t` that rules name. -/
structure NodeConfig where
  relays : List Pin := []
  mosfets : List Pin := []
  universalIo : List Pin := []
  ledStrips : List Pin := []
  deriving DecidableEq, Repr

/-! ### Texts -/

def identifierValid (text : String) (maxLen : Nat) : Bool :=
  text ≠ "" && text.length ≤ maxLen &&
  text.toList.all fun c => c.isAlphanum || c = '_' || c = '.' || c = ':' || c = '-'

def nonemptyText (text : String) (maxLen : Nat) : Bool :=
  text ≠ "" && text.utf8ByteSize ≤ maxLen

/-- `snprintf(buf, size, "%s", text)` on a text of single bytes. -/
def cutText (size : Nat) (text : String) : String := String.ofList (text.toList.take (size - 1))

def isSpace (c : Char) : Bool :=
  c = ' ' || c = '\t' || c = '\n' || c = '\x0b' || c = '\x0c' || c = '\r'

/-- `strtol(text, &end, 10)`: the value, and the text at `end`. The limits of
    `long` are far beyond any channel. -/
def strtol (text : List Char) : Int × List Char :=
  let body := text.dropWhile isSpace
  let (negative, body) :=
    match body with
    | '-' :: rest => (true, rest)
    | '+' :: rest => (false, rest)
    | rest => (false, rest)
  let digits := body.takeWhile Char.isDigit
  if digits = [] then (0, text)
  else
    let value : Nat := digits.foldl (fun n c => n * 10 + (c.toNat - '0'.toNat)) 0
    (if negative then -value else value, body.dropWhile Char.isDigit)

/-- `logical_channel_from_name`; `none` is the negative result. -/
def logicalChannelFromName (name before : String) : Option Nat :=
  if !before.toList.isPrefixOf name.toList then none
  else
    let (value, rest) := strtol (name.toList.drop before.length)
    if rest ≠ [] ∨ value ≤ 0 ∨ 255 < value then none else some value.toNat

/-- The loop of `normalize_name`, on what it has written. -/
def normalizeLoop (size : Nat) : List Char → List Char → Bool → Option (List Char)
  | [], written, _ => some written
  | c :: rest, written, lastUnderscore =>
    if c.isAlphanum then
      if size ≤ written.length + 1 then none
      else normalizeLoop size rest (written ++ [c.toLower]) false
    else if !lastUnderscore ∧ written ≠ [] then
      if size ≤ written.length + 1 then none
      else normalizeLoop size rest (written ++ ['_']) true
    else normalizeLoop size rest written lastUnderscore

def normalizeName (size : Nat) (text : String) : Option String :=
  match normalizeLoop size text.toList [] false with
  | none => none
  | some written =>
    let kept := (written.reverse.dropWhile fun c => c = '_').reverse
    if kept = [] then none else some (String.ofList kept)

def labelMatchesName (label expected : String) : Bool := normalizeName 32 label = some expected

/-! ### Pins -/

def NodeConfig.inputs (config : NodeConfig) : List Pin :=
  config.universalIo.filter fun pin => pin.role = .input

def NodeConfig.outputs (config : NodeConfig) : List Pin :=
  config.universalIo.filter fun pin => pin.role = .output

/-- The branch of `resolve_output_channel` for one family of pins, whose names
    start with one of `prefixes`. Without a configuration the number counts. -/
def resolvePin (config : Option NodeConfig) (pins : NodeConfig → List Pin)
    (prefixes : List String) (name : String) : Option Nat :=
  match prefixes.findSome? (logicalChannelFromName name) with
  | none => none
  | some channel =>
    match config with
    | none => some channel
    | some config =>
      ((pins config).find? fun pin =>
        pin.enabled && (pin.channel = channel || labelMatchesName pin.label name)).map Pin.channel

/-- `strncmp(command, family, strlen(family)) == 0`. -/
def startsWith (command family : String) : Bool := family.toList.isPrefixOf command.toList

def resolveOutputChannel (config : Option NodeConfig) (command outputName : String) : Option Nat :=
  if startsWith command "relay." then resolvePin config NodeConfig.relays ["relay_"] outputName
  else if startsWith command "mosfet." then
    resolvePin config NodeConfig.mosfets ["mosfet_"] outputName
  else if startsWith command "io." then
    resolvePin config NodeConfig.outputs ["output_", "io_"] outputName
  else if startsWith command "led." then
    resolvePin config NodeConfig.ledStrips ["strip_", "led_strip_"] outputName
  else none

/-- `resolve_input_channel`. With a configuration a label is enough. -/
def resolveInputChannel (config : Option NodeConfig) (inputName : String) : Option Nat :=
  let channel := logicalChannelFromName inputName "input_"
  match config with
  | none => channel
  | some config =>
    (config.inputs.find? fun pin =>
      pin.enabled && (channel = some pin.channel || labelMatchesName pin.label inputName)).map
      Pin.channel

end SceneHub.Node
