import SceneHub.Executor.Resolver

/-!
# Carrying Out a Command

How the executor comes by the arguments of a command. A command of the audio player and of
the hardware reads them one by one. To any other device a command is sent as a message,
with the default arguments and the parameters copied into it member by member.

## Main definitions

* `Route`, `route`: Where `command_executor_execute_resolved` takes a command.
* `Call`, `commandCalls`: What a command reads.
* `buildCommandPayload`: The message to a device.
-/

namespace SceneHub.Executor

/-! ### Where a command is taken -/

def systemAudioId : String := "system_audio"
def systemRelayId : String := "system_relay"
def systemMosfetId : String := "system_mosfet"
def systemIoId : String := "system_io"

inductive Route where
  | audio
  | hardware
  | mqtt
  deriving DecidableEq, Repr

/-- The branches of `command_executor_execute_resolved`. -/
def route (deviceId : String) (command : Command) : Route :=
  if deviceId = systemAudioId ∨ "audio.".toList.isPrefixOf command.command.toList then .audio
  else if deviceId = systemRelayId ∨ deviceId = systemMosfetId ∨ deviceId = systemIoId then
    .hardware
  else .mqtt

/-! ### What a command reads -/

/-- A call of `command_executor_params_get_int`, `_bool` or `_string`. -/
inductive Call where
  | int (key : String) (required : Bool)
  | bool (key : String) (required : Bool)
  | string (key : String) (size : Nat) (required : Bool)
  deriving DecidableEq, Repr

def isCommand (command : Command) (id name : String) : Bool :=
  command.id = id || command.command = name

/-- The calls of `command_executor_execute_audio`. -/
def audioCalls (command : Command) : List Call :=
  if isCommand command "play" "audio.play" then
    [.string "file" 256 true, .int "volume" false, .string "channel" 24 false,
      .bool "repeat" false]
  else if isCommand command "stop" "audio.stop" then
    [.string "channel" 24 false, .bool "wait" false]
  else if isCommand command "pause" "audio.pause" then []
  else if isCommand command "resume" "audio.resume" then []
  else if isCommand command "set_volume" "audio.set_volume" then [.int "volume" true]
  else []

/-- The calls of `hardware_execute_relay`. -/
def relayCalls (command : Command) : List Call :=
  .int "channel" true ::
    if isCommand command "set" "relay.set" then [.bool "on" true]
    else if isCommand command "pulse" "relay.pulse" then [.int "duration_ms" true]
    else if isCommand command "blink" "relay.blink" then
      [.int "on_ms" true, .int "off_ms" true, .int "count" true, .bool "final_on" false]
    else []

/-- The calls of `hardware_execute_mosfet`. -/
def mosfetCalls (command : Command) : List Call :=
  if isCommand command "all_off" "mosfet.all_off" then []
  else .int "channel" true ::
    if isCommand command "set" "mosfet.set" then [.int "value" true]
    else if isCommand command "fade" "mosfet.fade" then
      [.int "target" true, .int "duration_ms" true]
    else if isCommand command "pulse" "mosfet.pulse" then
      [.int "value" true, .int "duration_ms" true]
    else if isCommand command "blink" "mosfet.blink" then
      [.int "value" true, .int "final_value" false, .int "on_ms" true, .int "off_ms" true,
        .int "count" true]
    else if isCommand command "breathe" "mosfet.breathe" then
      [.int "min" true, .int "max" true, .int "final_value" false, .int "fade_ms" true,
        .int "hold_ms" true, .int "count" true]
    else []

/-- The calls of `hardware_execute_io`. -/
def ioCalls (command : Command) : List Call :=
  .int "channel" true ::
    if isCommand command "set" "io.set" then [.bool "active" true]
    else if isCommand command "pulse" "io.pulse" then
      [.bool "active" true, .int "duration_ms" true]
    else if isCommand command "blink" "io.blink" then
      [.int "on_ms" true, .int "off_ms" true, .int "count" true, .bool "final_active" false]
    else []

/-- The calls of `command_executor_execute_hardware`. -/
def hardwareCalls (deviceId : String) (command : Command) : List Call :=
  if deviceId = systemRelayId then relayCalls command
  else if deviceId = systemMosfetId then mosfetCalls command
  else if deviceId = systemIoId then ioCalls command
  else []

/-- The calls of a command on the way it is taken. A message to a device needs none. -/
def commandCalls (deviceId : String) (command : Command) : List Call :=
  match route deviceId command with
  | .audio => audioCalls command
  | .hardware => hardwareCalls deviceId command
  | .mqtt => []

/-! ### The message to a device -/

def mqttPayloadMaxLen : Nat := 512

/-- `writer_putn`: a text behind what is written, if there is room for it and a zero. -/
def writerPutn (written text : List Char) : Except EspErr (List Char) :=
  if mqttPayloadMaxLen ≤ written.length + text.length then .error .invalidSize
  else .ok (written ++ text)

/-- What `writer_put_escaped` writes for a byte. -/
def escaped (c : Char) : List Char :=
  if c = '"' then ['\\', '"']
  else if c = '\\' then ['\\', '\\']
  else if c = '\n' then ['\\', 'n']
  else if c = '\r' then ['\\', 'r']
  else if c = '\t' then ['\\', 't']
  else [c]

/-- Writing one text behind the other. -/
def writerPutAll : List (List Char) → List Char → Except EspErr (List Char)
  | [], written => .ok written
  | text :: texts, written =>
    match writerPutn written text with
    | .error err => .error err
    | .ok written => writerPutAll texts written

def writerPutEscaped (text written : List Char) : Except EspErr (List Char) :=
  writerPutAll (['"'] :: text.map escaped ++ [['"']]) written

/-- The size of `stack` in `json_skip_value`. -/
def stackSize : Nat := 8

/-- The loop of `json_skip_value` over an object or an array, with the brackets that are
    open. -/
def jsonSkipNested : List JsonText.Bracket → Ingest.Nesting → List Char → Option (List Char)
  | _, _, [] => none
  | stack, .escaped, _ :: rest => jsonSkipNested stack .quoted rest
  | stack, .quoted, c :: rest =>
    jsonSkipNested stack (if c = '\\' then .escaped else if c = '"' then .plain else .quoted) rest
  | stack, .plain, c :: rest =>
    if c = '"' then jsonSkipNested stack .quoted rest
    else if c = '{' ∨ c = '[' then
      if stackSize ≤ stack.length then none
      else jsonSkipNested ((if c = '{' then .brace else .square) :: stack) .plain rest
    else if c = '}' ∨ c = ']' then
      match stack with
      | [] => none
      | top :: below =>
        if c ≠ top.closing then none
        else if below = [] then some rest
        else jsonSkipNested below .plain rest
    else jsonSkipNested stack .plain rest

def jsonSkipValue : List Char → Option (List Char) :=
  skipValueWith fun b => jsonSkipNested [b] .plain

/-- What `json_next_pair` finds: the closing bracket, which it reports as not found, or a
    member with its key. -/
inductive NextPair where
  | close (rest : List Char)
  | pair (text key rest : List Char)
  deriving DecidableEq, Repr

def upTo (text cursor : List Char) : List Char := text.take (text.length - cursor.length)

/-- The part of `json_next_pair` behind the key. -/
def pairValue (start key text : List Char) : Except EspErr NextPair :=
  match Ingest.skipWs text with
  | [] => .error .invalidArg
  | c :: rest =>
    if c ≠ ':' then .error .invalidArg
    else match jsonSkipValue rest with
      | none => .error .invalidArg
      | some valueEnd =>
        match Ingest.skipWs valueEnd with
        | [] => .error .invalidArg
        | c :: rest =>
          if c = ',' then .ok (.pair (upTo start valueEnd) key rest)
          else if c = '}' then .ok (.pair (upTo start valueEnd) key (c :: rest))
          else .error .invalidArg

def jsonNextPair (text : List Char) : Except EspErr NextPair :=
  match Ingest.skipWs text with
  | [] => .error .invalidArg
  | c :: rest =>
    if c = '}' then .ok (.close rest)
    else if c ≠ '"' then .error .invalidArg
    else match Ingest.readKey rest with
      | .error err => .error err
      | .ok (key, behind) => pairValue (c :: rest) key behind

/-- The loop of `json_object_has_key`. Every member is shorter than the text, which bounds
    their number. -/
def hasKey (key : List Char) : Nat → List Char → Bool
  | 0, _ => false
  | fuel + 1, text =>
    match jsonNextPair text with
    | .ok (.pair _ k rest) => if k = key then true else hasKey key fuel rest
    | _ => false

def jsonObjectHasKey (json key : List Char) : Bool :=
  match Ingest.skipWs json with
  | [] => false
  | c :: rest => if c = '{' then hasKey key (rest.length + 1) rest else false

def writerPutPair (written pair : List Char) (first : Bool) : Except EspErr (List Char) :=
  if first then writerPutn written pair
  else match writerPutn written [','] with
    | .error err => .error err
    | .ok written => writerPutn written pair

/-- The loop of `writer_put_object_pairs`: what is written, and whether the next member is
    the first one. -/
def putPairs (skip : List Char → Bool) : Nat → List Char → List Char → Bool →
    Except EspErr (List Char × Bool)
  | 0, _, _, _ => .error .fail
  | fuel + 1, text, written, first =>
    match jsonNextPair text with
    | .error err => .error err
    | .ok (.close _) => .ok (written, first)
    | .ok (.pair pair key rest) =>
      if skip key then putPairs skip fuel rest written first
      else match writerPutPair written pair first with
        | .error err => .error err
        | .ok written => putPairs skip fuel rest written false

def writerPutObjectPairs (json : List Char) (skip : List Char → Bool) (written : List Char)
    (first : Bool) : Except EspErr (List Char × Bool) :=
  if json = [] then .ok (written, first)
  else match Ingest.skipWs json with
    | [] => .error .invalidArg
    | c :: rest =>
      if c = '{' then putPairs skip (rest.length + 1) rest written first
      else .error .invalidArg

/-- The part of the message up to the arguments. -/
def putHead (requestId command : List Char) : Except EspErr (List Char) := do
  let written ← writerPutn [] "\x7b\"request_id\":".toList
  let written ← writerPutEscaped requestId written
  let written ← writerPutn written ",\"command\":".toList
  let written ← writerPutEscaped command written
  writerPutn written (",\"args\":".toList ++ ['{'])

def buildCommandPayload (requestId command defaultArgs params : List Char) (nowMs : Int) :
    Except EspErr (List Char) := do
  let written ← putHead requestId command
  let pairs ← writerPutObjectPairs defaultArgs (jsonObjectHasKey params) written true
  let pairs ← writerPutObjectPairs params (fun _ => false) pairs.1 pairs.2
  writerPutAll ['}' :: ",\"ts_ms\":".toList, (toString nowMs).toList, ['}']] pairs.1

end SceneHub.Executor
