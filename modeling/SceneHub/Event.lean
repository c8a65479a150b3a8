import SceneHub.JsonMatch

/-!
# Events

Bus events and what a wait makes of them: `scenehub_events.c`,
`scenehub_command_result.h`, and the field matching of
`gm_room_session_events.c`.

## Main definitions

* `Event`: A bus event; the payload constructor is the payload type.
* `WaitEventMatch`: What a device-event wait was resolved to.
* `waitEventMatchesMessage`: Whether one resolved match accepts an event.
-/

namespace SceneHub

inductive EventType where
  | none
  | cardOk
  | cardBad
  | relayCmd
  | audioPlay
  | audioFinished
  | volumeSet
  | webCommand
  | systemStatus
  | scenarioTrigger
  | deviceConfigChanged
  | mqttMessage
  | flagChanged
  | deviceStatus
  | deviceRuntime
  | deviceControl
  | runtimeControl
  deriving DecidableEq, Repr

def EventType.toString : EventType → String
  | .cardOk => "card_ok"
  | .cardBad => "card_bad"
  | .relayCmd => "relay_cmd"
  | .audioPlay => "audio_play"
  | .audioFinished => "audio_finished"
  | .volumeSet => "volume_set"
  | .webCommand => "web_command"
  | .systemStatus => "system_status"
  | .scenarioTrigger => "scenario_trigger"
  | .deviceConfigChanged => "device_config_changed"
  | .mqttMessage => "mqtt_message"
  | .flagChanged => "flag_changed"
  | .deviceStatus => "device_status"
  | .deviceRuntime => "device_runtime"
  | .deviceControl => "device_control"
  | .runtimeControl => "runtime_control"
  | .none => "none"

inductive EventData where
  | text
  | deviceStatus (deviceId connectivity health state : String)
  | deviceRuntime (deviceId runtimeType state : String)
  | deviceControl (deviceId actionId source argsJson : String)
  deriving DecidableEq, Repr

structure Event where
  type : EventType
  topic : String := ""
  payload : String := ""
  data : EventData := .text
  deriving DecidableEq, Repr

namespace Event

def sourceId (event : Event) : String :=
  match event.data with
  | .deviceStatus deviceId _ _ _ => deviceId
  | .deviceRuntime deviceId _ _ => deviceId
  | .deviceControl deviceId _ _ _ => deviceId
  | .text => event.topic

def isDeviceControlFrom (event : Event) (expected : String) : Bool :=
  match event.data with
  | .deviceControl _ _ source _ => event.type = .deviceControl && source = expected
  | _ => false

def isDeviceControlEvent (event : Event) : Bool := event.isDeviceControlFrom "event"

def isDeviceControlResult (event : Event) : Bool := event.isDeviceControlFrom "result"

/-- `message->data.device_control.action_id`, read for a control event only. -/
def actionId (event : Event) : String :=
  match event.data with
  | .deviceControl _ actionId _ _ => actionId
  | _ => ""

/-- `message->data.device_control.args_json`, read for a control event only. -/
def argsJson (event : Event) : String :=
  match event.data with
  | .deviceControl _ _ _ argsJson => argsJson
  | _ => ""

/-- `scenehub_event_make_device_control_result`, where both ids are non-empty. -/
def makeDeviceControlResult (deviceId requestId resultPayload : String) : Event :=
  { type := .deviceControl, payload := resultPayload,
    data := .deviceControl deviceId requestId "result" "" }

end Event

def commandResultIsPending (status : String) : Bool :=
  status = "accepted" || status = "started"

def commandResultIsSuccess (status : String) : Bool := status = "done"

def commandResultIsFailure (status : String) : Bool :=
  status = "failed" || status = "rejected" || status = "timeout"

def commandResultIsTerminal (status : String) : Bool :=
  commandResultIsSuccess status || commandResultIsFailure status

structure WaitEventMatch where
  deviceId : String := ""
  eventId : String := ""
  eventType : String := ""
  sourceId : String := ""
  matchJson : String := ""
  deriving DecidableEq, Repr, Inhabited

/-- An empty expectation matches everything. -/
def matchField (expected actual : String) : Bool := expected = "" || expected = actual

def waitEventTypeMatches (expected : String) (message : Event) : Bool :=
  matchField expected message.type.toString ||
  matchField expected message.topic ||
  matchField expected message.payload ||
  match message.data with
  | .deviceStatus _ connectivity health state =>
    matchField expected state || matchField expected health || matchField expected connectivity
  | .deviceRuntime _ runtimeType state =>
    matchField expected runtimeType || matchField expected state
  | .deviceControl _ actionId _ _ => matchField expected actionId
  | .text => false

def deviceControlEventPayloadMatches (expected : WaitEventMatch) (message : Event) : Bool :=
  if expected.deviceId = "" ∨ expected.eventId = "" then false
  else if !message.isDeviceControlEvent then false
  else if expected.matchJson = "" ∨ JsonMatch.isEmptyObject expected.matchJson.toList then true
  else if message.argsJson = "" then false
  else JsonMatch.objectContainsExpected expected.matchJson message.argsJson

def waitEventMatchesMessage (expected : WaitEventMatch) (message : Event) : Bool :=
  let sourceMatches :=
    matchField expected.sourceId message.sourceId ||
    (expected.deviceId ≠ "" && matchField expected.deviceId message.sourceId)
  if !waitEventTypeMatches expected.eventType message then false
  else if !sourceMatches then false
  else if expected.deviceId = "" ∨ expected.eventId = "" then true
  else deviceControlEventPayloadMatches expected message

/-- `reactive_v2_event_id_matches`. Unlike `matchField`, an empty expectation
    matches nothing. -/
def reactiveEventIdMatches (expected : String) (message : Event) : Bool :=
  if expected = "" then false
  else if expected = message.payload ∨ expected = message.topic then true
  else match message.data with
    | .deviceControl _ actionId _ _ => expected = actionId
    | .deviceRuntime _ runtimeType state => expected = runtimeType || expected = state
    | .deviceStatus _ connectivity health state =>
      expected = state || expected = health || expected = connectivity
    | .text => false

end SceneHub
