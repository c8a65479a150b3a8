import SceneHub.Session.Wait
import SceneHub.Storage.Stored

/-!
# Preparing a Scenario

Before a scenario runs, `scenehub_control.c` looks up every device event its
steps, actions and triggers name. Each pair of a device and an event is looked up
once and kept in a table; the places of the scenario hold indices into it.

A wait needs its device to be enabled, a trigger does not. A pair that a trigger
has named is looked up once more when a wait names it.

## Main definitions

* `Catalogue`: The device catalogue, as `quest_device.c` answers.
* `resolveDeviceEventRef`: Looking up one event.
* `prepareEventRef`: Entering one event into the table.
* `prepareSessionScenario`: Preparing a whole scenario.
-/

namespace SceneHub

/-- What is read of a `quest_device_t`. -/
structure CatalogueDevice where
  enabled : Bool
  clientId : String
  deriving DecidableEq, Repr

/-- What is read of a `quest_device_event_t`. -/
structure CatalogueEvent where
  id : String
  event : String := ""
  matchJson : String := ""
  deriving DecidableEq, Repr

/-- The answers of `quest_device_get` and `quest_device_get_event`. -/
structure Catalogue where
  device : String → Except EspErr CatalogueDevice
  event : String → String → Except EspErr CatalogueEvent

/-- `ROOM_SCENARIO_EVENT_TYPE_MAX_LEN`. The name of an event may be longer. -/
def eventTypeMaxLen : Nat := 32

/-- `quest_str_copy` into an array of `size` bytes. -/
def questStrCopy (size : Nat) (text : String) : String :=
  String.ofList (text.toList.take (size - 1))

def resolveDeviceEventRef (cat : Catalogue) (eventRef : Stored.WaitDeviceEvent)
    (requireEnabled : Bool) : Except EspErr PreparedEventRef :=
  if eventRef.deviceId = "" ∨ eventRef.eventId = "" then .error .invalidArg
  else
    match cat.device eventRef.deviceId with
    | .error err => .error err
    | .ok device =>
      if requireEnabled ∧ !device.enabled then .error .invalidState
      else
        match cat.event eventRef.deviceId eventRef.eventId with
        | .error err => .error err
        | .ok event =>
          .ok
            { waitMatch :=
                { deviceId := eventRef.deviceId
                  eventId := eventRef.eventId
                  eventType :=
                    questStrCopy eventTypeMaxLen
                      (if event.event ≠ "" then event.event else event.id)
                  sourceId := if eventRef.deviceId = "system_audio" then "" else device.clientId
                  matchJson := event.matchJson }
              alternateEventType :=
                if event.event ≠ "" ∧ event.event ≠ event.id then event.id else "" }

/-- An entry of the table while it is built, `gm_room_session_prepared_event_ref_t`. -/
structure PreparedRef where
  ref : PreparedEventRef
  enabledDeviceValidated : Bool
  deriving DecidableEq, Repr

/-- The entry is for the pair. -/
def PreparedRef.isFor (dst : PreparedRef) (eventRef : Stored.WaitDeviceEvent) : Bool :=
  dst.ref.waitMatch.deviceId = eventRef.deviceId && dst.ref.waitMatch.eventId = eventRef.eventId

/-- `scenehub_control_prepare_event_ref`: the index of the pair, and the table. -/
def prepareEventRef (cat : Catalogue) (refs : List PreparedRef) (eventRef : Stored.WaitDeviceEvent)
    (requireEnabled : Bool) : Except EspErr (Nat × List PreparedRef) :=
  if eventRef.deviceId = "" ∨ eventRef.eventId = "" then .error .invalidArg
  else
    match refs.findIdx? fun dst => dst.isFor eventRef with
    | some i =>
      if requireEnabled ∧ !((refs[i]?).any PreparedRef.enabledDeviceValidated) then
        match resolveDeviceEventRef cat eventRef true with
        | .error err => .error err
        | .ok ref => .ok (i, refs.set i { ref, enabledDeviceValidated := true })
      else .ok (i, refs)
    | none =>
      if preparedEventRefMax ≤ refs.length then .error .noMem
      else
        match resolveDeviceEventRef cat eventRef requireEnabled with
        | .error err => .error err
        | .ok ref =>
          .ok (refs.length, refs ++ [{ ref, enabledDeviceValidated := requireEnabled }])

/-- The loop of `scenehub_control_prepare_event_resolution`. -/
def prepareEventRefs (cat : Catalogue) (requireEnabled : Bool) :
    List Stored.WaitDeviceEvent → List PreparedRef → Except EspErr (List Nat × List PreparedRef)
  | [], refs => .ok ([], refs)
  | eventRef :: rest, refs =>
    match prepareEventRef cat refs eventRef requireEnabled with
    | .error err => .error err
    | .ok (i, refs) =>
      match prepareEventRefs cat requireEnabled rest refs with
      | .error err => .error err
      | .ok (is, refs) => .ok (i :: is, refs)

def prepareEventResolution (cat : Catalogue) (requireEnabled : Bool)
    (eventRefs : List Stored.WaitDeviceEvent) (refs : List PreparedRef) :
    Except EspErr (PreparedEventResolution × List PreparedRef) :=
  if eventRefs.length = 0 ∨ waitEventGroupMaxEvents < eventRefs.length then .error .invalidArg
  else
    match prepareEventRefs cat requireEnabled eventRefs refs with
    | .error err => .error err
    | .ok (is, refs) => .ok ({ present := true, eventRefIndices := is }, refs)

/-! ### The places of a scenario -/

/-- The events a step waits for, in the `switch` of `scenehub_control_prepare_wait`. -/
def Stored.StepData.waitEvents : Stored.StepData → Option (List Stored.WaitDeviceEvent)
  | .waitDeviceEvent wait => some [wait]
  | .waitAnyDeviceEvent wait | .waitAllDeviceEvents wait => some wait.events
  | _ => none

/-- The same for an action. -/
def Stored.ActionData.waitEvents : Stored.ActionData → Option (List Stored.WaitDeviceEvent)
  | .waitDeviceEvent wait => some [wait]
  | .waitAnyDeviceEvent wait | .waitAllDeviceEvents wait => some wait.events
  | _ => none

/-- The events of a trigger, in `scenehub_control_prepare_reactive_trigger`. -/
def Stored.Trigger.triggerEvents (trigger : Stored.Trigger) :
    Option (List Stored.WaitDeviceEvent) :=
  match trigger.kind with
  | .deviceEvent => some [{ deviceId := trigger.deviceId, eventId := trigger.eventId }]
  | .anyDeviceEvents | .allDeviceEvents => some trigger.events
  | _ => none

/-- The places of the steps: a disabled step is passed over. -/
def Stored.Scenario.stepPlaces (s : Stored.Scenario) :
    List (Option (List Stored.WaitDeviceEvent)) :=
  s.steps.map fun step => if step.enabled then step.data.waitEvents else none

def Stored.Scenario.actionPlaces (s : Stored.Scenario) :
    List (Option (List Stored.WaitDeviceEvent)) :=
  s.reactiveActions.map fun action => action.data.waitEvents

def Stored.Scenario.triggerPlaces (s : Stored.Scenario) :
    List (Option (List Stored.WaitDeviceEvent)) :=
  s.branches.map fun branch => branch.reaction.trigger.triggerEvents

/-- A loop of `scenehub_control_prepare_session_scenario`. What names no events
    keeps the zeroed entry. -/
def preparePlaces (cat : Catalogue) (requireEnabled : Bool) :
    List (Option (List Stored.WaitDeviceEvent)) → List PreparedRef →
      Except EspErr (List PreparedEventResolution × List PreparedRef)
  | [], refs => .ok ([], refs)
  | none :: rest, refs =>
    match preparePlaces cat requireEnabled rest refs with
    | .error err => .error err
    | .ok (out, refs) => .ok ({} :: out, refs)
  | some eventRefs :: rest, refs =>
    match prepareEventResolution cat requireEnabled eventRefs refs with
    | .error err => .error err
    | .ok (resolution, refs) =>
      match preparePlaces cat requireEnabled rest refs with
      | .error err => .error err
      | .ok (out, refs) => .ok (resolution :: out, refs)

def prepareSessionScenario (cat : Catalogue) (s : Stored.Scenario) :
    Except EspErr PreparedScenario :=
  if maxSteps < s.steps.length ∨ maxReactiveActions < s.reactiveActions.length ∨
      maxBranches < s.branches.length then .error .invalidArg
  else
    match preparePlaces cat true s.stepPlaces [] with
    | .error err => .error err
    | .ok (stepWaits, refs) =>
      match preparePlaces cat true s.actionPlaces refs with
      | .error err => .error err
      | .ok (actionWaits, refs) =>
        match preparePlaces cat false s.triggerPlaces refs with
        | .error err => .error err
        | .ok (triggers, refs) =>
          .ok
            { eventRefs := refs.map PreparedRef.ref
              stepWaits := stepWaits
              reactiveActionWaits := actionWaits
              reactiveTriggers := triggers }

end SceneHub
