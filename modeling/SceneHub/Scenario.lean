/-!
# Room Scenarios

The program a room session runs: the records of `room_scenario.h`.

A scenario is a flat list of steps cut into branches. A normal branch, and a
reactive branch of the first format, owns a range of steps. A reactive branch
of the second format owns a trigger, a choice of variants, and through each
variant a range of the shared action table. Nothing in this file runs; the
session modules interpret it.

Texts are `String`s. The C arrays a text is copied between have the same size
throughout the session code, so no copy made here truncates. A union tagged by
a type field becomes an inductive type whose constructors are the tags, and a
counted array becomes a list whose length is the count.

## Main definitions

* `StepBody`: The step types with the data each carries.
* `ActionBody`: The same for reactive actions.
* `ScenarioBranch`: A branch as the scenario store holds it.
* `RoomScenario`: A whole scenario.
-/

namespace SceneHub

def commandGroupMaxCommands : Nat := 4

def waitEventGroupMaxEvents : Nat := 4

def waitFlagsMaxFlags : Nat := 8

def maxBranches : Nat := 8

def maxReactiveGroupCommands : Nat := 8

inductive BranchType where
  | normal
  | reactive
  deriving DecidableEq, Repr

inductive ReentryMode where
  | ignore
  | queueOne
  | restart
  | parallel
  deriving DecidableEq, Repr

inductive TriggerKind where
  | none
  | deviceEvent
  | anyDeviceEvents
  | allDeviceEvents
  | flagChanged
  | operatorEvent
  | runtimeEvent
  deriving DecidableEq, Repr

inductive PolicyMode where
  | single
  | rotate
  | random
  | escalate
  deriving DecidableEq, Repr

inductive ResultAction where
  | continue
  | setFlag
  | failReaction
  | failScenario
  | retry
  deriving DecidableEq, Repr

inductive TimeoutAction where
  | continue
  | failReaction
  | resetReaction
  deriving DecidableEq, Repr

inductive GroupMode where
  | sequential
  | parallel
  deriving DecidableEq, Repr

structure DeviceCommand where
  deviceId : String
  commandId : String
  paramsJson : String
  deriving DecidableEq, Repr, Inhabited

/-- `room_scenario_device_command_group_t`: the list's length is `command_count`. -/
structure DeviceCommandGroup where
  commands : List DeviceCommand
  deriving DecidableEq, Repr

/-- What the runtime reads of `room_scenario_wait_device_event_t`. The device
    and event ids are resolved when the scenario is prepared, so the runtime
    reads them from the prepared scenario instead. -/
structure WaitDeviceEvent where
  timeoutMs : UInt32
  timeoutAction : TimeoutAction
  timeoutMessage : String
  deriving DecidableEq, Repr

/-- What the runtime reads of `room_scenario_wait_any_device_event_t` and of
    `room_scenario_wait_all_device_events_t`, which is the same type. -/
structure WaitGroupEvents where
  eventCount : Nat
  timeoutMs : UInt32
  timeoutAction : TimeoutAction
  deriving DecidableEq, Repr

structure WaitTime where
  durationMs : UInt32
  timeoutAction : TimeoutAction
  deriving DecidableEq, Repr

structure OperatorApproval where
  prompt : String
  approveLabel : String
  deriving DecidableEq, Repr

/-- `room_scenario_set_flag_t`, `room_scenario_flag_condition_t` and
    `gm_room_scenario_flag_t`: a flag name with a value. -/
structure Flag where
  name : String
  value : Bool
  deriving DecidableEq, Repr, Inhabited

structure WaitFlags where
  flags : List Flag
  timeoutMs : UInt32
  timeoutAction : TimeoutAction
  timeoutMessage : String
  deriving DecidableEq, Repr

/-- A step's type together with the union member that type selects. -/
inductive StepBody where
  | waitTime (wait : WaitTime)
  | operatorApproval (approval : OperatorApproval)
  | deviceCommand (command : DeviceCommand)
  | waitDeviceEvent (wait : WaitDeviceEvent)
  | deviceCommandGroup (group : DeviceCommandGroup)
  | showOperatorMessage (message : String)
  | setFlag (flag : Flag)
  | waitFlags (wait : WaitFlags)
  | waitAnyDeviceEvent (wait : WaitGroupEvents)
  | waitAllDeviceEvents (wait : WaitGroupEvents)
  | failReaction
  | resetReaction
  | endGame
  deriving DecidableEq, Repr

structure ScenarioStep where
  body : StepBody
  enabled : Bool := true
  allowOperatorSkip : Bool := false
  operatorSkipLabel : String := ""
  deriving DecidableEq, Repr

/-- A reactive action's type together with its data. The types the runtime
    refuses in a reaction carry none. -/
inductive ActionBody where
  | waitTime (wait : WaitTime)
  | operatorApproval
  | deviceCommand (command : DeviceCommand)
  | waitDeviceEvent (wait : WaitDeviceEvent)
  | deviceCommandGroup (mode : GroupMode) (startIndex count : Nat)
  | showOperatorMessage (message : String)
  | setFlag (flag : Flag)
  | waitFlags (wait : WaitFlags)
  | waitAnyDeviceEvent (wait : WaitGroupEvents)
  | waitAllDeviceEvents (wait : WaitGroupEvents)
  | failReaction
  | resetReaction
  | endGame
  deriving DecidableEq, Repr

structure ReactiveVariant where
  actionStartIndex : Nat
  actionCount : Nat
  deriving DecidableEq, Repr, Inhabited

/-- What the runtime reads of `room_scenario_reactive_trigger_t`. -/
structure ReactiveTrigger where
  kind : TriggerKind := .none
  flagName : String := ""
  runtimeEvent : String := ""
  operatorEvent : String := ""
  deriving DecidableEq, Repr

structure ScenarioBranch where
  id : String := ""
  type : BranchType := .normal
  enabled : Bool := true
  requiredForCompletion : Bool := false
  policyMode : PolicyMode := .single
  cooldownMs : UInt32 := 0
  maxFireCount : UInt32 := 0
  runOnce : Bool := false
  reentryMode : ReentryMode := .ignore
  trigger : ReactiveTrigger := {}
  guardFlags : List Flag := []
  resultOnDone : ResultAction := .continue
  resultOnFail : ResultAction := .failReaction
  resultOnTimeout : ResultAction := .failReaction
  resultFlag : String := ""
  variantStartIndex : Nat := 0
  variantCount : Nat := 0
  onCompleteActionStartIndex : Nat := 0
  onCompleteActionCount : Nat := 0
  stepStartIndex : Nat := 0
  stepCount : Nat := 0
  deriving DecidableEq, Repr

structure RoomScenario where
  id : String := ""
  name : String := ""
  roomId : String := ""
  steps : List ScenarioStep := []
  reactiveVariants : List ReactiveVariant := []
  reactiveActions : List ActionBody := []
  reactiveGroupCommands : List DeviceCommand := []
  branches : List ScenarioBranch := []
  deriving DecidableEq, Repr

end SceneHub
