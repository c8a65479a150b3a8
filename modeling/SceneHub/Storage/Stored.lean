import SceneHub.EspErr
import SceneHub.Scenario

/-!
# Stored Scenarios

The scenario as the store keeps it, every field of `room_scenario.h`, with the
names of its enumerations from `room_scenario_types.c` and the structural check
of `room_scenario_validation.c`.

The session code reads only part of these records; the types it reads are those
of `SceneHub.Scenario`, and are used here where they are whole. A union tagged
by a type field is again an inductive type, and a counted array a list.

## Main definitions

* `StepType` and the tables of names.
* `Stored.Step`, `Stored.Action`, `Stored.Branch`, `Stored.Scenario`: The records.
* `Stored.Scenario.validateStructural`: `room_scenario_validate_structural`.
-/

namespace SceneHub

/-! ### Enumerations -/

inductive StepType where
  | waitTime
  | operatorApproval
  | deviceCommand
  | waitDeviceEvent
  | deviceCommandGroup
  | showOperatorMessage
  | setFlag
  | waitFlags
  | waitAnyDeviceEvent
  | waitAllDeviceEvents
  | failReaction
  | resetReaction
  | endGame
  deriving DecidableEq, Repr

/-- `strcasecmp` finds no difference. -/
def eqIgnoreCase (s t : String) : Bool := s.toList.map Char.toLower = t.toList.map Char.toLower

/-- The first entry of a table with that name, in any case. -/
def fromNames {α : Type} (names : List (String × α)) (s : String) : Option α :=
  (names.find? fun entry => eqIgnoreCase s entry.1).map Prod.snd

def StepType.toStr : StepType → String
  | .waitTime => "WAIT_TIME"
  | .operatorApproval => "OPERATOR_APPROVAL"
  | .deviceCommand => "DEVICE_COMMAND"
  | .waitDeviceEvent => "WAIT_DEVICE_EVENT"
  | .deviceCommandGroup => "DEVICE_COMMAND_GROUP"
  | .showOperatorMessage => "SHOW_OPERATOR_MESSAGE"
  | .setFlag => "SET_FLAG"
  | .waitFlags => "WAIT_FLAGS"
  | .waitAnyDeviceEvent => "WAIT_ANY_DEVICE_EVENT"
  | .waitAllDeviceEvents => "WAIT_ALL_DEVICE_EVENTS"
  | .failReaction => "FAIL_REACTION"
  | .resetReaction => "RESET_REACTION"
  | .endGame => "END_GAME"

def StepType.fromStr : String → Option StepType :=
  fromNames
    [("WAIT_TIME", .waitTime), ("OPERATOR_APPROVAL", .operatorApproval),
      ("MANUAL_GATE", .operatorApproval), ("DEVICE_COMMAND", .deviceCommand),
      ("SEND_DEVICE_COMMAND", .deviceCommand), ("WAIT_DEVICE_EVENT", .waitDeviceEvent),
      ("DEVICE_COMMAND_GROUP", .deviceCommandGroup),
      ("SHOW_OPERATOR_MESSAGE", .showOperatorMessage), ("OPERATOR_MESSAGE", .showOperatorMessage),
      ("SET_FLAG", .setFlag), ("WAIT_FLAGS", .waitFlags),
      ("WAIT_ANY_DEVICE_EVENT", .waitAnyDeviceEvent),
      ("WAIT_ALL_DEVICE_EVENTS", .waitAllDeviceEvents), ("FAIL_REACTION", .failReaction),
      ("RESET_REACTION", .resetReaction), ("END_GAME", .endGame), ("FINISH_GAME", .endGame)]

def BranchType.toStr : BranchType → String
  | .reactive => "reactive"
  | .normal => "normal"

def BranchType.fromStr : String → Option BranchType :=
  fromNames
    [("normal", .normal), ("flow", .normal), ("scenario", .normal), ("reactive", .reactive),
      ("reaction", .reactive)]

def ReentryMode.toStr : ReentryMode → String
  | .queueOne => "queue_one"
  | .restart => "restart"
  | .parallel => "parallel"
  | .ignore => "ignore"

def ReentryMode.fromStr : String → Option ReentryMode :=
  fromNames
    [("ignore", .ignore), ("queue_one", .queueOne), ("queue-one", .queueOne),
      ("queueOne", .queueOne), ("restart", .restart), ("parallel", .parallel)]

def TimeoutAction.toStr : TimeoutAction → String
  | .failReaction => "fail_reaction"
  | .resetReaction => "reset_reaction"
  | .continue => "continue"

def TimeoutAction.fromStr : String → Option TimeoutAction :=
  fromNames
    [("continue", .continue), ("fail_reaction", .failReaction), ("fail-reaction", .failReaction),
      ("reset_reaction", .resetReaction), ("reset-reaction", .resetReaction)]

def TriggerKind.toStr : TriggerKind → String
  | .deviceEvent => "device_event"
  | .anyDeviceEvents => "any_device_events"
  | .allDeviceEvents => "all_device_events"
  | .flagChanged => "flag_changed"
  | .operatorEvent => "operator_event"
  | .runtimeEvent => "runtime_event"
  | .none => "none"

def TriggerKind.fromStr : String → Option TriggerKind :=
  fromNames
    [("device_event", .deviceEvent), ("any_device_events", .anyDeviceEvents),
      ("all_device_events", .allDeviceEvents), ("flag_changed", .flagChanged),
      ("operator_event", .operatorEvent), ("runtime_event", .runtimeEvent)]

def PolicyMode.toStr : PolicyMode → String
  | .rotate => "rotate"
  | .random => "random"
  | .escalate => "escalate"
  | .single => "single"

def PolicyMode.fromStr : String → Option PolicyMode :=
  fromNames
    [("single", .single), ("rotate", .rotate), ("random", .random), ("escalate", .escalate)]

def ResultAction.toStr : ResultAction → String
  | .setFlag => "set_flag"
  | .failReaction => "fail_reaction"
  | .failScenario => "fail_scenario"
  | .retry => "retry"
  | .continue => "continue"

def ResultAction.fromStr : String → Option ResultAction :=
  fromNames
    [("continue", .continue), ("set_flag", .setFlag), ("fail_reaction", .failReaction),
      ("fail_scenario", .failScenario), ("retry", .retry)]

def GroupMode.toStr : GroupMode → String
  | .parallel => "parallel"
  | .sequential => "sequential"

def GroupMode.fromStr : String → Option GroupMode :=
  fromNames [("sequential", .sequential), ("parallel", .parallel)]

/-! ### Records -/

/-- `ROOM_SCENARIO_MAX_STEPS`, `ROOM_SCENARIO_MAX_REACTIVE_VARIANTS`,
    `ROOM_SCENARIO_MAX_REACTIVE_ACTIONS`. -/
def maxSteps : Nat := 48

def maxReactiveVariants : Nat := 8

def maxReactiveActions : Nat := 24

namespace Stored

/-- `room_scenario_wait_device_event_t`, which is also an event of a group. -/
structure WaitDeviceEvent where
  deviceId : String
  eventId : String
  timeoutMs : UInt32 := 0
  timeoutAction : TimeoutAction := .continue
  timeoutMessage : String := ""
  deriving DecidableEq, Repr

/-- `room_scenario_wait_any_device_event_t`, which is also the type of a wait for
    all events. -/
structure WaitGroupEvents where
  events : List WaitDeviceEvent
  timeoutMs : UInt32 := 0
  timeoutAction : TimeoutAction := .continue
  deriving DecidableEq, Repr

inductive StepData where
  | waitTime (wait : WaitTime)
  | operatorApproval (approval : OperatorApproval)
  | deviceCommand (command : DeviceCommand)
  | waitDeviceEvent (wait : WaitDeviceEvent)
  | deviceCommandGroup (group : DeviceCommandGroup)
  | showOperatorMessage (message : String)
  | setFlag (flag : Flag)
  | waitFlags (wait : WaitFlags)
  | waitAnyDeviceEvent (wait : WaitGroupEvents)
  | waitAllDeviceEvents (wait : WaitGroupEvents)
  | failReaction
  | resetReaction
  | endGame
  deriving DecidableEq, Repr

structure Step where
  id : String
  label : String := ""
  enabled : Bool := true
  allowOperatorSkip : Bool := false
  operatorSkipLabel : String := ""
  data : StepData
  deriving DecidableEq, Repr

inductive ActionData where
  | waitTime (wait : WaitTime)
  | operatorApproval
  | deviceCommand (command : DeviceCommand)
  | waitDeviceEvent (wait : WaitDeviceEvent)
  | deviceCommandGroup (mode : GroupMode) (startIndex count : Nat)
  | showOperatorMessage (message : String)
  | setFlag (flag : Flag)
  | waitFlags (wait : WaitFlags)
  | waitAnyDeviceEvent (wait : WaitGroupEvents)
  | waitAllDeviceEvents (wait : WaitGroupEvents)
  | failReaction
  | resetReaction
  | endGame
  deriving DecidableEq, Repr

structure Action where
  id : String := ""
  label : String := ""
  data : ActionData
  deriving DecidableEq, Repr

structure Variant where
  id : String
  label : String := ""
  actionStartIndex : Nat
  actionCount : Nat
  deriving DecidableEq, Repr

structure Trigger where
  kind : TriggerKind := .none
  deviceId : String := ""
  eventId : String := ""
  events : List WaitDeviceEvent := []
  flagName : String := ""
  runtimeEvent : String := ""
  operatorEvent : String := ""
  deriving DecidableEq, Repr

/-- The part of a branch that only a reaction with variants has. -/
structure Reaction where
  trigger : Trigger := {}
  guardFlags : List Flag := []
  resultOnDone : ResultAction := .continue
  resultOnFail : ResultAction := .continue
  resultOnTimeout : ResultAction := .continue
  resultFlag : String := ""
  variantStartIndex : Nat := 0
  variantCount : Nat := 0
  onCompleteActionStartIndex : Nat := 0
  onCompleteActionCount : Nat := 0
  deriving DecidableEq, Repr

structure Branch where
  id : String
  name : String
  type : BranchType := .normal
  enabled : Bool := true
  requiredForCompletion : Bool := true
  priority : UInt16 := 0
  policyMode : PolicyMode := .single
  cooldownMs : UInt32 := 0
  maxFireCount : UInt32 := 0
  runOnce : Bool := false
  reentryMode : ReentryMode := .ignore
  reaction : Reaction := {}
  stepStartIndex : Nat := 0
  stepCount : Nat := 0
  deriving DecidableEq, Repr

structure Scenario where
  id : String
  name : String
  roomId : String
  steps : List Step := []
  reactiveVariants : List Variant := []
  reactiveActions : List Action := []
  reactiveGroupCommands : List DeviceCommand := []
  branches : List Branch := []
  deriving DecidableEq, Repr

/-! ### The structural check -/

/-- `room_scenario_valid_device_command` and `room_scenario_valid_command_ref`. -/
def validDeviceCommand (command : DeviceCommand) : Bool :=
  command.deviceId ≠ "" && command.commandId ≠ ""

/-- The check of a counted group: neither empty nor too long, and every item valid. -/
def validGroup {α : Type} (max : Nat) (valid : α → Bool) (items : List α) : Bool :=
  items.length ≠ 0 && items.length ≤ max && items.all valid

def validEventRef (event : WaitDeviceEvent) : Bool := event.deviceId ≠ "" && event.eventId ≠ ""

def validStep (step : Step) : Bool :=
  step.id ≠ "" &&
  match step.data with
  | .waitTime wait => 0 < wait.durationMs
  | .operatorApproval approval => approval.prompt ≠ ""
  | .deviceCommand command => validDeviceCommand command
  | .waitDeviceEvent wait => validEventRef wait
  | .deviceCommandGroup group =>
    validGroup commandGroupMaxCommands validDeviceCommand group.commands
  | .showOperatorMessage message => message ≠ ""
  | .setFlag flag => flag.name ≠ ""
  | .waitFlags wait => validGroup waitFlagsMaxFlags (fun flag => flag.name ≠ "") wait.flags
  | .waitAnyDeviceEvent wait | .waitAllDeviceEvents wait =>
    validGroup waitEventGroupMaxEvents validEventRef wait.events
  | .failReaction | .resetReaction => false
  | .endGame => true

def validReactiveTrigger (trigger : Trigger) : Bool :=
  match trigger.kind with
  | .deviceEvent => trigger.deviceId ≠ "" && trigger.eventId ≠ ""
  | .anyDeviceEvents | .allDeviceEvents =>
    validGroup waitEventGroupMaxEvents validEventRef trigger.events
  | .flagChanged => trigger.flagName ≠ ""
  | .operatorEvent => trigger.operatorEvent ≠ ""
  | .runtimeEvent => trigger.runtimeEvent ≠ ""
  | .none => false

/-- `count` items from `start` on, if the table has them. -/
def slice {α : Type} (items : List α) (start count : Nat) : Option (List α) :=
  if items.length < start + count then none else some ((items.drop start).take count)

def validReactiveAction (s : Scenario) (action : Action) : Bool :=
  match action.data with
  | .deviceCommand command => validDeviceCommand command
  | .deviceCommandGroup _ startIndex count =>
    count ≠ 0 &&
    (slice s.reactiveGroupCommands startIndex count).any fun commands =>
      commands.all validDeviceCommand
  | .waitTime wait => 0 < wait.durationMs
  | .setFlag flag => flag.name ≠ ""
  | .showOperatorMessage message => message ≠ ""
  | .failReaction | .resetReaction => true
  | _ => false

/-- `room_scenario_is_reactive_control_action_type`. -/
def ActionData.isControl : ActionData → Bool
  | .failReaction | .resetReaction => true
  | _ => false

def validReactiveBranchV2 (s : Scenario) (reaction : Reaction) : Bool :=
  validReactiveTrigger reaction.trigger && reaction.variantCount ≠ 0 &&
  (slice s.reactiveVariants reaction.variantStartIndex reaction.variantCount).any
    (fun variants => reaction.guardFlags.all (fun flag => flag.name ≠ "") &&
      variants.all fun variant =>
        variant.id ≠ "" && variant.actionCount ≠ 0 &&
        (slice s.reactiveActions variant.actionStartIndex variant.actionCount).any fun actions =>
          actions.all (validReactiveAction s)) &&
  (slice s.reactiveActions reaction.onCompleteActionStartIndex
      reaction.onCompleteActionCount).any fun actions =>
    actions.all fun action => !action.data.isControl && validReactiveAction s action

def StepData.isReactiveTrigger : StepData → Bool
  | .waitDeviceEvent _ | .waitAnyDeviceEvent _ | .waitAllDeviceEvents _ | .waitFlags _ => true
  | _ => false

def branchFirstStep (s : Scenario) (branch : Branch) : Option Step :=
  if branch.stepCount = 0 then none
  else (slice s.steps branch.stepStartIndex branch.stepCount).bind fun steps => steps.head?

/-- The branch has variants or a trigger. -/
def Branch.isReactiveV2 (branch : Branch) : Bool :=
  0 < branch.reaction.variantCount || branch.reaction.trigger.kind ≠ .none

/-- The body of the branch loop of `room_scenario_validate_structural`. -/
def validateBranch (s : Scenario) (branch : Branch) : EspErr :=
  if branch.id = "" ∨ branch.name = "" then .invalidArg
  else if s.steps.length < branch.stepStartIndex + branch.stepCount then .invalidSize
  else if branch.type ≠ .reactive then .ok
  else if branch.isReactiveV2 then
    if validReactiveBranchV2 s branch.reaction then .ok else .invalidArg
  else match branchFirstStep s branch with
    | none => .invalidArg
    | some first =>
      if !first.data.isReactiveTrigger then .invalidArg
      else match first.data with
        | .waitFlags _ =>
          if !branch.runOnce ∧ branch.maxFireCount = 0 ∧ branch.cooldownMs = 0 then .invalidArg
          else .ok
        | _ => .ok

def stepsShareBranch (s : Scenario) (a b : Nat) : Bool :=
  match s.branches.find? fun branch =>
    branch.stepStartIndex ≤ a && a < branch.stepStartIndex + branch.stepCount with
  | none => true
  | some branch => branch.stepStartIndex ≤ b && b < branch.stepStartIndex + branch.stepCount

def hasDuplicateStepIds (s : Scenario) : Bool :=
  (List.range s.steps.length).any fun j => (List.range j).any fun i =>
    stepsShareBranch s i j &&
    (s.steps[i]?).map Step.id = (s.steps[j]?).map Step.id

def hasDuplicateBranchIds (s : Scenario) : Bool :=
  (List.range s.branches.length).any fun j => (List.range j).any fun i =>
    (s.branches[i]?).map Branch.id = (s.branches[j]?).map Branch.id

def Scenario.validateStructural (s : Scenario) : EspErr :=
  if s.id = "" ∨ s.name = "" ∨ s.roomId = "" then .invalidArg
  else if maxSteps < s.steps.length then .invalidSize
  else if maxReactiveVariants < s.reactiveVariants.length ∨
      maxReactiveActions < s.reactiveActions.length ∨
      maxReactiveGroupCommands < s.reactiveGroupCommands.length then .invalidSize
  else if maxBranches < s.branches.length then .invalidSize
  else if hasDuplicateStepIds s then .invalidArg
  else if hasDuplicateBranchIds s then .invalidArg
  else match (s.branches.map (validateBranch s)).find? fun err => err ≠ .ok with
    | some err => err
    | none => if s.steps.all validStep then .ok else .invalidArg

end Stored

end SceneHub
