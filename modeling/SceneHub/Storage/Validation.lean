import SceneHub.Storage.Stored

/-!
# The Validation Report

The checks of `room_scenario_validation.c` that do not stop at the first
mistake but write a report, beside the structural check as the store applies it.

The type and the reentry mode of a branch are plain enumerations, which hold any
number in C. Only the structural check asks whether the number is a listed one,
so here both checks receive the numbers beside the record; the fields of these
names in the record are not read. A tag of a union that is not listed is turned
down by both checks in their default branches, and is left out.

## Main definitions

* `RawScenario`: A scenario as the checks receive it.
* `RawScenario.validateStructural`: The structural check.
* `Report`: The report, with its texts.
* `RawScenario.validateStatic`: `room_scenario_validate_static`.
-/

namespace SceneHub

def BranchType.code : BranchType → Int
  | .normal => 0
  | .reactive => 1

def ReentryMode.code : ReentryMode → Int
  | .ignore => 0
  | .queueOne => 1
  | .restart => 2
  | .parallel => 3

namespace Stored

/-- The numbers of two fields of a branch. -/
structure BranchCodes where
  type : Int
  reentryMode : Int
  deriving DecidableEq, Repr

def BranchCodes.listedType (codes : BranchCodes) : Bool :=
  codes.type = BranchType.normal.code || codes.type = BranchType.reactive.code

def BranchCodes.listedReentry (codes : BranchCodes) : Bool :=
  codes.reentryMode = ReentryMode.ignore.code || codes.reentryMode = ReentryMode.queueOne.code ||
  codes.reentryMode = ReentryMode.restart.code || codes.reentryMode = ReentryMode.parallel.code

def BranchCodes.isReactive (codes : BranchCodes) : Bool := codes.type = BranchType.reactive.code

/-- A scenario as the checks receive it. -/
structure RawScenario where
  record : Scenario
  codes : List BranchCodes
  aligned : codes.length = record.branches.length
  deriving DecidableEq, Repr

def RawScenario.branches (s : RawScenario) : List (Branch × BranchCodes) :=
  s.record.branches.zip s.codes

/-- A stored scenario, whose numbers are those of its fields. -/
def Scenario.raw (s : Scenario) : RawScenario :=
  { record := s
    codes := s.branches.map fun b => { type := b.type.code, reentryMode := b.reentryMode.code }
    aligned := List.length_map _ }

/-! ### The structural check -/

/-- The branch with the type its number stands for. -/
def Branch.withCodes (branch : Branch) (codes : BranchCodes) : Branch :=
  { branch with type := if codes.isReactive then .reactive else .normal }

/-- The body of the branch loop of `room_scenario_validate_structural`. -/
def validateRawBranch (s : Scenario) (branch : Branch × BranchCodes) : EspErr :=
  if branch.1.id = "" ∨ branch.1.name = "" then .invalidArg
  else if !branch.2.listedType then .invalidArg
  else if !branch.2.listedReentry then .invalidArg
  else validateBranch s (branch.1.withCodes branch.2)

def RawScenario.validateStructural (s : RawScenario) : EspErr :=
  if s.record.id = "" ∨ s.record.name = "" ∨ s.record.roomId = "" then .invalidArg
  else if maxSteps < s.record.steps.length then .invalidSize
  else if maxReactiveVariants < s.record.reactiveVariants.length ∨
      maxReactiveActions < s.record.reactiveActions.length ∨
      maxReactiveGroupCommands < s.record.reactiveGroupCommands.length then .invalidSize
  else if maxBranches < s.branches.length then .invalidSize
  else if hasDuplicateStepIds s.record then .invalidArg
  else if hasDuplicateBranchIds s.record then .invalidArg
  else match (s.branches.map (validateRawBranch s.record)).find? fun err => err ≠ .ok with
    | some err => err
    | none => if s.record.steps.all validStep then .ok else .invalidArg

/-! ### The report -/

inductive ValidationLevel where
  | error
  | warning
  deriving DecidableEq, Repr

structure ValidationIssue where
  level : ValidationLevel
  stepIndex : Nat
  branchId : String := ""
  variantIndex : Int := -1
  actionIndex : Int := -1
  code : String
  message : String
  deriving DecidableEq, Repr

def validationMaxIssues : Nat := 32

structure Report where
  valid : Bool := true
  issues : List ValidationIssue := []
  deriving DecidableEq, Repr

/-- Where an issue of a reaction is. -/
structure ReactionPlace where
  branchId : String
  variantIndex : Int := -1
  actionIndex : Int := -1
  stepIndex : Nat
  deriving DecidableEq, Repr

/-- `validation_add_issue`. A full report takes no more issues, but an error still
    makes it invalid. -/
def Report.addIssue (r : Report) (level : ValidationLevel) (stepIndex : Nat)
    (code message : String) : Report :=
  { valid := r.valid && level ≠ .error
    issues :=
      if validationMaxIssues ≤ r.issues.length then r.issues
      else r.issues ++ [{ level, stepIndex, code, message }] }

def Report.addError (r : Report) (stepIndex : Nat) (code message : String) : Report :=
  r.addIssue .error stepIndex code message

/-- `validation_add_reactive_issue`, which writes the place into the last issue of
    the report, the new one or not. -/
def Report.addReactiveError (r : Report) (place : ReactionPlace) (code message : String) : Report :=
  let r := r.addIssue .error place.stepIndex code message
  { r with issues := r.issues.dropLast ++ r.issues.getLast?.toList.map fun issue =>
      { issue with
        branchId := place.branchId
        variantIndex := place.variantIndex
        actionIndex := place.actionIndex } }

def Report.errorIf (r : Report) (bad : Bool) (stepIndex : Nat) (code message : String) : Report :=
  if bad then r.addError stepIndex code message else r

def Report.reactiveErrorIf (r : Report) (bad : Bool) (place : ReactionPlace)
    (code message : String) : Report :=
  if bad then r.addReactiveError place code message else r

/-! ### Commands and events -/

/-- `validation_check_device_command_payload_static`. -/
def checkDeviceCommand (command : DeviceCommand) (stepIndex : Nat) (name : String) (r : Report) :
    Report :=
  if command.deviceId = "" then
    r.addError stepIndex "DEVICE_ID_EMPTY" (name ++ " has empty device_id")
  else r.errorIf (command.commandId = "") stepIndex "DEVICE_COMMAND_ID_EMPTY"
    (name ++ " has empty command_id")

/-- `validation_check_wait_device_event_payload_static`. -/
def checkWaitDeviceEvent (wait : WaitDeviceEvent) (stepIndex : Nat) (name : String) (r : Report) :
    Report :=
  if wait.deviceId = "" then
    r.addError stepIndex "DEVICE_ID_EMPTY" (name ++ " has empty device_id")
  else r.errorIf (wait.eventId = "") stepIndex "DEVICE_EVENT_ID_EMPTY"
    (name ++ " has empty event_id")

/-- One check for each item of a list, with the item's number. -/
def checkEach {α : Type} (check : α → Nat → Report → Report) (items : List α) (r : Report) :
    Report :=
  items.zipIdx.foldl (fun r item => check item.1 item.2 r) r

/-- The static check of a step that is a counted group: neither empty nor too long,
    and every item valid. -/
def checkGroup {α : Type} (max : Nat) (code items : String)
    (check : α → Nat → Report → Report) (group : List α) (stepIndex : Nat) (r : Report) : Report :=
  if group.length = 0 then
    r.addError stepIndex (code ++ "_EMPTY") (code ++ " has no " ++ items)
  else if max < group.length then
    r.addError stepIndex (code ++ "_LIMIT") (code ++ " has too many " ++ items)
  else checkEach check group r

/-- `validation_check_device_command_group_step_static`. -/
def checkDeviceCommandGroup (group : DeviceCommandGroup) (stepIndex : Nat) : Report → Report :=
  checkGroup commandGroupMaxCommands "DEVICE_COMMAND_GROUP" "commands"
    (fun command i => checkDeviceCommand command stepIndex ("GROUP_COMMAND_" ++ toString (i + 1)))
    group.commands stepIndex

/-- `validation_check_wait_any_device_event_step_static`. -/
def checkWaitAnyDeviceEvent (wait : WaitGroupEvents) (stepIndex : Nat) : Report → Report :=
  checkGroup waitEventGroupMaxEvents "WAIT_ANY_DEVICE_EVENT" "events"
    (fun event i => checkWaitDeviceEvent event stepIndex ("WAIT_ANY_EVENT_" ++ toString (i + 1)))
    wait.events stepIndex

/-- `validation_check_wait_all_device_events_step_static`. -/
def checkWaitAllDeviceEvents (wait : WaitGroupEvents) (stepIndex : Nat) : Report → Report :=
  checkGroup waitEventGroupMaxEvents "WAIT_ALL_DEVICE_EVENTS" "events"
    (fun event i => checkWaitDeviceEvent event stepIndex ("WAIT_ALL_EVENT_" ++ toString (i + 1)))
    wait.events stepIndex

/-! ### Reactions -/

/-- The place is written into the issues from `base` on that have none. -/
def Report.place (r : Report) (base : Nat) (place : ReactionPlace) : Report :=
  { r with issues := r.issues.take base ++ (r.issues.drop base).map fun issue =>
      if issue.branchId ≠ "" then issue
      else
        { issue with
          branchId := place.branchId
          variantIndex := place.variantIndex
          actionIndex := place.actionIndex } }

/-- `validation_check_reactive_action_v2_static`. -/
def checkReactiveAction (s : Scenario) (action : Action) (place : ReactionPlace) (r : Report) :
    Report :=
  let base := r.issues.length
  match action.data with
  | .deviceCommand command =>
    (checkDeviceCommand command place.stepIndex "REACTIVE_DEVICE_COMMAND" r).place base place
  | .deviceCommandGroup _ startIndex count =>
    match slice s.reactiveGroupCommands startIndex count with
    | none =>
      r.addReactiveError place "REACTIVE_GROUP_COMMAND_RANGE_INVALID"
        "Reactive DEVICE_COMMAND_GROUP command range is invalid"
    | some commands =>
      if count = 0 then
        r.addReactiveError place "REACTIVE_GROUP_COMMAND_RANGE_INVALID"
          "Reactive DEVICE_COMMAND_GROUP command range is invalid"
      else
        (checkEach (fun command _ =>
          checkDeviceCommand command place.stepIndex "REACTIVE_GROUP_COMMAND") commands r).place
            base place
  | .waitTime wait =>
    (r.reactiveErrorIf (wait.durationMs = 0) place "REACTIVE_WAIT_TIME_ZERO"
      "Reactive WAIT_TIME duration_ms must be greater than zero").place base place
  | .setFlag flag =>
    (r.reactiveErrorIf (flag.name = "") place "REACTIVE_FLAG_NAME_EMPTY"
      "Reactive SET_FLAG has empty flag name").place base place
  | .showOperatorMessage message =>
    (r.reactiveErrorIf (message = "") place "REACTIVE_OPERATOR_MESSAGE_EMPTY"
      "Reactive SHOW_OPERATOR_MESSAGE message is empty").place base place
  | .failReaction | .resetReaction => r
  | _ =>
    (r.addReactiveError place "REACTIVE_ACTION_TYPE_UNSUPPORTED"
      "Reactive action type is not allowed in v2").place base place

/-- The body of the variant loop of `validation_check_reactive_branch_v2_static`. -/
def checkVariant (s : Scenario) (place : ReactionPlace) (variant : Variant) (i : Nat)
    (r : Report) : Report :=
  let place := { place with variantIndex := i }
  let r := r.reactiveErrorIf (variant.id = "") place "REACTIVE_VARIANT_ID_EMPTY"
    "Reactive variant id is empty"
  match slice s.reactiveActions variant.actionStartIndex variant.actionCount with
  | none =>
    r.addReactiveError place "REACTIVE_VARIANT_ACTIONS_INVALID"
      "Reactive variant must have at least one valid action"
  | some actions =>
    if variant.actionCount = 0 then
      r.addReactiveError place "REACTIVE_VARIANT_ACTIONS_INVALID"
        "Reactive variant must have at least one valid action"
    else
      checkEach (fun action j => checkReactiveAction s action { place with actionIndex := j })
        actions r

/-- The body of the completion loop of `validation_check_reactive_branch_v2_static`. -/
def checkOnComplete (s : Scenario) (place : ReactionPlace) (action : Action) (i : Nat)
    (r : Report) : Report :=
  let place := { place with actionIndex := i }
  if action.data.isControl then
    r.addReactiveError place "REACTIVE_ON_COMPLETE_CONTROL_UNSUPPORTED"
      "Reactive on_complete does not support FAIL_REACTION or RESET_REACTION"
  else checkReactiveAction s action place r

/-- `validation_check_reactive_branch_v2_static`. -/
def checkReactiveBranchV2 (s : Scenario) (branch : Branch) (r : Report) : Report :=
  let place : ReactionPlace := { branchId := branch.id, stepIndex := branch.stepStartIndex }
  let reaction := branch.reaction
  let r := r.reactiveErrorIf (!validReactiveTrigger reaction.trigger) place
    "REACTIVE_TRIGGER_INVALID" "Reactive v2 branch has invalid trigger"
  match slice s.reactiveVariants reaction.variantStartIndex reaction.variantCount with
  | none =>
    r.addReactiveError place "REACTIVE_VARIANTS_INVALID"
      "Reactive v2 branch must have at least one valid variant"
  | some variants =>
    if reaction.variantCount = 0 then
      r.addReactiveError place "REACTIVE_VARIANTS_INVALID"
        "Reactive v2 branch must have at least one valid variant"
    else
      let r := checkEach (fun (flag : Flag) _ r =>
        r.reactiveErrorIf (flag.name = "") place "REACTIVE_GUARD_FLAG_EMPTY"
          "Reactive guard flag name is empty") reaction.guardFlags r
      let r := checkEach (checkVariant s place) variants r
      match slice s.reactiveActions reaction.onCompleteActionStartIndex
          reaction.onCompleteActionCount with
      | none =>
        r.addReactiveError place "REACTIVE_ON_COMPLETE_RANGE_INVALID"
          "Reactive on_complete action range is invalid"
      | some actions => checkEach (checkOnComplete s place) actions r

/-! ### Branches and steps -/

/-- The body of the branch loop of `room_scenario_validate_static_report`. -/
def checkBranch (s : RawScenario) (branch : Branch × BranchCodes) (i : Nat) (r : Report) : Report :=
  let b := branch.1
  let at_ := b.stepStartIndex
  let r := r.errorIf (b.id = "") at_ "BRANCH_ID_EMPTY" "Branch id is empty"
  let r := r.errorIf (b.name = "") at_ "BRANCH_NAME_EMPTY" "Branch name is empty"
  let r := r.errorIf (b.id ≠ "" && (s.record.branches.drop (i + 1)).any fun other =>
    b.id = other.id) at_ "BRANCH_ID_DUPLICATE" "Branch id is duplicated"
  let r := r.errorIf (s.record.steps.length < b.stepStartIndex + b.stepCount) at_
    "BRANCH_STEP_RANGE_INVALID" "Branch step range is outside scenario steps"
  if !branch.2.isReactive then r
  else
    let r :=
      if b.requiredForCompletion then
        r.addIssue .warning at_ "REACTIVE_BRANCH_REQUIRED_IGNORED"
          "Reactive branch is ignored for scenario completion"
      else r
    if b.isReactiveV2 then checkReactiveBranchV2 s.record b r
    else match branchFirstStep s.record b with
      | none =>
        r.addError at_ "REACTIVE_BRANCH_EMPTY"
          "Reactive branch must start with a wait/listen step"
      | some first =>
        if !first.data.isReactiveTrigger then
          r.addError at_ "REACTIVE_BRANCH_TRIGGER_REQUIRED"
            "Reactive branch first enabled step must wait for a device event or flag"
        else match first.data with
          | .waitFlags _ =>
            r.errorIf (!b.runOnce && b.maxFireCount = 0 && b.cooldownMs = 0) at_
              "REACTIVE_FLAGS_NEEDS_GUARD"
              "Reactive branch triggered by flags must run once or have cooldown"
          | _ => r

/-- The `switch` over the step types in `room_scenario_validate_static_report`. -/
def checkStepData (data : StepData) (i : Nat) (r : Report) : Report :=
  match data with
  | .waitTime wait =>
    r.errorIf (wait.durationMs = 0) i "WAIT_TIME_ZERO"
      "WAIT_TIME duration_ms must be greater than zero"
  | .operatorApproval approval =>
    r.errorIf (approval.prompt = "") i "OPERATOR_PROMPT_EMPTY" "OPERATOR_APPROVAL prompt is empty"
  | .deviceCommand command => checkDeviceCommand command i "DEVICE_COMMAND" r
  | .waitDeviceEvent wait => checkWaitDeviceEvent wait i "WAIT_DEVICE_EVENT" r
  | .deviceCommandGroup group => checkDeviceCommandGroup group i r
  | .showOperatorMessage message =>
    r.errorIf (message = "") i "OPERATOR_MESSAGE_EMPTY" "SHOW_OPERATOR_MESSAGE message is empty"
  | .setFlag flag => r.errorIf (flag.name = "") i "FLAG_NAME_EMPTY" "SET_FLAG name is empty"
  | .waitFlags wait =>
    if wait.flags.length = 0 then r.addError i "WAIT_FLAGS_EMPTY" "WAIT_FLAGS has no flags"
    else if waitFlagsMaxFlags < wait.flags.length then
      r.addError i "WAIT_FLAGS_LIMIT" "WAIT_FLAGS has too many flags"
    else r.errorIf (wait.flags.any fun flag => flag.name = "") i "FLAG_NAME_EMPTY"
      "WAIT_FLAGS has empty flag name"
  | .waitAnyDeviceEvent wait => checkWaitAnyDeviceEvent wait i r
  | .waitAllDeviceEvents wait => checkWaitAllDeviceEvents wait i r
  -- the default branch takes these two as well
  | .failReaction | .resetReaction | .endGame => r

/-- The body of the step loop of `room_scenario_validate_static_report`. -/
def checkStep (s : RawScenario) (step : Step) (i : Nat) (r : Report) : Report :=
  let r := r.errorIf (step.id = "") i "STEP_ID_EMPTY" "Step id is empty"
  let r := r.errorIf (step.id ≠ "" && (s.record.steps.zipIdx.drop (i + 1)).any fun other =>
      stepsShareBranch s.record i other.2 && step.id = other.1.id) i "STEP_ID_DUPLICATE"
    ("Step id '" ++ step.id ++ "' is duplicated")
  checkStepData step.data i r

def RawScenario.validateStatic (s : RawScenario) : Report :=
  let r : Report := {}
  let r := r.errorIf (s.record.id = "") 0 "SCENARIO_ID_EMPTY" "Scenario id is empty"
  let r := r.errorIf (s.record.roomId = "") 0 "ROOM_ID_EMPTY" "Scenario room_id is empty"
  let r := r.errorIf (s.record.name = "") 0 "SCENARIO_NAME_EMPTY" "Scenario name is empty"
  if maxSteps < s.record.steps.length then
    r.addError maxSteps "STEP_COUNT_LIMIT" "Scenario step_count exceeds limit"
  else if maxBranches < s.branches.length then
    r.addError 0 "BRANCH_COUNT_LIMIT" "Scenario branch_count exceeds limit"
  else
    let r := checkEach (checkBranch s) s.branches r
    checkEach (checkStep s) s.record.steps r

end Stored

end SceneHub
