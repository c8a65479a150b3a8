import SceneHub.Storage.ScenarioJson

/-!
# Importing a Scenario

`room_scenario_json.c` and `room_scenario_json_import_reactive.c`: from a tree
to a stored scenario.

The tables a scenario shares between its branches grow while it is read. They
are handed from one reader to the next, and a record that refers into a table
notes how long the table was.

## Main definitions

* `importStep`: One step of a branch that runs steps.
* `importAction`, `importVariant`: What a reaction does.
* `importBranch`: One branch of either kind.
* `importScenario`: `room_scenario_from_json`.
-/

namespace SceneHub

open Lib (readAll readFrom)
open Stored

section

variable (cj : CJson)

/-! ### Steps -/

/-- The switch of `room_scenario_import_step_json`. -/
def importStepData (obj : Json) : StepType → Except EspErr StepData
  | .waitTime => do
    let durationMs ← obj.uint32Required "duration_ms"
    return .waitTime ⟨durationMs, .continue⟩
  | .deviceCommand => do
    let command ← importCommand cj obj
    return .deviceCommand command
  | .deviceCommandGroup => do
    let items ← obj.group "commands" commandGroupMaxCommands
    let commands ← readAll (importCommand cj) items
    return .deviceCommandGroup ⟨commands⟩
  | .waitDeviceEvent => do
    let event ← importEventRef obj
    let timeoutMs ← obj.uint32Optional "timeout_ms"
    let timeoutMessage ← obj.stringOptional "timeout_message" messageMaxLen
    return .waitDeviceEvent { event with timeoutMs, timeoutMessage }
  | .operatorApproval => do
    let prompt ← obj.stringRequired "prompt" promptMaxLen
    let approveLabel ← obj.stringOptional "approve_label" idMaxLen
    return .operatorApproval ⟨prompt, approveLabel⟩
  | .showOperatorMessage => do
    let message ← obj.stringRequired "message" messageMaxLen
    return .showOperatorMessage message
  | .setFlag => do
    let flag ← importFlag "flag_name" obj
    return .setFlag flag
  | .waitFlags => do
    let items ← obj.group "flags" waitFlagsMaxFlags
    let flags ← readAll (importFlag "flag_name") items
    let timeoutMs ← obj.uint32Optional "timeout_ms"
    let timeoutMessage ← obj.stringOptional "timeout_message" messageMaxLen
    return .waitFlags ⟨flags, timeoutMs, .continue, timeoutMessage⟩
  | .waitAnyDeviceEvent => do
    let items ← obj.group "events" waitEventGroupMaxEvents
    let events ← readAll importEventRef items
    return .waitAnyDeviceEvent { events }
  | .waitAllDeviceEvents => do
    let items ← obj.group "events" waitEventGroupMaxEvents
    let events ← readAll importEventRef items
    return .waitAllDeviceEvents { events }
  | .endGame => .ok .endGame
  | .failReaction | .resetReaction => .error .invalidArg

/-- `room_scenario_import_step_json`. -/
def importStep (obj : Json) : Except EspErr Step := do
  let id ← obj.stringRequired "id" idMaxLen
  let label ← obj.stringOptional "label" nameMaxLen
  let enabled ← obj.boolOr "enabled" true
  let type ← obj.enumRequired "type" StepType.fromStr
  let allowOperatorSkip ← obj.boolOr "allow_operator_skip" false
  let operatorSkipLabel ← obj.stringOptional "operator_skip_label" idMaxLen
  let data ← importStepData cj obj type
  return { id, label, enabled, allowOperatorSkip, operatorSkipLabel, data }

/-- `room_scenario_import_steps_array` on the member `steps`. The steps read are
    added to those there are. -/
def importSteps (steps : List Step) (obj : Json) : Except EspErr (List Step) :=
  match obj.get "steps" with
  | some (.array items) =>
    if maxSteps < steps.length + items.length then .error .invalidSize
    else readAll (importStep cj) items
  | _ => .error .invalidArg

/-! ### Reactions -/

/-- The flag an action sets, which a step calls by another name. -/
def importActionFlagName (obj : Json) : Except EspErr String := do
  let flag ← obj.stringOptional "flag" idMaxLen
  if flag ≠ "" then return flag else obj.stringRequired "flag_name" idMaxLen

/-- The switch of `room_scenario_import_reactive_action_json`. The commands of a
    group are added to the table of all of them. -/
def importActionData (groups : List DeviceCommand) (obj : Json) :
    StepType → Except EspErr (ActionData × List DeviceCommand)
  | .deviceCommand => do
    let command ← importCommand cj obj
    return (.deviceCommand command, groups)
  | .deviceCommandGroup => do
    let items := obj.items "commands"
    if items.length = 0 ∨ maxReactiveGroupCommands < groups.length + items.length then
      .error .invalidArg
    else
      let mode ← obj.enumOr "mode" GroupMode.fromStr .sequential
      let commands ← readAll (importCommand cj) items
      return (.deviceCommandGroup mode groups.length items.length, groups ++ commands)
  | .waitTime => do
    let durationMs ← obj.uint32Required "duration_ms"
    let timeoutAction ← obj.enumOrNull "timeout_action" TimeoutAction.fromStr .continue
    return (.waitTime ⟨durationMs, timeoutAction⟩, groups)
  | .setFlag => do
    let name ← importActionFlagName obj
    let value ← obj.boolRequired "value"
    return (.setFlag ⟨name, value⟩, groups)
  | .showOperatorMessage => do
    let message ← obj.stringRequired "message" messageMaxLen
    return (.showOperatorMessage message, groups)
  | .failReaction => .ok (.failReaction, groups)
  | .resetReaction => .ok (.resetReaction, groups)
  | _ => .error .invalidArg

/-- `room_scenario_import_reactive_action_json`. -/
def importAction (groups : List DeviceCommand) (obj : Json) :
    Except EspErr (Action × List DeviceCommand) := do
  let id ← obj.stringOptional "id" idMaxLen
  let label ← obj.stringOptional "label" nameMaxLen
  let type ← obj.enumRequired "type" StepType.fromStr
  let (data, groups) ← importActionData cj groups obj type
  return ({ id, label, data }, groups)

/-- The tables reactions share. -/
structure Tables where
  variants : List Variant := []
  actions : List Action := []
  groupCommands : List DeviceCommand := []
  deriving DecidableEq, Repr

/-- `room_scenario_import_reactive_actions_array`: where the actions start, and
    how many they are. -/
def importActions (t : Tables) (items : List Json) : Except EspErr ((Nat × Nat) × Tables) :=
  if items.length = 0 ∨ maxReactiveActions < t.actions.length + items.length then
    .error .invalidArg
  else do
    let (actions, groupCommands) ← readFrom (importAction cj) t.groupCommands items
    return ((t.actions.length, items.length),
      { t with actions := t.actions ++ actions, groupCommands := groupCommands })

/-- The body of the loop over the variants of
    `room_scenario_import_reactive_branch_v2_json`. The variant itself is added to
    its table behind the loop. -/
def importVariant (t : Tables) (obj : Json) : Except EspErr (Variant × Tables) := do
  let id ← obj.stringRequired "id" idMaxLen
  let label ← obj.stringOptional "label" nameMaxLen
  let ((start, count), t) ← importActions cj t (obj.items "actions")
  return ({ id, label, actionStartIndex := start, actionCount := count }, t)

/-- The switch over the trigger's kind. -/
def importTrigger (obj : Json) : Except EspErr Trigger := do
  let kind ← obj.enumRequired "kind" TriggerKind.fromStr
  match kind with
  | .deviceEvent => do
    let deviceId ← obj.stringRequired "device_id" idMaxLen
    let eventId ← obj.stringRequired "event_id" idMaxLen
    return { kind, deviceId, eventId }
  | .anyDeviceEvents | .allDeviceEvents => do
    let items ← obj.group "events" waitEventGroupMaxEvents
    let events ← readAll importEventRef items
    return { kind, events }
  | .flagChanged => do
    let flagName ← obj.stringRequired "flag_name" idMaxLen
    return { kind, flagName }
  | .operatorEvent => do
    let operatorEvent ← obj.stringRequired "event_id" idMaxLen
    return { kind, operatorEvent }
  | .runtimeEvent => do
    let runtimeEvent ← obj.stringRequired "event_id" idMaxLen
    return { kind, runtimeEvent }
  | .none => .error .invalidArg

/-- The flag of `result_policy`, which has an older name. -/
def importResultFlag (result : Json) : Except EspErr String := do
  let flag ← result.stringOptional "flag" idMaxLen
  if flag ≠ "" then return flag else result.stringOptional "timeout_flag" idMaxLen

/-- `result_policy`: the three actions and the flag. -/
def importResultPolicy (obj : Json) :
    Except EspErr (ResultAction × ResultAction × ResultAction × String) :=
  match obj.get "result_policy" with
  | none => .ok (.continue, .failReaction, .failReaction, "")
  | some (.object members) => do
    let result := Json.object members
    let onDone ← result.enumOr "on_done" ResultAction.fromStr .continue
    let onFail ← result.enumOr "on_fail" ResultAction.fromStr .failReaction
    let onTimeout ← result.enumOr "on_timeout" ResultAction.fromStr .failReaction
    let flag ← importResultFlag result
    return (onDone, onFail, onTimeout, flag)
  | _ => .error .invalidArg

/-- `on_complete`, where an empty array is as good as none. -/
def importOnComplete (t : Tables) (obj : Json) : Except EspErr ((Nat × Nat) × Tables) :=
  match obj.get "on_complete" with
  | none | some (.array []) => .ok ((0, 0), t)
  | some (.array items) => importActions cj t items
  | _ => .error .invalidArg

/-- `room_scenario_import_reactive_branch_v2_json`. -/
def importReaction (t : Tables) (obj : Json) : Except EspErr (Reaction × Tables) :=
  match obj.get "trigger", obj.get "variants" with
  | some (.object members), some (.array items) => do
    let trigger ← importTrigger (.object members)
    if waitFlagsMaxFlags < (obj.items "guard_flags").length then .error .invalidArg
    else
      let guardFlags ← readAll (importFlag "flag") (obj.items "guard_flags")
      if items.length = 0 ∨ maxReactiveVariants < t.variants.length + items.length then
        .error .invalidArg
      else
        let (variants, t') ← readFrom (importVariant cj) t items
        let (resultOnDone, resultOnFail, resultOnTimeout, resultFlag) ← importResultPolicy obj
        let ((onCompleteStart, onCompleteCount), t') ←
          importOnComplete cj { t' with variants := t.variants ++ variants } obj
        return ({ trigger, guardFlags, resultOnDone, resultOnFail, resultOnTimeout, resultFlag
                  variantStartIndex := t.variants.length
                  variantCount := items.length
                  onCompleteActionStartIndex := onCompleteStart
                  onCompleteActionCount := onCompleteCount }, t')
  | _, _ => .error .invalidArg

/-! ### Branches -/

/-- `priority`, a number of 16 bits. -/
def importPriority (obj : Json) : Except EspErr UInt16 := do
  let priority ← obj.uint32Optional "priority"
  if 65535 < priority then .error .invalidArg else return UInt16.ofNat priority.toNat

/-- `policy`: the mode, and the cooldown and fire limit in place of the branch's. -/
def importPolicy (obj : Json) (cooldownMs maxFireCount : UInt32) :
    Except EspErr (PolicyMode × UInt32 × UInt32) :=
  match obj.get "policy" with
  | none => .ok (.single, cooldownMs, maxFireCount)
  | some (.object members) => do
    let policy := Json.object members
    let mode ← policy.enumOr "mode" PolicyMode.fromStr .single
    let cooldownMs ← policy.uint32Optional "cooldown_ms"
    let maxFireCount ← policy.uint32Optional "max_fire_count"
    return (mode, cooldownMs, maxFireCount)
  | _ => .error .invalidArg

/-- `reentry`. -/
def importReentry (obj : Json) : Except EspErr ReentryMode :=
  match obj.get "reentry" with
  | none => .ok .ignore
  | some (.object members) => (Json.object members).enumOr "mode" ReentryMode.fromStr .ignore
  | _ => .error .invalidArg

/-- What `room_scenario_import_branches_json` has read so far. -/
structure Reading where
  steps : List Step := []
  tables : Tables := {}
  deriving DecidableEq, Repr

/-- The part of a branch behind its common fields: a reaction, or steps. -/
def importBranchBody (r : Reading) (obj : Json) (branch : Branch) :
    Except EspErr (Branch × Reading) :=
  if branch.type = .reactive ∧ (obj.get "variants").isSome then do
    let (reaction, tables) ← importReaction cj r.tables obj
    return ({ branch with
        reaction
        maxFireCount :=
          if branch.policyMode = .single then (if branch.runOnce then 1 else 0)
          else branch.maxFireCount
        stepStartIndex := r.steps.length
        stepCount := 0 }, { r with tables })
  else do
    let steps ← importSteps cj r.steps obj
    return ({ branch with stepStartIndex := r.steps.length, stepCount := steps.length },
      { r with steps := r.steps ++ steps })

/-- The body of the loop of `room_scenario_import_branches_json`. -/
def importBranch (r : Reading) (obj : Json) : Except EspErr (Branch × Reading) := do
  let id ← obj.stringRequired "id" idMaxLen
  let name ← obj.stringRequired "name" nameMaxLen
  let type ← obj.enumOrNull "type" BranchType.fromStr .normal
  let enabled ← obj.boolOr "enabled" true
  let priority ← importPriority obj
  let requiredForCompletion ← obj.boolOr "required_for_completion" (type = .normal)
  let cooldownMs ← obj.uint32Optional "cooldown_ms"
  let maxFireCount ← obj.uint32Optional "max_fire_count"
  let (policyMode, cooldownMs, maxFireCount) ← importPolicy obj cooldownMs maxFireCount
  let runOnce ← obj.boolOr "run_once" false
  let reentryMode ← importReentry obj
  importBranchBody cj r obj
    { id, name, type, enabled, requiredForCompletion, priority, policyMode, cooldownMs,
      maxFireCount, runOnce, reentryMode }

/-- The branches or the flat steps of `room_scenario_import_one_json`. -/
def importBody (obj : Json) : Except EspErr (List Branch × Reading) :=
  match obj.get "branches" with
  | none => do
    let steps ← importSteps cj [] obj
    return ([], { steps })
  | some (.array items) =>
    if items.length = 0 ∨ maxBranches < items.length then .error .invalidSize
    else readFrom (importBranch cj) {} items
  | _ => .error .invalidArg

/-- `room_scenario_from_json`. -/
def importScenario (obj : Json) : Except EspErr Scenario := do
  let id ← obj.stringRequired "id" idMaxLen
  let name ← obj.stringRequired "name" nameMaxLen
  let roomId ← obj.stringRequired "room_id" idMaxLen
  let (branches, r) ← importBody cj obj
  let scenario : Scenario :=
    { id, name, roomId, branches
      steps := r.steps
      reactiveVariants := r.tables.variants
      reactiveActions := r.tables.actions
      reactiveGroupCommands := r.tables.groupCommands }
  if scenario.validateStructural ≠ .ok then .error scenario.validateStructural
  else return scenario

end

end SceneHub
