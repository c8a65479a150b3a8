import SceneHub.Storage.ScenarioJson

/-!
# Exporting a Scenario

`room_scenario_json_export.c`: from a stored scenario to a tree. A range that
leaves its table, a step or action type without a form, or a text of parameters
that is no object is an error.

## Main definitions

* `exportStep`: One step.
* `exportAction`, `exportReaction`: A reaction with its variants and actions.
* `exportBranch`: One branch of either kind.
* `exportScenario`: `room_scenario_to_json`.
-/

namespace SceneHub

open Lib (readAll)
open Stored

section

variable (cj : CJson)

/-! ### Steps -/

def StepData.type : Stored.StepData → StepType
  | .waitTime _ => .waitTime
  | .operatorApproval _ => .operatorApproval
  | .deviceCommand _ => .deviceCommand
  | .waitDeviceEvent _ => .waitDeviceEvent
  | .deviceCommandGroup _ => .deviceCommandGroup
  | .showOperatorMessage _ => .showOperatorMessage
  | .setFlag _ => .setFlag
  | .waitFlags _ => .waitFlags
  | .waitAnyDeviceEvent _ => .waitAnyDeviceEvent
  | .waitAllDeviceEvents _ => .waitAllDeviceEvents
  | .failReaction => .failReaction
  | .resetReaction => .resetReaction
  | .endGame => .endGame

/-- A wait for any or for all of several events. -/
def groupWaitFields (wait : Stored.WaitGroupEvents) : List (String × Option Json) :=
  [("events", some (.array (wait.events.map exportEventRef))),
    ("timeout_ms", Json.nonZero wait.timeoutMs), timeoutActionField wait.timeoutAction]

/-- The switch of `room_scenario_export_step_json`. -/
def stepFields : Stored.StepData → Except EspErr (List (String × Option Json))
  | .deviceCommand command => commandFields cj command
  | .deviceCommandGroup group => do
    let commands ← readAll (exportCommand cj) group.commands
    return [("commands", some (.array commands))]
  | .waitTime wait => .ok [("duration_ms", some (.number wait.durationMs.toNat))]
  | .waitDeviceEvent wait => .ok
    [("device_id", some (.string wait.deviceId)), ("event_id", some (.string wait.eventId)),
      ("timeout_ms", Json.nonZero wait.timeoutMs), timeoutActionField wait.timeoutAction,
      ("timeout_message", Json.nonEmpty wait.timeoutMessage)]
  | .operatorApproval approval => .ok
    [("prompt", some (.string approval.prompt)),
      ("approve_label", some (.string approval.approveLabel))]
  | .showOperatorMessage message => .ok [("message", some (.string message))]
  | .setFlag flag => .ok
    [("flag_name", some (.string flag.name)), ("value", some (.bool flag.value))]
  | .waitFlags wait => .ok
    [("flags", some (.array (wait.flags.map (exportFlag "flag_name")))),
      ("timeout_ms", Json.nonZero wait.timeoutMs), timeoutActionField wait.timeoutAction,
      ("timeout_message", Json.nonEmpty wait.timeoutMessage)]
  | .waitAnyDeviceEvent wait | .waitAllDeviceEvents wait => .ok (groupWaitFields wait)
  | .endGame => .ok []
  | .failReaction | .resetReaction => .error .invalidArg

/-- The fields of every step, before its switch. -/
def commonStepFields (step : Stored.Step) : List (String × Option Json) :=
  [("id", some (.string step.id)), ("label", some (.string step.label)),
    ("enabled", some (.bool step.enabled)),
    ("type", some (.string (StepData.type step.data).toStr)),
    ("allow_operator_skip", if step.allowOperatorSkip then some (.bool true) else none),
    ("operator_skip_label", Json.nonEmpty step.operatorSkipLabel)]

/-- `room_scenario_export_step_json`. -/
def exportStep (step : Stored.Step) : Except EspErr Json := do
  let fields ← stepFields cj step.data
  return Json.ofFields (commonStepFields step ++ fields)

/-! ### Reactions -/

def ActionData.type : Stored.ActionData → StepType
  | .waitTime _ => .waitTime
  | .operatorApproval => .operatorApproval
  | .deviceCommand _ => .deviceCommand
  | .waitDeviceEvent _ => .waitDeviceEvent
  | .deviceCommandGroup _ _ _ => .deviceCommandGroup
  | .showOperatorMessage _ => .showOperatorMessage
  | .setFlag _ => .setFlag
  | .waitFlags _ => .waitFlags
  | .waitAnyDeviceEvent _ => .waitAnyDeviceEvent
  | .waitAllDeviceEvents _ => .waitAllDeviceEvents
  | .failReaction => .failReaction
  | .resetReaction => .resetReaction
  | .endGame => .endGame

/-- The switch of `room_scenario_export_reactive_action_json`, with the table of
    group commands. -/
def actionFields (groupCommands : List DeviceCommand) :
    Stored.ActionData → Except EspErr (List (String × Option Json))
  | .deviceCommand command => commandFields cj command
  | .deviceCommandGroup mode startIndex count =>
    match slice groupCommands startIndex count with
    | none => .error .invalidArg
    | some commands => do
      let commands ← readAll (exportCommand cj) commands
      return [("mode", some (.string mode.toStr)), ("commands", some (.array commands))]
  | .waitTime wait => .ok
    [("duration_ms", some (.number wait.durationMs.toNat)), timeoutActionField wait.timeoutAction]
  | .setFlag flag => .ok
    [("flag", some (.string flag.name)), ("value", some (.bool flag.value))]
  | .showOperatorMessage message => .ok [("message", some (.string message))]
  | .failReaction | .resetReaction => .ok []
  | _ => .error .invalidArg

/-- The fields of every action, before its switch. -/
def commonActionFields (action : Stored.Action) : List (String × Option Json) :=
  [("id", Json.nonEmpty action.id), ("label", Json.nonEmpty action.label),
    ("type", some (.string (ActionData.type action.data).toStr))]

/-- `room_scenario_export_reactive_action_json`. -/
def exportAction (groupCommands : List DeviceCommand) (action : Stored.Action) :
    Except EspErr Json := do
  let fields ← actionFields cj groupCommands action.data
  return Json.ofFields (commonActionFields action ++ fields)

/-- A range of the action table. -/
def exportActions (s : Stored.Scenario) (start count : Nat) : Except EspErr (List Json) :=
  match slice s.reactiveActions start count with
  | none => .error .invalidArg
  | some actions => readAll (exportAction cj s.reactiveGroupCommands) actions

def exportVariant (s : Stored.Scenario) (variant : Stored.Variant) : Except EspErr Json := do
  let actions ← exportActions cj s variant.actionStartIndex variant.actionCount
  return Json.ofFields
    [("id", some (.string variant.id)), ("label", some (.string variant.label)),
      ("actions", some (.array actions))]

/-- The trigger. Three kinds of it put their event under the same name. -/
def exportTrigger (trigger : Stored.Trigger) : Json :=
  Json.ofFields
    [("kind", some (.string trigger.kind.toStr)), ("device_id", Json.nonEmpty trigger.deviceId),
      ("event_id", Json.nonEmpty trigger.eventId),
      ("events",
        if 0 < trigger.events.length then some (.array (trigger.events.map exportEventRef))
        else none),
      ("flag_name", Json.nonEmpty trigger.flagName),
      ("event_id", Json.nonEmpty trigger.runtimeEvent),
      ("event_id", Json.nonEmpty trigger.operatorEvent)]

/-- `room_scenario_export_reactive_branch_v2_json`: the members it adds. -/
def reactionFields (s : Stored.Scenario) (reaction : Stored.Reaction) :
    Except EspErr (List (String × Option Json)) :=
  match slice s.reactiveVariants reaction.variantStartIndex reaction.variantCount with
  | none => .error .invalidArg
  | some variants => do
    let variants ← readAll (exportVariant cj s) variants
    let complete ←
      exportActions cj s reaction.onCompleteActionStartIndex reaction.onCompleteActionCount
    return [("trigger", some (exportTrigger reaction.trigger)),
      ("guard_flags", some (.array (reaction.guardFlags.map (exportFlag "flag")))),
      ("variants", some (.array variants)),
      ("result_policy", some (Json.ofFields
        [("on_done", some (.string reaction.resultOnDone.toStr)),
          ("on_fail", some (.string reaction.resultOnFail.toStr)),
          ("on_timeout", some (.string reaction.resultOnTimeout.toStr)),
          ("flag", Json.nonEmpty reaction.resultFlag)])),
      ("on_complete", some (.array complete))]

/-! ### Branches -/

/-- The members that only a reactive branch writes. -/
def reactiveFields (branch : Stored.Branch) : List (String × Option Json) :=
  [("policy", some (Json.ofFields
      [("mode", some (.string branch.policyMode.toStr)),
        ("cooldown_ms", some (.number branch.cooldownMs.toNat)),
        ("max_fire_count", some (.number branch.maxFireCount.toNat))])),
    ("reentry", some (Json.ofFields [("mode", some (.string branch.reentryMode.toStr))])),
    ("cooldown_ms", Json.nonZero branch.cooldownMs),
    ("max_fire_count", Json.nonZero branch.maxFireCount),
    ("run_once", if branch.runOnce then some (.bool true) else none)]

def exportSteps (s : Stored.Scenario) (branch : Stored.Branch) : Except EspErr (List Json) :=
  match slice s.steps branch.stepStartIndex branch.stepCount with
  | none => .error .invalidArg
  | some steps => readAll (exportStep cj) steps

/-- The members behind the common ones: those of a reaction, those of a branch
    that runs steps, or both where a reaction has a trigger but no variants. -/
def branchBodyFields (s : Stored.Scenario) (branch : Stored.Branch) :
    Except EspErr (List (String × Option Json)) := do
  let reactive := if branch.type = .reactive then reactiveFields branch else []
  let reaction ←
    if branch.type = .reactive ∧ branch.isReactiveV2 then reactionFields cj s branch.reaction
    else .ok []
  if branch.type = .reactive ∧ 0 < branch.reaction.variantCount then return reactive ++ reaction
  else
    let steps ← exportSteps cj s branch
    return reactive ++ reaction ++ [("steps", some (.array steps))]

def commonBranchFields (branch : Stored.Branch) : List (String × Option Json) :=
  [("id", some (.string branch.id)), ("name", some (.string branch.name)),
    ("type", some (.string branch.type.toStr)), ("enabled", some (.bool branch.enabled)),
    ("required_for_completion", some (.bool branch.requiredForCompletion)),
    ("priority", if 0 < branch.priority then some (.number branch.priority.toNat) else none)]

def exportBranch (s : Stored.Scenario) (branch : Stored.Branch) : Except EspErr Json := do
  let body ← branchBodyFields cj s branch
  return Json.ofFields (commonBranchFields branch ++ body)

/-- The branches, or the steps of a scenario that has none. -/
def bodyField (s : Stored.Scenario) : Except EspErr (String × Option Json) :=
  if 0 < s.branches.length then do
    let branches ← readAll (exportBranch cj s) s.branches
    return ("branches", some (.array branches))
  else do
    let steps ← readAll (exportStep cj) s.steps
    return ("steps", some (.array steps))

/-- `room_scenario_to_json`. -/
def exportScenario (s : Stored.Scenario) : Except EspErr Json :=
  if s.validateStructural ≠ .ok then .error s.validateStructural
  else do
    let body ← bodyField cj s
    return Json.ofFields
      [("id", some (.string s.id)), ("name", some (.string s.name)),
        ("room_id", some (.string s.roomId)), body]

end

end SceneHub
