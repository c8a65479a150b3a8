import SceneHub.Storage.Stored

/-!
# Running a Stored Scenario

A session keeps a copy of the scenario it runs, `running_scenario`. It is the
record of the store; the session code reads a part of it, which is what the
types of `SceneHub.Scenario` hold.

## Main definitions

* `Stored.Scenario.running`: The part of a stored scenario that a session reads.
-/

namespace SceneHub.Stored

def WaitDeviceEvent.running (wait : WaitDeviceEvent) : SceneHub.WaitDeviceEvent :=
  { timeoutMs := wait.timeoutMs
    timeoutAction := wait.timeoutAction
    timeoutMessage := wait.timeoutMessage }

def WaitGroupEvents.running (wait : WaitGroupEvents) : SceneHub.WaitGroupEvents :=
  { eventCount := wait.events.length
    timeoutMs := wait.timeoutMs
    timeoutAction := wait.timeoutAction }

def StepData.running : StepData → StepBody
  | .waitTime wait => .waitTime wait
  | .operatorApproval approval => .operatorApproval approval
  | .deviceCommand command => .deviceCommand command
  | .waitDeviceEvent wait => .waitDeviceEvent wait.running
  | .deviceCommandGroup group => .deviceCommandGroup group
  | .showOperatorMessage message => .showOperatorMessage message
  | .setFlag flag => .setFlag flag
  | .waitFlags wait => .waitFlags wait
  | .waitAnyDeviceEvent wait => .waitAnyDeviceEvent wait.running
  | .waitAllDeviceEvents wait => .waitAllDeviceEvents wait.running
  | .failReaction => .failReaction
  | .resetReaction => .resetReaction
  | .endGame => .endGame

def Step.running (step : Step) : ScenarioStep :=
  { body := step.data.running
    enabled := step.enabled
    allowOperatorSkip := step.allowOperatorSkip
    operatorSkipLabel := step.operatorSkipLabel }

def ActionData.running : ActionData → ActionBody
  | .waitTime wait => .waitTime wait
  | .operatorApproval => .operatorApproval
  | .deviceCommand command => .deviceCommand command
  | .waitDeviceEvent wait => .waitDeviceEvent wait.running
  | .deviceCommandGroup mode startIndex count => .deviceCommandGroup mode startIndex count
  | .showOperatorMessage message => .showOperatorMessage message
  | .setFlag flag => .setFlag flag
  | .waitFlags wait => .waitFlags wait
  | .waitAnyDeviceEvent wait => .waitAnyDeviceEvent wait.running
  | .waitAllDeviceEvents wait => .waitAllDeviceEvents wait.running
  | .failReaction => .failReaction
  | .resetReaction => .resetReaction
  | .endGame => .endGame

def Action.running (action : Action) : ActionBody := action.data.running

def Variant.running (variant : Variant) : ReactiveVariant :=
  { actionStartIndex := variant.actionStartIndex, actionCount := variant.actionCount }

def Trigger.running (trigger : Trigger) : ReactiveTrigger :=
  { kind := trigger.kind
    flagName := trigger.flagName
    runtimeEvent := trigger.runtimeEvent
    operatorEvent := trigger.operatorEvent }

def Branch.running (branch : Branch) : ScenarioBranch :=
  { id := branch.id
    type := branch.type
    enabled := branch.enabled
    requiredForCompletion := branch.requiredForCompletion
    policyMode := branch.policyMode
    cooldownMs := branch.cooldownMs
    maxFireCount := branch.maxFireCount
    runOnce := branch.runOnce
    reentryMode := branch.reentryMode
    trigger := branch.reaction.trigger.running
    guardFlags := branch.reaction.guardFlags
    resultOnDone := branch.reaction.resultOnDone
    resultOnFail := branch.reaction.resultOnFail
    resultOnTimeout := branch.reaction.resultOnTimeout
    resultFlag := branch.reaction.resultFlag
    variantStartIndex := branch.reaction.variantStartIndex
    variantCount := branch.reaction.variantCount
    onCompleteActionStartIndex := branch.reaction.onCompleteActionStartIndex
    onCompleteActionCount := branch.reaction.onCompleteActionCount
    stepStartIndex := branch.stepStartIndex
    stepCount := branch.stepCount }

/-- The part of a stored scenario that a session reads. -/
def Scenario.running (s : Scenario) : RoomScenario :=
  { id := s.id
    name := s.name
    roomId := s.roomId
    steps := s.steps.map Step.running
    reactiveVariants := s.reactiveVariants.map Variant.running
    reactiveActions := s.reactiveActions.map Action.running
    reactiveGroupCommands := s.reactiveGroupCommands
    branches := s.branches.map Branch.running }

end SceneHub.Stored
