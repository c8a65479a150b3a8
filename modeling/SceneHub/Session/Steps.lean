import SceneHub.Session.Wait

/-!
# Running the Steps of a Branch

`execute_scenario_locked` of `gm_room_session_runtime.c`, with the planning of
a step's command from `gm_room_session_commands.c`.

The loop's body is a function of its own. One turn either leaves the loop with
an error code or asks for another turn, and only a turn of the second kind
uses up budget; `executeSteps` iterates it.

## Main definitions

* `StepTurn`: How a turn of the loop ends.
* `executeStep`: One turn, one case for each step type.
* `executeSteps`: The loop under its budget.
* `executeScenario`: The whole function.
-/

namespace SceneHub

/-- `GM_SCENARIO_MAX_STEPS_PER_TICK`, and `GM_ROOM_SESSION_DISPATCH_BUDGET`. -/
def maxStepsPerTick : Nat := 8

def planScenarioCommand (e : Env) (nowMs : UInt32) (c : Ctx) : Ctx :=
  let plan : CommandPlan :=
    { roomId := e.roomId
      branchIndex := e.setup.branchIndex
      kind := .scenarioStep
      expectedStepIndex := c.session.progress.currentStepIndex
      activation := c.lock.activations + 1 }
  { (enterWaitCommandDispatch nowMs c).markChanged e with plan := some plan }

/-- `gm_room_session_plan_scenario_command_group_locked`. The error is a code
    with the text for `scenario_set_error_locked`. -/
def planScenarioCommandGroup (e : Env) (group : DeviceCommandGroup) (nowMs : UInt32) (c : Ctx) :
    Except (EspErr × String) Ctx :=
  if group.commands.length = 0 ∨ commandGroupMaxCommands < group.commands.length then
    .error (.invalidArg, "device_command_group_invalid")
  else
    let plan : CommandPlan :=
      { roomId := e.roomId
        branchIndex := e.setup.branchIndex
        kind := .scenarioStepGroup
        expectedStepIndex := c.session.progress.currentStepIndex
        activation := c.lock.activations + 1 }
    .ok { (enterWaitCommandDispatch nowMs c).markChanged e with plan := some plan }

/-- `finish_game_without_audio_locked`. The caller's 32-bit time is what the
    64-bit fields receive. -/
def finishGame (e : Env) (nowMs : UInt32) (c : Ctx) : Ctx :=
  let c :=
    { c with session :=
        { c.session with
          state := .finished
          finishedAtMs := nowMs.toNat
          timer := c.session.timer.finish nowMs.toNat } }
  ((((c.setState .done).clearWait).markChanged e).record .endedGame)

inductive StepTurn where
  /-- The function returns here. -/
  | leave (err : EspErr) (c : Ctx)
  /-- The turn used up one unit of budget and the loop goes on. -/
  | again (c : Ctx)
  deriving Repr

/-- The advance shared by the steps that complete at once. -/
def Ctx.stepDone (c : Ctx) (e : Env) : Ctx :=
  (((c.setState .running).nextStep).clearWait).markChanged e

/-- Entering a step's event wait: an error fails the scenario with `message`. -/
def enterStepWait (e : Env) (step : ScenarioStep) (message : String) (entered : EspErr × Ctx) :
    StepTurn :=
  if entered.1 ≠ .ok then .leave entered.1 (entered.2.setError e message)
  else .leave .ok (entered.2.setWaitSkip step)

/-- One turn of the loop on an enabled step. -/
def executeStep (e : Env) (nowMs : UInt32) (resolution : Option (List WaitEventMatch))
    (step : ScenarioStep) (c : Ctx) : StepTurn :=
  match step.body with
  | .deviceCommand _ => .leave .ok (planScenarioCommand e nowMs c)
  | .deviceCommandGroup group =>
    match planScenarioCommandGroup e group nowMs c with
    | .error (err, message) => .leave err (c.setError e message)
    | .ok c => .leave .ok c
  | .waitTime wait =>
    let c := ((c.setState .waiting).clearWait).setWait
      { waitType := .time, waitStartedAtMs := nowMs, waitUntilMs := nowMs + wait.durationMs }
    .leave .ok ((c.setWaitSkip step).markChanged e)
  | .waitDeviceEvent wait =>
    enterStepWait e step "wait_device_event_failed" (enterWaitDeviceEvent e wait resolution nowMs c)
  | .waitAnyDeviceEvent wait =>
    enterStepWait e step "wait_any_device_event_failed"
      (enterWaitAnyDeviceEvent e wait resolution nowMs c)
  | .waitAllDeviceEvents wait =>
    enterStepWait e step "wait_all_device_events_failed"
      (enterWaitAllDeviceEvents e wait resolution nowMs c)
  | .waitFlags wait =>
    match enterWaitFlags e wait nowMs c with
    | (.ok, c) =>
      let c := c.setWaitSkip step
      if waitFlagsMet c.session then
        .again (((c.nextStep.setState .running).clearWait).markChanged e)
      else .leave .ok c
    | (err, c) => .leave err (c.setError e "wait_flags_failed")
  | .operatorApproval approval =>
    let c := ((c.setState .waiting).clearWait).setWait
      { waitType := .operator
        waitStartedAtMs := nowMs
        waitOperatorPrompt := approval.prompt
        waitOperatorLabel :=
          if approval.approveLabel ≠ "" then approval.approveLabel else "Continue" }
    .leave .ok (c.markChanged e)
  | .showOperatorMessage message => .again ((c.setMessage message).stepDone e)
  | .setFlag flag =>
    match c.setFlag flag with
    | (.ok, c) => .again (c.stepDone e)
    | (err, c) => .leave err (c.setError e "set_flag_failed")
  | .endGame => .leave .ok (((finishGame e nowMs c).nextStep).markChanged e)
  | .failReaction => .leave .notSupported (c.setError e "unsupported_step_type")
  | .resetReaction => .leave .notSupported (c.setError e "unsupported_step_type")

/-- The end of the branch's steps. -/
def finishSteps (e : Env) (c : Ctx) : Ctx :=
  ((c.setState .done).clearWait).markChanged e

/-- The loop of `execute_scenario_locked`. `endIndex` is at most the number of
    steps, so the step read is always there. -/
def executeSteps (e : Env) (nowMs : UInt32) (endIndex : Nat)
    (resolution : Option (List WaitEventMatch)) : Nat → Ctx → EspErr × Ctx
  | 0, c => (.ok, c)
  | budget + 1, c =>
    if endIndex ≤ c.session.progress.currentStepIndex then (.ok, finishSteps e c)
    else match e.scenario.steps[c.session.progress.currentStepIndex]? with
      | none => (.ok, c)
      | some step =>
        if !step.enabled then
          executeSteps e nowMs endIndex resolution budget (c.nextStep.markChanged e)
        else match executeStep e nowMs resolution step c with
          | .leave err c => (err, c)
          | .again c => executeSteps e nowMs endIndex resolution budget c

/-- The clamping of the end index at the head of `execute_scenario_locked`. -/
def clampEndIndex (e : Env) (endIndex : Nat) : Nat :=
  if endIndex = 0 ∨ e.scenario.steps.length < endIndex then e.scenario.steps.length else endIndex

def executeScenario (e : Env) (nowMs : UInt32) (budget endIndex : Nat)
    (resolution : Option (List WaitEventMatch)) (c : Ctx) : EspErr × Ctx :=
  executeSteps e nowMs (clampEndIndex e endIndex) resolution budget { c with plan := none }

end SceneHub
