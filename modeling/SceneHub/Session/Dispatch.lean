import SceneHub.Session.Room

/-!
# The Dispatcher's Side

A command plan is carried out without the sessions lock. Between the commands
the dispatcher comes back three ways: to ask for the next command, to report
what became of it, and to report that it failed. From
`gm_room_session_commands.c`.

## Main definitions

* `planMatches`: Whether a branch still waits for the plan.
* `resolvePlan`: The command a plan stands for.
* `applyDispatch`: What a dispatch result does to the branch.
* `failPlan`: What a failed dispatch does to the branch.
-/

namespace SceneHub

/-- `scenario_waiting_for_command_dispatch`. -/
def waitingForDispatch (p : Progress) : Bool :=
  p.scenarioState = .waiting && p.wait.waitType = .deviceCommandResult &&
  p.wait.waitEventType = dispatchPendingId

def PlanKind.isStep : PlanKind → Bool
  | .scenarioStep | .scenarioStepGroup => true
  | .reactiveAction | .reactiveActionGroup => false

def PlanKind.isGroup : PlanKind → Bool
  | .scenarioStepGroup | .reactiveActionGroup => true
  | .scenarioStep | .reactiveAction => false

/-- `planned_command_session_matches_locked`. The branch is loaded in any case. -/
def planMatches (e : Env) (plan : CommandPlan) (c : Ctx) : Bool × Ctx :=
  if !e.setup.active then (false, c)
  else
    let c := c.load
    if !waitingForDispatch c.session.progress then (false, c.save)
    else if plan.kind.isStep then
      (c.session.progress.currentStepIndex = plan.expectedStepIndex, c.save)
    else (c.branch.reactiveCurrentAction = plan.expectedReactiveAction, c.save)

/-- `planned_command_resolve_locked`: the command, and whether more follow. -/
def resolvePlan (e : Env) (b : BranchRun) (plan : CommandPlan) :
    Except EspErr (DeviceCommand × Bool) :=
  match plan.kind with
  | .scenarioStep =>
    match (e.scenario.steps[plan.expectedStepIndex]?).map ScenarioStep.body with
    | some (.deviceCommand command) => .ok (command, false)
    | _ => .error .invalidState
  | .scenarioStepGroup =>
    match (e.scenario.steps[plan.expectedStepIndex]?).map ScenarioStep.body with
    | some (.deviceCommandGroup group) =>
      match group.commands[plan.commandIndex]? with
      | some command => .ok (command, plan.commandIndex + 1 < group.commands.length)
      | none => .error .invalidState
    | _ => .error .invalidState
  | .reactiveAction =>
    match e.scenario.reactiveActions[b.reactiveActionStartIndex + b.reactiveCurrentAction]? with
    | some (.deviceCommand command) => .ok (command, false)
    | _ => .error .invalidState
  | .reactiveActionGroup =>
    match e.scenario.reactiveActions[b.reactiveActionStartIndex + b.reactiveCurrentAction]? with
    | some (.deviceCommandGroup mode startIndex count) =>
      if mode = .parallel ∨ count ≤ plan.commandIndex ∨
          e.scenario.reactiveGroupCommands.length < startIndex + count then .error .invalidState
      else
        .ok ((e.scenario.reactiveGroupCommands[startIndex + plan.commandIndex]?).getD default,
          plan.commandIndex + 1 < count)
    | _ => .error .invalidState

/-- The branch's part of `gm_room_session_command_plan_next_command`. -/
def nextCommand (e : Env) (plan : CommandPlan) (c : Ctx) :
    Except EspErr (DeviceCommand × Bool) × Ctx :=
  match planMatches e plan c with
  | (false, c) => (.error .invalidState, c)
  | (true, c) =>
    let c := c.load
    (resolvePlan e c.branch plan, c.save)

/-- The error text of a group command that wants a result. -/
def groupResultError : PlanKind → String
  | .scenarioStepGroup => "device_command_group_result_required_unsupported"
  | _ => "reactive_group_result_required_unsupported"

/-- A step's command is done: the branch goes on with the next step. -/
def stepDispatched (e : Env) (nowMs : UInt32) (c : Ctx) : CoreExit :=
  let c := ((((c.setState .running).nextStep).clearWait).markChanged e).save
  let out := executeBranchCore e nowMs maxStepsPerTick c
  if out.err = .ok then out else { out with ctx := { out.ctx with plan := none } }

/-- A reaction's command is done: the reaction goes on with the next action. -/
def reactiveDispatched (e : Env) (nowMs : UInt32) (c : Ctx) : CoreExit :=
  let c := ((c.setState .running).clearWait).nextAction
  let c := ((((c.setBranchState .running).branchClearWait).markChanged e).save)
  let (err, c) := continueLocked e nowMs c
  ⟨err, true, if err = .ok then c else { c with plan := none }⟩

/-- The branch's part of `gm_room_session_command_plan_apply_dispatch_result`.
    The plan left in the context is what the caller's plan becomes. -/
def applyDispatch (e : Env) (plan : CommandPlan) (dispatch : DispatchResult) (hasMore : Bool)
    (nowMs : UInt32) (c : Ctx) : CoreExit :=
  match planMatches e plan c with
  | (false, c) => ⟨.ok, false, { c with plan := none }⟩
  | (true, c) =>
    let c := { c.load with plan := none }
    if plan.kind.isGroup ∧ dispatch.resultRequired then
      ⟨.notSupported, true, (c.setError e (groupResultError plan.kind)).save⟩
    else if dispatch.resultRequired then
      ⟨.ok, true, (enterWaitCommandResult e dispatch nowMs c).save⟩
    else if hasMore then
      ⟨.ok, false,
        { c.save with plan := some { plan with commandIndex := plan.commandIndex + 1 } }⟩
    else if plan.kind.isStep then stepDispatched e nowMs c
    else reactiveDispatched e nowMs c

/-- The error text of a failed dispatch without one of its own. -/
def planFailText (plan : CommandPlan) (errorCode : String) : String :=
  if errorCode ≠ "" then errorCode
  else if plan.kind.isStep then "device_command_failed"
  else "reactive_device_command_failed"

/-- The branch's part of `planned_command_set_error_locked`. -/
def failPlan (e : Env) (plan : CommandPlan) (errorCode : String) (c : Ctx) : Ctx :=
  (c.load.setError e (planFailText plan errorCode)).save

/-! ### On a session -/

/-- `gm_room_session_command_plan_next_command` on the plan's session. -/
def roomNextCommand (plan : CommandPlan) (r : RoomCtx) :
    Except EspErr (DeviceCommand × Bool) × RoomCtx :=
  if !r.session.runningScenarioValid then (.error .notFound, r)
  else r.onBranch plan.branchIndex (.error .notFound) fun e c => nextCommand e plan c

/-- `gm_room_session_command_plan_apply_dispatch_result` on the plan's session. -/
def roomApplyDispatch (plan : CommandPlan) (dispatch : DispatchResult) (hasMore : Bool)
    (nowMs : UInt32) (r : RoomCtx) : EspErr × RoomCtx :=
  if !r.session.runningScenarioValid then (.ok, r)
  else
    let out := r.onBranch plan.branchIndex (EspErr.ok, false) fun e c =>
      let out := applyDispatch e plan dispatch hasMore nowMs c
      ((out.err, out.atSummary), out.ctx)
    (out.1.1, if out.1.2 then out.2.updateSummary else out.2)

/-- `planned_command_set_error_locked`. -/
def roomFailPlan (plan : CommandPlan) (errorCode : String) (r : RoomCtx) : RoomCtx :=
  if !r.session.runningScenarioValid then r
  else
    let out := r.onBranch plan.branchIndex false fun e c => (true, failPlan e plan errorCode c)
    if out.1 then out.2.updateSummary else out.2

end SceneHub
