import SceneHub.Session.Reactive

/-!
# Advancing a Branch

How one branch moves on its own: `execute_branch_core_locked` and
`gm_room_session_runtime_process_branch_locked` of
`gm_room_session_runtime.c`.

Whether the session's summary is recomputed after a branch ran depends on
which of its exits `execute_branch_core_locked` takes, so that function
reports the exit along with its error code, and the recomputation, which needs
every branch, happens one level up.

## Main definitions

* `executeBranchCore`: Running a branch from where it stands.
* `prepareBranch`: Leaving an elapsed cooldown.
* `processWait`: What a tick does about the wait of a branch.
* `processBranch`: A tick on one branch.
-/

namespace SceneHub

/-- `prepare_wait_resolution_locked`. The error is its code; `ok none` leaves
    the resolution absent. -/
def prepareWaitResolution (e : Env) (b : BranchRun) :
    Except EspErr (Option (List WaitEventMatch)) :=
  if b.progress.scenarioState ≠ .running then .ok none
  else match e.scenario.steps[b.progress.currentStepIndex]? with
    | none => .ok none
    | some step =>
      match step.body with
      | .waitDeviceEvent _ | .waitAnyDeviceEvent _ | .waitAllDeviceEvents _ =>
        match expandPreparedWaitResolution e.prepared
            ((e.prepared.stepWaits[b.progress.currentStepIndex]?).getD {}) with
        | none => .error .invalidArg
        | some found => .ok (some found)
      | _ => .ok none

/-- How `execute_branch_core_locked` ended: its code, and whether it got as far
    as the point where the summary is recomputed. -/
structure CoreExit where
  err : EspErr
  atSummary : Bool
  ctx : Ctx
  deriving Repr

/-- Load the branch, run its steps, save it. -/
def runSteps (e : Env) (nowMs : UInt32) (budget : Nat) (resolution : Option (List WaitEventMatch))
    (c : Ctx) : EspErr × Ctx :=
  let (err, c) := executeScenario e nowMs budget (branchEndIndex e) resolution c.load
  (err, c.save)

/-- The bookkeeping of a reactive branch of the first format that has run to
    its end and may run again. -/
def rearmBranch (e : Env) (nowMs : UInt32) (c : Ctx) : Ctx :=
  let c := c.setBranchStep e.setup.stepStartIndex
  let c :=
    { c with branch :=
        { c.branch with
          cooldownUntilMs := if 0 < e.setup.cooldownMs then nowMs + e.setup.cooldownMs else 0 } }
  let c := c.setBranchState (if 0 < e.setup.cooldownMs then .cooldown else .running)
  c.branchClearWait.markChanged e

/-- The tail of `execute_branch_core_locked` behind the first run of the steps. -/
def afterSteps (e : Env) (nowMs : UInt32) (budget : Nat) (err : EspErr) (c : Ctx) : CoreExit :=
  if err = .ok ∧ e.setup.type = .reactive ∧ c.branch.progress.scenarioState = .done then
    let c :=
      { c with branch := { c.branch with firedOnce := true, fireCount := c.branch.fireCount + 1 } }
    if e.setup.maxFireCount = 0 ∨ c.branch.fireCount < e.setup.maxFireCount then
      let c := rearmBranch e nowMs c
      if c.branch.progress.scenarioState = .running then
        let c := c.load
        match prepareWaitResolution e c.branch with
        | .error err => ⟨err, false, c⟩
        | .ok resolution =>
          let plan := c.plan
          let (err, c) := executeScenario e nowMs budget (branchEndIndex e) resolution c
          ⟨err, true, { c.save with plan := c.plan.or plan }⟩
      else ⟨err, true, c⟩
    else ⟨err, true, c⟩
  else ⟨err, true, c⟩

/-- `execute_branch_core_locked` without the summary. -/
def executeBranchCore (e : Env) (nowMs : UInt32) (budget : Nat) (c : Ctx) : CoreExit :=
  if !e.setup.active then ⟨.invalidArg, false, c⟩
  else
    let c := { c with plan := none }
    if e.isReactiveV2 then
      let (err, c) := continueLocked e nowMs c
      ⟨err, false, c⟩
    else match prepareWaitResolution e c.branch with
      | .error err => ⟨err, false, c⟩
      | .ok resolution =>
        let (err, c) := runSteps e nowMs budget resolution c
        afterSteps e nowMs budget err c

def prepareBranch (e : Env) (nowMs : UInt32) (c : Ctx) : Bool × Ctx :=
  if !e.setup.active then (false, c)
  else if c.branch.progress.scenarioState ≠ .cooldown then (true, c)
  else if !timeReached nowMs c.branch.cooldownUntilMs then (false, c)
  else
    let c := (c.setBranchStep e.setup.stepStartIndex).setBranchState
      (if e.isReactiveV2 then .waiting else .running)
    let c := { c with branch := { c.branch with cooldownUntilMs := 0 } }
    (!e.isReactiveV2, c.branchClearWait.markChanged e)

inductive WaitOutcome where
  /-- `true`: the branch has been dealt with. -/
  | handled (c : Ctx)
  /-- `false` with `out_ready_to_advance` set. -/
  | ready (c : Ctx)
  deriving Repr

/-- A reaction's wait has expired: the timeout action is applied to the branch,
    and then the scratch fields are saved over it. -/
def expireReactiveWait (e : Env) (nowMs : UInt32) (c : Ctx) : Ctx :=
  match e.scenario.reactiveActions[
      c.branch.reactiveActionStartIndex + c.branch.reactiveCurrentAction]? with
  | none => (c.setError e "reactive_action_range_invalid").save
  | some action => (applyReactiveWaitTimeout e action nowMs c).2.save

/-- The deadline test of `gm_room_session_runtime_process_wait_locked`. Only a
    timed wait takes a deadline of zero for a time. -/
def waitExpired (nowMs : UInt32) (w : Wait) : Bool :=
  match w.waitType with
  | .time => timeReached nowMs w.waitUntilMs
  | _ => waitTimeoutReached nowMs w.waitUntilMs

/-- `gm_room_session_runtime_process_wait_locked`, on a loaded branch. -/
def processWait (e : Env) (nowMs : UInt32) (c : Ctx) : WaitOutcome :=
  let p := c.session.progress
  if p.scenarioState = .waiting ∧ p.wait.waitType = .time then
    if !waitExpired nowMs p.wait then .handled c.save
    else if e.isReactiveV2 then .handled (expireReactiveWait e nowMs c)
    else .ready (((c.nextStep.setState .running).clearWait).markChanged e)
  else if p.scenarioState = .waiting ∧
      (p.wait.waitType = .deviceEvent ∨ p.wait.waitType = .anyDeviceEvent ∨
        p.wait.waitType = .allDeviceEvents) then
    if !waitExpired nowMs p.wait then .handled c.save
    else if e.isReactiveV2 then .handled (expireReactiveWait e nowMs c)
    else match applyWaitTimeout e nowMs c with
      | none => .handled c.save
      | some c => .ready c
  else if p.scenarioState = .waiting ∧ p.wait.waitType = .flags then
    if !waitFlagsMet c.session then
      if e.isReactiveV2 then
        if !waitExpired nowMs p.wait then .handled c.save
        else .handled (expireReactiveWait e nowMs c)
      else match applyWaitTimeout e nowMs c with
        | some c => .handled (executeBranchCore e nowMs maxStepsPerTick c.save).ctx
        | none => .handled c.save
    else .ready (((c.nextStep.setState .running).clearWait).markChanged e)
  else if p.scenarioState ≠ .running then .handled c.save
  else .ready c

/-- `gm_room_session_runtime_process_branch_locked`. The flag is its return
    value, which makes the caller stop. -/
def processBranch (e : Env) (nowMs : UInt32) (c : Ctx) : Ctx × Bool :=
  match prepareBranch e nowMs c with
  | (false, c) => (c, false)
  | (true, c) =>
    match processWait e nowMs c.load with
    | .handled c => (c, c.plan.isSome)
    | .ready c =>
      if c.plan.isSome then (c, true)
      else
        let c := (executeBranchCore e nowMs maxStepsPerTick c.save).ctx
        (c, c.plan.isSome)

end SceneHub
