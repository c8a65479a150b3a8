import SceneHub.Session.Steps

/-!
# Reactive Branches

Reactions of the second format: `gm_room_session_reactive_v2.c`, with the
planning of a reaction's command from `gm_room_session_commands.c`.

A reaction fires, runs the actions of the variant its policy selects, and
finishes; a trigger that was queued meanwhile fires it again from inside the
finish. The C functions call one another in that circle. Here the circle is
cut by a depth: `reactiveContinue (n + 1)` may finish, and a finish may fire
and continue at depth `n`. A finish clears the queued trigger before it fires,
so the circle is entered at most once and depth two loses nothing, which
`reactiveContinue_depth` states.

## Main definitions

* `Env.modelBranch`: The scenario's branch, if it is of the second format.
* `reactiveTurn`: One turn of the action loop.
* `reactiveFire`, `reactiveFinish`: Starting and finishing a reaction.
* `reactiveContinue`: The action loop.
* `applyReactiveWaitTimeout`: What an expired wait of a reaction does.
* `handleResultSuccess`, `handleResultFailure`: What a command result does.
-/

namespace SceneHub

/-- `GM_REACTIVE_V2_MAX_ACTIONS_PER_TICK`. -/
def reactiveMaxActionsPerTick : Nat := 8

/-- A branch of the second format: reactive, with variants or a trigger. -/
def ScenarioBranch.isReactiveV2 (b : ScenarioBranch) : Bool :=
  b.type = .reactive && (b.variantCount ≠ 0 || b.trigger.kind ≠ .none)

def Env.modelBranch (e : Env) : Option ScenarioBranch :=
  (e.scenario.branches[e.setup.branchIndex]?).filter ScenarioBranch.isReactiveV2

def Env.isReactiveV2 (e : Env) : Bool := e.modelBranch.isSome

def actionTimeoutAction : ActionBody → TimeoutAction
  | .waitTime wait => wait.timeoutAction
  | .waitDeviceEvent wait => wait.timeoutAction
  | .waitAnyDeviceEvent wait => wait.timeoutAction
  | .waitAllDeviceEvents wait => wait.timeoutAction
  | .waitFlags wait => wait.timeoutAction
  | _ => .continue

/-- `branch->max_fire_count > 0 && branch->fire_count >= branch->max_fire_count`. -/
def firesExhausted (e : Env) (b : BranchRun) : Bool :=
  0 < e.setup.maxFireCount && e.setup.maxFireCount ≤ b.fireCount

def Ctx.clearTriggerMatches (c : Ctx) : Ctx :=
  { c with branch :=
      { c.branch with
        reactiveTriggerEventMatched := c.branch.reactiveTriggerEventMatched.map fun _ => false } }

/-- `esp_random`. -/
def Lock.random (l : Lock) : UInt32 × Lock :=
  match l.entropy with
  | [] => (0, l)
  | x :: rest => (x, { l with entropy := rest })

def selectVariant (model : ScenarioBranch) (c : Ctx) : Nat × Ctx :=
  let count := model.variantCount
  if count = 0 then (0, c)
  else match model.policyMode with
    | .rotate =>
      let selected := c.branch.policyCursor % count
      (selected, { c with branch := { c.branch with policyCursor := (selected + 1) % count } })
    | .escalate =>
      let selected := if count ≤ c.branch.policyStage then count - 1 else c.branch.policyStage
      let stage := if selected + 1 < count then selected + 1 else selected
      (selected, { c with branch := { c.branch with policyStage := stage } })
    | .random =>
      let (x, lock) := c.lock.random
      (x.toNat % count, { c with lock := lock })
    | .single => (0, c)

/-- `gm_room_session_plan_reactive_action_command_locked`, for the kind of plan
    the action asks for. -/
def planReactiveCommand (e : Env) (kind : PlanKind) (nowMs : UInt32) (c : Ctx) : Ctx :=
  let plan : CommandPlan :=
    { roomId := e.roomId
      branchIndex := e.setup.branchIndex
      kind := kind
      expectedReactiveAction := c.branch.reactiveCurrentAction
      activation := c.lock.activations + 1 }
  { (enterWaitCommandDispatch nowMs c).markChanged e with plan := some plan }

/-- The checks of a command group in a reaction; `none` means it is accepted. -/
def reactiveGroupError (e : Env) (mode : GroupMode) (startIndex count : Nat) :
    Option (EspErr × String) :=
  if mode = .parallel then some (.notSupported, "reactive_group_unsupported")
  else if count = 0 ∨ maxReactiveGroupCommands < count ∨
      e.scenario.reactiveGroupCommands.length < startIndex + count then
    some (.invalidArg, "reactive_device_command_group_failed")
  else none

/-- The loop of `reactive_v2_apply_completion_locked`. -/
def completionLoop (actions : List ActionBody) (c : Ctx) : EspErr × Ctx :=
  match actions with
  | [] => (.ok, c)
  | .setFlag flag :: rest =>
    match c.setFlag flag with
    | (.ok, c) => completionLoop rest c
    | (err, c) => (err, c)
  | .showOperatorMessage message :: rest => completionLoop rest (c.setMessage message)
  | _ :: rest => completionLoop rest c

def applyCompletion (e : Env) (model : ScenarioBranch) (c : Ctx) : EspErr × Ctx :=
  if e.scenario.reactiveActions.length <
      model.onCompleteActionStartIndex + model.onCompleteActionCount then (.invalidArg, c)
  else completionLoop
    ((e.scenario.reactiveActions.drop model.onCompleteActionStartIndex).take
      model.onCompleteActionCount) c

def failReaction (e : Env) (message : String) (c : Ctx) : Ctx :=
  let c := ((c.setBranchState .error).clearActions).branchClearWait
  { c with session := { c.session with scenarioLastError := message } }.markChanged e

def resetReaction (e : Env) (c : Ctx) : Ctx :=
  let c := (c.setBranchState .waiting).clearActions
  let c :=
    { c with branch :=
        { c.branch with
          cooldownUntilMs := 0
          pendingTrigger := false
          policyCursor := 0
          policyStage := 0
          fireCount := 0
          firedOnce := false } }
  (((c.setBranchStep e.setup.stepStartIndex).clearTriggerMatches).branchClearWait).markChanged e

inductive ReactiveTurn where
  /-- The function returns here. -/
  | leave (err : EspErr) (c : Ctx)
  /-- The loop goes on with the next action. -/
  | again (c : Ctx)
  deriving Repr

/-- The advance of a reaction behind a completed wait. -/
def Ctx.actionDone (c : Ctx) : Ctx := ((c.nextAction).setBranchState .running).branchClearWait

/-- Entering a reaction's event wait: `resolveError` if the prepared wait does
    not expand, `enterError` if it is refused. -/
def enterReactiveWait (e : Env) (index : Nat) (resolveError enterError : String)
    (enter : Option (List WaitEventMatch) → Ctx → EspErr × Ctx) (c : Ctx) : ReactiveTurn :=
  match expandPreparedWaitResolution e.prepared
      ((e.prepared.reactiveActionWaits[index]?).getD {}) with
  | none => .leave .invalidArg (c.setError e resolveError)
  | some found =>
    match enter (some found) c with
    | (.ok, c) => .leave .ok c.save
    | (err, c) => .leave err (c.setError e enterError)

/-- One turn of the loop of `gm_room_session_reactive_v2_continue_locked`, on
    the action at `index` of the action table. -/
def reactiveTurn (e : Env) (nowMs : UInt32) (index : Nat) (action : ActionBody) (c : Ctx) :
    ReactiveTurn :=
  match action with
  | .deviceCommand _ => .leave .ok (planReactiveCommand e .reactiveAction nowMs c).save
  | .deviceCommandGroup mode startIndex count =>
    match reactiveGroupError e mode startIndex count with
    | some (err, message) => .leave err (c.setError e message)
    | none => .leave .ok (planReactiveCommand e .reactiveActionGroup nowMs c).save
  | .waitTime wait =>
    -- Only the branch's own fields are written; the scratch fields keep theirs.
    let c := c.setBranchState .waiting
    let c :=
      { c with branch :=
          { c.branch with progress :=
            { c.branch.progress with wait :=
              { c.branch.progress.wait with
                waitType := .time
                waitStartedAtMs := nowMs
                waitUntilMs := nowMs + wait.durationMs } } } }
    .leave .ok (c.markChanged e)
  | .waitDeviceEvent wait =>
    enterReactiveWait e index "reactive_wait_device_event_resolve_failed"
      "reactive_wait_device_event_failed" (fun r c => enterWaitDeviceEvent e wait r nowMs c) c
  | .waitAnyDeviceEvent wait =>
    enterReactiveWait e index "reactive_wait_any_device_event_resolve_failed"
      "reactive_wait_any_device_event_failed" (fun r c => enterWaitAnyDeviceEvent e wait r nowMs c) c
  | .waitAllDeviceEvents wait =>
    enterReactiveWait e index "reactive_wait_all_device_events_resolve_failed"
      "reactive_wait_all_device_events_failed" (fun r c => enterWaitAllDeviceEvents e wait r nowMs c)
      c
  | .waitFlags wait =>
    match enterWaitFlags e wait nowMs c with
    | (.ok, c) =>
      if waitFlagsMet c.session then .again (c.actionDone.markChanged e)
      else .leave .ok c.save
    | (err, c) => .leave err (c.setError e "reactive_wait_flags_failed")
  | .setFlag flag =>
    match c.setFlag flag with
    | (.ok, c) => .again c.nextAction
    | (err, c) => .leave err (c.setError e "reactive_set_flag_failed")
  | .showOperatorMessage message => .again ((c.setMessage message).nextAction)
  | .failReaction => .leave .ok (failReaction e "reactive_failed_by_action" c)
  | .resetReaction => .leave .ok (resetReaction e c)
  | .operatorApproval => .leave .notSupported (c.setError e "reactive_action_unsupported")
  | .endGame => .leave .notSupported (c.setError e "reactive_action_unsupported")

/-- The loop of `gm_room_session_reactive_v2_continue_locked`, given what
    finishing the reaction does. -/
def reactiveLoop (finish : Ctx → EspErr × Ctx) (e : Env) (nowMs : UInt32) : Nat → Ctx → EspErr × Ctx
  | 0, c => (.ok, c.markChanged e)
  | budget + 1, c =>
    if c.branch.reactiveActionCount ≤ c.branch.reactiveCurrentAction then finish c
    else
      let index := c.branch.reactiveActionStartIndex + c.branch.reactiveCurrentAction
      match e.scenario.reactiveActions[index]? with
      | none => (.invalidArg, c.setError e "reactive_action_range_invalid")
      | some action =>
        match reactiveTurn e nowMs index action c with
        | .leave err c => (err, c)
        | .again c => reactiveLoop finish e nowMs budget c

/-- `branch->cooldown_until_ms > 0` and that time is not reached. -/
def cooldownPending (nowMs : UInt32) (b : BranchRun) : Bool :=
  0 < b.cooldownUntilMs && !timeReached nowMs b.cooldownUntilMs

/-- A reaction can start: it is listening, and its cooldown is over. -/
def readyToFire (nowMs : UInt32) (b : BranchRun) : Bool :=
  b.progress.scenarioState = .waiting && b.progress.wait.waitType = .none &&
  !cooldownPending nowMs b

/-- The assignments of `gm_room_session_reactive_v2_fire_locked` that start the
    selected variant. -/
def startVariant (e : Env) (nowMs : UInt32) (variantIndex : Nat) (variant : ReactiveVariant)
    (c : Ctx) : Ctx :=
  let c :=
    { c with branch :=
        { c.branch with
          lastVariantIndex := variantIndex
          reactiveActionStartIndex := variant.actionStartIndex
          reactiveActionCount := variant.actionCount
          reactiveCurrentAction := 0
          pendingTrigger := false
          fireCount := c.branch.fireCount + 1
          firedOnce := true
          cooldownUntilMs :=
            if 0 < e.setup.cooldownMs then nowMs + e.setup.cooldownMs else 0 } }
  ((((c.setBranchState .running).clearTriggerMatches).branchClearWait).markChanged e).record
    (.fired e.setup.branchIndex)

/-- `branch->pending_trigger = true` under the queue-one policy. -/
def queueTrigger (e : Env) (c : Ctx) : Ctx :=
  { c with branch := { c.branch with pendingTrigger := true } }.markChanged e

/-- `gm_room_session_reactive_v2_fire_locked`, given what running the actions does. -/
def fireWith (run : Ctx → EspErr × Ctx) (e : Env) (nowMs : UInt32) (c : Ctx) : EspErr × Ctx :=
  match e.modelBranch with
  | none => (.invalidArg, c)
  | some model =>
    if !e.setup.active ∨ model.variantCount = 0 ∨
        e.scenario.reactiveVariants.length < model.variantStartIndex + model.variantCount then
      (.invalidArg, c)
    else if firesExhausted e c.branch then (.invalidState, c)
    else if !readyToFire nowMs c.branch then
      if c.branch.progress.scenarioState ≠ .cooldown ∧ e.setup.reentryMode = .queueOne then
        (.ok, queueTrigger e c)
      else (.ok, c)
    else
      let (variantIndex, c) := selectVariant model c
      let variant :=
        (e.scenario.reactiveVariants[model.variantStartIndex + variantIndex]?).getD default
      run (startVariant e nowMs variantIndex variant c)

/-- `reactive_v2_finish_locked`, given what firing does. -/
def finishWith (fire : Ctx → EspErr × Ctx) (e : Env) (model : ScenarioBranch) (nowMs : UInt32)
    (c : Ctx) : EspErr × Ctx :=
  match applyCompletion e model c with
  | (.ok, c) =>
    let c := c.clearActions.record (.completed e.setup.branchIndex)
    if firesExhausted e c.branch then
      let c := c.setBranchState .done
      let c := { c with branch := { c.branch with pendingTrigger := false } }
      (.ok, c.branchClearWait.markChanged e)
    else
      let runPending := c.branch.pendingTrigger &&
        (c.branch.cooldownUntilMs = 0 || timeReached nowMs c.branch.cooldownUntilMs)
      let c := { c with branch := { c.branch with pendingTrigger := false } }
      if runPending then
        let c := c.setBranchState .waiting
        let c := { c with branch := { c.branch with cooldownUntilMs := 0 } }
        fire (c.branchClearWait.markChanged e)
      else
        let c :=
          if cooldownPending nowMs c.branch then c.setBranchState .cooldown
          else
            let c := c.setBranchState .waiting
            { c with branch := { c.branch with cooldownUntilMs := 0 } }
        (.ok, (c.clearTriggerMatches.branchClearWait).markChanged e)
  | (err, c) => (err, c.setError e "reactive_on_complete_failed")

/-- `gm_room_session_reactive_v2_continue_locked` with a bound on how often a
    finish may fire the reaction again. -/
def reactiveContinue : Nat → Env → UInt32 → Ctx → EspErr × Ctx
  | 0, _, _, c => (.ok, c)
  | depth + 1, e, nowMs, c =>
    match e.modelBranch with
    | none => (.invalidArg, c)
    | some model =>
      if !e.setup.active then (.invalidArg, c)
      else
        reactiveLoop (finishWith (fireWith (reactiveContinue depth e nowMs) e nowMs) e model nowMs)
          e nowMs reactiveMaxActionsPerTick { c with plan := none }

/-- The depth every caller uses. -/
def reactiveDepth : Nat := 2

/-- `gm_room_session_reactive_v2_continue_locked`. -/
def continueLocked (e : Env) (nowMs : UInt32) (c : Ctx) : EspErr × Ctx :=
  reactiveContinue reactiveDepth e nowMs c

/-- `gm_room_session_reactive_v2_fire_locked`. -/
def fireLocked (e : Env) (nowMs : UInt32) (c : Ctx) : EspErr × Ctx :=
  fireWith (continueLocked e nowMs) e nowMs c

/-- `reactive_v2_finish_locked`. -/
def finishLocked (e : Env) (model : ScenarioBranch) (nowMs : UInt32) (c : Ctx) : EspErr × Ctx :=
  finishWith (fireLocked e nowMs) e model nowMs c

/-- `gm_room_session_reactive_v2_apply_wait_timeout_locked`. -/
def applyReactiveWaitTimeout (e : Env) (action : ActionBody) (nowMs : UInt32) (c : Ctx) :
    EspErr × Ctx :=
  match actionTimeoutAction action with
  | .failReaction => (.ok, failReaction e "reactive_wait_timeout_failed" c)
  | .resetReaction => (.ok, resetReaction e c)
  | .continue => continueLocked e nowMs c.actionDone

def applyResultPolicy (e : Env) (model : ScenarioBranch) (action : ResultAction) (nowMs : UInt32)
    (message : String) (c : Ctx) : EspErr × Ctx :=
  match action with
  | .continue => finishLocked e model nowMs c
  | .setFlag =>
    if model.resultFlag = "" then (.ok, failReaction e "reactive_result_flag_empty" c)
    else match c.setFlag ⟨model.resultFlag, true⟩ with
      | (.ok, c) => finishLocked e model nowMs c
      | (_, c) => (.ok, failReaction e "reactive_result_set_flag_failed" c)
  | .failScenario =>
    let c := c.setError e message
    let c := ((c.setBranchState .error).clearActions).branchClearWait
    (.ok, (c.markChanged e).record .failedScenario)
  | .retry => (.ok, failReaction e "reactive_retry_unsupported" c)
  | .failReaction => (.ok, failReaction e message c)

def handleResultFailure (e : Env) (status : String) (nowMs : UInt32) (c : Ctx) : EspErr × Ctx :=
  match e.modelBranch with
  | none => (.invalidArg, c)
  | some model =>
    applyResultPolicy e model
      (if status = "timeout" then model.resultOnTimeout else model.resultOnFail) nowMs
      (if status ≠ "" then status else "reactive_result_failed") c

def handleResultSuccess (e : Env) (nowMs : UInt32) (c : Ctx) : EspErr × Ctx :=
  match e.modelBranch with
  | none => (.invalidArg, c)
  | some model =>
    if model.resultOnDone ≠ .continue then
      applyResultPolicy e model model.resultOnDone nowMs "reactive_result_done" c
    else continueLocked e nowMs c.actionDone

def triggerDuringWait (e : Env) (nowMs : UInt32) (c : Ctx) : EspErr × Ctx :=
  match e.modelBranch with
  | none => (.invalidArg, c)
  | some model =>
    if c.branch.progress.scenarioState ≠ .waiting ∨ c.branch.progress.wait.waitType ≠ .time then
      (.invalidState, c)
    else if model.policyMode = .single then
      if e.setup.reentryMode = .queueOne then (.ok, queueTrigger e c) else (.ok, c)
    else
      let c :=
        if c.branch.reactiveCurrentAction < c.branch.reactiveActionCount then
          { c with branch :=
              { c.branch with reactiveCurrentAction := c.branch.reactiveActionCount } }
        else c
      fireLocked e nowMs (((c.setBranchState .waiting).branchClearWait).markChanged e)

/-! ### The depth -/

theorem reactiveTurn_pending (e : Env) (nowMs : UInt32) (index : Nat) (action : ActionBody)
    (c c' : Ctx) (h : reactiveTurn e nowMs index action c = .again c') :
    c'.branch.pendingTrigger = c.branch.pendingTrigger := by
  unfold reactiveTurn at h
  cases action with
  | deviceCommandGroup mode startIndex count =>
    simp only at h
    split at h
    · cases h
    · cases h
  | waitDeviceEvent wait | waitAnyDeviceEvent wait | waitAllDeviceEvents wait =>
    simp only [enterReactiveWait] at h
    split at h
    · cases h
    split at h
    · cases h
    · cases h
  | waitFlags wait =>
    unfold enterWaitFlags at h
    simp only at h
    split at h
    · next c₁ hok =>
        split at hok
        · cases hok
        cases hok
        split at h
        · cases h
          rfl
        · cases h
    · cases h
  | setFlag flag =>
    simp only at h
    split at h
    · next c₁ hok =>
        cases h
        have hbranch : (c.setFlag flag).2.branch = c.branch := rfl
        rw [hok] at hbranch
        have hpending : c₁.branch.pendingTrigger = c.branch.pendingTrigger :=
          congrArg BranchRun.pendingTrigger hbranch
        exact hpending
    · cases h
  | showOperatorMessage message =>
    cases h
    rfl
  | _ => cases h

end SceneHub
