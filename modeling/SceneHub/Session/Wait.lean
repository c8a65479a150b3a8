import SceneHub.Session.Core

/-!
# Entering Waits

The functions of `gm_room_session_runtime_wait.c` that put the session's
scratch fields into a wait, and the timeout of a normal branch's wait from
`gm_room_session.c`.

Each entry first sets the state and clears whatever wait the scratch fields
held, which cancels that wait's command, and then writes the new wait.

## Main definitions

* `Ctx.enterWait`: What all entries do.
* `expandPreparedWaitResolution`: The matches a prepared wait resolves to.
* `applyWaitTimeout`: The timeout of a device-event or flags wait.
-/

namespace SceneHub

/-- Set the state to waiting, clear the old wait, write the new one, note the
    change: the body shared by every wait entry. -/
def Ctx.enterWait (c : Ctx) (e : Env) (wait : Wait) : Ctx :=
  (((c.setState .waiting).clearWait).setWait wait).markChanged e

/-- The expansion loop of `gm_room_session_expand_prepared_wait_resolution`. -/
def expandRefs (refs : List PreparedEventRef) : List Nat → Option (List WaitEventMatch)
  | [] => some []
  | index :: rest =>
    if preparedEventRefMax ≤ index then none
    else match refs[index]? with
      | none => none
      | some ref => (expandRefs refs rest).map (ref.waitMatch :: ·)

/-- `gm_room_session_expand_prepared_wait_resolution`; `none` is
    `ESP_ERR_INVALID_ARG`. -/
def expandPreparedWaitResolution (prepared : PreparedScenario)
    (resolution : PreparedEventResolution) : Option (List WaitEventMatch) :=
  if !resolution.present ∨ resolution.eventRefIndices.length = 0 ∨
      waitEventGroupMaxEvents < resolution.eventRefIndices.length then none
  else expandRefs prepared.eventRefs resolution.eventRefIndices

def enterWaitDeviceEvent (e : Env) (wait : WaitDeviceEvent)
    (resolution : Option (List WaitEventMatch)) (nowMs : UInt32) (c : Ctx) : EspErr × Ctx :=
  match resolution with
  | some [found] =>
    (.ok, c.enterWait e
      { waitType := .deviceEvent
        waitStartedAtMs := nowMs
        waitUntilMs := deadlineOf nowMs wait.timeoutMs
        waitEventType := found.eventType
        waitSourceId := found.sourceId
        waitEvents := [found] })
  | _ => (.invalidArg, c)

/-- The checks and the wait shared by `scenario_enter_wait_any_device_event_locked`
    and `scenario_enter_wait_all_device_events_locked`. -/
def enterWaitGroup (waitType : WaitType) (matched : List WaitEventMatch → List Bool) (e : Env)
    (wait : WaitGroupEvents) (resolution : Option (List WaitEventMatch)) (nowMs : UInt32)
    (c : Ctx) : EspErr × Ctx :=
  match resolution with
  | some found =>
    if found.length ≠ wait.eventCount ∨ wait.eventCount = 0 ∨
        waitEventGroupMaxEvents < wait.eventCount then (.invalidArg, c)
    else
      (.ok, c.enterWait e
        { waitType := waitType
          waitStartedAtMs := nowMs
          waitUntilMs := deadlineOf nowMs wait.timeoutMs
          waitEventType := found.headD default |>.eventType
          waitSourceId := found.headD default |>.sourceId
          waitEvents := found
          waitEventMatched := matched found })
  | none => (.invalidArg, c)

def enterWaitAnyDeviceEvent : Env → WaitGroupEvents → Option (List WaitEventMatch) → UInt32 →
    Ctx → EspErr × Ctx :=
  enterWaitGroup .anyDeviceEvent fun _ => []

def enterWaitAllDeviceEvents : Env → WaitGroupEvents → Option (List WaitEventMatch) → UInt32 →
    Ctx → EspErr × Ctx :=
  enterWaitGroup .allDeviceEvents fun found => found.map fun _ => false

def enterWaitFlags (e : Env) (wait : WaitFlags) (nowMs : UInt32) (c : Ctx) : EspErr × Ctx :=
  if wait.flags.length = 0 ∨ waitFlagsMaxFlags < wait.flags.length then (.invalidArg, c)
  else
    (.ok, c.enterWait e
      { waitType := .flags
        waitStartedAtMs := nowMs
        waitUntilMs := deadlineOf nowMs wait.timeoutMs
        waitFlags := wait.flags })

structure DispatchResult where
  resultRequired : Bool := false
  timeoutMs : UInt32 := 0
  requestId : String := ""
  sourceId : String := ""
  deriving DecidableEq, Repr

def enterWaitCommandResult (e : Env) (dispatch : DispatchResult) (nowMs : UInt32) (c : Ctx) : Ctx :=
  if !dispatch.resultRequired then c
  else c.enterWait e
    { waitType := .deviceCommandResult
      waitStartedAtMs := nowMs
      waitUntilMs := nowMs +
        (if dispatch.timeoutMs ≠ 0 then dispatch.timeoutMs else commandTimeoutDefaultMs)
      waitEventType := dispatch.requestId
      waitSourceId := dispatch.sourceId
      waitEvents := [{ eventType := dispatch.requestId, sourceId := dispatch.sourceId }] }

/-- `scenario_enter_wait_command_dispatch_locked`. The wait takes the next
    activation number. -/
def enterWaitCommandDispatch (nowMs : UInt32) (c : Ctx) : Ctx :=
  let c := ((c.setState .waiting).clearWait).setWait
    { waitType := .deviceCommandResult
      waitStartedAtMs := nowMs
      waitUntilMs := 0
      waitEventType := dispatchPendingId
      activation := c.lock.activations + 1 }
  { c with lock := { c.lock with activations := c.lock.activations + 1 } }

def Ctx.setWaitSkip (c : Ctx) (step : ScenarioStep) : Ctx :=
  c.setWait
    { c.session.progress.wait with
      waitOperatorSkipAllowed := step.allowOperatorSkip
      waitOperatorSkipLabel :=
        if !step.allowOperatorSkip then ""
        else if step.operatorSkipLabel ≠ "" then step.operatorSkipLabel
        else "Skip wait" }

/-- The step types `scenario_apply_wait_timeout_locked` knows, with their message. -/
def waitTimeoutMessage : StepBody → Option String
  | .waitDeviceEvent wait => some wait.timeoutMessage
  | .waitFlags wait => some wait.timeoutMessage
  | _ => none

/-- `scenario_apply_wait_timeout_locked`; `none` is `false`, nothing done. -/
def applyWaitTimeout (e : Env) (nowMs : UInt32) (c : Ctx) : Option Ctx :=
  if !waitTimeoutReached nowMs c.session.progress.wait.waitUntilMs then none
  else match e.scenario.steps[c.session.progress.currentStepIndex]? with
    | none => none
    | some step =>
      match waitTimeoutMessage step.body with
      | none => none
      | some message =>
        let c := if message ≠ "" then c.setMessage message else c
        some (((c.nextStep.setState .running).clearWait).markChanged e)

end SceneHub
