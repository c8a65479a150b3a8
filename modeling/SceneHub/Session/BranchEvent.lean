import SceneHub.Session.BranchTick

/-!
# Events on a Branch

What one event means to one branch: the matching of
`gm_room_session_events.c` and of the triggers in
`gm_room_session_reactive_v2.c`, and the body of the branch loop of
`gm_room_session_scenario_on_event_plan`.

The body of that loop ends in one of three ways: it goes on with the next
branch, it leaves the whole function if a plan was made, or it first runs the
branch and recomputes the summary and then leaves if a plan was made. The last
two need the other branches of the session, so the body reports which of the
three it is.

## Main definitions

* `matchesTrigger`, `consumeTrigger`: Whether an event triggers a reaction,
  without and with recording a partial match.
* `waitEventMatchIndex`: Which part of the scratch wait an event satisfies.
* `branchOnEvent`: The body of the branch loop.
-/

namespace SceneHub

/-! ### Triggers -/

def deviceEventMatchSingle (expected : WaitEventMatch) (alternateEventType : String)
    (message : Event) : Bool :=
  waitEventMatchesMessage expected message ||
  (alternateEventType ≠ "" &&
    waitEventMatchesMessage { expected with eventType := alternateEventType } message)

/-- `reactive_v2_device_trigger_has_match`: the index of the first match. -/
def deviceTriggerMatch (setup : BranchSetup) (message : Event) : Option Nat :=
  if !setup.reactiveTriggerResolved then none
  else (List.range setup.reactiveTriggerMatches.length).find? fun i =>
    deviceEventMatchSingle ((setup.reactiveTriggerMatches[i]?).getD default)
      ((setup.reactiveTriggerAltEventTypes[i]?).getD "") message

def allTriggerEventsMatched (setup : BranchSetup) (matched : List Bool) : Bool :=
  setup.reactiveTriggerMatches.length ≠ 0 &&
  (List.range setup.reactiveTriggerMatches.length).all fun i => (matched[i]?).getD false

def allTriggerEventsMatchedAfter (setup : BranchSetup) (matched : List Bool) (index : Nat) : Bool :=
  index < setup.reactiveTriggerMatches.length &&
  (List.range setup.reactiveTriggerMatches.length).all fun i =>
    i = index || (matched[i]?).getD false

/-- The checks at the head of `reactive_v2_trigger_event_matches_locked`, up to
    the switch over the trigger kind. -/
def triggerAllowed (e : Env) (flags : List Flag) (b : BranchRun) (message : Event) :
    Option ScenarioBranch :=
  match e.modelBranch with
  | none => none
  | some model =>
    if !e.setup.active ∨ firesExhausted e b ∨ !flagsMatch flags model.guardFlags then none
    else if message.isDeviceControlResult then none
    else some model

/-- The trigger kinds whose test neither reads nor writes partial matches. -/
def simpleTriggerMatches (e : Env) (model : ScenarioBranch) (message : Event) : Bool :=
  match model.trigger.kind with
  | .deviceEvent | .anyDeviceEvents => (deviceTriggerMatch e.setup message).isSome
  | .flagChanged =>
    message.type = .flagChanged && reactiveEventIdMatches model.trigger.flagName message
  | .operatorEvent =>
    message.type = .webCommand && reactiveEventIdMatches model.trigger.operatorEvent message
  | .runtimeEvent =>
    message.type = .runtimeControl && reactiveEventIdMatches model.trigger.runtimeEvent message
  | .allDeviceEvents | .none => false

/-- `gm_room_session_reactive_v2_matches_event`. -/
def matchesTrigger (e : Env) (flags : List Flag) (b : BranchRun) (message : Event) : Bool :=
  match triggerAllowed e flags b message with
  | none => false
  | some model =>
    if model.trigger.kind = .allDeviceEvents then
      match deviceTriggerMatch e.setup message with
      | none => false
      | some index => allTriggerEventsMatchedAfter e.setup b.reactiveTriggerEventMatched index
    else simpleTriggerMatches e model message

/-- `gm_room_session_reactive_v2_consume_trigger_event_locked`. -/
def consumeTrigger (e : Env) (message : Event) (c : Ctx) : Bool × Ctx :=
  match triggerAllowed e c.session.scenarioFlags c.branch message with
  | none => (false, c)
  | some model =>
    if model.trigger.kind = .allDeviceEvents then
      match deviceTriggerMatch e.setup message with
      | none => (false, c)
      | some index =>
        let matched := c.branch.reactiveTriggerEventMatched.set index true
        let c :=
          { c with branch := { c.branch with reactiveTriggerEventMatched := matched } }.markChanged e
        if allTriggerEventsMatched e.setup c.branch.reactiveTriggerEventMatched then
          (true, c.clearTriggerMatches)
        else (false, c)
    else (simpleTriggerMatches e model message, c)

/-! ### Waits -/

/-- `wait_event_match_index`; `none` is a negative index. -/
def waitEventMatchIndex (w : Wait) (message : Event) : Option Nat :=
  if w.waitEvents ≠ [] then w.waitEvents.findIdx? fun m => waitEventMatchesMessage m message
  else if waitEventTypeMatches w.waitEventType message &&
      matchField w.waitSourceId message.sourceId then some 0
  else none

/-- The wait types an event can end. -/
def WaitType.isEventWait (t : WaitType) : Bool :=
  t = .deviceEvent || t = .anyDeviceEvent || t = .allDeviceEvents || t = .deviceCommandResult

/-- The condition under which `branch_wait_matches_message` and the branch loop
    look at the branch's wait at all. -/
def awaitsEvent (setup : BranchSetup) (b : BranchRun) : Bool :=
  setup.active && b.progress.scenarioState = .waiting && b.progress.wait.waitType.isEventWait

/-- The result of `branch_wait_matches_message`, which also loads the branch. -/
def branchWaitMatches (setup : BranchSetup) (b : BranchRun) (message : Event) : Bool :=
  awaitsEvent setup b && (waitEventMatchIndex b.progress.wait message).isSome

def commandResultWaitBranch (branches : List Branch) (message : Event) : Option Nat :=
  if !message.isDeviceControlResult ∨ message.actionId = "" then none
  else branches.findIdx? fun b =>
    b.setup.active && b.run.progress.scenarioState = .waiting &&
    b.run.progress.wait.waitType = .deviceCommandResult &&
    b.run.progress.wait.waitEventType = message.actionId &&
    matchField b.run.progress.wait.waitSourceId message.sourceId

/-- Marking the parts of an all-events wait that the message satisfies. -/
def markMatched (message : Event) : List WaitEventMatch → List Bool → List Bool
  | m :: ms, b :: bs => (waitEventMatchesMessage m message || b) :: markMatched message ms bs
  | _, bs => bs

def waitAllDeviceEventsMet (w : Wait) : Bool :=
  w.waitEvents ≠ [] &&
  (List.range w.waitEvents.length).all fun i => (w.waitEventMatched[i]?).getD false

/-! ### The body of the branch loop -/

/-- How the body ends. -/
inductive EventExit where
  /-- `continue`. -/
  | next
  /-- Leave the function if a plan is present. -/
  | checkPlan
  /-- Run the branch, recompute the summary, leave if a plan is present. -/
  | execute
  deriving DecidableEq, Repr

structure BranchEvent where
  ctx : Ctx
  matched : Bool
  after : EventExit
  deriving Repr

/-- A triggered reaction. -/
def branchOnTrigger (e : Env) (message : Event) (nowMs : UInt32) (c : Ctx) : BranchEvent :=
  match consumeTrigger e message c with
  | (false, c) => ⟨c, false, .next⟩
  | (true, c) =>
    let (err, c) :=
      if c.branch.progress.wait.waitType = .time then triggerDuringWait e nowMs c
      else fireLocked e nowMs c
    if err = .ok then ⟨c, true, .checkPlan⟩ else ⟨c, false, .next⟩

/-- The wait is over: the branch moves on and is run. -/
def endEventWait (e : Env) (c : Ctx) : BranchEvent :=
  ⟨((((c.nextStep.setState .running).clearWait).markChanged e).save), true, .execute⟩

/-- The command result a branch waits for has come. -/
def branchOnCommandResult (e : Env) (message : Event) (nowMs : UInt32) (c : Ctx) : BranchEvent :=
  if commandResultIsPending message.payload then ⟨c.save, true, .next⟩
  else if commandResultIsFailure message.payload then
    if e.isReactiveV2 then ⟨(handleResultFailure e message.payload nowMs c).2, true, .checkPlan⟩
    else ⟨(c.setError e "device_command_result_failed").save, true, .next⟩
  else if !commandResultIsSuccess message.payload then ⟨c.save, false, .next⟩
  else if e.isReactiveV2 then ⟨(handleResultSuccess e nowMs c).2, true, .checkPlan⟩
  else endEventWait e c

/-- One of the events an all-events wait needs has come. -/
def branchOnGroupEvent (e : Env) (message : Event) (c : Ctx) : BranchEvent :=
  let w := c.session.progress.wait
  let c := (c.setWait
    { w with waitEventMatched := markMatched message w.waitEvents w.waitEventMatched }).markChanged e
  if waitAllDeviceEventsMet c.session.progress.wait then endEventWait e c
  else ⟨c.save, true, .next⟩

/-- The part of the body that looks at the branch's wait. -/
def branchOnWait (e : Env) (message : Event) (nowMs : UInt32) (c : Ctx) : BranchEvent :=
  if !awaitsEvent e.setup c.branch then ⟨c, false, .next⟩
  else
    let c := c.load
    match waitEventMatchIndex c.session.progress.wait message with
    | none => ⟨c.save, false, .next⟩
    | some _ =>
      if c.session.progress.wait.waitType = .deviceCommandResult then
        branchOnCommandResult e message nowMs c
      else if c.session.progress.wait.waitType = .allDeviceEvents then
        branchOnGroupEvent e message c
      else endEventWait e c

/-- The body of the branch loop of `gm_room_session_scenario_on_event_plan`, on
    a branch the conflict rule does not skip. `triggered` is the branch's entry
    in `reactive_trigger_matches`. -/
def branchOnEvent (e : Env) (message : Event) (triggered : Bool) (nowMs : UInt32) (c : Ctx) :
    BranchEvent :=
  if !message.isDeviceControlResult ∧ triggered ∧ e.setup.type = .reactive then
    branchOnTrigger e message nowMs c
  else if !message.isDeviceControlResult ∧ e.setup.type = .reactive then
    branchOnWait e message nowMs (consumeTrigger e message c).2
  else branchOnWait e message nowMs c

end SceneHub
