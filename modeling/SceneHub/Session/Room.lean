import SceneHub.Lib.Sweep
import SceneHub.Session.Summary

/-!
# One Room Session

The functions that work on a whole session: its branch loops, the operator's
actions, and the application of a dispatch result. They come from
`gm_room_session_runtime.c`, `gm_room_session_events.c` and
`gm_room_session_commands.c`.

## Main definitions

* `RoomCtx`: The lock, one session, and the plan handed out.
* `RoomCtx.onBranch`: Running a branch function on one branch.
* `roomTick`, `roomOnEvent`, `roomStart`: The three branch loops.
* `roomAdvance`: The operator's next and approve.
* `roomApplyDispatch`, `roomFailPlan`, `roomNextCommand`: The dispatcher's side.
-/

namespace SceneHub

structure RoomCtx where
  lock : Lock
  session : Session
  plan : Option CommandPlan := none
  deriving DecidableEq, Repr

namespace RoomCtx

def env (r : RoomCtx) (b : Branch) : Env :=
  { roomId := r.session.roomId
    scenario := r.session.runningScenario
    prepared := r.session.prepared
    setup := b.setup }

def ctx (r : RoomCtx) (b : Branch) : Ctx := ⟨r.lock, r.session.run, b.run, r.plan⟩

/-- Write back what a branch function made of the branch at `j`. -/
def put (r : RoomCtx) (j : Nat) (b : Branch) (c : Ctx) : RoomCtx :=
  { lock := c.lock
    session :=
      { r.session with run := c.session, branches := r.session.branches.set j ⟨b.setup, c.branch⟩ }
    plan := c.plan }

/-- Run a branch function on the branch at `j`; without such a branch nothing
    happens and the result is the default given. -/
def onBranch {α : Type} (r : RoomCtx) (j : Nat) (absent : α) (f : Env → Ctx → α × Ctx) :
    α × RoomCtx :=
  match r.session.branches[j]? with
  | none => (absent, r)
  | some b =>
    let out := f (r.env b) (r.ctx b)
    (out.1, r.put j b out.2)

/-- Apply a change of the session's own fields. -/
def mapRun (r : RoomCtx) (f : SessionRun → SessionRun) : RoomCtx :=
  { r with session := { r.session with run := f r.session.run } }

def markChanged (r : RoomCtx) : RoomCtx :=
  { r with
    lock := r.lock.noteChange r.session.roomId r.session.run
    session := { r.session with run := r.session.run.noteChange r.lock } }

def updateSummary (r : RoomCtx) : RoomCtx :=
  r.mapRun (SceneHub.updateSummary r.session.branches)

def executeBranch (r : RoomCtx) (nowMs : UInt32) (budget j : Nat) : EspErr × RoomCtx :=
  let out := r.onBranch j (EspErr.invalidArg, false) fun e c =>
    let out := executeBranchCore e nowMs budget c
    ((out.err, out.atSummary), out.ctx)
  (out.1.1, if out.1.2 then out.2.updateSummary else out.2)

end RoomCtx

open Lib (sweep)

/-! ### The runtime tick -/

/-- The body of the loop of `gm_room_session_runtime_advance_ready_branches_locked`. -/
def tickTurn (nowMs : UInt32) (j : Nat) (r : RoomCtx) : RoomCtx × Bool :=
  let out := r.onBranch j false fun e c =>
    let out := processBranch e nowMs c
    (out.2, out.1)
  (out.2, out.1)

/-- `gm_room_session_runtime_advance_ready_branches_locked`. -/
def roomTick (nowMs : UInt32) (r : RoomCtx) : RoomCtx × Bool :=
  if r.session.branches = [] then (r, false)
  else
    let out := sweep (tickTurn nowMs) (List.range r.session.branches.length) r
    (out.1.updateSummary, out.2)

/-! ### Events -/

/-- The two flags the conflict scan keeps for a branch. -/
structure ReactiveMatch where
  trigger : Bool := false
  wait : Bool := false
  deriving DecidableEq, Repr

def ReactiveMatch.any (m : ReactiveMatch) : Bool := m.trigger || m.wait

/-- The conflict scan on one branch. `branch_wait_matches_message` loads a
    branch it looks at, so the scratch fields change. -/
def reactiveMatch (r : RoomCtx) (message : Event) (b : Branch) : ReactiveMatch :=
  if b.setup.type ≠ .reactive then {}
  else
    { trigger :=
        matchesTrigger (r.env b) r.session.run.scenarioFlags b.run message &&
        b.run.progress.scenarioState = .waiting &&
        (b.run.progress.wait.waitType = .none || b.run.progress.wait.waitType = .time)
      wait := branchWaitMatches b.setup b.run message }

/-- The branches `branch_wait_matches_message` loads in the scan. -/
def scanLoads (b : Branch) : Bool := b.setup.type = .reactive && awaitsEvent b.setup b.run

/-- The scratch fields behind the conflict scan: those of the last branch loaded. -/
def scanScratch (branches : List Branch) (p : Progress) : Progress :=
  branches.foldl (fun p b => if scanLoads b then b.run.progress else p) p

structure EventCtx where
  room : RoomCtx
  matched : Bool
  deriving DecidableEq, Repr

/-- The body of the branch loop of `gm_room_session_scenario_on_event_plan`.
    `found` is the result of the conflict scan, and `conflict` that it counted
    more than one branch. The summary that every way out of the loop recomputes
    is left to `eventLoop`. -/
def eventTurn (message : Event) (nowMs : UInt32) (found : Nat → ReactiveMatch) (conflict : Bool)
    (j : Nat) (s : EventCtx) : EventCtx × Bool :=
  if conflict ∧ (found j).any then (s, false)
  else
    let out := s.room.onBranch j (false, EventExit.next) fun e c =>
      let out := branchOnEvent e message (found j).trigger nowMs c
      ((out.matched, out.after), out.ctx)
    let matched := s.matched || out.1.1
    match out.1.2 with
    | .next => (⟨out.2, matched⟩, false)
    | .checkPlan => (⟨out.2, matched⟩, out.2.plan.isSome)
    | .execute =>
      let r := (out.2.executeBranch nowMs maxStepsPerTick j).2
      (⟨r, matched⟩, r.plan.isSome)

/-- The branch loop over the branches `js`. Both its end and each `goto` out of
    it recompute the summary. -/
def eventLoop (message : Event) (nowMs : UInt32) (found : Nat → ReactiveMatch) (conflict : Bool)
    (js : List Nat) (s : EventCtx) : EventCtx × Bool :=
  let out := sweep (eventTurn message nowMs found conflict) js s
  ({ out.1 with room := out.1.room.updateSummary }, out.2)

/-- The body of the room loop of `gm_room_session_scenario_on_event_plan`, on a
    session with a running scenario. -/
def roomOnEvent (message : Event) (nowMs : UInt32) (s : EventCtx) : EventCtx × Bool :=
  let branches := s.room.session.branches
  if message.isDeviceControlResult then
    match commandResultWaitBranch branches message with
    | none => (s, false)
    | some j => eventLoop message nowMs (fun _ => {}) false [j] s
  else
    let found := fun j => ((branches[j]?).map (reactiveMatch s.room message)).getD {}
    let conflict := 1 < (branches.filter fun b => (reactiveMatch s.room message b).any).length
    let room := s.room.mapRun fun run => { run with progress := scanScratch branches run.progress }
    eventLoop message nowMs found conflict (List.range branches.length)
      ⟨room, s.matched || conflict⟩

/-! ### Starting a scenario -/

/-- The loop over `event_ref_indices` in `scenario_init_branch_runtimes_locked`. -/
def triggerRefs (refs : List PreparedEventRef) : List Nat → Option (List PreparedEventRef)
  | [] => some []
  | index :: rest =>
    if preparedEventRefMax ≤ index then none
    else match refs[index]? with
      | none => none
      | some ref => (triggerRefs refs rest).map (ref :: ·)

/-- Whether a trigger is resolved to event references. -/
def TriggerKind.isDevice : TriggerKind → Bool
  | .deviceEvent | .anyDeviceEvents | .allDeviceEvents => true
  | _ => false

/-- The event references of a branch's trigger; `none` is `ESP_ERR_INVALID_ARG`. -/
def initTrigger (prepared : PreparedScenario) (i : Nat) (src : ScenarioBranch) :
    Option (Bool × List PreparedEventRef) :=
  if src.type = .reactive ∧ src.trigger.kind.isDevice then
    let resolution := (prepared.reactiveTriggers[i]?).getD {}
    if resolution.present ∧ 0 < resolution.eventRefIndices.length ∧
        resolution.eventRefIndices.length ≤ waitEventGroupMaxEvents then
      (triggerRefs prepared.eventRefs resolution.eventRefIndices).map fun refs => (true, refs)
    else none
  else some (false, [])

/-- The body of the branch loop of `scenario_init_branch_runtimes_locked`. -/
def initBranch (prepared : PreparedScenario) (i : Nat) (src : ScenarioBranch) : Option Branch :=
  (initTrigger prepared i src).map fun (resolved, refs) =>
    { setup :=
        { active := src.enabled
          type := src.type
          requiredForCompletion := src.type = .normal && src.requiredForCompletion
          cooldownMs := src.cooldownMs
          maxFireCount :=
            if src.isReactiveV2 then
              if src.policyMode = .single then (if src.runOnce then 1 else 0) else src.maxFireCount
            else if src.runOnce then 1 else src.maxFireCount
          reentryMode := src.reentryMode
          branchIndex := i
          stepStartIndex := src.stepStartIndex
          stepCount := src.stepCount
          reactiveTriggerResolved := resolved
          reactiveTriggerMatches := refs.map PreparedEventRef.waitMatch
          reactiveTriggerAltEventTypes := refs.map PreparedEventRef.alternateEventType }
      run :=
        { progress :=
            { scenarioState :=
                if src.enabled then (if src.isReactiveV2 then .waiting else .running) else .stopped
              currentStepIndex := src.stepStartIndex }
          reactiveTriggerEventMatched := refs.map fun _ => false } }

/-- The branch loop of `scenario_init_branch_runtimes_locked`, from branch `i` on. -/
def initBranchesFrom (prepared : PreparedScenario) : Nat → List ScenarioBranch →
    Option (List Branch)
  | _, [] => some []
  | i, src :: rest =>
    match initBranch prepared i src with
    | none => none
    | some b => (initBranchesFrom prepared (i + 1) rest).map (b :: ·)

/-- `scenario_init_branch_runtimes_locked`. A scenario without branches gets one
    that runs all its steps. -/
def initBranches (scenario : RoomScenario) (prepared : PreparedScenario) : Option (List Branch) :=
  if scenario.branches ≠ [] then initBranchesFrom prepared 0 scenario.branches
  else some
    [{ setup :=
        { requiredForCompletion := true, stepCount := scenario.steps.length }
       run := { progress := { scenarioState := .running }, lastVariantIndex := 0 } }]

/-- Clearing every branch's wait, as `scenario_clear_branch_runtimes_locked` does
    before it zeroes the branches. -/
def Lock.cancelBranches (l : Lock) (branches : List Branch) : Lock :=
  branches.foldl (fun l b => l.cancelWait b.run.progress.wait) l

/-- `scenario_clear_branch_runtimes_locked`. -/
def RoomCtx.clearBranches (r : RoomCtx) : RoomCtx :=
  { r with
    lock := r.lock.cancelBranches r.session.branches
    session := { r.session with branches := [] } }

/-- `scenario_clear_running_snapshot_locked`. -/
def RoomCtx.clearSnapshot (r : RoomCtx) : RoomCtx :=
  { r with session :=
      { r.session with
        runningScenario := {}, runningScenarioValid := false, runningScenarioGeneration := 0
        prepared := {} } }.clearBranches

/-- `gm_room_session_scenario_clear_wait_locked` outside a branch function. -/
def RoomCtx.clearWait (r : RoomCtx) : RoomCtx :=
  { r with
    lock := r.lock.cancelWait r.session.run.progress.wait
    session :=
      { r.session with run :=
        { r.session.run with progress := { r.session.run.progress with wait := {} } } } }

/-- `scenario_set_error_locked` outside a branch function. -/
def RoomCtx.setError (r : RoomCtx) (message : String) : RoomCtx :=
  let r := r.mapRun fun run =>
    { run with progress := { run.progress with scenarioState := .error } }
  (r.clearWait.mapRun fun run => { run with scenarioLastError := message }).markChanged

/-- The body of the loop of `execute_all_running_branches_locked`. The state
    carries the first error code. -/
def startTurn (nowMs : UInt32) (j : Nat) (s : EspErr × RoomCtx) : (EspErr × RoomCtx) × Bool :=
  match s.2.session.branches[j]? with
  | none => (s, false)
  | some b =>
    if !b.setup.active ∨ b.state ≠ .running ∨ (s.2.env b).isReactiveV2 then (s, false)
    else
      let out := s.2.onBranch j EspErr.invalidArg fun e c =>
        let out := executeBranchCore e nowMs maxStepsPerTick c
        (out.err, out.ctx)
      ((if s.1 = .ok then out.1 else s.1, out.2), out.2.plan.isSome)

/-- `execute_all_running_branches_locked`. -/
def executeAllRunning (nowMs : UInt32) (r : RoomCtx) : EspErr × RoomCtx :=
  if r.session.branches = [] then (.invalidArg, r)
  else
    let out := sweep (startTurn nowMs) (List.range r.session.branches.length)
      (.ok, { r with plan := none })
    (out.1.1, out.1.2.updateSummary)

/-- The locked part of `scenario_start_prepared_plan_locked`, for a scenario the
    validator accepted. -/
def roomStart (scenario : RoomScenario) (prepared : PreparedScenario) (generation nowMs : UInt32)
    (r : RoomCtx) : EspErr × RoomCtx :=
  let r := { r with session :=
    { r.session with
      runningScenario := scenario, prepared := prepared, runningScenarioValid := true
      runningScenarioGeneration := generation } }
  let r := r.mapRun fun run =>
    { run with progress := { run.progress with scenarioState := .running, currentStepIndex := 0 } }
  let r := r.clearWait.clearBranches.mapRun fun run =>
    { run with
      scenarioOperatorMessage := "", scenarioFlags := [], scenarioLastError := "", history := [] }
  match initBranches scenario prepared with
  | none =>
    (.invalidArg, r.clearSnapshot.setError "scenario_prepared_event_refs_invalid")
  | some branches =>
    let r := { r with session := { r.session with branches := branches } }
    executeAllRunning nowMs r.markChanged

/-! ### The operator -/

def firstBranchByState (branches : List Branch) (state : ScenarioState)
    (waitType : Option WaitType) : Option Nat :=
  branches.findIdx? fun b =>
    b.setup.active && b.state = state &&
    match waitType with
    | none => true
    | some t => b.run.progress.wait.waitType = t

def branchById (session : Session) (branchId : String) : Option Nat :=
  if branchId = "" then none
  else (List.range session.branches.length).find? fun i =>
    let stored := ((session.runningScenario.branches[i]?).map ScenarioBranch.id).getD ""
    let id := if stored ≠ "" then stored else if i = 0 then "main" else ""
    ((session.branches[i]?).map fun b => b.setup.active).getD false && id ≠ "" && id = branchId

/-- What next and approve do to the branch before it is run. A branch that is
    not waiting stays where it is. -/
def leaveWait (e : Env) (c : Ctx) : Ctx :=
  let c := c.load
  let c :=
    if c.session.progress.scenarioState = .waiting then
      (c.nextStep.setState .running).clearWait
    else c
  c.save.markChanged e

/-- The common end of next and approve on the branch they chose. -/
def roomAdvance (nowMs : UInt32) (j : Nat) (r : RoomCtx) : EspErr × RoomCtx :=
  (r.onBranch j () fun e c => ((), leaveWait e c)).2.executeBranch nowMs maxStepsPerTick j

/-- The branch `gm_room_session_scenario_next_plan` chooses. -/
def nextBranch (session : Session) : Option Nat :=
  (firstBranchByState session.branches .waiting none).or
    (firstBranchByState session.branches .running none)

/-- The branch `gm_room_session_scenario_next_branch_plan` chooses. -/
def nextBranchById (session : Session) (branchId : String) : Option Nat :=
  (branchById session branchId).filter fun j =>
    ((session.branches[j]?).map fun b => b.state = .waiting || b.state = .running).getD false

/-- The branch `gm_room_session_scenario_approve_plan` chooses. -/
def approveBranch (session : Session) : Option Nat :=
  firstBranchByState session.branches .waiting (some .operator)

end SceneHub
