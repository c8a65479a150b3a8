import SceneHub.Session.Dispatch

/-!
# All Rooms

Every operation on the sessions is one transaction: it takes the sessions
lock, changes what it changes, and on release hands over the cancellations
and flag events it deferred. This file has the public operations of
`gm_room_session.h` as such transactions on the table of rooms, and the runs
they make up.

The time a transaction takes as `now` is the 64-bit uptime in milliseconds;
the scenario functions see it cut to 32 bits. The scenario validator is not
part of this file: starting a scenario takes its verdict as an input.

## Main definitions

* `World`: The table of rooms with the lock.
* `Op`: The public operations with their arguments.
* `Out`: What an operation returns and what its release hands over.
* `stepOp`: One transaction.
* `runOps`: A sequence of transactions.
-/

namespace SceneHub

open Lib (sweep)

structure World where
  lock : Lock := {}
  sessions : List Session := []
  deriving DecidableEq, Repr

/-- `gm_room_session_profile_t`. -/
structure GameProfile where
  id : String
  name : String
  roomId : String
  scenarioId : String
  deriving DecidableEq, Repr

inductive Op where
  | start (roomId : String) (durationMs nowMs : Nat)
  | pause (roomId : String) (nowMs : Nat)
  | resume (roomId : String) (nowMs : Nat)
  | finish (roomId : String) (nowMs : Nat)
  | reset (roomId : String) (durationMs nowMs : Nat)
  | addTime (roomId : String) (deltaMs : Int) (nowMs : Nat)
  | setHint (roomId message : String) (nowMs : Nat)
  | clearHint (roomId : String) (nowMs : Nat)
  | selectProfile (roomId : String) (profile : GameProfile) (scenario : RoomScenario)
      (durationMs now : Nat)
  | selectScenario (roomId : String) (scenario : RoomScenario)
  | scenarioStart (roomId : String) (scenario : RoomScenario) (prepared : PreparedScenario)
      (generation : UInt32) (rejected : Option String) (now : Nat)
  | scenarioStop (roomId : String)
  | scenarioReset (roomId : String)
  | next (roomId : String) (now : Nat)
  | nextOnBranch (roomId branchId : String) (now : Nat)
  | approve (roomId : String) (now : Nat)
  | event (message : Event) (now : Nat)
  | tick (now : Nat)
  | planNext (plan : CommandPlan)
  | planApply (plan : CommandPlan) (dispatch : DispatchResult) (hasMore : Bool) (now : Nat)
  | planFail (plan : CommandPlan) (errorCode : String)
  | resetAll
  deriving Repr

/-- What an operation returns, and the side effects its release hands over. -/
structure Out where
  err : EspErr := .ok
  plan : Option CommandPlan := none
  command : Option (DeviceCommand × Bool) := none
  cancels : List String := []
  flagEvents : List Flag := []
  deriving DecidableEq, Repr

/-- `gm_room_session_scenario_now_ms`. -/
def scenarioNow (now : Nat) : UInt32 := UInt32.ofNat now

namespace World

/-- The rooms of a freshly booted hub. -/
def boot (rooms : Nat) (entropy : List UInt32 := []) : World :=
  { lock := { entropy := entropy }, sessions := List.replicate rooms {} }

/-- `find_session_mutable_locked`. -/
def find (w : World) (roomId : String) : Option Nat :=
  if roomId = "" then none
  else w.sessions.findIdx? fun s => s.inUse && s.roomId = roomId

def roomCtx (w : World) (s : Session) : RoomCtx := ⟨w.lock, s, none⟩

/-- Write back what a session function made of the session at `i`. -/
def put (w : World) (i : Nat) (r : RoomCtx) : World :=
  { lock := r.lock, sessions := w.sessions.set i r.session }

/-- Run a session function on the session at `i`. -/
def onSession {α : Type} (w : World) (i : Nat) (absent : α) (f : RoomCtx → α × RoomCtx) :
    (α × Option CommandPlan) × World :=
  match w.sessions[i]? with
  | none => ((absent, none), w)
  | some s =>
    let out := f (w.roomCtx s)
    ((out.1, out.2.plan), w.put i out.2)

/-- Run a session function on the session of a room, if there is one. -/
def onRoom {α : Type} (w : World) (roomId : String) (absent : α) (f : RoomCtx → α × RoomCtx) :
    (α × Option CommandPlan) × World :=
  match w.find roomId with
  | none => ((absent, none), w)
  | some i => w.onSession i absent f

/-- `alloc_session_locked`: the session of a room, made if need be. -/
def alloc (w : World) (roomId : String) : Option (Nat × World) :=
  if roomId = "" then none
  else match w.find roomId with
    | some i => some (i, w)
    | none =>
      match w.sessions.findIdx? fun s => !s.inUse with
      | none => none
      | some i => some (i, w.put i (RoomCtx.markChanged ⟨w.lock, { inUse := true, roomId }, none⟩))

/-- Run a session function on the session of a room, made if need be. -/
def onAlloc (w : World) (roomId : String) (f : RoomCtx → EspErr × RoomCtx) : EspErr × World :=
  match w.alloc roomId with
  | none => (if roomId = "" then .invalidArg else .noMem, w)
  | some (i, w) =>
    let out := w.onSession i .notFound f
    (out.1.1, out.2)

end World

/-! ### The session operations -/

def sessionStart (durationMs nowMs : Nat) (r : RoomCtx) : EspErr × RoomCtx :=
  let r := { r with session := { r.session with startedAtMs := nowMs } }
  let r := (r.mapRun fun run => { run with state := .running, finishedAtMs := 0 }).markChanged
  let r := { r with session := { r.session with hint := {} } }
  (.ok, r.mapRun fun run => { run with timer := .start durationMs nowMs })

/-- `gm_room_session_pause`. The session is paused before the timer is asked. -/
def sessionPause (nowMs : Nat) (r : RoomCtx) : EspErr × RoomCtx :=
  if r.session.run.state ≠ .running then (.invalidState, r)
  else
    let r := r.mapRun fun run => { run with state := .paused }
    match r.session.run.timer.pause nowMs with
    | none => (.invalidState, r)
    | some timer => (.ok, (r.mapRun fun run => { run with timer := timer }).markChanged)

def sessionResume (nowMs : Nat) (r : RoomCtx) : EspErr × RoomCtx :=
  if r.session.run.state ≠ .paused then (.invalidState, r)
  else
    let r := r.mapRun fun run => { run with state := .running }
    match r.session.run.timer.resume nowMs with
    | none => (.invalidState, r)
    | some timer => (.ok, (r.mapRun fun run => { run with timer := timer }).markChanged)

def sessionFinish (nowMs : Nat) (r : RoomCtx) : EspErr × RoomCtx :=
  (.ok, (r.mapRun fun run =>
    { run with
      state := .finished, finishedAtMs := nowMs, timer := run.timer.finish nowMs }).markChanged)

def sessionReset (durationMs nowMs : Nat) (r : RoomCtx) : EspErr × RoomCtx :=
  let r := { r with session := { r.session with startedAtMs := 0, hint := {} } }
  (.ok, (r.mapRun fun run =>
    { run with
      state := .idle, finishedAtMs := 0, timer := .reset durationMs nowMs }).markChanged)

def sessionAddTime (deltaMs : Int) (nowMs : Nat) (r : RoomCtx) : EspErr × RoomCtx :=
  (.ok, (r.mapRun fun run =>
    let timer := run.timer.addTime deltaMs nowMs
    match timer.state with
    | .running => { run with timer := timer, state := .running, finishedAtMs := 0 }
    | .paused => { run with timer := timer, state := .paused, finishedAtMs := 0 }
    | .finished => { run with timer := timer, state := .finished, finishedAtMs := nowMs }
    | .idle => { run with timer := timer, state := .idle, finishedAtMs := 0 }).markChanged)

def sessionSetHint (message : String) (nowMs : Nat) (r : RoomCtx) : EspErr × RoomCtx :=
  let hint := r.session.hint
  let r := { r with session := { r.session with hint :=
    { active := true, sentCount := hint.sentCount + 1, lastChangedMs := nowMs, message } } }
  (.ok, r.markChanged)

def sessionClearHint (nowMs : Nat) (r : RoomCtx) : EspErr × RoomCtx :=
  let r := { r with session := { r.session with hint :=
    { r.session.hint with active := false, lastChangedMs := nowMs, message := "" } } }
  (.ok, r.markChanged)

/-- The scenario fields cleared by a stop, a reset and a selection, which differ
    in the state they leave and in whether they clear the step and the error. -/
def clearScenario (state : ScenarioState) (keepsStep keepsError : Bool) (r : RoomCtx) : RoomCtx :=
  let r := r.mapRun fun run =>
    { run with progress :=
      { run.progress with
        scenarioState := state
        currentStepIndex := if keepsStep then run.progress.currentStepIndex else 0 } }
  (r.clearWait.clearSnapshot.mapRun fun run =>
    { run with
      scenarioOperatorMessage := ""
      scenarioFlags := []
      scenarioLastError := if keepsError then run.scenarioLastError else ""
      history := [] }).markChanged

def scenarioStop (r : RoomCtx) : EspErr × RoomCtx := (.ok, clearScenario .stopped true true r)

def scenarioReset (r : RoomCtx) : EspErr × RoomCtx := (.ok, clearScenario .idle false false r)

/-- `gm_room_session_select_scenario_prepared`, on the session. -/
def selectScenario (scenario : RoomScenario) (r : RoomCtx) : EspErr × RoomCtx :=
  let r := { r with session := { r.session with selected :=
    { scenarioId := scenario.id
      scenarioName := scenario.name
      generation := r.session.selected.generation + 1 } } }
  (.ok, clearScenario .idle false false r)

/-- `gm_room_session_select_profile_prepared`, on the session. -/
def selectProfile (profile : GameProfile) (scenario : RoomScenario) (durationMs now : Nat)
    (r : RoomCtx) : EspErr × RoomCtx :=
  let r := { r with session :=
    { r.session with
      startedAtMs := 0
      selected :=
        { profileId := profile.id
          profileName := profile.name
          profileScenarioId := profile.scenarioId
          profileDurationMs := durationMs
          scenarioId := profile.scenarioId
          scenarioName := scenario.name
          generation := r.session.selected.generation + 1 } } }
  let r := r.mapRun fun run =>
    { run with timer := .reset durationMs now, state := .idle, finishedAtMs := 0 }
  (.ok, clearScenario .idle false false r)

/-- The locked part of `scenario_start_prepared_plan_locked` for a scenario the
    validator rejected, with the text of the report. -/
def rejectScenario (message : String) (r : RoomCtx) : RoomCtx := r.clearSnapshot.setError message

/-- Next and approve on the branch chosen, if one was. -/
def roomAdvanceChosen (choose : Session → Option Nat) (now : Nat) (r : RoomCtx) :
    EspErr × RoomCtx :=
  if !r.session.runningScenarioValid then (.invalidState, r)
  else match choose r.session with
    | none => (.invalidState, r)
    | some j => roomAdvance (scenarioNow now) j r

/-! ### The loops over all rooms -/

/-- The state the event loop carries from room to room. -/
structure WorldEvent where
  world : World
  plan : Option CommandPlan := none
  matched : Bool := false
  deriving DecidableEq, Repr

/-- The body of the room loop of `gm_room_session_scenario_on_event_plan`. -/
def worldEventTurn (message : Event) (now : Nat) (i : Nat) (s : WorldEvent) : WorldEvent × Bool :=
  match s.world.sessions[i]? with
  | none => (s, false)
  | some session =>
    if !session.inUse ∨ !session.runningScenarioValid then (s, false)
    else
      let out := roomOnEvent message (scenarioNow now) ⟨⟨s.world.lock, session, s.plan⟩, s.matched⟩
      (⟨s.world.put i out.1.room, out.1.room.plan, out.1.matched⟩, out.2)

/-- The body of the room loop of `gm_room_session_runtime_process_pending_work_plan`. -/
def worldTickTurn (now : Nat) (i : Nat) (s : WorldEvent) : WorldEvent × Bool :=
  match s.world.sessions[i]? with
  | none => (s, false)
  | some session =>
    if !session.inUse ∨ !session.runningScenarioValid then (s, false)
    else
      let out := roomTick (scenarioNow now) ⟨s.world.lock, session, s.plan⟩
      (⟨s.world.put i out.1, out.1.plan, s.matched⟩, out.2)

/-- `gm_room_session_scenario_on_event_plan`. -/
def scenarioOnEvent (message : Event) (now : Nat) (w : World) : Out × World :=
  let out := (sweep (worldEventTurn message now) (List.range w.sessions.length) { world := w }).1
  ({ err := if out.matched then .ok else .notFound, plan := out.plan }, out.world)

/-- `gm_room_session_runtime_process_pending_work_plan`. -/
def processPendingWork (now : Nat) (w : World) : Out × World :=
  let out := (sweep (worldTickTurn now) (List.range w.sessions.length) { world := w }).1
  ({ plan := out.plan }, out.world)

/-! ### Transactions -/

/-- An operation on the session of a room that must exist. -/
def onRoomOp (w : World) (roomId : String) (f : RoomCtx → EspErr × RoomCtx) : Out × World :=
  let out := w.onRoom roomId .notFound f
  ({ err := out.1.1, plan := out.1.2 }, out.2)

/-- An operation on the session of a room, made if need be. -/
def onAllocOp (w : World) (roomId : String) (f : RoomCtx → EspErr × RoomCtx) : Out × World :=
  let out := w.onAlloc roomId f
  ({ err := out.1 }, out.2)

/-- What an operation does while it holds the lock. -/
def opBody (w : World) : Op → Out × World
  | .start roomId durationMs nowMs => onAllocOp w roomId (sessionStart durationMs nowMs)
  | .pause roomId nowMs => onRoomOp w roomId (sessionPause nowMs)
  | .resume roomId nowMs => onRoomOp w roomId (sessionResume nowMs)
  | .finish roomId nowMs => onRoomOp w roomId (sessionFinish nowMs)
  | .reset roomId durationMs nowMs => onRoomOp w roomId (sessionReset durationMs nowMs)
  | .addTime roomId deltaMs nowMs => onRoomOp w roomId (sessionAddTime deltaMs nowMs)
  | .setHint roomId message nowMs =>
    if message = "" then ({ err := .invalidArg }, w)
    else onAllocOp w roomId (sessionSetHint message nowMs)
  | .clearHint roomId nowMs => onRoomOp w roomId (sessionClearHint nowMs)
  | .selectProfile roomId profile scenario durationMs now =>
    if roomId = "" ∨ durationMs = 0 then ({ err := .invalidArg }, w)
    else if profile.roomId ≠ roomId ∨ scenario.roomId ≠ roomId ∨
        profile.scenarioId ≠ scenario.id then ({ err := .invalidState }, w)
    else onAllocOp w roomId (selectProfile profile scenario durationMs now)
  | .selectScenario roomId scenario =>
    if roomId = "" ∨ scenario.id = "" then ({ err := .invalidArg }, w)
    else if scenario.roomId ≠ roomId then ({ err := .invalidState }, w)
    else onAllocOp w roomId (selectScenario scenario)
  | .scenarioStart roomId scenario prepared generation rejected now =>
    if roomId = "" then ({ err := .invalidArg }, w)
    else match rejected with
    | none => onRoomOp w roomId (roomStart scenario prepared generation (scenarioNow now))
    | some message =>
      let out := w.onRoom roomId () fun r => ((), rejectScenario message r)
      ({ err := .invalidArg }, out.2)
  | .scenarioStop roomId => onRoomOp w roomId scenarioStop
  | .scenarioReset roomId => onRoomOp w roomId scenarioReset
  | .next roomId now => onRoomOp w roomId (roomAdvanceChosen nextBranch now)
  | .nextOnBranch roomId branchId now =>
    onRoomOp w roomId
      (roomAdvanceChosen
        (if branchId = "" then nextBranch else fun s => nextBranchById s branchId) now)
  | .approve roomId now => onRoomOp w roomId (roomAdvanceChosen approveBranch now)
  | .event message now => scenarioOnEvent message now w
  | .tick now => processPendingWork now w
  | .planNext plan =>
    let out := w.onRoom plan.roomId (.error .notFound) (roomNextCommand plan)
    match out.1.1 with
    | .ok command => ({ command := some command, plan := some plan }, out.2)
    | .error err => ({ err := err, plan := some plan }, out.2)
  | .planApply plan dispatch hasMore now =>
    let out := w.onRoom plan.roomId EspErr.ok
      (roomApplyDispatch plan dispatch hasMore (scenarioNow now))
    ({ err := out.1.1, plan := out.1.2 }, out.2)
  | .planFail plan errorCode =>
    let out := w.onRoom plan.roomId () fun r => ((), roomFailPlan plan errorCode r)
    ({}, out.2)
  | .resetAll =>
    ({}, { lock := { w.lock with lastChangedRoomId := "", generation := w.lock.generation + 1 }
           sessions := w.sessions.map fun _ => {} })

/-- One transaction: take the lock, run the operation, and on release hand over
    what was deferred. -/
def stepOp (w : World) (op : Op) : Out × World :=
  let (out, w) := opBody { w with lock := w.lock.acquire } op
  ({ out with cancels := w.lock.cancelRequestIds, flagEvents := w.lock.flagEvents },
   { w with lock := { w.lock with cancelRequestIds := [], flagEvents := [] } })

/-- The state a sequence of transactions leads to. -/
def runOps (w : World) (ops : List Op) : World := ops.foldl (fun w op => (stepOp w op).2) w

end SceneHub
