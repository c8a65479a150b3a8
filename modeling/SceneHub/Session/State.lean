import SceneHub.EspErr
import SceneHub.Event
import SceneHub.Scenario
import SceneHub.Timer

/-!
# Session State

What a room session remembers: `gm_room_session.h`, and the file-scope state
of `gm_room_session.c` that the sessions lock protects.

The session record and the branch record share a block of fields: the scenario
state, the step index and everything about the wait. The code copies that
block back and forth, using the session's copy as a scratch register for
whichever branch it is working on and as the summary the outside reads. Here
the block is one record, `Progress`, held once by the session and once by
each branch.

A branch record also mixes values fixed when the scenario starts with values
that change as it runs. The two are kept apart: `BranchSetup` is written once
by the start, and no function that runs a branch can touch it.

Two things are recorded that the C code does not store, and nothing computed
depends on them: every wait for a dispatch carries the number of the
activation that entered it, and `SessionRun.history` lists the fires,
completions, scenario failures and game endings of the current run.

## Main definitions

* `Wait`, `Progress`: The block shared by session and branch.
* `BranchSetup`, `BranchRun`, `Branch`: A branch runtime.
* `SessionRun`, `Session`: A room session.
* `CommandPlan`: A command handed out for dispatch.
* `Lock`: The file-scope state under the sessions lock.
-/

namespace SceneHub

inductive SessionState where
  | idle
  | running
  | paused
  | finished
  deriving DecidableEq, Repr

inductive ScenarioState where
  | idle
  | running
  | waiting
  | paused
  | done
  | stopped
  | cooldown
  | error
  deriving DecidableEq, Repr

inductive WaitType where
  | none
  | time
  | deviceEvent
  | anyDeviceEvent
  | operator
  | flags
  | allDeviceEvents
  | deviceCommandResult
  deriving DecidableEq, Repr

def scenarioMaxFlags : Nat := 16

def deferredCancelMax : Nat := maxBranches + 1

def preparedEventRefMax : Nat := (48 + 24 + 8) * waitEventGroupMaxEvents

def commandTimeoutDefaultMs : UInt32 := 3000

/-- `GM_ROOM_SESSION_DISPATCH_PENDING_ID`, awaited between planning a command
    and learning the request id it was sent with. -/
def dispatchPendingId : String := "__dispatch_pending__"

/-- The wait fields. The lengths of `waitEvents` and `waitFlags` are the
    counts; `activation` is the number of the entry into a dispatch wait. -/
structure Wait where
  waitType : WaitType := .none
  waitUntilMs : UInt32 := 0
  waitStartedAtMs : UInt32 := 0
  waitEventType : String := ""
  waitSourceId : String := ""
  waitEvents : List WaitEventMatch := []
  waitEventMatched : List Bool := []
  waitFlags : List Flag := []
  waitOperatorPrompt : String := ""
  waitOperatorLabel : String := ""
  waitOperatorSkipAllowed : Bool := false
  waitOperatorSkipLabel : String := ""
  activation : Nat := 0
  deriving DecidableEq, Repr

structure Progress where
  scenarioState : ScenarioState := .idle
  currentStepIndex : Nat := 0
  wait : Wait := {}
  deriving DecidableEq, Repr

/-- The part of a branch runtime that starting the scenario fixes. The length
    of `reactiveTriggerMatches` is the trigger event count. -/
structure BranchSetup where
  active : Bool := true
  type : BranchType := .normal
  requiredForCompletion : Bool := false
  cooldownMs : UInt32 := 0
  maxFireCount : UInt32 := 0
  reentryMode : ReentryMode := .ignore
  branchIndex : Nat := 0
  stepStartIndex : Nat := 0
  stepCount : Nat := 0
  reactiveTriggerResolved : Bool := false
  reactiveTriggerMatches : List WaitEventMatch := []
  reactiveTriggerAltEventTypes : List String := []
  deriving DecidableEq, Repr

/-- The part of a branch runtime that running the branch changes. -/
structure BranchRun where
  progress : Progress := {}
  cooldownUntilMs : UInt32 := 0
  fireCount : UInt32 := 0
  firedOnce : Bool := false
  pendingTrigger : Bool := false
  policyCursor : Nat := 0
  policyStage : Nat := 0
  lastVariantIndex : Nat := 255
  reactiveActionStartIndex : Nat := 0
  reactiveActionCount : Nat := 0
  reactiveCurrentAction : Nat := 0
  reactiveTriggerEventMatched : List Bool := []
  deriving DecidableEq, Repr

structure Branch where
  setup : BranchSetup
  run : BranchRun
  deriving DecidableEq, Repr

/-- What happened in the current scenario run, newest first. -/
inductive HistoryEvent where
  | fired (branchIndex : Nat)
  | completed (branchIndex : Nat)
  | failedScenario
  | endedGame
  deriving DecidableEq, Repr

/-- The fields of a session that running a branch can change. -/
structure SessionRun where
  state : SessionState := .idle
  generation : UInt32 := 0
  lastChangeLockEpoch : UInt32 := 0
  finishedAtMs : Nat := 0
  timer : GmTimer := {}
  progress : Progress := {}
  scenarioOperatorMessage : String := ""
  scenarioFlags : List Flag := []
  scenarioLastError : String := ""
  history : List HistoryEvent := []
  deriving DecidableEq, Repr

structure PreparedEventRef where
  waitMatch : WaitEventMatch := {}
  alternateEventType : String := ""
  deriving DecidableEq, Repr, Inhabited

/-- The list's length is `match_count`. -/
structure PreparedEventResolution where
  present : Bool := false
  eventRefIndices : List Nat := []
  deriving DecidableEq, Repr, Inhabited

/-- `gm_room_session_prepared_scenario_t`. An index past the end of one of the
    resolution lists reads the zeroed entry of the C array. -/
structure PreparedScenario where
  eventRefs : List PreparedEventRef := []
  stepWaits : List PreparedEventResolution := []
  reactiveActionWaits : List PreparedEventResolution := []
  reactiveTriggers : List PreparedEventResolution := []
  deriving DecidableEq, Repr

structure SelectedScenario where
  profileId : String := ""
  profileName : String := ""
  profileScenarioId : String := ""
  profileDurationMs : Nat := 0
  scenarioId : String := ""
  scenarioName : String := ""
  generation : UInt32 := 0
  deriving DecidableEq, Repr

/-- `gm_hint_state_t`. -/
structure GmHint where
  active : Bool := false
  sentCount : UInt32 := 0
  lastChangedMs : Nat := 0
  message : String := ""
  deriving DecidableEq, Repr

structure Session where
  inUse : Bool := false
  roomId : String := ""
  startedAtMs : Nat := 0
  selected : SelectedScenario := {}
  runningScenario : RoomScenario := {}
  runningScenarioValid : Bool := false
  runningScenarioGeneration : UInt32 := 0
  prepared : PreparedScenario := {}
  branches : List Branch := []
  run : SessionRun := {}
  hint : GmHint := {}
  deriving DecidableEq, Repr

inductive PlanKind where
  | scenarioStep
  | scenarioStepGroup
  | reactiveAction
  | reactiveActionGroup
  deriving DecidableEq, Repr

/-- `gm_room_session_command_plan_t` with a kind other than `NONE`; an absent
    plan is `none`. -/
structure CommandPlan where
  roomId : String
  branchIndex : Nat
  kind : PlanKind
  expectedStepIndex : Nat := 0
  expectedReactiveAction : Nat := 0
  commandIndex : Nat := 0
  activation : Nat := 0
  deriving DecidableEq, Repr

/-- The file-scope state under the sessions lock. `entropy` is what
    `esp_random` will return; `activations` numbers the dispatch waits. -/
structure Lock where
  generation : UInt32 := 0
  lockEpoch : UInt32 := 0
  lastChangedRoomId : String := ""
  cancelRequestIds : List String := []
  flagEvents : List Flag := []
  entropy : List UInt32 := []
  activations : Nat := 0
  deriving DecidableEq, Repr

end SceneHub
