import SceneHub.Session.State

/-!
# Session Primitives

The small operations every session function is made of, from
`gm_room_session.c` and `gm_room_session_runtime_wait.c`: noting a change,
deferring a cancellation, clearing a wait, moving the shared fields between
the session and a branch, flags, and errors.

A function that works on one branch of a session reads an `Env`, what does not
change while it runs, and rewrites a `Ctx`, what does: the lock state, the
session's running fields, the branch, and the plan handed out.

## Main definitions

* `Env`, `Ctx`: What a branch function reads and what it rewrites.
* `Ctx.clearWait`, `Ctx.branchClearWait`: Clearing a wait, which defers the
  cancellation of an awaited command.
* `Ctx.load`, `Ctx.save`: Copying the shared fields.
* `setFlag`: Setting a flag and deferring its event.
* `Ctx.setError`: Failing the scenario.
* `timeReached`: The wrapping comparison of millisecond times.
-/

namespace SceneHub

structure Env where
  roomId : String
  scenario : RoomScenario
  prepared : PreparedScenario
  setup : BranchSetup
  deriving Repr

structure Ctx where
  lock : Lock
  session : SessionRun
  branch : BranchRun
  plan : Option CommandPlan := none
  deriving DecidableEq, Repr

/-! ### The sessions lock -/

/-- `gm_room_session_sessions_lock`: a new epoch, never zero. -/
def Lock.acquire (l : Lock) : Lock :=
  { l with lockEpoch := if l.lockEpoch + 1 = 0 then 1 else l.lockEpoch + 1 }

/-- The lock's side of `gm_room_session_mark_session_changed_locked`. -/
def Lock.noteChange (l : Lock) (roomId : String) (s : SessionRun) : Lock :=
  { l with
    generation :=
      if s.lastChangeLockEpoch ≠ l.lockEpoch then l.generation + 1 else l.generation
    lastChangedRoomId := roomId }

/-- The session's side of `gm_room_session_mark_session_changed_locked`. -/
def SessionRun.noteChange (s : SessionRun) (l : Lock) : SessionRun :=
  { s with
    generation :=
      if s.lastChangeLockEpoch ≠ l.lockEpoch then l.generation + 1 else s.generation
    lastChangeLockEpoch := l.lockEpoch }

/-- `gm_room_session_defer_cancel_request_locked`. A full table drops the request. -/
def Lock.deferCancel (l : Lock) (requestId : String) : Lock :=
  { l with
    cancelRequestIds :=
      if requestId = "" ∨ requestId ∈ l.cancelRequestIds ∨
          deferredCancelMax ≤ l.cancelRequestIds.length then l.cancelRequestIds
      else l.cancelRequestIds ++ [requestId] }

/-- What clearing a wait does to the lock: an awaited command is cancelled. -/
def Lock.cancelWait (l : Lock) (w : Wait) : Lock :=
  if w.waitType = .deviceCommandResult then l.deferCancel w.waitEventType else l

/-! ### Noting changes -/

def Ctx.markChanged (c : Ctx) (e : Env) : Ctx :=
  { c with lock := c.lock.noteChange e.roomId c.session, session := c.session.noteChange c.lock }

/-! ### The shared fields -/

/-- `gm_room_session_scenario_branch_load_into_session`. -/
def Ctx.load (c : Ctx) : Ctx :=
  { c with session := { c.session with progress := c.branch.progress } }

/-- `gm_room_session_scenario_branch_save_from_session`. -/
def Ctx.save (c : Ctx) : Ctx :=
  { c with branch := { c.branch with progress := c.session.progress } }

def Ctx.clearWait (c : Ctx) : Ctx :=
  { c with
    lock := c.lock.cancelWait c.session.progress.wait
    session := { c.session with progress := { c.session.progress with wait := {} } } }

/-- `scenario_branch_clear_wait_fields`, and `scenario_branch_clear_wait`, which
    is the same function under another name. -/
def Ctx.branchClearWait (c : Ctx) : Ctx :=
  { c with
    lock := c.lock.cancelWait c.branch.progress.wait
    branch := { c.branch with progress := { c.branch.progress with wait := {} } } }

/-- Assigning `session->scenario_state`. -/
def Ctx.setState (c : Ctx) (state : ScenarioState) : Ctx :=
  { c with session :=
      { c.session with progress := { c.session.progress with scenarioState := state } } }

def Ctx.setBranchState (c : Ctx) (state : ScenarioState) : Ctx :=
  { c with branch :=
      { c.branch with progress := { c.branch.progress with scenarioState := state } } }

/-- `session->current_step_index++`. -/
def Ctx.nextStep (c : Ctx) : Ctx :=
  { c with session :=
      { c.session with progress :=
        { c.session.progress with currentStepIndex := c.session.progress.currentStepIndex + 1 } } }

/-- Assigning `branch->current_step_index`. -/
def Ctx.setBranchStep (c : Ctx) (index : Nat) : Ctx :=
  { c with branch :=
      { c.branch with progress := { c.branch.progress with currentStepIndex := index } } }

/-- Assigning the session's wait fields after they were cleared. -/
def Ctx.setWait (c : Ctx) (wait : Wait) : Ctx :=
  { c with session := { c.session with progress := { c.session.progress with wait := wait } } }

/-- Assigning `session->scenario_operator_message`. -/
def Ctx.setMessage (c : Ctx) (message : String) : Ctx :=
  { c with session := { c.session with scenarioOperatorMessage := message } }

/-- `branch->reactive_current_action++`. -/
def Ctx.nextAction (c : Ctx) : Ctx :=
  { c with branch :=
      { c.branch with reactiveCurrentAction := c.branch.reactiveCurrentAction + 1 } }

/-- The three action counters of a reaction, set back to zero together. -/
def Ctx.clearActions (c : Ctx) : Ctx :=
  { c with branch :=
      { c.branch with
        reactiveActionStartIndex := 0, reactiveActionCount := 0, reactiveCurrentAction := 0 } }

def Ctx.record (c : Ctx) (event : HistoryEvent) : Ctx :=
  { c with session := { c.session with history := event :: c.session.history } }

/-! ### Errors -/

def Ctx.setError (c : Ctx) (e : Env) (message : String) : Ctx :=
  let c := (c.setState .error).clearWait
  { c with session := { c.session with scenarioLastError := message } }.markChanged e

/-! ### Flags -/

/-- The first flag of that name is overwritten; `none` if there is none. -/
def overwriteFlag (name : String) (value : Bool) : List Flag → Option (List Flag)
  | [] => none
  | f :: fs =>
    if f.name = name then some ({ f with value := value } :: fs)
    else (overwriteFlag name value fs).map (f :: ·)

/-- `scenario_get_flag_locked` and `reactive_v2_get_flag`. -/
def getFlag (flags : List Flag) (name : String) : Option Bool :=
  if name = "" then none
  else (flags.find? fun f => f.name = name).map Flag.value

/-- The tail of `scenario_set_flag_locked` behind `post_changed`. -/
def Lock.deferFlagEvent (l : Lock) (name : String) (value : Bool) : EspErr × Lock :=
  match overwriteFlag name value l.flagEvents with
  | some events => (.ok, { l with flagEvents := events })
  | none =>
    if scenarioMaxFlags ≤ l.flagEvents.length then (.noMem, l)
    else (.ok, { l with flagEvents := l.flagEvents ++ [⟨name, value⟩] })

def setFlag (l : Lock) (flags : List Flag) (name : String) (value : Bool) :
    EspErr × Lock × List Flag :=
  if name = "" then (.invalidArg, l, flags)
  else match flags.find? fun f => f.name = name with
    | some f =>
      if f.value = value then (.ok, l, flags)
      else
        let flags := (overwriteFlag name value flags).getD flags
        let (err, l) := l.deferFlagEvent name value
        (err, l, flags)
    | none =>
      if scenarioMaxFlags ≤ flags.length then (.noMem, l, flags)
      else
        let (err, l) := l.deferFlagEvent name value
        (err, l, flags ++ [⟨name, value⟩])

/-- `scenario_set_flag_locked` on the session of a branch. -/
def Ctx.setFlag (c : Ctx) (flag : Flag) : EspErr × Ctx :=
  let (err, lock, flags) :=
    SceneHub.setFlag c.lock c.session.scenarioFlags flag.name flag.value
  (err, { c with lock := lock, session := { c.session with scenarioFlags := flags } })

/-- Every condition names a flag that is set to the wanted value. -/
def flagsMatch (flags conditions : List Flag) : Bool :=
  conditions.all fun cond => getFlag flags cond.name = some cond.value

def waitFlagsMet (s : SessionRun) : Bool :=
  s.progress.wait.waitFlags ≠ [] && flagsMatch s.scenarioFlags s.progress.wait.waitFlags

/-! ### Times -/

/-- `scenario_time_reached`: `(int32_t)(now_ms - target_ms) >= 0`. -/
def timeReached (nowMs targetMs : UInt32) : Bool := (nowMs - targetMs).toNat < 2147483648

def waitTimeoutReached (nowMs waitUntilMs : UInt32) : Bool :=
  0 < waitUntilMs && timeReached nowMs waitUntilMs

/-- A deadline `timeout_ms` from now, where zero means no timeout. -/
def deadlineOf (nowMs timeoutMs : UInt32) : UInt32 :=
  if 0 < timeoutMs then nowMs + timeoutMs else 0

def branchEndIndex (e : Env) : Nat :=
  min (e.setup.stepStartIndex + e.setup.stepCount) e.scenario.steps.length

end SceneHub
