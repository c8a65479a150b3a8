import SceneHub.EspErr
import SceneHub.Lib.Clock

/-!
# The Fallback Runtime

When a node runs its local rules in place of the hub: `node_fallback_policy.c`
and the task of `node_fallback_runtime.c`.

The task takes notifications and configurations from a queue. In a round it
takes everything that is in the queue, asks the policy, has the rule engine
carry out what the policy wants, and then enters the new state, unless the
engine failed. What it takes, when it asks, and what the engine answers are
inputs of a round.

## Main definitions

* `FallbackStatus`: `node_fallback_runtime_status_t`.
* `policyEvaluate`: The policy.
* `FallbackTurn`, `FallbackStatus.turn`: A round of the task.
* `FallbackRound`, `fallbackRounds`: The rounds of a run.
-/

namespace SceneHub.Node

/-! ### The policy -/

inductive FallbackState where
  | hubPrimary
  | hubOfflinePending
  | fallbackActive
  | hubReturnPending
  deriving DecidableEq, Repr

inductive FallbackReturnPolicy where
  | autoOnStableMqtt
  | manualStayActive
  deriving DecidableEq, Repr

/-- `node_fallback_runtime_config_t`. -/
structure FallbackConfig where
  enabled : Bool := false
  fallbackTimeoutMs : UInt32 := 0
  fallbackReturnDelayMs : UInt32 := 0
  returnPolicy : FallbackReturnPolicy := .autoOnStableMqtt
  deriving DecidableEq, Repr

/-- `node_fallback_runtime_status_t`, as `node_fallback_runtime_init` leaves it. -/
structure FallbackStatus where
  enabled : Bool := false
  wifiReady : Bool := false
  mqttConnected : Bool := false
  fallbackRulesActive : Bool := false
  state : FallbackState := .hubPrimary
  stateSinceMs : UInt32 := 0
  deadlineMs : UInt32 := 0
  fallbackTimeoutMs : UInt32 := 0
  fallbackReturnDelayMs : UInt32 := 0
  returnPolicy : FallbackReturnPolicy := .autoOnStableMqtt
  deriving DecidableEq, Repr

inductive FallbackAction where
  | none
  | enterFallback
  | exitFallback
  deriving DecidableEq, Repr

/-- `node_fallback_policy_transition_t`. -/
structure FallbackTransition where
  action : FallbackAction := .none
  nextState : FallbackState
  nextDeadlineMs : UInt32
  stateChanged : Bool := false
  deriving DecidableEq, Repr

def FallbackStatus.hubAvailable (s : FallbackStatus) : Bool := s.wifiReady && s.mqttConnected

/-- A transition to a state without a deadline, or to one with a deadline. -/
def changeTo (nextState : FallbackState) (nextDeadlineMs : UInt32)
    (action : FallbackAction) : FallbackTransition :=
  { action, nextState, nextDeadlineMs, stateChanged := true }

def policyEvaluate (s : FallbackStatus) (now : UInt32) : FallbackTransition :=
  let stay : FallbackTransition := { nextState := s.state, nextDeadlineMs := s.deadlineMs }
  if !s.enabled then
    let action := if s.fallbackRulesActive then FallbackAction.exitFallback else .none
    if s.state ≠ .hubPrimary then changeTo .hubPrimary 0 action else { stay with action := action }
  else match s.state with
    | .hubPrimary =>
      if !s.hubAvailable ∧ 0 < s.fallbackTimeoutMs then
        changeTo .hubOfflinePending (now + s.fallbackTimeoutMs) .none
      else stay
    | .hubOfflinePending =>
      if s.hubAvailable then changeTo .hubPrimary 0 .none
      else if Lib.reached now s.deadlineMs then changeTo .fallbackActive 0 .enterFallback
      else stay
    | .fallbackActive =>
      if !s.hubAvailable ∨ s.returnPolicy = .manualStayActive then stay
      else if s.fallbackReturnDelayMs = 0 then changeTo .hubPrimary 0 .exitFallback
      else changeTo .hubReturnPending (now + s.fallbackReturnDelayMs) .none
    | .hubReturnPending =>
      if !s.hubAvailable then changeTo .fallbackActive 0 .none
      else if Lib.reached now s.deadlineMs then changeTo .hubPrimary 0 .exitFallback
      else stay

/-! ### The task -/

inductive FallbackRequest where
  | configure (config : FallbackConfig)
  | wifiState (connected : Bool)
  | mqttState (connected : Bool)
  deriving DecidableEq, Repr

/-- `handle_request` of the task. -/
def FallbackStatus.handleRequest (s : FallbackStatus) : FallbackRequest → FallbackStatus
  | .configure config =>
    { s with
      enabled := config.enabled
      fallbackTimeoutMs := config.fallbackTimeoutMs
      fallbackReturnDelayMs := config.fallbackReturnDelayMs
      returnPolicy := config.returnPolicy }
  | .wifiState connected => { s with wifiReady := connected }
  | .mqttState connected => { s with mqttConnected := connected }

/-- `finalize_transition_locked`, at a time of its own. -/
def FallbackStatus.finalizeTransition (s : FallbackStatus) (transition : FallbackTransition)
    (actionErr : EspErr) (later : UInt32) : FallbackStatus :=
  if transition.action ≠ .none ∧ actionErr ≠ .ok then s
  else
    let s := match transition.action with
      | .enterFallback => { s with fallbackRulesActive := true }
      | .exitFallback => { s with fallbackRulesActive := false }
      | .none => s
    if transition.stateChanged then
      { s with
        state := transition.nextState
        stateSinceMs := later
        deadlineMs := transition.nextDeadlineMs }
    else s

/-- A round of the task: what it takes from the queue, the time it asks the policy,
    what the engine answers, and the time it enters the new state. -/
structure FallbackTurn where
  requests : List FallbackRequest := []
  now : Nat
  actionErr : EspErr := .ok
  later : Nat
  deriving DecidableEq, Repr

/-- The status the policy is asked about. -/
def FallbackStatus.drain (s : FallbackStatus) (requests : List FallbackRequest) : FallbackStatus :=
  requests.foldl FallbackStatus.handleRequest s

/-- A round of `fallback_task`. -/
def FallbackStatus.turn (s : FallbackStatus) (turn : FallbackTurn) : FallbackStatus :=
  let s := s.drain turn.requests
  s.finalizeTransition (policyEvaluate s (Lib.stamp turn.now)) turn.actionErr (Lib.stamp turn.later)

/-- What happened in a round: when the policy was asked, about which status, how the
    engine answered, and the status behind it. -/
structure FallbackRound where
  now : Nat
  asked : FallbackStatus
  actionErr : EspErr
  after : FallbackStatus
  deriving DecidableEq, Repr

/-- The rounds of a run. -/
def fallbackRounds (s : FallbackStatus) : List FallbackTurn → List FallbackRound
  | [] => []
  | turn :: turns =>
    { now := turn.now
      asked := s.drain turn.requests
      actionErr := turn.actionErr
      after := s.turn turn } :: fallbackRounds (s.turn turn) turns

end SceneHub.Node
