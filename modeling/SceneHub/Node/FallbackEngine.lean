import SceneHub.Lib.Runs
import SceneHub.Node.FallbackRuntime

/-!
# The Fallback Runtime and the Rule Engine

How the fallback task switches the local rules: `fallback_task` with
`resume_fallback_rules_unlocked` and `pause_fallback_rules_unlocked` of
`node_fallback_runtime.c`, and the requests of `node_rule_engine.c` that it makes.

The task submits the requests of a transition one after the other, each through the
queue of the engine. A request that finds the queue full, or is not answered in time,
ends the transition without a change of state, and the policy is asked again. The
engine handles the requests in order, those that nobody waits for any more as well.
An administrator pauses and resumes the rules over the same queue.

Local rules are executed while the engine is neither paused nor disabled; what they
are is up to the active bundle. A node starts with its rules enabled only in
standalone mode.

## Main definitions

* `RuleEngine`: The flags of the engine, and its queue.
* `FallbackSystem`: The status, the fallback task and the engine.
* `fallbackSystemStep`: A step of the task, of the engine, or of an administrator.
-/

namespace SceneHub.Node

/-- `node_rule_engine_request_kind_t`. -/
inductive EngineOp where
  | event
  | reset
  | setEnabled (enabled : Bool)
  | pause
  | resume
  deriving DecidableEq, Repr

/-- Who submits requests to the engine. Only the fallback task enables and disables the
    rules. -/
inductive Submitter where
  | fallbackTask
  | others
  deriving DecidableEq, Repr

structure EngineRequest where
  op : EngineOp
  submitter : Submitter
  deriving DecidableEq, Repr

/-- `rules_enabled`, `s_paused` with the submitter of the last pause, and the queue. -/
structure RuleEngine where
  rulesEnabled : Bool
  paused : Option Submitter := none
  queue : List EngineRequest := []
  deriving DecidableEq, Repr

def ruleEngineQueueLen : Nat := 16

/-- Whether `dispatch_event_inline` comes to the rules. -/
def RuleEngine.executes (e : RuleEngine) : Bool := e.paused.isNone && e.rulesEnabled

def RuleEngine.handle (e : RuleEngine) (request : EngineRequest) : RuleEngine :=
  match request.op with
  | .event => e
  | .reset => e
  | .setEnabled enabled => { e with rulesEnabled := enabled }
  | .pause => { e with paused := some request.submitter }
  | .resume => { e with paused := none }

/-- The requests of `perform_transition_action_unlocked`. -/
def engineOps : FallbackAction → List EngineOp
  | .enterFallback => [.setEnabled true, .reset, .resume]
  | .exitFallback => [.pause, .setEnabled false]
  | .none => []

/-- Where the fallback task stands: between two rounds, or in a transition with the
    requests that are still to be made. -/
inductive FallbackTask where
  | idle
  | performing (transition : FallbackTransition) (ops : List EngineOp)
  | waiting (transition : FallbackTransition) (ops : List EngineOp)
  deriving DecidableEq, Repr

structure FallbackSystem where
  status : FallbackStatus := {}
  task : FallbackTask := .idle
  notified : Nat := 0
  engine : RuleEngine
  deriving DecidableEq, Repr

namespace FallbackSystem

/-- A transition ends, with `finalize_transition_locked`. -/
def finish (s : FallbackSystem) (transition : FallbackTransition) (err : EspErr) (later : Nat) :
    FallbackSystem :=
  { s with
    status := s.status.finalizeTransition transition err (Lib.stamp later)
    task := .idle }

/-- The requests of a transition, one after the other, and its end. A wait that finds no
    notification has timed out. -/
def proceed (s : FallbackSystem) (later : Nat) : Option FallbackSystem :=
  match s.task with
  | .idle => none
  | .performing transition [] => some (s.finish transition .ok later)
  | .performing transition (op :: ops) =>
    if s.engine.queue.length < ruleEngineQueueLen then
      some { s with
        task := .waiting transition ops
        engine := { s.engine with queue := s.engine.queue ++ [⟨op, .fallbackTask⟩] } }
    else some (s.finish transition .timeout later)
  | .waiting transition ops =>
    if s.notified = 0 then some (s.finish transition .timeout later)
    else some { s with task := .performing transition ops, notified := 0 }

/-- The engine handles the next request and answers it. -/
def serve (s : FallbackSystem) : Option FallbackSystem :=
  match s.engine.queue with
  | [] => none
  | request :: queue => some { s with
      engine := { s.engine with queue }.handle request
      notified := match request.submitter with
        | .fallbackTask => s.notified + 1
        | .others => s.notified }

end FallbackSystem

/-- A step of the fallback task, which takes its notifications and asks the policy and then
    carries a transition out, of the engine, or of anybody else. -/
inductive FallbackSystemStep where
  | take (requests : List FallbackRequest)
  | evaluate (now : Nat)
  | proceed (later : Nat)
  | serve
  | submit (op : EngineOp)
  deriving DecidableEq, Repr

def fallbackSystemStep (s : FallbackSystem) : FallbackSystemStep → Option FallbackSystem
  | .take requests => match s.task with
    | .idle => some { s with status := s.status.drain requests }
    | _ => none
  | .evaluate now => match s.task with
    | .idle =>
      let transition := policyEvaluate s.status (Lib.stamp now)
      some { s with task := .performing transition (engineOps transition.action) }
    | _ => none
  | .proceed later => s.proceed later
  | .serve => s.serve
  | .submit op => match op with
    | .setEnabled _ => none
    | op =>
      if s.engine.queue.length < ruleEngineQueueLen then
        some { s with engine := { s.engine with queue := s.engine.queue ++ [⟨op, .others⟩] } }
      else some s

/-- A node when its fallback task starts, in standalone mode or not. -/
def FallbackSystem.atStart (standalone : Bool) : FallbackSystem :=
  { engine := { rulesEnabled := standalone } }

end SceneHub.Node
