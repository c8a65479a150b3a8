import SceneHub.Node.Payload

/-!
# Compiled Rule Bundles

The tables of `node_rule_compile.h`. States, phases and timers are known by
their place in a table of names, and conditions and actions by their place in
one table each, which all rules share. `none` stands for `UINT16_MAX`.

## Main definitions

* `CompiledCondition`, `CompiledAction`, `CompiledRule`: The rows of the tables.
* `Bundle`: The tables.
-/

namespace SceneHub.Node

def maxRules : Nat := 32

/-- `NODE_RULE_MAX_ACTIONS_TOTAL`, which bounds conditions as well. -/
def maxActionsTotal : Nat := 128

def maxActionNesting : Nat := 4

def maxStateKeys : Nat := 32

def maxTimers : Nat := 16

def maxPhases : Nat := 16

def maxGroupInputs : Nat := 8

def maxActionsPerRule : Nat := 12

inductive ScalarType where
  | none
  | bool
  | int32
  deriving DecidableEq, Repr

structure ScalarValue where
  type : ScalarType := .none
  intValue : Int := 0
  deriving DecidableEq, Repr

inductive TriggerKind where
  | boot
  | inputEdge
  | inputLevel
  | inputHold
  | allInputsLevel
  | timer
  | localEvent
  | stateChanged
  | mqttCommand
  deriving DecidableEq, Repr

inductive ConditionKind where
  | none
  | stateEquals
  | phaseIs
  | inputEquals
  | eventFieldEquals
  | allInputsEqual
  | not
  | all
  | any
  deriving DecidableEq, Repr

inductive EventField where
  | none
  | tokenId
  deriving DecidableEq, Repr

structure CompiledCondition where
  kind : ConditionKind := .none
  stateIndex : Option Nat := none
  phaseIndex : Option Nat := none
  firstChildIndex : Option Nat := none
  nextSiblingIndex : Option Nat := none
  inputChannel : Nat := 0
  inputChannels : List Nat := []
  childCount : Nat := 0
  eventField : EventField := .none
  value : ScalarValue := {}
  deriving DecidableEq, Repr

inductive ActionKind where
  | none
  | command
  | setState
  | setPhase
  | emitEvent
  | startTimer
  | cancelTimer
  | choose
  deriving DecidableEq, Repr

inductive TimerMode where
  | oneshot
  | repeat
  | cooldown
  deriving DecidableEq, Repr

structure CompiledAction where
  kind : ActionKind := .none
  stateIndex : Option Nat := none
  phaseIndex : Option Nat := none
  timerIndex : Option Nat := none
  conditionIndex : Option Nat := none
  thenActionStart : Nat := 0
  thenActionCount : Nat := 0
  elseActionStart : Nat := 0
  elseActionCount : Nat := 0
  nextActionIndex : Nat := 0
  value : ScalarValue := {}
  timerMode : TimerMode := .oneshot
  durationMs : UInt32 := 0
  intervalMs : UInt32 := 0
  command : String := ""
  eventName : String := ""
  payloadJson : String := ""
  deriving DecidableEq, Repr

structure CompiledRule where
  id : String := ""
  enabled : Bool := false
  triggerKind : TriggerKind := .boot
  inputChannel : Nat := 0
  triggerValue : Int := 0
  timerIndex : Option Nat := none
  conditionIndex : Option Nat := none
  actionStart : Nat := 0
  actionCount : Nat := 0
  triggerDurationMs : UInt32 := 0
  triggerEventName : String := ""
  deriving DecidableEq, Repr

/-- The part of `node_rule_compiled_bundle_t` that dispatching an event reads.
    A bundle that compiled is ready. -/
structure Bundle where
  stateKeys : List String := []
  timerNames : List String := []
  phaseNames : List String := []
  conditions : List CompiledCondition := []
  actions : List CompiledAction := []
  rules : List CompiledRule := []
  deriving DecidableEq, Repr

namespace Bundle

/-- Write the next condition, which counts from then on. -/
def pushCondition (b : Bundle) (c : CompiledCondition) : Bundle :=
  { b with conditions := b.conditions ++ [c] }

def setCondition (b : Bundle) (i : Nat) (c : CompiledCondition) : Bundle :=
  { b with conditions := b.conditions.set i c }

/-- `conditions[prev].next_sibling_index = child`. -/
def linkSibling (b : Bundle) (prev child : Nat) : Bundle :=
  { b with conditions := b.conditions.modify prev fun c => { c with nextSiblingIndex := some child } }

def pushAction (b : Bundle) (a : CompiledAction) : Bundle := { b with actions := b.actions ++ [a] }

def setAction (b : Bundle) (i : Nat) (a : CompiledAction) : Bundle :=
  { b with actions := b.actions.set i a }

end Bundle

end SceneHub.Node
