import Mathlib.Logic.Function.Basic
import SceneHub.EspErr
import SceneHub.Node.Bundle

/-!
# Running Compiled Rules

`dispatch_event_inline` of `node_rule_engine.c` with everything it calls. The
commands and events of rules go out through the action port, which answers with
a code, and time is read from a clock. Both may depend on everything that went
out before.

The two recursions of the engine follow the rows of the tables wherever they
point. They get a depth here. A row that was compiled only points to rows behind
it, so a depth of the length of the table is enough.

## Main definitions

* `RuleState`: What the engine keeps.
* `Effect`, `Surroundings`: What goes out, and what answers it.
* `conditionMatches`, `executeAction`, `executeActionRange`: One rule.
* `dispatchEvent`: An event on all rules.
-/

namespace SceneHub.Node

structure TimerSlot where
  active : Bool := false
  mode : TimerMode := .oneshot
  durationMs : UInt32 := 0
  intervalMs : UInt32 := 0
  nextFireMs : UInt32 := 0
  deriving DecidableEq, Repr

/-- The part of `node_rule_input_slot_t` that conditions read. -/
structure InputSlot where
  initialized : Bool := false
  stableActive : Bool := false
  deriving DecidableEq, Repr

inductive RuleEventType where
  | none
  | boot
  | inputEdge
  | inputHold
  | timer
  | localEvent
  | mqttCommand
  deriving DecidableEq, Repr

/-- `node_rule_event_t`. The timer of an event is a number. -/
structure RuleEvent (τ : Type) where
  type : RuleEventType
  eventName : String := ""
  sourceId : String := ""
  uid : String := ""
  inputChannel : Nat := 0
  timer : τ
  value : Int := 0
  tokenId : Int := 0
  durationMs : UInt32 := 0

/-- What a rule does. States, phases and timers go by their names. -/
inductive Effect where
  | command (command payload : String)
  | emit (event payload : String)
  | setState (key : String) (value : ScalarValue)
  | setPhase (phase : String)
  | startTimer (timer : String) (slot : TimerSlot)
  | cancelTimer (timer : String)
  deriving DecidableEq, Repr

/-- The action port and the clock: what they say after certain effects, of which
    the last comes first. -/
structure Surroundings where
  answer : List Effect → EspErr
  nowMs : List Effect → UInt32

/-- What the engine keeps, with states, phases and timers by keys of type `ι`. -/
structure RuleState (ι : Type) where
  initialized : Bool := true
  paused : Bool := false
  rulesEnabled : Bool := true
  states : ι → ScalarValue
  phase : Option ι := none
  timers : ι → TimerSlot
  inputs : Nat → InputSlot
  effects : List Effect := []

def universalIoMax : Nat := 8

section

variable {ι : Type}

/-- An effect that nothing answers. -/
def RuleState.log (s : RuleState ι) (effect : Effect) : RuleState ι :=
  { s with effects := effect :: s.effects }

/-- `node_rule_action_port_execute_command`. -/
def portCommand (around : Surroundings) (command payload : String) (s : RuleState ι) :
    EspErr × RuleState ι :=
  let s := s.log (.command command payload)
  (around.answer s.effects, s)

/-- `node_rule_action_port_emit_event`. -/
def portEmit (around : Surroundings) (event payload : String) (s : RuleState ι) :
    EspErr × RuleState ι :=
  let s := s.log (.emit event payload)
  (around.answer s.effects, s)

/-- Emitting an event as an action: a port that is not bound is no error. -/
def emitEvent (around : Surroundings) (event payload : String) (s : RuleState ι) :
    EspErr × RuleState ι :=
  let (err, s) := portEmit around event payload s
  (if err = .invalidState then .ok else err, s)

/-- The text `publish_local_event` sends. -/
def localEventJson {τ : Type} (event : RuleEvent τ) : String :=
  "\x7b\"source_id\":\"" ++ event.sourceId ++ "\",\"token_id\":" ++ toString event.tokenId ++
    ",\"uid\":\"" ++ event.uid ++ "\"\x7d"

def publishLocalEvent {τ : Type} (around : Surroundings) (event : RuleEvent τ) (s : RuleState ι) :
    RuleState ι :=
  if event.type ≠ .localEvent ∨ event.eventName = "" then s
  else if 128 ≤ (localEventJson event).utf8ByteSize then s
  else (portEmit around event.eventName (localEventJson event) s).2

def inputConditionMatches (s : RuleState ι) (inputChannel : Nat) (value : Int) : Bool :=
  if inputChannel = 0 ∨ universalIoMax < inputChannel then false
  else
    let slot := s.inputs (inputChannel - 1)
    slot.initialized && decide ((if slot.stableActive then 1 else 0) = value)

def startedSlot (mode : TimerMode) (durationMs intervalMs now : UInt32) : TimerSlot :=
  { active := true
    mode
    durationMs
    intervalMs := if 0 < intervalMs then intervalMs else durationMs
    nextFireMs := now + (if 0 < durationMs then durationMs else intervalMs) }

end

/-- The engine's own state, where the keys are numbers. -/
abbrev EngineState := RuleState Nat

def triggerMatches (rule : CompiledRule) (event : RuleEvent Nat) : Bool :=
  match rule.triggerKind with
  | .boot => event.type = .boot
  | .inputEdge =>
    event.type = .inputEdge && event.inputChannel = rule.inputChannel &&
    event.value = rule.triggerValue
  | .inputHold =>
    event.type = .inputHold && event.inputChannel = rule.inputChannel &&
    event.value = rule.triggerValue && event.durationMs = rule.triggerDurationMs
  | .timer => event.type = .timer && some event.timer = rule.timerIndex
  | .localEvent => event.type = .localEvent && rule.triggerEventName = event.eventName
  | .mqttCommand => event.type = .mqttCommand && rule.triggerEventName = event.eventName
  | .inputLevel | .allInputsLevel | .stateChanged => false

/-- The loop over the parts of a condition that ends with the first part that
    gives `stop`. -/
def childLoop (test : Nat → Bool) (b : Bundle) (stop : Bool) : Nat → Option Nat → Bool
  | 0, _ => !stop
  | _, none => !stop
  | count + 1, some child =>
    if test child = stop then stop
    else childLoop test b stop count ((b.conditions[child]?).bind CompiledCondition.nextSiblingIndex)

def conditionMatches (b : Bundle) (s : EngineState) (event : RuleEvent Nat) : Nat → Option Nat → Bool
  | _, none => true
  | 0, _ => false
  | depth + 1, some index =>
    match b.conditions[index]? with
    | none => false
    | some condition =>
      match condition.kind with
      | .stateEquals =>
        match condition.stateIndex with
        | some key => key < maxStateKeys && s.states key = condition.value
        | none => false
      | .phaseIs => s.phase = condition.phaseIndex
      | .inputEquals => inputConditionMatches s condition.inputChannel condition.value.intValue
      | .eventFieldEquals =>
        match condition.eventField with
        | .tokenId => event.tokenId = condition.value.intValue
        | .none => false
      | .allInputsEqual => condition.inputChannels.all fun channel =>
        inputConditionMatches s channel condition.value.intValue
      | .not => !conditionMatches b s event depth condition.firstChildIndex
      | .all => childLoop (fun child => conditionMatches b s event depth (some child)) b false
        condition.childCount condition.firstChildIndex
      | .any => childLoop (fun child => conditionMatches b s event depth (some child)) b true
        condition.childCount condition.firstChildIndex
      | .none => true

def nextActionIndex (b : Bundle) (index : Nat) : Nat :=
  match b.actions[index]? with
  | none => index
  | some action =>
    if action.kind = .choose ∧ index < action.nextActionIndex then action.nextActionIndex
    else index + 1

/-- `execute_action_range`, given what executing an action does. -/
def executeActionRange (execute : CompiledAction → EngineState → EspErr × EngineState) (b : Bundle) :
    Nat → Nat → EngineState → EspErr × EngineState
  | 0, _, s => (.ok, s)
  | count + 1, index, s =>
    match b.actions[index]? with
    | none => (.invalidSize, s)
    | some action =>
      match execute action s with
      | (.ok, s) => executeActionRange execute b count (nextActionIndex b index) s
      | (err, s) => (err, s)

/-- The name of a state, phase or timer, for the record of effects. -/
def nameAt (names : List String) (index : Nat) : String := (names[index]?).getD ""

def executeAction (around : Surroundings) (b : Bundle) (event : RuleEvent Nat) :
    Nat → CompiledAction → EngineState → EspErr × EngineState
  | 0, _, s => (.invalidState, s)
  | depth + 1, action, s =>
    match action.kind with
    | .command => portCommand around action.command action.payloadJson s
    | .setState =>
      match action.stateIndex with
      | some key =>
        if maxStateKeys ≤ key then (.invalidArg, s)
        else
          (.ok, { s with states := Function.update s.states key action.value }.log
            (.setState (nameAt b.stateKeys key) action.value))
      | none => (.invalidArg, s)
    | .setPhase =>
      (.ok, { s with phase := action.phaseIndex }.log
        (.setPhase (nameAt b.phaseNames (action.phaseIndex.getD b.phaseNames.length))))
    | .emitEvent => emitEvent around action.eventName action.payloadJson s
    | .startTimer =>
      match action.timerIndex with
      | some key =>
        if maxTimers ≤ key then (.invalidArg, s)
        else if action.timerMode = .cooldown ∧ (s.timers key).active then (.ok, s)
        else
          let slot := startedSlot action.timerMode action.durationMs action.intervalMs
            (around.nowMs s.effects)
          (.ok, { s with timers := Function.update s.timers key slot }.log
            (.startTimer (nameAt b.timerNames key) slot))
      | none => (.invalidArg, s)
    | .cancelTimer =>
      match action.timerIndex with
      | some key =>
        if maxTimers ≤ key then (.invalidArg, s)
        else
          (.ok, { s with timers := Function.update s.timers key {} }.log
            (.cancelTimer (nameAt b.timerNames key)))
      | none => (.invalidArg, s)
    | .choose =>
      if conditionMatches b s event b.conditions.length action.conditionIndex then
        executeActionRange (executeAction around b event depth) b action.thenActionCount
          action.thenActionStart s
      else if 0 < action.elseActionCount then
        executeActionRange (executeAction around b event depth) b action.elseActionCount
          action.elseActionStart s
      else (.ok, s)
    | .none => (.ok, s)

/-- One rule. What its actions return is only logged. -/
def dispatchRule (around : Surroundings) (b : Bundle) (event : RuleEvent Nat) (s : EngineState)
    (rule : CompiledRule) : EngineState :=
  if rule.enabled ∧ triggerMatches rule event ∧
      conditionMatches b s event b.conditions.length rule.conditionIndex then
    (executeActionRange (executeAction around b event b.actions.length) b rule.actionCount
      rule.actionStart s).2
  else s

/-- `dispatch_event_inline`. A bundle that is absent did not compile. -/
def dispatchEvent (around : Surroundings) (active : Option Bundle) (event : RuleEvent Nat)
    (s : EngineState) : EspErr × EngineState :=
  if !s.initialized then (.invalidState, s)
  else
    let s := publishLocalEvent around event s
    if s.paused ∨ !s.rulesEnabled then (.ok, s)
    else match active with
    | none => (.ok, s)
    | some b => (.ok, b.rules.foldl (dispatchRule around b event) s)

end SceneHub.Node
