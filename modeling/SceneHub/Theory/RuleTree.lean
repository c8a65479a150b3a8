import SceneHub.Node.Compile
import SceneHub.Node.Engine

/-!
# Rules as Trees

What the rules of a bundle mean, read off the JSON tree. A choice and a sequence
are carried out where they stand, the parts of a condition are evaluated where
they stand, and states, phases and timers go by their names. There are no
tables.

The engine keeps its states by number. `Bundle.named` reads such a state by the
names of a bundle, which is the state the tree is run on.

## Main definitions

* `treeCondition`, `treeAction`, `treeRule`: What the parts of a rule mean.
* `treeDispatch`: An event on all rules of a bundle.
* `Bundle.named`, `RuleEvent.named`: What the numbers of the engine stand for.
-/

namespace SceneHub

theorem Json.nodes_mem {item : Json} {items : List Json} (h : item ∈ items) :
    item.nodes < nodesList items := by
  induction items with
  | nil => cases h
  | cons x rest ih =>
    rw [nodesList]
    rcases List.mem_cons.1 h with rfl | hrest
    · omega
    · have := ih hrest
      omega

namespace Node

/-- What the engine keeps, by name. -/
abbrev TreeState := RuleState String

/-- An event whose timer goes by its name, if it has one. -/
abbrev TreeEvent := RuleEvent (Option String)

/-! ### Conditions -/

def treeInput (config : Option NodeConfig) (s : TreeState) (input : Json) (level : Int) : Bool :=
  match input with
  | .string name =>
    match resolveInputChannel config name with
    | some channel => inputConditionMatches s channel level
    | none => false
  | _ => false

/-- A condition without parts. -/
def treeLeafCondition (config : Option NodeConfig) (s : TreeState) (event : TreeEvent)
    (kind : String) (condition : Json) : Bool :=
  if kind = "state_equals" then
    match condition.get "key", readScalarValue (condition.get "value") with
    | some (.string key), some value => s.states key = value
    | _, _ => false
  else if kind = "phase_is" then
    match condition.get "phase" with
    | some (.string phase) => s.phase = some phase
    | _ => false
  else if kind = "input_equals" then
    match condition.get "input", condition.get "value" with
    | some input, some (.number level) => treeInput config s input (castInt32 level)
    | _, _ => false
  else if kind = "event_field_equals" then
    match condition.get "field", condition.get "value" with
    | some (.string field), some (.number value) =>
      field = "token_id" && event.tokenId = castInt32 value
    | _, _ => false
  else if kind = "all_inputs_equal" then
    match condition.get "inputs", condition.get "value" with
    | some (.array inputs), some (.number level) =>
      inputs.all fun input => treeInput config s input (castInt32 level)
    | _, _ => false
  else false

def treeCondition (config : Option NodeConfig) (s : TreeState) (event : TreeEvent)
    (condition : Json) : Bool :=
  match condition.get "kind" with
  | some (.string kind) =>
    if kind = "not" then
      match _h : condition.get "condition" with
      | some inner => !treeCondition config s event inner
      | none => false
    else if kind = "all" then
      match _h : condition.get "conditions" with
      | some (.array parts) => parts.attach.all fun part => treeCondition config s event part.1
      | _ => false
    else if kind = "any" then
      match _h : condition.get "conditions" with
      | some (.array parts) => parts.attach.any fun part => treeCondition config s event part.1
      | _ => false
    else treeLeafCondition config s event kind condition
  | _ => false
termination_by condition.nodes
decreasing_by
  · exact Json.nodes_get _h
  · have := Json.nodes_mem part.2
    have := Json.nodes_get_array _h
    omega
  · have := Json.nodes_mem part.2
    have := Json.nodes_get_array _h
    omega

/-! ### Actions -/

/-- Start a timer: without a duration its interval counts, and the other way
    round. One that is to cool down is left running. -/
def treeStartTimer (around : Surroundings) (timer : String) (mode : TimerMode)
    (durationMs intervalMs : UInt32) (s : TreeState) : TreeState :=
  if mode = .cooldown ∧ (s.timers timer).active then s
  else
    let slot : TimerSlot :=
      { active := true
        mode
        durationMs := if durationMs = 0 then intervalMs else durationMs
        intervalMs := if intervalMs = 0 then durationMs else intervalMs
        nextFireMs := around.nowMs s.effects + if durationMs = 0 then intervalMs else durationMs }
    { s with timers := Function.update s.timers timer slot }.log (.startTimer timer slot)

/-- An action other than a choice or a sequence. -/
def treeLeafAction (around : Surroundings) (config : Option NodeConfig) (kind : String)
    (action : Json) (s : TreeState) : EspErr × TreeState :=
  if kind = "command" then
    match action.get "command", buildCommandArgsJson config action with
    | some (.string command), some payload => portCommand around command payload s
    | _, _ => (.ok, s)
  else if kind = "set_state" then
    match action.get "key", readScalarValue (action.get "value") with
    | some (.string key), some value =>
      (.ok, { s with states := Function.update s.states key value }.log (.setState key value))
    | _, _ => (.ok, s)
  else if kind = "set_phase" then
    match action.get "phase" with
    | some (.string phase) => (.ok, { s with phase := some phase }.log (.setPhase phase))
    | _ => (.ok, s)
  else if kind = "emit_event" then
    match action.get "event", buildEmitArgsJson (action.get "args") with
    | some (.string event), some payload => emitEvent around event payload s
    | _, _ => (.ok, s)
  else if kind = "start_timer" then
    match timerField action, readTimerDelayFields action with
    | some (.string timer), some (durationMs, intervalMs) =>
      (.ok, treeStartTimer around timer (timerModeFromName (action.get "mode")) durationMs intervalMs
        s)
    | _, _ => (.ok, s)
  else if kind = "cancel_timer" then
    match timerField action with
    | some (.string timer) =>
      (.ok, { s with timers := Function.update s.timers timer {} }.log (.cancelTimer timer))
    | _ => (.ok, s)
  else (.ok, s)

mutual

def treeAction (around : Surroundings) (config : Option NodeConfig) (event : TreeEvent)
    (action : Json) (s : TreeState) : EspErr × TreeState :=
  match action.get "kind" with
  | some (.string kind) =>
    if kind = "sequence" then
      match _h : action.get "actions" with
      | some (.array actions) => treeActions around config event actions s
      | _ => (.ok, s)
    else if kind = "choose" then
      match selectedCondition action with
      | some condition =>
        if treeCondition config s event condition then
          match _h : action.get "then" with
          | some (.array actions) => treeActions around config event actions s
          | _ => (.ok, s)
        else
          match _h : action.get "else" with
          | some (.array actions) => treeActions around config event actions s
          | _ => (.ok, s)
      | none => (.ok, s)
    else treeLeafAction around config kind action s
  | _ => (.ok, s)
termination_by action.nodes
decreasing_by
  all_goals
    have := Json.nodes_get_array _h
    omega

/-- Actions one after another, up to the first that fails. -/
def treeActions (around : Surroundings) (config : Option NodeConfig) (event : TreeEvent)
    (actions : List Json) (s : TreeState) : EspErr × TreeState :=
  match actions with
  | [] => (.ok, s)
  | action :: rest =>
    match treeAction around config event action s with
    | (.ok, s) => treeActions around config event rest s
    | (err, s) => (err, s)
termination_by Json.nodesList actions
decreasing_by
  · rw [Json.nodesList]
    omega
  · rw [Json.nodesList]
    omega

end

/-! ### Rules -/

def treeInputIs (config : Option NodeConfig) (event : TreeEvent) (input : Option Json) : Bool :=
  match input with
  | some (.string name) => resolveInputChannel config name = some event.inputChannel
  | _ => false

/-- The event is the one a rule is about. -/
def treeTrigger (config : Option NodeConfig) (event : TreeEvent) (trigger : Json) : Bool :=
  match trigger.get "kind" with
  | some (.string kind) =>
    if kind = "boot" then event.type = .boot
    else if kind = "input_edge" then
      match trigger.get "to" with
      | some (.number level) =>
        event.type = .inputEdge && treeInputIs config event (trigger.get "input") &&
        event.value = castInt32 level
      | _ => false
    else if kind = "input_hold" then
      match trigger.get "value", trigger.get "duration_ms" with
      | some (.number level), some (.number duration) =>
        event.type = .inputHold && treeInputIs config event (trigger.get "input") &&
        event.value = castInt32 level && event.durationMs = castUInt32 duration
      | _, _ => false
    else if kind = "timer" then
      match trigger.get "timer" with
      | some (.string timer) => event.type = .timer && event.timer = some timer
      | _ => false
    else if kind = "local_event" then
      match trigger.get "event" with
      | some (.string name) => event.type = .localEvent && name = event.eventName
      | _ => false
    else if kind = "mqtt_command" then
      match trigger.get "command" with
      | some (.string name) => event.type = .mqttCommand && name = event.eventName
      | _ => false
    else false
  | _ => false

def treeRuleCondition (config : Option NodeConfig) (s : TreeState) (event : TreeEvent) :
    Option Json → Bool
  | none => true
  | some condition => treeCondition config s event condition

def treeRuleActions (around : Surroundings) (config : Option NodeConfig) (event : TreeEvent)
    (s : TreeState) : Option Json → EspErr × TreeState
  | some (.array actions) => treeActions around config event actions s
  | _ => (.ok, s)

def treeRule (around : Surroundings) (config : Option NodeConfig) (event : TreeEvent)
    (s : TreeState) (rule : Json) : TreeState :=
  if ruleEnabled rule ∧ treeTrigger config event ((rule.get "trigger").getD .null) ∧
      treeRuleCondition config s event (rule.get "conditions") then
    (treeRuleActions around config event s (rule.get "actions")).2
  else s

/-- An event on the rules of a bundle, in their order. -/
def treeDispatch (around : Surroundings) (config : Option NodeConfig) (root : Json)
    (event : TreeEvent) (s : TreeState) : EspErr × TreeState :=
  if !s.initialized then (.invalidState, s)
  else
    let s := publishLocalEvent around event s
    if s.paused ∨ !s.rulesEnabled then (.ok, s)
    else (.ok, ((bundleRules root).getD []).foldl (treeRule around config event) s)

/-! ### What numbers stand for -/

open Lib (byName)

/-- The state of the engine by the names of a bundle. -/
def Bundle.named (b : Bundle) (s : EngineState) : TreeState where
  initialized := s.initialized
  paused := s.paused
  rulesEnabled := s.rulesEnabled
  states := byName b.stateKeys s.states {}
  phase := s.phase.bind (b.phaseNames[·]?)
  timers := byName b.timerNames s.timers {}
  inputs := s.inputs
  effects := s.effects

def RuleEvent.named (b : Bundle) (event : RuleEvent Nat) : TreeEvent where
  type := event.type
  eventName := event.eventName
  sourceId := event.sourceId
  uid := event.uid
  inputChannel := event.inputChannel
  timer := b.timerNames[event.timer]?
  value := event.value
  tokenId := event.tokenId
  durationMs := event.durationMs

end Node

end SceneHub
