import SceneHub.Lib.Names
import SceneHub.Node.Schema

/-!
# Compiling Rules

The compiler of `node_rule_compile.c` from the rules of a bundle to its tables.
A condition takes the next row of its table and its parts the rows behind it,
linked as siblings; a choice takes the next row of the action table and its two
branches the rows behind it. A sequence leaves no row of its own.

The sections of a bundle that only name what it emits and exports are left out:
dispatching an event does not look at them.

## Main definitions

* `compileCondition`, `compileAction`: One row and the rows below it.
* `collectActions`: The actions of a rule or of a branch.
* `collectRule`, `compileBundle`: A rule, and all of them.
-/

namespace SceneHub.Node

open Lib (addName)

/-! ### Names -/

def appendUniqueName (names : List String) (cap maxLen : Nat) (overflow name : String) :
    Except String (List String) :=
  if !nonemptyText name maxLen then .error "invalid_bundle_shape"
  else if name ∉ names ∧ cap ≤ names.length then .error overflow
  else .ok (addName names name)

def appendStateKey (b : Bundle) (name : String) : Except String Bundle := do
  return { b with stateKeys := ← appendUniqueName b.stateKeys maxStateKeys 32 "too_many_state_keys" name }

def appendTimerName (b : Bundle) (name : String) : Except String Bundle := do
  return { b with timerNames := ← appendUniqueName b.timerNames maxTimers 32 "too_many_timers" name }

def appendPhaseName (b : Bundle) (name : String) : Except String Bundle := do
  return { b with phaseNames := ← appendUniqueName b.phaseNames maxPhases 24 "too_many_phases" name }

def readScalarValue : Option Json → Option ScalarValue
  | some (.bool on) => some ⟨.bool, if on then 1 else 0⟩
  | some (.number x) => some ⟨.int32, castInt32 x⟩
  | _ => none

/-! ### Conditions -/

/-- The channels of the inputs of a group. -/
def groupChannels (config : Option NodeConfig) (items : List Json) : Option (List Nat) :=
  if maxGroupInputs < items.length then none
  else items.mapM fun item =>
    match item with
    | .string input => resolveInputChannel config input
    | _ => none

/-- The row of a condition without parts. -/
def compileLeafCondition (config : Option NodeConfig) (kind : String) (condition : Json)
    (b : Bundle) : Except String (CompiledCondition × Bundle) :=
  if kind = "state_equals" then
    match condition.get "key", readScalarValue (condition.get "value") with
    | some (.string key), some value => do
      let b ← appendStateKey b key
      match b.stateKeys.idxOf? key with
      | some index => return ({ kind := .stateEquals, stateIndex := some index, value }, b)
      | none => .error "invalid_rule"
    | _, _ => .error "unsupported_state_type"
  else if kind = "phase_is" then
    match condition.get "phase" with
    | some (.string phase) => do
      let b ← appendPhaseName b phase
      match b.phaseNames.idxOf? phase with
      | some index => return ({ kind := .phaseIs, phaseIndex := some index }, b)
      | none => .error "invalid_rule"
    | _ => .error "invalid_rule"
  else if kind = "input_equals" then
    match condition.get "input", condition.get "value" with
    | some (.string input), some (.number value) =>
      match resolveInputChannel config input with
      | some channel =>
        .ok ({ kind := .inputEquals, inputChannel := channel, value := ⟨.int32, castInt32 value⟩ }, b)
      | none => .error "runtime_condition_not_supported"
    | _, _ => .error "invalid_rule"
  else if kind = "event_field_equals" then
    match condition.get "field", condition.get "value" with
    | some (.string field), some (.number value) =>
      if field ≠ "token_id" then .error "runtime_condition_not_supported"
      else
        .ok ({ kind := .eventFieldEquals, eventField := .tokenId
               value := ⟨.int32, castInt32 value⟩ }, b)
    | _, _ => .error "runtime_condition_not_supported"
  else if kind = "all_inputs_equal" then
    match condition.get "inputs", condition.get "value" with
    | some (.array items), some (.number value) =>
      match groupChannels config items with
      | some channels =>
        .ok ({ kind := .allInputsEqual, inputChannels := channels
               value := ⟨.int32, castInt32 value⟩ }, b)
      | none => .error "runtime_condition_not_supported"
    | _, _ => .error "invalid_rule"
  else .error "runtime_condition_not_supported"

mutual

/-- `compile_condition`: the row of the condition. -/
def compileCondition (config : Option NodeConfig) (condition : Json) (b : Bundle) :
    Except String (Nat × Bundle) :=
  if !condition.isObject then .error "invalid_rule"
  else if maxActionsTotal ≤ b.conditions.length then .error "too_many_conditions"
  else match condition.get "kind" with
  | some (.string kind) =>
    let parent := b.conditions.length
    if kind = "not" then
      match _h : condition.get "condition" with
      | some inner =>
        match compileCondition config inner (b.pushCondition {}) with
        | .ok (child, b) =>
          .ok (parent, b.setCondition parent
            { kind := .not, firstChildIndex := some child, childCount := 1 })
        | .error code => .error code
      | none => .error "invalid_rule"
    else if kind = "all" ∨ kind = "any" then
      match _h : condition.get "conditions" with
      | some (.array items) =>
        match compileConditionChildren config items none none 0 (b.pushCondition {}) with
        | .ok (first, count, b) =>
          .ok (parent, b.setCondition parent
            { kind := if kind = "all" then .all else .any
              firstChildIndex := first, childCount := count })
        | .error code => .error code
      | _ => .error "invalid_rule"
    else match compileLeafCondition config kind condition b with
    | .ok (row, b) => .ok (parent, b.pushCondition row)
    | .error code => .error code
  | _ => .error "invalid_rule"
termination_by condition.nodes
decreasing_by
  · exact Json.nodes_get _h
  · have := Json.nodes_get_array _h
    omega

/-- The loop of `compile_condition_children`: the row of the first child, the
    number of children. -/
def compileConditionChildren (config : Option NodeConfig) (conditions : List Json)
    (first prev : Option Nat) (count : Nat) (b : Bundle) :
    Except String (Option Nat × Nat × Bundle) :=
  match conditions with
  | [] => .ok (first, count, b)
  | item :: rest =>
    match compileCondition config item b with
    | .ok (child, b) =>
      compileConditionChildren config rest (first.or (some child)) (some child) (count + 1)
        (match prev with
          | some prev => b.linkSibling prev child
          | none => b)
    | .error code => .error code
termination_by Json.nodesList conditions
decreasing_by
  · rw [Json.nodesList]
    omega
  · rw [Json.nodesList]
    omega

end

mutual

/-- `collect_condition`, which adds the names in the condition of a rule and
    bounds its depth. A name that is missing leaves no error code. -/
def collectCondition (condition : Json) (depth : Nat) (b : Bundle) : Except String Bundle :=
  if !condition.isObject then .error "invalid_rule"
  else if maxActionNesting < depth then .error "condition_nesting_too_deep"
  else match condition.get "kind" with
  | some (.string kind) =>
    if kind = "state_equals" then
      match condition.get "key" with
      | some (.string key) => appendStateKey b key
      | _ => .error ""
    else if kind = "phase_is" then
      match condition.get "phase" with
      | some (.string phase) => appendPhaseName b phase
      | _ => .error ""
    else if kind = "not" then
      match h : condition.get "condition" with
      | some inner => collectCondition inner (depth + 1) b
      | none => .error "invalid_rule"
    else if kind = "all" ∨ kind = "any" then
      match h : condition.get "conditions" with
      | some (.array items) => collectConditions items (depth + 1) b
      | _ => .error "invalid_rule"
    else .ok b
  | _ => .error "invalid_rule"
termination_by condition.nodes
decreasing_by
  · exact Json.nodes_get h
  · have := Json.nodes_get_array h
    omega

def collectConditions (conditions : List Json) (depth : Nat) (b : Bundle) : Except String Bundle :=
  match conditions with
  | [] => .ok b
  | item :: rest =>
    match collectCondition item depth b with
    | .ok b => collectConditions rest depth b
    | .error code => .error code
termination_by Json.nodesList conditions
decreasing_by
  · rw [Json.nodesList]
    omega
  · rw [Json.nodesList]
    omega

end

/-! ### Actions -/

def timerModeFromName : Option Json → TimerMode
  | some (.string mode) =>
    if mode = "repeat" then .repeat else if mode = "cooldown" then .cooldown else .oneshot
  | _ => .oneshot

/-- A positive number of milliseconds, or zero. -/
def delayField : Option Json → UInt32
  | some (.number x) => if 0 < x then castUInt32 x else 0
  | _ => 0

/-- `read_timer_delay_fields`: the duration and the interval. -/
def readTimerDelayFields (action : Json) : Option (UInt32 × UInt32) :=
  let durationMs := delayField (action.get "duration_ms")
  let intervalMs := delayField (action.get "interval_ms")
  if 0 < durationMs ∨ 0 < intervalMs then some (durationMs, intervalMs) else none

def startTimerAction (timerIndex : Nat) (timerMode : TimerMode) (durationMs intervalMs : UInt32) :
    CompiledAction :=
  let intervalMs := if timerMode = .repeat ∧ intervalMs = 0 then durationMs else intervalMs
  { kind := .startTimer
    timerIndex := some timerIndex
    timerMode
    durationMs := if durationMs = 0 then intervalMs else durationMs
    intervalMs }

/-- The row of an action other than a choice. -/
def compileLeafAction (config : Option NodeConfig) (kind : String) (action : Json) (b : Bundle) :
    Except String (CompiledAction × Bundle) :=
  if kind = "command" then
    match action.get "command", buildCommandArgsJson config action with
    | some (.string command), some payloadJson =>
      .ok ({ kind := .command, command := cutText eventNameMaxLen command, payloadJson }, b)
    | _, _ => .error "runtime_command_not_supported"
  else if kind = "set_state" then
    match action.get "key", readScalarValue (action.get "value") with
    | some (.string key), some value => do
      let b ← appendStateKey b key
      match b.stateKeys.idxOf? key with
      | some index => return ({ kind := .setState, stateIndex := some index, value }, b)
      | none => .error "invalid_rule"
    | _, _ => .error "unsupported_state_type"
  else if kind = "set_phase" then
    match action.get "phase" with
    | some (.string phase) => do
      let b ← appendPhaseName b phase
      match b.phaseNames.idxOf? phase with
      | some index => return ({ kind := .setPhase, phaseIndex := some index }, b)
      | none => .error "invalid_rule"
    | _ => .error "invalid_rule"
  else if kind = "emit_event" then
    match action.get "event", buildEmitArgsJson (action.get "args") with
    | some (.string event), some payloadJson =>
      .ok ({ kind := .emitEvent, eventName := cutText eventNameMaxLen event, payloadJson }, b)
    | _, _ => .error "runtime_emit_not_supported"
  else if kind = "start_timer" then
    match timerField action, readTimerDelayFields action with
    | some (.string timer), some (durationMs, intervalMs) => do
      let b ← (appendTimerName b timer).mapError fun _ => "runtime_timer_not_supported"
      match b.timerNames.idxOf? timer with
      | some index =>
        return (startTimerAction index (timerModeFromName (action.get "mode")) durationMs intervalMs,
          b)
      | none => .error "runtime_timer_not_supported"
    | _, _ => .error "runtime_timer_not_supported"
  else if kind = "cancel_timer" then
    match timerField action with
    | some (.string timer) => do
      let b ← (appendTimerName b timer).mapError fun _ => "runtime_timer_not_supported"
      match b.timerNames.idxOf? timer with
      | some index => return ({ kind := .cancelTimer, timerIndex := some index }, b)
      | none => .error "runtime_timer_not_supported"
    | _ => .error "runtime_timer_not_supported"
  else .error "runtime_action_not_supported"

mutual

def compileAction (config : Option NodeConfig) (action : Json) (b : Bundle) :
    Except String Bundle :=
  if !action.isObject then .error "invalid_rule"
  else if maxActionsTotal ≤ b.actions.length then .error "too_many_actions_total"
  else match action.get "kind" with
  | some (.string kind) =>
    if kind = "choose" then
      match selectedCondition action, _h : action.get "then" with
      | some condition, some (.array thenActions) =>
        let slot := b.actions.length
        match compileCondition config condition (b.pushAction { kind := .choose }) with
        | .error code => .error code
        | .ok (conditionIndex, b) =>
          let thenStart := b.actions.length
          match collectActions config thenActions 1 0 b with
          | .error code => .error code
          | .ok (thenCount, b) =>
            match _h' : action.get "else" with
            | none =>
              .ok (b.setAction slot
                { kind := .choose, conditionIndex := some conditionIndex
                  thenActionStart := thenStart, thenActionCount := thenCount
                  nextActionIndex := b.actions.length })
            | some (.array elseActions) =>
              let elseStart := b.actions.length
              match collectActions config elseActions 1 0 b with
              | .error code => .error code
              | .ok (elseCount, b) =>
                .ok (b.setAction slot
                  { kind := .choose, conditionIndex := some conditionIndex
                    thenActionStart := thenStart, thenActionCount := thenCount
                    elseActionStart := elseStart, elseActionCount := elseCount
                    nextActionIndex := b.actions.length })
            | some _ => .error "invalid_rule"
      | _, _ => .error "invalid_rule"
    else match compileLeafAction config kind action b with
    | .ok (row, b) => .ok (b.pushAction row)
    | .error code => .error code
  | _ => .error "invalid_rule"
termination_by 2 * action.nodes
decreasing_by
  · have := Json.nodes_get_array _h
    omega
  · have := Json.nodes_get_array _h'
    omega

/-- `collect_action`: the number of actions so far and with this one. -/
def collectAction (config : Option NodeConfig) (action : Json) (depth count : Nat) (b : Bundle) :
    Except String (Nat × Bundle) :=
  if !action.isObject then .error "invalid_rule"
  else if maxActionNesting < depth then .error "action_nesting_too_deep"
  else match action.get "kind" with
  | some (.string kind) =>
    if kind = "sequence" then
      match h : action.get "actions" with
      | some (.array actions) => collectActions config actions (depth + 1) count b
      | _ => .error "invalid_rule"
    else match compileAction config action b with
    | .ok b => .ok (count + 1, b)
    | .error code => .error code
  | _ => .error "invalid_rule"
termination_by 2 * action.nodes + 1
decreasing_by
  · have := Json.nodes_get_array h
    omega
  · omega

/-- `collect_actions_array`, on an array. -/
def collectActions (config : Option NodeConfig) (actions : List Json) (depth count : Nat)
    (b : Bundle) : Except String (Nat × Bundle) :=
  match actions with
  | [] => .ok (count, b)
  | item :: rest =>
    match collectAction config item depth count b with
    | .ok (count, b) => collectActions config rest depth count b
    | .error code => .error code
termination_by 2 * Json.nodesList actions
decreasing_by
  · rw [Json.nodesList]
    omega
  · rw [Json.nodesList]
    omega

end

/-! ### Rules -/

def triggerKindFromName : String → Option TriggerKind
  | "boot" => some .boot
  | "input_edge" => some .inputEdge
  | "input_level" => some .inputLevel
  | "input_hold" => some .inputHold
  | "all_inputs_level" => some .allInputsLevel
  | "timer" => some .timer
  | "local_event" => some .localEvent
  | "state_changed" => some .stateChanged
  | "mqtt_command" => some .mqttCommand
  | _ => none

/-- What the trigger of a rule puts into its row. -/
def compileTrigger (config : Option NodeConfig) (trigger : Json) (rule : CompiledRule) (b : Bundle) :
    Except String (CompiledRule × Bundle) :=
  match trigger.get "kind" with
  | some (.string kind) =>
    match triggerKindFromName kind with
    | none => .error "invalid_rule"
    | some triggerKind =>
      let rule := { rule with triggerKind }
      match triggerKind with
      | .boot => .ok (rule, b)
      | .inputEdge =>
        match trigger.get "input", trigger.get "to" with
        | some (.string input), some (.number level) =>
          match resolveInputChannel config input with
          | some channel =>
            .ok ({ rule with inputChannel := channel, triggerValue := castInt32 level }, b)
          | none => .error "runtime_trigger_not_supported"
        | _, _ => .error "invalid_rule"
      | .inputHold =>
        match trigger.get "input", trigger.get "value", trigger.get "duration_ms" with
        | some (.string input), some (.number value), some (.number duration) =>
          match resolveInputChannel config input with
          | some channel =>
            .ok ({ rule with
              inputChannel := channel, triggerValue := castInt32 value
              triggerDurationMs := castUInt32 duration }, b)
          | none => .error "runtime_trigger_not_supported"
        | _, _, _ => .error "invalid_rule"
      | .timer =>
        match trigger.get "timer" with
        | some (.string timer) => do
          let b ← (appendTimerName b timer).mapError fun _ => "runtime_trigger_not_supported"
          match b.timerNames.idxOf? timer with
          | some index => return ({ rule with timerIndex := some index }, b)
          | none => .error "runtime_trigger_not_supported"
        | _ => .error "runtime_trigger_not_supported"
      | .localEvent =>
        match trigger.get "event" with
        | some (.string event) =>
          .ok ({ rule with triggerEventName := cutText eventNameMaxLen event }, b)
        | _ => .error "invalid_rule"
      | .mqttCommand =>
        match trigger.get "command" with
        | some (.string command) =>
          .ok ({ rule with triggerEventName := cutText eventNameMaxLen command }, b)
        | _ => .error "invalid_rule"
      | .inputLevel | .allInputsLevel | .stateChanged => .error "runtime_trigger_not_supported"
  | _ => .error "invalid_rule"

/-- The condition of a rule: its row, if it has one. -/
def compileRuleCondition (config : Option NodeConfig) (conditions : Option Json) (b : Bundle) :
    Except String (Option Nat × Bundle) :=
  match conditions with
  | none => .ok (none, b)
  | some condition => do
    let b ← collectCondition condition 1 b
    let (index, b) ← compileCondition config condition b
    return (some index, b)

/-- The actions of a rule: how many rows follow one another. -/
def collectRuleActions (config : Option NodeConfig) (actions : Option Json) (b : Bundle) :
    Except String (Nat × Bundle) :=
  match actions with
  | some (.array actions) => collectActions config actions 1 0 b
  | _ => .error "invalid_rule"

/-- A rule is enabled unless it says that it is not. -/
def ruleEnabled (rule : Json) : Bool :=
  match rule.get "enabled" with
  | some (.bool enabled) => enabled
  | _ => true

def collectRule (config : Option NodeConfig) (rule : Json) (b : Bundle) : Except String Bundle :=
  if maxRules ≤ b.rules.length then .error "too_many_rules"
  else match rule.get "id" with
  | some (.string id) =>
    if !nonemptyText id (eventNameMaxLen - 1) then .error "invalid_rule"
    else do
      let row : CompiledRule :=
        { id := cutText eventNameMaxLen id, enabled := ruleEnabled rule
          actionStart := b.actions.length }
      let (row, b) ← compileTrigger config ((rule.get "trigger").getD .null) row b
      let (conditionIndex, b) ← compileRuleCondition config (rule.get "conditions") b
      let (actionCount, b) ← collectRuleActions config (rule.get "actions") b
      return { b with rules := b.rules ++ [{ row with conditionIndex, actionCount }] }
  | _ => .error "invalid_rule"

/-- `collect_initial_state`: the names of the states a bundle starts with. -/
def collectInitialState : Option Json → Bundle → Except String Bundle
  | none, b => .ok b
  | some (.object members), b => members.foldlM (fun b member => do
      let b ← appendStateKey b member.1
      match readScalarValue (some member.2) with
      | some _ => return b
      | none => .error "unsupported_state_type") b
  | some _, _ => .error "invalid_bundle_shape"

/-- The loop of `compile_bundle_impl` over the rules. -/
def collectRules (config : Option NodeConfig) : List Json → Bundle → Except String Bundle
  | [], b => .ok b
  | rule :: rest, b =>
    match collectRule config rule b with
    | .ok b => collectRules config rest b
    | .error code => .error code

/-- The rules of a bundle, as `validate_bundle_impl` reads them. -/
def bundleRules (root : Json) : Option (List Json) :=
  match root.get "rules" with
  | some (.array rules) => some rules
  | _ => none

/-- `compile_bundle_impl` on a parsed bundle. `sections` is the part of
    `validate_bundle_impl` in front of the rules, which collects the names they
    may use. -/
def compileBundle (sections : Json → Except String SchemaContext) (config : Option NodeConfig)
    (root : Json) : Except String Bundle := do
  let ctx ← sections root
  match bundleRules root with
  | none => .error "missing_rules"
  | some rules =>
    if maxRules < rules.length then .error "too_many_rules"
    else if !rules.all (validateRuleObject { ctx with config }) then .error "invalid_rule"
    else do
      let b ← collectInitialState (root.get "initial_state") {}
      collectRules config rules b

end SceneHub.Node
