import SceneHub.Node.Bundle

/-!
# Validation of Rules

`validate_rule_object` of `node_rule_schema.c` with everything it calls. The
rest of that file checks the sections of a bundle in front of its rules and
collects the names that rules may use; here these names come in as the
`SchemaContext`.

## Main definitions

* `Json.nodes`: The size of a tree, on which the recursions here decrease.
* `validateTrigger`, `validateCondition`, `validateAction`: The parts of a rule.
* `validateRuleObject`: A rule.
-/

namespace SceneHub

namespace Json

mutual

/-- The number of values in a tree. -/
def nodes : Json → Nat
  | .array items => nodesList items + 1
  | .object members => nodesMembers members + 1
  | _ => 1

def nodesList : List Json → Nat
  | [] => 0
  | item :: rest => nodes item + nodesList rest + 1

def nodesMembers : List (String × Json) → Nat
  | [] => 0
  | (_, value) :: rest => nodes value + nodesMembers rest

end

theorem nodes_le_members (members : List (String × Json)) (m : String × Json) (h : m ∈ members) :
    m.2.nodes ≤ nodesMembers members := by
  induction members with
  | nil => cases h
  | cons x rest ih =>
    rcases x with ⟨name, value⟩
    rw [nodesMembers]
    rcases List.mem_cons.1 h with rfl | hrest
    · exact Nat.le_add_right _ _
    · have := ih hrest
      omega

theorem nodes_get {j value : Json} {name : String} (h : j.get name = some value) :
    value.nodes < j.nodes := by
  cases j with
  | object members =>
    rcases Option.map_eq_some_iff.1 h with ⟨m, hfind, rfl⟩
    have := nodes_le_members members m (List.mem_of_find?_eq_some hfind)
    rw [nodes]
    omega
  | _ => cases h

theorem nodes_get_array {j : Json} {name : String} {items : List Json}
    (h : j.get name = some (.array items)) : nodesList items + 1 < j.nodes := by
  have := nodes_get h
  rwa [nodes] at this

end Json

namespace Node

structure SchemaContext where
  config : Option NodeConfig := none
  emitNames : List String := []
  exportCommandNames : List String := []
  localEventNames : List String := []
  driverIds : List String := []
  deriving DecidableEq, Repr

/-- An identifier of at most `NODE_DRIVER_EVENT_NAME_MAX_LEN - 1` characters. -/
def isIdentifier : Option Json → Bool
  | some (.string s) => identifierValid s (eventNameMaxLen - 1)
  | _ => false

def isNumber : Option Json → Bool
  | some (.number _) => true
  | _ => false

def scalarStateValueValid : Option Json → Bool
  | some (.bool _) | some (.number _) | some (.string _) => true
  | _ => false

/-! ### Pins -/

/-- A family of pins has an enabled one of that name. Without a configuration
    every name is one. -/
def configHasPin (config : Option NodeConfig) (pins : NodeConfig → List Pin)
    (prefixes : List String) (name : String) : Bool :=
  match config with
  | none => true
  | some config => (pins config).any fun pin =>
    pin.enabled &&
    (prefixes.any (fun before => logicalChannelFromName name before = some pin.channel) ||
      labelMatchesName pin.label name)

def configHasInput (config : Option NodeConfig) (name : String) : Bool :=
  configHasPin config NodeConfig.inputs ["input_"] name

def commandOutputValid (config : Option NodeConfig) (command output : String) : Bool :=
  if startsWith command "relay." then configHasPin config NodeConfig.relays ["relay_"] output
  else if startsWith command "mosfet." then configHasPin config NodeConfig.mosfets ["mosfet_"] output
  else if startsWith command "io." then configHasPin config NodeConfig.outputs ["io_"] output
  else if startsWith command "led." then
    configHasPin config NodeConfig.ledStrips ["led_", "strip_", "led_strip_"] output
  else false

/-- `command_name_supported`. -/
def supportedCommands : List String :=
  ["relay.set", "relay.pulse", "relay.all_off", "mosfet.set", "mosfet.fade", "mosfet.pulse",
    "mosfet.blink", "mosfet.breathe", "mosfet.all_off", "mosfet.effect", "io.set", "io.all_off",
    "node.all_off", "led.off", "led.solid", "led.blink", "led.breathe", "led.effect"]

/-- `local_event_allowed`, `emit_event_declared` and `export_command_allowed`:
    without any declarations every name may be used. -/
def nameAllowed (declared : List String) (name : String) : Bool :=
  declared = [] || declared.contains name

def validateInputsArray (ctx : SchemaContext) : Option Json → Bool
  | some (.array items) =>
    0 < items.length && items.length ≤ maxGroupInputs &&
    items.all fun item =>
      match item with
      | .string s => identifierValid s (eventNameMaxLen - 1) && configHasInput ctx.config s
      | _ => false
  | _ => false

/-- An input of the node. -/
def isInput (ctx : SchemaContext) : Option Json → Bool
  | some (.string s) => configHasInput ctx.config s
  | _ => false

def isPositive : Option Json → Bool
  | some (.number x) => 0 < x
  | _ => false

/-! ### Rules -/

def validateTrigger (ctx : SchemaContext) (trigger : Json) : Bool :=
  match trigger.get "kind" with
  | some (.string kind) =>
    if kind = "boot" then true
    else if kind = "input_edge" then
      isInput ctx (trigger.get "input") && isNumber (trigger.get "to")
    else if kind = "input_level" then
      isInput ctx (trigger.get "input") && isNumber (trigger.get "value")
    else if kind = "input_hold" then
      isInput ctx (trigger.get "input") && isNumber (trigger.get "value") &&
      isPositive (trigger.get "duration_ms")
    else if kind = "all_inputs_level" then
      validateInputsArray ctx (trigger.get "inputs") && isNumber (trigger.get "value")
    else if kind = "timer" then isIdentifier (trigger.get "timer")
    else if kind = "local_event" then
      match trigger.get "event" with
      | some (.string event) =>
        identifierValid event (eventNameMaxLen - 1) && nameAllowed ctx.localEventNames event
      | _ => false
    else if kind = "state_changed" then isIdentifier (trigger.get "key")
    else if kind = "mqtt_command" then
      match trigger.get "command" with
      | some (.string command) =>
        identifierValid command (eventNameMaxLen - 1) && nameAllowed ctx.exportCommandNames command
      | _ => false
    else false
  | _ => false

mutual

def validateCondition (ctx : SchemaContext) (condition : Json) (depth : Nat) : Bool :=
  if maxActionNesting < depth then false
  else match condition.get "kind" with
  | some (.string kind) =>
    if kind = "state_equals" then
      isIdentifier (condition.get "key") && scalarStateValueValid (condition.get "value")
    else if kind = "input_equals" then
      isInput ctx (condition.get "input") && isNumber (condition.get "value")
    else if kind = "event_field_equals" then
      match condition.get "field" with
      | some (.string field) => field = "token_id" && isNumber (condition.get "value")
      | _ => false
    else if kind = "all_inputs_equal" then
      validateInputsArray ctx (condition.get "inputs") && isNumber (condition.get "value")
    else if kind = "phase_is" then isIdentifier (condition.get "phase")
    else if kind = "not" then
      match h : condition.get "condition" with
      | some inner => validateCondition ctx inner (depth + 1)
      | none => false
    else if kind = "all" ∨ kind = "any" then
      match h : condition.get "conditions" with
      | some (.array items) => items ≠ [] && validateConditions ctx items (depth + 1)
      | _ => false
    else false
  | _ => false
termination_by condition.nodes
decreasing_by
  · exact Json.nodes_get h
  · have := Json.nodes_get_array h
    omega

def validateConditions (ctx : SchemaContext) (conditions : List Json) (depth : Nat) : Bool :=
  match conditions with
  | [] => true
  | item :: rest => validateCondition ctx item depth && validateConditions ctx rest depth
termination_by Json.nodesList conditions
decreasing_by
  · rw [Json.nodesList]
    omega
  · rw [Json.nodesList]
    omega

end

def validateCommandAction (ctx : SchemaContext) (action : Json) : Bool :=
  match action.get "command" with
  | some (.string command) =>
    if !supportedCommands.contains command then false
    else if isAllOff command then
      match action.get "args" with
      | none | some (.object _) => true
      | _ => false
    else match action.get "args" with
      | some (.object members) =>
        match (Json.object members).get "output" with
        | some (.string output) => commandOutputValid ctx.config command output
        | _ =>
          match (Json.object members).get "driver" with
          | some (.string driver) => ctx.driverIds.contains driver
          | _ => false
      | _ => false
  | _ => false

/-- The name of the timer an action means: `timer`, or else `name`. -/
def timerField (action : Json) : Option Json :=
  match action.get "timer" with
  | some (.string s) => some (.string s)
  | _ => action.get "name"

/-- The condition of a choice: `condition`, or else `if`. -/
def selectedCondition (action : Json) : Option Json :=
  match action.get "condition" with
  | some (.object members) => some (.object members)
  | _ => action.get "if"

def modeValid : Option Json → Bool
  | none => true
  | some (.string mode) => mode = "oneshot" || mode = "repeat" || mode = "cooldown"
  | some _ => false

/-- The delay of a timer: a duration that is given must be positive, and so must
    the interval if there is no duration. -/
def delayValid (action : Json) : Bool :=
  match action.get "duration_ms" with
  | some (.number duration) => 0 < duration
  | _ => isPositive (action.get "interval_ms")

mutual

def validateAction (ctx : SchemaContext) (action : Json) (depth : Nat) : Bool :=
  if maxActionNesting < depth then false
  else match action.get "kind" with
  | some (.string kind) =>
    if kind = "command" then validateCommandAction ctx action
    else if kind = "set_state" then
      isIdentifier (action.get "key") && scalarStateValueValid (action.get "value")
    else if kind = "set_phase" then isIdentifier (action.get "phase")
    else if kind = "emit_event" then
      match action.get "event", action.get "args" with
      | some (.string event), none | some (.string event), some (.object _) =>
        identifierValid event (eventNameMaxLen - 1) && nameAllowed ctx.emitNames event
      | _, _ => false
    else if kind = "start_timer" then
      isIdentifier (timerField action) && modeValid (action.get "mode") && delayValid action
    else if kind = "cancel_timer" then isIdentifier (timerField action)
    else if kind = "choose" then
      match h : selectedCondition action, h' : action.get "then", h'' : action.get "else" with
      | some condition, some (.array thenActions), none =>
        validateCondition ctx condition (depth + 1) &&
        validateActionsArray ctx thenActions (depth + 1)
      | some condition, some (.array thenActions), some (.array elseActions) =>
        validateCondition ctx condition (depth + 1) &&
        validateActionsArray ctx thenActions (depth + 1) &&
        validateActionsArray ctx elseActions (depth + 1)
      | _, _, _ => false
    else if kind = "sequence" then
      match h : action.get "actions" with
      | some (.array actions) => validateActionsArray ctx actions (depth + 1)
      | _ => false
    else false
  | _ => false
termination_by 2 * action.nodes
decreasing_by
  all_goals
    first
      | have := Json.nodes_get_array h'; omega
      | have := Json.nodes_get_array h''; omega
      | have := Json.nodes_get_array h; omega

def validateActionsArray (ctx : SchemaContext) (actions : List Json) (depth : Nat) : Bool :=
  0 < actions.length && actions.length ≤ maxActionsPerRule &&
  validateActions ctx actions depth
termination_by 2 * Json.nodesList actions + 1

/-- The loop of `validate_actions_array`. -/
def validateActions (ctx : SchemaContext) (actions : List Json) (depth : Nat) : Bool :=
  match actions with
  | [] => true
  | item :: rest => validateAction ctx item depth && validateActions ctx rest depth
termination_by 2 * Json.nodesList actions
decreasing_by
  · rw [Json.nodesList]
    omega
  · rw [Json.nodesList]
    omega

end

def validateRuleObject (ctx : SchemaContext) (rule : Json) : Bool :=
  isIdentifier (rule.get "id") &&
  (match rule.get "enabled" with
    | none | some (.bool _) => true
    | _ => false) &&
  (match rule.get "trigger" with
    | some trigger => validateTrigger ctx trigger
    | none => false) &&
  (match rule.get "conditions" with
    | some conditions => validateCondition ctx conditions 1
    | none => true) &&
  (match rule.get "actions" with
    | some (.array actions) => validateActionsArray ctx actions 1
    | _ => false)

end Node

end SceneHub
