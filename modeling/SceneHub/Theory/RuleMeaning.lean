import SceneHub.Theory.RuleActions

/-!
# Compiled Rules

The rules of a bundle compile one after another into the same tables, each into
a row of its own and the rows of its condition and actions. Dispatching an event
on the rows does what the rules of the tree do, in the order of the bundle.

States, phases and timers that rules name get their numbers while rules compile.
Numbers are kept, so what the first rule wrote is read by the last.

## Main definitions

* `CompiledRules`: What compiling a list of rules yields.

## Theorems

* `compileTrigger_spec`, `collectRule_spec`: A trigger, a rule.
* `compile_preserves_meaning`: A bundle that compiles means what its tree means.
-/

namespace SceneHub.Node

variable {config : Option NodeConfig} {b b' : Bundle} {ctx : SchemaContext}

theorem Bundle.OnlyNames.trans {b b' b'' : Bundle} (h : b.OnlyNames b') (h' : b'.OnlyNames b'') :
    b.OnlyNames b'' :=
  ⟨h.names.trans h'.names, h'.conditions.trans h.conditions, h'.actions.trans h.actions⟩

theorem collectConditions_onlyNames_of {conditions : List Json} {depth : Nat}
    (hconditions : ∀ condition ∈ conditions, ∀ b b' : Bundle,
      collectCondition condition depth b = .ok b' → b.OnlyNames b')
    (h : collectConditions conditions depth b = .ok b') : b.OnlyNames b' := by
  induction conditions generalizing b with
  | nil =>
    rw [collectConditions] at h
    cases h
    exact .refl _
  | cons condition rest ih =>
    rw [collectConditions] at h
    split at h
    · next b₁ hcollect =>
        have hfirst := hconditions condition List.mem_cons_self b b₁ hcollect
        exact hfirst.trans
          (ih (fun condition' hmem => hconditions condition' (.tail _ hmem)) h)
    · cases h

theorem collectCondition_onlyNames {condition : Json} {depth : Nat}
    (h : collectCondition condition depth b = .ok b') : b.OnlyNames b' := by
  induction hsize : condition.nodes using Nat.strong_induction_on
    generalizing condition depth b b' with
  | _ size ih =>
    rw [collectCondition] at h
    split at h
    · cases h
    split at h
    · cases h
    split at h
    · split at h
      · split at h
        · exact (appendStateKey_ok h).1
        · cases h
      split at h
      · split at h
        · exact (appendPhaseName_ok h).1
        · cases h
      split at h
      · split at h
        · next inner hinner => exact ih _ (hsize ▸ Json.nodes_get hinner) h rfl
        · cases h
      split at h
      · split at h
        · next items hitems =>
            refine collectConditions_onlyNames_of ?_ h
            intro item hmem b b' hitem
            have hlt := Json.nodes_mem hmem
            have hlt' := Json.nodes_get_array hitems
            exact ih _ (by omega) hitem rfl
        · cases h
      · cases h
        exact .refl _
    · cases h

/-! ### Triggers -/

theorem treeInputIs_of_channel {name : String} {channel : Nat}
    (h : resolveInputChannel config name = some channel) (event : TreeEvent) :
    treeInputIs config event (some (.string name)) = decide (event.inputChannel = channel) := by
  simp [treeInputIs, h, eq_comm]

/-- What a trigger compiles to: a row that agrees with the rule but for its
    trigger, which is met by the same events. -/
structure CompiledTrigger (config : Option NodeConfig) (trigger : Json) (rule : CompiledRule)
    (b : Bundle) (row : CompiledRule) (b' : Bundle) : Prop where
  onlyNames : b.OnlyNames b'
  enabled : row.enabled = rule.enabled
  actionStart : row.actionStart = rule.actionStart
  met : ∀ F : Bundle, b'.NamesWithin F → F.WellNamed → ∀ (event : RuleEvent Nat)
    (conditionIndex : Option Nat) (actionCount : Nat),
    triggerMatches { row with conditionIndex, actionCount } event =
      treeTrigger config (event.named F) trigger

theorem compileTrigger_spec {trigger : Json} {rule row : CompiledRule}
    (hvalid : validateTrigger ctx trigger)
    (h : compileTrigger config trigger rule b = .ok (row, b')) :
    CompiledTrigger config trigger rule b row b' := by
  unfold compileTrigger at h
  split at h
  · next kind hkind =>
      unfold validateTrigger at hvalid
      rw [hkind] at hvalid
      split at h
      · cases h
      · next triggerKind hname =>
          unfold triggerKindFromName at hname
          split at hname
          all_goals cases hname
          · -- boot
            cases h
            refine ⟨.refl _, rfl, rfl, fun F _ _ event _ _ => ?_⟩
            simp only [triggerMatches, treeTrigger, hkind, if_true]
            rfl
          · -- input_edge
            dsimp only at h
            split at h
            · next input level hinput hlevel =>
                split at h
                · next channel hchannel =>
                    cases h
                    refine ⟨.refl _, rfl, rfl, fun F _ _ event _ _ => ?_⟩
                    simp only [triggerMatches, treeTrigger, hkind, String.reduceEq, if_false,
                      if_true, hlevel, hinput, treeInputIs_of_channel hchannel]
                    rfl
                · cases h
            · cases h
          · -- input_level, which compiles to nothing
            cases h
          · -- input_hold
            dsimp only at h
            split at h
            · next input level duration hinput hlevel hduration =>
                split at h
                · next channel hchannel =>
                    cases h
                    refine ⟨.refl _, rfl, rfl, fun F _ _ event _ _ => ?_⟩
                    simp only [triggerMatches, treeTrigger, hkind, String.reduceEq, if_false,
                      if_true, hlevel, hinput, hduration, treeInputIs_of_channel hchannel]
                    rfl
                · cases h
            · cases h
          · -- all_inputs_level
            cases h
          · -- timer
            dsimp only at h
            split at h
            · next timer htimer =>
                obtain ⟨happend, i, hi, rfl⟩ := numbered h
                refine ⟨(appendTimerName_ok' happend).1, rfl, rfl, fun F hnames hF event _ _ => ?_⟩
                have hplace := Lib.getElem?_of_initial hnames.timerNames hi
                have hmeant := bind_getElem?_eq hF.timerNames hplace (some event.timer)
                rw [Option.bind_some] at hmeant
                simp only [triggerMatches, treeTrigger, hkind, String.reduceEq, if_false, if_true,
                  htimer, RuleEvent.named, hmeant]
                rfl
            · cases h
          · -- local_event
            dsimp only at h
            split at h
            · next name hget =>
                cases h
                simp only [String.reduceEq, if_false, if_true, hget, Bool.and_eq_true] at hvalid
                refine ⟨.refl _, rfl, rfl, fun F _ _ event _ _ => ?_⟩
                simp only [triggerMatches, treeTrigger, hkind, String.reduceEq, if_false, if_true,
                  hget, RuleEvent.named, cutText_of_identifier hvalid.1]
                rfl
            · cases h
          · -- state_changed
            cases h
          · -- mqtt_command
            dsimp only at h
            split at h
            · next name hget =>
                cases h
                simp only [String.reduceEq, if_false, if_true, hget, Bool.and_eq_true] at hvalid
                refine ⟨.refl _, rfl, rfl, fun F _ _ event _ _ => ?_⟩
                simp only [triggerMatches, treeTrigger, hkind, String.reduceEq, if_false, if_true,
                  hget, RuleEvent.named, cutText_of_identifier hvalid.1]
                rfl
            · cases h
  · cases h

/-! ### Rules -/

/-- What compiling a list of rules yields: their rows, which do in every later
    bundle what the rules do. -/
structure CompiledRules (config : Option NodeConfig) (rules : List Json) (b b' : Bundle)
    (rows : List CompiledRule) : Prop where
  names : b.NamesWithin b'
  wellNamed : b.WellNamed → b'.WellNamed
  conditions : b.conditions <+: b'.conditions
  actions : b.actions <+: b'.actions
  added : b'.rules = b.rules ++ rows
  runs : ∀ F : Bundle, F.HoldsActions 0 b' → F.WellNamed → ∀ (around : Surroundings)
    (event : RuleEvent Nat) (s : EngineState),
    rules.foldl (treeRule around config (event.named F)) (F.named s) =
      F.named (rows.foldl (dispatchRule around F event) s)

theorem CompiledRules.append {rules rules' : List Json} {b b' b'' : Bundle}
    {rows rows' : List CompiledRule} (h : CompiledRules config rules b b' rows)
    (h' : CompiledRules config rules' b' b'' rows') :
    CompiledRules config (rules ++ rules') b b'' (rows ++ rows') := by
  refine ⟨h.names.trans h'.names, fun hw => h'.wellNamed (h.wellNamed hw),
    h.conditions.trans h'.conditions, h.actions.trans h'.actions, ?_, fun F hF hw around event s => ?_⟩
  · rw [h'.added, h.added, List.append_assoc]
  have hfirst : F.HoldsActions 0 b' :=
    ⟨h'.names.trans hF.names, h'.conditions.trans hF.conditions, fun i row hi hrow =>
      hF.actions i row hi (Lib.getElem?_of_initial h'.actions hrow)⟩
  rw [List.foldl_append, List.foldl_append, h.runs F hfirst hw, h'.runs F hF hw]

theorem Bundle.OnlyNames.grows (h : b.OnlyNames b') : b.Grows b' :=
  ⟨h.names, h.conditions ▸ List.prefix_rfl, h.actions ▸ List.prefix_rfl⟩

theorem compileRuleCondition_spec {conditions : Option Json} {conditionIndex : Option Nat}
    (h : compileRuleCondition config conditions b = .ok (conditionIndex, b')) :
    b.Grows b' ∧ b'.actions = b.actions ∧ ∀ F : Bundle, F.HoldsActions 0 b' → F.WellNamed →
      ∀ (event : RuleEvent Nat) (s : EngineState),
      conditionMatches F s event F.conditions.length conditionIndex =
        treeRuleCondition config (F.named s) (event.named F) conditions := by
  unfold compileRuleCondition at h
  cases conditions with
  | none =>
    cases h
    refine ⟨.refl _, rfl, fun F _ _ event s => ?_⟩
    rw [conditionMatches]
    rfl
  | some condition =>
    dsimp only at h
    cases hcollect : collectCondition condition 1 b with
    | error code =>
      rw [hcollect] at h
      cases h
    | ok b₁ =>
      rw [hcollect] at h
      simp only [bind, Except.bind] at h
      cases hcompile : compileCondition config condition b₁ with
      | error code =>
        rw [hcompile] at h
        cases h
      | ok result =>
        rcases result with ⟨i, b₂⟩
        rw [hcompile] at h
        cases h
        have honly := collectCondition_onlyNames hcollect
        have hcompiled := compileCondition_spec hcompile
        have hgrow : b₁.Grows b₂ :=
          ⟨hcompiled.grow.names, hcompiled.grow.kept.initial,
            hcompiled.grow.actions ▸ List.prefix_rfl⟩
        refine ⟨honly.grows.trans hgrow, hcompiled.grow.actions.trans honly.actions,
          fun F hF hw event s => ?_⟩
        have hat := hcompiled.at_row F ⟨hF.names, .of_initial _ _ hF.conditions⟩
        exact hat.matches hw s event (Nat.le_add_left _ i)

theorem collectRuleActions_spec {actions : Option Json} {actionCount depth : Nat}
    (hvalid : (match actions with
      | some (.array actions) => validateActionsArray ctx actions depth
      | _ => false) = true) (h : collectRuleActions config actions b = .ok (actionCount, b')) :
    b.Grows b' ∧ ∀ F : Bundle, F.HoldsActions 0 b' → F.WellNamed → ∀ (around : Surroundings)
      (event : RuleEvent Nat) (s : EngineState),
      treeRuleActions around config (event.named F) (F.named s) actions =
        Prod.map id F.named (executeActionRange (executeAction around F event F.actions.length) F
          actionCount b.actions.length s) := by
  unfold collectRuleActions at h
  split at h
  · next items =>
      dsimp only at hvalid
      rw [validateActionsArray, Bool.and_eq_true] at hvalid
      rcases collectActions_spec hvalid.2 h with ⟨n, hn, hcompiled⟩
      rw [Nat.zero_add] at hn
      subst hn
      refine ⟨hcompiled.grow, fun F hF hw around event s => ?_⟩
      have hat := hcompiled.at_rows F (hF.of_grows (.refl _) (Nat.zero_le _))
      exact hat.runs hw around event (Nat.le_add_left _ _) s
  · cases h

/-- The rows of a rule are run as the rule is, once each of its three parts is. -/
theorem treeRule_eq {rule : Json} {F : Bundle} {row : CompiledRule} {around : Surroundings}
    {event : RuleEvent Nat} {s : EngineState} (henabled : row.enabled = ruleEnabled rule)
    (htrigger : triggerMatches row event =
      treeTrigger config (event.named F) ((rule.get "trigger").getD .null))
    (hcondition : conditionMatches F s event F.conditions.length row.conditionIndex =
      treeRuleCondition config (F.named s) (event.named F) (rule.get "conditions"))
    (hactions : treeRuleActions around config (event.named F) (F.named s) (rule.get "actions") =
      Prod.map id F.named (executeActionRange (executeAction around F event F.actions.length) F
        row.actionCount row.actionStart s)) :
    treeRule around config (event.named F) (F.named s) rule =
      F.named (dispatchRule around F event s row) := by
  unfold treeRule dispatchRule
  rw [henabled, htrigger, hcondition, hactions]
  split
  · rfl
  · rfl

theorem collectRule_spec {rule : Json} (hvalid : validateRuleObject ctx rule)
    (h : collectRule config rule b = .ok b') : ∃ row, CompiledRules config [rule] b b' [row] := by
  unfold validateRuleObject at hvalid
  simp only [Bool.and_eq_true] at hvalid
  obtain ⟨⟨⟨-, htriggerValid⟩, -⟩, hactionsValid⟩ := hvalid
  have htriggerValid' : validateTrigger ctx ((rule.get "trigger").getD .null) := by
    cases htrigger : rule.get "trigger" with
    | none =>
      rw [htrigger] at htriggerValid
      cases htriggerValid
    | some trigger =>
      rw [htrigger] at htriggerValid
      exact htriggerValid
  unfold collectRule at h
  split at h
  · cases h
  split at h
  · next id hid =>
      split at h
      · cases h
      simp only [bind, Except.bind] at h
      split at h
      · cases h
      · next triggered htrigger =>
          rcases triggered with ⟨row, b₁⟩
          split at h
          · cases h
          · next conditioned hcondition =>
              rcases conditioned with ⟨conditionIndex, b₂⟩
              split at h
              · cases h
              · next acted hactions =>
                  rcases acted with ⟨actionCount, b₃⟩
                  cases h
                  have hfirst := compileTrigger_spec htriggerValid' htrigger
                  rcases compileRuleCondition_spec hcondition with ⟨hgrow, hsame, hmatches⟩
                  rcases collectRuleActions_spec hactionsValid hactions with ⟨hgrow', hruns⟩
                  have hall : b.Grows b₃ := hfirst.onlyNames.grows.trans (hgrow.trans hgrow')
                  have hnames := hall.names.within
                  refine ⟨_, ⟨hnames.stateKeys, hnames.timerNames, hnames.phaseNames⟩, ?_,
                    hall.conditions, hall.actions, congrArg (· ++ _) hall.names.rules,
                    fun F hF hw around event s => ?_⟩
                  · intro hw
                    exact { hall.names.wellNamed hw with }
                  have hnamesF : b₃.NamesWithin F :=
                    ⟨hF.names.stateKeys, hF.names.timerNames, hF.names.phaseNames⟩
                  have hF₃ : F.HoldsActions 0 b₃ := ⟨hnamesF, hF.conditions, hF.actions⟩
                  have hF₂ := hF₃.of_grows hgrow' (Nat.le_refl 0)
                  have hF₁ := hF₂.of_grows hgrow (Nat.le_refl 0)
                  -- The actions start where they started when the rule was begun.
                  have hstart : row.actionStart = b₂.actions.length := by
                    rw [hfirst.actionStart, hsame, hfirst.onlyNames.actions]
                  refine treeRule_eq hfirst.enabled (hfirst.met F hF₁.names hw event _ _)
                    (hmatches F hF₂ hw event s) ?_
                  rw [hstart]
                  exact hruns F hF₃ hw around event s
  · cases h

theorem collectRules_spec {rules : List Json} (hvalid : rules.all (validateRuleObject ctx))
    (h : collectRules config rules b = .ok b') : ∃ rows, CompiledRules config rules b b' rows := by
  induction rules generalizing b with
  | nil =>
    rw [collectRules] at h
    cases h
    exact ⟨[], .refl _, id, List.prefix_rfl, List.prefix_rfl, (List.append_nil _).symm,
      fun _ _ _ _ _ _ => rfl⟩
  | cons rule rest ih =>
    rw [collectRules] at h
    rw [List.all_cons, Bool.and_eq_true] at hvalid
    split at h
    · next b₁ hcollect =>
        rcases collectRule_spec hvalid.1 hcollect with ⟨row, hfirst⟩
        rcases ih hvalid.2 h with ⟨rows, hrest⟩
        exact ⟨row :: rows, hfirst.append hrest⟩
    · cases h

/-! ### Bundles -/

theorem collectInitialState_onlyNames {initial : Option Json}
    (h : collectInitialState initial b = .ok b') : b.OnlyNames b' := by
  unfold collectInitialState at h
  split at h
  · cases h
    exact .refl _
  · next members =>
      induction members generalizing b with
      | nil =>
        cases h
        exact .refl _
      | cons member rest ih =>
        rw [List.foldlM_cons] at h
        cases happend : appendStateKey b member.1 with
        | error code =>
          simp only [happend, bind, Except.bind] at h
          cases h
        | ok b₁ =>
          simp only [happend, bind, Except.bind] at h
          split at h
          · cases h
          · next b₂ hread =>
              have hsame : b₂ = b₁ := by
                split at hread
                · cases hread
                  rfl
                · cases hread
              rw [hsame] at h
              exact (appendStateKey_ok happend).1.trans (ih h)
  · cases h

theorem publishLocalEvent_named (around : Surroundings) (F : Bundle) (event : RuleEvent Nat)
    (s : EngineState) : publishLocalEvent around (event.named F) (F.named s) =
      F.named (publishLocalEvent around event s) := by
  have htext : localEventJson (event.named F) = localEventJson event := rfl
  have hskip : ((event.named F).type ≠ .localEvent ∨ (event.named F).eventName = "") ↔
      (event.type ≠ .localEvent ∨ event.eventName = "") := Iff.rfl
  unfold publishLocalEvent
  rw [htext]
  simp only [hskip]
  split
  · rfl
  split
  · rfl
  · rfl

theorem compileBundle_spec {sections : Json → Except String SchemaContext} {root : Json}
    (h : compileBundle sections config root = .ok b) :
    ∃ rules, bundleRules root = some rules ∧ ∀ (around : Surroundings) (event : RuleEvent Nat)
      (s : EngineState), rules.foldl (treeRule around config (event.named b)) (b.named s) =
        b.named (b.rules.foldl (dispatchRule around b event) s) := by
  have hempty : ({} : Bundle).WellNamed :=
    ⟨List.nodup_nil, List.nodup_nil, List.nodup_nil, Nat.zero_le _, Nat.zero_le _⟩
  unfold compileBundle at h
  cases hsections : sections root with
  | error code =>
    rw [hsections] at h
    cases h
  | ok ctx =>
    rw [hsections] at h
    simp only [bind, Except.bind] at h
    split at h
    · cases h
    · next rules hrules =>
        split at h
        · cases h
        split at h
        · cases h
        · next hvalid =>
            split at h
            · cases h
            · next b₀ hinitial =>
                have honly := collectInitialState_onlyNames hinitial
                have hall : rules.all (validateRuleObject { ctx with config }) := by
                  simpa using hvalid
                rcases collectRules_spec hall h with ⟨rows, hcompiled⟩
                have hadded : b.rules = rows := by
                  rw [hcompiled.added, honly.names.rules]
                  rfl
                refine ⟨rules, hrules, fun around event s => ?_⟩
                rw [hadded]
                -- The finished bundle is its own last one.
                exact hcompiled.runs b ⟨.refl b, List.prefix_rfl, fun _ _ _ hrow => hrow⟩
                  (hcompiled.wellNamed (honly.names.wellNamed hempty)) around event s

/-- A bundle that compiles means what its tree means: on every event and from
    every state of the engine the compiled rules let out the same effects in the
    same order as the rules of the tree, and leave the same state. -/
theorem compile_preserves_meaning {sections : Json → Except String SchemaContext}
    {config : Option NodeConfig} {root : Json} {b : Bundle}
    (h : compileBundle sections config root = .ok b) (around : Surroundings)
    (event : RuleEvent Nat) (s : EngineState) :
    let compiled := dispatchEvent around (some b) event s
    let tree := treeDispatch around config root (event.named b) (b.named s)
    compiled.1 = tree.1 ∧ compiled.2.effects = tree.2.effects ∧ b.named compiled.2 = tree.2 := by
  obtain ⟨rules, hrules, hruns⟩ := compileBundle_spec h
  have htree : treeDispatch around config root (event.named b) (b.named s) =
      Prod.map id b.named (dispatchEvent around (some b) event s) := by
    unfold treeDispatch dispatchEvent
    rw [publishLocalEvent_named, hrules]
    by_cases hinit : s.initialized = true
    · have hinit' : (b.named s).initialized = true := hinit
      simp only [hinit, hinit', Bool.not_true, Bool.false_eq_true, if_false]
      by_cases hoff : (publishLocalEvent around event s).paused = true ∨
          (!(publishLocalEvent around event s).rulesEnabled) = true
      · have hoff' : (b.named (publishLocalEvent around event s)).paused = true ∨
            (!(b.named (publishLocalEvent around event s)).rulesEnabled) = true := hoff
        rw [if_pos hoff, if_pos hoff']
        rfl
      have hoff' : ¬((b.named (publishLocalEvent around event s)).paused = true ∨
          (!(b.named (publishLocalEvent around event s)).rulesEnabled) = true) := hoff
      rw [if_neg hoff, if_neg hoff', Option.getD_some, hruns]
      rfl
    · have hinit' : ¬(b.named s).initialized = true := hinit
      simp only [hinit, hinit', Bool.not_false, if_true]
      rfl
  intro compiled tree
  have heq : tree = Prod.map id b.named compiled := htree
  rw [heq]
  exact ⟨rfl, rfl, rfl⟩

/-- A rule whose condition is a negation within a group, and whose choice comes
    last in a sequence with another choice in its branch. -/
def nestedRule : Json :=
  let done : Json := .object [("kind", .string "state_equals"), ("key", .string "done"),
    ("value", .bool true)]
  let idle : Json := .object [("kind", .string "phase_is"), ("phase", .string "idle")]
  let setDone : Json := .object [("kind", .string "set_state"), ("key", .string "done"),
    ("value", .bool true)]
  let setIdle : Json := .object [("kind", .string "set_phase"), ("phase", .string "idle")]
  let opened : Json := .object [("kind", .string "emit_event"), ("event", .string "opened")]
  let closed : Json := .object [("kind", .string "emit_event"), ("event", .string "closed")]
  let inner : Json := .object [("kind", .string "choose"), ("condition", idle),
    ("then", .array [closed]), ("else", .array [setIdle])]
  let outer : Json := .object [("kind", .string "choose"), ("condition", done),
    ("then", .array [inner, opened])]
  let sequence : Json := .object [("kind", .string "sequence"), ("actions", .array [setDone, outer])]
  let off : Json := .object [("kind", .string "command"), ("command", .string "node.all_off")]
  .object [("id", .string "open"), ("trigger", .object [("kind", .string "boot")]),
    ("conditions", .object [("kind", .string "all"), ("conditions", .array
      [.object [("kind", .string "not"), ("condition", done)],
        .object [("kind", .string "not"), ("condition", idle)]])]),
    ("actions", .array [sequence, off])]

/-- The bundle of that rule. -/
def nestedRoot : Json := .object [("rules", .array [nestedRule])]

/-- A node that has just started, where everything goes well. -/
def bootState : EngineState where
  states := fun _ => {}
  timers := fun _ => {}
  inputs := fun _ => {}

def bootEvent : RuleEvent Nat := { type := .boot, timer := 0 }

def allWell : Surroundings := ⟨fun _ => .ok, fun _ => 0⟩

/-- On the tree of that bundle the start of the node lets out, in this order: the
    state, the phase of the inner choice, the event of the outer one, and the
    command behind the sequence. -/
theorem compile_preserves_meaning_nested :
    ∃ b, compileBundle (fun _ => .ok {}) none nestedRoot = .ok b ∧
      (treeDispatch allWell none nestedRoot (bootEvent.named b) (b.named bootState)).2.effects =
        [.command "node.all_off" "\x7b\x7d", .emit "opened" "\x7b\x7d", .setPhase "idle",
          .setState "done" ⟨.bool, 1⟩] := by
  have heffects : ((compileBundle (fun _ => .ok {}) none nestedRoot).toOption.map fun b =>
      (dispatchEvent allWell (some b) bootEvent bootState).2.effects) =
      some [.command "node.all_off" "\x7b\x7d", .emit "opened" "\x7b\x7d", .setPhase "idle",
        .setState "done" ⟨.bool, 1⟩] := by decide +kernel
  cases hb : compileBundle (fun _ => .ok {}) none nestedRoot with
  | error code =>
    rw [hb] at heffects
    cases heffects
  | ok b =>
    rw [hb] at heffects
    have hmeaning := compile_preserves_meaning hb allWell bootEvent bootState
    exact ⟨b, rfl, hmeaning.2.1.symm.trans (Option.some.inj heffects)⟩

end SceneHub.Node
