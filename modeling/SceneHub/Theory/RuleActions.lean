import SceneHub.Theory.RuleConditions

/-!
# Compiled Actions

A list of actions compiles into rows of one table and is run by counting rows:
each step goes to the next row, or past the branches of a choice. A sequence has
no row, so its actions count as actions of the list around it, and the two
branches of a choice come right behind its own row.

`ActionsAt` says that so many steps from a row on stand for a list of actions.
As for conditions, the compiler makes it so in every later bundle, and the
engine does in those steps what the tree does.

## Main definitions

* `ActionsAt`: Steps from a row on stand for a list of actions.
* `CompiledActions`: What compiling a list of actions yields.

## Theorems

* `executeActionRange_add`: Steps are counted off one after another.
* `ActionsAt.runs`: Such steps do what the tree does.
* `collectActions_spec`: The compiler makes such rows.
-/

namespace SceneHub.Node

variable {action : Json} {ctx : SchemaContext} {actions : List Json} {kind timer : String}
  {b b' : Bundle} {row : CompiledAction} {depth i : Nat}

/-! ### Actions without branches -/

def TextsFit (kind : String) (action : Json) : Prop :=
  (∀ command, kind = "command" → action.get "command" = some (.string command) →
    cutText eventNameMaxLen command = command) ∧
  (∀ event, kind = "emit_event" → action.get "event" = some (.string event) →
    cutText eventNameMaxLen event = event)

theorem cutText_of_length {size : Nat} {text : String} (h : text.length ≤ size - 1) :
    cutText size text = text := by
  unfold cutText
  rw [List.take_of_length_le (String.length_toList ▸ h), String.ofList_toList]

theorem cutText_of_identifier {text : String} (h : identifierValid text (eventNameMaxLen - 1)) :
    cutText eventNameMaxLen text = text := by
  unfold identifierValid at h
  simp only [Bool.and_eq_true, decide_eq_true_eq] at h
  exact cutText_of_length h.1.2

theorem cutText_of_supported {command : String} (h : command ∈ supportedCommands) :
    cutText eventNameMaxLen command = command := by
  have hshort : supportedCommands.all fun c => decide (c.length ≤ eventNameMaxLen - 1) := by
    decide +kernel
  exact cutText_of_length (of_decide_eq_true (List.all_eq_true.1 hshort command h))

theorem textsFit_of_valid (h : validateAction ctx action depth)
    (hkind : action.get "kind" = some (.string kind)) : TextsFit kind action := by
  rw [validateAction] at h
  split at h
  · cases h
  rw [hkind] at h
  constructor
  · rintro command rfl hcommand
    simp only [if_true] at h
    unfold validateCommandAction at h
    rw [hcommand] at h
    dsimp only at h
    split at h
    · cases h
    · next hsupported =>
        refine cutText_of_supported ?_
        simpa using hsupported
  rintro event rfl hevent
  simp only [hevent, String.reduceEq, if_false, if_true] at h
  split at h
  · next event' hget _ =>
      cases hget
      exact cutText_of_identifier (Bool.and_eq_true_iff.1 h).1
  · next event' members hget _ =>
      cases hget
      exact cutText_of_identifier (Bool.and_eq_true_iff.1 h).1
  · cases h

/-- The row of an action without branches is no choice, and adds at most a name. -/
theorem compileLeafAction_onlyNames {config : Option NodeConfig}
    (h : compileLeafAction config kind action b = .ok (row, b')) :
    b.OnlyNames b' ∧ row.kind ≠ .choose := by
  unfold compileLeafAction at h
  split at h
  · split at h
    · cases h
      exact ⟨.refl b, by simp⟩
    · cases h
  split at h
  · split at h
    · obtain ⟨happend, i, -, rfl⟩ := numbered h
      exact ⟨(appendStateKey_ok happend).1, by simp⟩
    · cases h
  split at h
  · split at h
    · obtain ⟨happend, i, -, rfl⟩ := numbered h
      exact ⟨(appendPhaseName_ok happend).1, by simp⟩
    · cases h
  split at h
  · split at h
    · cases h
      exact ⟨.refl b, by simp⟩
    · cases h
  split at h
  · split at h
    · obtain ⟨happend, i, -, rfl⟩ := numbered h
      exact ⟨(appendTimerName_ok' happend).1, by simp [startTimerAction]⟩
    · cases h
  split at h
  · split at h
    · obtain ⟨happend, i, -, rfl⟩ := numbered h
      exact ⟨(appendTimerName_ok' happend).1, by simp⟩
    · cases h
  · cases h

/-! ### What an action does, by name -/

theorem nameAt_eq {names : List String} {name : String} (h : names[i]? = some name) :
    nameAt names i = name := by
  rw [nameAt, h]
  rfl

theorem Bundle.named_setState {F : Bundle} (hF : F.WellNamed) {key : String}
    (h : F.stateKeys[i]? = some key) (s : EngineState) (value : ScalarValue) :
    F.named ({ s with states := Function.update s.states i value }.log
        (.setState (nameAt F.stateKeys i) value)) =
      { F.named s with states := Function.update (F.named s).states key value }.log
        (.setState key value) := by
  rw [nameAt_eq h]
  simp only [Bundle.named, RuleState.log, Lib.byName_update hF.stateKeys s.states {} h value]

theorem Bundle.named_setTimer {F : Bundle} (hF : F.WellNamed) (h : F.timerNames[i]? = some timer)
    (s : EngineState) (slot : TimerSlot) (effect : Effect) :
    F.named ({ s with timers := Function.update s.timers i slot }.log effect) =
      { F.named s with timers := Function.update (F.named s).timers timer slot }.log effect := by
  simp only [Bundle.named, RuleState.log, Lib.byName_update hF.timerNames s.timers {} h slot]

theorem Bundle.named_timers {F : Bundle} (hF : F.WellNamed) (s : EngineState)
    (h : F.timerNames[i]? = some timer) : (F.named s).timers timer = s.timers i :=
  Lib.byName_eq hF.timerNames s.timers {} h

theorem Bundle.timerIndex_lt {F : Bundle} (hF : F.WellNamed) (h : F.timerNames[i]? = some timer) :
    i < maxTimers := by
  rcases List.getElem?_eq_some_iff.1 h with ⟨hlt, -⟩
  exact Nat.lt_of_lt_of_le hlt hF.timerRoom

/-- The slot of a timer does not depend on which of its two delays was filled in
    by the compiler and which by the engine. -/
theorem startedSlot_eq (index : Nat) (mode : TimerMode) (durationMs intervalMs now : UInt32) :
    startedSlot mode (startTimerAction index mode durationMs intervalMs).durationMs
        (startTimerAction index mode durationMs intervalMs).intervalMs now =
      { active := true
        mode
        durationMs := if durationMs = 0 then intervalMs else durationMs
        intervalMs := if intervalMs = 0 then durationMs else intervalMs
        nextFireMs := now + if durationMs = 0 then intervalMs else durationMs } := by
  have hpos : ∀ n : UInt32, 0 < n ↔ n ≠ 0 := by
    intro n
    rw [UInt32.lt_iff_toNat_lt, Ne, ← UInt32.toNat_inj]
    exact Nat.pos_iff_ne_zero
  unfold startedSlot startTimerAction
  by_cases hd : durationMs = 0
  · by_cases hi : intervalMs = 0
    · simp [hd, hi]
    · simp [hd, hi, hpos]
  by_cases hi : intervalMs = 0
  · by_cases hm : mode = .repeat
    · simp [hd, hi, hm, hpos]
    · simp [hd, hi, hm, hpos]
  · simp [hd, hi, hpos]

theorem startTimer_runs {F : Bundle} (hF : F.WellNamed) (h : F.timerNames[i]? = some timer)
    (around : Surroundings) (event : RuleEvent Nat) (depth : Nat) (mode : TimerMode)
    (durationMs intervalMs : UInt32) (s : EngineState) :
    (EspErr.ok, treeStartTimer around timer mode durationMs intervalMs (F.named s)) =
      Prod.map id F.named (executeAction around F event (depth + 1)
        (startTimerAction i mode durationMs intervalMs) s) := by
  have hlt := Bundle.timerIndex_lt hF h
  have hindex : (startTimerAction i mode durationMs intervalMs).timerIndex = some i := rfl
  have hmode : (startTimerAction i mode durationMs intervalMs).timerMode = mode := rfl
  have hkind : (startTimerAction i mode durationMs intervalMs).kind = .startTimer := rfl
  simp only [executeAction, hkind, hindex, hmode, if_neg (Nat.not_le.2 hlt)]
  unfold treeStartTimer
  rw [Bundle.named_timers hF s h]
  by_cases hcool : mode = .cooldown ∧ (s.timers i).active
  · rw [if_pos hcool, if_pos hcool]
    rfl
  rw [if_neg hcool, if_neg hcool, startedSlot_eq]
  simp only [Prod.map, id, Bundle.named_setTimer hF h, nameAt_eq h]
  rfl

theorem leaf_runs {config : Option NodeConfig} {b b' F : Bundle}
    (h : compileLeafAction config kind action b = .ok (row, b')) (hnames : b'.NamesWithin F)
    (hF : F.WellNamed) (hfit : TextsFit kind action) (around : Surroundings)
    (event : RuleEvent Nat) (depth : Nat) (s : EngineState) :
    treeLeafAction around config kind action (F.named s) =
      Prod.map id F.named (executeAction around F event (depth + 1) row s) := by
  unfold compileLeafAction at h
  unfold treeLeafAction
  by_cases hcommand : kind = "command"
  · rw [if_pos hcommand] at h ⊢
    split at h
    · next command payload hget hpayload =>
        cases h
        simp only [hget, hpayload, executeAction, hfit.1 command hcommand hget]
        rfl
    · cases h
  rw [if_neg hcommand] at h ⊢
  by_cases hstate : kind = "set_state"
  · rw [if_pos hstate] at h ⊢
    split at h
    · next key value hget hvalue =>
        obtain ⟨-, k, hk, rfl⟩ := numbered h
        have hplace := Lib.getElem?_of_initial hnames.stateKeys hk
        have hlt := Bundle.stateIndex_lt hF hplace
        simp only [hget, hvalue, executeAction, if_neg (Nat.not_le.2 hlt), Prod.map, id,
          Bundle.named_setState hF hplace]
    · cases h
  rw [if_neg hstate] at h ⊢
  by_cases hphase : kind = "set_phase"
  · rw [if_pos hphase] at h ⊢
    split at h
    · next phase hget =>
        obtain ⟨-, k, hk, rfl⟩ := numbered h
        have hplace := Lib.getElem?_of_initial hnames.phaseNames hk
        simp [hget, executeAction, Prod.map, id, nameAt_eq hplace, Bundle.named, RuleState.log,
          hplace]
    · cases h
  rw [if_neg hphase] at h ⊢
  by_cases hemit : kind = "emit_event"
  · rw [if_pos hemit] at h ⊢
    split at h
    · next name payload hget hpayload =>
        cases h
        simp only [hget, hpayload, executeAction, hfit.2 name hemit hget]
        rfl
    · cases h
  rw [if_neg hemit] at h ⊢
  by_cases hstart : kind = "start_timer"
  · rw [if_pos hstart] at h ⊢
    split at h
    · next timer durationMs intervalMs hget hdelay =>
        obtain ⟨-, k, hk, rfl⟩ := numbered h
        have hplace := Lib.getElem?_of_initial hnames.timerNames hk
        simpa only [hget, hdelay] using startTimer_runs hF hplace around event depth _ _ _ s
    · cases h
  rw [if_neg hstart] at h ⊢
  by_cases hcancel : kind = "cancel_timer"
  · rw [if_pos hcancel] at h ⊢
    split at h
    · next timer hget =>
        obtain ⟨-, k, hk, rfl⟩ := numbered h
        have hplace := Lib.getElem?_of_initial hnames.timerNames hk
        have hlt := Bundle.timerIndex_lt hF hplace
        simp only [hget, executeAction, if_neg (Nat.not_le.2 hlt), Prod.map, id,
          Bundle.named_setTimer hF hplace, nameAt_eq hplace]
    · cases h
  · rw [if_neg hcancel] at h
    cases h

/-! ### Rows that stand for actions -/

/-- So many steps from a row on, which end at another row, stand for a list of
    actions. -/
inductive ActionsAt (config : Option NodeConfig) (F : Bundle) : List Json → Nat → Nat → Nat → Prop
  | nil (start : Nat) : ActionsAt config F [] start 0 start
  | leaf {action : Json} {kind : String} {rest : List Json} {start m stop : Nat} {b b' : Bundle}
      {row : CompiledAction} (hkind : action.get "kind" = some (.string kind))
      (hsequence : kind ≠ "sequence") (hchoose : kind ≠ "choose") (hfit : TextsFit kind action)
      (hcompile : compileLeafAction config kind action b = .ok (row, b'))
      (hnames : b'.NamesWithin F) (hrow : F.actions[start]? = some row)
      (hrest : ActionsAt config F rest (start + 1) m stop) :
      ActionsAt config F (action :: rest) start (m + 1) stop
  | sequence {action : Json} {actions rest : List Json} {start n mid m stop : Nat}
      (hkind : action.get "kind" = some (.string "sequence"))
      (hactions : action.get "actions" = some (.array actions))
      (hsequence : ActionsAt config F actions start n mid)
      (hrest : ActionsAt config F rest mid m stop) :
      ActionsAt config F (action :: rest) start (n + m) stop
  | choose {action condition : Json} {thenActions elseActions rest : List Json}
      {start conditionIndex thenStop elseStop m stop : Nat} {row : CompiledAction}
      (hkind : action.get "kind" = some (.string "choose"))
      (hcondition : selectedCondition action = some condition)
      (hthen : action.get "then" = some (.array thenActions))
      (helse : action.get "else" = none ∧ elseActions = [] ∨
        action.get "else" = some (.array elseActions))
      (hrow : F.actions[start]? = some row) (hrowKind : row.kind = .choose)
      (hindex : row.conditionIndex = some conditionIndex)
      (hconditionAt : CondAt config F conditionIndex condition)
      (hthenAt : ActionsAt config F thenActions row.thenActionStart row.thenActionCount thenStop)
      (helseAt : ActionsAt config F elseActions row.elseActionStart row.elseActionCount elseStop)
      (hthenBehind : start < row.thenActionStart)
      (helseBehind : 0 < row.elseActionCount → start < row.elseActionStart)
      (hnext : start < row.nextActionIndex)
      (hrest : ActionsAt config F rest row.nextActionIndex m stop) :
      ActionsAt config F (action :: rest) start (m + 1) stop

namespace ActionsAt

variable {config : Option NodeConfig} {F : Bundle}

theorem start_le {start n stop : Nat} (h : ActionsAt config F actions start n stop) :
    start ≤ stop := by
  induction h with
  | nil start => exact Nat.le_refl start
  | leaf _ _ _ _ _ _ _ _ ih => omega
  | sequence _ _ _ _ ihSequence ih => omega
  | choose _ _ _ _ _ _ _ _ _ _ _ _ hnext _ _ _ ih => omega

theorem append {actions actions' : List Json} {start n mid m stop : Nat}
    (h : ActionsAt config F actions start n mid) (h' : ActionsAt config F actions' mid m stop) :
    ActionsAt config F (actions ++ actions') start (n + m) stop := by
  induction h with
  | nil start =>
    rw [Nat.zero_add]
    exact h'
  | leaf hkind hsequence hchoose hfit hcompile hnames hrow _ ih =>
    rw [Nat.add_right_comm]
    exact .leaf hkind hsequence hchoose hfit hcompile hnames hrow (ih h')
  | sequence hkind hactions hsequence _ _ ih =>
    rw [Nat.add_assoc]
    exact .sequence hkind hactions hsequence (ih h')
  | choose hkind hcondition hthen helse hrow hrowKind hindex hconditionAt hthenAt helseAt
      hthenBehind helseBehind hnext _ _ _ ih =>
      rw [Nat.add_right_comm]
      exact .choose hkind hcondition hthen helse hrow hrowKind hindex hconditionAt hthenAt helseAt
        hthenBehind helseBehind hnext (ih h')

theorem steps {start n stop : Nat} (h : ActionsAt config F actions start n stop) :
    (nextActionIndex F)^[n] start = stop := by
  induction h with
  | nil start => rfl
  | leaf _ _ _ _ hcompile _ hrow _ ih =>
    have hkind := (compileLeafAction_onlyNames hcompile).2
    rw [Function.iterate_succ_apply]
    simp only [nextActionIndex, hrow, hkind, false_and, if_false]
    exact ih
  | sequence _ _ _ _ ihSequence ih =>
    rw [Nat.add_comm, Function.iterate_add_apply, ihSequence, ih]
  | choose _ _ _ _ hrow hrowKind _ _ _ _ _ _ hnext _ _ _ ih =>
    rw [Function.iterate_succ_apply]
    simp only [nextActionIndex, hrow, hrowKind, hnext, and_self, if_true]
    exact ih

end ActionsAt

/-! ### Running them -/

theorem executeActionRange_add (execute : CompiledAction → EngineState → EspErr × EngineState)
    (b : Bundle) (n m index : Nat) (s : EngineState) :
    executeActionRange execute b (n + m) index s =
      match executeActionRange execute b n index s with
      | (.ok, s) => executeActionRange execute b m ((nextActionIndex b)^[n] index) s
      | (err, s) => (err, s) := by
  induction n generalizing index s with
  | zero => rw [Nat.zero_add]; rfl
  | succ n ih =>
    rw [Nat.add_right_comm, executeActionRange, executeActionRange, Function.iterate_succ_apply]
    cases b.actions[index]? with
    | none => rfl
    | some action =>
      dsimp only
      -- An action that fails ends both loops.
      rcases execute action s with ⟨err, s'⟩
      cases err with
      | ok => exact ih (nextActionIndex b index) s'
      | _ => rfl

theorem treeActions_cons (around : Surroundings) (config : Option NodeConfig) (event : TreeEvent)
    (action : Json) (rest : List Json) (s : TreeState) :
    treeActions around config event (action :: rest) s =
      match treeAction around config event action s with
      | (.ok, s) => treeActions around config event rest s
      | (err, s) => (err, s) :=
  (treeActions.eq_2 ..).trans rfl

theorem treeAction_sequence (hkind : action.get "kind" = some (.string "sequence"))
    (hactions : action.get "actions" = some (.array actions)) (around : Surroundings)
    (config : Option NodeConfig) (event : TreeEvent) (s : TreeState) :
    treeAction around config event action s = treeActions around config event actions s := by
  rw [treeAction, hkind]
  simp only [if_true]
  split
  · next actions' hget =>
      rw [hactions] at hget
      cases hget
      rfl
  · next hget => exact absurd hactions (hget actions)

theorem treeAction_leaf (hkind : action.get "kind" = some (.string kind))
    (hsequence : kind ≠ "sequence") (hchoose : kind ≠ "choose") (around : Surroundings)
    (config : Option NodeConfig) (event : TreeEvent) (s : TreeState) :
    treeAction around config event action s = treeLeafAction around config kind action s := by
  rw [treeAction, hkind]
  simp only [if_neg hsequence, if_neg hchoose]

theorem treeAction_choose {action condition : Json} {thenActions elseActions : List Json}
    (hkind : action.get "kind" = some (.string "choose"))
    (hcondition : selectedCondition action = some condition)
    (hthen : action.get "then" = some (.array thenActions))
    (helse : action.get "else" = none ∧ elseActions = [] ∨
      action.get "else" = some (.array elseActions)) (around : Surroundings)
    (config : Option NodeConfig) (event : TreeEvent) (s : TreeState) :
    treeAction around config event action s =
      if treeCondition config s event condition then
        treeActions around config event thenActions s
      else treeActions around config event elseActions s := by
  rw [treeAction, hkind]
  simp only [String.reduceEq, if_false, if_true, hcondition]
  by_cases htrue : treeCondition config s event condition
  · rw [if_pos htrue, if_pos htrue]
    split
    · next actions hget =>
        rw [hthen] at hget
        cases hget
        rfl
    · next hget => exact absurd hthen (hget thenActions)
  rw [if_neg htrue, if_neg htrue]
  rcases helse with ⟨hnone, rfl⟩ | hsome
  · split
    · next actions hget =>
        rw [hnone] at hget
        cases hget
    · rw [treeActions]
  split
  · next actions hget =>
      rw [hsome] at hget
      cases hget
      rfl
  · next hget => exact absurd hsome (hget elseActions)

theorem named_andThen {F : Bundle} (r : EspErr × EngineState)
    {more : EngineState → EspErr × EngineState} {treeMore : TreeState → EspErr × TreeState}
    (h : ∀ s, treeMore (F.named s) = Prod.map id F.named (more s)) :
    (match Prod.map id F.named r with
      | (.ok, s) => treeMore s
      | (err, s) => (err, s)) =
      Prod.map id F.named (match r with
        | (.ok, s) => more s
        | (err, s) => (err, s)) := by
  rcases r with ⟨err, s⟩
  cases err with
  | ok => exact h s
  | _ => rfl

theorem ActionsAt.runs {config : Option NodeConfig} {F : Bundle} (hF : F.WellNamed)
    (around : Surroundings) (event : RuleEvent Nat) {start n stop : Nat}
    (h : ActionsAt config F actions start n stop) (hdepth : F.actions.length ≤ start + depth)
    (s : EngineState) : treeActions around config (event.named F) actions (F.named s) =
      Prod.map id F.named (executeActionRange (executeAction around F event depth) F n start s) := by
  induction h generalizing depth s with
  | nil start =>
    rw [treeActions, executeActionRange]
    rfl
  | @leaf action kind rest start m stop b b' row hkind hsequence hchoose hfit hcompile hnames hrow
      _ ih =>
      rcases List.getElem?_eq_some_iff.1 hrow with ⟨hlt, -⟩
      obtain ⟨depth, rfl⟩ : ∃ d, depth = d + 1 := ⟨depth - 1, by omega⟩
      have hrowKind := (compileLeafAction_onlyNames hcompile).2
      have hnext : nextActionIndex F start = start + 1 := by
        simp [nextActionIndex, hrow, hrowKind]
      rw [treeActions_cons, treeAction_leaf hkind hsequence hchoose,
        leaf_runs hcompile hnames hF hfit around event depth s, executeActionRange, hrow]
      rw [hnext]
      exact named_andThen _ fun s => ih (by omega) s
  | @sequence action actions rest start n mid m stop hkind hactions hsequence hrest ihSequence ih =>
    have hle := hsequence.start_le
    rw [treeActions_cons, treeAction_sequence hkind hactions, ihSequence hdepth,
      executeActionRange_add, hsequence.steps]
    exact named_andThen _ fun s => ih (by omega) s
  | @choose action condition thenActions elseActions rest start conditionIndex thenStop elseStop m
      stop row hkind hcondition hthen helse hrow hrowKind hindex hconditionAt hthenAt helseAt
      hthenBehind helseBehind hnext hrest ihThen ihElse ih =>
      rcases List.getElem?_eq_some_iff.1 hrow with ⟨hlt, -⟩
      obtain ⟨depth, rfl⟩ : ∃ d, depth = d + 1 := ⟨depth - 1, by omega⟩
      have hgo : nextActionIndex F start = row.nextActionIndex := by
        simp [nextActionIndex, hrow, hrowKind, hnext]
      have htest := hconditionAt.matches hF s event (Nat.le_add_left _ conditionIndex)
      rw [treeActions_cons, treeAction_choose hkind hcondition hthen helse, executeActionRange, hrow]
      rw [hgo]
      -- The branch that is taken lies behind its choice.
      have hbranch : (if treeCondition config (F.named s) (event.named F) condition then
            treeActions around config (event.named F) thenActions (F.named s)
          else treeActions around config (event.named F) elseActions (F.named s)) =
          Prod.map id F.named (executeAction around F event (depth + 1) row s) := by
        rw [executeAction, hrowKind]
        rw [hindex, htest]
        by_cases htrue : treeCondition config (F.named s) (event.named F) condition
        · rw [if_pos htrue, if_pos htrue]
          exact ihThen (by omega) s
        rw [if_neg htrue, if_neg htrue]
        by_cases hcount : 0 < row.elseActionCount
        · have hbehind := helseBehind hcount
          rw [if_pos hcount]
          exact ihElse (by omega) s
        have hzero : row.elseActionCount = 0 := Nat.eq_zero_of_not_pos hcount
        have hnone := ihElse (Nat.le_add_left _ _) s
        rw [if_neg hcount, hnone, hzero]
        rfl
      rw [hbranch]
      exact named_andThen _ fun s => ih (by omega) s

/-! ### Compiling actions -/

/-- Compiling actions adds names and rows. -/
structure Bundle.Grows (b b' : Bundle) : Prop where
  names : b.NamesGrow b'
  conditions : b.conditions <+: b'.conditions
  actions : b.actions <+: b'.actions

theorem Bundle.Grows.refl (b : Bundle) : b.Grows b := ⟨.refl b, List.prefix_rfl, List.prefix_rfl⟩

theorem Bundle.Grows.trans {b b' b'' : Bundle} (h : b.Grows b') (h' : b'.Grows b'') : b.Grows b'' :=
  ⟨h.names.trans h'.names, h.conditions.trans h'.conditions, h.actions.trans h'.actions⟩

/-- A bundle that keeps what was compiled, of the actions those from `start` on. -/
structure Bundle.HoldsActions (F : Bundle) (start : Nat) (b : Bundle) : Prop where
  names : b.NamesWithin F
  conditions : b.conditions <+: F.conditions
  actions : ∀ i row, start ≤ i → b.actions[i]? = some row → F.actions[i]? = some row

theorem Bundle.HoldsActions.of_grows {F b b' : Bundle} {start start' : Nat}
    (h : F.HoldsActions start b') (hgrow : b.Grows b') (hle : start ≤ start') :
    F.HoldsActions start' b :=
  ⟨hgrow.names.within.trans h.names, hgrow.conditions.trans h.conditions, fun i row hi hrow =>
    h.actions i row (Nat.le_trans hle hi) (Lib.getElem?_of_initial hgrow.actions hrow)⟩

/-- What compiling a list of actions yields, in so many steps. -/
structure CompiledActions (config : Option NodeConfig) (actions : List Json) (b : Bundle) (n : Nat)
    (b' : Bundle) : Prop where
  grow : b.Grows b'
  at_rows : ∀ F : Bundle, F.HoldsActions b.actions.length b' →
    ActionsAt config F actions b.actions.length n b'.actions.length

theorem CompiledActions.append {config : Option NodeConfig} {actions actions' : List Json}
    {b b' b'' : Bundle} {n m : Nat} (h : CompiledActions config actions b n b')
    (h' : CompiledActions config actions' b' m b'') :
    CompiledActions config (actions ++ actions') b (n + m) b'' := by
  have hle : b.actions.length ≤ b'.actions.length := h.grow.actions.length_le
  refine ⟨h.grow.trans h'.grow, fun F hF => ?_⟩
  have hfirst := h.at_rows F (hF.of_grows h'.grow (le_rfl))
  exact hfirst.append (h'.at_rows F (hF.of_grows (.refl b'') hle))

theorem compiledActions_leaf {config : Option NodeConfig}
    (hkind : action.get "kind" = some (.string kind)) (hsequence : kind ≠ "sequence")
    (hchoose : kind ≠ "choose") (hfit : TextsFit kind action)
    (hcompile : compileLeafAction config kind action b = .ok (row, b')) :
    CompiledActions config [action] b 1 (b'.pushAction row) := by
  rcases compileLeafAction_onlyNames hcompile with ⟨honly, -⟩
  have hpush := b'.pushAction_names row
  have hrows : (b'.pushAction row).actions = b.actions ++ [row] :=
    congrArg (· ++ [row]) honly.actions
  have hlength : (b'.pushAction row).actions.length = b.actions.length + 1 := by
    rw [hrows, List.length_append]
    rfl
  have hlast : (b'.pushAction row).actions[b.actions.length]? = some row := by
    rw [hrows]
    exact List.getElem?_concat_length
  refine ⟨⟨honly.names.trans hpush, ?_, ?_⟩, fun F hF => ?_⟩
  · exact honly.conditions ▸ List.prefix_rfl
  · rw [hrows]
    exact List.prefix_append _ _
  rw [hlength]
  exact .leaf hkind hsequence hchoose hfit hcompile (hpush.within.trans hF.names)
    (hF.actions _ row (le_rfl) hlast) (.nil _)

theorem collectActions_spec_of {config : Option NodeConfig}
    (hactions : ∀ action ∈ actions, ∀ (nesting count count' : Nat) (b b' : Bundle),
      validateAction ctx action depth →
      collectAction config action nesting count b = .ok (count', b') →
      ∃ n, count' = count + n ∧ CompiledActions config [action] b n b')
    (hvalid : validateActions ctx actions depth) {nesting count count' : Nat}
    (h : collectActions config actions nesting count b = .ok (count', b')) :
    ∃ n, count' = count + n ∧ CompiledActions config actions b n b' := by
  induction actions generalizing count b with
  | nil =>
    rw [collectActions] at h
    cases h
    exact ⟨0, rfl, .refl _, fun F _ => .nil _⟩
  | cons action rest ih =>
    rw [collectActions] at h
    rw [validateActions, Bool.and_eq_true] at hvalid
    split at h
    · next count₁ b₁ hcollect =>
        rcases hactions action List.mem_cons_self nesting count count₁ b b₁ hvalid.1 hcollect with
          ⟨n, rfl, hfirst⟩
        rcases ih (fun action' hmem => hactions action' (.tail _ hmem)) hvalid.2 h
          with ⟨m, rfl, hrest⟩
        exact ⟨n + m, Nat.add_assoc _ _ _, hfirst.append hrest⟩
    · cases h

/-- What is kept from a row on is kept behind it, as it was before that row was
    filled in. -/
theorem Bundle.HoldsActions.behind {F b : Bundle} {i start : Nat}
    (h : F.HoldsActions i (b.setAction i row)) (hstart : i < start) : F.HoldsActions start b := by
  refine ⟨(b.setAction_names i row).within.trans h.names, h.conditions, fun k r hk hr => ?_⟩
  refine h.actions k r (by omega) ?_
  rw [Bundle.setAction, List.getElem?_set_ne (by omega)]
  exact hr

/-- The row of a choice, filled in when its branches have been compiled. -/
theorem compiledActions_choose {config : Option NodeConfig} {action condition : Json}
    {thenActions elseActions : List Json} {b b₁ b₂ b₃ : Bundle}
    {conditionIndex thenCount elseStart elseCount : Nat}
    (hkind : action.get "kind" = some (.string "choose"))
    (hcondition : selectedCondition action = some condition)
    (hthen : action.get "then" = some (.array thenActions))
    (helse : action.get "else" = none ∧ elseActions = [] ∨
      action.get "else" = some (.array elseActions))
    (hcompiled : Compiled config condition (b.pushAction { kind := .choose }) conditionIndex b₁)
    (hthenC : CompiledActions config thenActions b₁ thenCount b₂) (hgrow : b₂.Grows b₃)
    (helseAt : ∀ F : Bundle, F.HoldsActions b₂.actions.length b₃ →
      ∃ elseStop, ActionsAt config F elseActions elseStart elseCount elseStop)
    (helseBehind : 0 < elseCount → b.actions.length < elseStart) :
    CompiledActions config [action] b 1 (b₃.setAction b.actions.length
      { kind := .choose, conditionIndex := some conditionIndex
        thenActionStart := b₁.actions.length, thenActionCount := thenCount
        elseActionStart := elseStart, elseActionCount := elseCount
        nextActionIndex := b₃.actions.length }) := by
  have hfirst : b₁.actions = b.actions ++ [{ kind := .choose }] := hcompiled.grow.actions
  have hlength : b₁.actions.length = b.actions.length + 1 := by
    rw [hfirst, List.length_append]
    rfl
  have hthenLength := hthenC.grow.actions.length_le
  have helseLength := hgrow.actions.length_le
  -- The row of the choice itself is the only one that is written twice.
  have hbefore : b.actions <+: b₃.actions := by
    refine List.IsPrefix.trans ?_ (hthenC.grow.actions.trans hgrow.actions)
    rw [hfirst]
    exact List.prefix_append _ _
  refine ⟨⟨?_, ?_, ?_⟩, fun F hF => ?_⟩
  · exact (b.pushAction_names _).trans (hcompiled.grow.names.trans
      (hthenC.grow.names.trans (hgrow.names.trans (b₃.setAction_names _ _))))
  · exact hcompiled.grow.kept.initial.trans
      (hthenC.grow.conditions.trans hgrow.conditions)
  · rw [List.prefix_iff_getElem?]
    intro i hi
    rw [Bundle.setAction, List.getElem?_set_ne (by omega)]
    exact Lib.getElem?_of_initial hbefore (List.getElem?_eq_getElem hi)
  have hrow := hF.actions _ _ (le_rfl)
    (List.getElem?_set_self (by omega : b.actions.length < b₃.actions.length))
  have hbehind : F.HoldsActions b₁.actions.length b₃ := hF.behind (by omega)
  have hthenF := hbehind.of_grows hgrow (le_rfl)
  have hconditionF := hthenF.of_grows hthenC.grow (le_rfl)
  rcases helseAt F (hF.behind (by omega)) with ⟨elseStop, helseF⟩
  have hlast : (b₃.setAction b.actions.length
      { kind := .choose, conditionIndex := some conditionIndex
        thenActionStart := b₁.actions.length, thenActionCount := thenCount
        elseActionStart := elseStart, elseActionCount := elseCount
        nextActionIndex := b₃.actions.length }).actions.length = b₃.actions.length :=
    List.length_set
  rw [hlast]
  exact .choose hkind hcondition hthen helse hrow rfl rfl
    (hcompiled.at_row F ⟨hconditionF.names, .of_initial _ _ hconditionF.conditions⟩)
    (hthenC.at_rows F hthenF) helseF (by dsimp only; omega) helseBehind
    (by dsimp only; omega) (.nil _)

theorem validateAction_choose {thenActions : List Json} (h : validateAction ctx action depth)
    (hkind : action.get "kind" = some (.string "choose"))
    (hthen : action.get "then" = some (.array thenActions)) :
    validateActions ctx thenActions (depth + 1) ∧ ∀ elseActions,
      action.get "else" = some (.array elseActions) →
      validateActions ctx elseActions (depth + 1) := by
  rw [validateAction] at h
  split at h
  · cases h
  rw [hkind] at h
  simp only [String.reduceEq, if_false, if_true] at h
  split at h
  · next condition' thenActions' _ hget hnone =>
      rw [hthen] at hget
      cases hget
      simp only [Bool.and_eq_true, validateActionsArray] at h
      refine ⟨h.2.2, fun elseActions helse => ?_⟩
      rw [hnone] at helse
      cases helse
  · next condition' thenActions' elseActions' _ hget hget' =>
      rw [hthen] at hget
      cases hget
      simp only [Bool.and_eq_true, validateActionsArray] at h
      refine ⟨h.1.2.2, fun elseActions helse => ?_⟩
      rw [hget'] at helse
      cases helse
      exact h.2.2
  · cases h

theorem validateAction_sequence (h : validateAction ctx action depth)
    (hkind : action.get "kind" = some (.string "sequence"))
    (hactions : action.get "actions" = some (.array actions)) :
    validateActions ctx actions (depth + 1) := by
  rw [validateAction] at h
  split at h
  · cases h
  rw [hkind] at h
  simp only [String.reduceEq, if_false, if_true] at h
  split at h
  · next actions' hget =>
      rw [hactions] at hget
      cases hget
      rw [validateActionsArray, Bool.and_eq_true] at h
      exact h.2
  · cases h

/-- What compiling the actions below an action yields. -/
def CompilesBelow (ctx : SchemaContext) (config : Option NodeConfig) (action : Json) : Prop :=
  ∀ (name : String) (actions : List Json) (depth nesting count count' : Nat) (b b' : Bundle),
    action.get name = some (.array actions) → validateActions ctx actions depth →
    collectActions config actions nesting count b = .ok (count', b') →
    ∃ n, count' = count + n ∧ CompiledActions config actions b n b'

theorem compileAction_spec {config : Option NodeConfig} (hbelow : CompilesBelow ctx config action)
    (hvalid : validateAction ctx action depth) (hkind : action.get "kind" = some (.string kind))
    (hsequence : kind ≠ "sequence") (h : compileAction config action b = .ok b') :
    CompiledActions config [action] b 1 b' := by
  rw [compileAction] at h
  split at h
  · cases h
  split at h
  · cases h
  rw [hkind] at h
  dsimp only at h
  split at h
  · next hchoose =>
      subst hchoose
      split at h
      · next condition thenActions hcondition hthen =>
          have hvalid' := validateAction_choose hvalid hkind hthen
          split at h
          · cases h
          · next conditionIndex b₁ hcompile =>
              have hcompiled := compileCondition_spec hcompile
              have hfirst : b₁.actions.length = b.actions.length + 1 := by
                rw [hcompiled.grow.actions, Bundle.pushAction, List.length_append]
                rfl
              split at h
              · cases h
              · next thenCount b₂ hcollect =>
                  rcases hbelow _ _ _ _ _ _ _ _ hthen hvalid'.1 hcollect with ⟨n, hn, hthenC⟩
                  have hcount : thenCount = n := hn.trans (Nat.zero_add n)
                  subst hcount
                  split at h
                  · next helse =>
                      cases h
                      exact compiledActions_choose hkind hcondition hthen (Or.inl ⟨helse, rfl⟩)
                        hcompiled hthenC (.refl b₂) (fun F _ => ⟨0, .nil 0⟩)
                        (fun hlt => absurd hlt (Nat.lt_irrefl 0))
                  · next elseActions helse =>
                      split at h
                      · cases h
                      · next elseCount b₃ hcollect' =>
                          cases h
                          rcases hbelow _ _ _ _ _ _ _ _ helse (hvalid'.2 _ helse) hcollect' with
                            ⟨m, hm, helseC⟩
                          have hcount : elseCount = m := hm.trans (Nat.zero_add m)
                          subst hcount
                          have hle := hthenC.grow.actions.length_le
                          exact compiledActions_choose hkind hcondition hthen (Or.inr helse)
                            hcompiled hthenC helseC.grow
                            (fun F hF => ⟨_, helseC.at_rows F hF⟩) (fun _ => by omega)
                  · cases h
      · cases h
  · next hchoose =>
      split at h
      · next row b₁ hleaf =>
          cases h
          exact compiledActions_leaf hkind hsequence hchoose (textsFit_of_valid hvalid hkind) hleaf
      · cases h

theorem collectAction_spec {config : Option NodeConfig} {depth nesting count count' : Nat}
    (hvalid : validateAction ctx action depth)
    (h : collectAction config action nesting count b = .ok (count', b')) :
    ∃ n, count' = count + n ∧ CompiledActions config [action] b n b' := by
  induction hsize : action.nodes using Nat.strong_induction_on
    generalizing action depth nesting count count' b b' with
  | _ size ih =>
    -- What is below an action is smaller, so it compiles as it should.
    have hbelow : CompilesBelow ctx config action := by
      intro name actions depth nesting count count' b b' hget hvalid h
      refine collectActions_spec_of ?_ hvalid h
      intro action' hmem nesting count count' b b' hvalid' h'
      have hlt := Json.nodes_mem hmem
      have hlt' := Json.nodes_get_array hget
      exact ih _ (by omega) hvalid' h' rfl
    rw [collectAction] at h
    split at h
    · cases h
    split at h
    · cases h
    split at h
    · next kind hkind =>
        split at h
        · next hsequence =>
            subst hsequence
            split at h
            · next actions hactions =>
                have hvalid' := validateAction_sequence hvalid hkind hactions
                rcases hbelow _ _ _ _ _ _ _ _ hactions hvalid' h with ⟨n, hcount, hcompiled⟩
                refine ⟨n, hcount, hcompiled.grow, fun F hF => ?_⟩
                exact .sequence hkind hactions (hcompiled.at_rows F hF) (.nil _)
            · cases h
        · next hsequence =>
            split at h
            · next b₁ hcompile =>
                cases h
                exact ⟨1, rfl, compileAction_spec hbelow hvalid hkind hsequence hcompile⟩
            · cases h
    · cases h

theorem collectActions_spec {config : Option NodeConfig} {depth nesting count count' : Nat}
    (hvalid : validateActions ctx actions depth)
    (h : collectActions config actions nesting count b = .ok (count', b')) :
    ∃ n, count' = count + n ∧ CompiledActions config actions b n b' :=
  collectActions_spec_of (fun _ _ _ _ _ _ _ hvalid' h' => collectAction_spec hvalid' h') hvalid h

end SceneHub.Node
