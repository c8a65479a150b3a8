import Mathlib.Logic.Relation
import SceneHub.Node.EnginePoll

/-!
# What an Event Does to the Engine

However rules are nested, what an event does to the engine is a sequence of few kinds of steps, each
of which lets out one effect. What every such step keeps is kept by events, and what relates the
states around every step relates the states around an event.

## Main definitions

* `EngineStep`: A command, an event that goes out, or a state, phase or timer that is set.

## Theorems

* `dispatchEvent_steps`: What an event does is a sequence of steps.
* `dispatchEvent_inputs`: It leaves the inputs alone.
-/

namespace SceneHub.Node

open Relation (ReflTransGen)

variable {around : Surroundings} {b : Bundle} {active : Option Bundle} {event : RuleEvent Nat}

/-- A step of an engine. What is done to timers is what a row of the bundle says. -/
inductive EngineStep (around : Surroundings) (active : Option Bundle) (s : EngineState) :
    EngineState → Prop
  | command (command payload : String) :
    EngineStep around active s (s.log (.command command payload))
  | emit (event payload : String) : EngineStep around active s (s.log (.emit event payload))
  | setState (key : Nat) (value : ScalarValue) (name : String) :
    EngineStep around active s
      ({ s with states := Function.update s.states key value }.log (.setState name value))
  | setPhase (phase : Option Nat) (name : String) :
    EngineStep around active s ({ s with phase }.log (.setPhase name))
  | startTimer (b : Bundle) (action : CompiledAction) (key : Nat) (hactive : active = some b)
    (hmem : action ∈ b.actions) (hkey : action.timerIndex = some key)
    (hfree : ¬ (action.timerMode = .cooldown ∧ (s.timers key).active = true)) :
    EngineStep around active s
      ({ s with timers := Function.update s.timers key (startedSlot action.timerMode
          action.durationMs action.intervalMs (around.nowMs s.effects)) }.log
        (.startTimer (nameAt b.timerNames key) (startedSlot action.timerMode action.durationMs
          action.intervalMs (around.nowMs s.effects))))
  | cancelTimer (b : Bundle) (action : CompiledAction) (key : Nat) (hactive : active = some b)
    (hmem : action ∈ b.actions) (hkey : action.timerIndex = some key) :
    EngineStep around active s
      ({ s with timers := Function.update s.timers key {} }.log
        (.cancelTimer (nameAt b.timerNames key)))

/-- An engine that gets to another in steps. -/
abbrev EngineSteps (around : Surroundings) (active : Option Bundle) :
    EngineState → EngineState → Prop :=
  ReflTransGen (EngineStep around active)

theorem executeActionRange_steps {execute : CompiledAction → EngineState → EspErr × EngineState}
    (hexecute : ∀ action ∈ b.actions, ∀ s, EngineSteps around active s (execute action s).2)
    (count index : Nat) (s : EngineState) :
    EngineSteps around active s (executeActionRange execute b count index s).2 := by
  induction count generalizing index s with
  | zero => exact .refl
  | succ count ih =>
    unfold executeActionRange
    cases hrow : b.actions[index]? with
    | none => exact .refl
    | some action =>
      have hfirst := hexecute action (List.mem_of_getElem? hrow) s
      dsimp only
      split
      · next s' heq =>
          rw [heq] at hfirst
          exact hfirst.trans (ih _ s')
      · next err s' hne heq =>
          rw [heq] at hfirst
          exact hfirst

/-- What an action does is a sequence of steps, one of them unless it is a choice. -/
theorem executeAction_steps (depth : Nat) {action : CompiledAction} (hmem : action ∈ b.actions)
    (s : EngineState) :
    EngineSteps around (some b) s (executeAction around b event depth action s).2 := by
  induction depth generalizing action s with
  | zero => exact .refl
  | succ depth ih =>
    unfold executeAction
    cases hkind : action.kind with
    | command => exact .single (.command action.command action.payloadJson)
    | setState =>
      cases hindex : action.stateIndex with
      | none => exact .refl
      | some key =>
        dsimp only
        split
        · exact .refl
        · exact .single (.setState key action.value _)
    | setPhase => exact .single (.setPhase action.phaseIndex _)
    | emitEvent => exact .single (.emit action.eventName action.payloadJson)
    | startTimer =>
      cases hkey : action.timerIndex with
      | none => exact .refl
      | some key =>
        dsimp only
        split
        · exact .refl
        split
        · exact .refl
        · next hfree => exact .single (.startTimer b action key rfl hmem hkey hfree)
    | cancelTimer =>
      cases hkey : action.timerIndex with
      | none => exact .refl
      | some key =>
        dsimp only
        split
        · exact .refl
        · exact .single (.cancelTimer b action key rfl hmem hkey)
    | choose =>
      dsimp only
      split
      · exact executeActionRange_steps (fun action hmem s => ih hmem s) _ _ s
      split
      · exact executeActionRange_steps (fun action hmem s => ih hmem s) _ _ s
      · exact .refl
    | none => exact .refl

theorem dispatchRule_steps (s : EngineState) (rule : CompiledRule) :
    EngineSteps around (some b) s (dispatchRule around b event s rule) := by
  unfold dispatchRule
  split
  · exact executeActionRange_steps (fun action hmem s => executeAction_steps _ hmem s) _ _ s
  · exact .refl

theorem publishLocalEvent_steps (s : EngineState) :
    EngineSteps around active s (publishLocalEvent around event s) := by
  unfold publishLocalEvent
  split
  · exact .refl
  split
  · exact .refl
  · exact .single (.emit event.eventName (localEventJson event))

theorem dispatchEvent_steps (s : EngineState) :
    EngineSteps around active s (dispatchEvent around active event s).2 := by
  have hrules (b : Bundle) (rules : List CompiledRule) (s : EngineState) :
      EngineSteps around (some b) s (rules.foldl (dispatchRule around b event) s) := by
    induction rules generalizing s with
    | nil => exact .refl
    | cons rule rules ih => exact (dispatchRule_steps s rule).trans (ih _)
  have hlocal : EngineSteps around active s (publishLocalEvent around event s) :=
    publishLocalEvent_steps s
  unfold dispatchEvent
  split
  · exact .refl
  dsimp only
  split
  · exact hlocal
  cases active with
  | none => exact hlocal
  | some b => exact hlocal.trans (hrules b b.rules _)

theorem EngineStep.inputs {s s' : EngineState} (h : EngineStep around active s s') :
    s'.inputs = s.inputs := by
  cases h <;> rfl

theorem EngineSteps.inputs {s s' : EngineState} (h : EngineSteps around active s s') :
    s'.inputs = s.inputs := by
  induction h with
  | refl => rfl
  | tail _ hstep ih => rw [hstep.inputs, ih]

theorem dispatchEvent_inputs (around : Surroundings) (active : Option Bundle)
    (event : RuleEvent Nat) (s : EngineState) :
    (dispatchEvent around active event s).2.inputs = s.inputs :=
  (dispatchEvent_steps s).inputs

end SceneHub.Node
