import SceneHub.Session.BranchEvent

/-!
# The Session Summary

`gm_room_session_scenario_update_summary_from_branches_locked` of
`gm_room_session.c`: the choice of the branch whose fields the session shows,
and the overall state.

## Main definitions

* `SummaryScan`: The locals of the loop over the branches.
* `summaryScan`: The loop, left at the first failed normal branch.
* `updateSummary`: The whole function.
-/

namespace SceneHub

structure SummaryScan where
  fallback : Option Branch := none
  selected : Option Branch := none
  reactiveSelected : Option Branch := none
  anyActive : Bool := false
  anyRequiredActive : Bool := false
  allRequiredDone : Bool := true
  anyRunning : Bool := false
  deriving DecidableEq, Repr

def Branch.state (b : Branch) : ScenarioState := b.run.progress.scenarioState

def Branch.isReactive (b : Branch) : Bool := b.setup.type = .reactive

/-- A normal branch becomes the fallback if there is none yet, or if it is the
    first required one. -/
def takesFallback (fallback : Option Branch) (b : Branch) : Bool :=
  !b.isReactive &&
  match fallback with
  | none => true
  | some f => !f.setup.requiredForCompletion && b.setup.requiredForCompletion

/-- The part of the loop body in front of the error check. -/
def SummaryScan.meet (acc : SummaryScan) (b : Branch) : SummaryScan :=
  { acc with
    anyActive := true
    fallback := if takesFallback acc.fallback b then some b else acc.fallback }

/-- The part of the loop body behind the error check. -/
def SummaryScan.note (acc : SummaryScan) (b : Branch) : SummaryScan :=
  { acc with
    selected :=
      if acc.selected.isNone ∧ !b.isReactive ∧ (b.state = .waiting ∨ b.state = .running) then some b
      else acc.selected
    reactiveSelected :=
      if acc.reactiveSelected.isNone ∧ b.isReactive ∧
          (b.state = .waiting ∨ b.state = .running ∨ b.state = .cooldown) then some b
      else acc.reactiveSelected
    anyRunning :=
      acc.anyRunning ||
        (!b.isReactive && (b.state = .running || b.state = .waiting || b.state = .cooldown))
    anyRequiredActive :=
      acc.anyRequiredActive || (!b.isReactive && b.setup.requiredForCompletion)
    allRequiredDone :=
      acc.allRequiredDone &&
        !(!b.isReactive && b.setup.requiredForCompletion && b.state ≠ .done) }

/-- The loop over the branches. A failed normal branch is selected and ends it. -/
def summaryScan : SummaryScan → List Branch → SummaryScan
  | acc, [] => acc
  | acc, b :: rest =>
    if !b.setup.active then summaryScan acc rest
    else if b.state = .error then
      if !b.isReactive then { acc.meet b with selected := some b }
      else summaryScan
        { acc.meet b with reactiveSelected := acc.reactiveSelected.or (some b) } rest
    else summaryScan ((acc.meet b).note b) rest

/-- The branch whose fields are loaded. -/
def SummaryScan.choice (scan : SummaryScan) : Option Branch :=
  scan.selected.or (scan.fallback.or scan.reactiveSelected)

/-- The three tests that make the overall state `DONE`. -/
def SummaryScan.isDone (scan : SummaryScan) : Bool :=
  !scan.anyActive || (scan.anyRequiredActive && scan.allRequiredDone) ||
  (!scan.anyRunning && scan.choice.any fun b => b.state = .done)

/-- `gm_room_session_scenario_update_summary_from_branches_locked`. -/
def updateSummary (branches : List Branch) (s : SessionRun) : SessionRun :=
  if branches = [] then s
  else if s.progress.scenarioState = .error then s
  else
    let scan := summaryScan {} branches
    let progress := (scan.choice.map fun b => b.run.progress).getD s.progress
    { s with progress :=
        { progress with
          scenarioState := if scan.isDone then .done else progress.scenarioState } }

end SceneHub
