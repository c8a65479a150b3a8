import Mathlib.Tactic.Common

/-!
# Runs

A system takes steps that are possible in some states and not in others. A run is
a list of steps, and it leads from a state to another if every step is possible
where it is taken. As every front of a run is a run, what holds at the end of all
runs holds in every state they pass.

Some properties hold only as long as nothing untoward happens. What may happen is
a condition on a step and the state before it, and a run is asked to meet it in
every step. An invariant is then something that a step keeps that meets it.

## Main definitions

* `run`: The state behind a list of steps.
* `EachStep`: Every step of a run meets a condition.

## Theorems

* `run_cons`, `run_cons_some`, `run_append`: Runs one step, and one run, after the other.
* `invariant_of_steps`: What each step keeps holds behind every run.
* `invariant_of_run`: The same for steps and runs that meet a condition.
* `run_part`: A part of the system whose steps are its own takes a run of its own.
-/

namespace SceneHub.Lib

variable {σ α : Type} {step : σ → α → Option σ} {cond : σ → α → Prop}

/-- The state behind a list of steps, if each of them is possible. -/
def run (step : σ → α → Option σ) : σ → List α → Option σ
  | s, [] => some s
  | s, act :: acts => match step s act with
    | none => none
    | some s' => run step s' acts

/-- Every step of a run meets a condition in the state before it. -/
def EachStep (step : σ → α → Option σ) (cond : σ → α → Prop) : σ → List α → Prop
  | _, [] => True
  | s, act :: acts => cond s act ∧ match step s act with
    | none => True
    | some s' => EachStep step cond s' acts

instance EachStep.decide [∀ s act, Decidable (cond s act)] : (s : σ) → (acts : List α) →
    Decidable (EachStep step cond s acts)
  | _, [] => inferInstanceAs (Decidable True)
  | s, act :: acts =>
    have : Decidable (match step s act with
        | none => True
        | some s' => EachStep step cond s' acts) :=
      match step s act with
      | none => inferInstanceAs (Decidable True)
      | some s' => EachStep.decide s' acts
    inferInstanceAs (Decidable (_ ∧ _))

theorem run_cons {s s' : σ} {act : α} (h : step s act = some s') (acts : List α) :
    run step s (act :: acts) = run step s' acts := by
  rw [run, h]

/-- A run takes its first step, and goes on from where that leads. -/
theorem run_cons_some {s s' : σ} {act : α} {acts : List α} (h : run step s (act :: acts) = some s') :
    ∃ next, step s act = some next ∧ run step next acts = some s' := by
  cases hnext : step s act with
  | none =>
    rw [run, hnext] at h
    cases h
  | some next => exact ⟨next, rfl, run_cons hnext acts ▸ h⟩

theorem eachStep_cons {s s' : σ} {act : α} (h : step s act = some s') (acts : List α) :
    EachStep step cond s (act :: acts) ↔ cond s act ∧ EachStep step cond s' acts := by
  rw [EachStep, h]

theorem run_append {s s' : σ} {acts : List α} (h : run step s acts = some s') (more : List α) :
    run step s (acts ++ more) = run step s' more := by
  induction acts generalizing s with
  | nil =>
    cases h
    rfl
  | cons act acts ih =>
    rcases run_cons_some h with ⟨next, hnext, hrest⟩
    rw [List.cons_append, run_cons hnext]
    exact ih hrest

/-- A run whose steps all meet a condition, cut in two. -/
theorem EachStep.of_append {s s' : σ} {acts more : List α} (h : run step s acts = some s')
    (heach : EachStep step cond s (acts ++ more)) :
    EachStep step cond s acts ∧ EachStep step cond s' more := by
  induction acts generalizing s with
  | nil =>
    cases h
    exact ⟨trivial, heach⟩
  | cons act acts ih =>
    rcases run_cons_some h with ⟨next, hnext, hrest⟩
    rw [List.cons_append, eachStep_cons hnext] at heach
    rcases ih hrest heach.2 with ⟨hfirst, hsecond⟩
    exact ⟨(eachStep_cons hnext acts).2 ⟨heach.1, hfirst⟩, hsecond⟩

/-- A run that meets a condition takes steps that all have a property. -/
theorem EachStep.and {P : α → Prop} {s : σ} {acts : List α} (h : EachStep step cond s acts)
    (hall : ∀ act ∈ acts, P act) : EachStep step (fun s act => P act ∧ cond s act) s acts := by
  induction acts generalizing s with
  | nil => exact trivial
  | cons act acts ih =>
    unfold EachStep at h ⊢
    refine ⟨⟨hall act List.mem_cons_self, h.1⟩, ?_⟩
    cases hnext : step s act with
    | none => trivial
    | some next =>
      rw [hnext] at h
      exact ih h.2 fun other hother => hall other (List.mem_cons_of_mem act hother)

/-- What each step keeps that meets the condition holds behind every run that does. -/
theorem invariant_of_run {Inv : σ → Prop}
    (hstep : ∀ s act s', Inv s → cond s act → step s act = some s' → Inv s')
    {acts : List α} {s s' : σ} (hs : Inv s) (heach : EachStep step cond s acts)
    (hrun : run step s acts = some s') : Inv s' := by
  induction acts generalizing s with
  | nil =>
    cases hrun
    exact hs
  | cons act acts ih =>
    rcases run_cons_some hrun with ⟨next, hnext, hrest⟩
    rw [eachStep_cons hnext] at heach
    exact ih (hstep s act next hs heach.1 hnext) heach.2 hrest

/-- What each step keeps holds behind every run. -/
theorem invariant_of_steps {Inv : σ → Prop}
    (hstep : ∀ s act s', Inv s → step s act = some s' → Inv s') {acts : List α} {s s' : σ}
    (hs : Inv s) (hrun : run step s acts = some s') : Inv s' := by
  induction acts generalizing s with
  | nil =>
    cases hrun
    exact hs
  | cons act acts ih =>
    rcases run_cons_some hrun with ⟨next, hnext, hrest⟩
    exact ih (hstep s act next hs hnext) hrest

/-- A part of a system that changes with some of the steps only, and then by what it was before
    and what the step does to it: behind a run it is where its own steps lead. -/
theorem run_part {τ β : Type} {part : σ → τ} {own : α → Option β} {stepOwn : τ → β → Option τ}
    {Inv : σ → Prop} (hkeep : ∀ s act s', Inv s → step s act = some s' → Inv s')
    (hown : ∀ s act s' b, Inv s → step s act = some s' → own act = some b →
      stepOwn (part s) b = some (part s'))
    (hother : ∀ s act s', Inv s → step s act = some s' → own act = none → part s' = part s)
    {acts : List α} {s s' : σ} (hs : Inv s) (hrun : run step s acts = some s') :
    run stepOwn (part s) (acts.filterMap own) = some (part s') := by
  induction acts generalizing s with
  | nil => rw [← Option.some.inj hrun, List.filterMap_nil, run]
  | cons act acts ih =>
    rcases run_cons_some hrun with ⟨next, hnext, hrun⟩
    have hrest := ih (hkeep s act next hs hnext) hrun
    cases hact : own act with
    | none => rw [List.filterMap_cons_none hact, ← hother s act next hs hnext hact, hrest]
    | some b =>
      rw [List.filterMap_cons_some hact, run_cons (hown s act next b hs hnext hact), hrest]

end SceneHub.Lib
