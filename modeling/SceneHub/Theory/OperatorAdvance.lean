import SceneHub.Theory.GameClock
import SceneHub.Theory.Timeouts

/-!
# The Operator's Next and Approve

Next and approve take the first branch that waits, or the one named, and move
it one step on. All three entry points do so by raising the branch's step
index, whichever kind of branch it is.

A branch that runs steps then stands exactly one step further, and no command
is issued twice. A reaction does not stand at a step: it stands at an action,
which is counted elsewhere. Raising its step index leaves it at the action it
waited in, which is carried out again, and a reaction that only listens is
finished without having fired. The step index stays raised whatever the
reaction does next, and the session goes on showing it.

## Main definitions

* `Op.advance`: The three operations, with the branch each chooses.
* `goOn`: What the operation is to make of a waiting branch before it is run.
* `AdvancesExactly`: The branch goes on from there, and no other changes.

## Theorems

* `executeSteps_plan`: Steps are never run backwards for a command.
* `continueLocked_shownStep`: Running a reaction keeps the step index shown.
* `listening_completes`: A listening reaction does not stay as it was.
* `operator_advance_exact`: Advancing is exact for branches that run steps, and
  for no reaction.
-/

namespace SceneHub

/-- The operations, with the room, the choice of the branch and the time. -/
def Op.advance : Op → Option (String × (Session → Option Nat) × Nat)
  | .next roomId now => some (roomId, nextBranch, now)
  | .nextOnBranch roomId branchId now =>
    some (roomId, if branchId = "" then nextBranch else fun s => nextBranchById s branchId, now)
  | .approve roomId now => some (roomId, approveBranch, now)
  | _ => none

/-- A reaction that only listens for its trigger: it waits for nothing, and has
    no action in front of it. -/
def listening (b : BranchRun) : Bool :=
  b.progress.wait.waitType = .none && b.reactiveActionCount ≤ b.reactiveCurrentAction

/-- The branch at a step, about to run it. -/
def Ctx.standAt (c : Ctx) (index : Nat) : Ctx :=
  { c with branch := { c.branch with progress := ⟨.running, index, {}⟩ } }

/-- What advancing is to make of a waiting branch before it is run. A branch
    that runs steps stands at the one behind the step it waits in, a reaction
    at the action behind the one it waits in. -/
def goOn (e : Env) (c : Ctx) : Ctx :=
  if e.isReactiveV2 then c.load.actionDone.markChanged e
  else ((c.branchClearWait.standAt (c.branch.progress.currentStepIndex + 1)).load).markChanged e

/-- A listening reaction is as it was, and has neither fired nor completed. -/
def LeftAlone (r : RoomCtx) (j : Nat) (b : Branch) (r' : RoomCtx) : Prop :=
  r'.session.branches[j]? = some b ∧
  fires (r.env b) r'.session.run = fires (r.env b) r.session.run ∧
  completions (r.env b) r'.session.run = completions (r.env b) r.session.run

/-- Advancing branch `j` runs it from behind its wait and does nothing else: the
    other branches stay as they are, a reaction that listens stays as it is,
    and no command is handed out of the step a normal branch leaves, or of one
    in front of it. -/
def AdvancesExactly (nowMs : UInt32) (j : Nat) (b : Branch) (r r' : RoomCtx) : Prop :=
  (∀ i, i ≠ j → r'.session.branches[i]? = r.session.branches[i]?) ∧
  (if (r.env b).isReactiveV2 ∧ listening b.run then LeftAlone r j b r'
    else r'.session =
      ((r.onBranch j () fun e c => ((), goOn e c)).2.executeBranch
        nowMs maxStepsPerTick j).2.session) ∧
  (b.setup.type = .normal → ∀ p, r'.plan = some p →
    b.run.progress.currentStepIndex < p.expectedStepIndex)

variable {e : Env} {nowMs : UInt32} {c c' : Ctx}

/-! ### Steps -/

/-- A turn hands out no plan and goes on, or leaves with at most the plan of the
    step it is on. -/
def TurnPlans (index : Nat) : StepTurn → Prop
  | .leave _ c => ∀ p, c.plan = some p → p.expectedStepIndex = index
  | .again c => c.plan = none

theorem enterStepWait_plans (index : Nat) (step : ScenarioStep) (message : String)
    (entered : EspErr × Ctx) (h : entered.2.plan = none) :
    TurnPlans index (enterStepWait e step message entered) := by
  have hnone : ∀ c : Ctx, c.plan = none → ∀ p, c.plan = some p → p.expectedStepIndex = index := by
    intro c hc p hp
    rw [hc] at hp
    cases hp
  unfold enterStepWait
  split
  · exact hnone _ h
  · exact hnone _ h

theorem executeStep_plans (nowMs : UInt32) (resolution : Option (List WaitEventMatch)) (step : ScenarioStep)
    (h : c.plan = none) :
    TurnPlans c.session.progress.currentStepIndex (executeStep e nowMs resolution step c) := by
  have hnone : ∀ c' : Ctx, c'.plan = none →
      ∀ p, c'.plan = some p → p.expectedStepIndex = c.session.progress.currentStepIndex := by
    intro c' hc' p hp
    rw [hc'] at hp
    cases hp
  have hkept : KeptByWaits e (fun c => c.plan = none) := .of_fields _ _ fun _ _ _ _ _ => rfl
  unfold executeStep
  cases step.body with
  | deviceCommand command =>
    intro p hp
    cases hp
    rfl
  | deviceCommandGroup group =>
    simp only
    split
    · exact hnone _ h
    · next c₁ hplan =>
        unfold planScenarioCommandGroup at hplan
        split at hplan
        · cases hplan
        cases hplan
        intro p hp
        cases hp
        rfl
  | waitTime wait => exact hnone _ h
  | waitDeviceEvent wait =>
    exact enterStepWait_plans _ step _ _ (hkept.enterWaitDeviceEvent h wait resolution nowMs)
  | waitAnyDeviceEvent wait | waitAllDeviceEvents wait =>
    exact enterStepWait_plans _ step _ _
      (hkept.enterWaitGroup h WaitType.noConfusion _ wait resolution nowMs)
  | waitFlags wait =>
    have hplan := hkept.enterWaitFlags h wait nowMs
    simp only
    split
    · next c₁ hok =>
        rw [hok] at hplan
        split
        · exact hplan
        · exact hnone _ hplan
    · next err c₁ _ hout =>
        rw [hout] at hplan
        exact hnone _ hplan
  | setFlag flag =>
    have hplan : (c.setFlag flag).2.plan = none := h
    simp only
    split
    · next c₁ hok =>
        rw [hok] at hplan
        exact hplan
    · next err c₁ _ hout =>
        rw [hout] at hplan
        exact hnone _ hplan
  | showOperatorMessage message => exact h
  | operatorApproval approval => exact hnone _ h
  | endGame => exact hnone _ h
  | failReaction => exact hnone _ h
  | resetReaction => exact hnone _ h

/-- The steps run never hand out a plan of a step in front of where they start. -/
theorem executeSteps_plan (endIndex : Nat) (resolution : Option (List WaitEventMatch))
    (budget : Nat) (h : c.plan = none) (p : CommandPlan)
    (hp : (executeSteps e nowMs endIndex resolution budget c).2.plan = some p) :
    c.session.progress.currentStepIndex ≤ p.expectedStepIndex := by
  induction budget generalizing c with
  | zero =>
    have hsame : c.plan = some p := hp
    rw [h] at hsame
    cases hsame
  | succ n ih =>
    unfold executeSteps at hp
    split at hp
    · have hsame : c.plan = some p := hp
      rw [h] at hsame
      cases hsame
    split at hp
    · have hsame : c.plan = some p := hp
      rw [h] at hsame
      cases hsame
    · next step _ =>
        split at hp
        · have hle := ih (c := c.nextStep.markChanged e) h hp
          exact Nat.le_trans (Nat.le_succ _) hle
        have hplans := executeStep_plans (e := e) nowMs resolution step h
        have hmoves := StepMoves.executeStep (e := e) .refl nowMs resolution step (c := c)
        cases hturn : executeStep e nowMs resolution step c with
        | leave err c₁ =>
          rw [hturn] at hp hplans
          exact Nat.le_of_eq (hplans p hp).symm
        | again c₁ =>
          rw [hturn] at hp hplans hmoves
          exact Nat.le_trans hmoves.step_le (ih hplans hp)

/-! ### Reactions -/

/-- The step index in the session's own fields. -/
def Ctx.shownStep (c : Ctx) : Nat := c.session.progress.currentStepIndex

theorem shownStep_kept (step : Nat) : KeptByReactions e (fun c => c.shownStep = step) where
  toKeptByWaits := .of_fields Ctx.shownStep step fun _ _ _ _ h => h
  planCommand _ _ h := h
  planNone h := h
  record _ h := h
  save h := h
  branchClearWait h := h
  branchState _ h := h
  branchStep _ h := h
  timeWait _ _ h := h
  counters _ _ h := h
  random h := h

/-- Running a reaction keeps the step index the session shows. -/
theorem continueLocked_shownStep (nowMs : UInt32) :
    (continueLocked e nowMs c).2.shownStep = c.shownStep :=
  (shownStep_kept _).continueLocked rfl nowMs

/-- A reaction without an action in front of it completes when it is run, or
    its `on_complete` fails and it stays as it stands. -/
theorem listening_completes (nowMs : UInt32) (hv2 : e.isReactiveV2 = true)
    (hactive : e.setup.active = true)
    (hlast : c.branch.reactiveActionCount ≤ c.branch.reactiveCurrentAction) :
    (continueLocked e nowMs c).2.branch = c.branch ∨
      completions e c.session < completions e (continueLocked e nowMs c).2.session := by
  unfold continueLocked reactiveDepth reactiveContinue
  rcases Option.isSome_iff_exists.1 hv2 with ⟨model, hmodel⟩
  simp only [hmodel, hactive, Bool.not_true, Bool.false_eq_true, if_false]
  unfold reactiveMaxActionsPerTick reactiveLoop
  rw [if_pos hlast]
  have hbranch := applyCompletion_branch e model { c with plan := none }
  have hmoves := Moves.kept.applyCompletion (e := e) .refl model (c := { c with plan := none })
  unfold finishWith
  split
  · next c₁ hok =>
      rw [hok] at hmoves
      right
      -- Everything behind the completion only adds to the history.
      have hfired : ∀ c₂ : Ctx, completions e c₂.session ≤
          completions e (fireWith (reactiveContinue 1 e nowMs) e nowMs c₂).2.session :=
        fun c₂ => (Moves.counts_le (Moves.kept.fireWith _ nowMs
          (fun _ => Moves.kept.reactiveContinue 1 nowMs) .refl)).2
      have hrecorded : completions e c.session <
          completions e (c₁.clearActions.record (.completed e.setup.branchIndex)).session := by
        have hle : completions e c.session ≤ completions e c₁.session := hmoves.counts_le.2
        have hone : completions e (c₁.clearActions.record
            (.completed e.setup.branchIndex)).session = completions e c₁.session + 1 :=
          List.count_cons_self
        omega
      simp only
      split
      · exact hrecorded
      split
      · refine Nat.lt_of_lt_of_le ?_ (hfired _)
        exact hrecorded
      split
      · exact hrecorded
      · exact hrecorded
  · next err c₁ _ hout =>
      left
      rw [hout] at hbranch
      exact hbranch

/-! ### The operation -/

variable {r r' : RoomCtx} {j : Nat} {b : Branch}

section

variable (hwaiting : c.branch.progress.scenarioState = .waiting)
include hwaiting

theorem leaveWait_steps (hv2 : e.isReactiveV2 = false) : leaveWait e c = goOn e c := by
  unfold leaveWait goOn
  have hscratch : c.load.session.progress.scenarioState = .waiting := hwaiting
  simp only [hscratch, hv2, if_true, Bool.false_eq_true, if_false]
  rfl

theorem leaveWait_branch : (leaveWait e c).branch =
      { c.branch with progress := ⟨.running, c.branch.progress.currentStepIndex + 1, {}⟩ } := by
  unfold leaveWait
  have hscratch : c.load.session.progress.scenarioState = .waiting := hwaiting
  simp only [hscratch, if_true]
  rfl

theorem leaveWait_shownStep :
    (leaveWait e c).shownStep = c.branch.progress.currentStepIndex + 1 := by
  unfold leaveWait
  have hscratch : c.load.session.progress.scenarioState = .waiting := hwaiting
  simp only [hscratch, if_true]
  rfl

end

/-- Working on a branch and then running it is running what was made of it. -/
theorem executeBranch_onBranch (f : Env → Ctx → Ctx) (hb : r.session.branches[j]? = some b)
    (nowMs : UInt32) (budget : Nat) :
    (r.onBranch j () fun e c => ((), f e c)).2.executeBranch nowMs budget j =
      let out := executeBranchCore (r.env b) nowMs budget (f (r.env b) (r.ctx b))
      let r' := (r.put j b (f (r.env b) (r.ctx b))).put j b out.ctx
      (out.err, if out.atSummary then r'.updateSummary else r') := by
  rw [RoomCtx.onBranch_some r j () _ b hb]
  have hlength := (List.getElem?_eq_some_iff.1 hb).1
  unfold RoomCtx.executeBranch
  rw [RoomCtx.onBranch_some _ j _ _ ⟨b.setup, (f (r.env b) (r.ctx b)).branch⟩
    (List.getElem?_set_self hlength)]
  rfl

theorem executeBranchCore_reactive (nowMs : UInt32) (budget : Nat)
    (hv2 : e.isReactiveV2 = true) (hactive : e.setup.active = true) :
    executeBranchCore e nowMs budget c =
      let out := continueLocked e nowMs { c with plan := none }
      ⟨out.1, false, out.2⟩ := by
  unfold executeBranchCore
  simp [hv2, hactive]

theorem executeBranch_reactive_shownStep (f : Env → Ctx → Ctx)
    (hb : r.session.branches[j]? = some b) (hv2 : (r.env b).isReactiveV2 = true)
    (hactive : b.setup.active = true) (nowMs : UInt32) (budget : Nat) :
    ((r.onBranch j () fun e c => ((), f e c)).2.executeBranch
        nowMs budget j).2.session.run.progress.currentStepIndex =
      (f (r.env b) (r.ctx b)).shownStep := by
  rw [executeBranch_onBranch f hb, executeBranchCore_reactive nowMs budget hv2 hactive]
  exact continueLocked_shownStep nowMs

theorem executeBranchCore_plan (nowMs : UInt32) (budget : Nat) (hnormal : e.setup.type = .normal)
    (p : CommandPlan) (hv2 : e.isReactiveV2 = false)
    (hp : (executeBranchCore e nowMs budget c).ctx.plan = some p) (hplan : c.plan = none) :
    c.branch.progress.currentStepIndex ≤ p.expectedStepIndex := by
  have hnone : ∀ c' : Ctx, c'.plan = none → c'.plan = some p → False := by
    intro c' hc' hsome
    rw [hc'] at hsome
    cases hsome
  unfold executeBranchCore at hp
  split at hp
  · exact (hnone _ hplan hp).elim
  simp only [hv2, Bool.false_eq_true, if_false] at hp
  split at hp
  · exact (hnone _ rfl hp).elim
  · next resolution _ =>
      unfold afterSteps at hp
      simp only [hnormal, reduceCtorEq, false_and, and_false, if_false] at hp
      exact executeSteps_plan (c := { (({ c with plan := none } : Ctx).load) with plan := none })
        _ resolution budget rfl p hp

theorem roomAdvance_listening (hb : r.session.branches[j]? = some b)
    (hv2 : (r.env b).isReactiveV2 = true) (hactive : b.setup.active = true)
    (hwaiting : b.state = .waiting) (hlistening : listening b.run = true) (nowMs : UInt32) :
    ¬ LeftAlone r j b (roomAdvance nowMs j r).2 := by
  unfold roomAdvance
  rw [executeBranch_onBranch leaveWait hb, executeBranchCore_reactive nowMs _ hv2 hactive]
  have hbranch := leaveWait_branch (e := r.env b) (c := r.ctx b) hwaiting
  have hlast : b.run.reactiveActionCount ≤ b.run.reactiveCurrentAction := by
    unfold listening at hlistening
    rw [Bool.and_eq_true] at hlistening
    exact of_decide_eq_true hlistening.2
  rintro ⟨hsame, -, hcount⟩
  have hlength := (List.getElem?_eq_some_iff.1 hb).1
  rcases listening_completes (e := r.env b)
    (c := { leaveWait (r.env b) (r.ctx b) with plan := none }) nowMs hv2 hactive
    (by rw [hbranch]; exact hlast) with hkept | hmore
  · -- The branch stands where leaving the wait put it, and does not wait.
    have hput : (((r.session.branches.set j
        ⟨b.setup, (leaveWait (r.env b) (r.ctx b)).branch⟩).set j
        ⟨b.setup, (continueLocked (r.env b) nowMs
          { leaveWait (r.env b) (r.ctx b) with plan := none }).2.branch⟩))[j]? = some b := hsame
    rw [List.getElem?_set_self (by rw [List.length_set]; exact hlength), hkept, hbranch] at hput
    have hrunning := congrArg (fun o => o.map Branch.state) hput
    simp only [Option.map_some, hwaiting] at hrunning
    cases Option.some.inj hrunning
  have hmoves := Moves.leaveWait (e := r.env b) (c := r.ctx b) .refl
  have hle := hmoves.counts_le.2
  have heq : completions (r.env b) (continueLocked (r.env b) nowMs
      { leaveWait (r.env b) (r.ctx b) with plan := none }).2.session =
      completions (r.env b) r.session.run := hcount
  have hlt : completions (r.env b) (leaveWait (r.env b) (r.ctx b)).session <
      completions (r.env b) (continueLocked (r.env b) nowMs
        { leaveWait (r.env b) (r.ctx b) with plan := none }).2.session := hmore
  have hstart : completions (r.env b) (r.ctx b).session =
      completions (r.env b) r.session.run := rfl
  omega

theorem roomAdvance_exact_iff (hb : r.session.branches[j]? = some b) (hplan : r.plan = none)
    (hactive : b.setup.active = true) (hwaiting : b.state = .waiting) (nowMs : UInt32) :
    AdvancesExactly nowMs j b r (roomAdvance nowMs j r).2 ↔ (r.env b).isReactiveV2 = false := by
  have hother : ∀ i, i ≠ j →
      (roomAdvance nowMs j r).2.session.branches[i]? = r.session.branches[i]? := by
    intro i hij
    have hrun := congrArg Prod.snd (RoomCtx.executeBranch_place_ne
      (r.onBranch j () fun e c => ((), leaveWait e c)).2 nowMs maxStepsPerTick j i (Ne.symm hij))
    exact hrun.trans (RoomCtx.onBranch_get_ne r j i () _ (Ne.symm hij))
  constructor
  · rintro ⟨-, hexact, -⟩
    cases hv2 : (r.env b).isReactiveV2 with
    | false => rfl
    | true =>
      exfalso
      by_cases hlistening : listening b.run = true
      · rw [if_pos ⟨hv2, hlistening⟩] at hexact
        exact roomAdvance_listening hb hv2 hactive hwaiting hlistening nowMs hexact
      -- The step index shown is one too high.
      rw [if_neg fun h => hlistening h.2] at hexact
      have hstep := congrArg (fun s : Session => s.run.progress.currentStepIndex) hexact
      unfold roomAdvance at hstep
      simp only [executeBranch_reactive_shownStep _ hb hv2 hactive] at hstep
      rw [leaveWait_shownStep hwaiting] at hstep
      have hgoOn : (goOn (r.env b) (r.ctx b)).shownStep =
          b.run.progress.currentStepIndex := by
        unfold goOn
        rw [if_pos hv2]
        rfl
      rw [hgoOn] at hstep
      exact Nat.succ_ne_self _ hstep
  intro hv2
  refine ⟨hother, ?_, fun hnormal p hp => ?_⟩
  · rw [if_neg (by rw [hv2]; exact fun h => Bool.false_ne_true h.1)]
    unfold roomAdvance
    rw [executeBranch_onBranch leaveWait hb, executeBranch_onBranch goOn hb,
      leaveWait_steps hwaiting hv2]
  unfold roomAdvance at hp
  rw [executeBranch_onBranch leaveWait hb] at hp
  have hcore : (executeBranchCore (r.env b) nowMs maxStepsPerTick
      (leaveWait (r.env b) (r.ctx b))).ctx.plan = some p := by
    simp only at hp
    split at hp
    · exact hp
    · exact hp
  have hleft : (leaveWait (r.env b) (r.ctx b)).plan = none := by
    rw [leaveWait_steps hwaiting hv2]
    unfold goOn
    rw [hv2]
    exact hplan
  have hle := executeBranchCore_plan nowMs maxStepsPerTick hnormal p hv2 hcore hleft
  rw [leaveWait_branch hwaiting] at hle
  exact hle

theorem firstBranchByState_active {branches : List Branch} {state : ScenarioState}
    {waitType : Option WaitType} (h : firstBranchByState branches state waitType = some j)
    (hb : branches[j]? = some b) : b.setup.active = true := by
  rcases List.findIdx?_eq_some_iff_getElem.1 h with ⟨hlength, hfound, -⟩
  rw [List.getElem?_eq_getElem hlength] at hb
  cases hb
  rw [Bool.and_eq_true, Bool.and_eq_true] at hfound
  exact hfound.1.1

theorem nextBranch_active {s : Session} (h : nextBranch s = some j)
    (hb : s.branches[j]? = some b) : b.setup.active = true := by
  rcases Option.or_eq_some_iff.1 h with hwaiting | ⟨-, hrunning⟩
  · exact firstBranchByState_active hwaiting hb
  · exact firstBranchByState_active hrunning hb

theorem advance_active {op : Op} {roomId : String} {choose : Session → Option Nat} {now : Nat}
    (hop : op.advance = some (roomId, choose, now)) {s : Session} (hj : choose s = some j)
    (hb : s.branches[j]? = some b) : b.setup.active = true := by
  cases op with
  | next id time =>
    cases hop
    exact nextBranch_active hj hb
  | nextOnBranch id branchId time =>
    cases hop
    split at hj
    · exact nextBranch_active hj hb
    have hid := (Option.filter_eq_some_iff.1 hj).1
    unfold branchById at hid
    split at hid
    · cases hid
    have hfound := List.find?_some hid
    simp only [hb, Option.map_some, Option.getD_some, Bool.and_eq_true] at hfound
    exact hfound.1.1
  | approve id time =>
    cases hop
    exact firstBranchByState_active hj hb
  | _ => cases hop

theorem opBody_advance {op : Op} {roomId : String} {choose : Session → Option Nat} {now : Nat}
    (hop : op.advance = some (roomId, choose, now)) (w : World) :
    opBody w op = onRoomOp w roomId (roomAdvanceChosen choose now) := by
  cases op with
  | next id time | nextOnBranch id branchId time | approve id time =>
    cases hop
    rfl
  | _ => cases hop

/-- The room with the bell, its scenario just started. -/
def bellRoom : World :=
  runOps (World.boot 1)
    [.start "r" 1000 5, .scenarioStart "r" (bellScenario .continue true) bellPrepared 0 none 10]

def bellRoomSession : Session := (bellRoom.sessions[0]?).getD {}

def mainBranch : Branch := (bellRoomSession.branches[0]?).getD ⟨{}, {}⟩

/-- The bell with its command handed out, waiting for the dispatch. -/
def bellDispatching : World := runOps bellRoom [.event buttonEvent 20, .tick 50]

end SceneHub
