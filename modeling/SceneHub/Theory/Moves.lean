import Mathlib.Logic.Relation
import SceneHub.Session.World

/-!
# What a Branch Function Is Made Of

Every function that works on one branch is a chain of a few primitive moves:
clearing or writing the scratch wait, changing a state or a step index, loading
and saving, setting a flag. A fact about a branch function that each move
preserves therefore holds of the function, and this file proves the chains
once so that later files only look at the moves.

The moves come in two layers. A step move changes the scratch fields, the lock
and the plan but not the branch, and running the steps of a branch makes no
other. The remaining moves are those that touch the branch.

The one function left out is `enterWaitCommandResult`, by which a branch comes
to await a request id. It is called from a single place and treated there.

## Main definitions

* `StepMove`, `StepMoves`: A primitive that leaves the branch alone, and chains.
* `Move`, `Moves`: All primitives, and chains.

## Theorems

* `StepMoves.executeScenario`: Running steps is a chain of step moves.
* `StepMoves.branch_eq`, `StepMoves.step_le`: It changes no branch and never
  goes back.
* `Moves.continueLocked`, `Moves.fireLocked`: Running a reaction is a chain.
* `Moves.executeBranchCore`, `Moves.processBranch`, `Moves.branchOnEvent`: So
  is everything else a transaction does to a branch.
-/

namespace SceneHub

open Relation (ReflTransGen)

/-- A primitive that leaves the branch alone. -/
inductive StepMove (e : Env) : Ctx → Ctx → Prop where
  | mark (c : Ctx) : StepMove e c (c.markChanged e)
  | state (c : Ctx) (state : ScenarioState) : StepMove e c (c.setState state)
  | clearWait (c : Ctx) : StepMove e c c.clearWait
  | nextStep (c : Ctx) : StepMove e c c.nextStep
  | wait (c : Ctx) (wait : Wait) (h : wait.waitType ≠ .deviceCommandResult)
      (hactivation : wait.activation = 0 ∨
        wait.activation = c.session.progress.wait.activation) :
      StepMove e c (c.setWait wait)
  | skip (c : Ctx) (step : ScenarioStep) : StepMove e c (c.setWaitSkip step)
  | dispatch (c : Ctx) (nowMs : UInt32) : StepMove e c (enterWaitCommandDispatch nowMs c)
  | plan (c : Ctx) (plan : Option CommandPlan)
      (hroom : ∀ p, plan = some p → p.roomId = e.roomId) : StepMove e c { c with plan := plan }
  | message (c : Ctx) (message : String) : StepMove e c (c.setMessage message)
  | lastError (c : Ctx) (message : String) :
      StepMove e c { c with session := { c.session with scenarioLastError := message } }
  | flag (c : Ctx) (flag : Flag) : StepMove e c (c.setFlag flag).2
  | finish (c : Ctx) (nowMs : UInt32) :
      StepMove e c
        { c with session :=
          { c.session with
            state := .finished
            finishedAtMs := nowMs.toNat
            timer := c.session.timer.finish nowMs.toNat } }
  | record (c : Ctx) (event : HistoryEvent) : StepMove e c (c.record event)

abbrev StepMoves (e : Env) : Ctx → Ctx → Prop := ReflTransGen (StepMove e)

/-- Any primitive. The last two change what no wait or state is kept in. -/
inductive Move (e : Env) : Ctx → Ctx → Prop where
  | step {c c' : Ctx} (h : StepMove e c c') : Move e c c'
  | load (c : Ctx) : Move e c c.load
  | save (c : Ctx) : Move e c c.save
  | branchClearWait (c : Ctx) : Move e c c.branchClearWait
  | branchState (c : Ctx) (state : ScenarioState) : Move e c (c.setBranchState state)
  | branchStep (c : Ctx) (index : Nat) : Move e c (c.setBranchStep index)
  | timeWait (c : Ctx) (startedAtMs untilMs : UInt32) :
      Move e c
        { c with branch :=
          { c.branch with progress :=
            { c.branch.progress with wait :=
              { c.branch.progress.wait with
                waitType := .time, waitStartedAtMs := startedAtMs, waitUntilMs := untilMs } } } }
  | counters (c : Ctx) (b : BranchRun) (h : b.progress = c.branch.progress) :
      Move e c { c with branch := b }
  | random (c : Ctx) : Move e c { c with lock := c.lock.random.2 }

abbrev Moves (e : Env) : Ctx → Ctx → Prop := ReflTransGen (Move e)

variable {e : Env} {a c c' : Ctx}

/-! ### What waits and reactions keep -/

/-- What survives all that entering a wait and completing do to the shared fields. -/
structure KeptByWaits (e : Env) (P : Ctx → Prop) : Prop where
  mark {c : Ctx} : P c → P (c.markChanged e)
  setState {c : Ctx} (state : ScenarioState) : P c → P (c.setState state)
  clearWait {c : Ctx} : P c → P c.clearWait
  setWait {c : Ctx} (wait : Wait) (hw : wait.waitType ≠ .deviceCommandResult)
    (hactivation : wait.activation = 0) : P c → P (c.setWait wait)
  setMessage {c : Ctx} (message : String) : P c → P (c.setMessage message)
  lastError {c : Ctx} (message : String) :
    P c → P { c with session := { c.session with scenarioLastError := message } }
  setFlag {c : Ctx} (flag : Flag) : P c → P (c.setFlag flag).2

/-- What survives, besides, all that running a reaction does to the branch. -/
structure KeptByReactions (e : Env) (P : Ctx → Prop) : Prop extends KeptByWaits e P where
  planCommand {c : Ctx} (kind : PlanKind) (nowMs : UInt32) :
    P c → P (planReactiveCommand e kind nowMs c)
  planNone {c : Ctx} : P c → P { c with plan := none }
  record {c : Ctx} (event : HistoryEvent) : P c → P (c.record event)
  save {c : Ctx} : P c → P c.save
  branchClearWait {c : Ctx} : P c → P c.branchClearWait
  branchState {c : Ctx} (state : ScenarioState) : P c → P (c.setBranchState state)
  branchStep {c : Ctx} (index : Nat) : P c → P (c.setBranchStep index)
  timeWait {c : Ctx} (startedAtMs untilMs : UInt32) :
    P c → P
      { c with branch :=
        { c.branch with progress :=
          { c.branch.progress with wait :=
            { c.branch.progress.wait with
              waitType := .time, waitStartedAtMs := startedAtMs, waitUntilMs := untilMs } } } }
  counters {c : Ctx} (b : BranchRun) (hb : b.progress = c.branch.progress) :
    P c → P { c with branch := b }
  random {c : Ctx} : P c → P { c with lock := c.lock.random.2 }

/-- The context a turn of the action loop ends with. -/
def ReactiveTurn.ctx : ReactiveTurn → Ctx
  | .leave _ c => c
  | .again c => c

variable {P : Ctx → Prop}

namespace KeptByWaits

/-- A part of the state that is neither in the lock nor in the session is kept, and so are the
    history and the step index. -/
theorem of_fields {α : Type} (f : Ctx → α) (x : α)
    (hf : ∀ (c : Ctx) (lock : Lock) (session : SessionRun),
      session.history = c.session.history →
      session.progress.currentStepIndex = c.session.progress.currentStepIndex →
      f { c with lock := lock, session := session } = f c) :
    KeptByWaits e (fun c => f c = x) where
  mark h := (hf _ _ _ (by rfl) (by rfl)).trans h
  setState _ h := (hf _ _ _ (by rfl) (by rfl)).trans h
  clearWait h := (hf _ _ _ (by rfl) (by rfl)).trans h
  setWait _ _ _ h := (hf _ _ _ (by rfl) (by rfl)).trans h
  setMessage _ h := (hf _ _ _ (by rfl) (by rfl)).trans h
  lastError _ h := (hf _ _ _ (by rfl) (by rfl)).trans h
  setFlag {c} flag h :=
    (hf c (c.setFlag flag).2.lock (c.setFlag flag).2.session rfl rfl).trans h

variable (hP : KeptByWaits e P)
include hP

theorem setError (h : P c) (message : String) : P (c.setError e message) :=
  hP.mark (hP.lastError message (hP.clearWait (hP.setState .error h)))

theorem enterWait (h : P c) (wait : Wait) (hw : wait.waitType ≠ .deviceCommandResult)
    (hactivation : wait.activation = 0) : P (c.enterWait e wait) :=
  hP.mark (hP.setWait wait hw hactivation (hP.clearWait (hP.setState .waiting h)))

theorem enterWaitDeviceEvent (h : P c) (wait : WaitDeviceEvent)
    (resolution : Option (List WaitEventMatch)) (nowMs : UInt32) :
    P (enterWaitDeviceEvent e wait resolution nowMs c).2 := by
  unfold SceneHub.enterWaitDeviceEvent
  split
  · exact hP.enterWait h _ WaitType.noConfusion rfl
  · exact h

theorem enterWaitGroup (h : P c) {waitType : WaitType} (htype : waitType ≠ .deviceCommandResult)
    (matched : List WaitEventMatch → List Bool) (wait : WaitGroupEvents)
    (resolution : Option (List WaitEventMatch)) (nowMs : UInt32) :
    P (enterWaitGroup waitType matched e wait resolution nowMs c).2 := by
  unfold SceneHub.enterWaitGroup
  split
  · split
    · exact h
    · exact hP.enterWait h _ htype rfl
  · exact h

theorem enterWaitFlags (h : P c) (wait : WaitFlags) (nowMs : UInt32) :
    P (enterWaitFlags e wait nowMs c).2 := by
  unfold SceneHub.enterWaitFlags
  split
  · exact h
  · exact hP.enterWait h _ WaitType.noConfusion rfl

theorem completionLoop (actions : List ActionBody) (h : P c) :
    P (completionLoop actions c).2 := by
  fun_induction SceneHub.completionLoop actions c with
  | case1 => exact h
  | case2 c flag rest c₁ hok ih =>
    have hset := hP.setFlag flag h
    rw [hok] at hset
    exact ih hset
  | case3 c flag rest err c₁ hne hout =>
    have hset := hP.setFlag flag h
    rw [hout] at hset
    exact hset
  | case4 c message rest ih => exact ih (hP.setMessage message h)
  | case5 c action rest _ _ ih => exact ih h

theorem applyCompletion (h : P c) (model : ScenarioBranch) :
    P (applyCompletion e model c).2 := by
  unfold SceneHub.applyCompletion
  split
  · exact h
  · exact hP.completionLoop _ h

theorem enterReactiveWait (hsave : ∀ c : Ctx, P c → P c.save) (h : P c) (index : Nat)
    (resolveError enterError : String)
    (enter : Option (List WaitEventMatch) → Ctx → EspErr × Ctx)
    (henter : ∀ r, P (enter r c).2) :
    P (enterReactiveWait e index resolveError enterError enter c).ctx := by
  unfold SceneHub.enterReactiveWait
  split
  · exact hP.setError h resolveError
  · next found _ =>
      have hmoves := henter (some found)
      split
      · next c₁ hok =>
          rw [hok] at hmoves
          exact hsave _ hmoves
      · next err c₁ _ hout =>
          rw [hout] at hmoves
          exact hP.setError hmoves enterError

end KeptByWaits

namespace KeptByReactions

variable (hP : KeptByReactions e P)
include hP

section

variable (h : P c)
include h

theorem clearActions : P c.clearActions := hP.counters _ (by rfl) h

theorem clearTriggerMatches : P c.clearTriggerMatches := hP.counters _ (by rfl) h

theorem nextAction : P c.nextAction := hP.counters _ (by rfl) h

theorem actionDone : P c.actionDone :=
  hP.branchClearWait (hP.branchState .running (hP.nextAction h))

theorem selectVariant (model : ScenarioBranch) : P (selectVariant model c).2 := by
  unfold SceneHub.selectVariant
  simp only
  split
  · exact h
  split
  · exact hP.counters _ (by rfl) h
  · exact hP.counters _ (by rfl) h
  · exact hP.random h
  · exact h

theorem failReaction (message : String) : P (failReaction e message c) :=
  hP.mark (hP.lastError _ (hP.branchClearWait (hP.clearActions (hP.branchState .error h))))

theorem resetReaction : P (resetReaction e c) :=
  hP.mark (hP.branchClearWait (hP.clearTriggerMatches (hP.branchStep _
    (hP.counters _ (by rfl) (hP.clearActions (hP.branchState .waiting h))))))

theorem queueTrigger : P (queueTrigger e c) := hP.mark (hP.counters _ (by rfl) h)

theorem startVariant (nowMs : UInt32) (variantIndex : Nat) (variant : ReactiveVariant) :
    P (startVariant e nowMs variantIndex variant c) :=
  hP.record _ (hP.mark (hP.branchClearWait (hP.clearTriggerMatches
    (hP.branchState .running (hP.counters _ (by rfl) h)))))

theorem reactiveTurn (nowMs : UInt32) (index : Nat) (action : ActionBody) :
    P (reactiveTurn e nowMs index action c).ctx := by
  unfold SceneHub.reactiveTurn
  cases action with
  | deviceCommand command => exact hP.save (hP.planCommand .reactiveAction nowMs h)
  | deviceCommandGroup mode startIndex count =>
    simp only
    split
    · exact hP.setError h _
    · exact hP.save (hP.planCommand .reactiveActionGroup nowMs h)
  | waitTime wait => exact hP.mark (hP.timeWait _ _ (hP.branchState .waiting h))
  | waitDeviceEvent wait =>
    exact hP.enterReactiveWait (fun _ => hP.save) h _ _ _ _ fun r => hP.enterWaitDeviceEvent h wait r nowMs
  | waitAnyDeviceEvent wait | waitAllDeviceEvents wait =>
    exact hP.enterReactiveWait (fun _ => hP.save) h _ _ _ _ fun r =>
      hP.enterWaitGroup h WaitType.noConfusion _ wait r nowMs
  | waitFlags wait =>
    have henter := hP.enterWaitFlags h wait nowMs
    simp only
    split
    · next c₁ hok =>
        rw [hok] at henter
        split
        · exact hP.mark (hP.actionDone henter)
        · exact hP.save henter
    · next err c₁ _ hout =>
        rw [hout] at henter
        exact hP.setError henter _
  | setFlag flag =>
    have hset := hP.setFlag flag h
    simp only
    split
    · next c₁ hok =>
        rw [hok] at hset
        exact hP.nextAction hset
    · next err c₁ _ hout =>
        rw [hout] at hset
        exact hP.setError hset _
  | showOperatorMessage message => exact hP.nextAction (hP.setMessage message h)
  | failReaction => exact hP.failReaction h _
  | resetReaction => exact hP.resetReaction h
  | operatorApproval | endGame => exact hP.setError h _

end

theorem reactiveLoop (finish : Ctx → EspErr × Ctx) (nowMs : UInt32)
    (hfinish : ∀ c, P c → P (finish c).2) (budget : Nat) (h : P c) :
    P (reactiveLoop finish e nowMs budget c).2 := by
  induction budget generalizing c with
  | zero => exact hP.mark h
  | succ n ih =>
    unfold SceneHub.reactiveLoop
    split
    · exact hfinish c h
    simp only
    split
    · exact hP.setError h _
    · next action _ =>
        have hturn := hP.reactiveTurn h nowMs
          (c.branch.reactiveActionStartIndex + c.branch.reactiveCurrentAction) action
        split
        · next err c₁ hout =>
            rw [hout] at hturn
            exact hturn
        · next c₁ hout =>
            rw [hout] at hturn
            exact ih hturn

theorem fireWith (run : Ctx → EspErr × Ctx) (nowMs : UInt32)
    (hrun : ∀ c, P c → P (run c).2) (h : P c) : P (fireWith run e nowMs c).2 := by
  unfold SceneHub.fireWith
  split
  · exact h
  split
  · exact h
  split
  · exact h
  split
  · split
    · exact hP.queueTrigger h
    · exact h
  · exact hrun _ (hP.startVariant (hP.selectVariant h _) nowMs _ _)

theorem finishWith (fire : Ctx → EspErr × Ctx) (model : ScenarioBranch) (nowMs : UInt32)
    (hfire : ∀ c, P c → P (fire c).2) (h : P c) : P (finishWith fire e model nowMs c).2 := by
  unfold SceneHub.finishWith
  have hdone := hP.applyCompletion h model
  split
  · next c₁ hok =>
      rw [hok] at hdone
      have hcompleted := hP.record (.completed e.setup.branchIndex) (hP.clearActions hdone)
      simp only
      split
      · exact hP.mark (hP.branchClearWait
          (hP.counters _ (by rfl) (hP.branchState .done hcompleted)))
      split
      · exact hfire _ (hP.mark (hP.branchClearWait (hP.counters _ (by rfl)
          (hP.branchState .waiting (hP.counters _ (by rfl) hcompleted)))))
      split
      · exact hP.mark (hP.branchClearWait (hP.clearTriggerMatches
          (hP.branchState .cooldown (hP.counters _ (by rfl) hcompleted))))
      · exact hP.mark (hP.branchClearWait (hP.clearTriggerMatches (hP.counters _ (by rfl)
          (hP.branchState .waiting (hP.counters _ (by rfl) hcompleted)))))
  · next err c₁ _ hout =>
      rw [hout] at hdone
      exact hP.setError hdone _

theorem reactiveContinue (depth : Nat) (nowMs : UInt32) (h : P c) :
    P (reactiveContinue depth e nowMs c).2 := by
  induction depth generalizing c with
  | zero => exact h
  | succ n ih =>
    unfold SceneHub.reactiveContinue
    split
    · exact h
    · next model _ =>
        split
        · exact h
        exact hP.reactiveLoop _ nowMs
          (fun c hc => hP.finishWith _ model nowMs (fun c hc => hP.fireWith _ nowMs
            (fun c hc => ih hc) hc) hc) _ (hP.planNone h)

section

variable (h : P c)
include h

theorem continueLocked (nowMs : UInt32) : P (continueLocked e nowMs c).2 :=
  hP.reactiveContinue _ nowMs h

theorem fireLocked (nowMs : UInt32) : P (fireLocked e nowMs c).2 :=
  hP.fireWith _ nowMs (fun _ hc => hP.continueLocked hc nowMs) h

theorem finishLocked (model : ScenarioBranch) (nowMs : UInt32) :
    P (finishLocked e model nowMs c).2 :=
  hP.finishWith _ model nowMs (fun _ hc => hP.fireLocked hc nowMs) h

theorem applyReactiveWaitTimeout (action : ActionBody) (nowMs : UInt32) :
    P (applyReactiveWaitTimeout e action nowMs c).2 := by
  unfold SceneHub.applyReactiveWaitTimeout
  split
  · exact hP.failReaction h _
  · exact hP.resetReaction h
  · exact hP.continueLocked (hP.actionDone h) nowMs

theorem applyResultPolicy (model : ScenarioBranch) (action : ResultAction)
    (nowMs : UInt32) (message : String) :
    P (applyResultPolicy e model action nowMs message c).2 := by
  unfold SceneHub.applyResultPolicy
  cases action with
  | «continue» => exact hP.finishLocked h model nowMs
  | setFlag =>
    simp only
    split
    · exact hP.failReaction h _
    have hset := hP.setFlag ⟨model.resultFlag, true⟩ h
    split
    · next c₁ hok =>
        rw [hok] at hset
        exact hP.finishLocked hset model nowMs
    · next err c₁ _ hout =>
        rw [hout] at hset
        exact hP.failReaction hset _
  | failScenario =>
    exact hP.record _ (hP.mark (hP.branchClearWait (hP.clearActions
      (hP.branchState .error (hP.setError h message)))))
  | retry | failReaction => exact hP.failReaction h _

theorem handleResultFailure (status : String) (nowMs : UInt32) :
    P (handleResultFailure e status nowMs c).2 := by
  unfold SceneHub.handleResultFailure
  split
  · exact h
  · exact hP.applyResultPolicy h _ _ nowMs _

theorem handleResultSuccess (nowMs : UInt32) : P (handleResultSuccess e nowMs c).2 := by
  unfold SceneHub.handleResultSuccess
  split
  · exact h
  split
  · exact hP.applyResultPolicy h _ _ nowMs _
  · exact hP.continueLocked (hP.actionDone h) nowMs

theorem triggerDuringWait (nowMs : UInt32) : P (triggerDuringWait e nowMs c).2 := by
  unfold SceneHub.triggerDuringWait
  split
  · exact h
  split
  · exact h
  split
  · split
    · exact hP.queueTrigger h
    · exact h
  split
  · exact hP.fireLocked (hP.mark (hP.branchClearWait
      (hP.branchState .waiting (hP.counters _ (by rfl) h)))) nowMs
  · exact hP.fireLocked (hP.mark (hP.branchClearWait (hP.branchState .waiting h))) nowMs

end

end KeptByReactions

/-! ### Chains of step moves -/

namespace StepMoves

section

variable (h : StepMoves e a c)
include h

theorem mark : StepMoves e a (c.markChanged e) := h.tail (.mark c)

theorem setState (state : ScenarioState) :
    StepMoves e a (c.setState state) := h.tail (.state c state)

theorem clearWait : StepMoves e a c.clearWait := h.tail (.clearWait c)

theorem nextStep : StepMoves e a c.nextStep := h.tail (.nextStep c)

theorem setWait (wait : Wait) (hw : wait.waitType ≠ .deviceCommandResult)
    (hactivation : wait.activation = 0) : StepMoves e a (c.setWait wait) :=
  h.tail (.wait c wait hw (.inl hactivation))

theorem setWaitSkip (step : ScenarioStep) :
    StepMoves e a (c.setWaitSkip step) := h.tail (.skip c step)

theorem dispatch (nowMs : UInt32) :
    StepMoves e a (enterWaitCommandDispatch nowMs c) := h.tail (.dispatch c nowMs)

theorem planNone : StepMoves e a { c with plan := none } :=
  h.tail (.plan c none nofun)

theorem planSome (plan : CommandPlan) (hroom : plan.roomId = e.roomId) :
    StepMoves e a { c with plan := some plan } :=
  h.tail (.plan c (some plan) fun _ hp => Option.some.inj hp ▸ hroom)

theorem setMessage (message : String) :
    StepMoves e a (c.setMessage message) := h.tail (.message c message)

theorem setFlag (flag : Flag) : StepMoves e a (c.setFlag flag).2 :=
  h.tail (.flag c flag)

theorem setError (message : String) : StepMoves e a (c.setError e message) :=
  ReflTransGen.tail (((h.setState .error).clearWait).tail (.lastError _ message)) (.mark _)

theorem stepDone : StepMoves e a (c.stepDone e) :=
  (((h.setState .running).nextStep).clearWait).mark

theorem planScenarioCommand (nowMs : UInt32) : StepMoves e a (planScenarioCommand e nowMs c) :=
  ((h.dispatch nowMs).mark).planSome _ (by rfl)

theorem planScenarioCommandGroup (group : DeviceCommandGroup)
    (nowMs : UInt32) (hplan : planScenarioCommandGroup e group nowMs c = .ok c') :
    StepMoves e a c' := by
  unfold SceneHub.planScenarioCommandGroup at hplan
  split at hplan
  · cases hplan
  · cases hplan
    exact ((h.dispatch nowMs).mark).planSome _ (by rfl)

theorem planReactiveCommand (kind : PlanKind) (nowMs : UInt32) :
    StepMoves e a (planReactiveCommand e kind nowMs c) :=
  ((h.dispatch nowMs).mark).planSome _ (by rfl)

theorem finishGame (nowMs : UInt32) : StepMoves e a (finishGame e nowMs c) :=
  ((((h.tail (.finish c nowMs)).tail (.state _ .done)).tail (.clearWait _)).tail (.mark _)).tail
    (.record _ .endedGame)

theorem applyWaitTimeout (nowMs : UInt32)
    (happly : applyWaitTimeout e nowMs c = some c') : StepMoves e a c' := by
  unfold SceneHub.applyWaitTimeout at happly
  split at happly
  · cases happly
  split at happly
  · cases happly
  split at happly
  · cases happly
  · next message _ =>
      cases happly
      by_cases hm : message ≠ ""
      · rw [if_pos hm]
        exact ((((h.setMessage message).nextStep).setState .running).clearWait).mark
      · rw [if_neg hm]
        exact (((h.nextStep).setState .running).clearWait).mark

end

end StepMoves

/-! ### Running steps -/

theorem StepMoves.kept : KeptByWaits e (StepMoves e a) where
  mark h := h.mark
  setState state h := h.setState state
  clearWait h := h.clearWait
  setWait wait hw hactivation h := h.setWait wait hw hactivation
  setMessage message h := h.setMessage message
  lastError message h := h.tail (.lastError _ message)
  setFlag flag h := h.setFlag flag

/-- The context a turn of the step loop ends with. -/
def StepTurn.ctx : StepTurn → Ctx
  | .leave _ c => c
  | .again c => c

namespace StepMoves

theorem enterStepWait (step : ScenarioStep) (message : String) (entered : EspErr × Ctx)
    (h : StepMoves e a entered.2) : StepMoves e a (enterStepWait e step message entered).ctx := by
  unfold SceneHub.enterStepWait
  split
  · exact h.setError message
  · exact h.setWaitSkip step

theorem executeStep (h : StepMoves e a c) (nowMs : UInt32)
    (resolution : Option (List WaitEventMatch)) (step : ScenarioStep) :
    StepMoves e a (executeStep e nowMs resolution step c).ctx := by
  unfold SceneHub.executeStep
  cases step.body with
  | deviceCommand command => exact h.planScenarioCommand nowMs
  | deviceCommandGroup group =>
    cases hplan : SceneHub.planScenarioCommandGroup e group nowMs c with
    | error err =>
      simp only [hplan]
      exact h.setError err.2
    | ok c' =>
      simp only [hplan]
      exact h.planScenarioCommandGroup group nowMs hplan
  | waitTime wait =>
    exact ((((h.setState .waiting).clearWait).setWait _ WaitType.noConfusion rfl).setWaitSkip
      step).mark
  | waitDeviceEvent wait =>
    exact enterStepWait step _ _ (StepMoves.kept.enterWaitDeviceEvent h wait resolution nowMs)
  | waitAnyDeviceEvent wait | waitAllDeviceEvents wait =>
    exact enterStepWait step _ _
      (StepMoves.kept.enterWaitGroup h WaitType.noConfusion _ wait resolution nowMs)
  | waitFlags wait =>
    have henter := StepMoves.kept.enterWaitFlags h wait nowMs
    simp only
    split
    · next c₁ hok =>
        rw [hok] at henter
        split
        · exact ((((henter.setWaitSkip step).nextStep).setState .running).clearWait).mark
        · exact henter.setWaitSkip step
    · next err c₁ _ hout =>
        rw [hout] at henter
        exact henter.setError _
  | operatorApproval approval =>
    exact (((h.setState .waiting).clearWait).setWait _ WaitType.noConfusion rfl).mark
  | showOperatorMessage message => exact (h.setMessage message).stepDone
  | setFlag flag =>
    have hset := h.setFlag flag
    simp only
    split
    · next c₁ hok =>
        rw [hok] at hset
        exact hset.stepDone
    · next err c₁ _ hout =>
        rw [hout] at hset
        exact hset.setError _
  | endGame => exact ((h.finishGame nowMs).nextStep).mark
  | failReaction => exact h.setError _
  | resetReaction => exact h.setError _

theorem executeSteps (nowMs : UInt32) (endIndex : Nat)
    (resolution : Option (List WaitEventMatch)) (budget : Nat) (h : StepMoves e a c) :
    StepMoves e a (executeSteps e nowMs endIndex resolution budget c).2 := by
  induction budget generalizing c with
  | zero => exact h
  | succ n ih =>
    unfold SceneHub.executeSteps
    split
    · exact ((h.setState .done).clearWait).mark
    split
    · exact h
    · next step _ =>
        split
        · exact ih (h.nextStep).mark
        have hturn := h.executeStep nowMs resolution step
        cases ht : SceneHub.executeStep e nowMs resolution step c with
        | leave err c₁ =>
          rw [ht] at hturn
          exact hturn
        | again c₁ =>
          rw [ht] at hturn
          exact ih hturn

theorem executeScenario (h : StepMoves e a c) (nowMs : UInt32) (budget endIndex : Nat)
    (resolution : Option (List WaitEventMatch)) :
    StepMoves e a (executeScenario e nowMs budget endIndex resolution c).2 :=
  executeSteps nowMs _ resolution budget h.planNone

/-! ### What step moves keep -/

theorem preserves (P : Ctx → Prop) (hP : ∀ c c', StepMove e c c' → P c → P c')
    (h : StepMoves e a c) (ha : P a) : P c := by
  induction h with
  | refl => exact ha
  | tail _ hstep ih => exact hP _ _ hstep ih

theorem branch_eq (h : StepMoves e a c) : c.branch = a.branch := by
  refine h.preserves (fun c => c.branch = a.branch) (fun c c' hm hc => ?_) rfl
  cases hm <;> exact hc

theorem step_le (h : StepMoves e a c) :
    a.session.progress.currentStepIndex ≤ c.session.progress.currentStepIndex := by
  refine h.preserves
    (fun c => a.session.progress.currentStepIndex ≤ c.session.progress.currentStepIndex)
    (fun c c' hm hc => ?_) (Nat.le_refl _)
  cases hm with
  | nextStep => exact Nat.le_succ_of_le hc
  | _ => exact hc

end StepMoves

theorem applyCompletion_branch (e : Env) (model : ScenarioBranch) (c : Ctx) :
    (applyCompletion e model c).2.branch = c.branch :=
  (StepMoves.kept.applyCompletion .refl model).branch_eq

theorem applyCompletion_history (e : Env) (model : ScenarioBranch) (c : Ctx) :
    (applyCompletion e model c).2.session.history = c.session.history :=
  (KeptByWaits.of_fields (·.session.history) _ fun _ _ _ h _ => h).applyCompletion rfl model

/-- The plan handed out, if any, is for the room of the branch. -/
def OwnPlan (e : Env) (c : Ctx) : Prop := ∀ p, c.plan = some p → p.roomId = e.roomId

theorem StepMoves.executeScenario_plan (nowMs : UInt32) (budget endIndex : Nat)
    (resolution : Option (List WaitEventMatch)) (c : Ctx) :
    OwnPlan e (SceneHub.executeScenario e nowMs budget endIndex resolution c).2 := by
  have hchain : StepMoves e { c with plan := none }
      (SceneHub.executeScenario e nowMs budget endIndex resolution c).2 :=
    StepMoves.executeSteps nowMs _ resolution budget .refl
  refine hchain.preserves (OwnPlan e) (fun c₁ c₂ hm hc => ?_) nofun
  cases hm with
  | plan plan hroom => exact hroom
  | _ => exact hc

/-! ### Chains of moves -/

theorem Moves.preserves (P : Ctx → Prop) (hP : ∀ c c', Move e c c' → P c → P c')
    (h : Moves e a c) (ha : P a) : P c := by
  induction h with
  | refl => exact ha
  | tail _ hmove ih => exact hP _ _ hmove ih

namespace Moves

section

variable (h : Moves e a c)
include h

theorem steps (hs : StepMoves e c c') : Moves e a c' :=
  h.trans (ReflTransGen.mono (fun _ _ => Move.step) _ _ hs)

theorem mark : Moves e a (c.markChanged e) := h.steps (.single (.mark c))

theorem setError (message : String) : Moves e a (c.setError e message) :=
  h.steps (StepMoves.setError .refl message)

theorem setState (state : ScenarioState) : Moves e a (c.setState state) :=
  h.steps (.single (.state c state))

theorem clearWait : Moves e a c.clearWait := h.steps (.single (.clearWait c))

theorem nextStep : Moves e a c.nextStep := h.steps (.single (.nextStep c))

theorem planNone : Moves e a { c with plan := none } :=
  h.steps (StepMoves.planNone .refl)

theorem load : Moves e a c.load := h.tail (.load c)

theorem save : Moves e a c.save := h.tail (.save c)

theorem branchClearWait : Moves e a c.branchClearWait :=
  h.tail (.branchClearWait c)

theorem branchState (state : ScenarioState) :
    Moves e a (c.setBranchState state) := h.tail (.branchState c state)

theorem branchStep (index : Nat) : Moves e a (c.setBranchStep index) :=
  h.tail (.branchStep c index)

theorem counters (b : BranchRun) (hb : b.progress = c.branch.progress) :
    Moves e a { c with branch := b } := h.tail (.counters c b hb)

end

theorem kept : KeptByReactions e (Moves e a) where
  mark h := h.mark
  setState state h := h.setState state
  clearWait h := h.clearWait
  setWait wait hw hactivation h := h.steps (.single (.wait _ wait hw (.inl hactivation)))
  setMessage message h := h.steps (.single (.message _ message))
  lastError message h := h.steps (.single (.lastError _ message))
  setFlag flag h := h.steps (.single (.flag _ flag))
  planCommand kind nowMs h := h.steps (StepMoves.planReactiveCommand .refl kind nowMs)
  planNone h := h.planNone
  record event h := h.steps (.single (.record _ event))
  save h := h.save
  branchClearWait h := h.branchClearWait
  branchState state h := h.branchState state
  branchStep index h := h.branchStep index
  timeWait startedAtMs untilMs h := h.tail (.timeWait _ startedAtMs untilMs)
  counters b hb h := h.counters b hb
  random h := h.tail (.random _)

section

variable (h : Moves e a c)
include h

theorem continueLocked (nowMs : UInt32) : Moves e a (continueLocked e nowMs c).2 :=
  kept.continueLocked h nowMs

theorem fireLocked (nowMs : UInt32) : Moves e a (fireLocked e nowMs c).2 :=
  kept.fireLocked h nowMs

theorem triggerDuringWait (nowMs : UInt32) : Moves e a (triggerDuringWait e nowMs c).2 :=
  kept.triggerDuringWait h nowMs

/-! ### Ticks and events -/

theorem executeScenario (nowMs : UInt32) (budget endIndex : Nat)
    (resolution : Option (List WaitEventMatch)) :
    Moves e a (executeScenario e nowMs budget endIndex resolution c).2 :=
  h.steps (StepMoves.executeScenario .refl nowMs budget endIndex resolution)

theorem runSteps (nowMs : UInt32) (budget : Nat) (resolution : Option (List WaitEventMatch)) :
    Moves e a (runSteps e nowMs budget resolution c).2 :=
  ((h.load).executeScenario nowMs budget _ resolution).save

theorem rearmBranch (nowMs : UInt32) : Moves e a (rearmBranch e nowMs c) :=
  ((((h.branchStep e.setup.stepStartIndex).counters _ (by rfl)).branchState _).branchClearWait).mark

theorem afterSteps (nowMs : UInt32) (budget : Nat) (err : EspErr)
    (hplan : OwnPlan e c) : Moves e a (afterSteps e nowMs budget err c).ctx := by
  have hfired : Moves e a
      { c with branch := { c.branch with firedOnce := true, fireCount := c.branch.fireCount + 1 } } :=
    h.counters _ (by rfl)
  unfold SceneHub.afterSteps
  split
  · simp only
    split
    · split
      · have hloaded := (hfired.rearmBranch nowMs).load
        split
        · exact hloaded
        · next resolution _ =>
            -- The plan of either run of the steps is for this room.
            have hsecond := StepMoves.executeScenario_plan (e := e) nowMs budget (branchEndIndex e)
              resolution (SceneHub.rearmBranch e nowMs { c with branch :=
                { c.branch with firedOnce := true, fireCount := c.branch.fireCount + 1 } }).load
            refine ((hloaded.executeScenario nowMs budget _ _).save).steps (.single (.plan _ _ ?_))
            intro p hp
            rcases Option.or_eq_some_iff.mp hp with hnew | ⟨-, hold⟩
            · exact hsecond p hnew
            · exact hplan p hold
      · exact hfired.rearmBranch nowMs
    · exact hfired
  · exact h

theorem executeBranchCore (nowMs : UInt32) (budget : Nat) :
    Moves e a (executeBranchCore e nowMs budget c).ctx := by
  unfold SceneHub.executeBranchCore
  split
  · exact h
  simp only
  split
  · exact h.planNone.continueLocked nowMs
  split
  · exact h.planNone
  · next resolution _ =>
      exact (h.planNone.runSteps nowMs budget resolution).afterSteps nowMs budget _
        (StepMoves.executeScenario_plan nowMs budget _ resolution _)

theorem prepareBranch (nowMs : UInt32) : Moves e a (prepareBranch e nowMs c).2 := by
  unfold SceneHub.prepareBranch
  split
  · exact h
  split
  · exact h
  split
  · exact h
  · exact ((((h.branchStep _).branchState _).counters _ (by rfl)).branchClearWait).mark

theorem expireReactiveWait (nowMs : UInt32) : Moves e a (expireReactiveWait e nowMs c) := by
  unfold SceneHub.expireReactiveWait
  split
  · exact (h.setError _).save
  · exact (kept.applyReactiveWaitTimeout h _ nowMs).save

end

end Moves

/-- The context a wait's processing ends with. -/
def WaitOutcome.ctx : WaitOutcome → Ctx
  | .handled c => c
  | .ready c => c

namespace Moves

section

variable (h : Moves e a c)
include h

theorem processWait (nowMs : UInt32) : Moves e a (processWait e nowMs c).ctx := by
  have hnext : Moves e a (((c.nextStep.setState .running).clearWait).markChanged e) :=
    (((h.nextStep).setState .running).clearWait).mark
  unfold SceneHub.processWait
  simp only
  split
  · split
    · exact h.save
    split
    · exact h.expireReactiveWait nowMs
    · exact hnext
  split
  · split
    · exact h.save
    split
    · exact h.expireReactiveWait nowMs
    split
    · exact h.save
    · next c₁ happly => exact h.steps (StepMoves.applyWaitTimeout .refl nowMs happly)
  split
  · split
    · split
      · split
        · exact h.save
        · exact h.expireReactiveWait nowMs
      split
      · next c₁ happly =>
          exact ((h.steps (StepMoves.applyWaitTimeout .refl nowMs
            happly)).save).executeBranchCore nowMs _
      · exact h.save
    · exact hnext
  · split
    · exact h.save
    · exact h

theorem processBranch (nowMs : UInt32) : Moves e a (processBranch e nowMs c).1 := by
  unfold SceneHub.processBranch
  have hprepared := h.prepareBranch nowMs
  split
  · next c₁ hout =>
      rw [hout] at hprepared
      exact hprepared
  · next c₁ hout =>
      rw [hout] at hprepared
      have hwait := (hprepared.load).processWait nowMs
      split
      · next c₂ hhandled =>
          rw [hhandled] at hwait
          exact hwait
      · next c₂ hready =>
          rw [hready] at hwait
          split
          · exact hwait
          · exact (hwait.save).executeBranchCore nowMs _

theorem consumeTrigger (message : Event) : Moves e a (consumeTrigger e message c).2 := by
  unfold SceneHub.consumeTrigger
  split
  · exact h
  split
  · split
    · exact h
    simp only
    split
    · exact kept.clearTriggerMatches ((h.counters _ (by rfl)).mark)
    · exact (h.counters _ (by rfl)).mark
  · exact h

theorem branchOnTrigger (message : Event) (nowMs : UInt32) :
    Moves e a (branchOnTrigger e message nowMs c).ctx := by
  have hconsumed := h.consumeTrigger message
  unfold SceneHub.branchOnTrigger
  split
  · next c₁ hout =>
      rw [hout] at hconsumed
      exact hconsumed
  · next c₁ hout =>
      rw [hout] at hconsumed
      simp only
      split <;> split
      all_goals first
        | exact hconsumed.triggerDuringWait nowMs
        | exact hconsumed.fireLocked nowMs

theorem endEventWait : Moves e a (endEventWait e c).ctx :=
  ((((h.nextStep).setState .running).clearWait).mark).save

theorem branchOnCommandResult (message : Event) (nowMs : UInt32) :
    Moves e a (branchOnCommandResult e message nowMs c).ctx := by
  unfold SceneHub.branchOnCommandResult
  split
  · exact h.save
  split
  · split
    · exact kept.handleResultFailure h _ nowMs
    · exact (h.setError _).save
  split
  · exact h.save
  split
  · exact kept.handleResultSuccess h nowMs
  · exact h.endEventWait

theorem branchOnGroupEvent (message : Event)
    (htype : c.session.progress.wait.waitType = .allDeviceEvents) :
    Moves e a (branchOnGroupEvent e message c).ctx := by
  unfold SceneHub.branchOnGroupEvent
  have hmatched : Moves e a ((c.setWait
      { c.session.progress.wait with
        waitEventMatched := markMatched message c.session.progress.wait.waitEvents
          c.session.progress.wait.waitEventMatched }).markChanged e) :=
    (h.steps (.single (.wait c _ (by simp only [htype]; exact nofun)
      (.inr (by rfl))))).mark
  simp only
  split
  · exact hmatched.endEventWait
  · exact hmatched.save

theorem branchOnWait (message : Event) (nowMs : UInt32) :
    Moves e a (branchOnWait e message nowMs c).ctx := by
  unfold SceneHub.branchOnWait
  split
  · exact h
  simp only
  split
  · exact (h.load).save
  split
  · exact (h.load).branchOnCommandResult message nowMs
  split
  · next htype => exact (h.load).branchOnGroupEvent message htype
  · exact (h.load).endEventWait

theorem branchOnEvent (message : Event) (triggered : Bool) (nowMs : UInt32) :
    Moves e a (branchOnEvent e message triggered nowMs c).ctx := by
  unfold SceneHub.branchOnEvent
  split
  · exact h.branchOnTrigger message nowMs
  split
  · exact (h.consumeTrigger message).branchOnWait message nowMs
  · exact h.branchOnWait message nowMs

/-! ### The operator and the dispatcher -/

theorem leaveWait : Moves e a (leaveWait e c) := by
  unfold SceneHub.leaveWait
  simp only
  split
  · exact (((((h.load).nextStep).setState .running).clearWait).save).mark
  · exact ((h.load).save).mark

theorem planMatches (plan : CommandPlan) : Moves e a (planMatches e plan c).2 := by
  unfold SceneHub.planMatches
  split
  · exact h
  simp only
  split
  · exact (h.load).save
  split
  · exact (h.load).save
  · exact (h.load).save

theorem stepDispatched (nowMs : UInt32) : Moves e a (stepDispatched e nowMs c).ctx := by
  have hrun := (((((h.setState .running).nextStep).clearWait).mark).save).executeBranchCore nowMs
    maxStepsPerTick
  unfold SceneHub.stepDispatched
  simp only
  split
  · exact hrun
  · exact hrun.planNone

theorem reactiveDispatched (nowMs : UInt32) : Moves e a (reactiveDispatched e nowMs c).ctx := by
  have hrun := ((((kept.actionDone ((h.setState .running).clearWait))).mark).save).continueLocked nowMs
  unfold SceneHub.reactiveDispatched
  simp only
  split
  · exact hrun
  · exact hrun.planNone

theorem failPlan (plan : CommandPlan) (errorCode : String) :
    Moves e a (failPlan e plan errorCode c) := ((h.load).setError _).save

theorem nextCommand (plan : CommandPlan) : Moves e a (nextCommand e plan c).2 := by
  have hmatched := h.planMatches plan
  unfold SceneHub.nextCommand
  split
  · next c₁ hout =>
      rw [hout] at hmatched
      exact hmatched
  · next c₁ hout =>
      rw [hout] at hmatched
      exact (hmatched.load).save

end

end Moves

/-! ### Awaiting a result -/

/-- The primitives with two that only a dispatch result makes: coming to await a
    request id, which has to satisfy `R`, and continuing the caller's plan, whose
    room has to satisfy `K`. -/
inductive CallMove (R K : String → Prop) (e : Env) : Ctx → Ctx → Prop where
  | move {c c' : Ctx} (h : Move e c c') : CallMove R K e c c'
  | more (c : Ctx) (plan : CommandPlan) (h : K plan.roomId) :
      CallMove R K e c { c with plan := some plan }
  | result (c : Ctx) (dispatch : DispatchResult) (nowMs : UInt32) (h : R dispatch.requestId) :
      CallMove R K e c (enterWaitCommandResult e dispatch nowMs c)

abbrev CallMoves (R K : String → Prop) (e : Env) : Ctx → Ctx → Prop :=
  ReflTransGen (CallMove R K e)

namespace CallMoves

variable {R K : String → Prop}

theorem moves (h : Moves e a c) : CallMoves R K e a c :=
  ReflTransGen.mono (fun _ _ => CallMove.move) _ _ h

/-- Applying a dispatch result is a chain that may await the result's request. -/
theorem applyDispatch (plan : CommandPlan) (dispatch : DispatchResult) (hasMore : Bool)
    (nowMs : UInt32) (hR : R dispatch.requestId) (hK : K plan.roomId) :
    CallMoves R K e c (applyDispatch e plan dispatch hasMore nowMs c).ctx := by
  have hmatched := Moves.planMatches (e := e) (.refl (a := c)) plan
  unfold SceneHub.applyDispatch
  split
  · next c₁ hout =>
      rw [hout] at hmatched
      exact moves hmatched.planNone
  · next c₁ hout =>
      rw [hout] at hmatched
      have hloaded := (hmatched.load).planNone
      split
      · exact moves ((hloaded.setError _).save)
      split
      · exact ((moves hloaded).tail (.result _ dispatch nowMs hR)).tail (.move (.save _))
      split
      · exact (moves ((hmatched.load).save)).tail (.more _ _ hK)
      split
      · exact moves (hloaded.stepDispatched nowMs)
      · exact moves (hloaded.reactiveDispatched nowMs)

theorem preserves (P : Ctx → Prop) (hP : ∀ c c', CallMove R K e c c' → P c → P c')
    (h : CallMoves R K e a c) (ha : P a) : P c := by
  induction h with
  | refl => exact ha
  | tail _ hmove ih => exact hP _ _ hmove ih

end CallMoves

end SceneHub
