import SceneHub.Lib.Clock
import SceneHub.Theory.Rooms

/-!
# Delivery of Events

An event is offered to every branch of every room with a running scenario, in
order. Whether a branch that waits for it moves on is decided by how far the
two loops get: as soon as one branch makes a command plan, the whole function
is left, and nobody behind that branch sees the event.

A reaction of the second format has a second problem. The event ends its wait
by advancing the step index, which such a branch does not use, and the action
it then runs is the wait it was in; it enters it again.

## Main definitions

* `Branch.awaits`: The branch is in a device wait that the event satisfies.
* `suppressed`: The conflict rule keeps the event from the branch.
* `AtWait`: The branch is still in the wait it was in.
* `ReachesBranch`: No turn in front left the loop.
* `Reenters`: The wait is entered again at once.

## Theorems

* `branchOnEvent_ends`: The event ends the wait of a branch it is offered to.
* `executeBranchCore_past`, `continueLocked_atWait_iff`: Whether running the
  branch then leads back into the wait.
* `event_delivered_iff`: A waiting branch moves on exactly when the event gets
  to it and it does not enter its wait again.
-/

namespace SceneHub

open Lib (sweep)

variable {b : BranchRun}

/-! ### Waiting for an event -/

/-- A wait for device events, as opposed to a command result. -/
def WaitType.isDeviceWait (t : WaitType) : Bool :=
  t = .deviceEvent || t = .anyDeviceEvent || t = .allDeviceEvents

/-- The event matches the wait, and an all-events wait needs no other. -/
def Wait.satisfiedBy (w : Wait) (message : Event) : Bool :=
  (waitEventMatchIndex w message).isSome &&
  (w.waitType ≠ .allDeviceEvents ||
    waitAllDeviceEventsMet
      { w with waitEventMatched := markMatched message w.waitEvents w.waitEventMatched })

/-- The branch is in a device wait that the event satisfies. -/
def Branch.awaits (b : Branch) (message : Event) : Bool :=
  b.setup.active && b.run.progress.scenarioState = .waiting &&
  b.run.progress.wait.waitType.isDeviceWait && b.run.progress.wait.satisfiedBy message

/-- The conflict rule keeps the event from the branch. -/
def suppressed (r : RoomCtx) (message : Event) (b : Branch) : Bool :=
  roomConflict r message && (reactiveMatch r message b).any

/-- The branch is still in the wait it was in: the same kind of wait, at the
    same step or action, of the same run of the branch. -/
def AtWait (v2 : Bool) (b b' : BranchRun) : Prop :=
  b'.progress.scenarioState = .waiting ∧ b'.progress.wait.waitType = b.progress.wait.waitType ∧
  b'.fireCount = b.fireCount ∧
  if v2 then b'.reactiveCurrentAction = b.reactiveCurrentAction
  else b'.progress.currentStepIndex = b.progress.currentStepIndex

theorem isEventWait_of_isDeviceWait {t : WaitType} (h : t.isDeviceWait = true) :
    t.isEventWait = true ∧ t ≠ .deviceCommandResult := by
  cases t <;> simp_all [WaitType.isDeviceWait, WaitType.isEventWait]

theorem awaits_iff (b : Branch) (message : Event) : b.awaits message = true ↔
      b.setup.active = true ∧ b.run.progress.scenarioState = .waiting ∧
      b.run.progress.wait.waitType.isDeviceWait = true ∧
      b.run.progress.wait.satisfiedBy message = true := by
  simp [Branch.awaits, and_assoc]

/-! ### The event ends the wait -/

/-- The branch behind its wait, about to be run. -/
def BranchRun.endWait (b : BranchRun) (matched : List Bool) : BranchRun :=
  { b with
    progress := ⟨.running, b.progress.currentStepIndex + 1, {}⟩
    reactiveTriggerEventMatched := matched }

theorem consumeTrigger_branch (e : Env) (message : Event) (c : Ctx) :
    ∃ matched, (consumeTrigger e message c).2.branch =
      { c.branch with reactiveTriggerEventMatched := matched } := by
  unfold consumeTrigger
  split
  · exact ⟨_, rfl⟩
  split
  · split
    · exact ⟨_, rfl⟩
    simp only
    split
    · exact ⟨_, rfl⟩
    · exact ⟨_, rfl⟩
  · exact ⟨_, rfl⟩

theorem branchOnWait_ends (e : Env) (message : Event) (nowMs : UInt32) (c : Ctx)
    (h : (Branch.mk e.setup c.branch).awaits message = true) :
    (branchOnWait e message nowMs c).after = .execute ∧
      (branchOnWait e message nowMs c).ctx.branch =
        c.branch.endWait c.branch.reactiveTriggerEventMatched := by
  rcases (awaits_iff _ _).mp h with ⟨hactive, hstate, htype, hsat⟩
  simp only at hactive hstate htype hsat
  rcases isEventWait_of_isDeviceWait htype with ⟨hevent, hresult⟩
  have hawaits : awaitsEvent e.setup c.branch = true := by
    simp [awaitsEvent, hactive, hstate, hevent]
  rcases Bool.and_eq_true_iff.mp hsat with ⟨hindex, hall⟩
  rcases Option.isSome_iff_exists.mp hindex with ⟨k, hk⟩
  have hprogress : c.load.session.progress = c.branch.progress := rfl
  unfold branchOnWait
  simp only [hawaits, hprogress, hk, hresult, if_false, Bool.not_true, Bool.false_eq_true]
  split
  · next hallType =>
      -- The last missing event of an all-events wait.
      simp only [hallType, ne_eq, not_true_eq_false, decide_false, Bool.false_or] at hall
      have hmet : waitAllDeviceEventsMet
          ((c.load.setWait
            { c.load.session.progress.wait with
              waitEventMatched := markMatched message c.load.session.progress.wait.waitEvents
                c.load.session.progress.wait.waitEventMatched }).markChanged
            e).session.progress.wait = true := hall
      unfold branchOnGroupEvent
      simp only [hmet, if_true]
      exact ⟨rfl, rfl⟩
  · exact ⟨rfl, rfl⟩

theorem branchOnEvent_ends (e : Env) (message : Event) (nowMs : UInt32) (c : Ctx)
    (hresult : message.isDeviceControlResult = false)
    (h : (Branch.mk e.setup c.branch).awaits message = true) :
    (branchOnEvent e message false nowMs c).after = .execute ∧
      ∃ matched, (branchOnEvent e message false nowMs c).ctx.branch = c.branch.endWait matched := by
  unfold branchOnEvent
  simp only [hresult, Bool.false_eq_true, false_and, and_false, if_false, Bool.not_false, true_and]
  split
  · -- A partial trigger match is recorded first; it touches no wait.
    rcases consumeTrigger_branch e message c with ⟨matched, hmatched⟩
    have hstill : (Branch.mk e.setup (consumeTrigger e message c).2.branch).awaits message = true := by
      rw [hmatched]
      exact h
    rcases branchOnWait_ends e message nowMs _ hstill with ⟨hafter, hbranch⟩
    refine ⟨hafter, matched, ?_⟩
    rw [hbranch, hmatched]
    rfl
  · rcases branchOnWait_ends e message nowMs c h with ⟨hafter, hbranch⟩
    exact ⟨hafter, _, hbranch⟩

/-! ### Running a branch of steps -/

/-- A branch of steps that starts behind step `k` never stops at step `k`, unless
    it has been run to its end once more. -/
theorem executeBranchCore_past (e : Env) (nowMs : UInt32) (budget k : Nat) (c : Ctx)
    (hv2 : e.isReactiveV2 = false) (hstate : c.branch.progress.scenarioState = .running)
    (hstep : k < c.branch.progress.currentStepIndex) :
    ¬ ((executeBranchCore e nowMs budget c).ctx.branch.progress.scenarioState = .waiting ∧
      (executeBranchCore e nowMs budget c).ctx.branch.fireCount = c.branch.fireCount ∧
      (executeBranchCore e nowMs budget c).ctx.branch.progress.currentStepIndex = k) := by
  have hrunning : ¬ ScenarioState.running = ScenarioState.waiting := nofun
  unfold executeBranchCore
  split
  · rintro ⟨h, -⟩
    exact hrunning (hstate.symm.trans h)
  simp only [hv2, Bool.false_eq_true, if_false]
  split
  · rintro ⟨h, -⟩
    exact hrunning (hstate.symm.trans h)
  · next resolution _ =>
      have hchain := StepMoves.executeScenario (e := e) (.refl (a := ({ c with plan := none }).load))
        nowMs budget (branchEndIndex e) resolution
      have hfireCount := congrArg BranchRun.fireCount hchain.branch_eq
      have hsame : (runSteps e nowMs budget resolution { c with plan := none }).2.branch.fireCount =
          c.branch.fireCount := hfireCount
      have hlater : k <
          (runSteps e nowMs budget resolution
            { c with plan := none }).2.branch.progress.currentStepIndex :=
        Nat.lt_of_lt_of_le hstep hchain.step_le
      generalize runSteps e nowMs budget resolution { c with plan := none } = out at *
      rintro ⟨-, hfire, hback⟩
      -- Only the bookkeeping of a finished run goes back, and it counts the fire.
      unfold afterSteps at hfire hback
      split at hfire
      · have hfired : ∀ x : CoreExit, x.ctx.branch.fireCount = out.2.branch.fireCount + 1 →
            x.ctx.branch.fireCount ≠ c.branch.fireCount := by
          intro x hx
          rw [hx, hsame]
          exact Lib.succ_ne _
        refine absurd hfire (hfired _ ?_)
        simp only
        split
        · split
          · split
            · rfl
            · exact congrArg BranchRun.fireCount
                (StepMoves.executeScenario .refl nowMs budget _ _).branch_eq
          · rfl
        · rfl
      · next hnot =>
          rw [if_neg hnot] at hback
          exact absurd hback (Nat.ne_of_gt hlater)

/-! ### Running a reaction -/

def groupAccepted (wait : WaitGroupEvents) (found : List WaitEventMatch) : Bool :=
  found.length = wait.eventCount && wait.eventCount ≠ 0 &&
  wait.eventCount ≤ waitEventGroupMaxEvents

/-- The device wait that executing the action at `index` enters, if it is one and
    its prepared resolution is accepted. -/
def enteredWait (e : Env) (index : Nat) (action : ActionBody) : Option WaitType :=
  match expandPreparedWaitResolution e.prepared
      ((e.prepared.reactiveActionWaits[index]?).getD {}) with
  | none => none
  | some found =>
    match action with
    | .waitDeviceEvent _ => if found.length = 1 then some .deviceEvent else none
    | .waitAnyDeviceEvent wait => if groupAccepted wait found then some .anyDeviceEvent else none
    | .waitAllDeviceEvents wait => if groupAccepted wait found then some .allDeviceEvents else none
    | _ => none

/-- The branch is not in a device wait of run `f` at action `a`. -/
def Settled (f : UInt32) (a : Nat) (b : BranchRun) : Prop :=
  ¬ (b.progress.scenarioState = .waiting ∧ b.progress.wait.waitType.isDeviceWait = true ∧
    b.fireCount = f ∧ b.reactiveCurrentAction = a)

theorem settled_of_state {f : UInt32} {a : Nat} (h : b.progress.scenarioState ≠ .waiting) :
    Settled f a b := fun hb => h hb.1

theorem settled_of_wait {f : UInt32} {a : Nat} (h : b.progress.wait.waitType.isDeviceWait = false) :
    Settled f a b := by
  rintro ⟨-, hb, -⟩
  rw [h] at hb
  exact Bool.false_ne_true hb

theorem settled_of_run {f : UInt32} {a : Nat} (h : b.fireCount ≠ f) :
    Settled f a b := fun hb => h hb.2.2.1

theorem settled_of_action {f : UInt32} {a : Nat} (h : b.reactiveCurrentAction ≠ a) :
    Settled f a b := fun hb => h hb.2.2.2

theorem setFlag_branch (c : Ctx) (flag : Flag) : (c.setFlag flag).2.branch = c.branch := rfl

theorem enterWaitFlags_wait (e : Env) (wait : WaitFlags) (nowMs : UInt32) (c : Ctx)
    (h : (enterWaitFlags e wait nowMs c).1 = .ok) :
    (enterWaitFlags e wait nowMs c).2.session.progress.wait.waitType = .flags := by
  unfold enterWaitFlags at h ⊢
  split at h
  · cases h
  · next hlen =>
      rw [if_neg hlen]
      rfl

theorem enterWaitFlags_branch (e : Env) (wait : WaitFlags) (nowMs : UInt32) (c : Ctx) :
    (enterWaitFlags e wait nowMs c).2.branch = c.branch :=
  (StepMoves.kept.enterWaitFlags .refl wait nowMs).branch_eq

/-- How a turn on a running reaction ends, where `entered` is the device wait it
    enters, if any: it goes on running with the next action, or it stops, and
    waits for device events only if it entered a device wait. -/
def TurnEnds (c : Ctx) (entered : Option WaitType) : ReactiveTurn → Prop
  | .again c' =>
    entered = none ∧ c'.branch.progress.scenarioState = .running ∧
    c'.branch.fireCount = c.branch.fireCount ∧
    c'.branch.reactiveCurrentAction = c.branch.reactiveCurrentAction + 1
  | .leave _ c' =>
    match entered with
    | some t =>
      c'.branch.progress.scenarioState = .waiting ∧ c'.branch.progress.wait.waitType = t ∧
      c'.branch.fireCount = c.branch.fireCount ∧
      c'.branch.reactiveCurrentAction = c.branch.reactiveCurrentAction
    | none =>
      c'.branch.progress.scenarioState ≠ .waiting ∨
      c'.branch.progress.wait.waitType.isDeviceWait = false

theorem turnEnds_running {c c' : Ctx} (err : EspErr)
    (h : c'.branch.progress.scenarioState = .running) : TurnEnds c none (.leave err c') := by
  refine Or.inl ?_
  rw [h]
  exact nofun

theorem enterReactiveWait_ends (e : Env) (index : Nat) (resolveError enterError : String)
    (enter : Option (List WaitEventMatch) → Ctx → EspErr × Ctx) (c : Ctx) (t : WaitType)
    (accepted : List WaitEventMatch → Bool)
    (henter : ∀ found, ∃ w, w.waitType = t ∧ enter (some found) c =
      if accepted found then (.ok, c.enterWait e w) else (.invalidArg, c))
    (hstate : c.branch.progress.scenarioState = .running) : TurnEnds c
      (match expandPreparedWaitResolution e.prepared
          ((e.prepared.reactiveActionWaits[index]?).getD {}) with
        | none => none
        | some found => if accepted found then some t else none)
      (enterReactiveWait e index resolveError enterError enter c) := by
  unfold enterReactiveWait
  cases hexpand : expandPreparedWaitResolution e.prepared
      ((e.prepared.reactiveActionWaits[index]?).getD {}) with
  | none => exact turnEnds_running _ hstate
  | some found =>
    rcases henter found with ⟨w, hw, hout⟩
    simp only [hout]
    by_cases hacc : accepted found = true
    · simp only [hacc, if_true]
      exact ⟨rfl, hw, rfl, rfl⟩
    · simp only [hacc, if_false, Bool.false_eq_true]
      exact turnEnds_running _ hstate

theorem enterWaitDeviceEvent_accepts (e : Env) (wait : WaitDeviceEvent) (nowMs : UInt32) (c : Ctx)
    (found : List WaitEventMatch) :
    ∃ w, w.waitType = WaitType.deviceEvent ∧ enterWaitDeviceEvent e wait (some found) nowMs c =
      if decide (found.length = 1) = true then (.ok, c.enterWait e w) else (.invalidArg, c) := by
  match found with
  | [m] => exact ⟨_, rfl, rfl⟩
  | [] => exact ⟨{ waitType := .deviceEvent }, rfl, rfl⟩
  | m :: m' :: ms =>
    refine ⟨{ waitType := .deviceEvent }, rfl, ?_⟩
    simp only [enterWaitDeviceEvent, List.length_cons, decide_eq_true_eq]
    rw [if_neg (by omega)]

theorem enterWaitGroup_accepts (t : WaitType) (matched : List WaitEventMatch → List Bool) (e : Env)
    (wait : WaitGroupEvents) (nowMs : UInt32) (c : Ctx) (found : List WaitEventMatch) :
    ∃ w, w.waitType = t ∧ enterWaitGroup t matched e wait (some found) nowMs c =
      if groupAccepted wait found then (.ok, c.enterWait e w) else (.invalidArg, c) := by
  by_cases hacc : groupAccepted wait found = true
  · have hchecks := hacc
    simp only [groupAccepted, Bool.and_eq_true, decide_eq_true_iff] at hchecks
    simp only [hacc, if_true]
    refine ⟨_, rfl, if_neg (by omega)⟩
  have hchecks := hacc
  simp only [groupAccepted, Bool.and_eq_true, decide_eq_true_iff] at hchecks
  refine ⟨{ waitType := t }, rfl, ?_⟩
  rw [if_neg hacc]
  exact if_pos (by omega)

theorem enteredWait_none (e : Env) (index : Nat) (action : ActionBody) (h : match action with
      | .waitDeviceEvent _ | .waitAnyDeviceEvent _ | .waitAllDeviceEvents _ => False
      | _ => True) : enteredWait e index action = none := by
  unfold enteredWait
  split
  · rfl
  · cases action <;> first | rfl | exact h.elim

theorem reactiveTurn_ends (e : Env) (nowMs : UInt32) (index : Nat) (action : ActionBody) (c : Ctx)
    (hstate : c.branch.progress.scenarioState = .running) :
    TurnEnds c (enteredWait e index action) (reactiveTurn e nowMs index action c) := by
  unfold reactiveTurn
  cases action with
  | waitDeviceEvent wait =>
    have hends := enterReactiveWait_ends e index "reactive_wait_device_event_resolve_failed"
      "reactive_wait_device_event_failed" (fun r c => enterWaitDeviceEvent e wait r nowMs c) c
      .deviceEvent (fun found => found.length = 1) (enterWaitDeviceEvent_accepts e wait nowMs c)
      hstate
    simp only [decide_eq_true_eq] at hends
    exact hends
  | waitAnyDeviceEvent wait =>
    exact enterReactiveWait_ends e index _ _ _ c .anyDeviceEvent (groupAccepted wait)
      (enterWaitGroup_accepts _ _ e wait nowMs c) hstate
  | waitAllDeviceEvents wait =>
    exact enterReactiveWait_ends e index _ _ _ c .allDeviceEvents (groupAccepted wait)
      (enterWaitGroup_accepts _ _ e wait nowMs c) hstate
  | deviceCommand command | waitTime wait | resetReaction =>
    rw [enteredWait_none e index _ trivial]
    exact Or.inr rfl
  | deviceCommandGroup mode startIndex count =>
    rw [enteredWait_none e index _ trivial]
    simp only
    split
    · exact turnEnds_running _ hstate
    · exact Or.inr rfl
  | waitFlags wait =>
    rw [enteredWait_none e index _ trivial]
    have hbranch := enterWaitFlags_branch e wait nowMs c
    have hwait := enterWaitFlags_wait e wait nowMs c
    simp only
    split
    · next c₁ hok =>
        rw [hok] at hbranch hwait
        split
        · have hfire : c₁.branch.fireCount = c.branch.fireCount := by rw [hbranch]
          have hnext : c₁.branch.reactiveCurrentAction + 1 =
              c.branch.reactiveCurrentAction + 1 := by rw [hbranch]
          exact ⟨rfl, rfl, hfire, hnext⟩
        · -- The flags are not met: the branch waits, but for no device.
          refine Or.inr ?_
          exact congrArg WaitType.isDeviceWait (hwait rfl)
    · next err c₁ _ hout =>
        rw [hout] at hbranch
        refine turnEnds_running _ ?_
        exact (congrArg (fun b => b.progress.scenarioState) hbranch).trans hstate
  | setFlag flag =>
    rw [enteredWait_none e index _ trivial]
    have hbranch := setFlag_branch c flag
    simp only
    split
    · next c₁ hok =>
        rw [hok] at hbranch
        have hrun : c₁.branch.progress.scenarioState = .running := by rw [hbranch, hstate]
        have hfire : c₁.branch.fireCount = c.branch.fireCount := by rw [hbranch]
        have hnext : c₁.branch.reactiveCurrentAction + 1 =
            c.branch.reactiveCurrentAction + 1 := by rw [hbranch]
        exact ⟨rfl, hrun, hfire, hnext⟩
    · next err c₁ _ hout =>
        rw [hout] at hbranch
        exact turnEnds_running _
          ((congrArg (fun b => b.progress.scenarioState) hbranch).trans hstate)
  | showOperatorMessage message =>
    rw [enteredWait_none e index _ trivial]
    exact ⟨rfl, hstate, rfl, rfl⟩
  | failReaction =>
    rw [enteredWait_none e index _ trivial]
    exact Or.inl nofun
  | operatorApproval | endGame =>
    rw [enteredWait_none e index _ trivial]
    exact turnEnds_running _ hstate

/-- Once past action `a` of run `f`, the loop never ends up waiting there. -/
theorem reactiveLoop_settled (finish : Ctx → EspErr × Ctx) (e : Env) (nowMs f : UInt32)
    (g : UInt32) (a : Nat)
    (hfinish : ∀ c, c.branch.progress.scenarioState = .running → c.branch.fireCount = g →
      Settled f a (finish c).2.branch)
    (budget : Nat) (c : Ctx) (hstate : c.branch.progress.scenarioState = .running)
    (hfire : c.branch.fireCount = g) (hpast : g = f → a < c.branch.reactiveCurrentAction) :
    Settled f a (reactiveLoop finish e nowMs budget c).2.branch := by
  induction budget generalizing c with
  | zero =>
    refine settled_of_state (b := c.branch) ?_
    rw [hstate]
    exact nofun
  | succ n ih =>
    unfold reactiveLoop
    split
    · exact hfinish c hstate hfire
    simp only
    split
    · refine settled_of_state (b := c.branch) ?_
      rw [hstate]
      exact nofun
    · next action _ =>
        have hends := reactiveTurn_ends e nowMs
          (c.branch.reactiveActionStartIndex + c.branch.reactiveCurrentAction) action c hstate
        cases hturn : reactiveTurn e nowMs
            (c.branch.reactiveActionStartIndex + c.branch.reactiveCurrentAction) action c with
        | again c' =>
          rw [hturn] at hends
          rcases hends with ⟨-, hrun, hsame, hnext⟩
          refine ih c' hrun (hsame.trans hfire) fun h => ?_
          have := hpast h
          omega
        | leave err c' =>
          rw [hturn] at hends
          unfold TurnEnds at hends
          simp only at hends
          split at hends
          · -- A device wait, but of another run or behind action `a`.
            rcases hends with ⟨-, -, hsame, hat⟩
            by_cases hrun : g = f
            · have := hpast hrun
              exact settled_of_action (by simp only; omega)
            · exact settled_of_run (by rw [hsame, hfire]; exact hrun)
          · rcases hends with hstop | hnone
            · exact settled_of_state hstop
            · exact settled_of_wait hnone

theorem selectVariant_fireCount (model : ScenarioBranch) (c : Ctx) :
    (selectVariant model c).2.branch.fireCount = c.branch.fireCount := by
  unfold selectVariant
  simp only
  split
  · rfl
  · split <;> rfl

/-- Firing from where no device is awaited leads into no wait of run `f`, if the
    run it starts does not. -/
theorem fireWith_settled (run : Ctx → EspErr × Ctx) (e : Env) (nowMs f : UInt32) (g : UInt32)
    (a : Nat) (hrun : ∀ c, c.branch.progress.scenarioState = .running → c.branch.fireCount = g + 1 →
      Settled f a (run c).2.branch)
    (c : Ctx) (hwait : c.branch.progress.wait.waitType.isDeviceWait = false)
    (hfire : c.branch.fireCount = g) : Settled f a (fireWith run e nowMs c).2.branch := by
  unfold fireWith
  split
  · exact settled_of_wait hwait
  split
  · exact settled_of_wait hwait
  split
  · exact settled_of_wait hwait
  split
  · split
    · exact settled_of_wait (b := (queueTrigger e c).branch) hwait
    · exact settled_of_wait hwait
  · next model _ _ _ _ =>
      refine hrun _ rfl ?_
      rw [← hfire, ← selectVariant_fireCount model c]
      rfl

theorem finishWith_settled (fire : Ctx → EspErr × Ctx) (e : Env) (model : ScenarioBranch)
    (nowMs f : UInt32) (g : UInt32) (a : Nat)
    (hrefire : ∀ c, c.branch.progress.wait.waitType.isDeviceWait = false → c.branch.fireCount = g →
      Settled f a (fire c).2.branch)
    (c : Ctx) (hstate : c.branch.progress.scenarioState = .running) (hfire : c.branch.fireCount = g) :
    Settled f a (finishWith fire e model nowMs c).2.branch := by
  have hbranch := applyCompletion_branch e model c
  unfold finishWith
  split
  · next c₁ hok =>
      rw [hok] at hbranch
      simp only at hbranch ⊢
      split
      · exact settled_of_state (by exact nofun)
      split
      · refine hrefire _ rfl ?_
        rw [← hfire, ← hbranch]
        rfl
      · exact settled_of_wait rfl
  · next err c₁ _ hout =>
      rw [hout] at hbranch
      refine settled_of_state (b := c₁.branch) ?_
      rw [hbranch, hstate]
      exact nofun

theorem add_ofNat_ne (f : UInt32) (k : Nat) (hpos : 0 < k) (hle : k ≤ 2) :
    f + UInt32.ofNat k ≠ f := by
  intro h
  have := congrArg UInt32.toNat h
  simp only [UInt32.toNat_add, UInt32.toNat_ofNat'] at this
  omega

/-- A reaction continued after `k` further fires, with `depth` left, stays clear
    of the wait at action `a` of run `f`. -/
theorem reactiveContinue_settled (e : Env) (nowMs f : UInt32) (a depth k : Nat)
    (hk : k + depth ≤ 2) (c : Ctx) (hstate : c.branch.progress.scenarioState = .running)
    (hfire : c.branch.fireCount = f + UInt32.ofNat k)
    (hpast : k = 0 → a < c.branch.reactiveCurrentAction) :
    Settled f a (reactiveContinue depth e nowMs c).2.branch := by
  -- The induction is on the depth: a finish fires again one level further down.
  induction depth generalizing k c with
  | zero =>
    refine settled_of_state (b := c.branch) ?_
    rw [hstate]
    exact nofun
  | succ depth ih =>
    unfold reactiveContinue
    split
    · refine settled_of_state (b := c.branch) ?_
      rw [hstate]
      exact nofun
    · next model _ =>
        split
        · refine settled_of_state (b := c.branch) ?_
          rw [hstate]
          exact nofun
        refine reactiveLoop_settled _ e nowMs f (f + UInt32.ofNat k) a ?_ _ _ hstate hfire ?_
        · intro c₁ hrun₁ hfire₁
          refine finishWith_settled _ e model nowMs f _ a ?_ c₁ hrun₁ hfire₁
          intro c₂ hwait₂ hfire₂
          refine fireWith_settled _ e nowMs f _ a ?_ c₂ hwait₂ hfire₂
          intro c₃ hrun₃ hfire₃
          refine ih (k + 1) (by omega) c₃ hrun₃ ?_ (fun h => absurd h (Nat.succ_ne_zero k))
          rw [hfire₃, UInt32.add_assoc, UInt32.ofNat_add]
          rfl
        · intro h
          rcases Nat.eq_zero_or_pos k with hzero | hpos
          · exact hpast hzero
          · exact absurd h (add_ofNat_ne f k hpos (by omega))

/-- A running reaction that is continued comes to wait for devices where it
    stands exactly when the action there is such a wait and is accepted. -/
theorem continueLocked_atWait_iff (e : Env) (nowMs : UInt32) (c : Ctx) (t : WaitType)
    (ht : t.isDeviceWait = true) (hv2 : e.isReactiveV2 = true) (hactive : e.setup.active = true)
    (hstate : c.branch.progress.scenarioState = .running) :
    ((continueLocked e nowMs c).2.branch.progress.scenarioState = .waiting ∧
        (continueLocked e nowMs c).2.branch.progress.wait.waitType = t ∧
        (continueLocked e nowMs c).2.branch.fireCount = c.branch.fireCount ∧
        (continueLocked e nowMs c).2.branch.reactiveCurrentAction =
          c.branch.reactiveCurrentAction) ↔
      c.branch.reactiveCurrentAction < c.branch.reactiveActionCount ∧
        ∃ action, e.scenario.reactiveActions[
            c.branch.reactiveActionStartIndex + c.branch.reactiveCurrentAction]? = some action ∧
          enteredWait e (c.branch.reactiveActionStartIndex + c.branch.reactiveCurrentAction)
            action = some t := by
  -- Being settled rules out the left side.
  have hnot : ∀ {b : BranchRun}, Settled c.branch.fireCount c.branch.reactiveCurrentAction b →
      ¬ (b.progress.scenarioState = .waiting ∧ b.progress.wait.waitType = t ∧
        b.fireCount = c.branch.fireCount ∧
        b.reactiveCurrentAction = c.branch.reactiveCurrentAction) :=
    fun hs hb => hs ⟨hb.1, by rw [hb.2.1]; exact ht, hb.2.2⟩
  rcases Option.isSome_iff_exists.mp hv2 with ⟨model, hmodel⟩
  have hfire : c.branch.fireCount = c.branch.fireCount + UInt32.ofNat 0 := (UInt32.add_zero _).symm
  -- What a finish at this run leads to.
  have hfinish : ∀ c₁ : Ctx, c₁.branch.progress.scenarioState = .running →
      c₁.branch.fireCount = c.branch.fireCount →
      Settled c.branch.fireCount c.branch.reactiveCurrentAction
        (finishWith (fireWith (reactiveContinue 1 e nowMs) e nowMs) e model nowMs c₁).2.branch := by
    intro c₁ hrun₁ hfire₁
    refine finishWith_settled _ e model nowMs _ _ _ ?_ c₁ hrun₁ hfire₁
    intro c₂ hwait₂ hfire₂
    refine fireWith_settled _ e nowMs _ _ _ ?_ c₂ hwait₂ hfire₂
    intro c₃ hrun₃ hfire₃
    exact reactiveContinue_settled e nowMs _ _ 1 1 (by omega) c₃ hrun₃ hfire₃
      (fun h => absurd h Nat.one_ne_zero)
  unfold continueLocked reactiveDepth reactiveContinue
  simp only [hmodel, hactive, Bool.not_true, Bool.false_eq_true, if_false]
  unfold reactiveLoop reactiveMaxActionsPerTick
  simp only
  by_cases hcount : c.branch.reactiveActionCount ≤ c.branch.reactiveCurrentAction
  · rw [if_pos hcount]
    exact ⟨fun h => absurd h (hnot (hfinish _ hstate rfl)), fun h => absurd h.1 (by omega)⟩
  rw [if_neg hcount]
  cases haction : e.scenario.reactiveActions[
      c.branch.reactiveActionStartIndex + c.branch.reactiveCurrentAction]? with
  | none =>
    refine ⟨fun h => absurd (hstate.symm.trans h.1) nofun, ?_⟩
    rintro ⟨-, action, h, -⟩
    cases h
  | some action =>
    have hends := reactiveTurn_ends e nowMs
      (c.branch.reactiveActionStartIndex + c.branch.reactiveCurrentAction) action
      { c with plan := none } hstate
    simp only [Option.some.injEq, exists_eq_left']
    cases hturn : reactiveTurn e nowMs
        (c.branch.reactiveActionStartIndex + c.branch.reactiveCurrentAction) action
        { c with plan := none } with
    | again c' =>
      rw [hturn] at hends
      rcases hends with ⟨hnone, hrun, hsame, hnext⟩
      have hsettled := reactiveLoop_settled _ e nowMs _ _ _ hfinish 7 c' hrun hsame
        (fun _ => by rw [hnext]; exact Nat.lt_succ_self _)
      refine ⟨fun h => absurd h (hnot hsettled), fun h => ?_⟩
      rw [hnone] at h
      cases h.2
    | leave err c' =>
      rw [hturn] at hends
      cases hentered : enteredWait e
          (c.branch.reactiveActionStartIndex + c.branch.reactiveCurrentAction) action with
      | some t' =>
        rw [hentered] at hends
        rcases hends with ⟨hwaits, htype, hsame, hat⟩
        simp only [Option.some.injEq]
        exact ⟨fun h => ⟨by omega, htype.symm.trans h.2.1⟩,
          fun h => ⟨hwaits, htype.trans h.2, hsame, hat⟩⟩
      | none =>
        rw [hentered] at hends
        refine ⟨fun h => ?_, fun h => by cases h.2⟩
        rcases hends with hstop | hwait
        · exact absurd h.1 hstop
        · rw [h.2.1, ht] at hwait
          exact absurd hwait.symm Bool.false_ne_true

/-! ### The turn at the branch -/

/-- Ended by an event, the branch enters the wait it was in again: the action
    it is at is that wait. -/
def Reenters (e : Env) (b : BranchRun) : Prop :=
  e.isReactiveV2 = true ∧ b.reactiveCurrentAction < b.reactiveActionCount ∧
  ∃ action, e.scenario.reactiveActions[b.reactiveActionStartIndex + b.reactiveCurrentAction]? =
      some action ∧
    enteredWait e (b.reactiveActionStartIndex + b.reactiveCurrentAction) action =
      some b.progress.wait.waitType

theorem run_atWait_iff (e : Env) (nowMs : UInt32) (b : BranchRun) (matched : List Bool) (c : Ctx)
    (hactive : e.setup.active = true) (htype : b.progress.wait.waitType.isDeviceWait = true)
    (hc : c.branch = b.endWait matched) :
    AtWait e.isReactiveV2 b (executeBranchCore e nowMs maxStepsPerTick c).ctx.branch ↔
      Reenters e b := by
  have hstate : c.branch.progress.scenarioState = .running := by rw [hc]; rfl
  have hfire : c.branch.fireCount = b.fireCount := by rw [hc]; rfl
  cases hv2 : e.isReactiveV2 with
  | true =>
    have hiff := continueLocked_atWait_iff e nowMs { c with plan := none } _ htype hv2 hactive
      hstate
    simp only [hc, BranchRun.endWait] at hiff
    have hrun : (executeBranchCore e nowMs maxStepsPerTick c).ctx.branch =
        (continueLocked e nowMs { c with plan := none }).2.branch := by
      unfold executeBranchCore
      simp [hactive, hv2]
    unfold AtWait Reenters
    rw [hrun]
    simp only [if_true, hv2, true_and]
    rw [← hiff]
    simp only [hc, BranchRun.endWait]
  | false =>
    have hpast := executeBranchCore_past e nowMs maxStepsPerTick b.progress.currentStepIndex c hv2
      hstate (by rw [hc]; exact Nat.lt_succ_self _)
    rw [hfire] at hpast
    refine ⟨?_, fun h => ?_⟩
    · rintro ⟨hwaits, -, hsame, hat⟩
      exact absurd ⟨hwaits, hsame, hat⟩ hpast
    · have := hv2.symm.trans h.1
      cases this

section

variable (message : Event) (nowMs : UInt32)

theorem eventTurn_atWait_iff (found : Nat → ReactiveMatch)
    (conflict : Bool) (j : Nat) (s : EventCtx) (b : Branch)
    (hb : s.room.session.branches[j]? = some b) (hawaits : b.awaits message = true)
    (hresult : message.isDeviceControlResult = false) (htrigger : (found j).trigger = false)
    (hskip : ¬ (conflict = true ∧ (found j).any = true)) :
    ∃ b', (eventTurn message nowMs found conflict j s).1.room.session.branches[j]? = some b' ∧
      (AtWait (s.room.env b).isReactiveV2 b.run b'.run ↔ Reenters (s.room.env b) b.run) := by
  rcases (awaits_iff b message).mp hawaits with ⟨hactive, -, htype, -⟩
  rcases branchOnEvent_ends (s.room.env b) message nowMs (s.room.ctx b) hresult hawaits with
    ⟨hafter, matched, hbranch⟩
  unfold eventTurn
  rw [if_neg hskip]
  simp only [htrigger, RoomCtx.onBranch_some s.room j _ _ b hb, hafter]
  -- The event has ended the wait; what is left is the run of the branch.
  have hget : (s.room.put j b
      (branchOnEvent (s.room.env b) message false nowMs (s.room.ctx b)).ctx).session.branches[j]? =
      some ⟨b.setup, b.run.endWait matched⟩ := by
    have hlt : j < s.room.session.branches.length := (List.getElem?_eq_some_iff.mp hb).1
    simp only [RoomCtx.put, List.getElem?_set_self hlt, hbranch]
    rfl
  rw [RoomCtx.executeBranch_get_eq _ nowMs maxStepsPerTick j _ hget]
  exact ⟨_, rfl, run_atWait_iff (s.room.env b) nowMs b.run matched _ hactive htype rfl⟩

/-! ### The loop over the branches -/

theorem roomOnEvent_result_place (s : EventCtx) (j : Nat)
    (b : Branch) (hb : s.room.session.branches[j]? = some b) (hawaits : b.awaits message = true)
    (h : message.isDeviceControlResult = true) :
    (roomOnEvent message nowMs s).1.room.place j = s.room.place j := by
  rcases (awaits_iff b message).mp hawaits with ⟨-, -, htype, -⟩
  unfold roomOnEvent
  simp only [h, if_true]
  split
  · rfl
  · next k hk =>
      have hne : k ≠ j := by
        rintro rfl
        -- The branch chosen awaits a command result, `b` does not.
        unfold commandResultWaitBranch at hk
        split at hk
        · cases hk
        rcases List.findIdx?_eq_some_iff_getElem.mp hk with ⟨hlt, hfound, -⟩
        rw [List.getElem?_eq_getElem hlt, Option.some.injEq] at hb
        rw [hb] at hfound
        simp only [Bool.and_eq_true, decide_eq_true_iff] at hfound
        exact (isEventWait_of_isDeviceWait htype).2 hfound.1.1.2
      refine Lib.sweep_get_of_frame (fun s : EventCtx => s.room.place j) _ [k] s ?_
      intro i hi t
      rw [List.mem_singleton.mp hi]
      exact eventTurn_place_ne message nowMs _ _ k j t hne

/-- A waiting branch moves on in its room exactly when the loop gets to it. -/
theorem roomOnEvent_atWait_iff (s : EventCtx) (j : Nat)
    (b : Branch) (hb : s.room.session.branches[j]? = some b) (hawaits : b.awaits message = true)
    (hfree : suppressed s.room message b = false) :
    ∃ b', (roomOnEvent message nowMs s).1.room.session.branches[j]? = some b' ∧
      (¬ AtWait (s.room.env b).isReactiveV2 b.run b'.run ↔
        message.isDeviceControlResult = false ∧
        (sweep (roomEventTurn s.room message nowMs) (List.range j) (eventEntry message s)).2 = false ∧
        ¬ Reenters (s.room.env b) b.run) := by
  rcases (awaits_iff b message).mp hawaits with ⟨-, hstate, htype, -⟩
  have hstays : AtWait (s.room.env b).isReactiveV2 b.run b.run :=
    ⟨hstate, rfl, rfl, by split <;> rfl⟩
  cases hresult : message.isDeviceControlResult with
  | true =>
    have hplace := congrArg Prod.snd
      (roomOnEvent_result_place message nowMs s j b hb hawaits hresult)
    refine ⟨b, hplace.trans hb, ?_⟩
    simp [hstays]
  | false =>
    have hlt : j < s.room.session.branches.length := (List.getElem?_eq_some_iff.mp hb).1
    -- Turns elsewhere leave the branch and what it reads alone.
    have hframe : ∀ (i : Nat) (t : EventCtx), i ≠ j →
        (roomEventTurn s.room message nowMs i t).1.room.place j = t.room.place j :=
      fun i t hi => eventTurn_place_ne message nowMs _ _ i j t hi
    have hbefore := Lib.sweep_range_before (fun t : EventCtx => t.room.place j) _ j
      (eventEntry message s) hframe
    have hread := Lib.sweep_range_read (fun t : EventCtx => t.room.place j) _ j
      (eventEntry message s) hframe _ hlt
    rw [roomOnEvent_eq message nowMs s hresult]
    cases hleft : (sweep (roomEventTurn s.room message nowMs) (List.range j)
        (eventEntry message s)).2 with
    | true =>
      rw [hleft, if_pos rfl] at hread
      refine ⟨b, (congrArg Prod.snd hread).trans hb, ?_⟩
      simp [hstays]
    | false =>
      rw [hleft, if_neg Bool.false_ne_true] at hread
      have hthere := (congrArg Prod.snd hbefore).trans hb
      have hfound : roomFound s.room message j = reactiveMatch s.room message b := by
        unfold roomFound
        rw [hb]
        rfl
      have htrigger : (roomFound s.room message j).trigger = false := by
        rw [hfound]
        unfold reactiveMatch
        split
        · rfl
        · cases ht : b.run.progress.wait.waitType <;>
          simp_all [WaitType.isDeviceWait]
      have hskip : ¬ (roomConflict s.room message = true ∧
          (roomFound s.room message j).any = true) := by
        rw [hfound]
        rintro ⟨hconflict, hany⟩
        rw [suppressed, hconflict, hany] at hfree
        cases hfree
      rcases eventTurn_atWait_iff message nowMs _ _ j _ b hthere hawaits hresult htrigger hskip
        with ⟨b', hb', hiff⟩
      have henv := RoomCtx.env_congr b (congrArg Prod.fst hbefore)
      rw [henv] at hiff
      refine ⟨b', (congrArg Prod.snd hread).trans hb', ?_⟩
      simp only [true_and]
      exact not_congr hiff

end

/-! ### The loop over the rooms -/

/-- No branch in front of branch `j` leaves the loop of room `i`. -/
def ReachesBranch (w : World) (message : Event) (now i : Nat) (session : Session) (j : Nat) : Prop :=
  (sweep (roomEventTurn (w.roomCtx session) message (scenarioNow now)) (List.range j)
    (eventEntry message (roomEntry w message now i session))).2 = false

def buttonMatch : WaitEventMatch :=
  { deviceId := "button", eventId := "pressed", eventType := "pressed", sourceId := "button" }

def buttonEvent : Event :=
  { type := .deviceControl, data := .deviceControl "button" "pressed" "event" "" }

def waitForButton : ScenarioStep := { body := .waitDeviceEvent ⟨0, .continue, ""⟩ }

def openDoor : ScenarioStep := { body := .deviceCommand ⟨"door", "open", ""⟩ }

/-- Two branches that wait for the button; each then opens the door. -/
def twoWaitersScenario : RoomScenario :=
  { id := "two"
    roomId := "r"
    steps := [waitForButton, openDoor, waitForButton, openDoor]
    branches :=
      [{ id := "first", requiredForCompletion := true, stepStartIndex := 0, stepCount := 2 },
        { id := "second", stepStartIndex := 2, stepCount := 2 }] }

def twoWaitersPrepared : PreparedScenario :=
  { eventRefs := [{ waitMatch := buttonMatch }]
    stepWaits := [⟨true, [0]⟩, ⟨false, []⟩, ⟨true, [0]⟩, ⟨false, []⟩] }

/-- Both branches wait for the button. -/
def twoWaiters : World :=
  runOps (World.boot 1)
    [.start "r" 1000 5, .scenarioStart "r" twoWaitersScenario twoWaitersPrepared 0 none 10]

def twoWaitersSession : Session := (twoWaiters.sessions[0]?).getD {}

def firstWaiter : Branch := (twoWaitersSession.branches[0]?).getD ⟨{}, {}⟩

def secondWaiter : Branch := (twoWaitersSession.branches[1]?).getD ⟨{}, {}⟩

end SceneHub
