import SceneHub.Theory.Noted

/-!
# Which Turns Note a Change

A turn of one of the branch loops either notes a change or leaves its branch as
it found it, and which of the two it does can be told from the state before.
The second kind still loads the branch into the session's shared fields, so a
loop without any note can change what the session shows.

## Main definitions

* `tickNotes`: A tick on the branch notes a change.
* `partNotes`, `triggerNotes`, `waitNotes`, `eventNotes`: An event does.

## Theorems

* `processBranch_noted`, `processBranch_unnoted`: A tick on a branch.
* `branchOnEvent_noted`, `branchOnEvent_unnoted`: An event on a branch.
* `branchOnEvent_next`: An event that goes on with the next branch has made no
  plan.
-/

namespace SceneHub

variable {model : ScenarioBranch}

variable {e : Env} {c c' : Ctx}

/-! ### A tick on a branch -/

/-- A branch about to be run is of the second format, or its step's wait
    expands. -/
def runResolves (e : Env) (b : BranchRun) : Bool :=
  e.isReactiveV2 ||
  match prepareWaitResolution e b with
  | .ok _ => true
  | .error _ => false

/-- A tick notes a change on the branch. Beside what moves a branch on this is
    the end of a cooldown; a running branch whose step's wait does not expand is
    the exception. -/
def tickNotes (e : Env) (nowMs : UInt32) (flags : List Flag) (b : BranchRun) : Bool :=
  if b.progress.scenarioState = .running then e.setup.active && runResolves e b
  else if b.progress.scenarioState = .cooldown then
    e.setup.active && timeReached nowMs b.cooldownUntilMs
  else tickStirs e nowMs flags b

section

variable (nowMs : UInt32)

theorem executeBranchCore_noted {budget : Nat} (hbudget : 0 < budget)
    (hactive : e.setup.active = true) (h : runResolves e c.branch = true) :
    (executeBranchCore e nowMs budget c).ctx.Noted := by
  unfold executeBranchCore
  simp only [hactive, Bool.not_true, Bool.false_eq_true, if_false]
  split
  · next hv2 => exact continueLocked_noted nowMs hv2 hactive _
  · next hv2 =>
      rw [runResolves, Bool.eq_false_iff.mpr hv2, Bool.false_or] at h
      have hsame : ({ c with plan := none } : Ctx).branch = c.branch := rfl
      split
      · next err herror =>
          rw [hsame] at herror
          rw [herror] at h
          cases h
      · next resolution _ =>
          have hran : (runSteps e nowMs budget resolution { c with plan := none }).2.Noted :=
            executeScenario_noted nowMs hbudget (branchEndIndex e) resolution
          exact Moves.noted (Moves.afterSteps .refl nowMs budget _
            (StepMoves.executeScenario_plan nowMs budget _ resolution _)) hran

theorem executeBranchCore_unresolved (budget : Nat)
    (h : runResolves e c.branch = false) : (executeBranchCore e nowMs budget c).ctx = c ∨
      (executeBranchCore e nowMs budget c).ctx = { c with plan := none } := by
  rw [runResolves, Bool.or_eq_false_iff] at h
  unfold executeBranchCore
  split
  · exact .inl rfl
  simp only [h.1, Bool.false_eq_true, if_false]
  split
  · exact .inr rfl
  · next resolution hok =>
      have hresolved : prepareWaitResolution e c.branch = .ok resolution := hok
      rw [hresolved] at h
      cases h.2

theorem expireReactiveWait_noted (hv2 : e.isReactiveV2 = true)
    (hactive : e.setup.active = true) (c : Ctx) : (expireReactiveWait e nowMs c).Noted := by
  unfold expireReactiveWait
  split
  · exact setError_noted e _ c
  · next action _ => exact applyReactiveWaitTimeout_noted action nowMs hv2 hactive c

theorem applyWaitTimeout_noted (h : applyWaitTimeout e nowMs c = some c') : c'.Noted := by
  unfold applyWaitTimeout at h
  split at h
  · cases h
  split at h
  · cases h
  split at h
  · cases h
  · cases h
    exact noted_markChanged e _

theorem applyWaitTimeout_known (hv2 : e.isReactiveV2 = false)
    (hexpired : waitTimeoutReached nowMs c.branch.progress.wait.waitUntilMs = true)
    (hknown : timeoutKnown e c.branch = true) :
    ∃ c', applyWaitTimeout e nowMs c.load = some c' := by
  have hprogress : c.load.session.progress = c.branch.progress := rfl
  rw [timeoutKnown, hv2, Bool.false_or] at hknown
  unfold applyWaitTimeout
  rw [hprogress, hexpired]
  cases hstep : e.scenario.steps[c.branch.progress.currentStepIndex]? with
  | none =>
    rw [hstep] at hknown
    cases hknown
  | some step =>
    rw [hstep, Option.bind_some] at hknown
    rcases Option.isSome_iff_exists.mp hknown with ⟨message, hmessage⟩
    simp only [hmessage]
    exact ⟨_, rfl⟩

theorem processWait_noted (hactive : e.setup.active = true)
    (hstate : c.branch.progress.scenarioState = .waiting)
    (h : tickStirs e nowMs c.session.scenarioFlags c.branch = true) :
    (processWait e nowMs c.load).ctx.Noted := by
  have hprogress : c.load.session.progress = c.branch.progress := rfl
  have hflags : waitFlagsMet c.load.session =
      flagsHold c.session.scenarioFlags c.branch.progress.wait := rfl
  simp only [tickStirs, hactive, hstate, Bool.true_and] at h
  -- The deadline of a wait other than a timed one.
  have hreached : c.branch.progress.wait.waitType ≠ .time →
      waitExpired nowMs c.branch.progress.wait = true →
      waitTimeoutReached nowMs c.branch.progress.wait.waitUntilMs = true := by
    intro htype hexpired
    unfold waitExpired at hexpired
    split at hexpired
    · next ht => exact absurd ht htype
    · exact hexpired
  unfold processWait
  simp only [hprogress, hflags, hstate, true_and]
  cases ht : c.branch.progress.wait.waitType with
  | time =>
    simp only [ht] at h
    simp only [h, Bool.not_true, Bool.false_eq_true, if_false, if_true]
    split
    · next hv2 => exact expireReactiveWait_noted nowMs hv2 hactive _
    · exact noted_markChanged e _
  | deviceEvent | anyDeviceEvent | allDeviceEvents =>
    simp only [ht, Bool.and_eq_true] at h
    simp only [reduceCtorEq, if_false, or_true, true_or, if_true, h.1, Bool.not_true,
      Bool.false_eq_true]
    split
    · next hv2 => exact expireReactiveWait_noted nowMs hv2 hactive _
    · next hv2 =>
        rcases applyWaitTimeout_known nowMs (Bool.eq_false_iff.mpr hv2)
          (hreached (by simp [ht]) h.1) h.2 with ⟨c₁, happly⟩
        rw [happly]
        exact applyWaitTimeout_noted nowMs happly
  | flags =>
    simp only [ht, Bool.or_eq_true, Bool.and_eq_true] at h
    simp only [reduceCtorEq, if_false, or_self, if_true]
    split
    · next hunmet =>
        rw [Bool.not_eq_true'] at hunmet
        have hexpired := h.resolve_left (by rw [hunmet]; exact Bool.false_ne_true)
        split
        · next hv2 =>
            rw [hexpired.1]
            exact expireReactiveWait_noted nowMs hv2 hactive _
        · next hv2 =>
            rcases applyWaitTimeout_known nowMs (Bool.eq_false_iff.mpr hv2)
              (hreached (by simp [ht]) hexpired.1) hexpired.2 with
              ⟨c₁, happly⟩
            rw [happly]
            have hended := applyWaitTimeout_noted nowMs happly
            exact (Moves.executeBranchCore (Moves.save .refl) nowMs _).noted hended
    · exact noted_markChanged e _
  | _ =>
    simp only [ht] at h
    cases h

/-- Behind the preparation a tick is a chain. -/
theorem processBranch_moves (h : prepareBranch e nowMs c = (true, c')) :
    Moves e c' (processBranch e nowMs c).1 := by
  unfold processBranch
  rw [h]
  have hwait := Moves.processWait (e := e) (Moves.load (.refl (a := c'))) nowMs
  simp only
  split
  · next c₂ hhandled =>
      rw [hhandled] at hwait
      exact hwait
  · next c₂ hready =>
      rw [hready] at hwait
      split
      · exact hwait
      · exact (hwait.save).executeBranchCore nowMs _

theorem processBranch_noted (hplan : c.plan = none)
    (h : tickNotes e nowMs c.session.scenarioFlags c.branch = true) :
    (processBranch e nowMs c).1.Noted := by
  unfold tickNotes at h
  by_cases hrunning : c.branch.progress.scenarioState = .running
  · rw [if_pos hrunning, Bool.and_eq_true] at h
    have hready : processWait e nowMs c.load = .ready c.load := by
      have hprogress : c.load.session.progress = c.branch.progress := rfl
      unfold processWait
      simp [hprogress, hrunning]
    have hprepared : prepareBranch e nowMs c = (true, c) := by
      unfold prepareBranch
      simp [h.1, hrunning]
    have hnone : c.load.plan.isSome = false := by
      rw [show c.load.plan = none from hplan]
      rfl
    unfold processBranch
    simp only [hprepared, hready, hnone, Bool.false_eq_true, if_false]
    exact executeBranchCore_noted nowMs (by decide) h.1 h.2
  rw [if_neg hrunning] at h
  by_cases hcool : c.branch.progress.scenarioState = .cooldown
  · rw [if_pos hcool, Bool.and_eq_true] at h
    -- The end of the cooldown is noted before anything else happens.
    have hprepared : (prepareBranch e nowMs c).2.Noted := by
      unfold prepareBranch
      simp only [h.1, h.2, hcool, Bool.not_true, Bool.false_eq_true, if_false, ne_eq,
        not_true_eq_false]
      exact noted_markChanged e _
    cases hout : prepareBranch e nowMs c with
    | mk ready c₁ =>
      rw [hout] at hprepared
      cases ready with
      | false =>
        unfold processBranch
        rw [hout]
        exact hprepared
      | true => exact (processBranch_moves nowMs hout).noted hprepared
  rw [if_neg hcool] at h
  have hactive : e.setup.active = true := by
    rw [tickStirs, Bool.and_eq_true] at h
    exact h.1
  have hwaiting : c.branch.progress.scenarioState = .waiting := by
    simp only [tickStirs, hactive, Bool.true_and] at h
    cases hs : c.branch.progress.scenarioState with
    | waiting => rfl
    | running => exact absurd hs hrunning
    | cooldown => exact absurd hs hcool
    | _ =>
      rw [hs] at h
      cases h
  have hprepared : prepareBranch e nowMs c = (true, c) := by
    unfold prepareBranch
    simp [hactive, hwaiting]
  have hnoted := processWait_noted nowMs hactive hwaiting h
  unfold processBranch
  simp only [hprepared]
  split
  · next c₂ hhandled =>
      rw [hhandled] at hnoted
      exact hnoted
  · next c₂ hready =>
      rw [hready] at hnoted
      split
      · exact hnoted
      · exact (Moves.executeBranchCore (Moves.save .refl) nowMs _).noted hnoted

theorem processBranch_unnoted (hplan : c.plan = none)
    (h : tickNotes e nowMs c.session.scenarioFlags c.branch = false) :
    processBranch e nowMs c = (if tickLoads ⟨e.setup, c.branch⟩ then c.load else c, false) := by
  unfold tickNotes at h
  have hnone : c.plan.isSome = false := by rw [hplan]; rfl
  by_cases hrunning : c.branch.progress.scenarioState = .running
  · rw [if_pos hrunning] at h
    cases hactive : e.setup.active with
    | false =>
      unfold processBranch prepareBranch tickLoads
      simp [hactive]
    | true =>
      rw [hactive, Bool.true_and] at h
      have hready : processWait e nowMs c.load = .ready c.load := by
        have hprogress : c.load.session.progress = c.branch.progress := rfl
        unfold processWait
        simp [hprogress, hrunning]
      have hprepared : prepareBranch e nowMs c = (true, c) := by
        unfold prepareBranch
        simp [hactive, hrunning]
      have hnone' : c.load.plan.isSome = false := hnone
      have hloads : tickLoads ⟨e.setup, c.branch⟩ = true := by
        simp [tickLoads, Branch.state, hactive, hrunning]
      have hcore : (executeBranchCore e nowMs maxStepsPerTick c.load.save).ctx = c.load := by
        rcases executeBranchCore_unresolved (c := c.load.save) nowMs maxStepsPerTick h
          with hsame | hsame
        · rw [hsame, load_save]
        · rw [hsame, load_save]
          exact congrArg (fun plan => ({ c.load with plan := plan } : Ctx)) hplan.symm
      unfold processBranch
      simp [hprepared, hready, hnone', hcore, hloads]
  · rw [if_neg hrunning] at h
    have hstirs : tickStirs e nowMs c.session.scenarioFlags c.branch = false := by
      by_cases hcool : c.branch.progress.scenarioState = .cooldown
      · rw [if_pos hcool] at h
        simp only [tickStirs, hcool]
        cases hactive : e.setup.active with
        | false => rfl
        | true =>
          rw [hactive, Bool.true_and] at h
          rw [h, Bool.and_false, Bool.and_false]
      · rw [if_neg hcool] at h
        exact h
    rw [processBranch_rests e nowMs c hstirs]
    unfold restTurn tickLoads Branch.state
    cases hactive : e.setup.active with
    | false => rfl
    | true =>
      simp only [Bool.not_true, Bool.false_eq_true, if_false, Bool.true_and, ne_eq,
        decide_not, Bool.not_eq_true', decide_eq_false_iff_not]
      by_cases hcool : c.branch.progress.scenarioState = .cooldown
      · rw [if_pos hcool, hactive, Bool.true_and] at h
        simp [hcool, h]
      · simp [hcool, hnone]

end

/-! ### An event on a branch -/

/-- The event is one of the events an all-events trigger needs, and is recorded. -/
def partNotes (e : Env) (flags : List Flag) (b : BranchRun) (message : Event) : Bool :=
  (triggerAllowed e flags b message).any fun model =>
    model.trigger.kind = .allDeviceEvents && (deviceTriggerMatch e.setup message).isSome

/-- A trigger does something: it restarts or queues the reaction that waits for
    a time, or fires or queues one that listens. -/
def triggerNotes (e : Env) (nowMs : UInt32) (b : BranchRun) : Bool :=
  e.modelBranch.any fun model =>
    if b.progress.wait.waitType = .time then
      b.progress.scenarioState = .waiting &&
        (model.policyMode ≠ .single || e.setup.reentryMode = .queueOne)
    else
      e.setup.active && model.variantCount ≠ 0 &&
      model.variantStartIndex + model.variantCount ≤ e.scenario.reactiveVariants.length &&
      !firesExhausted e b &&
      (readyToFire nowMs b ||
        (b.progress.scenarioState ≠ .cooldown && e.setup.reentryMode = .queueOne))

/-- The event is what the branch waits for. Of a command's results only the
    final ones end the wait. -/
def waitNotes (setup : BranchSetup) (b : BranchRun) (message : Event) : Bool :=
  branchWaitMatches setup b message &&
  (b.progress.wait.waitType ≠ .deviceCommandResult || commandResultIsTerminal message.payload)

theorem consumeTrigger_noted (message : Event)
    (h : partNotes e c.session.scenarioFlags c.branch message = true) :
    (consumeTrigger e message c).2.Noted := by
  unfold partNotes at h
  unfold consumeTrigger
  cases hallowed : triggerAllowed e c.session.scenarioFlags c.branch message with
  | none =>
    rw [hallowed] at h
    cases h
  | some model =>
    simp only [hallowed, Option.any_some, Bool.and_eq_true, decide_eq_true_iff] at h
    rcases Option.isSome_iff_exists.mp h.2 with ⟨index, hindex⟩
    simp only [h.1, if_true, hindex]
    split
    · exact noted_markChanged e { c with branch :=
        { c.branch with reactiveTriggerEventMatched :=
          c.branch.reactiveTriggerEventMatched.set index true } }
    · exact noted_markChanged e _

theorem consumeTrigger_unnoted (message : Event)
    (h : partNotes e c.session.scenarioFlags c.branch message = false) :
    (consumeTrigger e message c).2 = c := by
  unfold partNotes at h
  unfold consumeTrigger
  cases hallowed : triggerAllowed e c.session.scenarioFlags c.branch message with
  | none => rfl
  | some model =>
    simp only [hallowed, Option.any_some, Bool.and_eq_false_iff, decide_eq_false_iff_not] at h
    simp only
    split
    · next hkind =>
        have hnone := h.resolve_left fun hne => hne hkind
        rw [Option.isSome_eq_false_iff, Option.isNone_iff_eq_none] at hnone
        rw [hnone]
    · rfl

theorem triggerDuringWait_notes (nowMs : UInt32) (hmodel : e.modelBranch = some model)
    (htime : c.branch.progress.wait.waitType = .time) :
    if triggerNotes e nowMs c.branch then (triggerDuringWait e nowMs c).2.Noted
    else (triggerDuringWait e nowMs c).2 = c := by
  simp only [triggerNotes, hmodel, Option.any_some, htime, if_true]
  unfold triggerDuringWait
  simp only [hmodel, htime, ne_eq, not_true_eq_false, or_false]
  by_cases hstate : c.branch.progress.scenarioState = .waiting
  · by_cases hsingle : model.policyMode = .single
    · by_cases hqueue : e.setup.reentryMode = .queueOne
      · simp only [hstate, hsingle, hqueue, not_true_eq_false, if_false, if_true, decide_true,
          decide_false, Bool.false_or, Bool.and_self]
        exact noted_markChanged e _
      · simp [hstate, hsingle, hqueue]
    · simp only [hstate, hsingle, not_true_eq_false, not_false_eq_true, if_false, decide_true,
        Bool.true_or, Bool.and_self, if_true]
      exact (Moves.fireLocked .refl nowMs).noted (noted_markChanged e _)
  · simp [hstate]

theorem fireLocked_notes (nowMs : UInt32) (hmodel : e.modelBranch = some model)
    (htime : c.branch.progress.wait.waitType ≠ .time) :
    if triggerNotes e nowMs c.branch then (fireLocked e nowMs c).2.Noted
    else (fireLocked e nowMs c).2 = c := by
  simp only [triggerNotes, hmodel, Option.any_some, htime, if_false]
  unfold fireLocked fireWith
  simp only [hmodel]
  by_cases hrange : !e.setup.active ∨ model.variantCount = 0 ∨
      e.scenario.reactiveVariants.length < model.variantStartIndex + model.variantCount
  · have hfalse : (e.setup.active && model.variantCount ≠ 0 &&
        model.variantStartIndex + model.variantCount ≤
          e.scenario.reactiveVariants.length) = false := by
      rcases hrange with h | h | h
      · rw [Bool.not_eq_true'] at h
        rw [h, Bool.false_and, Bool.false_and]
      · simp [h]
      have hnot : ¬ model.variantStartIndex + model.variantCount ≤
          e.scenario.reactiveVariants.length := by omega
      simp [hnot]
    rw [hfalse, if_pos hrange]
    simp
  have htrue : (e.setup.active && model.variantCount ≠ 0 &&
      model.variantStartIndex + model.variantCount ≤
        e.scenario.reactiveVariants.length) = true := by
    rcases not_or.mp hrange with ⟨hactive, hrest⟩
    rcases not_or.mp hrest with ⟨hcount, hlength⟩
    rw [Bool.not_eq_true, Bool.not_eq_false'] at hactive
    simp [hactive, hcount, Nat.not_lt.mp hlength]
  rw [htrue, if_neg hrange]
  cases hexhausted : firesExhausted e c.branch with
  | true => simp only [Bool.not_true, Bool.and_false, Bool.false_and, Bool.false_eq_true, if_false,
      if_true]
  | false =>
    simp only [Bool.not_false, Bool.and_true, Bool.true_and, Bool.false_eq_true, if_false]
    cases hready : readyToFire nowMs c.branch with
    | true =>
      exact (Moves.continueLocked .refl nowMs).noted (noted_markChanged e _)
    | false =>
      simp only [Bool.false_or, Bool.not_false, if_true]
      by_cases hqueue : c.branch.progress.scenarioState ≠ .cooldown ∧
          e.setup.reentryMode = .queueOne
      · rw [if_pos hqueue, if_pos (by simpa using hqueue)]
        exact noted_markChanged e _
      · rw [if_neg hqueue, if_neg (by simpa using hqueue)]

theorem consumeTrigger_matches (message : Event)
    (h : partNotes e c.session.scenarioFlags c.branch message = false) :
    (consumeTrigger e message c).1 =
      matchesTrigger e c.session.scenarioFlags c.branch message := by
  unfold partNotes at h
  unfold consumeTrigger matchesTrigger
  cases hallowed : triggerAllowed e c.session.scenarioFlags c.branch message with
  | none => rfl
  | some model =>
    simp only [hallowed, Option.any_some, Bool.and_eq_false_iff, decide_eq_false_iff_not] at h
    simp only
    by_cases hkind : model.trigger.kind = .allDeviceEvents
    · have hnone := h.resolve_left fun hne => hne hkind
      rw [Option.isSome_eq_false_iff, Option.isNone_iff_eq_none] at hnone
      rw [if_pos hkind, if_pos hkind, hnone]
    · rw [if_neg hkind, if_neg hkind]

theorem modelBranch_of_matches {flags : List Flag} {b : BranchRun} {message : Event}
    (h : matchesTrigger e flags b message = true) : ∃ model, e.modelBranch = some model := by
  unfold matchesTrigger triggerAllowed at h
  cases hmodel : e.modelBranch with
  | none =>
    simp only [hmodel] at h
    cases h
  | some model => exact ⟨model, rfl⟩

/-- The function a trigger is handed to. -/
def runTrigger (e : Env) (nowMs : UInt32) (c : Ctx) : EspErr × Ctx :=
  if c.branch.progress.wait.waitType = .time then triggerDuringWait e nowMs c
  else fireLocked e nowMs c

theorem runTrigger_notes (nowMs : UInt32) (hmodel : e.modelBranch = some model) :
    if triggerNotes e nowMs c.branch then (runTrigger e nowMs c).2.Noted
    else (runTrigger e nowMs c).2 = c := by
  unfold runTrigger
  by_cases htime : c.branch.progress.wait.waitType = .time
  · rw [if_pos htime]
    exact triggerDuringWait_notes nowMs hmodel htime
  · rw [if_neg htime]
    exact fireLocked_notes nowMs hmodel htime

section

variable (message : Event) (nowMs : UInt32)

theorem branchOnTrigger_ctx (c : Ctx) : (branchOnTrigger e message nowMs c).ctx =
      if (consumeTrigger e message c).1 then (runTrigger e nowMs (consumeTrigger e message c).2).2
      else (consumeTrigger e message c).2 := by
  unfold branchOnTrigger runTrigger
  rcases consumeTrigger e message c with ⟨consumed, c₁⟩
  cases consumed with
  | false => rfl
  | true =>
    simp only [if_true]
    split <;> split <;> rfl

theorem branchOnWait_noted (h : waitNotes e.setup c.branch message = true) :
    (branchOnWait e message nowMs c).ctx.Noted := by
  simp only [waitNotes, branchWaitMatches, Bool.and_eq_true] at h
  rcases h with ⟨⟨hawaits, hindex⟩, hfinal⟩
  rcases Option.isSome_iff_exists.mp hindex with ⟨index, hindex⟩
  have hwait : c.load.session.progress.wait = c.branch.progress.wait := rfl
  have hactive : e.setup.active = true := by
    simp only [awaitsEvent, Bool.and_eq_true] at hawaits
    exact hawaits.1.1
  unfold branchOnWait
  simp only [hawaits, Bool.not_true, Bool.false_eq_true, if_false, hwait, hindex]
  split
  · next htype =>
      -- The wait for a command's result.
      simp only [htype, ne_eq, not_true_eq_false, decide_false, Bool.false_or] at hfinal
      have hpending : commandResultIsPending message.payload = false := by
        simp only [commandResultIsTerminal, commandResultIsSuccess, commandResultIsFailure,
          Bool.or_eq_true, decide_eq_true_iff] at hfinal
        rcases hfinal with h | (h | h) | h <;> rw [h] <;> decide
      unfold branchOnCommandResult
      simp only [hpending, Bool.false_eq_true, if_false]
      split
      · split
        · next hv2 => exact handleResultFailure_noted _ nowMs hv2 _
        · exact setError_noted e _ _
      · next hfailure =>
          simp only [commandResultIsTerminal, Bool.eq_false_iff.mpr hfailure, Bool.or_false] at hfinal
          simp only [hfinal, Bool.not_true, Bool.false_eq_true, if_false]
          split
          · next hv2 => exact handleResultSuccess_noted nowMs hv2 hactive _
          · exact noted_markChanged e _
  · split
    · unfold branchOnGroupEvent
      simp only
      split
      · exact noted_markChanged e _
      · exact noted_markChanged e _
    · exact noted_markChanged e _

theorem branchOnWait_unnoted (h : waitNotes e.setup c.branch message = false) :
    (branchOnWait e message nowMs c).ctx = (if awaitsEvent e.setup c.branch then c.load else c) ∧
      (branchOnWait e message nowMs c).after = .next := by
  cases hmatches : branchWaitMatches e.setup c.branch message with
  | false =>
    rw [branchOnWait_rests e message nowMs c hmatches]
    exact ⟨rfl, rfl⟩
  | true =>
    simp only [waitNotes, hmatches, Bool.true_and, Bool.or_eq_false_iff, ne_eq, decide_not,
      Bool.not_eq_false', decide_eq_true_iff, commandResultIsTerminal] at h
    rw [branchWaitMatches, Bool.and_eq_true] at hmatches
    rcases Option.isSome_iff_exists.mp hmatches.2 with ⟨index, hindex⟩
    have hwait : c.load.session.progress.wait = c.branch.progress.wait := rfl
    unfold branchOnWait
    simp only [hmatches.1, Bool.not_true, Bool.false_eq_true, if_false, hwait, hindex, h.1,
      if_true]
    unfold branchOnCommandResult
    simp only [h.2.1, h.2.2, Bool.false_eq_true, if_false, Bool.not_false, if_true]
    split
    · exact ⟨load_save c, rfl⟩
    · exact ⟨load_save c, rfl⟩

end

/-- An event notes a change on a branch the conflict rule does not skip. -/
def eventNotes (e : Env) (nowMs : UInt32) (flags : List Flag) (b : BranchRun) (message : Event)
    (triggered : Bool) : Bool :=
  if message.isDeviceControlResult ∨ e.setup.type ≠ .reactive then waitNotes e.setup b message
  else
    partNotes e flags b message ||
    if triggered then matchesTrigger e flags b message && triggerNotes e nowMs b
    else waitNotes e.setup b message

theorem branchOnEvent_noted (message : Event) (triggered : Bool) (nowMs : UInt32)
    (h : eventNotes e nowMs c.session.scenarioFlags c.branch message triggered = true) :
    (branchOnEvent e message triggered nowMs c).ctx.Noted := by
  unfold eventNotes at h
  unfold branchOnEvent
  cases hresult : message.isDeviceControlResult with
  | true =>
    rw [if_pos (.inl hresult)] at h
    exact branchOnWait_noted message nowMs h
  | false =>
    by_cases htype : e.setup.type = .reactive
    · rw [if_neg (by simp [hresult, htype])] at h
      simp only [htype, Bool.not_false, and_true, true_and, if_true]
      have hconsumed := Moves.consumeTrigger (e := e) (.refl (a := c)) message
      cases hpart : partNotes e c.session.scenarioFlags c.branch message with
      | true =>
        have hnoted := consumeTrigger_noted message hpart
        split
        · rw [branchOnTrigger_ctx]
          split
          · -- What a trigger does comes behind the recording.
            refine Moves.noted (e := e) ?_ hnoted
            unfold runTrigger
            split
            · exact Moves.triggerDuringWait .refl nowMs
            · exact Moves.fireLocked .refl nowMs
          · exact hnoted
        · exact (Moves.branchOnWait .refl message nowMs).noted hnoted
      | false =>
        rw [hpart, Bool.false_or] at h
        have hsame := consumeTrigger_unnoted message hpart
        split
        · next htriggered =>
            rw [if_pos htriggered, Bool.and_eq_true] at h
            rcases modelBranch_of_matches h.1 with ⟨model, hmodel⟩
            have hnotes := runTrigger_notes (c := c) nowMs hmodel
            rw [if_pos h.2] at hnotes
            rw [branchOnTrigger_ctx, hsame, consumeTrigger_matches message hpart, if_pos h.1]
            exact hnotes
        · next htriggered =>
            rw [if_neg htriggered] at h
            rw [hsame]
            exact branchOnWait_noted message nowMs h
    · rw [if_pos (.inr htype)] at h
      simp only [htype, and_false, if_false]
      exact branchOnWait_noted message nowMs h

theorem branchOnEvent_unnoted (message : Event) (triggered : Bool) (nowMs : UInt32)
    (hlistens : triggered = true → awaitsEvent e.setup c.branch = false)
    (h : eventNotes e nowMs c.session.scenarioFlags c.branch message triggered = false) :
    (branchOnEvent e message triggered nowMs c).ctx =
        (if awaitsEvent e.setup c.branch then c.load else c) ∧
      (branchOnEvent e message triggered nowMs c).after ≠ .execute := by
  have hwait : ∀ c₁ : Ctx, c₁ = c → waitNotes e.setup c.branch message = false →
      (branchOnWait e message nowMs c₁).ctx =
          (if awaitsEvent e.setup c.branch then c.load else c) ∧
        (branchOnWait e message nowMs c₁).after ≠ .execute := by
    rintro _ rfl hquiet
    rcases branchOnWait_unnoted message nowMs hquiet with ⟨hctx, hafter⟩
    exact ⟨hctx, by rw [hafter]; exact nofun⟩
  unfold eventNotes at h
  unfold branchOnEvent
  cases hresult : message.isDeviceControlResult with
  | true =>
    rw [if_pos (.inl hresult)] at h
    exact hwait c rfl h
  | false =>
    by_cases htype : e.setup.type = .reactive
    · rw [if_neg (by simp [hresult, htype]), Bool.or_eq_false_iff] at h
      simp only [htype, Bool.not_false, and_true, true_and, if_true]
      have hsame := consumeTrigger_unnoted message h.1
      have hmatches := consumeTrigger_matches message h.1
      split
      · next htriggered =>
          have hquiet := h.2
          rw [if_pos htriggered] at hquiet
          rw [hlistens htriggered, if_neg Bool.false_ne_true, branchOnTrigger_ctx, hsame, hmatches]
          constructor
          · cases hmatch : matchesTrigger e c.session.scenarioFlags c.branch message with
            | false => rw [if_neg Bool.false_ne_true]
            | true =>
              rw [hmatch, Bool.true_and] at hquiet
              rcases modelBranch_of_matches hmatch with ⟨model, hmodel⟩
              have hnotes := runTrigger_notes (c := c) nowMs hmodel
              rw [if_neg (by rw [hquiet]; exact Bool.false_ne_true)] at hnotes
              rw [if_pos rfl, hnotes]
          · unfold branchOnTrigger
            split
            · exact nofun
            · split <;> split <;> exact nofun
      · next htriggered =>
          have hquiet := h.2
          rw [if_neg htriggered] at hquiet
          exact hwait _ hsame hquiet
    · rw [if_pos (.inr htype)] at h
      simp only [htype, and_false, if_false]
      exact hwait c rfl h

/-! ### The plan behind an event -/

/-- A function that fails has made no plan. -/
def PlanFree (out : EspErr × Ctx) : Prop := out.1 ≠ .ok → out.2.plan = none

theorem reactiveTurn_again_plan (nowMs : UInt32) (index : Nat) (action : ActionBody)
    (h : reactiveTurn e nowMs index action c = .again c') : c'.plan = c.plan := by
  unfold reactiveTurn at h
  cases action with
  | deviceCommandGroup mode startIndex count =>
    simp only at h
    split at h
    · cases h
    · cases h
  | waitDeviceEvent wait | waitAnyDeviceEvent wait | waitAllDeviceEvents wait =>
    simp only [enterReactiveWait] at h
    split at h
    · cases h
    split at h
    · cases h
    · cases h
  | waitFlags wait =>
    unfold enterWaitFlags at h
    simp only at h
    split at h
    · next c₁ hok =>
        split at hok
        · cases hok
        cases hok
        split at h
        · cases h
          rfl
        · cases h
    · cases h
  | setFlag flag =>
    simp only at h
    split at h
    · next c₁ hok =>
        cases h
        have hplan : (c.setFlag flag).2.plan = c.plan := rfl
        rw [hok] at hplan
        exact hplan
    · cases h
  | showOperatorMessage message =>
    cases h
    rfl
  | _ => cases h

theorem reactiveTurn_leave_plan (nowMs : UInt32) (index : Nat) (action : ActionBody) (err : EspErr)
    (hc : c.plan = none) (h : reactiveTurn e nowMs index action c = .leave err c') :
    PlanFree (err, c') := by
  have hkept : KeptByWaits e (fun c => c.plan = none) := .of_fields _ _ fun _ _ _ _ _ => rfl
  have hwait : ∀ turn : ReactiveTurn, turn.ctx.plan = none → turn = .leave err c' →
      c'.plan = none := by
    intro turn hplan hturn
    rw [hturn] at hplan
    exact hplan
  intro hfailed
  unfold reactiveTurn at h
  cases action with
  | deviceCommand command =>
    cases h
    exact absurd rfl hfailed
  | deviceCommandGroup mode startIndex count =>
    simp only at h
    split at h
    · cases h
      exact hc
    · cases h
      exact absurd rfl hfailed
  | waitDeviceEvent wait =>
    exact hwait _ (hkept.enterReactiveWait (fun _ h => h) hc index _ _ _
      fun found => hkept.enterWaitDeviceEvent hc wait found nowMs) h
  | waitAnyDeviceEvent wait | waitAllDeviceEvents wait =>
    exact hwait _ (hkept.enterReactiveWait (fun _ h => h) hc index _ _ _
      fun found => hkept.enterWaitGroup hc WaitType.noConfusion _ wait found nowMs) h
  | waitFlags wait =>
    unfold enterWaitFlags at h
    simp only at h
    split at h
    · next c₁ hok =>
        split at h
        · cases h
        · cases h
          exact absurd rfl hfailed
    · next err₁ c₁ _ hout =>
        split at hout
        · cases hout
          cases h
          exact hc
        · cases hout
          cases h
          exact hc
  | setFlag flag =>
    simp only at h
    split at h
    · cases h
    · next err₁ c₁ _ hout =>
        have hplan : (c.setFlag flag).2.plan = c.plan := rfl
        rw [hout] at hplan
        cases h
        exact hplan.trans hc
  | showOperatorMessage message => cases h
  | _ =>
    cases h
    exact hc

theorem reactiveLoop_planFree (finish : Ctx → EspErr × Ctx) (nowMs : UInt32)
    (hfinish : ∀ c, c.plan = none → PlanFree (finish c)) (budget : Nat) (c : Ctx)
    (hc : c.plan = none) : PlanFree (reactiveLoop finish e nowMs budget c) := by
  induction budget generalizing c with
  | zero => exact fun hfailed => absurd rfl hfailed
  | succ n ih =>
    unfold reactiveLoop
    split
    · exact hfinish c hc
    simp only
    split
    · exact fun _ => hc
    · next action _ =>
        split
        · next err c₁ hturn => exact reactiveTurn_leave_plan nowMs _ action err hc hturn
        · next c₁ hturn =>
            exact ih c₁ ((reactiveTurn_again_plan nowMs _ action hturn).trans hc)

theorem finishWith_planFree (fire : Ctx → EspErr × Ctx)
    (hfire : ∀ c, c.plan = none → PlanFree (fire c)) (model : ScenarioBranch) (nowMs : UInt32)
    (c : Ctx) (hc : c.plan = none) : PlanFree (finishWith fire e model nowMs c) := by
  have hcompleted : (applyCompletion e model c).2.plan = none :=
    (KeptByWaits.of_fields Ctx.plan none fun _ _ _ _ _ => rfl).applyCompletion hc model
  unfold finishWith
  split
  · next c₁ hok =>
      rw [hok] at hcompleted
      simp only
      split
      · exact fun hfailed => absurd rfl hfailed
      split
      · exact hfire _ hcompleted
      · exact fun hfailed => absurd rfl hfailed
  · next err c₁ _ hout =>
      rw [hout] at hcompleted
      exact fun _ => hcompleted

theorem selectVariant_plan (model : ScenarioBranch) (c : Ctx) :
    (selectVariant model c).2.plan = c.plan := by
  unfold selectVariant
  simp only
  split
  · rfl
  · split <;> rfl

theorem fireWith_planFree (run : Ctx → EspErr × Ctx)
    (hrun : ∀ c, c.plan = none → PlanFree (run c)) (nowMs : UInt32) (c : Ctx)
    (hc : c.plan = none) : PlanFree (fireWith run e nowMs c) := by
  unfold fireWith
  split
  · exact fun _ => hc
  · next model _ =>
      split
      · exact fun _ => hc
      split
      · exact fun _ => hc
      split
      · split
        · exact fun hfailed => absurd rfl hfailed
        · exact fun hfailed => absurd rfl hfailed
      · exact hrun _ ((selectVariant_plan model c).trans hc)

theorem reactiveContinue_planFree (depth : Nat) (nowMs : UInt32) (c : Ctx) (hc : c.plan = none) :
    PlanFree (reactiveContinue depth e nowMs c) := by
  induction depth generalizing c with
  | zero => exact fun hfailed => absurd rfl hfailed
  | succ n ih =>
    unfold reactiveContinue
    split
    · exact fun _ => hc
    · next model _ =>
        split
        · exact fun _ => hc
        refine reactiveLoop_planFree _ nowMs (fun c hc => ?_) _ _ rfl
        exact finishWith_planFree _ (fun c hc => fireWith_planFree _ ih nowMs c hc) model nowMs c
          hc

theorem runTrigger_planFree (nowMs : UInt32) (c : Ctx) (hc : c.plan = none) :
    PlanFree (runTrigger e nowMs c) := by
  have hfire : ∀ c : Ctx, c.plan = none → PlanFree (fireLocked e nowMs c) :=
    fun c hc => fireWith_planFree _ (reactiveContinue_planFree _ nowMs) nowMs c hc
  unfold runTrigger
  split
  · unfold triggerDuringWait
    split
    · exact fun _ => hc
    split
    · exact fun _ => hc
    split
    · split
      · exact fun hfailed => absurd rfl hfailed
      · exact fun hfailed => absurd rfl hfailed
    split
    · exact hfire _ hc
    · exact hfire _ hc
  · exact hfire c hc

theorem consumeTrigger_plan (message : Event) (c : Ctx) :
    (consumeTrigger e message c).2.plan = c.plan := (consumeTrigger_rests e message c).1.plan

theorem branchOnTrigger_next (message : Event) (nowMs : UInt32) (hc : c.plan = none)
    (h : (branchOnTrigger e message nowMs c).after = .next) :
    (branchOnTrigger e message nowMs c).ctx.plan = none := by
  have hconsumed := (consumeTrigger_plan (e := e) message c).trans hc
  unfold branchOnTrigger at h ⊢
  split
  · next c₁ hout =>
      rw [hout] at hconsumed
      exact hconsumed
  · next c₁ hout =>
      rw [hout] at h hconsumed
      have hfree := runTrigger_planFree (e := e) nowMs c₁ hconsumed
      unfold runTrigger at hfree
      split at hfree
      · next htime =>
          simp only [htime, if_true] at h ⊢
          split at h
          · cases h
          · next hfailed =>
              rw [if_neg hfailed]
              exact hfree hfailed
      · next htime =>
          simp only [htime, if_false] at h ⊢
          split at h
          · cases h
          · next hfailed =>
              rw [if_neg hfailed]
              exact hfree hfailed

theorem branchOnWait_next (message : Event) (nowMs : UInt32) (hc : c.plan = none)
    (h : (branchOnWait e message nowMs c).after = .next) :
    (branchOnWait e message nowMs c).ctx.plan = none := by
  unfold branchOnWait at h ⊢
  split
  · exact hc
  · next hawaits =>
      simp only [if_neg hawaits] at h ⊢
      split
      · exact hc
      · next hindex =>
          simp only [hindex] at h
          split
          · next htype =>
              rw [if_pos htype] at h
              unfold branchOnCommandResult at h ⊢
              split
              · exact hc
              · next hpending =>
                  rw [if_neg hpending] at h
                  split
                  · next hfailure =>
                      rw [if_pos hfailure] at h
                      split
                      · next hv2 =>
                          rw [if_pos hv2] at h
                          cases h
                      · exact hc
                  · next hfailure =>
                      rw [if_neg hfailure] at h
                      split
                      · exact hc
                      · next hsuccess =>
                          rw [if_neg hsuccess] at h
                          split at h
                          · cases h
                          · cases h
          · next htype =>
              rw [if_neg htype] at h
              split
              · next hall =>
                  rw [if_pos hall] at h
                  unfold branchOnGroupEvent at h ⊢
                  simp only at h ⊢
                  split
                  · next hmet =>
                      rw [if_pos hmet] at h
                      cases h
                  · exact hc
              · next hall =>
                  rw [if_neg hall] at h
                  cases h

theorem branchOnEvent_next (message : Event) (triggered : Bool) (nowMs : UInt32)
    (hc : c.plan = none) (h : (branchOnEvent e message triggered nowMs c).after = .next) :
    (branchOnEvent e message triggered nowMs c).ctx.plan = none := by
  unfold branchOnEvent at h ⊢
  split
  · next htriggered =>
      rw [if_pos htriggered] at h
      exact branchOnTrigger_next message nowMs hc h
  · next htriggered =>
      rw [if_neg htriggered] at h
      split
      · next htype =>
          rw [if_pos htype] at h
          exact branchOnWait_next message nowMs ((consumeTrigger_plan message c).trans hc) h
      · next htype =>
          rw [if_neg htype] at h
          exact branchOnWait_next message nowMs hc h

end SceneHub
