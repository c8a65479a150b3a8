import SceneHub.Theory.Rooms

/-!
# Branches at Rest

When a tick or an event finds nothing to do on a branch it still loads the
branch into the session's scratch fields, and an elapsed cooldown still ends.
This file says when there is nothing to do, from the state before, and what is
left behind then.

The summary is decided by the setups and states of the branches alone, so a
branch that keeps its state does not change it.

## Main definitions

* `tickStirs`: A tick moves the branch on.
* `eventStirs`: An event triggers the branch or ends its wait.
* `restTurn`: What a tick does to a branch it does not move on.
* `Branch.key`: What the summary's overall state reads of a branch.

## Theorems

* `processBranch_rests`: A tick on a branch at rest is `restTurn`.
* `branchOnEvent_rests`: An event on a branch at rest changes no wait.
* `isDone_congr`: Branches with the same keys are done together.
-/

namespace SceneHub

open Lib (sweep)

variable {b b' : Branch}

/-! ### Ticks -/

/-- The flags a wait is for are all set as wanted. -/
def flagsHold (flags : List Flag) (w : Wait) : Bool :=
  w.waitFlags ≠ [] && flagsMatch flags w.waitFlags

/-- The code has a timeout for the wait the branch is in: every wait of a
    reaction has one, and those of the two step types with a message. -/
def timeoutKnown (e : Env) (b : BranchRun) : Bool :=
  e.isReactiveV2 ||
  ((e.scenario.steps[b.progress.currentStepIndex]?).bind fun step =>
    waitTimeoutMessage step.body).isSome

def tickStirs (e : Env) (nowMs : UInt32) (flags : List Flag) (b : BranchRun) : Bool :=
  e.setup.active &&
  match b.progress.scenarioState with
  | .running => true
  | .cooldown => !e.isReactiveV2 && timeReached nowMs b.cooldownUntilMs
  | .waiting =>
    match b.progress.wait.waitType with
    | .time => waitExpired nowMs b.progress.wait
    | .deviceEvent | .anyDeviceEvent | .allDeviceEvents =>
      waitExpired nowMs b.progress.wait && timeoutKnown e b
    | .flags =>
      flagsHold flags b.progress.wait ||
      (waitExpired nowMs b.progress.wait && timeoutKnown e b)
    | _ => false
  | _ => false

/-- Leaving an elapsed cooldown, as a branch of the second format does. -/
def endCooldown (e : Env) (c : Ctx) : Ctx :=
  let c := (c.setBranchStep e.setup.stepStartIndex).setBranchState .waiting
  { c with branch := { c.branch with cooldownUntilMs := 0 } }.branchClearWait.markChanged e

/-- What a tick does to a branch it does not move on. -/
def restTurn (e : Env) (nowMs : UInt32) (c : Ctx) : Ctx × Bool :=
  if !e.setup.active then (c, false)
  else if c.branch.progress.scenarioState = .cooldown then
    if timeReached nowMs c.branch.cooldownUntilMs then (endCooldown e c, false) else (c, false)
  else (c.load, c.plan.isSome)

/-- A tick loads the branch into the scratch fields. -/
def tickLoads (b : Branch) : Bool := b.setup.active && b.state ≠ .cooldown

/-- The scratch fields behind a tick on branches at rest: those of the last
    branch loaded. -/
def tickScratch (branches : List Branch) (p : Progress) : Progress :=
  branches.foldl (fun p b => if tickLoads b then b.run.progress else p) p

theorem load_save (c : Ctx) : c.load.save = c.load := rfl

section

variable (e : Env) (nowMs : UInt32) (c : Ctx)

theorem applyWaitTimeout_none (h : (waitTimeoutReached nowMs c.session.progress.wait.waitUntilMs &&
      ((e.scenario.steps[c.session.progress.currentStepIndex]?).bind fun step =>
        waitTimeoutMessage step.body).isSome) = false) : applyWaitTimeout e nowMs c = none := by
  unfold applyWaitTimeout
  split
  · rfl
  · next hreached =>
      simp only [Bool.not_eq_true, Bool.not_eq_false'] at hreached
      rw [hreached, Bool.true_and] at h
      split
      · rfl
      · next step hstep =>
          rw [hstep, Option.bind_some] at h
          split
          · rfl
          · next message hmessage =>
              rw [hmessage] at h
              cases h

theorem processWait_rests
    (hstate : c.branch.progress.scenarioState ≠ .cooldown) (hactive : e.setup.active = true)
    (h : tickStirs e nowMs c.session.scenarioFlags c.branch = false) :
    processWait e nowMs c.load = .handled c.load := by
  have hprogress : c.load.session.progress = c.branch.progress := rfl
  have hflags : waitFlagsMet c.load.session =
      flagsHold c.session.scenarioFlags c.branch.progress.wait := rfl
  simp only [tickStirs, hactive, Bool.true_and] at h
  -- The wait is not ended by its deadline, or has no timeout.
  have htimeout : ∀ htype : c.branch.progress.wait.waitType ≠ .time, e.isReactiveV2 = false →
      (waitExpired nowMs c.branch.progress.wait && timeoutKnown e c.branch) = false →
      applyWaitTimeout e nowMs c.load = none := by
    intro htype hv2 hknown
    refine applyWaitTimeout_none e nowMs c.load ?_
    simp only [timeoutKnown, hv2, Bool.false_or] at hknown
    unfold waitExpired at hknown
    split at hknown
    · next ht => exact absurd ht htype
    · exact hknown
  unfold processWait
  simp only [hprogress, hflags, load_save]
  cases hs : c.branch.progress.scenarioState with
  | running =>
    rw [hs] at h
    cases h
  | cooldown => exact absurd hs hstate
  | waiting =>
    rw [hs] at h
    cases ht : c.branch.progress.wait.waitType with
    | time =>
      simp only [ht] at h
      simp [h]
    | deviceEvent | anyDeviceEvent | allDeviceEvents =>
      simp only [ht] at h
      simp only [reduceCtorEq, and_false, if_false, or_true, true_or, and_true, if_true]
      split
      · rfl
      · next hexpired =>
          rw [Bool.not_eq_true, Bool.not_eq_false'] at hexpired
          have hknown := h
          simp only [hexpired, Bool.true_and, timeoutKnown, Bool.or_eq_false_iff] at hknown
          rw [if_neg (by rw [hknown.1]; exact Bool.false_ne_true),
            htimeout (by rw [ht]; exact nofun) hknown.1 h]
    | flags =>
      simp only [ht, Bool.or_eq_false_iff] at h
      simp only [reduceCtorEq, and_false, if_false, or_self, and_true, if_true, h.1,
        Bool.not_false]
      split
      · next hv2 =>
          have hexpired := h.2
          simp only [timeoutKnown, hv2, Bool.true_or, Bool.and_true] at hexpired
          simp [hexpired]
      · next hv2 =>
          rw [Bool.not_eq_true] at hv2
          rw [htimeout (by rw [ht]; exact nofun) hv2 h.2]
    | _ =>
      simp
  | _ =>
    simp

theorem processBranch_rests (h : tickStirs e nowMs c.session.scenarioFlags c.branch = false) :
    processBranch e nowMs c = restTurn e nowMs c := by
  unfold processBranch prepareBranch restTurn
  cases hactive : e.setup.active with
  | false => rfl
  | true =>
    simp only [Bool.not_true, Bool.false_eq_true, if_false]
    by_cases hcool : c.branch.progress.scenarioState = .cooldown
    · simp only [hcool, ne_eq, not_true_eq_false, if_false, if_true]
      simp only [tickStirs, hactive, hcool, Bool.true_and] at h
      cases hreached : timeReached nowMs c.branch.cooldownUntilMs with
      | false => rfl
      | true =>
        rw [hreached, Bool.and_true, Bool.not_eq_false'] at h
        simp only [Bool.not_true, Bool.false_eq_true, if_false, h, if_true]
        rfl
    · simp only [hcool, ne_eq, not_false_eq_true, if_true, if_false]
      rw [processWait_rests e nowMs c hcool hactive h]
      rfl

end

/-! ### Events -/

/-- An event triggers the branch or ends its wait. -/
def eventStirs (r : RoomCtx) (message : Event) (b : Branch) : Bool :=
  (reactiveMatch r message b).trigger || branchWaitMatches b.setup b.run message

/-- What rest leaves as it was: the plan, the flags, the session's own record,
    and the branch's shared fields. -/
structure Rested (c c' : Ctx) : Prop where
  plan : c'.plan = c.plan
  flags : c'.session.scenarioFlags = c.session.scenarioFlags
  state : c'.session.state = c.session.state
  finishedAtMs : c'.session.finishedAtMs = c.session.finishedAtMs
  branch : c'.branch.progress = c.branch.progress

theorem consumeTrigger_rests (e : Env) (message : Event) (c : Ctx) :
    Rested c (consumeTrigger e message c).2 ∧
      (consumeTrigger e message c).2.session.progress = c.session.progress := by
  unfold consumeTrigger
  split
  · exact ⟨⟨rfl, rfl, rfl, rfl, rfl⟩, rfl⟩
  split
  · split
    · exact ⟨⟨rfl, rfl, rfl, rfl, rfl⟩, rfl⟩
    simp only
    split
    · exact ⟨⟨rfl, rfl, rfl, rfl, rfl⟩, rfl⟩
    · exact ⟨⟨rfl, rfl, rfl, rfl, rfl⟩, rfl⟩
  · exact ⟨⟨rfl, rfl, rfl, rfl, rfl⟩, rfl⟩

theorem branchOnWait_rests (e : Env) (message : Event) (nowMs : UInt32) (c : Ctx)
    (h : branchWaitMatches e.setup c.branch message = false) : branchOnWait e message nowMs c =
      ⟨if awaitsEvent e.setup c.branch then c.load else c, false, .next⟩ := by
  unfold branchOnWait
  cases hawaits : awaitsEvent e.setup c.branch with
  | false => rfl
  | true =>
    have hnone : waitEventMatchIndex c.branch.progress.wait message = none := by
      rw [branchWaitMatches, hawaits, Bool.true_and, Option.isSome_eq_false_iff,
        Option.isNone_iff_eq_none] at h
      exact h
    have hload : c.load.session.progress.wait = c.branch.progress.wait := rfl
    simp [hload, hnone, load_save]

/-- The scratch fields behind a turn that at most loads a branch which waits. -/
def AtMostLoads (c c' : Ctx) : Prop :=
  c'.session.progress = c.session.progress ∨
    (c'.session.progress = c.branch.progress ∧ c.branch.progress.scenarioState = .waiting)

theorem branchOnEvent_rests (e : Env) (message : Event) (nowMs : UInt32) (c : Ctx)
    (h : branchWaitMatches e.setup c.branch message = false) :
    (branchOnEvent e message false nowMs c).after = .next ∧
      Rested c (branchOnEvent e message false nowMs c).ctx ∧
      AtMostLoads c (branchOnEvent e message false nowMs c).ctx := by
  have hwaiting : awaitsEvent e.setup c.branch = true →
      c.branch.progress.scenarioState = .waiting := by
    intro hawaits
    simp only [awaitsEvent, Bool.and_eq_true, decide_eq_true_iff] at hawaits
    exact hawaits.1.2
  -- Loading or not, nothing but the scratch fields changes.
  have hwait : ∀ c' : Ctx, Rested c c' → c'.session.progress = c.session.progress →
      (branchOnWait e message nowMs c').after = .next ∧
        Rested c (branchOnWait e message nowMs c').ctx ∧
        AtMostLoads c (branchOnWait e message nowMs c').ctx := by
    intro c' hrest hscratch
    have hsame : branchWaitMatches e.setup c'.branch message = false := by
      simp only [branchWaitMatches, awaitsEvent, hrest.branch] at h ⊢
      exact h
    rw [branchOnWait_rests e message nowMs c' hsame]
    refine ⟨rfl, ?_, ?_⟩
    · split
      · exact ⟨hrest.plan, hrest.flags, hrest.state, hrest.finishedAtMs, hrest.branch⟩
      · exact hrest
    split
    · next hawaits =>
        refine .inr ⟨hrest.branch, hwaiting ?_⟩
        simp only [awaitsEvent, hrest.branch] at hawaits ⊢
        exact hawaits
    · exact .inl hscratch
  unfold branchOnEvent
  simp only [Bool.false_eq_true, false_and, and_false, if_false]
  split
  · -- A reaction first records what the event is to its trigger.
    rcases consumeTrigger_rests e message c with ⟨hconsumed, hscratch⟩
    exact hwait _ hconsumed hscratch
  · exact hwait c ⟨rfl, rfl, rfl, rfl, rfl⟩ rfl

/-! ### The overall state -/

/-- What the overall state is decided by. Whether a branch cools down or waits
    makes no difference. -/
def Branch.key (b : Branch) : BranchSetup × ScenarioState :=
  (b.setup, if b.state = .cooldown then .waiting else b.state)

/-- Two scans that have picked branches of the same keys. Once a normal branch
    runs, the one selected no longer matters. -/
structure SummaryScan.Like (acc acc' : SummaryScan) : Prop where
  fallback : acc.fallback.map Branch.key = acc'.fallback.map Branch.key
  reactiveSelected :
    acc.reactiveSelected.map Branch.key = acc'.reactiveSelected.map Branch.key
  selected : acc.anyRunning = true ∨
    acc.selected.map Branch.key = acc'.selected.map Branch.key
  anyActive : acc.anyActive = acc'.anyActive
  anyRequiredActive : acc.anyRequiredActive = acc'.anyRequiredActive
  allRequiredDone : acc.allRequiredDone = acc'.allRequiredDone
  anyRunning : acc.anyRunning = acc'.anyRunning

theorem key_setup (h : b.key = b'.key) : b.setup = b'.setup :=
  congrArg Prod.fst h

theorem key_isReactive (h : b.key = b'.key) : b.isReactive = b'.isReactive := by
  unfold Branch.isReactive
  rw [key_setup h]

theorem key_state (h : b.key = b'.key) (s : ScenarioState) (hcool : s ≠ .cooldown)
    (hwait : s ≠ .waiting) : b.state = s ↔ b'.state = s := by
  have hstate := congrArg Prod.snd h
  simp only [Branch.key] at hstate
  by_cases hb : b.state = .cooldown
  · by_cases hb' : b'.state = .cooldown
    · rw [hb, hb']
    rw [if_pos hb, if_neg hb'] at hstate
    rw [hb, ← hstate]
    exact ⟨fun h => absurd h.symm hcool, fun h => absurd h.symm hwait⟩
  by_cases hb' : b'.state = .cooldown
  · rw [if_neg hb, if_pos hb'] at hstate
    rw [hb', hstate]
    exact ⟨fun h => absurd h.symm hwait, fun h => absurd h.symm hcool⟩
  · rw [if_neg hb, if_neg hb'] at hstate
    rw [hstate]

theorem key_underWay (h : b.key = b'.key) :
    (b.state = .running ∨ b.state = .waiting ∨ b.state = .cooldown) ↔
      (b'.state = .running ∨ b'.state = .waiting ∨ b'.state = .cooldown) := by
  have hrunning := key_state h .running nofun nofun
  have hstate := congrArg Prod.snd h
  simp only [Branch.key] at hstate
  constructor
  · rintro (hb | hb)
    · exact .inl (hrunning.mp hb)
    have hwaiting : (if b.state = .cooldown then ScenarioState.waiting else b.state) =
        .waiting := by
      rcases hb with hb | hb <;> simp only [hb, reduceCtorEq, if_true, if_false]
    rw [hwaiting] at hstate
    by_cases hb' : b'.state = .cooldown
    · exact .inr (.inr hb')
    · rw [if_neg hb'] at hstate
      exact .inr (.inl hstate.symm)
  rintro (hb | hb)
  · exact .inl (hrunning.mpr hb)
  have hwaiting : (if b'.state = .cooldown then ScenarioState.waiting else b'.state) =
      .waiting := by
    rcases hb with hb | hb <;> simp only [hb, reduceCtorEq, if_true, if_false]
  rw [hwaiting] at hstate
  by_cases hb' : b.state = .cooldown
  · exact .inr (.inr hb')
  · rw [if_neg hb'] at hstate
    exact .inr (.inl hstate)

theorem takesFallback_like {f f' : Option Branch} (hf : f.map Branch.key = f'.map Branch.key)
    (h : b.key = b'.key) : takesFallback f b = takesFallback f' b' := by
  have hsetup := key_setup h
  unfold takesFallback Branch.isReactive
  cases f with
  | none =>
    cases f' with
    | none => rw [hsetup]
    | some x' => cases hf
  | some x =>
    cases f' with
    | none => cases hf
    | some x' =>
      have hx := key_setup (Option.some.inj hf)
      simp only [hsetup, hx]

theorem SummaryScan.Like.meet {acc acc' : SummaryScan} (hlike : acc.Like acc')
    (h : b.key = b'.key) : (acc.meet b).Like (acc'.meet b') := by
  refine ⟨?_, hlike.reactiveSelected, hlike.selected, rfl, hlike.anyRequiredActive,
    hlike.allRequiredDone, hlike.anyRunning⟩
  unfold SummaryScan.meet
  simp only [takesFallback_like hlike.fallback h]
  by_cases htakes : takesFallback acc'.fallback b' = true
  · simp [htakes, h]
  · simp only [if_neg htakes]
    exact hlike.fallback

theorem SummaryScan.Like.note {acc acc' : SummaryScan} (hlike : acc.Like acc')
    (h : b.key = b'.key) : (acc.note b).Like (acc'.note b') := by
  have hsetup := key_setup h
  have hsame := key_isReactive h
  have hdone := key_state h .done nofun nofun
  have hunder := key_underWay h
  have hreactive : acc.reactiveSelected.isNone = acc'.reactiveSelected.isNone := by
    have := congrArg Option.isNone hlike.reactiveSelected
    rwa [Option.isNone_map, Option.isNone_map] at this
  refine ⟨hlike.fallback, ?_, ?_, hlike.anyActive, ?_, ?_, ?_⟩
  · have hcond : (b.state = .waiting ∨ b.state = .running ∨ b.state = .cooldown) ↔
        (b'.state = .waiting ∨ b'.state = .running ∨ b'.state = .cooldown) := by
      rw [or_left_comm, hunder, or_left_comm]
    simp only [SummaryScan.note, hsame, hreactive, hcond]
    by_cases hpicks : acc'.reactiveSelected.isNone = true ∧ b'.isReactive = true ∧
        (b'.state = .waiting ∨ b'.state = .running ∨ b'.state = .cooldown)
    · simp only [if_pos hpicks, Option.map_some, h]
    · simp only [if_neg hpicks]
      exact hlike.reactiveSelected
  · -- A normal branch under way makes the selected one irrelevant.
    by_cases hnormal : b'.isReactive = true
    · rcases hlike.selected with hrunning | hselected
      · exact .inl (by simp [SummaryScan.note, hrunning])
      refine .inr ?_
      simp only [SummaryScan.note, hsame, hnormal, Bool.not_true, Bool.false_eq_true,
        false_and, and_false, if_false]
      exact hselected
    rw [Bool.not_eq_true] at hnormal
    by_cases hway : b.state = .running ∨ b.state = .waiting ∨ b.state = .cooldown
    · refine .inl ?_
      simp only [SummaryScan.note, hsame, hnormal, Bool.not_false, Bool.true_and,
        Bool.or_eq_true, decide_eq_true_iff]
      exact .inr (or_assoc.mpr hway)
    have hway' := fun hb' => hway (hunder.mpr hb')
    rcases hlike.selected with hrunning | hselected
    · exact .inl (by simp [SummaryScan.note, hrunning])
    refine .inr ?_
    have hnot : ¬ (b.state = .waiting ∨ b.state = .running) :=
      fun hb => hway (hb.elim (fun h => .inr (.inl h)) .inl)
    have hnot' : ¬ (b'.state = .waiting ∨ b'.state = .running) :=
      fun hb => hway' (hb.elim (fun h => .inr (.inl h)) .inl)
    simp only [SummaryScan.note, hnot, hnot', and_false, if_false]
    exact hselected
  · simp only [SummaryScan.note, hsame, hsetup, hlike.anyRequiredActive]
  · simp [SummaryScan.note, hsame, hsetup, hlike.allRequiredDone, hdone]
  · have hcond : (decide (b.state = .running) || decide (b.state = .waiting) ||
        decide (b.state = .cooldown)) = (decide (b'.state = .running) ||
          decide (b'.state = .waiting) || decide (b'.state = .cooldown)) := by
      rw [Bool.eq_iff_iff]
      simp only [Bool.or_eq_true, decide_eq_true_iff, or_assoc]
      exact hunder
    simp only [SummaryScan.note, hsame, hlike.anyRunning, hcond]

theorem summaryScan_like (branches branches' : List Branch)
    (h : branches.map Branch.key = branches'.map Branch.key) (acc acc' : SummaryScan)
    (hlike : acc.Like acc') : (summaryScan acc branches).Like (summaryScan acc' branches') := by
  induction branches generalizing branches' acc acc' with
  | nil =>
    cases branches' with
    | nil => exact hlike
    | cons b' rest' => cases h
  | cons b rest ih =>
    cases branches' with
    | nil => cases h
    | cons b' rest' =>
      rw [List.map_cons, List.map_cons, List.cons.injEq] at h
      rcases h with ⟨hkey, hrest⟩
      have hsetup := key_setup hkey
      have herror := key_state hkey .error nofun nofun
      have hmeet := hlike.meet hkey
      unfold summaryScan
      simp only [hsetup, herror, key_isReactive hkey]
      cases hactive : b'.setup.active with
      | false =>
        exact ih rest' hrest acc acc' hlike
      | true =>
        by_cases hfailed : b'.state = .error
        · simp only [if_pos hfailed]
          cases hreactive : b'.isReactive with
          | true =>
            refine ih rest' hrest _ _ ⟨hmeet.fallback, ?_, hmeet.selected, hmeet.anyActive,
              hmeet.anyRequiredActive, hmeet.allRequiredDone, hmeet.anyRunning⟩
            have hpicked := hlike.reactiveSelected
            simp only [Option.map_or, Option.map_some, hpicked, hkey]
          | false =>
            -- A failed normal branch ends both scans.
            exact ⟨hmeet.fallback, hmeet.reactiveSelected,
              .inr (by simp [hkey]), hmeet.anyActive,
              hmeet.anyRequiredActive, hmeet.allRequiredDone, hmeet.anyRunning⟩
        · simp only [if_neg hfailed]
          exact ih rest' hrest _ _ (hmeet.note hkey)

theorem isDone_congr (branches branches' : List Branch)
    (h : branches.map Branch.key = branches'.map Branch.key) :
    (summaryScan {} branches).isDone = (summaryScan {} branches').isDone := by
  have hlike := summaryScan_like branches branches' h {} {}
    ⟨rfl, rfl, .inr rfl, rfl, rfl, rfl, rfl⟩
  have hdone : ∀ f f' : Option Branch, f.map Branch.key = f'.map Branch.key →
      (f.any fun b => b.state = .done) = f'.any fun b => b.state = .done := by
    intro f f' hf
    cases f with
    | none =>
      cases f' with
      | none => rfl
      | some x' => cases hf
    | some x =>
      cases f' with
      | none => cases hf
      | some x' =>
        have := key_state (Option.some.inj hf) .done nofun
          nofun
        simp [this]
  unfold SummaryScan.isDone
  rw [hlike.anyActive, hlike.anyRequiredActive, hlike.allRequiredDone, hlike.anyRunning]
  rcases hlike.selected with hrunning | hselected
  · rw [hlike.anyRunning] at hrunning
    simp [hrunning]
  rw [hdone _ (summaryScan {} branches').choice]
  unfold SummaryScan.choice
  simp only [Option.map_or, hselected, hlike.fallback, hlike.reactiveSelected]

end SceneHub
