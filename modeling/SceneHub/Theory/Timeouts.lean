import SceneHub.Theory.Delivery
import SceneHub.Theory.Rest

/-!
# Expired Waits of Reactions

A reaction that waits has its wait in two places, in its branch and, while a
tick works on it, in the session's scratch fields. When the wait has run out,
the tick applies the timeout action to the branch and then saves the scratch
fields over it. So what the timeout action did survives only if it ended with
the two copies equal.

Failing and resetting a reaction write the branch alone, and are always undone.
Going on with the next action comes out right if the reaction parks: if it
comes to an action that leaves the branch saved from the scratch fields, a
command or a wait for events or flags. Which action it comes to can be told
from the actions ahead and the flags, which `actionsPark` does.

A reaction that runs out of actions instead is put back into the wait that has
run out, so its completion is applied again by the next tick. As long as every
wait that runs out parks, a reaction completes at most once for each fire.

## Main definitions

* `ActionExpired`: The wait of a reaction's current action has run out.
* `Prescribed`: What the timeout action says the branch is to become.
* `outlook`, `actionsPark`: Where the actions ahead lead.
* `ParksAfter`: Going on behind the wait parks the reaction.
* `Balanced`: A function completes a reaction as often as it fires it.
* `ticksOn`: What ticks make of a branch, and how often it fires and completes.

## Theorems

* `continueLocked_synced_iff`: Going on leaves the two copies equal exactly if
  the reaction parks.
* `processBranch_balanced`: A tick keeps a reaction balanced, if what runs out
  parks.
* `expired_wait_ends_iff`: The expired wait ends as prescribed exactly if it
  parks; runs of such ticks complete each fire at most once.
-/

namespace SceneHub

/-! ### What a timeout prescribes -/

/-- The wait of a reaction's current action has run out: for a time, for device
    events, or for flags that do not hold. -/
def ActionExpired (e : Env) (nowMs : UInt32) (c : Ctx) : Prop :=
  e.setup.active = true ∧ e.isReactiveV2 = true ∧ c.branch.progress.scenarioState = .waiting ∧
  (c.branch.progress.wait.waitType = .time ∨
    c.branch.progress.wait.waitType.isDeviceWait = true ∨
    (c.branch.progress.wait.waitType = .flags ∧
      flagsHold c.session.scenarioFlags c.branch.progress.wait = false)) ∧
  waitExpired nowMs c.branch.progress.wait = true

instance (e : Env) (nowMs : UInt32) (c : Ctx) : Decidable (ActionExpired e nowMs c) :=
  inferInstanceAs (Decidable (_ ∧ _))

/-- The action a reaction stands at. -/
def currentAction (e : Env) (b : BranchRun) : Option ActionBody :=
  e.scenario.reactiveActions[b.reactiveActionStartIndex + b.reactiveCurrentAction]?

/-- What the timeout action of the current action says the branch is to become. -/
def Prescribed (e : Env) (nowMs : UInt32) (c : Ctx) (action : ActionBody) (b : BranchRun) : Prop :=
  match actionTimeoutAction action with
  | .failReaction => b.progress.scenarioState = .error ∧ b.progress.wait = {}
  | .resetReaction =>
    b.progress = ⟨.waiting, e.setup.stepStartIndex, {}⟩ ∧ b.fireCount = 0 ∧
    b.cooldownUntilMs = 0 ∧ b.pendingTrigger = false ∧ b.reactiveActionCount = 0 ∧
    b.reactiveCurrentAction = 0
  | .continue => b = (continueLocked e nowMs c.load.actionDone).2.branch

/-! ### Where the actions ahead lead -/

/-- What the actions ahead depend on: the flag events deferred, the flags, and
    the scratch fields. -/
structure Prospect where
  events : List Flag
  flags : List Flag
  scratch : Progress
  deriving DecidableEq, Repr

def Ctx.prospect (c : Ctx) : Prospect :=
  ⟨c.lock.flagEvents, c.session.scenarioFlags, c.session.progress⟩

/-- Setting a flag; `none` if that fails. -/
def Prospect.setFlag (p : Prospect) (flag : Flag) : Option Prospect :=
  match SceneHub.setFlag { flagEvents := p.events } p.flags flag.name flag.value with
  | (.ok, lock, flags) => some { p with events := lock.flagEvents, flags := flags }
  | _ => none

/-- How the turn at an action ends. -/
inductive Outlook where
  /-- The reaction stops here; the flag says whether it parks, that is, whether
      the branch is left equal to the scratch fields. -/
  | stops (parked : Bool)
  | goesOn (p : Prospect)
  deriving DecidableEq, Repr

/-- The wait a `WAIT_FLAGS` action enters. -/
def flagsWait (wait : WaitFlags) (nowMs : UInt32) : Wait :=
  { waitType := .flags
    waitStartedAtMs := nowMs
    waitUntilMs := deadlineOf nowMs wait.timeoutMs
    waitFlags := wait.flags }

/-- The turn at `action`, of a branch that stands at step `step`. A timed wait
    writes only the branch, so it parks if it is the very wait in the scratch
    fields. -/
def outlook (e : Env) (nowMs : UInt32) (step index : Nat) (action : ActionBody) (p : Prospect) :
    Outlook :=
  match action with
  | .deviceCommand _ => .stops true
  | .deviceCommandGroup mode startIndex count =>
    .stops (reactiveGroupError e mode startIndex count).isNone
  | .waitTime wait =>
    .stops (p.scratch = ⟨.waiting, step,
      { waitType := .time, waitStartedAtMs := nowMs, waitUntilMs := nowMs + wait.durationMs }⟩)
  | .waitDeviceEvent _ | .waitAnyDeviceEvent _ | .waitAllDeviceEvents _ =>
    .stops (enteredWait e index action).isSome
  | .waitFlags wait =>
    if wait.flags.length = 0 ∨ waitFlagsMaxFlags < wait.flags.length then .stops false
    else if flagsMatch p.flags wait.flags then
      .goesOn { p with scratch := ⟨.waiting, p.scratch.currentStepIndex, flagsWait wait nowMs⟩ }
    else .stops true
  | .setFlag flag =>
    match p.setFlag flag with
    | some p => .goesOn p
    | none => .stops false
  | .showOperatorMessage _ => .goesOn p
  | .failReaction | .resetReaction | .operatorApproval | .endGame => .stops false

/-- The actions from `index` up to `last` lead to one that parks, or to the end,
    where `finish` decides. -/
def actionsPark (e : Env) (nowMs : UInt32) (step last : Nat) (finish : Prospect → Bool) :
    Nat → Nat → Prospect → Bool
  | 0, _, _ => false
  | budget + 1, index, p =>
    if last ≤ index then finish p
    else match e.scenario.reactiveActions[index]? with
      | none => false
      | some action =>
        match outlook e nowMs step index action p with
        | .stops parked => parked
        | .goesOn p => actionsPark e nowMs step last finish budget (index + 1) p

/-- What the completing actions leave; `none` if one fails. -/
def completionProspect : List ActionBody → Prospect → Option Prospect
  | [], p => some p
  | .setFlag flag :: rest, p => (p.setFlag flag).bind (completionProspect rest)
  | _ :: rest, p => completionProspect rest p

/-- What completing the reaction leaves. -/
def completionAhead (e : Env) (model : ScenarioBranch) (p : Prospect) : Option Prospect :=
  if e.scenario.reactiveActions.length <
      model.onCompleteActionStartIndex + model.onCompleteActionCount then none
  else completionProspect
    ((e.scenario.reactiveActions.drop model.onCompleteActionStartIndex).take
      model.onCompleteActionCount) p

/-- A queued trigger fires the reaction again as soon as it finishes. -/
def refires (nowMs : UInt32) (b : BranchRun) : Bool :=
  b.pendingTrigger && (b.cooldownUntilMs = 0 || timeReached nowMs b.cooldownUntilMs)

def nextVariant (e : Env) (model : ScenarioBranch) (b : BranchRun) (entropy : List UInt32) :
    ReactiveVariant :=
  (e.scenario.reactiveVariants[model.variantStartIndex +
    (selectVariant model ⟨{ entropy }, {}, b, none⟩).1]?).getD default

/-- The actions of the variant the next fire runs lead to one that parks. Behind
    them no second trigger is queued. -/
def variantParks (e : Env) (model : ScenarioBranch) (nowMs : UInt32) (step : Nat) (b : BranchRun)
    (entropy : List UInt32) (p : Prospect) : Bool :=
  let variant := nextVariant e model b entropy
  actionsPark e nowMs step (variant.actionStartIndex + variant.actionCount) (fun _ => false)
    reactiveMaxActionsPerTick variant.actionStartIndex p

/-- A reaction that has run out of actions parks only by firing again. -/
def finishParks (e : Env) (model : ScenarioBranch) (nowMs : UInt32) (step : Nat) (b : BranchRun)
    (entropy : List UInt32) (p : Prospect) : Bool :=
  match completionAhead e model p with
  | none => false
  | some p =>
    !firesExhausted e b && refires nowMs b && model.variantCount ≠ 0 &&
    model.variantStartIndex + model.variantCount ≤ e.scenario.reactiveVariants.length &&
    variantParks e model nowMs step b entropy p

/-- Going on behind the current action parks the reaction. -/
def goingOnParks (e : Env) (nowMs : UInt32) (c : Ctx) : Bool :=
  match e.modelBranch with
  | none => false
  | some model =>
    let b := c.branch
    actionsPark e nowMs b.progress.currentStepIndex
      (b.reactiveActionStartIndex + b.reactiveActionCount)
      (finishParks e model nowMs b.progress.currentStepIndex b c.lock.entropy)
      reactiveMaxActionsPerTick (b.reactiveActionStartIndex + b.reactiveCurrentAction + 1)
      ⟨c.lock.flagEvents, c.session.scenarioFlags, b.progress⟩

/-- The timeout action is to go on, and that parks the reaction. -/
def ParksAfter (e : Env) (nowMs : UInt32) (c : Ctx) (action : ActionBody) : Bool :=
  actionTimeoutAction action = .continue && goingOnParks e nowMs c

/-! ### The two copies -/

/-- The branch and the scratch fields agree. -/
def Synced (c : Ctx) : Prop := c.session.progress = c.branch.progress

theorem synced_save (c : Ctx) : Synced c.save := rfl

theorem not_synced_of_state {c : Ctx}
    (h : c.session.progress.scenarioState ≠ c.branch.progress.scenarioState) : ¬ Synced c :=
  fun hsame => h (congrArg Progress.scenarioState hsame)

theorem not_synced_of_wait {c : Ctx}
    (h : c.session.progress.wait ≠ c.branch.progress.wait) : ¬ Synced c :=
  fun hsame => h (congrArg Progress.wait hsame)

/-- A reaction in front of an action: its branch runs, and the scratch fields
    hold a wait. Only the index of the action has moved on since `b`. -/
structure OnAction (step : Nat) (b : BranchRun) (entropy : List UInt32) (c : Ctx) : Prop where
  branch : c.branch = { b with
    progress := ⟨.running, step, {}⟩, reactiveCurrentAction := c.branch.reactiveCurrentAction }
  entropy : c.lock.entropy = entropy
  waiting : c.session.progress.scenarioState = .waiting
  wait : c.session.progress.wait.waitType ≠ .none

variable {e : Env} {nowMs : UInt32} {step : Nat} {b : BranchRun} {entropy : List UInt32} {c c' : Ctx}

theorem OnAction.progress (h : OnAction step b entropy c) :
    c.branch.progress = ⟨.running, step, {}⟩ := by
  rw [h.branch]

theorem OnAction.next (h : OnAction step b entropy c) (hbranch : c'.branch = { c.branch with
      progress := ⟨.running, step, {}⟩,
      reactiveCurrentAction := c.branch.reactiveCurrentAction + 1 })
    (hentropy : c'.lock.entropy = c.lock.entropy)
    (hwaiting : c'.session.progress.scenarioState = .waiting)
    (hwait : c'.session.progress.wait.waitType ≠ .none) : OnAction step b entropy c' := by
  refine ⟨?_, hentropy.trans h.entropy, hwaiting, hwait⟩
  rw [hbranch, h.branch]

theorem OnAction.not_synced_error (h : OnAction step b entropy c) (message : String) :
    ¬ Synced (c.setError e message) := by
  refine not_synced_of_state ?_
  have hrunning : (c.setError e message).branch.progress.scenarioState = .running :=
    congrArg Progress.scenarioState h.progress
  rw [hrunning]
  exact nofun

/-! ### Flags -/

@[simp] theorem cancelWait_flagEvents (l : Lock) (w : Wait) :
    (l.cancelWait w).flagEvents = l.flagEvents := by
  unfold Lock.cancelWait
  split <;> rfl

@[simp] theorem cancelWait_entropy (l : Lock) (w : Wait) :
    (l.cancelWait w).entropy = l.entropy := by
  unfold Lock.cancelWait
  split <;> rfl

theorem deferFlagEvent_congr (l l' : Lock) (h : l'.flagEvents = l.flagEvents) (name : String)
    (value : Bool) : (l'.deferFlagEvent name value).1 = (l.deferFlagEvent name value).1 ∧
      (l'.deferFlagEvent name value).2.flagEvents = (l.deferFlagEvent name value).2.flagEvents := by
  unfold Lock.deferFlagEvent
  rw [h]
  split
  · exact ⟨rfl, rfl⟩
  split
  · exact ⟨rfl, h⟩
  · exact ⟨rfl, rfl⟩

theorem setFlag_congr (l l' : Lock) (h : l'.flagEvents = l.flagEvents) (flags : List Flag)
    (name : String) (value : Bool) :
    (setFlag l' flags name value).1 = (setFlag l flags name value).1 ∧
      (setFlag l' flags name value).2.1.flagEvents = (setFlag l flags name value).2.1.flagEvents ∧
      (setFlag l' flags name value).2.2 = (setFlag l flags name value).2.2 := by
  rcases deferFlagEvent_congr l l' h name value with ⟨herr, hevents⟩
  unfold setFlag
  split
  · exact ⟨rfl, h, rfl⟩
  split
  · split
    · exact ⟨rfl, h, rfl⟩
    · exact ⟨herr, hevents, rfl⟩
  · split
    · exact ⟨rfl, h, rfl⟩
    · exact ⟨herr, hevents, rfl⟩

theorem setFlag_entropy (l : Lock) (flags : List Flag) (name : String) (value : Bool) :
    (setFlag l flags name value).2.1.entropy = l.entropy := by
  have hdefer : (l.deferFlagEvent name value).2.entropy = l.entropy := by
    unfold Lock.deferFlagEvent
    split
    · rfl
    · split <;> rfl
  unfold setFlag
  split
  · rfl
  split
  · split
    · rfl
    · exact hdefer
  · split
    · rfl
    · exact hdefer

theorem prospect_setFlag (c : Ctx) (flag : Flag) : c.prospect.setFlag flag =
      if (c.setFlag flag).1 = .ok then some (c.setFlag flag).2.prospect else none := by
  rcases setFlag_congr c.lock { flagEvents := c.lock.flagEvents } rfl c.session.scenarioFlags
    flag.name flag.value with ⟨herr, hevents, hflags⟩
  unfold Prospect.setFlag Ctx.prospect
  have hout : (c.setFlag flag).1 = (setFlag c.lock c.session.scenarioFlags flag.name flag.value).1 :=
    rfl
  have hlock : (c.setFlag flag).2.lock.flagEvents =
      (setFlag c.lock c.session.scenarioFlags flag.name flag.value).2.1.flagEvents := rfl
  have hset : (c.setFlag flag).2.session.scenarioFlags =
      (setFlag c.lock c.session.scenarioFlags flag.name flag.value).2.2 := rfl
  have hscratch : (c.setFlag flag).2.session.progress = c.session.progress := rfl
  rw [hout, hlock, hset, hscratch, ← herr, ← hevents, ← hflags]
  split
  · next lock flags hok =>
      rw [hok]
      rfl
  · next hnot =>
      rw [if_neg]
      intro hok
      exact hnot _ _ (Prod.ext hok rfl)

/-! ### One turn -/

/-- A turn ends the way its outlook says. -/
def TurnFollows (step : Nat) (b : BranchRun) (entropy : List UInt32) (c : Ctx) :
    Outlook → ReactiveTurn → Prop
  | .stops parked, .leave _ c' => Synced c' ↔ parked = true
  | .goesOn p, .again c' =>
    OnAction step b entropy c' ∧ c'.prospect = p ∧
    c'.branch.reactiveCurrentAction = c.branch.reactiveCurrentAction + 1
  | _, _ => False

theorem turnFollows_error {c₀ : Ctx} (h : OnAction step b entropy c) (err : EspErr)
    (message : String) :
    TurnFollows step b entropy c₀ (.stops false) (.leave err (c.setError e message)) :=
  ⟨fun hsynced => absurd hsynced (h.not_synced_error message), nofun⟩

theorem enterReactiveWait_follows (h : OnAction step b entropy c) (index : Nat)
    (resolveError enterError : String) (enter : Option (List WaitEventMatch) → Ctx → EspErr × Ctx)
    (t : WaitType) (accepted : List WaitEventMatch → Bool)
    (henter : ∀ found, ∃ w, w.waitType = t ∧ enter (some found) c =
      if accepted found then (.ok, c.enterWait e w) else (.invalidArg, c)) :
    TurnFollows step b entropy c
      (.stops (match expandPreparedWaitResolution e.prepared
          ((e.prepared.reactiveActionWaits[index]?).getD {}) with
        | none => none
        | some found => if accepted found then some t else none).isSome)
      (enterReactiveWait e index resolveError enterError enter c) := by
  unfold enterReactiveWait
  cases hexpand : expandPreparedWaitResolution e.prepared
      ((e.prepared.reactiveActionWaits[index]?).getD {}) with
  | none => exact turnFollows_error h _ _
  | some found =>
    rcases henter found with ⟨w, -, hout⟩
    simp only [hout]
    by_cases hacc : accepted found = true
    · simp only [hacc, if_true]
      exact ⟨fun _ => rfl, fun _ => synced_save _⟩
    · simp only [hacc, if_false, Bool.false_eq_true]
      exact turnFollows_error h _ _

theorem reactiveTurn_follows (nowMs : UInt32) (h : OnAction step b entropy c) (index : Nat)
    (action : ActionBody) :
    TurnFollows step b entropy c (outlook e nowMs step index action c.prospect)
      (reactiveTurn e nowMs index action c) := by
  have hparks : ∀ (err : EspErr) (c' : Ctx), Synced c' →
      TurnFollows step b entropy c (.stops true) (.leave err c') :=
    fun _ _ hsynced => ⟨fun _ => rfl, fun _ => hsynced⟩
  unfold reactiveTurn outlook
  cases action with
  | deviceCommand command => exact hparks _ _ (synced_save _)
  | deviceCommandGroup mode startIndex count =>
    simp only
    split
    · next err message herror =>
        rw [herror]
        exact turnFollows_error h _ _
    · next hnone =>
        rw [hnone]
        exact hparks _ _ (synced_save _)
  | waitTime wait =>
    -- The branch alone takes the wait.
    simp only [TurnFollows, Synced, Ctx.prospect, Ctx.markChanged, SessionRun.noteChange,
      Ctx.setBranchState, h.progress]
    exact decide_eq_true_iff.symm
  | waitDeviceEvent wait =>
    have hfollows := enterReactiveWait_follows h index "reactive_wait_device_event_resolve_failed"
      "reactive_wait_device_event_failed" (fun r c => enterWaitDeviceEvent e wait r nowMs c)
      .deviceEvent (fun found => found.length = 1) (enterWaitDeviceEvent_accepts e wait nowMs c)
    simp only [decide_eq_true_eq] at hfollows
    exact hfollows
  | waitAnyDeviceEvent wait =>
    exact enterReactiveWait_follows h index _ _ _ .anyDeviceEvent (groupAccepted wait)
      (enterWaitGroup_accepts _ _ e wait nowMs c)
  | waitAllDeviceEvents wait =>
    exact enterReactiveWait_follows h index _ _ _ .allDeviceEvents (groupAccepted wait)
      (enterWaitGroup_accepts _ _ e wait nowMs c)
  | waitFlags wait =>
    unfold enterWaitFlags
    by_cases hlength : wait.flags.length = 0 ∨ waitFlagsMaxFlags < wait.flags.length
    · simp only [if_pos hlength]
      exact turnFollows_error h _ _
    have hne : wait.flags ≠ [] := fun hnil => hlength (.inl (by rw [hnil]; rfl))
    have hmet : waitFlagsMet (c.enterWait e (flagsWait wait nowMs)).session =
        flagsMatch c.session.scenarioFlags wait.flags := by
      have hwaits : (c.enterWait e (flagsWait wait nowMs)).session.progress.wait.waitFlags =
          wait.flags := rfl
      have hflags : (c.enterWait e (flagsWait wait nowMs)).session.scenarioFlags =
          c.session.scenarioFlags := rfl
      simp [waitFlagsMet, hwaits, hflags, hne]
    simp only [if_neg hlength]
    change TurnFollows step b entropy c _
      (if waitFlagsMet (c.enterWait e (flagsWait wait nowMs)).session then _ else _)
    rw [hmet]
    cases hmatch : flagsMatch c.session.scenarioFlags wait.flags with
    | true =>
      have hprospect : flagsMatch c.prospect.flags wait.flags = true := hmatch
      simp only [hprospect, if_true]
      refine ⟨h.next ?_ ?_ rfl nofun, ?_, rfl⟩
      · have hprogress := h.progress
        change { c.branch with
          progress := ⟨.running, c.branch.progress.currentStepIndex, {}⟩,
          reactiveCurrentAction := c.branch.reactiveCurrentAction + 1 } = _
        rw [hprogress]
      · exact (cancelWait_entropy _ _).trans (cancelWait_entropy _ _)
      · refine congrArg (fun events => Prospect.mk events _ _) ?_
        exact (cancelWait_flagEvents _ _).trans (cancelWait_flagEvents _ _)
    | false =>
      have hprospect : flagsMatch c.prospect.flags wait.flags = false := hmatch
      simp only [hprospect, Bool.false_eq_true, if_false]
      exact hparks _ _ (synced_save _)
  | setFlag flag =>
    have hset := prospect_setFlag c flag
    have hentropy : (c.setFlag flag).2.lock.entropy = c.lock.entropy := setFlag_entropy _ _ _ _
    have hbranch : (c.setFlag flag).2.branch = c.branch := rfl
    have hscratch : (c.setFlag flag).2.session.progress = c.session.progress := rfl
    simp only [hset]
    cases hout : c.setFlag flag with
    | mk err c₁ =>
      rw [hout] at hentropy hbranch hscratch
      have hon : OnAction step b entropy c₁ := by
        refine ⟨?_, hentropy.trans h.entropy, ?_, ?_⟩
        · rw [hbranch]
          exact h.branch
        · rw [hscratch]
          exact h.waiting
        · rw [hscratch]
          exact h.wait
      by_cases hok : err = .ok
      · subst hok
        refine ⟨hon.next ?_ rfl hon.waiting hon.wait, rfl, ?_⟩
        · rw [← hon.progress]
          rfl
        · rw [← hbranch]
          rfl
      · simp only [if_neg hok]
        exact turnFollows_error hon _ _
  | showOperatorMessage message =>
    refine ⟨h.next ?_ rfl h.waiting h.wait, rfl, rfl⟩
    rw [← h.progress]
    rfl
  | failReaction =>
    refine ⟨fun hsynced => absurd hsynced (not_synced_of_state ?_), nofun⟩
    have hkept : (failReaction e "reactive_failed_by_action" c).session.progress =
        c.session.progress := rfl
    rw [hkept, h.waiting]
    exact nofun
  | resetReaction =>
    refine ⟨fun hsynced => absurd hsynced (not_synced_of_wait ?_), nofun⟩
    have hkept : (resetReaction e c).session.progress = c.session.progress := rfl
    rw [hkept]
    exact fun heq => h.wait (congrArg Wait.waitType heq)
  | operatorApproval => exact turnFollows_error h _ _
  | endGame => exact turnFollows_error h _ _

/-! ### The loop over the actions -/

/-- A reaction that is still running has not parked. -/
theorem OnAction.not_synced (h : OnAction step b entropy c) : ¬ Synced c := by
  refine not_synced_of_state ?_
  rw [h.waiting, h.progress]
  exact nofun

/-- The loop parks exactly if the actions ahead do. -/
theorem reactiveLoop_synced_iff (finish : Ctx → EspErr × Ctx) (parks : Prospect → Bool)
    (hfinish : ∀ c, OnAction step b entropy c →
      (Synced (finish c).2 ↔ parks c.prospect = true))
    (budget : Nat) (h : OnAction step b entropy c) :
    Synced (reactiveLoop finish e nowMs budget c).2 ↔
      actionsPark e nowMs step (b.reactiveActionStartIndex + b.reactiveActionCount) parks budget
        (b.reactiveActionStartIndex + c.branch.reactiveCurrentAction) c.prospect = true := by
  induction budget generalizing c with
  | zero =>
    have hkept : ¬ Synced (c.markChanged e) := h.not_synced
    exact ⟨fun hsynced => absurd hsynced hkept, fun h => by cases h⟩
  | succ n ih =>
    have hstart : c.branch.reactiveActionStartIndex = b.reactiveActionStartIndex := by
      rw [h.branch]
    have hcount : c.branch.reactiveActionCount = b.reactiveActionCount := by
      rw [h.branch]
    unfold reactiveLoop actionsPark
    rw [hstart, hcount]
    by_cases hend : b.reactiveActionCount ≤ c.branch.reactiveCurrentAction
    · rw [if_pos hend, if_pos (by omega)]
      exact hfinish c h
    rw [if_neg hend, if_neg (by omega)]
    simp only
    cases haction : e.scenario.reactiveActions[b.reactiveActionStartIndex +
        c.branch.reactiveCurrentAction]? with
    | none =>
      have herror := h.not_synced_error (e := e) "reactive_action_range_invalid"
      exact ⟨fun hsynced => absurd hsynced herror, fun h => by cases h⟩
    | some action =>
      have hfollows := reactiveTurn_follows (e := e) nowMs h
        (b.reactiveActionStartIndex + c.branch.reactiveCurrentAction) action
      simp only
      cases hout : outlook e nowMs step
          (b.reactiveActionStartIndex + c.branch.reactiveCurrentAction) action
          c.prospect with
      | stops parked =>
        cases hturn : reactiveTurn e nowMs
            (b.reactiveActionStartIndex + c.branch.reactiveCurrentAction) action c with
        | leave err c' =>
          rw [hout, hturn] at hfollows
          exact hfollows
        | again c' =>
          rw [hout, hturn] at hfollows
          exact hfollows.elim
      | goesOn p =>
        cases hturn : reactiveTurn e nowMs
            (b.reactiveActionStartIndex + c.branch.reactiveCurrentAction) action c with
        | leave err c' =>
          rw [hout, hturn] at hfollows
          exact hfollows.elim
        | again c' =>
          rw [hout, hturn] at hfollows
          rcases hfollows with ⟨hon, hprospect, hnext⟩
          have hgo := ih hon
          rw [hprospect, hnext, ← Nat.add_assoc] at hgo
          exact hgo

/-! ### Completing and firing again -/

theorem OnAction.setFlag (h : OnAction step b entropy c) (flag : Flag) :
    OnAction step b entropy (c.setFlag flag).2 :=
  ⟨h.branch, (setFlag_entropy _ _ _ _).trans h.entropy, h.waiting, h.wait⟩

theorem completionLoop_follows (actions : List ActionBody) (h : OnAction step b entropy c) :
    OnAction step b entropy (completionLoop actions c).2 ∧
      completionProspect actions c.prospect =
        if (completionLoop actions c).1 = .ok then some (completionLoop actions c).2.prospect
        else none := by
  fun_induction completionLoop actions c with
  | case1 c => exact ⟨h, rfl⟩
  | case2 c flag rest c₁ hok ih =>
    have hon := h.setFlag flag
    have hset := prospect_setFlag c flag
    rw [hok] at hon hset
    unfold completionProspect
    rw [hset]
    exact ih hon
  | case3 c flag rest err c₁ hnot hout =>
    have hon := h.setFlag flag
    have hset := prospect_setFlag c flag
    have herr : err ≠ .ok := hnot
    rw [hout] at hon hset
    unfold completionProspect
    rw [hset]
    simp only [if_neg herr]
    exact ⟨hon, rfl⟩
  | case4 c message rest ih => exact ih ⟨h.branch, h.entropy, h.waiting, h.wait⟩
  | case5 c action rest hflag hmessage ih =>
    have hskip : completionProspect (action :: rest) c.prospect =
        completionProspect rest c.prospect := by
      cases action <;> first | rfl | exact absurd rfl (hflag _)
    rw [hskip]
    exact ih h

theorem applyCompletion_follows (model : ScenarioBranch) (h : OnAction step b entropy c) :
    OnAction step b entropy (applyCompletion e model c).2 ∧
      completionAhead e model c.prospect =
        if (applyCompletion e model c).1 = .ok then some (applyCompletion e model c).2.prospect
        else none := by
  unfold applyCompletion completionAhead
  split
  · exact ⟨h, rfl⟩
  · exact completionLoop_follows _ h

theorem firesExhausted_congr {b b' : BranchRun} (h : b'.fireCount = b.fireCount) :
    firesExhausted e b' = firesExhausted e b := by
  unfold firesExhausted
  rw [h]

theorem refires_congr {b b' : BranchRun} (hpending : b'.pendingTrigger = b.pendingTrigger)
    (hcooldown : b'.cooldownUntilMs = b.cooldownUntilMs) : refires nowMs b' = refires nowMs b := by
  unfold refires
  rw [hpending, hcooldown]

theorem finishWith_follows (fire : Ctx → EspErr × Ctx) (model : ScenarioBranch)
    (parks : Prospect → Bool) (h : OnAction step b entropy c)
    (hfire : refires nowMs b = true → ∀ c' p, c'.prospect = p → c'.branch.progress = ⟨.waiting, step, {}⟩ →
      c'.branch.cooldownUntilMs = 0 → firesExhausted e c'.branch = false →
      c'.branch.policyCursor = b.policyCursor → c'.branch.policyStage = b.policyStage →
      c'.lock.entropy = entropy → c'.session.progress.scenarioState = .waiting →
      c'.session.progress.wait.waitType ≠ .none →
      (Synced (fire c').2 ↔ parks p = true)) : Synced (finishWith fire e model nowMs c).2 ↔
      (match completionAhead e model c.prospect with
        | none => false
        | some p => !firesExhausted e b && refires nowMs b && parks p) = true := by
  rcases applyCompletion_follows model h with ⟨hon, hahead⟩
  unfold finishWith
  cases hout : applyCompletion e model c with
  | mk err c₁ =>
    rw [hout] at hon hahead
    by_cases hok : err = .ok
    · subst hok
      simp only [hahead, if_true]
      have hfires : c₁.branch.fireCount = b.fireCount := by rw [hon.branch]
      have hpending : c₁.branch.pendingTrigger = b.pendingTrigger := by rw [hon.branch]
      have hcooldown : c₁.branch.cooldownUntilMs = b.cooldownUntilMs := by rw [hon.branch]
      have hcursor : c₁.branch.policyCursor = b.policyCursor := by rw [hon.branch]
      have hstage : c₁.branch.policyStage = b.policyStage := by rw [hon.branch]
      have hstep : c₁.branch.progress.currentStepIndex = step := by rw [hon.progress]
      have hexhausted : firesExhausted e (c₁.clearActions.record
          (.completed e.setup.branchIndex)).branch = firesExhausted e b :=
        firesExhausted_congr hfires
      have hagain : refires nowMs (c₁.clearActions.record
          (.completed e.setup.branchIndex)).branch = refires nowMs b :=
        refires_congr hpending hcooldown
      unfold refires at hagain
      rw [hexhausted, hagain]
      cases hx : firesExhausted e b with
      | true =>
        -- `DONE`, while the scratch fields wait.
        simp only [if_true, Bool.not_true, Bool.false_and, Bool.false_eq_true, iff_false]
        refine not_synced_of_state ?_
        change c₁.session.progress.scenarioState ≠ .done
        rw [hon.waiting]
        exact nofun
      | false =>
        simp only [Bool.false_eq_true, if_false, Bool.not_false, Bool.true_and]
        cases hr : refires nowMs b with
        | true =>
          have hfire := hfire hr
          unfold refires at hr
          simp only [hr, if_true, Bool.true_and]
          refine hfire _ _ ?_ ?_ rfl ((firesExhausted_congr hfires).trans hx) hcursor hstage
            ?_ hon.waiting hon.wait
          · refine congrArg (fun events => Prospect.mk events _ _) ?_
            exact cancelWait_flagEvents _ _
          · change (⟨.waiting, c₁.branch.progress.currentStepIndex, {}⟩ : Progress) = _
            rw [hstep]
          · exact (cancelWait_entropy _ _).trans hon.entropy
        | false =>
          unfold refires at hr
          simp only [hr, Bool.false_eq_true, if_false, Bool.false_and, iff_false]
          -- Cooling down or listening, while the scratch fields wait for something.
          refine not_synced_of_wait ?_
          split
          · exact fun heq => hon.wait (congrArg Wait.waitType heq)
          · exact fun heq => hon.wait (congrArg Wait.waitType heq)
    · simp only [hahead, if_neg hok]
      have herror := hon.not_synced_error (e := e) "reactive_on_complete_failed"
      exact ⟨fun hsynced => absurd hsynced herror, fun h => by cases h⟩

theorem selectVariant_congr (model : ScenarioBranch) {c c' : Ctx}
    (hcursor : c'.branch.policyCursor = c.branch.policyCursor)
    (hstage : c'.branch.policyStage = c.branch.policyStage)
    (hentropy : c'.lock.entropy = c.lock.entropy) :
    (selectVariant model c').1 = (selectVariant model c).1 := by
  have hrandom : c'.lock.random.1 = c.lock.random.1 := by
    unfold Lock.random
    rw [hentropy]
    cases c.lock.entropy <;> rfl
  unfold selectVariant
  simp only
  split
  · rfl
  cases model.policyMode with
  | single => rfl
  | rotate => simp only [hcursor]
  | random => simp only [hrandom]
  | escalate => simp only [hstage]

theorem selectVariant_keeps (model : ScenarioBranch) (c : Ctx) :
    (selectVariant model c).2.prospect = c.prospect ∧
      (selectVariant model c).2.branch.progress = c.branch.progress := by
  unfold selectVariant
  simp only
  split
  · exact ⟨rfl, rfl⟩
  cases model.policyMode with
  | single => exact ⟨rfl, rfl⟩
  | rotate => exact ⟨rfl, rfl⟩
  | escalate => exact ⟨rfl, rfl⟩
  | random =>
    refine ⟨?_, rfl⟩
    have hevents : c.lock.random.2.flagEvents = c.lock.flagEvents := by
      unfold Lock.random
      split <;> rfl
    exact congrArg (fun events => Prospect.mk events _ _) hevents

/-- A reaction that goes on with no trigger queued parks exactly if the actions
    of its variant do. -/
theorem reactiveContinue_synced_iff (nowMs : UInt32) (depth : Nat) (model : ScenarioBranch)
    (hmodel : e.modelBranch = some model) (hactive : e.setup.active = true)
    (hpending : b.pendingTrigger = false) (h : OnAction step b entropy c) :
    Synced (reactiveContinue (depth + 1) e nowMs c).2 ↔
      actionsPark e nowMs step (b.reactiveActionStartIndex + b.reactiveActionCount)
        (fun _ => false) reactiveMaxActionsPerTick
        (b.reactiveActionStartIndex + c.branch.reactiveCurrentAction) c.prospect = true := by
  have hnone : OnAction step b entropy { c with plan := none } :=
    ⟨h.branch, h.entropy, h.waiting, h.wait⟩
  unfold reactiveContinue
  simp only [hmodel, hactive, Bool.not_true, Bool.false_eq_true, if_false]
  refine reactiveLoop_synced_iff _ (fun _ => false) (fun c' h' => ?_) _ hnone
  -- Without a queued trigger the finish does not fire.
  have hrefires : refires nowMs b = false := by
    unfold refires
    rw [hpending, Bool.false_and]
  rw [finishWith_follows _ model (fun _ => true) h'
    fun hagain => by rw [hrefires] at hagain; cases hagain]
  cases completionAhead e model c'.prospect with
  | none => exact Iff.rfl
  | some p => simp only [hrefires, Bool.and_false, Bool.false_and]

/-- A variant that starts puts its reaction in front of its first action. -/
theorem startVariant_onAction (nowMs : UInt32) (variantIndex : Nat) (variant : ReactiveVariant)
    (hstep : c.branch.progress.currentStepIndex = step)
    (hwaiting : c.session.progress.scenarioState = .waiting)
    (hwait : c.session.progress.wait.waitType ≠ .none) :
    OnAction step (startVariant e nowMs variantIndex variant c).branch
      (startVariant e nowMs variantIndex variant c).lock.entropy
      (startVariant e nowMs variantIndex variant c) := by
  refine ⟨?_, rfl, hwaiting, hwait⟩
  have hprogress : (startVariant e nowMs variantIndex variant c).branch.progress =
      ⟨.running, step, {}⟩ := by
    rw [← hstep]
    rfl
  rw [← hprogress]

theorem startVariant_prospect (variantIndex : Nat) (variant : ReactiveVariant) :
    (startVariant e nowMs variantIndex variant c).prospect = c.prospect :=
  congrArg (fun events => Prospect.mk events _ _) (cancelWait_flagEvents _ _)

/-- Firing a listening reaction parks it exactly if its next variant does. -/
theorem fireWith_synced_iff (model : ScenarioBranch) (hmodel : e.modelBranch = some model)
    (hactive : e.setup.active = true) (p : Prospect) (hprospect : c.prospect = p)
    (hprogress : c.branch.progress = ⟨.waiting, step, {}⟩) (hcooldown : c.branch.cooldownUntilMs = 0)
    (hexhausted : firesExhausted e c.branch = false)
    (hcursor : c.branch.policyCursor = b.policyCursor)
    (hstage : c.branch.policyStage = b.policyStage) (hentropy : c.lock.entropy = entropy)
    (hwaiting : c.session.progress.scenarioState = .waiting)
    (hwait : c.session.progress.wait.waitType ≠ .none) (depth : Nat) :
    Synced (fireWith (reactiveContinue (depth + 1) e nowMs) e nowMs c).2 ↔
      (model.variantCount ≠ 0 &&
        model.variantStartIndex + model.variantCount ≤ e.scenario.reactiveVariants.length &&
        variantParks e model nowMs step b entropy p) = true := by
  have hlistening : ¬ Synced c := by
    refine not_synced_of_wait ?_
    rw [hprogress]
    exact fun heq => hwait (congrArg Wait.waitType heq)
  unfold fireWith
  simp only [hmodel, hactive, Bool.not_true, Bool.false_eq_true, false_or, hexhausted, if_false]
  by_cases hbad : model.variantCount = 0 ∨
      e.scenario.reactiveVariants.length < model.variantStartIndex + model.variantCount
  · -- The variants are refused, and the reaction goes on listening.
    rw [if_pos hbad]
    refine ⟨fun hsynced => absurd hsynced hlistening, fun hgood => ?_⟩
    simp only [Bool.and_eq_true, decide_eq_true_iff] at hgood
    omega
  have hcount : model.variantCount ≠ 0 := fun h => hbad (.inl h)
  have hrange : model.variantStartIndex + model.variantCount ≤
      e.scenario.reactiveVariants.length := by omega
  have hready : readyToFire nowMs c.branch = true := by
    simp only [readyToFire, cooldownPending, hprogress, hcooldown]
    rfl
  rw [if_neg hbad]
  simp only [hready, Bool.not_true, Bool.false_eq_true, if_false, hcount, hrange, ne_eq,
    not_false_eq_true, decide_true, Bool.true_and]
  have hselected := selectVariant_congr model
    (c := ⟨{ entropy }, {}, b, none⟩) hcursor hstage hentropy
  rcases selectVariant_keeps model c with ⟨hkept, hsame⟩
  rw [hselected]
  have hon := startVariant_onAction (e := e) nowMs
    (c := (selectVariant model c).2) (selectVariant model ⟨{ entropy }, {}, b, none⟩).1
    (nextVariant e model b entropy) (by rw [hsame, hprogress])
    ((congrArg (fun p => p.scratch.scenarioState) hkept).trans hwaiting)
    (fun h => hwait ((congrArg (fun p => p.scratch.wait.waitType) hkept).symm.trans h))
  have hparks := reactiveContinue_synced_iff nowMs depth model hmodel hactive rfl hon
  rw [startVariant_prospect, hkept, hprospect] at hparks
  exact hparks

/-- A reaction that goes on leaves the two copies equal exactly if the actions
    ahead of it park. -/
theorem continueLocked_synced_iff (h : OnAction step b entropy c) (hactive : e.setup.active = true) :
    Synced (continueLocked e nowMs c).2 ↔
      (match e.modelBranch with
        | none => false
        | some model =>
          actionsPark e nowMs step (b.reactiveActionStartIndex + b.reactiveActionCount)
            (finishParks e model nowMs step b entropy) reactiveMaxActionsPerTick
            (b.reactiveActionStartIndex + c.branch.reactiveCurrentAction) c.prospect) = true := by
  unfold continueLocked reactiveDepth reactiveContinue
  cases hmodel : e.modelBranch with
  | none => exact ⟨fun hsynced => absurd hsynced h.not_synced, fun h => by cases h⟩
  | some model =>
    have hnone : OnAction step b entropy { c with plan := none } :=
      ⟨h.branch, h.entropy, h.waiting, h.wait⟩
    simp only [hactive, Bool.not_true, Bool.false_eq_true, if_false]
    refine reactiveLoop_synced_iff _ _ (fun c' h' => ?_) _ hnone
    rw [finishWith_follows _ model
      (fun p => model.variantCount ≠ 0 &&
        model.variantStartIndex + model.variantCount ≤ e.scenario.reactiveVariants.length &&
        variantParks e model nowMs step b entropy p) h' ?_]
    · unfold finishParks
      cases completionAhead e model c'.prospect with
      | none => exact Iff.rfl
      | some p => simp only [Bool.and_assoc]
    · intro _ c₁ p hprospect hprogress hcooldown hexhausted hcursor hstage hentropy hwaiting hwait
      exact fireWith_synced_iff model hmodel hactive p hprospect hprogress hcooldown hexhausted
        hcursor hstage hentropy hwaiting hwait 0

/-! ### One tick -/

/-- The tick on an expired wait saves the scratch fields over what the timeout
    action did. -/
theorem processBranch_expire (h : ActionExpired e nowMs c) :
    (processBranch e nowMs c).1 = expireReactiveWait e nowMs c.load := by
  rcases h with ⟨hactive, hv2, hstate, htype, hexpired⟩
  have hprogress : c.load.session.progress = c.branch.progress := rfl
  have hflags : waitFlagsMet c.load.session =
      flagsHold c.session.scenarioFlags c.branch.progress.wait := rfl
  have hhandled : processWait e nowMs c.load = .handled (expireReactiveWait e nowMs c.load) := by
    unfold processWait
    simp only [hprogress, hstate, hflags, hexpired, hv2, true_and, Bool.not_true,
      Bool.false_eq_true, if_false, if_true]
    rcases htype with htime | hdevice | ⟨hflag, hnot⟩
    · simp [htime]
    · cases ht : c.branch.progress.wait.waitType with
      | deviceEvent | anyDeviceEvent | allDeviceEvents =>
        simp
      | _ =>
        rw [ht] at hdevice
        cases hdevice
    · simp [hflag, hnot]
  unfold processBranch prepareBranch
  simp [hactive, hstate, hhandled]

theorem processBranch_expired (action : ActionBody) (hexpired : ActionExpired e nowMs c)
    (haction : currentAction e c.branch = some action) :
    (processBranch e nowMs c).1 = (applyReactiveWaitTimeout e action nowMs c.load).2.save := by
  have hload : e.scenario.reactiveActions[c.load.branch.reactiveActionStartIndex +
      c.load.branch.reactiveCurrentAction]? = some action := haction
  rw [processBranch_expire hexpired]
  unfold expireReactiveWait
  simp only [hload]

theorem processBranch_expired_none (hexpired : ActionExpired e nowMs c)
    (hnone : currentAction e c.branch = none) :
    (processBranch e nowMs c).1 = (c.load.setError e "reactive_action_range_invalid").save := by
  have hload : e.scenario.reactiveActions[c.load.branch.reactiveActionStartIndex +
      c.load.branch.reactiveCurrentAction]? = none := hnone
  rw [processBranch_expire hexpired]
  unfold expireReactiveWait
  simp only [hload]

/-- The reaction that goes on behind its expired wait. -/
theorem ActionExpired.onAction (h : ActionExpired e nowMs c) :
    OnAction c.branch.progress.currentStepIndex c.branch c.load.actionDone.lock.entropy
      c.load.actionDone := by
  refine ⟨rfl, rfl, h.2.2.1, ?_⟩
  change c.branch.progress.wait.waitType ≠ .none
  rcases h.2.2.2.1 with htime | hdevice | ⟨hflag, -⟩
  · rw [htime]
    exact nofun
  · intro hnone
    rw [hnone] at hdevice
    cases hdevice
  · rw [hflag]
    exact nofun

/-- Going on behind an expired wait leaves the two copies equal exactly if that
    parks. -/
theorem goingOn_synced_iff (h : ActionExpired e nowMs c) :
    Synced (continueLocked e nowMs c.load.actionDone).2 ↔ goingOnParks e nowMs c = true := by
  rw [continueLocked_synced_iff h.onAction h.1]
  unfold goingOnParks
  cases e.modelBranch with
  | none => exact Iff.rfl
  | some model =>
    have hentropy : c.load.actionDone.lock.entropy = c.lock.entropy := cancelWait_entropy _ _
    have hprospect : c.load.actionDone.prospect =
        ⟨c.lock.flagEvents, c.session.scenarioFlags, c.branch.progress⟩ :=
      congrArg (fun events => Prospect.mk events _ _) (cancelWait_flagEvents _ _)
    have hnext : c.load.actionDone.branch.reactiveCurrentAction =
        c.branch.reactiveCurrentAction + 1 := rfl
    simp only [hentropy, hprospect, hnext, ← Nat.add_assoc]

/-- An expired wait ends as its timeout action prescribes exactly if it parks. -/
theorem expired_prescribed_iff (action : ActionBody) (hexpired : ActionExpired e nowMs c)
    (haction : currentAction e c.branch = some action) :
    Prescribed e nowMs c action (processBranch e nowMs c).1.branch ↔
      ParksAfter e nowMs c action = true := by
  rw [processBranch_expired action hexpired haction]
  have hon := hexpired.onAction
  unfold Prescribed ParksAfter applyReactiveWaitTimeout
  cases htimeout : actionTimeoutAction action with
  | failReaction =>
    -- The branch is saved back into the wait.
    simp only [reduceCtorEq, decide_false, Bool.false_and, Bool.false_eq_true, iff_false, not_and]
    intro herror
    have hkept : c.branch.progress.scenarioState = .error := herror
    rw [hexpired.2.2.1] at hkept
    cases hkept
  | resetReaction =>
    simp only [reduceCtorEq, decide_false, Bool.false_and, Bool.false_eq_true, iff_false]
    rintro ⟨hlistening, -⟩
    have hkept : c.branch.progress = ⟨.waiting, e.setup.stepStartIndex, {}⟩ := hlistening
    refine hon.wait ?_
    change c.branch.progress.wait.waitType = .none
    rw [hkept]
  | «continue» =>
    have hsaved : (continueLocked e nowMs c.load.actionDone).2.save.branch =
        (continueLocked e nowMs c.load.actionDone).2.branch ↔
          Synced (continueLocked e nowMs c.load.actionDone).2 := by
      constructor
      · exact fun h => congrArg BranchRun.progress h
      intro h
      unfold Synced at h
      simp only [Ctx.save, h]
    simp only [decide_true, Bool.true_and]
    rw [hsaved, goingOn_synced_iff hexpired]

/-! ### Fires and completions -/

/-- The fires and completions of the branch in the current run. -/
def fires (e : Env) (s : SessionRun) : Nat := s.history.count (.fired e.setup.branchIndex)

def completions (e : Env) (s : SessionRun) : Nat := s.history.count (.completed e.setup.branchIndex)

/-- A reaction is under way: it runs, or it waits for something. -/
def underWay (b : BranchRun) : Bool :=
  b.progress.scenarioState = .running ||
  (b.progress.scenarioState = .waiting && b.progress.wait.waitType ≠ .none)

/-- A reaction failed or was reset, and did not run out of actions. -/
def GivenUp (e : Env) (b : BranchRun) : Prop :=
  (b.progress.scenarioState = .error ∧ b.progress.wait = {}) ∨
  (b.progress = ⟨.waiting, e.setup.stepStartIndex, {}⟩ ∧ b.fireCount = 0)

/-- The states a reaction rests in: it listens, cools down, is done or has
    failed. -/
def ScenarioState.rests : ScenarioState → Bool
  | .waiting | .cooldown | .done | .error => true
  | _ => false

/-- A reaction rests, and has no wait. -/
structure Resting (b : BranchRun) : Prop where
  state : b.progress.scenarioState.rests = true
  wait : b.progress.wait = {}

theorem GivenUp.resting {b : BranchRun} (h : GivenUp e b) : Resting b := by
  rcases h with ⟨hstate, hwait⟩ | ⟨hprogress, -⟩
  · exact ⟨by rw [hstate]; rfl, hwait⟩
  · exact ⟨by rw [hprogress]; rfl, by rw [hprogress]⟩

/-- A branch function completes the reaction as often as it fires it, the
    reaction under way at the start and at the end counted, unless it gives the
    reaction up; and a reaction it brings to rest is left with no wait. -/
structure Balanced (e : Env) (c c' : Ctx) : Prop where
  balance : completions e c'.session + fires e c.session + (underWay c'.branch).toNat ≤
    completions e c.session + fires e c'.session + (underWay c.branch).toNat
  exact : completions e c'.session + fires e c.session + (underWay c'.branch).toNat <
    completions e c.session + fires e c'.session + (underWay c.branch).toNat → GivenUp e c'.branch
  rest : underWay c.branch = true ∨ Resting c.branch →
    underWay c'.branch = false → Resting c'.branch

/-- What starts under way and records nothing is balanced, if it ends under way
    or gives the reaction up. -/
theorem balanced_of_history (hhistory : c'.session.history = c.session.history)
    (hway : underWay c.branch = true)
    (hend : underWay c'.branch = true ∨ GivenUp e c'.branch) : Balanced e c c' := by
  have hfires : fires e c'.session = fires e c.session := by unfold fires; rw [hhistory]
  have hdone : completions e c'.session = completions e c.session := by
    unfold completions; rw [hhistory]
  refine ⟨?_, fun hless => ?_, fun _ hrest => ?_⟩
  · rw [hfires, hdone, hway]
    have := Bool.toNat_le (underWay c'.branch)
    simp only [Bool.toNat_true]
    omega
  · rcases hend with h | h
    · rw [hfires, hdone, hway, h] at hless
      exact absurd hless (Nat.lt_irrefl _)
    · exact h
  · rcases hend with h | h
    · rw [h] at hrest
      cases hrest
    · exact h.resting

/-- Nothing is counted while a reaction that stays under way records nothing. -/
theorem Balanced.congr_left {c₀ : Ctx} (h : Balanced e c c')
    (hhistory : c.session.history = c₀.session.history) (hway : underWay c.branch = true)
    (hway₀ : underWay c₀.branch = true) : Balanced e c₀ c' := by
  have hfires : fires e c.session = fires e c₀.session := by unfold fires; rw [hhistory]
  have hdone : completions e c.session = completions e c₀.session := by
    unfold completions; rw [hhistory]
  rcases h with ⟨hbalance, hexact, hrest⟩
  rw [hfires, hdone, hway] at hbalance hexact
  refine ⟨?_, ?_, fun _ => hrest (.inl hway)⟩
  · rw [hway₀]
    exact hbalance
  · rw [hway₀]
    exact hexact

theorem underWay_of_running {b : BranchRun} (h : b.progress.scenarioState = .running) :
    underWay b = true := by
  simp [underWay, h]

theorem underWay_of_waiting {b : BranchRun} (h : b.progress.scenarioState = .waiting)
    (hwait : b.progress.wait.waitType ≠ .none) : underWay b = true := by
  simp [underWay, h, hwait]

theorem enterReactiveWait_way (index : Nat) (resolveError enterError : String)
    (enter : Option (List WaitEventMatch) → Ctx → EspErr × Ctx) (t : WaitType) (ht : t ≠ .none)
    (accepted : List WaitEventMatch → Bool)
    (henter : ∀ found, ∃ w, w.waitType = t ∧ enter (some found) c =
      if accepted found then (.ok, c.enterWait e w) else (.invalidArg, c))
    (hrunning : c.branch.progress.scenarioState = .running) :
    (enterReactiveWait e index resolveError enterError enter c).ctx.session.history =
        c.session.history ∧
      underWay (enterReactiveWait e index resolveError enterError enter c).ctx.branch = true := by
  unfold enterReactiveWait
  split
  · exact ⟨rfl, underWay_of_running hrunning⟩
  · next found _ =>
      rcases henter found with ⟨w, hw, hout⟩
      simp only [hout]
      by_cases hacc : accepted found = true
      · simp only [hacc, if_true]
        refine ⟨rfl, underWay_of_waiting rfl ?_⟩
        change w.waitType ≠ .none
        rw [hw]
        exact ht
      · simp only [hacc, if_false, Bool.false_eq_true]
        exact ⟨rfl, underWay_of_running hrunning⟩

theorem reactiveTurn_way (nowMs : UInt32) (index : Nat) (action : ActionBody)
    (hrunning : c.branch.progress.scenarioState = .running) :
    (reactiveTurn e nowMs index action c).ctx.session.history = c.session.history ∧
      (underWay (reactiveTurn e nowMs index action c).ctx.branch = true ∨
        GivenUp e (reactiveTurn e nowMs index action c).ctx.branch) := by
  have hway := underWay_of_running hrunning
  unfold reactiveTurn
  cases action with
  | deviceCommand command => exact ⟨rfl, .inl rfl⟩
  | deviceCommandGroup mode startIndex count =>
    simp only
    split
    · exact ⟨rfl, .inl hway⟩
    · exact ⟨rfl, .inl rfl⟩
  | waitTime wait => exact ⟨rfl, .inl rfl⟩
  | waitDeviceEvent wait =>
    have h := enterReactiveWait_way index "reactive_wait_device_event_resolve_failed"
      "reactive_wait_device_event_failed" (fun r c => enterWaitDeviceEvent e wait r nowMs c)
      .deviceEvent WaitType.noConfusion (fun found => found.length = 1)
      (enterWaitDeviceEvent_accepts e wait nowMs c) hrunning
    exact ⟨h.1, .inl h.2⟩
  | waitAnyDeviceEvent wait =>
    have h := enterReactiveWait_way index "reactive_wait_any_device_event_resolve_failed"
      "reactive_wait_any_device_event_failed" (fun r c => enterWaitAnyDeviceEvent e wait r nowMs c)
      .anyDeviceEvent WaitType.noConfusion (groupAccepted wait)
      (enterWaitGroup_accepts _ _ e wait nowMs c) hrunning
    exact ⟨h.1, .inl h.2⟩
  | waitAllDeviceEvents wait =>
    have h := enterReactiveWait_way index "reactive_wait_all_device_events_resolve_failed"
      "reactive_wait_all_device_events_failed" (fun r c => enterWaitAllDeviceEvents e wait r nowMs c)
      .allDeviceEvents WaitType.noConfusion (groupAccepted wait)
      (enterWaitGroup_accepts _ _ e wait nowMs c) hrunning
    exact ⟨h.1, .inl h.2⟩
  | waitFlags wait =>
    unfold enterWaitFlags
    by_cases hlength : wait.flags.length = 0 ∨ waitFlagsMaxFlags < wait.flags.length
    · simp only [if_pos hlength]
      exact ⟨rfl, .inl hway⟩
    simp only [if_neg hlength]
    split
    · exact ⟨rfl, .inl rfl⟩
    · exact ⟨rfl, .inl rfl⟩
  | setFlag flag =>
    have hhistory : (c.setFlag flag).2.session.history = c.session.history := rfl
    have hbranch : (c.setFlag flag).2.branch = c.branch := rfl
    simp only
    split
    · next c₁ hok =>
        rw [hok] at hhistory hbranch
        exact ⟨hhistory, .inl ((congrArg underWay hbranch).trans hway)⟩
    · next err c₁ _ hout =>
        rw [hout] at hhistory hbranch
        exact ⟨hhistory, .inl ((congrArg underWay hbranch).trans hway)⟩
  | showOperatorMessage message => exact ⟨rfl, .inl hway⟩
  | failReaction => exact ⟨rfl, .inr (.inl ⟨rfl, rfl⟩)⟩
  | resetReaction => exact ⟨rfl, .inr (.inr ⟨rfl, rfl⟩)⟩
  | operatorApproval => exact ⟨rfl, .inl hway⟩
  | endGame => exact ⟨rfl, .inl hway⟩

theorem reactiveLoop_balanced (nowMs : UInt32) (finish : Ctx → EspErr × Ctx)
    (hfinish : ∀ c, c.branch.progress.scenarioState = .running → Balanced e c (finish c).2)
    (budget : Nat) (hrunning : c.branch.progress.scenarioState = .running) :
    Balanced e c (reactiveLoop finish e nowMs budget c).2 := by
  have hway := underWay_of_running hrunning
  induction budget generalizing c with
  | zero => exact balanced_of_history rfl hway (.inl hway)
  | succ n ih =>
    unfold reactiveLoop
    split
    · exact hfinish c hrunning
    simp only
    split
    · exact balanced_of_history rfl hway (.inl hway)
    · next action _ =>
        have hends := reactiveTurn_ends e nowMs
          (c.branch.reactiveActionStartIndex + c.branch.reactiveCurrentAction) action c hrunning
        rcases reactiveTurn_way nowMs
          (c.branch.reactiveActionStartIndex + c.branch.reactiveCurrentAction) action
          hrunning with ⟨hhistory, hend⟩
        cases hturn : reactiveTurn e nowMs
            (c.branch.reactiveActionStartIndex + c.branch.reactiveCurrentAction) action c with
        | leave err c' =>
          rw [hturn] at hhistory hend
          exact balanced_of_history hhistory hway hend
        | again c' =>
          rw [hturn] at hhistory hends
          have hrunning' := hends.2.1
          have hway' := underWay_of_running hrunning'
          exact (ih hrunning' hway').congr_left hhistory hway' hway

theorem selectVariant_history (model : ScenarioBranch) (c : Ctx) :
    (selectVariant model c).2.session.history = c.session.history := by
  unfold selectVariant
  simp only
  split
  · rfl
  · split <;> rfl

theorem startVariant_counts (nowMs : UInt32) (variantIndex : Nat) (variant : ReactiveVariant)
    (c : Ctx) :
    fires e (startVariant e nowMs variantIndex variant c).session = fires e c.session + 1 ∧
      completions e (startVariant e nowMs variantIndex variant c).session =
        completions e c.session ∧
      (startVariant e nowMs variantIndex variant c).branch.progress.scenarioState = .running := by
  have hhistory : (startVariant e nowMs variantIndex variant c).session.history =
      .fired e.setup.branchIndex :: c.session.history := rfl
  refine ⟨?_, ?_, rfl⟩
  · unfold fires
    rw [hhistory, List.count_cons_self]
  · unfold completions
    rw [hhistory, List.count_cons_of_ne (fun h => HistoryEvent.noConfusion h)]

/-- What records nothing, and leaves the branch as it is but for a queued
    trigger, is balanced. -/
theorem balanced_of_progress (hhistory : c'.session.history = c.session.history)
    (hprogress : c'.branch.progress = c.branch.progress) : Balanced e c c' := by
  have hfires : fires e c'.session = fires e c.session := by unfold fires; rw [hhistory]
  have hdone : completions e c'.session = completions e c.session := by
    unfold completions; rw [hhistory]
  have hway : underWay c'.branch = underWay c.branch := by unfold underWay; rw [hprogress]
  refine ⟨?_, fun hless => ?_, ?_⟩
  · exact Nat.le_of_eq (by rw [hfires, hdone, hway])
  · rw [hfires, hdone, hway] at hless
    exact absurd hless (Nat.lt_irrefl _)
  rintro (h | h) hrest
  · rw [hway, h] at hrest
    cases hrest
  · exact ⟨by rw [hprogress]; exact h.state, by rw [hprogress]; exact h.wait⟩

theorem fireWith_balanced (nowMs : UInt32) (run : Ctx → EspErr × Ctx)
    (hrun : ∀ c, c.branch.progress.scenarioState = .running → Balanced e c (run c).2) (c : Ctx) :
    Balanced e c (fireWith run e nowMs c).2 := by
  unfold fireWith
  split
  · exact balanced_of_progress rfl rfl
  · next model _ =>
    split
    · exact balanced_of_progress rfl rfl
    split
    · exact balanced_of_progress rfl rfl
    split
    · split
      · exact balanced_of_progress rfl rfl
      · exact balanced_of_progress rfl rfl
    · next hready =>
        -- The fire itself is counted, and makes up for the run it starts.
        rcases startVariant_counts nowMs (selectVariant model c).1
          ((e.scenario.reactiveVariants[model.variantStartIndex +
            (selectVariant model c).1]?).getD default) (selectVariant model c).2 with
          ⟨hfired, hdone, hrunning⟩
        have hrests : underWay c.branch = false := by
          unfold underWay
          simp only [readyToFire, Bool.not_eq_true, Bool.not_eq_false', Bool.and_eq_true,
            decide_eq_true_iff] at hready
          simp [hready.1.1, hready.1.2]
        have hhistory := selectVariant_history model c
        have hway := underWay_of_running hrunning
        rcases hrun _ hrunning with ⟨hbalance, hexact, hrest⟩
        rw [hfired, hdone, hway] at hbalance hexact
        simp only [fires, completions, hhistory, Bool.toNat_true] at hbalance hexact
        refine ⟨?_, fun hless => hexact ?_, fun _ => hrest (.inl hway)⟩
        · simp only [fires, completions]
          omega
        rw [hrests] at hless
        simp only [fires, completions, Bool.toNat_false] at hless
        omega

theorem Balanced.of_completed {c₀ : Ctx} (h : Balanced e c c')
    (hhistory : c.session.history = .completed e.setup.branchIndex :: c₀.session.history)
    (hrests : underWay c.branch = false) (hresting : Resting c.branch)
    (hway : underWay c₀.branch = true) : Balanced e c₀ c' := by
  have hfires : fires e c.session = fires e c₀.session := by
    unfold fires
    rw [hhistory, List.count_cons_of_ne (fun h => HistoryEvent.noConfusion h)]
  have hdone : completions e c.session = completions e c₀.session + 1 := by
    unfold completions
    rw [hhistory, List.count_cons_self]
  rcases h with ⟨hbalance, hexact, hrest⟩
  rw [hfires, hdone, hrests] at hbalance hexact
  simp only [Bool.toNat_false] at hbalance hexact
  refine ⟨?_, fun hless => hexact ?_, fun _ => hrest (.inr hresting)⟩
  · rw [hway, Bool.toNat_true]
    omega
  · rw [hway, Bool.toNat_true] at hless
    omega

theorem finishWith_balanced (nowMs : UInt32) (fire : Ctx → EspErr × Ctx) (model : ScenarioBranch)
    (hfire : ∀ c, Balanced e c (fire c).2) (hrunning : c.branch.progress.scenarioState = .running) :
    Balanced e c (finishWith fire e model nowMs c).2 := by
  have hway := underWay_of_running hrunning
  have hhistory := applyCompletion_history e model c
  have hbranch := applyCompletion_branch e model c
  unfold finishWith
  split
  · next c₁ hok =>
      rw [hok] at hhistory
      have hcons : (HistoryEvent.completed e.setup.branchIndex :: c₁.session.history) =
          .completed e.setup.branchIndex :: c.session.history :=
        congrArg (HistoryEvent.completed e.setup.branchIndex :: ·) hhistory
      -- One completion more, which the reaction coming to rest makes up for.
      have hcompleted : ∀ c' : Ctx, c'.session.history =
          .completed e.setup.branchIndex :: c₁.session.history → underWay c'.branch = false →
          Resting c'.branch → Balanced e c c' := by
        intro c' h hrest hresting
        have hsame : Balanced e c' c' := balanced_of_progress rfl rfl
        exact hsame.of_completed (h.trans hcons)
          hrest hresting hway
      simp only
      split
      · exact hcompleted _ rfl rfl ⟨rfl, rfl⟩
      split
      · -- The reaction listens when it is fired again.
        exact (hfire _).of_completed hcons rfl ⟨rfl, rfl⟩ hway
      split
      · exact hcompleted _ rfl rfl ⟨rfl, rfl⟩
      · exact hcompleted _ rfl rfl ⟨rfl, rfl⟩
  · next err c₁ _ hout =>
      rw [hout] at hhistory hbranch
      refine balanced_of_history hhistory hway (.inl ?_)
      exact (congrArg underWay hbranch).trans hway

/-- Running the actions is balanced, however often a finish fires again. -/
theorem reactiveContinue_balanced (nowMs : UInt32) (depth : Nat)
    (hrunning : c.branch.progress.scenarioState = .running) :
    Balanced e c (reactiveContinue depth e nowMs c).2 := by
  induction depth generalizing c with
  | zero => exact balanced_of_progress rfl rfl
  | succ depth ih =>
    unfold reactiveContinue
    split
    · exact balanced_of_progress rfl rfl
    · next model _ =>
        split
        · exact balanced_of_progress rfl rfl
        rcases reactiveLoop_balanced (c := { c with plan := none }) nowMs _
          (fun c' h => finishWith_balanced nowMs _ model
            (fireWith_balanced nowMs _ fun c h => ih h) h)
          reactiveMaxActionsPerTick hrunning with ⟨hbalance, hexact, hrest⟩
        exact ⟨hbalance, hexact, hrest⟩

/-! ### Ticks -/

/-- What happens to the scratch fields and the lock behind it leaves a branch
    function balanced. -/
theorem Balanced.congr_right {c'' : Ctx} (h : Balanced e c c')
    (hhistory : c''.session.history = c'.session.history) (hbranch : c''.branch = c'.branch) :
    Balanced e c c'' := by
  have hfires : fires e c''.session = fires e c'.session := by unfold fires; rw [hhistory]
  have hdone : completions e c''.session = completions e c'.session := by
    unfold completions; rw [hhistory]
  rcases h with ⟨hbalance, hexact, hrest⟩
  rw [← hfires, ← hdone, ← hbranch] at hbalance hexact
  rw [← hbranch] at hrest
  exact ⟨hbalance, hexact, hrest⟩

theorem restTurn_balanced (hactive : e.setup.active = true) :
    Balanced e c (restTurn e nowMs c).1 := by
  unfold restTurn
  rw [if_neg (by rw [hactive]; decide)]
  split
  · next hcool =>
      split
      · have hway : underWay c.branch = false := by
          simp [underWay, hcool]
        refine ⟨?_, fun hless => ?_, fun _ _ => ⟨rfl, rfl⟩⟩
        · rw [hway]
          exact Nat.le_refl _
        · rw [hway] at hless
          exact absurd hless (Nat.lt_irrefl _)
      · exact balanced_of_progress rfl rfl
  · exact balanced_of_progress rfl rfl

theorem executeBranchCore_balanced (nowMs : UInt32) (hv2 : e.isReactiveV2 = true)
    (hactive : e.setup.active = true) (hrunning : c.branch.progress.scenarioState = .running)
    (budget : Nat) : Balanced e c (executeBranchCore e nowMs budget c).ctx := by
  unfold executeBranchCore
  simp only [hactive, hv2, Bool.not_true, Bool.false_eq_true, if_false, if_true]
  rcases reactiveContinue_balanced (c := { c with plan := none }) nowMs
    reactiveDepth hrunning with ⟨hbalance, hexact, hrest⟩
  exact ⟨hbalance, hexact, hrest⟩

/-- A reaction that a tick moves on, other than by an expired wait, is under way
    and made ready to run. -/
theorem processWait_ready (hv2 : e.isReactiveV2 = true)
    (hstirs : tickStirs e nowMs c.session.scenarioFlags c.branch = true)
    (hnot : ¬ ActionExpired e nowMs c) :
    underWay c.branch = true ∧ c.branch.progress.scenarioState ≠ .cooldown ∧
      ∃ c', processWait e nowMs c.load = .ready c' ∧ c'.session.history = c.session.history ∧
        c'.branch = c.branch ∧ c'.session.progress.scenarioState = .running := by
  have hprogress : c.load.session.progress = c.branch.progress := rfl
  have hflags : waitFlagsMet c.load.session =
      flagsHold c.session.scenarioFlags c.branch.progress.wait := rfl
  have hknown : timeoutKnown e c.branch = true := by
    unfold timeoutKnown
    rw [hv2, Bool.true_or]
  unfold tickStirs at hstirs
  rw [Bool.and_eq_true] at hstirs
  rcases hstirs with ⟨hactive, hstirs⟩
  cases hs : c.branch.progress.scenarioState with
  | running =>
    refine ⟨underWay_of_running hs, nofun, c.load, ?_, rfl, rfl, hs⟩
    unfold processWait
    simp [hprogress, hs]
  | cooldown =>
    simp only [hs, hv2, Bool.not_true, Bool.false_and, Bool.false_eq_true] at hstirs
  | waiting =>
    simp only [hs, hknown, Bool.and_true] at hstirs
    -- What has expired is excluded, so the flags hold.
    have hexpired : ∀ hcase : c.branch.progress.wait.waitType = .time ∨
        c.branch.progress.wait.waitType.isDeviceWait = true ∨
        (c.branch.progress.wait.waitType = .flags ∧
          flagsHold c.session.scenarioFlags c.branch.progress.wait = false),
        waitExpired nowMs c.branch.progress.wait = true → False :=
      fun hcase h => hnot ⟨hactive, hv2, hs, hcase, h⟩
    cases ht : c.branch.progress.wait.waitType with
    | time =>
      rw [ht] at hstirs
      exact (hexpired (.inl ht) hstirs).elim
    | deviceEvent | anyDeviceEvent | allDeviceEvents =>
      rw [ht] at hstirs
      exact (hexpired (.inr (.inl (by rw [ht]; rfl))) hstirs).elim
    | flags =>
      simp only [ht, Bool.or_eq_true] at hstirs
      cases hhold : flagsHold c.session.scenarioFlags c.branch.progress.wait with
      | false =>
        rw [hhold] at hstirs
        rcases hstirs with h | h
        · cases h
        · exact (hexpired (.inr (.inr ⟨ht, hhold⟩)) h).elim
      | true =>
        refine ⟨underWay_of_waiting hs (by rw [ht]; exact nofun),
          nofun,
          ((c.load.nextStep.setState .running).clearWait).markChanged e, ?_, rfl, rfl, rfl⟩
        unfold processWait
        simp [hprogress, hflags, hs, ht, hhold]
    | _ =>
      rw [ht] at hstirs
      cases hstirs
  | _ =>
    rw [hs] at hstirs
    cases hstirs

/-- A tick keeps a reaction balanced, if its wait has not run out or going on
    behind the wait parks it. -/
theorem processBranch_balanced (hv2 : e.isReactiveV2 = true) (hactive : e.setup.active = true)
    (hparks : ∀ action, ActionExpired e nowMs c → currentAction e c.branch = some action →
      ParksAfter e nowMs c action = true) : Balanced e c (processBranch e nowMs c).1 := by
  by_cases hexpired : ActionExpired e nowMs c
  · have hway := underWay_of_waiting hexpired.2.2.1 hexpired.onAction.wait
    cases haction : currentAction e c.branch with
    | none =>
      rw [processBranch_expired_none hexpired haction]
      exact balanced_of_history rfl hway (.inr (.inl ⟨rfl, rfl⟩))
    | some action =>
      have hgo := hparks action hexpired haction
      simp only [ParksAfter, Bool.and_eq_true, decide_eq_true_iff] at hgo
      rw [processBranch_expired action hexpired haction]
      unfold applyReactiveWaitTimeout
      rw [hgo.1]
      have hsynced := (goingOn_synced_iff hexpired).2 hgo.2
      have hran := reactiveContinue_balanced (e := e) (c := c.load.actionDone) nowMs
        reactiveDepth rfl
      have hsaved : (continueLocked e nowMs c.load.actionDone).2.save.branch =
          (continueLocked e nowMs c.load.actionDone).2.branch := by
        unfold Synced at hsynced
        simp only [Ctx.save, hsynced]
      have hkept : Balanced e c (continueLocked e nowMs c.load.actionDone).2 :=
        hran.congr_left rfl rfl hway
      exact hkept.congr_right rfl hsaved
  · cases hstirs : tickStirs e nowMs c.session.scenarioFlags c.branch with
    | false =>
      rw [processBranch_rests e nowMs c hstirs]
      exact restTurn_balanced hactive
    | true =>
      rcases processWait_ready hv2 hstirs hexpired with
        ⟨hway, hcool, c', hready, hhistory, hbranch, hrunning⟩
      unfold processBranch prepareBranch
      simp only [hactive, hcool, Bool.not_true, Bool.false_eq_true, if_false, ne_eq,
        not_false_eq_true, if_true, hready]
      split
      · exact balanced_of_progress hhistory (congrArg BranchRun.progress hbranch)
      have hran := executeBranchCore_balanced (c := c'.save) nowMs hv2 hactive hrunning
        maxStepsPerTick
      exact hran.congr_left hhistory (underWay_of_running hrunning) hway

/-! ### Many ticks -/

/-- What a tick finds around a branch: the time, the lock, and the session and
    plan that the other branches leave. -/
structure Setting where
  nowMs : UInt32
  lock : Lock
  session : SessionRun
  plan : Option CommandPlan := none

def Setting.ctx (t : Setting) (b : BranchRun) : Ctx := ⟨t.lock, t.session, b, t.plan⟩

def tickIn (e : Env) (b : BranchRun) (t : Setting) : Ctx := (processBranch e t.nowMs (t.ctx b)).1

/-- What ticks make of a branch, and how often they fire and complete it. -/
structure TickRun where
  branch : BranchRun
  fired : Nat
  completed : Nat

def ticksOn (e : Env) : BranchRun → List Setting → TickRun
  | b, [] => ⟨b, 0, 0⟩
  | b, t :: rest =>
    let c := tickIn e b t
    let r := ticksOn e c.branch rest
    { r with
      fired := (fires e c.session - fires e t.session) + r.fired
      completed := (completions e c.session - completions e t.session) + r.completed }

/-- Each tick on an expired wait goes on with the next action, and that parks
    the reaction. -/
def EachTickParks (e : Env) : BranchRun → List Setting → Prop
  | _, [] => True
  | b, t :: rest =>
    (∀ action, ActionExpired e t.nowMs (t.ctx b) → currentAction e b = some action →
      ParksAfter e t.nowMs (t.ctx b) action = true) ∧
    EachTickParks e (tickIn e b t).branch rest

theorem Moves.counts_le (h : Moves e c c') :
    fires e c.session ≤ fires e c'.session ∧ completions e c.session ≤ completions e c'.session := by
  refine h.preserves (fun c' => fires e c.session ≤ fires e c'.session ∧
    completions e c.session ≤ completions e c'.session) (fun c₁ c₂ hm hle => ?_)
    ⟨Nat.le_refl _, Nat.le_refl _⟩
  cases hm with
  | step hs =>
    cases hs with
    | record event =>
      exact ⟨Nat.le_trans hle.1 List.count_le_count_cons,
        Nat.le_trans hle.2 List.count_le_count_cons⟩
    | _ => exact hle
  | _ => exact hle

theorem GivenUp.tick {b : BranchRun} (h : GivenUp e b) (t : Setting) :
    (tickIn e b t).branch = b := by
  have hstate : b.progress.scenarioState ≠ .cooldown := by
    rcases h with ⟨hstate, -⟩ | ⟨hprogress, -⟩
    · rw [hstate]
      exact nofun
    · rw [hprogress]
      exact nofun
  have hrests : tickStirs e t.nowMs (t.ctx b).session.scenarioFlags (t.ctx b).branch = false := by
    have hb : (t.ctx b).branch = b := rfl
    unfold tickStirs
    rw [hb]
    rcases h with ⟨herror, -⟩ | ⟨hprogress, -⟩
    · simp [herror]
    · simp [hprogress]
  unfold tickIn
  rw [processBranch_rests e t.nowMs _ hrests]
  unfold restTurn
  split
  · rfl
  have hnot : (t.ctx b).branch.progress.scenarioState ≠ .cooldown := hstate
  rw [if_neg hnot]
  rfl

theorem GivenUp.ticks {b : BranchRun} (h : GivenUp e b) (settings : List Setting) : (ticksOn e b settings).branch = b := by
  induction settings with
  | nil => rfl
  | cons t rest ih =>
    change (ticksOn e (tickIn e b t).branch rest).branch = b
    rw [h.tick t]
    exact ih

theorem ticksOn_balanced (hv2 : e.isReactiveV2 = true) (hactive : e.setup.active = true)
    (b : BranchRun) (settings : List Setting) (hparks : EachTickParks e b settings) :
    let r := ticksOn e b settings
    r.completed + (underWay r.branch).toNat ≤ r.fired + (underWay b).toNat ∧
      (r.completed + (underWay r.branch).toNat < r.fired + (underWay b).toNat →
        GivenUp e r.branch) ∧
      (underWay b = true ∨ Resting b → underWay r.branch = false → Resting r.branch) := by
  induction settings generalizing b with
  | nil =>
    refine ⟨Nat.le_refl _, fun hless => absurd hless (Nat.lt_irrefl _), ?_⟩
    rintro (hway | hrest) hend
    · rw [show (ticksOn e b []).branch = b from rfl, hway] at hend
      cases hend
    · exact hrest
  | cons t rest ih =>
    have htick : Balanced e (t.ctx b) (tickIn e b t) :=
      processBranch_balanced hv2 hactive hparks.1
    have hmoves : Moves e (t.ctx b) (tickIn e b t) := Moves.processBranch .refl t.nowMs
    rcases htick with ⟨hle, hexact, hrest⟩
    rcases hmoves.counts_le with ⟨hfires, hdone⟩
    rcases ih _ hparks.2 with ⟨hle', hexact', hrest'⟩
    simp only [Setting.ctx] at hle hexact hrest hfires hdone
    unfold ticksOn
    simp only
    refine ⟨by omega, fun hless => ?_, fun hb hend => ?_⟩
    · -- One of the ticks gave the reaction up, and the later ones leave it so.
      by_cases hfirst : completions e (tickIn e b t).session + fires e t.session +
          (underWay (tickIn e b t).branch).toNat <
            completions e t.session + fires e (tickIn e b t).session + (underWay b).toNat
      · have hgiven := hexact hfirst
        rw [hgiven.ticks rest]
        exact hgiven
      · exact hexact' (by omega)
    · refine hrest' ?_ hend
      cases hway : underWay (tickIn e b t).branch with
      | true => exact .inl rfl
      | false => exact .inr (hrest hb hway)

/-- An expired wait ends as its timeout action prescribes exactly if going on
    behind it parks the reaction. In every run of ticks of that kind the
    reaction completes at most once for each fire, the one it is in included,
    and just once unless it is given up; and at rest it has no wait. -/
theorem expired_wait_ends_iff (e : Env) (b : BranchRun) (t : Setting) (action : ActionBody)
    (hexpired : ActionExpired e t.nowMs (t.ctx b)) (haction : currentAction e b = some action) :
    (Prescribed e t.nowMs (t.ctx b) action (tickIn e b t).branch ↔
      ParksAfter e t.nowMs (t.ctx b) action = true) ∧
    ∀ later, EachTickParks e b (t :: later) →
      let r := ticksOn e b (t :: later)
      r.completed + (underWay r.branch).toNat ≤ r.fired + 1 ∧
      (¬ GivenUp e r.branch → r.completed + (underWay r.branch).toNat = r.fired + 1) ∧
      (underWay r.branch = false → Resting r.branch) := by
  refine ⟨expired_prescribed_iff action hexpired haction, fun later hparks => ?_⟩
  have hway : underWay b = true := underWay_of_waiting hexpired.2.2.1 hexpired.onAction.wait
  rcases ticksOn_balanced hexpired.2.1 hexpired.1 b (t :: later) hparks with ⟨hle, hexact, hrest⟩
  rw [hway, Bool.toNat_true] at hle hexact
  refine ⟨hle, fun hkept => ?_, hrest (.inl hway)⟩
  exact Nat.le_antisymm hle (Nat.not_lt.1 fun hless => hkept (hexact hless))

/-! ### A bell -/

/-- A reaction that waits for a millisecond when the button is pressed, and
    perhaps opens the door then. -/
def bellScenario (timeoutAction : TimeoutAction) (opens : Bool) : RoomScenario :=
  { id := "bell"
    roomId := "r"
    steps := [{ body := .waitTime ⟨60000, .continue⟩ }]
    reactiveVariants := [⟨0, if opens then 2 else 1⟩]
    reactiveActions := [.waitTime ⟨1, timeoutAction⟩, .deviceCommand ⟨"door", "open", ""⟩]
    branches :=
      [{ id := "main", requiredForCompletion := true, stepStartIndex := 0, stepCount := 1 },
        { id := "bell", type := .reactive, trigger := { kind := .deviceEvent }, variantCount := 1,
          stepStartIndex := 1 }] }

def bellPrepared : PreparedScenario :=
  { eventRefs := [{ waitMatch := buttonMatch }]
    reactiveTriggers := [⟨false, []⟩, ⟨true, [0]⟩] }

/-- The button has been pressed, and there have been ticks since. -/
def bellSession (timeoutAction : TimeoutAction) (opens : Bool) (ticks : List Op) : Session :=
  ((runOps (World.boot 1)
    ([.start "r" 1000 5, .scenarioStart "r" (bellScenario timeoutAction opens) bellPrepared 0 none 10,
      .event buttonEvent 20] ++ ticks)).sessions[0]?).getD {}

def bellBranch (timeoutAction : TimeoutAction) (opens : Bool) (ticks : List Op) : Branch :=
  ((bellSession timeoutAction opens ticks).branches[1]?).getD ⟨{}, {}⟩

def bellEnv (timeoutAction : TimeoutAction) (opens : Bool) : Env :=
  RoomCtx.env ⟨{}, bellSession timeoutAction opens [], none⟩ (bellBranch timeoutAction opens [])

/-- What the bell finds when the first tick gets to it. -/
def bellSetting (timeoutAction : TimeoutAction) (opens : Bool) : Setting :=
  ⟨50, {}, (bellSession timeoutAction opens []).run, none⟩

/-- A bell that opens the door when its wait has run out: it goes on as it
    should, and is in its one fire still when the next tick is over. -/
theorem expired_wait_ends_iff_door : Prescribed (bellEnv .continue true) 50
        ((bellSetting .continue true).ctx (bellBranch .continue true []).run)
        (.waitTime ⟨1, .continue⟩)
        (tickIn (bellEnv .continue true) (bellBranch .continue true []).run
          (bellSetting .continue true)).branch ∧
      (let r := ticksOn (bellEnv .continue true) (bellBranch .continue true []).run
        [bellSetting .continue true, bellSetting .continue true]
      r.completed + (underWay r.branch).toNat = r.fired + 1) := by
  have haction : currentAction (bellEnv .continue true) (bellBranch .continue true []).run =
      some (.waitTime ⟨1, .continue⟩) := by decide +kernel
  have hparks : ParksAfter (bellEnv .continue true) 50
      ((bellSetting .continue true).ctx (bellBranch .continue true []).run)
      (.waitTime ⟨1, .continue⟩) = true := by decide +kernel
  rcases expired_wait_ends_iff (bellEnv .continue true) (bellBranch .continue true []).run
    (bellSetting .continue true) (.waitTime ⟨1, .continue⟩) (by decide +kernel) haction with
    ⟨hiff, hruns⟩
  refine ⟨hiff.2 hparks, (hruns [bellSetting .continue true] ⟨?_, ?_, trivial⟩).2.1 ?_⟩
  · intro action _ hsome
    cases Option.some.inj (haction.symm.trans hsome)
    exact hparks
  · -- The command is waited for without a deadline.
    intro action hexpired _
    exact absurd hexpired (by decide +kernel)
  · unfold GivenUp
    decide +kernel

/-- A bell whose wait is to fail it, or is its last action, is still in that
    wait behind the tick that ends it; and the latter completes with every tick. -/
theorem expired_waits_go_on : (ActionExpired (bellEnv .failReaction false) 50
        ((bellSetting .failReaction false).ctx (bellBranch .failReaction false []).run) ∧
      (bellBranch .failReaction false [.tick 50]).run.progress =
        (bellBranch .failReaction false []).run.progress) ∧
    (bellBranch .continue false [.tick 50, .tick 60]).run.progress =
      (bellBranch .continue false []).run.progress ∧
    fires (bellEnv .continue false) (bellSession .continue false [.tick 50, .tick 60]).run = 1 ∧
    completions (bellEnv .continue false) (bellSession .continue false [.tick 50, .tick 60]).run =
      2 := by
  decide +kernel

end SceneHub
