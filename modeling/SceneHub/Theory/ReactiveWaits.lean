import SceneHub.Theory.FiringRuns

/-!
# Waits Inside a Reaction

What an event does to a reaction that waits between two of its actions.

The event that ends a device wait moves the step index, which a reaction does not use, and
the action that runs next is the wait it was in. It is entered again, and the reaction stays
where it is for as long as events come.

A trigger that comes during a timed wait finds the reaction under way. With the policy for one
variant it is dropped or queued. With the others the reaction is cut short first, and then
fired; if it does not fire, because of its cooldown, what was left of it is lost.

## Main definitions

* `Arrives`: The event gets as far as the branch.
* `BranchRun.marked`: A record that differs only in what is kept about triggers.
* `InTimedWait`: A reaction is in the timed wait of one of its actions.
* `restOf`: The actions that are left of a reaction, and those on completion.
* `KeepsProgress`: Nothing of the reaction is lost.
* `CutInVain`: A trigger cuts the reaction short and does not fire it.

## Theorems

* `event_branch`: What a step leaves of a branch.
* `completed_wait_reentered`: What the event that ends a wait comes to.
* `restOf_marked`: The rest of a reaction does not look at its triggers.
* `trigger_spares_progress_iff`: When a trigger leaves the reaction alone.
-/

namespace SceneHub

open Lib (sweep)

variable {model : ScenarioBranch}

/-! ### The turn of a branch -/

/-- The state in which the branch loop of room `i` comes to branch `j`. -/
def arrival (w : World) (message : Event) (now i : Nat) (session : Session) (j : Nat) : EventCtx :=
  (sweep (roomEventTurn (w.roomCtx session) message (scenarioNow now)) (List.range j)
    (eventEntry message (roomEntry w message now i session))).1

/-- The event gets as far as the branch: it is no command result, and neither a room nor a
    branch in front of it ends the function. -/
structure Arrives (w : World) (message : Event) (now i : Nat) (session : Session) (j : Nat) :
    Prop where
  event : message.isDeviceControlResult = false
  room : ReachesRoom w message now i
  branch : ReachesBranch w message now i session j

/-- The loop comes to the branch with the branch as it was, whatever the others have done. -/
theorem arrival_place (w : World) (message : Event) (now i : Nat) (session : Session) (j : Nat) :
    (arrival w message now i session j).room.place j = (w.roomCtx session).place j :=
  Lib.sweep_range_before (fun t : EventCtx => t.room.place j) _ j _
    fun k t hk => eventTurn_place_ne message _ _ _ k j t hk

theorem event_branch (w : World) (message : Event) (now i j : Nat) (session : Session) (b : Branch)
    (hs : w.sessions[i]? = some session) (huse : session.inUse = true)
    (hvalid : session.runningScenarioValid = true) (hb : session.branches[j]? = some b)
    (hevent : message.isDeviceControlResult = false) :
    ∃ session', (stepOp w (.event message now)).2.sessions[i]? = some session' ∧
      (Arrives w message now i session j → session'.branches[j]? =
        (roomEventTurn (w.roomCtx session) message (scenarioNow now) j
          (arrival w message now i session j)).1.room.session.branches[j]?) ∧
      (¬Arrives w message now i session j → session'.branches[j]? = some b) := by
  rcases event_session w message now i session hs huse hvalid with
    ⟨hpost, hmissed⟩ | ⟨hpost, hgot⟩
  · exact ⟨session, hpost, fun harrives => absurd harrives.room hmissed, fun _ => hb⟩
  have hlt : j < session.branches.length := (List.getElem?_eq_some_iff.1 hb).1
  have hread := Lib.sweep_range_read (fun t : EventCtx => t.room.place j)
    (roomEventTurn (w.roomCtx session) message (scenarioNow now)) j
    (eventEntry message (roomEntry w message now i session))
    (fun k t hk => eventTurn_place_ne message _ _ _ k j t hk) _ hlt
  rw [roomOnEvent_eq _ _ _ hevent] at hpost
  refine ⟨_, hpost, fun harrives => ?_, fun hmissed => ?_⟩
  · have hbranch := harrives.branch
    rw [if_neg (by rw [hbranch]; exact Bool.false_ne_true)] at hread
    exact congrArg Prod.snd hread
  have hleft : ¬ReachesBranch w message now i session j := fun hbranch =>
    hmissed ⟨hevent, hgot, hbranch⟩
  unfold ReachesBranch at hleft
  rw [if_pos (by simpa using hleft)] at hread
  exact (congrArg Prod.snd hread).trans hb

theorem roomFound_some {r : RoomCtx} {j : Nat} {b : Branch} (message : Event)
    (hb : r.session.branches[j]? = some b) : roomFound r message j = reactiveMatch r message b := by
  unfold roomFound
  rw [hb]
  rfl

/-! ### Waits for devices -/

theorem reactiveMatch_trigger {r : RoomCtx} {message : Event} {b : Branch}
    (h : b.awaits message = true) : (reactiveMatch r message b).trigger = false := by
  have htype := ((awaits_iff b message).1 h).2.2.1
  unfold reactiveMatch
  by_cases hreactive : b.setup.type ≠ .reactive
  · rw [if_pos hreactive]
  rw [if_neg hreactive]
  have hnone : b.run.progress.wait.waitType ≠ .none := by
    intro heq
    rw [heq] at htype
    cases htype
  have htime : b.run.progress.wait.waitType ≠ .time := by
    intro heq
    rw [heq] at htype
    cases htype
  simp [hnone, htime]

theorem reactiveTurn_started (e : Env) (nowMs : UInt32) (index : Nat) (action : ActionBody)
    (c : Ctx) {t : WaitType} (h : enteredWait e index action = some t) :
    ∃ c', reactiveTurn e nowMs index action c = .leave .ok c' ∧
      c'.branch.progress.wait.waitStartedAtMs = nowMs := by
  unfold enteredWait at h
  cases hexpand : expandPreparedWaitResolution e.prepared
      ((e.prepared.reactiveActionWaits[index]?).getD {}) with
  | none =>
    rw [hexpand] at h
    cases h
  | some found =>
    rw [hexpand] at h
    -- A group is accepted if it passes the checks that entering it makes.
    have hgroup : ∀ {wait : WaitGroupEvents}, groupAccepted wait found = true →
        ¬(found.length ≠ wait.eventCount ∨ wait.eventCount = 0 ∨
          waitEventGroupMaxEvents < wait.eventCount) := by
      intro wait hacc
      simp only [groupAccepted, Bool.and_eq_true, decide_eq_true_iff] at hacc
      omega
    cases action with
    | waitDeviceEvent wait =>
      dsimp only at h
      split_ifs at h with hone
      rcases List.length_eq_one_iff.1 hone with ⟨m, rfl⟩
      simp only [reactiveTurn, enterReactiveWait, hexpand, enterWaitDeviceEvent]
      exact ⟨_, rfl, rfl⟩
    | waitAnyDeviceEvent wait =>
      dsimp only at h
      split_ifs at h with hacc
      simp only [reactiveTurn, enterReactiveWait, hexpand, enterWaitAnyDeviceEvent,
        enterWaitGroup, if_neg (hgroup hacc)]
      exact ⟨_, rfl, rfl⟩
    | waitAllDeviceEvents wait =>
      dsimp only at h
      split_ifs at h with hacc
      simp only [reactiveTurn, enterReactiveWait, hexpand, enterWaitAllDeviceEvents,
        enterWaitGroup, if_neg (hgroup hacc)]
      exact ⟨_, rfl, rfl⟩
    | _ => cases h

theorem continueLocked_started (e : Env) (nowMs : UInt32) (b : BranchRun) (matched : List Bool)
    (c : Ctx) (hactive : e.setup.active = true) (hin : Reenters e b)
    (hc : c.branch = b.endWait matched) :
    (continueLocked e nowMs c).2.branch.progress.wait.waitStartedAtMs = nowMs := by
  rcases hin with ⟨hv2, hcount, action, haction, hentered⟩
  rcases Option.isSome_iff_exists.1 hv2 with ⟨model, hmodel⟩
  have hstart : c.branch.reactiveActionStartIndex = b.reactiveActionStartIndex := by
    rw [hc]
    rfl
  have hcurrent : c.branch.reactiveCurrentAction = b.reactiveCurrentAction := by
    rw [hc]
    rfl
  have hlast : ¬c.branch.reactiveActionCount ≤ b.reactiveCurrentAction := by
    rw [hc]
    exact Nat.not_le.2 hcount
  rcases reactiveTurn_started e nowMs _ action { c with plan := none } hentered with
    ⟨c', hturn, hstarted⟩
  unfold continueLocked reactiveDepth reactiveContinue
  simp only [hmodel, hactive, Bool.not_true, Bool.false_eq_true, if_false]
  unfold reactiveLoop reactiveMaxActionsPerTick
  simp only [hcurrent, hlast, if_false, hstart, haction, hturn]
  exact hstarted

theorem eventTurn_reenters (message : Event) (nowMs : UInt32) (found : Nat → ReactiveMatch)
    (conflict : Bool) (j : Nat) (s : EventCtx) (b : Branch)
    (hb : s.room.session.branches[j]? = some b) (hawaits : b.awaits message = true)
    (hresult : message.isDeviceControlResult = false) (htrigger : (found j).trigger = false)
    (hskip : ¬(conflict = true ∧ (found j).any = true)) (hin : Reenters (s.room.env b) b.run) :
    ∃ b', (eventTurn message nowMs found conflict j s).1.room.session.branches[j]? = some b' ∧
      AtWait true b.run b'.run ∧ b'.run.progress.wait.waitStartedAtMs = nowMs := by
  rcases (awaits_iff b message).1 hawaits with ⟨hactive, -, htype, -⟩
  rcases branchOnEvent_ends (s.room.env b) message nowMs (s.room.ctx b) hresult hawaits with
    ⟨hafter, matched, hbranch⟩
  unfold eventTurn
  rw [if_neg hskip]
  simp only [htrigger, RoomCtx.onBranch_some s.room j _ _ b hb, hafter]
  have hget : (s.room.put j b
      (branchOnEvent (s.room.env b) message false nowMs (s.room.ctx b)).ctx).session.branches[j]? =
      some ⟨b.setup, b.run.endWait matched⟩ := by
    have hlt : j < s.room.session.branches.length := (List.getElem?_eq_some_iff.1 hb).1
    simp only [RoomCtx.put, List.getElem?_set_self hlt, hbranch]
    rfl
  rw [RoomCtx.executeBranch_get_eq _ nowMs maxStepsPerTick j _ hget]
  have hv2 : (s.room.env b).isReactiveV2 = true := hin.1
  refine ⟨_, rfl, ?_, ?_⟩
  · rw [← hv2]
    exact (run_atWait_iff (s.room.env b) nowMs b.run matched _ hactive htype rfl).2 hin
  have hstarted := continueLocked_started (s.room.env b) nowMs b.run matched
    ⟨(branchOnEvent (s.room.env b) message false nowMs (s.room.ctx b)).ctx.lock,
      (branchOnEvent (s.room.env b) message false nowMs (s.room.ctx b)).ctx.session,
      b.run.endWait matched, none⟩ hactive hin rfl
  unfold executeBranchCore
  simp only [RoomCtx.env, RoomCtx.put, RoomCtx.ctx] at hv2 hstarted ⊢
  simp only [hactive, hv2, Bool.not_true, Bool.false_eq_true, if_false, if_true]
  exact hstarted

/-- **The event that completes the wait of a reaction, delivered to it, leads back into the wait:
    behind it the same run of the reaction is in the same action, which has begun anew.** -/
theorem completed_wait_reentered (w : World) (message : Event) (now i j : Nat) (session : Session)
    (b : Branch) (hs : w.sessions[i]? = some session) (huse : session.inUse = true)
    (hvalid : session.runningScenarioValid = true) (hb : session.branches[j]? = some b)
    (hawaits : b.awaits message = true) (hin : Reenters ((w.roomCtx session).env b) b.run)
    (harrives : Arrives w message now i session j)
    (hfree : suppressed (w.roomCtx session) message b = false) :
    ∃ session' b', (stepOp w (.event message now)).2.sessions[i]? = some session' ∧
      session'.branches[j]? = some b' ∧ AtWait true b.run b'.run ∧
      b'.run.progress.wait.waitStartedAtMs = scenarioNow now := by
  rcases event_branch w message now i j session b hs huse hvalid hb harrives.event with
    ⟨session', hpost, hturn, -⟩
  have hplace := arrival_place w message now i session j
  have hthere := (congrArg Prod.snd hplace).trans hb
  have henv := RoomCtx.env_congr b (congrArg Prod.fst hplace)
  have hfound := roomFound_some (r := w.roomCtx session) message hb
  have htrigger : (roomFound (w.roomCtx session) message j).trigger = false := by
    rw [hfound]
    exact reactiveMatch_trigger hawaits
  have hskip : ¬(roomConflict (w.roomCtx session) message = true ∧
      (roomFound (w.roomCtx session) message j).any = true) := by
    rw [hfound, ← Bool.and_eq_true]
    unfold suppressed at hfree
    rw [hfree]
    exact Bool.false_ne_true
  rcases eventTurn_reenters message (scenarioNow now) _ _ j _ b hthere hawaits harrives.event
    htrigger hskip (henv ▸ hin) with ⟨b', hb', hat, hstarted⟩
  exact ⟨session', b', hpost, (hturn harrives).trans hb', hat, hstarted⟩

/-! ### A gong that waits for the button -/

/-- A reaction whose first action waits for the button, with a flag behind it. -/
def expectingScenario : RoomScenario :=
  { gongScenario .single 1 0 with
    reactiveVariants := [⟨0, 2⟩]
    reactiveActions := [.waitDeviceEvent ⟨0, .continue, ""⟩, .setFlag ⟨"done", true⟩] }

def expectingPrepared : PreparedScenario :=
  { eventRefs := [{ waitMatch := buttonMatch }]
    reactiveActionWaits := [⟨true, [0]⟩, ⟨false, []⟩] }

/-- The gong was rung, and waits. -/
def expecting : World :=
  runOps (World.boot 1)
    [.start "r" 1000 5, .scenarioStart "r" expectingScenario expectingPrepared 0 none 10,
      .event ringEvent 20]

/-- The room after some more events. -/
def expectingSession (events : List Op) : Session :=
  ((runOps expecting events).sessions[0]?).getD {}

def expectingBranch (events : List Op) : Branch :=
  ((expectingSession events).branches[1]?).getD ⟨{}, {}⟩

/-- The button is pressed while the reaction waits for it, and the reaction waits on. -/
theorem completed_wait_reentered_button :
    ∃ session' b', (stepOp expecting (.event buttonEvent 30)).2.sessions[0]? = some session' ∧
      session'.branches[1]? = some b' ∧ AtWait true (expectingBranch []).run b'.run ∧
      b'.run.progress.wait.waitStartedAtMs = 30 := by
  have hroom : ReachesRoom expecting buttonEvent 30 0 := by
    unfold ReachesRoom
    decide +kernel
  have hbranch : ReachesBranch expecting buttonEvent 30 0 (expectingSession []) 1 := by
    unfold ReachesBranch
    decide +kernel
  have hin : Reenters ((expecting.roomCtx (expectingSession [])).env (expectingBranch []))
      (expectingBranch []).run :=
    ⟨by decide +kernel, by decide +kernel, .waitDeviceEvent ⟨0, .continue, ""⟩,
      by decide +kernel, by decide +kernel⟩
  exact completed_wait_reentered expecting buttonEvent 30 0 1 (expectingSession [])
    (expectingBranch []) (by decide +kernel) (by decide +kernel) (by decide +kernel)
    (by decide +kernel) (by decide +kernel) hin ⟨by decide +kernel, hroom, hbranch⟩
    (by decide +kernel)

/-- The button ends the wait of the first action twice, and both times the reaction is back in
    that action; the flag is never set. -/
theorem button_never_heard : (expectingBranch []).awaits buttonEvent = true ∧
    (expectingBranch [.event buttonEvent 30]).run.reactiveCurrentAction = 0 ∧
    (expectingBranch [.event buttonEvent 30]).awaits buttonEvent = true ∧
    (expectingBranch [.event buttonEvent 30, .event buttonEvent 40]).run.reactiveCurrentAction = 0 ∧
    (expectingBranch [.event buttonEvent 30, .event buttonEvent 40]).run.fireCount = 1 ∧
    (expectingSession [.event buttonEvent 30, .event buttonEvent 40]).run.scenarioFlags = [] := by
  decide +kernel

/-! ### Progress -/

/-- A record that differs only in what is kept about triggers. -/
def BranchRun.marked (b : BranchRun) (pending : Bool) (matched : List Bool) : BranchRun :=
  { b with pendingTrigger := pending, reactiveTriggerEventMatched := matched }

/-- A reaction without what is kept about its triggers. -/
def Ctx.unmarked (c : Ctx) : Ctx := { c with branch := c.branch.marked false [] }

def ReactiveTurn.unmarked : ReactiveTurn → ReactiveTurn
  | .leave err c => .leave err c.unmarked
  | .again c => .again c.unmarked

/-- The reaction is in the timed wait of one of its actions. -/
structure InTimedWait (e : Env) (b : BranchRun) : Prop where
  v2 : e.isReactiveV2 = true
  reactive : e.setup.type = .reactive
  active : e.setup.active = true
  waiting : b.progress.scenarioState = .waiting
  timed : b.progress.wait.waitType = .time

/-- What is left of a reaction: its remaining actions and those on completion, run on from the
    end of one wait to the next. The settings are what it finds each time. -/
def restOf (e : Env) (model : ScenarioBranch) : List Setting → BranchRun → List (EspErr × Ctx)
  | [], _ => []
  | t :: rest, b =>
    let out := reactiveLoop (applyCompletion e model) e t.nowMs reactiveMaxActionsPerTick
      (t.ctx b).actionDone
    (out.1, out.2.unmarked) :: restOf e model rest out.2.branch

/-- The action, its wait and all that comes behind it are as they were. -/
structure KeepsProgress (e : Env) (b b' : BranchRun) : Prop where
  same : ∃ pending matched, b' = b.marked pending matched
  rest : ∀ model settings, restOf e model settings b' = restOf e model settings b

theorem reactiveTurn_unmarked (e : Env) (nowMs : UInt32) (index : Nat) (action : ActionBody)
    (c : Ctx) : (reactiveTurn e nowMs index action c.unmarked).unmarked =
      (reactiveTurn e nowMs index action c).unmarked := by
  cases action with
  | deviceCommandGroup mode startIndex count =>
    simp only [reactiveTurn]
    split <;> rfl
  | waitDeviceEvent wait =>
    simp only [reactiveTurn, enterReactiveWait]
    cases expandPreparedWaitResolution e.prepared
        ((e.prepared.reactiveActionWaits[index]?).getD {}) with
    | none => rfl
    | some found =>
      by_cases hone : ∃ m, found = [m]
      · rcases hone with ⟨m, rfl⟩
        rfl
      have hrefused : ∀ c, enterWaitDeviceEvent e wait (some found) nowMs c =
          (.invalidArg, c) := by
        intro c
        unfold enterWaitDeviceEvent
        split
        · next m heq => exact absurd ⟨m, Option.some.inj heq⟩ hone
        · rfl
      simp only [hrefused]
      rfl
  | waitAnyDeviceEvent wait | waitAllDeviceEvents wait =>
    simp only [reactiveTurn, enterReactiveWait]
    cases expandPreparedWaitResolution e.prepared
        ((e.prepared.reactiveActionWaits[index]?).getD {}) with
    | none => rfl
    | some found =>
      simp only [enterWaitAnyDeviceEvent, enterWaitAllDeviceEvents, enterWaitGroup]
      by_cases hgroup : found.length ≠ wait.eventCount ∨ wait.eventCount = 0 ∨
          waitEventGroupMaxEvents < wait.eventCount
      · simp only [if_pos hgroup]
        rfl
      · simp only [if_neg hgroup]
        rfl
  | waitFlags wait =>
    simp only [reactiveTurn, enterWaitFlags]
    by_cases hlength : wait.flags.length = 0 ∨ waitFlagsMaxFlags < wait.flags.length
    · simp only [if_pos hlength]
      rfl
    simp only [if_neg hlength]
    -- Both look at the flags of one session.
    have hsame : ∀ w, (c.unmarked.enterWait e w).session = (c.enterWait e w).session :=
      fun _ => rfl
    simp only [hsame]
    split <;> rfl
  | setFlag flag =>
    have hset : c.unmarked.setFlag flag = ((c.setFlag flag).1, (c.setFlag flag).2.unmarked) := rfl
    simp only [reactiveTurn, hset]
    cases hout : c.setFlag flag with
    | mk err c' => cases err <;> rfl
  | _ => rfl

theorem completionLoop_unmarked (actions : List ActionBody) (c : Ctx) :
    completionLoop actions c.unmarked =
      ((completionLoop actions c).1, (completionLoop actions c).2.unmarked) := by
  induction actions generalizing c with
  | nil => rfl
  | cons action rest ih =>
    cases action with
    | setFlag flag =>
      have hset : c.unmarked.setFlag flag = ((c.setFlag flag).1, (c.setFlag flag).2.unmarked) :=
        rfl
      simp only [completionLoop, hset]
      cases c.setFlag flag with
      | mk err c' =>
        cases err with
        | ok => exact ih c'
        | _ => rfl
    | showOperatorMessage message => exact ih (c.setMessage message)
    | _ => exact ih c

section

variable (e : Env) (model : ScenarioBranch)

theorem applyCompletion_unmarked (c : Ctx) : applyCompletion e model c.unmarked =
      ((applyCompletion e model c).1, (applyCompletion e model c).2.unmarked) := by
  unfold applyCompletion
  split
  · rfl
  · exact completionLoop_unmarked _ c

theorem reactiveLoop_unmarked (nowMs : UInt32) (budget : Nat) (c : Ctx) :
    (reactiveLoop (applyCompletion e model) e nowMs budget c.unmarked).map id Ctx.unmarked =
      (reactiveLoop (applyCompletion e model) e nowMs budget c).map id Ctx.unmarked := by
  induction budget generalizing c with
  | zero => rfl
  | succ budget ih =>
    unfold reactiveLoop
    by_cases hlast : c.branch.reactiveActionCount ≤ c.branch.reactiveCurrentAction
    · rw [if_pos hlast, if_pos (show c.unmarked.branch.reactiveActionCount ≤
        c.unmarked.branch.reactiveCurrentAction from hlast), applyCompletion_unmarked]
      rfl
    rw [if_neg hlast, if_neg (show ¬c.unmarked.branch.reactiveActionCount ≤
      c.unmarked.branch.reactiveCurrentAction from hlast)]
    simp only [show c.unmarked.branch.reactiveActionStartIndex +
      c.unmarked.branch.reactiveCurrentAction = c.branch.reactiveActionStartIndex +
      c.branch.reactiveCurrentAction from rfl]
    cases e.scenario.reactiveActions[c.branch.reactiveActionStartIndex +
        c.branch.reactiveCurrentAction]? with
    | none => rfl
    | some action =>
      have hturn := reactiveTurn_unmarked e nowMs
        (c.branch.reactiveActionStartIndex + c.branch.reactiveCurrentAction) action c
      simp only
      cases hleft : reactiveTurn e nowMs (c.branch.reactiveActionStartIndex +
          c.branch.reactiveCurrentAction) action c.unmarked with
      | leave err c₁ =>
        rw [hleft] at hturn
        cases hright : reactiveTurn e nowMs (c.branch.reactiveActionStartIndex +
            c.branch.reactiveCurrentAction) action c with
        | again c₂ =>
          rw [hright] at hturn
          cases hturn
        | leave err' c₂ =>
          rw [hright] at hturn
          simp only [ReactiveTurn.unmarked, ReactiveTurn.leave.injEq] at hturn
          exact Prod.ext hturn.1 hturn.2
      | again c₁ =>
        rw [hleft] at hturn
        cases hright : reactiveTurn e nowMs (c.branch.reactiveActionStartIndex +
            c.branch.reactiveCurrentAction) action c with
        | leave err c₂ =>
          rw [hright] at hturn
          cases hturn
        | again c₂ =>
          rw [hright] at hturn
          simp only [ReactiveTurn.unmarked, ReactiveTurn.again.injEq] at hturn
          have hnext := ih c₁
          rw [hturn, ih c₂] at hnext
          exact hnext.symm

/-- **What is left of a reaction does not depend on what is kept about its triggers.** -/
theorem restOf_marked (settings : List Setting)
    (b b' : BranchRun) (h : b'.marked false [] = b.marked false []) :
    restOf e model settings b' = restOf e model settings b := by
  induction settings generalizing b b' with
  | nil => rfl
  | cons t rest ih =>
    have hsame : (t.ctx b').actionDone.unmarked = (t.ctx b).actionDone.unmarked := by
      have hctx : ∀ b₁ : BranchRun, (t.ctx b₁).actionDone.unmarked =
          (t.ctx (b₁.marked false [])).actionDone.unmarked := fun _ => rfl
      rw [hctx b', hctx b, h]
    have hout := reactiveLoop_unmarked e model t.nowMs reactiveMaxActionsPerTick
      (t.ctx b').actionDone
    rw [hsame, reactiveLoop_unmarked e model t.nowMs reactiveMaxActionsPerTick
      (t.ctx b).actionDone] at hout
    have hafter := congrArg Prod.snd hout
    exact congrArg₂ List.cons hout.symm (ih _ _ (congrArg Ctx.branch hafter.symm))

end

theorem KeepsProgress.of_marked {e : Env} {b b' : BranchRun}
    (h : ∃ pending matched, b' = b.marked pending matched) : KeepsProgress e b b' := by
  rcases h with ⟨pending, matched, rfl⟩
  exact ⟨⟨pending, matched, rfl⟩, fun model settings => restOf_marked e model settings _ _ rfl⟩

theorem KeepsProgress.refl (e : Env) (b : BranchRun) : KeepsProgress e b b :=
  .of_marked ⟨b.pendingTrigger, b.reactiveTriggerEventMatched, rfl⟩

/-! ### Triggers during a timed wait -/

/-- A reaction fires when it listens: it has variants, and neither its limit nor its cooldown is
    in the way. -/
def CanFire (e : Env) (model : ScenarioBranch) (nowMs : UInt32) (b : BranchRun) : Prop :=
  model.variantCount ≠ 0 ∧
    model.variantStartIndex + model.variantCount ≤ e.scenario.reactiveVariants.length ∧
    firesExhausted e b = false ∧ cooldownPending nowMs b = false

instance (e : Env) (model : ScenarioBranch) (nowMs : UInt32) (b : BranchRun) :
    Decidable (CanFire e model nowMs b) :=
  inferInstanceAs (Decidable (_ ∧ _))

/-- A reaction that listens fires if it can, and else at most queues the trigger. -/
theorem fireLocked_cases {e : Env} (nowMs : UInt32) {c : Ctx}
    (hmodel : e.modelBranch = some model) (hactive : e.setup.active = true)
    (hstate : c.branch.progress.scenarioState = .waiting)
    (hwait : c.branch.progress.wait.waitType = .none) : (CanFire e model nowMs c.branch →
      fires e c.session < fires e (fireLocked e nowMs c).2.session) ∧
    (¬CanFire e model nowMs c.branch →
      (fireLocked e nowMs c).2.session.history = c.session.history ∧
        ∃ pending, (fireLocked e nowMs c).2.branch =
          c.branch.marked pending c.branch.reactiveTriggerEventMatched) := by
  have hself : c.branch =
      c.branch.marked c.branch.pendingTrigger c.branch.reactiveTriggerEventMatched := rfl
  have hready : readyToFire nowMs c.branch = !cooldownPending nowMs c.branch := by
    unfold readyToFire
    rw [hstate, hwait]
    rfl
  unfold fireLocked fireWith CanFire
  simp only [hmodel, hactive, Bool.not_true, Bool.false_eq_true, false_or, hready, Bool.not_not]
  by_cases hvariants : model.variantCount = 0 ∨
      e.scenario.reactiveVariants.length < model.variantStartIndex + model.variantCount
  · simp only [if_pos hvariants]
    refine ⟨fun hcan => ?_, fun _ => ⟨trivial, _, hself⟩⟩
    rcases hvariants with hnone | hrange
    · exact absurd hnone hcan.1
    · exact absurd hcan.2.1 (Nat.not_le.2 hrange)
  simp only [if_neg hvariants]
  by_cases hexhausted : firesExhausted e c.branch = true
  · simp only [if_pos hexhausted]
    exact ⟨fun hcan => absurd hexhausted (by rw [hcan.2.2.1]; exact Bool.false_ne_true),
      fun _ => ⟨trivial, _, hself⟩⟩
  simp only [if_neg hexhausted]
  by_cases hcooling : cooldownPending nowMs c.branch = true
  · simp only [if_pos hcooling]
    refine ⟨fun hcan => absurd hcooling (by rw [hcan.2.2.2]; exact Bool.false_ne_true),
      fun _ => ?_⟩
    split
    · exact ⟨rfl, true, rfl⟩
    · exact ⟨rfl, _, hself⟩
  simp only [if_neg hcooling]
  refine ⟨fun _ => ?_, fun hcannot => absurd ?_ hcannot⟩
  · have hsteady : ∀ c₁ : Ctx, c₁.branch.pendingTrigger = false →
        fires e c₁.session ≤ fires e (continueLocked e nowMs c₁).2.session := by
      intro c₁ hpending
      have hout : HoldsFire e nowMs c₁.ledger (continueLocked e nowMs c₁).2.ledger ∨
          Reset e c₁.ledger (continueLocked e nowMs c₁).2.ledger :=
        reactiveContinue_steady reactiveDepth hpending
      rcases hout with hholds | hreset
      · exact hholds.suffix.count_le _
      · exact hreset.history.count_le _
    have hstarted : fires e (startVariant e nowMs (selectVariant model c).1
        ((e.scenario.reactiveVariants[model.variantStartIndex + (selectVariant model c).1]?).getD
          default) (selectVariant model c).2).session = fires e c.session + 1 := by
      rw [(startVariant_counts nowMs _ _ _).1]
      unfold fires
      rw [selectVariant_history]
    exact Nat.lt_of_lt_of_le (by rw [hstarted]; exact Nat.lt_succ_self _) (hsteady _ rfl)
  · rw [not_or, Nat.not_lt] at hvariants
    exact ⟨hvariants.1, hvariants.2, by simpa using hexhausted, by simpa using hcooling⟩

/-- Unless the policy is for one variant, a trigger first ends the wait, and then tries to fire. -/
theorem triggerDuringWait_eq {e : Env} (nowMs : UInt32) {c : Ctx}
    (hmodel : e.modelBranch = some model) (hin : InTimedWait e c.branch)
    (hpolicy : model.policyMode ≠ .single) :
    ∃ c₁, triggerDuringWait e nowMs c = fireLocked e nowMs c₁ ∧
      c₁.branch.progress.scenarioState = .waiting ∧ c₁.branch.progress.wait.waitType = .none ∧
      c₁.session.history = c.session.history ∧
      c₁.branch.reactiveTriggerEventMatched = c.branch.reactiveTriggerEventMatched ∧
      (CanFire e model nowMs c₁.branch ↔ CanFire e model nowMs c.branch) := by
  unfold triggerDuringWait
  simp only [hmodel, hin.waiting, hin.timed, ne_eq, not_true_eq_false, or_self, if_false,
    if_neg hpolicy]
  refine ⟨_, rfl, rfl, rfl, ?_⟩
  split
  · exact ⟨rfl, rfl, Iff.rfl⟩
  · exact ⟨rfl, rfl, Iff.rfl⟩

theorem triggerDuringWait_single {e : Env} (nowMs : UInt32) {c : Ctx}
    (hmodel : e.modelBranch = some model) (hin : InTimedWait e c.branch)
    (hpolicy : model.policyMode = .single) :
    (triggerDuringWait e nowMs c).2.session.history = c.session.history ∧
      ∃ pending, (triggerDuringWait e nowMs c).2.branch =
        c.branch.marked pending c.branch.reactiveTriggerEventMatched := by
  unfold triggerDuringWait
  simp only [hmodel, hin.waiting, hin.timed, ne_eq, not_true_eq_false, or_self, if_false,
    if_pos hpolicy]
  split
  · exact ⟨rfl, true, rfl⟩
  · exact ⟨rfl, c.branch.pendingTrigger, rfl⟩

/-- The trigger counts, the policy is not for one variant, and the reaction cannot fire. -/
def TriggersInVain (e : Env) (message : Event) (nowMs : UInt32) (c : Ctx) : Prop :=
  (consumeTrigger e message c).1 = true ∧
    ∃ model, e.modelBranch = some model ∧ model.policyMode ≠ .single ∧
      ¬CanFire e model nowMs c.branch

/-- A trigger that does not fire the reaction leaves its progress alone, unless it comes in vain. -/
theorem branchOnTrigger_spares_iff (e : Env) (message : Event) (nowMs : UInt32) (c : Ctx)
    (hin : InTimedWait e c.branch) :
    (¬fires e c.session < fires e (branchOnTrigger e message nowMs c).ctx.session →
      KeepsProgress e c.branch (branchOnTrigger e message nowMs c).ctx.branch) ↔
    ¬TriggersInVain e message nowMs c := by
  rcases Option.isSome_iff_exists.1 hin.v2 with ⟨model, hmodel⟩
  rcases consumeTrigger_branch e message c with ⟨matched, hbranch⟩
  have hledger := (consumeTrigger_keeps (e := e) (c := c) message).1
  have hhistory : (consumeTrigger e message c).2.session.history = c.session.history :=
    congrArg Ledger.history hledger
  unfold TriggersInVain
  cases hout : consumeTrigger e message c with
  | mk consumed c₁ =>
    rw [hout] at hbranch hhistory
    -- The trigger's marks change neither the wait nor whether the reaction can fire.
    have hin₁ : InTimedWait e c₁.branch := by
      rw [hbranch]
      exact ⟨hin.v2, hin.reactive, hin.active, hin.waiting, hin.timed⟩
    have hcan₁ : CanFire e model nowMs c₁.branch ↔ CanFire e model nowMs c.branch := by
      rw [hbranch]
      exact Iff.rfl
    unfold branchOnTrigger
    simp only [hout]
    cases consumed with
    | false =>
      simp only [Bool.false_eq_true, false_and, not_false_eq_true, iff_true]
      intro _
      exact .of_marked ⟨c.branch.pendingTrigger, matched, hbranch⟩
    | true =>
      simp only [hin₁.timed, if_true, true_and]
      have hctx : ∀ out : EspErr × Ctx,
          (if out.1 = .ok then (⟨out.2, true, .checkPlan⟩ : BranchEvent)
            else ⟨out.2, false, .next⟩).ctx = out.2 := by
        intro out
        split <;> rfl
      rw [hctx]
      by_cases hpolicy : model.policyMode = .single
      · rcases triggerDuringWait_single nowMs hmodel hin₁ hpolicy with
          ⟨-, pending, hafter⟩
        refine iff_of_true (fun _ => .of_marked ⟨pending, matched, ?_⟩) ?_
        · rw [hafter, hbranch]
          rfl
        rintro ⟨model', hmodel', hother, -⟩
        rw [hmodel] at hmodel'
        cases hmodel'
        exact hother hpolicy
      rcases triggerDuringWait_eq nowMs hmodel hin₁ hpolicy with
        ⟨c₂, heq, hstate, hnone, hhistory₂, -, hcan₂⟩
      have hfire := fireLocked_cases nowMs hmodel hin.active hstate hnone
      have hfires : fires e c₂.session = fires e c.session := by
        unfold fires
        rw [hhistory₂, hhistory]
      rw [heq]
      rw [hcan₂, hcan₁, hfires] at hfire
      by_cases hcan : CanFire e model nowMs c.branch
      · refine iff_of_true (fun hmissed => absurd (hfire.1 hcan) hmissed) ?_
        rintro ⟨model', hmodel', -, hcannot⟩
        rw [hmodel] at hmodel'
        cases hmodel'
        exact hcannot hcan
      rcases hfire.2 hcan with ⟨hsame, queued, hafter⟩
      refine iff_of_false (fun hkeeps => ?_) fun h => h ⟨model, hmodel, hpolicy, hcan⟩
      have hmissed : ¬fires e c.session < fires e (fireLocked e nowMs c₂).2.session := by
        unfold fires at hfires ⊢
        rw [hsame, hfires]
        exact Nat.lt_irrefl _
      rcases (hkeeps hmissed).same with ⟨pending, marks, hb'⟩
      have hwait := congrArg (·.progress.wait.waitType) hb'
      simp only [hafter, hnone, BranchRun.marked, hin.timed, reduceCtorEq] at hwait

theorem eventTurn_timed (message : Event) (nowMs : UInt32) (found : Nat → ReactiveMatch)
    (conflict : Bool) (j : Nat) (s : EventCtx) (b : Branch)
    (hb : s.room.session.branches[j]? = some b) (hevent : message.isDeviceControlResult = false)
    (hin : InTimedWait (s.room.env b) b.run) : (eventTurn message nowMs found conflict j s).1.room =
      if conflict = true ∧ (found j).any = true then s.room
      else s.room.put j b
        (if (found j).trigger = true then
          (branchOnTrigger (s.room.env b) message nowMs (s.room.ctx b)).ctx
        else (consumeTrigger (s.room.env b) message (s.room.ctx b)).2) := by
  have hreactive : (s.room.env b).setup.type = .reactive := hin.reactive
  unfold eventTurn
  by_cases hskip : conflict = true ∧ (found j).any = true
  · rw [if_pos hskip, if_pos hskip]
  rw [if_neg hskip, if_neg hskip]
  simp only [RoomCtx.onBranch_some s.room j _ _ b hb]
  unfold branchOnEvent
  by_cases htrigger : (found j).trigger = true
  · simp only [hevent, htrigger, hreactive, Bool.not_false, and_self, if_true]
    have hafter :
        (branchOnTrigger (s.room.env b) message nowMs (s.room.ctx b)).after ≠ .execute := by
      unfold branchOnTrigger
      split
      · exact nofun
      · simp only
        split <;> split <;> exact nofun
    cases hexit : (branchOnTrigger (s.room.env b) message nowMs (s.room.ctx b)).after with
    | execute => exact absurd hexit hafter
    | next => rfl
    | checkPlan => rfl
  -- Its wait is none that an event can end.
  have hawaits : awaitsEvent (s.room.env b).setup
      (consumeTrigger (s.room.env b) message (s.room.ctx b)).2.branch = false := by
    rcases consumeTrigger_branch (s.room.env b) message (s.room.ctx b) with ⟨matched, hbranch⟩
    have htype : b.run.progress.wait.waitType = .time := hin.timed
    unfold awaitsEvent
    rw [hbranch]
    simp [RoomCtx.ctx, htype, WaitType.isEventWait]
  simp only [hevent, htrigger, hreactive, Bool.not_false, Bool.false_eq_true, false_and,
    and_false, and_self, if_true, if_false]
  unfold branchOnWait
  simp [hawaits]

def FiresAt (w : World) (message : Event) (now i : Nat) (session : Session) (j : Nat) (b : Branch) :
    Prop :=
  Arrives w message now i session j ∧
    fires ((w.roomCtx session).env b) (arrival w message now i session j).room.session.run <
      fires ((w.roomCtx session).env b)
        (roomEventTurn (w.roomCtx session) message (scenarioNow now) j
          (arrival w message now i session j)).1.room.session.run

/-- The event is a trigger of the branch and gets to it, and cuts the reaction short without
    firing it. -/
def CutInVain (w : World) (message : Event) (now i : Nat) (session : Session) (j : Nat)
    (b : Branch) : Prop :=
  Arrives w message now i session j ∧ suppressed (w.roomCtx session) message b = false ∧
    (reactiveMatch (w.roomCtx session) message b).trigger = true ∧
    TriggersInVain ((w.roomCtx session).env b) message (scenarioNow now)
      ((arrival w message now i session j).room.ctx b)

/-- **An event that does not fire a reaction in a timed wait leaves its progress alone, unless it
    is a trigger that cuts the reaction short in vain.** -/
theorem trigger_spares_progress_iff (w : World) (message : Event) (now i j : Nat)
    (session : Session) (b : Branch) (hs : w.sessions[i]? = some session)
    (huse : session.inUse = true) (hvalid : session.runningScenarioValid = true)
    (hb : session.branches[j]? = some b) (hin : InTimedWait ((w.roomCtx session).env b) b.run)
    (hevent : message.isDeviceControlResult = false) :
    ∃ session' b', (stepOp w (.event message now)).2.sessions[i]? = some session' ∧
      session'.branches[j]? = some b' ∧
      ((¬FiresAt w message now i session j b →
          KeepsProgress ((w.roomCtx session).env b) b.run b'.run) ↔
        ¬CutInVain w message now i session j b) := by
  rcases event_branch w message now i j session b hs huse hvalid hb hevent with
    ⟨session', hpost, hturn, hmissed⟩
  by_cases harrives : Arrives w message now i session j
  · have hplace := arrival_place w message now i session j
    have hthere := (congrArg Prod.snd hplace).trans hb
    have henv := RoomCtx.env_congr b (congrArg Prod.fst hplace)
    have hfound := roomFound_some (r := w.roomCtx session) message hb
    have hroom := eventTurn_timed message (scenarioNow now) (roomFound (w.roomCtx session) message)
      (roomConflict (w.roomCtx session) message) j _ b hthere hevent (henv ▸ hin)
    have hlt : j < (arrival w message now i session j).room.session.branches.length :=
      (List.getElem?_eq_some_iff.1 hthere).1
    rw [hfound, henv] at hroom
    have hafter := hturn harrives
    unfold roomEventTurn at hafter
    unfold FiresAt CutInVain
    simp only [harrives, true_and]
    unfold roomEventTurn
    rw [hroom] at hafter ⊢
    have hskip : (roomConflict (w.roomCtx session) message = true ∧
        (reactiveMatch (w.roomCtx session) message b).any = true) ↔
        suppressed (w.roomCtx session) message b = true := by
      unfold suppressed
      rw [Bool.and_eq_true]
    by_cases hsuppressed : suppressed (w.roomCtx session) message b = true
    · rw [if_pos (hskip.2 hsuppressed)] at hafter
      refine ⟨session', b, hpost, hafter.trans hthere, iff_of_true (fun _ => .refl _ _) ?_⟩
      intro hcut
      rw [hsuppressed] at hcut
      cases hcut.1
    rw [if_neg fun h => hsuppressed (hskip.1 h)] at hafter ⊢
    simp only [RoomCtx.put, List.getElem?_set_self hlt] at hafter
    refine ⟨session', _, hpost, hafter, ?_⟩
    by_cases htrigger : (reactiveMatch (w.roomCtx session) message b).trigger = true
    · simp only [htrigger, if_true, hsuppressed, true_and]
      exact branchOnTrigger_spares_iff ((w.roomCtx session).env b) message (scenarioNow now)
        ((arrival w message now i session j).room.ctx b) hin
    simp only [htrigger, Bool.false_eq_true, if_false, false_and, and_false, not_false_eq_true,
      iff_true]
    intro _
    rcases consumeTrigger_branch ((w.roomCtx session).env b) message
      ((arrival w message now i session j).room.ctx b) with ⟨matched, hbranch⟩
    exact .of_marked ⟨b.run.pendingTrigger, matched, hbranch⟩
  · refine ⟨session', b, hpost, hmissed harrives, ?_⟩
    exact iff_of_true (fun _ => .refl _ _) fun hcut => harrives hcut.1

/-! ### A gong that pauses -/

/-- A reaction that pauses for a second and then sets a flag, with a cooldown of a minute. -/
def pausingScenario : RoomScenario :=
  { gongScenario .rotate 1 60000 with
    reactiveVariants := [⟨0, 2⟩]
    reactiveActions := [.waitTime ⟨1000, .continue⟩, .setFlag ⟨"done", true⟩] }

/-- The gong was rung, and pauses. -/
def pausing : World :=
  runOps (World.boot 1)
    [.start "r" 1000 5, .scenarioStart "r" pausingScenario {} 0 none 10, .event ringEvent 20]

def pausingSession (events : List Op) : Session := ((runOps pausing events).sessions[0]?).getD {}

def pausingBranch (events : List Op) : Branch :=
  ((pausingSession events).branches[1]?).getD ⟨{}, {}⟩

/-- What a ring makes of the pause. -/
theorem trigger_spares_progress_iff_pause :
    ∃ session' b', (stepOp pausing (.event ringEvent 30)).2.sessions[0]? = some session' ∧
      session'.branches[1]? = some b' ∧
      ((¬FiresAt pausing ringEvent 30 0 (pausingSession []) 1 (pausingBranch []) →
          KeepsProgress ((pausing.roomCtx (pausingSession [])).env (pausingBranch []))
            (pausingBranch []).run b'.run) ↔
        ¬CutInVain pausing ringEvent 30 0 (pausingSession []) 1 (pausingBranch [])) :=
  trigger_spares_progress_iff pausing ringEvent 30 0 1 (pausingSession []) (pausingBranch [])
    (by decide +kernel) (by decide +kernel) (by decide +kernel) (by decide +kernel)
    ⟨by decide +kernel, by decide +kernel, by decide +kernel, by decide +kernel, by decide +kernel⟩
    (by decide +kernel)

/-- The gong is rung again during the pause, and does not fire: the pause is over, and the flag
    that was to be set behind it is not set any more. -/
theorem ring_ends_pause :
    ¬KeepsProgress ((pausing.roomCtx (pausingSession [])).env (pausingBranch []))
      (pausingBranch []).run (pausingBranch [.event ringEvent 30]).run ∧
    (pausingBranch [.event ringEvent 30]).run.fireCount = (pausingBranch []).run.fireCount ∧
    (pausingBranch []).run.reactiveCurrentAction = 0 ∧
    (pausingBranch [.event ringEvent 30]).run.reactiveCurrentAction = 2 ∧
    (pausingSession [.tick 1100]).run.scenarioFlags = [⟨"done", true⟩] ∧
    (pausingSession [.event ringEvent 30, .tick 1100]).run.scenarioFlags = [] := by
  refine ⟨fun hkeeps => ?_, by decide +kernel⟩
  rcases hkeeps.same with ⟨pending, matched, hsame⟩
  have hbefore : (pausingBranch []).run.progress.wait.waitType = .time := by decide +kernel
  have hafter : (pausingBranch [.event ringEvent 30]).run.progress.wait.waitType = .none := by
    decide +kernel
  have hwait := hafter.symm.trans ((congrArg (·.progress.wait.waitType) hsame).trans hbefore)
  cases hwait

end SceneHub
