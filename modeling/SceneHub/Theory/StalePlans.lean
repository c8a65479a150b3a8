import SceneHub.Theory.Delivery

/-!
# Stale Plans

A command plan is carried out without the lock. When the dispatcher comes back
with it, the branch may have been stopped, restarted, or moved on by the
operator. A plan belongs to one entry into a dispatch wait, which the model
numbers; it is stale once its branch no longer is in that wait.

The code recognises a stale plan by the branch's state and a step or action
index. That is too weak in three ways. A new activation at the same index looks
like the old one. The test itself loads the branch into the session's scratch
fields, which are the session's summary. And the failure of a plan is not
tested at all.

## Main definitions

* `planTarget`: The branch a plan names.
* `Corresponds`: The plan's branch is in the wait the plan was made for.
* `World.shown`: The branches, summaries and last errors of all rooms.
* `KeepsStale`: When coming back with a stale plan changes none of them.
* `AllNumbered`: Every dispatch wait carries a number already given out.

## Theorems

* `runOps_numbered`: `AllNumbered` holds in every run.
* `applyDispatch_fresh`: A dispatch result that is taken ends the wait.
* `stale_plan_kept_iff`: In every run, coming back with a stale plan changes
  nothing exactly when `KeepsStale` holds.
-/

namespace SceneHub

open Relation (ReflTransGen)

/-! ### Activations -/

/-- A wait has no number, or one that has been given out; a wait for a dispatch
    has one. -/
def Numbered (activations : Nat) (w : Wait) : Prop :=
  w.activation ≤ activations ∧
  (w.waitType = .deviceCommandResult → w.waitEventType = dispatchPendingId → 0 < w.activation)

/-- A wait has no number, or one given out after the first `n`. -/
def Fresh (n : Nat) (w : Wait) : Prop := w.activation = 0 ∨ n < w.activation

theorem numbered_empty (n : Nat) : Numbered n {} :=
  ⟨Nat.zero_le n, fun h => absurd h nofun⟩

theorem numbered_mono {m n : Nat} (h : m ≤ n) {w : Wait} (hw : Numbered m w) : Numbered n w :=
  ⟨Nat.le_trans hw.1 h, hw.2⟩

theorem numbered_of_type {n : Nat} {w : Wait} (h : w.waitType ≠ .deviceCommandResult)
    (hle : w.activation ≤ n) : Numbered n w := ⟨hle, fun htype => absurd htype h⟩

@[simp] theorem cancelWait_activations (l : Lock) (w : Wait) :
    (l.cancelWait w).activations = l.activations := by
  unfold Lock.cancelWait
  split <;> rfl

@[simp] theorem deferFlagEvent_activations (l : Lock) (name : String) (value : Bool) :
    (l.deferFlagEvent name value).2.activations = l.activations := by
  unfold Lock.deferFlagEvent
  split
  · rfl
  · split <;> rfl

theorem setFlag_activations (l : Lock) (flags : List Flag) (name : String) (value : Bool) :
    (setFlag l flags name value).2.1.activations = l.activations := by
  unfold setFlag
  split
  · rfl
  split
  · split
    · rfl
    · exact deferFlagEvent_activations l name value
  · split
    · rfl
    · exact deferFlagEvent_activations l name value

theorem random_activations (l : Lock) : l.random.2.activations = l.activations := by
  unfold Lock.random
  split <;> rfl

/-- What the two copies of the wait carry, in terms of the numbers given out. -/
def CtxWaits (K : Nat → Wait → Prop) (c : Ctx) : Prop :=
  K c.lock.activations c.session.progress.wait ∧ K c.lock.activations c.branch.progress.wait

/-- No primitive takes a number back. -/
theorem move_activations_le {R K : String → Prop} {e : Env} {c c' : Ctx} (h : CallMove R K e c c') :
    c.lock.activations ≤ c'.lock.activations := by
  cases h with
  | move hm =>
    cases hm with
    | step hs =>
      cases hs with
      | dispatch nowMs =>
        exact Nat.le_succ_of_le (Nat.le_of_eq (cancelWait_activations _ _).symm)
      | flag flag => exact Nat.le_of_eq (setFlag_activations _ _ _ _).symm
      | clearWait => exact Nat.le_of_eq (cancelWait_activations _ _).symm
      | _ => exact Nat.le_refl _
    | branchClearWait => exact Nat.le_of_eq (cancelWait_activations _ _).symm
    | random => exact Nat.le_of_eq (random_activations _).symm
    | _ => exact Nat.le_refl _
  | more => exact Nat.le_refl _
  | result dispatch nowMs hR =>
    unfold enterWaitCommandResult
    split
    · exact Nat.le_refl _
    · exact Nat.le_of_eq (cancelWait_activations _ _).symm

/-- Every primitive keeps both copies numbered, as long as no result is awaited
    under the id that stands for a pending dispatch. -/
theorem move_numbered {R K : String → Prop} (hR : ∀ id, R id → id ≠ dispatchPendingId) {e : Env}
    {c c' : Ctx} (h : CallMove R K e c c') (hc : CtxWaits Numbered c) : CtxWaits Numbered c' := by
  have hle := move_activations_le h
  rcases hc with ⟨hs, hb⟩
  have hs' := numbered_mono hle hs
  have hb' := numbered_mono hle hb
  cases h with
  | move hm =>
    cases hm with
    | step hstep =>
      cases hstep with
      | clearWait => exact ⟨numbered_empty _, hb'⟩
      | wait w htype hactivation =>
        refine ⟨numbered_of_type htype ?_, hb'⟩
        rcases hactivation with hzero | hsame
        · exact hzero ▸ Nat.zero_le _
        · exact hsame ▸ hs.1
      | dispatch nowMs =>
        -- The new wait takes the next number.
        refine ⟨⟨?_, fun _ _ => Nat.succ_pos _⟩, hb'⟩
        exact Nat.succ_le_succ (Nat.le_of_eq (cancelWait_activations _ _).symm)
      | skip step => exact ⟨hs', hb'⟩
      | flag flag => exact ⟨hs', hb'⟩
      | _ => exact ⟨hs, hb⟩
    | load => exact ⟨hb, hb⟩
    | save => exact ⟨hs, hs⟩
    | branchClearWait => exact ⟨hs', numbered_empty _⟩
    | timeWait startedAtMs untilMs =>
      exact ⟨hs, numbered_of_type WaitType.noConfusion hb.1⟩
    | counters b hprogress =>
      refine ⟨hs, ?_⟩
      simp only [hprogress]
      exact hb
    | random => exact ⟨hs', hb'⟩
    | _ => exact ⟨hs, hb⟩
  | more => exact ⟨hs, hb⟩
  | result dispatch nowMs hid =>
    unfold enterWaitCommandResult at hs' hb' ⊢
    split
    · exact ⟨hs, hb⟩
    · next hrequired =>
        rw [if_neg hrequired] at hb'
        exact ⟨⟨Nat.zero_le _, fun _ h => absurd h (hR _ hid)⟩, hb'⟩

theorem move_fresh {n : Nat} {e : Env} {c c' : Ctx} (h : Move e c c')
    (hn : n ≤ c.lock.activations) (hc : CtxWaits (fun _ => Fresh n) c) :
    CtxWaits (fun _ => Fresh n) c' := by
  rcases hc with ⟨hs, hb⟩
  cases h with
  | step hstep =>
    cases hstep with
    | clearWait => exact ⟨.inl rfl, hb⟩
    | wait w htype hactivation =>
      refine ⟨?_, hb⟩
      rcases hactivation with hzero | hsame
      · exact .inl hzero
      unfold Fresh at hs ⊢
      simp only [Ctx.setWait]
      rw [hsame]
      exact hs
    | dispatch nowMs =>
      refine ⟨.inr ?_, hb⟩
      exact Nat.lt_succ_of_le hn
    | _ => exact ⟨hs, hb⟩
  | load => exact ⟨hb, hb⟩
  | save => exact ⟨hs, hs⟩
  | branchClearWait => exact ⟨hs, .inl rfl⟩
  | counters b hprogress =>
    refine ⟨hs, ?_⟩
    simp only [hprogress]
    exact hb
  | _ => exact ⟨hs, hb⟩

/-- A chain that starts with both copies clear of the number of a wait does not
    lead back into that wait. -/
theorem moves_progress_ne {e : Env} {c c' : Ctx} {p : Progress} (h : Moves e c c')
    (hpos : 0 < p.wait.activation) (hle : p.wait.activation ≤ c.lock.activations)
    (hc : CtxWaits (fun _ => Fresh p.wait.activation) c) : c'.branch.progress ≠ p := by
  have hend := h.preserves
    (fun c => p.wait.activation ≤ c.lock.activations ∧
      CtxWaits (fun _ => Fresh p.wait.activation) c)
    (fun c₁ c₂ hm hc₁ =>
      ⟨Nat.le_trans hc₁.1 (move_activations_le (CallMove.move (R := fun _ => True) (K := fun _ => True) hm)),
        move_fresh hm hc₁.1 hc₁.2⟩)
    ⟨hle, hc⟩
  intro heq
  rcases hend.2.2 with hzero | hlater
  · rw [heq] at hzero
    exact absurd hzero (Nat.ne_of_gt hpos)
  · rw [heq] at hlater
    exact Nat.lt_irrefl _ hlater

/-! ### Numbers in runs -/

def SessionNumbered (activations : Nat) (s : Session) : Prop :=
  Numbered activations s.run.progress.wait ∧
  ∀ b ∈ s.branches, Numbered activations b.run.progress.wait

/-- Every wait in the table is numbered. -/
def AllNumbered (w : World) : Prop := ∀ s ∈ w.sessions, SessionNumbered w.lock.activations s

/-- A dispatch result never carries the id that stands for a pending dispatch. -/
def RealIds : CallCond := fun _ _ call =>
  ∀ plan dispatch hasMore nowMs, call = .apply plan dispatch hasMore nowMs →
    dispatch.requestId ≠ dispatchPendingId

theorem sessionNumbered_mono {m n : Nat} (h : m ≤ n) {s : Session} (hs : SessionNumbered m s) :
    SessionNumbered n s :=
  ⟨numbered_mono h hs.1, fun b hb => numbered_mono h (hs.2 b hb)⟩

theorem cancelBranches_activations (l : Lock) (branches : List Branch) :
    (l.cancelBranches branches).activations = l.activations := by
  unfold Lock.cancelBranches
  induction branches generalizing l with
  | nil => rfl
  | cons b branches ih =>
    rw [List.foldl_cons, ih]
    exact cancelWait_activations l _

theorem initBranchesFrom_waits (prepared : PreparedScenario) (i : Nat) (srcs : List ScenarioBranch)
    (branches : List Branch) (h : initBranchesFrom prepared i srcs = some branches) :
    ∀ b ∈ branches, b.run.progress.wait = {} := by
  induction srcs generalizing i branches with
  | nil =>
    cases h
    intro b hb
    cases hb
  | cons src srcs ih =>
    unfold initBranchesFrom at h
    split at h
    · cases h
    · next b₀ hb₀ =>
        rcases Option.map_eq_some_iff.mp h with ⟨rest, hrest, rfl⟩
        intro b hb
        rcases List.mem_cons.mp hb with rfl | hmem
        · rcases Option.map_eq_some_iff.mp hb₀ with ⟨x, -, rfl⟩
          rfl
        · exact ih (i + 1) rest hrest b hmem

theorem initBranches_waits (scenario : RoomScenario) (prepared : PreparedScenario)
    (branches : List Branch) (h : initBranches scenario prepared = some branches) :
    ∀ b ∈ branches, b.run.progress.wait = {} := by
  unfold initBranches at h
  split at h
  · exact initBranchesFrom_waits prepared 0 _ _ h
  cases h
  intro b hb
  rw [List.mem_singleton.mp hb]

theorem branchCall_numbered (e : Env) (c : Ctx) (call : BranchCall)
    (hreal : ∀ plan dispatch hasMore nowMs, call = .apply plan dispatch hasMore nowMs →
      dispatch.requestId ≠ dispatchPendingId) (hc : CtxWaits Numbered c) :
    c.lock.activations ≤ (call.run e c).lock.activations ∧ CtxWaits Numbered (call.run e c) := by
  have hmoves := call.moves (fun id => id ≠ dispatchPendingId) (fun _ => True) e c
    fun plan dispatch hasMore nowMs h => ⟨hreal plan dispatch hasMore nowMs h, trivial⟩
  refine ⟨?_, hmoves.preserves _ (fun _ _ hm => move_numbered (fun _ h => h) hm) hc⟩
  exact hmoves.preserves (fun c' => c.lock.activations ≤ c'.lock.activations)
    (fun _ _ hm h => Nat.le_trans h (move_activations_le hm)) (Nat.le_refl _)

theorem roomStep_numbered {r r' : RoomCtx} (h : RoomStep RealIds r r')
    (hr : SessionNumbered r.lock.activations r.session) : r.lock.activations ≤ r'.lock.activations ∧
      SessionNumbered r'.lock.activations r'.session := by
  cases h with
  | branch j b call hb hC =>
    rcases branchCall_numbered (r.env b) (r.ctx b) call hC
      ⟨hr.1, hr.2 b (List.mem_of_getElem? hb)⟩ with ⟨hle, hs', hb'⟩
    refine ⟨hle, hs', fun b₁ hb₁ => ?_⟩
    rcases List.mem_or_eq_of_mem_set hb₁ with hold | rfl
    · exact numbered_mono hle (hr.2 b₁ hold)
    · exact hb'
  | summary =>
    refine ⟨Nat.le_refl _, ?_, hr.2⟩
    -- The summary copies the wait of a branch, or leaves the scratch wait.
    unfold RoomCtx.updateSummary RoomCtx.mapRun updateSummary
    split
    · exact hr.1
    split
    · exact hr.1
    simp only
    cases hchoice : (summaryScan {} r.session.branches).choice with
    | none => exact hr.1
    | some b => exact hr.2 b (summaryChoice_mem hchoice).1
  | scan =>
    refine ⟨Nat.le_refl _, ?_, hr.2⟩
    rcases scanScratch_cases r.session.branches r.session.run.progress with h | ⟨b, hb, -, h⟩
    · simp only [RoomCtx.mapRun, h]
      exact hr.1
    · simp only [RoomCtx.mapRun, h]
      exact hr.2 b hb
  | planNone => exact ⟨Nat.le_refl _, hr⟩
  | mark => exact ⟨Nat.le_refl _, hr⟩
  | clearWait =>
    have hsame := cancelWait_activations r.lock r.session.run.progress.wait
    refine ⟨Nat.le_of_eq hsame.symm, numbered_empty _, fun b hb => ?_⟩
    exact numbered_mono (Nat.le_of_eq hsame.symm) (hr.2 b hb)
  | clearBranches =>
    have hsame := cancelBranches_activations r.lock r.session.branches
    refine ⟨Nat.le_of_eq hsame.symm, numbered_mono (Nat.le_of_eq hsame.symm) hr.1, ?_⟩
    intro b hb
    cases hb
  | init scenario prepared branches hinit hnone =>
    refine ⟨Nat.le_refl _, hr.1, fun b hb => ?_⟩
    rw [initBranches_waits scenario prepared branches hinit b hb]
    exact numbered_empty _
  | fields session hbranches hwait hroom =>
    refine ⟨Nat.le_refl _, ?_, ?_⟩
    · simp only [hwait]
      exact hr.1
    · simp only [hbranches]
      exact hr.2

theorem worldStep_numbered {w w' : World} (h : WorldStep RealIds w w') (hw : AllNumbered w) :
    AllNumbered w' := by
  cases h with
  | acquire => exact hw
  | room i session plan r hs hstep =>
    have hsession := hw session (List.mem_of_getElem? hs)
    rcases roomStep_numbered hstep hsession with ⟨hle, hr⟩
    intro s hmem
    rcases List.mem_or_eq_of_mem_set hmem with hold | rfl
    · exact sessionNumbered_mono hle (hw s hold)
    · exact hr
  | alloc i session roomId hs hne hnew =>
    intro s hmem
    rcases List.mem_or_eq_of_mem_set hmem with hold | rfl
    · exact hw s hold
    · exact ⟨numbered_empty _, by simp⟩
  | resetAll =>
    intro s hmem
    rcases List.mem_map.mp hmem with ⟨s₀, -, rfl⟩
    exact ⟨numbered_empty _, by simp⟩
  | release => exact hw

/-- The operation brings no result under the id of a pending dispatch. -/
def OpReal : Op → Prop
  | .planApply _ dispatch _ _ => dispatch.requestId ≠ dispatchPendingId
  | _ => True

theorem callsMeet_real (w : World) (op : Op) (h : OpReal op) : CallsMeet RealIds w op := by
  refine callsMeet_of w op (fun r j call hcall => ?_) (fun plan dispatch hasMore now hop r j => ?_)
  · exact fun plan dispatch hasMore nowMs heq => absurd heq (hcall _ _ _ _)
  subst hop
  intro plan' dispatch' hasMore' nowMs' heq
  cases heq
  exact h

theorem boot_numbered (rooms : Nat) (entropy : List UInt32) :
    AllNumbered (World.boot rooms entropy) := by
  intro s hs
  rw [List.eq_of_mem_replicate hs]
  exact ⟨numbered_empty _, by simp⟩

theorem runOps_numbered (rooms : Nat) (entropy : List UInt32) (ops : List Op)
    (hreal : ∀ op ∈ ops, OpReal op) : AllNumbered (runOps (World.boot rooms entropy) ops) :=
  runOps_induction AllNumbered (fun _ _ => worldStep_numbered) _ (boot_numbered rooms entropy) ops
    fun op hop w => callsMeet_real w op (hreal op hop)

/-! ### Plans and their branches -/

/-- The running session and the branch that a plan names. -/
def planTarget (w : World) (plan : CommandPlan) : Option (Session × Branch) :=
  (w.find plan.roomId).bind fun i => (w.sessions[i]?).bind fun session =>
    if session.runningScenarioValid then
      (session.branches[plan.branchIndex]?).map fun b => (session, b)
    else none

/-- The branch is in the very wait the plan was made for. -/
def Corresponds (w : World) (plan : CommandPlan) : Prop :=
  (planTarget w plan).any (fun (_, b) =>
    b.setup.active && waitingForDispatch b.run.progress &&
    b.run.progress.wait.activation = plan.activation) = true

instance (w : World) (plan : CommandPlan) : Decidable (Corresponds w plan) :=
  inferInstanceAs (Decidable (_ = true))

/-- The code's test of a plan against a branch. -/
def planFits (plan : CommandPlan) (b : BranchRun) : Bool :=
  waitingForDispatch b.progress &&
  if plan.kind.isStep then b.progress.currentStepIndex = plan.expectedStepIndex
  else b.reactiveCurrentAction = plan.expectedReactiveAction

/-- The branches, the summary and the last error of a session. -/
def Session.shown (s : Session) : List Branch × Progress × String :=
  (s.branches, s.run.progress, s.run.scenarioLastError)

def World.shown (w : World) : List (List Branch × Progress × String) :=
  w.sessions.map Session.shown

/-- When coming back with a stale plan changes nothing that is shown. The
    summary must already show the plan's branch, as the test loads it; the
    branch must not pass the test, unless more commands follow; and a failure
    must have been noted before. -/
def KeepsStale (w : World) : Op → Prop
  | .planNext plan => ∀ session b, planTarget w plan = some (session, b) →
      b.setup.active = true → session.run.progress = b.run.progress
  | .planApply plan dispatch hasMore _ => ∀ session b, planTarget w plan = some (session, b) →
      b.setup.active = true → session.run.progress = b.run.progress ∧
        (planFits plan b.run = true → hasMore = true ∧ dispatch.resultRequired = false)
  | .planFail plan errorCode => ∀ session b, planTarget w plan = some (session, b) →
      session.run.progress = b.run.progress ∧
        b.run.progress = ⟨.error, b.run.progress.currentStepIndex, {}⟩ ∧
        session.run.scenarioLastError = planFailText plan errorCode
  | _ => True

theorem planMatches_eq (e : Env) (plan : CommandPlan) (c : Ctx) : planMatches e plan c =
      if e.setup.active then (planFits plan c.branch, c.load) else (false, c) := by
  unfold planMatches planFits
  cases hactive : e.setup.active with
  | false => rfl
  | true =>
    simp only [Bool.not_true, Bool.false_eq_true, if_false, if_true]
    have hprogress : c.load.session.progress = c.branch.progress := rfl
    rw [hprogress]
    cases hwaiting : waitingForDispatch c.branch.progress with
    | false => rfl
    | true =>
      simp only [Bool.not_true, Bool.false_eq_true, if_false, Bool.true_and]
      split <;> rfl

theorem applyDispatch_fresh (e : Env) (plan : CommandPlan) (dispatch : DispatchResult)
    (hasMore : Bool) (nowMs : UInt32) (c : Ctx) (hactive : e.setup.active = true)
    (hfits : planFits plan c.branch = true)
    (hnumbered : Numbered c.lock.activations c.branch.progress.wait)
    (hmore : ¬ (hasMore = true ∧ dispatch.resultRequired = false)) :
    (applyDispatch e plan dispatch hasMore nowMs c).ctx.branch.progress ≠ c.branch.progress := by
  have hwaiting : waitingForDispatch c.branch.progress = true :=
    (Bool.and_eq_true_iff.mp hfits).1
  simp only [waitingForDispatch, Bool.and_eq_true, decide_eq_true_iff] at hwaiting
  have hpos : 0 < c.branch.progress.wait.activation := hnumbered.2 hwaiting.1.2 hwaiting.2
  unfold applyDispatch
  simp only [planMatches_eq, hactive, if_true, hfits]
  split
  · -- A group that wants a result fails the branch.
    intro h
    have hstate := congrArg Progress.scenarioState h
    rw [hwaiting.1.1] at hstate
    exact ScenarioState.noConfusion hstate
  split
  · next hrequired =>
      -- The wait for the result has no number.
      intro h
      have hnumber := congrArg (fun p => p.wait.activation) h
      unfold enterWaitCommandResult at hnumber
      simp only [hrequired, Bool.not_true, Bool.false_eq_true, if_false] at hnumber
      exact absurd hnumber.symm (Nat.ne_of_gt hpos)
  · next hrequired =>
      split
      · next hyes =>
          rw [Bool.not_eq_true] at hrequired
          exact absurd ⟨hyes, hrequired⟩ hmore
      -- The branch runs on; every wait it enters has a later number.
      have hle : c.branch.progress.wait.activation ≤
          (c.lock.cancelWait c.branch.progress.wait).activations := by
        rw [cancelWait_activations]
        exact hnumbered.1
      split
      · have hrun : Moves e (((((({ c.load.load with plan := none } : Ctx).setState
            .running).nextStep).clearWait).markChanged e).save)
            (stepDispatched e nowMs { c.load.load with plan := none }).ctx := by
          unfold stepDispatched
          simp only
          split
          · exact Moves.executeBranchCore .refl nowMs maxStepsPerTick
          · exact (Moves.executeBranchCore .refl nowMs maxStepsPerTick).planNone
        exact moves_progress_ne hrun hpos hle ⟨.inl rfl, .inl rfl⟩
      have hrun : Moves e (((((((({ c.load.load with plan := none } : Ctx).setState
          .running).clearWait).nextAction).setBranchState .running).branchClearWait).markChanged
          e).save) (reactiveDispatched e nowMs { c.load.load with plan := none }).ctx := by
        unfold reactiveDispatched
        simp only
        split
        · exact Moves.continueLocked .refl nowMs
        · exact (Moves.continueLocked .refl nowMs).planNone
      refine moves_progress_ne hrun hpos ?_ ⟨.inl rfl, .inl rfl⟩
      exact Nat.le_trans hle (Nat.le_of_eq (cancelWait_activations _ _).symm)

/-! ### Coming back with a plan -/

theorem set_eq_self_iff {α : Type} {l : List α} {i : Nat} {x : α} (h : l[i]? = some x) (y : α) :
    l.set i y = l ↔ y = x := by
  rcases List.getElem?_eq_some_iff.mp h with ⟨hlt, hget⟩
  constructor
  · intro heq
    have hthere := congrArg (fun l => l[i]?) heq
    simp only [List.getElem?_set_self hlt, h, Option.some.injEq] at hthere
    exact hthere
  · rintro rfl
    rw [← hget, List.set_getElem_self]

/-- Coming back to a room shows no change exactly when it shows none on the
    session and branch the plan names. -/
theorem onRoom_shown_iff {α : Type} (w : World) (plan : CommandPlan) (absent : α)
    (f : RoomCtx → α × RoomCtx) (cond : Session → Branch → Prop)
    (hinvalid : ∀ s, s.runningScenarioValid = false →
      (f (w.roomCtx s)).2.session.shown = s.shown)
    (habsent : ∀ s, s.branches[plan.branchIndex]? = none →
      (f (w.roomCtx s)).2.session.shown = s.shown)
    (hthere : ∀ s b, planTarget w plan = some (s, b) → s ∈ w.sessions →
      s.runningScenarioValid = true → s.branches[plan.branchIndex]? = some b →
      ((f (w.roomCtx s)).2.session.shown = s.shown ↔ cond s b)) :
    (w.onRoom plan.roomId absent f).2.shown = w.shown ↔
      ∀ s b, planTarget w plan = some (s, b) → cond s b := by
  unfold World.onRoom
  cases hfind : w.find plan.roomId with
  | none =>
    have hnone : planTarget w plan = none := by simp [planTarget, hfind]
    simp [hnone]
  | some i =>
    unfold World.onSession
    cases hs : w.sessions[i]? with
    | none =>
      have hnone : planTarget w plan = none := by
        simp [planTarget, hfind, hs]
      simp [hs, hnone]
    | some s =>
      have hget : w.shown[i]? = some s.shown := by
        simp [World.shown, List.getElem?_map, hs]
      have hput : (w.put i (f (w.roomCtx s)).2).shown =
          w.shown.set i (f (w.roomCtx s)).2.session.shown := by
        simp only [World.shown, World.put, List.map_set]
      simp only [hs, hput, set_eq_self_iff hget]
      cases hvalid : s.runningScenarioValid with
      | false =>
        have hnone : planTarget w plan = none := by
          simp [planTarget, hfind, hs, hvalid]
        simp [hinvalid s hvalid, hnone]
      | true =>
        cases hb : s.branches[plan.branchIndex]? with
        | none =>
          have hnone : planTarget w plan = none := by
            simp [planTarget, hfind, hs, hvalid, hb]
          simp [habsent s hb, hnone]
        | some b =>
          have htarget : planTarget w plan = some (s, b) := by
            simp [planTarget, hfind, hs, hvalid, hb]
          rw [hthere s b htarget (List.mem_of_getElem? hs) hvalid hb, htarget]
          simp only [Option.some.injEq, Prod.mk.injEq, and_imp]
          constructor
          · rintro hcond _ _ rfl rfl
            exact hcond
          · exact fun h => h s b rfl rfl

theorem put_shown_iff (r : RoomCtx) (j : Nat) (b : Branch) (c : Ctx)
    (hb : r.session.branches[j]? = some b) : (r.put j b c).session.shown = r.session.shown ↔
      c.branch = b.run ∧ c.session.progress = r.session.run.progress ∧
        c.session.scenarioLastError = r.session.run.scenarioLastError := by
  simp only [Session.shown, RoomCtx.put, Prod.mk.injEq, set_eq_self_iff hb]
  refine and_congr_left fun _ => ?_
  exact ⟨congrArg Branch.run, fun h => by rw [h]⟩

theorem updateSummary_shown_of_branches {r : RoomCtx} {s : Session}
    (h : r.updateSummary.session.shown = s.shown) : r.session.branches = s.branches :=
  congrArg Prod.fst h

theorem nextCommand_ctx (e : Env) (plan : CommandPlan) (c : Ctx) :
    (nextCommand e plan c).2 = if e.setup.active then c.load else c := by
  unfold nextCommand
  rw [planMatches_eq]
  cases e.setup.active with
  | false => rfl
  | true =>
    cases planFits plan c.branch <;> rfl

theorem roomNextCommand_shown_iff (plan : CommandPlan) (r : RoomCtx) (b : Branch)
    (hvalid : r.session.runningScenarioValid = true)
    (hb : r.session.branches[plan.branchIndex]? = some b) :
    (roomNextCommand plan r).2.session.shown = r.session.shown ↔
      (b.setup.active = true → r.session.run.progress = b.run.progress) := by
  unfold roomNextCommand
  simp only [hvalid, Bool.not_true, Bool.false_eq_true, if_false]
  rw [RoomCtx.onBranch_some r _ _ _ b hb]
  simp only [put_shown_iff r _ b _ hb, nextCommand_ctx]
  have hsetup : (r.env b).setup.active = b.setup.active := rfl
  rw [hsetup]
  cases b.setup.active with
  | false => simp only [Bool.false_eq_true, if_false, false_implies, iff_true]; exact ⟨rfl, rfl, rfl⟩
  | true =>
    simp only [if_true, true_implies]
    exact ⟨fun h => h.2.1.symm, fun h => ⟨rfl, h.symm, rfl⟩⟩

/-- A dispatch result that the branch is not tested for, or that only continues
    the plan, does what asking for the next command does. -/
theorem roomApplyDispatch_shown_iff (plan : CommandPlan) (dispatch : DispatchResult)
    (hasMore : Bool) (nowMs : UInt32) (r : RoomCtx) (b : Branch)
    (hvalid : r.session.runningScenarioValid = true)
    (hb : r.session.branches[plan.branchIndex]? = some b)
    (hnumbered : Numbered r.lock.activations b.run.progress.wait) :
    (roomApplyDispatch plan dispatch hasMore nowMs r).2.session.shown = r.session.shown ↔
      (b.setup.active = true → r.session.run.progress = b.run.progress ∧
        (planFits plan b.run = true → hasMore = true ∧ dispatch.resultRequired = false)) := by
  unfold roomApplyDispatch
  simp only [hvalid, Bool.not_true, Bool.false_eq_true, if_false]
  rw [RoomCtx.onBranch_some r _ _ _ b hb]
  have hsetup : (r.env b).setup.active = b.setup.active := rfl
  have hbranch : (r.ctx b).branch = b.run := rfl
  by_cases hactive : b.setup.active = true
  · by_cases htaken : planFits plan b.run = true ∧
        ¬ (hasMore = true ∧ dispatch.resultRequired = false)
    · -- The result is taken and the branch moves.
      have hne := applyDispatch_fresh (r.env b) plan dispatch hasMore nowMs (r.ctx b) hactive
        htaken.1 hnumbered htaken.2
      constructor
      · intro h
        exfalso
        refine hne (congrArg BranchRun.progress ?_)
        have hbranches : (r.put plan.branchIndex b
            (applyDispatch (r.env b) plan dispatch hasMore nowMs (r.ctx b)).ctx).session.branches =
            r.session.branches := by
          split at h
          · exact updateSummary_shown_of_branches h
          · exact congrArg Prod.fst h
        have hsame := (set_eq_self_iff hb _).mp hbranches
        exact congrArg Branch.run hsame
      · intro h
        exact absurd ((h hactive).2 htaken.1) htaken.2
    have hctx : (applyDispatch (r.env b) plan dispatch hasMore nowMs (r.ctx b)).atSummary = false ∧
        (applyDispatch (r.env b) plan dispatch hasMore nowMs (r.ctx b)).ctx.branch = b.run ∧
        (applyDispatch (r.env b) plan dispatch hasMore nowMs (r.ctx b)).ctx.session =
          (r.ctx b).load.session := by
      unfold applyDispatch
      simp only [planMatches_eq, hsetup, hactive, if_true, hbranch]
      cases hfits : planFits plan b.run with
      | false => exact ⟨rfl, rfl, rfl⟩
      | true =>
        rw [hfits] at htaken
        have hmore : hasMore = true ∧ dispatch.resultRequired = false := by
          by_contra hno
          exact htaken ⟨rfl, hno⟩
        simp only [hmore.1, hmore.2, Bool.false_eq_true, and_false, if_false, if_true]
        exact ⟨trivial, rfl, rfl⟩
    simp only [hctx.1, Bool.false_eq_true, if_false, put_shown_iff r _ b _ hb, hctx.2.1, hctx.2.2,
      true_and, hactive, true_implies]
    refine ⟨fun h => ⟨h.1.symm, fun hfits => ?_⟩, fun h => ⟨h.1.symm, rfl⟩⟩
    by_contra hmore
    exact htaken ⟨hfits, hmore⟩
  · have hoff : b.setup.active = false := by simpa using hactive
    have hctx : applyDispatch (r.env b) plan dispatch hasMore nowMs (r.ctx b) =
        ⟨.ok, false, { r.ctx b with plan := none }⟩ := by
      unfold applyDispatch
      simp [planMatches_eq, hsetup, hoff]
    simp only [hctx, Bool.false_eq_true, if_false, put_shown_iff r _ b _ hb, hoff, false_implies,
      iff_true]
    exact ⟨rfl, rfl, rfl⟩

theorem roomFailPlan_shown_iff (plan : CommandPlan) (errorCode : String) (r : RoomCtx) (b : Branch)
    (hvalid : r.session.runningScenarioValid = true)
    (hb : r.session.branches[plan.branchIndex]? = some b) :
    (roomFailPlan plan errorCode r).session.shown = r.session.shown ↔
      r.session.run.progress = b.run.progress ∧
        b.run.progress = ⟨.error, b.run.progress.currentStepIndex, {}⟩ ∧
        r.session.run.scenarioLastError = planFailText plan errorCode := by
  have hlt : plan.branchIndex < r.session.branches.length := (List.getElem?_eq_some_iff.mp hb).1
  have hne : r.session.branches ≠ [] := List.ne_nil_of_length_pos (Nat.zero_lt_of_lt hlt)
  -- The branch fails, and the summary, which shows the failure, stays as it is.
  have hput : roomFailPlan plan errorCode r =
      r.put plan.branchIndex b (failPlan (r.env b) plan errorCode (r.ctx b)) := by
    unfold roomFailPlan
    simp only [hvalid, Bool.not_true, Bool.false_eq_true, if_false]
    rw [RoomCtx.onBranch_some r _ _ _ b hb]
    simp only [if_true]
    unfold RoomCtx.updateSummary RoomCtx.mapRun
    have hsame : ∀ branches, updateSummary branches
        (failPlan (r.env b) plan errorCode (r.ctx b)).session =
        (failPlan (r.env b) plan errorCode (r.ctx b)).session := by
      intro branches
      unfold updateSummary
      split
      · rfl
      · rfl
    simp only [RoomCtx.put, hsame]
  rw [hput, put_shown_iff r _ b _ hb]
  have hbranch : (failPlan (r.env b) plan errorCode (r.ctx b)).branch =
      { b.run with progress := ⟨.error, b.run.progress.currentStepIndex, {}⟩ } := rfl
  have hprogress : (failPlan (r.env b) plan errorCode (r.ctx b)).session.progress =
      ⟨.error, b.run.progress.currentStepIndex, {}⟩ := rfl
  have herror : (failPlan (r.env b) plan errorCode (r.ctx b)).session.scenarioLastError =
      planFailText plan errorCode := rfl
  rw [hbranch, hprogress, herror]
  constructor
  · rintro ⟨hrun, hshown, htext⟩
    have hb' : b.run.progress = ⟨.error, b.run.progress.currentStepIndex, {}⟩ :=
      (congrArg BranchRun.progress hrun).symm
    exact ⟨hshown.symm.trans hb'.symm, hb', htext.symm⟩
  rintro ⟨hsummary, hb', htext⟩
  refine ⟨?_, ?_, htext.symm⟩
  · rw [← hb']
  · rw [hsummary, ← hb']

/-! ### In every run -/

/-- In every run, coming back with a stale plan changes no branch, no summary
    and no last error, exactly when `KeepsStale` holds of the state it comes
    back to. -/
theorem stale_plan_kept_iff (rooms : Nat) (entropy : List UInt32) (ops : List Op)
    (hreal : ∀ op ∈ ops, OpReal op) (plan : CommandPlan) (dispatch : DispatchResult)
    (hasMore : Bool) (errorCode : String) (now : Nat) :
    let w := runOps (World.boot rooms entropy) ops
    ¬ Corresponds w plan →
      ∀ op ∈ [Op.planNext plan, .planApply plan dispatch hasMore now, .planFail plan errorCode],
        ((stepOp w op).2.shown = w.shown ↔ KeepsStale w op) := by
  intro w _ op hop
  have hnumbered : AllNumbered w := runOps_numbered rooms entropy ops hreal
  simp only [List.mem_cons, List.not_mem_nil, or_false] at hop
  rcases hop with rfl | rfl | rfl
  · have hshown : (stepOp w (.planNext plan)).2.shown =
        (w.locked.onRoom plan.roomId (.error .notFound) (roomNextCommand plan)).2.shown := by
      rw [stepOp_eq]
      unfold opBody
      simp only
      split <;> rfl
    rw [hshown]
    refine onRoom_shown_iff w.locked plan _ _
      (fun s b => b.setup.active = true → s.run.progress = b.run.progress) ?_ ?_ ?_
    · intro s hinvalid
      simp [roomNextCommand, World.roomCtx, hinvalid]
    · intro s habsent
      unfold roomNextCommand
      split
      · rfl
      · rw [RoomCtx.onBranch_none _ _ _ _ habsent]
        rfl
    · intro s b _ _ hvalid hb
      exact roomNextCommand_shown_iff plan (w.locked.roomCtx s) b hvalid hb
  · have hshown : (stepOp w (.planApply plan dispatch hasMore now)).2.shown =
        (w.locked.onRoom plan.roomId EspErr.ok
          (roomApplyDispatch plan dispatch hasMore (scenarioNow now))).2.shown := rfl
    rw [hshown]
    refine onRoom_shown_iff w.locked plan _ _
      (fun s b => b.setup.active = true → s.run.progress = b.run.progress ∧
        (planFits plan b.run = true → hasMore = true ∧ dispatch.resultRequired = false)) ?_ ?_ ?_
    · intro s hinvalid
      simp [roomApplyDispatch, World.roomCtx, hinvalid]
    · intro s habsent
      unfold roomApplyDispatch
      split
      · rfl
      · rw [RoomCtx.onBranch_none _ _ _ _ habsent]
        rfl
    · intro s b _ hs hvalid hb
      exact roomApplyDispatch_shown_iff plan dispatch hasMore (scenarioNow now)
        (w.locked.roomCtx s) b hvalid hb ((hnumbered s hs).2 b (List.mem_of_getElem? hb))
  · have hshown : (stepOp w (.planFail plan errorCode)).2.shown =
        (w.locked.onRoom plan.roomId ()
          (fun r => ((), roomFailPlan plan errorCode r))).2.shown := rfl
    rw [hshown]
    refine onRoom_shown_iff w.locked plan _ _
      (fun s b => s.run.progress = b.run.progress ∧
        b.run.progress = ⟨.error, b.run.progress.currentStepIndex, {}⟩ ∧
        s.run.scenarioLastError = planFailText plan errorCode) ?_ ?_ ?_
    · intro s hinvalid
      simp [roomFailPlan, World.roomCtx, hinvalid]
    · intro s habsent
      unfold roomFailPlan
      split
      · rfl
      · rw [RoomCtx.onBranch_none _ _ _ _ habsent]
        rfl
    · intro s b _ _ hvalid hb
      exact roomFailPlan_shown_iff plan errorCode (w.locked.roomCtx s) b hvalid hb

/-! ### A restart -/

/-- One step that opens the door. -/
def doorScenario : RoomScenario := { id := "door", roomId := "r", steps := [openDoor] }

def startDoor (now : Nat) : Op := .scenarioStart "r" doorScenario {} 0 none now

/-- The plan that the first start hands out. -/
def firstDoorPlan : CommandPlan :=
  { roomId := "r", branchIndex := 0, kind := .scenarioStep, activation := 1 }

/-- The scenario is started and, before the dispatcher is back, started again. -/
def doorRestart : List Op := [.start "r" 1000 5, startDoor 10, startDoor 20]

theorem doorRestart_real : ∀ op ∈ doorRestart, OpReal op := by
  intro op hop
  simp only [doorRestart, List.mem_cons, List.not_mem_nil, or_false] at hop
  rcases hop with rfl | rfl | rfl <;> trivial

/-- The plan of the first start, after the second one. -/
theorem stale_plan_kept_iff_restart :
    (stepOp (runOps (World.boot 1) doorRestart) (.planNext firstDoorPlan)).2.shown =
        (runOps (World.boot 1) doorRestart).shown ↔
      KeepsStale (runOps (World.boot 1) doorRestart) (.planNext firstDoorPlan) :=
  stale_plan_kept_iff 1 [] doorRestart doorRestart_real firstDoorPlan {} false "" 30
    (by decide +kernel) _ (.head _ ..)

/-- The plan of the first start does not belong to the second run, yet its
    dispatch result moves the new run on, and its failure fails the new run. -/
theorem first_plan_hits_second_run :
    (stepOp (runOps (World.boot 1) [.start "r" 1000 5]) (startDoor 10)).1.plan =
      some firstDoorPlan ∧
    ¬ Corresponds (runOps (World.boot 1) doorRestart) firstDoorPlan ∧
    (stepOp (runOps (World.boot 1) doorRestart)
        (.planApply firstDoorPlan {} false 30)).2.shown ≠
      (runOps (World.boot 1) doorRestart).shown ∧
    (stepOp (runOps (World.boot 1) doorRestart) (.planFail firstDoorPlan "")).2.shown ≠
      (runOps (World.boot 1) doorRestart).shown := by
  decide +kernel

end SceneHub
