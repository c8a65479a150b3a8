import SceneHub.Node.FallbackEngine

/-!
# Fallback Safety

Whether the engine executes local rules exactly while the fallback runtime says so.

The runtime and the engine each keep a flag, and a transition brings them together by
several requests. Between two transitions the flags agree if each request of a
transition was handled before the task went on. A first request that finds the queue
full changes nothing, so that may happen as well. The policy changes its state and
its flag at once: the flag is set in the states behind the outage, and only there.

An administrator who pauses the rules stops them in the fallback too, and in
standalone mode the rules run although the hub is primary. Both are meant to be so.

## Main definitions

* `FallbackSafe`: The rules run in the fallback, and not while the hub is primary.
* `Consistent`: The same, with the pauses of an administrator.
* `Answered`: The requests of a transition are handled before it goes on.
* `Underway`: The flags of the engine in the course of a transition.

## Theorems

* `Underway.handle_own`, `Underway.handle_other`: What the engine does to a transition.
* `finish_settled`: The flags behind a transition.
* `fallback_consistent`: The flags over every run.
* `not_safeRuns`: Standalone mode and the pauses of an administrator.
-/

namespace SceneHub.Node

namespace FallbackSafety

variable {op : EngineOp} {action : FallbackAction} {ops : List EngineOp}

variable {s s' : FallbackSystem}

/-! ### What is asked of the flags -/

def runsLocal : FallbackState → Bool
  | .hubPrimary => false
  | .hubOfflinePending => false
  | .fallbackActive => true
  | .hubReturnPending => true

/-- The engine does not execute rules while the hub is primary, and executes them in the
    fallback, and the flag of the runtime says so. -/
structure FallbackSafe (s : FallbackSystem) : Prop where
  primary : s.status.state = .hubPrimary → s.engine.executes = false
  active : s.status.state = .fallbackActive → s.engine.executes = true
  flag : s.status.fallbackRulesActive = s.engine.executes

/-- Every run from the start is safe between two transitions. -/
def SafeRuns (standalone : Bool) : Prop :=
  ∀ acts s', Lib.run fallbackSystemStep (.atStart standalone) acts = some s' → s'.task = .idle →
    FallbackSafe s'

/-- The engine does not execute rules while the hub is primary. In the fallback they are
    enabled, and executed unless an administrator has paused them. The flag of the
    runtime says whether they are enabled. -/
structure Consistent (s : FallbackSystem) : Prop where
  primary : s.status.state = .hubPrimary → s.engine.executes = false
  active : s.status.state = .fallbackActive →
    s.engine.rulesEnabled = true ∧ (s.engine.executes = true ∨ s.engine.paused = some .others)
  flag : s.status.fallbackRulesActive = s.engine.rulesEnabled

/-- The task does not go on without an answer, and only the first request of a transition
    may find the queue full. -/
def GoesOn (s : FallbackSystem) : FallbackTask → Prop
  | .idle => True
  | .performing transition ops => ops = [] ∨ ops = engineOps transition.action ∨
      s.engine.queue.length < ruleEngineQueueLen
  | .waiting _ _ => s.notified ≠ 0

instance (s : FallbackSystem) : (task : FallbackTask) → Decidable (GoesOn s task)
  | .idle => inferInstanceAs (Decidable True)
  | .performing _ _ => inferInstanceAs (Decidable (_ ∨ _))
  | .waiting _ _ => inferInstanceAs (Decidable (s.notified ≠ 0))

/-- The requests of a transition are handled before it goes on. -/
def Answered (s : FallbackSystem) : FallbackSystemStep → Prop
  | .proceed _ => GoesOn s s.task
  | _ => True

instance (s : FallbackSystem) : (act : FallbackSystemStep) → Decidable (Answered s act)
  | .proceed _ => inferInstanceAs (Decidable (GoesOn s s.task))
  | .take _ => inferInstanceAs (Decidable True)
  | .evaluate _ => inferInstanceAs (Decidable True)
  | .serve => inferInstanceAs (Decidable True)
  | .submit _ => inferInstanceAs (Decidable True)

/-! ### A transition under way -/

/-- The flags of the engine when some requests of a transition are still to be handled.
    The flag of the runtime has its old value. -/
inductive Underway (active rulesEnabled : Bool) (paused : Option Submitter) :
    FallbackAction → List EngineOp → Prop where
  | untouched (action : FallbackAction) (enabled : rulesEnabled = active)
      (running : active = true → paused ≠ some .fallbackTask) :
      Underway active rulesEnabled paused action (engineOps action)
  | enabled (enabled : rulesEnabled = true) :
      Underway active rulesEnabled paused .enterFallback [.reset, .resume]
  | reset (enabled : rulesEnabled = true) :
      Underway active rulesEnabled paused .enterFallback [.resume]
  | resumed (enabled : rulesEnabled = true) (running : paused ≠ some .fallbackTask) :
      Underway active rulesEnabled paused .enterFallback []
  | paused : Underway active rulesEnabled paused .exitFallback [.setEnabled false]
  | disabled (enabled : rulesEnabled = false) :
      Underway active rulesEnabled paused .exitFallback []

theorem Underway.handle_own {active : Bool} {e : RuleEngine}
    (h : Underway active e.rulesEnabled e.paused action (op :: ops)) :
    Underway active (e.handle ⟨op, .fallbackTask⟩).rulesEnabled
      (e.handle ⟨op, .fallbackTask⟩).paused action ops := by
  generalize hops : op :: ops = all at h
  cases h with
  | untouched action enabled running =>
    cases action with
    | none => cases hops
    | enterFallback =>
      injection hops with hop hops
      rw [hop, hops]
      exact .enabled rfl
    | exitFallback =>
      injection hops with hop hops
      rw [hop, hops]
      exact .paused
  | enabled enabled =>
    injection hops with hop hops
    rw [hop, hops]
    exact .reset enabled
  | reset enabled =>
    injection hops with hop hops
    rw [hop, hops]
    exact .resumed enabled nofun
  | resumed => cases hops
  | paused =>
    injection hops with hop hops
    rw [hop, hops]
    exact .disabled rfl
  | disabled => cases hops

/-- Before the first request of a transition the flags are as they were. -/
theorem Underway.of_first {active rulesEnabled : Bool} {paused : Option Submitter}
    (h : Underway active rulesEnabled paused action ops) (hfirst : ops = engineOps action) :
    rulesEnabled = active ∧ (active = true → paused ≠ some .fallbackTask) := by
  cases h with
  | untouched _ enabled running => exact ⟨enabled, running⟩
  | enabled | reset | resumed | paused | disabled => cases hfirst

/-- Requests of others do not enable or disable the rules, and a pause of theirs is not
    one of the task. -/
theorem handle_others {e : RuleEngine} (hop : ∀ enabled, op ≠ .setEnabled enabled) :
    (e.handle ⟨op, .others⟩).rulesEnabled = e.rulesEnabled ∧
      (e.paused ≠ some .fallbackTask → (e.handle ⟨op, .others⟩).paused ≠ some .fallbackTask) := by
  cases op with
  | event => exact ⟨rfl, id⟩
  | reset => exact ⟨rfl, id⟩
  | setEnabled enabled => exact absurd rfl (hop enabled)
  | pause => exact ⟨rfl, fun _ => nofun⟩
  | resume => exact ⟨rfl, fun _ => nofun⟩

theorem Underway.handle_other {active : Bool} {e : RuleEngine}
    (hop : ∀ enabled, op ≠ .setEnabled enabled)
    (h : Underway active e.rulesEnabled e.paused action ops) :
    Underway active (e.handle ⟨op, .others⟩).rulesEnabled (e.handle ⟨op, .others⟩).paused action
      ops := by
  rcases handle_others hop with ⟨hsame, hrunning⟩
  rw [hsame]
  cases h with
  | untouched action enabled running =>
    exact .untouched action enabled fun hactive => hrunning (running hactive)
  | enabled enabled => exact .enabled enabled
  | reset enabled => exact .reset enabled
  | resumed enabled running => exact .resumed enabled (hrunning running)
  | paused => exact .paused
  | disabled enabled => exact .disabled enabled

/-! ### The policy -/

/-- The policy stays on one side unless the engine is to switch the rules. -/
theorem policy_sides (status : FallbackStatus) (now : UInt32)
    (h : status.fallbackRulesActive = runsLocal status.state) :
    let transition := policyEvaluate status now
    (transition.action = .none ∧ (transition.stateChanged = true →
        runsLocal transition.nextState = status.fallbackRulesActive)) ∨
      (transition.action = .enterFallback ∧ transition.stateChanged = true ∧
        runsLocal transition.nextState = true) ∨
      (transition.action = .exitFallback ∧ transition.stateChanged = true ∧
        runsLocal transition.nextState = false) := by
  cases henabled : status.enabled with
  | false =>
    -- Whatever the state is, the hub becomes primary.
    cases hstate : status.state <;> rw [hstate] at h <;>
      simp [policyEvaluate, changeTo, runsLocal, henabled, hstate, h]
  | true =>
    cases hstate : status.state <;> rw [hstate] at h <;>
      simp only [policyEvaluate, henabled, hstate, Bool.not_true, Bool.false_eq_true, if_false] <;>
      split_ifs <;> simp [changeTo, runsLocal, h]

/-- The flag and the state of the runtime change together, and the flag is the one that
    the requests of the transition lead to. -/
theorem finish_settled {status : FallbackStatus} {now : UInt32} {rulesEnabled : Bool}
    {paused : Option Submitter} (h : status.fallbackRulesActive = runsLocal status.state)
    (hunder : Underway status.fallbackRulesActive rulesEnabled paused
      (policyEvaluate status now).action []) (later : UInt32) :
    let after := status.finalizeTransition (policyEvaluate status now) .ok later
    after.fallbackRulesActive = runsLocal after.state ∧ rulesEnabled = after.fallbackRulesActive ∧
      (after.fallbackRulesActive = true → paused ≠ some .fallbackTask) := by
  have hsides := policy_sides status now h
  generalize policyEvaluate status now = transition at hunder hsides
  rcases hsides with ⟨haction, hside⟩ | ⟨haction, hchanged, hside⟩ | ⟨haction, hchanged, hside⟩
  · rw [haction] at hunder
    generalize hops : [] = ops at hunder
    cases hunder with
    | untouched _ enabled running =>
      unfold FallbackStatus.finalizeTransition
      rw [haction]
      cases hchanged : transition.stateChanged with
      | false => exact ⟨h, enabled, running⟩
      | true => exact ⟨(hside hchanged).symm, enabled, running⟩
  · rw [haction] at hunder
    generalize hops : [] = ops at hunder
    unfold FallbackStatus.finalizeTransition
    rw [haction, hchanged]
    cases hunder with
    | untouched => cases hops
    | resumed enabled running => exact ⟨hside.symm, enabled, fun _ => running⟩
    | enabled | reset => cases hops
  · rw [haction] at hunder
    generalize hops : [] = ops at hunder
    unfold FallbackStatus.finalizeTransition
    rw [haction, hchanged]
    cases hunder with
    | untouched => cases hops
    | disabled enabled => exact ⟨hside.symm, enabled, nofun⟩
    | paused => cases hops

/-! ### The invariant -/

/-- The requests of the fallback task in a queue. -/
def ownOps (queue : List EngineRequest) : List EngineOp :=
  (queue.filter fun request => request.submitter = .fallbackTask).map EngineRequest.op

theorem ownOps_append (queue : List EngineRequest) (request : EngineRequest) :
    ownOps (queue ++ [request]) = ownOps queue ++ ownOps [request] := by
  unfold ownOps
  rw [List.filter_append, List.map_append]

/-- Where the fallback task stands, its requests and the flags of the engine fit. -/
def TaskOk (s : FallbackSystem) : FallbackTask → Prop
  | .idle => ownOps s.engine.queue = [] ∧ s.notified = 0 ∧
      s.engine.rulesEnabled = s.status.fallbackRulesActive ∧
      (s.status.fallbackRulesActive = true → s.engine.paused ≠ some .fallbackTask)
  | .performing transition ops => ownOps s.engine.queue = [] ∧ s.notified = 0 ∧
      (∃ now, transition = policyEvaluate s.status now) ∧
      Underway s.status.fallbackRulesActive s.engine.rulesEnabled s.engine.paused
        transition.action ops
  | .waiting transition ops => (∃ now, transition = policyEvaluate s.status now) ∧
      ((∃ op, ownOps s.engine.queue = [op] ∧ s.notified = 0 ∧
          Underway s.status.fallbackRulesActive s.engine.rulesEnabled s.engine.paused
            transition.action (op :: ops)) ∨
        (ownOps s.engine.queue = [] ∧ s.notified = 1 ∧
          Underway s.status.fallbackRulesActive s.engine.rulesEnabled s.engine.paused
            transition.action ops))

structure Inv (s : FallbackSystem) : Prop where
  side : s.status.fallbackRulesActive = runsLocal s.status.state
  others : ∀ request ∈ s.engine.queue, request.submitter = .others →
    ∀ enabled, request.op ≠ .setEnabled enabled
  task : TaskOk s s.task

/-- Notifications and configurations touch neither the flag nor the state. -/
theorem drain_flags (status : FallbackStatus) (requests : List FallbackRequest) :
    (status.drain requests).fallbackRulesActive = status.fallbackRulesActive ∧
      (status.drain requests).state = status.state := by
  unfold FallbackStatus.drain
  induction requests generalizing status with
  | nil => exact ⟨rfl, rfl⟩
  | cons request requests ih =>
    rw [List.foldl_cons]
    have hone : (status.handleRequest request).fallbackRulesActive = status.fallbackRulesActive ∧
        (status.handleRequest request).state = status.state := by
      cases request <;> exact ⟨rfl, rfl⟩
    rw [(ih _).1, (ih _).2]
    exact hone

theorem inv_take {requests : List FallbackRequest} (h : Inv s) (hidle : s.task = .idle) :
    Inv { s with status := s.status.drain requests } := by
  rcases drain_flags s.status requests with ⟨hflag, hstate⟩
  have htask := h.task
  rw [hidle] at htask
  refine ⟨?_, h.others, ?_⟩
  · rw [hflag, hstate]
    exact h.side
  rw [hidle]
  unfold TaskOk
  rw [hflag]
  exact htask

theorem inv_evaluate {now : Nat} (h : Inv s) (hidle : s.task = .idle) :
    let transition := policyEvaluate s.status (Lib.stamp now)
    Inv { s with task := .performing transition (engineOps transition.action) } := by
  have htask := h.task
  rw [hidle] at htask
  rcases htask with ⟨hown, hnotified, henabled, hrunning⟩
  exact ⟨h.side, h.others, hown, hnotified, ⟨_, rfl⟩, .untouched _ henabled hrunning⟩

theorem finalize_failed (status : FallbackStatus) {transition : FallbackTransition}
    (haction : transition.action ≠ .none) (later : UInt32) :
    status.finalizeTransition transition .timeout later = status := by
  unfold FallbackStatus.finalizeTransition
  rw [if_pos ⟨haction, nofun⟩]

theorem inv_proceed {later : Nat} (h : Inv s) (hgoes : GoesOn s s.task)
    (hs : s.proceed later = some s') : Inv s' := by
  have htask := h.task
  unfold FallbackSystem.proceed at hs
  split at hs
  · cases hs
  · -- All requests are handled.
    rename_i transition hwhere
    rw [hwhere] at htask
    cases hs
    rcases htask with ⟨hown, hnotified, ⟨now, rfl⟩, hunder⟩
    rcases finish_settled h.side hunder (Lib.stamp later) with ⟨hside, henabled, hrunning⟩
    exact ⟨hside, h.others, hown, hnotified, henabled, hrunning⟩
  · rename_i transition op ops hwhere
    rw [hwhere] at htask hgoes
    rcases htask with ⟨hown, hnotified, hpolicy, hunder⟩
    split at hs
    · cases hs
      refine ⟨h.side, fun request hr => ?_, hpolicy, .inl ⟨op, ?_, hnotified, hunder⟩⟩
      · rcases List.mem_append.1 hr with hold | hnew
        · exact h.others request hold
        · rw [List.mem_singleton.1 hnew]
          nofun
      · rw [ownOps_append, hown]
        rfl
    rename_i hfull
    cases hs
    -- It was the first request, so the engine has not been touched.
    have hfirst : op :: ops = engineOps transition.action := by
      rcases hgoes with hnone | hfirst | hroom
      · cases hnone
      · exact hfirst
      · exact absurd hroom hfull
    have haction : transition.action ≠ .none := by
      intro hnone
      rw [hnone] at hfirst
      cases hfirst
    have hflags := hunder.of_first hfirst
    have hsame : s.finish transition .timeout later = { s with task := .idle } := by
      unfold FallbackSystem.finish
      rw [finalize_failed s.status haction]
    rw [hsame]
    exact ⟨h.side, h.others, hown, hnotified, hflags⟩
  · rename_i transition ops hwhere
    rw [hwhere] at htask hgoes
    split at hs
    · rename_i hnone
      exact absurd hnone hgoes
    cases hs
    rcases htask with ⟨hpolicy, ⟨op, -, hnone, -⟩ | ⟨hown, -, hunder⟩⟩
    · exact absurd hnone hgoes
    · exact ⟨h.side, h.others, hown, rfl, hpolicy, hunder⟩

theorem handle_queue (e : RuleEngine) (request : EngineRequest) :
    (e.handle request).queue = e.queue := by
  rcases request with ⟨op, submitter⟩
  cases op <;> rfl

theorem taskOk_own {queue : List EngineRequest}
    (hqueue : s.engine.queue = ⟨op, .fallbackTask⟩ :: queue) (h : TaskOk s s.task) :
    let engine := { s.engine with queue }.handle ⟨op, .fallbackTask⟩
    TaskOk { s with engine := engine, notified := s.notified + 1 } s.task := by
  have hcons : ownOps s.engine.queue = op :: ownOps queue := by
    rw [hqueue]
    rfl
  cases hwhere : s.task with
  | idle | performing transition ops =>
    rw [hwhere] at h
    have hnone := h.1
    rw [hcons] at hnone
    cases hnone
  | waiting transition ops =>
    rw [hwhere] at h
    rcases h with ⟨hpolicy, ⟨own, hown, hnotified, hunder⟩ | ⟨hown, -, -⟩⟩
    · rw [hcons] at hown
      injection hown with hop hrest
      rw [← hop] at hunder
      refine ⟨hpolicy, .inr ⟨?_, ?_, ?_⟩⟩
      · rw [handle_queue]
        exact hrest
      · rw [hnotified]
      · exact Underway.handle_own (e := { s.engine with queue }) hunder
    · rw [hcons] at hown
      cases hown

theorem taskOk_other {queue : List EngineRequest}
    (hqueue : s.engine.queue = ⟨op, .others⟩ :: queue) (hop : ∀ enabled, op ≠ .setEnabled enabled)
    (h : TaskOk s s.task) :
    TaskOk { s with engine := { s.engine with queue }.handle ⟨op, .others⟩ } s.task := by
  have hsame : ownOps ({ s.engine with queue }.handle ⟨op, .others⟩).queue =
      ownOps s.engine.queue := by
    rw [handle_queue, hqueue]
    rfl
  rcases handle_others (e := { s.engine with queue }) hop with ⟨henabled, hrunning⟩
  cases hwhere : s.task with
  | idle =>
    rw [hwhere] at h
    rcases h with ⟨hown, hnotified, hflag, hown_pause⟩
    exact ⟨hsame.trans hown, hnotified, henabled.trans hflag,
      fun hactive => hrunning (hown_pause hactive)⟩
  | performing transition ops =>
    rw [hwhere] at h
    rcases h with ⟨hown, hnotified, hpolicy, hunder⟩
    exact ⟨hsame.trans hown, hnotified, hpolicy,
      Underway.handle_other (e := { s.engine with queue }) hop hunder⟩
  | waiting transition ops =>
    rw [hwhere] at h
    rcases h with ⟨hpolicy, ⟨own, hown, hnotified, hunder⟩ | ⟨hown, hnotified, hunder⟩⟩
    · exact ⟨hpolicy, .inl ⟨own, hsame.trans hown, hnotified,
        Underway.handle_other (e := { s.engine with queue }) hop hunder⟩⟩
    · exact ⟨hpolicy, .inr ⟨hsame.trans hown, hnotified,
        Underway.handle_other (e := { s.engine with queue }) hop hunder⟩⟩

theorem inv_serve (h : Inv s) (hs : s.serve = some s') : Inv s' := by
  unfold FallbackSystem.serve at hs
  split at hs
  · cases hs
  rename_i request queue hqueue
  cases hs
  have hothers := h.others
  rw [hqueue] at hothers
  refine ⟨h.side, ?_, ?_⟩
  · intro other hr
    rw [handle_queue] at hr
    exact hothers other (.tail _ hr)
  rcases request with ⟨op, submitter⟩
  cases submitter with
  | fallbackTask => exact taskOk_own hqueue h.task
  | others =>
    exact taskOk_other hqueue (hothers ⟨op, .others⟩ (.head _ ..) rfl) h.task

/-- Others do not enable or disable the rules, and do not answer the task. -/
theorem inv_submit (h : Inv s) (hop : ∀ enabled, op ≠ .setEnabled enabled) :
    let queue := s.engine.queue ++ [⟨op, .others⟩]
    Inv { s with engine := { s.engine with queue } } := by
  have hsame : ownOps (s.engine.queue ++ [⟨op, .others⟩]) = ownOps s.engine.queue := by
    rw [ownOps_append]
    exact List.append_nil _
  refine ⟨h.side, fun request hr hother => ?_, ?_⟩
  · rcases List.mem_append.1 hr with hold | hnew
    · exact h.others request hold hother
    · rw [List.mem_singleton.1 hnew]
      exact hop
  have htask := h.task
  generalize s.task = task at htask
  cases task <;> simpa only [TaskOk, hsame] using htask

/-- One step keeps the invariant if the task goes on only with an answer. -/
theorem inv_step {act : FallbackSystemStep} (h : Inv s) (hanswered : Answered s act)
    (hs : fallbackSystemStep s act = some s') : Inv s' := by
  unfold fallbackSystemStep at hs
  cases act with
  | take requests =>
    dsimp only at hs
    split at hs
    · rename_i hidle
      cases hs
      exact inv_take h hidle
    · cases hs
  | evaluate now =>
    dsimp only at hs
    split at hs
    · rename_i hidle
      cases hs
      exact inv_evaluate h hidle
    · cases hs
  | proceed later => exact inv_proceed h hanswered hs
  | serve => exact inv_serve h hs
  | submit op =>
    dsimp only at hs
    split at hs
    · cases hs
    rename_i hop
    split at hs
    · cases hs
      exact inv_submit h hop
    · cases hs
      exact h

theorem inv_start : Inv (FallbackSystem.atStart false) :=
  ⟨rfl, nofun, rfl, rfl, rfl, nofun⟩

/-- Between two transitions the flags are consistent. -/
theorem Inv.consistent (h : Inv s) (hidle : s.task = .idle) : Consistent s := by
  have htask := h.task
  rw [hidle] at htask
  rcases htask with ⟨-, -, henabled, hrunning⟩
  have hside := h.side
  refine ⟨fun hprimary => ?_, fun hactive => ?_, henabled.symm⟩
  · rw [hprimary] at hside
    unfold RuleEngine.executes
    rw [henabled, hside]
    exact Bool.and_false _
  rw [hactive] at hside
  have hon : s.engine.rulesEnabled = true := henabled.trans hside
  refine ⟨hon, ?_⟩
  unfold RuleEngine.executes
  rw [hon]
  cases hpaused : s.engine.paused with
  | none => exact .inl rfl
  | some submitter =>
    cases submitter with
    | others => exact .inr rfl
    | fallbackTask => exact absurd hpaused (hrunning hside)

/-- While the hub is primary, the engine is not asked to switch the rules. -/
theorem policy_primary {status : FallbackStatus} (hprimary : status.state = .hubPrimary)
    (hflag : status.fallbackRulesActive = false) (now : UInt32) :
    (policyEvaluate status now).action = .none := by
  unfold policyEvaluate
  rw [hprimary, hflag]
  split_ifs <;> first | rfl | contradiction

/-- While the hub is primary, the rules are disabled, in a transition as well. -/
theorem Inv.primary (h : Inv s) (hprimary : s.status.state = .hubPrimary) :
    s.engine.executes = false := by
  have hflag : s.status.fallbackRulesActive = false := by
    rw [h.side, hprimary]
    rfl
  have hunder : ∀ now ops, Underway s.status.fallbackRulesActive s.engine.rulesEnabled
      s.engine.paused (policyEvaluate s.status now).action ops → s.engine.rulesEnabled = false := by
    intro now ops hunder
    rw [policy_primary hprimary hflag, hflag] at hunder
    cases hunder with
    | untouched _ enabled _ => exact enabled
  have henabled : s.engine.rulesEnabled = false := by
    have htask := h.task
    cases hwhere : s.task with
    | idle =>
      rw [hwhere] at htask
      exact htask.2.2.1.trans hflag
    | performing transition ops =>
      rw [hwhere] at htask
      rcases htask with ⟨-, -, ⟨now, rfl⟩, hops⟩
      exact hunder now ops hops
    | waiting transition ops =>
      rw [hwhere] at htask
      rcases htask with ⟨⟨now, rfl⟩, ⟨op, -, -, hops⟩ | ⟨-, -, hops⟩⟩
      · exact hunder now (op :: ops) hops
      · exact hunder now ops hops
  unfold RuleEngine.executes
  rw [henabled]
  exact Bool.and_false _

/-! ### The flags over every run -/

/-- In every run without a late answer no local rules are executed while the hub is primary.
    Between two transitions local rules are executed in the fallback unless an
    administrator has paused them, and the flag tells whether they are enabled. -/
theorem fallback_consistent {acts : List FallbackSystemStep}
    (heach : Lib.EachStep fallbackSystemStep Answered (.atStart false) acts)
    (hrun : Lib.run fallbackSystemStep (.atStart false) acts = some s') :
    (s'.status.state = .hubPrimary → s'.engine.executes = false) ∧
      (s'.task = .idle → Consistent s') := by
  have hinv : Inv s' :=
    Lib.invariant_of_run (fun _ _ _ h hanswered hs => inv_step h hanswered hs) inv_start heach hrun
  exact ⟨hinv.primary, hinv.consistent⟩

/-- A hub that is lost for longer than the timeout, and local rules that take over. -/
def hubLost : List FallbackSystemStep :=
  [.take [.configure ⟨true, 1000, 0, .autoOnStableMqtt⟩], .evaluate 0, .proceed 0,
    .evaluate 2000, .proceed 0, .serve, .proceed 0, .proceed 0, .serve, .proceed 0, .proceed 0,
    .serve, .proceed 0, .proceed 2000]

/-- The state behind the loss of the hub. -/
def inFallback : FallbackSystem :=
  { status :=
      { enabled := true, fallbackTimeoutMs := 1000, state := .fallbackActive,
        stateSinceMs := 2000, fallbackRulesActive := true }
    engine := { rulesEnabled := true } }

theorem fallback_consistent_lost :
    Lib.EachStep fallbackSystemStep Answered (.atStart false) hubLost ∧
      Lib.run fallbackSystemStep (.atStart false) hubLost = some inFallback ∧
      Consistent inFallback := by
  have heach : Lib.EachStep fallbackSystemStep Answered (.atStart false) hubLost := by decide
  have hrun : Lib.run fallbackSystemStep (.atStart false) hubLost = some inFallback := by decide
  exact ⟨heach, hrun, (fallback_consistent heach hrun).2 rfl⟩

/-- In standalone mode the rules run from the start, although the runtime reports the hub as
    primary. In other modes an administrator may pause the rules in the fallback. -/
theorem not_safeRuns : ¬SafeRuns true ∧ ¬SafeRuns false := by
  constructor
  · intro h
    have hstart := h [] (.atStart true) rfl rfl
    exact absurd (hstart.primary rfl) (by decide)
  intro h
  let stopped : FallbackSystem :=
    { inFallback with engine := { rulesEnabled := true, paused := some .others } }
  have hrun : Lib.run fallbackSystemStep (.atStart false) (hubLost ++ [.submit .pause, .serve]) =
      some stopped := by decide
  have hstopped := h _ stopped hrun rfl
  exact absurd (hstopped.active rfl) (by decide)

end FallbackSafety

end SceneHub.Node
