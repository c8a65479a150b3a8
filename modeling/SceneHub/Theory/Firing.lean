import SceneHub.Theory.Timeouts

/-!
# What a Call Does to a Reaction's Counters

A reaction can be fired by a trigger it listens for, by a trigger during a timed
wait, and by a queued trigger when it finishes. All three go through the same
test, and between two passes of it nothing moves the counters of the reaction.
So what is kept about fires, the `Ledger`, changes by whole fires only, and a
call makes at most one.

The circle of continuing, finishing and firing closes at most once, since a
finish takes the queued trigger away before it fires. `reactiveContinue_steady`
says so for the second round, and the first is built on it.

## Main definitions

* `Ledger`: The counters of a reaction, and what happened so far.
* `HoldsFire`, `Fired`, `Reset`, `Outcome`: What a function can do to the ledger.
* `MayFire`: What must be true of a branch before a call in which it fires.

## Theorems

* `continueLocked_outcome`, `fireLocked_outcome`: Running and firing a reaction.
* `BranchCall.outcome`: Every call fires at most once, and only if it may.
-/

namespace SceneHub

variable {e : Env} {c c' : Ctx} {nowMs : UInt32} {model : ScenarioBranch}

/-! ### The ledger -/

/-- What is kept about fires. -/
structure Ledger where
  fireCount : UInt32
  firedOnce : Bool
  policyCursor : Nat
  policyStage : Nat
  lastVariantIndex : Nat
  cooldownUntilMs : UInt32
  history : List HistoryEvent

def Ctx.ledger (c : Ctx) : Ledger where
  fireCount := c.branch.fireCount
  firedOnce := c.branch.firedOnce
  policyCursor := c.branch.policyCursor
  policyStage := c.branch.policyStage
  lastVariantIndex := c.branch.lastVariantIndex
  cooldownUntilMs := c.branch.cooldownUntilMs
  history := c.session.history

/-- The cooldown is over, or there is none. -/
def Ledger.Cooled (nowMs : UInt32) (l : Ledger) : Prop :=
  l.cooldownUntilMs = 0 ∨ timeReached nowMs l.cooldownUntilMs = true

theorem cooled_iff (c : Ctx) : c.ledger.Cooled nowMs ↔ cooldownPending nowMs c.branch = false := by
  unfold Ledger.Cooled cooldownPending Ctx.ledger
  have hpos : ¬ 0 < c.branch.cooldownUntilMs ↔ c.branch.cooldownUntilMs = 0 := by
    rw [UInt32.lt_iff_toNat_lt, Nat.not_lt, ← UInt32.toNat_inj]
    exact Nat.le_zero
  rw [Bool.and_eq_false_iff, decide_eq_false_iff_not, hpos, Bool.not_eq_false']

/-- No fire: the counters stay, and a cooldown at most ends when it is over. -/
structure HoldsFire (e : Env) (nowMs : UInt32) (l l' : Ledger) : Prop where
  fireCount : l'.fireCount = l.fireCount
  firedOnce : l'.firedOnce = l.firedOnce
  policyCursor : l'.policyCursor = l.policyCursor
  policyStage : l'.policyStage = l.policyStage
  lastVariantIndex : l'.lastVariantIndex = l.lastVariantIndex
  cooldown : l'.cooldownUntilMs = l.cooldownUntilMs ∨
    (l'.cooldownUntilMs = 0 ∧ l.Cooled nowMs)
  history : ∃ recent, l'.history = recent ++ l.history ∧ .fired e.setup.branchIndex ∉ recent

theorem HoldsFire.refl (l : Ledger) : HoldsFire e nowMs l l :=
  ⟨rfl, rfl, rfl, rfl, rfl, .inl rfl, [], rfl, List.not_mem_nil⟩

theorem HoldsFire.trans {l m n : Ledger} (h : HoldsFire e nowMs l m) (h' : HoldsFire e nowMs m n) :
    HoldsFire e nowMs l n := by
  rcases h.history with ⟨recent, heq, hnot⟩
  rcases h'.history with ⟨recent', heq', hnot'⟩
  refine ⟨h'.fireCount.trans h.fireCount, h'.firedOnce.trans h.firedOnce,
    h'.policyCursor.trans h.policyCursor, h'.policyStage.trans h.policyStage,
    h'.lastVariantIndex.trans h.lastVariantIndex, ?_, recent' ++ recent, ?_, ?_⟩
  · rcases h'.cooldown with hsame | ⟨hzero, hcooled⟩
    · rcases h.cooldown with hsame' | ⟨hzero', hcooled'⟩
      · exact .inl (hsame.trans hsame')
      · exact .inr ⟨hsame.trans hzero', hcooled'⟩
    rcases h.cooldown with hsame' | ⟨-, hcooled'⟩
    · refine .inr ⟨hzero, ?_⟩
      unfold Ledger.Cooled at hcooled ⊢
      rwa [hsame'] at hcooled
    · exact .inr ⟨hzero, hcooled'⟩
  · rw [heq', heq, List.append_assoc]
  · intro hmem
    rcases List.mem_append.1 hmem with hmem | hmem
    · exact hnot' hmem
    · exact hnot hmem

theorem HoldsFire.note {l : Ledger} {event : HistoryEvent} (h : event ≠ .fired e.setup.branchIndex) :
    HoldsFire e nowMs l { l with history := event :: l.history } := by
  refine ⟨rfl, rfl, rfl, rfl, rfl, .inl rfl, [event], rfl, ?_⟩
  intro hmem
  exact h (List.mem_singleton.1 hmem).symm

theorem HoldsFire.lapse {l : Ledger} (h : l.Cooled nowMs) :
    HoldsFire e nowMs l { l with cooldownUntilMs := 0 } :=
  ⟨rfl, rfl, rfl, rfl, rfl, .inr ⟨rfl, h⟩, [], rfl, List.not_mem_nil⟩

/-- What the policy of the reaction does when it selects a variant. -/
def Selected (model : ScenarioBranch) (l l' : Ledger) : Prop :=
  match model.policyMode with
  | .rotate => l'.lastVariantIndex = l.policyCursor % model.variantCount ∧
    l'.policyCursor = (l.policyCursor % model.variantCount + 1) % model.variantCount ∧
    l'.policyStage = l.policyStage
  | .escalate =>
    l'.lastVariantIndex =
      (if model.variantCount ≤ l.policyStage then model.variantCount - 1 else l.policyStage) ∧
    l'.policyStage =
      (if l'.lastVariantIndex + 1 < model.variantCount then l'.lastVariantIndex + 1
        else l'.lastVariantIndex) ∧
    l'.policyCursor = l.policyCursor
  | .random | .single => l'.policyCursor = l.policyCursor ∧ l'.policyStage = l.policyStage

/-- One fire of the reaction. -/
structure Fired (e : Env) (nowMs : UInt32) (model : ScenarioBranch) (l l' : Ledger) : Prop where
  allowed : 0 < e.setup.maxFireCount → l.fireCount < e.setup.maxFireCount
  cooled : l.Cooled nowMs
  variants : model.variantCount ≠ 0
  selected : Selected model l l'
  fireCount : l'.fireCount = l.fireCount + 1
  firedOnce : l'.firedOnce = true
  cooldown : l'.cooldownUntilMs =
    if 0 < e.setup.cooldownMs then nowMs + e.setup.cooldownMs else 0
  history : l'.history = .fired e.setup.branchIndex :: l.history

/-- An action that sets its reaction back, at once or when its wait runs out. -/
def ActionBody.Resets (action : ActionBody) : Prop :=
  action = .resetReaction ∨ actionTimeoutAction action = .resetReaction

/-- The counters were set back, by an action of the scenario. -/
structure Reset (e : Env) (l l' : Ledger) : Prop where
  authored : ∃ action ∈ e.scenario.reactiveActions, action.Resets
  fireCount : l'.fireCount = 0
  firedOnce : l'.firedOnce = false
  policyCursor : l'.policyCursor = 0
  policyStage : l'.policyStage = 0
  cooldown : l'.cooldownUntilMs = 0
  history : l.history <:+ l'.history

/-- What a function can do to the ledger: nothing, one fire on an occasion that
    `free` describes, or setting it back. -/
inductive Outcome (e : Env) (nowMs : UInt32) (model : ScenarioBranch) (free : Ledger → Prop)
    (l l' : Ledger) : Prop where
  | steady (h : HoldsFire e nowMs l l')
  | fired (m m' : Ledger) (before : HoldsFire e nowMs l m) (occasion : free m)
    (fire : Fired e nowMs model m m') (behind : HoldsFire e nowMs m' l')
  | reset (h : Reset e l l')

theorem HoldsFire.suffix {l m : Ledger} (h : HoldsFire e nowMs l m) : l.history <:+ m.history := by
  rcases h.history with ⟨recent, heq, -⟩
  exact ⟨recent, heq.symm⟩

theorem Reset.of_steady {l m n : Ledger} (h : HoldsFire e nowMs l m) (h' : Reset e m n) :
    Reset e l n :=
  { h' with history := h.suffix.trans h'.history }

namespace Outcome

variable {free free' : Ledger → Prop} {l m n : Ledger}

theorem of_steady (h : HoldsFire e nowMs l m) (h' : Outcome e nowMs model free m n) :
    Outcome e nowMs model free l n := by
  cases h' with
  | steady h' => exact .steady (h.trans h')
  | fired m₁ m₂ before occasion fire behind =>
    exact .fired m₁ m₂ (h.trans before) occasion fire behind
  | reset h' => exact .reset (.of_steady h h')

theorem mono (h : Outcome e nowMs model free l m) (hfree : ∀ k, free k → free' k) :
    Outcome e nowMs model free' l m := by
  cases h with
  | steady h => exact .steady h
  | fired m₁ m₂ before occasion fire behind =>
    exact .fired m₁ m₂ before (hfree m₁ occasion) fire behind
  | reset h => exact .reset h

end Outcome

/-! ### The actions of a reaction -/

theorem ledger_of_branch (hbranch : c'.branch = c.branch)
    (hhistory : c'.session.history = c.session.history) : c'.ledger = c.ledger := by
  unfold Ctx.ledger
  rw [hbranch, hhistory]

theorem ledger_kept (l : Ledger) : KeptByWaits e (fun c => c.ledger = l) :=
  .of_fields Ctx.ledger l fun _ _ _ h _ => ledger_of_branch rfl h

/-- A turn of the action loop leaves the ledger alone, except that resetting the
    reaction sets it back and leaves. -/
theorem reactiveTurn_ledger (nowMs : UInt32) (index : Nat) (action : ActionBody)
    (haction : action ∈ e.scenario.reactiveActions) :
    (reactiveTurn e nowMs index action c).ctx.ledger = c.ledger ∨
      ∃ err c', reactiveTurn e nowMs index action c = .leave err c' ∧
        Reset e c.ledger c'.ledger := by
  unfold reactiveTurn
  cases action with
  | deviceCommandGroup mode startIndex count =>
    left
    simp only
    split <;> rfl
  | waitDeviceEvent wait =>
    exact .inl ((ledger_kept _).enterReactiveWait (fun _ h => h) rfl index _ _ _
      fun r => (ledger_kept _).enterWaitDeviceEvent rfl wait r nowMs)
  | waitAnyDeviceEvent wait | waitAllDeviceEvents wait =>
    exact .inl ((ledger_kept _).enterReactiveWait (fun _ h => h) rfl index _ _ _
      fun r => (ledger_kept _).enterWaitGroup rfl WaitType.noConfusion _ wait r nowMs)
  | waitFlags wait =>
    left
    have h := (ledger_kept (e := e) c.ledger).enterWaitFlags rfl wait nowMs
    simp only
    split
    · next c₁ hok =>
        rw [hok] at h
        split
        · exact h
        · exact h
    · next err c₁ _ hout =>
        rw [hout] at h
        exact h
  | setFlag flag =>
    left
    have h : (c.setFlag flag).2.ledger = c.ledger := rfl
    simp only
    split
    · next c₁ hok =>
        rw [hok] at h
        exact h
    · next err c₁ _ hout =>
        rw [hout] at h
        exact h
  | resetReaction =>
    exact .inr ⟨_, _, rfl, ⟨_, haction, .inl rfl⟩, rfl, rfl, rfl, rfl, rfl, List.suffix_rfl⟩
  | _ => exact .inl rfl

/-- The action loop leaves the ledger alone or sets it back, unless it finishes the
    reaction; then as much is still queued as before. -/
theorem reactiveLoop_ledger (nowMs : UInt32) (finish : Ctx → EspErr × Ctx) (budget : Nat) :
    (reactiveLoop finish e nowMs budget c).2.ledger = c.ledger ∨
      Reset e c.ledger (reactiveLoop finish e nowMs budget c).2.ledger ∨
      ∃ c', reactiveLoop finish e nowMs budget c = finish c' ∧ c'.ledger = c.ledger ∧
        c'.branch.pendingTrigger = c.branch.pendingTrigger := by
  induction budget generalizing c with
  | zero => exact .inl rfl
  | succ n ih =>
    unfold reactiveLoop
    split
    · exact .inr (.inr ⟨c, rfl, rfl, rfl⟩)
    simp only
    split
    · exact .inl rfl
    · next action hget =>
        have hledger := reactiveTurn_ledger (e := e) (c := c) nowMs
          (c.branch.reactiveActionStartIndex + c.branch.reactiveCurrentAction) action
          (List.mem_of_getElem? hget)
        cases hturn : reactiveTurn e nowMs
            (c.branch.reactiveActionStartIndex + c.branch.reactiveCurrentAction) action c with
        | leave err c₁ =>
          rw [hturn] at hledger
          rcases hledger with h | ⟨err', c₂, heq, hreset⟩
          · exact .inl h
          · cases heq
            exact .inr (.inl hreset)
        | again c₁ =>
          rw [hturn] at hledger
          rcases hledger with h | ⟨err', c₂, heq, -⟩
          · have hpending := reactiveTurn_pending e nowMs _ action c c₁ hturn
            have hsame : c₁.ledger = c.ledger := h
            have hnext := ih (c := c₁)
            rw [hsame] at hnext
            rcases hnext with h | h | ⟨c₃, heq, hl, hp⟩
            · exact .inl h
            · exact .inr (.inl h)
            · exact .inr (.inr ⟨c₃, heq, hl, hp.trans hpending⟩)
          · cases heq

/-! ### Finishing and firing -/

theorem applyCompletion_ledger (model : ScenarioBranch) :
    (applyCompletion e model c).2.ledger = c.ledger :=
  (ledger_kept _).applyCompletion rfl model

/-- How often the reaction has completed. -/
def Ledger.completions (e : Env) (l : Ledger) : Nat :=
  l.history.count (.completed e.setup.branchIndex)

/-- Finishing completes the reaction. It fires again only with a trigger queued,
    and then with none. -/
theorem finishWith_ledger (nowMs : UInt32) (model : ScenarioBranch) (fire : Ctx → EspErr × Ctx) :
    HoldsFire e nowMs c.ledger (finishWith fire e model nowMs c).2.ledger ∨
      (c.branch.pendingTrigger = true ∧ ∃ c', finishWith fire e model nowMs c = fire c' ∧
        c'.branch.pendingTrigger = false ∧ HoldsFire e nowMs c.ledger c'.ledger ∧
        c.ledger.completions e < c'.ledger.completions e) := by
  have hledger := applyCompletion_ledger (e := e) (c := c) model
  have hbranch := applyCompletion_branch e model c
  unfold finishWith
  split
  · next c₁ hok =>
      rw [hok] at hledger hbranch
      have hnote : HoldsFire e nowMs c.ledger
          { c₁.ledger with
            history := .completed e.setup.branchIndex :: c₁.session.history } := by
        rw [← hledger]
        exact .note nofun
      simp only
      split
      · exact .inl hnote
      split
      · next hagain =>
          simp only [Bool.and_eq_true, Bool.or_eq_true, decide_eq_true_iff] at hagain
          refine .inr ⟨?_, _, rfl, rfl, hnote.trans (.lapse hagain.2), ?_⟩
          · rw [← hbranch]
            exact hagain.1
          · rw [← hledger]
            exact Nat.lt_of_lt_of_eq (Nat.lt_succ_self _) List.count_cons_self.symm
      split
      · exact .inl hnote
      · next hcooled =>
          rw [Bool.not_eq_true] at hcooled
          refine .inl (hnote.trans (.lapse ?_))
          exact (cooled_iff { c₁ with branch := { c₁.branch with pendingTrigger := false } }).2
            hcooled
  · next err c₁ _ hout =>
      rw [hout] at hledger
      have hsame : (c₁.setError e "reactive_on_complete_failed").ledger = c.ledger := hledger
      left
      rw [hsame]
      exact .refl _

theorem selectVariant_selected (hcount : model.variantCount ≠ 0) (c' : Ctx)
    (hvariant : c'.ledger.lastVariantIndex = (selectVariant model c).1)
    (hcursor : c'.ledger.policyCursor = (selectVariant model c).2.branch.policyCursor)
    (hstage : c'.ledger.policyStage = (selectVariant model c).2.branch.policyStage) :
    Selected model c.ledger c'.ledger := by
  unfold selectVariant at hvariant hcursor hstage
  unfold Selected
  simp only [hcount, if_false] at hvariant hcursor hstage
  cases hpolicy : model.policyMode with
  | rotate =>
    simp only [hpolicy] at hvariant hcursor hstage ⊢
    exact ⟨hvariant, hcursor, hstage⟩
  | escalate =>
    simp only [hpolicy] at hvariant hcursor hstage ⊢
    refine ⟨hvariant, ?_, hcursor⟩
    rw [hstage, hvariant]
  | random | single =>
    simp only [hpolicy] at hvariant hcursor hstage ⊢
    exact ⟨hcursor, hstage⟩

/-- Firing leaves the ledger alone, or fires a reaction that is ready and runs it
    with no trigger queued. -/
theorem fireWith_ledger (nowMs : UInt32) (hmodel : e.modelBranch = some model)
    (run : Ctx → EspErr × Ctx) : (fireWith run e nowMs c).2.ledger = c.ledger ∨
      (readyToFire nowMs c.branch = true ∧ ∃ c', fireWith run e nowMs c = run c' ∧
        c'.branch.pendingTrigger = false ∧ Fired e nowMs model c.ledger c'.ledger) := by
  unfold fireWith
  rw [hmodel]
  simp only
  split
  · exact .inl rfl
  · next hvariants =>
      split
      · exact .inl rfl
      · next hexhausted =>
          split
          · split
            · exact .inl rfl
            · exact .inl rfl
          · next hready =>
              have hcount : model.variantCount ≠ 0 := fun h => hvariants (.inr (.inl h))
              simp only [Bool.not_eq_true', Bool.not_eq_false] at hready
              refine .inr ⟨hready, _, rfl, rfl, ?_⟩
              have hhistory := selectVariant_history model c
              unfold readyToFire at hready
              simp only [Bool.and_eq_true, decide_eq_true_iff, Bool.not_eq_true'] at hready
              refine ⟨fun hmax => ?_, (cooled_iff c).2 hready.2, hcount,
                selectVariant_selected hcount _ rfl rfl rfl, ?_, rfl, rfl, ?_⟩
              · unfold firesExhausted at hexhausted
                simp only [hmax, decide_true, Bool.true_and, decide_eq_true_iff] at hexhausted
                exact UInt32.not_le.1 hexhausted
              · exact congrArg (· + 1) (selectVariant_fireCount model c)
              · exact congrArg (HistoryEvent.fired e.setup.branchIndex :: ·) hhistory

theorem reactiveContinue_steady (depth : Nat) (hpending : c.branch.pendingTrigger = false) :
    HoldsFire e nowMs c.ledger (reactiveContinue depth e nowMs c).2.ledger ∨
      Reset e c.ledger (reactiveContinue depth e nowMs c).2.ledger := by
  cases depth with
  | zero => exact .inl (.refl _)
  | succ depth =>
    unfold reactiveContinue
    split
    · exact .inl (.refl _)
    · next model _ =>
        split
        · exact .inl (.refl _)
        rcases reactiveLoop_ledger (c := { c with plan := none }) nowMs
          (finishWith (fireWith (reactiveContinue depth e nowMs) e nowMs) e model nowMs)
          reactiveMaxActionsPerTick with h | h | ⟨c₁, heq, hledger, hqueued⟩
        · left
          rw [h]
          exact .refl _
        · exact .inr h
        rw [heq]
        rcases finishWith_ledger (c := c₁) nowMs model
          (fireWith (reactiveContinue depth e nowMs) e nowMs) with h | ⟨hpend, -⟩
        · left
          rw [hledger] at h
          exact h
        · rw [hqueued.trans hpending] at hpend
          cases hpend

theorem fireWith_outcome (hmodel : e.modelBranch = some model) (run : Ctx → EspErr × Ctx)
    (hrun : ∀ c, c.branch.pendingTrigger = false →
      HoldsFire e nowMs c.ledger (run c).2.ledger ∨ Reset e c.ledger (run c).2.ledger)
    (free : Ledger → Prop) (hfree : readyToFire nowMs c.branch = true → free c.ledger) :
    Outcome e nowMs model free c.ledger (fireWith run e nowMs c).2.ledger := by
  rcases fireWith_ledger nowMs hmodel run with
    h | ⟨hready, c₁, heq, hpending, hfired⟩
  · rw [h]
    exact .steady (.refl _)
  rw [heq]
  rcases hrun c₁ hpending with h | h
  · exact .fired c.ledger c₁.ledger (.refl _) (hfree hready) hfired h
  refine .reset { h with history := ?_ }
  have hsuffix := h.history
  rw [hfired.history] at hsuffix
  exact (List.suffix_cons _ _).trans hsuffix

theorem finishWith_outcome (nowMs : UInt32) (hmodel : e.modelBranch = some model)
    (run : Ctx → EspErr × Ctx) (hrun : ∀ c, c.branch.pendingTrigger = false →
      HoldsFire e nowMs c.ledger (run c).2.ledger ∨ Reset e c.ledger (run c).2.ledger) :
    Outcome e nowMs model (fun l => c.ledger.completions e < l.completions e) c.ledger
      (finishWith (fireWith run e nowMs) e model nowMs c).2.ledger := by
  rcases finishWith_ledger nowMs model
    (fireWith run e nowMs) with h | ⟨-, c₁, heq, -, hsteady, hcompleted⟩
  · exact .steady h
  · rw [heq]
    exact .of_steady hsteady (fireWith_outcome hmodel run hrun _ fun _ => hcompleted)

/-- A reaction that goes on fires at most once, when it has completed. -/
theorem continueLocked_outcome (hmodel : e.modelBranch = some model) :
    Outcome e nowMs model (fun l => c.ledger.completions e < l.completions e) c.ledger
      (continueLocked e nowMs c).2.ledger := by
  unfold continueLocked reactiveDepth reactiveContinue
  rw [hmodel]
  simp only
  split
  · exact .steady (.refl _)
  rcases reactiveLoop_ledger (c := { c with plan := none }) nowMs
    (finishWith (fireWith (reactiveContinue 1 e nowMs) e nowMs) e model nowMs)
    reactiveMaxActionsPerTick with h | h | ⟨c₁, heq, hledger, -⟩
  · rw [h]
    exact .steady (.refl _)
  · exact .reset h
  rw [heq]
  have hout := finishWith_outcome (c := c₁) nowMs hmodel (reactiveContinue 1 e nowMs)
    fun c => reactiveContinue_steady 1
  rw [hledger] at hout
  exact hout

/-- Firing a reaction that has no trigger queued fires it at most once, if it is
    ready. -/
theorem fireLocked_outcome (hmodel : e.modelBranch = some model) (free : Ledger → Prop)
    (hfree : readyToFire nowMs c.branch = true → free c.ledger) :
    Outcome e nowMs model free c.ledger (fireLocked e nowMs c).2.ledger :=
  fireWith_outcome hmodel (continueLocked e nowMs) (fun _ => reactiveContinue_steady _) free hfree

theorem finishLocked_outcome (nowMs : UInt32) (hmodel : e.modelBranch = some model) :
    Outcome e nowMs model (fun l => c.ledger.completions e < l.completions e) c.ledger
      (finishLocked e model nowMs c).2.ledger :=
  finishWith_outcome nowMs hmodel (continueLocked e nowMs) fun _ => reactiveContinue_steady _

/-! ### Waits and results -/

/-- The completion a fire waits for is one since the call began. -/
def CompletedSince (e : Env) (l m : Ledger) : Prop := l.completions e < m.completions e

section

variable (hmodel : e.modelBranch = some model)
include hmodel

theorem applyReactiveWaitTimeout_outcome
    (action : ActionBody) (haction : action ∈ e.scenario.reactiveActions) :
    Outcome e nowMs model (CompletedSince e c.ledger) c.ledger
      (applyReactiveWaitTimeout e action nowMs c).2.ledger := by
  unfold applyReactiveWaitTimeout
  split
  · exact .steady (.refl _)
  · next hreset =>
      exact .reset ⟨⟨action, haction, .inr hreset⟩, rfl, rfl, rfl, rfl, rfl, List.suffix_rfl⟩
  · exact continueLocked_outcome hmodel (c := c.actionDone)

theorem expireReactiveWait_outcome : Outcome e nowMs model (CompletedSince e c.ledger) c.ledger
      (expireReactiveWait e nowMs c).ledger := by
  unfold expireReactiveWait
  split
  · exact .steady (.refl _)
  · next action hget =>
      exact applyReactiveWaitTimeout_outcome hmodel action (List.mem_of_getElem? hget)

theorem applyResultPolicy_outcome (action : ResultAction)
    (message : String) : Outcome e nowMs model (CompletedSince e c.ledger) c.ledger
      (applyResultPolicy e model action nowMs message c).2.ledger := by
  unfold applyResultPolicy
  cases action with
  | «continue» => exact finishLocked_outcome nowMs hmodel
  | setFlag =>
    simp only
    split
    · exact .steady (.refl _)
    have h : (c.setFlag ⟨model.resultFlag, true⟩).2.ledger = c.ledger := rfl
    split
    · next c₁ hok =>
        rw [hok] at h
        have hout := finishLocked_outcome (c := c₁) nowMs hmodel
        rw [h] at hout
        exact hout
    · next err c₁ _ hout =>
        rw [hout] at h
        rw [show (failReaction e "reactive_result_set_flag_failed" c₁).ledger = c.ledger from h]
        exact .steady (.refl _)
  | failScenario =>
    exact .steady (.note nofun)
  | retry => exact .steady (.refl _)
  | failReaction => exact .steady (.refl _)

theorem branchOnCommandResult_outcome (message : Event) :
    Outcome e nowMs model (CompletedSince e c.ledger) c.ledger
      (branchOnCommandResult e message nowMs c).ctx.ledger := by
  have hv2 : e.isReactiveV2 = true := by
    unfold Env.isReactiveV2
    rw [hmodel]
    rfl
  unfold branchOnCommandResult
  rw [hv2]
  split
  · exact .steady (.refl _)
  split
  · unfold handleResultFailure
    rw [hmodel]
    exact applyResultPolicy_outcome hmodel _ _
  split
  · exact .steady (.refl _)
  unfold handleResultSuccess
  rw [hmodel]
  simp only [if_true]
  split
  · exact applyResultPolicy_outcome hmodel _ _
  · exact continueLocked_outcome hmodel (c := c.actionDone)

end

theorem branchOnWait_outcome (nowMs : UInt32) (hmodel : e.modelBranch = some model)
    (message : Event) : Outcome e nowMs model (CompletedSince e c.ledger) c.ledger
      (branchOnWait e message nowMs c).ctx.ledger := by
  unfold branchOnWait
  split
  · exact .steady (.refl _)
  simp only
  split
  · exact .steady (.refl _)
  split
  · exact branchOnCommandResult_outcome hmodel message (c := c.load)
  split
  · unfold branchOnGroupEvent
    simp only
    split
    · exact .steady (.refl _)
    · exact .steady (.refl _)
  · exact .steady (.refl _)

/-! ### Triggers -/

/-- A trigger during a timed wait cuts the reaction short and fires it. -/
def CutsShort (model : ScenarioBranch) (b : BranchRun) : Prop :=
  model.policyMode ≠ .single ∧ b.progress.scenarioState = .waiting ∧
  b.progress.wait.waitType = .time

/-- What must be true for a fire: the branch was not under way, or was cut short
    in a timed wait, or the reaction has completed since. -/
def MayFire (e : Env) (model : ScenarioBranch) (b : BranchRun) (l m : Ledger) : Prop :=
  underWay b = false ∨ CutsShort model b ∨ CompletedSince e l m

theorem underWay_of_ready {b : BranchRun} (h : readyToFire nowMs b = true) : underWay b = false := by
  simp only [readyToFire, Bool.and_eq_true, decide_eq_true_iff] at h
  simp [underWay, h.1.1, h.1.2]

theorem triggerDuringWait_outcome (hmodel : e.modelBranch = some model) :
    Outcome e nowMs model (fun _ => CutsShort model c.branch) c.ledger
      (triggerDuringWait e nowMs c).2.ledger := by
  unfold triggerDuringWait
  rw [hmodel]
  simp only
  split
  · exact .steady (.refl _)
  · next hwait =>
      have hstate : c.branch.progress.scenarioState = .waiting :=
        Decidable.not_not.1 fun h => hwait (.inl h)
      have htype : c.branch.progress.wait.waitType = .time :=
        Decidable.not_not.1 fun h => hwait (.inr h)
      split
      · split
        · exact .steady (.refl _)
        · exact .steady (.refl _)
      · next hpolicy =>
          have hcut : CutsShort model c.branch := ⟨hpolicy, hstate, htype⟩
          -- Neither skipping the actions nor ending the wait touches the ledger.
          have hfire (c₁ : Ctx) (hledger : c₁.ledger = c.ledger) :
              Outcome e nowMs model (fun _ => CutsShort model c.branch) c.ledger
                (fireLocked e nowMs c₁).2.ledger := by
            rw [← hledger]
            exact fireLocked_outcome hmodel (fun _ => CutsShort model c.branch) fun _ => hcut
          split
          · exact hfire _ rfl
          · exact hfire _ rfl

theorem consumeTrigger_keeps (message : Event) : (consumeTrigger e message c).2.ledger = c.ledger ∧
      (consumeTrigger e message c).2.branch.progress = c.branch.progress := by
  unfold consumeTrigger
  split
  · exact ⟨rfl, rfl⟩
  split
  · split
    · exact ⟨rfl, rfl⟩
    simp only
    split
    · exact ⟨rfl, rfl⟩
    · exact ⟨rfl, rfl⟩
  · exact ⟨rfl, rfl⟩

theorem branchOnTrigger_outcome (hmodel : e.modelBranch = some model) (message : Event) :
    Outcome e nowMs model (MayFire e model c.branch c.ledger) c.ledger
      (branchOnTrigger e message nowMs c).ctx.ledger := by
  have hkeeps := consumeTrigger_keeps (e := e) (c := c) message
  unfold branchOnTrigger
  split
  · next c₁ hout =>
      rw [hout] at hkeeps
      rw [hkeeps.1]
      exact .steady (.refl _)
  · next c₁ hout =>
      rw [hout] at hkeeps
      rcases hkeeps with ⟨hledger, hprogress⟩
      have hfire : Outcome e nowMs model (MayFire e model c.branch c.ledger) c.ledger
          (if c₁.branch.progress.wait.waitType = .time then triggerDuringWait e nowMs c₁
            else fireLocked e nowMs c₁).2.ledger := by
        rw [← hledger]
        split
        · refine (triggerDuringWait_outcome hmodel).mono fun _ h => .inr (.inl ?_)
          unfold CutsShort at h ⊢
          rwa [hprogress] at h
        refine fireLocked_outcome hmodel _ fun hready => .inl ?_
        have hrest := underWay_of_ready hready
        unfold underWay at hrest ⊢
        rwa [hprogress] at hrest
      by_cases htype : c₁.branch.progress.wait.waitType = .time
      · simp only [htype, if_true] at hfire ⊢
        split
        · exact hfire
        · exact hfire
      simp only [htype, if_false] at hfire ⊢
      split
      · exact hfire
      · exact hfire

theorem branchOnEvent_outcome (hmodel : e.modelBranch = some model) (message : Event)
    (triggered : Bool) : Outcome e nowMs model (MayFire e model c.branch c.ledger) c.ledger
      (branchOnEvent e message triggered nowMs c).ctx.ledger := by
  unfold branchOnEvent
  split
  · exact branchOnTrigger_outcome hmodel message
  split
  · have hout := branchOnWait_outcome (c := (consumeTrigger e message c).2)
      nowMs hmodel message
    rw [(consumeTrigger_keeps message).1] at hout
    exact hout.mono fun _ h => .inr (.inr h)
  · exact (branchOnWait_outcome nowMs hmodel message).mono fun _ h => .inr (.inr h)

/-! ### Time and the dispatcher -/

theorem executeBranchCore_outcome (nowMs : UInt32) (hmodel : e.modelBranch = some model)
    (budget : Nat) : Outcome e nowMs model (CompletedSince e c.ledger) c.ledger
      (executeBranchCore e nowMs budget c).ctx.ledger := by
  have hv2 : e.isReactiveV2 = true := by
    unfold Env.isReactiveV2
    rw [hmodel]
    rfl
  unfold executeBranchCore
  rw [hv2]
  split
  · exact .steady (.refl _)
  · exact continueLocked_outcome hmodel (c := { c with plan := none })

/-- What a tick does about the wait of a reaction. -/
theorem processWait_outcome (nowMs : UInt32) (hmodel : e.modelBranch = some model) :
    match processWait e nowMs c with
    | .handled c' => Outcome e nowMs model (CompletedSince e c.ledger) c.ledger c'.ledger
    | .ready c' => c'.ledger = c.ledger := by
  have hv2 : e.isReactiveV2 = true := by
    unfold Env.isReactiveV2
    rw [hmodel]
    rfl
  have hkept : Outcome e nowMs model (CompletedSince e c.ledger) c.ledger c.save.ledger :=
    .steady (.refl _)
  have hexpired : Outcome e nowMs model (CompletedSince e c.ledger) c.ledger
      (expireReactiveWait e nowMs c).ledger := expireReactiveWait_outcome hmodel
  unfold processWait
  simp only [hv2, if_true]
  by_cases htime : c.session.progress.scenarioState = .waiting ∧
      c.session.progress.wait.waitType = .time
  · rw [if_pos htime]
    by_cases hleft : (!waitExpired nowMs c.session.progress.wait) = true
    · rw [if_pos hleft]
      exact hkept
    · rw [if_neg hleft]
      exact hexpired
  rw [if_neg htime]
  by_cases hdevice : c.session.progress.scenarioState = .waiting ∧
      (c.session.progress.wait.waitType = .deviceEvent ∨
        c.session.progress.wait.waitType = .anyDeviceEvent ∨
        c.session.progress.wait.waitType = .allDeviceEvents)
  · rw [if_pos hdevice]
    by_cases hleft : (!waitExpired nowMs c.session.progress.wait) = true
    · rw [if_pos hleft]
      exact hkept
    · rw [if_neg hleft]
      exact hexpired
  rw [if_neg hdevice]
  by_cases hflags : c.session.progress.scenarioState = .waiting ∧
      c.session.progress.wait.waitType = .flags
  · rw [if_pos hflags]
    by_cases hopen : (!waitFlagsMet c.session) = true
    · rw [if_pos hopen]
      by_cases hleft : (!waitExpired nowMs c.session.progress.wait) = true
      · rw [if_pos hleft]
        exact hkept
      · rw [if_neg hleft]
        exact hexpired
    · rw [if_neg hopen]
      rfl
  · rw [if_neg hflags]
    by_cases hidle : c.session.progress.scenarioState ≠ .running
    · rw [if_pos hidle]
      exact hkept
    · rw [if_neg hidle]

theorem processBranch_outcome (hmodel : e.modelBranch = some model) :
    Outcome e nowMs model (CompletedSince e c.ledger) c.ledger
      (processBranch e nowMs c).1.ledger := by
  have hv2 : e.isReactiveV2 = true := by
    unfold Env.isReactiveV2
    rw [hmodel]
    rfl
  have hwait := processWait_outcome (c := c.load) nowMs hmodel
  unfold processBranch prepareBranch
  simp only [hv2, Bool.not_true]
  by_cases hactive : (!e.setup.active) = true
  · rw [if_pos hactive]
    exact .steady (.refl _)
  rw [if_neg hactive]
  by_cases hcool : c.branch.progress.scenarioState ≠ .cooldown
  · rw [if_pos hcool]
    simp only
    split
    · next c₁ hhandled =>
        rw [hhandled] at hwait
        exact hwait
    · next c₁ hready =>
        rw [hready] at hwait
        have hsame : c₁.ledger = c.ledger := hwait
        split
        · rw [hsame]
          exact .steady (.refl _)
        have hout := executeBranchCore_outcome (c := c₁.save) nowMs hmodel
          maxStepsPerTick
        rw [show c₁.save.ledger = c.ledger from hsame] at hout
        exact hout
  · rw [if_neg hcool]
    by_cases hpending : (!timeReached nowMs c.branch.cooldownUntilMs) = true
    · rw [if_pos hpending]
      exact .steady (.refl _)
    rw [if_neg hpending]
    simp only [Bool.not_eq_true', Bool.not_eq_false] at hpending
    exact .steady (.lapse (.inr hpending))

theorem planMatches_ledger (plan : CommandPlan) : (planMatches e plan c).2.ledger = c.ledger := by
  unfold planMatches
  split
  · rfl
  simp only
  split
  · rfl
  · split <;> rfl

theorem nextCommand_ledger (plan : CommandPlan) : (nextCommand e plan c).2.ledger = c.ledger := by
  have h := planMatches_ledger (e := e) (c := c) plan
  unfold nextCommand
  split
  · next c₁ hout =>
      rw [hout] at h
      exact h
  · next c₁ hout =>
      rw [hout] at h
      exact h

theorem applyDispatch_outcome (hmodel : e.modelBranch = some model) (plan : CommandPlan)
    (dispatch : DispatchResult) (hasMore : Bool) :
    Outcome e nowMs model (CompletedSince e c.ledger) c.ledger
      (applyDispatch e plan dispatch hasMore nowMs c).ctx.ledger := by
  have h := planMatches_ledger (e := e) (c := c) plan
  unfold applyDispatch
  split
  · next c₁ hout =>
      rw [hout] at h
      rw [show ({ c₁ with plan := none } : Ctx).ledger = c.ledger from h]
      exact .steady (.refl _)
  · next c₁ hout =>
      rw [hout] at h
      rw [← show c₁.ledger = c.ledger from h]
      split
      · exact .steady (.refl _)
      split
      · unfold enterWaitCommandResult
        split
        · exact .steady (.refl _)
        · exact .steady (.refl _)
      split
      · exact .steady (.refl _)
      split
      · unfold stepDispatched
        have hout (c₂ : Ctx) (hledger : c₂.ledger = c₁.ledger) :
            Outcome e nowMs model (CompletedSince e c₁.ledger) c₁.ledger
              (executeBranchCore e nowMs maxStepsPerTick c₂).ctx.ledger := by
          rw [← hledger]
          exact executeBranchCore_outcome nowMs hmodel maxStepsPerTick
        simp only
        split
        · exact hout _ rfl
        · exact hout _ rfl
      unfold reactiveDispatched
      have hout (c₂ : Ctx) (hledger : c₂.ledger = c₁.ledger) :
          Outcome e nowMs model (CompletedSince e c₁.ledger) c₁.ledger
            (continueLocked e nowMs c₂).2.ledger := by
        rw [← hledger]
        exact continueLocked_outcome hmodel
      simp only
      split
      · exact hout _ rfl
      · exact hout _ rfl

theorem leaveWait_ledger : (leaveWait e c).ledger = c.ledger := by
  unfold leaveWait
  simp only
  split <;> rfl

/-! ### One call -/

/-- The time a call is made at. Handing out a command, a failure and leaving a
    wait take none; then it is the one given. -/
def BranchCall.time (idle : UInt32) : BranchCall → UInt32
  | .tick nowMs => nowMs
  | .event _ _ nowMs => nowMs
  | .execute nowMs _ => nowMs
  | .apply _ _ _ nowMs => nowMs
  | .leaveWait => idle
  | .next _ => idle
  | .fail _ _ => idle

theorem BranchCall.outcome (hmodel : e.modelBranch = some model) (call : BranchCall)
    (idle : UInt32) : Outcome e (call.time idle) model (MayFire e model c.branch c.ledger) c.ledger
      (call.run e c).ledger := by
  cases call with
  | tick nowMs => exact (processBranch_outcome hmodel).mono fun _ h => .inr (.inr h)
  | event message triggered nowMs => exact branchOnEvent_outcome hmodel message triggered
  | execute nowMs budget =>
    exact (executeBranchCore_outcome nowMs hmodel budget).mono fun _ h => .inr (.inr h)
  | leaveWait =>
    refine .steady ?_
    rw [show (BranchCall.leaveWait.run e c).ledger = c.ledger from leaveWait_ledger]
    exact .refl _
  | next plan =>
    refine .steady ?_
    rw [show ((BranchCall.next plan).run e c).ledger = c.ledger from nextCommand_ledger plan]
    exact .refl _
  | apply plan dispatch hasMore nowMs =>
    exact (applyDispatch_outcome hmodel plan dispatch hasMore).mono fun _ h => .inr (.inr h)
  | fail plan errorCode =>
    refine .steady ?_
    rw [show ((BranchCall.fail plan errorCode).run e c).ledger = c.ledger from rfl]
    exact .refl _

end SceneHub
