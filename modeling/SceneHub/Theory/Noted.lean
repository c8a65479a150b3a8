import SceneHub.Theory.Rest

/-!
# Which Branch Functions Note a Change

Clients learn of a change by the session's generation, and the generation only
moves where the code says so. Nearly every branch function that gets anything
done notes it, on each of its ways out; the functions that merely look at a
branch do not, although looking loads the branch into the shared fields.

Within one transaction only the first note of a session moves the counters. So
a chain of branch functions either leaves the counters as they are or moves
them once, and whether it did can be read off at its end.

## Main definitions

* `Stamp`: The counters a note moves, and `Stamp.mark`, moving them.
* `Stamp.Noted`: A change has been noted in this transaction.

## Theorems

* `moves_stamp`, `callMoves_stamp`: A chain moves the counters at most once.
* `executeSteps_noted`, `continueLocked_noted`: Running a branch notes it.
* `applyResultPolicy_noted`: So does applying a command's result.
-/

namespace SceneHub

/-! ### The counters -/

/-- The counters of the lock and of one session. -/
structure Stamp where
  lockGeneration : UInt32
  lockEpoch : UInt32
  generation : UInt32
  lastChangeLockEpoch : UInt32
  deriving DecidableEq, Repr

namespace Stamp

def of (l : Lock) (s : SessionRun) : Stamp :=
  ⟨l.generation, l.lockEpoch, s.generation, s.lastChangeLockEpoch⟩

/-- A change of the session has been noted in this transaction. -/
def Noted (t : Stamp) : Prop := t.lastChangeLockEpoch = t.lockEpoch

/-- The counters behind a note. Only the first note of a transaction moves them. -/
def mark (t : Stamp) : Stamp :=
  if t.lastChangeLockEpoch = t.lockEpoch then t
  else ⟨t.lockGeneration + 1, t.lockEpoch, t.lockGeneration + 1, t.lockEpoch⟩

theorem mark_of_noted {t : Stamp} (h : t.Noted) : t.mark = t := if_pos h

theorem mark_of_fresh {t : Stamp} (h : ¬ t.Noted) :
    t.mark = ⟨t.lockGeneration + 1, t.lockEpoch, t.lockGeneration + 1, t.lockEpoch⟩ := if_neg h

theorem noted_mark (t : Stamp) : t.mark.Noted := by
  unfold mark
  split
  · next h => exact h
  · rfl

theorem mark_mark (t : Stamp) : t.mark.mark = t.mark := mark_of_noted (noted_mark t)

/-- The counters were left alone or moved once. -/
def Leads (t t' : Stamp) : Prop := t' = t ∨ t' = t.mark

theorem Leads.refl (t : Stamp) : t.Leads t := .inl rfl

theorem leads_mark (t : Stamp) : t.Leads t.mark := .inr rfl

theorem Leads.trans {t t' t'' : Stamp} (h : t.Leads t') (h' : t'.Leads t'') : t.Leads t'' := by
  rcases h with rfl | rfl
  · exact h'
  rcases h' with rfl | rfl
  · exact .inr rfl
  · exact .inr (mark_mark t)

theorem Noted.leads {t t' : Stamp} (h : t.Noted) (h' : t.Leads t') : t'.Noted := by
  rcases h' with rfl | rfl
  · exact h
  · exact noted_mark t

/-- A chain that ends noted has moved the counters, unless they had moved. -/
theorem Leads.eq_mark {t t' : Stamp} (h : t.Leads t') (h' : t'.Noted) : t' = t.mark := by
  rcases h with rfl | rfl
  · exact (mark_of_noted h').symm
  · rfl

theorem of_noteChange (l : Lock) (roomId : String) (s : SessionRun) :
    of (l.noteChange roomId s) (s.noteChange l) = (of l s).mark := by
  unfold mark of Lock.noteChange SessionRun.noteChange
  by_cases h : s.lastChangeLockEpoch = l.lockEpoch
  · simp [h]
  · simp [h]

end Stamp

def Ctx.stamp (c : Ctx) : Stamp := .of c.lock c.session

/-- A change of the branch's session has been noted in this transaction. -/
def Ctx.Noted (c : Ctx) : Prop := c.stamp.Noted

variable {e : Env} {c c' : Ctx}

theorem stamp_markChanged (e : Env) (c : Ctx) : (c.markChanged e).stamp = c.stamp.mark :=
  Stamp.of_noteChange c.lock e.roomId c.session

theorem noted_markChanged (e : Env) (c : Ctx) : (c.markChanged e).Noted := by
  unfold Ctx.Noted
  rw [stamp_markChanged]
  exact Stamp.noted_mark _

/-! ### Chains -/

/-- What a primitive keeps of the lock's counters. -/
def Lock.counters (l : Lock) : UInt32 × UInt32 := (l.generation, l.lockEpoch)

theorem deferCancel_counters (l : Lock) (requestId : String) :
    (l.deferCancel requestId).counters = l.counters := rfl

theorem cancelWait_counters (l : Lock) (w : Wait) : (l.cancelWait w).counters = l.counters := by
  unfold Lock.cancelWait
  split
  · exact deferCancel_counters l _
  · rfl

theorem deferFlagEvent_counters (l : Lock) (name : String) (value : Bool) :
    (l.deferFlagEvent name value).2.counters = l.counters := by
  unfold Lock.deferFlagEvent
  split
  · rfl
  · split <;> rfl

theorem setFlag_counters (l : Lock) (flags : List Flag) (name : String) (value : Bool) :
    (setFlag l flags name value).2.1.counters = l.counters := by
  unfold setFlag
  split
  · rfl
  split
  · split
    · rfl
    · exact deferFlagEvent_counters l name value
  · split
    · rfl
    · exact deferFlagEvent_counters l name value

theorem random_counters (l : Lock) : l.random.2.counters = l.counters := by
  unfold Lock.random
  split <;> rfl

theorem stamp_congr (hlock : c'.lock.counters = c.lock.counters)
    (hgeneration : c'.session.generation = c.session.generation)
    (hlast : c'.session.lastChangeLockEpoch = c.session.lastChangeLockEpoch) :
    c'.stamp = c.stamp := by
  simp only [Lock.counters, Prod.mk.injEq] at hlock
  simp only [Ctx.stamp, Stamp.of, hlock, hgeneration, hlast]

theorem stepMove_stamp (h : StepMove e c c') : c.stamp.Leads c'.stamp := by
  cases h with
  | mark =>
    rw [stamp_markChanged]
    exact Stamp.leads_mark _
  | clearWait | dispatch nowMs => exact .inl (stamp_congr (cancelWait_counters _ _) rfl rfl)
  | flag flag => exact .inl (stamp_congr (setFlag_counters _ _ _ _) rfl rfl)
  | _ => exact .inl rfl

theorem move_stamp (h : Move e c c') : c.stamp.Leads c'.stamp := by
  cases h with
  | step hstep => exact stepMove_stamp hstep
  | branchClearWait => exact .inl (stamp_congr (cancelWait_counters _ _) rfl rfl)
  | random => exact .inl (stamp_congr (random_counters _) rfl rfl)
  | _ => exact .inl rfl

/-- A chain moves the counters at most once. -/
theorem moves_stamp (h : Moves e c c') : c.stamp.Leads c'.stamp :=
  h.preserves (fun d => c.stamp.Leads d.stamp) (fun _ _ hm hd => hd.trans (move_stamp hm)) (.refl _)

theorem enterWait_stamp (e : Env) (wait : Wait) (c : Ctx) :
    (c.enterWait e wait).stamp = c.stamp.mark := by
  have hkept : (((c.setState .waiting).clearWait).setWait wait).stamp = c.stamp :=
    stamp_congr (cancelWait_counters _ _) rfl rfl
  unfold Ctx.enterWait
  rw [stamp_markChanged, hkept]

theorem callMoves_stamp {R K : String → Prop} (h : CallMoves R K e c c') :
    c.stamp.Leads c'.stamp := by
  refine h.preserves (fun d => c.stamp.Leads d.stamp) (fun d d' hm hd => ?_) (.refl _)
  cases hm with
  | move hmove => exact hd.trans (move_stamp hmove)
  | more => exact hd
  | result dispatch nowMs _ =>
    refine hd.trans ?_
    unfold enterWaitCommandResult
    split
    · exact .refl _
    · rw [enterWait_stamp]
      exact Stamp.leads_mark _

theorem Moves.noted (h : Moves e c c') (hc : c.Noted) : c'.Noted :=
  Stamp.Noted.leads hc (moves_stamp h)

/-! ### Running steps -/

theorem enterWait_noted (e : Env) (wait : Wait) (c : Ctx) : (c.enterWait e wait).Noted :=
  noted_markChanged e _

theorem setError_noted (e : Env) (message : String) (c : Ctx) : (c.setError e message).Noted :=
  noted_markChanged e _

theorem enterWaitDeviceEvent_noted (wait : WaitDeviceEvent)
    (resolution : Option (List WaitEventMatch)) (nowMs : UInt32)
    (hok : (enterWaitDeviceEvent e wait resolution nowMs c).1 = .ok) :
    (enterWaitDeviceEvent e wait resolution nowMs c).2.Noted := by
  unfold enterWaitDeviceEvent at hok ⊢
  split
  · exact enterWait_noted e _ c
  · next hnot =>
      split at hok
      · exact absurd rfl (hnot _)
      · cases hok

theorem enterWaitGroup_noted (waitType : WaitType) (matched : List WaitEventMatch → List Bool)
    (wait : WaitGroupEvents) (resolution : Option (List WaitEventMatch)) (nowMs : UInt32)
    (hok : (enterWaitGroup waitType matched e wait resolution nowMs c).1 = .ok) :
    (enterWaitGroup waitType matched e wait resolution nowMs c).2.Noted := by
  unfold enterWaitGroup at hok ⊢
  cases resolution with
  | none => cases hok
  | some found =>
    simp only at hok ⊢
    split
    · next hbad =>
        rw [if_pos hbad] at hok
        cases hok
    · exact enterWait_noted e _ c

theorem enterWaitFlags_noted (wait : WaitFlags) (nowMs : UInt32)
    (hok : enterWaitFlags e wait nowMs c = (.ok, c')) : c'.Noted := by
  unfold enterWaitFlags at hok
  split at hok
  · cases hok
  · cases hok
    exact enterWait_noted e _ c

theorem planReactiveCommand_noted (kind : PlanKind) (nowMs : UInt32) :
    (planReactiveCommand e kind nowMs c).Noted := noted_markChanged e _

/-- A wait that is entered is noted, and so is the error of one that is not. -/
theorem enterStepWait_noted (step : ScenarioStep) (message : String) (entered : EspErr × Ctx)
    (h : entered.1 = .ok → entered.2.Noted) : (enterStepWait e step message entered).ctx.Noted := by
  unfold enterStepWait
  split
  · exact setError_noted e message _
  · next hok => exact h (Decidable.not_not.mp hok)

theorem executeStep_noted (nowMs : UInt32) (resolution : Option (List WaitEventMatch))
    (step : ScenarioStep) : (executeStep e nowMs resolution step c).ctx.Noted := by
  unfold executeStep
  cases step.body with
  | deviceCommand command => exact noted_markChanged e _
  | deviceCommandGroup group =>
    cases hplan : planScenarioCommandGroup e group nowMs c with
    | error err =>
      simp only [hplan]
      exact setError_noted e err.2 c
    | ok c₁ =>
      simp only [hplan]
      unfold planScenarioCommandGroup at hplan
      split at hplan
      · cases hplan
      · cases hplan
        exact noted_markChanged e (enterWaitCommandDispatch nowMs c)
  | waitTime wait => exact noted_markChanged e _
  | waitDeviceEvent wait =>
    exact enterStepWait_noted step _ _ (enterWaitDeviceEvent_noted wait resolution nowMs)
  | waitAnyDeviceEvent wait | waitAllDeviceEvents wait =>
    exact enterStepWait_noted step _ _ (enterWaitGroup_noted _ _ wait resolution nowMs)
  | waitFlags wait =>
    simp only
    split
    · next c₁ hok =>
        split
        · exact noted_markChanged e _
        · have hentered : c₁.Noted := enterWaitFlags_noted wait nowMs hok
          exact hentered
    · exact setError_noted e _ _
  | operatorApproval approval => exact noted_markChanged e _
  | showOperatorMessage message => exact noted_markChanged e _
  | setFlag flag =>
    simp only
    split
    · exact noted_markChanged e _
    · exact setError_noted e _ _
  | endGame => exact noted_markChanged e _
  | failReaction => exact setError_noted e _ _
  | resetReaction => exact setError_noted e _ _

theorem executeSteps_noted (nowMs : UInt32) (endIndex : Nat)
    (hend : endIndex ≤ e.scenario.steps.length) (resolution : Option (List WaitEventMatch))
    (budget : Nat) (h : 0 < budget ∨ c.Noted) :
    (executeSteps e nowMs endIndex resolution budget c).2.Noted := by
  induction budget generalizing c with
  | zero => exact h.resolve_left (Nat.lt_irrefl 0)
  | succ n ih =>
    unfold executeSteps
    split
    · exact noted_markChanged e _
    · next hbefore =>
        split
        · next hnone =>
            have hpast := List.getElem?_eq_none_iff.mp hnone
            omega
        · next step _ =>
            split
            · exact ih (.inr (noted_markChanged e _))
            have hturn := executeStep_noted (e := e) (c := c) nowMs resolution step
            cases ht : executeStep e nowMs resolution step c with
            | leave err c₁ =>
              rw [ht] at hturn
              exact hturn
            | again c₁ =>
              rw [ht] at hturn
              exact ih (.inr hturn)

theorem clampEndIndex_le (e : Env) (endIndex : Nat) :
    clampEndIndex e endIndex ≤ e.scenario.steps.length := by
  unfold clampEndIndex
  split
  · exact Nat.le_refl _
  · omega

theorem executeScenario_noted (nowMs : UInt32) {budget : Nat} (hbudget : 0 < budget)
    (endIndex : Nat) (resolution : Option (List WaitEventMatch)) :
    (executeScenario e nowMs budget endIndex resolution c).2.Noted :=
  executeSteps_noted nowMs _ (clampEndIndex_le e endIndex) resolution budget (.inl hbudget)

/-! ### Running a reaction -/

theorem enterReactiveWait_noted (index : Nat) (resolveError enterError : String)
    (enter : Option (List WaitEventMatch) → Ctx → EspErr × Ctx)
    (henter : ∀ found, (enter found c).1 = .ok → (enter found c).2.Noted) :
    (enterReactiveWait e index resolveError enterError enter c).ctx.Noted := by
  unfold enterReactiveWait
  split
  · exact setError_noted e resolveError c
  · next found _ =>
      have hentered := henter (some found)
      split
      · next c₁ hok =>
          rw [hok] at hentered
          exact hentered rfl
      · exact setError_noted e enterError _

theorem reactiveTurn_noted (nowMs : UInt32) (index : Nat) (action : ActionBody) (err : EspErr)
    (h : reactiveTurn e nowMs index action c = .leave err c') : c'.Noted := by
  have hwait : ∀ turn : ReactiveTurn, turn.ctx.Noted → turn = .leave err c' → c'.Noted := by
    rintro _ hturn rfl
    exact hturn
  unfold reactiveTurn at h
  cases action with
  | deviceCommand command =>
    cases h
    exact planReactiveCommand_noted .reactiveAction nowMs
  | deviceCommandGroup mode startIndex count =>
    simp only at h
    split at h
    · cases h
      exact setError_noted e _ c
    · cases h
      exact planReactiveCommand_noted .reactiveActionGroup nowMs
  | waitTime wait | failReaction | resetReaction =>
    cases h
    exact noted_markChanged e _
  | waitDeviceEvent wait =>
    exact hwait _ (enterReactiveWait_noted index _ _ _
      fun found => enterWaitDeviceEvent_noted wait found nowMs) h
  | waitAnyDeviceEvent wait | waitAllDeviceEvents wait =>
    exact hwait _ (enterReactiveWait_noted index _ _ _
      fun found => enterWaitGroup_noted _ _ wait found nowMs) h
  | waitFlags wait =>
    simp only at h
    split at h
    · next c₁ hok =>
        split at h
        · cases h
        cases h
        have hentered : c₁.Noted := enterWaitFlags_noted wait nowMs hok
        exact hentered
    · cases h
      exact setError_noted e _ _
  | setFlag flag =>
    simp only at h
    split at h
    · cases h
    · cases h
      exact setError_noted e _ _
  | showOperatorMessage message => cases h
  | operatorApproval | endGame =>
    cases h
    exact setError_noted e _ _

theorem reactiveLoop_noted (finish : Ctx → EspErr × Ctx) (nowMs : UInt32)
    (hfinish : ∀ c, (finish c).2.Noted) (budget : Nat) (c : Ctx) :
    (reactiveLoop finish e nowMs budget c).2.Noted := by
  induction budget generalizing c with
  | zero => exact noted_markChanged e _
  | succ n ih =>
    unfold reactiveLoop
    split
    · exact hfinish c
    simp only
    split
    · exact setError_noted e _ c
    · next action _ =>
        split
        · next err c₁ hturn => exact reactiveTurn_noted nowMs _ action err hturn
        · exact ih _

theorem finishWith_noted (fire : Ctx → EspErr × Ctx) (hfire : ∀ c, Moves e c (fire c).2)
    (model : ScenarioBranch) (nowMs : UInt32) (c : Ctx) :
    (finishWith fire e model nowMs c).2.Noted := by
  unfold finishWith
  split
  · simp only
    split
    · exact noted_markChanged e _
    split
    · exact (hfire _).noted (noted_markChanged e _)
    · exact noted_markChanged e _
  · exact setError_noted e _ _

theorem reactiveContinue_noted (depth : Nat) (nowMs : UInt32) (hv2 : e.isReactiveV2 = true)
    (hactive : e.setup.active = true) (c : Ctx) :
    (reactiveContinue (depth + 1) e nowMs c).2.Noted := by
  rcases Option.isSome_iff_exists.mp hv2 with ⟨model, hmodel⟩
  unfold reactiveContinue
  simp only [hmodel, hactive, Bool.not_true, Bool.false_eq_true, if_false]
  refine reactiveLoop_noted _ nowMs (fun c => finishWith_noted _ (fun c => ?_) model nowMs c) _ _
  exact Moves.kept.fireWith _ nowMs (fun _ => Moves.kept.reactiveContinue depth nowMs) .refl

theorem continueLocked_noted (nowMs : UInt32) (hv2 : e.isReactiveV2 = true)
    (hactive : e.setup.active = true) (c : Ctx) : (continueLocked e nowMs c).2.Noted :=
  reactiveContinue_noted _ nowMs hv2 hactive c

theorem finishLocked_noted (model : ScenarioBranch) (nowMs : UInt32) (c : Ctx) :
    (finishLocked e model nowMs c).2.Noted :=
  finishWith_noted _ (fun _ => Moves.fireLocked .refl nowMs) model nowMs c

theorem failReaction_noted (message : String) (c : Ctx) : (failReaction e message c).Noted :=
  noted_markChanged e _

theorem applyReactiveWaitTimeout_noted (action : ActionBody) (nowMs : UInt32)
    (hv2 : e.isReactiveV2 = true) (hactive : e.setup.active = true) (c : Ctx) :
    (applyReactiveWaitTimeout e action nowMs c).2.Noted := by
  unfold applyReactiveWaitTimeout
  split
  · exact failReaction_noted _ c
  · exact noted_markChanged e _
  · exact continueLocked_noted nowMs hv2 hactive _

theorem applyResultPolicy_noted (model : ScenarioBranch) (action : ResultAction) (nowMs : UInt32)
    (message : String) (c : Ctx) : (applyResultPolicy e model action nowMs message c).2.Noted := by
  unfold applyResultPolicy
  cases action with
  | «continue» => exact finishLocked_noted model nowMs c
  | setFlag =>
    simp only
    split
    · exact failReaction_noted _ c
    split
    · exact finishLocked_noted model nowMs _
    · exact failReaction_noted _ _
  | failScenario => exact noted_markChanged e _
  | retry => exact failReaction_noted _ c
  | failReaction => exact failReaction_noted _ c

theorem handleResultFailure_noted (status : String) (nowMs : UInt32)
    (hv2 : e.isReactiveV2 = true) (c : Ctx) : (handleResultFailure e status nowMs c).2.Noted := by
  rcases Option.isSome_iff_exists.mp hv2 with ⟨model, hmodel⟩
  unfold handleResultFailure
  simp only [hmodel]
  exact applyResultPolicy_noted model _ nowMs _ c

theorem handleResultSuccess_noted (nowMs : UInt32) (hv2 : e.isReactiveV2 = true)
    (hactive : e.setup.active = true) (c : Ctx) : (handleResultSuccess e nowMs c).2.Noted := by
  rcases Option.isSome_iff_exists.mp hv2 with ⟨model, hmodel⟩
  unfold handleResultSuccess
  simp only [hmodel]
  split
  · exact applyResultPolicy_noted model _ nowMs _ c
  · exact continueLocked_noted nowMs hv2 hactive _

end SceneHub
