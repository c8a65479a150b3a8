import SceneHub.Storage.Validation

/-!
# Two Checks of a Scenario

The structural check and the static report go through a scenario each in its
own way. They share most rules, and on these they agree: each passes a scenario
that breaks none of them. The structural check has four rules more. It limits
the tables of reactions, it asks whether the type and the reentry mode of a
branch are listed, and it turns down steps that only a reaction may take.

## Main definitions

* `SharedRules`: The rules both checks have.
* `StructuralRules`: The rules only the structural check has.

## Theorems

* `checkEach_valid`: Checking a list item by item.
* `static_valid_iff`: What the report calls valid.
* `structural_ok_iff`: What the structural check passes.
* `validators_agree_iff`: When the two agree.
-/

namespace SceneHub.Stored

def StepData.isControl : StepData → Bool
  | .failReaction | .resetReaction => true
  | _ => false

/-- The rules both checks have. -/
structure SharedRules (s : RawScenario) : Prop where
  named : s.record.id ≠ "" ∧ s.record.name ≠ "" ∧ s.record.roomId ≠ ""
  stepCount : s.record.steps.length ≤ maxSteps
  branchCount : s.branches.length ≤ maxBranches
  stepIds : hasDuplicateStepIds s.record = false
  branchIds : hasDuplicateBranchIds s.record = false
  branches : ∀ b ∈ s.branches, b.1.id ≠ "" ∧ b.1.name ≠ "" ∧
    validateBranch s.record (b.1.withCodes b.2) = .ok
  steps : ∀ step ∈ s.record.steps, step.id ≠ "" ∧
    (step.data.isControl = true ∨ validStep step = true)

/-- The rules only the structural check has. -/
structure StructuralRules (s : RawScenario) : Prop where
  variants : s.record.reactiveVariants.length ≤ maxReactiveVariants
  actions : s.record.reactiveActions.length ≤ maxReactiveActions
  groupCommands : s.record.reactiveGroupCommands.length ≤ maxReactiveGroupCommands
  listed : ∀ b ∈ s.branches, b.2.listedType = true ∧ b.2.listedReentry = true
  steps : ∀ step ∈ s.record.steps, step.data.isControl = false

/-! ### The report -/

@[simp] theorem addError_valid (r : Report) (i : Nat) (code message : String) :
    (r.addError i code message).valid = false := by
  unfold Report.addError Report.addIssue
  simp

@[simp] theorem addReactiveError_valid (r : Report) (place : ReactionPlace)
    (code message : String) : (r.addReactiveError place code message).valid = false := by
  unfold Report.addReactiveError Report.addIssue
  simp

@[simp] theorem errorIf_valid (r : Report) (bad : Bool) (i : Nat) (code message : String) :
    (r.errorIf bad i code message).valid = (r.valid && !bad) := by
  unfold Report.errorIf
  cases bad <;> simp

@[simp] theorem reactiveErrorIf_valid (r : Report) (bad : Bool) (place : ReactionPlace)
    (code message : String) : (r.reactiveErrorIf bad place code message).valid =
      (r.valid && !bad) := by
  unfold Report.reactiveErrorIf
  cases bad <;> simp

@[simp] theorem place_valid (r : Report) (base : Nat) (place : ReactionPlace) :
    (r.place base place).valid = r.valid := rfl

theorem checkEach_valid {α : Type} {check : α → Nat → Report → Report} {ok : α → Nat → Bool}
    (h : ∀ a i r, (check a i r).valid = (r.valid && ok a i)) (items : List α) (r : Report) :
    (checkEach check items r).valid = (r.valid && items.zipIdx.all fun item => ok item.1 item.2) := by
  unfold checkEach
  induction items.zipIdx generalizing r with
  | nil => simp
  | cons item rest ih =>
    rw [List.foldl_cons, ih, h, List.all_cons, Bool.and_assoc]

theorem all_zipIdx {α : Type} (ok : α → Bool) (items : List α) :
    (items.zipIdx.all fun item => ok item.1) = items.all ok := by
  have hmap : (items.zipIdx.map Prod.fst).all ok = items.zipIdx.all fun item => ok item.1 :=
    List.all_map
  rw [← hmap, List.zipIdx_map_fst]

/-- The same where the number of the item does not matter. -/
theorem checkEach_valid_all {α : Type} {check : α → Nat → Report → Report} {ok : α → Bool}
    (h : ∀ a i r, (check a i r).valid = (r.valid && ok a)) (items : List α) (r : Report) :
    (checkEach check items r).valid = (r.valid && items.all ok) := by
  have hall := @checkEach_valid _ _ (fun a _ => ok a) h items r
  rw [hall, all_zipIdx]

@[simp] theorem checkDeviceCommand_valid (command : DeviceCommand) (i : Nat) (name : String)
    (r : Report) :
    (checkDeviceCommand command i name r).valid = (r.valid && validDeviceCommand command) := by
  unfold checkDeviceCommand validDeviceCommand
  split
  · next h => simp [h]
  · next h => simp [h]

@[simp] theorem checkWaitDeviceEvent_valid (wait : WaitDeviceEvent) (i : Nat) (name : String)
    (r : Report) :
    (checkWaitDeviceEvent wait i name r).valid = (r.valid && validEventRef wait) := by
  unfold checkWaitDeviceEvent validEventRef
  split
  · next h => simp [h]
  · next h => simp [h]

theorem checkGroup_valid {α : Type} {max : Nat} {code items : String}
    {check : α → Nat → Report → Report} {ok : α → Bool}
    (h : ∀ a i r, (check a i r).valid = (r.valid && ok a)) (group : List α) (i : Nat) (r : Report) :
    (checkGroup max code items check group i r).valid = (r.valid && validGroup max ok group) := by
  unfold checkGroup validGroup
  split
  · next hempty => simp [hempty]
  · next hempty =>
      split
      · next hlong =>
          have hlong' : ¬ group.length ≤ max := Nat.not_le.2 hlong
          simp [hlong']
      · next hlong =>
          have hlong' : group.length ≤ max := Nat.not_lt.1 hlong
          rw [checkEach_valid_all h]
          simp [hempty, hlong']

/-! ### Reactions -/

theorem checkReactiveAction_valid (s : Scenario) (action : Action) (place : ReactionPlace)
    (r : Report) :
    (checkReactiveAction s action place r).valid = (r.valid && validReactiveAction s action) := by
  unfold checkReactiveAction validReactiveAction
  cases hdata : action.data with
  | deviceCommand command => simp
  | deviceCommandGroup mode startIndex count =>
    simp only
    cases hslice : slice s.reactiveGroupCommands startIndex count with
    | none => simp
    | some commands =>
      simp only
      split
      · next hzero => simp [hzero]
      · next hzero =>
          rw [place_valid, checkEach_valid_all fun c _ r => checkDeviceCommand_valid c _ _ r]
          simp [hzero]
  | waitTime wait =>
    have hpos : (!decide (wait.durationMs = 0)) = decide (0 < wait.durationMs) := by
      rw [← decide_not]
      exact decide_eq_decide.2 UInt32.pos_iff_ne_zero.symm
    simp [hpos]
  | setFlag flag => simp
  | showOperatorMessage message => simp
  | failReaction | resetReaction => simp
  | _ => simp

/-- What the variant loop asks of a variant. -/
def validVariant (s : Scenario) (variant : Variant) : Bool :=
  variant.id ≠ "" && variant.actionCount ≠ 0 &&
  (slice s.reactiveActions variant.actionStartIndex variant.actionCount).any fun actions =>
    actions.all (validReactiveAction s)

theorem checkVariant_valid (s : Scenario) (place : ReactionPlace) (variant : Variant) (i : Nat)
    (r : Report) :
    (checkVariant s place variant i r).valid = (r.valid && validVariant s variant) := by
  unfold checkVariant validVariant
  cases hslice : slice s.reactiveActions variant.actionStartIndex variant.actionCount with
  | none => simp
  | some actions =>
    simp only
    split
    · next hzero => simp [hzero]
    · next hzero =>
        rw [checkEach_valid_all fun a _ r => checkReactiveAction_valid s a _ r]
        simp [hzero, Bool.and_assoc]

theorem checkOnComplete_valid (s : Scenario) (place : ReactionPlace) (action : Action) (i : Nat)
    (r : Report) : (checkOnComplete s place action i r).valid =
      (r.valid && (!action.data.isControl && validReactiveAction s action)) := by
  unfold checkOnComplete
  split
  · next hcontrol => simp [hcontrol]
  · next hcontrol =>
      rw [checkReactiveAction_valid]
      simp [hcontrol]

theorem checkReactiveBranchV2_valid (s : Scenario) (branch : Branch) (r : Report) :
    (checkReactiveBranchV2 s branch r).valid =
      (r.valid && validReactiveBranchV2 s branch.reaction) := by
  unfold checkReactiveBranchV2 validReactiveBranchV2
  simp only
  cases hvariants : slice s.reactiveVariants branch.reaction.variantStartIndex
      branch.reaction.variantCount with
  | none => simp
  | some variants =>
    simp only
    split
    · next hzero => simp [hzero]
    · next hzero =>
        have hguard : ∀ (flag : Flag) (i : Nat) (r : Report) (place : ReactionPlace),
            (r.reactiveErrorIf (flag.name = "") place "REACTIVE_GUARD_FLAG_EMPTY"
              "Reactive guard flag name is empty").valid =
              (r.valid && decide (flag.name ≠ "")) := by
          intro flag i r place
          simp
        have hvariant : validVariant s = fun variant =>
            (decide (variant.id ≠ "") && decide (variant.actionCount ≠ 0) &&
              (slice s.reactiveActions variant.actionStartIndex variant.actionCount).any
                fun actions => actions.all (validReactiveAction s)) := rfl
        cases hcomplete : slice s.reactiveActions branch.reaction.onCompleteActionStartIndex
            branch.reaction.onCompleteActionCount with
        | none => simp
        | some actions =>
          rw [checkEach_valid_all fun a i r => checkOnComplete_valid s _ a i r,
            checkEach_valid_all fun v i r => checkVariant_valid s _ v i r,
            checkEach_valid_all fun flag i r => hguard flag i r _]
          simp [hvariant, reactiveErrorIf_valid, hzero, Bool.and_assoc]

/-! ### Steps -/

/-- What both checks ask of the data of a step. -/
def sharedStepData (data : StepData) : Bool := data.isControl || validStep { id := "x", data }

theorem checkStepData_valid (data : StepData) (i : Nat) (r : Report) :
    (checkStepData data i r).valid = (r.valid && sharedStepData data) := by
  have hid : decide ("x" ≠ "") = true := by decide
  unfold checkStepData sharedStepData validStep StepData.isControl
  cases data with
  | waitTime wait =>
    have hpos : (!decide (wait.durationMs = 0)) = decide (0 < wait.durationMs) := by
      rw [← decide_not]
      exact decide_eq_decide.2 UInt32.pos_iff_ne_zero.symm
    simp [hpos]
  | deviceCommandGroup group =>
    exact checkGroup_valid (fun c k r => checkDeviceCommand_valid c i _ r) group.commands i r
  | waitAnyDeviceEvent wait | waitAllDeviceEvents wait =>
    exact checkGroup_valid (fun e k r => checkWaitDeviceEvent_valid e i _ r) wait.events i r
  | waitFlags wait =>
    unfold validGroup
    simp only [Bool.false_or]
    split
    · next hempty => simp [hempty]
    · next hempty =>
        split
        · next hlong =>
            have hlong' : ¬ wait.flags.length ≤ waitFlagsMaxFlags := Nat.not_le.2 hlong
            simp [hlong']
        · next hlong =>
            have hlong' : wait.flags.length ≤ waitFlagsMaxFlags := Nat.not_lt.1 hlong
            rw [errorIf_valid, List.not_any_eq_all_not]
            simp [hempty, hlong']
  | _ => simp

theorem sharedStepData_iff (step : Step) (hid : step.id ≠ "") :
    sharedStepData step.data = true ↔ step.data.isControl = true ∨ validStep step = true := by
  have hx : decide ("x" ≠ "") = true := by decide
  unfold sharedStepData validStep
  simp [hx, hid]

/-! ### Repeated ids -/

theorem any_drop_iff {α : Type} (p : α → Bool) (items : List α) (i : Nat) :
    (items.drop (i + 1)).any p = true ↔ ∃ j b, i < j ∧ items[j]? = some b ∧ p b = true := by
  rw [List.any_eq_true]
  constructor
  · rintro ⟨b, hmem, hb⟩
    rcases List.mem_iff_getElem?.1 hmem with ⟨k, hk⟩
    rw [List.getElem?_drop] at hk
    exact ⟨i + 1 + k, b, by omega, hk, hb⟩
  rintro ⟨j, b, hlt, hj, hb⟩
  refine ⟨b, List.mem_iff_getElem?.2 ⟨j - (i + 1), ?_⟩, hb⟩
  rw [List.getElem?_drop]
  have heq : i + 1 + (j - (i + 1)) = j := by omega
  rw [heq]
  exact hj

/-- Looking for a pair with the same id, from the later of the two. -/
theorem any_range_iff {α : Type} (id : α → String) (share : Nat → Nat → Bool) (items : List α) :
    ((List.range items.length).any fun j => (List.range j).any fun i =>
        share i j && (items[i]?).map id = (items[j]?).map id) = true ↔
      ∃ i j a b, i < j ∧ items[i]? = some a ∧ items[j]? = some b ∧ share i j = true ∧
        id a = id b := by
  simp only [List.any_eq_true, List.mem_range, Bool.and_eq_true, decide_eq_true_eq]
  constructor
  · rintro ⟨j, hj, i, hi, hshare, heq⟩
    have hi' : i < items.length := by omega
    rw [List.getElem?_eq_getElem hi', List.getElem?_eq_getElem hj] at heq
    exact ⟨i, j, items[i], items[j], hi, List.getElem?_eq_getElem hi',
      List.getElem?_eq_getElem hj, hshare, Option.some.inj heq⟩
  · rintro ⟨i, j, a, b, hlt, ha, hb, hshare, heq⟩
    rcases List.getElem?_eq_some_iff.1 hb with ⟨hj, -⟩
    refine ⟨j, hj, i, hlt, hshare, ?_⟩
    rw [ha, hb, Option.map_some, Option.map_some, heq]

/-- The issue the report writes for a step whose id a later step repeats. -/
def stepRepeats (s : RawScenario) (step : Step) (i : Nat) : Bool :=
  step.id ≠ "" && (s.record.steps.zipIdx.drop (i + 1)).any fun other =>
    stepsShareBranch s.record i other.2 && step.id = other.1.id

/-- The issue the report writes for a branch whose id a later branch repeats. -/
def branchRepeats (s : RawScenario) (branch : Branch) (i : Nat) : Bool :=
  branch.id ≠ "" && (s.record.branches.drop (i + 1)).any fun other => branch.id = other.id

theorem stepRepeats_iff (s : RawScenario) (hids : ∀ step ∈ s.record.steps, step.id ≠ "") :
    (∀ i step, s.record.steps[i]? = some step → stepRepeats s step i = false) ↔
      hasDuplicateStepIds s.record = false := by
  unfold hasDuplicateStepIds
  rw [← Bool.not_eq_true, any_range_iff Step.id (stepsShareBranch s.record)]
  constructor
  · rintro hnone ⟨i, j, a, b, hlt, ha, hb, hshare, heq⟩
    have hfree := hnone i a ha
    have hlater : stepRepeats s a i = true := by
      unfold stepRepeats
      rw [Bool.and_eq_true, any_drop_iff]
      refine ⟨decide_eq_true (hids a (List.mem_of_getElem? ha)), j, (b, j), hlt, ?_, ?_⟩
      · rw [List.getElem?_zipIdx, hb]
        simp
      · simp [hshare, heq]
    rw [hlater] at hfree
    cases hfree
  intro hnone i a ha
  rw [← Bool.not_eq_true]
  intro hrepeats
  unfold stepRepeats at hrepeats
  rw [Bool.and_eq_true, any_drop_iff] at hrepeats
  rcases hrepeats.2 with ⟨j, ⟨b, k⟩, hlt, hj, hsame⟩
  rw [List.getElem?_zipIdx, Option.map_eq_some_iff] at hj
  rcases hj with ⟨b', hb, heq⟩
  cases heq
  rw [Bool.and_eq_true, decide_eq_true_eq, Nat.zero_add] at hsame
  exact hnone ⟨i, j, a, b, hlt, ha, hb, hsame.1, hsame.2⟩

theorem branchRepeats_iff (s : RawScenario) (hids : ∀ b ∈ s.record.branches, b.id ≠ "") :
    (∀ i b, s.record.branches[i]? = some b → branchRepeats s b i = false) ↔
      hasDuplicateBranchIds s.record = false := by
  have hdup : hasDuplicateBranchIds s.record =
      (List.range s.record.branches.length).any fun j => (List.range j).any fun i =>
        true && ((s.record.branches[i]?).map Branch.id = (s.record.branches[j]?).map Branch.id :
          Bool) := by
    simp [hasDuplicateBranchIds]
  rw [hdup, ← Bool.not_eq_true, any_range_iff Branch.id fun _ _ => true]
  constructor
  · rintro hnone ⟨i, j, a, b, hlt, ha, hb, -, heq⟩
    have hfree := hnone i a ha
    have hlater : branchRepeats s a i = true := by
      unfold branchRepeats
      rw [Bool.and_eq_true, any_drop_iff]
      exact ⟨decide_eq_true (hids a (List.mem_of_getElem? ha)), j, b, hlt, hb, decide_eq_true heq⟩
    rw [hlater] at hfree
    cases hfree
  · intro hnone i a ha
    rw [← Bool.not_eq_true]
    intro hrepeats
    unfold branchRepeats at hrepeats
    rw [Bool.and_eq_true, any_drop_iff] at hrepeats
    rcases hrepeats.2 with ⟨j, b, hlt, hb, hsame⟩
    exact hnone ⟨i, j, a, b, hlt, ha, hb, rfl, of_decide_eq_true hsame⟩

/-! ### Branches -/

/-- What both checks ask of a reactive branch. -/
def validReactiveBranch (s : Scenario) (branch : Branch) : Bool :=
  if branch.isReactiveV2 then validReactiveBranchV2 s branch.reaction
  else match branchFirstStep s branch with
    | none => false
    | some first =>
      first.data.isReactiveTrigger &&
      match first.data with
      | .waitFlags _ => !(!branch.runOnce && branch.maxFireCount = 0 && branch.cooldownMs = 0)
      | _ => true

/-- What both checks ask of a branch, apart from its id being its own. -/
def sharedBranch (s : Scenario) (branch : Branch × BranchCodes) : Bool :=
  branch.1.id ≠ "" && branch.1.name ≠ "" &&
  branch.1.stepStartIndex + branch.1.stepCount ≤ s.steps.length &&
  (!branch.2.isReactive || validReactiveBranch s branch.1)

theorem validateBranch_ok_iff (s : Scenario) (branch : Branch × BranchCodes) :
    branch.1.id ≠ "" ∧ branch.1.name ≠ "" ∧ validateBranch s (branch.1.withCodes branch.2) = .ok ↔
      sharedBranch s branch = true := by
  have harg : EspErr.invalidArg ≠ .ok := by decide
  have hsize : EspErr.invalidSize ≠ .ok := by decide
  unfold sharedBranch
  by_cases hid : branch.1.id = ""
  · simp [hid]
  by_cases hname : branch.1.name = ""
  · simp [hname]
  have hnamed : ¬ ((branch.1.withCodes branch.2).id = "" ∨
      (branch.1.withCodes branch.2).name = "") := by
    rintro (h | h)
    · exact hid h
    · exact hname h
  by_cases hrange : s.steps.length < branch.1.stepStartIndex + branch.1.stepCount
  · have hlt : ¬ branch.1.stepStartIndex + branch.1.stepCount ≤ s.steps.length :=
      Nat.not_le.2 hrange
    have herr : validateBranch s (branch.1.withCodes branch.2) = .invalidSize := by
      unfold validateBranch
      rw [if_neg hnamed]
      exact if_pos hrange
    simp [herr, hsize, hlt]
  have hle : branch.1.stepStartIndex + branch.1.stepCount ≤ s.steps.length :=
    Nat.not_lt.1 hrange
  simp only [hid, hname, hle, ne_eq, not_false_eq_true, true_and, decide_true, Bool.true_and]
  unfold validateBranch
  rw [if_neg hnamed, if_neg (show ¬ s.steps.length <
    (branch.1.withCodes branch.2).stepStartIndex + (branch.1.withCodes branch.2).stepCount
    from hrange)]
  cases hreactive : branch.2.isReactive with
  | false =>
    have htype : (branch.1.withCodes branch.2).type ≠ .reactive := by
      unfold Branch.withCodes
      simp [hreactive]
    rw [if_pos htype]
    simp
  | true =>
    have htype : ¬ (branch.1.withCodes branch.2).type ≠ .reactive := by
      unfold Branch.withCodes
      simp [hreactive]
    rw [if_neg htype]
    have hv2 : (branch.1.withCodes branch.2).isReactiveV2 = branch.1.isReactiveV2 := rfl
    have hreaction : (branch.1.withCodes branch.2).reaction = branch.1.reaction := rfl
    have hfirst : branchFirstStep s (branch.1.withCodes branch.2) = branchFirstStep s branch.1 :=
      rfl
    unfold validReactiveBranch
    rw [hv2, hreaction, hfirst]
    split
    · -- variants or a trigger
      split
      · next h => simp [h]
      · next h => simp [harg, h]
    -- steps
    have honce : (branch.1.withCodes branch.2).runOnce = branch.1.runOnce := rfl
    have hfires : (branch.1.withCodes branch.2).maxFireCount = branch.1.maxFireCount := rfl
    have hcooldown : (branch.1.withCodes branch.2).cooldownMs = branch.1.cooldownMs := rfl
    rw [honce, hfires, hcooldown]
    cases hstep : branchFirstStep s branch.1 with
    | none => simp [harg]
    | some first =>
      simp only
      cases hdata : first.data with
      | waitFlags wait =>
        simp only [StepData.isReactiveTrigger, Bool.not_true, Bool.false_eq_true, if_false,
          Bool.true_and]
        split
        · next h => simp [harg, h]
        · next h =>
            have hfree : (!(!branch.1.runOnce && decide (branch.1.maxFireCount = 0) &&
                decide (branch.1.cooldownMs = 0))) = true := by
              rw [Bool.not_eq_true', ← Bool.not_eq_true]
              intro hc
              simp only [Bool.and_eq_true, decide_eq_true_eq] at hc
              exact h ⟨hc.1.1, hc.1.2, hc.2⟩
            simp [hfree]
      | _ => simp [StepData.isReactiveTrigger, harg]

theorem checkBranch_valid (s : RawScenario) (branch : Branch × BranchCodes) (i : Nat) (r : Report) :
    (checkBranch s branch i r).valid =
      (r.valid && (sharedBranch s.record branch && !branchRepeats s branch.1 i)) := by
  have hrange : (!decide (s.record.steps.length < branch.1.stepStartIndex + branch.1.stepCount)) =
      decide (branch.1.stepStartIndex + branch.1.stepCount ≤ s.record.steps.length) := by
    rw [← decide_not]
    exact decide_eq_decide.2 Nat.not_lt
  have hwarning : ∀ (r : Report) (i : Nat) (code message : String),
      (r.addIssue .warning i code message).valid = r.valid := by
    intro r i code message
    unfold Report.addIssue
    simp
  have hrepeats : (decide (branch.1.id ≠ "") && (s.record.branches.drop (i + 1)).any fun other =>
      decide (branch.1.id = other.id)) = branchRepeats s branch.1 i := rfl
  unfold checkBranch sharedBranch validReactiveBranch
  cases hreactive : branch.2.isReactive with
  | false =>
    simp only [Bool.not_false, if_true, errorIf_valid, hrange, ← decide_not, ne_eq,
      Bool.true_or, Bool.and_true]
    ac_rfl
  | true =>
    simp only [Bool.not_true, Bool.false_eq_true, if_false, Bool.false_or]
    split
    · -- variants or a trigger
      rw [checkReactiveBranchV2_valid]
      split <;>
        · simp only [hwarning, errorIf_valid, hrange, ← decide_not, ne_eq]
          ac_rfl
    -- steps
    cases hstep : branchFirstStep s.record branch.1 with
    | none => simp
    | some first =>
      simp only
      cases hdata : first.data with
      | waitFlags wait =>
        simp only [StepData.isReactiveTrigger, Bool.not_true, Bool.false_eq_true, if_false,
          Bool.true_and]
        split <;>
          · simp only [hwarning, errorIf_valid, hrange, ← decide_not, ne_eq]
            ac_rfl
      | waitDeviceEvent wait | waitAnyDeviceEvent wait | waitAllDeviceEvents wait =>
        simp only [StepData.isReactiveTrigger, Bool.not_true, Bool.false_eq_true, if_false,
          Bool.and_true]
        split <;>
          · simp only [hwarning, errorIf_valid, hrange, ← decide_not, ne_eq]
            ac_rfl
      | _ => simp [StepData.isReactiveTrigger]

theorem checkStep_valid (s : RawScenario) (step : Step) (i : Nat) (r : Report) :
    (checkStep s step i r).valid =
      (r.valid && (decide (step.id ≠ "") && sharedStepData step.data && !stepRepeats s step i)) := by
  have hrepeats : (decide (step.id ≠ "") && (s.record.steps.zipIdx.drop (i + 1)).any fun other =>
      stepsShareBranch s.record i other.2 && decide (step.id = other.1.id)) =
      stepRepeats s step i := rfl
  unfold checkStep
  simp only [hrepeats, checkStepData_valid, errorIf_valid, ← decide_not, ne_eq]
  ac_rfl

/-! ### The two checks -/

theorem all_zipIdx_iff {α : Type} (p : α → Nat → Bool) (items : List α) :
    (items.zipIdx.all fun item => p item.1 item.2) = true ↔
      ∀ i a, items[i]? = some a → p a i = true := by
  rw [List.all_eq_true]
  constructor
  · intro h i a hi
    refine h (a, i) (List.mem_iff_getElem?.2 ⟨i, ?_⟩)
    rw [List.getElem?_zipIdx, hi]
    simp
  rintro h ⟨a, i⟩ hmem
  rcases List.mem_iff_getElem?.1 hmem with ⟨k, hk⟩
  rw [List.getElem?_zipIdx, Option.map_eq_some_iff] at hk
  rcases hk with ⟨b, hb, heq⟩
  cases heq
  rw [Nat.zero_add]
  exact h k a hb

section

variable (s : RawScenario)

theorem branches_getElem? {i : Nat} {b : Branch × BranchCodes}
    (h : s.branches[i]? = some b) : s.record.branches[i]? = some b.1 := by
  exact (List.getElem?_zip_eq_some.1 h).1

theorem exists_branch {i : Nat} {branch : Branch}
    (h : s.record.branches[i]? = some branch) : ∃ codes, s.branches[i]? = some (branch, codes) := by
  rcases List.getElem?_eq_some_iff.1 h with ⟨hlt, -⟩
  rw [← s.aligned] at hlt
  refine ⟨s.codes[i], ?_⟩
  exact List.getElem?_zip_eq_some.2 ⟨h, List.getElem?_eq_getElem hlt⟩

theorem steps_shared_iff :
    (∀ i step, s.record.steps[i]? = some step →
        (decide (step.id ≠ "") && sharedStepData step.data && !stepRepeats s step i) = true) ↔
      hasDuplicateStepIds s.record = false ∧ ∀ step ∈ s.record.steps, step.id ≠ "" ∧
        (step.data.isControl = true ∨ validStep step = true) := by
  simp only [Bool.and_eq_true, Bool.not_eq_true', decide_eq_true_eq]
  constructor
  · intro h
    have hids : ∀ step ∈ s.record.steps, step.id ≠ "" := by
      intro step hmem
      rcases List.mem_iff_getElem?.1 hmem with ⟨i, hi⟩
      exact (h i step hi).1.1
    refine ⟨(stepRepeats_iff s hids).1 fun i step hi => (h i step hi).2, fun step hmem => ?_⟩
    rcases List.mem_iff_getElem?.1 hmem with ⟨i, hi⟩
    exact ⟨hids step hmem, (sharedStepData_iff step (hids step hmem)).1 (h i step hi).1.2⟩
  · rintro ⟨hdup, hsteps⟩ i step hi
    have hids : ∀ step ∈ s.record.steps, step.id ≠ "" := fun step hmem => (hsteps step hmem).1
    have hmem := List.mem_of_getElem? hi
    exact ⟨⟨hids step hmem, (sharedStepData_iff step (hids step hmem)).2 (hsteps step hmem).2⟩,
      (stepRepeats_iff s hids).2 hdup i step hi⟩

theorem branches_shared_iff :
    (∀ i b, s.branches[i]? = some b →
        (sharedBranch s.record b && !branchRepeats s b.1 i) = true) ↔
      hasDuplicateBranchIds s.record = false ∧ ∀ b ∈ s.branches, b.1.id ≠ "" ∧ b.1.name ≠ "" ∧
        validateBranch s.record (b.1.withCodes b.2) = .ok := by
  simp only [Bool.and_eq_true, Bool.not_eq_true']
  constructor
  · intro h
    have hrules : ∀ b ∈ s.branches, b.1.id ≠ "" ∧ b.1.name ≠ "" ∧
        validateBranch s.record (b.1.withCodes b.2) = .ok := by
      intro b hmem
      rcases List.mem_iff_getElem?.1 hmem with ⟨i, hi⟩
      exact (validateBranch_ok_iff s.record b).2 (h i b hi).1
    have hids : ∀ b ∈ s.record.branches, b.id ≠ "" := by
      intro b hmem
      rcases List.mem_iff_getElem?.1 hmem with ⟨i, hi⟩
      rcases exists_branch s hi with ⟨codes, hc⟩
      exact (hrules _ (List.mem_of_getElem? hc)).1
    refine ⟨(branchRepeats_iff s hids).1 fun i b hi => ?_, hrules⟩
    rcases exists_branch s hi with ⟨codes, hc⟩
    exact (h i _ hc).2
  · rintro ⟨hdup, hrules⟩ i b hi
    have hids : ∀ b ∈ s.record.branches, b.id ≠ "" := by
      intro b hmem
      rcases List.mem_iff_getElem?.1 hmem with ⟨k, hk⟩
      rcases exists_branch s hk with ⟨codes, hc⟩
      exact (hrules _ (List.mem_of_getElem? hc)).1
    exact ⟨(validateBranch_ok_iff s.record b).1 (hrules b (List.mem_of_getElem? hi)),
      (branchRepeats_iff s hids).2 hdup i b.1 (branches_getElem? s hi)⟩

/-- The report calls a scenario valid if and only if it keeps the shared rules. -/
theorem static_valid_iff : s.validateStatic.valid = true ↔ SharedRules s := by
  unfold RawScenario.validateStatic
  by_cases hsteps : maxSteps < s.record.steps.length
  · rw [if_pos hsteps, addError_valid]
    exact ⟨fun h => absurd h (by decide), fun h => absurd h.stepCount (Nat.not_le.2 hsteps)⟩
  rw [if_neg hsteps]
  by_cases hbranches : maxBranches < s.branches.length
  · rw [if_pos hbranches, addError_valid]
    exact ⟨fun h => absurd h (by decide), fun h => absurd h.branchCount (Nat.not_le.2 hbranches)⟩
  rw [if_neg hbranches, checkEach_valid fun step i r => checkStep_valid s step i r,
    checkEach_valid fun b i r => checkBranch_valid s b i r, Bool.and_eq_true, Bool.and_eq_true,
    all_zipIdx_iff fun step i =>
      decide (step.id ≠ "") && sharedStepData step.data && !stepRepeats s step i,
    all_zipIdx_iff fun b i => sharedBranch s.record b && !branchRepeats s b.1 i,
    steps_shared_iff, branches_shared_iff]
  simp only [errorIf_valid, Bool.true_and, Bool.and_eq_true, Bool.not_eq_true',
    decide_eq_false_iff_not]
  constructor
  · rintro ⟨⟨⟨⟨hid, hroom⟩, hname⟩, hbranchIds, hbranch⟩, hstepIds, hstep⟩
    exact ⟨⟨hid, hname, hroom⟩, Nat.not_lt.1 hsteps, Nat.not_lt.1 hbranches, hstepIds, hbranchIds,
      hbranch, hstep⟩
  · intro h
    exact ⟨⟨⟨⟨h.named.1, h.named.2.2⟩, h.named.2.1⟩, h.branchIds, h.branches⟩, h.stepIds, h.steps⟩

end

theorem validateRawBranch_ok_iff (s : Scenario) (branch : Branch × BranchCodes) :
    validateRawBranch s branch = .ok ↔
      (branch.1.id ≠ "" ∧ branch.1.name ≠ "" ∧
        validateBranch s (branch.1.withCodes branch.2) = .ok) ∧
      (branch.2.listedType = true ∧ branch.2.listedReentry = true) := by
  have harg : EspErr.invalidArg ≠ .ok := by decide
  unfold validateRawBranch
  by_cases hnamed : branch.1.id = "" ∨ branch.1.name = ""
  · rw [if_pos hnamed]
    refine ⟨fun h => absurd h harg, fun h => ?_⟩
    rcases hnamed with hid | hname
    · exact absurd hid h.1.1
    · exact absurd hname h.1.2.1
  rw [if_neg hnamed]
  rcases not_or.1 hnamed with ⟨hid, hname⟩
  cases htype : branch.2.listedType with
  | false => simp [harg]
  | true =>
    cases hreentry : branch.2.listedReentry with
    | false => simp [harg]
    | true => simp [hid, hname]

theorem validStep_iff (step : Step) : validStep step = true ↔
      (step.id ≠ "" ∧ (step.data.isControl = true ∨ validStep step = true)) ∧
        step.data.isControl = false := by
  constructor
  · intro h
    have hid : step.id ≠ "" := by
      unfold validStep at h
      rw [Bool.and_eq_true] at h
      exact of_decide_eq_true h.1
    refine ⟨⟨hid, Or.inr h⟩, ?_⟩
    unfold validStep at h
    cases hdata : step.data with
    | failReaction | resetReaction => simp [hdata] at h
    | _ => rfl
  · rintro ⟨⟨-, hcontrol | hvalid⟩, hnot⟩
    · rw [hnot] at hcontrol
      cases hcontrol
    · exact hvalid

/-- The structural check passes a scenario if and only if it keeps the shared rules
    and its own. -/
theorem structural_ok_iff (s : RawScenario) :
    s.validateStructural = .ok ↔ SharedRules s ∧ StructuralRules s := by
  have harg : EspErr.invalidArg ≠ .ok := by decide
  have hsize : EspErr.invalidSize ≠ .ok := by decide
  unfold RawScenario.validateStructural
  by_cases hnamed : s.record.id = "" ∨ s.record.name = "" ∨ s.record.roomId = ""
  · rw [if_pos hnamed]
    refine ⟨fun h => absurd h harg, fun h => ?_⟩
    have hall := h.1.named
    rcases hnamed with hid | hname | hroom
    · exact absurd hid hall.1
    · exact absurd hname hall.2.1
    · exact absurd hroom hall.2.2
  rw [if_neg hnamed]
  by_cases hsteps : maxSteps < s.record.steps.length
  · rw [if_pos hsteps]
    exact ⟨fun h => absurd h hsize, fun h => absurd h.1.stepCount (Nat.not_le.2 hsteps)⟩
  rw [if_neg hsteps]
  by_cases htables : maxReactiveVariants < s.record.reactiveVariants.length ∨
      maxReactiveActions < s.record.reactiveActions.length ∨
      maxReactiveGroupCommands < s.record.reactiveGroupCommands.length
  · rw [if_pos htables]
    refine ⟨fun h => absurd h hsize, fun h => ?_⟩
    rcases htables with hvariants | hactions | hcommands
    · exact absurd h.2.variants (Nat.not_le.2 hvariants)
    · exact absurd h.2.actions (Nat.not_le.2 hactions)
    · exact absurd h.2.groupCommands (Nat.not_le.2 hcommands)
  rw [if_neg htables]
  by_cases hbranches : maxBranches < s.branches.length
  · rw [if_pos hbranches]
    exact ⟨fun h => absurd h hsize, fun h => absurd h.1.branchCount (Nat.not_le.2 hbranches)⟩
  rw [if_neg hbranches]
  cases hstepIds : hasDuplicateStepIds s.record with
  | true =>
    refine ⟨fun h => absurd h harg, fun h => ?_⟩
    have hno := h.1.stepIds
    rw [hstepIds] at hno
    cases hno
  | false =>
    cases hbranchIds : hasDuplicateBranchIds s.record with
    | true =>
      refine ⟨fun h => absurd h harg, fun h => ?_⟩
      have hno := h.1.branchIds
      rw [hbranchIds] at hno
      cases hno
    | false =>
      simp only [Bool.false_eq_true, if_false]
      have hfound : (s.branches.map (validateRawBranch s.record)).find?
          (fun err => err ≠ .ok) = none ↔
          ∀ b ∈ s.branches, validateRawBranch s.record b = .ok := by
        simp
      cases hfind : (s.branches.map (validateRawBranch s.record)).find?
          (fun err => err ≠ .ok) with
      | some err =>
        have herr := List.find?_some hfind
        refine ⟨fun h => absurd h (of_decide_eq_true herr), fun h => ?_⟩
        have hnone := hfound.2 fun b hb => (validateRawBranch_ok_iff s.record b).2
          ⟨h.1.branches b hb, h.2.listed b hb⟩
        rw [hfind] at hnone
        cases hnone
      | none =>
        have hall := hfound.1 hfind
        have hrules := fun b hb => (validateRawBranch_ok_iff s.record b).1 (hall b hb)
        have hite : (if s.record.steps.all validStep = true then EspErr.ok
            else EspErr.invalidArg) = .ok ↔ s.record.steps.all validStep = true := by
          split
          · next h => exact ⟨fun _ => h, fun _ => rfl⟩
          · next h => exact ⟨fun hc => absurd hc harg, fun hc => absurd hc h⟩
        rw [hite, List.all_eq_true]
        rcases not_or.1 hnamed with ⟨hid, hrest⟩
        rcases not_or.1 hrest with ⟨hname, hroom⟩
        rcases not_or.1 htables with ⟨hvariants, hrest'⟩
        rcases not_or.1 hrest' with ⟨hactions, hcommands⟩
        constructor
        · intro hvalid
          have hstep := fun step hmem => (validStep_iff step).1 (hvalid step hmem)
          exact ⟨⟨⟨hid, hname, hroom⟩, Nat.not_lt.1 hsteps, Nat.not_lt.1 hbranches, hstepIds,
              hbranchIds, fun b hb => (hrules b hb).1, fun step hmem => (hstep step hmem).1⟩,
            ⟨Nat.not_lt.1 hvariants, Nat.not_lt.1 hactions, Nat.not_lt.1 hcommands,
              fun b hb => (hrules b hb).2, fun step hmem => (hstep step hmem).2⟩⟩
        · intro h step hmem
          exact (validStep_iff step).2 ⟨h.1.steps step hmem, h.2.steps step hmem⟩

/-- The checks agree if and only if the scenario breaks a shared rule or keeps all
    that only the structural check has. -/
theorem validators_agree_iff (s : RawScenario) :
    (s.validateStructural = .ok ↔ s.validateStatic.valid = true) ↔
      (SharedRules s → StructuralRules s) := by
  rw [structural_ok_iff, static_valid_iff]
  exact ⟨fun h hshared => (h.2 hshared).2, fun h => ⟨fun hc => hc.1, fun hc => ⟨hc, h hc⟩⟩⟩

/-- A scenario of one step, which fails a reaction. -/
def controlScenario : Scenario :=
  { id := "s", name := "S", roomId := "r", steps := [{ id := "fail", data := .failReaction }] }

/-- One that lists nine variants, and one whose branch has no listed reentry mode. -/
def nineVariants : Scenario :=
  { id := "s", name := "S", roomId := "r"
    reactiveVariants := List.replicate 9 { id := "v", actionStartIndex := 0, actionCount := 0 } }

def oddReentry : RawScenario :=
  { record := { id := "s", name := "S", roomId := "r", branches := [{ id := "b", name := "B" }] }
    codes := [{ type := 0, reentryMode := 4 }]
    aligned := rfl }

theorem not_validators_agree : (controlScenario.raw.validateStatic.valid = true ∧
      controlScenario.raw.validateStructural = .invalidArg) ∧
    (nineVariants.raw.validateStatic.valid = true ∧
      nineVariants.raw.validateStructural = .invalidSize) ∧
    (oddReentry.validateStatic.valid = true ∧ oddReentry.validateStructural = .invalidArg) := by
  decide +kernel

end SceneHub.Stored
