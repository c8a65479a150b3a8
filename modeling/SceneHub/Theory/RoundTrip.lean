import SceneHub.Theory.ImportableReaction

/-!
# The Round Trip of a Scenario

Which stored scenarios come back from their own export. A scenario that the
importer produced comes back unless one of its normal branches has a policy, a
cooldown, a fire limit, the run-once mark or a reentry mode: the importer reads
these of every branch, and the exporter writes them for reactive branches only.
A scenario that is merely valid must also have the shape an import leaves
behind, for instance no timeout on a wait for several events, which the exporter
writes and the importer does not read.

Branches are read with the steps and tables so far, so their description is a
relation of two readings.

## Main definitions

* `Stored.Branch.Importable`, `Stored.Scenario.Importable`: What the importer
  can produce.
* `Stored.Branch.Plain`: A branch whose settings are all written.
* `RoundTrips`: The export reads back as the scenario.

## Theorems

* `exportBranch_again`: A plain branch is written so that it reads the same.
* `exportScenario_again`, `RoundTrips.plain`: The two directions for a scenario.
* `scenario_round_trip_exact`: When the format loses nothing.
-/

namespace SceneHub

open Lib (readAll readFrom Runs bind_eq_ok_iff)
open Json Stored

variable {branch : Stored.Branch} {s : Stored.Scenario} {r r' : Reading}

/-! ### The description -/

section

variable (cj : CJson)

/-- A branch is a reaction without steps, or steps without a reaction. -/
structure Stored.Branch.Importable (r : Reading) (branch : Stored.Branch) (r' : Reading) :
    Prop where
  id : Filled branch.id idMaxLen
  name : Filled branch.name nameMaxLen
  stepStartIndex : branch.stepStartIndex = r.steps.length
  body :
    (branch.type = .reactive ∧ branch.stepCount = 0 ∧
      (branch.policyMode = .single → branch.maxFireCount = if branch.runOnce then 1 else 0) ∧
      ∃ tables, branch.reaction.Importable cj r.tables tables ∧ r' = { r with tables }) ∨
    (branch.reaction = {} ∧ ∃ steps, branch.stepCount = steps.length ∧
      (∀ step ∈ steps, step.Importable cj) ∧ r' = { r with steps := r.steps ++ steps } ∧
      r'.steps.length ≤ maxSteps)

/-- What is written of reactive branches only has its default on a normal one. -/
def Stored.Branch.Plain (branch : Stored.Branch) : Prop :=
  branch.type = .normal → branch.policyMode = .single ∧ branch.cooldownMs = 0 ∧
    branch.maxFireCount = 0 ∧ branch.runOnce = false ∧ branch.reentryMode = .ignore

/-- The steps and tables are those of the branches in a row. A scenario without
    branches has steps and nothing else. -/
structure Stored.Scenario.Importable (s : Stored.Scenario) : Prop where
  id : Filled s.id idMaxLen
  name : Filled s.name nameMaxLen
  roomId : Filled s.roomId idMaxLen
  body :
    (s.branches = [] ∧ s.tables = {} ∧ s.steps.length ≤ maxSteps ∧
      ∀ step ∈ s.steps, step.Importable cj) ∨
    (s.branches ≠ [] ∧ s.branches.length ≤ maxBranches ∧
      Runs (Stored.Branch.Importable cj) {} s.branches { steps := s.steps, tables := s.tables })

/-- The export of a scenario reads back as the scenario. -/
def RoundTrips (s : Stored.Scenario) : Prop :=
  ∃ obj, exportScenario cj s = .ok obj ∧ importScenario cj obj = .ok s

end

section

variable {cj : CJson} {obj : Json}

/-! ### Reading a branch -/

theorem importSteps_importable {before steps : List Stored.Step}
    (h : importSteps cj before obj = .ok steps) :
    (∀ step ∈ steps, step.Importable cj) ∧ (before ++ steps).length ≤ maxSteps := by
  unfold importSteps at h
  split at h
  · split at h
    · cases h
    rename_i hlen
    refine ⟨Lib.readAll_mem (fun _ _ => importStep_importable) _ _ h, ?_⟩
    rw [List.length_append, Lib.readAll_length _ _ h]
    exact Nat.not_lt.1 hlen
  · cases h

theorem importBranchBody_importable {read branch : Stored.Branch}
    (h : importBranchBody cj r obj read = .ok (branch, r')) (hid : Filled read.id idMaxLen)
    (hname : Filled read.name nameMaxLen) (hreaction : read.reaction = {}) :
    branch.Importable cj r r' := by
  unfold importBranchBody at h
  split at h
  · rename_i htype
    rcases bind_eq_ok_iff.1 h with ⟨⟨reaction, tables⟩, hread, h⟩
    cases h
    refine ⟨hid, hname, rfl, .inl ⟨htype.1, rfl, fun hsingle => if_pos hsingle, tables, ?_, rfl⟩⟩
    exact importReaction_importable hread
  · rcases bind_eq_ok_iff.1 h with ⟨steps, hsteps, h⟩
    cases h
    rcases importSteps_importable hsteps with ⟨hall, hlen⟩
    exact ⟨hid, hname, rfl, .inr ⟨hreaction, steps, rfl, hall, rfl, hlen⟩⟩

theorem importBranch_importable (h : importBranch cj r obj = .ok (branch, r')) :
    branch.Importable cj r r' := by
  rcases bind_eq_ok_iff.1 h with ⟨id, hid, h⟩
  rcases bind_eq_ok_iff.1 h with ⟨name, hname, h⟩
  rcases bind_eq_ok_iff.1 h with ⟨type, -, h⟩
  rcases bind_eq_ok_iff.1 h with ⟨enabled, -, h⟩
  rcases bind_eq_ok_iff.1 h with ⟨priority, -, h⟩
  rcases bind_eq_ok_iff.1 h with ⟨required, -, h⟩
  rcases bind_eq_ok_iff.1 h with ⟨cooldown, -, h⟩
  rcases bind_eq_ok_iff.1 h with ⟨maxFire, -, h⟩
  rcases bind_eq_ok_iff.1 h with ⟨⟨mode, cooldownMs, maxFireCount⟩, -, h⟩
  rcases bind_eq_ok_iff.1 h with ⟨runOnce, -, h⟩
  rcases bind_eq_ok_iff.1 h with ⟨reentry, -, h⟩
  exact importBranchBody_importable h (stringRequired_filled hid) (stringRequired_filled hname) rfl

/-! ### Writing a branch -/

/-- The reading is one of the way to the finished scenario. -/
structure Reading.Within (r : Reading) (s : Stored.Scenario) : Prop where
  steps : r.steps <+: s.steps
  tables : r.tables.Prefix s.tables

theorem Stored.Branch.Importable.within (h : branch.Importable cj r r') (hs : r'.Within s) :
    r.Within s := by
  rcases h.body with ⟨-, -, -, tables, hreaction, rfl⟩ | ⟨-, steps, -, -, rfl, -⟩
  · exact ⟨hs.steps, hreaction.grows.trans hs.tables⟩
  · exact ⟨(List.prefix_append _ _).trans hs.steps, hs.tables⟩

def branchNames : List String :=
  ["id", "name", "type", "enabled", "required_for_completion", "priority"]

/-- The names of the fields only a reactive branch has. -/
def reactiveNames : List String :=
  ["policy", "reentry", "cooldown_ms", "max_fire_count", "run_once"]

/-- The object reads as the branch's policy, whatever the object's own cooldown
    and fire limit are. -/
structure ReadsPolicy (obj : Json) (branch : Stored.Branch) : Prop where
  policy : ∃ cooldownMs maxFireCount, obj.uint32Optional "cooldown_ms" = .ok cooldownMs ∧
    obj.uint32Optional "max_fire_count" = .ok maxFireCount ∧
    importPolicy obj cooldownMs maxFireCount =
      .ok (branch.policyMode, branch.cooldownMs, branch.maxFireCount)
  runOnce : obj.boolOr "run_once" false = .ok branch.runOnce
  reentry : importReentry obj = .ok branch.reentryMode

theorem readsPolicy_of_reactive (h : obj.Shows (reactiveFields branch)) :
    ReadsPolicy obj branch := by
  unfold reactiveFields at h
  simp [Shows] at h
  rcases h with ⟨hpolicy, hreentry, hcooldown, hmaxFire, hrunOnce⟩
  refine ⟨⟨branch.cooldownMs, branch.maxFireCount, uint32Optional_nonZero hcooldown,
    uint32Optional_nonZero hmaxFire, ?_⟩, boolOr_set hrunOnce, ?_⟩
  · unfold importPolicy
    rw [hpolicy]
    refine bind_eq_ok_iff.2 ⟨_, enumOr_eq (PolicyMode.fromStr_toStr branch.policyMode) ?_, ?_⟩
    · exact (get_ofFields _ _).trans (by simp)
    refine bind_eq_ok_iff.2 ⟨branch.cooldownMs, uint32Optional_eq ?_, ?_⟩
    · exact (get_ofFields _ _).trans (by simp)
    refine bind_eq_ok_iff.2 ⟨branch.maxFireCount, uint32Optional_eq ?_, rfl⟩
    exact (get_ofFields _ _).trans (by simp)
  · unfold importReentry
    rw [hreentry]
    refine enumOr_eq (ReentryMode.fromStr_toStr branch.reentryMode) ?_
    exact (get_ofFields _ _).trans (by simp)

theorem readsPolicy_default (h : ∀ name ∈ reactiveNames, obj.get name = none)
    (hdefault : branch.policyMode = .single ∧ branch.cooldownMs = 0 ∧
      branch.maxFireCount = 0 ∧ branch.runOnce = false ∧ branch.reentryMode = .ignore) :
    ReadsPolicy obj branch := by
  rcases hdefault with ⟨hmode, hcooldown, hmaxFire, hrunOnce, hreentry⟩
  refine ⟨⟨0, 0, uint32Optional_none (h _ (by decide)), uint32Optional_none (h _ (by decide)),
    ?_⟩, ?_, ?_⟩
  · unfold importPolicy
    rw [h "policy" (by decide), hmode, hcooldown, hmaxFire]
  · unfold boolOr
    rw [h "run_once" (by decide), hrunOnce]
  · unfold importReentry
    rw [h "reentry" (by decide), hreentry]

theorem exportSteps_again (hcj : cj.Faithful) {before steps : List Stored.Step}
    (hsteps : ∀ step ∈ steps, step.Importable cj) (hlen : (before ++ steps).length ≤ maxSteps) :
    ∃ items, readAll (exportStep cj) steps = .ok items ∧
      ∀ obj : Json, obj.get "steps" = some (.array items) →
        importSteps cj before obj = .ok steps := by
  rcases Lib.exists_readAll (fun _ => exportStep_again hcj) steps hsteps with
    ⟨items, hwrite, hread⟩
  refine ⟨items, hwrite, fun obj hget => ?_⟩
  rw [List.length_append, Lib.readAll_length _ _ hread] at hlen
  unfold importSteps
  rw [hget]
  exact (if_neg (Nat.not_lt.2 hlen)).trans hread

/-- The branch as `importBranch` has it before its body. -/
def Stored.Branch.head (branch : Stored.Branch) : Stored.Branch :=
  { branch with reaction := {}, stepStartIndex := 0, stepCount := 0 }

theorem importBranchBody_reaction {tables : Tables} {items : List Json}
    (htype : branch.type = .reactive) (hcount : branch.stepCount = 0)
    (hstart : branch.stepStartIndex = r.steps.length) (hsingle : branch.policyMode = .single →
      branch.maxFireCount = if branch.runOnce then 1 else 0)
    (hget : obj.get "variants" = some (.array items))
    (hread : importReaction cj r.tables obj = .ok (branch.reaction, tables)) :
    importBranchBody cj r obj branch.head = .ok (branch, { r with tables }) := by
  unfold importBranchBody
  rw [if_pos ⟨htype, by rw [hget]; rfl⟩]
  refine bind_eq_ok_iff.2 ⟨(branch.reaction, tables), hread, ?_⟩
  have hmax : (if branch.policyMode = .single then (if branch.runOnce then 1 else 0)
      else branch.maxFireCount) = branch.maxFireCount := by
    by_cases hmode : branch.policyMode = .single
    · rw [if_pos hmode, hsingle hmode]
    · rw [if_neg hmode]
  unfold Stored.Branch.head
  rw [hmax, ← hstart, ← hcount]
  rfl

theorem importBranchBody_steps {steps : List Stored.Step} (hreaction : branch.reaction = {})
    (hcount : branch.stepCount = steps.length) (hstart : branch.stepStartIndex = r.steps.length)
    (hget : obj.get "variants" = none) (hread : importSteps cj r.steps obj = .ok steps) :
    importBranchBody cj r obj branch.head =
      .ok (branch, { r with steps := r.steps ++ steps }) := by
  unfold importBranchBody
  rw [if_neg (by rw [hget]; exact fun h => Bool.noConfusion h.2)]
  refine bind_eq_ok_iff.2 ⟨steps, hread, ?_⟩
  unfold Stored.Branch.head
  rw [← hstart, ← hcount, ← hreaction]
  rfl

/-- A plain branch's body is written so that it reads the same. The object may
    have the fields of every branch besides, and no others. -/
theorem branchBodyFields_again (hcj : cj.Faithful) (h : branch.Importable cj r r')
    (hplain : branch.Plain) (hs : r'.Within s) :
    ∃ fields, branchBodyFields cj s branch = .ok fields ∧
      (∀ name ∈ fields.map Prod.fst, name ∉ branchNames) ∧
      ∀ obj : Json, obj.Shows fields →
        (∀ name, name ∉ branchNames → name ∉ fields.map Prod.fst → obj.get name = none) →
        ReadsPolicy obj branch ∧ importBranchBody cj r obj branch.head = .ok (branch, r') := by
  rcases h.body with ⟨htype, hcount, hsingle, tables, hreaction, rfl⟩ |
    ⟨hreaction, steps, hcount, hsteps, rfl, hlen⟩
  · -- A reaction: it has variants, so its steps are not written.
    rcases reactionFields_again hcj hreaction hs.tables with
      ⟨fields, hfields, hnames, ⟨items, hvariants⟩, hagain⟩
    rcases hreaction.variants with ⟨variants, u, hne, hvariantCount, -⟩
    have hpos : 0 < branch.reaction.variantCount := by
      rw [hvariantCount]
      exact List.length_pos_iff.2 hne
    have hv2 : branch.isReactiveV2 = true := by
      unfold Stored.Branch.isReactiveV2
      rw [decide_eq_true hpos, Bool.true_or]
    refine ⟨reactiveFields branch ++ fields, ?_, ?_, fun obj hshows _ => ?_⟩
    · unfold branchBodyFields
      rw [if_pos htype, if_pos ⟨htype, hv2⟩]
      exact bind_eq_ok_iff.2 ⟨fields, hfields, if_pos ⟨htype, hpos⟩⟩
    · rw [List.map_append, hnames]
      exact (by decide : ∀ name ∈ reactiveNames ++
        ["trigger", "guard_flags", "variants", "result_policy", "on_complete"],
          name ∉ branchNames)
    · rcases hshows.split reactiveNames (fun _ h => h) (by rw [hnames]; decide) with
        ⟨hpolicy, hbody⟩
      have hget : obj.get "variants" = some (.array items) := by
        rw [hbody "variants" (by rw [hnames]; decide), hvariants]
      exact ⟨readsPolicy_of_reactive hpolicy, importBranchBody_reaction htype hcount
        h.stepStartIndex hsingle hget (hagain obj hbody)⟩
  rcases exportSteps_again hcj hsteps hlen with ⟨items, hwrite, hread⟩
  have hexport : exportSteps cj s branch = .ok items := by
    unfold exportSteps
    rw [h.stepStartIndex, hcount, slice_initial hs.steps]
    exact hwrite
  have hv2 : branch.isReactiveV2 = false := by
    unfold Stored.Branch.isReactiveV2
    rw [hreaction]
    rfl
  have hzero : ¬ 0 < branch.reaction.variantCount := by
    rw [hreaction]
    exact Nat.lt_irrefl 0
  by_cases htype : branch.type = .reactive
  · -- Steps of a reactive branch: its policy is written before them.
    refine ⟨reactiveFields branch ++ [] ++ [("steps", some (.array items))], ?_, ?_,
      fun obj hshows habsent => ?_⟩
    · unfold branchBodyFields
      dsimp only
      rw [if_pos htype, if_neg (by rw [hv2]; exact fun h => Bool.noConfusion h.2)]
      refine bind_eq_ok_iff.2 ⟨[], rfl, ?_⟩
      rw [if_neg fun h => hzero h.2]
      exact bind_eq_ok_iff.2 ⟨items, hexport, rfl⟩
    · exact (by decide : ∀ name ∈ reactiveNames ++ ["steps"], name ∉ branchNames)
    rw [List.append_nil] at hshows
    rcases hshows.split reactiveNames (fun _ h => h) (by simp [reactiveNames]) with
      ⟨hpolicy, hbody⟩
    have hnone : obj.get "variants" = none :=
      habsent _ (by decide) (by simp [reactiveFields])
    have hget : obj.get "steps" = some (.array items) := by
      rw [hbody "steps" List.mem_cons_self]
      rfl
    exact ⟨readsPolicy_of_reactive hpolicy, importBranchBody_steps hreaction hcount
      h.stepStartIndex hnone (hread obj hget)⟩
  -- Steps of a normal branch, and nothing besides.
  have hnormal : branch.type = .normal := by
    cases hcase : branch.type with
    | normal => rfl
    | reactive => exact absurd hcase htype
  refine ⟨[("steps", some (.array items))], ?_, by simp [branchNames],
    fun obj hshows habsent => ?_⟩
  · unfold branchBodyFields
    dsimp only
    rw [if_neg htype, if_neg fun h => htype h.1]
    refine bind_eq_ok_iff.2 ⟨[], rfl, ?_⟩
    rw [if_neg fun h => htype h.1]
    exact bind_eq_ok_iff.2 ⟨items, hexport, rfl⟩
  have hdefault : ∀ name ∈ reactiveNames, obj.get name = none := by
    intro name hname
    refine habsent name ?_ ?_
    · exact (by decide : ∀ name ∈ reactiveNames, name ∉ branchNames) name hname
    · exact (by decide : ∀ name ∈ reactiveNames, name ∉ ["steps"]) name hname
  have hget : obj.get "steps" = some (.array items) := by
    rw [hshows "steps" List.mem_cons_self]
    rfl
  exact ⟨readsPolicy_default hdefault (hplain hnormal), importBranchBody_steps hreaction
    hcount h.stepStartIndex (habsent _ (by decide) (by simp)) (hread obj hget)⟩

theorem importPriority_eq {n : UInt16}
    (hget : obj.get "priority" = if 0 < n then some (.number n.toNat) else none) :
    importPriority obj = .ok n := by
  have hlt : n.toNat < 65536 := n.toNat_lt
  have hwide : obj.get "priority" = nonZero n.toUInt32 := by
    rw [hget]
    unfold nonZero
    rw [UInt16.toNat_toUInt32]
    by_cases hn : 0 < n
    · rw [if_pos hn, if_pos (by rwa [UInt32.lt_iff_toNat_lt, UInt16.toNat_toUInt32])]
    · rw [if_neg hn, if_neg (by rwa [UInt32.lt_iff_toNat_lt, UInt16.toNat_toUInt32])]
  refine bind_eq_ok_iff.2 ⟨n.toUInt32, uint32Optional_nonZero hwide, ?_⟩
  rw [if_neg]
  · rw [UInt16.toNat_toUInt32]
    exact congrArg Except.ok (UInt16.ofNat_toNat)
  · rw [UInt32.lt_iff_toNat_lt, UInt16.toNat_toUInt32]
    exact Nat.not_lt.2 (Nat.le_of_lt_succ hlt)

/-- A plain branch is written so that it reads the same. -/
theorem exportBranch_again (hcj : cj.Faithful) (h : branch.Importable cj r r')
    (hplain : branch.Plain) (hs : r'.Within s) :
    ∃ obj, exportBranch cj s branch = .ok obj ∧ importBranch cj r obj = .ok (branch, r') := by
  rcases branchBodyFields_again hcj h hplain hs with ⟨fields, hfields, hnames, hagain⟩
  refine ⟨_, bind_eq_ok_iff.2 ⟨fields, hfields, rfl⟩, ?_⟩
  rcases (shows_ofFields (commonBranchFields branch ++ fields)).split branchNames
    (fun _ h => h) hnames with ⟨hcommon, hbody⟩
  have habsent : ∀ name, name ∉ branchNames → name ∉ fields.map Prod.fst →
      (ofFields (commonBranchFields branch ++ fields)).get name = none := by
    intro name hcommon hbody
    refine get_ofFields_none fun hmem => ?_
    rw [List.map_append] at hmem
    rcases List.mem_append.1 hmem with hmem | hmem
    · exact hcommon hmem
    · exact hbody hmem
  rcases hagain _ hbody habsent with ⟨hpolicy, hread⟩
  rcases hpolicy.policy with ⟨cooldownMs, maxFireCount, hcooldown, hmaxFire, hpol⟩
  unfold commonBranchFields at hcommon
  simp [Shows] at hcommon
  rcases hcommon with ⟨hid, hname, htype, henabled, hrequired, hpriority⟩
  refine bind_eq_ok_iff.2 ⟨_, stringRequired_eq h.id hid, ?_⟩
  refine bind_eq_ok_iff.2 ⟨_, stringRequired_eq h.name hname, ?_⟩
  refine bind_eq_ok_iff.2 ⟨_, enumOrNull_eq (BranchType.fromStr_toStr branch.type) htype, ?_⟩
  refine bind_eq_ok_iff.2 ⟨_, boolOr_eq henabled, ?_⟩
  refine bind_eq_ok_iff.2 ⟨_, importPriority_eq hpriority, ?_⟩
  refine bind_eq_ok_iff.2 ⟨_, boolOr_eq hrequired, ?_⟩
  refine bind_eq_ok_iff.2 ⟨_, hcooldown, bind_eq_ok_iff.2 ⟨_, hmaxFire, ?_⟩⟩
  refine bind_eq_ok_iff.2 ⟨_, hpol, bind_eq_ok_iff.2 ⟨_, hpolicy.runOnce, ?_⟩⟩
  exact bind_eq_ok_iff.2 ⟨_, hpolicy.reentry, hread⟩

/-! ### What a normal branch loses -/

theorem branchBodyFields_normal {fields : List (String × Option Json)}
    (hnormal : branch.type = .normal) (h : branchBodyFields cj s branch = .ok fields) :
    fields.map Prod.fst = ["steps"] := by
  have htype : branch.type ≠ .reactive := by
    rw [hnormal]
    exact nofun
  unfold branchBodyFields at h
  dsimp only at h
  rw [if_neg htype, if_neg fun h => htype h.1] at h
  rcases bind_eq_ok_iff.1 h with ⟨reaction, hreaction, h⟩
  rw [if_neg fun h => htype h.1] at h
  rcases bind_eq_ok_iff.1 h with ⟨steps, -, h⟩
  cases hreaction
  cases h
  rfl

/-- A normal branch that came back from its export had nothing to lose. -/
theorem importBranch_plain (hwrite : exportBranch cj s branch = .ok obj)
    (hread : importBranch cj r obj = .ok (branch, r')) : branch.Plain := by
  intro hnormal
  rcases bind_eq_ok_iff.1 hwrite with ⟨fields, hfields, hobj⟩
  have hnames := branchBodyFields_normal hnormal hfields
  have habsent : ∀ name ∈ reactiveNames, obj.get name = none := by
    intro name hname
    cases hobj
    refine get_ofFields_none ?_
    rw [List.map_append, hnames]
    exact (by decide : ∀ name ∈ reactiveNames, name ∉ branchNames ++ ["steps"]) name hname
  rcases bind_eq_ok_iff.1 hread with ⟨id, hid, h⟩
  rcases bind_eq_ok_iff.1 h with ⟨name, hname, h⟩
  rcases bind_eq_ok_iff.1 h with ⟨type, htype, h⟩
  rcases bind_eq_ok_iff.1 h with ⟨enabled, henabled, h⟩
  rcases bind_eq_ok_iff.1 h with ⟨priority, hpriority, h⟩
  rcases bind_eq_ok_iff.1 h with ⟨required, hrequired, h⟩
  rcases bind_eq_ok_iff.1 h with ⟨cooldown, hcooldown, h⟩
  rcases bind_eq_ok_iff.1 h with ⟨maxFire, hmaxFire, h⟩
  rcases bind_eq_ok_iff.1 h with ⟨⟨mode, cooldownMs, maxFireCount⟩, hpolicy, h⟩
  rcases bind_eq_ok_iff.1 h with ⟨runOnce, hrunOnce, h⟩
  rcases bind_eq_ok_iff.1 h with ⟨reentry, hreentry, h⟩
  rw [uint32Optional_none (habsent _ (by decide))] at hcooldown hmaxFire
  unfold importPolicy at hpolicy
  rw [habsent "policy" (by decide)] at hpolicy
  unfold boolOr at hrunOnce
  rw [habsent "run_once" (by decide)] at hrunOnce
  unfold importReentry at hreentry
  rw [habsent "reentry" (by decide)] at hreentry
  cases hcooldown
  cases hmaxFire
  cases hpolicy
  cases hrunOnce
  cases hreentry
  unfold importBranchBody at h
  split at h
  · rename_i hreactive
    rcases bind_eq_ok_iff.1 h with ⟨⟨reaction, tables⟩, -, h⟩
    cases h
    exact absurd hreactive.1 (by rw [show type = .normal from hnormal]; exact nofun)
  · rcases bind_eq_ok_iff.1 h with ⟨steps, -, h⟩
    cases h
    exact ⟨rfl, rfl, rfl, rfl, rfl⟩

/-! ### Scenarios -/

theorem importBody_importable {branches : List Stored.Branch}
    (h : importBody cj obj = .ok (branches, r)) :
    (branches = [] ∧ r.tables = {} ∧ r.steps.length ≤ maxSteps ∧
      ∀ step ∈ r.steps, step.Importable cj) ∨
    (branches ≠ [] ∧ branches.length ≤ maxBranches ∧
      Runs (Stored.Branch.Importable cj) {} branches r) := by
  unfold importBody at h
  split at h
  · rcases bind_eq_ok_iff.1 h with ⟨steps, hsteps, h⟩
    cases h
    rcases importSteps_importable hsteps with ⟨hall, hlen⟩
    exact .inl ⟨rfl, rfl, hlen, hall⟩
  · split at h
    · cases h
    rename_i hlen
    have hcount := Lib.readFrom_length _ _ _ _ h
    have hruns : Runs (Stored.Branch.Importable cj) {} branches r :=
      Lib.readFrom_runs (R := Stored.Branch.Importable cj)
        (fun _ _ _ _ => importBranch_importable) _ _ _ _ h
    refine .inr ⟨fun hnil => hlen (.inl ?_), ?_, hruns⟩
    · rw [← hcount, hnil]
      rfl
    · rw [hcount]
      exact Nat.not_lt.1 fun hlt => hlen (.inr hlt)
  · cases h

/-- What is imported has the shape described, and passed the structural check. -/
theorem importScenario_importable (h : importScenario cj obj = .ok s) :
    s.Importable cj ∧ s.validateStructural = .ok := by
  rcases bind_eq_ok_iff.1 h with ⟨id, hid, h⟩
  rcases bind_eq_ok_iff.1 h with ⟨name, hname, h⟩
  rcases bind_eq_ok_iff.1 h with ⟨roomId, hroom, h⟩
  rcases bind_eq_ok_iff.1 h with ⟨⟨branches, r⟩, hbody, h⟩
  dsimp only at h
  split at h
  · cases h
  rename_i hvalid
  cases h
  exact ⟨⟨stringRequired_filled hid, stringRequired_filled hname, stringRequired_filled hroom,
    importBody_importable hbody⟩, Decidable.not_not.1 hvalid⟩

theorem bodyField_again (hcj : cj.Faithful) (h : s.Importable cj)
    (hplain : ∀ branch ∈ s.branches, branch.Plain) :
    ∃ field, bodyField cj s = .ok field ∧ (field.1 = "branches" ∨ field.1 = "steps") ∧
      ∀ obj : Json, obj.get field.1 = field.2 → (field.1 ≠ "branches" → obj.get "branches" = none) →
        importBody cj obj = .ok (s.branches, { steps := s.steps, tables := s.tables }) := by
  rcases h.body with ⟨hnil, htables, hlen, hsteps⟩ | ⟨hne, hlen, hruns⟩
  · have hlen' : ([] ++ s.steps).length ≤ maxSteps := hlen
    rcases exportSteps_again hcj hsteps hlen' with ⟨items, hwrite, hread⟩
    refine ⟨("steps", some (.array items)), ?_, .inr rfl, fun obj hget hnone => ?_⟩
    · unfold bodyField
      rw [if_neg (by rw [hnil]; exact Nat.lt_irrefl 0)]
      exact bind_eq_ok_iff.2 ⟨items, hwrite, rfl⟩
    · unfold importBody
      rw [hnone (by simp), hnil, htables]
      exact bind_eq_ok_iff.2 ⟨s.steps, hread obj hget, rfl⟩
  have hs : Reading.Within { steps := s.steps, tables := s.tables } s :=
    ⟨List.prefix_rfl, .refl s.tables⟩
  rcases hruns.exists_readFrom (fun _ _ _ hb hin => hb.within hin)
    (fun _ _ _ hb hp hin => exportBranch_again hcj hb hp hin) hplain hs with
    ⟨items, hwrite, hread⟩
  have hcount := Lib.readFrom_length _ _ _ _ hread
  refine ⟨("branches", some (.array items)), ?_, .inl rfl, fun obj hget _ => ?_⟩
  · unfold bodyField
    rw [if_pos (List.length_pos_iff.2 hne)]
    exact bind_eq_ok_iff.2 ⟨items, hwrite, rfl⟩
  unfold importBody
  rw [hget]
  refine (if_neg ?_).trans hread
  rw [← hcount]
  rintro (hzero | hlt)
  · exact hne (List.length_eq_zero_iff.1 hzero)
  · exact absurd hlt (Nat.not_lt.2 hlen)

/-- A valid scenario of the shape an import leaves behind comes back, if its
    branches are plain. -/
theorem exportScenario_again (hcj : cj.Faithful) (h : s.Importable cj)
    (hvalid : s.validateStructural = .ok) (hplain : ∀ branch ∈ s.branches, branch.Plain) :
    RoundTrips cj s := by
  rcases bodyField_again hcj h hplain with ⟨⟨key, value⟩, hfield, hkey, hread⟩
  have hother : key ≠ "id" ∧ key ≠ "name" ∧ key ≠ "room_id" := by
    rcases hkey with rfl | rfl <;> decide
  refine ⟨ofFields [("id", some (.string s.id)), ("name", some (.string s.name)),
    ("room_id", some (.string s.roomId)), (key, value)], ?_, ?_⟩
  · unfold exportScenario
    rw [if_neg (not_not_intro hvalid)]
    exact bind_eq_ok_iff.2 ⟨(key, value), hfield, rfl⟩
  refine bind_eq_ok_iff.2 ⟨s.id, stringRequired_eq h.id ?_, ?_⟩
  · simp [get_ofFields]
  refine bind_eq_ok_iff.2 ⟨s.name, stringRequired_eq h.name ?_, ?_⟩
  · simp [get_ofFields]
  refine bind_eq_ok_iff.2 ⟨s.roomId, stringRequired_eq h.roomId ?_, ?_⟩
  · simp [get_ofFields]
  refine bind_eq_ok_iff.2 ⟨_, hread _ ?_ ?_, ?_⟩
  · rw [get_ofFields]
    simp [hother.1.symm, hother.2.1.symm, hother.2.2.symm]
  · intro hne
    refine get_ofFields_none ?_
    simp [Ne.symm hne]
  · exact if_neg (not_not_intro hvalid)

theorem readFrom_of_importBody {fields : List (String × Option Json)} {items : List Json}
    {branches : List Stored.Branch} (hvalue : fieldValue fields "branches" = some (.array items))
    (h : importBody cj (ofFields fields) = .ok (branches, r)) :
    readFrom (importBranch cj) {} items = .ok (branches, r) := by
  unfold importBody at h
  rw [get_ofFields, hvalue] at h
  dsimp only at h
  split at h
  · cases h
  · exact h

theorem RoundTrips.plain (h : RoundTrips cj s) : ∀ branch ∈ s.branches, branch.Plain := by
  rcases h with ⟨obj, hwrite, hread⟩
  by_cases hne : 0 < s.branches.length
  · unfold exportScenario at hwrite
    split at hwrite
    · cases hwrite
    rcases bind_eq_ok_iff.1 hwrite with ⟨field, hfield, hobj⟩
    unfold bodyField at hfield
    rw [if_pos hne] at hfield
    rcases bind_eq_ok_iff.1 hfield with ⟨items, hitems, hfield⟩
    cases hfield
    cases hobj
    rcases bind_eq_ok_iff.1 hread with ⟨id, -, h⟩
    rcases bind_eq_ok_iff.1 h with ⟨name, -, h⟩
    rcases bind_eq_ok_iff.1 h with ⟨roomId, -, h⟩
    rcases bind_eq_ok_iff.1 h with ⟨⟨branches, r⟩, hbody, h⟩
    dsimp only at h
    split at h
    · cases h
    cases h
    have hbranches : readFrom (importBranch cj) {} items = .ok (branches, r) :=
      readFrom_of_importBody (by simp) hbody
    intro branch hbranch
    rcases Lib.readFrom_readAll_mem _ _ _ _ hitems hbranches branch hbranch with
      ⟨x, t, t', hx, ht⟩
    exact importBranch_plain hx ht
  · intro branch hbranch
    exact absurd (List.length_pos_of_mem hbranch) hne

/-! ### When the format loses nothing -/

/-- A scenario the importer produced comes back from its export exactly if what is
    written of reactive branches only has its default on every normal one. A valid
    scenario of any origin must also have the shape an import leaves behind. -/
theorem scenario_round_trip_exact (cj : CJson) (hcj : cj.Faithful) :
    (∀ obj s, importScenario cj obj = .ok s →
      (RoundTrips cj s ↔ ∀ branch ∈ s.branches, branch.Plain)) ∧
    ∀ s : Stored.Scenario, s.validateStructural = .ok →
      (RoundTrips cj s ↔ s.Importable cj ∧ ∀ branch ∈ s.branches, branch.Plain) := by
  constructor
  · intro obj s himport
    rcases importScenario_importable himport with ⟨hs, hvalid⟩
    exact ⟨RoundTrips.plain, exportScenario_again hcj hs hvalid⟩
  intro s hvalid
  constructor
  · intro h
    rcases h with ⟨obj, hwrite, hread⟩
    exact ⟨(importScenario_importable hread).1, RoundTrips.plain ⟨obj, hwrite, hread⟩⟩
  · rintro ⟨hs, hplain⟩
    exact exportScenario_again hcj hs hvalid hplain

end

/-! ### Two scenarios that do not come back -/

/-- A printer that writes the empty object as the library does. Any other tree it
    writes as a text too long for parameters. -/
def emptyParams : CJson where
  print
    | .object [] => "\x7b\x7d"
    | _ => String.ofList (List.replicate paramsMaxLen ' ')
  parse text := if text = "\x7b\x7d" then some (.object []) else none

theorem emptyParams_faithful : emptyParams.Faithful := by
  intro members hlt
  cases members with
  | nil => rfl
  | cons member rest =>
    have hle : paramsMaxLen ≤
        (String.ofList (List.replicate paramsMaxLen ' ')).utf8ByteSize := by decide +kernel
    exact absurd hlt (Nat.not_lt.2 hle)

/-- One branch that ends the game, with the members given besides. -/
def endingScenario (members : List (String × Json)) : Json :=
  .object
    [("id", .string "s"), ("name", .string "s"), ("room_id", .string "r"),
      ("branches", .array [.object
        ([("id", .string "b"), ("name", .string "b"), ("steps", .array [.object
            [("id", .string "e"), ("type", .string "END_GAME")]])] ++ members)])]

/-- The stored scenario of the same, with the branch's cooldown. -/
def endingStored (cooldownMs : UInt32) : Stored.Scenario where
  id := "s"
  name := "s"
  roomId := "r"
  steps := [{ id := "e", data := .endGame }]
  branches := [{ id := "b", name := "b", cooldownMs, stepCount := 1 }]

/-- Without further members the branch has the default everywhere, and comes back. -/
theorem scenario_round_trip_exact_ending : RoundTrips emptyParams (endingStored 0) ∧
      (endingStored 0).Importable emptyParams := by
  have himport : importScenario emptyParams (endingScenario []) = .ok (endingStored 0) := by rfl
  have hplain : ∀ branch ∈ (endingStored 0).branches, branch.Plain := by
    intro branch hbranch _
    cases List.mem_singleton.1 hbranch
    decide
  have htrips := ((scenario_round_trip_exact emptyParams emptyParams_faithful).1 _ _ himport).2
    hplain
  have hvalid : (endingStored 0).validateStructural = .ok := by decide
  exact ⟨htrips, (((scenario_round_trip_exact emptyParams emptyParams_faithful).2 _ hvalid).1
    htrips).1⟩

/-- One step that waits for an event, with a timeout. -/
def timedWaitStored : Stored.Scenario where
  id := "s"
  name := "s"
  roomId := "r"
  steps :=
    [{ id := "w", data := .waitAnyDeviceEvent
        { events := [{ deviceId := "d", eventId := "e" }], timeoutMs := 1000 } }]

/-- The importer reads a cooldown on a normal branch and the exporter does not
    write it; the exporter writes the timeout of a wait for several events and the
    importer does not read it. -/
theorem export_loses_cooldown_and_timeout :
    (∃ obj s, importScenario emptyParams obj = .ok s ∧ ¬ RoundTrips emptyParams s) ∧
      ∃ s : Stored.Scenario, s.validateStructural = .ok ∧
        (∀ branch ∈ s.branches, branch.Plain) ∧ ¬ RoundTrips emptyParams s := by
  constructor
  · refine ⟨endingScenario [("cooldown_ms", .number 1000)], endingStored 1000, by rfl, ?_⟩
    intro h
    have hplain := h.plain _ List.mem_cons_self rfl
    exact absurd hplain.2.1 (by decide)
  refine ⟨timedWaitStored, by decide, fun branch h => absurd h List.not_mem_nil, ?_⟩
  rintro ⟨obj, -, hread⟩
  rcases (importScenario_importable hread).1.body with ⟨-, -, -, hsteps⟩ | ⟨hne, -⟩
  · have hdata : WaitGroupEvents.Importable _ := (hsteps _ List.mem_cons_self).data
    exact absurd hdata.timeoutMs (by decide)
  · exact hne rfl

end SceneHub
