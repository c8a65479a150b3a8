import SceneHub.Theory.Importable

/-!
# What the Import of a Reaction Leaves Behind

A reaction lies in three tables that grow from branch to branch: its variants,
their actions, and the commands of the groups among these. Its description is a
relation of the tables before it and the tables behind it, and every record
begins where its table ended.

The writer looks into the tables of the finished scenario, of which those at
hand are a prefix.

## Main definitions

* `Tables.Prefix`: Tables that may still grow.
* `Stored.Action.Importable`, `Stored.Variant.Importable`,
  `Stored.Reaction.Importable`: What the importer can produce between two tables.

## Theorems

* `importReaction_importable`: What is read as a reaction answers the description.
* `reactionFields_again`: What answers it is written so that it reads the same.
-/

namespace SceneHub

open Lib (readAll readFrom Runs bind_eq_ok_iff)
open Json Stored

variable {t t' : Tables} {groups groups' : List DeviceCommand} {startIndex count : Nat}
  {s : Stored.Scenario} {reaction : Stored.Reaction} {variant : Stored.Variant}
  {trigger : Stored.Trigger} {data : Stored.ActionData} {flag : String}

/-! ### Tables -/

structure Tables.Prefix (t u : Tables) : Prop where
  variants : t.variants <+: u.variants
  actions : t.actions <+: u.actions
  groupCommands : t.groupCommands <+: u.groupCommands

theorem Tables.Prefix.refl (t : Tables) : t.Prefix t :=
  ⟨List.prefix_rfl, List.prefix_rfl, List.prefix_rfl⟩

theorem Tables.Prefix.trans {t u v : Tables} (h : t.Prefix u) (h' : u.Prefix v) : t.Prefix v :=
  ⟨h.variants.trans h'.variants, h.actions.trans h'.actions,
    h.groupCommands.trans h'.groupCommands⟩

def Stored.Scenario.tables (s : Stored.Scenario) : Tables where
  variants := s.reactiveVariants
  actions := s.reactiveActions
  groupCommands := s.reactiveGroupCommands

/-- A range behind what a table had is still the same range when the table grows. -/
theorem slice_initial {α : Type} {before items table : List α}
    (h : before ++ items <+: table) : slice table before.length items.length = some items := by
  rcases h with ⟨rest, rfl⟩
  unfold slice
  rw [if_neg, List.append_assoc, List.drop_left, List.take_left]
  simp only [List.length_append]
  omega

/-! ### The description -/

section

variable (cj : CJson)

/-- The data of an action. Only a group of commands needs a table. -/
def Stored.ActionData.Importable (groups : List DeviceCommand) (data : Stored.ActionData)
    (groups' : List DeviceCommand) : Prop :=
  match data with
  | .deviceCommandGroup _ startIndex count => ∃ commands, commands ≠ [] ∧
    startIndex = groups.length ∧ count = commands.length ∧ groups' = groups ++ commands ∧
    groups'.length ≤ maxReactiveGroupCommands ∧ ∀ command ∈ commands, command.Importable cj
  | .deviceCommand command => groups' = groups ∧ command.Importable cj
  | .setFlag flag => groups' = groups ∧ flag.Importable
  | .showOperatorMessage message => groups' = groups ∧ Filled message messageMaxLen
  | .waitTime _ | .failReaction | .resetReaction => groups' = groups
  | _ => False

structure Stored.Action.Importable (groups : List DeviceCommand) (action : Stored.Action)
    (groups' : List DeviceCommand) : Prop where
  id : Fits action.id idMaxLen
  label : Fits action.label nameMaxLen
  data : action.data.Importable cj groups groups'

/-- A range of actions that was read into the tables. -/
def ActionsImportable (t : Tables) (startIndex count : Nat) (t' : Tables) : Prop :=
  ∃ actions groupCommands, actions ≠ [] ∧ startIndex = t.actions.length ∧
    count = actions.length ∧
    Runs (Stored.Action.Importable cj) t.groupCommands actions groupCommands ∧
    t' = { t with actions := t.actions ++ actions, groupCommands := groupCommands } ∧
    t'.actions.length ≤ maxReactiveActions

structure Stored.Variant.Importable (t : Tables) (variant : Stored.Variant) (t' : Tables) :
    Prop where
  id : Filled variant.id idMaxLen
  label : Fits variant.label nameMaxLen
  actions : ActionsImportable cj t variant.actionStartIndex variant.actionCount t'

/-- A trigger has the members of its kind and no others. -/
def Stored.Trigger.Importable (trigger : Stored.Trigger) : Prop :=
  match trigger.kind with
  | .deviceEvent => Filled trigger.deviceId idMaxLen ∧ Filled trigger.eventId idMaxLen ∧
    trigger = { kind := .deviceEvent, deviceId := trigger.deviceId, eventId := trigger.eventId }
  | .anyDeviceEvents =>
    ImportableGroup waitEventGroupMaxEvents WaitDeviceEvent.Importable trigger.events ∧
    trigger = { kind := .anyDeviceEvents, events := trigger.events }
  | .allDeviceEvents =>
    ImportableGroup waitEventGroupMaxEvents WaitDeviceEvent.Importable trigger.events ∧
    trigger = { kind := .allDeviceEvents, events := trigger.events }
  | .flagChanged => Filled trigger.flagName idMaxLen ∧
    trigger = { kind := .flagChanged, flagName := trigger.flagName }
  | .operatorEvent => Filled trigger.operatorEvent idMaxLen ∧
    trigger = { kind := .operatorEvent, operatorEvent := trigger.operatorEvent }
  | .runtimeEvent => Filled trigger.runtimeEvent idMaxLen ∧
    trigger = { kind := .runtimeEvent, runtimeEvent := trigger.runtimeEvent }
  | .none => False

/-- The actions behind a reaction, which may be none. -/
def OnCompleteImportable (t : Tables) (startIndex count : Nat) (t' : Tables) : Prop :=
  (startIndex = 0 ∧ count = 0 ∧ t' = t) ∨ ActionsImportable cj t startIndex count t'

/-- The variants' actions come first, then the variants are added, and the
    actions behind the reaction come last. -/
structure Stored.Reaction.Importable (t : Tables) (reaction : Stored.Reaction) (t' : Tables) :
    Prop where
  trigger : reaction.trigger.Importable
  guardCount : reaction.guardFlags.length ≤ waitFlagsMaxFlags
  guardFlags : ∀ flag ∈ reaction.guardFlags, flag.Importable
  resultFlag : Fits reaction.resultFlag idMaxLen
  variantStartIndex : reaction.variantStartIndex = t.variants.length
  variants : ∃ variants u, variants ≠ [] ∧ reaction.variantCount = variants.length ∧
    t.variants.length + variants.length ≤ maxReactiveVariants ∧
    Runs (Stored.Variant.Importable cj) t variants u ∧
    OnCompleteImportable cj { u with variants := t.variants ++ variants }
      reaction.onCompleteActionStartIndex reaction.onCompleteActionCount t'

end

section

variable {cj : CJson} {obj : Json}

/-! ### Tables only grow -/

theorem Stored.ActionData.Importable.grows (h : data.Importable cj groups groups') :
    groups <+: groups' := by
  cases data with
  | deviceCommandGroup mode startIndex count =>
    rcases h with ⟨commands, -, -, -, rfl, -⟩
    exact List.prefix_append groups commands
  | waitTime _ => exact h ▸ List.prefix_rfl
  | failReaction => exact h ▸ List.prefix_rfl
  | resetReaction => exact h ▸ List.prefix_rfl
  | deviceCommand _ => exact h.1 ▸ List.prefix_rfl
  | setFlag _ => exact h.1 ▸ List.prefix_rfl
  | showOperatorMessage _ => exact h.1 ▸ List.prefix_rfl
  | _ => exact h.elim

theorem runs_actions_grow {actions : List Stored.Action}
    (h : Runs (Stored.Action.Importable cj) groups actions groups') : groups <+: groups' := by
  induction h with
  | nil groups => exact List.prefix_rfl
  | cons head tail ih => exact head.data.grows.trans ih

theorem ActionsImportable.grows (h : ActionsImportable cj t startIndex count t') : t.Prefix t' := by
  rcases h with ⟨actions, groupCommands, -, -, -, hruns, rfl, -⟩
  refine ⟨List.prefix_rfl, List.prefix_append t.actions actions, ?_⟩
  exact runs_actions_grow hruns

theorem OnCompleteImportable.grows (h : OnCompleteImportable cj t startIndex count t') :
    t.Prefix t' := by
  rcases h with ⟨-, -, rfl⟩ | h
  · exact .refl _
  · exact h.grows

theorem Stored.Variant.Importable.variants_eq (h : variant.Importable cj t t') :
    t'.variants = t.variants := by
  rcases h.actions with ⟨_, _, -, -, -, -, rfl, -⟩
  rfl

theorem runs_variants_eq {t u : Tables} {variants : List Stored.Variant}
    (h : Runs (Stored.Variant.Importable cj) t variants u) : u.variants = t.variants := by
  induction h with
  | nil t => rfl
  | cons head tail ih => exact ih.trans head.variants_eq

theorem runs_variants_grow {t u : Tables} {variants : List Stored.Variant}
    (h : Runs (Stored.Variant.Importable cj) t variants u) : t.Prefix u := by
  induction h with
  | nil t => exact .refl t
  | cons head tail ih => exact head.actions.grows.trans ih

theorem Stored.Reaction.Importable.grows (h : reaction.Importable cj t t') : t.Prefix t' := by
  rcases h.variants with ⟨variants, u, -, -, -, hruns, hcomplete⟩
  have hu := runs_variants_grow hruns
  have hadd : t.Prefix { u with variants := t.variants ++ variants } :=
    ⟨List.prefix_append _ _, hu.actions, hu.groupCommands⟩
  exact hadd.trans hcomplete.grows

/-! ### Actions -/

theorem importActionFlagName_filled {name : String} (h : importActionFlagName obj = .ok name) :
    Filled name idMaxLen := by
  rcases bind_eq_ok_iff.1 h with ⟨flag, hflag, h⟩
  by_cases hne : flag ≠ ""
  · rw [if_pos hne] at h
    cases h
    exact ⟨hne, stringOptional_fits (by decide) hflag⟩
  · rw [if_neg hne] at h
    exact stringRequired_filled h

theorem importActionFlagName_eq {name : String} (h : Filled name idMaxLen)
    (hget : obj.get "flag" = some (.string name)) : importActionFlagName obj = .ok name :=
  bind_eq_ok_iff.2 ⟨name, stringOptional_eq h.2 hget, if_pos h.1⟩

theorem importActionData_importable {type : StepType}
    (h : importActionData cj groups obj type = .ok (data, groups')) :
    data.Importable cj groups groups' := by
  cases type with
  | deviceCommand =>
    rcases bind_eq_ok_iff.1 h with ⟨command, hcommand, h⟩
    cases h
    exact ⟨rfl, importCommand_importable hcommand⟩
  | deviceCommandGroup =>
    unfold importActionData at h
    dsimp only at h
    split at h
    · cases h
    rename_i hlen
    rcases bind_eq_ok_iff.1 h with ⟨mode, -, h⟩
    rcases bind_eq_ok_iff.1 h with ⟨commands, hcommands, h⟩
    cases h
    have hcount := Lib.readAll_length _ _ hcommands
    refine ⟨commands, fun hnil => hlen (.inl ?_), rfl, hcount.symm, rfl, ?_,
      Lib.readAll_mem (fun _ _ => importCommand_importable) _ _ hcommands⟩
    · rw [← hcount, hnil]
      rfl
    · rw [List.length_append, hcount]
      exact Nat.not_lt.1 fun hlt => hlen (.inr hlt)
  | waitTime =>
    rcases bind_eq_ok_iff.1 h with ⟨durationMs, -, h⟩
    rcases bind_eq_ok_iff.1 h with ⟨timeoutAction, -, h⟩
    cases h
    rfl
  | setFlag =>
    rcases bind_eq_ok_iff.1 h with ⟨name, hname, h⟩
    rcases bind_eq_ok_iff.1 h with ⟨value, -, h⟩
    cases h
    exact ⟨rfl, importActionFlagName_filled hname⟩
  | showOperatorMessage =>
    rcases bind_eq_ok_iff.1 h with ⟨message, hmessage, h⟩
    cases h
    exact ⟨rfl, stringRequired_filled hmessage⟩
  | failReaction =>
    cases h
    rfl
  | resetReaction =>
    cases h
    rfl
  | _ => cases h

theorem importAction_importable {action : Stored.Action}
    (h : importAction cj groups obj = .ok (action, groups')) :
    action.Importable cj groups groups' := by
  rcases bind_eq_ok_iff.1 h with ⟨id, hid, h⟩
  rcases bind_eq_ok_iff.1 h with ⟨label, hlabel, h⟩
  rcases bind_eq_ok_iff.1 h with ⟨type, -, h⟩
  rcases bind_eq_ok_iff.1 h with ⟨⟨data, t⟩, hdata, h⟩
  cases h
  exact ⟨stringOptional_fits (by decide) hid, stringOptional_fits (by decide) hlabel,
    importActionData_importable hdata⟩

def actionNames : List String := ["id", "label", "type"]

theorem actionFields_again (hcj : cj.Faithful) {groups groups' table : List DeviceCommand}
    (hd : data.Importable cj groups groups') (htable : groups' <+: table) :
    ∃ fields, actionFields cj table data = .ok fields ∧
      (∀ name ∈ fields.map Prod.fst, name ∉ actionNames) ∧
      ∀ obj : Json, obj.Shows fields →
        importActionData cj groups obj (ActionData.type data) = .ok (data, groups') := by
  cases data with
  | deviceCommandGroup mode startIndex count =>
    rcases hd with ⟨commands, hne, rfl, rfl, rfl, hlen, hcommands⟩
    rcases Lib.exists_readAll (fun _ => exportCommand_again hcj) commands hcommands with
      ⟨items, hwrite, hread⟩
    have hcount := Lib.readAll_length items commands hread
    refine ⟨[("mode", some (.string mode.toStr)), ("commands", some (.array items))], ?_,
      by simp [actionNames], fun obj hshows => ?_⟩
    · unfold actionFields
      simp only [slice_initial htable]
      exact bind_eq_ok_iff.2 ⟨items, hwrite, rfl⟩
    simp [Shows] at hshows
    unfold ActionData.type importActionData
    rw [items_eq hshows.2, if_neg]
    · refine bind_eq_ok_iff.2 ⟨mode, enumOr_eq (GroupMode.fromStr_toStr mode) hshows.1, ?_⟩
      refine bind_eq_ok_iff.2 ⟨commands, hread, ?_⟩
      rw [hcount]
      rfl
    rw [List.length_append, hcount] at hlen
    rintro (hzero | hlt)
    · exact hne (List.length_eq_zero_iff.1 (hcount.trans hzero))
    · exact absurd hlt (Nat.not_lt.2 hlen)
  | deviceCommand command =>
    rcases hd with ⟨rfl, hcommand⟩
    rcases commandFields_again hcj hcommand with ⟨fields, hfields, hnames, hagain⟩
    refine ⟨fields, hfields, ?_, fun obj hshows => ?_⟩
    · rw [hnames]
      decide
    · exact bind_eq_ok_iff.2 ⟨command, hagain obj hshows, rfl⟩
  | waitTime wait =>
    rcases wait with ⟨durationMs, timeoutAction⟩
    cases hd
    refine ⟨_, rfl, by simp [actionNames, timeoutActionField], fun obj hshows => ?_⟩
    simp [Shows, timeoutActionField] at hshows
    refine bind_eq_ok_iff.2 ⟨durationMs, uint32Required_eq hshows.1, ?_⟩
    refine bind_eq_ok_iff.2 ⟨timeoutAction, ?_, rfl⟩
    -- The default is left out, and read as itself.
    by_cases hdefault : timeoutAction = .continue
    · rw [if_pos hdefault] at hshows
      rw [hdefault]
      exact enumOrNull_none hshows.2
    · rw [if_neg hdefault] at hshows
      exact enumOrNull_eq (TimeoutAction.fromStr_toStr timeoutAction) hshows.2
  | setFlag flag =>
    rcases hd with ⟨rfl, hflag⟩
    refine ⟨_, rfl, by simp [actionNames], fun obj hshows => ?_⟩
    simp [Shows] at hshows
    refine bind_eq_ok_iff.2 ⟨flag.name, importActionFlagName_eq hflag hshows.1, ?_⟩
    exact bind_eq_ok_iff.2 ⟨flag.value, boolRequired_eq hshows.2, rfl⟩
  | showOperatorMessage message =>
    rcases hd with ⟨rfl, hmessage⟩
    refine ⟨_, rfl, by simp [actionNames], fun obj hshows => ?_⟩
    simp [Shows] at hshows
    exact bind_eq_ok_iff.2 ⟨message, stringRequired_eq hmessage hshows, rfl⟩
  | failReaction | resetReaction =>
    cases hd
    exact ⟨[], rfl, by decide, fun _ _ => rfl⟩
  | _ => exact hd.elim

theorem exportAction_again (hcj : cj.Faithful) {groups groups' table : List DeviceCommand}
    {action : Stored.Action} (ha : action.Importable cj groups groups')
    (htable : groups' <+: table) : ∃ obj, exportAction cj table action = .ok obj ∧
      importAction cj groups obj = .ok (action, groups') := by
  rcases actionFields_again hcj ha.data htable with ⟨fields, hfields, hnames, hagain⟩
  refine ⟨_, bind_eq_ok_iff.2 ⟨fields, hfields, rfl⟩, ?_⟩
  rcases (shows_ofFields (commonActionFields action ++ fields)).split actionNames
    (fun _ h => h) hnames with ⟨hcommon, hbody⟩
  have hdata := hagain _ hbody
  unfold commonActionFields at hcommon
  simp [Shows] at hcommon
  rcases hcommon with ⟨hid, hlabel, htype⟩
  refine bind_eq_ok_iff.2 ⟨_, stringOptional_nonEmpty ha.id hid, ?_⟩
  refine bind_eq_ok_iff.2 ⟨_, stringOptional_nonEmpty ha.label hlabel, ?_⟩
  refine bind_eq_ok_iff.2 ⟨_, enumRequired_eq (StepType.fromStr_toStr _) htype, ?_⟩
  exact bind_eq_ok_iff.2 ⟨_, hdata, rfl⟩

theorem importActions_importable {items : List Json}
    (h : importActions cj t items = .ok ((startIndex, count), t')) :
    ActionsImportable cj t startIndex count t' := by
  unfold importActions at h
  split at h
  · cases h
  rename_i hlen
  rcases bind_eq_ok_iff.1 h with ⟨⟨actions, groupCommands⟩, hactions, h⟩
  cases h
  have hcount := Lib.readFrom_length _ _ _ _ hactions
  have hruns : Runs (Stored.Action.Importable cj) t.groupCommands actions groupCommands :=
    Lib.readFrom_runs (R := Stored.Action.Importable cj)
      (fun _ _ _ _ => importAction_importable) _ _ _ _ hactions
  refine ⟨actions, groupCommands, fun hnil => hlen (.inl ?_), rfl, hcount.symm, hruns, rfl, ?_⟩
  · rw [← hcount, hnil]
    rfl
  · rw [List.length_append, hcount]
    exact Nat.not_lt.1 fun hlt => hlen (.inr hlt)

theorem exportActions_again (hcj : cj.Faithful) (h : ActionsImportable cj t startIndex count t')
    (hs : t'.Prefix s.tables) :
    ∃ items, exportActions cj s startIndex count = .ok items ∧ items ≠ [] ∧
      importActions cj t items = .ok ((startIndex, count), t') := by
  rcases h with ⟨actions, groupCommands, hne, rfl, rfl, hruns, rfl, hlen⟩
  rcases hruns.exists_readFrom (fun _ _ _ ha hpre => ha.data.grows.trans hpre)
    (fun _ _ _ ha (_ : True) hpre => exportAction_again hcj ha hpre) (fun _ _ => trivial)
    hs.groupCommands with ⟨items, hwrite, hread⟩
  have hcount := Lib.readFrom_length _ _ _ _ hread
  have hitems : items ≠ [] := by
    rintro rfl
    exact hne (List.length_eq_zero_iff.1 hcount)
  refine ⟨items, ?_, hitems, ?_⟩
  · unfold exportActions
    rw [show slice s.reactiveActions t.actions.length actions.length = some actions from
      slice_initial hs.actions]
    exact hwrite
  unfold importActions
  rw [List.length_append, hcount] at hlen
  rw [if_neg]
  · refine bind_eq_ok_iff.2 ⟨_, hread, ?_⟩
    rw [hcount]
    rfl
  · rintro (hzero | hlt)
    · exact hitems (List.length_eq_zero_iff.1 hzero)
    · exact absurd hlt (Nat.not_lt.2 hlen)

/-! ### Variants -/

theorem importVariant_importable (h : importVariant cj t obj = .ok (variant, t')) :
    variant.Importable cj t t' := by
  rcases bind_eq_ok_iff.1 h with ⟨id, hid, h⟩
  rcases bind_eq_ok_iff.1 h with ⟨label, hlabel, h⟩
  rcases bind_eq_ok_iff.1 h with ⟨⟨⟨start, count⟩, u⟩, hactions, h⟩
  cases h
  exact ⟨stringRequired_filled hid, stringOptional_fits (by decide) hlabel,
    importActions_importable hactions⟩

theorem exportVariant_again (hcj : cj.Faithful) (hv : variant.Importable cj t t')
    (hs : t'.Prefix s.tables) : ∃ obj, exportVariant cj s variant = .ok obj ∧
      importVariant cj t obj = .ok (variant, t') := by
  rcases exportActions_again hcj hv.actions hs with ⟨items, hwrite, -, hread⟩
  refine ⟨_, bind_eq_ok_iff.2 ⟨items, hwrite, rfl⟩, ?_⟩
  refine bind_eq_ok_iff.2 ⟨variant.id, stringRequired_eq hv.id ?_, ?_⟩
  · simp [get_ofFields]
  refine bind_eq_ok_iff.2 ⟨variant.label, stringOptional_eq hv.label ?_, ?_⟩
  · simp [get_ofFields]
  have hitems : items = Json.items (ofFields
      [("id", some (.string variant.id)), ("label", some (.string variant.label)),
        ("actions", some (.array items))]) "actions" :=
    (items_eq (by simp [get_ofFields])).symm
  rw [← hitems]
  exact bind_eq_ok_iff.2 ⟨_, hread, rfl⟩

/-! ### Triggers -/

theorem importTrigger_importable (h : importTrigger obj = .ok trigger) : trigger.Importable := by
  rcases bind_eq_ok_iff.1 h with ⟨kind, -, h⟩
  cases kind with
  | none => cases h
  | deviceEvent =>
    rcases bind_eq_ok_iff.1 h with ⟨deviceId, hdevice, h⟩
    rcases bind_eq_ok_iff.1 h with ⟨eventId, hevent, h⟩
    cases h
    exact ⟨stringRequired_filled hdevice, stringRequired_filled hevent, rfl⟩
  | anyDeviceEvents | allDeviceEvents =>
    rcases bind_eq_ok_iff.1 h with ⟨items, hitems, h⟩
    rcases bind_eq_ok_iff.1 h with ⟨events, hevents, h⟩
    cases h
    exact ⟨group_importable (fun _ _ => importEventRef_importable) hitems hevents, rfl⟩
  | flagChanged =>
    rcases bind_eq_ok_iff.1 h with ⟨flagName, hflag, h⟩
    cases h
    exact ⟨stringRequired_filled hflag, rfl⟩
  | operatorEvent =>
    rcases bind_eq_ok_iff.1 h with ⟨operatorEvent, hevent, h⟩
    cases h
    exact ⟨stringRequired_filled hevent, rfl⟩
  | runtimeEvent =>
    rcases bind_eq_ok_iff.1 h with ⟨runtimeEvent, hevent, h⟩
    cases h
    exact ⟨stringRequired_filled hevent, rfl⟩

theorem get_triggerEvents (hne : trigger.events ≠ []) : (exportTrigger trigger).get "events" =
      some (.array (trigger.events.map exportEventRef)) := by
  simp [exportTrigger, get_ofFields, List.length_pos_iff, hne]

theorem get_triggerKind (trigger : Stored.Trigger) :
    (exportTrigger trigger).get "kind" = some (.string trigger.kind.toStr) := by
  simp [exportTrigger, get_ofFields]

theorem nonEmpty_filled {s : String} {maxLen : Nat} (h : Filled s maxLen) :
    nonEmpty s = some (.string s) := if_pos h.1

/-- Three kinds of trigger share a name for their event. A trigger has only the
    members of its own kind, so the first that is there is the right one. -/
theorem exportTrigger_again (h : trigger.Importable) :
    importTrigger (exportTrigger trigger) = .ok trigger := by
  unfold Stored.Trigger.Importable at h
  have hkind : trigger.kind ≠ .none := by
    intro hnone
    rw [hnone] at h
    exact h
  refine bind_eq_ok_iff.2 ⟨trigger.kind, enumRequired_eq
    (TriggerKind.fromStr_toStr trigger.kind hkind) (get_triggerKind trigger), ?_⟩
  rcases trigger with ⟨kind, deviceId, eventId, events, flagName, runtimeEvent, operatorEvent⟩
  cases kind with
  | none => exact h.elim
  | deviceEvent =>
    rcases h with ⟨hdevice, hevent, heq⟩
    cases heq
    refine bind_eq_ok_iff.2 ⟨deviceId, stringRequired_eq hdevice ?_, ?_⟩
    · simp [exportTrigger, get_ofFields, nonEmpty_filled hdevice]
    refine bind_eq_ok_iff.2 ⟨eventId, stringRequired_eq hevent ?_, rfl⟩
    simp [exportTrigger, get_ofFields, nonEmpty_filled hevent]
  | anyDeviceEvents | allDeviceEvents =>
    rcases h with ⟨hevents, heq⟩
    cases heq
    have hread := exportEvents_again hevents.2.2
    refine bind_eq_ok_iff.2 ⟨_, group_again hevents hread (get_triggerEvents hevents.1), ?_⟩
    exact bind_eq_ok_iff.2 ⟨events, hread, rfl⟩
  | flagChanged =>
    rcases h with ⟨hflag, heq⟩
    cases heq
    refine bind_eq_ok_iff.2 ⟨flagName, stringRequired_eq hflag ?_, rfl⟩
    simp [exportTrigger, get_ofFields, nonEmpty_filled hflag]
  | operatorEvent =>
    rcases h with ⟨hevent, heq⟩
    cases heq
    refine bind_eq_ok_iff.2 ⟨operatorEvent, stringRequired_eq hevent ?_, rfl⟩
    simpa [exportTrigger, get_ofFields, nonEmpty] using hevent.1
  | runtimeEvent =>
    rcases h with ⟨hevent, heq⟩
    cases heq
    refine bind_eq_ok_iff.2 ⟨runtimeEvent, stringRequired_eq hevent ?_, rfl⟩
    simpa [exportTrigger, get_ofFields, nonEmpty] using hevent.1

/-! ### Results and completion -/

theorem importResultFlag_fits (h : importResultFlag obj = .ok flag) : Fits flag idMaxLen := by
  rcases bind_eq_ok_iff.1 h with ⟨first, hfirst, h⟩
  by_cases hne : first ≠ ""
  · rw [if_pos hne] at h
    cases h
    exact stringOptional_fits (by decide) hfirst
  · rw [if_neg hne] at h
    exact stringOptional_fits (by decide) h

theorem importResultFlag_eq (h : Fits flag idMaxLen) (hget : obj.get "flag" = nonEmpty flag)
    (hold : obj.get "timeout_flag" = none) : importResultFlag obj = .ok flag := by
  refine bind_eq_ok_iff.2 ⟨flag, stringOptional_nonEmpty h hget, ?_⟩
  by_cases hne : flag ≠ ""
  · rw [if_pos hne]
    rfl
  -- Without a flag the older name is tried, which is never written.
  rw [if_neg hne, Decidable.not_not.1 hne]
  unfold stringOptional
  rw [hold]

theorem importResultPolicy_fits {onDone onFail onTimeout : ResultAction}
    (h : importResultPolicy obj = .ok (onDone, onFail, onTimeout, flag)) : Fits flag idMaxLen := by
  unfold importResultPolicy at h
  split at h
  · cases h
    exact (by decide : 0 < idMaxLen)
  · rcases bind_eq_ok_iff.1 h with ⟨done, -, h⟩
    rcases bind_eq_ok_iff.1 h with ⟨fail, -, h⟩
    rcases bind_eq_ok_iff.1 h with ⟨timeout, -, h⟩
    rcases bind_eq_ok_iff.1 h with ⟨resultFlag, hflag, h⟩
    cases h
    exact importResultFlag_fits hflag
  · cases h

theorem importResultPolicy_eq {onDone onFail onTimeout : ResultAction} (h : Fits flag idMaxLen)
    (hget : obj.get "result_policy" = some (ofFields
      [("on_done", some (.string onDone.toStr)), ("on_fail", some (.string onFail.toStr)),
        ("on_timeout", some (.string onTimeout.toStr)), ("flag", nonEmpty flag)])) :
    importResultPolicy obj = .ok (onDone, onFail, onTimeout, flag) := by
  unfold importResultPolicy
  rw [hget]
  refine bind_eq_ok_iff.2 ⟨onDone, enumOr_eq (ResultAction.fromStr_toStr onDone) ?_, ?_⟩
  · exact (get_ofFields _ _).trans (by simp)
  refine bind_eq_ok_iff.2 ⟨onFail, enumOr_eq (ResultAction.fromStr_toStr onFail) ?_, ?_⟩
  · exact (get_ofFields _ _).trans (by simp)
  refine bind_eq_ok_iff.2 ⟨onTimeout, enumOr_eq (ResultAction.fromStr_toStr onTimeout) ?_, ?_⟩
  · exact (get_ofFields _ _).trans (by simp)
  refine bind_eq_ok_iff.2 ⟨flag, importResultFlag_eq h ?_ ?_, rfl⟩
  · exact (get_ofFields _ _).trans (by simp)
  · exact (get_ofFields _ _).trans (by simp)

theorem importOnComplete_importable
    (h : importOnComplete cj t obj = .ok ((startIndex, count), t')) :
    OnCompleteImportable cj t startIndex count t' := by
  unfold importOnComplete at h
  split at h
  · cases h
    exact .inl ⟨rfl, rfl, rfl⟩
  · cases h
    exact .inl ⟨rfl, rfl, rfl⟩
  · exact .inr (importActions_importable h)
  · cases h

theorem exportOnComplete_again (hcj : cj.Faithful)
    (h : OnCompleteImportable cj t startIndex count t') (hs : t'.Prefix s.tables) :
    ∃ items, exportActions cj s startIndex count = .ok items ∧
      ∀ obj : Json, obj.get "on_complete" = some (.array items) →
        importOnComplete cj t obj = .ok ((startIndex, count), t') := by
  rcases h with ⟨rfl, rfl, rfl⟩ | h
  · refine ⟨[], ?_, fun obj hget => ?_⟩
    · unfold exportActions
      rw [show slice s.reactiveActions 0 0 = some [] from if_neg (Nat.not_lt_zero _)]
      rfl
    · unfold importOnComplete
      rw [hget]
  rcases exportActions_again hcj h hs with ⟨items, hwrite, hne, hread⟩
  refine ⟨items, hwrite, fun obj hget => ?_⟩
  unfold importOnComplete
  rw [hget]
  cases items with
  | nil => exact absurd rfl hne
  | cons item rest => exact hread

/-! ### Reactions -/

theorem importReaction_importable (h : importReaction cj t obj = .ok (reaction, t')) :
    reaction.Importable cj t t' := by
  unfold importReaction at h
  split at h
  · rcases bind_eq_ok_iff.1 h with ⟨trigger, htrigger, h⟩
    split at h
    · cases h
    rename_i hguards
    rcases bind_eq_ok_iff.1 h with ⟨guards, hread, h⟩
    split at h
    · cases h
    rename_i hlen
    rcases bind_eq_ok_iff.1 h with ⟨⟨variants, u⟩, hvariants, h⟩
    rcases bind_eq_ok_iff.1 h with ⟨⟨onDone, onFail, onTimeout, flag⟩, hresult, h⟩
    rcases bind_eq_ok_iff.1 h with ⟨⟨⟨start, count⟩, v⟩, hcomplete, h⟩
    cases h
    have hcount := Lib.readFrom_length _ _ _ _ hvariants
    have hruns : Runs (Stored.Variant.Importable cj) t variants u :=
      Lib.readFrom_runs (R := Stored.Variant.Importable cj)
        (fun _ _ _ _ => importVariant_importable) _ _ _ _ hvariants
    refine ⟨importTrigger_importable htrigger, ?_,
      Lib.readAll_mem (fun _ _ => importFlag_importable) _ _ hread,
      importResultPolicy_fits hresult, rfl, variants, u, fun hnil => hlen (.inl ?_),
      hcount.symm, ?_, hruns, importOnComplete_importable hcomplete⟩
    · rw [Lib.readAll_length _ _ hread]
      exact Nat.not_lt.1 hguards
    · rw [← hcount, hnil]
      rfl
    · rw [hcount]
      exact Nat.not_lt.1 fun hlt => hlen (.inr hlt)
  · cases h

theorem reactionFields_again (hcj : cj.Faithful) (h : reaction.Importable cj t t')
    (hs : t'.Prefix s.tables) : ∃ fields, reactionFields cj s reaction = .ok fields ∧
      fields.map Prod.fst =
        ["trigger", "guard_flags", "variants", "result_policy", "on_complete"] ∧
      (∃ items, fieldValue fields "variants" = some (.array items)) ∧
      ∀ obj : Json, obj.Shows fields → importReaction cj t obj = .ok (reaction, t') := by
  rcases h.variants with ⟨variants, u, hne, hvariantCount, hlen, hruns, hcomplete⟩
  have hadd : Tables.Prefix { u with variants := t.variants ++ variants } s.tables :=
    hcomplete.grows.trans hs
  have hu : u.Prefix s.tables := by
    refine ⟨?_, hadd.actions, hadd.groupCommands⟩
    rw [runs_variants_eq hruns]
    exact (List.prefix_append _ _).trans hadd.variants
  rcases hruns.exists_readFrom (fun _ _ _ hv hpre => hv.actions.grows.trans hpre)
    (fun _ _ _ hv (_ : True) hpre => exportVariant_again hcj hv hpre) (fun _ _ => trivial) hu
    with ⟨items, hwrite, hread⟩
  rcases exportOnComplete_again hcj hcomplete hs with ⟨complete, hwriteComplete, hreadComplete⟩
  have hcount := Lib.readFrom_length _ _ _ _ hread
  have hitems : items.length ≠ 0 := by
    rw [← hcount]
    exact fun hzero => hne (List.length_eq_zero_iff.1 hzero)
  have hguards := exportFlags_again "flag" h.guardFlags (by decide)
  refine ⟨[("trigger", some (exportTrigger reaction.trigger)),
    ("guard_flags", some (.array (reaction.guardFlags.map (exportFlag "flag")))),
    ("variants", some (.array items)),
    ("result_policy", some (ofFields
      [("on_done", some (.string reaction.resultOnDone.toStr)),
        ("on_fail", some (.string reaction.resultOnFail.toStr)),
        ("on_timeout", some (.string reaction.resultOnTimeout.toStr)),
        ("flag", nonEmpty reaction.resultFlag)])),
    ("on_complete", some (.array complete))], ?_, rfl, ⟨items, by simp⟩, fun obj hshows => ?_⟩
  · have hslice : slice s.reactiveVariants reaction.variantStartIndex reaction.variantCount =
        some variants := by
      rw [h.variantStartIndex, hvariantCount]
      exact slice_initial hadd.variants
    unfold reactionFields
    rw [hslice]
    refine bind_eq_ok_iff.2 ⟨items, hwrite, ?_⟩
    exact bind_eq_ok_iff.2 ⟨complete, hwriteComplete, rfl⟩
  simp [Shows] at hshows
  rcases hshows with ⟨htrigger, hguardItems, hvariants, hresult, honComplete⟩
  unfold importReaction
  rw [htrigger, hvariants, items_eq hguardItems]
  refine bind_eq_ok_iff.2 ⟨reaction.trigger, exportTrigger_again h.trigger, ?_⟩
  rw [if_neg (by rw [List.length_map]; exact Nat.not_lt.2 h.guardCount)]
  refine bind_eq_ok_iff.2 ⟨reaction.guardFlags, hguards, ?_⟩
  rw [if_neg (by omega)]
  refine bind_eq_ok_iff.2 ⟨(variants, u), hread, ?_⟩
  refine bind_eq_ok_iff.2 ⟨_, importResultPolicy_eq h.resultFlag hresult, ?_⟩
  refine bind_eq_ok_iff.2 ⟨_, hreadComplete obj honComplete, ?_⟩
  rw [← hcount, ← hvariantCount, ← h.variantStartIndex]
  rfl

end

end SceneHub
