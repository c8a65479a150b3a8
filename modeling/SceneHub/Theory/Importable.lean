import SceneHub.Storage.ExportScenario
import SceneHub.Storage.ImportScenario
import SceneHub.Theory.Fields

/-!
# What an Import Leaves Behind

The description at which the two directions of the scenario JSON meet, and the
two halves for steps and for the actions of a reaction: what is read answers
the description, and what answers it is written to a tree that reads the same.

A step is described by itself. A reaction lies in tables that grow from branch
to branch, and its description is a relation of the tables before it and the
tables behind it: each record begins where its table ended.

## Main definitions

* `CJson.Faithful`: A printed object that fits parses to itself.
* `Stored.Step.Importable`: A step the importer can produce.
* `Stored.Action.Importable`, `Stored.Variant.Importable`,
  `Stored.Reaction.Importable`: The same of a reaction between two tables.

## Theorems

* `importStep_importable`, `exportStep_again`: The two halves for a step.
* `importReaction_importable`, `exportReaction_again`: The two for a reaction.
-/

namespace SceneHub

open Lib (readAll readFrom Runs bind_eq_ok_iff)
open Json Stored

variable {command : DeviceCommand}

/-- What is assumed of `cJSON`: an object whose text fits into the parameters of a
    command is parsed from that text. -/
def CJson.Faithful (cj : CJson) : Prop :=
  ∀ members, (cj.print (.object members)).utf8ByteSize < paramsMaxLen →
    cj.parse (cj.print (.object members)) = some (.object members)

/-! ### The description -/

section

variable (cj : CJson)

/-- Its parameters are none, or the text of an object. -/
structure DeviceCommand.Importable (command : DeviceCommand) : Prop where
  deviceId : Filled command.deviceId idMaxLen
  commandId : Filled command.commandId idMaxLen
  params : command.paramsJson = "" ∨ ∃ members,
    command.paramsJson = cj.print (.object members) ∧ Fits command.paramsJson paramsMaxLen

/-- An event of a group has its two ids and nothing else. -/
structure Stored.WaitDeviceEvent.Importable (event : Stored.WaitDeviceEvent) : Prop where
  deviceId : Filled event.deviceId idMaxLen
  eventId : Filled event.eventId idMaxLen
  timeoutMs : event.timeoutMs = 0
  timeoutAction : event.timeoutAction = .continue
  timeoutMessage : event.timeoutMessage = ""

def Flag.Importable (flag : Flag) : Prop := Filled flag.name idMaxLen

/-- A counted group that is neither empty nor too long. -/
def ImportableGroup {α : Type} (max : Nat) (Importable : α → Prop) (items : List α) : Prop :=
  items ≠ [] ∧ items.length ≤ max ∧ ∀ item ∈ items, Importable item

/-- A wait for several events has no timeout of its own. -/
structure Stored.WaitGroupEvents.Importable (wait : Stored.WaitGroupEvents) : Prop where
  events : ImportableGroup waitEventGroupMaxEvents WaitDeviceEvent.Importable wait.events
  timeoutMs : wait.timeoutMs = 0
  timeoutAction : wait.timeoutAction = .continue

/-- The data of a step. No wait of a step has a timeout action. -/
def Stored.StepData.Importable : Stored.StepData → Prop
  | .waitTime wait => wait.timeoutAction = .continue
  | .deviceCommand command => command.Importable cj
  | .deviceCommandGroup group =>
    ImportableGroup commandGroupMaxCommands (DeviceCommand.Importable cj) group.commands
  | .waitDeviceEvent wait => Filled wait.deviceId idMaxLen ∧ Filled wait.eventId idMaxLen ∧
    wait.timeoutAction = .continue ∧ Fits wait.timeoutMessage messageMaxLen
  | .operatorApproval approval =>
    Filled approval.prompt promptMaxLen ∧ Fits approval.approveLabel idMaxLen
  | .showOperatorMessage message => Filled message messageMaxLen
  | .setFlag flag => flag.Importable
  | .waitFlags wait => ImportableGroup waitFlagsMaxFlags Flag.Importable wait.flags ∧
    wait.timeoutAction = .continue ∧ Fits wait.timeoutMessage messageMaxLen
  | .waitAnyDeviceEvent wait | .waitAllDeviceEvents wait => wait.Importable
  | .failReaction | .resetReaction => False
  | .endGame => True

structure Stored.Step.Importable (step : Stored.Step) : Prop where
  id : Filled step.id idMaxLen
  label : Fits step.label nameMaxLen
  operatorSkipLabel : Fits step.operatorSkipLabel idMaxLen
  data : step.data.Importable cj

end

/-! ### Parts of steps -/

section

variable {cj : CJson} {obj : Json}

theorem importParams_importable {params : String} (h : importParams cj obj = .ok params) :
    params = "" ∨ ∃ members, params = cj.print (.object members) ∧ Fits params paramsMaxLen := by
  unfold importParams at h
  split at h
  · cases h
    exact .inl rfl
  · cases h
    exact .inl rfl
  · rename_i members _
    split at h
    · cases h
    rename_i hlt
    cases h
    exact .inr ⟨members, rfl, Nat.not_le.1 hlt⟩
  · cases h

theorem exportParams_again (hcj : cj.Faithful) {params : String}
    (h : params = "" ∨ ∃ members, params = cj.print (.object members) ∧ Fits params paramsMaxLen) :
    ∃ value, exportParams cj params = .ok value ∧
      ∀ obj : Json, obj.get "params" = value → importParams cj obj = .ok params := by
  by_cases hempty : params = ""
  · refine ⟨none, if_pos hempty, fun obj hget => ?_⟩
    unfold importParams
    rw [hget, hempty]
  rcases h with h | ⟨members, rfl, hfits⟩
  · exact absurd h hempty
  refine ⟨some (.object members), ?_, fun obj hget => ?_⟩
  · unfold exportParams
    rw [if_neg hempty, hcj members hfits]
  unfold importParams
  rw [hget]
  exact if_neg (Nat.not_le.2 hfits)

theorem importCommand_importable (h : importCommand cj obj = .ok command) :
    command.Importable cj := by
  rcases bind_eq_ok_iff.1 h with ⟨deviceId, hdevice, h⟩
  rcases bind_eq_ok_iff.1 h with ⟨commandId, hcommand, h⟩
  rcases bind_eq_ok_iff.1 h with ⟨params, hparams, h⟩
  cases h
  exact ⟨stringRequired_filled hdevice, stringRequired_filled hcommand,
    importParams_importable hparams⟩

theorem commandFields_again (hcj : cj.Faithful) (hc : command.Importable cj) :
    ∃ fields, commandFields cj command = .ok fields ∧
      fields.map Prod.fst = ["device_id", "command_id", "params"] ∧
      ∀ obj : Json, obj.Shows fields → importCommand cj obj = .ok command := by
  rcases exportParams_again hcj hc.params with ⟨params, hexport, himport⟩
  refine ⟨_, bind_eq_ok_iff.2 ⟨params, hexport, rfl⟩, rfl, fun obj hshows => ?_⟩
  simp [Shows] at hshows
  rcases hshows with ⟨hdevice, hcommand, hparams⟩
  refine bind_eq_ok_iff.2 ⟨_, stringRequired_eq hc.deviceId hdevice, ?_⟩
  refine bind_eq_ok_iff.2 ⟨_, stringRequired_eq hc.commandId hcommand, ?_⟩
  exact bind_eq_ok_iff.2 ⟨_, himport obj hparams, rfl⟩

theorem exportCommand_again (hcj : cj.Faithful) (hc : command.Importable cj) :
    ∃ obj, exportCommand cj command = .ok obj ∧ importCommand cj obj = .ok command := by
  rcases commandFields_again hcj hc with ⟨fields, hfields, -, hagain⟩
  exact ⟨_, bind_eq_ok_iff.2 ⟨fields, hfields, rfl⟩, hagain _ (shows_ofFields fields)⟩

theorem importEventRef_importable {event : Stored.WaitDeviceEvent}
    (h : importEventRef obj = .ok event) : event.Importable := by
  rcases bind_eq_ok_iff.1 h with ⟨deviceId, hdevice, h⟩
  rcases bind_eq_ok_iff.1 h with ⟨eventId, hevent, h⟩
  cases h
  exact ⟨stringRequired_filled hdevice, stringRequired_filled hevent, rfl, rfl, rfl⟩

theorem exportEventRef_again {event : Stored.WaitDeviceEvent} (he : event.Importable) :
    importEventRef (exportEventRef event) = .ok event := by
  rcases event with ⟨deviceId, eventId, timeoutMs, timeoutAction, timeoutMessage⟩
  rcases he with ⟨hdevice, hevent, rfl, rfl, rfl⟩
  refine bind_eq_ok_iff.2 ⟨_, stringRequired_eq hdevice ?_, ?_⟩
  · simp [exportEventRef, get_ofFields]
  refine bind_eq_ok_iff.2 ⟨_, stringRequired_eq hevent ?_, rfl⟩
  simp [exportEventRef, get_ofFields]

theorem importFlag_importable {nameField : String} {flag : Flag}
    (h : importFlag nameField obj = .ok flag) : flag.Importable := by
  rcases bind_eq_ok_iff.1 h with ⟨name, hname, h⟩
  rcases bind_eq_ok_iff.1 h with ⟨value, -, h⟩
  cases h
  exact stringRequired_filled hname

theorem exportFlag_again {nameField : String} {flag : Flag} (hf : flag.Importable)
    (hname : nameField ≠ "value") :
    importFlag nameField (exportFlag nameField flag) = .ok flag := by
  refine bind_eq_ok_iff.2 ⟨flag.name, stringRequired_eq hf ?_, ?_⟩
  · simp [exportFlag, get_ofFields]
  refine bind_eq_ok_iff.2 ⟨flag.value, boolRequired_eq ?_, rfl⟩
  simp [exportFlag, get_ofFields, hname]

section

variable {α : Type} {P : α → Prop} {read : Json → Except EspErr α} {name : String} {max : Nat}
  {items : List Json} {values : List α}

theorem group_importable (hread : ∀ obj value, read obj = .ok value → P value)
    (hgroup : obj.group name max = .ok items) (h : readAll read items = .ok values) :
    ImportableGroup max P values := by
  rcases group_length hgroup with ⟨hne, hle⟩
  have hlen := Lib.readAll_length items values h
  refine ⟨fun hnil => hne ?_, hlen ▸ hle, Lib.readAll_mem hread items values h⟩
  rw [hnil] at hlen
  exact List.length_eq_zero_iff.1 hlen.symm

theorem group_again (hvalues : ImportableGroup max P values) (h : readAll read items = .ok values)
    (hget : obj.get name = some (.array items)) : obj.group name max = .ok items := by
  have hlen := Lib.readAll_length items values h
  refine group_eq (fun hnil => hvalues.1 ?_) (hlen ▸ hvalues.2.1) hget
  rw [hnil] at hlen
  exact List.length_eq_zero_iff.1 hlen

end

theorem exportEvents_again {events : List Stored.WaitDeviceEvent}
    (he : ∀ event ∈ events, event.Importable) :
    readAll importEventRef (events.map exportEventRef) = .ok events :=
  Lib.readAll_map events fun event h => exportEventRef_again (he event h)

theorem exportFlags_again (nameField : String) {flags : List Flag}
    (hf : ∀ flag ∈ flags, flag.Importable) (hname : nameField ≠ "value") :
    readAll (importFlag nameField) (flags.map (exportFlag nameField)) = .ok flags :=
  Lib.readAll_map flags fun flag h => exportFlag_again (hf flag h) hname

theorem timeoutActionField_continue : timeoutActionField .continue = ("timeout_action", none) := rfl

/-! ### Steps -/

theorem importWaitGroup_importable {wait : Stored.WaitGroupEvents} {items : List Json}
    {events : List Stored.WaitDeviceEvent}
    (hgroup : obj.group "events" waitEventGroupMaxEvents = .ok items)
    (hevents : readAll importEventRef items = .ok events) (h : wait = { events }) :
    wait.Importable := by
  subst h
  exact ⟨group_importable (fun _ _ => importEventRef_importable) hgroup hevents, rfl, rfl⟩

theorem importStepData_importable {type : StepType} {data : Stored.StepData}
    (h : importStepData cj obj type = .ok data) :
    data.Importable cj ∧ StepData.type data = type := by
  cases type with
  | waitTime =>
    rcases bind_eq_ok_iff.1 h with ⟨durationMs, -, h⟩
    cases h
    exact ⟨rfl, rfl⟩
  | operatorApproval =>
    rcases bind_eq_ok_iff.1 h with ⟨prompt, hprompt, h⟩
    rcases bind_eq_ok_iff.1 h with ⟨label, hlabel, h⟩
    cases h
    exact ⟨⟨stringRequired_filled hprompt, stringOptional_fits (by decide) hlabel⟩, rfl⟩
  | deviceCommand =>
    rcases bind_eq_ok_iff.1 h with ⟨command, hcommand, h⟩
    cases h
    exact ⟨importCommand_importable hcommand, rfl⟩
  | waitDeviceEvent =>
    rcases bind_eq_ok_iff.1 h with ⟨event, hevent, h⟩
    rcases bind_eq_ok_iff.1 h with ⟨timeoutMs, -, h⟩
    rcases bind_eq_ok_iff.1 h with ⟨message, hmessage, h⟩
    cases h
    have he := importEventRef_importable hevent
    exact ⟨⟨he.deviceId, he.eventId, he.timeoutAction,
      stringOptional_fits (by decide) hmessage⟩, rfl⟩
  | deviceCommandGroup =>
    rcases bind_eq_ok_iff.1 h with ⟨items, hitems, h⟩
    rcases bind_eq_ok_iff.1 h with ⟨commands, hcommands, h⟩
    cases h
    exact ⟨group_importable (fun _ _ => importCommand_importable) hitems hcommands, rfl⟩
  | showOperatorMessage =>
    rcases bind_eq_ok_iff.1 h with ⟨message, hmessage, h⟩
    cases h
    exact ⟨stringRequired_filled hmessage, rfl⟩
  | setFlag =>
    rcases bind_eq_ok_iff.1 h with ⟨flag, hflag, h⟩
    cases h
    exact ⟨importFlag_importable hflag, rfl⟩
  | waitFlags =>
    rcases bind_eq_ok_iff.1 h with ⟨items, hitems, h⟩
    rcases bind_eq_ok_iff.1 h with ⟨flags, hflags, h⟩
    rcases bind_eq_ok_iff.1 h with ⟨timeoutMs, -, h⟩
    rcases bind_eq_ok_iff.1 h with ⟨message, hmessage, h⟩
    cases h
    exact ⟨⟨group_importable (fun _ _ => importFlag_importable) hitems hflags, rfl,
      stringOptional_fits (by decide) hmessage⟩, rfl⟩
  | waitAnyDeviceEvent | waitAllDeviceEvents =>
    rcases bind_eq_ok_iff.1 h with ⟨items, hitems, h⟩
    rcases bind_eq_ok_iff.1 h with ⟨events, hevents, h⟩
    cases h
    exact ⟨importWaitGroup_importable hitems hevents rfl, rfl⟩
  | failReaction => cases h
  | resetReaction => cases h
  | endGame =>
    cases h
    exact ⟨trivial, rfl⟩

/-- The names of the fields every step has. No field of its data has one of them. -/
def stepNames : List String :=
  ["id", "label", "enabled", "type", "allow_operator_skip", "operator_skip_label"]

theorem groupWaitFields_again {wait : Stored.WaitGroupEvents} (hw : wait.Importable)
    (hshows : obj.Shows (groupWaitFields wait)) :
    ∃ items, obj.group "events" waitEventGroupMaxEvents = .ok items ∧
      readAll importEventRef items = .ok wait.events := by
  have hevents := exportEvents_again hw.events.2.2
  refine ⟨_, group_again hw.events hevents ?_, hevents⟩
  rw [hshows "events" List.mem_cons_self]
  rfl

theorem stepFields_again (hcj : cj.Faithful) {data : Stored.StepData} (hd : data.Importable cj) :
    ∃ fields, stepFields cj data = .ok fields ∧
      (∀ name ∈ fields.map Prod.fst, name ∉ stepNames) ∧
      ∀ obj : Json, obj.Shows fields →
        importStepData cj obj (StepData.type data) = .ok data := by
  cases data with
  | waitTime wait =>
    refine ⟨_, rfl, by simp [stepNames], fun obj hshows => ?_⟩
    rcases wait with ⟨durationMs, timeoutAction⟩
    cases hd
    simp [Shows] at hshows
    exact bind_eq_ok_iff.2 ⟨_, uint32Required_eq hshows, rfl⟩
  | operatorApproval approval =>
    refine ⟨_, rfl, by simp [stepNames], fun obj hshows => ?_⟩
    simp [Shows] at hshows
    refine bind_eq_ok_iff.2 ⟨_, stringRequired_eq hd.1 hshows.1, ?_⟩
    exact bind_eq_ok_iff.2 ⟨_, stringOptional_eq hd.2 hshows.2, rfl⟩
  | deviceCommand command =>
    rcases commandFields_again hcj hd with ⟨fields, hfields, hnames, hagain⟩
    refine ⟨fields, hfields, ?_, fun obj hshows => ?_⟩
    · rw [hnames]
      decide
    · exact bind_eq_ok_iff.2 ⟨command, hagain obj hshows, rfl⟩
  | waitDeviceEvent wait =>
    refine ⟨_, rfl, by simp [stepNames, timeoutActionField], fun obj hshows => ?_⟩
    rcases wait with ⟨deviceId, eventId, timeoutMs, timeoutAction, timeoutMessage⟩
    rcases hd with ⟨hdevice, hevent, rfl, hmessage⟩
    rw [timeoutActionField_continue] at hshows
    simp [Shows] at hshows
    rcases hshows with ⟨hdeviceId, heventId, htimeout, -, hmsg⟩
    have href : importEventRef obj = .ok { deviceId, eventId } := by
      refine bind_eq_ok_iff.2 ⟨_, stringRequired_eq hdevice hdeviceId, ?_⟩
      exact bind_eq_ok_iff.2 ⟨_, stringRequired_eq hevent heventId, rfl⟩
    refine bind_eq_ok_iff.2 ⟨_, href, ?_⟩
    refine bind_eq_ok_iff.2 ⟨_, uint32Optional_nonZero htimeout, ?_⟩
    exact bind_eq_ok_iff.2 ⟨_, stringOptional_nonEmpty hmessage hmsg, rfl⟩
  | deviceCommandGroup group =>
    rcases Lib.exists_readAll (fun _ => exportCommand_again hcj) group.commands hd.2.2 with
      ⟨items, hwrite, hread⟩
    refine ⟨_, bind_eq_ok_iff.2 ⟨items, hwrite, rfl⟩, by simp [stepNames], fun obj hshows => ?_⟩
    simp [Shows] at hshows
    refine bind_eq_ok_iff.2 ⟨items, group_again hd hread hshows, ?_⟩
    exact bind_eq_ok_iff.2 ⟨_, hread, rfl⟩
  | showOperatorMessage message =>
    refine ⟨_, rfl, by simp [stepNames], fun obj hshows => ?_⟩
    simp [Shows] at hshows
    exact bind_eq_ok_iff.2 ⟨_, stringRequired_eq hd hshows, rfl⟩
  | setFlag flag =>
    refine ⟨_, rfl, by simp [stepNames], fun obj hshows => ?_⟩
    simp [Shows] at hshows
    refine bind_eq_ok_iff.2 ⟨flag, ?_, rfl⟩
    refine bind_eq_ok_iff.2 ⟨_, stringRequired_eq hd hshows.1, ?_⟩
    exact bind_eq_ok_iff.2 ⟨_, boolRequired_eq hshows.2, rfl⟩
  | waitFlags wait =>
    refine ⟨_, rfl, by simp [stepNames, timeoutActionField], fun obj hshows => ?_⟩
    rcases wait with ⟨flags, timeoutMs, timeoutAction, timeoutMessage⟩
    rcases hd with ⟨hflags, rfl, hmessage⟩
    rw [timeoutActionField_continue] at hshows
    simp [Shows] at hshows
    rcases hshows with ⟨hitems, htimeout, -, hmsg⟩
    have hread := exportFlags_again "flag_name" hflags.2.2 (by decide)
    refine bind_eq_ok_iff.2 ⟨_, group_again hflags hread hitems, ?_⟩
    refine bind_eq_ok_iff.2 ⟨_, hread, ?_⟩
    refine bind_eq_ok_iff.2 ⟨_, uint32Optional_nonZero htimeout, ?_⟩
    exact bind_eq_ok_iff.2 ⟨_, stringOptional_nonEmpty hmessage hmsg, rfl⟩
  | waitAnyDeviceEvent wait | waitAllDeviceEvents wait =>
    refine ⟨_, rfl, by simp [stepNames, groupWaitFields, timeoutActionField], fun obj hshows => ?_⟩
    rcases groupWaitFields_again hd hshows with ⟨items, hitems, hread⟩
    rcases wait with ⟨events, timeoutMs, timeoutAction⟩
    rcases hd with ⟨-, rfl, rfl⟩
    exact bind_eq_ok_iff.2 ⟨items, hitems, bind_eq_ok_iff.2 ⟨_, hread, rfl⟩⟩
  | failReaction => exact hd.elim
  | resetReaction => exact hd.elim
  | endGame => exact ⟨[], rfl, by decide, fun obj _ => rfl⟩

theorem importStep_importable {step : Stored.Step} (h : importStep cj obj = .ok step) :
    step.Importable cj := by
  rcases bind_eq_ok_iff.1 h with ⟨id, hid, h⟩
  rcases bind_eq_ok_iff.1 h with ⟨label, hlabel, h⟩
  rcases bind_eq_ok_iff.1 h with ⟨enabled, -, h⟩
  rcases bind_eq_ok_iff.1 h with ⟨type, -, h⟩
  rcases bind_eq_ok_iff.1 h with ⟨allowSkip, -, h⟩
  rcases bind_eq_ok_iff.1 h with ⟨skipLabel, hskip, h⟩
  rcases bind_eq_ok_iff.1 h with ⟨data, hdata, h⟩
  cases h
  exact ⟨stringRequired_filled hid, stringOptional_fits (by decide) hlabel,
    stringOptional_fits (by decide) hskip, (importStepData_importable hdata).1⟩

theorem exportStep_again (hcj : cj.Faithful) {step : Stored.Step} (hs : step.Importable cj) :
    ∃ obj, exportStep cj step = .ok obj ∧ importStep cj obj = .ok step := by
  rcases stepFields_again hcj hs.data with ⟨fields, hfields, hnames, hagain⟩
  refine ⟨_, bind_eq_ok_iff.2 ⟨fields, hfields, rfl⟩, ?_⟩
  rcases (shows_ofFields (commonStepFields step ++ fields)).split stepNames (fun _ h => h) hnames
    with ⟨hcommon, hbody⟩
  have hdata := hagain _ hbody
  unfold commonStepFields at hcommon
  simp [Shows] at hcommon
  rcases hcommon with ⟨hid, hlabel, henabled, htype, hallow, hskip⟩
  refine bind_eq_ok_iff.2 ⟨_, stringRequired_eq hs.id hid, ?_⟩
  refine bind_eq_ok_iff.2 ⟨_, stringOptional_eq hs.label hlabel, ?_⟩
  refine bind_eq_ok_iff.2 ⟨_, boolOr_eq henabled, ?_⟩
  refine bind_eq_ok_iff.2 ⟨_, enumRequired_eq (StepType.fromStr_toStr _) htype, ?_⟩
  refine bind_eq_ok_iff.2 ⟨_, boolOr_set hallow, ?_⟩
  refine bind_eq_ok_iff.2 ⟨_, stringOptional_nonEmpty hs.operatorSkipLabel hskip, ?_⟩
  exact bind_eq_ok_iff.2 ⟨_, hdata, rfl⟩

end

end SceneHub
