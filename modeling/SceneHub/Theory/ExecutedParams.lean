import Mathlib.Data.Rat.Floor
import SceneHub.Theory.CommandPayload

/-!
# What Is Carried Out Is What Was Checked

Whether a command is carried out with the parameters it was checked with.

A parameter that is read is the one that was checked exactly if the text comes to a member
that can be read and means the same: up to the first member of the key no key has an escape,
and that member is written in a way the reader knows. Where only the default arguments have
the parameter, or where a later member of the key means something else, it is another one.

In a message to a device everything is there that was checked, but a repeated key is there
more than once, and who reads the message takes the first one.

## Main definitions

* `Call.Agrees`: A call reads what was checked.
* `Call.Written`: The text has what was checked where a call comes to it.
* `ArgsAgree`: The arguments of a message are what was checked.
* `SameChoice`: The first and the last member of a key are the same.

## Theorems

* `resolve_merge`, `resolve_defaults`: What a command that is accepted was checked with.
* `call_agrees_iff`: When a call reads what was checked.
* `argsAgree_iff`: When a message has what was checked.
* `executed_as_checked_iff`: Both for every command that is accepted.
-/

namespace SceneHub.Executor

open JsonText

/-! ### Reading a parameter -/

section Reading

variable {α : Type} (g : Reading α) (r : Reader) (required : Bool)

/-- What the reader would make of the value that was checked. -/
def Reading.readChecked : Option Json → Option (Option α)
  | none => (absent required).toOption
  | some .null => (absent required).toOption
  | some value => (g.meaning value).map some

/-- The member that is come to can be read, and means that. -/
def Reading.Means (first : Option (Option Value)) (a : α) : Prop :=
  ∃ v, first = some (some v) ∧ g.legible v = true ∧ g.meaning (v.tree r) = some a

/-- There is no member of the key, or it is null. -/
def Silent (first : Option (Option Value)) : Prop := first = some none ∨ first = some (some .null)

/-- The member that is come to means what was checked. If there was none, there is none; and if
    the reader cannot make anything of what was checked, it cannot of the member. -/
def Reading.Written (first : Option (Option Value)) (checked : Option Json) : Prop :=
  match g.readChecked required checked with
  | some (some a) => g.Means r first a
  | some none => Silent first
  | none => (∀ a, ¬g.Means r first a) ∧ (required = false → ¬Silent first)

variable {g r required} {first : Option (Option Value)}

theorem readSpelled_eq_some {a : α} :
    g.readSpelled r required first = some (some a) ↔ g.Means r first a := by
  have habsent : ((absent required : Except EspErr (Option α))).toOption ≠ some (some a) := by
    cases required <;> exact fun h => nomatch h
  have hvalue : ∀ v : Value,
      (if g.legible v = true then (g.meaning (v.tree r)).map some else none) = some (some a) ↔
        g.legible v = true ∧ g.meaning (v.tree r) = some a := by
    intro v
    by_cases hlegible : g.legible v = true
    · rw [if_pos hlegible, Option.map_eq_some_iff]
      constructor
      · rintro ⟨b, hb, heq⟩
        exact ⟨hlegible, hb.trans heq⟩
      · rintro ⟨-, ha⟩
        exact ⟨a, ha, rfl⟩
    · rw [if_neg hlegible]
      constructor
      · exact fun h => nomatch h
      · exact fun h => absurd h.1 hlegible
  have hmeans : ∀ v : Value, g.Means r (some (some v)) a ↔
      g.legible v = true ∧ g.meaning (v.tree r) = some a := by
    intro v
    constructor
    · rintro ⟨v', heq, h⟩
      cases heq
      exact h
    · exact fun h => ⟨v, rfl, h⟩
  match first with
  | none =>
    constructor
    · exact fun h => nomatch h
    · rintro ⟨v, heq, -⟩
      cases heq
  | some none =>
    constructor
    · exact fun h => absurd h habsent
    · rintro ⟨v, heq, -⟩
      cases heq
  | some (some .null) =>
    rw [hmeans, g.legible_null]
    constructor
    · exact fun h => absurd h habsent
    · exact fun h => absurd h.1 Bool.false_ne_true
  | some (some (.bool value)) => exact (hvalue _).trans (hmeans _).symm
  | some (some (.number n)) => exact (hvalue _).trans (hmeans _).symm
  | some (some (.string pieces)) => exact (hvalue _).trans (hmeans _).symm
  | some (some (.nested b inner h)) => exact (hvalue _).trans (hmeans _).symm

/-- A parameter that is required is not read as one that is not there. -/
theorem absent_eq_none :
    (absent required : Except EspErr (Option α)).toOption = some none ↔ required = false := by
  cases required with
  | false => exact ⟨fun _ => rfl, fun _ => rfl⟩
  | true => exact ⟨fun h => (nomatch h), fun h => (nomatch h)⟩

theorem readChecked_eq_none {checked : Option Json}
    (h : g.readChecked required checked = some none) : required = false := by
  have hvalue : ∀ value : Json, (g.meaning value).map some ≠ some none := by
    intro value hvalue
    rcases Option.map_eq_some_iff.1 hvalue with ⟨a, -, heq⟩
    cases heq
  match checked with
  | none => exact absent_eq_none.1 h
  | some .null => exact absent_eq_none.1 h
  | some (.bool value) => exact absurd h (hvalue _)
  | some (.number value) => exact absurd h (hvalue _)
  | some (.string text) => exact absurd h (hvalue _)
  | some (.array items) => exact absurd h (hvalue _)
  | some (.object members) => exact absurd h (hvalue _)

theorem readSpelled_eq_none :
    g.readSpelled r required first = some none ↔ required = false ∧ Silent first := by
  have hvalue : ∀ v : Value, v ≠ .null →
      ((if g.legible v = true then (g.meaning (v.tree r)).map some else none) = some none ↔
        required = false ∧ Silent (some (some v))) := by
    intro v hnull
    constructor
    · intro h
      split_ifs at h
      rcases Option.map_eq_some_iff.1 h with ⟨a, -, heq⟩
      cases heq
    · rintro ⟨-, h | h⟩
      · cases h
      · exact absurd (Option.some.inj (Option.some.inj h)) hnull
  match first with
  | none =>
    constructor
    · exact fun h => nomatch h
    rintro ⟨-, h | h⟩
    · cases h
    · cases h
  | some none => exact absent_eq_none.trans ⟨fun h => ⟨h, Or.inl rfl⟩, fun h => h.1⟩
  | some (some .null) => exact absent_eq_none.trans ⟨fun h => ⟨h, Or.inr rfl⟩, fun h => h.1⟩
  | some (some (.bool value)) => exact hvalue _ (fun h => nomatch h)
  | some (some (.number n)) => exact hvalue _ (fun h => nomatch h)
  | some (some (.string pieces)) => exact hvalue _ (fun h => nomatch h)
  | some (some (.nested b inner h)) => exact hvalue _ (fun h => nomatch h)

theorem readSpelled_eq_iff {checked : Option Json} :
    g.readSpelled r required first = g.readChecked required checked ↔
      g.Written r required first checked := by
  rw [Reading.Written]
  match hchecked : g.readChecked required checked with
  | some (some a) => exact readSpelled_eq_some
  | some none =>
    rw [readSpelled_eq_none]
    exact ⟨fun h => h.2, fun h => ⟨readChecked_eq_none hchecked, h⟩⟩
  | none =>
    constructor
    · intro h
      constructor
      · intro a hmeans
        rw [readSpelled_eq_some.2 hmeans] at h
        cases h
      · intro hrequired hsilent
        rw [readSpelled_eq_none.2 ⟨hrequired, hsilent⟩] at h
        cases h
    · rintro ⟨hmeans, hsilent⟩
      match hread : g.readSpelled r required first with
      | none => rfl
      | some none =>
        rcases readSpelled_eq_none.1 hread with ⟨hrequired, h⟩
        exact absurd h (hsilent hrequired)
      | some (some a) => exact absurd (readSpelled_eq_some.1 hread) (hmeans a)

end Reading

/-! ### Calls -/

def Call.Agrees (params : List Char) (effective : Json) : Call → Prop
  | .int key required => (paramsGetInt params key required).toOption =
      intReading.readChecked required (effective.get key)
  | .bool key required => (paramsGetBool params key required).toOption =
      boolReading.readChecked required (effective.get key)
  | .string key size required => (paramsGetString size params key required).toOption =
      (stringReading size).readChecked required (effective.get key)

/-- The text has what was checked where a call comes to it. -/
def Call.Written (r : Reader) (defaults params : List Member) : Call → Prop
  | .int key required => intReading.Written r required (firstMember key params)
      (checkedValue r defaults params key)
  | .bool key required => boolReading.Written r required (firstMember key params)
      (checkedValue r defaults params key)
  | .string key size required => (stringReading size).Written r required
      (firstMember key params) (checkedValue r defaults params key)

/-- An array that a call copies a string to has room for the zero. -/
def Call.sized : Call → Bool
  | .string _ size _ => 0 < size
  | _ => true

theorem Reading.get_eq_iff {α : Type} {g : Reading α} {r : Reader} (hg : g.Faithful r)
    (params : Option Document) (key : String) (required : Bool) (checked : Option Json) :
    (paramsGet g.read (textOf params) key required).toOption = g.readChecked required checked ↔
      g.Written r required (firstMember key (writtenMembers params)) checked := by
  rw [paramsGet_text hg]
  exact readSpelled_eq_iff

theorem call_agrees_iff {r : Reader} (hr : r.Standard) {params : Option Document}
    {defaults : List Member} {effective : Json} (heffective : ∀ key, effective.get key =
      checkedValue r defaults (writtenMembers params) key) {call : Call}
    (hsized : call.sized = true) :
    call.Agrees (textOf params) effective ↔ call.Written r defaults (writtenMembers params) := by
  cases call with
  | int key required =>
    rw [Call.Agrees, Call.Written, heffective]
    exact Reading.get_eq_iff (intReading_faithful hr) params key required _
  | bool key required =>
    rw [Call.Agrees, Call.Written, heffective]
    exact Reading.get_eq_iff (boolReading_faithful hr) params key required _
  | string key size required =>
    have hsize : 0 < size := of_decide_eq_true hsized
    rw [Call.Agrees, Call.Written, heffective, paramsGetString, if_neg (Nat.ne_of_gt hsize)]
    exact Reading.get_eq_iff (stringReading_faithful hr hsize) params key required _

theorem sized_of_mem {deviceId : String} {command : Command} {call : Call}
    (h : call ∈ commandCalls deviceId command) : call.sized = true := by
  have haudio : (audioCalls command).all Call.sized = true := by
    unfold audioCalls
    split_ifs <;> rfl
  have hhardware : (hardwareCalls deviceId command).all Call.sized = true := by
    unfold hardwareCalls relayCalls mosfetCalls ioCalls
    split_ifs <;> rfl
  have hall : (commandCalls deviceId command).all Call.sized = true := by
    unfold commandCalls
    cases route deviceId command with
    | audio => exact haudio
    | hardware => exact hhardware
    | mqtt => rfl
  exact List.all_eq_true.1 hall call h

/-! ### What a command was checked with -/

/-- The default arguments that a command of a device is checked with. -/
def defaultArgs (r : Reader) (device : Device) (commandId : String) : Option Json :=
  if device.deviceDescriptionJson ≠ [] then
    match compactTemplate r device commandId with
    | .ok (_, template) => template.get "default_args"
    | .error _ => none
  else (device.commands.find? fun command => command.id = commandId).bind (flatDefaultArgs r)

/-- The parameters that a command of a device is checked with. -/
def effectiveParams (r : Reader) (device : Device) (commandId : String) (params : List Char) :
    Json :=
  match mergeEffectiveParams r (defaultArgs r device commandId) params with
  | .ok effective => effective
  | .error _ => .null

/-- The default arguments of a compact device are printed as a text that is read as them. -/
def PrintsBack (r : Reader) (device : Device) (commandId : String) : Prop :=
  device.deviceDescriptionJson ≠ [] →
    ∀ members, defaultArgs r device commandId = some (.object members) →
      r.print (.object members) ≠ [] ∧
        r.parse (r.print (.object members)) = some (.object members)

section Resolve

variable {r : Reader} {device : Device} {commandId : String} {requireEnabled : Bool}
  {params : List Char} {command : Command}

theorem validateCompactParams_ok {root template : Json} {schema : Option Json}
    (h : validateCompactParams r root template schema params = .ok ()) :
    ∃ effective, mergeEffectiveParams r (template.get "default_args") params =
      .ok effective := by
  unfold validateCompactParams at h
  split at h
  · cases hmerge : mergeEffectiveParams r (template.get "default_args") params with
    | error err =>
      rw [hmerge] at h
      cases h
    | ok effective => exact ⟨effective, rfl⟩
  · cases h

theorem validateParams_ok (h : validateParams r command params = .ok ()) :
    (command.defaultArgsJson ≠ [] → (flatDefaultArgs r command).any Json.isObject = true) ∧
      ∃ effective, mergeEffectiveParams r (flatDefaultArgs r command) params =
        .ok effective := by
  unfold validateParams at h
  split_ifs at h with hobject
  refine ⟨fun hne => not_not.1 fun hno => hobject ⟨hne, hno⟩, ?_⟩
  cases hmerge : mergeEffectiveParams r (flatDefaultArgs r command) params with
  | error err =>
    rw [hmerge] at h
    cases h
  | ok effective => exact ⟨effective, rfl⟩

section

variable (h : resolve r device commandId requireEnabled params = .ok command)
include h

/-- A command that is accepted was looked up in the list of a flat device, or in the manifest of
    a compact one, and its parameters were merged. -/
theorem resolve_cases : (device.deviceDescriptionJson ≠ [] ∧ ∃ root template,
        compactTemplate r device commandId = .ok (root, template) ∧
        (∃ effective, mergeEffectiveParams r (template.get "default_args") params =
          .ok effective) ∧
        command.defaultArgsJson = printDefaultArgs r template) ∨
      (device.deviceDescriptionJson = [] ∧
        device.commands.find? (fun command => command.id = commandId) = some command ∧
        (command.defaultArgsJson ≠ [] → (flatDefaultArgs r command).any Json.isObject = true) ∧
        ∃ effective, mergeEffectiveParams r (flatDefaultArgs r command) params =
          .ok effective) := by
  unfold resolve at h
  split_ifs at h with hid henabled hcompact
  · -- A compact device.
    left
    refine ⟨hcompact, ?_⟩
    unfold resolveCompactCommand at h
    cases htemplate : compactTemplate r device commandId with
    | error failure =>
      rw [htemplate] at h
      cases h
    | ok found =>
      rcases found with ⟨root, template⟩
      rw [htemplate] at h
      dsimp only at h
      cases hvalid : validateCompactParams r root template (schemaForTemplate root template)
          params with
      | error failure =>
        rw [hvalid] at h
        cases h
      | ok u =>
        rw [hvalid] at h
        refine ⟨root, template, rfl, validateCompactParams_ok hvalid, ?_⟩
        unfold fillCompactCommand at h
        split_ifs at h
        cases h
        rfl
  · right
    refine ⟨not_not.1 hcompact, ?_⟩
    cases hfind : device.commands.find? (fun command => command.id = commandId) with
    | none =>
      rw [hfind] at h
      cases h
    | some found =>
      rw [hfind] at h
      dsimp only at h
      split at h
      · cases h
      rename_i u hvalid
      cases h
      exact ⟨rfl, validateParams_ok hvalid⟩

theorem resolve_merge : mergeEffectiveParams r (defaultArgs r device commandId) params =
      .ok (effectiveParams r device commandId params) := by
  have hmerged : ∃ effective, mergeEffectiveParams r (defaultArgs r device commandId) params =
      .ok effective := by
    rcases resolve_cases h with ⟨hcompact, root, template, htemplate, hmerge, -⟩ |
      ⟨hflat, hfind, -, hmerge⟩
    · rw [defaultArgs, if_pos hcompact, htemplate]
      exact hmerge
    · rw [defaultArgs, if_neg (not_not.2 hflat), hfind]
      exact hmerge
  rcases hmerged with ⟨effective, hmerge⟩
  rw [effectiveParams, hmerge]

theorem resolve_defaults {defaults : Option Document} (hdefaults : ∀ d ∈ defaults, r.Reads d)
    (htext : command.defaultArgsJson = textOf defaults) (hprint : PrintsBack r device commandId) :
    membersOf (defaultArgs r device commandId) = treeMembers r (writtenMembers defaults) := by
  have hread : ∀ {d : Document}, defaults = some d → r.parse command.defaultArgsJson =
      some (.object (treeMembers r d.members)) := by
    rintro d rfl
    rw [htext]
    exact hdefaults d rfl
  have hempty : command.defaultArgsJson = [] ↔ defaults = none := by
    rw [htext]
    cases defaults with
    | none => exact ⟨fun _ => rfl, fun _ => rfl⟩
    | some d => exact ⟨fun h => absurd h (document_ne_nil d), fun h => (nomatch h)⟩
  rcases resolve_cases h with ⟨hcompact, root, template, htemplate, -, hjson⟩ |
    ⟨hflat, hfind, hobject, -⟩
  · have hargs : defaultArgs r device commandId = template.get "default_args" := by
      rw [defaultArgs, if_pos hcompact, htemplate]
    have hnone : command.defaultArgsJson = [] →
        [] = treeMembers r (writtenMembers defaults) := by
      intro hjson
      rw [hempty.1 hjson]
      rfl
    rw [hargs]
    rw [printDefaultArgs] at hjson
    match hget : template.get "default_args" with
    | some (.object members) =>
      rcases hprint hcompact members (hargs.trans hget) with ⟨hne, hparse⟩
      rw [hget] at hjson
      cases defaults with
      | none => exact absurd (hjson.symm.trans (hempty.2 rfl)) hne
      | some d =>
        have hsame := hread rfl
        rw [hjson, hparse] at hsame
        exact (Json.object.inj (Option.some.inj hsame))
    | none => exact hnone (by rw [hjson, hget])
    | some .null => exact hnone (by rw [hjson, hget])
    | some (.bool value) => exact hnone (by rw [hjson, hget])
    | some (.number value) => exact hnone (by rw [hjson, hget])
    | some (.string text) => exact hnone (by rw [hjson, hget])
    | some (.array items) => exact hnone (by rw [hjson, hget])
  · have hargs : defaultArgs r device commandId = flatDefaultArgs r command := by
      rw [defaultArgs, if_neg (not_not.2 hflat), hfind, Option.bind_some]
    rw [hargs, flatDefaultArgs]
    cases defaults with
    | none =>
      rw [if_pos (hempty.2 rfl)]
      rfl
    | some d =>
      rw [if_neg (fun h => nomatch hempty.1 h), hread rfl]
      rfl

end

end Resolve

/-! ### The arguments of a message -/

/-- The arguments of a message, as they are read, have what was checked for every key. -/
def ArgsAgree (r : Reader) (requestId command : List Char) (nowMs : Int) (payload : List Char)
    (effective : Json) : Prop :=
  ∃ args tree, payload = payloadHead requestId command ++ args ++ payloadTail nowMs ∧
    r.parse args = some tree ∧ ∀ key, tree.get key = effective.get key

/-- The first and the last member of a key are the same: in the parameters, or in the default
    arguments if the parameters have none. -/
def SameChoice (r : Reader) (defaults params : List Member) (key : String) : Prop :=
  if lastNamed key (treeMembers r params) = none then
    (Json.object (treeMembers r defaults)).get key = lastNamed key (treeMembers r defaults)
  else (Json.object (treeMembers r params)).get key = lastNamed key (treeMembers r params)

theorem decoded_plain {pieces : List Piece} (h : plain pieces = true) :
    decoded pieces = some (spelled pieces) := by
  induction pieces with
  | nil => rfl
  | cons p pieces ih =>
    rw [plain, List.all_cons, Bool.and_eq_true] at h
    rw [decoded_cons, ih h.2]
    cases p with
    | byte c hc => rfl
    | escape e | unicode hex => exact absurd h.1 Bool.false_ne_true

theorem name_plain {r : Reader} (hr : r.Standard) {m : Member} (h : plain m.key = true) :
    m.name r = String.ofList (spelled m.key) := hr.string _ _ (decoded_plain h)

theorem treeMembers_copied (r : Reader) (members : List Member) :
    treeMembers r (members.map copied) = treeMembers r members := by
  rw [treeMembers, List.map_map]
  rfl

theorem lastNamed_eq_none {key : String} {members : List (String × Json)} :
    lastNamed key members = none ↔ (Json.object members).get key = none := by
  induction members with
  | nil => exact ⟨fun _ => rfl, fun _ => rfl⟩
  | cons m members ih =>
    rw [lastNamed, get_cons, Option.or_eq_none_iff, ih]
    by_cases hkey : m.1 = key
    · rw [if_pos hkey, if_pos hkey]
      exact ⟨fun h => h.2, fun h => by cases h⟩
    · rw [if_neg hkey, if_neg hkey]
      exact ⟨fun h => h.1, fun h => ⟨h, rfl⟩⟩

theorem get_append (members further : List (String × Json)) (key : String) :
    (Json.object (members ++ further)).get key =
      ((Json.object members).get key).or ((Json.object further).get key) := by
  induction members with
  | nil => rfl
  | cons m members ih =>
    rw [List.cons_append, get_cons, get_cons, ih]
    by_cases hkey : m.1 = key
    · rw [if_pos hkey, if_pos hkey]
      rfl
    · rw [if_neg hkey, if_neg hkey]

theorem any_spelled_eq_false {r : Reader} (hr : r.Standard) {m : Member}
    (hm : plain m.key = true) {params : List Member} (hparams : ∀ m ∈ params, plain m.key = true) :
    (params.any fun x => spelled x.key = spelled m.key) = false ↔
      (Json.object (treeMembers r params)).get (m.name r) = none := by
  induction params with
  | nil => exact ⟨fun _ => rfl, fun _ => rfl⟩
  | cons x params ih =>
    rcases List.forall_mem_cons.1 hparams with ⟨hx, hrest⟩
    have hname : x.name r = m.name r ↔ spelled x.key = spelled m.key := by
      rw [name_plain hr hx, name_plain hr hm, String.ofList_inj]
    rw [List.any_cons, treeMembers, List.map_cons, get_cons]
    by_cases hkey : spelled x.key = spelled m.key
    · rw [if_pos (hname.2 hkey), decide_eq_true hkey, Bool.true_or]
      exact ⟨fun h => (nomatch h), fun h => (nomatch h)⟩
    · rw [if_neg (fun h => hkey (hname.1 h)), decide_eq_false hkey, Bool.false_or]
      exact ih hrest

/-- The default arguments of a key are copied exactly if the parameters have none of it. -/
theorem get_filter {r : Reader} (hr : r.Standard) {defaults params : List Member}
    (hdefaults : ∀ m ∈ defaults, plain m.key = true) (hparams : ∀ m ∈ params, plain m.key = true)
    (key : String) : (Json.object (treeMembers r
      (defaults.filter fun m => !params.any fun x => spelled x.key = spelled m.key))).get key =
      if (Json.object (treeMembers r params)).get key = none then
        (Json.object (treeMembers r defaults)).get key
      else none := by
  induction defaults with
  | nil => rw [List.filter_nil, treeMembers, List.map_nil]; split_ifs <;> rfl
  | cons m defaults ih =>
    rcases List.forall_mem_cons.1 hdefaults with ⟨hm, hrest⟩
    have hany := any_spelled_eq_false hr hm hparams
    have hcons : (Json.object (treeMembers r (m :: defaults))).get key =
        if m.name r = key then some (m.value.tree r)
        else (Json.object (treeMembers r defaults)).get key := get_cons _ _ _
    rw [hcons, List.filter_cons]
    by_cases hskip : (params.any fun x => spelled x.key = spelled m.key) = true
    · -- The parameters have the key of this one, so it is left out.
      have hsome : (Json.object (treeMembers r params)).get (m.name r) ≠ none := by
        intro h
        rw [hany.2 h] at hskip
        exact Bool.false_ne_true hskip
      rw [hskip, Bool.not_true, if_neg Bool.false_ne_true, ih hrest]
      by_cases hkey : m.name r = key
      · rw [← hkey, if_neg hsome, if_neg hsome]
      · rw [if_neg hkey]
    · have hnone : (params.any fun x => spelled x.key = spelled m.key) = false :=
        Bool.not_eq_true _ |>.mp hskip
      rw [hnone, Bool.not_false, if_pos rfl, treeMembers, List.map_cons, get_cons]
      by_cases hkey : m.name r = key
      · rw [← hkey, if_pos rfl, if_pos rfl, if_pos (hany.1 hnone)]
      · rw [if_neg hkey, if_neg hkey]
        exact ih hrest

theorem args_get {r : Reader} (hr : r.Standard) {defaults params : List Member}
    (hdefaults : ∀ m ∈ defaults, plain m.key = true) (hparams : ∀ m ∈ params, plain m.key = true)
    (key : String) : ((argsDocument defaults params).tree r).get key =
      if (Json.object (treeMembers r params)).get key = none then
        (Json.object (treeMembers r defaults)).get key
      else (Json.object (treeMembers r params)).get key := by
  have htree : (argsDocument defaults params).tree r =
      .object (treeMembers r ((argsMembers defaults params).map copied)) := rfl
  have happend : treeMembers r (argsMembers defaults params) =
      treeMembers r (defaults.filter fun m =>
        !params.any fun x => spelled x.key = spelled m.key) ++ treeMembers r params :=
    List.map_append
  rw [htree, treeMembers_copied, happend, get_append, get_filter hr hdefaults hparams]
  by_cases hnone : (Json.object (treeMembers r params)).get key = none
  · rw [if_pos hnone, if_pos hnone, hnone, Option.or_none]
  · rw [if_neg hnone, if_neg hnone, Option.none_or]

/-- A message has what was checked exactly if no key is repeated with another value. -/
theorem argsAgree_iff {r : Reader} (hr : r.Standard) {defaults params : Option Document}
    (hargs : r.Reads (argsDocument (writtenMembers defaults) (writtenMembers params)))
    {effective : Json} (heffective : ∀ key, effective.get key =
      checkedValue r (writtenMembers defaults) (writtenMembers params) key)
    {requestId command payload : List Char} {nowMs : Int}
    (h : buildCommandPayload requestId command (textOf defaults) (textOf params) nowMs =
      .ok payload) : ArgsAgree r requestId command nowMs payload effective ↔
      ∀ key, SameChoice r (writtenMembers defaults) (writtenMembers params) key := by
  rcases buildCommandPayload_ok h with ⟨hdefaults, hparams, hpayload⟩
  have hkey : ∀ key,
      ((argsDocument (writtenMembers defaults) (writtenMembers params)).tree r).get key =
        effective.get key ↔
      SameChoice r (writtenMembers defaults) (writtenMembers params) key := by
    intro key
    rw [args_get hr hdefaults hparams, heffective, checkedValue, SameChoice]
    by_cases hnone : lastNamed key (treeMembers r (writtenMembers params)) = none
    · rw [if_pos hnone, if_pos (lastNamed_eq_none.1 hnone), hnone, Option.none_or]
    rw [if_neg hnone, if_neg (fun h => hnone (lastNamed_eq_none.2 h))]
    rcases Option.ne_none_iff_exists'.1 hnone with ⟨value, hvalue⟩
    rw [hvalue, Option.some_or]
  constructor
  · rintro ⟨args, tree, heq, hread, hall⟩ key
    -- The arguments are what stands between the head and the tail.
    have hsame : args = (argsDocument (writtenMembers defaults) (writtenMembers params)).text := by
      rw [heq] at hpayload
      exact List.append_cancel_left (List.append_cancel_right hpayload)
    rw [hsame, hargs] at hread
    cases hread
    exact (hkey key).1 (hall key)
  · intro hall
    exact ⟨_, _, hpayload, hargs, fun key => (hkey key).2 (hall key)⟩

/-! ### A command of the relays -/

/-- The bytes of a text that are no quote and no backslash. -/
def word (text : List Char) : List Piece :=
  text.filterMap fun c =>
    if h : c ≠ '"' ∧ c ≠ '\\' ∧ c ≠ '\x00' then some (.byte c h) else none

def digit (d : Char) (h : isDigit d = true) : Number where
  negative := false
  digits := [d]
  tail := []
  digits_ne := List.cons_ne_nil d []
  isDigit_digits := List.forall_mem_singleton.2 h
  isTail_tail := List.forall_mem_nil _
  head_tail := fun _ hc => (nomatch hc)

/-- A member and an object without blanks. -/
def entry (key : List Char) (value : Value) : Member := ⟨noGap, word key, noGap, noGap, value, noGap⟩

def object (members : List Member) : Document := ⟨noGap, members, noGap, []⟩

/-- A reader that knows some documents, all numbers of which are integers. -/
def readerOf (docs : List Document) : Reader :=
  let base : Reader :=
    { parse := fun _ => none
      print := fun _ => ['{', '}']
      number := fun n => n.integer
      string := fun pieces =>
        match decoded pieces with
        | some text => String.ofList text
        | none => ""
      nested := fun _ => .null }
  { base with parse := fun text =>
      (docs.find? fun d => d.text = text).map fun d => d.tree base }

theorem valueInt_intCast (value : Int) : Json.valueInt (value : Rat) = saturate value := by
  have hhigh : (2147483647 : Rat) ≤ value ↔ 2147483647 ≤ value := by
    rw [← Int.cast_le (R := Rat)]
    norm_num
  have hlow : (value : Rat) ≤ -2147483648 ↔ value ≤ -2147483648 := by
    rw [← Int.cast_le (R := Rat)]
    norm_num
  have hzero : (0 : Rat) ≤ value ↔ 0 ≤ value := Int.cast_nonneg_iff
  have hfloor : ∀ k : Int, (k : Rat).floor = k := Rat.floor_intCast
  rw [Json.valueInt, saturate]
  by_cases h1 : 2147483647 ≤ value
  · rw [if_pos (hhigh.2 h1)]
    omega
  rw [if_neg (fun h => h1 (hhigh.1 h))]
  by_cases h2 : value ≤ -2147483648
  · rw [if_pos (hlow.2 h2)]
    omega
  rw [if_neg (fun h => h2 (hlow.1 h))]
  have hvalue : (if (0 : Rat) ≤ value then (value : Rat).floor else -(-(value : Rat)).floor) =
      value := by
    split_ifs
    · exact hfloor value
    · rw [← Int.cast_neg, hfloor, Int.neg_neg]
  rw [hvalue]
  omega

theorem readerOf_standard (docs : List Document) : (readerOf docs).Standard where
  integer := fun n _ => valueInt_intCast n.integer
  string := by
    intro pieces text h
    simp only [readerOf, h]

def channelKey : List Char := ['c', 'h', 'a', 'n', 'n', 'e', 'l']

def relaySetDefaults : Document :=
  object [entry channelKey (.number (digit '1' rfl)), entry ['o', 'n'] (.bool true)]

/-- `qd_system_relay_set_command`. -/
def relaySet : Command where
  id := "set"
  command := "relay.set"
  defaultArgsJson := relaySetDefaults.text
  params := [⟨"channel", .number, false⟩, ⟨"on", .checkbox, false⟩]

def systemRelay : Device where
  id := systemRelayId
  enabled := true
  commands := [relaySet]
  deviceDescriptionJson := []

/-- The parameters that switch the second relay off. -/
def switchOff : Document :=
  object [entry channelKey (.number (digit '2' rfl)), entry ['o', 'n'] (.bool false)]

/-- What is read on the way to `switchOff`. -/
def switchOffDocs : List Document :=
  [relaySetDefaults, switchOff, argsDocument relaySetDefaults.members switchOff.members]

/-! ### Commands -/

/-- Whatever is accepted: each call reads what was checked exactly if the text has it where the
    call comes to it, and a message has what was checked exactly if no key is repeated with
    another value. -/
theorem executed_as_checked_iff {r : Reader} (hr : r.Standard) {device : Device}
    {commandId : String} {requireEnabled : Bool} {command : Command}
    {defaults params : Option Document} (hdefaults : ∀ d ∈ defaults, r.Reads d)
    (hparams : ∀ d ∈ params, r.Reads d)
    (hargs : r.Reads (argsDocument (writtenMembers defaults) (writtenMembers params)))
    (hprint : PrintsBack r device commandId) (htext : command.defaultArgsJson = textOf defaults)
    (h : resolve r device commandId requireEnabled (textOf params) = .ok command) :
    (∀ call ∈ commandCalls device.id command,
      call.Agrees (textOf params) (effectiveParams r device commandId (textOf params)) ↔
        call.Written r (writtenMembers defaults) (writtenMembers params)) ∧
    ∀ requestId nowMs payload, route device.id command = .mqtt →
      buildCommandPayload requestId command.command.toList command.defaultArgsJson (textOf params)
        nowMs = .ok payload →
      (ArgsAgree r requestId command.command.toList nowMs payload
          (effectiveParams r device commandId (textOf params)) ↔
        ∀ key, SameChoice r (writtenMembers defaults) (writtenMembers params) key) := by
  have heffective := mergeEffectiveParams_get (resolve_defaults h hdefaults htext hprint) hparams
    (resolve_merge h)
  constructor
  · intro call hcall
    exact call_agrees_iff hr heffective (sized_of_mem hcall)
  intro requestId nowMs payload _ hbuilt
  rw [htext] at hbuilt
  exact argsAgree_iff hr hargs heffective hbuilt

theorem executed_as_checked_switchOff : commandCalls systemRelay.id relaySet ≠ [] ∧
    ∀ call ∈ commandCalls systemRelay.id relaySet,
      call.Agrees switchOff.text
          (effectiveParams (readerOf switchOffDocs) systemRelay "set" switchOff.text) ↔
        call.Written (readerOf switchOffDocs) relaySetDefaults.members switchOff.members := by
  have hdefaults : ∀ d ∈ some relaySetDefaults, (readerOf switchOffDocs).Reads d := by
    intro d hd
    cases hd
    rfl
  have hparams : ∀ d ∈ some switchOff, (readerOf switchOffDocs).Reads d := by
    intro d hd
    cases hd
    rfl
  have hflat : PrintsBack (readerOf switchOffDocs) systemRelay "set" :=
    fun hcompact => absurd rfl hcompact
  have hresolve : resolve (readerOf switchOffDocs) systemRelay "set" true
      (textOf (some switchOff)) = .ok relaySet := rfl
  exact ⟨by decide, (executed_as_checked_iff (readerOf_standard switchOffDocs) hdefaults hparams rfl
    hflat rfl hresolve).1⟩

/-- No parameters at all are accepted, since the default arguments have them, and then the
    channel is read as missing. -/
theorem not_everyCallAgrees :
    ¬∀ (r : Reader) (device : Device) (commandId : String) (requireEnabled : Bool)
      (command : Command) (defaults params : Option Document), r.Standard →
      (∀ d ∈ defaults, r.Reads d) → (∀ d ∈ params, r.Reads d) →
      PrintsBack r device commandId → command.defaultArgsJson = textOf defaults →
      resolve r device commandId requireEnabled (textOf params) = .ok command →
      ∀ call ∈ commandCalls device.id command,
        call.Agrees (textOf params) (effectiveParams r device commandId (textOf params)) := by
  intro hall
  have hdefaults : ∀ d ∈ some relaySetDefaults,
      (readerOf [relaySetDefaults, object []]).Reads d := by
    intro d hd
    cases hd
    rfl
  have hparams : ∀ d ∈ some (object []), (readerOf [relaySetDefaults, object []]).Reads d := by
    intro d hd
    cases hd
    rfl
  have hflat : PrintsBack (readerOf [relaySetDefaults, object []]) systemRelay "set" :=
    fun hcompact => absurd rfl hcompact
  have hresolve : resolve (readerOf [relaySetDefaults, object []]) systemRelay "set" true
      (textOf (some (object []))) = .ok relaySet := rfl
  have hread := hall (readerOf [relaySetDefaults, object []]) systemRelay "set" true relaySet
    (some relaySetDefaults) (some (object [])) (readerOf_standard _) hdefaults hparams hflat rfl
    hresolve (.int "channel" true) List.mem_cons_self
  -- The text has no channel, and the tree has the first one.
  have htext : (paramsGetInt (textOf (some (object []))) "channel" true).toOption = none := rfl
  rw [Call.Agrees, htext] at hread
  cases hread

end SceneHub.Executor
