import SceneHub.Storage.Persistence
import SceneHub.Theory.Fields

/-!
# Tables Kept in a File

What `gm_game_profile.c` and the files of `room_catalog` have in common: a table of
rows with distinct ids, which is changed in memory and then written to its file.

The rows that pass the checks of an import, or that are in a table, are a list that
carries what the checks have found. How a table lays its rows out is up to the table.

Where memory runs out while a member is added to the exported tree, the member is
missing from it, and nobody is told.

## Main definitions

* `RowFormat`: The rows of a table, and the form of its file.
* `Rows`: Rows that pass the checks.
* `importRows`, `exportRows`: Between rows and a tree.
* `FileTable`: A table and the operations that change it.
* `FileTable.runCall`, `FileTable.loadFromPath`: Saving calls, and loading.
-/

namespace SceneHub

open Json

/-- How a call turns out, besides what a save depends on: whether there is memory for the
    items of an import, and for the members of an exported tree. -/
structure TableIo extends SaveIo where
  items : Bool := true
  versionAdded : Bool := true
  memberAdded : String → String → Bool := fun _ _ => true

/-! ### Readers that refuse with one code -/

/-- What is refused is refused as an invalid argument. -/
def Refuses {α : Type} (x : Except EspErr α) : Prop := ∀ err, x = .error err → err = .invalidArg

theorem Refuses.bind {α β : Type} {x : Except EspErr α} {f : α → Except EspErr β}
    (hx : Refuses x) (hf : ∀ a, Refuses (f a)) : Refuses (x >>= f) := by
  intro err h
  cases x with
  | error err' =>
    cases h
    exact hx _ rfl
  | ok a => exact hf a err h

theorem stringRequired_refuses (obj : Json) (name : String) (maxLen : Nat) :
    Refuses (obj.stringRequired name maxLen) := by
  intro err h
  unfold stringRequired at h
  split at h
  · split_ifs at h
    cases h
    rfl
  · cases h
    rfl

theorem stringOptional_refuses (obj : Json) (name : String) (maxLen : Nat) :
    Refuses (obj.stringOptional name maxLen) := by
  intro err h
  unfold stringOptional at h
  split at h
  · cases h
  · cases h
  · split_ifs at h
    cases h
    rfl
  · cases h
    rfl

theorem boolOr_refuses (obj : Json) (name : String) (absent : Bool) :
    Refuses (obj.boolOr name absent) := by
  intro err h
  unfold boolOr at h
  split at h
  · cases h
  · cases h
  · cases h
    rfl

/-- `gm_game_profile_from_json` and `room_catalog_entry_from_json`: an object, its members, and
    the check of the row. -/
def readChecked {α : Type} (read : Json → Except EspErr α) (valid : α → Bool) (item : Json) :
    Except EspErr α :=
  if !item.isObject then .error .invalidArg
  else match read item with
    | .error err => .error err
    | .ok row => if valid row then .ok row else .error .invalidArg

section

variable {α : Type} {read : Json → Except EspErr α} {valid : α → Bool}

theorem readChecked_eq_ok_iff {item : Json} {row : α} :
    readChecked read valid item = .ok row ↔ item.isObject = true ∧ read item = .ok row ∧ valid row = true := by
  unfold readChecked
  by_cases hobject : item.isObject = true
  · simp only [hobject, Bool.not_true, Bool.false_eq_true, if_false, true_and]
    cases read item with
    | error err => exact iff_of_false nofun fun h => nomatch h.1
    | ok other =>
      dsimp only
      by_cases hvalid : valid other = true
      · rw [if_pos hvalid]
        constructor
        · intro h
          cases h
          exact ⟨rfl, hvalid⟩
        · exact And.left
      · rw [if_neg hvalid]
        refine iff_of_false nofun ?_
        rintro ⟨h, hrow⟩
        cases h
        exact hvalid hrow
  · rw [Bool.not_eq_true] at hobject
    rw [hobject]
    exact iff_of_false nofun fun h => nomatch h.1

theorem readChecked_refuses (h : ∀ item, Refuses (read item)) (item : Json) :
    Refuses (readChecked read valid item) := by
  intro err herr
  unfold readChecked at herr
  split_ifs at herr
  · cases herr
    rfl
  cases hread : read item with
  | error err' =>
    rw [hread] at herr
    cases herr
    exact h item _ hread
  | ok row =>
    rw [hread] at herr
    dsimp only at herr
    split_ifs at herr
    cases herr
    rfl

theorem readAll_refuses (h : ∀ item, Refuses (read item)) (items : List Json) :
    Refuses (Lib.readAll read items) := by
  induction items with
  | nil => exact nofun
  | cons item rest ih => exact (h item).bind fun row => ih.bind fun rows => nofun

end

/-! ### Rows -/

/-- A row in a tree, with the members there is memory for. -/
def addedMembers (io : TableIo) (id : String) (members : List (String × Json)) : Json :=
  ofFields (members.map fun m => (m.1, if io.memberAdded id m.1 then some m.2 else none))

/-- What the rows of a table are, in memory and in a tree. A row that is refused is refused
    with one code. -/
structure RowFormat (ρ : Type) where
  name : String
  maxRows : Nat
  fileMax : Nat
  badVersion : EspErr
  badCount : EspErr
  id : ρ → String
  Sound : ρ → Prop
  tree : TableIo → ρ → Json
  toJson : TableIo → ρ → Except EspErr Json
  fromJson : Json → Except EspErr ρ
  readItems : List Json → Except EspErr (List ρ)
  name_ne : name ≠ "version"
  bad_ne : (badVersion ≠ .ok ∧ badVersion ≠ .notFound) ∧ badCount ≠ .ok ∧ badCount ≠ .notFound
  toJson_sound : ∀ io row, Sound row → toJson io row = .ok (tree io row)
  fromJson_sound : ∀ item row, fromJson item = .ok row → Sound row
  readItems_ok : ∀ items rows, readItems items = .ok rows ↔
    Lib.readAll fromJson items = .ok rows ∧ (rows.map id).Nodup
  readItems_refuses : ∀ items, Refuses (readItems items)

variable {ρ : Type}

/-- Rows that are sound and have distinct ids, no more of them than there is room for. -/
structure Rows (fmt : RowFormat ρ) where
  list : List ρ
  sound : ∀ row ∈ list, fmt.Sound row
  distinct : (list.map fmt.id).Nodup
  length_le : list.length ≤ fmt.maxRows

/-! ### Between rows and a tree -/

/-- The first half of `gm_game_profile_import_json` and `room_catalog_import_json`, up to the
    lock. -/
def importRows (fmt : RowFormat ρ) (io : TableIo) (root : Json) : Except EspErr (Rows fmt) :=
  if !root.isObject then .error .invalidArg
  else match root.get "version" with
    | some (.number version) =>
      if Json.valueInt version ≠ 1 then .error fmt.badVersion
      else match root.get fmt.name with
        | some (.array items) =>
          if hcount : fmt.maxRows < items.length then .error fmt.badCount
          else if 0 < items.length ∧ !io.items then .error .noMem
          else match hread : fmt.readItems items with
            | .error err => .error err
            | .ok rows =>
              if io.store.lock ≠ .ok then .error io.store.lock
              else
                have hrows := (fmt.readItems_ok items rows).1 hread
                .ok {
                  list := rows
                  sound := Lib.readAll_mem fmt.fromJson_sound items rows hrows.1
                  distinct := hrows.2
                  length_le := by
                    rw [Lib.readAll_length items rows hrows.1]
                    exact Nat.not_lt.1 hcount }
        | _ => .error .invalidArg
    | _ => .error fmt.badVersion

/-- `gm_game_profile_export_json` and `room_catalog_export_json`. -/
def exportRows (fmt : RowFormat ρ) (io : TableIo) (rows : List ρ) : Except EspErr Json :=
  if io.store.exportTree ≠ .ok then .error io.store.exportTree
  else match Lib.readAll (fmt.toJson io) rows with
    | .error err => .error err
    | .ok items =>
      .ok (ofFields
        [("version", if io.versionAdded then some (.number 1) else none),
          (fmt.name, some (.array items))])

/-! ### Tables -/

/-- A table, and what changes single rows of it. `fill` puts the rows of an import in place of
    all others. -/
structure FileTable (τ κ ρ : Type) where
  fmt : RowFormat ρ
  rows : τ → Rows fmt
  generation : τ → UInt32
  fill : Rows fmt → UInt32 → τ
  change : TableIo → τ → κ → EspErr × τ
  Accepted : TableIo → τ → κ → Prop
  rows_fill : ∀ rs generation, (rows (fill rs generation)).list = rs.list
  generation_fill : ∀ rs n, generation (fill rs n) = n
  change_accepted : ∀ io t k, Accepted io t k →
    (change io t k).1 = .ok ∧ generation (change io t k).2 = generation t + 1
  change_refused : ∀ io t k, ¬Accepted io t k → (change io t k).1 ≠ .ok ∧ (change io t k).2 = t

/-- A table with its file. -/
structure FileHub (τ : Type) where
  table : τ
  disk : Disk := {}

/-- The operations that save: a change of a row, and an import. -/
inductive TableCall (κ : Type) where
  | changeAndSave (change : κ)
  | importAndSave (root : Json)

/-- What a call returns, what it leaves, and the files behind each of its calls of the file
    system. -/
structure TableResult (τ : Type) where
  err : EspErr
  hub : FileHub τ
  trace : List Disk

namespace FileTable

variable {τ κ : Type} (T : FileTable τ κ ρ)

/-- The table at power on: no rows. -/
def boot : τ := T.fill ⟨[], nofun, List.nodup_nil, Nat.zero_le _⟩ 0

/-- `gm_game_profile_import_json` and `room_catalog_import_json`. -/
def importJson (io : TableIo) (root : Json) (t : τ) : EspErr × τ :=
  match importRows T.fmt io root with
  | .error err => (err, t)
  | .ok rows => (.ok, T.fill rows (T.generation t + 1))

/-- What a call does to the table before it saves. -/
def apply (io : TableIo) (t : τ) : TableCall κ → EspErr × τ
  | .changeAndSave k => T.change io t k
  | .importAndSave root => T.importJson io root t

/-- The text of a table, as `cJSON_PrintUnformatted` gives it. -/
def text (cj : CJson) (io : TableIo) (t : τ) : Except EspErr String :=
  match exportRows T.fmt io (T.rows t).list with
  | .error err => .error err
  | .ok root => if io.print then .ok (cj.print root) else .error .noMem

/-- `gm_game_profile_save_to_path_locked` and `room_catalog_save_to_path_locked`. -/
def saveToPath (cj : CJson) (io : TableIo) (t : τ) (d : Disk) : EspErr × List Disk :=
  if io.sdCard ≠ .ok then (io.sdCard, [])
  else if io.mkdirParent ≠ .ok then (io.mkdirParent, [])
  else match T.text cj io t with
    | .error err => (err, [])
    | .ok printed => replaceFile io.toSaveIo printed d

/-- `gm_game_profile_load_from_path_locked` and `room_catalog_load_from_path_locked`, where
    their own calls succeed. -/
def loadFromPath (cj : CJson) (d : Disk) (t : τ) : EspErr × τ :=
  match d.file with
  | none => (.notFound, t)
  | some text =>
    if T.fmt.fileMax < text.utf8ByteSize then (.invalidSize, t)
    else match cj.parse text with
      | none => (.invalidArg, t)
      | some root => T.importJson {} root t

/-- One of the saving operations. -/
def runCall (cj : CJson) (call : TableCall κ) (io : TableIo) (h : FileHub τ) : TableResult τ :=
  if io.persistLock ≠ .ok then ⟨io.persistLock, h, []⟩
  else
    let (err, table) := T.apply io h.table call
    if err ≠ .ok then ⟨err, { h with table }, []⟩
    else
      let (err, trace) := T.saveToPath cj io table h.disk
      ⟨err, ⟨table, trace.getLastD h.disk⟩, trace⟩

/-- A sequence of calls, each with its outcomes. -/
def runCalls (cj : CJson) (h : FileHub τ) (calls : List (TableCall κ × TableIo)) : FileHub τ :=
  calls.foldl (fun h call => (T.runCall cj call.1 call.2 h).hub) h

end FileTable

end SceneHub
