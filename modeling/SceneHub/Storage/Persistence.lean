import SceneHub.Storage.ScenarioStore

/-!
# Scenario Persistence

Keeping the store's table in a file: `room_scenario_persistence.c`. The three
operations change the table in memory and then write all of it to the file,
through a temporary file that takes the file's place.

Whether a call of the file system succeeds is an input. What power may be lost
between is the calls of one save, so a save gives the files as they are behind
each call in turn. The path is the constant the three operations use: it is not
empty, and the name of its temporary file fits its buffer.

## Main definitions

* `Disk`: The file and its temporary file.
* `SaveIo`: How the calls of a save turn out.
* `replaceFile`: Writing a text in place of the file, call by call.
* `saveToPath`: `room_scenario_store_save_to_path_locked`.
* `loadText`, `loadFromPath`: `room_scenario_store_load_from_path_locked`.
* `Call`, `runCall`: The three operations.
-/

namespace SceneHub

def fileMaxBytes : Nat := 256 * 1024

/-- The contents of the file and of the temporary file, where they exist. -/
structure Disk where
  file : Option String := none
  tmp : Option String := none
  deriving DecidableEq, Repr

/-- How the calls of a save turn out. A failing `fwrite` leaves `partText` in
    the temporary file. -/
structure SaveIo where
  persistLock : EspErr := .ok
  sdCard : EspErr := .ok
  mkdirParent : EspErr := .ok
  store : StoreIo := {}
  print : Bool := true
  fopen : Bool := true
  fwrite : Bool := true
  partText : String := ""
  fclose : Bool := true
  unlink : Bool := true
  rename : Bool := true
  unlinkTmp : Bool := true
  deriving DecidableEq, Repr

/-- `unlink(tmp_path)` on a way out. -/
def Disk.dropTmp (d : Disk) (io : SaveIo) : Disk :=
  if io.unlinkTmp then { d with tmp := none } else d

/-- The calls from `fopen` to `rename`, with the files behind each of them. -/
def replaceFile (io : SaveIo) (printed : String) (d : Disk) : EspErr × List Disk :=
  if !io.fopen then (.fail, [])
  else
    let opened := { d with tmp := some "" }
    if 0 < printed.utf8ByteSize ∧ !io.fwrite then
      let torn := { d with tmp := some io.partText }
      (.fail, [opened, torn, torn.dropTmp io])
    else
      let written := { d with tmp := some printed }
      if !io.fclose then (.fail, [opened, written, written.dropTmp io])
      else
        -- The result of `unlink(path)` is not looked at.
        let unlinked := if io.unlink then { written with file := none } else written
        if !io.rename then (.fail, [opened, written, unlinked, unlinked.dropTmp io])
        else (.ok, [opened, written, unlinked, { file := some printed, tmp := none }])

/-- The text of a table, as `cJSON_PrintUnformatted` gives it. -/
def storeText {σ : Type} (fmt : ScenarioFormat σ) (print : Json → String) (io : SaveIo)
    (s : Store σ) : Except EspErr String :=
  match s.exportJson fmt io.store with
  | .error err => .error err
  | .ok root => if io.print then .ok (print root) else .error .noMem

def saveToPath {σ : Type} (fmt : ScenarioFormat σ) (print : Json → String) (io : SaveIo)
    (s : Store σ) (d : Disk) : EspErr × List Disk :=
  if io.sdCard ≠ .ok then (io.sdCard, [])
  else if io.mkdirParent ≠ .ok then (io.mkdirParent, [])
  else match storeText fmt print io s with
    | .error err => (err, [])
    | .ok printed => replaceFile io printed d

/-- The part of `room_scenario_store_load_from_path_locked` up to the text, where
    its own calls succeed. -/
def loadText (d : Disk) : Except EspErr String :=
  match d.file with
  | none => .error .notFound
  | some text => if fileMaxBytes < text.utf8ByteSize then .error .invalidSize else .ok text

def loadFromPath {σ : Type} (fmt : ScenarioFormat σ) (parse : String → Option Json) (io : StoreIo)
    (d : Disk) (s : Store σ) : EspErr × Store σ :=
  match loadText d with
  | .error err => (err, s)
  | .ok text =>
    match parse text with
    | none => (.invalidArg, s)
    | some root => s.importJson fmt io root

/-- The store with its file. -/
structure Hub (σ : Type) where
  store : Store σ
  disk : Disk := {}

/-- `room_scenario_add_and_save`, `room_scenario_delete_and_save` and
    `room_scenario_store_import_json_and_save`. -/
inductive Call (σ : Type) where
  | addAndSave (scenario : σ)
  | deleteAndSave (scenarioId : String)
  | importAndSave (root : Json)

variable {σ : Type}

/-- What a call does to the table before it saves. -/
def Call.apply (fmt : ScenarioFormat σ) (io : StoreIo) (s : Store σ) : Call σ → EspErr × Store σ
  | .addAndSave scenario => s.add fmt io scenario
  | .deleteAndSave scenarioId => s.delete fmt io scenarioId
  | .importAndSave root => s.importJson fmt io root

/-- What a call returns, what it leaves, and the files behind each of its calls
    of the file system. -/
structure CallResult (σ : Type) where
  err : EspErr
  hub : Hub σ
  trace : List Disk

/-- One of the three operations. -/
def runCall (fmt : ScenarioFormat σ) (print : Json → String) (call : Call σ) (io : SaveIo)
    (h : Hub σ) : CallResult σ :=
  if io.persistLock ≠ .ok then ⟨io.persistLock, h, []⟩
  else
    let (err, store) := call.apply fmt io.store h.store
    if err ≠ .ok then ⟨err, { h with store := store }, []⟩
    else
      let (err, trace) := saveToPath fmt print io store h.disk
      ⟨err, ⟨store, trace.getLastD h.disk⟩, trace⟩

/-- A sequence of calls, each with its outcomes. -/
def runCalls (fmt : ScenarioFormat σ) (print : Json → String) (h : Hub σ)
    (calls : List (Call σ × SaveIo)) : Hub σ :=
  calls.foldl (fun h call => (runCall fmt print call.1 call.2 h).hub) h

end SceneHub
