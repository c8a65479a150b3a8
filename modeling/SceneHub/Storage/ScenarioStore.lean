import SceneHub.EspErr
import SceneHub.Json

/-!
# The Scenario Store

The table of scenarios in memory: `room_scenario.c`. The functions here look
at a scenario only through its id, its structural check and its JSON form, so
they are given for any type that has these.

A call may fail for a reason that lies outside the store, a lock that cannot
be made or memory that runs out. Such an outcome is an input, a code that is
`ok` where nothing went wrong.

## Main definitions

* `ScenarioFormat`: What the store uses of a scenario.
* `Store`: The table and its generation.
* `Store.add`, `Store.delete`, `Store.importJson`: The operations that change it.
* `Store.exportJson`: The whole table as one tree.
-/

namespace SceneHub

def maxScenarios : Nat := 12

def scenarioJsonVersion : Int := 1

/-- What the store uses of a scenario: its id, `room_scenario_validate_structural`,
    `room_scenario_to_json` and `room_scenario_from_json`. A conversion that
    fails says so. -/
structure ScenarioFormat (σ : Type) where
  id : σ → String
  validateStructural : σ → EspErr
  toJson : σ → Except EspErr Json
  fromJson : Json → Except EspErr σ
  toJson_fails : ∀ scenario, toJson scenario ≠ .error .ok
  fromJson_fails : ∀ item, fromJson item ≠ .error .ok

/-- `s_scenarios` and `s_generation`. A slot not in use is zeroed. -/
structure Store (σ : Type) where
  slots : List (Option σ) := List.replicate maxScenarios none
  generation : UInt32 := 0
  length_slots : slots.length = maxScenarios := by decide

variable {σ : Type}

/-- How the store's own resources turn out in one call: the locks of the table
    and of the scratch scenario, the memory for an exported tree, and the item
    at which the first or the second loop of an import runs out of memory. -/
structure StoreIo where
  lock : EspErr := .ok
  scratch : EspErr := .ok
  exportTree : EspErr := .ok
  checkStops : Option Nat := none
  fillStops : Option Nat := none
  deriving DecidableEq, Repr

namespace Store

/-- `room_scenario_find_locked`. -/
def find (fmt : ScenarioFormat σ) (s : Store σ) (scenarioId : String) : Option Nat :=
  if scenarioId = "" then none
  else s.slots.findIdx? fun slot => slot.any fun scenario => fmt.id scenario = scenarioId

def findFree (s : Store σ) : Option Nat := s.slots.findIdx? fun slot => slot.isNone

/-- Writing a slot, which counts as a new generation. -/
def setSlot (s : Store σ) (i : Nat) (slot : Option σ) : Store σ :=
  { slots := s.slots.set i slot
    generation := s.generation + 1
    length_slots := by rw [List.length_set]; exact s.length_slots }

/-- `room_scenario_add`. -/
def add (fmt : ScenarioFormat σ) (io : StoreIo) (scenario : σ) (s : Store σ) : EspErr × Store σ :=
  if fmt.validateStructural scenario ≠ .ok then (fmt.validateStructural scenario, s)
  else if io.lock ≠ .ok then (io.lock, s)
  else match (s.find fmt (fmt.id scenario)).or s.findFree with
    | none => (.noMem, s)
    | some i => (.ok, s.setSlot i (some scenario))

/-- `room_scenario_delete`. -/
def delete (fmt : ScenarioFormat σ) (io : StoreIo) (scenarioId : String) (s : Store σ) :
    EspErr × Store σ :=
  if scenarioId = "" then (.invalidArg, s)
  else if io.lock ≠ .ok then (io.lock, s)
  else match s.find fmt scenarioId with
    | none => (.notFound, s)
    | some i => (.ok, s.setSlot i none)

/-- The first loop of `room_scenario_store_import_json`, which only checks. The
    list holds the ids seen, and memory runs out at the item `stops`. -/
def checkItems (fmt : ScenarioFormat σ) (stops : Option Nat) : List String → List Json → EspErr
  | _, [] => .ok
  | seen, item :: rest =>
    if stops = some 0 then .noMem
    else match fmt.fromJson item with
      | .error err => err
      | .ok scenario =>
        if fmt.id scenario ∈ seen then .invalidArg
        else checkItems fmt (stops.map Nat.pred) (seen ++ [fmt.id scenario]) rest

/-- The second loop, which fills the table. -/
def importItems (fmt : ScenarioFormat σ) (stops : Option Nat) : List Json → Except EspErr (List σ)
  | [] => .ok []
  | item :: rest =>
    if stops = some 0 then .error .noMem
    else match fmt.fromJson item with
      | .error err => .error err
      | .ok scenario =>
        match importItems fmt (stops.map Nat.pred) rest with
        | .error err => .error err
        | .ok scenarios => .ok (scenario :: scenarios)

/-- A table with the scenarios in its first slots. -/
def fill (scenarios : List σ) (generation : UInt32) : Store σ :=
  { slots := ((scenarios.map some) ++ List.replicate maxScenarios none).take maxScenarios
    generation := generation
    length_slots := by
      rw [List.length_take, List.length_append, List.length_replicate]
      omega }

def importJson (fmt : ScenarioFormat σ) (io : StoreIo) (root : Json) (s : Store σ) :
    EspErr × Store σ :=
  if !root.isObject then (.invalidArg, s)
  else match root.get "version" with
    | some (.number version) =>
      if Json.valueInt version ≠ scenarioJsonVersion then (.invalidVersion, s)
      else match root.get "room_scenarios" with
        | some (.array items) =>
          if maxScenarios < items.length then (.invalidSize, s)
          else if io.scratch ≠ .ok then (io.scratch, s)
          else if checkItems fmt io.checkStops [] items ≠ .ok then
            (checkItems fmt io.checkStops [] items, s)
          else if io.lock ≠ .ok then (io.lock, s)
          else match importItems fmt io.fillStops items with
            -- The table was zeroed in front of the loop, and is zeroed again.
            | .error err => (err, fill [] s.generation)
            | .ok scenarios => (.ok, fill scenarios (s.generation + 1))
        | _ => (.invalidArg, s)
    | _ => (.invalidVersion, s)

/-- The loop of `room_scenario_store_export_json`. -/
def exportItems (fmt : ScenarioFormat σ) : List (Option σ) → Except EspErr (List Json)
  | [] => .ok []
  | none :: rest => exportItems fmt rest
  | some scenario :: rest =>
    match fmt.toJson scenario with
    | .error err => .error err
    | .ok item =>
      match exportItems fmt rest with
      | .error err => .error err
      | .ok items => .ok (item :: items)

def exportJson (fmt : ScenarioFormat σ) (io : StoreIo) (s : Store σ) : Except EspErr Json :=
  if io.exportTree ≠ .ok then .error io.exportTree
  else match exportItems fmt s.slots with
    | .error err => .error err
    | .ok items => .ok (.object [("version", .number 1), ("room_scenarios", .array items)])

end Store

end SceneHub
