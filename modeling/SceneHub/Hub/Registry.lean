import SceneHub.Lib.Runs

/-!
# The Registry Snapshot

How a snapshot of the hub is built, kept and given out: `orchestrator_registry.c` with
`orch_cache_refresh_snapshot` and `orchestrator_registry_invalidate`, and the order in
which `orch_snapshot_builder.c` reads.

A query looks at the cache, and if the snapshot there is not fresh it waits for the
build mutex, looks again and builds another one. It builds without the cache lock. A
step reads one generation or one part of the data, or is what happens under a lock.

A source counts its changes in a generation of 32 bits, under the lock that its data
are changed under. What has no generation, such as the state of the services, is
announced by `orchestrator_registry_invalidate` or by an event. The number of changes
of a source is kept beside its generation. No step of the code looks at it; it says
which state of a source a snapshot shows. Where the data of a source are read in
several places, the first reading is the one that counts, as it is the oldest.

## Main definitions

* `Registry`: The sources, the cache and the tasks.
* `Registry.fresh`: Whether the cached snapshot can be given out.
* `Registry.go`: The next step of a query.
* `registryStep`: A step of a query, a change or an invalidation.
-/

namespace SceneHub.Hub

/-- What a snapshot is built from. The last one stands for the data that have no
    generation. -/
inductive Source where
  | device
  | room
  | scenario
  | profile
  | ingest
  | session
  | service
  deriving DecidableEq, Repr

/-- The sources that have a generation and are shown in a snapshot. -/
def Source.tracked : List Source := [.device, .room, .scenario, .ingest, .session]

/-- The sources that are shown in a snapshot. No part of a profile is. -/
def Source.shown : List Source := .service :: tracked

/-- Generations that were read, and how often the sources had changed at that time. -/
structure Reading where
  generation : Source → UInt32 := fun _ => 0
  changes : Source → Nat := fun _ => 0

def configGeneration (generation : Source → UInt32) : UInt32 :=
  generation .device ^^^ (generation .room <<< 1) ^^^ (generation .scenario <<< 2) ^^^
    (generation .profile <<< 3)

/-- `orch_registry_snapshot_t`: the generations, and the state of each source that the
    data are from. -/
structure Snapshot where
  read : Reading := {}
  content : Source → Nat := fun _ => 0

/-- What `orch_snapshot_builder_build_uncached` reads. -/
inductive Work where
  | generation (src : Source)
  | data (src : Source)
  deriving DecidableEq, Repr

/-- The order in which a snapshot is built. -/
def buildOrder : List Work :=
  [.data .service, .generation .device, .generation .room, .generation .scenario,
    .generation .profile, .data .device, .data .ingest, .data .room, .data .session,
    .data .scenario]

/-- The order in which the generations are read before the cache is looked at. -/
def readOrder : List Source := [.ingest, .session, .device, .room, .scenario, .profile]

/-- Where a task stands in `orchestrator_registry_build_snapshot`, with the states of the
    sources that it must not fall behind. -/
inductive Query where
  | idle
  | reading (again : Bool) (floor : Source → Nat) (left : List Source) (got : Reading)
  | waiting (floor : Source → Nat)
  | building (floor : Source → Nat) (left : List Work) (snapshot : Snapshot)
  | failing (floor : Source → Nat)
  | leaving (floor : Source → Nat) (ok : Bool)
  | copying (floor : Source → Nat)

/-- The sources with their generations, the cache, the flags, the holder of the build
    mutex, the tasks, and what the queries have returned, newest first. -/
structure Registry where
  generation : Source → UInt32
  changes : Source → Nat
  announced : Nat
  cached : Snapshot := {}
  sourceGeneration : UInt32 := 0
  ingestGeneration : UInt32 := 0
  gmGeneration : UInt32 := 0
  builtAt : Nat := 0
  valid : Bool := false
  invalidatePending : Bool := false
  builder : Option Nat := none
  tasks : Nat → Query := fun _ => .idle
  returned : List ((Source → Nat) × Snapshot) := []

/-- What a step finds outside of the registry: the time, whether an ingest has devices,
    whether a lock is got and whether a build succeeds. -/
structure Turn where
  now : Nat := 0
  ingestCount : Nat := 0
  locked : Bool := true
  built : Bool := true
  deriving DecidableEq, Repr

def cacheTtlMs : Nat := 250

namespace Registry

def setTask (s : Registry) (task : Nat) (query : Query) : Registry :=
  { s with tasks := Function.update s.tasks task query }

/-- The states a query must not fall behind that begins now: those behind all changes
    that have a generation, and those that were announced. -/
def floor (s : Registry) (src : Source) : Nat :=
  if src = .service then s.announced else s.changes src

def readGeneration (s : Registry) (src : Source) (got : Reading) : Reading :=
  { generation := Function.update got.generation src (s.generation src)
    changes := Function.update got.changes src (s.changes src) }

/-- The part of `orch_cache_refresh_snapshot` that takes the pending flag. -/
def takePending (s : Registry) : Registry :=
  if s.invalidatePending then { s with valid := false, invalidatePending := false } else s

/-- `orch_cache_snapshot_fresh_locked`. -/
def fresh (s : Registry) (got : Reading) (turn : Turn) : Bool :=
  let ttl := if 0 < turn.ingestCount ∧ cacheTtlMs < 1000 then 1000 else cacheTtlMs
  let expired := turn.now < s.builtAt ∨ ttl ≤ turn.now - s.builtAt
  s.valid && (s.sourceGeneration = configGeneration got.generation &&
    s.ingestGeneration = got.generation .ingest && s.gmGeneration = got.generation .session &&
    !expired)

/-- A query looks at the cache, for the first time or with the build mutex. -/
def check (s : Registry) (task : Nat) (again : Bool) (floor : Source → Nat) (got : Reading)
    (turn : Turn) : Registry :=
  if turn.locked then
    let s := s.takePending
    if s.fresh got turn then s.setTask task (if again then .leaving floor true else .copying floor)
    else s.setTask task (if again then .building floor buildOrder { read := got }
      else .waiting floor)
  else s.setTask task (if again then .leaving floor false else .idle)

/-- The builder reads. -/
def build (s : Registry) (work : Work) (snapshot : Snapshot) : Snapshot :=
  match work with
  | .generation src => { snapshot with read := s.readGeneration src snapshot.read }
  | .data src =>
    { snapshot with content := Function.update snapshot.content src (s.changes src) }

/-- The snapshot that was built becomes the cached one. -/
def store (s : Registry) (snapshot : Snapshot) (turn : Turn) : Registry :=
  { s with
    cached := snapshot
    sourceGeneration := configGeneration snapshot.read.generation
    ingestGeneration := snapshot.read.generation .ingest
    gmGeneration := snapshot.read.generation .session
    builtAt := turn.now
    valid := !s.invalidatePending
    invalidatePending := false }

/-- The next step of a query. -/
def go (s : Registry) (task : Nat) (turn : Turn) : Option Registry :=
  match s.tasks task with
  | .idle => none
  | .reading again floor (src :: left) got =>
    some (s.setTask task (.reading again floor left (s.readGeneration src got)))
  | .reading again floor [] got => some (s.check task again floor got turn)
  | .waiting floor => match s.builder with
    | none =>
      some { s.setTask task (.reading true floor readOrder {}) with builder := some task }
    | some _ => none
  | .building floor (work :: left) snapshot =>
    some (s.setTask task
      (if turn.built then .building floor left (s.build work snapshot) else .failing floor))
  | .building floor [] snapshot =>
    if turn.locked then some ((s.store snapshot turn).setTask task (.leaving floor true))
    else some (s.setTask task (.leaving floor false))
  | .failing floor =>
    if turn.locked then some ({ s with valid := false }.setTask task (.leaving floor false))
    else some (s.setTask task (.leaving floor false))
  | .leaving floor ok =>
    some { s.setTask task (if ok then .copying floor else .idle) with builder := none }
  | .copying floor =>
    if turn.locked then
      some { s.setTask task .idle with returned := (floor, s.cached) :: s.returned }
    else some (s.setTask task .idle)

/-- A task begins a query. -/
def query (s : Registry) (task : Nat) : Option Registry :=
  match s.tasks task with
  | .idle => some (s.setTask task (.reading false s.floor readOrder {}))
  | _ => none

/-- The data of a source change, and its generation with them if it has one. -/
def change (s : Registry) (src : Source) : Registry :=
  { s with
    changes := Function.update s.changes src (s.changes src + 1)
    generation := Function.update s.generation src (s.generation src + 1) }

/-- `orchestrator_registry_invalidate`. The changes before it are announced. -/
def invalidate (s : Registry) (locked : Bool) : Registry :=
  if locked then
    { s with valid := false, invalidatePending := false, announced := s.changes .service }
  else { s with invalidatePending := true, announced := s.changes .service }

/-- `orch_registry_event_handler`, for `SCENEHUB_EVENT_DEVICE_CONFIG_CHANGED`. -/
def configEvent (s : Registry) : Registry :=
  { s with invalidatePending := true, announced := s.changes .service }

/-- The registry before anything has happened, with any values of the generations. -/
def atStart (generation : Source → UInt32) : Registry :=
  { generation, changes := fun _ => 0, announced := 0 }

end Registry

/-- A step of a query, of a source or of a task that invalidates. -/
inductive RegistryStep where
  | query (task : Nat)
  | go (task : Nat) (turn : Turn)
  | change (src : Source)
  | invalidate (locked : Bool)
  | configEvent
  deriving DecidableEq, Repr

def registryStep (s : Registry) : RegistryStep → Option Registry
  | .query task => s.query task
  | .go task turn => s.go task turn
  | .change src => some (s.change src)
  | .invalidate locked => some (s.invalidate locked)
  | .configEvent => some s.configEvent

end SceneHub.Hub
