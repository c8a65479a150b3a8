import Mathlib.Data.List.Dedup
import SceneHub.Hub.Registry

/-!
# Invalidations

How the hub tells its clients what has changed: `scenehub_state_notify_invalidation` and
the watcher of `scenehub_state.c`, and how `gm_room_session` and `device_control_ingest`
mark what has changed.

A call reads the generations one by one, waits for the broadcast mutex, and then does its
work under the state mutex: it compares the generations with those of the last time, adds
its own slice and target to the pending ones, and takes what is to be sent, unless the last
broadcast was less than 250 ms ago. It sends when the state mutex is free again. Every step
is a read of one generation, what happens under one lock, or one message that is sent. The
watcher is the task with number 0.

The mutexes are there from the first use on, and there is no time-out when they are taken.
The generations that go along with invalidations are left out. The number of changes of a
source is kept beside its generation, as for the registry.

## Main definitions

* `Notifier`: The sources, what is pending, and where the tasks stand.
* `Notifier.commit`: What a call does under the state mutex.
* `Notifier.go`, `Notifier.watch`: The next step of a call, and of the watcher.
* `Open`: What no message has covered since it changed or was asked for.
-/

namespace SceneHub.Hub

open Function (update)

/-- `scenehub_state_slice_t` but for `SCENEHUB_STATE_SLICE_NONE`. -/
inductive Slice where
  | roomCatalog
  | devicesCatalog
  | roomScenarios
  | roomProfiles
  | gmSidebarPresets
  | devicesRuntime
  | roomRuntime
  | systemSummary
  | fullSnapshot
  deriving DecidableEq, Repr

/-- The slices that have a bit in a mask. -/
def Slice.all : List Slice :=
  [.roomCatalog, .devicesCatalog, .roomScenarios, .roomProfiles, .gmSidebarPresets,
    .devicesRuntime, .roomRuntime, .systemSummary]

/-- A set of bits, one for each slice. -/
abbrev Mask := Slice → Bool

def sliceMask (slice : Slice) : Mask := fun bit =>
  match slice with
  | .fullSnapshot => bit ∈ Slice.all
  | slice => bit = slice

/-- What `scenehub_state_slice_scope` returns. -/
inductive Scope where
  | global
  | room
  | device
  | recovery
  deriving DecidableEq, Repr

def sliceScope : Slice → Scope
  | .roomScenarios | .roomProfiles | .roomRuntime => .room
  | .devicesRuntime => .device
  | .fullSnapshot => .recovery
  | .gmSidebarPresets | .roomCatalog | .devicesCatalog | .systemSummary => .global

def targetIdMaxLen : Nat := 32

def reasonMaxLen : Nat := 48

def copyText (size : Nat) (text : List Char) : List Char := text.take (size - 1)

/-- The id of a room or of a device: at most `QUEST_ROOM_ID_MAX_LEN - 1` or
    `QUEST_ID_MAX_LEN - 1` characters. -/
abbrev Id := { text : List Char // text.length < targetIdMaxLen }

/-- `scenehub_state_pending_invalidation_t`, and what is passed to
    `scenehub_state_notify_invalidation`. -/
structure Item where
  slice : Slice
  target : List Char
  reason : List Char
  deriving DecidableEq, Repr

/-- What is sent to the clients. -/
inductive Broadcast where
  | versions (generation : UInt32) (versions : Source → UInt32)
  | invalidation (slice : Slice) (target : List Char) (scope : Scope) (reason : List Char)
  | resync (target : List Char) (reason : List Char)

/-- The sources whose last change is remembered. -/
inductive Runtime where
  | ingest
  | session
  deriving DecidableEq, Repr

def Runtime.source : Runtime → Source
  | .ingest => .ingest
  | .session => .session

def Runtime.slice : Runtime → Slice
  | .ingest => .devicesRuntime
  | .session => .roomRuntime

/-- The reason the watcher gives. -/
def Runtime.reason : Runtime → List Char
  | .ingest => "watcher_ingest".toList
  | .session => "watcher_session".toList

/-! ### What is to be broadcast -/

/-- A change of a room or device, with its number, or what was passed to
    `scenehub_state_notify_invalidation`. An empty target stands for all of them. -/
inductive Need where
  | change (src : Runtime) (number : Nat) (target : List Char)
  | request (slice : Slice) (target : List Char)
  deriving DecidableEq, Repr

def Need.slice : Need → Slice
  | .change src _ _ => src.slice
  | .request slice _ => slice

def Need.target : Need → List Char
  | .change _ _ target => target
  | .request _ target => target

/-- A message tells the clients enough: it is a full resync, or an invalidation of the slice
    without a target or with the same. -/
def covers : Broadcast → Need → Bool
  | .versions _ _, _ => false
  | .invalidation slice target _ _, need =>
    slice = need.slice && (target = [] || target = need.target)
  | .resync _ _, _ => true

/-- What happens: something has to be broadcast, and a message is sent. -/
inductive NotifyEntry where
  | needed (need : Need)
  | sent (message : Broadcast)

/-- What no message has covered since. -/
def Open : List NotifyEntry → List Need
  | [] => []
  | .needed need :: past => need :: Open past
  | .sent message :: past => (Open past).filter fun need => !covers message need

/-! ### States -/

/-- Where a task stands in `scenehub_state_notify_invalidation`. -/
inductive Call where
  | idle
  | reading (item : Option Item) (now : UInt32) (left : List Source) (got : Reading)
  | waiting (item : Option Item) (now : UInt32) (got : Reading)
  | holding (item : Option Item) (now : UInt32) (got : Reading)
  | sending (left : List Broadcast)

/-- Where the watcher stands in its loop. -/
inductive Watcher where
  | start
  | readIngest (ingest : UInt32)
  | read (ingest session : UInt32)
  | looked (ingestChanged sessionChanged due : Bool)
  | afterIngest (sessionChanged : Bool)
  deriving DecidableEq, Repr

/-- The sources with their generations and their last changed ids, the variables of
    `scenehub_state.c`, the broadcast mutex, the tasks, and what has happened, newest first. -/
structure Notifier where
  generation : Source → UInt32
  changes : Source → Nat := fun _ => 0
  lastChanged : Runtime → List Char := fun _ => []
  lastVersions : Reading
  lastGeneration : Runtime → UInt32
  lastBroadcastAt : UInt32 := 0
  pendingMask : Mask := fun _ => false
  broadcastPending : Bool := false
  pending : List Item := []
  wsGeneration : UInt32 := 0
  mutex : Option Nat := none
  calls : Nat → Call := fun _ => .idle
  watcher : Watcher := .start
  log : List NotifyEntry := []

def wsMinIntervalMs : UInt32 := 250

def maxPendingExplicit : Nat := 8

/-- The order in which `scenehub_state_get_versions` reads. -/
def versionsOrder : List Source := [.room, .device, .scenario, .profile, .ingest, .session]

/-! ### Calls -/

def collectChangeMask (prev current : Source → UInt32) : Mask
  | .roomCatalog => prev .room ≠ current .room
  | .devicesCatalog => prev .device ≠ current .device
  | .roomScenarios => prev .scenario ≠ current .scenario
  | .roomProfiles => prev .profile ≠ current .profile
  | .devicesRuntime => prev .ingest ≠ current .ingest
  | .roomRuntime => prev .session ≠ current .session
  | .systemSummary =>
    prev .device ≠ current .device || prev .ingest ≠ current .ingest ||
      prev .session ≠ current .session
  | .gmSidebarPresets | .fullSnapshot => false

/-- The loop of `scenehub_state_queue_explicit_invalidation`: the pending invalidation with the
    same slice and target gets the new reason. -/
def renew (item : Item) : List Item → Option (List Item)
  | [] => none
  | p :: rest =>
    if p.slice = item.slice ∧ p.target = item.target then
      some ({ p with reason := copyText reasonMaxLen item.reason } :: rest)
    else (renew item rest).map (p :: ·)

/-- `scenehub_state_queue_explicit_invalidation`. -/
def queueExplicit (pending : List Item) : Option Item → List Item
  | none => pending
  | some item => match renew item pending with
    | some renewed => renewed
    | none =>
      if maxPendingExplicit ≤ pending.length then pending
      else pending ++
        [{ slice := item.slice
           target := copyText targetIdMaxLen item.target
           reason := copyText reasonMaxLen item.reason }]

def explicitMask (items : List Item) : Mask := fun bit =>
  items.any fun item => sliceMask item.slice bit

/-- The body of the loop of `scenehub_state_broadcast_explicit_invalidations`. -/
def explicitBroadcast (item : Item) : Broadcast :=
  match item.slice with
  | .fullSnapshot => .resync item.target item.reason
  | slice => .invalidation slice item.target (sliceScope slice) item.reason

/-- The slices that `scenehub_state_broadcast_invalidation` knows, with its reasons. -/
def coarseSlices : List (Slice × List Char) :=
  [(.roomCatalog, "room_catalog_changed".toList),
    (.devicesCatalog, "device_catalog_changed".toList),
    (.roomScenarios, "scenario_catalog_changed".toList),
    (.roomProfiles, "profile_catalog_changed".toList),
    (.devicesRuntime, "device_runtime_changed".toList),
    (.roomRuntime, "room_runtime_changed".toList),
    (.systemSummary, "system_summary_changed".toList)]

/-- `scenehub_state_broadcast_invalidation`. -/
def coarseBroadcasts (mask : Mask) : List Broadcast :=
  (coarseSlices.filter fun entry => mask entry.1).map fun entry =>
    .invalidation entry.1 [] .global entry.2

namespace Notifier

def setCall (s : Notifier) (task : Nat) (call : Call) : Notifier :=
  { s with calls := update s.calls task call }

/-- Nothing has changed and nothing is pending. -/
def nothing (s : Notifier) (change : Mask) : Bool :=
  Slice.all.all (fun bit => !change bit) && !s.broadcastPending &&
    Slice.all.all (fun bit => !s.pendingMask bit) && s.pending.isEmpty

/-- A broadcast would be too early. -/
def throttled (s : Notifier) (now : UInt32) : Bool :=
  s.lastBroadcastAt ≠ 0 && now - s.lastBroadcastAt < wsMinIntervalMs

/-- What `scenehub_state_notify_invalidation` does under the state mutex, and what it has to
    send. -/
def commit (s : Notifier) (item : Option Item) (now : UInt32) (got : Reading) :
    Notifier × List Broadcast :=
  let change := collectChangeMask s.lastVersions.generation got.generation
  let s := { s with
    pending := queueExplicit s.pending item
    lastGeneration := fun src => got.generation src.source }
  if s.nothing change then (s, [])
  else
    let s := { s with
      lastVersions := got
      pendingMask := fun bit => s.pendingMask bit || change bit }
    if s.throttled now then ({ s with broadcastPending := true }, [])
    else
      let explicit := explicitMask s.pending
      ({ s with
          wsGeneration := s.wsGeneration + 1
          lastBroadcastAt := now
          broadcastPending := false
          pending := []
          pendingMask := fun _ => false },
        .versions (s.wsGeneration + 1) got.generation ::
          (s.pending.map explicitBroadcast ++
            coarseBroadcasts fun bit => s.pendingMask bit && !explicit bit))

def readGeneration (s : Notifier) (src : Source) (got : Reading) : Reading :=
  { generation := update got.generation src (s.generation src)
    changes := update got.changes src (s.changes src) }

/-- The next step of a call. -/
def go (s : Notifier) (task : Nat) : Option Notifier :=
  match s.calls task with
  | .idle => none
  | .reading item now (src :: left) got =>
    some (s.setCall task (.reading item now left (s.readGeneration src got)))
  | .reading item now [] got => some (s.setCall task (.waiting item now got))
  | .waiting item now got => match s.mutex with
    | none => some { s.setCall task (.holding item now got) with mutex := some task }
    | some _ => none
  | .holding item now got =>
    let r := s.commit item now got
    some (r.1.setCall task (.sending r.2))
  | .sending (message :: left) =>
    some { s.setCall task (.sending left) with log := .sent message :: s.log }
  | .sending [] => some { s.setCall task .idle with mutex := none }

/-- A task calls `scenehub_state_notify_invalidation`. -/
def call (s : Notifier) (task : Nat) (item : Option Item) (now : UInt32) : Notifier :=
  { s.setCall task (.reading item now versionsOrder {}) with
    log := (item.map fun item => .needed (.request item.slice item.target)).toList ++ s.log }

/-- The watcher passes on what has changed last. -/
def passOn (s : Notifier) (src : Runtime) (now : UInt32) : Notifier :=
  s.call 0
    (some { slice := src.slice, target := s.lastChanged src, reason := src.reason }) now

/-- The next step of the watcher outside of its calls. -/
def watch (s : Notifier) (now : UInt32) : Option Notifier :=
  match s.calls 0 with
  | .idle => some (match s.watcher with
    | .start => { s with watcher := .readIngest (s.generation .ingest) }
    | .readIngest ingest => { s with watcher := .read ingest (s.generation .session) }
    | .read ingest session =>
      let ingestChanged := decide (ingest ≠ s.lastGeneration .ingest)
      let sessionChanged := decide (session ≠ s.lastGeneration .session)
      let due := s.broadcastPending && !s.throttled now
      { s with watcher := .looked ingestChanged sessionChanged due }
    | .looked true sessionChanged _ =>
      { s.passOn .ingest now with watcher := .afterIngest sessionChanged }
    | .looked false true _ => { s.passOn .session now with watcher := .start }
    | .looked false false true => { s.call 0 none now with watcher := .start }
    | .looked false false false => { s with watcher := .start }
    | .afterIngest true => { s.passOn .session now with watcher := .start }
    | .afterIngest false => { s with watcher := .start })
  | _ => none

/-- Rooms or devices change under one lock: each of them counts once, and the last of them is
    remembered. -/
def change (s : Notifier) (src : Runtime) (ids : List Id) : Option Notifier :=
  match ids.getLast? with
  | none => none
  | some last =>
    let number := s.changes src.source + 1
    some { s with
      generation := update s.generation src.source
        (s.generation src.source + UInt32.ofNat ids.dedup.length)
      changes := update s.changes src.source number
      lastChanged := update s.lastChanged src last.1
      log := ids.map (fun id => .needed (.change src number id.1)) ++ s.log }

/-- All rooms or devices change, and none of them is remembered. -/
def reset (s : Notifier) (src : Runtime) : Notifier :=
  let number := s.changes src.source + 1
  { s with
    generation := update s.generation src.source (s.generation src.source + 1)
    changes := update s.changes src.source number
    lastChanged := update s.lastChanged src []
    log := .needed (.change src number []) :: s.log }

/-- A catalogue changes. -/
def changeCatalog (s : Notifier) (src : Source) : Option Notifier :=
  match src with
  | .ingest | .session => none
  | src => some { s with
      generation := update s.generation src (s.generation src + 1)
      changes := update s.changes src (s.changes src + 1) }

/-- The state behind `scenehub_state_init`, with any values of the generations. -/
def atStart (generation : Source → UInt32) : Notifier :=
  { generation
    lastVersions := { generation }
    lastGeneration := fun src => generation src.source }

end Notifier

/-- A step of a source, of a task that calls `scenehub_state_notify_invalidation`, or of the
    watcher. -/
inductive NotifyStep where
  | change (src : Runtime) (ids : List Id)
  | reset (src : Runtime)
  | changeCatalog (src : Source)
  | notify (task : Nat) (item : Option Item) (now : UInt32)
  | go (task : Nat)
  | watch (now : UInt32)
  deriving DecidableEq, Repr

def notifyStep (s : Notifier) : NotifyStep → Option Notifier
  | .change src ids => s.change src ids
  | .reset src => some (s.reset src)
  | .changeCatalog src => s.changeCatalog src
  | .notify task item now => match s.calls task with
    | .idle => if task = 0 then none else some (s.call task item now)
    | _ => none
  | .go task => s.go task
  | .watch now => s.watch now

end SceneHub.Hub
