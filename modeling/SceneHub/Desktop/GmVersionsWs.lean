import SceneHub.Hub.StateNotify

/-!
# The Web Socket of the Desktop App

What `useGmVersionsWs.ts` does with the messages of the hub: which queries it invalidates, and
when. An invalidation is put into one of two maps and is applied when a timer fires, a resync is
applied at once and empties the maps, and the versions are compared with the last ones, unless
an invalidation or a resync came less than half a second ago.

The hub sends to the clients that have subscribed, and the messages of a connection arrive in
order. The app subscribes when the connection is open, and asks for nothing else. If it cannot
be sent to a client, the hub forgets the client, and the connection stays as it is. What is
under way when a connection ends is lost. When the effect of the hook runs again, the timers
and the maps are cleared, and there is a new connection.

The hub may change anything and send any message at any time. A message of the hub is always
well-formed, so the versions are not read by HTTP. A query key is written without the address
of the hub. The timers fire at any time after they were set, and the clock may be any.

## Main definitions

* `Client`: The variables of the hook.
* `Client.receive`: What is done with a message.
* `Desk`: The connection, what is under way on it, the client, and what has happened.
* `deskStep`: A step of the hub, of the connection or of the client.
-/

namespace SceneHub.Desktop

open Hub

/-! ### Queries -/

/-- A part of a query key behind `"gm"`. -/
inductive Segment where
  | state
  | roomRuntime
  | roomProfiles
  | roomScenarios
  | id (room : List Char)
  deriving DecidableEq, Repr

/-- The key of a query, or what is passed to `invalidateQueries`, which takes all keys that
    begin with it. -/
abbrev QueryKey := List Segment

def invalidateState : QueryKey := [.state]

/-- `invalidateRoomRuntime` and the two like it. -/
def invalidateRoom (kind : Segment) (roomId : Option (List Char)) : QueryKey :=
  match roomId with
  | some room => [kind, .id room]
  | none => [kind]

def invalidateRoomRuntime : Option (List Char) → QueryKey := invalidateRoom .roomRuntime

def invalidateRoomProfiles : Option (List Char) → QueryKey := invalidateRoom .roomProfiles

def invalidateRoomScenarios : Option (List Char) → QueryKey := invalidateRoom .roomScenarios

def applyInvalidation (slice : Slice) (target : List Char) : List QueryKey :=
  let targetId := if target = [] then none else some target
  match slice with
  | .fullSnapshot | .roomCatalog =>
    [invalidateState, invalidateRoomRuntime none, invalidateRoomProfiles none,
      invalidateRoomScenarios none]
  | .devicesCatalog => [invalidateState, invalidateRoomScenarios none]
  | .devicesRuntime => [invalidateState, invalidateRoomRuntime none]
  | .roomScenarios => [invalidateRoomScenarios targetId, invalidateRoomRuntime targetId]
  | .roomProfiles => [invalidateRoomProfiles targetId, invalidateRoomRuntime targetId]
  | .roomRuntime => [invalidateRoomRuntime targetId]
  | .systemSummary => [invalidateState]
  | .gmSidebarPresets => []

def applyResyncRequired : List QueryKey :=
  [invalidateState, invalidateRoomRuntime none, invalidateRoomProfiles none,
    invalidateRoomScenarios none]

/-! ### Versions -/

structure GmVersions where
  generation : UInt32
  rooms : UInt32
  devices : UInt32
  scenarios : UInt32
  profiles : UInt32
  ingest : UInt32
  session : UInt32
  static : UInt32
  runtime : UInt32
  deriving DecidableEq, Repr

/-- The payload of `gm.versions.changed`. -/
def GmVersions.ofBroadcast (generation : UInt32) (versions : Source → UInt32) : GmVersions where
  generation := generation
  rooms := versions .room
  devices := versions .device
  scenarios := versions .scenario
  profiles := versions .profile
  ingest := versions .ingest
  session := versions .session
  static := versions .device ^^^ (versions .room <<< 1) ^^^ (versions .scenario <<< 2) ^^^
    (versions .profile <<< 3)
  runtime := versions .ingest ^^^ (versions .session <<< 1)

def gmVersionsChanged (versions previous : GmVersions) (keys : List (GmVersions → UInt32)) : Bool :=
  keys.any fun key => key versions ≠ key previous

def gmVersionsEqual (a b : GmVersions) : Bool :=
  !gmVersionsChanged a b
    [GmVersions.rooms, GmVersions.devices, GmVersions.scenarios, GmVersions.profiles,
      GmVersions.ingest, GmVersions.session, GmVersions.static, GmVersions.runtime]

/-! ### The client -/

/-- What is kept of a `GmInvalidation`. Its slice and target are also its key in the maps. -/
structure Invalidation where
  slice : Slice
  target : List Char
  deriving DecidableEq, Repr

/-- The variables of the hook. A timer holds its delay. -/
structure Client where
  lastVersions : Option GmVersions := none
  versionsIgnoreUntil : Int := 0
  invalidationFlushTimer : Option Int := none
  runtimeInvalidationFlushTimer : Option Int := none
  lastRuntimeInvalidationAt : Int := 0
  pendingInvalidations : List Invalidation := []
  pendingRuntimeInvalidations : List Invalidation := []
  deriving DecidableEq, Repr

def roomRuntimeInvalidationMinMs : Int := 2500

/-- `set` on a map of invalidations. -/
def setInvalidation (items : List Invalidation) (item : Invalidation) : List Invalidation :=
  if item ∈ items then items else items ++ [item]

namespace Client

def applyVersionsChanged (c : Client) (versions : GmVersions) : Client × List QueryKey :=
  match c.lastVersions with
  | none =>
    ({ c with lastVersions := some versions }, [invalidateState, invalidateRoomRuntime none])
  | some previous =>
    if gmVersionsEqual versions previous then (c, [])
    else ({ c with lastVersions := some versions },
      (if gmVersionsChanged versions previous [GmVersions.rooms] then [invalidateState] else []) ++
      (if gmVersionsChanged versions previous [GmVersions.devices, GmVersions.ingest] then
        [invalidateState] else []) ++
      (if gmVersionsChanged versions previous [GmVersions.scenarios] then
        [invalidateRoomScenarios none] else []) ++
      (if gmVersionsChanged versions previous [GmVersions.profiles] then
        [invalidateRoomProfiles none] else []) ++
      (if gmVersionsChanged versions previous
          [GmVersions.session, GmVersions.runtime, GmVersions.ingest] then
        [invalidateState, invalidateRoomRuntime none] else []))

def queueRuntimeInvalidation (c : Client) (now : Int) (item : Invalidation) : Client :=
  { c with
    pendingRuntimeInvalidations := setInvalidation c.pendingRuntimeInvalidations item
    runtimeInvalidationFlushTimer := match c.runtimeInvalidationFlushTimer with
      | some delay => some delay
      | none =>
        some (max 0 (roomRuntimeInvalidationMinMs - (now - c.lastRuntimeInvalidationAt))) }

def queueInvalidation (c : Client) (now : Int) (item : Invalidation) : Client :=
  if item.slice = .roomRuntime then c.queueRuntimeInvalidation now item
  else { c with
    pendingInvalidations := setInvalidation c.pendingInvalidations item
    invalidationFlushTimer := match c.invalidationFlushTimer with
      | some delay => some delay
      | none => some 50 }

/-- `socket.onmessage`, and what is invalidated. -/
def receive (c : Client) (now : Int) : Broadcast → Client × List QueryKey
  | .invalidation slice target _ _ =>
    ({ c with versionsIgnoreUntil := now + 500 }.queueInvalidation now { slice, target }, [])
  | .resync _ _ =>
    ({ c with
        versionsIgnoreUntil := now + 500
        pendingRuntimeInvalidations := []
        runtimeInvalidationFlushTimer := none
        pendingInvalidations := []
        invalidationFlushTimer := none }, applyResyncRequired)
  | .versions generation versions =>
    if now < c.versionsIgnoreUntil then (c, [])
    else c.applyVersionsChanged (.ofBroadcast generation versions)

/-- What a map of invalidations makes the client invalidate when it is flushed. -/
def applyAll (items : List Invalidation) : List QueryKey :=
  items.flatMap fun item => applyInvalidation item.slice item.target

/-- `flushInvalidations`, and what is invalidated. -/
def flushInvalidations (c : Client) : Client × List QueryKey :=
  ({ c with invalidationFlushTimer := none, pendingInvalidations := [] },
    applyAll c.pendingInvalidations)

/-- `flushRuntimeInvalidations`, and what is invalidated. -/
def flushRuntimeInvalidations (c : Client) (now : Int) : Client × List QueryKey :=
  ({ c with
      runtimeInvalidationFlushTimer := none
      lastRuntimeInvalidationAt := now
      pendingRuntimeInvalidations := [] }, applyAll c.pendingRuntimeInvalidations)

end Client

/-! ### The connection -/

/-- A connection, as the hub sees it. -/
inductive Link where
  | down
  | opened
  | subscribed
  | forgotten
  deriving DecidableEq, Repr

/-- What happens: data behind query keys changes on the hub, a message is broadcast, and the
    client invalidates a key. -/
inductive DeskEntry where
  | changed (key : QueryKey)
  | broadcast (message : Broadcast)
  | invalidated (key : QueryKey)

/-- The connection, the messages under way on it, the client, and what has happened, newest
    first. -/
structure Desk where
  link : Link := .down
  queue : List Broadcast := []
  client : Client := {}
  log : List DeskEntry := []

/-- The data of a query has changed after the client last invalidated it. -/
def Stale : List DeskEntry → QueryKey → Bool
  | [], _ => false
  | .changed key :: past, query => key.isPrefixOf query || Stale past query
  | .broadcast _ :: past, query => Stale past query
  | .invalidated key :: past, query => !key.isPrefixOf query && Stale past query

namespace Desk

/-- The client has done something and has invalidated keys. -/
def invalidate (s : Desk) (r : Client × List QueryKey) : Desk :=
  { s with client := r.1, log := r.2.map DeskEntry.invalidated ++ s.log }

def broadcast (s : Desk) (message : Broadcast) : Desk :=
  { s with
    queue := if s.link = .subscribed then s.queue ++ [message] else s.queue
    log := .broadcast message :: s.log }

end Desk

/-- A step of the hub, of the connection, or of the client. -/
inductive DeskStep where
  | change (keys : List QueryKey)
  | broadcast (message : Broadcast)
  | connect
  | subscribe
  | forget
  | disconnect
  | receive (now : Int)
  | flush
  | flushRuntime (now : Int)
  | remount

def deskStep (s : Desk) : DeskStep → Option Desk
  | .change keys => some { s with log := keys.map DeskEntry.changed ++ s.log }
  | .broadcast message => some (s.broadcast message)
  | .connect => if s.link = .down then some { s with link := .opened } else none
  | .subscribe => if s.link = .opened then some { s with link := .subscribed } else none
  | .forget => if s.link = .subscribed then some { s with link := .forgotten } else none
  | .disconnect => if s.link = .down then none else some { s with link := .down, queue := [] }
  | .receive now => match s.queue with
    | [] => none
    | message :: rest => some ({ s with queue := rest }.invalidate (s.client.receive now message))
  | .flush => match s.client.invalidationFlushTimer with
    | none => none
    | some _ => some (s.invalidate s.client.flushInvalidations)
  | .flushRuntime now => match s.client.runtimeInvalidationFlushTimer with
    | none => none
    | some _ => some (s.invalidate (s.client.flushRuntimeInvalidations now))
  | .remount => some { s with link := .down, queue := [], client := {} }

end SceneHub.Desktop
