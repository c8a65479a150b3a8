import Mathlib.Algebra.Group.Nat.Defs
import SceneHub.Event
import SceneHub.Ingest.Control
import SceneHub.Lib.Slots

/-!
# Pending Commands

The commands whose result is awaited, from `command_executor_result.c`. A slot
of the table keeps the ids of a request and the time its result is due.

Ids are compared as they are given and kept in arrays of a bounded size, so an
id that is too long for its array is kept without its end.

## Main definitions

* `trackPending`: Awaiting the result of a command.
* `clearPending`, `onEvent`: The result is no longer awaited.
* `pollTimeouts`: Giving up on results that are overdue.
* `PendingOp`, `stepPending`: The functions of the module, as operations.
-/

namespace SceneHub.Executor

open Ingest (ControlEvent)

def maxPending : Nat := 24

def requestIdMaxLen : Nat := 48

def sourceIdMaxLen : Nat := 32

def timeoutDefaultMs : UInt32 := 3000

/-- What `esp_timer_get_time` returns: microseconds since the start, signed and
    of 64 bits. -/
structure TimerUs where
  us : Nat
  inRange : us < 2 ^ 63
  deriving DecidableEq, Repr

def TimerUs.nowMs (t : TimerUs) : UInt64 := UInt64.ofNat (t.us / 1000)

/-- A slot of `s_pending` in use. The command is kept beside the rest and read
    nowhere. -/
structure Pending where
  deadlineMs : UInt64
  requestId : List Char
  sourceId : List Char
  deriving DecidableEq, Repr

abbrev PendingTable := List (Option Pending)

/-- `s_pending` at the start. -/
def PendingTable.empty : PendingTable := List.replicate maxPending none

/-- `ce_time_reached`: `deadline_ms > 0 && (int64_t)(now_ms - deadline_ms) >= 0`. -/
def ceTimeReached (nowMs deadlineMs : UInt64) : Bool :=
  0 < deadlineMs && (nowMs - deadlineMs).toNat < 2 ^ 63

/-- `now_ms + (timeout_ms ? timeout_ms : DEFAULT)`. -/
def deadlineMs (nowMs : UInt64) (timeoutMs : UInt32) : UInt64 :=
  nowMs + (if timeoutMs ≠ 0 then timeoutMs else timeoutDefaultMs).toUInt64

def trackPending (t : PendingTable) (nowMs : UInt64) (requestId sourceId : List Char)
    (timeoutMs : UInt32) : EspErr × PendingTable :=
  if requestId = [] ∨ sourceId = [] then (.invalidArg, t)
  else if (Lib.occupants t).any fun p => p.requestId = requestId then (.invalidState, t)
  else
    match Lib.occupy
      { deadlineMs := deadlineMs nowMs timeoutMs
        requestId := Ingest.strCopy requestIdMaxLen requestId
        sourceId := Ingest.strCopy sourceIdMaxLen sourceId } t with
    | none => (.noMem, t)
    | some t => (.ok, t)

/-- `command_executor_clear_pending`, which `command_executor_cancel_request` is
    another name for. The loop ends at the first slot it clears. -/
def clearPending (t : PendingTable) (requestId : List Char) : PendingTable :=
  if requestId = [] then t
  else (Lib.drain (fun p => p.requestId = requestId) 1 t).2

/-- `command_executor_on_event`. Messages that are no control events are `none`. -/
def onEvent (t : PendingTable) : Option ControlEvent → PendingTable
  | some message =>
    if message.source ≠ .result then t
    else if !commandResultIsTerminal (String.ofList message.payload) then t
    else clearPending t message.actionId
  | none => t

def makeDeviceControlResult (deviceId requestId resultPayload : List Char) (timestampMs : Nat) :
    Option ControlEvent :=
  if deviceId = [] ∨ requestId = [] then none
  else some
    { deviceId := Ingest.strCopy 64 deviceId
      actionId := Ingest.strCopy 96 requestId
      source := .result
      payload := Ingest.strCopy 256 resultPayload
      argsJson := []
      timestampMs }

/-- `command_executor_poll_timeouts`. An event that cannot be made is `none`, which
    stands for a message set to zero. -/
def pollTimeouts (t : PendingTable) (nowMs : UInt64) (maxEvents : Nat) :
    List (Option ControlEvent) × PendingTable :=
  let (expired, t) := Lib.drain (fun p => ceTimeReached nowMs p.deadlineMs) maxEvents t
  (expired.map fun p =>
    makeDeviceControlResult p.sourceId p.requestId "timeout".toList nowMs.toNat, t)

def resetPending (_ : PendingTable) : PendingTable := .empty

/-- The functions of the module, as operations. -/
inductive PendingOp where
  | track (timer : TimerUs) (requestId sourceId : List Char) (timeoutMs : UInt32)
  | event (message : Option ControlEvent)
  | cancel (requestId : List Char)
  | poll (timer : TimerUs) (maxEvents : Nat)
  | reset
  deriving DecidableEq, Repr

def stepPending (t : PendingTable) : PendingOp → PendingTable
  | .track timer requestId sourceId timeoutMs =>
    (trackPending t timer.nowMs requestId sourceId timeoutMs).2
  | .event message => onEvent t message
  | .cancel requestId => clearPending t requestId
  | .poll timer maxEvents => (pollTimeouts t timer.nowMs maxEvents).2
  | .reset => resetPending t

/-- The table a sequence of operations leads to. -/
def runPending (ops : List PendingOp) : PendingTable := ops.foldl stepPending .empty

end SceneHub.Executor
