import Mathlib.Data.Fin.Basic
import SceneHub.EspErr
import SceneHub.Lib.Runs

/-!
# The Requests of the Control Task

How a task has the control task execute a request and waits for it:
`acquire_request_slot`, `release_request_slot`, `submit_request_and_wait` and
`control_task` of `node_control.c`.

A request lives in one of eight slots, and a pointer to the slot goes through a
queue. The submitting task waits for a task notification. If none comes in time,
it looks at the slot under the lock: a request that is still queued is cancelled,
one in work is abandoned, and one that is complete is taken although late. Each
part between two points where another task can run is a step: what is done under
the lock, a call into the queue, a wait, and an access to a slot without the lock.
Filling a slot belongs to taking it, as the slot is in no queue yet.

The payload of a request points into the memory of the call that submitted it. A
call is numbered, and its number stands for that memory. The notification count
of a task is shared with the other modules, which can give a notification at any
time and take one when the task is theirs. What the control task finds when it
copies the texts of a command, and how the execution ends, are inputs. The control
task itself executes a command directly and submits nothing.

## Main definitions

* `Request`, `Caller`, `Worker`: A slot, and where the tasks stand.
* `ControlState.submit`, `ControlState.proceed`: A submitting task.
* `ControlState.work`: The control task.
* `controlStep`: A step of any of them.
-/

namespace SceneHub.Node

open Function (update update_self)

/-- `NODE_CONTROL_QUEUE_LEN`: the length of the queue, and the number of slots. -/
def nodeControlQueueLen : Nat := 8

abbrev SlotId := Fin nodeControlQueueLen

inductive SlotState where
  | free
  | queued
  | copying
  | processing
  | completed
  | cancelled
  | abandoned
  deriving DecidableEq, Repr

inductive RequestKind where
  | command
  | updateLedConfig
  deriving DecidableEq, Repr

/-- `node_control_request_t`, as `memset` leaves it if nothing is given. The payload is
    the call it came from. -/
structure Request where
  kind : RequestKind := .command
  state : SlotState := .free
  replyTask : Option Nat := none
  err : EspErr := .ok
  payload : Option Nat := none
  deriving DecidableEq, Repr

/-- Where a task stands in a call of `node_control_submit`. -/
inductive Caller where
  | idle
  | sending (slot : SlotId) (call : Nat)
  | waiting (slot : SlotId) (call : Nat)
  | expired (slot : SlotId) (call : Nat)
  | noticed (slot : SlotId) (call : Nat)
  | leaving (slot : SlotId) (call : Nat) (err : EspErr)
  | draining (call : Nat) (err : EspErr)
  deriving DecidableEq, Repr

/-- How far the control task is with the request it has received. -/
inductive Stage where
  | received
  | copying
  | copied
  | tooLarge
  | refused
  | processing
  | executed (err : EspErr)
  | stored
  deriving DecidableEq, Repr

/-- Where the control task stands. -/
inductive Worker where
  | receiving
  | working (stage : Stage) (slot : SlotId)
  | replying (task : Nat)
  deriving DecidableEq, Repr

/-- What happens to calls: a request is executed, a result is written into the memory
    of a call, and a call returns. -/
inductive ControlEvent where
  | executed (call : Nat)
  | wrote (target : Nat) (source : Option Nat)
  | returned (call : Nat) (err : EspErr)
  deriving DecidableEq, Repr

/-- The slots, the queue, the command scratch, the notification count of each task, and
    what has happened, newest first. -/
structure ControlState where
  slots : SlotId → Request := fun _ => {}
  queue : List SlotId := []
  scratch : Option Nat := none
  worker : Worker := .receiving
  callers : Nat → Caller := fun _ => .idle
  notified : Nat → Nat := fun _ => 0
  nextCall : Nat := 0
  log : List ControlEvent := []

namespace ControlState

/-- `acquire_request_slot`: the first slot that is free. -/
def acquire (s : ControlState) : Option SlotId :=
  (List.finRange nodeControlQueueLen).find? fun slot => (s.slots slot).state = .free

def setSlot (s : ControlState) (slot : SlotId) (request : Request) : ControlState :=
  { s with slots := update s.slots slot request }

def setCaller (s : ControlState) (task : Nat) (caller : Caller) : ControlState :=
  { s with callers := update s.callers task caller }

@[simp] theorem setSlot_self (s : ControlState) (slot : SlotId) (request : Request) :
    (s.setSlot slot request).slots slot = request :=
  update_self _ _ _

@[simp] theorem setCaller_slots (s : ControlState) (task : Nat) (caller : Caller) :
    (s.setCaller task caller).slots = s.slots :=
  rfl

/-- A call returns. -/
def ret (s : ControlState) (task call : Nat) (err : EspErr) : ControlState :=
  { s.setCaller task .idle with log := .returned call err :: s.log }

@[simp] theorem ret_slots (s : ControlState) (task call : Nat) (err : EspErr) :
    (s.ret task call err).slots = s.slots :=
  rfl

/-- A task begins to submit a request and fills its slot. -/
def submit (s : ControlState) (task : Nat) (kind : RequestKind) : Option ControlState :=
  match s.callers task with
  | .idle =>
    let call := s.nextCall
    let s := { s with nextCall := call + 1 }
    match s.acquire with
    | none => some (s.ret task call .noMem)
    | some slot =>
      let request : Request :=
        { kind, state := .queued, replyTask := some task, err := .invalidState
          payload := some call }
      some ((s.setSlot slot request).setCaller task (.sending slot call))
  | _ => none

/-- A task looks at its slot, as no notification came in time. -/
def look (s : ControlState) (task : Nat) (slot : SlotId) (call : Nat) : ControlState :=
  let request := s.slots slot
  match request.state with
  | .completed => (s.setSlot slot {}).setCaller task (.draining call request.err)
  | .queued => (s.setSlot slot { request with state := .cancelled }).ret task call .timeout
  | .processing => (s.setSlot slot { request with state := .abandoned }).ret task call .timeout
  | .copying => s
  | .free | .cancelled | .abandoned => s.ret task call .timeout

/-- The rest of `submit_request_and_wait`, step by step. A wait that finds nothing has
    timed out. -/
def proceed (s : ControlState) (task : Nat) : Option ControlState :=
  match s.callers task with
  | .idle => none
  | .sending slot call =>
    if s.queue.length < nodeControlQueueLen then
      some { s.setCaller task (.waiting slot call) with queue := s.queue ++ [slot] }
    else some (s.setCaller task (.leaving slot call .timeout))
  | .waiting slot call =>
    if s.notified task = 0 then some (s.setCaller task (.expired slot call))
    else some { s.setCaller task (.noticed slot call) with
      notified := update s.notified task 0 }
  | .expired slot call => some (s.look task slot call)
  | .noticed slot call => some (s.setCaller task (.leaving slot call (s.slots slot).err))
  | .leaving slot call err => some ((s.setSlot slot {}).ret task call err)
  | .draining call err =>
    some { s.ret task call err with notified := update s.notified task 0 }

/-- The call whose request is executed: the one whose texts were copied, or the one in
    the slot. -/
def executing (s : ControlState) (slot : SlotId) : Option Nat :=
  match (s.slots slot).kind with
  | .command => s.scratch
  | .updateLedConfig => (s.slots slot).payload

/-- The call whose memory the result is for. -/
def resultOut (s : ControlState) (slot : SlotId) : Option Nat :=
  match (s.slots slot).kind with
  | .command => (s.slots slot).payload
  | .updateLedConfig => none

/-- The control task is done with a request, and has a result for the call in the
    payload or not. -/
def finish (s : ControlState) (slot : SlotId) (target : Option Nat) : ControlState :=
  let request := s.slots slot
  match request.state with
  | .abandoned => { s.setSlot slot {} with worker := .receiving }
  | _ =>
    { s.setSlot slot { request with state := .completed } with
      log := (target.map fun call => .wrote call s.scratch).toList ++ s.log
      worker := match request.replyTask with
        | some task => .replying task
        | none => .receiving }

/-- The loop of `control_task`, step by step: whether the texts of a command fit, and
    how the execution ends. -/
def work (s : ControlState) (fits : Bool) (err : EspErr) : Option ControlState :=
  match s.worker with
  | .receiving => match s.queue with
    | [] => none
    | slot :: queue => some { s with queue, worker := .working .received slot }
  | .working .received slot =>
    let request := s.slots slot
    match request.state, request.kind with
    | .cancelled, _ => some { s.setSlot slot {} with worker := .receiving }
    | _, .command =>
      some { s.setSlot slot { request with state := .copying } with
        worker := .working .copying slot }
    | _, .updateLedConfig =>
      some { s.setSlot slot { request with state := .processing } with
        worker := .working .processing slot }
  | .working .copying slot =>
    some { s with
      scratch := (s.slots slot).payload
      worker := .working (if fits then .copied else .tooLarge) slot }
  | .working .copied slot =>
    some { s.setSlot slot { s.slots slot with state := .processing } with
      worker := .working .processing slot }
  | .working .tooLarge slot =>
    some { s.setSlot slot { s.slots slot with err := .invalidSize } with
      worker := .working .refused slot }
  | .working .refused slot => some (s.finish slot (s.slots slot).payload)
  | .working .processing slot =>
    some { s with
      log := ((s.executing slot).map .executed).toList ++ s.log
      worker := .working (.executed err) slot }
  | .working (.executed err) slot =>
    some { s.setSlot slot { s.slots slot with err } with worker := .working .stored slot }
  | .working .stored slot => some (s.finish slot (s.resultOut slot))
  | .replying task =>
    some { s with
      notified := update s.notified task (s.notified task + 1)
      worker := .receiving }

end ControlState

/-- A step of a submitting task, of the control task, or of another module that gives
    or takes a notification. -/
inductive ControlStep where
  | submit (task : Nat) (kind : RequestKind)
  | proceed (task : Nat)
  | work (fits : Bool) (err : EspErr)
  | notifyGive (task : Nat)
  | notifyTake (task : Nat)
  deriving DecidableEq, Repr

def controlStep (s : ControlState) : ControlStep → Option ControlState
  | .submit task kind => s.submit task kind
  | .proceed task => s.proceed task
  | .work fits err => s.work fits err
  | .notifyGive task =>
    some { s with notified := update s.notified task (s.notified task + 1) }
  | .notifyTake task => match s.callers task with
    | .idle => some { s with notified := update s.notified task 0 }
    | _ => none

end SceneHub.Node
