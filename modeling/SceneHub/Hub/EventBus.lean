import Mathlib.Data.Fin.Basic
import SceneHub.Ingest.Control
import SceneHub.Lib.Runs

/-!
# The Event Bus

How events reach the handlers: `event_bus_post_priority` and `event_bus_task` of
`event_bus.c` with the pool of their messages, and how `device_control_ingest` posts what
devices report.

An event is copied into a slot of the pool, and a pointer to the slot goes through the
queue, in front of it or behind it. A device's message is read under a lock, and what is
posted about it is posted when the lock is free again. Each use of a lock or of the queue
is a step of its own, and so are the writing of a slot and the run of the handlers. A task
that handles a message posts the control event of it, and tasks post other events. Those of
other reports of a device are among them.

Posts and messages are numbered, and a post knows the numbers of those that had succeeded
when it began. No step of the code looks at them.

## Main definitions

* `Post`, `Poster`, `Dispatcher`: An event on the bus, and where the tasks stand.
* `Bus.go`: The next step of a task that posts.
* `Bus.work`: The next step of the task of the bus.
* `busStep`: A step of any of them.
-/

namespace SceneHub.Hub

/-- `EVENT_BUS_QUEUE_LEN`: the length of the queue, and the number of slots. -/
def eventBusQueueLen : Nat := 128

abbrev PoolSlot := Fin eventBusQueueLen

/-- `event_bus_priority_t`. -/
inductive Priority where
  | normal
  | high
  deriving DecidableEq, Repr

/-- A control event, with the number of the message it is from. -/
structure Control where
  event : Ingest.ControlEvent
  message : Nat
  deriving DecidableEq, Repr

/-- An event that is posted, with the posts that had succeeded before. -/
structure Post where
  number : Nat
  priority : Priority
  control : Option Control := none
  before : List Nat
  deriving DecidableEq, Repr

/-- Where a task stands that posts: with a control event that it is about to post, or in
    `event_bus_post_priority`. -/
inductive Poster where
  | idle
  | ingested (control : Control)
  | calling (post : Post)
  | filling (slot : PoolSlot) (post : Post)
  | sending (slot : PoolSlot) (post : Post)
  | refused (slot : PoolSlot) (post : Post)
  | leaving (post : Post)
  deriving DecidableEq, Repr

/-- Where the task of the bus stands. -/
inductive Dispatcher where
  | receiving
  | dispatching (slot : PoolSlot)
  | freeing (slot : PoolSlot)
  deriving DecidableEq, Repr

/-- What happens on the bus: a slot is given to a post, a post returns, and the handlers have
    run. -/
inductive BusEntry where
  | given (slot : PoolSlot) (post : Post)
  | returned (post : Post) (err : EspErr)
  | dispatched (post : Post)
  deriving DecidableEq, Repr

/-- The slots of the devices, the pool and the queue of the bus, the tasks, and what has
    happened, newest first. -/
structure Bus (n : Nat) where
  devices : Ingest.Slots := []
  messages : Nat := 0
  posts : Nat := 0
  inUse : PoolSlot → Bool := fun _ => false
  pool : PoolSlot → Option Post := fun _ => none
  queue : List PoolSlot := []
  worker : Dispatcher := .receiving
  tasks : Fin n → Poster := fun _ => .idle
  log : List BusEntry := []

namespace Bus

variable {n : Nat}

def setTask (s : Bus n) (t : Fin n) (poster : Poster) : Bus n :=
  { s with tasks := Function.update s.tasks t poster }

def succeeded : BusEntry → Option Nat
  | .returned post .ok => some post.number
  | _ => none

/-- The posts that have succeeded. -/
def returned (s : Bus n) : List Nat := s.log.filterMap succeeded

/-- A task begins to post. -/
def call (s : Bus n) (t : Fin n) (priority : Priority) (control : Option Control) : Bus n :=
  { s.setTask t (.calling { number := s.posts, priority, control, before := s.returned }) with
    posts := s.posts + 1 }

/-- A post returns. -/
def ret (s : Bus n) (t : Fin n) (post : Post) (err : EspErr) : Bus n :=
  { s.setTask t .idle with log := .returned post err :: s.log }

/-- `message_pool_alloc`: the first slot that is free. -/
def alloc (s : Bus n) : Option PoolSlot :=
  (List.finRange eventBusQueueLen).find? fun i => !s.inUse i

/-- `message_pool_free`. -/
def free (s : Bus n) (i : PoolSlot) : Bus n :=
  { s with inUse := Function.update s.inUse i false }

/-- `xQueueSendToFront` or `xQueueSend`, when there is room. -/
def enqueue (s : Bus n) (i : PoolSlot) : Priority → Bus n
  | .high => { s with queue := i :: s.queue }
  | .normal => { s with queue := s.queue ++ [i] }

/-- The next step of a task that posts. Whether the event is valid is known before a slot is
    asked for. A task that finds the queue full has waited for as long as it does. -/
def go (s : Bus n) (t : Fin n) (valid : Bool) : Option (Bus n) :=
  match s.tasks t with
  | .idle => none
  | .ingested control => some (s.call t .high (some control))
  | .calling post =>
    if !valid then some (s.ret t post .invalidArg)
    else match s.alloc with
      | none => some (s.ret t post .noMem)
      | some i => some
        { s.setTask t (.filling i post) with
          inUse := Function.update s.inUse i true
          pool := Function.update s.pool i none
          log := .given i post :: s.log }
  | .filling i post => some
    { s.setTask t (.sending i post) with pool := Function.update s.pool i (some post) }
  | .sending i post =>
    if s.queue.length < eventBusQueueLen then
      some ((s.enqueue i post.priority).setTask t (.leaving post))
    else some (s.setTask t (.refused i post))
  | .refused i post => some ((s.free i).ret t post .timeout)
  | .leaving post => some (s.ret t post .ok)

/-- The loop of `event_bus_task`, step by step. -/
def work (s : Bus n) : Option (Bus n) :=
  match s.worker with
  | .receiving => match s.queue with
    | [] => none
    | i :: queue => some { s with queue, worker := .dispatching i }
  | .dispatching i => some
    { s with
      log := ((s.pool i).map .dispatched).toList ++ s.log
      worker := .freeing i }
  | .freeing i => some { s.free i with worker := .receiving }

/-- `device_control_ingest_handle_mqtt`, as long as it holds the lock. -/
def ingest (s : Bus n) (t : Fin n) (msg : Ingest.Message) : Option (Bus n) :=
  match s.tasks t with
  | .idle =>
    let r := Ingest.handleMqtt s.devices msg
    some
      { s.setTask t (match r.2 with
          | none => .idle
          | some event => .ingested { event, message := s.messages }) with
        devices := r.1
        messages := s.messages + 1 }
  | _ => none

/-- A task posts an event of its own. -/
def post (s : Bus n) (t : Fin n) (priority : Priority) : Option (Bus n) :=
  match s.tasks t with
  | .idle => some (s.call t priority none)
  | _ => none

end Bus

/-- A step of a task that posts or of the task of the bus. -/
inductive BusStep (n : Nat) where
  | ingest (t : Fin n) (msg : Ingest.Message)
  | post (t : Fin n) (priority : Priority)
  | go (t : Fin n) (valid : Bool)
  | work
  deriving DecidableEq, Repr

def busStep {n : Nat} (s : Bus n) : BusStep n → Option (Bus n)
  | .ingest t msg => s.ingest t msg
  | .post t priority => s.post t priority
  | .go t valid => s.go t valid
  | .work => s.work

end SceneHub.Hub
