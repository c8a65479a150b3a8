import SceneHub.EspErr
import SceneHub.Lib.Runs

/-!
# Requests with a Reply

How a task has the rule engine or the admin control handle a request and waits for
the reply: `submit_request`, `handle_request` and `engine_task` of
`node_rule_engine.c`, and `submit_request` and `node_admin_task` of
`node_admin_control.c`.

Both work the same way. A copy of the request goes through a queue, and with it a
handle of the submitting task and a pointer to memory of its call, where the result
is written before the task is notified. The task waits for the notification for a
while and then returns, whether the request is still in the queue or not. The
services differ in the length of the queue and in what the memory holds before.
Every caller of the admin control passes memory for the result.

A call is numbered, and the number stands for its memory. The notification count of
a task is shared by the services and with the other modules that notify a task,
above all with the control task. It is kept here as the list of those who gave the
notifications, and its length is the count. A task takes all of them at once. Every
point where another task can run lies between two steps. A task of a service may
submit requests to the other one as any other task; a request it submits to its own
service it handles itself.

## Main definitions

* `ServiceState`: The queues, the services, the tasks and their notifications.
* `ServiceState.proceed`, `ServiceState.serve`: A submitting task, and a service.
* `serviceStep`: A step of any of them.
-/

namespace SceneHub.Node

open Function (update)

/-- The modules that answer requests. -/
inductive Service where
  | engine
  | admin
  deriving DecidableEq, Repr

/-- `NODE_RULE_ENGINE_QUEUE_LEN`, and the length of the admin queue. -/
def Service.queueLen : Service → Nat
  | .engine => 16
  | .admin => 2

/-- What the memory for the result holds when a request is submitted. -/
def Service.unanswered : Service → EspErr
  | .engine => .ok
  | .admin => .invalidState

/-- `reply_task` and the pointer to the result. -/
@[ext] structure ReplyTo where
  task : Nat
  call : Nat
  deriving DecidableEq, Repr

/-- How far a service is with the request it has received. An event has no reply. -/
inductive Serving where
  | receiving
  | handling (request : Option ReplyTo)
  | handled (request : Option ReplyTo) (err : EspErr)
  | written (request : Option ReplyTo)
  deriving DecidableEq, Repr

/-- Who gave a notification: a service for a call, or another module. -/
inductive Giver where
  | service (call : Nat)
  | other
  deriving DecidableEq, Repr

/-- Where a task stands: in a call of a service, or in one of another module that waits
    for a notification. -/
inductive Client where
  | idle
  | sending (service : Service) (call : Nat)
  | waiting (service : Service) (call : Nat)
  | noticed (service : Service) (call : Nat)
  | elsewhere
  deriving DecidableEq, Repr

/-- What happens to calls. A call, or another module on a task, takes the notifications
    that were given. -/
inductive ServiceEvent where
  | handled (call : Nat) (err : EspErr)
  | wrote (call : Nat) (err : EspErr)
  | took (call : Nat) (givers : List Giver)
  | tookElsewhere (givers : List Giver)
  | returned (call : Nat) (err : EspErr)
  deriving DecidableEq, Repr

structure ServiceState where
  queue : Service → List (Option ReplyTo) := fun _ => []
  serving : Service → Serving := fun _ => .receiving
  clients : Nat → Client := fun _ => .idle
  notified : Nat → List Giver := fun _ => []
  replies : Nat → EspErr := fun _ => .ok
  nextCall : Nat := 0
  log : List ServiceEvent := []

namespace ServiceState

def setClient (s : ServiceState) (task : Nat) (client : Client) : ServiceState :=
  { s with clients := update s.clients task client }

def setServing (s : ServiceState) (service : Service) (serving : Serving) : ServiceState :=
  { s with serving := update s.serving service serving }

/-- `submit_request` up to the queue. -/
def submit (s : ServiceState) (task : Nat) (service : Service) : Option ServiceState :=
  match s.clients task with
  | .idle => some { s.setClient task (.sending service s.nextCall) with
      replies := update s.replies s.nextCall service.unanswered
      nextCall := s.nextCall + 1 }
  | _ => none

/-- The rest of `submit_request`, step by step. Without room in the queue, or without a
    notification, the time has run out. -/
def proceed (s : ServiceState) (task : Nat) : Option ServiceState :=
  match s.clients task with
  | .sending service call =>
    if (s.queue service).length < service.queueLen then
      some { s.setClient task (.waiting service call) with
        queue := update s.queue service (s.queue service ++ [some ⟨task, call⟩]) }
    else some { s.setClient task .idle with log := .returned call .timeout :: s.log }
  | .waiting service call =>
    if s.notified task = [] then
      some { s.setClient task .idle with log := .returned call .timeout :: s.log }
    else some { s.setClient task (.noticed service call) with
      notified := update s.notified task []
      log := .took call (s.notified task) :: s.log }
  | .noticed _ call =>
    some { s.setClient task .idle with log := .returned call (s.replies call) :: s.log }
  | .idle | .elsewhere => none

/-- The loop of a service, step by step, with the result of the request it handles. -/
def serve (s : ServiceState) (service : Service) (err : EspErr) : Option ServiceState :=
  match s.serving service with
  | .receiving => match s.queue service with
    | [] => none
    | request :: queue => some { s.setServing service (.handling request) with
        queue := update s.queue service queue }
  | .handling request =>
    some { s.setServing service (.handled request err) with
      log := (request.map fun reply => .handled reply.call err).toList ++ s.log }
  | .handled request err => match request with
    | none => some (s.setServing service (.written none))
    | some reply => some { s.setServing service (.written (some reply)) with
        replies := update s.replies reply.call err
        log := .wrote reply.call err :: s.log }
  | .written request => match request with
    | none => some (s.setServing service .receiving)
    | some reply => some { s.setServing service .receiving with
        notified := update s.notified reply.task
          (.service reply.call :: s.notified reply.task) }

/-- `submit_request` on the task of the service itself. The pointer to the result is not
    set there. -/
def handleInline (s : ServiceState) (err : EspErr) : ServiceState :=
  { s with
    nextCall := s.nextCall + 1
    log := .returned s.nextCall .ok :: .handled s.nextCall err :: s.log }

end ServiceState

/-- A step of a submitting task or of a service, an event for the engine, or what another
    module does with a task. -/
inductive ServiceStep where
  | submit (task : Nat) (service : Service)
  | proceed (task : Nat)
  | serve (service : Service) (err : EspErr)
  | handleInline (err : EspErr)
  | enqueueEvent
  | enter (task : Nat)
  | leave (task : Nat)
  | notifyGive (task : Nat)
  | notifyTake (task : Nat)
  deriving DecidableEq, Repr

def serviceStep (s : ServiceState) : ServiceStep → Option ServiceState
  | .submit task service => s.submit task service
  | .proceed task => s.proceed task
  | .serve service err => s.serve service err
  | .handleInline err => some (s.handleInline err)
  | .enqueueEvent =>
    if (s.queue .engine).length < Service.engine.queueLen then
      some { s with queue := update s.queue .engine (s.queue .engine ++ [none]) }
    else some s
  | .enter task => match s.clients task with
    | .idle => some (s.setClient task .elsewhere)
    | _ => none
  | .leave task => match s.clients task with
    | .elsewhere => some (s.setClient task .idle)
    | _ => none
  | .notifyGive task =>
    some { s with notified := update s.notified task (.other :: s.notified task) }
  | .notifyTake task => match s.clients task with
    | .elsewhere => some { s with
        notified := update s.notified task []
        log := .tookElsewhere (s.notified task) :: s.log }
    | _ => none

end SceneHub.Node
