import SceneHub.Hub.StateNotify

/-!
# The Web Socket

How messages reach the clients: `ws_runtime.c`, below the calls of
`scenehub_state_notify_invalidation`.

A broadcast takes the next sequence number and the clients that are subscribed under the state
lock of the web socket, and then sends to one client after the other without it. An answer to a
client takes its number in the same way. The requests are handled one after the other by the
task of the HTTP server; its own calls of `scenehub_state_notify_invalidation` are counted
among the tasks. A message can fail on the way, and then the client is removed.

The server is registered, and the locks are there. The texts of the envelopes are left out. Beside
the state it is kept how many numbers were taken, what each socket has received, and which
versions were read and broadcast. No step of the code looks at that.

## Main definitions

* `WsClient`, `WsClients`: The clients and the operations on them.
* `Envelope`: A message with its number.
* `Delivery`, `Request`: Where a broadcast and a request stand.
* `WsHub.go`, `WsHub.request`: A step of a call, and of the task of the server.
* `wsStep`: A step of any task.
-/

namespace SceneHub.Hub

/-- `ws_runtime_client_t` in a slot that is active. -/
structure WsClient where
  fd : Nat
  subscribed : Bool := false
  deriving DecidableEq, Repr

/-- `WS_RUNTIME_MAX_CLIENTS`. -/
def wsMaxClients : Nat := 2

/-- `s_clients`. -/
abbrev WsClients := Fin wsMaxClients → Option WsClient

namespace WsClients

def find (clients : WsClients) (fd : Nat) : Option (Fin wsMaxClients) :=
  (List.finRange wsMaxClients).find? fun slot => (clients slot).any fun client => client.fd = fd

/-- `alloc_client_slot`. -/
def alloc (clients : WsClients) (fd : Nat) : Option WsClients :=
  match clients.find fd with
  | some _ => some clients
  | none =>
    ((List.finRange wsMaxClients).find? fun slot => (clients slot).isNone).map fun slot =>
      Function.update clients slot (some { fd })

def remove (clients : WsClients) (fd : Nat) : WsClients :=
  match clients.find fd with
  | some slot => Function.update clients slot none
  | none => clients

/-- The client of a socket is subscribed, or is not any more. -/
def subscribe (clients : WsClients) (slot : Fin wsMaxClients) (subscribed : Bool) : WsClients :=
  Function.update clients slot ((clients slot).map fun client => { client with subscribed })

/-- The sockets of the clients that are subscribed, in the order of their slots. -/
def subscribers (clients : WsClients) : List Nat :=
  (List.finRange wsMaxClients).filterMap fun slot =>
    ((clients slot).filter fun client => client.subscribed).map WsClient.fd

end WsClients

/-- What a client is answered. -/
inductive WsReply where
  | error (message : String)
  | connectionReady
  | subscriptionReady
  | subscriptionClosed
  | pong
  deriving DecidableEq, Repr

inductive WsMessage where
  | broadcast (message : Broadcast)
  | reply (reply : WsReply)

/-- A message with what goes along with it. The number that does not come round is kept beside
    the sequence number. -/
structure Envelope where
  message : WsMessage
  seq : UInt32
  snapshotGeneration : UInt32
  number : Nat

/-- The versions that a message carries. -/
def Envelope.versions (envelope : Envelope) : Option (Source → UInt32) :=
  match envelope.message with
  | .broadcast (.versions _ versions) => some versions
  | _ => none

/-- Where a task stands in `broadcast_envelope`. -/
inductive Delivery where
  | idle
  | sending (envelope : Envelope) (left : List Nat)
  | removing (fd : Nat) (envelope : Envelope) (left : List Nat)

/-- What comes from a client, as far as `ws_runtime_handler` tells it apart. -/
inductive WsFrame where
  | failed
  | ignored
  | invalidJson
  | missingType
  | subscribe
  | unsubscribe
  | ping
  | unknown
  deriving DecidableEq, Repr

/-- Where the task of the server stands with the request of a client. -/
inductive Request where
  | idle
  | receiving (fd : Nat)
  | replying (fd : Nat) (left : List WsReply)
  | sending (fd : Nat) (envelope : Envelope) (left : List WsReply)

/-- The calls and sources, the variables of `ws_runtime.c`, the tasks, and what is kept beside
    them: the last versions that were broadcast, all of them with their numbers, what the calls
    have read, newest first, and what each socket has received, newest first. -/
structure WsHub where
  notifier : Notifier
  clients : WsClients := fun _ => none
  seq : UInt32 := 0
  snapshotGeneration : UInt32 := 1
  out : Nat → Delivery := fun _ => .idle
  server : Request := .idle
  taken : Nat := 0
  shown : Source → UInt32
  told : List (Nat × (Source → UInt32)) := []
  committed : List Reading := []
  received : Nat → List Envelope := fun _ => []

namespace WsHub

def setOut (s : WsHub) (task : Nat) (delivery : Delivery) : WsHub :=
  { s with out := Function.update s.out task delivery }

/-- A socket receives a message. -/
def deliver (s : WsHub) (fd : Nat) (envelope : Envelope) : WsHub :=
  { s with received := Function.update s.received fd (envelope :: s.received fd) }

/-- The envelope that `ws_runtime_next_envelope_meta` makes for a message. -/
def envelope (s : WsHub) (message : WsMessage) (snapshotGeneration : UInt32) : Envelope :=
  { message, seq := s.seq + 1, snapshotGeneration, number := s.taken + 1 }

/-- A number is taken. -/
def take (s : WsHub) : WsHub := { s with seq := s.seq + 1, taken := s.taken + 1 }

/-- What `broadcast_envelope` sets the snapshot generation to. -/
def nextSnapshot (s : WsHub) : Broadcast → UInt32
  | .versions generation _ => if generation = 0 then s.snapshotGeneration else generation
  | _ => s.snapshotGeneration

/-- The versions of a broadcast are told to the clients. -/
def tell (s : WsHub) : Broadcast → WsHub
  | .versions _ versions => { s with told := (s.taken + 1, versions) :: s.told }
  | _ => s

/-- The lock section of `broadcast_envelope`, in `snapshot_subscribed_clients`. -/
def broadcast (s : WsHub) (task : Nat) (message : Broadcast) : WsHub :=
  { (s.tell message).take with snapshotGeneration := s.nextSnapshot message }.setOut task
    (.sending (s.envelope (.broadcast message) (s.nextSnapshot message)) s.clients.subscribers)

/-- A payload that does not fit is not broadcast. The versions always fit. -/
def payloadFits (message : Broadcast) (ok : Bool) : Bool :=
  match message with
  | .versions _ _ => true
  | _ => ok

/-- The first message of a call has versions: a broadcast has been decided on. -/
def decided (notifier : Notifier) (task : Nat) : Option (Source → UInt32) :=
  match notifier.calls task with
  | .sending (.versions _ versions :: _) => some versions
  | _ => none

/-- A call has read some generations, and has done its work with them. -/
def commit (s : WsHub) (task : Nat) (got : Reading) (notifier : Notifier) : WsHub :=
  { s with
    notifier
    committed := got :: s.committed
    shown := (decided notifier task).getD s.shown }

/-- A step of a call. What comes from outside is whether a payload fits, and whether a message
    is sent. -/
def go (s : WsHub) (task : Nat) (ok : Bool) : Option WsHub :=
  match s.out task with
  | .sending envelope (fd :: left) =>
    some (if ok then (s.deliver fd envelope).setOut task (.sending envelope left)
      else s.setOut task (.removing fd envelope left))
  | .sending _ [] => some (s.setOut task .idle)
  | .removing fd envelope left =>
    some ({ s with clients := s.clients.remove fd }.setOut task (.sending envelope left))
  | .idle => (s.notifier.go task).map fun notifier => match s.notifier.calls task with
    | .holding _ _ got => s.commit task got notifier
    | .sending (message :: _) =>
      if payloadFits message ok then { s with notifier := notifier }.broadcast task message
      else { s with notifier := notifier }
    | _ => { s with notifier := notifier }

/-- What is answered to a text, if the client is still there. -/
def handleText (s : WsHub) (fd : Nat) (frame : WsFrame) (slot : Fin wsMaxClients) : WsHub :=
  match frame with
  | .subscribe => { s with
      clients := s.clients.subscribe slot true
      server := .replying fd [.connectionReady, .subscriptionReady] }
  | .unsubscribe => { s with
      clients := s.clients.subscribe slot false
      server := .replying fd [.subscriptionClosed] }
  | .ping => { s with server := .replying fd [.pong] }
  | _ => { s with server := .replying fd [.error "unknown message type"] }

/-- A step of the task of the server: of `ws_runtime_handler`, or of an answer. -/
def request (s : WsHub) (frame : WsFrame) (ok : Bool) : Option WsHub :=
  match s.server with
  | .idle => none
  | .receiving fd => some (match frame with
    | .failed => { s with clients := s.clients.remove fd, server := .idle }
    | .ignored => { s with server := .idle }
    | .invalidJson => { s with server := .replying fd [.error "invalid json"] }
    | .missingType => { s with server := .replying fd [.error "missing type"] }
    | frame => match s.clients.find fd with
      | some slot => s.handleText fd frame slot
      | none => { s with server := .idle })
  | .replying _ [] => some { s with server := .idle }
  | .replying fd (reply :: left) =>
    some { s.take with
      server := .sending fd (s.envelope (.reply reply) s.snapshotGeneration) left }
  -- An answer that is not sent is the last one of its request.
  | .sending fd envelope left =>
    some (if ok then { s.deliver fd envelope with server := .replying fd left }
      else { s with server := .idle })

/-- A client connects. -/
def connect (s : WsHub) (fd : Nat) : Option WsHub :=
  match s.server with
  | .idle => some { s with clients := (s.clients.alloc fd).getD s.clients }
  | _ => none

/-- A frame of a client is there. -/
def receive (s : WsHub) (fd : Nat) : Option WsHub :=
  match s.server with
  | .idle => match s.clients.alloc fd with
    | some clients => some { s with clients, server := .receiving fd }
    | none => some s
  | _ => none

/-- The state behind `scenehub_state_init`, with any values of the generations. -/
def atStart (generation : Source → UInt32) : WsHub :=
  { notifier := Notifier.atStart generation, shown := generation }

end WsHub

/-- A step of a source, of the start of a call or of the watcher, of a call, or of the task of
    the server. -/
inductive WsStep where
  | notifier (act : NotifyStep)
  | go (task : Nat) (ok : Bool)
  | connect (fd : Nat)
  | receive (fd : Nat)
  | request (frame : WsFrame) (ok : Bool)
  deriving DecidableEq, Repr

def wsStep (s : WsHub) : WsStep → Option WsHub
  | .notifier (.go _) => none
  | .notifier act => (notifyStep s.notifier act).map fun notifier => { s with notifier }
  | .go task ok => s.go task ok
  | .connect fd => s.connect fd
  | .receive fd => s.receive fd
  | .request frame ok => s.request frame ok

end SceneHub.Hub
