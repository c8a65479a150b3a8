import SceneHub.Broker.Packet

/-!
# Sockets

How the broker writes to its sessions, and how it closes their sockets: the sending
functions of `mqtt_core_packet.c`, `request_session_prepare_close_locked` and
`request_session_close_if_current` of `mqtt_core.c`, and `free_session` of
`mqtt_core_session.c`.

The system gives out descriptors, and a descriptor that was closed may be given out
again. The code knows descriptors only; a socket here also has the connection that
the descriptor was given out for, which no step of the code looks at. A write to a
descriptor goes to the connection that the system has behind it at that time.

Every write is a step of its own, and so is every use of a lock. How much `send`
takes, and whether it fails, is not known in advance. Which pending packet is
written again is not known either, and a packet that waits for `tx_lock` may have
been acknowledged in the meantime.

## Main definitions

* `Sockets`: The descriptors, the sessions and the tasks of the broker.
* `sendStep`: A step of a task that writes a packet to a session.
* `freeStep`: A step of a task that frees a session.
-/

namespace SceneHub.Broker

/-! ### Sessions and tasks -/

/-- A descriptor, and the connection it was given out for. -/
structure Socket where
  fd : Nat
  conn : Nat
  deriving DecidableEq, Repr

/-- Who takes `tx_lock`: the task of a session, a task that publishes, or the task that
    accepts connections. -/
inductive TaskId where
  | client (slot : Nat)
  | call (n : Nat)
  | accept
  deriving DecidableEq, Repr

/-- The part of `mqtt_session_t` that sockets depend on. -/
structure MqttSession where
  sock : Option Socket := none
  txLock : Option TaskId := none
  active : Bool := false
  closing : Bool := false
  retiring : Bool := false
  clientId : List Char := []
  subs : List (List Char × Nat) := []
  deriving DecidableEq, Repr

/-- What is written to a session: a publish with QoS 0 or 1, a publish that is written
    again, an acknowledgement or a ping response, and the answer to CONNECT. -/
inductive SendKind where
  | publish
  | qos1
  | retry
  | ack
  | connack
  deriving DecidableEq, Repr

/-- A packet for a session, with the descriptor that the task has copied. A packet that
    is too long is not built. -/
structure Job where
  kind : SendKind
  slot : Nat
  sock : Option Socket := none
  pieces : Option (List (List UInt8))
  deriving DecidableEq, Repr

/-- What `send_all` returns: the last two are `MQTT_SEND_FAILED`, where nothing was
    written, and `MQTT_SEND_PARTIAL_FAIL`. -/
inductive SendResult where
  | ok
  | failed
  | partialFail
  deriving DecidableEq, Repr

/-- Where a task stands with a packet. -/
inductive SendState where
  | asked (job : Job)
  | waiting (job : Job)
  | locked (job : Job)
  | sending (job : Job) (rest : List (List UInt8)) (started : Bool)
  | sent (job : Job) (rc : SendResult)
  | closing (job : Job) (torn : Bool)
  | shutting (sock : Socket)
  | done (ok : Bool)
  deriving DecidableEq, Repr

/-- Where a task stands that frees a session. -/
inductive FreeState where
  | begun
  | locked
  | closing (sock : Option Socket)
  | closed
  | released
  deriving DecidableEq, Repr

/-- What the task of a session is still to do about a packet. -/
inductive Duty where
  | ack (packet : Option (List UInt8)) (needed : Bool)
  | subscribe (filter : List Char) (qos : Nat)
  | unsubscribe (filter : List Char)
  | deliver (messages : List Message)
  | publish (message : Message) (exclude : Option Nat)
  | send (job : Job) (stop : Bool)
  | retry
  | leave
  | free
  deriving DecidableEq, Repr

/-- The parts of a packet that is read. -/
inductive ReadStage where
  | header
  | length
  | body
  deriving DecidableEq, Repr

/-- What a task does when a packet of its own has failed. -/
inductive OnFail where
  | ignore
  | stop
  | leave
  deriving DecidableEq, Repr

/-- Where `handle_client` stands. Before it reads, it copies the descriptor. -/
inductive ClientState where
  | none
  | fetching (connected : Bool) (stage : ReadStage)
  | reading (connected : Bool) (stage : ReadStage) (sock : Option Socket)
  | connecting
  | evicting (old : Option Socket)
  | judging
  | greeting (send : SendState) (accepted : Bool)
  | dispatching
  | serving (duties : List Duty)
  | sending (send : SendState) (onFail : OnFail) (duties : List Duty)
  | cleanup
  | freeing (free : FreeState)
  deriving DecidableEq, Repr

/-- Where `accept_task` stands. A session that is refused may have the socket already. -/
inductive AcceptState where
  | waiting
  | accepted (sock : Socket)
  | full (sock : Socket)
  | evicting (sock : Socket) (old : Option Socket)
  | rejecting (sock : Socket)
  | allocated (slot : Nat) (sock : Socket)
  | stored (slot : Nat) (sock : Socket)
  | refused (slot : Nat) (sock : Socket) (stored : Bool)
  | freeing (slot : Nat) (free : FreeState)
  deriving DecidableEq, Repr

/-- Where another task stands that publishes, or has taken a socket to close it. -/
inductive CallState where
  | idle
  | publishing (jobs : List Job)
  | sending (send : SendState) (jobs : List Job)
  | closing (sock : Socket)
  deriving DecidableEq, Repr

/-- What happens to sockets: a write or a read has the connection it is meant for and
    the one it reaches. A packet is torn if a task gives it up after its first bytes. -/
inductive SocketEvent where
  | accepted (sock : Socket)
  | connected (conn : Nat)
  | wrote (target actual : Nat) (bytes : List UInt8)
  | torn (target : Nat)
  | read (target actual : Nat)
  | closed (sock : Socket) (actual : Option Nat)
  deriving DecidableEq, Repr

/-- The descriptors with the connections behind them, the sessions with their tasks, the
    other tasks, and what happened so far, the last first. -/
structure Sockets where
  fds : Nat → Option Nat := fun _ => none
  nextConn : Nat := 0
  packetId : UInt16 := 0
  sessions : List MqttSession := []
  clients : List ClientState := []
  accept : AcceptState := .waiting
  calls : List CallState := []
  log : List SocketEvent := []

namespace Sockets

def setSession (s : Sockets) (slot : Nat) (sess : MqttSession) : Sockets :=
  { s with sessions := s.sessions.set slot sess }

def note (s : Sockets) (event : SocketEvent) : Sockets := { s with log := event :: s.log }

def closeSocket (s : Sockets) : Option Socket → Sockets
  | none => s
  | some sock => { s with
      fds := Function.update s.fds sock.fd none
      log := .closed sock (s.fds sock.fd) :: s.log }

end Sockets

/-! ### Closing -/

/-- `request_session_prepare_close_locked`: the session without its socket. -/
def MqttSession.prepareClose (sess : MqttSession) : MqttSession :=
  { sess with closing := true, subs := [], sock := none }

/-- `free_session`, as its callers use it: the task is the session's own, or the session
    has no task. -/
def freeStep (s : Sockets) (slot : Nat) (who : TaskId) (free : FreeState) :
    Option (Sockets × Option FreeState) :=
  match s.sessions[slot]? with
  | none => none
  | some sess => match free with
    | .begun =>
      if sess.txLock = none then
        some (s.setSession slot { sess with txLock := some who }, some .locked)
      else none
    | .locked => some (s.setSession slot sess.prepareClose, some (.closing sess.sock))
    | .closing sock => some (s.closeSocket sock, some .closed)
    | .closed => some (s.setSession slot { sess with txLock := none }, some .released)
    | .released =>
      some (s.setSession slot { sess with active := false, closing := false, retiring := true },
        none)

/-! ### Sending -/

/-- The session is open, and its descriptor is the one that was copied. -/
def MqttSession.current (sess : MqttSession) (sock : Option Socket) : Bool :=
  sess.active && !sess.closing && sock.isSome && sess.sock.map Socket.fd = sock.map Socket.fd

/-- Whether the session is closed when a packet was sent with this result. -/
def SendKind.closesOn : SendKind → SendResult → Bool
  | .publish, rc => rc ≠ .ok
  | .qos1, rc => rc = .partialFail
  | .retry, rc => rc = .partialFail
  | .ack, _ => false
  | .connack, _ => false

/-- Whether the sender is told that its packet was sent. A first QoS 1 packet that is not
    written at all is left to be written again. -/
def SendKind.succeeds : SendKind → SendResult → Bool
  | .qos1, rc => rc ≠ .partialFail
  | _, rc => rc = .ok

/-- Where a task begins with a packet. It has looked at its own session before it writes a
    packet again, and it takes no lock for the answer to CONNECT. -/
def Job.start (job : Job) : SendState :=
  match job.kind with
  | .retry => .waiting job
  | .connack => .sending job (job.pieces.getD []) false
  | _ => .asked job

/-- What the code does next, what `send` does, or how a pending QoS 1 packet turns out. -/
inductive SendChoice where
  | go
  | refuse (again : Bool)
  | exhausted
  | write (n : Nat)
  | fail
  deriving DecidableEq, Repr

/-- A step of `send_publish_packet_to_session_slot`, `send_qos1_publish_to_session_slot`,
    `mqtt_qos1_retry_due`, `send_all_session_locked` or `send_connack`. -/
def sendStep (s : Sockets) (who : TaskId) : SendState → SendChoice → Option (Sockets × SendState)
  | .asked job, .go =>
    match s.sessions[job.slot]? with
    | none => none
    | some sess =>
      let admitted := match job.kind with
        | .ack => sess.sock.isSome
        | .qos1 => job.pieces.isSome && sess.current job.sock
        | _ => sess.current job.sock
      some (s, if admitted then .waiting job else .done false)
  | .asked job, .refuse again =>
    -- There is no memory for a pending packet, or no room for another one.
    if job.kind = .qos1 then some (s, .done again) else none
  | .waiting job, .go =>
    match s.sessions[job.slot]? with
    | none => none
    | some sess =>
      if sess.txLock = none then
        some (s.setSession job.slot { sess with txLock := some who }, .locked job)
      else none
  | .locked job, .go =>
    match s.sessions[job.slot]? with
    | none => none
    | some sess =>
      if job.kind = .ack then
        let job := { job with sock := sess.sock }
        some (s, .sending job (job.pieces.getD []) false)
      else if sess.current job.sock then
        match job.pieces with
        | none => some (s, .sent job .failed)
        | some pieces => some (s, .sending job pieces false)
      else if job.kind = .retry then none
      else some (s.setSession job.slot { sess with txLock := none }, .done false)
  | .locked job, .refuse again =>
    match s.sessions[job.slot]? with
    | none => none
    | some sess =>
      -- The pending packet is gone, or it is the turn of the next one.
      let s := s.setSession job.slot { sess with txLock := none }
      match job.kind with
      | .qos1 => some (s, .done false)
      | .retry => some (s, if again then .waiting job else .done true)
      | _ => none
  | .locked job, .exhausted =>
    match s.sessions[job.slot]? with
    | none => none
    | some sess =>
      if job.kind = .retry ∧ sess.current job.sock then
        some (s.setSession job.slot { sess with txLock := none }, .closing job false)
      else none
  | .sending job rest _, .write n =>
    match job.sock, rest with
    | some sock, piece :: pieces =>
      match s.fds sock.fd with
      | none => none
      | some actual =>
        if 0 < n ∧ n ≤ piece.length then
          let pieces := if n = piece.length then pieces else piece.drop n :: pieces
          some (s.note (.wrote sock.conn actual (piece.take n)),
            if pieces = [] then .sent job .ok else .sending job pieces true)
        else none
    | _, _ => none
  | .sending job _ started, .fail =>
    match started, job.sock with
    | true, some sock => some (s.note (.torn sock.conn), .sent job .partialFail)
    | _, _ => some (s, .sent job .failed)
  | .sent job rc, .go =>
    if job.kind = .connack then some (s, .done (job.kind.succeeds rc))
    else match s.sessions[job.slot]? with
      | none => none
      | some sess =>
        some (s.setSession job.slot { sess with txLock := none },
          if job.kind.closesOn rc then .closing job (rc = .partialFail)
          else .done (job.kind.succeeds rc))
  | .closing job _, .go =>
    -- `request_session_close_if_current`
    match s.sessions[job.slot]?, job.sock with
    | some sess, some sock =>
      match sess.sock with
      | some own =>
        if sess.active ∧ own.fd = sock.fd then
          some (s.setSession job.slot { sess with closing := true, sock := none }, .shutting own)
        else some (s, .done false)
      | none => some (s, .done false)
    | _, _ => none
  | .shutting sock, .go => some (s.closeSocket (some sock), .done false)
  | _, _ => none

end SceneHub.Broker
