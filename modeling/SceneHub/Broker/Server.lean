import SceneHub.Broker.Sockets

/-!
# The Server

The tasks of the broker around its sockets: `accept_task` and `handle_client` of
`mqtt_core_server.c`, `alloc_session`, `find_session_by_client_id` and
`sweep_idle_sessions` of `mqtt_core_session.c`, `publish_to_subscribers` and
`handle_connect` of `mqtt_core_protocol.c`, and `deliver_retain` of
`mqtt_core_retain.c`.

What a packet says, what is retained for a filter, whether a client is let in and
when a session has been idle for too long are inputs of the steps here.

## Main definitions

* `targets`: The sessions that a message is for.
* `clientStep`, `acceptStep`, `callStep`: The steps of the tasks.
* `socketStep`: A step of the broker.
-/

namespace SceneHub.Broker

/-! ### Publishing -/

def nextPacketId (id : UInt16) : UInt16 := if id + 1 = 0 then 1 else id + 1

def effectiveDeliveryQos (publishQos subscriptionQos : Nat) : Nat :=
  min (min publishQos 1) (min subscriptionQos 1)

/-- The packet of `send_publish_packet_to_session_slot` for a session. -/
def publishJob (slot : Nat) (sock : Option Socket) (message : Message) (qos : Nat) (pid : UInt16) :
    Job :=
  let topic := bytesOf message.topic
  let payload := bytesOf message.payload
  if qos = 1 then
    { kind := .qos1, slot, sock
      pieces := (buildQos1PublishPacket topic payload message.retain pid).map fun packet =>
        [packet] }
  else { kind := .publish, slot, sock, pieces := publishPieces topic payload qos message.retain pid }

/-- The first subscription of an open session that a message is for. -/
def MqttSession.subscription (sess : MqttSession) (topic : List Char) : Option (List Char × Nat) :=
  if sess.active && !sess.closing && sess.sock.isSome then
    sess.subs.find? fun sub => topicMatchesFilter sub.1 topic
  else none

/-- The loop of `publish_to_subscribers` over the sessions from a slot on: the targets, and
    the last packet id. -/
def targetsFrom (message : Message) (exclude : Option Nat) :
    (slot : Nat) → UInt16 → List MqttSession → List Job × UInt16
  | _, pid, [] => ([], pid)
  | slot, pid, sess :: rest =>
    match sess.subscription message.topic with
    | none => targetsFrom message exclude (slot + 1) pid rest
    | some sub =>
      if exclude = some slot then targetsFrom message exclude (slot + 1) pid rest
      else
        let qos := effectiveDeliveryQos message.qos sub.2
        let next := if qos = 0 then pid else nextPacketId pid
        let others := targetsFrom message exclude (slot + 1) next rest
        (publishJob slot sess.sock message qos (if qos = 0 then 0 else next) :: others.1, others.2)

/-- The targets of `publish_to_subscribers`. -/
def Sockets.targets (s : Sockets) (message : Message) (exclude : Option Nat) : List Job × UInt16 :=
  targetsFrom message exclude 0 s.packetId s.sessions

/-- The packets of `deliver_retain`, with packet ids behind the last one. -/
def retainedJobs (slot : Nat) (sock : Option Socket) : UInt16 → List Message → List Job × UInt16
  | pid, [] => ([], pid)
  | pid, message :: messages =>
    let next := if message.qos = 0 then pid else nextPacketId pid
    let others := retainedJobs slot sock next messages
    (publishJob slot sock { message with retain := true } message.qos
        (if message.qos = 0 then 0 else next) :: others.1, others.2)

/-! ### The tasks of sessions -/

/-- A packet in the loop of `handle_client`: what it says, and what the broker finds for
    it. Filters may be followed by something that is none. -/
inductive Inbound where
  | publish (message : Message) (pid : UInt16) (allowed : Bool)
  | puback
  | subscribe (filters : List (List Char × Nat × List Message)) (pid : UInt16)
      (granted : Option (List UInt8))
  | unsubscribe (filters : List (List Char)) (pid : UInt16) (complete : Bool)
  | pingreq
  | disconnect
  | other
  deriving DecidableEq, Repr

/-- What `handle_publish`, `handle_subscribe`, `handle_unsubscribe` and the loop do about a
    packet. -/
def Inbound.duties : Inbound → List Duty
  | .publish message pid allowed =>
    let ack := if message.qos = 0 then [] else [Duty.ack (some (pubackPacket pid)) allowed]
    ack ++ ((if allowed then [.publish message none] else []) ++ [.retry])
  | .puback => [.retry]
  | .subscribe filters pid granted =>
    (filters.flatMap fun filter =>
      [.subscribe filter.1 filter.2.1,
        .deliver (filter.2.2.map fun message =>
          { message with qos := effectiveDeliveryQos message.qos filter.2.1 })]) ++
      match granted with
      | some granted => [.ack (subackPacket pid granted) true, .retry]
      | none => [.leave]
  | .unsubscribe filters pid complete =>
    filters.map Duty.unsubscribe ++
      if complete then [.ack (some (unsubackPacket pid)) true, .retry] else [.leave]
  | .pingreq => [.ack (some pingrespPacket) false, .retry]
  | .disconnect => [.leave]
  | .other => [.leave]

/-- A retained message, which is not sent if the one before it has failed. -/
def Duty.stops : Duty → Bool
  | .send _ stop => stop
  | _ => false

/-- Where a task goes on behind a packet of its own. -/
def OnFail.next (onFail : OnFail) (ok : Bool) (duties : List Duty) : ClientState :=
  if ok then .serving duties
  else match onFail with
    | .ignore => .serving duties
    | .stop => .serving (duties.dropWhile Duty.stops)
    | .leave => .cleanup

def Sockets.findSessionByClientId (s : Sockets) (clientId : List Char) : Option Nat :=
  if clientId = [] then none
  else s.sessions.findIdx? fun sess =>
    sess.active && !sess.closing && !sess.retiring && sess.clientId = clientId

/-- Inputs of the task of a session. -/
inductive ClientChoice where
  | go
  | recv (more : Bool)
  | empty
  | fail (timeout : Bool)
  | connect (clientId : List Char)
  | verdict (rc : UInt8)
  | packet (inbound : Inbound)
  | retry (message : Message) (pid : UInt16)
  | cleanup (will : Option Message)
  | leave
  | send (choice : SendChoice)
  deriving DecidableEq, Repr

/-- Where the task goes on when it has read a part of a packet. -/
def afterStage (connected : Bool) : ReadStage → ClientState
  | .header => .fetching connected .length
  | .length => .fetching connected .body
  | .body => if connected then .dispatching else .connecting

/-- The next duty of a session. -/
def dutyStep (s : Sockets) (slot : Nat) (sess : MqttSession) (duties : List Duty) :
    Duty → ClientChoice → Option (Sockets × ClientState)
  | .ack packet needed, .go => match packet with
    | none => some (s, if needed then .cleanup else .serving duties)
    | some packet =>
      let job : Job := { kind := .ack, slot, pieces := some [packet] }
      some (s, .sending job.start (if needed then .leave else .ignore) duties)
  | .subscribe filter qos, .go =>
    let upserted := mqttUpsertSubscription { subs := sess.subs } filter qos
    some (s.setSession slot { sess with subs := upserted.subs }, .serving duties)
  | .unsubscribe filter, .go =>
    some (s.setSession slot { sess with subs := sess.subs.filter fun sub => sub.1 ≠ filter },
      .serving duties)
  | .deliver messages, .go =>
    if sess.sock.isSome then
      let jobs := retainedJobs slot sess.sock s.packetId messages
      some ({ s with packetId := jobs.2 },
        .serving (jobs.1.map (fun job => Duty.send job true) ++ duties))
    else some (s, .serving duties)
  | .publish message exclude, .go =>
    let jobs := s.targets message exclude
    some ({ s with packetId := jobs.2 },
      .serving (jobs.1.map (fun job => Duty.send job false) ++ duties))
  | .send job stop, .go => some (s, .sending job.start (if stop then .stop else .ignore) duties)
  | .retry, .retry message pid =>
    if sess.closing ∨ sess.sock = none then some (s, .serving duties)
    else
      let pieces := (buildQos1PublishPacket (bytesOf message.topic) (bytesOf message.payload)
        message.retain pid).map fun packet => [markDup packet]
      match pieces with
      | none => none
      | some pieces =>
        let job : Job := { kind := .retry, slot, sock := sess.sock, pieces := some pieces }
        some (s, .sending job.start .ignore duties)
  | .retry, .go => some (s, .serving duties)
  | .leave, .go => some (s, .cleanup)
  | .free, .go => some (s, .freeing .begun)
  | _, _ => none

/-- The answer to CONNECT. -/
def greet (slot : Nat) (sess : MqttSession) (rc : UInt8) : ClientState :=
  let job : Job := { kind := .connack, slot, sock := sess.sock, pieces := some [connackPacket rc] }
  .greeting job.start (rc = 0)

/-- A step of `handle_client` for a session, up to its sends and to `free_session`. -/
def handleStep (s : Sockets) (slot : Nat) (sess : MqttSession) :
    ClientState → ClientChoice → Option (Sockets × ClientState)
  | .fetching connected stage, .go => some (s, .reading connected stage sess.sock)
  | .reading connected stage (some sock), .recv more =>
    match s.fds sock.fd with
    | none => none
    | some actual =>
      some (s.note (.read sock.conn actual),
        if more then .reading connected stage (some sock) else afterStage connected stage)
  | .reading connected .body _, .empty => some (s, afterStage connected .body)
  | .reading connected stage _, .fail timeout =>
    if connected ∧ stage = .header ∧ !sess.closing ∧ timeout then some (s, .serving [.retry])
    else some (s, .cleanup)
  | .connecting, .verdict rc => if rc = 0 then none else some (s, greet slot sess rc)
  | .connecting, .connect clientId =>
    match s.findSessionByClientId clientId with
    | none => some (s.setSession slot { sess with clientId }, .judging)
    | some other =>
      if other = slot then some (s, .judging)
      else match s.sessions[other]? with
        | none => none
        | some old =>
          some ((s.setSession other old.prepareClose).setSession slot { sess with clientId },
            .evicting old.sock)
  | .evicting old, .go => some (s.closeSocket old, .judging)
  | .judging, .verdict rc => some (s, greet slot sess rc)
  | .greeting (.done _) true, .go =>
    match sess.sock with
    | none => some (s, .fetching true .header)
    | some sock => some (s.note (.connected sock.conn), .fetching true .header)
  | .greeting (.done _) false, .go => some (s, .cleanup)
  | .dispatching, .packet inbound => some (s, .serving inbound.duties)
  | .serving [], .go => some (s, .fetching true .header)
  | .serving [], .leave => some (s, .cleanup)
  | .serving (duty :: duties), choice => dutyStep s slot sess duties duty choice
  | .sending (.done ok) onFail duties, .go => some (s, onFail.next ok duties)
  | .cleanup, .cleanup will =>
    let publish := match will with
      | none => []
      | some message => [Duty.publish message (some slot)]
    some (s, .serving (publish ++ [.free]))
  | _, _ => none

/-- A step of `handle_client`. -/
def clientStep (s : Sockets) (slot : Nat) (client : ClientState) (choice : ClientChoice) :
    Option (Sockets × ClientState) :=
  match client, choice with
  | .greeting send accepted, .send choice =>
    (sendStep s (.client slot) send choice).map fun next => (next.1, .greeting next.2 accepted)
  | .sending send onFail duties, .send choice =>
    (sendStep s (.client slot) send choice).map fun next =>
      (next.1, .sending next.2 onFail duties)
  | .freeing free, .go =>
    (freeStep s slot (.client slot) free).map fun next =>
      (next.1, next.2.elim .none ClientState.freeing)
  | client, choice => match s.sessions[slot]? with
    | none => none
    | some sess => handleStep s slot sess client choice

/-! ### The other tasks -/

/-- Inputs of the task that accepts connections. -/
inductive AcceptChoice where
  | accept (fd : Nat)
  | go
  | recv
  | evict (clientId : Option (List Char))
  | noStorage
  | create (ok : Bool)
  deriving DecidableEq, Repr

/-- The slot that `alloc_session` takes. -/
def Sockets.allocSession (s : Sockets) : Option Nat :=
  s.sessions.findIdx? fun sess => !sess.active && !sess.retiring

/-- `reset_session_runtime_fields`, for a session that is in use from now on. -/
def MqttSession.reset (sess : MqttSession) : MqttSession := { txLock := sess.txLock, active := true }

/-- A step of `accept_task`. -/
def acceptStep (s : Sockets) : AcceptState → AcceptChoice → Option (Sockets × AcceptState)
  | .waiting, .accept fd =>
    if s.fds fd = none then
      let sock : Socket := { fd, conn := s.nextConn }
      some ({ s with
        fds := Function.update s.fds fd (some s.nextConn)
        nextConn := s.nextConn + 1
        log := .accepted sock :: s.log }, .accepted sock)
    else none
  | .accepted sock, .go =>
    match s.allocSession with
    | none => some (s, .full sock)
    | some slot =>
      match s.sessions[slot]? with
      | none => none
      | some sess => some (s.setSession slot sess.reset, .allocated slot sock)
  | .full sock, .recv =>
    match s.fds sock.fd with
    | none => none
    | some actual => some (s.note (.read sock.conn actual), .full sock)
  | .full sock, .evict none => some (s, .rejecting sock)
  | .full sock, .evict (some clientId) =>
    match s.findSessionByClientId clientId with
    | none => some (s, .rejecting sock)
    | some slot =>
      match s.sessions[slot]? with
      | none => none
      | some old => some (s.setSession slot old.prepareClose, .evicting sock old.sock)
  | .evicting sock old, .go => some (s.closeSocket old, .rejecting sock)
  | .rejecting sock, .go => some (s.closeSocket (some sock), .waiting)
  | .allocated slot sock, .noStorage => some (s, .refused slot sock false)
  | .allocated slot sock, .go =>
    match s.sessions[slot]? with
    | none => none
    | some sess => some (s.setSession slot { sess with sock := some sock }, .stored slot sock)
  | .stored slot _, .create true =>
    some ({ s with clients := s.clients.set slot (.fetching false .header) }, .waiting)
  | .stored slot sock, .create false => some (s, .refused slot sock true)
  | .refused slot sock _, .go => some (s.closeSocket (some sock), .freeing slot .begun)
  | .freeing slot free, .go =>
    (freeStep s slot .accept free).map fun next =>
      (next.1, next.2.elim .waiting (AcceptState.freeing slot))
  | _, _ => none

/-- Inputs of another task. -/
inductive CallChoice where
  | go
  | send (choice : SendChoice)
  deriving DecidableEq, Repr

/-- A step of another task. -/
def callStep (s : Sockets) (n : Nat) : CallState → CallChoice → Option (Sockets × CallState)
  | .publishing [], .go => some (s, .idle)
  | .publishing (job :: jobs), .go => some (s, .sending job.start jobs)
  | .sending (.done _) jobs, .go => some (s, .publishing jobs)
  | .sending send jobs, .send choice =>
    (sendStep s (.call n) send choice).map fun next => (next.1, .sending next.2 jobs)
  | .closing sock, .go => some (s.closeSocket (some sock), .idle)
  | _, _ => none

/-! ### The broker -/

/-- A step of a task, a publish of another task, the sweep of a session that has been idle
    for too long, or the end of the time for which a free session is not used again. -/
inductive SocketStep where
  | accept (choice : AcceptChoice)
  | client (slot : Nat) (choice : ClientChoice)
  | call (n : Nat) (choice : CallChoice)
  | publish (message : Message)
  | sweep (slot : Nat)
  | reap (slot : Nat)
  deriving DecidableEq, Repr

def socketStep (s : Sockets) : SocketStep → Option Sockets
  | .accept choice =>
    (acceptStep s s.accept choice).map fun next => { next.1 with accept := next.2 }
  | .client slot choice =>
    match s.clients[slot]? with
    | none => none
    | some client => (clientStep s slot client choice).map fun next =>
      { next.1 with clients := next.1.clients.set slot next.2 }
  | .call n choice =>
    match s.calls[n]? with
    | none => none
    | some call => (callStep s n call choice).map fun next =>
      { next.1 with calls := next.1.calls.set n next.2 }
  | .publish message =>
    let jobs := s.targets message none
    some { s with packetId := jobs.2, calls := s.calls ++ [.publishing jobs.1] }
  | .sweep slot =>
    match s.sessions[slot]? with
    | none => none
    | some sess =>
      if sess.active then
        let closing := match sess.sock with
          | none => CallState.idle
          | some sock => .closing sock
        some { s.setSession slot sess.prepareClose with calls := s.calls ++ [closing] }
      else none
  | .reap slot =>
    match s.sessions[slot]? with
    | none => none
    | some sess =>
      if !sess.active ∧ sess.retiring then some (s.setSession slot { sess with retiring := false })
      else none

/-- A broker with a number of sessions, before the first connection. -/
def Sockets.atStart (sessions : Nat) : Sockets :=
  { sessions := List.replicate sessions {}, clients := List.replicate sessions .none }

end SceneHub.Broker
