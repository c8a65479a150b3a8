import SceneHub.Broker.Server

/-!
# Delivery of Messages

What the broker does with a message: `publish_to_subscribers`, `handle_publish`,
`handle_subscribe`, `handle_unsubscribe` and `handle_puback` of
`mqtt_core_protocol.c`, the sending functions and `mqtt_qos1_retry_due` of
`mqtt_core_packet.c`, `retain_store` and `deliver_retain` of `mqtt_core_retain.c`,
and `mqtt_core_inject_message` of `mqtt_core.c`.

A task does its work piece by piece, and other tasks come in between. A piece is
what the code does in one section under its lock, with the write behind it. How a
write turns out, and whether there is memory for a packet, is an input of the step,
and so is whether a pending packet is due again and when a session is closed.

Publications are numbered, and so are connections. The code looks at neither.

## Main definitions

* `Subscriptions`: The subscriptions of a session.
* `BrokerSession`: A session.
* `Delivery`: The broker.
* `Delivery.distribute`, `retainStore`: What a publish does under the lock.
* `Delivery.startTarget`, `Delivery.writeTarget`: Sending a packet to a session.
* `workStep`, `deliveryStep`: A piece of work, and a step of the broker.
-/

namespace SceneHub.Broker

def mqttQos1MaxInflight : Nat := 64

def mqttQos1MaxPendingBytes : Nat := 512 * 1024

def mqttQos1MaxSendAttempts : Nat := 8

def mqttRetainMax : Nat := 32

/-! ### Subscriptions -/

/-- The subscriptions of a session, each with the QoS that was granted. -/
structure Subscriptions where
  entries : List (List Char × Nat) := []
  granted : ∀ sub ∈ entries, sub.2 ≤ 1 := by decide
  distinct : (entries.map Prod.fst).Nodup := by decide
  room : entries.length ≤ mqttMaxSubs := by decide
  deriving DecidableEq

namespace Subscriptions

/-- A session that has subscribed to nothing. -/
def empty : Subscriptions := {}

/-- The filter is subscribed to, or there is room for it: `mqtt_upsert_subscription`
    succeeds. -/
def takes (subs : Subscriptions) (filter : List Char) : Bool :=
  filter ≠ [] && ((subs.entries.any fun sub => sub.1 = filter) || subs.entries.length < mqttMaxSubs)

theorem upsert_filters (entries : List (List Char × Nat)) (filter : List Char) (qos : Nat) :
    ((entries.map fun sub => if sub.1 = filter then (filter, min qos 1) else sub).map Prod.fst) =
      entries.map Prod.fst := by
  rw [List.map_map]
  apply List.map_congr_left
  intro sub _
  by_cases hsame : sub.1 = filter
  · simp [Function.comp, hsame]
  · simp [Function.comp, hsame]

/-- `mqtt_upsert_subscription`. -/
def upsert (subs : Subscriptions) (filter : List Char) (qos : Nat) : Subscriptions where
  entries := (mqttUpsertSubscription { subs := subs.entries } filter qos).subs
  granted sub hsub := by
    unfold mqttUpsertSubscription at hsub
    split_ifs at hsub
    · exact subs.granted sub hsub
    · rcases List.mem_map.1 hsub with ⟨old, hold, rfl⟩
      by_cases hsame : old.1 = filter
      · rw [if_pos hsame]
        exact Nat.min_le_right _ _
      · rw [if_neg hsame]
        exact subs.granted old hold
    · exact subs.granted sub hsub
    · rcases List.mem_append.1 hsub with hold | hnew
      · exact subs.granted sub hold
      · rw [List.mem_singleton.1 hnew]
        exact Nat.min_le_right _ _
  distinct := by
    unfold mqttUpsertSubscription
    split_ifs with hempty hsome hfull
    · exact subs.distinct
    · rw [upsert_filters]
      exact subs.distinct
    · exact subs.distinct
    rw [List.map_append, List.nodup_append]
    refine ⟨subs.distinct, by simp, fun a ha b hb heq => hsome ?_⟩
    rcases List.mem_map.1 ha with ⟨old, hold, rfl⟩
    rw [List.any_eq_true]
    refine ⟨old, hold, decide_eq_true ?_⟩
    rw [heq, List.mem_singleton.1 hb]
  room := by
    unfold mqttUpsertSubscription
    split_ifs with hempty hsome hfull
    · exact subs.room
    · rw [List.length_map]
      exact subs.room
    · exact subs.room
    · rw [List.length_append, List.length_singleton]
      omega

/-- What `handle_unsubscribe` does about a filter. -/
def remove (subs : Subscriptions) (filter : List Char) : Subscriptions where
  entries := subs.entries.filter fun sub => sub.1 ≠ filter
  granted sub hsub := subs.granted sub (List.mem_filter.1 hsub).1
  distinct := subs.distinct.sublist (List.filter_sublist.map _)
  room := Nat.le_trans (List.length_filter_le _ _) subs.room

end Subscriptions

/-! ### Sessions -/

/-- `mqtt_qos1_pending_t`: what the packet says, its length, its DUP flag and how often it was
    written, and the flags that it was written with, the last first. The publication is none for
    a retained message. -/
structure Pending where
  packetId : UInt16
  message : Message
  length : Nat
  dup : Bool := false
  sendCount : Nat := 0
  sent : List Bool := []
  publication : Option Nat := none
  deriving DecidableEq, Repr

/-- `mqtt_session_t`, up to its task and its lock. -/
structure BrokerSession where
  sock : Option Socket := none
  active : Bool := false
  closing : Bool := false
  retiring : Bool := false
  suppressWill : Bool := false
  clientId : List Char := []
  keepalive : Nat := 0
  subs : Subscriptions := .empty
  will : Will := {}
  pending : List (Option Pending) := List.replicate mqttQos1MaxInflight none
  deriving DecidableEq

namespace BrokerSession

/-- The session has a socket and is not being closed. -/
def isOpen (sess : BrokerSession) : Bool := sess.active && !sess.closing && sess.sock.isSome

/-- The session is open, and its descriptor is the one that was copied. -/
def current (sess : BrokerSession) (sock : Socket) : Bool :=
  sess.active && !sess.closing && sess.sock.map Socket.fd = some sock.fd

/-- `request_session_prepare_close_locked`: the session without its socket. -/
def prepareClose (sess : BrokerSession) : BrokerSession :=
  { sess with closing := true, subs := .empty, sock := none }

/-- The first subscription of an open session that a topic matches. -/
def subscription (sess : BrokerSession) (topic : List Char) : Option (List Char × Nat) :=
  if sess.isOpen then sess.subs.entries.find? fun sub => topicMatchesFilter sub.1 topic else none

def pendingCount (sess : BrokerSession) : Nat := sess.pending.countP Option.isSome

/-- The bytes of the packets that are not acknowledged. -/
def pendingBytes (sess : BrokerSession) : Nat :=
  (sess.pending.map fun entry => (entry.map Pending.length).getD 0).sum

end BrokerSession

/-- `publish_target_t`, with what is sent. -/
structure Target where
  slot : Nat
  sock : Socket
  qos : Nat
  pid : UInt16
  message : Message
  publication : Option Nat := none
  deriving DecidableEq, Repr

namespace Target

/-- The packet of a target with QoS 1, if it is not too long. -/
def packet (target : Target) : Option (List UInt8) :=
  buildQos1PublishPacket (bytesOf target.message.topic) (bytesOf target.message.payload)
    target.message.retain target.pid

/-- The pieces of a target with QoS 0, if they are not too long. -/
def pieces (target : Target) : Option (List (List UInt8)) :=
  publishPieces (bytesOf target.message.topic) (bytesOf target.message.payload) target.qos
    target.message.retain target.pid

/-- What is kept of a target until it is acknowledged. -/
def pending (target : Target) (length : Nat) : Pending :=
  { packetId := target.pid, message := target.message, length
    publication := target.publication }

end Target

/-! ### The broker -/

/-- `retain_entry_t`, if it is in use. -/
structure RetainEntry where
  topic : List Char
  payload : List Char
  qos : Nat
  deriving DecidableEq, Repr

/-- A piece of work of a task. -/
inductive Work where
  | puback (publication : Option Nat)
  | inject (publication : Nat)
  | distribute (publication : Nat) (message : Message) (exclude : Option Nat)
  | start (target : Target)
  | write (target : Target) (entry : Nat)
  | subscribe (slot : Nat) (filter : List Char) (qos : Nat)
  | unsubscribe (slot : Nat) (filter : List Char)
  | deliver (slot : Nat) (sock : Socket) (filter : List Char) (qos : Nat) (entry : Nat)
  | free (slot : Nat)
  deriving DecidableEq, Repr

/-- What happens to messages. A publication is distributed to the connections that it is to be
    sent to with QoS 1. A packet that is turned away could not be built, or has a length that
    is too much beside the bytes that are kept, or meets a session with too many packets. -/
inductive DeliveryEvent where
  | acked (publication : Nat)
  | ingested (publication : Nat)
  | posted (publication : Nat) (ok : Bool)
  | distributed (publication : Nat) (message : Message) (dues : List (Nat × Nat))
  | turnedAway (slot conn : Nat) (publication : Option Nat) (length : Option Nat) (bytes held : Nat)
  | wrote (slot conn : Nat) (message : Message) (qos : Nat) (pid : UInt16) (dup : Bool)
  | confirmed (slot : Nat) (pid : UInt16) (publication : Option Nat)
  deriving DecidableEq, Repr

/-- The sessions with their tasks, which are the first, the other tasks, the retained
    messages and what happened so far, the last first. -/
structure Delivery where
  sessions : List BrokerSession := []
  retained : List (Option RetainEntry) := List.replicate mqttRetainMax none
  packetId : UInt16 := 0
  pendingBytes : Nat := 0
  tasks : List (List Work) := []
  nextConn : Nat := 0
  nextPublication : Nat := 0
  log : List DeliveryEvent := []

namespace Delivery

def setSession (s : Delivery) (slot : Nat) (sess : BrokerSession) : Delivery :=
  { s with sessions := s.sessions.set slot sess }

def note (s : Delivery) (event : DeliveryEvent) : Delivery := { s with log := event :: s.log }

end Delivery

/-! ### Publishing -/

def retainStore (table : List (Option RetainEntry)) (message : Message) :
    List (Option RetainEntry) :=
  let payload := message.payload.take (mqttMaxPacket - 1)
  let entry : RetainEntry := { topic := message.topic, payload, qos := message.qos }
  match table.findIdx? fun e => e.map RetainEntry.topic = some message.topic with
  | some i => table.set i (if payload = [] then none else some entry)
  | none =>
    if payload = [] then table
    else match table.findIdx? Option.isNone with
      | none => table
      | some i => table.set i (some entry)

/-- The loop of `publish_to_subscribers` over the sessions from a slot on: the targets, and
    the last packet id. -/
def publishTargets (publication : Option Nat) (message : Message) (exclude : Option Nat) :
    (slot : Nat) → UInt16 → List BrokerSession → List Target × UInt16
  | _, pid, [] => ([], pid)
  | slot, pid, sess :: rest =>
    match sess.subscription message.topic, sess.sock with
    | some sub, some sock =>
      if exclude = some slot then publishTargets publication message exclude (slot + 1) pid rest
      else
        let qos := effectiveDeliveryQos message.qos sub.2
        let next := if qos = 0 then pid else nextPacketId pid
        let others := publishTargets publication message exclude (slot + 1) next rest
        ({ slot, sock, qos, pid := if qos = 0 then 0 else next, message, publication } :: others.1,
          others.2)
    | _, _ => publishTargets publication message exclude (slot + 1) pid rest

/-- The slots and connections of the targets with QoS 1. -/
def dues (targets : List Target) : List (Nat × Nat) :=
  (targets.filter fun target => target.qos = 1).map fun target => (target.slot, target.sock.conn)

/-- The section of `publish_to_subscribers` under the lock. -/
def Delivery.distribute (s : Delivery) (publication : Nat) (message : Message)
    (exclude : Option Nat) : Delivery × List Target :=
  let retained := if message.retain then retainStore s.retained message else s.retained
  let targets := publishTargets (some publication) message exclude 0 s.packetId s.sessions
  ({ s with
      retained
      packetId := targets.2
      log := .distributed publication message (dues targets.1) :: s.log }, targets.1)

/-! ### Sending -/

def Delivery.closeIfCurrent (s : Delivery) (slot : Nat) (sock : Socket) : Delivery :=
  match s.sessions[slot]? with
  | none => s
  | some sess =>
    if sess.active ∧ sess.sock.map Socket.fd = some sock.fd then
      s.setSession slot { sess with closing := true, sock := none }
    else s

/-- How `send_publish_packet_to_session_slot` goes on. -/
inductive StartResult where
  | refused
  | dropped
  | sent
  | reserved (entry : Nat)
  deriving DecidableEq, Repr

/-- A packet with QoS 1 is not kept. -/
def Delivery.turnAway (s : Delivery) (sess : BrokerSession) (target : Target)
    (length : Option Nat) : Delivery :=
  s.note (.turnedAway target.slot target.sock.conn target.publication length s.pendingBytes
    sess.pendingCount)

/-- `send_publish_packet_to_session_slot`, for QoS 1 up to the first write. A failure there is
    a lack of memory. -/
def Delivery.startTarget (s : Delivery) (target : Target) (rc : SendResult) :
    Delivery × StartResult :=
  match s.sessions[target.slot]? with
  | none => (s, .refused)
  | some sess =>
    if target.qos = 1 then
      match if rc = .ok then target.packet else none with
      | none => (s.turnAway sess target none, .refused)
      | some packet =>
        if !sess.current target.sock then (s, .refused)
        else if mqttQos1MaxPendingBytes < s.pendingBytes + packet.length then
          (s.turnAway sess target packet.length, .refused)
        else match sess.pending.findIdx? Option.isNone with
          | none => (s.turnAway sess target packet.length, .dropped)
          | some i =>
            let pending := sess.pending.set i (some (target.pending packet.length))
            ({ s.setSession target.slot { sess with pending } with
                pendingBytes := s.pendingBytes + packet.length }, .reserved i)
    else if !sess.current target.sock then (s, .refused)
    else if rc = .ok ∧ target.pieces.isSome then
      (s.note (.wrote target.slot target.sock.conn target.message target.qos target.pid false),
        .sent)
    else (s.closeIfCurrent target.slot target.sock, .refused)

/-- The rest of `send_qos1_publish_to_session_slot`, and whether it succeeds. -/
def Delivery.writeTarget (s : Delivery) (target : Target) (entry : Nat) (rc : SendResult) :
    Delivery × Bool :=
  match s.sessions[target.slot]? with
  | none => (s, false)
  | some sess =>
    match sess.pending[entry]? with
    | some (some pending) =>
      if sess.current target.sock && pending.packetId = target.pid &&
          pending.message = target.message then
        match rc with
        | .ok =>
          let next : Pending := { pending with sendCount := 1, sent := pending.dup :: pending.sent }
          ((s.setSession target.slot { sess with pending := sess.pending.set entry (some next) }).note
            (.wrote target.slot target.sock.conn target.message 1 target.pid pending.dup), true)
        | .failed => (s, true)
        | .partialFail => (s.closeIfCurrent target.slot target.sock, false)
      else (s, false)
    | _ => (s, false)

/-! ### Acknowledgements -/

def Delivery.handlePuback (s : Delivery) (slot : Nat) (pid : UInt16) : Delivery :=
  match s.sessions[slot]? with
  | none => s
  | some sess =>
    match sess.pending.findIdx? fun entry => entry.map Pending.packetId = some pid with
    | none => s
    | some i =>
      match sess.pending[i]? with
      | some (some pending) =>
        { s.setSession slot { sess with pending := sess.pending.set i none } with
          pendingBytes := s.pendingBytes - pending.length
          log := .confirmed slot pid pending.publication :: s.log }
      | _ => s

/-- `mqtt_qos1_retry_due` for a packet that is due. -/
def Delivery.retry (s : Delivery) (slot entry : Nat) (rc : SendResult) : Delivery :=
  match s.sessions[slot]? with
  | none => s
  | some sess =>
    match sess.sock, sess.pending[entry]? with
    | some sock, some (some pending) =>
      if !sess.active || sess.closing then s
      else
        let again : Pending := { pending with dup := true }
        let marked := s.setSession slot { sess with pending := sess.pending.set entry (some again) }
        if mqttQos1MaxSendAttempts ≤ pending.sendCount then marked.closeIfCurrent slot sock
        else match rc with
          | .ok =>
            let next : Pending :=
              { again with sendCount := pending.sendCount + 1, sent := true :: pending.sent }
            (s.setSession slot { sess with pending := sess.pending.set entry (some next) }).note
              (.wrote slot sock.conn pending.message 1 pending.packetId true)
          | .failed => marked
          | .partialFail => marked.closeIfCurrent slot sock
    | _, _ => s

/-- `free_session`. -/
def Delivery.free (s : Delivery) (slot : Nat) : Delivery :=
  match s.sessions[slot]? with
  | none => s
  | some sess =>
    let freed : BrokerSession :=
      { retiring := true, suppressWill := true, clientId := sess.clientId
        keepalive := sess.keepalive }
    { s.setSession slot freed with pendingBytes := s.pendingBytes - sess.pendingBytes }

/-! ### Tasks -/

/-- What is left when a packet was refused: `deliver_retain` stops. -/
def afterRefusal : List Work → List Work
  | .deliver _ _ _ _ _ :: rest => rest
  | rest => rest

/-- What is left when a packet was started. -/
def afterStart (target : Target) (rest : List Work) : StartResult → List Work
  | .refused => afterRefusal rest
  | .reserved entry => .write target entry :: rest
  | _ => rest

/-- A piece of work, with what is to be done behind it. -/
def workStep (s : Delivery) (rc : SendResult) (rest : List Work) : Work → Delivery × List Work
  | .puback publication =>
    if rc = .ok then
      (match publication with
        | none => s
        | some n => s.note (.acked n), rest)
    else (s, [])
  | .inject n =>
    ((s.note (.ingested n)).note (.posted n (rc = .ok)), rest)
  | .distribute n message exclude =>
    let distributed := s.distribute n message exclude
    (distributed.1, distributed.2.map Work.start ++ rest)
  | .start target =>
    let started := s.startTarget target rc
    (started.1, afterStart target rest started.2)
  | .write target entry =>
    let written := s.writeTarget target entry rc
    (written.1, if written.2 then rest else afterRefusal rest)
  | .subscribe slot filter qos =>
    match s.sessions[slot]? with
    | none => (s, rest)
    | some sess =>
      if aclCanSubscribe sess.clientId filter && sess.subs.takes filter then
        (s.setSession slot { sess with subs := sess.subs.upsert filter qos },
          match sess.sock with
          | none => rest
          | some sock => .deliver slot sock filter (min qos 1) 0 :: rest)
      else (s, rest)
  | .unsubscribe slot filter =>
    match s.sessions[slot]? with
    | none => (s, rest)
    | some sess => (s.setSession slot { sess with subs := sess.subs.remove filter }, rest)
  | .deliver slot sock filter qos i =>
    match s.retained[i]? with
    | none => (s, rest)
    | some none => (s, .deliver slot sock filter qos (i + 1) :: rest)
    | some (some entry) =>
      if topicMatchesFilter filter entry.topic then
        let deliveryQos := effectiveDeliveryQos entry.qos qos
        let next := if deliveryQos = 0 then s.packetId else nextPacketId s.packetId
        let message : Message :=
          { topic := entry.topic, payload := entry.payload, qos := deliveryQos, retain := true }
        let target : Target :=
          { slot, sock, qos := deliveryQos, pid := if deliveryQos = 0 then 0 else next, message }
        ({ s with packetId := next },
          .start target :: .deliver slot sock filter qos (i + 1) :: rest)
      else (s, .deliver slot sock filter qos (i + 1) :: rest)
  | .free slot => (s.free slot, rest)

/-- A packet of a session. -/
inductive DeliveryPacket where
  | publish (message : Message)
  | puback (pid : UInt16)
  | subscribe (filters : List (List Char × Nat))
  | unsubscribe (filters : List (List Char))
  deriving DecidableEq, Repr

/-- What `handle_publish` does about a message, with the number it gets. -/
def publishWorks (clientId : List Char) (publication : Nat) (message : Message) : List Work :=
  if aclCanPublish clientId message.topic then
    (if message.qos = 1 then [.puback (some publication)] else []) ++
      [.inject publication, .distribute publication message none]
  else if message.qos = 1 then [.puback none] else []

/-- The limits of `handle_client` and `handle_publish` on what is read. -/
def Message.readable (message : Message) : Bool :=
  message.qos ≤ 1 && message.topic.length < mqttMaxTopic && message.payload.length < mqttMaxPacket &&
    2 + message.topic.length + 2 * message.qos + message.payload.length ≤ mqttMaxPacket

/-- Steps of the broker: a client connects, a session reads a packet, another task publishes,
    a task does a piece of its work, a session writes a pending packet again, a session is
    closed, and a session is at its end. -/
inductive DeliveryStep where
  | connect (slot fd : Nat) (client : ClientSession)
  | packet (slot : Nat) (inbound : DeliveryPacket)
  | publish (topic payload : List Char) (qos : Nat)
  | go (task : Nat) (rc : SendResult)
  | retry (slot entry : Nat) (rc : SendResult)
  | close (slot : Nat)
  | finish (slot : Nat)
  deriving DecidableEq, Repr

/-- A session that is let in. -/
def ClientSession.accepted (client : ClientSession) (sock : Socket) : BrokerSession :=
  { sock := some sock, active := true, clientId := client.clientId
    keepalive := client.keepalive, will := client.will }

/-- The works of a session at its end: `send_will_if_needed` and `free_session`. -/
def finishWorks (sess : BrokerSession) (slot publication : Nat) : List Work :=
  let will : Message :=
    { topic := sess.will.topic, payload := sess.will.payload, qos := sess.will.qos
      retain := sess.will.retain }
  (if sess.will.has && !sess.suppressWill then [.distribute publication will (some slot)] else []) ++
    [.free slot]

def deliveryStep (s : Delivery) : DeliveryStep → Option Delivery
  | .connect slot fd client =>
    match s.sessions[slot]?, s.tasks[slot]? with
    | some sess, some [] =>
      if sess.active then none
      else some { s.setSession slot (client.accepted ⟨fd, s.nextConn⟩) with
        nextConn := s.nextConn + 1 }
    | _, _ => none
  | .packet slot inbound =>
    match s.sessions[slot]?, s.tasks[slot]? with
    | some sess, some [] =>
      if !sess.active then none
      else match inbound with
        | .publish message =>
          if message.readable then
            some { s with
              tasks := s.tasks.set slot (publishWorks sess.clientId s.nextPublication message)
              nextPublication := s.nextPublication + 1 }
          else none
        | .puback pid => some (s.handlePuback slot pid)
        | .subscribe filters => some { s with
            tasks := s.tasks.set slot (filters.map fun sub => .subscribe slot sub.1 sub.2) }
        | .unsubscribe filters => some { s with
            tasks := s.tasks.set slot (filters.map (.unsubscribe slot)) }
    | _, _ => none
  | .publish topic payload qos =>
    if qos ≤ 1 then
      some { s with
        tasks := s.tasks ++ [[.distribute s.nextPublication ⟨topic, payload, qos, false⟩ none]]
        nextPublication := s.nextPublication + 1 }
    else none
  | .go n rc =>
    match s.tasks[n]? with
    | some (work :: rest) =>
      let next := workStep s rc rest work
      some { next.1 with tasks := next.1.tasks.set n next.2 }
    | _ => none
  | .retry slot entry rc =>
    match s.tasks[slot]? with
    | some [] => some (s.retry slot entry rc)
    | _ => none
  | .close slot =>
    match s.sessions[slot]? with
    | none => none
    | some sess => if sess.active then some (s.setSession slot sess.prepareClose) else none
  | .finish slot =>
    match s.sessions[slot]?, s.tasks[slot]? with
    | some sess, some [] =>
      if sess.active then
        some { s with
          tasks := s.tasks.set slot (finishWorks sess slot s.nextPublication)
          nextPublication := s.nextPublication + 1 }
      else none
    | _, _ => none

/-- A broker with a number of sessions, before the first connection. -/
def Delivery.atStart (sessions : Nat) : Delivery :=
  { sessions := List.replicate sessions {}, tasks := List.replicate sessions [] }

end SceneHub.Broker
