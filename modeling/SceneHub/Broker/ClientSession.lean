import SceneHub.Broker.Acl

/-!
# A Client's Session

What the broker does for one connection, from its first packet to its end:
`handle_connect`, `handle_subscribe`, `handle_unsubscribe` and `handle_publish`
of `mqtt_core_protocol.c`, `handle_client` of `mqtt_core_server.c`, and
`send_will_if_needed` of `mqtt_core_session.c`.

A session hands messages to `publish_to_subscribers`, which distributes them and
keeps those with the retain flag. Only these are recorded here. What other
connections do is an input: which clients are connected when this one connects,
and whether another connection takes the client id over. So is whether a reply
can be written to the socket.

## Main definitions

* `ClientSession`: The part of a session that decides what is published.
* `handleConnect`, `handlePublish`: The packets with a topic to publish to.
* `clientRun`: A connection from its first packet to its end.
-/

namespace SceneHub.Broker

/-! ### Packets -/

/-- `MQTT_MAX_PACKET`, and `MQTT_MAX_PAYLOAD`, which is the same. -/
def mqttMaxPacket : Nat := 14336

def mqttMaxSubs : Nat := 16

/-- `CONFIG_STORE_CLIENT_ID_MAX`, and the sizes of a user name and a password. -/
def clientIdMax : Nat := 32

def questDeviceMaxDevices : Nat := 20

/-- The C string in a buffer. -/
def cString (bytes : List UInt8) : List Char :=
  (bytes.takeWhile (· ≠ 0)).map fun byte => Char.ofNat byte.toNat

/-- Two bytes as a number. -/
def be16 (hi lo : UInt8) : Nat := hi.toNat * 256 + lo.toNat

/-- `parse_utf8_str`: the text at an offset, and the offset behind it. -/
def parseUtf8Str (buf : List UInt8) (offset outLen : Nat) : Option (List Char × Nat) :=
  match buf.drop offset with
  | hi :: lo :: rest =>
    if rest.length < be16 hi lo ∨ outLen ≤ be16 hi lo then none
    else some (cString (rest.take (be16 hi lo)), offset + 2 + be16 hi lo)
  | _ => none

/-! ### Sessions -/

/-- `will_t`. -/
structure Will where
  has : Bool := false
  topic : List Char := []
  payload : List Char := []
  qos : Nat := 0
  retain : Bool := false
  deriving DecidableEq, Repr

/-- A message for `publish_to_subscribers`. -/
structure Message where
  topic : List Char
  payload : List Char
  qos : Nat
  retain : Bool
  deriving DecidableEq, Repr

/-- The part of `mqtt_session_t` that decides what a session publishes and reads. -/
structure ClientSession where
  clientId : List Char := []
  keepalive : Nat := 0
  subs : List (List Char × Nat) := []
  will : Will := {}
  suppressWill : Bool := false
  deriving DecidableEq, Repr

structure MqttUser where
  clientId : List Char
  username : List Char
  password : List Char
  deriving DecidableEq, Repr

def mqttAuthenticateClient (users : List MqttUser) (clientId username password : List Char) :
    Bool :=
  users = [] ∨ users.any fun user =>
    user.clientId = clientId ∧ user.username = username ∧ user.password = password

def mqttIsDeviceContractClientId (clientId : List Char) : Bool :=
  if clientId = [] then false
  else if dccPrefix.isPrefixOf clientId ∧ dccPrefix.length < clientId.length then true
  else !aclIsStaticClientId clientId

/-- `mqtt_device_client_capacity_available_locked`, with the ids of the clients that
    are connected. -/
def mqttDeviceClientCapacityAvailable (connected : List (List Char)) (clientId : List Char) :
    Bool :=
  !mqttIsDeviceContractClientId clientId ||
    (connected.filter fun other => other ≠ clientId ∧ mqttIsDeviceContractClientId other).length <
      questDeviceMaxDevices

inductive Connack where
  | accepted
  | identifierRejected
  | serverUnavailable
  | badUsernamePassword
  | notAuthorized
  deriving DecidableEq, Repr

/-- The first fields of a CONNECT packet: protocol, level, flags, keepalive and
    client id. The client id is behind them, and the rest behind as many bytes as
    the id has characters. -/
structure ConnectHead where
  level : UInt8
  flags : UInt8
  keepalive : Nat
  clientId : List Char
  rest : Nat
  deriving DecidableEq, Repr

/-- The head of a CONNECT packet as `handle_connect` reads it, with
    `mqtt_parse_connect_client_id`. -/
def parseConnectHead (buf : List UInt8) : Option ConnectHead :=
  match parseUtf8Str buf 0 8 with
  | none => none
  | some (proto, off) =>
    if proto ≠ "MQTT".toList ∧ proto ≠ "MQIsdp".toList then none
    else match buf.drop off with
      | level :: flags :: hi :: lo :: _ =>
        match parseUtf8Str buf (off + 4) clientIdMax with
        | none => none
        | some (clientId, _) =>
          some { level, flags, keepalive := be16 hi lo, clientId
                 rest := off + 4 + 2 + clientId.length }
      | _ => none

/-- The last will of a CONNECT packet at an offset, and the offset behind it. -/
def parseWill (buf : List UInt8) (flags : UInt8) (off : Nat) : Option (Will × Nat) :=
  if flags &&& 0x04 = 0 then some ({}, off)
  else match parseUtf8Str buf off mqttMaxTopic with
    | none => none
    | some (topic, off) =>
      match parseUtf8Str buf off mqttMaxPacket with
      | none => none
      | some (payload, off) =>
        some ({ has := true
                topic
                payload
                qos := ((flags >>> 3) &&& 0x03).toNat
                retain := flags &&& 0x20 ≠ 0 }, off)

/-- A text that is there if a flag is set. -/
def parseFlagged (buf : List UInt8) (flags mask : UInt8) (off : Nat) : Option (List Char × Nat) :=
  if flags &&& mask = 0 then some ([], off) else parseUtf8Str buf off clientIdMax

/-- `handle_connect`. The will is in the session before the client is authenticated. -/
def handleConnect (users : List MqttUser) (connected : List (List Char)) (sess : ClientSession)
    (buf : List UInt8) : Connack × ClientSession :=
  match parseConnectHead buf with
  | none => (.identifierRejected, sess)
  | some head =>
    if head.level ≠ 4 then (.identifierRejected, sess)
    else if !mqttDeviceClientCapacityAvailable connected head.clientId then
      (.serverUnavailable, sess)
    else
      let sess := { sess with clientId := head.clientId, keepalive := head.keepalive }
      match parseWill buf head.flags head.rest with
      | none => (.identifierRejected, sess)
      | some (will, off) =>
        let sess := { sess with will }
        match parseFlagged buf head.flags 0x80 off with
        | none => (.badUsernamePassword, sess)
        | some (username, off) =>
          match parseFlagged buf head.flags 0x40 off with
          | none => (.badUsernamePassword, sess)
          | some (password, _) =>
            if mqttAuthenticateClient users head.clientId username password then (.accepted, sess)
            else (.notAuthorized, sess)

/-! ### The packets behind CONNECT -/

def mqttUpsertSubscription (sess : ClientSession) (topic : List Char) (requestedQos : Nat) :
    ClientSession :=
  let granted := min requestedQos 1
  if topic = [] then sess
  else if sess.subs.any fun sub => sub.1 = topic then
    { sess with subs := sess.subs.map fun sub => if sub.1 = topic then (topic, granted) else sub }
  else if mqttMaxSubs ≤ sess.subs.length then sess
  else { sess with subs := sess.subs ++ [(topic, granted)] }

/-- The filters of a SUBSCRIBE packet, one after the other. -/
def subscribeAll (sess : ClientSession) (buf : List UInt8) : (room off : Nat) →
    Bool × ClientSession
  | 0, _ => (true, sess)
  | room + 1, off =>
    if buf.length < off + 3 then (true, sess)
    else match parseUtf8Str buf off mqttMaxTopic with
      | none => (false, sess)
      | some (topic, off) =>
        let qos := (buf.getD off 0).toNat
        let sess :=
          if aclCanSubscribe sess.clientId topic then mqttUpsertSubscription sess topic qos
          else sess
        subscribeAll sess buf room (off + 1)

def handleSubscribe (sess : ClientSession) (buf : List UInt8) (sends : Bool) :
    Bool × ClientSession :=
  if buf.length < 2 then (false, sess)
  else
    let read := subscribeAll sess buf mqttMaxSubs 2
    (read.1 && sends, read.2)

/-- The filters of an UNSUBSCRIBE packet. There are no more than half as many as
    bytes. -/
def unsubscribeAll (sess : ClientSession) (buf : List UInt8) : (room off : Nat) →
    Bool × ClientSession
  | 0, _ => (true, sess)
  | room + 1, off =>
    if buf.length < off + 2 then (true, sess)
    else match parseUtf8Str buf off mqttMaxTopic with
      | none => (false, sess)
      | some (topic, off) =>
        unsubscribeAll { sess with subs := sess.subs.filter fun sub => sub.1 ≠ topic } buf room off

def handleUnsubscribe (sess : ClientSession) (buf : List UInt8) (sends : Bool) :
    Bool × ClientSession :=
  if buf.length < 2 then (false, sess)
  else
    let read := unsubscribeAll sess buf buf.length 2
    (read.1 && sends, read.2)

/-- `handle_publish`: whether the connection goes on, and the message. -/
def handlePublish (sess : ClientSession) (header : UInt8) (buf : List UInt8) (sends : Bool) :
    Bool × Option Message :=
  match buf with
  | hi :: lo :: rest =>
    if rest.length < be16 hi lo ∨ mqttMaxTopic ≤ be16 hi lo then (false, none)
    else
      let topic := cString (rest.take (be16 hi lo))
      let rest := rest.drop (be16 hi lo)
      let qos := ((header >>> 1) &&& 0x03).toNat
      let pid := match rest with
        | hi :: lo :: _ => be16 hi lo
        | _ => 0
      let body := if qos = 0 then rest else rest.drop 2
      if qos ≠ 0 ∧ rest.length < 2 then (false, none)
      else if 1 < qos then (false, none)
      else if qos = 1 ∧ pid = 0 then (false, none)
      else if !aclCanPublish sess.clientId topic then (true, none)
      else if mqttMaxPacket ≤ body.length then (false, none)
      else if qos = 1 ∧ !sends then (false, none)
      else (true, some { topic, payload := cString body, qos, retain := header &&& 0x01 ≠ 0 })
  | _ => (false, none)

/-- A packet of a connection, and whether a reply to it can be written. -/
structure ClientPacket where
  header : UInt8
  body : List UInt8
  sends : Bool := true
  deriving DecidableEq, Repr

/-- A packet in the loop of `handle_client`: whether the connection goes on, the
    session and the message. -/
def handlePacket (sess : ClientSession) (packet : ClientPacket) :
    Bool × ClientSession × Option Message :=
  if mqttMaxPacket < packet.body.length then (false, sess, none)
  else match (packet.header >>> 4).toNat with
    | 3 =>
      let handled := handlePublish sess packet.header packet.body packet.sends
      (handled.1, sess, handled.2)
    | 4 =>
      match packet.body with
      | [hi, lo] => (be16 hi lo ≠ 0, sess, none)
      | _ => (false, sess, none)
    | 8 =>
      let handled := handleSubscribe sess packet.body packet.sends
      (handled.1, handled.2, none)
    | 10 =>
      let handled := handleUnsubscribe sess packet.body packet.sends
      (handled.1, handled.2, none)
    | 12 => (true, sess, none)
    | 14 => (false, { sess with suppressWill := true }, none)
    | _ => (false, sess, none)

/-- The loop of `handle_client`, until a packet or the socket ends it. -/
def handlePackets (sess : ClientSession) : List ClientPacket → ClientSession × List Message
  | [] => (sess, [])
  | packet :: packets =>
    let handled := handlePacket sess packet
    if handled.1 then
      let rest := handlePackets handled.2.1 packets
      (rest.1, handled.2.2.toList ++ rest.2)
    else (handled.2.1, handled.2.2.toList)

def sendWillIfNeeded (sess : ClientSession) : List Message :=
  if sess.will.has && !sess.suppressWill then
    [{ topic := sess.will.topic
       payload := sess.will.payload
       qos := sess.will.qos
       retain := sess.will.retain }]
  else []

/-- A connection: the users of the broker, the clients connected when it begins, its
    packets, and whether another connection takes its client id over. -/
structure ClientRun where
  users : List MqttUser := []
  connected : List (List Char) := []
  header : UInt8 := 0x10
  connect : List UInt8
  packets : List ClientPacket := []
  takenOver : Bool := false
  deriving DecidableEq, Repr

/-- What CONNECT is answered, and the session behind it. -/
def ClientRun.connack (run : ClientRun) : Connack × ClientSession :=
  if mqttMaxPacket < run.connect.length ∨ (run.header >>> 4).toNat ≠ 1 then
    (.identifierRejected, {})
  else handleConnect run.users run.connected {} run.connect

/-- The session at the end of a connection, and what was published until then. -/
def ClientRun.finish (run : ClientRun) : ClientSession × List Message :=
  let handled :=
    if run.connack.1 = .accepted then handlePackets run.connack.2 run.packets
    else (run.connack.2, [])
  ({ handled.1 with suppressWill := handled.1.suppressWill || run.takenOver }, handled.2)

/-- `handle_client`: everything published on behalf of a connection. -/
def clientRun (run : ClientRun) : List Message :=
  run.finish.2 ++ sendWillIfNeeded run.finish.1

end SceneHub.Broker
