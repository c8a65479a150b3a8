import SceneHub.Broker.Delivery

/-!
# A Client that Connects

`handle_connect` of `mqtt_core_protocol.c` among the other sessions, and what
`handle_client` of `mqtt_core_server.c` does when the client is refused.

The checks of `handle_connect` and what it does to sessions alternate: an older
session with the same client id is closed before the last will and the credentials
are read, and the last will is stored before the credentials are checked.

The session that connects is a new one. Whether another client takes its id over
before it is at its end is an input.

## Main definitions

* `Connecting`: The sessions when a new one reads its first packet.
* `Connecting.handleConnect`: `handle_connect`.
* `Connecting.finalMessages`: What is published when the session is at its end.
-/

namespace SceneHub.Broker

/-- The sessions that `find_session_by_client_id` and the count of clients look at. -/
def BrokerSession.live (sess : BrokerSession) : Bool :=
  sess.active && !sess.closing && !sess.retiring

def findSessionByClientId (sessions : List BrokerSession) (clientId : List Char) : Option Nat :=
  if clientId = [] then none
  else sessions.findIdx? fun sess => sess.live && sess.clientId = clientId

/-- The client ids that `mqtt_active_device_client_count_locked` counts. -/
def connectedIds (sessions : List BrokerSession) : List (List Char) :=
  (sessions.filter fun sess => sess.live && sess.clientId ≠ []).map BrokerSession.clientId

def activeDeviceClientCount (sessions : List BrokerSession) (exclude : Option (List Char)) : Nat :=
  ((connectedIds sessions).filter fun clientId =>
    exclude ≠ some clientId ∧ mqttIsDeviceContractClientId clientId).length

def deviceClientCapacityAvailable (sessions : List BrokerSession) (clientId : List Char)
    (replacement : Option Nat) : Bool :=
  !mqttIsDeviceContractClientId clientId ||
    activeDeviceClientCount sessions (replacement.map fun _ => clientId) < questDeviceMaxDevices

/-- An older session with the client id is closed, and its last will is not published. -/
def BrokerSession.evicted (sess : BrokerSession) : BrokerSession :=
  { sess with suppressWill := true }.prepareClose

/-- The sessions without an older one that has the client id. -/
def evictOld (sessions : List BrokerSession) (slot : Nat) : Option Nat → List BrokerSession
  | none => sessions
  | some old =>
    if old = slot then sessions
    else match sessions[old]? with
      | none => sessions
      | some sess => sessions.set old sess.evicted

/-- The last will of a CONNECT packet, as it is stored in the session, and the offset behind it
    if it can be read. -/
def readWill (buf : List UInt8) (flags : UInt8) (off : Nat) (will : Will) : Will × Option Nat :=
  if flags &&& 0x04 = 0 then (will, some off)
  else match parseUtf8Str buf off mqttMaxTopic with
    | none => (will, none)
    | some (topic, off) =>
      match parseUtf8Str buf off mqttMaxPacket with
      | none => ({ will with topic }, none)
      | some (payload, off) =>
        ({ has := true
           topic
           payload
           qos := ((flags >>> 3) &&& 0x03).toNat
           retain := flags &&& 0x20 ≠ 0 }, some off)

/-- What `handle_connect` answers behind the last will. -/
def checkCredentials (users : List MqttUser) (head : ConnectHead) (buf : List UInt8) (off : Nat) :
    Connack :=
  match parseFlagged buf head.flags 0x80 off with
  | none => .badUsernamePassword
  | some (username, off) =>
    match parseFlagged buf head.flags 0x40 off with
    | none => .badUsernamePassword
    | some (password, _) =>
      if mqttAuthenticateClient users head.clientId username password then .accepted
      else .notAuthorized

/-- The sessions when a new one has read its first packet. -/
structure Connecting where
  sessions : List BrokerSession
  slot : Nat
  sock : Socket
  fresh : sessions[slot]? = some { sock := some sock, active := true }

/-- `handle_connect`: what it answers, and the sessions behind it. -/
def Connecting.handleConnect (c : Connecting) (users : List MqttUser) (buf : List UInt8) :
    Connack × List BrokerSession :=
  match parseConnectHead buf with
  | none => (.identifierRejected, c.sessions)
  | some head =>
    if head.level ≠ 4 then (.identifierRejected, c.sessions)
    else
      let old := findSessionByClientId c.sessions head.clientId
      if !deviceClientCapacityAvailable c.sessions head.clientId old then
        (.serverUnavailable, c.sessions)
      else
        let sessions := evictOld c.sessions c.slot old
        let read := readWill buf head.flags head.rest {}
        let sess : BrokerSession :=
          { sock := some c.sock, active := true, clientId := head.clientId
            keepalive := head.keepalive, will := read.1 }
        (match read.2 with
          | none => .identifierRejected
          | some off => checkCredentials users head buf off, sessions.set c.slot sess)

/-- The last will of a session, if it is going to be published. -/
def BrokerSession.finalWill (sess : BrokerSession) : Option Message :=
  if sess.will.has && !sess.suppressWill then
    some { topic := sess.will.topic, payload := sess.will.payload, qos := sess.will.qos
           retain := sess.will.retain }
  else none

/-- `send_will_if_needed` of the session that connected, among the sessions behind
    `handle_connect`. -/
def Connecting.finalMessages (c : Connecting) (sessions : List BrokerSession) (takenOver : Bool) :
    List Message :=
  match sessions[c.slot]? with
  | none => []
  | some sess =>
    ({ sess with suppressWill := sess.suppressWill || takenOver }.finalWill).toList

end SceneHub.Broker
