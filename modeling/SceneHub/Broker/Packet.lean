import Mathlib.Tactic.Ring
import SceneHub.Broker.ClientSession

/-!
# Packets of the Broker

The packets that the broker writes, byte by byte: the functions of
`mqtt_core_packet.c` that build them. A publish with QoS 0 is written in pieces, one
call after the other, and a publish with QoS 1 is built as a whole, to be written
again if need be. A third function builds either as a whole.

## Main definitions

* `encodeRemainingLength`, `readRemainingLength`: The length of a packet.
* `publishPieces`, `sendPublishPacket`, `buildQos1PublishPacket`: The ways to write a publish.
-/

namespace SceneHub.Broker

/-! ### The remaining length -/

/-- The loop of `encode_remaining_length`, with the bytes that it still may write. -/
def encodeLength : (room n : Nat) → List UInt8
  | 0, _ => []
  | room + 1, n =>
    if 0 < n / 128 then (UInt8.ofNat (n % 128) ||| 0x80) :: encodeLength room (n / 128)
    else [UInt8.ofNat (n % 128)]

def encodeRemainingLength (n : Nat) : List UInt8 := encodeLength 4 n

/-- The loop of `read_remaining_length`: the length, and the bytes behind it. -/
def readLength (multiplier value : Nat) : List UInt8 → Option (Nat × List UInt8)
  | [] => none
  | encoded :: rest =>
    let value := value + (encoded &&& 127).toNat * multiplier
    let multiplier := multiplier * 128
    if 128 * 128 * 128 < multiplier then none
    else if encoded &&& 128 ≠ 0 then readLength multiplier value rest
    else some (value, rest)

def readRemainingLength (bytes : List UInt8) : Option (Nat × List UInt8) := readLength 1 0 bytes

/-! ### What the broker writes -/

/-- The bytes of a C string. -/
def bytesOf (text : List Char) : List UInt8 := text.map fun c => UInt8.ofNat c.toNat

/-- A number in two bytes. -/
def twoBytes (n : Nat) : List UInt8 := [UInt8.ofNat (n / 256), UInt8.ofNat (n % 256)]

def retainBit (retain : Bool) : UInt8 := if retain then 0x01 else 0x00

/-- `send_connack`. -/
def connackPacket (rc : UInt8) : List UInt8 := [0x20, 0x02, 0x00, rc]

/-- `send_suback`. -/
def subackPacket (pid : UInt16) (qos : List UInt8) : Option (List UInt8) :=
  if mqttMaxSubs < qos.length then none
  else some (0x90 :: (encodeRemainingLength (2 + qos.length) ++ (twoBytes pid.toNat ++ qos)))

/-- `send_puback`. -/
def pubackPacket (pid : UInt16) : List UInt8 := 0x40 :: 0x02 :: twoBytes pid.toNat

/-- `send_unsuback`. -/
def unsubackPacket (pid : UInt16) : List UInt8 := 0xB0 :: 0x02 :: twoBytes pid.toNat

/-- `send_pingresp`. -/
def pingrespPacket : List UInt8 := [0xD0, 0x00]

/-- A piece that is written only if there is something in it. -/
def pieceOf (bytes : List UInt8) : List (List UInt8) := if bytes = [] then [] else [bytes]

/-- The packet id, which only a publish with a QoS has. -/
def pidBytes (qos : Nat) (pid : UInt16) : List UInt8 := if qos = 0 then [] else twoBytes pid.toNat

/-- `send_publish_packet_to_sock`: what it writes, one piece after the other, if the
    packet is not too long. -/
def publishPieces (topic payload : List UInt8) (qos : Nat) (retain : Bool) (pid : UInt16) :
    Option (List (List UInt8)) :=
  let remLen := 2 + topic.length + payload.length + (pidBytes qos pid).length
  if 65535 < topic.length ∨ mqttMaxPacket < remLen then none
  else
    let header := 0x30 ||| UInt8.ofNat (qos * 2) ||| retainBit retain
    let fixed := header :: (encodeRemainingLength remLen ++ twoBytes topic.length)
    some (fixed :: (pieceOf topic ++ (pieceOf (pidBytes qos pid) ++ pieceOf payload)))

/-- `send_publish_packet`: the packet that is written as a whole. -/
def sendPublishPacket (topic payload : List UInt8) (qos : Nat) (retain : Bool) (pid : UInt16) :
    Option (List UInt8) :=
  let remLen := 2 + topic.length + payload.length + (pidBytes qos pid).length
  let header := 0x30 ||| UInt8.ofNat (qos * 2) ||| retainBit retain
  let totalLen := 1 + (encodeRemainingLength remLen).length + remLen
  if 65535 < topic.length ∨ mqttMaxPacket < remLen ∨ mqttMaxPacket < totalLen then none
  else some (header :: (encodeRemainingLength remLen ++
    (twoBytes topic.length ++ (topic ++ (pidBytes qos pid ++ payload)))))

def buildQos1PublishPacket (topic payload : List UInt8) (retain : Bool) (pid : UInt16) :
    Option (List UInt8) :=
  let remLen := 2 + topic.length + 2 + payload.length
  let totalLen := 1 + (encodeRemainingLength remLen).length + remLen
  if pid = 0 ∨ 65535 < topic.length ∨ mqttMaxPacket < remLen ∨ mqttMaxPacket < totalLen then none
  else some ((0x32 ||| retainBit retain) :: (encodeRemainingLength remLen ++
    (twoBytes topic.length ++ (topic ++ (twoBytes pid.toNat ++ payload)))))

/-- A packet that is written again, with the DUP flag. -/
def markDup : List UInt8 → List UInt8
  | [] => []
  | header :: rest => (header ||| 0x08) :: rest

end SceneHub.Broker
