import Mathlib.Data.List.TakeWhile
import SceneHub.Theory.QosDelivery

/-!
# The Bytes of a Publish

A publish that comes in is taken apart, and what is sent to a subscriber is put together
from its topic and its payload. Both are C strings in between: a subscriber gets them up to
their first zero byte, which is all of them if there is none.

## Main definitions

* `decodePublish`: The parts of a publish, as `handle_publish` takes it apart.
* `decodePacket`: The parts of a packet on the wire.
* `Transparent`: Every subscriber gets what came in.

## Theorems

* `readRemainingLength_encode`: The length is read as it was written.
* `sendPublishPacket_eq`, `buildQos1PublishPacket_eq`: The ways to write a publish agree.
* `publish_transparent`: What a subscriber gets of a publish, at first and again.
-/

namespace SceneHub.Broker

/-! ### The remaining length -/

/-- The two parts of a byte of the length. -/
theorem lengthByte {m : Nat} (h : m < 128) :
    ((UInt8.ofNat m ||| 0x80) &&& 127).toNat = m ∧ (UInt8.ofNat m ||| 0x80) &&& 128 ≠ 0 ∧
      (UInt8.ofNat m &&& 127).toNat = m ∧ UInt8.ofNat m &&& 128 = 0 := by
  revert m
  decide

theorem multiplier_le {k : Nat} (hk : k < 3) : ¬128 * 128 * 128 < 128 ^ k * 128 := by
  have hpow : 128 ^ k ≤ 128 ^ 2 := Nat.pow_le_pow_right (by omega) (by omega)
  omega

/-- The last byte of a length. -/
theorem readLength_last (rest : List UInt8) {room k value n : Nat} (hn : n < 128) (hk : k < 3) :
    readLength (128 ^ k) value (encodeLength (room + 1) n ++ rest) =
      some (value + n * 128 ^ k, rest) := by
  rcases lengthByte hn with ⟨-, -, hvalue, hflag⟩
  rw [encodeLength, if_neg (by omega), Nat.mod_eq_of_lt hn, List.singleton_append, readLength]
  simp only [hvalue, hflag, multiplier_le hk, if_false, ne_eq, not_true]

/-- The induction is over the digits that are left. -/
theorem readLength_encodeLength (rest : List UInt8) (digits : Nat) :
    ∀ room k value n, digits < room → n < 128 ^ (digits + 1) → k + digits < 3 →
      readLength (128 ^ k) value (encodeLength room n ++ rest) =
        some (value + n * 128 ^ k, rest) := by
  induction digits with
  | zero =>
    intro room k value n hroom hn hk
    obtain ⟨room, rfl⟩ : ∃ r, room = r + 1 := ⟨room - 1, by omega⟩
    exact readLength_last rest hn hk
  | succ digits ih =>
    intro room k value n hroom hn hk
    obtain ⟨room, rfl⟩ : ∃ r, room = r + 1 := ⟨room - 1, by omega⟩
    by_cases hmore : 0 < n / 128
    · rcases lengthByte (Nat.mod_lt n (by decide)) with ⟨hvalue, hflag, -, -⟩
      have hrest := ih room (k + 1) (value + n % 128 * 128 ^ k) (n / 128) (by omega)
        (by rw [Nat.pow_succ] at hn; omega) (by omega)
      have hsum : value + n % 128 * 128 ^ k + n / 128 * 128 ^ (k + 1) = value + n * 128 ^ k :=
        calc value + n % 128 * 128 ^ k + n / 128 * 128 ^ (k + 1)
            = value + (n % 128 + 128 * (n / 128)) * 128 ^ k := by ring
          _ = value + n * 128 ^ k := by rw [Nat.mod_add_div]
      rw [encodeLength, if_pos hmore, List.cons_append, readLength]
      simp only [hvalue, multiplier_le (show k < 3 by omega), if_false, if_pos hflag]
      rw [← Nat.pow_succ, hrest, hsum]
    · exact readLength_last rest (by omega) (by omega)

theorem readRemainingLength_encode {n : Nat} (hn : n ≤ mqttMaxPacket) (rest : List UInt8) :
    readRemainingLength (encodeRemainingLength n ++ rest) = some (n, rest) := by
  have hmax : mqttMaxPacket = 14336 := rfl
  have hread := readLength_encodeLength rest 2 4 0 0 n (by omega) (by omega) (by omega)
  rwa [Nat.pow_zero, Nat.zero_add, Nat.mul_one] at hread

/-! ### Encoders -/

variable {topic payload : List UInt8}

theorem pieceOf_flatten (bytes : List UInt8) : (pieceOf bytes).flatten = bytes := by
  unfold pieceOf
  split_ifs with hempty
  · rw [hempty]
    rfl
  · exact List.append_nil bytes

/-- The length of a publish behind its fixed header. -/
def remainingLength (topic payload : List UInt8) (qos : Nat) (pid : UInt16) : Nat :=
  2 + topic.length + payload.length + (pidBytes qos pid).length

/-- A publish on the wire. -/
def publishPacket (topic payload : List UInt8) (qos : Nat) (retain : Bool) (pid : UInt16) :
    List UInt8 :=
  (0x30 ||| UInt8.ofNat (qos * 2) ||| retainBit retain) ::
    (encodeRemainingLength (remainingLength topic payload qos pid) ++
      (twoBytes topic.length ++ (topic ++ (pidBytes qos pid ++ payload))))

variable (topic payload : List UInt8) (qos : Nat) (retain : Bool) (pid : UInt16)

theorem publishPieces_flatten : (publishPieces topic payload qos retain pid).map List.flatten =
      if 65535 < topic.length ∨ mqttMaxPacket < remainingLength topic payload qos pid then none
      else some (publishPacket topic payload qos retain pid) := by
  unfold publishPieces remainingLength
  dsimp only
  split_ifs with hlong
  · rfl
  · simp [publishPacket, pieceOf_flatten, remainingLength]

theorem publishPacket_length : (publishPacket topic payload qos retain pid).length =
    1 + (encodeRemainingLength (remainingLength topic payload qos pid)).length +
      remainingLength topic payload qos pid := by
  simp only [publishPacket, remainingLength, twoBytes, List.length_append, List.length_cons,
    List.length_nil]
  omega

/-- The packet that is written as a whole is the one that is written in pieces, up to the
    size of the buffer. -/
theorem sendPublishPacket_eq : sendPublishPacket topic payload qos retain pid =
    ((publishPieces topic payload qos retain pid).map List.flatten).filter
      fun packet => packet.length ≤ mqttMaxPacket := by
  have hlength := publishPacket_length topic payload qos retain pid
  rw [publishPieces_flatten]
  change (if 65535 < topic.length ∨ mqttMaxPacket < remainingLength topic payload qos pid ∨
    mqttMaxPacket < 1 + (encodeRemainingLength (remainingLength topic payload qos pid)).length +
      remainingLength topic payload qos pid then none
    else some (publishPacket topic payload qos retain pid)) = _
  rw [← hlength]
  by_cases hlong : 65535 < topic.length ∨ mqttMaxPacket < remainingLength topic payload qos pid
  · rw [if_pos hlong, if_pos (or_assoc.1 (.inl hlong))]
    rfl
  rw [if_neg hlong, Option.filter_some]
  by_cases htotal : mqttMaxPacket < (publishPacket topic payload qos retain pid).length
  · rw [if_pos (.inr (.inr htotal)), if_neg (by simpa using htotal)]
  · rw [if_neg (by tauto), if_pos (by simpa using htotal)]

theorem buildQos1PublishPacket_eq (hpid : pid ≠ 0) :
    buildQos1PublishPacket topic payload retain pid =
      sendPublishPacket topic payload 1 retain pid := by
  have hlength : 2 + topic.length + 2 + payload.length =
      2 + topic.length + payload.length + (pidBytes 1 pid).length := by
    have hbytes : (pidBytes 1 pid).length = 2 := rfl
    omega
  unfold buildQos1PublishPacket sendPublishPacket
  simp only [hpid, false_or, hlength]
  rfl

/-! ### Decoding -/

structure PublishParts where
  topic : List UInt8
  payload : List UInt8
  pid : Option Nat
  deriving DecidableEq, Repr

/-- The parts of a publish behind its fixed header, as `handle_publish` reads them. -/
def decodePublish (header : UInt8) : List UInt8 → Option PublishParts
  | hi :: lo :: rest =>
    if rest.length < be16 hi lo ∨ mqttMaxTopic ≤ be16 hi lo then none
    else
      let topic := rest.take (be16 hi lo)
      let rest := rest.drop (be16 hi lo)
      let qos := ((header >>> 1) &&& 0x03).toNat
      let pid := match rest with
        | hi :: lo :: _ => be16 hi lo
        | _ => 0
      let payload := if qos = 0 then rest else rest.drop 2
      if qos ≠ 0 ∧ rest.length < 2 then none
      else if 1 < qos then none
      else if qos = 1 ∧ pid = 0 then none
      else if mqttMaxPacket ≤ payload.length then none
      else some ⟨topic, payload, if qos = 0 then none else some pid⟩
  | _ => none

/-- The parts of a packet with exactly as many bytes as it says. -/
def decodePacket : List UInt8 → Option PublishParts
  | [] => none
  | header :: bytes =>
    match readRemainingLength bytes with
    | none => none
    | some (length, body) => if body.length = length then decodePublish header body else none

/-- What is left of bytes in a C string. -/
def upToZero (bytes : List UInt8) : List UInt8 := bytes.takeWhile (· ≠ 0)

theorem ofNat_toNat_char (byte : UInt8) : UInt8.ofNat (Char.ofNat byte.toNat).toNat = byte := by
  have hlt := byte.toNat_lt
  have hvalid : byte.toNat.isValidChar := .inl (by omega)
  rw [Char.ofNat, dif_pos hvalid]
  exact UInt8.ofNat_toNat

theorem bytesOf_cString (bytes : List UInt8) : bytesOf (cString bytes) = upToZero bytes := by
  unfold bytesOf cString upToZero
  rw [List.map_map]
  exact List.map_id'' ofNat_toNat_char _

theorem handlePublish_parts {sess : ClientSession} {header : UInt8} {body : List UInt8}
    {sends : Bool} {message : Message}
    (h : handlePublish sess header body sends = (true, some message)) :
    ∃ parts, decodePublish header body = some parts ∧ message.topic = cString parts.topic ∧
      message.payload = cString parts.payload ∧ parts.topic.length < mqttMaxTopic := by
  unfold handlePublish at h
  split at h
  · next hi lo rest =>
      dsimp only at h
      generalize hbody : (if (header >>> 1 &&& 3).toNat = 0 then _ else _) = payload at h
      split_ifs at h with hlong hshort hqos hpid hacl hlarge hsends
      all_goals cases h
      subst hbody
      have htopic : (rest.take (be16 hi lo)).length < mqttMaxTopic := by
        rw [List.length_take]
        omega
      exact ⟨_, (if_neg hlong).trans ((if_neg hshort).trans ((if_neg hqos).trans
        ((if_neg hpid).trans (if_neg hlarge)))), rfl, rfl, htopic⟩
  · cases h

/-- The DUP flag is no part of what a publish says. -/
theorem header_dup (header : UInt8) :
    ((header ||| 0x08) >>> 1) &&& (0x03 : UInt8) = (header >>> 1) &&& 0x03 := by
  cases header with
  | ofBitVec bits =>
    cases bits with
    | ofFin n =>
      revert n
      decide +kernel

theorem decodePacket_markDup (packet : List UInt8) :
    decodePacket (markDup packet) = decodePacket packet := by
  have hpublish : ∀ header body,
      decodePublish (header ||| 0x08) body = decodePublish header body := by
    intro header body
    unfold decodePublish
    simp only [header_dup]
  cases packet with
  | nil => rfl
  | cons header bytes =>
    unfold markDup decodePacket
    simp only [hpublish]

theorem be16_twoBytes {n : Nat} (h : n < 65536) :
    be16 (UInt8.ofNat (n / 256)) (UInt8.ofNat (n % 256)) = n := by
  simp [be16]
  omega

theorem header_qos {qos : Nat} (h : qos ≤ 1) (retain : Bool) :
    (((0x30 ||| UInt8.ofNat (qos * 2) ||| retainBit retain) >>> 1) &&& 0x03).toNat = qos := by
  revert qos retain
  decide

theorem decodePacket_publish {topic payload : List UInt8} {qos : Nat} {retain : Bool}
    {pid : UInt16} (hqos : qos = 0 ∨ qos = 1 ∧ pid ≠ 0) (htopic : topic.length < mqttMaxTopic)
    (hfits : remainingLength topic payload qos pid ≤ mqttMaxPacket) :
    decodePacket (publishPacket topic payload qos retain pid) =
      some ⟨topic, payload, if qos = 0 then none else some pid.toNat⟩ := by
  have hlength : (twoBytes topic.length ++ (topic ++ (pidBytes qos pid ++ payload))).length =
      remainingLength topic payload qos pid := by
    simp only [remainingLength, twoBytes, List.length_append, List.length_cons, List.length_nil]
    omega
  have hmax : mqttMaxTopic = 96 := rfl
  have htwo := be16_twoBytes (n := topic.length) (by omega)
  unfold publishPacket decodePacket
  dsimp only
  rw [readRemainingLength_encode hfits]
  dsimp only
  rw [if_pos hlength]
  have hrest : (topic ++ (pidBytes qos pid ++ payload)).drop topic.length =
      pidBytes qos pid ++ payload := List.drop_left
  have htake : (topic ++ (pidBytes qos pid ++ payload)).take topic.length = topic :=
    List.take_left
  have hshort : ¬(topic ++ (pidBytes qos pid ++ payload)).length < topic.length := by simp
  have hheader := header_qos (show qos ≤ 1 by omega) retain
  unfold decodePublish
  simp only [twoBytes, List.cons_append, List.nil_append, htwo, hrest, htake, hshort, hheader,
    show ¬mqttMaxTopic ≤ topic.length by omega, or_self, if_false]
  have hsize : payload.length < mqttMaxPacket := by
    unfold remainingLength at hfits
    omega
  rcases hqos with rfl | ⟨rfl, hpid⟩
  · simp [pidBytes, Nat.not_le.2 hsize]
  have hbytes := be16_twoBytes pid.toNat_lt
  have hnonzero : pid.toNat ≠ 0 := fun hzero => hpid (UInt16.toNat_inj.1 hzero)
  simp [pidBytes, twoBytes, hbytes, hnonzero, Nat.not_le.2 hsize]

/-! ### What a subscriber gets -/

/-- The packet of a target as it is written. -/
def Target.wire (target : Target) : Option (List UInt8) :=
  if target.qos = 1 then target.packet else target.pieces.map List.flatten

/-- A packet of a target is one of the publishes that can be taken apart. -/
theorem Target.wire_eq {target : Target} {packet : List UInt8}
    (hqos : target.qos = 0 ∨ target.qos = 1 ∧ target.pid ≠ 0) (h : target.wire = some packet) :
    packet = publishPacket (bytesOf target.message.topic) (bytesOf target.message.payload)
        target.qos target.message.retain target.pid ∧
      remainingLength (bytesOf target.message.topic) (bytesOf target.message.payload) target.qos
        target.pid ≤ mqttMaxPacket := by
  have hpieces : (publishPieces (bytesOf target.message.topic) (bytesOf target.message.payload)
      target.qos target.message.retain target.pid).map List.flatten = some packet := by
    unfold Target.wire at h
    rcases hqos with hzero | ⟨hone, hpid⟩
    · rwa [if_neg (by omega)] at h
    rw [if_pos hone, Target.packet, buildQos1PublishPacket_eq _ _ _ _ hpid,
      sendPublishPacket_eq, Option.filter_eq_some_iff] at h
    rw [hone]
    exact h.1
  rw [publishPieces_flatten] at hpieces
  split_ifs at hpieces with hlong
  exact ⟨(Option.some.inj hpieces).symm, by omega⟩

theorem upToZero_eq_iff (bytes : List UInt8) : upToZero bytes = bytes ↔ 0 ∉ bytes := by
  unfold upToZero
  rw [List.takeWhile_eq_self_iff]
  simp only [decide_eq_true_eq]
  exact ⟨fun h hmem => h 0 hmem rfl, fun h byte hmem heq => h (heq ▸ hmem)⟩

/-- What `publish_to_subscribers` sends of a publish has the parts that came in. -/
def Transparent (view : List UInt8 → List UInt8) : Prop :=
  ∀ (s : Delivery) (n : Nat) (exclude : Option Nat) (sess : ClientSession) (header : UInt8)
    (body : List UInt8) (sends : Bool) (message : Message),
    handlePublish sess header body sends = (true, some message) →
    ∃ parts, decodePublish header body = some parts ∧
      ∀ target ∈ (s.distribute n message exclude).2, ∀ packet, target.wire = some packet →
        ∀ written ∈ [packet, markDup packet],
          decodePacket written = some ⟨view parts.topic, view parts.payload,
            if target.qos = 1 then some target.pid.toNat else none⟩

theorem transparent_upToZero : Transparent upToZero := by
  intro s n exclude sess header body sends message h
  rcases handlePublish_parts h with ⟨parts, hparts, htopic, hpayload, hlength⟩
  refine ⟨parts, hparts, fun target hmem packet hwire written hwritten => ?_⟩
  rcases mem_publishTargets s.sessions 0 s.packetId hmem with ⟨⟨-, hmessage, hqos⟩, -⟩
  rcases Target.wire_eq hqos hwire with ⟨rfl, hfits⟩
  have hshort : (upToZero parts.topic).length < mqttMaxTopic :=
    Nat.lt_of_le_of_lt (List.takeWhile_sublist _).length_le hlength
  have hdecode : decodePacket written = decodePacket (publishPacket (bytesOf target.message.topic)
      (bytesOf target.message.payload) target.qos target.message.retain target.pid) := by
    rcases List.mem_pair.1 hwritten with rfl | rfl
    · rfl
    · exact decodePacket_markDup _
  rw [hmessage, htopic, hpayload, bytesOf_cString, bytesOf_cString] at hdecode hfits
  rw [hdecode, decodePacket_publish hqos hshort hfits]
  rcases hqos with hzero | ⟨hone, -⟩
  · rw [hzero, if_pos rfl, if_neg Nat.zero_ne_one]
  · rw [hone, if_neg Nat.one_ne_zero, if_pos rfl]

/-- A subscriber gets the topic and the payload up to their first zero byte, and a packet id
    with QoS 1. The ways to write a publish agree, and a length is read as it was written. -/
theorem publish_transparent : Transparent upToZero ∧ (∀ bytes, upToZero bytes = bytes ↔ 0 ∉ bytes) ∧
      (∀ topic payload qos retain pid, sendPublishPacket topic payload qos retain pid =
        ((publishPieces topic payload qos retain pid).map List.flatten).filter
          fun packet => packet.length ≤ mqttMaxPacket) ∧
      (∀ topic payload retain pid, pid ≠ 0 → buildQos1PublishPacket topic payload retain pid =
        sendPublishPacket topic payload 1 retain pid) ∧
      ∀ n ≤ mqttMaxPacket, ∀ rest,
        readRemainingLength (encodeRemainingLength n ++ rest) = some (n, rest) :=
  ⟨transparent_upToZero, upToZero_eq_iff, sendPublishPacket_eq,
    fun topic payload retain pid => buildQos1PublishPacket_eq topic payload retain pid,
    fun _ hn => readRemainingLength_encode hn⟩

/-- A payload with a zero byte is cut there. -/
theorem not_transparent : ¬Transparent id := by
  intro h
  rcases h { sessions := [{ sock := some ⟨3, 0⟩, active := true
                            subs := { entries := [("web/+".toList, 0)] } }] } 0 none
      { clientId := "webui".toList } 0x30 [0, 5, 119, 101, 98, 47, 97, 65, 0, 66] true
      ⟨"web/a".toList, ['A'], 0, false⟩ (by decide) with ⟨parts, hparts, hall⟩
  have hread : decodePublish 0x30 [0, 5, 119, 101, 98, 47, 97, 65, 0, 66] =
      some ⟨[119, 101, 98, 47, 97], [65, 0, 66], none⟩ := by decide +kernel
  rw [← Option.some.inj (hread.symm.trans hparts)] at hall
  have hpacket := hall ⟨0, ⟨3, 0⟩, 0, 0, ⟨"web/a".toList, ['A'], 0, false⟩, some 0⟩ (by decide)
    [0x30, 8, 0, 5, 119, 101, 98, 47, 97, 65] (by decide) _ List.mem_cons_self
  have hwritten : decodePacket [0x30, 8, 0, 5, 119, 101, 98, 47, 97, 65] =
      some ⟨[119, 101, 98, 47, 97], [65], none⟩ := by decide +kernel
  rw [hwritten] at hpacket
  exact absurd hpacket (by decide)

end SceneHub.Broker
