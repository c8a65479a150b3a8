import SceneHub.Broker.ClientSession
import SceneHub.Ingest.Scan

/-!
# What Devices Report

`device_control_ingest`: the last report of each device is kept in a slot, and a result or
an event of a device is posted to the bus, built from its slot behind the lock.

A slot stays with its device, and what is in its arrays stays there until it is written
over. A copy that fails stops where it is.

Of the reports that are no results and no events, and of the fields of a result that
are not part of an event, nothing is kept here.

## Main definitions

* `Buffer`: An array of bytes that ends in a zero.
* `Slot`: What is known of a device.
* `applyResult`, `applyEvent`: Reading a payload into a slot.
* `controlEvent`: `dci_post_control_event`, up to the bus.
* `handleMqtt`: `device_control_ingest_handle_mqtt`.
-/

namespace SceneHub.Ingest

/-! ### Arrays of bytes -/

/-- An array of bytes whose last one is zero. -/
structure Buffer (size : Nat) where
  bytes : List Char
  length_eq : bytes.length = size
  last : bytes[size - 1]? = some '\x00'

namespace Buffer

variable {size : Nat}

theorem size_pos (b : Buffer size) : 0 < size := by
  rcases List.getElem?_eq_some_iff.1 b.last with ⟨hlt, -⟩
  have := b.length_eq
  omega

/-- The bytes in front of the first zero. -/
def text (b : Buffer size) : List Char := b.bytes.takeWhile (· ≠ '\x00')

/-- An array of zeros. -/
def zero (h : 0 < size) : Buffer size where
  bytes := List.replicate size '\x00'
  length_eq := List.length_replicate
  last := by
    rw [List.getElem?_replicate, if_pos (by omega)]

/-- Writing over the first bytes. -/
def overwrite (b : Buffer size) (w : List Char) (h : w.length < size) : Buffer size where
  bytes := w ++ b.bytes.drop w.length
  length_eq := by
    rw [List.length_append, List.length_drop, b.length_eq]
    omega
  last := by
    rw [List.getElem?_append_right (by omega), List.getElem?_drop]
    have hindex : w.length + (size - 1 - w.length) = size - 1 := by omega
    rw [hindex]
    exact b.last

/-- Writing a text with a zero behind it. -/
def store (b : Buffer size) (w : List Char) (h : w.length < size) : Buffer size where
  bytes := w ++ '\x00' :: b.bytes.drop (w.length + 1)
  length_eq := by
    rw [List.length_append, List.length_cons, List.length_drop, b.length_eq]
    omega
  last := by
    rw [List.getElem?_append_right (by omega)]
    by_cases hlast : size - 1 - w.length = 0
    · rw [hlast]
      rfl
    have hsucc : size - 1 - w.length = (size - 2 - w.length) + 1 := by omega
    rw [hsucc, List.getElem?_cons_succ, List.getElem?_drop]
    have hindex : w.length + 1 + (size - 2 - w.length) = size - 1 := by omega
    rw [hindex]
    exact b.last

/-- `buffer[0] = '\0'`. -/
def reset (b : Buffer size) : Buffer size := b.store [] b.size_pos

end Buffer

theorem copyString_length {size : Nat} (body written : List Char) (h : written.length < size) :
    (copyString size body written).2.length < size := by
  fun_induction copyString size body written with
  | case1 => exact h
  | case2 => exact h
  | case3 => exact h
  | case4 c rest written ch hch hroom ih | case8 c rest written hend hescape hroom ih =>
    refine ih ?_
    rw [List.length_append, List.length_singleton]
    omega
  | case5 => exact h
  | case6 c rest written hch hroom ih =>
    refine ih ?_
    rw [List.length_append]
    simp only [List.length_cons, List.length_nil]
    omega
  | case7 => exact h

/-- `dci_json_copy_string_field`, with what it returns left aside. -/
def copyStringField {size : Nat} (v : Value) (b : Buffer size) : Buffer size :=
  match v with
  | .raw _ => b
  | .string body =>
    have h : (copyString size body []).2.length < size := copyString_length body [] b.size_pos
    if (copyString size body []).1 then b.store (copyString size body []).2 h
    else b.overwrite (copyString size body []).2 h

/-! ### Slots -/

def requestIdMaxLen : Nat := 48

def commandMaxLen : Nat := 32

def resultStatusMaxLen : Nat := 16

theorem requestIdMaxLen_pos : 0 < requestIdMaxLen := by decide

theorem commandMaxLen_pos : 0 < commandMaxLen := by decide

/-- `DEVICE_CONTROL_INGEST_RESULT_DATA_JSON_MAX_LEN`. -/
def resultDataMaxLen : Nat := 2048

/-- `DEVICE_CONTROL_INGEST_CACHED_RESULT_DATA_JSON_MAX_LEN`. -/
def cachedDataMaxLen : Nat := 12800 + 256

/-- `DEVICE_CONTROL_INGEST_EVENT_ARGS_JSON_MAX_LEN`. -/
def eventArgsMaxLen : Nat := 512

def questIdMaxLen : Nat := 32

/-- `QUEST_PAYLOAD_MAX_LEN`, the size of the args in an event of the bus. -/
def questPayloadMaxLen : Nat := 160

/-- `quest_str_copy` into an array of `size` bytes. -/
def strCopy (size : Nat) (text : List Char) : List Char := text.take (size - 1)

/-- The fields of `device_control_ingest_device_t` that an event is made of. The arrays that are
    always written whole are texts. -/
structure Slot where
  deviceId : List Char
  lastSeenMs : Nat := 0
  hasResult : Bool := false
  requestId : Buffer requestIdMaxLen := .zero requestIdMaxLen_pos
  command : Buffer commandMaxLen := .zero commandMaxLen_pos
  status : List Char := []
  eventName : Buffer commandMaxLen := .zero commandMaxLen_pos
  eventArgs : List Char := []

/-- `scenehub_command_result_normalize`. -/
def normalize (status : List Char) : List Char :=
  if status = "ok".toList then "done".toList
  else if status = "error".toList then "failed".toList
  else status

/-! ### Results -/

/-- The loop of `dci_apply_result_text_locked`: the slot and the variables of the function. -/
structure ResultScan where
  slot : Slot
  status : Buffer resultStatusMaxLen := .zero (by decide)
  data : Option Value := none

/-- The body of the loop. -/
def ResultScan.pair (s : ResultScan) (p : List Char × Value) : ResultScan :=
  if p.1 = "request_id".toList then
    { s with slot := { s.slot with requestId := copyStringField p.2 s.slot.requestId } }
  else if p.1 = "command".toList then
    { s with slot := { s.slot with command := copyStringField p.2 s.slot.command } }
  else if p.1 = "status".toList then { s with status := copyStringField p.2 s.status }
  else if p.1 = "data".toList then { s with data := some p.2 }
  else s

/-- `dci_store_result_data_locked`. Whether there is memory is an input. -/
def storeResultData (memory : Bool) (slot : Slot) (v : Value) : EspErr :=
  if slot.deviceId = [] ∨ slot.requestId.text = [] ∨ v.text = [] then .invalidArg
  else if cachedDataMaxLen ≤ v.text.length then .invalidSize
  else if !memory then .noMem
  else .ok

/-- What `dci_apply_result_text_locked` does with the data. -/
def storeData (memory : Bool) (slot : Slot) : Option Value → EspErr
  | none => .ok
  | some v =>
    if v.text = [] then .ok
    else if slot.command.text = "describe_interface".toList then storeResultData memory slot v
    else if resultDataMaxLen < v.trimmed.length + 1 then .invalidArg
    else .ok

/-- `dci_apply_result_text_locked`. -/
def applyResult (memory : Bool) (slot : Slot) (text : List Char) : EspErr × Slot :=
  match objectBody text with
  | none => (.invalidArg, slot)
  | some body =>
    let read := readPairs (body.length + 1) body
    let s := read.1.foldl ResultScan.pair { slot := { slot with hasResult := true } }
    match read.2 with
    | .error err => (err, s.slot)
    | .ok rest =>
      if skipWs rest ≠ [] then (.invalidArg, s.slot)
      else
        let slot := { s.slot with status := strCopy resultStatusMaxLen (normalize s.status.text) }
        (storeData memory slot s.data, slot)

/-! ### Events -/

/-- The body of the loop of `dci_apply_event_text_locked`. -/
def Slot.eventPair (slot : Slot) (p : List Char × Value) : Slot :=
  if p.1 = "event".toList then { slot with eventName := copyStringField p.2 slot.eventName }
  else if p.1 = "args".toList then
    if eventArgsMaxLen < p.2.trimmed.length + 1 then slot
    else { slot with eventArgs := p.2.trimmed }
  else slot

/-- `dci_apply_event_text_locked`. -/
def applyEvent (slot : Slot) (text : List Char) : EspErr × Slot :=
  match objectBody text with
  | none => (.invalidArg, slot)
  | some body =>
    let read := readPairs (body.length + 1) body
    let slot := read.1.foldl Slot.eventPair
      { slot with eventName := slot.eventName.reset, eventArgs := [] }
    match read.2 with
    | .error err => (err, slot)
    | .ok rest =>
      if skipWs rest ≠ [] then (.invalidArg, slot)
      else if slot.eventName.text = [] then (.invalidArg, slot)
      else (.ok, slot)

/-! ### The bus -/

inductive Source where
  | event
  | result
  deriving DecidableEq, Repr

/-- A `SCENEHUB_EVENT_DEVICE_CONTROL`. -/
structure ControlEvent where
  deviceId : List Char
  actionId : List Char
  source : Source
  payload : List Char
  argsJson : List Char
  timestampMs : Nat
  deriving DecidableEq, Repr

def makeDeviceControl (slot : Slot) (actionId : List Char) (source : Source)
    (payload argsJson : List Char) : Option ControlEvent :=
  if slot.deviceId = [] ∨ actionId = [] then none
  else some
    { deviceId := strCopy 64 slot.deviceId
      actionId := strCopy 96 actionId
      source
      payload := strCopy 256 payload
      argsJson := strCopy questPayloadMaxLen argsJson
      timestampMs := slot.lastSeenMs }

/-- `dci_post_control_event` on the snapshot of a slot. -/
def controlEvent (slot : Slot) : Source → Option ControlEvent
  | .event =>
    if slot.eventName.text = [] then none
    else makeDeviceControl slot slot.eventName.text .event "event".toList slot.eventArgs
  | .result =>
    if !slot.hasResult then none
    else makeDeviceControl slot
      (if slot.requestId.text ≠ [] then slot.requestId.text else slot.command.text) .result
      slot.status []

/-! ### Messages -/

inductive Kind where
  | heartbeat
  | status
  | diag
  | result
  | event
  deriving DecidableEq, Repr

/-- The last level of the topic. -/
def parseKind (level : List Char) : Option Kind :=
  if level = "heartbeat".toList then some .heartbeat
  else if level = "status".toList then some .status
  else if level = "diag".toList then some .diag
  else if level = "result".toList then some .result
  else if level = "event".toList then some .event
  else none

def parseTopic (topic : List Char) : Option (List Char × Kind) :=
  if Broker.contractPrefix.isPrefixOf topic then
    let segment := topic.drop Broker.contractPrefix.length
    let deviceId := segment.takeWhile (· ≠ '/')
    if deviceId.length = segment.length then none
    else if deviceId.length = 0 ∨ questIdMaxLen ≤ deviceId.length then none
    else (parseKind (segment.drop (deviceId.length + 1))).map fun kind => (deviceId, kind)
  else none

/-- A message as the broker hands it over, up to the closing zeros. -/
structure Message where
  topic : List Char
  payload : List Char
  nowMs : Nat
  memory : Bool := true
  deriving DecidableEq, Repr

/-- The slots in use. -/
abbrev Slots := List Slot

/-- `dci_find_slot_locked`. -/
def find (slots : Slots) (deviceId : List Char) : Option Slot :=
  slots.find? fun slot => slot.deviceId = deviceId

/-- `dci_alloc_slot_locked`: the slot of a device, which may be a new one. -/
def alloc (slots : Slots) (deviceId : List Char) : Option Slot :=
  match find slots deviceId with
  | some slot => some slot
  | none =>
    if slots.length < Broker.questDeviceMaxDevices then some { deviceId } else none

/-- A slot is written back, or taken into use. -/
def save (slots : Slots) (slot : Slot) : Slots :=
  if (find slots slot.deviceId).isSome then
    slots.map fun other => if other.deviceId = slot.deviceId then slot else other
  else slots ++ [slot]

/-- The rest of a payload up to its closing zero. -/
def cText (payload : List Char) : List Char := payload.takeWhile (· ≠ '\x00')

/-- Reading a payload into a slot, and the control event that is posted. What is read of other
    reports is not kept here. -/
def applyMessage (msg : Message) (slot : Slot) : Kind → Slot × Option ControlEvent
  | .result =>
    let r := applyResult msg.memory slot (cText msg.payload)
    (r.2, if r.1 = .ok then controlEvent r.2 .result else none)
  | .event =>
    let r := applyEvent slot (cText msg.payload)
    (r.2, if r.1 = .ok then controlEvent r.2 .event else none)
  | _ => (slot, none)

/-- `device_control_ingest_handle_mqtt`: the slots behind it, and the control event that it
    posts. -/
def handleMqtt (slots : Slots) (msg : Message) : Slots × Option ControlEvent :=
  match parseTopic msg.topic with
  | none => (slots, none)
  | some (deviceId, kind) =>
    match alloc slots deviceId with
    | none => (slots, none)
    | some slot =>
      let r := applyMessage msg { slot with lastSeenMs := msg.nowMs } kind
      (save slots r.1, r.2)

/-- The slots behind a sequence of messages, with resets in between. -/
def runMessages (slots : Slots) (history : List (Option Message)) : Slots :=
  history.foldl (fun slots entry =>
    match entry with
    | none => []
    | some msg => (handleMqtt slots msg).1) slots

end SceneHub.Ingest
