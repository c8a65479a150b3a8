import SceneHub.Lib.Ring
import SceneHub.Node.MqttMessage
import SceneHub.Node.RuleStore

/-!
# The MQTT Command Path

How the node answers the commands it is sent over MQTT: `node_mqtt_command.c`,
`node_mqtt_duplicate.c`, and the event handler and the command task of
`node_mqtt_transport.c`.

The event handler parses a message and puts it into the queue of control or of
admin commands, or a refusal into the queue of deferred results. The command
task empties the deferred results, then takes an admin command, and without one
a control command. Messages can arrive between any two of these, and nothing
below depends on which of the queues comes first, so each is a step of its own.

What the parts around the path do is an input: how a submit to the control task
ends, what the admin control reports, whether memory is found and whether a
message is published. An answer is what is handed to the publisher.

## Main definitions

* `MqttState`: The queues, the duplicate cache and the result buffers.
* `SubmitOutcome`: How `node_control_submit` ends.
* `processCommandMessage`, `processAdminCommandMessage`: Handling a message.
* `mqttStep`, `mqttRun`: A step, and the steps of a run with what happened.
-/

namespace SceneHub.Node

/-! ### Results -/

def controlDataJsonMaxLen : Nat := 12288 + 256

structure ControlResult where
  status : String := ""
  errorCode : String := ""
  dataJson : String := ""
  deriving DecidableEq, Repr

/-- The status and the error fit the arrays that hold them. -/
structure ControlResult.Fits (result : ControlResult) : Prop where
  status : result.status.length < 16
  errorCode : result.errorCode.length < 32

instance (result : ControlResult) : Decidable result.Fits :=
  decidable_of_iff (result.status.length < 16 ∧ result.errorCode.length < 32)
    ⟨fun h => ⟨h.1, h.2⟩, fun h => ⟨h.1, h.2⟩⟩

def clearResult (_ : ControlResult) : ControlResult := {}

def resultDoneLocal (result : ControlResult) : ControlResult :=
  { result with status := "done", errorCode := "" }

def resultFailedLocal (result : ControlResult) (code : String) : ControlResult :=
  { result with status := "failed", errorCode := cutText 32 code }

def resultRejectedLocal (result : ControlResult) (code : String) : ControlResult :=
  { result with status := "rejected", errorCode := cutText 32 code }

/-! ### Admin commands -/

/-- `json_append` to the data of a result. A text that does not fit is cut. -/
def jsonAppend (result : ControlResult) (text : String) : Bool × ControlResult :=
  ((result.dataJson ++ text).length < controlDataJsonMaxLen,
    { result with dataJson := cutText controlDataJsonMaxLen (result.dataJson ++ text) })

/-- Append one text after the other, as long as they fit, and close the result. -/
def jsonAppendAll (result : ControlResult) : List String → ControlResult
  | [] => resultDoneLocal result
  | text :: texts =>
    let appended := jsonAppend result text
    if appended.1 then jsonAppendAll appended.2 texts
    else resultFailedLocal appended.2 "internal_error"

def boolText (value : Bool) : String := if value then "true" else "false"

def metadataJson (metadata : RuleBundleMetadata) : String :=
  "\"metadata\":\x7b\"has_bundle\":" ++ boolText metadata.hasBundle
    ++ ",\"version\":" ++ toString metadata.version.toNat
    ++ ",\"generation\":" ++ toString metadata.generation.toNat
    ++ ",\"bundle_id\":\"" ++ metadata.bundleId
    ++ "\",\"mode\":\"" ++ metadata.mode
    ++ "\",\"raw_size\":" ++ toString metadata.rawSize ++ "\x7d"

def buildMetadataOnlyResult (result : ControlResult) (metadata : RuleBundleMetadata)
    (restartRequired : Bool) : ControlResult :=
  jsonAppendAll (clearResult result)
    ["\x7b", metadataJson metadata, ",\"restart_required\":" ++ boolText restartRequired ++ "\x7d"]

/-- The bytes of a stored bundle up to the first that is zero. -/
def rawText (rawJson : List UInt8) : String :=
  .ofList ((rawJson.takeWhile (· ≠ 0)).map fun byte => Char.ofNat byte.toNat)

/-- `build_get_rules_result`. The snapshot says whether the rules are paused, if
    it can be taken. -/
def buildGetRulesResult (result : ControlResult) (entry : RuleStoreEntry)
    (snapshot : Option Bool) : ControlResult :=
  let result := clearResult result
  match snapshot with
  | none => resultFailedLocal result "internal_error"
  | some paused =>
    let bundle :=
      if entry.metadata.hasBundle ∧ rawText entry.rawJson ≠ "" then rawText entry.rawJson
      else "null"
    jsonAppendAll result ["\x7b", metadataJson entry.metadata,
      ",\"paused\":" ++ boolText paused ++ ",\"bundle\":", bundle, "\x7d"]

/-- `build_pause_result`, `build_restart_result` and `build_reinit_result`: one
    short text. -/
def buildTextResult (result : ControlResult) (text : String) : ControlResult :=
  resultDoneLocal { clearResult result with dataJson := text }

def mapAdminError (result : ControlResult) (err : EspErr) (errorCode : String) : ControlResult :=
  let code := if errorCode ≠ "" then errorCode else "internal_error"
  let result := clearResult result
  let names (text : String) : Bool := (strstr text.toList code.toList).isSome
  if err = .invalidArg ∨ err = .notSupported then resultRejectedLocal result code
  else if startsWith code "invalid_" || names "_not_supported" || names "missing_" ||
      names "unknown_" || names "too_many_" || names "exceeds_" then
    resultRejectedLocal result code
  else resultFailedLocal result code

/-- What a call of the admin control, and taking a snapshot, give back. -/
structure AdminReply where
  err : EspErr := .ok
  errorCode : String := ""
  metadata : RuleBundleMetadata := {}
  entry : RuleStoreEntry := {}
  snapshot : Option Bool := none

/-- `process_rule_admin_validate` and `process_rule_admin_apply`. -/
def processRuleAdminBundle (message : CommandMessage) (reply : AdminReply)
    (restartRequired : Bool) (result : ControlResult) : ControlResult :=
  if ruleBundleMqttMaxLen < message.argsJson.length then
    resultRejectedLocal result "bundle_too_large_for_mqtt_admin"
  else if reply.err ≠ .ok then mapAdminError result reply.err reply.errorCode
  else buildMetadataOnlyResult result reply.metadata restartRequired

def processRuleAdminGet (reply : AdminReply) (result : ControlResult) : ControlResult :=
  if reply.err ≠ .ok then mapAdminError result reply.err "internal_error"
  else if ruleBundleMqttMaxLen < reply.entry.metadata.rawSize then
    resultRejectedLocal result "bundle_too_large_for_mqtt_admin"
  else buildGetRulesResult result reply.entry reply.snapshot

def processRuleAdminClear (reply : AdminReply) (result : ControlResult) : ControlResult :=
  if reply.err ≠ .ok then mapAdminError result reply.err "internal_error"
  else buildMetadataOnlyResult result {} false

/-- `process_rule_admin_pause_resume`, `process_node_admin_reboot` and
    `process_node_admin_nfc_reinit`. -/
def processAdminText (reply : AdminReply) (text : String) (result : ControlResult) :
    ControlResult :=
  if reply.err ≠ .ok then mapAdminError result reply.err "internal_error"
  else buildTextResult result text

/-- The handlers of the admin commands, on a cleared result. -/
def processAdmin (message : CommandMessage) (reply : AdminReply) (result : ControlResult) :
    ControlResult :=
  if message.command = "node.rules.validate" then
    processRuleAdminBundle message reply false result
  else if message.command = "node.rules.apply" then
    processRuleAdminBundle message reply true result
  else if message.command = "node.rules.get" then processRuleAdminGet reply result
  else if message.command = "node.rules.clear" then processRuleAdminClear reply result
  else if message.command = "node.rules.pause" then
    processAdminText reply "\x7b\"paused\":true\x7d" result
  else if message.command = "node.rules.resume" then
    processAdminText reply "\x7b\"paused\":false\x7d" result
  else if message.command = "node.reboot" then
    processAdminText reply "\x7b\"restarting\":true\x7d" result
  else if message.command = "node.nfc.reinit" then
    processAdminText reply "\x7b\"reinit_requested\":true\x7d" result
  else resultRejectedLocal result "not_supported"

/-! ### The duplicate cache -/

def mqttDupCacheSize : Nat := 4

structure DuplicateEntry where
  requestId : String
  command : String
  status : String
  errorCode : String
  deriving DecidableEq, Repr

def duplicateFind (cache : Lib.Ring DuplicateEntry) (requestId : String) : Option DuplicateEntry :=
  if requestId = "" then none else cache.find DuplicateEntry.requestId requestId

/-- What `node_mqtt_duplicate_remember` keeps of a result. -/
def duplicateEntry (requestId command : String) (result : ControlResult) : DuplicateEntry where
  requestId := cutText mqttRequestIdMax requestId
  command := cutText mqttCommandMax command
  status := cutText 16 result.status
  errorCode := cutText 32 result.errorCode

/-! ### The command task -/

structure DeferredResult where
  requestId : String
  command : String
  status : String
  errorCode : String
  deriving DecidableEq, Repr

/-- What is handed to the publisher. -/
structure Answer where
  requestId : String
  command : String
  status : String
  errorCode : String
  dataJson : String := ""
  deriving DecidableEq, Repr

inductive MqttEvent where
  /-- The command was passed on to the part that carries it out. -/
  | executed (requestId command : String)
  | answered (answer : Answer)
  | remembered (entry : DuplicateEntry)
  deriving DecidableEq, Repr

/-- The static data of the path, and the heap buffers of the admin commands. -/
structure MqttState where
  commandQueue : List CommandMessage := []
  adminQueue : List CommandMessage := []
  resultQueue : List DeferredResult := []
  disconnectAfterResultOverflow : Bool := false
  cache : Lib.Ring DuplicateEntry := .empty mqttDupCacheSize
  /-- `s_result`. -/
  result : ControlResult := {}
  /-- `s_admin_result`, and whether the admin buffers are there. -/
  adminResult : ControlResult := {}
  adminScratch : Bool := false
  deriving DecidableEq, Repr

/-- How a submit ends. The control task fills in a cleared result of its own and
    copies the whole to the caller's. A submit that ends in another way leaves the
    caller's result alone; one that gave up waiting may have been carried out. The
    texts of a message fit the copies the control task makes of them. -/
inductive SubmitOutcome where
  | executed (result : ControlResult) (fits : result.Fits)
  | noSlot
  | queueTimeout
  | waitTimeout (carriedOut : Bool)
  | notStarted
  deriving DecidableEq, Repr

/-- The caller's result after `node_control_submit`. -/
def SubmitOutcome.write (outcome : SubmitOutcome) (result : ControlResult) : ControlResult :=
  match outcome with
  | .executed written _ => written
  | .noSlot => result
  | .queueTimeout => result
  | .waitTimeout _ => result
  | .notStarted => result

/-- Whether the control task carried the command out. -/
def SubmitOutcome.carriedOut : SubmitOutcome → Bool
  | .executed _ _ => true
  | .waitTimeout carriedOut => carriedOut
  | .noSlot | .queueTimeout | .notStarted => false

/-- The answer that is published for a result. -/
def answerOf (message : CommandMessage) (result : ControlResult) : Answer where
  requestId := message.requestId
  command := message.command
  status := result.status
  errorCode := result.errorCode
  dataJson := result.dataJson

/-- The answer to a request id that is in the cache. -/
def duplicateAnswer (message : CommandMessage) (duplicate : DuplicateEntry) : Answer :=
  if duplicate.command = message.command then
    { requestId := message.requestId
      command := message.command
      status := duplicate.status
      errorCode := duplicate.errorCode }
  else
    { requestId := message.requestId
      command := message.command
      status := "rejected"
      errorCode := "invalid_request" }

/-- `node_mqtt_duplicate_remember`. -/
def MqttState.remember (s : MqttState) (message : CommandMessage) (result : ControlResult) :
    MqttState × List MqttEvent :=
  if message.requestId = "" then (s, [])
  else
    let entry := duplicateEntry message.requestId message.command result
    ({ s with cache := s.cache.push entry }, [.remembered entry])

/-- What the parts around the path do while a message is handled. -/
structure HandleIo where
  submit : SubmitOutcome := .notStarted
  /-- The device description, if it could be published. -/
  description : Option String := none
  /-- Whether the admin buffers that are missing are found. -/
  memory : Bool := true
  reply : AdminReply := {}

/-- `describe_interface` in `node_mqtt_process_command_message`. -/
def describeInterface (s : MqttState) (message : CommandMessage) (description : Option String) :
    MqttState × List MqttEvent :=
  let result := clearResult s.result
  match description with
  | some description =>
    let result := resultDoneLocal result
    let remembered := { s with result := result }.remember message result
    (remembered.1, [.executed message.requestId message.command,
      .answered { requestId := message.requestId
                  command := "describe_interface"
                  status := "done"
                  errorCode := ""
                  dataJson := description }] ++ remembered.2)
  | none =>
    let result := resultFailedLocal result "internal_error"
    let remembered := { s with result := result }.remember message result
    (remembered.1, [.executed message.requestId message.command,
      .answered { requestId := message.requestId
                  command := message.command
                  status := result.status
                  errorCode := result.errorCode }] ++ remembered.2)

/-- A control command in `node_mqtt_process_command_message`. -/
def submitCommand (s : MqttState) (message : CommandMessage) (outcome : SubmitOutcome) :
    MqttState × List MqttEvent :=
  let result := outcome.write s.result
  let remembered := { s with result := result }.remember message result
  (remembered.1,
    (if outcome.carriedOut then [.executed message.requestId message.command] else []) ++
      .answered (answerOf message result) :: remembered.2)

/-- The refusal of a message that could not be parsed. -/
def invalidRequest : Answer where
  requestId := ""
  command := ""
  status := "rejected"
  errorCode := "invalid_request"

def processCommandMessage (s : MqttState) (message : CommandMessage) (io : HandleIo) :
    MqttState × List MqttEvent :=
  if !message.valid then (s, [.answered invalidRequest])
  else match duplicateFind s.cache message.requestId with
    | some duplicate => (s, [.answered (duplicateAnswer message duplicate)])
    | none =>
      if message.command = "describe_interface" then describeInterface s message io.description
      else submitCommand s message io.submit

def processAdminCommandMessage (s : MqttState) (message : CommandMessage) (io : HandleIo) :
    MqttState × List MqttEvent :=
  if !message.valid then (s, [.answered invalidRequest])
  else match duplicateFind s.cache message.requestId with
    | some duplicate => (s, [.answered (duplicateAnswer message duplicate)])
    | none =>
      if !(s.adminScratch || io.memory) then
        (s, [.answered { requestId := message.requestId
                         command := message.command
                         status := "failed"
                         errorCode := "no_mem" }])
      else
        let result := processAdmin message io.reply (clearResult s.adminResult)
        let remembered :=
          { s with adminResult := result, adminScratch := true }.remember message result
        (remembered.1, [.executed message.requestId message.command,
          .answered (answerOf message result)] ++ remembered.2)

/-! ### The event handler -/

def mqttCommandQueueLen : Nat := 4

def mqttAdminQueueLen : Nat := 1

def mqttResultQueueLen : Nat := 8

/-- A message as the client hands it over, whole or in part. -/
structure DataEvent where
  data : String
  currentDataOffset : Nat := 0
  totalDataLen : Nat
  deriving DecidableEq, Repr

/-- What the parts around the handler do while a message is received. -/
structure ReceiveIo where
  /-- Whether a buffer for an admin message is found. -/
  memory : Bool := true
  /-- Whether a result that found no room is published at once. -/
  publishes : Bool := false

/-- The answer a deferred result is published as. -/
def DeferredResult.answer (result : DeferredResult) : Answer where
  requestId := result.requestId
  command := result.command
  status := result.status
  errorCode := result.errorCode

def enqueueDeferredResult (s : MqttState) (message : CommandMessage) (status errorCode : String)
    (publishes : Bool) : MqttState × List MqttEvent :=
  let result : DeferredResult :=
    { requestId := cutText mqttRequestIdMax message.requestId
      command := cutText mqttCommandMax message.command
      status := cutText 16 status
      errorCode := cutText 32 errorCode }
  if s.resultQueue.length < mqttResultQueueLen then
    ({ s with resultQueue := s.resultQueue ++ [result] }, [])
  else if publishes then (s, [.answered result.answer])
  else ({ s with disconnectAfterResultOverflow := true }, [])

/-- Why a message found no room. -/
def fullQueueError (message : CommandMessage) : String :=
  if message.valid then "busy" else "invalid_request"

/-- `MQTT_EVENT_DATA` in `mqtt_event_handler`. -/
def handleData (s : MqttState) (event : DataEvent) (io : ReceiveIo) : MqttState × List MqttEvent :=
  if event.currentDataOffset ≠ 0 ∨ event.totalDataLen ≠ event.data.length ∨
      event.data.length = 0 ∨ mqttPayloadMax ≤ event.data.length then
    (s, [])
  else
    let payload := event.data.toList.takeWhile (· ≠ '\x00')
    let command := jsonExtractString payload "command" mqttCommandMax
    if !command.1 then enqueueDeferredResult s {} "rejected" "invalid_request" io.publishes
    else if commandIsAdmin (.ofList command.2) then
      if !io.memory then
        enqueueDeferredResult s { command := .ofList command.2 } "failed" "no_mem" io.publishes
      else
        let message := parseAdminCommandPayload payload
        if s.adminQueue.length < mqttAdminQueueLen then
          ({ s with adminQueue := s.adminQueue ++ [message] }, [])
        else enqueueDeferredResult s message "rejected" (fullQueueError message) io.publishes
    else
      let message := parseCommandPayload payload
      if s.commandQueue.length < mqttCommandQueueLen then
        ({ s with commandQueue := s.commandQueue ++ [message] }, [])
      else enqueueDeferredResult s message "rejected" (fullQueueError message) io.publishes

/-! ### Steps -/

inductive MqttOp where
  /-- The event handler is handed a message. -/
  | data (event : DataEvent) (io : ReceiveIo)
  /-- The command task publishes a deferred result. -/
  | deferred
  /-- The command task drops the connection after an overflow. -/
  | disconnect
  /-- The command task takes an admin command. -/
  | admin (io : HandleIo)
  /-- The command task takes a control command. -/
  | command (io : HandleIo)

def mqttStep (s : MqttState) : MqttOp → MqttState × List MqttEvent
  | .data event io => handleData s event io
  | .deferred =>
    match s.resultQueue with
    | [] => (s, [])
    | result :: rest => ({ s with resultQueue := rest }, [.answered result.answer])
  | .disconnect => ({ s with disconnectAfterResultOverflow := false }, [])
  | .admin io =>
    match s.adminQueue with
    | [] => (s, [])
    | message :: rest => processAdminCommandMessage { s with adminQueue := rest } message io
  | .command io =>
    match s.commandQueue with
    | [] => (s, [])
    | message :: rest => processCommandMessage { s with commandQueue := rest } message io

/-- The steps of a run, and everything that happened in it. -/
def mqttRun (s : MqttState) : List MqttOp → MqttState × List MqttEvent
  | [] => (s, [])
  | op :: ops =>
    let stepped := mqttStep s op
    let rest := mqttRun stepped.1 ops
    (rest.1, stepped.2 ++ rest.2)

end SceneHub.Node
