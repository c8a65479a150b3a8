import SceneHub.Lib.Levels

/-!
# Access to Topics

Which topics a client may publish and which filters it may subscribe to, and
which topics a filter matches: `mqtt_core_acl.c`.

A text is a C string with one character for every byte. The matcher walks over
filter and topic level by level, with a cursor in either text. What uses it is
written over the levels.

## Main definitions

* `aclCanPublish`, `aclCanSubscribe`: The access lists.
* `topicMatchesFilterLoop`, `topicMatchesFilter`: The matcher, over texts and over levels.
-/

namespace SceneHub.Broker

def mqttMaxTopic : Nat := 96

structure AclEntry where
  clientId : List Char
  pubPrefix : List Char
  subPrefix : List Char
  deriving DecidableEq, Repr

/-- `k_acl`. -/
def acl : List AclEntry :=
  [⟨"pn532".toList, "access/".toList, "access/".toList⟩,
    ⟨"laser".toList, "laser/".toList, "laser/".toList⟩,
    ⟨"relay".toList, "relay/".toList, "relay/".toList⟩,
    ⟨"puppet".toList, "puppet/".toList, "puppet/".toList⟩,
    ⟨"webui".toList, "web/".toList, "web/".toList⟩]

def topicPrefixMatch (start topic : List Char) : Bool :=
  start = ['*'] || start.isPrefixOf topic

/-- The topics of the devices. -/
def contractPrefix : List Char := "cp/v1/dev/".toList

/-- `extract_contract_device_id`: the level behind the topics of the devices, if it
    is not the last. -/
def extractContractDeviceId (topic : List Char) : Option (List Char) :=
  if contractPrefix.isPrefixOf topic then
    let segment := topic.drop contractPrefix.length
    let deviceId := segment.takeWhile (· ≠ '/')
    if deviceId.length = segment.length then none
    else if deviceId.length = 0 ∨ mqttMaxTopic ≤ deviceId.length then none
    else some deviceId
  else none

/-- The prefix of the client ids that are device ids with dashes. -/
def dccPrefix : List Char := "dcc-".toList

def clientIdMapsToContractDeviceId (clientId deviceId : List Char) : Bool :=
  if clientId = [] ∨ deviceId = [] then false
  else if clientId = deviceId then true
  else if !dccPrefix.isPrefixOf clientId then false
  else
    let normalized := ((clientId.drop dccPrefix.length).take (mqttMaxTopic - 1)).map fun c =>
      if c = '-' then '_' else c
    normalized ≠ [] ∧ normalized = deviceId

def findStaticAclEntry (clientId : List Char) : Option AclEntry :=
  acl.find? fun entry => entry.clientId = clientId

def aclIsStaticClientId (clientId : List Char) : Bool := (findStaticAclEntry clientId).isSome

def aclCanAccessSelfContract (clientId topic : List Char) : Bool :=
  if clientId = [] then false
  else match extractContractDeviceId topic with
    | none => false
    | some deviceId => clientIdMapsToContractDeviceId clientId deviceId

/-- The topic of the commands for all devices. -/
def broadcastTopic : List Char := "cp/v1/dev/all/control/command".toList

def aclCanPublish (clientId topic : List Char) : Bool :=
  if aclCanAccessSelfContract clientId topic then true
  else match findStaticAclEntry clientId with
    | some entry => topicPrefixMatch entry.pubPrefix topic
    | none => false

def aclCanSubscribe (clientId topic : List Char) : Bool :=
  if aclCanAccessSelfContract clientId topic then true
  else if topic = broadcastTopic then clientId ≠ []
  else match findStaticAclEntry clientId with
    | some entry => topicPrefixMatch entry.subPrefix topic
    | none => false

/-- The loop of `topic_matches_filter`, with what is left of the filter and of the topic. -/
def topicMatchesFilterLoop (f t : List Char) : Bool :=
  let flevel := f.takeWhile (· ≠ '/')
  let tlevel := t.takeWhile (· ≠ '/')
  if flevel = ['#'] then f.drop 1 = []
  else if flevel ≠ ['+'] ∧ flevel ≠ tlevel then false
  else match _hf : f.dropWhile (· ≠ '/'), t.dropWhile (· ≠ '/') with
    | [], [] => true
    | _ :: f', _ :: t' => topicMatchesFilterLoop f' t'
    | _ :: f', [] => f' = ['#']
    | [], _ :: _ => false
termination_by f.length
decreasing_by exact Lib.length_behind_lt _hf

/-- The walk of `topic_matches_filter` over the levels of filter and topic. -/
def levelsMatch : List (List Char) → List (List Char) → Bool
  | f :: filter, t :: topic =>
    if f = ['#'] then filter = []
    else if f ≠ ['+'] ∧ f ≠ t then false
    else if filter = [] ∧ topic = [] then true
    else if filter ≠ [] ∧ topic ≠ [] then levelsMatch filter topic
    else topic = [] ∧ filter = [['#']]
  | _, _ => false

def topicMatchesFilter (filter topic : List Char) : Bool :=
  levelsMatch (Lib.levels '/' filter) (Lib.levels '/' topic)

end SceneHub.Broker
