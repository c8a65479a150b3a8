import SceneHub.Broker.ClientSession

/-!
# Access through the Broker

Whether a client publishes and reads only what the access lists give it.

A message of a client is checked when the client publishes it. A last will is
not: it is stored when CONNECT is read, before the client is authenticated, and
published as it is when the connection ends, also when CONNECT was refused. So
whoever can connect to the broker can publish one message to any topic.

A filter is checked as a text, and a `+` in it is a character like any other. A
client that is called `+` may subscribe to the topics of the device `+`, and the
matcher gives it those of all devices. Likewise a client called `all` owns the
topic of the commands for all devices. Other names confine their clients: what
a filter they may subscribe to matches begins with the same levels.

## Main definitions

* `OwnTopic`: The namespace of a client.
* `Confined`: Everything published is allowed, and everything read is its own.
* `Harmless`: The connections for which that is so.

## Theorems

* `levelsMatch_literals`: A filter that begins with literal levels.
* `readsOwn_iff`: Which client ids confine what is read.
* `confined_iff`: Which connections are confined.
-/

namespace SceneHub.Broker

/-! ### What a client may do -/

/-- A topic in the namespace of a client: its device and everything below, its
    static prefix and the level above, or the commands for all devices. -/
def OwnTopic (clientId topic : List Char) : Prop :=
  (∃ deviceId, '/' ∉ deviceId ∧ clientIdMapsToContractDeviceId clientId deviceId = true ∧
    Lib.Under '/' (contractPrefix ++ deviceId) topic) ∨
  (∃ entry root, findStaticAclEntry clientId = some entry ∧ entry.subPrefix = root ++ ['/'] ∧
    Lib.Under '/' root topic) ∨
  topic = broadcastTopic

/-- What a client can subscribe to matches only topics of its own. -/
def ReadsOwn (clientId : List Char) : Prop :=
  ∀ filter, aclCanSubscribe clientId filter = true →
    ∀ topic, topicMatchesFilter filter topic = true → OwnTopic clientId topic

/-- Everything published on behalf of a connection is allowed for its client id, and
    a client that is accepted reads only topics of its own and does not publish the
    commands for all devices. -/
def Confined (run : ClientRun) : Prop :=
  (∀ message ∈ clientRun run, aclCanPublish run.connack.2.clientId message.topic = true) ∧
  (run.connack.1 = .accepted → ReadsOwn run.connack.2.clientId ∧
    aclCanPublish run.connack.2.clientId broadcastTopic = false)

/-- The will of CONNECT, if it is still there at the end, goes to a topic that is
    allowed, and the client is called neither `+` nor `all`, nor so behind the prefix
    for device ids. -/
def Harmless (run : ClientRun) : Prop :=
  (run.connack.2.will.has = true → run.finish.1.suppressWill = false →
    aclCanPublish run.connack.2.clientId run.connack.2.will.topic = true) ∧
  (run.connack.1 = .accepted →
    clientIdMapsToContractDeviceId run.connack.2.clientId ['+'] = false ∧
    clientIdMapsToContractDeviceId run.connack.2.clientId "all".toList = false)

/-! ### Filters -/

/-- A level that the matcher takes literally. -/
def Literal (level : List Char) : Prop := level ≠ ['#'] ∧ level ≠ ['+']

instance (level : List Char) : Decidable (Literal level) := inferInstanceAs (Decidable (_ ∧ _))

/-- A filter that begins with literal levels matches only topics that do, and behind
    them the rest of the filter matches the rest of the topic. -/
theorem levelsMatch_literals {literals filter topic : List (List Char)}
    (hliteral : ∀ level ∈ literals, Literal level)
    (h : levelsMatch (literals ++ filter) topic = true) : ∃ rest, topic = literals ++ rest ∧
      (levelsMatch filter rest = true ∨ (rest = [] ∧ (filter = [['#']] ∨ filter = []))) := by
  induction literals generalizing topic with
  | nil => exact ⟨topic, rfl, .inl h⟩
  | cons level literals ih =>
    cases topic with
    | nil => cases h
    | cons first topic =>
      rcases hliteral level List.mem_cons_self with ⟨hhash, hplus⟩
      have hmore : ∀ l ∈ literals, Literal l :=
        fun l hl => hliteral l (.tail _ hl)
      rw [List.cons_append] at h
      unfold levelsMatch at h
      rw [if_neg hhash] at h
      by_cases hsame : level = first
      · rw [if_neg fun hne => hne.2 hsame] at h
        rw [← hsame]
        split at h
        · rename_i hend
          rcases List.append_eq_nil_iff.1 hend.1 with ⟨rfl, rfl⟩
          exact ⟨[], by rw [hend.2, List.append_nil], .inr ⟨rfl, .inr rfl⟩⟩
        split at h
        · rcases ih hmore h with ⟨rest, htopic, hrest⟩
          exact ⟨rest, by rw [htopic, List.cons_append], hrest⟩
        -- Only the rest of the filter can be the wildcard.
        rcases of_decide_eq_true h with ⟨htopic, hlast⟩
        rw [htopic]
        cases literals with
        | nil => exact ⟨[], rfl, .inr ⟨rfl, .inl hlast⟩⟩
        | cons l literals =>
          injection hlast with hl _
          exact absurd hl (hmore l List.mem_cons_self).1
      · rw [if_pos ⟨hplus, hsame⟩] at h
        cases h

theorem under_of_match {root filter topic : List Char} (rest : List (List Char))
    (hliteral : ∀ level ∈ Lib.levels '/' root, Literal level)
    (hfilter : Lib.levels '/' filter = Lib.levels '/' root ++ rest)
    (h : topicMatchesFilter filter topic = true) : Lib.Under '/' root topic := by
  unfold topicMatchesFilter at h
  rw [hfilter] at h
  rcases levelsMatch_literals hliteral h with ⟨more, htopic, -⟩
  exact Lib.under_of_levels htopic

theorem eq_of_match {filter topic : List Char}
    (hliteral : ∀ level ∈ Lib.levels '/' filter, Literal level)
    (h : topicMatchesFilter filter topic = true) : topic = filter := by
  unfold topicMatchesFilter at h
  rw [← List.append_nil (Lib.levels '/' filter)] at h
  rcases levelsMatch_literals hliteral h with ⟨rest, htopic, hrest | ⟨rfl, -⟩⟩
  · cases rest with
    | nil => cases hrest
    | cons level rest => cases hrest
  · rw [List.append_nil] at htopic
    exact Lib.levels_injective htopic

/-! ### The topics of the devices -/

theorem levels_contract (text : List Char) : Lib.levels '/' (contractPrefix ++ text) =
    ["cp".toList, "v1".toList, "dev".toList] ++ Lib.levels '/' text := rfl

theorem extract_eq_some {topic deviceId : List Char}
    (h : extractContractDeviceId topic = some deviceId) :
    ∃ rest, topic = contractPrefix ++ (deviceId ++ '/' :: rest) ∧ '/' ∉ deviceId := by
  unfold extractContractDeviceId at h
  split at h
  · rename_i hstart
    obtain ⟨segment, hsegment⟩ := List.isPrefixOf_iff_prefix.1 hstart
    rw [← hsegment, List.drop_left] at h
    dsimp only at h
    split at h
    · cases h
    rename_i hlength
    split at h
    · cases h
    rcases Lib.takeWhile_level hlength with ⟨hnot, rest, hsplit⟩
    cases h
    exact ⟨rest, by rw [← hsplit, hsegment], hnot⟩
  · cases h

theorem maps_iff (clientId deviceId : List Char) :
    clientIdMapsToContractDeviceId clientId deviceId = true ↔ clientId ≠ [] ∧ deviceId ≠ [] ∧
      (clientId = deviceId ∨ (dccPrefix.isPrefixOf clientId = true ∧
        ((clientId.drop dccPrefix.length).take (mqttMaxTopic - 1)).map
          (fun c => if c = '-' then '_' else c) = deviceId)) := by
  unfold clientIdMapsToContractDeviceId
  by_cases hempty : clientId = [] ∨ deviceId = []
  · rw [if_pos hempty]
    rcases hempty with h | h
    · exact iff_of_false Bool.false_ne_true fun hall => hall.1 h
    · exact iff_of_false Bool.false_ne_true fun hall => hall.2.1 h
  rw [if_neg hempty]
  rw [not_or] at hempty
  by_cases hsame : clientId = deviceId
  · rw [if_pos hsame]
    exact iff_of_true rfl ⟨hempty.1, hempty.2, .inl hsame⟩
  rw [if_neg hsame]
  cases hdcc : dccPrefix.isPrefixOf clientId with
  | false =>
    simp only [Bool.not_false, if_true, Bool.false_eq_true, false_and, or_false, false_iff]
    exact fun hall => hsame hall.2.2
  | true =>
    simp only [Bool.not_true, Bool.false_eq_true, if_false, decide_eq_true_iff, true_and]
    constructor
    · rintro ⟨-, hmapped⟩
      exact ⟨hempty.1, hempty.2, .inr hmapped⟩
    rintro ⟨-, -, heq | hmapped⟩
    · exact absurd heq hsame
    · exact ⟨by rw [hmapped]; exact hempty.2, hmapped⟩

theorem selfContract_iff (clientId topic : List Char) :
    aclCanAccessSelfContract clientId topic = true ↔
      ∃ deviceId, extractContractDeviceId topic = some deviceId ∧
        clientIdMapsToContractDeviceId clientId deviceId = true := by
  unfold aclCanAccessSelfContract
  by_cases hempty : clientId = []
  · rw [if_pos hempty]
    refine iff_of_false Bool.false_ne_true ?_
    rintro ⟨deviceId, -, hmaps⟩
    exact ((maps_iff clientId deviceId).1 hmaps).1 hempty
  rw [if_neg hempty]
  cases hdevice : extractContractDeviceId topic with
  | none =>
    refine iff_of_false Bool.false_ne_true ?_
    rintro ⟨deviceId, hsome, -⟩
    cases hsome
  | some deviceId =>
    constructor
    · exact fun hmaps => ⟨deviceId, rfl, hmaps⟩
    rintro ⟨other, hsome, hmaps⟩
    cases hsome
    exact hmaps

/-! ### The static entries -/

theorem acl_subPrefix : ∀ entry ∈ acl, entry.subPrefix = entry.subPrefix.dropLast ++ ['/'] ∧
    '/' ∉ entry.subPrefix.dropLast ∧ Literal entry.subPrefix.dropLast ∧
    entry.subPrefix ≠ ['*'] := by
  decide

theorem acl_not_device : ∀ entry ∈ acl,
    clientIdMapsToContractDeviceId entry.clientId ['+'] = false ∧
    topicPrefixMatch entry.pubPrefix broadcastTopic = false := by
  decide

theorem findStaticAclEntry_spec {clientId : List Char} {entry : AclEntry}
    (h : findStaticAclEntry clientId = some entry) : entry ∈ acl ∧ entry.clientId = clientId :=
  ⟨List.mem_of_find?_eq_some h, of_decide_eq_true
    (List.find?_some (p := fun entry : AclEntry => decide (entry.clientId = clientId)) h)⟩

/-! ### Reading -/

theorem own_of_device {clientId deviceId filter topic : List Char}
    (hplus : clientIdMapsToContractDeviceId clientId ['+'] = false)
    (hdevice : extractContractDeviceId filter = some deviceId)
    (hmaps : clientIdMapsToContractDeviceId clientId deviceId = true)
    (h : topicMatchesFilter filter topic = true) : OwnTopic clientId topic := by
  rcases extract_eq_some hdevice with ⟨rest, hfilter, hnot⟩
  have hlevels : Lib.levels '/' filter =
      ["cp".toList, "v1".toList, "dev".toList] ++ deviceId :: Lib.levels '/' rest := by
    rw [hfilter, levels_contract, Lib.levels_append hnot]
  by_cases hhash : deviceId = ['#']
  · -- The wildcard is not the last level, and the matcher stops there.
    unfold topicMatchesFilter at h
    rw [hlevels] at h
    rcases levelsMatch_literals (by decide) h with ⟨more, -, hmore | ⟨-, hlast | hnone⟩⟩
    · cases more with
      | nil => cases hmore
      | cons first more =>
        unfold levelsMatch at hmore
        rw [if_pos hhash] at hmore
        exact absurd (of_decide_eq_true hmore) (Lib.levels_ne_nil rest)
    · injection hlast with _ hlast
      exact absurd hlast (Lib.levels_ne_nil rest)
    · cases hnone
  have hliteral : Literal deviceId := by
    refine ⟨hhash, fun heq => ?_⟩
    rw [heq, hplus] at hmaps
    cases hmaps
  have hroot : Lib.levels '/' (contractPrefix ++ deviceId) =
      ["cp".toList, "v1".toList, "dev".toList] ++ [deviceId] := by
    rw [levels_contract, Lib.levels_of_not_mem hnot]
  refine .inl ⟨deviceId, hnot, hmaps, under_of_match (Lib.levels '/' rest) ?_ ?_ h⟩
  · intro level hlevel
    rw [hroot, List.mem_append, List.mem_singleton] at hlevel
    rcases hlevel with hlevel | rfl
    · revert level
      decide
    · exact hliteral
  · rw [hlevels, hroot, List.append_assoc]
    rfl

theorem own_of_static {clientId filter topic : List Char} {entry : AclEntry}
    (hentry : findStaticAclEntry clientId = some entry)
    (hfilter : topicPrefixMatch entry.subPrefix filter = true)
    (h : topicMatchesFilter filter topic = true) : OwnTopic clientId topic := by
  rcases acl_subPrefix entry (findStaticAclEntry_spec hentry).1 with ⟨hsub, hnot, hliteral, hstar⟩
  unfold topicPrefixMatch at hfilter
  rw [decide_eq_false hstar, Bool.false_or] at hfilter
  obtain ⟨tail, htail⟩ := List.isPrefixOf_iff_prefix.1 hfilter
  have hroot := Lib.levels_of_not_mem hnot
  refine .inr (.inl ⟨entry, _, hentry, hsub, under_of_match (Lib.levels '/' tail) ?_ ?_ h⟩)
  · intro level hlevel
    rw [hroot, List.mem_singleton] at hlevel
    rw [hlevel]
    exact hliteral
  · rw [← htail, hsub, List.dropLast_concat, hroot, List.append_assoc]
    exact Lib.levels_append hnot tail

theorem device_of_under {deviceId : List Char} (hnot : '/' ∉ deviceId)
    (h : Lib.Under '/' (contractPrefix ++ deviceId) "cp/v1/dev/x/status".toList) :
    deviceId = ['x'] := by
  have htopic : "cp/v1/dev/x/status".toList = contractPrefix ++ "x/status".toList := rfl
  rcases h with heq | ⟨rest, heq⟩
  · rw [htopic] at heq
    rw [← List.append_cancel_left heq] at hnot
    exact absurd (by decide) hnot
  rw [htopic, List.append_assoc] at heq
  have hlevels := congrArg (Lib.levels '/') (List.append_cancel_left heq)
  rw [Lib.levels_append hnot] at hlevels
  injection hlevels with hdevice _
  exact hdevice.symm

theorem maps_plus_x {clientId : List Char}
    (hplus : clientIdMapsToContractDeviceId clientId ['+'] = true)
    (hx : clientIdMapsToContractDeviceId clientId ['x'] = true) : False := by
  rcases ((maps_iff _ _).1 hplus).2.2 with rfl | ⟨hdcc, hnormal⟩
  · exact absurd hx (by decide)
  rcases ((maps_iff _ _).1 hx).2.2 with rfl | ⟨-, hother⟩
  · exact absurd hdcc (by decide)
  · rw [hnormal] at hother
    exact absurd hother (by decide)

/-- A client reads only topics of its own unless it is called `+`, alone or behind the
    prefix for device ids. -/
theorem readsOwn_iff (clientId : List Char) :
    ReadsOwn clientId ↔ clientIdMapsToContractDeviceId clientId ['+'] = false := by
  constructor
  · intro hreads
    refine Bool.eq_false_iff.2 fun hplus => ?_
    have hallowed : aclCanSubscribe clientId "cp/v1/dev/+/status".toList = true := by
      unfold aclCanSubscribe
      rw [if_pos ((selfContract_iff _ _).2 ⟨['+'], by decide, hplus⟩)]
    have hown := hreads _ hallowed "cp/v1/dev/x/status".toList (by decide)
    rcases hown with ⟨deviceId, hnot, hmaps, hunder⟩ | ⟨entry, -, hentry, -⟩ | hbroadcast
    · -- The device of the topic is another one.
      have hdevice : deviceId = ['x'] := device_of_under hnot hunder
      rw [hdevice] at hmaps
      exact maps_plus_x hplus hmaps
    · rcases findStaticAclEntry_spec hentry with ⟨hmem, rfl⟩
      rw [(acl_not_device entry hmem).1] at hplus
      cases hplus
    · exact absurd hbroadcast (by decide)
  · intro hplus filter hallowed topic hmatch
    unfold aclCanSubscribe at hallowed
    split at hallowed
    · rename_i hself
      rcases (selfContract_iff _ _).1 hself with ⟨deviceId, hdevice, hmaps⟩
      exact own_of_device hplus hdevice hmaps hmatch
    split at hallowed
    · rename_i hbroadcast
      rw [hbroadcast] at hmatch
      exact .inr (.inr (eq_of_match (by decide) hmatch))
    split at hallowed
    · rename_i entry hentry
      exact own_of_static hentry hallowed hmatch
    · cases hallowed

/-- A client may publish the commands for all devices only if it is called `all`, alone
    or behind the prefix for device ids. -/
theorem broadcast_iff (clientId : List Char) : aclCanPublish clientId broadcastTopic = false ↔
    clientIdMapsToContractDeviceId clientId "all".toList = false := by
  have hdevice : extractContractDeviceId broadcastTopic = some "all".toList := by decide
  have hself : aclCanAccessSelfContract clientId broadcastTopic = true ↔
      clientIdMapsToContractDeviceId clientId "all".toList = true := by
    rw [selfContract_iff, hdevice]
    constructor
    · rintro ⟨deviceId, hsome, hmaps⟩
      cases hsome
      exact hmaps
    · exact fun hmaps => ⟨_, rfl, hmaps⟩
  unfold aclCanPublish
  by_cases hall : clientIdMapsToContractDeviceId clientId "all".toList = true
  · rw [if_pos (hself.2 hall), hall]
  rw [if_neg fun h => hall (hself.1 h)]
  refine iff_of_true ?_ (Bool.eq_false_iff.2 hall)
  split
  · rename_i entry hentry
    exact (acl_not_device entry (findStaticAclEntry_spec hentry).1).2
  · rfl

/-! ### Publishing -/

/-- Subscriptions leave the client id and the will alone. -/
structure SameClient (sess sess' : ClientSession) : Prop where
  clientId : sess'.clientId = sess.clientId
  will : sess'.will = sess.will

theorem SameClient.refl (sess : ClientSession) : SameClient sess sess := ⟨rfl, rfl⟩

theorem SameClient.trans {a b c : ClientSession} (h : SameClient a b) (h' : SameClient b c) :
    SameClient a c :=
  ⟨h'.clientId.trans h.clientId, h'.will.trans h.will⟩

theorem upsert_same (sess : ClientSession) (topic : List Char) (qos : Nat) :
    SameClient sess (mqttUpsertSubscription sess topic qos) := by
  unfold mqttUpsertSubscription
  split
  · exact .refl sess
  split
  · exact ⟨rfl, rfl⟩
  split
  · exact .refl sess
  · exact ⟨rfl, rfl⟩

theorem subscribeAll_same (sess : ClientSession) (buf : List UInt8) (room off : Nat) :
    SameClient sess (subscribeAll sess buf room off).2 := by
  induction room generalizing sess off with
  | zero => exact .refl sess
  | succ room ih =>
    unfold subscribeAll
    split
    · exact .refl sess
    split
    · exact .refl sess
    refine SameClient.trans ?_ (ih _ _)
    split
    · exact upsert_same sess _ _
    · exact .refl sess

theorem unsubscribeAll_same (sess : ClientSession) (buf : List UInt8) (room off : Nat) :
    SameClient sess (unsubscribeAll sess buf room off).2 := by
  induction room generalizing sess off with
  | zero => exact .refl sess
  | succ room ih =>
    unfold unsubscribeAll
    split
    · exact .refl sess
    split
    · exact .refl sess
    rename_i topic off _
    have hrest := ih { sess with subs := sess.subs.filter fun sub => sub.1 ≠ topic } off
    exact ⟨hrest.clientId, hrest.will⟩

theorem mem_of_check {c : Prop} [Decidable c] {goes : Bool} {rest : Bool × Option Message}
    {message : Message} (h : message ∈ (if c then (goes, none) else rest).2) :
    ¬c ∧ message ∈ rest.2 := by
  by_cases hc : c
  · rw [if_pos hc] at h
    cases h
  · rw [if_neg hc] at h
    exact ⟨hc, h⟩

theorem handlePublish_allowed {sess : ClientSession} {header : UInt8} {buf : List UInt8}
    {sends : Bool} {message : Message} (h : message ∈ (handlePublish sess header buf sends).2) :
    aclCanPublish sess.clientId message.topic = true := by
  unfold handlePublish at h
  split at h
  · -- The checks one after the other; the fifth is the one of the access list.
    rcases mem_of_check h with ⟨-, h⟩
    rcases mem_of_check h with ⟨-, h⟩
    rcases mem_of_check h with ⟨-, h⟩
    rcases mem_of_check h with ⟨-, h⟩
    rcases mem_of_check h with ⟨hallowed, h⟩
    rcases mem_of_check h with ⟨-, h⟩
    rcases mem_of_check h with ⟨-, h⟩
    cases h
    simpa using hallowed
  · cases h

/-- A packet keeps the client id and the will, and passes on only what is allowed. -/
theorem handlePacket_spec (sess : ClientSession) (packet : ClientPacket) :
    SameClient sess (handlePacket sess packet).2.1 ∧
      ∀ message ∈ (handlePacket sess packet).2.2,
        aclCanPublish sess.clientId message.topic = true := by
  unfold handlePacket
  split
  · exact ⟨.refl sess, nofun⟩
  split
  · exact ⟨.refl sess, fun _ h => handlePublish_allowed h⟩
  · split <;> exact ⟨.refl sess, nofun⟩
  · refine ⟨?_, nofun⟩
    unfold handleSubscribe
    split
    · exact .refl sess
    · exact subscribeAll_same sess _ _ _
  · refine ⟨?_, nofun⟩
    unfold handleUnsubscribe
    split
    · exact .refl sess
    · exact unsubscribeAll_same sess _ _ _
  · exact ⟨.refl sess, nofun⟩
  · exact ⟨⟨rfl, rfl⟩, nofun⟩
  · exact ⟨.refl sess, nofun⟩

/-- The loop over the packets keeps the client id and the will, and passes on only what
    is allowed. -/
theorem handlePackets_spec (sess : ClientSession) (packets : List ClientPacket) :
    SameClient sess (handlePackets sess packets).1 ∧
      ∀ message ∈ (handlePackets sess packets).2,
        aclCanPublish sess.clientId message.topic = true := by
  induction packets generalizing sess with
  | nil => exact ⟨.refl sess, nofun⟩
  | cons packet packets ih =>
    have hone := handlePacket_spec sess packet
    have hmore := ih (handlePacket sess packet).2.1
    unfold handlePackets
    dsimp only
    split
    · refine ⟨hone.1.trans hmore.1, fun message h => ?_⟩
      rcases List.mem_append.1 h with hfirst | hrest
      · exact hone.2 message (Option.mem_toList.1 hfirst)
      · rw [← hone.1.clientId]
        exact hmore.2 message hrest
    · exact ⟨hone.1, fun message h => hone.2 message (Option.mem_toList.1 h)⟩

theorem finish_spec (run : ClientRun) : SameClient run.connack.2 run.finish.1 ∧
    ∀ message ∈ run.finish.2, aclCanPublish run.connack.2.clientId message.topic = true := by
  unfold ClientRun.finish
  split
  · have hpackets := handlePackets_spec run.connack.2 run.packets
    exact ⟨⟨hpackets.1.clientId, hpackets.1.will⟩, hpackets.2⟩
  · exact ⟨⟨rfl, rfl⟩, nofun⟩

/-- Everything published on behalf of a connection is allowed if and only if the last
    will is, where it is published. -/
theorem published_iff (run : ClientRun) :
    (∀ message ∈ clientRun run, aclCanPublish run.connack.2.clientId message.topic = true) ↔
      (run.connack.2.will.has = true → run.finish.1.suppressWill = false →
        aclCanPublish run.connack.2.clientId run.connack.2.will.topic = true) := by
  rcases finish_spec run with ⟨hsame, hallowed⟩
  unfold clientRun sendWillIfNeeded
  rw [← hsame.will]
  constructor
  · intro hall hhas hsuppress
    refine hall { topic := run.finish.1.will.topic, payload := run.finish.1.will.payload,
                  qos := run.finish.1.will.qos, retain := run.finish.1.will.retain }
      (List.mem_append_right _ ?_)
    rw [hhas, hsuppress]
    exact .head _
  intro hwill message hmessage
  rcases List.mem_append.1 hmessage with hpacket | hlast
  · exact hallowed message hpacket
  split at hlast
  · rename_i hsent
    rw [Bool.and_eq_true, Bool.not_eq_true'] at hsent
    rw [List.mem_singleton.1 hlast]
    exact hwill hsent.1 hsent.2
  · cases hlast

/-- A connection is confined if and only if its last will goes to a topic that is
    allowed and its client is called neither `+` nor `all`. -/
theorem confined_iff (run : ClientRun) : Confined run ↔ Harmless run := by
  unfold Confined Harmless
  rw [published_iff, readsOwn_iff, broadcast_iff]

def packetText (text : List Char) : List UInt8 :=
  0 :: UInt8.ofNat text.length :: text.map fun c => UInt8.ofNat c.toNat

/-- Somebody who is not a user of the broker connects with a last will for all devices. -/
def stranger : ClientRun where
  users := [⟨"relay".toList, "relay".toList, "secret".toList⟩]
  connect := packetText "MQTT".toList ++ [4, 0x04, 0, 60] ++ packetText "guest".toList ++
    packetText broadcastTopic ++ packetText "open".toList

/-- Such a client is refused, and its will is published. A client that is called `+` reads
    the topics of other devices, and one that is called `all` publishes their commands. -/
theorem will_of_stranger : stranger.connack.1 = .notAuthorized ∧
    clientRun stranger = [⟨broadcastTopic, "open".toList, 0, false⟩] ∧ ¬Confined stranger ∧
    ¬ReadsOwn ['+'] ∧ aclCanPublish "all".toList broadcastTopic = true := by
  refine ⟨by decide +kernel, by decide +kernel, fun h => ?_, fun h => ?_, by decide⟩
  · have hallowed := h.1 ⟨broadcastTopic, "open".toList, 0, false⟩ (by decide +kernel)
    exact absurd hallowed (by decide +kernel)
  · exact absurd ((readsOwn_iff _).1 h) (by decide)

end SceneHub.Broker
