import SceneHub.Broker.Connect

/-!
# Refused Clients

Whether a client that is refused leaves the others alone.

The packet is checked in parts. What is refused for its head, its level or for a lack
of room is refused before anything is done. Behind that, an older session with the
same client id is closed, whoever sends the packet: the last will and the credentials
are looked at later. And a last will that can be read is published at the end of the
session, also if the credentials are wrong.

## Main definitions

* `RefusedHarmless`: A client that is refused leaves nothing behind.
* `Reaches`: A packet gets as far as the first effect.
* `Credible`: The rest of the packet is in order.
* `NothingToLose`: No older session is closed, and no last will is stored.

## Theorems

* `handleConnect_connack`: The answer is that of a session by itself.
* `readWill_eq`: Reading a last will in place.
* `refused_harmless_iff`: Exactly when a refused client leaves nothing behind.
* `not_refusedHarmless`: A client without credentials takes the socket of another one.
-/

namespace SceneHub.Broker

variable {clientId : List Char}

/-! ### What a refused client may not do -/

/-- What other clients have of a session: its socket, its subscriptions and its last will. -/
def BrokerSession.Keeps (before after : BrokerSession) : Prop :=
  after.sock = before.sock ∧ after.subs = before.subs ∧ after.finalWill = before.finalWill

/-- If the client is not accepted, every other session keeps what it has, and nothing is
    published at the end of the session. -/
def RefusedHarmless (c : Connecting) (users : List MqttUser) (buf : List UInt8)
    (takenOver : Bool) : Prop :=
  (c.handleConnect users buf).1 ≠ .accepted →
    (∀ slot sess, slot ≠ c.slot → c.sessions[slot]? = some sess →
      ∃ after, (c.handleConnect users buf).2[slot]? = some after ∧ sess.Keeps after) ∧
    c.finalMessages (c.handleConnect users buf).2 takenOver = []

/-- A packet whose head is in order, of a client that there is room for. -/
def Reaches (c : Connecting) (buf : List UInt8) (head : ConnectHead) : Prop :=
  parseConnectHead buf = some head ∧ head.level = 4 ∧
    deviceClientCapacityAvailable c.sessions head.clientId
      (findSessionByClientId c.sessions head.clientId) = true

/-- The rest of the packet is in order, and its credentials are those of a user. -/
def Credible (users : List MqttUser) (buf : List UInt8) (head : ConnectHead) : Prop :=
  ∃ will off username off' password off'',
    parseWill buf head.flags head.rest = some (will, off) ∧
    parseFlagged buf head.flags 0x80 off = some (username, off') ∧
    parseFlagged buf head.flags 0x40 off' = some (password, off'') ∧
    mqttAuthenticateClient users head.clientId username password = true

/-- A session that would be closed has no socket, no subscriptions and no last will, and the
    packet has no last will that could be published. -/
def NothingToLose (c : Connecting) (buf : List UInt8) (head : ConnectHead) (takenOver : Bool) :
    Prop :=
  (∀ old sess, findSessionByClientId c.sessions head.clientId = some old →
    c.sessions[old]? = some sess →
    sess.sock = none ∧ sess.subs = .empty ∧ sess.finalWill = none) ∧
  (head.flags &&& 0x04 = 0 ∨ parseWill buf head.flags head.rest = none ∨ takenOver = true)

/-! ### Reading a last will -/

theorem readWill_eq (buf : List UInt8) (flags : UInt8) (off : Nat) :
    (readWill buf flags off {}).2 = (parseWill buf flags off).map Prod.snd ∧
    (readWill buf flags off {}).1.has =
      ((parseWill buf flags off).isSome && (flags &&& 0x04 ≠ 0)) := by
  unfold readWill parseWill
  by_cases hflag : flags &&& 0x04 = 0
  · simp only [hflag]
    exact ⟨rfl, rfl⟩
  simp only [if_neg hflag]
  cases parseUtf8Str buf off mqttMaxTopic with
  | none => exact ⟨rfl, rfl⟩
  | some topic =>
    dsimp only
    cases parseUtf8Str buf topic.2 mqttMaxPacket with
    | none => exact ⟨rfl, rfl⟩
    | some payload =>
      refine ⟨rfl, ?_⟩
      simp [hflag]

theorem answer_accepted_iff (users : List MqttUser) (buf : List UInt8) (head : ConnectHead) :
    (match (readWill buf head.flags head.rest {}).2 with
      | none => Connack.identifierRejected
      | some off => checkCredentials users head buf off) = .accepted ↔ Credible users buf head := by
  rw [(readWill_eq buf head.flags head.rest).1]
  unfold Credible
  cases hwill : parseWill buf head.flags head.rest with
  | none =>
    constructor
    · nofun
    · rintro ⟨_, _, _, _, _, _, h, -⟩
      cases h
  | some read =>
    rcases read with ⟨will, off⟩
    simp only [Option.map_some, checkCredentials]
    cases huser : parseFlagged buf head.flags 0x80 off with
    | none =>
      constructor
      · nofun
      rintro ⟨_, _, _, _, _, _, h, h', -⟩
      rw [← (Prod.mk.inj (Option.some.inj h)).2, huser] at h'
      cases h'
    | some user =>
      rcases user with ⟨username, off'⟩
      dsimp only
      cases hpass : parseFlagged buf head.flags 0x40 off' with
      | none =>
        constructor
        · nofun
        rintro ⟨_, _, _, _, _, _, h, h', h'', -⟩
        rw [← (Prod.mk.inj (Option.some.inj h)).2, huser] at h'
        rw [← (Prod.mk.inj (Option.some.inj h')).2, hpass] at h''
        cases h''
      | some pass =>
        rcases pass with ⟨password, off''⟩
        dsimp only
        constructor
        · intro h
          refine ⟨will, off, username, off', password, off'', rfl, huser, hpass, ?_⟩
          by_cases hauth : mqttAuthenticateClient users head.clientId username password = true
          · exact hauth
          · rw [if_neg hauth] at h
            cases h
        rintro ⟨_, _, _, _, _, _, h, h', h'', hauth⟩
        rw [← (Prod.mk.inj (Option.some.inj h)).2, huser] at h'
        rcases Prod.mk.inj (Option.some.inj h') with ⟨hname, hoff⟩
        rw [← hoff, hpass] at h''
        rw [← hname, ← (Prod.mk.inj (Option.some.inj h'')).1] at hauth
        rw [if_pos hauth]

/-! ### The session by itself -/

theorem find_none {sessions : List BrokerSession} (hne : clientId ≠ [])
    (h : findSessionByClientId sessions clientId = none) :
    ∀ other ∈ connectedIds sessions, other ≠ clientId := by
  intro other hother heq
  unfold findSessionByClientId at h
  rw [if_neg hne, List.findIdx?_eq_none_iff] at h
  rcases List.mem_map.1 hother with ⟨sess, hsess, hid⟩
  rcases List.mem_filter.1 hsess with ⟨hmem, hlive⟩
  have hnot := h sess hmem
  rw [Bool.and_eq_true] at hlive
  rw [hlive.1, hid, heq] at hnot
  simp at hnot

/-- The count leaves the older session out, and where there is none it makes no difference. -/
theorem capacity_eq (sessions : List BrokerSession) (clientId : List Char) :
    deviceClientCapacityAvailable sessions clientId (findSessionByClientId sessions clientId) =
      mqttDeviceClientCapacityAvailable (connectedIds sessions) clientId := by
  unfold deviceClientCapacityAvailable mqttDeviceClientCapacityAvailable
  by_cases hdevice : mqttIsDeviceContractClientId clientId = true
  · have hne : clientId ≠ [] := by
      rintro rfl
      cases hdevice
    have hcount : activeDeviceClientCount sessions
        ((findSessionByClientId sessions clientId).map fun _ => clientId) =
        ((connectedIds sessions).filter fun other =>
          other ≠ clientId ∧ mqttIsDeviceContractClientId other).length := by
      unfold activeDeviceClientCount
      congr 1
      apply List.filter_congr
      intro other hother
      cases hfind : findSessionByClientId sessions clientId with
      | none =>
        have hother' := find_none hne hfind other hother
        simp [hother']
      | some old =>
        rw [Option.map_some]
        by_cases hsame : other = clientId
        · rw [hsame]
          simp
        · have hother' : some clientId ≠ some other := fun h => hsame (Option.some.inj h).symm
          exact decide_eq_decide.2 (and_congr_left fun _ => ⟨fun _ => hsame, fun _ => hother'⟩)
    rw [hcount]
  · rw [Bool.not_eq_true] at hdevice
    rw [hdevice]
    rfl

theorem handleConnect_connack (c : Connecting) (users : List MqttUser) (buf : List UInt8) :
    (c.handleConnect users buf).1 = (handleConnect users (connectedIds c.sessions) {} buf).1 := by
  unfold Connecting.handleConnect handleConnect
  cases parseConnectHead buf with
  | none => rfl
  | some head =>
    dsimp only
    by_cases hlevel : head.level = 4
    · rw [if_neg (not_not.2 hlevel), if_neg (not_not.2 hlevel), capacity_eq]
      split_ifs with hcap
      · rfl
      rw [(readWill_eq buf head.flags head.rest).1]
      cases parseWill buf head.flags head.rest with
      | none => rfl
      | some read =>
        simp only [Option.map_some, checkCredentials]
        cases parseFlagged buf head.flags 0x80 read.2 with
        | none => rfl
        | some user =>
          dsimp only
          cases parseFlagged buf head.flags 0x40 user.2 with
          | none => rfl
          | some pass =>
            dsimp only
            split_ifs <;> rfl
    · rw [if_pos hlevel, if_pos hlevel]

/-! ### Among the others -/

theorem find_some {c : Connecting} {old : Nat}
    (h : findSessionByClientId c.sessions clientId = some old) :
    old ≠ c.slot ∧ ∃ sess, c.sessions[old]? = some sess := by
  unfold findSessionByClientId at h
  split_ifs at h with hne
  rcases List.findIdx?_eq_some_iff_getElem.1 h with ⟨hlt, hfound, -⟩
  refine ⟨?_, _, List.getElem?_eq_getElem hlt⟩
  rintro rfl
  have hfresh := c.fresh
  rw [List.getElem?_eq_getElem hlt] at hfresh
  rw [Option.some.inj hfresh] at hfound
  -- The new session has no client id yet.
  rw [Bool.and_eq_true] at hfound
  exact hne (of_decide_eq_true hfound.2).symm

/-- Behind the section under the lock, another session is as it was, or evicted. -/
theorem evictOld_get {c : Connecting} {slot : Nat} {sess : BrokerSession}
    (hsess : c.sessions[slot]? = some sess) :
    (evictOld c.sessions c.slot (findSessionByClientId c.sessions clientId))[slot]? =
      some (if findSessionByClientId c.sessions clientId = some slot then sess.evicted else sess) := by
  cases hfind : findSessionByClientId c.sessions clientId with
  | none =>
    rw [if_neg (by simp)]
    exact hsess
  | some old =>
    rcases find_some hfind with ⟨hne, other, hother⟩
    unfold evictOld
    dsimp only
    rw [if_neg hne, hother]
    by_cases hsame : old = slot
    · rw [if_pos (congrArg some hsame)]
      rw [hsame] at hother ⊢
      rcases List.getElem?_eq_some_iff.1 hsess with ⟨hlt, -⟩
      rw [List.getElem?_set_self hlt]
      rw [hsess] at hother
      rw [Option.some.inj hother]
    · rw [if_neg fun h => hsame (Option.some.inj h), List.getElem?_set_ne hsame]
      exact hsess

theorem evictOld_length (sessions : List BrokerSession) (slot : Nat) (old : Option Nat) :
    (evictOld sessions slot old).length = sessions.length := by
  unfold evictOld
  split
  · rfl
  split_ifs
  · rfl
  split
  · rfl
  · exact List.length_set

theorem evicted_keeps_iff (sess : BrokerSession) :
    sess.Keeps sess.evicted ↔ sess.sock = none ∧ sess.subs = .empty ∧ sess.finalWill = none := by
  have hwill : sess.evicted.finalWill = none := by
    unfold BrokerSession.finalWill BrokerSession.evicted BrokerSession.prepareClose
    rw [Bool.not_true, Bool.and_false]
    rfl
  unfold BrokerSession.Keeps
  rw [hwill]
  constructor
  · rintro ⟨hsock, hsubs, hfinal⟩
    exact ⟨hsock.symm, hsubs.symm, hfinal.symm⟩
  · rintro ⟨hsock, hsubs, hfinal⟩
    exact ⟨hsock.symm, hsubs.symm, hfinal.symm⟩

/-- The other sessions keep what they have exactly if an evicted one has nothing. -/
theorem others_keep_iff (c : Connecting) (clientId : List Char) (sess : BrokerSession) :
    (∀ slot before, slot ≠ c.slot → c.sessions[slot]? = some before →
      ∃ after, ((evictOld c.sessions c.slot (findSessionByClientId c.sessions clientId)).set
        c.slot sess)[slot]? = some after ∧ before.Keeps after) ↔
    ∀ old before, findSessionByClientId c.sessions clientId = some old →
      c.sessions[old]? = some before →
      before.sock = none ∧ before.subs = {} ∧ before.finalWill = none := by
  constructor
  · intro h old before hfind hbefore
    have hne := (find_some hfind).1
    rcases h old before hne hbefore with ⟨after, hafter, hkeeps⟩
    rw [List.getElem?_set_ne (Ne.symm hne), evictOld_get hbefore, if_pos hfind] at hafter
    cases hafter
    exact (evicted_keeps_iff before).1 hkeeps
  intro h slot before hne hbefore
  rw [List.getElem?_set_ne (Ne.symm hne), evictOld_get hbefore]
  refine ⟨_, rfl, ?_⟩
  by_cases hfind : findSessionByClientId c.sessions clientId = some slot
  · rw [if_pos hfind]
    exact (evicted_keeps_iff before).2 (h slot before hfind hbefore)
  · rw [if_neg hfind]
    exact ⟨rfl, rfl, rfl⟩

/-- The last will of the session that connected is not published exactly if there is none that
    can be read, or another client takes its id over. -/
theorem finalMessages_nil_iff {c : Connecting} {sessions : List BrokerSession} {buf : List UInt8}
    {head : ConnectHead} {takenOver : Bool} {sess : BrokerSession}
    (hsess : sessions[c.slot]? = some sess) (hsuppress : sess.suppressWill = false)
    (hwill : sess.will = (readWill buf head.flags head.rest {}).1) :
    c.finalMessages sessions takenOver = [] ↔
      head.flags &&& 0x04 = 0 ∨ parseWill buf head.flags head.rest = none ∨ takenOver = true := by
  have hhas := (readWill_eq buf head.flags head.rest).2
  rw [← hwill] at hhas
  unfold Connecting.finalMessages
  rw [hsess]
  unfold BrokerSession.finalWill
  dsimp only
  rw [hsuppress, Bool.false_or, hhas]
  by_cases hflag : head.flags &&& 0x04 = 0
  · simp [hflag]
  cases parseWill buf head.flags head.rest with
  | none => simp
  | some read => cases takenOver <;> simp [hflag]

/-- **A client that is refused leaves nothing behind exactly if its packet does not get as far
    as the first effect, or its credentials are right, or there is nothing to lose.** -/
theorem refused_harmless_iff (c : Connecting) (users : List MqttUser) (buf : List UInt8)
    (takenOver : Bool) : RefusedHarmless c users buf takenOver ↔ ∀ head, Reaches c buf head →
      Credible users buf head ∨ NothingToLose c buf head takenOver := by
  -- Before the first effect the sessions are as they were.
  have hearly : ∀ answer, c.handleConnect users buf = (answer, c.sessions) →
      RefusedHarmless c users buf takenOver := by
    intro answer h _
    rw [h]
    refine ⟨fun slot sess _ hsess => ⟨sess, hsess, rfl, rfl, rfl⟩, ?_⟩
    unfold Connecting.finalMessages
    rw [c.fresh]
    rfl
  have hreach : ∀ head, parseConnectHead buf = some head →
      ¬(head.level = 4 ∧ deviceClientCapacityAvailable c.sessions head.clientId
        (findSessionByClientId c.sessions head.clientId) = true) →
      ∀ other, ¬Reaches c buf other := by
    rintro head hhead hnot other ⟨hother, hlevel, hcap⟩
    rw [hhead] at hother
    cases hother
    exact hnot ⟨hlevel, hcap⟩
  cases hhead : parseConnectHead buf with
  | none =>
    refine ⟨fun _ head h => ?_, fun _ => hearly .identifierRejected ?_⟩
    · have hsome := h.1
      rw [hhead] at hsome
      cases hsome
    · unfold Connecting.handleConnect
      rw [hhead]
  | some head =>
    by_cases hlevel : head.level = 4
    · by_cases hcap : deviceClientCapacityAvailable c.sessions head.clientId
          (findSessionByClientId c.sessions head.clientId) = true
      · have hrun : c.handleConnect users buf =
            (match (readWill buf head.flags head.rest {}).2 with
              | none => .identifierRejected
              | some off => checkCredentials users head buf off,
            (evictOld c.sessions c.slot (findSessionByClientId c.sessions head.clientId)).set
              c.slot { sock := some c.sock, active := true, clientId := head.clientId
                       keepalive := head.keepalive
                       will := (readWill buf head.flags head.rest {}).1 }) := by
          unfold Connecting.handleConnect
          rw [hhead]
          dsimp only
          rw [if_neg (not_not.2 hlevel), hcap]
          rfl
        have hlt : c.slot < (evictOld c.sessions c.slot
            (findSessionByClientId c.sessions head.clientId)).length := by
          rw [evictOld_length]
          exact (List.getElem?_eq_some_iff.1 c.fresh).1
        have hall : (∀ other, Reaches c buf other →
            Credible users buf other ∨ NothingToLose c buf other takenOver) ↔
            Credible users buf head ∨ NothingToLose c buf head takenOver := by
          constructor
          · intro h
            exact h head ⟨hhead, hlevel, hcap⟩
          rintro h other ⟨hother, -⟩
          rw [hhead] at hother
          cases hother
          exact h
        rw [hall, ← answer_accepted_iff]
        unfold RefusedHarmless NothingToLose
        rw [hrun]
        rw [others_keep_iff, finalMessages_nil_iff (List.getElem?_set_self hlt) rfl rfl]
        exact Classical.or_iff_not_imp_left.symm
      · refine ⟨fun _ other h => absurd h (hreach head hhead (fun h => hcap h.2) other),
          fun _ => hearly .serverUnavailable ?_⟩
        unfold Connecting.handleConnect
        rw [hhead]
        dsimp only
        rw [if_neg (not_not.2 hlevel), if_pos (by simp [hcap])]
    · refine ⟨fun _ other h => absurd h (hreach head hhead (fun h => hlevel h.1) other),
        fun _ => hearly .identifierRejected ?_⟩
      unfold Connecting.handleConnect
      rw [hhead]
      dsimp only
      rw [if_pos hlevel]

/-- The client `pn532` is connected when a second client connects. -/
def secondClient : Connecting where
  sessions :=
    [{ sock := some { fd := 1, conn := 1 }, active := true, clientId := "pn532".toList },
      { sock := some { fd := 2, conn := 2 }, active := true }]
  slot := 1
  sock := { fd := 2, conn := 2 }
  fresh := rfl

/-- One user, with a password. -/
def lonelyUser : List MqttUser :=
  [{ clientId := "pn532".toList, username := "user".toList, password := "secret".toList }]

/-- The body of a CONNECT packet with the client id `pn532` and no credentials. -/
def bareConnect : List UInt8 :=
  [0, 4, 77, 81, 84, 84, 4, 2, 0, 60, 0, 5, 112, 110, 53, 51, 50]

/-- A client without credentials that knows the id of another one takes its socket. -/
theorem not_refusedHarmless :
    (secondClient.handleConnect lonelyUser bareConnect).1 = .notAuthorized ∧
    ¬RefusedHarmless secondClient lonelyUser bareConnect false := by
  have hanswer : (secondClient.handleConnect lonelyUser bareConnect).1 = .notAuthorized := by
    decide +kernel
  refine ⟨hanswer, fun h => ?_⟩
  have hkeep := (h (by rw [hanswer]; decide)).1 0 _ (by decide) rfl
  rcases hkeep with ⟨after, hafter, hsock, -⟩
  have hlost : (secondClient.handleConnect lonelyUser bareConnect).2[0]?.map BrokerSession.sock =
      some none := by
    decide +kernel
  rw [hafter, Option.map_some, hsock] at hlost
  cases hlost

end SceneHub.Broker
