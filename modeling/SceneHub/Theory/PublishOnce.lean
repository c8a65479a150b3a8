import Mathlib.Data.List.Forall2
import SceneHub.Lib.Runs
import SceneHub.Broker.Delivery

/-!
# One Publish

What a publish sends to each session, when nothing comes in between and every write
succeeds.

A session gets a message at most once, as the broker looks for the first subscription
that matches and goes on to the next session. But it takes the QoS of this first
subscription, also where another one that matches was granted a larger QoS, and so
what a session gets depends on the order in which it subscribed.

Besides, a packet may be too long for the broker, the table of packets that are not
acknowledged may be full, and so may be the memory for all such packets. The message
is then not sent, or the session is closed.

## Main definitions

* `Delivery.publishAlone`: A publish from its lock to its last write.
* `DeliveredOnce`, `OrderFree`: What each session is sent, whatever the order.
* `CanDeliver`: When that is so.

## Theorems

* `publishAlone_run`: A publish alone is a run of the broker.
* `sendTarget_effect`: What sending to one session does.
* `sent_targets`: What sending to all of them does.
* `publish_once`: Exactly when each session is sent what it should be.
-/

namespace SceneHub.Broker

variable {sess other : BrokerSession} {s : Delivery} {rest : List BrokerSession} {target : Target}
  {slot qos : Nat} {sub : List Char × Nat}

/-! ### A publish alone -/

/-- Sending a packet, where the writes succeed and there is memory. -/
def Delivery.sendTarget (s : Delivery) (target : Target) : Delivery :=
  match s.startTarget target .ok with
  | (s, .reserved entry) => (s.writeTarget target entry .ok).1
  | (s, _) => s

/-- A publish from its lock to its last write. -/
def Delivery.publishAlone (s : Delivery) (publication : Nat) (message : Message)
    (exclude : Option Nat) : Delivery :=
  let distributed := s.distribute publication message exclude
  distributed.2.foldl Delivery.sendTarget distributed.1

/-- What was written to a session: the connection, the message and its QoS. -/
def sentTo (slot : Nat) (log : List DeliveryEvent) : List (Nat × Message × Nat) :=
  log.filterMap fun event => match event with
    | .wrote other conn message qos _ _ =>
      if other = slot then some (conn, message, qos) else none
    | _ => none

/-- What a publish alone writes to a session. -/
def Delivery.sends (s : Delivery) (message : Message) (exclude : Option Nat) (slot : Nat) :
    List (Nat × Message × Nat) :=
  sentTo slot (({ s with log := [] }).publishAlone s.nextPublication message exclude).log

/-- The largest QoS among the subscriptions that a topic matches. -/
def BrokerSession.largest (sess : BrokerSession) (topic : List Char) : Nat :=
  ((sess.subs.entries.filter fun sub => topicMatchesFilter sub.1 topic).map Prod.snd).foldr max 0

/-- The session is to get a message: it is open, has a subscription that matches, and it is
    not the one whose last will the message is. -/
def BrokerSession.Wants (sess : BrokerSession) (message : Message) (exclude : Option Nat)
    (slot : Nat) : Prop :=
  sess.isOpen = true ∧ exclude ≠ some slot ∧
    ∃ sub ∈ sess.subs.entries, topicMatchesFilter sub.1 message.topic = true

/-- Each session that is to get a message is sent it once, with the smaller of its QoS and
    the largest that was granted, and the others are not sent it. -/
def DeliveredOnce (s : Delivery) (message : Message) (exclude : Option Nat) : Prop :=
  ∀ slot sess, s.sessions[slot]? = some sess →
    (∀ sock, sess.sock = some sock → sess.Wants message exclude slot →
      s.sends message exclude slot =
        [(sock.conn, message, min message.qos (sess.largest message.topic))]) ∧
    (¬sess.Wants message exclude slot → s.sends message exclude slot = [])

/-- The same session with its subscriptions in some order. -/
structure BrokerSession.Reordered (sess other : BrokerSession) : Prop where
  perm : sess.subs.entries.Perm other.subs.entries
  same : other = { sess with subs := other.subs }

/-- What is sent does not depend on the order in which the sessions subscribed. -/
def OrderFree (s : Delivery) (message : Message) (exclude : Option Nat) : Prop :=
  ∀ sessions, List.Forall₂ BrokerSession.Reordered s.sessions sessions →
    ∀ slot, ({ s with sessions }).sends message exclude slot = s.sends message exclude slot

/-- A session is to be sent a message with a QoS. -/
def BrokerSession.WantsQos (sess : BrokerSession) (message : Message) (exclude : Option Nat)
    (slot qos : Nat) : Prop :=
  sess.isOpen = true ∧ exclude ≠ some slot ∧ ∃ sub ∈ sess.subs.entries,
    topicMatchesFilter sub.1 message.topic = true ∧ effectiveDeliveryQos message.qos sub.2 = qos

instance (sess : BrokerSession) (message : Message) (exclude : Option Nat) (slot qos : Nat) :
    Decidable (sess.WantsQos message exclude slot qos) :=
  inferInstanceAs (Decidable (_ ∧ _ ∧ _))

/-- The number of sessions from a slot on that are to be sent a message with QoS 1. -/
def qos1Count (message : Message) (exclude : Option Nat) : (slot : Nat) → List BrokerSession → Nat
  | _, [] => 0
  | slot, sess :: rest =>
    (if sess.WantsQos message exclude slot 1 then 1 else 0) +
      qos1Count message exclude (slot + 1) rest

/-- The length of the packet for a message with QoS 1, if it is not too long. -/
def qos1Length (message : Message) : Option Nat :=
  (buildQos1PublishPacket (bytesOf message.topic) (bytesOf message.payload) message.retain 1).map
    List.length

/-- Whether the packet for a message with QoS 0 is not too long. -/
def qos0Fits (message : Message) : Bool :=
  (publishPieces (bytesOf message.topic) (bytesOf message.payload) 0 message.retain 0).isSome

/-- The subscriptions of a session that a message matches all give it the same QoS. -/
def BrokerSession.Alike (sess : BrokerSession) (message : Message) : Prop :=
  ∀ a ∈ sess.subs.entries, ∀ b ∈ sess.subs.entries,
    topicMatchesFilter a.1 message.topic = true → topicMatchesFilter b.1 message.topic = true →
      effectiveDeliveryQos message.qos a.2 = effectiveDeliveryQos message.qos b.2

/-- No session has subscriptions with different QoS for a message, its packets are not too
    long, and those with QoS 1 can all be kept. -/
structure CanDeliver (s : Delivery) (message : Message) (exclude : Option Nat) : Prop where
  alike : ∀ slot (sess : BrokerSession), s.sessions[slot]? = some sess → sess.Wants message exclude slot →
    sess.Alike message
  fits : ∀ slot (sess : BrokerSession), s.sessions[slot]? = some sess → sess.WantsQos message exclude slot 0 →
    qos0Fits message = true
  room : ∀ slot (sess : BrokerSession), s.sessions[slot]? = some sess → sess.WantsQos message exclude slot 1 →
    none ∈ sess.pending ∧ ∃ length, qos1Length message = some length ∧
      s.pendingBytes + length * qos1Count message exclude 0 s.sessions ≤ mqttQos1MaxPendingBytes

/-! ### A publish alone is a run -/

def Delivery.withTasks (s : Delivery) (tasks : List (List Work)) : Delivery := { s with tasks }

section

variable (s : Delivery) (tasks : List (List Work))

theorem closeIfCurrent_withTasks (slot : Nat) (sock : Socket) :
    (s.withTasks tasks).closeIfCurrent slot sock = (s.closeIfCurrent slot sock).withTasks tasks := by
  unfold Delivery.closeIfCurrent
  rw [show (s.withTasks tasks).sessions = s.sessions from rfl]
  cases s.sessions[slot]? with
  | none => rfl
  | some sess =>
    dsimp only
    split_ifs <;> rfl

theorem startTarget_withTasks (target : Target)
    (rc : SendResult) : (s.withTasks tasks).startTarget target rc =
      ((s.startTarget target rc).1.withTasks tasks, (s.startTarget target rc).2) := by
  unfold Delivery.startTarget
  rw [show (s.withTasks tasks).sessions = s.sessions from rfl]
  cases s.sessions[target.slot]? with
  | none => rfl
  | some sess =>
    by_cases hqos : target.qos = 1
    · simp only [if_pos hqos]
      cases (if rc = .ok then target.packet else none) with
      | none => rfl
      | some packet =>
        by_cases hcur : (!sess.current target.sock) = true
        · simp only [if_pos hcur]
        simp only [if_neg hcur]
        change (if mqttQos1MaxPendingBytes < s.pendingBytes + packet.length then _ else _) = _
        by_cases hfull : mqttQos1MaxPendingBytes < s.pendingBytes + packet.length
        · simp only [if_pos hfull]
          rfl
        simp only [if_neg hfull]
        cases sess.pending.findIdx? Option.isNone with
        | none => rfl
        | some i => rfl
    · simp only [if_neg hqos]
      split_ifs with hback hsent
      · rfl
      · rfl
      · rw [closeIfCurrent_withTasks]

theorem writeTarget_withTasks (target : Target)
    (entry : Nat) (rc : SendResult) : (s.withTasks tasks).writeTarget target entry rc =
      ((s.writeTarget target entry rc).1.withTasks tasks, (s.writeTarget target entry rc).2) := by
  unfold Delivery.writeTarget
  rw [show (s.withTasks tasks).sessions = s.sessions from rfl]
  cases s.sessions[target.slot]? with
  | none => rfl
  | some sess =>
    dsimp only
    split
    · split_ifs
      · cases rc with
        | ok => rfl
        | failed => rfl
        | partialFail =>
          rw [closeIfCurrent_withTasks]
      · rfl
    · rfl

theorem sendTarget_withTasks (target : Target) :
    (s.withTasks tasks).sendTarget target = (s.sendTarget target).withTasks tasks := by
  unfold Delivery.sendTarget
  rw [startTarget_withTasks]
  rcases s.startTarget target .ok with ⟨next, result⟩
  cases result with
  | reserved entry =>
    dsimp only
    rw [writeTarget_withTasks]
  | refused => rfl
  | dropped => rfl
  | sent => rfl

end

theorem foldl_sendTarget_withTasks (targets : List Target) (s : Delivery)
    (tasks : List (List Work)) : targets.foldl Delivery.sendTarget (s.withTasks tasks) =
      (targets.foldl Delivery.sendTarget s).withTasks tasks := by
  induction targets generalizing s with
  | nil => rfl
  | cons target targets ih => rw [List.foldl_cons, sendTarget_withTasks, ih, List.foldl_cons]

theorem afterRefusal_starts (targets : List Target) {rest : List Work}
    (hrest : afterRefusal rest = rest) :
    afterRefusal (targets.map Work.start ++ rest) = targets.map Work.start ++ rest := by
  cases targets with
  | nil => exact hrest
  | cons target targets => rfl

theorem go_step (rc : SendResult) {task : Nat} {work : Work} {rest : List Work}
    (htask : s.tasks[task]? = some (work :: rest)) : deliveryStep s (.go task rc) =
      some ((workStep s rc rest work).1.withTasks
        ((workStep s rc rest work).1.tasks.set task (workStep s rc rest work).2)) := by
  simp only [deliveryStep, htask]
  rfl

theorem startTarget_tasks (s : Delivery) (target : Target) (rc : SendResult) :
    (s.startTarget target rc).1.tasks = s.tasks :=
  congrArg (fun r : Delivery × StartResult => r.1.tasks)
    (startTarget_withTasks s s.tasks target rc)

theorem writeTarget_tasks (s : Delivery) (target : Target) (entry : Nat) (rc : SendResult) :
    (s.writeTarget target entry rc).1.tasks = s.tasks :=
  congrArg (fun r : Delivery × Bool => r.1.tasks)
    (writeTarget_withTasks s s.tasks target entry rc)

theorem run_target {task : Nat} {rest : List Work} (hrest : afterRefusal rest = rest)
    (htask : s.tasks[task]? = some (.start target :: rest)) :
    ∃ acts, (∀ act ∈ acts, act = .go task .ok) ∧
      Lib.run deliveryStep s acts =
        some ((s.sendTarget target).withTasks (s.tasks.set task rest)) := by
  have hstep := go_step .ok htask
  have htasks := startTarget_tasks s target .ok
  have hsend : s.sendTarget target = match s.startTarget target .ok with
    | (t, .reserved entry) => (t.writeTarget target entry .ok).1
    | (t, _) => t := rfl
  unfold workStep at hstep
  dsimp only at hstep
  cases hstart : s.startTarget target .ok with
  | mk next result =>
    rw [hstart] at hstep hsend htasks
    have hlast : ∀ left, afterStart target rest result = left →
        deliveryStep s (.go task .ok) = some (next.withTasks (s.tasks.set task left)) := by
      rintro left rfl
      rw [hstep, ← htasks]
    cases result with
    | refused =>
      refine ⟨[.go task .ok], fun act hact => List.mem_singleton.1 hact, ?_⟩
      rw [Lib.run_cons (hlast rest hrest) [], hsend]
      rfl
    | dropped | sent =>
      refine ⟨[.go task .ok], fun act hact => List.mem_singleton.1 hact, ?_⟩
      rw [Lib.run_cons (hlast rest rfl) [], hsend]
      rfl
    | reserved entry =>
      rcases List.getElem?_eq_some_iff.1 htask with ⟨hlt, -⟩
      have hfirst := hlast (.write target entry :: rest) rfl
      have hat : (next.withTasks (s.tasks.set task (.write target entry :: rest))).tasks[task]? =
          some (.write target entry :: rest) := List.getElem?_set_self hlt
      have hsecond := go_step .ok hat
      unfold workStep at hsecond
      dsimp only at hsecond
      rw [writeTarget_withTasks] at hsecond
      refine ⟨[.go task .ok, .go task .ok], fun act hact => ?_, ?_⟩
      · rcases List.mem_cons.1 hact with h | h
        · exact h
        · exact List.mem_singleton.1 h
      have hset : (s.tasks.set task (.write target entry :: rest)).set task rest =
          s.tasks.set task rest := List.set_set _
      rw [Lib.run_cons hfirst, Lib.run_cons hsecond, hsend]
      have hwork : (if (next.writeTarget target entry .ok).2 = true then rest
          else afterRefusal rest) = rest := by
        rw [hrest, ite_self]
      rw [hwork]
      change some (Delivery.withTasks _ ((s.tasks.set task _).set task rest)) = _
      rw [hset]
      rfl

theorem run_targets {task : Nat} {rest : List Work} (hrest : afterRefusal rest = rest)
    (targets : List Target) : ∀ s : Delivery,
    s.tasks[task]? = some (targets.map Work.start ++ rest) →
    ∃ acts, (∀ act ∈ acts, act = .go task .ok) ∧
      Lib.run deliveryStep s acts =
        some ((targets.foldl Delivery.sendTarget s).withTasks (s.tasks.set task rest)) := by
  induction targets with
  | nil =>
    intro s htask
    refine ⟨[], nofun, ?_⟩
    have hsame : s.tasks.set task rest = s.tasks := by
      rcases List.getElem?_eq_some_iff.1 htask with ⟨hlt, hget⟩
      rw [List.map_nil, List.nil_append] at hget
      rw [← hget]
      exact List.set_getElem_self hlt
    rw [hsame]
    rfl
  | cons target targets ih =>
    intro s htask
    rcases run_target (afterRefusal_starts targets hrest) htask with ⟨first, hfirst, hrun⟩
    rcases List.getElem?_eq_some_iff.1 htask with ⟨hlt, -⟩
    rcases ih ((s.sendTarget target).withTasks
      (s.tasks.set task (targets.map Work.start ++ rest))) (List.getElem?_set_self hlt) with
      ⟨more, hmore, hrun'⟩
    refine ⟨first ++ more, fun act hact => ?_, ?_⟩
    · rcases List.mem_append.1 hact with h | h
      · exact hfirst act h
      · exact hmore act h
    rw [Lib.run_append hrun, hrun', List.foldl_cons, foldl_sendTarget_withTasks]
    change some (Delivery.withTasks _ ((s.tasks.set task _).set task rest)) = _
    rw [List.set_set]
    rfl

/-- **A publish alone is a run of the broker in which one task does its work and nothing
    fails.** -/
theorem publishAlone_run {task n : Nat} {message : Message} {exclude : Option Nat}
    {rest : List Work} (hrest : afterRefusal rest = rest)
    (htask : s.tasks[task]? = some (.distribute n message exclude :: rest)) :
    ∃ acts, (∀ act ∈ acts, act = .go task .ok) ∧
      Lib.run deliveryStep s acts =
        some ((s.publishAlone n message exclude).withTasks (s.tasks.set task rest)) := by
  have hstep := go_step .ok htask
  rcases List.getElem?_eq_some_iff.1 htask with ⟨hlt, -⟩
  rcases run_targets hrest (s.distribute n message exclude).2
    ((s.distribute n message exclude).1.withTasks
      (s.tasks.set task ((s.distribute n message exclude).2.map Work.start ++ rest)))
    (List.getElem?_set_self hlt) with ⟨acts, hacts, hrun⟩
  refine ⟨.go task .ok :: acts, fun act hact => ?_, ?_⟩
  · rcases List.mem_cons.1 hact with h | h
    · exact h
    · exact hacts act h
  rw [Lib.run_cons hstep]
  refine hrun.trans ?_
  rw [foldl_sendTarget_withTasks]
  change some (Delivery.withTasks _ ((s.tasks.set task _).set task rest)) = _
  rw [List.set_set]
  rfl

/-! ### Sending to one session -/

/-- A packet can be sent to a session: the session is the one it is for, the packet is not
    too long, and with QoS 1 it can be kept. -/
def Delivery.CanSend (s : Delivery) (target : Target) : Prop :=
  ∃ sess, s.sessions[target.slot]? = some sess ∧ sess.current target.sock = true ∧
    if target.qos = 1 then
      none ∈ sess.pending ∧ ∃ packet, target.packet = some packet ∧
        s.pendingBytes + packet.length ≤ mqttQos1MaxPendingBytes
    else target.pieces.isSome = true

/-- The event of a packet that is written for the first time. -/
def Target.wrote (target : Target) : DeliveryEvent :=
  .wrote target.slot target.sock.conn target.message target.qos target.pid false

def Target.kept (target : Target) : Nat :=
  if target.qos = 1 then (target.packet.map List.length).getD 0 else 0

/-- What sending to a session does: other sessions stay as they are, and the packet is written
    and kept, or it is not. -/
structure SendEffect (s : Delivery) (target : Target) (t : Delivery) : Prop where
  others : ∀ slot, slot ≠ target.slot → t.sessions[slot]? = s.sessions[slot]?
  effect : (s.CanSend target ∧ t.log = target.wrote :: s.log ∧
      t.pendingBytes = s.pendingBytes + target.kept) ∨
    (¬s.CanSend target ∧ (∀ slot, sentTo slot t.log = sentTo slot s.log) ∧
      t.pendingBytes = s.pendingBytes)

theorem setSession_of_ne {slot other : Nat} (h : other ≠ slot) :
    (s.setSession slot sess).sessions[other]? = s.sessions[other]? :=
  List.getElem?_set_ne (Ne.symm h)

theorem setSession_self (sess : BrokerSession) {old : BrokerSession}
    (h : s.sessions[slot]? = some old) : (s.setSession slot sess).sessions[slot]? = some sess := by
  rcases List.getElem?_eq_some_iff.1 h with ⟨hlt, -⟩
  exact List.getElem?_set_self hlt

theorem closeIfCurrent_others {slot other : Nat} {sock : Socket} (h : other ≠ slot) :
    (s.closeIfCurrent slot sock).sessions[other]? = s.sessions[other]? := by
  unfold Delivery.closeIfCurrent
  split
  · rfl
  split_ifs
  · exact setSession_of_ne h
  · rfl

theorem closeIfCurrent_kept (s : Delivery) (slot : Nat) (sock : Socket) :
    (s.closeIfCurrent slot sock).log = s.log ∧
      (s.closeIfCurrent slot sock).pendingBytes = s.pendingBytes := by
  unfold Delivery.closeIfCurrent
  split
  · exact ⟨rfl, rfl⟩
  · split_ifs <;> exact ⟨rfl, rfl⟩

theorem findFree_isSome_iff (pending : List (Option Pending)) :
    (pending.findIdx? Option.isNone).isSome ↔ none ∈ pending := by
  rw [List.findIdx?_isSome, List.any_eq_true]
  constructor
  · rintro ⟨entry, hmem, hnone⟩
    rwa [← Option.isNone_iff_eq_none.1 hnone]
  · intro h
    exact ⟨none, h, rfl⟩

/-- With QoS 0 a packet is written, or the session is closed, or nothing is done. -/
theorem sendTarget_qos0 (hqos : target.qos ≠ 1) : SendEffect s target (s.sendTarget target) := by
  unfold Delivery.sendTarget Delivery.startTarget
  cases hsess : s.sessions[target.slot]? with
  | none =>
    refine ⟨fun _ _ => rfl, .inr ⟨?_, fun _ => rfl, rfl⟩⟩
    rintro ⟨sess, hsome, -⟩
    rw [hsess] at hsome
    cases hsome
  | some sess =>
    have hsame : ∀ other, s.sessions[target.slot]? = some other → other = sess := by
      intro other h
      rw [hsess] at h
      exact (Option.some.inj h).symm
    simp only [if_neg hqos, true_and]
    by_cases hcur : sess.current target.sock = true
    · simp only [hcur, Bool.not_true, Bool.false_eq_true, if_false]
      by_cases hpieces : target.pieces.isSome = true
      · rw [if_pos hpieces]
        refine ⟨fun _ _ => rfl, .inl ⟨⟨sess, hsess, hcur, ?_⟩, rfl, ?_⟩⟩
        · rw [if_neg hqos]
          exact hpieces
        unfold Target.kept
        rw [if_neg hqos]
        rfl
      · rw [if_neg hpieces]
        rcases closeIfCurrent_kept s target.slot target.sock with ⟨hlog, hbytes⟩
        refine ⟨fun slot h => closeIfCurrent_others h, .inr ⟨?_, fun _ => by rw [hlog], hbytes⟩⟩
        rintro ⟨other, -, -, h⟩
        rw [if_neg hqos] at h
        exact hpieces h
    · rw [Bool.not_eq_true] at hcur
      simp only [hcur, Bool.not_false, if_true]
      refine ⟨fun _ _ => rfl, .inr ⟨?_, fun _ => rfl, rfl⟩⟩
      rintro ⟨other, hother, h, -⟩
      rw [hsame other hother, hcur] at h
      cases h

theorem sendTarget_qos1 (hqos : target.qos = 1) : SendEffect s target (s.sendTarget target) := by
  unfold Delivery.sendTarget Delivery.startTarget
  cases hsess : s.sessions[target.slot]? with
  | none =>
    refine ⟨fun _ _ => rfl, .inr ⟨?_, fun _ => rfl, rfl⟩⟩
    rintro ⟨sess, hsome, -⟩
    rw [hsess] at hsome
    cases hsome
  | some sess =>
    -- Whatever keeps the packet back leaves everything else as it is.
    have hback : ∀ t : Delivery, t.sessions = s.sessions → t.pendingBytes = s.pendingBytes →
        (∀ slot, sentTo slot t.log = sentTo slot s.log) →
        ¬(sess.current target.sock = true ∧ none ∈ sess.pending ∧
          ∃ packet, target.packet = some packet ∧
            s.pendingBytes + packet.length ≤ mqttQos1MaxPendingBytes) →
        SendEffect s target t := by
      intro t hsessions hbytes hlog hnot
      refine ⟨fun _ _ => by rw [hsessions], .inr ⟨?_, hlog, hbytes⟩⟩
      rintro ⟨other, hother, hcur, h⟩
      rw [hsess] at hother
      cases hother
      rw [if_pos hqos] at h
      exact hnot ⟨hcur, h⟩
    simp only [if_pos hqos, if_true]
    cases hpacket : target.packet with
    | none =>
      refine hback _ rfl rfl (fun _ => rfl) ?_
      rintro ⟨-, -, packet, h, -⟩
      rw [hpacket] at h
      cases h
    | some packet =>
      by_cases hcur : sess.current target.sock = true
      · simp only [hcur, Bool.not_true, Bool.false_eq_true, if_false]
        by_cases hbytes : s.pendingBytes + packet.length ≤ mqttQos1MaxPendingBytes
        · have hroom : ¬mqttQos1MaxPendingBytes < s.pendingBytes + packet.length := by omega
          simp only [hroom, if_false]
          cases hfree : sess.pending.findIdx? Option.isNone with
          | none =>
            refine hback _ rfl rfl (fun _ => rfl) ?_
            rintro ⟨-, h, -⟩
            rw [← findFree_isSome_iff, hfree] at h
            cases h
          | some i =>
            have hmem : none ∈ sess.pending := by
              rw [← findFree_isSome_iff, hfree]
              rfl
            have hlt : i < sess.pending.length := (List.findIdx?_eq_some_iff_getElem.1 hfree).1
            have hkept : target.kept = packet.length := by
              unfold Target.kept
              rw [if_pos hqos, hpacket]
              rfl
            have hnew := setSession_self { sess with
              pending := sess.pending.set i (some (target.pending packet.length)) } hsess
            unfold Delivery.writeTarget
            dsimp only
            rw [hnew]
            dsimp only
            rw [List.getElem?_set_self hlt]
            dsimp only [Target.pending]
            change SendEffect s target (if (sess.current target.sock && _ && _) = true then _
              else _ : Delivery × Bool).1
            simp only [hcur, decide_true, Bool.and_self, if_true]
            refine ⟨fun slot h => ?_, .inl ⟨⟨sess, hsess, hcur, ?_⟩, ?_, ?_⟩⟩
            · change (Delivery.setSession _ target.slot _).sessions[slot]? = _
              rw [setSession_of_ne h]
              exact setSession_of_ne h
            · rw [if_pos hqos]
              exact ⟨hmem, packet, hpacket, hbytes⟩
            · unfold Target.wrote
              rw [hqos]
              rfl
            · rw [hkept]
              rfl
        · have hfull : mqttQos1MaxPendingBytes < s.pendingBytes + packet.length := by omega
          simp only [hfull, if_true]
          refine hback _ rfl rfl (fun _ => rfl) ?_
          rintro ⟨-, -, other, h, hle⟩
          rw [hpacket] at h
          cases h
          exact hbytes hle
      · rw [Bool.not_eq_true] at hcur
        simp only [hcur, Bool.not_false, if_true]
        refine hback _ rfl rfl (fun _ => rfl) ?_
        rintro ⟨h, -⟩
        rw [hcur] at h
        cases h

theorem sendTarget_effect (s : Delivery) (target : Target) :
    SendEffect s target (s.sendTarget target) := by
  by_cases hqos : target.qos = 1
  · exact sendTarget_qos1 hqos
  · exact sendTarget_qos0 hqos

/-! ### The length of a packet -/

theorem nextPacketId_ne_zero (pid : UInt16) : nextPacketId pid ≠ 0 := by
  unfold nextPacketId
  split_ifs with hzero
  · decide
  · exact hzero

theorem qos1_length (hpid : target.pid ≠ 0) :
    target.packet.map List.length = qos1Length target.message := by
  unfold Target.packet qos1Length buildQos1PublishPacket
  have hone : (1 : UInt16) ≠ 0 := by decide
  simp only [hpid, hone, false_or]
  split_ifs
  · rfl
  · simp [twoBytes]

theorem effectiveDeliveryQos_le (publishQos subscriptionQos : Nat) :
    effectiveDeliveryQos publishQos subscriptionQos ≤ 1 := by
  unfold effectiveDeliveryQos
  omega

/-- With what was granted, the QoS is the smaller of the two. -/
theorem effectiveDeliveryQos_eq_min {publishQos subscriptionQos : Nat} (h : subscriptionQos ≤ 1) :
    effectiveDeliveryQos publishQos subscriptionQos = min publishQos subscriptionQos := by
  unfold effectiveDeliveryQos
  omega

/-! ### Sending to all sessions -/

theorem sentTo_wrote (slot : Nat) (target : Target) (log : List DeliveryEvent) :
    sentTo slot (target.wrote :: log) =
      if target.slot = slot then (target.sock.conn, target.message, target.qos) :: sentTo slot log
      else sentTo slot log := by
  by_cases hslot : target.slot = slot
  · simp [sentTo, Target.wrote, hslot]
  · simp [sentTo, Target.wrote, hslot]

/-! ### The targets of a publish -/

variable {message : Message} {exclude publication : Option Nat}

/-- The QoS that the broker takes for a session: that of the first subscription. -/
def BrokerSession.FirstQos (sess : BrokerSession) (message : Message) (exclude : Option Nat)
    (slot qos : Nat) : Prop :=
  ∃ sub, sess.subscription message.topic = some sub ∧ exclude ≠ some slot ∧
    effectiveDeliveryQos message.qos sub.2 = qos

theorem FirstQos_unique {slot qos other : Nat} (h : sess.FirstQos message exclude slot qos)
    (hother : sess.FirstQos message exclude slot other) : qos = other := by
  rcases h with ⟨sub, hsub, -, rfl⟩
  rcases hother with ⟨sub', hsub', -, rfl⟩
  rw [hsub] at hsub'
  rw [Option.some.inj hsub']

theorem subscription_eq_some {topic : List Char} (h : sess.subscription topic = some sub) :
    sess.isOpen = true ∧ sub ∈ sess.subs.entries ∧ topicMatchesFilter sub.1 topic = true := by
  unfold BrokerSession.subscription at h
  split_ifs at h with hopen
  have hmatch := List.find?_some h
  exact ⟨hopen, List.mem_of_find?_eq_some h, hmatch⟩

theorem FirstQos.wantsQos (h : sess.FirstQos message exclude slot qos) :
    sess.WantsQos message exclude slot qos := by
  rcases h with ⟨sub, hsub, hne, hqos⟩
  rcases subscription_eq_some hsub with ⟨hopen, hmem, hmatch⟩
  exact ⟨hopen, hne, sub, hmem, hmatch, hqos⟩

theorem Wants.first (h : sess.Wants message exclude slot) :
    ∃ qos, sess.FirstQos message exclude slot qos := by
  rcases h with ⟨hopen, hne, sub, hmem, hmatch⟩
  have hsome : (sess.subs.entries.find? fun sub =>
      topicMatchesFilter sub.1 message.topic).isSome = true := by
    rw [List.find?_isSome]
    exact ⟨sub, hmem, hmatch⟩
  rcases Option.isSome_iff_exists.1 hsome with ⟨first, hfirst⟩
  refine ⟨_, first, ?_, hne, rfl⟩
  unfold BrokerSession.subscription
  rw [if_pos hopen]
  exact hfirst

theorem WantsQos.wants (h : sess.WantsQos message exclude slot qos) :
    sess.Wants message exclude slot := by
  rcases h with ⟨hopen, hne, sub, hmem, hmatch, -⟩
  exact ⟨hopen, hne, sub, hmem, hmatch⟩

/-- Where all subscriptions give the same QoS, the first one does. -/
theorem wantsQos_iff_first (halike : sess.Wants message exclude slot → sess.Alike message) :
    sess.WantsQos message exclude slot qos ↔ sess.FirstQos message exclude slot qos := by
  constructor
  · intro h
    rcases Wants.first (WantsQos.wants h) with ⟨first, hfirst⟩
    rcases h with ⟨hopen, hne, sub, hmem, hmatch, hqos⟩
    rcases hfirst with ⟨other, hother, -, -⟩
    rcases subscription_eq_some hother with ⟨-, hmem', hmatch'⟩
    have hsame := halike ⟨hopen, hne, sub, hmem, hmatch⟩ other hmem' sub hmem hmatch' hmatch
    exact ⟨other, hother, hne, hsame.trans hqos⟩
  · exact FirstQos.wantsQos

theorem isOpen_sock (h : sess.isOpen = true) :
    ∃ sock, sess.sock = some sock ∧ sess.current sock = true := by
  unfold BrokerSession.isOpen at h
  rw [Bool.and_eq_true, Bool.and_eq_true] at h
  rcases Option.isSome_iff_exists.1 h.2 with ⟨sock, hsock⟩
  refine ⟨sock, hsock, ?_⟩
  unfold BrokerSession.current
  rw [h.1.1, h.1.2, hsock]
  simp

/-- What a target says for a session: its socket, the QoS of the first subscription, and an
    id where it needs one. -/
structure TargetFor (message : Message) (exclude : Option Nat) (index : Nat)
    (sess : BrokerSession) (target : Target) : Prop where
  slot : target.slot = index
  first : sess.FirstQos message exclude index target.qos
  sock : sess.sock = some target.sock
  current : sess.current target.sock = true
  message : target.message = message
  pid : target.qos = 1 → target.pid ≠ 0
  none : target.qos = 0 → target.pid = 0

variable (message exclude publication) in
theorem publishTargets_cons (slot : Nat) (pid : UInt16) (sess : BrokerSession)
    (rest : List BrokerSession) : ((∀ qos, ¬sess.FirstQos message exclude slot qos) ∧ ∃ next,
      (publishTargets publication message exclude slot pid (sess :: rest)).1 =
        (publishTargets publication message exclude (slot + 1) next rest).1) ∨
    ∃ target next, TargetFor message exclude slot sess target ∧
      (publishTargets publication message exclude slot pid (sess :: rest)).1 =
        target :: (publishTargets publication message exclude (slot + 1) next rest).1 := by
  rw [publishTargets]
  cases hsub : sess.subscription message.topic with
  | none =>
    refine .inl ⟨?_, pid, rfl⟩
    rintro qos ⟨sub, hsome, -⟩
    rw [hsub] at hsome
    cases hsome
  | some sub =>
    rcases isOpen_sock (subscription_eq_some hsub).1 with ⟨sock, hsock, hcur⟩
    rw [hsock]
    dsimp only
    by_cases hexclude : exclude = some slot
    · rw [if_pos hexclude]
      refine .inl ⟨?_, pid, rfl⟩
      rintro qos ⟨-, -, hne, -⟩
      exact hne hexclude
    rw [if_neg hexclude]
    refine .inr ⟨_, _, ⟨rfl, ⟨sub, hsub, hexclude, rfl⟩, hsock, hcur, rfl, ?_, ?_⟩, rfl⟩
    · intro hone
      have hne : effectiveDeliveryQos message.qos sub.2 ≠ 0 := by
        dsimp only at hone
        omega
      rw [if_neg hne, if_neg hne]
      exact nextPacketId_ne_zero pid
    · intro hzero
      rw [if_pos hzero]

theorem canSend_iff (h : TargetFor message exclude slot sess target)
    (hsess : s.sessions[slot]? = some sess) :
    s.CanSend target ↔ (target.qos = 0 → qos0Fits message = true) ∧
      (target.qos = 1 → none ∈ sess.pending ∧ ∃ length, qos1Length message = some length ∧
        s.pendingBytes + length ≤ mqttQos1MaxPendingBytes) := by
  have hle : target.qos ≤ 1 := by
    rcases h.first with ⟨sub, -, -, hqos⟩
    rw [← hqos]
    exact effectiveDeliveryQos_le _ _
  have hcan : s.CanSend target ↔ if target.qos = 1 then
      none ∈ sess.pending ∧ ∃ packet, target.packet = some packet ∧
        s.pendingBytes + packet.length ≤ mqttQos1MaxPendingBytes
      else target.pieces.isSome = true := by
    unfold Delivery.CanSend
    rw [h.slot, hsess]
    constructor
    · rintro ⟨other, hother, -, hrest⟩
      cases hother
      exact hrest
    · intro hrest
      exact ⟨sess, rfl, h.current, hrest⟩
  rw [hcan]
  by_cases hone : target.qos = 1
  · have hlength := qos1_length (h.pid hone)
    have hzero : ¬target.qos = 0 := by omega
    rw [h.message] at hlength
    simp only [hone, if_true, ← hlength, Option.map_eq_some_iff]
    constructor
    · rintro ⟨hfree, packet, hpacket, hbytes⟩
      exact ⟨fun h => by omega, fun _ => ⟨hfree, packet.length, ⟨packet, hpacket, rfl⟩, hbytes⟩⟩
    rintro ⟨-, hrest⟩
    rcases hrest trivial with ⟨hfree, length, ⟨packet, hpacket, rfl⟩, hbytes⟩
    exact ⟨hfree, packet, hpacket, hbytes⟩
  have hzero : target.qos = 0 := by omega
  have hpieces : target.pieces.isSome = qos0Fits message := by
    unfold Target.pieces qos0Fits
    rw [h.message, hzero, h.none hzero]
  simp only [hzero, hpieces, true_implies]
  constructor
  · intro hfits
    exact ⟨hfits, fun h => by omega⟩
  · intro h
    exact h.1

theorem sentTo_sendTarget (s : Delivery) (target : Target) (slot : Nat) :
    sentTo slot (s.sendTarget target).log = sentTo slot s.log ∨
    (target.slot = slot ∧ sentTo slot (s.sendTarget target).log =
      (target.sock.conn, target.message, target.qos) :: sentTo slot s.log) := by
  rcases (sendTarget_effect s target).effect with ⟨-, hlog, -⟩ | ⟨-, hlog, -⟩
  · rw [hlog, sentTo_wrote]
    by_cases hslot : target.slot = slot
    · rw [if_pos hslot]
      exact .inr ⟨hslot, rfl⟩
    · rw [if_neg hslot]
      exact .inl rfl
  · exact .inl (hlog slot)

/-- The log behind sending to the sessions from a slot on. -/
def Delivery.sentFrom (s : Delivery) (publication : Option Nat) (message : Message)
    (exclude : Option Nat) (slot : Nat) (pid : UInt16) (rest : List BrokerSession) :
    List DeliveryEvent :=
  ((publishTargets publication message exclude slot pid rest).1.foldl Delivery.sendTarget s).log

theorem sentFrom_none {pid next : UInt16}
    (hnext : (publishTargets publication message exclude slot pid (sess :: rest)).1 =
      (publishTargets publication message exclude (slot + 1) next rest).1) :
    s.sentFrom publication message exclude slot pid (sess :: rest) =
      s.sentFrom publication message exclude (slot + 1) next rest := by
  unfold Delivery.sentFrom
  rw [hnext]

theorem sentFrom_target {pid next : UInt16}
    (hnext : (publishTargets publication message exclude slot pid (sess :: rest)).1 =
      target :: (publishTargets publication message exclude (slot + 1) next rest).1) :
    s.sentFrom publication message exclude slot pid (sess :: rest) =
      (s.sendTarget target).sentFrom publication message exclude (slot + 1) next rest := by
  unfold Delivery.sentFrom
  rw [hnext, List.foldl_cons]

variable (message exclude publication) in
/-- Sending from a slot on: a session is sent nothing, or once the message with the QoS of its
    first subscription. The induction is over the sessions that are left, and those before
    them stay as they are. -/
theorem sent_targets (rest : List BrokerSession) : ∀ (slot : Nat) (pid : UInt16) (s : Delivery)
    (other : Nat),
    sentTo other (s.sentFrom publication message exclude slot pid rest) = sentTo other s.log ∨
    ∃ i sess qos sock, other = slot + i ∧ rest[i]? = some sess ∧
      sess.FirstQos message exclude other qos ∧ sess.sock = some sock ∧
      sentTo other (s.sentFrom publication message exclude slot pid rest) =
        (sock.conn, message, qos) :: sentTo other s.log := by
  induction rest with
  | nil => exact fun _ _ _ _ => .inl rfl
  | cons sess rest ih =>
    intro slot pid s other
    rcases publishTargets_cons message exclude publication slot pid sess rest with
      ⟨-, next, hnext⟩ | ⟨target, next, hfor, hnext⟩
    · rw [sentFrom_none hnext]
      rcases ih (slot + 1) next s other with hsame | ⟨i, sess', qos, sock, rfl, hget, hrest⟩
      · exact .inl hsame
      · exact .inr ⟨i + 1, sess', qos, sock, by omega, hget, hrest⟩
    rw [sentFrom_target hnext]
    rcases ih (slot + 1) next (s.sendTarget target) other with
      hsame | ⟨i, sess', qos, sock, rfl, hget, hfirst, hsock, hsent⟩
    · rw [hsame]
      rcases sentTo_sendTarget s target other with hnone | ⟨hslot, hsent⟩
      · exact .inl hnone
      refine .inr ⟨0, sess, target.qos, target.sock, ?_, rfl, ?_, hfor.sock, ?_⟩
      · rw [← hslot, hfor.slot]
        rfl
      · rw [← hslot, hfor.slot]
        exact hfor.first
      · rw [hsent, hfor.message]
    · refine .inr ⟨i + 1, sess', qos, sock, by omega, hget, hfirst, hsock, ?_⟩
      rcases sentTo_sendTarget s target (slot + 1 + i) with hnone | ⟨hslot, -⟩
      · rw [hsent, hnone]
      · have hat := hfor.slot
        omega

theorem qos1Count_pos : ∀ {slot : Nat},
    0 < qos1Count message exclude slot rest → ∃ i, ∃ sess : BrokerSession, rest[i]? = some sess ∧
      sess.WantsQos message exclude (slot + i) 1 := by
  induction rest with
  | nil =>
    intro slot h
    exact absurd h (Nat.lt_irrefl 0)
  | cons sess rest ih =>
    intro slot h
    by_cases hwants : sess.WantsQos message exclude slot 1
    · exact ⟨0, sess, rfl, hwants⟩
    unfold qos1Count at h
    rw [if_neg hwants, Nat.zero_add] at h
    rcases ih h with ⟨i, sess', hget, hwants'⟩
    refine ⟨i + 1, sess', hget, ?_⟩
    rw [show slot + (i + 1) = slot + 1 + i by omega]
    exact hwants'

/-- The packets for the sessions from a slot on can be sent and kept. -/
def RoomFrom (message : Message) (exclude : Option Nat) (bytes slot : Nat)
    (rest : List BrokerSession) : Prop :=
  ∀ i (sess : BrokerSession), rest[i]? = some sess →
    (sess.WantsQos message exclude (slot + i) 0 → qos0Fits message = true) ∧
    (sess.WantsQos message exclude (slot + i) 1 → none ∈ sess.pending ∧
      ∃ length, qos1Length message = some length ∧
        bytes + length * qos1Count message exclude slot rest ≤ mqttQos1MaxPendingBytes)

/-- Every session from a slot on that is to get a message is sent something. -/
def ReachesFrom (message : Message) (exclude : Option Nat) (slot : Nat)
    (rest : List BrokerSession) (before after : List DeliveryEvent) : Prop :=
  ∀ i (sess : BrokerSession), rest[i]? = some sess → sess.Wants message exclude (slot + i) →
    sentTo (slot + i) after ≠ sentTo (slot + i) before

/-- A session that is a target is sent something exactly if its packet can be sent. -/
theorem reaches_iff_canSend (hfor : TargetFor message exclude slot sess target) :
    sentTo slot (s.sendTarget target).log ≠ sentTo slot s.log ↔ s.CanSend target := by
  rcases (sendTarget_effect s target).effect with ⟨hcan, hlog, -⟩ | ⟨hnot, hlog, -⟩
  · rw [hlog, sentTo_wrote, if_pos hfor.slot]
    exact ⟨fun _ => hcan, fun _ => List.cons_ne_self _ _⟩
  · rw [hlog slot]
    exact ⟨fun h => absurd rfl h, fun h => absurd h hnot⟩

theorem reachesFrom_cons {before after : List DeliveryEvent} :
    ReachesFrom message exclude slot (sess :: rest) before after ↔
      (sess.Wants message exclude slot → sentTo slot after ≠ sentTo slot before) ∧
        ReachesFrom message exclude (slot + 1) rest before after := by
  constructor
  · intro h
    refine ⟨h 0 sess rfl, fun i other hget => ?_⟩
    rw [show slot + 1 + i = slot + (i + 1) by omega]
    exact h (i + 1) other hget
  rintro ⟨hhead, hrest⟩ i other hget
  cases i with
  | zero =>
    cases hget
    exact hhead
  | succ i =>
    rw [show slot + (i + 1) = slot + 1 + i by omega]
    exact hrest i other hget

/-- The sessions of a list each have subscriptions that agree on a message. -/
def AlikeFrom (message : Message) (exclude : Option Nat) (slot : Nat)
    (rest : List BrokerSession) : Prop :=
  ∀ i (sess : BrokerSession), rest[i]? = some sess → sess.Wants message exclude (slot + i) →
    sess.Alike message

theorem AlikeFrom.tail (h : AlikeFrom message exclude slot (sess :: rest)) :
    AlikeFrom message exclude (slot + 1) rest := by
  intro i other hget
  rw [show slot + 1 + i = slot + (i + 1) by omega]
  exact h (i + 1) other hget

theorem roomFrom_cons_none {bytes slot : Nat} (hnone : ¬sess.Wants message exclude slot) :
    RoomFrom message exclude bytes slot (sess :: rest) ↔
      RoomFrom message exclude bytes (slot + 1) rest := by
  have hcount : qos1Count message exclude slot (sess :: rest) =
      qos1Count message exclude (slot + 1) rest := by
    rw [qos1Count, if_neg fun h => hnone (WantsQos.wants h), Nat.zero_add]
  unfold RoomFrom
  rw [hcount]
  constructor
  · intro h i other hget
    rw [show slot + 1 + i = slot + (i + 1) by omega]
    exact h (i + 1) other hget
  intro h i other hget
  cases i with
  | zero =>
    cases hget
    exact ⟨fun hw => absurd (WantsQos.wants hw) hnone, fun hw => absurd (WantsQos.wants hw) hnone⟩
  | succ i =>
    rw [show slot + (i + 1) = slot + 1 + i by omega]
    exact h i other hget

theorem roomFrom_cons (hfor : TargetFor message exclude slot sess target)
    (hsess : s.sessions[slot]? = some sess)
    (halike : sess.Wants message exclude slot → sess.Alike message) :
    RoomFrom message exclude s.pendingBytes slot (sess :: rest) ↔
      s.CanSend target ∧
        RoomFrom message exclude (s.pendingBytes + target.kept) (slot + 1) rest := by
  have hqos : ∀ qos, sess.WantsQos message exclude slot qos ↔ target.qos = qos := by
    intro qos
    rw [wantsQos_iff_first halike]
    constructor
    · intro h
      exact FirstQos_unique hfor.first h
    · rintro rfl
      exact hfor.first
  have hsplit : RoomFrom message exclude s.pendingBytes slot (sess :: rest) ↔
      ((target.qos = 0 → qos0Fits message = true) ∧
        (target.qos = 1 → none ∈ sess.pending ∧ ∃ length, qos1Length message = some length ∧
          s.pendingBytes + length * qos1Count message exclude slot (sess :: rest) ≤
            mqttQos1MaxPendingBytes)) ∧
      ∀ i (other : BrokerSession), rest[i]? = some other →
        (other.WantsQos message exclude (slot + 1 + i) 0 → qos0Fits message = true) ∧
        (other.WantsQos message exclude (slot + 1 + i) 1 → none ∈ other.pending ∧
          ∃ length, qos1Length message = some length ∧
            s.pendingBytes + length * qos1Count message exclude slot (sess :: rest) ≤
              mqttQos1MaxPendingBytes) := by
    constructor
    · intro h
      refine ⟨?_, fun i other hget => ?_⟩
      · rw [← hqos 0, ← hqos 1]
        exact h 0 sess rfl
      · rw [show slot + 1 + i = slot + (i + 1) by omega]
        exact h (i + 1) other hget
    rintro ⟨hhead, hrest⟩ i other hget
    cases i with
    | zero =>
      cases hget
      rw [← hqos 0, ← hqos 1] at hhead
      exact hhead
    | succ i =>
      rw [show slot + (i + 1) = slot + 1 + i by omega]
      exact hrest i other hget
  rw [hsplit, canSend_iff hfor hsess]
  by_cases hone : target.qos = 1
  · have hzero : ¬target.qos = 0 := by omega
    have hcount : qos1Count message exclude slot (sess :: rest) =
        1 + qos1Count message exclude (slot + 1) rest := by
      rw [qos1Count, if_pos ((hqos 1).2 hone)]
    have hkept : ∀ length, qos1Length message = some length → target.kept = length := by
      intro length hlength
      unfold Target.kept
      rw [if_pos hone, qos1_length (hfor.pid hone), hfor.message, hlength]
      rfl
    have hmul : ∀ length, length * qos1Count message exclude slot (sess :: rest) =
        length + length * qos1Count message exclude (slot + 1) rest := by
      intro length
      rw [hcount, Nat.mul_add, Nat.mul_one]
    simp only [hone, true_implies, hmul]
    constructor
    · rintro ⟨⟨-, hfree, length, hlength, hbytes⟩, hrest⟩
      refine ⟨⟨fun h => absurd h (by decide), hfree, length, hlength, by omega⟩,
        fun i other hget => ⟨(hrest i other hget).1, fun hw => ?_⟩⟩
      rcases (hrest i other hget).2 hw with ⟨hfree', length', hlength', hbytes'⟩
      refine ⟨hfree', length', hlength', ?_⟩
      rw [hkept length' hlength']
      omega
    rintro ⟨⟨-, hfree, length, hlength, hbytes⟩, hrest⟩
    -- Either there is another packet to keep, or the one of this session is the last.
    have hall : s.pendingBytes + (length + length * qos1Count message exclude (slot + 1) rest) ≤
        mqttQos1MaxPendingBytes := by
      by_cases hmore : 0 < qos1Count message exclude (slot + 1) rest
      · rcases qos1Count_pos hmore with ⟨i, other, hget, hw⟩
        rcases (hrest i other hget).2 hw with ⟨-, length', hlength', hbytes'⟩
        rw [hkept length hlength] at hbytes'
        rw [hlength] at hlength'
        cases hlength'
        omega
      · rw [show qos1Count message exclude (slot + 1) rest = 0 by omega, Nat.mul_zero]
        omega
    refine ⟨⟨fun h => absurd h (by decide), hfree, length, hlength, hall⟩,
      fun i other hget => ⟨(hrest i other hget).1, fun hw => ?_⟩⟩
    exact ⟨((hrest i other hget).2 hw).1, length, hlength, hall⟩
  · have hcount : qos1Count message exclude slot (sess :: rest) =
        qos1Count message exclude (slot + 1) rest := by
      rw [qos1Count, if_neg fun h => hone ((hqos 1).1 h), Nat.zero_add]
    have hkept : target.kept = 0 := by
      unfold Target.kept
      rw [if_neg hone]
    rw [hcount, hkept, Nat.add_zero]
    constructor
    · rintro ⟨hhead, hrest⟩
      exact ⟨⟨hhead.1, fun h => absurd h hone⟩, hrest⟩
    · rintro ⟨hhead, hrest⟩
      exact ⟨⟨hhead.1, fun h => absurd h hone⟩, hrest⟩

variable (publication) in
/-- Where no session has subscriptions that disagree, all sessions from a slot on are reached
    exactly if there is room for their packets. -/
theorem reachesFrom_iff (rest : List BrokerSession) : ∀ (slot : Nat) (pid : UInt16) (s : Delivery),
    (∀ i : Nat, s.sessions[slot + i]? = rest[i]?) → AlikeFrom message exclude slot rest →
    (ReachesFrom message exclude slot rest s.log
        (s.sentFrom publication message exclude slot pid rest) ↔
      RoomFrom message exclude s.pendingBytes slot rest) := by
  induction rest with
  | nil =>
    intro slot pid s _ _
    constructor
    · nofun
    · nofun
  | cons sess rest ih =>
    intro slot pid s hsessions halike
    have hsess : s.sessions[slot]? = some sess := hsessions 0
    have hbehind : ∀ i : Nat, s.sessions[slot + 1 + i]? = rest[i]? := by
      intro i
      rw [show slot + 1 + i = slot + (i + 1) by omega]
      exact hsessions (i + 1)
    rcases publishTargets_cons message exclude publication slot pid sess rest with
      ⟨hnot, next, hnext⟩ | ⟨target, next, hfor, hnext⟩
    · have hnone : ¬sess.Wants message exclude slot := by
        intro hwants
        rcases Wants.first hwants with ⟨qos, hfirst⟩
        exact hnot qos hfirst
      rw [sentFrom_none hnext, reachesFrom_cons, roomFrom_cons_none hnone,
        ← ih (slot + 1) next s hbehind halike.tail]
      exact ⟨fun h => h.2, fun h => ⟨fun hwants => absurd hwants hnone, h⟩⟩
    have hwants : sess.Wants message exclude slot :=
      WantsQos.wants (FirstQos.wantsQos hfor.first)
    have hothers : ∀ other, other ≠ slot →
        sentTo other (s.sendTarget target).log = sentTo other s.log := by
      intro other hne
      rcases sentTo_sendTarget s target other with h | ⟨hslot, -⟩
      · exact h
      · exact absurd (hslot.symm.trans hfor.slot) hne
    -- The sessions behind this one add nothing to what it was sent.
    have hself : sentTo slot ((s.sendTarget target).sentFrom publication message exclude
        (slot + 1) next rest) = sentTo slot (s.sendTarget target).log := by
      rcases sent_targets message exclude publication rest (slot + 1) next (s.sendTarget target) slot with
        h | ⟨i, _, _, _, hslot, _⟩
      · exact h
      · omega
    have hframe : ∀ i : Nat, (s.sendTarget target).sessions[slot + 1 + i]? = rest[i]? := by
      intro i
      rw [(sendTarget_effect s target).others _ (by rw [hfor.slot]; omega)]
      exact hbehind i
    have hrest := ih (slot + 1) next (s.sendTarget target) hframe halike.tail
    have hbefore : ∀ after, ReachesFrom message exclude (slot + 1) rest s.log after ↔
        ReachesFrom message exclude (slot + 1) rest (s.sendTarget target).log after := by
      intro after
      constructor
      · intro h i other hget hw
        rw [hothers _ (by omega)]
        exact h i other hget hw
      · intro h i other hget hw
        rw [← hothers _ (by omega)]
        exact h i other hget hw
    rw [sentFrom_target hnext, reachesFrom_cons, hself, reaches_iff_canSend hfor, hbefore, hrest,
      roomFrom_cons hfor hsess (halike 0 sess rfl)]
    rcases (sendTarget_effect s target).effect with ⟨hcan, -, hbytes⟩ | ⟨hnot, -, -⟩
    · rw [hbytes]
      exact ⟨fun h => ⟨hcan, h.2⟩, fun h => ⟨fun _ => hcan, h.2⟩⟩
    · exact ⟨fun h => absurd (h.1 hwants) hnot, fun h => absurd h.1 hnot⟩

/-! ### The whole publish -/

theorem foldr_max_mem {l : List Nat} (h : l ≠ []) : l.foldr max 0 ∈ l := by
  induction l with
  | nil => exact absurd rfl h
  | cons a l ih =>
    rw [List.foldr_cons]
    by_cases hempty : l = []
    · rw [hempty, List.foldr_nil, Nat.max_zero]
      exact .head _
    by_cases hle : a ≤ l.foldr max 0
    · rw [Nat.max_eq_right hle]
      exact .tail _ (ih hempty)
    · rw [Nat.max_eq_left (by omega)]
      exact .head _

/-- Where all subscriptions give the same QoS, it is the one for the largest that was
    granted. -/
theorem firstQos_eq_largest (halike : sess.Alike message)
    (hfirst : sess.FirstQos message exclude slot qos) :
    qos = min message.qos (sess.largest message.topic) := by
  rcases hfirst with ⟨sub, hsub, -, rfl⟩
  rcases subscription_eq_some hsub with ⟨-, hmem, hmatch⟩
  have hne : (sess.subs.entries.filter fun sub =>
      topicMatchesFilter sub.1 message.topic).map Prod.snd ≠ [] := by
    apply List.ne_nil_of_mem
    exact List.mem_map_of_mem (List.mem_filter.2 ⟨hmem, hmatch⟩)
  rcases List.mem_map.1 (foldr_max_mem hne) with ⟨best, hbest, hlargest⟩
  rcases List.mem_filter.1 hbest with ⟨hbestmem, hbestmatch⟩
  calc effectiveDeliveryQos message.qos sub.2
      = effectiveDeliveryQos message.qos best.2 := halike sub hmem best hbestmem hmatch hbestmatch
    _ = min message.qos best.2 := effectiveDeliveryQos_eq_min (sess.subs.granted best hbestmem)
    _ = min message.qos (sess.largest message.topic) := by
      rw [hlargest]
      rfl

variable (message exclude) in
/-- What a session is sent by a publish: nothing, or once the message with the QoS of its
    first subscription. -/
theorem sends_cases (s : Delivery) (slot : Nat) : s.sends message exclude slot = [] ∨
    ∃ sess qos sock, s.sessions[slot]? = some sess ∧ sess.FirstQos message exclude slot qos ∧
      sess.sock = some sock ∧ s.sends message exclude slot = [(sock.conn, message, qos)] := by
  have h := sent_targets message exclude (some s.nextPublication) s.sessions 0 s.packetId
    (({ s with log := [] }).distribute s.nextPublication message exclude).1 slot
  rcases h with h | ⟨i, sess, qos, sock, hslot, hget, hfirst, hsock, hsent⟩
  · exact .inl h
  · rw [show slot = i by omega] at hfirst hsent ⊢
    exact .inr ⟨sess, qos, sock, hget, hfirst, hsock, hsent⟩

/-- Where no session has subscriptions that disagree, all sessions that are to get a message
    are sent it exactly if there is room. -/
theorem sends_iff (s : Delivery)
    (halike : ∀ slot (sess : BrokerSession), s.sessions[slot]? = some sess →
      sess.Wants message exclude slot → sess.Alike message) :
    (∀ slot (sess : BrokerSession), s.sessions[slot]? = some sess →
      sess.Wants message exclude slot → s.sends message exclude slot ≠ []) ↔
      RoomFrom message exclude s.pendingBytes 0 s.sessions := by
  have hfrom : AlikeFrom message exclude 0 s.sessions := by
    intro i sess hget
    rw [Nat.zero_add]
    exact halike i sess hget
  have hiff := reachesFrom_iff (some s.nextPublication) s.sessions 0 s.packetId
    (({ s with log := [] }).distribute s.nextPublication message exclude).1
    (fun i => by rw [Nat.zero_add]; rfl) hfrom
  change _ ↔ RoomFrom message exclude s.pendingBytes 0 s.sessions at hiff
  rw [← hiff]
  constructor
  · intro h i sess hget
    rw [Nat.zero_add]
    exact h i sess hget
  intro h slot sess hget
  have hat := h slot sess hget
  rw [Nat.zero_add] at hat
  exact hat

theorem canDeliver_room (h : CanDeliver s message exclude) :
    RoomFrom message exclude s.pendingBytes 0 s.sessions := by
  intro i sess hget
  rw [Nat.zero_add]
  exact ⟨h.fits i sess hget, h.room i sess hget⟩

/-! ### Other orders -/

theorem BrokerSession.Reordered.refl (sess : BrokerSession) : sess.Reordered sess := ⟨.refl _, rfl⟩

section

variable (h : sess.Reordered other)
include h

theorem BrokerSession.Reordered.isOpen : other.isOpen = sess.isOpen := by
  rw [h.same]
  rfl

theorem BrokerSession.Reordered.sock : other.sock = sess.sock := by
  rw [h.same]

theorem BrokerSession.Reordered.pending : other.pending = sess.pending := by
  rw [h.same]

theorem BrokerSession.Reordered.wants_iff (slot : Nat) :
    other.Wants message exclude slot ↔ sess.Wants message exclude slot := by
  unfold BrokerSession.Wants
  rw [h.isOpen]
  simp only [h.perm.mem_iff]

theorem BrokerSession.Reordered.wantsQos_iff (slot qos : Nat) :
    other.WantsQos message exclude slot qos ↔ sess.WantsQos message exclude slot qos := by
  unfold BrokerSession.WantsQos
  rw [h.isOpen]
  simp only [h.perm.mem_iff]

theorem BrokerSession.Reordered.alike (halike : sess.Alike message) : other.Alike message := by
  intro a ha b hb
  exact halike a (h.perm.mem_iff.2 ha) b (h.perm.mem_iff.2 hb)

end

theorem forall₂_get {sessions others : List BrokerSession}
    (h : List.Forall₂ BrokerSession.Reordered sessions others) {i : Nat}
    (hget : others[i]? = some other) : ∃ sess, sessions[i]? = some sess ∧ sess.Reordered other := by
  induction h generalizing i with
  | nil => cases hget
  | cons hhead _ ih =>
    cases i with
    | zero =>
      cases hget
      exact ⟨_, rfl, hhead⟩
    | succ i => exact ih hget

theorem forall₂_set {sessions : List BrokerSession} : ∀ {i : Nat} {sess other : BrokerSession},
    sessions[i]? = some sess → sess.Reordered other →
      List.Forall₂ BrokerSession.Reordered sessions (sessions.set i other) := by
  induction sessions with
  | nil =>
    intro i sess other hget _
    cases hget
  | cons first sessions ih =>
    intro i sess other hget h
    cases i with
    | zero =>
      cases hget
      exact .cons h (List.forall₂_same.2 fun sess _ => .refl sess)
    | succ i => exact .cons (.refl first) (ih hget h)

theorem qos1Count_reordered {sessions others : List BrokerSession}
    (h : List.Forall₂ BrokerSession.Reordered sessions others) : ∀ slot : Nat,
    qos1Count message exclude slot others = qos1Count message exclude slot sessions := by
  induction h with
  | nil => exact fun _ => rfl
  | cons hhead _ ih =>
    intro slot
    unfold qos1Count
    rw [ih]
    simp only [hhead.wantsQos_iff]

/-- The condition does not depend on the order of the subscriptions. -/
theorem CanDeliver.reordered (h : CanDeliver s message exclude) {others : List BrokerSession}
    (horder : List.Forall₂ BrokerSession.Reordered s.sessions others) :
    CanDeliver { s with sessions := others } message exclude where
  alike slot other hother hwants := by
    rcases forall₂_get horder hother with ⟨sess, hsess, hre⟩
    exact hre.alike (h.alike slot sess hsess ((hre.wants_iff slot).1 hwants))
  fits slot other hother hwants := by
    rcases forall₂_get horder hother with ⟨sess, hsess, hre⟩
    exact h.fits slot sess hsess ((hre.wantsQos_iff slot 0).1 hwants)
  room slot other hother hwants := by
    rcases forall₂_get horder hother with ⟨sess, hsess, hre⟩
    rw [hre.pending, qos1Count_reordered horder]
    exact h.room slot sess hsess ((hre.wantsQos_iff slot 1).1 hwants)

theorem exists_front (hmem : sub ∈ sess.subs.entries) :
    ∃ other, sess.Reordered other ∧ other.subs.entries.head? = some sub := by
  have hperm : sess.subs.entries.Perm (sub :: sess.subs.entries.erase sub) :=
    List.perm_cons_erase hmem
  let subs : Subscriptions :=
    { entries := sub :: sess.subs.entries.erase sub
      granted := fun other h => sess.subs.granted other (hperm.mem_iff.2 h)
      distinct := (hperm.map Prod.fst).nodup_iff.1 sess.subs.distinct
      room := by
        rw [← hperm.length_eq]
        exact sess.subs.room }
  exact ⟨{ sess with subs }, ⟨hperm, rfl⟩, rfl⟩

theorem firstQos_of_head (hhead : sess.subs.entries.head? = some sub)
    (hmatch : topicMatchesFilter sub.1 message.topic = true)
    (h : sess.FirstQos message exclude slot qos) :
    qos = effectiveDeliveryQos message.qos sub.2 := by
  rcases h with ⟨first, hfirst, -, rfl⟩
  unfold BrokerSession.subscription at hfirst
  split_ifs at hfirst with hopen
  cases hentries : sess.subs.entries with
  | nil =>
    rw [hentries] at hhead
    cases hhead
  | cons a rest =>
    rw [hentries] at hhead hfirst
    cases hhead
    simp only [List.find?_cons, hmatch, Option.some.injEq] at hfirst
    rw [hfirst]

/-- If the order of the subscriptions does not matter, they all give the same QoS: each of them
    may be the first. -/
theorem alike_of_orderFree (honce : DeliveredOnce s message exclude)
    (hfree : OrderFree s message exclude) (slot : Nat) (sess : BrokerSession)
    (hsess : s.sessions[slot]? = some sess) (hwants : sess.Wants message exclude slot) :
    sess.Alike message := by
  rcases isOpen_sock hwants.1 with ⟨sock, hsock, -⟩
  have hsent := (honce slot sess hsess).1 sock hsock hwants
  -- Whichever subscription is in front, its QoS is the one that is sent.
  have hfront : ∀ sub ∈ sess.subs.entries, topicMatchesFilter sub.1 message.topic = true →
      effectiveDeliveryQos message.qos sub.2 = min message.qos (sess.largest message.topic) := by
    intro sub hmem hmatch
    rcases exists_front hmem with ⟨other, hre, hhead⟩
    have hsame := hfree _ (forall₂_set hsess hre) slot
    rw [hsent] at hsame
    rcases sends_cases message exclude
      { s with sessions := s.sessions.set slot other } slot with
      hnone | ⟨other', qos, sock', hget, hfirst, -, hsome⟩
    · rw [hnone] at hsame
      cases hsame
    rcases List.getElem?_eq_some_iff.1 hsess with ⟨hlt, -⟩
    rw [List.getElem?_set_self hlt] at hget
    cases hget
    rw [hsome] at hsame
    injection hsame with hhead' _
    injection hhead' with _ hrest
    injection hrest with _ hqos
    rw [← firstQos_of_head hhead hmatch hfirst, hqos]
  intro a ha b hb hamatch hbmatch
  rw [hfront a ha hamatch, hfront b hb hbmatch]

/-- **Each open session with a matching subscription is sent a message once, with the right
    QoS, in whatever order it subscribed, exactly if none has subscriptions that disagree and
    the packets can be sent and kept.** -/
theorem publish_once (s : Delivery) (message : Message) (exclude : Option Nat) :
    (DeliveredOnce s message exclude ∧ OrderFree s message exclude) ↔
      CanDeliver s message exclude := by
  constructor
  · rintro ⟨honce, hfree⟩
    have halike := alike_of_orderFree honce hfree
    have hroom := (sends_iff s halike).1 fun slot sess hsess hwants => by
      rcases isOpen_sock hwants.1 with ⟨sock, hsock, -⟩
      rw [(honce slot sess hsess).1 sock hsock hwants]
      exact List.cons_ne_nil _ _
    refine ⟨halike, fun slot sess hsess => ?_, fun slot sess hsess => ?_⟩
    · have hat := (hroom slot sess hsess).1
      rw [Nat.zero_add] at hat
      exact hat
    · have hat := (hroom slot sess hsess).2
      rw [Nat.zero_add] at hat
      exact hat
  intro hcan
  have hreach : ∀ {t : Delivery}, CanDeliver t message exclude → ∀ slot (sess : BrokerSession),
      t.sessions[slot]? = some sess → sess.Wants message exclude slot →
      ∃ qos sock, sess.FirstQos message exclude slot qos ∧ sess.sock = some sock ∧
        t.sends message exclude slot = [(sock.conn, message, qos)] := by
    intro t ht slot sess hsess hwants
    have hne := (sends_iff t ht.alike).2 (canDeliver_room ht) slot sess hsess hwants
    rcases sends_cases message exclude t slot with
      hnone | ⟨sess', qos, sock, hget, hfirst, hsock, hsent⟩
    · exact absurd hnone hne
    rw [hsess] at hget
    cases hget
    exact ⟨qos, sock, hfirst, hsock, hsent⟩
  have hnot : ∀ {t : Delivery} {slot : Nat}, (∀ sess : BrokerSession,
      t.sessions[slot]? = some sess → ¬sess.Wants message exclude slot) →
      t.sends message exclude slot = [] := by
    intro t slot h
    rcases sends_cases message exclude t slot with
      hnone | ⟨sess, qos, sock, hget, hfirst, -, -⟩
    · exact hnone
    · exact absurd (WantsQos.wants (FirstQos.wantsQos hfirst)) (h sess hget)
  constructor
  · intro slot sess hsess
    constructor
    · intro sock hsock hwants
      rcases hreach hcan slot sess hsess hwants with ⟨qos, sock', hfirst, hsock', hsent⟩
      rw [hsock] at hsock'
      rw [hsent, ← Option.some.inj hsock',
        firstQos_eq_largest (hcan.alike slot sess hsess hwants) hfirst]
    intro hwants
    apply hnot
    intro other hother
    rw [hsess] at hother
    cases hother
    exact hwants
  intro others horder slot
  by_cases hwants : ∃ other : BrokerSession, others[slot]? = some other ∧
      other.Wants message exclude slot
  · rcases hwants with ⟨other, hother, hw⟩
    rcases forall₂_get horder hother with ⟨sess, hsess, hre⟩
    have hw' := (hre.wants_iff slot).1 hw
    rcases hreach hcan slot sess hsess hw' with ⟨qos, sock, hfirst, hsock, hsent⟩
    rcases hreach (hcan.reordered horder) slot other hother hw with
      ⟨qos', sock', hfirst', hsock', hsent'⟩
    have halike := hcan.alike slot sess hsess hw'
    have hboth := (wantsQos_iff_first fun _ => halike).1
      ((hre.wantsQos_iff slot qos').1 (FirstQos.wantsQos hfirst'))
    rw [hre.sock, hsock] at hsock'
    rw [hsent, hsent', FirstQos_unique hfirst hboth, Option.some.inj hsock']
  rw [hnot fun other hother hw => hwants ⟨other, hother, hw⟩, hnot]
  intro sess hsess hw
  -- A session that is to get the message is so in any order.
  rcases List.getElem?_eq_some_iff.1 hsess with ⟨hlt, -⟩
  have hlt' : slot < others.length := by
    rw [← horder.length_eq]
    exact hlt
  rcases forall₂_get horder (List.getElem?_eq_getElem hlt') with ⟨sess', hsess', hre⟩
  rw [hsess] at hsess'
  cases hsess'
  exact hwants ⟨_, List.getElem?_eq_getElem hlt', (hre.wants_iff slot).2 hw⟩

/-- A session with two subscriptions that match, the first of them with QoS 0. -/
def overlapping : Delivery where
  sessions := [{ sock := some ⟨3, 0⟩, active := true, clientId := "webui".toList
                 subs := { entries := [("web/+".toList, 0), ("web/led".toList, 1)] } }]

/-- A message with QoS 1 is sent with QoS 0, though QoS 1 was granted. -/
theorem not_deliveredOnce :
    ¬DeliveredOnce overlapping ⟨"web/led".toList, "on".toList, 1, false⟩ none := by
  intro h
  have hsent := (h 0 _ rfl).1 ⟨3, 0⟩ rfl
    ⟨rfl, by decide, ("web/led".toList, 1), .tail _ List.mem_cons_self, by decide⟩
  revert hsent
  decide

theorem publishAlone_run_overlapping :
    let s := { overlapping with tasks := [[.distribute 1 ⟨"web/led".toList, [], 1, false⟩ none]] }
    ∃ acts, (∀ act ∈ acts, act = .go 0 .ok) ∧ Lib.run deliveryStep s acts =
      some ((s.publishAlone 1 ⟨"web/led".toList, [], 1, false⟩ none).withTasks [[]]) :=
  publishAlone_run rfl rfl

end SceneHub.Broker
