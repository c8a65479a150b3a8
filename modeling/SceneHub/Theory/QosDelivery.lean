import SceneHub.Theory.PublishOnce

/-!
# Messages with QoS 1

What becomes of a publish that was acknowledged, over every run of the broker.

It is ingested and posted, and then distributed. A session that it is for gets a packet which
stays in its table until the session acknowledges it or is closed, however the writes turn
out. The broker does turn packets away, though: if a packet cannot be built, if it is too much
beside the packets that are kept, and if the table of the session is full. The message is then
dropped for this session, which goes on.

## Main definitions

* `Delivery.Answered`: A session holds a message, has acknowledged it, or is closed.
* `DeliveryEvent.Reasonable`: Why packets are turned away.
* `Delivery.Conserved`: What becomes of the messages with QoS 1.
* `Onward`: What a step does to the sessions.
* `Delivery.Inv`: What holds of the sessions, the tasks and the log.

## Theorems

* `mem_dues`: Which sessions a message is for.
* `startTarget_due`: A packet that is started is kept or turned away, if the session is open.
* `inv_step`: Every step keeps the invariant.
* `qos1_conserved`: What becomes of the messages over every run.
-/

namespace SceneHub.Broker

variable {work : Work} {rest works old : List Work} {publication : Option Nat} {message : Message}

/-! ### What becomes of a message -/

/-- The session does not have a connection any more. -/
def BrokerSession.Gone (sess : BrokerSession) (conn : Nat) : Prop :=
  sess.sock.map Socket.conn ≠ some conn

/-- A packet of a publication is in the table of the session. -/
def BrokerSession.Holds (sess : BrokerSession) (publication : Nat) : Prop :=
  ∃ entry ∈ sess.pending, entry.bind Pending.publication = some publication

instance (sess : BrokerSession) (conn : Nat) : Decidable (sess.Gone conn) :=
  inferInstanceAs (Decidable (_ ≠ _))

instance (sess : BrokerSession) (publication : Nat) : Decidable (sess.Holds publication) :=
  inferInstanceAs (Decidable (∃ entry ∈ sess.pending, _))

/-- A session has acknowledged a publication. -/
def DeliveryEvent.confirms (slot publication : Nat) : DeliveryEvent → Bool
  | .confirmed other _ n => other = slot && n = some publication
  | _ => false

/-- A packet of a publication was turned away for a connection. -/
def DeliveryEvent.turnsAway (slot conn publication : Nat) : DeliveryEvent → Bool
  | .turnedAway other c n _ _ _ => other = slot && c = conn && n = some publication
  | _ => false

def DeliveryEvent.posts (publication : Nat) : DeliveryEvent → Bool
  | .posted n _ => n = publication
  | _ => false

def DeliveryEvent.distributes (publication : Nat) : DeliveryEvent → Bool
  | .distributed n _ _ => n = publication
  | _ => false

/-- The event is neither an acknowledgement of the broker nor a distribution. -/
def DeliveryEvent.silent : DeliveryEvent → Bool
  | .acked _ => false
  | .distributed _ _ _ => false
  | _ => true

/-- A packet with QoS 1 of a publication is to be started for a connection. -/
def Work.starts (slot conn publication : Nat) : Work → Bool
  | .start target => target.qos = 1 && target.slot = slot && target.sock.conn = conn &&
    target.publication = some publication
  | _ => false

def Work.injects (publication : Nat) : Work → Bool
  | .inject n => n = publication
  | _ => false

def Work.distributes (publication : Nat) : Work → Bool
  | .distribute n _ _ => n = publication
  | _ => false

def Work.publishes (publication : Option Nat) : Work → Bool
  | .inject n => publication = some n
  | .distribute n _ none => publication = some n
  | _ => false

/-- The session, and its socket, that a packet is for. -/
def Work.socket : Work → Option (Nat × Socket)
  | .start target => some (target.slot, target.sock)
  | .write target _ => some (target.slot, target.sock)
  | .deliver slot sock _ _ _ => some (slot, sock)
  | _ => none

namespace Delivery

/-- A task has such a piece of work. -/
def Todo (s : Delivery) (p : Work → Bool) : Prop := ∃ works ∈ s.tasks, ∃ work ∈ works, p work = true

/-- Such an event is in the log. -/
def Noted (s : Delivery) (p : DeliveryEvent → Bool) : Prop := ∃ event ∈ s.log, p event = true

/-- A session has a publication in its table, or does not have the connection any more, or has
    acknowledged it. -/
def Answered (s : Delivery) (slot conn publication : Nat) : Prop :=
  (∀ sess ∈ s.sessions[slot]?, sess.Gone conn ∨ sess.Holds publication) ∨
    s.Noted (DeliveryEvent.confirms slot publication)

instance (s : Delivery) (p : Work → Bool) : Decidable (s.Todo p) :=
  inferInstanceAs (Decidable (∃ works ∈ s.tasks, ∃ work ∈ works, _))

instance (s : Delivery) (p : DeliveryEvent → Bool) : Decidable (s.Noted p) :=
  inferInstanceAs (Decidable (∃ event ∈ s.log, _))

instance (s : Delivery) (slot conn publication : Nat) :
    Decidable (s.Answered slot conn publication) :=
  inferInstanceAs (Decidable ((∀ sess ∈ s.sessions[slot]?, _) ∨ _))

end Delivery

/-- A packet that is turned away could not be built, or is too long beside the bytes that are
    kept, or meets a full table. -/
def DeliveryEvent.Reasonable : DeliveryEvent → Prop
  | .turnedAway _ _ _ length bytes held =>
    length = none ∨ (∃ l ∈ length, mqttQos1MaxPendingBytes < bytes + l) ∨
      held = mqttQos1MaxInflight
  | _ => True

/-- A publish that was acknowledged is ingested and posted, and distributed, or a task is about
    to. Each session it is distributed to has it in its table or has acknowledged it, or is
    closed, or a task is about to send it, or the broker has turned it away for a reason. It is
    distributed to the open sessions whose first matching subscription gives QoS 1. -/
structure Delivery.Conserved (s : Delivery) : Prop where
  ingested : ∀ n, .acked n ∈ s.log →
    (.ingested n ∈ s.log ∧ s.Noted (DeliveryEvent.posts n)) ∨ s.Todo (Work.injects n)
  distributed : ∀ n, .acked n ∈ s.log →
    s.Noted (DeliveryEvent.distributes n) ∨ s.Todo (Work.distributes n)
  delivered : ∀ n message dues, .distributed n message dues ∈ s.log → ∀ due ∈ dues,
    s.Todo (Work.starts due.1 due.2 n) ∨ s.Answered due.1 due.2 n ∨
      s.Noted (DeliveryEvent.turnsAway due.1 due.2 n)
  reasons : ∀ event ∈ s.log, event.Reasonable
  dues : ∀ n message exclude slot conn,
    (slot, conn) ∈ dues (s.distribute n message exclude).2 ↔ ∃ sess sock,
      s.sessions[slot]? = some sess ∧ sess.FirstQos message exclude slot 1 ∧
        sess.sock = some sock ∧ sock.conn = conn

/-! ### Which sessions a message is for -/

theorem mem_publishTargets {exclude : Option Nat} {target : Target} (rest : List BrokerSession) :
    ∀ (slot : Nat) (pid : UInt16),
    target ∈ (publishTargets publication message exclude slot pid rest).1 →
      (target.publication = publication ∧ target.message = message ∧
        (target.qos = 0 ∨ target.qos = 1 ∧ target.pid ≠ 0)) ∧
      ∃ i sess, rest[i]? = some sess ∧ target.slot = slot + i ∧ sess.sock = some target.sock := by
  induction rest with
  | nil =>
    nofun
  | cons sess rest ih =>
    intro slot pid h
    have hlater : ∀ next,
        target ∈ (publishTargets publication message exclude (slot + 1) next rest).1 →
        (target.publication = publication ∧ target.message = message ∧
          (target.qos = 0 ∨ target.qos = 1 ∧ target.pid ≠ 0)) ∧
        ∃ i other, (sess :: rest)[i]? = some other ∧
          target.slot = slot + i ∧ other.sock = some target.sock := by
      intro next hmem
      rcases ih (slot + 1) next hmem with ⟨hpacket, i, other, hget, hslot, hsock⟩
      exact ⟨hpacket, i + 1, other, hget, by omega, hsock⟩
    rw [publishTargets] at h
    split at h
    · rename_i sub sock hsub hsock
      by_cases hexclude : exclude = some slot
      · rw [if_pos hexclude] at h
        exact hlater _ h
      rw [if_neg hexclude] at h
      rcases List.mem_cons.1 h with rfl | h
      · refine ⟨⟨rfl, rfl, ?_⟩, 0, sess, rfl, rfl, hsock⟩
        rcases Nat.eq_zero_or_pos (effectiveDeliveryQos message.qos sub.2) with hzero | hpos
        · exact .inl hzero
        have hle : effectiveDeliveryQos message.qos sub.2 ≤ 1 := by
          unfold effectiveDeliveryQos
          omega
        refine .inr ⟨Nat.le_antisymm hle hpos, ?_⟩
        simp only [Nat.ne_of_gt hpos, if_false]
        exact nextPacketId_ne_zero pid
      · exact hlater _ h
    · exact hlater _ h

/-- A message is distributed with QoS 1 to the open sessions whose first matching subscription
    gives it. -/
theorem mem_publishDues (publication : Option Nat) (message : Message) (exclude : Option Nat)
    (due : Nat × Nat) (rest : List BrokerSession) : ∀ (slot : Nat) (pid : UInt16),
    due ∈ dues (publishTargets publication message exclude slot pid rest).1 ↔ ∃ i sess sock,
      rest[i]? = some sess ∧ sess.FirstQos message exclude (slot + i) 1 ∧
        sess.sock = some sock ∧ due = (slot + i, sock.conn) := by
  induction rest with
  | nil =>
    intro slot pid
    constructor
    · nofun
    · rintro ⟨i, sess, sock, hget, -⟩
      cases hget
  | cons sess rest ih =>
    intro slot pid
    -- The session itself is one of them, or one of the others is.
    have hcons : (∃ i other sock, (sess :: rest)[i]? = some other ∧
        other.FirstQos message exclude (slot + i) 1 ∧ other.sock = some sock ∧
          due = (slot + i, sock.conn)) ↔
        (∃ sock, sess.FirstQos message exclude slot 1 ∧ sess.sock = some sock ∧
          due = (slot, sock.conn)) ∨
        ∃ i other sock, rest[i]? = some other ∧
          other.FirstQos message exclude (slot + 1 + i) 1 ∧ other.sock = some sock ∧
            due = (slot + 1 + i, sock.conn) := by
      constructor
      · rintro ⟨i, other, sock, hget, hfirst, hsock, hdue⟩
        cases i with
        | zero =>
          cases hget
          exact .inl ⟨sock, hfirst, hsock, hdue⟩
        | succ i =>
          have hslot : slot + (i + 1) = slot + 1 + i := by omega
          rw [hslot] at hfirst hdue
          exact .inr ⟨i, other, sock, hget, hfirst, hsock, hdue⟩
      · rintro (⟨sock, hfirst, hsock, hdue⟩ | ⟨i, other, sock, hget, hfirst, hsock, hdue⟩)
        · exact ⟨0, sess, sock, rfl, hfirst, hsock, hdue⟩
        have hslot : slot + (i + 1) = slot + 1 + i := by omega
        rw [← hslot] at hfirst hdue
        exact ⟨i + 1, other, sock, hget, hfirst, hsock, hdue⟩
    rw [hcons]
    rcases publishTargets_cons message exclude publication slot pid sess rest with
      ⟨hnone, next, heq⟩ | ⟨target, next, htarget, heq⟩
    · rw [heq, ih]
      constructor
      · exact .inr
      rintro (⟨sock, hfirst, -⟩ | h)
      · exact absurd hfirst (hnone 1)
      · exact h
    rw [heq]
    unfold dues
    rw [List.filter_cons]
    by_cases hqos : target.qos = 1
    · rw [if_pos (decide_eq_true hqos), List.map_cons, List.mem_cons]
      refine or_congr ?_ (ih (slot + 1) next)
      constructor
      · rintro rfl
        refine ⟨target.sock, hqos ▸ htarget.first, htarget.sock, ?_⟩
        rw [htarget.slot]
      · rintro ⟨sock, -, hsock, rfl⟩
        rw [htarget.sock] at hsock
        rw [Option.some.inj hsock, htarget.slot]
    · rw [if_neg (by simpa using hqos)]
      refine (ih (slot + 1) next).trans ⟨.inr, ?_⟩
      rintro (⟨sock, hfirst, -⟩ | h)
      · exact absurd (FirstQos_unique htarget.first hfirst) hqos
      · exact h

theorem mem_dues (s : Delivery) (n : Nat) (message : Message) (exclude : Option Nat)
    (slot conn : Nat) : (slot, conn) ∈ dues (s.distribute n message exclude).2 ↔ ∃ sess sock,
      s.sessions[slot]? = some sess ∧ sess.FirstQos message exclude slot 1 ∧
        sess.sock = some sock ∧ sock.conn = conn := by
  unfold Delivery.distribute
  rw [mem_publishDues]
  constructor
  · rintro ⟨i, sess, sock, hget, hfirst, hsock, hdue⟩
    rw [Nat.zero_add] at hfirst hdue
    injection hdue with hslot hconn
    rw [hslot]
    exact ⟨sess, sock, hget, hfirst, hsock, hconn.symm⟩
  rintro ⟨sess, sock, hget, hfirst, hsock, rfl⟩
  refine ⟨slot, sess, sock, hget, ?_, hsock, ?_⟩
  · rw [Nat.zero_add]
    exact hfirst
  · rw [Nat.zero_add]

/-! ### What a step does to the sessions -/

/-- A socket belongs to a session that is active and is not being closed, and the table has
    its size. -/
structure BrokerSession.Sound (nextConn : Nat) (sess : BrokerSession) : Prop where
  sock : ∀ k ∈ sess.sock, sess.active = true ∧ sess.closing = false ∧ k.conn < nextConn
  size : sess.pending.length = mqttQos1MaxInflight

variable {s s' : Delivery} {slot task n : Nat} {sess next : BrokerSession} {target : Target}
  {rc : SendResult}

/-- A session goes on with what it holds, or it is closed, or has acknowledged it. -/
structure Carries (s s' : Delivery) (slot : Nat) (sess next : BrokerSession) : Prop where
  sound : sess.Sound s.nextConn → next.Sound s'.nextConn
  sock : ∀ k ∈ next.sock, sess.sock = some k ∨ s.nextConn ≤ k.conn
  holds : ∀ n, sess.Holds n → next.Holds n ∨ (∀ conn < s.nextConn, next.Gone conn) ∨
    s'.Noted (DeliveryEvent.confirms slot n)

/-- What a step does to the sessions, whatever it does to the tasks. -/
structure Onward (s s' : Delivery) : Prop where
  nextConn : s.nextConn ≤ s'.nextConn
  log : s.log ⊆ s'.log
  reasons : ∀ event ∈ s'.log, event ∈ s.log ∨ event.Reasonable
  sessions : ∀ slot next, s'.sessions[slot]? = some next →
    ∃ sess, s.sessions[slot]? = some sess ∧ Carries s s' slot sess next

theorem BrokerSession.Sound.weaken (h : sess.Sound n) {m : Nat} (hle : n ≤ m) : sess.Sound m where
  sock k hk := ⟨(h.sock k hk).1, (h.sock k hk).2.1, Nat.lt_of_lt_of_le (h.sock k hk).2.2 hle⟩
  size := h.size

theorem Carries.same (hnext : s.nextConn ≤ s'.nextConn) (hsock : next.sock = sess.sock)
    (hactive : next.active = sess.active) (hclosing : next.closing = sess.closing)
    (hpending : next.pending = sess.pending) : Carries s s' slot sess next where
  sound h := by
    have hmore := h.weaken hnext
    refine ⟨?_, hpending ▸ hmore.size⟩
    rw [hsock, hactive, hclosing]
    exact hmore.sock
  sock k hk := .inl (hsock ▸ hk)
  holds n hn := by
    unfold BrokerSession.Holds
    rw [hpending]
    exact .inl hn

theorem Carries.closed (hsock : next.sock = none)
    (hsize : sess.pending.length = mqttQos1MaxInflight →
      next.pending.length = mqttQos1MaxInflight) : Carries s s' slot sess next where
  sound h := by
    refine ⟨fun k hk => ?_, hsize h.size⟩
    rw [hsock] at hk
    cases hk
  sock k hk := by
    rw [hsock] at hk
    cases hk
  holds n _ := by
    refine .inr (.inl fun conn _ => ?_)
    unfold BrokerSession.Gone
    rw [hsock]
    exact Option.some_ne_none conn ∘ Eq.symm

theorem Carries.table {pending : List (Option Pending)} (hnext : s.nextConn ≤ s'.nextConn)
    (hsize : pending.length = sess.pending.length) (hholds : ∀ n, sess.Holds n →
      { sess with pending }.Holds n ∨ s'.Noted (DeliveryEvent.confirms slot n)) :
    Carries s s' slot sess { sess with pending } where
  sound h := ⟨(h.weaken hnext).sock, hsize.trans h.size⟩
  sock _ hk := .inl hk
  holds n hn := (hholds n hn).imp_right .inr

theorem Onward.quiet (hsessions : s'.sessions = s.sessions) (hnext : s.nextConn ≤ s'.nextConn)
    (hlog : s.log ⊆ s'.log)
    (hreasons : ∀ event ∈ s'.log, event ∈ s.log ∨ event.Reasonable) : Onward s s' where
  nextConn := hnext
  log := hlog
  reasons := hreasons
  sessions slot next hget := by
    rw [hsessions] at hget
    exact ⟨next, hget, .same hnext rfl rfl rfl rfl⟩

theorem Onward.refl (s : Delivery) : Onward s s :=
  .quiet rfl (le_rfl) (List.Subset.refl _) fun _ => .inl

/-- A step that leaves the tasks alone and neither acknowledges nor distributes a publish. -/
structure Plain (s s' : Delivery) : Prop extends Onward s s' where
  tasks : s'.tasks = s.tasks
  number : s'.nextPublication = s.nextPublication
  silent : ∀ event ∈ s'.log, event ∈ s.log ∨ event.silent = true

/-- At most one event is logged. -/
def Logs (s s' : Delivery) : Prop :=
  s'.log = s.log ∨ ∃ event, s'.log = event :: s.log ∧ event.Reasonable ∧ event.silent = true

theorem Logs.subset (h : Logs s s') : s.log ⊆ s'.log := by
  rcases h with hsame | ⟨event, hlog, -⟩
  · rw [hsame]
    exact List.Subset.refl _
  · rw [hlog]
    exact List.subset_cons_self _ _

theorem Logs.new (h : Logs s s') : ∀ event ∈ s'.log,
    event ∈ s.log ∨ (event.Reasonable ∧ event.silent = true) := by
  intro event hevent
  rcases h with hsame | ⟨first, hlog, hnew⟩
  · rw [hsame] at hevent
    exact .inl hevent
  rw [hlog] at hevent
  rcases List.mem_cons.1 hevent with rfl | hold
  · exact .inr hnew
  · exact .inl hold

theorem Plain.of_onward (ho : Onward s s') (hlogs : Logs s s') (htasks : s'.tasks = s.tasks)
    (hnumber : s'.nextPublication = s.nextPublication) : Plain s s' where
  toOnward := ho
  tasks := htasks
  number := hnumber
  silent event hevent := (hlogs.new event hevent).imp_right And.right

theorem Plain.refl (s : Delivery) : Plain s s :=
  .of_onward (.refl s) (.inl rfl) rfl rfl

theorem Plain.quiet (hsessions : s'.sessions = s.sessions) (hnext : s.nextConn ≤ s'.nextConn)
    (hlogs : Logs s s') (htasks : s'.tasks = s.tasks)
    (hnumber : s'.nextPublication = s.nextPublication) : Plain s s' :=
  .of_onward (.quiet hsessions hnext hlogs.subset fun event hevent =>
    (hlogs.new event hevent).imp_right And.left) hlogs htasks hnumber

theorem Plain.of_set (hget : s.sessions[slot]? = some sess)
    (hsessions : s'.sessions = s.sessions.set slot next) (hnext : s.nextConn ≤ s'.nextConn)
    (hlogs : Logs s s') (htasks : s'.tasks = s.tasks)
    (hnumber : s'.nextPublication = s.nextPublication)
    (hcarries : Carries s s' slot sess next) : Plain s s' := by
  refine .of_onward ⟨hnext, hlogs.subset, fun event hevent => ?_, fun other found hfound => ?_⟩
    hlogs htasks hnumber
  · exact (hlogs.new event hevent).imp_right And.left
  rw [hsessions] at hfound
  by_cases hother : other = slot
  · rw [hother] at hfound ⊢
    rcases List.getElem?_eq_some_iff.1 hget with ⟨hlt, -⟩
    rw [List.getElem?_set_self hlt] at hfound
    cases hfound
    exact ⟨sess, hget, hcarries⟩
  · rw [List.getElem?_set_ne (Ne.symm hother)] at hfound
    exact ⟨found, hfound, .same hnext rfl rfl rfl rfl⟩

theorem Onward.answered (h : Onward s s') {conn : Nat} (hconn : conn < s.nextConn)
    (hold : s.Answered slot conn n) : s'.Answered slot conn n := by
  have hnoted : ∀ {p}, s.Noted p → s'.Noted p := by
    rintro p ⟨event, hevent, hp⟩
    exact ⟨event, h.log hevent, hp⟩
  rcases hold with hsess | hconfirmed
  · by_cases hdone : s'.Noted (DeliveryEvent.confirms slot n)
    · exact .inr hdone
    refine .inl fun next hnext => ?_
    rcases h.sessions slot next hnext with ⟨sess, hget, hcarries⟩
    rcases hsess sess hget with hgone | hholds
    · refine .inl fun hback => ?_
      -- A socket the session did not have belongs to a new connection.
      rcases Option.map_eq_some_iff.1 hback with ⟨k, hk, rfl⟩
      rcases hcarries.sock k hk with hsock | hnew
      · rw [BrokerSession.Gone, hsock] at hgone
        exact hgone rfl
      · omega
    · rcases hcarries.holds n hholds with hstill | hgone | hconfirmed
      · exact .inr hstill
      · exact .inl (hgone conn hconn)
      · exact absurd hconfirmed hdone
  · exact .inr (hnoted hconfirmed)

theorem Onward.noted (h : Onward s s') {p : DeliveryEvent → Bool} (hold : s.Noted p) :
    s'.Noted p := by
  rcases hold with ⟨event, hevent, hp⟩
  exact ⟨event, h.log hevent, hp⟩

/-! ### Sending -/

theorem closeIfCurrent_plain (s : Delivery) (slot : Nat) (sock : Socket) :
    Plain s (s.closeIfCurrent slot sock) := by
  unfold Delivery.closeIfCurrent
  cases hget : s.sessions[slot]? with
  | none => exact .refl s
  | some sess =>
    dsimp only
    split_ifs
    · exact .of_set hget rfl (le_rfl) (.inl rfl) rfl rfl (.closed rfl id)
    · exact .refl s

/-- What comes of a packet that is started. -/
inductive StartCase (s : Delivery) (target : Target) : Delivery × StartResult → Prop where
  | closed (h : ∀ sess ∈ s.sessions[target.slot]?, sess.current target.sock = false) :
    StartCase s target (s, .refused)
  | turnedAway (sess : BrokerSession) (length : Option Nat) (result : StartResult)
    (hget : s.sessions[target.slot]? = some sess)
    (hresult : ∀ entry, result ≠ .reserved entry)
    (h : length = none ∨ (∃ l ∈ length, mqttQos1MaxPendingBytes < s.pendingBytes + l) ∨
      none ∉ sess.pending) :
    StartCase s target (s.turnAway sess target length, result)
  | reserved (sess : BrokerSession) (length i : Nat) (hget : s.sessions[target.slot]? = some sess)
    (hcurrent : sess.current target.sock = true)
    (hfree : sess.pending.findIdx? Option.isNone = some i) (hqos : target.qos = 1)
    (hfits : s.pendingBytes + length ≤ mqttQos1MaxPendingBytes) :
    StartCase s target
      ({ s.setSession target.slot
          { sess with pending := sess.pending.set i (some (target.pending length)) } with
        pendingBytes := s.pendingBytes + length }, .reserved i)
  | sent (hqos : target.qos ≠ 1) :
    StartCase s target
      (s.note (.wrote target.slot target.sock.conn target.message target.qos target.pid false),
        .sent)
  | broken (hqos : target.qos ≠ 1) :
    StartCase s target (s.closeIfCurrent target.slot target.sock, .refused)

theorem startTarget_cases (s : Delivery) (target : Target) (rc : SendResult) :
    StartCase s target (s.startTarget target rc) := by
  unfold Delivery.startTarget
  cases hget : s.sessions[target.slot]? with
  | none =>
    refine .closed fun sess hsess => ?_
    rw [hget] at hsess
    cases hsess
  | some sess =>
    dsimp only
    have hclosed : (!sess.current target.sock) = true →
        ∀ other ∈ s.sessions[target.slot]?, other.current target.sock = false := by
      intro hcur other hother
      rw [hget] at hother
      cases hother
      simpa using hcur
    by_cases hqos : target.qos = 1
    · rw [if_pos hqos]
      cases (if rc = .ok then target.packet else none) with
      | none => exact .turnedAway sess none .refused hget nofun (.inl rfl)
      | some packet =>
        dsimp only
        by_cases hcur : (!sess.current target.sock) = true
        · rw [if_pos hcur]
          exact .closed (hclosed hcur)
        rw [if_neg hcur]
        by_cases hfull : mqttQos1MaxPendingBytes < s.pendingBytes + packet.length
        · rw [if_pos hfull]
          exact .turnedAway sess packet.length .refused hget nofun
            (.inr (.inl ⟨_, rfl, hfull⟩))
        rw [if_neg hfull]
        cases hfree : sess.pending.findIdx? Option.isNone with
        | none =>
          refine .turnedAway sess packet.length .dropped hget nofun
            (.inr (.inr fun hnone => ?_))
          rw [← findFree_isSome_iff, hfree] at hnone
          cases hnone
        | some i =>
          exact .reserved sess packet.length i hget (by simpa using hcur) hfree hqos (by omega)
    · rw [if_neg hqos]
      by_cases hcur : (!sess.current target.sock) = true
      · rw [if_pos hcur]
        exact .closed (hclosed hcur)
      rw [if_neg hcur]
      split_ifs
      · exact .sent hqos
      · exact .broken hqos

theorem holds_set {i : Nat} (hfree : sess.pending.findIdx? Option.isNone = some i)
    (entry : Option Pending) (h : sess.Holds n) :
    { sess with pending := sess.pending.set i entry }.Holds n := by
  rcases h with ⟨old, hold, hn⟩
  rcases List.getElem_of_mem hold with ⟨j, hj, rfl⟩
  rcases List.findIdx?_eq_some_iff_getElem.1 hfree with ⟨hi, hnone, -⟩
  have hne : i ≠ j := by
    rintro rfl
    rw [Option.isNone_iff_eq_none.1 hnone] at hn
    cases hn
  refine ⟨sess.pending[j], List.mem_iff_getElem?.2 ⟨j, ?_⟩, hn⟩
  rw [List.getElem?_set_ne hne]
  exact List.getElem?_eq_getElem hj

theorem startTarget_plain
    (hsound : ∀ sess : BrokerSession, s.sessions[target.slot]? = some sess → sess.Sound s.nextConn)
    (rc : SendResult) : Plain s (s.startTarget target rc).1 := by
  have hcase := startTarget_cases s target rc
  generalize s.startTarget target rc = r at hcase
  cases hcase with
  | closed => exact .refl s
  | turnedAway sess length result hget _ h =>
    refine .quiet rfl (le_rfl) (.inr ⟨_, rfl, ?_, rfl⟩) rfl rfl
    refine h.imp_right (Or.imp_right fun hnone => ?_)
    -- Without a free entry all of the table is in use.
    have hall : ∀ entry ∈ sess.pending, Option.isSome entry = true := by
      intro entry hentry
      cases entry with
      | none => exact absurd hentry hnone
      | some _ => rfl
    exact (List.countP_eq_length.2 hall).trans (hsound sess hget).size
  | reserved sess length i hget _ hfree =>
    refine .of_set hget rfl (le_rfl) (.inl rfl) rfl rfl ?_
    exact .table (le_rfl) (List.length_set ..) fun n hn => .inl (holds_set hfree _ hn)
  | sent => exact .quiet rfl (le_rfl) (.inr ⟨_, rfl, trivial, rfl⟩) rfl rfl
  | broken => exact closeIfCurrent_plain s _ _

/-- The descriptor that a task has for a session is that of the session if the connection is. -/
def Fits (s : Delivery) (slot : Nat) (sock : Socket) : Prop :=
  sock.conn < s.nextConn ∧ ∀ sess ∈ s.sessions[slot]?, ∀ k ∈ sess.sock,
    k.conn = sock.conn → k = sock

theorem startTarget_due
    (hsound : ∀ sess : BrokerSession, s.sessions[target.slot]? = some sess → sess.Sound s.nextConn)
    (hfits : Fits s target.slot target.sock) (hqos : target.qos = 1)
    (hpub : target.publication = some n) (rc : SendResult) :
    (s.startTarget target rc).1.Answered target.slot target.sock.conn n ∨
      (s.startTarget target rc).1.Noted
        (DeliveryEvent.turnsAway target.slot target.sock.conn n) := by
  have hcase := startTarget_cases s target rc
  generalize s.startTarget target rc = r at hcase
  cases hcase with
  | closed hclosed =>
    refine .inl (.inl fun sess hget => .inl fun hback => ?_)
    rcases Option.map_eq_some_iff.1 hback with ⟨k, hk, hconn⟩
    rcases (hsound sess hget).sock k hk with ⟨hactive, hclosing, -⟩
    have hcur := hclosed sess hget
    unfold BrokerSession.current at hcur
    rw [hk, hfits.2 sess hget k hk hconn, hactive, hclosing] at hcur
    simp at hcur
  | turnedAway sess length result hget _ _ =>
    refine .inr ⟨_, .head _, ?_⟩
    simp [DeliveryEvent.turnsAway, hpub]
  | reserved sess length i hget _ hfree =>
    refine .inl (.inl fun next hnext => .inr ?_)
    have hself := setSession_self
      { sess with pending := sess.pending.set i (some (target.pending length)) } hget
    have heq := Option.some.inj (hself.symm.trans hnext)
    rw [← heq]
    rcases List.findIdx?_eq_some_iff_getElem.1 hfree with ⟨hi, -⟩
    refine ⟨some (target.pending length), List.mem_iff_getElem?.2 ⟨i, ?_⟩, hpub⟩
    exact List.getElem?_set_self hi
  | sent hne => exact absurd hqos hne
  | broken hne => exact absurd hqos hne

theorem holds_rewrite {i : Nat} {old new : Pending} (hget : sess.pending[i]? = some (some old))
    (hpub : new.publication = old.publication) (h : sess.Holds n) :
    { sess with pending := sess.pending.set i (some new) }.Holds n := by
  rcases h with ⟨entry, hentry, hn⟩
  rcases List.mem_iff_getElem?.1 hentry with ⟨j, hj⟩
  rcases List.getElem?_eq_some_iff.1 hget with ⟨hi, -⟩
  by_cases hij : i = j
  · rw [← hij, hget] at hj
    cases hj
    refine ⟨some new, List.mem_iff_getElem?.2 ⟨i, List.getElem?_set_self hi⟩, ?_⟩
    exact hpub.trans hn
  · exact ⟨entry, List.mem_iff_getElem?.2 ⟨j, (List.getElem?_set_ne hij).trans hj⟩, hn⟩

theorem writeTarget_plain (s : Delivery) (target : Target) (entry : Nat) (rc : SendResult) :
    Plain s (s.writeTarget target entry rc).1 := by
  unfold Delivery.writeTarget
  cases hget : s.sessions[target.slot]? with
  | none => exact .refl s
  | some sess =>
    dsimp only
    split
    · rename_i pending hpending
      split_ifs
      · cases rc with
        | ok =>
          refine .of_set hget rfl (le_rfl) (.inr ⟨_, rfl, trivial, rfl⟩) rfl rfl ?_
          exact .table (le_rfl) (List.length_set ..) fun n hn =>
            .inl (holds_rewrite hpending (by rfl) hn)
        | failed => exact .refl s
        | partialFail => exact closeIfCurrent_plain s _ _
      · exact .refl s
    · exact .refl s

/-! ### Acknowledgements, retries, and the end of a session -/

theorem handlePuback_plain (s : Delivery) (slot : Nat) (pid : UInt16) :
    Plain s (s.handlePuback slot pid) := by
  unfold Delivery.handlePuback
  cases hget : s.sessions[slot]? with
  | none => exact .refl s
  | some sess =>
    dsimp only
    split
    · exact .refl s
    rename_i i hfind
    split
    · rename_i pending hpending
      refine .of_set hget rfl (le_rfl) (.inr ⟨_, rfl, trivial, rfl⟩) rfl rfl ?_
      refine .table (le_rfl) (List.length_set ..) fun n hn => ?_
      rcases hn with ⟨entry, hentry, hn⟩
      rcases List.mem_iff_getElem?.1 hentry with ⟨j, hj⟩
      by_cases hij : i = j
      · rw [← hij, hpending] at hj
        cases hj
        refine .inr ⟨_, .head _, ?_⟩
        have hpub : pending.publication = some n := hn
        simp [DeliveryEvent.confirms, hpub]
      · exact .inl ⟨entry,
          List.mem_iff_getElem?.2 ⟨j, (List.getElem?_set_ne hij).trans hj⟩, hn⟩
    · exact .refl s

theorem rewrite_plain (hget : s.sessions[slot]? = some sess) {i : Nat} {old new : Pending}
    (hold : sess.pending[i]? = some (some old)) (hpub : new.publication = old.publication) :
    Plain s (s.setSession slot { sess with pending := sess.pending.set i (some new) }) :=
  .of_set hget rfl (le_rfl) (.inl rfl) rfl rfl (.table (le_rfl)
    (List.length_set ..) fun n hn => .inl (holds_rewrite hold hpub hn))

theorem rewrite_closeIfCurrent_plain (hget : s.sessions[slot]? = some sess) {i : Nat}
    {old new : Pending} (hold : sess.pending[i]? = some (some old))
    (hpub : new.publication = old.publication) (sock : Socket) :
    Plain s ((s.setSession slot { sess with
      pending := sess.pending.set i (some new) }).closeIfCurrent slot sock) := by
  have hself : (s.setSession slot { sess with
      pending := sess.pending.set i (some new) }).sessions[slot]? = some _ :=
    List.getElem?_set_self (List.getElem?_eq_some_iff.1 hget).1
  unfold Delivery.closeIfCurrent
  rw [hself]
  dsimp only
  split_ifs
  · refine .of_set hget (List.set_set ..) (le_rfl) (.inl rfl) rfl rfl (.closed rfl ?_)
    exact fun hsize => (List.length_set ..).trans hsize
  · exact rewrite_plain hget hold hpub

theorem retry_plain (s : Delivery) (slot entry : Nat) (rc : SendResult) :
    Plain s (s.retry slot entry rc) := by
  unfold Delivery.retry
  cases hget : s.sessions[slot]? with
  | none => exact .refl s
  | some sess =>
    dsimp only
    split
    · rename_i sock pending _ hpending
      split_ifs
      · exact .refl s
      · exact rewrite_closeIfCurrent_plain hget hpending (by rfl) _
      cases rc with
      | ok =>
        refine .of_set hget rfl (le_rfl) (.inr ⟨_, rfl, trivial, rfl⟩) rfl rfl ?_
        exact .table (le_rfl) (List.length_set ..) fun n hn =>
          .inl (holds_rewrite hpending (by rfl) hn)
      | failed => exact rewrite_plain hget hpending (by rfl)
      | partialFail => exact rewrite_closeIfCurrent_plain hget hpending (by rfl) _
    · exact .refl s

theorem free_plain (s : Delivery) (slot : Nat) : Plain s (s.free slot) := by
  unfold Delivery.free
  cases hget : s.sessions[slot]? with
  | none => exact .refl s
  | some sess =>
    refine .of_set hget rfl (le_rfl) (.inl rfl) rfl rfl ?_
    exact .closed rfl fun _ => List.length_replicate ..

theorem prepareClose_plain (hget : s.sessions[slot]? = some sess) :
    Plain s (s.setSession slot sess.prepareClose) :=
  .of_set hget rfl (le_rfl) (.inl rfl) rfl rfl (.closed rfl id)

theorem accepted_plain (hget : s.sessions[slot]? = some sess) (fd : Nat) (client : ClientSession) :
    Plain s { s.setSession slot (client.accepted ⟨fd, s.nextConn⟩) with
      nextConn := s.nextConn + 1 } := by
  refine .of_set hget rfl (Nat.le_succ _) (.inl rfl) rfl rfl ⟨?_, ?_, ?_⟩
  · intro _
    refine ⟨fun k hk => ?_, List.length_replicate ..⟩
    cases hk
    exact ⟨rfl, rfl, Nat.lt_succ_self _⟩
  · intro k hk
    cases hk
    exact .inr (le_rfl)
  · intro n _
    refine .inr (.inl fun conn hconn hback => ?_)
    have hsame : s.nextConn = conn := Option.some.inj hback
    omega

/-! ### The invariant -/

/-- An acknowledgement is the first piece of work of a task, and the publish is behind it. -/
structure Shape (works : List Work) : Prop where
  first : ∀ publication, Work.puback publication ∉ works.tail
  behind : ∀ publication rest, works = .puback publication :: rest →
    (∀ work ∈ rest, work.publishes publication = true) ∧ ∀ n ∈ publication,
      (∃ work ∈ rest, work.injects n = true) ∧ ∃ work ∈ rest, work.distributes n = true

/-- What holds of the sessions and the tasks. -/
structure Orderly (s : Delivery) : Prop where
  sound : ∀ (slot : Nat) (sess : BrokerSession), s.sessions[slot]? = some sess →
    sess.Sound s.nextConn
  fits : ∀ works ∈ s.tasks, ∀ work ∈ works, ∀ slot sock,
    work.socket = some (slot, sock) → Fits s slot sock
  shape : ∀ works ∈ s.tasks, Shape works
  number : ∀ n, .acked n ∈ s.log → n < s.nextPublication
  waiting : ∀ works ∈ s.tasks, ∀ n, Work.puback (some n) ∈ works →
    .acked n ∉ s.log ∧ n < s.nextPublication
  single : ∀ (i j : Nat) (works others : List Work) n, s.tasks[i]? = some works →
    s.tasks[j]? = some others → Work.puback (some n) ∈ works → Work.puback (some n) ∈ others → i = j

/-- What holds of the log. -/
structure Kept (s : Delivery) : Prop where
  ingested : ∀ n, .acked n ∈ s.log →
    (.ingested n ∈ s.log ∧ s.Noted (DeliveryEvent.posts n)) ∨ s.Todo (Work.injects n)
  distributed : ∀ n, .acked n ∈ s.log →
    s.Noted (DeliveryEvent.distributes n) ∨ s.Todo (Work.distributes n)
  delivered : ∀ n message dues, .distributed n message dues ∈ s.log → ∀ due ∈ dues,
    due.2 < s.nextConn ∧ (s.Todo (Work.starts due.1 due.2 n) ∨ s.Answered due.1 due.2 n ∨
      s.Noted (DeliveryEvent.turnsAway due.1 due.2 n))
  reasons : ∀ event ∈ s.log, event.Reasonable

/-- What a step does to what is to be done. -/
structure Forward (s s' : Delivery) : Prop where
  onward : Onward s s'
  starts : ∀ slot conn n, s.Todo (Work.starts slot conn n) → s'.Todo (Work.starts slot conn n) ∨
    s'.Answered slot conn n ∨ s'.Noted (DeliveryEvent.turnsAway slot conn n)
  injects : ∀ n, .acked n ∈ s.log → s.Todo (Work.injects n) →
    (.ingested n ∈ s'.log ∧ s'.Noted (DeliveryEvent.posts n)) ∨ s'.Todo (Work.injects n)
  distributes : ∀ n, .acked n ∈ s.log → s.Todo (Work.distributes n) →
    s'.Noted (DeliveryEvent.distributes n) ∨ s'.Todo (Work.distributes n)
  acked : ∀ n, .acked n ∈ s'.log → .acked n ∈ s.log ∨
    (s'.Todo (Work.injects n) ∧ s'.Todo (Work.distributes n))
  dues : ∀ n message dues, .distributed n message dues ∈ s'.log →
    .distributed n message dues ∈ s.log ∨
      ∀ due ∈ dues, due.2 < s.nextConn ∧ s'.Todo (Work.starts due.1 due.2 n)

theorem Kept.forward (h : Kept s) (hf : Forward s s') : Kept s' where
  ingested n hacked := by
    rcases hf.acked n hacked with hold | ⟨hnew, -⟩
    · rcases h.ingested n hold with ⟨hlog, hposts⟩ | htodo
      · exact .inl ⟨hf.onward.log hlog, hf.onward.noted hposts⟩
      · exact hf.injects n hold htodo
    · exact .inr hnew
  distributed n hacked := by
    rcases hf.acked n hacked with hold | ⟨-, hnew⟩
    · rcases h.distributed n hold with hnoted | htodo
      · exact .inl (hf.onward.noted hnoted)
      · exact hf.distributes n hold htodo
    · exact .inr hnew
  delivered n message dues hlog due hdue := by
    rcases hf.dues n message dues hlog with hold | hnew
    · rcases h.delivered n message dues hold due hdue with ⟨hconn, htodo | hanswered | haway⟩
      · exact ⟨Nat.lt_of_lt_of_le hconn hf.onward.nextConn, hf.starts _ _ _ htodo⟩
      · exact ⟨Nat.lt_of_lt_of_le hconn hf.onward.nextConn,
          .inr (.inl (hf.onward.answered hconn hanswered))⟩
      · exact ⟨Nat.lt_of_lt_of_le hconn hf.onward.nextConn,
          .inr (.inr (hf.onward.noted haway))⟩
    · exact ⟨Nat.lt_of_lt_of_le (hnew due hdue).1 hf.onward.nextConn, .inl (hnew due hdue).2⟩
  reasons event hevent := (hf.onward.reasons event hevent).elim (h.reasons event) id

theorem Orderly.sound_onward (h : Orderly s) (ho : Onward s s') (slot : Nat) (next : BrokerSession)
    (hnext : s'.sessions[slot]? = some next) : next.Sound s'.nextConn := by
  rcases ho.sessions slot next hnext with ⟨sess, hget, hcarries⟩
  exact hcarries.sound (h.sound slot sess hget)

/-- A socket fits for as long as a task has it: a new connection has another number. -/
theorem Fits.onward {sock : Socket} (h : Fits s slot sock) (ho : Onward s s') :
    Fits s' slot sock := by
  refine ⟨Nat.lt_of_lt_of_le h.1 ho.nextConn, fun next hnext k hk hconn => ?_⟩
  rcases ho.sessions slot next hnext with ⟨sess, hget, hcarries⟩
  rcases hcarries.sock k hk with hold | hnew
  · exact h.2 sess hget k hold hconn
  · have := h.1
    omega

/-! ### Steps that leave the tasks alone -/

theorem todo_of_tasks {p : Work → Bool} (htasks : s'.tasks = s.tasks) (h : s.Todo p) :
    s'.Todo p := by
  unfold Delivery.Todo
  rw [htasks]
  exact h

/-- No publish is acknowledged by the broker. -/
theorem Plain.acked (h : Plain s s') (hlog : .acked n ∈ s'.log) : .acked n ∈ s.log :=
  (h.silent _ hlog).resolve_right Bool.false_ne_true

theorem Plain.dues (h : Plain s s') {dues : List (Nat × Nat)}
    (hlog : .distributed n message dues ∈ s'.log) : .distributed n message dues ∈ s.log :=
  (h.silent _ hlog).resolve_right Bool.false_ne_true

/-- What holds of everything. -/
structure Inv (s : Delivery) : Prop extends Orderly s, Kept s

theorem Inv.plain (h : Inv s) (hp : Plain s s') : Inv s' where
  toOrderly := by
    refine ⟨h.sound_onward hp.toOnward, ?_, ?_, ?_, ?_, ?_⟩
    · rw [hp.tasks]
      exact fun works hworks work hwork slot sock hsock =>
        (h.fits works hworks work hwork slot sock hsock).onward hp.toOnward
    · rw [hp.tasks]
      exact h.shape
    · rw [hp.number]
      exact fun n hacked => h.number n (hp.acked hacked)
    · rw [hp.tasks, hp.number]
      intro works hworks n hmem
      rcases h.waiting works hworks n hmem with ⟨hnot, hlt⟩
      exact ⟨fun hacked => hnot (hp.acked hacked), hlt⟩
    · rw [hp.tasks]
      exact h.single
  toKept := h.toKept.forward
    { onward := hp.toOnward
      starts := fun _ _ _ htodo => .inl (todo_of_tasks hp.tasks htodo)
      injects := fun _ _ htodo => .inr (todo_of_tasks hp.tasks htodo)
      distributes := fun _ _ htodo => .inr (todo_of_tasks hp.tasks htodo)
      acked := fun n hacked => .inl (hp.acked hacked)
      dues := fun n message dues hlog => .inl (hp.dues hlog) }

/-! ### Steps of a task -/

theorem todo_set {p : Work → Bool} (htask : s.tasks[task]? = some old)
    (htasks : s'.tasks = s.tasks.set task works) (h : s.Todo p) :
    s'.Todo p ∨ ∃ work ∈ old, work ∉ works ∧ p work = true := by
  rcases h with ⟨list, hlist, work, hwork, hp⟩
  rcases List.getElem_of_mem hlist with ⟨i, hi, rfl⟩
  rcases List.getElem?_eq_some_iff.1 htask with ⟨hlt, hold⟩
  have hmem : works ∈ s'.tasks := by
    rw [htasks]
    exact List.mem_set hlt works
  by_cases hit : i = task
  · subst hit
    rw [hold] at hwork
    by_cases hkept : work ∈ works
    · exact .inl ⟨works, hmem, work, hkept, hp⟩
    · exact .inr ⟨work, hwork, hkept, hp⟩
  refine .inl ⟨s.tasks[i], ?_, work, hwork, hp⟩
  rw [htasks]
  refine List.mem_iff_getElem?.2 ⟨i, ?_⟩
  rw [List.getElem?_set_ne (Ne.symm hit)]
  exact List.getElem?_eq_getElem hi

theorem todo_new {p : Work → Bool} (htask : s.tasks[task]? = some old)
    (htasks : s'.tasks = s.tasks.set task works) (h : ∃ work ∈ works, p work = true) :
    s'.Todo p := by
  rcases List.getElem?_eq_some_iff.1 htask with ⟨hlt, -⟩
  refine ⟨works, ?_, h⟩
  rw [htasks]
  exact List.mem_set hlt works

theorem mem_set_tasks {works list : List Work} (htasks : s'.tasks = s.tasks.set task works)
    (h : list ∈ s'.tasks) : list ∈ s.tasks ∨ list = works := by
  rw [htasks] at h
  exact List.mem_or_eq_of_mem_set h

/-- What a task has to do is another thing now. -/
structure Turns (s s' : Delivery) (old works : List Work) : Prop where
  number : s.nextPublication ≤ s'.nextPublication
  shape : Shape works
  fits : ∀ work ∈ works, work ∈ old ∨ ∀ slot sock, work.socket = some (slot, sock) →
    Fits s slot sock
  puback : ∀ n, Work.puback (some n) ∈ works →
    n = s.nextPublication ∧ s.nextPublication < s'.nextPublication
  acked : ∀ n, .acked n ∈ s'.log → .acked n ∈ s.log ∨
    (Work.puback (some n) ∈ old ∧ (∃ work ∈ works, work.injects n = true) ∧
      ∃ work ∈ works, work.distributes n = true)
  starts : ∀ work ∈ old, work ∉ works → ∀ slot conn n, work.starts slot conn n = true →
    s'.Answered slot conn n ∨ s'.Noted (DeliveryEvent.turnsAway slot conn n)
  injects : ∀ work ∈ old, work ∉ works → ∀ n, .acked n ∈ s.log → work.injects n = true →
    .ingested n ∈ s'.log ∧ s'.Noted (DeliveryEvent.posts n)
  distributes : ∀ work ∈ old, work ∉ works → ∀ n, .acked n ∈ s.log →
    work.distributes n = true → s'.Noted (DeliveryEvent.distributes n)
  dues : ∀ n message dues, .distributed n message dues ∈ s'.log →
    .distributed n message dues ∈ s.log ∨ ∀ due ∈ dues, due.2 < s.nextConn ∧
      ∃ work ∈ works, work.starts due.1 due.2 n = true

theorem Inv.turn (h : Inv s) (ho : Onward s s') (htask : s.tasks[task]? = some old)
    (htasks : s'.tasks = s.tasks.set task works) (ht : Turns s s' old works) : Inv s' where
  toOrderly := by
    have hold : old ∈ s.tasks := List.mem_iff_getElem?.2 ⟨task, htask⟩
    refine ⟨h.sound_onward ho, ?_, ?_, ?_, ?_, ?_⟩
    · intro list hlist work hwork slot sock hsock
      rcases mem_set_tasks htasks hlist with hother | rfl
      · exact (h.fits list hother work hwork slot sock hsock).onward ho
      rcases ht.fits work hwork with hmem | hfits
      · exact (h.fits old hold work hmem slot sock hsock).onward ho
      · exact (hfits slot sock hsock).onward ho
    · intro list hlist
      rcases mem_set_tasks htasks hlist with hother | rfl
      · exact h.shape list hother
      · exact ht.shape
    · intro n hacked
      rcases ht.acked n hacked with hlog | ⟨hmem, -⟩
      · exact Nat.lt_of_lt_of_le (h.number n hlog) ht.number
      · exact Nat.lt_of_lt_of_le (h.waiting old hold n hmem).2 ht.number
    · intro list hlist n hmem
      rcases List.mem_iff_getElem?.1 hlist with ⟨i, hi⟩
      rw [htasks] at hi
      by_cases hit : task = i
      · rcases List.getElem?_eq_some_iff.1 htask with ⟨hlt, -⟩
        rw [← hit, List.getElem?_set_self hlt] at hi
        cases hi
        rcases ht.puback n hmem with ⟨rfl, hlt'⟩
        refine ⟨fun hacked => ?_, hlt'⟩
        -- The number is a new one.
        rcases ht.acked _ hacked with hlog | ⟨hmem', -⟩
        · exact Nat.lt_irrefl _ (h.number _ hlog)
        · exact Nat.lt_irrefl _ (h.waiting old hold _ hmem').2
      · rw [List.getElem?_set_ne hit] at hi
        have hother := List.mem_iff_getElem?.2 ⟨i, hi⟩
        rcases h.waiting list hother n hmem with ⟨hnot, hlt⟩
        refine ⟨fun hacked => ?_, Nat.lt_of_lt_of_le hlt ht.number⟩
        rcases ht.acked n hacked with hlog | ⟨hmem', -⟩
        · exact hnot hlog
        · exact hit (h.single task i old list n htask hi hmem' hmem)
    · intro i j list others n hi hj hmem hmem'
      rw [htasks] at hi hj
      rcases List.getElem?_eq_some_iff.1 htask with ⟨hlt, -⟩
      have hnew : ∀ k other, (s.tasks.set task works)[k]? = some other → k ≠ task →
          Work.puback (some n) ∈ other → Work.puback (some n) ∉ works := by
        intro k other hk hne hin hworks
        rw [List.getElem?_set_ne (Ne.symm hne)] at hk
        have := (h.waiting other (List.mem_iff_getElem?.2 ⟨k, hk⟩) n hin).2
        rw [(ht.puback n hworks).1] at this
        exact Nat.lt_irrefl _ this
      by_cases hit : i = task
      · by_cases hjt : j = task
        · rw [hit, hjt]
        rw [hit, List.getElem?_set_self hlt] at hi
        cases hi
        exact absurd hmem (hnew j others hj hjt hmem')
      by_cases hjt : j = task
      · rw [hjt, List.getElem?_set_self hlt] at hj
        cases hj
        exact absurd hmem' (hnew i list hi hit hmem)
      · rw [List.getElem?_set_ne (Ne.symm hit)] at hi
        rw [List.getElem?_set_ne (Ne.symm hjt)] at hj
        exact h.single i j list others n hi hj hmem hmem'
  toKept := by
    refine h.toKept.forward ⟨ho, ?_, ?_, ?_, ?_, ?_⟩
    · intro slot conn n htodo
      rcases todo_set htask htasks htodo with hstill | ⟨work, hwork, hnot, hp⟩
      · exact .inl hstill
      · exact .inr (ht.starts work hwork hnot slot conn n hp)
    · intro n hacked htodo
      rcases todo_set htask htasks htodo with hstill | ⟨work, hwork, hnot, hp⟩
      · exact .inr hstill
      · exact .inl (ht.injects work hwork hnot n hacked hp)
    · intro n hacked htodo
      rcases todo_set htask htasks htodo with hstill | ⟨work, hwork, hnot, hp⟩
      · exact .inr hstill
      · exact .inl (ht.distributes work hwork hnot n hacked hp)
    · intro n hacked
      rcases ht.acked n hacked with hlog | ⟨-, hinject, hdistribute⟩
      · exact .inl hlog
      · exact .inr ⟨todo_new htask htasks hinject, todo_new htask htasks hdistribute⟩
    · intro n message dues hlog
      rcases ht.dues n message dues hlog with hold | hnew
      · exact .inl hold
      · exact .inr fun due hdue => ⟨(hnew due hdue).1, todo_new htask htasks (hnew due hdue).2⟩

/-! ### A piece of work -/

/-- Work that is not an acknowledgement, with a socket that fits if it has one. -/
structure Modest (s : Delivery) (work : Work) : Prop where
  puback : ∀ publication, work ≠ .puback publication
  fits : ∀ slot sock, work.socket = some (slot, sock) → Fits s slot sock

/-- Only the retained messages for a subscription are given up. -/
def Work.delivers : Work → Bool
  | .deliver _ _ _ _ _ => true
  | _ => false

/-- What is left of a task behind a piece of work, with something more to do. -/
structure GoesOn (s : Delivery) (rest works : List Work) : Prop where
  kept : ∀ work ∈ rest, work ∉ works → work.delivers = true
  more : ∀ work ∈ works, work ∈ rest ∨ Modest s work

theorem GoesOn.same (s : Delivery) (rest : List Work) : GoesOn s rest rest where
  kept _ hmem hnot := absurd hmem hnot
  more _ := .inl

theorem GoesOn.cons (h : GoesOn s rest works) (hmodest : Modest s work) :
    GoesOn s rest (work :: works) where
  kept other hmem hnot := h.kept other hmem fun hin => hnot (.tail _ hin)
  more other hmem := by
    rcases List.mem_cons.1 hmem with rfl | hin
    · exact .inr hmodest
    · exact h.more other hin

theorem GoesOn.afterRefusal (s : Delivery) (rest : List Work) :
    GoesOn s rest (afterRefusal rest) := by
  unfold Broker.afterRefusal
  split
  · constructor
    · intro work hmem hnot
      rcases List.mem_cons.1 hmem with rfl | hin
      · rfl
      · exact absurd hin hnot
    · exact fun work hmem => .inl (.tail _ hmem)
  · exact .same s _

theorem GoesOn.no_puback (h : GoesOn s rest works) (hshape : Shape (work :: rest))
    (publication : Option Nat) : Work.puback publication ∉ works := by
  intro hmem
  rcases h.more _ hmem with hrest | hmodest
  · exact hshape.first publication hrest
  · exact hmodest.puback publication rfl

theorem Shape.of_no_puback (h : ∀ publication, Work.puback publication ∉ works) : Shape works where
  first publication hmem := h publication (List.mem_of_mem_tail hmem)
  behind publication rest heq := by
    refine absurd ?_ (h publication)
    rw [heq]
    exact .head _

theorem not_starts_of_delivers (h : work.delivers = true) (slot conn n : Nat) :
    work.starts slot conn n = false ∧ work.injects n = false ∧ work.distributes n = false := by
  cases work with
  | deliver => exact ⟨rfl, rfl, rfl⟩
  | _ => cases h

/-- A piece of work that is neither an acknowledgement nor a distribution. -/
theorem Turns.plain (hshape : Shape (work :: rest)) (hp : Plain s s')
    (hgoes : GoesOn s rest works) (hstarts : ∀ slot conn n, work.starts slot conn n = true →
      s'.Answered slot conn n ∨ s'.Noted (DeliveryEvent.turnsAway slot conn n))
    (hinjects : ∀ n, work.injects n = true →
      .ingested n ∈ s'.log ∧ s'.Noted (DeliveryEvent.posts n))
    (hdistributes : ∀ n, work.distributes n = true → s'.Noted (DeliveryEvent.distributes n)) :
    Turns s s' (work :: rest) works where
  number := Nat.le_of_eq hp.number.symm
  shape := .of_no_puback (hgoes.no_puback hshape)
  fits other hmem := by
    rcases hgoes.more other hmem with hrest | hmodest
    · exact .inl (.tail _ hrest)
    · exact .inr hmodest.fits
  puback n hmem := absurd hmem (hgoes.no_puback hshape (some n))
  acked n hacked := .inl (hp.acked hacked)
  starts other hmem hnot slot conn n hstart := by
    rcases List.mem_cons.1 hmem with rfl | hrest
    · exact hstarts slot conn n hstart
    · rw [(not_starts_of_delivers (hgoes.kept other hrest hnot) slot conn n).1] at hstart
      cases hstart
  injects other hmem hnot n _ hinject := by
    rcases List.mem_cons.1 hmem with rfl | hrest
    · exact hinjects n hinject
    · rw [(not_starts_of_delivers (hgoes.kept other hrest hnot) 0 0 n).2.1] at hinject
      cases hinject
  distributes other hmem hnot n _ hdistribute := by
    rcases List.mem_cons.1 hmem with rfl | hrest
    · exact hdistributes n hdistribute
    · rw [(not_starts_of_delivers (hgoes.kept other hrest hnot) 0 0 n).2.2] at hdistribute
      cases hdistribute
  dues n message dues hlog := .inl (hp.dues hlog)

/-- What is behind an acknowledgement starts nothing, and is about the publish. -/
theorem publishes_only (h : work.publishes publication = true) :
    (∀ slot conn m, work.starts slot conn m = false) ∧
      ∀ m, work.injects m = true ∨ work.distributes m = true → publication = some m := by
  cases work with
  | inject n =>
    refine ⟨fun _ _ _ => rfl, fun m hm => ?_⟩
    rcases hm with hm | hm
    · rw [← of_decide_eq_true hm]
      exact of_decide_eq_true h
    · cases hm
  | distribute n message exclude =>
    cases exclude with
    | some slot => cases h
    | none =>
      refine ⟨fun _ _ _ => rfl, fun m hm => ?_⟩
      rcases hm with hm | hm
      · cases hm
      · rw [← of_decide_eq_true hm]
        exact of_decide_eq_true h
  | _ => cases h

/-- A broker acknowledges a publish, or its sender is gone. -/
theorem turns_puback (hshape : Shape (.puback publication :: rest))
    (hwaiting : ∀ n, publication = some n → .acked n ∉ s.log) (rc : SendResult) :
    Onward s (workStep s rc rest (.puback publication)).1 ∧
      Turns s (workStep s rc rest (.puback publication)).1 (.puback publication :: rest)
        (workStep s rc rest (.puback publication)).2 := by
  rcases hshape.behind publication rest rfl with ⟨hrest, hbehind⟩
  have hself : ∀ slot conn n, (Work.puback publication).starts slot conn n = false ∧
      (Work.puback publication).injects n = false ∧
        (Work.puback publication).distributes n = false :=
    fun _ _ _ => ⟨rfl, rfl, rfl⟩
  unfold workStep
  by_cases hok : rc = .ok
  · simp only [if_pos hok]
    cases publication with
    | none =>
      refine ⟨.refl s, .plain hshape (.refl s) (.same s rest) ?_ ?_ ?_⟩
      · nofun
      · nofun
      · nofun
    | some n =>
      have honward : Onward s (s.note (.acked n)) := by
        refine .quiet rfl (le_rfl) (List.subset_cons_self _ _) fun event hevent => ?_
        rcases List.mem_cons.1 hevent with rfl | hold
        · exact .inr trivial
        · exact .inl hold
      refine ⟨honward, ⟨le_rfl, ?_, ?_, ?_, ?_, ?_, ?_, ?_, ?_⟩⟩
      · exact .of_no_puback fun other => hshape.first other
      · exact fun work hmem => .inl (.tail _ hmem)
      · exact fun m hmem => absurd hmem (hshape.first (some m))
      · intro m hacked
        rcases List.mem_cons.1 hacked with heq | hold
        · rw [DeliveryEvent.acked.inj heq]
          exact .inr ⟨.head _, hbehind n rfl⟩
        · exact .inl hold
      · intro work hmem hnot slot conn m h
        rw [(List.mem_cons.1 hmem).resolve_right hnot] at h
        cases h
      · intro work hmem hnot m _ h
        rw [(List.mem_cons.1 hmem).resolve_right hnot] at h
        cases h
      · intro work hmem hnot m _ h
        rw [(List.mem_cons.1 hmem).resolve_right hnot] at h
        cases h
      · intro m message dues hlog
        exact .inl ((List.mem_cons.1 hlog).resolve_left nofun)
  · simp only [if_neg hok]
    -- The publish behind it was not acknowledged, and nothing was started yet.
    refine ⟨.refl s, ⟨le_rfl, ?_, ?_, ?_, ?_, ?_, ?_, ?_, ?_⟩⟩
    · exact .of_no_puback fun _ => List.not_mem_nil
    · exact nofun
    · exact nofun
    · exact fun _ => .inl
    · intro work hmem _ slot conn m h
      rcases List.mem_cons.1 hmem with rfl | hmem
      · cases h
      · rw [(publishes_only (hrest work hmem)).1] at h
        cases h
    · intro work hmem _ m hacked h
      rcases List.mem_cons.1 hmem with rfl | hmem
      · cases h
      · exact absurd hacked (hwaiting m ((publishes_only (hrest work hmem)).2 m (.inl h)))
    · intro work hmem _ m hacked h
      rcases List.mem_cons.1 hmem with rfl | hmem
      · cases h
      · exact absurd hacked (hwaiting m ((publishes_only (hrest work hmem)).2 m (.inr h)))
    · exact fun _ _ _ => .inl

theorem turns_distribute {exclude : Option Nat} (htidy : Orderly s)
    (hshape : Shape (.distribute n message exclude :: rest)) :
    Onward s (s.distribute n message exclude).1 ∧
      Turns s (s.distribute n message exclude).1 (.distribute n message exclude :: rest)
        ((s.distribute n message exclude).2.map Work.start ++ rest) := by
  have htargets : ∀ target ∈ (s.distribute n message exclude).2,
      target.publication = some n ∧ Fits s target.slot target.sock := by
    intro target hmem
    rcases mem_publishTargets s.sessions 0 s.packetId hmem with
      ⟨⟨hpub, -⟩, i, sess, hget, hslot, hsock⟩
    rw [Nat.zero_add] at hslot
    refine ⟨hpub, ((htidy.sound i sess hget).sock _ hsock).2.2, fun other hother k hk _ => ?_⟩
    rw [hslot, hget] at hother
    rw [← Option.some.inj hother, hsock] at hk
    exact (Option.some.inj hk).symm
  have hno : ∀ publication, Work.puback publication ∉
      (s.distribute n message exclude).2.map Work.start ++ rest := by
    intro publication hmem
    rcases List.mem_append.1 hmem with hmap | hrest
    · rcases List.mem_map.1 hmap with ⟨target, -, heq⟩
      cases heq
    · exact hshape.first publication hrest
  constructor
  · refine .quiet rfl (le_rfl) (List.subset_cons_self _ _) fun event hevent => ?_
    rcases List.mem_cons.1 hevent with rfl | hold
    · exact .inr trivial
    · exact .inl hold
  have hhead : ∀ work ∈ Work.distribute n message exclude :: rest,
      work ∉ (s.distribute n message exclude).2.map Work.start ++ rest →
        work = .distribute n message exclude := by
    intro work hmem hnot
    refine (List.mem_cons.1 hmem).resolve_right fun hrest => hnot ?_
    exact List.mem_append_right _ hrest
  refine ⟨le_rfl, .of_no_puback hno, ?_, ?_, ?_, ?_, ?_, ?_, ?_⟩
  · intro work hmem
    rcases List.mem_append.1 hmem with hmap | hrest
    · rcases List.mem_map.1 hmap with ⟨target, htarget, rfl⟩
      refine .inr fun slot sock hsock => ?_
      cases hsock
      exact (htargets target htarget).2
    · exact .inl (.tail _ hrest)
  · exact fun m hmem => absurd hmem (hno (some m))
  · intro m hacked
    exact .inl ((List.mem_cons.1 hacked).resolve_left nofun)
  · intro work hmem hnot slot conn m h
    rw [hhead work hmem hnot] at h
    cases h
  · intro work hmem hnot m _ h
    rw [hhead work hmem hnot] at h
    cases h
  · intro work hmem hnot m _ h
    rw [hhead work hmem hnot] at h
    exact ⟨_, .head _, h⟩
  · intro m other list hlog
    rcases List.mem_cons.1 hlog with heq | hold
    · refine .inr fun due hdue => ?_
      injection heq with hm _ hlist
      rw [hlist] at hdue
      rcases List.mem_map.1 hdue with ⟨target, hfilter, rfl⟩
      rcases List.mem_filter.1 hfilter with ⟨hmem, hqos⟩
      rcases htargets target hmem with ⟨hpub, hfits⟩
      refine ⟨hfits.1, .start target, ?_, ?_⟩
      · exact List.mem_append_left _ (List.mem_map_of_mem hmem)
      · simp [Work.starts, of_decide_eq_true hqos, hpub, hm]
    · exact .inl hold

theorem goesOn_afterStart (hfits : Fits s target.slot target.sock) (rest : List Work)
    (result : StartResult) : GoesOn s rest (afterStart target rest result) := by
  cases result with
  | refused => exact .afterRefusal s rest
  | dropped => exact .same s rest
  | sent => exact .same s rest
  | reserved entry =>
    refine (GoesOn.same s rest).cons ⟨nofun, fun slot sock hsock => ?_⟩
    cases hsock
    exact hfits

theorem subs_plain (hget : s.sessions[slot]? = some sess) (subs : Subscriptions) :
    Plain s (s.setSession slot { sess with subs }) :=
  .of_set hget rfl (le_rfl) (.inl rfl) rfl rfl (.same (le_rfl) rfl rfl rfl rfl)

theorem Turns.silent (hshape : Shape (work :: rest)) (hp : Plain s s') (hgoes : GoesOn s rest works)
    (hnone : ∀ slot conn n, work.starts slot conn n = false ∧ work.injects n = false ∧
      work.distributes n = false) : Onward s s' ∧ Turns s s' (work :: rest) works := by
  refine ⟨hp.toOnward, .plain hshape hp hgoes ?_ ?_ ?_⟩
  · intro slot conn n h
    rw [(hnone slot conn n).1] at h
    cases h
  · intro n h
    rw [(hnone 0 0 n).2.1] at h
    cases h
  · intro n h
    rw [(hnone 0 0 n).2.2] at h
    cases h

theorem turns_work (h : Inv s) (rc : SendResult) (htask : s.tasks[task]? = some (work :: rest)) :
    Onward s (workStep s rc rest work).1 ∧
      Turns s (workStep s rc rest work).1 (work :: rest) (workStep s rc rest work).2 := by
  have hworks : (work :: rest) ∈ s.tasks := List.mem_iff_getElem?.2 ⟨task, htask⟩
  have hshape := h.shape _ hworks
  cases work with
  | puback publication =>
    refine turns_puback hshape (fun n hn => ?_) rc
    exact (h.waiting _ hworks n (hn ▸ .head _)).1
  | inject m =>
    have hplain : Plain s ((s.note (.ingested m)).note (.posted m (rc = .ok))) := by
      have hnew : ∀ event ∈ ((s.note (.ingested m)).note (.posted m (rc = .ok))).log,
          event ∈ s.log ∨ (event.Reasonable ∧ event.silent = true) := by
        intro event hevent
        rcases List.mem_cons.1 hevent with rfl | hevent
        · exact .inr ⟨trivial, rfl⟩
        rcases List.mem_cons.1 hevent with rfl | hold
        · exact .inr ⟨trivial, rfl⟩
        · exact .inl hold
      refine ⟨.quiet rfl (le_rfl) ?_ fun event hevent => ?_, rfl, rfl,
        fun event hevent => ?_⟩
      · exact fun event hold => .tail _ (.tail _ hold)
      · exact (hnew event hevent).imp_right And.left
      · exact (hnew event hevent).imp_right And.right
    refine ⟨hplain.toOnward, .plain hshape hplain (.same s rest) ?_ ?_ ?_⟩
    · nofun
    · intro n hn
      have hsame : m = n := of_decide_eq_true hn
      rw [← hsame]
      exact ⟨.tail _ List.mem_cons_self, _, List.mem_cons_self,
        decide_eq_true rfl⟩
    · nofun
  | distribute m message exclude => exact turns_distribute h.toOrderly hshape
  | start target =>
    have hsound := h.sound target.slot
    have hfits := h.fits _ hworks _ List.mem_cons_self _ _ (show _ = some (_, _) from rfl)
    refine ⟨(startTarget_plain hsound rc).toOnward, .plain hshape (startTarget_plain hsound rc)
      (goesOn_afterStart hfits rest _) ?_ ?_ ?_⟩
    · intro slot conn n hn
      simp only [Work.starts, Bool.and_eq_true, decide_eq_true_eq] at hn
      rcases hn with ⟨⟨⟨hqos, rfl⟩, rfl⟩, hpub⟩
      exact startTarget_due hsound hfits hqos hpub rc
    · nofun
    · nofun
  | write target entry =>
    refine Turns.silent hshape (writeTarget_plain s target entry rc) ?_
      fun _ _ _ => ⟨rfl, rfl, rfl⟩
    dsimp only [workStep]
    split_ifs
    · exact .same s rest
    · exact .afterRefusal s rest
  | subscribe slot filter qos =>
    dsimp only [workStep]
    cases hget : s.sessions[slot]? with
    | none => exact Turns.silent hshape (.refl s) (.same s rest) fun _ _ _ => ⟨rfl, rfl, rfl⟩
    | some sess =>
      dsimp only
      split_ifs
      · refine Turns.silent hshape (subs_plain hget _) ?_ fun _ _ _ => ⟨rfl, rfl, rfl⟩
        cases hsock : sess.sock with
        | none => exact .same s rest
        | some sock =>
          refine (GoesOn.same s rest).cons ⟨nofun, fun a b hab => ?_⟩
          cases hab
          refine ⟨((h.sound slot sess hget).sock _ hsock).2.2, fun other hother k hk _ => ?_⟩
          rw [hget] at hother
          rw [← Option.some.inj hother, hsock] at hk
          exact (Option.some.inj hk).symm
      · exact Turns.silent hshape (.refl s) (.same s rest) fun _ _ _ => ⟨rfl, rfl, rfl⟩
  | unsubscribe slot filter =>
    dsimp only [workStep]
    cases hget : s.sessions[slot]? with
    | none => exact Turns.silent hshape (.refl s) (.same s rest) fun _ _ _ => ⟨rfl, rfl, rfl⟩
    | some sess =>
      exact Turns.silent hshape (subs_plain hget _) (.same s rest) fun _ _ _ => ⟨rfl, rfl, rfl⟩
  | deliver slot sock filter qos i =>
    have hfits := h.fits _ hworks _ List.mem_cons_self slot sock rfl
    have hnext : Modest s (.deliver slot sock filter qos (i + 1)) := by
      refine ⟨nofun, fun a b hab => ?_⟩
      cases hab
      exact hfits
    dsimp only [workStep]
    split
    · exact Turns.silent hshape (.refl s) (.same s rest) fun _ _ _ => ⟨rfl, rfl, rfl⟩
    · exact Turns.silent hshape (.refl s) ((GoesOn.same s rest).cons hnext)
        fun _ _ _ => ⟨rfl, rfl, rfl⟩
    rename_i retained _
    by_cases hmatch : topicMatchesFilter filter retained.topic = true
    · rw [if_pos hmatch]
      refine Turns.silent hshape (.quiet rfl (le_rfl) (.inl rfl) rfl rfl)
        (((GoesOn.same s rest).cons hnext).cons ⟨nofun, ?_⟩)
        fun _ _ _ => ⟨rfl, rfl, rfl⟩
      intro a b hab
      cases hab
      exact hfits
    · rw [if_neg hmatch]
      exact Turns.silent hshape (.refl s) ((GoesOn.same s rest).cons hnext)
        fun _ _ _ => ⟨rfl, rfl, rfl⟩
  | free slot =>
    exact Turns.silent hshape (free_plain s slot) (.same s rest) fun _ _ _ => ⟨rfl, rfl, rfl⟩

theorem workStep_tasks (s : Delivery) (rc : SendResult) (rest : List Work) (work : Work) :
    (workStep s rc rest work).1.tasks = s.tasks := by
  cases work with
  | puback publication =>
    dsimp only [workStep]
    by_cases hok : rc = .ok
    · rw [if_pos hok]
      cases publication <;> rfl
    · rw [if_neg hok]
  | inject n => rfl
  | distribute n message exclude => rfl
  | start target => exact startTarget_tasks s target rc
  | write target entry => exact writeTarget_tasks s target entry rc
  | subscribe slot filter qos =>
    dsimp only [workStep]
    cases s.sessions[slot]? with
    | none => rfl
    | some sess =>
      dsimp only
      split_ifs <;> rfl
  | unsubscribe slot filter =>
    dsimp only [workStep]
    cases s.sessions[slot]? <;> rfl
  | deliver slot sock filter qos i =>
    dsimp only [workStep]
    split
    · rfl
    · rfl
    · split_ifs <;> rfl
  | free slot =>
    dsimp only [workStep, Delivery.free]
    cases s.sessions[slot]? <;> rfl

/-! ### Every step -/

theorem inv_go (h : Inv s) (hs : deliveryStep s (.go task rc) = some s') : Inv s' := by
  cases htask : s.tasks[task]? with
  | none =>
    dsimp only [deliveryStep] at hs
    rw [htask] at hs
    cases hs
  | some works =>
    cases works with
    | nil =>
      dsimp only [deliveryStep] at hs
      rw [htask] at hs
      cases hs
    | cons work rest =>
      rw [go_step rc htask] at hs
      cases hs
      rcases turns_work h rc htask with ⟨ho, ht⟩
      have htasks : ((workStep s rc rest work).1.withTasks
          ((workStep s rc rest work).1.tasks.set task (workStep s rc rest work).2)).tasks =
            s.tasks.set task (workStep s rc rest work).2 := by
        rw [← workStep_tasks s rc rest work]
        rfl
      refine h.turn ⟨ho.nextConn, ho.log, ho.reasons, fun slot next hnext => ?_⟩ htask htasks ?_
      · rcases ho.sessions slot next hnext with ⟨sess, hget, hcarries⟩
        exact ⟨sess, hget, ⟨hcarries.sound, hcarries.sock, hcarries.holds⟩⟩
      · exact ⟨ht.number, ht.shape, ht.fits, ht.puback, ht.acked, ht.starts, ht.injects,
          ht.distributes, ht.dues⟩

theorem Inv.busy (h : Inv s) (htask : s.tasks[task]? = some [])
    (hsessions : s'.sessions = s.sessions) (hconn : s'.nextConn = s.nextConn)
    (hlog : s'.log = s.log) (htasks : s'.tasks = s.tasks.set task works)
    (hnumber : s.nextPublication ≤ s'.nextPublication) (hshape : Shape works)
    (hsocket : ∀ work ∈ works, work.socket = none) (hpuback : ∀ n, Work.puback (some n) ∈ works →
      n = s.nextPublication ∧ s.nextPublication < s'.nextPublication) : Inv s' := by
  have honward : Onward s s' := by
    refine .quiet hsessions (Nat.le_of_eq hconn.symm) ?_ fun event hevent => ?_
    · rw [hlog]
      exact List.Subset.refl _
    · rw [hlog] at hevent
      exact .inl hevent
  refine h.turn honward htask htasks ⟨hnumber, hshape, ?_, hpuback, ?_, ?_, ?_, ?_, ?_⟩
  · intro work hmem
    refine .inr fun slot sock hsock => ?_
    rw [hsocket work hmem] at hsock
    cases hsock
  · rw [hlog]
    exact fun _ => .inl
  · exact nofun
  · exact nofun
  · exact nofun
  · rw [hlog]
    exact fun _ _ _ => .inl

theorem publishWorks_shape (clientId : List Char) (n : Nat) (message : Message) :
    Shape (publishWorks clientId n message) := by
  unfold publishWorks
  by_cases hallowed : aclCanPublish clientId message.topic = true
  · rw [if_pos hallowed]
    by_cases hqos : message.qos = 1
    · rw [if_pos hqos]
      constructor
      · simp
      intro publication rest heq
      injection heq with hfirst hrest
      rw [← Work.puback.inj hfirst, ← hrest]
      constructor
      · intro work hmem
        rcases List.mem_pair.1 hmem with rfl | rfl
        · exact decide_eq_true rfl
        · exact decide_eq_true rfl
      intro m hm
      cases hm
      exact ⟨⟨.inject n, by simp, by simp [Work.injects]⟩,
        ⟨.distribute n message none, by simp, by simp [Work.distributes]⟩⟩
    · rw [if_neg hqos]
      exact .of_no_puback (by simp)
  · rw [if_neg hallowed]
    by_cases hqos : message.qos = 1
    · rw [if_pos hqos]
      constructor
      · simp
      intro publication rest heq
      injection heq with hfirst hrest
      rw [← Work.puback.inj hfirst, ← hrest]
      exact ⟨nofun, nofun⟩
    · rw [if_neg hqos]
      exact .of_no_puback (by simp)

theorem publishWorks_mem {clientId : List Char} (h : work ∈ publishWorks clientId n message) :
    work = .puback (some n) ∨ work = .puback none ∨ work = .inject n ∨
      work = .distribute n message none := by
  unfold publishWorks at h
  split_ifs at h <;> simp at h <;> tauto

theorem inv_packet {inbound : DeliveryPacket} (h : Inv s)
    (hs : deliveryStep s (.packet slot inbound) = some s') : Inv s' := by
  dsimp only [deliveryStep] at hs
  split at hs
  · rename_i sess hget htask
    by_cases hactive : (!sess.active) = true
    · rw [if_pos hactive] at hs
      cases hs
    rw [if_neg hactive] at hs
    cases inbound with
    | publish message =>
      dsimp only at hs
      split_ifs at hs
      cases hs
      refine h.busy htask rfl rfl rfl rfl (Nat.le_succ _) (publishWorks_shape ..) ?_ ?_
      · intro work hmem
        rcases publishWorks_mem hmem with rfl | rfl | rfl | rfl <;> rfl
      intro n hmem
      refine ⟨?_, Nat.lt_succ_self _⟩
      rcases publishWorks_mem hmem with heq | heq | heq | heq
      · exact Option.some.inj (Work.puback.inj heq)
      · cases heq
      · cases heq
      · cases heq
    | puback pid =>
      cases hs
      exact h.plain (handlePuback_plain s slot pid)
    | subscribe filters =>
      cases hs
      refine h.busy htask rfl rfl rfl rfl (le_rfl) (.of_no_puback ?_) ?_ ?_
      · simp
      · intro work hmem
        rcases List.mem_map.1 hmem with ⟨sub, -, rfl⟩
        rfl
      · simp
    | unsubscribe filters =>
      cases hs
      refine h.busy htask rfl rfl rfl rfl (le_rfl) (.of_no_puback ?_) ?_ ?_
      · simp
      · intro work hmem
        rcases List.mem_map.1 hmem with ⟨filter, -, rfl⟩
        rfl
      · simp
  · cases hs

theorem inv_publish (h : Inv s) (message : Message) : Inv { s with
      tasks := s.tasks ++ [[.distribute s.nextPublication message none]]
      nextPublication := s.nextPublication + 1 } where
  toOrderly := by
    refine ⟨h.sound, ?_, ?_, ?_, ?_, ?_⟩
    · intro works hworks work hmem slot sock hsock
      rcases List.mem_append.1 hworks with hold | hnew
      · exact h.fits works hold work hmem slot sock hsock
      rw [List.mem_singleton.1 hnew] at hmem
      rw [List.mem_singleton.1 hmem] at hsock
      cases hsock
    · intro works hworks
      rcases List.mem_append.1 hworks with hold | hnew
      · exact h.shape works hold
      · rw [List.mem_singleton.1 hnew]
        exact .of_no_puback (by simp)
    · exact fun n hacked => Nat.lt_succ_of_lt (h.number n hacked)
    · intro works hworks n hmem
      rcases List.mem_append.1 hworks with hold | hnew
      · exact ⟨(h.waiting works hold n hmem).1, Nat.lt_succ_of_lt (h.waiting works hold n hmem).2⟩
      · rw [List.mem_singleton.1 hnew] at hmem
        cases List.mem_singleton.1 hmem
    · intro i j works others n hi hj hmem hmem'
      have hold : ∀ {k : Nat} {list : List Work}, Work.puback (some n) ∈ list →
          (s.tasks ++ [[.distribute s.nextPublication message none]])[k]? = some list →
            s.tasks[k]? = some list := by
        intro k list hin hk
        by_cases hlt : k < s.tasks.length
        · rwa [List.getElem?_append_left hlt] at hk
        rw [List.getElem?_append_right (by omega)] at hk
        rw [List.mem_singleton.1 (List.mem_of_getElem? hk)] at hin
        cases List.mem_singleton.1 hin
      exact h.single i j works others n (hold hmem hi) (hold hmem' hj) hmem hmem'
  toKept := by
    have htodo : ∀ {p}, s.Todo p → Delivery.Todo { s with
        tasks := s.tasks ++ [[.distribute s.nextPublication message none]]
        nextPublication := s.nextPublication + 1 } p := by
      rintro p ⟨works, hworks, hp⟩
      exact ⟨works, List.mem_append_left _ hworks, hp⟩
    exact h.toKept.forward ⟨.quiet rfl (le_rfl) (List.Subset.refl _) fun _ => .inl,
      fun _ _ _ hs => .inl (htodo hs), fun _ _ hi => .inr (htodo hi),
      fun _ _ hd => .inr (htodo hd), fun _ => .inl, fun _ _ _ => .inl⟩

theorem inv_step {act : DeliveryStep} (h : Inv s) (hs : deliveryStep s act = some s') : Inv s' := by
  cases act with
  | connect slot fd client =>
    dsimp only [deliveryStep] at hs
    split at hs
    · rename_i sess hget htask
      split_ifs at hs
      cases hs
      exact h.plain (accepted_plain hget fd client)
    · cases hs
  | packet slot inbound => exact inv_packet h hs
  | publish topic payload qos =>
    dsimp only [deliveryStep] at hs
    split_ifs at hs
    cases hs
    exact inv_publish h ⟨topic, payload, qos, false⟩
  | go task rc => exact inv_go h hs
  | retry slot entry rc =>
    dsimp only [deliveryStep] at hs
    split at hs
    · cases hs
      exact h.plain (retry_plain s slot entry rc)
    · cases hs
  | close slot =>
    dsimp only [deliveryStep] at hs
    split at hs
    · cases hs
    rename_i sess hget
    split_ifs at hs
    cases hs
    exact h.plain (prepareClose_plain hget)
  | finish slot =>
    dsimp only [deliveryStep] at hs
    split at hs
    · rename_i sess hget htask
      split_ifs at hs
      cases hs
      have hno : ∀ work ∈ finishWorks sess slot s.nextPublication,
          (∀ publication, work ≠ .puback publication) ∧ work.socket = none := by
        intro work hmem
        rcases List.mem_append.1 hmem with hwill | hfree
        · split_ifs at hwill
          · rw [List.mem_singleton.1 hwill]
            exact ⟨nofun, rfl⟩
          · cases hwill
        · rw [List.mem_singleton.1 hfree]
          exact ⟨nofun, rfl⟩
      refine h.busy htask rfl rfl rfl rfl (Nat.le_succ _) (.of_no_puback ?_) ?_ ?_
      · exact fun publication hmem => (hno _ hmem).1 publication rfl
      · exact fun work hmem => (hno work hmem).2
      · exact fun n hmem => absurd rfl ((hno _ hmem).1 (some n))
    · cases hs

theorem inv_atStart (sessions : Nat) : Inv (Delivery.atStart sessions) where
  toOrderly := by
    have htasks : ∀ works ∈ (Delivery.atStart sessions).tasks, works = [] :=
      fun works hworks => List.eq_of_mem_replicate hworks
    refine ⟨?_, ?_, ?_, ?_, ?_, ?_⟩
    · intro slot sess hget
      rw [List.eq_of_mem_replicate (List.mem_of_getElem? hget)]
      exact ⟨fun _ hk => absurd hk (Option.not_mem_none _), List.length_replicate ..⟩
    · intro works hworks work hmem
      rw [htasks works hworks] at hmem
      cases hmem
    · intro works hworks
      rw [htasks works hworks]
      exact .of_no_puback fun _ => List.not_mem_nil
    · exact nofun
    · intro works hworks n hmem
      rw [htasks works hworks] at hmem
      cases hmem
    · intro i j works others n hi _ hmem
      rw [htasks works (List.mem_of_getElem? hi)] at hmem
      cases hmem
  toKept :=
    { ingested := nofun
      distributed := nofun
      delivered := nofun
      reasons := nofun }

/-- **In every run of the broker, a publish that was acknowledged is ingested, posted and
    distributed, and each session it is distributed to with QoS 1 has it in its table until it
    acknowledges it or is closed, unless its packet is turned away.** -/
theorem qos1_conserved {sessions : Nat} {acts : List DeliveryStep}
    (hrun : Lib.run deliveryStep (Delivery.atStart sessions) acts = some s) : s.Conserved := by
  have hinv : Inv s :=
    Lib.invariant_of_steps (fun _ _ _ h hs => inv_step h hs) (inv_atStart sessions) hrun
  exact ⟨hinv.ingested, hinv.distributed,
    fun n message dues hlog due hdue => (hinv.delivered n message dues hlog due hdue).2,
    hinv.reasons, mem_dues s⟩

/-- The first session subscribes with QoS 1, and the second one is connected. -/
def ledSubscribed : List DeliveryStep :=
  [.connect 0 3 { clientId := "webui".toList }, .connect 1 4 { clientId := "webui".toList },
    .packet 0 (.subscribe [("web/led".toList, 1)])] ++ List.replicate 34 (.go 0 .ok)

/-- The second session publishes with QoS 1, up to the first write to the first session. -/
def ledPublished : List DeliveryStep :=
  .packet 1 (.publish ⟨"web/led".toList, "on".toList, 1, false⟩) :: List.replicate 4 (.go 1 .ok)

theorem qos1_conserved_led : (Lib.run deliveryStep (.atStart 2)
      (ledSubscribed ++ ledPublished ++ [.go 1 .failed, .packet 0 (.puback 1)])).map
        (fun s => s.log.head?) = some (some (.confirmed 0 1 (some 0))) ∧
    ∀ s, Lib.run deliveryStep (.atStart 2)
      (ledSubscribed ++ ledPublished ++ [.go 1 .failed, .packet 0 (.puback 1)]) = some s →
        s.Conserved :=
  ⟨by decide +kernel, fun _ hrun => qos1_conserved hrun⟩

/-- Sixty-five publishes, and none of them is acknowledged by the first session. -/
def ledFlooded : List DeliveryStep :=
  ledSubscribed ++ (List.replicate 64 (ledPublished ++ [.go 1 .ok])).flatten ++ ledPublished

/-- Whatever is distributed to a session is in its table until it is acknowledged or the session
    is closed. -/
def Delivery.NeverDropped (s : Delivery) : Prop :=
  ∀ n message dues, .distributed n message dues ∈ s.log → ∀ due ∈ dues,
    s.Todo (Work.starts due.1 due.2 n) ∨ s.Answered due.1 due.2 n

/-- The last publish was acknowledged and distributed to the first session, which is open and
    does not get it. -/
theorem not_neverDropped : (Lib.run deliveryStep (.atStart 2) ledFlooded).map (fun s =>
      decide (.acked 64 ∈ s.log ∧ s.tasks = [[], []] ∧
        .distributed 64 ⟨"web/led".toList, "on".toList, 1, false⟩ [(0, 0)] ∈ s.log)) = some true ∧
    ¬∀ sessions acts s, Lib.run deliveryStep (.atStart sessions) acts = some s →
      s.NeverDropped := by
  have hlog : (Lib.run deliveryStep (.atStart 2) ledFlooded).map (fun s =>
      decide (.acked 64 ∈ s.log ∧ s.tasks = [[], []] ∧
        .distributed 64 ⟨"web/led".toList, "on".toList, 1, false⟩ [(0, 0)] ∈ s.log)) =
          some true := by
    decide +kernel
  have hlost : (Lib.run deliveryStep (.atStart 2) ledFlooded).map (fun s =>
      decide (s.Todo (Work.starts 0 0 64) ∨ s.Answered 0 0 64)) = some false := by
    decide +kernel
  refine ⟨hlog, fun h => ?_⟩
  cases hrun : Lib.run deliveryStep (.atStart 2) ledFlooded with
  | none =>
    rw [hrun] at hlog
    cases hlog
  | some s =>
    rw [hrun] at hlog hlost
    have hdistributed := (of_decide_eq_true (Option.some.inj hlog)).2.2
    have hkept := h 2 ledFlooded s hrun 64 _ _ hdistributed (0, 0) List.mem_cons_self
    exact of_decide_eq_false (Option.some.inj hlost) hkept

end SceneHub.Broker
