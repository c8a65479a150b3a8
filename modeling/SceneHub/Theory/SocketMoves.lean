import SceneHub.Broker.Server
import SceneHub.Lib.Handles

/-!
# Moves of Sockets

Where the sockets of the broker are, and how steps move them.

A socket is held by everybody who has its descriptor: the session, a task that is
about to read or write, a task with a packet for the session. It is owned by the one
who is to close it: the session as long as it has the socket, the task that took it
from the session, and before that the task that accepted the connection. A step
passes sockets on, or closes one that the task owns. There is one exception: when the
task of a session cannot be created, the accepting task closes a socket that the
session has as well.

## Main definitions

* `Sockets.held`, `Sockets.owned`: The sockets that somebody has, or is to close.
* `Moves`: What a step does with them.

## Theorems

* `sendStep_moves`, `freeStep_moves`: The steps of sending and of freeing a session.
* `socketStep_moves`: A connection is accepted, or sockets are moved.
-/

namespace SceneHub.Broker

variable {choice : ClientChoice} {who : TaskId}

variable {s s' : Sockets}

/-! ### Who has a socket -/

def SendState.held : SendState → List Socket
  | .asked job => job.sock.toList
  | .waiting job => job.sock.toList
  | .locked job => job.sock.toList
  | .sending job _ _ => job.sock.toList
  | .sent job _ => job.sock.toList
  | .closing job _ => job.sock.toList
  | .shutting sock => [sock]
  | .done _ => []

def SendState.owned : SendState → List Socket
  | .shutting sock => [sock]
  | _ => []

def FreeState.owned : FreeState → List Socket
  | .closing sock => sock.toList
  | _ => []

def Duty.held : Duty → List Socket
  | .send job _ => job.sock.toList
  | _ => []

def ClientState.held : ClientState → List Socket
  | .reading _ _ sock => sock.toList
  | .evicting old => old.toList
  | .greeting send _ => send.held
  | .serving duties => duties.flatMap Duty.held
  | .sending send _ duties => send.held ++ duties.flatMap Duty.held
  | .freeing free => free.owned
  | _ => []

def ClientState.owned : ClientState → List Socket
  | .evicting old => old.toList
  | .greeting send _ => send.owned
  | .sending send _ _ => send.owned
  | .freeing free => free.owned
  | _ => []

def AcceptState.held : AcceptState → List Socket
  | .waiting => []
  | .accepted sock => [sock]
  | .full sock => [sock]
  | .evicting sock old => old.toList ++ [sock]
  | .rejecting sock => [sock]
  | .allocated _ sock => [sock]
  | .stored _ sock => [sock]
  | .refused _ sock _ => [sock]
  | .freeing _ free => free.owned

/-- A socket that the session has is not the accepting task's own. -/
def AcceptState.owned : AcceptState → List Socket
  | .stored _ _ => []
  | .refused _ sock twice => if twice then [] else [sock]
  | accept => accept.held

def CallState.held : CallState → List Socket
  | .idle => []
  | .publishing jobs => jobs.flatMap fun job => job.sock.toList
  | .sending send jobs => send.held ++ jobs.flatMap fun job => job.sock.toList
  | .closing sock => [sock]

def CallState.owned : CallState → List Socket
  | .sending send _ => send.owned
  | .closing sock => [sock]
  | _ => []

def Sockets.inSessions (s : Sockets) : List Socket :=
  s.sessions.flatMap fun sess => sess.sock.toList

/-- The sockets that somebody has. -/
def Sockets.held (s : Sockets) : List Socket :=
  s.inSessions ++ (s.clients.flatMap ClientState.held ++
    (s.accept.held ++ s.calls.flatMap CallState.held))

/-- The sockets that somebody is to close. -/
def Sockets.owned (s : Sockets) : List Socket :=
  s.inSessions ++ (s.clients.flatMap ClientState.owned ++
    (s.accept.owned ++ s.calls.flatMap CallState.owned))

/-- The session that the accepting task prepares. -/
def AcceptState.slot : AcceptState → Option Nat
  | .allocated slot _ => some slot
  | .stored slot _ => some slot
  | .refused slot _ _ => some slot
  | .freeing slot _ => some slot
  | _ => none

attribute [simp] SendState.held SendState.owned FreeState.owned Duty.held ClientState.held
  ClientState.owned AcceptState.held AcceptState.owned CallState.held CallState.owned

/-! ### Moves -/

/-- A step closes no socket, one that its task owns, or one that a session has as well. -/
inductive Closing where
  | none
  | owner (sock : Socket)
  | stray (sock : Socket)

def Closing.given : Closing → List Socket
  | .owner sock => [sock]
  | _ => []

def Closing.sock : Closing → Option Socket
  | .none => Option.none
  | .owner sock => some sock
  | .stray sock => some sock

/-- An event of a socket that somebody has, as the system treats it. -/
def Happens (s : Sockets) (held : List Socket) : SocketEvent → Prop
  | .wrote target actual _ => ∃ sock ∈ held, sock.conn = target ∧ s.fds sock.fd = some actual
  | .read target actual => ∃ sock ∈ held, sock.conn = target ∧ s.fds sock.fd = some actual
  | .torn _ => True
  | .connected _ => True
  | .accepted _ => False
  | .closed _ _ => False

theorem Happens.mono {held more : List Socket} {event : SocketEvent} (h : Happens s held event)
    (hsub : ∀ x ∈ held, x ∈ more) : Happens s more event := by
  cases event with
  | accepted | closed => exact h
  | torn | connected => trivial
  | wrote | read =>
    rcases h with ⟨sock, hmem, hrest⟩
    exact ⟨sock, hsub sock hmem, hrest⟩

/-- What a step does with sockets that are held and owned before it. -/
structure Moves (s s' : Sockets) (c : Closing) (held owned held' owned' : List Socket) :
    Prop where
  conns : s'.nextConn = s.nextConn
  fds : s'.fds = c.sock.elim s.fds fun sock => Function.update s.fds sock.fd Option.none
  log : c.sock.elim (s'.log = s.log ∨ ∃ event, s'.log = event :: s.log ∧ Happens s held event)
    fun sock => s'.log = .closed sock (s.fds sock.fd) :: s.log
  count : ∀ x, owned'.count x + c.given.count x = owned.count x
  sub : ∀ x ∈ held', x ∈ held
  stray : ∀ sock, c = .stray sock → ∃ slot, s.accept = .refused slot sock true

/-- A step leaves the other tasks alone, and sessions at most lose their sockets. -/
structure Quiet (s s' : Sockets) : Prop where
  clients : s'.clients = s.clients
  accept : s'.accept = s.accept
  calls : s'.calls = s.calls
  length : s'.sessions.length = s.sessions.length
  fades : ∀ (slot : Nat) (sess' : MqttSession), s'.sessions[slot]? = some sess' →
    ∃ sess : MqttSession, s.sessions[slot]? = some sess ∧ sess'.active = sess.active ∧
      (sess'.sock = sess.sock ∨ sess'.sock = none)

theorem Quiet.of_sessions (hclients : s'.clients = s.clients) (haccept : s'.accept = s.accept)
    (hcalls : s'.calls = s.calls) (hsessions : s'.sessions = s.sessions) : Quiet s s' := by
  refine ⟨hclients, haccept, hcalls, congrArg List.length hsessions, fun slot sess' hsess' => ?_⟩
  rw [hsessions] at hsess'
  exact ⟨sess', hsess', rfl, .inl rfl⟩

theorem Quiet.refl (s : Sockets) : Quiet s s := .of_sessions rfl rfl rfl rfl

theorem Quiet.setSession {slot : Nat} {sess sess' : MqttSession}
    (h : s.sessions[slot]? = some sess) (hactive : sess'.active = sess.active)
    (hsock : sess'.sock = sess.sock ∨ sess'.sock = none) : Quiet s (s.setSession slot sess') := by
  refine ⟨rfl, rfl, rfl, List.length_set .., fun other sess'' hother => ?_⟩
  change (s.sessions.set slot sess')[other]? = some sess'' at hother
  by_cases hsame : slot = other
  · rw [← hsame] at hother ⊢
    rw [List.getElem?_set_self (List.getElem?_eq_some_iff.1 h).1] at hother
    cases hother
    exact ⟨sess, h, hactive, hsock⟩
  · rw [List.getElem?_set_ne hsame] at hother
    exact ⟨sess'', hother, rfl, .inl rfl⟩

theorem Quiet.closeSocket (s : Sockets) (sock : Option Socket) : Quiet s (s.closeSocket sock) := by
  cases sock <;> exact .of_sessions rfl rfl rfl rfl

theorem Quiet.trans {s₁ s₂ : Sockets} (h₁ : Quiet s s₁) (h₂ : Quiet s₁ s₂) : Quiet s s₂ := by
  refine ⟨h₂.clients.trans h₁.clients, h₂.accept.trans h₁.accept, h₂.calls.trans h₁.calls,
    h₂.length.trans h₁.length, fun slot sess₂ hsess₂ => ?_⟩
  rcases h₂.fades slot sess₂ hsess₂ with ⟨sess₁, hsess₁, hactive₂, hsock₂⟩
  rcases h₁.fades slot sess₁ hsess₁ with ⟨sess, hsess, hactive₁, hsock₁⟩
  refine ⟨sess, hsess, hactive₂.trans hactive₁, ?_⟩
  rcases hsock₂ with hsame | hnone
  · rw [hsame]
    exact hsock₁
  · exact .inr hnone

/-! ### What single steps do -/

variable {slot : Nat} {sess sess' : MqttSession}

theorem count_setSession (h : s.sessions[slot]? = some sess) (sess' : MqttSession) (x : Socket) :
    (s.setSession slot sess').inSessions.count x + sess.sock.toList.count x =
      s.inSessions.count x + sess'.sock.toList.count x :=
  Lib.count_flatMap_set _ h sess' x

theorem mem_inSessions (h : s.sessions[slot]? = some sess) {x : Socket}
    (hx : x ∈ sess.sock.toList) : x ∈ s.inSessions :=
  Lib.mem_flatMap_of_getElem? (fun sess : MqttSession => sess.sock.toList) h hx

theorem mem_setSession {x : Socket} (hx : x ∈ (s.setSession slot sess').inSessions) :
    x ∈ s.inSessions ∨ x ∈ sess'.sock.toList :=
  Lib.mem_flatMap_set _ hx

theorem Moves.copies {held owned held' : List Socket} (hsub : ∀ x ∈ held', x ∈ held) :
    Moves s s .none held owned held' owned :=
  ⟨rfl, rfl, .inl rfl, fun _ => rfl, hsub, nofun⟩

theorem Moves.session (h : s.sessions[slot]? = some sess) (hsock : sess'.sock = sess.sock)
    {held owned held' : List Socket} (hsub : ∀ x ∈ held', x ∈ s.inSessions ∨ x ∈ held) :
    Moves s (s.setSession slot sess') .none (s.inSessions ++ held) (s.inSessions ++ owned)
      ((s.setSession slot sess').inSessions ++ held')
      ((s.setSession slot sess').inSessions ++ owned) := by
  refine ⟨rfl, rfl, .inl rfl, fun x => ?_, fun x hx => ?_, nofun⟩
  · have hcount := count_setSession h sess' x
    rw [hsock] at hcount
    simp only [List.count_append, Closing.given, List.count_nil]
    omega
  rw [List.mem_append]
  rcases List.mem_append.1 hx with hin | htask
  · rcases mem_setSession hin with hold | hnew
    · exact .inl hold
    · rw [hsock] at hnew
      exact .inl (mem_inSessions h hnew)
  · exact hsub x htask

theorem Moves.take (h : s.sessions[slot]? = some sess) (hsock : sess'.sock = none)
    {held owned held' : List Socket} (hsub : ∀ x ∈ held', x ∈ sess.sock.toList ∨ x ∈ held) :
    Moves s (s.setSession slot sess') .none (s.inSessions ++ held) (s.inSessions ++ owned)
      ((s.setSession slot sess').inSessions ++ held')
      ((s.setSession slot sess').inSessions ++ (sess.sock.toList ++ owned)) := by
  refine ⟨rfl, rfl, .inl rfl, fun x => ?_, fun x hx => ?_, nofun⟩
  · have hcount := count_setSession h sess' x
    rw [hsock] at hcount
    simp only [List.count_append, Closing.given, List.count_nil, Option.toList_none] at hcount ⊢
    omega
  rw [List.mem_append]
  rcases List.mem_append.1 hx with hin | htask
  · rcases mem_setSession hin with hold | hnew
    · exact .inl hold
    · rw [hsock] at hnew
      cases hnew
  · rcases hsub x htask with hsess | hold
    · exact .inl (mem_inSessions h hsess)
    · exact .inr hold

theorem Moves.put (h : s.sessions[slot]? = some sess) (hnone : sess.sock = none) {sock : Socket}
    (hsock : sess'.sock = some sock) :
    Moves s (s.setSession slot sess') .none (s.inSessions ++ [sock]) (s.inSessions ++ [sock])
      ((s.setSession slot sess').inSessions ++ [sock])
      ((s.setSession slot sess').inSessions ++ []) := by
  refine ⟨rfl, rfl, .inl rfl, fun x => ?_, fun x hx => ?_, nofun⟩
  · have hcount := count_setSession h sess' x
    rw [hnone, hsock] at hcount
    simp only [List.count_append, Closing.given, List.count_nil, Option.toList_none,
      Option.toList_some] at hcount ⊢
    omega
  rw [List.mem_append]
  rcases List.mem_append.1 hx with hin | htask
  · rcases mem_setSession hin with hold | hnew
    · exact .inl hold
    · rw [hsock] at hnew
      exact .inr hnew
  · exact .inr htask

theorem Moves.close (sock : Option Socket) (owned : List Socket) {held held' : List Socket}
    (hsub : ∀ x ∈ held', x ∈ held) : ∃ c, Moves s (s.closeSocket sock) c (s.inSessions ++ held)
      (s.inSessions ++ (sock.toList ++ owned)) ((s.closeSocket sock).inSessions ++ held')
      ((s.closeSocket sock).inSessions ++ owned) := by
  have hmem : ∀ x ∈ s.inSessions ++ held', x ∈ s.inSessions ++ held := by
    intro x hx
    rw [List.mem_append] at hx ⊢
    exact hx.imp_right (hsub x)
  cases sock with
  | none => exact ⟨.none, rfl, rfl, .inl rfl, fun _ => rfl, hmem, nofun⟩
  | some sock =>
    refine ⟨.owner sock, rfl, rfl, rfl, fun x => ?_, hmem, nofun⟩
    change (s.inSessions ++ owned).count x + _ = _
    simp only [List.count_append, Closing.given, Option.toList_some]
    omega

theorem Moves.event {event : SocketEvent} {held owned held' : List Socket}
    (hevent : Happens s held event) (hsub : ∀ x ∈ held', x ∈ held) :
    Moves s (s.note event) .none held owned held' owned :=
  ⟨rfl, rfl, .inr ⟨event, rfl, hevent⟩, fun _ => rfl, hsub, nofun⟩

theorem Moves.trans {s₁ s₂ : Sockets} {held owned held₁ owned₁ held₂ owned₂ : List Socket}
    (h₁ : Moves s s₁ .none held owned held₁ owned₁) (hlog : s₁.log = s.log)
    (h₂ : Moves s₁ s₂ .none held₁ owned₁ held₂ owned₂) :
    Moves s s₂ .none held owned held₂ owned₂ where
  conns := h₂.conns.trans h₁.conns
  fds := h₂.fds.trans h₁.fds
  log := by
    have hfds : s₁.fds = s.fds := h₁.fds
    rcases h₂.log with hsame | ⟨event, hevent, hhappens⟩
    · exact .inl (hsame.trans hlog)
    refine .inr ⟨event, by rw [hevent, hlog], ?_⟩
    have hbefore : Happens s held₁ event := by
      cases event with
      | accepted | closed => exact hhappens
      | torn | connected => trivial
      | wrote | read =>
        rcases hhappens with ⟨sock, hmem, hconn, hopen⟩
        exact ⟨sock, hmem, hconn, hfds ▸ hopen⟩
    exact hbefore.mono h₁.sub
  count x := (h₂.count x).trans (h₁.count x)
  sub x hx := h₁.sub x (h₂.sub x hx)
  stray := nofun

theorem Moves.frame {c : Closing} {a a' held owned held' owned' : List Socket}
    (h : Moves s s' c (a ++ held) owned (a' ++ held') owned') (more : List Socket) :
    Moves s s' c (a ++ (held ++ more)) owned (a' ++ (held' ++ more)) owned' where
  conns := h.conns
  fds := h.fds
  log := by
    have hlog := h.log
    cases c with
    | owner sock => exact hlog
    | stray sock => exact hlog
    | none =>
      rcases hlog with hsame | ⟨event, hevent, hhappens⟩
      · exact .inl hsame
      refine .inr ⟨event, hevent, hhappens.mono fun x hx => ?_⟩
      rw [← List.append_assoc]
      exact List.mem_append_left _ hx
  count := h.count
  sub x hx := by
    rw [← List.append_assoc] at hx ⊢
    rcases List.mem_append.1 hx with hmine | hmore
    · exact List.mem_append_left _ (h.sub x hmine)
    · exact List.mem_append_right _ hmore
  stray := h.stray

/-! ### Sending -/

/-- What a step of a send can do. -/
inductive Sends (s : Sockets) (who : TaskId) :
    SendState → SendChoice → Sockets → SendState → Prop where
  | allow (job : Job) : Sends s who (.asked job) .go s (.waiting job)
  | drop (job : Job) (choice : SendChoice) (ok : Bool) :
      Sends s who (.asked job) choice s (.done ok)
  | lock (job : Job) (sess : MqttSession) (hsess : s.sessions[job.slot]? = some sess)
      (hfree : sess.txLock = none) : Sends s who (.waiting job) .go
        (s.setSession job.slot { sess with txLock := some who }) (.locked job)
  | begin (job : Job) (sess : MqttSession) (pieces : List (List UInt8))
      (hsess : s.sessions[job.slot]? = some sess) (hkind : job.kind ≠ .ack)
      (hcurrent : sess.current job.sock = true) (hpieces : job.pieces = some pieces) :
      Sends s who (.locked job) .go s (.sending job pieces false)
  | beginAck (job : Job) (sess : MqttSession) (hsess : s.sessions[job.slot]? = some sess)
      (hkind : job.kind = .ack) : Sends s who (.locked job) .go s
        (.sending { job with sock := sess.sock } (job.pieces.getD []) false)
  | tooLong (job : Job) (hkind : job.kind ≠ .ack) :
      Sends s who (.locked job) .go s (.sent job .failed)
  | unlock (job : Job) (sess : MqttSession) (choice : SendChoice) (st' : SendState)
      (hsess : s.sessions[job.slot]? = some sess)
      (hst : st' = .waiting job ∨ (∃ ok, st' = .done ok) ∨ st' = .closing job false) :
      Sends s who (.locked job) choice (s.setSession job.slot { sess with txLock := none }) st'
  | write (job : Job) (sock : Socket) (piece : List UInt8) (pieces : List (List UInt8))
      (started : Bool) (n actual : Nat) (hsock : job.sock = some sock)
      (hopen : s.fds sock.fd = some actual) (hpos : 0 < n) (hlen : n ≤ piece.length) :
      Sends s who (.sending job (piece :: pieces) started) (.write n)
        (s.note (.wrote sock.conn actual (piece.take n)))
        (let rest := if n = piece.length then pieces else piece.drop n :: pieces
        if rest = [] then .sent job .ok else .sending job rest true)
  | tear (job : Job) (sock : Socket) (rest : List (List UInt8)) (hsock : job.sock = some sock) :
      Sends s who (.sending job rest true) .fail (s.note (.torn sock.conn)) (.sent job .partialFail)
  | fail (job : Job) (rest : List (List UInt8)) (started : Bool)
      (hnone : started = false ∨ job.sock = none) :
      Sends s who (.sending job rest started) .fail s (.sent job .failed)
  | answered (job : Job) (rc : SendResult) (ok : Bool) (hkind : job.kind = .connack) :
      Sends s who (.sent job rc) .go s (.done ok)
  | give (job : Job) (sess : MqttSession) (rc : SendResult)
      (hsess : s.sessions[job.slot]? = some sess) (hkind : job.kind ≠ .connack) :
      Sends s who (.sent job rc) .go (s.setSession job.slot { sess with txLock := none })
        (if job.kind.closesOn rc then .closing job (rc = .partialFail)
        else .done (job.kind.succeeds rc))
  | take (job : Job) (sess : MqttSession) (sock own : Socket) (torn : Bool)
      (hsess : s.sessions[job.slot]? = some sess) (hsock : job.sock = some sock)
      (hown : sess.sock = some own) (hfd : own.fd = sock.fd) : Sends s who (.closing job torn) .go
        (s.setSession job.slot { sess with closing := true, sock := none }) (.shutting own)
  | stale (job : Job) (sess : MqttSession) (sock : Socket) (torn : Bool)
      (hsess : s.sessions[job.slot]? = some sess) (hsock : job.sock = some sock)
      (hother : sess.active = true → ∀ own, sess.sock = some own → own.fd ≠ sock.fd) :
      Sends s who (.closing job torn) .go s (.done false)
  | shut (sock : Socket) :
      Sends s who (.shutting sock) .go (s.closeSocket (some sock)) (.done false)

theorem sendStep_sends {st st' : SendState} {choice : SendChoice}
    (h : sendStep s who st choice = some (s', st')) : Sends s who st choice s' st' := by
  unfold sendStep at h
  split at h
  · rename_i job
    split at h
    · cases h
    cases h
    split_ifs
    · exact .allow job
    · exact .drop job .go false
  · rename_i job again
    split_ifs at h
    cases h
    exact .drop job _ again
  · rename_i job
    split at h
    · cases h
    rename_i sess hsess
    split_ifs at h with hfree
    cases h
    exact .lock job sess hsess hfree
  · rename_i job
    split at h
    · cases h
    rename_i sess hsess
    by_cases hkind : job.kind = .ack
    · rw [if_pos hkind] at h
      cases h
      exact .beginAck job sess hsess hkind
    rw [if_neg hkind] at h
    split at h
    · rename_i hcurrent
      split at h
      · cases h
        exact .tooLong job hkind
      rename_i pieces hpieces
      cases h
      exact .begin job sess pieces hsess hkind hcurrent hpieces
    · split at h
      · cases h
      · cases h
        exact .unlock job sess .go _ hsess (.inr (.inl ⟨false, rfl⟩))
  · rename_i job again
    split at h
    · cases h
    rename_i sess hsess
    split at h
    · cases h
      exact .unlock job sess _ _ hsess (.inr (.inl ⟨false, rfl⟩))
    · cases h
      refine .unlock job sess _ _ hsess ?_
      split_ifs
      · exact .inl rfl
      · exact .inr (.inl ⟨true, rfl⟩)
    · cases h
  · rename_i job
    split at h
    · cases h
    rename_i sess hsess
    split_ifs at h
    cases h
    exact .unlock job sess _ _ hsess (.inr (.inr rfl))
  · rename_i job rest started n
    split at h
    · rename_i sock piece pieces hsock
      split at h
      · cases h
      rename_i actual hopen
      split at h
      · rename_i hn
        cases h
        exact .write job sock piece pieces started n actual hsock hopen hn.1 hn.2
      · cases h
    · cases h
  · rename_i job rest started
    cases started with
    | false =>
      cases h
      exact .fail job rest false (.inl rfl)
    | true =>
      cases hsock : job.sock with
      | none =>
        rw [hsock] at h
        cases h
        exact .fail job rest true (.inr hsock)
      | some sock =>
        rw [hsock] at h
        cases h
        exact .tear job sock rest hsock
  · rename_i job rc
    split at h
    · rename_i hkind
      cases h
      exact .answered job rc _ hkind
    rename_i hkind
    split at h
    · cases h
    rename_i sess hsess
    cases h
    exact .give job sess rc hsess hkind
  · rename_i job torn
    split at h
    · rename_i sess sock hsess hsock
      split at h
      · rename_i own hown
        split at h
        · rename_i hfd
          cases h
          exact .take job sess sock own torn hsess hsock hown hfd.2
        rename_i hfd
        cases h
        refine .stale job sess sock torn hsess hsock fun hactive other hother heq => ?_
        rw [hown] at hother
        exact hfd ⟨hactive, Option.some.inj hother ▸ heq⟩
      · rename_i hown
        cases h
        refine .stale job sess sock torn hsess hsock fun _ own hsome => ?_
        rw [hown] at hsome
        cases hsome
    · cases h
  · rename_i sock
    cases h
    exact .shut sock
  · cases h

theorem Sends.moves {st st' : SendState} {choice : SendChoice} (h : Sends s who st choice s' st') :
    Quiet s s' ∧ ∃ c, Moves s s' c (s.inSessions ++ st.held) (s.inSessions ++ st.owned)
      (s'.inSessions ++ st'.held) (s'.inSessions ++ st'.owned) := by
  cases h with
  | allow job | tooLong job hkind => exact ⟨.refl s, .none, .copies fun x hx => hx⟩
  | drop job choice ok | answered job rc ok hkind | stale job sess sock torn hsess hsock hother =>
    exact ⟨.refl s, .none, .copies fun x hx => List.mem_append_left _ (by simpa using hx)⟩
  | lock job sess hsess hfree =>
    refine ⟨.setSession hsess rfl (.inl rfl), .none, .session hsess ?_ ?_⟩
    · rfl
    · exact fun x hx => .inr hx
  | begin job sess pieces hsess hkind hcurrent hpieces =>
    exact ⟨.refl s, .none, .copies fun x hx => hx⟩
  | beginAck job sess hsess hkind =>
    refine ⟨.refl s, .none, .copies fun x hx => List.mem_append_left _ ?_⟩
    rcases List.mem_append.1 hx with hin | htask
    · exact hin
    · exact mem_inSessions hsess htask
  | unlock job sess choice st' hsess hst =>
    refine ⟨.setSession hsess rfl (.inl rfl), .none, ?_⟩
    rcases hst with rfl | ⟨ok, rfl⟩ | rfl
    · refine .session hsess ?_ ?_
      · rfl
      · exact fun x hx => .inr hx
    · refine .session hsess ?_ ?_
      · rfl
      · nofun
    · refine .session hsess ?_ ?_
      · rfl
      · exact fun x hx => .inr hx
  | write job sock piece pieces started n actual hsock hopen hpos hlen =>
    refine ⟨.of_sessions rfl rfl rfl rfl, .none, ?_⟩
    have hheld : sock ∈ s.inSessions ++ (SendState.sending job (piece :: pieces) started).held := by
      refine List.mem_append_right _ ?_
      simp [hsock]
    dsimp only
    generalize (if n = piece.length then pieces else piece.drop n :: pieces) = rest
    split_ifs
    · exact .event ⟨sock, hheld, rfl, hopen⟩ fun x hx => hx
    · exact .event ⟨sock, hheld, rfl, hopen⟩ fun x hx => hx
  | tear job sock rest hsock =>
    exact ⟨.of_sessions rfl rfl rfl rfl, .none, .event trivial fun x hx => hx⟩
  | fail job rest started hnone => exact ⟨.refl s, .none, .copies fun x hx => hx⟩
  | give job sess rc hsess hkind =>
    refine ⟨.setSession hsess rfl (.inl rfl), .none, ?_⟩
    split_ifs
    · refine .session hsess ?_ ?_
      · rfl
      · exact fun x hx => .inr hx
    · refine .session hsess ?_ ?_
      · rfl
      · nofun
  | take job sess sock own torn hsess hsock hown hfd =>
    refine ⟨.setSession hsess rfl (.inr rfl), .none, ?_⟩
    have htake : Moves s (s.setSession job.slot { sess with closing := true, sock := none }) .none
        (s.inSessions ++ job.sock.toList) (s.inSessions ++ []) _ _ :=
      .take hsess rfl fun x hx => .inl hx
    rw [hown] at htake
    exact htake
  | shut sock =>
    exact ⟨.closeSocket .., Moves.close (some sock) _ nofun⟩

/-- A step of freeing a session takes its socket and closes it, until the session is free. -/
theorem freeStep_moves {slot : Nat} {free : FreeState} {next : Option FreeState}
    (h : freeStep s slot who free = some (s', next)) (hfree : free ≠ .released) :
    Quiet s s' ∧ ∃ c, Moves s s' c (s.inSessions ++ free.owned) (s.inSessions ++ free.owned)
      (s'.inSessions ++ next.elim [] FreeState.owned)
      (s'.inSessions ++ next.elim [] FreeState.owned) := by
  unfold freeStep at h
  split at h
  · cases h
  rename_i sess hsess
  cases free with
  | begun =>
    split_ifs at h
    cases h
    refine ⟨.setSession hsess rfl (.inl rfl), .none, .session hsess ?_ ?_⟩
    · rfl
    · nofun
  | locked =>
    cases h
    refine ⟨.setSession hsess rfl (.inr rfl), .none, ?_⟩
    have htake : Moves s (s.setSession slot sess.prepareClose) .none (s.inSessions ++ [])
        (s.inSessions ++ []) _ _ := .take hsess rfl fun x hx => .inl hx
    rw [List.append_nil sess.sock.toList] at htake
    exact htake
  | closing sock =>
    cases h
    have hsub : ∀ x ∈ ([] : List Socket), x ∈ sock.toList := nofun
    have hclose := Moves.close (s := s) sock [] hsub
    rw [List.append_nil] at hclose
    exact ⟨.closeSocket .., hclose⟩
  | closed =>
    cases h
    refine ⟨.setSession hsess rfl (.inl rfl), .none, .session hsess ?_ ?_⟩
    · rfl
    · nofun
  | released => exact absurd rfl hfree

theorem freeStep_ends {slot : Nat} {free : FreeState}
    (h : freeStep s slot who free = some (s', none)) : free = .released := by
  unfold freeStep at h
  split at h
  · cases h
  cases free with
  | released => rfl
  | begun =>
    split_ifs at h
    obtain ⟨-, hnone⟩ := Prod.mk.inj (Option.some.inj h)
    cases hnone
  | locked | closing | closed =>
    obtain ⟨-, hnone⟩ := Prod.mk.inj (Option.some.inj h)
    cases hnone

theorem freeStep_released {slot : Nat} {next : Option FreeState}
    (h : freeStep s slot who .released = some (s', next)) :
    ∃ sess, s.sessions[slot]? = some sess ∧ next = none ∧
      s' = s.setSession slot { sess with active := false, closing := false, retiring := true } := by
  unfold freeStep at h
  split at h
  · cases h
  rename_i sess hsess
  cases h
  exact ⟨sess, hsess, rfl, rfl⟩

/-! ### Publishing -/

@[simp]
theorem publishJob_sock (slot : Nat) (sock : Option Socket) (message : Message) (qos : Nat)
    (pid : UInt16) : (publishJob slot sock message qos pid).sock = sock := by
  unfold publishJob
  split_ifs <;> rfl

theorem mem_targetsFrom {message : Message} {exclude : Option Nat} {sessions : List MqttSession}
    {slot : Nat} {pid : UInt16} {job : Job}
    (h : job ∈ (targetsFrom message exclude slot pid sessions).1) :
    ∃ i sess sub qos pid, sessions[i]? = some sess ∧ sess.subscription message.topic = some sub ∧
      exclude ≠ some (slot + i) ∧ job = publishJob (slot + i) sess.sock message qos pid := by
  induction sessions generalizing slot pid with
  | nil => cases h
  | cons sess rest ih =>
    have hrest : ∀ next, job ∈ (targetsFrom message exclude (slot + 1) next rest).1 →
        ∃ i sess' sub qos pid, (sess :: rest)[i]? = some sess' ∧
          sess'.subscription message.topic = some sub ∧ exclude ≠ some (slot + i) ∧
          job = publishJob (slot + i) sess'.sock message qos pid := by
      intro next hmem
      rcases ih hmem with ⟨i, other, sub, qos, pid, hother, hsub, hexclude, hjob⟩
      rw [Nat.add_right_comm] at hexclude hjob
      exact ⟨i + 1, other, sub, qos, pid, hother, hsub, hexclude, hjob⟩
    unfold targetsFrom at h
    split at h
    · exact hrest _ h
    rename_i sub hsub
    split at h
    · exact hrest _ h
    rename_i hexclude
    rcases List.mem_cons.1 h with hfirst | hothers
    · exact ⟨0, sess, sub, _, _, rfl, hsub, hexclude, hfirst⟩
    · exact hrest _ hothers

theorem mem_retainedJobs {slot : Nat} {sock : Option Socket} {pid : UInt16}
    {messages : List Message} {job : Job} (h : job ∈ (retainedJobs slot sock pid messages).1) :
    ∃ message qos pid, job = publishJob slot sock message qos pid := by
  induction messages generalizing pid with
  | nil => cases h
  | cons message messages ih =>
    rcases List.mem_cons.1 h with hfirst | hothers
    · exact ⟨_, _, _, hfirst⟩
    · exact ih hothers

theorem targets_held {message : Message} {exclude : Option Nat} {job : Job}
    (h : job ∈ (s.targets message exclude).1) : ∀ x ∈ job.sock.toList, x ∈ s.inSessions := by
  rcases mem_targetsFrom h with ⟨i, sess, sub, qos, pid, hsess, -, -, rfl⟩
  intro x hx
  rw [publishJob_sock] at hx
  exact mem_inSessions hsess hx

theorem Moves.packetId {pid : UInt16} {held owned held' : List Socket}
    (hsub : ∀ x ∈ held', x ∈ held) :
    Moves s { s with packetId := pid } .none held owned held' owned :=
  ⟨rfl, rfl, .inl rfl, fun _ => rfl, hsub, nofun⟩

/-! ### The tasks of sessions -/

theorem start_held (job : Job) : job.start.held = job.sock.toList := by
  unfold Job.start
  split <;> rfl

theorem start_owned (job : Job) : job.start.owned = [] := by
  unfold Job.start
  split <;> rfl

theorem inbound_held (inbound : Inbound) : inbound.duties.flatMap Duty.held = [] := by
  cases inbound with
  | publish message pid allowed => unfold Inbound.duties; dsimp only; split_ifs <;> rfl
  | subscribe filters pid granted =>
    unfold Inbound.duties
    rw [List.flatMap_append, List.flatMap_assoc]
    cases granted <;> simp
  | unsubscribe filters pid complete =>
    unfold Inbound.duties
    rw [List.flatMap_append, List.flatMap_map]
    cases complete <;> simp
  | puback | pingreq | disconnect | other => rfl

theorem sends_held (jobs : List Job) (stop : Bool) :
    (jobs.map fun job => Duty.send job stop).flatMap Duty.held =
      jobs.flatMap fun job => job.sock.toList := by
  rw [List.flatMap_map]
  rfl

theorem held_of_nothing (held : List Socket) :
    ∀ x ∈ s.inSessions ++ [], x ∈ s.inSessions ++ held := by
  intro x hx
  rw [List.append_nil] at hx
  exact List.mem_append_left _ hx

theorem dutyStep_moves {duties : List Duty} {duty : Duty} {client : ClientState}
    (hsess : s.sessions[slot]? = some sess)
    (h : dutyStep s slot sess duties duty choice = some (s', client)) :
    Quiet s s' ∧ ∃ c, Moves s s' c
      (s.inSessions ++ (duty :: duties).flatMap Duty.held) (s.inSessions ++ [])
      (s'.inSessions ++ client.held) (s'.inSessions ++ client.owned) := by
  have hrest : ∀ x ∈ s.inSessions ++ duties.flatMap Duty.held,
      x ∈ s.inSessions ++ (duty :: duties).flatMap Duty.held := by
    intro x hx
    rw [List.flatMap_cons]
    simp only [List.mem_append] at hx ⊢
    tauto
  -- What is sent next goes to sockets of sessions.
  have hsends : ∀ (jobs : List Job) (stop : Bool),
      (∀ job ∈ jobs, ∀ x ∈ job.sock.toList, x ∈ s.inSessions) →
      ∀ x ∈ s.inSessions ++ (jobs.map (fun job => Duty.send job stop) ++ duties).flatMap Duty.held,
        x ∈ s.inSessions ++ (duty :: duties).flatMap Duty.held := by
    intro jobs stop hjobs x hx
    rw [List.flatMap_append, sends_held, ← List.append_assoc] at hx
    rcases List.mem_append.1 hx with hsent | hold
    · refine List.mem_append_left _ ((List.mem_append.1 hsent).elim id fun hjob => ?_)
      rcases List.mem_flatMap.1 hjob with ⟨job, hmem, hx⟩
      exact hjobs job hmem x hx
    · exact hrest x (List.mem_append_right _ hold)
  unfold dutyStep at h
  split at h
  · rename_i packet needed
    split at h
    · cases h
      refine ⟨.refl s, .none, ?_⟩
      split_ifs
      · exact .copies (held_of_nothing _)
      · exact .copies hrest
    · cases h
      exact ⟨.refl s, .none, .copies hrest⟩
  · cases h
    refine ⟨.setSession hsess rfl (.inl rfl), .none, .session hsess ?_ ?_⟩
    · rfl
    · exact fun x hx => .inr hx
  · cases h
    refine ⟨.setSession hsess rfl (.inl rfl), .none, .session hsess ?_ ?_⟩
    · rfl
    · exact fun x hx => .inr hx
  · rename_i messages
    split_ifs at h
    · cases h
      refine ⟨.of_sessions rfl rfl rfl rfl, .none, .packetId (hsends _ _ fun job hmem x hx => ?_)⟩
      rcases mem_retainedJobs hmem with ⟨message, qos, pid, rfl⟩
      rw [publishJob_sock] at hx
      exact mem_inSessions hsess hx
    · cases h
      exact ⟨.refl s, .none, .copies hrest⟩
  · rename_i message exclude
    cases h
    exact ⟨.of_sessions rfl rfl rfl rfl, .none, .packetId (hsends _ _ fun _ => targets_held)⟩
  · rename_i job stop
    cases h
    refine ⟨.refl s, .none, ?_⟩
    rw [ClientState.held, ClientState.owned, start_held, start_owned]
    exact .copies fun x hx => hx
  · rename_i message pid
    split_ifs at h
    · cases h
      exact ⟨.refl s, .none, .copies hrest⟩
    dsimp only at h
    split at h
    · cases h
    cases h
    refine ⟨.refl s, .none, .copies fun x hx => ?_⟩
    rcases List.mem_append.1 hx with hin | htask
    · exact List.mem_append_left _ hin
    rcases List.mem_append.1 htask with hown | hold
    · exact List.mem_append_left _ (mem_inSessions hsess hown)
    · exact hrest x (List.mem_append_right _ hold)
  · cases h
    exact ⟨.refl s, .none, .copies hrest⟩
  · cases h
    exact ⟨.refl s, .none, .copies (held_of_nothing _)⟩
  · cases h
    exact ⟨.refl s, .none, .copies (held_of_nothing _)⟩
  · cases h

theorem afterStage_held (connected : Bool) (stage : ReadStage) :
    (afterStage connected stage).held = [] := by
  cases stage <;> cases connected <;> rfl

theorem afterStage_owned (connected : Bool) (stage : ReadStage) :
    (afterStage connected stage).owned = [] := by
  cases stage <;> cases connected <;> rfl

theorem next_owned (onFail : OnFail) (ok : Bool) (duties : List Duty) :
    (onFail.next ok duties).owned = [] := by
  cases ok <;> cases onFail <;> rfl

/-- Behind a packet of its own a task has no other sockets than before. -/
theorem next_held {onFail : OnFail} {ok : Bool} {duties : List Duty} {x : Socket}
    (hx : x ∈ (onFail.next ok duties).held) : x ∈ duties.flatMap Duty.held := by
  cases ok with
  | true => exact hx
  | false =>
    cases onFail with
    | ignore => exact hx
    | stop =>
      rcases List.mem_flatMap.1 hx with ⟨duty, hduty, hmem⟩
      exact List.mem_flatMap.2 ⟨duty, (List.dropWhile_sublist _).subset hduty, hmem⟩
    | leave => cases hx

theorem handleStep_reading {client' : ClientState} {connected : Bool} {stage : ReadStage}
    {sock : Option Socket}
    (h : handleStep s slot sess (.reading connected stage sock) choice = some (s', client')) :
    (∃ x actual, sock = some x ∧ s.fds x.fd = some actual ∧
      s' = s.note (.read x.conn actual) ∧
      (client' = .reading connected stage sock ∨ client' = afterStage connected stage)) ∨
    s' = s ∧ (client' = afterStage connected stage ∨ client' = .serving [.retry] ∨
      client' = .cleanup) := by
  unfold handleStep at h
  cases choice <;> cases stage <;> cases sock <;> dsimp only at h
  all_goals repeat' split at h
  all_goals
    first
    | contradiction
    | cases h
      simp_all

/-- A step of the task of a session that is neither a send nor frees the session. -/
theorem handleStep_moves {client client' : ClientState} (hsess : s.sessions[slot]? = some sess)
    (h : handleStep s slot sess client choice = some (s', client')) : Quiet s s' ∧ ∃ c, Moves s s' c
      (s.inSessions ++ client.held) (s.inSessions ++ client.owned)
      (s'.inSessions ++ client'.held) (s'.inSessions ++ client'.owned) := by
  have hmine : ∀ x ∈ s.inSessions ++ sess.sock.toList, x ∈ s.inSessions ++ client.held := by
    intro x hx
    rcases List.mem_append.1 hx with hin | hown
    · exact List.mem_append_left _ hin
    · exact List.mem_append_left _ (mem_inSessions hsess hown)
  cases client with
  | fetching connected stage =>
    cases choice with
    | go =>
      cases h
      exact ⟨.refl s, .none, .copies hmine⟩
    | _ => cases h
  | reading connected stage sock =>
    rcases handleStep_reading h with ⟨x, actual, rfl, hopen, rfl, hnext⟩ | ⟨rfl, hnext⟩
    · have hread : Happens s (s.inSessions ++ [x]) (.read x.conn actual) :=
        ⟨x, List.mem_append_right _ (List.mem_singleton_self x), rfl, hopen⟩
      refine ⟨.of_sessions rfl rfl rfl rfl, .none, ?_⟩
      rcases hnext with rfl | rfl
      · exact .event hread fun x hx => hx
      · rw [afterStage_held, afterStage_owned]
        exact .event hread (held_of_nothing _)
    · refine ⟨.refl s', .none, ?_⟩
      rcases hnext with rfl | rfl | rfl
      · rw [afterStage_held, afterStage_owned]
        exact .copies (held_of_nothing _)
      · exact .copies (held_of_nothing _)
      · exact .copies (held_of_nothing _)
  | connecting =>
    cases choice with
    | verdict rc =>
      unfold handleStep at h
      dsimp only at h
      split_ifs at h
      cases h
      exact ⟨.refl s, .none, .copies hmine⟩
    | connect clientId =>
      unfold handleStep at h
      dsimp only at h
      split at h
      · cases h
        refine ⟨.setSession hsess rfl (.inl rfl), .none, .session hsess ?_ ?_⟩
        · rfl
        · nofun
      rename_i other hother
      split_ifs at h with hsame
      · cases h
        exact ⟨.refl s, .none, .copies (held_of_nothing _)⟩
      split at h
      · cases h
      rename_i old hold
      cases h
      -- The socket is taken from the other session, and this one gets the client id.
      have htake : Moves s (s.setSession other old.prepareClose) .none
          (s.inSessions ++ []) (s.inSessions ++ []) _ _ :=
        .take hold rfl fun x hx => .inl hx
      have hsess' : (s.setSession other old.prepareClose).sessions[slot]? = some sess := by
        change (s.sessions.set other _)[slot]? = _
        rw [List.getElem?_set_ne hsame]
        exact hsess
      have hfirst : Quiet s (s.setSession other old.prepareClose) :=
        .setSession hold rfl (.inr rfl)
      refine ⟨hfirst.trans (.setSession hsess' ?_ ?_), .none, htake.trans rfl ?_⟩
      · rfl
      · exact .inl rfl
      rw [List.append_nil old.sock.toList]
      refine .session hsess' ?_ ?_
      · rfl
      · exact fun x hx => .inr hx
    | _ => cases h
  | evicting old =>
    cases choice with
    | go =>
      cases h
      have hsub : ∀ x ∈ ([] : List Socket), x ∈ old.toList := nofun
      have hclose := Moves.close (s := s) old [] hsub
      rw [List.append_nil] at hclose
      exact ⟨.closeSocket .., hclose⟩
    | _ => cases h
  | judging =>
    cases choice with
    | verdict rc =>
      cases h
      exact ⟨.refl s, .none, .copies hmine⟩
    | _ => cases h
  | greeting send accepted =>
    cases send with
    | done ok =>
      cases choice with
      | go =>
        cases accepted with
        | true =>
          unfold handleStep at h
          dsimp only at h
          split at h
          · cases h
            exact ⟨.refl s, .none, .copies (held_of_nothing _)⟩
          · cases h
            exact ⟨.of_sessions rfl rfl rfl rfl, .none, .event trivial (held_of_nothing _)⟩
        | false =>
          cases h
          exact ⟨.refl s, .none, .copies (held_of_nothing _)⟩
      | _ => cases accepted <;> cases h
    | _ => cases h
  | dispatching =>
    cases choice with
    | packet inbound =>
      cases h
      refine ⟨.refl s, .none, ?_⟩
      rw [ClientState.held, inbound_held]
      exact .copies (held_of_nothing _)
    | _ => cases h
  | serving duties =>
    cases duties with
    | nil =>
      cases choice with
      | go | leave =>
        cases h
        exact ⟨.refl s, .none, .copies (held_of_nothing _)⟩
      | _ => cases h
    | cons duty duties => exact dutyStep_moves hsess h
  | sending send onFail duties =>
    cases send with
    | done ok =>
      cases choice with
      | go =>
        cases h
        refine ⟨.refl s, .none, ?_⟩
        rw [next_owned]
        refine .copies fun x hx => ?_
        rcases List.mem_append.1 hx with hin | htask
        · exact List.mem_append_left _ hin
        · exact List.mem_append_right _ (next_held htask)
      | _ => cases h
    | _ => cases h
  | cleanup =>
    cases choice with
    | cleanup will =>
      cases h
      refine ⟨.refl s, .none, ?_⟩
      cases will with
      | none | some message => exact .copies (held_of_nothing _)
    | _ => cases h
  | none => cases h
  | freeing free => cases h

theorem clientStep_moves {client client' : ClientState}
    (h : clientStep s slot client choice = some (s', client'))
    (hclient : client ≠ .freeing .released) : Quiet s s' ∧ ∃ c, Moves s s' c
      (s.inSessions ++ client.held) (s.inSessions ++ client.owned)
      (s'.inSessions ++ client'.held) (s'.inSessions ++ client'.owned) := by
  unfold clientStep at h
  split at h
  · rename_i send accepted choice
    rcases Option.map_eq_some_iff.1 h with ⟨⟨next, send'⟩, hstep, heq⟩
    cases heq
    exact (sendStep_sends hstep).moves
  · rename_i send onFail duties choice
    rcases Option.map_eq_some_iff.1 h with ⟨⟨next, send'⟩, hstep, heq⟩
    cases heq
    rcases (sendStep_sends hstep).moves with ⟨hsame, c, hmoves⟩
    exact ⟨hsame, c, hmoves.frame (duties.flatMap Duty.held)⟩
  · rename_i free
    rcases Option.map_eq_some_iff.1 h with ⟨⟨next, free'⟩, hstep, heq⟩
    cases heq
    have hfree : free ≠ .released := fun heq => hclient (congrArg ClientState.freeing heq)
    rcases freeStep_moves hstep hfree with ⟨hsame, c, hmoves⟩
    cases free' <;> exact ⟨hsame, c, hmoves⟩
  · split at h
    · cases h
    · rename_i sess hsess
      exact handleStep_moves hsess h

/-! ### The other tasks -/

theorem callStep_moves {n : Nat} {call call' : CallState} {choice : CallChoice}
    (h : callStep s n call choice = some (s', call')) : Quiet s s' ∧ ∃ c, Moves s s' c
      (s.inSessions ++ call.held) (s.inSessions ++ call.owned)
      (s'.inSessions ++ call'.held) (s'.inSessions ++ call'.owned) := by
  unfold callStep at h
  split at h
  · cases h
    exact ⟨.refl s, .none, .copies (held_of_nothing _)⟩
  · rename_i job jobs
    cases h
    refine ⟨.refl s, .none, ?_⟩
    have hheld : (CallState.sending job.start jobs).held =
        (CallState.publishing (job :: jobs)).held := by
      change job.start.held ++ _ = _
      rw [start_held]
      rfl
    rw [hheld, show (CallState.sending job.start jobs).owned = [] from start_owned job]
    exact .copies fun x hx => hx
  · cases h
    exact ⟨.refl s, .none, .copies fun x hx => hx⟩
  · rename_i send jobs choice
    rcases Option.map_eq_some_iff.1 h with ⟨⟨next, send'⟩, hstep, heq⟩
    cases heq
    rcases (sendStep_sends hstep).moves with ⟨hsame, c, hmoves⟩
    exact ⟨hsame, c, hmoves.frame _⟩
  · rename_i sock
    cases h
    exact ⟨.closeSocket .., Moves.close (some sock) _ nofun⟩
  · cases h

/-- A connection is accepted. -/
structure Accepts (s s' : Sockets) (fd : Nat) (held owned held' owned' : List Socket) : Prop where
  free : s.fds fd = none
  fds : s'.fds = Function.update s.fds fd (some s.nextConn)
  conns : s'.nextConn = s.nextConn + 1
  log : s'.log = .accepted ⟨fd, s.nextConn⟩ :: s.log
  count : ∀ x, owned'.count x = owned.count x + if x = ⟨fd, s.nextConn⟩ then 1 else 0
  sub : ∀ x ∈ held', x = ⟨fd, s.nextConn⟩ ∨ x ∈ held

/-- What a step of the task that accepts connections can do. -/
inductive Accepting (s : Sockets) : AcceptState → AcceptChoice → Sockets → AcceptState → Prop where
  | connection (fd : Nat) (hfree : s.fds fd = none) :
      Accepting s .waiting (.accept fd)
        { s with
          fds := Function.update s.fds fd (some s.nextConn)
          nextConn := s.nextConn + 1
          log := .accepted ⟨fd, s.nextConn⟩ :: s.log } (.accepted ⟨fd, s.nextConn⟩)
  | alloc (slot : Nat) (sock : Socket) (sess : MqttSession)
      (hsess : s.sessions[slot]? = some sess) (hidle : sess.active = false) :
      Accepting s (.accepted sock) .go (s.setSession slot sess.reset) (.allocated slot sock)
  | store (slot : Nat) (sock : Socket) (sess : MqttSession)
      (hsess : s.sessions[slot]? = some sess) :
      Accepting s (.allocated slot sock) .go (s.setSession slot { sess with sock := some sock })
        (.stored slot sock)
  | create (slot : Nat) (sock : Socket) : Accepting s (.stored slot sock) (.create true)
      { s with clients := s.clients.set slot (.fetching false .header) } .waiting
  | fail (slot : Nat) (sock : Socket) :
      Accepting s (.stored slot sock) (.create false) s (.refused slot sock true)
  | refuse (slot : Nat) (sock : Socket) (stored : Bool) :
      Accepting s (.refused slot sock stored) .go (s.closeSocket (some sock)) (.freeing slot .begun)
  | free (slot : Nat) (free : FreeState) (next : Option FreeState) (s' : Sockets)
      (hfree : freeStep s slot .accept free = some (s', next)) :
      Accepting s (.freeing slot free) .go s' (next.elim .waiting (AcceptState.freeing slot))
  | quiet (accept accept' : AcceptState) (choice : AcceptChoice) (c : Closing) (s' : Sockets)
      (hquiet : Quiet s s') (hslot : (accept.slot = none ∧ accept'.slot = none) ∨
        ∃ slot sock, accept = .allocated slot sock ∧ accept' = .refused slot sock false)
      (hmoves : Moves s s' c (s.inSessions ++ accept.held) (s.inSessions ++ accept.owned)
        (s'.inSessions ++ accept'.held) (s'.inSessions ++ accept'.owned)) :
      Accepting s accept choice s' accept'

theorem acceptStep_accepting {accept accept' : AcceptState} {choice : AcceptChoice}
    (h : acceptStep s accept choice = some (s', accept')) :
    Accepting s accept choice s' accept' := by
  unfold acceptStep at h
  split at h
  · rename_i fd
    split_ifs at h with hfree
    cases h
    exact .connection fd hfree
  · rename_i sock
    split at h
    · cases h
      exact .quiet _ _ _ .none _ (.refl s) (.inl ⟨rfl, rfl⟩) (.copies fun x hx => hx)
    rename_i slot hslot
    split at h
    · cases h
    rename_i sess hsess
    cases h
    refine .alloc slot sock sess hsess ?_
    rcases List.findIdx?_eq_some_iff_getElem.1 hslot with ⟨hlt, hidle, -⟩
    rw [(List.getElem?_eq_some_iff.1 hsess).2] at hidle
    simpa using (Bool.and_eq_true_iff.1 hidle).1
  · rename_i sock
    split at h
    · cases h
    rename_i actual hopen
    cases h
    have hread : Happens s (s.inSessions ++ [sock]) (.read sock.conn actual) :=
      ⟨sock, List.mem_append_right _ (List.mem_singleton_self sock), rfl, hopen⟩
    exact .quiet _ _ _ .none _ (.of_sessions rfl rfl rfl rfl) (.inl ⟨rfl, rfl⟩)
      (.event hread fun x hx => hx)
  · rename_i sock
    cases h
    exact .quiet _ _ _ .none _ (.refl s) (.inl ⟨rfl, rfl⟩) (.copies fun x hx => hx)
  · rename_i sock clientId
    split at h
    · cases h
      exact .quiet _ _ _ .none _ (.refl s) (.inl ⟨rfl, rfl⟩) (.copies fun x hx => hx)
    rename_i slot _
    split at h
    · cases h
    rename_i old hold
    cases h
    have htake : Moves s (s.setSession slot old.prepareClose) .none (s.inSessions ++ [sock])
        (s.inSessions ++ [sock]) _ _ :=
      .take hold rfl fun x hx => List.mem_append.1 hx
    exact .quiet _ _ _ .none _ (.setSession hold rfl (.inr rfl)) (.inl ⟨rfl, rfl⟩) htake
  · rename_i sock old
    cases h
    have hsub : ∀ x ∈ [sock], x ∈ old.toList ++ [sock] := fun x hx => List.mem_append_right _ hx
    rcases Moves.close old [sock] hsub with ⟨c, hclose⟩
    exact .quiet _ _ _ c _ (.closeSocket ..) (.inl ⟨rfl, rfl⟩) hclose
  · rename_i sock
    cases h
    have hsub : ∀ x ∈ ([] : List Socket), x ∈ [sock] := nofun
    rcases Moves.close (some sock) [] hsub with ⟨c, hclose⟩
    exact .quiet _ _ _ c _ (.closeSocket ..) (.inl ⟨rfl, rfl⟩) hclose
  · rename_i slot sock
    cases h
    exact .quiet _ _ _ .none _ (.refl s) (.inr ⟨slot, sock, rfl, rfl⟩) (.copies fun x hx => hx)
  · rename_i slot sock
    split at h
    · cases h
    rename_i sess hsess
    cases h
    exact .store slot sock sess hsess
  · rename_i slot sock
    cases h
    exact .create slot sock
  · rename_i slot sock
    cases h
    exact .fail slot sock
  · rename_i slot sock stored
    cases h
    exact .refuse slot sock stored
  · rename_i slot free
    rcases Option.map_eq_some_iff.1 h with ⟨⟨next, free'⟩, hstep, heq⟩
    cases heq
    exact .free slot free free' _ hstep
  · cases h

end SceneHub.Broker
