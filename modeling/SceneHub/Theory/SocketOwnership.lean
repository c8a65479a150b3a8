import SceneHub.Lib.Runs
import SceneHub.Theory.SocketMoves

/-!
# Ownership of Sockets

Whether tasks read and write where they mean to, and whether every descriptor is
closed once.

The task that closes a socket does not wait for those who have its descriptor. So
the system may give the descriptor out again while another task is still about to
read from it or write to it, and that task then reaches the new connection. As long
as no descriptor is given out that somebody still has, this does not happen: an old
descriptor leads nowhere.

Every socket is to be closed by one task, and it is passed on until it is closed.
Only a session whose task cannot be created has its socket closed twice.

## Main definitions

* `SocketsOwned`: Tasks reach their own connections, and sockets are closed once.
* `Undisputed`: No descriptor is given out that somebody has, and tasks are created.
* `Tidy`: Free sessions have neither sockets nor tasks.

## Theorems

* `socketStep_effect`: A connection is accepted, or sockets are moved.
* `sockets_owned`: Ownership over every run.
-/

namespace SceneHub.Broker

variable {choice : ClientChoice} {accept' : AcceptState} {sess : MqttSession} {act : SocketStep}

variable {s s' : Sockets}

/-! ### Whole steps -/

theorem count_owned (s : Sockets) (x : Socket) :
    s.owned.count x = s.inSessions.count x + ((s.clients.flatMap ClientState.owned).count x +
      (s.accept.owned.count x + (s.calls.flatMap CallState.owned).count x)) := by
  unfold Sockets.owned
  simp

theorem mem_held {x : Socket} : x ∈ s.held ↔ x ∈ s.inSessions ∨
    x ∈ s.clients.flatMap ClientState.held ∨ x ∈ s.accept.held ∨
      x ∈ s.calls.flatMap CallState.held := by
  unfold Sockets.held
  simp

/-- The moves of a task are moves of the broker, as long as what the other tasks have is left
    alone. -/
theorem Moves.whole {t' : Sockets} {c : Closing} {held owned held' owned' : List Socket}
    (h : Moves s s' c (s.inSessions ++ held) (s.inSessions ++ owned) (s'.inSessions ++ held')
      (s'.inSessions ++ owned'))
    (hfds : t'.fds = s'.fds) (hconns : t'.nextConn = s'.nextConn) (hlog : t'.log = s'.log)
    (hheld : ∀ x, x ∈ held → x ∈ s.held)
    (hcount : ∀ x, t'.owned.count x + (s.inSessions ++ owned).count x =
      s.owned.count x + (s'.inSessions ++ owned').count x)
    (hsub : ∀ x ∈ t'.held, x ∈ s.held ∨ x ∈ s'.inSessions ∨ x ∈ held') :
    Moves s t' c s.held s.owned t'.held t'.owned := by
  have hlocal : ∀ x ∈ s.inSessions ++ held, x ∈ s.held := by
    intro x hx
    rcases List.mem_append.1 hx with hin | htask
    · exact mem_held.2 (.inl hin)
    · exact hheld x htask
  refine ⟨hconns.trans h.conns, hfds.trans h.fds, ?_, fun x => ?_, fun x hx => ?_, h.stray⟩
  · have hl := h.log
    cases c with
    | owner sock => exact hlog.trans hl
    | stray sock => exact hlog.trans hl
    | none =>
      rcases hl with hsame | ⟨event, hevent, hhappens⟩
      · exact .inl (hlog.trans hsame)
      · exact .inr ⟨event, hlog.trans hevent, hhappens.mono hlocal⟩
  · have h₁ := h.count x
    have h₂ := hcount x
    omega
  · rcases hsub x hx with hold | hin | htask
    · exact hold
    · exact hlocal x (h.sub x (List.mem_append_left _ hin))
    · exact hlocal x (h.sub x (List.mem_append_right _ htask))

variable {slot : Nat} {client client' : ClientState} {c : Closing}

theorem Moves.of_client (hclients : s'.clients = s.clients) (haccept : s'.accept = s.accept)
    (hcalls : s'.calls = s.calls) (hclient : s.clients[slot]? = some client)
    (h : Moves s s' c (s.inSessions ++ client.held) (s.inSessions ++ client.owned)
      (s'.inSessions ++ client'.held) (s'.inSessions ++ client'.owned)) :
    let t := { s' with clients := s'.clients.set slot client' }
    Moves s t c s.held s.owned t.held t.owned := by
  refine h.whole rfl rfl rfl (fun x hx => ?_) (fun x => ?_) fun x hx => ?_
  · exact mem_held.2 (.inr (.inl (Lib.mem_flatMap_of_getElem? _ hclient hx)))
  · have hset := Lib.count_flatMap_set ClientState.owned hclient client' x
    rw [count_owned, count_owned]
    dsimp only
    rw [hclients, haccept, hcalls, List.count_append, List.count_append]
    change s'.inSessions.count x + _ + _ = _
    omega
  rcases mem_held.1 hx with hin | hmine | haccepted | hcall
  · exact .inr (.inl hin)
  · rcases Lib.mem_flatMap_set _ hmine with hold | hnew
    · rw [hclients] at hold
      exact .inl (mem_held.2 (.inr (.inl hold)))
    · exact .inr (.inr hnew)
  · rw [haccept] at haccepted
    exact .inl (mem_held.2 (.inr (.inr (.inl haccepted))))
  · rw [hcalls] at hcall
    exact .inl (mem_held.2 (.inr (.inr (.inr hcall))))

theorem Moves.of_call {n : Nat} {call call' : CallState} (hquiet : Quiet s s')
    (hcall : s.calls[n]? = some call)
    (h : Moves s s' c (s.inSessions ++ call.held) (s.inSessions ++ call.owned)
      (s'.inSessions ++ call'.held) (s'.inSessions ++ call'.owned)) :
    let t := { s' with calls := s'.calls.set n call' }
    Moves s t c s.held s.owned t.held t.owned := by
  refine h.whole rfl rfl rfl (fun x hx => ?_) (fun x => ?_) fun x hx => ?_
  · exact mem_held.2 (.inr (.inr (.inr (Lib.mem_flatMap_of_getElem? _ hcall hx))))
  · have hset := Lib.count_flatMap_set CallState.owned hcall call' x
    rw [count_owned, count_owned]
    dsimp only
    rw [hquiet.clients, hquiet.accept, hquiet.calls, List.count_append, List.count_append]
    change s'.inSessions.count x + _ + _ = _
    omega
  rcases mem_held.1 hx with hin | hclients | haccept | hcalls
  · exact .inr (.inl hin)
  · rw [hquiet.clients] at hclients
    exact .inl (mem_held.2 (.inr (.inl hclients)))
  · rw [hquiet.accept] at haccept
    exact .inl (mem_held.2 (.inr (.inr (.inl haccept))))
  · rcases Lib.mem_flatMap_set _ hcalls with hold | hnew
    · rw [hquiet.calls] at hold
      exact .inl (mem_held.2 (.inr (.inr (.inr hold))))
    · exact .inr (.inr hnew)

theorem Moves.of_new_call {call : CallState} (hclients : s'.clients = s.clients)
    (haccept : s'.accept = s.accept) (hcalls : s'.calls = s.calls)
    (h : Moves s s' c (s.inSessions ++ []) (s.inSessions ++ []) (s'.inSessions ++ call.held)
      (s'.inSessions ++ call.owned)) : let t := { s' with calls := s'.calls ++ [call] }
    Moves s t c s.held s.owned t.held t.owned := by
  refine h.whole rfl rfl rfl nofun (fun x => ?_) fun x hx => ?_
  · rw [count_owned, count_owned]
    dsimp only
    rw [hclients, haccept, hcalls]
    simp only [List.count_append, List.flatMap_append, List.flatMap_cons, List.flatMap_nil,
      List.count_nil]
    change s'.inSessions.count x + _ + _ = _
    omega
  rcases mem_held.1 hx with hin | hclient | haccepted | hcall
  · exact .inr (.inl hin)
  · rw [hclients] at hclient
    exact .inl (mem_held.2 (.inr (.inl hclient)))
  · rw [haccept] at haccepted
    exact .inl (mem_held.2 (.inr (.inr (.inl haccepted))))
  · rw [hcalls, List.flatMap_append] at hcall
    rcases List.mem_append.1 hcall with hold | hnew
    · exact .inl (mem_held.2 (.inr (.inr (.inr hold))))
    · exact .inr (.inr (by simpa using hnew))

theorem Moves.of_accept (hclients : s'.clients = s.clients) (hcalls : s'.calls = s.calls)
    (h : Moves s s' c (s.inSessions ++ s.accept.held) (s.inSessions ++ s.accept.owned)
      (s'.inSessions ++ accept'.held) (s'.inSessions ++ accept'.owned)) :
    let t := { s' with accept := accept' }
    Moves s t c s.held s.owned t.held t.owned := by
  refine h.whole rfl rfl rfl (fun x hx => ?_) (fun x => ?_) fun x hx => ?_
  · exact mem_held.2 (.inr (.inr (.inl hx)))
  · rw [count_owned, count_owned]
    dsimp only
    rw [hclients, hcalls, List.count_append, List.count_append]
    change s'.inSessions.count x + _ + _ = _
    omega
  rcases mem_held.1 hx with hin | hclient | haccept | hcall
  · exact .inr (.inl hin)
  · rw [hclients] at hclient
    exact .inl (mem_held.2 (.inr (.inl hclient)))
  · exact .inr (.inr haccept)
  · rw [hcalls] at hcall
    exact .inl (mem_held.2 (.inr (.inr (.inr hcall))))

/-! ### Free sessions -/

/-- The session has lost its socket, and is about to be free. -/
def FreeState.emptied : FreeState → Bool
  | .closing _ => true
  | .closed => true
  | .released => true
  | _ => false

/-- A session and its task: a session that is free, is being freed or has just been taken has
    no socket, and one that has a socket has a task or is being prepared for one. -/
structure TidyAt (accept : AcceptState) (slot : Nat) (sess : MqttSession) (client : ClientState) :
    Prop where
  idle : sess.active = false → sess.sock = none ∧ client = .none
  freeing : ∀ free, client = .freeing free → free.emptied = true → sess.sock = none
  prepared : accept.slot = some slot → client = .none ∧ sess.active = true
  allocated : ∀ sock, accept = .allocated slot sock → sess.sock = none
  unwinding : ∀ free, accept = .freeing slot free → free.emptied = true → sess.sock = none
  tasked : sess.sock ≠ none → client ≠ .none ∨ accept.slot = some slot

/-- Free sessions have neither sockets nor tasks. -/
structure Tidy (s : Sockets) : Prop where
  length : s.clients.length = s.sessions.length
  at_slot : ∀ slot sess client, s.sessions[slot]? = some sess → s.clients[slot]? = some client →
    TidyAt s.accept slot sess client

theorem TidyAt.fades {accept : AcceptState} {sess sess' : MqttSession}
    (h : TidyAt accept slot sess client) (hactive : sess'.active = sess.active)
    (hsock : sess'.sock = sess.sock ∨ sess'.sock = none) : TidyAt accept slot sess' client := by
  have hnone : sess.sock = none → sess'.sock = none := by
    intro hold
    rcases hsock with hsame | hnone
    · exact hsame.trans hold
    · exact hnone
  refine ⟨fun hidle => ?_, fun free hfree hempty => hnone (h.freeing free hfree hempty),
    fun hslot => ?_, fun sock hsock => hnone (h.allocated sock hsock),
    fun free hfree hempty => hnone (h.unwinding free hfree hempty), fun hsome => ?_⟩
  · rw [hactive] at hidle
    exact ⟨hnone (h.idle hidle).1, (h.idle hidle).2⟩
  · rw [hactive]
    exact h.prepared hslot
  · exact h.tasked fun hold => hsome (hnone hold)

theorem freeStep_emptied {who : TaskId} {free next : FreeState}
    (h : freeStep s slot who free = some (s', some next)) (hnext : next.emptied = true)
    (hbefore : free.emptied = true → ∀ sess, s.sessions[slot]? = some sess → sess.sock = none) :
    ∀ sess', s'.sessions[slot]? = some sess' → sess'.sock = none := by
  unfold freeStep at h
  split at h
  · cases h
  rename_i sess hsess
  have hlt := (List.getElem?_eq_some_iff.1 hsess).1
  have hself : ∀ sess' sess'', (s.setSession slot sess').sessions[slot]? = some sess'' →
      sess'' = sess' := by
    intro sess' sess'' hget
    change (s.sessions.set slot sess')[slot]? = _ at hget
    rw [List.getElem?_set_self hlt] at hget
    exact (Option.some.inj hget).symm
  intro sess' hsess'
  cases free with
  | begun =>
    split_ifs at h
    obtain ⟨-, hlocked⟩ := Prod.mk.inj (Option.some.inj h)
    cases hlocked
    cases hnext
  | locked =>
    obtain ⟨rfl, -⟩ := Prod.mk.inj (Option.some.inj h)
    rw [hself _ _ hsess']
    rfl
  | closing sock =>
    obtain ⟨rfl, -⟩ := Prod.mk.inj (Option.some.inj h)
    have hsame : (s.closeSocket sock).sessions = s.sessions := by cases sock <;> rfl
    rw [hsame] at hsess'
    exact hbefore rfl sess' hsess'
  | closed =>
    obtain ⟨rfl, -⟩ := Prod.mk.inj (Option.some.inj h)
    rw [hself _ _ hsess']
    exact hbefore rfl sess hsess
  | released =>
    obtain ⟨-, hnone⟩ := Prod.mk.inj (Option.some.inj h)
    cases hnone

/-- The task goes on, and if it is to free its session, it has not begun. -/
def ClientState.goes : ClientState → Bool
  | .none => false
  | .freeing free => free = .begun
  | _ => true

theorem dutyStep_goes {duties : List Duty} {duty : Duty}
    (h : dutyStep s slot sess duties duty choice = some (s', client)) : client.goes = true := by
  unfold dutyStep at h
  split at h
  all_goals repeat' first | split at h | dsimp only at h
  all_goals
    first
    | contradiction
    | obtain ⟨-, rfl⟩ := Prod.mk.inj (Option.some.inj h)
      rfl

theorem afterStage_goes (connected : Bool) (stage : ReadStage) :
    (afterStage connected stage).goes = true := by
  cases stage <;> cases connected <;> rfl

theorem next_goes (onFail : OnFail) (ok : Bool) (duties : List Duty) :
    (onFail.next ok duties).goes = true := by
  cases ok <;> cases onFail <;> rfl

theorem handleStep_goes (h : handleStep s slot sess client choice = some (s', client')) :
    client'.goes = true := by
  cases client with
  | reading connected stage sock =>
    rcases handleStep_reading h with ⟨x, actual, -, -, -, hnext⟩ | ⟨-, hnext⟩
    · rcases hnext with rfl | rfl
      · rfl
      · exact afterStage_goes ..
    rcases hnext with rfl | rfl | rfl
    · exact afterStage_goes ..
    · rfl
    · rfl
  | greeting send accepted =>
    unfold handleStep at h
    cases send <;> cases accepted <;> cases choice <;> dsimp only at h
    all_goals repeat' split at h
    all_goals
      first
      | contradiction
      | obtain ⟨-, rfl⟩ := Prod.mk.inj (Option.some.inj h)
        rfl
  | serving duties =>
    cases duties with
    | nil =>
      unfold handleStep at h
      cases choice <;> dsimp only at h
      all_goals
        first
        | contradiction
        | obtain ⟨-, rfl⟩ := Prod.mk.inj (Option.some.inj h)
          rfl
    | cons duty duties => exact dutyStep_goes h
  | sending send onFail duties =>
    unfold handleStep at h
    cases send <;> cases choice <;> dsimp only at h
    all_goals
      first
      | contradiction
      | obtain ⟨-, rfl⟩ := Prod.mk.inj (Option.some.inj h)
        exact next_goes ..
  | _ =>
    unfold handleStep at h
    cases choice <;> dsimp only at h
    all_goals repeat' split at h
    all_goals
      first
      | contradiction
      | obtain ⟨-, rfl⟩ := Prod.mk.inj (Option.some.inj h)
        rfl

theorem clientStep_goes (h : clientStep s slot client choice = some (s', client'))
    (hclient : client ≠ .freeing .released)
    (hbefore : ∀ free, client = .freeing free → free.emptied = true →
      ∀ sess, s.sessions[slot]? = some sess → sess.sock = none) :
    client' ≠ .none ∧ ∀ free, client' = .freeing free → free.emptied = true →
      ∀ sess', s'.sessions[slot]? = some sess' → sess'.sock = none := by
  unfold clientStep at h
  split at h
  · rcases Option.map_eq_some_iff.1 h with ⟨⟨next, send'⟩, -, heq⟩
    cases heq
    exact ⟨nofun, nofun⟩
  · rcases Option.map_eq_some_iff.1 h with ⟨⟨next, send'⟩, -, heq⟩
    cases heq
    exact ⟨nofun, nofun⟩
  · rename_i free
    rcases Option.map_eq_some_iff.1 h with ⟨⟨next, free'⟩, hstep, heq⟩
    cases heq
    cases free' with
    | none =>
      exact absurd (congrArg ClientState.freeing (freeStep_ends hstep)) hclient
    | some free' =>
      refine ⟨nofun, fun free'' heq hempty => ?_⟩
      obtain rfl := ClientState.freeing.inj heq
      exact freeStep_emptied hstep hempty (hbefore free rfl)
  · split at h
    · cases h
    have hgoes := handleStep_goes h
    refine ⟨?_, fun free hfree hempty => ?_⟩
    · intro hnone
      rw [hnone] at hgoes
      cases hgoes
    · rw [hfree] at hgoes
      cases free <;> cases hgoes
      cases hempty

theorem clientStep_tasked (h : clientStep s slot client choice = some (s', client')) :
    client ≠ .none := by
  rintro rfl
  unfold clientStep at h
  dsimp only at h
  split at h
  · cases h
  · cases h

/-- A step that leaves the accepting task alone keeps free sessions tidy, if one task goes on. -/
theorem Tidy.of_quiet (h : Tidy s) (hquiet : Quiet s s') (hclient : s.clients[slot]? = some client)
    (htasked : client ≠ .none) (hgoes : client' ≠ .none)
    (hfree : ∀ free, client' = .freeing free → free.emptied = true →
      ∀ sess', s'.sessions[slot]? = some sess' → sess'.sock = none) :
    Tidy { s' with clients := s'.clients.set slot client' } := by
  refine ⟨?_, fun k sess' other hsess' hother => ?_⟩
  · change (s'.clients.set slot client').length = s'.sessions.length
    rw [List.length_set, hquiet.clients, hquiet.length]
    exact h.length
  rw [hquiet.accept]
  rcases hquiet.fades k sess' hsess' with ⟨sess, hsess, hactive, hsock⟩
  by_cases hk : slot = k
  · rw [← hk] at hsess hsess' ⊢
    rw [hquiet.clients, ← hk, List.getElem?_set_self (List.getElem?_eq_some_iff.1 hclient).1]
      at hother
    cases hother
    have hat := (h.at_slot slot sess client hsess hclient).fades hactive hsock
    exact ⟨fun hidle => absurd (hat.idle hidle).2 htasked, fun free heq hempty =>
      hfree free heq hempty sess' hsess', fun hslot => absurd (hat.prepared hslot).1 htasked,
      hat.allocated, hat.unwinding, fun _ => .inl hgoes⟩
  · rw [List.getElem?_set_ne hk, hquiet.clients] at hother
    exact (h.at_slot k sess other hsess hother).fades hactive hsock

theorem Tidy.of_released (h : Tidy s) (hsess : s.sessions[slot]? = some sess)
    (hclient : s.clients[slot]? = some (.freeing .released)) :
    let next := s.setSession slot { sess with active := false, closing := false, retiring := true }
    Tidy { next with clients := next.clients.set slot .none } := by
  have hat := h.at_slot slot sess _ hsess hclient
  have hempty : sess.sock = none := hat.freeing .released rfl rfl
  refine ⟨?_, fun k sess' other hsess' hother => ?_⟩
  · change (s.clients.set slot _).length = (s.sessions.set slot _).length
    rw [List.length_set, List.length_set]
    exact h.length
  change (s.sessions.set slot _)[k]? = _ at hsess'
  change (s.clients.set slot _)[k]? = _ at hother
  by_cases hk : slot = k
  · rw [← hk] at hsess' hother ⊢
    rw [List.getElem?_set_self (List.getElem?_eq_some_iff.1 hsess).1] at hsess'
    rw [List.getElem?_set_self (List.getElem?_eq_some_iff.1 hclient).1] at hother
    cases hsess'
    cases hother
    exact ⟨fun _ => ⟨hempty, rfl⟩, nofun, fun hslot => absurd (hat.prepared hslot).1 nofun,
      fun _ _ => hempty, fun _ _ _ => hempty, fun hsome => absurd hempty hsome⟩
  · rw [List.getElem?_set_ne hk] at hsess' hother
    exact h.at_slot k sess' other hsess' hother

theorem clientStep_released
    (h : clientStep s slot (.freeing .released) choice = some (s', client')) :
    ∃ sess, s.sessions[slot]? = some sess ∧ client' = .none ∧
      s' = s.setSession slot { sess with active := false, closing := false, retiring := true } := by
  cases choice with
  | go =>
    rcases Option.map_eq_some_iff.1 h with ⟨⟨next, free'⟩, hstep, heq⟩
    cases heq
    rcases freeStep_released hstep with ⟨sess, hsess, rfl, rfl⟩
    exact ⟨sess, hsess, rfl, rfl⟩
  | _ =>
    unfold clientStep at h
    dsimp only at h
    split at h <;> cases h

theorem tidy_client (h : Tidy s) (hclient : s.clients[slot]? = some client)
    (hstep : clientStep s slot client choice = some (s', client')) :
    Tidy { s' with clients := s'.clients.set slot client' } := by
  by_cases hlast : client = .freeing .released
  · rw [hlast] at hstep hclient
    rcases clientStep_released hstep with ⟨sess, hsess, rfl, rfl⟩
    exact h.of_released hsess hclient
  have hbefore : ∀ free, client = .freeing free → free.emptied = true →
      ∀ sess, s.sessions[slot]? = some sess → sess.sock = none :=
    fun free heq hempty sess hsess => (h.at_slot slot sess client hsess hclient).freeing free heq
      hempty
  rcases clientStep_goes hstep hlast hbefore with ⟨hgoes, hfree⟩
  exact h.of_quiet (clientStep_moves hstep hlast).1 hclient (clientStep_tasked hstep) hgoes hfree

theorem Tidy.of_fades {t : Sockets} (h : Tidy s) (hquiet : Quiet s s')
    (hsessions : t.sessions = s'.sessions) (hclients : t.clients = s'.clients)
    (haccept : t.accept = s'.accept) : Tidy t := by
  refine ⟨?_, fun k sess' other hsess' hother => ?_⟩
  · rw [hsessions, hclients, hquiet.clients, hquiet.length]
    exact h.length
  rw [hsessions] at hsess'
  rw [hclients, hquiet.clients] at hother
  rw [haccept, hquiet.accept]
  rcases hquiet.fades k sess' hsess' with ⟨sess, hsess, hactive, hsock⟩
  exact (h.at_slot k sess other hsess hother).fades hactive hsock

theorem TidyAt.of_accept {accept accept' : AcceptState} (h : TidyAt accept slot sess client)
    (hslot : accept'.slot = some slot ↔ accept.slot = some slot)
    (hallocated : ∀ sock, accept' = .allocated slot sock → sess.sock = none)
    (hunwinding : ∀ free, accept' = .freeing slot free → free.emptied = true → sess.sock = none) :
    TidyAt accept' slot sess client :=
  ⟨h.idle, h.freeing, fun hprepared => h.prepared (hslot.1 hprepared), hallocated, hunwinding,
    fun hsome => (h.tasked hsome).imp_right hslot.2⟩

theorem Tidy.of_set {sess sess' : MqttSession} (h : Tidy s) (hsess : s.sessions[slot]? = some sess)
    (hself : ∀ client, TidyAt s.accept slot sess client → TidyAt accept' slot sess' client)
    (hothers : ∀ k sess client, slot ≠ k → TidyAt s.accept k sess client →
      TidyAt accept' k sess client) : Tidy { s.setSession slot sess' with accept := accept' } := by
  refine ⟨?_, fun k sess'' client hsess'' hclient => ?_⟩
  · change s.clients.length = (s.sessions.set slot sess').length
    rw [List.length_set]
    exact h.length
  change (s.sessions.set slot sess')[k]? = _ at hsess''
  by_cases hk : slot = k
  · rw [← hk] at hsess'' hclient ⊢
    rw [List.getElem?_set_self (List.getElem?_eq_some_iff.1 hsess).1] at hsess''
    cases hsess''
    exact hself client (h.at_slot slot sess client hsess hclient)
  · rw [List.getElem?_set_ne hk] at hsess''
    exact hothers k sess'' client hk (h.at_slot k sess'' client hsess'' hclient)

theorem slot_ne {accept : AcceptState} {k : Nat} (haccept : accept.slot = some slot)
    (hk : slot ≠ k) : accept.slot ≠ some k := by
  rw [haccept]
  exact fun heq => hk (Option.some.inj heq)

theorem tidy_accept {choice : AcceptChoice} (h : Tidy s)
    (hstep : Accepting s s.accept choice s' accept') : Tidy { s' with accept := accept' } := by
  generalize haccept : s.accept = accept at hstep
  cases hstep with
  | connection fd hfree | fail slot sock =>
    refine ⟨h.length, fun k sess other hsess hother => ?_⟩
    refine (h.at_slot k sess other hsess hother).of_accept ?_ nofun nofun
    rw [haccept]
    exact Iff.rfl
  | alloc slot sock sess hsess hidle =>
    refine h.of_set hsess (fun client hat => ?_) fun k other client hk hat => ?_
    · rcases hat.idle hidle with ⟨hempty, hnone⟩
      exact ⟨nofun, fun _ _ _ => rfl, fun _ => ⟨hnone, rfl⟩, fun _ _ => rfl, nofun,
        fun _ => .inr rfl⟩
    have hne : (AcceptState.allocated slot sock).slot ≠ some k := slot_ne rfl hk
    refine hat.of_accept ?_ (fun sock' heq => ?_) nofun
    · rw [haccept]
      exact ⟨fun heq => absurd heq hne, nofun⟩
    · exact absurd (AcceptState.allocated.inj heq).1 hk
  | store slot sock sess hsess =>
    refine h.of_set hsess (fun client hat => ?_) fun k other client hk hat => ?_
    · rcases hat.prepared (by rw [haccept]; rfl) with ⟨hnone, hactive⟩
      refine ⟨fun hidle => ?_, fun free heq => ?_, fun _ => ⟨hnone, hactive⟩, nofun, nofun,
        fun _ => .inr rfl⟩
      · rw [hactive] at hidle
        cases hidle
      · rw [hnone] at heq
        cases heq
    · refine hat.of_accept ?_ nofun nofun
      rw [haccept]
      exact Iff.rfl
  | create slot sock =>
    refine ⟨?_, fun k sess other hsess hother => ?_⟩
    · change (s.clients.set slot _).length = s.sessions.length
      rw [List.length_set]
      exact h.length
    by_cases hk : slot = k
    · rw [← hk] at hsess hother
      have hlt : slot < s.clients.length := by
        rw [h.length]
        exact (List.getElem?_eq_some_iff.1 hsess).1
      rw [List.getElem?_set_self hlt] at hother
      cases hother
      have hat := h.at_slot slot sess _ hsess (List.getElem?_eq_getElem hlt)
      rcases hat.prepared (by rw [haccept]; rfl) with ⟨-, hactive⟩
      refine ⟨fun hidle => ?_, nofun, nofun, nofun, nofun, fun _ => .inl nofun⟩
      rw [hactive] at hidle
      cases hidle
    · rw [List.getElem?_set_ne hk] at hother
      refine (h.at_slot k sess other hsess hother).of_accept ?_ nofun nofun
      rw [haccept]
      exact ⟨nofun, fun heq => absurd (Option.some.inj heq) hk⟩
  | refuse slot sock stored =>
    refine ⟨h.length, fun k sess other hsess hother => ?_⟩
    refine (h.at_slot k sess other hsess hother).of_accept ?_ nofun ?_
    · rw [haccept]
      exact Iff.rfl
    intro free hfree hempty
    obtain ⟨-, rfl⟩ := AcceptState.freeing.inj hfree
    cases hempty
  | free slot free next s' hfree =>
    by_cases hlast : free = .released
    · rw [hlast] at hfree haccept
      rcases freeStep_released hfree with ⟨sess, hsess, rfl, rfl⟩
      refine h.of_set hsess (fun client hat => ?_) fun k other client hk hat => ?_
      · have hempty : sess.sock = none := hat.unwinding .released haccept rfl
        rcases hat.prepared (by rw [haccept]; rfl) with ⟨hnone, -⟩
        exact ⟨fun _ => ⟨hempty, hnone⟩, fun _ _ _ => hempty, nofun, nofun, nofun,
          fun hsome => absurd hempty hsome⟩
      · refine hat.of_accept ?_ nofun nofun
        rw [haccept]
        exact ⟨nofun, fun heq => absurd (Option.some.inj heq) hk⟩
    have hquiet := (freeStep_moves hfree hlast).1
    cases next with
    | none => exact absurd (freeStep_ends hfree) hlast
    | some next =>
      refine ⟨?_, fun k sess' other hsess' hother => ?_⟩
      · rw [hquiet.clients, hquiet.length]
        exact h.length
      rw [hquiet.clients] at hother
      rcases hquiet.fades k sess' hsess' with ⟨sess, hsess, hactive, hsock⟩
      have hat := h.at_slot k sess other hsess hother
      refine (hat.fades hactive hsock).of_accept ?_ nofun fun free' heq hempty => ?_
      · rw [haccept]
        exact Iff.rfl
      obtain ⟨rfl, rfl⟩ := AcceptState.freeing.inj heq
      refine freeStep_emptied hfree hempty (fun hbefore sess₀ hsess₀ => ?_) sess' hsess'
      rw [hsess] at hsess₀
      cases hsess₀
      exact hat.unwinding free haccept hbefore
  | quiet accept accept' choice c s' hquiet hslot hmoves =>
    refine ⟨?_, fun k sess' other hsess' hother => ?_⟩
    · rw [hquiet.clients, hquiet.length]
      exact h.length
    rw [hquiet.clients] at hother
    rcases hquiet.fades k sess' hsess' with ⟨sess, hsess, hactive, hsock⟩
    have hat := (h.at_slot k sess other hsess hother).fades hactive hsock
    rw [haccept] at hat
    rcases hslot with ⟨hnone, hnone'⟩ | ⟨slot, sock, rfl, rfl⟩
    · refine hat.of_accept (by rw [hnone, hnone']) (fun sock heq => ?_) fun free heq => ?_
      · change accept' = _ at heq
        rw [heq] at hnone'
        cases hnone'
      · change accept' = _ at heq
        rw [heq] at hnone'
        cases hnone'
    · exact hat.of_accept Iff.rfl nofun nofun

theorem tidy_step (h : Tidy s) (hs : socketStep s act = some s') : Tidy s' := by
  unfold socketStep at hs
  cases act with
  | accept choice =>
    rcases Option.map_eq_some_iff.1 hs with ⟨⟨next, accept'⟩, hstep, rfl⟩
    exact tidy_accept h (acceptStep_accepting hstep)
  | client slot choice =>
    dsimp only at hs
    split at hs
    · cases hs
    rename_i client hclient
    rcases Option.map_eq_some_iff.1 hs with ⟨⟨next, client'⟩, hstep, rfl⟩
    exact tidy_client h hclient hstep
  | call n choice =>
    dsimp only at hs
    split at hs
    · cases hs
    · rcases Option.map_eq_some_iff.1 hs with ⟨⟨next, call'⟩, hstep, rfl⟩
      exact h.of_fades (callStep_moves hstep).1 rfl rfl rfl
  | publish message =>
    cases hs
    exact h.of_fades (.refl s) rfl rfl rfl
  | sweep slot =>
    dsimp only at hs
    split at hs
    · cases hs
    rename_i sess hsess
    split_ifs at hs
    cases hs
    have hquiet : Quiet s (s.setSession slot sess.prepareClose) :=
      .setSession hsess rfl (.inr rfl)
    exact h.of_fades hquiet rfl rfl rfl
  | reap slot =>
    dsimp only at hs
    split at hs
    · cases hs
    rename_i sess hsess
    split_ifs at hs
    cases hs
    have hquiet : Quiet s (s.setSession slot { sess with retiring := false }) :=
      .setSession hsess rfl (.inl rfl)
    exact h.of_fades hquiet rfl rfl rfl

theorem tidy_start (n : Nat) : Tidy (.atStart n) := by
  refine ⟨?_, fun slot sess client hsess hclient => ?_⟩
  · change (List.replicate n _).length = (List.replicate n _).length
    rw [List.length_replicate, List.length_replicate]
  obtain rfl := List.eq_of_mem_replicate (List.mem_of_getElem? hsess)
  obtain rfl := List.eq_of_mem_replicate (List.mem_of_getElem? hclient)
  exact ⟨fun _ => ⟨rfl, rfl⟩, nofun, nofun, nofun, nofun, fun hsome => absurd rfl hsome⟩

/-! ### What a step does with sockets -/

theorem accepts_connection {fd : Nat} (haccept : s.accept = .waiting) (hfree : s.fds fd = none) :
    let t := { s with
      fds := Function.update s.fds fd (some s.nextConn)
      nextConn := s.nextConn + 1
      log := .accepted ⟨fd, s.nextConn⟩ :: s.log
      accept := .accepted ⟨fd, s.nextConn⟩ }
    Accepts s t fd s.held s.owned t.held t.owned := by
  refine ⟨hfree, rfl, rfl, rfl, fun x => ?_, fun x hx => ?_⟩
  · rw [count_owned, count_owned, haccept]
    simp only [AcceptState.owned, AcceptState.held, List.count_nil, List.count_cons]
    change s.inSessions.count x + _ = _
    by_cases hx : x = ⟨fd, s.nextConn⟩
    · rw [if_pos hx, hx, if_pos (beq_self_eq_true _)]
      omega
    · rw [if_neg hx, if_neg fun heq => hx (beq_iff_eq.1 heq).symm]
      omega
  · rcases mem_held.1 hx with hin | hclient | haccepted | hcall
    · exact .inr (mem_held.2 (.inl hin))
    · exact .inr (mem_held.2 (.inr (.inl hclient)))
    · exact .inl (List.mem_singleton.1 haccepted)
    · exact .inr (mem_held.2 (.inr (.inr (.inr hcall))))

theorem moves_create {sock : Socket} (h : Tidy s) (haccept : s.accept = .stored slot sock) :
    let t := { s with
      clients := s.clients.set slot (.fetching false .header)
      accept := .waiting }
    Moves s t .none s.held s.owned t.held t.owned := by
  have hlocal : Moves s s .none (s.inSessions ++ []) (s.inSessions ++ []) (s.inSessions ++ [])
      (s.inSessions ++ []) := .copies fun x hx => hx
  refine hlocal.whole rfl rfl rfl nofun (fun x => ?_) fun x hx => ?_
  · rw [count_owned, count_owned, haccept]
    cases hclient : s.clients[slot]? with
    | none =>
      have hsame : s.clients.set slot (.fetching false .header) = s.clients :=
        List.set_eq_of_length_le (List.getElem?_eq_none_iff.1 hclient)
      dsimp only
      rw [hsame]
      rfl
    | some client =>
      have hlt : slot < s.sessions.length := by
        rw [← h.length]
        exact (List.getElem?_eq_some_iff.1 hclient).1
      have hat := h.at_slot slot _ client (List.getElem?_eq_getElem hlt) hclient
      have hnone : client = .none := (hat.prepared (by rw [haccept]; rfl)).1
      have hset := Lib.count_flatMap_set ClientState.owned hclient (.fetching false .header) x
      rw [hnone] at hset
      simp only [ClientState.owned, List.count_nil, Nat.add_zero] at hset
      rw [hset]
      rfl
  · rcases mem_held.1 hx with hin | hclient | haccepted | hcall
    · exact .inl (mem_held.2 (.inl hin))
    · rcases Lib.mem_flatMap_set _ hclient with hold | hnew
      · exact .inl (mem_held.2 (.inr (.inl hold)))
      · cases hnew
    · cases haccepted
    · exact .inl (mem_held.2 (.inr (.inr (.inr hcall))))

/-- A step of the accepting task that is not a new connection moves sockets. -/
theorem Accepting.effect {choice : AcceptChoice} (h : Tidy s)
    (hstep : Accepting s s.accept choice s' accept') : let t := { s' with accept := accept' }
    (∃ fd, choice = .accept fd ∧ Accepts s t fd s.held s.owned t.held t.owned) ∨
      ∃ c, Moves s t c s.held s.owned t.held t.owned := by
  generalize haccept : s.accept = accept at hstep
  cases hstep with
  | connection fd hfree => exact .inl ⟨fd, rfl, accepts_connection haccept hfree⟩
  | alloc slot sock sess hsess hidle =>
    have hnone : sess.sock = none := by
      have hlt : slot < s.clients.length := by
        rw [h.length]
        exact (List.getElem?_eq_some_iff.1 hsess).1
      exact ((h.at_slot slot sess _ hsess (List.getElem?_eq_getElem hlt)).idle hidle).1
    refine .inr ⟨.none, Moves.of_accept rfl rfl ?_⟩
    rw [haccept]
    exact .session hsess hnone.symm fun x hx => .inr hx
  | store slot sock sess hsess =>
    have hnone : sess.sock = none := by
      have hlt : slot < s.clients.length := by
        rw [h.length]
        exact (List.getElem?_eq_some_iff.1 hsess).1
      exact (h.at_slot slot sess _ hsess (List.getElem?_eq_getElem hlt)).allocated sock haccept
    refine .inr ⟨.none, Moves.of_accept rfl rfl ?_⟩
    rw [haccept]
    exact .put hsess hnone rfl
  | create slot sock => exact .inr ⟨.none, moves_create h haccept⟩
  | fail slot sock =>
    refine .inr ⟨.none, Moves.of_accept rfl rfl ?_⟩
    rw [haccept]
    exact .copies fun x hx => hx
  | refuse slot sock stored =>
    cases stored with
    | false =>
      have hsub : ∀ x ∈ ([] : List Socket), x ∈ [sock] := nofun
      rcases Moves.close (some sock) [] hsub with ⟨c, hclose⟩
      refine .inr ⟨c, Moves.of_accept rfl rfl ?_⟩
      rw [haccept]
      exact hclose
    | true =>
      refine .inr ⟨.stray sock, Moves.of_accept rfl rfl ?_⟩
      rw [haccept]
      refine ⟨rfl, rfl, rfl, fun _ => rfl, ?_, fun sock' heq => ?_⟩
      · exact held_of_nothing _
      · obtain rfl := Closing.stray.inj heq
        exact ⟨slot, haccept⟩
  | free slot free next s' hfree =>
    by_cases hlast : free = .released
    · rw [hlast] at hfree haccept
      rcases freeStep_released hfree with ⟨sess, hsess, rfl, rfl⟩
      refine .inr ⟨.none, Moves.of_accept rfl rfl ?_⟩
      rw [haccept]
      refine .session hsess ?_ ?_
      · rfl
      · nofun
    · rcases freeStep_moves hfree hlast with ⟨hquiet, c, hmoves⟩
      refine .inr ⟨c, Moves.of_accept hquiet.clients hquiet.calls ?_⟩
      rw [haccept]
      cases next <;> exact hmoves
  | quiet accept accept' choice c s' hquiet hslot hmoves =>
    refine .inr ⟨c, Moves.of_accept hquiet.clients hquiet.calls ?_⟩
    rw [haccept]
    exact hmoves

theorem socketStep_effect (h : Tidy s) (hs : socketStep s act = some s') :
    (∃ fd, act = .accept (.accept fd) ∧ Accepts s s' fd s.held s.owned s'.held s'.owned) ∨
      ∃ c, Moves s s' c s.held s.owned s'.held s'.owned := by
  unfold socketStep at hs
  cases act with
  | accept choice =>
    rcases Option.map_eq_some_iff.1 hs with ⟨⟨next, accept'⟩, hstep, rfl⟩
    rcases (acceptStep_accepting hstep).effect h with ⟨fd, rfl, haccepts⟩ | hmoves
    · exact .inl ⟨fd, rfl, haccepts⟩
    · exact .inr hmoves
  | client slot choice =>
    dsimp only at hs
    split at hs
    · cases hs
    rename_i client hclient
    rcases Option.map_eq_some_iff.1 hs with ⟨⟨next, client'⟩, hstep, rfl⟩
    by_cases hlast : client = .freeing .released
    · rw [hlast] at hstep hclient
      rcases clientStep_released hstep with ⟨sess, hsess, rfl, rfl⟩
      refine .inr ⟨.none, Moves.of_client rfl rfl rfl hclient (.session hsess ?_ ?_)⟩
      · rfl
      · nofun
    · rcases clientStep_moves hstep hlast with ⟨hquiet, c, hmoves⟩
      exact .inr ⟨c, hmoves.of_client hquiet.clients hquiet.accept hquiet.calls hclient⟩
  | call n choice =>
    dsimp only at hs
    split at hs
    · cases hs
    rename_i call hcall
    rcases Option.map_eq_some_iff.1 hs with ⟨⟨next, call'⟩, hstep, rfl⟩
    rcases callStep_moves hstep with ⟨hquiet, c, hmoves⟩
    exact .inr ⟨c, hmoves.of_call hquiet hcall⟩
  | publish message =>
    cases hs
    have hjobs : ∀ x ∈ s.inSessions ++
        ((s.targets message none).1.flatMap fun job => job.sock.toList), x ∈ s.inSessions ++ [] := by
      intro x hx
      rcases List.mem_append.1 hx with hin | htask
      · exact List.mem_append_left _ hin
      · rcases List.mem_flatMap.1 htask with ⟨job, hmem, hx⟩
        exact List.mem_append_left _ (targets_held hmem x hx)
    have hlocal : Moves s { s with packetId := (s.targets message none).2 } .none
        (s.inSessions ++ []) (s.inSessions ++ [])
        (s.inSessions ++ (CallState.publishing (s.targets message none).1).held)
        (s.inSessions ++ []) := .packetId hjobs
    exact .inr ⟨.none, Moves.of_new_call (by rfl) (by rfl) (by rfl) hlocal⟩
  | sweep slot =>
    dsimp only at hs
    split at hs
    · cases hs
    rename_i sess hsess
    split_ifs at hs
    cases hs
    have htake : Moves s (s.setSession slot sess.prepareClose) .none (s.inSessions ++ [])
        (s.inSessions ++ []) _ _ := .take hsess rfl fun x hx => .inl hx
    rw [List.append_nil sess.sock.toList] at htake
    refine .inr ⟨.none, Moves.of_new_call rfl rfl rfl ?_⟩
    cases hsock : sess.sock with
    | none | some sock =>
      rw [hsock] at htake
      exact htake
  | reap slot =>
    dsimp only at hs
    split at hs
    · cases hs
    rename_i sess hsess
    split_ifs at hs
    cases hs
    have hsession : Moves s (s.setSession slot { sess with retiring := false }) .none
        (s.inSessions ++ s.accept.held) (s.inSessions ++ s.accept.owned) _ _ :=
      .session hsess (by rfl) fun x hx => .inr hx
    exact .inr ⟨.none, Moves.of_accept (by rfl) (by rfl) hsession⟩

/-! ### What is asked of a run -/

def SocketEvent.acceptedSock : SocketEvent → Option Socket
  | .accepted sock => some sock
  | _ => none

def SocketEvent.closedSock : SocketEvent → Option Socket
  | .closed sock _ => some sock
  | _ => none

/-- How often a socket was accepted. -/
def accepts (sock : Socket) (log : List SocketEvent) : Nat :=
  (log.filterMap SocketEvent.acceptedSock).count sock

/-- How often a socket was closed. -/
def closes (sock : Socket) (log : List SocketEvent) : Nat :=
  (log.filterMap SocketEvent.closedSock).count sock

/-- No task has anything left to do. -/
structure Sockets.AtRest (s : Sockets) : Prop where
  accept : s.accept = .waiting
  clients : ∀ client ∈ s.clients, client = .none
  calls : ∀ call ∈ s.calls, call = .idle

/-- Tasks write and read where they mean to. Each close finds the descriptor open, with the
    connection it was accepted for. A descriptor that was accepted was closed once, or is
    open and owned by one who is to close it, and if no task has anything left to do, every
    descriptor was closed once. -/
structure SocketsOwned (s : Sockets) : Prop where
  written : ∀ target actual bytes, .wrote target actual bytes ∈ s.log → actual = target
  read : ∀ target actual, .read target actual ∈ s.log → actual = target
  closed : ∀ sock actual, .closed sock actual ∈ s.log → actual = some sock.conn
  once : ∀ sock, .accepted sock ∈ s.log →
    closes sock s.log = if s.fds sock.fd = some sock.conn then 0 else 1
  holder : ∀ fd conn, s.fds fd = some conn → ⟨fd, conn⟩ ∈ s.owned
  rest : s.AtRest → ∀ sock, .accepted sock ∈ s.log → closes sock s.log = 1

/-- The system gives out no descriptor that somebody still has, and the tasks of sessions can
    be created. -/
def Undisputed (s : Sockets) : SocketStep → Prop
  | .accept (.accept fd) => ∀ sock ∈ s.held, sock.fd ≠ fd
  | .accept (.create ok) => ok = true
  | _ => True

instance (s : Sockets) : (act : SocketStep) → Decidable (Undisputed s act)
  | .accept (.accept fd) => inferInstanceAs (Decidable (∀ sock ∈ s.held, sock.fd ≠ fd))
  | .accept (.create ok) => inferInstanceAs (Decidable (ok = true))
  | .accept .go => inferInstanceAs (Decidable True)
  | .accept .recv => inferInstanceAs (Decidable True)
  | .accept (.evict _) => inferInstanceAs (Decidable True)
  | .accept .noStorage => inferInstanceAs (Decidable True)
  | .client _ _ => inferInstanceAs (Decidable True)
  | .call _ _ => inferInstanceAs (Decidable True)
  | .publish _ => inferInstanceAs (Decidable True)
  | .sweep _ => inferInstanceAs (Decidable True)
  | .reap _ => inferInstanceAs (Decidable True)

/-! ### The invariant -/

/-- An event in which a task reaches its own connection. -/
def Proper : SocketEvent → Prop
  | .wrote target actual _ => actual = target
  | .read target actual => actual = target
  | .closed sock actual => actual = some sock.conn
  | _ => True

structure OwnInv (s : Sockets) : Prop where
  tidy : Tidy s
  faithful : Lib.Faithful Socket.fd Socket.conn s.fds s.held
  ledger : Lib.Ledger Socket.fd Socket.conn s.fds s.owned
  fresh : ∀ sock, .accepted sock ∈ s.log → sock.conn < s.nextConn
  account : ∀ sock, accepts sock s.log = closes sock s.log + s.owned.count sock
  single : ∀ sock, accepts sock s.log ≤ 1
  proper : ∀ event ∈ s.log, Proper event
  created : ∀ slot sock, s.accept ≠ .refused slot sock true

theorem socket_ext (x y : Socket) (hfd : x.fd = y.fd) (hconn : x.conn = y.conn) : x = y := by
  cases x
  cases y
  exact congrArg₂ Socket.mk hfd hconn

theorem accepts_eq_zero {sock : Socket} {log : List SocketEvent} (h : .accepted sock ∉ log) :
    accepts sock log = 0 := by
  refine List.count_eq_zero.2 fun hmem => ?_
  rcases List.mem_filterMap.1 hmem with ⟨event, hevent, heq⟩
  cases event with
  | accepted other =>
    cases heq
    exact h hevent
  | _ => cases heq

theorem accepts_pos {sock : Socket} {log : List SocketEvent} (h : .accepted sock ∈ log) :
    0 < accepts sock log :=
  List.count_pos_iff.2 (List.mem_filterMap.2 ⟨_, h, rfl⟩)

theorem Happens.proper {event : SocketEvent} (h : Happens s s.held event)
    (hfaithful : Lib.Faithful Socket.fd Socket.conn s.fds s.held) : Proper event := by
  cases event with
  | accepted | torn | connected => trivial
  | closed => exact h.elim
  | wrote | read =>
    rcases h with ⟨sock, hmem, rfl, hopen⟩
    exact hfaithful.leads sock hmem _ hopen

theorem OwnInv.accepts {fd : Nat} (h : OwnInv s) (hnew : ∀ sock ∈ s.held, sock.fd ≠ fd)
    (haccepts : Accepts s s' fd s.held s.owned s'.held s'.owned) (htidy : Tidy s')
    (hcreated : ∀ slot sock, s'.accept ≠ .refused slot sock true) : OwnInv s' := by
  have hzero : Broker.accepts ⟨fd, s.nextConn⟩ s.log = 0 :=
    accepts_eq_zero fun hmem => Nat.lt_irrefl _ (h.fresh _ hmem)
  have hlog : ∀ sock, Broker.accepts sock s'.log =
      Broker.accepts sock s.log + if sock = ⟨fd, s.nextConn⟩ then 1 else 0 := by
    intro sock
    rw [haccepts.log]
    unfold Broker.accepts
    rw [List.filterMap_cons]
    simp only [SocketEvent.acceptedSock, List.count_cons]
    by_cases hsame : sock = ⟨fd, s.nextConn⟩
    · rw [if_pos hsame, hsame, if_pos (beq_self_eq_true _)]
    · rw [if_neg hsame, if_neg fun heq => hsame (beq_iff_eq.1 heq).symm]
  have hcloses : ∀ sock, closes sock s'.log = closes sock s.log := by
    intro sock
    rw [haccepts.log]
    rfl
  refine ⟨htidy, ?_, ?_, fun sock hmem => ?_, fun sock => ?_, fun sock => ?_, fun event he => ?_,
    hcreated⟩
  · rw [haccepts.fds]
    have hissue := h.faithful.issue (x := ⟨fd, s.nextConn⟩) hnew
    exact hissue.mono fun x hx => List.mem_cons.2 (haccepts.sub x hx)
  · rw [haccepts.fds]
    exact h.ledger.issue socket_ext (x := ⟨fd, s.nextConn⟩) haccepts.free haccepts.count
  · rw [haccepts.log] at hmem
    rw [haccepts.conns]
    rcases List.mem_cons.1 hmem with heq | hold
    · obtain rfl := SocketEvent.accepted.inj heq
      exact Nat.lt_succ_self _
    · exact Nat.lt_succ_of_lt (h.fresh sock hold)
  · have haccount := h.account sock
    have hcount := haccepts.count sock
    rw [hlog, hcloses]
    omega
  · rw [hlog]
    by_cases hsame : sock = ⟨fd, s.nextConn⟩
    · rw [hsame, hzero, if_pos rfl]
    · rw [if_neg hsame]
      exact h.single sock
  · rw [haccepts.log] at he
    rcases List.mem_cons.1 he with rfl | hold
    · trivial
    · exact h.proper event hold

theorem OwnInv.moves {c : Closing} (h : OwnInv s)
    (hmoves : Moves s s' c s.held s.owned s'.held s'.owned) (htidy : Tidy s')
    (hcreated : ∀ slot sock, s'.accept ≠ .refused slot sock true) : OwnInv s' := by
  cases c with
  | stray sock =>
    rcases hmoves.stray sock rfl with ⟨slot, haccept⟩
    exact absurd haccept (h.created slot sock)
  | none =>
    have hfds : s'.fds = s.fds := hmoves.fds
    have hcount : ∀ sock, s'.owned.count sock = s.owned.count sock := hmoves.count
    -- An event of a task is neither a new connection nor a close.
    have hlog : (∀ sock, Broker.accepts sock s'.log = Broker.accepts sock s.log) ∧
        (∀ sock, closes sock s'.log = closes sock s.log) ∧
          (∀ sock, .accepted sock ∈ s'.log → .accepted sock ∈ s.log) ∧
            ∀ event ∈ s'.log, Proper event := by
      rcases hmoves.log with hsame | ⟨event, hevent, hhappens⟩
      · rw [hsame]
        exact ⟨fun _ => rfl, fun _ => rfl, fun _ => id, h.proper⟩
      have hproper := hhappens.proper h.faithful
      rw [hevent]
      refine ⟨fun sock => ?_, fun sock => ?_, fun sock hmem => ?_, fun e he => ?_⟩
      · cases event with
        | accepted | closed => exact hhappens.elim
        | wrote | read | torn | connected => rfl
      · cases event with
        | accepted | closed => exact hhappens.elim
        | wrote | read | torn | connected => rfl
      · rcases List.mem_cons.1 hmem with heq | hold
        · rw [← heq] at hhappens
          exact hhappens.elim
        · exact hold
      · rcases List.mem_cons.1 he with rfl | hold
        · exact hproper
        · exact h.proper e hold
    rcases hlog with ⟨haccepts, hcloses, haccepted, hproper⟩
    refine ⟨htidy, ?_, fun sock => ?_, fun sock hmem => ?_, fun sock => ?_, fun sock => ?_,
      hproper, hcreated⟩
    · rw [hfds]
      exact h.faithful.mono hmoves.sub
    · rw [hfds, hcount]
      exact h.ledger sock
    · rw [hmoves.conns]
      exact h.fresh sock (haccepted sock hmem)
    · rw [haccepts, hcloses, hcount]
      exact h.account sock
    · rw [haccepts]
      exact h.single sock
  | owner sock =>
    have hfds : s'.fds = Function.update s.fds sock.fd none := hmoves.fds
    have hlog : s'.log = .closed sock (s.fds sock.fd) :: s.log := hmoves.log
    have hcount : ∀ x, s.owned.count x = s'.owned.count x + if x = sock then 1 else 0 := by
      intro x
      rw [← hmoves.count x]
      change _ + List.count x [sock] = _
      by_cases hsame : x = sock
      · rw [hsame, List.count_singleton_self, if_pos rfl]
      · rw [List.count_singleton, if_neg hsame, if_neg fun heq => hsame (beq_iff_eq.1 heq).symm]
    have hmem : sock ∈ s.owned := by
      have hsock := hcount sock
      rw [if_pos rfl] at hsock
      exact List.count_pos_iff.1 (by omega)
    have hcloses : ∀ x, closes x s'.log = closes x s.log + if x = sock then 1 else 0 := by
      intro x
      rw [hlog]
      unfold closes
      rw [List.filterMap_cons]
      simp only [SocketEvent.closedSock, List.count_cons]
      by_cases hsame : x = sock
      · rw [if_pos hsame, hsame, if_pos (beq_self_eq_true _)]
      · rw [if_neg hsame, if_neg fun heq => hsame (beq_iff_eq.1 heq).symm]
    have haccepts : ∀ x, Broker.accepts x s'.log = Broker.accepts x s.log := by
      intro x
      rw [hlog]
      rfl
    refine ⟨htidy, ?_, ?_, fun x hx => ?_, fun x => ?_, fun x => ?_, fun event he => ?_, hcreated⟩
    · rw [hfds]
      exact (h.faithful.retire sock.fd).mono hmoves.sub
    · rw [hfds]
      exact h.ledger.retire socket_ext hmem hcount
    · rw [hlog] at hx
      rw [hmoves.conns]
      rcases List.mem_cons.1 hx with heq | hold
      · cases heq
      · exact h.fresh x hold
    · have haccount := h.account x
      have hx := hcount x
      rw [haccepts, hcloses]
      omega
    · rw [haccepts]
      exact h.single x
    · rw [hlog] at he
      rcases List.mem_cons.1 he with rfl | hold
      · exact h.ledger.out_of_mem hmem
      · exact h.proper event hold

/-- The accepting task refuses a session with a socket only if its task was not created. -/
theorem Accepting.created {accept accept' : AcceptState} {choice : AcceptChoice}
    (hstep : Accepting s accept choice s' accept') (hchoice : choice ≠ .create false)
    (hbefore : ∀ slot sock, accept ≠ .refused slot sock true) :
    ∀ slot sock, accept' ≠ .refused slot sock true := by
  intro slot sock heq
  cases hstep with
  | connection | alloc | store | create | refuse => cases heq
  | fail => exact hchoice rfl
  | free slot free next s' hfree => cases next <;> cases heq
  | quiet accept accept' choice c s' hquiet hslot hmoves =>
    rcases hslot with ⟨-, hnone⟩ | ⟨k, sock, -, hrefused⟩
    · rw [heq] at hnone
      cases hnone
    · rw [hrefused] at heq
      cases heq

theorem socketStep_created (hs : socketStep s act = some s') (hact : act ≠ .accept (.create false))
    (hbefore : ∀ slot sock, s.accept ≠ .refused slot sock true) :
    ∀ slot sock, s'.accept ≠ .refused slot sock true := by
  unfold socketStep at hs
  cases act with
  | accept choice =>
    rcases Option.map_eq_some_iff.1 hs with ⟨⟨next, accept'⟩, hstep, rfl⟩
    exact (acceptStep_accepting hstep).created (fun heq => hact (congrArg _ heq)) hbefore
  | client slot choice =>
    dsimp only at hs
    split at hs
    · cases hs
    rename_i client hclient
    rcases Option.map_eq_some_iff.1 hs with ⟨⟨next, client'⟩, hstep, rfl⟩
    by_cases hlast : client = .freeing .released
    · rw [hlast] at hstep
      rcases clientStep_released hstep with ⟨sess, -, -, rfl⟩
      exact hbefore
    · rw [(clientStep_moves hstep hlast).1.accept]
      exact hbefore
  | call n choice =>
    dsimp only at hs
    split at hs
    · cases hs
    rcases Option.map_eq_some_iff.1 hs with ⟨⟨next, call'⟩, hstep, rfl⟩
    rw [(callStep_moves hstep).1.accept]
    exact hbefore
  | publish message =>
    cases hs
    exact hbefore
  | sweep slot | reap slot =>
    dsimp only at hs
    split at hs
    · cases hs
    split_ifs at hs
    cases hs
    exact hbefore

/-- One step keeps the invariant if nothing is disputed. -/
theorem ownInv_step (h : OwnInv s) (hundisputed : Undisputed s act)
    (hs : socketStep s act = some s') : OwnInv s' := by
  have htidy := tidy_step h.tidy hs
  have hact : act ≠ .accept (.create false) := by
    rintro rfl
    cases hundisputed
  have hcreated := socketStep_created hs hact h.created
  rcases socketStep_effect h.tidy hs with ⟨fd, rfl, haccepts⟩ | ⟨c, hmoves⟩
  · exact h.accepts hundisputed haccepts htidy hcreated
  · exact h.moves hmoves htidy hcreated

theorem start_nothing (n : Nat) : (Sockets.atStart n).held = [] ∧ (Sockets.atStart n).owned = [] := by
  have hin : (Sockets.atStart n).inSessions = [] := by
    refine List.flatMap_eq_nil_iff.2 fun sess hsess => ?_
    rw [List.eq_of_mem_replicate hsess]
    rfl
  have hclients : ∀ f : ClientState → List Socket, f .none = [] →
      (Sockets.atStart n).clients.flatMap f = [] := by
    intro f hf
    refine List.flatMap_eq_nil_iff.2 fun client hclient => ?_
    rw [List.eq_of_mem_replicate hclient]
    exact hf
  unfold Sockets.held Sockets.owned
  rw [hin, hclients _ rfl, hclients _ rfl]
  exact ⟨rfl, rfl⟩

theorem ownInv_start (n : Nat) : OwnInv (.atStart n) := by
  rcases start_nothing n with ⟨hheld, howned⟩
  refine ⟨tidy_start n, ?_, fun sock => ?_, nofun, fun sock => ?_, fun sock => Nat.zero_le _, nofun,
    nofun⟩
  · rw [hheld]
    exact ⟨nofun, nofun⟩
  · rw [howned]
    rfl
  · rw [howned]
    rfl

/-- If no task has anything left to do, nobody owns a socket. -/
theorem AtRest.owned (h : Tidy s) (hrest : s.AtRest) : s.owned = [] := by
  have hclients : s.clients.flatMap ClientState.owned = [] := by
    refine List.flatMap_eq_nil_iff.2 fun client hclient => ?_
    rw [hrest.clients client hclient]
    rfl
  have hcalls : s.calls.flatMap CallState.owned = [] := by
    refine List.flatMap_eq_nil_iff.2 fun call hcall => ?_
    rw [hrest.calls call hcall]
    rfl
  have hin : s.inSessions = [] := by
    refine List.flatMap_eq_nil_iff.2 fun sess hsess => ?_
    rcases List.getElem?_of_mem hsess with ⟨slot, hslot⟩
    have hlt : slot < s.clients.length := by
      rw [h.length]
      exact (List.getElem?_eq_some_iff.1 hslot).1
    have hat := h.at_slot slot sess _ hslot (List.getElem?_eq_getElem hlt)
    by_cases hsock : sess.sock = none
    · rw [hsock]
      rfl
    rcases hat.tasked hsock with htask | hprepared
    · exact absurd (hrest.clients _ (List.getElem_mem hlt)) htask
    · rw [hrest.accept] at hprepared
      cases hprepared
  unfold Sockets.owned
  rw [hin, hclients, hcalls, hrest.accept]
  rfl

theorem OwnInv.owned_sockets (h : OwnInv s) : SocketsOwned s := by
  have honce : ∀ sock, .accepted sock ∈ s.log →
      closes sock s.log = if s.fds sock.fd = some sock.conn then 0 else 1 := by
    intro sock hmem
    have hpos := accepts_pos hmem
    have hsingle := h.single sock
    have haccount := h.account sock
    rw [h.ledger sock] at haccount
    split_ifs at haccount ⊢ <;> omega
  refine ⟨fun target actual bytes hmem => h.proper _ hmem, fun target actual hmem =>
    h.proper _ hmem, fun sock actual hmem => h.proper _ hmem, honce, fun fd conn hopen =>
    h.ledger.mem_of_out (x := ⟨fd, conn⟩) hopen, fun hrest sock hmem => ?_⟩
  have hpos := accepts_pos hmem
  have hsingle := h.single sock
  have haccount := h.account sock
  rw [AtRest.owned h.tidy hrest, List.count_nil] at haccount
  omega

/-! ### Ownership over every run -/

/-- In every run in which no descriptor is given out that somebody has, and the tasks of
    sessions are created, tasks reach their own connections and sockets are closed once. -/
theorem sockets_owned {n : Nat} {acts : List SocketStep}
    (heach : Lib.EachStep socketStep Undisputed (.atStart n) acts)
    (hrun : Lib.run socketStep (.atStart n) acts = some s') : SocketsOwned s' :=
  (Lib.invariant_of_run (fun _ _ _ h hundisputed hs => ownInv_step h hundisputed hs)
    (ownInv_start n) heach hrun).owned_sockets

/-- The steps in which a connection gets a session and its task. -/
def connection (fd : Nat) : List SocketStep :=
  [.accept (.accept fd), .accept .go, .accept .go, .accept (.create true)]

/-- The steps in which the task of a session reads CONNECT, up to the client id. -/
def connect (slot : Nat) : List SocketStep :=
  [.client slot .go, .client slot (.recv false), .client slot .go, .client slot (.recv false),
    .client slot .go, .client slot (.recv false), .client slot (.connect ['a'])]

/-- The steps in which the task of a session answers CONNECT and waits for a packet. -/
def greeting (slot : Nat) : List SocketStep :=
  [.client slot (.verdict 0), .client slot (.send (.write 4)), .client slot (.send .go),
    .client slot .go, .client slot .go]

/-- A client connects and leaves. -/
def oneSession : List SocketStep :=
  connection 3 ++ connect 0 ++ greeting 0 ++
    [.client 0 (.fail false), .client 0 (.cleanup none), .client 0 .go, .client 0 .go,
      .client 0 .go, .client 0 .go, .client 0 .go, .client 0 .go]

theorem sockets_owned_session : Lib.EachStep socketStep Undisputed (.atStart 2) oneSession ∧
      (Lib.run socketStep (.atStart 2) oneSession).isSome = true ∧
        SocketsOwned ((Lib.run socketStep (.atStart 2) oneSession).getD {}) := by
  have heach : Lib.EachStep socketStep Undisputed (.atStart 2) oneSession := by decide
  have hsome : (Lib.run socketStep (.atStart 2) oneSession).isSome = true := by decide
  rcases Option.isSome_iff_exists.1 hsome with ⟨s', hrun⟩
  refine ⟨heach, hsome, ?_⟩
  rw [hrun]
  exact sockets_owned heach hrun

/-- A second connection takes the client id over, and a third is given the descriptor of the
    first, whose task has it still. -/
def takeover : List SocketStep :=
  connection 3 ++ connect 0 ++ greeting 0 ++ connection 4 ++ connect 1 ++
    [.client 1 .go] ++ connection 3 ++ [.client 0 (.recv false)]

/-- Sockets are owned in every run. -/
def AlwaysOwned : Prop :=
  ∀ n acts s', Lib.run socketStep (.atStart n) acts = some s' → SocketsOwned s'

/-- The task of a session reads from another connection. -/
theorem not_alwaysOwned : ¬AlwaysOwned := by
  intro h
  have hsome : (Lib.run socketStep (.atStart 3) takeover).isSome = true := by decide
  have hread : .read 0 2 ∈ ((Lib.run socketStep (.atStart 3) takeover).getD {}).log := by decide
  rcases Option.isSome_iff_exists.1 hsome with ⟨s', hrun⟩
  rw [hrun] at hread
  exact absurd ((h 3 takeover s' hrun).read 0 2 hread) (by decide)

end SceneHub.Broker
