import SceneHub.Theory.Transactions

/-!
# Rooms Keep Apart

No step on one session changes which room that session is, and a session is
only made for a room that has none. So the sessions in use belong to distinct
rooms in every run, an operation on a room reaches its session and no other,
and a plan that a session makes carries the id of its room.

## Main definitions

* `RoomsDistinct`: Sessions in use belong to distinct rooms.
* `OwnPlans`: The condition that a plan continued is one of the session's room.
* `Op.room`, `planMade`: The room an operation is addressed to, and its plan.

## Theorems

* `runOps_distinct`: `RoomsDistinct` holds in every run.
* `roomMoves_plan`: A plan found behind a chain was there or is the room's.
* `stepOp_other`: An operation on a room leaves the other sessions alone and
  makes no plan for their rooms.
* `event_session`, `tick_session`: What the room loops make of one session.
-/

namespace SceneHub

open Lib (sweep)

/-! ### Which room a session is -/

/-- Whether a session is in use, and for which room. -/
def Session.ident (s : Session) : Bool × String := (s.inUse, s.roomId)

theorem roomStep_ident {C : CallCond} {r r' : RoomCtx} (h : RoomStep C r r') :
    r'.session.ident = r.session.ident := by
  cases h with
  | fields session hbranches hwait hroom => exact hroom
  | _ => rfl

/-- Sessions in use belong to distinct rooms. -/
def RoomsDistinct (w : World) : Prop :=
  ∀ (i j : Nat) (s t : Session), w.sessions[i]? = some s → w.sessions[j]? = some t → s.inUse = true →
    t.inUse = true → s.roomId = t.roomId → i = j

theorem find_eq_some {w : World} {roomId : String} {i : Nat} (h : w.find roomId = some i) :
    ∃ s, w.sessions[i]? = some s ∧ s.inUse = true ∧ s.roomId = roomId := by
  unfold World.find at h
  split at h
  · cases h
  rcases List.findIdx?_eq_some_iff_getElem.mp h with ⟨hlt, hfound, -⟩
  simp only [Bool.and_eq_true, decide_eq_true_iff] at hfound
  exact ⟨_, List.getElem?_eq_getElem hlt, hfound.1, hfound.2⟩

theorem find_eq_none {w : World} {roomId : String} (hne : roomId ≠ "")
    (h : w.find roomId = none) : ∀ s ∈ w.sessions, s.inUse = true → s.roomId ≠ roomId := by
  intro s hs huse heq
  unfold World.find at h
  rw [if_neg hne, List.findIdx?_eq_none_iff] at h
  have := h s hs
  simp only [huse, heq, decide_true, Bool.and_self, reduceCtorEq] at this

theorem roomsDistinct_of_ident {w w' : World} (h : RoomsDistinct w)
    (hident : ∀ (i : Nat) (s' : Session), w'.sessions[i]? = some s' → s'.inUse = true →
      ∃ s, w.sessions[i]? = some s ∧ s.ident = s'.ident) : RoomsDistinct w' := by
  intro i j s t hs ht huse huse' hroom
  rcases hident i s hs huse with ⟨s₀, hs₀, hid₀⟩
  rcases hident j t ht huse' with ⟨t₀, ht₀, hid₁⟩
  simp only [Session.ident, Prod.mk.injEq] at hid₀ hid₁
  exact h i j s₀ t₀ hs₀ ht₀ (hid₀.1.trans huse) (hid₁.1.trans huse')
    ((hid₀.2.trans hroom).trans hid₁.2.symm)

theorem worldStep_distinct {C : CallCond} {w w' : World} (h : WorldStep C w w')
    (hw : RoomsDistinct w) : RoomsDistinct w' := by
  cases h with
  | acquire => exact hw
  | release => exact hw
  | room i session plan r hs hstep =>
    have hlt : i < w.sessions.length := (List.getElem?_eq_some_iff.mp hs).1
    refine roomsDistinct_of_ident hw fun k s' hs' _ => ?_
    by_cases hik : i = k
    · subst hik
      simp only [World.put, List.getElem?_set_self hlt, Option.some.injEq] at hs'
      exact ⟨session, hs, by rw [← hs', roomStep_ident hstep]⟩
    · simp only [World.put, List.getElem?_set_ne hik] at hs'
      exact ⟨s', hs', rfl⟩
  | alloc i session roomId hs hne hnew =>
    have hlt : i < w.sessions.length := (List.getElem?_eq_some_iff.mp hs).1
    have hother := find_eq_none hne hnew
    intro k l s t hk hl huse huse' hroom
    by_cases hik : i = k
    · subst hik
      by_cases hil : i = l
      · exact hil
      -- The new session is for a room that no other session has.
      simp only [World.put, List.getElem?_set_self hlt, Option.some.injEq] at hk
      simp only [World.put, List.getElem?_set_ne hil] at hl
      subst hk
      exact absurd hroom.symm (hother t (List.mem_of_getElem? hl) huse')
    simp only [World.put, List.getElem?_set_ne hik] at hk
    by_cases hil : i = l
    · subst hil
      simp only [World.put, List.getElem?_set_self hlt, Option.some.injEq] at hl
      subst hl
      exact absurd hroom (hother s (List.mem_of_getElem? hk) huse)
    · simp only [World.put, List.getElem?_set_ne hil] at hl
      exact hw k l s t hk hl huse huse' hroom
  | resetAll =>
    intro k l s t hk _ huse
    rcases List.mem_map.mp (List.mem_of_getElem? hk) with ⟨s₀, -, rfl⟩
    cases huse

theorem boot_distinct (rooms : Nat) (entropy : List UInt32) :
    RoomsDistinct (World.boot rooms entropy) := by
  intro k l s t hk _ huse
  rw [List.eq_of_mem_replicate (List.mem_of_getElem? hk)] at huse
  cases huse

theorem callsMeet_trivial (w : World) (op : Op) : CallsMeet (fun _ _ _ => True) w op :=
  callsMeet_of w op (fun _ _ _ _ => trivial) fun _ _ _ _ _ _ _ => trivial

/-- Sessions in use belong to distinct rooms in every state a run reaches. -/
theorem runOps_distinct (rooms : Nat) (entropy : List UInt32) (ops : List Op) :
    RoomsDistinct (runOps (World.boot rooms entropy) ops) :=
  runOps_induction RoomsDistinct (fun _ _ => worldStep_distinct) _ (boot_distinct rooms entropy)
    ops fun op _ w => callsMeet_trivial w op

/-! ### Whose a plan is -/

/-- A plan that a dispatch result continues is one of the session's room. -/
def OwnPlans : CallCond := fun r _ call =>
  ∀ plan dispatch hasMore nowMs, call = .apply plan dispatch hasMore nowMs →
    plan.roomId = r.session.roomId

theorem callMoves_plan {R K : String → Prop} {e : Env} {c c' : Ctx} (h : CallMoves R K e c c')
    (hroom : K e.roomId) (hc : ∀ p, c.plan = some p → K p.roomId) :
    ∀ p, c'.plan = some p → K p.roomId := by
  refine h.preserves (fun c => ∀ p, c.plan = some p → K p.roomId) (fun c₁ c₂ hm hc₁ => ?_) hc
  cases hm with
  | move hmove =>
    cases hmove with
    | step hs =>
      cases hs with
      | plan plan hown =>
        intro p hp
        rw [hown p hp]
        exact hroom
      | _ => exact hc₁
    | _ => exact hc₁
  | more plan hK =>
    intro p hp
    cases hp
    exact hK
  | result dispatch nowMs hR =>
    unfold enterWaitCommandResult
    split
    · exact hc₁
    · exact hc₁

theorem roomMoves_plan {K : String → Prop} {r r' : RoomCtx} (h : RoomMoves OwnPlans r r')
    (hroom : K r.session.roomId) (hr : ∀ p, r.plan = some p → K p.roomId) :
    ∀ p, r'.plan = some p → K p.roomId := by
  have hend : K r'.session.roomId ∧ ∀ p, r'.plan = some p → K p.roomId := by
    induction h with
    | refl => exact ⟨hroom, hr⟩
    | tail _ hstep ih =>
      have hsame := congrArg Prod.snd (roomStep_ident hstep)
      constructor
      · simp only [Session.ident] at hsame
        rw [hsame]
        exact ih.1
      cases hstep with
      | branch j b call hb hC =>
        refine callMoves_plan (call.moves (fun _ => True) K _ _ ?_) ih.1 ih.2
        intro plan dispatch hasMore nowMs hcall
        refine ⟨trivial, ?_⟩
        rw [hC plan dispatch hasMore nowMs hcall]
        exact ih.1
      | planNone =>
        nofun
      | _ => exact ih.2
  exact hend.2

/-- A dispatch result comes back to the room of its plan. -/
theorem callsMeet_ownPlans (w : World) (op : Op) : CallsMeet OwnPlans w op := by
  cases hop : op with
  | planApply plan dispatch hasMore now =>
    intro i session hfind hs plan' dispatch' hasMore' nowMs' heq
    cases heq
    rcases find_eq_some hfind with ⟨s, hs', -, hroom⟩
    rw [hs] at hs'
    cases hs'
    exact hroom.symm
  | _ =>
    refine callsMeet_of w _ (fun r j call hcall => ?_) (fun plan dispatch hasMore now h => ?_)
    · exact fun plan dispatch hasMore nowMs heq => absurd heq (hcall _ _ _ _)
    · cases h

/-! ### Other rooms -/

theorem put_get_ne (w : World) (i k : Nat) (r : RoomCtx) (hik : i ≠ k) :
    (w.put i r).sessions[k]? = w.sessions[k]? := List.getElem?_set_ne hik

theorem onRoom_get_ne {α : Type} (w : World) (roomId : String) (absent : α)
    (f : RoomCtx → α × RoomCtx) (k : Nat) (s : Session) (hs : w.sessions[k]? = some s)
    (hroom : s.roomId ≠ roomId) : (w.onRoom roomId absent f).2.sessions[k]? = some s := by
  unfold World.onRoom
  split
  · exact hs
  · next i hfind =>
      unfold World.onSession
      split
      · exact hs
      have hik : i ≠ k := by
        rintro rfl
        rcases find_eq_some hfind with ⟨s', hs', -, hsame⟩
        rw [hs] at hs'
        cases hs'
        exact hroom hsame
      rw [put_get_ne w i k _ hik]
      exact hs

theorem onAlloc_get_ne (w : World) (roomId : String) (f : RoomCtx → EspErr × RoomCtx) (k : Nat)
    (s : Session) (hs : w.sessions[k]? = some s) (huse : s.inUse = true)
    (hroom : s.roomId ≠ roomId) : (w.onAlloc roomId f).2.sessions[k]? = some s := by
  -- Neither the session found nor a slot not in use is the one at `k`.
  have hother : ∀ i w', w.alloc roomId = some (i, w') → i ≠ k ∧ w'.sessions[k]? = some s := by
    intro i w' halloc
    unfold World.alloc at halloc
    split at halloc
    · cases halloc
    cases hfind : w.find roomId with
    | some j =>
      rw [hfind] at halloc
      cases halloc
      refine ⟨?_, hs⟩
      rintro rfl
      rcases find_eq_some hfind with ⟨s', hs', -, hsame⟩
      rw [hs] at hs'
      cases hs'
      exact hroom hsame
    | none =>
      rw [hfind] at halloc
      cases hfree : w.sessions.findIdx? fun s => !s.inUse with
      | none =>
        simp only [hfree] at halloc
        cases halloc
      | some j =>
        simp only [hfree] at halloc
        cases halloc
        have hne : i ≠ k := by
          rintro rfl
          rcases List.findIdx?_eq_some_iff_getElem.mp hfree with ⟨hlt, hnot, -⟩
          rw [List.getElem?_eq_getElem hlt, Option.some.injEq] at hs
          rw [hs, huse] at hnot
          cases hnot
        exact ⟨hne, (put_get_ne w i k _ hne).trans hs⟩
  unfold World.onAlloc
  split
  · exact hs
  · next i w' halloc =>
      rcases hother i w' halloc with ⟨hne, hs'⟩
      unfold World.onSession
      split
      · exact hs'
      · exact (put_get_ne w' i k _ hne).trans hs'

theorem onRoom_plan {α : Type} (w : World) (roomId : String) (absent : α)
    (f : RoomCtx → α × RoomCtx) (hf : ∀ i s, w.find roomId = some i → w.sessions[i]? = some s →
      RoomMoves OwnPlans (w.roomCtx s) (f (w.roomCtx s)).2) :
    ∀ p, (w.onRoom roomId absent f).1.2 = some p → p.roomId = roomId := by
  intro p hp
  unfold World.onRoom at hp
  split at hp
  · cases hp
  · next i hfind =>
      unfold World.onSession at hp
      split at hp
      · cases hp
      · next s hs =>
          rcases find_eq_some hfind with ⟨s', hs', -, hsame⟩
          rw [hs] at hs'
          cases hs'
          exact roomMoves_plan (K := fun id => id = roomId) (hf i s hfind hs) hsame
            nofun p hp

/-- The room an operation is addressed to, if it is to one. -/
def Op.room : Op → Option String
  | .start roomId _ _ | .pause roomId _ | .resume roomId _ | .finish roomId _
  | .reset roomId _ _ | .addTime roomId _ _ | .setHint roomId _ _ | .clearHint roomId _
  | .selectProfile roomId _ _ _ _ | .selectScenario roomId _ | .scenarioStart roomId _ _ _ _ _
  | .scenarioStop roomId | .scenarioReset roomId | .next roomId _ | .nextOnBranch roomId _ _
  | .approve roomId _ => some roomId
  | .planNext plan | .planApply plan _ _ _ | .planFail plan _ => some plan.roomId
  | .event _ _ | .tick _ | .resetAll => none

/-- The plan an operation makes. Asking for the next command only hands back
    the plan that was brought. -/
def planMade (w : World) : Op → Option CommandPlan
  | .planNext _ => none
  | op => (stepOp w op).1.plan

theorem stepOp_other (w : World) (op : Op) (roomId : String) (hop : op.room = some roomId)
    (k : Nat) (s : Session) (hs : w.sessions[k]? = some s) (huse : s.inUse = true)
    (hroom : s.roomId ≠ roomId) : (stepOp w op).2.sessions[k]? = some s ∧
      ∀ p, planMade w op = some p → p.roomId = roomId := by
  have hcond := callsMeet_ownPlans w.locked op
  have hnone : ∀ (p : CommandPlan), none = some p → p.roomId = roomId := nofun
  have hon {α : Type} (id : String) (absent : α) (f : RoomCtx → α × RoomCtx)
      (hid : s.roomId ≠ id) (hmoves : ∀ i t, w.locked.find id = some i →
        w.locked.sessions[i]? = some t → RoomMoves OwnPlans (w.locked.roomCtx t)
          (f (w.locked.roomCtx t)).2) :
      (w.locked.onRoom id absent f).2.sessions[k]? = some s ∧
        ∀ p, (w.locked.onRoom id absent f).1.2 = some p → p.roomId = id :=
    ⟨onRoom_get_ne w.locked id absent f k s hs hid, onRoom_plan w.locked id absent f hmoves⟩
  cases op with
  | event message now | tick now | resetAll => cases hop
  | start id durationMs nowMs =>
    cases hop
    exact ⟨onAlloc_get_ne w.locked _ _ k s hs huse hroom, hnone⟩
  | setHint id message nowMs =>
    cases hop
    unfold planMade stepOp opBody
    simp only
    split
    · exact ⟨hs, hnone⟩
    · exact ⟨onAlloc_get_ne w.locked _ _ k s hs huse hroom, hnone⟩
  | selectProfile id profile scenario durationMs now | selectScenario id scenario =>
    cases hop
    unfold planMade stepOp opBody
    simp only
    split
    · exact ⟨hs, hnone⟩
    split
    · exact ⟨hs, hnone⟩
    · exact ⟨onAlloc_get_ne w.locked _ _ k s hs huse hroom, hnone⟩
  | scenarioStart id scenario prepared generation rejected now =>
    cases hop
    unfold planMade stepOp opBody
    simp only
    split
    · exact ⟨hs, hnone⟩
    split
    · exact hon _ _ _ hroom fun _ _ _ _ => RoomMoves.roomStart .refl _ _ _ _ hcond
    · exact ⟨onRoom_get_ne w.locked _ _ _ k s hs hroom, hnone⟩
  | pause id nowMs =>
    cases hop
    exact hon _ _ _ hroom fun _ _ _ _ => RoomMoves.sessionPause .refl _
  | resume id nowMs =>
    cases hop
    exact hon _ _ _ hroom fun _ _ _ _ => RoomMoves.sessionResume .refl _
  | finish id nowMs =>
    cases hop
    exact hon _ _ _ hroom fun _ _ _ _ => RoomMoves.sessionFinish .refl _
  | reset id durationMs nowMs =>
    cases hop
    exact hon _ _ _ hroom fun _ _ _ _ => RoomMoves.sessionReset .refl _ _
  | addTime id deltaMs nowMs =>
    cases hop
    exact hon _ _ _ hroom fun _ _ _ _ => RoomMoves.sessionAddTime .refl _ _
  | clearHint id nowMs =>
    cases hop
    exact hon _ _ _ hroom fun _ _ _ _ => RoomMoves.sessionClearHint .refl _
  | scenarioStop id | scenarioReset id =>
    cases hop
    exact hon _ _ _ hroom fun _ _ _ _ => RoomMoves.clearScenario .refl _ _ _
  | next id now | nextOnBranch id branchId now | approve id now =>
    cases hop
    exact hon _ _ _ hroom fun _ _ _ _ => WorldMoves.roomAdvanceChosen _ _ _ hcond
  | planNext plan =>
    cases hop
    refine ⟨?_, hnone⟩
    have hother := onRoom_get_ne w.locked plan.roomId (.error .notFound) (roomNextCommand plan)
      k s hs hroom
    unfold stepOp opBody
    simp only
    split
    · exact hother
    · exact hother
  | planApply plan dispatch hasMore now =>
    cases hop
    exact hon _ _ _ hroom fun i s hfind hs =>
      (LoopMoves.roomApplyDispatch .refl _ _ _ _ (hcond i s hfind hs)).rooms
  | planFail plan errorCode =>
    cases hop
    exact ⟨onRoom_get_ne w.locked _ _ _ k s hs hroom, hnone⟩

theorem onRoom_own {α : Type} (w : World) (hdistinct : RoomsDistinct w) (absent : α)
    (f : RoomCtx → α × RoomCtx) (k : Nat) (s : Session) (hs : w.sessions[k]? = some s)
    (huse : s.inUse = true) : w.onRoom s.roomId absent f = ((absent, none), w) ∨
      w.onRoom s.roomId absent f =
        (((f (w.roomCtx s)).1, (f (w.roomCtx s)).2.plan), w.put k (f (w.roomCtx s)).2) := by
  unfold World.onRoom
  cases h : w.find s.roomId with
  | none => exact .inl rfl
  | some i =>
    rcases find_eq_some h with ⟨t, ht, huse', hroom⟩
    have hik := hdistinct i k t s ht hs huse' huse hroom
    subst hik
    refine .inr ?_
    unfold World.onSession
    simp only [hs]

/-! ### What the room loops make of one session -/

/-- A loop whose other turns leave the session at `i` alone stops in front of it, or
    takes the turn at `i` with it. -/
theorem loop_session (turn : Nat → WorldEvent → WorldEvent × Bool) (w : World) (i : Nat)
    (session : Session) (hs : w.sessions[i]? = some session)
    (hframe : ∀ k t, k ≠ i → (turn k t).1.world.sessions[i]? = t.world.sessions[i]?) :
    let entry := sweep turn (List.range i) { world := w }
    let final := (sweep turn (List.range w.sessions.length) { world := w }).1
    (final.world.sessions[i]? = some session ∧ entry.2 = true) ∨
      (final.world.sessions[i]? = (turn i entry.1).1.world.sessions[i]? ∧
        entry.1.world.sessions[i]? = some session ∧ entry.2 = false) := by
  intro entry final
  have hbefore := Lib.sweep_range_before (fun s : WorldEvent => s.world.sessions[i]?) turn i
    { world := w } hframe
  have hread := Lib.sweep_range_read (fun s : WorldEvent => s.world.sessions[i]?) turn i
    { world := w } hframe w.sessions.length (List.getElem?_eq_some_iff.mp hs).1
  cases hleft : entry.2 with
  | true =>
    rw [if_pos hleft] at hread
    exact .inl ⟨hread.trans hs, rfl⟩
  | false =>
    rw [if_neg (by rw [hleft]; exact Bool.false_ne_true)] at hread
    exact .inr ⟨hread, hbefore.trans hs, rfl⟩

/-- No room in front of room `i` leaves the loop. -/
def ReachesRoom (w : World) (message : Event) (now i : Nat) : Prop :=
  (sweep (worldEventTurn message now) (List.range i) { world := w.locked }).2 = false

/-- What the loop comes to room `i` with. -/
def roomEntry (w : World) (message : Event) (now i : Nat) (session : Session) : EventCtx :=
  let before := (sweep (worldEventTurn message now) (List.range i) { world := w.locked }).1
  ⟨⟨before.world.lock, session, before.plan⟩, before.matched⟩

theorem event_session (w : World) (message : Event) (now i : Nat) (session : Session)
    (hs : w.sessions[i]? = some session) (huse : session.inUse = true)
    (hvalid : session.runningScenarioValid = true) :
    ((stepOp w (.event message now)).2.sessions[i]? = some session ∧
        ¬ ReachesRoom w message now i) ∨
      ((stepOp w (.event message now)).2.sessions[i]? =
          some (roomOnEvent message (scenarioNow now)
            (roomEntry w message now i session)).1.room.session ∧
        ReachesRoom w message now i) := by
  unfold ReachesRoom
  rcases loop_session (worldEventTurn message now) w.locked i session hs
    fun k t hk => worldEventTurn_get_ne message now k i t hk with
    ⟨hpost, hleft⟩ | ⟨hpost, hentry, hleft⟩
  · exact .inl ⟨hpost, by rw [hleft]; exact nofun⟩
  · exact .inr ⟨hpost.trans (worldEventTurn_get_eq message now i _ session hentry huse hvalid), hleft⟩

/-- No room in front of room `i` leaves the loop of a tick. -/
def TickReachesRoom (w : World) (now i : Nat) : Prop :=
  (sweep (worldTickTurn now) (List.range i) { world := w.locked }).2 = false

def tickEntry (w : World) (now i : Nat) (session : Session) : RoomCtx :=
  let before := (sweep (worldTickTurn now) (List.range i) { world := w.locked }).1
  ⟨before.world.lock, session, before.plan⟩

theorem tick_session (w : World) (now i : Nat) (session : Session)
    (hs : w.sessions[i]? = some session) (huse : session.inUse = true)
    (hvalid : session.runningScenarioValid = true) :
    ((stepOp w (.tick now)).2.sessions[i]? = some session ∧ ¬ TickReachesRoom w now i) ∨
      ((stepOp w (.tick now)).2.sessions[i]? =
          some (roomTick (scenarioNow now) (tickEntry w now i session)).1.session ∧
        TickReachesRoom w now i) := by
  unfold TickReachesRoom
  rcases loop_session (worldTickTurn now) w.locked i session hs
    fun k t hk => worldTickTurn_get_ne now k i t hk with
    ⟨hpost, hleft⟩ | ⟨hpost, hentry, hleft⟩
  · exact .inl ⟨hpost, by rw [hleft]; exact nofun⟩
  · exact .inr ⟨hpost.trans (worldTickTurn_get_eq now i _ session hentry huse hvalid), hleft⟩

end SceneHub
