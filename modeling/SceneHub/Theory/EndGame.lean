import SceneHub.Theory.Rest
import SceneHub.Theory.StalePlans

/-!
# The End of a Game

An END_GAME step finishes the session, freezes the clock, and makes its own
branch and the summary DONE. It does not stop the scenario: the other branches
keep their waits and deadlines, and every later transaction looks at them
again. So the game is over for good as long as no other branch is given
something to do, and this file proves that over whole runs.

## Main definitions

* `GameOver`: A session whose END_GAME step has run.
* `Quiet`: A transaction that finds the session's branches at rest.
* `Final`: What must not change once the game is over.

## Theorems

* `roomOnEvent_steady`, `roomTick_steady`: The branch loops over branches at
  rest.
* `event_keeps`, `tick_keeps`: The loops over all rooms.
* `game_over_is_final`: In every run of quiet transactions nothing the game's
  end settled changes, and no plan is made.
* `door_opens_after_the_end`: A run in which another branch plays on.
-/

namespace SceneHub

open Lib (sweep)

variable {s : Session} {t : WorldEvent}

/-- The session's END_GAME step has run in this run of its scenario. -/
def GameOver (s : Session) : Prop :=
  .endedGame ∈ s.run.history ∧ s.run.state = .finished ∧ s.run.timer.state = .finished ∧
  s.run.progress.scenarioState = .done

instance (s : Session) : Decidable (GameOver s) := inferInstanceAs (Decidable (_ ∧ _))

/-- The branches make the overall state `DONE`. -/
def overallDone (branches : List Branch) : Prop :=
  branches ≠ [] → (summaryScan {} branches).isDone = true

/-- The branch a plan names is not there, is inactive, or is done. -/
def planAtRest (s : Session) (plan : CommandPlan) : Prop :=
  plan.roomId = s.roomId → s.runningScenarioValid = true →
    ∀ b, s.branches[plan.branchIndex]? = some b → b.setup.active = true → b.state = .done

/-- Next or approve finds no branch to move on. -/
def nothingChosen (s : Session) (roomId : String) (choose : Session → Option Nat) : Prop :=
  roomId = s.roomId → s.runningScenarioValid = true → choose s = none

/-- A transaction that finds the branches of a session at rest. The last case is
    that of the operations that end a game's end, which have to be for another
    room. -/
def Quiet (r : RoomCtx) : Op → Prop
  | .event message _ => r.session.runningScenarioValid = true →
    if message.isDeviceControlResult then commandResultWaitBranch r.session.branches message = none
    else (∀ b ∈ r.session.branches, eventStirs r message b = false) ∧
      overallDone r.session.branches
  | .tick now => r.session.runningScenarioValid = true →
    (∀ b ∈ r.session.branches,
      tickStirs (r.env b) (scenarioNow now) r.session.run.scenarioFlags b.run = false) ∧
    overallDone r.session.branches ∧
    (tickScratch r.session.branches r.session.run.progress).scenarioState ≠ .error
  | .planNext plan | .planApply plan _ _ _ => planAtRest r.session plan
  | .planFail plan _ => plan.roomId = r.session.roomId → r.session.runningScenarioValid = true →
    r.session.branches[plan.branchIndex]? = none
  | .next roomId _ => nothingChosen r.session roomId nextBranch
  | .nextOnBranch roomId branchId _ =>
    nothingChosen r.session roomId
      (if branchId = "" then nextBranch else fun s => nextBranchById s branchId)
  | .approve roomId _ => nothingChosen r.session roomId approveBranch
  | op => ∃ roomId, op.room = some roomId ∧ r.session.roomId ≠ roomId

/-- What the end of a game settles, besides the overall state. -/
def Session.ending (s : Session) : SessionState × Nat × List Flag :=
  (s.run.state, s.run.finishedAtMs, s.run.scenarioFlags)

/-- Nothing that the end of the game settled has changed. -/
structure Final (s s' : Session) : Prop where
  ident : s'.ident = s.ident
  ending : s'.ending = s.ending
  done : s'.run.progress.scenarioState = .done

/-! ### The summary -/

theorem updateSummary_ending (branches : List Branch) (run : SessionRun) :
    (updateSummary branches run).state = run.state ∧
      (updateSummary branches run).finishedAtMs = run.finishedAtMs ∧
      (updateSummary branches run).scenarioFlags = run.scenarioFlags := by
  unfold updateSummary
  split
  · exact ⟨rfl, rfl, rfl⟩
  split
  · exact ⟨rfl, rfl, rfl⟩
  · exact ⟨rfl, rfl, rfl⟩

/-- The summary of branches that are done together is `DONE`, unless the scratch
    fields hold a failed branch. -/
theorem updateSummary_done (branches : List Branch) (run : SessionRun)
    (hdone : overallDone branches) (herror : run.progress.scenarioState ≠ .error)
    (hnone : branches = [] → run.progress.scenarioState = .done) :
    (updateSummary branches run).progress.scenarioState = .done := by
  unfold updateSummary
  by_cases hempty : branches = []
  · rw [if_pos hempty]
    exact hnone hempty
  · rw [if_neg hempty, if_neg herror]
    simp [hdone hempty]

theorem overallDone_congr {branches branches' : List Branch}
    (h : branches'.map Branch.key = branches.map Branch.key) (hdone : overallDone branches) :
    overallDone branches' := by
  intro hne
  rw [isDone_congr branches' branches h]
  refine hdone ?_
  rintro rfl
  exact hne (List.map_eq_nil_iff.mp h)

theorem put_keys (r : RoomCtx) (j : Nat) (b : Branch) (c : Ctx)
    (hb : r.session.branches[j]? = some b) (hkey : (⟨b.setup, c.branch⟩ : Branch).key = b.key) :
    (r.put j b c).session.branches.map Branch.key = r.session.branches.map Branch.key := by
  rcases List.getElem?_eq_some_iff.mp hb with ⟨hlt, hget⟩
  simp only [RoomCtx.put, List.map_set, hkey]
  rw [← hget, ← List.map_set, List.set_getElem_self]

/-! ### One room -/

/-- What the turns of a loop over branches at rest keep. -/
structure Steady (r r' : RoomCtx) : Prop where
  frame : r'.session.frame = r.session.frame
  plan : r'.plan = r.plan
  ending : r'.session.ending = r.session.ending
  keys : r'.session.branches.map Branch.key = r.session.branches.map Branch.key

theorem Steady.refl (r : RoomCtx) : Steady r r := ⟨rfl, rfl, rfl, rfl⟩

theorem Steady.trans {r r' r'' : RoomCtx} (h : Steady r r') (h' : Steady r' r'') : Steady r r'' :=
  ⟨h'.frame.trans h.frame, h'.plan.trans h.plan, h'.ending.trans h.ending, h'.keys.trans h.keys⟩

theorem Steady.ident {r r' : RoomCtx} (h : Steady r r') : r'.session.ident = r.session.ident := by
  rcases Session.frame_congr h.frame with ⟨huse, hroom, -⟩
  simp only [Session.ident, huse, hroom]

theorem Steady.summary (r : RoomCtx) : Steady r r.updateSummary := by
  rcases updateSummary_ending r.session.branches r.session.run with ⟨hstate, hfinished, hflags⟩
  refine ⟨rfl, rfl, ?_, rfl⟩
  simp only [Session.ending, RoomCtx.updateSummary, RoomCtx.mapRun, hstate, hfinished, hflags]

/-- Writing back a branch of the same key, with what the game's end settled as it
    was, keeps the session steady. -/
theorem Steady.put (r : RoomCtx) (j : Nat) (b : Branch) (c : Ctx)
    (hb : r.session.branches[j]? = some b) (hplan : c.plan = r.plan)
    (hending : (c.session.state, c.session.finishedAtMs, c.session.scenarioFlags) =
      r.session.ending)
    (hkey : (⟨b.setup, c.branch⟩ : Branch).key = b.key) : Steady r (r.put j b c) :=
  ⟨rfl, hplan, hending, put_keys r j b c hb hkey⟩

theorem Steady.rested (r : RoomCtx) (j : Nat) (b : Branch) (c : Ctx)
    (hb : r.session.branches[j]? = some b) (hrest : Rested (r.ctx b) c) :
    Steady r (r.put j b c) := by
  have hending : (c.session.state, c.session.finishedAtMs, c.session.scenarioFlags) =
      r.session.ending := by
    rw [hrest.state, hrest.finishedAtMs, hrest.flags]
    rfl
  have hsame : (⟨b.setup, c.branch⟩ : Branch).state = b.state :=
    congrArg Progress.scenarioState hrest.branch
  refine Steady.put r j b c hb hrest.plan hending ?_
  simp only [Branch.key, hsame]

/-- The scratch fields hold no failed branch, and without branches the summary. -/
def ScratchFine (r : RoomCtx) : Prop :=
  r.session.run.progress.scenarioState ≠ .error ∧
  (r.session.branches = [] → r.session.run.progress.scenarioState = .done)

theorem ScratchFine.of_done {r : RoomCtx} (h : r.session.run.progress.scenarioState = .done) :
    ScratchFine r :=
  ⟨fun herror => ScenarioState.noConfusion (h.symm.trans herror), fun _ => h⟩

theorem ScratchFine.of_branch {r : RoomCtx} {j : Nat} {b : Branch}
    (hb : r.session.branches[j]? = some b)
    (h : r.session.run.progress.scenarioState ≠ .error) : ScratchFine r := by
  refine ⟨h, fun hempty => ?_⟩
  rw [hempty] at hb
  cases hb

theorem eventTurn_steady (message : Event) (nowMs : UInt32) (found : Nat → ReactiveMatch)
    (conflict : Bool) (j : Nat) (s : EventCtx) (hfound : (found j).trigger = false)
    (hwait : ∀ b, s.room.session.branches[j]? = some b →
      branchWaitMatches b.setup b.run message = false) (hfine : ScratchFine s.room) :
    Steady s.room (eventTurn message nowMs found conflict j s).1.room ∧
      ScratchFine (eventTurn message nowMs found conflict j s).1.room := by
  unfold eventTurn
  split
  · exact ⟨Steady.refl _, hfine⟩
  cases hb : s.room.session.branches[j]? with
  | none =>
    rw [RoomCtx.onBranch_none _ _ _ _ hb]
    exact ⟨Steady.refl _, hfine⟩
  | some b =>
    rcases branchOnEvent_rests (s.room.env b) message nowMs (s.room.ctx b) (hwait b hb) with
      ⟨hafter, hrest, hload⟩
    rw [RoomCtx.onBranch_some _ _ _ _ b hb]
    simp only [hfound, hafter]
    refine ⟨Steady.rested s.room j b _ hb hrest, ?_⟩
    have hlt : j < s.room.session.branches.length := (List.getElem?_eq_some_iff.mp hb).1
    refine ScratchFine.of_branch (List.getElem?_set_self hlt) ?_
    -- The scratch fields are the old ones, or those of a branch that waits.
    rcases hload with hkept | ⟨hloaded, hwaiting⟩
    · simp only [RoomCtx.put, hkept]
      exact hfine.1
    · simp only [RoomCtx.put, hloaded, hwaiting]
      intro herror
      cases herror

theorem roomOnEvent_steady (message : Event) (now : Nat) (s : EventCtx)
    (hvalid : s.room.session.runningScenarioValid = true)
    (hquiet : Quiet s.room (.event message now))
    (hover : s.room.session.run.progress.scenarioState = .done) :
    Steady s.room (roomOnEvent message (scenarioNow now) s).1.room ∧
      (roomOnEvent message (scenarioNow now) s).1.room.session.run.progress.scenarioState =
        .done := by
  have hquiet := hquiet hvalid
  cases hresult : message.isDeviceControlResult with
  | true =>
    -- No branch awaits the result.
    rw [if_pos hresult] at hquiet
    unfold roomOnEvent
    simp only [hresult, if_true, hquiet]
    exact ⟨Steady.refl _, hover⟩
  | false =>
    rw [if_neg (by rw [hresult]; exact Bool.false_ne_true)] at hquiet
    rcases hquiet with ⟨hrest, hdone⟩
    have hstirs : ∀ j b, s.room.session.branches[j]? = some b →
        (roomFound s.room message j).trigger = false ∧
          branchWaitMatches b.setup b.run message = false := by
      intro j b hb
      have := hrest b (List.mem_of_getElem? hb)
      simp only [eventStirs, Bool.or_eq_false_iff] at this
      refine ⟨?_, this.2⟩
      simp only [roomFound, hb, Option.map_some, Option.getD_some]
      exact this.1
    have hentry : Steady s.room (eventEntry message s).room := ⟨rfl, rfl, rfl, rfl⟩
    have hscan : ScratchFine (eventEntry message s).room := by
      rcases scanScratch_cases s.room.session.branches s.room.session.run.progress with
        h | ⟨b, hmem, hloads, h⟩
      · exact ScratchFine.of_done ((congrArg Progress.scenarioState h).trans hover)
      -- A branch the scan loads is waiting.
      rcases List.getElem?_of_mem hmem with ⟨j, hb⟩
      simp only [scanLoads, awaitsEvent, Bool.and_eq_true, decide_eq_true_iff] at hloads
      have hwaiting := (congrArg Progress.scenarioState h).trans hloads.2.1.2
      refine ScratchFine.of_branch (r := (eventEntry message s).room) hb fun herror => ?_
      exact ScenarioState.noConfusion (hwaiting.symm.trans herror)
    -- The branches ahead are as the loop found them.
    rcases Lib.sweep_inv_rest
      (fun rest t => Lib.Ahead (fun k (t : EventCtx) => t.room.session.branches[k]?)
          (eventEntry message s) rest t ∧
        Steady s.room t.room ∧ ScratchFine t.room)
      (roomEventTurn s.room message (scenarioNow now))
      (List.range s.room.session.branches.length) (eventEntry message s)
      (fun j rest t ⟨hahead, hsteady, hfine⟩ => by
        have hframe := fun k (hne : j ≠ k) => congrArg Prod.snd
          (eventTurn_place_ne message (scenarioNow now) (roomFound s.room message)
            (roomConflict s.room message) j k t hne)
        have hturn : (roomFound s.room message j).trigger = false ∧
            ∀ b, t.room.session.branches[j]? = some b →
              branchWaitMatches b.setup b.run message = false := by
          have hhead : t.room.session.branches[j]? = s.room.session.branches[j]? := hahead.head
          refine ⟨?_, fun b hb => (hstirs j b (hhead ▸ hb)).2⟩
          cases hb : s.room.session.branches[j]? with
          | none => simp only [roomFound, hb, Option.map_none, Option.getD_none]
          | some b => exact (hstirs j b hb).1
        rcases eventTurn_steady message (scenarioNow now) (roomFound s.room message)
          (roomConflict s.room message) j t hturn.1 hturn.2 hfine with ⟨hnext, hfine'⟩
        exact ⟨hahead.turn _ hframe, hsteady.trans hnext, hfine'⟩)
      ⟨Lib.Ahead.start _ _ List.nodup_range, hentry, hscan⟩ with
      ⟨rest, ⟨-, hsteady, hfine⟩, -⟩
    rw [roomOnEvent_eq message (scenarioNow now) s hresult]
    refine ⟨hsteady.trans (Steady.summary _), ?_⟩
    exact updateSummary_done _ _ (overallDone_congr hsteady.keys hdone) hfine.1 hfine.2

theorem tickTurn_steady (nowMs : UInt32) (j : Nat) (r : RoomCtx) (hplan : r.plan = none)
    (hrest : ∀ b, r.session.branches[j]? = some b →
      tickStirs (r.env b) nowMs r.session.run.scenarioFlags b.run = false) :
    Steady r (tickTurn nowMs j r).1 ∧ (tickTurn nowMs j r).2 = false ∧
      (tickTurn nowMs j r).1.session.run.progress =
        (r.session.branches[j]?).elim r.session.run.progress
          fun b => if tickLoads b then b.run.progress else r.session.run.progress := by
  unfold tickTurn
  cases hb : r.session.branches[j]? with
  | none =>
    rw [RoomCtx.onBranch_none _ _ _ _ hb]
    exact ⟨Steady.refl _, rfl, rfl⟩
  | some b =>
    rw [RoomCtx.onBranch_some _ _ _ _ b hb]
    have hturn := processBranch_rests (r.env b) nowMs (r.ctx b) (hrest b hb)
    simp only [hturn, Option.elim_some]
    have hactive : (r.env b).setup.active = b.setup.active := rfl
    have hstate : (r.ctx b).branch.progress.scenarioState = b.state := rfl
    unfold restTurn tickLoads
    simp only [hactive, hstate]
    cases b.setup.active with
    | false => exact ⟨Steady.rested r j b _ hb ⟨rfl, rfl, rfl, rfl, rfl⟩, rfl, rfl⟩
    | true =>
      simp only [Bool.not_true, Bool.false_eq_true, if_false, Bool.true_and, ne_eq,
        decide_not, Bool.not_eq_true', decide_eq_false_iff_not]
      by_cases hcool : b.state = .cooldown
      · simp only [hcool, if_true, not_true_eq_false, if_false]
        split
        · -- The branch listens again, which its key does not tell.
          refine ⟨Steady.put r j b _ hb rfl rfl ?_, rfl, rfl⟩
          simp only [Branch.key, hcool, if_true]
          rfl
        · exact ⟨Steady.rested r j b _ hb ⟨rfl, rfl, rfl, rfl, rfl⟩, rfl, rfl⟩
      · simp only [hcool, if_false, not_false_eq_true, if_true]
        have hnone : (r.ctx b).plan.isSome = false := by
          simp [RoomCtx.ctx, hplan]
        exact ⟨Steady.rested r j b _ hb ⟨rfl, rfl, rfl, rfl, rfl⟩, hnone, rfl⟩

/-- What a turn of the tick at branch `j` makes of the scratch fields. -/
def loadAt (branches : List Branch) (p : Progress) (j : Nat) : Progress :=
  (branches[j]?).elim p fun b => if tickLoads b then b.run.progress else p

/-- In the tick's loop over branches at rest: the branches ahead are as the loop
    found them, and loading those will give the scratch fields foretold. -/
structure TickAtRest (r : RoomCtx) (rest : List Nat) (t : RoomCtx) : Prop where
  ahead : Lib.Ahead (fun k (t : RoomCtx) => t.session.branches[k]?) r rest t
  steady : Steady r t
  scratch : rest.foldl (loadAt r.session.branches) t.session.run.progress =
    tickScratch r.session.branches r.session.run.progress

theorem TickAtRest.start (r : RoomCtx) : TickAtRest r (List.range r.session.branches.length) r :=
  ⟨Lib.Ahead.start _ _ List.nodup_range, Steady.refl r,
    Lib.foldl_range_get (fun p b => if tickLoads b then b.run.progress else p) _ _⟩

theorem TickAtRest.turn {now : Nat} {r t : RoomCtx} {j : Nat} {rest : List Nat}
    (hplan : r.plan = none) (hrest : ∀ b ∈ r.session.branches,
      tickStirs (r.env b) (scenarioNow now) r.session.run.scenarioFlags b.run = false)
    (h : TickAtRest r (j :: rest) t) : TickAtRest r rest (tickTurn (scenarioNow now) j t).1 ∧
      (tickTurn (scenarioNow now) j t).2 = false := by
  have hhead : t.session.branches[j]? = r.session.branches[j]? := h.ahead.head
  have hflags : t.session.run.scenarioFlags = r.session.run.scenarioFlags :=
    congrArg (fun x => x.2.2) h.steady.ending
  have hstirs : ∀ b, t.session.branches[j]? = some b →
      tickStirs (t.env b) (scenarioNow now) t.session.run.scenarioFlags b.run = false := by
    intro b hb
    rw [RoomCtx.env_congr b h.steady.frame, hflags]
    exact hrest b (List.mem_of_getElem? (hhead ▸ hb))
  rcases tickTurn_steady (scenarioNow now) j t (h.steady.plan.trans hplan) hstirs with
    ⟨hnext, hon, hscratch⟩
  have hframe := fun k (hne : j ≠ k) => congrArg Prod.snd
    (tickTurn_place_ne (scenarioNow now) j k t hne)
  refine ⟨⟨h.ahead.turn _ hframe, h.steady.trans hnext, ?_⟩, hon⟩
  rw [hscratch, hhead, ← h.scratch]
  rfl

theorem roomTick_steady (now : Nat) (r : RoomCtx) (hplan : r.plan = none)
    (hvalid : r.session.runningScenarioValid = true) (hquiet : Quiet r (.tick now))
    (hover : r.session.run.progress.scenarioState = .done) :
    Steady r (roomTick (scenarioNow now) r).1 ∧
      (roomTick (scenarioNow now) r).1.session.run.progress.scenarioState = .done := by
  rcases hquiet hvalid with ⟨hrest, hdone, herror⟩
  unfold roomTick
  by_cases hne : r.session.branches = []
  · rw [if_pos hne]
    exact ⟨Steady.refl _, hover⟩
  rw [if_neg hne]
  have hon := Lib.sweep_not_left (TickAtRest r) (tickTurn (scenarioNow now)) _ r
    (fun _ _ _ h => h.turn hplan hrest) (TickAtRest.start r)
  rcases Lib.sweep_inv_rest (TickAtRest r) (tickTurn (scenarioNow now)) _ r
    (fun _ _ _ h => (h.turn hplan hrest).1) (TickAtRest.start r) with ⟨rest, hloop, hend⟩
  have hscratch := hloop.scratch
  rw [hend hon, List.foldl_nil] at hscratch
  refine ⟨hloop.steady.trans (Steady.summary _), ?_⟩
  refine updateSummary_done _ _ (overallDone_congr hloop.steady.keys hdone) ?_ fun hempty => ?_
  · rw [hscratch]
    exact herror
  have hkeys := hloop.steady.keys
  rw [hempty] at hkeys
  exact absurd (List.map_eq_nil_iff.mp hkeys.symm) hne

/-! ### All rooms -/

/-- What the room loops keep about the session at `i`, and about the plan they
    carry. -/
structure LoopKeeps (s : Session) (i : Nat) (t : WorldEvent) : Prop where
  distinct : RoomsDistinct t.world
  session : ∃ s', t.world.sessions[i]? = some s' ∧ Final s s'
  plan : ∀ p, t.plan = some p → p.roomId ≠ s.roomId

theorem LoopKeeps.other {i k : Nat} (h : LoopKeeps s i t) (huse : s.inUse = true) (hik : k ≠ i)
    {session : Session} (hs : t.world.sessions[k]? = some session) (huse' : session.inUse = true) :
    session.roomId ≠ s.roomId := by
  intro hsame
  rcases h.session with ⟨s', hs', hfinal⟩
  have hident := hfinal.ident
  simp only [Session.ident, Prod.mk.injEq] at hident
  exact hik (h.distinct k i session s' hs hs' huse' (hident.1.trans huse)
    (hsame.trans hident.2.symm))

theorem ownPlans_event (r : RoomCtx) (j : Nat) (call : BranchCall)
    (hcall : ∀ plan dispatch hasMore nowMs, call ≠ .apply plan dispatch hasMore nowMs) :
    OwnPlans r j call := fun _ _ _ _ heq => absurd heq (hcall _ _ _ _)

theorem worldEventTurn_keeps (message : Event) (now : Nat) {i k : Nat} (huse : s.inUse = true)
    (hik : k ≠ i) (h : LoopKeeps s i t) : LoopKeeps s i (worldEventTurn message now k t).1 := by
  have hcond : ∀ session, t.world.sessions[k]? = some session →
      RoomEventCond OwnPlans message (scenarioNow now)
        ⟨⟨t.world.lock, session, t.plan⟩, t.matched⟩ :=
    fun _ _ => roomEventCond_of ownPlans_event _ _ _
  refine ⟨(WorldMoves.worldEventTurn t .refl message now k hcond).preserves RoomsDistinct
    (fun _ _ => worldStep_distinct) h.distinct, ?_, ?_⟩
  · rw [worldEventTurn_get_ne message now k i t hik]
    exact h.session
  unfold worldEventTurn
  split
  · exact h.plan
  · next session hs =>
      split
      · exact h.plan
      · next hon =>
          have huse' : session.inUse = true := by
            simp only [Bool.not_eq_true, not_or, Bool.not_eq_false'] at hon
            simpa using hon.1
          exact roomMoves_plan (K := fun id => id ≠ s.roomId)
            (LoopMoves.roomOnEvent _ .refl message (scenarioNow now) (hcond session hs)).rooms
            (h.other huse hik hs huse') h.plan

theorem processBranch_on (e : Env) (nowMs : UInt32) (c : Ctx) (hplan : c.plan = none)
    (hon : (processBranch e nowMs c).2 = false) : (processBranch e nowMs c).1.plan = none := by
  have hprepared : (prepareBranch e nowMs c).2.plan = none := by
    unfold prepareBranch
    split
    · exact hplan
    split
    · exact hplan
    split
    · exact hplan
    · exact hplan
  unfold processBranch at hon ⊢
  split
  · next c₁ hout =>
      rw [hout] at hprepared
      exact hprepared
  · next c₁ hout =>
      rw [hout] at hon
      simp only at hon
      split
      · next c₂ hhandled =>
          rw [hhandled] at hon
          exact Option.isSome_eq_false_iff.mp hon |> Option.isNone_iff_eq_none.mp
      · next c₂ hready =>
          rw [hready] at hon
          simp only at hon
          split
          · next hsome =>
              rw [if_pos hsome] at hon
              cases hon
          · next hnone =>
              rw [if_neg hnone] at hon
              exact Option.isSome_eq_false_iff.mp hon |> Option.isNone_iff_eq_none.mp

theorem roomTick_on (nowMs : UInt32) (r : RoomCtx) (hplan : r.plan = none)
    (hon : (roomTick nowMs r).2 = false) : (roomTick nowMs r).1.plan = none := by
  unfold roomTick at hon ⊢
  split
  · exact hplan
  · next hne =>
      rw [if_neg hne] at hon
      refine Lib.sweep_inv_on (fun t : RoomCtx => t.plan = none) _ _ r (fun j _ t ht hturn => ?_)
        hplan hon
      unfold tickTurn at hturn ⊢
      cases hb : t.session.branches[j]? with
      | none =>
        rw [RoomCtx.onBranch_none _ _ _ _ hb]
        exact ht
      | some b =>
        rw [RoomCtx.onBranch_some _ _ _ _ b hb] at hturn ⊢
        exact processBranch_on (t.env b) nowMs (t.ctx b) ht hturn

theorem tick_reaches_plan (w : World) (now i : Nat)
    (hon : (sweep (worldTickTurn now) (List.range i) { world := w }).2 = false) :
    (sweep (worldTickTurn now) (List.range i) { world := w }).1.plan = none := by
  refine Lib.sweep_inv_on (fun t : WorldEvent => t.plan = none) _ _ _ (fun k _ t ht hturn => ?_)
    rfl hon
  unfold worldTickTurn at hturn ⊢
  split
  · exact ht
  · next session hs =>
      split
      · exact ht
      · next hgo =>
          rw [hs] at hturn
          simp only [if_neg hgo] at hturn
          exact roomTick_on (scenarioNow now) ⟨t.world.lock, session, t.plan⟩ ht hturn

theorem worldTickTurn_keeps (now : Nat) {i k : Nat} (huse : s.inUse = true) (hik : k ≠ i)
    (h : LoopKeeps s i t) : LoopKeeps s i (worldTickTurn now k t).1 := by
  have hcond : ∀ session, t.world.sessions[k]? = some session →
      Lib.Along (fun j r => OwnPlans r j (.tick (scenarioNow now))) (tickTurn (scenarioNow now))
        (List.range session.branches.length) ⟨t.world.lock, session, t.plan⟩ :=
    fun _ _ => Lib.along_of_forall _ _ _ _ fun _ _ _ =>
      ownPlans_event _ _ _ nofun
  refine ⟨(WorldMoves.worldTickTurn t .refl now k hcond).preserves RoomsDistinct
    (fun _ _ => worldStep_distinct) h.distinct, ?_, ?_⟩
  · rw [worldTickTurn_get_ne now k i t hik]
    exact h.session
  unfold worldTickTurn
  split
  · exact h.plan
  · next session hs =>
      split
      · exact h.plan
      · next hon =>
          have huse' : session.inUse = true := by
            simp only [Bool.not_eq_true, not_or, Bool.not_eq_false'] at hon
            simpa using hon.1
          exact roomMoves_plan (K := fun id => id ≠ s.roomId)
            (LoopMoves.roomTick .refl (scenarioNow now) (hcond session hs)).rooms
            (h.other huse hik hs huse') h.plan

theorem Final.of_steady {r r' : RoomCtx} (h : Steady r r')
    (hdone : r'.session.run.progress.scenarioState = .done) : Final r.session r'.session :=
  ⟨h.ident, h.ending, hdone⟩

theorem loop_final (turn : Nat → WorldEvent → WorldEvent × Bool) (w : World) (i : Nat)
    (s : Session) (hdistinct : RoomsDistinct w) (hs : w.sessions[i]? = some s)
    (hover : s.run.progress.scenarioState = .done)
    (hother : ∀ k t, k ≠ i → LoopKeeps s i t → LoopKeeps s i (turn k t).1)
    (hframe : ∀ k t, k ≠ i → (turn k t).1.world.sessions[i]? = t.world.sessions[i]?)
    (hown : ∀ t, (sweep turn (List.range i) { world := w }) = (t, false) →
      t.world.sessions[i]? = some s → LoopKeeps s i t → LoopKeeps s i (turn i t).1) :
    LoopKeeps s i (sweep turn (List.range w.sessions.length) { world := w }).1 := by
  have hlt : i < w.sessions.length := (List.getElem?_eq_some_iff.mp hs).1
  have hstart : LoopKeeps s i { world := w } :=
    ⟨hdistinct, ⟨s, hs, rfl, rfl, hover⟩, nofun⟩
  have hbefore := Lib.sweep_range_before (fun t : WorldEvent => t.world.sessions[i]?) turn i
    { world := w } fun k t hk => hframe k t hk
  rw [Lib.range_split _ i hlt]
  refine Lib.sweep_inv_at (LoopKeeps s i) turn _ _ i _ ?_ ?_ ?_ hstart
  · exact fun k hk t ht => hother k t (Nat.ne_of_lt (List.mem_range.mp hk)) ht
  · exact fun hon hkeeps => hown _ (Prod.ext rfl hon) (hbefore.trans hs) hkeeps
  intro k hk t ht
  have hlt := (List.mem_range'_1.mp hk).1
  exact hother k t (by omega) ht

theorem LoopKeeps.own {i : Nat} {r : RoomCtx} (h : LoopKeeps s i t)
    (hs : t.world.sessions[i]? = some s) (hsteady : Steady ⟨t.world.lock, s, t.plan⟩ r)
    (hdone : r.session.run.progress.scenarioState = .done) (matched : Bool) :
    LoopKeeps s i ⟨t.world.put i r, r.plan, matched⟩ := by
  have hlt : i < t.world.sessions.length := (List.getElem?_eq_some_iff.mp hs).1
  refine ⟨?_, ⟨r.session, List.getElem?_set_self hlt, Final.of_steady hsteady hdone⟩, ?_⟩
  · refine roomsDistinct_of_ident h.distinct fun k s' hs' _ => ?_
    by_cases hik : i = k
    · subst hik
      simp only [World.put, List.getElem?_set_self hlt, Option.some.injEq] at hs'
      exact ⟨s, hs, by rw [← hs', hsteady.ident]⟩
    · simp only [World.put, List.getElem?_set_ne hik] at hs'
      exact ⟨s', hs', rfl⟩
  · intro p hp
    rw [hsteady.plan] at hp
    exact h.plan p hp

/-- An event that finds the branches of a session at rest keeps its game over. -/
theorem event_keeps (w : World) (message : Event) (now i : Nat) (s : Session)
    (hdistinct : RoomsDistinct w) (hs : w.sessions[i]? = some s) (huse : s.inUse = true)
    (hover : s.run.progress.scenarioState = .done)
    (hquiet : Quiet (w.roomCtx s) (.event message now)) :
    LoopKeeps s i (sweep (worldEventTurn message now) (List.range w.sessions.length)
      { world := w }).1 := by
  refine loop_final _ w i s hdistinct hs hover
    (fun k t hik h => worldEventTurn_keeps message now huse hik h)
    (fun k t hik => worldEventTurn_get_ne message now k i t hik) fun t _ ht h => ?_
  unfold worldEventTurn
  simp only [ht, huse, Bool.not_true, Bool.false_eq_true, false_or, Bool.not_eq_true']
  cases hvalid : s.runningScenarioValid with
  | false => exact h
  | true =>
    rcases roomOnEvent_steady message now ⟨⟨t.world.lock, s, t.plan⟩, t.matched⟩ hvalid hquiet
      hover with ⟨hsteady, hdone⟩
    exact h.own ht hsteady hdone _

theorem tick_keeps (w : World) (now i : Nat) (s : Session) (hdistinct : RoomsDistinct w)
    (hs : w.sessions[i]? = some s) (huse : s.inUse = true)
    (hover : s.run.progress.scenarioState = .done) (hquiet : Quiet (w.roomCtx s) (.tick now)) :
    LoopKeeps s i (sweep (worldTickTurn now) (List.range w.sessions.length)
      { world := w }).1 := by
  refine loop_final _ w i s hdistinct hs hover
    (fun k t hik h => worldTickTurn_keeps now huse hik h)
    (fun k t hik => worldTickTurn_get_ne now k i t hik) fun t hreach ht h => ?_
  unfold worldTickTurn
  simp only [ht, huse, Bool.not_true, Bool.false_eq_true, false_or, Bool.not_eq_true']
  cases hvalid : s.runningScenarioValid with
  | false => exact h
  | true =>
    have hplan := tick_reaches_plan w now i (congrArg Prod.snd hreach)
    rw [congrArg Prod.fst hreach] at hplan
    rcases roomTick_steady now ⟨t.world.lock, s, t.plan⟩ hplan hvalid hquiet hover with
      ⟨hsteady, hdone⟩
    exact h.own ht hsteady hdone _

/-! ### The operator and the dispatcher -/

/-- What an operation on a room makes of a session whose game is over. -/
structure OpKeeps (r : RoomCtx) (r' : RoomCtx) : Prop where
  final : Final r.session r'.session
  plan : r'.plan = none

theorem OpKeeps.refl {w : World} (hover : s.run.progress.scenarioState = .done) :
    OpKeeps (w.roomCtx s) (w.roomCtx s) := ⟨⟨rfl, rfl, hover⟩, rfl⟩

theorem OpKeeps.load {w : World} {s : Session} {j : Nat} {b : Branch} {c : Ctx}
    (hdone : b.state = .done) (hc : c.session = { s.run with progress := b.run.progress })
    (hplan : c.plan = none) : OpKeeps (w.roomCtx s) ((w.roomCtx s).put j b c) := by
  refine ⟨⟨rfl, ?_, ?_⟩, hplan⟩
  · simp only [Session.ending, RoomCtx.put, World.roomCtx, hc]
  · simp only [RoomCtx.put, hc]
    exact hdone

theorem planFits_of_done (plan : CommandPlan) (b : Branch) (hdone : b.state = .done) :
    planFits plan b.run = false := by
  have hstate : b.run.progress.scenarioState = .done := hdone
  simp [planFits, waitingForDispatch, hstate]

section

variable (w : World) (s : Session) (plan : CommandPlan)

/-- A branch that is over fits no plan. -/
theorem planMatches_over {b : Branch} {j : Nat} (hover : s.run.progress.scenarioState = .done)
    (hdone : b.setup.active = true → b.state = .done) :
    ∃ c, planMatches ((w.roomCtx s).env b) plan ((w.roomCtx s).ctx b) = (false, c) ∧
      { c with plan := none } = c ∧ OpKeeps (w.roomCtx s) ((w.roomCtx s).put j b c) := by
  rw [planMatches_eq]
  cases hactive : b.setup.active with
  | false =>
    simp only [RoomCtx.env, hactive, Bool.false_eq_true, if_false]
    exact ⟨_, rfl, rfl, ⟨rfl, rfl, hover⟩, rfl⟩
  | true =>
    have hfits := planFits_of_done plan b (hdone hactive)
    simp only [RoomCtx.env, RoomCtx.ctx, hactive, if_true, hfits]
    exact ⟨_, rfl, rfl, OpKeeps.load (hdone hactive) rfl rfl⟩

theorem roomNextCommand_keeps
    (hroom : plan.roomId = s.roomId) (hover : s.run.progress.scenarioState = .done)
    (hrest : planAtRest s plan) : OpKeeps (w.roomCtx s) (roomNextCommand plan (w.roomCtx s)).2 := by
  unfold roomNextCommand
  split
  · exact OpKeeps.refl hover
  next hvalid =>
  rw [Bool.not_eq_true, Bool.not_eq_false'] at hvalid
  cases hb : s.branches[plan.branchIndex]? with
  | none =>
    rw [RoomCtx.onBranch_none _ _ _ _ hb]
    exact OpKeeps.refl hover
  | some b =>
    rw [RoomCtx.onBranch_some _ _ _ _ b hb]
    obtain ⟨c, hno, -, hkeeps⟩ := planMatches_over w s plan hover (hrest hroom hvalid b hb)
    simp only [nextCommand, hno]
    exact hkeeps

theorem roomApplyDispatch_keeps
    (dispatch : DispatchResult) (hasMore : Bool) (nowMs : UInt32) (hroom : plan.roomId = s.roomId)
    (hover : s.run.progress.scenarioState = .done) (hrest : planAtRest s plan) :
    OpKeeps (w.roomCtx s) (roomApplyDispatch plan dispatch hasMore nowMs (w.roomCtx s)).2 := by
  unfold roomApplyDispatch
  split
  · exact OpKeeps.refl hover
  next hvalid =>
  rw [Bool.not_eq_true, Bool.not_eq_false'] at hvalid
  cases hb : s.branches[plan.branchIndex]? with
  | none =>
    simp only [RoomCtx.onBranch_none (w.roomCtx s) _ _ _ hb, Bool.false_eq_true, if_false]
    exact OpKeeps.refl hover
  | some b =>
    obtain ⟨c, hno, hplan, hkeeps⟩ := planMatches_over w s plan hover (hrest hroom hvalid b hb)
    simp only [RoomCtx.onBranch_some (w.roomCtx s) _ _ _ b hb, applyDispatch, hno, hplan]
    exact hkeeps

theorem roomFailPlan_keeps (errorCode : String) (hover : s.run.progress.scenarioState = .done)
    (habsent : s.runningScenarioValid = true → s.branches[plan.branchIndex]? = none) :
    OpKeeps (w.roomCtx s) (roomFailPlan plan errorCode (w.roomCtx s)) := by
  unfold roomFailPlan
  split
  · exact OpKeeps.refl hover
  next hvalid =>
  rw [Bool.not_eq_true, Bool.not_eq_false'] at hvalid
  simp only [RoomCtx.onBranch_none (w.roomCtx s) _ _ _ (habsent hvalid), Bool.false_eq_true,
    if_false]
  exact OpKeeps.refl hover

end

theorem roomAdvanceChosen_keeps (w : World) (s : Session) (choose : Session → Option Nat)
    (now : Nat) (hover : s.run.progress.scenarioState = .done)
    (hnone : s.runningScenarioValid = true → choose s = none) :
    OpKeeps (w.roomCtx s) (roomAdvanceChosen choose now (w.roomCtx s)).2 := by
  unfold roomAdvanceChosen
  split
  · exact OpKeeps.refl hover
  next hvalid =>
  rw [Bool.not_eq_true, Bool.not_eq_false'] at hvalid
  simp only [World.roomCtx, hnone hvalid]
  exact OpKeeps.refl hover

/-! ### Runs -/

/-- The transaction finds the branches of the session at `i` at rest. -/
def QuietAt (i : Nat) (w : World) (op : Op) : Prop :=
  ∀ s, w.sessions[i]? = some s → Quiet (w.roomCtx s) op

/-- What a transaction keeps of a session whose game is over: it makes no plan
    for it and changes nothing that is settled. -/
def StaysOver (i : Nat) (s : Session) (w : World) (op : Op) : Prop :=
  (∀ p, planMade w op = some p → p.roomId ≠ s.roomId) ∧
  ∃ s', (stepOp w op).2.sessions[i]? = some s' ∧ Final s s'

theorem stepOp_distinct {w : World} (op : Op) (h : RoomsDistinct w) :
    RoomsDistinct (stepOp w op).2 :=
  (stepOp_moves w op (callsMeet_trivial w.locked op)).preserves RoomsDistinct
    (fun _ _ => worldStep_distinct) h

theorem onRoom_keeps {α : Type} (w : World) (hdistinct : RoomsDistinct w) (absent : α)
    (f : RoomCtx → α × RoomCtx) (i : Nat) (s : Session) (hs : w.sessions[i]? = some s)
    (huse : s.inUse = true) (hover : s.run.progress.scenarioState = .done)
    (hf : OpKeeps (w.roomCtx s) (f (w.roomCtx s)).2) : (w.onRoom s.roomId absent f).1.2 = none ∧
      ∃ s', (w.onRoom s.roomId absent f).2.sessions[i]? = some s' ∧ Final s s' := by
  have hlt : i < w.sessions.length := (List.getElem?_eq_some_iff.mp hs).1
  rcases onRoom_own w hdistinct absent f i s hs huse with h | h
  · rw [h]
    exact ⟨rfl, s, hs, rfl, rfl, hover⟩
  · rw [h]
    exact ⟨hf.plan, _, List.getElem?_set_self hlt, hf.final⟩

theorem stepOp_staysOver (w : World) (hdistinct : RoomsDistinct w) (op : Op) (i : Nat)
    (s : Session) (hs : w.sessions[i]? = some s) (huse : s.inUse = true)
    (hover : s.run.progress.scenarioState = .done) (hquiet : Quiet (w.roomCtx s) op) :
    StaysOver i s w op := by
  have hother : ∀ roomId, op.room = some roomId → s.roomId ≠ roomId → StaysOver i s w op := by
    intro roomId hroom hne
    rcases stepOp_other w op roomId hroom i s hs huse hne with ⟨hsame, hplan⟩
    exact ⟨fun p hp heq => hne (heq.symm.trans (hplan p hp)), s, hsame, rfl, rfl, hover⟩
  have hnone : ∀ {o : Option CommandPlan}, o = none →
      ∀ p, o = some p → p.roomId ≠ s.roomId := by
    intro o ho p hp
    rw [ho] at hp
    cases hp
  cases op with
  | event message now =>
    have h := event_keeps w.locked message now i s hdistinct hs huse hover hquiet
    exact ⟨h.plan, h.session⟩
  | tick now =>
    have h := tick_keeps w.locked now i s hdistinct hs huse hover hquiet
    exact ⟨h.plan, h.session⟩
  | planNext plan =>
    by_cases hroom : plan.roomId = s.roomId
    · have h := (onRoom_keeps w.locked hdistinct (.error .notFound) (roomNextCommand plan) i s hs
        huse hover (roomNextCommand_keeps w.locked s plan hroom hover hquiet)).2
      rw [← hroom] at h
      refine ⟨hnone rfl, ?_⟩
      unfold stepOp opBody
      simp only
      split
      · exact h
      · exact h
    · exact hother plan.roomId rfl (Ne.symm hroom)
  | planApply plan dispatch hasMore now =>
    by_cases hroom : plan.roomId = s.roomId
    · have h := onRoom_keeps w.locked hdistinct EspErr.ok
        (roomApplyDispatch plan dispatch hasMore (scenarioNow now)) i s hs huse hover
        (roomApplyDispatch_keeps w.locked s plan dispatch hasMore _ hroom hover hquiet)
      rw [← hroom] at h
      exact ⟨hnone h.1, h.2⟩
    · exact hother plan.roomId rfl (Ne.symm hroom)
  | planFail plan errorCode =>
    by_cases hroom : plan.roomId = s.roomId
    · have h := onRoom_keeps w.locked hdistinct ()
        (fun r => ((), roomFailPlan plan errorCode r)) i s hs huse hover
        (roomFailPlan_keeps w.locked s plan errorCode hover (hquiet hroom))
      rw [← hroom] at h
      exact ⟨hnone rfl, h.2⟩
    · exact hother plan.roomId rfl (Ne.symm hroom)
  | next roomId now | nextOnBranch roomId branchId now | approve roomId now =>
    by_cases hroom : roomId = s.roomId
    · have h := onRoom_keeps w.locked hdistinct .notFound (roomAdvanceChosen _ now) i s hs huse
        hover (roomAdvanceChosen_keeps w.locked s _ now hover (hquiet hroom))
      rw [← hroom] at h
      exact ⟨hnone h.1, h.2⟩
    · exact hother roomId rfl (Ne.symm hroom)
  | resetAll =>
    rcases hquiet with ⟨roomId, hroom, -⟩
    cases hroom
  | _ =>
    rcases hquiet with ⟨roomId, hroom, hne⟩
    exact hother roomId hroom hne

/-- The end of a game is final in every run of quiet transactions: none of them
    makes a plan for the session, and each leaves the session's state, its
    finishing time, its flags and the overall state as they are. -/
theorem game_over_is_final (rooms : Nat) (entropy : List UInt32) (before after : List Op) (i : Nat)
    (s : Session) (hs : (runOps (World.boot rooms entropy) before).sessions[i]? = some s)
    (huse : s.inUse = true) (hover : GameOver s)
    (hquiet : EachStep (QuietAt i) (runOps (World.boot rooms entropy) before) after) :
    EachStep (StaysOver i s) (runOps (World.boot rooms entropy) before) after := by
  -- Every state reached has a session at `i` that differs in nothing settled.
  refine (eachStep_of_inv (C := QuietAt i)
    (fun w => RoomsDistinct w ∧ ∃ s', w.sessions[i]? = some s' ∧ Final s s') ?_ _
    ⟨runOps_distinct rooms entropy before, s, hs, rfl, rfl, hover.2.2.2⟩ after hquiet).1
  rintro w op ⟨hdistinct, s₁, hs₁, hfinal⟩ hstep
  have hident := hfinal.ident
  simp only [Session.ident, Prod.mk.injEq] at hident
  rcases stepOp_staysOver w hdistinct op i s₁ hs₁ (hident.1.trans huse) hfinal.done
    (hstep s₁ hs₁) with ⟨hplan, s₂, hs₂, hnext⟩
  have hfinal₂ : Final s s₂ :=
    ⟨hnext.ident.trans hfinal.ident, hnext.ending.trans hfinal.ending, hnext.done⟩
  rw [hident.2] at hplan
  exact ⟨⟨hplan, s₂, hs₂, hfinal₂⟩, stepOp_distinct op hdistinct, s₂, hs₂, hfinal₂⟩

/-! ### A game that goes on -/

/-- One branch ends the game; another waits for the button and opens the door. -/
def endGameScenario : RoomScenario :=
  { id := "end"
    roomId := "r"
    steps := [{ body := .endGame }, waitForButton, openDoor]
    branches :=
      [{ id := "main", requiredForCompletion := true, stepStartIndex := 0, stepCount := 1 },
        { id := "door", stepStartIndex := 1, stepCount := 2 }] }

def endGamePrepared : PreparedScenario :=
  { eventRefs := [{ waitMatch := buttonMatch }]
    stepWaits := [⟨false, []⟩, ⟨true, [0]⟩, ⟨false, []⟩] }

/-- The game is over as soon as the scenario is started. -/
def endGameRun : List Op :=
  [.start "r" 1000 5, .scenarioStart "r" endGameScenario endGamePrepared 0 none 10]

def endGameSession : Session :=
  ((runOps (World.boot 1) endGameRun).sessions[0]?).getD {}

theorem endGameSession_quiet :
    (runOps (World.boot 1) endGameRun).sessions[0]? = some endGameSession ∧
      Quiet ((runOps (World.boot 1) endGameRun).roomCtx endGameSession) (.tick 50) :=
  ⟨by decide +kernel, fun _ => ⟨by decide +kernel, fun _ => by decide +kernel, by decide +kernel⟩⟩

theorem endGameSession_eq :
    (runOps (World.boot 1) endGameRun).sessions[0]? = some endGameSession := endGameSession_quiet.1

theorem endGameRun_quiet : EachStep (QuietAt 0) (runOps (World.boot 1) endGameRun) [.tick 50] := by
  refine ⟨fun s hs => ?_, trivial⟩
  cases Option.some.inj (endGameSession_eq.symm.trans hs)
  exact endGameSession_quiet.2

/-- A tick finds the second branch waiting and changes nothing. -/
theorem game_over_is_final_tick :
    EachStep (StaysOver 0 endGameSession) (runOps (World.boot 1) endGameRun) [.tick 50] :=
  game_over_is_final 1 [] endGameRun [.tick 50] 0 endGameSession endGameSession_eq
    (by decide +kernel) (by decide +kernel) endGameRun_quiet

/-- The button still opens the door when the game is over. -/
theorem door_opens_after_the_end : GameOver endGameSession ∧
      (planMade (runOps (World.boot 1) endGameRun) (.event buttonEvent 60)).map
        CommandPlan.roomId = some "r" := by
  decide +kernel

end SceneHub
