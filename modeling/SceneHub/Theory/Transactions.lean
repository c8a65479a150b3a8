import SceneHub.Theory.Frames

/-!
# Transactions as Chains

Every transaction on the sessions is a chain of a few kinds of steps: a branch
function called on one branch of one session, the recomputation of a summary,
a change of session fields that are not about waits, and, at its start and its
end, taking and releasing the lock. An invariant of all runs therefore only has
to be checked against these steps, which is what the later files do.

A chain can carry a condition on the branch calls it makes. A transaction
whose calls all start in states that meet the condition is a chain under that
condition; with the trivial condition, every transaction is a chain.

## Main definitions

* `BranchCall`: The branch functions that transactions call.
* `RoomStep`, `RoomMoves`: A step on one session, and chains.
* `WorldStep`, `WorldMoves`: A step on the table of rooms, and chains.

## Theorems

* `LoopMoves.roomTick`, `RoomMoves.roomStart`, and so on: The room functions.
* `WorldMoves.opBody`: What a transaction does under the lock.
* `WorldMoves.preserves`, `runOps_induction`: Invariants of chains and runs.
-/

namespace SceneHub

open Lib (sweep)
open Relation (ReflTransGen)

/-- The branch functions that transactions call. -/
inductive BranchCall where
  | tick (nowMs : UInt32)
  | event (message : Event) (triggered : Bool) (nowMs : UInt32)
  | execute (nowMs : UInt32) (budget : Nat)
  | leaveWait
  | next (plan : CommandPlan)
  | apply (plan : CommandPlan) (dispatch : DispatchResult) (hasMore : Bool) (nowMs : UInt32)
  | fail (plan : CommandPlan) (errorCode : String)

/-- What a call makes of the context it is made in. -/
def BranchCall.run (e : Env) (c : Ctx) : BranchCall → Ctx
  | .tick nowMs => (processBranch e nowMs c).1
  | .event message triggered nowMs => (branchOnEvent e message triggered nowMs c).ctx
  | .execute nowMs budget => (executeBranchCore e nowMs budget c).ctx
  | .leaveWait => SceneHub.leaveWait e c
  | .next plan => (nextCommand e plan c).2
  | .apply plan dispatch hasMore nowMs => (applyDispatch e plan dispatch hasMore nowMs c).ctx
  | .fail plan errorCode => failPlan e plan errorCode c

/-- Every call is a chain of primitives. Only a dispatch result brings an id. -/
theorem BranchCall.moves (R K : String → Prop) (e : Env) (c : Ctx) (call : BranchCall)
    (hcall : ∀ plan dispatch hasMore nowMs, call = .apply plan dispatch hasMore nowMs →
      R dispatch.requestId ∧ K plan.roomId) : CallMoves R K e c (call.run e c) := by
  cases call with
  | tick nowMs => exact CallMoves.moves (Moves.processBranch .refl nowMs)
  | event message triggered nowMs =>
    exact CallMoves.moves (Moves.branchOnEvent .refl message triggered nowMs)
  | execute nowMs budget => exact CallMoves.moves (Moves.executeBranchCore .refl nowMs budget)
  | leaveWait => exact CallMoves.moves (Moves.leaveWait .refl)
  | next plan => exact CallMoves.moves (Moves.nextCommand .refl plan)
  | apply plan dispatch hasMore nowMs =>
    exact CallMoves.applyDispatch plan dispatch hasMore nowMs (hcall _ _ _ _ rfl).1
      (hcall _ _ _ _ rfl).2
  | fail plan errorCode => exact CallMoves.moves (Moves.failPlan .refl plan errorCode)

/-- A condition on a call made on branch `j` of a session. -/
abbrev CallCond := RoomCtx → Nat → BranchCall → Prop

/-- A step on one session. The branch calls are those that meet `C`. -/
inductive RoomStep (C : CallCond) : RoomCtx → RoomCtx → Prop where
  | branch (r : RoomCtx) (j : Nat) (b : Branch) (call : BranchCall)
      (hb : r.session.branches[j]? = some b) (hC : C r j call) :
      RoomStep C r (r.put j b (call.run (r.env b) (r.ctx b)))
  | summary (r : RoomCtx) : RoomStep C r r.updateSummary
  | scan (r : RoomCtx) :
      RoomStep C r
        (r.mapRun fun run => { run with progress := scanScratch r.session.branches run.progress })
  | planNone (r : RoomCtx) : RoomStep C r { r with plan := none }
  | mark (r : RoomCtx) : RoomStep C r r.markChanged
  | clearWait (r : RoomCtx) : RoomStep C r r.clearWait
  | clearBranches (r : RoomCtx) : RoomStep C r r.clearBranches
  | init (r : RoomCtx) (scenario : RoomScenario) (prepared : PreparedScenario)
      (branches : List Branch) (hinit : initBranches scenario prepared = some branches)
      (hnone : r.session.branches = []) :
      RoomStep C r { r with session := { r.session with branches := branches } }
  | fields (r : RoomCtx) (session : Session) (hbranches : session.branches = r.session.branches)
      (hwait : session.run.progress.wait = r.session.run.progress.wait)
      (hroom : (session.inUse, session.roomId) = (r.session.inUse, r.session.roomId)) :
      RoomStep C r { r with session := session }

abbrev RoomMoves (C : CallCond) : RoomCtx → RoomCtx → Prop := ReflTransGen (RoomStep C)

/-- The steps that running the branches of a session is made of. -/
inductive LoopStep (C : CallCond) : RoomCtx → RoomCtx → Prop where
  | branch (r : RoomCtx) (j : Nat) (b : Branch) (call : BranchCall)
      (hb : r.session.branches[j]? = some b) (hC : C r j call) :
      LoopStep C r (r.put j b (call.run (r.env b) (r.ctx b)))
  | summary (r : RoomCtx) : LoopStep C r r.updateSummary
  | scan (r : RoomCtx) :
      LoopStep C r
        (r.mapRun fun run => { run with progress := scanScratch r.session.branches run.progress })
  | planNone (r : RoomCtx) : LoopStep C r { r with plan := none }

abbrev LoopMoves (C : CallCond) : RoomCtx → RoomCtx → Prop := ReflTransGen (LoopStep C)

variable {C : CallCond} {a r : RoomCtx}

/-! ### Running branches -/

namespace LoopMoves

theorem preserves (P : RoomCtx → Prop) (hP : ∀ r r', LoopStep C r r' → P r → P r')
    (h : LoopMoves C a r) (ha : P a) : P r := by
  induction h with
  | refl => exact ha
  | tail _ hstep ih => exact hP _ _ hstep ih

section

variable (h : LoopMoves C a r)
include h

theorem rooms : RoomMoves C a r := by
  refine ReflTransGen.mono (fun r r' hstep => ?_) _ _ h
  cases hstep with
  | branch j b call hb hC => exact .branch r j b call hb hC
  | summary => exact .summary r
  | scan => exact .scan r
  | planNone => exact .planNone r

theorem summary : LoopMoves C a r.updateSummary := h.tail (.summary r)

theorem onBranch {α : Type} (j : Nat) (absent : α)
    (f : Env → Ctx → α × Ctx) (call : BranchCall) (hf : ∀ e c, (f e c).2 = call.run e c)
    (hC : C r j call) : LoopMoves C a (r.onBranch j absent f).2 := by
  cases hb : r.session.branches[j]? with
  | none =>
    rw [RoomCtx.onBranch_none r j absent f hb]
    exact h
  | some b =>
    rw [RoomCtx.onBranch_some r j absent f b hb, hf]
    exact h.tail (.branch r j b call hb hC)

theorem executeBranch (nowMs : UInt32) (budget j : Nat)
    (hC : C r j (.execute nowMs budget)) : LoopMoves C a (r.executeBranch nowMs budget j).2 := by
  have hrun := h.onBranch j (EspErr.invalidArg, false) (fun e c =>
    ((((executeBranchCore e nowMs budget c).err, (executeBranchCore e nowMs budget c).atSummary),
      (executeBranchCore e nowMs budget c).ctx))) (.execute nowMs budget) (fun _ _ => rfl) hC
  unfold RoomCtx.executeBranch
  simp only
  split
  · exact hrun.summary
  · exact hrun

/-! ### The loops over the branches -/

theorem tickTurn (nowMs : UInt32) (j : Nat) (hC : C r j (.tick nowMs)) :
    LoopMoves C a (tickTurn nowMs j r).1 :=
  h.onBranch j false _ (.tick nowMs) (fun _ _ => rfl) hC

theorem roomTick (nowMs : UInt32)
    (hC : Lib.Along (fun j r => C r j (.tick nowMs)) (SceneHub.tickTurn nowMs)
      (List.range r.session.branches.length) r) : LoopMoves C a (roomTick nowMs r).1 := by
  unfold SceneHub.roomTick
  split
  · exact h
  · exact (Lib.sweep_inv_along _ (LoopMoves C a) _ _ _ hC
      (fun j _ t ht hmoves => hmoves.tickTurn nowMs j ht) h).summary

end

/-- What a turn of the event loop asks of the calls it makes. -/
def EventTurnCond (C : CallCond) (message : Event) (nowMs : UInt32) (found : Nat → ReactiveMatch)
    (j : Nat) (s : EventCtx) : Prop :=
  C s.room j (.event message (found j).trigger nowMs) ∧
  ∀ r, C r j (.execute nowMs maxStepsPerTick)

theorem eventTurn (s : EventCtx) (h : LoopMoves C a s.room) (message : Event) (nowMs : UInt32)
    (found : Nat → ReactiveMatch) (conflict : Bool) (j : Nat)
    (hC : LoopMoves.EventTurnCond C message nowMs found j s) :
    LoopMoves C a (eventTurn message nowMs found conflict j s).1.room := by
  have hrun := h.onBranch j (false, EventExit.next) (fun e c =>
    (((branchOnEvent e message (found j).trigger nowMs c).matched,
      (branchOnEvent e message (found j).trigger nowMs c).after),
      (branchOnEvent e message (found j).trigger nowMs c).ctx))
    (.event message (found j).trigger nowMs) (fun _ _ => rfl) hC.1
  unfold SceneHub.eventTurn
  split
  · exact h
  simp only
  split
  · exact hrun
  · exact hrun
  · exact hrun.executeBranch nowMs _ j (hC.2 _)

theorem eventLoop (s : EventCtx) (h : LoopMoves C a s.room) (message : Event) (nowMs : UInt32)
    (found : Nat → ReactiveMatch) (conflict : Bool) (js : List Nat)
    (hC : Lib.Along (EventTurnCond C message nowMs found)
      (SceneHub.eventTurn message nowMs found conflict) js s) :
    LoopMoves C a (eventLoop message nowMs found conflict js s).1.room :=
  (Lib.sweep_inv_along _ (fun t : EventCtx => LoopMoves C a t.room) _ js s hC
    (fun j _ t ht hmoves => eventTurn t hmoves message nowMs found conflict j ht) h).summary

theorem startTurn (s : EspErr × RoomCtx) (h : LoopMoves C a s.2) (nowMs : UInt32) (j : Nat)
    (hC : ∀ r, C r j (.execute nowMs maxStepsPerTick)) :
    LoopMoves C a (startTurn nowMs j s).1.2 := by
  have hrun := h.onBranch j EspErr.invalidArg (fun e c =>
    ((executeBranchCore e nowMs maxStepsPerTick c).err,
      (executeBranchCore e nowMs maxStepsPerTick c).ctx))
    (.execute nowMs maxStepsPerTick) (fun _ _ => rfl) (hC _)
  unfold SceneHub.startTurn
  split
  · exact h
  split
  · exact h
  · exact hrun

section

variable (h : LoopMoves C a r)
include h

theorem executeAllRunning (nowMs : UInt32) (hC : ∀ r j, C r j (.execute nowMs maxStepsPerTick)) :
    LoopMoves C a (executeAllRunning nowMs r).2 := by
  unfold SceneHub.executeAllRunning
  split
  · exact h
  · exact (Lib.sweep_inv (fun s : EspErr × RoomCtx => LoopMoves C a s.2) _ _ _
      (fun j _ t ht => startTurn t ht nowMs j fun r => hC r j) (h.tail (.planNone r))).summary

theorem roomAdvance (nowMs : UInt32) (j : Nat)
    (hleave : C r j .leaveWait) (hC : ∀ r, C r j (.execute nowMs maxStepsPerTick)) :
    LoopMoves C a (roomAdvance nowMs j r).2 :=
  (h.onBranch j () (fun e c => ((), SceneHub.leaveWait e c)) .leaveWait (fun _ _ => rfl)
    hleave).executeBranch nowMs _ j (hC _)

/-! ### The dispatcher -/

theorem roomNextCommand (plan : CommandPlan)
    (hC : C r plan.branchIndex (.next plan)) : LoopMoves C a (roomNextCommand plan r).2 := by
  unfold SceneHub.roomNextCommand
  split
  · exact h
  · exact h.onBranch _ _ _ (.next plan) (fun _ _ => rfl) hC

theorem roomApplyDispatch (plan : CommandPlan) (dispatch : DispatchResult)
    (hasMore : Bool) (nowMs : UInt32)
    (hC : C r plan.branchIndex (.apply plan dispatch hasMore nowMs)) :
    LoopMoves C a (roomApplyDispatch plan dispatch hasMore nowMs r).2 := by
  have hrun := h.onBranch plan.branchIndex (EspErr.ok, false) (fun e c =>
    (((applyDispatch e plan dispatch hasMore nowMs c).err,
      (applyDispatch e plan dispatch hasMore nowMs c).atSummary),
      (applyDispatch e plan dispatch hasMore nowMs c).ctx))
    (.apply plan dispatch hasMore nowMs) (fun _ _ => rfl) hC
  unfold SceneHub.roomApplyDispatch
  split
  · exact h
  simp only
  split
  · exact hrun.summary
  · exact hrun

theorem roomFailPlan (plan : CommandPlan) (errorCode : String)
    (hC : C r plan.branchIndex (.fail plan errorCode)) :
    LoopMoves C a (roomFailPlan plan errorCode r) := by
  have hrun := h.onBranch plan.branchIndex false (fun e c => (true, failPlan e plan errorCode c))
    (.fail plan errorCode) (fun _ _ => rfl) hC
  unfold SceneHub.roomFailPlan
  split
  · exact h
  simp only
  split
  · exact hrun.summary
  · exact hrun

end

end LoopMoves

/-! ### Events -/

/-- What the event loop of a room asks of the calls it makes. -/
def RoomEventCond (C : CallCond) (message : Event) (nowMs : UInt32) (s : EventCtx) : Prop :=
  if message.isDeviceControlResult then
    ∀ j, commandResultWaitBranch s.room.session.branches message = some j →
      Lib.Along (LoopMoves.EventTurnCond C message nowMs fun _ => {})
        (eventTurn message nowMs (fun _ => {}) false) [j] s
  else
    Lib.Along (LoopMoves.EventTurnCond C message nowMs (roomFound s.room message))
      (roomEventTurn s.room message nowMs) (List.range s.room.session.branches.length)
      (eventEntry message s)

theorem LoopMoves.roomOnEvent (s : EventCtx) (h : LoopMoves C a s.room) (message : Event)
    (nowMs : UInt32) (hC : RoomEventCond C message nowMs s) :
    LoopMoves C a (roomOnEvent message nowMs s).1.room := by
  unfold RoomEventCond at hC
  cases hresult : message.isDeviceControlResult with
  | true =>
    rw [if_pos hresult] at hC
    unfold SceneHub.roomOnEvent
    simp only [hresult, if_true]
    split
    · exact h
    · next j hj => exact LoopMoves.eventLoop s h message nowMs _ _ [j] (hC j hj)
  | false =>
    rw [if_neg (by rw [hresult]; exact Bool.false_ne_true)] at hC
    have hentry : LoopMoves C a (eventEntry message s).room := h.tail (.scan s.room)
    have hloop := LoopMoves.eventLoop _ hentry message nowMs (roomFound s.room message)
      (roomConflict s.room message) _ hC
    rw [roomOnEvent_eq message nowMs s hresult]
    exact hloop

/-! ### Steps on a session -/

namespace RoomMoves

section

variable (h : RoomMoves C a r)
include h

theorem fields (session : Session) (hbranches : session.branches = r.session.branches)
    (hwait : session.run.progress.wait = r.session.run.progress.wait)
    (hroom : (session.inUse, session.roomId) = (r.session.inUse, r.session.roomId)) :
    RoomMoves C a { r with session := session } := h.tail (.fields r session hbranches hwait hroom)

theorem mapRun (f : SessionRun → SessionRun)
    (hf : (f r.session.run).progress.wait = r.session.run.progress.wait) :
    RoomMoves C a (r.mapRun f) := h.fields _ rfl hf rfl

theorem mark : RoomMoves C a r.markChanged := h.tail (.mark r)

theorem clearWait : RoomMoves C a r.clearWait := h.tail (.clearWait r)

theorem clearBranches : RoomMoves C a r.clearBranches :=
  h.tail (.clearBranches r)

theorem clearSnapshot : RoomMoves C a r.clearSnapshot :=
  RoomMoves.clearBranches (h.fields _ rfl rfl rfl)

theorem setError (message : String) : RoomMoves C a (r.setError message) :=
  ((((h.mapRun _ rfl).clearWait).mapRun _ rfl)).mark

theorem roomStart (scenario : RoomScenario) (prepared : PreparedScenario)
    (generation nowMs : UInt32) (hC : ∀ r j, C r j (.execute nowMs maxStepsPerTick)) :
    RoomMoves C a (roomStart scenario prepared generation nowMs r).2 := by
  unfold SceneHub.roomStart
  -- The old branches are gone before the new ones are made.
  have hcleared := ((((h.fields
      { r.session with
        runningScenario := scenario, prepared := prepared, runningScenarioValid := true
        runningScenarioGeneration := generation } rfl rfl rfl).mapRun (fun run =>
      { run with progress := { run.progress with scenarioState := .running, currentStepIndex := 0 } })
      rfl).clearWait).clearBranches).mapRun (fun run =>
      { run with
        scenarioOperatorMessage := "", scenarioFlags := [], scenarioLastError := "", history := [] })
      rfl
  split
  · exact (hcleared.clearSnapshot).setError _
  · next branches hinit =>
      exact (RoomMoves.mark (hcleared.tail (.init _ scenario prepared branches hinit rfl))).trans
        (LoopMoves.executeAllRunning .refl nowMs hC).rooms

/-! ### The session operations -/

theorem clearScenario (state : ScenarioState) (keepsStep keepsError : Bool) :
    RoomMoves C a (clearScenario state keepsStep keepsError r) := by
  have hstate := h.mapRun (fun run =>
    { run with progress :=
      { run.progress with
        scenarioState := state
        currentStepIndex := if keepsStep then run.progress.currentStepIndex else 0 } }) rfl
  have hcleared := (hstate.clearWait).clearSnapshot
  exact (hcleared.mapRun (fun run =>
    { run with
      scenarioOperatorMessage := ""
      scenarioFlags := []
      scenarioLastError := if keepsError then run.scenarioLastError else ""
      history := [] }) rfl).mark

theorem sessionStart (durationMs nowMs : Nat) :
    RoomMoves C a (sessionStart durationMs nowMs r).2 := by
  have hstarted := h.fields { r.session with startedAtMs := nowMs } rfl rfl rfl
  have hrunning := (hstarted.mapRun
    (fun run => { run with state := .running, finishedAtMs := 0 }) rfl).mark
  exact RoomMoves.mapRun (hrunning.fields _ (by rfl) (by rfl) (by rfl))
    (fun run => { run with timer := .start durationMs nowMs }) rfl

theorem sessionPause (nowMs : Nat) : RoomMoves C a (sessionPause nowMs r).2 := by
  have hpaused := h.mapRun (fun run => { run with state := .paused }) rfl
  unfold SceneHub.sessionPause
  split
  · exact h
  simp only
  split
  · exact hpaused
  · next timer _ => exact (hpaused.mapRun (fun run => { run with timer := timer }) rfl).mark

theorem sessionResume (nowMs : Nat) : RoomMoves C a (sessionResume nowMs r).2 := by
  have hresumed := h.mapRun (fun run => { run with state := .running }) rfl
  unfold SceneHub.sessionResume
  split
  · exact h
  simp only
  split
  · exact hresumed
  · next timer _ => exact (hresumed.mapRun (fun run => { run with timer := timer }) rfl).mark

theorem sessionFinish (nowMs : Nat) : RoomMoves C a (sessionFinish nowMs r).2 :=
  (h.mapRun (fun run =>
    { run with
      state := .finished, finishedAtMs := nowMs, timer := run.timer.finish nowMs }) rfl).mark

theorem sessionReset (durationMs nowMs : Nat) :
    RoomMoves C a (sessionReset durationMs nowMs r).2 := by
  have hreset := h.fields { r.session with startedAtMs := 0, hint := {} } rfl rfl rfl
  exact (hreset.mapRun (fun run =>
    { run with
      state := .idle, finishedAtMs := 0, timer := .reset durationMs nowMs }) rfl).mark

theorem sessionAddTime (deltaMs : Int) (nowMs : Nat) :
    RoomMoves C a (sessionAddTime deltaMs nowMs r).2 := by
  refine (h.mapRun _ ?_).mark
  simp only
  split <;> rfl

theorem sessionSetHint (message : String) (nowMs : Nat) :
    RoomMoves C a (sessionSetHint message nowMs r).2 :=
  (h.fields { r.session with hint :=
    { active := true, sentCount := r.session.hint.sentCount + 1, lastChangedMs := nowMs, message } }
    rfl rfl rfl).mark

theorem sessionClearHint (nowMs : Nat) : RoomMoves C a (sessionClearHint nowMs r).2 :=
  (h.fields { r.session with hint :=
    { r.session.hint with active := false, lastChangedMs := nowMs, message := "" } } rfl rfl rfl).mark

theorem selectScenario (scenario : RoomScenario) : RoomMoves C a (selectScenario scenario r).2 := by
  have hselected := h.fields { r.session with selected :=
    { scenarioId := scenario.id
      scenarioName := scenario.name
      generation := r.session.selected.generation + 1 } } rfl rfl rfl
  exact hselected.clearScenario .idle false false

theorem selectProfile (profile : GameProfile) (scenario : RoomScenario)
    (durationMs now : Nat) : RoomMoves C a (selectProfile profile scenario durationMs now r).2 := by
  have hselected := h.fields
    { r.session with
      startedAtMs := 0
      selected :=
        { profileId := profile.id
          profileName := profile.name
          profileScenarioId := profile.scenarioId
          profileDurationMs := durationMs
          scenarioId := profile.scenarioId
          scenarioName := scenario.name
          generation := r.session.selected.generation + 1 } } rfl rfl rfl
  have htimer := hselected.mapRun (fun run =>
    { run with timer := .reset durationMs now, state := .idle, finishedAtMs := 0 }) rfl
  exact htimer.clearScenario .idle false false

end

end RoomMoves

/-! ### The table of rooms -/

/-- A step on the table of rooms. -/
inductive WorldStep (C : CallCond) : World → World → Prop where
  | acquire (w : World) : WorldStep C w w.locked
  | room (w : World) (i : Nat) (session : Session) (plan : Option CommandPlan) (r : RoomCtx)
      (hs : w.sessions[i]? = some session) (hstep : RoomStep C ⟨w.lock, session, plan⟩ r) :
      WorldStep C w (w.put i r)
  | alloc (w : World) (i : Nat) (session : Session) (roomId : String)
      (hs : w.sessions[i]? = some session) (hne : roomId ≠ "") (hnew : w.find roomId = none) :
      WorldStep C w (w.put i ⟨w.lock, { inUse := true, roomId }, none⟩)
  | resetAll (w : World) :
      WorldStep C w
        { lock := { w.lock with lastChangedRoomId := "", generation := w.lock.generation + 1 }
          sessions := w.sessions.map fun _ => {} }
  | release (w : World) : WorldStep C w w.released

abbrev WorldMoves (C : CallCond) : World → World → Prop := ReflTransGen (WorldStep C)

namespace WorldMoves

variable {u w : World}

theorem preserves (P : World → Prop) (hP : ∀ w w', WorldStep C w w' → P w → P w')
    (h : WorldMoves C u w) (hu : P u) : P w := by
  induction h with
  | refl => exact hu
  | tail _ hstep ih => exact hP _ _ hstep ih

theorem put_put (w : World) (i : Nat) (r r' : RoomCtx) : (w.put i r).put i r' = w.put i r' := by
  simp only [World.put, List.set_set]

theorem put_self (w : World) (i : Nat) (session : Session) (plan : Option CommandPlan)
    (hs : w.sessions[i]? = some session) : w.put i ⟨w.lock, session, plan⟩ = w := by
  rcases List.getElem?_eq_some_iff.mp hs with ⟨hlt, hget⟩
  simp only [World.put, ← hget, List.set_getElem_self]

section

variable (h : WorldMoves C u w)
include h

theorem room (i : Nat) (session : Session) (plan : Option CommandPlan)
    (r : RoomCtx) (hs : w.sessions[i]? = some session)
    (hmoves : RoomMoves C ⟨w.lock, session, plan⟩ r) : WorldMoves C u (w.put i r) := by
  have hlt : i < w.sessions.length := (List.getElem?_eq_some_iff.mp hs).1
  induction hmoves with
  | refl =>
    rw [put_self w i session plan hs]
    exact h
  | tail _ hstep ih =>
    next r₁ r₂ _ =>
      have hs₁ : (w.put i r₁).sessions[i]? = some r₁.session := by
        simp only [World.put, List.getElem?_set_self hlt]
      rw [← put_put w i r₁ r₂]
      exact ih.tail (.room _ i r₁.session r₁.plan r₂ hs₁ hstep)

theorem onSession {α : Type} (i : Nat) (absent : α)
    (f : RoomCtx → α × RoomCtx) (hf : ∀ session, w.sessions[i]? = some session →
      RoomMoves C (w.roomCtx session) (f (w.roomCtx session)).2) :
    WorldMoves C u (w.onSession i absent f).2 := by
  unfold World.onSession
  split
  · exact h
  · next session hs => exact h.room i session none _ hs (hf session hs)

theorem onRoom {α : Type} (roomId : String) (absent : α) (f : RoomCtx → α × RoomCtx)
    (hf : ∀ i session, w.find roomId = some i → w.sessions[i]? = some session →
      RoomMoves C (w.roomCtx session) (f (w.roomCtx session)).2) :
    WorldMoves C u (w.onRoom roomId absent f).2 := by
  unfold World.onRoom
  split
  · exact h
  · next i hfind => exact h.onSession i _ _ fun session hs => hf i session hfind hs

theorem alloc (roomId : String) (i : Nat) (w' : World)
    (halloc : w.alloc roomId = some (i, w')) : WorldMoves C u w' := by
  unfold World.alloc at halloc
  split at halloc
  · cases halloc
  · next hne =>
    split at halloc
    · cases halloc
      exact h
    · next hfind =>
      split at halloc
      · cases halloc
      · next k hk =>
          cases halloc
          rcases List.findIdx?_eq_some_iff_getElem.mp hk with ⟨hlt, -, -⟩
          have hs := List.getElem?_eq_getElem hlt
          have hnew := h.tail (.alloc w i _ roomId hs hne hfind)
          have hs' : (w.put i ⟨w.lock, { inUse := true, roomId }, none⟩).sessions[i]? =
              some { inUse := true, roomId } := by
            simp only [World.put, List.getElem?_set_self hlt]
          have hmarked := hnew.tail (.room _ i _ none _ hs' (.mark _))
          rw [put_put] at hmarked
          exact hmarked

theorem onAlloc (roomId : String) (f : RoomCtx → EspErr × RoomCtx)
    (hf : ∀ r, RoomMoves C r (f r).2) : WorldMoves C u (w.onAlloc roomId f).2 := by
  unfold World.onAlloc
  split
  · exact h
  · next i w' halloc => exact (h.alloc roomId i w' halloc).onSession i _ f fun _ _ => hf _

end

theorem worldEventTurn (s : WorldEvent) (h : WorldMoves C u s.world) (message : Event) (now i : Nat)
    (hC : ∀ session, s.world.sessions[i]? = some session →
      RoomEventCond C message (scenarioNow now) ⟨⟨s.world.lock, session, s.plan⟩, s.matched⟩) :
    WorldMoves C u (worldEventTurn message now i s).1.world := by
  unfold SceneHub.worldEventTurn
  split
  · exact h
  · next session hs =>
      split
      · exact h
      · exact h.room i session s.plan _ hs
          (LoopMoves.roomOnEvent _ .refl message (scenarioNow now) (hC session hs)).rooms

theorem worldTickTurn (s : WorldEvent) (h : WorldMoves C u s.world) (now i : Nat)
    (hC : ∀ session, s.world.sessions[i]? = some session →
      Lib.Along (fun j r => C r j (.tick (scenarioNow now))) (tickTurn (scenarioNow now))
        (List.range session.branches.length) ⟨s.world.lock, session, s.plan⟩) :
    WorldMoves C u (worldTickTurn now i s).1.world := by
  unfold SceneHub.worldTickTurn
  split
  · exact h
  · next session hs =>
      split
      · exact h
      · exact h.room i session s.plan _ hs
          (LoopMoves.roomTick .refl (scenarioNow now) (hC session hs)).rooms

end WorldMoves

/-! ### Transactions -/

/-- The branch calls an operation makes meet `C`. Only the two loops over all
    rooms reach states that their first state does not show. -/
def CallsMeet (C : CallCond) (w : World) : Op → Prop
  | .scenarioStart _ _ _ _ _ now => ∀ r j, C r j (.execute (scenarioNow now) maxStepsPerTick)
  | .next _ now | .nextOnBranch _ _ now | .approve _ now =>
    ∀ r j, C r j .leaveWait ∧ C r j (.execute (scenarioNow now) maxStepsPerTick)
  | .event message now =>
    Lib.Along (fun i s => ∀ session, s.world.sessions[i]? = some session →
        RoomEventCond C message (scenarioNow now) ⟨⟨s.world.lock, session, s.plan⟩, s.matched⟩)
      (worldEventTurn message now) (List.range w.sessions.length) { world := w }
  | .tick now =>
    Lib.Along (fun i s => ∀ session, s.world.sessions[i]? = some session →
        Lib.Along (fun j r => C r j (.tick (scenarioNow now))) (tickTurn (scenarioNow now))
          (List.range session.branches.length) ⟨s.world.lock, session, s.plan⟩)
      (worldTickTurn now) (List.range w.sessions.length) { world := w }
  | .planNext plan => ∀ r, C r plan.branchIndex (.next plan)
  | .planApply plan dispatch hasMore now =>
    ∀ i session, w.find plan.roomId = some i → w.sessions[i]? = some session →
      C (w.roomCtx session) plan.branchIndex (.apply plan dispatch hasMore (scenarioNow now))
  | .planFail plan errorCode => ∀ r, C r plan.branchIndex (.fail plan errorCode)
  | _ => True

namespace WorldMoves

variable {u w : World}

theorem roomAdvanceChosen (choose : Session → Option Nat) (now : Nat) (r : RoomCtx)
    (hC : ∀ r j, C r j .leaveWait ∧ C r j (.execute (scenarioNow now) maxStepsPerTick)) :
    RoomMoves C r (roomAdvanceChosen choose now r).2 := by
  unfold SceneHub.roomAdvanceChosen
  split
  · exact .refl
  split
  · exact .refl
  · exact (LoopMoves.roomAdvance .refl (scenarioNow now) _ (hC _ _).1 fun r => (hC r _).2).rooms

/-- What an operation does under the lock is a chain of the steps it may make. -/
theorem opBody (h : WorldMoves C u w) (op : Op) (hC : CallsMeet C w op) :
    WorldMoves C u (opBody w op).2 := by
  cases op with
  | start roomId durationMs nowMs =>
    exact h.onAlloc roomId _ fun r => RoomMoves.sessionStart .refl durationMs nowMs
  | pause roomId nowMs => exact h.onRoom roomId _ _ fun _ _ _ _ => RoomMoves.sessionPause .refl nowMs
  | resume roomId nowMs => exact h.onRoom roomId _ _ fun _ _ _ _ => RoomMoves.sessionResume .refl nowMs
  | finish roomId nowMs => exact h.onRoom roomId _ _ fun _ _ _ _ => RoomMoves.sessionFinish .refl nowMs
  | reset roomId durationMs nowMs =>
    exact h.onRoom roomId _ _ fun _ _ _ _ => RoomMoves.sessionReset .refl durationMs nowMs
  | addTime roomId deltaMs nowMs =>
    exact h.onRoom roomId _ _ fun _ _ _ _ => RoomMoves.sessionAddTime .refl deltaMs nowMs
  | setHint roomId message nowMs =>
    unfold SceneHub.opBody
    simp only
    split
    · exact h
    · exact h.onAlloc roomId _ fun _ => RoomMoves.sessionSetHint .refl message nowMs
  | clearHint roomId nowMs =>
    exact h.onRoom roomId _ _ fun _ _ _ _ => RoomMoves.sessionClearHint .refl nowMs
  | selectProfile roomId profile scenario durationMs now =>
    unfold SceneHub.opBody
    simp only
    split
    · exact h
    split
    · exact h
    · exact h.onAlloc roomId _ fun _ =>
        RoomMoves.selectProfile .refl profile scenario durationMs now
  | selectScenario roomId scenario =>
    unfold SceneHub.opBody
    simp only
    split
    · exact h
    split
    · exact h
    · exact h.onAlloc roomId _ fun _ => RoomMoves.selectScenario .refl scenario
  | scenarioStart roomId scenario prepared generation rejected now =>
    unfold SceneHub.opBody
    simp only
    split
    · exact h
    split
    · exact h.onRoom roomId _ _ fun _ _ _ _ =>
        RoomMoves.roomStart .refl scenario prepared generation _ hC
    · exact h.onRoom roomId _ _ fun _ _ _ _ => (RoomMoves.clearSnapshot .refl).setError _
  | scenarioStop roomId | scenarioReset roomId =>
    exact h.onRoom roomId _ _ fun _ _ _ _ => RoomMoves.clearScenario .refl _ _ _
  | next roomId now | nextOnBranch roomId branchId now | approve roomId now =>
    exact h.onRoom roomId _ _ fun _ _ _ _ => roomAdvanceChosen _ now _ hC
  | event message now =>
    exact Lib.sweep_inv_along _ (fun s : WorldEvent => WorldMoves C u s.world) _ _ _ hC
      (fun i _ t ht hmoves => worldEventTurn t hmoves message now i ht) h
  | tick now =>
    exact Lib.sweep_inv_along _ (fun s : WorldEvent => WorldMoves C u s.world) _ _ _ hC
      (fun i _ t ht hmoves => worldTickTurn t hmoves now i ht) h
  | planNext plan =>
    have hmoves := h.onRoom plan.roomId (.error .notFound) (roomNextCommand plan)
      fun _ _ _ _ => (LoopMoves.roomNextCommand .refl plan (hC _)).rooms
    unfold SceneHub.opBody
    simp only
    split
    · exact hmoves
    · exact hmoves
  | planApply plan dispatch hasMore now =>
    exact h.onRoom plan.roomId _ _ fun i session hfind hs =>
      (LoopMoves.roomApplyDispatch .refl plan dispatch hasMore _ (hC i session hfind hs)).rooms
  | planFail plan errorCode =>
    exact h.onRoom plan.roomId _ _ fun _ _ _ _ =>
      (LoopMoves.roomFailPlan .refl plan errorCode (hC _)).rooms
  | resetAll => exact h.tail (.resetAll w)

end WorldMoves

/-- A condition that only a dispatch result can fail holds along every event. -/
theorem roomEventCond_of (hcall : ∀ r j call, (∀ plan dispatch hasMore nowMs,
      call ≠ .apply plan dispatch hasMore nowMs) → C r j call)
    (message : Event) (nowMs : UInt32) (s : EventCtx) : RoomEventCond C message nowMs s := by
  have hturn : ∀ found j (t : EventCtx), LoopMoves.EventTurnCond C message nowMs found j t :=
    fun _ _ _ => ⟨hcall _ _ _ nofun,
      fun _ => hcall _ _ _ nofun⟩
  unfold RoomEventCond
  split
  · exact fun j _ => Lib.along_of_forall _ _ _ _ fun _ _ _ => hturn _ _ _
  · exact Lib.along_of_forall _ _ _ _ fun _ _ _ => hturn _ _ _

theorem callsMeet_of (w : World) (op : Op) (hcall : ∀ r j call, (∀ plan dispatch hasMore nowMs,
      call ≠ .apply plan dispatch hasMore nowMs) → C r j call)
    (happly : ∀ plan dispatch hasMore now, op = .planApply plan dispatch hasMore now →
      ∀ r j, C r j (.apply plan dispatch hasMore (scenarioNow now))) : CallsMeet C w op := by
  have hexecute : ∀ r j nowMs budget, C r j (.execute nowMs budget) :=
    fun r j nowMs budget => hcall r j _ nofun
  have hadvance : ∀ now r j, C r j .leaveWait ∧ C r j (.execute (scenarioNow now) maxStepsPerTick) :=
    fun now r j => ⟨hcall r j _ nofun, hexecute _ _ _ _⟩
  cases op with
  | event message now => exact Lib.along_of_forall _ _ _ _ fun i _ s session _ => roomEventCond_of hcall _ _ _
  | tick now =>
    exact Lib.along_of_forall _ _ _ _ fun i _ s session _ =>
      Lib.along_of_forall _ _ _ _ fun _ _ _ =>
        hcall _ _ _ nofun
  | scenarioStart => exact fun _ _ => hexecute _ _ _ _
  | next roomId now => exact hadvance now
  | nextOnBranch roomId branchId now => exact hadvance now
  | approve roomId now => exact hadvance now
  | planNext => exact fun _ => hcall _ _ _ fun _ _ _ _ => BranchCall.noConfusion
  | planApply plan dispatch hasMore now =>
    exact fun _ _ _ _ => happly plan dispatch hasMore now rfl _ _
  | planFail => exact fun _ => hcall _ _ _ nofun
  | _ => trivial

theorem stepOp_moves (w : World) (op : Op) (hC : CallsMeet C w.locked op) :
    WorldMoves C w (stepOp w op).2 :=
  (WorldMoves.opBody (.single (.acquire w)) op hC).tail (.release _)

theorem runOps_induction (P : World → Prop) (hP : ∀ w w', WorldStep C w w' → P w → P w')
    (w : World) (hw : P w) (ops : List Op) (hC : ∀ op ∈ ops, ∀ w, CallsMeet C w op) :
    P (runOps w ops) := by
  induction ops generalizing w with
  | nil => exact hw
  | cons op ops ih =>
    refine ih _ ((stepOp_moves w op (hC op (.head _ ..) _)).preserves P hP hw) ?_
    exact fun op' hop' => hC op' (.tail _ hop')

/-! ### Conditions on runs -/

/-- Every transaction of a run meets `C` in the state it is made in. -/
def EachStep (C : World → Op → Prop) : World → List Op → Prop
  | _, [] => True
  | w, op :: ops => C w op ∧ EachStep C (stepOp w op).2 ops

/-- An invariant that transactions preserve under a condition holds all along a
    run whose transactions meet the condition, and so does what follows from
    both about each of them. -/
theorem eachStep_of_inv {C D : World → Op → Prop} (P : World → Prop)
    (hstep : ∀ w op, P w → C w op → D w op ∧ P (stepOp w op).2) (w : World) (hw : P w)
    (ops : List Op) (hC : EachStep C w ops) : EachStep D w ops ∧ P (runOps w ops) := by
  induction ops generalizing w with
  | nil => exact ⟨trivial, hw⟩
  | cons op ops ih =>
    rcases hstep w op hw hC.1 with ⟨hD, hnext⟩
    rcases ih _ hnext hC.2 with ⟨hrest, hend⟩
    exact ⟨⟨hD, hrest⟩, hend⟩

end SceneHub
