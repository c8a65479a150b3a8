import SceneHub.Session.Game
import SceneHub.Theory.Rooms

/-!
# The Session and Its Timer

A session keeps a state of its own and a timer with a state, and the operations
on the game write the two one after the other. They correspond in every state
reached: each operation that writes the one also writes the other, and adding
time sets the session's state from what the timer's has become.

So the timer never refuses to pause or resume where the session's state allowed
it, and an operation that fails has changed nothing. A game start is different.
It is made of several transactions, and a scenario that is rejected is recorded
in the session on purpose.

## Main definitions

* `SessionState.timerState`: The state of the timer that goes with the session's.
* `Clocked`: The two states correspond.
* `Op.isGameOp`: The operations on the game.

## Theorems

* `runOps_clocked`: Session and timer correspond in every state reached.
* `gameOp_fails_unchanged`: A failing operation on the game changes no session.
* `session_and_timer_correspond`: Both, and game starts.
-/

namespace SceneHub

open Lib (sweep)

variable {r : RoomCtx} {w : World}

/-- The state of the timer that goes with a state of the session. -/
def SessionState.timerState : SessionState → TimerState
  | .idle => .idle
  | .running => .running
  | .paused => .paused
  | .finished => .finished

/-- Session and timer correspond. -/
def Clocked (s : SessionRun) : Prop := s.timer.state = s.state.timerState

theorem clocked_congr {s t : SessionRun} (hstate : t.state = s.state) (htimer : t.timer = s.timer) :
    Clocked t ↔ Clocked s := by
  unfold Clocked
  rw [hstate, htimer]

/-! ### Running scenarios -/

/-- The only primitive that touches either state ends the game, and writes both. -/
theorem callMove_clocked {R K : String → Prop} {e : Env} {c c' : Ctx} (h : CallMove R K e c c')
    (hc : Clocked c.session) : Clocked c'.session := by
  cases h with
  | move hm =>
    cases hm with
    | step hs =>
      cases hs with
      | finish nowMs => exact rfl
      | _ => exact hc
    | _ => exact hc
  | more => exact hc
  | result dispatch nowMs hR =>
    unfold enterWaitCommandResult
    split
    · exact hc
    · exact hc

theorem branchCall_clocked (e : Env) (c : Ctx) (call : BranchCall) (hc : Clocked c.session) :
    Clocked (call.run e c).session :=
  (call.moves (fun _ => True) (fun _ => True) e c fun _ _ _ _ _ => ⟨trivial, trivial⟩).preserves
    (fun c => Clocked c.session) (fun _ _ hm => callMove_clocked hm) hc

/-- Running branches keeps the two in step. -/
theorem loopMoves_clocked {C : CallCond} {r' : RoomCtx} (h : LoopMoves C r r')
    (hr : Clocked r.session.run) : Clocked r'.session.run := by
  refine h.preserves (fun r => Clocked r.session.run) (fun r₁ r₂ hstep hr₁ => ?_) hr
  cases hstep with
  | branch j b call hb hC => exact branchCall_clocked _ (r₁.ctx b) call hr₁
  | summary =>
    refine (clocked_congr ?_ ?_).2 hr₁
    · unfold RoomCtx.updateSummary RoomCtx.mapRun updateSummary
      split
      · rfl
      · split <;> rfl
    unfold RoomCtx.updateSummary RoomCtx.mapRun updateSummary
    split
    · rfl
    · split <;> rfl
  | scan | planNone => exact hr₁

/-- No condition on the calls. -/
abbrev AnyCall : CallCond := fun _ _ _ => True

theorem mapRun_clocked (f : SessionRun → SessionRun)
    (hstate : (f r.session.run).state = r.session.run.state)
    (htimer : (f r.session.run).timer = r.session.run.timer) (hr : Clocked r.session.run) :
    Clocked (r.mapRun f).session.run := (clocked_congr hstate htimer).2 hr

section

variable (hr : Clocked r.session.run)
include hr

theorem clearWait_clocked : Clocked r.clearWait.session.run := hr

theorem clearBranches_clocked : Clocked r.clearBranches.session.run := hr

theorem clearSnapshot_clocked : Clocked r.clearSnapshot.session.run := hr

theorem markChanged_clocked : Clocked r.markChanged.session.run := hr

end

theorem setError_clocked (message : String) (hr : Clocked r.session.run) :
    Clocked (r.setError message).session.run := by
  have hstate := mapRun_clocked (fun run =>
    { run with progress := { run.progress with scenarioState := .error } }) rfl rfl hr
  exact markChanged_clocked (mapRun_clocked (fun run =>
    { run with scenarioLastError := message }) rfl rfl (clearWait_clocked hstate))

/-- Stopping, resetting and selecting a scenario do not concern the clock. -/
theorem clearScenario_clocked (state : ScenarioState) (keepsStep keepsError : Bool)
    (hr : Clocked r.session.run) :
    Clocked (clearScenario state keepsStep keepsError r).session.run := by
  have hstate := mapRun_clocked (fun run =>
    { run with progress :=
      { run.progress with
        scenarioState := state
        currentStepIndex := if keepsStep then run.progress.currentStepIndex else 0 } }) rfl rfl hr
  exact markChanged_clocked (mapRun_clocked (fun run =>
    { run with
      scenarioOperatorMessage := ""
      scenarioFlags := []
      scenarioLastError := if keepsError then run.scenarioLastError else ""
      history := [] }) rfl rfl (clearSnapshot_clocked (clearWait_clocked hstate)))

theorem roomStart_clocked (scenario : RoomScenario) (prepared : PreparedScenario)
    (generation nowMs : UInt32) (hr : Clocked r.session.run) :
    Clocked (roomStart scenario prepared generation nowMs r).2.session.run := by
  -- The snapshot is written and the old branches go; neither concerns the clock.
  have hcleared : ∀ r' : RoomCtx, r'.session.run = r.session.run →
      Clocked (((r'.mapRun fun run => { run with progress :=
        { run.progress with scenarioState := .running, currentStepIndex := 0 } }).clearWait
          |>.clearBranches).mapRun fun run =>
        { run with
          scenarioOperatorMessage := "", scenarioFlags := [], scenarioLastError := ""
          history := [] }).session.run := by
    intro r' hrun
    refine mapRun_clocked _ rfl rfl (clearBranches_clocked (clearWait_clocked ?_))
    exact mapRun_clocked _ rfl rfl (by rw [hrun]; exact hr)
  unfold roomStart
  split
  · exact setError_clocked _ (clearSnapshot_clocked (hcleared _ rfl))
  · exact loopMoves_clocked (C := AnyCall)
      (.executeAllRunning .refl nowMs fun _ _ => trivial) (markChanged_clocked (hcleared _ rfl))

/-! ### All rooms -/

/-- Every session corresponds to its timer. -/
def AllClocked (w : World) : Prop := ∀ s ∈ w.sessions, Clocked s.run

theorem put_clocked (h : AllClocked w) (i : Nat) (hr : Clocked r.session.run) :
    AllClocked (w.put i r) := by
  intro s hs
  rcases List.mem_or_eq_of_mem_set hs with hold | rfl
  · exact h s hold
  · exact hr

theorem onRoom_clocked {α : Type} (h : AllClocked w) (roomId : String) (absent : α)
    (f : RoomCtx → α × RoomCtx) (hf : ∀ r, Clocked r.session.run → Clocked (f r).2.session.run) :
    AllClocked (w.onRoom roomId absent f).2 := by
  unfold World.onRoom World.onSession
  split
  · exact h
  split
  · exact h
  · next s hs => exact put_clocked h _ (hf _ (h s (List.mem_of_getElem? hs)))

theorem onAlloc_clocked (h : AllClocked w) (roomId : String) (f : RoomCtx → EspErr × RoomCtx)
    (hf : ∀ r, Clocked r.session.run → Clocked (f r).2.session.run) :
    AllClocked (w.onAlloc roomId f).2 := by
  unfold World.onAlloc
  split
  · exact h
  · next i w' halloc =>
      have hw' : AllClocked w' := by
        unfold World.alloc at halloc
        split at halloc
        · cases halloc
        split at halloc
        · cases halloc
          exact h
        split at halloc
        · cases halloc
        cases halloc
        -- A session just made is idle, and so is its timer.
        exact put_clocked h _ rfl
      unfold World.onSession
      split
      · exact hw'
      · next s hs => exact put_clocked hw' _ (hf _ (hw' s (List.mem_of_getElem? hs)))

theorem sessionAddTime_clocked (deltaMs : Int) (nowMs : Nat) (r : RoomCtx) :
    Clocked (sessionAddTime deltaMs nowMs r).2.session.run := by
  have hrun : (sessionAddTime deltaMs nowMs r).2.session.run.state.timerState =
      (r.session.run.timer.addTime deltaMs nowMs).state ∧
      (sessionAddTime deltaMs nowMs r).2.session.run.timer =
        r.session.run.timer.addTime deltaMs nowMs := by
    unfold sessionAddTime RoomCtx.mapRun RoomCtx.markChanged SessionRun.noteChange
    simp only
    split
    · next h => exact ⟨h.symm, rfl⟩
    · next h => exact ⟨h.symm, rfl⟩
    · next h => exact ⟨h.symm, rfl⟩
    · next h => exact ⟨h.symm, rfl⟩
  unfold Clocked
  rw [hrun.1, hrun.2]

theorem pause_of_clocked {s : SessionRun} (h : Clocked s) (hstate : s.state = .running)
    (nowMs : Nat) : ∃ timer, s.timer.pause nowMs = some timer ∧ timer.state = .paused := by
  have hrunning : s.timer.state = .running := by
    rw [h, hstate]
    rfl
  unfold GmTimer.pause
  rw [if_neg (fun hne => hne hrunning)]
  exact ⟨_, rfl, rfl⟩

theorem resume_of_clocked {s : SessionRun} (h : Clocked s) (hstate : s.state = .paused)
    (nowMs : Nat) : ∃ timer, s.timer.resume nowMs = some timer ∧ timer.state = .running := by
  have hpaused : s.timer.state = .paused := by
    rw [h, hstate]
    rfl
  unfold GmTimer.resume
  rw [if_neg (fun hne => hne hpaused)]
  exact ⟨_, rfl, rfl⟩

theorem sessionPause_spec (nowMs : Nat) (hr : Clocked r.session.run) :
    Clocked (sessionPause nowMs r).2.session.run ∧
      ((sessionPause nowMs r).1 ≠ .ok → (sessionPause nowMs r).2 = r) := by
  unfold sessionPause
  split
  · exact ⟨hr, fun _ => rfl⟩
  · next hstate =>
      rcases pause_of_clocked hr (Decidable.not_not.mp hstate) nowMs with ⟨timer, hpause, hpaused⟩
      simp only
      split
      · next hnone => cases hpause.symm.trans hnone
      · next timer' hsome =>
          cases Option.some.inj (hpause.symm.trans hsome)
          exact ⟨hpaused, fun hne => absurd rfl hne⟩

theorem sessionResume_spec (nowMs : Nat) (hr : Clocked r.session.run) :
    Clocked (sessionResume nowMs r).2.session.run ∧
      ((sessionResume nowMs r).1 ≠ .ok → (sessionResume nowMs r).2 = r) := by
  unfold sessionResume
  split
  · exact ⟨hr, fun _ => rfl⟩
  · next hstate =>
      rcases resume_of_clocked hr (Decidable.not_not.mp hstate) nowMs with
        ⟨timer, hresume, hrunning⟩
      simp only
      split
      · next hnone => cases hresume.symm.trans hnone
      · next timer' hsome =>
          cases Option.some.inj (hresume.symm.trans hsome)
          exact ⟨hrunning, fun hne => absurd rfl hne⟩

theorem opBody_clocked (h : AllClocked w) (op : Op) : AllClocked (opBody w op).2 := by
  cases op with
  | start roomId durationMs nowMs => exact onAlloc_clocked h roomId _ fun _ _ => rfl
  | pause roomId nowMs =>
    exact onRoom_clocked h roomId _ _ fun _ hr => (sessionPause_spec nowMs hr).1
  | resume roomId nowMs =>
    exact onRoom_clocked h roomId _ _ fun _ hr => (sessionResume_spec nowMs hr).1
  | finish roomId nowMs | reset roomId durationMs nowMs =>
    exact onRoom_clocked h roomId _ _ fun _ _ => rfl
  | addTime roomId deltaMs nowMs =>
    exact onRoom_clocked h roomId _ _ fun r _ => sessionAddTime_clocked deltaMs nowMs r
  | setHint roomId message nowMs =>
    unfold opBody
    simp only
    split
    · exact h
    · exact onAlloc_clocked h roomId _ fun _ hr => markChanged_clocked hr
  | clearHint roomId nowMs => exact onRoom_clocked h roomId _ _ fun _ hr => markChanged_clocked hr
  | selectProfile roomId profile scenario durationMs now =>
    unfold opBody
    simp only
    split
    · exact h
    split
    · exact h
    · exact onAlloc_clocked h roomId _ fun _ _ => rfl
  | selectScenario roomId scenario =>
    unfold opBody
    simp only
    split
    · exact h
    split
    · exact h
    · exact onAlloc_clocked h roomId _ fun _ hr => clearScenario_clocked .idle false false hr
  | scenarioStart roomId scenario prepared generation rejected now =>
    unfold opBody
    simp only
    split
    · exact h
    split
    · exact onRoom_clocked h roomId _ _ fun _ hr => roomStart_clocked scenario prepared _ _ hr
    · exact onRoom_clocked h roomId _ _ fun _ hr => setError_clocked _ hr
  | scenarioStop roomId =>
    exact onRoom_clocked h roomId _ _ fun _ hr => clearScenario_clocked .stopped true true hr
  | scenarioReset roomId =>
    exact onRoom_clocked h roomId _ _ fun _ hr => clearScenario_clocked .idle false false hr
  | next roomId now | nextOnBranch roomId branchId now | approve roomId now =>
    refine onRoom_clocked h roomId _ _ fun r hr => ?_
    unfold roomAdvanceChosen
    split
    · exact hr
    split
    · exact hr
    · exact loopMoves_clocked (C := AnyCall)
        (.roomAdvance .refl _ _ trivial fun _ => trivial) hr
  | event message now =>
    refine Lib.sweep_inv (fun s : WorldEvent => AllClocked s.world) _ _ _ (fun i _ s hs => ?_) h
    unfold worldEventTurn
    split
    · exact hs
    · next session hsession =>
        split
        · exact hs
        · exact put_clocked hs _ (loopMoves_clocked (C := AnyCall)
            (.roomOnEvent _ .refl message _ (roomEventCond_of (fun _ _ _ _ => trivial) _ _ _))
            (hs session (List.mem_of_getElem? hsession)))
  | tick now =>
    refine Lib.sweep_inv (fun s : WorldEvent => AllClocked s.world) _ _ _ (fun i _ s hs => ?_) h
    unfold worldTickTurn
    split
    · exact hs
    · next session hsession =>
        split
        · exact hs
        · exact put_clocked hs _ (loopMoves_clocked (C := AnyCall)
            (.roomTick .refl _ (Lib.along_of_forall _ _ _ _ fun _ _ _ => trivial))
            (hs session (List.mem_of_getElem? hsession)))
  | planNext plan =>
    have hnext := onRoom_clocked h plan.roomId (.error .notFound) (roomNextCommand plan)
      fun r => loopMoves_clocked (C := AnyCall) (.roomNextCommand .refl plan trivial)
    unfold opBody
    simp only
    split
    · exact hnext
    · exact hnext
  | planApply plan dispatch hasMore now =>
    exact onRoom_clocked h plan.roomId _ _ fun r => loopMoves_clocked (C := AnyCall)
      (.roomApplyDispatch .refl plan dispatch hasMore _ trivial)
  | planFail plan errorCode =>
    exact onRoom_clocked h plan.roomId _ _ fun r => loopMoves_clocked (C := AnyCall)
      (.roomFailPlan .refl plan errorCode trivial)
  | resetAll =>
    intro s hs
    rcases List.mem_map.mp hs with ⟨_, -, rfl⟩
    exact rfl

theorem stepOp_clocked (h : AllClocked w) (op : Op) : AllClocked (stepOp w op).2 :=
  opBody_clocked (w := { w with lock := w.lock.acquire }) h op

theorem boot_clocked (rooms : Nat) (entropy : List UInt32) :
    AllClocked (World.boot rooms entropy) := by
  intro s hs
  rw [List.eq_of_mem_replicate hs]
  exact rfl

/-- Session and timer correspond in every state reached. -/
theorem runOps_clocked (rooms : Nat) (entropy : List UInt32) (ops : List Op) :
    AllClocked (runOps (World.boot rooms entropy) ops) := by
  have hboot := boot_clocked rooms entropy
  generalize World.boot rooms entropy = w at hboot
  induction ops generalizing w with
  | nil => exact hboot
  | cons op ops ih => exact ih _ (stepOp_clocked hboot op)

/-! ### Failing operations -/

/-- The operations on the game. -/
def Op.isGameOp : Op → Bool
  | .start .. | .pause .. | .resume .. | .finish .. | .reset .. | .addTime .. | .selectProfile ..
  | .selectScenario .. => true
  | _ => false

/-- An operation on a room that fails without touching its session changes none. -/
theorem onRoomOp_fails (roomId : String) (f : RoomCtx → EspErr × RoomCtx)
    (hf : ∀ s ∈ w.sessions, (f (w.roomCtx s)).1 ≠ .ok → (f (w.roomCtx s)).2.session = s)
    (herr : (onRoomOp w roomId f).1.err ≠ .ok) : (onRoomOp w roomId f).2.sessions = w.sessions := by
  unfold onRoomOp World.onRoom World.onSession at herr ⊢
  cases hfind : w.find roomId with
  | none => rfl
  | some i =>
    simp only [hfind] at herr ⊢
    cases hs : w.sessions[i]? with
    | none => rfl
    | some s =>
      simp only [hs] at herr ⊢
      rcases List.getElem?_eq_some_iff.mp hs with ⟨hlt, hget⟩
      unfold World.put
      rw [hf s (List.mem_of_getElem? hs) herr, ← hget]
      exact List.set_getElem_self hlt

theorem onAllocOp_fails (roomId : String) (f : RoomCtx → EspErr × RoomCtx)
    (hf : ∀ r, (f r).1 = .ok) (herr : (onAllocOp w roomId f).1.err ≠ .ok) :
    (onAllocOp w roomId f).2.sessions = w.sessions := by
  unfold onAllocOp World.onAlloc at herr ⊢
  cases halloc : w.alloc roomId with
  | none => rfl
  | some found =>
    rcases found with ⟨i, w'⟩
    simp only [halloc] at herr
    have hpresent : ∃ s, w'.sessions[i]? = some s := by
      unfold World.alloc at halloc
      split at halloc
      · cases halloc
      split at halloc
      · next hfind =>
          cases halloc
          rcases find_eq_some hfind with ⟨s, hs, -⟩
          exact ⟨s, hs⟩
      split at halloc
      · cases halloc
      · next hfree =>
          cases halloc
          rcases List.findIdx?_eq_some_iff_getElem.mp hfree with ⟨hlt, -, -⟩
          exact ⟨_, List.getElem?_set_self hlt⟩
    rcases hpresent with ⟨s, hs⟩
    unfold World.onSession at herr
    simp only [hs, hf, ne_eq, not_true_eq_false] at herr

theorem gameOp_fails_unchanged (h : AllClocked w) (op : Op) (hop : op.isGameOp = true)
    (herr : (stepOp w op).1.err ≠ .ok) : (stepOp w op).2.sessions = w.sessions := by
  have hlocked : AllClocked { w with lock := w.lock.acquire } := h
  change (opBody { w with lock := w.lock.acquire } op).1.err ≠ .ok at herr
  change (opBody { w with lock := w.lock.acquire } op).2.sessions = w.sessions
  cases op with
  | start roomId durationMs nowMs => exact onAllocOp_fails roomId _ (fun _ => rfl) herr
  | pause roomId nowMs =>
    refine onRoomOp_fails roomId _ (fun s hs hpause => ?_) herr
    rw [(sessionPause_spec (r := World.roomCtx _ s) nowMs (hlocked s hs)).2 hpause]
    rfl
  | resume roomId nowMs =>
    refine onRoomOp_fails roomId _ (fun s hs hresume => ?_) herr
    rw [(sessionResume_spec (r := World.roomCtx _ s) nowMs (hlocked s hs)).2 hresume]
    rfl
  | finish roomId nowMs | reset roomId durationMs nowMs | addTime roomId deltaMs nowMs =>
    exact onRoomOp_fails roomId _ (fun _ _ hne => absurd rfl hne) herr
  | selectProfile roomId profile scenario durationMs now =>
    unfold opBody at herr ⊢
    simp only at herr ⊢
    split
    · rfl
    · next hargs =>
        rw [if_neg hargs] at herr
        split
        · rfl
        · next hrooms =>
            rw [if_neg hrooms] at herr
            exact onAllocOp_fails roomId _ (fun _ => rfl) herr
  | selectScenario roomId scenario =>
    unfold opBody at herr ⊢
    simp only at herr ⊢
    split
    · rfl
    · next hargs =>
        rw [if_neg hargs] at herr
        split
        · rfl
        · next hroom =>
            rw [if_neg hroom] at herr
            exact onAllocOp_fails roomId _ (fun _ => rfl) herr
  | _ => cases hop

/-! ### Game starts -/

theorem stepOpsWhileOk_clocked (h : AllClocked w) (ops : List Op) :
    AllClocked (stepOpsWhileOk w ops).2 := by
  induction ops generalizing w with
  | nil => exact h
  | cons op ops ih =>
    unfold stepOpsWhileOk
    simp only
    split
    · exact stepOp_clocked h op
    · exact ih (stepOp_clocked h op)

theorem gameStart_clocked (h : AllClocked w) (roomId : String) (nowMs : Nat)
    (request : GameStartRequest) (rejected : Option String) (now : Nat) :
    AllClocked (gameStart w roomId nowMs request rejected now).2 := by
  unfold gameStart
  split
  · exact h
  split
  · exact stepOpsWhileOk_clocked h _
  · exact stepOpsWhileOk_clocked h _

/-- In every state reached, each session corresponds to its timer. An operation
    on the game that fails there changes no session. A game start keeps the
    correspondence, and changes nothing if its own checks refuse it. -/
theorem session_and_timer_correspond (rooms : Nat) (entropy : List UInt32) (ops : List Op) :
    let w := runOps (World.boot rooms entropy) ops
    AllClocked w ∧
    (∀ op, op.isGameOp = true → (stepOp w op).1.err ≠ .ok →
      (stepOp w op).2.sessions = w.sessions) ∧
    ∀ roomId nowMs request rejected now,
      AllClocked (gameStart w roomId nowMs request rejected now).2 ∧
      (gameStartCheck roomId request ≠ .ok →
        gameStart w roomId nowMs request rejected now = (gameStartCheck roomId request, w)) := by
  have hclocked := runOps_clocked rooms entropy ops
  refine ⟨hclocked, fun op hop herr => gameOp_fails_unchanged hclocked op hop herr, ?_⟩
  intro roomId nowMs request rejected now
  refine ⟨gameStart_clocked hclocked roomId nowMs request rejected now, fun hcheck => ?_⟩
  unfold gameStart
  rw [if_pos hcheck]

/-- A session made by a hint is idle, and cannot be paused. -/
theorem session_and_timer_correspond_idle :
    (stepOp (runOps (World.boot 1) [.setHint "r" "look up" 5]) (.pause "r" 9)).2.sessions =
      (runOps (World.boot 1) [.setHint "r" "look up" 5]).sessions :=
  (session_and_timer_correspond 1 [] [.setHint "r" "look up" 5]).2.1 (.pause "r" 9) rfl
    (by decide +kernel)

def rejectedRequest : GameStartRequest :=
  { profile := ⟨"p", "Profile", "r", "s"⟩
    profileDurationMs := 1000
    scenario := { id := "s", roomId := "r" }
    prepared := {}
    durationMs := 0 }

/-- A game start whose scenario the validator rejects fails, and leaves the
    session in error. -/
theorem rejected_game_start_changes_session : let w := runOps (World.boot 1) [.start "r" 1000 5]
    let out := gameStart w "r" 20 rejectedRequest (some "scenario has no steps") 20
    out.1 ≠ .ok ∧ out.2.sessions ≠ w.sessions ∧
      out.2.sessions.map (fun s => s.run.progress.scenarioState) = [.error] := by
  decide +kernel

end SceneHub
