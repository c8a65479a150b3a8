import SceneHub.Theory.Moves

/-!
# What a Turn Leaves Alone

A turn of one of the branch loops works on one branch, and a turn of one of
the room loops on one session. The other branches of the session, its
scenario, and the other sessions stay as they are, so what a whole loop does
to a branch is what the turn at that branch does.

## Main definitions

* `Session.frame`: What no branch function changes of a session.
* `RoomCtx.place`: The frame together with one branch.

## Theorems

* `onBranch_place_ne`, `executeBranch_place_ne`: Working on another branch.
* `tickTurn_place_ne`, `eventTurn_place_ne`: Turns at another branch.
* `worldEventTurn_get_ne`, `worldTickTurn_get_ne`: Turns at another room.
-/

namespace SceneHub

open Lib (sweep)

/-- A session without its branches and running fields. -/
def Session.frame (s : Session) : Session := { s with branches := [], run := {} }

/-- What a branch function on the branch at `j` can read of the session besides
    the running fields. -/
def RoomCtx.place (r : RoomCtx) (j : Nat) : Session × Option Branch :=
  (r.session.frame, r.session.branches[j]?)

theorem Session.frame_congr {s t : Session} (h : s.frame = t.frame) :
    s.inUse = t.inUse ∧ s.roomId = t.roomId ∧ s.runningScenario = t.runningScenario ∧
      s.runningScenarioValid = t.runningScenarioValid ∧ s.prepared = t.prepared := by
  simp only [Session.frame, Session.mk.injEq] at h
  exact ⟨h.1, h.2.1, h.2.2.2.2.1, h.2.2.2.2.2.1, h.2.2.2.2.2.2.2.1⟩

namespace RoomCtx

variable {α : Type}

/-! ### Working on one branch -/

theorem env_congr {r r' : RoomCtx} (b : Branch) (h : r.session.frame = r'.session.frame) :
    r.env b = r'.env b := by
  rcases Session.frame_congr h with ⟨-, hroom, hscenario, -, hprepared⟩
  simp only [env, hroom, hscenario, hprepared]

section

variable (r : RoomCtx)

theorem onBranch_some (j : Nat) (absent : α) (f : Env → Ctx → α × Ctx) (b : Branch)
    (h : r.session.branches[j]? = some b) : r.onBranch j absent f =
      ((f (r.env b) (r.ctx b)).1, r.put j b (f (r.env b) (r.ctx b)).2) := by
  unfold onBranch
  rw [h]

theorem onBranch_none (j : Nat) (absent : α) (f : Env → Ctx → α × Ctx)
    (h : r.session.branches[j]? = none) : r.onBranch j absent f = (absent, r) := by
  unfold onBranch
  rw [h]

theorem onBranch_frame (j : Nat) (absent : α) (f : Env → Ctx → α × Ctx) :
    (r.onBranch j absent f).2.session.frame = r.session.frame := by
  cases h : r.session.branches[j]? with
  | none => rw [onBranch_none r j absent f h]
  | some b =>
    rw [onBranch_some r j absent f b h]
    rfl

theorem onBranch_get_ne (i j : Nat) (absent : α) (f : Env → Ctx → α × Ctx)
    (hij : i ≠ j) : (r.onBranch i absent f).2.session.branches[j]? = r.session.branches[j]? := by
  cases h : r.session.branches[i]? with
  | none => rw [onBranch_none r i absent f h]
  | some b =>
    rw [onBranch_some r i absent f b h]
    exact List.getElem?_set_ne hij

theorem onBranch_get_eq (j : Nat) (absent : α) (f : Env → Ctx → α × Ctx)
    (b : Branch) (h : r.session.branches[j]? = some b) :
    (r.onBranch j absent f).2.session.branches[j]? =
      some ⟨b.setup, (f (r.env b) (r.ctx b)).2.branch⟩ := by
  rw [onBranch_some r j absent f b h]
  have hlt : j < r.session.branches.length := (List.getElem?_eq_some_iff.mp h).1
  simp only [put, List.getElem?_set_self hlt]

theorem onBranch_place_ne (i j : Nat) (absent : α) (f : Env → Ctx → α × Ctx)
    (hij : i ≠ j) : (r.onBranch i absent f).2.place j = r.place j :=
  Prod.ext (onBranch_frame r i absent f) (onBranch_get_ne r i j absent f hij)

theorem executeBranch_place_ne (nowMs : UInt32) (budget i j : Nat) (hij : i ≠ j) :
    (r.executeBranch nowMs budget i).2.place j = r.place j := by
  unfold executeBranch
  simp only
  split
  · exact onBranch_place_ne r i j _ _ hij
  · exact onBranch_place_ne r i j _ _ hij

theorem executeBranch_get_eq (nowMs : UInt32) (budget j : Nat) (b : Branch)
    (h : r.session.branches[j]? = some b) :
    (r.executeBranch nowMs budget j).2.session.branches[j]? =
      some ⟨b.setup, (executeBranchCore (r.env b) nowMs budget (r.ctx b)).ctx.branch⟩ := by
  unfold executeBranch
  simp only
  split
  · exact onBranch_get_eq r j _ _ b h
  · exact onBranch_get_eq r j _ _ b h

end

end RoomCtx

/-! ### Turns of the branch loops -/

theorem tickTurn_place_ne (nowMs : UInt32) (i j : Nat) (r : RoomCtx) (hij : i ≠ j) :
    (tickTurn nowMs i r).1.place j = r.place j :=
  RoomCtx.onBranch_place_ne r i j _ _ hij

theorem eventTurn_place_ne (message : Event) (nowMs : UInt32) (found : Nat → ReactiveMatch)
    (conflict : Bool) (i j : Nat) (s : EventCtx) (hij : i ≠ j) :
    (eventTurn message nowMs found conflict i s).1.room.place j = s.room.place j := by
  unfold eventTurn
  split
  · rfl
  simp only
  split
  · exact RoomCtx.onBranch_place_ne s.room i j _ _ hij
  · exact RoomCtx.onBranch_place_ne s.room i j _ _ hij
  · rw [RoomCtx.executeBranch_place_ne _ nowMs _ i j hij]
    exact RoomCtx.onBranch_place_ne s.room i j _ _ hij

/-! ### Where the scratch fields come from -/

/-- The scratch fields behind the conflict scan are the old ones or a branch's. -/
theorem scanScratch_cases (branches : List Branch) (p : Progress) : scanScratch branches p = p ∨
      ∃ b ∈ branches, scanLoads b = true ∧ scanScratch branches p = b.run.progress := by
  unfold scanScratch
  induction branches generalizing p with
  | nil => exact .inl rfl
  | cons b branches ih =>
    rw [List.foldl_cons]
    rcases ih (if scanLoads b then b.run.progress else p) with h | ⟨b', hmem, hloads, h⟩
    · rw [h]
      by_cases hb : scanLoads b = true
      · rw [if_pos hb]
        exact .inr ⟨b, .head _ .., hb, rfl⟩
      · rw [if_neg hb]
        exact .inl rfl
    · exact .inr ⟨b', .tail _ hmem, hloads, h⟩

def SummaryScan.Picks (P : Branch → Prop) (scan : SummaryScan) : Prop :=
  (∀ b, scan.fallback = some b → P b) ∧ (∀ b, scan.selected = some b → P b) ∧
  (∀ b, scan.reactiveSelected = some b → P b)

theorem summaryScan_picks (P : Branch → Prop) (acc : SummaryScan) (branches : List Branch)
    (hacc : acc.Picks P) (hP : ∀ b ∈ branches, b.setup.active = true → P b) :
    (summaryScan acc branches).Picks P := by
  have hmeet : ∀ (acc : SummaryScan) (b : Branch), acc.Picks P → P b → (acc.meet b).Picks P := by
    intro acc b h hb
    refine ⟨fun b' h' => ?_, h.2.1, h.2.2⟩
    unfold SummaryScan.meet at h'
    split at h'
    · cases h'
      exact hb
    · exact h.1 b' h'
  have hnote : ∀ (acc : SummaryScan) (b : Branch), acc.Picks P → P b → (acc.note b).Picks P := by
    intro acc b h hb
    unfold SummaryScan.note
    refine ⟨h.1, fun b' h' => ?_, fun b' h' => ?_⟩
    · split at h'
      · cases h'
        exact hb
      · exact h.2.1 b' h'
    simp only at h'
    split at h'
    · cases h'
      exact hb
    · exact h.2.2 b' h'
  induction branches generalizing acc with
  | nil => exact hacc
  | cons b branches ih =>
    have htail : ∀ b' ∈ branches, b'.setup.active = true → P b' :=
      fun b' hb' => hP b' (.tail _ hb')
    unfold summaryScan
    split
    · exact ih acc hacc htail
    · next hactive =>
        have hb := hP b (.head _ ..) (by simpa using hactive)
        have hmet := hmeet acc b hacc hb
        split
        · split
          · exact ⟨hmet.1, fun b' h' => Option.some.inj h' ▸ hb, hmet.2.2⟩
          refine ih _ ⟨hmet.1, hmet.2.1, fun b' h' => ?_⟩ htail
          rcases Option.or_eq_some_iff.mp h' with hold | ⟨-, hnew⟩
          · exact hmet.2.2 b' hold
          · exact Option.some.inj hnew ▸ hb
        · exact ih _ (hnote _ b hmet hb) htail

theorem summaryChoice_mem {branches : List Branch} {b : Branch}
    (h : (summaryScan {} branches).choice = some b) : b ∈ branches ∧ b.setup.active = true := by
  have hpicks := summaryScan_picks (fun b => b ∈ branches ∧ b.setup.active = true) {} branches
    ⟨by simp, by simp, by simp⟩ fun b hb hactive => ⟨hb, hactive⟩
  rcases Option.or_eq_some_iff.mp h with hselected | ⟨-, hrest⟩
  · exact hpicks.2.1 b hselected
  rcases Option.or_eq_some_iff.mp hrest with hfallback | ⟨-, hreactive⟩
  · exact hpicks.1 b hfallback
  · exact hpicks.2.2 b hreactive

/-! ### The event loop of a room -/

/-- More than one reactive branch of the room matches the event. -/
def roomConflict (r : RoomCtx) (message : Event) : Bool :=
  1 < (r.session.branches.filter fun b => (reactiveMatch r message b).any).length

/-- The conflict scan's result for each branch. -/
def roomFound (r : RoomCtx) (message : Event) (j : Nat) : ReactiveMatch :=
  ((r.session.branches[j]?).map (reactiveMatch r message)).getD {}

/-- What the branch loop starts from, the conflict scan done. -/
def eventEntry (message : Event) (s : EventCtx) : EventCtx :=
  ⟨s.room.mapRun fun run =>
      { run with progress := scanScratch s.room.session.branches run.progress },
    s.matched || roomConflict s.room message⟩

/-- The turn of the branch loop in a room. -/
def roomEventTurn (r : RoomCtx) (message : Event) (nowMs : UInt32) :
    Nat → EventCtx → EventCtx × Bool :=
  eventTurn message nowMs (roomFound r message) (roomConflict r message)

theorem roomOnEvent_eq (message : Event) (nowMs : UInt32) (s : EventCtx)
    (h : message.isDeviceControlResult = false) : (roomOnEvent message nowMs s).1.room =
      (sweep (roomEventTurn s.room message nowMs) (List.range s.room.session.branches.length)
        (eventEntry message s)).1.room.updateSummary := by
  unfold roomOnEvent
  simp only [h, Bool.false_eq_true, if_false]
  rfl

/-! ### Turns of the room loops -/

/-- The world once a transaction has taken the lock. -/
def World.locked (w : World) : World := { w with lock := w.lock.acquire }

/-- The world once what was deferred has been handed over. -/
def World.released (w : World) : World :=
  { w with lock := { w.lock with cancelRequestIds := [], flagEvents := [] } }

theorem stepOp_eq (w : World) (op : Op) : stepOp w op =
      ({ (opBody w.locked op).1 with
          cancels := (opBody w.locked op).2.lock.cancelRequestIds
          flagEvents := (opBody w.locked op).2.lock.flagEvents },
        (opBody w.locked op).2.released) := rfl

theorem worldEventTurn_get_ne (message : Event) (now i k : Nat) (s : WorldEvent) (hik : i ≠ k) :
    (worldEventTurn message now i s).1.world.sessions[k]? = s.world.sessions[k]? := by
  unfold worldEventTurn
  split
  · rfl
  split
  · rfl
  · exact List.getElem?_set_ne hik

theorem worldTickTurn_get_ne (now i k : Nat) (s : WorldEvent) (hik : i ≠ k) :
    (worldTickTurn now i s).1.world.sessions[k]? = s.world.sessions[k]? := by
  unfold worldTickTurn
  split
  · rfl
  split
  · rfl
  · exact List.getElem?_set_ne hik

theorem worldEventTurn_get_eq (message : Event) (now i : Nat) (s : WorldEvent) (session : Session)
    (h : s.world.sessions[i]? = some session) (huse : session.inUse = true)
    (hvalid : session.runningScenarioValid = true) :
    (worldEventTurn message now i s).1.world.sessions[i]? =
      some (roomOnEvent message (scenarioNow now)
        ⟨⟨s.world.lock, session, s.plan⟩, s.matched⟩).1.room.session := by
  have hlt : i < s.world.sessions.length := (List.getElem?_eq_some_iff.mp h).1
  unfold worldEventTurn
  simp [h, huse, hvalid, World.put, List.getElem?_set_self hlt]

theorem worldTickTurn_get_eq (now i : Nat) (s : WorldEvent) (session : Session)
    (h : s.world.sessions[i]? = some session) (huse : session.inUse = true)
    (hvalid : session.runningScenarioValid = true) : (worldTickTurn now i s).1.world.sessions[i]? =
      some (roomTick (scenarioNow now) ⟨s.world.lock, session, s.plan⟩).1.session := by
  have hlt : i < s.world.sessions.length := (List.getElem?_eq_some_iff.mp h).1
  unfold worldTickTurn
  simp [h, huse, hvalid, World.put, List.getElem?_set_self hlt]

end SceneHub
