import SceneHub.Theory.EndGame
import SceneHub.Theory.GameClock
import SceneHub.Theory.NotedTurns

/-!
# Generations

Clients poll a session by its generation, so a transaction that changes what
the session shows has to raise it. Nearly all do: a transaction that gets
anything done notes a change, and the first note of a transaction raises the
generation above every earlier one.

The exceptions are transactions that only look. Looking at a branch loads it
into the fields the session shares with its branches, and the loops over all
branches recompute the summary behind that; neither is noted. What the session
shows then changes exactly if those fields did not already hold what the look
leaves in them.

## Main definitions

* `Session.exposed`: What clients see of a session besides its generation.
* `tickShows`, `eventShows`: What a loop that notes nothing leaves in the
  shared fields.
* `Tells`: What a function on one session does to its generation and fields.

## Theorems

* `roomTick_turn`, `roomOnEvent_turn`: The two branch loops.
* `sessionStart_turn` and the like: The operations that note what they change.
* `roomNextCommand_turn`, `roomApplyDispatch_turn`: The dispatcher's side.
-/

namespace SceneHub

open Lib (sweep)

/-! ### What clients see -/

/-- The shared fields without the number of the activation, which the code does
    not store. -/
def Progress.exposed (p : Progress) : Progress := { p with wait := { p.wait with activation := 0 } }

def Branch.exposed (b : Branch) : Branch :=
  { b with run := { b.run with progress := b.run.progress.exposed } }

/-- A session without the counters of its changes and without what the code does
    not store. -/
def Session.exposed (s : Session) : Session :=
  { s with
    branches := s.branches.map Branch.exposed
    run :=
      { s.run with
        generation := 0, lastChangeLockEpoch := 0, history := []
        progress := s.run.progress.exposed } }

/-- The session with other shared fields. -/
def Session.showing (s : Session) (p : Progress) : Session :=
  { s with run := { s.run with progress := p } }

theorem showing_exposed_iff (s : Session) (p : Progress) :
    (s.showing p).exposed = s.exposed ↔ p.exposed = s.run.progress.exposed := by
  constructor
  · intro h
    exact congrArg (fun t : Session => t.run.progress) h
  intro h
  unfold Session.exposed Session.showing
  simp only [h]

/-! ### The counters of a session -/

namespace RoomCtx

variable {α : Type} {r : RoomCtx}

def stamp (r : RoomCtx) : Stamp := .of r.lock r.session.run

theorem stamp_markChanged (r : RoomCtx) : r.markChanged.stamp = r.stamp.mark :=
  Stamp.of_noteChange r.lock r.session.roomId r.session.run

theorem noted_markChanged (r : RoomCtx) : r.markChanged.stamp.Noted := by
  rw [stamp_markChanged]
  exact Stamp.noted_mark _

theorem updateSummary_stamp (r : RoomCtx) : r.updateSummary.stamp = r.stamp := by
  unfold stamp updateSummary mapRun SceneHub.updateSummary
  split
  · rfl
  · split <;> rfl

end RoomCtx

variable {r r' : RoomCtx}

/-- Running branches moves the counters of the session on. -/
theorem loopMoves_leads {C : CallCond} (h : LoopMoves C r r') : r.stamp.Leads r'.stamp := by
  refine h.preserves (fun t => r.stamp.Leads t.stamp) (fun t t' hstep ht => ht.trans ?_) (.refl _)
  cases hstep with
  | branch j b call hb hC =>
    exact callMoves_stamp (call.moves (fun _ => True) (fun _ => True) (t.env b) (t.ctx b)
      fun _ _ _ _ _ => ⟨trivial, trivial⟩)
  | summary =>
    rw [RoomCtx.updateSummary_stamp]
    exact .refl _
  | scan | planNone => exact .refl _

theorem roomTick_leads (nowMs : UInt32) (r : RoomCtx) : r.stamp.Leads (roomTick nowMs r).1.stamp :=
  loopMoves_leads (C := AnyCall)
    (.roomTick .refl nowMs (Lib.along_of_forall _ _ _ _ fun _ _ _ => trivial))

theorem executeBranch_leads (r : RoomCtx) (nowMs : UInt32) (budget j : Nat) :
    r.stamp.Leads (r.executeBranch nowMs budget j).2.stamp :=
  loopMoves_leads (C := AnyCall) (.executeBranch .refl nowMs budget j trivial)

theorem roomOnEvent_leads (message : Event) (nowMs : UInt32) (s : EventCtx) :
    s.room.stamp.Leads (roomOnEvent message nowMs s).1.room.stamp :=
  loopMoves_leads (C := AnyCall)
    (.roomOnEvent s .refl message nowMs (roomEventCond_of (fun _ _ _ _ => trivial) _ _ _))

theorem executeAllRunning_leads (nowMs : UInt32) (r : RoomCtx) :
    r.stamp.Leads (executeAllRunning nowMs r).2.stamp :=
  loopMoves_leads (C := AnyCall) (.executeAllRunning .refl nowMs fun _ _ => trivial)

/-! ### Turns -/

/-- A function on one session moves its counters at most once. Either it notes
    a change, or what the session shows stays the same under the condition `A`
    alone. -/
structure Tells (A : Prop) (r r' : RoomCtx) : Prop where
  leads : r.stamp.Leads r'.stamp
  told : (r'.stamp.Noted ∧ A) ∨
    (r'.stamp = r.stamp ∧ (r'.session.exposed = r.session.exposed ↔ A))

theorem Tells.noted {A : Prop} (hleads : r.stamp.Leads r'.stamp) (hnoted : r'.stamp.Noted)
    (hA : A) : Tells A r r' := ⟨hleads, .inl ⟨hnoted, hA⟩⟩

theorem Tells.same {A : Prop} (r : RoomCtx) (hA : A) : Tells A r r :=
  ⟨.refl _, .inr ⟨rfl, fun _ => hA, fun _ => rfl⟩⟩

/-- The shared fields are the only ones written, and no change is noted. -/
theorem Tells.shows {A : Prop} (p : Progress) (hstamp : r'.stamp = r.stamp)
    (hsession : r'.session = r.session.showing p)
    (hA : A ↔ p.exposed = r.session.run.progress.exposed) : Tells A r r' := by
  refine ⟨.inl hstamp, .inr ⟨hstamp, ?_⟩⟩
  rw [hsession]
  exact (showing_exposed_iff r.session p).trans hA.symm

/-! ### Looking at branches -/

theorem branches_set_self {r : RoomCtx} {j : Nat} {b : Branch}
    (hb : r.session.branches[j]? = some b) :
    r.session.branches.set j ⟨b.setup, b.run⟩ = r.session.branches := by
  rcases List.getElem?_eq_some_iff.mp hb with ⟨hlt, hget⟩
  rw [show (⟨b.setup, b.run⟩ : Branch) = r.session.branches[j] from hget.symm]
  exact List.set_getElem_self hlt

theorem put_unchanged (r : RoomCtx) (j : Nat) (b : Branch) (hb : r.session.branches[j]? = some b) :
    r.put j b (r.ctx b) = r := by
  unfold RoomCtx.put RoomCtx.ctx
  simp only [branches_set_self hb]

theorem put_loaded (r : RoomCtx) (j : Nat) (b : Branch) (hb : r.session.branches[j]? = some b) :
    r.put j b (r.ctx b).load = ⟨r.lock, r.session.showing b.run.progress, r.plan⟩ := by
  unfold RoomCtx.put RoomCtx.ctx Ctx.load Session.showing
  simp only [branches_set_self hb]

/-- The summary recomputed behind such a look. -/
def summaryOf (s : Session) (p : Progress) : Progress :=
  (updateSummary s.branches { s.run with progress := p }).progress

theorem updateSummary_showing (lock : Lock) (s : Session) (p : Progress)
    (plan : Option CommandPlan) : (⟨lock, s.showing p, plan⟩ : RoomCtx).updateSummary =
      ⟨lock, s.showing (summaryOf s p), plan⟩ := by
  unfold RoomCtx.updateSummary RoomCtx.mapRun summaryOf updateSummary Session.showing
  split
  · rfl
  · split <;> rfl

/-! ### A tick on a session -/

def tickNoted (s : Session) (nowMs : UInt32) : Prop :=
  ∃ b ∈ s.branches,
    tickNotes ((RoomCtx.mk {} s none).env b) nowMs s.run.scenarioFlags b.run = true

instance (s : Session) (nowMs : UInt32) : Decidable (tickNoted s nowMs) :=
  inferInstanceAs (Decidable (∃ b ∈ s.branches, _))

/-- What a tick that notes nothing leaves in the shared fields. -/
def tickShows (s : Session) : Progress := summaryOf s (tickScratch s.branches s.run.progress)

theorem roomTick_turn (nowMs : UInt32) (r : RoomCtx) (hplan : r.plan = none) :
    Tells (tickNoted r.session nowMs ∨ (tickShows r.session).exposed = r.session.run.progress.exposed)
      r (roomTick nowMs r).1 := by
  have hleads := roomTick_leads nowMs r
  unfold roomTick at hleads ⊢
  by_cases hne : r.session.branches = []
  · -- Without branches there is no summary to recompute.
    rw [if_pos hne]
    refine Tells.same r (.inr ?_)
    unfold tickShows summaryOf updateSummary
    simp only [hne, if_true]
    rfl
  rw [if_neg hne] at hleads ⊢
  let R : Progress → RoomCtx → Prop := fun p t => t = ⟨r.lock, r.session.showing p, none⟩
  let notes : Nat → Prop := fun j => ∃ b, r.session.branches[j]? = some b ∧
    tickNotes (r.env b) nowMs r.session.run.scenarioFlags b.run = true
  have hstart : R r.session.run.progress r := by
    change r = ⟨r.lock, r.session, none⟩
    rw [← hplan]
  have hquiet : ∀ j p t, R p t → ¬ notes j →
      R (loadAt r.session.branches p j) (tickTurn nowMs j t).1 ∧
        (tickTurn nowMs j t).2 = false := by
    rintro j p _ rfl hnot
    let t : RoomCtx := ⟨r.lock, r.session.showing p, none⟩
    unfold tickTurn loadAt
    cases hb : r.session.branches[j]? with
    | none =>
      rw [RoomCtx.onBranch_none t j _ _ hb]
      exact ⟨rfl, rfl⟩
    | some b =>
      have hnone : tickNotes (r.env b) nowMs r.session.run.scenarioFlags b.run = false :=
        Bool.eq_false_iff.mpr fun h => hnot ⟨b, hb, h⟩
      have hturn : processBranch (t.env b) nowMs (t.ctx b) =
          (if tickLoads b then (t.ctx b).load else t.ctx b, false) :=
        processBranch_unnoted (e := r.env b) (c := t.ctx b) nowMs rfl hnone
      rw [RoomCtx.onBranch_some t j _ _ b hb, hturn, Option.elim_some]
      refine ⟨?_, rfl⟩
      by_cases hload : tickLoads b = true
      · rw [if_pos hload, if_pos hload]
        exact put_loaded t j b hb
      · rw [if_neg hload, if_neg hload]
        exact put_unchanged t j b hb
  have hnote : ∀ j p t, R p t → notes j → (tickTurn nowMs j t).1.stamp.Noted := by
    rintro j p _ rfl ⟨b, hb, hnotes⟩
    let t : RoomCtx := ⟨r.lock, r.session.showing p, none⟩
    unfold tickTurn
    rw [RoomCtx.onBranch_some t j _ _ b hb]
    exact processBranch_noted (e := r.env b) (c := t.ctx b) nowMs rfl hnotes
  have hmem : tickNoted r.session nowMs ↔
      ∃ j ∈ List.range r.session.branches.length, notes j := by
    constructor
    · rintro ⟨b, hmem, hnotes⟩
      rcases List.getElem?_of_mem hmem with ⟨j, hb⟩
      exact ⟨j, List.mem_range.mpr (List.getElem?_eq_some_iff.mp hb).1, b, hb, hnotes⟩
    · rintro ⟨j, -, b, hb, hnotes⟩
      exact ⟨b, List.mem_of_getElem? hb, hnotes⟩
  by_cases hnoted : tickNoted r.session nowMs
  · refine Tells.noted hleads ?_ (.inl hnoted)
    simp only [RoomCtx.updateSummary_stamp]
    exact Lib.sweep_of_note R (fun t : RoomCtx => t.stamp.Noted) notes (loadAt r.session.branches)
      (tickTurn nowMs) hquiet hnote (fun j t ht => ht.leads
        (loopMoves_leads (C := AnyCall) (.tickTurn .refl nowMs j trivial))) _ _ r hstart
      (hmem.mp hnoted)
  have hloop := (Lib.sweep_of_quiet R notes (loadAt r.session.branches) (tickTurn nowMs) hquiet
    (List.range r.session.branches.length) _ r hstart
    fun j hj hnotes => hnoted (hmem.mpr ⟨j, hj, hnotes⟩)).1
  have hfold : (List.range r.session.branches.length).foldl (loadAt r.session.branches)
      r.session.run.progress = tickScratch r.session.branches r.session.run.progress :=
    Lib.foldl_range_get (fun p b => if tickLoads b then b.run.progress else p) _ _
  rw [hfold] at hloop
  simp only
  rw [show (sweep (tickTurn nowMs) (List.range r.session.branches.length) r).1 = _ from hloop,
    updateSummary_showing]
  exact Tells.shows _ rfl rfl ⟨fun h => h.resolve_left hnoted, .inr⟩

/-! ### An event on a session -/

/-- The turn of the event loop at branch `j` notes a change. -/
def eventTurnNotes (r : RoomCtx) (message : Event) (nowMs : UInt32) (found : Nat → ReactiveMatch)
    (conflict : Bool) (j : Nat) : Bool :=
  !(conflict && (found j).any) &&
  (r.session.branches[j]?).any fun b =>
    eventNotes (r.env b) nowMs r.session.run.scenarioFlags b.run message (found j).trigger

/-- What a turn of the event loop that notes nothing makes of the shared fields. -/
def eventLoadAt (branches : List Branch) (found : Nat → ReactiveMatch) (conflict : Bool)
    (p : Progress) (j : Nat) : Progress :=
  if conflict && (found j).any then p
  else (branches[j]?).elim p fun b => if awaitsEvent b.setup b.run then b.run.progress else p

/-- A branch the conflict scan finds triggered listens, and waits for no event. -/
def Listens (branches : List Branch) (found : Nat → ReactiveMatch) : Prop :=
  ∀ (j : Nat) (b : Branch), branches[j]? = some b → (found j).trigger = true →
    awaitsEvent b.setup b.run = false

section EventLoop

variable (message : Event) (nowMs : UInt32) (found : Nat → ReactiveMatch) (conflict : Bool)

theorem eventTurn_quiet (r : RoomCtx) (hlistens : Listens r.session.branches found) (j : Nat)
    (p : Progress) (s : EventCtx) (hs : s.room = ⟨r.lock, r.session.showing p, none⟩)
    (h : eventTurnNotes r message nowMs found conflict j = false) :
    (eventTurn message nowMs found conflict j s).1.room =
        ⟨r.lock, r.session.showing (eventLoadAt r.session.branches found conflict p j), none⟩ ∧
      (eventTurn message nowMs found conflict j s).2 = false := by
  let t : RoomCtx := ⟨r.lock, r.session.showing p, none⟩
  have hs : s.room = t := hs
  unfold eventTurn eventLoadAt
  cases hskip : conflict && (found j).any with
  | true =>
    rw [Bool.and_eq_true] at hskip
    rw [if_pos hskip, if_pos rfl]
    exact ⟨hs, rfl⟩
  | false =>
    have hgo : ¬ (conflict = true ∧ (found j).any = true) := by
      rw [← Bool.and_eq_true, hskip]
      exact Bool.false_ne_true
    rw [if_neg hgo, if_neg Bool.false_ne_true, hs]
    simp only [eventTurnNotes, hskip, Bool.not_false, Bool.true_and] at h
    cases hb : r.session.branches[j]? with
    | none =>
      rw [RoomCtx.onBranch_none t j _ _ hb]
      exact ⟨rfl, rfl⟩
    | some b =>
      rw [hb, Option.any_some] at h
      rcases branchOnEvent_unnoted (e := t.env b) (c := t.ctx b) message (found j).trigger
        nowMs (hlistens j b hb) h with ⟨hctx, hafter⟩
      have hput : t.put j b
          (branchOnEvent (t.env b) message (found j).trigger nowMs (t.ctx b)).ctx =
            ⟨r.lock, r.session.showing
              (if awaitsEvent b.setup b.run then b.run.progress else p), none⟩ := by
        rw [hctx]
        by_cases hawaits : awaitsEvent b.setup b.run = true
        · rw [if_pos hawaits]
          exact (congrArg (t.put j b) (if_pos hawaits)).trans (put_loaded t j b hb)
        · rw [if_neg hawaits]
          exact (congrArg (t.put j b) (if_neg hawaits)).trans (put_unchanged t j b hb)
      rw [RoomCtx.onBranch_some t j _ _ b hb, Option.elim_some]
      simp only [hput]
      cases hexit : (branchOnEvent (t.env b) message (found j).trigger nowMs (t.ctx b)).after with
      | next => exact ⟨rfl, rfl⟩
      | checkPlan => exact ⟨rfl, rfl⟩
      | execute => exact absurd hexit hafter

theorem eventTurn_noted (r : RoomCtx) (j : Nat) (p : Progress) (s : EventCtx)
    (hs : s.room = ⟨r.lock, r.session.showing p, none⟩)
    (h : eventTurnNotes r message nowMs found conflict j = true) :
    (eventTurn message nowMs found conflict j s).1.room.stamp.Noted := by
  let t : RoomCtx := ⟨r.lock, r.session.showing p, none⟩
  have hs : s.room = t := hs
  simp only [eventTurnNotes, Bool.and_eq_true, Bool.not_eq_true'] at h
  rcases h with ⟨hskip, hnotes⟩
  have hgo : ¬ (conflict = true ∧ (found j).any = true) := by
    rw [← Bool.and_eq_true, hskip]
    exact Bool.false_ne_true
  unfold eventTurn
  rw [if_neg hgo, hs]
  cases hb : r.session.branches[j]? with
  | none =>
    rw [hb] at hnotes
    cases hnotes
  | some b =>
    rw [hb, Option.any_some] at hnotes
    have hturn : (t.put j b (branchOnEvent (t.env b) message (found j).trigger nowMs
        (t.ctx b)).ctx).stamp.Noted :=
      branchOnEvent_noted (e := t.env b) (c := t.ctx b) message (found j).trigger nowMs hnotes
    rw [RoomCtx.onBranch_some t j _ _ b hb]
    simp only
    split
    · exact hturn
    · exact hturn
    · exact hturn.leads (executeBranch_leads _ nowMs _ j)

theorem eventLoop_quiet (js : List Nat) (r : RoomCtx) (hlistens : Listens r.session.branches found)
    (p : Progress) (s : EventCtx) (hs : s.room = ⟨r.lock, r.session.showing p, none⟩)
    (h : ∀ j ∈ js, ¬ eventTurnNotes r message nowMs found conflict j = true) :
    (eventLoop message nowMs found conflict js s).1.room =
      ⟨r.lock, r.session.showing
        (summaryOf r.session (js.foldl (eventLoadAt r.session.branches found conflict) p)), none⟩ := by
  have hloop := (Lib.sweep_of_quiet
    (fun p (t : EventCtx) => t.room = ⟨r.lock, r.session.showing p, none⟩)
    (fun j => eventTurnNotes r message nowMs found conflict j = true)
    (eventLoadAt r.session.branches found conflict) (eventTurn message nowMs found conflict)
    (fun j p t ht hnot => eventTurn_quiet message nowMs found conflict r hlistens j p t ht
      (Bool.eq_false_iff.mpr hnot)) js p s hs h).1
  unfold eventLoop
  simp only [hloop, updateSummary_showing]

theorem eventLoop_noted (js : List Nat) (r : RoomCtx) (hlistens : Listens r.session.branches found)
    (p : Progress) (s : EventCtx) (hs : s.room = ⟨r.lock, r.session.showing p, none⟩)
    (h : ∃ j ∈ js, eventTurnNotes r message nowMs found conflict j = true) :
    (eventLoop message nowMs found conflict js s).1.room.stamp.Noted := by
  unfold eventLoop
  simp only [RoomCtx.updateSummary_stamp]
  exact Lib.sweep_of_note (fun p (t : EventCtx) => t.room = ⟨r.lock, r.session.showing p, none⟩)
    (fun t : EventCtx => t.room.stamp.Noted)
    (fun j => eventTurnNotes r message nowMs found conflict j = true)
    (eventLoadAt r.session.branches found conflict) (eventTurn message nowMs found conflict)
    (fun j p t ht hnot => eventTurn_quiet message nowMs found conflict r hlistens j p t ht
      (Bool.eq_false_iff.mpr hnot))
    (fun j p t ht hnotes => eventTurn_noted message nowMs found conflict r j p t ht hnotes)
    (fun j t ht => ht.leads (loopMoves_leads (C := AnyCall)
      (.eventTurn t .refl message nowMs found conflict j ⟨trivial, fun _ => trivial⟩))) js p s hs h

end EventLoop

/-- An event notes a change of the session. Of a command's result that is up to
    the one branch that awaits it. -/
def eventNoted (s : Session) (message : Event) (nowMs : UInt32) : Prop :=
  let r : RoomCtx := ⟨{}, s, none⟩
  if message.isDeviceControlResult then
    ∃ j ∈ (commandResultWaitBranch s.branches message).toList,
      eventTurnNotes r message nowMs (fun _ => {}) false j = true
  else
    ∃ j ∈ List.range s.branches.length,
      eventTurnNotes r message nowMs (roomFound r message) (roomConflict r message) j = true

instance (s : Session) (message : Event) (nowMs : UInt32) :
    Decidable (eventNoted s message nowMs) := by
  unfold eventNoted
  infer_instance

/-- What an event that notes nothing leaves in the shared fields. -/
def eventShows (s : Session) (message : Event) : Progress :=
  let r : RoomCtx := ⟨{}, s, none⟩
  if message.isDeviceControlResult then
    match commandResultWaitBranch s.branches message with
    | none => s.run.progress
    | some j => summaryOf s (eventLoadAt s.branches (fun _ => {}) false s.run.progress j)
  else
    summaryOf s ((List.range s.branches.length).foldl
      (eventLoadAt s.branches (roomFound r message) (roomConflict r message))
      (scanScratch s.branches s.run.progress))

theorem roomFound_listens (r : RoomCtx) (message : Event) :
    Listens r.session.branches (roomFound r message) := by
  intro j b hb htrigger
  unfold roomFound reactiveMatch at htrigger
  rw [hb, Option.map_some, Option.getD_some] at htrigger
  split at htrigger
  · cases htrigger
  simp only [Bool.and_eq_true, Bool.or_eq_true, decide_eq_true_iff] at htrigger
  unfold awaitsEvent WaitType.isEventWait
  rcases htrigger.2 with h | h
  · simp [h]
  · simp [h]

theorem roomOnEvent_turn (message : Event) (nowMs : UInt32) (s : EventCtx)
    (hplan : s.room.plan = none) : Tells (eventNoted s.room.session message nowMs ∨
        (eventShows s.room.session message).exposed = s.room.session.run.progress.exposed)
      s.room (roomOnEvent message nowMs s).1.room := by
  have hleads := roomOnEvent_leads message nowMs s
  rcases s with ⟨⟨lock, session, plan⟩, matched⟩
  have hplan : plan = none := hplan
  subst hplan
  unfold roomOnEvent at hleads ⊢
  unfold eventNoted eventShows
  by_cases hresult : message.isDeviceControlResult = true
  · simp only [hresult, if_true] at hleads ⊢
    cases hj : commandResultWaitBranch session.branches message with
    | none => exact Tells.same _ (.inr rfl)
    | some j =>
      rw [hj] at hleads
      simp only [Option.toList_some, List.mem_singleton, exists_eq_left] at hleads ⊢
      have hlistens : Listens session.branches fun _ => {} :=
        fun _ _ _ h => by cases h
      by_cases hnotes : eventTurnNotes ⟨{}, session, none⟩ message nowMs (fun _ => {}) false j = true
      · refine Tells.noted hleads ?_ (.inl hnotes)
        exact eventLoop_noted message nowMs _ _ [j] ⟨lock, session, none⟩ hlistens
          session.run.progress _ rfl ⟨j, List.mem_singleton_self j, hnotes⟩
      rw [eventLoop_quiet message nowMs _ _ [j] ⟨lock, session, none⟩ hlistens
        session.run.progress _ rfl fun k hk => by rw [List.mem_singleton.mp hk]; exact hnotes]
      exact Tells.shows (r := ⟨lock, session, none⟩) _ rfl rfl
        ⟨fun h => h.resolve_left hnotes, .inr⟩
  rw [Bool.not_eq_true] at hresult
  simp only [hresult, Bool.false_eq_true, if_false] at hleads ⊢
  let bare : RoomCtx := ⟨{}, session, none⟩
  have hlistens : Listens session.branches (roomFound bare message) :=
    roomFound_listens bare message
  by_cases hnotes : ∃ j ∈ List.range session.branches.length,
      eventTurnNotes bare message nowMs (roomFound bare message) (roomConflict bare message) j =
        true
  · refine Tells.noted hleads ?_ (.inl hnotes)
    exact eventLoop_noted message nowMs _ _ _ ⟨lock, session, none⟩ hlistens
      (scanScratch session.branches session.run.progress) _ rfl hnotes
  have hloop := eventLoop_quiet message nowMs (roomFound bare message)
    (roomConflict bare message) (List.range session.branches.length) ⟨lock, session, none⟩
    hlistens (scanScratch session.branches session.run.progress)
    ⟨⟨lock, session.showing (scanScratch session.branches session.run.progress), none⟩,
      matched || roomConflict bare message⟩ rfl
    fun j hj h => hnotes ⟨j, hj, h⟩
  have hstamp := congrArg RoomCtx.stamp hloop
  have hsession := congrArg RoomCtx.session hloop
  exact Tells.shows (r := ⟨lock, session, none⟩) _ hstamp hsession
    ⟨fun h => Or.resolve_left h hnotes, Or.inr⟩

/-! ### The dispatcher's side -/

/-- What looking at a plan's branch leaves in the shared fields. -/
def planShows (s : Session) (plan : CommandPlan) : Progress :=
  if s.runningScenarioValid then
    (s.branches[plan.branchIndex]?).elim s.run.progress fun b =>
      if b.setup.active then b.run.progress else s.run.progress
  else s.run.progress

/-- A dispatch result is taken, and no further command of the plan follows. -/
def dispatchNoted (s : Session) (plan : CommandPlan) (dispatch : DispatchResult) (hasMore : Bool) :
    Bool :=
  s.runningScenarioValid &&
  (s.branches[plan.branchIndex]?).any fun b =>
    b.setup.active && planFits plan b.run && (dispatch.resultRequired || !hasMore)

section

variable (plan : CommandPlan)

theorem roomNextCommand_turn (r : RoomCtx) :
    Tells ((planShows r.session plan).exposed = r.session.run.progress.exposed) r
      (roomNextCommand plan r).2 := by
  unfold roomNextCommand planShows
  cases hvalid : r.session.runningScenarioValid with
  | false => exact Tells.same r rfl
  | true =>
    simp only [Bool.not_true, Bool.false_eq_true, if_false, if_true]
    cases hb : r.session.branches[plan.branchIndex]? with
    | none =>
      rw [RoomCtx.onBranch_none _ _ _ _ hb]
      exact Tells.same r rfl
    | some b =>
      have henv : (r.env b).setup.active = b.setup.active := rfl
      rw [RoomCtx.onBranch_some _ _ _ _ b hb, nextCommand_ctx, Option.elim_some, henv]
      cases b.setup.active with
      | false =>
        simp only [Bool.false_eq_true, if_false]
        rw [put_unchanged r _ b hb]
        exact Tells.same r trivial
      | true =>
        simp only [if_true]
        rw [put_loaded r _ b hb]
        exact Tells.shows _ rfl rfl Iff.rfl

theorem applyDispatch_noted {e : Env} {c : Ctx} (dispatch : DispatchResult)
    (hasMore : Bool) (nowMs : UInt32) (hactive : e.setup.active = true)
    (hfits : planFits plan c.branch = true) (hlast : (dispatch.resultRequired || !hasMore) = true) :
    (applyDispatch e plan dispatch hasMore nowMs c).ctx.Noted ∧
      c.stamp.Leads (applyDispatch e plan dispatch hasMore nowMs c).ctx.stamp := by
  refine ⟨?_, callMoves_stamp (CallMoves.applyDispatch (R := fun _ => True) (K := fun _ => True)
    plan dispatch hasMore nowMs trivial trivial)⟩
  unfold applyDispatch
  rw [planMatches_eq, if_pos hactive, hfits]
  simp only
  split
  · exact setError_noted e _ _
  cases hrequired : dispatch.resultRequired with
  | true =>
    unfold enterWaitCommandResult
    rw [hrequired]
    exact enterWait_noted e _ _
  | false =>
    rw [hrequired, Bool.false_or, Bool.not_eq_true'] at hlast
    simp only [Bool.false_eq_true, if_false, hlast]
    split
    · -- A step's command is done, which is noted before the next step is run.
      unfold stepDispatched
      simp only
      split
      · exact (Moves.executeBranchCore .refl nowMs _).noted (noted_markChanged e _)
      · exact (Moves.executeBranchCore .refl nowMs _).noted (noted_markChanged e _)
    · unfold reactiveDispatched
      simp only
      split
      · exact (Moves.continueLocked .refl nowMs).noted (noted_markChanged e _)
      · exact (Moves.continueLocked .refl nowMs).noted (noted_markChanged e _)

theorem applyDispatch_unnoted {e : Env} {c : Ctx} (dispatch : DispatchResult)
    (hasMore : Bool) (nowMs : UInt32) (hactive : e.setup.active = true)
    (h : (planFits plan c.branch && (dispatch.resultRequired || !hasMore)) = false) :
    (applyDispatch e plan dispatch hasMore nowMs c).atSummary = false ∧
      ∃ plan', (applyDispatch e plan dispatch hasMore nowMs c).ctx = { c.load with plan := plan' } := by
  unfold applyDispatch
  rw [planMatches_eq, if_pos hactive]
  cases hfits : planFits plan c.branch with
  | false => exact ⟨rfl, none, rfl⟩
  | true =>
    rw [hfits, Bool.true_and, Bool.or_eq_false_iff, Bool.not_eq_false'] at h
    simp only [h.1, h.2, Bool.false_eq_true, and_false, if_false, if_true]
    exact ⟨trivial, _, rfl⟩

theorem roomApplyDispatch_turn (dispatch : DispatchResult) (hasMore : Bool)
    (nowMs : UInt32) (r : RoomCtx) : Tells (dispatchNoted r.session plan dispatch hasMore = true ∨
        (planShows r.session plan).exposed = r.session.run.progress.exposed)
      r (roomApplyDispatch plan dispatch hasMore nowMs r).2 := by
  unfold roomApplyDispatch planShows dispatchNoted
  cases hvalid : r.session.runningScenarioValid with
  | false => exact Tells.same r (.inr rfl)
  | true =>
    simp only [Bool.not_true, Bool.false_eq_true, if_false, if_true, Bool.true_and]
    cases hb : r.session.branches[plan.branchIndex]? with
    | none =>
      rw [RoomCtx.onBranch_none _ _ _ _ hb]
      exact Tells.same r (.inr rfl)
    | some b =>
      rw [RoomCtx.onBranch_some _ _ _ _ b hb, Option.any_some, Option.elim_some]
      cases hactive : b.setup.active with
      | false =>
        have henv : (r.env b).setup.active = false := hactive
        have hctx : applyDispatch (r.env b) plan dispatch hasMore nowMs (r.ctx b) =
            ⟨.ok, false, { r.ctx b with plan := none }⟩ := by
          unfold applyDispatch
          rw [planMatches_eq, if_neg (by rw [henv]; exact Bool.false_ne_true)]
        rw [hctx]
        simp only [Bool.false_and, Bool.false_eq_true, if_false]
        have hkept := congrArg RoomCtx.session (put_unchanged r plan.branchIndex b hb)
        exact Tells.shows r.session.run.progress rfl (by exact hkept)
          ⟨fun _ => rfl, fun _ => .inr trivial⟩
      | true =>
        have henv : (r.env b).setup.active = true := hactive
        simp only [Bool.true_and, if_true]
        cases hnotes : planFits plan b.run && (dispatch.resultRequired || !hasMore) with
        | true =>
          rw [Bool.and_eq_true] at hnotes
          rcases applyDispatch_noted (e := r.env b) (c := r.ctx b) plan dispatch hasMore
            nowMs henv hnotes.1 hnotes.2 with ⟨hnoted, hleads⟩
          simp only
          split
          · refine Tells.noted ?_ ?_ (.inl trivial)
            · rw [RoomCtx.updateSummary_stamp]
              exact hleads
            · rw [RoomCtx.updateSummary_stamp]
              exact hnoted
          · exact Tells.noted hleads hnoted (.inl trivial)
        | false =>
          rcases applyDispatch_unnoted (e := r.env b) (c := r.ctx b) plan dispatch hasMore
            nowMs henv hnotes with ⟨hsummary, plan', hctx⟩
          rw [hsummary, hctx]
          simp only [Bool.false_eq_true, if_false, false_or]
          exact Tells.shows b.run.progress rfl
            (congrArg RoomCtx.session (put_loaded r plan.branchIndex b hb)) Iff.rfl

theorem roomFailPlan_turn (errorCode : String) (r : RoomCtx) :
    Tells True r (roomFailPlan plan errorCode r) := by
  unfold roomFailPlan
  cases hvalid : r.session.runningScenarioValid with
  | false => exact Tells.same r trivial
  | true =>
    simp only [Bool.not_true, Bool.false_eq_true, if_false]
    cases hb : r.session.branches[plan.branchIndex]? with
    | none =>
      rw [RoomCtx.onBranch_none _ _ _ _ hb]
      exact Tells.same r trivial
    | some b =>
      rw [RoomCtx.onBranch_some _ _ _ _ b hb]
      have hleads : r.stamp.Leads (failPlan (r.env b) plan errorCode (r.ctx b)).stamp :=
        moves_stamp (Moves.failPlan .refl plan errorCode)
      refine Tells.noted ?_ ?_ trivial
      · simp only [if_true, RoomCtx.updateSummary_stamp]
        exact hleads
      · simp only [if_true, RoomCtx.updateSummary_stamp]
        exact setError_noted (r.env b) _ _

end

/-! ### The operator -/

theorem roomAdvanceChosen_turn (choose : Session → Option Nat) (now : Nat) (r : RoomCtx) :
    Tells True r (roomAdvanceChosen choose now r).2 := by
  unfold roomAdvanceChosen
  split
  · exact Tells.same r trivial
  split
  · exact Tells.same r trivial
  · next j _ =>
      unfold roomAdvance
      cases hb : r.session.branches[j]? with
      | none =>
        rw [RoomCtx.onBranch_none _ _ _ _ hb]
        have hcore : (r.executeBranch (scenarioNow now) maxStepsPerTick j).2 = r := by
          unfold RoomCtx.executeBranch
          rw [RoomCtx.onBranch_none _ _ _ _ hb]
          rfl
        rw [hcore]
        exact Tells.same r trivial
      | some b =>
        rw [RoomCtx.onBranch_some _ _ _ _ b hb]
        have hleft : (r.put j b (leaveWait (r.env b) (r.ctx b))).stamp.Noted :=
          noted_markChanged (r.env b) _
        have hleads : r.stamp.Leads (r.put j b (leaveWait (r.env b) (r.ctx b))).stamp :=
          moves_stamp (Moves.leaveWait (e := r.env b) (.refl (a := r.ctx b)))
        have hrun := executeBranch_leads (r.put j b (leaveWait (r.env b) (r.ctx b)))
          (scenarioNow now) maxStepsPerTick j
        exact Tells.noted (hleads.trans hrun) (hleft.leads hrun) trivial

/-! ### Operations that note what they change -/

/-- A function that ends in a note, with fields written before and behind it. -/
theorem Tells.marks (r₀ : RoomCtx) (h₀ : r₀.stamp = r.stamp) (h : r'.stamp = r₀.stamp.mark) :
    Tells True r r' := by
  refine Tells.noted ?_ ?_ trivial
  · rw [h, h₀]
    exact Stamp.leads_mark _
  · rw [h]
    exact Stamp.noted_mark _

theorem RoomCtx.stamp_congr (hlock : r'.lock.counters = r.lock.counters)
    (hgeneration : r'.session.run.generation = r.session.run.generation)
    (hlast : r'.session.run.lastChangeLockEpoch = r.session.run.lastChangeLockEpoch) :
    r'.stamp = r.stamp := by
  simp only [Lock.counters, Prod.mk.injEq] at hlock
  simp only [RoomCtx.stamp, Stamp.of, hlock, hgeneration, hlast]

theorem cancelBranches_counters (l : Lock) (branches : List Branch) :
    (l.cancelBranches branches).counters = l.counters := by
  unfold Lock.cancelBranches
  induction branches generalizing l with
  | nil => rfl
  | cons b branches ih =>
    rw [List.foldl_cons]
    exact (ih _).trans (cancelWait_counters l _)

theorem clearWait_stamp (r : RoomCtx) : r.clearWait.stamp = r.stamp :=
  RoomCtx.stamp_congr (cancelWait_counters _ _) rfl rfl

theorem clearBranches_stamp (r : RoomCtx) : r.clearBranches.stamp = r.stamp :=
  RoomCtx.stamp_congr (cancelBranches_counters _ _) rfl rfl

theorem clearSnapshot_stamp (r : RoomCtx) : r.clearSnapshot.stamp = r.stamp :=
  RoomCtx.stamp_congr (cancelBranches_counters _ _) rfl rfl

theorem setError_stamp (r : RoomCtx) (message : String) :
    (r.setError message).stamp = r.stamp.mark := by
  have hcleared : (r.mapRun fun run =>
      { run with progress := { run.progress with scenarioState := .error } }).clearWait.stamp =
        r.stamp := clearWait_stamp _
  unfold RoomCtx.setError
  simp only [RoomCtx.stamp_markChanged]
  exact congrArg Stamp.mark hcleared

theorem sessionStart_turn (durationMs nowMs : Nat) (r : RoomCtx) :
    Tells True r (sessionStart durationMs nowMs r).2 :=
  Tells.marks ((RoomCtx.mk r.lock { r.session with startedAtMs := nowMs } r.plan).mapRun
    fun run => { run with state := .running, finishedAtMs := 0 }) rfl (RoomCtx.stamp_markChanged _)

/-- A session whose clock agrees with it is paused and noted, or left alone. -/
theorem sessionPause_turn (nowMs : Nat) (r : RoomCtx) (hr : Clocked r.session.run) :
    Tells True r (sessionPause nowMs r).2 := by
  unfold sessionPause
  split
  · exact Tells.same r trivial
  · next hstate =>
      rcases pause_of_clocked hr (Decidable.not_not.mp hstate) nowMs with ⟨timer, hpause, -⟩
      simp only [RoomCtx.mapRun, hpause]
      exact Tells.marks _ rfl (RoomCtx.stamp_markChanged _)

theorem sessionResume_turn (nowMs : Nat) (r : RoomCtx) (hr : Clocked r.session.run) :
    Tells True r (sessionResume nowMs r).2 := by
  unfold sessionResume
  split
  · exact Tells.same r trivial
  · next hstate =>
      rcases resume_of_clocked hr (Decidable.not_not.mp hstate) nowMs with ⟨timer, hresume, -⟩
      simp only [RoomCtx.mapRun, hresume]
      exact Tells.marks _ rfl (RoomCtx.stamp_markChanged _)

theorem sessionFinish_turn (nowMs : Nat) (r : RoomCtx) : Tells True r (sessionFinish nowMs r).2 :=
  Tells.marks (r.mapRun fun run =>
    { run with state := .finished, finishedAtMs := nowMs, timer := run.timer.finish nowMs }) rfl
    (RoomCtx.stamp_markChanged _)

theorem sessionReset_turn (durationMs nowMs : Nat) (r : RoomCtx) :
    Tells True r (sessionReset durationMs nowMs r).2 :=
  Tells.marks ((RoomCtx.mk r.lock { r.session with startedAtMs := 0, hint := {} } r.plan).mapRun
    fun run => { run with state := .idle, finishedAtMs := 0, timer := .reset durationMs nowMs }) rfl
    (RoomCtx.stamp_markChanged _)

theorem sessionSetHint_turn (message : String) (nowMs : Nat) (r : RoomCtx) :
    Tells True r (sessionSetHint message nowMs r).2 :=
  Tells.marks _ rfl (RoomCtx.stamp_markChanged _)

theorem sessionClearHint_turn (nowMs : Nat) (r : RoomCtx) :
    Tells True r (sessionClearHint nowMs r).2 :=
  Tells.marks _ rfl (RoomCtx.stamp_markChanged _)

theorem sessionAddTime_turn (deltaMs : Int) (nowMs : Nat) (r : RoomCtx) :
    Tells True r (sessionAddTime deltaMs nowMs r).2 := by
  unfold sessionAddTime
  simp only [RoomCtx.mapRun]
  refine Tells.marks _ ?_ (RoomCtx.stamp_markChanged _)
  refine RoomCtx.stamp_congr rfl ?_ ?_
  · split <;> rfl
  · split <;> rfl

theorem clearScenario_stamp (state : ScenarioState) (keepsStep keepsError : Bool) (r : RoomCtx) :
    (clearScenario state keepsStep keepsError r).stamp = r.stamp.mark := by
  unfold clearScenario
  simp only [RoomCtx.stamp_markChanged]
  exact congrArg Stamp.mark ((clearSnapshot_stamp _).trans (clearWait_stamp _))

theorem clearScenario_turn (state : ScenarioState) (keepsStep keepsError : Bool) {r r₀ : RoomCtx}
    (h₀ : r₀.stamp = r.stamp) : Tells True r (clearScenario state keepsStep keepsError r₀) :=
  Tells.marks r₀ h₀ (clearScenario_stamp state keepsStep keepsError r₀)

theorem selectScenario_turn (scenario : RoomScenario) (r : RoomCtx) :
    Tells True r (selectScenario scenario r).2 := clearScenario_turn _ _ _ rfl

theorem selectProfile_turn (profile : GameProfile) (scenario : RoomScenario)
    (durationMs now : Nat) (r : RoomCtx) :
    Tells True r (selectProfile profile scenario durationMs now r).2 := clearScenario_turn _ _ _ rfl

theorem rejectScenario_turn (message : String) (r : RoomCtx) :
    Tells True r (rejectScenario message r) :=
  Tells.marks r.clearSnapshot (clearSnapshot_stamp r) (setError_stamp _ message)

/-- A start is noted before the branches run, and its failure is noted. -/
theorem roomStart_turn (scenario : RoomScenario) (prepared : PreparedScenario)
    (generation nowMs : UInt32) (r : RoomCtx) :
    Tells True r (roomStart scenario prepared generation nowMs r).2 := by
  unfold roomStart
  split
  · refine Tells.marks _ ?_ (setError_stamp _ _)
    exact (clearSnapshot_stamp _).trans ((clearBranches_stamp _).trans (clearWait_stamp _))
  · next branches _ =>
      have hcleared := (clearBranches_stamp _).trans (clearWait_stamp
        ((RoomCtx.mk r.lock
          { r.session with
            runningScenario := scenario, prepared := prepared, runningScenarioValid := true
            runningScenarioGeneration := generation } r.plan).mapRun fun run =>
          { run with progress := { run.progress with
            scenarioState := .running, currentStepIndex := 0 } }))
      refine Tells.noted ?_ ?_ trivial
      · refine Stamp.Leads.trans ?_ (executeAllRunning_leads nowMs _)
        rw [RoomCtx.stamp_markChanged]
        exact hcleared ▸ Stamp.leads_mark _
      · refine Stamp.Noted.leads ?_ (executeAllRunning_leads nowMs _)
        exact RoomCtx.noted_markChanged _

end SceneHub
