import Mathlib.Data.Nat.Find
import Mathlib.Order.Bounds.Basic
import SceneHub.Theory.ReactiveWaits

/-!
# Triggers of Several Events

When a reaction whose trigger needs several events fires.

Each event is recorded for the first reference it matches, and only for that one. So the
reaction fires at the first event after which every reference was the first match of some event.
That is later than the first event after which every reference was matched, or never, if one event
matches two references.

An event that completes the set clears it, whether or not the reaction may fire then.

## Main definitions

* `refMatches`: A reference of the trigger matches an event.
* `Collecting`: A set of recorded matches that is not complete.
* `Listening`: The reaction would fire at each of the events.
* `firstFire`: The first of some events at which the reaction fires.
* `Covered`: Behind an event, every reference has been matched.

## Theorems

* `matchesTrigger_eq_consume`: Testing for a trigger is consuming it.
* `firstFire_eq_some_iff`: When the reaction fires.
* `trigger_matches_law`: What the record of matches comes to.
-/

namespace SceneHub

variable {rest : List Offer}

variable {e : Env} {model : ScenarioBranch} {b : BranchRun} {message : Event}

/-! ### The record -/

/-- Reference `i` of the trigger matches the event. -/
def refMatches (setup : BranchSetup) (message : Event) (i : Nat) : Bool :=
  deviceEventMatchSingle ((setup.reactiveTriggerMatches[i]?).getD default)
    ((setup.reactiveTriggerAltEventTypes[i]?).getD "") message

/-- A match of reference `i` is recorded. -/
def recorded (b : BranchRun) (i : Nat) : Bool := (b.reactiveTriggerEventMatched[i]?).getD false

def recordFirst (setup : BranchSetup) (message : Event) (b : BranchRun) : BranchRun :=
  match deviceTriggerMatch setup message with
  | none => b
  | some i => { b with reactiveTriggerEventMatched := b.reactiveTriggerEventMatched.set i true }

/-- The record has a place for each reference, as the array of the source always has. -/
def Sized (e : Env) (b : BranchRun) : Prop :=
  b.reactiveTriggerEventMatched.length = e.setup.reactiveTriggerMatches.length

/-- The trigger is resolved, and some reference is still to be matched. -/
structure Collecting (e : Env) (b : BranchRun) : Prop where
  resolved : e.setup.reactiveTriggerResolved = true
  sized : Sized e b
  missing : ∃ i, i < e.setup.reactiveTriggerMatches.length ∧ recorded b i = false

theorem deviceTriggerMatch_some {setup : BranchSetup} {i : Nat}
    (h : deviceTriggerMatch setup message = some i) :
    i < setup.reactiveTriggerMatches.length ∧ refMatches setup message i = true := by
  unfold deviceTriggerMatch at h
  split at h
  · cases h
  · exact ⟨List.mem_range.1 (List.mem_of_find?_eq_some h), List.find?_some h⟩

theorem allTriggerEventsMatched_iff (e : Env) (b : BranchRun) :
    allTriggerEventsMatched e.setup b.reactiveTriggerEventMatched = true ↔
      0 < e.setup.reactiveTriggerMatches.length ∧
        ∀ i, i < e.setup.reactiveTriggerMatches.length → recorded b i = true := by
  unfold allTriggerEventsMatched recorded
  simp [List.all_eq_true, List.mem_range, Nat.pos_iff_ne_zero]

theorem Collecting.incomplete (h : Collecting e b) :
    allTriggerEventsMatched e.setup b.reactiveTriggerEventMatched = false := by
  rw [← Bool.not_eq_true, allTriggerEventsMatched_iff]
  rintro ⟨-, hall⟩
  rcases h.missing with ⟨i, hi, hmissing⟩
  rw [hall i hi] at hmissing
  cases hmissing

/-- Behind the event, one more reference may be recorded. -/
theorem recorded_recordFirst (hsized : Sized e b) (i : Nat) :
    recorded (recordFirst e.setup message b) i = true ↔
      recorded b i = true ∨ deviceTriggerMatch e.setup message = some i := by
  unfold recordFirst
  cases hmatch : deviceTriggerMatch e.setup message with
  | none => simp only [reduceCtorEq, or_false]
  | some index =>
    have hlt := (deviceTriggerMatch_some hmatch).1
    unfold recorded
    by_cases heq : index = i
    · subst heq
      simp [List.getElem?_set_self (hsized ▸ hlt)]
    · simp [List.getElem?_set_ne heq, heq]

theorem recordFirst_sized (h : Sized e b) : Sized e (recordFirst e.setup message b) := by
  unfold recordFirst
  split
  · exact h
  · exact (List.length_set ..).trans h

/-! ### Testing and consuming -/

theorem consumeTrigger_all {c : Ctx} (hkind : model.trigger.kind = .allDeviceEvents)
    (hallowed : triggerAllowed e c.session.scenarioFlags c.branch message = some model)
    (hincomplete : allTriggerEventsMatched e.setup c.branch.reactiveTriggerEventMatched = false) :
    (consumeTrigger e message c).1 = allTriggerEventsMatched e.setup
        (recordFirst e.setup message c.branch).reactiveTriggerEventMatched ∧
      (consumeTrigger e message c).2.session.history = c.session.history ∧
      ((consumeTrigger e message c).1 = false →
        (consumeTrigger e message c).2.branch = recordFirst e.setup message c.branch) := by
  unfold consumeTrigger recordFirst
  rw [hallowed]
  simp only [if_pos hkind]
  cases hmatch : deviceTriggerMatch e.setup message with
  | none => exact ⟨hincomplete.symm, rfl, fun _ => rfl⟩
  | some index =>
    simp only
    split
    · next hall => exact ⟨hall.symm, rfl, fun h => by cases h⟩
    · next hnot =>
        rw [Bool.not_eq_true] at hnot
        exact ⟨hnot.symm, rfl, fun _ => rfl⟩

/-- **The test without side effects gives the answer of the test that records.** -/
theorem matchesTrigger_eq_consume (message : Event) (c : Ctx) (hsized : Sized e c.branch) :
    matchesTrigger e c.session.scenarioFlags c.branch message = (consumeTrigger e message c).1 := by
  unfold matchesTrigger consumeTrigger
  cases triggerAllowed e c.session.scenarioFlags c.branch message with
  | none => rfl
  | some model =>
    simp only
    by_cases hkind : model.trigger.kind = .allDeviceEvents
    · rw [if_pos hkind, if_pos hkind]
      cases hmatch : deviceTriggerMatch e.setup message with
      | none => rfl
      | some index =>
        have hlt := (deviceTriggerMatch_some hmatch).1
        have hrecord : ∀ i, recorded (recordFirst e.setup message c.branch) i = true ↔
            recorded c.branch i = true ∨ index = i := fun i => by
          rw [recorded_recordFirst hsized, hmatch, Option.some.injEq]
        have hboth : allTriggerEventsMatchedAfter e.setup c.branch.reactiveTriggerEventMatched
            index = allTriggerEventsMatched e.setup
            (c.branch.reactiveTriggerEventMatched.set index true) := by
          have hset : (recordFirst e.setup message c.branch).reactiveTriggerEventMatched =
              c.branch.reactiveTriggerEventMatched.set index true := by
            unfold recordFirst
            rw [hmatch]
          rw [← hset, Bool.eq_iff_iff, allTriggerEventsMatched_iff]
          unfold allTriggerEventsMatchedAfter
          simp only [Bool.and_eq_true, Bool.or_eq_true, decide_eq_true_iff, List.all_eq_true,
            List.mem_range]
          constructor
          · rintro ⟨-, hall⟩
            refine ⟨by omega, fun i hi => (hrecord i).2 ?_⟩
            exact (hall i hi).symm.imp_right Eq.symm
          · rintro ⟨-, hall⟩
            exact ⟨hlt, fun i hi => ((hrecord i).1 (hall i hi)).symm.imp_left Eq.symm⟩
        simp only [hboth]
        split
        · next hall => exact hall
        · next hnot => exact Bool.not_eq_true _ ▸ hnot
    · rw [if_neg hkind, if_neg hkind]

/-! ### A sequence of events -/

/-- An event that comes to the branch, and what the branch finds then. -/
structure Offer where
  setting : Setting
  message : Event

/-- The turn of a listening branch at an event. -/
def offered (e : Env) (b : BranchRun) (o : Offer) : Ctx :=
  (branchOnEvent e o.message (matchesTrigger e o.setting.session.scenarioFlags b o.message)
    o.setting.nowMs (o.setting.ctx b)).ctx

def FiresOn (e : Env) (b : BranchRun) (o : Offer) : Prop :=
  fires e o.setting.session < fires e (offered e b o).session

instance (e : Env) (b : BranchRun) (o : Offer) : Decidable (FiresOn e b o) :=
  inferInstanceAs (Decidable (_ < _))

def firstFire (e : Env) : BranchRun → List Offer → Option Nat
  | _, [] => none
  | b, o :: rest =>
    if FiresOn e b o then some 0 else (firstFire e (offered e b o).branch rest).map (· + 1)

/-- The branch listens, its guards are true, and nothing but its trigger keeps it from firing. -/
structure Listening (e : Env) (model : ScenarioBranch) (b : BranchRun) (offers : List Offer) :
    Prop where
  waiting : b.progress.scenarioState = .waiting
  idle : b.progress.wait.waitType = .none
  free : ∀ o ∈ offers, CanFire e model o.setting.nowMs b
  guards : ∀ o ∈ offers, flagsMatch o.setting.session.scenarioFlags model.guardFlags = true
  events : ∀ o ∈ offers, o.message.isDeviceControlResult = false

/-- The references that `R` assigns to the events up to event `k`, and those recorded before, are
    all. -/
def Covered (e : Env) (R : Event → Nat → Prop) (b : BranchRun) (offers : List Offer) (k : Nat) :
    Prop :=
  k < offers.length ∧ ∀ i, i < e.setup.reactiveTriggerMatches.length →
    recorded b i = true ∨ ∃ o ∈ offers.take (k + 1), R o.message i

/-- An event is assigned the references it matches. -/
def matchesAny (e : Env) (message : Event) (i : Nat) : Prop :=
  refMatches e.setup message i = true

/-- An event is assigned the first reference it matches. -/
def matchesFirst (e : Env) (message : Event) (i : Nat) : Prop :=
  deviceTriggerMatch e.setup message = some i

/-- A reaction with such a trigger. -/
structure NeedsAll (e : Env) (model : ScenarioBranch) : Prop where
  found : e.modelBranch = some model
  kind : model.trigger.kind = .allDeviceEvents
  reactive : e.setup.type = .reactive
  active : e.setup.active = true

theorem offered_step {o : Offer} (hall : NeedsAll e model) (hcollects : Collecting e b)
    (hlistens : Listening e model b (o :: rest)) :
    (Covered e (matchesFirst e) b (o :: rest) 0 → FiresOn e b o) ∧
    (¬Covered e (matchesFirst e) b (o :: rest) 0 →
      ¬FiresOn e b o ∧ (offered e b o).branch = recordFirst e.setup o.message b) := by
  have hmem : o ∈ o :: rest := .head _
  have hcan := hlistens.free o hmem
  have hallowed : triggerAllowed e (o.setting.ctx b).session.scenarioFlags (o.setting.ctx b).branch
      o.message = some model := by
    unfold triggerAllowed
    simp [Setting.ctx, hall.found, hall.active, hcan.2.2.1, hlistens.guards o hmem,
      hlistens.events o hmem]
  rcases consumeTrigger_all (c := o.setting.ctx b) hall.kind hallowed hcollects.incomplete with
    ⟨hconsumed, hhistory, hrecorded⟩
  have hcovered : Covered e (matchesFirst e) b (o :: rest) 0 ↔
      (consumeTrigger e o.message (o.setting.ctx b)).1 = true := by
    rw [hconsumed, allTriggerEventsMatched_iff]
    have hsome : 0 < e.setup.reactiveTriggerMatches.length := by
      rcases hcollects.missing with ⟨i, hi, -⟩
      exact Nat.zero_lt_of_lt hi
    unfold Covered matchesFirst
    simp only [List.length_cons, Nat.zero_lt_succ, true_and, hsome]
    refine forall₂_congr fun i _ => ?_
    rw [show (o.setting.ctx b).branch = b from rfl, recorded_recordFirst hcollects.sized]
    simp [List.take_succ_cons, List.take_zero]
  have hmatches := matchesTrigger_eq_consume o.message (o.setting.ctx b) hcollects.sized
  rcases consumeTrigger_branch e o.message (o.setting.ctx b) with ⟨marks, hbranch⟩
  rw [hcovered]
  unfold FiresOn offered branchOnEvent
  rw [show matchesTrigger e o.setting.session.scenarioFlags b o.message =
    (consumeTrigger e o.message (o.setting.ctx b)).1 from hmatches]
  simp only [hlistens.events o hmem, hall.reactive, Bool.not_false, true_and, and_true, if_true]
  have hprogress : (consumeTrigger e o.message (o.setting.ctx b)).2.branch.progress =
      b.progress := by
    rw [hbranch]
    rfl
  have hfires : fires e (consumeTrigger e o.message (o.setting.ctx b)).2.session =
      fires e o.setting.session := congrArg (List.count _) hhistory
  constructor
  · intro htrue
    have hcan' : CanFire e model o.setting.nowMs
        (consumeTrigger e o.message (o.setting.ctx b)).2.branch := by
      rw [hbranch]
      exact hcan
    have hfire := (fireLocked_cases o.setting.nowMs hall.found hall.active
      (by rw [hprogress]; exact hlistens.waiting) (by rw [hprogress]; exact hlistens.idle)).1 hcan'
    rw [if_pos htrue]
    unfold branchOnTrigger
    cases hout : consumeTrigger e o.message (o.setting.ctx b) with
    | mk consumed c₁ =>
      rw [hout] at htrue hfire hprogress hfires
      subst htrue
      have hnotime : c₁.branch.progress.wait.waitType ≠ .time := by
        rw [hprogress, hlistens.idle]
        decide
      simp only [if_neg hnotime]
      rw [hfires] at hfire
      split
      · exact hfire
      · exact hfire
  · intro hfalse
    rw [if_neg hfalse]
    have hawaits : awaitsEvent e.setup
        (consumeTrigger e o.message (o.setting.ctx b)).2.branch = false := by
      unfold awaitsEvent
      rw [hprogress, hlistens.idle]
      simp [WaitType.isEventWait]
    unfold branchOnWait
    simp only [hawaits, Bool.not_false, if_true]
    exact ⟨by rw [hfires]; exact Nat.lt_irrefl _, hrecorded (Bool.not_eq_true _ ▸ hfalse)⟩

/-- Coverage behind the next event is coverage with the record of this one. -/
theorem covered_cons {o : Offer} (hsized : Sized e b) (k : Nat) :
    Covered e (matchesFirst e) b (o :: rest) (k + 1) ↔
      Covered e (matchesFirst e) (recordFirst e.setup o.message b) rest k := by
  unfold Covered
  rw [List.length_cons, Nat.succ_lt_succ_iff]
  refine and_congr_right fun _ => forall₂_congr fun i _ => ?_
  rw [recorded_recordFirst hsized, List.take_succ_cons]
  simp only [List.mem_cons, exists_eq_or_imp]
  exact or_assoc.symm

theorem Collecting.recordFirst {o : Offer} (h : Collecting e b)
    (hnot : ¬Covered e (matchesFirst e) b (o :: rest) 0) :
    Collecting e (SceneHub.recordFirst e.setup o.message b) := by
  refine ⟨h.resolved, recordFirst_sized h.sized, ?_⟩
  unfold Covered at hnot
  simp only [List.length_cons, Nat.zero_lt_succ, true_and, not_forall] at hnot
  rcases hnot with ⟨i, hi, hmissing⟩
  refine ⟨i, hi, ?_⟩
  rw [← Bool.not_eq_true, recorded_recordFirst h.sized]
  rintro (hrecorded | hmatch)
  · exact hmissing (.inl hrecorded)
  · exact hmissing (.inr ⟨o, .head _, hmatch⟩)

theorem Listening.recordFirst {o : Offer} (h : Listening e model b (o :: rest)) :
    Listening e model (SceneHub.recordFirst e.setup o.message b) rest := by
  unfold SceneHub.recordFirst
  split <;>
    exact ⟨h.waiting, h.idle, fun o' ho => h.free o' (.tail _ ho),
      fun o' ho => h.guards o' (.tail _ ho),
      fun o' ho => h.events o' (.tail _ ho)⟩

/-- **The reaction fires at the first event behind which each reference was the first match of
    some event.** -/
theorem firstFire_eq_some_iff (hall : NeedsAll e model) (offers : List Offer) (b : BranchRun)
    (hcollects : Collecting e b) (hlistens : Listening e model b offers) (k : Nat) :
    firstFire e b offers = some k ↔ IsLeast {k | Covered e (matchesFirst e) b offers k} k := by
  induction offers generalizing b k with
  | nil =>
    refine iff_of_false nofun ?_
    rintro ⟨⟨hlt, -⟩, -⟩
    exact Nat.not_lt_zero _ hlt
  | cons o rest ih =>
    have hstep := offered_step hall hcollects hlistens
    unfold firstFire
    by_cases hnow : Covered e (matchesFirst e) b (o :: rest) 0
    · rw [if_pos (hstep.1 hnow), Option.some.injEq]
      constructor
      · rintro rfl
        exact ⟨hnow, fun _ _ => Nat.zero_le _⟩
      · rintro ⟨-, hleast⟩
        exact (Nat.le_zero.1 (hleast hnow)).symm
    rcases hstep.2 hnow with ⟨hmissed, hbranch⟩
    rw [if_neg hmissed, hbranch]
    have hrest := ih _ (hcollects.recordFirst hnow) hlistens.recordFirst
    cases k with
    | zero =>
      refine iff_of_false ?_ fun hleast => hnow hleast.1
      intro hzero
      rcases Option.map_eq_some_iff.1 hzero with ⟨j, -, hj⟩
      cases hj
    | succ k =>
      rw [Option.map_eq_some_iff]
      simp only [Nat.add_right_cancel_iff, exists_eq_right]
      rw [hrest]
      unfold IsLeast lowerBounds
      simp only [Set.mem_ofPred_eq, covered_cons hcollects.sized]
      refine and_congr_right fun _ => ⟨fun hleast j hj => ?_, fun hleast j hj => ?_⟩
      · cases j with
        | zero => exact absurd hj hnow
        | succ j => exact Nat.succ_le_succ (hleast ((covered_cons hcollects.sized j).1 hj))
      · exact Nat.le_of_succ_le_succ (hleast ((covered_cons hcollects.sized j).2 hj))

theorem Covered.any {offers : List Offer} {k : Nat}
    (h : Covered e (matchesFirst e) b offers k) : Covered e (matchesAny e) b offers k := by
  refine ⟨h.1, fun i hi => (h.2 i hi).imp_right ?_⟩
  rintro ⟨o, hmem, hmatch⟩
  exact ⟨o, hmem, (deviceTriggerMatch_some hmatch).2⟩

/-- The reaction fires at the first event behind which every reference was matched by some event. -/
def FiresWhenCovered (e : Env) (b : BranchRun) (offers : List Offer) : Prop :=
  ∀ k, firstFire e b offers = some k ↔ IsLeast {k | Covered e (matchesAny e) b offers k} k

/-- Up to that event each reference was the first match of some event. -/
def MatchedApart (e : Env) (b : BranchRun) (offers : List Offer) : Prop :=
  ∀ k, IsLeast {k | Covered e (matchesAny e) b offers k} k →
    Covered e (matchesFirst e) b offers k

theorem firesWhenCovered_iff (hall : NeedsAll e model) (offers : List Offer)
    (hcollects : Collecting e b) (hlistens : Listening e model b offers) :
    FiresWhenCovered e b offers ↔ MatchedApart e b offers := by
  have hfires := firstFire_eq_some_iff hall offers b hcollects hlistens
  constructor
  · intro hlaw k hk
    exact ((hfires k).1 ((hlaw k).2 hk)).1
  intro hapart k
  rw [hfires]
  constructor
  · intro hk
    refine ⟨hk.1.any, fun j hj => ?_⟩
    -- The first event that covers all is at `j` or before, and it covers them apart.
    classical
    have hfound : ∃ m, Covered e (matchesAny e) b offers m := ⟨j, hj⟩
    have hleast : IsLeast {k | Covered e (matchesAny e) b offers k} (Nat.find hfound) :=
      ⟨Nat.find_spec hfound, fun _ hm => Nat.find_min' hfound hm⟩
    exact Nat.le_trans (hk.2 (hapart _ hleast)) (hleast.2 hj)
  · intro hk
    exact ⟨hapart k hk, fun j hj => hk.2 hj.any⟩

/-! ### What an event leaves of the record -/

/-- The scan counts the event as a trigger, with the flags as they are then. -/
def triggers (e : Env) (flags : List Flag) (b : BranchRun) (message : Event) : Bool :=
  matchesTrigger e flags b message && b.progress.scenarioState = .waiting &&
    (b.progress.wait.waitType = .none || b.progress.wait.waitType = .time)

/-- What the branch loop does about the trigger of a branch. -/
def triggerTurn (e : Env) (flags : List Flag) (message : Event) (nowMs : UInt32) (c : Ctx) : Ctx :=
  if triggers e flags c.branch message then (branchOnTrigger e message nowMs c).ctx
  else (consumeTrigger e message c).2

/-- No recorded match is lost. -/
def KeepsRecord (b b' : BranchRun) : Prop := ∀ i, recorded b i = true → recorded b' i = true

/-- The reaction takes the trigger, once its set is complete. -/
def TakesTrigger (e : Env) (model : ScenarioBranch) (flags : List Flag) (message : Event)
    (nowMs : UInt32) (b : BranchRun) : Prop :=
  triggers e flags b message = true ∧ CanFire e model nowMs b ∧
    (b.progress.wait.waitType = .time → model.policyMode ≠ .single)

/-- The event completes a set that has other matches, and the reaction does not take it. -/
def CompletesInVain (e : Env) (model : ScenarioBranch) (flags : List Flag) (message : Event)
    (nowMs : UInt32) (c : Ctx) : Prop :=
  matchesTrigger e c.session.scenarioFlags c.branch message = true ∧
    (∃ i, recorded c.branch i = true) ∧ ¬TakesTrigger e model flags message nowMs c.branch

theorem clearTriggerMatches_recorded (c : Ctx) (i : Nat) :
    recorded c.clearTriggerMatches.branch i = false := by
  unfold recorded Ctx.clearTriggerMatches
  simp only [List.getElem?_map]
  cases c.branch.reactiveTriggerEventMatched[i]? <;> rfl

/-- Consuming an event records its match, or completes the set and clears it. -/
theorem consumeTrigger_record (hall : NeedsAll e model) (message : Event) (c : Ctx)
    (hsized : Sized e c.branch) : ((consumeTrigger e message c).1 = false →
      KeepsRecord c.branch (consumeTrigger e message c).2.branch) ∧
    ((consumeTrigger e message c).1 = true →
      ∀ i, recorded (consumeTrigger e message c).2.branch i = false) := by
  have hkeeps : KeepsRecord c.branch (recordFirst e.setup message c.branch) := fun i hi =>
    (recorded_recordFirst hsized i).2 (.inl hi)
  unfold consumeTrigger
  cases hallowed : triggerAllowed e c.session.scenarioFlags c.branch message with
  | none => exact ⟨fun _ _ hi => hi, nofun⟩
  | some model' =>
    have hkind : model'.trigger.kind = .allDeviceEvents := by
      unfold triggerAllowed at hallowed
      rw [hall.found] at hallowed
      simp only at hallowed
      split_ifs at hallowed
      cases hallowed
      exact hall.kind
    simp only [if_pos hkind]
    unfold recordFirst at hkeeps
    cases hmatch : deviceTriggerMatch e.setup message with
    | none => exact ⟨fun _ _ hi => hi, nofun⟩
    | some index =>
      rw [hmatch] at hkeeps
      simp only
      split
      · exact ⟨fun h => (by cases h), fun _ i => clearTriggerMatches_recorded _ i⟩
      · exact ⟨fun _ => hkeeps, nofun⟩

/-- A reaction whose set is complete fires if it takes the trigger. The set is cleared anyway. -/
theorem branchOnTrigger_complete (hall : NeedsAll e model) {flags : List Flag} {message : Event}
    (nowMs : UInt32) {c : Ctx} (hsized : Sized e c.branch)
    (htriggers : triggers e flags c.branch message = true)
    (hconsumed : (consumeTrigger e message c).1 = true) :
    (TakesTrigger e model flags message nowMs c.branch →
      fires e c.session < fires e (branchOnTrigger e message nowMs c).ctx.session) ∧
    (¬TakesTrigger e model flags message nowMs c.branch →
      (branchOnTrigger e message nowMs c).ctx.session.history = c.session.history ∧
        ∀ i, recorded (branchOnTrigger e message nowMs c).ctx.branch i = false) := by
  have hclear := (consumeTrigger_record hall message c hsized).2 hconsumed
  rcases consumeTrigger_branch e message c with ⟨marks, hbranch⟩
  have hhistory : (consumeTrigger e message c).2.session.history = c.session.history :=
    congrArg Ledger.history (consumeTrigger_keeps message).1
  have hlistens := htriggers
  unfold triggers at hlistens
  simp only [Bool.and_eq_true, Bool.or_eq_true, decide_eq_true_iff] at hlistens
  rcases hlistens with ⟨⟨-, hwaiting⟩, hwait⟩
  unfold TakesTrigger branchOnTrigger
  simp only [htriggers, true_and]
  cases hout : consumeTrigger e message c with
  | mk consumed c₁ =>
    rw [hout] at hconsumed hclear hbranch hhistory
    subst hconsumed
    have hctx : ∀ out : EspErr × Ctx,
        (if out.1 = .ok then (⟨out.2, true, .checkPlan⟩ : BranchEvent)
          else ⟨out.2, false, .next⟩).ctx = out.2 := by
      intro out
      split <;> rfl
    have hcan : CanFire e model nowMs c₁.branch ↔ CanFire e model nowMs c.branch := by
      rw [hbranch]
      exact Iff.rfl
    have hfires : ∀ c₂ : Ctx, c₂.session.history = c₁.session.history →
        fires e c₂.session = fires e c.session := fun c₂ h => congrArg (List.count _)
          (h.trans hhistory)
    have hmarked : ∀ b₁ b₂ : BranchRun, (∀ i, recorded b₁ i = false) →
        (∃ pending, b₂ = b₁.marked pending b₁.reactiveTriggerEventMatched) →
        ∀ i, recorded b₂ i = false := by
      rintro b₁ b₂ hnone ⟨pending, rfl⟩ i
      exact hnone i
    rw [hctx]
    by_cases htime : c.branch.progress.wait.waitType = .time
    · have htime₁ : c₁.branch.progress.wait.waitType = .time := by
        rw [hbranch]
        exact htime
      have hin : InTimedWait e c₁.branch :=
        ⟨by unfold Env.isReactiveV2; rw [hall.found]; rfl, hall.reactive, hall.active,
          by rw [hbranch]; exact hwaiting, htime₁⟩
      simp only [htime₁, htime, if_true, forall_const]
      by_cases hpolicy : model.policyMode = .single
      · rcases triggerDuringWait_single nowMs hall.found hin hpolicy with ⟨hsame, hmarks⟩
        exact ⟨fun h => absurd hpolicy h.2,
          fun _ => ⟨hsame.trans hhistory, hmarked _ _ hclear hmarks⟩⟩
      rcases triggerDuringWait_eq nowMs hall.found hin hpolicy with
        ⟨c₂, heq, hstate, hnone, hhistory₂, hrecord, hcan₂⟩
      have hfire := fireLocked_cases nowMs hall.found hall.active hstate hnone
      rw [heq]
      rw [hcan₂, hcan, hfires c₂ hhistory₂] at hfire
      have hclear₂ : ∀ i, recorded c₂.branch i = false := by
        intro i
        unfold recorded
        rw [hrecord]
        exact hclear i
      refine ⟨fun h => hfire.1 h.1, fun h => ?_⟩
      rcases hfire.2 fun hcan => h ⟨hcan, hpolicy⟩ with ⟨hsame, hmarks⟩
      exact ⟨hsame.trans (hhistory₂.trans hhistory), hmarked _ _ hclear₂ hmarks⟩
    · have htime₁ : ¬c₁.branch.progress.wait.waitType = .time := by
        rw [hbranch]
        exact htime
      have hnone := hwait.resolve_right htime
      have hfire := fireLocked_cases (c := c₁) nowMs hall.found hall.active
        (by rw [hbranch]; exact hwaiting) (by rw [hbranch]; exact hnone)
      rw [hcan, hfires c₁ rfl] at hfire
      simp only [htime₁, htime, if_false, false_imp_iff, and_true]
      refine ⟨fun h => hfire.1 h, fun h => ?_⟩
      rcases hfire.2 h with ⟨hsame, hmarks⟩
      exact ⟨hsame.trans hhistory, hmarked _ _ hclear hmarks⟩

/-- **An event that does not fire the reaction loses no recorded match, unless it completes the set
    in vain.** -/
theorem triggerTurn_keepsRecord_iff (hall : NeedsAll e model) (flags : List Flag) (message : Event)
    (nowMs : UInt32) (c : Ctx) (hsized : Sized e c.branch) :
    (¬fires e c.session < fires e (triggerTurn e flags message nowMs c).session →
      KeepsRecord c.branch (triggerTurn e flags message nowMs c).branch) ↔
    ¬CompletesInVain e model flags message nowMs c := by
  have hmatches := matchesTrigger_eq_consume message c hsized
  -- What is cleared keeps its matches only if there were none.
  have hlost : ∀ b' : BranchRun, (∀ i, recorded b' i = false) →
      (KeepsRecord c.branch b' ↔ ¬∃ i, recorded c.branch i = true) := by
    intro b' hclear
    constructor
    · rintro hkeeps ⟨i, hi⟩
      have hkept := hkeeps i hi
      rw [hclear i] at hkept
      cases hkept
    · intro hnone i hi
      exact absurd ⟨i, hi⟩ hnone
  have hunfired : ∀ s : SessionRun, s.history = c.session.history →
      ¬fires e c.session < fires e s := by
    intro s hsame
    unfold fires
    rw [hsame]
    exact Nat.lt_irrefl _
  unfold CompletesInVain triggerTurn
  rw [hmatches]
  by_cases hconsumed : (consumeTrigger e message c).1 = true
  · by_cases htriggers : triggers e flags c.branch message = true
    · rcases branchOnTrigger_complete hall nowMs hsized htriggers hconsumed with ⟨htakes, hleaves⟩
      rw [if_pos htriggers]
      simp only [hconsumed, true_and]
      by_cases htake : TakesTrigger e model flags message nowMs c.branch
      · exact iff_of_true (fun h => absurd (htakes htake) h) fun h => h.2 htake
      rcases hleaves htake with ⟨hsame, hclear⟩
      simp only [hunfired _ hsame, not_false_eq_true, forall_const, htake, and_true]
      exact hlost _ hclear
    · rw [if_neg htriggers]
      have hsame : (consumeTrigger e message c).2.session.history = c.session.history :=
        congrArg Ledger.history (consumeTrigger_keeps message).1
      have htake : ¬TakesTrigger e model flags message nowMs c.branch := fun h => htriggers h.1
      simp only [hunfired _ hsame, not_false_eq_true, forall_const, hconsumed, htake, true_and,
        and_true]
      exact hlost _ ((consumeTrigger_record hall message c hsized).2 hconsumed)
  · have hkeeps := (consumeTrigger_record hall message c hsized).1 (Bool.not_eq_true _ ▸ hconsumed)
    refine iff_of_true (fun _ => ?_) fun h => hconsumed h.1
    split
    · unfold branchOnTrigger
      cases hout : consumeTrigger e message c with
      | mk consumed c₁ =>
        rw [hout] at hconsumed hkeeps
        cases consumed with
        | true => exact absurd rfl hconsumed
        | false => exact hkeeps
    · exact hkeeps

/-! ### The law -/

/-- **The reaction fires as the events cover its references, the two tests agree, and no recorded
    match is lost, exactly where no event is a second match that counts, and none completes the set
    in vain.** -/
theorem trigger_matches_law (hall : NeedsAll e model) (b : BranchRun) (offers : List Offer)
    (hcollects : Collecting e b) (hlistens : Listening e model b offers) (flags : List Flag)
    (message : Event) (nowMs : UInt32) (c : Ctx) (hsized : Sized e c.branch) :
    (FiresWhenCovered e b offers ∧
      matchesTrigger e c.session.scenarioFlags c.branch message = (consumeTrigger e message c).1 ∧
      (∀ (found : Nat → ReactiveMatch) (j : Nat) (s : EventCtx), (found j).any = true →
        (eventTurn message nowMs found true j s).1 = s) ∧
      (¬fires e c.session < fires e (triggerTurn e flags message nowMs c).session →
        KeepsRecord c.branch (triggerTurn e flags message nowMs c).branch)) ↔
    MatchedApart e b offers ∧ ¬CompletesInVain e model flags message nowMs c := by
  rw [firesWhenCovered_iff hall offers hcollects hlistens,
    triggerTurn_keepsRecord_iff hall flags message nowMs c hsized]
  constructor
  · rintro ⟨hapart, -, -, hvain⟩
    exact ⟨hapart, hvain⟩
  rintro ⟨hapart, hvain⟩
  refine ⟨hapart, matchesTrigger_eq_consume message c hsized, fun found j s hany => ?_, hvain⟩
  unfold eventTurn
  rw [if_pos ⟨rfl, hany⟩]

/-! ### A gong with two strings -/

/-- A reaction that needs two events of the button. -/
def pairScenario : RoomScenario :=
  { gongScenario .single 1 0 with
    branches := (gongScenario .single 1 0).branches.map fun b =>
      { b with trigger := { kind := .allDeviceEvents } } }

/-- The two events are of one type. -/
def pairPrepared : PreparedScenario :=
  { eventRefs := [{ waitMatch := buttonMatch },
      { waitMatch := { buttonMatch with eventId := "touched" } }]
    reactiveTriggers := [⟨false, []⟩, ⟨true, [0, 1]⟩] }

def pairSession (events : List Op) : Session :=
  ((runOps (World.boot 1)
    ([.start "r" 1000 5, .scenarioStart "r" pairScenario pairPrepared 0 none 10] ++
      events)).sessions[0]?).getD {}

def pairBranch (events : List Op) : Branch :=
  ((pairSession events).branches[1]?).getD ⟨{}, {}⟩

def pairEnv : Env := RoomCtx.env ⟨{}, pairSession [], none⟩ (pairBranch [])

/-- The button is pressed twice. -/
def pairOffers : List Offer := [20, 30].map fun nowMs => ⟨⟨nowMs, {}, {}, none⟩, buttonEvent⟩

theorem pairEnv_needsAll : NeedsAll pairEnv (pairScenario.branches[1]) :=
  ⟨by decide +kernel, by decide +kernel, by decide +kernel, by decide +kernel⟩

theorem pairBranch_collecting : Collecting pairEnv (pairBranch []).run :=
  ⟨by decide +kernel, by unfold Sized; decide +kernel, 0, by decide +kernel, by decide +kernel⟩

theorem pairBranch_listening :
    Listening pairEnv (pairScenario.branches[1]) (pairBranch []).run pairOffers :=
  ⟨by decide +kernel, by decide +kernel, by decide +kernel, by decide +kernel, by decide +kernel⟩

/-- The law for the two strings and a press in between. -/
theorem trigger_matches_law_pair : (FiresWhenCovered pairEnv (pairBranch []).run pairOffers ∧
      matchesTrigger pairEnv [] (pairBranch []).run buttonEvent =
        (consumeTrigger pairEnv buttonEvent ⟨{}, {}, (pairBranch []).run, none⟩).1 ∧
      (∀ (found : Nat → ReactiveMatch) (j : Nat) (s : EventCtx), (found j).any = true →
        (eventTurn buttonEvent 20 found true j s).1 = s) ∧
      (¬fires pairEnv {} < fires pairEnv
          (triggerTurn pairEnv [] buttonEvent 20 ⟨{}, {}, (pairBranch []).run, none⟩).session →
        KeepsRecord (pairBranch []).run
          (triggerTurn pairEnv [] buttonEvent 20 ⟨{}, {}, (pairBranch []).run, none⟩).branch)) ↔
    MatchedApart pairEnv (pairBranch []).run pairOffers ∧
      ¬CompletesInVain pairEnv (pairScenario.branches[1]) [] buttonEvent 20
        ⟨{}, {}, (pairBranch []).run, none⟩ :=
  trigger_matches_law pairEnv_needsAll (pairBranch []).run pairOffers pairBranch_collecting
    pairBranch_listening [] buttonEvent 20 ⟨{}, {}, (pairBranch []).run, none⟩
    pairBranch_collecting.sized

/-- Each press matches both references, but only the first is recorded, and the reaction does not
    fire however often the button is pressed. -/
theorem second_string_unheard : ¬FiresWhenCovered pairEnv (pairBranch []).run pairOffers ∧
    (pairBranch [.event buttonEvent 20, .event buttonEvent 30]).run.fireCount = 0 ∧
    (pairBranch [.event buttonEvent 20, .event buttonEvent 30]).run.reactiveTriggerEventMatched =
      [true, false] := by
  refine ⟨fun hlaw => ?_, by decide +kernel⟩
  have hcovered : Covered pairEnv (matchesAny pairEnv) (pairBranch []).run pairOffers 0 := by
    refine ⟨by decide +kernel, fun i hi => .inr ⟨_, .head _, ?_⟩⟩
    have hboth : ∀ i < pairEnv.setup.reactiveTriggerMatches.length,
        refMatches pairEnv.setup buttonEvent i = true := by decide +kernel
    exact hboth i hi
  have hfire := (hlaw 0).2 ⟨hcovered, fun _ _ => Nat.zero_le _⟩
  have hnone : firstFire pairEnv (pairBranch []).run pairOffers = none := by decide +kernel
  rw [hnone] at hfire
  cases hfire

end SceneHub
