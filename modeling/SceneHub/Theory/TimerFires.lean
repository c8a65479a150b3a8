import SceneHub.Lib.Clock
import SceneHub.Node.Compile
import SceneHub.Theory.EngineSteps

/-!
# When Timers Fire

The fires of a timer, told by when it was started and stopped and when it was visited. Times are
natural numbers here, of which the clock of the engine has the last 32 bits. What the engine keeps
of a timer is when it is due, by that clock, and whether it fires on a visit is read off the sign
of a difference. So it fires on the first visit from when it is due, and then no more unless it
repeats, exactly if every visit is within half a cycle of when the timer is due.

Actions that start and stop timers, its own or others, in the middle of a poll make no difference:
the visit of a timer only looks at what was done to this one before.

## Main definitions

* `TimerNote`, `timerHistory`: What happened to a timer in a run.
* `awaited`: What the engine should know of it.
* `FiresRight`: It fired when it was due, and at no other time.
* `Near`: The clock can tell whether a timer is due.

## Theorems

* `processTimerEvents_eq`: A poll visits one timer after the other.
* `follow_run`: The engine knows what was noted of a timer.
* `timer_fires_iff`: Exactly when a timer fires as it should.
-/

namespace SceneHub.Node

open Lib (reached stamp)

/-! ### What is asked of a timer -/

/-- What happens to a timer, and when. -/
inductive TimerNote where
  | start (slot : TimerSlot) (time : Nat)
  | cancel
  | visit (time : Nat) (fired : Bool)
  deriving DecidableEq

/-- The time from the start of a timer to its first fire. -/
def TimerSlot.delay (slot : TimerSlot) : UInt32 :=
  if 0 < slot.durationMs then slot.durationMs else slot.intervalMs

/-- The time from a fire of a timer that repeats to the next one. -/
def TimerSlot.period (slot : TimerSlot) : UInt32 :=
  if 0 < slot.intervalMs then slot.intervalMs else slot.durationMs

/-- How a timer was started that has still to fire, and when it is due. The last note comes
    first. -/
def awaited : List TimerNote → Option (TimerSlot × Nat)
  | [] => none
  | .start slot time :: _ => some (slot, time + slot.delay.toNat)
  | .cancel :: _ => none
  | .visit _ false :: notes => awaited notes
  | .visit time true :: notes => match awaited notes with
    | some (slot, _) => if slot.mode = .repeat then some (slot, time + slot.period.toNat) else none
    | none => none

/-- The timer is to fire at this time. -/
def Due (notes : List TimerNote) (time : Nat) : Prop :=
  ∃ slot due, awaited notes = some (slot, due) ∧ due ≤ time

/-- On every visit the timer fired exactly if it was due. -/
def FiresRight : List TimerNote → Prop
  | [] => True
  | .start _ _ :: notes => FiresRight notes
  | .cancel :: notes => FiresRight notes
  | .visit time fired :: notes => (fired = true ↔ Due notes time) ∧ FiresRight notes

/-- Up to whole cycles, a time is less than half a cycle behind the one a timer is due, or at most
    half a cycle in front of it. -/
def Near (due time : Nat) : Prop :=
  if due ≤ time then (time - due) % 4294967296 < 2147483648
  else 0 < (due - time) % 4294967296 ∧ (due - time) % 4294967296 ≤ 2147483648

instance (due time : Nat) : Decidable (Near due time) := by
  unfold Near
  exact inferInstance

/-- Every visit of a timer is near to when it is due. -/
def VisitsNear : List TimerNote → Prop
  | [] => True
  | .start _ _ :: notes => VisitsNear notes
  | .cancel :: notes => VisitsNear notes
  | .visit time _ :: notes =>
    (∀ slot due, awaited notes = some (slot, due) → Near due time) ∧ VisitsNear notes

/-! ### The notes of a run -/

/-- A turn of the task, with the times of which its clock has the last 32 bits. -/
structure TimedTurn where
  answer : List Effect → EspErr
  time : List Effect → Nat
  turn : EngineTurn

def TimedTurn.around (t : TimedTurn) : Surroundings :=
  ⟨t.answer, fun effects => stamp (t.time effects)⟩

def timersOf (active : Option Bundle) : List String := (active.map Bundle.timerNames).getD []

/-- What an effect is to the timer of a name. -/
def effectNote (name : String) (time : Nat) : Effect → Option TimerNote
  | .startTimer timer slot => if timer = name then some (.start slot time) else none
  | .cancelTimer timer => if timer = name then some .cancel else none
  | .command _ _ | .emit _ _ | .setState _ _ | .setPhase _ => none

/-- What the effects are to a timer that came behind the first `count`. -/
def effectNotes (name : String) (time : List Effect → Nat) (count : Nat) :
    List Effect → List TimerNote
  | [] => []
  | effect :: effects =>
    if effects.length < count then []
    else (effectNote name (time effects) effect).toList ++ effectNotes name time count effects

/-- What a turn itself is to timer `i`: it visits the timer, or clears all timers. -/
def turnNote (i : Nat) (s s' : EngineTask) : EngineTurn → Option TimerNote
  | .visit timer nowMs =>
    if timer = i then some (.visit nowMs (decide (s'.reports = .timer i :: s.reports))) else none
  | .reset | .pause | .resume => some .cancel
  | .event _ | .setEnabled _ | .sample _ _ _ => none

/-- The task and the notes of timer `i` behind a turn. -/
def follow (setup : EngineSetup) (i : Nat) (x : EngineTask × List TimerNote) (t : TimedTurn) :
    EngineTask × List TimerNote :=
  let s' := engineTurn setup t.around x.1 t.turn
  (s', effectNotes (nameAt (timersOf setup.active) i) t.time x.1.engine.effects.length
    s'.engine.effects ++ ((turnNote i x.1 s' t.turn).toList ++ x.2))

/-- What happens to timer `i` in a run. -/
def timerHistory (setup : EngineSetup) (i : Nat) (s : EngineTask) (turns : List TimedTurn) :
    List TimerNote :=
  (turns.foldl (follow setup i) (s, [])).2

/-! ### The clock -/

theorem timeReached_eq (now deadline : UInt32) : timeReached now deadline = reached now deadline := by
  unfold timeReached reached
  rw [decide_eq_decide, Int32.le_iff_toInt_le]
  have hsign : (now - deadline).toInt32.toInt = (now - deadline).toBitVec.toInt := rfl
  rw [hsign, BitVec.toInt_eq_toNat_cond]
  have hlt := (now - deadline).toNat_lt
  change _ ↔ (now - deadline).toBitVec.toNat < _
  have hzero : (0 : Int32).toInt = 0 := rfl
  rw [hzero]
  split <;> omega

/-- The clock is right about a timer exactly if the time is near. -/
theorem reached_iff_near (due time : Nat) :
    (reached (stamp time) (stamp due) = true ↔ due ≤ time) ↔ Near due time := by
  unfold reached stamp Near
  rw [decide_eq_true_iff, UInt32.toNat_sub, UInt32.toNat_ofNat', UInt32.toNat_ofNat']
  by_cases hdue : due ≤ time
  · rw [if_pos hdue, iff_true_right hdue]
    omega
  · rw [if_neg hdue, iff_false_right hdue]
    omega

theorem stamp_add (time : Nat) (d : UInt32) : stamp (time + d.toNat) = stamp time + d := by
  unfold stamp
  rw [UInt32.ofNat_add, UInt32.ofNat_toNat]

/-! ### What is known of a timer -/

/-- The engine knows what was noted of a timer. -/
def Knows (notes : List TimerNote) (slot : TimerSlot) : Prop :=
  match awaited notes with
  | none => slot.active = false
  | some (started, due) => slot = { started with active := true, nextFireMs := stamp due }

/-- On every visit the timer fired exactly if the clock said that it was due. -/
def Judged : List TimerNote → Prop
  | [] => True
  | .start _ _ :: notes => Judged notes
  | .cancel :: notes => Judged notes
  | .visit time fired :: notes =>
    (fired = true ↔ ∃ slot due, awaited notes = some (slot, due) ∧
      reached (stamp time) (stamp due) = true) ∧ Judged notes

theorem firesRight_iff_near {notes : List TimerNote} (h : Judged notes) :
    FiresRight notes ↔ VisitsNear notes := by
  induction notes with
  | nil => exact Iff.rfl
  | cons note notes ih =>
    cases note with
    | start slot time => exact ih h
    | cancel => exact ih h
    | visit time fired =>
      refine and_congr ?_ (ih h.2)
      rw [h.1]
      unfold Due
      cases hawaited : awaited notes with
      | none => simp
      | some pair =>
        obtain ⟨slot, due⟩ := pair
        constructor
        · intro hiff slot' due' heq
          cases heq
          rw [← reached_iff_near]
          simpa using hiff
        · intro hnear
          simpa using (reached_iff_near due time).2 (hnear slot due rfl)

/-! ### What an event does to a timer -/

variable {active : Option Bundle} {t : TimedTurn} {i count : Nat} {notes : List TimerNote}
  {s s' : EngineState}

/-- The engine knows what was noted of a timer up to here, in the middle of a turn. -/
def Told (active : Option Bundle) (t : TimedTurn) (i count : Nat) (notes : List TimerNote)
    (s : EngineState) : Prop :=
  count ≤ s.effects.length ∧
    Knows (effectNotes (nameAt (timersOf active) i) t.time count s.effects ++ notes) (s.timers i)

theorem effectNotes_self (name : String) (time : List Effect → Nat) {effects : List Effect}
    (h : effects.length = count) : effectNotes name time count effects = [] := by
  cases effects with
  | nil => rfl
  | cons effect effects =>
    exact if_pos (by rw [← h]; exact Nat.lt_succ_self _)

theorem judged_effectNotes (name : String) (time : List Effect → Nat) (effects : List Effect) :
    Judged (effectNotes name time count effects ++ notes) ↔ Judged notes := by
  induction effects with
  | nil => exact Iff.rfl
  | cons effect effects ih =>
    unfold effectNotes
    split
    · exact Iff.rfl
    rw [List.append_assoc]
    refine Iff.trans ?_ ih
    -- Effects are no visits.
    unfold effectNote
    cases effect with
    | startTimer timer slot | cancelTimer timer => by_cases h : timer = name <;> simp [h, Judged]
    | _ => exact Iff.rfl

theorem Told.start (h : Knows notes (s.timers i)) (hcount : s.effects.length = count) :
    Told active t i count notes s := by
  refine ⟨Nat.le_of_eq hcount.symm, ?_⟩
  rw [effectNotes_self _ _ hcount]
  exact h

theorem Told.effect (h : Told active t i count notes s) {effect : Effect}
    (heffects : s'.effects = effect :: s.effects) (hknows : ∀ older, Knows older (s.timers i) →
      Knows ((effectNote (nameAt (timersOf active) i) (t.time s.effects) effect).toList ++ older)
        (s'.timers i)) : Told active t i count notes s' := by
  refine ⟨by rw [heffects]; exact Nat.le_succ_of_le h.1, ?_⟩
  rw [heffects]
  unfold effectNotes
  rw [if_neg (Nat.not_lt.2 h.1), List.append_assoc]
  exact hknows _ h.2

/-- A timer that was started is due behind its delay. -/
theorem startedSlot_delay (mode : TimerMode) (durationMs intervalMs now : UInt32) :
    startedSlot mode durationMs intervalMs now =
      { startedSlot mode durationMs intervalMs now with
        active := true
        nextFireMs := now + (startedSlot mode durationMs intervalMs now).delay } := by
  have hdelay : (startedSlot mode durationMs intervalMs now).delay =
      if 0 < durationMs then durationMs else intervalMs := by
    unfold startedSlot TimerSlot.delay
    dsimp only
    split
    · rfl
    · next hduration =>
        split
        · rfl
        · next hinterval =>
            rw [← UInt32.toNat_inj]
            simp only [UInt32.lt_iff_toNat_lt, UInt32.toNat_zero] at hduration hinterval
            omega
  rw [hdelay]
  rfl

theorem nameAt_inj {names : List String} (hnodup : names.Nodup) {i j : Nat}
    (hi : i < names.length) (hj : j < names.length) (h : nameAt names i = nameAt names j) :
    i = j := by
  unfold nameAt at h
  rw [List.getElem?_eq_getElem hi, List.getElem?_eq_getElem hj] at h
  exact (hnodup.getElem_inj_iff).1 h

/-- A timer is started or stopped, maybe another one. -/
theorem Told.timer (h : Told active t i count notes s) (hnodup : (timersOf active).Nodup)
    (hi : i < (timersOf active).length) {key : Nat} (hkey : key < (timersOf active).length)
    {effect : Effect} {note : TimerNote} {slot : TimerSlot}
    (heffects : s'.effects = effect :: s.effects)
    (hnote : ∀ name, effectNote name (t.time s.effects) effect =
      if nameAt (timersOf active) key = name then some note else none)
    (htimers : s'.timers = Function.update s.timers key slot)
    (hknows : ∀ older, Knows (note :: older) slot) : Told active t i count notes s' := by
  refine h.effect heffects fun older hbefore => ?_
  rw [hnote, htimers]
  by_cases hsame : key = i
  · subst hsame
    rw [if_pos rfl, Function.update_self]
    exact hknows older
  · rw [if_neg fun hname => hsame (nameAt_inj hnodup hkey hi hname),
      Function.update_of_ne (Ne.symm hsame)]
    exact hbefore

theorem EngineStep.told (hrunnable : ∀ b ∈ active, b.Runnable) (hi : i < (timersOf active).length)
    (hstep : EngineStep t.around active s s') (h : Told active t i count notes s) :
    Told active t i count notes s' := by
  cases hstep with
  | command | emit | setState | setPhase => exact h.effect rfl fun _ hknows => hknows
  | startTimer b action key hactive hmem hkey =>
    have hrun := hrunnable b hactive
    subst hactive
    refine h.timer hrun.timerNames hi (hrun.timerIndex action hmem key hkey) rfl
      (fun _ => rfl) rfl fun older => ?_
    unfold Knows awaited
    dsimp only
    rw [stamp_add]
    exact startedSlot_delay _ _ _ _
  | cancelTimer b action key hactive hmem hkey =>
    have hrun := hrunnable b hactive
    subst hactive
    exact h.timer hrun.timerNames hi (hrun.timerIndex action hmem key hkey) rfl
      (fun _ => rfl) rfl fun older => rfl

theorem Told.steps (hrunnable : ∀ b ∈ active, b.Runnable) (hi : i < (timersOf active).length)
    (h : Told active t i count notes s) (hsteps : EngineSteps t.around active s s') :
    Told active t i count notes s' := by
  induction hsteps with
  | refl => exact h
  | tail _ hstep ih => exact hstep.told hrunnable hi ih

/-! ### What a turn does to a timer -/

section

variable {inputs : List InputConfig} {channel : Nat} {level : Bool} {nowMs : UInt32}
  {task : EngineTask}

theorem told_holdLoop (hrunnable : ∀ b ∈ active, b.Runnable) (hi : i < (timersOf active).length)
    {b : Bundle} (hactive : active = some b) (rules : List (CompiledRule × Nat))
    (dispatched : List UInt32) (h : Told active t i count notes task.engine) :
    Told active t i count notes
      (holdLoop t.around b channel nowMs rules dispatched task).engine := by
  induction rules generalizing dispatched task with
  | nil => exact h
  | cons rule rules ih =>
    unfold holdLoop
    dsimp only
    split
    · exact ih dispatched h
    split
    · exact ih dispatched h
    refine ih _ (h.steps hrunnable hi ?_)
    rw [← hactive]
    exact dispatchEvent_steps _

theorem told_sample (hrunnable : ∀ b ∈ active, b.Runnable) (hi : i < (timersOf active).length)
    (h : Told active t i count notes task.engine) : Told active t i count notes
      (processInputSample t.around inputs active channel level nowMs task).engine := by
  unfold processInputSample
  dsimp only
  split
  · exact h
  split
  · exact h
  split
  · split
    · refine Told.steps hrunnable hi ?_ (dispatchEvent_steps _)
      exact h
    split
    · exact h
    split
    · refine Told.steps hrunnable hi ?_ (dispatchEvent_steps _)
      exact h
    · exact h
  · unfold processInputHoldEvents
    split
    · exact h
    · next b =>
        split
        · exact h
        · exact told_holdLoop hrunnable hi rfl _ _ h

end

/-- A timer that has not fired, or has to fire again, is due as was noted. -/
theorem knows_fired {slot : TimerSlot} (h : Knows notes slot) (hactive : slot.active = true)
    (time : Nat) : Knows (.visit time true :: notes) (slot.fired (stamp time)) := by
  unfold Knows at h ⊢
  unfold awaited
  cases hawaited : awaited notes with
  | none =>
    rw [hawaited] at h
    exact absurd hactive (Bool.eq_false_iff.1 h)
  | some pair =>
    obtain ⟨started, due⟩ := pair
    rw [hawaited] at h
    subst h
    unfold TimerSlot.fired
    dsimp only
    by_cases hmode : started.mode = .repeat
    · rw [if_pos hmode, if_pos hmode]
      dsimp only
      rw [stamp_add]
      rfl
    · rw [if_neg hmode, if_neg hmode]

/-- The clock says that a timer is due exactly if the engine finds that out. -/
theorem knows_due_iff {slot : TimerSlot} (h : Knows notes slot) (time : Nat) :
    (slot.active = true ∧ timeReached (stamp time) slot.nextFireMs = true) ↔
    ∃ started due, awaited notes = some (started, due) ∧
      reached (stamp time) (stamp due) = true := by
  unfold Knows at h
  cases hawaited : awaited notes with
  | none =>
    rw [hawaited] at h
    rw [h]
    simp
  | some pair =>
    obtain ⟨started, due⟩ := pair
    rw [hawaited] at h
    rw [h, timeReached_eq]
    simp

/-- The engine knows what was noted of a timer, and its visits were judged by the clock. -/
structure Tracks (i : Nat) (x : EngineTask × List TimerNote) : Prop where
  knows : Knows x.2 (x.1.engine.timers i)
  judged : Judged x.2

/-- The timer fires, and its event is dispatched. -/
def EngineTask.fire (around : Surroundings) (b : Bundle) (now : UInt32) (s : EngineTask)
    (timer : Nat) : EngineTask :=
  let slot := s.engine.timers timer
  { s with engine := { s.engine with
      timers := Function.update s.engine.timers timer (slot.fired now) } }.report around (some b)
    (.timer timer) (timerEvent timer (nameAt b.timerNames timer) slot.durationMs)

theorem EngineTask.fire_steps (around : Surroundings) (b : Bundle) (now : UInt32) (s : EngineTask)
    (timer : Nat) : EngineSteps around (some b)
      { s.engine with timers :=
          Function.update s.engine.timers timer ((s.engine.timers timer).fired now) }
      (s.fire around b now timer).engine :=
  dispatchEvent_steps _

theorem engineTurn_visit (setup : EngineSetup) {b : Bundle} (hactive : setup.active = some b)
    (around : Surroundings) (s : EngineTask) (timer nowMs : Nat) :
    engineTurn setup around s (.visit timer nowMs) =
      if timer < b.timerNames.length ∧ (s.engine.timers timer).active = true ∧
          timeReached (stamp nowMs) (s.engine.timers timer).nextFireMs = true then
        s.fire around b (stamp nowMs) timer
      else s := by
  unfold engineTurn
  simp only [hactive]
  rw [Nat.min_eq_left (setup.runnable b hactive).timerRoom]
  by_cases htimer : timer < b.timerNames.length
  · rw [if_neg (Nat.not_le.2 htimer)]
    change (if !_ || !timeReached (stamp nowMs) _ then _ else _) = _
    by_cases hdue : (s.engine.timers timer).active = true ∧
        timeReached (stamp nowMs) (s.engine.timers timer).nextFireMs = true
    · exact (if_neg (by simpa using hdue)).trans (if_pos ⟨htimer, hdue⟩).symm
    · refine (if_pos ?_).trans (if_neg fun hboth => hdue hboth.2).symm
      simpa [← Bool.not_eq_true, imp_iff_not_or] using hdue
  · rw [if_pos (Nat.not_lt.1 htimer), if_neg fun hboth => htimer hboth.1]

theorem turnNote_visit_self (s s' : EngineTask) (nowMs : Nat) : turnNote i s s' (.visit i nowMs) =
      some (.visit nowMs (decide (s'.reports = .timer i :: s.reports))) := if_pos rfl

theorem turnNote_visit_ne {timer : Nat} (hne : timer ≠ i) (s s' : EngineTask) (nowMs : Nat) :
    turnNote i s s' (.visit timer nowMs) = none := if_neg hne

section

variable (setup : EngineSetup)

theorem told_visit (hi : i < (timersOf setup.active).length)
    {x : EngineTask × List TimerNote} (h : Tracks i x) (timer nowMs : Nat) {s' : EngineTask}
    (hturn : engineTurn setup t.around x.1 (.visit timer nowMs) = s') :
    Told setup.active t i x.1.engine.effects.length
      ((turnNote i x.1 s' (.visit timer nowMs)).toList ++ x.2) s'.engine ∧
    Judged ((turnNote i x.1 s' (.visit timer nowMs)).toList ++ x.2) := by
  cases hactive : setup.active with
  | none =>
    rw [hactive] at hi
    exact absurd hi (Nat.not_lt_zero i)
  | some b =>
    rw [hactive] at hi
    have hrunnable : ∀ b' ∈ some b, b'.Runnable := hactive ▸ setup.runnable
    have hdue := knows_due_iff h.knows nowMs
    rw [engineTurn_visit setup hactive] at hturn
    split at hturn
    · next hfires =>
        subst hturn
        by_cases hsame : timer = i
        · subst hsame
          have hreports : (x.1.fire t.around b (stamp nowMs) timer).reports =
              .timer timer :: x.1.reports := rfl
          rw [turnNote_visit_self, decide_eq_true hreports]
          refine ⟨Told.steps hrunnable hi ?_ (x.1.fire_steps _ _ _ _),
            iff_of_true rfl (hdue.1 hfires.2), h.judged⟩
          refine .start ?_ rfl
          dsimp only
          rw [Function.update_self]
          exact knows_fired h.knows hfires.2.1 nowMs
        · rw [turnNote_visit_ne hsame]
          refine ⟨Told.steps hrunnable hi ?_ (x.1.fire_steps _ _ _ _), h.judged⟩
          refine .start ?_ rfl
          dsimp only
          rw [Function.update_of_ne (Ne.symm hsame)]
          exact h.knows
    · next hquiet =>
        subst hturn
        by_cases hsame : timer = i
        · subst hsame
          rw [turnNote_visit_self, decide_eq_false (List.cons_ne_self _ _).symm]
          exact ⟨.start h.knows rfl, iff_of_false Bool.false_ne_true
            fun hsome => hquiet ⟨hi, hdue.2 hsome⟩, h.judged⟩
        · rw [turnNote_visit_ne hsame]
          exact ⟨.start h.knows rfl, h.judged⟩

theorem follow_follows (hi : i < (timersOf setup.active).length)
    {x : EngineTask × List TimerNote} (h : Tracks i x) (t : TimedTurn) :
    Tracks i (follow setup i x t) := by
  have hrunnable := setup.runnable
  -- The turn by itself, and what the rules did in it.
  suffices hturn : let s' := engineTurn setup t.around x.1 t.turn
      let now := (turnNote i x.1 s' t.turn).toList ++ x.2
      Told setup.active t i x.1.engine.effects.length now s'.engine ∧ Judged now from
    ⟨hturn.1.2, (judged_effectNotes _ _ _).2 hturn.2⟩
  have hbefore : Told setup.active t i x.1.engine.effects.length x.2 x.1.engine :=
    .start h.knows rfl
  have hcleared (s : EngineTask) (heffects : s.engine.effects = x.1.engine.effects)
      (htimers : s.engine.timers = fun _ => {}) :
      Told setup.active t i x.1.engine.effects.length (.cancel :: x.2) s.engine := by
    refine .start ?_ (congrArg List.length heffects)
    rw [htimers]
    rfl
  cases hkind : t.turn with
  | event event => exact ⟨hbefore.steps hrunnable hi (dispatchEvent_steps _), h.judged⟩
  | reset | pause => exact ⟨hcleared _ rfl rfl, h.judged⟩
  | setEnabled enabled => exact ⟨hbefore, h.judged⟩
  | resume =>
    refine ⟨?_, h.judged⟩
    unfold engineTurn
    dsimp only
    split
    · exact hcleared _ rfl rfl
    refine Told.steps hrunnable hi ?_ (dispatchEvent_steps _)
    exact hcleared { resetRuntimeState setup.initial x.1 with engine :=
      { (resetRuntimeState setup.initial x.1).engine with paused := false } } rfl rfl
  | sample channel level nowMs => exact ⟨told_sample hrunnable hi hbefore, h.judged⟩
  | visit timer nowMs => exact told_visit setup hi h timer nowMs rfl

/-! ### Runs -/

/-- A poll visits one timer after the other. -/
theorem processTimerEvents_eq (around : Surroundings) (s : EngineTask) :
    processTimerEvents around setup.active s = engineRun setup s
      ((List.range (timersOf setup.active).length).map fun i =>
        (around, .visit i (around.nowMs s.engine.effects).toNat)) := by
  unfold processTimerEvents engineRun timersOf
  rw [List.foldl_map]
  cases hactive : setup.active with
  | none => rfl
  | some b =>
    dsimp only [Option.map_some, Option.getD_some]
    have hroom := Nat.min_eq_left (setup.runnable b hactive).timerRoom
    rw [hroom]
    refine List.foldl_ext _ _ _ fun s' i hi => ?_
    unfold engineTurn
    simp only [hactive]
    rw [hroom, if_neg (Nat.not_le.2 (List.mem_range.1 hi)), UInt32.ofNat_toNat]

/-- The notes go along with the run of the task. -/
theorem follow_task (i : Nat) (turns : List TimedTurn) (x : EngineTask × List TimerNote) :
    (turns.foldl (follow setup i) x).1 =
      engineRun setup x.1 (turns.map fun t => (t.around, t.turn)) := by
  induction turns generalizing x with
  | nil => rfl
  | cons t turns ih => exact ih _

theorem follow_run (hi : i < (timersOf setup.active).length)
    (turns : List TimedTurn) {x : EngineTask × List TimerNote} (h : Tracks i x) :
    Tracks i (turns.foldl (follow setup i) x) := by
  induction turns generalizing x with
  | nil => exact h
  | cons t turns ih => exact ih (follow_follows setup hi h t)

end

theorem delayField_toNat {x : Rat} (hpos : 0 < x) :
    (delayField (some (.number x))).toNat = min x.floor.toNat 4294967295 := by
  unfold delayField castUInt32
  dsimp only
  rw [if_pos hpos, if_neg (Rat.not_le.2 hpos)]
  split
  · next hlarge =>
      have hle : (4294967295 : Int) ≤ x.floor := Rat.le_floor_iff.2 hlarge
      exact (Nat.min_eq_right (show 4294967295 ≤ x.floor.toNat by omega)).symm
  · next hsmall =>
      have hlt : x.floor < 4294967295 := Rat.floor_lt_iff.2 (Rat.not_le.1 hsmall)
      rw [UInt32.toNat_ofNat', Nat.mod_eq_of_lt (by omega), Nat.min_eq_left (by omega)]

/-- A timer fires as it should exactly if every visit is near to when the timer is due: on the first
    visit from its delay behind its start, unless it was stopped or started again before, and then
    no more, or again a period behind the last fire if it repeats. The delay is what its rule says
    in whole milliseconds, or the longest one of 32 bits. -/
theorem timer_fires_iff (setup : EngineSetup) {i : Nat} (hi : i < (timersOf setup.active).length)
    {s : EngineTask} (hs : (s.engine.timers i).active = false) (turns : List TimedTurn) :
    (FiresRight (timerHistory setup i s turns) ↔ VisitsNear (timerHistory setup i s turns)) ∧
    ∀ x : Rat, 0 < x → (delayField (some (.number x))).toNat = min x.floor.toNat 4294967295 :=
  ⟨firesRight_iff_near (follow_run setup hi turns (x := (s, [])) ⟨hs, trivial⟩).judged,
    fun _ hpos => delayField_toNat hpos⟩

/-- A timer that is started when the rules are. -/
def lampSetup (durationMs : UInt32) : EngineSetup where
  active := some {
    timerNames := ["lamp"]
    actions := [startTimerAction 0 .oneshot durationMs 0]
    rules := [{ id := "on_boot", enabled := true, actionCount := 1 }] }
  initial := fun _ => {}
  runnable := by
    intro b hactive
    cases Option.some.inj hactive
    refine ⟨Nat.le_of_ble_eq_true rfl, List.nodup_singleton _, Nat.le_of_ble_eq_true rfl, fun action hmem index hindex => ?_⟩
    cases List.mem_singleton.1 hmem
    cases hindex
    exact Nat.zero_lt_one

def lampTask : EngineTask where
  engine := { states := fun _ => {}, timers := fun _ => {}, inputs := fun _ => {} }

/-- A turn in which everything goes well. -/
def turnAt (time : Nat) (turn : EngineTurn) : TimedTurn := ⟨fun _ => .ok, fun _ => time, turn⟩

/-- The clock wraps around while the timer runs. -/
def lampTurns : List TimedTurn :=
  [turnAt 4294967290 (.event makeBootEvent), turnAt 0 (.visit 0 4294967300),
    turnAt 0 (.visit 0 4294967390), turnAt 0 (.visit 0 4294967400)]

theorem timer_fires_iff_lamp : ((FiresRight (timerHistory (lampSetup 100) 0 lampTask lampTurns) ↔
        VisitsNear (timerHistory (lampSetup 100) 0 lampTask lampTurns)) ∧
      ∀ x : Rat, 0 < x → (delayField (some (.number x))).toNat = min x.floor.toNat 4294967295) ∧
    timerHistory (lampSetup 100) 0 lampTask lampTurns =
      [.visit 4294967400 false, .visit 4294967390 true, .visit 4294967300 false,
        .start (startedSlot .oneshot 100 0 4294967290) 4294967290] :=
  ⟨timer_fires_iff (lampSetup 100) (by decide) rfl lampTurns, by decide +kernel⟩

/-- A timer that runs for more than half a cycle of the clock fires on the next visit. -/
theorem not_firesRight : ¬FiresRight (timerHistory (lampSetup 3000000000) 0 lampTask
    [turnAt 0 (.event makeBootEvent), turnAt 0 (.visit 0 10)]) := by
  have hhistory : timerHistory (lampSetup 3000000000) 0 lampTask
      [turnAt 0 (.event makeBootEvent), turnAt 0 (.visit 0 10)] =
      [.visit 10 true, .start (startedSlot .oneshot 3000000000 0 0) 0] := by decide +kernel
  rw [hhistory]
  rintro ⟨hfired, -⟩
  rcases hfired.1 rfl with ⟨slot, due, hawaited, hdue⟩
  cases hawaited
  exact absurd hdue (by decide)

end SceneHub.Node
