import Mathlib.Data.List.Basic
import SceneHub.Node.FallbackRuntime

/-!
# Fallback Timing

When the local rules take over, and when they give back.

The policy is asked once in a round, about the notifications taken so far, so an
outage is a row of rounds in which the hub is away. The first of them sets the
deadline, from the timeout as it is then. A round in which the hub is back drops
it, and so does a configuration that disables the fallback.

A deadline is compared by the sign of a difference. A timeout up to half a cycle
is never cut short by that, and a round less than half a cycle behind the
deadline sees that it has passed. Between the two the clock may wrap.

The fallback does not return by itself under the manual policy, a timeout of zero
never starts it, and a change that the engine refuses is tried again in the next
round.

## Main definitions

* `FallbackRound.Outage`, `FallbackRound.Recovery`: The hub is away, or back.
* `EntersAfterOutage`, `ReturnsAfterRecovery`: No switch comes too early.
* `OutageSwitches`, `RecoverySwitches`: A switch that is due comes.
* `FollowsRounds`: The deadline against the rounds so far.

## Theorems

* `position_outage`, `position_recovery`, `position_disabled`: What a round does.
* `fallback_timing`: The four together, over all runs.
-/

namespace SceneHub.Node

variable {first : FallbackRound} {older newer : List FallbackRound} {P : FallbackRound → Prop}

/-! ### Rounds -/

/-- The fallback is enabled, and the hub is away. -/
def FallbackRound.Outage (r : FallbackRound) : Prop :=
  r.asked.enabled = true ∧ r.asked.hubAvailable = false

/-- The fallback is enabled, and the hub is there. -/
def FallbackRound.Recovery (r : FallbackRound) : Prop :=
  r.asked.enabled = true ∧ r.asked.hubAvailable = true

/-- The hub is there, or the fallback is disabled and the engine refuses to stop the
    rules. -/
def FallbackRound.Returning (r : FallbackRound) : Prop :=
  r.Recovery ∨ (r.asked.enabled = false ∧ r.actionErr ≠ .ok)

instance (r : FallbackRound) : Decidable r.Recovery := inferInstanceAs (Decidable (_ ∧ _))

instance (r : FallbackRound) : Decidable r.Returning := inferInstanceAs (Decidable (_ ∨ _))

/-- The rounds of a run come one after the other. -/
def Timely (turns : List FallbackTurn) : Prop := (turns.map (·.now)).Pairwise (· ≤ ·)

instance (turns : List FallbackTurn) : Decidable (Timely turns) :=
  inferInstanceAs (Decidable (List.Pairwise _ _))

/-- The round a task makes of a turn. -/
def FallbackStatus.round (s : FallbackStatus) (turn : FallbackTurn) : FallbackRound where
  now := turn.now
  asked := s.drain turn.requests
  actionErr := turn.actionErr
  after := s.turn turn

/-- The local rules take over only at the end of an outage that is as long as the
    timeout was when it began, up to half a cycle. -/
def EntersAfterOutage (rounds : List FallbackRound) : Prop :=
  ∀ (older : List FallbackRound) (r : FallbackRound) (newer : List FallbackRound),
    rounds = older ++ r :: newer →
    r.asked.fallbackRulesActive = false → r.after.fallbackRulesActive = true →
    ∃ (before : List FallbackRound) (first : FallbackRound) (during : List FallbackRound),
      older = before ++ first :: during ∧
      (∀ x ∈ first :: during ++ [r], x.Outage) ∧
      (first.asked.fallbackTimeoutMs.toNat ≤ 2147483648 →
        first.now + first.asked.fallbackTimeoutMs.toNat ≤ r.now)

/-- While the fallback is enabled, the local rules give back only at the end of a
    recovery that is as long as the return delay was when it began. It goes on over
    a time in which the fallback is disabled in vain. -/
def ReturnsAfterRecovery (rounds : List FallbackRound) : Prop :=
  ∀ (older : List FallbackRound) (r : FallbackRound) (newer : List FallbackRound),
    rounds = older ++ r :: newer → r.asked.enabled = true →
    r.asked.fallbackRulesActive = true → r.after.fallbackRulesActive = false →
    ∃ (before : List FallbackRound) (first : FallbackRound) (during : List FallbackRound),
      older ++ [r] = before ++ first :: during ∧ first.Recovery ∧
      r.Recovery ∧ (∀ x ∈ first :: during, x.Returning) ∧
      (first.asked.fallbackReturnDelayMs.toNat ≤ 2147483648 →
        first.now + first.asked.fallbackReturnDelayMs.toNat ≤ r.now)

/-- Behind the timeout of an outage the local rules run, from the first round on in
    which the engine obeys. -/
def OutageSwitches (rounds : List FallbackRound) : Prop :=
  ∀ (older : List FallbackRound) (first : FallbackRound) (during : List FallbackRound)
    (last : FallbackRound) (newer : List FallbackRound),
    rounds = older ++ first :: during ++ last :: newer →
    (∀ r, older.getLast? = some r → ¬r.Outage) → (∀ r ∈ first :: during ++ [last], r.Outage) →
    0 < first.asked.fallbackTimeoutMs →
    first.now + first.asked.fallbackTimeoutMs.toNat ≤ last.now →
    last.now < first.now + first.asked.fallbackTimeoutMs.toNat + 2147483648 →
    last.actionErr = .ok →
    last.after.state = .fallbackActive ∧ last.after.fallbackRulesActive = true

/-- Behind the return delay of a recovery that begins in a round that `returns`, the
    hub is back in control, from the first round on in which the engine obeys. -/
def RecoverySwitches (returns : FallbackRound → Prop) (rounds : List FallbackRound) : Prop :=
  ∀ (older : List FallbackRound) (first : FallbackRound) (during : List FallbackRound)
    (last : FallbackRound) (newer : List FallbackRound),
    rounds = older ++ first :: during ++ newer →
    (∀ r, older.getLast? = some r → ¬r.Returning) → (∀ r ∈ first :: during, r.Recovery) →
    returns first → (first :: during).getLast? = some last →
    (first.asked.fallbackReturnDelayMs = 0 → first.actionErr = .ok) →
    first.now + first.asked.fallbackReturnDelayMs.toNat ≤ last.now →
    last.now < first.now + first.asked.fallbackReturnDelayMs.toNat + 2147483648 →
    last.actionErr = .ok →
    last.after.state = .hubPrimary ∧ last.after.fallbackRulesActive = false

/-! ### What a round does -/

/-- The part of a status that a round changes by itself. -/
structure FallbackPosition where
  state : FallbackState
  deadlineMs : UInt32
  rulesActive : Bool

def FallbackStatus.position (s : FallbackStatus) : FallbackPosition where
  state := s.state
  deadlineMs := s.deadlineMs
  rulesActive := s.fallbackRulesActive

variable {s a : FallbackStatus} {turn : FallbackTurn}

/-- Notifications and configurations leave the position alone. -/
@[simp] theorem drain_position (s : FallbackStatus) (requests : List FallbackRequest) :
    (s.drain requests).position = s.position := by
  induction requests generalizing s with
  | nil => rfl
  | cons request requests ih =>
    have hrest := ih (s.handleRequest request)
    unfold FallbackStatus.drain at hrest ⊢
    rw [List.foldl_cons, hrest]
    cases request <;> rfl

/-- The status behind a round, from the status the policy was asked about. -/
def FallbackStatus.finalized (a : FallbackStatus) (turn : FallbackTurn) : FallbackStatus :=
  a.finalizeTransition (policyEvaluate a (Lib.stamp turn.now)) turn.actionErr
    (Lib.stamp turn.later)

section

variable (state : FallbackState) (deadline : UInt32) (err : EspErr) (later : UInt32)

theorem finalize_stay :
    (a.finalizeTransition { nextState := state, nextDeadlineMs := deadline } err later).position =
      a.position := by
  simp [FallbackStatus.finalizeTransition]

theorem finalize_change : (a.finalizeTransition (changeTo state deadline .none) err later).position =
      ⟨state, deadline, a.fallbackRulesActive⟩ := by
  simp [FallbackStatus.finalizeTransition, changeTo, FallbackStatus.position]

theorem finalize_enter :
    (a.finalizeTransition (changeTo state deadline .enterFallback) err later).position =
      if err = .ok then ⟨state, deadline, true⟩ else a.position := by
  by_cases herr : err = .ok
  · simp [FallbackStatus.finalizeTransition, changeTo, herr, FallbackStatus.position]
  · simp [FallbackStatus.finalizeTransition, changeTo, herr]

theorem finalize_exit :
    (a.finalizeTransition (changeTo state deadline .exitFallback) err later).position =
      if err = .ok then ⟨state, deadline, false⟩ else a.position := by
  by_cases herr : err = .ok
  · simp [FallbackStatus.finalizeTransition, changeTo, herr, FallbackStatus.position]
  · simp [FallbackStatus.finalizeTransition, changeTo, herr]

end

theorem position_outage (turn : FallbackTurn) (henabled : a.enabled = true) (haway : a.hubAvailable = false) :
    (a.finalized turn).position = match a.state with
      | .hubPrimary =>
        if 0 < a.fallbackTimeoutMs then
          ⟨.hubOfflinePending, Lib.stamp turn.now + a.fallbackTimeoutMs, a.fallbackRulesActive⟩
        else a.position
      | .hubOfflinePending =>
        if Lib.reached (Lib.stamp turn.now) a.deadlineMs = true ∧ turn.actionErr = .ok then
          ⟨.fallbackActive, 0, true⟩
        else a.position
      | .fallbackActive => a.position
      | .hubReturnPending => ⟨.fallbackActive, 0, a.fallbackRulesActive⟩ := by
  unfold FallbackStatus.finalized policyEvaluate
  simp only [henabled, haway, Bool.not_true, Bool.not_false, Bool.false_eq_true, if_false,
    true_and, true_or, if_true]
  cases a.state with
  | hubPrimary =>
    by_cases htimeout : 0 < a.fallbackTimeoutMs
    · simp [htimeout, finalize_change]
    · simp [htimeout, finalize_stay]
  | hubOfflinePending =>
    by_cases hreached : Lib.reached (Lib.stamp turn.now) a.deadlineMs = true
    · simp [hreached, finalize_enter]
    · simp [hreached, finalize_stay]
  | fallbackActive => exact finalize_stay _ _ _ _
  | hubReturnPending => exact finalize_change _ _ _ _

theorem position_recovery (turn : FallbackTurn) (henabled : a.enabled = true) (hthere : a.hubAvailable = true) :
    (a.finalized turn).position = match a.state with
      | .hubPrimary => a.position
      | .hubOfflinePending => ⟨.hubPrimary, 0, a.fallbackRulesActive⟩
      | .fallbackActive =>
        if a.returnPolicy = .manualStayActive then a.position
        else if a.fallbackReturnDelayMs = 0 then
          if turn.actionErr = .ok then ⟨.hubPrimary, 0, false⟩ else a.position
        else ⟨.hubReturnPending, Lib.stamp turn.now + a.fallbackReturnDelayMs,
          a.fallbackRulesActive⟩
      | .hubReturnPending =>
        if Lib.reached (Lib.stamp turn.now) a.deadlineMs = true ∧ turn.actionErr = .ok then
          ⟨.hubPrimary, 0, false⟩
        else a.position := by
  unfold FallbackStatus.finalized policyEvaluate
  simp only [henabled, hthere, Bool.not_true, Bool.false_eq_true, if_false, false_and, false_or,
    if_true]
  cases a.state with
  | hubPrimary => exact finalize_stay _ _ _ _
  | hubOfflinePending => exact finalize_change _ _ _ _
  | fallbackActive =>
    by_cases hmanual : a.returnPolicy = .manualStayActive
    · simp [hmanual, finalize_stay]
    by_cases hdelay : a.fallbackReturnDelayMs = 0
    · simp [hmanual, hdelay, finalize_exit]
    · simp [hmanual, hdelay, finalize_change]
  | hubReturnPending =>
    by_cases hreached : Lib.reached (Lib.stamp turn.now) a.deadlineMs = true
    · simp [hreached, finalize_exit]
    · simp [hreached, finalize_stay]

/-- A round in which the fallback is disabled: the hub is in control, unless the
    engine refuses to stop the rules. -/
theorem position_disabled (turn : FallbackTurn) (hdisabled : a.enabled = false) :
    ((a.finalized turn).position.state = .hubPrimary ∧
      (a.finalized turn).position.rulesActive = false) ∨
    (a.fallbackRulesActive = true ∧ turn.actionErr ≠ .ok ∧
      (a.finalized turn).position = a.position) := by
  unfold FallbackStatus.finalized policyEvaluate
  simp only [hdisabled, Bool.not_false, if_true]
  cases hactive : a.fallbackRulesActive with
  | true =>
    simp only [if_true]
    by_cases hstate : a.state = .hubPrimary
    · rw [if_neg (not_not_intro hstate)]
      by_cases herr : turn.actionErr = .ok
      · refine .inl ⟨?_, ?_⟩
        · simp [FallbackStatus.finalizeTransition, herr, FallbackStatus.position, hstate]
        · simp [FallbackStatus.finalizeTransition, herr, FallbackStatus.position]
      · refine .inr ⟨trivial, herr, ?_⟩
        simp [FallbackStatus.finalizeTransition, herr]
    · rw [if_pos hstate, finalize_exit]
      split
      · exact .inl ⟨rfl, rfl⟩
      · rename_i herr
        exact .inr ⟨trivial, herr, rfl⟩
  | false =>
    simp only [Bool.false_eq_true, if_false]
    by_cases hstate : a.state = .hubPrimary
    · rw [if_neg (not_not_intro hstate), finalize_stay]
      exact .inl ⟨hstate, hactive⟩
    · rw [if_pos hstate, finalize_change]
      exact .inl ⟨rfl, hactive⟩

/-! ### The deadline against the past -/

/-- The rules run in the two states of the fallback, and a state with a deadline was
    entered by a round that set it, since when nothing changed. -/
structure FollowsRounds (p : FallbackPosition) (past : List FallbackRound) : Prop where
  rules : p.rulesActive = true ↔ p.state = .fallbackActive ∨ p.state = .hubReturnPending
  outage : p.state = .hubOfflinePending → ∃ older first during,
    past = older ++ first :: during ∧ (∀ r ∈ first :: during, r.Outage) ∧
    p.deadlineMs = Lib.stamp first.now + first.asked.fallbackTimeoutMs
  recovery : p.state = .hubReturnPending → ∃ older first during,
    past = older ++ first :: during ∧ first.Recovery ∧ (∀ r ∈ first :: during, r.Returning) ∧
    p.deadlineMs = Lib.stamp first.now + first.asked.fallbackReturnDelayMs

theorem followsRounds_start : FollowsRounds ({} : FallbackStatus).position [] where
  rules := by decide
  outage := nofun
  recovery := nofun

variable {p : FallbackPosition} {past : List FallbackRound} {r : FallbackRound}

theorem followsRounds_of_settled (hrules : p.rulesActive = true ↔ p.state = .fallbackActive)
    (hoffline : p.state ≠ .hubOfflinePending) (hreturn : p.state ≠ .hubReturnPending) :
    FollowsRounds p past where
  rules := hrules.trans (or_iff_left hreturn).symm
  outage := fun h => absurd h hoffline
  recovery := fun h => absurd h hreturn

theorem row_append {older during : List FallbackRound} (hpast : past = older ++ first :: during)
    (hrow : ∀ x ∈ first :: during, P x) (hr : P r) :
    past ++ [r] = older ++ first :: (during ++ [r]) ∧ ∀ x ∈ first :: (during ++ [r]), P x := by
  refine ⟨by rw [hpast, List.append_assoc, List.cons_append], fun x hx => ?_⟩
  rw [← List.cons_append] at hx
  rcases List.mem_append.1 hx with hold | hlast
  · exact hrow x hold
  · rw [List.mem_singleton.1 hlast]
    exact hr

theorem row_start (P : FallbackRound → Prop) (past : List FallbackRound) (hr : P r) :
    past ++ [r] = past ++ r :: [] ∧ ∀ x ∈ [r], P x :=
  ⟨rfl, fun x hx => by rw [List.mem_singleton.1 hx]; exact hr⟩

theorem FollowsRounds.same (h : FollowsRounds p past)
    (houtage : p.state = .hubOfflinePending → r.Outage)
    (hreturn : p.state = .hubReturnPending → r.Returning) : FollowsRounds p (past ++ [r]) where
  rules := h.rules
  outage := by
    intro hstate
    rcases h.outage hstate with ⟨older, first, during, hpast, hrow, hdeadline⟩
    rcases row_append hpast hrow (houtage hstate) with ⟨hlonger, hall⟩
    exact ⟨older, first, _, hlonger, hall, hdeadline⟩
  recovery := by
    intro hstate
    rcases h.recovery hstate with ⟨older, first, during, hpast, hfirst, hrow, hdeadline⟩
    rcases row_append hpast hrow (hreturn hstate) with ⟨hlonger, hall⟩
    exact ⟨older, first, _, hlonger, hfirst, hall, hdeadline⟩

/-- The round of a turn in which the policy is asked about `a`. -/
def FallbackStatus.roundOf (a : FallbackStatus) (turn : FallbackTurn) : FallbackRound where
  now := turn.now
  asked := a
  actionErr := turn.actionErr
  after := a.finalized turn

theorem FollowsRounds.disabled (h : FollowsRounds a.position past) (hdisabled : a.enabled = false) :
    FollowsRounds (a.finalized turn).position (past ++ [a.roundOf turn]) := by
  rcases position_disabled turn hdisabled with ⟨hstate, hrules⟩ | ⟨hrules, herr, hsame⟩
  · generalize (a.finalized turn).position = p at hstate hrules ⊢
    refine followsRounds_of_settled ?_ ?_ ?_
    · rw [hstate, hrules]
      decide
    · rw [hstate]
      decide
    · rw [hstate]
      decide
  rw [hsame]
  refine h.same (fun hstate => ?_) fun _ => .inr ⟨hdisabled, herr⟩
  -- The rules do not run while an outage is pending.
  rcases h.rules.1 hrules with hactive | hactive
  · rw [hstate] at hactive
    cases hactive
  · rw [hstate] at hactive
    cases hactive

theorem FollowsRounds.away (h : FollowsRounds a.position past) (henabled : a.enabled = true)
    (haway : a.hubAvailable = false) :
    FollowsRounds (a.finalized turn).position (past ++ [a.roundOf turn]) := by
  have hrules : a.fallbackRulesActive = true ↔
    a.state = .fallbackActive ∨ a.state = .hubReturnPending := h.rules
  have hrow : (a.roundOf turn).Outage := ⟨henabled, haway⟩
  have hsame : a.state ≠ .hubReturnPending → FollowsRounds a.position (past ++ [a.roundOf turn]) :=
    fun hstate => h.same (fun _ => hrow) fun hreturn => absurd hreturn hstate
  rw [position_outage turn henabled haway]
  cases hstate : a.state with
  | hubPrimary =>
    dsimp only
    split
    · -- The outage begins.
      refine ⟨?_, fun _ => ?_, nofun⟩
      · simp [hrules, hstate]
      · rcases row_start FallbackRound.Outage past hrow with ⟨hlonger, hall⟩
        exact ⟨past, _, [], hlonger, hall, rfl⟩
    · exact hsame (by rw [hstate]; decide)
  | hubOfflinePending =>
    dsimp only
    split
    · exact followsRounds_of_settled (by decide) nofun nofun
    · exact hsame (by rw [hstate]; decide)
  | fallbackActive => exact hsame (by rw [hstate]; decide)
  | hubReturnPending =>
    refine followsRounds_of_settled ?_ nofun nofun
    simp [hrules, hstate]

theorem FollowsRounds.there (h : FollowsRounds a.position past) (henabled : a.enabled = true)
    (hthere : a.hubAvailable = true) :
    FollowsRounds (a.finalized turn).position (past ++ [a.roundOf turn]) := by
  have hrules : a.fallbackRulesActive = true ↔
    a.state = .fallbackActive ∨ a.state = .hubReturnPending := h.rules
  have hrow : (a.roundOf turn).Recovery := ⟨henabled, hthere⟩
  have hsame : a.state ≠ .hubOfflinePending → FollowsRounds a.position (past ++ [a.roundOf turn]) :=
    fun hstate => h.same (fun houtage => absurd houtage hstate) fun _ => .inl hrow
  rw [position_recovery turn henabled hthere]
  cases hstate : a.state with
  | hubPrimary => exact hsame (by rw [hstate]; decide)
  | hubOfflinePending =>
    refine followsRounds_of_settled ?_ nofun nofun
    simp [hrules, hstate]
  | fallbackActive =>
    dsimp only
    split
    · exact hsame (by rw [hstate]; decide)
    split
    · split
      · exact followsRounds_of_settled (by decide) nofun nofun
      · exact hsame (by rw [hstate]; decide)
    -- The recovery begins.
    refine ⟨?_, nofun, fun _ => ?_⟩
    · simp [hrules, hstate]
    rcases row_start FallbackRound.Returning past (.inl hrow) with
      ⟨hlonger, hall⟩
    exact ⟨past, _, [], hlonger, hrow, hall, rfl⟩
  | hubReturnPending =>
    dsimp only
    split
    · exact followsRounds_of_settled (by decide) nofun nofun
    · exact hsame (by rw [hstate]; decide)

theorem FollowsRounds.round (h : FollowsRounds s.position past) (turn : FallbackTurn) :
    FollowsRounds (s.turn turn).position (past ++ [s.round turn]) := by
  rw [← drain_position s turn.requests] at h
  have hround : s.round turn = (s.drain turn.requests).roundOf turn := rfl
  have hafter : s.turn turn = (s.drain turn.requests).finalized turn := rfl
  rw [hround, hafter]
  cases henabled : (s.drain turn.requests).enabled with
  | false => exact h.disabled henabled
  | true =>
    cases hthere : (s.drain turn.requests).hubAvailable with
    | false => exact h.away henabled hthere
    | true => exact h.there henabled hthere

/-! ### Switches -/

theorem rules_outage (henabled : a.enabled = true) (haway : a.hubAvailable = false) :
    (a.finalized turn).fallbackRulesActive =
      if a.state = .hubOfflinePending ∧ Lib.reached (Lib.stamp turn.now) a.deadlineMs = true ∧
        turn.actionErr = .ok then true
      else a.fallbackRulesActive := by
  have hposition := congrArg FallbackPosition.rulesActive
    (position_outage turn henabled haway)
  change (a.finalized turn).fallbackRulesActive = _ at hposition
  rw [hposition]
  cases a.state with
  | hubPrimary =>
    simp only [reduceCtorEq, false_and, if_false]
    split <;> rfl
  | hubOfflinePending =>
    simp only [true_and]
    split <;> rfl
  | fallbackActive =>
    rfl
  | hubReturnPending => simp only [reduceCtorEq, false_and, if_false]

theorem rules_recovery (henabled : a.enabled = true) (hthere : a.hubAvailable = true) :
    (a.finalized turn).fallbackRulesActive =
      if ((a.state = .fallbackActive ∧ a.returnPolicy ≠ .manualStayActive ∧
          a.fallbackReturnDelayMs = 0) ∨
        (a.state = .hubReturnPending ∧ Lib.reached (Lib.stamp turn.now) a.deadlineMs = true)) ∧
        turn.actionErr = .ok then false
      else a.fallbackRulesActive := by
  have hposition := congrArg FallbackPosition.rulesActive
    (position_recovery turn henabled hthere)
  change (a.finalized turn).fallbackRulesActive = _ at hposition
  rw [hposition]
  cases a.state with
  | hubPrimary =>
    rfl
  | hubOfflinePending => simp only [reduceCtorEq, false_and, or_self, if_false]
  | fallbackActive =>
    simp only [true_and, reduceCtorEq, false_and, or_false]
    by_cases hmanual : a.returnPolicy = .manualStayActive
    · simp only [hmanual, if_true, not_true_eq_false, ne_eq, false_and, if_false]
      rfl
    by_cases hdelay : a.fallbackReturnDelayMs = 0
    · simp only [hmanual, hdelay, if_false, if_true, not_false_eq_true, ne_eq, true_and]
      split <;> rfl
    · simp [hmanual, hdelay]
  | hubReturnPending =>
    simp only [true_and, reduceCtorEq, false_and, false_or]
    split <;> rfl

theorem enters (hbefore : a.fallbackRulesActive = false)
    (hafter : (a.finalized turn).fallbackRulesActive = true) :
    (a.roundOf turn).Outage ∧ a.state = .hubOfflinePending ∧
      Lib.reached (Lib.stamp turn.now) a.deadlineMs = true := by
  cases henabled : a.enabled with
  | false =>
    rcases position_disabled turn henabled with ⟨-, hrules⟩ | ⟨hrules, -, -⟩
    · exact absurd (hafter.symm.trans hrules) nofun
    · exact absurd (hrules.symm.trans hbefore) nofun
  | true =>
    cases hthere : a.hubAvailable with
    | true =>
      rw [rules_recovery henabled hthere, hbefore] at hafter
      split at hafter <;> cases hafter
    | false =>
      rw [rules_outage henabled hthere, hbefore] at hafter
      split at hafter
      · rename_i hdue
        exact ⟨⟨henabled, hthere⟩, hdue.1, hdue.2.1⟩
      · cases hafter

theorem leaves (henabled : a.enabled = true) (hbefore : a.fallbackRulesActive = true)
    (hafter : (a.finalized turn).fallbackRulesActive = false) :
    (a.roundOf turn).Recovery ∧ ((a.state = .fallbackActive ∧ a.fallbackReturnDelayMs = 0) ∨
      (a.state = .hubReturnPending ∧
        Lib.reached (Lib.stamp turn.now) a.deadlineMs = true)) := by
  cases hthere : a.hubAvailable with
  | true =>
    rw [rules_recovery henabled hthere, hbefore] at hafter
    split at hafter
    · rename_i hdue
      refine ⟨⟨henabled, hthere⟩, ?_⟩
      rcases hdue.1 with ⟨hstate, -, hdelay⟩ | hreached
      · exact .inl ⟨hstate, hdelay⟩
      · exact .inr hreached
    · cases hafter
  | false =>
    rw [rules_outage henabled hthere, hbefore] at hafter
    split at hafter <;> cases hafter

/-! ### Runs -/

variable {turns : List FallbackTurn}

theorem fallbackRounds_split (h : FollowsRounds s.position past)
    (hsplit : fallbackRounds s turns = older ++ r :: newer) :
    ∃ (t : FallbackStatus) (turn : FallbackTurn) (rest : List FallbackTurn), r = t.round turn ∧
      newer = fallbackRounds (t.turn turn) rest ∧ FollowsRounds t.position (past ++ older) := by
  induction older generalizing s past turns with
  | nil =>
    cases turns with
    | nil => cases hsplit
    | cons turn turns =>
      injection hsplit with hround hrest
      rw [List.append_nil]
      exact ⟨s, turn, turns, hround.symm, hrest.symm, h⟩
  | cons first older ih =>
    cases turns with
    | nil => cases hsplit
    | cons turn turns =>
      injection hsplit with hround hrest
      obtain ⟨t, last, rest, hr, hnewer, hfollows⟩ := ih (h.round turn) hrest
      have hfirst : s.round turn = first := hround
      rw [List.append_assoc, List.singleton_append, hfirst] at hfollows
      exact ⟨t, last, rest, hr, hnewer, hfollows⟩

theorem fallbackRounds_now (s : FallbackStatus) (turns : List FallbackTurn) :
    (fallbackRounds s turns).map (·.now) = turns.map (·.now) := by
  induction turns generalizing s with
  | nil => rfl
  | cons turn turns ih => exact congrArg (turn.now :: ·) (ih (s.turn turn))

theorem Timely.le (h : Timely turns) (hsplit : fallbackRounds s turns = older ++ r :: newer)
    {x : FallbackRound} (hx : x ∈ older) : x.now ≤ r.now := by
  unfold Timely at h
  rw [← fallbackRounds_now s, hsplit, List.map_append] at h
  exact (List.pairwise_append.1 h).2.2 x.now (List.mem_map_of_mem hx) r.now List.mem_cons_self

/-- A deadline up to half a cycle ahead that counts as reached is behind. -/
theorem due_of_reached_stamp {start now : Nat} {delay : UInt32} (htime : start ≤ now)
    (hdelay : delay.toNat ≤ 2147483648)
    (h : Lib.reached (Lib.stamp now) (Lib.stamp start + delay) = true) :
    start + delay.toNat ≤ now := by
  rw [Lib.reached_stamp_iff start now delay htime] at h
  have hlt := delay.toNat_lt
  refine Nat.le_of_not_lt fun hearly => ?_
  rw [Nat.mod_eq_of_lt (by omega)] at h
  omega

/-- A deadline less than half a cycle behind counts as reached. -/
theorem reached_stamp_of_due {start now : Nat} {delay : UInt32}
    (hdue : start + delay.toNat ≤ now) (hsoon : now < start + delay.toNat + 2147483648) :
    Lib.reached (Lib.stamp now) (Lib.stamp start + delay) = true := by
  rw [Lib.reached_stamp_iff start now delay (by omega)]
  have hlt := delay.toNat_lt
  have hbehind : now - start + (4294967296 - delay.toNat) =
      (now - start - delay.toNat) + 4294967296 := by omega
  have hless : now - start - delay.toNat < 2147483648 := by omega
  rw [hbehind, Nat.add_mod_right]
  exact Nat.lt_of_le_of_lt (Nat.mod_le _ _) hless

theorem enters_after_outage (htime : Timely turns) :
    EntersAfterOutage (fallbackRounds {} turns) := by
  intro older r newer hsplit hbefore hafter
  obtain ⟨t, turn, rest, hr, -, hfollows⟩ := fallbackRounds_split followsRounds_start hsplit
  rw [List.nil_append, ← drain_position t turn.requests] at hfollows
  have hround : r = (t.drain turn.requests).roundOf turn := hr
  generalize t.drain turn.requests = a at hfollows hround
  rw [hround] at hbefore hafter
  rcases enters (a := a) hbefore hafter with ⟨hrow, hstate, hreached⟩
  rcases hfollows.outage hstate with ⟨before, first, during, hpast, hduring, hdeadline⟩
  refine ⟨before, first, during, hpast, fun x hx => ?_, fun hdelay => ?_⟩
  · rcases List.mem_append.1 hx with hold | hlast
    · exact hduring x hold
    · rw [List.mem_singleton.1 hlast, hround]
      exact hrow
  have hfirst : first.now ≤ r.now :=
    htime.le hsplit (by rw [hpast]; exact List.mem_append_right _ List.mem_cons_self)
  have hnow : r.now = turn.now := by rw [hround]; rfl
  have hdue : a.deadlineMs = Lib.stamp first.now + first.asked.fallbackTimeoutMs := hdeadline
  rw [hdue, ← hnow] at hreached
  exact due_of_reached_stamp hfirst hdelay hreached

theorem returns_after_recovery (htime : Timely turns) :
    ReturnsAfterRecovery (fallbackRounds {} turns) := by
  intro older r newer hsplit henabled hbefore hafter
  obtain ⟨t, turn, rest, hr, -, hfollows⟩ := fallbackRounds_split followsRounds_start hsplit
  rw [List.nil_append, ← drain_position t turn.requests] at hfollows
  have hround : r = (t.drain turn.requests).roundOf turn := hr
  generalize t.drain turn.requests = a at hfollows hround
  rw [hround] at henabled hbefore hafter
  rcases leaves (a := a) henabled hbefore hafter with ⟨hrow, ⟨-, hdelay⟩ | ⟨hstate, hreached⟩⟩
  · -- Without a delay the recovery is this round.
    refine ⟨older, r, [], rfl, hround ▸ hrow, hround ▸ hrow, fun x hx => ?_, fun _ => ?_⟩
    · rw [List.mem_singleton.1 hx, hround]
      exact .inl hrow
    have hnone : r.asked.fallbackReturnDelayMs = 0 := by rw [hround]; exact hdelay
    rw [hnone]
    exact Nat.le_refl _
  rcases hfollows.recovery hstate with
    ⟨before, first, during, hpast, hbegins, hduring, hdeadline⟩
  rcases row_append hpast hduring (.inl (hround ▸ hrow)) with ⟨hlonger, hall⟩
  refine ⟨before, first, _, hlonger, hbegins, hround ▸ hrow, hall, fun hdelay => ?_⟩
  have hfirst : first.now ≤ r.now :=
    htime.le hsplit (by rw [hpast]; exact List.mem_append_right _ List.mem_cons_self)
  have hnow : r.now = turn.now := by rw [hround]; rfl
  have hdue : a.deadlineMs = Lib.stamp first.now + first.asked.fallbackReturnDelayMs := hdeadline
  rw [hdue, ← hnow] at hreached
  exact due_of_reached_stamp hfirst hdelay hreached

theorem kept_over_row {Q : FallbackPosition → Prop}
    (hstep : ∀ (a : FallbackStatus) (turn : FallbackTurn), P (a.roundOf turn) → Q a.position →
      Q (a.finalized turn).position) {during newer : List FallbackRound} {last : FallbackRound}
    (hstart : Q s.position) (hsplit : fallbackRounds s turns = during ++ last :: newer)
    (hrow : ∀ r ∈ during, P r) :
    ∃ (a : FallbackStatus) (turn : FallbackTurn), last = a.roundOf turn ∧ Q a.position := by
  induction during generalizing s turns with
  | nil =>
    cases turns with
    | nil => cases hsplit
    | cons turn turns =>
      injection hsplit with hround hrest
      refine ⟨s.drain turn.requests, turn, hround.symm, ?_⟩
      rw [drain_position]
      exact hstart
  | cons first during ih =>
    cases turns with
    | nil => cases hsplit
    | cons turn turns =>
      injection hsplit with hround hrest
      have hfirst : (s.drain turn.requests).roundOf turn = first := hround
      have hkept : Q (s.turn turn).position := by
        refine hstep (s.drain turn.requests) turn ?_ ?_
        · rw [hfirst]
          exact hrow first List.mem_cons_self
        · rw [drain_position]
          exact hstart
      exact ih hkept hrest fun r hr => hrow r (.tail _ hr)

/-- In an outage that began with `first`: the rules run, or they will at its deadline. -/
def AwaitsFallback (first : FallbackRound) (p : FallbackPosition) : Prop :=
  p.state = .fallbackActive ∨ (p.state = .hubOfflinePending ∧
    p.deadlineMs = Lib.stamp first.now + first.asked.fallbackTimeoutMs)

/-- In a recovery that began with `first`: the hub is in control, or it will be at the
    deadline. -/
def AwaitsHub (first : FallbackRound) (p : FallbackPosition) : Prop :=
  p.state = .hubPrimary ∨ (p.state = .hubReturnPending ∧
    first.asked.fallbackReturnDelayMs ≠ 0 ∧
    p.deadlineMs = Lib.stamp first.now + first.asked.fallbackReturnDelayMs)

theorem AwaitsFallback.kept (a : FallbackStatus) (turn : FallbackTurn)
    (hrow : (a.roundOf turn).Outage) (h : AwaitsFallback first a.position) :
    AwaitsFallback first (a.finalized turn).position := by
  rw [position_outage (a := a) turn hrow.1 hrow.2]
  rcases h with hactive | ⟨hpending, hdeadline⟩
  · have hstate : a.state = .fallbackActive := hactive
    rw [hstate]
    exact .inl hactive
  have hstate : a.state = .hubOfflinePending := hpending
  rw [hstate]
  dsimp only
  split
  · exact .inl rfl
  · exact .inr ⟨hpending, hdeadline⟩

theorem AwaitsHub.kept (a : FallbackStatus) (turn : FallbackTurn)
    (hrow : (a.roundOf turn).Recovery) (h : AwaitsHub first a.position) :
    AwaitsHub first (a.finalized turn).position := by
  rw [position_recovery (a := a) turn hrow.1 hrow.2]
  rcases h with hprimary | ⟨hpending, hne, hdeadline⟩
  · have hstate : a.state = .hubPrimary := hprimary
    rw [hstate]
    exact .inl hprimary
  have hstate : a.state = .hubReturnPending := hpending
  rw [hstate]
  dsimp only
  split
  · exact .inl rfl
  · exact .inr ⟨hpending, hne, hdeadline⟩

theorem last_of_row {before during : List FallbackRound}
    (hpast : past = before ++ first :: during) (hrow : ∀ x ∈ first :: during, P x) :
    ∃ last, past.getLast? = some last ∧ P last := by
  have hne : first :: during ≠ [] := nofun
  refine ⟨(first :: during).getLast hne, ?_, hrow _ (List.getLast_mem hne)⟩
  rw [hpast, List.getLast?_append_of_ne_nil _ hne, List.getLast?_eq_some_getLast hne]

theorem AwaitsFallback.begins (hfollows : FollowsRounds a.position older)
    (hnew : ∀ r, older.getLast? = some r → ¬r.Outage) (hrow : (a.roundOf turn).Outage)
    (htimeout : 0 < a.fallbackTimeoutMs) :
    AwaitsFallback (a.roundOf turn) (a.finalized turn).position := by
  rw [position_outage (a := a) turn hrow.1 hrow.2]
  cases hstate : a.state with
  | hubPrimary =>
    rw [if_pos htimeout]
    exact .inr ⟨rfl, rfl⟩
  | hubOfflinePending =>
    rcases hfollows.outage hstate with ⟨before, first, during, hpast, hduring, -⟩
    rcases last_of_row hpast hduring with ⟨last, hlast, houtage⟩
    exact absurd houtage (hnew last hlast)
  | fallbackActive => exact .inl hstate
  | hubReturnPending => exact .inl rfl

theorem AwaitsHub.begins (hfollows : FollowsRounds a.position older)
    (hnew : ∀ r, older.getLast? = some r → ¬r.Returning) (hrow : (a.roundOf turn).Recovery)
    (hauto : a.returnPolicy ≠ .manualStayActive)
    (hdelay : a.fallbackReturnDelayMs = 0 → turn.actionErr = .ok) :
    AwaitsHub (a.roundOf turn) (a.finalized turn).position := by
  rw [position_recovery (a := a) turn hrow.1 hrow.2]
  cases hstate : a.state with
  | hubPrimary => exact .inl hstate
  | hubOfflinePending => exact .inl rfl
  | fallbackActive =>
    rw [if_neg hauto]
    by_cases hzero : a.fallbackReturnDelayMs = 0
    · rw [if_pos hzero, if_pos (hdelay hzero)]
      exact .inl rfl
    · rw [if_neg hzero]
      exact .inr ⟨rfl, hzero, rfl⟩
  | hubReturnPending =>
    rcases hfollows.recovery hstate with ⟨before, first, during, hpast, -, hduring, -⟩
    rcases last_of_row hpast hduring with ⟨last, hlast, hreturning⟩
    exact absurd hreturning (hnew last hlast)

/-- Behind the timeout, the engine being willing, the fallback is active. -/
theorem AwaitsFallback.due (h : AwaitsFallback first a.position) (hrow : (a.roundOf turn).Outage)
    (hdue : first.now + first.asked.fallbackTimeoutMs.toNat ≤ turn.now)
    (hsoon : turn.now < first.now + first.asked.fallbackTimeoutMs.toNat + 2147483648)
    (herr : turn.actionErr = .ok) : (a.finalized turn).position.state = .fallbackActive := by
  rw [position_outage (a := a) turn hrow.1 hrow.2]
  rcases h with hactive | ⟨hpending, hdeadline⟩
  · have hstate : a.state = .fallbackActive := hactive
    rw [hstate]
    exact hactive
  have hstate : a.state = .hubOfflinePending := hpending
  have hset : a.deadlineMs = Lib.stamp first.now + first.asked.fallbackTimeoutMs := hdeadline
  rw [hstate]
  dsimp only
  rw [hset, if_pos ⟨reached_stamp_of_due hdue hsoon, herr⟩]

/-- Behind the return delay, the engine being willing, the hub is in control. -/
theorem AwaitsHub.due (h : AwaitsHub first a.position) (hrow : (a.roundOf turn).Recovery)
    (hdue : first.now + first.asked.fallbackReturnDelayMs.toNat ≤ turn.now)
    (hsoon : turn.now < first.now + first.asked.fallbackReturnDelayMs.toNat + 2147483648)
    (herr : turn.actionErr = .ok) : (a.finalized turn).position.state = .hubPrimary := by
  rw [position_recovery (a := a) turn hrow.1 hrow.2]
  rcases h with hprimary | ⟨hpending, -, hdeadline⟩
  · have hstate : a.state = .hubPrimary := hprimary
    rw [hstate]
    exact hprimary
  have hstate : a.state = .hubReturnPending := hpending
  have hset : a.deadlineMs = Lib.stamp first.now + first.asked.fallbackReturnDelayMs := hdeadline
  rw [hstate]
  dsimp only
  rw [hset, if_pos ⟨reached_stamp_of_due hdue hsoon, herr⟩]

theorem rules_behind (hsplit : fallbackRounds {} turns = older ++ r :: newer) :
    r.after.fallbackRulesActive = true ↔
      r.after.state = .fallbackActive ∨ r.after.state = .hubReturnPending := by
  obtain ⟨t, turn, rest, hr, -, hfollows⟩ := fallbackRounds_split followsRounds_start hsplit
  have hrules := (hfollows.round turn).rules
  rw [hr]
  exact hrules

theorem outage_switches : OutageSwitches (fallbackRounds {} turns) := by
  intro older first during last newer hsplit hnew hrow htimeout hdue hsoon herr
  have hfirst : fallbackRounds {} turns = older ++ first :: (during ++ last :: newer) := by
    rw [hsplit, List.append_assoc, List.cons_append]
  obtain ⟨t, turn, rest, hr, hrest, hfollows⟩ :=
    fallbackRounds_split followsRounds_start hfirst
  rw [List.nil_append, ← drain_position t turn.requests] at hfollows
  have hround : first = (t.drain turn.requests).roundOf turn := hr
  have hbegins : AwaitsFallback first (t.turn turn).position := by
    have hfirstRow := hrow first List.mem_cons_self
    rw [hround] at hfirstRow htimeout ⊢
    exact AwaitsFallback.begins hfollows hnew hfirstRow htimeout
  obtain ⟨a, final, rfl, hawaits⟩ := kept_over_row AwaitsFallback.kept hbegins hrest.symm
    fun x hx => hrow x (List.mem_append_left _ (.tail _ hx))
  have hlastRow := hrow _ (List.mem_append_right _ (List.mem_singleton.2 rfl))
  have hstate : (a.roundOf final).after.state = .fallbackActive :=
    hawaits.due hlastRow hdue hsoon herr
  exact ⟨hstate, (rules_behind hsplit).2 (.inl hstate)⟩

theorem recovery_switches :
    RecoverySwitches (fun first => first.asked.returnPolicy = .autoOnStableMqtt)
      (fallbackRounds {} turns) := by
  intro older first during last newer hsplit hnew hrow hauto hlast hzero hdue hsoon herr
  have hfirst : fallbackRounds {} turns = older ++ first :: (during ++ newer) := by
    rw [hsplit, List.append_assoc, List.cons_append]
  obtain ⟨t, turn, rest, hr, hrest, hfollows⟩ :=
    fallbackRounds_split followsRounds_start hfirst
  rw [List.nil_append, ← drain_position t turn.requests] at hfollows
  have hround : first = (t.drain turn.requests).roundOf turn := hr
  have hbegins : AwaitsHub first (t.turn turn).position := by
    have hfirstRow := hrow first List.mem_cons_self
    rw [hround] at hfirstRow hauto hzero ⊢
    refine AwaitsHub.begins hfollows hnew hfirstRow ?_ hzero
    rw [show (t.drain turn.requests).returnPolicy = _ from hauto]
    decide
  obtain ⟨front, hfront⟩ := List.getLast?_eq_some_iff.1 hlast
  have hstate : last.after.state = .hubPrimary := by
    cases front with
    | nil =>
      -- The first round is the last, so there is no delay.
      injection hfront with hsame _
      rw [← hsame] at hdue ⊢
      have hafter : first.after = t.turn turn := by rw [hr]; rfl
      rw [hafter]
      rcases hbegins with hprimary | ⟨-, hne, -⟩
      · exact hprimary
      refine absurd (UInt32.toNat_inj.1 ?_) hne
      rw [UInt32.toNat_zero]
      omega
    | cons _ between =>
      have hduring : during = between ++ [last] := (List.cons.inj hfront).2
      rw [hduring, List.append_assoc, List.singleton_append] at hrest
      obtain ⟨a, final, rfl, hawaits⟩ := kept_over_row AwaitsHub.kept hbegins hrest.symm
        fun x hx => hrow x (.tail _ (hduring ▸ List.mem_append_left _ hx))
      have hlastRow := hrow _ (List.mem_of_getLast? hlast)
      exact hawaits.due hlastRow hdue hsoon herr
  have hsplitLast : fallbackRounds {} turns = (older ++ front) ++ last :: newer := by
    rw [hsplit, List.append_assoc, List.append_assoc, hfront, List.append_assoc,
      List.singleton_append]
  refine ⟨hstate, Bool.eq_false_iff.2 fun hactive => ?_⟩
  rcases (rules_behind hsplitLast).1 hactive with hactive | hreturn
  · rw [hstate] at hactive
    cases hactive
  · rw [hstate] at hreturn
    cases hreturn

/-- In every run of the fallback task: no switch comes too early, and a switch that
    is due comes in the first round in which the engine obeys, if the node returns by
    itself. -/
theorem fallback_timing (turns : List FallbackTurn) (htime : Timely turns) :
    EntersAfterOutage (fallbackRounds {} turns) ∧ ReturnsAfterRecovery (fallbackRounds {} turns) ∧
      OutageSwitches (fallbackRounds {} turns) ∧
      RecoverySwitches (fun first => first.asked.returnPolicy = .autoOnStableMqtt)
        (fallbackRounds {} turns) :=
  ⟨enters_after_outage htime, returns_after_recovery htime, outage_switches, recovery_switches⟩

/-- An outage of a second, and a recovery, over the end of a cycle of the clock. -/
def wrappingTurns (policy : FallbackReturnPolicy) : List FallbackTurn :=
  [{ requests := [.configure ⟨true, 1000, 500, policy⟩], now := 4294967000, later := 4294967000 },
    { now := 4294968000, later := 4294968001 },
    { requests := [.wifiState true, .mqttState true], now := 4294969000, later := 4294969000 },
    { now := 4294969500, later := 4294969501 }]

theorem fallback_timing_wrapping : Timely (wrappingTurns .autoOnStableMqtt) ∧
    EntersAfterOutage (fallbackRounds {} (wrappingTurns .autoOnStableMqtt)) ∧
    ReturnsAfterRecovery (fallbackRounds {} (wrappingTurns .autoOnStableMqtt)) ∧
    OutageSwitches (fallbackRounds {} (wrappingTurns .autoOnStableMqtt)) ∧
    RecoverySwitches (fun first => first.asked.returnPolicy = .autoOnStableMqtt)
      (fallbackRounds {} (wrappingTurns .autoOnStableMqtt)) :=
  ⟨by decide, fallback_timing (wrappingTurns .autoOnStableMqtt) (by decide)⟩

/-- Under the manual policy the node does not return. -/
theorem manual_policy_stays : ¬∀ turns, Timely turns →
    RecoverySwitches (fun _ => True) (fallbackRounds {} turns) := by
  intro h
  have hsplit : ∃ r₀ r₁ r₂ r₃ : FallbackRound,
      fallbackRounds {} (wrappingTurns .manualStayActive) =
      [r₀, r₁] ++ r₂ :: [r₃] ++ [] ∧ ¬r₁.Returning ∧ (∀ r ∈ [r₂, r₃], r.Recovery) ∧
      r₂.asked.fallbackReturnDelayMs = 500 ∧ r₂.now + 500 = r₃.now ∧ r₃.actionErr = .ok ∧
      r₃.after.state = .fallbackActive :=
    ⟨_, _, _, _, rfl, by decide, by decide, rfl, rfl, rfl, rfl⟩
  obtain ⟨r₀, r₁, r₂, r₃, hrounds, hnew, hrow, hdelay, hnow, herr, hactive⟩ := hsplit
  have hswitch := (h _ (by decide) [r₀, r₁] r₂ [r₃] r₃ [] hrounds
    (fun r hr => by rw [← Option.some.inj hr]; exact hnew) hrow trivial rfl
    (fun hzero => by rw [hdelay] at hzero; cases hzero)
    (by rw [hdelay]; exact Nat.le_of_eq hnow)
    (by rw [hdelay, ← hnow]; exact Nat.lt_add_of_pos_right (by decide)) herr).1
  rw [hactive] at hswitch
  cases hswitch

end SceneHub.Node
