import Mathlib.Algebra.Ring.Int.Defs
import Mathlib.Algebra.BigOperators.Group.List.Lemmas
import SceneHub.Timer

/-!
# What Is Left on the Clock

The timer stores what was left at a time, and every operation moves that time. Here
both are put together to one signed number, which goes down while the timer runs, goes
up by what is added, and is not changed by anything else. As long as it stays in 32
bits, it is what the timer shows.

## Main definitions

* `TimerOp.plain`: The operations on a timer that was started.
* `GmTimer.exact`: What would be left without the bounds.
* `GmTimer.ranFor`, `added`: The time spent running, and all that was added.
* `TimerOp.ends`, `TimerOp.spares`: The operations that finish a timer, and those that
  leave it finished.
* `GmTimer.KeepsAccount`: What the timer shows, over every list of operations.

## Theorems

* `apply_exact`: An operation changes what is left by what it adds.
* `after_exact`: What is left behind a list of operations.
* `finished_iff`: When a timer is finished.
* `timer_keeps_account`: All of it together.
-/

namespace SceneHub

/-- `start` begins a new account, and these go on with it. -/
def TimerOp.plain : TimerOp → Bool
  | .pause => true
  | .resume => true
  | .addTime _ => true
  | .getRemaining => true
  | _ => false

/-- An operation is there to change what is left. -/
def TimerOp.sets : TimerOp → Bool
  | .reset _ => true
  | .start _ => true
  | .setRemaining _ => true
  | .addTime _ => true
  | _ => false

/-- What an operation adds. -/
def TimerOp.delta : TimerOp → Int
  | .addTime deltaMs => deltaMs.toInt
  | _ => 0

def added (ops : List (Nat × TimerOp)) : Int := (ops.map fun op => op.2.delta).sum

/-- A number that the 32 bits of the timer hold. -/
def InBounds (value : Int) : Prop := 0 ≤ value ∧ value ≤ 4294967295

/-- The times of the operations do not go back, and neither do the first and the last. -/
def Ordered (since : Nat) (ops : List (Nat × TimerOp)) (nowMs : Nat) : Prop :=
  (since :: ops.map Prod.fst ++ [nowMs]).Pairwise (· ≤ ·)

namespace GmTimer

/-- What is left at a time, without the bounds. -/
def exact (timer : GmTimer) (nowMs : Nat) : Int :=
  timer.remainingMs - if timer.state = .running then (nowMs : Int) - timer.lastUpdatedMs else 0

/-- The time that a timer spends running, from a time on and up to another one. -/
def ranFor (timer : GmTimer) (since : Nat) : List (Nat × TimerOp) → (nowMs : Nat) → Nat
  | [], nowMs => if timer.state = .running then nowMs - since else 0
  | (opMs, op) :: ops, nowMs =>
    (if timer.state = .running then opMs - since else 0) +
      ranFor (op.apply opMs timer) opMs ops nowMs

/-- The duration with all that was added, less the time spent running. -/
def balance (durationMs : UInt32) (since : Nat) (ops : List (Nat × TimerOp)) (nowMs : Nat) : Int :=
  durationMs.toNat + added ops - (start durationMs.toNat since).ranFor since ops nowMs

end GmTimer

/-- An operation makes a timer finished. -/
def TimerOp.ends (timer : GmTimer) (nowMs : Nat) : TimerOp → Prop
  | .finish => True
  | .setRemaining remainingMs => remainingMs = 0
  | .addTime deltaMs => timer.state ≠ .idle ∧ (timer.getRemaining nowMs : Int) + deltaMs.toInt ≤ 0
  | _ => False

/-- An operation leaves a finished timer finished. -/
def TimerOp.spares : TimerOp → Bool
  | .reset _ => false
  | .start _ => false
  | .addTime _ => false
  | _ => true

/-- Behind a start, the timer shows the duration with all that was added less the time it
    ran, if this stays in bounds. Between operations this never goes up, and only four
    operations change it. A bound gives the number next to it, and a timer is finished if
    the last operation that says so has reached the end. -/
structure GmTimer.KeepsAccount (timer : GmTimer) : Prop where
  shows : ∀ (earlier : List (Nat × TimerOp)) (since : Nat) (durationMs : UInt32)
    (ops : List (Nat × TimerOp)) (nowMs : Nat), (∀ op ∈ ops, op.2.plain = true) →
    Ordered since ops nowMs →
    (∀ before opMs op later, ops = before ++ (opMs, op) :: later →
      InBounds (balance durationMs since before opMs) ∧
        InBounds (balance durationMs since (before ++ [(opMs, op)]) opMs)) →
    InBounds (balance durationMs since ops nowMs) →
    ((timer.after (earlier ++ (since, .start durationMs) :: ops)).getRemaining nowMs : Int) =
      balance durationMs since ops nowMs
  falls : ∀ nowMs laterMs, nowMs ≤ laterMs → timer.getRemaining laterMs ≤ timer.getRemaining nowMs
  unchanged : ∀ nowMs (op : TimerOp), op.sets = false →
    (op.apply nowMs timer).getRemaining nowMs = timer.getRemaining nowMs
  clamped : ∀ nowMs (deltaMs : Int32),
    ((TimerOp.apply nowMs timer (.addTime deltaMs)).getRemaining nowMs : Int) =
      max 0 (min ((timer.getRemaining nowMs : Int) + deltaMs.toInt) 4294967295)
  runsOut : ∀ nowMs, timer.state = .running → timer.lastUpdatedMs < nowMs →
    (timer.getRemaining nowMs : Int) = max 0 (min (timer.exact nowMs) 4294967295)
  finished : ∀ ops, (timer.after ops).state = .finished ↔
    (∃ before opMs op later, ops = before ++ (opMs, op) :: later ∧
      op.ends (timer.after before) opMs ∧ ∀ other ∈ later, other.2.spares = true) ∨
    (timer.state = .finished ∧ ∀ op ∈ ops, op.2.spares = true)
  signed : ∀ nowMs < 2 ^ 63, timer.getRemainingInt64 nowMs = timer.getRemaining nowMs

namespace GmTimer

variable {timer : GmTimer} {nowMs laterMs since opMs : Nat} {op : TimerOp}
  {ops : List (Nat × TimerOp)}

/-! ### One operation -/

theorem clampRemaining_eq (value : Int) :
    (clampRemaining value : Int) = max 0 (min value 4294967295) := by
  unfold clampRemaining
  split_ifs <;> omega

theorem clampRemaining_of_inBounds {value : Int} (h : InBounds value) :
    (clampRemaining value : Int) = value := by
  rw [clampRemaining_eq]
  unfold InBounds at h
  omega

theorem getRemaining_exact (hlast : timer.lastUpdatedMs ≤ nowMs)
    (h : InBounds (timer.exact nowMs)) : (timer.getRemaining nowMs : Int) = timer.exact nowMs := by
  unfold getRemaining
  unfold exact at h ⊢
  by_cases hrun : timer.state = .running
  · rw [if_pos hrun] at h ⊢
    rw [if_neg (not_not_intro hrun)]
    by_cases hnow : nowMs ≤ timer.lastUpdatedMs
    · rw [if_pos hnow]
      omega
    -- The time that has passed is not cut off at zero.
    have hsub : ((nowMs - timer.lastUpdatedMs : Nat) : Int) = nowMs - timer.lastUpdatedMs := by
      omega
    rw [if_neg hnow, hsub]
    exact clampRemaining_of_inBounds h
  · rw [if_neg hrun, if_pos hrun]
    omega

theorem exact_stored (hlast : timer.lastUpdatedMs = nowMs) :
    timer.exact nowMs = timer.remainingMs := by
  unfold exact
  split_ifs <;> omega

/-- What is left goes down with the time, if the timer runs. -/
theorem exact_later (hnow : nowMs ≤ laterMs) : timer.exact laterMs =
    timer.exact nowMs - (if timer.state = .running then laterMs - nowMs else 0 : Nat) := by
  unfold exact
  by_cases hrun : timer.state = .running
  · simp only [if_pos hrun]
    omega
  · simp only [if_neg hrun]
    omega

/-- An operation takes what is left over to its own time, with what it adds. -/
theorem apply_exact (hplain : op.plain = true) (hlast : timer.lastUpdatedMs ≤ nowMs)
    (hbefore : InBounds (timer.exact nowMs)) (hafter : InBounds (timer.exact nowMs + op.delta)) :
    (op.apply nowMs timer).exact nowMs = timer.exact nowMs + op.delta ∧
      (op.apply nowMs timer).lastUpdatedMs ≤ nowMs := by
  have hshown := getRemaining_exact hlast hbefore
  cases op with
  | pause =>
    unfold TimerOp.apply pause
    by_cases hrun : timer.state = .running
    · rw [if_neg (not_not_intro hrun), Option.getD_some]
      refine ⟨?_, le_rfl⟩
      rw [exact_stored rfl, ← hshown]
      exact (Int.add_zero _).symm
    · rw [if_pos hrun]
      exact ⟨(Int.add_zero _).symm, hlast⟩
  | resume =>
    unfold TimerOp.apply resume
    by_cases hpaused : timer.state = .paused
    · rw [if_neg (not_not_intro hpaused), Option.getD_some]
      refine ⟨?_, le_rfl⟩
      -- A paused timer has not lost anything since.
      have hleft : timer.exact nowMs = timer.remainingMs := by
        unfold exact
        rw [hpaused]
        simp
      rw [exact_stored rfl, hleft]
      exact (Int.add_zero _).symm
    · rw [if_pos hpaused]
      exact ⟨(Int.add_zero _).symm, hlast⟩
  | addTime deltaMs =>
    have hnow : (TimerOp.apply nowMs timer (.addTime deltaMs)).lastUpdatedMs = nowMs := rfl
    refine ⟨?_, Nat.le_of_eq hnow⟩
    rw [exact_stored hnow]
    dsimp only [TimerOp.apply, TimerOp.delta, addTime] at hafter ⊢
    rw [hshown]
    exact clampRemaining_of_inBounds hafter
  | getRemaining => exact ⟨(Int.add_zero _).symm, hlast⟩
  | _ => cases hplain

/-! ### A list of operations -/

theorem after_append (timer : GmTimer) (ops more : List (Nat × TimerOp)) :
    timer.after (ops ++ more) = (timer.after ops).after more :=
  List.foldl_append

/-- The time spent running up to the last operation, and behind it. -/
theorem ranFor_append (timer : GmTimer) (since : Nat) (ops : List (Nat × TimerOp)) (opMs : Nat)
    (op : TimerOp) (nowMs : Nat) :
    timer.ranFor since (ops ++ [(opMs, op)]) nowMs = timer.ranFor since ops opMs +
      if (timer.after (ops ++ [(opMs, op)])).state = .running then nowMs - opMs else 0 := by
  induction ops generalizing timer since with
  | nil => rfl
  | cons first ops ih =>
    simp only [List.cons_append, ranFor, ih, Nat.add_assoc]
    rfl

theorem added_append (ops : List (Nat × TimerOp)) (opMs : Nat) (op : TimerOp) :
    added (ops ++ [(opMs, op)]) = added ops + op.delta := by
  simp [added]

theorem balance_append (durationMs : UInt32) (since : Nat) (ops : List (Nat × TimerOp))
    (opMs : Nat) (op : TimerOp) (nowMs : Nat) :
    balance durationMs since (ops ++ [(opMs, op)]) nowMs =
      balance durationMs since ops opMs + op.delta -
        (if ((start durationMs.toNat since).after (ops ++ [(opMs, op)])).state = .running then
          nowMs - opMs else 0 : Nat) := by
  unfold balance
  rw [added_append, ranFor_append]
  omega

theorem Ordered_append (h : Ordered since (ops ++ [(opMs, op)]) nowMs) :
    Ordered since ops opMs ∧ opMs ≤ nowMs := by
  unfold Ordered at h ⊢
  rw [List.map_append, ← List.cons_append] at h
  rcases List.pairwise_append.1 h with ⟨hops, -, hlast⟩
  exact ⟨hops, hlast opMs (List.mem_append_right _ List.mem_cons_self) nowMs List.mem_cons_self⟩

theorem after_exact (durationMs : UInt32) (since : Nat) (ops : List (Nat × TimerOp)) :
    ∀ nowMs, (∀ op ∈ ops, op.2.plain = true) → Ordered since ops nowMs →
    (∀ before opMs op later, ops = before ++ (opMs, op) :: later →
      InBounds (balance durationMs since before opMs) ∧
        InBounds (balance durationMs since (before ++ [(opMs, op)]) opMs)) →
    ((start durationMs.toNat since).after ops).exact nowMs = balance durationMs since ops nowMs ∧
      ((start durationMs.toNat since).after ops).lastUpdatedMs ≤ nowMs := by
  -- The last operation is taken off, and what is left at its time is known.
  induction ops using List.reverseRecOn with
  | nil =>
    intro nowMs _ hordered _
    have hsince : since ≤ nowMs := by
      simpa [Ordered] using hordered
    refine ⟨?_, hsince⟩
    have hstate : (start durationMs.toNat since).state = .running := rfl
    have hremaining : (start durationMs.toNat since).remainingMs = durationMs.toNat := rfl
    have hlast : (start durationMs.toNat since).lastUpdatedMs = since := rfl
    simp only [after, List.foldl_nil, exact, balance, ranFor, added, List.map_nil, List.sum_nil,
      hstate, hremaining, hlast, if_true]
    omega
  | append_singleton ops last ih =>
    rcases last with ⟨opMs, op⟩
    intro nowMs hplain hordered hbounds
    rcases Ordered_append hordered with ⟨hbefore, hnow⟩
    have hlast := hbounds ops opMs op [] rfl
    rcases ih opMs (fun other hmem => hplain other (List.mem_append_left _ hmem)) hbefore
      (fun before otherMs other later heq => by
        refine hbounds before otherMs other (later ++ [(opMs, op)]) ?_
        rw [heq, List.append_assoc, List.cons_append]) with ⟨hexact, hupdated⟩
    have hsame : balance durationMs since (ops ++ [(opMs, op)]) opMs =
        balance durationMs since ops opMs + op.delta := by
      rw [balance_append]
      simp
    rw [hsame, ← hexact] at hlast
    rcases apply_exact (hplain (opMs, op) (List.mem_append_right _ List.mem_cons_self)) hupdated
      hlast.1 hlast.2 with ⟨happly, hupdated'⟩
    have hafter : (start durationMs.toNat since).after (ops ++ [(opMs, op)]) =
        op.apply opMs ((start durationMs.toNat since).after ops) := after_append _ _ _
    constructor
    · rw [balance_append, hafter, exact_later hnow, happly, hexact]
    · rw [hafter]
      exact Nat.le_trans hupdated' hnow

/-! ### When a timer is finished -/

theorem apply_finished (timer : GmTimer) (nowMs : Nat) (op : TimerOp) :
    (op.apply nowMs timer).state = .finished ↔
      op.ends timer nowMs ∨ (timer.state = .finished ∧ op.spares = true) := by
  cases op with
  | reset durationMs => simp [TimerOp.apply, TimerOp.ends, TimerOp.spares, reset]
  | start durationMs => simp [TimerOp.apply, TimerOp.ends, TimerOp.spares, start]
  | pause =>
    unfold TimerOp.apply pause
    by_cases hrun : timer.state = .running
    · simp [TimerOp.ends, hrun]
    · simp [TimerOp.ends, TimerOp.spares, hrun]
  | resume =>
    unfold TimerOp.apply resume
    by_cases hpaused : timer.state = .paused
    · simp [TimerOp.ends, hpaused]
    · simp [TimerOp.ends, TimerOp.spares, hpaused]
  | finish => simp [TimerOp.apply, TimerOp.ends, finish]
  | setRemaining remainingMs =>
    have hzero : remainingMs.toNat = 0 ↔ remainingMs = 0 := by
      rw [← UInt32.toNat_inj]
      rfl
    by_cases hr : remainingMs = 0
    · simp [TimerOp.apply, TimerOp.ends, TimerOp.spares, setRemaining, hr]
    · simp [TimerOp.apply, TimerOp.ends, TimerOp.spares, setRemaining, hzero, hr]
  | addTime deltaMs =>
    have hzero : clampRemaining ((timer.getRemaining nowMs : Int) + deltaMs.toInt) = 0 ↔
        (timer.getRemaining nowMs : Int) + deltaMs.toInt ≤ 0 := by
      have := clampRemaining_eq ((timer.getRemaining nowMs : Int) + deltaMs.toInt)
      omega
    simp only [TimerOp.apply, TimerOp.ends, TimerOp.spares, addTime, hzero]
    by_cases hend : (timer.getRemaining nowMs : Int) + deltaMs.toInt ≤ 0
    · by_cases hidle : timer.state = .idle
      · simp [hidle, hend]
      · simp [hidle, hend]
    -- With something left, a finished timer is paused again.
    have hpos : 0 < clampRemaining ((timer.getRemaining nowMs : Int) + deltaMs.toInt) := by
      omega
    by_cases hfinished : timer.state = .finished
    · simp [hfinished, hend, hpos]
    · simp [hfinished, hend]
  | getRemaining => simp [TimerOp.apply, TimerOp.ends, TimerOp.spares]

theorem finished_iff (timer : GmTimer) (ops : List (Nat × TimerOp)) :
    (timer.after ops).state = .finished ↔
      (∃ before opMs op later, ops = before ++ (opMs, op) :: later ∧
        op.ends (timer.after before) opMs ∧ ∀ other ∈ later, other.2.spares = true) ∨
      (timer.state = .finished ∧ ∀ op ∈ ops, op.2.spares = true) := by
  induction ops using List.reverseRecOn with
  | nil => simp [after]
  | append_singleton ops last ih =>
    rcases last with ⟨opMs, op⟩
    have hafter : timer.after (ops ++ [(opMs, op)]) = op.apply opMs (timer.after ops) :=
      after_append _ _ _
    rw [hafter, apply_finished, ih]
    constructor
    · rintro (hends | ⟨⟨before, otherMs, other, later, rfl, hends, hlater⟩ | ⟨hstart, hops⟩,
        hspares⟩)
      · exact .inl ⟨ops, opMs, op, [], rfl, hends, nofun⟩
      · refine .inl ⟨before, otherMs, other, later ++ [(opMs, op)], ?_, hends, ?_⟩
        · rw [List.append_assoc, List.cons_append]
        intro another hmem
        rcases List.mem_append.1 hmem with hmem | hmem
        · exact hlater another hmem
        · rw [List.mem_singleton.1 hmem]
          exact hspares
      · refine .inr ⟨hstart, fun another hmem => ?_⟩
        rcases List.mem_append.1 hmem with hmem | hmem
        · exact hops another hmem
        · rw [List.mem_singleton.1 hmem]
          exact hspares
    rintro (⟨before, otherMs, other, later, heq, hends, hlater⟩ | ⟨hstart, hops⟩)
    · -- The operation is the last one, or it is among the others.
      rcases List.eq_nil_or_concat' later with rfl | ⟨rest, final, rfl⟩
      · rcases List.append_inj' heq rfl with ⟨rfl, hsame⟩
        injection hsame with hsame
        injection hsame with hms hop
        rw [hms, hop]
        exact .inl hends
      rw [← List.cons_append, ← List.append_assoc] at heq
      rcases List.append_inj' heq rfl with ⟨rfl, hsame⟩
      injection hsame with hsame
      refine .inr ⟨.inl ⟨before, otherMs, other, rest, rfl, hends, ?_⟩, ?_⟩
      · exact fun another hmem => hlater another (List.mem_append_left _ hmem)
      have hspares := hlater final (List.mem_append_right _ List.mem_cons_self)
      rw [← hsame] at hspares
      exact hspares
    · exact .inr ⟨.inr ⟨hstart, fun another hmem => hops another (List.mem_append_left _ hmem)⟩,
        hops (opMs, op) (List.mem_append_right _ List.mem_cons_self)⟩

/-! ### All of it together -/

/-- Between operations the timer never shows more than before. -/
theorem getRemaining_falls (timer : GmTimer) (hnow : nowMs ≤ laterMs) :
    timer.getRemaining laterMs ≤ timer.getRemaining nowMs := by
  unfold getRemaining
  split_ifs with hrun hlater hlast
  · exact le_rfl
  · exact le_rfl
  · omega
  · -- The number that is cut off may be too large for the bound already.
    have := clampRemaining_eq ((timer.remainingMs : Int) -
      ((laterMs - timer.lastUpdatedMs : Nat) : Int))
    omega
  · have hfirst := clampRemaining_eq ((timer.remainingMs : Int) -
      ((laterMs - timer.lastUpdatedMs : Nat) : Int))
    have hsecond := clampRemaining_eq ((timer.remainingMs : Int) -
      ((nowMs - timer.lastUpdatedMs : Nat) : Int))
    omega

theorem getRemaining_stored (hlast : timer.lastUpdatedMs = nowMs) :
    timer.getRemaining nowMs = timer.remainingMs := by
  unfold getRemaining
  rw [if_pos (Nat.le_of_eq hlast.symm), ite_self]

theorem apply_unchanged (timer : GmTimer) (nowMs : Nat) {op : TimerOp} (hop : op.sets = false) :
    (op.apply nowMs timer).getRemaining nowMs = timer.getRemaining nowMs := by
  cases op with
  | pause =>
    unfold TimerOp.apply pause
    by_cases hrun : timer.state = .running
    · rw [if_neg (not_not_intro hrun)]
      exact getRemaining_stored rfl
    · rw [if_pos hrun]
      rfl
  | resume =>
    unfold TimerOp.apply resume
    by_cases hpaused : timer.state = .paused
    · rw [if_neg (not_not_intro hpaused)]
      have hshown : timer.getRemaining nowMs = timer.remainingMs := by
        simp [getRemaining, hpaused]
      rw [hshown]
      exact getRemaining_stored rfl
    · rw [if_pos hpaused]
      rfl
  | finish => exact getRemaining_stored rfl
  | getRemaining => rfl
  | _ => cases hop

/-- **What the timer shows, over every list of operations.** -/
theorem timer_keeps_account (timer : GmTimer) : timer.KeepsAccount where
  shows earlier since durationMs ops nowMs hplain hordered hbounds hnow := by
    have hafter : timer.after (earlier ++ (since, .start durationMs) :: ops) =
        (start durationMs.toNat since).after ops := after_append _ _ _
    rcases after_exact durationMs since ops nowMs hplain hordered hbounds with ⟨hexact, hlast⟩
    rw [hafter, ← hexact]
    rw [← hexact] at hnow
    exact getRemaining_exact hlast hnow
  falls _ _ := getRemaining_falls timer
  unchanged nowMs _ := apply_unchanged timer nowMs
  clamped nowMs deltaMs := by
    have hstored : (TimerOp.apply nowMs timer (.addTime deltaMs)).getRemaining nowMs =
        clampRemaining ((timer.getRemaining nowMs : Int) + deltaMs.toInt) := getRemaining_stored rfl
    rw [hstored]
    exact clampRemaining_eq _
  runsOut nowMs hrun hlast := by
    unfold getRemaining exact
    rw [if_neg (not_not_intro hrun), if_neg (Nat.not_le.2 hlast), if_pos hrun, clampRemaining_eq]
    omega
  finished := finished_iff timer
  signed nowMs hnow := by
    have hsigned : Int.bmod ((nowMs - timer.lastUpdatedMs : Nat) : Int) (2 ^ 64) =
        ((nowMs - timer.lastUpdatedMs : Nat) : Int) := by
      rw [Int.bmod_def]
      omega
    unfold getRemainingInt64 getRemaining
    rw [hsigned]

/-- A paused timer is set back, and shows more than before. -/
theorem not_onlyThreeIncrease : ¬∀ (timer : GmTimer) (nowMs : Nat) (op : TimerOp),
    (∀ d, op ≠ .addTime d) → (∀ d, op ≠ .start d) → (∀ r, op ≠ .setRemaining r) →
      (op.apply nowMs timer).getRemaining nowMs ≤ timer.getRemaining nowMs := by
  intro h
  have hreset := h ((start 60000 0).after [(20000, .pause)]) 30000 (.reset 60000)
    (nofun) (nofun) nofun
  revert hreset
  decide

end GmTimer

end SceneHub
