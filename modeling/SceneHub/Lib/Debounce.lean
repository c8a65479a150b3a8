import SceneHub.Lib.Clock

/-!
# Debounced Levels

A level is sampled at times of its own, and what counts as its value is not what was sampled last:
a new level has to be seen without interruption for a while. The samples fall into periods in which
the debounced level does not change. A period begins with the sample that confirms its level, and
the first one with the first sample of all.

Samples are kept with the last one in front, and their times are natural numbers. A wrapping clock
measures a span rightly if it is shorter than a cycle. As long as samples come often enough, nothing
that is waited for is overlooked for longer than that: the samples between two of the same level are
of the other level, and are either too few to be confirmed or begin a period of their own.

## Main definitions

* `Sample`: A level and its time.
* `runStart`: Since when the last level was seen without interruption.
* `period`: The samples since the level was confirmed, from the last to the first.
* `Edge`: A sample confirms another level.
* `HoldDue`: A sample is the first at which the level of its period was held for a time.
* `Paced`: No sample comes too late.

## Theorems

* `span_lt_of_not_held`: What was not yet held for a time was not confirmed much longer ago.
* `run_lt_of_not_edge`: What was not yet confirmed was not seen much longer.
* `le_stamp_sub_iff`: A span shorter than a cycle is measured rightly.
-/

namespace SceneHub.Lib

structure Sample where
  level : Bool
  time : Nat
  deriving DecidableEq

/-- When the level of a sample was seen first, in the samples before it without another level. -/
def runStart (s : Sample) : List Sample → Nat
  | [] => s.time
  | previous :: h => if previous.level = s.level then runStart previous h else s.time

/-- The samples of the last period, the one that began it included. -/
def period (debounce : Nat) : List Sample → List Sample
  | [] => []
  | s :: h => match (period debounce h).getLast? with
    | none => [s]
    | some first =>
      if s.level ≠ first.level ∧ runStart s h + debounce ≤ s.time then [s]
      else s :: period debounce h

/-- A sample behind others confirms a level that is not the one of their period. -/
def Edge (debounce : Nat) (s : Sample) (h : List Sample) : Prop :=
  ∃ first ∈ (period debounce h).getLast?,
    s.level ≠ first.level ∧ runStart s h + debounce ≤ s.time

/-- A sample shows the level of its period after a time. -/
def HeldFor (d : Nat) (first s : Sample) : Prop :=
  s.level = first.level ∧ first.time + d ≤ s.time

/-- A sample is the first one, behind the one that began the period, that does so. -/
def HoldDue (debounce d : Nat) (s : Sample) (h : List Sample) : Prop :=
  ∃ first ∈ (period debounce h).getLast?,
    HeldFor d first s ∧ ∀ earlier ∈ (period debounce h).dropLast, ¬ HeldFor d first earlier

/-- Times do not go back, and each comes at most `gap` behind the one before. -/
def Paced (gap : Nat) : List Sample → Prop
  | [] => True
  | s :: h => (∀ previous ∈ h.head?, previous.time ≤ s.time ∧ s.time ≤ previous.time + gap) ∧
    Paced gap h

variable {debounce gap d : Nat} {s first : Sample} {h : List Sample}

instance : Decidable (Edge debounce s h) :=
  decidable_of_iff ((period debounce h).getLast?.any fun first =>
      s.level ≠ first.level ∧ runStart s h + debounce ≤ s.time) (by
    unfold Edge
    cases (period debounce h).getLast? with
    | none => simp only [Option.any_none, Bool.false_eq_true, Option.mem_def, reduceCtorEq,
        false_and, exists_false]
    | some first => simp only [Option.any_some, decide_eq_true_iff, Option.mem_def,
        Option.some.injEq, exists_eq_left'])

instance Paced.decide : (h : List Sample) → Decidable (Paced gap h)
  | [] => inferInstanceAs (Decidable True)
  | _ :: h =>
    have : Decidable (Paced gap h) := Paced.decide h
    inferInstanceAs (Decidable (_ ∧ _))

/-! ### Periods -/

theorem period_of_edge (hedge : Edge debounce s h) : period debounce (s :: h) = [s] := by
  rcases hedge with ⟨first, hfirst, hcond⟩
  rw [period, Option.mem_def.1 hfirst]
  exact if_pos hcond

section

variable (hfirst : first ∈ (period debounce h).getLast?)
include hfirst

theorem period_of_not_edge
    (hedge : ¬ Edge debounce s h) : period debounce (s :: h) = s :: period debounce h := by
  rw [period, Option.mem_def.1 hfirst]
  exact if_neg fun hcond => hedge ⟨first, hfirst, hcond⟩

theorem edge_iff :
    Edge debounce s h ↔ s.level ≠ first.level ∧ runStart s h + debounce ≤ s.time := by
  constructor
  · rintro ⟨other, hother, hcond⟩
    rw [Option.mem_unique hfirst hother]
    exact hcond
  · exact fun hcond => ⟨first, hfirst, hcond⟩

theorem holdDue_iff : HoldDue debounce d s h ↔
      HeldFor d first s ∧ ∀ earlier ∈ (period debounce h).dropLast, ¬ HeldFor d first earlier := by
  constructor
  · rintro ⟨other, hother, hcond⟩
    rw [Option.mem_unique hfirst hother]
    exact hcond
  · exact fun hcond => ⟨first, hfirst, hcond⟩

end

theorem exists_first (debounce : Nat) (s : Sample) (h : List Sample) :
    ∃ first, first ∈ (period debounce (s :: h)).getLast? := by
  unfold period
  split
  · exact ⟨s, rfl⟩
  split
  · exact ⟨s, rfl⟩
  · exact ⟨_, List.getLast?_eq_some_getLast (List.cons_ne_nil _ _)⟩

/-- A sample that confirms nothing leaves the period as it began. -/
theorem first_of_not_edge (hfirst : first ∈ (period debounce h).getLast?)
    (hedge : ¬ Edge debounce s h) : first ∈ (period debounce (s :: h)).getLast? := by
  have hsome : (period debounce h).getLast? = some first := hfirst
  rw [period_of_not_edge hfirst hedge, List.getLast?_cons, hsome]
  rfl

theorem dropLast_of_not_edge (hfirst : first ∈ (period debounce h).getLast?)
    (hedge : ¬ Edge debounce s h) :
    (period debounce (s :: h)).dropLast = s :: (period debounce h).dropLast := by
  have hne : period debounce h ≠ [] := by
    intro hnil
    rw [hnil] at hfirst
    cases hfirst
  rw [period_of_not_edge hfirst hedge, List.dropLast_cons_of_ne_nil hne]

theorem first_before (hfirst : first ∈ (period debounce (s :: h)).getLast?)
    (hlevel : s.level ≠ first.level) :
    first ∈ (period debounce h).getLast? ∧ ¬ Edge debounce s h := by
  have hedge : ¬ Edge debounce s h := by
    intro hedge
    rw [period_of_edge hedge] at hfirst
    exact hlevel (congrArg Sample.level (Option.some.inj hfirst))
  cases h with
  | nil => exact absurd (congrArg Sample.level (Option.some.inj hfirst)) hlevel
  | cons previous h =>
    rcases exists_first debounce previous h with ⟨began, hbegan⟩
    have heq : began = first := Option.mem_unique (first_of_not_edge hbegan hedge) hfirst
    exact ⟨heq ▸ hbegan, hedge⟩

/-- A level that changes and changes back is seen anew. -/
theorem runStart_cons_of_ne {previous : Sample} (hne : previous.level ≠ s.level) :
    runStart s (previous :: h) = s.time :=
  if_neg hne

theorem runStart_cons_of_eq {previous : Sample} (heq : previous.level = s.level) :
    runStart s (previous :: h) = runStart previous h :=
  if_pos heq

/-! ### Samples that come often enough -/

/-- A level that is not confirmed by its last sample was not seen for much longer when the next
    sample comes. -/
theorem run_lt_of_not_edge {next : Sample} (hpaced : Paced gap (next :: s :: h))
    (hfirst : first ∈ (period debounce h).getLast?) (hlevel : s.level ≠ first.level)
    (hedge : ¬ Edge debounce s h) : next.time < runStart s h + debounce + gap := by
  have hnext := (hpaced.1 s rfl).2
  rw [edge_iff hfirst] at hedge
  have hrun : ¬ runStart s h + debounce ≤ s.time := fun hle => hedge ⟨hlevel, hle⟩
  omega

/-- Where a period stands in which nothing was held for a time: its level was confirmed no longer
    ago, or has been interrupted since then, and the interruption is too short to be confirmed. -/
theorem not_held_cases (hpaced : Paced gap (s :: h))
    (hfirst : first ∈ (period debounce (s :: h)).getLast?)
    (hnot : ∀ earlier ∈ (period debounce (s :: h)).dropLast, ¬ HeldFor d first earlier) :
    if s.level = first.level then s.time ≤ first.time + d
    else runStart s h ≤ first.time + d + gap ∧ s.time ≤ runStart s h + debounce := by
  induction h generalizing s with
  | nil =>
    have hself : s = first := Option.some.inj hfirst
    rw [if_pos (congrArg Sample.level hself), hself]
    omega
  | cons previous h ih =>
    by_cases hedge : Edge debounce s (previous :: h)
    · -- The sample begins a period.
      rw [period_of_edge hedge] at hfirst
      have hself : s = first := Option.some.inj hfirst
      rw [if_pos (congrArg Sample.level hself), hself]
      omega
    rcases exists_first debounce previous h with ⟨began, hbegan⟩
    have heq : began = first := Option.mem_unique (first_of_not_edge hbegan hedge) hfirst
    rw [heq] at hbegan
    rw [dropLast_of_not_edge hbegan hedge] at hnot
    have hbefore := ih hpaced.2 hbegan
      fun earlier hmem => hnot earlier (List.mem_cons_of_mem s hmem)
    have hpace := (hpaced.1 previous rfl).2
    by_cases hlevel : s.level = first.level
    · have hlast : ¬ first.time + d ≤ s.time :=
        fun hle => hnot s List.mem_cons_self ⟨hlevel, hle⟩
      rw [if_pos hlevel]
      omega
    have hrun : ¬ runStart s (previous :: h) + debounce ≤ s.time :=
      fun hle => hedge ((edge_iff hbegan).2 ⟨hlevel, hle⟩)
    rw [if_neg hlevel]
    refine ⟨?_, by omega⟩
    by_cases hsame : previous.level = s.level
    · rw [if_neg (hsame ▸ hlevel)] at hbefore
      rw [runStart_cons_of_eq hsame]
      exact hbefore.1
    -- There are two levels: the one before the interruption is that of the period.
    have hback : previous.level = first.level := by
      revert hsame hlevel
      cases previous.level <;> cases s.level <;> cases first.level <;> decide
    rw [if_pos hback] at hbefore
    rw [runStart_cons_of_ne hsame]
    omega

/-- What was not yet held for a time was not confirmed much longer ago when the next sample
    comes. -/
theorem span_lt_of_not_held {next : Sample} (hpaced : Paced gap (next :: h))
    (hfirst : first ∈ (period debounce h).getLast?)
    (hnot : ∀ earlier ∈ (period debounce h).dropLast, ¬ HeldFor d first earlier) :
    next.time ≤ first.time + d + debounce + 2 * gap := by
  cases h with
  | nil => cases hfirst
  | cons s h =>
    have hcases := not_held_cases hpaced.2 hfirst hnot
    have hnext := (hpaced.1 s rfl).2
    split at hcases <;> omega

/-! ### Times and the samples of a period -/

/-- A period does not begin behind its last sample. -/
theorem first_le (hpaced : Paced gap (s :: h))
    (hfirst : first ∈ (period debounce (s :: h)).getLast?) : first.time ≤ s.time := by
  induction h generalizing s with
  | nil =>
    have hself : s = first := Option.some.inj hfirst
    exact Nat.le_of_eq (congrArg Sample.time hself.symm)
  | cons previous h ih =>
    by_cases hedge : Edge debounce s (previous :: h)
    · rw [period_of_edge hedge] at hfirst
      have hself : s = first := Option.some.inj hfirst
      exact Nat.le_of_eq (congrArg Sample.time hself.symm)
    · rcases exists_first debounce previous h with ⟨began, hbegan⟩
      have heq : began = first := Option.mem_unique (first_of_not_edge hbegan hedge) hfirst
      exact Nat.le_trans (ih hpaced.2 (heq ▸ hbegan)) (hpaced.1 previous rfl).1

theorem runStart_le (hpaced : Paced gap (s :: h)) : runStart s h ≤ s.time := by
  induction h generalizing s with
  | nil => exact Nat.le_refl _
  | cons previous h ih =>
    by_cases hsame : previous.level = s.level
    · rw [runStart_cons_of_eq hsame]
      exact Nat.le_trans (ih hpaced.2) (hpaced.1 previous rfl).1
    · exact Nat.le_of_eq (runStart_cons_of_ne hsame)

/-- A clock that wraps measures a span rightly that is shorter than a cycle. -/
theorem le_stamp_sub_iff {start now : Nat} {span : UInt32} (hle : start ≤ now)
    (hlt : now < start + 4294967296) :
    span ≤ stamp now - stamp start ↔ start + span.toNat ≤ now := by
  rw [UInt32.le_iff_toNat_le]
  simp only [stamp, UInt32.toNat_sub, UInt32.toNat_ofNat']
  omega

end SceneHub.Lib
