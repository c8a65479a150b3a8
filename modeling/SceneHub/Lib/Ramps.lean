import Mathlib.Tactic.Common

/-!
# Ramps

A value on its way from one integer to another in a given time, rounded toward the one it comes
from. It stays between the two, never turns back, and arrives when the time is over and not
before.

## Main definitions

* `lerp`: The value after some of the time.
* `Enclosed`, `Toward`: A value lies between two others, and lies on the way from one to another.

## Theorems

* `lerp_toward`: The value moves toward the end.
* `lerp_enclosed`: It stays between the two.
* `lerp_ne_finish`: It does not arrive before the time is over.
-/

namespace SceneHub.Lib

/-- The value on the way from `start` to `finish` when `elapsed` of `duration` is over. -/
def lerp (start finish elapsed duration : Int) : Int :=
  start + ((finish - start) * elapsed).tdiv duration

def Enclosed (a b x : Int) : Prop := min a b ≤ x ∧ x ≤ max a b

/-- On the way from `x` to `b` there is `y`. -/
def Toward (b x y : Int) : Prop := x ≤ y ∧ y ≤ b ∨ b ≤ y ∧ y ≤ x

variable {start finish elapsed later duration : Int}

theorem lerp_neg (start finish elapsed duration : Int) :
    lerp (-start) (-finish) elapsed duration = -lerp start finish elapsed duration := by
  have hdifference : -finish - -start = -(finish - start) := by omega
  unfold lerp
  rw [hdifference, Int.neg_mul, Int.neg_tdiv]
  omega

theorem lerp_zero (start finish duration : Int) : lerp start finish 0 duration = start := by
  unfold lerp
  rw [Int.mul_zero, Int.zero_tdiv, Int.add_zero]

/-- Upwards the value grows. -/
theorem lerp_mono (hup : start ≤ finish) (hlater : elapsed ≤ later) (hduration : 0 < duration) :
    lerp start finish elapsed duration ≤ lerp start finish later duration := by
  have hproduct : (finish - start) * elapsed ≤ (finish - start) * later :=
    Int.mul_le_mul_of_nonneg_left hlater (by omega)
  have hquotient := Int.tdiv_le_tdiv hduration hproduct
  unfold lerp
  omega

/-- Upwards the value is below the end as long as time is left. -/
theorem lerp_lt (hup : start < finish) (helapsed : 0 ≤ elapsed) (hleft : elapsed < duration) :
    lerp start finish elapsed duration < finish := by
  have hproduct : 0 ≤ (finish - start) * elapsed := Int.mul_nonneg (by omega) helapsed
  have hquotient : ((finish - start) * elapsed).tdiv duration < finish - start := by
    rw [Int.tdiv_eq_ediv_of_nonneg hproduct]
    refine Int.ediv_lt_of_lt_mul (by omega) ?_
    exact Int.mul_lt_mul_of_pos_left hleft (by omega)
  unfold lerp
  omega

theorem lerp_le (hup : start ≤ finish) (helapsed : 0 ≤ elapsed) (hleft : elapsed < duration) :
    lerp start finish elapsed duration ≤ finish := by
  by_cases heq : start = finish
  · have hstay : lerp finish finish elapsed duration = finish := by
      unfold lerp
      rw [Int.sub_self, Int.zero_mul, Int.zero_tdiv, Int.add_zero]
    exact Int.le_of_eq (heq ▸ hstay)
  · exact Int.le_of_lt (lerp_lt (by omega) helapsed hleft)

/-- The value moves toward the end. -/
theorem lerp_toward (helapsed : 0 ≤ elapsed) (hlater : elapsed ≤ later) (hleft : later < duration) :
    Toward finish (lerp start finish elapsed duration) (lerp start finish later duration) := by
  by_cases hup : start ≤ finish
  · exact .inl ⟨lerp_mono hup hlater (by omega), lerp_le hup (by omega) hleft⟩
  -- Downwards is upwards with the sign changed.
  have hmono := @lerp_mono (-start) (-finish) elapsed later duration (by omega) hlater (by omega)
  have hle := @lerp_le (-start) (-finish) later duration (by omega) (by omega) hleft
  rw [lerp_neg] at hmono hle
  rw [lerp_neg] at hmono
  exact .inr ⟨by omega, by omega⟩

theorem lerp_enclosed (helapsed : 0 ≤ elapsed) (hleft : elapsed < duration) :
    Enclosed start finish (lerp start finish elapsed duration) := by
  have htoward := @lerp_toward start finish 0 elapsed duration (by omega) helapsed hleft
  rw [lerp_zero] at htoward
  unfold Toward at htoward
  unfold Enclosed
  omega

/-- The value is not at the end as long as time is left, unless it was there from the start. -/
theorem lerp_ne_finish (helapsed : 0 ≤ elapsed) (hleft : elapsed < duration)
    (hne : start ≠ finish) : lerp start finish elapsed duration ≠ finish := by
  by_cases hup : start < finish
  · exact Int.ne_of_lt (lerp_lt hup helapsed hleft)
  have hlt := @lerp_lt (-start) (-finish) elapsed duration (by omega) helapsed hleft
  rw [lerp_neg] at hlt
  omega

end SceneHub.Lib
