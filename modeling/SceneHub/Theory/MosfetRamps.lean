import SceneHub.Lib.Codec
import SceneHub.Lib.Ramps
import SceneHub.Node.ControlMosfet
import SceneHub.Theory.MosfetCommands

/-!
# Fades and Breathings

The values that a fade or a breathing writes to a mosfet lie between its two ends, move toward the
end, and arrive there when the time of the ramp is over and not before. The step is computed in 32
bits: it is right as long as the product of the difference and the time that is over is in them,
which it is for every fade that is accepted, but not for every breathing.

A ramp is on its way for as long as neither its ends nor its beginning change, which the ticks of a
ramp leave alone.

## Main definitions

* `StepFits`: The computation of a step keeps to its bits.
* `rampAt`: The value of a ramp, with its end.
* `RampRight`: Every step of a ramp is right.
* `HwMosfet.TickRight`: The next ticks are.

## Theorems

* `rampRight_iff`: A ramp that goes up and down again is right if and only if the product is.
* `HwMosfet.ramps_right_iff`: What that means for the commands that are accepted.
-/

namespace SceneHub.Node

open Lib (lerp Enclosed Toward)
open Config (channelMax OutputPinConfig)

variable {now : UInt64}

variable {start finish : UInt8} {elapsed later : UInt64} {duration : UInt32}

/-! ### A step in 32 bits -/

/-- A number is one of 32 bits. -/
def InInt32 (n : Int) : Prop := -2147483648 ≤ n ∧ n ≤ 2147483647

/-- The product, the quotient and the sum of a step keep to 32 bits, and nothing is divided by
    zero. -/
structure StepFits (start finish : UInt8) (elapsed : UInt64) (duration : UInt32) : Prop where
  product : InInt32 (((finish.toNat : Int) - start.toNat) * elapsed.toUInt32.toInt32.toInt)
  divisor : duration.toInt32.toInt ≠ 0
  quotient : InInt32 ((((finish.toNat : Int) - start.toNat) *
    elapsed.toUInt32.toInt32.toInt).tdiv duration.toInt32.toInt)
  sum : InInt32 (start.toNat + (((finish.toNat : Int) - start.toNat) *
    elapsed.toUInt32.toInt32.toInt).tdiv duration.toInt32.toInt)

theorem bmod_of_inInt32 {n : Int} (h : InInt32 n) : n.bmod (2 ^ 32) = n := by
  unfold InInt32 at h
  rw [Int.bmod_eq_of_le] <;> omega

/-- A number of 32 bits with a sign. -/
theorem toInt_toInt32 (n : UInt32) : n.toInt32.toInt =
    if n.toNat < 2147483648 then (n.toNat : Int) else n.toNat - 4294967296 := by
  have hcond : n.toInt32.toInt = if 2 * n.toNat < 2 ^ 32 then (n.toNat : Int)
      else n.toNat - (2 ^ 32 : Nat) := BitVec.toInt_eq_toNat_cond n.toBitVec
  rw [hcond]
  split <;> split <;> omega

theorem toInt_level (value : UInt8) : value.toUInt32.toInt32.toInt = value.toNat := by
  have hlt := value.toNat_lt
  rw [toInt_toInt32, UInt8.toNat_toUInt32, if_pos (by omega)]

theorem toNat_level {value : Int32} (hlow : 0 ≤ value.toInt) (hhigh : value.toInt ≤ 255) :
    (value.toUInt32.toUInt8.toNat : Int) = value.toInt := by
  have hbits : (value.toUInt32.toNat : Int) = value.toInt := by
    have hcond : value.toInt = if value.toUInt32.toNat < 2147483648 then
        (value.toUInt32.toNat : Int) else value.toUInt32.toNat - 4294967296 :=
      toInt_toInt32 value.toUInt32
    have hlt := value.toUInt32.toNat_lt
    split at hcond <;> omega
  rw [UInt32.toNat_toUInt8]
  omega

theorem toInt_rampValue (h : StepFits start finish elapsed duration) :
    (rampValue start finish elapsed duration).toInt =
      start.toNat + (((finish.toNat : Int) - start.toNat) *
        elapsed.toUInt32.toInt32.toInt).tdiv duration.toInt32.toInt := by
  have hstart := start.toNat_lt
  have hfinish := finish.toNat_lt
  have hdifference : InInt32 ((finish.toNat : Int) - start.toNat) := ⟨by omega, by omega⟩
  unfold rampValue
  rw [Int32.toInt_add, Int32.toInt_div, Int32.toInt_mul, Int32.toInt_sub, toInt_level, toInt_level,
    bmod_of_inInt32 hdifference, bmod_of_inInt32 h.product, bmod_of_inInt32 h.quotient,
    bmod_of_inInt32 h.sum]

/-- The largest product of a ramp keeps to 32 bits. -/
def ProductFits (start finish : UInt8) (duration : UInt32) : Prop :=
  ((finish.toNat : Int) - start.toNat).natAbs * (duration.toNat - 1) < 2147483648

/-- The product of a step of such a ramp, and its time, unless nothing is to be changed. -/
theorem ProductFits.step (h : ProductFits start finish duration)
    (hleft : elapsed.toNat < duration.toNat) (hne : start ≠ finish) :
    elapsed.toUInt32.toInt32.toInt = elapsed.toNat ∧ duration.toNat ≤ 2147483648 ∧
    (((finish.toNat : Int) - start.toNat) * elapsed.toNat).natAbs < 2147483648 := by
  have hdifference : 1 ≤ ((finish.toNat : Int) - start.toNat).natAbs := by
    have hnat : start.toNat ≠ finish.toNat := fun heq => hne (UInt8.toNat_inj.1 heq)
    omega
  have hall : duration.toNat - 1 < 2147483648 :=
    Nat.lt_of_le_of_lt (Nat.le_mul_of_pos_left _ hdifference) h
  refine ⟨?_, by omega, ?_⟩
  · rw [toInt_toInt32, UInt64.toNat_toUInt32, if_pos (by omega)]
    omega
  · rw [Int.natAbs_mul, Int.natAbs_natCast]
    exact Nat.lt_of_le_of_lt (Nat.mul_le_mul_left _ (by omega)) h

/-- The quotient does not change if a time of 2 ^ 31 becomes negative. -/
theorem tdiv_toInt32 {n : Int} (hn : n.natAbs < 2147483648) (hduration : 0 < duration.toNat)
    (hle : duration.toNat ≤ 2147483648) : duration.toInt32.toInt ≠ 0 ∧
    n.tdiv duration.toInt32.toInt = n.tdiv duration.toNat := by
  rw [toInt_toInt32]
  by_cases hlt : duration.toNat < 2147483648
  · rw [if_pos hlt]
    exact ⟨by omega, rfl⟩
  have hzero : n.tdiv (duration.toNat : Int) = 0 := by
    refine Int.natAbs_eq_zero.1 ?_
    rw [Int.natAbs_tdiv, Int.natAbs_natCast]
    exact Nat.div_eq_of_lt (by omega)
  rw [if_neg hlt, show (duration.toNat : Int) - 4294967296 = -duration.toNat by omega,
    Int.tdiv_neg, hzero]
  exact ⟨by omega, rfl⟩

theorem ProductFits.stepFits (h : ProductFits start finish duration)
    (hleft : elapsed.toNat < duration.toNat) : StepFits start finish elapsed duration ∧
    (rampValue start finish elapsed duration).toInt =
      lerp start.toNat finish.toNat elapsed.toNat duration.toNat := by
  have hstart := start.toNat_lt
  have hfinish := finish.toNat_lt
  have hfits : StepFits start finish elapsed duration ∧
      start.toNat + (((finish.toNat : Int) - start.toNat) *
        elapsed.toUInt32.toInt32.toInt).tdiv duration.toInt32.toInt =
      lerp start.toNat finish.toNat elapsed.toNat duration.toNat := by
    by_cases heq : start = finish
    · -- Nothing is to be changed, however long it takes.
      have hdivisor : duration.toInt32.toInt ≠ 0 := by
        have hlt := duration.toNat_lt
        rw [toInt_toInt32]
        split <;> omega
      rw [heq]
      unfold lerp
      rw [Int.sub_self, Int.zero_mul, Int.zero_mul, Int.zero_tdiv, Int.zero_tdiv]
      refine ⟨⟨?_, hdivisor, ?_, ?_⟩, rfl⟩
      all_goals
        rw [Int.sub_self, Int.zero_mul]
        try rw [Int.zero_tdiv]
        exact ⟨by omega, by omega⟩
    rcases h.step hleft heq with ⟨helapsed, hduration, hproduct⟩
    rcases tdiv_toInt32 hproduct (by omega) hduration with ⟨hdivisor, hquotient⟩
    have hbetween := @Lib.lerp_enclosed start.toNat finish.toNat elapsed.toNat duration.toNat
      (by omega) (by omega)
    have hsmall := Int.natAbs_tdiv_le_natAbs
      (((finish.toNat : Int) - start.toNat) * elapsed.toNat) duration.toNat
    unfold Enclosed lerp at hbetween
    refine ⟨⟨?_, hdivisor, ?_, ?_⟩, ?_⟩
    · rw [helapsed]
      exact ⟨by omega, by omega⟩
    · rw [helapsed, hquotient]
      exact ⟨by omega, by omega⟩
    · rw [helapsed, hquotient]
      exact ⟨by omega, by omega⟩
    · rw [helapsed, hquotient]
      rfl
  exact ⟨hfits.1, (toInt_rampValue hfits.1).trans hfits.2⟩

/-! ### A ramp -/

/-- The value of a ramp, which ends when its time is over. -/
def rampAt (start finish : UInt8) (elapsed : UInt64) (duration : UInt32) : UInt8 :=
  if duration.toUInt64 ≤ elapsed then finish
  else (rampValue start finish elapsed duration).toUInt32.toUInt8

/-- Every step of a ramp keeps to its bits, lies between the ends, moves toward the end, and is there
    exactly when the time is over. -/
structure RampRight (start finish : UInt8) (duration : UInt32) : Prop where
  fits : ∀ elapsed, elapsed < duration.toUInt64 → StepFits start finish elapsed duration
  between : ∀ elapsed,
    Enclosed start.toNat finish.toNat (rampAt start finish elapsed duration).toNat
  toward : ∀ elapsed later, elapsed ≤ later → Toward finish.toNat
    (rampAt start finish elapsed duration).toNat (rampAt start finish later duration).toNat
  arrives : ∀ elapsed, rampAt start finish elapsed duration = finish ↔
    start = finish ∨ duration.toUInt64 ≤ elapsed

theorem le_iff_toNat (duration : UInt32) (elapsed : UInt64) :
    duration.toUInt64 ≤ elapsed ↔ duration.toNat ≤ elapsed.toNat := by
  rw [UInt64.le_iff_toNat_le, UInt32.toNat_toUInt64]

theorem ProductFits.rampAt (h : ProductFits start finish duration)
    (hleft : elapsed.toNat < duration.toNat) :
    ((rampAt start finish elapsed duration).toNat : Int) =
      lerp start.toNat finish.toNat elapsed.toNat duration.toNat := by
  have hstart := start.toNat_lt
  have hfinish := finish.toNat_lt
  rcases h.stepFits hleft with ⟨_, hvalue⟩
  have hbetween := @Lib.lerp_enclosed start.toNat finish.toNat elapsed.toNat duration.toNat
    (by omega) (by omega)
  unfold Enclosed at hbetween
  unfold Node.rampAt
  rw [if_neg fun hover => by rw [le_iff_toNat] at hover; omega,
    toNat_level (by omega) (by omega), hvalue]

theorem rampAt_over (hover : duration.toUInt64 ≤ elapsed) :
    rampAt start finish elapsed duration = finish := if_pos hover

theorem ProductFits.right (h : ProductFits start finish duration) :
    RampRight start finish duration where
  fits := fun elapsed hleft => by
    rw [UInt64.lt_iff_toNat_lt, UInt32.toNat_toUInt64] at hleft
    exact (h.stepFits hleft).1
  between := fun elapsed => by
    by_cases hover : duration.toUInt64 ≤ elapsed
    · rw [rampAt_over hover]
      exact ⟨by omega, by omega⟩
    rw [le_iff_toNat] at hover
    rw [h.rampAt (by omega)]
    exact Lib.lerp_enclosed (by omega) (by omega)
  toward := fun elapsed later hle => by
    rw [UInt64.le_iff_toNat_le] at hle
    by_cases hover : duration.toUInt64 ≤ later
    · -- The later one is at the end.
      rw [rampAt_over hover]
      unfold Toward
      omega
    · rw [le_iff_toNat] at hover
      rw [h.rampAt (by omega), h.rampAt (by omega)]
      exact Lib.lerp_toward (by omega) (by omega) (by omega)
  arrives := fun elapsed => by
    by_cases hover : duration.toUInt64 ≤ elapsed
    · exact ⟨fun _ => .inr hover, fun _ => rampAt_over hover⟩
    have hleft := hover
    rw [le_iff_toNat] at hleft
    have hvalue : ((Node.rampAt start finish elapsed duration).toNat : Int) =
        lerp start.toNat finish.toNat elapsed.toNat duration.toNat := h.rampAt (by omega)
    by_cases heq : start = finish
    · refine ⟨fun _ => .inl heq, fun _ => UInt8.toNat_inj.1 (Int.ofNat.inj ?_)⟩
      have hlerp := @Lib.lerp_enclosed start.toNat finish.toNat elapsed.toNat duration.toNat
        (by omega) (by omega)
      unfold Enclosed at hlerp
      rw [heq] at hlerp hvalue ⊢
      show ((Node.rampAt finish finish elapsed duration).toNat : Int) = finish.toNat
      omega
    refine ⟨fun hend => absurd hend fun hend => ?_, fun h => absurd h ?_⟩
    · rw [hend] at hvalue
      have hnat : (start.toNat : Int) ≠ finish.toNat := fun hsame =>
        heq (UInt8.toNat_inj.1 (by omega))
      exact Lib.lerp_ne_finish (by omega) (by omega) hnat hvalue.symm
    · rintro (hsame | hlate)
      · exact heq hsame
      · exact hover hlate

/-- A ramp upwards is right if and only if its product fits: otherwise it has a step whose product
    does not, or, if the time is 2 ^ 31 or more, one that goes the other way. -/
theorem rampRight_iff (hup : start ≤ finish) :
    RampRight start finish duration ↔ ProductFits start finish duration := by
  refine ⟨fun h => ?_, ProductFits.right⟩
  have hfinish := finish.toNat_lt
  have hduration := duration.toNat_lt
  rw [UInt8.le_iff_toNat_le] at hup
  refine Nat.lt_of_not_le fun hlarge => ?_
  have hdifference : ((finish.toNat : Int) - start.toNat).natAbs = finish.toNat - start.toNat := by
    omega
  rw [hdifference] at hlarge
  have htick : ∀ n, n < 2147483648 → n < duration.toNat →
      StepFits start finish (UInt64.ofNat n) duration ∧
      (UInt64.ofNat n).toUInt32.toInt32.toInt = n := fun n hn hleft => by
    have hnat : (UInt64.ofNat n).toNat = n := UInt64.toNat_ofNat_of_lt' (by
      show n < 2 ^ 64
      omega)
    refine ⟨h.fits _ ?_, ?_⟩
    · rw [UInt64.lt_iff_toNat_lt, UInt32.toNat_toUInt64, hnat]
      exact hleft
    · rw [toInt_toInt32, UInt64.toNat_toUInt32, hnat, if_pos (by omega)]
      omega
  by_cases htwo : 2 ≤ finish.toNat - start.toNat
  · -- The product of the last step whose time is one of 32 bits.
    rcases htick (min (duration.toNat - 1) 2147483647) (by omega) (by
      by_cases hzero : duration.toNat = 0
      · rw [hzero] at hlarge
        omega
      · omega) with ⟨hfits, hcast⟩
    have hproduct := hfits.product.2
    rw [hcast] at hproduct
    by_cases hlong : duration.toNat - 1 ≤ 2147483647
    · rw [Nat.min_eq_left hlong] at hproduct
      have hcasts : (((finish.toNat - start.toNat) * (duration.toNat - 1) : Nat) : Int) ≤
          2147483647 := by
        rw [Int.natCast_mul, Int.ofNat_sub hup]
        exact hproduct
      omega
    · rw [Nat.min_eq_right (by omega)] at hproduct
      omega
  have hone : finish.toNat - start.toNat = 1 := by
    refine Nat.le_antisymm (by omega) (Nat.one_le_iff_ne_zero.2 fun hzero => ?_)
    rw [hzero] at hlarge
    omega
  rw [hone, Nat.one_mul] at hlarge
  -- The time is negative, and the step at which it is over is one below the start.
  rcases htick (4294967296 - duration.toNat) (by omega) (by omega) with ⟨hfits, hcast⟩
  have hbetween := h.between (UInt64.ofNat (4294967296 - duration.toNat))
  have hvalue := toInt_rampValue hfits
  have hsign : duration.toInt32.toInt = -((4294967296 - duration.toNat : Nat) : Int) := by
    rw [toInt_toInt32, if_neg (by omega)]
    omega
  have hunit : (finish.toNat : Int) - start.toNat = 1 := by omega
  rw [hcast, hsign, hunit, Int.one_mul, Int.tdiv_neg, Int.tdiv_self (by omega)] at hvalue
  have hwritten : (rampAt start finish (UInt64.ofNat (4294967296 - duration.toNat))
      duration).toNat = (start.toNat + 255) % 256 := by
    have hnat : (UInt64.ofNat (4294967296 - duration.toNat)).toNat =
        4294967296 - duration.toNat := UInt64.toNat_ofNat_of_lt' (by
      show 4294967296 - duration.toNat < 2 ^ 64
      omega)
    have hcond := toInt_toInt32 (rampValue start finish
      (UInt64.ofNat (4294967296 - duration.toNat)) duration).toUInt32
    rw [show (rampValue start finish (UInt64.ofNat (4294967296 - duration.toNat))
      duration).toUInt32.toInt32.toInt = (rampValue start finish
      (UInt64.ofNat (4294967296 - duration.toNat)) duration).toInt from rfl, hvalue] at hcond
    unfold rampAt
    rw [if_neg fun hover => by rw [le_iff_toNat, hnat] at hover; omega, UInt32.toNat_toUInt8]
    split at hcond <;> omega
  unfold Enclosed at hbetween
  omega

/-! ### Ticks -/

namespace HwMosfet

variable {m : HwMosfet}

/-- The next tick of a ramp comes some time behind its beginning, and another one behind that. -/
structure TicksRight (start finish : UInt8) (duration : UInt32) (value : UInt64 → UInt8)
    (next : UInt64 → UInt64 → UInt8) : Prop where
  fits : ∀ elapsed, elapsed < duration.toUInt64 → StepFits start finish elapsed duration
  between : ∀ elapsed, Enclosed start.toNat finish.toNat (value elapsed).toNat
  toward : ∀ elapsed later, elapsed ≤ later → elapsed < duration.toUInt64 →
    Toward finish.toNat (value elapsed).toNat (next elapsed later).toNat
  arrives : ∀ elapsed, value elapsed = finish ↔ start = finish ∨ duration.toUInt64 ≤ elapsed

theorem ticksRight_iff {start finish : UInt8} {duration : UInt32} {value : UInt64 → UInt8}
    {next : UInt64 → UInt64 → UInt8}
    (hvalue : ∀ elapsed, value elapsed = rampAt start finish elapsed duration)
    (hnext : ∀ elapsed later, elapsed < duration.toUInt64 →
      next elapsed later = rampAt start finish later duration) :
    TicksRight start finish duration value next ↔ RampRight start finish duration := by
  refine ⟨fun h => ⟨h.fits, fun elapsed => ?_, fun elapsed later hle => ?_, fun elapsed => ?_⟩,
    fun h => ⟨h.fits, fun elapsed => ?_, fun elapsed later hle hleft => ?_, fun elapsed => ?_⟩⟩
  · rw [← hvalue]
    exact h.between elapsed
  · by_cases hleft : elapsed < duration.toUInt64
    · rw [← hvalue, ← hnext elapsed later hleft]
      exact h.toward elapsed later hle hleft
    -- The ramp is over.
    rw [UInt64.not_lt] at hleft
    rw [rampAt_over hleft, rampAt_over (UInt64.le_trans hleft hle)]
    unfold Toward
    omega
  · rw [← hvalue]
    exact h.arrives elapsed
  · rw [hvalue]
    exact h.between elapsed
  · rw [hvalue, hnext elapsed later hleft]
    exact h.toward elapsed later hle
  · rw [hvalue]
    exact h.arrives elapsed

/-- The next two ticks of a breathing, as long as it is on its way. -/
def TickRight (m : HwMosfet) : Prop :=
  m.effect.active = true → m.effect.holdPhase = false →
    TicksRight m.breatheFrom m.breatheTo m.effect.fadeMs
      (fun elapsed => (m.effectCallback (m.effect.phaseStartedMs + elapsed)).value)
      fun elapsed later => ((m.effectCallback (m.effect.phaseStartedMs + elapsed)).effectCallback
        (m.effect.phaseStartedMs + later)).value

/-- The next two ticks of a fade. -/
def FadeRight (m : HwMosfet) : Prop :=
  TicksRight m.fadeFrom m.fadeTarget m.fadeDurationMs
    (fun elapsed => (m.fadeCallback (m.fadeStartedMs + elapsed)).value)
    fun elapsed later => ((m.fadeCallback (m.fadeStartedMs + elapsed)).fadeCallback
      (m.fadeStartedMs + later)).value

theorem add_sub_elapsed (started elapsed : UInt64) : started + elapsed - started = elapsed := by
  grind

theorem fadeValue_eq (m : HwMosfet) (elapsed : UInt64) : m.fadeValue (m.fadeStartedMs + elapsed) =
      rampAt m.fadeFrom m.fadeTarget elapsed m.fadeDurationMs := by
  unfold fadeValue faded rampAt
  rw [add_sub_elapsed]
  by_cases hover : m.fadeDurationMs.toUInt64 ≤ elapsed
  · rw [if_pos hover, decide_eq_true hover, Bool.true_or, if_pos rfl]
  have hne : m.fadeDurationMs ≠ 0 := fun hzero => by
    rw [hzero, le_iff_toNat] at hover
    exact hover (Nat.zero_le _)
  rw [if_neg hover, decide_eq_false hover, decide_eq_false hne, Bool.or_false,
    if_neg Bool.false_ne_true]

theorem value_fadeCallback (hconfigured : m.configured = true) (elapsed : UInt64) :
    (m.fadeCallback (m.fadeStartedMs + elapsed)).value =
      rampAt m.fadeFrom m.fadeTarget elapsed m.fadeDurationMs := by
  rw [fadeCallback_eq, write_configured hconfigured]
  exact fadeValue_eq m elapsed

theorem fadeRight_iff (hconfigured : m.configured = true) :
    m.FadeRight ↔ RampRight m.fadeFrom m.fadeTarget m.fadeDurationMs := by
  refine ticksRight_iff (fun elapsed => value_fadeCallback hconfigured elapsed)
    fun elapsed later _ => ?_
  rw [fadeCallback_eq m, write_configured hconfigured]
  exact value_fadeCallback (m := { m with
    duty := m.dutyOf (m.fadeValue (m.fadeStartedMs + elapsed))
    value := m.fadeValue (m.fadeStartedMs + elapsed)
    fadeTimer := if m.faded (m.fadeStartedMs + elapsed) then m.fadeTimer.stop else m.fadeTimer })
    hconfigured later

/-- A mosfet at which a breathing is on its way. -/
structure Breathing (m : HwMosfet) (minValue maxValue : UInt8) (fadeMs : UInt32) : Prop where
  configured : m.configured = true
  mode : m.effect.active = true → m.effect.mode = .breathe
  minValue : m.effect.minValue = minValue
  maxValue : m.effect.maxValue = maxValue
  fadeMs : m.effect.fadeMs = fadeMs

variable {minValue maxValue : UInt8} {fadeMs : UInt32}

theorem effectCallback_breathe (hactive : m.effect.active = true)
    (hmode : m.effect.mode = .breathe) (now : UInt64) :
    m.effectCallback now = m.breatheCallback now := by
  unfold effectCallback
  rw [hactive, hmode, Bool.not_true, if_neg Bool.false_ne_true]

theorem breatheCallback_ramping (hconfigured : m.configured = true)
    (hramping : m.ramping now = true) : m.breatheCallback now =
      { m with
        duty := m.dutyOf (rampValue m.breatheFrom m.breatheTo (now - m.effect.phaseStartedMs)
          m.effect.fadeMs).toUInt32.toUInt8
        value := (rampValue m.breatheFrom m.breatheTo (now - m.effect.phaseStartedMs)
          m.effect.fadeMs).toUInt32.toUInt8 } := by
  unfold breatheCallback
  rw [if_pos hramping, write_configured hconfigured]

theorem value_breatheCallback (hconfigured : m.configured = true)
    (hhold : m.effect.holdPhase = false) (elapsed : UInt64) :
    (m.breatheCallback (m.effect.phaseStartedMs + elapsed)).value =
      rampAt m.breatheFrom m.breatheTo elapsed m.effect.fadeMs := by
  unfold rampAt
  by_cases hover : m.effect.fadeMs.toUInt64 ≤ elapsed
  · have hramping : m.ramping (m.effect.phaseStartedMs + elapsed) = false := by
      unfold ramping
      rw [add_sub_elapsed, decide_eq_false (UInt64.not_lt.2 hover), Bool.and_false]
    unfold breatheCallback
    rw [hramping, if_neg Bool.false_ne_true, hhold, Bool.not_false, if_pos rfl, if_pos hover,
      write_configured hconfigured]
  · have hramping : m.ramping (m.effect.phaseStartedMs + elapsed) = true := by
      unfold ramping
      rw [add_sub_elapsed, hhold, decide_eq_true (UInt64.not_le.1 hover)]
      rfl
    rw [breatheCallback_ramping hconfigured hramping, if_neg hover, add_sub_elapsed]

theorem value_effectCallback (hconfigured : m.configured = true)
    (hactive : m.effect.active = true) (hmode : m.effect.mode = .breathe)
    (hhold : m.effect.holdPhase = false) (elapsed : UInt64) :
    (m.effectCallback (m.effect.phaseStartedMs + elapsed)).value =
      rampAt m.breatheFrom m.breatheTo elapsed m.effect.fadeMs := by
  rw [effectCallback_breathe hactive hmode]
  exact value_breatheCallback hconfigured hhold elapsed

theorem Breathing.tickRight_iff (h : m.Breathing minValue maxValue fadeMs)
    (hactive : m.effect.active = true) (hhold : m.effect.holdPhase = false) :
    m.TickRight ↔ RampRight m.breatheFrom m.breatheTo fadeMs := by
  have hticks := @ticksRight_iff m.breatheFrom m.breatheTo m.effect.fadeMs
    (fun elapsed => (m.effectCallback (m.effect.phaseStartedMs + elapsed)).value)
    (fun elapsed later => ((m.effectCallback (m.effect.phaseStartedMs + elapsed)).effectCallback
        (m.effect.phaseStartedMs + later)).value)
    (value_effectCallback h.configured hactive (h.mode hactive) hhold)
    fun elapsed later hleft => by
      have hramping : m.ramping (m.effect.phaseStartedMs + elapsed) = true := by
        unfold ramping
        rw [add_sub_elapsed, hhold, decide_eq_true hleft]
        rfl
      have hnext : ∀ duty value : UInt8, (({ m with duty, value } : HwMosfet).effectCallback
          (m.effect.phaseStartedMs + later)).value =
          rampAt m.breatheFrom m.breatheTo later m.effect.fadeMs := fun duty value =>
        value_effectCallback (m := { m with duty, value }) h.configured hactive (h.mode hactive)
          hhold later
      rw [effectCallback_breathe hactive (h.mode hactive),
        breatheCallback_ramping h.configured hramping]
      exact hnext _ _
  rw [h.fadeMs] at hticks
  refine Iff.trans ⟨fun hright => ?_, fun hright _ _ => ?_⟩ hticks
  · have := hright hactive hhold
    rwa [h.fadeMs] at this
  · rwa [h.fadeMs]

/-- A ramp that goes the other way has the same product. -/
theorem productFits_comm {start finish : UInt8} {duration : UInt32} :
    ProductFits start finish duration ↔ ProductFits finish start duration := by
  unfold ProductFits
  rw [← Int.natAbs_neg, Int.neg_sub]

section

variable (h : m.Breathing minValue maxValue fadeMs)
include h

theorem Breathing.productFits_iff :
    ProductFits m.breatheFrom m.breatheTo fadeMs ↔ ProductFits minValue maxValue fadeMs := by
  unfold breatheFrom breatheTo
  rw [h.minValue, h.maxValue]
  by_cases hphase : m.effect.onPhase = true
  · rw [if_pos hphase, if_pos hphase]
  · rw [if_neg hphase, if_neg hphase]
    exact productFits_comm

theorem Breathing.tick (now : UInt64) :
    (m.effectCallback now).Breathing minValue maxValue fadeMs := by
  by_cases hactive : m.effect.active = true
  · rw [effectCallback_breathe hactive (h.mode hactive)]
    by_cases hramping : m.ramping now = true
    · rw [breatheCallback_ramping h.configured hramping]
      exact ⟨h.configured, h.mode, h.minValue, h.maxValue, h.fadeMs⟩
    unfold breatheCallback
    dsimp only
    rw [if_neg hramping]
    split
    · rw [write_configured h.configured]
      exact ⟨h.configured, h.mode, h.minValue, h.maxValue, h.fadeMs⟩
    split
    · exact h
    generalize (if m.effect.onPhase = true then m.effect.remaining
      else m.effect.cycled) = remaining
    split
    · -- The last cycle is over.
      rw [write_configured (m := { m with effect := { m.effect with
        remaining, active := false, mode := .none } }) h.configured]
      exact ⟨h.configured, fun hlast => (by cases hlast), h.minValue, h.maxValue, h.fadeMs⟩
    · exact ⟨h.configured, h.mode, h.minValue, h.maxValue, h.fadeMs⟩
  · rw [effectCallback_idle (Bool.eq_false_iff.2 hactive)]
    exact h

theorem Breathing.ticks (ticks : List UInt64) :
    (ticks.foldl effectCallback m).Breathing minValue maxValue fadeMs := by
  induction ticks generalizing m with
  | nil => exact h
  | cons now ticks ih => exact ih (h.tick now)

/-- Every tick of a breathing is right if and only if the product of its ramps fits. -/
theorem Breathing.ticks_right_iff
    (hactive : m.effect.active = true) (hphase : m.effect.onPhase = true)
    (hhold : m.effect.holdPhase = false) (hup : minValue ≤ maxValue) :
    (∀ ticks : List UInt64, (ticks.foldl effectCallback m).TickRight) ↔
      ProductFits minValue maxValue fadeMs := by
  refine ⟨fun hright => ?_, fun hproduct ticks hactive' hhold' => ?_⟩
  · -- The first ramp goes up.
    have hfirst := (h.tickRight_iff hactive hhold).1 (hright [])
    unfold breatheFrom breatheTo at hfirst
    rw [if_pos hphase, if_pos hphase, h.minValue, h.maxValue] at hfirst
    exact (rampRight_iff hup).1 hfirst
  · have hticks := h.ticks ticks
    have hramp := (hticks.productFits_iff.2 hproduct).right
    exact (hticks.tickRight_iff hactive' hhold').2 hramp hactive' hhold'

end

theorem breathing_breathe {holdMs count : UInt32} {finalValue : UInt8}
    (hok : (m.breathe minValue maxValue fadeMs holdMs count finalValue now).2 = .ok) :
    (m.breathe minValue maxValue fadeMs holdMs count finalValue now).1.Breathing minValue maxValue
      fadeMs ∧
    (m.breathe minValue maxValue fadeMs holdMs count finalValue now).1.effect.active = true ∧
    (m.breathe minValue maxValue fadeMs holdMs count finalValue now).1.effect.onPhase = true ∧
    (m.breathe minValue maxValue fadeMs holdMs count finalValue now).1.effect.holdPhase = false ∧
    minValue ≤ maxValue := by
  unfold breathe at hok ⊢
  by_cases hbad : fadeMs = 0 ∨ maxValue < minValue
  · rw [if_pos hbad] at hok
    cases hok
  rw [if_neg hbad] at hok ⊢
  by_cases hconfigured : m.configured = true
  · have hnot : ¬(!m.configured) = true := by simp [hconfigured]
    rw [if_neg hnot, begin_configured (m := m.stopAll) hconfigured rfl]
    have hle : minValue ≤ maxValue := UInt8.not_lt.1 fun hlt => hbad (.inr hlt)
    exact ⟨⟨hconfigured, fun _ => rfl, rfl, rfl, rfl⟩, rfl, rfl, rfl, hle⟩
  · have hnot : (!m.configured) = true := by simpa using hconfigured
    rw [if_pos hnot] at hok
    cases hok

theorem fade_ticks (ticks : List UInt64) (hconfigured : m.configured = true) :
    (ticks.foldl fadeCallback m).configured = true ∧
    (ticks.foldl fadeCallback m).fadeDurationMs = m.fadeDurationMs := by
  induction ticks generalizing m with
  | nil => exact ⟨hconfigured, rfl⟩
  | cons now ticks ih =>
    have hstep : (m.fadeCallback now).configured = true ∧
        (m.fadeCallback now).fadeDurationMs = m.fadeDurationMs := by
      rw [fadeCallback_eq, write_configured hconfigured]
      exact ⟨hconfigured, rfl⟩
    rcases ih hstep.1 with ⟨hafter, hduration⟩
    exact ⟨hafter, hduration.trans hstep.2⟩

theorem fade_ticks_right (hconfigured : m.configured = true)
    (hduration : m.fadeDurationMs ≤ maxMosfetFadeMs) (ticks : List UInt64) :
    (ticks.foldl fadeCallback m).FadeRight := by
  rcases fade_ticks ticks hconfigured with ⟨hafter, hsame⟩
  refine (fadeRight_iff hafter).2 (ProductFits.right ?_)
  have hfrom := (ticks.foldl fadeCallback m).fadeFrom.toNat_lt
  have htarget := (ticks.foldl fadeCallback m).fadeTarget.toNat_lt
  rw [UInt32.le_iff_toNat_le, show maxMosfetFadeMs.toNat = 60000 from rfl] at hduration
  unfold ProductFits
  rw [hsame]
  have hdifference : (((ticks.foldl fadeCallback m).fadeTarget.toNat : Int) -
      (ticks.foldl fadeCallback m).fadeFrom.toNat).natAbs ≤ 255 := by omega
  have hproduct := Nat.mul_le_mul hdifference
    (show m.fadeDurationMs.toNat - 1 ≤ 59999 by omega)
  omega

/-! ### Accepted commands -/

/-- A command that one of the handlers of fades and breathings hands to the mosfets. -/
def Accepted (mosfets : Fin channelMax → OutputPinConfig) (command : HwMosfetCommand) : Prop :=
  ∃ json now channel, executeMosfetFade mosfets json now = .ok (channel, command) ∨
    executeMosfetBreathe mosfets json now = .ok (channel, command) ∨
    executeMosfetEffectAlias mosfets json now = .ok (channel, command)

theorem Accepted.fade {mosfets : Fin channelMax → OutputPinConfig} {target : UInt8}
    {durationMs : UInt32} (h : Accepted mosfets (.fade target durationMs now)) :
    durationMs ≤ maxMosfetFadeMs := by
  rcases h with ⟨json, now', channel, hfade | hbreathe | halias⟩
  · rcases Lib.bind_eq_ok_iff.1 hfade with ⟨⟨channel', cfg⟩, _, hfade⟩
    rcases Lib.bind_eq_ok_iff.1 hfade with ⟨target', _, hfade⟩
    dsimp only at hfade
    split at hfade
    · cases hfade
    · next hlimit =>
        cases hfade
        exact UInt32.not_lt.1 hlimit
  · rcases Lib.bind_eq_ok_iff.1 hbreathe with ⟨⟨channel', cfg⟩, _, hbreathe⟩
    rcases Lib.bind_eq_ok_iff.1 hbreathe with ⟨minValue, _, hbreathe⟩
    rcases Lib.bind_eq_ok_iff.1 hbreathe with ⟨maxValue, _, hbreathe⟩
    rcases Lib.bind_eq_ok_iff.1 hbreathe with ⟨finalValue, _, hbreathe⟩
    dsimp only at hbreathe
    split at hbreathe <;> cases hbreathe
  rcases Lib.bind_eq_ok_iff.1 halias with ⟨⟨channel', cfg⟩, _, halias⟩
  rcases Lib.bind_eq_ok_iff.1 halias with ⟨effect, _, halias⟩
  dsimp only at halias
  split at halias
  · split at halias <;> cases halias
  split at halias
  · split at halias <;> cases halias
  split at halias
  · split at halias
    · cases halias
    · next hlimit =>
        cases halias
        exact UInt32.not_lt.1 hlimit
  split at halias
  · split at halias <;> cases halias
  split at halias
  · split at halias <;> cases halias
  · split at halias <;> cases halias

/-- Every tick behind a fade or a breathing is right. -/
def RampsRight (m : HwMosfet) : HwMosfetCommand → Prop
  | .fade _ durationMs _ => durationMs ≠ 0 →
    ∀ ticks : List UInt64, (ticks.foldl fadeCallback m).FadeRight
  | .breathe _ _ _ _ _ _ _ => ∀ ticks : List UInt64, (ticks.foldl effectCallback m).TickRight
  | _ => True

def RampFits : HwMosfetCommand → Prop
  | .breathe minValue maxValue fadeMs _ _ _ _ => ProductFits minValue maxValue fadeMs
  | _ => True

theorem rampsRight_fade {target : UInt8} {durationMs : UInt32}
    (hlimit : durationMs ≤ maxMosfetFadeMs) (hok : (m.fade target durationMs now).2 = .ok) :
    (m.fade target durationMs now).1.RampsRight (.fade target durationMs now) := by
  intro hduration ticks
  unfold fade at hok ⊢
  rw [if_neg hduration] at hok ⊢
  by_cases hconfigured : m.configured = true
  · have hnot : ¬(!m.configured) = true := by simp [hconfigured]
    rw [if_neg hnot]
    refine fade_ticks_right ?_ ?_ ticks
    · exact hconfigured
    · exact hlimit
  · have hnot : (!m.configured) = true := by simpa using hconfigured
    rw [if_pos hnot] at hok
    cases hok

theorem rampsRight_breathe_iff {holdMs count : UInt32} {finalValue : UInt8}
    (hok : (m.breathe minValue maxValue fadeMs holdMs count finalValue now).2 = .ok) :
    (m.breathe minValue maxValue fadeMs holdMs count finalValue now).1.RampsRight
      (.breathe minValue maxValue fadeMs holdMs count finalValue now) ↔
    ProductFits minValue maxValue fadeMs := by
  rcases breathing_breathe hok with ⟨hbreathing, hactive, hphase, hhold, hup⟩
  exact hbreathing.ticks_right_iff hactive hphase hhold hup

/-- **Of every fade and breathing that is accepted and that the mosfet begins: in every state that
    ticks lead to, the next ticks of a ramp compute their step in 32 bits, write a value between
    the ends, move toward the end, and are there exactly when the time is over, if and only if the
    difference of the levels times the last time of the ramp is a number of 32 bits; for a fade it
    always is.** -/
theorem ramps_right_iff (mosfets : Fin channelMax → OutputPinConfig) (command : HwMosfetCommand)
    (haccepted : Accepted mosfets command) (m : HwMosfet) (hok : (m.command command).2 = .ok) :
    (m.command command).1.RampsRight command ↔ RampFits command := by
  cases command with
  | fade target durationMs now =>
    exact ⟨fun _ => trivial, fun _ => rampsRight_fade haccepted.fade hok⟩
  | breathe minValue maxValue fadeMs holdMs count finalValue now =>
    exact rampsRight_breathe_iff hok
  | set value => exact Iff.rfl
  | pulse value durationMs => exact Iff.rfl
  | blink value onMs offMs count finalValue => exact Iff.rfl
  | brokenFluorescent value => exact Iff.rfl

def newMosfets : Fin channelMax → OutputPinConfig := Config.outputDefaults "mosfet"

def newMosfet : HwMosfet := { configured := true, activeLow := false, duty := 0 }

theorem ramps_right_iff_one :
    (newMosfet.command (.breathe 0 255 1000 0 1 0 5)).1.RampsRight (.breathe 0 255 1000 0 1 0 5) :=
  (ramps_right_iff newMosfets (.breathe 0 255 1000 0 1 0 5)
    ⟨"\x7b\"channel\":1\x7d".toList, 5, 1, .inr (.inl rfl)⟩ newMosfet rfl).2
    (by unfold RampFits ProductFits; decide)

/-- A breathing without end that takes three hours for a ramp is accepted, and computes its steps
    beyond 32 bits. -/
theorem not_everyRampRight : ¬(∀ mosfets command, Accepted mosfets command → ∀ m : HwMosfet,
      (m.command command).2 = .ok → (m.command command).1.RampsRight command) := by
  intro hall
  have haccepted : Accepted newMosfets (.breathe 0 255 10000000 0 0 0 5) :=
    ⟨"\x7b\"channel\":1,\"fade_ms\":10000000,\"count\":0\x7d".toList, 5, 1, .inr (.inl rfl)⟩
  have hfits := (rampsRight_breathe_iff rfl).1 (hall _ _ haccepted newMosfet rfl)
  unfold ProductFits at hfits
  revert hfits
  decide

end HwMosfet

end SceneHub.Node
