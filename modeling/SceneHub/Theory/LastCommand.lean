import SceneHub.Hub.HardwareIo

/-!
# The Last Command

After a set an output has the value that was set until the next command, a pulse that was
superseded ends nothing, and behind pulses that overlap an output has the value from before the
first one. It holds as long as no callback that comes too late finds an output it would change,
and no pulse begins while another one has moved the output away from where it would return to.

A callback of an effect looks whether its effect is active, and writes nothing if it is not. The
callbacks of pulses and fades look at nothing. For each kind of output there is an invariant: it
fits what was asked of it, and as long as something may still write to it, nothing is settled.

## Main definitions

* `InTime`: A callback that is late changes nothing that is settled, and pulses do not overlap
  away from their start.
* `HardwareIo.Inv`: Every output fits what was asked of it.
* `HardwareIo.Obeyed`: Every output is as it was asked.

## Theorems

* `Relay.Inv.command`, `Mosfet.Inv.command`, `IoLine.Inv.command`: What a command does.
* `Relay.Inv.callback`, `Mosfet.Inv.callback`, `IoLine.Inv.callback`: What a callback does.
* `HardwareIo.Inv.step`: The invariant is kept.
* `HardwareIo.last_command_wins`: Outputs are as they were asked in every run in time.
-/

namespace SceneHub.Hub

open Lib (Callback Track)

variable {durationMs onMs offMs count : UInt32} {timer : HwTimer} {err : EspErr} {value : UInt8}

variable {V : Type} {t : Track V}

theorem asked_invalidArg (t : Track V) (commanded : Option V) :
    asked t .invalidArg commanded = t := rfl

theorem asked_ok (t : Track V) (commanded : Option V) :
    asked t .ok commanded = t.command commanded := rfl

theorem asked_of_ne (hne : err ≠ .invalidArg) (t : Track V) (commanded : Option V) :
    asked t err commanded = t.command (if err = .ok then commanded else none) := by
  unfold asked
  rw [if_neg hne]

/-- A command that was refused leaves everything as it was, and one that sets the output does so
    and leaves nothing that would write to it. -/
theorem fits_asked {value value' restore restore' : V} {live live' : Prop}
    (h : t.Fits value restore live) {commanded : Option V}
    (hrefused : err = .invalidArg → value' = value ∧ restore' = restore ∧ (live' → live))
    (hset : ∀ v, err = .ok → commanded = some v → value' = v ∧ ¬live') :
    (asked t err commanded).Fits value' restore' live' := by
  by_cases herr : err = .invalidArg
  · rcases hrefused herr with ⟨hvalue, hrestore, hlive⟩
    rw [herr, asked_invalidArg, hvalue, hrestore]
    exact h.weaken hlive
  rw [asked_of_ne herr]
  refine h.command fun v hv => ?_
  by_cases hok : err = .ok
  · rw [if_pos hok] at hv
    exact hset v hok hv
  · rw [if_neg hok] at hv
    cases hv

/-! ### Relays -/

namespace Relay

variable {r r' : Relay} {t t' : Track Bool}

/-- Something may still write to the relay. -/
def Live (r : Relay) : Prop := r.pulseTimer.live = true ∨ r.effectActive = true

/-- A late callback finds the relay switched off already. -/
def InTime (r : Relay) : HwTimer → Prop
  | .pulse => r.pulseTimer.late = true → r.on = false
  | .fade | .effect => True

instance (r : Relay) : (timer : HwTimer) → Decidable (r.InTime timer)
  | .pulse => inferInstanceAs (Decidable (_ → _))
  | .fade | .effect => inferInstanceAs (Decidable True)

/-- A relay has no row of pulses: each of them ends with the relay switched off. -/
structure Inv (r : Relay) (t : Track Bool) : Prop where
  fits : t.Fits r.on false r.Live
  single : t.pulses = .none

theorem write_enabled (henabled : r.enabled = true) (on : Bool) :
    r.write on = ({ r with on }, .ok) := by
  unfold write
  rw [if_pos henabled]

theorem on_write {on : Bool} (hok : (r.write on).2 = .ok) : (r.write on).1.on = on := by
  unfold write at hok ⊢
  split
  · rfl
  · next henabled =>
      rw [if_neg henabled] at hok
      cases hok

theorem write_ne (r : Relay) (on : Bool) : (r.write on).2 ≠ .invalidArg := by
  unfold write
  split <;> exact nofun

@[simp] theorem pulseTimer_write (r : Relay) (on : Bool) :
    (r.write on).1.pulseTimer = r.pulseTimer := by
  unfold write
  split <;> rfl

@[simp] theorem effectActive_write (r : Relay) (on : Bool) :
    (r.write on).1.effectActive = r.effectActive := by
  unfold write
  split <;> rfl

theorem on_write_self {on : Bool} (hsame : r.on = on) : (r.write on).1.on = r.on := by
  unfold write
  split
  · exact hsame.symm
  · rfl

theorem not_live_set (r : Relay) (on : Bool) : ¬(r.set on).1.Live := by
  unfold Live set
  rw [pulseTimer_write, effectActive_write]
  rintro (hpulse | heffect)
  · rw [show r.stopPulse.stopEffect.pulseTimer = r.pulseTimer.stop from rfl,
      Callback.live_stop] at hpulse
    cases hpulse
  · cases heffect

theorem pulse_refused (h : (r.pulse durationMs).2 = .invalidArg) : (r.pulse durationMs).1 = r := by
  unfold pulse at h ⊢
  split
  · rfl
  · next hduration =>
      rw [if_neg hduration] at h
      split at h
      · cases h
      · dsimp only at h
        split at h <;> cases h

theorem blink_refused {finalOn : Bool} (h : (r.blink onMs offMs count finalOn).2 = .invalidArg) :
    (r.blink onMs offMs count finalOn).1 = r := by
  unfold blink at h ⊢
  split
  · rfl
  · next hduration =>
      rw [if_neg hduration] at h
      split at h
      · cases h
      · dsimp only at h
        split at h <;> cases h

theorem Inv.asked (h : r.Inv t) {commanded : Option Bool} (hrefused : err = .invalidArg → r' = r)
    (hset : ∀ on, err = .ok → commanded = some on → r'.on = on ∧ ¬r'.Live) :
    r'.Inv (asked t err commanded) where
  fits := by
    refine fits_asked h.fits (fun herr => ?_) hset
    rw [hrefused herr]
    exact ⟨rfl, rfl, id⟩
  single := by
    unfold Hub.asked
    split
    · exact h.single
    · rfl

theorem Inv.command (h : r.Inv t) (command : RelayCommand) :
    (r.command t command).1.Inv (r.command t command).2 := by
  cases command with
  | set on =>
    refine h.asked (fun herr => absurd herr (write_ne _ _)) fun v hok hv => ?_
    cases hv
    exact ⟨on_write hok, not_live_set r on⟩
  | toggle => exact h.asked (fun herr => absurd herr (write_ne _ _)) nofun
  | pulse durationMs => exact h.asked pulse_refused nofun
  | blink onMs offMs count finalOn => exact h.asked blink_refused nofun

theorem Inv.off (h : r.Inv t) : (r.off t).1.Inv (r.off t).2 := by
  unfold Relay.off safeOff
  by_cases henabled : r.enabled = true
  · -- An enabled relay takes every value.
    have hok : (r.set false).2 = .ok :=
      congrArg Prod.snd (write_enabled (r := r.stopPulse.stopEffect) henabled false)
    have hset := h.command (.set false)
    rw [show (r.command t (.set false)).2 = Hub.asked t (r.set false).2 (some false) from rfl,
      hok, asked_ok] at hset
    rw [if_pos henabled, if_pos henabled]
    exact hset
  · rw [if_neg henabled, if_neg henabled]
    exact h

theorem Inv.dispatch (h : r.Inv t) (hnext : r.dispatch timer = some r') : r'.Inv t := by
  cases timer with
  | pulse =>
    rcases Option.map_eq_some_iff.1 hnext with ⟨c, hdispatch, hr⟩
    cases hr
    exact ⟨h.fits.weaken fun _ => .inl (Callback.live_dispatch hdispatch).2, h.single⟩
  | effect =>
    rcases Option.map_eq_some_iff.1 hnext with ⟨c, hdispatch, hr⟩
    cases hr
    exact ⟨h.fits, h.single⟩
  | fade => cases hnext

theorem effectCallback_idle (hidle : r.effectActive = false) : r.effectCallback = r := by
  unfold effectCallback
  rw [hidle]
  rfl

theorem Inv.callback (h : r.Inv t) (hin : r.InTime timer)
    (hnext : r.callback t timer = some (r', t')) : r'.Inv t' := by
  cases timer with
  | pulse =>
    dsimp only [Relay.callback] at hnext
    split at hnext
    · next hwaiting =>
        cases hnext
        by_cases hlate : r.pulseTimer.late = true
        · -- The relay is off, and is switched off once more.
          rw [if_pos hlate]
          have hsame : ({ r with pulseTimer := r.pulseTimer.take } : Relay).pulseCallback.on =
              r.on := on_write_self (hin hlate)
          refine ⟨?_, h.single⟩
          rw [hsame]
          refine (h.fits.late (by simp)).weaken fun hlive => ?_
          unfold Live pulseCallback at hlive
          rw [pulseTimer_write, effectActive_write] at hlive
          exact hlive.imp_left Callback.live_of_take
        · rw [if_neg hlate]
          have hlive : r.Live :=
            .inl (Callback.live_of_waiting hwaiting (Bool.eq_false_iff.2 hlate))
          exact ⟨h.fits.write (h.fits.unsettled hlive) _, h.single⟩
    · cases hnext
  | effect =>
    dsimp only [Relay.callback] at hnext
    split at hnext
    · cases hnext
      by_cases hactive : r.effectActive = true
      · exact ⟨h.fits.write (h.fits.unsettled (.inr hactive)) _, h.single⟩
      rw [effectCallback_idle (r := { r with effectTimer := r.effectTimer.take })
        (Bool.eq_false_iff.2 hactive)]
      exact ⟨h.fits, h.single⟩
    · cases hnext
  | fade => cases hnext

end Relay

/-! ### Mosfets -/

namespace Mosfet

variable {m m' : Mosfet} {t t' : Track UInt8} {now : UInt64}

/-- Something may still write to the mosfet. -/
def Live (m : Mosfet) : Prop :=
  m.pulseTimer.live = true ∨ m.fadeTimer.live = true ∨ m.effect.active = true

/-- What a late callback writes, the mosfet has already. A fade may write something else as long as
    nothing is settled. -/
def InTime (m : Mosfet) (t : Track UInt8) (now : UInt64) : HwTimer → Prop
  | .pulse => m.pulseTimer.late = true → m.value = m.pulseRestoreValue
  | .fade => m.fadeTimer.late = true → t.settled = true → m.value = m.fadeValue now
  | .effect => True

instance (m : Mosfet) (t : Track UInt8) (now : UInt64) :
    (timer : HwTimer) → Decidable (m.InTime t now timer)
  | .pulse | .fade => inferInstanceAs (Decidable (_ → _))
  | .effect => inferInstanceAs (Decidable True)

/-- A pulse that begins while another one goes on finds the mosfet where that one returns to. -/
def Returns (m : Mosfet) : MosfetCommand → Prop
  | .pulse _ durationMs =>
    durationMs ≠ 0 → m.pulseTimer.live = true → m.value = m.pulseRestoreValue
  | _ => True

instance (m : Mosfet) : (command : MosfetCommand) → Decidable (m.Returns command)
  | .pulse _ _ => inferInstanceAs (Decidable (_ → _))
  | .set _ | .fade _ _ | .blink _ _ _ _ _ | .breathe _ _ _ _ _ _ =>
    inferInstanceAs (Decidable True)

/-- A pulse goes on alone, and its callback comes once. -/
structure Timers (m : Mosfet) : Prop where
  alone : m.pulseTimer.live = true → m.fadeTimer.live = false ∧ m.effect.active = false
  once : m.pulseTimer.Once
  enabled : m.pulseTimer.live = true → m.enabled = true

structure Inv (m : Mosfet) (t : Track UInt8) : Prop where
  fits : t.Fits m.value m.pulseRestoreValue m.Live
  ending : ∀ home, t.pulses = .going home → m.pulseTimer.live = true
  timers : m.Timers

theorem Timers.of_stop {c : Callback} (hstop : m.pulseTimer = c.stop) : m.Timers := by
  have hdead : m.pulseTimer.live ≠ true := by
    rw [hstop, Callback.live_stop]
    exact Bool.false_ne_true
  refine ⟨fun hlive => absurd hlive hdead, ?_, fun hlive => absurd hlive hdead⟩
  rw [hstop]
  exact Callback.once_stop c

theorem write_enabled (henabled : m.enabled = true) (value : UInt8) :
    m.write value = ({ m with value }, .ok) := by
  unfold write
  rw [if_pos henabled]

theorem value_write (hok : (m.write value).2 = .ok) : (m.write value).1.value = value := by
  unfold write at hok ⊢
  split
  · rfl
  · next henabled =>
      rw [if_neg henabled] at hok
      cases hok

theorem write_ne (m : Mosfet) (value : UInt8) : (m.write value).2 ≠ .invalidArg := by
  unfold write
  split <;> exact nofun

theorem write_eq (m : Mosfet) (value : UInt8) :
    (m.write value).1 = { m with value := (m.write value).1.value } := by
  unfold write
  split <;> rfl

theorem value_write_self (hsame : m.value = value) : (m.write value).1.value = m.value := by
  unfold write
  split
  · exact hsame.symm
  · rfl

section

variable (m : Mosfet)

theorem set_pulseTimer (value : UInt8) : (m.set value).1.pulseTimer = m.pulseTimer.stop := by
  unfold set
  rw [write_eq]
  rfl

theorem not_live_set (value : UInt8) : ¬(m.set value).1.Live := by
  unfold Live set
  rw [write_eq]
  rintro (hpulse | hfade | heffect)
  · exact Bool.false_ne_true ((Callback.live_stop m.pulseTimer).symm.trans hpulse)
  · exact Bool.false_ne_true ((Callback.live_stop m.fadeTimer).symm.trans hfade)
  · cases heffect

theorem begin_ne (effect : MosfetEffect) (value finalValue : UInt8) :
    (m.begin effect value finalValue).2 ≠ .invalidArg := by
  unfold begin
  dsimp only
  split <;> exact nofun

theorem begin_pulseTimer (effect : MosfetEffect) (value finalValue : UInt8) :
    (m.begin effect value finalValue).1.pulseTimer = m.pulseTimer := by
  unfold begin
  dsimp only
  rw [write_eq]
  split
  · rfl
  · rw [write_eq]

theorem fade_pulseTimer (target : UInt8) (durationMs : UInt32) (now : UInt64) :
    (m.fade target durationMs now).1 = m ∨
    (m.fade target durationMs now).1.pulseTimer = m.pulseTimer.stop := by
  unfold fade
  split
  · exact .inr (set_pulseTimer m target)
  split
  · exact .inl rfl
  · dsimp only
    split <;> exact .inr rfl

theorem fade_ne (target : UInt8) (durationMs : UInt32) (now : UInt64) :
    (m.fade target durationMs now).2 ≠ .invalidArg := by
  unfold fade
  split
  · exact write_ne _ _
  split
  · exact nofun
  · dsimp only
    split <;> exact nofun

theorem blink_pulseTimer (value : UInt8) (onMs offMs count : UInt32)
    (finalValue : UInt8) : (m.blink value onMs offMs count finalValue).1 = m ∨
    (m.blink value onMs offMs count finalValue).1.pulseTimer = m.pulseTimer.stop := by
  unfold blink
  split
  · exact .inl rfl
  split
  · exact .inl rfl
  · exact .inr (begin_pulseTimer _ _ _ _)

end

theorem blink_refused {finalValue : UInt8}
    (h : (m.blink value onMs offMs count finalValue).2 = .invalidArg) :
    (m.blink value onMs offMs count finalValue).1 = m := by
  unfold blink at h ⊢
  split
  · rfl
  · next hduration =>
      rw [if_neg hduration] at h
      split
      · rfl
      · next henabled =>
          rw [if_neg henabled] at h
          exact absurd h (begin_ne _ _ _ _)

theorem breathe_pulseTimer (m : Mosfet) (minValue maxValue : UInt8) (fadeMs holdMs count : UInt32)
    (finalValue : UInt8) (now : UInt64) :
    (m.breathe minValue maxValue fadeMs holdMs count finalValue now).1 = m ∨
    (m.breathe minValue maxValue fadeMs holdMs count finalValue now).1.pulseTimer =
      m.pulseTimer.stop := by
  unfold breathe
  split
  · exact .inl rfl
  split
  · exact .inl rfl
  · exact .inr (begin_pulseTimer _ _ _ _)

theorem breathe_refused {minValue maxValue : UInt8} {fadeMs holdMs count : UInt32}
    {finalValue : UInt8}
    (h : (m.breathe minValue maxValue fadeMs holdMs count finalValue now).2 = .invalidArg) :
    (m.breathe minValue maxValue fadeMs holdMs count finalValue now).1 = m := by
  unfold breathe at h ⊢
  split
  · rfl
  · next hduration =>
      rw [if_neg hduration] at h
      split
      · rfl
      · next henabled =>
          rw [if_neg henabled] at h
          exact absurd h (begin_ne _ _ _ _)

theorem pulse_eq (hduration : durationMs ≠ 0) (henabled : m.enabled = true) (value : UInt8) :
    m.pulse value durationMs =
      ({ m.stopAll with
          pulseRestoreValue := m.value
          value
          pulseTimer := { m.pulseTimer.stop with running := true } }, .ok) := by
  unfold pulse
  rw [if_neg hduration, henabled, if_neg (by simp)]
  rw [write_enabled (m := { m.stopAll with pulseRestoreValue := m.value }) henabled]
  rfl

theorem Inv.asked (h : m.Inv t) {commanded : Option UInt8}
    (hmoves : m' = m ∨ m'.pulseTimer = m.pulseTimer.stop) (hrefused : err = .invalidArg → m' = m)
    (hset : ∀ value, err = .ok → commanded = some value → m'.value = value ∧ ¬m'.Live) :
    m'.Inv (asked t err commanded) where
  fits := by
    refine fits_asked h.fits (fun herr => ?_) hset
    rw [hrefused herr]
    exact ⟨rfl, rfl, id⟩
  ending := fun home hgoing => by
    by_cases herr : err = .invalidArg
    · rw [herr, asked_invalidArg] at hgoing
      rw [hrefused herr]
      exact h.ending home hgoing
    · rw [asked_of_ne herr] at hgoing
      cases hgoing
  timers := by
    rcases hmoves with heq | hstop
    · rw [heq]
      exact h.timers
    · exact .of_stop hstop

/-- A pulse: it is refused, or begins where the last one would return to. -/
theorem Inv.pulse (h : m.Inv t) (hreturns : m.Returns (.pulse value durationMs)) :
    (m.pulse value durationMs).1.Inv (pulsed t (m.pulse value durationMs).2 m.value) := by
  by_cases hduration : durationMs = 0
  · have hrefuse : m.pulse value durationMs = (m, .invalidArg) := by
      unfold Mosfet.pulse
      rw [if_pos hduration]
    rw [hrefuse]
    exact h
  by_cases henabled : m.enabled = true
  · rw [pulse_eq hduration henabled]
    refine ⟨h.fits.pulse fun home hgoing => hreturns hduration (h.ending home hgoing),
      fun _ _ => rfl, ?_, Callback.once_restart _, fun _ => henabled⟩
    exact fun _ => ⟨Callback.live_stop _, rfl⟩
  -- A mosfet that is not there refuses, and has no pulses.
  have hrefuse : m.pulse value durationMs = (m, .invalidState) := by
    unfold Mosfet.pulse
    rw [if_neg hduration, Bool.eq_false_iff.2 henabled]
    rfl
  rw [hrefuse]
  show m.Inv (Hub.asked t .invalidState none)
  exact h.asked (.inl rfl) (fun _ => rfl) nofun

theorem Inv.command (h : m.Inv t) (now : UInt64) (command : MosfetCommand)
    (hreturns : m.Returns command) :
    (m.command t now command).1.Inv (m.command t now command).2 := by
  cases command with
  | set value =>
    refine h.asked (.inr (set_pulseTimer m value)) (fun herr => absurd herr (write_ne _ _))
      fun v hok hv => ?_
    cases hv
    exact ⟨value_write hok, not_live_set m value⟩
  | fade target durationMs =>
    refine h.asked (fade_pulseTimer m target durationMs now)
      (fun herr => absurd herr (fade_ne _ _ _ _)) fun v hok hv => ?_
    by_cases hzero : durationMs = 0
    · -- A fade that takes no time is a set.
      rw [if_pos hzero] at hv
      cases hv
      have hfade : m.fade target durationMs now = m.set target := by
        unfold fade
        rw [if_pos hzero]
      dsimp only [Mosfet.command]
      rw [hfade] at hok ⊢
      exact ⟨value_write hok, not_live_set m target⟩
    · rw [if_neg hzero] at hv
      cases hv
  | pulse value durationMs => exact h.pulse hreturns
  | blink value onMs offMs count finalValue =>
    exact h.asked (blink_pulseTimer _ _ _ _ _ _) blink_refused nofun
  | breathe minValue maxValue fadeMs holdMs count finalValue =>
    exact h.asked (breathe_pulseTimer _ _ _ _ _ _ _ _) breathe_refused
      nofun

theorem Inv.off (h : m.Inv t) : (m.off t).1.Inv (m.off t).2 := by
  unfold Mosfet.off safeOff
  by_cases henabled : m.enabled = true
  · have hok : (m.set 0).2 = .ok :=
      congrArg Prod.snd (write_enabled (m := m.stopAll) henabled 0)
    have hset := h.command 0 (.set 0) trivial
    rw [show (m.command t 0 (.set 0)).2 = Hub.asked t (m.set 0).2 (some 0) from rfl,
      hok, asked_ok] at hset
    rw [if_pos henabled, if_pos henabled]
    exact hset
  · rw [if_neg henabled, if_neg henabled]
    exact h

theorem Inv.dispatch (h : m.Inv t) (hnext : m.dispatch timer = some m') : m'.Inv t := by
  cases timer with
  | pulse =>
    rcases Option.map_eq_some_iff.1 hnext with ⟨c, hdispatch, hm⟩
    cases hm
    rcases Callback.live_dispatch hdispatch with ⟨hlive, hbefore⟩
    exact ⟨h.fits.weaken fun _ => .inl hbefore, fun _ _ => hlive,
      fun _ => h.timers.alone hbefore, Callback.once_dispatch hdispatch,
      fun _ => h.timers.enabled hbefore⟩
  | fade =>
    rcases Option.map_eq_some_iff.1 hnext with ⟨c, hdispatch, hm⟩
    cases hm
    have hbefore := (Callback.live_dispatch hdispatch).2
    refine ⟨h.fits.weaken fun _ => .inr (.inl hbefore), h.ending, fun hpulse => ?_,
      h.timers.once, h.timers.enabled⟩
    -- No fade goes on beside a pulse.
    rw [(h.timers.alone hpulse).1] at hbefore
    cases hbefore
  | effect =>
    rcases Option.map_eq_some_iff.1 hnext with ⟨c, _, hm⟩
    cases hm
    exact ⟨h.fits, h.ending, h.timers.alone, h.timers.once, h.timers.enabled⟩

/-- A callback of an effect writes to the mosfet, and changes no timer but its own. -/
theorem effectCallback_eq (m : Mosfet) (now : UInt64) : m.effectCallback now =
      { m with
        value := (m.effectCallback now).value
        effect := (m.effectCallback now).effect } := by
  unfold effectCallback
  split
  · rfl
  split
  · unfold blinkCallback
    split
    · rw [write_eq]
    · dsimp only
      split <;> rw [write_eq]
  unfold breatheCallback
  dsimp only
  split
  · rw [write_eq]
  split
  · rw [write_eq]
  split
  · rfl
  generalize (if m.effect.onPhase = true then m.effect.remaining
    else countDown m.effect.remaining) = remaining
  split
  · rw [write_eq]
  · rfl

theorem effectCallback_idle (hidle : m.effect.active = false) : m.effectCallback now = m := by
  unfold effectCallback
  rw [hidle]
  rfl

theorem fadeCallback_eq (m : Mosfet) (now : UInt64) : m.fadeCallback now =
      { (m.write (m.fadeValue now)).1 with
        fadeTimer := if m.faded now then m.fadeTimer.stop else m.fadeTimer } := by
  unfold fadeCallback
  dsimp only
  rw [write_eq]
  split <;> rfl

/-- The callback of a pulse: one that is late finds what it writes, and the other one ends the
    last pulse of its row. -/
theorem Inv.pulseCallback (h : m.Inv t) (hwaiting : m.pulseTimer.waiting = true)
    (hin : m.InTime t now .pulse) :
    ({ m with pulseTimer := m.pulseTimer.take } : Mosfet).pulseCallback.Inv
      (if m.pulseTimer.late then
        t.late (({ m with pulseTimer := m.pulseTimer.take } : Mosfet).pulseCallback.value ≠ m.value)
      else t.finish) := by
  by_cases hlate : m.pulseTimer.late = true
  · unfold Mosfet.pulseCallback
    rw [write_eq]
    have hsame := value_write_self (m := { m with pulseTimer := m.pulseTimer.take }) (hin hlate)
    rw [if_pos hlate, hsame]
    refine ⟨(h.fits.late (by simp)).weaken fun hlive => hlive.imp_left Callback.live_of_take,
      fun home hgoing => ?_, fun hlive => h.timers.alone (Callback.live_of_take hlive),
      Callback.once_take _, fun hlive => h.timers.enabled (Callback.live_of_take hlive)⟩
    -- The pulse that is going on is a later one, and its timer is running.
    have hlive := h.ending home hgoing
    unfold Callback.live at hlive ⊢
    rw [hlate] at hlive
    simpa [Callback.take] using hlive
  have hintime := Bool.eq_false_iff.2 hlate
  have hlive := Callback.live_of_waiting hwaiting hintime
  have hdead : m.pulseTimer.take.live = false :=
    Callback.live_take (h.timers.once hwaiting hintime)
  have hback : ({ m with pulseTimer := m.pulseTimer.take } : Mosfet).pulseCallback =
      { m with value := m.pulseRestoreValue, pulseTimer := m.pulseTimer.take } :=
    congrArg Prod.fst (write_enabled (m := { m with pulseTimer := m.pulseTimer.take })
      (h.timers.enabled hlive) m.pulseRestoreValue)
  rw [if_neg hlate, hback]
  refine ⟨h.fits.finish (.inl hlive) ?_, fun home hgoing => ?_, fun hafter => ?_,
    Callback.once_take _, fun hafter => ?_⟩
  · rintro (hpulse | hfade | heffect)
    · exact absurd hpulse (Bool.eq_false_iff.1 hdead)
    · exact absurd hfade (Bool.eq_false_iff.1 (h.timers.alone hlive).1)
    · exact absurd heffect (Bool.eq_false_iff.1 (h.timers.alone hlive).2)
  · exact absurd hgoing (Track.finish_pulses t home)
  · exact absurd hafter (Bool.eq_false_iff.1 hdead)
  · exact absurd hafter (Bool.eq_false_iff.1 hdead)

/-- The callback of a fade: one that is late changes nothing that is settled. -/
theorem Inv.fadeCallback (h : m.Inv t) (hwaiting : m.fadeTimer.waiting = true)
    (hin : m.InTime t now .fade) :
    (({ m with fadeTimer := m.fadeTimer.take } : Mosfet).fadeCallback now).Inv t := by
  have hfade : ∀ b : Bool, (if b then m.fadeTimer.take.stop else m.fadeTimer.take).live = true →
      m.fadeTimer.live = true := fun b hlive => by
    cases b with
    | true => exact absurd hlive (Bool.eq_false_iff.1 (Callback.live_stop _))
    | false => exact Callback.live_of_take hlive
  have htimers : ∀ (value : UInt8) (b : Bool), Timers
      { m with value, fadeTimer := if b then m.fadeTimer.take.stop else m.fadeTimer.take } :=
    fun value b => ⟨fun hlive => ⟨Bool.eq_false_iff.2 fun hafter =>
      Bool.eq_false_iff.1 (h.timers.alone hlive).1 (hfade b hafter), (h.timers.alone hlive).2⟩,
      h.timers.once, h.timers.enabled⟩
  rw [fadeCallback_eq, write_eq]
  refine ⟨?_, h.ending, htimers _ _⟩
  show t.Fits (({ m with fadeTimer := m.fadeTimer.take } : Mosfet).write (m.fadeValue now)).1.value
    m.pulseRestoreValue _
  by_cases hsettled : t.settled = true
  · cases hlate : m.fadeTimer.late with
    | true =>
      -- The value is there already, and nothing more is left than before.
      rw [value_write_self (m := { m with fadeTimer := m.fadeTimer.take }) (hin hlate hsettled)]
      refine h.fits.weaken ?_
      rintro (hpulse | hafter | heffect)
      · exact .inl hpulse
      · exact .inr (.inl (hfade _ hafter))
      · exact .inr (.inr heffect)
    | false =>
      -- As long as a fade goes on, nothing is settled.
      have hlive : m.Live := .inr (.inl (Callback.live_of_waiting hwaiting hlate))
      rw [h.fits.unsettled hlive] at hsettled
      cases hsettled
  · exact h.fits.write (Bool.eq_false_iff.2 hsettled) _

theorem Inv.callback (h : m.Inv t) (hin : m.InTime t now timer)
    (hnext : m.callback t now timer = some (m', t')) : m'.Inv t' := by
  cases timer with
  | pulse =>
    dsimp only [Mosfet.callback] at hnext
    split at hnext
    · next hwaiting =>
        cases hnext
        exact h.pulseCallback hwaiting hin
    · cases hnext
  | fade =>
    dsimp only [Mosfet.callback] at hnext
    split at hnext
    · next hwaiting =>
        cases hnext
        exact h.fadeCallback hwaiting hin
    · cases hnext
  | effect =>
    dsimp only [Mosfet.callback] at hnext
    split at hnext
    · cases hnext
      by_cases hactive : m.effect.active = true
      · rw [effectCallback_eq]
        refine ⟨h.fits.write (h.fits.unsettled (.inr (.inr hactive))) _, h.ending,
          fun hlive => ?_, h.timers.once, h.timers.enabled⟩
        -- No effect goes on beside a pulse.
        rw [(h.timers.alone hlive).2] at hactive
        cases hactive
      · rw [effectCallback_idle (m := { m with effect := { m.effect with
          timer := m.effect.timer.take } }) (Bool.eq_false_iff.2 hactive)]
        exact ⟨h.fits, h.ending, h.timers.alone, h.timers.once, h.timers.enabled⟩
    · cases hnext

end Mosfet

/-! ### Lines -/

namespace IoLine

variable {l l' : IoLine} {t t' : Track Bool}

/-- Something may still write to the line. -/
def Live (l : IoLine) : Prop := l.pulseTimer.live = true ∨ l.effectActive = true

/-- What a late callback writes to an output, it has already. -/
def InTime (l : IoLine) : HwTimer → Prop
  | .pulse => l.pulseTimer.late = true → l.isOutput = true → l.active = l.pulseRestoreActive
  | .fade | .effect => True

instance (l : IoLine) : (timer : HwTimer) → Decidable (l.InTime timer)
  | .pulse => inferInstanceAs (Decidable (_ → _))
  | .fade | .effect => inferInstanceAs (Decidable True)

/-- A pulse that begins while another one goes on finds the line where that one returns to. -/
def Returns (l : IoLine) : IoCommand → Prop
  | .pulse _ durationMs =>
    durationMs ≠ 0 → l.pulseTimer.live = true → l.active = l.pulseRestoreActive
  | _ => True

instance (l : IoLine) : (command : IoCommand) → Decidable (l.Returns command)
  | .pulse _ _ => inferInstanceAs (Decidable (_ → _))
  | .set _ | .toggle | .blink _ _ _ _ | .setMode _ _ => inferInstanceAs (Decidable True)

/-- A pulse goes on alone, and its callback comes once. -/
structure Timers (l : IoLine) : Prop where
  alone : l.pulseTimer.live = true → l.effectActive = false
  once : l.pulseTimer.Once
  output : l.pulseTimer.live = true → l.isOutput = true

structure Inv (l : IoLine) (t : Track Bool) : Prop where
  fits : t.Fits l.active l.pulseRestoreActive l.Live
  ending : ∀ home, t.pulses = .going home → l.pulseTimer.live = true
  timers : l.Timers

theorem Timers.of_stop {c : Callback} (hstop : l.pulseTimer = c.stop) : l.Timers := by
  have hdead : l.pulseTimer.live ≠ true := by
    rw [hstop, Callback.live_stop]
    exact Bool.false_ne_true
  refine ⟨fun hlive => absurd hlive hdead, ?_, fun hlive => absurd hlive hdead⟩
  rw [hstop]
  exact Callback.once_stop c

theorem write_output (houtput : l.isOutput = true) (active : Bool) :
    l.write active = ({ l with active }, .ok) := by
  unfold write
  rw [if_pos houtput]

theorem active_write {active : Bool} (hok : (l.write active).2 = .ok) :
    (l.write active).1.active = active := by
  unfold write at hok ⊢
  split
  · rfl
  · next houtput =>
      rw [if_neg houtput] at hok
      cases hok

theorem write_ne (l : IoLine) (active : Bool) : (l.write active).2 ≠ .invalidArg := by
  unfold write
  split <;> exact nofun

theorem write_eq (l : IoLine) (active : Bool) :
    (l.write active).1 = { l with active := (l.write active).1.active } := by
  unfold write
  split <;> rfl

theorem active_write_self {active : Bool} (hsame : l.isOutput = true → l.active = active) :
    (l.write active).1.active = l.active := by
  unfold write
  split
  · next houtput => exact (hsame houtput).symm
  · rfl

theorem set_pulseTimer (l : IoLine) (active : Bool) :
    (l.set active).1.pulseTimer = l.pulseTimer.stop := by
  unfold set
  rw [write_eq]
  rfl

theorem not_live_set (l : IoLine) (active : Bool) : ¬(l.set active).1.Live := by
  unfold Live set
  rw [write_eq]
  rintro (hpulse | heffect)
  · exact Bool.false_ne_true ((Callback.live_stop l.pulseTimer).symm.trans hpulse)
  · cases heffect

theorem blink_pulseTimer (l : IoLine) (onMs offMs count : UInt32) (finalActive : Bool) :
    (l.blink onMs offMs count finalActive).1 = l ∨
    (l.blink onMs offMs count finalActive).1.pulseTimer = l.pulseTimer.stop := by
  unfold blink
  split
  · exact .inl rfl
  split
  · exact .inl rfl
  refine .inr ?_
  dsimp only
  split
  · rw [write_eq]
    rfl
  · rw [write_eq, write_eq]
    rfl

theorem blink_refused {finalActive : Bool}
    (h : (l.blink onMs offMs count finalActive).2 = .invalidArg) :
    (l.blink onMs offMs count finalActive).1 = l := by
  unfold blink at h ⊢
  split
  · rfl
  · next hduration =>
      rw [if_neg hduration] at h
      split at h
      · cases h
      · dsimp only at h
        split at h <;> cases h

theorem setMode_pulseTimer (l : IoLine) (mode : IoMode) (high : Bool) :
    (l.setMode mode high).1.pulseTimer = l.pulseTimer.stop := by
  have hoff : (if l.stopPulse.stopEffect.isOutput then (l.stopPulse.stopEffect.write false).1
      else l.stopPulse.stopEffect).pulseTimer = l.pulseTimer.stop := by
    split
    · rw [write_eq]
      rfl
    · rfl
  unfold setMode
  dsimp only
  generalize (if l.stopPulse.stopEffect.isOutput then (l.stopPulse.stopEffect.write false).1
    else l.stopPulse.stopEffect) = off at hoff ⊢
  cases mode with
  | disabled => exact hoff
  | input | output =>
    dsimp only
    split <;> exact hoff

theorem pulse_eq (hduration : durationMs ≠ 0) (houtput : l.isOutput = true) (active : Bool) :
    l.pulse active durationMs =
      ({ l.stopPulse.stopEffect with
          pulseRestoreActive := l.active
          active
          pulseActive := true
          pulseTimer := { l.pulseTimer.stop with running := true } }, .ok) := by
  unfold pulse
  rw [if_neg hduration, houtput, if_neg (by simp)]
  rw [write_output (l := { l.stopPulse.stopEffect with pulseRestoreActive := l.active }) houtput]
  rfl

theorem Inv.asked (h : l.Inv t) {commanded : Option Bool}
    (hmoves : l' = l ∨ l'.pulseTimer = l.pulseTimer.stop) (hrefused : err = .invalidArg → l' = l)
    (hset : ∀ active, err = .ok → commanded = some active → l'.active = active ∧ ¬l'.Live) :
    l'.Inv (asked t err commanded) where
  fits := by
    refine fits_asked h.fits (fun herr => ?_) hset
    rw [hrefused herr]
    exact ⟨rfl, rfl, id⟩
  ending := fun home hgoing => by
    by_cases herr : err = .invalidArg
    · rw [herr, asked_invalidArg] at hgoing
      rw [hrefused herr]
      exact h.ending home hgoing
    · rw [asked_of_ne herr] at hgoing
      cases hgoing
  timers := by
    rcases hmoves with heq | hstop
    · rw [heq]
      exact h.timers
    · exact .of_stop hstop

/-- A pulse: it is refused, or begins where the last one would return to. -/
theorem Inv.pulse (h : l.Inv t) {active : Bool} (hreturns : l.Returns (.pulse active durationMs)) :
    (l.pulse active durationMs).1.Inv (pulsed t (l.pulse active durationMs).2 l.active) := by
  by_cases hduration : durationMs = 0
  · have hrefuse : l.pulse active durationMs = (l, .invalidArg) := by
      unfold IoLine.pulse
      rw [if_pos hduration]
    rw [hrefuse]
    exact h
  by_cases houtput : l.isOutput = true
  · rw [pulse_eq hduration houtput]
    exact ⟨h.fits.pulse fun home hgoing => hreturns hduration (h.ending home hgoing),
      fun _ _ => rfl, fun _ => rfl, Callback.once_restart _, fun _ => houtput⟩
  -- A line that is no output refuses, and has no pulses.
  have hrefuse : l.pulse active durationMs = (l, .invalidState) := by
    unfold IoLine.pulse
    rw [if_neg hduration, Bool.eq_false_iff.2 houtput]
    rfl
  rw [hrefuse]
  show l.Inv (Hub.asked t .invalidState none)
  exact h.asked (.inl rfl) (fun _ => rfl) nofun

theorem Inv.command (h : l.Inv t) (command : IoCommand) (hreturns : l.Returns command) :
    (l.command t command).1.Inv (l.command t command).2 := by
  cases command with
  | set active =>
    refine h.asked (.inr (set_pulseTimer l active)) (fun herr => absurd herr (write_ne _ _))
      fun v hok hv => ?_
    cases hv
    exact ⟨active_write hok, not_live_set l active⟩
  | toggle =>
    exact h.asked (.inr (set_pulseTimer l !l.active)) (fun herr => absurd herr (write_ne _ _))
      nofun
  | pulse active durationMs => exact h.pulse hreturns
  | blink onMs offMs count finalActive =>
    exact h.asked (blink_pulseTimer _ _ _ _ _) blink_refused nofun
  | setMode mode high =>
    exact ⟨h.fits.command nofun, fun _ hgoing => (by cases hgoing),
      .of_stop (setMode_pulseTimer l mode high)⟩

theorem Inv.off (h : l.Inv t) : (l.off t).1.Inv (l.off t).2 := by
  unfold IoLine.off safeOff
  by_cases houtput : l.isOutput = true
  · have hok : (l.set false).2 = .ok :=
      congrArg Prod.snd (write_output (l := l.stopPulse.stopEffect) houtput false)
    have hset := h.command (.set false) trivial
    rw [show (l.command t (.set false)).2 = Hub.asked t (l.set false).2 (some false) from rfl,
      hok, asked_ok] at hset
    rw [if_pos houtput, if_pos houtput]
    exact hset
  · rw [if_neg houtput, if_neg houtput]
    exact h

theorem Inv.dispatch (h : l.Inv t) (hnext : l.dispatch timer = some l') : l'.Inv t := by
  cases timer with
  | pulse =>
    rcases Option.map_eq_some_iff.1 hnext with ⟨c, hdispatch, hl⟩
    cases hl
    rcases Callback.live_dispatch hdispatch with ⟨hlive, hbefore⟩
    exact ⟨h.fits.weaken fun _ => .inl hbefore, fun _ _ => hlive,
      fun _ => h.timers.alone hbefore, Callback.once_dispatch hdispatch,
      fun _ => h.timers.output hbefore⟩
  | effect =>
    rcases Option.map_eq_some_iff.1 hnext with ⟨c, _, hl⟩
    cases hl
    exact ⟨h.fits, h.ending, h.timers.alone, h.timers.once, h.timers.output⟩
  | fade => cases hnext

theorem effectCallback_idle (hidle : l.effectActive = false) : l.effectCallback = l := by
  unfold effectCallback
  rw [hidle]
  rfl

theorem effectCallback_frame (l : IoLine) : l.effectCallback.pulseTimer = l.pulseTimer ∧
    l.effectCallback.pulseRestoreActive = l.pulseRestoreActive ∧
    l.effectCallback.isOutput = l.isOutput := by
  unfold effectCallback
  split
  · exact ⟨rfl, rfl, rfl⟩
  split
  · rw [write_eq]
    exact ⟨rfl, rfl, rfl⟩
  · dsimp only
    split <;> rw [write_eq] <;> exact ⟨rfl, rfl, rfl⟩

/-- The callback of a pulse: one that is late finds what it writes, and the other one ends the
    last pulse of its row. -/
theorem Inv.pulseCallback (h : l.Inv t) (hwaiting : l.pulseTimer.waiting = true)
    (hin : l.InTime .pulse) :
    ({ l with pulseTimer := l.pulseTimer.take } : IoLine).pulseCallback.Inv
      (if l.pulseTimer.late then
        t.late (({ l with pulseTimer := l.pulseTimer.take } : IoLine).pulseCallback.active ≠
          l.active)
      else t.finish) := by
  by_cases hlate : l.pulseTimer.late = true
  · unfold IoLine.pulseCallback
    rw [write_eq]
    have hsame := active_write_self
      (l := { l with pulseTimer := l.pulseTimer.take, pulseActive := false }) (hin hlate)
    rw [if_pos hlate, hsame]
    refine ⟨(h.fits.late (by simp)).weaken fun hlive => hlive.imp_left Callback.live_of_take,
      fun home hgoing => ?_, fun hlive => h.timers.alone (Callback.live_of_take hlive),
      Callback.once_take _, fun hlive => h.timers.output (Callback.live_of_take hlive)⟩
    -- The pulse that is going on is a later one, and its timer is running.
    have hlive := h.ending home hgoing
    unfold Callback.live at hlive ⊢
    rw [hlate] at hlive
    simpa [Callback.take] using hlive
  have hintime := Bool.eq_false_iff.2 hlate
  have hlive := Callback.live_of_waiting hwaiting hintime
  have hdead : l.pulseTimer.take.live = false :=
    Callback.live_take (h.timers.once hwaiting hintime)
  have hback : ({ l with pulseTimer := l.pulseTimer.take } : IoLine).pulseCallback =
      { l with
        active := l.pulseRestoreActive
        pulseActive := false
        pulseTimer := l.pulseTimer.take } :=
    congrArg Prod.fst (write_output
      (l := { l with pulseTimer := l.pulseTimer.take, pulseActive := false })
      (h.timers.output hlive) l.pulseRestoreActive)
  rw [if_neg hlate, hback]
  refine ⟨h.fits.finish (.inl hlive) ?_, fun home hgoing => ?_, fun hafter => ?_,
    Callback.once_take _, fun hafter => ?_⟩
  · rintro (hpulse | heffect)
    · exact absurd hpulse (Bool.eq_false_iff.1 hdead)
    · exact absurd heffect (Bool.eq_false_iff.1 (h.timers.alone hlive))
  · exact absurd hgoing (Track.finish_pulses t home)
  · exact absurd hafter (Bool.eq_false_iff.1 hdead)
  · exact absurd hafter (Bool.eq_false_iff.1 hdead)

theorem Inv.callback (h : l.Inv t) (hin : l.InTime timer)
    (hnext : l.callback t timer = some (l', t')) : l'.Inv t' := by
  cases timer with
  | pulse =>
    dsimp only [IoLine.callback] at hnext
    split at hnext
    · next hwaiting =>
        cases hnext
        exact h.pulseCallback hwaiting hin
    · cases hnext
  | effect =>
    dsimp only [IoLine.callback] at hnext
    split at hnext
    · cases hnext
      by_cases hactive : l.effectActive = true
      · rcases effectCallback_frame { l with effectTimer := l.effectTimer.take } with
          ⟨hpulse, hrestore, houtput⟩
        have hdead : l.pulseTimer.live ≠ true := fun hlive =>
          Bool.eq_false_iff.1 (h.timers.alone hlive) hactive
        refine ⟨?_, fun home hgoing => ?_, fun hlive => ?_, ?_, fun hlive => ?_⟩
        · rw [hrestore]
          exact h.fits.write (h.fits.unsettled (.inr hactive)) _
        · exact absurd (h.ending home hgoing) hdead
        · rw [hpulse] at hlive
          exact absurd hlive hdead
        · rw [hpulse]
          exact h.timers.once
        · rw [hpulse] at hlive
          exact absurd hlive hdead
      · rw [effectCallback_idle (l := { l with effectTimer := l.effectTimer.take })
          (Bool.eq_false_iff.2 hactive)]
        exact ⟨h.fits, h.ending, h.timers.alone, h.timers.once, h.timers.output⟩
    · cases hnext
  | fade => cases hnext

end IoLine

/-! ### All outputs -/

/-- A callback that is late changes nothing that is settled, and no pulse begins while another one
    has moved the output away from where it returns to. -/
def InTime (s : HardwareIo) : HardwareStep → Prop
  | .mosfet channel command _ => ∀ i, channelIndex channel = some i → (s.mosfets i).Returns command
  | .io channel command => ∀ i, channelIndex channel = some i → (s.ios i).Returns command
  | .relayCallback i timer => (s.relays i).InTime timer
  | .mosfetCallback i timer now => (s.mosfets i).InTime (s.mosfetTracks i) now timer
  | .ioCallback i timer => (s.ios i).InTime timer
  | _ => True

instance (s : HardwareIo) : (act : HardwareStep) → Decidable (InTime s act)
  | .mosfet _ _ _ | .io _ _ => inferInstanceAs (Decidable (∀ _ : Fin channelCount, _))
  | .relayCallback i timer => inferInstanceAs (Decidable ((s.relays i).InTime timer))
  | .mosfetCallback i timer now =>
    inferInstanceAs (Decidable ((s.mosfets i).InTime (s.mosfetTracks i) now timer))
  | .ioCallback i timer => inferInstanceAs (Decidable ((s.ios i).InTime timer))
  | .relay _ _ | .mosfetAllOff | .safeOffAll | .relayDispatch _ _ | .mosfetDispatch _ _
  | .ioDispatch _ _ => inferInstanceAs (Decidable True)

namespace HardwareIo

variable {s s' : HardwareIo}

/-- What holds of every output and its track does so if one of them changes and keeps it. -/
theorem forall_update {O T : Type} {Fit : O → T → Prop} {outputs : Fin channelCount → O}
    {tracks : Fin channelCount → T} (h : ∀ i, Fit (outputs i) (tracks i)) (i : Fin channelCount)
    {output : O} {track : T} (hfit : Fit output track) (j : Fin channelCount) :
    Fit (Function.update outputs i output j) (Function.update tracks i track j) := by
  by_cases hj : j = i
  · rw [hj, Function.update_self, Function.update_self]
    exact hfit
  · rw [Function.update_of_ne hj, Function.update_of_ne hj]
    exact h j

/-- Every output is as it was asked. -/
structure Obeyed (s : HardwareIo) : Prop where
  relays : ∀ i, (s.relayTracks i).Obeyed (s.relays i).on ((s.relays i).pulseTimer.live = true)
  mosfets : ∀ i, (s.mosfetTracks i).Obeyed (s.mosfets i).value
    ((s.mosfets i).pulseTimer.live = true)
  ios : ∀ i, (s.ioTracks i).Obeyed (s.ios i).active ((s.ios i).pulseTimer.live = true)

/-- Every output fits what was asked of it. -/
structure Inv (s : HardwareIo) : Prop where
  relays : ∀ i, (s.relays i).Inv (s.relayTracks i)
  mosfets : ∀ i, (s.mosfets i).Inv (s.mosfetTracks i)
  ios : ∀ i, (s.ios i).Inv (s.ioTracks i)

theorem Inv.setRelay (h : s.Inv) (i : Fin channelCount) {r : Relay} {t : Track Bool}
    (hr : r.Inv t) : (s.setRelay i r t).Inv :=
  ⟨forall_update h.relays i hr, h.mosfets, h.ios⟩

theorem Inv.setMosfet (h : s.Inv) (i : Fin channelCount) {m : Mosfet} {t : Track UInt8}
    (hm : m.Inv t) : (s.setMosfet i m t).Inv :=
  ⟨h.relays, forall_update h.mosfets i hm, h.ios⟩

theorem Inv.setIo (h : s.Inv) (i : Fin channelCount) {l : IoLine} {t : Track Bool}
    (hl : l.Inv t) : (s.setIo i l t).Inv :=
  ⟨h.relays, h.mosfets, forall_update h.ios i hl⟩

theorem Inv.mosfetAllOff (h : s.Inv) : s.mosfetAllOff.Inv :=
  ⟨h.relays, fun i => (h.mosfets i).off, h.ios⟩

theorem Inv.safeOffAll (h : s.Inv) : s.safeOffAll.Inv :=
  ⟨fun i => (h.relays i).off, fun i => (h.mosfets i).off, fun i => (h.ios i).off⟩

theorem Inv.step (h : s.Inv) (act : HardwareStep) (hin : InTime s act)
    (hnext : hardwareStep s act = some s') : s'.Inv := by
  cases act with
  | relay channel command =>
    rcases Option.map_eq_some_iff.1 hnext with ⟨i, _, hs⟩
    rw [← hs]
    exact h.setRelay i ((h.relays i).command command)
  | mosfet channel command now =>
    rcases Option.map_eq_some_iff.1 hnext with ⟨i, hi, hs⟩
    rw [← hs]
    exact h.setMosfet i ((h.mosfets i).command now command (hin i hi))
  | io channel command =>
    rcases Option.map_eq_some_iff.1 hnext with ⟨i, hi, hs⟩
    rw [← hs]
    exact h.setIo i ((h.ios i).command command (hin i hi))
  | mosfetAllOff =>
    cases hnext
    exact h.mosfetAllOff
  | safeOffAll =>
    cases hnext
    exact h.safeOffAll
  | relayDispatch i timer =>
    rcases Option.map_eq_some_iff.1 hnext with ⟨r, hr, hs⟩
    rw [← hs]
    exact h.setRelay i ((h.relays i).dispatch hr)
  | mosfetDispatch i timer =>
    rcases Option.map_eq_some_iff.1 hnext with ⟨m, hm, hs⟩
    rw [← hs]
    exact h.setMosfet i ((h.mosfets i).dispatch hm)
  | ioDispatch i timer =>
    rcases Option.map_eq_some_iff.1 hnext with ⟨l, hl, hs⟩
    rw [← hs]
    exact h.setIo i ((h.ios i).dispatch hl)
  | relayCallback i timer =>
    rcases Option.map_eq_some_iff.1 hnext with ⟨⟨r, t⟩, hr, hs⟩
    rw [← hs]
    exact h.setRelay i ((h.relays i).callback hin hr)
  | mosfetCallback i timer now =>
    rcases Option.map_eq_some_iff.1 hnext with ⟨⟨m, t⟩, hm, hs⟩
    rw [← hs]
    exact h.setMosfet i ((h.mosfets i).callback hin hm)
  | ioCallback i timer =>
    rcases Option.map_eq_some_iff.1 hnext with ⟨⟨l, t⟩, hl, hs⟩
    rw [← hs]
    exact h.setIo i ((h.ios i).callback hin hl)

/-- Nothing was asked of an output yet, and nothing is left to write to it. -/
theorem Inv.atStart (relays mosfets : Fin channelCount → Bool)
    (ios : Fin channelCount → IoLine) : (atStart relays mosfets ios).Inv := by
  have hfits : ∀ {V : Type} (value restore : V) (live : Prop),
      ({} : Track V).Fits value restore live := fun value restore live =>
    ⟨fun _ hv => (by cases hv), fun _ hv => (by cases hv), fun _ hv => (by cases hv), rfl⟩
  have hnone : ∀ {V : Type} (home : V), ({} : Track V).pulses ≠ .going home :=
    nofun
  have hdead : ({} : Callback).live ≠ true := Bool.false_ne_true
  refine ⟨fun i => ⟨hfits _ _ _, rfl⟩, fun i => ⟨hfits _ _ _, ?_, ?_⟩,
    fun i => ⟨hfits _ _ _, ?_, ?_⟩⟩
  · exact fun home hgoing => absurd hgoing (hnone home)
  · exact ⟨fun hlive => absurd hlive hdead, Callback.once_take {}, fun hlive => absurd hlive hdead⟩
  · exact fun home hgoing => absurd hgoing (hnone home)
  · exact ⟨fun hlive => absurd hlive hdead, Callback.once_take {}, fun hlive => absurd hlive hdead⟩

theorem Inv.obeyed (h : s.Inv) : s.Obeyed where
  relays := fun i => (h.relays i).fits.obeyed fun home hgoing => by
    rw [(h.relays i).single] at hgoing
    cases hgoing
  mosfets := fun i => (h.mosfets i).fits.obeyed (h.mosfets i).ending
  ios := fun i => (h.ios i).fits.obeyed (h.ios i).ending

/-- **In every run in which no late callback changes an output that is settled, and no pulse
    begins away from where the last one returns to: an output that was set, or switched off with
    all, has that value until the next command; a pulse that was superseded changes nothing; and
    behind a row of pulses, which ends, an output has the value from before the first one.** -/
theorem last_command_wins (relays mosfets : Fin channelCount → Bool)
    (ios : Fin channelCount → IoLine) (acts : List HardwareStep) (s : HardwareIo)
    (hin : Lib.EachStep hardwareStep InTime (atStart relays mosfets ios) acts)
    (hrun : Lib.run hardwareStep (atStart relays mosfets ios) acts = some s) : s.Obeyed := by
  have hstep : ∀ (s : HardwareIo) act s', s.Inv → InTime s act → hardwareStep s act = some s' →
      s'.Inv := fun s act s' h hin hnext => h.step act hin hnext
  exact (Lib.invariant_of_run hstep (.atStart relays mosfets ios) hin hrun).obeyed

/-! ### Runs in time, and too late -/

/-- All channels are there, and the lines are outputs. -/
def ready : HardwareIo :=
  atStart (fun _ => true) (fun _ => true) fun _ =>
    { pin := .inputOutput, activeLow := false, mode := .output, enabled := true }

/-- Where a run leads. -/
def after (acts : List HardwareStep) : HardwareIo := (Lib.run hardwareStep ready acts).getD ready

theorem run_after (acts : List HardwareStep)
    (hsome : (Lib.run hardwareStep ready acts).isSome = true) :
    Lib.run hardwareStep ready acts = some (after acts) := by
  rcases Option.isSome_iff_exists.1 hsome with ⟨s, hs⟩
  unfold after
  rw [hs]
  rfl

theorem one_lt_channelCount : 1 < channelCount := by decide

/-- A relay is switched on, and a line pulses and is inactive again. -/
def calm : List HardwareStep :=
  [.relay 1 (.set true), .io 2 (.pulse true 100), .ioDispatch ⟨1, one_lt_channelCount⟩ .pulse,
    .ioCallback ⟨1, one_lt_channelCount⟩ .pulse]

theorem last_command_wins_one :
    ((after calm).relays 0).on = true ∧ ((after calm).ioTracks 1).pulses = .ended false ∧
    (after calm).Obeyed :=
  ⟨by decide +kernel, by decide +kernel,
    last_command_wins (fun _ => true) (fun _ => true) _ calm _ (by decide +kernel)
      (run_after calm (by decide +kernel))⟩

/-- A callback of a pulse that is late switches a relay off that was set, and ends the next pulse;
    one of a fade moves a mosfet that was set; and behind two pulses that overlap, a mosfet has the
    value of the first one. -/
theorem not_everyRunObeyed : ¬(∀ acts s, Lib.run hardwareStep ready acts = some s →
      ∀ i on, (s.relayTracks i).held = some on → (s.relays i).on = on) ∧
    ¬(∀ acts s, Lib.run hardwareStep ready acts = some s →
      ∀ i, (s.relayTracks i).spoiled = false) ∧
    ¬(∀ acts s, Lib.run hardwareStep ready acts = some s →
      ∀ i value, (s.mosfetTracks i).held = some value → (s.mosfets i).value = value) ∧
    ¬(∀ acts s, Lib.run hardwareStep ready acts = some s →
      ∀ i home, (s.mosfetTracks i).pulses = .ended home → (s.mosfets i).value = home) := by
  refine ⟨fun hset => ?_, fun hpulse => ?_, fun hfade => ?_, fun hback => ?_⟩
  · have hlate := hset _ _ (run_after [.relay 1 (.pulse 100), .relayDispatch 0 .pulse,
      .relay 1 (.set true), .relayCallback 0 .pulse] (by decide +kernel)) 0 true (by decide +kernel)
    revert hlate
    decide +kernel
  · have hlate := hpulse _ _ (run_after [.relay 1 (.pulse 100), .relayDispatch 0 .pulse,
      .relay 1 (.pulse 100), .relayCallback 0 .pulse] (by decide +kernel)) 0
    revert hlate
    decide +kernel
  · have hlate := hfade _ _ (run_after [.mosfet 1 (.fade 200 100) 0, .mosfetDispatch 0 .fade,
      .mosfet 1 (.set 10) 100, .mosfetCallback 0 .fade 100] (by decide +kernel)) 0 10
      (by decide +kernel)
    revert hlate
    decide +kernel
  · have hover := hback _ _ (run_after [.mosfet 1 (.pulse 200 100) 0, .mosfet 1 (.pulse 50 100) 0,
      .mosfetDispatch 0 .pulse, .mosfetCallback 0 .pulse 100] (by decide +kernel)) 0 0
      (by decide +kernel)
    revert hover
    decide +kernel

end HardwareIo

end SceneHub.Hub
