import SceneHub.Node.HwMosfet

/-!
# The Last Command of a Mosfet

A mosfet of a node that was set keeps its duty until the next command, as long as no callback that
comes too late finds a value that it would change. Its duty follows from its own commands and
timers, if no other mosfet that is configured has its LEDC channel. Behind pulses a mosfet has the
value from before the first one, as long as each of them begins when the last one has ended, or
where that one would return to.

A mosfet that is configured and has an LEDC channel of its own always shows the duty for its value.
A set leaves nothing that may still write to it but late callbacks.

## Main definitions

* `HwMosfet.Writes`: What a command or a callback may change.
* `HwMosfets.Alone`: A mosfet has its LEDC channel for itself.
* `HeldMosfet.Held`: A mosfet that was set has that value, and nothing is left to write to it.
* `HwMosfet.Pulsing`: A mosfet at which there are only pulses.

## Theorems

* `HeldMosfet.Held.step`: What was set is kept.
* `HwMosfets.run_load`: The run of one mosfet.
* `HwMosfets.duty_follows`: Set mosfets keep their duty, and mosfets are independent.
* `HwMosfets.pulses_return`: Behind pulses the value is back.
-/

namespace SceneHub.Node

open Function (update update_self update_of_ne)
open Lib (Callback)

namespace HwMosfet

variable {durationMs : UInt32}

variable {m m' m'' : HwMosfet} {now : UInt64}

/-! ### What is written -/

/-- A command or a callback leaves the duty alone, or it writes the duty for the value it leaves
    behind. -/
structure Writes (m m' : HwMosfet) : Prop where
  configured : m'.configured = m.configured
  activeLow : m'.activeLow = m.activeLow
  duty : m'.duty = m.duty ∧ m'.value = m.value ∨
    m.configured = true ∧ m'.duty = m.dutyOf m'.value

theorem Writes.refl (m : HwMosfet) : m.Writes m := ⟨rfl, rfl, .inl ⟨rfl, rfl⟩⟩

theorem Writes.trans (h : m.Writes m') (h' : m'.Writes m'') : m.Writes m'' where
  configured := h'.configured.trans h.configured
  activeLow := h'.activeLow.trans h.activeLow
  duty := by
    rcases h'.duty with ⟨hduty, hvalue⟩ | ⟨hconfigured, hduty⟩
    · rw [hduty, hvalue]
      exact h.duty
    refine .inr ⟨h.configured ▸ hconfigured, ?_⟩
    rw [hduty]
    unfold dutyOf
    rw [h.activeLow]

theorem Writes.effect (h : m.Writes m') (effect : HwMosfetEffect) :
    m.Writes { m' with effect } := ⟨h.configured, h.activeLow, h.duty⟩

theorem writes_write (m : HwMosfet) (value : UInt8) : m.Writes (m.write value).1 := by
  unfold write
  by_cases hconfigured : m.configured = true
  · rw [if_pos hconfigured]
    exact ⟨rfl, rfl, .inr ⟨hconfigured, rfl⟩⟩
  · rw [if_neg hconfigured]
    exact .refl m

/-- The mosfet shows the duty for its value. -/
def Shows (m : HwMosfet) : Prop := m.configured = true → m.duty = m.dutyOf m.value

theorem Shows.of_writes (h : m.Shows) (hwrites : m.Writes m') : m'.Shows := by
  intro hconfigured
  have hdutyOf : m'.dutyOf m'.value = m.dutyOf m'.value := by
    unfold dutyOf
    rw [hwrites.activeLow]
  rw [hdutyOf]
  rcases hwrites.duty with ⟨hduty, hvalue⟩ | ⟨_, hduty⟩
  · rw [hduty, hvalue]
    exact h (hwrites.configured ▸ hconfigured)
  · exact hduty

theorem Writes.duty_eq (h : m.Writes m') (hconfigured : m.configured ≠ true) :
    m'.duty = m.duty := by
  rcases h.duty with ⟨hduty, _⟩ | ⟨hconfigured', _⟩
  · exact hduty
  · exact absurd hconfigured' hconfigured

/-! ### Commands -/

theorem write_configured (hconfigured : m.configured = true) (value : UInt8) :
    m.write value = ({ m with duty := m.dutyOf value, value }, .ok) := by
  unfold write
  rw [if_pos hconfigured]

theorem write_eq (m : HwMosfet) (value : UInt8) : (m.write value).1 =
      { m with duty := (m.write value).1.duty, value := (m.write value).1.value } := by
  unfold write
  split <;> rfl

theorem set_configured (hconfigured : m.configured = true) (value : UInt8) :
    m.set value = ({ m.stopAll with duty := m.dutyOf value, value }, .ok) := by
  unfold set
  rw [hconfigured, Bool.not_true, if_neg Bool.false_ne_true]
  exact write_configured (m := m.stopAll) hconfigured value

theorem set_missing (hconfigured : m.configured ≠ true) (value : UInt8) :
    m.set value = (m, .notFound) := by
  unfold set
  rw [Bool.eq_false_iff.2 hconfigured]
  rfl

/-- Something may still write to the mosfet in time. -/
def Live (m : HwMosfet) : Prop :=
  m.pulseTimer.live = true ∨ m.fadeTimer.live = true ∨ m.effect.active = true

theorem not_live_set (hconfigured : m.configured = true) (value : UInt8) :
    ¬(m.set value).1.Live := by
  rw [set_configured hconfigured]
  rintro (hpulse | hfade | heffect)
  · exact Bool.false_ne_true ((Callback.live_stop m.pulseTimer).symm.trans hpulse)
  · exact Bool.false_ne_true ((Callback.live_stop m.fadeTimer).symm.trans hfade)
  · cases heffect

theorem start_stop (c : Callback) : c.stop.start = some { c.stop with running := true } := rfl

theorem pulse_configured (hduration : durationMs ≠ 0) (hconfigured : m.configured = true)
    (value : UInt8) : m.pulse value durationMs =
      ({ m.stopAll with
          duty := m.dutyOf value
          value
          pulseRestoreValue := m.value
          pulseTimer := { m.pulseTimer.stop with running := true } }, .ok) := by
  unfold pulse
  rw [if_neg hduration, hconfigured, Bool.not_true, if_neg Bool.false_ne_true,
    write_configured (m := { m.stopAll with pulseRestoreValue := m.value }) hconfigured]
  rfl

theorem pulse_refused {value : UInt8} (h : durationMs = 0 ∨ m.configured ≠ true) :
    (m.pulse value durationMs).1 = m ∧ (m.pulse value durationMs).2 ≠ .ok := by
  unfold pulse
  by_cases hduration : durationMs = 0
  · rw [if_pos hduration]
    exact ⟨rfl, nofun⟩
  · rw [if_neg hduration, Bool.eq_false_iff.2 (h.resolve_left hduration)]
    exact ⟨rfl, nofun⟩

theorem begin_configured (hconfigured : m.configured = true) {effect : HwMosfetEffect}
    {c : Callback} (htimer : effect.timer = c.stop) (value finalValue : UInt8) :
    m.begin effect value finalValue =
      ({ m with
          duty := m.dutyOf value
          value
          effect := { effect with timer := { c.stop with running := true } } }, .ok) := by
  unfold begin
  rw [write_configured (m := { m with effect }) hconfigured]
  dsimp only
  rw [htimer, start_stop]
  rfl

theorem command_cases (m : HwMosfet) (command : HwMosfetCommand) :
    ((m.command command).1 = m ∧ (m.command command).2 ≠ .ok) ∨
    (m.configured = true ∧ (m.command command).2 = .ok ∧ m.Writes (m.command command).1 ∧
      ∀ value, command.setValue = some value →
        (m.command command).1.value = value ∧ ¬(m.command command).1.Live) := by
  have hset : ∀ value, ((m.set value).1 = m ∧ (m.set value).2 ≠ .ok) ∨
      (m.configured = true ∧ (m.set value).2 = .ok ∧ m.Writes (m.set value).1 ∧
        ∀ value', some value = some value' →
          (m.set value).1.value = value' ∧ ¬(m.set value).1.Live) := fun value => by
    by_cases hconfigured : m.configured = true
    · refine .inr ⟨hconfigured, ?_, ?_, fun value' hvalue => ⟨?_, not_live_set hconfigured value⟩⟩
      · rw [set_configured hconfigured]
      · rw [set_configured hconfigured]
        exact ⟨rfl, rfl, .inr ⟨hconfigured, rfl⟩⟩
      · rw [set_configured hconfigured]
        exact Option.some.inj hvalue
    · rw [set_missing hconfigured]
      exact .inl ⟨rfl, nofun⟩
  by_cases hconfigured : m.configured = true
  · have hnot : ¬(!m.configured) = true := by simp [hconfigured]
    have hnone : ∀ {m'' : HwMosfet} (value : UInt8), none = some value →
        m''.value = value ∧ ¬m''.Live := nofun
    cases command with
    | set value => exact hset value
    | fade target durationMs now =>
      by_cases hduration : durationMs = 0
      · dsimp only [command, fade, HwMosfetCommand.setValue]
        rw [if_pos hduration, if_pos hduration]
        exact hset target
      · dsimp only [command, fade, HwMosfetCommand.setValue]
        rw [if_neg hduration, if_neg hnot, if_neg hduration]
        exact .inr ⟨hconfigured, rfl, ⟨rfl, rfl, .inl ⟨rfl, rfl⟩⟩, hnone⟩
    | pulse value durationMs =>
      by_cases hduration : durationMs = 0
      · exact .inl (pulse_refused (.inl hduration))
      dsimp only [command, HwMosfetCommand.setValue]
      rw [pulse_configured hduration hconfigured]
      exact .inr ⟨hconfigured, rfl, ⟨rfl, rfl, .inr ⟨hconfigured, rfl⟩⟩, hnone⟩
    | blink value onMs offMs count finalValue =>
      dsimp only [command, blink, HwMosfetCommand.setValue]
      by_cases hbad : onMs = 0 ∨ offMs = 0
      · rw [if_pos hbad]
        exact .inl ⟨rfl, nofun⟩
      · rw [if_neg hbad, if_neg hnot, begin_configured (m := m.stopAll) hconfigured rfl]
        exact .inr ⟨hconfigured, rfl, ⟨rfl, rfl, .inr ⟨hconfigured, rfl⟩⟩, hnone⟩
    | breathe minValue maxValue fadeMs holdMs count finalValue now =>
      dsimp only [command, breathe, HwMosfetCommand.setValue]
      by_cases hbad : fadeMs = 0 ∨ maxValue < minValue
      · rw [if_pos hbad]
        exact .inl ⟨rfl, nofun⟩
      · rw [if_neg hbad, if_neg hnot, begin_configured (m := m.stopAll) hconfigured rfl]
        exact .inr ⟨hconfigured, rfl, ⟨rfl, rfl, .inr ⟨hconfigured, rfl⟩⟩, hnone⟩
    | brokenFluorescent value =>
      dsimp only [command, brokenFluorescent, HwMosfetCommand.setValue]
      rw [if_neg hnot, begin_configured (m := m.stopAll) hconfigured rfl]
      exact .inr ⟨hconfigured, rfl, ⟨rfl, rfl, .inr ⟨hconfigured, rfl⟩⟩, hnone⟩
  · have hnot : (!m.configured) = true := by simpa using hconfigured
    refine .inl ?_
    cases command with
    | set value => exact (hset value).resolve_right fun hright => hconfigured hright.1
    | pulse value durationMs => exact pulse_refused (.inr hconfigured)
    | fade target durationMs now =>
      by_cases hduration : durationMs = 0
      · dsimp only [command, fade]
        rw [if_pos hduration]
        exact (hset target).resolve_right fun hright => hconfigured hright.1
      · dsimp only [command, fade]
        rw [if_neg hduration, if_pos hnot]
        exact ⟨rfl, nofun⟩
    | blink value onMs offMs count finalValue =>
      dsimp only [command, blink]
      by_cases hbad : onMs = 0 ∨ offMs = 0
      · rw [if_pos hbad]
        exact ⟨rfl, nofun⟩
      · rw [if_neg hbad, if_pos hnot]
        exact ⟨rfl, nofun⟩
    | breathe minValue maxValue fadeMs holdMs count finalValue now =>
      dsimp only [command, breathe]
      by_cases hbad : fadeMs = 0 ∨ maxValue < minValue
      · rw [if_pos hbad]
        exact ⟨rfl, nofun⟩
      · rw [if_neg hbad, if_pos hnot]
        exact ⟨rfl, nofun⟩
    | brokenFluorescent value =>
      dsimp only [command, brokenFluorescent]
      rw [if_pos hnot]
      exact ⟨rfl, nofun⟩

/-! ### Callbacks -/

theorem fadeCallback_eq (m : HwMosfet) (now : UInt64) : m.fadeCallback now =
      { (m.write (m.fadeValue now)).1 with
        fadeTimer := if m.faded now then m.fadeTimer.stop else m.fadeTimer } := by
  unfold fadeCallback
  rw [write_eq]
  split <;> rfl

theorem writes_effectCallback (m : HwMosfet) (now : UInt64) : m.Writes (m.effectCallback now) := by
  have hfinal : ∀ (effect : HwMosfetEffect) (value : UInt8),
      m.Writes (({ m with effect } : HwMosfet).write value).1 := fun effect value =>
    ((Writes.refl m).effect effect).trans (writes_write _ value)
  unfold effectCallback
  split
  · exact .refl m
  split
  · unfold blinkCallback
    split
    · exact (writes_write m 0).effect _
    dsimp only
    split
    · exact hfinal _ _
    · exact (writes_write m _).effect _
  · exact (writes_write m _).effect _
  all_goals
    unfold breatheCallback
    dsimp only
    split
    · exact writes_write m _
    split
    · exact (writes_write m _).effect _
    split
    · exact .refl m
    generalize (if m.effect.onPhase = true then m.effect.remaining
      else m.effect.cycled) = remaining
    split
    · exact hfinal _ _
    · exact (Writes.refl m).effect _

theorem writes_callback {locked : Bool} {timer : HwMosfetTimer}
    (h : m.callback now locked timer = some m') : m.Writes m' := by
  have htake : m.Writes (m.take timer) := by
    cases timer <;> exact ⟨rfl, rfl, .inl ⟨rfl, rfl⟩⟩
  unfold callback at h
  split at h
  · cases h
  split at h
  · cases h
    exact htake
  cases timer with
  | pulse =>
    cases h
    exact htake.trans (writes_write _ _)
  | fade =>
    cases h
    rw [fadeCallback_eq]
    have hwrites := htake.trans (writes_write _ ((m.take .fade).fadeValue now))
    exact ⟨hwrites.configured, hwrites.activeLow, hwrites.duty⟩
  | effect =>
    cases h
    exact htake.trans (writes_effectCallback _ now)

theorem writes_dispatch {timer : HwMosfetTimer} (h : m.dispatch timer = some m') : m.Writes m' := by
  cases timer with
  | pulse | fade | effect =>
    rcases Option.map_eq_some_iff.1 h with ⟨c, _, hm⟩
    cases hm
    exact ⟨rfl, rfl, .inl ⟨rfl, rfl⟩⟩

theorem effectCallback_idle (hidle : m.effect.active = false) : m.effectCallback now = m := by
  unfold effectCallback
  rw [hidle]
  rfl

end HwMosfet

/-! ### What was set -/

namespace HeldMosfet

variable {v v' : HeldMosfet}

/-- A mosfet that was set is configured and has that value, and nothing is left to write to it. -/
def Held (v : HeldMosfet) : Prop :=
  ∀ value, v.held = some value →
    v.mosfet.configured = true ∧ v.mosfet.value = value ∧ ¬v.mosfet.Live

/-- A callback of a pulse or of a fade that comes too late would write the value that is there. -/
def InTime (v : HeldMosfet) : MosfetAct → Prop
  | .callback .pulse _ true => v.held ≠ none → v.mosfet.pulseRestoreValue = v.mosfet.value
  | .callback .fade now true => v.held ≠ none → v.mosfet.fadeValue now = v.mosfet.value
  | _ => True

instance (v : HeldMosfet) : (act : MosfetAct) → Decidable (v.InTime act)
  | .callback .pulse _ true | .callback .fade _ true => inferInstanceAs (Decidable (_ → _))
  | .callback .pulse _ false | .callback .fade _ false | .callback .effect _ _
  | .command _ | .off | .dispatch _ => inferInstanceAs (Decidable True)

theorem writes_step {act : MosfetAct} (h : v.step act = some v') : v.mosfet.Writes v'.mosfet := by
  cases act with
  | command command =>
    cases h
    rcases v.mosfet.command_cases command with ⟨hsame, _⟩ | ⟨_, _, hwrites, _⟩
    · rw [hsame]
      exact .refl _
    · exact hwrites
  | off =>
    cases h
    unfold HwMosfet.off
    split
    · rcases v.mosfet.command_cases (.set 0) with ⟨hsame, _⟩ | ⟨_, _, hwrites, _⟩
      · rw [show (v.mosfet.set 0).1 = v.mosfet from hsame]
        exact .refl _
      · exact hwrites
    · exact .refl _
  | dispatch timer =>
    rcases Option.map_eq_some_iff.1 h with ⟨m, hm, hv⟩
    cases hv
    exact HwMosfet.writes_dispatch hm
  | callback timer now locked =>
    rcases Option.map_eq_some_iff.1 h with ⟨m, hm, hv⟩
    cases hv
    exact HwMosfet.writes_callback hm

/-- A command sets the mosfet, or nothing is set behind it, or it does nothing. -/
theorem Held.command (h : v.Held) (command : HwMosfetCommand)
    (hnext : v.step (.command command) = some v') : v'.Held := by
  cases hnext
  intro value hvalue
  change (if (v.mosfet.command command).2 = .ok then command.setValue else v.held) =
    some value at hvalue
  rcases v.mosfet.command_cases command with ⟨hsame, herr⟩ | ⟨hconfigured, hok, hwrites, hset⟩
  · rw [if_neg herr] at hvalue
    show (v.mosfet.command command).1.configured = true ∧
      (v.mosfet.command command).1.value = value ∧ ¬(v.mosfet.command command).1.Live
    rw [hsame]
    exact h value hvalue
  · rw [if_pos hok] at hvalue
    exact ⟨hwrites.configured.trans hconfigured, hset value hvalue⟩

theorem Held.off (h : v.Held) (hnext : v.step .off = some v') : v'.Held := by
  cases hnext
  unfold HwMosfet.off
  by_cases hconfigured : v.mosfet.configured = true
  · -- A mosfet that is configured is set to 0.
    intro value hvalue
    have hzero : (if v.mosfet.configured = true then some 0 else v.held) = some value := hvalue
    rw [if_pos hconfigured] at hzero ⊢
    cases hzero
    refine ⟨?_, ?_, HwMosfet.not_live_set hconfigured 0⟩
    · rw [HwMosfet.set_configured hconfigured]
      exact hconfigured
    · rw [HwMosfet.set_configured hconfigured]
  · rw [if_neg hconfigured, if_neg hconfigured]
    exact h

/-- The time of a timer is over that is left. Where something was set there is none but that of an
    effect, which is not active. -/
theorem Held.dispatch (h : v.Held) {timer : HwMosfetTimer}
    (hnext : v.step (.dispatch timer) = some v') : v'.Held := by
  rcases Option.map_eq_some_iff.1 hnext with ⟨m, hm, hv⟩
  cases hv
  intro value hvalue
  rcases h value hvalue with ⟨hconfigured, hsame, hlive⟩
  cases timer with
  | pulse =>
    rcases Option.map_eq_some_iff.1 hm with ⟨c, hc, hm⟩
    exact absurd (.inl (Callback.live_dispatch hc).2) hlive
  | fade =>
    rcases Option.map_eq_some_iff.1 hm with ⟨c, hc, hm⟩
    exact absurd (.inr (.inl (Callback.live_dispatch hc).2)) hlive
  | effect =>
    rcases Option.map_eq_some_iff.1 hm with ⟨c, _, hm⟩
    cases hm
    exact ⟨hconfigured, hsame, hlive⟩

/-- A callback. The one of an effect looks whether the effect is active. -/
theorem Held.callback (h : v.Held) {timer : HwMosfetTimer} {now : UInt64} {locked : Bool}
    (hin : v.InTime (.callback timer now locked))
    (hnext : v.step (.callback timer now locked) = some v') : v'.Held := by
  have hwrites := writes_step hnext
  rcases Option.map_eq_some_iff.1 hnext with ⟨m, hm, hv⟩
  cases hv
  intro value hvalue
  rcases h value hvalue with ⟨hconfigured, hsame, hlive⟩
  refine ⟨hwrites.configured.trans hconfigured, ?_⟩
  have htake : ∀ timer, ¬(v.mosfet.take timer).Live := fun timer hafter => hlive (by
    cases timer with
    | pulse => exact hafter.imp_left Callback.live_of_take
    | fade => exact hafter.imp_right fun hright => hright.imp_left Callback.live_of_take
    | effect => exact hafter)
  have hheld : v.held ≠ none := fun hnone => by
    rw [show v.held = some value from hvalue] at hnone
    cases hnone
  unfold HwMosfet.callback at hm
  split at hm
  · cases hm
  cases locked with
  | false =>
    cases hm
    refine ⟨?_, htake timer⟩
    cases timer <;> exact hsame
  | true =>
    cases timer with
    | pulse =>
      cases hm
      show ((v.mosfet.take .pulse).write v.mosfet.pulseRestoreValue).1.value = value ∧
        ¬((v.mosfet.take .pulse).write v.mosfet.pulseRestoreValue).1.Live
      rw [HwMosfet.write_configured (m := v.mosfet.take .pulse) hconfigured]
      exact ⟨(hin hheld).trans hsame, htake .pulse⟩
    | fade =>
      cases hm
      rw [HwMosfet.fadeCallback_eq,
        HwMosfet.write_configured (m := v.mosfet.take .fade) hconfigured]
      refine ⟨(hin hheld).trans hsame, ?_⟩
      rintro (hpulse | hfade | heffect)
      · exact htake .fade (.inl hpulse)
      · split at hfade
        · exact Bool.false_ne_true ((Callback.live_stop _).symm.trans hfade)
        · exact htake .fade (.inr (.inl hfade))
      · exact htake .fade (.inr (.inr heffect))
    | effect =>
      cases hm
      have hidle : v.mosfet.effect.active = false :=
        Bool.eq_false_iff.2 fun hactive => hlive (.inr (.inr hactive))
      rw [HwMosfet.effectCallback_idle (m := v.mosfet.take .effect) hidle]
      exact ⟨hsame, htake .effect⟩

theorem Held.step (h : v.Held) {act : MosfetAct} (hin : v.InTime act)
    (hnext : v.step act = some v') : v'.Held := by
  cases act with
  | command command => exact h.command command hnext
  | off => exact h.off hnext
  | dispatch timer => exact h.dispatch hnext
  | callback timer now locked => exact h.callback hin hnext

end HeldMosfet

/-! ### All mosfets -/

namespace HwMosfets

variable {s s' : HwMosfets} {i j c : Fin mosfetMax} {v : HeldMosfet} {act : MosfetAct}

theorem load_store_self (s : HwMosfets) (i : Fin mosfetMax) (v : HeldMosfet) :
    (s.store i v).load i = v := by
  unfold load store
  dsimp only
  rw [update_self, update_self]

theorem load_store_of_ne (hne : j ≠ i)
    (hduty : v.mosfet.duty = s.duties (ledcChannel i) ∨ ledcChannel j ≠ ledcChannel i) :
    (s.store i v).load j = s.load j := by
  unfold load store
  dsimp only
  rw [update_of_ne hne]
  by_cases hledc : ledcChannel j = ledcChannel i
  · rw [hledc, update_self, hduty.resolve_right fun hother => hother hledc]
  · rw [update_of_ne hledc]

/-- No other mosfet that is configured has the LEDC channel. -/
def Alone (s : HwMosfets) (c : Fin mosfetMax) : Prop :=
  ∀ j, j ≠ c → (s.mosfets j).mosfet.configured = true → ledcChannel j ≠ ledcChannel c

theorem stepAt_cases (h : s.stepAt i act = some s') :
    ∃ v, (s.load i).step act = some v ∧ s' = s.store i v := by
  rcases Option.map_eq_some_iff.1 h with ⟨v, hv, hs⟩
  exact ⟨v, hv, hs.symm⟩

theorem configured_stepAt (h : s.stepAt i act = some s') (j : Fin mosfetMax) :
    (s'.mosfets j).mosfet.configured = (s.mosfets j).mosfet.configured := by
  rcases stepAt_cases h with ⟨v, hv, hs⟩
  rw [hs]
  unfold store
  by_cases hji : j = i
  · rw [hji]
    dsimp only
    rw [update_self]
    exact (HeldMosfet.writes_step hv).configured
  · dsimp only
    rw [update_of_ne hji]

theorem Alone.stepAt (halone : s.Alone c) (h : s.stepAt i act = some s') : s'.Alone c := by
  intro j hj hconfigured
  rw [configured_stepAt h j] at hconfigured
  exact halone j hj hconfigured

theorem load_stepAt_self (h : s.stepAt c act = some s') :
    (s.load c).step act = some (s'.load c) := by
  rcases stepAt_cases h with ⟨v, hv, hs⟩
  rw [hs, load_store_self]
  exact hv

theorem load_stepAt_of_ne (halone : s.Alone c) (hne : i ≠ c) (h : s.stepAt i act = some s') :
    s'.load c = s.load c := by
  rcases stepAt_cases h with ⟨v, hv, hs⟩
  rw [hs]
  refine load_store_of_ne hne.symm ?_
  by_cases hconfigured : (s.mosfets i).mosfet.configured = true
  · exact .inr (halone i hne hconfigured).symm
  · exact .inl ((HeldMosfet.writes_step hv).duty_eq hconfigured)

/-- All mosfets are switched off, one after the other, and this one when it is its turn. -/
theorem load_allOff {l : List (Fin mosfetMax)} (hnodup : l.Nodup) (halone : s.Alone c)
    (h : l.foldlM (fun s i => s.stepAt i .off) s = some s') :
    s'.Alone c ∧ (c ∉ l → s'.load c = s.load c) ∧
      (c ∈ l → (s.load c).step .off = some (s'.load c)) := by
  induction l generalizing s with
  | nil =>
    cases h
    exact ⟨halone, fun _ => rfl, nofun⟩
  | cons i l ih =>
    rw [List.foldlM_cons] at h
    rcases Option.bind_eq_some_iff.1 h with ⟨next, hnext, hrest⟩
    rcases ih hnodup.of_cons (halone.stepAt hnext) hrest with ⟨hafter, hout, hin⟩
    refine ⟨hafter, fun hmem => ?_, fun hmem => ?_⟩
    · rw [hout fun hmem' => hmem (List.mem_cons_of_mem i hmem'),
        load_stepAt_of_ne halone (fun hic => hmem (hic ▸ .head _)) hnext]
    by_cases hic : i = c
    · rw [hic] at hnext hnodup
      rw [hout (List.nodup_cons.1 hnodup).1]
      exact load_stepAt_self hnext
    · rw [← load_stepAt_of_ne halone hic hnext]
      exact hin ((List.mem_cons.1 hmem).resolve_left fun hci => hic hci.symm)

/-- Every step changes a mosfet by what it does to that one, and keeps its LEDC channel to it. -/
theorem load_step (halone : s.Alone c) {step : MosfetStep} (h : mosfetStep s step = some s') :
    s'.Alone c ∧ (step.actAt c = none → s'.load c = s.load c) ∧
      ∀ act, step.actAt c = some act → (s.load c).step act = some (s'.load c) := by
  have hat : ∀ i act, s.stepAt i act = some s' →
      s'.Alone c ∧ ((if i = c then some act else none) = none → s'.load c = s.load c) ∧
        ∀ act', (if i = c then some act else none) = some act' →
          (s.load c).step act' = some (s'.load c) := fun i act hnext => by
    refine ⟨halone.stepAt hnext, fun hnone => ?_, fun act' hsome => ?_⟩
    · by_cases hic : i = c
      · rw [if_pos hic] at hnone
        cases hnone
      · exact load_stepAt_of_ne halone hic hnext
    by_cases hic : i = c
    · rw [if_pos hic] at hsome
      cases hsome
      rw [hic] at hnext
      exact load_stepAt_self hnext
    · rw [if_neg hic] at hsome
      cases hsome
  cases step with
  | command channel command =>
    dsimp only [MosfetStep.actAt]
    unfold mosfetStep at h
    cases hindex : mosfetIndex channel with
    | none =>
      simp only [hindex] at h
      cases h
      exact ⟨halone, fun _ => rfl, nofun⟩
    | some i =>
      simp only [hindex] at h
      simp only [Option.some.injEq]
      exact hat i _ h
  | allOff =>
    rcases load_allOff (List.nodup_finRange mosfetMax) halone h with ⟨hafter, _, hin⟩
    refine ⟨hafter, fun hnone => (by cases hnone), fun act hsome => ?_⟩
    cases hsome
    exact hin (List.mem_finRange c)
  | dispatch i timer => exact hat i _ h
  | callback i timer now locked => exact hat i _ h

/-- A mosfet that is alone on its LEDC channel takes a run of its own. -/
theorem run_load {acts : List MosfetStep} (halone : s.Alone c)
    (hrun : Lib.run mosfetStep s acts = some s') :
    Lib.run HeldMosfet.step (s.load c) (acts.filterMap (·.actAt c)) = some (s'.load c) := by
  refine @Lib.run_part HwMosfets MosfetStep mosfetStep HeldMosfet MosfetAct (·.load c)
    (·.actAt c) HeldMosfet.step (·.Alone c) (fun s step s' halone hnext => ?_)
    (fun s step s' act halone hnext hact => ?_) (fun s step s' halone hnext hact => ?_) acts s s'
    halone hrun
  · exact (load_step halone hnext).1
  · exact (load_step halone hnext).2.2 act hact
  · exact (load_step halone hnext).2.1 hact

/-- The value for which the LEDC channel of a mosfet has the duty. -/
def output (s : HwMosfets) (c : Fin mosfetMax) : UInt8 :=
  (s.mosfets c).mosfet.dutyOf (s.duties (ledcChannel c))

theorem dutyOf_dutyOf (m : HwMosfet) (value : UInt8) : m.dutyOf (m.dutyOf value) = value := by
  unfold HwMosfet.dutyOf
  split
  · grind
  · rfl

theorem output_eq_value (hshows : (s.load c).mosfet.Shows)
    (hconfigured : (s.mosfets c).mosfet.configured = true) :
    s.output c = (s.mosfets c).mosfet.value := by
  have hduty : s.duties (ledcChannel c) =
      (s.mosfets c).mosfet.dutyOf (s.mosfets c).mosfet.value := hshows hconfigured
  unfold output
  rw [hduty, dutyOf_dutyOf]

/-- Behind the initialization a mosfet that is alone on its LEDC channel is off. -/
theorem shows_init {configured activeLow : Fin mosfetMax → Bool}
    (halone : (init configured activeLow).Alone c) :
    ((init configured activeLow).load c).mosfet.Shows := by
  intro hconfigured
  have hfold : ∀ (l : List (Fin mosfetMax)) (duties : Fin ledcMax → UInt8),
      (c ∈ l ∨ duties (ledcChannel c) = if activeLow c then 255 else 0) →
      l.foldl (fun duties i => if configured i then
        update duties (ledcChannel i) (if activeLow i then 255 else 0) else duties)
        duties (ledcChannel c) = if activeLow c then 255 else 0 := by
    intro l
    induction l with
    | nil => exact fun duties hduties => hduties.resolve_left nofun
    | cons i l ih =>
      intro duties hduties
      refine ih _ ?_
      dsimp only
      by_cases hic : i = c
      · -- The channel itself is set up.
        right
        rw [hic, if_pos (show configured c = true from hconfigured), update_self]
      refine hduties.imp (fun hmem => (List.mem_cons.1 hmem).resolve_left
        fun hci => hic hci.symm) fun hduty => ?_
      by_cases hother : configured i = true
      · rw [if_pos hother, update_of_ne (halone i hic hother).symm, hduty]
      · rw [if_neg hother, hduty]
  have hzero : (if activeLow c then 255 else 0 : UInt8) = if activeLow c then 255 - 0 else 0 := by
    rw [show (255 : UInt8) - 0 = 255 from rfl]
  exact (hfold _ _ (.inl (List.mem_finRange c))).trans hzero

/-- A callback of the mosfet that comes too late would write what is there. -/
def InTime (c : Fin mosfetMax) (s : HwMosfets) (step : MosfetStep) : Prop :=
  ∀ act ∈ step.actAt c, (s.load c).InTime act

instance (c : Fin mosfetMax) (s : HwMosfets) (step : MosfetStep) : Decidable (InTime c s step) :=
  inferInstanceAs (Decidable (∀ act ∈ step.actAt c, _))

/-- **In every run in which no other mosfet that is configured has the LEDC channel of a mosfet,
    and no callback of it that comes too late would change what it was set to: the mosfet has the
    duty for the value that it was set to until its next command, and in every run with the same
    commands and timers of the mosfet its duty is the same.** -/
theorem duty_follows (configured activeLow : Fin mosfetMax → Bool) (c : Fin mosfetMax)
    (halone : (init configured activeLow).Alone c) (acts : List MosfetStep) (s : HwMosfets)
    (hin : Lib.EachStep mosfetStep (InTime c) (init configured activeLow) acts)
    (hrun : Lib.run mosfetStep (init configured activeLow) acts = some s) :
    (∀ value, (s.mosfets c).held = some value → s.output c = value) ∧
    ∀ acts' s', Lib.run mosfetStep (init configured activeLow) acts' = some s' →
      acts'.filterMap (·.actAt c) = acts.filterMap (·.actAt c) →
      s'.output c = s.output c ∧ s'.duties (ledcChannel c) = s.duties (ledcChannel c) := by
  refine ⟨fun value hvalue => ?_, fun acts' s' hrun' hsame => ?_⟩
  · have hinv : ∀ s step s', (s.Alone c ∧ (s.load c).mosfet.Shows ∧ (s.load c).Held) →
        InTime c s step → mosfetStep s step = some s' →
        s'.Alone c ∧ (s'.load c).mosfet.Shows ∧ (s'.load c).Held := by
      rintro s step s' ⟨halone, hshows, hheld⟩ hin hnext
      rcases load_step halone hnext with ⟨hafter, hother, hown⟩
      refine ⟨hafter, ?_⟩
      cases hact : step.actAt c with
      | none =>
        rw [hother hact]
        exact ⟨hshows, hheld⟩
      | some act =>
        have hstep := hown act hact
        exact ⟨hshows.of_writes (HeldMosfet.writes_step hstep), hheld.step (hin act hact) hstep⟩
    rcases Lib.invariant_of_run hinv
      ⟨halone, shows_init halone, nofun⟩ hin hrun with ⟨_, hshows, hheld⟩
    rcases hheld value hvalue with ⟨hconfigured, hsame, _⟩
    rw [output_eq_value hshows hconfigured]
    exact hsame
  · have hload := (run_load halone hrun').symm.trans (hsame ▸ run_load halone hrun)
    have hmosfet := congrArg HeldMosfet.mosfet (Option.some.inj hload)
    have hduty : s'.duties (ledcChannel c) = s.duties (ledcChannel c) :=
      congrArg HwMosfet.duty hmosfet
    have hlow : (s'.load c).mosfet.activeLow = (s.load c).mosfet.activeLow :=
      congrArg HwMosfet.activeLow hmosfet
    refine ⟨?_, hduty⟩
    unfold output HwMosfet.dutyOf
    rw [hduty, show (s'.mosfets c).mosfet.activeLow = (s.mosfets c).mosfet.activeLow from hlow]

/-! ### Runs in time, and too late -/

def ready : HwMosfets := init (fun _ => true) fun _ => false

/-- Where a run leads. -/
def after (acts : List MosfetStep) : HwMosfets := (Lib.run mosfetStep ready acts).getD ready

theorem run_after (acts : List MosfetStep) (hsome : (Lib.run mosfetStep ready acts).isSome = true) :
    Lib.run mosfetStep ready acts = some (after acts) := by
  rcases Option.isSome_iff_exists.1 hsome with ⟨s, hs⟩
  unfold after
  rw [hs]
  rfl

/-- A mosfet pulses and is set to a value. -/
def calm : List MosfetStep :=
  [.command 2 (.pulse 200 100), .dispatch 1 .pulse, .callback 1 .pulse 100 true,
    .command 2 (.set 10)]

theorem duty_follows_one : (after calm).output 1 = 10 :=
  (duty_follows (fun _ => true) (fun _ => false) 1 (by unfold Alone; decide +kernel) calm
    (after calm) (by decide +kernel) (run_after calm (by decide +kernel))).1 10 (by decide +kernel)

/-- A callback of a pulse that is late takes back what a mosfet was set to; and a mosfet that was
    set changes with the command to another one, in a run that has the same commands to it as one
    in which it does not. -/
theorem not_everyDutyFollows : ¬(∀ acts s, Lib.run mosfetStep ready acts = some s →
      ∀ c value, (s.mosfets c).held = some value → s.output c = value) ∧
    ¬(∀ acts acts' s s' c, Lib.run mosfetStep ready acts = some s →
      Lib.run mosfetStep ready acts' = some s' →
      acts'.filterMap (·.actAt c) = acts.filterMap (·.actAt c) → s'.output c = s.output c) := by
  refine ⟨fun hset => ?_, fun halone => ?_⟩
  · have hlate := hset _ _ (run_after [.command 2 (.pulse 200 100), .dispatch 1 .pulse,
      .command 2 (.set 10), .callback 1 .pulse 100 true] (by decide +kernel)) 1 10
      (by decide +kernel)
    revert hlate
    decide +kernel
  have hother := halone _ _ _ _ 0
    (run_after [.command 1 (.set 10)] (by decide +kernel))
    (run_after [.command 1 (.set 10), .command 5 (.set 99)] (by decide +kernel))
    (by decide +kernel)
  revert hother
  decide +kernel

end HwMosfets

/-! ### Pulses -/

namespace HwMosfet

variable {m m' : HwMosfet} {home : UInt8}

/-- Nothing goes on at a mosfet. -/
structure Quiet (m : HwMosfet) : Prop where
  pulse : m.pulseTimer.running = false ∧ m.pulseTimer.waiting = false
  fade : m.fadeTimer.running = false ∧ m.fadeTimer.waiting = false
  effect : m.effect.timer.running = false ∧ m.effect.timer.waiting = false

/-- A mosfet at which there are only pulses has the value from before the first one, or a pulse goes
    on that will restore it. -/
structure Pulsing (m : HwMosfet) (home : UInt8) : Prop where
  restore : m.pulseTimer.running = true ∨ m.pulseTimer.waiting = true →
    m.pulseRestoreValue = home ∧ m.configured = true
  value : m.pulseTimer.live = false → m.value = home
  once : m.pulseTimer.Once
  fade : m.fadeTimer.running = false ∧ m.fadeTimer.waiting = false
  effect : m.effect.timer.running = false ∧ m.effect.timer.waiting = false

theorem Quiet.pulsing (h : m.Quiet) : m.Pulsing m.value where
  restore := fun hgoing => by
    rw [h.pulse.1, h.pulse.2] at hgoing
    rcases hgoing with hrunning | hwaiting
    · cases hrunning
    · cases hwaiting
  value := fun _ => rfl
  once := fun hwaiting => by
    rw [h.pulse.2] at hwaiting
    cases hwaiting
  fade := h.fade
  effect := h.effect

theorem Pulsing.of_duty (h : m.Pulsing home) (duty : UInt8) :
    ({ m with duty } : HwMosfet).Pulsing home := ⟨h.restore, h.value, h.once, h.fade, h.effect⟩

/-- A pulse begins where the last one would return to, or when it has ended. -/
theorem Pulsing.pulse (h : m.Pulsing home) {value : UInt8}
    (hreturns : durationMs ≠ 0 → m.pulseTimer.live = true → m.value = m.pulseRestoreValue) :
    (m.pulse value durationMs).1.Pulsing home := by
  by_cases hgood : durationMs ≠ 0 ∧ m.configured = true
  · rw [pulse_configured hgood.1 hgood.2]
    have hhome : m.value = home := by
      cases hlive : m.pulseTimer.live with
      | false => exact h.value hlive
      | true =>
        rw [hreturns hgood.1 hlive]
        refine (h.restore ?_).1
        unfold Callback.live at hlive
        rw [Bool.or_eq_true, Bool.and_eq_true] at hlive
        exact hlive.imp_right And.left
    exact ⟨fun _ => ⟨hhome, hgood.2⟩, fun hdead => (by cases hdead), Callback.once_restart _,
      ⟨rfl, h.fade.2⟩, ⟨rfl, h.effect.2⟩⟩
  · have hrefused : (m.pulse value durationMs).1 = m := (pulse_refused (by tauto)).1
    rw [hrefused]
    exact h

theorem Pulsing.dispatch (h : m.Pulsing home) {timer : HwMosfetTimer}
    (hnext : m.dispatch timer = some m') : m'.Pulsing home := by
  have hidle : ∀ {c c' : Callback} {periodic : Bool}, c.running = false →
      c.dispatch periodic ≠ some c' := fun hrunning hdispatch => by
    unfold Callback.dispatch at hdispatch
    rw [hrunning] at hdispatch
    cases hdispatch
  cases timer with
  | pulse =>
    rcases Option.map_eq_some_iff.1 hnext with ⟨c, hc, hm⟩
    cases hm
    have hlive := (Callback.live_dispatch hc).1
    refine ⟨fun _ => h.restore (.inl ?_), fun hdead => ?_, Callback.once_dispatch hc, h.fade,
      h.effect⟩
    · cases hrunning : m.pulseTimer.running with
      | true => rfl
      | false => exact absurd hc (hidle hrunning)
    · rw [show c.live = false from hdead] at hlive
      cases hlive
  | fade =>
    rcases Option.map_eq_some_iff.1 hnext with ⟨c, hc, _⟩
    exact absurd hc (hidle h.fade.1)
  | effect =>
    rcases Option.map_eq_some_iff.1 hnext with ⟨c, hc, _⟩
    exact absurd hc (hidle h.effect.1)

/-- The callback of a pulse restores the value, or it comes too late and another one will. -/
theorem Pulsing.callback (h : m.Pulsing home) {timer : HwMosfetTimer} {now : UInt64}
    {locked : Bool} (hlock : timer = .pulse → locked = false → m.pulseTimer.late = true)
    (hnext : m.callback now locked timer = some m') : m'.Pulsing home := by
  unfold HwMosfet.callback at hnext
  split at hnext
  · cases hnext
  · next hwaits =>
      have hwaiting : (m.timer timer).waiting = true := by simpa using hwaits
      cases timer with
      | fade =>
        rw [show (m.timer .fade).waiting = false from h.fade.2] at hwaiting
        cases hwaiting
      | effect =>
        rw [show (m.timer .effect).waiting = false from h.effect.2] at hwaiting
        cases hwaiting
      | pulse =>
        rcases h.restore (.inr hwaiting) with ⟨hrestore, hconfigured⟩
        cases locked with
        | true =>
          cases hnext
          show ((m.take .pulse).write m.pulseRestoreValue).1.Pulsing home
          rw [write_configured (m := m.take .pulse) hconfigured]
          exact ⟨fun _ => ⟨hrestore, hconfigured⟩, fun _ => hrestore, Callback.once_take _,
            h.fade, h.effect⟩
        | false =>
          cases hnext
          refine ⟨fun _ => ⟨hrestore, hconfigured⟩, fun hdead => h.value ?_,
            Callback.once_take _, h.fade, h.effect⟩
          -- A late callback is not the one of the pulse that goes on.
          change m.pulseTimer.take.live = false at hdead
          unfold Callback.live Callback.take at hdead
          unfold Callback.live
          rw [hlock rfl rfl, Bool.not_true, Bool.and_false]
          rwa [Bool.false_and] at hdead

end HwMosfet

namespace HwMosfets

variable {s s' : HwMosfets} {c : Fin mosfetMax} {home : UInt8}

def PulsesOnly (c : Fin mosfetMax) (step : MosfetStep) : Prop :=
  ∀ act ∈ step.actAt c, act ≠ .off ∧ ∀ command, act = .command command →
    ∃ value durationMs, command = .pulse value durationMs

/-- A pulse of the mosfet begins when the last one has ended, or where that one would return to, and
    the callback of a pulse that is not late gets the lock. -/
def Returns (c : Fin mosfetMax) (s : HwMosfets) : MosfetStep → Prop
  | .command channel (.pulse _ durationMs) => mosfetIndex channel = some c → durationMs ≠ 0 →
    (s.mosfets c).mosfet.pulseTimer.live = true →
      (s.mosfets c).mosfet.value = (s.mosfets c).mosfet.pulseRestoreValue
  | .callback i .pulse _ false => i = c → (s.mosfets c).mosfet.pulseTimer.late = true
  | _ => True

instance (c : Fin mosfetMax) (s : HwMosfets) : (step : MosfetStep) → Decidable (Returns c s step)
  | .command _ (.pulse _ _) | .callback _ .pulse _ false => inferInstanceAs (Decidable (_ → _))
  | .command _ (.set _) | .command _ (.fade _ _ _) | .command _ (.blink _ _ _ _ _)
  | .command _ (.breathe _ _ _ _ _ _ _) | .command _ (.brokenFluorescent _) | .allOff
  | .dispatch _ _ | .callback _ .pulse _ true | .callback _ .fade _ _ | .callback _ .effect _ _ =>
    inferInstanceAs (Decidable True)

theorem mosfets_stepAt_of_ne {i : Fin mosfetMax} {act : MosfetAct} (hne : i ≠ c)
    (h : s.stepAt i act = some s') : s'.mosfets c = s.mosfets c := by
  rcases stepAt_cases h with ⟨v, _, hs⟩
  rw [hs]
  exact update_of_ne hne.symm v s.mosfets

theorem mosfets_stepAt_self {act : MosfetAct} (h : s.stepAt c act = some s') :
    (s.load c).step act = some (s'.mosfets c) := by
  rcases stepAt_cases h with ⟨v, hv, hs⟩
  rw [hs, hv]
  exact congrArg some (update_self c v s.mosfets).symm

theorem pulsing_step {step : MosfetStep} (h : (s.mosfets c).mosfet.Pulsing home)
    (honly : PulsesOnly c step) (hreturns : Returns c s step)
    (hnext : mosfetStep s step = some s') : (s'.mosfets c).mosfet.Pulsing home := by
  have hload : (s.load c).mosfet.Pulsing home := h.of_duty _
  cases step with
  | allOff => exact absurd rfl (honly .off rfl).1
  | command channel command =>
    unfold mosfetStep at hnext
    cases hindex : mosfetIndex channel with
    | none =>
      simp only [hindex] at hnext
      cases hnext
      exact h
    | some i =>
      simp only [hindex] at hnext
      by_cases hic : i = c
      · rw [hic] at hnext hindex
        rcases (honly (.command command) (if_pos hindex)).2 command rfl with
          ⟨value, durationMs, hpulse⟩
        rw [hpulse] at hnext hreturns
        rw [← Option.some.inj (mosfets_stepAt_self hnext)]
        exact hload.pulse (hreturns hindex)
      · rw [mosfets_stepAt_of_ne hic hnext]
        exact h
  | dispatch i timer =>
    by_cases hic : i = c
    · rw [hic] at hnext
      rcases Option.map_eq_some_iff.1 (mosfets_stepAt_self hnext) with ⟨m, hm, hv⟩
      rw [← hv]
      exact hload.dispatch hm
    · rw [mosfets_stepAt_of_ne hic hnext]
      exact h
  | callback i timer now locked =>
    by_cases hic : i = c
    · rw [hic] at hnext hreturns
      rcases Option.map_eq_some_iff.1 (mosfets_stepAt_self hnext) with ⟨m, hm, hv⟩
      rw [← hv]
      refine hload.callback (fun htimer hlocked => ?_) hm
      rw [htimer, hlocked] at hreturns
      exact hreturns rfl
    · rw [mosfets_stepAt_of_ne hic hnext]
      exact h

/-- **In every run with pulses as the only commands to a mosfet at which nothing goes on, in which
    each of them begins when the last one has ended or where it would return to, and the callback
    of a pulse that is not late gets the lock: when the last pulse has ended, the mosfet has the
    value from before the first one.** -/
theorem pulses_return (c : Fin mosfetMax) (s s' : HwMosfets) (acts : List MosfetStep)
    (hquiet : (s.mosfets c).mosfet.Quiet) (honly : ∀ step ∈ acts, PulsesOnly c step)
    (hin : Lib.EachStep mosfetStep (Returns c) s acts) (hrun : Lib.run mosfetStep s acts = some s')
    (hended : (s'.mosfets c).mosfet.pulseTimer.live = false) :
    (s'.mosfets c).mosfet.value = (s.mosfets c).mosfet.value := by
  have hinv : ∀ (s₁ : HwMosfets) step s₂,
      (s₁.mosfets c).mosfet.Pulsing (s.mosfets c).mosfet.value →
      (PulsesOnly c step ∧ Returns c s₁ step) → mosfetStep s₁ step = some s₂ →
      (s₂.mosfets c).mosfet.Pulsing (s.mosfets c).mosfet.value :=
    fun s₁ step s₂ h hcond hnext => pulsing_step h hcond.1 hcond.2 hnext
  exact (Lib.invariant_of_run hinv hquiet.pulsing (hin.and honly) hrun).value hended

def pulsesApart : List MosfetStep :=
  [.command 1 (.pulse 200 100), .dispatch 0 .pulse, .callback 0 .pulse 100 true,
    .command 1 (.pulse 50 100), .dispatch 0 .pulse, .callback 0 .pulse 300 true]

theorem pulsesApart_only : ∀ step ∈ pulsesApart, PulsesOnly 0 step := by
  intro step hstep act hact
  have hcases : step.actAt 0 = some act := hact
  simp only [pulsesApart, List.mem_cons, List.not_mem_nil, or_false] at hstep
  rcases hstep with rfl | rfl | rfl | rfl | rfl | rfl <;> cases hcases <;> simp

theorem pulses_return_one : ((after pulsesApart).mosfets 0).mosfet.value = 0 :=
  pulses_return 0 ready (after pulsesApart) pulsesApart ⟨⟨rfl, rfl⟩, ⟨rfl, rfl⟩, ⟨rfl, rfl⟩⟩
    pulsesApart_only (by decide +kernel) (run_after pulsesApart (by decide +kernel))
    (by decide +kernel)

/-- Behind two pulses that overlap a mosfet has the value of the first one. -/
theorem not_everyPulseReturns :
    ¬(∀ c s s' acts, (s.mosfets c).mosfet.Quiet → (∀ step ∈ acts, PulsesOnly c step) →
      Lib.run mosfetStep s acts = some s' → (s'.mosfets c).mosfet.pulseTimer.live = false →
      (s'.mosfets c).mosfet.value = (s.mosfets c).mosfet.value) := by
  intro hback
  have hover := hback 0 ready _ [.command 1 (.pulse 200 100), .command 1 (.pulse 50 100),
    .dispatch 0 .pulse, .callback 0 .pulse 100 true] ⟨⟨rfl, rfl⟩, ⟨rfl, rfl⟩, ⟨rfl, rfl⟩⟩ ?_
    (run_after _ (by decide +kernel)) (by decide +kernel)
  · revert hover
    decide +kernel
  intro step hstep act hact
  have hcases : step.actAt 0 = some act := hact
  simp only [List.mem_cons, List.not_mem_nil, or_false] at hstep
  rcases hstep with rfl | rfl | rfl | rfl <;> cases hcases <;> simp

end HwMosfets

end SceneHub.Node
