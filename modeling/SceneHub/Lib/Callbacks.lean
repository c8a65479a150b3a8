import Mathlib.Tactic.Common

/-!
# Late Callbacks

A timer that is stopped does not take back a callback it has dispatched. The callback waits
for a lock, and by the time it has it, the command that stopped the timer has done its work.
Such a callback is late.

What commands and callbacks write to an output is kept track of: the value that a command has
set it to until the next one; the value that a row of pulses began with; and whether a late
callback has ended something. An output fits its track if the values are right as long as
nothing is left that may write to it.

## Main definitions

* `Callback`: A timer with the callback it may have dispatched.
* `Callback.live`: The callback may still come in time.
* `Track`: What the commands have asked of an output.
* `Track.Obeyed`: The output is as they have asked.
* `Track.Fits`: It is, and nothing that is left will change that.

## Theorems

* `Callback.live_stop`, `Callback.live_dispatch`: What the operations do to a callback.
* `Track.Fits.command`, `Track.Fits.pulse`, `Track.Fits.finish`, `Track.Fits.late`: What they do
  to a track.
-/

namespace SceneHub.Lib

/-- A timer may be running, and its callback may wait for a lock. Whether the timer was stopped
    since the callback was dispatched is kept beside. -/
structure Callback where
  running : Bool := false
  waiting : Bool := false
  late : Bool := false
  deriving DecidableEq, Repr

namespace Callback

variable {c c' : Callback}

def stop (c : Callback) : Callback := { c with running := false, late := c.late || c.waiting }

/-- A timer that is running is not started again. -/
def start (c : Callback) : Option Callback :=
  if c.running then none else some { c with running := true }

/-- The time of a timer is over, and its callback is dispatched. -/
def dispatch (c : Callback) (periodic : Bool) : Option Callback :=
  if c.running && !c.waiting then some { running := periodic, waiting := true, late := false }
  else none

/-- The callback has the lock. -/
def take (c : Callback) : Callback := { c with waiting := false }

/-- The callback may still come in time. -/
def live (c : Callback) : Bool := c.running || c.waiting && !c.late

theorem live_stop (c : Callback) : c.stop.live = false := by
  unfold live stop
  cases c.waiting <;> simp

theorem live_dispatch {periodic : Bool} (h : c.dispatch periodic = some c') :
    c'.live = true ∧ c.live = true := by
  unfold dispatch at h
  split at h
  · next hrunning =>
      cases h
      unfold live
      rw [Bool.and_eq_true] at hrunning
      rw [hrunning.1]
      exact ⟨by cases periodic <;> rfl, rfl⟩
  · cases h

/-- The callback of a timer that is not running is the only one. -/
theorem live_take (hrunning : c.running = false) : c.take.live = false := by
  unfold live take
  rw [hrunning]
  rfl

theorem live_of_take (h : c.take.live = true) : c.live = true := by
  unfold live take at h
  unfold live
  rw [Bool.false_and, Bool.or_false] at h
  rw [h, Bool.true_or]

theorem live_of_waiting (hwaiting : c.waiting = true) (hlate : c.late = false) : c.live = true := by
  unfold live
  rw [hwaiting, hlate]
  exact Bool.or_true _

/-- A callback that waits in time is the last one of its timer. -/
def Once (c : Callback) : Prop := c.waiting = true → c.late = false → c.running = false

theorem once_stop (c : Callback) : c.stop.Once := fun _ _ => rfl

/-- What waits when a timer is started again is late. -/
theorem once_restart (c : Callback) : Once { c.stop with running := true } := by
  intro hwaiting hlate
  unfold stop at hwaiting hlate
  rw [hwaiting, Bool.or_true] at hlate
  cases hlate

theorem once_dispatch (h : c.dispatch false = some c') : c'.Once := by
  unfold dispatch at h
  split at h
  · cases h
    exact fun _ _ => rfl
  · cases h

theorem once_take (c : Callback) : c.take.Once := nofun

end Callback

/-- A row of pulses, each of which begins before the last one has ended: the value in front of the
    first one, while they go on and behind the last. -/
inductive Pulses (V : Type) where
  | none
  | going (home : V)
  | ended (home : V)
  deriving DecidableEq, Repr

/-- What the commands have asked of an output, and whether a late callback has undone some of
    it. -/
structure Track (V : Type) where
  held : Option V := none
  pulses : Pulses V := .none
  spoiled : Bool := false
  deriving DecidableEq, Repr

namespace Track

variable {V : Type} {t : Track V} {value restore value' restore' : V} {live live' : Prop}

/-- A command that sets the output to a value, or one that does something else. -/
def command (t : Track V) (commanded : Option V) : Track V :=
  { t with held := commanded, pulses := .none }

/-- A pulse. -/
def pulse (t : Track V) (before : V) : Track V :=
  { t with
    held := none
    pulses := match t.pulses with
      | .going home => .going home
      | _ => .going before }

/-- The last pulse has ended. -/
def finish (t : Track V) : Track V :=
  { t with
    pulses := match t.pulses with
      | .going home => .ended home
      | other => other }

theorem finish_pulses (t : Track V) (home : V) : t.finish.pulses ≠ .going home := by
  unfold finish
  cases t.pulses <;> exact nofun

/-- A late callback has changed the output, or has left it as it was. -/
def late (t : Track V) (changed : Bool) : Track V := { t with spoiled := t.spoiled || changed }

/-- A command has set the output to a value, or the last of a row of pulses has ended. -/
def settled (t : Track V) : Bool :=
  t.held.isSome || match t.pulses with
    | .ended _ => true
    | _ => false

/-- The output is as the commands have asked: it has the value that was set, or the one in front
    of the pulses that have ended, and while they go on their end will come. -/
structure Obeyed (t : Track V) (value : V) (ending : Prop) : Prop where
  held : ∀ v, t.held = some v → value = v
  returned : ∀ home, t.pulses = .ended home → value = home
  ending : ∀ home, t.pulses = .going home → ending
  unspoiled : t.spoiled = false

/-- An output that has a value, that pulses restore to another, and to which something may still
    write. -/
structure Fits (t : Track V) (value restore : V) (live : Prop) : Prop where
  held : ∀ v, t.held = some v → value = v ∧ ¬live
  going : ∀ home, t.pulses = .going home → restore = home
  ended : ∀ home, t.pulses = .ended home → value = home ∧ ¬live
  unspoiled : t.spoiled = false

section

variable (h : t.Fits value restore live)
include h

/-- Nothing is settled as long as something may still write to the output. -/
theorem Fits.unsettled (hlive : live) : t.settled = false := by
  unfold settled
  cases hheld : t.held with
  | some v => exact absurd hlive (h.held v hheld).2
  | none =>
    cases hpulses : t.pulses with
    | ended home => exact absurd hlive (h.ended home hpulses).2
    | none | going _ => rfl

/-- As long as nothing is settled, anything may be written. -/
theorem Fits.write (hfree : t.settled = false) (value' : V) : t.Fits value' restore live' where
  held := fun v hv => by
    rw [settled, hv] at hfree
    cases hfree
  going := h.going
  ended := fun home hhome => by
    rw [settled, hhome, Bool.or_true] at hfree
    cases hfree
  unspoiled := h.unspoiled

/-- Less is left to be written. -/
theorem Fits.weaken (himp : live' → live) : t.Fits value restore live' where
  held := fun v hv => ⟨(h.held v hv).1, fun hlive => (h.held v hv).2 (himp hlive)⟩
  going := h.going
  ended := fun home hhome =>
    ⟨(h.ended home hhome).1, fun hlive => (h.ended home hhome).2 (himp hlive)⟩
  unspoiled := h.unspoiled

theorem Fits.command {commanded : Option V} (hset : ∀ v, commanded = some v → value' = v ∧ ¬live') :
    (t.command commanded).Fits value' restore' live' where
  held := hset
  going := nofun
  ended := nofun
  unspoiled := h.unspoiled

/-- A pulse begins. If it follows another one that has not ended, the output is where that one
    would go. -/
theorem Fits.pulse (hhome : ∀ home, t.pulses = .going home → value = restore) :
    (t.pulse value).Fits value' value live' where
  held := nofun
  going := fun home hgoing => by
    unfold Track.pulse at hgoing
    cases hpulses : t.pulses with
    | going first =>
      simp only [hpulses] at hgoing
      cases hgoing
      rw [hhome home hpulses]
      exact h.going home hpulses
    | none | ended _ =>
      simp only [hpulses] at hgoing
      cases hgoing
      rfl
  ended := fun home hended => by
    unfold Track.pulse at hended
    cases hpulses : t.pulses with
    | _ =>
      simp only [hpulses] at hended
      cases hended
  unspoiled := h.unspoiled

/-- A pulse ends in time, and nothing is left to write to the output. -/
theorem Fits.finish (hlive : live) (hquiet : ¬live') : t.finish.Fits restore restore live' where
  held := fun v hv => absurd hlive (h.held v hv).2
  going := fun home hgoing => absurd hgoing (t.finish_pulses home)
  ended := fun home hended => by
    unfold Track.finish at hended
    cases hpulses : t.pulses with
    | going first =>
      simp only [hpulses] at hended
      cases hended
      exact ⟨h.going home hpulses, hquiet⟩
    | ended last => exact absurd hlive (h.ended last hpulses).2
    | none =>
      simp only [hpulses] at hended
      cases hended
  unspoiled := h.unspoiled

theorem Fits.obeyed {ending : Prop}
    (hending : ∀ home, t.pulses = .going home → ending) : t.Obeyed value ending where
  held := fun v hv => (h.held v hv).1
  returned := fun home hhome => (h.ended home hhome).1
  ending := hending
  unspoiled := h.unspoiled

/-- A late callback leaves the output as it was. -/
theorem Fits.late {changed : Bool} (hsame : changed = false) :
    (t.late changed).Fits value restore live where
  held := h.held
  going := h.going
  ended := h.ended
  unspoiled := by
    unfold Track.late
    rw [hsame, h.unspoiled]
    rfl

end

end Track

end SceneHub.Lib
