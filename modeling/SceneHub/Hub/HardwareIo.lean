import SceneHub.EspErr
import SceneHub.Lib.Callbacks
import SceneHub.Lib.Runs

/-!
# Hardware Outputs

The relays, mosfets and lines of the hub: `hardware_io_relay.c`, `hardware_io_mosfet.c`,
`hardware_io_mosfet_effects.c`, `hardware_io_io.c` and `hardware_io_io_runtime.c`.

A command does its work under the hardware lock, and so does the callback of a timer. What a
command stops may have been dispatched and wait for the lock. A step is what one of them does
under the lock, or a timer that dispatches its callback. How long a timer takes is left open:
its callback may be dispatched whenever it is running.

The outputs are initialised, and the driver takes every value for an output that is enabled, so
the value that is recorded is the one that was written to it. A timer that was stopped can
be started. The polling of inputs writes to no output and is left out. Beside the outputs
it is kept what the commands have asked of each.

## Main definitions

* `Relay`, `Mosfet`, `IoLine`: The outputs and the operations on them.
* `HardwareIo`: All channels, and what was asked of them.
* `hardwareStep`: A command, a timer or a callback.
-/

namespace SceneHub.Hub

open Lib (Callback Track)

/-- The remaining count of an effect goes down, unless it is over or has no end. -/
def countDown (remaining : UInt32) : UInt32 :=
  if 0 < remaining ∧ remaining ≠ 0xFFFFFFFF then remaining - 1 else remaining

/-- The count of an effect that begins. -/
def effectCount (count : UInt32) : UInt32 := if count = 0 then 0xFFFFFFFF else count

/-! ### Relays -/

/-- `hardware_io_relay_t`. -/
structure Relay where
  enabled : Bool
  on : Bool := false
  pulseTimer : Callback := {}
  effectTimer : Callback := {}
  effectActive : Bool := false
  effectOnPhase : Bool := false
  effectRemaining : UInt32 := 0
  effectFinalOn : Bool := false
  deriving DecidableEq, Repr

namespace Relay

/-- `hardware_io_relay_write_locked`. -/
def write (r : Relay) (on : Bool) : Relay × EspErr :=
  if r.enabled then ({ r with on }, .ok) else (r, .invalidState)

def stopPulse (r : Relay) : Relay := { r with pulseTimer := r.pulseTimer.stop }

def stopEffect (r : Relay) : Relay :=
  { r with
    effectTimer := r.effectTimer.stop
    effectActive := false
    effectOnPhase := false
    effectRemaining := 0 }

/-- The timer of the effect is started, unless it is running. -/
def startEffect (r : Relay) : Relay :=
  { r with effectTimer := r.effectTimer.start.getD r.effectTimer }

/-- `hardware_io_relay_pulse_timer`. -/
def pulseCallback (r : Relay) : Relay := (r.write false).1

/-- `hardware_io_relay_effect_timer`. -/
def effectCallback (r : Relay) : Relay :=
  if !r.effectActive then r
  else if r.effectOnPhase then { (r.write false).1 with effectOnPhase := false }.startEffect
  else
    let r := { r with effectRemaining := countDown r.effectRemaining }
    if r.effectRemaining = 0 then ({ r with effectActive := false }.write r.effectFinalOn).1
    else { (r.write true).1 with effectOnPhase := true }.startEffect

/-- `hardware_io_relay_set`. -/
def set (r : Relay) (on : Bool) : Relay × EspErr := r.stopPulse.stopEffect.write on

/-- `hardware_io_relay_toggle`. -/
def toggle (r : Relay) : Relay × EspErr := r.stopPulse.stopEffect.write !r.on

/-- `hardware_io_relay_pulse`. -/
def pulse (r : Relay) (durationMs : UInt32) : Relay × EspErr :=
  if durationMs = 0 then (r, .invalidArg)
  else if !r.enabled then (r, .invalidState)
  else
    let r := (r.stopPulse.stopEffect.write true).1
    match r.pulseTimer.start with
    | some timer => ({ r with pulseTimer := timer }, .ok)
    | none => ((r.write false).1, .invalidState)

/-- `hardware_io_relay_blink`. -/
def blink (r : Relay) (onMs offMs count : UInt32) (finalOn : Bool) : Relay × EspErr :=
  if onMs = 0 ∨ offMs = 0 then (r, .invalidArg)
  else if !r.enabled then (r, .invalidState)
  else
    let r := ({ r.stopPulse.stopEffect with
      effectActive := true
      effectOnPhase := true
      effectRemaining := effectCount count
      effectFinalOn := finalOn }.write true).1
    match r.effectTimer.start with
    | some timer => ({ r with effectTimer := timer }, .ok)
    | none => (({ r with effectActive := false }.write finalOn).1, .invalidState)

/-- The body of the loop of `hardware_io_relay_safe_off_all_locked`. -/
def safeOff (r : Relay) : Relay := if r.enabled then (r.set false).1 else r

end Relay

/-! ### Mosfets -/

inductive EffectMode where
  | none
  | blink
  | breathe
  deriving DecidableEq, Repr

structure MosfetEffect where
  timer : Callback := {}
  active : Bool := false
  mode : EffectMode := .none
  value : UInt8 := 0
  minValue : UInt8 := 0
  maxValue : UInt8 := 0
  finalValue : UInt8 := 0
  onPhase : Bool := false
  holdPhase : Bool := false
  fadeMs : UInt32 := 0
  holdMs : UInt32 := 0
  remaining : UInt32 := 0
  phaseStartedMs : UInt64 := 0
  deriving DecidableEq, Repr

/-- `mosfet_effect_clear_locked`. -/
def MosfetEffect.clear (e : MosfetEffect) : MosfetEffect :=
  { e with
    timer := e.timer.stop
    active := false
    mode := .none
    remaining := 0
    onPhase := false
    holdPhase := false }

/-- The timer of the effect is started, unless it is running. -/
def MosfetEffect.start (e : MosfetEffect) : MosfetEffect :=
  { e with timer := e.timer.start.getD e.timer }

/-- A value on the way from one to another, in the 32 bit arithmetic of the source. -/
def ramp (start finish : UInt8) (elapsedMs : UInt64) (durationMs : UInt32) : UInt8 :=
  let start := start.toUInt32.toInt32
  let finish := finish.toUInt32.toInt32
  (start + (finish - start) * elapsedMs.toUInt32.toInt32 / durationMs.toInt32).toUInt32.toUInt8

/-- `hardware_io_mosfet_t`, with the effect of the channel. -/
structure Mosfet where
  enabled : Bool
  value : UInt8 := 0
  pulseRestoreValue : UInt8 := 0
  fadeFrom : UInt8 := 0
  fadeTarget : UInt8 := 0
  fadeDurationMs : UInt32 := 0
  fadeStartedMs : UInt64 := 0
  pulseTimer : Callback := {}
  fadeTimer : Callback := {}
  effect : MosfetEffect := {}
  deriving DecidableEq, Repr

namespace Mosfet

/-- `hardware_io_mosfet_write_locked`. -/
def write (m : Mosfet) (value : UInt8) : Mosfet × EspErr :=
  if m.enabled then ({ m with value }, .ok) else (m, .invalidState)

/-- The timers of the channel are stopped, and its effect is cancelled. -/
def stopAll (m : Mosfet) : Mosfet :=
  { m with
    pulseTimer := m.pulseTimer.stop
    fadeTimer := m.fadeTimer.stop
    effect := m.effect.clear }

/-- `hardware_io_mosfet_pulse_timer`. -/
def pulseCallback (m : Mosfet) : Mosfet := (m.write m.pulseRestoreValue).1

/-- A fade is over. -/
def faded (m : Mosfet) (now : UInt64) : Bool :=
  m.fadeDurationMs.toUInt64 ≤ now - m.fadeStartedMs || m.fadeDurationMs = 0

/-- What the callback of a fade writes. -/
def fadeValue (m : Mosfet) (now : UInt64) : UInt8 :=
  if m.faded now then m.fadeTarget
  else ramp m.fadeFrom m.fadeTarget (now - m.fadeStartedMs) m.fadeDurationMs

/-- `hardware_io_mosfet_fade_timer`. -/
def fadeCallback (m : Mosfet) (now : UInt64) : Mosfet :=
  let faded := m.faded now
  let m := (m.write (m.fadeValue now)).1
  if faded then { m with fadeTimer := m.fadeTimer.stop } else m

/-- The blink part of `mosfet_effect_timer`. -/
def blinkCallback (m : Mosfet) : Mosfet :=
  if m.effect.onPhase then
    let m := (m.write 0).1
    { m with effect := { m.effect with onPhase := false }.start }
  else
    let remaining := countDown m.effect.remaining
    if remaining = 0 then
      let effect := { m.effect with remaining, active := false, mode := .none }
      ({ m with effect }.write m.effect.finalValue).1
    else
      let m := (m.write m.effect.value).1
      { m with effect := { m.effect with remaining, onPhase := true }.start }

/-- The other part of `mosfet_effect_timer`. -/
def breatheCallback (m : Mosfet) (now : UInt64) : Mosfet :=
  let e := m.effect
  let elapsed := now - e.phaseStartedMs
  if !e.holdPhase ∧ elapsed < e.fadeMs.toUInt64 then
    (m.write (if e.onPhase then ramp e.minValue e.maxValue elapsed e.fadeMs
      else ramp e.maxValue e.minValue elapsed e.fadeMs)).1
  else if !e.holdPhase then
    let m := (m.write (if e.onPhase then e.maxValue else e.minValue)).1
    { m with effect := { e with holdPhase := true, phaseStartedMs := now } }
  else if elapsed < e.holdMs.toUInt64 then m
  else
    let remaining := if e.onPhase then e.remaining else countDown e.remaining
    if !e.onPhase ∧ remaining = 0 then
      ({ m with effect := { e with remaining, active := false, mode := .none } }.write
        e.finalValue).1
    else
      { m with effect := { e with
          remaining
          onPhase := !e.onPhase
          holdPhase := false
          phaseStartedMs := now } }

/-- `mosfet_effect_timer`. -/
def effectCallback (m : Mosfet) (now : UInt64) : Mosfet :=
  if !m.effect.active then m
  else if m.effect.mode = .blink then m.blinkCallback
  else m.breatheCallback now

/-- `hardware_io_mosfet_set`. -/
def set (m : Mosfet) (value : UInt8) : Mosfet × EspErr := m.stopAll.write value

/-- `hardware_io_mosfet_fade`. -/
def fade (m : Mosfet) (target : UInt8) (durationMs : UInt32) (now : UInt64) : Mosfet × EspErr :=
  if durationMs = 0 then m.set target
  else if !m.enabled then (m, .invalidState)
  else
    let m := { m.stopAll with
      fadeFrom := m.value
      fadeTarget := target
      fadeDurationMs := durationMs
      fadeStartedMs := now }
    match m.fadeTimer.start with
    | some timer => ({ m with fadeTimer := timer }, .ok)
    | none => (m, .invalidState)

/-- `hardware_io_mosfet_pulse`. -/
def pulse (m : Mosfet) (value : UInt8) (durationMs : UInt32) : Mosfet × EspErr :=
  if durationMs = 0 then (m, .invalidArg)
  else if !m.enabled then (m, .invalidState)
  else
    let m := ({ m.stopAll with pulseRestoreValue := m.value }.write value).1
    match m.pulseTimer.start with
    | some timer => ({ m with pulseTimer := timer }, .ok)
    | none => ((m.write m.pulseRestoreValue).1, .invalidState)

/-- The end of `hardware_io_mosfet_effect_blink` and `hardware_io_mosfet_effect_breathe`: the effect
    begins with a value. -/
def begin (m : Mosfet) (effect : MosfetEffect) (value finalValue : UInt8) : Mosfet × EspErr :=
  let m := ({ m with effect }.write value).1
  match m.effect.timer.start with
  | some timer => ({ m with effect := { m.effect with timer } }, .ok)
  | none => (({ m with effect := m.effect.clear }.write finalValue).1, .invalidState)

/-- `hardware_io_mosfet_effect_blink`. -/
def blink (m : Mosfet) (value : UInt8) (onMs offMs count : UInt32) (finalValue : UInt8) :
    Mosfet × EspErr :=
  if onMs = 0 ∨ offMs = 0 then (m, .invalidArg)
  else if !m.enabled then (m, .invalidState)
  else m.stopAll.begin { m.effect.clear with
      active := true
      mode := .blink
      value
      finalValue
      onPhase := true
      remaining := effectCount count } value finalValue

/-- `hardware_io_mosfet_effect_breathe`. -/
def breathe (m : Mosfet) (minValue maxValue : UInt8) (fadeMs holdMs count : UInt32)
    (finalValue : UInt8) (now : UInt64) : Mosfet × EspErr :=
  if fadeMs = 0 ∨ maxValue < minValue then (m, .invalidArg)
  else if !m.enabled then (m, .invalidState)
  else m.stopAll.begin { m.effect.clear with
      active := true
      mode := .breathe
      minValue
      maxValue
      finalValue
      fadeMs
      holdMs
      remaining := effectCount count
      onPhase := true
      holdPhase := false
      phaseStartedMs := now } minValue finalValue

/-- The body of the loop of `hardware_io_mosfet_safe_off_all_locked`. -/
def safeOff (m : Mosfet) : Mosfet := if m.enabled then (m.set 0).1 else m

end Mosfet

/-! ### Lines -/

inductive IoMode where
  | disabled
  | input
  | output
  deriving DecidableEq, Repr

/-- What the pin of a line can be used for. -/
inductive IoPin where
  | absent
  | inputOnly
  | inputOutput
  deriving DecidableEq, Repr

/-- `hardware_io_io_t`, but for the fields of the polling. -/
structure IoLine where
  pin : IoPin
  activeLow : Bool
  mode : IoMode := .disabled
  enabled : Bool := false
  active : Bool := false
  pulseTimer : Callback := {}
  effectTimer : Callback := {}
  pulseActive : Bool := false
  pulseRestoreActive : Bool := false
  effectActive : Bool := false
  effectOnPhase : Bool := false
  effectRemaining : UInt32 := 0
  effectFinalActive : Bool := false
  deriving DecidableEq, Repr

namespace IoLine

def isOutput (l : IoLine) : Bool := l.enabled && l.mode = .output

/-- `hardware_io_io_write_locked`. -/
def write (l : IoLine) (active : Bool) : IoLine × EspErr :=
  if l.isOutput then ({ l with active }, .ok) else (l, .invalidState)

def stopPulse (l : IoLine) : IoLine :=
  { l with pulseTimer := l.pulseTimer.stop, pulseActive := false }

def stopEffect (l : IoLine) : IoLine :=
  { l with
    effectTimer := l.effectTimer.stop
    effectActive := false
    effectOnPhase := false
    effectRemaining := 0 }

/-- The timer of the effect is started, unless it is running. -/
def startEffect (l : IoLine) : IoLine :=
  { l with effectTimer := l.effectTimer.start.getD l.effectTimer }

/-- `io_pulse_timer`. -/
def pulseCallback (l : IoLine) : IoLine :=
  ({ l with pulseActive := false }.write l.pulseRestoreActive).1

/-- `io_effect_timer`. -/
def effectCallback (l : IoLine) : IoLine :=
  if !l.effectActive then l
  else if l.effectOnPhase then { (l.write false).1 with effectOnPhase := false }.startEffect
  else
    let l := { l with effectRemaining := countDown l.effectRemaining }
    if l.effectRemaining = 0 then ({ l with effectActive := false }.write l.effectFinalActive).1
    else { (l.write true).1 with effectOnPhase := true }.startEffect

def set (l : IoLine) (active : Bool) : IoLine × EspErr := l.stopPulse.stopEffect.write active

def toggle (l : IoLine) : IoLine × EspErr := l.stopPulse.stopEffect.write !l.active

def pulse (l : IoLine) (active : Bool) (durationMs : UInt32) : IoLine × EspErr :=
  if durationMs = 0 then (l, .invalidArg)
  else if !l.isOutput then (l, .invalidState)
  else
    let l := ({ l.stopPulse.stopEffect with pulseRestoreActive := l.active }.write active).1
    match l.pulseTimer.start with
    | some timer => ({ l with pulseActive := true, pulseTimer := timer }, .ok)
    | none => ((l.write l.pulseRestoreActive).1, .invalidState)

def blink (l : IoLine) (onMs offMs count : UInt32) (finalActive : Bool) : IoLine × EspErr :=
  if onMs = 0 ∨ offMs = 0 then (l, .invalidArg)
  else if !l.isOutput then (l, .invalidState)
  else
    let l := ({ l.stopPulse.stopEffect with
      effectActive := true
      effectOnPhase := true
      effectRemaining := effectCount count
      effectFinalActive := finalActive }.write true).1
    match l.effectTimer.start with
    | some timer => ({ l with effectTimer := timer }, .ok)
    | none => (({ l with effectActive := false }.write finalActive).1, .invalidState)

/-- `io_configure_channel_locked`. The level that is read from an input comes from outside. -/
def setMode (l : IoLine) (mode : IoMode) (high : Bool) : IoLine × EspErr :=
  let stopped := l.stopPulse.stopEffect
  let off := if stopped.isOutput then (stopped.write false).1 else stopped
  let l : IoLine := { off with mode }
  match mode with
  | .disabled => ({ l with enabled := false, active := false }, .ok)
  | .output =>
    if l.pin = .inputOutput then ({ l with enabled := true, active := false }, .ok)
    else ({ l with enabled := false }, .invalidArg)
  | .input =>
    if l.pin = .absent then ({ l with enabled := false }, .invalidArg)
    else ({ l with enabled := true, active := if l.activeLow then !high else high }, .ok)

/-- The body of the loop of `hardware_io_io_safe_off_all_locked`. -/
def safeOff (l : IoLine) : IoLine := if l.isOutput then (l.set false).1 else l

end IoLine

/-! ### All channels -/

/-- `HARDWARE_IO_RELAY_CHANNEL_COUNT`, and those of the mosfets and lines. -/
abbrev channelCount : Nat := 4

/-- A channel that is valid, from 0. -/
def channelIndex (channel : UInt8) : Option (Fin channelCount) :=
  if h : 1 ≤ channel.toNat ∧ channel.toNat ≤ channelCount then some ⟨channel.toNat - 1, by omega⟩
  else none

inductive RelayCommand where
  | set (on : Bool)
  | toggle
  | pulse (durationMs : UInt32)
  | blink (onMs offMs count : UInt32) (finalOn : Bool)
  deriving DecidableEq, Repr

inductive MosfetCommand where
  | set (value : UInt8)
  | fade (target : UInt8) (durationMs : UInt32)
  | pulse (value : UInt8) (durationMs : UInt32)
  | blink (value : UInt8) (onMs offMs count : UInt32) (finalValue : UInt8)
  | breathe (minValue maxValue : UInt8) (fadeMs holdMs count : UInt32) (finalValue : UInt8)
  deriving DecidableEq, Repr

inductive IoCommand where
  | set (active : Bool)
  | toggle
  | pulse (active : Bool) (durationMs : UInt32)
  | blink (onMs offMs count : UInt32) (finalActive : Bool)
  | setMode (mode : IoMode) (high : Bool)
  deriving DecidableEq, Repr

inductive HwTimer where
  | pulse
  | fade
  | effect
  deriving DecidableEq, Repr

/-- A command that was refused for its arguments has done nothing. One that has failed otherwise
    asks for nothing any more. -/
def asked {V : Type} (t : Track V) (err : EspErr) (commanded : Option V) : Track V :=
  if err = .invalidArg then t else t.command (if err = .ok then commanded else none)

/-- The same for a pulse. -/
def pulsed {V : Type} (t : Track V) (err : EspErr) (before : V) : Track V :=
  if err = .ok then t.pulse before else asked t err none

/-- The channels, and what was asked of them. -/
structure HardwareIo where
  relays : Fin channelCount → Relay
  mosfets : Fin channelCount → Mosfet
  ios : Fin channelCount → IoLine
  relayTracks : Fin channelCount → Track Bool := fun _ => {}
  mosfetTracks : Fin channelCount → Track UInt8 := fun _ => {}
  ioTracks : Fin channelCount → Track Bool := fun _ => {}

namespace HardwareIo

def setRelay (s : HardwareIo) (i : Fin channelCount) (r : Relay) (t : Track Bool) : HardwareIo :=
  { s with
    relays := Function.update s.relays i r
    relayTracks := Function.update s.relayTracks i t }

def setMosfet (s : HardwareIo) (i : Fin channelCount) (m : Mosfet) (t : Track UInt8) : HardwareIo :=
  { s with
    mosfets := Function.update s.mosfets i m
    mosfetTracks := Function.update s.mosfetTracks i t }

def setIo (s : HardwareIo) (i : Fin channelCount) (l : IoLine) (t : Track Bool) : HardwareIo :=
  { s with
    ios := Function.update s.ios i l
    ioTracks := Function.update s.ioTracks i t }

end HardwareIo

def Relay.command (r : Relay) (t : Track Bool) : RelayCommand → Relay × Track Bool
  | .set on => ((r.set on).1, asked t (r.set on).2 (some on))
  | .toggle => (r.toggle.1, asked t r.toggle.2 none)
  | .pulse durationMs => ((r.pulse durationMs).1, asked t (r.pulse durationMs).2 none)
  | .blink onMs offMs count finalOn =>
    ((r.blink onMs offMs count finalOn).1, asked t (r.blink onMs offMs count finalOn).2 none)

/-- A command to a mosfet. A fade that takes no time is a set. -/
def Mosfet.command (m : Mosfet) (t : Track UInt8) (now : UInt64) :
    MosfetCommand → Mosfet × Track UInt8
  | .set value => ((m.set value).1, asked t (m.set value).2 (some value))
  | .fade target durationMs =>
    ((m.fade target durationMs now).1, asked t (m.fade target durationMs now).2
      (if durationMs = 0 then some target else none))
  | .pulse value durationMs =>
    ((m.pulse value durationMs).1, pulsed t (m.pulse value durationMs).2 m.value)
  | .blink value onMs offMs count finalValue =>
    ((m.blink value onMs offMs count finalValue).1,
      asked t (m.blink value onMs offMs count finalValue).2 none)
  | .breathe minValue maxValue fadeMs holdMs count finalValue =>
    ((m.breathe minValue maxValue fadeMs holdMs count finalValue now).1,
      asked t (m.breathe minValue maxValue fadeMs holdMs count finalValue now).2 none)

/-- A command to a line. One that sets the mode has done something whatever it returns. -/
def IoLine.command (l : IoLine) (t : Track Bool) : IoCommand → IoLine × Track Bool
  | .set active => ((l.set active).1, asked t (l.set active).2 (some active))
  | .toggle => (l.toggle.1, asked t l.toggle.2 none)
  | .pulse active durationMs =>
    ((l.pulse active durationMs).1, pulsed t (l.pulse active durationMs).2 l.active)
  | .blink onMs offMs count finalActive =>
    ((l.blink onMs offMs count finalActive).1,
      asked t (l.blink onMs offMs count finalActive).2 none)
  | .setMode mode high => ((l.setMode mode high).1, t.command none)

/-- Every relay that is enabled is switched off, and so are the mosfets and lines. -/
def Relay.off (r : Relay) (t : Track Bool) : Relay × Track Bool :=
  (r.safeOff, if r.enabled then t.command (some false) else t)

def Mosfet.off (m : Mosfet) (t : Track UInt8) : Mosfet × Track UInt8 :=
  (m.safeOff, if m.enabled then t.command (some 0) else t)

def IoLine.off (l : IoLine) (t : Track Bool) : IoLine × Track Bool :=
  (l.safeOff, if l.isOutput then t.command (some false) else t)

/-- The time of a timer of a relay is over. -/
def Relay.dispatch (r : Relay) : HwTimer → Option Relay
  | .pulse => (r.pulseTimer.dispatch false).map fun pulseTimer => { r with pulseTimer }
  | .effect => (r.effectTimer.dispatch false).map fun effectTimer => { r with effectTimer }
  | .fade => none

/-- The timer of a fade is periodic, and so is that of a breathing. -/
def Mosfet.dispatch (m : Mosfet) : HwTimer → Option Mosfet
  | .pulse => (m.pulseTimer.dispatch false).map fun pulseTimer => { m with pulseTimer }
  | .fade => (m.fadeTimer.dispatch true).map fun fadeTimer => { m with fadeTimer }
  | .effect => (m.effect.timer.dispatch (m.effect.mode = .breathe)).map fun timer =>
    { m with effect := { m.effect with timer } }

def IoLine.dispatch (l : IoLine) : HwTimer → Option IoLine
  | .pulse => (l.pulseTimer.dispatch false).map fun pulseTimer => { l with pulseTimer }
  | .effect => (l.effectTimer.dispatch false).map fun effectTimer => { l with effectTimer }
  | .fade => none

/-- A callback of a relay gets the lock. -/
def Relay.callback (r : Relay) (t : Track Bool) : HwTimer → Option (Relay × Track Bool)
  | .pulse =>
    if r.pulseTimer.waiting then
      let next := { r with pulseTimer := r.pulseTimer.take }.pulseCallback
      some (next, if r.pulseTimer.late then t.late (next.on ≠ r.on) else t)
    else none
  | .effect =>
    if r.effectTimer.waiting then
      some ({ r with effectTimer := r.effectTimer.take }.effectCallback, t)
    else none
  | .fade => none

/-- A callback of a mosfet gets the lock. A pulse that ends in time is the last of its row. -/
def Mosfet.callback (m : Mosfet) (t : Track UInt8) (now : UInt64) :
    HwTimer → Option (Mosfet × Track UInt8)
  | .pulse =>
    if m.pulseTimer.waiting then
      let next := { m with pulseTimer := m.pulseTimer.take }.pulseCallback
      some (next, if m.pulseTimer.late then t.late (next.value ≠ m.value) else t.finish)
    else none
  | .fade =>
    if m.fadeTimer.waiting then
      some ({ m with fadeTimer := m.fadeTimer.take }.fadeCallback now, t)
    else none
  | .effect =>
    if m.effect.timer.waiting then
      let taken := { m with effect := { m.effect with timer := m.effect.timer.take } }
      some (taken.effectCallback now, t)
    else none

/-- A callback of a line gets the lock. -/
def IoLine.callback (l : IoLine) (t : Track Bool) : HwTimer → Option (IoLine × Track Bool)
  | .pulse =>
    if l.pulseTimer.waiting then
      let next := { l with pulseTimer := l.pulseTimer.take }.pulseCallback
      some (next, if l.pulseTimer.late then t.late (next.active ≠ l.active) else t.finish)
    else none
  | .effect =>
    if l.effectTimer.waiting then
      some ({ l with effectTimer := l.effectTimer.take }.effectCallback, t)
    else none
  | .fade => none

/-- A command to a channel or to all, or what a timer and its callback do. -/
inductive HardwareStep where
  | relay (channel : UInt8) (command : RelayCommand)
  | mosfet (channel : UInt8) (command : MosfetCommand) (now : UInt64)
  | io (channel : UInt8) (command : IoCommand)
  | mosfetAllOff
  | safeOffAll
  | relayDispatch (i : Fin channelCount) (timer : HwTimer)
  | mosfetDispatch (i : Fin channelCount) (timer : HwTimer)
  | ioDispatch (i : Fin channelCount) (timer : HwTimer)
  | relayCallback (i : Fin channelCount) (timer : HwTimer)
  | mosfetCallback (i : Fin channelCount) (timer : HwTimer) (now : UInt64)
  | ioCallback (i : Fin channelCount) (timer : HwTimer)
  deriving DecidableEq, Repr

namespace HardwareIo

def mosfetAllOff (s : HardwareIo) : HardwareIo :=
  { s with
    mosfets := fun i => ((s.mosfets i).off (s.mosfetTracks i)).1
    mosfetTracks := fun i => ((s.mosfets i).off (s.mosfetTracks i)).2 }

def safeOffAll (s : HardwareIo) : HardwareIo :=
  { s.mosfetAllOff with
    relays := fun i => ((s.relays i).off (s.relayTracks i)).1
    relayTracks := fun i => ((s.relays i).off (s.relayTracks i)).2
    ios := fun i => ((s.ios i).off (s.ioTracks i)).1
    ioTracks := fun i => ((s.ios i).off (s.ioTracks i)).2 }

/-- Behind `hardware_io_init`, with any channels that are there. -/
def atStart (relays mosfets : Fin channelCount → Bool) (ios : Fin channelCount → IoLine) :
    HardwareIo :=
  { relays := fun i => { enabled := relays i }
    mosfets := fun i => { enabled := mosfets i }
    ios := fun i => { pin := (ios i).pin, activeLow := (ios i).activeLow, mode := (ios i).mode
                      enabled := (ios i).enabled, active := (ios i).active } }

end HardwareIo

def hardwareStep (s : HardwareIo) : HardwareStep → Option HardwareIo
  | .relay channel command => (channelIndex channel).map fun i =>
    let r := (s.relays i).command (s.relayTracks i) command
    s.setRelay i r.1 r.2
  | .mosfet channel command now => (channelIndex channel).map fun i =>
    let m := (s.mosfets i).command (s.mosfetTracks i) now command
    s.setMosfet i m.1 m.2
  | .io channel command => (channelIndex channel).map fun i =>
    let l := (s.ios i).command (s.ioTracks i) command
    s.setIo i l.1 l.2
  | .mosfetAllOff => some s.mosfetAllOff
  | .safeOffAll => some s.safeOffAll
  | .relayDispatch i timer => ((s.relays i).dispatch timer).map fun r =>
    s.setRelay i r (s.relayTracks i)
  | .mosfetDispatch i timer => ((s.mosfets i).dispatch timer).map fun m =>
    s.setMosfet i m (s.mosfetTracks i)
  | .ioDispatch i timer => ((s.ios i).dispatch timer).map fun l => s.setIo i l (s.ioTracks i)
  | .relayCallback i timer => ((s.relays i).callback (s.relayTracks i) timer).map fun r =>
    s.setRelay i r.1 r.2
  | .mosfetCallback i timer now =>
    ((s.mosfets i).callback (s.mosfetTracks i) now timer).map fun m => s.setMosfet i m.1 m.2
  | .ioCallback i timer => ((s.ios i).callback (s.ioTracks i) timer).map fun l =>
    s.setIo i l.1 l.2

end SceneHub.Hub
