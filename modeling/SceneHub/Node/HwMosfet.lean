import SceneHub.EspErr
import SceneHub.Lib.Callbacks
import SceneHub.Lib.Runs

/-!
# The Mosfets of a Node

The PWM outputs of `node_hw_mosfet.c`. A command does its work under the lock of the mosfets, and
so does the callback of a timer. What a command stops may have been dispatched and wait for the
lock, or give up after 20 ms. How long a timer takes is left open: its callback may be dispatched
whenever the timer is running. A command that does not get the lock does nothing, and is no step.
A callback reads the clock once.

Every mosfet writes its duty to an LEDC channel, and several of them may have the same one. While
it is worked on, a mosfet holds the duty of its LEDC channel. The LEDC driver takes every duty.
Beside the outputs it is kept which value a mosfet was set to since its last command.

## Main definitions

* `HwMosfet`: A mosfet, and the commands and callbacks.
* `ledcChannel`: The LEDC channel of a mosfet.
* `HwMosfets`: All mosfets, the duties of the LEDC channels, and what was set.
* `mosfetStep`: A command, a timer or a callback.
-/

namespace SceneHub.Node

open Lib (Callback)

inductive HwMosfetEffectMode where
  | none
  | blink
  | breathe
  | brokenFluorescent
  deriving DecidableEq

structure HwMosfetEffect where
  timer : Callback := {}
  active : Bool := false
  mode : HwMosfetEffectMode := .none
  value : UInt8 := 0
  minValue : UInt8 := 0
  maxValue : UInt8 := 0
  finalValue : UInt8 := 0
  onPhase : Bool := false
  holdPhase : Bool := false
  onMs : UInt32 := 0
  offMs : UInt32 := 0
  fadeMs : UInt32 := 0
  holdMs : UInt32 := 0
  remaining : UInt32 := 0
  phaseStartedMs : UInt64 := 0

namespace HwMosfetEffect

/-- `node_hw_mosfet_effect_clear_locked`. -/
def clear (e : HwMosfetEffect) : HwMosfetEffect :=
  { e with
    timer := e.timer.stop
    active := false
    mode := .none
    remaining := 0
    onPhase := false
    holdPhase := false }

/-- The timer of the effect is started, unless it is running. -/
def start (e : HwMosfetEffect) : HwMosfetEffect := { e with timer := e.timer.start.getD e.timer }

/-- One of the remaining cycles is over, unless there is no end to them. -/
def cycled (e : HwMosfetEffect) : UInt32 :=
  if 0 < e.remaining ∧ e.remaining ≠ 0xFFFFFFFF then e.remaining - 1 else e.remaining

end HwMosfetEffect

/-- The cycles of an effect that begins. -/
def cyclesOf (count : UInt32) : UInt32 := if count = 0 then 0xFFFFFFFF else count

/-- The step of a ramp from one value to another, in the 32 bit arithmetic of the source. -/
def rampValue (start finish : UInt8) (elapsedMs : UInt64) (durationMs : UInt32) : Int32 :=
  let start := start.toUInt32.toInt32
  let finish := finish.toUInt32.toInt32
  start + (finish - start) * elapsedMs.toUInt32.toInt32 / durationMs.toInt32

/-- `node_hw_mosfet_t`, with the duty of its LEDC channel. -/
structure HwMosfet where
  configured : Bool
  activeLow : Bool
  duty : UInt8
  value : UInt8 := 0
  pulseRestoreValue : UInt8 := 0
  fadeFrom : UInt8 := 0
  fadeTarget : UInt8 := 0
  fadeDurationMs : UInt32 := 0
  fadeStartedMs : UInt64 := 0
  pulseTimer : Callback := {}
  fadeTimer : Callback := {}
  effect : HwMosfetEffect := {}

inductive HwMosfetTimer where
  | pulse
  | fade
  | effect
  deriving DecidableEq

/-- A command to a mosfet, with the time at which it does its work. -/
inductive HwMosfetCommand where
  | set (value : UInt8)
  | fade (target : UInt8) (durationMs : UInt32) (now : UInt64)
  | pulse (value : UInt8) (durationMs : UInt32)
  | blink (value : UInt8) (onMs offMs count : UInt32) (finalValue : UInt8)
  | breathe (minValue maxValue : UInt8) (fadeMs holdMs count : UInt32) (finalValue : UInt8)
    (now : UInt64)
  | brokenFluorescent (value : UInt8)
  deriving DecidableEq

namespace HwMosfet

def dutyOf (m : HwMosfet) (value : UInt8) : UInt8 := if m.activeLow then 255 - value else value

/-- `node_hw_mosfet_write_locked`. -/
def write (m : HwMosfet) (value : UInt8) : HwMosfet × EspErr :=
  if m.configured then ({ m with duty := m.dutyOf value, value }, .ok) else (m, .notFound)

/-- `node_hw_mosfet_stop_base_timers_locked` and `node_hw_mosfet_effect_cancel_locked`. -/
def stopAll (m : HwMosfet) : HwMosfet :=
  { m with
    pulseTimer := m.pulseTimer.stop
    fadeTimer := m.fadeTimer.stop
    effect := m.effect.clear }

/-- `node_hw_mosfet_pulse_timer`. -/
def pulseCallback (m : HwMosfet) : HwMosfet := (m.write m.pulseRestoreValue).1

/-- A fade is over. -/
def faded (m : HwMosfet) (now : UInt64) : Bool :=
  m.fadeDurationMs.toUInt64 ≤ now - m.fadeStartedMs || m.fadeDurationMs = 0

/-- What the callback of a fade writes. -/
def fadeValue (m : HwMosfet) (now : UInt64) : UInt8 :=
  if m.faded now then m.fadeTarget
  else (rampValue m.fadeFrom m.fadeTarget (now - m.fadeStartedMs) m.fadeDurationMs).toUInt32.toUInt8

/-- `node_hw_mosfet_fade_timer`. -/
def fadeCallback (m : HwMosfet) (now : UInt64) : HwMosfet :=
  let written := (m.write (m.fadeValue now)).1
  if m.faded now then { written with fadeTimer := written.fadeTimer.stop } else written

/-- The blink part of `node_hw_mosfet_effect_timer`. -/
def blinkCallback (m : HwMosfet) : HwMosfet :=
  if m.effect.onPhase then
    let m := (m.write 0).1
    { m with effect := { m.effect with onPhase := false }.start }
  else
    let remaining := m.effect.cycled
    if remaining = 0 then
      let effect := { m.effect with remaining, active := false, mode := .none }
      ({ m with effect }.write m.effect.finalValue).1
    else
      let m := (m.write m.effect.value).1
      { m with effect := { m.effect with remaining, onPhase := true }.start }

/-- The broken fluorescent part. The time until the next callback is random. -/
def brokenFluorescentCallback (m : HwMosfet) : HwMosfet :=
  let onPhase := !m.effect.onPhase
  let m := (m.write (if onPhase then m.effect.value else 0)).1
  { m with effect := { m.effect with onPhase }.start }

/-- A breathing is on the way from one value to the other. -/
def ramping (m : HwMosfet) (now : UInt64) : Bool :=
  !m.effect.holdPhase && now - m.effect.phaseStartedMs < m.effect.fadeMs.toUInt64

/-- The values a breathing goes from and to. -/
def breatheFrom (m : HwMosfet) : UInt8 :=
  if m.effect.onPhase then m.effect.minValue else m.effect.maxValue

def breatheTo (m : HwMosfet) : UInt8 :=
  if m.effect.onPhase then m.effect.maxValue else m.effect.minValue

/-- The other part: a ramp, its end, and the hold behind it. -/
def breatheCallback (m : HwMosfet) (now : UInt64) : HwMosfet :=
  let e := m.effect
  let elapsedMs := now - e.phaseStartedMs
  if m.ramping now then
    (m.write (rampValue m.breatheFrom m.breatheTo elapsedMs e.fadeMs).toUInt32.toUInt8).1
  else if !e.holdPhase then
    { (m.write m.breatheTo).1 with effect := { e with holdPhase := true, phaseStartedMs := now } }
  else if elapsedMs < e.holdMs.toUInt64 then m
  else
    let remaining := if e.onPhase then e.remaining else e.cycled
    if !e.onPhase ∧ remaining = 0 then
      ({ m with effect := { e with remaining, active := false, mode := .none } }.write
        e.finalValue).1
    else
      { m with effect := { e with
          remaining
          onPhase := !e.onPhase
          holdPhase := false
          phaseStartedMs := now } }

/-- `node_hw_mosfet_effect_timer`. -/
def effectCallback (m : HwMosfet) (now : UInt64) : HwMosfet :=
  if !m.effect.active then m
  else match m.effect.mode with
    | .blink => m.blinkCallback
    | .brokenFluorescent => m.brokenFluorescentCallback
    | .none | .breathe => m.breatheCallback now

def set (m : HwMosfet) (value : UInt8) : HwMosfet × EspErr :=
  if !m.configured then (m, .notFound) else m.stopAll.write value

/-- `node_hw_mosfet_fade`. The timers of a mosfet that is configured are there. -/
def fade (m : HwMosfet) (target : UInt8) (durationMs : UInt32) (now : UInt64) : HwMosfet × EspErr :=
  if durationMs = 0 then m.set target
  else if !m.configured then (m, .notFound)
  else
    let m := { m.stopAll with
      fadeFrom := m.value
      fadeTarget := target
      fadeDurationMs := durationMs
      fadeStartedMs := now }
    match m.fadeTimer.start with
    | some timer => ({ m with fadeTimer := timer }, .ok)
    | none => (m, .invalidState)

def pulse (m : HwMosfet) (value : UInt8) (durationMs : UInt32) : HwMosfet × EspErr :=
  if durationMs = 0 then (m, .invalidArg)
  else if !m.configured then (m, .notFound)
  else
    let m := ({ m.stopAll with pulseRestoreValue := m.value }.write value).1
    match m.pulseTimer.start with
    | some timer => ({ m with pulseTimer := timer }, .ok)
    | none => ((m.write m.pulseRestoreValue).1, .invalidState)

/-- The end of `node_hw_mosfet_blink`, `node_hw_mosfet_breathe` and
    `node_hw_mosfet_broken_fluorescent`: the effect begins with a value. -/
def begin (m : HwMosfet) (effect : HwMosfetEffect) (value finalValue : UInt8) : HwMosfet × EspErr :=
  let m := ({ m with effect }.write value).1
  match m.effect.timer.start with
  | some timer => ({ m with effect := { m.effect with timer } }, .ok)
  | none => (({ m with effect := m.effect.clear }.write finalValue).1, .invalidState)

def blink (m : HwMosfet) (value : UInt8) (onMs offMs count : UInt32) (finalValue : UInt8) :
    HwMosfet × EspErr :=
  if onMs = 0 ∨ offMs = 0 then (m, .invalidArg)
  else if !m.configured then (m, .notFound)
  else m.stopAll.begin { m.effect.clear with
      active := true
      mode := .blink
      value
      finalValue
      onPhase := true
      onMs
      offMs
      remaining := cyclesOf count } value finalValue

def breathe (m : HwMosfet) (minValue maxValue : UInt8) (fadeMs holdMs count : UInt32)
    (finalValue : UInt8) (now : UInt64) : HwMosfet × EspErr :=
  if fadeMs = 0 ∨ maxValue < minValue then (m, .invalidArg)
  else if !m.configured then (m, .notFound)
  else m.stopAll.begin { m.effect.clear with
      active := true
      mode := .breathe
      minValue
      maxValue
      finalValue
      fadeMs
      holdMs
      remaining := cyclesOf count
      onPhase := true
      holdPhase := false
      phaseStartedMs := now } minValue finalValue

def brokenFluorescent (m : HwMosfet) (value : UInt8) : HwMosfet × EspErr :=
  if !m.configured then (m, .notFound)
  else m.stopAll.begin { m.effect.clear with
      active := true
      mode := .brokenFluorescent
      value
      onPhase := true } value 0

/-- The body of the loop of `node_hw_mosfet_all_off`. -/
def off (m : HwMosfet) : HwMosfet := if m.configured then (m.set 0).1 else m

def command (m : HwMosfet) : HwMosfetCommand → HwMosfet × EspErr
  | .set value => m.set value
  | .fade target durationMs now => m.fade target durationMs now
  | .pulse value durationMs => m.pulse value durationMs
  | .blink value onMs offMs count finalValue => m.blink value onMs offMs count finalValue
  | .breathe minValue maxValue fadeMs holdMs count finalValue now =>
    m.breathe minValue maxValue fadeMs holdMs count finalValue now
  | .brokenFluorescent value => m.brokenFluorescent value

/-- The time of a timer is over. The timer of a fade is periodic, and so is that of a
    breathing. -/
def dispatch (m : HwMosfet) : HwMosfetTimer → Option HwMosfet
  | .pulse => (m.pulseTimer.dispatch false).map fun pulseTimer => { m with pulseTimer }
  | .fade => (m.fadeTimer.dispatch true).map fun fadeTimer => { m with fadeTimer }
  | .effect => (m.effect.timer.dispatch (m.effect.mode = .breathe)).map fun timer =>
    { m with effect := { m.effect with timer } }

def timer (m : HwMosfet) : HwMosfetTimer → Callback
  | .pulse => m.pulseTimer
  | .fade => m.fadeTimer
  | .effect => m.effect.timer

/-- A callback no longer waits. -/
def take (m : HwMosfet) : HwMosfetTimer → HwMosfet
  | .pulse => { m with pulseTimer := m.pulseTimer.take }
  | .fade => { m with fadeTimer := m.fadeTimer.take }
  | .effect => { m with effect := { m.effect with timer := m.effect.timer.take } }

/-- A callback that waits gets the lock, or gives it up. -/
def callback (m : HwMosfet) (now : UInt64) (locked : Bool) (timer : HwMosfetTimer) :
    Option HwMosfet :=
  if !(m.timer timer).waiting then none
  else if !locked then some (m.take timer)
  else match timer with
    | .pulse => some (m.take .pulse).pulseCallback
    | .fade => some ((m.take .fade).fadeCallback now)
    | .effect => some ((m.take .effect).effectCallback now)

end HwMosfet

/-! ### All mosfets -/

abbrev mosfetMax : Nat := 8

/-- The LEDC channels that mosfets have. -/
abbrev ledcMax : Nat := 4

/-- The initializer of `s_mosfets`: it has values for the first mosfets only. -/
def ledcChannel (i : Fin mosfetMax) : Fin ledcMax := if h : i.val < ledcMax then ⟨i.val, h⟩ else 0

/-- `node_hw_mosfet_channel_valid`, for the place of the channel. -/
def mosfetIndex (channel : UInt8) : Option (Fin mosfetMax) :=
  if h : 1 ≤ channel.toNat ∧ channel.toNat ≤ mosfetMax then some ⟨channel.toNat - 1, by omega⟩
  else none

/-- A mosfet, and the value that it was set to since its last command. -/
structure HeldMosfet where
  mosfet : HwMosfet
  held : Option UInt8 := none

/-- What happens to one mosfet. -/
inductive MosfetAct where
  | command (command : HwMosfetCommand)
  | off
  | dispatch (timer : HwMosfetTimer)
  | callback (timer : HwMosfetTimer) (now : UInt64) (locked : Bool)
  deriving DecidableEq

/-- A set, which may be a fade that takes no time. -/
def HwMosfetCommand.setValue : HwMosfetCommand → Option UInt8
  | .set value => some value
  | .fade target durationMs _ => if durationMs = 0 then some target else none
  | _ => none

namespace HeldMosfet

/-- A command that fails sets nothing, and leaves what was set. -/
def step (v : HeldMosfet) : MosfetAct → Option HeldMosfet
  | .command command =>
    let result := v.mosfet.command command
    some ⟨result.1, if result.2 = .ok then command.setValue else v.held⟩
  | .off => some ⟨v.mosfet.off, if v.mosfet.configured then some 0 else v.held⟩
  | .dispatch timer => (v.mosfet.dispatch timer).map fun mosfet => { v with mosfet }
  | .callback timer now locked =>
    (v.mosfet.callback now locked timer).map fun mosfet => { v with mosfet }

end HeldMosfet

structure HwMosfets where
  mosfets : Fin mosfetMax → HeldMosfet
  duties : Fin ledcMax → UInt8

namespace HwMosfets

/-- A mosfet, with the duty its LEDC channel has now. -/
def load (s : HwMosfets) (i : Fin mosfetMax) : HeldMosfet :=
  { s.mosfets i with mosfet := { (s.mosfets i).mosfet with duty := s.duties (ledcChannel i) } }

def store (s : HwMosfets) (i : Fin mosfetMax) (v : HeldMosfet) : HwMosfets where
  mosfets := Function.update s.mosfets i v
  duties := Function.update s.duties (ledcChannel i) v.mosfet.duty

/-- Something happens to the mosfet of a channel. -/
def stepAt (s : HwMosfets) (i : Fin mosfetMax) (act : MosfetAct) : Option HwMosfets :=
  ((s.load i).step act).map (s.store i)

def allOff (s : HwMosfets) : Option HwMosfets :=
  (List.finRange mosfetMax).foldlM (fun s i => s.stepAt i .off) s

/-- `node_hw_mosfet_init`: the channels that are configured have their LEDC channel set up, one
    after the other. -/
def init (configured activeLow : Fin mosfetMax → Bool) : HwMosfets where
  mosfets := fun i => { mosfet :=
    { configured := configured i, activeLow := activeLow i, duty := 0 } }
  duties := (List.finRange mosfetMax).foldl (fun duties i =>
    if configured i then Function.update duties (ledcChannel i) (if activeLow i then 255 else 0)
    else duties) fun _ => 0

end HwMosfets

/-- A command to a channel or to all, or what a timer and its callback do. -/
inductive MosfetStep where
  | command (channel : UInt8) (command : HwMosfetCommand)
  | allOff
  | dispatch (i : Fin mosfetMax) (timer : HwMosfetTimer)
  | callback (i : Fin mosfetMax) (timer : HwMosfetTimer) (now : UInt64) (locked : Bool)
  deriving DecidableEq

/-- A command to a channel that is not valid does nothing. -/
def mosfetStep (s : HwMosfets) : MosfetStep → Option HwMosfets
  | .command channel command => match mosfetIndex channel with
    | some i => s.stepAt i (.command command)
    | none => some s
  | .allOff => s.allOff
  | .dispatch i timer => s.stepAt i (.dispatch timer)
  | .callback i timer now locked => s.stepAt i (.callback timer now locked)

def MosfetStep.actAt (i : Fin mosfetMax) : MosfetStep → Option MosfetAct
  | .command channel asked => if mosfetIndex channel = some i then some (.command asked) else none
  | .allOff => some .off
  | .dispatch j timer => if j = i then some (.dispatch timer) else none
  | .callback j timer now locked => if j = i then some (.callback timer now locked) else none

end SceneHub.Node
