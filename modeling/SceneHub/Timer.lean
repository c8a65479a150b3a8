import Mathlib.Algebra.Group.Nat.Defs

/-!
# Game Timer

The countdown of a game session, from `gm_timer.c`.

Times are 64-bit millisecond stamps handed in by the caller and only ever
subtracted, so they are naturals; what is left on the clock is a 32-bit value
that the code clamps at both ends.

## Main definitions

* `GmTimer`: The timer record.
* `GmTimer.getRemaining`: What is left on the clock at a time.
* `GmTimer.finish`: Freezing the clock at the end of a game.
* `TimerOp`: The functions of the module, as operations.
-/

namespace SceneHub

inductive TimerState where
  | idle
  | running
  | paused
  | finished
  deriving DecidableEq, Repr

structure GmTimer where
  state : TimerState := .idle
  durationMs : Nat := 0
  remainingMs : Nat := 0
  startedAtMs : Nat := 0
  lastUpdatedMs : Nat := 0
  pausedAtMs : Nat := 0
  deriving DecidableEq, Repr

namespace GmTimer

def clampRemaining (valueMs : Int) : Nat :=
  if valueMs ≤ 0 then 0
  else if valueMs > 4294967295 then 4294967295
  else valueMs.toNat

def getRemaining (timer : GmTimer) (nowMs : Nat) : Nat :=
  if timer.state ≠ .running then timer.remainingMs
  else if nowMs ≤ timer.lastUpdatedMs then timer.remainingMs
  else clampRemaining ((timer.remainingMs : Int) - ((nowMs - timer.lastUpdatedMs : Nat) : Int))

/-- `gm_timer_get_remaining` in its own arithmetic: the time that has passed is cast to a
    signed number of 64 bits. -/
def getRemainingInt64 (timer : GmTimer) (nowMs : Nat) : Nat :=
  if timer.state ≠ .running then timer.remainingMs
  else if nowMs ≤ timer.lastUpdatedMs then timer.remainingMs
  else clampRemaining ((timer.remainingMs : Int) -
    Int.bmod ((nowMs - timer.lastUpdatedMs : Nat) : Int) (2 ^ 64))

def reset (durationMs nowMs : Nat) : GmTimer :=
  { state := .idle, durationMs := durationMs, remainingMs := durationMs, lastUpdatedMs := nowMs }

def start (durationMs nowMs : Nat) : GmTimer :=
  { reset durationMs nowMs with state := .running, startedAtMs := nowMs, lastUpdatedMs := nowMs }

/-- `none` is `ESP_ERR_INVALID_STATE`. -/
def pause (timer : GmTimer) (nowMs : Nat) : Option GmTimer :=
  if timer.state ≠ .running then none
  else some { timer with
    remainingMs := timer.getRemaining nowMs, state := .paused, pausedAtMs := nowMs,
    lastUpdatedMs := nowMs }

/-- `none` is `ESP_ERR_INVALID_STATE`. -/
def resume (timer : GmTimer) (nowMs : Nat) : Option GmTimer :=
  if timer.state ≠ .paused then none
  else some { timer with state := .running, lastUpdatedMs := nowMs, pausedAtMs := 0 }

def finish (timer : GmTimer) (nowMs : Nat) : GmTimer :=
  { timer with
    remainingMs := timer.getRemaining nowMs, state := .finished, lastUpdatedMs := nowMs }

def setRemaining (timer : GmTimer) (remainingMs nowMs : Nat) : GmTimer :=
  { timer with
    remainingMs, state := if remainingMs = 0 then .finished else timer.state,
    lastUpdatedMs := nowMs }

def addTime (timer : GmTimer) (deltaMs : Int) (nowMs : Nat) : GmTimer :=
  let remainingMs := clampRemaining ((timer.getRemaining nowMs : Int) + deltaMs)
  let state :=
    if remainingMs = 0 ∧ timer.state ≠ .idle then .finished
    else if timer.state = .finished ∧ 0 < remainingMs then .paused
    else timer.state
  { timer with remainingMs := remainingMs, state := state, lastUpdatedMs := nowMs }

end GmTimer

/-- The functions of the timer. -/
inductive TimerOp where
  | reset (durationMs : UInt32)
  | start (durationMs : UInt32)
  | pause
  | resume
  | finish
  | setRemaining (remainingMs : UInt32)
  | addTime (deltaMs : Int32)
  | getRemaining
  deriving DecidableEq

/-- The timer behind an operation. One that fails leaves it alone. -/
def TimerOp.apply (nowMs : Nat) (timer : GmTimer) : TimerOp → GmTimer
  | .reset durationMs => .reset durationMs.toNat nowMs
  | .start durationMs => .start durationMs.toNat nowMs
  | .pause => (timer.pause nowMs).getD timer
  | .resume => (timer.resume nowMs).getD timer
  | .finish => timer.finish nowMs
  | .setRemaining remainingMs => timer.setRemaining remainingMs.toNat nowMs
  | .addTime deltaMs => timer.addTime deltaMs.toInt nowMs
  | .getRemaining => timer

/-- The timer behind operations, each with its time. -/
def GmTimer.after (timer : GmTimer) (ops : List (Nat × TimerOp)) : GmTimer :=
  ops.foldl (fun timer op => op.2.apply op.1 timer) timer

end SceneHub
