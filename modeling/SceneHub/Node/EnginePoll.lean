import SceneHub.Node.Engine

/-!
# Polling Inputs and Timers

The task of the rule engine: `poll_inputs_and_timers` of `node_rule_engine.c`, and the requests it
handles between two polls. A poll takes a sample of every input that can be read, and then visits
the timers in their order. The clock has 32 bits.

A request and the sample of an input are a turn of the task, and so is the visit of a timer. What
answers the engine, and the clock it reads, may be others in every turn. The bundle stays the same
for a run; another bundle comes with a reset. What is reported of inputs and timers is kept beside.

## Main definitions

* `InputTiming`, `InputConfig`, `EngineTask`: What the engine keeps of its inputs.
* `processInputSample`: A sample, with debounce and hold.
* `pollTimer`, `processTimerEvents`: The timers.
* `EngineSetup`, `EngineTurn`, `engineTurn`: A turn of the task.
* `engineRun`: One turn after the other.
-/

namespace SceneHub.Node

/-- The part of `node_rule_input_slot_t` that conditions do not read. The mask is given by its
    bits. -/
structure InputTiming where
  pendingValid : Bool := false
  pendingActive : Bool := false
  pendingSinceMs : UInt32 := 0
  stableSinceMs : UInt32 := 0
  firedHoldRules : Nat → Bool := fun _ => false

structure InputConfig where
  enabled : Bool
  channel : Nat
  isInput : Bool
  debounceMs : UInt32
  deriving DecidableEq

/-- An event of an input, or the one of a timer. -/
inductive PollReport where
  | edge (channel : Nat) (active : Bool)
  | hold (channel : Nat) (active : Bool) (durationMs : UInt32)
  | timer (index : Nat)
  deriving DecidableEq

/-- The engine with its inputs. The last report comes first. -/
structure EngineTask where
  engine : EngineState
  timings : Nat → InputTiming := fun _ => {}
  reports : List PollReport := []

/-- `value` of an event. -/
def levelValue (active : Bool) : Int := if active then 1 else 0

def inputEdgeEvent (channel : Nat) (active : Bool) : RuleEvent Nat :=
  { type := .inputEdge, inputChannel := channel, timer := 0, value := levelValue active }

def inputHoldEvent (channel : Nat) (active : Bool) (durationMs : UInt32) : RuleEvent Nat :=
  { type := .inputHold, inputChannel := channel, timer := 0, value := levelValue active, durationMs }

def timerEvent (index : Nat) (name : String) (durationMs : UInt32) : RuleEvent Nat :=
  { type := .timer, eventName := name, timer := index, durationMs }

def makeBootEvent : RuleEvent Nat := { type := .boot, eventName := "boot", timer := 0 }

/-! ### Inputs -/

def inputDebounceMs (inputs : List InputConfig) (channel : Nat) : UInt32 :=
  if channel = 0 then 0
  else match inputs.find? fun pin => pin.enabled && pin.isInput && pin.channel = channel with
    | some pin => pin.debounceMs
    | none => 0

/-- A rule that waits for a level of an input to be held. -/
def holdRule (rule : CompiledRule) (channel : Nat) (active : Bool) : Bool :=
  rule.enabled && rule.triggerKind = .inputHold && rule.inputChannel = channel &&
    rule.triggerValue = levelValue active

namespace InputTiming

def markHoldRulesFired (timing : InputTiming) (b : Bundle) (channel : Nat) (active : Bool)
    (durationMs : UInt32) : InputTiming :=
  { timing with firedHoldRules := fun i =>
      timing.firedHoldRules i || i < 32 && (b.rules[i]?).any fun rule =>
        holdRule rule channel active && rule.triggerDurationMs = durationMs }

/-- The level is stable from now on. -/
def stable (timing : InputTiming) (nowMs : UInt32) : InputTiming :=
  { timing with stableSinceMs := nowMs, pendingValid := false, firedHoldRules := fun _ => false }

end InputTiming

namespace EngineTask

def slot (s : EngineTask) (channel : Nat) : InputSlot := s.engine.inputs (channel - 1)

def timing (s : EngineTask) (channel : Nat) : InputTiming := s.timings (channel - 1)

def setSlot (s : EngineTask) (channel : Nat) (slot : InputSlot) : EngineTask :=
  { s with engine := { s.engine with
    inputs := Function.update s.engine.inputs (channel - 1) slot } }

def setTiming (s : EngineTask) (channel : Nat) (timing : InputTiming) : EngineTask :=
  { s with timings := Function.update s.timings (channel - 1) timing }

/-- An event is reported and dispatched. -/
def report (s : EngineTask) (around : Surroundings) (active : Option Bundle)
    (report : PollReport) (event : RuleEvent Nat) : EngineTask :=
  { s with
    engine := (dispatchEvent around active event s.engine).2
    reports := report :: s.reports }

end EngineTask

section

variable (around : Surroundings) (inputs : List InputConfig) (b : Bundle)

def publishInputEdge (active : Option Bundle) (channel : Nat) (level : Bool) (s : EngineTask) :
    EngineTask :=
  s.report around active (.edge channel level) (inputEdgeEvent channel level)

/-- The loop of `process_input_hold_events`, over the rules and their places. -/
def holdLoop (channel : Nat) (nowMs : UInt32) :
    List (CompiledRule × Nat) → List UInt32 → EngineTask → EngineTask
  | [], _, s => s
  | (rule, i) :: rules, dispatched, s =>
    let level := (s.slot channel).stableActive
    if !holdRule rule channel level ∨
        nowMs - (s.timing channel).stableSinceMs < rule.triggerDurationMs ∨
        (s.timing channel).firedHoldRules i then
      holdLoop channel nowMs rules dispatched s
    else if rule.triggerDurationMs ∈ dispatched then holdLoop channel nowMs rules dispatched s
    else
      let s := s.report around (some b) (.hold channel level rule.triggerDurationMs)
        (inputHoldEvent channel level rule.triggerDurationMs)
      let s := s.setTiming channel
        ((s.timing channel).markHoldRulesFired b channel level rule.triggerDurationMs)
      holdLoop channel nowMs rules (dispatched ++ [rule.triggerDurationMs]) s

def processInputHoldEvents (active : Option Bundle) (channel : Nat) (nowMs : UInt32)
    (s : EngineTask) : EngineTask :=
  match active with
  | none => s
  | some b =>
    if !(s.slot channel).initialized then s
    else holdLoop around b channel nowMs ((b.rules.take 32).zipIdx) [] s

def processInputSample (active : Option Bundle) (channel : Nat) (level : Bool) (nowMs : UInt32)
    (s : EngineTask) : EngineTask :=
  if channel = 0 ∨ universalIoMax < channel then s
  else
    let slot := s.slot channel
    let timing := s.timing channel
    let debounceMs := inputDebounceMs inputs channel
    if !slot.initialized then
      (s.setSlot channel { initialized := true, stableActive := level }).setTiming channel
        { timing with stableSinceMs := nowMs, pendingValid := false }
    else if level ≠ slot.stableActive then
      if debounceMs = 0 then
        publishInputEdge around active channel level
          ((s.setSlot channel { slot with stableActive := level }).setTiming channel
            (timing.stable nowMs))
      else if !timing.pendingValid ∨ timing.pendingActive ≠ level then
        s.setTiming channel { timing with
          pendingValid := true
          pendingActive := level
          pendingSinceMs := nowMs }
      else if debounceMs ≤ nowMs - timing.pendingSinceMs then
        publishInputEdge around active channel timing.pendingActive
          ((s.setSlot channel { slot with stableActive := timing.pendingActive }).setTiming channel
            (timing.stable nowMs))
      else s
    else
      processInputHoldEvents around active channel nowMs
        (s.setTiming channel { timing with pendingValid := false })

/-! ### Timers -/

def timeReached (now deadline : UInt32) : Bool := 0 ≤ (now - deadline).toInt32

/-- A timer that fires goes on if it repeats. -/
def TimerSlot.fired (slot : TimerSlot) (now : UInt32) : TimerSlot :=
  if slot.mode = .repeat then
    { slot with nextFireMs :=
        now + (if 0 < slot.intervalMs then slot.intervalMs else slot.durationMs) }
  else { slot with active := false }

/-- The body of the loop of `process_timer_events`. -/
def pollTimer (now : UInt32) (s : EngineTask) (i : Nat) : EngineTask :=
  let slot := s.engine.timers i
  if !slot.active || !timeReached now slot.nextFireMs then s
  else
    { s with engine := { s.engine with
        timers := Function.update s.engine.timers i (slot.fired now) } }.report around (some b)
      (.timer i) (timerEvent i (nameAt b.timerNames i) slot.durationMs)

def processTimerEvents (active : Option Bundle) (s : EngineTask) : EngineTask :=
  match active with
  | none => s
  | some b => (List.range (min b.timerNames.length maxTimers)).foldl
      (pollTimer around b (around.nowMs s.engine.effects)) s

end

/-! ### Turns -/

/-- `reset_runtime_state`. The initial values of the states come with the bundle. -/
def resetRuntimeState (initial : Nat → ScalarValue) (s : EngineTask) : EngineTask :=
  { s with
    engine := { s.engine with
      states := initial
      timers := fun _ => {}
      inputs := fun _ => {}
      phase := none }
    timings := fun _ => {} }

inductive EngineTurn where
  | event (event : RuleEvent Nat)
  | reset
  | setEnabled (enabled : Bool)
  | pause
  | resume
  | sample (channel : Nat) (level : Bool) (nowMs : Nat)
  | visit (timer nowMs : Nat)

/-- A bundle fits into the tables of the engine, and its timers are those it has names for. -/
structure Bundle.Runnable (b : Bundle) : Prop where
  rules : b.rules.length ≤ maxRules
  timerNames : b.timerNames.Nodup
  timerRoom : b.timerNames.length ≤ maxTimers
  timerIndex : ∀ action ∈ b.actions, ∀ index ∈ action.timerIndex, index < b.timerNames.length

/-- What the engine has to do with: the inputs, the bundle that is active, and the values its states
    begin with. -/
structure EngineSetup where
  inputs : List InputConfig := []
  active : Option Bundle
  initial : Nat → ScalarValue
  runnable : ∀ b ∈ active, b.Runnable

/-- A turn of the task: `handle_request`, or a part of a poll. -/
def engineTurn (setup : EngineSetup) (around : Surroundings) (s : EngineTask) :
    EngineTurn → EngineTask
  | .event event => { s with engine := (dispatchEvent around setup.active event s.engine).2 }
  | .reset => resetRuntimeState setup.initial s
  | .setEnabled enabled => { s with engine := { s.engine with rulesEnabled := enabled } }
  | .pause =>
    resetRuntimeState setup.initial { s with engine := { s.engine with paused := true } }
  | .resume =>
    let s := resetRuntimeState setup.initial s
    let s := { s with engine := { s.engine with paused := false } }
    if !s.engine.rulesEnabled ∨ setup.active.isNone then s
    else { s with engine := (dispatchEvent around setup.active makeBootEvent s.engine).2 }
  | .sample channel level nowMs =>
    processInputSample around setup.inputs setup.active channel level (UInt32.ofNat nowMs) s
  | .visit timer nowMs => match setup.active with
    | none => s
    | some b =>
      if min b.timerNames.length maxTimers ≤ timer then s
      else pollTimer around b (UInt32.ofNat nowMs) s timer

/-- The task behind a list of turns, each with what answered the engine in it. -/
def engineRun (setup : EngineSetup) (s : EngineTask) (turns : List (Surroundings × EngineTurn)) :
    EngineTask :=
  turns.foldl (fun s turn => engineTurn setup turn.1 s turn.2) s

end SceneHub.Node
