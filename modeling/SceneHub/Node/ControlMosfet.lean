import SceneHub.Node.ControlArgs
import SceneHub.Node.HwMosfet

/-!
# Mosfet Commands

The handlers of the mosfet commands: `node_control_mosfet.c`. A handler reads its arguments, takes
what is missing from the configuration of the channel, checks the limits and hands a command to the
mosfets. The command is what it returns, or the code it refuses with. What it answers behind that
follows from what the mosfets return.

## Main definitions

* `executeMosfetSet`, `executeMosfetFade`, `executeMosfetPulse`, `executeMosfetBlink`,
  `executeMosfetBreathe`, `executeMosfetEffectAlias`: The handlers.
-/

namespace SceneHub.Node

open Config (channelMax OutputPinConfig)

def maxMosfetPulseMs : UInt32 := 60000

def maxMosfetFadeMs : UInt32 := 60000

def maxMosfetEffectMs : UInt64 := 600000

/-- A command and its channel, or the code of a refusal. -/
abbrev MosfetHandled : Type := Except String (UInt8 × HwMosfetCommand)

/-- `(uint8_t)channel`. -/
def channelOf (channel : Int32) : UInt8 := channel.toUInt32.toUInt8

def findMosfetConfig (mosfets : Fin channelMax → OutputPinConfig) (channel : UInt8) :
    Option OutputPinConfig :=
  if h : 1 ≤ channel.toNat ∧ channel.toNat ≤ channelMax then
    let cfg := mosfets ⟨channel.toNat - 1, by omega⟩
    if cfg.enabled then some cfg else none
  else none

/-- The time that is checked against the limit: a cycle in 32 bits, times the count in 64. -/
def totalMs (cycleMs : UInt32) (count : Int32) : UInt64 :=
  cycleMs.toUInt64 * count.toUInt32.toUInt64

/-- The check of a blink. -/
def blinkRefused (onMs offMs : UInt32) (count : Int32) : Bool :=
  onMs = 0 || offMs = 0 || 0 < count && maxMosfetEffectMs < totalMs (onMs + offMs) count

/-- The check of a breathing. -/
def breatheRefused (minValue maxValue : UInt8) (fadeMs holdMs : UInt32) (count : Int32) : Bool :=
  fadeMs = 0 || maxValue < minValue ||
    0 < count && maxMosfetEffectMs < totalMs (fadeMs * 2 + holdMs * 2) count

/-- A level that may be missing. -/
def pwmArg (json : List Char) (key : String) (fallback : UInt8) : Except String UInt8 :=
  match readOptionalPwmArg json key fallback with
  | some value => .ok value
  | none => .error "invalid_args"

/-- A level that may be missing, where a failure is not looked at. -/
def pwmArgOr (json : List Char) (key : String) (fallback : UInt8) : UInt8 :=
  (readOptionalPwmArg json key fallback).getD fallback

/-- The name of the effect. -/
def effectArg (json : List Char) : Except String String :=
  match readStringArg json "effect" 24 with
  | none => .error "missing_effect"
  | some effect => .ok (String.ofList effect)

section

variable (mosfets : Fin channelMax → OutputPinConfig) (json : List Char) (now : UInt64)

/-- The channel, which every handler reads first, and its configuration. -/
def mosfetChannel : Except String (UInt8 × Option OutputPinConfig) :=
  match readIntArg json "channel" with
  | none => .error "missing_channel"
  | some channel => .ok (channelOf channel, findMosfetConfig mosfets (channelOf channel))

def executeMosfetSet : MosfetHandled := do
  let (channel, _) ← mosfetChannel mosfets json
  match readPwmArg json "value" with
  | none => .error "missing_value"
  | some value => .ok (channel, .set value)

def executeMosfetFade : MosfetHandled := do
  let (channel, cfg) ← mosfetChannel mosfets json
  let target ← pwmArg json "target" ((cfg.map (·.defaultTarget)).getD 255)
  let durationMs := (readU32Arg json "duration_ms").getD ((cfg.map (·.fadeDurationMs)).getD 500)
  if maxMosfetFadeMs < durationMs then .error "invalid_args"
  else .ok (channel, .fade target durationMs now)

def executeMosfetPulse : MosfetHandled := do
  let (channel, cfg) ← mosfetChannel mosfets json
  let value ← pwmArg json "value" ((cfg.map (·.defaultValue)).getD 255)
  let durationMs := (readU32Arg json "duration_ms").getD ((cfg.map (·.pulseDurationMs)).getD 300)
  if durationMs = 0 || maxMosfetPulseMs < durationMs then .error "invalid_args"
  else .ok (channel, .pulse value durationMs)

def executeMosfetBlink : MosfetHandled := do
  let (channel, cfg) ← mosfetChannel mosfets json
  let value ← pwmArg json "value" ((cfg.map (·.defaultValue)).getD 255)
  let finalValue ← pwmArg json "final_value" ((cfg.map (·.defaultFinalValue)).getD 0)
  let onMs := (readU32Arg json "on_ms").getD ((cfg.map (·.blinkOnMs)).getD 250)
  let offMs := (readU32Arg json "off_ms").getD ((cfg.map (·.blinkOffMs)).getD 250)
  let count := (readIntArg json "count").getD
    ((cfg.map fun cfg => Int32.ofNat cfg.blinkRepeatCount.toNat).getD 3)
  if blinkRefused onMs offMs count then .error "invalid_args"
  else .ok (channel, .blink value onMs offMs count.toUInt32 finalValue)

def executeMosfetBreathe : MosfetHandled := do
  let (channel, cfg) ← mosfetChannel mosfets json
  let minValue ← pwmArg json "min" ((cfg.map (·.defaultMin)).getD 0)
  let maxValue ← pwmArg json "max" ((cfg.map (·.defaultMax)).getD 255)
  let finalValue ← pwmArg json "final_value" ((cfg.map (·.defaultFinalValue)).getD 0)
  let fadeMs := (readU32Arg json "fade_ms").getD ((cfg.map (·.breatheFadeMs)).getD 1000)
  let holdMs := (readU32Arg json "hold_ms").getD ((cfg.map (·.breatheHoldMs)).getD 0)
  let count := (readIntArg json "count").getD
    ((cfg.map fun cfg => Int32.ofNat cfg.breatheRepeatCount.toNat).getD 1)
  if breatheRefused minValue maxValue fadeMs holdMs count then .error "invalid_args"
  else .ok (channel, .breathe minValue maxValue fadeMs holdMs count.toUInt32 finalValue now)

def executeMosfetEffectAlias : MosfetHandled := do
  let (channel, cfg) ← mosfetChannel mosfets json
  let effect ← effectArg json
  let durationMs := (readU32Arg json "duration_ms").getD ((cfg.map (·.pulseDurationMs)).getD 250)
  let repeatCount := (readU32Arg json "repeat").getD
    ((cfg.map fun cfg => UInt32.ofNat cfg.breatheRepeatCount.toNat).getD 1)
  let value := pwmArgOr json "value" ((cfg.map (·.defaultValue)).getD 255)
  let target := pwmArgOr json "target" ((cfg.map (·.defaultTarget)).getD 255)
  let minValue := pwmArgOr json "min" ((cfg.map (·.defaultMin)).getD 0)
  let maxValue := pwmArgOr json "max" ((cfg.map (·.defaultMax)).getD 255)
  let finalValue := pwmArgOr json "final_value" ((cfg.map (·.defaultFinalValue)).getD 0)
  let count := (readIntArg json "count").getD repeatCount.toInt32
  if effect = "set" then
    match readPwmArg json "value", readBoolArg json "on" with
    | some value, _ => .ok (channel, .set value)
    | none, some on => .ok (channel, .set (if on then 255 else 0))
    | none, none => .error "missing_value"
  else if effect = "pulse" then
    if durationMs = 0 || maxMosfetPulseMs < durationMs then .error "invalid_args"
    else .ok (channel, .pulse value durationMs)
  else if effect = "fade_in" ∨ effect = "fade_out" ∨ effect = "fade" then
    let fadeTarget := if effect = "fade_in" then 255 else if effect = "fade_out" then 0 else target
    if maxMosfetFadeMs < durationMs then .error "invalid_args"
    else .ok (channel, .fade fadeTarget durationMs now)
  else if effect = "blink" then
    let onMs := (readU32Arg json "on_ms").getD durationMs
    let offMs := (readU32Arg json "off_ms").getD durationMs
    if count < 0 || blinkRefused onMs offMs count then .error "invalid_args"
    else .ok (channel, .blink value onMs offMs count.toUInt32 finalValue)
  else if effect = "breathe" then
    let fadeMs := (readU32Arg json "fade_ms").getD durationMs
    let holdMs := (readU32Arg json "hold_ms").getD (durationMs / 2)
    if count < 0 || breatheRefused minValue maxValue fadeMs holdMs count then .error "invalid_args"
    else .ok (channel, .breathe minValue maxValue fadeMs holdMs count.toUInt32 finalValue now)
  else if effect = "broken_fluorescent" then .ok (channel, .brokenFluorescent value)
  else .error "invalid_args"

end

end SceneHub.Node
