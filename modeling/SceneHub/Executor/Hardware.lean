import SceneHub.Executor.Payload
import SceneHub.Hub.HardwareIo

/-!
# Commands of the Hardware

`command_executor_hardware.c`: how a command of a relay, a mosfet or a line reads its
arguments, checks them and passes them to the hardware layer. What the hardware layer
answers to a call is an input. An `int` has 32 bits, and a sum that is too large wraps.

## Main definitions

* `HardwareCall`: A call of the hardware layer.
* `executeHardware`: `command_executor_execute_hardware`.
-/

namespace SceneHub.Executor

open Hub (RelayCommand MosfetCommand IoCommand)

inductive HardwareCall where
  | relay (channel : UInt8) (command : RelayCommand)
  | mosfet (channel : UInt8) (command : MosfetCommand)
  | mosfetAllOff
  | io (channel : UInt8) (command : IoCommand)
  | ioGet (channel : UInt8)
  deriving DecidableEq, Repr

/-- `CONFIG_SCENEHUB_RELAY_MAX_PULSE_MS`, and the limits of other pulses and of a fade. -/
def maxPulseMs : Int := 60000

/-- `CONFIG_SCENEHUB_HARDWARE_MAX_EFFECT_MS`. -/
def maxEffectMs : Nat := 600000

/-! ### Arguments -/

def refuseIf (bad : Prop) [Decidable bad] (text : String) : Except Failure Unit :=
  if bad then .error (.invalidArg, text) else .ok ()

def getInt (params : List Char) (key missing : String) : Except Failure Int :=
  match paramsGetInt params key true with
  | .ok value => .ok (value.getD 0)
  | .error err => .error (err, missing)

def getBool (params : List Char) (key missing : String) : Except Failure Bool :=
  match paramsGetBool params key true with
  | .ok value => .ok (value.getD false)
  | .error err => .error (err, missing)

/-- A `bool` that stays false if it cannot be read. -/
def getOptionalBool (params : List Char) (key : String) : Bool :=
  match paramsGetBool params key false with
  | .ok value => value.getD false
  | .error _ => false

def hardwareGetChannel (params : List Char) (maxChannel : Nat) : Except Failure UInt8 := do
  let channel ← getInt params "channel" "hardware_channel_param_missing"
  refuseIf (channel < 1 ∨ maxChannel < channel) "hardware_channel_invalid"
  return UInt8.ofInt channel

def hardwareGetPwmValue (params : List Char) (key : String) : Except Failure UInt8 := do
  let value ← getInt params key "mosfet_value_param_missing"
  refuseIf (value < 0 ∨ 255 < value) "mosfet_value_invalid"
  return UInt8.ofInt value

/-- `hardware_get_optional_pwm_value`, as it is called: without a value it is 0. -/
def hardwareGetFinalValue (params : List Char) : Except Failure UInt8 :=
  match paramsGetInt params "final_value" false with
  | .ok value => do
    let value := value.getD 0
    refuseIf (value < 0 ∨ 255 < value) "mosfet_final_value_invalid"
    return UInt8.ofInt value
  | .error err => .error (err, "mosfet_final_value_invalid")

/-- A result of `int` arithmetic. -/
def intWrap (n : Int) : Int := n.bmod 4294967296

/-- An effect with a count, measured with a product of type `uint64_t`. -/
def effectTooLong (cycleMs count : Int) : Prop :=
  0 < count ∧ maxEffectMs < cycleMs * count % 18446744073709551616

instance (cycleMs count : Int) : Decidable (effectTooLong cycleMs count) :=
  inferInstanceAs (Decidable (_ ∧ _))

/-- The duration of a pulse; the texts begin with the kind of output. -/
def getPulse (params : List Char) (kind : String) : Except Failure UInt32 := do
  let durationMs ← getInt params "duration_ms" (kind ++ "_duration_param_missing")
  refuseIf (durationMs ≤ 0 ∨ maxPulseMs < durationMs) (kind ++ "_duration_invalid")
  return UInt32.ofInt durationMs

/-- The durations and the count of an output that blinks. -/
def getBlink (params : List Char) (kind : String) : Except Failure (UInt32 × UInt32 × UInt32) := do
  let onMs ← getInt params "on_ms" (kind ++ "_on_ms_param_missing")
  let offMs ← getInt params "off_ms" (kind ++ "_off_ms_param_missing")
  let count ← getInt params "count" (kind ++ "_count_param_missing")
  refuseIf (onMs ≤ 0 ∨ offMs ≤ 0 ∨ count < 0 ∨ effectTooLong (intWrap (onMs + offMs)) count)
    (kind ++ "_blink_invalid")
  return (UInt32.ofInt onMs, UInt32.ofInt offMs, UInt32.ofInt count)

/-! ### Commands -/

def callHardware (hardware : HardwareCall → EspErr) (call : HardwareCall) (text : String) :
    Except Failure HardwareCall :=
  if hardware call = .ok then .ok call else .error (hardware call, text)

variable (hardware : HardwareCall → EspErr) (command : Command) (params : List Char)

def hardwareExecuteRelay : Except Failure HardwareCall := do
  let channel ← hardwareGetChannel params Hub.channelCount
  if isCommand command "set" "relay.set" then
    let on ← getBool params "on" "relay_on_param_missing"
    callHardware hardware (.relay channel (.set on)) "relay_set_failed"
  else if isCommand command "pulse" "relay.pulse" then
    let durationMs ← getPulse params "relay"
    callHardware hardware (.relay channel (.pulse durationMs)) "relay_pulse_failed"
  else if isCommand command "blink" "relay.blink" then
    let (onMs, offMs, count) ← getBlink params "relay"
    let finalOn := getOptionalBool params "final_on"
    callHardware hardware (.relay channel (.blink onMs offMs count finalOn)) "relay_blink_failed"
  else if isCommand command "toggle" "relay.toggle" then
    callHardware hardware (.relay channel .toggle) "relay_toggle_failed"
  else throw (.notSupported, "relay_command_unsupported")

def hardwareExecuteMosfet : Except Failure HardwareCall := do
  if isCommand command "all_off" "mosfet.all_off" then
    callHardware hardware .mosfetAllOff "mosfet_all_off_failed"
  else
    let channel ← hardwareGetChannel params Hub.channelCount
    if isCommand command "set" "mosfet.set" then
      let value ← hardwareGetPwmValue params "value"
      callHardware hardware (.mosfet channel (.set value)) "mosfet_set_failed"
    else if isCommand command "fade" "mosfet.fade" then
      let target ← hardwareGetPwmValue params "target"
      let durationMs ← getInt params "duration_ms" "mosfet_duration_param_missing"
      refuseIf (durationMs < 0) "mosfet_duration_invalid"
      refuseIf (maxPulseMs < durationMs) "mosfet_fade_duration_invalid"
      callHardware hardware (.mosfet channel (.fade target (UInt32.ofInt durationMs)))
        "mosfet_fade_failed"
    else if isCommand command "pulse" "mosfet.pulse" then
      let value ← hardwareGetPwmValue params "value"
      let durationMs ← getPulse params "mosfet"
      callHardware hardware (.mosfet channel (.pulse value durationMs)) "mosfet_pulse_failed"
    else if isCommand command "blink" "mosfet.blink" then
      let value ← hardwareGetPwmValue params "value"
      let finalValue ← hardwareGetFinalValue params
      let (onMs, offMs, count) ← getBlink params "mosfet"
      callHardware hardware (.mosfet channel (.blink value onMs offMs count finalValue))
        "mosfet_blink_failed"
    else if isCommand command "breathe" "mosfet.breathe" then
      let minValue ← hardwareGetPwmValue params "min"
      let maxValue ← hardwareGetPwmValue params "max"
      let finalValue ← hardwareGetFinalValue params
      let fadeMs ← getInt params "fade_ms" "mosfet_fade_ms_param_missing"
      let holdMs ← getInt params "hold_ms" "mosfet_hold_ms_param_missing"
      let count ← getInt params "count" "mosfet_count_param_missing"
      refuseIf (fadeMs ≤ 0 ∨ holdMs < 0 ∨ count < 0 ∨ maxValue < minValue ∨
        effectTooLong (intWrap (intWrap (fadeMs * 2) + intWrap (holdMs * 2))) count)
        "mosfet_breathe_invalid"
      callHardware hardware (.mosfet channel (.breathe minValue maxValue (UInt32.ofInt fadeMs)
        (UInt32.ofInt holdMs) (UInt32.ofInt count) finalValue)) "mosfet_breathe_failed"
    else throw (.notSupported, "mosfet_command_unsupported")

def hardwareExecuteIo : Except Failure HardwareCall := do
  let channel ← hardwareGetChannel params Hub.channelCount
  if isCommand command "set" "io.set" then
    let active ← getBool params "active" "io_active_param_missing"
    callHardware hardware (.io channel (.set active)) "io_set_failed"
  else if isCommand command "pulse" "io.pulse" then
    let active ← getBool params "active" "io_active_param_missing"
    let durationMs ← getPulse params "io"
    callHardware hardware (.io channel (.pulse active durationMs)) "io_pulse_failed"
  else if isCommand command "blink" "io.blink" then
    let (onMs, offMs, count) ← getBlink params "io"
    let finalActive := getOptionalBool params "final_active"
    callHardware hardware (.io channel (.blink onMs offMs count finalActive)) "io_blink_failed"
  else if isCommand command "toggle" "io.toggle" then
    callHardware hardware (.io channel .toggle) "io_toggle_failed"
  else if isCommand command "get_state" "io.get_state" then
    callHardware hardware (.ioGet channel) "io_get_state_failed"
  else throw (.notSupported, "io_command_unsupported")

/-- `command_executor_execute_hardware`, where the hardware is `available`: the call that it
    has made. -/
def executeHardware (available : Bool) (deviceId : String) : Except Failure HardwareCall :=
  if !available then .error (.invalidState, "hardware_io_unavailable")
  else if deviceId = systemRelayId then hardwareExecuteRelay hardware command params
  else if deviceId = systemMosfetId then hardwareExecuteMosfet hardware command params
  else if deviceId = systemIoId then hardwareExecuteIo hardware command params
  else .error (.notSupported, "hardware_command_unsupported")

end SceneHub.Executor
