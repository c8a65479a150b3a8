import SceneHub.Node.ConfigTypes

/-!
# Layouts of Configurations

`node_config_legacy.h`: the configurations of all versions, and how each of them lies in memory,
which is how it is stored. The layouts are those of the compiler of the node: numbers have
their low byte first and are aligned to their size, and an enumeration has four bytes.

Version 3 and version 4 have the same fields, and so have 11 and 12. All versions from 9 to 12 have
the same size.

## Main definitions

* `NodeConfigV1`, …, `NodeConfigV12`: The configurations of earlier versions.
* `nodeConfigV1`, …, `nodeConfig`: Their layouts.
* `ledEditorConfigV1`, `ledEditorConfigV2`: What the editor of effects stores.

-/

namespace SceneHub.Node

namespace Config

open Lib

/-! ### Earlier versions -/

/-- `node_led_strip_config_v3_t`, and that of version 4. -/
structure LedStripConfigV3 extends LedStripConfigV2 where
  effectDurationMs : UInt32
  effectStepMs : UInt32
  effectRepeatCount : UInt16

/-- `node_led_strip_config_v5_t`. The colors of the effect are a color and a second one. -/
structure LedStripConfigV5 extends LedStripConfigV3 where
  blinkOnMs : UInt32
  blinkOffMs : UInt32
  blinkRepeatCount : UInt16
  breatheCycleMs : UInt32
  breatheStepMs : UInt32
  breatheRepeatCount : UInt16
  effectColor : Rgbw
  effectColor2 : Rgbw

structure EffectPresetsV7 where
  rainbow : EffectPresetV7
  colorWipe : EffectPresetV7
  scanner : EffectPresetV7
  theater : EffectPresetV7
  strobe : EffectPresetV7

structure LedStripConfigV6 extends LedStripConfigV2 where
  blink : BlinkPresetV6
  breathe : BreathePresetV6
  effects : EffectPresetsV7

structure LedStripConfigV7 extends LedStripConfigV2 where
  blink : BlinkPreset
  breathe : BreathePreset
  effects : EffectPresetsV7

structure LedStripConfigV8 extends LedStripConfigV2, LedEditorStrip EffectPresetV8

abbrev NodeConfigV1 : Type := ConfigOf OutputPinConfigV1 UniversalPinConfigV11 LedStripConfigV1

abbrev NodeConfigV2 : Type := ConfigOf OutputPinConfigV1 UniversalPinConfigV11 LedStripConfigV2

abbrev NodeConfigV3 : Type := ConfigOf OutputPinConfigV1 UniversalPinConfigV11 LedStripConfigV3

abbrev NodeConfigV4 : Type := NodeConfigV3

abbrev NodeConfigV5 : Type := ConfigOf OutputPinConfigV1 UniversalPinConfigV11 LedStripConfigV5

abbrev NodeConfigV6 : Type := ConfigOf OutputPinConfigV1 UniversalPinConfigV11 LedStripConfigV6

abbrev NodeConfigV7 : Type := ConfigOf OutputPinConfigV1 UniversalPinConfigV11 LedStripConfigV7

abbrev NodeConfigV8 : Type := ConfigOf OutputPinConfig UniversalPinConfigV11 LedStripConfigV8

abbrev NodeConfigV9 : Type := ConfigOf OutputPinConfig UniversalPinConfigV11 LedStripConfig

structure NodeConfigV10 extends NodeConfigV9 where
  operationMode : UInt8

structure NodeConfigV11 extends NodeConfigV10 where
  standaloneMqttEnabled : Bool

abbrev NodeConfigV12 : Type := NodeConfigV11

/-- `node_led_editor_config_v1_t` and `node_led_editor_config_v2_t`. -/
structure LedEditorConfig (Preset : Type) where
  version : UInt32
  ledStrips : Fin ledStripMax → LedEditorStrip Preset

/-! ### Layouts of the parts -/

def text (n : Nat) : Layout (Text n) := .array n .u8

def outputPinConfigV1 : Layout OutputPinConfigV1 :=
  (Fields.cons .bool <| .cons .u8 <| .cons .i32 <| .cons .bool <| .one (text 24)).struct
    (fun (enabled, channel, gpio, activeLow, label) =>
      { enabled, channel, gpio, activeLow, label })
    (fun c => (c.enabled, c.channel, c.gpio, c.activeLow, c.label)) fun _ => rfl

def outputPinConfig : Layout OutputPinConfig :=
  (Fields.cons .bool <| .cons .u8 <| .cons .i32 <| .cons .bool <| .cons .u32 <| .cons .u32 <|
    .cons .u32 <| .cons .u32 <| .cons .u16 <| .cons .u32 <| .cons .u32 <| .cons .u16 <|
    .cons .u8 <| .cons .u8 <| .cons .u8 <| .cons .u8 <| .cons .u8 <| .one (text 24)).struct
    (fun (enabled, channel, gpio, activeLow, pulseDurationMs, fadeDurationMs, blinkOnMs,
        blinkOffMs, blinkRepeatCount, breatheFadeMs, breatheHoldMs, breatheRepeatCount,
        defaultValue, defaultTarget, defaultMin, defaultMax, defaultFinalValue, label) =>
      { enabled, channel, gpio, activeLow, pulseDurationMs, fadeDurationMs, blinkOnMs,
        blinkOffMs, blinkRepeatCount, breatheFadeMs, breatheHoldMs, breatheRepeatCount,
        defaultValue, defaultTarget, defaultMin, defaultMax, defaultFinalValue, label })
    (fun c => (c.enabled, c.channel, c.gpio, c.activeLow, c.pulseDurationMs, c.fadeDurationMs,
      c.blinkOnMs, c.blinkOffMs, c.blinkRepeatCount, c.breatheFadeMs, c.breatheHoldMs,
      c.breatheRepeatCount, c.defaultValue, c.defaultTarget, c.defaultMin, c.defaultMax,
      c.defaultFinalValue, c.label)) fun _ => rfl

def universalPinConfigV11 : Layout UniversalPinConfigV11 :=
  (Fields.cons .bool <| .cons .u8 <| .cons .i32 <| .cons .u32 <| .cons .bool <|
    .one (text 24)).struct
    (fun (enabled, channel, gpio, role, activeLow, label) =>
      { enabled, channel, gpio, role, activeLow, label })
    (fun c => (c.enabled, c.channel, c.gpio, c.role, c.activeLow, c.label)) fun _ => rfl

def universalPinConfig : Layout UniversalPinConfig :=
  (Fields.cons .bool <| .cons .u8 <| .cons .i32 <| .cons .u32 <| .cons .bool <| .cons .u16 <|
    .one (text 24)).struct
    (fun (enabled, channel, gpio, role, activeLow, debounceMs, label) =>
      { enabled, channel, gpio, role, activeLow, debounceMs, label })
    (fun c => (c.enabled, c.channel, c.gpio, c.role, c.activeLow, c.debounceMs, c.label))
    fun _ => rfl

def rgbw : Layout Rgbw :=
  (Fields.cons .u8 <| .cons .u8 <| .cons .u8 <| .one .u8).struct
    (fun (red, green, blue, white) => { red, green, blue, white })
    (fun c => (c.red, c.green, c.blue, c.white)) fun _ => rfl

def blinkPresetV6 : Layout BlinkPresetV6 :=
  (Fields.cons .u32 <| .cons .u32 <| .one .u16).struct
    (fun (onMs, offMs, repeatCount) => { onMs, offMs, repeatCount })
    (fun p => (p.onMs, p.offMs, p.repeatCount)) fun _ => rfl

def blinkPreset : Layout BlinkPreset :=
  (Fields.cons .u32 <| .cons .u32 <| .cons .u16 <| .one rgbw).struct
    (fun (onMs, offMs, repeatCount, color) => { onMs, offMs, repeatCount, color })
    (fun p => (p.onMs, p.offMs, p.repeatCount, p.color)) fun _ => rfl

def breathePresetV6 : Layout BreathePresetV6 :=
  (Fields.cons .u32 <| .cons .u32 <| .one .u16).struct
    (fun (cycleMs, stepMs, repeatCount) => { cycleMs, stepMs, repeatCount })
    (fun p => (p.cycleMs, p.stepMs, p.repeatCount)) fun _ => rfl

def breathePreset : Layout BreathePreset :=
  (Fields.cons .u32 <| .cons .u32 <| .cons .u16 <| .one rgbw).struct
    (fun (cycleMs, stepMs, repeatCount, color) => { cycleMs, stepMs, repeatCount, color })
    (fun p => (p.cycleMs, p.stepMs, p.repeatCount, p.color)) fun _ => rfl

def effectPresetV7 : Layout EffectPresetV7 :=
  (Fields.cons .u32 <| .cons .u32 <| .cons .u16 <| .cons rgbw <| .one rgbw).struct
    (fun (durationMs, stepMs, repeatCount, color, color2) =>
      { durationMs, stepMs, repeatCount, color, color2 })
    (fun p => (p.durationMs, p.stepMs, p.repeatCount, p.color, p.color2)) fun _ => rfl

def effectPresetV8 : Layout EffectPresetV8 :=
  (Fields.cons .u32 <| .cons .u32 <| .cons .u16 <| .cons .u16 <| .cons .u16 <| .cons .u16 <|
    .cons .u16 <| .cons .u32 <| .cons rgbw <| .one rgbw).struct
    (fun (durationMs, stepMs, repeatCount, size, intensity, density, fade, paletteMode, color,
        color2) =>
      { durationMs, stepMs, repeatCount, size, intensity, density, fade, paletteMode, color,
        color2 })
    (fun p => (p.durationMs, p.stepMs, p.repeatCount, p.size, p.intensity, p.density, p.fade,
      p.paletteMode, p.color, p.color2)) fun _ => rfl

def effectPreset : Layout EffectPreset :=
  (Fields.cons .u32 <| .cons .u32 <| .cons .u16 <| .cons .u16 <| .cons .u16 <| .cons .u16 <|
    .cons .u16 <| .cons .u32 <| .cons rgbw <| .cons rgbw <| .one rgbw).struct
    (fun (durationMs, stepMs, repeatCount, size, intensity, density, fade, paletteMode, color,
        color2, background) =>
      { durationMs, stepMs, repeatCount, size, intensity, density, fade, paletteMode, color,
        color2, background })
    (fun p => (p.durationMs, p.stepMs, p.repeatCount, p.size, p.intensity, p.density, p.fade,
      p.paletteMode, p.color, p.color2, p.background)) fun _ => rfl

/-- `node_led_effect_presets_t`, and that of version 8. -/
def effectPresets {Preset : Type} (preset : Layout Preset) : Layout (EffectId → Preset) :=
  (Layout.array effectCount preset).map (fun items id => items id.index)
    (fun effects i => effects (.ofIndex i)) fun effects => by
      funext id
      exact congrArg effects id.ofIndex_index

def effectPresetsV7 : Layout EffectPresetsV7 :=
  (Fields.cons effectPresetV7 <| .cons effectPresetV7 <| .cons effectPresetV7 <|
    .cons effectPresetV7 <| .one effectPresetV7).struct
    (fun (rainbow, colorWipe, scanner, theater, strobe) =>
      { rainbow, colorWipe, scanner, theater, strobe })
    (fun e => (e.rainbow, e.colorWipe, e.scanner, e.theater, e.strobe)) fun _ => rfl

def ledStripConfigV1 : Layout LedStripConfigV1 :=
  (Fields.cons .bool <| .cons .u8 <| .cons .i32 <| .cons .u16 <| .one (text 24)).struct
    (fun (enabled, channel, gpio, pixelCount, label) =>
      { enabled, channel, gpio, pixelCount, label })
    (fun s => (s.enabled, s.channel, s.gpio, s.pixelCount, s.label)) fun _ => rfl

def ledStripConfigV2 : Layout LedStripConfigV2 :=
  (Fields.cons .bool <| .cons .u8 <| .cons .i32 <| .cons .u16 <| .cons .u32 <| .cons .u32 <|
    .cons .bool <| .one (text 24)).struct
    (fun (enabled, channel, gpio, pixelCount, chipset, colorOrder, rgbw, label) =>
      { enabled, channel, gpio, pixelCount, chipset, colorOrder, rgbw, label })
    (fun s => (s.enabled, s.channel, s.gpio, s.pixelCount, s.chipset, s.colorOrder, s.rgbw,
      s.label)) fun _ => rfl

def ledStripConfigV3 : Layout LedStripConfigV3 :=
  (Fields.cons .bool <| .cons .u8 <| .cons .i32 <| .cons .u16 <| .cons .u32 <| .cons .u32 <|
    .cons .bool <| .cons .u32 <| .cons .u32 <| .cons .u16 <| .one (text 24)).struct
    (fun (enabled, channel, gpio, pixelCount, chipset, colorOrder, rgbw, effectDurationMs,
        effectStepMs, effectRepeatCount, label) =>
      { enabled, channel, gpio, pixelCount, chipset, colorOrder, rgbw, effectDurationMs,
        effectStepMs, effectRepeatCount, label })
    (fun s => (s.enabled, s.channel, s.gpio, s.pixelCount, s.chipset, s.colorOrder, s.rgbw,
      s.effectDurationMs, s.effectStepMs, s.effectRepeatCount, s.label)) fun _ => rfl

def ledStripConfigV5 : Layout LedStripConfigV5 :=
  (Fields.cons .bool <| .cons .u8 <| .cons .i32 <| .cons .u16 <| .cons .u32 <| .cons .u32 <|
    .cons .bool <| .cons .u32 <| .cons .u32 <| .cons .u16 <| .cons .u32 <| .cons .u32 <|
    .cons .u16 <| .cons .u32 <| .cons .u32 <| .cons .u16 <| .cons rgbw <| .cons rgbw <|
    .one (text 24)).struct
    (fun (enabled, channel, gpio, pixelCount, chipset, colorOrder, rgbw, blinkOnMs, blinkOffMs,
        blinkRepeatCount, breatheCycleMs, breatheStepMs, breatheRepeatCount, effectDurationMs,
        effectStepMs, effectRepeatCount, effectColor, effectColor2, label) =>
      { enabled, channel, gpio, pixelCount, chipset, colorOrder, rgbw, blinkOnMs, blinkOffMs,
        blinkRepeatCount, breatheCycleMs, breatheStepMs, breatheRepeatCount, effectDurationMs,
        effectStepMs, effectRepeatCount, effectColor, effectColor2, label })
    (fun s => (s.enabled, s.channel, s.gpio, s.pixelCount, s.chipset, s.colorOrder, s.rgbw,
      s.blinkOnMs, s.blinkOffMs, s.blinkRepeatCount, s.breatheCycleMs, s.breatheStepMs,
      s.breatheRepeatCount, s.effectDurationMs, s.effectStepMs, s.effectRepeatCount,
      s.effectColor, s.effectColor2, s.label)) fun _ => rfl

/-- The fields of a strip from version 6 on: those of version 2, then the presets, then the
    label. -/
def stripFields {Blink Breathe Effects : Type} (blink : Layout Blink) (breathe : Layout Breathe)
    (effects : Layout Effects) : Fields (LedStripConfigV2 × Blink × Breathe × Effects) :=
  (Fields.cons .bool <| .cons .u8 <| .cons .i32 <| .cons .u16 <| .cons .u32 <| .cons .u32 <|
    .cons .bool <| .cons blink <| .cons breathe <| .cons effects <| .one (text 24)).map
    (fun (enabled, channel, gpio, pixelCount, chipset, colorOrder, rgbw, blink, breathe, effects,
        label) =>
      ({ enabled, channel, gpio, pixelCount, chipset, colorOrder, rgbw, label }, blink, breathe,
        effects))
    (fun (s, blink, breathe, effects) => (s.enabled, s.channel, s.gpio, s.pixelCount, s.chipset,
      s.colorOrder, s.rgbw, blink, breathe, effects, s.label)) fun _ => rfl

def ledStripConfigV6 : Layout LedStripConfigV6 :=
  (stripFields blinkPresetV6 breathePresetV6 effectPresetsV7).struct
    (fun (base, blink, breathe, effects) =>
      { toLedStripConfigV2 := base, blink, breathe, effects })
    (fun s => (s.toLedStripConfigV2, s.blink, s.breathe, s.effects)) fun _ => rfl

def ledStripConfigV7 : Layout LedStripConfigV7 :=
  (stripFields blinkPreset breathePreset effectPresetsV7).struct
    (fun (base, blink, breathe, effects) =>
      { toLedStripConfigV2 := base, blink, breathe, effects })
    (fun s => (s.toLedStripConfigV2, s.blink, s.breathe, s.effects)) fun _ => rfl

def ledStripConfigV8 : Layout LedStripConfigV8 :=
  (stripFields blinkPreset breathePreset (effectPresets effectPresetV8)).struct
    (fun (base, blink, breathe, effects) =>
      { toLedStripConfigV2 := base, blink, breathe, effects })
    (fun s => (s.toLedStripConfigV2, s.blink, s.breathe, s.effects)) fun _ => rfl

def ledStripConfig : Layout LedStripConfig :=
  (stripFields blinkPreset breathePreset (effectPresets effectPreset)).struct
    (fun (base, blink, breathe, effects) =>
      { toLedStripConfigV2 := base, blink, breathe, effects })
    (fun s => (s.toLedStripConfigV2, s.blink, s.breathe, s.effects)) fun _ => rfl

def ledEditorStrip {Preset : Type} (preset : Layout Preset) : Layout (LedEditorStrip Preset) :=
  (Fields.cons blinkPreset <| .cons breathePreset <| .one (effectPresets preset)).struct
    (fun (blink, breathe, effects) => { blink, breathe, effects })
    (fun s => (s.blink, s.breathe, s.effects)) fun _ => rfl

/-! ### Layouts of the whole -/

def commonPrefix : Fields CommonPrefix :=
  (Fields.cons .u32 <| .cons (text 32) <| .cons (text 48) <| .cons (text 32) <|
    .cons (text 64) <| .cons (text 64) <| .cons .u16 <| .cons (text 48) <| .cons .i32 <|
    .one .bool).map
    (fun (version, nodeId, nodeName, wifiSsid, wifiPassword, controllerHost, mqttPort,
        mqttClientId, resetGpio, pinConfigLocked) =>
      { version, nodeId, nodeName, wifiSsid, wifiPassword, controllerHost, mqttPort, mqttClientId,
        resetGpio, pinConfigLocked })
    (fun c => (c.version, c.nodeId, c.nodeName, c.wifiSsid, c.wifiPassword, c.controllerHost,
      c.mqttPort, c.mqttClientId, c.resetGpio, c.pinConfigLocked)) fun _ => rfl

/-- The arrays at the end of every version. -/
def arrayFields {Output Universal Strip : Type} (output : Layout Output)
    (universal : Layout Universal) (strip : Layout Strip) :
    Fields ((Fin channelMax → Output) × (Fin channelMax → Output) ×
      (Fin channelMax → Universal) × (Fin ledStripMax → Strip)) :=
  .cons (.array channelMax output) <| .cons (.array channelMax output) <|
    .cons (.array channelMax universal) <| .one (.array ledStripMax strip)

/-- The layout of the versions up to 9. -/
def configOf {Output Universal Strip : Type} (output : Layout Output)
    (universal : Layout Universal) (strip : Layout Strip) :
    Layout (ConfigOf Output Universal Strip) :=
  (commonPrefix.append (arrayFields output universal strip)).struct
    (fun (common, relays, mosfets, universalIo, ledStrips) =>
      { toCommonPrefix := common, relays, mosfets, universalIo, ledStrips })
    (fun c => (c.toCommonPrefix, c.relays, c.mosfets, c.universalIo, c.ledStrips)) fun _ => rfl

def nodeConfigV1 : Layout NodeConfigV1 :=
  configOf outputPinConfigV1 universalPinConfigV11 ledStripConfigV1

def nodeConfigV2 : Layout NodeConfigV2 :=
  configOf outputPinConfigV1 universalPinConfigV11 ledStripConfigV2

def nodeConfigV3 : Layout NodeConfigV3 :=
  configOf outputPinConfigV1 universalPinConfigV11 ledStripConfigV3

def nodeConfigV4 : Layout NodeConfigV4 := nodeConfigV3

def nodeConfigV5 : Layout NodeConfigV5 :=
  configOf outputPinConfigV1 universalPinConfigV11 ledStripConfigV5

def nodeConfigV6 : Layout NodeConfigV6 :=
  configOf outputPinConfigV1 universalPinConfigV11 ledStripConfigV6

def nodeConfigV7 : Layout NodeConfigV7 :=
  configOf outputPinConfigV1 universalPinConfigV11 ledStripConfigV7

def nodeConfigV8 : Layout NodeConfigV8 :=
  configOf outputPinConfig universalPinConfigV11 ledStripConfigV8

def nodeConfigV9 : Layout NodeConfigV9 :=
  configOf outputPinConfig universalPinConfigV11 ledStripConfig

def nodeConfigV10 : Layout NodeConfigV10 :=
  (commonPrefix.append <| .cons .u8 <|
    arrayFields outputPinConfig universalPinConfigV11 ledStripConfig).struct
    (fun (common, operationMode, relays, mosfets, universalIo, ledStrips) =>
      { toCommonPrefix := common, operationMode, relays, mosfets, universalIo, ledStrips })
    (fun c => (c.toCommonPrefix, c.operationMode, c.relays, c.mosfets, c.universalIo,
      c.ledStrips)) fun _ => rfl

def nodeConfigV11 : Layout NodeConfigV11 :=
  (commonPrefix.append <| .cons .u8 <| .cons .bool <|
    arrayFields outputPinConfig universalPinConfigV11 ledStripConfig).struct
    (fun (common, operationMode, standaloneMqttEnabled, relays, mosfets, universalIo,
        ledStrips) =>
      { toCommonPrefix := common, operationMode, standaloneMqttEnabled, relays, mosfets,
        universalIo, ledStrips })
    (fun c => (c.toCommonPrefix, c.operationMode, c.standaloneMqttEnabled, c.relays, c.mosfets,
      c.universalIo, c.ledStrips)) fun _ => rfl

def nodeConfigV12 : Layout NodeConfigV12 := nodeConfigV11

def nodeConfig : Layout NodeConfig :=
  (commonPrefix.append <| .cons .u8 <| .cons .bool <| .cons .u32 <| .cons .u32 <| .cons .u8 <|
    arrayFields outputPinConfig universalPinConfig ledStripConfig).struct
    (fun (common, operationMode, standaloneMqttEnabled, fallbackTimeoutMs, fallbackReturnDelayMs,
        fallbackReturnPolicy, relays, mosfets, universalIo, ledStrips) =>
      { toCommonPrefix := common, operationMode, standaloneMqttEnabled, fallbackTimeoutMs,
        fallbackReturnDelayMs, fallbackReturnPolicy, relays, mosfets, universalIo, ledStrips })
    (fun c => (c.toCommonPrefix, c.operationMode, c.standaloneMqttEnabled, c.fallbackTimeoutMs,
      c.fallbackReturnDelayMs, c.fallbackReturnPolicy, c.relays, c.mosfets, c.universalIo,
      c.ledStrips)) fun _ => rfl

def ledEditorConfig {Preset : Type} (preset : Layout Preset) : Layout (LedEditorConfig Preset) :=
  (Fields.cons .u32 <| .one (.array ledStripMax (ledEditorStrip preset))).struct
    (fun (version, ledStrips) => { version, ledStrips })
    (fun c => (c.version, c.ledStrips)) fun _ => rfl

def ledEditorConfigV1 : Layout (LedEditorConfig EffectPresetV8) := ledEditorConfig effectPresetV8

def ledEditorConfigV2 : Layout (LedEditorConfig EffectPreset) := ledEditorConfig effectPreset

/-- The sizes of the compiler. -/
example :
    [nodeConfigV1.size, nodeConfigV2.size, nodeConfigV3.size, nodeConfigV5.size,
      nodeConfigV6.size, nodeConfigV7.size, nodeConfigV8.size, nodeConfigV9.size,
      nodeConfigV10.size, nodeConfigV11.size, nodeConfig.size, ledEditorConfigV1.size,
      ledEditorConfigV2.size] =
    [1272, 1296, 1320, 1384, 1544, 1560, 3344, 3520, 3520, 3520, 3532, 1476, 1652] := by
  decide

end Config

end SceneHub.Node
