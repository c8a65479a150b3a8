import Mathlib.Data.Fintype.Pi
import SceneHub.Lib.Layout

/-!
# The Configuration of a Node

`node_config.h`, `node_led_effects.c` and `node_config_defaults.c`: what a node is configured with,
what its effects can be told, and what a node has that nobody configured.

Texts are arrays of bytes, as they are stored, and an enumeration is the number that was stored
for it. The colors of a preset, four bytes each in the source, are kept together. What the
pages show of an effect, its name and its notes, is left out.

## Main definitions

* `NodeConfig`: The configuration, and the types of its parts.
* `descriptor`: What the presets of an effect hold, and their defaults.
* `migrateEffectAuxColors`: The second color of older presets.
* `factoryDefaults`: The configuration of a new node.
-/

namespace SceneHub.Node

namespace Config

open Lib

/-! ### Texts -/

/-- An array of characters. -/
abbrev Text (n : Nat) : Type := Fin n → UInt8

/-- The bytes of a text of the source. -/
def ascii (s : String) : List UInt8 := s.toList.map fun c => UInt8.ofNat c.toNat

/-- `node_config_copy_text`. What is behind the text stays where it was. -/
def Text.copy {n : Nat} (dst : Text n) (src : List UInt8) : Text n := fun i =>
  let text := (src.takeWhile (· ≠ 0)).take (n - 1)
  if i.1 < text.length then text.getD i 0
  else if i.1 = text.length then 0
  else dst i

/-- The last character is set to zero. -/
def Text.terminate {n : Nat} (text : Text n) : Text n := fun i => if i.1 + 1 = n then 0 else text i

/-! ### Outputs and inputs -/

/-- `NODE_RELAY_MAX`, and those of the mosfets and of the universal inputs and outputs. -/
def channelMax : Nat := 8

def ledStripMax : Nat := 2

structure OutputPinConfigV1 where
  enabled : Bool
  channel : UInt8
  gpio : Int32
  activeLow : Bool
  label : Text 24

structure OutputPinConfig extends OutputPinConfigV1 where
  pulseDurationMs : UInt32
  fadeDurationMs : UInt32
  blinkOnMs : UInt32
  blinkOffMs : UInt32
  blinkRepeatCount : UInt16
  breatheFadeMs : UInt32
  breatheHoldMs : UInt32
  breatheRepeatCount : UInt16
  defaultValue : UInt8
  defaultTarget : UInt8
  defaultMin : UInt8
  defaultMax : UInt8
  defaultFinalValue : UInt8

/-- `node_universal_pin_config_v1_t`, which was in use up to version 12. -/
structure UniversalPinConfigV11 where
  enabled : Bool
  channel : UInt8
  gpio : Int32
  role : UInt32
  activeLow : Bool
  label : Text 24

structure UniversalPinConfig extends UniversalPinConfigV11 where
  debounceMs : UInt16

/-! ### Effects -/

inductive EffectId where
  | blink
  | breathe
  | rainbow
  | rainbowCycle
  | colorWipe
  | scanner
  | theaterChase
  | strobe
  | pulse
  | fadeInOut
  | twinkle
  | twinkleRandom
  | sparkle
  | glitter
  | comet
  | larson
  | runningLights
  | fireFlicker
  | chaseDual
  | chaseSingle
  | bounce
  | breathWave
  deriving DecidableEq, Repr

def effectCount : Nat := 22

/-- Where the preset of an effect is in an array. -/
def EffectId.index (id : EffectId) : Fin effectCount :=
  ⟨id.ctorIdx, by cases id <;> decide⟩

def EffectId.ofIndex (i : Fin effectCount) : EffectId := EffectId.ofNat i

theorem EffectId.ofIndex_index (id : EffectId) : EffectId.ofIndex id.index = id := by
  cases id <;> rfl

/-- The controls of an effect. -/
inductive Control where
  | speed
  | intensity
  | size
  | density
  | fade
  | primaryColor
  | secondaryColor
  | backgroundColor
  | flashOn
  | flashOff
  | repeatCount
  | paletteMode
  deriving DecidableEq, Repr

structure Rgbw where
  red : UInt8
  green : UInt8
  blue : UInt8
  white : UInt8
  deriving DecidableEq, Repr

def Rgbw.off : Rgbw := ⟨0, 0, 0, 0⟩

def Rgbw.full : Rgbw := ⟨255, 255, 255, 0⟩

structure BlinkPresetV6 where
  onMs : UInt32
  offMs : UInt32
  repeatCount : UInt16
  deriving DecidableEq, Repr

structure BlinkPreset extends BlinkPresetV6 where
  color : Rgbw
  deriving DecidableEq, Repr

structure BreathePresetV6 where
  cycleMs : UInt32
  stepMs : UInt32
  repeatCount : UInt16
  deriving DecidableEq, Repr

structure BreathePreset extends BreathePresetV6 where
  color : Rgbw
  deriving DecidableEq, Repr

structure EffectPresetV7 where
  durationMs : UInt32
  stepMs : UInt32
  repeatCount : UInt16
  color : Rgbw
  color2 : Rgbw
  deriving DecidableEq, Repr

structure EffectPresetV8 extends EffectPresetV7 where
  size : UInt16
  intensity : UInt16
  density : UInt16
  fade : UInt16
  paletteMode : UInt32
  deriving DecidableEq, Repr

structure EffectPreset extends EffectPresetV8 where
  background : Rgbw
  deriving DecidableEq, Repr

/-- `node_led_palette_mode_t`. -/
def paletteNone : UInt32 := 0

def paletteRainbow : UInt32 := 1

def paletteFire : UInt32 := 4

def paletteRandom : UInt32 := 5

/-- `node_led_effect_descriptor_t`. -/
structure Descriptor where
  controls : List Control
  defaults : EffectPreset
  deriving DecidableEq, Repr

def effectDefaults (durationMs stepMs : UInt32)
    (repeatCount size intensity density fade : UInt16) (paletteMode : UInt32)
    (color color2 background : Rgbw) : EffectPreset :=
  { durationMs, stepMs, repeatCount, color, color2, size, intensity, density, fade, paletteMode,
    background }

/-- `s_led_effects`. -/
def descriptor : EffectId → Descriptor
  | .blink => ⟨[.primaryColor, .flashOn, .flashOff, .repeatCount],
    effectDefaults 500 500 0 1 255 0 0 paletteNone .full .off .off⟩
  | .breathe => ⟨[.primaryColor, .speed, .repeatCount],
    effectDefaults 2000 40 0 8 180 0 160 paletteNone .full .off .off⟩
  | .rainbow => ⟨[.speed, .intensity, .repeatCount, .paletteMode],
    effectDefaults 0 50 0 0 128 0 0 paletteRainbow .off .off .off⟩
  | .rainbowCycle => ⟨[.speed, .intensity, .repeatCount, .paletteMode],
    effectDefaults 0 40 0 0 160 0 0 paletteRainbow .off .off .off⟩
  | .colorWipe => ⟨[.primaryColor, .speed, .size, .repeatCount],
    effectDefaults 0 30 0 1 255 0 0 paletteNone .full .off .off⟩
  | .scanner => ⟨[.primaryColor, .backgroundColor, .speed, .size, .fade, .repeatCount],
    effectDefaults 0 40 0 3 255 0 96 paletteNone .full .off .off⟩
  | .theaterChase => ⟨[.primaryColor, .backgroundColor, .speed, .size, .repeatCount],
    effectDefaults 0 80 0 3 255 0 0 paletteNone .full .off .off⟩
  | .strobe => ⟨[.primaryColor, .backgroundColor, .flashOn, .flashOff, .repeatCount],
    effectDefaults 60 60 0 1 255 0 0 paletteNone .full .off .off⟩
  | .pulse => ⟨[.primaryColor, .speed, .intensity, .repeatCount],
    effectDefaults 0 45 0 8 180 0 0 paletteNone .full .off .off⟩
  | .fadeInOut => ⟨[.primaryColor, .speed, .fade, .repeatCount],
    effectDefaults 0 40 0 8 255 0 160 paletteNone .full .off .off⟩
  | .twinkle => ⟨[.primaryColor, .backgroundColor, .speed, .density, .fade, .repeatCount],
    effectDefaults 0 50 0 1 255 40 120 paletteNone .full .off .off⟩
  | .twinkleRandom => ⟨[.backgroundColor, .speed, .density, .fade, .repeatCount, .paletteMode],
    effectDefaults 0 45 0 1 255 45 120 paletteRandom .off .off .off⟩
  | .sparkle => ⟨[.primaryColor, .backgroundColor, .speed, .density, .repeatCount],
    effectDefaults 0 35 0 1 255 20 0 paletteNone .full .off .off⟩
  | .glitter => ⟨[.primaryColor, .backgroundColor, .speed, .density, .repeatCount],
    effectDefaults 0 30 0 1 255 18 0 paletteNone .full .off ⟨16, 16, 16, 0⟩⟩
  | .comet => ⟨[.primaryColor, .backgroundColor, .speed, .size, .fade, .repeatCount],
    effectDefaults 0 35 0 6 255 0 180 paletteNone .full .off .off⟩
  | .larson => ⟨[.primaryColor, .backgroundColor, .speed, .size, .fade, .repeatCount],
    effectDefaults 0 35 0 4 255 0 180 paletteNone ⟨255, 0, 0, 0⟩ .off .off⟩
  | .runningLights => ⟨[.primaryColor, .backgroundColor, .speed, .size, .intensity, .repeatCount],
    effectDefaults 0 35 0 5 160 0 0 paletteNone .full .off .off⟩
  | .fireFlicker => ⟨[.speed, .intensity, .density, .repeatCount, .paletteMode],
    effectDefaults 0 45 0 1 180 70 0 paletteFire .off .off .off⟩
  | .chaseDual => ⟨[.primaryColor, .secondaryColor, .backgroundColor, .speed, .size, .repeatCount],
    effectDefaults 0 45 0 2 255 0 0 paletteNone .full ⟨0, 255, 128, 0⟩ .off⟩
  | .chaseSingle => ⟨[.primaryColor, .backgroundColor, .speed, .size, .repeatCount],
    effectDefaults 0 40 0 2 255 0 0 paletteNone .full .off .off⟩
  | .bounce => ⟨[.primaryColor, .backgroundColor, .speed, .size, .fade, .repeatCount],
    effectDefaults 0 35 0 4 255 0 150 paletteNone .full .off .off⟩
  | .breathWave => ⟨[.primaryColor, .secondaryColor, .speed, .size, .fade, .repeatCount],
    effectDefaults 0 50 0 8 255 0 150 paletteNone .full ⟨0, 32, 64, 96⟩ .off⟩

/-- `migrate_effect_aux_colors`. The second color of an effect that has none was its background, if
    it has a background. -/
def migrateEffectAuxColors (id : EffectId) (preset : EffectPreset) : EffectPreset :=
  if .backgroundColor ∈ (descriptor id).controls ∧ .secondaryColor ∉ (descriptor id).controls then
    { preset with background := preset.color2, color2 := .off }
  else if .secondaryColor ∉ (descriptor id).controls then { preset with color2 := .off }
  else preset

def ledEffectsDefaults (id : EffectId) : EffectPreset := (descriptor id).defaults

/-- `set_led_effect_presets_from_values`: the same preset for every effect. -/
def ledEffectPresetsFromValues (durationMs stepMs : UInt32) (repeatCount : UInt16)
    (color color2 : Rgbw) : EffectId → EffectPreset := fun _ =>
  effectDefaults durationMs stepMs repeatCount 1 255 0 0 paletteNone color color2 .off

/-! ### Strips -/

structure LedStripConfigV1 where
  enabled : Bool
  channel : UInt8
  gpio : Int32
  pixelCount : UInt16
  label : Text 24

structure LedStripConfigV2 extends LedStripConfigV1 where
  chipset : UInt32
  colorOrder : UInt32
  rgbw : Bool

/-- The presets of a strip: `node_led_editor_strip_v1_t` and `node_led_editor_strip_v2_t`. -/
structure LedEditorStrip (Preset : Type) where
  blink : BlinkPreset
  breathe : BreathePreset
  effects : EffectId → Preset

structure LedStripConfig extends LedStripConfigV2, LedEditorStrip EffectPreset

def chipsetWs2812 : UInt32 := 0

def colorOrderGrb : UInt32 := 2

def ledStripRuntimeDefaults : LedEditorStrip EffectPreset :=
  { blink := { onMs := 500, offMs := 500, repeatCount := 0, color := .full }
    breathe := { cycleMs := 2000, stepMs := 40, repeatCount := 0, color := .full }
    effects := ledEffectsDefaults }

/-! ### The whole configuration -/

structure CommonPrefix where
  version : UInt32
  nodeId : Text 32
  nodeName : Text 48
  wifiSsid : Text 32
  wifiPassword : Text 64
  controllerHost : Text 64
  mqttPort : UInt16
  mqttClientId : Text 48
  resetGpio : Int32
  pinConfigLocked : Bool

/-- The arrays behind the first fields, which every version has. -/
structure ConfigOf (Output Universal Strip : Type) extends CommonPrefix where
  relays : Fin channelMax → Output
  mosfets : Fin channelMax → Output
  universalIo : Fin channelMax → Universal
  ledStrips : Fin ledStripMax → Strip

structure NodeConfig extends ConfigOf OutputPinConfig UniversalPinConfig LedStripConfig where
  operationMode : UInt8
  standaloneMqttEnabled : Bool
  fallbackTimeoutMs : UInt32
  fallbackReturnDelayMs : UInt32
  fallbackReturnPolicy : UInt8

def nodeConfigVersion : UInt32 := 13

def operationModeScenehub : UInt8 := 0

/-- `NODE_CONFIG_FALLBACK_RETURN_POLICY_AUTO_ON_STABLE_MQTT` and the one behind it, which is the
    last. -/
def autoOnStableMqtt : UInt8 := 0

def manualStayActive : UInt8 := 1

/-- The label of a channel, which is counted from one. -/
def channelLabel (name : String) (i : Nat) : Text 24 :=
  Text.copy (fun _ => 0) (ascii (name ++ toString (i + 1)))

/-- A relay or a mosfet of a new node. -/
def outputDefaults (name : String) (i : Fin channelMax) : OutputPinConfig :=
  { enabled := false
    channel := UInt8.ofNat (i + 1)
    gpio := -1
    activeLow := false
    label := channelLabel name i
    pulseDurationMs := 300
    fadeDurationMs := 500
    blinkOnMs := 250
    blinkOffMs := 250
    blinkRepeatCount := 3
    breatheFadeMs := 1000
    breatheHoldMs := 0
    breatheRepeatCount := 1
    defaultValue := 255
    defaultTarget := 255
    defaultMin := 0
    defaultMax := 255
    defaultFinalValue := 0 }

def factoryDefaults : NodeConfig :=
  { version := nodeConfigVersion
    nodeId := Text.copy (fun _ => 0) (ascii "scenehub_node_s3")
    nodeName := Text.copy (fun _ => 0) (ascii "SceneHub Node S3")
    wifiSsid := fun _ => 0
    wifiPassword := fun _ => 0
    controllerHost := fun _ => 0
    mqttPort := 1883
    mqttClientId := Text.copy (fun _ => 0) (ascii "dcc-scenehub-node-s3")
    resetGpio := -1
    pinConfigLocked := false
    operationMode := operationModeScenehub
    standaloneMqttEnabled := false
    fallbackTimeoutMs := 0
    fallbackReturnDelayMs := 3000
    fallbackReturnPolicy := autoOnStableMqtt
    relays := outputDefaults "Relay "
    mosfets := outputDefaults "MOSFET "
    universalIo := fun i =>
      { enabled := false
        channel := UInt8.ofNat (i + 1)
        gpio := -1
        role := 0
        activeLow := false
        label := channelLabel "IO " i
        debounceMs := 0 }
    ledStrips := fun i =>
      { enabled := false
        channel := UInt8.ofNat (i + 1)
        gpio := -1
        pixelCount := 30
        chipset := chipsetWs2812
        colorOrder := colorOrderGrb
        rgbw := false
        toLedEditorStrip := ledStripRuntimeDefaults
        label := channelLabel "LED Strip " i } }

end Config

end SceneHub.Node
