import SceneHub.EspErr
import SceneHub.Node.ConfigLegacy

/-!
# Loading and Storing Configurations

`node_config_migrations.c`, `node_config_led_overlay.c`, `node_config_storage.c` and
`node_config.c`: a configuration is stored as it lies in memory, and so it was by every version.
A blob of an earlier version is known by its size and the version in front, and is migrated field
by field. The presets of the editor of effects are stored beside it and laid over it.

The storage works: what is there can be read, and everything can be written. Of a blob that has
no known format the first fields are recovered.

## Main definitions

* `migrateV1`, …, `migrateV12`: The migrations.
* `migrations`: What is tried in which order.
* `overlayLedEditor`: The presets of the editor are laid over.
* `loadOrDefault`: A configuration is loaded.
* `save`, `saveLedEditor`: It is stored.
-/

namespace SceneHub.Node

namespace Config

open Lib

/-! ### Migrations -/

/-- The first fields, which every migration copies. -/
def copyCommon (config : NodeConfig) (legacy : CommonPrefix) : NodeConfig :=
  { config with
    nodeId := legacy.nodeId
    nodeName := legacy.nodeName
    wifiSsid := legacy.wifiSsid
    wifiPassword := legacy.wifiPassword
    controllerHost := legacy.controllerHost
    mqttPort := legacy.mqttPort
    mqttClientId := legacy.mqttClientId
    resetGpio := legacy.resetGpio
    pinConfigLocked := legacy.pinConfigLocked }

/-- The loops over relays and mosfets up to version 6. -/
def copyOutputs (dst : Fin channelMax → OutputPinConfig)
    (src : Fin channelMax → OutputPinConfigV1) : Fin channelMax → OutputPinConfig := fun i =>
  { dst i with
    enabled := (src i).enabled
    channel := (src i).channel
    gpio := (src i).gpio
    activeLow := (src i).activeLow
    label := (src i).label }

def copyUniversalIoV11 (src : Fin channelMax → UniversalPinConfigV11) :
    Fin channelMax → UniversalPinConfig := fun i =>
  { enabled := (src i).enabled
    channel := (src i).channel
    gpio := (src i).gpio
    role := (src i).role
    activeLow := (src i).activeLow
    debounceMs := 0
    label := (src i).label }

def copyLedEffectPresetV7 (src : EffectPresetV7) : EffectPreset :=
  { durationMs := src.durationMs
    stepMs := src.stepMs
    repeatCount := src.repeatCount
    size := 1
    intensity := 255
    density := 0
    fade := 0
    paletteMode := paletteNone
    color := src.color
    color2 := src.color2
    background := .off }

/-- The five effects of version 6 and version 7, and the defaults of the others. -/
def copyLedEffectPresetsV7 (src : EffectPresetsV7) : EffectId → EffectPreset
  | .rainbow => copyLedEffectPresetV7 src.rainbow
  | .colorWipe => copyLedEffectPresetV7 src.colorWipe
  | .scanner => copyLedEffectPresetV7 src.scanner
  | .theaterChase => copyLedEffectPresetV7 src.theater
  | .strobe => copyLedEffectPresetV7 src.strobe
  | id => ledEffectsDefaults id

/-- The presets of version 8, and those of the first version of the editor: what they do not have
    stays as it was. -/
def copyLedEffectPresetsV8 (dst : EffectId → EffectPreset) (src : EffectId → EffectPresetV8) :
    EffectId → EffectPreset := fun id =>
  migrateEffectAuxColors id { dst id with toEffectPresetV8 := src id }

def migrateStripEffectAuxColors (effects : EffectId → EffectPreset) : EffectId → EffectPreset :=
  fun id => migrateEffectAuxColors id (effects id)

/-- A value that is zero is replaced. -/
def orDefault {α : Type} [DecidableEq α] [OfNat α 0] (value default : α) : α :=
  if value ≠ 0 then value else default

def migrateStripV1 (strip : LedStripConfig) (legacy : LedStripConfigV1) : LedStripConfig :=
  { strip with
    enabled := legacy.enabled
    channel := legacy.channel
    gpio := legacy.gpio
    pixelCount := legacy.pixelCount
    chipset := chipsetWs2812
    colorOrder := colorOrderGrb
    rgbw := false
    toLedEditorStrip := ledStripRuntimeDefaults
    label := legacy.label }

/-- What the migrations of strips have in common from version 2 on. -/
def copyStripV2 (strip : LedStripConfig) (legacy : LedStripConfigV2) : LedStripConfig :=
  { strip with
    enabled := legacy.enabled
    channel := legacy.channel
    gpio := legacy.gpio
    pixelCount := legacy.pixelCount
    chipset := legacy.chipset
    colorOrder := legacy.colorOrder
    rgbw := legacy.rgbw
    label := legacy.label }

def migrateStripV2 (strip : LedStripConfig) (legacy : LedStripConfigV2) : LedStripConfig :=
  { copyStripV2 strip legacy with toLedEditorStrip := ledStripRuntimeDefaults }

/-- The strips of version 3 and version 4. -/
def migrateStripV3 (strip : LedStripConfig) (legacy : LedStripConfigV3) : LedStripConfig :=
  { copyStripV2 strip legacy.toLedStripConfigV2 with
    blink := { strip.blink with onMs := 500, offMs := 500, repeatCount := 0 }
    breathe := { strip.breathe with
      cycleMs := orDefault legacy.effectDurationMs 2000
      stepMs := orDefault legacy.effectStepMs 40
      repeatCount := orDefault legacy.effectRepeatCount 0 }
    effects := migrateStripEffectAuxColors
      (ledEffectPresetsFromValues (orDefault legacy.effectDurationMs 250)
        (orDefault legacy.effectStepMs 50) (orDefault legacy.effectRepeatCount 0) .full .off) }

def migrateStripV5 (strip : LedStripConfig) (legacy : LedStripConfigV5) : LedStripConfig :=
  { copyStripV2 strip legacy.toLedStripConfigV2 with
    blink := { strip.blink with
      onMs := orDefault legacy.blinkOnMs 500
      offMs := orDefault legacy.blinkOffMs 500
      repeatCount := orDefault legacy.blinkRepeatCount 0 }
    breathe := { strip.breathe with
      cycleMs := orDefault legacy.breatheCycleMs 2000
      stepMs := orDefault legacy.breatheStepMs 40
      repeatCount := orDefault legacy.breatheRepeatCount 0 }
    effects := migrateStripEffectAuxColors
      (ledEffectPresetsFromValues (orDefault legacy.effectDurationMs 250)
        (orDefault legacy.effectStepMs 50) (orDefault legacy.effectRepeatCount 0)
        legacy.effectColor legacy.effectColor2) }

def migrateStripV6 (strip : LedStripConfig) (legacy : LedStripConfigV6) : LedStripConfig :=
  { copyStripV2 strip legacy.toLedStripConfigV2 with
    blink :=
      { onMs := orDefault legacy.blink.onMs 500
        offMs := orDefault legacy.blink.offMs 500
        repeatCount := legacy.blink.repeatCount
        color := .full }
    breathe :=
      { cycleMs := orDefault legacy.breathe.cycleMs 2000
        stepMs := orDefault legacy.breathe.stepMs 40
        repeatCount := legacy.breathe.repeatCount
        color := .full }
    effects := migrateStripEffectAuxColors (copyLedEffectPresetsV7 legacy.effects) }

def migrateStripV7 (strip : LedStripConfig) (legacy : LedStripConfigV7) : LedStripConfig :=
  { copyStripV2 strip legacy.toLedStripConfigV2 with
    blink := legacy.blink
    breathe := legacy.breathe
    effects := migrateStripEffectAuxColors (copyLedEffectPresetsV7 legacy.effects) }

def migrateStripV8 (strip : LedStripConfig) (legacy : LedStripConfigV8) : LedStripConfig :=
  { copyStripV2 strip legacy.toLedStripConfigV2 with
    blink := legacy.blink
    breathe := legacy.breathe
    effects := copyLedEffectPresetsV8 strip.effects legacy.effects }

/-- What all migrations have in common: they begin with the factory defaults. The relays and
    mosfets are copied one way or another, and so are the strips. -/
def migrate {Output Strip : Type} (legacy : ConfigOf Output UniversalPinConfigV11 Strip)
    (relays mosfets : Fin channelMax → OutputPinConfig)
    (strip : LedStripConfig → Strip → LedStripConfig) : NodeConfig :=
  { copyCommon factoryDefaults legacy.toCommonPrefix with
    version := nodeConfigVersion
    relays
    mosfets
    universalIo := copyUniversalIoV11 legacy.universalIo
    ledStrips := fun i => strip (factoryDefaults.ledStrips i) (legacy.ledStrips i) }

/-- The migrations up to version 6 copy the outputs field by field. -/
def migrateFieldwise {Strip : Type} (strip : LedStripConfig → Strip → LedStripConfig)
    (legacy : ConfigOf OutputPinConfigV1 UniversalPinConfigV11 Strip) : NodeConfig :=
  migrate legacy (copyOutputs factoryDefaults.relays legacy.relays)
    (copyOutputs factoryDefaults.mosfets legacy.mosfets) strip

def migrateV1 : NodeConfigV1 → NodeConfig := migrateFieldwise migrateStripV1

def migrateV2 : NodeConfigV2 → NodeConfig := migrateFieldwise migrateStripV2

def migrateV3 : NodeConfigV3 → NodeConfig := migrateFieldwise migrateStripV3

def migrateV4 : NodeConfigV4 → NodeConfig := migrateFieldwise migrateStripV3

def migrateV5 : NodeConfigV5 → NodeConfig := migrateFieldwise migrateStripV5

def migrateV6 : NodeConfigV6 → NodeConfig := migrateFieldwise migrateStripV6

/-- Where the relays of version 7 are, and its mosfets. -/
def relaysOffsetV7 : Nat := commonPrefix.stop 0 + padding (commonPrefix.stop 0) 4

def mosfetsOffsetV7 : Nat := relaysOffsetV7 + channelMax * outputPinConfigV1.size

/-- `node_config_migrate_v7`. So many bytes are copied as the relays have now, from where the relays
    of version 7 begin, and the same is done with the mosfets. -/
def migrateV7 (bytes : List UInt8) (legacy : NodeConfigV7) : NodeConfig :=
  migrate legacy ((Layout.array channelMax outputPinConfig).decode (bytes.drop relaysOffsetV7))
    ((Layout.array channelMax outputPinConfig).decode (bytes.drop mosfetsOffsetV7)) migrateStripV7

def migrateV8 (legacy : NodeConfigV8) : NodeConfig :=
  migrate legacy legacy.relays legacy.mosfets migrateStripV8

def migrateV9 (legacy : NodeConfigV9) : NodeConfig :=
  { migrate legacy legacy.relays legacy.mosfets (fun _ strip => strip) with
    operationMode := operationModeScenehub }

def migrateV10 (legacy : NodeConfigV10) : NodeConfig :=
  { migrate legacy.toConfigOf legacy.relays legacy.mosfets (fun _ strip => strip) with
    operationMode := legacy.operationMode
    standaloneMqttEnabled := false }

def migrateV11 (legacy : NodeConfigV11) : NodeConfig :=
  { migrate legacy.toConfigOf legacy.relays legacy.mosfets (fun _ strip => strip) with
    operationMode := legacy.operationMode
    standaloneMqttEnabled := legacy.standaloneMqttEnabled }

def migrateV12 (legacy : NodeConfigV12) : NodeConfig := migrateV11 legacy

/-! ### The editor of effects -/

/-- What is stored under `config` and under `led_cfg`. -/
structure Nvs where
  config : Option (List UInt8) := none
  ledCfg : Option (List UInt8) := none

def ledEditorVersion : UInt32 := 2

def copyLedEditorV2 (editor : LedEditorConfig EffectPreset) (config : NodeConfig) : NodeConfig :=
  { config with
    ledStrips := fun i =>
      { config.ledStrips i with
        blink := (editor.ledStrips i).blink
        breathe := (editor.ledStrips i).breathe
        effects := (editor.ledStrips i).effects } }

def copyLedEditorV1 (editor : LedEditorConfig EffectPresetV8) (config : NodeConfig) : NodeConfig :=
  { config with
    ledStrips := fun i =>
      { config.ledStrips i with
        blink := (editor.ledStrips i).blink
        breathe := (editor.ledStrips i).breathe
        effects := copyLedEffectPresetsV8 (config.ledStrips i).effects
          (editor.ledStrips i).effects } }

def overlayLedEditor (ledCfg : Option (List UInt8)) (config : NodeConfig) : NodeConfig :=
  match ledCfg with
  | none => config
  | some blob =>
    if blob.length = ledEditorConfigV2.size ∧
        (ledEditorConfigV2.decode blob).version = ledEditorVersion then
      copyLedEditorV2 (ledEditorConfigV2.decode blob) config
    else if blob.length = ledEditorConfigV1.size ∧ (ledEditorConfigV1.decode blob).version = 1 then
      copyLedEditorV1 (ledEditorConfigV1.decode blob) config
    else config

/-- `node_config_save_led_editor`. The strips that are not given are zero. -/
def saveLedEditor (nvs : Nvs) (ledStrips : Fin ledStripMax → LedStripConfig) (count : Nat) :
    Except EspErr Nvs :=
  if ledStripMax < count then .error .invalidArg
  else
    let editor : LedEditorConfig EffectPreset :=
      { version := ledEditorVersion
        ledStrips := fun i =>
          if i.1 < count then (ledStrips i).toLedEditorStrip
          else (ledEditorStrip effectPreset).decode [] }
    .ok { nvs with ledCfg := some (ledEditorConfigV2.encode editor) }

/-! ### Loading and saving -/

def sanitizeTextFields (config : NodeConfig) : NodeConfig :=
  { config with
    nodeId := config.nodeId.terminate
    nodeName := config.nodeName.terminate
    wifiSsid := config.wifiSsid.terminate
    wifiPassword := config.wifiPassword.terminate
    controllerHost := config.controllerHost.terminate
    mqttClientId := config.mqttClientId.terminate
    relays := fun i => { config.relays i with label := (config.relays i).label.terminate }
    mosfets := fun i => { config.mosfets i with label := (config.mosfets i).label.terminate }
    universalIo := fun i =>
      { config.universalIo i with label := (config.universalIo i).label.terminate }
    ledStrips := fun i => { config.ledStrips i with label := (config.ledStrips i).label.terminate }
    fallbackReturnPolicy :=
      if manualStayActive < config.fallbackReturnPolicy then autoOnStableMqtt
      else config.fallbackReturnPolicy }

def finalizeLoaded (ledCfg : Option (List UInt8)) (config : NodeConfig) : NodeConfig :=
  sanitizeTextFields (overlayLedEditor ledCfg config)

/-- The version that every configuration has in front. -/
def storedVersion (blob : List UInt8) : UInt32 := Layout.u32.decode blob

/-- A format that is migrated. -/
structure Migration where
  version : UInt32
  size : Nat
  migrate : List UInt8 → NodeConfig

/-- What `node_config_load_or_default` tries, in its order. -/
def migrations : List Migration :=
  [⟨9, nodeConfigV9.size, fun blob => migrateV9 (nodeConfigV9.decode blob)⟩,
    ⟨12, nodeConfigV12.size, fun blob => migrateV12 (nodeConfigV12.decode blob)⟩,
    ⟨11, nodeConfigV11.size, fun blob => migrateV11 (nodeConfigV11.decode blob)⟩,
    ⟨10, nodeConfigV10.size, fun blob => migrateV10 (nodeConfigV10.decode blob)⟩,
    ⟨8, nodeConfigV8.size, fun blob => migrateV8 (nodeConfigV8.decode blob)⟩,
    ⟨7, nodeConfigV7.size, fun blob => migrateV7 blob (nodeConfigV7.decode blob)⟩,
    ⟨6, nodeConfigV6.size, fun blob => migrateV6 (nodeConfigV6.decode blob)⟩,
    ⟨5, nodeConfigV5.size, fun blob => migrateV5 (nodeConfigV5.decode blob)⟩,
    ⟨4, nodeConfigV4.size, fun blob => migrateV4 (nodeConfigV4.decode blob)⟩,
    ⟨3, nodeConfigV3.size, fun blob => migrateV3 (nodeConfigV3.decode blob)⟩,
    ⟨2, nodeConfigV2.size, fun blob => migrateV2 (nodeConfigV2.decode blob)⟩,
    ⟨1, nodeConfigV1.size, fun blob => migrateV1 (nodeConfigV1.decode blob)⟩]

/-- The blob has the size of a format and its version in front. -/
def Migration.accepts (m : Migration) (blob : List UInt8) : Bool :=
  blob.length = m.size && storedVersion blob = m.version

/-- The size of `node_config_common_prefix_t`. -/
def commonPrefixSize : Nat := commonPrefix.stop 0 + padding (commonPrefix.stop 0) commonPrefix.align

/-- `node_config_recover_common_prefix`. The texts are read from where they begin up to a zero,
    wherever it is. -/
def recoverCommonPrefix (blob : List UInt8) (config : NodeConfig) : Option NodeConfig :=
  let common := commonPrefix.decode 0 blob
  if blob.length < commonPrefixSize ∨ nodeConfig.size < blob.length then none
  else if common.version = 0 ∨ nodeConfigVersion < common.version then none
  else some { config with
    nodeId := config.nodeId.copy (blob.drop 4)
    nodeName := config.nodeName.copy (blob.drop 36)
    wifiSsid := config.wifiSsid.copy (blob.drop 84)
    wifiPassword := config.wifiPassword.copy (blob.drop 116)
    controllerHost := config.controllerHost.copy (blob.drop 180)
    mqttPort := orDefault common.mqttPort 1883
    mqttClientId := config.mqttClientId.copy (blob.drop 246)
    resetGpio := common.resetGpio
    pinConfigLocked := common.pinConfigLocked
    standaloneMqttEnabled := false
    fallbackTimeoutMs := 0
    fallbackReturnDelayMs := 3000
    fallbackReturnPolicy := autoOnStableMqtt }

/-- `node_config_load_or_default`. A blob of the current size is read whatever its version is. -/
def loadOrDefault (nvs : Nvs) : NodeConfig :=
  match nvs.config with
  | none => finalizeLoaded nvs.ledCfg factoryDefaults
  | some blob =>
    let config := if blob.length = nodeConfig.size then nodeConfig.decode blob else factoryDefaults
    if blob.length = nodeConfig.size ∧ config.version = nodeConfigVersion then
      finalizeLoaded nvs.ledCfg config
    else match migrations.find? fun m => m.accepts blob with
      | some m => finalizeLoaded nvs.ledCfg (m.migrate blob)
      | none =>
        finalizeLoaded nvs.ledCfg ((recoverCommonPrefix blob config).getD factoryDefaults)

def save (nvs : Nvs) (config : NodeConfig) : Nvs :=
  { nvs with config := some (nodeConfig.encode config) }

end Config

end SceneHub.Node
