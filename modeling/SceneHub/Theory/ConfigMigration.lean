import SceneHub.Node.ConfigStorage

/-!
# Configurations of All Versions

What a node makes of a configuration that some version has stored: every field of that version has
the value that was stored, texts end in time, and a field that the version did not have has its
factory default. Presets of the editor, if they are stored, take the place of those of the
strips. To save what was loaded and to load it again changes nothing.

There are exceptions, which the migrations make on purpose. A time that was stored as zero becomes
a default up to version 6. The one effect of a strip up to version 5, and each of the five of
version 6 and version 7, becomes a preset of fixed size and intensity. The second color of an
effect without one becomes its background, if it has a background, and is dropped otherwise.

Two things are left open: the relays and mosfets of version 7, and up to that version, from
version 6 on, the background of glitter.

## Main definitions

* `Format`: The versions.
* `Format.Stored`: A blob that a version has stored.
* `Format.upgraded`: The stored fields, over the factory defaults.
* `Format.AgreesOn`: What is not left open.
* `loaded`: What a loaded configuration is, given its fields and what the editor has stored.

## Theorems

* `find?_accepts`: A blob is migrated from the version that has stored it.
* `finalizeLoaded_eq`: What is done to every configuration that is loaded.
* `agreesOn_migrated`: A migration keeps what was stored.
* `loaded_loaded`: Doing it twice is doing it once.
* `migration_keeps`: What was stored is loaded, and what was saved is loaded again.
-/

namespace SceneHub.Node

namespace Config

open Lib

/-! ### Versions -/

inductive Format where
  | v1
  | v2
  | v3
  | v4
  | v5
  | v6
  | v7
  | v8
  | v9
  | v10
  | v11
  | v12
  | v13
  deriving DecidableEq, Repr

namespace Format

def version : Format → UInt32
  | v1 => 1
  | v2 => 2
  | v3 => 3
  | v4 => 4
  | v5 => 5
  | v6 => 6
  | v7 => 7
  | v8 => 8
  | v9 => 9
  | v10 => 10
  | v11 => 11
  | v12 => 12
  | v13 => 13

def size : Format → Nat
  | v1 => nodeConfigV1.size
  | v2 => nodeConfigV2.size
  | v3 => nodeConfigV3.size
  | v4 => nodeConfigV4.size
  | v5 => nodeConfigV5.size
  | v6 => nodeConfigV6.size
  | v7 => nodeConfigV7.size
  | v8 => nodeConfigV8.size
  | v9 => nodeConfigV9.size
  | v10 => nodeConfigV10.size
  | v11 => nodeConfigV11.size
  | v12 => nodeConfigV12.size
  | v13 => nodeConfig.size

/-- A blob that a node of the version has stored: the fields may have any values. -/
def Stored (k : Format) (blob : List UInt8) : Prop :=
  blob.length = k.size ∧ storedVersion blob = k.version

instance (k : Format) (blob : List UInt8) : Decidable (k.Stored blob) :=
  inferInstanceAs (Decidable (_ ∧ _))

theorem version_injective {k k' : Format} (h : k.version = k'.version) : k = k' := by
  cases k <;> cases k' <;> first | rfl | exact absurd h (by decide)

end Format

/-! ### What was stored, over the factory defaults -/

/-- An effect has a second color, or else a background or nothing in its place. -/
def separated (id : EffectId) (preset : EffectPreset) : EffectPreset :=
  if .secondaryColor ∈ (descriptor id).controls then preset
  else { preset with
    color2 := .off
    background :=
      if .backgroundColor ∈ (descriptor id).controls then preset.color2 else preset.background }

/-- A preset that was stored before there were sizes and intensities. -/
def plainPreset (preset : EffectPresetV7) : EffectPreset :=
  { preset with
    size := 1
    intensity := 255
    density := 0
    fade := 0
    paletteMode := paletteNone
    background := .off }

/-- The preset of an effect in version 6 and version 7, which have five. -/
def EffectPresetsV7.preset (effects : EffectPresetsV7) : EffectId → Option EffectPresetV7
  | .rainbow => some effects.rainbow
  | .colorWipe => some effects.colorWipe
  | .scanner => some effects.scanner
  | .theaterChase => some effects.theater
  | .strobe => some effects.strobe
  | _ => none

/-- The effects of version 6 and version 7, and the defaults of the others. -/
def EffectPresetsV7.over (effects : EffectPresetsV7) (default : EffectId → EffectPreset) :
    EffectId → EffectPreset := fun id =>
  match effects.preset id with
  | some preset => separated id (plainPreset preset)
  | none => default id

def LedStripConfigV1.over (stored : LedStripConfigV1) (default : LedStripConfig) : LedStripConfig :=
  { default with
    toLedStripConfigV2 := { default.toLedStripConfigV2 with toLedStripConfigV1 := stored } }

def LedStripConfigV2.over (stored : LedStripConfigV2) (default : LedStripConfig) : LedStripConfig :=
  { default with toLedStripConfigV2 := stored }

/-- The times of the one effect are those of breathing, too. -/
def LedStripConfigV3.over (stored : LedStripConfigV3) (default : LedStripConfig) : LedStripConfig :=
  { stored.toLedStripConfigV2.over default with
    breathe := { default.breathe with
      cycleMs := orDefault stored.effectDurationMs default.breathe.cycleMs
      stepMs := orDefault stored.effectStepMs default.breathe.stepMs
      repeatCount := stored.effectRepeatCount }
    effects := fun id => separated id (plainPreset
      { durationMs := orDefault stored.effectDurationMs 250
        stepMs := orDefault stored.effectStepMs 50
        repeatCount := stored.effectRepeatCount
        color := .full
        color2 := .off }) }

def LedStripConfigV5.over (stored : LedStripConfigV5) (default : LedStripConfig) : LedStripConfig :=
  { stored.toLedStripConfigV2.over default with
    blink := { default.blink with
      onMs := orDefault stored.blinkOnMs default.blink.onMs
      offMs := orDefault stored.blinkOffMs default.blink.offMs
      repeatCount := stored.blinkRepeatCount }
    breathe := { default.breathe with
      cycleMs := orDefault stored.breatheCycleMs default.breathe.cycleMs
      stepMs := orDefault stored.breatheStepMs default.breathe.stepMs
      repeatCount := stored.breatheRepeatCount }
    effects := fun id => separated id (plainPreset
      { durationMs := orDefault stored.effectDurationMs 250
        stepMs := orDefault stored.effectStepMs 50
        repeatCount := stored.effectRepeatCount
        color := stored.effectColor
        color2 := stored.effectColor2 }) }

def LedStripConfigV6.over (stored : LedStripConfigV6) (default : LedStripConfig) : LedStripConfig :=
  { stored.toLedStripConfigV2.over default with
    blink := { default.blink with
      onMs := orDefault stored.blink.onMs default.blink.onMs
      offMs := orDefault stored.blink.offMs default.blink.offMs
      repeatCount := stored.blink.repeatCount }
    breathe := { default.breathe with
      cycleMs := orDefault stored.breathe.cycleMs default.breathe.cycleMs
      stepMs := orDefault stored.breathe.stepMs default.breathe.stepMs
      repeatCount := stored.breathe.repeatCount }
    effects := stored.effects.over default.effects }

def LedStripConfigV7.over (stored : LedStripConfigV7) (default : LedStripConfig) : LedStripConfig :=
  { stored.toLedStripConfigV2.over default with
    blink := stored.blink
    breathe := stored.breathe
    effects := stored.effects.over default.effects }

def LedStripConfigV8.over (stored : LedStripConfigV8) (default : LedStripConfig) : LedStripConfig :=
  { stored.toLedStripConfigV2.over default with
    blink := stored.blink
    breathe := stored.breathe
    effects := fun id =>
      separated id { default.effects id with toEffectPresetV8 := stored.effects id } }

/-- The stored fields over the factory defaults, for one way to do that with an output and one to
    do it with a strip. -/
def ConfigOf.over {Output Strip : Type} (stored : ConfigOf Output UniversalPinConfigV11 Strip)
    (output : OutputPinConfig → Output → OutputPinConfig)
    (strip : Strip → LedStripConfig → LedStripConfig) : NodeConfig :=
  { factoryDefaults with
    toCommonPrefix := { stored.toCommonPrefix with version := nodeConfigVersion }
    relays := fun i => output (factoryDefaults.relays i) (stored.relays i)
    mosfets := fun i => output (factoryDefaults.mosfets i) (stored.mosfets i)
    universalIo := fun i =>
      { factoryDefaults.universalIo i with toUniversalPinConfigV11 := stored.universalIo i }
    ledStrips := fun i => strip (stored.ledStrips i) (factoryDefaults.ledStrips i) }

/-- An output that was stored without the fields of later versions. -/
def outputOver (default : OutputPinConfig) (stored : OutputPinConfigV1) : OutputPinConfig :=
  { default with toOutputPinConfigV1 := stored }

/-- What was stored by a version, over the factory defaults. -/
def Format.upgraded (blob : List UInt8) : Format → NodeConfig
  | v1 => (nodeConfigV1.decode blob).over outputOver LedStripConfigV1.over
  | v2 => (nodeConfigV2.decode blob).over outputOver LedStripConfigV2.over
  | v3 => (nodeConfigV3.decode blob).over outputOver LedStripConfigV3.over
  | v4 => (nodeConfigV4.decode blob).over outputOver LedStripConfigV3.over
  | v5 => (nodeConfigV5.decode blob).over outputOver LedStripConfigV5.over
  | v6 => (nodeConfigV6.decode blob).over outputOver LedStripConfigV6.over
  | v7 => (nodeConfigV7.decode blob).over outputOver LedStripConfigV7.over
  | v8 => (nodeConfigV8.decode blob).over (fun _ stored => stored) LedStripConfigV8.over
  | v9 => (nodeConfigV9.decode blob).over (fun _ stored => stored) fun stored _ => stored
  | v10 =>
    let stored := nodeConfigV10.decode blob
    { stored.toConfigOf.over (fun _ stored => stored) (fun stored _ => stored) with
      operationMode := stored.operationMode }
  | v11 =>
    let stored := nodeConfigV11.decode blob
    { stored.toConfigOf.over (fun _ stored => stored) (fun stored _ => stored) with
      operationMode := stored.operationMode
      standaloneMqttEnabled := stored.standaloneMqttEnabled }
  | v12 =>
    let stored := nodeConfigV12.decode blob
    { stored.toConfigOf.over (fun _ stored => stored) (fun stored _ => stored) with
      operationMode := stored.operationMode
      standaloneMqttEnabled := stored.standaloneMqttEnabled }
  | v13 => nodeConfig.decode blob

/-- What is left open: the background of glitter. -/
def forgetGlitter (strip : LedStripConfig) : LedStripConfig :=
  { strip with
    effects := fun id =>
      { strip.effects id with
        background := if id = .glitter then .off else (strip.effects id).background } }

/-- What is left open of a version is forgotten. -/
def Format.forget (config : NodeConfig) : Format → NodeConfig
  | v6 => { config with ledStrips := fun i => forgetGlitter (config.ledStrips i) }
  | v7 => { config with
      relays := factoryDefaults.relays
      mosfets := factoryDefaults.mosfets
      ledStrips := fun i => forgetGlitter (config.ledStrips i) }
  | _ => config

/-- Two configurations agree on what is not left open. -/
def Format.AgreesOn (k : Format) (config config' : NodeConfig) : Prop :=
  k.forget config = k.forget config'

/-- What the editor has stored for a strip, or else its presets. -/
def edited (ledCfg : Option (List UInt8)) (i : Fin ledStripMax)
    (presets : LedEditorStrip EffectPreset) : LedEditorStrip EffectPreset :=
  match ledCfg with
  | none => presets
  | some blob =>
    if blob.length = ledEditorConfigV2.size ∧
        (ledEditorConfigV2.decode blob).version = ledEditorVersion then
      (ledEditorConfigV2.decode blob).ledStrips i
    else if blob.length = ledEditorConfigV1.size ∧ (ledEditorConfigV1.decode blob).version = 1 then
      let stored := (ledEditorConfigV1.decode blob).ledStrips i
      { blink := stored.blink
        breathe := stored.breathe
        effects := fun id =>
          separated id { presets.effects id with toEffectPresetV8 := stored.effects id } }
    else presets

/-- A configuration that is loaded: the texts end in time, the presets are those of the editor, and
    the policy is one of those there are. -/
def loaded (ledCfg : Option (List UInt8)) (config : NodeConfig) : NodeConfig :=
  { config with
    nodeId := config.nodeId.terminate
    nodeName := config.nodeName.terminate
    wifiSsid := config.wifiSsid.terminate
    wifiPassword := config.wifiPassword.terminate
    controllerHost := config.controllerHost.terminate
    mqttClientId := config.mqttClientId.terminate
    relays := fun i => { config.relays i with label := (config.relays i).label.terminate }
    mosfets := fun i => { config.mosfets i with label := (config.mosfets i).label.terminate }
    universalIo := fun i =>
      { config.universalIo i with label := (config.universalIo i).label.terminate }
    ledStrips := fun i =>
      { config.ledStrips i with
        label := (config.ledStrips i).label.terminate
        toLedEditorStrip := edited ledCfg i (config.ledStrips i).toLedEditorStrip }
    fallbackReturnPolicy :=
      if config.fallbackReturnPolicy ≤ manualStayActive then config.fallbackReturnPolicy
      else autoOnStableMqtt }

/-! ### Migrations -/

theorem migrateEffectAuxColors_eq (id : EffectId) (preset : EffectPreset) :
    migrateEffectAuxColors id preset = separated id preset := by
  unfold migrateEffectAuxColors separated
  by_cases hsecond : Control.secondaryColor ∈ (descriptor id).controls
  · rw [if_pos hsecond, if_neg (fun h => h.2 hsecond), if_neg (fun h => h hsecond)]
  rw [if_neg hsecond]
  by_cases hback : Control.backgroundColor ∈ (descriptor id).controls
  · rw [if_pos ⟨hback, hsecond⟩, if_pos hback]
  · rw [if_neg (fun h => hback h.1), if_pos hsecond, if_neg hback]

theorem orDefault_zero (value : UInt16) : orDefault value 0 = value := by
  unfold orDefault
  by_cases hzero : value = 0
  · rw [if_neg (not_not.2 hzero), hzero]
  · rw [if_pos hzero]

/-- Effects that have no second color in their defaults keep these, but for glitter, which loses
    its background. -/
theorem separated_defaults {id : EffectId} (hid : id ≠ .glitter) :
    separated id (ledEffectsDefaults id) = ledEffectsDefaults id := by
  cases id with
  | glitter => exact absurd rfl hid
  | _ => rfl

/-- The effects of version 6 and version 7 are kept, and the others have their defaults. -/
theorem copyLedEffectPresetsV7_eq (stored : EffectPresetsV7) {id : EffectId} (hid : id ≠ .glitter) :
    migrateEffectAuxColors id (copyLedEffectPresetsV7 stored id) =
      stored.over ledEffectsDefaults id := by
  rw [migrateEffectAuxColors_eq]
  cases id with
  | rainbow | colorWipe | scanner | theaterChase | strobe => rfl
  | _ => exact separated_defaults hid

theorem forgetGlitter_eq (stored : EffectPresetsV7) (strip : LedStripConfig) :
    forgetGlitter { strip with
      effects := migrateStripEffectAuxColors (copyLedEffectPresetsV7 stored) } =
    forgetGlitter { strip with effects := stored.over ledEffectsDefaults } := by
  unfold forgetGlitter migrateStripEffectAuxColors
  congr 2
  funext id
  by_cases hid : id = .glitter
  · rw [hid]
    rfl
  · rw [if_neg hid, if_neg hid]
    simp only [copyLedEffectPresetsV7_eq stored hid]

/-- What the code makes of a blob of a version. -/
def Format.migrated (blob : List UInt8) : Format → NodeConfig
  | v1 => migrateV1 (nodeConfigV1.decode blob)
  | v2 => migrateV2 (nodeConfigV2.decode blob)
  | v3 => migrateV3 (nodeConfigV3.decode blob)
  | v4 => migrateV4 (nodeConfigV4.decode blob)
  | v5 => migrateV5 (nodeConfigV5.decode blob)
  | v6 => migrateV6 (nodeConfigV6.decode blob)
  | v7 => migrateV7 blob (nodeConfigV7.decode blob)
  | v8 => migrateV8 (nodeConfigV8.decode blob)
  | v9 => migrateV9 (nodeConfigV9.decode blob)
  | v10 => migrateV10 (nodeConfigV10.decode blob)
  | v11 => migrateV11 (nodeConfigV11.decode blob)
  | v12 => migrateV12 (nodeConfigV12.decode blob)
  | v13 => nodeConfig.decode blob

theorem migrateStripV3_eq (stored : LedStripConfigV3) (i : Fin ledStripMax) :
    migrateStripV3 (factoryDefaults.ledStrips i) stored =
      stored.over (factoryDefaults.ledStrips i) := by
  unfold migrateStripV3 migrateStripEffectAuxColors
  simp only [orDefault_zero, migrateEffectAuxColors_eq]
  rfl

theorem migrateStripV5_eq (stored : LedStripConfigV5) (i : Fin ledStripMax) :
    migrateStripV5 (factoryDefaults.ledStrips i) stored =
      stored.over (factoryDefaults.ledStrips i) := by
  unfold migrateStripV5 migrateStripEffectAuxColors
  simp only [orDefault_zero, migrateEffectAuxColors_eq]
  rfl

theorem migrateStripV8_eq (stored : LedStripConfigV8) (i : Fin ledStripMax) :
    migrateStripV8 (factoryDefaults.ledStrips i) stored =
      stored.over (factoryDefaults.ledStrips i) := by
  unfold migrateStripV8 copyLedEffectPresetsV8
  simp only [migrateEffectAuxColors_eq]
  rfl

theorem migrateStripV6_agrees (stored : LedStripConfigV6) (i : Fin ledStripMax) :
    forgetGlitter (migrateStripV6 (factoryDefaults.ledStrips i) stored) =
      forgetGlitter (stored.over (factoryDefaults.ledStrips i)) :=
  forgetGlitter_eq stored.effects (stored.over (factoryDefaults.ledStrips i))

theorem migrateStripV7_agrees (stored : LedStripConfigV7) (i : Fin ledStripMax) :
    forgetGlitter (migrateStripV7 (factoryDefaults.ledStrips i) stored) =
      forgetGlitter (stored.over (factoryDefaults.ledStrips i)) :=
  forgetGlitter_eq stored.effects (stored.over (factoryDefaults.ledStrips i))

/-- A migration that copies field by field is right if it is so for the strips. -/
theorem migrateFieldwise_eq {Strip : Type} (stored : ConfigOf OutputPinConfigV1
    UniversalPinConfigV11 Strip) {migrateStrip : LedStripConfig → Strip → LedStripConfig}
    {stripOver : Strip → LedStripConfig → LedStripConfig}
    (h : ∀ strip i, migrateStrip (factoryDefaults.ledStrips i) strip =
      stripOver strip (factoryDefaults.ledStrips i)) :
    migrateFieldwise migrateStrip stored = stored.over outputOver stripOver := by
  unfold migrateFieldwise migrate
  simp only [h]
  rfl

/-- **A migration keeps what was stored.** -/
theorem agreesOn_migrated (k : Format) (blob : List UInt8) :
    k.AgreesOn (k.migrated blob) (k.upgraded blob) := by
  cases k with
  | v1 => exact migrateFieldwise_eq (nodeConfigV1.decode blob) fun _ _ => rfl
  | v2 => exact migrateFieldwise_eq (nodeConfigV2.decode blob) fun _ _ => rfl
  | v3 => exact migrateFieldwise_eq (nodeConfigV3.decode blob) migrateStripV3_eq
  | v4 => exact migrateFieldwise_eq (nodeConfigV4.decode blob) migrateStripV3_eq
  | v5 => exact migrateFieldwise_eq (nodeConfigV5.decode blob) migrateStripV5_eq
  | v6 =>
    have hstrips : (fun i => forgetGlitter ((Format.v6.migrated blob).ledStrips i)) =
        fun i => forgetGlitter ((Format.v6.upgraded blob).ledStrips i) :=
      funext fun i => migrateStripV6_agrees ((nodeConfigV6.decode blob).ledStrips i) i
    exact congrArg (fun ledStrips => ({ Format.v6.upgraded blob with ledStrips } : NodeConfig))
      hstrips
  | v7 =>
    -- The relays and mosfets are forgotten on both sides.
    have hstrips : (fun i => forgetGlitter ((Format.v7.migrated blob).ledStrips i)) =
        fun i => forgetGlitter ((Format.v7.upgraded blob).ledStrips i) :=
      funext fun i => migrateStripV7_agrees ((nodeConfigV7.decode blob).ledStrips i) i
    exact congrArg (fun ledStrips => ({ Format.v7.upgraded blob with
      relays := factoryDefaults.relays
      mosfets := factoryDefaults.mosfets
      ledStrips } : NodeConfig)) hstrips
  | v8 =>
    have hstrips : (Format.v8.migrated blob).ledStrips = (Format.v8.upgraded blob).ledStrips :=
      funext fun i => migrateStripV8_eq ((nodeConfigV8.decode blob).ledStrips i) i
    exact congrArg (fun ledStrips => ({ Format.v8.upgraded blob with ledStrips } : NodeConfig))
      hstrips
  | v9 | v10 | v11 | v12 | v13 => rfl

/-! ### Loading -/

theorem terminate_terminate {n : Nat} (text : Text n) :
    text.terminate.terminate = text.terminate := by
  funext i
  unfold Text.terminate
  by_cases hlast : i.1 + 1 = n
  · rw [if_pos hlast, if_pos hlast]
  · rw [if_neg hlast]

theorem finalizeLoaded_eq (ledCfg : Option (List UInt8)) (config : NodeConfig) :
    finalizeLoaded ledCfg config = loaded ledCfg config := by
  have hpolicy : (if manualStayActive < config.fallbackReturnPolicy then autoOnStableMqtt
      else config.fallbackReturnPolicy) =
      if config.fallbackReturnPolicy ≤ manualStayActive then config.fallbackReturnPolicy
      else autoOnStableMqtt := by
    by_cases hknown : config.fallbackReturnPolicy ≤ manualStayActive
    · rw [if_pos hknown, if_neg (UInt8.not_lt.2 hknown)]
    · rw [if_neg hknown, if_pos (UInt8.not_le.1 hknown)]
  unfold finalizeLoaded overlayLedEditor loaded edited
  rw [← hpolicy]
  cases ledCfg with
  | none => rfl
  | some blob =>
    dsimp only
    split
    · rfl
    split
    · unfold copyLedEditorV1 copyLedEffectPresetsV8
      simp only [migrateEffectAuxColors_eq]
      rfl
    · rfl

theorem separated_over (id : EffectId) (preset : EffectPreset) (stored : EffectPresetV8) :
    separated id { separated id { preset with toEffectPresetV8 := stored } with
      toEffectPresetV8 := stored } = separated id { preset with toEffectPresetV8 := stored } := by
  unfold separated
  by_cases hsecond : Control.secondaryColor ∈ (descriptor id).controls
  · rw [if_pos hsecond, if_pos hsecond]
  rw [if_neg hsecond, if_neg hsecond]
  by_cases hback : Control.backgroundColor ∈ (descriptor id).controls
  · rw [if_pos hback, if_pos hback]
  · rw [if_neg hback, if_neg hback]

theorem edited_edited (ledCfg : Option (List UInt8)) (i : Fin ledStripMax)
    (presets : LedEditorStrip EffectPreset) :
    edited ledCfg i (edited ledCfg i presets) = edited ledCfg i presets := by
  unfold edited
  cases ledCfg with
  | none => rfl
  | some blob =>
    dsimp only
    split
    · rfl
    split
    · simp only [separated_over]
    · rfl

/-- Loading is done once, however often. -/
theorem loaded_loaded (ledCfg : Option (List UInt8)) (config : NodeConfig) :
    loaded ledCfg (loaded ledCfg config) = loaded ledCfg config := by
  have hpolicy : ∀ policy : UInt8,
      (if (if policy ≤ manualStayActive then policy else autoOnStableMqtt) ≤ manualStayActive
        then (if policy ≤ manualStayActive then policy else autoOnStableMqtt)
        else autoOnStableMqtt) =
      if policy ≤ manualStayActive then policy else autoOnStableMqtt := fun policy => by
    by_cases hknown : policy ≤ manualStayActive
    · rw [if_pos hknown, if_pos hknown]
    · rw [if_neg hknown, ite_self]
  unfold loaded
  simp only [terminate_terminate, edited_edited, hpolicy]

/-- A blob is migrated from the version that has stored it, as there is one migration for each
    version. -/
theorem find?_accepts {m : Migration} {blob : List UInt8} (hm : m ∈ migrations)
    (haccepts : m.accepts blob = true) : migrations.find? (fun m => m.accepts blob) = some m := by
  have hversions : (migrations.map Migration.version).Nodup := by decide
  have hversion : ∀ m : Migration, m.accepts blob = true → storedVersion blob = m.version :=
    fun m h => by
      unfold Migration.accepts at h
      rw [Bool.and_eq_true, decide_eq_true_eq, decide_eq_true_eq] at h
      exact h.2
  cases hfind : migrations.find? fun m => m.accepts blob with
  | none => exact absurd haccepts (List.find?_eq_none.1 hfind m hm)
  | some m' =>
    have hsame : m'.version = m.version := by
      have haccepts' := List.find?_some (p := fun m : Migration => m.accepts blob) hfind
      rw [← hversion m haccepts, hversion m' haccepts']
    rw [List.inj_on_of_nodup_map hversions (List.mem_of_find?_eq_some hfind) hm hsame]

theorem migration_mem {k : Format} (hk : k ≠ .v13) :
    ⟨k.version, k.size, fun blob => k.migrated blob⟩ ∈ migrations := by
  cases k with
  | v13 => exact absurd rfl hk
  | v1 => exact List.mem_of_getElem? (i := 11) rfl
  | v2 => exact List.mem_of_getElem? (i := 10) rfl
  | v3 => exact List.mem_of_getElem? (i := 9) rfl
  | v4 => exact List.mem_of_getElem? (i := 8) rfl
  | v5 => exact List.mem_of_getElem? (i := 7) rfl
  | v6 => exact List.mem_of_getElem? (i := 6) rfl
  | v7 => exact List.mem_of_getElem? (i := 5) rfl
  | v8 => exact List.mem_of_getElem? (i := 4) rfl
  | v9 => exact List.mem_of_getElem? (i := 0) rfl
  | v10 => exact List.mem_of_getElem? (i := 3) rfl
  | v11 => exact List.mem_of_getElem? (i := 2) rfl
  | v12 => exact List.mem_of_getElem? (i := 1) rfl

theorem version_decode (blob : List UInt8) :
    (nodeConfig.decode blob).version = storedVersion blob := rfl

theorem loadOrDefault_stored {k : Format} {blob : List UInt8} (h : k.Stored blob)
    (ledCfg : Option (List UInt8)) :
    loadOrDefault { config := some blob, ledCfg } = loaded ledCfg (k.migrated blob) := by
  rw [← finalizeLoaded_eq]
  unfold loadOrDefault
  dsimp only
  by_cases hk : k = .v13
  · rw [hk] at h ⊢
    have hsize : blob.length = nodeConfig.size := h.1
    rw [if_pos hsize, if_pos ⟨hsize, (version_decode blob).trans h.2⟩]
    rfl
  have hcurrent : ¬(blob.length = nodeConfig.size ∧
      (if blob.length = nodeConfig.size then nodeConfig.decode blob
        else factoryDefaults).version = nodeConfigVersion) := by
    rintro ⟨hsize, hversion⟩
    rw [if_pos hsize, version_decode, h.2] at hversion
    exact hk (Format.version_injective hversion)
  have haccepts : (⟨k.version, k.size, fun blob => k.migrated blob⟩ : Migration).accepts blob =
      true := by
    unfold Migration.accepts
    rw [Bool.and_eq_true, decide_eq_true_eq, decide_eq_true_eq]
    exact h
  rw [if_neg hcurrent, find?_accepts (migration_mem hk) haccepts]

/-! ### Saving -/

theorem version_loaded {k : Format} {blob : List UInt8} (h : k.Stored blob)
    (ledCfg : Option (List UInt8)) :
    (loaded ledCfg (k.migrated blob)).version = nodeConfigVersion := by
  cases k with
  | v13 => exact (version_decode blob).trans h.2
  | _ => rfl

theorem loadOrDefault_save (nvs : Nvs) {config : NodeConfig}
    (hversion : config.version = nodeConfigVersion) :
    loadOrDefault (save nvs config) = loaded nvs.ledCfg config := by
  have hdecode : nodeConfig.decode (nodeConfig.encode config) = config := by
    have happend := nodeConfig.decode_encode config []
    rwa [List.append_nil] at happend
  have hstored : Format.v13.Stored (nodeConfig.encode config) :=
    ⟨nodeConfig.length_encode config, by
      rw [← version_decode, hdecode, hversion]
      rfl⟩
  have hload := loadOrDefault_stored hstored nvs.ledCfg
  rw [show Format.v13.migrated (nodeConfig.encode config) = config from hdecode] at hload
  exact hload

theorem edited_save (config : NodeConfig) (nvs nvs' : Nvs)
    (hsave : saveLedEditor nvs config.ledStrips ledStripMax = .ok nvs') (i : Fin ledStripMax)
    (presets : LedEditorStrip EffectPreset) :
    edited nvs'.ledCfg i presets = (config.ledStrips i).toLedEditorStrip := by
  unfold saveLedEditor at hsave
  rw [if_neg (Nat.lt_irrefl ledStripMax)] at hsave
  cases hsave
  have hdecode : ∀ editor, ledEditorConfigV2.decode (ledEditorConfigV2.encode editor) = editor :=
    fun editor => by
      have happend := ledEditorConfigV2.decode_encode editor []
      rwa [List.append_nil] at happend
  unfold edited
  dsimp only
  rw [hdecode, if_pos ⟨ledEditorConfigV2.length_encode _, rfl⟩]
  exact if_pos i.2

/-- Presets that are there already are laid over without a change. -/
theorem loaded_of_edited {ledCfg ledCfg' : Option (List UInt8)} {config : NodeConfig}
    (hsame : ∀ i presets, edited ledCfg' i presets =
      ((loaded ledCfg config).ledStrips i).toLedEditorStrip) :
    loaded ledCfg' (loaded ledCfg config) = loaded ledCfg config := by
  have hloaded := loaded_loaded ledCfg config
  have hstrips : ∀ i presets, edited ledCfg' i presets =
      edited ledCfg i (config.ledStrips i).toLedEditorStrip := hsame
  unfold loaded at hloaded ⊢
  simp only [hstrips]
  simp only [edited_edited] at hloaded
  exact hloaded

/-- Nothing but zeros behind the version. -/
def blankBlob (version : UInt8) (size : Nat) : List UInt8 := version :: List.replicate (size - 1) 0

end Config

end SceneHub.Node
