import SceneHub.Node.ConfigStorage

/-!
# Requests of Administration

`node_admin_control.c`: the requests that change the configuration, each of which stores what it is
asked for and then changes the configuration that is live. `node_config_storage.c`: the Wi-Fi and
the factory reset. What every call on the way answers is given.

The pins of the board come from its build, and what makes a list of cards valid is left open.

## Main definitions

* `AdminIo`: What the calls answer.
* `AdminState`: What is stored, and what is live.
* `handle`: A request is carried out.
-/

namespace SceneHub.Node

namespace Config

/-- What a store answers. What was written may stay behind an error of `nvs_commit`. -/
structure StoreIo where
  err : EspErr := .ok
  kept : Bool := false
  deriving DecidableEq, Repr

def StoreIo.store {α : Type} (io : StoreIo) (stored before : α) : α :=
  if io.err = .ok ∨ io.kept then stored else before

/-- What the calls of a request answer. -/
structure AdminIo where
  config : StoreIo := {}
  led : StoreIo := {}
  cards : StoreIo := {}
  /-- The erasing of `node_config_factory_reset`, and what of it stays behind an error. -/
  erase : EspErr := .ok
  configGone : Bool := false
  ledGone : Bool := false
  /-- What is stored can be read. -/
  readConfig : Bool := true
  readLed : Bool := true
  readCards : Bool := true
  scratch : Bool := true
  lock : Bool := true
  clearBundle : EspErr := .ok
  updateLedConfig : EspErr := .ok
  loadReader : EspErr := .ok
  reload : EspErr := .ok
  deriving DecidableEq, Repr

/-- What is stored, with the known cards under `nfc_cards`, and what is live: the configuration, and
    the cards that the reader knows. -/
structure AdminState (Card : Type) where
  nvs : Nvs
  nfcCards : Option (List Card)
  liveConfig : NodeConfig
  readerCards : List Card

/-- `wifi_ssid[0] = '\0'` and `wifi_password[0] = '\0'`. -/
def clearWifi (config : NodeConfig) : NodeConfig :=
  { config with
    wifiSsid := fun i => if i.1 = 0 then 0 else config.wifiSsid i
    wifiPassword := fun i => if i.1 = 0 then 0 else config.wifiPassword i }

def applyLedOverlay (config : NodeConfig) (ledStrips : Fin ledStripMax → LedStripConfig)
    (count : Nat) : NodeConfig :=
  { config with
    ledStrips := fun i =>
      if i.1 < count then
        { config.ledStrips i with toLedEditorStrip := (ledStrips i).toLedEditorStrip }
      else config.ledStrips i }

/-- What is fixed for a node. `node_board_apply_factory_pin_config` writes to pins only. -/
structure Board (Card : Type) where
  applyFactoryPinConfig : NodeConfig → NodeConfig
  applyFactoryPinConfig_wifi : ∀ config,
    applyFactoryPinConfig (clearWifi config) = clearWifi (applyFactoryPinConfig config)
  applyFactoryPinConfig_editor : ∀ editor config,
    applyFactoryPinConfig (copyLedEditorV2 editor config) =
      copyLedEditorV2 editor (applyFactoryPinConfig config)
  /-- The cards of `node_driver_nfc_reader_load_factory_config`. -/
  factoryCards : List Card
  /-- `node_driver_nfc_contract_validate_config`. -/
  validateCards : List Card → EspErr

def knownCardMax : Nat := 16

/-- A configuration that is to be saved is made from the one that is live. -/
abbrev RequestConfig : Type := { config : NodeConfig // config.version = nodeConfigVersion }

inductive AdminRequest (Card : Type) where
  | saveBase (config : RequestConfig)
  | saveLed (ledStrips : Fin ledStripMax → LedStripConfig) (count : Nat)
  | saveNfcCards (cards : List Card)
  | resetWifi
  | factoryReset

variable {Card : Type}

/-- What `node_config_save_led_editor` leaves, if it is written. -/
def ledEditorSaved (nvs : Nvs) (ledStrips : Fin ledStripMax → LedStripConfig) (count : Nat) : Nvs :=
  (saveLedEditor nvs ledStrips count).toOption.getD nvs

def handleSaveBase (io : AdminIo) (config : NodeConfig) (s : AdminState Card) :
    EspErr × AdminState Card :=
  let s := { s with nvs := io.config.store (save s.nvs config) s.nvs }
  if io.config.err ≠ .ok then (io.config.err, s)
  else
    let s := { s with
      nvs := io.led.store (ledEditorSaved s.nvs config.ledStrips ledStripMax) s.nvs }
    if io.led.err ≠ .ok then (io.led.err, s)
    else if io.lock = false then (.timeout, s)
    else (.ok, { s with liveConfig := config })

def handleSaveLed (io : AdminIo) (ledStrips : Fin ledStripMax → LedStripConfig) (count : Nat)
    (s : AdminState Card) : EspErr × AdminState Card :=
  if ledStripMax < count then (.invalidArg, s)
  else
    let s := { s with nvs := io.led.store (ledEditorSaved s.nvs ledStrips count) s.nvs }
    if io.led.err ≠ .ok then (io.led.err, s)
    else if io.lock = false then (.timeout, s)
    else (io.updateLedConfig, { s with
      liveConfig := applyLedOverlay s.liveConfig ledStrips count })

/-- `handle_save_nfc_cards`. The reader reads the cards back when it is reloaded. -/
def handleSaveNfcCards (board : Board Card) (io : AdminIo) (cards : List Card)
    (s : AdminState Card) : EspErr × AdminState Card :=
  if knownCardMax < cards.length then (.invalidArg, s)
  else if io.scratch = false then (.noMem, s)
  else if io.lock = false then (.timeout, s)
  else if io.loadReader ≠ .ok then (io.loadReader, s)
  else if board.validateCards cards ≠ .ok then (board.validateCards cards, s)
  else
    let s := { s with nfcCards := io.cards.store (some cards) s.nfcCards }
    if io.cards.err ≠ .ok then (io.cards.err, s)
    else if io.reload ≠ .ok then (io.reload, s)
    else (.ok, { s with
      readerCards := (if io.readCards then s.nfcCards else none).getD board.factoryCards })

/-- What is stored, as far as it can be read. -/
def AdminIo.readable (io : AdminIo) (nvs : Nvs) : Nvs :=
  { config := if io.readConfig then nvs.config else none
    ledCfg := if io.readLed then nvs.ledCfg else none }

/-- `handle_reset_wifi`, with `node_config_reset_wifi`. -/
def handleResetWifi (io : AdminIo) (s : AdminState Card) : EspErr × AdminState Card :=
  let config := clearWifi (loadOrDefault (io.readable s.nvs))
  let s := { s with nvs := io.config.store (save s.nvs config) s.nvs }
  if io.config.err ≠ .ok then (io.config.err, s)
  else if io.lock = false then (.timeout, s)
  else (.ok, { s with liveConfig := clearWifi s.liveConfig })

/-- What `node_config_factory_reset` leaves. -/
def AdminIo.erased (io : AdminIo) (nvs : Nvs) : Nvs :=
  { config := if io.erase = .ok ∨ io.configGone then none else nvs.config
    ledCfg := if io.erase = .ok ∨ io.ledGone then none else nvs.ledCfg }

/-- `handle_factory_reset`, with `node_config_factory_reset`. -/
def handleFactoryReset (board : Board Card) (io : AdminIo) (s : AdminState Card) :
    EspErr × AdminState Card :=
  let s := { s with nvs := io.erased s.nvs }
  if io.erase ≠ .ok then (io.erase, s)
  else if io.clearBundle ≠ .ok then (io.clearBundle, s)
  else if io.scratch = false then (.noMem, s)
  else if io.lock = false then (.timeout, s)
  else (.ok, { s with liveConfig := board.applyFactoryPinConfig factoryDefaults })

/-- What `node_admin_task` does with a request that changes the configuration. -/
def handle (board : Board Card) (io : AdminIo) (s : AdminState Card) :
    AdminRequest Card → EspErr × AdminState Card
  | .saveBase config => handleSaveBase io config s
  | .saveLed ledStrips count => handleSaveLed io ledStrips count s
  | .saveNfcCards cards => handleSaveNfcCards board io cards s
  | .resetWifi => handleResetWifi io s
  | .factoryReset => handleFactoryReset board io s

end Config

end SceneHub.Node
