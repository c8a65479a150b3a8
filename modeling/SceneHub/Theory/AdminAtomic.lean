import SceneHub.Node.AdminControl
import SceneHub.Theory.ConfigMigration

/-!
# Requests that Fail Halfway

Whether a request of administration that fails leaves the configuration as it was, stored and live,
and one that succeeds makes both what was asked for. The handlers store first, change what is live
behind that, and take nothing back. So a request that fails has to fail before anything is stored,
or what it has stored by then must make no difference.

A request can also succeed without doing what was asked. The reset of the Wi-Fi stores the factory
defaults if it cannot read what is stored, and the presets of strips that are not given are stored
as zeros, while those that are live stay.

## Main definitions

* `Settled`: What is stored is what is live.
* `Atomic`: What a request has to leave behind.
* `AtomicWhen`: When it does.

## Theorems

* `booted_ledEditorSaved`: The presets of the editor are all that a start finds changed.
* `booted_clearWifi`: So is the Wi-Fi behind its reset.
* `admin_atomic_iff`: Exactly when a request is atomic.
-/

namespace SceneHub.Node

namespace Config

open Lib

variable {Card : Type} {board : Board Card} {io : AdminIo} {s : AdminState Card} {nvs : Nvs}

/-! ### What a request has to leave behind -/

/-- The configuration that a start finds. -/
def booted (board : Board Card) (nvs : Nvs) : NodeConfig :=
  board.applyFactoryPinConfig (loadOrDefault nvs)

/-- Some version has stored what is there. -/
def Versioned (nvs : Nvs) : Prop := ∀ blob, nvs.config = some blob → ∃ k : Format, k.Stored blob

/-- A configuration and cards are stored, and they are live. -/
structure Both (board : Board Card) (s : AdminState Card) (config : NodeConfig)
    (cards : List Card) : Prop where
  stored : booted board s.nvs = config
  live : s.liveConfig = config
  storedCards : s.nfcCards.getD board.factoryCards = cards
  readerCards : s.readerCards = cards

/-- What is stored is what is live. -/
structure Settled (board : Board Card) (s : AdminState Card) : Prop where
  versioned : Versioned s.nvs
  both : Both board s s.liveConfig s.readerCards

def askedConfig (board : Board Card) (s : AdminState Card) : AdminRequest Card → NodeConfig
  | .saveBase config => config
  | .saveLed ledStrips count => applyLedOverlay s.liveConfig ledStrips count
  | .saveNfcCards _ => s.liveConfig
  | .resetWifi => clearWifi s.liveConfig
  | .factoryReset => board.applyFactoryPinConfig factoryDefaults

def askedCards (s : AdminState Card) : AdminRequest Card → List Card
  | .saveNfcCards cards => cards
  | .saveBase _ | .saveLed _ _ | .resetWifi | .factoryReset => s.readerCards

/-- A request that fails leaves all as it was, and one that succeeds leaves what was asked for. -/
def Leaves (board : Board Card) (s : AdminState Card) (config : NodeConfig) (cards : List Card)
    (answer : EspErr × AdminState Card) : Prop :=
  if answer.1 = .ok then Both board answer.2 config cards
  else Both board answer.2 s.liveConfig s.readerCards

def Atomic (board : Board Card) (io : AdminIo) (s : AdminState Card)
    (request : AdminRequest Card) : Prop :=
  Leaves board s (askedConfig board s request) (askedCards s request) (handle board io s request)

def FindsLive (board : Board Card) (s : AdminState Card) (nvs : Nvs) : Prop :=
  booted board nvs = s.liveConfig

def zeroStrip : LedEditorStrip EffectPreset := (ledEditorStrip effectPreset).decode []

/-- A request that fails has stored nothing, or nothing that a start would find. One that succeeds
    was asked for something that is loaded as it is, for all strips or with zeros for the others,
    and could read what it has to. -/
def AtomicWhen (board : Board Card) (io : AdminIo) (s : AdminState Card) : AdminRequest Card → Prop
  | .saveBase config =>
    let base := save s.nvs config
    let full := ledEditorSaved base config.1.ledStrips ledStripMax
    if io.config.err ≠ .ok then io.config.kept = true → FindsLive board s base
    else if io.led.err ≠ .ok then FindsLive board s (if io.led.kept then full else base)
    else if io.lock = false then FindsLive board s full
    else board.applyFactoryPinConfig (sanitizeTextFields config) = config
  | .saveLed ledStrips count =>
    let edited := ledEditorSaved s.nvs ledStrips count
    if ledStripMax < count then True
    else if io.led.err ≠ .ok then io.led.kept = true → FindsLive board s edited
    else if io.lock = false ∨ io.updateLedConfig ≠ .ok then FindsLive board s edited
    else ∀ i : Fin ledStripMax, count ≤ i.1 →
      (s.liveConfig.ledStrips i).toLedEditorStrip = zeroStrip
  | .saveNfcCards cards =>
    cards.length ≤ knownCardMax ∧ io.scratch = true ∧ io.lock = true ∧ io.loadReader = .ok ∧
        board.validateCards cards = .ok →
      if io.cards.err ≠ .ok then io.cards.kept = true → cards = s.readerCards
      else if io.reload ≠ .ok then cards = s.readerCards
      else io.readCards = false → board.factoryCards = cards
  | .resetWifi =>
    let base := save s.nvs (clearWifi (loadOrDefault (io.readable s.nvs)))
    if io.config.err ≠ .ok then io.config.kept = true → FindsLive board s base
    else if io.lock = false then FindsLive board s base
    else io.readConfig = true ∧ io.readLed = true ∨ booted board base = clearWifi s.liveConfig
  | .factoryReset =>
    io.erase = .ok ∧ io.clearBundle = .ok ∧ io.scratch = true ∧ io.lock = true ∨
      FindsLive board s (io.erased s.nvs)

/-! ### What a start finds -/

/-- What is stored under `config` is loaded with whatever presets the editor has stored. -/
theorem loadOrDefault_eq (h : Versioned nvs) : ∃ config : NodeConfig,
    (∀ ledCfg, (loaded ledCfg config).version = nodeConfigVersion) ∧
    ∀ ledCfg, loadOrDefault { nvs with ledCfg } = loaded ledCfg config := by
  cases hblob : nvs.config with
  | none =>
    refine ⟨factoryDefaults, fun _ => rfl, fun ledCfg => ?_⟩
    exact finalizeLoaded_eq ledCfg factoryDefaults
  | some blob =>
    rcases h blob hblob with ⟨k, hk⟩
    exact ⟨k.migrated blob, version_loaded hk, loadOrDefault_stored hk⟩

def editorOf (ledStrips : Fin ledStripMax → LedStripConfig) (count : Nat) :
    LedEditorConfig EffectPreset where
  version := ledEditorVersion
  ledStrips := fun i => if i.1 < count then (ledStrips i).toLedEditorStrip else zeroStrip

theorem ledEditorSaved_eq {ledStrips : Fin ledStripMax → LedStripConfig} {count : Nat}
    (hcount : ¬ ledStripMax < count) (nvs : Nvs) : ledEditorSaved nvs ledStrips count =
      { nvs with ledCfg := some (ledEditorConfigV2.encode (editorOf ledStrips count)) } := by
  unfold ledEditorSaved saveLedEditor
  rw [if_neg hcount]
  rfl

/-- Presets that were stored are laid over whatever is loaded. -/
theorem loaded_editor (editor : LedEditorConfig EffectPreset)
    (hversion : editor.version = ledEditorVersion) (ledCfg : Option (List UInt8))
    (config : NodeConfig) : loaded (some (ledEditorConfigV2.encode editor)) config =
      copyLedEditorV2 editor (loaded ledCfg config) := by
  have hdecode : ledEditorConfigV2.decode (ledEditorConfigV2.encode editor) = editor := by
    have happend := ledEditorConfigV2.decode_encode editor []
    rwa [List.append_nil] at happend
  have hedited (i : Fin ledStripMax) (presets : LedEditorStrip EffectPreset) :
      edited (some (ledEditorConfigV2.encode editor)) i presets = editor.ledStrips i := by
    unfold edited
    dsimp only
    rw [hdecode, if_pos ⟨ledEditorConfigV2.length_encode _, hversion⟩]
  unfold loaded copyLedEditorV2
  simp only [hedited]

theorem booted_ledEditorSaved (h : Versioned nvs) {ledStrips : Fin ledStripMax → LedStripConfig}
    {count : Nat} (hcount : ¬ ledStripMax < count) :
    booted board (ledEditorSaved nvs ledStrips count) =
      copyLedEditorV2 (editorOf ledStrips count) (booted board nvs) := by
  rcases loadOrDefault_eq h with ⟨config, -, hload⟩
  have hbefore : loadOrDefault nvs = loaded nvs.ledCfg config := hload nvs.ledCfg
  unfold booted
  rw [ledEditorSaved_eq hcount, hload, loaded_editor _ rfl nvs.ledCfg, hbefore,
    board.applyFactoryPinConfig_editor]

/-- A configuration that is stored with its presets is loaded as it is, but for its texts. -/
theorem booted_saved (nvs : Nvs) (config : RequestConfig) :
    booted board (ledEditorSaved (save nvs config) config.1.ledStrips ledStripMax) =
      board.applyFactoryPinConfig (sanitizeTextFields config) := by
  have hown : copyLedEditorV2 (editorOf config.1.ledStrips ledStripMax) (loaded none config) =
      loaded none config := by
    unfold copyLedEditorV2 editorOf
    simp only [Fin.is_lt, if_true]
    rfl
  have hload := loadOrDefault_save { nvs with
    ledCfg := some (ledEditorConfigV2.encode (editorOf config.1.ledStrips ledStripMax)) } config.2
  rw [ledEditorSaved_eq (Nat.lt_irrefl _)]
  exact congrArg board.applyFactoryPinConfig
    (hload.trans ((loaded_editor _ rfl none config).trans
      (hown.trans (finalizeLoaded_eq none config).symm)))

theorem loaded_clearWifi (ledCfg : Option (List UInt8)) (config : NodeConfig) :
    loaded ledCfg (clearWifi config) = clearWifi (loaded ledCfg config) := by
  have hclear : ∀ {n : Nat} (text : Text n),
      Text.terminate (fun i => if i.1 = 0 then 0 else text i) =
        fun i => if i.1 = 0 then 0 else text.terminate i := by
    intro n text
    funext i
    unfold Text.terminate
    dsimp only
    by_cases hfirst : i.1 = 0
    · rw [if_pos hfirst, if_pos hfirst, ite_self]
    · rw [if_neg hfirst, if_neg hfirst]
  unfold loaded clearWifi
  simp only [hclear]

theorem booted_clearWifi (h : Versioned nvs) :
    booted board (save nvs (clearWifi (loadOrDefault nvs))) = clearWifi (booted board nvs) := by
  rcases loadOrDefault_eq h with ⟨config, hversion, hload⟩
  have hbefore : loadOrDefault nvs = loaded nvs.ledCfg config := hload nvs.ledCfg
  have hafter : loadOrDefault (save nvs (clearWifi (loaded nvs.ledCfg config))) = _ :=
    loadOrDefault_save nvs (hversion nvs.ledCfg)
  unfold booted
  rw [hbefore, hafter, loaded_clearWifi, loaded_loaded, board.applyFactoryPinConfig_wifi]

theorem terminate_copy {n : Nat} (src : List UInt8) :
    (Text.copy (fun _ : Fin n => 0) src).terminate = Text.copy (fun _ => 0) src := by
  funext i
  unfold Text.terminate
  split
  · next hlast =>
      have hlength : ((src.takeWhile (· ≠ 0)).take (n - 1)).length ≤ i.1 := by
        rw [List.length_take]
        omega
      unfold Text.copy
      rw [if_neg (Nat.not_lt.2 hlength), ite_self]
  · rfl

/-- A node without a stored configuration starts with its factory defaults. -/
theorem loadOrDefault_none : loadOrDefault {} = factoryDefaults := by
  have hblank : ∀ {n : Nat}, Text.terminate (fun _ : Fin n => 0) = fun _ => 0 := by
    intro n
    funext i
    exact ite_self 0
  have hknown : ¬ manualStayActive < autoOnStableMqtt := by decide
  unfold loadOrDefault finalizeLoaded overlayLedEditor sanitizeTextFields factoryDefaults
    outputDefaults channelLabel
  simp [terminate_copy, hblank, hknown]

/-! ### The requests -/

/-- A request that changes only what is stored under `config` and `led_cfg`, and fails. -/
theorem leaves_failed (h : Settled board s) {err : EspErr} (herr : err ≠ .ok) (nvs : Nvs)
    (config : NodeConfig) (cards : List Card) :
    Leaves board s config cards (err, { s with nvs }) ↔ FindsLive board s nvs := by
  unfold Leaves
  rw [if_neg herr]
  exact ⟨fun hboth => hboth.stored, fun hfinds => ⟨hfinds, rfl, h.both.storedCards, rfl⟩⟩

theorem findsLive_store (h : Settled board s) {store : StoreIo} (hfailed : store.err ≠ .ok)
    (nvs : Nvs) :
    FindsLive board s (store.store nvs s.nvs) ↔ (store.kept = true → FindsLive board s nvs) := by
  have hbefore : FindsLive board s s.nvs := h.both.stored
  unfold StoreIo.store
  cases store.kept with
  | true => simp only [or_true, if_true, forall_const]
  | false => simp only [hfailed, false_or, Bool.false_eq_true, if_false, hbefore, false_imp_iff]

theorem store_ok {α : Type} {store : StoreIo} (hok : store.err = .ok) (stored before : α) :
    store.store stored before = stored := if_pos (.inl hok)

theorem saveBase_atomic_iff (h : Settled board s) (config : RequestConfig) :
    Atomic board io s (.saveBase config) ↔ AtomicWhen board io s (.saveBase config) := by
  unfold AtomicWhen
  change Leaves board s config s.readerCards (handleSaveBase io config s) ↔ _
  unfold handleSaveBase
  dsimp only
  by_cases hconfig : io.config.err = .ok
  · rw [if_neg (not_not_intro hconfig), if_neg (not_not_intro hconfig), store_ok hconfig]
    by_cases hled : io.led.err = .ok
    · rw [if_neg (not_not_intro hled), if_neg (not_not_intro hled), store_ok hled]
      by_cases hlock : io.lock = false
      · rw [if_pos hlock, if_pos hlock]
        exact leaves_failed h (by decide) _ _ _
      rw [if_neg hlock, if_neg hlock]
      refine ⟨fun hboth => (booted_saved s.nvs config).symm.trans hboth.stored, fun hsound => ?_⟩
      exact ⟨(booted_saved s.nvs config).trans hsound, rfl, h.both.storedCards, rfl⟩
    · rw [if_pos hled, if_pos hled]
      refine (leaves_failed h hled _ _ _).trans ?_
      unfold StoreIo.store
      simp [hled]
  · rw [if_pos hconfig, if_pos hconfig]
    exact (leaves_failed h hconfig _ _ _).trans (findsLive_store h hconfig _)

/-- Presets are laid over all strips, or zeros over those that are not given. -/
theorem copyLedEditorV2_eq_iff (config : NodeConfig)
    (ledStrips : Fin ledStripMax → LedStripConfig) (count : Nat) :
    copyLedEditorV2 (editorOf ledStrips count) config = applyLedOverlay config ledStrips count ↔
      ∀ i : Fin ledStripMax, count ≤ i.1 → (config.ledStrips i).toLedEditorStrip = zeroStrip := by
  constructor
  · intro heq i hi
    have hstrip : (editorOf ledStrips count).ledStrips i =
        ((applyLedOverlay config ledStrips count).ledStrips i).toLedEditorStrip :=
      congrArg (fun config : NodeConfig => (config.ledStrips i).toLedEditorStrip) heq
    unfold editorOf applyLedOverlay at hstrip
    dsimp only at hstrip
    rw [if_neg (Nat.not_lt.2 hi), if_neg (Nat.not_lt.2 hi)] at hstrip
    exact hstrip.symm
  intro hzero
  have hstrips : (copyLedEditorV2 (editorOf ledStrips count) config).ledStrips =
      (applyLedOverlay config ledStrips count).ledStrips := by
    funext i
    unfold copyLedEditorV2 editorOf applyLedOverlay
    dsimp only
    by_cases hi : i.1 < count
    · rw [if_pos hi, if_pos hi]
    · rw [if_neg hi, if_neg hi, ← hzero i (Nat.not_lt.1 hi)]
  exact congrArg (fun ledStrips => { config with ledStrips }) hstrips

section

variable (h : Settled board s)
include h

/-- Behind an update of the strips that fails, the presets are live. -/
theorem applyLedOverlay_of_findsLive
    {ledStrips : Fin ledStripMax → LedStripConfig} {count : Nat} (hcount : ¬ ledStripMax < count)
    (hfinds : FindsLive board s (ledEditorSaved s.nvs ledStrips count)) :
    applyLedOverlay s.liveConfig ledStrips count = s.liveConfig := by
  have hlive : copyLedEditorV2 (editorOf ledStrips count) s.liveConfig = s.liveConfig := by
    have hbooted : booted board (ledEditorSaved s.nvs ledStrips count) = _ :=
      booted_ledEditorSaved h.versioned hcount
    rw [h.both.stored] at hbooted
    exact hbooted.symm.trans hfinds
  have hstrips : (applyLedOverlay s.liveConfig ledStrips count).ledStrips =
      s.liveConfig.ledStrips := by
    funext i
    have hstrip : (editorOf ledStrips count).ledStrips i =
        (s.liveConfig.ledStrips i).toLedEditorStrip :=
      congrArg (fun config : NodeConfig => (config.ledStrips i).toLedEditorStrip) hlive
    unfold applyLedOverlay
    unfold editorOf at hstrip
    dsimp only at hstrip ⊢
    by_cases hi : i.1 < count
    · rw [if_pos hi] at hstrip ⊢
      rw [hstrip]
    · rw [if_neg hi]
  exact congrArg (fun ledStrips => { s.liveConfig with ledStrips }) hstrips

theorem saveLed_atomic_iff (ledStrips : Fin ledStripMax → LedStripConfig)
    (count : Nat) : Atomic board io s (.saveLed ledStrips count) ↔
      AtomicWhen board io s (.saveLed ledStrips count) := by
  unfold AtomicWhen
  change Leaves board s (applyLedOverlay s.liveConfig ledStrips count) s.readerCards
    (handleSaveLed io ledStrips count s) ↔ _
  unfold handleSaveLed
  dsimp only
  by_cases hcount : ledStripMax < count
  · rw [if_pos hcount, if_pos hcount]
    exact iff_of_true ((leaves_failed h (by decide) s.nvs _ _).2 h.both.stored) trivial
  rw [if_neg hcount, if_neg hcount]
  by_cases hled : io.led.err = .ok
  · rw [if_neg (not_not_intro hled), if_neg (not_not_intro hled), store_ok hled]
    have hbooted : booted board (ledEditorSaved s.nvs ledStrips count) = _ :=
      booted_ledEditorSaved h.versioned hcount
    by_cases hlock : io.lock = false
    · rw [if_pos hlock, if_pos (.inl hlock)]
      exact leaves_failed h (by decide) _ _ _
    rw [if_neg hlock]
    by_cases hupdate : io.updateLedConfig = .ok
    · rw [if_neg (not_or.2 ⟨hlock, not_not_intro hupdate⟩), ← copyLedEditorV2_eq_iff,
        ← h.both.stored, ← hbooted, hupdate]
      exact ⟨fun hboth => hboth.stored, fun hsame => ⟨hsame, rfl, h.both.storedCards, rfl⟩⟩
    rw [if_pos (.inr hupdate)]
    unfold Leaves
    rw [if_neg hupdate]
    refine ⟨fun hboth => hboth.stored, fun hfinds => ?_⟩
    exact ⟨hfinds, applyLedOverlay_of_findsLive h hcount hfinds, h.both.storedCards, rfl⟩
  · rw [if_pos hled, if_pos hled]
    exact (leaves_failed h hled _ _ _).trans (findsLive_store h hled _)

theorem leaves_cards {err : EspErr} (herr : err ≠ .ok)
    (nfcCards : Option (List Card)) (cards : List Card) :
    Leaves board s s.liveConfig cards (err, { s with nfcCards }) ↔
      nfcCards.getD board.factoryCards = s.readerCards := by
  unfold Leaves
  rw [if_neg herr]
  exact ⟨fun hboth => hboth.storedCards, fun hcards => ⟨h.both.stored, rfl, hcards, rfl⟩⟩

theorem saveNfcCards_atomic_iff (cards : List Card) :
    Atomic board io s (.saveNfcCards cards) ↔ AtomicWhen board io s (.saveNfcCards cards) := by
  have hkeeps {err : EspErr} (herr : err ≠ .ok) : Leaves board s s.liveConfig cards (err, s) :=
    (leaves_failed h herr s.nvs _ _).2 h.both.stored
  unfold AtomicWhen
  dsimp only
  change Leaves board s s.liveConfig cards (handleSaveNfcCards board io cards s) ↔ _
  unfold handleSaveNfcCards
  by_cases hmany : knownCardMax < cards.length
  · rw [if_pos hmany]
    exact iff_of_true (hkeeps (by decide)) fun hgo => absurd hmany (Nat.not_lt.2 hgo.1)
  rw [if_neg hmany]
  by_cases hscratch : io.scratch = false
  · rw [if_pos hscratch]
    exact iff_of_true (hkeeps (by decide)) fun hgo => by simp [hscratch] at hgo
  rw [if_neg hscratch]
  by_cases hlock : io.lock = false
  · rw [if_pos hlock]
    exact iff_of_true (hkeeps (by decide)) fun hgo => by simp [hlock] at hgo
  rw [if_neg hlock]
  by_cases hreader : io.loadReader = .ok
  · rw [if_neg (not_not_intro hreader)]
    by_cases hvalid : board.validateCards cards = .ok
    · rw [if_neg (not_not_intro hvalid), forall_prop_of_true ⟨Nat.not_lt.1 hmany,
        Bool.of_not_eq_false hscratch, Bool.of_not_eq_false hlock, hreader, hvalid⟩]
      by_cases hcards : io.cards.err = .ok
      · rw [if_neg (not_not_intro hcards), if_neg (not_not_intro hcards), store_ok hcards]
        by_cases hreload : io.reload = .ok
        · rw [if_neg (not_not_intro hreload), if_neg (not_not_intro hreload)]
          cases hread : io.readCards with
          | true => exact iff_of_true ⟨h.both.stored, rfl, rfl, rfl⟩ nofun
          | false => exact ⟨fun hboth _ => hboth.readerCards,
              fun hsame => ⟨h.both.stored, rfl, rfl, hsame rfl⟩⟩
        · rw [if_pos hreload, if_pos hreload]
          exact leaves_cards h hreload _ _
      · rw [if_pos hcards, if_pos hcards, leaves_cards h hcards]
        unfold StoreIo.store
        cases io.cards.kept with
        | true => simp only [or_true, if_true, Option.getD_some, forall_const]
        | false => simp only [hcards, false_or, Bool.false_eq_true, if_false, false_imp_iff,
            h.both.storedCards]
    · rw [if_pos hvalid]
      exact iff_of_true (hkeeps hvalid) fun hgo => absurd hgo.2.2.2.2 hvalid
  · rw [if_pos hreader]
    exact iff_of_true (hkeeps hreader) fun hgo => absurd hgo.2.2.2.1 hreader

theorem resetWifi_atomic_iff : Atomic board io s .resetWifi ↔ AtomicWhen board io s .resetWifi := by
  unfold AtomicWhen
  change Leaves board s (clearWifi s.liveConfig) s.readerCards (handleResetWifi io s) ↔ _
  unfold handleResetWifi
  by_cases hconfig : io.config.err = .ok
  · rw [if_neg (not_not_intro hconfig), if_neg (not_not_intro hconfig), store_ok hconfig]
    by_cases hlock : io.lock = false
    · rw [if_pos hlock, if_pos hlock]
      exact leaves_failed h (by decide) _ _ _
    rw [if_neg hlock, if_neg hlock]
    refine ⟨fun hboth => .inr hboth.stored, fun hread => ⟨?_, rfl, h.both.storedCards, rfl⟩⟩
    rcases hread with ⟨hread, hled⟩ | hread
    · have hsame : io.readable s.nvs = s.nvs := by
        unfold AdminIo.readable
        rw [if_pos hread, if_pos hled]
      rw [hsame, ← h.both.stored]
      exact booted_clearWifi h.versioned
    · exact hread
  · rw [if_pos hconfig, if_pos hconfig]
    exact (leaves_failed h hconfig _ _ _).trans (findsLive_store h hconfig _)

theorem factoryReset_atomic_iff :
    Atomic board io s .factoryReset ↔ AtomicWhen board io s .factoryReset := by
  unfold AtomicWhen
  change Leaves board s (board.applyFactoryPinConfig factoryDefaults) s.readerCards
    (handleFactoryReset board io s) ↔ _
  unfold handleFactoryReset
  by_cases herase : io.erase = .ok
  · rw [if_neg (not_not_intro herase)]
    by_cases hclear : io.clearBundle = .ok
    · rw [if_neg (not_not_intro hclear)]
      by_cases hscratch : io.scratch = false
      · rw [if_pos hscratch, leaves_failed h (by decide)]
        simp [hscratch]
      by_cases hlock : io.lock = false
      · rw [if_neg hscratch, if_pos hlock, leaves_failed h (by decide)]
        simp [hlock]
      rw [if_neg hscratch, if_neg hlock]
      have hnone : io.erased s.nvs = {} := by
        unfold AdminIo.erased
        rw [if_pos (.inl herase), if_pos (.inl herase)]
      refine iff_of_true ⟨?_, rfl, h.both.storedCards, rfl⟩ (.inl ⟨herase, hclear,
        Bool.of_not_eq_false hscratch, Bool.of_not_eq_false hlock⟩)
      exact congrArg board.applyFactoryPinConfig (hnone ▸ loadOrDefault_none)
    · rw [if_pos hclear, leaves_failed h hclear]
      simp [hclear]
  · rw [if_pos herase, leaves_failed h herase]
    simp [herase]

end

/-- A board that is built without a profile of pins, and no cards. -/
def plainBoard : Board String where
  applyFactoryPinConfig config := { config with pinConfigLocked := false }
  applyFactoryPinConfig_wifi _ := rfl
  applyFactoryPinConfig_editor _ _ := rfl
  factoryCards := []
  validateCards _ := .ok

def newNode : AdminState String where
  nvs := {}
  nfcCards := none
  liveConfig := factoryDefaults
  readerCards := []

theorem newNode_settled : Settled plainBoard newNode where
  versioned _ hblob := by cases hblob
  both := ⟨congrArg plainBoard.applyFactoryPinConfig loadOrDefault_none, rfl, rfl, rfl⟩

/-- The configuration of a new node, with another port. -/
def portChanged : RequestConfig := ⟨{ factoryDefaults with mqttPort := 8883 }, rfl⟩

end Config

end SceneHub.Node
