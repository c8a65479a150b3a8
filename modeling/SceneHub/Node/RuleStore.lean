import SceneHub.EspErr

/-!
# The Rule Bundle Store

Keeping a rule bundle on the node: `node_rule_store.c`. A bundle is written to a
temporary file, the file in use is renamed to a backup, and the temporary file
is renamed to its place. Before there was a file, bundles were kept in the
non-volatile storage, where a load still looks when there is no file.

Whether a call of the file system succeeds is an input. Power can be lost
between two of the calls, so a save gives the files as they are behind each of
them. The file system of the node refuses to rename a file to a name in use;
one that replaces the other file is allowed for as well.

## Main definitions

* `RuleFiles`: The three files, and the non-volatile storage.
* `ruleStoreLoad`: `node_rule_store_load`.
* `RuleBundle`: A bundle that can be saved.
* `ruleStoreSave`: `node_rule_store_save`, call by call.
-/

namespace SceneHub.Node

def ruleBundleStoreMaxLen : Nat := 32768

def ruleStoreVersion : UInt32 := 1

structure RuleBundleMetadata where
  hasBundle : Bool := false
  version : UInt32 := 0
  generation : UInt32 := 0
  rawSize : Nat := 0
  bundleId : String := ""
  mode : String := ""
  deriving DecidableEq, Repr

structure PersistedMetadata where
  storeVersion : UInt32
  ruleVersion : UInt32
  generation : UInt32
  rawSize : UInt32
  hasBundle : UInt8
  bundleId : String
  mode : String
  deriving DecidableEq, Repr

/-- `node_rule_store_entry_t`. The bytes are those in front of the end that a
    load puts behind them. -/
structure RuleStoreEntry where
  metadata : RuleBundleMetadata := {}
  rawJson : List UInt8 := []
  deriving DecidableEq, Repr

def persistedFromMetadata (metadata : RuleBundleMetadata) (rawSize : Nat) : PersistedMetadata where
  storeVersion := ruleStoreVersion
  ruleVersion := metadata.version
  generation := metadata.generation
  rawSize := .ofNat rawSize
  hasBundle := if metadata.hasBundle then 1 else 0
  bundleId := metadata.bundleId
  mode := metadata.mode

def metadataFromPersisted (persisted : PersistedMetadata) : RuleBundleMetadata where
  hasBundle := persisted.hasBundle ≠ 0
  version := persisted.ruleVersion
  generation := persisted.generation
  rawSize := persisted.rawSize.toNat
  bundleId := persisted.bundleId
  mode := persisted.mode

/-- Whether a loaded header announces bytes to read. -/
def RuleBundleMetadata.announces (metadata : RuleBundleMetadata) : Bool :=
  metadata.hasBundle && metadata.rawSize ≠ 0 && metadata.rawSize ≤ ruleBundleStoreMaxLen

/-- What a load makes of a header that announces none. -/
def RuleBundleMetadata.withoutBundle (metadata : RuleBundleMetadata) : RuleBundleMetadata :=
  { metadata with hasBundle := false, rawSize := 0 }

/-! ### The stored data -/

/-- A store file. One shorter than the header has no header. -/
structure StoreFile where
  header : Option PersistedMetadata := none
  body : List UInt8 := []
  deriving DecidableEq, Repr

/-- The two blobs kept before there were files. One whose size is not that of the
    header is `none` inside. -/
structure LegacyNvs where
  metadata : Option (Option PersistedMetadata) := none
  bundle : Option (List UInt8) := none
  deriving DecidableEq, Repr

structure RuleFiles where
  store : Option StoreFile := none
  tmp : Option StoreFile := none
  bak : Option StoreFile := none
  nvs : LegacyNvs := {}
  deriving DecidableEq, Repr

/-! ### Loading -/

/-- `legacy_nvs_load`, where the calls of the storage succeed. A bundle blob
    larger than the announced size does not fit the buffer passed for it. -/
def legacyNvsLoad (nvs : LegacyNvs) : EspErr × RuleStoreEntry :=
  match nvs.metadata with
  | none => (.ok, {})
  | some none => (.invalidVersion, {})
  | some (some persisted) =>
    if persisted.storeVersion ≠ ruleStoreVersion then (.invalidVersion, {})
    else
      let metadata := metadataFromPersisted persisted
      if !metadata.announces then (.ok, { metadata := metadata.withoutBundle })
      else match nvs.bundle with
        | none => (.notFound, {})
        | some raw =>
          if raw.length ≠ metadata.rawSize then (.invalidSize, {}) else (.ok, ⟨metadata, raw⟩)

/-- `load_from_file`, where the calls of the file system succeed. -/
def loadFromFile (file : Option StoreFile) : EspErr × RuleStoreEntry :=
  match file with
  | none => (.notFound, {})
  | some file =>
    match file.header with
    | none => (.invalidSize, {})
    | some persisted =>
      if persisted.storeVersion ≠ ruleStoreVersion then (.invalidVersion, {})
      else
        let metadata := metadataFromPersisted persisted
        if !metadata.announces then (.ok, { metadata := metadata.withoutBundle })
        else if file.body.length < metadata.rawSize then (.invalidSize, {})
        else (.ok, ⟨metadata, file.body.take metadata.rawSize⟩)

/-- `node_rule_store_load`, given what mounting the storage returns. -/
def ruleStoreLoad (mounted : EspErr) (files : RuleFiles) : EspErr × RuleStoreEntry :=
  if mounted = .ok then
    match loadFromFile files.store with
    | (.ok, entry) => (.ok, entry)
    | (.notFound, _) => legacyNvsLoad files.nvs
    | (err, entry) => (err, entry)
  else legacyNvsLoad files.nvs

/-! ### Saving -/

/-- A bundle with its description, as `node_rule_api_apply_bundle_for_config`
    passes them to a save. -/
structure RuleBundle where
  metadata : RuleBundleMetadata
  rawJson : List UInt8
  hasBundle : metadata.hasBundle = true
  size : metadata.rawSize = rawJson.length
  nonempty : rawJson ≠ []
  fits : rawJson.length ≤ ruleBundleStoreMaxLen

def RuleBundle.entry (b : RuleBundle) : RuleStoreEntry := ⟨b.metadata, b.rawJson⟩

/-- The file that a bundle is written as. -/
def RuleBundle.file (b : RuleBundle) : StoreFile :=
  ⟨some (persistedFromMetadata b.metadata b.rawJson.length), b.rawJson⟩

/-- How the calls of a save turn out. A failing `fwrite` leaves `torn` in the
    temporary file. With `replaces` a rename takes the place of a file of that
    name; the node's file system refuses it. -/
structure RuleSaveIo where
  mount : EspErr := .ok
  fopen : Bool := true
  fwrite : Bool := true
  torn : StoreFile := {}
  removeTorn : Bool := true
  removeBak : Bool := true
  renameToBak : Bool := true
  removeBakAgain : Bool := true
  renameToStore : Bool := true
  restore : Bool := true
  removeTmp : Bool := true
  removeBakLast : Bool := true
  nvsOpen : Bool := true
  eraseBundle : Bool := true
  eraseMeta : Bool := true
  replaces : Bool := false
  deriving Repr

/-- Whether a rename comes about: the call succeeds, there is a file to rename,
    and its new name is free or is taken over. -/
def RuleSaveIo.renames (io : RuleSaveIo) (call : Bool) (source target : Option StoreFile) : Bool :=
  call && source.isSome && (target.isNone || io.replaces)

/-- `remove(STORE_BAK_PATH)`. -/
def RuleFiles.dropBak (call : Bool) (files : RuleFiles) : RuleFiles :=
  if call then { files with bak := none } else files

/-- `remove(STORE_TMP_PATH)`. -/
def RuleFiles.dropTmp (call : Bool) (files : RuleFiles) : RuleFiles :=
  if call then { files with tmp := none } else files

/-- `legacy_nvs_clear`: the states behind its calls. -/
def legacyNvsClear (io : RuleSaveIo) (files : RuleFiles) : List RuleFiles :=
  if !io.nvsOpen then []
  else if !io.eraseBundle then []
  else
    let erased := { files with nvs := { files.nvs with bundle := none } }
    if !io.eraseMeta then [erased]
    else [erased, { erased with nvs := { erased.nvs with metadata := none } }]

/-- The files behind the removal of the old backup and the rename to it, with the
    removal that follows where the rename fails. -/
def backUp (io : RuleSaveIo) (files : RuleFiles) : RuleFiles × List RuleFiles :=
  let cleared := files.dropBak io.removeBak
  if io.renames io.renameToBak cleared.store cleared.bak then
    let moved := { cleared with store := none, bak := cleared.store }
    (moved, [cleared, moved])
  else
    let kept := cleared.dropBak io.removeBakAgain
    (kept, [cleared, kept])

/-- What `node_rule_store_save` does behind the backup. -/
def putInPlace (io : RuleSaveIo) (files : RuleFiles) : EspErr × List RuleFiles :=
  if io.renames io.renameToStore files.tmp files.store then
    let placed := { files with store := files.tmp, tmp := none }
    let cleared := placed.dropBak io.removeBakLast
    (.ok, [placed, cleared] ++ legacyNvsClear io cleared)
  else
    let restored :=
      if io.renames io.restore files.bak files.store then
        { files with store := files.bak, bak := none }
      else files
    (.fail, [restored, restored.dropTmp io.removeTmp])

/-- `node_rule_store_save`, with the files behind each of its calls. -/
def ruleStoreSave (io : RuleSaveIo) (b : RuleBundle) (files : RuleFiles) :
    EspErr × List RuleFiles :=
  if io.mount ≠ .ok then (io.mount, [])
  else if !io.fopen then (.fail, [])
  else
    let opened := { files with tmp := some {} }
    if !io.fwrite then
      let torn := { files with tmp := some io.torn }
      (.fail, [opened, torn, torn.dropTmp io.removeTorn])
    else
      let written := { files with tmp := some b.file }
      let (backed, states) := backUp io written
      let (err, rest) := putInPlace io backed
      (err, [opened, written] ++ states ++ rest)

end SceneHub.Node
