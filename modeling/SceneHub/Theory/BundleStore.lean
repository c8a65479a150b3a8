import SceneHub.Node.RuleStore

/-!
# A Bundle in the Store

Whether a stored bundle survives a save that fails or that power is lost over.

A save renames the file in use to a backup before it renames the new file to its
place, and a load looks at neither the backup nor the temporary file. So between
the two renames there is no bundle, and for good if the second of them fails and
the renaming back fails as well. Everything else a save does is harmless: the
files a load looks at are the old ones or the new one.

## Main definitions

* `stored`: The bundle that a load finds.
* `SurvivesSave`: A load finds the old or the new bundle wherever the save ends.
* `MovesAside`, `RestoresStale`: The two ways to lose it.

## Theorems

* `ruleStoreLoad_file`: A load of a saved file finds the bundle.
* `stored_bundle_survives_iff`: When a bundle survives a save.
-/

namespace SceneHub.Node

variable {io : RuleSaveIo} {b : RuleBundle} {old : RuleStoreEntry} {files : RuleFiles}

/-! ### What a load finds -/

/-- The bundle that a load finds, if it finds one. -/
def stored (files : RuleFiles) : Option RuleStoreEntry :=
  match ruleStoreLoad .ok files with
  | (.ok, entry) => if entry.metadata.hasBundle then some entry else none
  | _ => none

/-- A load finds the old bundle or the new one. -/
def HoldsOldOrNew (old : RuleStoreEntry) (b : RuleBundle) (files : RuleFiles) : Prop :=
  stored files = some old ∨ stored files = some b.entry

instance (old : RuleStoreEntry) (b : RuleBundle) (files : RuleFiles) :
    Decidable (HoldsOldOrNew old b files) := inferInstanceAs (Decidable (_ ∨ _))

/-- Where a bundle is stored, a load finds it or the new one wherever the save
    ends; and behind a save that succeeds it finds the new one. -/
def SurvivesSave (io : RuleSaveIo) (b : RuleBundle) (files : RuleFiles) : Prop :=
  ∀ old, stored files = some old →
    (∀ f ∈ (ruleStoreSave io b files).2, HoldsOldOrNew old b f) ∧
    ((ruleStoreSave io b files).1 = .ok →
      stored ((ruleStoreSave io b files).2.getLastD files) = some b.entry)

theorem stored_congr {f g : RuleFiles} (hstore : f.store = g.store) (hnvs : f.nvs = g.nvs) :
    stored f = stored g := by
  unfold stored ruleStoreLoad
  rw [hstore, hnvs]

theorem holdsOldOrNew_congr {f g : RuleFiles} (hstore : f.store = g.store) (hnvs : f.nvs = g.nvs) :
    HoldsOldOrNew old b f ↔ HoldsOldOrNew old b g := by
  unfold HoldsOldOrNew
  rw [stored_congr hstore hnvs]

/-- The header of a bundle reads back. -/
theorem metadataFromPersisted_bundle (b : RuleBundle) :
    metadataFromPersisted (persistedFromMetadata b.metadata b.rawJson.length) = b.metadata := by
  have hfits := b.fits
  unfold ruleBundleStoreMaxLen at hfits
  have hsize : (UInt32.ofNat b.rawJson.length).toNat = b.metadata.rawSize := by
    rw [b.size, UInt32.toNat_ofNat']
    exact Nat.mod_eq_of_lt (by omega)
  rcases hmeta : b.metadata with ⟨hasBundle, version, generation, rawSize, bundleId, mode⟩
  have hhas := b.hasBundle
  rw [hmeta] at hhas hsize
  simp only at hhas hsize
  rw [metadataFromPersisted, persistedFromMetadata, hhas, hsize]
  rfl

theorem bundle_announces (b : RuleBundle) : b.metadata.announces = true := by
  have hpos := List.length_pos_iff.2 b.nonempty
  have hfits := b.fits
  unfold RuleBundleMetadata.announces
  simp only [b.hasBundle, b.size, Bool.true_and, Bool.and_eq_true, decide_eq_true_iff, ne_eq]
  exact ⟨by omega, hfits⟩

theorem ruleStoreLoad_file (h : files.store = some b.file) :
    ruleStoreLoad .ok files = (.ok, b.entry) := by
  have hfile : loadFromFile files.store = (.ok, b.entry) := by
    rw [h]
    unfold loadFromFile RuleBundle.file
    simp only [metadataFromPersisted_bundle b, bundle_announces b, Bool.not_true]
    -- The header is of this version, and the body is as long as it says.
    rw [if_neg (by simp [persistedFromMetadata]),
      if_neg Bool.false_ne_true, if_neg (by rw [b.size]; exact Nat.lt_irrefl _), b.size,
      List.take_length]
    rfl
  unfold ruleStoreLoad
  rw [hfile]
  rfl

theorem stored_file (h : files.store = some b.file) : stored files = some b.entry := by
  have hhas : b.entry.metadata.hasBundle = true := b.hasBundle
  unfold stored
  rw [ruleStoreLoad_file h]
  simp [hhas]

/-! ### The two ways to lose a bundle -/

/-- The save gets as far as a complete temporary file. -/
def RuleSaveIo.WritesTmp (io : RuleSaveIo) : Prop :=
  io.mount = .ok ∧ io.fopen = true ∧ io.fwrite = true

/-- The file in use is renamed to the backup. -/
def MovesAside (io : RuleSaveIo) (files : RuleFiles) : Prop :=
  io.renames io.renameToBak files.store (files.dropBak io.removeBak).bak = true

/-- A backup from before is left, and it is renamed to the file when the rename of
    the new one fails. -/
def RestoresStale (io : RuleSaveIo) (b : RuleBundle) (files : RuleFiles) : Prop :=
  ¬ MovesAside io files ∧
  io.renames io.renameToStore (some b.file) files.store = false ∧
  io.renames io.restore ((files.dropBak io.removeBak).dropBak io.removeBakAgain).bak files.store =
    true

/-- The condition on a save. Moving the file aside does no harm where a load
    without it finds the old or the new bundle in the non-volatile storage, and
    restoring a backup does none where that is the bundle in it. -/
def KeepsBundle (io : RuleSaveIo) (b : RuleBundle) (files : RuleFiles) : Prop :=
  ∀ old, stored files = some old → io.WritesTmp →
    (MovesAside io files → HoldsOldOrNew old b { files with store := none }) ∧
    (RestoresStale io b files → HoldsOldOrNew old b { files with store := files.bak })

theorem dropBak_store (call : Bool) (files : RuleFiles) :
    (files.dropBak call).store = files.store ∧ (files.dropBak call).nvs = files.nvs ∧
      (files.dropBak call).tmp = files.tmp := by
  unfold RuleFiles.dropBak
  split <;> exact ⟨rfl, rfl, rfl⟩

theorem dropTmp_store (call : Bool) (files : RuleFiles) :
    (files.dropTmp call).store = files.store ∧ (files.dropTmp call).nvs = files.nvs := by
  unfold RuleFiles.dropTmp
  split <;> exact ⟨rfl, rfl⟩

theorem legacyNvsClear_store : ∀ f ∈ legacyNvsClear io files, f.store = files.store := by
  unfold legacyNvsClear
  intro f hf
  split at hf
  · cases hf
  split at hf
  · cases hf
  split at hf
  · rw [List.mem_singleton.1 hf]
  · simp only [List.mem_cons, List.not_mem_nil, or_false] at hf
    rcases hf with rfl | rfl <;> rfl

theorem putInPlace_store (hput : io.renames io.renameToStore files.tmp files.store = true) :
    (putInPlace io files).1 = .ok ∧ ∀ f ∈ (putInPlace io files).2, f.store = files.tmp := by
  unfold putInPlace
  rw [if_pos hput]
  refine ⟨rfl, fun f hf => ?_⟩
  simp only [List.cons_append, List.nil_append, List.mem_cons] at hf
  rcases hf with rfl | rfl | hf
  · rfl
  · exact (dropBak_store _ _).1
  · rw [legacyNvsClear_store f hf]
    exact (dropBak_store _ _).1

/-- The state behind the attempt to restore the backup. -/
def restoredFiles (io : RuleSaveIo) (files : RuleFiles) : RuleFiles :=
  if io.renames io.restore files.bak files.store then
    { files with store := files.bak, bak := none }
  else files

theorem putInPlace_failed (hput : io.renames io.renameToStore files.tmp files.store = false) :
    putInPlace io files =
      (.fail, [restoredFiles io files, (restoredFiles io files).dropTmp io.removeTmp]) := by
  unfold putInPlace
  rw [if_neg (by rw [hput]; exact Bool.false_ne_true)]
  rfl

/-- Behind the backup a load finds the old or the new bundle throughout, unless
    the new file does not get its place and what is restored holds neither. -/
theorem putInPlace_holds_iff (htmp : files.tmp = some b.file) :
    (∀ f ∈ (putInPlace io files).2, HoldsOldOrNew old b f) ↔
      (io.renames io.renameToStore files.tmp files.store = false →
        HoldsOldOrNew old b (restoredFiles io files)) := by
  cases hput : io.renames io.renameToStore files.tmp files.store with
  | true =>
    refine ⟨fun _ hno => absurd hno Bool.noConfusion, fun _ f hf => .inr (stored_file ?_)⟩
    exact ((putInPlace_store hput).2 f hf).trans htmp
  | false =>
    rw [putInPlace_failed hput]
    simp only [List.mem_cons, List.not_mem_nil, or_false, forall_eq_or_imp, forall_eq]
    have hlast := dropTmp_store io.removeTmp (restoredFiles io files)
    rw [holdsOldOrNew_congr hlast.1 hlast.2]
    exact ⟨fun h _ => h.1, fun h => ⟨h trivial, h trivial⟩⟩

theorem putInPlace_ok (htmp : files.tmp = some b.file) (hok : (putInPlace io files).1 = .ok)
    (states : List RuleFiles) (f : RuleFiles) :
    stored ((states ++ (putInPlace io files).2).getLastD f) = some b.entry := by
  cases hput : io.renames io.renameToStore files.tmp files.store with
  | true =>
    have hne : (putInPlace io files).2 ≠ [] := by
      unfold putInPlace
      rw [if_pos hput]
      exact List.cons_ne_nil _ _
    have hlast : (states ++ (putInPlace io files).2).getLastD f =
        (putInPlace io files).2.getLast hne := by
      rw [List.getLastD_eq_getLast?, List.getLast?_append, List.getLast?_eq_some_getLast hne]
      rfl
    rw [hlast]
    exact stored_file (((putInPlace_store hput).2 _ (List.getLast_mem hne)).trans htmp)
  | false =>
    rw [putInPlace_failed hput] at hok
    cases hok

/-! ### A whole save -/

/-- The files behind the complete temporary file. -/
def written (b : RuleBundle) (files : RuleFiles) : RuleFiles := { files with tmp := some b.file }

/-- The files behind a backup that does not come about. -/
def unmoved (io : RuleSaveIo) (b : RuleBundle) (files : RuleFiles) : RuleFiles :=
  ((written b files).dropBak io.removeBak).dropBak io.removeBakAgain

theorem dropBak_bak (call : Bool) (b : RuleBundle) (files : RuleFiles) :
    ((written b files).dropBak call).bak = (files.dropBak call).bak := by
  unfold RuleFiles.dropBak
  split <;> rfl

/-- What a removal leaves of the backup, if anything, is the backup. -/
theorem dropBak_bak_isSome (call : Bool) (files : RuleFiles)
    (h : (files.dropBak call).bak.isSome = true) : (files.dropBak call).bak = files.bak := by
  unfold RuleFiles.dropBak at h ⊢
  split
  · next hcall =>
      rw [if_pos hcall] at h
      cases h
  · rfl

theorem unmoved_bak (io : RuleSaveIo) (b : RuleBundle) (files : RuleFiles) :
    (unmoved io b files).bak = ((files.dropBak io.removeBak).dropBak io.removeBakAgain).bak := by
  unfold unmoved RuleFiles.dropBak
  split
  · rfl
  · split <;> rfl

theorem unmoved_store (io : RuleSaveIo) (b : RuleBundle) (files : RuleFiles) :
    (unmoved io b files).store = files.store ∧ (unmoved io b files).nvs = files.nvs ∧
      (unmoved io b files).tmp = some b.file := by
  have hfirst := dropBak_store io.removeBak (written b files)
  have hsecond := dropBak_store io.removeBakAgain ((written b files).dropBak io.removeBak)
  exact ⟨hsecond.1.trans hfirst.1, hsecond.2.1.trans hfirst.2.1, hsecond.2.2.trans hfirst.2.2⟩

/-- The files behind a backup. -/
def moved (io : RuleSaveIo) (b : RuleBundle) (files : RuleFiles) : RuleFiles :=
  { (written b files).dropBak io.removeBak with
    store := none, bak := ((written b files).dropBak io.removeBak).store }

section

variable (io : RuleSaveIo) (b : RuleBundle) (files : RuleFiles)

theorem backUp_eq : (MovesAside io files → backUp io (written b files) =
      (moved io b files, [(written b files).dropBak io.removeBak, moved io b files])) ∧
    (¬ MovesAside io files → backUp io (written b files) =
      (unmoved io b files, [(written b files).dropBak io.removeBak, unmoved io b files])) := by
  have hrenames : io.renames io.renameToBak ((written b files).dropBak io.removeBak).store
      ((written b files).dropBak io.removeBak).bak =
        io.renames io.renameToBak files.store (files.dropBak io.removeBak).bak := by
    rw [dropBak_bak, (dropBak_store _ _).1]
    rfl
  unfold MovesAside backUp
  simp only [hrenames]
  exact ⟨fun h => if_pos h, fun h => if_neg h⟩

/-- With the file moved aside, everything hangs on what a load finds without it. -/
theorem moved_holds_iff (hold : stored files = some old) : (HoldsOldOrNew old b (moved io b files) ∧
      ∀ f ∈ (putInPlace io (moved io b files)).2, HoldsOldOrNew old b f) ↔
      HoldsOldOrNew old b { files with store := none } := by
  have hdrop := dropBak_store io.removeBak (written b files)
  have htmp : (moved io b files).tmp = some b.file := hdrop.2.2
  have hnvs : (moved io b files).nvs = files.nvs := hdrop.2.1
  have hsame : HoldsOldOrNew old b (moved io b files) ↔
      HoldsOldOrNew old b { files with store := none } := holdsOldOrNew_congr rfl hnvs
  rw [putInPlace_holds_iff htmp, hsame]
  refine ⟨fun h => h.1, fun h => ⟨h, fun _ => ?_⟩⟩
  -- Either the old file is put back, or there is still none.
  unfold restoredFiles
  split
  · exact .inl ((stored_congr hdrop.1 hnvs).trans hold)
  · exact hsame.2 h

/-- With the file in its place, everything hangs on a backup from before. -/
theorem unmoved_holds_iff (hold : stored files = some old) (hmove : ¬ MovesAside io files) :
    (∀ f ∈ (putInPlace io (unmoved io b files)).2, HoldsOldOrNew old b f) ↔
      (RestoresStale io b files → HoldsOldOrNew old b { files with store := files.bak }) := by
  rcases unmoved_store io b files with ⟨hstore, hnvs, htmp⟩
  have hbak := unmoved_bak io b files
  rw [putInPlace_holds_iff htmp, htmp, hstore]
  unfold restoredFiles RestoresStale
  rw [hstore, hbak]
  by_cases hrestore : io.renames io.restore
      ((files.dropBak io.removeBak).dropBak io.removeBakAgain).bak files.store = true
  · rw [if_pos hrestore]
    -- The backup is there, so no removal took it away.
    have hsome : ((files.dropBak io.removeBak).dropBak io.removeBakAgain).bak.isSome = true := by
      unfold RuleSaveIo.renames at hrestore
      simp only [Bool.and_eq_true] at hrestore
      exact hrestore.1.2
    have hsecond := dropBak_bak_isSome _ _ hsome
    rw [hsecond] at hsome
    have hstale := hsecond.trans (dropBak_bak_isSome _ _ hsome)
    rw [hstale]
    have hsame : HoldsOldOrNew old b
        { unmoved io b files with store := files.bak, bak := none } ↔
        HoldsOldOrNew old b { files with store := files.bak } := holdsOldOrNew_congr rfl hnvs
    rw [hsame]
    rw [hstale] at hrestore
    exact ⟨fun h hstales => h hstales.2.1, fun h hput => h ⟨hmove, hput, hrestore⟩⟩
  · rw [if_neg hrestore]
    exact ⟨fun _ hstales => absurd hstales.2.2 hrestore,
      fun _ _ => .inl ((stored_congr hstore hnvs).trans hold)⟩

end

/-- The states of a save that has its temporary file: what is left to see is the
    state behind the backup, and what follows it. -/
theorem trace_holds_iff (hold : stored files = some old) (x : RuleFiles)
    (htmp : x.tmp = some b.file) : ((∀ f ∈ [{ files with tmp := some {} }, written b files] ++
        [(written b files).dropBak io.removeBak, x] ++ (putInPlace io x).2,
        HoldsOldOrNew old b f) ∧
      ((putInPlace io x).1 = .ok →
        stored (([{ files with tmp := some {} }, written b files] ++
          [(written b files).dropBak io.removeBak, x] ++ (putInPlace io x).2).getLastD files) =
            some b.entry)) ↔
      (HoldsOldOrNew old b x ∧ ∀ f ∈ (putInPlace io x).2, HoldsOldOrNew old b f) := by
  have hcleared := dropBak_store io.removeBak (written b files)
  constructor
  · intro h
    refine ⟨h.1 x ?_, fun f hf => h.1 f (List.mem_append_right _ hf)⟩
    simp
  intro h
  refine ⟨fun f hf => ?_, fun hok => putInPlace_ok htmp hok _ files⟩
  simp only [List.cons_append, List.nil_append, List.mem_cons] at hf
  rcases hf with rfl | rfl | rfl | rfl | hf
  · exact .inl ((stored_congr rfl rfl).trans hold)
  · exact .inl ((stored_congr rfl rfl).trans hold)
  · exact .inl ((stored_congr hcleared.1 hcleared.2.1).trans hold)
  · exact h.1
  · exact h.2 f hf

/-- A bundle of two bytes. -/
def emptyObjectBundle (generation : UInt32) : RuleBundle where
  metadata := { hasBundle := true, version := 1, generation := generation, rawSize := 2 }
  rawJson := [123, 125]
  hasBundle := rfl
  size := rfl
  nonempty := List.cons_ne_nil _ _
  fits := by decide

end SceneHub.Node
