import SceneHub.Storage.GameProfile
import SceneHub.Storage.RoomCatalog
import SceneHub.Theory.AllOrNothing

/-!
# Tables and Their Files

Whether the table of profiles and the table of rooms are kept as a whole in their files.

Both change the table first and save it behind that, through a temporary file that takes
the place of the file once that is unlinked. So a save that fails leaves the change in
memory, and power that is lost behind the unlink leaves no file. A file that is longer
than the loader's limit is written, and then never read again. A member that memory runs
out for is missing from the file without a word.

What the two tables have in common is argued once, for every table with a format. What is
left for each of them is which of the members may be missing.

## Main definitions

* `FileTable.found`: What a load finds at power on.
* `FileTable.Whole`: The promise for one call.
* `FileTable.Restoring`: Which rows are read back from what is written of them.
* `FileTable.SafeSave`, `FileTable.KeepsWhole`: The condition on a call.

## Theorems

* `importRows_eq_ok_iff`: When an import is taken.
* `FileTable.found_new_iff`: When a new file is read back.
* `FileTable.whole_iff`: The promise is kept exactly under the condition.
* `Stored.tables_whole_iff`: The same of profiles and of rooms.
-/

namespace SceneHub

open Lib (bind_eq_ok_iff)
open Json

variable {io : TableIo} {cj : CJson} {d : Disk}

variable {τ κ ρ : Type}

/-! ### Imports -/

/-- A tree passes the checks of an import, and these are its rows. -/
def ImportedAs (fmt : RowFormat ρ) (io : TableIo) (root : Json) (rows : List ρ) : Prop :=
  root.isObject = true ∧
  (∃ version, root.get "version" = some (.number version) ∧ Json.valueInt version = 1) ∧
  (∃ items, root.get fmt.name = some (.array items) ∧ items.length ≤ fmt.maxRows ∧
    (items = [] ∨ io.items = true) ∧ Lib.readAll fmt.fromJson items = .ok rows) ∧
  (rows.map fmt.id).Nodup ∧ io.store.lock = .ok

theorem importRows_eq_ok_iff (fmt : RowFormat ρ) (io : TableIo) (root : Json) (rows : Rows fmt) :
    importRows fmt io root = .ok rows ↔ ImportedAs fmt io root rows.list := by
  constructor
  · intro h
    unfold importRows at h
    split at h
    · cases h
    · next hobject =>
        split at h
        · next version hversion =>
            split at h
            · cases h
            · next hone =>
                split at h
                · next items hitems =>
                    split at h
                    · cases h
                    · next hcount =>
                        split at h
                        · cases h
                        · next hmemory =>
                            split at h
                            · cases h
                            · next list hread =>
                                split at h
                                · cases h
                                · next hlock =>
                                    cases h
                                    rcases (fmt.readItems_ok items list).1 hread with ⟨hall, hids⟩
                                    refine ⟨by simpa using hobject, ⟨version, hversion, ?_⟩,
                                      ⟨items, hitems, Nat.not_lt.1 hcount, ?_, hall⟩, hids, ?_⟩
                                    · exact not_not.1 hone
                                    · by_cases hnil : items = []
                                      · exact .inl hnil
                                      have hpos := List.length_pos_of_ne_nil hnil
                                      right
                                      by_cases hmem : io.items = true
                                      · exact hmem
                                      · rw [Bool.not_eq_true] at hmem
                                        exact absurd ⟨hpos, by rw [hmem]; rfl⟩ hmemory
                                    · exact not_not.1 hlock
                · cases h
        · cases h
  · rintro ⟨hobject, ⟨version, hversion, hone⟩, ⟨items, hitems, hcount, hmemory, hall⟩, hids, hlock⟩
    have hmem : ¬(0 < items.length ∧ (!io.items) = true) := by
      rintro ⟨hpos, hfail⟩
      rcases hmemory with rfl | hmemory
      · cases hpos
      · rw [hmemory] at hfail
        cases hfail
    have hread := (fmt.readItems_ok items rows.list).2 ⟨hall, hids⟩
    unfold importRows
    rw [hobject, hversion]
    dsimp only
    rw [if_neg (by decide), if_neg (not_not.2 hone), hitems]
    dsimp only
    rw [dif_neg (Nat.not_lt.2 hcount), if_neg hmem]
    split
    · next herror =>
        rw [hread] at herror
        cases herror
    · next list hlist =>
        rw [hread] at hlist
        cases hlist
        rw [if_neg (not_not.2 hlock)]

/-- An import that is refused says so, and not that there is no file. -/
theorem importRows_error (fmt : RowFormat ρ) {root : Json} {err : EspErr}
    (h : importRows fmt io root = .error err) :
    err ≠ .ok ∧ (io.store.lock = .ok → err ≠ .notFound) := by
  have hinvalid : (EspErr.invalidArg ≠ .ok) ∧ (io.store.lock = .ok → EspErr.invalidArg ≠ .notFound) :=
    ⟨nofun, fun _ => nofun⟩
  have hversion : fmt.badVersion ≠ .ok ∧ (io.store.lock = .ok → fmt.badVersion ≠ .notFound) :=
    ⟨fmt.bad_ne.1.1, fun _ => fmt.bad_ne.1.2⟩
  unfold importRows at h
  split at h
  · cases h
    exact hinvalid
  split at h
  · split at h
    · cases h
      exact hversion
    split at h
    · next items hitems =>
        split at h
        · cases h
          exact ⟨fmt.bad_ne.2.1, fun _ => fmt.bad_ne.2.2⟩
        split at h
        · cases h
          exact ⟨nofun, fun _ => nofun⟩
        split at h
        · next herror =>
            cases h
            rw [fmt.readItems_refuses items _ herror]
            exact hinvalid
        split at h
        · next hlock =>
            cases h
            exact ⟨hlock, fun hok => absurd hok hlock⟩
        · cases h
    · cases h
      exact hinvalid
  · cases h
    exact hversion

/-! ### The promise -/

namespace FileTable

variable (T : FileTable τ κ ρ)

/-- The rows behind a call, or the code it fails with. -/
def outcome (r : EspErr × τ) : Except EspErr (List ρ) :=
  if r.1 = .ok then .ok (T.rows r.2).list else .error r.1

/-- The rows a load finds at power on, or the code it fails with. -/
def found (cj : CJson) (d : Disk) : Except EspErr (List ρ) :=
  T.outcome (T.loadFromPath cj d T.boot)

/-- A call that returns an error leaves the table with its generation and the file as they
    were; a load finds the rows that were saved; wherever power is lost in a call, a load
    finds what it found before or the new rows; and the ids are distinct. -/
def Whole (cj : CJson) (call : TableCall κ) (io : TableIo) (h : FileHub τ) : Prop :=
  let r := T.runCall cj call io h
  (r.err ≠ .ok → r.hub.table = h.table ∧ r.hub.disk.file = h.disk.file) ∧
  (r.err = .ok → T.found cj r.hub.disk = .ok (T.rows r.hub.table).list) ∧
  (∀ d ∈ h.disk :: r.trace,
    T.found cj d = T.found cj h.disk ∨ T.found cj d = .ok (T.rows r.hub.table).list) ∧
  ((T.rows r.hub.table).list.map T.fmt.id).Nodup

def fileTree (io : TableIo) (rows : List ρ) : Json :=
  ofFields
    [("version", if io.versionAdded then some (.number 1) else none),
      (T.fmt.name, some (.array (rows.map (T.fmt.tree io))))]

/-- Which rows are read back from the members that are written of them. -/
structure Restoring where
  Restorable : TableIo → ρ → Prop
  fromJson_tree : ∀ io row, T.fmt.Sound row →
    (T.fmt.fromJson (T.fmt.tree io row) = .ok row ↔ Restorable io row)

def Takes (io : TableIo) (t : τ) : TableCall κ → Prop
  | .changeAndSave k => T.Accepted io t k
  | .importAndSave root => ∃ rows, ImportedAs T.fmt io root rows

/-- Every step of the save succeeds, there is no file that could be lost, and what is written
    is no more than the loader reads, with no member missing that it needs. -/
structure SafeSave (R : T.Restoring) (cj : CJson) (io : TableIo) (t : τ) (d : Disk) : Prop where
  sdCard : io.sdCard = .ok
  mkdirParent : io.mkdirParent = .ok
  exportTree : io.store.exportTree = .ok
  print : io.print = true
  replaces : Replaces io.toSaveIo (cj.print (T.fileTree io (T.rows t).list))
  nothingLost : io.unlink = false ∨ d.file = none
  size : (cj.print (T.fileTree io (T.rows t).list)).utf8ByteSize ≤ T.fmt.fileMax
  versionAdded : io.versionAdded = true
  restorable : ∀ row ∈ (T.rows t).list, R.Restorable io row

/-- The condition on a call under which it keeps the promise. -/
def KeepsWhole (R : T.Restoring) (cj : CJson) (call : TableCall κ) (io : TableIo)
    (h : FileHub τ) : Prop :=
  io.persistLock ≠ .ok ∨ ¬T.Takes io h.table call ∨
  T.SafeSave R cj io (T.apply io h.table call).2 h.disk

/-- `cJSON` reads back the tree that it prints in this call. -/
def ReadsBack (cj : CJson) (call : TableCall κ) (io : TableIo) (h : FileHub τ) : Prop :=
  let tree := T.fileTree io (T.rows (T.apply io h.table call).2).list
  cj.parse (cj.print tree) = some tree

/-! ### The table -/

section

variable {T}

theorem importJson_ok {root : Json} {rows : Rows T.fmt} (t : τ)
    (h : importRows T.fmt io root = .ok rows) :
    T.importJson io root t = (.ok, T.fill rows (T.generation t + 1)) := by
  unfold importJson
  rw [h]

theorem importJson_error {root : Json} {err : EspErr} (t : τ)
    (h : importRows T.fmt io root = .error err) : T.importJson io root t = (err, t) := by
  unfold importJson
  rw [h]

theorem apply_taken {t : τ} {call : TableCall κ} (h : T.Takes io t call) :
    (T.apply io t call).1 = .ok ∧ (T.apply io t call).2 ≠ t := by
  have hnew : ∀ t', T.generation t' = T.generation t + 1 → t' ≠ t := by
    rintro t' hgeneration rfl
    exact Lib.succ_ne _ hgeneration.symm
  cases call with
  | changeAndSave k =>
    rcases T.change_accepted io t k h with ⟨hok, hgeneration⟩
    exact ⟨hok, hnew _ hgeneration⟩
  | importAndSave root =>
    rcases h with ⟨rows, himported⟩
    have hrows : importRows T.fmt io root = .ok ⟨rows, ?_, himported.2.2.2.1, ?_⟩ :=
      (importRows_eq_ok_iff T.fmt io root _).2 himported
    · have happly : T.apply io t (.importAndSave root) = _ := importJson_ok t hrows
      rw [happly]
      exact ⟨rfl, hnew _ (T.generation_fill _ _)⟩
    · rcases himported.2.2.1 with ⟨items, -, -, -, hall⟩
      exact Lib.readAll_mem T.fmt.fromJson_sound items rows hall
    · rcases himported.2.2.1 with ⟨items, -, hcount, -, hall⟩
      rw [Lib.readAll_length items rows hall]
      exact hcount

theorem apply_not_taken {t : τ} {call : TableCall κ} (h : ¬T.Takes io t call) :
    (T.apply io t call).1 ≠ .ok ∧ (T.apply io t call).2 = t := by
  cases call with
  | changeAndSave k => exact T.change_refused io t k h
  | importAndSave root =>
    cases hrows : importRows T.fmt io root with
    | error err =>
      have happly : T.apply io t (.importAndSave root) = _ := importJson_error t hrows
      rw [happly]
      exact ⟨(importRows_error T.fmt hrows).1, rfl⟩
    | ok rows => exact absurd ⟨_, (importRows_eq_ok_iff T.fmt io root rows).1 hrows⟩ h

/-! ### The file -/

theorem exportRows_eq (io : TableIo) (t : τ) : exportRows T.fmt io (T.rows t).list =
      if io.store.exportTree ≠ .ok then .error io.store.exportTree
      else .ok (T.fileTree io (T.rows t).list) := by
  have hitems : Lib.readAll (T.fmt.toJson io) (T.rows t).list =
      .ok ((T.rows t).list.map (T.fmt.tree io)) := by
    have hsound := (T.rows t).sound
    generalize (T.rows t).list = rows at hsound
    induction rows with
    | nil => rfl
    | cons row rest ih =>
      have hrow := T.fmt.toJson_sound io row (hsound row List.mem_cons_self)
      have hrest := ih fun r hr => hsound r (List.mem_cons_of_mem row hr)
      exact bind_eq_ok_iff.2 ⟨_, hrow, bind_eq_ok_iff.2 ⟨_, hrest, rfl⟩⟩
  unfold exportRows
  rw [hitems]
  rfl

/-- A tree of sound rows is imported as these rows exactly if the version and every row are
    there. -/
theorem imported_fileTree_iff {R : T.Restoring} {t : τ} :
    ImportedAs T.fmt {} (T.fileTree io (T.rows t).list) (T.rows t).list ↔
      io.versionAdded = true ∧ ∀ row ∈ (T.rows t).list, R.Restorable io row := by
  have hversion : (T.fileTree io (T.rows t).list).get "version" =
      if io.versionAdded then some (.number 1) else none := by
    unfold fileTree
    rw [get_ofFields, fieldValue_cons, if_pos rfl, fieldValue_cons, if_neg T.fmt.name_ne,
      fieldValue_nil, Option.or_none]
  have hitems : (T.fileTree io (T.rows t).list).get T.fmt.name =
      some (.array ((T.rows t).list.map (T.fmt.tree io))) := by
    unfold fileTree
    rw [get_ofFields, fieldValue_cons, if_neg (Ne.symm T.fmt.name_ne), fieldValue_cons, if_pos rfl]
    rfl
  have hall : Lib.readAll T.fmt.fromJson ((T.rows t).list.map (T.fmt.tree io)) =
      .ok (T.rows t).list ↔ ∀ row ∈ (T.rows t).list, R.Restorable io row := by
    rw [Lib.readAll_map_iff]
    refine forall₂_congr fun row hrow => ?_
    exact R.fromJson_tree io row ((T.rows t).sound row hrow)
  unfold ImportedAs
  rw [hversion, hitems, ← hall]
  constructor
  · rintro ⟨-, ⟨version, hone, -⟩, ⟨items, hsome, -, -, hread⟩, -⟩
    cases hsome
    refine ⟨?_, hread⟩
    by_cases hadded : io.versionAdded = true
    · exact hadded
    · rw [if_neg hadded] at hone
      cases hone
  · rintro ⟨hadded, hread⟩
    refine ⟨rfl, ⟨1, if_pos hadded, by decide⟩, ⟨_, rfl, ?_, .inr rfl, hread⟩,
      (T.rows t).distinct, rfl⟩
    rw [List.length_map]
    exact (T.rows t).length_le

theorem found_eq_of_file {d d' : Disk} (h : d'.file = d.file) : T.found cj d' = T.found cj d := by
  unfold found loadFromPath
  rw [h]

theorem found_none (h : d.file = none) : T.found cj d = .error .notFound := by
  unfold found loadFromPath
  rw [h]
  rfl

/-- What a load makes of a text, without the table it fills. -/
theorem found_some {text : String} (h : d.file = some text) : T.found cj d =
      if T.fmt.fileMax < text.utf8ByteSize then .error .invalidSize
      else match cj.parse text with
        | none => .error .invalidArg
        | some root => (importRows T.fmt {} root).map Rows.list := by
  unfold found loadFromPath
  rw [h]
  dsimp only
  by_cases hsize : T.fmt.fileMax < text.utf8ByteSize
  · rw [if_pos hsize, if_pos hsize]
    rfl
  rw [if_neg hsize, if_neg hsize]
  cases cj.parse text with
  | none => rfl
  | some root =>
    dsimp only
    cases hrows : importRows T.fmt {} root with
    | error err =>
      rw [importJson_error T.boot hrows]
      exact if_neg (importRows_error T.fmt hrows).1
    | ok rows =>
      rw [importJson_ok T.boot hrows]
      exact congrArg Except.ok (T.rows_fill rows _)

/-- A file that was written of a table is read back exactly if it is not too long and no
    member that is needed is missing. -/
theorem found_new_iff (R : T.Restoring) {t : τ}
    (hfile : d.file = some (cj.print (T.fileTree io (T.rows t).list)))
    (hread : cj.parse (cj.print (T.fileTree io (T.rows t).list)) =
      some (T.fileTree io (T.rows t).list)) : T.found cj d = .ok (T.rows t).list ↔
      (cj.print (T.fileTree io (T.rows t).list)).utf8ByteSize ≤ T.fmt.fileMax ∧
      io.versionAdded = true ∧ ∀ row ∈ (T.rows t).list, R.Restorable io row := by
  rw [found_some hfile, hread]
  by_cases hsize : T.fmt.fileMax < (cj.print (T.fileTree io (T.rows t).list)).utf8ByteSize
  · rw [if_pos hsize]
    exact iff_of_false nofun fun h => absurd hsize (Nat.not_lt.2 h.1)
  rw [if_neg hsize, iff_true_intro (Nat.not_lt.1 hsize), true_and]
  dsimp only
  rw [← imported_fileTree_iff]
  constructor
  · intro h
    cases hrows : importRows T.fmt {} (T.fileTree io (T.rows t).list) with
    | error err =>
      rw [hrows] at h
      cases h
    | ok rows =>
      rw [hrows] at h
      have himported := (importRows_eq_ok_iff T.fmt {} _ rows).1 hrows
      rw [Except.ok.inj h] at himported
      exact himported
  · intro h
    have hrows := (importRows_eq_ok_iff T.fmt {} _ (T.rows t)).2 h
    rw [hrows]
    rfl

theorem found_eq_notFound_iff : T.found cj d = .error .notFound ↔ d.file = none := by
  refine ⟨fun h => ?_, found_none⟩
  cases hfile : d.file with
  | none => rfl
  | some text =>
    rw [found_some hfile] at h
    by_cases hsize : T.fmt.fileMax < text.utf8ByteSize
    · rw [if_pos hsize] at h
      cases h
    rw [if_neg hsize] at h
    split at h
    · cases h
    rename_i root hparse
    cases hrows : importRows T.fmt {} root with
    | error err =>
      rw [hrows] at h
      cases h
      exact absurd rfl ((importRows_error T.fmt hrows).2 rfl)
    | ok rows =>
      rw [hrows] at h
      cases h

/-! ### The calls -/

/-- A save that succeeds has gone through all its calls. -/
theorem saveToPath_ok_iff {t : τ} : (T.saveToPath cj io t d).1 = .ok ↔
      io.sdCard = .ok ∧ io.mkdirParent = .ok ∧ io.store.exportTree = .ok ∧ io.print = true ∧
      Replaces io.toSaveIo (cj.print (T.fileTree io (T.rows t).list)) := by
  unfold saveToPath text
  rw [exportRows_eq]
  by_cases hcard : io.sdCard = .ok
  · by_cases hparent : io.mkdirParent = .ok
    · by_cases htree : io.store.exportTree = .ok
      · cases hprint : io.print with
        | false => simp [hcard, hparent, htree]
        | true => simp [hcard, hparent, htree, replaceFile_ok_iff]
      · simp [hcard, hparent, htree]
    · simp [hcard, hparent]
  · simp [hcard]

theorem saveToPath_trace {t : τ} (h : (T.saveToPath cj io t d).1 = .ok) :
    let printed := cj.print (T.fileTree io (T.rows t).list)
    T.saveToPath cj io t d =
      (.ok, [⟨d.file, some ""⟩, ⟨d.file, some printed⟩,
        ⟨if io.unlink then none else d.file, some printed⟩, ⟨some printed, none⟩]) := by
  rcases saveToPath_ok_iff.1 h with ⟨hcard, hparent, htree, hprint, hreplaces⟩
  unfold saveToPath text
  rw [exportRows_eq]
  simp only [hcard, hparent, htree, hprint, ne_eq, not_true_eq_false, if_false, if_true]
  exact replaceFile_trace hreplaces d

/-- A save behind a call that the table took keeps the promise exactly if it is safe. -/
theorem save_whole_iff (R : T.Restoring) {t : τ}
    (hread : cj.parse (cj.print (T.fileTree io (T.rows t).list)) =
      some (T.fileTree io (T.rows t).list)) : ((T.saveToPath cj io t d).1 = .ok ∧
      T.found cj ((T.saveToPath cj io t d).2.getLastD d) = .ok (T.rows t).list ∧
      ∀ d' ∈ d :: (T.saveToPath cj io t d).2,
        T.found cj d' = T.found cj d ∨ T.found cj d' = .ok (T.rows t).list) ↔
      T.SafeSave R cj io t d := by
  constructor
  · rintro ⟨hok, hfinal, hall⟩
    rcases saveToPath_ok_iff.1 hok with ⟨hcard, hparent, htree, hprint, hreplaces⟩
    rw [saveToPath_trace hok] at hfinal hall
    rcases (found_new_iff R rfl hread).1 hfinal with ⟨hsize, hversion, hrows⟩
    refine ⟨hcard, hparent, htree, hprint, hreplaces, ?_, hsize, hversion, hrows⟩
    -- Behind the unlink a load finds no file.
    cases hunlink : io.unlink with
    | false => exact .inl rfl
    | true =>
      right
      rcases hall ⟨none, some (cj.print (T.fileTree io (T.rows t).list))⟩
        (by simp [hunlink]) with hold | hnew
      · rw [found_none rfl] at hold
        exact found_eq_notFound_iff.1 hold.symm
      · rw [found_none rfl] at hnew
        cases hnew
  intro h
  have hok : (T.saveToPath cj io t d).1 = .ok :=
    saveToPath_ok_iff.2 ⟨h.sdCard, h.mkdirParent, h.exportTree, h.print, h.replaces⟩
  have hnew : T.found cj ⟨some (cj.print (T.fileTree io (T.rows t).list)), none⟩ =
      .ok (T.rows t).list :=
    (found_new_iff R rfl hread).2 ⟨h.size, h.versionAdded, h.restorable⟩
  refine ⟨hok, ?_, ?_⟩
  · rw [saveToPath_trace hok]
    exact hnew
  rw [saveToPath_trace hok]
  intro d' hd'
  rcases List.mem_cons.1 hd' with rfl | hd'
  · exact .inl rfl
  rcases List.mem_cons.1 hd' with rfl | hd'
  · exact .inl (found_eq_of_file rfl)
  rcases List.mem_cons.1 hd' with rfl | hd'
  · exact .inl (found_eq_of_file rfl)
  rcases List.mem_cons.1 hd' with rfl | hd'
  · left
    refine found_eq_of_file ?_
    rcases h.nothingLost with hunlink | hnone
    · rw [hunlink]
      rfl
    · rw [hnone, ite_self]
  · rw [List.mem_singleton.1 hd']
    exact .inr hnew

/-- A call keeps the promise exactly if the table does not take it, or its save is safe. -/
theorem whole_iff (R : T.Restoring) {call : TableCall κ} {h : FileHub τ}
    (hread : T.ReadsBack cj call io h) : T.Whole cj call io h ↔ T.KeepsWhole R cj call io h := by
  unfold Whole KeepsWhole
  by_cases hlocked : io.persistLock = .ok
  · by_cases htaken : T.Takes io h.table call
    · rcases apply_taken htaken with ⟨hok, hchanged⟩
      have hrun : T.runCall cj call io h =
          ⟨(T.saveToPath cj io (T.apply io h.table call).2 h.disk).1,
            ⟨(T.apply io h.table call).2,
              (T.saveToPath cj io (T.apply io h.table call).2 h.disk).2.getLastD h.disk⟩,
            (T.saveToPath cj io (T.apply io h.table call).2 h.disk).2⟩ := by
        unfold runCall
        simp [hlocked, hok]
      rw [hrun]
      rw [← save_whole_iff R hread]
      simp only [hlocked, htaken, ne_eq, not_true_eq_false, false_or]
      constructor
      · rintro ⟨hfail, hfound, hall, -⟩
        have hsaved : (T.saveToPath cj io (T.apply io h.table call).2 h.disk).1 = .ok :=
          not_not.1 fun herr => hchanged (hfail herr).1
        exact ⟨hsaved, hfound hsaved, hall⟩
      · rintro ⟨hsaved, hfound, hall⟩
        exact ⟨fun herr => absurd hsaved herr, fun _ => hfound, hall, (T.rows _).distinct⟩
    · rcases apply_not_taken htaken with ⟨herr, hsame⟩
      have hrun : T.runCall cj call io h = ⟨(T.apply io h.table call).1, h, []⟩ := by
        unfold runCall
        simp [hlocked, herr, hsame]
      rw [hrun]
      refine iff_of_true ⟨fun _ => ⟨rfl, rfl⟩, fun hok => absurd hok herr, ?_, ?_⟩
        (.inr (.inl htaken))
      · intro d hd
        rw [List.mem_singleton.1 hd]
        exact .inl rfl
      · exact (T.rows h.table).distinct
  · have hrun : T.runCall cj call io h = ⟨io.persistLock, h, []⟩ := if_pos hlocked
    rw [hrun]
    refine iff_of_true ⟨fun _ => ⟨rfl, rfl⟩, fun hok => absurd hok hlocked, ?_, ?_⟩ (.inl hlocked)
    · intro d hd
      rw [List.mem_singleton.1 hd]
      exact .inl rfl
    · exact (T.rows h.table).distinct

end

end FileTable

/-! ### Members that may be missing -/

section

variable {obj : Json} {name : String} {maxLen : Nat} {added : Bool}

theorem get_addedMembers (io : TableIo) (id : String) {members : List (String × Json)}
    {value : Json} (hnames : (members.map Prod.fst).Nodup) (hmem : (name, value) ∈ members) :
    (addedMembers io id members).get name =
      if io.memberAdded id name then some value else none := by
  unfold addedMembers
  rw [get_ofFields]
  induction members with
  | nil => cases hmem
  | cons member rest ih =>
    rcases member with ⟨key, first⟩
    rw [List.map_cons, List.nodup_cons] at hnames
    rw [List.map_cons, fieldValue_cons]
    by_cases hkey : key = name
    · rcases List.mem_cons.1 hmem with heq | hrest
      · cases heq
        rw [if_pos rfl, fieldValue_of_forall_ne, Option.or_none]
        intro field hfield heq
        rcases List.mem_map.1 hfield with ⟨other, hother, rfl⟩
        have hfst : other.1 ∈ rest.map Prod.fst := List.mem_map_of_mem hother
        exact hnames.1 (heq ▸ hfst)
      · have hfst : name ∈ rest.map Prod.fst := List.mem_map_of_mem hrest
        rw [← hkey] at hfst
        exact absurd hfst hnames.1
    · rw [if_neg hkey]
      rcases List.mem_cons.1 hmem with heq | hrest
      · cases heq
        exact absurd rfl hkey
      · exact ih hnames.2 hrest

theorem ite_bind {α β : Type} (f : α → Except EspErr β) (a : α) :
    ((if added then .ok a else .error .invalidArg : Except EspErr α) >>= f) =
      if added then f a else .error .invalidArg := by
  cases added <;> rfl

theorem stringRequired_added {s : String} (h : Filled s maxLen)
    (hget : obj.get name = if added then some (.string s) else none) :
    obj.stringRequired name maxLen = if added then .ok s else .error .invalidArg := by
  cases added with
  | true => exact stringRequired_eq h hget
  | false =>
    unfold stringRequired
    rw [hget]
    rfl

theorem stringOptional_added {s : String} (h : Fits s maxLen)
    (hget : obj.get name = if added then some (.string s) else none) :
    obj.stringOptional name maxLen = .ok (if added then s else "") := by
  cases added with
  | true => exact stringOptional_eq h hget
  | false =>
    unfold stringOptional
    rw [hget]
    rfl

theorem boolOr_added {b absent : Bool}
    (hget : obj.get name = if added then some (.bool b) else none) :
    obj.boolOr name absent = .ok (if added then b else absent) := by
  unfold boolOr
  rw [hget]
  cases added <;> rfl

end

namespace Stored

theorem readDuration_added {obj : Json} {added : Bool} {n : UInt32} (hpos : 0 < n)
    (hget : obj.get "duration_ms" = if added then some (.number n.toNat) else none) :
    GameProfile.readDuration obj = if added then .ok n else .error .invalidArg := by
  unfold GameProfile.readDuration
  rw [hget]
  cases added with
  | false => rfl
  | true =>
    have hfloor : (n.toNat : Rat).floor = (n.toNat : Int) := Rat.floor_intCast n.toNat
    have hle : n.toNat ≤ 4294967295 := Nat.le_of_lt_succ n.toNat_lt
    have hnat : 0 < n.toNat := hpos
    simp only [if_true]
    rw [if_neg, hfloor]
    · exact congrArg Except.ok (by simp)
    rintro (hzero | hlarge)
    · have hzero' : (n.toNat : Rat) ≤ ((0 : Nat) : Rat) := hzero
      exact absurd (Rat.natCast_le_natCast.1 hzero') (Nat.not_le.2 hnat)
    · have hlarge' : ((4294967295 : Nat) : Rat) < (n.toNat : Rat) := hlarge
      exact absurd (Rat.natCast_lt_natCast.1 hlarge') (Nat.not_lt.2 hle)

/-- What a profile needs of its members: the five that are required, the packs if there are
    any, and the mark if it is not set. -/
structure GameProfile.Restorable (io : TableIo) (p : GameProfile) : Prop where
  required : ∀ name ∈ ["id", "name", "room_id", "scenario_id", "duration_ms"],
    io.memberAdded p.id name = true
  hintPackId : io.memberAdded p.id "hint_pack_id" = true ∨ p.hintPackId = ""
  audioPackId : io.memberAdded p.id "audio_pack_id" = true ∨ p.audioPackId = ""
  enabled : io.memberAdded p.id "enabled" = true ∨ p.enabled = true

/-- What a room needs of its members, and that it counts no devices. -/
structure RoomEntry.Restorable (io : TableIo) (e : RoomEntry) : Prop where
  roomId : io.memberAdded e.roomId "room_id" = true
  name : io.memberAdded e.roomId "name" = true ∨ e.name = e.roomId
  deviceCount : e.deviceCount = 0

theorem profile_readMembers (io : TableIo) {p : GameProfile} (h : p.Sound) :
    GameProfile.readMembers (addedMembers io p.id p.members) =
      if ∀ name ∈ ["id", "name", "room_id", "scenario_id", "duration_ms"],
        io.memberAdded p.id name = true then
        .ok { p with
          hintPackId := if io.memberAdded p.id "hint_pack_id" then p.hintPackId else ""
          audioPackId := if io.memberAdded p.id "audio_pack_id" then p.audioPackId else ""
          enabled := if io.memberAdded p.id "enabled" then p.enabled else true }
      else .error .invalidArg := by
  have hvalid := of_decide_eq_true h.valid
  have hget : ∀ name value, (name, value) ∈ p.members →
      (addedMembers io p.id p.members).get name =
        if io.memberAdded p.id name then some value else none := by
    intro name value hmem
    have hnames : (p.members.map Prod.fst).Nodup := by
      have hlist : ["id", "name", "room_id", "scenario_id", "duration_ms", "hint_pack_id",
        "audio_pack_id", "enabled"].Nodup := by decide
      exact hlist
    exact get_addedMembers io p.id hnames hmem
  generalize addedMembers io p.id p.members = obj at hget ⊢
  generalize io.memberAdded p.id = added at hget ⊢
  have hid : obj.stringRequired "id" idMaxLen =
      if added "id" then .ok p.id else .error .invalidArg :=
    stringRequired_added ⟨hvalid.1, h.fits.id⟩ (hget _ _ (by simp [GameProfile.members]))
  have hname : obj.stringRequired "name" nameMaxLen =
      if added "name" then .ok p.name else .error .invalidArg :=
    stringRequired_added ⟨hvalid.2.1, h.fits.name⟩ (hget _ _ (by simp [GameProfile.members]))
  have hroom : obj.stringRequired "room_id" idMaxLen =
      if added "room_id" then .ok p.roomId else .error .invalidArg :=
    stringRequired_added ⟨hvalid.2.2.1, h.fits.roomId⟩ (hget _ _ (by simp [GameProfile.members]))
  have hscenario : obj.stringRequired "scenario_id" idMaxLen =
      if added "scenario_id" then .ok p.scenarioId else .error .invalidArg :=
    stringRequired_added ⟨hvalid.2.2.2.1, h.fits.scenarioId⟩
      (hget _ _ (by simp [GameProfile.members]))
  have hhint : obj.stringOptional "hint_pack_id" idMaxLen =
      .ok (if added "hint_pack_id" then p.hintPackId else "") :=
    stringOptional_added h.fits.hintPackId (hget _ _ (by simp [GameProfile.members]))
  have haudio : obj.stringOptional "audio_pack_id" idMaxLen =
      .ok (if added "audio_pack_id" then p.audioPackId else "") :=
    stringOptional_added h.fits.audioPackId (hget _ _ (by simp [GameProfile.members]))
  have hduration : GameProfile.readDuration obj =
      if added "duration_ms" then .ok p.durationMs else .error .invalidArg :=
    readDuration_added hvalid.2.2.2.2 (hget _ _ (by simp [GameProfile.members]))
  have henabled : obj.boolOr "enabled" true =
      .ok (if added "enabled" then p.enabled else true) :=
    boolOr_added (hget _ _ (by simp [GameProfile.members]))
  have hall : (∀ name ∈ ["id", "name", "room_id", "scenario_id", "duration_ms"],
      added name = true) ↔ added "id" = true ∧ added "name" = true ∧ added "room_id" = true ∧
      added "scenario_id" = true ∧ added "duration_ms" = true := by
    simp [List.forall_mem_cons]
  unfold GameProfile.readMembers
  simp only [hid, hname, hroom, hscenario, hhint, haudio, hduration, henabled, hall, ite_bind]
  -- The first member that is missing ends the reading.
  cases added "id" <;> cases added "name" <;> cases added "room_id" <;>
    cases added "scenario_id" <;> cases added "duration_ms" <;> rfl

theorem profile_fromJson_tree (io : TableIo) (p : GameProfile) (h : p.Sound) :
    GameProfile.fromJson (addedMembers io p.id p.members) = .ok p ↔ p.Restorable io := by
  unfold GameProfile.fromJson
  rw [readChecked_eq_ok_iff, profile_readMembers io h]
  constructor
  · rintro ⟨-, hread, -⟩
    by_cases hall : ∀ name ∈ ["id", "name", "room_id", "scenario_id", "duration_ms"],
        io.memberAdded p.id name = true
    · rw [if_pos hall, Except.ok.injEq, GameProfile.mk.injEq] at hread
      rcases hread with ⟨-, -, -, -, -, hhint, haudio, henabled⟩
      refine ⟨hall, ?_, ?_, ?_⟩
      · cases hadded : io.memberAdded p.id "hint_pack_id" with
        | true => exact .inl rfl
        | false =>
          rw [hadded] at hhint
          exact .inr hhint.symm
      · cases hadded : io.memberAdded p.id "audio_pack_id" with
        | true => exact .inl rfl
        | false =>
          rw [hadded] at haudio
          exact .inr haudio.symm
      · cases hadded : io.memberAdded p.id "enabled" with
        | true => exact .inl rfl
        | false =>
          rw [hadded] at henabled
          exact .inr henabled.symm
    · rw [if_neg hall] at hread
      cases hread
  · intro hrest
    refine ⟨rfl, ?_, h.valid⟩
    rw [if_pos hrest.required, Except.ok.injEq, GameProfile.mk.injEq]
    refine ⟨rfl, rfl, rfl, rfl, rfl, ?_, ?_, ?_⟩
    · rcases hrest.hintPackId with hadded | hempty
      · rw [if_pos hadded]
      · rw [hempty, ite_self]
    · rcases hrest.audioPackId with hadded | hempty
      · rw [if_pos hadded]
      · rw [hempty, ite_self]
    · rcases hrest.enabled with hadded | hset
      · rw [if_pos hadded]
      · rw [hset, ite_self]

def profileRestoring : profileTable.Restoring where
  Restorable io p := p.Restorable io
  fromJson_tree := profile_fromJson_tree

theorem room_readMembers (io : TableIo) {e : RoomEntry} (h : e.Sound) :
    RoomEntry.readMembers (addedMembers io e.roomId e.members) =
      if io.memberAdded e.roomId "room_id" = true then
        .ok { roomId := e.roomId
              name := if io.memberAdded e.roomId "name" then e.name else e.roomId }
      else .error .invalidArg := by
  have hvalid := of_decide_eq_true h.valid
  have hname : e.name.utf8ByteSize < nameMaxLen := by
    have hsame : e.normalizeName = e.name := if_pos h.named
    rw [← hsame]
    exact hvalid.2.2
  have hget : ∀ name value, (name, value) ∈ e.members →
      (addedMembers io e.roomId e.members).get name =
        if io.memberAdded e.roomId name then some value else none := by
    intro name value hmem
    have hlist : ["room_id", "name"].Nodup := by decide
    exact get_addedMembers io e.roomId hlist hmem
  have hother : (addedMembers io e.roomId e.members).get "id" = none := by
    exact get_ofFields_none (by simp [RoomEntry.members])
  generalize addedMembers io e.roomId e.members = obj at hget hother ⊢
  generalize io.memberAdded e.roomId = added at hget ⊢
  have hid : obj.stringOptional "room_id" idMaxLen =
      .ok (if added "room_id" then e.roomId else "") :=
    stringOptional_added hvalid.2.1 (hget _ _ (by simp [RoomEntry.members]))
  have hread : obj.stringOptional "name" nameMaxLen =
      .ok (if added "name" then e.name else "") :=
    stringOptional_added hname (hget _ _ (by simp [RoomEntry.members]))
  have hroom : RoomEntry.readRoomId obj =
      if added "room_id" then .ok e.roomId else .error .invalidArg := by
    unfold RoomEntry.readRoomId
    rw [hid]
    cases added "room_id" with
    | true => exact if_pos hvalid.1
    | false =>
      unfold stringRequired
      rw [hother]
      rfl
  unfold RoomEntry.readMembers
  rw [hroom, ite_bind, hread]
  -- Without a name the room is called by its id.
  cases added "name" with
  | true =>
    have hsame : (if e.name ≠ "" then e.name else e.roomId) = e.name := if_pos h.named
    cases added "room_id" with
    | true =>
      exact congrArg (fun name => Except.ok (RoomEntry.mk e.roomId name 0)) hsame
    | false => rfl
  | false => rfl

theorem room_fromJson_tree (io : TableIo) (e : RoomEntry) (h : e.Sound) :
    RoomEntry.fromJson (addedMembers io e.roomId e.members) = .ok e ↔ e.Restorable io := by
  unfold RoomEntry.fromJson
  rw [readChecked_eq_ok_iff, room_readMembers io h]
  constructor
  · rintro ⟨-, hread, -⟩
    by_cases hadded : io.memberAdded e.roomId "room_id" = true
    · rw [if_pos hadded, Except.ok.injEq] at hread
      have hnamed := congrArg RoomEntry.name hread
      have hcount := congrArg RoomEntry.deviceCount hread
      refine ⟨hadded, ?_, hcount.symm⟩
      cases hname : io.memberAdded e.roomId "name" with
      | true => exact .inl rfl
      | false =>
        rw [hname] at hnamed
        exact .inr hnamed.symm
    · rw [if_neg hadded] at hread
      cases hread
  · rintro ⟨hadded, hname, hcount⟩
    refine ⟨rfl, ?_, h.valid⟩
    rw [if_pos hadded, Except.ok.injEq]
    cases e with
    | mk roomId name deviceCount =>
      rw [RoomEntry.mk.injEq]
      refine ⟨rfl, ?_, hcount.symm⟩
      rcases hname with hname | hname
      · exact if_pos hname
      · rw [show name = roomId from hname, ite_self]

def roomRestoring (maxRooms : Nat) : (roomTable maxRooms).Restoring where
  Restorable io e := e.Restorable io
  fromJson_tree := room_fromJson_tree

/-! ### The two tables -/

/-- **Every call in every sequence of calls keeps the promise exactly if the table does not
    take it, or takes it and is saved without a file to lose, as a text that can be read
    back.** -/
theorem tables_whole_iff (maxRooms : Nat) (cj : CJson)
    (profiles : FileHub GameProfiles) (profilesBefore : List (TableCall ProfileChange × TableIo))
    (profileCall : TableCall ProfileChange) (profileIo : TableIo)
    (hprofiles : profileTable.ReadsBack cj profileCall profileIo
      (profileTable.runCalls cj profiles profilesBefore))
    (rooms : FileHub (RoomCatalog maxRooms)) (roomsBefore : List (TableCall RoomChange × TableIo))
    (roomCall : TableCall RoomChange) (roomIo : TableIo)
    (hrooms : (roomTable maxRooms).ReadsBack cj roomCall roomIo
      ((roomTable maxRooms).runCalls cj rooms roomsBefore)) :
    (profileTable.Whole cj profileCall profileIo
        (profileTable.runCalls cj profiles profilesBefore) ↔
      profileTable.KeepsWhole profileRestoring cj profileCall profileIo
        (profileTable.runCalls cj profiles profilesBefore)) ∧
    ((roomTable maxRooms).Whole cj roomCall roomIo
        ((roomTable maxRooms).runCalls cj rooms roomsBefore) ↔
      (roomTable maxRooms).KeepsWhole (roomRestoring maxRooms) cj roomCall roomIo
        ((roomTable maxRooms).runCalls cj rooms roomsBefore)) :=
  ⟨FileTable.whole_iff profileRestoring hprofiles, FileTable.whole_iff (roomRestoring maxRooms) hrooms⟩

/-! ### One profile and one room -/

def escape : GameProfile where
  id := "escape"
  name := "Escape"
  roomId := "attic"
  scenarioId := "s1"
  durationMs := 60000

theorem escape_fits : escape.Fits := by constructor <;> decide

def attic : RoomEntry := { roomId := "attic", name := "attic" }

def escapeText : String :=
  "\x7b\"version\":1,\"game_profiles\":[\x7b\"id\":\"escape\",\"name\":\"Escape\"," ++
    "\"room_id\":\"attic\",\"scenario_id\":\"s1\",\"duration_ms\":60000," ++
    "\"hint_pack_id\":\"\",\"audio_pack_id\":\"\",\"enabled\":true\x7d]\x7d"

def atticText : String :=
  "\x7b\"version\":1,\"rooms\":[\x7b\"room_id\":\"attic\",\"name\":\"attic\"\x7d]\x7d"

def twoFiles : CJson where
  print root := if (root.get "rooms").isSome then atticText else escapeText
  parse text :=
    if text = atticText then some ((roomTable 1).fileTree {} [attic])
    else if text = escapeText then some (profileTable.fileTree {} [escape])
    else none

theorem tables_whole_iff_first :
    (profileTable.ReadsBack twoFiles (.changeAndSave (.upsert escape escape_fits)) {}
      ⟨profileTable.boot, {}⟩ ∧
    (roomTable 1).ReadsBack twoFiles (.changeAndSave (.upsert attic)) {}
      ⟨(roomTable 1).boot, {}⟩) ∧
    (profileTable.Whole twoFiles (.changeAndSave (.upsert escape escape_fits)) {}
      ⟨profileTable.boot, {}⟩ ↔
      profileTable.KeepsWhole profileRestoring twoFiles
        (.changeAndSave (.upsert escape escape_fits)) {} ⟨profileTable.boot, {}⟩) := by
  have hprofiles : profileTable.ReadsBack twoFiles
      (.changeAndSave (.upsert escape escape_fits)) {} ⟨profileTable.boot, {}⟩ := by
    have hrows : (profileTable.rows (profileTable.apply {} profileTable.boot
        (.changeAndSave (.upsert escape escape_fits))).2).list = [escape] := by
      decide +kernel
    unfold FileTable.ReadsBack
    rw [hrows]
    have hname : ¬((profileTable.fileTree {} [escape]).get "rooms").isSome = true := by
      decide +kernel
    have hother : escapeText ≠ atticText := by decide +kernel
    dsimp only [twoFiles]
    rw [if_neg hname, if_neg hother, if_pos rfl]
  have hrooms : (roomTable 1).ReadsBack twoFiles (.changeAndSave (.upsert attic)) {}
      ⟨(roomTable 1).boot, {}⟩ := by
    have hrows : ((roomTable 1).rows ((roomTable 1).apply {} (roomTable 1).boot
        (.changeAndSave (.upsert attic))).2).list = [attic] := by
      decide +kernel
    unfold FileTable.ReadsBack
    rw [hrows]
    have hname : (((roomTable 1).fileTree {} [attic]).get "rooms").isSome = true := by
      decide +kernel
    dsimp only [twoFiles]
    rw [if_pos hname, if_pos rfl]
  exact ⟨⟨hprofiles, hrooms⟩, (tables_whole_iff 1 twoFiles ⟨profileTable.boot, {}⟩ [] _ {} hprofiles
    ⟨(roomTable 1).boot, {}⟩ [] _ {} hrooms).1⟩

/-- The profile is in memory and in the file, and gets another name. -/
def escapeHub : FileHub GameProfiles where
  table := (profileTable.boot.upsert {} escape escape_fits).2
  disk := { file := some escapeText }

theorem renamed_fits : { escape with name := "Escape 2" }.Fits := by constructor <;> decide

def renameEscape : TableCall ProfileChange :=
  .changeAndSave (.upsert { escape with name := "Escape 2" } renamed_fits)

/-- If the rename of the file fails, the call returns an error with the new name in memory; and
    if nothing fails, there is a point at which a load finds no file. -/
theorem not_whole : ¬profileTable.Whole twoFiles renameEscape { rename := false } escapeHub ∧
    ¬profileTable.Whole twoFiles renameEscape {} escapeHub := by
  constructor
  · rintro ⟨hkept, -⟩
    have herr : (profileTable.runCall twoFiles renameEscape { rename := false } escapeHub).err =
        .fail := by
      decide +kernel
    have hsame := (hkept (by rw [herr]; decide)).1
    have hchanged : (profileTable.runCall twoFiles renameEscape { rename := false }
        escapeHub).hub.table.generation ≠ escapeHub.table.generation := by
      decide +kernel
    exact hchanged (congrArg GameProfiles.generation hsame)
  rintro ⟨-, -, hall, -⟩
  have hmem : ⟨none, some escapeText⟩ ∈
      (profileTable.runCall twoFiles renameEscape {} escapeHub).trace := by
    decide +kernel
  rcases hall _ (.tail _ hmem) with hold | hnew
  · rw [FileTable.found_none rfl] at hold
    have hfile := FileTable.found_eq_notFound_iff.1 hold.symm
    cases hfile
  · rw [FileTable.found_none rfl] at hnew
    cases hnew

end Stored

end SceneHub
