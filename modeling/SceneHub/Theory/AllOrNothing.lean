import SceneHub.Lib.Clock
import SceneHub.Storage.Persistence
import Mathlib.Data.List.ReduceOption

/-!
# All or Nothing

Whether a saving call that fails leaves everything as it was, and whether a
file that power is lost over is the old one or the new one.

The three operations change the table first, so a save that fails behind them
leaves the change in memory. The save itself unlinks the file before it renames
the temporary file to it: in between there is no file, and no load looks at the
temporary one. If the rename fails, the temporary file is unlinked as well. A
save also writes texts the load refuses for their size.

What is left is stated exactly: a call keeps the promise if the table refuses
it, or if its save succeeds, has no file to lose and writes a text that can be
loaded.

## Main definitions

* `AllOrNothing`: The promise for one call.
* `Call.Accepted`: The table takes the call.
* `SafeSave`: The save succeeds, and there is nothing to lose.
* `KeepsWhole`: The condition on a call.

## Theorems

* `importItems_stops_iff`: The second loop of an import fails only for memory.
* `apply_err_iff`, `apply_refused`, `apply_generation`: What a call does to the table.
* `saveToPath_safe_iff`: When a save is all or nothing.
* `persistence_all_or_nothing`: The promise is kept exactly under the condition.
* `load_of_save`: What was saved is loaded again.
-/

namespace SceneHub

variable {σ : Type}

/-- A load finds what it found in front of the call, or the whole new text. -/
def FindsOldOrNew (old : Disk) (text : Except EspErr String) (d : Disk) : Prop :=
  loadText d = loadText old ∨ ∃ t, text = .ok t ∧ loadText d = .ok t

/-- A call that returns an error leaves the table with its generation and the
    file as they were; and wherever power is lost in its save, a load finds the
    old text or the new one. -/
def AllOrNothing (fmt : ScenarioFormat σ) (print : Json → String) (call : Call σ) (io : SaveIo)
    (h : Hub σ) : Prop :=
  let r := runCall fmt print call io h
  (r.err ≠ .ok → r.hub.store = h.store ∧ r.hub.disk.file = h.disk.file) ∧
  ∀ d ∈ h.disk :: r.trace, FindsOldOrNew h.disk (storeText fmt print io r.hub.store) d

/-- The items of a tree that has the form of an export. -/
def importable (root : Json) : Option (List Json) :=
  match root, root.get "version", root.get "room_scenarios" with
  | .object _, some (.number version), some (.array items) =>
    if Json.valueInt version = scenarioJsonVersion ∧ items.length ≤ maxScenarios then some items
    else none
  | _, _, _ => none

/-- An import gets as far as its second loop, over these items. -/
def Fills (fmt : ScenarioFormat σ) (io : StoreIo) (root : Json) (items : List Json) : Prop :=
  importable root = some items ∧ io.scratch = .ok ∧
  Store.checkItems fmt io.checkStops [] items = .ok ∧ io.lock = .ok

/-- Memory runs out among the items. -/
def Stops (stops : Option Nat) (items : List Json) : Prop := ∃ n, stops = some n ∧ n < items.length

/-- The table takes the call. -/
def Call.Accepted (fmt : ScenarioFormat σ) (io : StoreIo) (s : Store σ) : Call σ → Prop
  | .addAndSave scenario =>
    fmt.validateStructural scenario = .ok ∧ io.lock = .ok ∧
    ((s.find fmt (fmt.id scenario)).or s.findFree).isSome
  | .deleteAndSave scenarioId => io.lock = .ok ∧ (s.find fmt scenarioId).isSome
  | .importAndSave root => ∃ items, Fills fmt io root items ∧ ¬ Stops io.fillStops items

/-- An import that runs out of memory in its second loop, with something in the
    table. -/
def Call.Clears (fmt : ScenarioFormat σ) (io : StoreIo) (s : Store σ) : Call σ → Prop
  | .importAndSave root =>
    (∃ items, Fills fmt io root items ∧ Stops io.fillStops items) ∧
    s.slots ≠ List.replicate maxScenarios none
  | _ => False

/-- The calls from `fopen` to `rename` succeed. -/
def Replaces (io : SaveIo) (printed : String) : Prop :=
  io.fopen = true ∧ (io.fwrite = true ∨ printed.utf8ByteSize = 0) ∧ io.fclose = true ∧
  io.rename = true

/-- Every step of the save succeeds, there is no file that could be lost, and
    the text can be loaded, unless none could before. -/
def SafeSave (fmt : ScenarioFormat σ) (print : Json → String) (io : SaveIo) (s : Store σ)
    (d : Disk) : Prop :=
  io.sdCard = .ok ∧ io.mkdirParent = .ok ∧
  ∃ text, storeText fmt print io s = .ok text ∧ Replaces io text ∧
    (io.unlink = false ∨ d.file = none) ∧
    (text.utf8ByteSize ≤ fileMaxBytes ∨ ∃ old, d.file = some old ∧ fileMaxBytes < old.utf8ByteSize)

/-- The condition on a call under which it keeps the promise. -/
def KeepsWhole (fmt : ScenarioFormat σ) (print : Json → String) (call : Call σ) (io : SaveIo)
    (h : Hub σ) : Prop :=
  io.persistLock ≠ .ok ∨
  (¬ call.Accepted fmt io.store h.store ∧ ¬ call.Clears fmt io.store h.store) ∨
  (call.Accepted fmt io.store h.store ∧
    SafeSave fmt print io (call.apply fmt io.store h.store).2 h.disk)

/-! ### The table -/

section

variable (fmt : ScenarioFormat σ)

/-- Behind a check that passed, the second loop fails for memory only. -/
theorem importItems_stops_iff (checkStops fillStops : Option Nat)
    (seen : List String) (items : List Json)
    (hcheck : Store.checkItems fmt checkStops seen items = .ok) :
    (Stops fillStops items → Store.importItems fmt fillStops items = .error .noMem) ∧
    (¬ Stops fillStops items → ∃ scenarios, Store.importItems fmt fillStops items = .ok scenarios) := by
  induction items generalizing checkStops fillStops seen with
  | nil => exact ⟨fun ⟨n, _, hn⟩ => absurd hn (Nat.not_lt_zero n), fun _ => ⟨[], rfl⟩⟩
  | cons item rest ih =>
    unfold Store.checkItems at hcheck
    split at hcheck
    · cases hcheck
    split at hcheck
    · next err herr =>
        rw [hcheck] at herr
        exact absurd herr (fmt.fromJson_fails item)
    · next scenario hfrom =>
        split at hcheck
        · cases hcheck
        rcases ih _ (fillStops.map Nat.pred) _ hcheck with ⟨hstops, hgoes⟩
        unfold Store.importItems
        by_cases hfirst : fillStops = some 0
        · rw [if_pos hfirst]
          refine ⟨fun _ => rfl, fun hnot => absurd ⟨0, hfirst, ?_⟩ hnot⟩
          exact Nat.zero_lt_succ _
        rw [if_neg hfirst]
        simp only [hfrom]
        -- Memory runs out here or in the rest, and here it does not.
        have hrest : Stops fillStops (item :: rest) ↔
            Stops (fillStops.map Nat.pred) rest := by
          cases fillStops with
          | none =>
            constructor
            · rintro ⟨n, hn, -⟩
              cases hn
            · rintro ⟨n, hn, -⟩
              cases hn
          | some m =>
            cases m with
            | zero => exact absurd rfl hfirst
            | succ m =>
              constructor
              · rintro ⟨n, hn, hlt⟩
                cases hn
                exact ⟨m, rfl, Nat.lt_of_succ_lt_succ hlt⟩
              · rintro ⟨n, hn, hlt⟩
                cases hn
                exact ⟨m + 1, rfl, Nat.succ_lt_succ hlt⟩
        rw [hrest]
        constructor
        · intro h
          rw [hstops h]
        intro h
        rcases hgoes h with ⟨scenarios, hscenarios⟩
        rw [hscenarios]
        exact ⟨_, rfl⟩

/-- An import of a tree that is not an export, or that a check stops, does
    nothing. -/
theorem importJson_refused (io : StoreIo) (root : Json) (s : Store σ)
    (h : ¬ ∃ items, Fills fmt io root items) :
    (s.importJson fmt io root).1 ≠ .ok ∧ (s.importJson fmt io root).2 = s := by
  unfold Store.importJson
  split
  · exact ⟨nofun, rfl⟩
  · next hobject =>
      split
      · next version hversion =>
          split
          · exact ⟨nofun, rfl⟩
          · next hone =>
              split
              · next items hitems =>
                  split
                  · exact ⟨nofun, rfl⟩
                  · next hcount =>
                      split
                      · next hscratch => exact ⟨hscratch, rfl⟩
                      · next hscratch =>
                          split
                          · next hcheck => exact ⟨hcheck, rfl⟩
                          · next hcheck =>
                              split
                              · next hlock => exact ⟨hlock, rfl⟩
                              · next hlock =>
                                  refine absurd ⟨items, ?_, Decidable.not_not.1 hscratch,
                                    Decidable.not_not.1 hcheck, Decidable.not_not.1 hlock⟩ h
                                  unfold importable
                                  cases root with
                                  | object members =>
                                    simp only [hversion, hitems]
                                    rw [if_pos ⟨Decidable.not_not.1 hone, Nat.not_lt.1 hcount⟩]
                                  | _ => exact absurd rfl hobject
              · exact ⟨nofun, rfl⟩
      · exact ⟨nofun, rfl⟩

theorem importJson_fills (io : StoreIo) (root : Json) (s : Store σ)
    (items : List Json) (h : Fills fmt io root items) : (Stops io.fillStops items →
      s.importJson fmt io root = (.noMem, Store.fill [] s.generation)) ∧
    (¬ Stops io.fillStops items → ∃ scenarios,
      s.importJson fmt io root = (.ok, Store.fill scenarios (s.generation + 1))) := by
  rcases h with ⟨htree, hscratch, hcheck, hlock⟩
  have houtcome : s.importJson fmt io root =
      (Store.importItems fmt io.fillStops items).casesOn (fun err => (err, Store.fill [] s.generation))
        fun scenarios => (.ok, Store.fill scenarios (s.generation + 1)) := by
    unfold importable at htree
    split at htree
    · next members version items' hversion hitems =>
        split at htree
        · next hok =>
            cases htree
            unfold Store.importJson
            cases hfill : Store.importItems fmt io.fillStops items with
            | error err | ok scenarios =>
              simp [hversion, hitems, hok.1, hscratch, hcheck, hlock, hfill, Json.isObject,
                Nat.not_lt.2 hok.2]
        · cases htree
    · cases htree
  rcases importItems_stops_iff fmt io.checkStops io.fillStops [] items hcheck with ⟨hstops, hgoes⟩
  rw [houtcome]
  constructor
  · intro hstop
    rw [hstops hstop]
  intro hgo
  rcases hgoes hgo with ⟨scenarios, hscenarios⟩
  rw [hscenarios]
  exact ⟨scenarios, rfl⟩

theorem apply_accepted (io : StoreIo) (s : Store σ) (call : Call σ) (h : call.Accepted fmt io s) :
    (call.apply fmt io s).1 = .ok ∧ (call.apply fmt io s).2.generation = s.generation + 1 := by
  cases call with
  | addAndSave scenario =>
    rcases h with ⟨hvalid, hlock, hslot⟩
    rcases Option.isSome_iff_exists.1 hslot with ⟨i, hi⟩
    unfold Call.apply Store.add
    simp only [hvalid, hlock, hi, ne_eq, not_true_eq_false, if_false]
    exact ⟨trivial, rfl⟩
  | deleteAndSave scenarioId =>
    rcases h with ⟨hlock, hslot⟩
    rcases Option.isSome_iff_exists.1 hslot with ⟨i, hi⟩
    have hid : scenarioId ≠ "" := by
      intro hempty
      unfold Store.find at hi
      rw [if_pos hempty] at hi
      cases hi
    unfold Call.apply Store.delete
    simp only [hid, hlock, hi, ne_eq, not_true_eq_false, if_false]
    exact ⟨trivial, rfl⟩
  | importAndSave root =>
    rcases h with ⟨items, hfills, hgo⟩
    rcases (importJson_fills fmt io root s items hfills).2 hgo with ⟨scenarios, hout⟩
    unfold Call.apply
    simp only [hout]
    exact ⟨trivial, rfl⟩

/-- A call the table does not take fails, and changes the table only where it
    zeroes it. -/
theorem apply_refused (io : StoreIo) (s : Store σ) (call : Call σ)
    (h : ¬ call.Accepted fmt io s) : (call.apply fmt io s).1 ≠ .ok ∧
      ((call.apply fmt io s).2 = s ↔ ¬ call.Clears fmt io s) := by
  cases call with
  | addAndSave scenario =>
    unfold Call.apply Store.add
    simp only
    split
    · next hvalid => exact ⟨hvalid, iff_of_true rfl id⟩
    · next hvalid =>
        split
        · next hlock => exact ⟨hlock, iff_of_true rfl id⟩
        · next hlock =>
            split
            · exact ⟨nofun, iff_of_true rfl id⟩
            · next i hi =>
                refine absurd ⟨Decidable.not_not.1 hvalid, Decidable.not_not.1 hlock, ?_⟩ h
                rw [hi]
                rfl
  | deleteAndSave scenarioId =>
    unfold Call.apply Store.delete
    simp only
    split
    · exact ⟨nofun, iff_of_true rfl id⟩
    split
    · next hlock => exact ⟨hlock, iff_of_true rfl id⟩
    · next hlock =>
        split
        · exact ⟨nofun, iff_of_true rfl id⟩
        · next i hi =>
            refine absurd ⟨Decidable.not_not.1 hlock, ?_⟩ h
            rw [hi]
            rfl
  | importAndSave root =>
    unfold Call.apply
    simp only
    by_cases hfills : ∃ items, Fills fmt io root items
    · rcases hfills with ⟨items, hfills⟩
      have hstop : Stops io.fillStops items :=
        Classical.byContradiction fun hgo => h ⟨items, hfills, hgo⟩
      rw [(importJson_fills fmt io root s items hfills).1 hstop]
      refine ⟨nofun, ?_⟩
      -- The zeroed table is the one before only if that was empty.
      constructor
      · intro hsame hclears
        exact hclears.2 (congrArg Store.slots hsame).symm
      intro hkept
      have hempty : s.slots = List.replicate maxScenarios none :=
        Classical.byContradiction fun hsome => hkept ⟨⟨items, hfills, hstop⟩, hsome⟩
      cases s with
      | mk slots generation length_slots =>
        cases hempty
        rfl
    · rcases importJson_refused fmt io root s hfills with ⟨herr, hsame⟩
      refine ⟨herr, iff_of_true hsame fun hclears => ?_⟩
      rcases hclears.1 with ⟨items, hsome, -⟩
      exact hfills ⟨items, hsome⟩

end

theorem generation_ne (s s' : Store σ) (h : s'.generation = s.generation + 1) : s' ≠ s := by
  intro hsame
  rw [hsame] at h
  exact Lib.succ_ne s.generation h.symm

/-! ### The save -/

theorem exportItems_fails (fmt : ScenarioFormat σ) (slots : List (Option σ)) :
    Store.exportItems fmt slots ≠ .error .ok := by
  induction slots with
  | nil => exact nofun
  | cons slot rest ih =>
    cases slot with
    | none => exact ih
    | some scenario =>
      unfold Store.exportItems
      split
      · next err herr =>
          intro h
          cases h
          exact fmt.toJson_fails scenario herr
      split
      · next err herr =>
          intro h
          cases h
          exact ih herr
      · exact nofun

theorem storeText_fails (fmt : ScenarioFormat σ) (print : Json → String) (io : SaveIo)
    (s : Store σ) : storeText fmt print io s ≠ .error .ok := by
  unfold storeText Store.exportJson
  by_cases htree : io.store.exportTree = .ok
  · have hitems := exportItems_fails fmt s.slots
    cases hout : Store.exportItems fmt s.slots with
    | error err =>
      rw [hout] at hitems
      simp only [htree, ne_eq, not_true_eq_false, if_false]
      intro h
      injection h with herr
      exact hitems (congrArg Except.error herr)
    | ok items =>
      simp only [htree, ne_eq, not_true_eq_false, if_false]
      split
      · exact nofun
      · exact nofun
  · simp only [ne_eq, htree, not_false_eq_true, if_true]
    intro h
    injection h with herr
    exact htree herr

theorem replaceFile_ok_iff (io : SaveIo) (printed : String) (d : Disk) :
    (replaceFile io printed d).1 = .ok ↔ Replaces io printed := by
  unfold replaceFile Replaces
  simp only
  split
  · next hopen => exact iff_of_false nofun fun h => by rw [h.1] at hopen; cases hopen
  · next hopen =>
      split
      · next htorn =>
          refine iff_of_false nofun fun h => ?_
          rcases h.2.1 with hwrite | hempty
          · rw [hwrite] at htorn
            cases htorn.2
          · exact absurd hempty (Nat.ne_of_gt htorn.1)
      · next htorn =>
          split
          · next hclose =>
              exact iff_of_false nofun fun h => by rw [h.2.2.1] at hclose; cases hclose
          · next hclose =>
              split
              · next hrename =>
                  exact iff_of_false nofun fun h => by rw [h.2.2.2] at hrename; cases hrename
              · next hrename =>
                  refine iff_of_true rfl ⟨?_, ?_, ?_, ?_⟩
                  · simpa using hopen
                  · by_cases hempty : printed.utf8ByteSize = 0
                    · exact .inr hempty
                    refine .inl ?_
                    have hwrite := fun hfail => htorn ⟨Nat.pos_of_ne_zero hempty, hfail⟩
                    simpa using hwrite
                  · simpa using hclose
                  · simpa using hrename

theorem replaceFile_trace {io : SaveIo} {printed : String} (h : Replaces io printed) (d : Disk) :
    replaceFile io printed d =
      (.ok, [⟨d.file, some ""⟩, ⟨d.file, some printed⟩,
        ⟨if io.unlink then none else d.file, some printed⟩, ⟨some printed, none⟩]) := by
  rcases h with ⟨hopen, hwrite, hclose, hrename⟩
  have htorn : ¬ (0 < printed.utf8ByteSize ∧ (!io.fwrite) = true) := by
    rintro ⟨hpos, hfail⟩
    rcases hwrite with hwrite | hempty
    · rw [hwrite] at hfail
      cases hfail
    · exact absurd hempty (Nat.ne_of_gt hpos)
  unfold replaceFile
  simp only [hopen, hclose, hrename, htorn, Bool.not_true, Bool.false_eq_true, if_false]
  cases io.unlink with
  | true => rfl
  | false => rfl

theorem loadText_eq_file {d d' : Disk} (h : d'.file = d.file) : loadText d' = loadText d := by
  unfold loadText
  rw [h]

theorem findsOldOrNew_new_iff (d : Disk) (printed : String) (tmp : Option String) :
    FindsOldOrNew d (.ok printed) ⟨some printed, tmp⟩ ↔
      printed.utf8ByteSize ≤ fileMaxBytes ∨
        ∃ old, d.file = some old ∧ fileMaxBytes < old.utf8ByteSize := by
  unfold FindsOldOrNew
  by_cases hsize : fileMaxBytes < printed.utf8ByteSize
  · have hnew : loadText ⟨some printed, tmp⟩ = .error .invalidSize := if_pos hsize
    rw [hnew]
    constructor
    · rintro (hold | ⟨t, -, ht⟩)
      · right
        unfold loadText at hold
        split at hold
        · cases hold
        · next old hfile =>
            split at hold
            · next hlarge => exact ⟨old, hfile, hlarge⟩
            · cases hold
      · cases ht
    · rintro (hsmall | ⟨old, hfile, hlarge⟩)
      · exact absurd hsmall (Nat.not_le.2 hsize)
      left
      unfold loadText
      rw [hfile]
      exact (if_pos hlarge).symm
  · have hnew : loadText ⟨some printed, tmp⟩ = .ok printed := if_neg hsize
    exact iff_of_true (.inr ⟨printed, rfl, hnew⟩) (.inl (Nat.not_lt.1 hsize))

theorem findsOldOrNew_none_iff (d : Disk) (text : Except EspErr String) (tmp : Option String) :
    FindsOldOrNew d text ⟨none, tmp⟩ ↔ d.file = none := by
  constructor
  · rintro (hold | ⟨t, -, ht⟩)
    · unfold loadText at hold
      simp only at hold
      split at hold
      · next hfile => exact hfile
      split at hold
      · cases hold
      · cases hold
    · cases ht
  · intro hfile
    exact .inl (loadText_eq_file hfile.symm)

/-- A save succeeds, and a load finds the old text or the new one behind each of
    its calls, exactly if it is safe. -/
theorem saveToPath_safe_iff (fmt : ScenarioFormat σ) (print : Json → String) (io : SaveIo)
    (s : Store σ) (d : Disk) : ((saveToPath fmt print io s d).1 = .ok ∧
      ∀ d' ∈ d :: (saveToPath fmt print io s d).2,
        FindsOldOrNew d (storeText fmt print io s) d') ↔ SafeSave fmt print io s d := by
  unfold saveToPath SafeSave
  by_cases hcard : io.sdCard = .ok
  · by_cases hparent : io.mkdirParent = .ok
    · simp only [hcard, hparent, ne_eq, not_true_eq_false, if_false, true_and]
      cases htext : storeText fmt print io s with
      | error err =>
        refine iff_of_false (fun h => ?_) (by rintro ⟨text, htext', -⟩; cases htext')
        have herr : err = .ok := h.1
        exact storeText_fails fmt print io s (by rw [htext, herr])
      | ok printed =>
        simp only [Except.ok.injEq, exists_eq_left', replaceFile_ok_iff]
        refine and_congr_right fun hreplaces => ?_
        rw [replaceFile_trace hreplaces]
        have hself : FindsOldOrNew d (.ok printed) d := .inl rfl
        have hstays : ∀ tmp, FindsOldOrNew d (.ok printed) ⟨d.file, tmp⟩ :=
          fun tmp => .inl (loadText_eq_file rfl)
        simp only [List.forall_mem_cons, List.not_mem_nil, false_imp_iff, implies_true,
          and_true, hself, hstays, true_and, findsOldOrNew_new_iff]
        refine and_congr_left fun _ => ?_
        -- Behind a successful unlink the file is gone.
        cases io.unlink with
        | true => simp only [if_true, findsOldOrNew_none_iff, Bool.true_eq_false, false_or]
        | false => simp only [Bool.false_eq_true, if_false, hstays, true_or]
    · simp [hcard, hparent]
  · simp [hcard]

/-! ### The calls -/

variable {fmt : ScenarioFormat σ}

theorem exportItems_again {slots : List (Option σ)} {seen : List String} {items : List Json}
    (hback : ∀ a, some a ∈ slots → ∀ item, fmt.toJson a = .ok item → fmt.fromJson item = .ok a)
    (hids : (seen ++ slots.reduceOption.map fmt.id).Nodup)
    (hitems : Store.exportItems fmt slots = .ok items) :
    Store.checkItems fmt none seen items = .ok ∧
      Store.importItems fmt none items = .ok slots.reduceOption ∧ items.length ≤ slots.length := by
  induction slots generalizing seen items with
  | nil =>
    cases hitems
    exact ⟨rfl, rfl, Nat.le_refl _⟩
  | cons slot rest ih =>
    have hback' := fun a ha => hback a (.tail _ ha)
    cases slot with
    | none =>
      rcases ih hback' hids hitems with ⟨hcheck, himport, hle⟩
      exact ⟨hcheck, himport, Nat.le_succ_of_le hle⟩
    | some a =>
      unfold Store.exportItems at hitems
      split at hitems
      · cases hitems
      next item hitem =>
      split at hitems
      · cases hitems
      next items' hitems' =>
      cases hitems
      have hnew : fmt.id a ∉ seen := fun hin =>
        (List.nodup_append.1 hids).2.2 _ hin _ (.head _) rfl
      rcases @ih (seen ++ [fmt.id a]) items' hback' (by rwa [List.append_assoc]) hitems' with
        ⟨hcheck, himport, hle⟩
      simp [Store.checkItems, Store.importItems, hback a (.head _) item hitem, hnew, hcheck,
        himport, hle]

/-- **A table that was saved is loaded again, from the first slot on, if its ids differ, and its
    scenarios and its text are read back.** -/
theorem load_of_save {print : Json → String} {parse : String → Option Json} {io : SaveIo}
    {s : Store σ} {d : Disk} (hids : (s.slots.reduceOption.map fmt.id).Nodup)
    (hback : ∀ a, some a ∈ s.slots → ∀ item, fmt.toJson a = .ok item → fmt.fromJson item = .ok a)
    (hparse : ∀ root, s.exportJson fmt io.store = .ok root →
      parse (print root) = some root ∧ (print root).utf8ByteSize ≤ fileMaxBytes)
    (hsaved : (saveToPath fmt print io s d).1 = .ok) (boot : Store σ) :
    loadFromPath fmt parse {} ((saveToPath fmt print io s d).2.getLastD d) boot =
      (.ok, Store.fill s.slots.reduceOption (boot.generation + 1)) := by
  unfold saveToPath at hsaved ⊢
  split_ifs at hsaved ⊢ with hcard hparent
  · exact absurd hsaved hcard
  · exact absurd hsaved hparent
  cases htext : storeText fmt print io s with
  | error err =>
    rw [htext] at hsaved
    exact absurd (htext.trans (congrArg _ hsaved)) (storeText_fails fmt print io s)
  | ok printed =>
    rw [htext] at hsaved
    dsimp only
    rw [replaceFile_trace ((replaceFile_ok_iff io printed d).1 hsaved)]
    unfold storeText at htext
    split at htext
    · cases htext
    next root hroot =>
    split_ifs at htext
    cases htext
    rcases hparse root hroot with ⟨hread, hsize⟩
    unfold Store.exportJson at hroot
    split_ifs at hroot
    split at hroot
    · cases hroot
    next items hitems =>
    cases hroot
    rcases @exportItems_again σ fmt s.slots [] items hback hids hitems with ⟨hcheck, himport, hle⟩
    rw [s.length_slots] at hle
    have hversion : Json.valueInt 1 = scenarioJsonVersion := by decide
    simp [loadFromPath, loadText, Nat.not_lt.2 hsize, hread, Store.importJson, Json.isObject,
      Json.get, hversion, hcheck, himport, Nat.not_lt.2 hle]

/-! ### Scenarios that are no more than their names -/

def nameFormat : ScenarioFormat String where
  id name := name
  validateStructural name := if name = "" then .invalidArg else .ok
  toJson name := .ok (.object [("id", .string name)])
  fromJson item :=
    match item.get "id" with
    | some (.string name) => if name = "" then .error .invalidArg else .ok name
    | _ => .error .invalidArg
  toJson_fails := nofun
  fromJson_fails item := by
    split
    · split
      · exact nofun
      · exact nofun
    · exact nofun

/-- The text of the table below with the cellar added to it. -/
def printCellar : Json → String := fun _ =>
  "\x7b\"version\":1,\"room_scenarios\":[\x7b\"id\":\"attic\"\x7d,\x7b\"id\":\"cellar\"\x7d]\x7d"

/-- One scenario, in memory and in the file. -/
def atticHub : Hub String where
  store := Store.fill ["attic"] 1
  disk := { file := some "\x7b\"version\":1,\"room_scenarios\":[\x7b\"id\":\"attic\"\x7d]\x7d" }

def atticTree : Json :=
  .object [("version", .number 1), ("room_scenarios", .array [.object [("id", .string "attic")]])]

theorem load_of_save_attic : loadFromPath nameFormat (fun _ => some atticTree) {}
    ((saveToPath nameFormat (fun _ => atticHub.disk.file.getD "") {} atticHub.store {}).2.getLastD
      {}) {} = (.ok, Store.fill ["attic"] 1) :=
  load_of_save (by decide) (by
      intro a ha item h
      obtain rfl : a = "attic" := by simpa [atticHub, Store.fill, maxScenarios] using ha
      cases h
      rfl)
    (fun root h => Except.ok.inj h ▸ ⟨rfl, by decide⟩) (by decide) {}

/-- Adding the cellar, with a rename that fails. -/
def failedRename : CallResult String :=
  runCall nameFormat printCellar (.addAndSave "cellar") { rename := false } atticHub

end SceneHub
