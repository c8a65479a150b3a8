import SceneHub.Theory.RuleTree

/-!
# Growing Tables

What compiling leaves of a bundle. Names keep their numbers and rows their
places, with one exception: the row of a part of a condition gets its sibling
only when the next part has been compiled. So what may be relied on is stated
of whatever the tables become, and `RowsKept` leaves open the sibling of one
row.

## Main definitions

* `Bundle.NamesWithin`, `Bundle.WellNamed`: The tables of names while they grow.
* `Bundle.NamesGrow`: What compiling does to a bundle apart from its rows.
* `RowsKept`: Rows that stay as they are, up to one sibling.

## Theorems

* `appendStateKey_ok`, `numbered`: A name that was added has a number.
* `RowsKept.trans`, `RowsKept.fill`: How rows are followed through a compilation.
-/

namespace SceneHub.Node

open Lib (addName)

variable {b b' : Bundle}

/-! ### Names -/

/-- The names of a bundle have the same numbers in another. -/
structure Bundle.NamesWithin (b b' : Bundle) : Prop where
  stateKeys : b.stateKeys <+: b'.stateKeys
  timerNames : b.timerNames <+: b'.timerNames
  phaseNames : b.phaseNames <+: b'.phaseNames

theorem Bundle.NamesWithin.refl (b : Bundle) : b.NamesWithin b :=
  ⟨List.prefix_rfl, List.prefix_rfl, List.prefix_rfl⟩

theorem Bundle.NamesWithin.trans {b b' b'' : Bundle} (h : b.NamesWithin b')
    (h' : b'.NamesWithin b'') : b.NamesWithin b'' :=
  ⟨h.stateKeys.trans h'.stateKeys, h.timerNames.trans h'.timerNames,
    h.phaseNames.trans h'.phaseNames⟩

/-- Every name is there once, and the engine has a slot for it. -/
structure Bundle.WellNamed (b : Bundle) : Prop where
  stateKeys : b.stateKeys.Nodup
  timerNames : b.timerNames.Nodup
  phaseNames : b.phaseNames.Nodup
  stateRoom : b.stateKeys.length ≤ maxStateKeys
  timerRoom : b.timerNames.length ≤ maxTimers

/-- What compiling anything below a rule does to a bundle, apart from its tables
    of conditions and actions. -/
structure Bundle.NamesGrow (b b' : Bundle) : Prop where
  within : b.NamesWithin b'
  wellNamed : b.WellNamed → b'.WellNamed
  rules : b'.rules = b.rules

theorem Bundle.NamesGrow.refl (b : Bundle) : b.NamesGrow b := ⟨.refl b, id, rfl⟩

theorem Bundle.NamesGrow.trans {b b' b'' : Bundle} (h : b.NamesGrow b') (h' : b'.NamesGrow b'') :
    b.NamesGrow b'' :=
  ⟨h.within.trans h'.within, fun hw => h'.wellNamed (h.wellNamed hw), h'.rules.trans h.rules⟩

theorem Bundle.namesGrow_of_eq (hstate : b'.stateKeys = b.stateKeys)
    (htimer : b'.timerNames = b.timerNames) (hphase : b'.phaseNames = b.phaseNames)
    (hrules : b'.rules = b.rules) : b.NamesGrow b' := by
  refine ⟨⟨?_, ?_, ?_⟩, fun hw => ⟨?_, ?_, ?_, ?_, ?_⟩, hrules⟩
  · exact hstate ▸ List.prefix_rfl
  · exact htimer ▸ List.prefix_rfl
  · exact hphase ▸ List.prefix_rfl
  · exact hstate ▸ hw.stateKeys
  · exact htimer ▸ hw.timerNames
  · exact hphase ▸ hw.phaseNames
  · exact hstate ▸ hw.stateRoom
  · exact htimer ▸ hw.timerRoom

theorem Bundle.pushCondition_names (b : Bundle) (row : CompiledCondition) :
    b.NamesGrow (b.pushCondition row) := namesGrow_of_eq rfl rfl rfl rfl

theorem Bundle.setCondition_names (b : Bundle) (i : Nat) (row : CompiledCondition) :
    b.NamesGrow (b.setCondition i row) := namesGrow_of_eq rfl rfl rfl rfl

theorem Bundle.linkSibling_names (b : Bundle) (prev child : Nat) :
    b.NamesGrow (b.linkSibling prev child) := namesGrow_of_eq rfl rfl rfl rfl

theorem Bundle.pushAction_names (b : Bundle) (row : CompiledAction) :
    b.NamesGrow (b.pushAction row) := namesGrow_of_eq rfl rfl rfl rfl

theorem Bundle.setAction_names (b : Bundle) (i : Nat) (row : CompiledAction) :
    b.NamesGrow (b.setAction i row) := namesGrow_of_eq rfl rfl rfl rfl

/-- The tables of conditions and actions are the same. -/
structure Bundle.OnlyNames (b b' : Bundle) : Prop where
  names : b.NamesGrow b'
  conditions : b'.conditions = b.conditions
  actions : b'.actions = b.actions

theorem Bundle.OnlyNames.refl (b : Bundle) : b.OnlyNames b := ⟨.refl b, rfl, rfl⟩

theorem appendUniqueName_ok {names names' : List String} {cap maxLen : Nat} {overflow name : String}
    (h : appendUniqueName names cap maxLen overflow name = .ok names') :
    names' = addName names name ∧ (names.length ≤ cap → names'.length ≤ cap) := by
  unfold appendUniqueName at h
  split at h
  · cases h
  split at h
  · cases h
  · next hfit =>
      cases h
      refine ⟨rfl, fun hle => ?_⟩
      unfold addName
      split
      · exact hle
      · next hnew =>
          -- A new name was only taken because there was room for it.
          have hroom : names.length < cap :=
            Nat.lt_of_not_le fun hfull => hfit ⟨hnew, hfull⟩
          rw [List.length_append]
          exact hroom

theorem appendStateKey_ok {name : String} (h : appendStateKey b name = .ok b') :
    b.OnlyNames b' ∧ name ∈ b'.stateKeys := by
  unfold appendStateKey at h
  cases happend : appendUniqueName b.stateKeys maxStateKeys 32 "too_many_state_keys" name with
  | error code =>
    rw [happend] at h
    cases h
  | ok names =>
    rw [happend] at h
    cases h
    obtain ⟨rfl, hroom⟩ := appendUniqueName_ok happend
    refine ⟨⟨⟨⟨Lib.addName_initial _ _, List.prefix_rfl, List.prefix_rfl⟩, ?_, rfl⟩, rfl, rfl⟩,
      Lib.mem_addName _ _⟩
    intro hw
    exact { hw with
      stateKeys := Lib.addName_nodup hw.stateKeys name
      stateRoom := hroom hw.stateRoom }

theorem appendTimerName_ok {name : String} (h : appendTimerName b name = .ok b') :
    b.OnlyNames b' ∧ name ∈ b'.timerNames := by
  unfold appendTimerName at h
  cases happend : appendUniqueName b.timerNames maxTimers 32 "too_many_timers" name with
  | error code =>
    rw [happend] at h
    cases h
  | ok names =>
    rw [happend] at h
    cases h
    obtain ⟨rfl, hroom⟩ := appendUniqueName_ok happend
    refine ⟨⟨⟨⟨List.prefix_rfl, Lib.addName_initial _ _, List.prefix_rfl⟩, ?_, rfl⟩, rfl, rfl⟩,
      Lib.mem_addName _ _⟩
    intro hw
    exact { hw with
      timerNames := Lib.addName_nodup hw.timerNames name
      timerRoom := hroom hw.timerRoom }

/-- The caller's own error code changes nothing about a name that was added. -/
theorem appendTimerName_ok' {name code : String}
    (h : ((appendTimerName b name).mapError fun _ => code) = .ok b') :
    b.OnlyNames b' ∧ name ∈ b'.timerNames := by
  cases happend : appendTimerName b name with
  | error code' =>
    rw [happend] at h
    cases h
  | ok b₁ =>
    rw [happend] at h
    cases h
    exact appendTimerName_ok happend

theorem appendPhaseName_ok {name : String} (h : appendPhaseName b name = .ok b') :
    b.OnlyNames b' ∧ name ∈ b'.phaseNames := by
  unfold appendPhaseName at h
  cases happend : appendUniqueName b.phaseNames maxPhases 24 "too_many_phases" name with
  | error code =>
    rw [happend] at h
    cases h
  | ok names =>
    rw [happend] at h
    cases h
    obtain ⟨rfl, -⟩ := appendUniqueName_ok happend
    refine ⟨⟨⟨⟨List.prefix_rfl, List.prefix_rfl, Lib.addName_initial _ _⟩, ?_, rfl⟩, rfl, rfl⟩,
      Lib.mem_addName _ _⟩
    intro hw
    exact { hw with phaseNames := Lib.addName_nodup hw.phaseNames name }

theorem numbered {α : Type} {append : Except String Bundle} {names : Bundle → List String}
    {name code : String} {f : Nat → α} {row : α} (h : (do
        let b ← append
        match (names b).idxOf? name with
        | some index => return (f index, b)
        | none => .error code) = .ok (row, b')) :
    append = .ok b' ∧ ∃ i, (names b')[i]? = some name ∧ row = f i := by
  cases append with
  | error code => cases h
  | ok b =>
    simp only [bind, Except.bind] at h
    split at h
    · next i hi =>
        cases h
        exact ⟨rfl, i, Lib.getElem?_of_idxOf? hi, rfl⟩
    · cases h

/-! ### Rows that stay -/

/-- The rows from `start` on stay as they are, but for the sibling of `hole`. -/
def RowsKept (start : Nat) (hole : Option Nat) (rows rows' : List CompiledCondition) : Prop :=
  ∀ n row, start ≤ n → rows[n]? = some row →
    ∃ next, rows'[n]? = some { row with nextSiblingIndex := next } ∧
      (hole ≠ some n → next = row.nextSiblingIndex)

namespace RowsKept

variable {start : Nat} {hole : Option Nat} {rows rows' rows'' : List CompiledCondition}

theorem of_initial (start : Nat) (hole : Option Nat) (h : rows <+: rows') :
    RowsKept start hole rows rows' :=
  fun _ row _ hrow => ⟨row.nextSiblingIndex, Lib.getElem?_of_initial h hrow, fun _ => rfl⟩

theorem trans (h : RowsKept start hole rows rows') (h' : RowsKept start hole rows' rows'') :
    RowsKept start hole rows rows'' := by
  intro n row hn hrow
  rcases h n row hn hrow with ⟨next, hrow', hsame⟩
  rcases h' n _ hn hrow' with ⟨next', hrow'', hsame'⟩
  exact ⟨next', hrow'', fun hne => (hsame' hne).trans (hsame hne)⟩

theorem mono (h : RowsKept start hole rows rows') {start' : Nat} (hle : start ≤ start') :
    RowsKept start' hole rows rows' :=
  fun n row hn hrow => h n row (Nat.le_trans hle hn) hrow

theorem weaken (h : RowsKept start none rows rows') (hole : Option Nat) :
    RowsKept start hole rows rows' := by
  intro n row hn hrow
  rcases h n row hn hrow with ⟨next, hrow', hsame⟩
  exact ⟨next, hrow', fun _ => hsame (Option.some_ne_none n).symm⟩

theorem fill (h : RowsKept start hole rows rows') (hbefore : ∀ i, hole = some i → i < start) :
    RowsKept start none rows rows' := by
  intro n row hn hrow
  rcases h n row hn hrow with ⟨next, hrow', hsame⟩
  exact ⟨next, hrow', fun _ => hsame fun heq => absurd (hbefore n heq) (Nat.not_lt.2 hn)⟩

theorem row (h : RowsKept start none rows rows') {n : Nat} {r : CompiledCondition}
    (hn : start ≤ n) (hrow : rows[n]? = some r) : rows'[n]? = some r := by
  rcases h n r hn hrow with ⟨next, hrow', hsame⟩
  rw [hrow', hsame (Option.some_ne_none n).symm]

theorem set (start : Nat) (hole : Option Nat) (rows : List CompiledCondition) {i : Nat}
    (hi : i < start) (r : CompiledCondition) : RowsKept start hole rows (rows.set i r) := by
  intro n row hn hrow
  refine ⟨row.nextSiblingIndex, ?_, fun _ => rfl⟩
  rw [List.getElem?_set_ne (by omega)]
  exact hrow

theorem modify (start : Nat) (rows : List CompiledCondition) (i : Nat) (next : Option Nat) :
    RowsKept start (some i) rows
      (rows.modify i fun c => { c with nextSiblingIndex := next }) := by
  intro n row _ hrow
  by_cases hne : i = n
  · subst hne
    refine ⟨next, ?_, fun h => absurd rfl h⟩
    rw [List.getElem?_modify_eq, hrow]
    rfl
  · refine ⟨row.nextSiblingIndex, ?_, fun _ => rfl⟩
    rw [List.getElem?_modify_ne _ _ hne]
    exact hrow

theorem length_le (h : RowsKept 0 hole rows rows') : rows.length ≤ rows'.length := by
  refine Nat.le_of_not_lt fun hlt => ?_
  -- The row behind the last would have to be there.
  have hrow : rows[rows'.length]? = some rows[rows'.length] := List.getElem?_eq_getElem hlt
  rcases h _ _ (Nat.zero_le _) hrow with ⟨next, hrow', -⟩
  rw [List.getElem?_eq_none (Nat.le_refl _)] at hrow'
  cases hrow'

theorem initial (h : RowsKept 0 none rows rows') : rows <+: rows' := by
  rw [List.prefix_iff_getElem?]
  intro i hi
  exact h.row (Nat.zero_le i) (List.getElem?_eq_getElem hi)

end RowsKept

end SceneHub.Node
