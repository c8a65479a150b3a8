import Mathlib.Data.List.Nodup

/-!
# Tables of Names

A table gives every name it holds a number, its place in the table. Names are
only added behind the others, each at most once, so a number keeps its meaning
while the table grows, and different names have different numbers.

A value kept by number can be read and written by name through the table. The
two views agree on every name the table has.

## Main definitions

* `addName`: Add a name unless it is there.
* `byName`: What a family indexed by number says about a name.

## Theorems

* `mem_addName`, `idxOf?_isSome`: Whatever was added is found.
* `getElem?_of_idxOf?`, `idxOf?_of_getElem?`: Names and numbers correspond.
* `getElem?_of_initial`: Numbers keep their meaning when the table grows.
* `byName_update`: Writing by number is writing by name.
-/

namespace SceneHub.Lib

variable {α β : Type}

theorem getElem?_of_initial {names names' : List α} (h : names <+: names') {i : Nat} {name : α}
    (hi : names[i]? = some name) : names'[i]? = some name := by
  rcases h with ⟨more, rfl⟩
  rcases List.getElem?_eq_some_iff.1 hi with ⟨hlt, -⟩
  rw [List.getElem?_append_left hlt]
  exact hi

variable [DecidableEq α]

/-- Add a name behind the others, unless it is there. -/
def addName (names : List α) (name : α) : List α :=
  if name ∈ names then names else names ++ [name]

theorem addName_initial (names : List α) (name : α) : names <+: addName names name := by
  unfold addName
  split
  · exact List.prefix_rfl
  · exact List.prefix_append _ _

theorem addName_nodup {names : List α} (h : names.Nodup) (name : α) :
    (addName names name).Nodup := by
  unfold addName
  split
  · exact h
  · next hnot =>
      refine List.nodup_append.2 ⟨h, List.nodup_singleton name, ?_⟩
      intro x hx y hy heq
      rw [List.mem_singleton.1 hy] at heq
      rw [heq] at hx
      exact hnot hx

theorem mem_addName (names : List α) (name : α) : name ∈ addName names name := by
  unfold addName
  split
  · next h => exact h
  · exact List.mem_append_right _ List.mem_cons_self

theorem getElem?_of_idxOf? {names : List α} {name : α} {i : Nat}
    (h : names.idxOf? name = some i) : names[i]? = some name := by
  rcases List.findIdx?_eq_some_iff_getElem.1 h with ⟨hlt, heq, -⟩
  rw [List.getElem?_eq_getElem hlt, eq_of_beq heq]

theorem idxOf?_isSome {names : List α} {name : α} (h : name ∈ names) :
    ∃ i, names.idxOf? name = some i := by
  cases hfind : names.idxOf? name with
  | some i => exact ⟨i, rfl⟩
  | none =>
    have hnot := List.findIdx?_eq_none_iff.1 hfind name h
    rw [beq_self_eq_true] at hnot
    cases hnot

/-- In a table without duplicates a place is the number of its name. -/
theorem idxOf?_of_getElem? {names : List α} (hnodup : names.Nodup) {name : α} {i : Nat}
    (h : names[i]? = some name) : names.idxOf? name = some i := by
  rcases idxOf?_isSome (List.mem_of_getElem? h) with ⟨k, hk⟩
  have hplace := getElem?_of_idxOf? hk
  rcases List.getElem?_eq_some_iff.1 h with ⟨hi, hname⟩
  rcases List.getElem?_eq_some_iff.1 hplace with ⟨hlt, hname'⟩
  have heq : k = i := (List.Nodup.getElem_inj_iff hnodup).1 (hname'.trans hname.symm)
  rw [hk, heq]

/-- What a family indexed by number says about a name. -/
def byName (names : List α) (values : Nat → β) (absent : β) (name : α) : β :=
  match names.idxOf? name with
  | some i => values i
  | none => absent

theorem byName_eq {names : List α} (hnodup : names.Nodup) (values : Nat → β) (absent : β)
    {name : α} {i : Nat} (h : names[i]? = some name) : byName names values absent name = values i := by
  unfold byName
  rw [idxOf?_of_getElem? hnodup h]

/-- Writing by number is writing by name. -/
theorem byName_update {names : List α} (hnodup : names.Nodup) (values : Nat → β) (absent : β)
    {name : α} {i : Nat} (h : names[i]? = some name) (value : β) :
    byName names (Function.update values i value) absent =
      Function.update (byName names values absent) name value := by
  funext other
  by_cases hsame : other = name
  · subst hsame
    rw [byName_eq hnodup _ _ h, Function.update_self, Function.update_self]
  rw [Function.update_of_ne hsame]
  unfold byName
  cases hfind : names.idxOf? other with
  | none => rfl
  | some k =>
    -- Another name has another number.
    have hne : k ≠ i := by
      intro heq
      have hplace := getElem?_of_idxOf? hfind
      rw [heq, h] at hplace
      exact hsame (Option.some.inj hplace).symm
    exact Function.update_of_ne hne _ _

end SceneHub.Lib
