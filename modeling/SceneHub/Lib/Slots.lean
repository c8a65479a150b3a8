import Mathlib.Data.List.Perm.Basic
import Mathlib.Data.List.ReduceOption

/-!
# Tables of Slots

A table of slots that are free or taken. Something new goes into the first free
slot; whatever satisfies a test is taken out in the order of the slots, at most
so many at a time.

What is in the table is a list with repetitions, and no operation loses or
doubles any of it. That is said up to the order, since slots are used again.

## Main definitions

* `occupants`: What is in the table, in the order of the slots.
* `occupy`: Put something into the first free slot.
* `drain`: Take out the first few that satisfy a test.

## Theorems

* `occupy_perm`: What was put in is in the table beside the others.
* `drain_taken`, `drain_perm`: What is taken out, and that the rest stays.
* `filter_key_take_one`: Where keys are distinct, a key is found at most once.
-/

namespace SceneHub.Lib

variable {α κ : Type}

/-- What is in the table, in the order of the slots. -/
def occupants (slots : List (Option α)) : List α := slots.reduceOption

/-- Put something into the first free slot. -/
def occupy (a : α) : List (Option α) → Option (List (Option α))
  | [] => none
  | none :: slots => some (some a :: slots)
  | some b :: slots => (occupy a slots).map (some b :: ·)

/-- Take out the first `k` that satisfy a test. Their slots become free. -/
def drain (test : α → Bool) : Nat → List (Option α) → List α × List (Option α)
  | 0, slots => ([], slots)
  | _ + 1, [] => ([], [])
  | k + 1, none :: slots =>
    let (taken, rest) := drain test (k + 1) slots
    (taken, none :: rest)
  | k + 1, some a :: slots =>
    if test a then
      let (taken, rest) := drain test k slots
      (a :: taken, none :: rest)
    else
      let (taken, rest) := drain test (k + 1) slots
      (taken, some a :: rest)

@[simp] theorem occupants_nil : occupants ([] : List (Option α)) = [] := rfl

@[simp] theorem occupants_none_cons (slots : List (Option α)) :
    occupants (none :: slots) = occupants slots := List.reduceOption_cons_of_none slots

@[simp] theorem occupants_some_cons (a : α) (slots : List (Option α)) :
    occupants (some a :: slots) = a :: occupants slots := List.reduceOption_cons_of_some a slots

theorem occupants_replicate (n : Nat) : occupants (List.replicate n (none : Option α)) = [] := by
  induction n with
  | zero => rfl
  | succ n ih =>
    rw [List.replicate_succ, occupants_none_cons]
    exact ih

theorem occupy_perm {a : α} {slots slots' : List (Option α)} (h : occupy a slots = some slots') :
    (occupants slots').Perm (a :: occupants slots) := by
  induction slots generalizing slots' with
  | nil => exact absurd h (by simp [occupy])
  | cons slot slots ih =>
    cases slot with
    | none =>
      rw [occupy, Option.some.injEq] at h
      subst h
      simp
    | some b =>
      rw [occupy, Option.map_eq_some_iff] at h
      rcases h with ⟨rest, hrest, rfl⟩
      rw [occupants_some_cons, occupants_some_cons]
      exact ((ih hrest).cons b).trans (List.Perm.swap a b _)

theorem drain_taken (test : α → Bool) (k : Nat) (slots : List (Option α)) :
    (drain test k slots).1 = ((occupants slots).filter test).take k := by
  induction slots generalizing k with
  | nil => cases k <;> simp [drain]
  | cons slot slots ih =>
    cases k with
    | zero => simp [drain]
    | succ k =>
      cases slot with
      | none =>
        rw [drain, occupants_none_cons]
        exact ih (k + 1)
      | some a =>
        rw [drain, occupants_some_cons]
        by_cases h : test a = true
        · rw [if_pos h, List.filter_cons_of_pos h, List.take_succ_cons, ← ih k]
        · rw [if_neg h, List.filter_cons_of_neg h, ← ih (k + 1)]

theorem drain_perm (test : α → Bool) (k : Nat) (slots : List (Option α)) :
    (occupants slots).Perm ((drain test k slots).1 ++ occupants (drain test k slots).2) := by
  induction slots generalizing k with
  | nil => cases k <;> simp [drain]
  | cons slot slots ih =>
    cases k with
    | zero => simp [drain]
    | succ k =>
      cases slot with
      | none =>
        exact ih (k + 1)
      | some a =>
        rw [drain, occupants_some_cons]
        by_cases h : test a = true
        · rw [if_pos h]
          exact (ih k).cons a
        · rw [if_neg h, occupants_some_cons]
          exact ((ih (k + 1)).cons a).trans List.perm_middle.symm

/-- Where keys are distinct, a key is found at most once. -/
theorem filter_key_take_one [DecidableEq κ] (key : α → κ) {l : List α} (h : (l.map key).Nodup)
    (wanted : κ) :
    (l.filter fun a => key a = wanted).take 1 = l.filter fun a => key a = wanted := by
  induction l with
  | nil => rfl
  | cons a l ih =>
    rw [List.map_cons, List.nodup_cons] at h
    by_cases ha : key a = wanted
    · have hrest : (l.filter fun b => key b = wanted) = [] := by
        rw [List.filter_eq_nil_iff]
        intro b hb heq
        exact h.1 (ha.trans (of_decide_eq_true heq).symm ▸ List.mem_map_of_mem hb)
      rw [List.filter_cons_of_pos (by simpa using ha), hrest]
      rfl
    · rw [List.filter_cons_of_neg (by simpa using ha)]
      exact ih h.2

end SceneHub.Lib
