import Mathlib.Tactic.Common

/-!
# Readers That Fail

Reading a value out of a tree, where every step may fail with a code. A reader
of a list reads its items in order and fails with the first that fails.

Whether what was written can be read again is argued in two halves that meet at
a description of the values: whatever is read answers the description, and
whatever answers it can be written and read. For a reader with a state the
description is a relation between the state before an item, the item and the
state behind it.

## Main definitions

* `readAll`: Reading every item of a list.
* `readFrom`: The same with a state that each item may extend.
* `Runs`: A list of items each of which answers a relation of states.

## Theorems

* `bind_eq_ok_iff`: When two steps in a row succeed.
* `readAll_mem`, `readAll_map`, `exists_readAll`: The two halves for `readAll`.
* `readFrom_runs`, `Runs.exists_readFrom`: The two halves for `readFrom`.
-/

namespace SceneHub.Lib

variable {α β σ ε : Type}

/-- Read every item of a list, in order. -/
def readAll (read : α → Except ε β) : List α → Except ε (List β)
  | [] => .ok []
  | x :: rest => do
    let y ← read x
    let ys ← readAll read rest
    return y :: ys

/-- Read every item of a list with a state handed from one to the next. -/
def readFrom (read : σ → α → Except ε (β × σ)) : σ → List α → Except ε (List β × σ)
  | s, [] => .ok ([], s)
  | s, x :: rest => do
    let (y, s) ← read s x
    let (ys, s) ← readFrom read s rest
    return (y :: ys, s)

theorem bind_eq_ok_iff {x : Except ε α} {f : α → Except ε β} {b : β} :
    x >>= f = .ok b ↔ ∃ a, x = .ok a ∧ f a = .ok b := by
  cases x with
  | error err =>
    constructor
    · nofun
    · rintro ⟨a, h, -⟩
      cases h
  | ok a =>
    constructor
    · intro h
      exact ⟨a, rfl, h⟩
    rintro ⟨a', h, hf⟩
    cases h
    exact hf

/-! ### Without a state -/

section

variable {read : α → Except ε β} {write : β → Except ε α} {P : β → Prop}

theorem readAll_length (xs : List α) (ys : List β) (hread : readAll read xs = .ok ys) :
    ys.length = xs.length := by
  induction xs generalizing ys with
  | nil =>
    cases hread
    rfl
  | cons x rest ih =>
    rcases bind_eq_ok_iff.1 hread with ⟨y, -, hread⟩
    rcases bind_eq_ok_iff.1 hread with ⟨ys', hys, hread⟩
    cases hread
    rw [List.length_cons, List.length_cons, ih ys' hys]

/-- What holds of every item that is read holds of all items of a list. -/
theorem readAll_mem (h : ∀ x y, read x = .ok y → P y) (xs : List α) (ys : List β)
    (hread : readAll read xs = .ok ys) : ∀ y ∈ ys, P y := by
  induction xs generalizing ys with
  | nil =>
    cases hread
    intro y hy
    exact nomatch hy
  | cons x rest ih =>
    rcases bind_eq_ok_iff.1 hread with ⟨y, hy, hread⟩
    rcases bind_eq_ok_iff.1 hread with ⟨ys', hys, hread⟩
    cases hread
    intro z hz
    rcases List.mem_cons.1 hz with rfl | hz
    · exact h x z hy
    · exact ih ys' hys z hz

/-- Reading back what was written item by item by a writer that cannot fail. -/
theorem readAll_map {write : β → α} (ys : List β) (h : ∀ y ∈ ys, read (write y) = .ok y) :
    readAll read (ys.map write) = .ok ys := by
  induction ys with
  | nil => rfl
  | cons y rest ih =>
    have hrest := ih fun z hz => h z (List.mem_cons_of_mem y hz)
    rw [List.map_cons]
    refine bind_eq_ok_iff.2 ⟨y, h y List.mem_cons_self, ?_⟩
    exact bind_eq_ok_iff.2 ⟨rest, hrest, rfl⟩

/-- Items are read back from a list exactly if each of them is. -/
theorem readAll_map_iff {write : β → α} (ys : List β) :
    readAll read (ys.map write) = .ok ys ↔ ∀ y ∈ ys, read (write y) = .ok y := by
  refine ⟨fun hread => ?_, readAll_map ys⟩
  induction ys with
  | nil => exact nofun
  | cons y rest ih =>
    rcases bind_eq_ok_iff.1 hread with ⟨z, hz, hread⟩
    rcases bind_eq_ok_iff.1 hread with ⟨zs, hzs, hread⟩
    cases hread
    intro x hx
    rcases List.mem_cons.1 hx with rfl | hx
    · exact hz
    · exact ih hzs x hx

/-- If every item can be written and read again, so can a list. -/
theorem exists_readAll (h : ∀ y, P y → ∃ x, write y = .ok x ∧ read x = .ok y) (ys : List β)
    (hP : ∀ y ∈ ys, P y) : ∃ xs, readAll write ys = .ok xs ∧ readAll read xs = .ok ys := by
  induction ys with
  | nil => exact ⟨[], rfl, rfl⟩
  | cons y rest ih =>
    rcases h y (hP y List.mem_cons_self) with ⟨x, hwrite, hread⟩
    rcases ih fun z hz => hP z (List.mem_cons_of_mem y hz) with ⟨xs, hwrites, hreads⟩
    refine ⟨x :: xs, ?_, ?_⟩
    · exact bind_eq_ok_iff.2 ⟨x, hwrite, bind_eq_ok_iff.2 ⟨xs, hwrites, rfl⟩⟩
    · exact bind_eq_ok_iff.2 ⟨y, hread, bind_eq_ok_iff.2 ⟨rest, hreads, rfl⟩⟩

end

/-! ### With a state -/

/-- Items that lead from one state to another, each as the relation says. -/
inductive Runs (R : σ → β → σ → Prop) : σ → List β → σ → Prop where
  | nil (s : σ) : Runs R s [] s
  | cons {s s' s'' : σ} {y : β} {ys : List β} (head : R s y s') (tail : Runs R s' ys s'') :
    Runs R s (y :: ys) s''

section

variable {read : σ → α → Except ε (β × σ)} {write : β → Except ε α} {R : σ → β → σ → Prop}

theorem readFrom_cons {s s' : σ} {x : α} {rest : List α} {ys : List β} :
    readFrom read s (x :: rest) = .ok (ys, s') ↔
      ∃ y t ys', read s x = .ok (y, t) ∧ readFrom read t rest = .ok (ys', s') ∧
        ys = y :: ys' := by
  constructor
  · intro h
    rcases bind_eq_ok_iff.1 h with ⟨⟨y, t⟩, hy, h⟩
    rcases bind_eq_ok_iff.1 h with ⟨⟨ys', t'⟩, hys, h⟩
    cases h
    exact ⟨y, t, ys', hy, hys, rfl⟩
  · rintro ⟨y, t, ys', hy, hys, rfl⟩
    exact bind_eq_ok_iff.2 ⟨(y, t), hy, bind_eq_ok_iff.2 ⟨(ys', s'), hys, rfl⟩⟩

theorem readFrom_length (xs : List α) (s s' : σ) (ys : List β)
    (hread : readFrom read s xs = .ok (ys, s')) : ys.length = xs.length := by
  induction xs generalizing s ys with
  | nil =>
    cases hread
    rfl
  | cons x rest ih =>
    rcases readFrom_cons.1 hread with ⟨y, t, ys', -, hys, rfl⟩
    rw [List.length_cons, List.length_cons, ih t ys' hys]

/-- What is read runs along any relation that every single reading answers. -/
theorem readFrom_runs (h : ∀ s x y s', read s x = .ok (y, s') → R s y s') (xs : List α)
    (s s' : σ) (ys : List β) (hread : readFrom read s xs = .ok (ys, s')) : Runs R s ys s' := by
  induction xs generalizing s ys with
  | nil =>
    cases hread
    exact .nil _
  | cons x rest ih =>
    rcases readFrom_cons.1 hread with ⟨y, t, ys', hy, hys, rfl⟩
    exact .cons (h s x y t hy) (ih t ys' hys)

/-- A property that no item brings about holds at the start if it holds at the end. -/
theorem Runs.back {Within : σ → Prop} (h : ∀ s y s', R s y s' → Within s' → Within s)
    {s s' : σ} {ys : List β} (hruns : Runs R s ys s') (hs : Within s') : Within s := by
  induction hruns with
  | nil s => exact hs
  | cons head tail ih => exact h _ _ _ head (ih hs)

/-- A list that runs can be written and read again, if every item can be whose
    state behind it is within what the writer looks into. -/
theorem Runs.exists_readFrom {Within : σ → Prop} {P : β → Prop}
    (hback : ∀ s y s', R s y s' → Within s' → Within s)
    (h : ∀ s y s', R s y s' → P y → Within s' → ∃ x, write y = .ok x ∧ read s x = .ok (y, s'))
    {s s' : σ} {ys : List β} (hruns : Runs R s ys s') (hP : ∀ y ∈ ys, P y) (hs : Within s') :
    ∃ xs, readAll write ys = .ok xs ∧ readFrom read s xs = .ok (ys, s') := by
  induction hruns with
  | nil s => exact ⟨[], rfl, rfl⟩
  | @cons s t s' y rest head tail ih =>
    rcases ih (fun z hz => hP z (List.mem_cons_of_mem y hz)) hs with ⟨xs, hwrites, hreads⟩
    rcases h s y t head (hP y List.mem_cons_self) (tail.back hback hs) with ⟨x, hwrite, hread⟩
    refine ⟨x :: xs, ?_, ?_⟩
    · exact bind_eq_ok_iff.2 ⟨x, hwrite, bind_eq_ok_iff.2 ⟨xs, hwrites, rfl⟩⟩
    · exact readFrom_cons.2 ⟨y, t, rest, hread, hreads, rfl⟩

/-- Where a list was written and read again, so was each of its items. -/
theorem readFrom_readAll_mem (ys : List β) (xs : List α) (s s' : σ)
    (hwrite : readAll write ys = .ok xs) (hread : readFrom read s xs = .ok (ys, s')) :
    ∀ y ∈ ys, ∃ x t t', write y = .ok x ∧ read t x = .ok (y, t') := by
  induction ys generalizing xs s with
  | nil =>
    intro y hy
    exact nomatch hy
  | cons y rest ih =>
    rcases bind_eq_ok_iff.1 hwrite with ⟨x, hx, hwrite⟩
    rcases bind_eq_ok_iff.1 hwrite with ⟨xs', hxs, hwrite⟩
    cases hwrite
    rcases readFrom_cons.1 hread with ⟨y', t, ys', hy, hys, heq⟩
    cases heq
    intro z hz
    rcases List.mem_cons.1 hz with rfl | hz
    · exact ⟨x, s, t, hx, hy⟩
    · exact ih xs' t hxs hys z hz

end

end SceneHub.Lib
