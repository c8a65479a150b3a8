/-!
# Sweeps

A loop over a list of places that may be left early. Each turn transforms a
state and says whether the loop is left behind it; `sweep` runs the turns in
order and reports whether it was left.

What a sweep does to the state follows from what a turn does to it, and what
it did to one place follows from the turn at that place alone, if turns
respect the boundaries between places. The question a caller has is then
whether the sweep got as far as that place, which is whether an earlier turn
left it.

## Main definitions

* `sweep`: Running the turns until one leaves.
* `Ahead`: The places ahead show what they showed when the sweep began.
* `Along`: What holds at the start of every turn a sweep takes.

## Theorems

* `sweep_append`: A sweep over a concatenation.
* `sweep_inv`: What every turn preserves, the sweep preserves.
* `sweep_at`: A sweep that reaches a place is its turn and the rest of it.
* `sweep_left_before`: A sweep left before a place does not depend on the rest.
* `sweep_get_of_frame`: A place no turn of the sweep is at keeps its value.
* `sweep_read`: What a sweep leaves at a place is what the turn there leaves,
  if the sweep comes to it.
* `sweep_inv_at`: An invariant that one place preserves for a reason of its own.
* `sweep_inv_rest`: An invariant that knows which turns are still to come.
* `sweep_of_quiet`, `sweep_of_note`: Sweeps whose turns are of two kinds.
* `Ahead.turn`: A turn leaves the places ahead as the sweep found them.
* `sweep_inv_along`: An invariant turns preserve under a condition is preserved
  by a sweep along which the condition holds.
-/

namespace SceneHub.Lib

variable {ι σ : Type}

/-- Run `turn` at each place in order, stopping behind the first one that
    leaves. The flag says whether one did. -/
def sweep (turn : ι → σ → σ × Bool) : List ι → σ → σ × Bool
  | [], s => (s, false)
  | i :: is, s =>
    if (turn i s).2 then ((turn i s).1, true) else sweep turn is (turn i s).1

section

variable (turn : ι → σ → σ × Bool)

@[simp] theorem sweep_nil (s : σ) : sweep turn [] s = (s, false) := rfl

theorem sweep_cons_left (i : ι) (is : List ι) (s : σ)
    (h : (turn i s).2 = true) : sweep turn (i :: is) s = ((turn i s).1, true) := by
  simp [sweep, h]

theorem sweep_cons_on (i : ι) (is : List ι) (s : σ)
    (h : (turn i s).2 = false) : sweep turn (i :: is) s = sweep turn is (turn i s).1 := by
  simp [sweep, h]

theorem sweep_append (pre post : List ι) (s : σ) : sweep turn (pre ++ post) s =
      if (sweep turn pre s).2 then sweep turn pre s else sweep turn post (sweep turn pre s).1 := by
  induction pre generalizing s with
  | nil => simp only [List.nil_append, sweep_nil, Bool.false_eq_true, if_false]
  | cons i is ih =>
    cases h : (turn i s).2 with
    | true => simp only [List.cons_append, sweep_cons_left _ _ _ _ h, if_true]
    | false => simp only [List.cons_append, sweep_cons_on _ _ _ _ h, ih]

end

/-- A sweep not left before a place is the turn at that place and the rest. -/
theorem sweep_at (turn : ι → σ → σ × Bool) (pre post : List ι) (i : ι) (s : σ)
    (h : (sweep turn pre s).2 = false) :
    sweep turn (pre ++ i :: post) s = sweep turn (i :: post) (sweep turn pre s).1 := by
  rw [sweep_append, h]
  simp

theorem sweep_left_before (turn : ι → σ → σ × Bool) (pre post : List ι) (s : σ)
    (h : (sweep turn pre s).2 = true) : sweep turn (pre ++ post) s = sweep turn pre s := by
  rw [sweep_append, h]
  simp

/-! ### What every turn keeps -/

/-- `C` holds at the start of every turn the sweep takes. -/
def Along (C : ι → σ → Prop) (turn : ι → σ → σ × Bool) : List ι → σ → Prop
  | [], _ => True
  | i :: is, s => C i s ∧ ((turn i s).2 = false → Along C turn is (turn i s).1)

theorem along_of_forall (C : ι → σ → Prop) (turn : ι → σ → σ × Bool) (is : List ι) (s : σ)
    (h : ∀ i ∈ is, ∀ t, C i t) : Along C turn is s := by
  induction is generalizing s with
  | nil => trivial
  | cons i is ih =>
    exact ⟨h i (.head _ ..) s, fun _ => ih _ fun j hj => h j (.tail _ hj)⟩

theorem sweep_inv_along (C : ι → σ → Prop) (P : σ → Prop) (turn : ι → σ → σ × Bool) (is : List ι)
    (s : σ) (hC : Along C turn is s) (hturn : ∀ i ∈ is, ∀ t, C i t → P t → P (turn i t).1)
    (hs : P s) : P (sweep turn is s).1 := by
  induction is generalizing s with
  | nil => exact hs
  | cons i is ih =>
    have hi : P (turn i s).1 := hturn i (.head _ ..) s hC.1 hs
    cases h : (turn i s).2 with
    | true => rw [sweep_cons_left _ _ _ _ h]; exact hi
    | false =>
      rw [sweep_cons_on _ _ _ _ h]
      exact ih _ (hC.2 h) (fun j hj => hturn j (.tail _ hj)) hi

/-- Whatever every turn preserves, the sweep preserves. -/
theorem sweep_inv (P : σ → Prop) (turn : ι → σ → σ × Bool) (is : List ι) (s : σ)
    (hturn : ∀ i ∈ is, ∀ t, P t → P (turn i t).1) (hs : P s) : P (sweep turn is s).1 :=
  sweep_inv_along (fun _ _ => True) P turn is s (along_of_forall _ _ _ _ fun _ _ _ => trivial)
    (fun i hi t _ => hturn i hi t) hs

/-- A sweep whose turns leave what is read at `k` alone, unless they are at
    `k`, leaves it alone if it never comes to `k`. -/
theorem sweep_get_of_frame {α : Type} (get : σ → α) (turn : ι → σ → σ × Bool) (is : List ι)
    (s : σ) (hframe : ∀ i ∈ is, ∀ t, get (turn i t).1 = get t) : get (sweep turn is s).1 = get s :=
  sweep_inv (fun t => get t = get s) turn is s (fun i hi t ht => (hframe i hi t).trans ht) rfl

/-- What a sweep leaves at `k`: what the turn at `k` makes of it, or, if an
    earlier turn leaves, what was there. -/
theorem sweep_read {α : Type} (get : σ → α) (turn : ι → σ → σ × Bool) (pre post : List ι) (k : ι)
    (s : σ) (hpost : ∀ i ∈ post, ∀ t, get (turn i t).1 = get t) :
    get (sweep turn (pre ++ k :: post) s).1 =
      if (sweep turn pre s).2 then get (sweep turn pre s).1
      else get (turn k (sweep turn pre s).1).1 := by
  cases hpre : (sweep turn pre s).2 with
  | true => rw [sweep_left_before turn pre _ s hpre, if_pos rfl]
  | false =>
    rw [sweep_at turn pre post k s hpre, if_neg Bool.false_ne_true]
    cases hk : (turn k (sweep turn pre s).1).2 with
    | true => rw [sweep_cons_left _ _ _ _ hk]
    | false =>
      rw [sweep_cons_on _ _ _ _ hk]
      exact sweep_get_of_frame get turn post _ hpost

/-- Whatever the turns at other places preserve, and the turn at `k` from where
    the sweep comes to it, the sweep preserves. -/
theorem sweep_inv_at (P : σ → Prop) (turn : ι → σ → σ × Bool) (pre post : List ι) (k : ι) (s : σ)
    (hpre : ∀ i ∈ pre, ∀ t, P t → P (turn i t).1)
    (hk : (sweep turn pre s).2 = false → P (sweep turn pre s).1 →
      P (turn k (sweep turn pre s).1).1)
    (hpost : ∀ i ∈ post, ∀ t, P t → P (turn i t).1) (hs : P s) :
    P (sweep turn (pre ++ k :: post) s).1 := by
  have hbefore := sweep_inv P turn pre s hpre hs
  cases hleft : (sweep turn pre s).2 with
  | true =>
    rw [sweep_left_before turn pre _ s hleft]
    exact hbefore
  | false =>
    rw [sweep_at turn pre post k s hleft]
    cases hat : (turn k (sweep turn pre s).1).2 with
    | true =>
      rw [sweep_cons_left _ _ _ _ hat]
      exact hk hleft hbefore
    | false =>
      rw [sweep_cons_on _ _ _ _ hat]
      exact sweep_inv P turn post _ hpost (hk hleft hbefore)

/-- What every turn that does not leave preserves, a sweep not left preserves. -/
theorem sweep_inv_on (P : σ → Prop) (turn : ι → σ → σ × Bool) (is : List ι) (s : σ)
    (hturn : ∀ i ∈ is, ∀ t, P t → (turn i t).2 = false → P (turn i t).1) (hs : P s)
    (hon : (sweep turn is s).2 = false) : P (sweep turn is s).1 := by
  induction is generalizing s with
  | nil => exact hs
  | cons i is ih =>
    cases hleft : (turn i s).2 with
    | true =>
      rw [sweep_cons_left _ _ _ _ hleft] at hon
      cases hon
    | false =>
      rw [sweep_cons_on _ _ _ _ hleft] at hon ⊢
      exact ih _ (fun j hj => hturn j (.tail _ hj))
        (hturn i (.head _ ..) s hs hleft) hon

/-! ### Places visited once -/

-- What is still to come is part of the invariant, so that it can say that the
-- places ahead are untouched or what a fold over the rest will give.
/-- An invariant that knows which turns are still to come. -/
theorem sweep_inv_rest (Q : List ι → σ → Prop) (turn : ι → σ → σ × Bool) (is : List ι) (s : σ)
    (hturn : ∀ i rest t, Q (i :: rest) t → Q rest (turn i t).1) (hs : Q is s) :
    ∃ rest, Q rest (sweep turn is s).1 ∧ ((sweep turn is s).2 = false → rest = []) := by
  induction is generalizing s with
  | nil => exact ⟨[], hs, fun _ => rfl⟩
  | cons i is ih =>
    have hnext := hturn i is s hs
    cases hleft : (turn i s).2 with
    | true =>
      rw [sweep_cons_left _ _ _ _ hleft]
      exact ⟨is, hnext, nofun⟩
    | false =>
      rw [sweep_cons_on _ _ _ _ hleft]
      exact ih _ hnext

theorem sweep_not_left (Q : List ι → σ → Prop) (turn : ι → σ → σ × Bool) (is : List ι) (s : σ)
    (hturn : ∀ i rest t, Q (i :: rest) t → Q rest (turn i t).1 ∧ (turn i t).2 = false)
    (hs : Q is s) : (sweep turn is s).2 = false := by
  induction is generalizing s with
  | nil => rfl
  | cons i is ih =>
    rcases hturn i is s hs with ⟨hnext, hon⟩
    rw [sweep_cons_on _ _ _ _ hon]
    exact ih _ hnext

/-! ### Turns of two kinds -/

-- A turn of the second kind moves along a state described by `R a`, and `a` is
-- all the next turn depends on; one turn of the first kind is enough for `N`.
section Kinds

variable {α : Type} (R : α → σ → Prop) (N : σ → Prop) (notes : ι → Prop) (load : α → ι → α)
  (turn : ι → σ → σ × Bool)

theorem sweep_of_quiet
    (hquiet : ∀ i a s, R a s → ¬ notes i → R (load a i) (turn i s).1 ∧ (turn i s).2 = false)
    (is : List ι) (a : α) (s : σ) (hs : R a s) (h : ∀ i ∈ is, ¬ notes i) :
    R (is.foldl load a) (sweep turn is s).1 ∧ (sweep turn is s).2 = false := by
  induction is generalizing a s with
  | nil => exact ⟨hs, rfl⟩
  | cons i is ih =>
    rcases hquiet i a s hs (h i (.head _ ..)) with ⟨hnext, hon⟩
    rw [sweep_cons_on _ _ _ _ hon]
    exact ih _ _ hnext fun j hj => h j (.tail _ hj)

/-- A sweep one of whose turns is of the first kind comes to the first such. -/
theorem sweep_of_note
    (hquiet : ∀ i a s, R a s → ¬ notes i → R (load a i) (turn i s).1 ∧ (turn i s).2 = false)
    (hnote : ∀ i a s, R a s → notes i → N (turn i s).1) (hkeep : ∀ i s, N s → N (turn i s).1)
    (is : List ι) (a : α) (s : σ) (hs : R a s) (h : ∃ i ∈ is, notes i) : N (sweep turn is s).1 := by
  induction is generalizing a s with
  | nil =>
    rcases h with ⟨i, hi, -⟩
    cases hi
  | cons i is ih =>
    by_cases hi : notes i
    · have hnoted := hnote i a s hs hi
      cases hleft : (turn i s).2 with
      | true =>
        rw [sweep_cons_left _ _ _ _ hleft]
        exact hnoted
      | false =>
        rw [sweep_cons_on _ _ _ _ hleft]
        exact sweep_inv N turn is _ (fun j _ t => hkeep j t) hnoted
    · rcases hquiet i a s hs hi with ⟨hnext, hon⟩
      rw [sweep_cons_on _ _ _ _ hon]
      rcases h with ⟨j, hj, hnotes⟩
      rcases List.mem_cons.mp hj with rfl | hj
      · exact absurd hnotes hi
      · exact ih _ _ hnext ⟨j, hj, hnotes⟩

end Kinds

/-- The places of the turns still to come show what they showed at the start. -/
def Ahead {α : Type} (place : ι → σ → α) (s : σ) (rest : List ι) (t : σ) : Prop :=
  rest.Nodup ∧ ∀ i ∈ rest, place i t = place i s

theorem Ahead.start {α : Type} (place : ι → σ → α) (s : σ) {is : List ι} (h : is.Nodup) :
    Ahead place s is s := ⟨h, fun _ _ => rfl⟩

theorem Ahead.head {α : Type} {place : ι → σ → α} {s t : σ} {i : ι} {rest : List ι}
    (h : Ahead place s (i :: rest) t) : place i t = place i s := h.2 i (.head _ ..)

/-- A turn that leaves the other places alone keeps the ones ahead fresh. -/
theorem Ahead.turn {α : Type} {place : ι → σ → α} {s t : σ} {i : ι} {rest : List ι}
    (h : Ahead place s (i :: rest) t) (turn : ι → σ → σ × Bool)
    (hframe : ∀ j, i ≠ j → place j (turn i t).1 = place j t) : Ahead place s rest (turn i t).1 := by
  rcases List.nodup_cons.mp h.1 with ⟨hnot, hrest⟩
  refine ⟨hrest, fun j hj => ?_⟩
  have hne : i ≠ j := by
    rintro rfl
    exact hnot hj
  exact (hframe j hne).trans (h.2 j (.tail _ hj))

theorem range_split (n k : Nat) (h : k < n) :
    List.range n = List.range k ++ k :: List.range' (k + 1) (n - k - 1) := by
  have hn : n = k + (n - k - 1 + 1) := by omega
  rw [hn, List.range_add]
  congr 1
  rw [show k + (n - k - 1 + 1) - k - 1 = n - k - 1 by omega, List.range_eq_range',
    List.range'_succ, List.map_cons, Nat.add_zero, List.map_add_range']

section Range

variable {α : Type} (get : σ → α) (turn : Nat → σ → σ × Bool) (k : Nat) (s : σ)
  (hframe : ∀ i t, i ≠ k → get (turn i t).1 = get t)
include hframe

/-- A sweep comes to `k` with what was there. -/
theorem sweep_range_before : get (sweep turn (List.range k) s).1 = get s :=
  sweep_get_of_frame get turn _ s fun i hi t => hframe i t (Nat.ne_of_lt (List.mem_range.mp hi))

/-- What a sweep over numbers leaves at `k`. -/
theorem sweep_range_read (n : Nat) (hk : k < n) : get (sweep turn (List.range n) s).1 =
      if (sweep turn (List.range k) s).2 then get s
      else get (turn k (sweep turn (List.range k) s).1).1 := by
  rw [range_split n k hk, sweep_read get turn _ _ k s fun i hi t =>
    hframe i t (by have := (List.mem_range'_1.mp hi).1; omega),
    sweep_range_before get turn k s hframe]

end Range

/-- A fold over the places of a list is the fold over the list. -/
theorem foldl_range_get {α β : Type} (f : α → β → α) (l : List β) (a : α) :
    (List.range l.length).foldl (fun a i => (l[i]?).elim a (f a)) a = l.foldl f a := by
  induction l generalizing a with
  | nil => rfl
  | cons b l ih =>
    rw [List.length_cons, List.range_succ_eq_map, List.foldl_cons, List.foldl_map,
      List.foldl_cons, ← ih]
    rfl

end SceneHub.Lib
