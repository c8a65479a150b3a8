import Mathlib.Data.List.Nodup
import Mathlib.Data.Nat.ModEq

/-!
# Rings

A fixed number of slots that are written one after another and over again. A
ring is compared with the list of everything that was put in, newest first: it
holds the front of that list, as long as there are slots.

Where nothing is put in whose key the ring holds, equal keys lie at least as far
apart as there are slots. So the keys in a ring differ, and an entry found under
a key is the only one.

## Main definitions

* `Ring`, `Ring.push`, `Ring.find`: A ring, putting in, and looking up by key.
* `Ring.Holds`: Everything that was put into a ring.
* `Spaced`: Equal keys lie far apart.

## Theorems

* `Holds.push`: Putting in keeps the correspondence.
* `Holds.mem_iff`: A ring holds the front of what was put in.
* `Holds.find_iff`: A key is found exactly if an entry at the front has it.
-/

namespace SceneHub.Lib

variable {α β : Type}

structure Ring (α : Type) where
  slots : List (Option α)
  next : Nat := 0
  deriving DecidableEq, Repr

namespace Ring

/-- A ring of `n` slots with nothing in it. -/
def empty (n : Nat) : Ring α := { slots := List.replicate n none }

/-- Put an entry into the next slot. -/
def push (r : Ring α) (x : α) : Ring α :=
  { slots := r.slots.set (r.next % r.slots.length) (some x), next := r.next + 1 }

/-- The first entry with that key. -/
def find [DecidableEq β] (key : α → β) (r : Ring α) (k : β) : Option α :=
  r.slots.findSome? fun slot => slot.filter fun x => key x = k

@[simp] theorem push_length (r : Ring α) (x : α) : (r.push x).slots.length = r.slots.length :=
  List.length_set

/-- What was put into a ring, newest first. The slot written last comes first in
    the count, and the slots before it behind it. -/
structure Holds (r : Ring α) (past : List α) : Prop where
  pos : 0 < r.slots.length
  next : r.next = past.length
  slot : ∀ k, k < r.slots.length →
    r.slots[(past.length + r.slots.length - 1 - k) % r.slots.length]? = some past[k]?

variable {r : Ring α} {past : List α}

theorem holds_empty (n : Nat) (hn : 0 < n) : Holds (empty n : Ring α) [] where
  pos := by simpa only [empty, List.length_replicate] using hn
  next := rfl
  slot := by
    intro k _
    simp only [empty, List.length_replicate, List.length_nil, List.getElem?_nil]
    exact List.getElem?_replicate_of_lt (Nat.mod_lt _ hn)

theorem Holds.push (h : Holds r past) (x : α) : Holds (r.push x) (x :: past) where
  pos := by simpa only [push_length] using h.pos
  next := by simp [Ring.push, h.next]
  slot := by
    intro k hk
    rw [push_length] at hk ⊢
    simp only [Ring.push, h.next, List.length_cons]
    have hpos := h.pos
    cases k with
    | zero =>
      -- The slot just written.
      have hplace : (past.length + 1 + r.slots.length - 1 - 0) % r.slots.length =
          past.length % r.slots.length := by
        rw [show past.length + 1 + r.slots.length - 1 - 0 = past.length + r.slots.length by omega]
        exact Nat.add_mod_right _ _
      rw [hplace, List.getElem?_set_self (Nat.mod_lt _ hpos)]
      rfl
    | succ k =>
      have hplace : past.length + 1 + r.slots.length - 1 - (k + 1) =
          past.length + r.slots.length - 1 - k := by omega
      rw [hplace, List.getElem?_cons_succ, List.getElem?_set_ne, h.slot k (by omega)]
      -- The others are fewer than a whole round away from it.
      intro heq
      have hsplit : past.length + r.slots.length - 1 - k =
          past.length + (r.slots.length - 1 - k) := by omega
      rw [hsplit] at heq
      have hmod : 0 % r.slots.length = (r.slots.length - 1 - k) % r.slots.length :=
        Nat.ModEq.add_left_cancel' past.length heq
      rw [Nat.zero_mod, Nat.mod_eq_of_lt (by omega)] at hmod
      omega

/-- Where an entry held is among those put in. -/
theorem Holds.place (h : Holds r past) {i : Nat} {x : α} (hi : r.slots[i]? = some (some x)) :
    ∃ k, k < r.slots.length ∧
      (past.length + r.slots.length - 1 - k) % r.slots.length = i ∧ past[k]? = some x := by
  have hpos := h.pos
  have hlt : i < r.slots.length := (List.getElem?_eq_some_iff.1 hi).1
  -- Counting back from the slot written last, slot `i` is at `k`.
  obtain ⟨k, hk, hback⟩ : ∃ k, k < r.slots.length ∧
      (past.length + r.slots.length - 1 - k) % r.slots.length = i := by
    refine ⟨(past.length + r.slots.length - 1 - i) % r.slots.length, Nat.mod_lt _ hpos, ?_⟩
    have hdiv := Nat.div_add_mod (past.length + r.slots.length - 1 - i) r.slots.length
    set q := (past.length + r.slots.length - 1 - i) / r.slots.length
    set m := (past.length + r.slots.length - 1 - i) % r.slots.length
    have hsum : past.length + r.slots.length - 1 - m = i + r.slots.length * q := by omega
    rw [hsum, Nat.add_mul_mod_self_left, Nat.mod_eq_of_lt hlt]
  have hslot := h.slot k hk
  rw [hback, hi, Option.some.injEq] at hslot
  exact ⟨k, hk, hback, hslot.symm⟩

theorem Holds.mem_iff (h : Holds r past) (x : α) :
    some x ∈ r.slots ↔ x ∈ past.take r.slots.length := by
  constructor
  · intro hmem
    rcases List.getElem?_of_mem hmem with ⟨i, hi⟩
    rcases h.place hi with ⟨k, hk, -, hpast⟩
    exact List.mem_iff_getElem?.2 ⟨k, by rw [List.getElem?_take_of_lt hk, hpast]⟩
  intro hmem
  rcases List.mem_iff_getElem?.1 hmem with ⟨k, hk⟩
  have hlt : k < r.slots.length := by
    have := (List.getElem?_eq_some_iff.1 hk).1
    rw [List.length_take] at this
    omega
  rw [List.getElem?_take_of_lt hlt] at hk
  have hslot := h.slot k hlt
  rw [hk] at hslot
  exact List.mem_of_getElem? hslot

end Ring

/-! ### Keys -/

variable (key : α → β)

/-- Behind every entry of a list the next `n` have other keys. -/
def Spaced (n : Nat) : List α → Prop
  | [] => True
  | x :: past => (∀ y ∈ past.take n, key y ≠ key x) ∧ Spaced n past

variable {key} {n : Nat} {past : List α}

/-- Among any `n + 1` entries in a row the keys differ. -/
theorem Spaced.nodup (h : Spaced key n past) : ((past.take (n + 1)).map key).Nodup := by
  induction past with
  | nil => simp only [List.take_nil, List.map_nil, List.nodup_nil]
  | cons x past ih =>
    rw [List.take_succ_cons, List.map_cons, List.nodup_cons]
    constructor
    · intro hmem
      rcases List.mem_map.1 hmem with ⟨y, hy, heq⟩
      exact h.1 y hy heq
    · have hsub : List.Sublist ((past.take n).map key) ((past.take (n + 1)).map key) :=
        (List.take_prefix_take_left (Nat.le_succ n)).sublist.map key
      exact (ih h.2).sublist hsub

theorem Spaced.drop (h : Spaced key n past) (i : Nat) : Spaced key n (past.drop i) := by
  induction i generalizing past with
  | zero => exact h
  | succ i ih =>
    cases past with
    | nil => exact trivial
    | cons x past => exact ih h.2

/-- Equal keys lie more than `n` apart. -/
theorem Spaced.lt_of_key {i j : Nat} {x y : α} (h : Spaced key n past) (hij : i < j)
    (hi : past[i]? = some x) (hj : past[j]? = some y) (hkey : key y = key x) : i + n < j := by
  have hback := h.drop i
  rcases List.getElem?_eq_some_iff.1 hi with ⟨hlt, hx⟩
  rw [List.drop_eq_getElem_cons hlt, hx] at hback
  refine Nat.lt_of_not_le fun hle => ?_
  refine hback.1 y (List.mem_iff_getElem?.2 ⟨j - (i + 1), ?_⟩) hkey
  rw [List.getElem?_take_of_lt (by omega), List.getElem?_drop, ← hj]
  exact congrArg (past[·]?) (by omega)

/-- The `n` entries put in right behind an entry have keys of their own. -/
theorem Spaced.behind {newer older : List α} {x : α}
    (h : Spaced key n (newer.reverse ++ x :: older)) (hn : n ≤ newer.length) :
    ((newer.take n).map key).Nodup ∧ key x ∉ (newer.take n).map key := by
  have hback : (newer.reverse ++ x :: older).drop (newer.length - n) =
      (newer.take n).reverse ++ x :: older := by
    rw [List.drop_append_of_le_length (by rw [List.length_reverse]; omega), List.reverse_take]
  have hdistinct := (h.drop (newer.length - n)).nodup
  have hlength : ((newer.take n).reverse ++ [x]).length = n + 1 := by
    rw [List.length_append, List.length_reverse, List.length_take, List.length_singleton]
    omega
  have hsplit : (newer.take n).reverse ++ x :: older = (newer.take n).reverse ++ [x] ++ older := by
    rw [List.append_assoc, List.singleton_append]
  rw [hback, hsplit, ← hlength, List.take_left, List.map_append, List.map_reverse] at hdistinct
  rcases List.nodup_append.1 hdistinct with ⟨hnewer, -, hdisjoint⟩
  refine ⟨List.nodup_reverse.1 hnewer, fun hmem => ?_⟩
  exact hdisjoint _ (List.mem_reverse.2 hmem) _ (List.mem_singleton.2 rfl) rfl

namespace Ring

variable {r : Ring α}

/-- The keys of the entries in different slots differ. -/
theorem Holds.slots_distinct (h : Holds r past) (hs : Spaced key r.slots.length past) {i j : Nat}
    {x y : α} (hi : r.slots[i]? = some (some x)) (hj : r.slots[j]? = some (some y))
    (hij : i ≠ j) : key x ≠ key y := by
  rcases h.place hi with ⟨k, hk, hki, hpx⟩
  rcases h.place hj with ⟨l, hl, hlj, hpy⟩
  intro hkey
  rcases Nat.lt_trichotomy k l with hlt | heq | hlt
  · have := hs.lt_of_key hlt hpx hpy hkey.symm
    omega
  · rw [heq] at hki
    exact hij (hki.symm.trans hlj)
  · have := hs.lt_of_key hlt hpy hpx hkey
    omega

variable [DecidableEq β]

theorem find_eq_some {k : β} {x : α} (h : r.find key k = some x) :
    some x ∈ r.slots ∧ key x = k := by
  rcases List.exists_of_findSome?_eq_some h with ⟨slot, hmem, hslot⟩
  rcases Option.filter_eq_some_iff.1 hslot with ⟨rfl, hkey⟩
  exact ⟨hmem, of_decide_eq_true hkey⟩

/-- A key is found exactly if one of the entries held has it, and then that entry
    is found. -/
theorem Holds.find_iff (h : Holds r past) (hs : Spaced key r.slots.length past) (k : β) (x : α) :
    r.find key k = some x ↔ x ∈ past.take r.slots.length ∧ key x = k := by
  constructor
  · intro hfind
    rcases find_eq_some hfind with ⟨hmem, hkey⟩
    exact ⟨(h.mem_iff x).1 hmem, hkey⟩
  rintro ⟨hmem, hkey⟩
  have hslot := (h.mem_iff x).2 hmem
  cases hfind : r.find key k with
  | none =>
    have hnone := List.findSome?_eq_none_iff.1 hfind (some x) hslot
    simp only [Option.filter_some, hkey, decide_true, if_true, reduceCtorEq] at hnone
  | some y =>
    rcases find_eq_some hfind with ⟨hy, hykey⟩
    -- Two entries held with one key are the same entry.
    have hinj := List.inj_on_of_nodup_map hs.nodup
    have hsub : past.take r.slots.length <+: past.take (r.slots.length + 1) :=
      List.take_prefix_take_left (Nat.le_succ _)
    exact congrArg some (hinj (hsub.subset ((h.mem_iff y).1 hy)) (hsub.subset hmem)
      (hykey.trans hkey.symm))

/-- Putting in only what is not found keeps equal keys apart. -/
theorem Holds.spaced_push (h : Holds r past) (hs : Spaced key r.slots.length past) {x : α}
    (hnew : r.find key (key x) = none) : Spaced key r.slots.length (x :: past) := by
  refine ⟨fun y hy hkey => ?_, hs⟩
  rw [(h.find_iff hs (key x) y).2 ⟨hy, hkey⟩] at hnew
  cases hnew

end Ring

end SceneHub.Lib
