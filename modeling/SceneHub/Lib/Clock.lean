import Mathlib.Tactic.Common

/-!
# Wrapping Clocks

Times kept in 32 bits. A long time is a natural number; what is stored of it
is its residue, and two residues are compared by the sign of their difference.
That comparison answers the question asked of the long times exactly when they
are less than half a cycle apart, on the side the sign bit decides.

## Main definitions

* `stamp`: What a 32-bit clock stores of a time.
* `reached`: The comparison by signed difference.
* `InReach`: When that comparison is right about a deadline.
* `upTo`: The part of a list that a search looks at.
* `earliest`: The smaller of two deadlines, where zero is no deadline.

## Theorems

* `reached_stamp_iff`: The comparison on stamps, in terms of the long times.
* `reached_iff_due`: It is right exactly within reach.
* `due_of_reached`: Up to half a cycle ahead it is never too early.
* `find?_eq_iff_upTo`: Two searches agree exactly when their tests agree on
  the part of the list one of them looks at.
* `foldl_earliest_le_iff`: What the earliest of a list is at or before.
* `succ_ne`: A 32-bit count that goes up changes.
-/

namespace SceneHub.Lib

/-- What a 32-bit clock stores of a time. -/
def stamp (t : Nat) : UInt32 := UInt32.ofNat t

/-- `now` is at or behind `target`, judged by the sign of the difference. -/
def reached (now target : UInt32) : Bool := (now - target).toNat < 2147483648

/-- A span `x` after a start, a deadline `d` after the same start is judged
    rightly: a deadline still ahead is at most half a cycle ahead, and one
    behind is less than half a cycle behind, up to whole cycles. -/
def InReach (d x : Nat) : Prop :=
  if d ≤ x then (x - d) % 4294967296 < 2147483648 else d - x ≤ 2147483648

instance (d x : Nat) : Decidable (InReach d x) := by
  unfold InReach
  exact inferInstance

section

variable (t t' : Nat) (d : UInt32) (ht : t ≤ t')
include ht

theorem toNat_stamp_sub :
    (stamp t' - (stamp t + d)).toNat = (t' - t + (4294967296 - d.toNat)) % 4294967296 := by
  have hd : d.toNat < 4294967296 := d.toNat_lt
  simp only [stamp, UInt32.toNat_sub, UInt32.toNat_add, UInt32.toNat_ofNat']
  omega

theorem reached_stamp_iff : reached (stamp t') (stamp t + d) = true ↔
      (t' - t + (4294967296 - d.toNat)) % 4294967296 < 2147483648 := by
  unfold reached
  rw [decide_eq_true_iff, toNat_stamp_sub t t' d ht]

/-- The comparison of stamps says that a deadline is due exactly when it is,
    if and only if the deadline is in reach. -/
theorem reached_iff_due (hd : 0 < d.toNat) :
    (reached (stamp t') (stamp t + d) = true ↔ t + d.toNat ≤ t') ↔ InReach d.toNat (t' - t) := by
  have hlt : d.toNat < 4294967296 := d.toNat_lt
  rw [reached_stamp_iff t t' d ht]
  unfold InReach
  by_cases hdue : d.toNat ≤ t' - t
  · -- Behind the deadline the whole cycles drop out of the difference.
    have hmod : (t' - t + (4294967296 - d.toNat)) % 4294967296 =
        (t' - t - d.toNat) % 4294967296 := by
      have : t' - t + (4294967296 - d.toNat) = (t' - t - d.toNat) + 4294967296 := by omega
      rw [this, Nat.add_mod_right]
    have hle : t + d.toNat ≤ t' := by omega
    rw [hmod, if_pos hdue]
    exact ⟨fun h => h.mpr hle, fun h => ⟨fun _ => hle, fun _ => h⟩⟩
  have hmod : (t' - t + (4294967296 - d.toNat)) % 4294967296 =
      t' - t + (4294967296 - d.toNat) := Nat.mod_eq_of_lt (by omega)
  have hnot : ¬ t + d.toNat ≤ t' := by omega
  rw [hmod, if_neg hdue]
  constructor
  · intro h
    by_contra hfar
    exact hnot (h.mp (by omega))
  · intro h
    exact ⟨fun h' => absurd h' (by omega), fun h' => absurd h' hnot⟩

end

/-- A deadline at most half a cycle ahead that counts as reached is behind, on
    a clock that has not wrapped since the start. -/
theorem due_of_reached (t t' d : UInt32) (ht : t ≤ t') (hd : d.toNat ≤ 2147483648)
    (h : reached t' (t + d) = true) : t.toNat + d.toNat ≤ t'.toNat := by
  have hle : t.toNat ≤ t'.toNat := UInt32.le_iff_toNat_le.1 ht
  have hlt : t'.toNat < 4294967296 := t'.toNat_lt
  simp only [reached, decide_eq_true_iff, UInt32.toNat_sub, UInt32.toNat_add] at h
  omega

variable {α : Type}

/-- What a search with `g` looks at: everything it passes over, and its find. -/
def upTo (g : α → Bool) (l : List α) : List α :=
  l.takeWhile (fun x => !g x) ++ (l.find? g).toList

theorem upTo_cons_pos (g : α → Bool) (a : α) (l : List α) (h : g a = true) :
    upTo g (a :: l) = [a] := by
  simp [upTo, List.takeWhile_cons, h, List.find?_cons_of_pos h]

theorem upTo_cons_neg (g : α → Bool) (a : α) (l : List α) (h : g a = false) :
    upTo g (a :: l) = a :: upTo g l := by
  have hneg : ¬ g a = true := by rw [h]; exact Bool.false_ne_true
  simp [upTo, List.takeWhile_cons, h, List.find?_cons_of_neg hneg]

theorem mem_of_mem_upTo (g : α → Bool) (l : List α) (x : α) (h : x ∈ upTo g l) : x ∈ l := by
  rcases List.mem_append.mp h with htake | hfind
  · exact (List.takeWhile_prefix _).subset htake
  · exact List.mem_of_find?_eq_some (Option.mem_toList.mp hfind)

/-- Two searches find the same if and only if their tests agree on everything
    the second one looks at. -/
theorem find?_eq_iff_upTo (f g : α → Bool) (l : List α) :
    l.find? f = l.find? g ↔ ∀ x ∈ upTo g l, f x = g x := by
  induction l with
  | nil => simp only [upTo, List.takeWhile_nil, List.find?_nil, Option.toList_none,
      List.append_nil, List.not_mem_nil, false_implies, implies_true]
  | cons a l ih =>
    cases hg : g a with
    | true =>
      rw [upTo_cons_pos g a l hg, List.find?_cons_of_pos hg]
      simp only [List.mem_singleton, forall_eq, hg]
      cases hf : f a with
      | true => simp only [List.find?_cons_of_pos hf]
      | false =>
        -- Anything found later satisfies `f`, which `a` does not.
        rw [List.find?_cons_of_neg (by simp [hf])]
        refine ⟨fun h => ?_, fun h => absurd h Bool.false_ne_true⟩
        have := List.find?_some h
        rw [hf] at this
        exact this
    | false =>
      have hgneg : ¬ g a = true := by simp [hg]
      rw [upTo_cons_neg g a l hg, List.find?_cons_of_neg hgneg]
      simp only [List.mem_cons, forall_eq_or_imp, hg]
      cases hf : f a with
      | false =>
        have hfneg : ¬ f a = true := by simp [hf]
        rw [List.find?_cons_of_neg hfneg, ih]
        simp
      | true =>
        rw [List.find?_cons_of_pos hf]
        refine ⟨fun h => ?_, fun h => absurd h.1 (by exact nofun)⟩
        have := List.find?_some h.symm
        rw [hg] at this
        exact absurd this Bool.false_ne_true

/-! ### The earliest of several deadlines -/

/-- Keep the earlier of two deadlines. Zero stands for no deadline. -/
def earliest (next v : Nat) : Nat := if 0 < v ∧ (next = 0 ∨ v < next) then v else next

/-- The earliest of a list of deadlines is at or before a bound exactly when
    one of the deadlines is. -/
theorem foldl_earliest_le_iff (l : List Nat) (next bound : Nat) :
    (l.foldl earliest next ≠ 0 ∧ l.foldl earliest next ≤ bound) ↔
      ∃ v ∈ next :: l, v ≠ 0 ∧ v ≤ bound := by
  induction l generalizing next with
  | nil => simp only [List.foldl_nil, List.mem_singleton, exists_eq_left]
  | cons v l ih =>
    rw [List.foldl_cons, ih]
    simp only [List.mem_cons, exists_eq_or_imp]
    rw [← or_assoc]
    -- Only the head changes: the earlier of two is in bounds if one of them is.
    refine or_congr ?_ Iff.rfl
    unfold earliest
    split <;> omega

/-- A 32-bit count that goes up is another one, wrapped or not. -/
theorem succ_ne (n : UInt32) : n + 1 ≠ n := by
  intro h
  have hnat := congrArg UInt32.toNat h
  rw [UInt32.toNat_add] at hnat
  have hlt := n.toNat_lt
  have hone : (1 : UInt32).toNat = 1 := rfl
  omega

end SceneHub.Lib
