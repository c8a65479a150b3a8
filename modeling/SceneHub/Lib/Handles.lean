import Mathlib.Data.List.Basic

/-!
# Handles

A table gives out names for objects, and takes a name back when its object is
gone. A name that was taken back may be given out again, for another object. A
handle is a name together with the object it was given out for; whoever holds a
handle knows only the name.

Handles are faithful if no name leads to an object other than that of the handle.
That lasts as long as no name is given out that somebody still holds. A ledger is
a list of handles in which each name that is out has one entry, and so has one
holder who is to give it back.

## Main definitions

* `Faithful`: Names lead to the objects of the handles, or to nothing.
* `Ledger`: Each name that is out is entered once, and nothing else is.

## Theorems

* `Faithful.retire`, `Faithful.issue`: Names are taken back and given out.
* `Ledger.retire`, `Ledger.issue`: The entries of the ledger with them.
* `count_flatMap_set`, `mem_flatMap_set`: What a list of holders has between them.
-/

namespace SceneHub.Lib

open Function (update update_self update_of_ne)

variable {κ ν ο : Type} {name : κ → ν} {object : κ → ο} {table : ν → Option ο} {held held' : List κ}

/-- No name leads to an object other than that of the handle. -/
structure Faithful (name : κ → ν) (object : κ → ο) (table : ν → Option ο) (held : List κ) :
    Prop where
  leads : ∀ x ∈ held, ∀ o, table (name x) = some o → o = object x
  agree : ∀ x ∈ held, ∀ y ∈ held, name x = name y → object x = object y

namespace Faithful

/-- Handles may be copied and dropped. -/
theorem mono (h : Faithful name object table held) (hsub : ∀ x ∈ held', x ∈ held) :
    Faithful name object table held' where
  leads x hx := h.leads x (hsub x hx)
  agree x hx y hy := h.agree x (hsub x hx) y (hsub y hy)

variable [DecidableEq ν]

/-- A name is taken back, whoever holds it. -/
theorem retire (h : Faithful name object table held) (n : ν) :
    Faithful name object (update table n none) held where
  leads x hx o ho := by
    by_cases hn : name x = n
    · rw [hn, update_self] at ho
      cases ho
    · rw [update_of_ne hn] at ho
      exact h.leads x hx o ho
  agree := h.agree

/-- A name is given out that nobody holds. -/
theorem issue (h : Faithful name object table held) {x : κ} (hnew : ∀ y ∈ held, name y ≠ name x) :
    Faithful name object (update table (name x) (some (object x))) (x :: held) where
  leads y hy o ho := by
    rcases List.mem_cons.1 hy with rfl | hold
    · rw [update_self] at ho
      exact (Option.some.inj ho).symm
    · rw [update_of_ne (hnew y hold)] at ho
      exact h.leads y hold o ho
  agree y hy z hz hname := by
    rcases List.mem_cons.1 hy with hyx | hyold
    · rcases List.mem_cons.1 hz with hzx | hzold
      · rw [hyx, hzx]
      · rw [hyx] at hname
        exact absurd hname.symm (hnew z hzold)
    rcases List.mem_cons.1 hz with hzx | hzold
    · rw [hzx] at hname
      exact absurd hname (hnew y hyold)
    · exact h.agree y hyold z hzold hname

end Faithful

variable [DecidableEq κ] [DecidableEq ο] {owned owned' : List κ}

/-- Each name that is out is entered once, with its object, and nothing else is entered. -/
def Ledger (name : κ → ν) (object : κ → ο) (table : ν → Option ο) (owned : List κ) : Prop :=
  ∀ x, owned.count x = if table (name x) = some (object x) then 1 else 0

namespace Ledger

theorem out_of_mem (h : Ledger name object table owned) {x : κ} (hx : x ∈ owned) :
    table (name x) = some (object x) := by
  have hcount : 0 < owned.count x := List.count_pos_iff.2 hx
  rw [h x] at hcount
  split_ifs at hcount with hout
  · exact hout
  · omega

theorem mem_of_out (h : Ledger name object table owned) {x : κ}
    (hx : table (name x) = some (object x)) : x ∈ owned := by
  have hcount := h x
  rw [if_pos hx] at hcount
  exact List.count_pos_iff.1 (by omega)

variable [DecidableEq ν]

/-- The holder of a name gives it back. -/
theorem retire (h : Ledger name object table owned)
    (hinj : ∀ x y, name x = name y → object x = object y → x = y) {x : κ} (hx : x ∈ owned)
    (hcount : ∀ y, owned.count y = owned'.count y + if y = x then 1 else 0) :
    Ledger name object (update table (name x) none) owned' := by
  intro y
  have hy := h y
  have hout := h.out_of_mem hx
  rw [hcount y] at hy
  by_cases hsame : y = x
  · rw [hsame, update_self, if_neg nofun]
    rw [if_pos hsame, hsame, if_pos hout] at hy
    omega
  rw [if_neg hsame] at hy
  by_cases hname : name y = name x
  · -- The name was out for another object.
    have hother : ¬table (name y) = some (object y) := by
      intro hcontra
      rw [hname, hout] at hcontra
      exact hsame (hinj y x hname (Option.some.inj hcontra).symm)
    rw [hname, update_self, if_neg nofun]
    rw [if_neg hother] at hy
    omega
  · rw [update_of_ne hname]
    omega

/-- A name is given out, and somebody is to give it back. -/
theorem issue (h : Ledger name object table owned)
    (hinj : ∀ x y, name x = name y → object x = object y → x = y) {x : κ}
    (hfree : table (name x) = none)
    (hcount : ∀ y, owned'.count y = owned.count y + if y = x then 1 else 0) :
    Ledger name object (update table (name x) (some (object x))) owned' := by
  intro y
  have hy := h y
  rw [hcount y, hy]
  by_cases hname : name y = name x
  · rw [hname, update_self, hfree, if_neg nofun]
    by_cases hsame : y = x
    · rw [if_pos hsame, hsame, if_pos rfl]
    · rw [if_neg hsame, if_neg fun hobject => hsame (hinj y x hname (Option.some.inj hobject).symm)]
  · rw [update_of_ne hname, if_neg fun hsame => hname (congrArg name hsame)]
    rfl

end Ledger

/-! ### Lists of holders -/

variable {σ : Type} {l : List σ} {i : Nat} {a : σ}

/-- One of several holders changes what it has. -/
theorem count_flatMap_set (f : σ → List κ) (h : l[i]? = some a) (b : σ) (x : κ) :
    ((l.set i b).flatMap f).count x + (f a).count x = (l.flatMap f).count x + (f b).count x := by
  induction l generalizing i with
  | nil => cases h
  | cons c l ih =>
    cases i with
    | zero =>
      cases h
      simp only [List.set_cons_zero, List.flatMap_cons, List.count_append]
      omega
    | succ i =>
      have hrest := ih h
      simp only [List.set_cons_succ, List.flatMap_cons, List.count_append]
      omega

omit [DecidableEq κ] in
/-- What a holder has is among what all have. -/
theorem mem_flatMap_of_getElem? (f : σ → List κ) (h : l[i]? = some a) {x : κ} (hx : x ∈ f a) :
    x ∈ l.flatMap f :=
  List.mem_flatMap.2 ⟨a, List.mem_of_getElem? h, hx⟩

omit [DecidableEq κ] in
/-- What holders have when one of them has changed. -/
theorem mem_flatMap_set (f : σ → List κ) {b : σ} {x : κ} (hx : x ∈ (l.set i b).flatMap f) :
    x ∈ l.flatMap f ∨ x ∈ f b := by
  rcases List.mem_flatMap.1 hx with ⟨c, hc, hxc⟩
  rcases List.mem_or_eq_of_mem_set hc with hold | rfl
  · exact .inl (List.mem_flatMap.2 ⟨c, hold, hxc⟩)
  · exact .inr hxc

end SceneHub.Lib
