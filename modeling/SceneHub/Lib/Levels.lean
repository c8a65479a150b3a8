import Mathlib.Data.List.Basic

/-!
# Levels of a Text

A text cut at every separator. A text has at least one level, and it is the only
one with its levels. Levels are read off the front: a text whose first level is
known is that level alone, or that level, a separator and a text with the levels
that remain.

A pattern over levels names some of them literally. Where a pattern begins with
literal levels, everything it matches lies under them: it has the same levels at
its front, so it is the text of these levels or continues it behind a separator.

## Main definitions

* `levels`: The levels of a text.
* `Under`: A text lies under a root.

## Theorems

* `levels_append`: The first level of a text.
* `levels_eq_cons`: A text from its first level.
* `levels_injective`: The levels determine the text.
* `under_of_levels`: Texts with the levels of a root at their front lie under it.
-/

namespace SceneHub.Lib

variable {α : Type} [DecidableEq α] {sep : α}

/-- The levels of a text. -/
def levels (sep : α) : List α → List (List α)
  | [] => [[]]
  | c :: rest =>
    if c = sep then [] :: levels sep rest
    else match levels sep rest with
      | [] => [[c]]
      | level :: more => (c :: level) :: more

theorem levels_sep (rest : List α) : levels sep (sep :: rest) = [] :: levels sep rest := if_pos rfl

theorem levels_other {c : α} (h : c ≠ sep) (rest : List α) : levels sep (c :: rest) =
    match levels sep rest with
    | [] => [[c]]
    | level :: more => (c :: level) :: more := if_neg h

theorem levels_ne_nil (text : List α) : levels sep text ≠ [] := by
  cases text with
  | nil => exact List.cons_ne_nil _ _
  | cons c rest =>
    by_cases hc : c = sep
    · rw [hc, levels_sep]
      exact List.cons_ne_nil _ _
    · rw [levels_other hc]
      cases levels sep rest <;> exact List.cons_ne_nil _ _

theorem levels_of_not_mem {text : List α} (h : sep ∉ text) : levels sep text = [text] := by
  induction text with
  | nil => rfl
  | cons c rest ih =>
    rw [List.mem_cons, not_or] at h
    rw [levels_other fun heq => h.1 heq.symm, ih h.2]

/-- A first level with a separator behind it. -/
theorem levels_append {level : List α} (h : sep ∉ level) (rest : List α) :
    levels sep (level ++ sep :: rest) = level :: levels sep rest := by
  induction level with
  | nil =>
    rw [List.nil_append, levels_sep]
  | cons c level ih =>
    rw [List.mem_cons, not_or] at h
    rw [List.cons_append, levels_other fun heq => h.1 heq.symm, ih h.2]

/-- The first level, and what is behind its separator. -/
theorem levels_eq (sep : α) (text : List α) : levels sep text =
    text.takeWhile (· ≠ sep) :: match text.dropWhile (· ≠ sep) with
      | [] => []
      | _ :: rest => levels sep rest := by
  induction text with
  | nil => rfl
  | cons c rest ih =>
    by_cases hc : c = sep
    · simp [hc, levels_sep]
    · rw [levels_other hc, ih]
      simp [hc]

theorem length_behind_lt {p : α → Bool} {c : α} {text rest : List α}
    (h : text.dropWhile p = c :: rest) : rest.length < text.length := by
  have hle := (List.dropWhile_suffix (l := text) p).length_le
  rw [h, List.length_cons] at hle
  exact hle

theorem takeWhile_level {text : List α}
    (h : ¬(text.takeWhile fun c => decide (c ≠ sep)).length = text.length) :
    sep ∉ (text.takeWhile fun c => decide (c ≠ sep)) ∧
      ∃ rest, text = (text.takeWhile fun c => decide (c ≠ sep)) ++ sep :: rest := by
  induction text with
  | nil => exact absurd rfl h
  | cons c rest ih =>
    by_cases hc : c = sep
    · rw [List.takeWhile_cons_of_neg (by simp [hc])]
      exact ⟨List.not_mem_nil, rest, by rw [hc, List.nil_append]⟩
    rw [List.takeWhile_cons_of_pos (by simp [hc])] at h ⊢
    rcases ih fun heq => h (by rw [List.length_cons, List.length_cons, heq]) with
      ⟨hnot, tail, htail⟩
    refine ⟨?_, tail, ?_⟩
    · rw [List.mem_cons, not_or]
      exact ⟨fun hsep => hc hsep.symm, hnot⟩
    · rw [List.cons_append, ← htail]

theorem levels_eq_cons {text level : List α} {more : List (List α)}
    (h : levels sep text = level :: more) : sep ∉ level ∧
      ((text = level ∧ more = []) ∨ ∃ rest, text = level ++ sep :: rest ∧ levels sep rest = more) := by
  induction text generalizing level more with
  | nil =>
    injection h with hlevel hmore
    rw [← hlevel, ← hmore]
    exact ⟨List.not_mem_nil, .inl ⟨rfl, rfl⟩⟩
  | cons c rest ih =>
    by_cases hc : c = sep
    · rw [hc, levels_sep] at h
      injection h with hlevel hmore
      rw [← hlevel, hc]
      exact ⟨List.not_mem_nil, .inr ⟨rest, rfl, hmore⟩⟩
    rw [levels_other hc] at h
    cases hrest : levels sep rest with
    | nil => exact absurd hrest (levels_ne_nil rest)
    | cons first others =>
      rw [hrest] at h
      injection h with hlevel hmore
      rcases ih hrest with ⟨hnot, ⟨heq, hnone⟩ | ⟨tail, heq, htail⟩⟩
      · refine ⟨?_, .inl ⟨?_, ?_⟩⟩
        · rw [← hlevel, List.mem_cons, not_or]
          exact ⟨fun hsep => hc hsep.symm, hnot⟩
        · rw [← hlevel, heq]
        · rw [← hmore, hnone]
      refine ⟨?_, .inr ⟨tail, ?_, ?_⟩⟩
      · rw [← hlevel, List.mem_cons, not_or]
        exact ⟨fun hsep => hc hsep.symm, hnot⟩
      · rw [← hlevel, heq, List.cons_append]
      · rw [← hmore, htail]

theorem levels_injective {text other : List α} (h : levels sep text = levels sep other) :
    text = other := by
  generalize hlevels : levels sep text = all at h
  induction all generalizing text other with
  | nil => exact absurd hlevels (levels_ne_nil text)
  | cons level more ih =>
    rcases (levels_eq_cons hlevels).2 with ⟨htext, hnone⟩ | ⟨rest, htext, hrest⟩
    · rcases (levels_eq_cons h.symm).2 with ⟨hother, -⟩ | ⟨tail, -, htail⟩
      · rw [htext, hother]
      · rw [hnone] at htail
        exact absurd htail (levels_ne_nil tail)
    rcases (levels_eq_cons h.symm).2 with ⟨-, hnone⟩ | ⟨tail, hother, htail⟩
    · rw [hnone] at hrest
      exact absurd hrest (levels_ne_nil rest)
    · rw [htext, hother, ih hrest htail.symm]

/-- A text is the root, or continues it behind a separator. -/
def Under (sep : α) (root text : List α) : Prop := text = root ∨ ∃ rest, text = root ++ sep :: rest

theorem under_of_levels {root text : List α} {rest : List (List α)}
    (h : levels sep text = levels sep root ++ rest) : Under sep root text := by
  generalize hroot : levels sep root = all at h
  induction all generalizing root text with
  | nil => exact absurd hroot (levels_ne_nil root)
  | cons level more ih =>
    rw [List.cons_append] at h
    rcases (levels_eq_cons hroot).2 with ⟨hlast, hmore⟩ | ⟨tail, hsplit, htail⟩
    · -- The last level of the root.
      rcases (levels_eq_cons h).2 with ⟨htext, -⟩ | ⟨behind, htext, -⟩
      · exact .inl (htext.trans hlast.symm)
      · exact .inr ⟨behind, by rw [htext, hlast]⟩
    rcases (levels_eq_cons h).2 with ⟨-, hnone⟩ | ⟨behind, htext, hbehind⟩
    · rw [← htail] at hnone
      exact absurd (List.append_eq_nil_iff.1 hnone).1 (levels_ne_nil tail)
    rcases ih htail hbehind with hsame | ⟨rest, hlonger⟩
    · exact .inl (by rw [htext, hsplit, hsame])
    · refine .inr ⟨rest, ?_⟩
      rw [htext, hsplit, hlonger, List.append_assoc, List.cons_append]

end SceneHub.Lib
