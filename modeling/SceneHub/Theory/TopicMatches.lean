import SceneHub.Broker.Acl

/-!
# Filters and Topics

`topic_matches_filter` keeps a cursor in the filter and one in the topic and moves
both from level to level. It says what the levels of the two texts say: a filter
matches a topic level by level, with `+` for any level and with `#` at its end for
whatever is left.

## Main definitions

* `MatchesLevels`: The levels of a topic match those of a filter.

## Theorems

* `topicMatchesFilterLoop_eq`: The loop is the walk over the levels.
* `topicMatchesFilterLoop_iff`: The loop finds exactly the topics that match.
-/

namespace SceneHub.Broker

open Lib (levels)

/-! ### Levels -/

/-- The levels of a topic match the levels of a filter. -/
inductive MatchesLevels : List (List Char) → List (List Char) → Prop where
  | done : MatchesLevels [] []
  | rest (topic : List (List Char)) : MatchesLevels [['#']] topic
  | any (level : List Char) {filter topic : List (List Char)} (h : MatchesLevels filter topic) :
      MatchesLevels (['+'] :: filter) (level :: topic)
  | same {level : List Char} (hlevel : level ≠ ['#']) {filter topic : List (List Char)}
      (h : MatchesLevels filter topic) : MatchesLevels (level :: filter) (level :: topic)

variable {f t : List Char} {filter topic : List (List Char)}

theorem matchesLevels_nil : MatchesLevels filter [] ↔ filter = [] ∨ filter = [['#']] := by
  constructor
  · intro h
    cases h with
    | done => exact .inl rfl
    | rest => exact .inr rfl
  · rintro (rfl | rfl)
    · exact .done
    · exact .rest []

theorem matchesLevels_hash : MatchesLevels (['#'] :: filter) (t :: topic) ↔ filter = [] := by
  constructor
  · intro h
    cases h with
    | rest => rfl
    | same hlevel => exact absurd rfl hlevel
  · intro h
    rw [h]
    exact .rest _

theorem matchesLevels_cons (hf : f ≠ ['#']) : MatchesLevels (f :: filter) (t :: topic) ↔
      (f = ['+'] ∨ f = t) ∧ MatchesLevels filter topic := by
  constructor
  · intro h
    cases h with
    | rest => exact absurd rfl hf
    | any _ h => exact ⟨.inl rfl, h⟩
    | same _ h => exact ⟨.inr rfl, h⟩
  · rintro ⟨rfl | rfl, h⟩
    · exact .any t h
    · exact .same hf h

theorem levelsMatch_iff :
    levelsMatch filter (t :: topic) = true ↔ MatchesLevels filter (t :: topic) := by
  induction filter generalizing t topic with
  | nil =>
    exact ⟨fun h => by simp [levelsMatch] at h, nofun⟩
  | cons f filter ih =>
    by_cases hhash : f = ['#']
    · rw [hhash, matchesLevels_hash]
      simp [levelsMatch]
    rw [matchesLevels_cons hhash, levelsMatch, if_neg hhash]
    by_cases hf : f = ['+'] ∨ f = t
    · rw [if_neg (by tauto), and_iff_right hf]
      cases topic with
      | nil =>
        rw [matchesLevels_nil]
        by_cases hfilter : filter = []
        · simp [hfilter]
        · simp [hfilter]
      | cons t' topic =>
        rw [← ih]
        by_cases hfilter : filter = []
        · simp [hfilter, levelsMatch]
        · simp [hfilter]
    · rw [if_pos (by tauto)]
      simp [hf]

/-! ### Cursors -/

theorem levels_eq_hash (f : List Char) : levels '/' f = [['#']] ↔ f = ['#'] :=
  ⟨fun h => Lib.levels_injective (h.trans rfl), fun h => by rw [h]; rfl⟩

theorem topicMatchesFilterLoop_eq (f t : List Char) :
    topicMatchesFilterLoop f t = topicMatchesFilter f t := by
  have hsplit := List.takeWhile_append_dropWhile (p := (· ≠ '/')) (l := f)
  rw [topicMatchesFilterLoop, topicMatchesFilter, Lib.levels_eq '/' f, Lib.levels_eq '/' t,
    levelsMatch]
  by_cases hhash : f.takeWhile (· ≠ '/') = ['#']
  · have hdrop : f.drop 1 = f.dropWhile (· ≠ '/') := by
      conv_lhs => rw [← hsplit, hhash]
      rfl
    rw [if_pos hhash, if_pos hhash, hdrop]
    cases hf : f.dropWhile (· ≠ '/') with
    | nil => simp
    | cons c f' => simp [Lib.levels_ne_nil]
  rw [if_neg hhash, if_neg hhash]
  by_cases hlevel : f.takeWhile (· ≠ '/') ≠ ['+'] ∧
      f.takeWhile (· ≠ '/') ≠ t.takeWhile (· ≠ '/')
  · rw [if_pos hlevel, if_pos hlevel]
  rw [if_neg hlevel, if_neg hlevel]
  cases hf : f.dropWhile (· ≠ '/') with
  | nil =>
    cases ht : t.dropWhile (· ≠ '/') with
    | nil => simp
    | cons c t' => simp [Lib.levels_ne_nil]
  | cons c f' =>
    cases ht : t.dropWhile (· ≠ '/') with
    | nil => simp [Lib.levels_ne_nil, levels_eq_hash]
    | cons c' t' =>
      simp only [Lib.levels_ne_nil, ne_eq, not_false_eq_true, and_self, if_false, if_true]
      exact topicMatchesFilterLoop_eq f' t'
termination_by f.length
decreasing_by exact Lib.length_behind_lt hf

theorem topicMatchesFilterLoop_iff (filter topic : List Char) :
    topicMatchesFilterLoop filter topic = true ↔
      MatchesLevels (levels '/' filter) (levels '/' topic) := by
  rw [topicMatchesFilterLoop_eq, topicMatchesFilter]
  cases htopic : levels '/' topic with
  | nil => exact absurd htopic (Lib.levels_ne_nil topic)
  | cons t topic => exact levelsMatch_iff

end SceneHub.Broker
