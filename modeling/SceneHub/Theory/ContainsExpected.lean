import SceneHub.JsonGrammar
import SceneHub.Theory.MatchScan
import SceneHub.Theory.SpelledText

/-!
# The Comparison of Objects

What the comparison of event arguments does on two objects that are JSON. The answer is yes
if each key of the expected object is in the actual one with a value that matches: objects
by the same rule, if there is room to copy them, and anything else by its text.

## Main definitions

* `Tree.matches`, `Fields.coveredBy`: The rule on trees.
* `Fields.Proper`: Keys without escapes, none of them empty or repeated.

## Theorems

* `nextPair_text`: A member is read as it is written.
* `pairsRead_fields`: All members are read.
* `valueMatches_tree`: The rule on texts is the rule on trees.
* `object_contains_expected`: What the code answers.
-/

namespace SceneHub.JsonMatch

open JsonText

/-! ### The same scanner -/

theorem isWs_eq (c : Char) : isWs c = Ingest.isWs c := by
  unfold isWs Ingest.isWs
  rw [Bool.decide_or, Bool.decide_or, Bool.decide_or, Bool.or_assoc, Bool.or_assoc]

theorem skipWs_eq (p : List Char) : skipWs p = Ingest.skipWs p := by
  have hsame : isWs = Ingest.isWs := funext isWs_eq
  unfold skipWs Ingest.skipWs
  rw [hsame]

theorem skipStringBody_eq (p : List Char) :
    skipStringBody p = (Ingest.skipString p).map Prod.snd := by
  induction p using Ingest.skipString.induct with
  | case1 => rfl
  | case2 => rfl
  | case3 c rest ih =>
    rw [skipStringBody_cons, Ingest.skipString, Option.map_map]
    exact (if_pos rfl).trans (ih.trans rfl)
  | case4 rest hslash hescape =>
    have hne : ¬ '"' = backslashChar := by decide
    rw [skipStringBody_cons, if_neg hne]
    rfl
  | case5 c rest hslash hescape hquote ih =>
    have hne : c ≠ '\\' := by
      intro hc
      cases rest with
      | nil => exact hslash hc rfl
      | cons d rest => exact hescape d rest hc rfl
    rw [skipStringBody_cons, Executor.skipString_byte hquote hne, Option.map_map]
    exact (if_neg hne).trans ((if_neg hquote).trans (ih.trans rfl))

theorem readKey_eq (p : List Char) : readKey p = (Ingest.readKey p).toOption := by
  induction p with
  | nil => rfl
  | cons c p ih =>
    rw [readKey, Ingest.readKey]
    by_cases hslash : c = '\\'
    · rw [if_pos hslash]
      exact if_pos hslash
    rw [if_neg hslash]
    refine (if_neg hslash).trans ?_
    by_cases hquote : c = '"'
    · rw [if_pos hquote]
      exact if_pos hquote
    rw [if_neg hquote]
    refine (if_neg hquote).trans ?_
    rw [ih]
    cases Ingest.readKey p with
    | error err => rfl
    | ok r => rfl

/-- The loop over brackets with all the fuel it takes. -/
def skipOpen (stack : List Bracket) (p : List Char) : Option (List Char) :=
  skipNested (p.length + 1) (stack.map Bracket.opening) p

theorem skipOpen_cons (stack : List Bracket) (c : Char) (p : List Char) : skipOpen stack (c :: p) =
      skipNested (p.length + 1 + 1) (stack.map Bracket.opening) (c :: p) := rfl

theorem skipNested_eq_open {fuel : Nat} {stack : List Bracket} {p : List Char}
    (h : p.length < fuel) : skipNested fuel (stack.map Bracket.opening) p = skipOpen stack p :=
  skipNested_fuel h (Nat.lt_succ_self _)

theorem skipOpen_scanner : BracketScanner nestingMax skipOpen where
  bare := by
    intro stack c hc rest
    rcases Executor.isBare_ne hc .brace with ⟨hquote, hopen, hclose⟩
    rcases Executor.isBare_ne hc .square with ⟨-, hopen', hclose'⟩
    rw [skipOpen_cons, skipNested_cons]
    exact (if_neg hquote).trans ((if_neg (not_or.2 ⟨hopen, hopen'⟩)).trans
      (if_neg (not_or.2 ⟨hclose, hclose'⟩)))
  string := by
    intro stack pieces rest
    have hquote : '"' = quoteChar := by decide
    rw [skipOpen_cons, skipNested_cons, if_pos hquote, skipStringBody_eq,
      Executor.skipString_spelled]
    refine skipNested_eq_open ?_
    rw [List.length_append, List.length_cons]
    dsimp only
    omega
  opening := by
    intro stack b rest hroom
    have hroom' : ¬nestingMax ≤ (stack.map Bracket.opening).length := by
      rw [List.length_map]
      omega
    rw [skipOpen_cons, skipNested_cons, if_neg (by cases b <;> decide),
      if_pos (by cases b <;> decide), if_neg hroom', ← List.map_cons]
    exact skipNested_eq_open (Nat.lt_succ_self _)
  closing := by
    intro stack b rest hstack
    have hbelow : ¬ stack.map Bracket.opening = [] := fun h => hstack (List.map_eq_nil_iff.1 h)
    rw [skipOpen_cons, skipNested_cons, if_neg (by cases b <;> decide),
      if_neg (by cases b <;> decide), if_pos (by cases b <;> decide), List.map_cons]
    dsimp only
    rw [if_neg (by cases b <;> decide), if_neg hbelow]
    exact skipNested_eq_open (Nat.lt_succ_self _)
  last := by
    intro b rest
    rw [skipOpen_cons, skipNested_cons, if_neg (by cases b <;> decide),
      if_neg (by cases b <;> decide), if_pos (by cases b <;> decide), List.map_cons]
    dsimp only
    rw [if_neg (by cases b <;> decide)]
    rfl

theorem skipValue_eq (cursor : List Char) :
    skipValue cursor = Executor.skipValueWith (fun b => skipOpen [b]) cursor := by
  unfold skipValue Executor.skipValueWith
  rw [skipWs_eq]
  cases Ingest.skipWs cursor with
  | nil => rfl
  | cons c rest =>
    dsimp only
    by_cases hquote : c = '"'
    · rw [if_pos hquote, ← skipStringBody_eq]
      exact if_pos hquote
    rw [if_neg hquote]
    refine (if_neg hquote).trans ?_
    by_cases hbrace : c = '{'
    · rw [if_pos hbrace, hbrace]
      exact if_pos (Or.inl rfl)
    rw [if_neg hbrace]
    by_cases hsquare : c = '['
    · rw [if_pos hsquare, hsquare]
      exact if_pos (Or.inr rfl)
    · rw [if_neg hsquare]
      exact if_neg (not_or.2 ⟨hbrace, hsquare⟩)

/-! ### Reading a member -/

theorem skipValue_tree (after : Gap) (t : Tree) (hdepth : t.depth ≤ nestingMax) {c : Char}
    (hc : Executor.isEnd c = true) (rest : List Char) :
    skipValue (t.value.text ++ (after.text ++ c :: rest)) =
      some (Executor.behind t.value after ++ c :: rest) := by
  have hskip := Executor.skipValueWith_text (fun b => skipOpen [b]) ⟨[], List.forall_mem_nil _⟩
    after t.value hc rest
  rw [List.nil_append] at hskip
  rw [skipValue_eq, hskip]
  cases t with
  | array empty items => exact skipOpen_scanner.array hdepth _
  | object empty fields => exact skipOpen_scanner.object hdepth _
  | _ => rfl

/-- The blanks that are taken for a part of the value in front of them. -/
def trailing (v : Value) (after : Gap) : List Char :=
  if Executor.isScalar v then after.text else []

theorem trailing_behind (v : Value) (after : Gap) :
    trailing v after ++ Executor.behind v after = after.text := by
  unfold trailing Executor.behind
  split_ifs
  · exact List.append_nil _
  · rfl

theorem trailing_blank (v : Value) (after : Gap) : ∀ c ∈ trailing v after, isBlank c = true := by
  intro c hc
  unfold trailing at hc
  split_ifs at hc
  · exact after.blank c hc
  · cases hc

/-- The pair that is read of a member. -/
def view (m : Member) : List Char × List Char :=
  (spelled m.key, m.value.text ++ trailing m.value m.after)

theorem nextPair_text {m : Member} (hm : m.Readable nestingMax) {c : Char}
    (hc : Executor.isEnd c = true) (rest : List Char) : nextPair (m.text ++ c :: rest) =
      .pair (view m).1 (view m).2 (if c = ',' then rest else c :: rest) := by
  rcases hm.shallow with ⟨t, ht, hdepth⟩
  rcases Executor.text_cons m.value with ⟨d, text, htext, hd⟩
  have hquote : skipWs (m.text ++ c :: rest) = '"' :: (spelled m.key ++ '"' :: (m.afterKey.text ++
      ':' :: (m.beforeValue.text ++ (m.value.text ++ (m.after.text ++ c :: rest))))) := by
    rw [skipWs_eq, Executor.Member.text_append]
    exact Executor.skipWs_gap_cons m.before (by decide) _
  have hkey : readKey (spelled m.key ++ '"' :: (m.afterKey.text ++ ':' :: (m.beforeValue.text ++
      (m.value.text ++ (m.after.text ++ c :: rest))))) = some (spelled m.key, m.afterKey.text ++
        ':' :: (m.beforeValue.text ++ (m.value.text ++ (m.after.text ++ c :: rest)))) := by
    rw [readKey_eq, Executor.readKey_spelled, if_pos hm.plain]
    rfl
  have hcolon : skipWs (m.afterKey.text ++ ':' :: (m.beforeValue.text ++ (m.value.text ++
      (m.after.text ++ c :: rest)))) = ':' :: (m.beforeValue.text ++ (m.value.text ++
        (m.after.text ++ c :: rest))) := by
    rw [skipWs_eq]
    exact Executor.skipWs_gap_cons m.afterKey (by decide) _
  have hstart : skipWs (m.beforeValue.text ++ (m.value.text ++ (m.after.text ++ c :: rest))) =
      m.value.text ++ (m.after.text ++ c :: rest) := by
    rw [skipWs_eq, htext, List.cons_append]
    exact Executor.skipWs_gap_cons m.beforeValue hd _
  have hskip : skipValue (m.value.text ++ (m.after.text ++ c :: rest)) =
      some (Executor.behind m.value m.after ++ c :: rest) := by
    rw [← ht]
    exact skipValue_tree m.after t hdepth hc rest
  have hend : skipWs (Executor.behind m.value m.after ++ c :: rest) = c :: rest := by
    rw [skipWs_eq, Executor.behind]
    split_ifs
    · exact Executor.skipWs_cons (Executor.isEnd_isWs hc) rest
    · exact Executor.skipWs_gap_cons m.after (Executor.isEnd_isWs hc) rest
  -- the view goes up to where the value ends
  have hview : (m.value.text ++ (m.after.text ++ c :: rest)).take
      ((m.value.text ++ (m.after.text ++ c :: rest)).length -
        (Executor.behind m.value m.after ++ c :: rest).length) = (view m).2 := by
    have hsplit : m.value.text ++ (m.after.text ++ c :: rest) =
        (view m).2 ++ (Executor.behind m.value m.after ++ c :: rest) := by
      rw [view, ← trailing_behind m.value m.after]
      simp
    rw [hsplit, List.length_append, Nat.add_sub_cancel, List.take_left]
  rw [nextPair, hquote]
  dsimp only
  have hclose : ¬ '"' = closeBrace := by decide
  have hopen : ¬ '"' ≠ quoteChar := by decide
  have hsep : ¬ ':' ≠ colonChar := by decide
  rw [if_neg hclose, if_neg hopen, hkey]
  dsimp only
  rw [hcolon]
  dsimp only
  rw [if_neg hsep, hstart, hskip]
  dsimp only
  rw [hview, hend]
  by_cases hcomma : c = ','
  · rw [if_pos hcomma]
    exact if_pos hcomma
  · rw [if_neg hcomma]
    exact (if_neg hcomma).trans (if_pos ((of_decide_eq_true hc).resolve_left hcomma))

theorem pairsRead_members (m : Member) (members : List Member)
    (hall : ∀ x ∈ m :: members, x.Readable nestingMax) (rest : List Char) :
    PairsRead (m.text ++ (furtherText members ++ '}' :: rest)) ((m :: members).map view) true := by
  induction members generalizing m with
  | nil =>
    have hnext := nextPair_text (hall m List.mem_cons_self) (c := '}') (by decide) rest
    rw [if_neg (by decide)] at hnext
    rw [furtherText, List.flatMap_nil, List.nil_append]
    exact .pair hnext (.closed rfl)
  | cons next members ih =>
    rcases List.forall_mem_cons.1 hall with ⟨hm, hrest⟩
    have hnext := nextPair_text hm (c := ',') (by decide)
      (next.text ++ (furtherText members ++ '}' :: rest))
    rw [if_pos rfl] at hnext
    have htext : furtherText (next :: members) ++ '}' :: rest =
        ',' :: (next.text ++ (furtherText members ++ '}' :: rest)) := by
      rw [furtherText, List.flatMap_cons, List.append_assoc, List.cons_append]
      rfl
    rw [htext]
    exact .pair hnext (ih next hrest)

theorem pairsRead_fields (empty : Gap) {fields : Fields}
    (hall : ∀ m ∈ fields.members, m.Readable nestingMax) (rest : List Char) :
    PairsRead (fields.inner empty ++ '}' :: rest) (fields.members.map view) true := by
  rw [fields.inner_eq empty]
  cases hmembers : fields.members with
  | nil =>
    refine .closed ?_
    rw [membersText, nextPair, skipWs_eq, Executor.skipWs_gap_cons empty (by decide)]
    rfl
  | cons m members =>
    rw [hmembers] at hall
    rw [membersText, List.append_assoc]
    exact pairsRead_members m members hall rest

/-! ### The rule on trees -/

def Fields.Has : Fields → List Char → Tree → Prop
  | .nil, _, _ => False
  | .cons _ k _ _ value _ further, key, t =>
    (spelled k.pieces = key ∧ value = t) ∨ Fields.Has further key t

mutual
/-- Objects match if the actual one covers the expected one, anything else if it is written the
    same. Objects that do not fit are not compared. -/
def Tree.matches (fits : List Char → Prop) : Tree → Tree → Prop
  | .object empty fields, actual =>
    match actual with
    | .object empty' fields' =>
      fits (Tree.object empty fields).text ∧ fits (Tree.object empty' fields').text ∧
        Fields.coveredBy fits fields fields'
    | actual => (Tree.object empty fields).text = actual.text
  | expected, actual => expected.text = actual.text

/-- Each key has a value among the actual fields that matches. -/
def Fields.coveredBy (fits : List Char → Prop) : Fields → Fields → Prop
  | .nil, _ => True
  | .cons _ key _ _ value _ further, actual =>
    (∃ value', Fields.Has actual (spelled key.pieces) value' ∧ Tree.matches fits value value') ∧
      Fields.coveredBy fits further actual
end

mutual
/-- In all objects that are compared, no key has an escape, is empty or is repeated. -/
def Tree.Proper : Tree → Prop
  | .object _ fields => Fields.Proper fields
  | _ => True

def Fields.Proper : Fields → Prop
  | .nil => True
  | .cons _ key _ _ value _ further =>
    (plain key.pieces = true ∧ key.pieces ≠ [] ∧
        ∀ t, ¬Fields.Has further (spelled key.pieces) t) ∧
      Tree.Proper value ∧ Fields.Proper further
end

theorem Fields.Proper.plain : ∀ {fields : Fields}, Fields.Proper fields →
    ∀ m ∈ fields.members, JsonText.plain m.key = true
  | .nil, _, m, hm => nomatch hm
  | .cons before key afterKey beforeValue value after further, h, m, hm => by
    rw [Fields.Proper] at h
    rcases List.mem_cons.1 hm with rfl | hm
    · exact h.1.1
    · exact Fields.Proper.plain h.2.2 m hm

theorem Fields.Proper.readable {fields : Fields} (h : Fields.Proper fields)
    (hdepth : fields.depth ≤ nestingMax) : ∀ m ∈ fields.members, m.Readable nestingMax :=
  JsonText.Fields.readable (Fields.Proper.plain h) hdepth

theorem Fields.Has.proper : ∀ {fields : Fields} {key : List Char} {t : Tree},
    Fields.Has fields key t → Fields.Proper fields → Tree.Proper t
  | .nil, _, _, h, _ => h.elim
  | .cons before k afterKey beforeValue value after further, key, t, h, hproper => by
    rw [Fields.Proper] at hproper
    rcases h with ⟨-, rfl⟩ | h
    · exact hproper.2.1
    · exact Fields.Has.proper h hproper.2.2

theorem Fields.Has.depth_le : ∀ {fields : Fields} {key : List Char} {t : Tree},
    Fields.Has fields key t → t.depth ≤ fields.depth
  | .nil, _, _, h => h.elim
  | .cons before k afterKey beforeValue value after further, key, t, h => by
    rw [JsonText.Fields.depth]
    rcases h with ⟨-, rfl⟩ | h
    · exact Nat.le_max_left _ _
    · exact Nat.le_trans (Fields.Has.depth_le h) (Nat.le_max_right _ _)

theorem has_of_firstValue : ∀ {fields : Fields} {key value : List Char},
    firstValue key (fields.members.map view) = some value →
      ∃ (t : Tree) (g : Gap), Fields.Has fields key t ∧ value = t.text ++ g.text
  | .nil, _, _, h => nomatch h
  | .cons before k afterKey beforeValue v after further, key, value, h => by
    rw [Fields.members, List.map_cons, view, firstValue] at h
    by_cases hkey : spelled k.pieces = key
    · rw [if_pos hkey] at h
      refine ⟨v, ⟨_, trailing_blank v.value after⟩, Or.inl ⟨hkey, rfl⟩, ?_⟩
      rw [← Option.some.inj h, v.text_value]
    · rw [if_neg hkey] at h
      rcases has_of_firstValue h with ⟨t, g, hhas, hvalue⟩
      exact ⟨t, g, Or.inr hhas, hvalue⟩

/-- No key is repeated, so that it is the member's own value that is read. -/
theorem firstValue_of_has : ∀ {fields : Fields} {key : List Char} {t : Tree},
    Fields.Has fields key t → Fields.Proper fields →
      ∃ g : Gap, firstValue key (fields.members.map view) = some (t.text ++ g.text)
  | .nil, _, _, h, _ => h.elim
  | .cons before k afterKey beforeValue v after further, key, t, h, hproper => by
    rw [Fields.Proper] at hproper
    rw [Fields.members, List.map_cons, view, firstValue]
    rcases h with ⟨hkey, rfl⟩ | h
    · refine ⟨⟨_, trailing_blank v.value after⟩, ?_⟩
      rw [if_pos hkey, v.text_value]
    have hne : ¬ spelled k.pieces = key := by
      rintro rfl
      exact hproper.1.2.2 t h
    rw [if_neg hne]
    exact firstValue_of_has h hproper.2.2

/-! ### What is compared of a value -/

theorem exists_last (v : Value) : ∃ init d, v.text = init ++ [d] ∧ isWs d = false := by
  cases v with
  | null => exact ⟨['n', 'u', 'l'], 'l', rfl, by decide⟩
  | bool value =>
    cases value with
    | true => exact ⟨['t', 'r', 'u'], 'e', rfl, by decide⟩
    | false => exact ⟨['f', 'a', 'l', 's'], 'e', rfl, by decide⟩
  | number n =>
    have hne : n.text ≠ [] := by
      intro hnil
      rw [Number.text, List.append_eq_nil_iff, List.append_eq_nil_iff] at hnil
      exact n.digits_ne hnil.1.2
    refine ⟨n.text.dropLast, n.text.getLast hne, (List.dropLast_append_getLast hne).symm, ?_⟩
    rw [isWs_eq]
    exact Executor.isTail_isWs (Executor.Number.isTail_text n _ (List.getLast_mem hne))
  | string pieces => exact ⟨'"' :: spelled pieces, '"', rfl, by decide⟩
  | nested b inner hinner =>
    exact ⟨b.opening :: inner, b.closing, rfl, by cases b <;> decide⟩

theorem trim_value (v : Value) {g : List Char} (hg : ∀ c ∈ g, isBlank c = true) :
    trim (v.text ++ g) = v.text := by
  rcases Executor.text_cons v with ⟨c, text, htext, hc⟩
  rcases exists_last v with ⟨init, d, hlast, hd⟩
  have hstart : skipWs (v.text ++ g) = v.text ++ g := by
    rw [skipWs_eq, htext]
    exact Executor.skipWs_cons hc _
  have hblank : ∀ c ∈ g.reverse, isWs c = true := by
    intro c hc'
    rw [isWs_eq]
    exact hg c (List.mem_reverse.1 hc')
  rw [trim, hstart, List.reverse_append, List.dropWhile_append_of_pos hblank, hlast,
    List.reverse_append, List.reverse_singleton, List.singleton_append,
    List.dropWhile_cons_of_neg (by rw [hd]; exact Bool.false_ne_true), List.reverse_cons,
    List.reverse_reverse]

theorem trim_tree (t : Tree) (g : Gap) : trim (t.text ++ g.text) = t.text := by
  rw [← t.text_value]
  exact trim_value t.value g.blank

theorem head_brace (t : Tree) :
    t.text.head? = some openBrace ↔ ∃ empty fields, t = .object empty fields := by
  constructor
  · intro h
    cases t with
    | object empty fields => exact ⟨empty, fields, rfl⟩
    | null => exact absurd h (by decide)
    | bool value => cases value <;> exact absurd h (by decide)
    | string s | array empty items => exact absurd (Option.some.inj h) (by decide)
    | number n =>
      rcases List.head?_eq_some_iff.1 h with ⟨rest, hrest⟩
      have hmem : openBrace ∈ n.number.text := by
        have hcons : n.number.text = openBrace :: rest := hrest
        rw [hcons]
        exact .head _
      exact absurd (Executor.Number.isTail_text n.number _ hmem) (by decide)
  · rintro ⟨empty, fields, rfl⟩
    rfl

theorem two_le_object (empty : Gap) (fields : Fields) :
    2 ≤ (Tree.object empty fields).text.length := by
  rw [Tree.text, List.length_cons, List.length_append, List.length_singleton]
  omega

theorem bothObjects_tree (t t' : Tree) (g g' : Gap) :
    BothObjects (t.text ++ g.text) (t'.text ++ g'.text) ↔
      (∃ empty fields, t = .object empty fields) ∧ ∃ empty fields, t' = .object empty fields := by
  rw [BothObjects, trim_tree, trim_tree, head_brace, head_brace]
  constructor
  · exact fun h => h.2
  · rintro ⟨⟨empty, fields, rfl⟩, h⟩
    exact ⟨two_le_object empty fields, ⟨empty, fields, rfl⟩, h⟩

/-! ### The rule on texts -/

theorem skipWs_object (lead empty : Gap) (fields : Fields) (trail : List Char) :
    skipWs (lead.text ++ ((Tree.object empty fields).text ++ trail)) =
      openBrace :: (fields.inner empty ++ '}' :: trail) := by
  have htext : (Tree.object empty fields).text ++ trail =
      '{' :: (fields.inner empty ++ '}' :: trail) := by
    rw [Tree.text, JsonText.Fields.inner, List.cons_append, List.append_assoc]
    rfl
  rw [skipWs_eq, htext]
  exact Executor.skipWs_gap_cons lead (by decide) _

theorem contains_object {lead empty : Gap} {fields : Fields} {trail actual : List Char}
    (hall : ∀ m ∈ fields.members, m.Readable nestingMax) :
    Contains (lead.text ++ ((Tree.object empty fields).text ++ trail)) actual ↔
      ContainsAll (fields.members.map view) actual := by
  have hread := pairsRead_fields empty hall trail
  have hopen := skipWs_object lead empty fields trail
  constructor
  · intro h
    cases h with
    | object hopen' hread' hall' =>
      rw [hopen] at hopen'
      rcases List.cons.inj hopen' with ⟨-, rfl⟩
      rw [(hread.unique hread').1]
      exact hall'
  · exact fun h => .object hopen hread h

theorem hasValue_object {lead empty : Gap} {fields : Fields} {trail key value : List Char}
    (hall : ∀ m ∈ fields.members, m.Readable nestingMax) :
    HasValue (lead.text ++ ((Tree.object empty fields).text ++ trail)) key value ↔
      key ≠ [] ∧ firstValue key (fields.members.map view) = some value := by
  have hread := pairsRead_fields empty hall trail
  have hopen := skipWs_object lead empty fields trail
  constructor
  · rintro ⟨hkey, rest, pairs, closed, hopen', hread', hvalue⟩
    rw [hopen] at hopen'
    rcases List.cons.inj hopen' with ⟨-, rfl⟩
    rw [(hread.unique hread').1]
    exact ⟨hkey, hvalue⟩
  · rintro ⟨hkey, hvalue⟩
    exact ⟨hkey, _, _, _, hopen, hread, hvalue⟩

theorem containsAll_cons_iff {key value actual : List Char} {pairs : List (List Char × List Char)} :
    ContainsAll ((key, value) :: pairs) actual ↔
      (∃ value', HasValue actual key value' ∧ ValueMatches value value') ∧
        ContainsAll pairs actual := by
  constructor
  · intro h
    cases h with
    | cons hvalue hmatch hall => exact ⟨⟨_, hvalue, hmatch⟩, hall⟩
  · rintro ⟨⟨value', hvalue, hmatch⟩, hall⟩
    exact .cons hvalue hmatch hall

theorem valueMatches_objects {value value' : List Char} (h : BothObjects value value') :
    ValueMatches value value' ↔
      Fits (trim value) ∧ Fits (trim value') ∧ Contains (trim value) (trim value') := by
  constructor
  · intro hmatch
    cases hmatch with
    | object _ hfits hfits' hcontains => exact ⟨hfits, hfits', hcontains⟩
    | text hnot _ => exact absurd h hnot
  · rintro ⟨hfits, hfits', hcontains⟩
    exact .object h hfits hfits' hcontains

theorem valueMatches_texts {value value' : List Char} (h : ¬BothObjects value value') :
    ValueMatches value value' ↔ trim value = trim value' := by
  constructor
  · intro hmatch
    cases hmatch with
    | object hboth _ _ _ => exact absurd hboth h
    | text _ heq => exact heq
  · exact fun heq => .text h heq

theorem valueMatches_other {t t' : Tree} (g g' : Gap)
    (h : ¬((∃ empty fields, t = .object empty fields) ∧
      ∃ empty fields, t' = .object empty fields)) :
    ValueMatches (t.text ++ g.text) (t'.text ++ g'.text) ↔ t.text = t'.text := by
  rw [valueMatches_texts (fun hboth => h ((bothObjects_tree t t' g g').1 hboth)), trim_tree,
    trim_tree]

theorem spelled_ne_nil {pieces : List Piece} (h : pieces ≠ []) : spelled pieces ≠ [] := by
  cases pieces with
  | nil => exact absurd rfl h
  | cons p pieces =>
    rw [spelled, List.flatMap_cons]
    cases p with
    | byte c hc => exact List.cons_ne_nil _ _
    | escape e => exact List.cons_ne_nil _ _
    | unicode hex => exact List.cons_ne_nil _ _

mutual
theorem valueMatches_tree : ∀ (t : Tree), Tree.Proper t → t.depth ≤ nestingMax → ∀ (t' : Tree),
    Tree.Proper t' → t'.depth ≤ nestingMax → ∀ g g' : Gap,
      (ValueMatches (t.text ++ g.text) (t'.text ++ g'.text) ↔ Tree.matches Fits t t')
  | .object empty fields, hproper, hdepth, t', hproper', hdepth', g, g' => by
    rw [Tree.Proper] at hproper
    rw [JsonText.Tree.depth] at hdepth
    cases t' with
    | object empty' fields' =>
      rw [Tree.Proper] at hproper'
      rw [JsonText.Tree.depth] at hdepth'
      have hboth := (bothObjects_tree _ _ g g').2 ⟨⟨empty, fields, rfl⟩, ⟨empty', fields', rfl⟩⟩
      have hall := Fields.Proper.readable hproper (Nat.le_of_succ_le hdepth)
      have hcontains := @contains_object ⟨[], List.forall_mem_nil _⟩ empty fields []
        (Tree.object empty' fields').text hall
      have hfields := containsAll_fields fields hproper (Nat.le_of_succ_le hdepth)
        ⟨[], List.forall_mem_nil _⟩ empty' fields' [] hproper' (Nat.le_of_succ_le hdepth')
      rw [List.append_nil] at hcontains hfields
      rw [valueMatches_objects hboth, trim_tree, trim_tree, Tree.matches]
      exact and_congr_right fun _ => and_congr_right fun _ => hcontains.trans hfields
    | null | bool value | number n | string s => exact valueMatches_other g g' fun h => by simp at h
    | array empty' items' => exact valueMatches_other g g' fun h => by simp at h
  | .null, _, _, t', _, _, g, g' => valueMatches_other g g' fun h => by simp at h
  | .bool _, _, _, t', _, _, g, g' => valueMatches_other g g' fun h => by simp at h
  | .number _, _, _, t', _, _, g, g' => valueMatches_other g g' fun h => by simp at h
  | .string _, _, _, t', _, _, g, g' => valueMatches_other g g' fun h => by simp at h
  | .array _ _, _, _, t', _, _, g, g' => valueMatches_other g g' fun h => by simp at h

theorem containsAll_fields : ∀ (fields : Fields), Fields.Proper fields →
    fields.depth ≤ nestingMax → ∀ (lead empty' : Gap) (fields' : Fields) (trail : List Char),
      Fields.Proper fields' → fields'.depth ≤ nestingMax →
        (ContainsAll (fields.members.map view)
            (lead.text ++ ((Tree.object empty' fields').text ++ trail)) ↔
          Fields.coveredBy Fits fields fields')
  | .nil, _, _, _, _, _, _, _, _ => by
    rw [Fields.coveredBy]
    exact ⟨fun _ => trivial, fun _ => .nil⟩
  | .cons before key afterKey beforeValue value after further, hproper, hdepth, lead, empty',
      fields', trail, hproper', hdepth' => by
    rw [Fields.Proper] at hproper
    rw [JsonText.Fields.depth] at hdepth
    have hfurther := containsAll_fields further hproper.2.2
      (Nat.le_trans (Nat.le_max_right _ _) hdepth) lead empty' fields' trail hproper' hdepth'
    have hvalue := valueMatches_tree value hproper.2.1 (Nat.le_trans (Nat.le_max_left _ _) hdepth)
    have hreadable := Fields.Proper.readable hproper' hdepth'
    rw [JsonText.Fields.members, List.map_cons, view, containsAll_cons_iff, hfurther,
      Fields.coveredBy]
    refine and_congr_left fun _ => ?_
    rw [value.text_value]
    constructor
    · rintro ⟨value', hhas, hmatch⟩
      rcases has_of_firstValue ((hasValue_object hreadable).1 hhas).2 with ⟨t', g', ht', rfl⟩
      refine ⟨t', ht', ?_⟩
      exact (hvalue t' (Fields.Has.proper ht' hproper')
        (Nat.le_trans (Fields.Has.depth_le ht') hdepth') ⟨_, trailing_blank value.value after⟩
        g').1 hmatch
    rintro ⟨t', ht', hmatch⟩
    rcases firstValue_of_has ht' hproper' with ⟨g', hfirst⟩
    refine ⟨_, (hasValue_object hreadable).2 ⟨spelled_ne_nil hproper.1.2.1, hfirst⟩, ?_⟩
    exact (hvalue t' (Fields.Has.proper ht' hproper')
      (Nat.le_trans (Fields.Has.depth_le ht') hdepth') ⟨_, trailing_blank value.value after⟩
      g').2 hmatch
end

/-! ### Objects that fit -/

theorem Fields.Has.length_le : ∀ {fields : Fields} {key : List Char} {t : Tree},
    Fields.Has fields key t → ∀ first, t.text.length ≤ (fields.text first).length
  | .nil, _, _, h, _ => h.elim
  | .cons before k afterKey beforeValue value after further, key, t, h, first => by
    rw [JsonText.Fields.text]
    simp only [List.length_append, List.length_cons]
    rcases h with ⟨-, rfl⟩ | h
    · omega
    · have hle := Fields.Has.length_le h false
      omega

theorem length_text_object (empty : Gap) (fields : Fields) :
    (fields.text true).length < (Tree.object empty fields).text.length := by
  rw [Tree.text, List.length_cons, List.length_append, List.length_append]
  omega

mutual
theorem matches_of_fits : ∀ (t t' : Tree), Fits t.text → Fits t'.text →
    (Tree.matches Fits t t' ↔ Tree.matches (fun _ => True) t t')
  | .object empty fields, .object empty' fields', h, h' => by
    have hlt := length_text_object empty fields
    have hlt' := length_text_object empty' fields'
    have hfields := coveredBy_of_fits fields true fields'
      (by unfold Fits at h ⊢; omega) (by unfold Fits at h' ⊢; omega)
    rw [Tree.matches, Tree.matches, hfields]
    exact ⟨fun hmatch => ⟨trivial, trivial, hmatch.2.2⟩, fun hmatch => ⟨h, h', hmatch.2.2⟩⟩
  | .object _ _, .null, _, _ => Iff.rfl
  | .object _ _, .bool _, _, _ => Iff.rfl
  | .object _ _, .number _, _, _ => Iff.rfl
  | .object _ _, .string _, _, _ => Iff.rfl
  | .object _ _, .array _ _, _, _ => Iff.rfl
  | .null, _, _, _ => Iff.rfl
  | .bool _, _, _, _ => Iff.rfl
  | .number _, _, _, _ => Iff.rfl
  | .string _, _, _, _ => Iff.rfl
  | .array _ _, _, _, _ => Iff.rfl

theorem coveredBy_of_fits : ∀ (fields : Fields) (first : Bool) (fields' : Fields),
    Fits (fields.text first) → Fits (fields'.text true) →
      (Fields.coveredBy Fits fields fields' ↔ Fields.coveredBy (fun _ => True) fields fields')
  | .nil, _, _, _, _ => Iff.rfl
  | .cons before key afterKey beforeValue value after further, first, fields', h, h' => by
    unfold Fits at h h'
    rw [JsonText.Fields.text] at h
    simp only [List.length_append, List.length_cons] at h
    have hfurther := coveredBy_of_fits further false fields' (by unfold Fits; omega) h'
    have hvalue : ∀ t', Fields.Has fields' (spelled key.pieces) t' →
        (Tree.matches Fits value t' ↔ Tree.matches (fun _ => True) value t') := by
      intro t' ht'
      have hle := Fields.Has.length_le ht' true
      exact matches_of_fits value t' (by unfold Fits; omega) (by unfold Fits; omega)
    rw [Fields.coveredBy, Fields.coveredBy, hfurther]
    refine and_congr_left fun _ => exists_congr fun t' => ?_
    exact and_congr_right fun ht' => hvalue t' ht'
end

/-! ### Any two objects -/

/-- An object as the comparison expects it: proper keys, and no deeper than the stack. -/
structure Comparable (o : ObjectText) : Prop where
  proper : Fields.Proper o.fields
  depth : o.fields.depth ≤ nestingMax

theorem length_fields_text (o : ObjectText) : (o.fields.text true).length < o.text.length := by
  have hlt := length_text_object o.empty o.fields
  rw [ObjectText.text, List.length_append, List.length_append]
  omega

theorem objectContainsExpected_iff {expected actual : ObjectText} (h : Comparable expected)
    (h' : Comparable actual) :
    objectContainsExpected (String.ofList expected.text) (String.ofList actual.text) = true ↔
      Fields.coveredBy Fits expected.fields actual.fields := by
  unfold objectContainsExpected
  rw [String.toList_ofList, String.toList_ofList, containsWithin_iff (Nat.lt_succ_self _)]
  exact (contains_object (Fields.Proper.readable h.proper h.depth)).trans
    (containsAll_fields expected.fields h.proper h.depth actual.lead actual.empty actual.fields
      actual.trail.text h'.proper h'.depth)

/-- What the comparison answers. On two objects it is the rule on trees, in which objects that
    are too long to be copied do not match; texts that fit the fields they are kept in have no
    such object. On any two texts, and with any fuel behind their length, it is the rule that
    reads the expected text to its closing brace and the actual one up to a defect. -/
theorem object_contains_expected :
    (∀ expected actual : ObjectText, Comparable expected → Comparable actual →
      (objectContainsExpected (String.ofList expected.text) (String.ofList actual.text) = true ↔
        Fields.coveredBy Fits expected.fields actual.fields) ∧
      (Fits expected.text → Fits actual.text →
        (objectContainsExpected (String.ofList expected.text) (String.ofList actual.text) =
            true ↔
          Fields.coveredBy (fun _ => True) expected.fields actual.fields))) ∧
    ∀ (expected actual : List Char) (n : Nat), expected.length < n →
      (containsWithin n expected actual = true ↔ Contains expected actual) := by
  refine ⟨fun expected actual h h' => ⟨objectContainsExpected_iff h h', fun hfits hfits' => ?_⟩,
    fun expected actual n hn => containsWithin_iff hn⟩
  have hlt := length_fields_text expected
  have hlt' := length_fields_text actual
  rw [objectContainsExpected_iff h h']
  exact coveredBy_of_fits expected.fields true actual.fields (by unfold Fits at hfits ⊢; omega)
    (by unfold Fits at hfits' ⊢; omega)

/-! ### An object that does not fit -/

theorem noBlank_blank : ∀ c ∈ ([] : List Char), isBlank c = true := List.forall_mem_nil _

def noBlank : Gap := ⟨[], noBlank_blank⟩

/-- A key of one letter. -/
def letter (c : Char) (h : c ≠ '"' ∧ c ≠ '\\' ∧ c ≠ '\x00') (hprints : 32 ≤ c.toNat) : Literal :=
  ⟨[.byte c h], List.forall_mem_singleton.2 (decide_eq_true hprints)⟩

/-- A string of as many letters. -/
def letters (n : Nat) : Literal :=
  ⟨List.replicate n (.byte 'x' (by decide)), fun p hp => by
    rw [List.eq_of_mem_replicate hp]
    rfl⟩

def longNested : ObjectText where
  lead := noBlank
  empty := noBlank
  fields :=
    .cons noBlank (letter 'a' (by decide) (by decide)) noBlank noBlank
      (.object noBlank
        (.cons noBlank (letter 'b' (by decide) (by decide)) noBlank noBlank
          (.string (letters 152)) noBlank .nil))
      noBlank .nil
  trail := noBlank

theorem longNested_comparable : Comparable longNested where
  proper := by
    rw [longNested, Fields.Proper, Tree.Proper, Fields.Proper]
    refine ⟨⟨rfl, List.cons_ne_nil _ _, fun _ h => h⟩, ⟨⟨rfl, List.cons_ne_nil _ _, fun _ h => h⟩,
      trivial, trivial⟩, trivial⟩
  depth := by decide

/-- The object has each of its own keys with its own value, and yet it is not found in itself. -/
theorem not_contained_in_itself : Comparable longNested ∧
      Fields.coveredBy (fun _ => True) longNested.fields longNested.fields ∧
      objectContainsExpected (String.ofList longNested.text) (String.ofList longNested.text) =
        false := by
  refine ⟨longNested_comparable, ?_, by decide +kernel⟩
  rw [longNested, Fields.coveredBy]
  refine ⟨⟨_, Or.inl ⟨rfl, rfl⟩, ?_⟩, trivial⟩
  rw [Tree.matches, Fields.coveredBy]
  have hsame : Tree.matches (fun _ => True) (.string (letters 152)) (.string (letters 152)) := rfl
  exact ⟨trivial, trivial, ⟨_, Or.inl ⟨rfl, rfl⟩, hsame⟩, trivial⟩

end SceneHub.JsonMatch
