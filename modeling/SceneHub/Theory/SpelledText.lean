import SceneHub.Executor.Payload

/-!
# Scanning What Is Written

What the two scanners of the executor make of a JSON object, for every way to write it.

The scanners know less than JSON: a key with an escape stops them, a number ends with its
digits, and one of them keeps eight brackets at most. Where they go on, they go on to the end
of the part, since a text has its strings closed and its brackets in pairs.

## Main definitions

* `scanned`: What the reader of parameters makes of a value.
* `firstMember`: The member that the reader of parameters comes to.

## Theorems

* `skipSame_inside`, `jsonSkipNested_inside`: What is between two brackets is moved over.
* `paramsSkipValue_text`, `jsonSkipValue_text`: A value is moved over.
* `find_value`: A value is read.
* `paramsFind_text`: The first member of the key is read.
-/

namespace SceneHub.Executor

open JsonText

variable {c : Char} {inner : List Char}

/-! ### Blanks -/

theorem skipWs_gap (g : Gap) (rest : List Char) :
    Ingest.skipWs (g.text ++ rest) = Ingest.skipWs rest :=
  List.dropWhile_append_of_pos g.blank

theorem skipWs_cons (h : Ingest.isWs c = false) (rest : List Char) :
    Ingest.skipWs (c :: rest) = c :: rest := by
  refine List.dropWhile_cons_of_neg ?_
  rw [h]
  exact Bool.false_ne_true

theorem skipWs_gap_cons (g : Gap) (h : Ingest.isWs c = false) (rest : List Char) :
    Ingest.skipWs (g.text ++ c :: rest) = c :: rest := by
  rw [skipWs_gap, skipWs_cons h]

/-! ### Strings -/

theorem skipString_byte (hquote : c ≠ '"') (hslash : c ≠ '\\') (rest : List Char) :
    Ingest.skipString (c :: rest) = (Ingest.skipString rest).map fun r => (c :: r.1, r.2) := by
  rw [Ingest.skipString]
  · rw [if_neg hquote]
  · intro heq
    exact absurd heq hslash
  · intro d rest' heq
    exact absurd heq hslash

theorem skipString_bytes (bytes rest : List Char) (h : ∀ c ∈ bytes, c ≠ '"' ∧ c ≠ '\\') :
    Ingest.skipString (bytes ++ rest) =
      (Ingest.skipString rest).map fun r => (bytes ++ r.1, r.2) := by
  induction bytes with
  | nil =>
    rw [List.nil_append]
    cases Ingest.skipString rest with
    | none => rfl
    | some r => rfl
  | cons c bytes ih =>
    rcases List.forall_mem_cons.1 h with ⟨hc, hbytes⟩
    rw [List.cons_append, skipString_byte hc.1 hc.2, ih hbytes, Option.map_map]
    rfl

theorem isHexDigit_ne (h : isHexDigit c = true) : c ≠ '"' ∧ c ≠ '\\' := by
  constructor
  · rintro rfl
    exact absurd h (by decide)
  · rintro rfl
    exact absurd h (by decide)

/-- A piece is moved over, an escape with the byte behind its backslash. -/
theorem skipString_piece (p : Piece) (rest : List Char) : Ingest.skipString (p.text ++ rest) =
      (Ingest.skipString rest).map fun r => (p.text ++ r.1, r.2) := by
  cases p with
  | byte c h => exact skipString_byte h.1 h.2.1 rest
  | escape e => rw [Piece.text, List.cons_append, List.cons_append, Ingest.skipString]; rfl
  | unicode hex =>
    have hdigits : ∀ c ∈ hex.digits, c ≠ '"' ∧ c ≠ '\\' := fun c hc => isHexDigit_ne (hex.isHex c hc)
    rw [Piece.text, List.cons_append, List.cons_append, Ingest.skipString,
      skipString_bytes _ _ hdigits, Option.map_map]
    rfl

theorem skipString_spelled (pieces : List Piece) (rest : List Char) :
    Ingest.skipString (spelled pieces ++ '"' :: rest) = some (spelled pieces, rest) := by
  induction pieces with
  | nil => rfl
  | cons p pieces ih =>
    rw [spelled, List.flatMap_cons, List.append_assoc, skipString_piece]
    rw [spelled] at ih
    rw [ih]
    rfl

/-! ### Keys -/

theorem readKey_byte (hquote : c ≠ '"') (hslash : c ≠ '\\') (rest : List Char) :
    Ingest.readKey (c :: rest) =
      (Ingest.readKey rest).map fun r => (c :: r.1, r.2) := by
  rw [Ingest.readKey, if_neg hslash, if_neg hquote]
  cases Ingest.readKey rest with
  | error err => rfl
  | ok r => rfl

theorem readKey_spelled (pieces : List Piece) (rest : List Char) :
    Ingest.readKey (spelled pieces ++ '"' :: rest) =
      if plain pieces = true then .ok (spelled pieces, rest) else .error .notSupported := by
  induction pieces with
  | nil => rfl
  | cons p pieces ih =>
    rw [spelled] at ih
    rw [spelled, List.flatMap_cons, List.append_assoc, plain, List.all_cons]
    cases p with
    | byte c h =>
      rw [Piece.text, List.singleton_append, readKey_byte h.1 h.2.1, ih, Piece.plain,
        Bool.true_and, plain]
      by_cases hplain : pieces.all Piece.plain = true
      · rw [if_pos hplain, if_pos hplain]
        rfl
      · rw [if_neg hplain, if_neg hplain]
        rfl
    | escape e => rfl
    | unicode hex => rfl

/-! ### What is between two brackets -/

section Quoted

variable {α : Type} {f : Ingest.Nesting → List Char → α}

theorem quoted_bytes (hquoted : ∀ c rest, f .quoted (c :: rest) =
      f (if c = '\\' then .escaped else if c = '"' then .plain else .quoted) rest)
    (bytes rest : List Char) (h : ∀ c ∈ bytes, c ≠ '"' ∧ c ≠ '\\') :
    f .quoted (bytes ++ rest) = f .quoted rest := by
  induction bytes with
  | nil => rfl
  | cons c bytes ih =>
    rcases List.forall_mem_cons.1 h with ⟨hc, hbytes⟩
    rw [List.cons_append, hquoted, if_neg hc.2, if_neg hc.1, ih hbytes]

/-- A loop that goes through a string byte by byte leaves it behind its closing quote. -/
theorem quoted_spelled (hescaped : ∀ c rest, f .escaped (c :: rest) = f .quoted rest)
    (hquoted : ∀ c rest, f .quoted (c :: rest) =
      f (if c = '\\' then .escaped else if c = '"' then .plain else .quoted) rest)
    (pieces : List Piece) (rest : List Char) :
    f .quoted (spelled pieces ++ '"' :: rest) = f .plain rest := by
  induction pieces with
  | nil => exact hquoted _ _
  | cons p pieces ih =>
    rw [spelled, List.flatMap_cons, List.append_assoc]
    rw [spelled] at ih
    cases p with
    | byte c h =>
      rw [Piece.text, List.singleton_append, hquoted, if_neg h.2.1, if_neg h.1, ih]
    | escape e =>
      rw [Piece.text, List.cons_append, hquoted, if_pos rfl, List.singleton_append, hescaped,
        ih]
    | unicode hex =>
      rw [Piece.text, List.cons_append, hquoted, if_pos rfl, List.cons_append, hescaped,
        quoted_bytes hquoted _ _ fun c hc => isHexDigit_ne (hex.isHex c hc), ih]

end Quoted

theorem skipSame_spelled (b : Bracket) (depth : Nat) (pieces : List Piece) (rest : List Char) :
    skipSame b depth .quoted (spelled pieces ++ '"' :: rest) = skipSame b depth .plain rest :=
  quoted_spelled (fun _ _ => rfl) (fun _ _ => rfl) pieces rest

theorem isBare_ne (h : isBare c = true) (b : Bracket) :
    c ≠ '"' ∧ c ≠ b.opening ∧ c ≠ b.closing := by
  unfold isBare at h
  simp only [decide_eq_true_eq, not_or] at h
  cases b with
  | brace => exact ⟨h.1, h.2.1, h.2.2.1⟩
  | square => exact ⟨h.1, h.2.2.2.1, h.2.2.2.2.1⟩

/-- Brackets of the other kind are bytes like any other, and those of its own kind come in
    pairs. -/
theorem skipSame_inside (b : Bracket) {depth : Nat} (hdepth : 0 < depth) (h : Inside inner)
    (rest : List Char) :
    skipSame b depth .plain (inner ++ rest) = skipSame b depth .plain rest := by
  induction h generalizing depth rest with
  | nil => rfl
  | bare hc _ ih =>
    rcases isBare_ne hc b with ⟨hquote, hopen, hclose⟩
    rw [List.cons_append, skipSame, if_neg hquote, if_neg hopen, if_neg hclose]
    exact ih hdepth rest
  | string pieces _ ih =>
    rw [List.cons_append, List.append_assoc, skipSame, if_pos rfl, List.cons_append,
      skipSame_spelled]
    exact ih hdepth rest
  | nested b' _ _ ihinner ih =>
    rw [List.cons_append, List.append_assoc, List.cons_append]
    have hquote : b'.opening ≠ '"' ∧ b'.closing ≠ '"' := by cases b' <;> decide
    by_cases hsame : b' = b
    · -- Its own brackets: one deeper up to the closing one.
      subst hsame
      have hne : b'.closing ≠ b'.opening := by cases b' <;> decide
      rw [skipSame, if_neg hquote.1, if_pos rfl, ihinner (Nat.succ_pos depth), skipSame,
        if_neg hquote.2, if_neg hne, if_pos rfl, if_neg (by omega)]
      exact ih hdepth rest
    have hopen : b'.opening ≠ b.opening ∧ b'.opening ≠ b.closing ∧
        b'.closing ≠ b.opening ∧ b'.closing ≠ b.closing := by
      cases b' <;> cases b <;> first | exact absurd rfl hsame | decide
    rw [skipSame, if_neg hquote.1, if_neg hopen.1, if_neg hopen.2.1, ihinner hdepth, skipSame,
      if_neg hquote.2, if_neg hopen.2.2.1, if_neg hopen.2.2.2]
    exact ih hdepth rest

theorem skipSame_nested (b : Bracket) (h : Inside inner) (rest : List Char) :
    skipSame b 1 .plain (inner ++ b.closing :: rest) = some rest := by
  have hne : b.closing ≠ '"' ∧ b.closing ≠ b.opening := by cases b <;> decide
  rw [skipSame_inside b Nat.one_pos h, skipSame, if_neg hne.1, if_neg hne.2, if_pos rfl,
    if_pos rfl]

theorem jsonSkipNested_spelled (stack : List Bracket) (pieces : List Piece) (rest : List Char) :
    jsonSkipNested stack .quoted (spelled pieces ++ '"' :: rest) =
      jsonSkipNested stack .plain rest :=
  quoted_spelled (fun _ _ => by cases stack <;> rfl) (fun _ _ => by cases stack <;> rfl) pieces rest

theorem jsonSkipNested_quote (stack : List Bracket) (rest : List Char) :
    jsonSkipNested stack .plain ('"' :: rest) = jsonSkipNested stack .quoted rest := if_pos rfl

theorem jsonSkipNested_bare (h : isBare c = true) (stack : List Bracket) (rest : List Char) :
    jsonSkipNested stack .plain (c :: rest) = jsonSkipNested stack .plain rest := by
  rcases isBare_ne h .brace with ⟨hquote, hopen, hclose⟩
  rcases isBare_ne h .square with ⟨-, hopen', hclose'⟩
  exact (if_neg hquote).trans ((if_neg (not_or.2 ⟨hopen, hopen'⟩)).trans
    (if_neg (not_or.2 ⟨hclose, hclose'⟩)))

theorem jsonSkipNested_opening (stack : List Bracket) (b : Bracket) (rest : List Char) :
    jsonSkipNested stack .plain (b.opening :: rest) =
      if stackSize ≤ stack.length then none else jsonSkipNested (b :: stack) .plain rest := by
  cases b with
  | brace | square =>
    exact (if_neg (by decide)).trans (if_pos (by decide))

theorem jsonSkipNested_closing (stack : List Bracket) (b : Bracket) (rest : List Char) :
    jsonSkipNested (b :: stack) .plain (b.closing :: rest) =
      if stack = [] then some rest else jsonSkipNested stack .plain rest := by
  cases b with
  | brace | square =>
    exact (if_neg (by decide)).trans ((if_neg (by decide)).trans
      ((if_pos (by decide)).trans (if_neg (fun h => h rfl))))

/-- Every bracket is taken from the stack by its own closing one, unless the stack is full. -/
theorem jsonSkipNested_inside {stack : List Bracket} (hstack : stack ≠ []) (h : Inside inner)
    (rest : List Char) : jsonSkipNested stack .plain (inner ++ rest) = none ∨
      jsonSkipNested stack .plain (inner ++ rest) = jsonSkipNested stack .plain rest := by
  induction h generalizing stack rest with
  | nil => exact Or.inr rfl
  | bare hc _ ih =>
    rw [List.cons_append, jsonSkipNested_bare hc]
    exact ih hstack rest
  | string pieces _ ih =>
    rw [List.cons_append, List.append_assoc, jsonSkipNested_quote, List.cons_append,
      jsonSkipNested_spelled]
    exact ih hstack rest
  | nested b _ _ ihinner ih =>
    rw [List.cons_append, List.append_assoc, List.cons_append, jsonSkipNested_opening]
    by_cases hfull : stackSize ≤ stack.length
    · rw [if_pos hfull]
      exact Or.inl rfl
    rw [if_neg hfull]
    rcases ihinner (List.cons_ne_nil b stack) (b.closing :: _) with hnone | hsome
    · exact Or.inl hnone
    · rw [hsome, jsonSkipNested_closing, if_neg hstack]
      exact ih hstack rest

theorem jsonSkipNested_nested (b : Bracket) (h : Inside inner) (rest : List Char) :
    jsonSkipNested [b] .plain (inner ++ b.closing :: rest) = none ∨
      jsonSkipNested [b] .plain (inner ++ b.closing :: rest) = some rest := by
  rcases jsonSkipNested_inside (List.cons_ne_nil b []) h (b.closing :: rest) with hnone | hsome
  · exact Or.inl hnone
  · rw [hsome, jsonSkipNested_closing, if_pos rfl]
    exact Or.inr rfl

/-! ### Moving over a value -/

/-- A value that is neither in quotes nor in brackets. -/
def isScalar : Value → Bool
  | .string _ => false
  | .nested _ _ _ => false
  | _ => true

/-- What a scanner has not moved over behind a value: what is bare ends at the comma only. -/
def behind (v : Value) (after : Gap) : List Char := if isScalar v then [] else after.text

/-- What ends a member. -/
def isEnd (c : Char) : Bool := c = ',' ∨ c = '}'

theorem isEnd_isWs (h : isEnd c = true) : Ingest.isWs c = false := by
  rcases of_decide_eq_true h with rfl | rfl <;> rfl

theorem isBlank_isEnd (h : isBlank c = true) : isEnd c = false := by
  rcases of_decide_eq_true h with rfl | rfl | rfl | rfl <;> rfl

theorem isTail_ne {c d : Char} (h : isTail c = true) (hd : isTail d = false) : c ≠ d := by
  rintro rfl
  exact Bool.noConfusion (h.symm.trans hd)

theorem isTail_isEnd (h : isTail c = true) : isEnd c = false := by
  refine decide_eq_false ?_
  rintro (rfl | rfl)
  · exact isTail_ne h (by decide) rfl
  · exact isTail_ne h (by decide) rfl

theorem isTail_isWs (h : isTail c = true) : Ingest.isWs c = false := by
  refine decide_eq_false ?_
  rintro (rfl | rfl | rfl | rfl)
  · exact isTail_ne h (by decide) rfl
  · exact isTail_ne h (by decide) rfl
  · exact isTail_ne h (by decide) rfl
  · exact isTail_ne h (by decide) rfl

theorem isDigit_isTail (h : isDigit c = true) : isTail c = true :=
  decide_eq_true (Or.inl h)

theorem Number.isTail_text (n : Number) : ∀ c ∈ n.text, isTail c = true := by
  intro c hc
  rw [Number.text, List.mem_append, List.mem_append] at hc
  rcases hc with (hc | hc) | hc
  · rw [Number.sign] at hc
    split_ifs at hc
    · rw [List.mem_singleton] at hc
      rw [hc]
      decide
    · cases hc
  · exact isDigit_isTail (n.isDigit_digits c hc)
  · exact n.isTail_tail c hc

/-- No comma and no bracket is in a bare value. -/
theorem isEnd_text {v : Value} (h : isScalar v = true) : ∀ c ∈ v.text, isEnd c = false := by
  cases v with
  | null => exact List.forall_iff_forall_mem.1 (by decide)
  | bool value => cases value <;> exact List.forall_iff_forall_mem.1 (by decide)
  | number n => exact fun c hc => isTail_isEnd (Number.isTail_text n c hc)
  | string pieces => cases h
  | nested b inner hinner => cases h

theorem scalar_ne {v : Value} (h : isScalar v = true) :
    ∀ c ∈ v.text, c ≠ '"' ∧ c ≠ '{' ∧ c ≠ '[' := by
  cases v with
  | null => exact List.forall_iff_forall_mem.1 (by decide)
  | bool value => cases value <;> exact List.forall_iff_forall_mem.1 (by decide)
  | number n =>
    intro c hc
    have htail := Number.isTail_text n c hc
    exact ⟨isTail_ne htail (by decide), isTail_ne htail (by decide),
      isTail_ne htail (by decide)⟩
  | string pieces => cases h
  | nested b inner hinner => cases h

theorem text_cons (v : Value) : ∃ c rest, v.text = c :: rest ∧ Ingest.isWs c = false := by
  cases v with
  | null => exact ⟨_, _, rfl, by decide⟩
  | bool value => cases value <;> exact ⟨_, _, rfl, by decide⟩
  | number n =>
    have hne : n.text ≠ [] := by
      intro hnil
      rw [Number.text, List.append_eq_nil_iff, List.append_eq_nil_iff] at hnil
      exact n.digits_ne hnil.1.2
    rcases List.exists_cons_of_ne_nil hne with ⟨c, rest, htext⟩
    refine ⟨c, rest, htext, isTail_isWs (Number.isTail_text n c ?_)⟩
    rw [htext]
    exact .head _
  | string pieces => exact ⟨_, _, rfl, by decide⟩
  | nested b inner hinner => cases b <;> exact ⟨_, _, rfl, by decide⟩

/-- What is bare is moved over up to the comma, with the blanks behind it. -/
theorem dropWhile_scalar {v : Value} (h : isScalar v = true) (after : Gap) (hc : isEnd c = true)
    (rest : List Char) :
    (v.text ++ (after.text ++ c :: rest)).dropWhile (fun c => c ≠ ',' ∧ c ≠ '}') = c :: rest := by
  have hbare : ∀ {d : Char}, isEnd d = false → decide (d ≠ ',' ∧ d ≠ '}') = true := by
    intro d hd
    exact decide_eq_true (not_or.1 (of_decide_eq_false hd))
  rw [List.dropWhile_append_of_pos fun d hd => hbare (isEnd_text h d hd),
    List.dropWhile_append_of_pos fun d hd => hbare (isBlank_isEnd (after.blank d hd)),
    List.dropWhile_cons_of_neg]
  intro hne
  exact (not_or.2 (of_decide_eq_true hne)) (of_decide_eq_true hc)

theorem skipValueWith_text (skipNested : Bracket → List Char → Option (List Char))
    (before after : Gap) (v : Value) (hc : isEnd c = true) (rest : List Char) :
    skipValueWith skipNested (before.text ++ (v.text ++ (after.text ++ c :: rest))) =
      match v with
      | .nested b inner _ => skipNested b (inner ++ b.closing :: (after.text ++ c :: rest))
      | v => some (behind v after ++ c :: rest) := by
  rcases text_cons v with ⟨d, text, htext, hd⟩
  have hskip : Ingest.skipWs (before.text ++ (v.text ++ (after.text ++ c :: rest))) =
      d :: (text ++ (after.text ++ c :: rest)) := by
    rw [htext, List.cons_append]
    exact skipWs_gap_cons before hd _
  have hbare : isScalar v = true →
      skipValueWith skipNested (before.text ++ (v.text ++ (after.text ++ c :: rest))) =
        some (behind v after ++ c :: rest) := by
    intro hscalar
    have hhead := scalar_ne hscalar d (by rw [htext]; exact .head _)
    rw [skipValueWith, hskip]
    dsimp only
    rw [if_neg hhead.1, if_neg hhead.2.1, if_neg hhead.2.2, ← List.cons_append, ← htext,
      dropWhile_scalar hscalar after hc rest, behind, if_pos hscalar]
    rfl
  cases v with
  | null => exact hbare rfl
  | bool value => exact hbare rfl
  | number n => exact hbare rfl
  | string pieces =>
    cases htext
    rw [skipValueWith, hskip, List.append_assoc, List.singleton_append]
    dsimp only
    rw [if_pos rfl, skipString_spelled]
    rfl
  | nested b inner hinner =>
    cases htext
    rw [skipValueWith, hskip, List.append_assoc, List.singleton_append]
    cases b with
    | brace => rfl
    | square => rfl

theorem paramsSkipValue_text (before after : Gap) (v : Value) (hc : isEnd c = true)
    (rest : List Char) : paramsSkipValue (before.text ++ (v.text ++ (after.text ++ c :: rest))) =
      some (behind v after ++ c :: rest) := by
  rw [paramsSkipValue, skipValueWith_text _ before after v hc rest]
  cases v with
  | nested b inner hinner => exact skipSame_nested b hinner _
  | _ => rfl

theorem jsonSkipValue_text (before after : Gap) (v : Value) (hc : isEnd c = true)
    (rest : List Char) :
    jsonSkipValue (before.text ++ (v.text ++ (after.text ++ c :: rest))) = none ∨
      jsonSkipValue (before.text ++ (v.text ++ (after.text ++ c :: rest))) =
        some (behind v after ++ c :: rest) := by
  rw [jsonSkipValue, skipValueWith_text _ before after v hc rest]
  cases v with
  | nested b inner hinner => exact jsonSkipNested_nested b hinner _
  | _ => exact Or.inr rfl

/-! ### Reading a value -/

/-- What the reader of parameters makes of a value. It knows no fraction, no exponent and
    nothing that is nested. -/
def scanned : Value → Option ParamValue
  | .null => some .null
  | .bool value => some (.bool value)
  | .number n => if n.tail = [] then some (.number n.text) else none
  | .string pieces => some (.string (spelled pieces))
  | .nested _ _ _ => none

theorem isDigit_ne {c d : Char} (h : isDigit c = true) (hd : isDigit d = false) : c ≠ d := by
  rintro rfl
  exact Bool.noConfusion (h.symm.trans hd)

theorem isBlank_isDigit (h : isBlank c = true) : isDigit c = false := by
  rcases of_decide_eq_true h with rfl | rfl | rfl | rfl <;> rfl

theorem isEnd_isDigit (h : isEnd c = true) : isDigit c = false := by
  rcases of_decide_eq_true h with rfl | rfl <;> rfl

theorem Number.head_behind (n : Number) (after : Gap) (hc : isEnd c = true) (rest : List Char) :
    ∃ d text, n.tail ++ (after.text ++ c :: rest) = d :: text ∧ isDigit d = false := by
  cases htail : n.tail with
  | cons d tail => exact ⟨d, _, rfl, n.head_tail d (by rw [htail]; rfl)⟩
  | nil =>
    cases hafter : after.text with
    | nil => exact ⟨c, rest, rfl, isEnd_isDigit hc⟩
    | cons d text =>
      refine ⟨d, _, rfl, isBlank_isDigit (after.blank d ?_)⟩
      rw [hafter]
      exact .head _

theorem readNumber_digits (n : Number) (sign : List Char) (after : Gap) (hc : isEnd c = true)
    (rest : List Char) : readNumber sign (n.digits ++ (n.tail ++ (after.text ++ c :: rest))) =
      .ok (.number (sign ++ n.digits), n.tail ++ (after.text ++ c :: rest)) := by
  rcases Number.head_behind n after hc rest with ⟨d, text, hbehind, hd⟩
  have hneg : ¬isDigit d = true := by
    rw [hd]
    exact Bool.false_ne_true
  rw [readNumber, List.takeWhile_append_of_pos n.isDigit_digits,
    List.dropWhile_append_of_pos n.isDigit_digits, hbehind, List.takeWhile_cons_of_neg hneg,
    List.dropWhile_cons_of_neg hneg, List.append_nil, if_neg n.digits_ne]

theorem readScalar_number (n : Number) (after : Gap) (hc : isEnd c = true) (rest : List Char) :
    readScalar (n.text ++ (after.text ++ c :: rest)) =
      .ok (.number (n.sign ++ n.digits), n.tail ++ (after.text ++ c :: rest)) := by
  rw [Number.text, List.append_assoc, List.append_assoc]
  by_cases hnegative : n.negative = true
  · rw [Number.sign, if_pos hnegative, List.singleton_append]
    exact readNumber_digits n ['-'] after hc rest
  rw [Number.sign, if_neg hnegative, List.nil_append]
  rcases List.exists_cons_of_ne_nil n.digits_ne with ⟨d, digits, hdigits⟩
  have hd : isDigit d = true := n.isDigit_digits d (by rw [hdigits]; exact .head _)
  have hword : ∀ (l : Char) (word text : List Char), isDigit l = false →
      ¬(l :: word).isPrefixOf (d :: text) = true := by
    intro l word text hl hprefix
    rw [List.isPrefixOf, Bool.and_eq_true, beq_iff_eq] at hprefix
    exact isDigit_ne hd hl hprefix.1.symm
  have hnumber := readNumber_digits n [] after hc rest
  rw [hdigits, List.cons_append] at hnumber ⊢
  rw [readScalar, if_neg (isDigit_ne hd (by decide))]
  rw [if_neg (hword 't' _ _ (by decide)), if_neg (hword 'f' _ _ (by decide)),
    if_neg (hword 'n' _ _ (by decide)), if_neg (isDigit_ne hd (by decide))]
  exact hnumber

theorem readFound_text (before after : Gap) (v : Value) (hc : isEnd c = true) (rest : List Char) :
    readFound (before.text ++ (v.text ++ (after.text ++ c :: rest))) =
      match scanned v with
      | some value => .ok value
      | none => .error .invalidArg := by
  rcases text_cons v with ⟨d, text, htext, hd⟩
  have hskip : paramsSkipWs (before.text ++ (v.text ++ (after.text ++ c :: rest))) =
      v.text ++ (after.text ++ c :: rest) := by
    rw [htext, List.cons_append]
    exact skipWs_gap_cons before hd _
  have hend : paramsSkipWs (after.text ++ c :: rest) = c :: rest :=
    skipWs_gap_cons after (isEnd_isWs hc) rest
  have hends : endsValue (c :: rest) = true := hc
  rw [readFound, paramsReadScalar, hskip]
  cases v with
  | null =>
    have hread : readScalar (Value.null.text ++ (after.text ++ c :: rest)) =
        .ok (.null, after.text ++ c :: rest) := rfl
    rw [hread]
    dsimp only
    rw [hend, if_pos hends]
    rfl
  | bool value =>
    have hread : readScalar ((Value.bool value).text ++ (after.text ++ c :: rest)) =
        .ok (.bool value, after.text ++ c :: rest) := by
      cases value <;> rfl
    rw [hread]
    dsimp only
    rw [hend, if_pos hends]
    rfl
  | string pieces =>
    have hread : readScalar ((Value.string pieces).text ++ (after.text ++ c :: rest)) =
        .ok (.string (spelled pieces), after.text ++ c :: rest) := by
      rw [Value.text, List.cons_append, List.append_assoc, List.singleton_append, readScalar,
        if_pos rfl, skipString_spelled]
    rw [hread]
    dsimp only
    rw [hend, if_pos hends]
    rfl
  | number n =>
    rw [Value.text, readScalar_number n after hc rest, scanned]
    dsimp only
    cases htail : n.tail with
    | nil =>
      rw [List.nil_append, hend, if_pos hends, if_pos rfl, Number.text, htail,
        List.append_nil]
    | cons d tail =>
      -- A fraction or an exponent is no end of a value.
      have hd : isTail d = true := n.isTail_tail d (by rw [htail]; exact .head _)
      have hskip : paramsSkipWs (d :: tail ++ (after.text ++ c :: rest)) =
          d :: (tail ++ (after.text ++ c :: rest)) := skipWs_cons (isTail_isWs hd) _
      have hne : ¬endsValue (d :: (tail ++ (after.text ++ c :: rest))) = true := by
        intro h
        exact Bool.noConfusion ((isTail_isEnd hd).symm.trans h)
      rw [hskip, if_neg hne, if_neg (List.cons_ne_nil d tail)]
  | nested b inner hinner =>
    cases b with
    | brace => rfl
    | square => rfl

/-! ### Going through the members -/

/-- The value of the first member of the key, as the reader of parameters comes to it: `none`
    behind a key with an escape. -/
def firstMember (key : String) : List Member → Option (Option Value)
  | [] => some none
  | m :: members =>
    if plain m.key = true then
      if spelled m.key = key.toList then some (some m.value) else firstMember key members
    else none

/-- What `command_executor_params_find` hands back of it. -/
def found : Option (Option Value) → Except EspErr ParamValue
  | none => .error .notSupported
  | some none => .error .notFound
  | some (some v) =>
    match scanned v with
    | some value => .ok value
    | none => .error .invalidArg

theorem Member.text_append (m : Member) (rest : List Char) :
    m.text ++ rest = m.before.text ++ '"' :: (spelled m.key ++ '"' :: (m.afterKey.text ++
      ':' :: (m.beforeValue.text ++ (m.value.text ++ (m.after.text ++ rest))))) := by
  simp [Member.text, Member.pairText]

theorem findMember_text (key : String) (fuel : Nat) (m : Member) (hc : isEnd c = true)
    (rest : List Char) : findMember key (fuel + 1) (m.text ++ c :: rest) =
      if plain m.key = true then
        if spelled m.key = key.toList then found (some (some m.value))
        else if c = ',' then findMember key fuel rest else .error .notFound
      else .error .notSupported := by
  have hquote : paramsSkipWs (m.text ++ c :: rest) = '"' :: (spelled m.key ++ '"' ::
      (m.afterKey.text ++ ':' :: (m.beforeValue.text ++ (m.value.text ++
        (m.after.text ++ c :: rest))))) := by
    rw [Member.text_append]
    exact skipWs_gap_cons m.before (by decide) _
  have hcolon : ∀ text, paramsSkipWs (m.afterKey.text ++ ':' :: text) = ':' :: text :=
    skipWs_gap_cons m.afterKey (by decide)
  rw [findMember, hquote]
  dsimp only
  rw [if_neg (by decide), if_neg (by decide), paramsReadKey, readKey_spelled]
  by_cases hplain : plain m.key = true
  · rw [if_pos hplain, if_pos hplain]
    dsimp only
    rw [hcolon]
    dsimp only
    rw [if_neg (by decide)]
    by_cases hkey : spelled m.key = key.toList
    · rw [if_pos hkey, if_pos hkey, readFound_text _ _ _ hc]
      rfl
    have hbehind : paramsSkipWs (behind m.value m.after ++ c :: rest) = c :: rest := by
      rw [behind]
      split_ifs
      · exact skipWs_cons (isEnd_isWs hc) rest
      · exact skipWs_gap_cons m.after (isEnd_isWs hc) rest
    rw [if_neg hkey, if_neg hkey, paramsSkipValue_text _ _ _ hc]
    dsimp only
    rw [hbehind]
    dsimp only
    by_cases hcomma : c = ','
    · rw [if_pos hcomma, if_pos hcomma]
    · rw [if_neg hcomma, if_neg hcomma, if_pos ((of_decide_eq_true hc).resolve_left hcomma)]
  · rw [if_neg hplain, if_neg hplain]

/-- Every member is met, up to the one that is read. -/
theorem findMember_members (key : String) (m : Member) (members : List Member) {fuel : Nat}
    (hfuel : members.length < fuel) (rest : List Char) :
    findMember key fuel (m.text ++ (furtherText members ++ '}' :: rest)) =
      found (firstMember key (m :: members)) := by
  induction members generalizing m fuel with
  | nil =>
    rcases Nat.exists_eq_succ_of_ne_zero (Nat.ne_of_gt hfuel) with ⟨fuel, rfl⟩
    have hne : ¬ '}' = ',' := by decide
    rw [furtherText, List.flatMap_nil, List.nil_append, findMember_text key fuel m (by decide),
      firstMember, if_neg hne]
    split_ifs <;> rfl
  | cons next members ih =>
    rcases Nat.exists_eq_succ_of_ne_zero (Nat.ne_of_gt (Nat.zero_lt_of_lt hfuel)) with
      ⟨fuel, rfl⟩
    have hbehind : furtherText (next :: members) ++ '}' :: rest =
        ',' :: (next.text ++ (furtherText members ++ '}' :: rest)) := by
      rw [furtherText, List.flatMap_cons, List.append_assoc, List.cons_append]
      rfl
    have hcomma : ',' = ',' := rfl
    rw [hbehind, findMember_text key fuel m (by decide), firstMember, if_pos hcomma,
      ih next (Nat.lt_of_succ_lt_succ hfuel)]
    split_ifs <;> rfl

theorem length_furtherText (members : List Member) :
    members.length ≤ (furtherText members).length := by
  induction members with
  | nil => exact Nat.le_refl 0
  | cons m members ih =>
    rw [furtherText, List.flatMap_cons, List.length_append, List.length_cons, List.length_cons]
    rw [furtherText] at ih
    omega

theorem paramsFind_text (d : Document) (key : String) :
    paramsFind d.text key = found (firstMember key d.members) := by
  have hopen : paramsSkipWs d.text = '{' :: (membersText d.empty d.members ++ '}' :: d.rest) :=
    skipWs_gap_cons d.lead (by decide) _
  rw [paramsFind, hopen]
  dsimp only
  rw [if_pos rfl]
  cases hmembers : d.members with
  | nil =>
    have hclose : paramsSkipWs (membersText d.empty [] ++ '}' :: d.rest) = '}' :: d.rest :=
      skipWs_gap_cons d.empty (by decide) _
    rw [findMember, hclose]
    rfl
  | cons m members =>
    have hfuel : members.length <
        (membersText d.empty (m :: members) ++ '}' :: d.rest).length + 1 := by
      have hle := length_furtherText members
      rw [membersText, List.length_append, List.length_append]
      omega
    rw [← findMember_members key m members hfuel d.rest, membersText, List.append_assoc]

end SceneHub.Executor
