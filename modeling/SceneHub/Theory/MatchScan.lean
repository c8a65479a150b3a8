import Mathlib.Tactic.Common
import SceneHub.JsonMatch

/-!
# Scanning for a Match

What the comparison of event arguments does on any two texts, JSON or not. Each turn of a
loop leaves a shorter text, so that the fuel of the model is never used up. The answer is
yes only if the expected text is read to its closing brace, and each pair that was read has
a pair of its key among those that are read of the actual text up to its end or to a defect.

## Main definitions

* `PairsRead`: The pairs that are read from a cursor.
* `Contains`: The rule of the comparison.

## Theorems

* `skipNested_fuel`: More fuel changes nothing.
* `exists_pairsRead`: Every text is read to an end.
* `containsWithin_iff`: The code answers by the rule.
-/

namespace SceneHub.JsonMatch

/-! ### Each turn leaves a shorter text -/

theorem length_skipWs_le (p : List Char) : (skipWs p).length ≤ p.length :=
  (List.dropWhile_suffix _).length_le

theorem skipStringBody_cons (c : Char) (p : List Char) : skipStringBody (c :: p) =
      if c = backslashChar then (match p with | [] => none | _ :: rest => skipStringBody rest)
      else if c = quoteChar then some p else skipStringBody p := by
  exact (skipStringBody.eq_def _).trans rfl

theorem skipNested_cons (fuel : Nat) (stack : List Char) (c : Char) (p : List Char) :
    skipNested (fuel + 1) stack (c :: p) =
      if c = quoteChar then (match skipStringBody p with
        | none => none
        | some rest => skipNested fuel stack rest)
      else if c = openBrace ∨ c = openBracket then
        if nestingMax ≤ stack.length then none else skipNested fuel (c :: stack) p
      else if c = closeBrace ∨ c = closeBracket then (match stack with
        | [] => none
        | top :: below =>
          if c ≠ (if top = openBrace then closeBrace else closeBracket) then none
          else if below = [] then some p else skipNested fuel below p)
      else skipNested fuel stack p := by
  exact (skipNested.eq_def _ _ _).trans rfl

theorem length_skipStringBody {p rest : List Char} (h : skipStringBody p = some rest) :
    rest.length < p.length := by
  induction hn : p.length using Nat.strongRecOn generalizing p with
  | ind n ih =>
    cases p with
    | nil => cases h
    | cons c p =>
      rw [List.length_cons] at hn
      rw [skipStringBody_cons] at h
      split_ifs at h with hslash hquote
      · cases p with
        | nil => cases h
        | cons d p =>
          rw [List.length_cons] at hn
          have hlt := ih p.length (by omega) h rfl
          omega
      · cases h
        omega
      · have hlt := ih p.length (by omega) h rfl
        omega

theorem length_skipNested {fuel : Nat} {stack p rest : List Char}
    (h : skipNested fuel stack p = some rest) : rest.length < p.length := by
  induction fuel generalizing stack p with
  | zero => cases h
  | succ fuel ih =>
    cases p with
    | nil => cases h
    | cons c p =>
      rw [List.length_cons]
      rw [skipNested_cons] at h
      split_ifs at h with hquote hopen hfull hclose
      · split at h
        · cases h
        rename_i p' hbody
        have hshort := length_skipStringBody hbody
        have hlt := ih h
        omega
      · have hlt := ih h
        omega
      · cases stack with
        | nil => cases h
        | cons top below =>
          dsimp only at h
          by_cases hmatch : c ≠ (if top = openBrace then closeBrace else closeBracket)
          · rw [if_pos hmatch] at h
            cases h
          rw [if_neg hmatch] at h
          by_cases hlast : below = []
          · rw [if_pos hlast] at h
            cases h
            exact Nat.lt_succ_self _
          · rw [if_neg hlast] at h
            have hlt := ih h
            omega
      · have hlt := ih h
        omega

/-- The loop over brackets has come to its end before the fuel is used up. -/
theorem skipNested_fuel {fuel more : Nat} {stack p : List Char} (h : p.length < fuel)
    (hmore : p.length < more) : skipNested fuel stack p = skipNested more stack p := by
  induction fuel generalizing more stack p with
  | zero => exact absurd h (Nat.not_lt_zero _)
  | succ fuel ih =>
    cases more with
    | zero => exact absurd hmore (Nat.not_lt_zero _)
    | succ more =>
      cases p with
      | nil => rfl
      | cons c p =>
        rw [List.length_cons] at h hmore
        have hnext : ∀ stack' p', p'.length ≤ p.length →
            skipNested fuel stack' p' = skipNested more stack' p' := by
          intro stack' p' hle
          exact ih (by omega) (by omega)
        rw [skipNested_cons, skipNested_cons]
        split_ifs with hquote hopen hfull hclose
        · cases hbody : skipStringBody p with
          | none => rfl
          | some p' => exact hnext _ _ (Nat.le_of_lt (length_skipStringBody hbody))
        · rfl
        · exact hnext _ _ (Nat.le_refl _)
        · cases stack with
          | nil => rfl
          | cons top below =>
            dsimp only
            rw [hnext below p (Nat.le_refl _)]
        · exact hnext _ _ (Nat.le_refl _)

theorem length_skipValue {cursor rest : List Char} (h : skipValue cursor = some rest) :
    rest.length ≤ cursor.length := by
  have hws := length_skipWs_le cursor
  rw [skipValue] at h
  cases hskip : skipWs cursor with
  | nil =>
    rw [hskip] at h
    cases h
  | cons c p =>
    rw [hskip] at h
    rw [hskip, List.length_cons] at hws
    dsimp only at h
    split_ifs at h with hquote hopen
    · have hlt := length_skipStringBody h
      omega
    · have hlt := length_skipNested h
      omega
    cases h
    have hle := (List.dropWhile_suffix (fun d => decide (d ≠ commaChar ∧ d ≠ closeBrace))
      (l := c :: p)).length_le
    rw [List.length_cons] at hle
    omega

theorem length_readKey {p key rest : List Char} (h : readKey p = some (key, rest)) :
    rest.length < p.length := by
  induction p generalizing key with
  | nil => cases h
  | cons c p ih =>
    rw [List.length_cons]
    rw [readKey] at h
    split_ifs at h with hslash hquote
    · cases h
      exact Nat.lt_succ_self _
    cases hkey : readKey p with
    | none =>
      rw [hkey] at h
      cases h
    | some r =>
      rcases r with ⟨key', rest'⟩
      rw [hkey] at h
      cases h
      have hlt := ih hkey
      omega

theorem nextPair_shorter {cursor key value rest : List Char}
    (h : nextPair cursor = .pair key value rest) :
    rest.length < cursor.length ∧ value.length < cursor.length := by
  have hws := length_skipWs_le cursor
  rw [nextPair] at h
  split at h
  · cases h
  rename_i c p hstart
  rw [hstart, List.length_cons] at hws
  dsimp only at h
  split_ifs at h with hclose hquote
  cases hkey : readKey p with
  | none =>
    rw [hkey] at h
    cases h
  | some r =>
    rcases r with ⟨key', behindKey⟩
    rw [hkey] at h
    have hbehind := length_readKey hkey
    have hws' := length_skipWs_le behindKey
    dsimp only at h
    cases hcolon : skipWs behindKey with
    | nil =>
      rw [hcolon] at h
      cases h
    | cons d q =>
      rw [hcolon] at h
      rw [hcolon, List.length_cons] at hws'
      dsimp only at h
      split_ifs at h with hd
      have hws'' := length_skipWs_le q
      cases hvalue : skipValue (skipWs q) with
      | none =>
        rw [hvalue] at h
        cases h
      | some valueEnd =>
        rw [hvalue] at h
        have hend := length_skipValue hvalue
        have hws''' := length_skipWs_le valueEnd
        have hview := List.length_take_le ((skipWs q).length - valueEnd.length)
          (skipWs q)
        dsimp only at h
        cases hlast : skipWs valueEnd with
        | nil =>
          rw [hlast] at h
          cases h
        | cons e r =>
          rw [hlast] at h
          rw [hlast, List.length_cons] at hws'''
          dsimp only at h
          split_ifs at h with hcomma hbrace
          · cases h
            omega
          cases h
          rw [List.length_cons]
          omega

/-! ### The pairs of a text -/

/-- The pairs that are read from a cursor, and whether the closing brace is what ends them. -/
inductive PairsRead : List Char → List (List Char × List Char) → Bool → Prop where
  | closed {p : List Char} (h : nextPair p = .closed) : PairsRead p [] true
  | defect {p : List Char} (h : nextPair p = .invalid) : PairsRead p [] false
  | pair {p key value rest : List Char} {pairs : List (List Char × List Char)} {closed : Bool}
      (h : nextPair p = .pair key value rest) (further : PairsRead rest pairs closed) :
      PairsRead p ((key, value) :: pairs) closed

theorem exists_pairsRead (p : List Char) : ∃ pairs closed, PairsRead p pairs closed := by
  induction hn : p.length using Nat.strongRecOn generalizing p with
  | ind n ih =>
    cases hnext : nextPair p with
    | closed => exact ⟨[], true, .closed hnext⟩
    | invalid => exact ⟨[], false, .defect hnext⟩
    | pair key value rest =>
      have hlt := (nextPair_shorter hnext).1
      rcases ih rest.length (by omega) rest rfl with ⟨pairs, closed, hread⟩
      exact ⟨(key, value) :: pairs, closed, .pair hnext hread⟩

theorem PairsRead.unique {p : List Char} {pairs others : List (List Char × List Char)}
    {closed closed' : Bool} (h : PairsRead p pairs closed) (h' : PairsRead p others closed') :
    pairs = others ∧ closed = closed' := by
  induction h generalizing others closed' with
  | closed hnext =>
    cases h' with
    | closed _ => exact ⟨rfl, rfl⟩
    | defect hnext' | pair hnext' _ =>
      rw [hnext] at hnext'
      cases hnext'
  | defect hnext =>
    cases h' with
    | closed hnext' | pair hnext' _ =>
      rw [hnext] at hnext'
      cases hnext'
    | defect _ => exact ⟨rfl, rfl⟩
  | pair hnext _ ih =>
    cases h' with
    | closed hnext' | defect hnext' =>
      rw [hnext] at hnext'
      cases hnext'
    | pair hnext' hread' =>
      rw [hnext] at hnext'
      cases hnext'
      rcases ih hread' with ⟨rfl, rfl⟩
      exact ⟨rfl, rfl⟩

def firstValue (key : List Char) : List (List Char × List Char) → Option (List Char)
  | [] => none
  | (k, value) :: pairs => if k = key then some value else firstValue key pairs

theorem findPairLoop_eq {fuel : Nat} {p key : List Char} {pairs : List (List Char × List Char)}
    {closed : Bool} (hfuel : p.length < fuel) (h : PairsRead p pairs closed) :
    findPairLoop fuel p key = firstValue key pairs := by
  induction h generalizing fuel with
  | closed hnext | defect hnext =>
    cases fuel with
    | zero => rfl
    | succ fuel =>
      rw [findPairLoop, hnext]
      rfl
  | pair hnext _ ih =>
    cases fuel with
    | zero => exact absurd hfuel (Nat.not_lt_zero _)
    | succ fuel =>
      have hlt := (nextPair_shorter hnext).1
      rw [findPairLoop, hnext, firstValue]
      dsimp only
      rw [ih (by omega)]

/-- The text has a value for the key, among the pairs in front of a defect. -/
def HasValue (json key value : List Char) : Prop :=
  key ≠ [] ∧ ∃ rest pairs closed, skipWs json = openBrace :: rest ∧
    PairsRead rest pairs closed ∧ firstValue key pairs = some value

theorem findPairView_iff {json key value : List Char} :
    findPairView json key = some value ↔ HasValue json key value := by
  unfold findPairView HasValue
  by_cases hkey : key = []
  · rw [if_pos hkey]
    exact ⟨fun h => absurd h (by simp), fun h => absurd hkey h.1⟩
  rw [if_neg hkey]
  cases hskip : skipWs json with
  | nil => exact ⟨fun h => absurd h (by simp), fun ⟨_, _, _, _, h, _⟩ => absurd h (by simp)⟩
  | cons c rest =>
    dsimp only
    by_cases hopen : c ≠ openBrace
    · rw [if_pos hopen]
      refine ⟨fun h => absurd h (by simp), ?_⟩
      rintro ⟨-, _, _, _, h, -⟩
      exact absurd (List.cons.inj h).1 hopen
    rw [if_neg hopen]
    rcases exists_pairsRead rest with ⟨pairs, closed, hread⟩
    rw [findPairLoop_eq (Nat.lt_succ_self _) hread]
    constructor
    · intro h
      refine ⟨hkey, rest, pairs, closed, ?_, hread, h⟩
      rw [not_not.1 hopen]
    rintro ⟨-, rest', pairs', closed', h, hread', hvalue⟩
    rcases List.cons.inj h with ⟨-, rfl⟩
    rw [(hread.unique hread').1]
    exact hvalue

/-! ### The rule -/

/-- Both values are objects, once the blanks around them are left out. -/
def BothObjects (expected actual : List Char) : Prop :=
  2 ≤ (trim expected).length ∧ (trim expected).head? = some openBrace ∧
    (trim actual).head? = some openBrace

instance (expected actual : List Char) : Decidable (BothObjects expected actual) :=
  inferInstanceAs (Decidable (_ ∧ _))

/-- There is room for a nested object in the buffer it is copied to. -/
def Fits (json : List Char) : Prop := json.length < payloadMaxLen

mutual
/-- The expected text is read to its closing brace, and the actual one has each of its pairs. -/
inductive Contains : List Char → List Char → Prop where
  | object {expected actual rest : List Char} {pairs : List (List Char × List Char)}
      (hopen : skipWs expected = openBrace :: rest) (hread : PairsRead rest pairs true)
      (hall : ContainsAll pairs actual) : Contains expected actual

inductive ContainsAll : List (List Char × List Char) → List Char → Prop where
  | nil {actual : List Char} : ContainsAll [] actual
  | cons {key value value' actual : List Char} {pairs : List (List Char × List Char)}
      (hvalue : HasValue actual key value') (hmatch : ValueMatches value value')
      (hall : ContainsAll pairs actual) : ContainsAll ((key, value) :: pairs) actual

inductive ValueMatches : List Char → List Char → Prop where
  | object {value value' : List Char} (hboth : BothObjects value value')
      (hfits : Fits (trim value)) (hfits' : Fits (trim value'))
      (h : Contains (trim value) (trim value')) : ValueMatches value value'
  | text {value value' : List Char} (hboth : ¬BothObjects value value')
      (h : trim value = trim value') : ValueMatches value value'
end

theorem length_trim_le (view : List Char) : (trim view).length ≤ view.length := by
  unfold trim
  rw [List.length_reverse]
  have hle := (List.dropWhile_suffix isWs (l := (skipWs view).reverse)).length_le
  rw [List.length_reverse] at hle
  exact Nat.le_trans hle (length_skipWs_le view)

theorem valuesMatch_iff {contains : List Char → List Char → Bool} {value value' : List Char}
    (h : contains (trim value) (trim value') = true ↔ Contains (trim value) (trim value')) :
    valuesMatch contains value value' = true ↔ ValueMatches value value' := by
  unfold valuesMatch
  by_cases hboth : BothObjects value value'
  · have hcond := hboth
    unfold BothObjects at hcond
    rw [if_pos hcond]
    by_cases hlong : payloadMaxLen < (trim value).length + 1 ∨
        payloadMaxLen < (trim value').length + 1
    · rw [if_pos hlong]
      refine ⟨fun hfalse => absurd hfalse Bool.false_ne_true, fun hmatch => ?_⟩
      cases hmatch with
      | object _ hfits hfits' _ =>
        unfold Fits at hfits hfits'
        omega
      | text hnot _ => exact absurd hboth hnot
    rw [if_neg hlong, h]
    rw [not_or] at hlong
    constructor
    · intro hcontains
      refine .object hboth ?_ ?_ hcontains
      · unfold Fits
        omega
      · unfold Fits
        omega
    · intro hmatch
      cases hmatch with
      | object _ _ _ hcontains => exact hcontains
      | text hnot _ => exact absurd hboth hnot
  · have hcond := hboth
    unfold BothObjects at hcond
    rw [if_neg hcond, decide_eq_true_eq]
    constructor
    · exact fun heq => .text hboth heq
    intro hmatch
    cases hmatch with
    | object hboth' _ _ _ => exact absurd hboth' hboth
    | text _ heq => exact heq

theorem containsLoop_iff {contains : List Char → List Char → Bool} {bound : Nat}
    (h : ∀ value value', value.length < bound → (contains value value' = true ↔
      Contains value value'))
    {fuel : Nat} {p actual : List Char} (hbound : p.length ≤ bound) (hfuel : p.length < fuel) :
    containsLoop contains fuel p actual = true ↔
      ∃ pairs, PairsRead p pairs true ∧ ContainsAll pairs actual := by
  induction fuel generalizing p with
  | zero => exact absurd hfuel (Nat.not_lt_zero _)
  | succ fuel ih =>
    rw [containsLoop]
    cases hnext : nextPair p with
    | closed => exact ⟨fun _ => ⟨[], .closed hnext, .nil⟩, fun _ => rfl⟩
    | invalid =>
      refine ⟨fun hfalse => absurd hfalse Bool.false_ne_true, ?_⟩
      rintro ⟨pairs, hread, -⟩
      exact absurd (hread.unique (.defect hnext)).2 (by decide)
    | pair key value rest =>
      rcases nextPair_shorter hnext with ⟨hrest, hvalue⟩
      have htrim := length_trim_le value
      dsimp only
      have hread : ∀ {pairs}, PairsRead p pairs true →
          ∃ further, pairs = (key, value) :: further ∧ PairsRead rest further true := by
        intro pairs hpairs
        rcases exists_pairsRead rest with ⟨further, closed, hfurther⟩
        rcases hpairs.unique (.pair hnext hfurther) with ⟨rfl, hclosed⟩
        rw [← hclosed] at hfurther
        exact ⟨further, rfl, hfurther⟩
      cases hfind : findPairView actual key with
      | none =>
        refine ⟨fun hfalse => absurd hfalse Bool.false_ne_true, ?_⟩
        rintro ⟨pairs, hpairs, hall⟩
        rcases hread hpairs with ⟨further, rfl, -⟩
        cases hall with
        | cons hhas _ _ =>
          rw [findPairView_iff.2 hhas] at hfind
          cases hfind
      | some value' =>
        rw [Bool.and_eq_true, valuesMatch_iff (h _ _ (by omega)),
          ih (by omega) (by omega)]
        constructor
        · rintro ⟨hmatch, further, hfurther, hall⟩
          exact ⟨_, .pair hnext hfurther, .cons (findPairView_iff.1 hfind) hmatch hall⟩
        rintro ⟨pairs, hpairs, hall⟩
        rcases hread hpairs with ⟨further, rfl, hfurther⟩
        cases hall with
        | cons hhas hmatch hall =>
          rw [findPairView_iff.2 hhas] at hfind
          cases hfind
          exact ⟨hmatch, further, hfurther, hall⟩

theorem nextPair_emptyObject {expected rest : List Char} (hempty : isEmptyObject expected = true)
    (hopen : skipWs expected = openBrace :: rest) : nextPair rest = .closed := by
  unfold isEmptyObject at hempty
  rw [hopen] at hempty
  dsimp only at hempty
  rw [if_neg (not_not.2 rfl)] at hempty
  split at hempty
  · cases hempty
  rename_i d p hskip
  rw [nextPair, hskip]
  dsimp only
  rw [if_pos (of_decide_eq_true hempty)]

/-- Whatever the texts are, the answer is the one of the rule. -/
theorem containsWithin_iff {n : Nat} {expected actual : List Char} (h : expected.length < n) :
    containsWithin n expected actual = true ↔ Contains expected actual := by
  induction n generalizing expected actual with
  | zero => exact absurd h (Nat.not_lt_zero _)
  | succ n ih =>
    have hws := length_skipWs_le expected
    rw [containsWithin]
    by_cases hempty : isEmptyObject expected = true
    · rw [if_pos hempty]
      refine ⟨fun _ => ?_, fun _ => rfl⟩
      have hskip := hempty
      unfold isEmptyObject at hskip
      split at hskip
      · cases hskip
      rename_i c rest hopen
      by_cases hbrace : c ≠ openBrace
      · rw [if_pos hbrace] at hskip
        cases hskip
      · rw [not_not.1 hbrace] at hopen
        exact .object hopen (.closed (nextPair_emptyObject hempty hopen)) .nil
    rw [if_neg hempty]
    cases hopen : skipWs expected with
    | nil =>
      refine ⟨fun hfalse => absurd hfalse Bool.false_ne_true, fun hcontains => ?_⟩
      cases hcontains with
      | object hopen' _ _ =>
        rw [hopen] at hopen'
        cases hopen'
    | cons c rest =>
      rw [hopen, List.length_cons] at hws
      dsimp only
      by_cases hbrace : c ≠ openBrace
      · rw [if_pos hbrace]
        refine ⟨fun hfalse => absurd hfalse Bool.false_ne_true, fun hcontains => ?_⟩
        cases hcontains with
        | object hopen' _ _ =>
          rw [hopen] at hopen'
          exact absurd (List.cons.inj hopen').1 hbrace
      rw [if_neg hbrace]
      -- a value in the text is shorter than the text, so that the fuel suffices
      have hloop := @containsLoop_iff (containsWithin n) n (fun _ _ hlt => ih hlt)
        (rest.length + 1) rest actual (by omega) (Nat.lt_succ_self _)
      rw [hloop]
      rw [not_not.1 hbrace] at hopen
      constructor
      · rintro ⟨pairs, hread, hall⟩
        exact .object hopen hread hall
      intro hcontains
      cases hcontains with
      | object hopen' hread hall =>
        rw [hopen] at hopen'
        cases hopen'
        exact ⟨_, hread, hall⟩

end SceneHub.JsonMatch
