import SceneHub.Lib.Codec
import SceneHub.Theory.CheckedParams

/-!
# The Arguments in a Message

What a message to a device has for its arguments. The members of the default arguments and
of the parameters are copied as they are written, so that the arguments are an object again:
the default arguments whose keys are not written in the parameters, and then all the
parameters, a repeated key as often as it is there.

## Main definitions

* `copied`: A member as it is copied.
* `argsDocument`: The arguments as an object.
* `payloadHead`, `payloadTail`: The message around them.

## Theorems

* `jsonNextPair_found`, `jsonNextPair_text`: A member is found as it is written, or not at all.
* `putPairs_members`, `hasKey_members`: Going through all members.
* `buildCommandPayload_eq`: The message that is built.
-/

namespace SceneHub.Executor

open JsonText
open Lib (bind_eq_ok_iff)

variable {skip : List Char → Bool} {result : List Char × Bool} {rest written : List Char}
  {first : Bool}

/-! ### Members -/

def noGap : Gap := ⟨[], List.forall_mem_nil _⟩

/-- A member as it is copied. Behind a value that is bare the blanks are copied too. -/
def copied (m : Member) : Member :=
  { m with before := noGap, after := if isScalar m.value then m.after else noGap }

theorem copied_text (m : Member) (rest : List Char) :
    (copied m).text ++ (behind m.value m.after ++ rest) = m.pairText ++ (m.after.text ++ rest) := by
  rw [Member.text, copied, behind]
  split_ifs with hscalar
  · rw [List.append_assoc, List.append_assoc]
    rfl
  · rw [List.append_assoc, List.append_assoc]
    rfl

theorem upTo_append (text cursor : List Char) : upTo (text ++ cursor) cursor = text := by
  rw [upTo, List.length_append, Nat.add_sub_cancel, List.take_left]

theorem jsonNextPair_key (m : Member) (c : Char) (rest : List Char) :
    jsonNextPair (m.text ++ c :: rest) =
      if plain m.key = true then
        pairValue ('"' :: (spelled m.key ++ '"' :: (m.afterKey.text ++ ':' ::
          (m.beforeValue.text ++ (m.value.text ++ (m.after.text ++ c :: rest)))))) (spelled m.key)
          (m.afterKey.text ++ ':' :: (m.beforeValue.text ++ (m.value.text ++
            (m.after.text ++ c :: rest))))
      else .error .notSupported := by
  have hquote : Ingest.skipWs (m.text ++ c :: rest) = '"' :: (spelled m.key ++ '"' ::
      (m.afterKey.text ++ ':' :: (m.beforeValue.text ++ (m.value.text ++
        (m.after.text ++ c :: rest))))) := by
    rw [Member.text_append]
    exact skipWs_gap_cons m.before (by decide) _
  rw [jsonNextPair, hquote]
  dsimp only
  rw [if_neg (by decide), if_neg (by decide), readKey_spelled]
  split_ifs <;> rfl

theorem jsonNextPair_found (m : Member) {c : Char} (hc : isEnd c = true) (rest : List Char)
    (hplain : plain m.key = true)
    (hskip : jsonSkipValue (m.beforeValue.text ++ (m.value.text ++ (m.after.text ++ c :: rest))) =
      some (behind m.value m.after ++ c :: rest)) : jsonNextPair (m.text ++ c :: rest) =
      .ok (.pair (copied m).text (spelled m.key) (if c = ',' then rest else c :: rest)) := by
  have hcolon : ∀ text, Ingest.skipWs (m.afterKey.text ++ ':' :: text) = ':' :: text :=
    skipWs_gap_cons m.afterKey (by decide)
  have hbehind : Ingest.skipWs (behind m.value m.after ++ c :: rest) = c :: rest := by
    rw [behind]
    split_ifs
    · exact skipWs_cons (isEnd_isWs hc) rest
    · exact skipWs_gap_cons m.after (isEnd_isWs hc) rest
  -- What is copied goes from the quote to where the value ends.
  have hpair : upTo ('"' :: (spelled m.key ++ '"' :: (m.afterKey.text ++ ':' ::
      (m.beforeValue.text ++ (m.value.text ++ (m.after.text ++ c :: rest))))))
      (behind m.value m.after ++ c :: rest) = (copied m).text := by
    rw [← upTo_append (copied m).text (behind m.value m.after ++ c :: rest), copied_text,
      Member.pairText]
    simp
  rw [jsonNextPair_key, if_pos hplain, pairValue, hcolon]
  dsimp only
  rw [if_neg (by decide), hskip]
  dsimp only
  rw [hbehind]
  dsimp only
  rw [hpair]
  by_cases hcomma : c = ','
  · rw [if_pos hcomma, if_pos hcomma]
  · rw [if_neg hcomma, if_neg hcomma, if_pos ((of_decide_eq_true hc).resolve_left hcomma)]

/-- A member is found if its key is plain and its brackets fit the stack. -/
theorem jsonNextPair_text (m : Member) {c : Char} (hc : isEnd c = true) (rest : List Char) :
    (∃ err, jsonNextPair (m.text ++ c :: rest) = .error err) ∨
      plain m.key = true ∧ jsonNextPair (m.text ++ c :: rest) =
        .ok (.pair (copied m).text (spelled m.key) (if c = ',' then rest else c :: rest)) := by
  by_cases hplain : plain m.key = true
  · rcases jsonSkipValue_text m.beforeValue m.after m.value hc rest with hnone | hsome
    · left
      have hcolon : ∀ text, Ingest.skipWs (m.afterKey.text ++ ':' :: text) = ':' :: text :=
        skipWs_gap_cons m.afterKey (by decide)
      rw [jsonNextPair_key, if_pos hplain, pairValue, hcolon]
      dsimp only
      rw [if_neg (by decide), hnone]
      exact ⟨_, rfl⟩
    · exact Or.inr ⟨hplain, jsonNextPair_found m hc rest hplain hsome⟩
  · left
    rw [jsonNextPair_key, if_neg hplain]
    exact ⟨_, rfl⟩

/-! ### Going through the members -/

/-- Members behind each other, with a comma in front of the first one if it is not the first
    of all. -/
def joined : Bool → List Member → List Char
  | _, [] => []
  | first, m :: members => (if first then [] else [',']) ++ (m.text ++ joined false members)

theorem joined_append (first : Bool) (members further : List Member) :
    joined first (members ++ further) =
      joined first members ++ joined (first && members.isEmpty) further := by
  induction members generalizing first with
  | nil => rw [List.nil_append, List.isEmpty_nil, Bool.and_true]; rfl
  | cons m members ih =>
    rw [List.cons_append, joined, ih, joined, List.isEmpty_cons, Bool.and_false, Bool.false_and,
      List.append_assoc, List.append_assoc]

theorem joined_false (members : List Member) : joined false members = furtherText members := by
  induction members with
  | nil => rfl
  | cons m members ih =>
    rw [joined, ih, furtherText, furtherText, List.flatMap_cons]
    rfl

theorem joined_true (members : List Member) : joined true members = membersText noGap members := by
  cases members with
  | nil => rfl
  | cons m members =>
    rw [joined, joined_false]
    rfl

theorem writerPutn_ok {written text result : List Char}
    (h : writerPutn written text = .ok result) : result = written ++ text := by
  unfold writerPutn at h
  split_ifs at h
  exact (Except.ok.inj h).symm

theorem writerPutPair_ok {written pair result : List Char}
    (h : writerPutPair written pair first = .ok result) :
    result = written ++ ((if first then [] else [',']) ++ pair) := by
  unfold writerPutPair at h
  by_cases hfirst : first = true
  · rw [if_pos hfirst] at h
    rw [if_pos hfirst, List.nil_append]
    exact writerPutn_ok h
  rw [if_neg hfirst] at h
  rw [if_neg hfirst]
  split at h
  · cases h
  rename_i written' hcomma
  rw [writerPutn_ok h, writerPutn_ok hcomma, List.append_assoc]

/-- The members that are copied. -/
def kept (skip : List Char → Bool) (members : List Member) : List Member :=
  (members.filter fun m => !skip (spelled m.key)).map copied

/-- What is written, and whether the next member is the first one, when members are copied. -/
def putKept (skip : List Char → Bool) (members : List Member) (written : List Char)
    (first : Bool) : List Char × Bool :=
  (written ++ joined first (kept skip members), first && (kept skip members).isEmpty)

theorem putKept_nil (skip : List Char → Bool) (written : List Char) (first : Bool) :
    putKept skip [] written first = (written, first) := by
  rw [putKept, kept, List.filter_nil, List.map_nil, joined, List.append_nil, List.isEmpty_nil,
    Bool.and_true]

theorem putKept_cons_skip {m : Member} (h : skip (spelled m.key) = true) (members : List Member)
    (written : List Char) (first : Bool) :
    putKept skip (m :: members) written first = putKept skip members written first := by
  have hkept : kept skip (m :: members) = kept skip members := by
    rw [kept, List.filter_cons_of_neg (by rw [h]; exact Bool.false_ne_true)]
    rfl
  rw [putKept, putKept, hkept]

theorem putKept_cons_copy {m : Member} (h : ¬skip (spelled m.key) = true) (members : List Member)
    (written : List Char) (first : Bool) : putKept skip (m :: members) written first =
      putKept skip members (written ++ ((if first then [] else [',']) ++ (copied m).text))
        false := by
  have hkept : kept skip (m :: members) = copied m :: kept skip members := by
    rw [kept, List.filter_cons_of_pos (by rw [Bool.not_eq_true _ |>.mp h]; rfl)]
    rfl
  rw [putKept, putKept, hkept, joined, List.isEmpty_cons, Bool.and_false, Bool.false_and,
    List.append_assoc, List.append_assoc]

theorem furtherText_cons (m : Member) (members : List Member) (rest : List Char) :
    furtherText (m :: members) ++ rest = ',' :: (m.text ++ (furtherText members ++ rest)) := by
  rw [furtherText, List.flatMap_cons, List.append_assoc, List.cons_append]
  rfl

theorem jsonNextPair_close (rest : List Char) :
    jsonNextPair ('}' :: rest) = .ok (.close rest) := rfl

/-- A member that the loop gets past was found, and was copied or skipped. -/
theorem putPairs_text (m : Member) {c : Char} (hc : isEnd c = true) {fuel : Nat}
    (h : putPairs skip (fuel + 1) (m.text ++ c :: rest) written first = .ok result) :
    plain m.key = true ∧ jsonNextPair (m.text ++ c :: rest) =
        .ok (.pair (copied m).text (spelled m.key) (if c = ',' then rest else c :: rest)) ∧
      ∃ written' first', putPairs skip fuel (if c = ',' then rest else c :: rest) written' first' =
          .ok result ∧
        ∀ members, putKept skip (m :: members) written first =
          putKept skip members written' first' := by
  rw [putPairs] at h
  rcases jsonNextPair_text m hc rest with ⟨err, herr⟩ | ⟨hplain, hpair⟩
  · rw [herr] at h
    cases h
  rw [hpair] at h
  dsimp only at h
  refine ⟨hplain, hpair, ?_⟩
  by_cases hskip : skip (spelled m.key) = true
  · rw [if_pos hskip] at h
    exact ⟨written, first, h, fun members => putKept_cons_skip hskip members written first⟩
  rw [if_neg hskip] at h
  split at h
  · cases h
  rename_i written' hput
  refine ⟨written', false, h, fun members => ?_⟩
  rw [writerPutPair_ok hput]
  exact putKept_cons_copy hskip members written first

theorem putPairs_close {skip : List Char → Bool} {fuel : Nat} {rest written : List Char}
    {first : Bool} {result : List Char × Bool}
    (h : putPairs skip fuel ('}' :: rest) written first = .ok result) :
    result = putKept skip [] written first := by
  cases fuel with
  | zero => cases h
  | succ fuel =>
    rw [putPairs, jsonNextPair_close] at h
    rw [putKept_nil]
    exact (Except.ok.inj h).symm

/-- A loop that gets through all members has found each of them with a plain key, and has copied
    those it does not skip. Over the same text the search for a key gets through as well. -/
theorem putPairs_members {skip : List Char → Bool} (m : Member) (members : List Member)
    {fuel : Nat} {rest written : List Char} {first : Bool} {result : List Char × Bool}
    (h : putPairs skip fuel (m.text ++ (furtherText members ++ '}' :: rest)) written first =
      .ok result) :
    (∀ x ∈ m :: members, plain x.key = true) ∧
      result = putKept skip (m :: members) written first ∧
      ∀ key, hasKey key fuel (m.text ++ (furtherText members ++ '}' :: rest)) =
        (m :: members).any fun x => spelled x.key = key := by
  induction members generalizing m fuel written first with
  | nil =>
    cases fuel with
    | zero => cases h
    | succ fuel =>
      rw [furtherText, List.flatMap_nil, List.nil_append] at h ⊢
      rcases putPairs_text m (by decide) h with ⟨hplain, hpair, written', first', hrest, hkept⟩
      rw [if_neg (by decide)] at hrest hpair
      refine ⟨List.forall_mem_singleton.2 hplain, ?_, ?_⟩
      · rw [hkept]
        exact putPairs_close hrest
      intro key
      have hclose : hasKey key fuel ('}' :: rest) = false := by
        cases fuel with
        | zero => rfl
        | succ fuel => rfl
      rw [hasKey, hpair, List.any_cons, List.any_nil, Bool.or_false]
      dsimp only
      by_cases hkey : spelled m.key = key
      · rw [if_pos hkey, decide_eq_true hkey]
      · rw [if_neg hkey, decide_eq_false hkey, hclose]
  | cons next members ih =>
    cases fuel with
    | zero => cases h
    | succ fuel =>
      rw [furtherText_cons] at h ⊢
      rcases putPairs_text m (by decide) h with ⟨hplain, hpair, written', first', hrest, hkept⟩
      rw [if_pos rfl] at hrest hpair
      rcases ih next hrest with ⟨hall, hresult, hany⟩
      refine ⟨List.forall_mem_cons.2 ⟨hplain, hall⟩, ?_, ?_⟩
      · rw [hkept]
        exact hresult
      intro key
      rw [hasKey, hpair, List.any_cons]
      dsimp only
      by_cases hkey : spelled m.key = key
      · rw [if_pos hkey, decide_eq_true hkey, Bool.true_or]
      · rw [if_neg hkey, decide_eq_false hkey, Bool.false_or, hany]

/-! ### Objects -/

theorem skipWs_document (d : Document) :
    Ingest.skipWs d.text = '{' :: (membersText d.empty d.members ++ '}' :: d.rest) :=
  skipWs_gap_cons d.lead (by decide) _

theorem writerPutObjectPairs_ok {doc : Option Document}
    (h : writerPutObjectPairs (textOf doc) skip written first = .ok result) :
    (∀ x ∈ writtenMembers doc, plain x.key = true) ∧
      result = putKept skip (writtenMembers doc) written first ∧
      ∀ key, jsonObjectHasKey (textOf doc) key =
        (writtenMembers doc).any fun x => spelled x.key = key := by
  have hnone : result = (written, first) → result = putKept skip [] written first := by
    intro hresult
    rw [putKept_nil, hresult]
  cases doc with
  | none =>
    refine ⟨List.forall_mem_nil _, hnone ?_, fun key => rfl⟩
    exact (Except.ok.inj h).symm
  | some d =>
    rw [textOf, writerPutObjectPairs, if_neg (document_ne_nil d), skipWs_document] at h
    dsimp only at h
    rw [if_pos rfl] at h
    have hhas : ∀ key, jsonObjectHasKey (textOf (some d)) key =
        hasKey key ((membersText d.empty d.members ++ '}' :: d.rest).length + 1)
          (membersText d.empty d.members ++ '}' :: d.rest) := by
      intro key
      rw [textOf, jsonObjectHasKey, skipWs_document]
      rfl
    rw [writtenMembers]
    cases hmembers : d.members with
    | nil =>
      rw [hmembers] at h hhas
      have hclose : jsonNextPair (membersText d.empty [] ++ '}' :: d.rest) =
          .ok (.close d.rest) := by
        rw [jsonNextPair, membersText, skipWs_gap_cons d.empty (by decide)]
        rfl
      rw [putPairs, hclose] at h
      refine ⟨List.forall_mem_nil _, hnone (Except.ok.inj h).symm, fun key => ?_⟩
      rw [hhas, hasKey, hclose]
      rfl
    | cons m members =>
      rw [hmembers, membersText, List.append_assoc] at h hhas
      rcases putPairs_members m members h with ⟨hplain, hresult, hany⟩
      refine ⟨hplain, hresult, fun key => ?_⟩
      rw [hhas]
      exact hany key

/-! ### The message -/

/-- What is written in front of the arguments. -/
def payloadHead (requestId command : List Char) : List Char :=
  "\x7b\"request_id\":".toList ++ ('"' :: (requestId.flatMap escaped ++ ['"'])) ++
    ",\"command\":".toList ++ ('"' :: (command.flatMap escaped ++ ['"'])) ++ ",\"args\":".toList

/-- What is written behind the arguments. -/
def payloadTail (nowMs : Int) : List Char :=
  ",\"ts_ms\":".toList ++ (toString nowMs).toList ++ ['}']

/-- The members of the arguments: the default arguments whose keys are not written in the
    parameters, and the parameters. -/
def argsMembers (defaults params : List Member) : List Member :=
  (defaults.filter fun m => !params.any fun x => spelled x.key = spelled m.key) ++ params

/-- The arguments as an object. -/
def argsDocument (defaults params : List Member) : Document where
  lead := noGap
  members := (argsMembers defaults params).map copied
  empty := noGap
  rest := []

theorem writerPutAll_ok {texts : List (List Char)} {written result : List Char}
    (h : writerPutAll texts written = .ok result) : result = written ++ texts.flatten := by
  induction texts generalizing written with
  | nil =>
    rw [List.flatten_nil, List.append_nil]
    exact (Except.ok.inj h).symm
  | cons text texts ih =>
    rw [writerPutAll] at h
    split at h
    · cases h
    rename_i written' hput
    rw [ih h, writerPutn_ok hput, List.flatten_cons, List.append_assoc]

theorem writerPutEscaped_ok {text written result : List Char}
    (h : writerPutEscaped text written = .ok result) :
    result = written ++ '"' :: (text.flatMap escaped ++ ['"']) := by
  rw [writerPutAll_ok h]
  simp [List.flatMap_def]

theorem putHead_ok {requestId command written : List Char}
    (h : putHead requestId command = .ok written) :
    written = payloadHead requestId command ++ ['{'] := by
  rcases bind_eq_ok_iff.1 h with ⟨w₁, h₁, h⟩
  rcases bind_eq_ok_iff.1 h with ⟨w₂, h₂, h⟩
  rcases bind_eq_ok_iff.1 h with ⟨w₃, h₃, h⟩
  rcases bind_eq_ok_iff.1 h with ⟨w₄, h₄, h₅⟩
  have hfirst := (writerPutn_ok h₁).trans (List.nil_append _)
  have htext := writerPutn_ok h₅
  rw [writerPutEscaped_ok h₄, writerPutn_ok h₃, writerPutEscaped_ok h₂, hfirst] at htext
  exact htext.trans (List.append_assoc _ _ _).symm

theorem wrapped (head args ts now : List Char) :
    head ++ ['{'] ++ args ++ ['}' :: ts, now, ['}']].flatten =
      head ++ ('{' :: (args ++ ['}'])) ++ (ts ++ now ++ ['}']) := by
  simp

/-- The message that is built: the arguments are an object with plain keys. -/
theorem buildCommandPayload_ok {requestId command payload : List Char}
    {defaults params : Option Document} {nowMs : Int}
    (h : buildCommandPayload requestId command (textOf defaults) (textOf params) nowMs =
      .ok payload) :
    (∀ m ∈ writtenMembers defaults, plain m.key = true) ∧
      (∀ m ∈ writtenMembers params, plain m.key = true) ∧
      payload = payloadHead requestId command ++
        (argsDocument (writtenMembers defaults) (writtenMembers params)).text ++
        payloadTail nowMs := by
  rcases bind_eq_ok_iff.1 h with ⟨w₁, hhead, h⟩
  rcases bind_eq_ok_iff.1 h with ⟨r₁, hdefaults, h⟩
  rcases bind_eq_ok_iff.1 h with ⟨r₂, hparams, htail⟩
  rcases writerPutObjectPairs_ok hdefaults with ⟨hplain₁, hr₁, -⟩
  rcases writerPutObjectPairs_ok hparams with ⟨hplain₂, hr₂, hhas⟩
  refine ⟨hplain₁, hplain₂, ?_⟩
  -- The default arguments that are copied, and behind them the parameters.
  have hargs : kept (jsonObjectHasKey (textOf params)) (writtenMembers defaults) ++
      kept (fun _ => false) (writtenMembers params) =
        (argsMembers (writtenMembers defaults) (writtenMembers params)).map copied := by
    rw [argsMembers, List.map_append, kept, kept]
    congr 2
    · exact List.filter_congr fun m _ => by rw [hhas]
    · exact List.filter_eq_self.2 fun _ _ => rfl
  have htext : r₂.1 = w₁ ++ membersText noGap
      ((argsMembers (writtenMembers defaults) (writtenMembers params)).map copied) := by
    rw [hr₂, hr₁, putKept, putKept, List.append_assoc, Bool.true_and, ← joined_true, ← hargs,
      joined_append, Bool.true_and]
  rw [writerPutAll_ok htail, htext, putHead_ok hhead]
  exact wrapped _ _ _ _

end SceneHub.Executor
