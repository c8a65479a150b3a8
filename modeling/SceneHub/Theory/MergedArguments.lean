import SceneHub.JsonGrammar
import SceneHub.Theory.CommandPayload

/-!
# Merged Arguments

What the message to a device is for any two objects. It is refused only if a key has an
escape, a value is nested deeper than the scanner keeps brackets, or there is no room. Else
each key has what the parameters have for it, or what the default arguments have, as it is
written there, and as often.

## Main definitions

* `payloadText`: The message, however long.
* `MergedFrom`: The arguments key by key.

## Theorems

* `jsonSkipValue_tree`: A tree is moved over if the stack has room for it.
* `putPairs_readable`: Readable members are copied if there is room.
* `buildCommandPayload_readable`: The message is built if there is room.
* `isJson_payload`: The message is JSON.
* `command_payload_merges`: What the message is, or why there is none.
-/

namespace SceneHub.Executor

open JsonText

variable {requestId command : List Char} {skip : List Char → Bool} {first : Bool}

/-! ### Moving over a tree -/

theorem jsonSkipNested_scanner :
    BracketScanner stackSize fun stack => jsonSkipNested stack .plain where
  bare := fun stack _ hc rest => jsonSkipNested_bare hc stack rest
  string := fun stack pieces rest =>
    (jsonSkipNested_quote stack _).trans (jsonSkipNested_spelled stack pieces rest)
  opening := fun stack b rest hroom =>
    (jsonSkipNested_opening stack b rest).trans (if_neg (Nat.not_le_of_lt hroom))
  closing := fun stack b rest hstack =>
    (jsonSkipNested_closing stack b rest).trans (if_neg hstack)
  last := fun b rest => (jsonSkipNested_closing [] b rest).trans (if_pos rfl)

theorem jsonSkipValue_tree (before after : Gap) (t : Tree) (hdepth : t.depth ≤ stackSize)
    {c : Char} (hc : isEnd c = true) (rest : List Char) :
    jsonSkipValue (before.text ++ (t.value.text ++ (after.text ++ c :: rest))) =
      some (behind t.value after ++ c :: rest) := by
  rw [jsonSkipValue, skipValueWith_text _ before after t.value hc rest]
  cases t with
  | array empty items => exact jsonSkipNested_scanner.array hdepth _
  | object empty fields => exact jsonSkipNested_scanner.object hdepth _
  | _ => rfl

/-! ### Copying what is readable -/

theorem jsonNextPair_readable {m : Member} (hm : m.Readable stackSize) {c : Char}
    (hc : isEnd c = true) (rest : List Char) : jsonNextPair (m.text ++ c :: rest) =
      .ok (.pair (copied m).text (spelled m.key) (if c = ',' then rest else c :: rest)) := by
  rcases hm.shallow with ⟨t, ht, hdepth⟩
  refine jsonNextPair_found m hc rest hm.plain ?_
  rw [← ht]
  exact jsonSkipValue_tree m.beforeValue m.after t hdepth hc rest

theorem writerPutn_room {written text : List Char}
    (h : (written ++ text).length < mqttPayloadMaxLen) :
    writerPutn written text = .ok (written ++ text) := by
  rw [List.length_append] at h
  rw [writerPutn, if_neg (by omega)]

theorem writerPutPair_room {written pair : List Char}
    (h : (written ++ ((if first then [] else [',']) ++ pair)).length < mqttPayloadMaxLen) :
    writerPutPair written pair first =
      .ok (written ++ ((if first then [] else [',']) ++ pair)) := by
  cases first with
  | true => exact writerPutn_room h
  | false =>
    rw [if_neg Bool.false_ne_true, ← List.append_assoc] at h ⊢
    -- the comma fits if the pair behind it does
    have hcomma : (written ++ [',']).length < mqttPayloadMaxLen := by
      rw [List.length_append] at h
      omega
    rw [writerPutPair, if_neg Bool.false_ne_true, writerPutn_room hcomma]
    exact writerPutn_room h

theorem putKept_cons (skip : List Char → Bool) (m : Member) (members : List Member)
    (written : List Char) (first : Bool) : putKept skip (m :: members) written first =
      putKept skip members (putKept skip [m] written first).1
        (putKept skip [m] written first).2 := by
  by_cases hskip : skip (spelled m.key) = true
  · rw [putKept_cons_skip hskip, putKept_cons_skip hskip [], putKept_nil]
  · rw [putKept_cons_copy hskip, putKept_cons_copy hskip [], putKept_nil]

theorem le_length_putKept (skip : List Char → Bool) (members : List Member)
    (written : List Char) (first : Bool) :
    written.length ≤ (putKept skip members written first).1.length := by
  rw [putKept, List.length_append]
  exact Nat.le_add_right _ _

theorem putPairs_step {m : Member} (hm : m.Readable stackSize) {c : Char} (hc : isEnd c = true)
    {fuel : Nat} {rest written : List Char}
    (hroom : (putKept skip [m] written first).1.length < mqttPayloadMaxLen) :
    putPairs skip (fuel + 1) (m.text ++ c :: rest) written first =
      putPairs skip fuel (if c = ',' then rest else c :: rest)
        (putKept skip [m] written first).1 (putKept skip [m] written first).2 := by
  rw [putPairs, jsonNextPair_readable hm hc]
  dsimp only
  by_cases hskip : skip (spelled m.key) = true
  · rw [if_pos hskip, putKept_cons_skip hskip, putKept_nil]
  · rw [putKept_cons_copy hskip, putKept_nil] at hroom ⊢
    rw [if_neg hskip, writerPutPair_room hroom]

/-- Readable members are gone through to the end if there is room for those that are copied. -/
theorem putPairs_readable (m : Member) (members : List Member)
    (hall : ∀ x ∈ m :: members, x.Readable stackSize) {fuel : Nat}
    (hfuel : members.length + 1 < fuel) {rest written : List Char}
    (hroom : (putKept skip (m :: members) written first).1.length < mqttPayloadMaxLen) :
    putPairs skip fuel (m.text ++ (furtherText members ++ '}' :: rest)) written first =
      .ok (putKept skip (m :: members) written first) := by
  induction members generalizing m fuel written first with
  | nil =>
    rcases Nat.exists_eq_add_of_lt hfuel with ⟨k, rfl⟩
    rw [furtherText, List.flatMap_nil, List.nil_append,
      putPairs_step (hall m List.mem_cons_self) (by decide) hroom, if_neg (by decide),
      List.length_nil, Nat.zero_add, Nat.add_comm 1 k, putPairs, jsonNextPair_close]
  | cons next members ih =>
    rcases Nat.exists_eq_succ_of_ne_zero (Nat.ne_of_gt (Nat.zero_lt_of_lt hfuel)) with
      ⟨fuel, rfl⟩
    rcases List.forall_mem_cons.1 hall with ⟨hm, hrest⟩
    rw [List.length_cons] at hfuel
    rw [putKept_cons] at hroom ⊢
    have hfirst : (putKept skip [m] written first).1.length < mqttPayloadMaxLen :=
      Nat.lt_of_le_of_lt (le_length_putKept skip (next :: members) _ _) hroom
    rw [furtherText_cons, putPairs_step hm (by decide) hfirst, if_pos rfl]
    exact ih next hrest (by omega) hroom

theorem writerPutObjectPairs_readable {doc : Option Document}
    (hall : ∀ m ∈ writtenMembers doc, m.Readable stackSize) {written : List Char}
    (hroom : (putKept skip (writtenMembers doc) written first).1.length < mqttPayloadMaxLen) :
    writerPutObjectPairs (textOf doc) skip written first =
      .ok (putKept skip (writtenMembers doc) written first) := by
  cases doc with
  | none =>
    rw [writtenMembers, putKept_nil]
    rfl
  | some d =>
    rw [textOf, writerPutObjectPairs, if_neg (document_ne_nil d), skipWs_document]
    dsimp only
    rw [if_pos rfl]
    rw [writtenMembers] at hall hroom ⊢
    cases hmembers : d.members with
    | nil =>
      have hclose : jsonNextPair (membersText d.empty [] ++ '}' :: d.rest) =
          .ok (.close d.rest) := by
        rw [jsonNextPair, membersText, skipWs_gap_cons d.empty (by decide)]
        rfl
      rw [putPairs, hclose, putKept_nil]
    | cons m members =>
      rw [hmembers] at hall hroom
      have hfuel : members.length + 1 <
          (membersText d.empty (m :: members) ++ '}' :: d.rest).length + 1 := by
        have hle := length_furtherText members
        rw [membersText, List.length_append, List.length_append, List.length_cons]
        omega
      have hcopied : putPairs skip _ (m.text ++ (furtherText members ++ '}' :: d.rest)) written
          first = _ := putPairs_readable m members hall hfuel hroom
      rw [membersText, List.append_assoc] at hcopied ⊢
      exact hcopied

theorem jsonObjectHasKey_readable {doc : Option Document}
    (hall : ∀ m ∈ writtenMembers doc, m.Readable stackSize) (key : List Char) :
    jsonObjectHasKey (textOf doc) key =
      (writtenMembers doc).any fun m => spelled m.key = key := by
  -- a copy that skips every member gets through
  have hnone : kept (fun _ => true) (writtenMembers doc) = [] := by
    rw [kept, List.filter_eq_nil_iff.2 fun m _ => by simp]
    rfl
  have hroom : (putKept (fun _ => true) (writtenMembers doc) [] true).1.length <
      mqttPayloadMaxLen := by
    rw [putKept, hnone]
    decide
  exact (writerPutObjectPairs_ok (writerPutObjectPairs_readable hall hroom)).2.2 key

/-! ### The message -/

/-- The message for two objects, however long it is. -/
def payloadText (requestId command : List Char) (defaults params : List Member) (nowMs : Int) :
    List Char :=
  payloadHead requestId command ++ (argsDocument defaults params).text ++ payloadTail nowMs

theorem writerPutAll_room {texts : List (List Char)} {written : List Char}
    (h : (written ++ texts.flatten).length < mqttPayloadMaxLen) :
    writerPutAll texts written = .ok (written ++ texts.flatten) := by
  induction texts generalizing written with
  | nil =>
    rw [List.flatten_nil, List.append_nil]
    rfl
  | cons text texts ih =>
    rw [List.flatten_cons, ← List.append_assoc] at h ⊢
    have hfirst : (written ++ text).length < mqttPayloadMaxLen := by
      rw [List.length_append] at h
      omega
    rw [writerPutAll, writerPutn_room hfirst]
    exact ih h

theorem writerPutAll_append (texts further : List (List Char)) (written : List Char) :
    writerPutAll (texts ++ further) written =
      (writerPutAll texts written >>= writerPutAll further) := by
  induction texts generalizing written with
  | nil => rfl
  | cons text texts ih =>
    rw [List.cons_append, writerPutAll, writerPutAll]
    cases writerPutn written text with
    | error err => rfl
    | ok written => exact ih written

theorem writerPutn_eq_all (written text : List Char) :
    writerPutn written text = writerPutAll [text] written := by
  rw [writerPutAll]
  cases writerPutn written text with
  | error err => rfl
  | ok written => rfl

/-- What `writer_put_escaped` puts, piece by piece. -/
def escapedTexts (text : List Char) : List (List Char) := ['"'] :: text.map escaped ++ [['"']]

/-- What the head is put together of. -/
def headTexts (requestId command : List Char) : List (List Char) :=
  ["\x7b\"request_id\":".toList] ++ (escapedTexts requestId ++ ([",\"command\":".toList] ++
    (escapedTexts command ++ [",\"args\":".toList ++ ['{']])))

theorem putHead_eq (requestId command : List Char) :
    putHead requestId command = writerPutAll (headTexts requestId command) [] := by
  unfold putHead headTexts
  rw [writerPutAll_append, writerPutn_eq_all]
  refine bind_congr fun written => ?_
  rw [writerPutAll_append]
  refine bind_congr fun written => ?_
  rw [writerPutAll_append, writerPutn_eq_all]
  refine bind_congr fun written => ?_
  rw [writerPutAll_append]
  exact bind_congr fun written => writerPutn_eq_all written _

theorem flatten_escapedTexts (text : List Char) :
    (escapedTexts text).flatten = '"' :: (text.flatMap escaped ++ ['"']) := by
  simp [escapedTexts, List.flatMap_def]

theorem flatten_around (first second third requestId command : List Char) :
    ([first] ++ (escapedTexts requestId ++ ([second] ++ (escapedTexts command ++
        [third ++ ['{']])))).flatten =
      first ++ ('"' :: (requestId.flatMap escaped ++ ['"'])) ++ second ++
        ('"' :: (command.flatMap escaped ++ ['"'])) ++ third ++ ['{'] := by
  simp [flatten_escapedTexts]

theorem flatten_headTexts (requestId command : List Char) :
    (headTexts requestId command).flatten = payloadHead requestId command ++ ['{'] :=
  flatten_around _ _ _ requestId command

theorem putHead_room {requestId command : List Char}
    (h : (payloadHead requestId command ++ ['{']).length < mqttPayloadMaxLen) :
    putHead requestId command = .ok (payloadHead requestId command ++ ['{']) := by
  have hroom : ([] ++ (headTexts requestId command).flatten).length < mqttPayloadMaxLen := by
    rw [List.nil_append, flatten_headTexts]
    exact h
  rw [putHead_eq, writerPutAll_room hroom, List.nil_append, flatten_headTexts]

theorem kept_append_kept {defaults params : Option Document}
    (hall : ∀ m ∈ writtenMembers params, m.Readable stackSize) :
    kept (jsonObjectHasKey (textOf params)) (writtenMembers defaults) ++
        kept (fun _ => false) (writtenMembers params) =
      (argsMembers (writtenMembers defaults) (writtenMembers params)).map copied := by
  rw [argsMembers, List.map_append, kept, kept]
  congr 2
  · exact List.filter_congr fun m _ => by rw [jsonObjectHasKey_readable hall]
  · exact List.filter_eq_self.2 fun _ _ => rfl

/-- Two objects that are readable are merged if there is room for the message. -/
theorem buildCommandPayload_readable {defaults params : Option Document} {nowMs : Int}
    (hdefaults : ∀ m ∈ writtenMembers defaults, m.Readable stackSize)
    (hparams : ∀ m ∈ writtenMembers params, m.Readable stackSize)
    (hroom : (payloadText requestId command (writtenMembers defaults) (writtenMembers params)
      nowMs).length < mqttPayloadMaxLen) :
    buildCommandPayload requestId command (textOf defaults) (textOf params) nowMs =
      .ok (payloadText requestId command (writtenMembers defaults) (writtenMembers params)
        nowMs) := by
  have hargs := @kept_append_kept defaults params hparams
  have htext := wrapped (payloadHead requestId command) (membersText noGap
    ((argsMembers (writtenMembers defaults) (writtenMembers params)).map copied))
    ",\"ts_ms\":".toList (toString nowMs).toList
  have hfull : payloadText requestId command (writtenMembers defaults) (writtenMembers params)
      nowMs = _ := htext.symm
  rw [hfull] at hroom ⊢
  rw [← joined_true, ← hargs, joined_append, Bool.true_and, ← List.append_assoc] at hroom ⊢
  -- each part fits, since the whole does
  have hlast := hroom
  rw [List.length_append] at hlast
  have hcopied : (putKept (fun _ => false) (writtenMembers params)
      (putKept (jsonObjectHasKey (textOf params)) (writtenMembers defaults)
        (payloadHead requestId command ++ ['{']) true).1
      (putKept (jsonObjectHasKey (textOf params)) (writtenMembers defaults)
        (payloadHead requestId command ++ ['{']) true).2).1.length < mqttPayloadMaxLen :=
    Nat.lt_of_le_of_lt (Nat.le_add_right _ _) hlast
  have hfirst := Nat.lt_of_le_of_lt (le_length_putKept _ _ _ _) hcopied
  have hhead := Nat.lt_of_le_of_lt (le_length_putKept _ _ _ _) hfirst
  unfold buildCommandPayload
  rw [putHead_room hhead]
  dsimp only [Bind.bind, Except.bind]
  rw [writerPutObjectPairs_readable hdefaults hfirst]
  dsimp only
  rw [writerPutObjectPairs_readable hparams hcopied]
  exact writerPutAll_room hroom

/-! ### The message as JSON -/

/-- No byte of control but those that `writer_put_escaped` knows. -/
def Printable (text : List Char) : Prop :=
  ∀ c ∈ text, 32 ≤ c.toNat ∨ c = '\n' ∨ c = '\r' ∨ c = '\t'

theorem exists_piece {c : Char} (h : 32 ≤ c.toNat ∨ c = '\n' ∨ c = '\r' ∨ c = '\t') :
    ∃ p : Piece, p.text = escaped c ∧ p.printable = true := by
  unfold escaped
  by_cases hquote : c = '"'
  · rw [if_pos hquote]
    exact ⟨.escape .quote, rfl, rfl⟩
  rw [if_neg hquote]
  by_cases hslash : c = '\\'
  · rw [if_pos hslash]
    exact ⟨.escape .backslash, rfl, rfl⟩
  rw [if_neg hslash]
  by_cases hnewline : c = '\n'
  · rw [if_pos hnewline]
    exact ⟨.escape .newline, rfl, rfl⟩
  rw [if_neg hnewline]
  by_cases hreturn : c = '\r'
  · rw [if_pos hreturn]
    exact ⟨.escape .carriageReturn, rfl, rfl⟩
  rw [if_neg hreturn]
  by_cases htab : c = '\t'
  · rw [if_pos htab]
    exact ⟨.escape .tab, rfl, rfl⟩
  rw [if_neg htab]
  -- what is left is written as it is
  have hprints : 32 ≤ c.toNat := by
    rcases h with hprints | h | h | h
    · exact hprints
    · exact absurd h hnewline
    · exact absurd h hreturn
    · exact absurd h htab
  have hzero : c ≠ '\x00' := by
    rintro rfl
    exact absurd hprints (by decide)
  exact ⟨.byte c ⟨hquote, hslash, hzero⟩, rfl, decide_eq_true hprints⟩

theorem exists_escaped {text : List Char} (h : Printable text) :
    ∃ s : Literal, spelled s.pieces = text.flatMap escaped := by
  induction text with
  | nil => exact ⟨⟨[], List.forall_mem_nil _⟩, rfl⟩
  | cons c text ih =>
    rcases List.forall_mem_cons.1 h with ⟨hc, htext⟩
    rcases exists_piece hc with ⟨p, hp, hprints⟩
    rcases ih htext with ⟨s, hs⟩
    refine ⟨⟨p :: s.pieces, List.forall_mem_cons.2 ⟨hprints, s.printable⟩⟩, ?_⟩
    rw [List.flatMap_cons, ← hs, ← hp]
    rfl

/-- The fields of the message. -/
def payloadFields (requestKey commandKey argsKey tsKey requestId command : Literal)
    (fields : Fields) (ts : Numeral) : Fields :=
  .cons noGap requestKey noGap noGap (.string requestId) noGap
    (.cons noGap commandKey noGap noGap (.string command) noGap
      (.cons noGap argsKey noGap noGap (.object noGap fields) noGap
        (.cons noGap tsKey noGap noGap (.number ts) noGap .nil)))

theorem payloadFields_text (requestKey commandKey argsKey tsKey requestId command : Literal)
    (fields : Fields) (ts : Numeral) :
    (Tree.object noGap (payloadFields requestKey commandKey argsKey tsKey requestId command fields
      ts)).text =
      ('{' :: '"' :: (spelled requestKey.pieces ++ ['"', ':'])) ++
        ('"' :: (spelled requestId.pieces ++ ['"'])) ++
        (',' :: '"' :: (spelled commandKey.pieces ++ ['"', ':'])) ++
        ('"' :: (spelled command.pieces ++ ['"'])) ++
        (',' :: '"' :: (spelled argsKey.pieces ++ ['"', ':'])) ++
        (Tree.object noGap fields).text ++
        ((',' :: '"' :: (spelled tsKey.pieces ++ ['"', ':'])) ++ ts.number.text ++ ['}']) := by
  simp [Tree.text, payloadFields, Fields.text, Fields.emptyText, comma, noGap, Value.text, if_pos]

theorem isJson_payload (hrequest : Printable requestId) (hcommand : Printable command)
    (fields : Fields) (nowMs : Int) :
    IsJson (payloadHead requestId command ++ (Tree.object noGap fields).text ++
      payloadTail nowMs) := by
  rcases exists_escaped hrequest with ⟨request, hr⟩
  rcases exists_escaped hcommand with ⟨name, hc⟩
  rcases exists_numeral nowMs with ⟨ts, ht⟩
  rcases @exists_literal "request_id".toList (List.forall_iff_forall_mem.1 (by decide)) with ⟨requestKey, hrk⟩
  rcases @exists_literal "command".toList (List.forall_iff_forall_mem.1 (by decide)) with ⟨commandKey, hck⟩
  rcases @exists_literal "args".toList (List.forall_iff_forall_mem.1 (by decide)) with ⟨argsKey, hak⟩
  rcases @exists_literal "ts_ms".toList (List.forall_iff_forall_mem.1 (by decide)) with ⟨tsKey, htk⟩
  refine ⟨noGap, .object noGap (payloadFields requestKey commandKey argsKey tsKey request name
    fields ts), noGap, ?_⟩
  rw [payloadFields_text, hr, hc, ht, hrk, hck, hak, htk]
  exact (List.append_nil _).symm

/-! ### The arguments -/

def ofKey (key : List Char) (members : List Member) : List Member :=
  members.filter fun m => spelled m.key = key

/-- The keys, as they are written. -/
def keysOf (members : List Member) : List (List Char) := members.map fun m => spelled m.key

/-- The arguments have what the parameters write for a key, or what the default arguments
    write, byte for byte. -/
structure MergedFrom (defaults params args : List Member) : Prop where
  each : ∀ key, (ofKey key args).map Member.pairText =
    (if key ∈ keysOf params then ofKey key params else ofKey key defaults).map Member.pairText
  keys : ∀ key, key ∈ keysOf args ↔ key ∈ keysOf defaults ∨ key ∈ keysOf params
  once : (keysOf defaults).Nodup → (keysOf params).Nodup → (keysOf args).Nodup

theorem ofKey_copied (key : List Char) (members : List Member) :
    (ofKey key (members.map copied)).map Member.pairText =
      (ofKey key members).map Member.pairText := by
  rw [ofKey, List.filter_map, List.map_map]
  rfl

theorem keysOf_copied (members : List Member) : keysOf (members.map copied) = keysOf members := by
  rw [keysOf, List.map_map]
  rfl

theorem any_spelled_iff (key : List Char) (members : List Member) :
    (members.any fun x => spelled x.key = key) = true ↔ key ∈ keysOf members := by
  rw [List.any_eq_true, keysOf, List.mem_map]
  simp

theorem ofKey_eq_nil {key : List Char} {members : List Member} (h : key ∉ keysOf members) :
    ofKey key members = [] := by
  rw [ofKey, List.filter_eq_nil_iff]
  intro m hm hkey
  exact h (List.mem_map.2 ⟨m, hm, of_decide_eq_true hkey⟩)

theorem mem_keysOf_defaults {defaults params : List Member} {key : List Char} :
    key ∈ keysOf (defaults.filter fun m => !params.any fun x => spelled x.key = spelled m.key) ↔
      key ∈ keysOf defaults ∧ key ∉ keysOf params := by
  constructor
  · intro h
    rcases List.mem_map.1 h with ⟨m, hm, rfl⟩
    rcases List.mem_filter.1 hm with ⟨hmem, hnew⟩
    refine ⟨List.mem_map_of_mem hmem, fun hin => ?_⟩
    rw [(any_spelled_iff _ _).2 hin] at hnew
    exact Bool.false_ne_true hnew
  rintro ⟨h, hnew⟩
  rcases List.mem_map.1 h with ⟨m, hm, rfl⟩
  refine List.mem_map.2 ⟨m, List.mem_filter.2 ⟨hm, ?_⟩, rfl⟩
  have hany : (params.any fun x => spelled x.key = spelled m.key) = false :=
    Bool.eq_false_iff.2 fun hin => hnew ((any_spelled_iff _ _).1 hin)
  rw [hany]
  rfl

theorem mergedFrom_args (defaults params : List Member) :
    MergedFrom defaults params ((argsMembers defaults params).map copied) where
  each := by
    intro key
    rw [ofKey_copied, argsMembers, ofKey, List.filter_append, List.filter_filter]
    by_cases hkey : key ∈ keysOf params
    · rw [if_pos hkey]
      have hnone : (defaults.filter fun m => decide (spelled m.key = key) &&
          !params.any fun x => spelled x.key = spelled m.key) = [] := by
        rw [List.filter_eq_nil_iff]
        intro m _ hm
        rw [Bool.and_eq_true] at hm
        rw [of_decide_eq_true hm.1, (any_spelled_iff key params).2 hkey] at hm
        exact Bool.false_ne_true hm.2
      rw [hnone]
      rfl
    rw [if_neg hkey]
    have hsame : (defaults.filter fun m => decide (spelled m.key = key) &&
        !params.any fun x => spelled x.key = spelled m.key) = ofKey key defaults := by
      refine List.filter_congr fun m _ => ?_
      by_cases hm : spelled m.key = key
      · rw [hm, Bool.eq_false_iff.2 fun hin => hkey ((any_spelled_iff key params).1 hin)]
        exact Bool.and_true _
      · rw [decide_eq_false hm]
        rfl
    have hparams := ofKey_eq_nil hkey
    rw [ofKey] at hparams
    rw [hsame, hparams, List.append_nil]
  keys := by
    intro key
    rw [keysOf_copied, argsMembers, keysOf, List.map_append, List.mem_append]
    have hdefaults := @mem_keysOf_defaults defaults params key
    rw [keysOf] at hdefaults
    rw [hdefaults]
    by_cases hkey : key ∈ keysOf params
    · exact ⟨fun _ => Or.inr hkey, fun _ => Or.inr hkey⟩
    · rw [keysOf] at hkey
      exact ⟨fun h => h.imp And.left id, fun h => h.imp (fun hin => ⟨hin, hkey⟩) id⟩
  once := by
    intro hdefaults hparams
    rw [keysOf_copied, argsMembers, keysOf, List.map_append]
    refine List.nodup_append.2 ⟨?_, hparams, ?_⟩
    · exact hdefaults.sublist (List.filter_sublist.map _)
    intro key hkey other hother heq
    subst heq
    exact (mem_keysOf_defaults.1 hkey).2 hother

/-! ### Any two objects -/

def fieldsOf : Option ObjectText → Fields
  | none => .nil
  | some o => o.fields

def objectText : Option ObjectText → List Char
  | none => []
  | some o => o.text

theorem objectText_eq (o : Option ObjectText) :
    objectText o = textOf (o.map ObjectText.document) := by
  cases o with
  | none => rfl
  | some o => exact o.text_document.symm

theorem writtenMembers_eq (o : Option ObjectText) :
    writtenMembers (o.map ObjectText.document) = (fieldsOf o).members := by
  cases o with
  | none => rfl
  | some o => rfl

theorem exists_argsFields (defaults params : Fields) : ∃ fields : Fields, fields.members =
      (argsMembers defaults.members params.members).map copied := by
  refine exists_fields _ fun m hm => ?_
  rcases List.mem_map.1 hm with ⟨x, hx, rfl⟩
  have hsound : x.Sound := by
    rcases List.mem_append.1 hx with hx | hx
    · exact defaults.sound x (List.mem_filter.1 hx).1
    · exact params.sound x hx
  exact ⟨hsound.key, hsound.value⟩

theorem argsDocument_text {defaults params : List Member} {fields : Fields}
    (h : fields.members = (argsMembers defaults params).map copied) :
    (argsDocument defaults params).text = (Tree.object noGap fields).text := by
  have htext := ObjectText.text_document ⟨noGap, noGap, fields, noGap⟩
  rw [ObjectText.document, h] at htext
  exact htext.trans (List.append_nil _)

/-- For any two objects: there is no message because a key has an escape, a value is nested
    deeper than the stack or the message is too long; or there is one, and its arguments are
    the merged members of both. -/
theorem command_payload_merges (requestId command : List Char)
    (defaults params : Option ObjectText) (nowMs : Int) :
    match buildCommandPayload requestId command (objectText defaults) (objectText params)
      nowMs with
    | .error _ =>
      (∃ m ∈ (fieldsOf defaults).members ++ (fieldsOf params).members, plain m.key = false) ∨
        stackSize < (fieldsOf defaults).depth ∨ stackSize < (fieldsOf params).depth ∨
        mqttPayloadMaxLen ≤ (payloadText requestId command (fieldsOf defaults).members
          (fieldsOf params).members nowMs).length
    | .ok payload =>
      ∃ fields : Fields,
        MergedFrom (fieldsOf defaults).members (fieldsOf params).members fields.members ∧
        payload = payloadHead requestId command ++ (Tree.object noGap fields).text ++
          payloadTail nowMs ∧
        (Printable requestId → Printable command → IsJson payload) := by
  cases hbuild : buildCommandPayload requestId command (objectText defaults) (objectText params)
      nowMs with
  | ok payload =>
    rw [objectText_eq, objectText_eq] at hbuild
    rcases exists_argsFields (fieldsOf defaults) (fieldsOf params) with ⟨fields, hfields⟩
    have hpayload := (buildCommandPayload_ok hbuild).2.2
    rw [writtenMembers_eq, writtenMembers_eq, argsDocument_text hfields] at hpayload
    refine ⟨fields, ?_, hpayload, fun hrequest hcommand => ?_⟩
    · rw [hfields]
      exact mergedFrom_args _ _
    · rw [hpayload]
      exact isJson_payload hrequest hcommand fields nowMs
  | error err =>
    by_cases hescape : ∃ m ∈ (fieldsOf defaults).members ++ (fieldsOf params).members,
        plain m.key = false
    · exact Or.inl hescape
    right
    by_cases hdefaults : stackSize < (fieldsOf defaults).depth
    · exact Or.inl hdefaults
    right
    by_cases hparams : stackSize < (fieldsOf params).depth
    · exact Or.inl hparams
    right
    by_cases hroom : mqttPayloadMaxLen ≤ (payloadText requestId command
        (fieldsOf defaults).members (fieldsOf params).members nowMs).length
    · exact hroom
    -- the scanner gets through both, and there is room: there is a message
    have hplain : ∀ m ∈ (fieldsOf defaults).members ++ (fieldsOf params).members,
        plain m.key = true := by
      intro m hm
      by_cases hm' : plain m.key = true
      · exact hm'
      · exact absurd ⟨m, hm, Bool.eq_false_iff.2 hm'⟩ hescape
    have hd := Fields.readable (fun m hm => hplain m (List.mem_append_left _ hm))
      (Nat.le_of_not_lt hdefaults)
    have hp := Fields.readable (fun m hm => hplain m (List.mem_append_right _ hm))
      (Nat.le_of_not_lt hparams)
    rw [← writtenMembers_eq] at hd hp
    rw [← writtenMembers_eq, ← writtenMembers_eq] at hroom
    have hok := buildCommandPayload_readable hd hp (Nat.lt_of_not_le hroom)
    rw [objectText_eq, objectText_eq, hok] at hbuild
    cases hbuild

/-! ### Keys that are not merged -/

def nulls (keys : List Literal) : ObjectText where
  lead := noGap
  empty := noGap
  fields := keys.foldr (fun key => .cons noGap key noGap noGap .null noGap) .nil
  trail := noGap

def newlineKey : Literal := ⟨[.escape .newline], by decide⟩

theorem letter_plain : 'a' ≠ '"' ∧ 'a' ≠ '\\' ∧ 'a' ≠ '\x00' := by decide

def letterKey : Literal := ⟨[.byte 'a' letter_plain], by decide⟩

/-- A key with an escape is refused, whatever room there is, and a key that is written twice is
    sent twice. -/
theorem not_every_key_merged :
    (buildCommandPayload [] [] (objectText (some (nulls [newlineKey]))) [] 0 =
        .error .notSupported ∧
      (nulls [newlineKey]).fields.depth = 0 ∧
      (payloadText [] [] (nulls [newlineKey]).fields.members [] 0).length < mqttPayloadMaxLen) ∧
    buildCommandPayload [] [] (objectText (some (nulls [letterKey, letterKey]))) [] 0 =
      .ok ("\x7b\"request_id\":\"\",\"command\":\"\",\"args\":\x7b\"a\":null,\"a\":null\x7d" ++
        ",\"ts_ms\":0\x7d").toList := by
  decide +kernel

end SceneHub.Executor
