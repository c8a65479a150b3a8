import SceneHub.Theory.SpelledText

/-!
# What Is Read and What Is Checked

A parameter is checked in a tree and read from the text. The two know different things. The
tree takes the last member of a key, and the text the first one. The tree has the default
arguments in it, and the text has not. A number that the text reader knows is a sign and
digits, and a string has to fit an array without the escape of a code point in it.

## Main definitions

* `Reading`: One of the three readers, with what it means in a tree and what it can read.
* `readSpelled`: What is read of the member that is come to.
* `lastNamed`, `checkedValue`: The value that is checked.

## Theorems

* `copyJsonString_spelled`: What a copy of a string gives.
* `intReading_faithful` and the like: What can be read is read as the tree means it.
* `paramsGet_text`: What is read of a text.
* `mergeEffectiveParams_get`: What is checked.
-/

namespace SceneHub.Executor

open JsonText

/-! ### Strings and numbers -/

theorem unescape_letter (e : Escape) : Ingest.unescape e.letter = some e.byte := by
  cases e <;> rfl

theorem copyJsonString_byte {c : Char} (h : c ≠ '\\') (size : Nat) (rest written : List Char) :
    copyJsonString size (c :: rest) written =
      if size ≤ written.length + 1 then .error .invalidArg
      else copyJsonString size rest (written ++ [c]) := by
  rw [copyJsonString]
  · intro heq
    exact absurd heq h
  · intro d rest' heq
    exact absurd heq h

theorem copyJsonString_escape {c ch : Char} (h : Ingest.unescape c = some ch) (size : Nat)
    (rest written : List Char) : copyJsonString size ('\\' :: c :: rest) written =
      if size ≤ written.length + 1 then .error .invalidArg
      else copyJsonString size rest (written ++ [ch]) := by
  rw [copyJsonString, h]

theorem decoded_cons (p : Piece) (pieces : List Piece) : decoded (p :: pieces) =
      p.decoded.bind fun c => (decoded pieces).map fun text => c :: text := by
  rw [decoded, List.mapM_cons]
  cases p.decoded with
  | none => rfl
  | some c =>
    rw [decoded]
    cases pieces.mapM Piece.decoded <;> rfl

theorem copyJsonString_spelled (size : Nat) (pieces : List Piece) (written : List Char)
    (hroom : written.length < size) : (copyJsonString size (spelled pieces) written).toOption =
      (decoded pieces).bind fun text =>
        if written.length + text.length < size then some (written ++ text) else none := by
  induction pieces generalizing written with
  | nil =>
    have hnil : decoded ([] : List Piece) = some [] := rfl
    rw [spelled, List.flatMap_nil, copyJsonString, hnil, Option.bind_some, List.append_nil,
      List.length_nil, Nat.add_zero, if_pos hroom]
    rfl
  | cons p pieces ih =>
    -- A byte is written and the rest is copied behind it.
    have hstep : ∀ c : Char,
        (if size ≤ written.length + 1 then (.error .invalidArg : Except EspErr (List Char))
          else copyJsonString size (spelled pieces) (written ++ [c])).toOption =
        ((decoded pieces).map fun text => c :: text).bind fun text =>
          if written.length + text.length < size then some (written ++ text) else none := by
      intro c
      by_cases hfull : size ≤ written.length + 1
      · rw [if_pos hfull]
        cases decoded pieces with
        | none => rfl
        | some text =>
          refine (if_neg ?_).symm
          rw [List.length_cons]
          omega
      rw [if_neg hfull, ih]
      · cases decoded pieces with
        | none => rfl
        | some text =>
          have hlength : (written ++ [c]).length + text.length =
              written.length + (c :: text).length := by
            rw [List.length_append, List.length_singleton, List.length_cons]
            omega
          dsimp only [Option.map_some, Option.bind_some]
          rw [hlength, List.append_assoc, List.singleton_append]
      · rw [List.length_append, List.length_singleton]
        omega
    rw [decoded_cons, spelled, List.flatMap_cons]
    cases p with
    | byte c h =>
      rw [Piece.text, List.singleton_append, copyJsonString_byte h.2.1]
      exact hstep c
    | escape e =>
      rw [Piece.text, List.cons_append, List.singleton_append,
        copyJsonString_escape (unescape_letter e)]
      exact hstep e.byte
    | unicode hex =>
      rw [Piece.text, List.cons_append, List.cons_append, copyJsonString]
      rfl

theorem isDigit_isSpace {c : Char} (h : isDigit c = true) : isSpace c = false := by
  rcases of_decide_eq_true h with ⟨hlo, hhi⟩
  have h0 : 48 ≤ c.toNat := hlo
  refine decide_eq_false ?_
  rintro (rfl | ⟨-, htab⟩)
  · exact absurd h0 (by decide)
  · omega

theorem strtol_number (n : Number) : strtol (n.sign ++ n.digits) = some (saturate n.integer) := by
  rcases List.exists_cons_of_ne_nil n.digits_ne with ⟨d, digits, hdigits⟩
  have hd : isDigit d = true := n.isDigit_digits d (by rw [hdigits]; exact .head _)
  have hall : n.digits ≠ [] ∧ n.digits.all isDigit = true :=
    ⟨n.digits_ne, List.all_eq_true.2 n.isDigit_digits⟩
  have hsign : strtolSign ((n.sign ++ n.digits).dropWhile isSpace) = (n.negative, n.digits) := by
    rw [Number.sign]
    by_cases hnegative : n.negative = true
    · rw [if_pos hnegative, List.singleton_append, List.dropWhile_cons_of_neg (by decide),
        hnegative]
      rfl
    have hspace : ¬isSpace d = true := by
      rw [isDigit_isSpace hd]
      exact Bool.false_ne_true
    rw [if_neg hnegative, List.nil_append, hdigits, List.dropWhile_cons_of_neg hspace, strtolSign,
      if_neg (isDigit_ne hd (by decide)), if_neg (isDigit_ne hd (by decide)),
      Bool.not_eq_true _ |>.mp hnegative]
  rw [strtol, hsign]
  dsimp only
  rw [if_pos hall, Number.integer]

/-! ### The three readers -/

/-- A reader of parameters: what it makes of a value in the text, what it means in a tree, and
    which ways to write a value it can read. -/
structure Reading (α : Type) where
  read : ParamValue → Except EspErr α
  meaning : Json → Option α
  legible : Value → Bool
  legible_null : legible .null = false

/-- A string without the escape of a code point that is shorter than that. -/
def shorter (limit : Nat) (pieces : List Piece) : Bool :=
  match decoded pieces with
  | some text => text.length < limit
  | none => false

/-- A number without a fraction and an exponent that is shorter than that. -/
def short (limit : Nat) (n : Number) : Bool := n.tail.isEmpty && n.text.length < limit

def intReading : Reading Int where
  read := intOf
  meaning := jsonNumberLike
  legible
    | .number n => short intSize n
    | .string pieces => shorter intSize pieces
    | _ => false
  legible_null := rfl

def boolReading : Reading Bool where
  read := boolOf
  meaning
    | .bool value => some value
    | .number value => some (Json.valueInt value ≠ 0)
    | .string text => some (isOn text.toList)
    | _ => none
  legible
    | .bool _ => true
    | .number n => short boolSize n
    | .string pieces => shorter boolSize pieces
    | _ => false
  legible_null := rfl

def stringReading (size : Nat) : Reading (List Char) where
  read := stringOf size
  meaning
    | .string text => some text.toList
    | _ => none
  legible
    | .string pieces => shorter size pieces
    | _ => false
  legible_null := rfl

/-- What can be read is read as the tree means it, and nothing else is read. -/
def Reading.Faithful {α : Type} (g : Reading α) (r : Reader) : Prop :=
  ∀ v : Value, (scanned v).bind (fun value => (g.read value).toOption) =
    if g.legible v = true then g.meaning (v.tree r) else none

section Faithful

variable {r : Reader}

theorem copy_faithful (hr : r.Standard) {size : Nat} (hsize : 0 < size) (pieces : List Piece) :
    (copyJsonString size (spelled pieces) []).toOption =
      if shorter size pieces = true then some (r.string pieces).toList else none := by
  rw [copyJsonString_spelled size pieces [] hsize, shorter]
  cases hdecoded : decoded pieces with
  | none => rfl
  | some text =>
    rw [hr.string pieces text hdecoded, String.toList_ofList]
    dsimp only [Option.bind_some]
    rw [List.length_nil, Nat.zero_add, List.nil_append]
    by_cases hlt : text.length < size
    · rw [if_pos hlt, if_pos (decide_eq_true hlt)]
    · rw [if_neg hlt, if_neg (fun h => hlt (of_decide_eq_true h))]

theorem stringReading_faithful (hr : r.Standard) {size : Nat} (hsize : 0 < size) :
    (stringReading size).Faithful r := by
  intro v
  cases v with
  | string pieces => exact copy_faithful hr hsize pieces
  | null => rfl
  | bool value => rfl
  | number n =>
    rw [scanned]
    split_ifs <;> rfl
  | nested b inner h => rfl

theorem number_faithful {α : Type} (hr : r.Standard) {limit : Nat} {f : Int → Option α}
    {read : ParamValue → Except EspErr α} (hread : ∀ text, (read (.number text)).toOption =
      if limit ≤ text.length then none else (strtol text).bind f) (n : Number) :
    (scanned (.number n)).bind (fun value => (read value).toOption) =
      if short limit n = true then f (Json.valueInt (r.number n)) else none := by
  rw [short, scanned]
  by_cases htail : n.tail = []
  · have htext : n.text = n.sign ++ n.digits := by
      rw [Number.text, htail, List.append_nil]
    rw [if_pos htail, Option.bind_some, hread, hr.integer n htail, htail, List.isEmpty_nil,
      Bool.true_and, htext, strtol_number, Option.bind_some]
    by_cases hlt : (n.sign ++ n.digits).length < limit
    · rw [if_neg (Nat.not_le.2 hlt), if_pos (decide_eq_true hlt)]
    · rw [if_pos (Nat.not_lt.1 hlt), if_neg (fun h => hlt (of_decide_eq_true h))]
  · have hempty : n.tail.isEmpty = false := by
      rw [List.isEmpty_eq_false_iff]
      exact htail
    rw [if_neg htail, hempty, Bool.false_and]
    rfl

theorem strtolChecked_toOption (text : List Char) :
    (strtolChecked text).toOption = strtol text := by
  rw [strtolChecked]
  cases strtol text <;> rfl

theorem intOf_number (text : List Char) : (intOf (.number text)).toOption =
    if intSize ≤ text.length then none else (strtol text).bind some := by
  rw [intOf, ← strtolChecked_toOption]
  split_ifs
  · rfl
  · cases strtolChecked text <;> rfl

theorem intOf_string (body : List Char) : (intOf (.string body)).toOption =
    (copyJsonString intSize body []).toOption.bind fun text =>
      if text = [] then none else strtol text := by
  rw [intOf]
  cases copyJsonString intSize body [] with
  | error err => rfl
  | ok text =>
    dsimp only [Except.toOption, Option.bind_some]
    split_ifs
    · rfl
    · exact strtolChecked_toOption text

theorem intReading_faithful (hr : r.Standard) : intReading.Faithful r := by
  intro v
  cases v with
  | number n => exact number_faithful hr intOf_number n
  | string pieces =>
    refine (intOf_string (spelled pieces)).trans ?_
    rw [copy_faithful hr (by decide)]
    by_cases hshorter : shorter intSize pieces = true
    · have hmeaning : (if (r.string pieces).toList = [] then none
          else strtol (r.string pieces).toList) = jsonNumberLike (.string (r.string pieces)) := by
        rw [jsonNumberLike]
        by_cases hempty : r.string pieces = ""
        · rw [if_pos hempty, if_pos (String.toList_eq_nil_iff.2 hempty)]
        · rw [if_neg hempty, if_neg (fun h => hempty (String.toList_eq_nil_iff.1 h))]
      rw [if_pos hshorter, Option.bind_some, hmeaning]
      exact (if_pos hshorter).symm
    · rw [if_neg hshorter]
      exact (if_neg hshorter).symm
  | null => rfl
  | bool value => rfl
  | nested b inner h => rfl

theorem boolOf_number (text : List Char) : (boolOf (.number text)).toOption =
    if boolSize ≤ text.length then none
    else (strtol text).bind fun value => some (decide (value ≠ 0)) := by
  rw [boolOf, ← strtolChecked_toOption]
  split_ifs
  · rfl
  · cases strtolChecked text <;> rfl

theorem boolOf_string (body : List Char) : (boolOf (.string body)).toOption =
    (copyJsonString boolSize body []).toOption.map isOn := by
  rw [boolOf]
  cases copyJsonString boolSize body [] <;> rfl

theorem boolReading_faithful (hr : r.Standard) : boolReading.Faithful r := by
  intro v
  cases v with
  | number n => exact number_faithful hr boolOf_number n
  | string pieces =>
    refine (boolOf_string (spelled pieces)).trans ?_
    rw [copy_faithful hr (by decide)]
    by_cases hshorter : shorter boolSize pieces = true
    · rw [if_pos hshorter]
      exact (if_pos hshorter).symm
    · rw [if_neg hshorter]
      exact (if_neg hshorter).symm
  | null => rfl
  | bool value => rfl
  | nested b inner h => rfl

end Faithful

/-! ### Reading a parameter of a text -/

/-- The text of a document, or the empty text if there is none. -/
def textOf : Option Document → List Char
  | none => []
  | some d => d.text

def writtenMembers : Option Document → List Member
  | none => []
  | some d => d.members

theorem document_ne_nil (d : Document) : d.text ≠ [] := by
  intro hnil
  rw [Document.text, List.append_eq_nil_iff] at hnil
  cases hnil.2

/-- What is read of the member that is come to, if it is legible. -/
def Reading.readSpelled {α : Type} (g : Reading α) (r : Reader) (required : Bool) :
    Option (Option Value) → Option (Option α)
  | none => none
  | some none => (absent required).toOption
  | some (some .null) => (absent required).toOption
  | some (some v) => if g.legible v = true then (g.meaning (v.tree r)).map some else none

/-- A value that is not null is handed to the reader if it is scanned at all. -/
theorem paramsGet_value {α : Type} {g : Reading α} {r : Reader} (hg : g.Faithful r)
    (required : Bool) {params : List Char} {key : String} {v : Value} (hsome : params ≠ [])
    (hfind : paramsFind params key = found (some (some v))) (hnull : scanned v ≠ some .null) :
    (paramsGet g.read params key required).toOption =
      if g.legible v = true then (g.meaning (v.tree r)).map some else none := by
  have hv := hg v
  rw [paramsGet, if_neg hsome, hfind, found]
  cases hscanned : scanned v with
  | none =>
    rw [hscanned, Option.bind_none] at hv
    split_ifs at hv ⊢ with hlegible
    · rw [← hv]
      rfl
    · rfl
  | some value =>
    have hread : ((g.read value).map some).toOption = (g.read value).toOption.map some := by
      cases g.read value <;> rfl
    rw [hscanned, Option.bind_some] at hv
    have hok : (((g.read value).map some : Except EspErr (Option α))).toOption =
        if g.legible v = true then (g.meaning (v.tree r)).map some else none := by
      rw [hread, hv]
      split_ifs <;> rfl
    cases value with
    | null => exact absurd hscanned hnull
    | string body => exact hok
    | number text => exact hok
    | bool value => exact hok

theorem paramsGet_text {α : Type} {g : Reading α} {r : Reader} (hg : g.Faithful r)
    (params : Option Document) (key : String) (required : Bool) :
    (paramsGet g.read (textOf params) key required).toOption =
      g.readSpelled r required (firstMember key (writtenMembers params)) := by
  cases params with
  | none => rfl
  | some d =>
    have hsome := document_ne_nil d
    have hfind := paramsFind_text d key
    rw [textOf, writtenMembers]
    cases hfirst : firstMember key d.members with
    | none =>
      rw [paramsGet, if_neg hsome, hfind, hfirst]
      rfl
    | some first =>
      rw [hfirst] at hfind
      cases first with
      | none =>
        rw [paramsGet, if_neg hsome, hfind]
        rfl
      | some v =>
        have hvalue := paramsGet_value hg required hsome hfind
        cases v with
        | null =>
          rw [paramsGet, if_neg hsome, hfind]
          rfl
        | bool value => exact hvalue (by simp [scanned])
        | number n =>
          refine hvalue ?_
          rw [scanned]
          split_ifs <;> simp
        | string pieces => exact hvalue (by simp [scanned])
        | nested b inner h => exact hvalue (by simp [scanned])

/-! ### What is checked -/

def lastNamed (key : String) : List (String × Json) → Option Json
  | [] => none
  | m :: members => (lastNamed key members).or (if m.1 = key then some m.2 else none)

theorem get_cons (m : String × Json) (members : List (String × Json)) (key : String) :
    (Json.object (m :: members)).get key =
      if m.1 = key then some m.2 else (Json.object members).get key := by
  rw [Json.get, List.find?_cons]
  by_cases hkey : m.1 = key
  · rw [if_pos hkey, decide_eq_true hkey]
    rfl
  · rw [if_neg hkey, decide_eq_false hkey]
    rfl

theorem setMember_get (name : String) (value : Json) (members : List (String × Json))
    (key : String) : (Json.object (setMember name value members)).get key =
      if name = key then some value else (Json.object members).get key := by
  induction members with
  | nil => exact get_cons (name, value) [] key
  | cons m members ih =>
    rw [setMember]
    by_cases hname : m.1 = name
    · rw [if_pos hname, get_cons, get_cons]
      by_cases hkey : name = key
      · rw [if_pos hkey, if_pos hkey]
      · rw [if_neg hkey, if_neg hkey, if_neg (hname ▸ hkey)]
    rw [if_neg hname, get_cons, get_cons, ih]
    by_cases hkey : m.1 = key
    · rw [if_pos hkey, if_pos hkey, if_neg (fun h => hname (hkey.trans h.symm))]
    · rw [if_neg hkey, if_neg hkey]

theorem setMembers_get {members effective result : List (String × Json)}
    (h : setMembers members effective = .ok result) (key : String) : (Json.object result).get key =
      (lastNamed key members).or ((Json.object effective).get key) := by
  induction members generalizing effective with
  | nil =>
    cases h
    rfl
  | cons m members ih =>
    rw [setMembers] at h
    by_cases hempty : m.1 = ""
    · rw [if_pos hempty] at h
      cases h
    rw [if_neg hempty] at h
    rw [ih h, setMember_get, lastNamed, Option.or_assoc]
    congr 1
    by_cases hkey : m.1 = key
    · rw [if_pos hkey, if_pos hkey]
      rfl
    · rw [if_neg hkey, if_neg hkey]
      rfl

/-- The members of a document as they are read. -/
def treeMembers (r : Reader) (members : List Member) : List (String × Json) :=
  members.map fun m => (m.name r, m.value.tree r)

/-- The value of a key that is checked: the last one in the parameters, or else the last one in
    the default arguments. -/
def checkedValue (r : Reader) (defaults params : List Member) (key : String) : Option Json :=
  (lastNamed key (treeMembers r params)).or (lastNamed key (treeMembers r defaults))

theorem mergeEffectiveParams_get {r : Reader} {defaultArgs : Option Json}
    {defaults params : Option Document} {effective : Json}
    (hdefaults : membersOf defaultArgs = treeMembers r (writtenMembers defaults))
    (hparams : ∀ d ∈ params, r.Reads d)
    (h : mergeEffectiveParams r defaultArgs (textOf params) = .ok effective) (key : String) :
    effective.get key = checkedValue r (writtenMembers defaults) (writtenMembers params) key := by
  rw [mergeEffectiveParams, hdefaults] at h
  cases hset : setMembers (treeMembers r (writtenMembers defaults)) [] with
  | error err =>
    rw [hset] at h
    cases h
  | ok members =>
    rw [hset] at h
    have hbase : (Json.object members).get key =
        lastNamed key (treeMembers r (writtenMembers defaults)) := by
      rw [setMembers_get hset]
      exact Option.or_none
    cases params with
    | none =>
      cases h
      exact hbase
    | some d =>
      have hread : r.parse d.text = some (.object (treeMembers r d.members)) :=
        hparams d rfl
      rw [textOf] at h
      dsimp only at h
      rw [if_neg (document_ne_nil d), hread] at h
      dsimp only at h
      cases hover : setMembers (treeMembers r d.members) members with
      | error err =>
        rw [hover] at h
        cases h
      | ok result =>
        rw [hover] at h
        cases h
        rw [setMembers_get hover, hbase]
        rfl

end SceneHub.Executor
