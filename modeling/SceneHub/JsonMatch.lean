/-!
# Event Argument Matching

The JSON containment test a device event's arguments go through: the
`gm_json_*` functions of `gm_room_session_events.c`.

The C code walks a text with a cursor and an end pointer. Here a cursor is the
list of characters it still has in front of it, so advancing it is dropping
characters, and a view of `n` characters is the first `n` of a cursor. Two
loops do not advance by a fixed amount, because a string or a nested value is
skipped as a whole; they carry a fuel that starts at the length of the text,
which each turn shortens by at least one character.

## Main definitions

* `skipValue`: Skipping one value, with the nesting limit of eight.
* `nextPair`: Reading one member of an object.
* `valuesMatch`: Comparing two values, objects by containment.
* `objectContainsExpected`: Every member expected is present and matches.
-/

namespace SceneHub.JsonMatch

def quoteChar : Char := Char.ofNat 34
def backslashChar : Char := Char.ofNat 92
def openBrace : Char := Char.ofNat 123
def closeBrace : Char := Char.ofNat 125
def openBracket : Char := Char.ofNat 91
def closeBracket : Char := Char.ofNat 93
def commaChar : Char := Char.ofNat 44
def colonChar : Char := Char.ofNat 58

/-- `QUEST_PAYLOAD_MAX_LEN`, the size of the buffers a nested object is copied to. -/
def payloadMaxLen : Nat := 160

/-- Size of the bracket stack in `gm_json_skip_value`. -/
def nestingMax : Nat := 8

def isWs (c : Char) : Bool :=
  c = ' ' || c = Char.ofNat 9 || c = Char.ofNat 13 || c = Char.ofNat 10

def skipWs (p : List Char) : List Char := p.dropWhile isWs

/-- The loop of `gm_json_skip_string`, entered behind the opening quote. -/
def skipStringBody : List Char → Option (List Char)
  | [] => none
  | c :: rest =>
    if c = backslashChar then
      match rest with
      | [] => none
      | _ :: rest => skipStringBody rest
    else if c = quoteChar then some rest
    else skipStringBody rest

def skipString : List Char → Option (List Char)
  | [] => none
  | c :: rest => if c = quoteChar then skipStringBody rest else none

/-- The loop of `gm_json_skip_value` over a nested value. The stack holds the
    brackets still open, innermost first. -/
def skipNested : Nat → List Char → List Char → Option (List Char)
  | 0, _, _ => none
  | _ + 1, _, [] => none
  | fuel + 1, stack, c :: rest =>
    if c = quoteChar then
      match skipStringBody rest with
      | none => none
      | some p => skipNested fuel stack p
    else if c = openBrace ∨ c = openBracket then
      if nestingMax ≤ stack.length then none else skipNested fuel (c :: stack) rest
    else if c = closeBrace ∨ c = closeBracket then
      match stack with
      | [] => none
      | top :: below =>
        if c ≠ (if top = openBrace then closeBrace else closeBracket) then none
        else if below = [] then some rest
        else skipNested fuel below rest
    else skipNested fuel stack rest

def skipValue (cursor : List Char) : Option (List Char) :=
  match skipWs cursor with
  | [] => none
  | c :: rest =>
    if c = quoteChar then skipStringBody rest
    else if c = openBrace ∨ c = openBracket then skipNested (rest.length + 1) [c] rest
    else some ((c :: rest).dropWhile fun d => d ≠ commaChar ∧ d ≠ closeBrace)

inductive NextPair where
  /-- `ESP_ERR_NOT_FOUND`: the object is closed. -/
  | closed
  /-- Any other error code. -/
  | invalid
  /-- `ESP_OK` with the pair read and the cursor behind it. -/
  | pair (key value cursor : List Char)
  deriving DecidableEq, Repr

/-- The key and the cursor behind its closing quote. A backslash in a key is
    `ESP_ERR_NOT_SUPPORTED`. -/
def readKey : List Char → Option (List Char × List Char)
  | [] => none
  | c :: rest =>
    if c = backslashChar then none
    else if c = quoteChar then some ([], rest)
    else match readKey rest with
      | none => none
      | some (key, p) => some (c :: key, p)

def nextPair (cursor : List Char) : NextPair :=
  match skipWs cursor with
  | [] => .invalid
  | c :: rest =>
    if c = closeBrace then .closed
    else if c ≠ quoteChar then .invalid
    else match readKey rest with
      | none => .invalid
      | some (key, p) =>
        match skipWs p with
        | [] => .invalid
        | d :: p =>
          if d ≠ colonChar then .invalid
          else
            let value := skipWs p
            match skipValue value with
            | none => .invalid
            | some valueEnd =>
              let view := value.take (value.length - valueEnd.length)
              match skipWs valueEnd with
              | [] => .invalid
              | e :: p =>
                if e = commaChar then .pair key view p
                else if e = closeBrace then .pair key view (e :: p)
                else .invalid

def isEmptyObject (json : List Char) : Bool :=
  match skipWs json with
  | [] => false
  | c :: rest =>
    if c ≠ openBrace then false
    else match skipWs rest with
      | [] => false
      | d :: _ => d = closeBrace

/-- The search loop of `gm_json_find_pair_view`, behind the opening brace. -/
def findPairLoop : Nat → List Char → List Char → Option (List Char)
  | 0, _, _ => none
  | fuel + 1, p, key =>
    match nextPair p with
    | .closed => none
    | .invalid => none
    | .pair k value p => if k = key then some value else findPairLoop fuel p key

def findPairView (json key : List Char) : Option (List Char) :=
  if key = [] then none
  else match skipWs json with
    | [] => none
    | c :: rest => if c ≠ openBrace then none else findPairLoop (rest.length + 1) rest key

def trim (view : List Char) : List Char :=
  ((skipWs view).reverse.dropWhile isWs).reverse

/-- `contains` is the recursive call on two nested objects. -/
def valuesMatch (contains : List Char → List Char → Bool) (expected actual : List Char) : Bool :=
  let expected := trim expected
  let actual := trim actual
  if 2 ≤ expected.length ∧ expected.head? = some openBrace ∧ actual.head? = some openBrace then
    if payloadMaxLen < expected.length + 1 ∨ payloadMaxLen < actual.length + 1 then false
    else contains expected actual
  else expected = actual

/-- The member loop of `gm_json_object_contains_expected`. -/
def containsLoop (contains : List Char → List Char → Bool) : Nat → List Char → List Char → Bool
  | 0, _, _ => false
  | fuel + 1, p, actual =>
    match nextPair p with
    | .closed => true
    | .invalid => false
    | .pair key value p =>
      match findPairView actual key with
      | none => false
      | some actualValue =>
        valuesMatch contains value actualValue && containsLoop contains fuel p actual

/-- `gm_json_object_contains_expected` with a bound on the nesting it follows. -/
def containsWithin : Nat → List Char → List Char → Bool
  | 0, _, _ => false
  | depth + 1, expected, actual =>
    if isEmptyObject expected then true
    else match skipWs expected with
      | [] => false
      | c :: rest =>
        if c ≠ openBrace then false
        else containsLoop (containsWithin depth) (rest.length + 1) rest actual

/-- A nested object is shorter than the object it is a member of, so the
    length of the text bounds the nesting. -/
def objectContainsExpected (expectedJson actualJson : String) : Bool :=
  containsWithin (expectedJson.toList.length + 1) expectedJson.toList actualJson.toList

end SceneHub.JsonMatch
