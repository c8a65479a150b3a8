import Mathlib.Data.List.Basic
import SceneHub.EspErr

/-!
# Scanning a Payload

The reader of `device_control_ingest_apply.c`. It goes through the members of an object
without building a tree: a cursor moves over the text, and a value is the part of the text
it is written in.

A text is a list of bytes, each written as a character, up to the closing zero. A cursor is
the rest of the text behind it. What a scanner moves over is handed back with the rest.

## Main definitions

* `Value`: The text of a value, a string or anything else.
* `nextPair`: `dci_json_next_pair`.
* `readPairs`: The members of an object, and how the reading ends.
* `copyString`: `dci_json_copy_string_value`, byte by byte.
* `decode`: The text that a string stands for.
-/

namespace SceneHub.Ingest

/-- `dci_json_skip_ws`. -/
def isWs (c : Char) : Bool := c = ' ' ∨ c = '\t' ∨ c = '\r' ∨ c = '\n'

def skipWs (text : List Char) : List Char := text.dropWhile isWs

/-! ### Values -/

/-- The text of a value: what is between the quotes of a string, or the text itself. -/
inductive Value where
  | string (body : List Char)
  | raw (text : List Char)
  deriving DecidableEq, Repr

/-- The text of a value with its quotes. -/
def Value.text : Value → List Char
  | .string body => '"' :: body ++ ['"']
  | .raw text => text

/-- `dci_json_skip_string` behind the first quote: what is in front of the closing one, and the
    rest behind it. -/
def skipString : List Char → Option (List Char × List Char)
  | [] => none
  | '\\' :: [] => none
  | '\\' :: c :: rest => (skipString rest).map fun r => ('\\' :: c :: r.1, r.2)
  | c :: rest =>
    if c = '"' then some ([], rest) else (skipString rest).map fun r => (c :: r.1, r.2)

/-- What comes next in an object or an array: anything, or a byte of a string. -/
inductive Nesting where
  | plain
  | quoted
  | escaped
  deriving DecidableEq, Repr

def nestingMax : Nat := 32

/-- The loop of `dci_json_skip_value` over an object or an array, with the brackets that are
    open. -/
def skipNested : List Char → Nesting → List Char → Option (List Char × List Char)
  | _, _, [] => none
  | stack, .escaped, c :: rest => (skipNested stack .quoted rest).map fun r => (c :: r.1, r.2)
  | stack, .quoted, c :: rest =>
    (skipNested stack (if c = '\\' then .escaped else if c = '"' then .plain else .quoted)
      rest).map fun r => (c :: r.1, r.2)
  | stack, .plain, c :: rest =>
    if c = '"' then (skipNested stack .quoted rest).map fun r => (c :: r.1, r.2)
    else if c = '{' ∨ c = '[' then
      if nestingMax ≤ stack.length then none
      else (skipNested (c :: stack) .plain rest).map fun r => (c :: r.1, r.2)
    else if c = '}' ∨ c = ']' then
      match stack with
      | [] => none
      | top :: below =>
        if c ≠ (if top = '{' then '}' else ']') then none
        else match below with
          | [] => some ([c], rest)
          | _ => (skipNested below .plain rest).map fun r => (c :: r.1, r.2)
    else (skipNested stack .plain rest).map fun r => (c :: r.1, r.2)

/-- `dci_json_skip_value` at a byte that is not blank. -/
def skipValue : List Char → Option (Value × List Char)
  | [] => none
  | c :: rest =>
    if c = '"' then (skipString rest).map fun r => (.string r.1, r.2)
    else if c = '{' ∨ c = '[' then
      (skipNested [c] .plain rest).map fun r => (.raw (c :: r.1), r.2)
    else
      some (.raw ((c :: rest).takeWhile fun c => c ≠ ',' ∧ c ≠ '}'),
        (c :: rest).dropWhile fun c => c ≠ ',' ∧ c ≠ '}')

/-! ### Members -/

/-- The key of a member, which has no escapes, and the rest behind it. -/
def readKey : List Char → Except EspErr (List Char × List Char)
  | [] => .error .invalidArg
  | c :: rest =>
    if c = '\\' then .error .notSupported
    else if c = '"' then .ok ([], rest)
    else match readKey rest with
      | .error err => .error err
      | .ok (key, rest) => .ok (c :: key, rest)

/-- What `dci_json_next_pair` finds: the closing bracket, which it reports as not found, or a
    member. -/
inductive Pair where
  | close (rest : List Char)
  | member (key : List Char) (value : Value) (rest : List Char)
  deriving DecidableEq, Repr

/-- The part of `dci_json_next_pair` behind the key. -/
def readValue (key text : List Char) : Except EspErr Pair :=
  match skipWs text with
  | [] => .error .invalidArg
  | c :: rest =>
    if c ≠ ':' then .error .invalidArg
    else match skipValue (skipWs rest) with
      | none => .error .invalidArg
      | some (value, rest) =>
        match skipWs rest with
        | [] => .error .invalidArg
        | c :: rest =>
          if c = ',' then .ok (.member key value rest)
          else if c = '}' then .ok (.member key value (c :: rest))
          else .error .invalidArg

def nextPair (text : List Char) : Except EspErr Pair :=
  match skipWs text with
  | [] => .error .invalidArg
  | c :: rest =>
    if c = '}' then .ok (.close rest)
    else if c ≠ '"' then .error .invalidArg
    else match readKey rest with
      | .error err => .error err
      | .ok (key, rest) => readValue key rest

/-- The members of an object up to the closing bracket or to one that cannot be read, and the
    rest behind the bracket. Every member is shorter than the text, which bounds their
    number. -/
def readPairs : Nat → List Char → List (List Char × Value) × Except EspErr (List Char)
  | 0, _ => ([], .error .fail)
  | fuel + 1, text =>
    match nextPair text with
    | .error err => ([], .error err)
    | .ok (.close rest) => ([], .ok rest)
    | .ok (.member key value rest) =>
      let r := readPairs fuel rest
      ((key, value) :: r.1, r.2)

/-- `dci_json_iterate_object`: the text behind the opening bracket. -/
def objectBody (text : List Char) : Option (List Char) :=
  match skipWs text with
  | [] => none
  | c :: rest => if c = '{' then some rest else none

/-! ### Copies -/

/-- The byte an escape stands for. -/
def unescape (c : Char) : Option Char :=
  if c = '"' ∨ c = '\\' ∨ c = '/' then some c
  else if c = 'b' then some (Char.ofNat 8)
  else if c = 'f' then some (Char.ofNat 12)
  else if c = 'n' then some '\n'
  else if c = 'r' then some '\r'
  else if c = 't' then some '\t'
  else none

/-- The loop of `dci_json_copy_string_value` into an array of `size` bytes: whether it gets to
    the end, and the bytes it has written. -/
def copyString (size : Nat) : List Char → List Char → Bool × List Char
  | [], written => (true, written)
  | '\\' :: [], written => (false, written)
  | '\\' :: c :: rest, written =>
    match unescape c with
    | some ch =>
      if size ≤ written.length + 1 then (false, written)
      else copyString size rest (written ++ [ch])
    | none =>
      if size ≤ written.length + 2 then (false, written)
      else copyString size rest (written ++ ['\\', c])
  | c :: rest, written =>
    if size ≤ written.length + 1 then (false, written)
    else copyString size rest (written ++ [c])

/-- The text that a string stands for. An escape that the copy does not know, such as that of a
    code point, stands for itself. -/
def decode : List Char → List Char
  | [] => []
  | '\\' :: [] => []
  | '\\' :: c :: rest =>
    match unescape c with
    | some ch => ch :: decode rest
    | none => '\\' :: c :: decode rest
  | c :: rest => c :: decode rest

/-- A value without the blanks around it, as `dci_json_copy_raw_value` copies it. -/
def Value.trimmed (v : Value) : List Char := (skipWs v.text.reverse).reverse.dropWhile isWs

end SceneHub.Ingest
