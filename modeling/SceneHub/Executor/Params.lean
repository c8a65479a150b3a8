import SceneHub.Ingest.Scan
import SceneHub.JsonText

/-!
# Reading a Command's Parameters

The reader of `command_executor.c`. A parameter is looked up in the text of the parameters
without building a tree: the members are gone through from the front, and the first one of
the key is read.

A cursor is the rest of the text behind it, and what is read is handed back with the rest.

## Main definitions

* `paramsFind`: `command_executor_params_find`.
* `paramsGetString`, `paramsGetInt`, `paramsGetBool`: `command_executor_params_get_string`,
  `_int` and `_bool`.
-/

namespace SceneHub.Executor

/-! ### Scanning -/

def paramsSkipWs (text : List Char) : List Char := Ingest.skipWs text

/-- The loop of `params_skip_value` over an object or an array. Only the brackets of its own
    kind are counted. -/
def skipSame (b : JsonText.Bracket) : Nat → Ingest.Nesting → List Char → Option (List Char)
  | _, _, [] => none
  | depth, .escaped, _ :: rest => skipSame b depth .quoted rest
  | depth, .quoted, c :: rest =>
    skipSame b depth (if c = '\\' then .escaped else if c = '"' then .plain else .quoted) rest
  | depth, .plain, c :: rest =>
    if c = '"' then skipSame b depth .quoted rest
    else if c = b.opening then skipSame b (depth + 1) .plain rest
    else if c = b.closing then
      if depth = 1 then some rest else skipSame b (depth - 1) .plain rest
    else skipSame b depth .plain rest

/-- Moving over a value, with the loop over an object or an array behind its bracket. -/
def skipValueWith (skipNested : JsonText.Bracket → List Char → Option (List Char))
    (text : List Char) : Option (List Char) :=
  match Ingest.skipWs text with
  | [] => none
  | c :: rest =>
    if c = '"' then (Ingest.skipString rest).map Prod.snd
    else if c = '{' then skipNested .brace rest
    else if c = '[' then skipNested .square rest
    else some ((c :: rest).dropWhile fun c => c ≠ ',' ∧ c ≠ '}')

def paramsSkipValue : List Char → Option (List Char) :=
  skipValueWith fun b => skipSame b 1 .plain

/-- `params_read_key` behind the first quote. -/
def paramsReadKey (text : List Char) : Except EspErr (List Char × List Char) :=
  Ingest.readKey text

/-- `command_executor_param_value_t` with a value in it: a string and a number are the part
    of the text they are written in. -/
inductive ParamValue where
  | string (body : List Char)
  | number (text : List Char)
  | bool (value : Bool)
  | null
  deriving DecidableEq, Repr

/-- The end of `params_read_scalar`: a sign and digits. -/
def readNumber (sign text : List Char) : Except EspErr (ParamValue × List Char) :=
  if text.takeWhile JsonText.isDigit = [] then .error .invalidArg
  else .ok (.number (sign ++ text.takeWhile JsonText.isDigit), text.dropWhile JsonText.isDigit)

/-- `params_read_scalar` at a byte that is not blank. -/
def readScalar : List Char → Except EspErr (ParamValue × List Char)
  | [] => .error .invalidArg
  | c :: rest =>
    if c = '"' then
      match Ingest.skipString rest with
      | none => .error .invalidArg
      | some (body, rest) => .ok (.string body, rest)
    else if ['t', 'r', 'u', 'e'].isPrefixOf (c :: rest) then .ok (.bool true, (c :: rest).drop 4)
    else if ['f', 'a', 'l', 's', 'e'].isPrefixOf (c :: rest) then .ok (.bool false, (c :: rest).drop 5)
    else if ['n', 'u', 'l', 'l'].isPrefixOf (c :: rest) then .ok (.null, (c :: rest).drop 4)
    else if c = '-' then readNumber ['-'] rest
    else readNumber [] (c :: rest)

def paramsReadScalar (text : List Char) : Except EspErr (ParamValue × List Char) :=
  readScalar (paramsSkipWs text)

/-- What may stand behind the value of the key. -/
def endsValue : List Char → Bool
  | [] => true
  | c :: _ => c = ',' ∨ c = '}'

/-- Reading the value of the key, with what is behind it. -/
def readFound (text : List Char) : Except EspErr ParamValue :=
  match paramsReadScalar text with
  | .error err => .error err
  | .ok (value, rest) =>
    if endsValue (paramsSkipWs rest) then .ok value else .error .invalidArg

/-- The loop of `command_executor_params_find`. Every member is shorter than the text, which
    bounds their number. -/
def findMember (key : String) : Nat → List Char → Except EspErr ParamValue
  | 0, _ => .error .fail
  | fuel + 1, text =>
    match paramsSkipWs text with
    | [] => .error .invalidArg
    | c :: rest =>
      if c = '}' then .error .notFound
      else if c ≠ '"' then .error .invalidArg
      else match paramsReadKey rest with
        | .error err => .error err
        | .ok (jsonKey, rest) =>
          match paramsSkipWs rest with
          | [] => .error .invalidArg
          | c :: rest =>
            if c ≠ ':' then .error .invalidArg
            else if jsonKey = key.toList then readFound rest
            else match paramsSkipValue rest with
              | none => .error .invalidArg
              | some rest =>
                match paramsSkipWs rest with
                | [] => .error .invalidArg
                | c :: rest =>
                  if c = ',' then findMember key fuel rest
                  else if c = '}' then .error .notFound
                  else .error .invalidArg

def paramsFind (params : List Char) (key : String) : Except EspErr ParamValue :=
  match paramsSkipWs params with
  | [] => .error .notFound
  | c :: rest => if c = '{' then findMember key (rest.length + 1) rest else .error .invalidArg

/-! ### Values -/

/-- The loop of `params_copy_json_string` into an array of `size` bytes, with what it has
    written. -/
def copyJsonString (size : Nat) : List Char → List Char → Except EspErr (List Char)
  | [], written => .ok written
  | '\\' :: [], _ => .error .invalidArg
  | '\\' :: c :: rest, written =>
    match Ingest.unescape c with
    | none => .error .notSupported
    | some ch =>
      if size ≤ written.length + 1 then .error .invalidArg
      else copyJsonString size rest (written ++ [ch])
  | c :: rest, written =>
    if size ≤ written.length + 1 then .error .invalidArg
    else copyJsonString size rest (written ++ [c])

/-- The blanks of `isspace`. -/
def isSpace (c : Char) : Bool := c = ' ' ∨ (9 ≤ c.toNat ∧ c.toNat ≤ 13)

/-- The sign `strtol` takes. -/
def strtolSign : List Char → Bool × List Char
  | [] => (false, [])
  | c :: rest => if c = '-' then (true, rest) else if c = '+' then (false, rest) else (false, c :: rest)

/-- `strtol` of a text that is not empty; `none` if something of it is left over. A `long`
    has the limits of an `int`. -/
def strtol (text : List Char) : Option Int :=
  let (negative, digits) := strtolSign (text.dropWhile isSpace)
  if digits ≠ [] ∧ digits.all JsonText.isDigit then
    some (JsonText.saturate (if negative then -(JsonText.Number.ofDigits digits : Int)
      else JsonText.Number.ofDigits digits))
  else none

/-- The size of `tmp` in `command_executor_params_get_int`. -/
def intSize : Nat := 24

/-- The size of `tmp` in `command_executor_params_get_bool`. -/
def boolSize : Nat := 16

def strtolChecked (text : List Char) : Except EspErr Int :=
  match strtol text with
  | some value => .ok value
  | none => .error .invalidArg

def intOf : ParamValue → Except EspErr Int
  | .number text => if intSize ≤ text.length then .error .invalidArg else strtolChecked text
  | .string body =>
    match copyJsonString intSize body [] with
    | .error _ => .error .invalidArg
    | .ok text => if text = [] then .error .invalidArg else strtolChecked text
  | _ => .error .invalidArg

/-- The strings that switch something on. `strcasecmp` takes letters of either case. -/
def isOn (text : List Char) : Bool :=
  text.map Char.toLower = "true".toList ∨ text = "1".toList ∨
    text.map Char.toLower = "yes".toList ∨ text.map Char.toLower = "on".toList

def boolOf : ParamValue → Except EspErr Bool
  | .bool value => .ok value
  | .number text =>
    if boolSize ≤ text.length then .error .invalidArg
    else (strtolChecked text).map fun value => value ≠ 0
  | .string body => (copyJsonString boolSize body []).map isOn
  | .null => .error .invalidArg

def stringOf (size : Nat) : ParamValue → Except EspErr (List Char)
  | .string body => copyJsonString size body []
  | _ => .error .invalidArg

/-! ### Parameters -/

/-- What is handed back for a parameter that is not there: the variable stays as it is. -/
def absent {α : Type} (required : Bool) : Except EspErr (Option α) :=
  if required then .error .invalidArg else .ok none

/-- What the three readers share. -/
def paramsGet {α : Type} (read : ParamValue → Except EspErr α) (params : List Char)
    (key : String) (required : Bool) : Except EspErr (Option α) :=
  if params = [] then absent required
  else match paramsFind params key with
    | .error err => if err = .notFound then absent required else .error .invalidArg
    | .ok .null => absent required
    | .ok value => (read value).map some

/-- `command_executor_params_get_string` into an array of `size` bytes. -/
def paramsGetString (size : Nat) (params : List Char) (key : String) (required : Bool) :
    Except EspErr (Option (List Char)) :=
  if size = 0 then .error .invalidArg else paramsGet (stringOf size) params key required

def paramsGetInt : List Char → String → Bool → Except EspErr (Option Int) := paramsGet intOf

def paramsGetBool : List Char → String → Bool → Except EspErr (Option Bool) := paramsGet boolOf

end SceneHub.Executor
