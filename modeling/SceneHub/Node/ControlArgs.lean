import SceneHub.Node.ConfigTypes
import SceneHub.Node.MqttMessage

/-!
# Arguments of Commands

How the handlers of commands read their arguments: `node_control_json.c`. A reader looks for the
quoted key anywhere in the text, and reads what is behind the next colon.

A text is a C string with one character for every byte. Numbers are read by `sscanf`, which cuts a
number that is beyond the limits of 32 bits, and takes a minus for an unsigned one.

## Main definitions

* `argText`: The text behind the colon behind a key.
* `readIntArg`, `readU32Arg`, `readBoolArg`, `readPwmArg`, `readStringArg`, `readColorArg`: The
  readers, and the two that fall back on a value.
* `jsonHasKey`: A quoted key stands in the text.
-/

namespace SceneHub.Node

open Config (Rgbw)

/-- `snprintf` of a quoted key into `pattern[size]`. -/
def keyPattern (size : Nat) (key : String) : Option (List Char) :=
  let pattern := '"' :: key.toList ++ ['"']
  if size ≤ pattern.length then none else some pattern

/-- The text behind the colon, which all readers look for. -/
def argText (json : List Char) (key : String) : Option (List Char) :=
  match (keyPattern 40 key).bind fun pattern => strstr pattern json with
  | none => none
  | some rest =>
    match rest.dropWhile (· ≠ ':') with
    | [] => none
    | _ :: value => some value

/-- The number that `sscanf` finds, whatever its size. -/
def scanNumber (text : List Char) : Option Int :=
  let (value, rest) := strtol text
  if rest.length = text.length then none else some value

/-- What `%d` makes of a number. -/
def signedOf (value : Int) : Int32 := Int32.ofInt (max (-2147483648) (min 2147483647 value))

/-- What `%u` makes of a number. -/
def unsignedOf (value : Int) : UInt32 :=
  if 4294967295 < value.natAbs then 4294967295 else UInt32.ofInt value

def readIntArg (json : List Char) (key : String) : Option Int32 :=
  ((argText json key).bind scanNumber).map signedOf

def readU32Arg (json : List Char) (key : String) : Option UInt32 :=
  ((argText json key).bind scanNumber).map unsignedOf

def readBoolArg (json : List Char) (key : String) : Option Bool :=
  (argText json key).bind fun text =>
    let value := text.dropWhile fun c => c = ' ' ∨ c = '\t' ∨ c = '\r' ∨ c = '\n'
    if "true".toList.isPrefixOf value then some true
    else if "false".toList.isPrefixOf value then some false
    else (scanNumber value).map fun n => signedOf n ≠ 0

def jsonHasKey (json : List Char) (key : String) : Bool :=
  ((keyPattern 48 key).bind fun pattern => strstr pattern json).isSome

def jsonHasAnyKey (json : List Char) (keys : List String) : Bool := keys.any (jsonHasKey json)

/-- A number is a level. -/
def levelOf (value : Int32) : Option UInt8 :=
  if value < 0 ∨ 255 < value then none else some value.toUInt32.toUInt8

def readPwmArg (json : List Char) (key : String) : Option UInt8 :=
  (readIntArg json key).bind levelOf

/-- `read_optional_pwm_arg`; `none` is a failure. -/
def readOptionalPwmArg (json : List Char) (key : String) (fallback : UInt8) : Option UInt8 :=
  match readIntArg json key with
  | none => some fallback
  | some value => levelOf value

/-- The loop of `read_string_arg`, which copies up to the closing quote. -/
def copyArg (outSize : Nat) (out : List Char) : List Char → Option (List Char)
  | [] => none
  | c :: rest =>
    if c = '"' then if out = [] then none else some out
    else if outSize ≤ out.length + 1 then none
    else copyArg outSize (out ++ [c]) rest

def readStringArg (json : List Char) (key : String) (outSize : Nat) : Option (List Char) :=
  (argText json key).bind fun text =>
    match text.dropWhile (· ≠ '"') with
    | [] => none
    | _ :: rest => copyArg outSize [] rest

/-- The value of a hexadecimal digit. -/
def hexDigit (c : Char) : Option Nat :=
  if '0' ≤ c ∧ c ≤ '9' then some (c.toNat - '0'.toNat)
  else if 'a' ≤ c ∧ c ≤ 'f' then some (c.toNat - 'a'.toNat + 10)
  else if 'A' ≤ c ∧ c ≤ 'F' then some (c.toNat - 'A'.toNat + 10)
  else none

def parseHexBytes : List Char → Option (List UInt8)
  | [] => some []
  | [_] => none
  | high :: low :: rest =>
    match hexDigit high, hexDigit low, parseHexBytes rest with
    | some high, some low, some bytes => some (UInt8.ofNat (high * 16 + low) :: bytes)
    | _, _, _ => none

def parseColorText (text : List Char) : Option Rgbw :=
  let digits := match text with
    | '#' :: rest => rest
    | _ => text
  match parseHexBytes digits with
  | some [red, green, blue] => some ⟨red, green, blue, 0⟩
  | some [red, green, blue, white] => some ⟨red, green, blue, white⟩
  | _ => none

def readColorArg (json : List Char) (key : String) : Option Rgbw :=
  (readStringArg json key 16).bind parseColorText

/-- `read_optional_color_arg`; `none` is a failure. -/
def readOptionalColorArg (json : List Char) (key : String) (fallback : Rgbw) : Option Rgbw :=
  match readStringArg json key 16 with
  | none => some fallback
  | some text => parseColorText text

end SceneHub.Node
