import Mathlib.Data.List.Basic
import SceneHub.Json

/-!
# JSON Objects as They Are Written

A JSON object with everything a text can choose: the blanks between the parts, the escapes
in its strings, the way a number is written, the order of its members, and how often a key
is repeated. A text is a list of bytes, each written as a character, up to the closing zero.

What a document means is the tree `cJSON` reads it as. How `cJSON` reads a number, a string
and what is nested in an object is a parameter, since its code is not part of the
repository. `Reader.Standard` is what is relied on: an integer is read as its value, cut to
the limits of `int`, and a string without the escapes of code points as its bytes.

What is between the brackets of a nested value is only known to have its strings closed and
its brackets in pairs. That is more than JSON allows.

## Main definitions

* `Piece`, `Number`, `Inside`, `Value`, `Member`, `Document`: The parts of a text.
* `Document.text`: The text.
* `Reader`: How `cJSON` reads and prints.
* `Document.tree`: What a document means.
-/

namespace SceneHub.JsonText

/-- The blanks of JSON. -/
def isBlank (c : Char) : Bool := c = ' ' ∨ c = '\t' ∨ c = '\r' ∨ c = '\n'

/-- Blanks between two parts. -/
structure Gap where
  text : List Char
  blank : ∀ c ∈ text, isBlank c = true

/-! ### Strings -/

/-- The escapes of a single byte. -/
inductive Escape where
  | quote
  | backslash
  | slash
  | backspace
  | formFeed
  | newline
  | carriageReturn
  | tab
  deriving DecidableEq, Repr

/-- The letter behind the backslash. -/
def Escape.letter : Escape → Char
  | .quote => '"'
  | .backslash => '\\'
  | .slash => '/'
  | .backspace => 'b'
  | .formFeed => 'f'
  | .newline => 'n'
  | .carriageReturn => 'r'
  | .tab => 't'

/-- The byte an escape stands for. -/
def Escape.byte : Escape → Char
  | .quote => '"'
  | .backslash => '\\'
  | .slash => '/'
  | .backspace => Char.ofNat 8
  | .formFeed => Char.ofNat 12
  | .newline => '\n'
  | .carriageReturn => '\r'
  | .tab => '\t'

def isHexDigit (c : Char) : Bool :=
  ('0' ≤ c ∧ c ≤ '9') ∨ ('a' ≤ c ∧ c ≤ 'f') ∨ ('A' ≤ c ∧ c ≤ 'F')

/-- The four digits of a code point. -/
structure Hex where
  digits : List Char
  length_eq : digits.length = 4
  isHex : ∀ c ∈ digits, isHexDigit c = true

/-- A part of a string: a byte, an escape, or the escape of a code point. -/
inductive Piece where
  | byte (c : Char) (h : c ≠ '"' ∧ c ≠ '\\' ∧ c ≠ '\x00')
  | escape (e : Escape)
  | unicode (hex : Hex)

namespace Piece

def text : Piece → List Char
  | byte c _ => [c]
  | escape e => ['\\', e.letter]
  | unicode hex => '\\' :: 'u' :: hex.digits

/-- No escape at all. -/
def plain : Piece → Bool
  | byte _ _ => true
  | _ => false

/-- The byte it stands for, if it is not the escape of a code point. -/
def decoded : Piece → Option Char
  | byte c _ => some c
  | escape e => some e.byte
  | unicode _ => none

end Piece

/-- What is between the quotes of a string. -/
def spelled (pieces : List Piece) : List Char := pieces.flatMap Piece.text

/-- The bytes of a string; `none` if it has the escape of a code point. -/
def decoded (pieces : List Piece) : Option (List Char) := pieces.mapM Piece.decoded

/-- No piece is an escape. -/
def plain (pieces : List Piece) : Bool := pieces.all Piece.plain

/-! ### Numbers -/

def isDigit (c : Char) : Bool := '0' ≤ c ∧ c ≤ '9'

/-- The bytes of a fraction and an exponent. -/
def isTail (c : Char) : Bool := isDigit c ∨ c = '.' ∨ c = 'e' ∨ c = 'E' ∨ c = '+' ∨ c = '-'

/-- A number as it is written. The tail is its fraction and its exponent. -/
structure Number where
  negative : Bool
  digits : List Char
  tail : List Char
  digits_ne : digits ≠ []
  isDigit_digits : ∀ c ∈ digits, isDigit c = true
  isTail_tail : ∀ c ∈ tail, isTail c = true
  head_tail : ∀ c ∈ tail.head?, isDigit c = false

namespace Number

def sign (n : Number) : List Char := if n.negative then ['-'] else []

def text (n : Number) : List Char := n.sign ++ n.digits ++ n.tail

/-- The value of digits. -/
def ofDigits (digits : List Char) : Nat :=
  digits.foldl (fun value c => 10 * value + (c.toNat - '0'.toNat)) 0

/-- The number without its tail. -/
def integer (n : Number) : Int :=
  if n.negative then -(ofDigits n.digits : Int) else ofDigits n.digits

end Number

/-- The nearest number within the limits of `int`, which are those of `long`. -/
def saturate (value : Int) : Int := max (-2147483648) (min 2147483647 value)

/-! ### Values -/

inductive Bracket where
  | brace
  | square
  deriving DecidableEq, Repr

namespace Bracket

def opening : Bracket → Char
  | brace => '{'
  | square => '['

def closing : Bracket → Char
  | brace => '}'
  | square => ']'

end Bracket

/-- A byte with no meaning of its own: no quote and no bracket. -/
def isBare (c : Char) : Bool :=
  ¬(c = '"' ∨ c = '{' ∨ c = '}' ∨ c = '[' ∨ c = ']' ∨ c = '\x00')

/-- What is between two brackets: bytes, strings and nested brackets. -/
inductive Inside : List Char → Prop where
  | nil : Inside []
  | bare {c : Char} {rest : List Char} (h : isBare c = true) (ih : Inside rest) :
      Inside (c :: rest)
  | string (pieces : List Piece) {rest : List Char} (ih : Inside rest) :
      Inside ('"' :: (spelled pieces ++ '"' :: rest))
  | nested (b : Bracket) {inner rest : List Char} (hinner : Inside inner) (ih : Inside rest) :
      Inside (b.opening :: (inner ++ b.closing :: rest))

inductive Value where
  | null
  | bool (value : Bool)
  | number (n : Number)
  | string (pieces : List Piece)
  | nested (b : Bracket) (inner : List Char) (h : Inside inner)

def Value.text : Value → List Char
  | .null => ['n', 'u', 'l', 'l']
  | .bool true => ['t', 'r', 'u', 'e']
  | .bool false => ['f', 'a', 'l', 's', 'e']
  | .number n => n.text
  | .string pieces => '"' :: (spelled pieces ++ ['"'])
  | .nested b inner _ => b.opening :: (inner ++ [b.closing])

/-! ### Objects -/

structure Member where
  before : Gap
  key : List Piece
  afterKey : Gap
  beforeValue : Gap
  value : Value
  after : Gap

namespace Member

/-- The member without the blanks around it. -/
def pairText (m : Member) : List Char :=
  '"' :: (spelled m.key ++ '"' :: (m.afterKey.text ++ ':' :: (m.beforeValue.text ++ m.value.text)))

def text (m : Member) : List Char := m.before.text ++ m.pairText ++ m.after.text

end Member

/-- The members of an object, each behind a comma. -/
def furtherText (members : List Member) : List Char := members.flatMap fun m => ',' :: m.text

/-- A text that is an object, with blanks in front and anything behind it. -/
structure Document where
  lead : Gap
  members : List Member
  /-- What is between the brackets if there are no members. -/
  empty : Gap
  rest : List Char

/-- What is between the brackets. -/
def membersText (empty : Gap) : List Member → List Char
  | [] => empty.text
  | m :: members => m.text ++ furtherText members

def Document.text (d : Document) : List Char :=
  d.lead.text ++ '{' :: (membersText d.empty d.members ++ '}' :: d.rest)

/-! ### What a document means -/

/-- How `cJSON` reads a text, a number, a string and a value in brackets, and how it prints a
    tree. -/
structure Reader where
  parse : List Char → Option Json
  print : Json → List Char
  number : Number → Rat
  string : List Piece → String
  nested : List Char → Json

/-- What is relied on of the reading of numbers and strings. -/
structure Reader.Standard (r : Reader) : Prop where
  integer : ∀ n : Number, n.tail = [] → Json.valueInt (r.number n) = saturate n.integer
  string : ∀ pieces text, decoded pieces = some text → r.string pieces = String.ofList text

def Value.tree (r : Reader) : Value → Json
  | .null => .null
  | .bool value => .bool value
  | .number n => .number (r.number n)
  | .string pieces => .string (r.string pieces)
  | .nested b inner _ => r.nested (b.opening :: (inner ++ [b.closing]))

/-- The key of a member, as it is read. -/
def Member.name (r : Reader) (m : Member) : String := r.string m.key

def Document.tree (r : Reader) (d : Document) : Json :=
  .object (d.members.map fun m => (m.name r, m.value.tree r))

/-- The text of a document is read as JSON says. -/
def Reader.Reads (r : Reader) (d : Document) : Prop := r.parse d.text = some (d.tree r)

end SceneHub.JsonText
