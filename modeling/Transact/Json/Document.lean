/-
# JSON documents as written

A `Document` is the tree of a text before its leaves are interpreted: numbers
keep their digits and strings their escapes. Whoever reads a document decides
what a leaf must be, so a setting that nobody asks for may hold a number too
large for any format, and nesting costs nothing until a value is built.

Texts are read in two passes. `Token.ofChars?` groups the characters into
tokens, one character at a time, and `Document.ofTokens?` builds the tree on an
explicit stack of open arrays and objects.
-/

import Transact.Bytes

namespace Transact

/-- The spelling of a number: sign, whole part, and the parts after the point and the `e`. -/
structure NumberText where
  negative : Bool
  whole : List Char
  fraction : Option (List Char)
  exponent : Option (Bool × List Char)
  deriving DecidableEq, Repr

namespace NumberText

/-- Read an exponent part. -/
def exponentOf? : List Char → Option (Option (Bool × List Char))
  | [] => some none
  | mark :: rest =>
    if mark = 'e' ∨ mark = 'E' then
      let (negative, digits) : Bool × List Char :=
        match rest with
        | '-' :: digits => (true, digits)
        | '+' :: digits => (false, digits)
        | digits => (false, digits)
      if digits.isEmpty || !digits.all Char.isDigit then none else some (some (negative, digits))
    else none

/-- Read the spelling of a number. The whole part has no zero in front, and a point or an
exponent mark is followed by digits. -/
def ofChars? (chars : List Char) : Option NumberText := do
  let (negative, rest) : Bool × List Char :=
    match chars with
    | '-' :: rest => (true, rest)
    | rest => (false, rest)
  let whole := rest.takeWhile Char.isDigit
  let rest := rest.dropWhile Char.isDigit
  match whole with
  | [] => none
  | '0' :: _ :: _ => none
  | _ =>
    match rest with
    | '.' :: rest =>
      let fraction := rest.takeWhile Char.isDigit
      if fraction.isEmpty then none
      else
        let exponent ← exponentOf? (rest.dropWhile Char.isDigit)
        pure { negative, whole, fraction := some fraction, exponent }
    | rest =>
      let exponent ← exponentOf? rest
      pure { negative, whole, fraction := none, exponent }

end NumberText

/-- A piece of a string: a character, or a 16-bit unit written as an escape. -/
inductive StringPart where
  | char (c : Char)
  | unit (code : Nat)
  deriving DecidableEq, Repr

/-- The text that the pieces of a string spell. Units from the surrogate ranges have to come
in pairs, the leading one first. -/
def StringPart.textOf? : List StringPart → Option (List Char)
  | [] => some []
  | .char c :: rest => (textOf? rest).map (c :: ·)
  | .unit code :: rest =>
    if 0xD800 ≤ code ∧ code ≤ 0xDBFF then
      match rest with
      | .unit trail :: rest =>
        if 0xDC00 ≤ trail ∧ trail ≤ 0xDFFF then
          (textOf? rest).map
            (Char.ofNat (0x10000 + (code - 0xD800) * 0x400 + (trail - 0xDC00)) :: ·)
        else none
      | _ => none
    else if 0xDC00 ≤ code ∧ code ≤ 0xDFFF then none
    else (textOf? rest).map (Char.ofNat code :: ·)

/-- A token of a JSON text. -/
inductive Token where
  | openArray
  | closeArray
  | openObject
  | closeObject
  | colon
  | comma
  | null
  | bool (value : Bool)
  | number (text : NumberText)
  | string (parts : List StringPart)
  deriving DecidableEq, Repr

namespace Token

/-- What is being read: nothing, a bare word, or a string with an escape perhaps begun. The
characters of a word and the pieces of a string are in reverse. -/
inductive Mode where
  | between
  | word (chars : List Char)
  | text (parts : List StringPart)
  | escape (parts : List StringPart)
  | hex (parts : List StringPart) (missing value : Nat)
  deriving DecidableEq, Repr

/-- The token that a bare word is. -/
def ofWord? (chars : List Char) : Option Token :=
  if chars = ['n', 'u', 'l', 'l'] then some .null
  else if chars = ['t', 'r', 'u', 'e'] then some (.bool true)
  else if chars = ['f', 'a', 'l', 's', 'e'] then some (.bool false)
  else (NumberText.ofChars? chars).map .number

/-- The token that a single character is. -/
def ofMark? : Char → Option Token
  | '[' => some .openArray
  | ']' => some .closeArray
  | '{' => some .openObject
  | '}' => some .closeObject
  | ':' => some .colon
  | ',' => some .comma
  | _ => none

/-- The character that a one-letter escape stands for. -/
def escaped? : Char → Option Char
  | '"' => some '"'
  | '\\' => some '\\'
  | '/' => some '/'
  | 'b' => some '\x08'
  | 'f' => some '\x0c'
  | 'n' => some '\n'
  | 'r' => some '\r'
  | 't' => some '\t'
  | _ => none

/-- The value of a hexadecimal digit. -/
def hexDigit? (c : Char) : Option Nat :=
  if c.isDigit then some (c.toNat - '0'.toNat)
  else if 'a' ≤ c ∧ c ≤ 'f' then some (c.toNat - 'a'.toNat + 10)
  else if 'A' ≤ c ∧ c ≤ 'F' then some (c.toNat - 'A'.toNat + 10)
  else none

/-- Whether a character may stand between tokens. -/
def isSpace (c : Char) : Bool :=
  c == ' ' || c == '\t' || c == '\n' || c == '\r'

/-- Whether a character belongs to a bare word. -/
def isWordChar (c : Char) : Bool :=
  c.isAlphanum || c == '-' || c == '+' || c == '.'

/-- Read a character outside strings and words; `done` holds the finished tokens in reverse. -/
def stepBetween (done : List Token) (c : Char) : Option (Mode × List Token) :=
  if isSpace c then some (.between, done)
  else if c = '"' then some (.text [], done)
  else if isWordChar c then some (.word [c], done)
  else (ofMark? c).map fun token => (.between, token :: done)

/-- Read one character. -/
def step : Mode × List Token → Char → Option (Mode × List Token)
  | (.between, done), c => stepBetween done c
  | (.word chars, done), c =>
    if isWordChar c then some (.word (c :: chars), done)
    else (ofWord? chars.reverse).bind fun token => stepBetween (token :: done) c
  | (.text parts, done), c =>
    if c = '"' then some (.between, .string parts.reverse :: done)
    else if c = '\\' then some (.escape parts, done)
    else if c.toNat < 0x20 then none
    else some (.text (.char c :: parts), done)
  | (.escape parts, done), c =>
    if c = 'u' then some (.hex parts 4 0, done)
    else (escaped? c).map fun meant => (.text (.char meant :: parts), done)
  | (.hex parts missing value, done), c =>
    (hexDigit? c).map fun digit =>
      let value := value * 16 + digit
      if missing ≤ 1 then (.text (.unit value :: parts), done)
      else (.hex parts (missing - 1) value, done)

/-- The tokens of a text. -/
def ofChars? (chars : List Char) : Option (List Token) := do
  match ← chars.foldlM step (.between, []) with
  | (.between, done) => pure done.reverse
  | (.word word, done) => pure ((← ofWord? word.reverse) :: done).reverse
  | _ => none

end Token

/-- A JSON text as a tree. -/
inductive Document where
  | null
  | bool (value : Bool)
  | number (text : NumberText)
  | string (parts : List StringPart)
  | array (items : List Document)
  | object (members : List (List StringPart × Document))
  deriving Repr

namespace Document

/-- An array or object that is still open, with what it holds so far in reverse. -/
inductive Frame where
  | array (items : List Document)
  | object (members : List (List StringPart × Document)) (key : List StringPart)

/-- What has to come next. -/
inductive Expect where
  | value
  | firstItem
  | firstKey (members : List (List StringPart × Document))
  | key (members : List (List StringPart × Document))
  | colon (members : List (List StringPart × Document)) (key : List StringPart)
  | after (value : Document)

/-- The open arrays and objects, innermost first, and what has to come next. -/
abbrev State := List Frame × Expect

/-- The leaf that a token is. -/
def leaf? : Token → Option Document
  | .null => some .null
  | .bool value => some (.bool value)
  | .number text => some (.number text)
  | .string parts => some (.string parts)
  | _ => none

/-- Begin a value. -/
def beginValue (stack : List Frame) (token : Token) : Option State :=
  match token with
  | .openArray => some (stack, .firstItem)
  | .openObject => some (stack, .firstKey [])
  | token => (leaf? token).map fun leaf => (stack, .after leaf)

/-- Read one token. -/
def step : State → Token → Option State
  | (stack, .value), token => beginValue stack token
  | (stack, .firstItem), token =>
    if token = .closeArray then some (stack, .after (.array []))
    else beginValue (.array [] :: stack) token
  | (stack, .firstKey members), .closeObject => some (stack, .after (.object members.reverse))
  | (stack, .firstKey members), .string key => some (stack, .colon members key)
  | (stack, .key members), .string key => some (stack, .colon members key)
  | (stack, .colon members key), .colon => some (.object members key :: stack, .value)
  | (.array items :: stack, .after value), .comma => some (.array (value :: items) :: stack, .value)
  | (.array items :: stack, .after value), .closeArray =>
    some (stack, .after (.array (value :: items).reverse))
  | (.object members key :: stack, .after value), .comma =>
    some (stack, .key ((key, value) :: members))
  | (.object members key :: stack, .after value), .closeObject =>
    some (stack, .after (.object ((key, value) :: members).reverse))
  | _, _ => none

/-- The tree of a row of tokens. -/
def ofTokens? (tokens : List Token) : Option Document := do
  match ← tokens.foldlM step ([], .value) with
  | ([], .after value) => pure value
  | _ => none

/-- The tree of a text. -/
def ofText? (text : String) : Option Document := do
  ofTokens? (← Token.ofChars? text.toList)

end Document

end Transact
