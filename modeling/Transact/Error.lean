/-
# Errors

Every operation of the library that can fail fails with an `Error`. An error
holds its cause; its wording is made by `Error.message`, and nowhere else. The
eight kinds of errors tell the caller what to do: only a conflict is worth
replaying.
-/

import Transact.Calendar.Reader
import Transact.Mvcc.Key
import Transact.Session.Lifecycle
import Transact.Statement.ParamKey
import Transact.Text.Utf8
import Transact.Value.Basic
import Transact.Value.Shape

namespace Transact

/-- Mistakes of the caller. -/
inductive ConstructionFault where
  | unbound (keys : List ParamKey) (sql : String)
  | invalidName (name : String)
  | missingName
  | unterminatedQuote (quote : Char)
  | unterminatedTripleQuote (quote : Char)
  | unterminatedHint
  | unterminatedComment
  | positionZero
  | appendAfterSubmit
  | submittedTwice
  | invalidConfig
  | other (text : String)
  deriving DecidableEq

/-- A value that does not have the type or shape it is asked for. -/
inductive MismatchFault where
  | elementType (index : Nat) (array element : ElementType)
  | elementNull (index : Nat) (array : ElementType)
  | unencodable (what : String) (type : DataType)
  | undecodable (type : DataType) (shape : Shape)
  | noDenseForm (element : ElementType)
  | nullScalar (element : ElementType)
  | datumType (expected found : ElementType)
  | nullTarget (shape : Shape)
  | wrongShape (shape : Shape)
  | noInferredType (name : String)
  | columnIndex (index count : Nat)
  | columnName (name : String)
  | inColumn (name : String) (fault : MismatchFault)
  | invalidJson
  | other (text : String)
  deriving DecidableEq

/-- A statement that could not be executed. -/
inductive ExecutionFault where
  | noParameter (key : ParamKey)
  | isQuery (sql : String)
  | unknownStatement (sql : String)
  | unknownQuery (sql : String)
  | rowExists (key : List Value) (table : String)
  | rowLength (values columns : Nat)
  | columnType (name : String) (expected found : DataType)
  | missingValue (name : String)
  | other (text : String)
  deriving DecidableEq

/-- Shapes that have no place in an ordered key. -/
inductive UnsupportedShape where
  | int8
  | int16
  | int32
  | float32
  | float64
  | char
  | option
  | map
  | structVariant
  | selfDescribing
  | sequence
  | identifier
  | ignored
  deriving DecidableEq, Repr

/-- Bytes that are not what they should be. -/
inductive InternalFault where
  | insufficientBytes (expected found : Nat)
  | invalidBoolean (byte : UInt8)
  | invalidEscape (next : Option UInt8)
  | unterminatedBytes
  | invalidText (fault : Utf8.Fault)
  | trailingBytes (rest : Bytes)
  | unsupported (shape : UnsupportedShape)
  | variantTooLarge (index : Nat)
  | unknownVariant (index : Nat)
  | variantOutOfRange (index count : Nat)
  | unexpectedKey (key : Mvcc.Key)
  | fieldCutOff
  | bufferCutOff
  | invalidTag (tag : UInt8)
  | invalidFlag (byte : UInt8)
  | invalidString (fault : Utf8.Fault)
  | invalidDecimal (text : String)
  | invalidCalendar (fault : Calendar.Fault)
  | countMismatch (counts statements : Nat)
  | noScope
  | noTransaction
  | noContext
  | poisoned
  | other (text : String)
  deriving DecidableEq

/-- What an operation fails with. -/
inductive Error where
  | construction (fault : ConstructionFault)
  | typeMismatch (fault : MismatchFault)
  | conflictAborted
  | executionFailed (index : Option Nat) (fault : ExecutionFault)
  | cancelled
  | alreadyTerminal (state : Lifecycle)
  | rowCountMismatch (expected actual : Int)
  | internal (fault : InternalFault)
  deriving DecidableEq

/-- The wording of a caller's mistake. -/
def ConstructionFault.message : ConstructionFault → String
  | .unbound keys sql =>
    "unbound parameters " ++ ", ".intercalate (keys.map ParamKey.toText) ++ " in "
      ++ Quoted.quote sql
  | .invalidName name => "invalid parameter name @" ++ name
  | .missingName => "expected a parameter name after @"
  | .unterminatedQuote quote => "unterminated " ++ quote.toString ++ "-quoted literal"
  | .unterminatedTripleQuote quote =>
    "unterminated " ++ String.ofList [quote, quote, quote] ++ "-quoted literal"
  | .unterminatedHint => "unterminated @\x7b hint"
  | .unterminatedComment => "unterminated block comment"
  | .positionZero => "positional parameters are counted from 1"
  | .appendAfterSubmit => "cannot append to a submitted batch"
  | .submittedTwice => "batch has already been submitted"
  | .invalidConfig => "invalid session config"
  | .other text => text

/-- The wording of a mismatch. -/
def MismatchFault.message : MismatchFault → String
  | .elementType index array element =>
    s!"element {index} of ARRAY<{array.name}> is {element.name}"
  | .elementNull index array =>
    s!"element {index} of ARRAY<{array.name}> is NULL, decode it into a nullable-element array"
  | .unencodable what type => s!"cannot encode {what} as {type.name}"
  | .undecodable type shape => s!"cannot decode {type.name} into {shape.toText}"
  | .noDenseForm element =>
    s!"ARRAY<{element.name}> has no dense form, decode it into a nullable-element array"
  | .nullScalar element => s!"cannot decode NULL into non-null {element.name}"
  | .datumType expected found => s!"expected {expected.name}, got {found.name}"
  | .nullTarget shape => s!"cannot decode NULL into {shape.toText}, use an Option target"
  | .wrongShape shape => s!"value does not have shape {shape.toText}"
  | .noInferredType name => s!"cannot infer the type of parameter @{name}, declare it"
  | .columnIndex index count => s!"column index {index} out of range for {count} columns"
  | .columnName name => s!"no column named {name}"
  | .inColumn name fault => s!"column {name}: " ++ fault.message
  | .invalidJson => "invalid json"
  | .other text => text

/-- A primary key as it is shown in messages. -/
def keyText (key : List Value) : String :=
  "(" ++ ", ".intercalate (key.map Value.toText) ++ ")"

/-- The wording of a failed statement. -/
def ExecutionFault.message : ExecutionFault → String
  | .noParameter key => "statement has no parameter " ++ key.toText
  | .isQuery sql => Quoted.quote sql ++ " is a query, read it"
  | .unknownStatement sql => "unknown statement " ++ Quoted.quote sql
  | .unknownQuery sql => "unknown query " ++ Quoted.quote sql
  | .rowExists key table => s!"row {keyText key} already exists in {table}"
  | .rowLength values columns => s!"row has {values} values for {columns} columns"
  | .columnType name expected found => s!"column {name} is {expected.name}, got {found.name}"
  | .missingValue name => "missing value for " ++ name
  | .other text => text

/-- The name of an unsupported shape. -/
def UnsupportedShape.name : UnsupportedShape → String
  | .int8 => "i8"
  | .int16 => "i16"
  | .int32 => "i32"
  | .float32 => "f32"
  | .float64 => "f64"
  | .char => "char"
  | .option => "Option"
  | .map => "maps"
  | .structVariant => "struct variants"
  | .selfDescribing => "self-describing deserialization"
  | .sequence => "variable-length sequences"
  | .identifier => "identifiers"
  | .ignored => "ignored values"

/-- The wording of damaged bytes and broken promises. -/
def InternalFault.message : InternalFault → String
  | .insufficientBytes expected found => s!"insufficient bytes, expected {expected} got {found}"
  | .invalidBoolean byte => "invalid boolean byte " ++ Quoted.hex byte.toNat
  | .invalidEscape (some byte) => s!"invalid escape sequence Some({byte.toNat})"
  | .invalidEscape none => "invalid escape sequence None"
  | .unterminatedBytes => "unterminated byte string"
  | .invalidText fault => fault.message
  | .trailingBytes rest =>
    "unexpected trailing bytes ["
      ++ ", ".intercalate (rest.map fun byte => Quoted.hex byte.toNat) ++ "]"
  | .unsupported shape => "keycode does not support " ++ shape.name
  | .variantTooLarge index => s!"variant index {index} out of range"
  | .unknownVariant index => s!"unknown variant {index}"
  | .variantOutOfRange index count =>
    s!"invalid value: integer `{index}`, expected variant index 0 <= i < {count}"
  | .unexpectedKey key => "unexpected key: " ++ key.toText
  | .fieldCutOff => "io error: unexpected end of file"
  | .bufferCutOff => "io error: "
  | .invalidTag tag => s!"tag for enum is not valid, found {tag.toNat}"
  | .invalidFlag byte => s!"invalid u8 while decoding bool, expected 0 or 1, found {byte.toNat}"
  | .invalidString fault => "string is not valid utf8: " ++ fault.message
  | .invalidDecimal text =>
    "invalid value: string " ++ Quoted.quote text
      ++ ", expected a Decimal type representing a fixed-point number"
  | .invalidCalendar fault => fault.message
  | .countMismatch counts statements =>
    s!"executor returned {counts} counts for {statements} statements"
  | .noScope => "active transaction without a scope"
  | .noTransaction => "no such transaction"
  | .noContext => "no such context"
  | .poisoned => "poisoned lock: another task failed inside"
  | .other text => text

namespace Error

/-- The wording of an error. -/
def message : Error → String
  | .construction fault => "construction error: " ++ fault.message
  | .typeMismatch fault => "type mismatch: " ++ fault.message
  | .conflictAborted =>
    "transaction aborted by a concurrent modification, retry the transaction"
  | .executionFailed (some index) fault => s!"statement {index} failed: " ++ fault.message
  | .executionFailed none fault => "execution failed: " ++ fault.message
  | .cancelled => "operation cancelled"
  | .alreadyTerminal state => "transaction is already " ++ state.name
  | .rowCountMismatch expected actual =>
    s!"unexpected number of rows affected: expected {expected}, got {actual}"
  | .internal fault => "internal error " ++ fault.message

/-- Whether running the transaction again may help: only conflicts are replayed. -/
def isRetryable : Error → Bool
  | .conflictAborted => true
  | _ => false

/-- A failed statement whose place in a batch is not known. -/
def execution (fault : ExecutionFault) : Error := .executionFailed none fault

end Error

end Transact
