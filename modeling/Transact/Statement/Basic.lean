/-
# Statements

A statement is a text with a value for each of its placeholders. Statements are
only made by `Builder.build`, which keeps the first error of the bindings and
refuses a text with a placeholder that has no value. Values that no placeholder
asks for are kept.
-/

import Transact.Statement.Scanner
import Transact.Value.Target

namespace Transact

/-- A text whose placeholders are all bound. -/
structure Statement where
  sql : String
  params : OrderedMap ParamKey Value
  deriving DecidableEq

namespace Statement

/-- A name without any `@` in front. -/
def bareName (name : String) : String :=
  String.ofList (name.toList.dropWhile (· == '@'))

/-- The value of a named parameter; the name may have an `@` in front. -/
def value? (statement : Statement) (name : String) : Option Value :=
  statement.params.get? (.ofName name)

/-- The value of a counted parameter. -/
def valueAt? (statement : Statement) (position : Nat) : Option Value :=
  statement.params.get? (.positional position)

/-- A named parameter as a value of a target. -/
def param (statement : Statement) (target : Target) (name : String) :
    Except Error target.Carrier :=
  match statement.value? name with
  | some value => target.ofValue value
  | none => .error (.execution (.noParameter (.named (bareName name))))

/-- A counted parameter as a value of a target. -/
def paramAt (statement : Statement) (target : Target) (position : Nat) :
    Except Error target.Carrier :=
  match statement.valueAt? position with
  | some value => target.ofValue value
  | none => .error (.execution (.noParameter (.positional position)))

/-- A statement in the making: its bindings so far, and the first that failed. -/
structure Builder where
  sql : String
  params : OrderedMap ParamKey Value
  error : Option Error

/-- Begin a statement. -/
def builder (sql : String) : Builder := ⟨sql, .empty, none⟩

namespace Builder

/-- Note an error, unless one has been noted before. -/
def fail (builder : Builder) (error : Error) : Builder :=
  { builder with error := builder.error <|> some error }

/-- Bind a key to a value that may have failed to be made. -/
def insert (builder : Builder) (key : ParamKey) : Except Error Value → Builder
  | .ok value => { builder with params := builder.params.insert key value }
  | .error error => builder.fail error

/-- Bind a name, which may have an `@` in front. -/
def bind (builder : Builder) (name : String) (value : Except Error Value) : Builder :=
  builder.insert (.ofName name) value

/-- Bind the placeholder `?` of a position counted from 1. -/
def bindPosition (builder : Builder) (position : Nat) (value : Except Error Value) : Builder :=
  if position = 0 then builder.fail (.construction .positionZero)
  else builder.insert (.positional position) value

/-- Bind a name to a native value, with its declared type or else the type it implies. -/
def bindNative (builder : Builder) (name : String) (native : Native) (type : Option DataType) :
    Builder :=
  let value :=
    match type <|> native.inferType? with
    | some type => native.encode type
    | none => .error (.typeMismatch (.noInferredType (bareName name)))
  builder.insert (.ofName name) value

/-- The placeholders of a text as a set, or the first error in scanning it. -/
def referenced (sql : String) : Except Error (OrderedSet ParamKey) := do
  let keys ← (Scanner.scan sql).mapM id
  pure (keys.foldl (fun set key => set.insert key ()) .empty)

/-- Finish the statement. -/
def build (builder : Builder) : Except Error Statement :=
  match builder.error with
  | some error => .error error
  | none => do
    let keys ← referenced builder.sql
    match keys.keys.filter fun key => !builder.params.contains key with
    | [] => pure ⟨builder.sql, builder.params⟩
    | unbound => throw (.construction (.unbound unbound builder.sql))

end Builder

/-- A statement without parameters. -/
def ofText (sql : String) : Except Error Statement := (builder sql).build

end Statement

end Transact
