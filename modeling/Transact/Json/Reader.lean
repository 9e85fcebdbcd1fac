/-
# Reading JSON values

A value is read from a document by interpreting its leaves: numbers need a
value, strings need paired surrogates, and arrays and objects nest at most 127
deep.
-/

import Transact.Json.Number

namespace Transact.Json

/-- How many arrays and objects may stand inside each other. -/
def maxDepth : Nat := 127

mutual

/-- The value of a document with at most `depth` arrays and objects inside each other. -/
def ofDocument? (depth : Nat) : Document → Option Json
  | .null => some .null
  | .bool value => some (.bool value)
  | .number text => text.value?.map .number
  | .string parts => (StringPart.textOf? parts).map (.string ∘ String.ofList)
  | .array items =>
    match depth with
    | 0 => none
    | depth + 1 => (ofItems? depth items).map .array
  | .object members =>
    match depth with
    | 0 => none
    | depth + 1 => (ofDocumentMembers? depth members).map ofMembers

/-- The values of a row of documents. -/
def ofItems? (depth : Nat) : List Document → Option (List Json)
  | [] => some []
  | item :: rest => do
    let item ← ofDocument? depth item
    let rest ← ofItems? depth rest
    pure (item :: rest)

/-- The keys and values of a row of members. -/
def ofDocumentMembers? (depth : Nat) :
    List (List StringPart × Document) → Option (List (String × Json))
  | [] => some []
  | (key, value) :: rest => do
    let key ← StringPart.textOf? key
    let value ← ofDocument? depth value
    let rest ← ofDocumentMembers? depth rest
    pure ((String.ofList key, value) :: rest)

end

/-- The value of a text. -/
def parse? (text : String) : Option Json :=
  (Document.ofText? text).bind (ofDocument? maxDepth)

end Transact.Json
