/-
# Session configuration

A session is configured by a JSON text: an object with fields in any order, or
an array of them in their order. Fields that are missing take their defaults,
fields with other names are skipped, and no known field may come twice.
-/

import Transact.Error
import Transact.Json.Number
import Transact.Json.Printer
import Transact.Session.RetryPolicy

namespace Transact

/-- What all transactions of a session share. -/
structure SessionConfig where
  preferDense : Bool := false
  retry : RetryPolicy := .default
  deriving DecidableEq

namespace SessionConfig

/-- The configuration used where none is given. -/
def default : SessionConfig := {}

/-! Reading -/

/-- The one member of a name, if there is one; two are an error. -/
def member? (name : String) (members : List (String × Document)) : Option (Option Document) :=
  match members.filter fun member => member.1 == name with
  | [] => some none
  | [(_, value)] => some (some value)
  | _ => none

/-- Members with their names read. -/
def named? : List (List StringPart × Document) → Option (List (String × Document))
  | [] => some []
  | (key, value) :: rest => do
    let name ← StringPart.textOf? key
    let rest ← named? rest
    pure ((String.ofList name, value) :: rest)

/-- The fields of a structure, each of which may be missing. -/
def fields? (names : List String) : Document → Option (List (Option Document))
  | .array items =>
    if items.length ≤ names.length then
      some (items.map some ++ List.replicate (names.length - items.length) none)
    else none
  | .object members => do
    let members ← named? members
    names.mapM fun name => member? name members
  | _ => none

/-- A field, or its default where it is missing. -/
def field? {α : Type} (read : Document → Option α) (default : α) : Option Document → Option α
  | none => some default
  | some document => read document

/-- A truth value. -/
def bool? : Document → Option Bool
  | .bool value => some value
  | _ => none

/-- A whole number below a limit, written as one. -/
def natBelow? (limit : Nat) : Document → Option Nat
  | .number text =>
    match text.toInteger? with
    | some (.ofNat n) => if n < limit then some n else none
    | _ => none
  | _ => none

/-- Any number, in double precision. -/
def binary64? : Document → Option Binary64
  | .number text =>
    match text.value? with
    | some (.integer n) => some (.ofFraction (decide (n < 0)) n.natAbs 1)
    | some (.float x) => some x
    | none => none
  | _ => none

/-- A retry policy. -/
def retryOf? (document : Document) : Option RetryPolicy := do
  let names := ["max_attempts", "initial_backoff_ms", "max_backoff_ms", "multiplier"]
  match ← fields? names document with
  | [maxAttempts, initialBackoff, maxBackoff, multiplier] =>
    let policy := RetryPolicy.default
    pure {
      maxAttempts :=
        UInt32.ofNat (← field? (natBelow? 0x100000000) policy.maxAttempts.toNat maxAttempts)
      initialBackoff :=
        UInt64.ofNat (← field? (natBelow? 0x10000000000000000) policy.initialBackoff.toNat initialBackoff)
      maxBackoff :=
        UInt64.ofNat (← field? (natBelow? 0x10000000000000000) policy.maxBackoff.toNat maxBackoff)
      multiplier := ← field? binary64? policy.multiplier multiplier }
  | _ => none

/-- A configuration. -/
def ofDocument? (document : Document) : Option SessionConfig := do
  match ← fields? ["decode_to_native_arrays", "retry"] document with
  | [preferDense, retry] =>
    pure {
      preferDense := ← field? bool? false preferDense
      retry := ← field? retryOf? .default retry }
  | _ => none

/-- The configuration that a text describes. -/
def ofText (text : String) : Except Error SessionConfig :=
  match Document.ofText? text >>= ofDocument? with
  | some config => .ok config
  | none => .error (.construction .invalidConfig)

/-! Writing -/

/-- A member of an object. -/
def memberText (name value : String) : String := Quoted.quote name ++ ":" ++ value

/-- Members as an object. -/
def objectText (members : List String) : String :=
  "\x7b" ++ ",".intercalate members ++ "\x7d"

/-- A retry policy as it is written. -/
def retryText (policy : RetryPolicy) : String :=
  objectText
    [memberText "max_attempts" (toString policy.maxAttempts.toNat),
      memberText "initial_backoff_ms" (toString policy.initialBackoff.toNat),
      memberText "max_backoff_ms" (toString policy.maxBackoff.toNat),
      memberText "multiplier" (String.ofList (Json.binary64Text policy.multiplier))]

/-- A configuration as it is written, every field in its place. -/
def toText (config : SessionConfig) : String :=
  objectText
    [memberText "decode_to_native_arrays" (if config.preferDense then "true" else "false"),
      memberText "retry" (retryText config.retry)]

end SessionConfig

end Transact
