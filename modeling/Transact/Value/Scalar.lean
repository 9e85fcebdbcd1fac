/-
# Scalars

A scalar is an element type with a payload of that type. Scalars come in two
kinds that differ only in how they hold JSON: on the wire it is a text, which
may be invalid; in the application it is a value. So the application's scalars
are `Datum`s and the wire's are `WireScalar`s, and both share everything else.
-/

import Transact.Json.Basic
import Transact.Numeric.Shortest
import Transact.Text.Quoted
import Transact.Value.ElementType

namespace Transact

/-- A scalar that is not null, its JSON held as `ρ`. -/
structure Scalar (ρ : Type) where
  type : ElementType
  payload : type.Payload ρ

/-- A scalar as it travels: JSON is a text. -/
abbrev WireScalar := Scalar String

/-- A scalar in the application: JSON is a value. -/
abbrev Datum := Scalar Json

namespace Scalar

variable {ρ : Type}

instance [DecidableEq ρ] : DecidableEq (Scalar ρ) := fun ⟨type, payload⟩ ⟨type', payload'⟩ =>
  if htype : type = type' then
    match ElementType.decideEqPayload type' (htype ▸ payload) payload' with
    | .isTrue h => .isTrue (by subst htype; exact congrArg (Scalar.mk type) h)
    | .isFalse h => .isFalse fun heq => h (by cases heq; rfl)
  else .isFalse fun heq => htype (congrArg Scalar.type heq)

/-- Equality of two payloads as values: floats as numbers, decimals whatever their scales. -/
def payloadEqual (equal : ρ → ρ → Bool) :
    (type : ElementType) → type.Payload ρ → type.Payload ρ → Bool
  | .bool, x, y => decide (x = y)
  | .string, x, y => decide (x = y)
  | .bytes, x, y => decide (x = y)
  | .int64, x, y => decide (x = y)
  | .float32, x, y => x.equal y
  | .float64, x, y => x.equal y
  | .numeric, x, y => x.equal y
  | .date, x, y => decide (x = y)
  | .timestamp, x, y => decide (x = y)
  | .json, x, y => equal x y

/-- Equality as values: the types are the same and the payloads equal as values. -/
def equal (equalJson : ρ → ρ → Bool) (x y : Scalar ρ) : Bool :=
  if h : x.type = y.type then payloadEqual equalJson y.type (h ▸ x.payload) y.payload else false

/-- Hold JSON another way. -/
def mapJson {σ : Type} (f : ρ → σ) : Scalar ρ → Scalar σ
  | ⟨.bool, x⟩ => ⟨.bool, x⟩
  | ⟨.string, x⟩ => ⟨.string, x⟩
  | ⟨.bytes, x⟩ => ⟨.bytes, x⟩
  | ⟨.int64, x⟩ => ⟨.int64, x⟩
  | ⟨.float32, x⟩ => ⟨.float32, x⟩
  | ⟨.float64, x⟩ => ⟨.float64, x⟩
  | ⟨.numeric, x⟩ => ⟨.numeric, x⟩
  | ⟨.date, x⟩ => ⟨.date, x⟩
  | ⟨.timestamp, x⟩ => ⟨.timestamp, x⟩
  | ⟨.json, x⟩ => ⟨.json, f x⟩

/-- Hold JSON another way, where that is possible. -/
def mapJson? {σ : Type} (f : ρ → Option σ) : Scalar ρ → Option (Scalar σ)
  | ⟨.bool, x⟩ => some ⟨.bool, x⟩
  | ⟨.string, x⟩ => some ⟨.string, x⟩
  | ⟨.bytes, x⟩ => some ⟨.bytes, x⟩
  | ⟨.int64, x⟩ => some ⟨.int64, x⟩
  | ⟨.float32, x⟩ => some ⟨.float32, x⟩
  | ⟨.float64, x⟩ => some ⟨.float64, x⟩
  | ⟨.numeric, x⟩ => some ⟨.numeric, x⟩
  | ⟨.date, x⟩ => some ⟨.date, x⟩
  | ⟨.timestamp, x⟩ => some ⟨.timestamp, x⟩
  | ⟨.json, x⟩ => (f x).map fun y => ⟨.json, y⟩

@[simp] theorem type_mapJson {σ : Type} (f : ρ → σ) (x : Scalar ρ) :
    (x.mapJson f).type = x.type := by
  obtain ⟨type, payload⟩ := x
  cases type <;> rfl

end Scalar

/-- How floats are shown: the shortest digits, always positional, without a point after a
whole number; a tie goes to the larger decimal. -/
def FloatClass.toText (format : Format) : FloatClass → String
  | .nan => "NaN"
  | .infinite negative => if negative then "-inf" else "inf"
  | .finite negative mantissa exponent =>
    let magnitude :=
      if mantissa = 0 then "0"
      else (Shortest.digits format .upward mantissa exponent).positional
    if negative then "-" ++ magnitude else magnitude

/-- A wire scalar as it is shown in messages. -/
def Scalar.toText : WireScalar → String
  | ⟨.bool, x⟩ => if x then "TRUE" else "FALSE"
  | ⟨.string, x⟩ => Quoted.quote x
  | ⟨.bytes, x⟩ => s!"<{x.length} bytes>"
  | ⟨.int64, x⟩ => toString x.toInt
  | ⟨.float32, x⟩ => x.classify.toText binary32
  | ⟨.float64, x⟩ => x.classify.toText binary64
  | ⟨.numeric, x⟩ => x.toText
  | ⟨.date, x⟩ => x.toText
  | ⟨.timestamp, x⟩ => x.toText
  | ⟨.json, x⟩ => x

end Transact
