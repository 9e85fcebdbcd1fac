/-
# JSON values

A value is a tree whose objects list their members in ascending order of the
keys, no key twice. A number is an integer of 64 bits, signed or unsigned, or a
double; the two kinds are never equal.
-/

import Transact.Numeric.Binary
import Transact.OrderedMap

namespace Transact

/-- A JSON number. -/
inductive JsonNumber where
  | integer (value : Int)
  | float (value : Binary64)
  deriving DecidableEq, Repr

/-- Equality of numbers of one kind. -/
def JsonNumber.equal : JsonNumber → JsonNumber → Bool
  | .integer first, .integer second => first == second
  | .float first, .float second => first.equal second
  | _, _ => false

/-- A JSON value. -/
inductive Json where
  | null
  | bool (value : Bool)
  | number (value : JsonNumber)
  | string (text : String)
  | array (items : List Json)
  | object (members : List (String × Json))
  deriving Repr

namespace Json

mutual

/-- Equality with numbers compared as numbers. -/
def equal : Json → Json → Bool
  | .null, .null => true
  | .bool first, .bool second => first == second
  | .number first, .number second => first.equal second
  | .string first, .string second => first == second
  | .array first, .array second => equalItems first second
  | .object first, .object second => equalMembers first second
  | _, _ => false

/-- Equality item by item. -/
def equalItems : List Json → List Json → Bool
  | [], [] => true
  | first :: rest, second :: rest' => equal first second && equalItems rest rest'
  | _, _ => false

/-- Equality member by member. -/
def equalMembers : List (String × Json) → List (String × Json) → Bool
  | [], [] => true
  | (key, first) :: rest, (key', second) :: rest' =>
    key == key' && equal first second && equalMembers rest rest'
  | _, _ => false

end

mutual

/-- Whether two values are identical, floats bit for bit. -/
def decideEq : (first second : Json) → Decidable (first = second)
  | .null, .null => .isTrue rfl
  | .bool first, .bool second =>
    if h : first = second then .isTrue (h ▸ rfl) else .isFalse fun heq => h (by cases heq; rfl)
  | .number first, .number second =>
    if h : first = second then .isTrue (h ▸ rfl) else .isFalse fun heq => h (by cases heq; rfl)
  | .string first, .string second =>
    if h : first = second then .isTrue (h ▸ rfl) else .isFalse fun heq => h (by cases heq; rfl)
  | .array first, .array second =>
    match decideEqItems first second with
    | .isTrue h => .isTrue (h ▸ rfl)
    | .isFalse h => .isFalse fun heq => h (by cases heq; rfl)
  | .object first, .object second =>
    match decideEqMembers first second with
    | .isTrue h => .isTrue (h ▸ rfl)
    | .isFalse h => .isFalse fun heq => h (by cases heq; rfl)
  | .null, .bool _ | .null, .number _ | .null, .string _ | .null, .array _ | .null, .object _
  | .bool _, .null | .bool _, .number _ | .bool _, .string _ | .bool _, .array _
  | .bool _, .object _ | .number _, .null | .number _, .bool _ | .number _, .string _
  | .number _, .array _ | .number _, .object _ | .string _, .null | .string _, .bool _
  | .string _, .number _ | .string _, .array _ | .string _, .object _ | .array _, .null
  | .array _, .bool _ | .array _, .number _ | .array _, .string _ | .array _, .object _
  | .object _, .null | .object _, .bool _ | .object _, .number _ | .object _, .string _
  | .object _, .array _ => .isFalse nofun

/-- Whether two rows of items are identical. -/
def decideEqItems : (first second : List Json) → Decidable (first = second)
  | [], [] => .isTrue rfl
  | first :: rest, second :: rest' =>
    match decideEq first second, decideEqItems rest rest' with
    | .isTrue h, .isTrue h' => .isTrue (h ▸ h' ▸ rfl)
    | .isFalse h, _ => .isFalse fun heq => h (by cases heq; rfl)
    | _, .isFalse h => .isFalse fun heq => h (by cases heq; rfl)
  | [], _ :: _ | _ :: _, [] => .isFalse nofun

/-- Whether two rows of members are identical. -/
def decideEqMembers : (first second : List (String × Json)) → Decidable (first = second)
  | [], [] => .isTrue rfl
  | (key, first) :: rest, (key', second) :: rest' =>
    if hkey : key = key' then
      match decideEq first second, decideEqMembers rest rest' with
      | .isTrue h, .isTrue h' => .isTrue (hkey ▸ h ▸ h' ▸ rfl)
      | .isFalse h, _ => .isFalse fun heq => h (by cases heq; rfl)
      | _, .isFalse h => .isFalse fun heq => h (by cases heq; rfl)
    else .isFalse fun heq => hkey (by cases heq; rfl)
  | [], _ :: _ | _ :: _, [] => .isFalse nofun

end

instance : DecidableEq Json := decideEq

/-- The members of an object, in key order; of equal keys the last wins. -/
def ofMembers (members : List (String × Json)) : Json :=
  .object (members.foldl (fun sorted (key, value) => OrderedMap.insertEntry key value sorted) [])

end Json

end Transact
