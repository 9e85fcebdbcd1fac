/-
# Parameter keys

A statement names its parameters or counts them. Keys are ordered with all
named ones first, by their characters, and the counted ones after them.
-/

import Transact.OrderedMap

namespace Transact

/-- What a placeholder refers to. -/
inductive ParamKey where
  | named (name : String)
  | positional (position : Nat)
  deriving DecidableEq, Repr

namespace ParamKey

/-- The key of a name that is written with or without an `@` in front. -/
def ofName (name : String) : ParamKey :=
  match name.toList with
  | '@' :: rest => .named (String.ofList rest)
  | _ => .named name

/-- A key as it is written in a statement. -/
def toText : ParamKey → String
  | .named name => "@" ++ name
  | .positional position => "?" ++ toString position

instance : LE ParamKey where
  le
    | .named first, .named second => first ≤ second
    | .named _, .positional _ => True
    | .positional _, .named _ => False
    | .positional first, .positional second => first ≤ second

instance : LT ParamKey where
  lt
    | .named first, .named second => first < second
    | .named _, .positional _ => True
    | .positional _, .named _ => False
    | .positional first, .positional second => first < second

instance : DecidableLT ParamKey
  | .named first, .named second => inferInstanceAs (Decidable (first < second))
  | .named _, .positional _ => .isTrue trivial
  | .positional _, .named _ => .isFalse id
  | .positional first, .positional second => inferInstanceAs (Decidable (first < second))

instance : Std.IsLinearOrder ParamKey where
  le_refl
    | .named name => Std.le_refl name
    | .positional position => Nat.le_refl position
  le_trans
    | .named _, .named _, .named _ => String.le_trans
    | .named _, .named _, .positional _ => fun _ _ => trivial
    | .named _, .positional _, .positional _ => fun _ _ => trivial
    | .positional _, .positional _, .positional _ => Nat.le_trans
    | .named _, .positional _, .named _ => fun _ h => h.elim
    | .positional _, .named _, _ => fun h => h.elim
    | .positional _, .positional _, .named _ => fun _ h => h.elim
  le_antisymm
    | .named _, .named _ => fun h h' => congrArg _ (String.le_antisymm h h')
    | .named _, .positional _ => fun _ h => h.elim
    | .positional _, .named _ => fun h => h.elim
    | .positional _, .positional _ => fun h h' => congrArg _ (Nat.le_antisymm h h')
  le_total
    | .named first, .named second => Std.le_total (a := first) (b := second)
    | .named _, .positional _ => .inl trivial
    | .positional _, .named _ => .inr trivial
    | .positional first, .positional second => Nat.le_total first second

instance : Std.LawfulOrderLT ParamKey where
  lt_iff
    | .named first, .named second => Std.LawfulOrderLT.lt_iff first second
    | .named _, .positional _ => ⟨fun _ => ⟨trivial, id⟩, fun _ => trivial⟩
    | .positional _, .named _ => ⟨fun h => h.elim, fun h => h.1.elim⟩
    | .positional _, .positional _ => Nat.lt_iff_le_and_not_ge

end ParamKey

end Transact
