/-
# What equality of values leaves open

Equality of values is that of numbers where they hold numbers: it passes over the
scale of a decimal and over the signs of zeros. These are the marks of a value.
Equal values are identical if and only if their marks are, and so are two lists
of pairwise equal values.
-/

import Mathlib.Data.List.Forall2
import Mathlib.Data.List.ReduceOption
import Transact.Proofs.Numeric.Equality
import Transact.Value.Basic

namespace Transact

namespace Value

/-- Lists are equal element by element if they are equally long and paired elements are equal. -/
theorem equalItems_iff {α : Type} {equal : α → α → Bool} {xs ys : List α} :
    equalItems equal xs ys = true ↔ List.Forall₂ (fun x y => equal x y = true) xs ys := by
  induction xs generalizing ys with
  | nil => cases ys <;> simp [equalItems]
  | cons x xs ih => cases ys <;> simp [equalItems, ih]

end Value

/-! ## Scalars -/

namespace Scalar

variable {x y : WireScalar}

/-- What equality leaves open of a scalar: the sign and the scale of a decimal, and the sign of a
float. -/
def mark : WireScalar → Bool × Nat
  | ⟨.float32, x⟩ => (x.signBit, 0)
  | ⟨.float64, x⟩ => (x.signBit, 0)
  | ⟨.numeric, x⟩ => (x.negative, x.scale)
  | _ => (false, 0)

/-- Equal scalars have one type and equal payloads. -/
theorem exists_payloads_of_equal (h : x.equal (· == ·) y = true) :
    ∃ (type : ElementType) (payload other : type.Payload String), x = ⟨type, payload⟩ ∧
      y = ⟨type, other⟩ ∧ payloadEqual (· == ·) type payload other = true := by
  obtain ⟨type, payload⟩ := x
  obtain ⟨own, other⟩ := y
  unfold equal at h
  split at h
  case isTrue htype =>
    cases htype
    exact ⟨type, payload, other, rfl, rfl, h⟩
  case isFalse => cases h

theorem eq_of_payloadEqual {type : ElementType} {payload other : type.Payload String}
    (h : payloadEqual (· == ·) type payload other = true)
    (hmark : mark ⟨type, payload⟩ = mark ⟨type, other⟩) : payload = other := by
  cases type with
  | float32 => exact Binary32.eq_of_equal h (congrArg Prod.fst hmark)
  | float64 => exact Binary64.eq_of_equal h (congrArg Prod.fst hmark)
  | numeric => exact Decimal.eq_of_equal h (congrArg Prod.fst hmark) (congrArg Prod.snd hmark)
  | json => exact eq_of_beq h
  | _ => exact of_decide_eq_true h

/-- Equal scalars are identical if their marks are. -/
theorem eq_iff_mark_eq (h : x.equal (· == ·) y = true) : x = y ↔ x.mark = y.mark := by
  obtain ⟨type, payload, other, rfl, rfl, hpayload⟩ := exists_payloads_of_equal h
  constructor
  · intro heq
    rw [heq]
  · intro hmark
    rw [eq_of_payloadEqual hpayload hmark]

end Scalar

/-! ## Values -/

namespace Value

variable {x y : Value}

/-- The marks of the elements of an array that are not null. -/
def itemMarks (items : List (Option WireScalar)) : List (Bool × Nat) :=
  items.reduceOption.map Scalar.mark

/-- What equality leaves open of a value: the marks of the scalars in it. -/
def marks : Value → List (Bool × Nat)
  | .null _ => []
  | .scalar x => [x.mark]
  | .array _ items => itemMarks items

theorem items_eq_iff {items others : List (Option WireScalar)}
    (h : List.Forall₂ (fun x y => equalItem (· == ·) x y = true) items others) :
    items = others ↔ itemMarks items = itemMarks others := by
  induction h with
  | nil => simp
  | @cons item other items others hitem hitems ih =>
      cases item with
      | none =>
          cases other with
          | none => simpa [itemMarks] using ih
          | some y => cases hitem
      | some x =>
          cases other with
          | none => cases hitem
          | some y =>
              have hscalar := Scalar.eq_iff_mark_eq (x := x) (y := y) hitem
              simp only [itemMarks, List.reduceOption_cons_of_some, List.map_cons,
                List.cons.injEq, Option.some.injEq, hscalar]
              exact and_congr_right fun _ => ih

/-- Equal values are identical if their marks are. -/
theorem eq_iff_marks_eq (h : x.equal y = true) : x = y ↔ x.marks = y.marks := by
  cases x with
  | null type =>
      cases y with
      | null other => simpa [equal, marks] using h
      | _ => cases h
  | scalar x =>
      cases y with
      | scalar y =>
          have hscalar := Scalar.eq_iff_mark_eq (x := x) (y := y) h
          simpa [marks] using hscalar
      | _ => cases h
  | array element items =>
      cases y with
      | array own others =>
          simp only [equal, Bool.and_eq_true, beq_iff_eq, equalItems_iff] at h
          obtain ⟨rfl, hitems⟩ := h
          simpa [marks] using items_eq_iff hitems
      | _ => cases h

/-- Lists of pairwise equal values are identical if their marks are. -/
theorem list_eq_iff_marks_eq {key other : List Value}
    (h : List.Forall₂ (fun x y => x.equal y = true) key other) :
    key = other ↔ key.map marks = other.map marks := by
  induction h with
  | nil => simp
  | cons hvalue _ ih => simp [eq_iff_marks_eq hvalue, ih]

end Value

end Transact
