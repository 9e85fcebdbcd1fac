/-
# Equal values are told apart

Values that are equal without being identical are stored differently: a decimal
is stored as its text, which shows its scale, and a float as its bits. So bytes
that begin with the stored forms of two equal values begin with one value.

Nothing is asked of the values here, not even that their stored forms fit: equal
values are equally long wherever a length is written, except for decimals, and
the text of a decimal is short.

What is read back of a value is equal to whatever the value was equal to.
-/

import Transact.Proofs.Record.Row
import Transact.Proofs.Value.Equality

namespace Transact.Record

/-- Bytes that begin with the fields of two values begin with one value. -/
def ToldApart {α : Type} (field : α → Bytes) (x y : α) : Prop :=
  ∀ rest others, field x ++ rest = field y ++ others → x = y ∧ rest = others

namespace ToldApart

variable {α : Type} {field : α → Bytes} {x y : α}

theorem refl (field : α → Bytes) (x : α) : ToldApart field x x :=
  fun _ _ h => ⟨rfl, List.append_cancel_left h⟩

/-- Fields of one length are told apart if they differ. -/
theorem of_length_eq (hlength : (field x).length = (field y).length)
    (hinj : field x = field y → x = y) : ToldApart field x y := by
  intro rest others h
  obtain ⟨hfield, hrest⟩ := List.append_inj h hlength
  exact ⟨hinj hfield, hrest⟩

/-- What is in front does not matter. -/
theorem prefixed {front : Bytes} (h : ToldApart field x y) :
    ToldApart (fun x => front ++ field x) x y := by
  intro rest others heq
  simp only [List.append_assoc, List.append_cancel_left_eq] at heq
  exact h rest others heq

/-- The items of equally long lists are told apart one after the other. -/
theorem flatMap {items others : List α} (h : List.Forall₂ (ToldApart field) items others) :
    ToldApart (List.flatMap field) items others := by
  induction h with
  | nil => exact refl _ []
  | cons hitem _ ih =>
      intro rest behind heq
      simp only [List.flatMap_cons, List.append_assoc] at heq
      obtain ⟨rfl, hitems⟩ := hitem _ _ heq
      obtain ⟨rfl, hrest⟩ := ih _ _ hitems
      exact ⟨rfl, hrest⟩

theorem list {items others : List α} (h : List.Forall₂ (ToldApart field) items others) :
    ToldApart (listField field) items others := by
  intro rest behind heq
  rw [listField, listField, h.length_eq, List.append_assoc, List.append_assoc,
    List.append_cancel_left_eq] at heq
  exact flatMap h _ _ heq

theorem some (h : ToldApart field x y) : ToldApart (optionField field) (.some x) (.some y) := by
  intro rest others heq
  obtain ⟨rfl, hrest⟩ := h rest others (List.cons.inj heq).2
  exact ⟨rfl, hrest⟩

end ToldApart

/-- Numbers in a field are told apart if they fit it. -/
theorem toldApart_littleEndian {α : Type} {width : Nat} {number : α → Nat} {x y : α}
    (hx : number x < Nat.pow 256 width) (hy : number y < Nat.pow 256 width)
    (hinj : number x = number y → x = y) :
    ToldApart (fun x => Bytes.littleEndian width (number x)) x y := by
  refine .of_length_eq (by simp) fun heq => hinj ?_
  have hread := congrArg Bytes.ofLittleEndian heq
  rwa [Bytes.ofLittleEndian_littleEndian, Bytes.ofLittleEndian_littleEndian, Nat.mod_eq_of_lt hx,
    Nat.mod_eq_of_lt hy] at hread

theorem length_textField_decimal (x : Decimal) : (textField x.toText).length < UInt64.size := by
  have hbytes := Utf8.length_encode_le x.toText
  have hchars := x.length_toText_le
  have hsize : UInt64.size = 18446744073709551616 := rfl
  simp only [textField, bytesField, List.length_append, length_lengthField]
  omega

theorem toldApart_decimal {x y : Decimal} (h : x.equal y = true) :
    ToldApart (fun x : Decimal => textField x.toText) x y := by
  intro rest others heq
  obtain ⟨htext, hrest⟩ := (readsBack_text x.toText).append_inj (readsBack_text y.toText)
    (length_textField_decimal x) (length_textField_decimal y) heq
  exact ⟨Decimal.eq_of_toText_eq h htext, hrest⟩

theorem toldApart_payload {type : ElementType} {payload other : type.Payload String}
    (h : Scalar.payloadEqual (· == ·) type payload other = true) :
    ToldApart (payloadField type) payload other := by
  cases type with
  | float32 =>
      exact toldApart_littleEndian payload.bits.toNat_lt other.bits.toNat_lt
        fun heq => congrArg Binary32.mk (UInt32.toNat_inj.mp heq)
  | float64 =>
      exact toldApart_littleEndian payload.bits.toNat_lt other.bits.toNat_lt
        fun heq => congrArg Binary64.mk (UInt64.toNat_inj.mp heq)
  | numeric => exact toldApart_decimal h
  | json =>
      rw [show payload = other from eq_of_beq h]
      exact .refl _ _
  | _ =>
      rw [show payload = other from of_decide_eq_true h]
      exact .refl _ _

theorem toldApart_scalar {x y : WireScalar} (h : x.equal (· == ·) y = true) :
    ToldApart scalarField x y := by
  obtain ⟨type, payload, other, rfl, rfl, hpayload⟩ := Scalar.exists_payloads_of_equal h
  intro rest others heq
  obtain ⟨rfl, hrest⟩ := (toldApart_payload hpayload).prefixed rest others heq
  exact ⟨rfl, hrest⟩

theorem toldApart_item {x y : Option WireScalar} (h : Value.equalItem (· == ·) x y = true) :
    ToldApart (optionField scalarField) x y := by
  cases x with
  | none =>
      cases y with
      | none => exact .refl _ none
      | some y => cases h
  | some x =>
      cases y with
      | none => cases h
      | some y => exact (toldApart_scalar h).some

/-- Equal values are told apart. -/
theorem toldApart_value {x y : Value} (h : x.equal y = true) : ToldApart valueField x y := by
  cases x with
  | null type =>
      cases y with
      | null other =>
          rw [show type = other from eq_of_beq h]
          exact .refl _ _
      | _ => cases h
  | scalar x =>
      cases y with
      | scalar y =>
          intro rest others heq
          obtain ⟨rfl, hrest⟩ := (toldApart_scalar h).prefixed rest others heq
          exact ⟨rfl, hrest⟩
      | _ => cases h
  | array element items =>
      cases y with
      | array own others =>
          simp only [Value.equal, Bool.and_eq_true, beq_iff_eq, Value.equalItems_iff] at h
          obtain ⟨rfl, hitems⟩ := h
          have hlist := ToldApart.list (hitems.imp fun _ _ => toldApart_item)
          intro rest behind heq
          obtain ⟨rfl, hrest⟩ := hlist.prefixed rest behind heq
          exact ⟨rfl, hrest⟩
      | _ => cases h

/-! ## Values that are read back -/

theorem equal_scalarReadBack (x y : WireScalar) :
    (scalarReadBack x).equal (· == ·) y = x.equal (· == ·) y := by
  obtain ⟨type, payload⟩ := x
  obtain ⟨own, other⟩ := y
  by_cases htype : type = own
  · subst htype
    cases type with
    | numeric =>
        simpa [Scalar.equal, scalarReadBack, Scalar.payloadEqual, payloadReadBack] using
          Decimal.equal_readBack payload other
    | _ => rfl
  · simp [Scalar.equal, scalarReadBack, htype]

/-- Equality does not tell what is read back from what was written. -/
theorem equal_valueReadBack (x y : Value) : (valueReadBack x).equal y = x.equal y := by
  have hitem (item other : Option WireScalar) :
      Value.equalItem (· == ·) (item.map scalarReadBack) other =
        Value.equalItem (· == ·) item other := by
    cases item with
    | none => rfl
    | some scalar =>
        cases other with
        | none => rfl
        | some other => exact equal_scalarReadBack scalar other
  have hitems (items others : List (Option WireScalar)) :
      Value.equalItems (Value.equalItem (· == ·)) (items.map (Option.map scalarReadBack)) others =
        Value.equalItems (Value.equalItem (· == ·)) items others := by
    induction items generalizing others with
    | nil => rfl
    | cons item items ih => cases others <;> simp [Value.equalItems, hitem, ih]
  cases x with
  | null type => rfl
  | scalar scalar =>
      cases y with
      | scalar other => exact equal_scalarReadBack scalar other
      | _ => rfl
  | array element items =>
      cases y with
      | array own others => simp [Value.equal, valueReadBack, hitems]
      | _ => rfl

theorem equal_rowReadBack (row other : Row) :
    Value.equalItems Value.equal (rowReadBack row) other =
      Value.equalItems Value.equal row other := by
  induction row generalizing other with
  | nil => rfl
  | cons value row ih =>
      cases other with
      | nil => rfl
      | cons own other =>
          show (Value.equal (valueReadBack value) own &&
            Value.equalItems Value.equal (rowReadBack row) other) = _
          rw [equal_valueReadBack, ih]
          rfl

end Transact.Record
