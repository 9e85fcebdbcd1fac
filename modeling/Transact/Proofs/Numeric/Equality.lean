/-
# What equality of numbers leaves open

Equal numbers need not be one number. Decimals are equal whatever their scales,
and a decimal zero may have a sign; of floats, the two zeros are equal, though
their signs differ. Nothing else is left open: equal decimals of one sign and
one scale are identical, and so are equal floats of one sign.

The text of a decimal shows both, so equal decimals with one text are identical
too.
-/

import Transact.Numeric.Binary
import Transact.Proofs.Numeric.Decimal

namespace Transact

/-! ## Decimals -/

namespace Decimal

variable {x y : Decimal}

/-- Equal decimals of one sign and one scale are identical. -/
theorem eq_of_equal (h : x.equal y = true) (hsign : x.negative = y.negative)
    (hscale : x.scale = y.scale) : x = y := by
  obtain ⟨negative, magnitude, scale, hmagnitude, hplaces⟩ := x
  obtain ⟨negative', magnitude', scale', hmagnitude', hplaces'⟩ := y
  cases hsign
  cases hscale
  have hpow : (Nat.pow 10 scale : Int) ≠ 0 := by
    have hpos : 0 < Nat.pow 10 scale := Nat.pow_pos (by decide)
    omega
  have hmantissa := Int.eq_of_mul_eq_mul_right hpow (of_decide_eq_true h)
  have hequal : magnitude = magnitude' := by
    cases negative <;> simpa [mantissa] using hmantissa
  cases hequal
  rfl

/-- What is read back is equal to what was written. -/
theorem equal_readBack (x y : Decimal) : x.readBack.equal y = x.equal y := by
  have hmantissa : x.readBack.mantissa = x.mantissa := by
    by_cases hzero : x.magnitude = 0 <;> simp [readBack, mantissa, hzero]
  rw [equal, hmantissa]
  rfl

/-- The sign is shown. -/
theorem dash_mem_toText_iff : '-' ∈ x.toText.toList ↔ x.negative = true := by
  have hdigits : '-' ∉ x.shownDigits := by
    intro hmem
    exact absurd (isDigit_of_mem_shownDigits hmem) (by decide)
  have hwhole : '-' ∉ x.shownDigits.take (x.shownDigits.length - x.scale) :=
    fun hmem => hdigits (List.mem_of_mem_take hmem)
  have hplaces : '-' ∉ x.shownDigits.drop (x.shownDigits.length - x.scale) :=
    fun hmem => hdigits (List.mem_of_mem_drop hmem)
  rw [toList_toText, List.mem_append, List.mem_append]
  by_cases hscale : x.scale = 0
  · cases x.negative <;> simp [hscale, hdigits]
  · cases x.negative <;> simp [hscale, hwhole, hplaces]

/-- The scale is shown: it is the number of digits behind the point. -/
theorem length_behind_point (x : Decimal) :
    (x.toText.toList.dropWhile (· != '.')).length - 1 = x.scale := by
  have hfront : ∀ c ∈ (if x.negative then ['-'] else []) ++
      x.shownDigits.take (x.shownDigits.length - x.scale), (c != '.') = true := by
    intro c hc
    have hpoint : c ≠ '.' := by
      rcases List.mem_append.mp hc with hsign | hdigit
      · cases hnegative : x.negative <;> simp_all
      · have hc := isDigit_of_mem_shownDigits (List.mem_of_mem_take hdigit)
        intro heq
        rw [heq] at hc
        exact absurd hc (by decide)
    simpa using hpoint
  have hlt := x.scale_lt_length_shownDigits
  rw [toList_toText, ← List.append_assoc, List.dropWhile_append_of_pos hfront]
  by_cases hscale : x.scale = 0
  · simp [hscale]
  · simp [hscale]
    omega

/-- Equal decimals with one text are identical. -/
theorem eq_of_toText_eq (h : x.equal y = true) (htext : x.toText = y.toText) : x = y := by
  have hsign : x.negative = y.negative := by
    rw [Bool.eq_iff_iff, ← dash_mem_toText_iff, htext, dash_mem_toText_iff]
  have hscale : x.scale = y.scale := by
    rw [← length_behind_point x, htext, length_behind_point y]
  exact eq_of_equal h hsign hscale

end Decimal

/-! ## Floats -/

namespace Format

variable {format : Format} {bits other : Nat}

/-- The pattern of a number without its sign, read off what it denotes. -/
def magnitudeOf (format : Format) : FloatClass → Nat
  | .nan => 0
  | .infinite _ => format.infinity
  | .finite _ mantissa exponent =>
    if mantissa < Nat.pow 2 format.fractionBits then mantissa
    else (exponent - format.minExponent + 1).toNat * Nat.pow 2 format.fractionBits +
      (mantissa - Nat.pow 2 format.fractionBits)

theorem magnitudeOf_classify (h : format.classify bits ≠ .nan) :
    format.magnitudeOf (format.classify bits) = bits % format.signWeight := by
  have hpos : 0 < Nat.pow 2 format.fractionBits := Nat.pow_pos (by decide)
  have hfraction := Nat.mod_lt (bits % format.signWeight) hpos
  have hsplit := Nat.div_add_mod' (bits % format.signWeight) (Nat.pow 2 format.fractionBits)
  simp only [classify] at h ⊢
  split
  case isTrue hnan => simp [hnan] at h
  split
  case isTrue hinfinite => exact hinfinite.symm
  split
  case isTrue hfield =>
    rw [hfield, Nat.zero_mul, Nat.zero_add] at hsplit
    rw [magnitudeOf, if_pos hfraction, hsplit]
  case isFalse hfield =>
    have hexponent : ∀ field : Nat, field ≠ 0 →
        (format.minExponent + (field - 1 : Nat) - format.minExponent + 1).toNat = field := by
      intro field hne
      omega
    rw [magnitudeOf, if_neg (by omega), hexponent _ hfield, Nat.add_sub_cancel_left, hsplit]

theorem magnitudeOf_eq_of_equal (format : Format) {x y : FloatClass} (h : x.equal y = true) :
    format.magnitudeOf x = format.magnitudeOf y := by
  cases x with
  | nan => cases h
  | infinite negative =>
      cases y with
      | infinite negative' => rfl
      | _ => cases h
  | finite negative mantissa exponent =>
      cases y with
      | finite negative' mantissa' exponent' =>
          simp only [FloatClass.equal, Bool.and_eq_true, beq_iff_eq, Bool.or_eq_true] at h
          obtain ⟨rfl, hzero | ⟨-, rfl⟩⟩ := h
          · simp [magnitudeOf, hzero]
          · rfl
      | _ => cases h

/-- Patterns of equal numbers with one sign are identical. -/
theorem eq_of_equal (hbits : bits < 2 * format.signWeight) (hother : other < 2 * format.signWeight)
    (h : (format.classify bits).equal (format.classify other) = true)
    (hsign : format.signWeight ≤ bits ↔ format.signWeight ≤ other) : bits = other := by
  have hnumber : format.classify bits ≠ .nan := by
    intro hnan
    rw [hnan] at h
    cases h
  have hnumber' : format.classify other ≠ .nan := by
    intro hnan
    rw [hnan] at h
    cases hclass : format.classify bits <;> rw [hclass] at h <;> cases h
  have hmagnitude := format.magnitudeOf_eq_of_equal h
  rw [magnitudeOf_classify hnumber, magnitudeOf_classify hnumber'] at hmagnitude
  by_cases hnegative : format.signWeight ≤ bits
  · rw [Nat.mod_eq_sub_mod hnegative, Nat.mod_eq_sub_mod (hsign.mp hnegative),
      Nat.mod_eq_of_lt (by omega), Nat.mod_eq_of_lt (by omega)] at hmagnitude
    have hother := hsign.mp hnegative
    omega
  · rwa [Nat.mod_eq_of_lt (by omega), Nat.mod_eq_of_lt (by omega)] at hmagnitude

end Format

/-- Whether the sign bit of a single-precision number is set. -/
def Binary32.signBit (x : Binary32) : Bool := decide (binary32.signWeight ≤ x.bits.toNat)

/-- Whether the sign bit of a double-precision number is set. -/
def Binary64.signBit (x : Binary64) : Bool := decide (binary64.signWeight ≤ x.bits.toNat)

theorem Binary32.eq_of_equal {x y : Binary32} (h : x.equal y = true)
    (hsign : x.signBit = y.signBit) : x = y := by
  have hx : x.bits.toNat < 2 * binary32.signWeight := x.bits.toNat_lt
  have hy : y.bits.toNat < 2 * binary32.signWeight := y.bits.toNat_lt
  have hbits := Format.eq_of_equal hx hy h (decide_eq_decide.mp hsign)
  cases x
  cases y
  exact congrArg Binary32.mk (UInt32.toNat_inj.mp hbits)

theorem Binary64.eq_of_equal {x y : Binary64} (h : x.equal y = true)
    (hsign : x.signBit = y.signBit) : x = y := by
  have hx : x.bits.toNat < 2 * binary64.signWeight := x.bits.toNat_lt
  have hy : y.bits.toNat < 2 * binary64.signWeight := y.bits.toNat_lt
  have hbits := Format.eq_of_equal hx hy h (decide_eq_decide.mp hsign)
  cases x
  cases y
  exact congrArg Binary64.mk (UInt64.toNat_inj.mp hbits)

end Transact
