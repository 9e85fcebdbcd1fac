/-
# Texts sort as their bytes

Of two characters the one with the lower number has the lower bytes, whatever stands
behind them: a wider character begins with a higher byte, and within a width the
bytes are the digits of the number. So the order of texts by their characters is that
of their UTF-8 bytes.
-/

import Mathlib.Tactic.SplitIfs
import Transact.OrderedMap
import Transact.Proofs.OrderedKey.Order
import Transact.Proofs.Text.Utf8

namespace Transact.Utf8

theorem ofNat_lt_ofNat_iff {m n : Nat} (hm : m < 256) (hn : n < 256) :
    UInt8.ofNat m < UInt8.ofNat n ↔ m < n := by
  rw [UInt8.lt_iff_toNat_lt, toNat_ofNat_of_lt hm, toNat_ofNat_of_lt hn]

theorem ofNat_eq_ofNat_iff {m n : Nat} (hm : m < 256) (hn : n < 256) :
    UInt8.ofNat m = UInt8.ofNat n ↔ m = n := by
  rw [← UInt8.toNat_inj, toNat_ofNat_of_lt hm, toNat_ofNat_of_lt hn]

/-- Of two numbers the lower one has the lower front, or the same front and the lower last digit. -/
theorem div_lt_or_mod_lt {m n : Nat} (h : m < n) :
    m / 64 < n / 64 ∨ m / 64 = n / 64 ∧ m % 64 < n % 64 := by
  omega

/-- Of the numbers of two characters the lower one has the lower digits, the first ones counting
most. -/
theorem digits_lt {m n : Nat} (h : m < n) (hn : n < 0x110000) :
    m / 262144 % 8 < n / 262144 % 8 ∨ m / 262144 % 8 = n / 262144 % 8 ∧
      (m / 4096 % 64 < n / 4096 % 64 ∨ m / 4096 % 64 = n / 4096 % 64 ∧
        (m / 64 % 64 < n / 64 % 64 ∨ m / 64 % 64 = n / 64 % 64 ∧ m % 64 < n % 64)) := by
  have hsecond (k : Nat) : k / 4096 = k / 64 / 64 := by omega
  have hthird (k : Nat) : k / 262144 = k / 64 / 64 / 64 := by omega
  rw [hsecond m, hsecond n, hthird m, hthird n]
  rcases div_lt_or_mod_lt h with hfront | ⟨hfront, hlast⟩
  · rcases div_lt_or_mod_lt hfront with hfront | ⟨hfront, hlast⟩
    · rcases div_lt_or_mod_lt hfront with hfront | ⟨hfront, hlast⟩
      · exact .inl (by omega)
      · exact .inr ⟨by rw [hfront], .inl hlast⟩
    · exact .inr ⟨by rw [hfront], .inr ⟨by rw [hfront], .inl hlast⟩⟩
  · exact .inr ⟨by rw [hfront], .inr ⟨by rw [hfront], .inr ⟨by rw [hfront], hlast⟩⟩⟩

/-- The bytes of a lower character come first, whatever stands behind the two. -/
theorem utf8EncodeChar_append_lt {left right : Char} (h : left < right) (behind after : Bytes) :
    String.utf8EncodeChar left ++ behind < String.utf8EncodeChar right ++ after := by
  have hlt : left.val.toNat < right.val.toNat := UInt32.lt_iff_toNat_lt.mp (Char.lt_def.mp h)
  have hbound : right.val.toNat < 0x110000 := by
    have := right.valid
    simp only [UInt32.isValidChar, Nat.isValidChar] at this
    omega
  simp only [String.utf8EncodeChar]
  generalize left.val.toNat = m at hlt
  generalize right.val.toNat = n at hlt hbound
  have hdigits := digits_lt hlt hbound
  -- Of two widths the first bytes tell, and within a width the digits do.
  split_ifs <;>
    simp (disch := omega) only [List.cons_append, List.nil_append, List.cons_lt_cons_iff,
      ofNat_lt_ofNat_iff, ofNat_eq_ofNat_iff] <;>
    omega

theorem utf8EncodeChar_append_pos (char : Char) (behind : Bytes) :
    [] < String.utf8EncodeChar char ++ behind := by
  cases hbytes : String.utf8EncodeChar char with
  | nil =>
      have hlength := String.length_utf8EncodeChar char
      have := Char.utf8Size_pos char
      rw [hbytes, List.length_nil] at hlength
      omega
  | cons => simp

/-- Texts are ordered as their bytes are. -/
theorem encode_lt_iff {left right : String} : encode left < encode right ↔ left < right := by
  rw [String.lt_iff, encode, encode]
  generalize left.toList = left
  generalize right.toList = right
  induction left generalizing right with
  | nil =>
      cases right with
      | nil => simp
      | cons char rest => simpa using utf8EncodeChar_append_pos char _
  | cons char rest ih =>
      cases right with
      | nil => simp
      | cons other others =>
          rw [List.flatMap_cons, List.flatMap_cons, List.cons_lt_cons_iff]
          by_cases hlt : char < other
          case pos =>
            exact iff_of_true (utf8EncodeChar_append_lt hlt _ _) (.inl hlt)
          by_cases heq : char = other
          case pos =>
            subst heq
            rw [Bytes.append_lt_append_iff rfl, ih]
            exact or_congr (iff_of_false Std.lt_irrefl hlt) (and_congr_left' (by simp))
          case neg =>
            have hgt : other < char := OrderedMap.lt_of_not_lt_of_ne hlt (Ne.symm heq)
            have hbytes := utf8EncodeChar_append_lt hgt (others.flatMap String.utf8EncodeChar)
              (rest.flatMap String.utf8EncodeChar)
            refine iff_of_false (fun h => Std.lt_irrefl (Std.lt_trans h hbytes)) ?_
            rintro (h | ⟨h, -⟩)
            · exact hlt h
            · exact heq h

end Transact.Utf8
