/-
# Texts are read back from their bytes

The bytes of a character are those of one of four widths. From the front of any
bytes the decoder takes exactly these, so it reads back every text. It takes
nothing else for a character: no number is read from a longer spelling, and no
surrogate from any, so the bytes of what was read are the bytes that were there.
-/

import Transact.Call
import Transact.Text.Utf8

namespace Transact.Utf8

/-! ## Bytes as numbers -/

theorem toNat_ofNat_of_lt {n : Nat} (h : n < 256) : (UInt8.ofNat n).toNat = n := by
  rw [UInt8.toNat_ofNat', Nat.mod_eq_of_lt h]

theorem width?_eq (lead : UInt8) :
    width? lead =
      if lead.toNat < 0x80 then some 1
      else if 0xC2 ≤ lead.toNat ∧ lead.toNat ≤ 0xDF then some 2
      else if 0xE0 ≤ lead.toNat ∧ lead.toNat ≤ 0xEF then some 3
      else if 0xF0 ≤ lead.toNat ∧ lead.toNat ≤ 0xF4 then some 4
      else none := by
  simp [width?, UInt8.lt_iff_toNat_lt, UInt8.le_iff_toNat_le]

theorem continuesLead_iff (lead second : UInt8) :
    continuesLead lead second = true ↔
      (0x80 ≤ second.toNat ∧ second.toNat ≤ 0xBF) ∧
        (lead.toNat = 0xE0 → 0xA0 ≤ second.toNat) ∧ (lead.toNat = 0xF0 → 0x90 ≤ second.toNat) ∧
        (lead.toNat = 0xED → second.toNat ≤ 0x9F) ∧ (lead.toNat = 0xF4 → second.toNat ≤ 0x8F) := by
  simp only [continuesLead, Bool.and_eq_true, decide_eq_true_eq, UInt8.le_iff_toNat_le,
    ← UInt8.toNat_inj, UInt8.reduceToNat, apply_ite UInt8.toNat]
  grind

/-- A byte built from six bits continues a character, and it carries these bits. -/
theorem continues_ofNat (n : Nat) : continues (UInt8.ofNat (n % 64 + 128)) = true := by
  simp [continues, UInt8.le_iff_toNat_le]
  omega

theorem payload_ofNat (n : Nat) : payload (UInt8.ofNat (n % 64 + 128)) = n % 64 := by
  rw [payload, toNat_ofNat_of_lt (by omega)]
  omega

/-! ## One character of each width -/

theorem decodeFrom_one {n : Nat} (hn : n ≤ 0x7F) (start : Nat) (rest : Bytes) :
    decodeFrom start (UInt8.ofNat n :: rest) =
      (decodeFrom (start + 1) rest).map (Char.ofNat n :: ·) := by
  have hlead := toNat_ofNat_of_lt (n := n) (by omega)
  have hwidth : width? (UInt8.ofNat n) = some 1 := by
    rw [width?_eq, hlead, if_pos (by omega)]
  rw [decodeFrom.eq_def]
  simp only [hwidth, hlead]

theorem decodeFrom_two {n : Nat} (hleast : 0x7F < n) (hn : n ≤ 0x7FF) (start : Nat)
    (rest : Bytes) :
    decodeFrom start (UInt8.ofNat (n / 64 % 32 + 192) :: UInt8.ofNat (n % 64 + 128) :: rest) =
      (decodeFrom (start + 2) rest).map (Char.ofNat n :: ·) := by
  have hlead := toNat_ofNat_of_lt (n := n / 64 % 32 + 192) (by omega)
  have hsecond := toNat_ofNat_of_lt (n := n % 64 + 128) (by omega)
  have hwidth : width? (UInt8.ofNat (n / 64 % 32 + 192)) = some 2 := by
    rw [width?_eq, hlead, if_neg (by omega), if_pos (by omega)]
  have hcontinues : continuesLead (UInt8.ofNat (n / 64 % 32 + 192))
      (UInt8.ofNat (n % 64 + 128)) = true := by
    rw [continuesLead_iff, hlead, hsecond]
    omega
  have hspelled : (n / 64 % 32 + 192) % 32 * 64 + n % 64 = n := by omega
  rw [decodeFrom.eq_def]
  simp only [hwidth, hcontinues, if_true, payload_ofNat, hlead, hspelled]

theorem decodeFrom_three {n : Nat} (hleast : 0x7FF < n) (hn : n ≤ 0xFFFF)
    (hvalid : n < 0xD800 ∨ 0xDFFF < n) (start : Nat) (rest : Bytes) :
    decodeFrom start (UInt8.ofNat (n / 4096 % 16 + 224) :: UInt8.ofNat (n / 64 % 64 + 128) ::
        UInt8.ofNat (n % 64 + 128) :: rest) =
      (decodeFrom (start + 3) rest).map (Char.ofNat n :: ·) := by
  have hlead := toNat_ofNat_of_lt (n := n / 4096 % 16 + 224) (by omega)
  have hsecond := toNat_ofNat_of_lt (n := n / 64 % 64 + 128) (by omega)
  have hwidth : width? (UInt8.ofNat (n / 4096 % 16 + 224)) = some 3 := by
    rw [width?_eq, hlead, if_neg (by omega), if_neg (by omega), if_pos (by omega)]
  have hcontinues : continuesLead (UInt8.ofNat (n / 4096 % 16 + 224))
      (UInt8.ofNat (n / 64 % 64 + 128)) = true := by
    rw [continuesLead_iff, hlead, hsecond]
    omega
  have hspelled : ((n / 4096 % 16 + 224) % 16 * 64 + n / 64 % 64) * 64 + n % 64 = n := by omega
  rw [decodeFrom.eq_def]
  simp only [hwidth, hcontinues, continues_ofNat, if_true, payload_ofNat, hlead, hspelled]

theorem decodeFrom_four {n : Nat} (hleast : 0xFFFF < n) (hn : n < 0x110000) (start : Nat)
    (rest : Bytes) :
    decodeFrom start (UInt8.ofNat (n / 262144 % 8 + 240) :: UInt8.ofNat (n / 4096 % 64 + 128) ::
        UInt8.ofNat (n / 64 % 64 + 128) :: UInt8.ofNat (n % 64 + 128) :: rest) =
      (decodeFrom (start + 4) rest).map (Char.ofNat n :: ·) := by
  have hlead := toNat_ofNat_of_lt (n := n / 262144 % 8 + 240) (by omega)
  have hsecond := toNat_ofNat_of_lt (n := n / 4096 % 64 + 128) (by omega)
  have hwidth : width? (UInt8.ofNat (n / 262144 % 8 + 240)) = some 4 := by
    rw [width?_eq, hlead, if_neg (by omega), if_neg (by omega), if_neg (by omega),
      if_pos (by omega)]
  have hcontinues : continuesLead (UInt8.ofNat (n / 262144 % 8 + 240))
      (UInt8.ofNat (n / 4096 % 64 + 128)) = true := by
    rw [continuesLead_iff, hlead, hsecond]
    omega
  have hspelled : (((n / 262144 % 8 + 240) % 8 * 64 + n / 4096 % 64) * 64 + n / 64 % 64) * 64
      + n % 64 = n := by omega
  rw [decodeFrom.eq_def]
  simp only [hwidth, hcontinues, continues_ofNat, if_true, payload_ofNat, hlead, hspelled]

/-! ## Whole texts -/

/-- The bytes of a character are read back, and what is behind them is read next. -/
theorem decodeFrom_utf8EncodeChar_append (char : Char) (start : Nat) (rest : Bytes) :
    decodeFrom start (String.utf8EncodeChar char ++ rest) =
      (decodeFrom (start + (String.utf8EncodeChar char).length) rest).map (char :: ·) := by
  have hvalid : char.toNat < 0xD800 ∨ 0xDFFF < char.toNat ∧ char.toNat < 0x110000 := char.valid
  have hchar : Char.ofNat char.toNat = char := Char.ofNat_toNat char
  rw [String.utf8EncodeChar, show char.val.toNat = char.toNat from rfl]
  generalize char.toNat = n at hvalid hchar
  subst hchar
  by_cases hone : n ≤ 0x7F
  · rw [if_pos hone]
    exact decodeFrom_one hone start rest
  by_cases htwo : n ≤ 0x7FF
  · rw [if_neg hone, if_pos htwo]
    exact decodeFrom_two (by omega) htwo start rest
  by_cases hthree : n ≤ 0xFFFF
  · rw [if_neg hone, if_neg htwo, if_pos hthree]
    exact decodeFrom_three (by omega) hthree (by omega) start rest
  · rw [if_neg hone, if_neg htwo, if_neg hthree]
    exact decodeFrom_four (by omega) (by omega) start rest

/-- Every text is read back from its bytes. -/
@[simp] theorem decode_encode (text : String) : decode (encode text) = .ok text := by
  have hchars (chars : List Char) (start : Nat) :
      decodeFrom start (chars.flatMap String.utf8EncodeChar) = .ok chars := by
    induction chars generalizing start with
    | nil => rfl
    | cons char chars ih =>
        rw [List.flatMap_cons, decodeFrom_utf8EncodeChar_append, ih]
        rfl
  rw [decode, encode, hchars]
  exact congrArg Except.ok (String.ofList_toList)

/-! ## Only written texts are read -/

theorem toNat_ofNat_of_valid {n : Nat} (h : n < 0xD800 ∨ 0xDFFF < n ∧ n < 0x110000) :
    (Char.ofNat n).val.toNat = n := by
  rw [Char.ofNat, dif_pos h]
  rfl

theorem continues_iff (byte : UInt8) :
    continues byte = true ↔ 0x80 ≤ byte.toNat ∧ byte.toNat ≤ 0xBF := by
  simp [continues, UInt8.le_iff_toNat_le]

theorem ofNat_eq_of_eq_toNat (byte : UInt8) {n : Nat} (h : n = byte.toNat) :
    UInt8.ofNat n = byte := by
  rw [h, UInt8.ofNat_toNat]

theorem utf8EncodeChar_one {lead : UInt8} (hwidth : width? lead = some 1) :
    String.utf8EncodeChar (Char.ofNat lead.toNat) = [lead] := by
  have hlead : lead.toNat < 0x80 := by
    rw [width?_eq] at hwidth
    grind
  rw [String.utf8EncodeChar, toNat_ofNat_of_valid (by omega), if_pos (by omega), UInt8.ofNat_toNat]

theorem utf8EncodeChar_two {lead second : UInt8} (hwidth : width? lead = some 2)
    (hsecond : continuesLead lead second = true) :
    String.utf8EncodeChar (Char.ofNat (lead.toNat % 32 * 64 + payload second)) =
      [lead, second] := by
  have hlead : 0xC2 ≤ lead.toNat ∧ lead.toNat ≤ 0xDF := by
    rw [width?_eq] at hwidth
    grind
  rw [continuesLead_iff] at hsecond
  rw [payload, String.utf8EncodeChar, toNat_ofNat_of_valid (by omega), if_neg (by omega),
    if_pos (by omega), ofNat_eq_of_eq_toNat lead (by omega),
    ofNat_eq_of_eq_toNat second (by omega)]

theorem utf8EncodeChar_three {lead second third : UInt8} (hwidth : width? lead = some 3)
    (hsecond : continuesLead lead second = true) (hthird : continues third = true) :
    String.utf8EncodeChar
        (Char.ofNat ((lead.toNat % 16 * 64 + payload second) * 64 + payload third)) =
      [lead, second, third] := by
  have hlead : 0xE0 ≤ lead.toNat ∧ lead.toNat ≤ 0xEF := by
    rw [width?_eq] at hwidth
    grind
  rw [continuesLead_iff] at hsecond
  rw [continues_iff] at hthird
  rw [payload, payload, String.utf8EncodeChar, toNat_ofNat_of_valid (by omega), if_neg (by omega),
    if_neg (by omega), if_pos (by omega), ofNat_eq_of_eq_toNat lead (by omega),
    ofNat_eq_of_eq_toNat second (by omega),
    ofNat_eq_of_eq_toNat third (by omega)]

theorem utf8EncodeChar_four {lead second third fourth : UInt8} (hwidth : width? lead = some 4)
    (hsecond : continuesLead lead second = true) (hthird : continues third = true)
    (hfourth : continues fourth = true) :
    String.utf8EncodeChar (Char.ofNat (((lead.toNat % 8 * 64 + payload second) * 64
        + payload third) * 64 + payload fourth)) =
      [lead, second, third, fourth] := by
  have hlead : 0xF0 ≤ lead.toNat ∧ lead.toNat ≤ 0xF4 := by
    rw [width?_eq] at hwidth
    grind
  rw [continuesLead_iff] at hsecond
  rw [continues_iff] at hthird hfourth
  rw [payload, payload, payload, String.utf8EncodeChar, toNat_ofNat_of_valid (by omega),
    if_neg (by omega), if_neg (by omega), if_neg (by omega),
    ofNat_eq_of_eq_toNat lead (by omega),
    ofNat_eq_of_eq_toNat second (by omega),
    ofNat_eq_of_eq_toNat third (by omega),
    ofNat_eq_of_eq_toNat fourth (by omega)]

/-- If a character has the bytes that it was read from and so have those behind it, all have. -/
theorem flatMap_of_map_cons {start : Nat} {front rest : Bytes} {char : Char} {chars : List Char}
    (hchar : String.utf8EncodeChar char = front)
    (hrest : ∀ others, decodeFrom start rest = .ok others →
      others.flatMap String.utf8EncodeChar = rest)
    (h : (decodeFrom start rest).map (char :: ·) = .ok chars) :
    chars.flatMap String.utf8EncodeChar = front ++ rest := by
  obtain ⟨others, hothers, rfl⟩ := Except.map_eq_ok_iff.mp h
  rw [List.flatMap_cons, hchar, hrest others hothers]

/-- What is read has the bytes that it was read from. -/
theorem flatMap_of_decodeFrom {start : Nat} {bytes : Bytes} {chars : List Char}
    (h : decodeFrom start bytes = .ok chars) : chars.flatMap String.utf8EncodeChar = bytes := by
  -- Four cases read a character, one for each width; all others but the end are refusals.
  fun_induction decodeFrom start bytes generalizing chars with
  | case1 =>
      cases h
      rfl
  | case3 start lead rest hwidth ih =>
      exact flatMap_of_map_cons (utf8EncodeChar_one hwidth) (fun _ => ih) h
  | case5 start lead hwidth second rest hsecond ih =>
      exact flatMap_of_map_cons (utf8EncodeChar_two hwidth hsecond) (fun _ => ih) h
  | case9 start lead hwidth second hsecond third rest hthird ih =>
      exact flatMap_of_map_cons (utf8EncodeChar_three hwidth hsecond hthird) (fun _ => ih) h
  | case15 start lead width hone htwo hthree hwidth second hsecond third hthird fourth rest hfourth
      ih =>
      obtain rfl : width = 4 := by
        rw [width?_eq] at hwidth
        grind
      exact flatMap_of_map_cons (utf8EncodeChar_four hwidth hsecond hthird hfourth)
        (fun _ => ih) h
  | _ => cases h

/-- A text is read from its own bytes, and from nothing else. -/
theorem decode_eq_ok_iff {bytes : Bytes} {text : String} :
    decode bytes = .ok text ↔ bytes = encode text := by
  constructor
  · intro h
    obtain ⟨chars, hchars, rfl⟩ := Except.map_eq_ok_iff.mp h
    rw [encode, String.toList_ofList, flatMap_of_decodeFrom hchars]
  · rintro rfl
    exact decode_encode text

/-- A character takes four bytes at most. -/
theorem length_encode_le (text : String) :
    (encode text).length ≤ 4 * text.toList.length := by
  rw [encode]
  induction text.toList with
  | nil => simp
  | cons c chars ih =>
      have hc := Char.utf8Size_le_four c
      simp only [List.flatMap_cons, List.length_append, String.length_utf8EncodeChar,
        List.length_cons]
      omega

end Transact.Utf8
