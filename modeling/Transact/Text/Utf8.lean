/-
# UTF-8

Strings are stored as UTF-8 and read back from bytes that may be damaged. A
refusal says where the damage lies and how much of it there is: a sequence that
can never become a character counts the bytes that were still acceptable, and a
sequence cut off by the end of the input is incomplete instead.
-/

import Transact.Bytes

namespace Transact.Utf8

/-- Why bytes are not UTF-8. `start` counts the bytes before the damage. -/
inductive Fault where
  | invalid (length start : Nat)
  | incomplete (start : Nat)
  deriving DecidableEq, Repr

/-- The wording of a fault. -/
def Fault.message : Fault → String
  | .invalid length start => s!"invalid utf-8 sequence of {length} bytes from index {start}"
  | .incomplete start => s!"incomplete utf-8 byte sequence from index {start}"

/-- The bytes of a text. -/
def encode (text : String) : Bytes :=
  text.toList.flatMap String.utf8EncodeChar

/-- How many bytes a character that starts with `lead` takes; none start with the
continuation bytes or with a byte that could only spell too long or too large a number. -/
def width? (lead : UInt8) : Option Nat :=
  if lead < 0x80 then some 1
  else if 0xC2 ≤ lead ∧ lead ≤ 0xDF then some 2
  else if 0xE0 ≤ lead ∧ lead ≤ 0xEF then some 3
  else if 0xF0 ≤ lead ∧ lead ≤ 0xF4 then some 4
  else none

/-- Whether a byte continues a character. -/
def continues (byte : UInt8) : Bool :=
  0x80 ≤ byte && byte ≤ 0xBF

/-- Whether a byte may come second after `lead`: the bounds keep out longer spellings of
smaller numbers, the surrogates, and numbers past the last code point. -/
def continuesLead (lead byte : UInt8) : Bool :=
  let low : UInt8 := if lead = 0xE0 then 0xA0 else if lead = 0xF0 then 0x90 else 0x80
  let high : UInt8 := if lead = 0xED then 0x9F else if lead = 0xF4 then 0x8F else 0xBF
  low ≤ byte && byte ≤ high

/-- The six bits that a continuation byte carries. -/
def payload (byte : UInt8) : Nat := byte.toNat % 64

/-- Decode bytes of which `start` have been read before. -/
def decodeFrom (start : Nat) : Bytes → Except Fault (List Char)
  | [] => .ok []
  | lead :: rest =>
    match width? lead with
    | none => .error (.invalid 1 start)
    | some 1 => (decodeFrom (start + 1) rest).map (Char.ofNat lead.toNat :: ·)
    | some 2 =>
      match rest with
      | [] => .error (.incomplete start)
      | second :: rest =>
        if continuesLead lead second then
          (decodeFrom (start + 2) rest).map
            (Char.ofNat (lead.toNat % 32 * 64 + payload second) :: ·)
        else .error (.invalid 1 start)
    | some 3 =>
      match rest with
      | [] => .error (.incomplete start)
      | second :: rest =>
        if continuesLead lead second then
          match rest with
          | [] => .error (.incomplete start)
          | third :: rest =>
            if continues third then
              (decodeFrom (start + 3) rest).map
                (Char.ofNat ((lead.toNat % 16 * 64 + payload second) * 64 + payload third) :: ·)
            else .error (.invalid 2 start)
        else .error (.invalid 1 start)
    | some _ =>
      match rest with
      | [] => .error (.incomplete start)
      | second :: rest =>
        if continuesLead lead second then
          match rest with
          | [] => .error (.incomplete start)
          | third :: rest =>
            if continues third then
              match rest with
              | [] => .error (.incomplete start)
              | fourth :: rest =>
                if continues fourth then
                  (decodeFrom (start + 4) rest).map
                    (Char.ofNat (((lead.toNat % 8 * 64 + payload second) * 64
                      + payload third) * 64 + payload fourth) :: ·)
                else .error (.invalid 3 start)
            else .error (.invalid 2 start)
        else .error (.invalid 1 start)

/-- The text that bytes spell. -/
def decode (bytes : Bytes) : Except Fault String :=
  (decodeFrom 0 bytes).map String.ofList

end Transact.Utf8
