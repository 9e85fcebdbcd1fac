/-
# Quoted texts

How a message shows a text it quotes: between double quotes, with every
character that would not show as itself written as an escape. The character
NUL, the tabulator and the line ends have short escapes; all others without a
glyph of their own are written by code point.
-/

import Transact.Text.UnseenTable

namespace Transact.Quoted

/-- Whether a character has no glyph of its own. -/
def isUnseen (c : Char) : Bool :=
  if c.toNat < 0x80 then c.toNat < 0x20 || c.toNat == 0x7F else UnseenTable.contains c.toNat

/-- A number in hexadecimal digits, without leading zeros. -/
def hex (n : Nat) : String :=
  String.ofList (Nat.toDigits 16 n)

/-- One character as it is written between quotes. -/
def escape (c : Char) : String :=
  if c = '\x00' then "\\0"
  else if c = '\t' then "\\t"
  else if c = '\r' then "\\r"
  else if c = '\n' then "\\n"
  else if c = '"' then "\\\""
  else if c = '\\' then "\\\\"
  else if isUnseen c then "\\u\x7b" ++ hex c.toNat ++ "\x7d"
  else c.toString

/-- A text between double quotes. -/
def quote (text : String) : String :=
  "\"" ++ String.join (text.toList.map escape) ++ "\""

end Transact.Quoted
