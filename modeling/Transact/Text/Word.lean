/-
# Letters and numbers

Which characters may stand in the name of a statement parameter. ASCII is
decided directly, so names in ASCII never consult the table.
-/

import Transact.Text.WordTable

namespace Transact.Word

/-- Whether a character is a letter or a number of any script. -/
def isAlphanumeric (c : Char) : Bool :=
  if c.toNat < 0x80 then c.isAlphanum else WordTable.contains c.toNat

/-- Whether a character may stand in a parameter name. -/
def isNameChar (c : Char) : Bool :=
  isAlphanumeric c || c == '_'

end Transact.Word
