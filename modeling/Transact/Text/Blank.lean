/-
# White space

The characters with the White_Space property, and the words that they separate.
Statement texts are compared word by word, so two texts that differ only in
their spacing name one statement.
-/

namespace Transact.Blank

/-- Whether a character is white space. -/
def isBlank (c : Char) : Bool :=
  let code := c.toNat
  (0x09 ≤ code && code ≤ 0x0D) || code == 0x20 || code == 0x85 || code == 0xA0
    || code == 0x1680 || (0x2000 ≤ code && code ≤ 0x200A) || code == 0x2028
    || code == 0x2029 || code == 0x202F || code == 0x205F || code == 0x3000

/-- The words of a text, `word` being the letters of the current one in reverse. -/
def wordsAfter (word : List Char) : List Char → List (List Char)
  | [] => if word.isEmpty then [] else [word.reverse]
  | c :: rest =>
    if isBlank c then
      if word.isEmpty then wordsAfter [] rest else word.reverse :: wordsAfter [] rest
    else wordsAfter (c :: word) rest

/-- The maximal runs of characters that are not white space. -/
def words (text : String) : List String :=
  (wordsAfter [] text.toList).map String.ofList

/-- A text with its words kept and one space between each two. -/
def collapse (text : String) : String :=
  " ".intercalate (words text)

end Transact.Blank
