/-
# Finding placeholders

The scanner reads a statement from left to right and reports its placeholders:
`@name`, and `?` counted from 1. Quoted literals, quoted identifiers, comments
and hints are passed over, so what looks like a placeholder inside them is
none. A piece that is not closed, or an `@` without a proper name, is reported
as an error, and scanning goes on from where the piece was given up.

The scanner is one function on the remaining characters: `piece` takes the
piece that begins with a given character, and what it leaves is never longer
than what it was given, so that `scanFrom` ends.
-/

import Transact.Error
import Transact.Text.Word

namespace Transact.Scanner

/-- Pass over a literal up to its closing quote; a backslash protects the next character. -/
def closeQuote (quote : Char) : List Char → Option (List Char)
  | [] => none
  | '\\' :: _ :: rest => closeQuote quote rest
  | c :: rest => if c = quote then some rest else closeQuote quote rest

/-- Pass over a literal up to the first three quotes in a row, none of them protected. -/
def closeTripleQuote (quote : Char) : List Char → Option (List Char)
  | [] => none
  | '\\' :: _ :: rest => closeTripleQuote quote rest
  | first :: rest =>
    match rest with
    | second :: third :: after =>
      if first = quote ∧ second = quote ∧ third = quote then some after
      else closeTripleQuote quote rest
    | _ => closeTripleQuote quote rest

/-- A piece that has to be closed. -/
def closed (fault : ConstructionFault) : Option (List Char) → Except ConstructionFault (List Char)
  | some rest => .ok rest
  | none => .error fault

/-- Pass over a quoted piece whose opening quote has been read. Two quotes are the empty
literal and three open a literal that three close; a backtick has neither form. -/
def skipQuoted (quote : Char) (chars : List Char) : Except ConstructionFault (List Char) :=
  if quote ≠ '`' ∧ chars.head? = some quote then
    if chars.tail.head? = some quote then
      closed (.unterminatedTripleQuote quote) (closeTripleQuote quote chars.tail.tail)
    else .ok chars.tail
  else closed (.unterminatedQuote quote) (closeQuote quote chars)

/-- Pass over a comment up to `*/`. -/
def closeComment : List Char → Option (List Char)
  | [] => none
  | first :: rest =>
    match rest with
    | second :: after => if first = '*' ∧ second = '/' then some after else closeComment rest
    | [] => none

/-- Pass over a line, up to its end. -/
def skipLine (chars : List Char) : List Char :=
  chars.dropWhile (· ≠ '\n')

theorem length_closeQuote {quote : Char} {chars rest : List Char}
    (h : closeQuote quote chars = some rest) : rest.length < chars.length := by
  fun_induction closeQuote quote chars with
  | case1 => cases h
  | case2 _ _ ih => exact Nat.lt_succ_of_lt (Nat.lt_succ_of_lt (ih h))
  | case3 => cases h; exact Nat.lt_succ_self _
  | case4 _ _ _ _ ih => exact Nat.lt_succ_of_lt (ih h)

theorem length_closeTripleQuote {quote : Char} {chars rest : List Char}
    (h : closeTripleQuote quote chars = some rest) : rest.length < chars.length := by
  fun_induction closeTripleQuote quote chars with
  | case1 => cases h
  | case2 _ _ ih => exact Nat.lt_succ_of_lt (Nat.lt_succ_of_lt (ih h))
  | case3 => cases h; simp only [List.length_cons]; omega
  | case4 _ _ _ _ _ _ ih => exact Nat.lt_succ_of_lt (ih h)
  | case5 _ _ _ _ ih => exact Nat.lt_succ_of_lt (ih h)

theorem length_closeComment {chars rest : List Char}
    (h : closeComment chars = some rest) : rest.length < chars.length := by
  fun_induction closeComment chars with
  | case1 => cases h
  | case2 => cases h; simp only [List.length_cons]; omega
  | case3 _ _ _ _ ih => exact Nat.lt_succ_of_lt (ih h)
  | case4 => cases h

theorem length_skipLine (chars : List Char) : (skipLine chars).length ≤ chars.length :=
  (List.dropWhile_sublist _).length_le

theorem eq_some_of_closed {fault : ConstructionFault} {outcome : Option (List Char)}
    {rest : List Char} (h : closed fault outcome = .ok rest) : outcome = some rest := by
  cases outcome with
  | none => cases h
  | some _ => cases h; rfl

theorem length_skipQuoted {quote : Char} {chars rest : List Char}
    (h : skipQuoted quote chars = .ok rest) : rest.length ≤ chars.length := by
  have htail : chars.tail.length ≤ chars.length := by simp
  unfold skipQuoted at h
  split at h
  · split at h
    · have := length_closeTripleQuote (eq_some_of_closed h)
      have : chars.tail.tail.length ≤ chars.length := by simp; omega
      omega
    · cases h
      exact htail
  · exact Nat.le_of_lt (length_closeQuote (eq_some_of_closed h))

/-- Whether a character opens a quoted piece. -/
def isQuote (c : Char) : Bool := c == '\'' || c == '"' || c == '`'

/-- Pass over a hint in which `depth` braces are open, up to the brace that closes the last. -/
def closeHint (depth : Nat) (chars : List Char) : Except ConstructionFault (List Char) :=
  match chars with
  | [] => .error .unterminatedHint
  | c :: rest =>
    if isQuote c then
      match _hquoted : skipQuoted c rest with
      | .ok after => closeHint depth after
      | .error fault => .error fault
    else if c = '\x7b' then closeHint (depth + 1) rest
    else if c = '\x7d' then if depth ≤ 1 then .ok rest else closeHint (depth - 1) rest
    else closeHint depth rest
termination_by chars.length
decreasing_by
  · have := length_skipQuoted _hquoted
    simp only [List.length_cons]
    omega
  all_goals exact Nat.lt_succ_self _

theorem length_closeHint {depth : Nat} {chars rest : List Char}
    (h : closeHint depth chars = .ok rest) : rest.length < chars.length := by
  fun_induction closeHint depth chars with
  | case1 => cases h
  | case2 _ _ _ _ _ hquoted ih =>
    have := ih h
    have := length_skipQuoted hquoted
    simp only [List.length_cons]
    omega
  | case3 => cases h
  | case4 => rename_i ih; exact Nat.lt_succ_of_lt (ih h)
  | case5 => cases h; exact Nat.lt_succ_self _
  | case6 => rename_i ih; exact Nat.lt_succ_of_lt (ih h)
  | case7 => rename_i ih; exact Nat.lt_succ_of_lt (ih h)

/-- What a piece of a statement is. -/
inductive Piece where
  | skipped
  | positional
  | named (name : String)
  | fault (reason : ConstructionFault)
  deriving DecidableEq

/-- The outcome of passing over a piece. A piece that is not closed takes all that is left. -/
def Piece.ofSkip : Except ConstructionFault (List Char) → Piece × List Char
  | .ok rest => (.skipped, rest)
  | .error reason => (.fault reason, [])

/-- What the characters after an `@` are, up to the first that no name can hold. -/
def nameOf : List Char → Piece
  | [] => .fault .missingName
  | first :: rest =>
    if first.isDigit then .fault (.invalidName (String.ofList (first :: rest)))
    else .named (String.ofList (first :: rest))

/-- The name after an `@`. -/
def name (chars : List Char) : Piece × List Char :=
  (nameOf (chars.takeWhile Word.isNameChar), chars.dropWhile Word.isNameChar)

/-- The piece that begins with a character, and what follows it. -/
def piece (c : Char) (chars : List Char) : Piece × List Char :=
  if isQuote c then Piece.ofSkip (skipQuoted c chars)
  else if c = '#' then (.skipped, skipLine chars)
  else if c = '?' then (.positional, chars)
  else
    match chars with
    | [] => if c = '@' then name [] else (.skipped, [])
    | next :: rest =>
      if c = '-' ∧ next = '-' then (.skipped, skipLine rest)
      else if c = '/' ∧ next = '*' then
        match closeComment rest with
        | some rest => (.skipped, rest)
        | none => (.fault .unterminatedComment, [])
      else if c = '@' ∧ next = '\x7b' then Piece.ofSkip (closeHint 1 rest)
      else if c = '@' then name (next :: rest)
      else (.skipped, next :: rest)

theorem length_ofSkip {outcome : Except ConstructionFault (List Char)} {bound : Nat}
    (h : ∀ rest, outcome = .ok rest → rest.length ≤ bound) :
    (Piece.ofSkip outcome).2.length ≤ bound := by
  cases outcome with
  | ok rest => exact h rest rfl
  | error => exact Nat.zero_le _

theorem length_name (chars : List Char) : (name chars).2.length ≤ chars.length :=
  (List.dropWhile_sublist _).length_le

/-- A piece never leaves more than it was given. -/
theorem length_piece (c : Char) (chars : List Char) : (piece c chars).2.length ≤ chars.length := by
  unfold piece
  split
  · exact length_ofSkip fun _ h => length_skipQuoted h
  split
  · exact length_skipLine chars
  split
  · exact Nat.le_refl _
  split
  · split
    · exact length_name []
    · exact Nat.le_refl _
  next next rest =>
    split
    · exact Nat.le_succ_of_le (length_skipLine rest)
    split
    · split
      next after h =>
        have := length_closeComment h
        simp only [List.length_cons]
        omega
      next => exact Nat.zero_le _
    split
    · refine length_ofSkip fun after h => ?_
      have := length_closeHint h
      simp only [List.length_cons]
      omega
    split
    · exact length_name _
    · exact Nat.le_refl _

/-- Scan characters of which `count` question marks came before. -/
def scanFrom (count : Nat) (chars : List Char) : List (Except Error ParamKey) :=
  match chars with
  | [] => []
  | c :: rest =>
    let found := piece c rest
    match found.1 with
    | .skipped => scanFrom count found.2
    | .positional => .ok (.positional (count + 1)) :: scanFrom (count + 1) found.2
    | .named name => .ok (.named name) :: scanFrom count found.2
    | .fault fault => .error (.construction fault) :: scanFrom count found.2
termination_by chars.length
decreasing_by
  all_goals
    have := length_piece c rest
    simp only [List.length_cons]
    omega

/-- The placeholders of a statement in order, with the errors among them. -/
def scan (sql : String) : List (Except Error ParamKey) :=
  scanFrom 0 sql.toList

end Transact.Scanner
