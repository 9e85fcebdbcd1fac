/-
# The pieces of a statement

What a statement consists of as far as placeholders go: quoted pieces, comments,
hints, placeholders, and single characters. The pieces are described by what they
look like and by what may stand behind them, not by how they are found. A piece
that is open to the right ends where it cannot go on, and one that has to be
closed is closed at the first place where it can be.

Inside quotes the text is a row of marks, a mark being a character that stands
for itself or one that a backslash protects.
-/

import Transact.Statement.ParamKey
import Transact.Text.Word

namespace Transact.Grammar

/-! ## Quoted pieces -/

/-- A closer that stands behind a row has not occurred before, not even overlapping it. -/
def Ends {α : Type} (closer front : List α) : Prop := ¬ closer <:+: front ++ closer.dropLast

/-- A character between quotes: one that stands for itself, or one with a backslash before it. -/
inductive Mark where
  | plain (c : Char) (hplain : c ≠ '\\')
  | escaped (c : Char)

namespace Mark

/-- The text of a mark. -/
def text : Mark → List Char
  | plain c _ => [c]
  | escaped c => ['\\', c]

/-- The character that a mark stands for, if it is not protected. -/
def bare? : Mark → Option Char
  | plain c _ => some c
  | escaped _ => none

/-- The text of a row of marks. -/
def textOf (marks : List Mark) : List Char := marks.flatMap text

end Mark

/-- A quoted piece with some text behind it. Single and double quotes have an empty literal, which
no third quote may follow, and a literal between three quotes each; backticks have neither. -/
inductive Quoted (behind : List Char) : List Char → Prop where
  | literal {quote : Char} (marks : List Mark) (hquote : quote ∈ ['\'', '"', '`'])
      (hform : quote = '`' ∨ marks ≠ []) (hends : Ends [some quote] (marks.map Mark.bare?)) :
      Quoted behind (quote :: (Mark.textOf marks ++ [quote]))
  | empty {quote : Char} (hquote : quote ∈ ['\'', '"']) (hbehind : behind.head? ≠ some quote) :
      Quoted behind [quote, quote]
  | triple {quote : Char} (marks : List Mark) (hquote : quote ∈ ['\'', '"'])
      (hends : Ends [some quote, some quote, some quote] (marks.map Mark.bare?)) :
      Quoted behind ([quote, quote, quote] ++ (Mark.textOf marks ++ [quote, quote, quote]))

/-! ## Hints -/

/-- A text in which every brace has its partner, with some text behind it. What quoted pieces hold
does not count. -/
inductive Balanced : (behind text : List Char) → Prop where
  | nil {behind : List Char} : Balanced behind []
  | char {behind text : List Char} {c : Char} (hc : c ∉ ['\'', '"', '`', '\x7b', '\x7d'])
      (htext : Balanced behind text) : Balanced behind (c :: text)
  | quoted {behind literal text : List Char} (hliteral : Quoted (text ++ behind) literal)
      (htext : Balanced behind text) : Balanced behind (literal ++ text)
  | braces {behind inner text : List Char} (hinner : Balanced ('\x7d' :: (text ++ behind)) inner)
      (htext : Balanced behind text) :
      Balanced behind ('\x7b' :: (inner ++ '\x7d' :: text))

/-! ## Statements -/

/-- What a piece is for placeholders. -/
inductive Found where
  | nothing
  | positional
  | named (name : String)
  deriving DecidableEq

/-- A piece of a statement with some text behind it, and the placeholder that it is. -/
inductive Lexeme (behind : List Char) : List Char → Found → Prop where
  | quoted {text : List Char} (htext : Quoted behind text) : Lexeme behind text .nothing
  | line {opening text : List Char} (hopening : opening = ['-', '-'] ∨ opening = ['#'])
      (htext : '\n' ∉ text) (hbehind : ∀ c ∈ behind.head?, c = '\n') :
      Lexeme behind (opening ++ text) .nothing
  | block {text : List Char} (hends : Ends ['*', '/'] text) :
      Lexeme behind (['/', '*'] ++ (text ++ ['*', '/'])) .nothing
  | hint {text : List Char} (htext : Balanced ('\x7d' :: behind) text) :
      Lexeme behind (['@', '\x7b'] ++ (text ++ ['\x7d'])) .nothing
  | positional : Lexeme behind ['?'] .positional
  | named {first : Char} {name : List Char} (hname : ∀ c ∈ first :: name, Word.isNameChar c = true)
      (hfirst : first.isDigit = false) (hbehind : ∀ c ∈ behind.head?, Word.isNameChar c = false) :
      Lexeme behind ('@' :: first :: name) (.named (String.ofList (first :: name)))
  | other {c : Char} (hc : c ∉ ['\'', '"', '`', '#', '?', '@'])
      (hdash : c = '-' → behind.head? ≠ some '-') (hslash : c = '/' → behind.head? ≠ some '*') :
      Lexeme behind [c] .nothing

/-- A text splits into pieces from left to right. -/
inductive Splits : List Char → List Found → Prop where
  | nil : Splits [] []
  | cons {text behind : List Char} {found : Found} {rest : List Found}
      (hpiece : Lexeme behind text found) (hrest : Splits behind rest) :
      Splits (text ++ behind) (found :: rest)

/-- The placeholders of pieces, of which `count` question marks came before. -/
def keysFrom (count : Nat) : List Found → List ParamKey
  | [] => []
  | .nothing :: rest => keysFrom count rest
  | .positional :: rest => .positional (count + 1) :: keysFrom (count + 1) rest
  | .named name :: rest => .named name :: keysFrom count rest

end Transact.Grammar
