import GeoConformance.Text.Alphanumeric
import GeoConformance.Text.Blank

/-!
# The lexemes of a template

A template is written as the generating text of a schema object with placeholders in braces. Its
lexemes are the placeholders, the longest words, the two spellings of inequality as one, and every
other character by itself; blanks only separate them.
-/

namespace GeoConformance
namespace Template

open Text

inductive Piece
  | word (chars : List Char)
  | blank
  | mark (c : Char)
deriving DecidableEq

def pieces : List Char → List Piece
  | [] => []
  | c :: rest =>
    if isWordChar c then
      match pieces rest with
      | .word chars :: more => .word (c :: chars) :: more
      | more => .word [c] :: more
    else if isBlank c then .blank :: pieces rest
    else .mark c :: pieces rest

inductive Lexeme
  | placeholder (name : List Char)
  | word (chars : List Char)
  | unequal
  | mark (c : Char)
deriving DecidableEq

/-- Braces enclose a placeholder only where they touch a single word on both sides. -/
def join : List Piece → List Lexeme
  | [] => []
  | .mark '{' :: .word name :: .mark '}' :: rest => .placeholder name :: join rest
  | .mark '!' :: .mark '=' :: rest => .unequal :: join rest
  | .mark '<' :: .mark '>' :: rest => .unequal :: join rest
  | .mark c :: rest => .mark c :: join rest
  | .word chars :: rest => .word chars :: join rest
  | .blank :: rest => join rest

def lexemes (text : String) : List Lexeme := join (pieces text.toList)

end Template
end GeoConformance
