import GeoConformance.Identifier
import GeoConformance.Template.Lexeme
import GeoConformance.Text.CaseFolding
import GeoConformance.Text.UpperCase

/-!
# Tokens and their spellings

A token is a lexeme whose placeholder is bound. Reading one from the front of a text can leave
different remainders, since an identifier may end in several places; all of them are kept, so that a
reader can go on with each. Letters are compared without regard to case.
-/

namespace GeoConformance
namespace Template

open Text

inductive Token
  | word (chars : List Char)
  | name (chars : List Char)
  | anyIdentifier
  | unequal
  | mark (c : Char)
deriving DecidableEq

/-- What follows a text at the front of another one. -/
def after? : List Char → List Char → Option (List Char)
  | [], s => some s
  | _ :: _, [] => none
  | c :: expected, d :: s => if alike c d then after? expected s else none

/-- What can remain after some characters of a class, possibly none. -/
def afterAny (inClass : Char → Bool) : List Char → List (List Char)
  | [] => [[]]
  | c :: rest => (c :: rest) :: if inClass c then afterAny inClass rest else []

def afterSome (inClass : Char → Bool) : List Char → List (List Char)
  | [] => []
  | c :: rest => if inClass c then afterAny inClass rest else []

/-- What can remain after the body and the closing quote of a quoted identifier. A quote closes it
or, with another one, stands for itself; an empty body cannot be closed. -/
def afterQuoted : (isEmpty : Bool) → List Char → List (List Char)
  | _, [] => []
  | isEmpty, '"' :: rest =>
    let doubled := match rest with
      | '"' :: more => afterQuoted false more
      | _ => []
    if isEmpty then doubled else rest :: doubled
  | _, _ :: rest => afterQuoted false rest

namespace Token

/-- What can remain after a spelling of the token. -/
def remainders : Token → List Char → List (List Char)
  | .word chars, s => (after? chars s).toList
  | .name chars, s => (after? (Identifier.quotedChars chars) s).toList ++ (after? chars s).toList
  | .anyIdentifier, s =>
    let quoted := match s with
      | '"' :: body => afterQuoted true body
      | _ => []
    quoted ++ afterSome isWordChar s
  | .unequal, s => (after? ['!', '='] s).toList ++ (after? ['<', '>'] s).toList
  | .mark c, s => (after? [c] s).toList

def isWordLike : Token → Bool
  | .word _ => true
  | .name _ => true
  | .anyIdentifier => true
  | _ => false

end Token

/-- Pairs of words that may be written as one. -/
def fusedWords : List (String × String) := [("NOT", "NULL"), ("IS", "NULL")]

def isFused : Token → Token → Bool
  | .word a, .word b => fusedWords.contains (upper (String.ofList a), upper (String.ofList b))
  | _, _ => false

/-- Whether the gap between two tokens has to hold a blank. -/
def needsBlank (a b : Token) : Bool := a.isWordLike && b.isWordLike && !isFused a b

/-- What can remain after the gap between two tokens. -/
def afterGap (a b : Token) (s : List Char) : List (List Char) :=
  if needsBlank a b then afterSome isBlank s else afterAny isBlank s

/-- Blanks and one semicolon may follow the last token. -/
def isEnd (s : List Char) : Bool :=
  match s.dropWhile isBlank with
  | [] => true
  | [c] => c == ';'
  | _ => false

/-- Whether a text continues a token to the end of a template. -/
def acceptsAfter : Token → List Token → List Char → Bool
  | _, [], s => isEnd s
  | previous, t :: rest, s =>
    (afterGap previous t s).any fun s => (t.remainders s).any (acceptsAfter t rest)

/-- Whether the whole of a text spells the tokens in turn. -/
def accepts : List Token → List Char → Bool
  | [], s => isEnd s
  | t :: rest, s => (t.remainders s).any (acceptsAfter t rest)

end Template
end GeoConformance
