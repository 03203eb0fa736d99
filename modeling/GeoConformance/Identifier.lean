import GeoConformance.Failure
import GeoConformance.Text.AsciiCase
import GeoConformance.Text.Substitution

/-!
# Identifiers

A schema object is named by a text that is not empty and holds no NUL. Inside a query the name
stands between double quotes, with each of its own double quotes written twice. In a wildcard
pattern, `%` stands for any text and `_` for any one character unless the escape precedes them.
-/

namespace GeoConformance
namespace Identifier

open Text

def doubled (name : List Char) : List Char :=
  name.flatMap fun c => if c = '"' then ['"', '"'] else [c]

def quotedChars (name : List Char) : List Char := '"' :: doubled name ++ ['"']

def quoted (name : String) : String := String.ofList (quotedChars name.toList)

/-- The name that a stored value gives to a schema object. -/
def ofValue (v : Value) : Except Misuse String :=
  match v with
  | .text name =>
    if name.isEmpty then .error (.invalidIdentifier v)
    else if name.toList.contains '\x00' then .error (.identifierHoldsNul name)
    else .ok name
  | _ => .error (.invalidIdentifier v)

/-- Whether `s` spells `name`, bare or quoted. -/
def spells (name s : String) : Bool := s == name || s == quoted name

/-- The pattern that matches exactly `s`, given the escape that its reader knows. -/
def escapeWildcards (escape s : String) : String :=
  let e := escape.toList
  String.ofList (replaceAll ['_'] (e ++ ['_']) (replaceAll ['%'] (e ++ ['%'])
    (replaceAll e (e ++ e) s.toList)))

/-- The ends of a list, from the whole to the empty one. -/
def ends : List Char → List (List Char)
  | [] => [[]]
  | c :: rest => (c :: rest) :: ends rest

/-- Whether a wildcard pattern with a one-character escape matches the whole of a text, up to the
case of ASCII letters. -/
def matchesPattern (escape : Char) : List Char → List Char → Bool
  | [], s => s.isEmpty
  | p :: pattern, s =>
    if p = escape then
      match pattern, s with
      | literal :: pattern, c :: rest => sameLetter literal c && matchesPattern escape pattern rest
      | _, _ => false
    else if p = '%' then (ends s).any (matchesPattern escape pattern)
    else match s with
      | [] => false
      | c :: rest => (p = '_' || sameLetter p c) && matchesPattern escape pattern rest

theorem mem_ends {s t : List Char} : t ∈ ends s ↔ t <:+ s := by
  induction s with
  | nil => simp [ends]
  | cons c rest ih => simp [ends, ih, List.suffix_cons_iff]

theorem doubled_append (a b : List Char) : doubled (a ++ b) = doubled a ++ doubled b := by
  simp [doubled]

end Identifier
end GeoConformance
