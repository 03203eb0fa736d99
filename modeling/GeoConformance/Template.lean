import GeoConformance.Template.Token

/-!
# Templates

A template fits a text when its placeholders are bound to names and the text spells the resulting
tokens from beginning to end. The placeholders are the table, the column, the index of the two, the
trigger that is being matched, and any identifier at all.
-/

namespace GeoConformance
namespace Template

/-- The name of the index on a column. -/
def indexName (table column : String) : String := s!"rtree_{table}_{column}"

/-- What the placeholders of a template stand for. -/
structure Binding where
  table : String
  column : String
  trigger : Option String
deriving DecidableEq

namespace Binding

def token? (b : Binding) (placeholder : String) : Option Token :=
  match placeholder with
  | "t" => some (.name b.table.toList)
  | "c" => some (.name b.column.toList)
  | "rtree" => some (.name (indexName b.table b.column).toList)
  | "trigger" => b.trigger.map fun name => .name name.toList
  | "i" => some .anyIdentifier
  | _ => none

def resolve (b : Binding) : Lexeme → Except Misuse Token
  | .word chars => .ok (.word chars)
  | .unequal => .ok .unequal
  | .mark c => .ok (.mark c)
  | .placeholder chars =>
    let name := String.ofList chars
    match b.token? name with
    | some t => .ok t
    | none => .error (.unknownPlaceholder name)

end Binding

/-- The tokens of a template, or the first of its placeholders that is not bound. -/
def tokens (text : String) (b : Binding) : Except Misuse (List Token) :=
  (lexemes text).mapM b.resolve

/-- Whether the whole of a text fits a template; nothing fits one with an unbound placeholder. -/
def fits (text : String) (b : Binding) (sql : String) : Bool :=
  match tokens text b with
  | .ok ts => accepts ts sql.toList
  | .error _ => false

end Template
end GeoConformance
