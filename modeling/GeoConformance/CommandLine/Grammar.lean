import GeoConformance.Number.Numeral

/-!
# Command lines

A command takes switches and at most one operand, which is then required. A switch is written by one
of its names; a long name may be cut short as long as only one name begins so. A value follows its
switch or is attached to it by an equals sign, and short switches without values can share a hyphen,
the first with an equals sign behind it or not. Behind a double hyphen everything is an operand; a
switch to which a double hyphen is attached is left blank.
-/

namespace GeoConformance
namespace CommandLine

inductive Role
  | help
  | flag
  | value (accepts : String → Bool)

structure Switch where
  names : List String
  role : Role

/-- The switches listed as required go by their first names. -/
structure Grammar where
  switches : List Switch
  takesOperand : Bool
  required : List String

/-- Why a command shows its usage instead of running. -/
inductive Usage
  | asked
  | misused
deriving DecidableEq

namespace Usage

def exitStatus : Usage → Nat
  | .asked => 0
  | .misused => 2

end Usage

inductive Attachment
  | none
  | byEquals (value : List Char)
  | joined (chars : List Char)

inductive Word
  | operand (s : String)
  | separator
  | switch (s : Switch) (attached : Attachment)
  | unknown

namespace Switch

def title (s : Switch) : String := s.names.headD ""

end Switch

/-- Whether a text is a hyphen and a plain decimal numeral, perhaps with a line end behind it. -/
def isNegativeNumeral (s : List Char) : Bool :=
  let isDecimal (c : Char) : Bool := (Text.digitValue? c).isSome
  match s with
  | '-' :: rest =>
    let body := if rest.getLast? = some '\n' then rest.dropLast else rest
    match body.dropWhile isDecimal with
    | [] => !body.isEmpty
    | '.' :: fraction => !fraction.isEmpty && fraction.all isDecimal
    | _ => false
  | _ => false

namespace Grammar

def named? (g : Grammar) (name : List Char) : Option Switch :=
  g.switches.find? (·.names.contains (String.ofList name))

/-- Every switch once for each of its names that begins so. -/
def beginning (g : Grammar) (start : List Char) : List Switch :=
  g.switches.flatMap fun s =>
    (s.names.filter fun name => start.isPrefixOf name.toList).map fun _ => s

/-- A word that begins like a switch without naming one. -/
def unnamed (s : String) : Word :=
  if isNegativeNumeral s.toList || s.toList.contains ' ' then .operand s else .unknown

/-- A word behind two hyphens: its part before an equals sign may be cut short. -/
def longWord (g : Grammar) (s : String) : Except Usage Word :=
  let start := s.toList.takeWhile (· != '=')
  let attached := match s.toList.dropWhile (· != '=') with
    | _ :: value => Attachment.byEquals value
    | [] => .none
  match g.beginning start with
  | [] => .ok (unnamed s)
  | [switch] => .ok (.switch switch attached)
  | _ => .error .misused

/-- What a word before any separator is. -/
def word (g : Grammar) (s : String) : Except Usage Word :=
  match s.toList with
  | '-' :: c :: rest =>
    match g.named? s.toList with
    | some switch => .ok (.switch switch .none)
    | none =>
      let value := s.toList.dropWhile (· != '=')
      match g.named? (s.toList.takeWhile (· != '=')), value with
      | some switch, _ :: value =>
        .ok (.switch switch (if c = '-' || value.isEmpty then .byEquals value else .joined value))
      | _, _ =>
        if c = '-' then g.longWord s
        else match g.named? ['-', c] with
          | some switch => .ok (.switch switch (.joined rest))
          | none => .ok (unnamed s)
  | _ => .ok (.operand s)

def words (g : Grammar) : List String → Except Usage (List Word)
  | [] => .ok []
  | s :: rest =>
    if s = "--" then .ok (.separator :: rest.map .operand)
    else do return (← g.word s) :: (← g.words rest)

end Grammar

/-- A switch with its value; a flag has none, and neither has a switch that is left blank. -/
abbrev Use := Switch × Option String

/-- What one word with switches comes to: their uses, and the one that waits for the next word. -/
structure Expansion where
  uses : List Use
  waiting : Option Switch

namespace Expansion

def after (s : Switch) (e : Expansion) : Expansion := { e with uses := (s, none) :: e.uses }

def alone (s : Switch) : Expansion :=
  match s.role with
  | .value _ => ⟨[], some s⟩
  | _ => ⟨[(s, none)], none⟩

/-- An attached value, unless it is the separator. -/
def attached? (value : List Char) : Option String :=
  if value = ['-', '-'] then none else some (String.ofList value)

def byEquals (s : Switch) (value : List Char) : Except Usage Expansion :=
  match s.role with
  | .value _ => .ok ⟨[(s, attached? value)], none⟩
  | _ => .error .misused

def joined (g : Grammar) : Switch → List Char → Except Usage Expansion
  | s, [] => .ok (alone s)
  | s, c :: rest =>
    match s.role with
    | .value _ => .ok ⟨[(s, attached? (c :: rest))], none⟩
    | _ =>
      match g.named? ['-', c] with
      | none => .error .misused
      | some next => (joined g next rest).map (after s)

def ofAttachment (g : Grammar) (s : Switch) : Attachment → Except Usage Expansion
  | .none => .ok (alone s)
  | .byEquals value => byEquals s value
  | .joined chars => joined g s chars

end Expansion

/-- The switches that were given, each by its first name and with its value, and the operand. -/
structure Parsed where
  operand : Option String
  given : List (String × Option String)
deriving DecidableEq

namespace Parsed

def values (p : Parsed) (title : String) : List (Option String) :=
  (p.given.filter (·.1 == title)).map Prod.snd

def last? (p : Parsed) (title : String) : Option (Option String) := (p.values title).getLast?

/-- The last value under a name, unless the last switch of that name is blank. -/
def lastText? (p : Parsed) (title : String) : Option String := (p.last? title).join

def has (p : Parsed) (title : String) : Bool := !(p.values title).isEmpty

end Parsed

/-- The progress through the words of a command. A separator belongs to the operand directly before
or behind it. -/
structure Progress where
  parsed : Parsed
  hasSurplus : Bool
  mayClose : Bool

namespace Progress

def surplus (p : Progress) : Progress := { p with hasSurplus := true, mayClose := false }

def wantsOperand (g : Grammar) (p : Progress) : Bool := g.takesOperand && p.parsed.operand.isNone

def operand (g : Grammar) (p : Progress) (s : String) : Progress :=
  if p.wantsOperand g then
    { p with parsed := { p.parsed with operand := some s }, mayClose := true }
  else p.surplus

def separator (g : Grammar) (p : Progress) (next : Option Word) : Progress :=
  let opens := match next with
    | some (.operand _) => p.wantsOperand g
    | _ => false
  if opens || p.mayClose then { p with mayClose := false } else p.surplus

def use (p : Progress) : List Use → Except Usage Progress
  | [] => .ok p
  | (s, value) :: rest =>
    let parsed := { p.parsed with given := p.parsed.given ++ [(s.title, value)] }
    match s.role with
    | .help => .error .asked
    | .flag => use { p with parsed, mayClose := false } rest
    | .value accepts =>
      if value.all accepts then use { p with parsed, mayClose := false } rest else .error .misused

def run (g : Grammar) : Progress → List Word → Except Usage Progress
  | p, [] => .ok p
  | p, .operand s :: rest => run g (p.operand g s) rest
  | p, .separator :: rest => run g (p.separator g rest.head?) rest
  | p, .unknown :: rest => run g p.surplus rest
  | p, .switch s attached :: rest => do
    let e ← Expansion.ofAttachment g s attached
    match e.waiting, rest with
    | none, rest => run g (← p.use e.uses) rest
    | some s, .operand value :: rest => run g (← p.use (e.uses ++ [(s, some value)])) rest
    | some _, _ => .error .misused

end Progress

namespace Grammar

/-- Reads the arguments of a command in order; help is shown as soon as it is asked for, and words
left over are refused at the end. -/
def parse (g : Grammar) (arguments : List String) : Except Usage Parsed := do
  let p ← Progress.run g ⟨⟨none, []⟩, false, false⟩ (← g.words arguments)
  if p.hasSurplus || p.wantsOperand g || !g.required.all p.parsed.has then .error .misused
  else .ok p.parsed

end Grammar

def helpSwitch : Switch := ⟨["-h", "--help"], .help⟩

def textSwitch (name : String) : Switch := ⟨[name], .value fun _ => true⟩

def realSwitch (name : String) : Switch := ⟨[name], .value fun s => (Numeral.readReal? s).isSome⟩

def intSwitch (name : String) : Switch := ⟨[name], .value fun s => (Numeral.readInt? s).isSome⟩

end CommandLine
end GeoConformance
