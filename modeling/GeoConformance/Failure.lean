import GeoConformance.Number.Numeral
import GeoConformance.Violation

/-!
# Failures

Everything that can end a check. Violations and inapplicability are verdicts; an infrastructure
failure is a query that gave no answer, and is fatal when the database itself is unusable. The
others are not outcomes of a check at all and pass through it unchanged.
-/

namespace GeoConformance

/-- The classes of error that the database engine or the system can raise beneath a query. -/
inductive EngineErrorKind
  | operational
  | programming
  | integrity
  | internal
  | notSupported
  | data
  | database
  | interface
  | base
  | warning
  | badValue
  | system
deriving DecidableEq

namespace EngineErrorKind

/-- Whether an error of this class says that the database, and not one query, is at fault. -/
def isDatabase : EngineErrorKind → Bool
  | .programming | .integrity | .internal | .notSupported | .data | .database => true
  | _ => false

end EngineErrorKind

structure EngineError where
  kind : EngineErrorKind
  message : String
deriving DecidableEq

/-- Why a package file cannot be opened. -/
inductive PackageFault
  | notFound (path : String)
  | unreadable (path reason : String)
  | notDatabase (path : String)
  | unopenable (path reason : String)
deriving DecidableEq

namespace PackageFault

def message : PackageFault → String
  | .notFound path => s!"Package not found: {path}"
  | .unreadable path reason => s!"Cannot read package: {path}: {reason}"
  | .notDatabase path => s!"Not an SQLite database: {path}"
  | .unopenable path reason => s!"Cannot open package: {path}: {reason}"

end PackageFault

/-- Requests that make no sense. -/
inductive Misuse
  | invalidIdentifier (value : Value)
  | identifierHoldsNul (name : String)
  | unknownSuite (name : String)
  | unknownPlaceholder (name : String)
  | unknownArtifact (name : String)
  | unknownStatus (name : Value)
  | notAnInteger (numeral : Value)
  | tooManyDigits (digits : Nat)
  /-- An integer is asked of what has none. -/
  | notNumeric (kind : String)
  | undefinedInteger
  | infiniteInteger
  | notATypeName (kind : String)
  /-- A suite or a path is asked for by a switch that is left blank. -/
  | blankSuite
  | blankPath
  | settingHoldsNul
  | emptyRow
  | incomparable (left right : String)
deriving DecidableEq

namespace Misuse

/-- Of the literal of what is no numeral at most 200 characters are shown. -/
def message : Misuse → String
  | .invalidIdentifier value => s!"Invalid SQL identifier: {value.literal}"
  | .identifierHoldsNul name => s!"SQL identifier contains NUL: {Text.literal name}"
  | .unknownSuite name => s!"Unknown suite: {name}"
  | .unknownPlaceholder name => name
  | .unknownArtifact name => name
  | .unknownStatus name => s!"{name.literal} is not a valid Status"
  | .notAnInteger numeral =>
    let shown := String.ofList (numeral.literal.toList.take 200)
    s!"invalid literal for int() with base 10: {shown}"
  | .tooManyDigits digits =>
    s!"Exceeds the limit ({Numeral.maxDigits} digits) for integer string conversion: " ++
      s!"value has {digits} digits; use sys.set_int_max_str_digits() to increase the limit"
  | .notNumeric kind =>
    "int() argument must be a string, a bytes-like object or a real number, " ++
      s!"not '{kind}'"
  | .undefinedInteger => "cannot convert float NaN to integer"
  | .infiniteInteger => "cannot convert float infinity to integer"
  | .notATypeName kind => s!"'{kind}' object has no attribute 'strip'"
  | .blankSuite => "unhashable type: 'list'"
  | .blankPath => "expected str, bytes or os.PathLike object, not list"
  | .settingHoldsNul => "embedded null byte"
  | .emptyRow => "list index out of range"
  | .incomparable left right =>
    s!"'<' not supported between instances of '{left}' and '{right}'"

end Misuse

inductive Failure
  | general (message : String)
  | inapplicable (conformanceClass : Value)
  | violation (v : Violation)
  | infrastructure (message : String) (sql : Option String) (fatal : Bool)
  | engine (e : EngineError)
  | package (fault : PackageFault)
  | misuse (m : Misuse)
deriving DecidableEq

namespace Failure

def message : Failure → String
  | .general message => message
  | .inapplicable conformanceClass =>
    s!"Conformance class {conformanceClass.shown} is not in use."
  | .violation v => v.message
  | .infrastructure message _ _ => message
  | .engine e => e.message
  | .package fault => fault.message
  | .misuse m => m.message

end Failure
end GeoConformance
