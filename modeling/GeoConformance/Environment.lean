import GeoConformance.Number.Numeral

/-!
# Settings in the environment

Variables have texts as values. The time limit falls back on its default whenever the text of its
variable is no number.
-/

namespace GeoConformance

abbrev Environment := List (String × String)

namespace Environment

def pathName : String := "GPKGCHECK_PATH"
def timeoutName : String := "GPKGCHECK_QUERY_TIMEOUT"
def portName : String := "GPKGCHECK_PORT"
def workersName : String := "GPKGCHECK_WORKERS"
def logLevelName : String := "GPKGCHECK_LOG_LEVEL"

def get? (env : Environment) (name : String) : Option String := env.lookup name

def getD (env : Environment) (name absent : String) : String := (env.get? name).getD absent

def set (env : Environment) (name text : String) : Environment :=
  env.filter (·.1 != name) ++ [(name, text)]

/-- Sets a variable if there is something to set it to. -/
def setSome (env : Environment) (name : String) (text : Option String) : Environment :=
  text.elim env (env.set name)

/-- Half a minute. -/
def defaultTimeout : Real64 := .finite false 30

/-- The time limit of each query in seconds. -/
def queryTimeout (env : Environment) : Real64 :=
  (Numeral.readReal? (Text.trim (env.getD timeoutName ""))).getD defaultTimeout

theorem get?_set_self (env : Environment) (name text : String) :
    (env.set name text).get? name = some text := by
  simp only [get?, set]
  induction env with
  | nil => simp
  | cons entry rest ih =>
    obtain ⟨key, value⟩ := entry
    by_cases h : key = name
    · simpa [h] using ih
    · have h' : (name == key) = false := beq_false_of_ne (Ne.symm h)
      simpa [h, List.lookup_cons, h'] using ih

theorem get?_set_of_ne {other name : String} (h : other ≠ name) (env : Environment)
    (text : String) : (env.set name text).get? other = env.get? other := by
  have h' : (other == name) = false := beq_false_of_ne h
  simp only [get?, set]
  induction env with
  | nil => simp [List.lookup_cons, h']
  | cons entry rest ih =>
    obtain ⟨key, value⟩ := entry
    by_cases removed : key = name
    · simpa [removed, List.lookup_cons, h'] using ih
    · simp [removed, List.lookup_cons, ih]

theorem get?_setSome (env : Environment) (name : String) (text : Option String) :
    (env.setSome name text).get? name = text.or (env.get? name) := by
  cases text with
  | none => rfl
  | some text => exact get?_set_self env name text

theorem get?_setSome_of_ne {other name : String} (h : other ≠ name) (env : Environment)
    (text : Option String) : (env.setSome name text).get? other = env.get? other := by
  cases text with
  | none => rfl
  | some text => exact get?_set_of_ne h env text

end Environment
end GeoConformance
