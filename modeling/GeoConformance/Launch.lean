import GeoConformance.CommandLine
import GeoConformance.Service
import GeoConformance.Text.UpperCase
import GeoConformance.Value.Integer

/-!
# Launching the service

The service is started on the local machine for one package, or for production with settings that
the environment gives and switches override. Either way the settings are left in the environment for
the processes that answer the requests.
-/

namespace GeoConformance
namespace Launch

open CommandLine

/-- What a web server is told. Without workers it runs the service itself; otherwise every worker
makes its own. -/
structure Server where
  host : String
  port : Option Int
  logLevel : String
  workers : Option Int
deriving DecidableEq

/-- A launch that has come to an end: the server it started, the status if it exits, what it prints,
and the environment that it leaves. -/
structure Launched where
  server : Option Server
  status : Option Nat
  output : String
  errors : String
  environment : Environment

def packageTitle : String := "--package"
def portTitle : String := "--port"
def workersTitle : String := "--workers"
def logLevelTitle : String := "--log-level"

def rule : String := "".pushn '=' 60 ++ "\n"

/-- A title and some lines between rules, and an empty line. -/
def banner (title : String) (lines : List String) : String :=
  rule ++ title ++ "\n" ++ rule ++ String.join (lines.map (· ++ "\n")) ++ rule ++ "\n"

/-- What a number is written as that is left blank. -/
def blankText : String := "[]"

/-- The text of a time limit. -/
def timeoutText? (p : Parsed) : Option String :=
  (p.last? timeoutTitle).map fun text =>
    ((text.bind Numeral.readReal?).map Real64.text).getD blankText

/-! ## On the local machine -/

def localGrammar : Grammar where
  switches := [helpSwitch, textSwitch packageTitle, realSwitch timeoutTitle, intSwitch portTitle]
  takesOperand := false
  required := [packageTitle]

def localServer (port : Option Int) : Server := ⟨"127.0.0.1", port, "info", none⟩

/-- The port asked for; a blank one is none. -/
def localPort (p : Parsed) : Option Int :=
  match p.last? portTitle with
  | none => some 8080
  | some text => text.bind Numeral.readInt?

/-- `serverFault` is what keeps the server from starting, if anything does. -/
def startLocal (fs : FileSystem) (env : Environment) (package : String) (p : Parsed)
    (serverFault : Option String) : Launched :=
  let port := localPort p
  let portText := (port.map toString).getD blankText
  if (fs.file? package).isNone then
    ⟨none, some 1, "", s!"Error: package not found: {package}\n", env⟩
  else
    let output := banner "GeoPackage Conformance Report Server"
      [s!"Package: {package}", s!"Server running at: http://localhost:{portText}/api/report",
       "Press Ctrl+C to stop the server"]
    let env := (env.set Environment.pathName package).setSome Environment.timeoutName
      (timeoutText? p)
    match serverFault with
    | none => ⟨some (localServer port), none, output, "", env⟩
    | some reason =>
      let errors := s!"Error: Could not start server: {reason}\n" ++
        s!"Port {portText} might already be in use.\n"
      ⟨some (localServer port), some 1, output, errors, env⟩

def runLocal (fs : FileSystem) (env : Environment) (arguments : List String)
    (serverFault : Option String) : Except Usage (Except Failure Launched) := do
  let p ← localGrammar.parse arguments
  match p.lastText? packageTitle with
  | none => return .error (.misuse .blankPath)
  | some path => return .ok (startLocal fs env (Path.absolute fs.current path) p serverFault)

/-! ## For production -/

def productionGrammar : Grammar where
  switches := [helpSwitch, textSwitch packageTitle, intSwitch portTitle, intSwitch workersTitle,
    realSwitch timeoutTitle, textSwitch logLevelTitle]
  takesOperand := false
  required := []

/-- The environment holds no text with a NUL in it. -/
def canOverride (p : Parsed) : Bool :=
  [packageTitle, logLevelTitle].all fun title =>
    (p.lastText? title).all fun text => !text.toList.contains '\x00'

/-- The environment after the switches have overridden it. Empty texts, zeros and what is left blank
do not; a time limit always does. -/
def overridden (current : String) (env : Environment) (p : Parsed) : Environment :=
  let count (title : String) : Option String :=
    (((p.lastText? title).bind Numeral.readInt?).filter (· != 0)).map toString
  let text (title : String) : Option String := (p.lastText? title).filter (!·.isEmpty)
  env.setSome Environment.pathName ((text packageTitle).map (Path.absolute current))
    |>.setSome Environment.portName (count portTitle)
    |>.setSome Environment.workersName (count workersTitle)
    |>.setSome Environment.timeoutName (timeoutText? p)
    |>.setSome Environment.logLevelName (text logLevelTitle)

def countSetting (env : Environment) (name absent : String) : Except Misuse Int :=
  (Value.text (env.getD name absent)).toInt

def portSetting (env : Environment) : String := env.getD Environment.portName "8000"

def workersSetting (env : Environment) : Except Misuse Int :=
  countSetting env Environment.workersName "2"

def logLevelSetting (env : Environment) : String := env.getD Environment.logLevelName "info"

def packageSetting (env : Environment) : Option String :=
  Service.configured (env.get? Environment.pathName)

/-- What an overridden environment starts. -/
def startProduction (env : Environment) (serverFault : Option String) : Except Failure Launched := do
  let port ← (countSetting env Environment.portName "8000").mapError Failure.misuse
  let workers ← (workersSetting env).mapError Failure.misuse
  match packageSetting env with
  | none =>
    let errors := s!"Error: {Environment.pathName} environment variable" ++
      " or --package argument required\n"
    return ⟨none, some 1, "", errors, env⟩
  | some package =>
    match serverFault with
    | some reason => throw (.engine ⟨.system, reason⟩)
    | none =>
      let output := banner "GeoPackage Conformance Report Service (Production)"
        [s!"Package: {package}", s!"Bind:    0.0.0.0:{port}", s!"Workers: {workers}"]
      return ⟨some ⟨"0.0.0.0", some port, logLevelSetting env, some workers⟩, none, output, "", env⟩

def runProduction (current : String) (env : Environment) (arguments : List String)
    (serverFault : Option String) : Except Usage (Except Failure Launched) := do
  let p ← productionGrammar.parse arguments
  if canOverride p then return startProduction (overridden current env p) serverFault
  else return .error (.misuse .settingHoldsNul)

/-! ## Behind another server -/

/-- What a name of a log level stands for: a threshold, or, for one name, the layout of records. -/
inductive LogSetting
  | threshold (severity : Nat)
  | layout
deriving DecidableEq

def logSettings : List (String × LogSetting) :=
  [("NOTSET", .threshold 0), ("DEBUG", .threshold 10), ("INFO", .threshold 20),
   ("WARN", .threshold 30), ("WARNING", .threshold 30), ("ERROR", .threshold 40),
   ("CRITICAL", .threshold 50), ("FATAL", .threshold 50), ("BASIC_FORMAT", .layout)]

def logSetting (name : String) : LogSetting :=
  (logSettings.lookup (Text.upper name)).getD (.threshold 20)

/-- The log setting and the package of a service made from the environment; without a package in it
the service keeps the one it has. -/
def makeService (current : String) (env : Environment) (package : Option String) :
    LogSetting × Option String :=
  (logSetting (logLevelSetting env),
    ((packageSetting env).map (Path.absolute current)).orElse fun _ => package)

/-- The settings of a process manager behind a proxy. -/
structure Deployment where
  workers : Int
  bind : String
  /-- Seconds; a full report runs many queries. -/
  timeout : Nat
  preloads : Bool
  accessLog : String
  logLevel : String
deriving DecidableEq

def deployment (env : Environment) : Except Misuse Deployment := do
  return ⟨← workersSetting env, s!"127.0.0.1:{portSetting env}", 300, false, "-",
    logLevelSetting env⟩

end Launch
end GeoConformance
