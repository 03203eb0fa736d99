import GeoConformance.Proofs.CommandLine.Settings
import GeoConformance.Service

/-!
# The command and the service

The command and the service validate one package in the same way and differ in what they make of
the result. A report becomes the answer of the service and the status 0 or 1 of the command, a
refusal of the service is the status 2, and a failure that the one does not handle the other does
not handle either.
-/

namespace GeoConformance

theorem Report.sum_counts (r : Report) :
    r.count .pass + r.count .skip + r.count .fail + r.count .error = r.outcomes.length := by
  unfold Report.count Report.withStatus
  induction r.outcomes with
  | nil => rfl
  | cons o rest ih =>
    cases status : o.status <;> simp [status] <;> omega

/-- A number of seconds that is not negative, and a text that reads as it and is taken for a
value. -/
structure TimeLimit where
  text : String
  seconds : Real64
  reads : Numeral.readReal? text = some seconds
  notNegative : (Number.real seconds).isNegative = false
  isValue : (∀ rest, text.toList ≠ '-' :: rest) ∨
    CommandLine.isNegativeNumeral text.toList = true

namespace CommandLine

theorem grammar_hasNoNumerals : HasNoNumerals grammar := by
  unfold HasNoNumerals
  decide

def suiteSetting (suite : Suite) : Setting :=
  ⟨suiteTitle, ⟨[suiteTitle], .value (Suite.all.map Suite.name).contains⟩, suite.name⟩

def timeoutSetting (t : TimeLimit) : Setting := ⟨timeoutTitle, realSwitch timeoutTitle, t.text⟩

def settingsOf (suite : Option Suite) (limit : Option TimeLimit) : List Setting :=
  suite.toList.map suiteSetting ++ limit.toList.map timeoutSetting

/-- The arguments that ask for a report on a package, perhaps for one suite or with a time limit. -/
def arguments (path : String) (suite : Option Suite) (limit : Option TimeLimit) : List String :=
  path :: (settingsOf suite limit).flatMap Setting.words

theorem suiteSetting_isAccepted (suite : Suite) : (suiteSetting suite).IsAccepted grammar where
  notSeparator := (by decide : suiteTitle ≠ "--")
  name := word_of_name (by decide : suiteTitle.toList = '-' :: '-' :: "suite".toList)
    (by simp [grammar, helpSwitch, suiteSetting, suiteTitle])
  role := ⟨_, rfl, by cases suite <;> rfl⟩
  value := by
    refine isValue_of_no_hyphen fun rest => ?_
    cases suite <;> exact fun h => by cases h

theorem timeoutSetting_isAccepted (t : TimeLimit) : (timeoutSetting t).IsAccepted grammar where
  notSeparator := (by decide : timeoutTitle ≠ "--")
  name := word_of_name (by decide : timeoutTitle.toList = '-' :: '-' :: "timeout".toList)
    (by simp [grammar, helpSwitch, realSwitch, timeoutSetting, suiteTitle, timeoutTitle])
  role := ⟨_, rfl, by rw [timeoutSetting, t.reads]; rfl⟩
  value := t.isValue.elim isValue_of_no_hyphen (isValue_of_negativeNumeral grammar_hasNoNumerals)

theorem run_arguments (fs : FileSystem) (env : Environment) {path : String}
    (isOperand : ∀ rest, path.toList ≠ '-' :: rest) (suite : Option Suite)
    (limit : Option TimeLimit) :
    run fs env (arguments path suite limit) = .ok (perform fs env
      ⟨path, some (suite.map Suite.name).toList, limit.map fun t => .real t.seconds, false⟩) := by
  have accepted : ∀ s ∈ settingsOf suite limit, s.IsAccepted grammar := by
    exact List.forall_mem_append.2 ⟨List.forall_mem_map.2 fun s _ => suiteSetting_isAccepted s,
      List.forall_mem_map.2 fun t _ => timeoutSetting_isAccepted t⟩
  have parsed := parse_settings (g := grammar) rfl rfl (isValue_of_no_hyphen isOperand) accepted
  have request : Request.ofParsed ⟨some path,
      (settingsOf suite limit).map fun s => (s.switch.title, some s.value)⟩ =
      ⟨path, some (suite.map Suite.name).toList, limit.map fun t => .real t.seconds, false⟩ := by
    cases suite <;> cases limit <;>
      simp [Request.ofParsed, Parsed.values, Parsed.last?, Parsed.has, settingsOf, suiteSetting,
        timeoutSetting, Switch.title, realSwitch, suiteTitle, timeoutTitle, verboseTitle,
        TimeLimit.reads]
  rw [run, arguments, parsed, ← request]
  rfl

end CommandLine

namespace Service

/-- The answer of the service to a request, and how the command ends with the same request. -/
inductive Accord : Except Failure (Except Refusal Report) →
    Except CommandLine.Usage (Except Failure CommandLine.Ending) → Prop
  | report (r : Report) : Accord (.ok (.ok r)) (.ok (.ok (CommandLine.ofReport false r)))
  | refused {refusal : Refusal} {e : CommandLine.Ending} : refusal.status ∈ [404, 400, 500] →
    e.status = 2 → Accord (.ok (.error refusal)) (.ok (.ok e))
  | unhandled (f : Failure) : Accord (.error f) (.ok (.error f))

namespace Accord

variable {answer : Except Failure (Except Refusal Report)}
  {command : Except CommandLine.Usage (Except Failure CommandLine.Ending)}

/-- The status 0 stands for a report that is in order and the status 1 for another one. -/
theorem reported_iff (h : Accord answer command) (isOk : Bool) :
    (∃ r, answer = .ok (.ok r) ∧ r.isOk = isOk) ↔
      ∃ e, command = .ok (.ok e) ∧ e.status = if isOk then 0 else 1 := by
  cases h with
  | report r =>
    constructor
    · rintro ⟨r', same, rfl⟩
      cases same
      exact ⟨_, rfl, rfl⟩
    · rintro ⟨e, same, status⟩
      cases same
      refine ⟨r, rfl, ?_⟩
      change (if r.isOk then 0 else 1) = _ at status
      revert status
      cases r.isOk <;> cases isOk <;> simp
  | refused _ failed =>
    constructor
    · rintro ⟨r', same, -⟩
      cases same
    · rintro ⟨e, same, status⟩
      cases same
      rw [failed] at status
      cases isOk <;> cases status
  | unhandled f =>
    constructor
    · rintro ⟨r', same, -⟩
      cases same
    · rintro ⟨e, same, -⟩
      cases same

theorem refused_iff (h : Accord answer command) :
    (∃ refusal, answer = .ok (.error refusal) ∧ refusal.status ∈ [404, 400, 500]) ↔
      ∃ e, command = .ok (.ok e) ∧ e.status = 2 := by
  cases h with
  | report r =>
    constructor
    · rintro ⟨refusal, same, -⟩
      cases same
    · rintro ⟨e, same, status⟩
      cases same
      change (if r.isOk then 0 else 1) = 2 at status
      split at status <;> cases status
  | refused status failed => exact ⟨fun _ => ⟨_, rfl, failed⟩, fun _ => ⟨_, rfl, status⟩⟩
  | unhandled f =>
    constructor
    · rintro ⟨refusal, same, -⟩
      cases same
    · rintro ⟨e, same, -⟩
      cases same

theorem unhandled_iff (h : Accord answer command) (f : Failure) :
    answer = .error f ↔ command = .ok (.error f) := by
  cases h with
  | report r => simp
  | refused status failed => simp
  | unhandled g => simp

/-- The command prints the outcomes that speak against the package, and a summary. -/
theorem output_eq (h : Accord answer command) {r : Report} (given : answer = .ok (.ok r)) :
    ∃ e, command = .ok (.ok e) ∧ e.output = String.join ((r.outcomes.filter fun o =>
      o.status = .fail ∨ o.status = .error).map CommandLine.outcomeLine) ++
        CommandLine.summary r := by
  cases h with
  | report r' =>
    cases given
    have printed : CommandLine.printed false r = r.outcomes.filter fun o =>
        o.status = .fail ∨ o.status = .error := by
      simp [CommandLine.printed, Outcome.isAdverse, Bool.decide_or, Bool.beq_eq_decide_eq]
    exact ⟨_, rfl, by rw [CommandLine.ofReport, printed]⟩
  | refused _ _ => cases given
  | unhandled f => cases given

end Accord

variable (fs : FileSystem) (env : Environment) {path : String} (suite : Option Suite)
  (limit : Option TimeLimit)

theorem objection_eq_none {content : Content} (found : fs.file? path = some content) :
    objection? fs path (suite.map Suite.name) (limit.map fun t => .real t.seconds) = none := by
  have inTime : (limit.map fun t => Number.real t.seconds).any (·.isNegative) = false := by
    cases limit with
    | none => rfl
    | some t => exact t.notNegative
  rw [objection?, found, inTime]
  cases suite with
  | none => rfl
  | some suite => simp [Suite.ofName_name]

/-- What the service makes of the result of a validation. -/
def answerOf (result : Except Failure Report) : Except Failure (Except Refusal Report) :=
  match result with
  | .ok r => .ok (.ok r)
  | .error f =>
    match refusal? f with
    | some refusal => .ok (.error refusal)
    | none => .error f

/-- Where the package is a file, nothing but its validation decides the answer. -/
theorem report_of_file {content : Content} (nonempty : path ≠ "")
    (found : fs.file? path = some content) :
    report fs env (some path) (suite.map Suite.name) (limit.map fun t => .real t.seconds) =
      answerOf (Package.validate fs env path (suite.map Suite.name).toList
        (limit.map fun t => .real t.seconds)) := by
  have isConfigured : configured (some path) = some path := by
    simp [configured, nonempty]
  simp only [report, isConfigured, objection_eq_none fs suite limit found]
  rfl

theorem report_of_no_file (nonempty : path ≠ "") (missing : fs.file? path = none) :
    report fs env (some path) (suite.map Suite.name) (limit.map fun t => .real t.seconds) =
      .ok (.error ⟨404, (PackageFault.notFound path).message⟩) := by
  have isConfigured : configured (some path) = some path := by
    simp [configured, nonempty]
  simp [report, isConfigured, objection?, missing]

theorem accord_of_arguments (nonempty : path ≠ "")
    (isOperand : ∀ rest, path.toList ≠ '-' :: rest) :
    Accord (report fs env (some path) (suite.map Suite.name) (limit.map fun t => .real t.seconds))
      (CommandLine.run fs env (CommandLine.arguments path suite limit)) := by
  rw [CommandLine.run_arguments fs env isOperand, CommandLine.perform]
  simp only [CommandLine.report]
  cases found : fs.file? path with
  | none =>
    have missing : Package.validate fs env path (suite.map Suite.name).toList
        (limit.map fun t => .real t.seconds) = .error (.package (.notFound path)) := by
      simp [Package.validate, Package.located, found]
    rw [missing, report_of_no_file fs env suite limit nonempty found]
    exact .refused (by simp) rfl
  | some content =>
    rw [report_of_file fs env suite limit nonempty found]
    cases Package.validate fs env path (suite.map Suite.name).toList
        (limit.map fun t => .real t.seconds) with
    | ok r => exact .report r
    | error f =>
      cases f with
      | package fault => exact .refused (by simp) rfl
      | infrastructure message sql fatal => exact .refused (by simp) rfl
      | general message => exact .unhandled _
      | inapplicable conformanceClass => exact .unhandled _
      | violation v => exact .unhandled _
      | engine e => exact .unhandled _
      | misuse m => exact .unhandled _

/-- A request for a report on the package at a path, perhaps for one suite or with a time limit, has
one result from the service and from the command: a report that is in order and the status 0,
another report and the status 1, a refusal and the status 2, or the same failure. The command prints
what in the report speaks against the package, and the counts of a report are those of its
outcomes. -/
theorem report_iff_run (nonempty : path ≠ "") (isOperand : ∀ rest, path.toList ≠ '-' :: rest) :
    let answer := report fs env (some path) (suite.map Suite.name)
      (limit.map fun t => .real t.seconds)
    let command := CommandLine.run fs env (CommandLine.arguments path suite limit)
    ((∃ r, answer = .ok (.ok r) ∧ r.isOk = true) ↔ ∃ e, command = .ok (.ok e) ∧ e.status = 0) ∧
    ((∃ r, answer = .ok (.ok r) ∧ r.isOk = false) ↔ ∃ e, command = .ok (.ok e) ∧ e.status = 1) ∧
    ((∃ refusal, answer = .ok (.error refusal) ∧ refusal.status ∈ [404, 400, 500]) ↔
      ∃ e, command = .ok (.ok e) ∧ e.status = 2) ∧
    (∀ f, answer = .error f ↔ command = .ok (.error f)) ∧
    ∀ r, answer = .ok (.ok r) →
      (∃ e, command = .ok (.ok e) ∧ e.output = String.join ((r.outcomes.filter fun o =>
        o.status = .fail ∨ o.status = .error).map CommandLine.outcomeLine) ++
          CommandLine.summary r) ∧
      (r.isOk = true ↔ r.count .fail = 0 ∧ r.count .error = 0) ∧
      r.count .pass + r.count .skip + r.count .fail + r.count .error = r.outcomes.length := by
  intro answer command
  have accord : Accord answer command := accord_of_arguments fs env suite limit nonempty isOperand
  exact ⟨accord.reported_iff true, accord.reported_iff false, accord.refused_iff,
    accord.unhandled_iff, fun r given => ⟨accord.output_eq given, by simp [Report.isOk],
      r.sum_counts⟩⟩

section Samples

def halfSecond : TimeLimit where
  text := "0.5"
  seconds := .finite false (1 / 2)
  reads := by decide +kernel
  notNegative := by decide +kernel
  isValue := .inl fun rest h => by cases h

/-- One file with an empty database. -/
def emptyPackage : FileSystem where
  current := "/"
  file? path := if path = "empty.gpkg" then some (.database []) else none
  readFault := none
  openFault := none

/-- A package without extensions is in order for both front ends. -/
theorem emptyPackage_in_order :
    "empty.gpkg" ≠ "" ∧ (∀ rest, "empty.gpkg".toList ≠ '-' :: rest) ∧
      ∃ e, CommandLine.run emptyPackage []
        ["empty.gpkg", "--suite", "rtree_index", "--timeout", "0.5"] = .ok (.ok e) ∧
        e.status = 0 := by
  have nonempty : "empty.gpkg" ≠ "" := by decide
  have isOperand : ∀ rest, "empty.gpkg".toList ≠ '-' :: rest := fun rest h => by cases h
  have agreed := report_iff_run emptyPackage [] (some .spatialIndex) (some halfSecond) nonempty
    isOperand
  have answered := report_of_file emptyPackage [] (some .spatialIndex) (some halfSecond) nonempty
    rfl
  exact ⟨nonempty, isOperand, agreed.1.1 ⟨⟨some (Path.fileName "empty.gpkg"),
    SpatialIndex.Rule.all.map fun rule => ⟨rule, .null,
      .skip "Conformance class RTree Spatial Index Extension is not in use."⟩⟩, answered, rfl⟩⟩

end Samples

end Service
end GeoConformance
