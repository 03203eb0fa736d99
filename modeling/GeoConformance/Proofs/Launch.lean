import GeoConformance.Launch
import GeoConformance.Proofs.CommandLine.Values
import GeoConformance.Proofs.Numerals

/-!
# Settings of a production launch

A switch of the production launcher overrides the environment, unless it gives a zero or an empty
text: such a switch is passed over, and the environment or the default stays in force. A time limit
overrides even when it is zero. What the server is told can always be read off the environment that
its workers inherit.
-/

namespace GeoConformance
namespace Launch

open CommandLine Environment

/-- A setting is what a switch gives, if that counts, and else what it was before. -/
inductive Overrides {α β : Type} (given : Option α) (counts : α → Prop) (made : α → β)
    (before after : β) : Prop
  | switched (a : α) : given = some a → counts a → after = made a →
      Overrides given counts made before after
  | kept : (∀ a, given = some a → ¬ counts a) → after = before →
      Overrides given counts made before after

namespace Overrides

variable {α β γ : Type} {given : Option α} {counts : α → Prop} {made : α → β} {before after : β}

/-- What was given and counts stands before what was there. -/
theorem of_or {test : α → Bool} (exactly : ∀ a, test a = true ↔ counts a) {made : α → β}
    {before : Option β} :
    Overrides given counts (some ∘ made) before (((given.filter test).map made).or before) := by
  cases given with
  | none => exact .kept (fun _ h => nomatch h) rfl
  | some a =>
    by_cases counted : counts a
    · have tested := (exactly a).2 counted
      exact .switched a rfl counted (by simp [Option.filter, tested])
    · have tested := mt (exactly a).1 counted
      refine .kept (fun b same => ?_) (by simp [Option.filter, tested])
      cases same
      exact counted

theorem unique {after' : β} (h : Overrides given counts made before after)
    (h' : Overrides given counts made before after') : after = after' := by
  cases h with
  | switched a isGiven counted same =>
    cases h' with
    | switched b isGiven' _ same' =>
      cases isGiven.symm.trans isGiven'
      exact same.trans same'.symm
    | kept passed _ => exact absurd counted (passed a isGiven)
  | kept passed same =>
    cases h' with
    | switched b isGiven' counted _ => exact absurd counted (passed b isGiven')
    | kept _ same' => exact same.trans same'.symm

theorem congr {made' : α → β} (h : Overrides given counts made before after)
    (k : ∀ a, given = some a → made a = made' a) : Overrides given counts made' before after := by
  cases h with
  | switched a isGiven counted same => exact .switched a isGiven counted (same.trans (k a isGiven))
  | kept passed same => exact .kept passed same

theorem map (f : β → γ) (h : Overrides given counts made before after) :
    Overrides given counts (f ∘ made) (f before) (f after) := by
  cases h with
  | switched a isGiven counted same => exact .switched a isGiven counted (congrArg f same)
  | kept passed same => exact .kept passed (congrArg f same)

end Overrides

/-- The settings in the environment that a launch leaves. -/
structure Settles (current : String) (env : Environment) (p : Parsed) (env' : Environment) :
    Prop where
  package : Overrides (p.lastText? packageTitle) (· ≠ "") (some ∘ Path.absolute current)
    (env.get? pathName) (env'.get? pathName)
  port : Overrides (p.int? portTitle) (· ≠ 0) (some ∘ toString)
    (env.get? portName) (env'.get? portName)
  workers : Overrides (p.int? workersTitle) (· ≠ 0) (some ∘ toString)
    (env.get? workersName) (env'.get? workersName)
  timeout : p.last? timeoutTitle ≠ some none →
    Overrides (p.real? timeoutTitle) (fun _ => True) (some ∘ Real64.text)
      (env.get? timeoutName) (env'.get? timeoutName)
  blankTimeout : p.last? timeoutTitle = some none → env'.get? timeoutName = some blankText
  logLevel : Overrides (p.lastText? logLevelTitle) (· ≠ "") some
    (env.get? logLevelName) (env'.get? logLevelName)
  others : ∀ name ∉ [pathName, portName, workersName, timeoutName, logLevelName],
    env'.get? name = env.get? name

/-- A count in force is the one a switch gives, unless that is zero. -/
abbrev CountInForce (env : Environment) (p : Parsed) (title name absent : String) (n : Int) :
    Prop :=
  Overrides (p.int? title) (· ≠ 0) .ok (countSetting env name absent) (.ok n)

/-- The package in force is the one a switch gives, unless that is empty. -/
def PackageInForce (current : String) (env : Environment) (p : Parsed) (path : String) : Prop :=
  path ≠ "" ∧ Overrides (p.lastText? packageTitle) (· ≠ "") (some ∘ Path.absolute current)
    (env.get? pathName) (some path)

/-- What a server is told is in force and can be read off the environment that is left. -/
structure Tells (env : Environment) (p : Parsed) (env' : Environment) (server : Server) : Prop where
  host : server.host = "0.0.0.0"
  port : ∃ n, server.port = some n ∧ CountInForce env p portTitle portName "8000" n ∧
    countSetting env' portName "8000" = .ok n
  workers : ∃ n, server.workers = some n ∧ CountInForce env p workersTitle workersName "2" n ∧
    countSetting env' workersName "2" = .ok n
  logLevel : Overrides (p.lastText? logLevelTitle) (· ≠ "") id
    (env.getD logLevelName "info") server.logLevel
  sharedLogLevel : server.logLevel = env'.getD logLevelName "info"

variable {current : String} {env env' : Environment} {arguments : List String} {p : Parsed}

/-! ## What the switches give -/

theorem isSome_port (accepted : p.IsAccepted productionGrammar) :
    (p.int? portTitle).isSome = (p.lastText? portTitle).isSome :=
  Parsed.isSome_int? accepted (by decide) (by simp [productionGrammar])

theorem isSome_workers (accepted : p.IsAccepted productionGrammar) :
    (p.int? workersTitle).isSome = (p.lastText? workersTitle).isSome :=
  Parsed.isSome_int? accepted (by decide) (by simp [productionGrammar])

theorem isSome_timeout (accepted : p.IsAccepted productionGrammar) :
    (p.real? timeoutTitle).isSome = (p.lastText? timeoutTitle).isSome :=
  Parsed.isSome_real? accepted (by decide) (by simp [productionGrammar])

/-! ## The environment that is left -/

theorem overrides_count {title name : String}
    (h : env'.get? name = (((p.int? title).filter (· != 0)).map toString).or (env.get? name)) :
    Overrides (p.int? title) (· ≠ 0) (some ∘ toString) (env.get? name) (env'.get? name) := by
  rw [h]
  exact .of_or fun n => by simp

theorem overrides_timeout (accepted : p.IsAccepted productionGrammar)
    (written : p.last? timeoutTitle ≠ some none) (before : Option String) :
    Overrides (p.real? timeoutTitle) (fun _ => True) (some ∘ Real64.text) before
      ((timeoutText? p).or before) := by
  have read := isSome_timeout accepted
  cases last : p.last? timeoutTitle with
  | none =>
    refine .kept (fun x given => ?_) (by simp [timeoutText?, last])
    simp [Parsed.real?, Parsed.lastText?, last] at given
  | some value =>
    cases value with
    | none => exact absurd last written
    | some text =>
      have there : p.lastText? timeoutTitle = some text := by simp [Parsed.lastText?, last]
      rw [there, Option.isSome_some, Option.isSome_iff_exists] at read
      obtain ⟨x, given⟩ := read
      refine .switched x given trivial ?_
      rw [Parsed.real?, there, Option.bind_some] at given
      simp [timeoutText?, last, given]

theorem settles_overridden (accepted : p.IsAccepted productionGrammar) :
    Settles current env p (overridden current env p) where
  package := by
    simp (disch := decide) only [overridden, get?_setSome, get?_setSome_of_ne]
    exact .of_or fun path => by simp
  port := overrides_count <| by
    simp (disch := decide) only [overridden, get?_setSome, get?_setSome_of_ne]
    rfl
  workers := overrides_count <| by
    simp (disch := decide) only [overridden, get?_setSome, get?_setSome_of_ne]
    rfl
  timeout written := by
    simp (disch := decide) only [overridden, get?_setSome, get?_setSome_of_ne]
    exact overrides_timeout accepted written _
  blankTimeout blank := by
    simp (disch := decide) only [overridden, get?_setSome, get?_setSome_of_ne]
    simp [timeoutText?, blank]
  logLevel := by
    simp (disch := decide) only [overridden, get?_setSome, get?_setSome_of_ne]
    have level := @Overrides.of_or _ _ (p.lastText? logLevelTitle) (· ≠ "") (!·.isEmpty)
      (fun text => by simp) id (env.get? logLevelName)
    rwa [Option.map_id] at level
  others name other := by
    simp only [List.mem_cons, List.not_mem_nil, or_false, not_or] at other
    obtain ⟨path, port, workers, timeout, logLevel⟩ := other
    simp only [overridden, get?_setSome_of_ne, path, port, workers, timeout, logLevel, ne_eq,
      not_false_eq_true]

/-! ## The settings in force -/

/-- The integer that a variable holds, or the one of the text for an absent variable. -/
theorem countSetting_eq (env : Environment) (name absent : String) :
    countSetting env name absent = (Value.text ((env.get? name).getD absent)).toInt := rfl

theorem toInt_toString {n : Int} (bounded : n.natAbs < 10 ^ Numeral.maxDigits) :
    (Value.text (toString n)).toInt = .ok n := by
  rw [Value.toInt, Numeral.integer, Numeral.readInt_toString bounded]

theorem natAbs_lt_of_int {title : String} {n : Int} (given : p.int? title = some n) :
    n.natAbs < 10 ^ Numeral.maxDigits := by
  obtain ⟨text, -, reads⟩ := Option.bind_eq_some_iff.1 given
  cases read : Numeral.readInt text with
  | ok m =>
    rw [Numeral.readInt?, read] at reads
    cases reads
    exact Numeral.natAbs_lt_of_readInt read
  | error fault =>
    rw [Numeral.readInt?, read] at reads
    cases reads

/-- A count that was given is read back from the environment. -/
theorem countInForce_iff {title name absent : String} {n : Int}
    (h : Overrides (p.int? title) (· ≠ 0) (some ∘ toString) (env.get? name) (env'.get? name)) :
    CountInForce env p title name absent n ↔ countSetting env' name absent = .ok n := by
  have read : Overrides (p.int? title) (· ≠ 0) .ok (countSetting env name absent)
      (countSetting env' name absent) := by
    rw [countSetting_eq, countSetting_eq]
    have mapped := h.map fun text : Option String => (Value.text (text.getD absent)).toInt
    refine mapped.congr fun n given => ?_
    simp only [Function.comp_apply, Option.getD_some]
    exact toInt_toString (natAbs_lt_of_int given)
  constructor
  · intro inForce
    exact read.unique inForce
  · intro same
    rwa [same] at read

theorem packageSetting_eq_some {path : String} :
    packageSetting env = some path ↔ path ≠ "" ∧ env.get? pathName = some path := by
  rw [packageSetting, Service.configured, Option.filter_eq_some_iff]
  simp [and_comm]

theorem packageInForce_iff {path : String} (h : Settles current env p env') :
    PackageInForce current env p path ↔ packageSetting env' = some path := by
  rw [packageSetting_eq_some]
  constructor
  · rintro ⟨nonempty, inForce⟩
    exact ⟨nonempty, h.package.unique inForce⟩
  · rintro ⟨nonempty, same⟩
    exact ⟨nonempty, same ▸ h.package⟩

/-! ## The launch -/

/-- A launch that ends by itself leaves the environment as it is, and what its server is told stands
there. -/
theorem of_startProduction {serverFault : Option String} {launched : Launched}
    (h : startProduction env serverFault = .ok launched) :
    launched.environment = env ∧ ∀ server, launched.server = some server →
      ∃ path port workers, packageSetting env = some path ∧
        countSetting env portName "8000" = .ok port ∧
        countSetting env workersName "2" = .ok workers ∧
        server = ⟨"0.0.0.0", some port, env.getD logLevelName "info", some workers⟩ := by
  obtain ⟨port, portRead, h⟩ := bind_eq_ok.1 h
  obtain ⟨workers, workersRead, h⟩ := bind_eq_ok.1 h
  split at h
  · cases h
    exact ⟨rfl, fun server served => nomatch served⟩
  · rename_i path configured
    split at h
    · cases h
    · cases h
      refine ⟨rfl, fun server served => ?_⟩
      cases served
      exact ⟨path, port, workers, configured, mapError_eq_ok.1 portRead,
        mapError_eq_ok.1 workersRead, rfl⟩

theorem startProduction_serves {path : String} {port workers : Int}
    (configured : packageSetting env = some path)
    (portRead : countSetting env portName "8000" = .ok port)
    (workersRead : countSetting env workersName "2" = .ok workers) :
    ∃ launched, startProduction env none = .ok launched ∧ launched.server =
      some ⟨"0.0.0.0", some port, env.getD logLevelName "info", some workers⟩ := by
  simp only [startProduction, workersSetting, portRead, workersRead, configured, Except.mapError]
  exact ⟨_, rfl, rfl⟩

theorem runProduction_eq (parsed : productionGrammar.parse arguments = .ok p)
    (serverFault : Option String) :
    runProduction current env arguments serverFault =
      if canOverride p then .ok (startProduction (overridden current env p) serverFault)
      else .ok (.error (.misuse .settingHoldsNul)) := by
  rw [runProduction, parsed]
  rfl

/-- A production launch takes every setting from its switch, or from the environment where no switch
is given or the switch gives a zero or an empty text; it leaves these settings in the environment
and tells them to its server. It starts a server whenever a package and two counts are in force. -/
theorem runProduction_settles (current : String) (env : Environment) {arguments : List String}
    {p : Parsed} (parsed : productionGrammar.parse arguments = .ok p) :
    (p.int? portTitle).isSome = (p.lastText? portTitle).isSome ∧
    (p.int? workersTitle).isSome = (p.lastText? workersTitle).isSome ∧
    (p.real? timeoutTitle).isSome = (p.lastText? timeoutTitle).isSome ∧
    (∀ serverFault launched,
      runProduction current env arguments serverFault = .ok (.ok launched) →
        Settles current env p launched.environment ∧
        ∀ server, launched.server = some server → Tells env p launched.environment server) ∧
    ((∃ launched server, runProduction current env arguments none = .ok (.ok launched) ∧
        launched.server = some server) ↔
      canOverride p ∧ (∃ path, PackageInForce current env p path) ∧
        (∃ n, CountInForce env p portTitle portName "8000" n) ∧
        ∃ n, CountInForce env p workersTitle workersName "2" n) := by
  have accepted := parse_isAccepted parsed
  have settles : Settles current env p (overridden current env p) := settles_overridden accepted
  refine ⟨isSome_port accepted, isSome_workers accepted, isSome_timeout accepted, ?_, ?_⟩
  · intro serverFault launched ran
    rw [runProduction_eq parsed] at ran
    split at ran
    · obtain ⟨left, served⟩ := of_startProduction (Except.ok.inj ran)
      rw [left]
      refine ⟨settles, fun server given => ?_⟩
      obtain ⟨path, port, workers, -, portRead, workersRead, rfl⟩ := served server given
      have level := settles.logLevel.map fun text : Option String => text.getD "info"
      exact {
        host := rfl
        port := ⟨port, rfl, (countInForce_iff settles.port).2 portRead, portRead⟩
        workers := ⟨workers, rfl, (countInForce_iff settles.workers).2 workersRead, workersRead⟩
        logLevel := level
        sharedLogLevel := rfl }
    · cases ran
  · simp only [runProduction_eq parsed, packageInForce_iff settles, countInForce_iff settles.port,
      countInForce_iff settles.workers]
    constructor
    · rintro ⟨launched, server, ran, served⟩
      split at ran
      case isTrue allowed =>
        obtain ⟨path, port, workers, configured, portRead, workersRead, -⟩ :=
          (of_startProduction (Except.ok.inj ran)).2 server served
        exact ⟨allowed, ⟨path, configured⟩, ⟨port, portRead⟩, workers, workersRead⟩
      case isFalse => cases ran
    · rintro ⟨allowed, ⟨path, configured⟩, ⟨port, portRead⟩, workers, workersRead⟩
      obtain ⟨launched, ran, served⟩ := startProduction_serves configured portRead workersRead
      exact ⟨launched, _, by rw [if_pos allowed, ran], served⟩

def servedEnvironment : Environment :=
  [(pathName, "a.gpkg"), (portName, "9000"), (workersName, "4")]

def givenCounts : Parsed :=
  ⟨none, [(portTitle, some "-8081"), (workersTitle, some "0"), (logLevelTitle, some "debug")]⟩

/-- A number overrides the port in the environment, and a zero leaves the workers there in force. -/
theorem runProduction_settles_counts :
    ∃ p launched server,
      productionGrammar.parse ["--port=-8081", "--workers", "0", "--log-level", "debug"] = .ok p ∧
      runProduction "/srv" [(pathName, "a.gpkg"), (portName, "9000"), (workersName, "4")]
        ["--port=-8081", "--workers", "0", "--log-level", "debug"] none = .ok (.ok launched) ∧
      launched.server = some server ∧ server.port = some (-8081) ∧ server.workers = some 4 ∧
      server.logLevel = "debug" ∧ launched.environment.get? portName = some "-8081" := by
  have parsed : productionGrammar.parse ["--port=-8081", "--workers", "0", "--log-level", "debug"] =
      .ok givenCounts := by decide +kernel
  have port : CountInForce servedEnvironment givenCounts portTitle portName "8000" (-8081) :=
    .switched (-8081) (by decide +kernel) (by decide) rfl
  have workers : CountInForce servedEnvironment givenCounts workersTitle workersName "2" 4 :=
    .kept (by decide +kernel) (by decide +kernel)
  have package : PackageInForce "/srv" servedEnvironment givenCounts "a.gpkg" :=
    ⟨by decide, .kept (by decide +kernel) (by decide +kernel)⟩
  obtain ⟨-, -, -, ends, serves⟩ := runProduction_settles "/srv" servedEnvironment parsed
  obtain ⟨launched, server, ran, served⟩ :=
    serves.2 ⟨by decide +kernel, ⟨_, package⟩, ⟨_, port⟩, _, workers⟩
  obtain ⟨settles, tells⟩ := ends none launched ran
  have told := tells server served
  obtain ⟨n, toldPort, inForce, -⟩ := told.port
  obtain ⟨m, toldWorkers, inForce', -⟩ := told.workers
  refine ⟨givenCounts, launched, server, parsed, ran, served, ?_, ?_, ?_, ?_⟩
  · rw [toldPort, Except.ok.inj (inForce.unique port)]
  · rw [toldWorkers, Except.ok.inj (inForce'.unique workers)]
  · exact told.logLevel.unique (.switched "debug" (by decide +kernel) (by decide) rfl)
  · exact settles.port.unique
      (.switched (-8081) (by decide +kernel) (by decide) (by decide +kernel))

/-- The environment that a zero port and the one in the environment leave. -/
def zeroPortEnvironment : Environment :=
  overridden "/srv" [(pathName, "a.gpkg"), (portName, "9000")] ⟨none, [(portTitle, some "0")]⟩

/-- A port that is zero does not override the one in the environment. -/
theorem zeroPort_is_passed_over :
    ∃ p launched server, productionGrammar.parse ["--port", "0"] = .ok p ∧
      runProduction "/srv" [(pathName, "a.gpkg"), (portName, "9000")] ["--port", "0"] none =
        .ok (.ok launched) ∧
      launched.server = some server ∧ p.int? portTitle = some 0 ∧ server.port = some 9000 := by
  have parsed : productionGrammar.parse ["--port", "0"] = .ok ⟨none, [(portTitle, some "0")]⟩ := by
    decide +kernel
  have package : packageSetting zeroPortEnvironment = some "a.gpkg" := by decide +kernel
  have port : countSetting zeroPortEnvironment portName "8000" = .ok 9000 := by decide +kernel
  have workers : countSetting zeroPortEnvironment workersName "2" = .ok 2 := by decide +kernel
  obtain ⟨launched, ran, served⟩ := startProduction_serves package port workers
  refine ⟨_, launched, _, parsed, ?_, served, by decide +kernel, rfl⟩
  rw [runProduction_eq parsed, if_pos (by decide +kernel)]
  exact congrArg Except.ok ran

end Launch
end GeoConformance
