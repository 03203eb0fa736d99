import GeoConformance.CommandLine
import GeoConformance.Proofs.SpatialIndex.Conformance
import GeoConformance.Proofs.Wording.Outcomes

/-!
# The output of the command

Unless it is asked for more, the command prints the outcomes that speak against the package in the
order of the report, then an empty line and the summary. An outcome takes one line and another one
for every line end in its subject or detail. These come from the package unescaped, so each outcome
has one line just where none of them holds a line end, as on every package that stores none.
-/

namespace GeoConformance

namespace Text

/-- The lines of a text; the last one is what stands behind the last line end. -/
def lines (s : String) : List String := (s.toList.splitOn '\n').map String.ofList

theorem lines_append_break (s t : String) : lines (s ++ "\n" ++ t) = lines s ++ lines t := by
  have whole : (s ++ "\n" ++ t).toList = s.toList ++ '\n' :: t.toList := by
    simp
  rw [lines, whole, List.splitOn_append_cons_self, List.map_append, lines, lines]

theorem lines_of_isLine {s : String} (h : IsLine s) : lines s = [s] := by
  rw [lines, List.splitOn_eq_singleton h, List.map_singleton, String.ofList_toList]

theorem splitOn_append_of_not_mem {a : Char} {s : List Char} (h : a ∉ s) (t : List Char) :
    (s ++ t).splitOn a = (t.splitOn a).modifyHead (s ++ ·) := by
  induction s with
  | nil =>
    rw [List.nil_append]
    cases t.splitOn a <;> rfl
  | cons c rest ih =>
    rw [List.mem_cons, not_or] at h
    have other : (c == a) = false := beq_false_of_ne (Ne.symm h.1)
    rw [List.cons_append, List.splitOn_eq_splitOnP, List.splitOnP_cons_eq_if_modifyHead, other]
    rw [← List.splitOn_eq_splitOnP, ih h.2]
    cases t.splitOn a <;> rfl

/-- A text without a line end only makes the first line behind it longer. -/
theorem lines_append {s : String} (h : IsLine s) (t : String) :
    lines (s ++ t) = (lines t).modifyHead (s ++ ·) := by
  rw [lines, String.toList_append, splitOn_append_of_not_mem h, lines]
  cases t.toList.splitOn '\n' with
  | nil => rfl
  | cons first more => simp

theorem length_splitOn (a : Char) (s : List Char) : (s.splitOn a).length = s.count a + 1 := by
  induction s with
  | nil => rfl
  | cons c rest ih =>
    rw [List.splitOn_eq_splitOnP] at ih ⊢
    rw [List.splitOnP_cons_eq_if_modifyHead, List.count_cons]
    split
    · rw [List.length_cons, ih]
    · rw [List.length_modifyHead, ih]

/-- How many line ends a text holds. -/
def breaks (s : String) : Nat := s.toList.count '\n'

theorem length_lines (s : String) : (lines s).length = breaks s + 1 := by
  rw [lines, List.length_map, length_splitOn, breaks]

theorem breaks_append (s t : String) : breaks (s ++ t) = breaks s + breaks t := by
  simp [breaks]

theorem breaks_eq_zero {s : String} : breaks s = 0 ↔ IsLine s := List.count_eq_zero

end Text

open Text

/-- The outcomes that speak against the package. -/
def Report.adverse (r : Report) : List Outcome := r.outcomes.filter Outcome.isAdverse

namespace CommandLine

/-- The status and the rule of an outcome. -/
def heading (o : Outcome) : String := s!"  {o.status.name.toUpper}[{o.rule}]"

/-- What is said of an outcome behind its rule. -/
def remark (o : Outcome) : String :=
  (if o.subject.isPresent then s!" {o.subject.shown}" else "") ++ s!": {o.verdict.detail}"

/-- The lines on which an outcome is printed. -/
def announced (o : Outcome) : List String := lines (heading o ++ remark o)

/-- The summary without the line ends about it. -/
def summaryLine (r : Report) : String :=
  if r.isOk then s!"OK — {countsText r}"
  else s!"{r.count .fail} failure(s), {r.count .error} error(s) ({countsText r})"

theorem outcomeLine_eq (o : Outcome) : outcomeLine o = heading o ++ remark o ++ "\n" := by
  rw [← String.toList_inj]
  unfold outcomeLine heading remark
  cases o.subject.isPresent <;> simp [toString]

theorem summary_eq (r : Report) : summary r = "\n" ++ summaryLine r ++ "\n" := by
  rw [← String.toList_inj]
  unfold summary summaryLine
  cases r.isOk <;> simp [toString]

theorem isLine_countsText (r : Report) : IsLine (countsText r) := by
  refine isLine_intercalate (by decide) (List.forall_mem_map.2 fun s _ => ?_)
  have name : IsLine s.name := by cases s <;> decide
  simp only [isLine_append, isLine_toString, and_assoc]
  exact ⟨isLine_toString_nat _, by decide, name⟩

theorem isLine_summaryLine (r : Report) : IsLine (summaryLine r) := by
  have counts := isLine_countsText r
  unfold summaryLine
  split <;> simp only [isLine_append, isLine_toString, and_assoc]
  · exact ⟨by decide, counts⟩
  · exact ⟨isLine_toString_nat _, by decide, isLine_toString_nat _, by decide, counts, by decide⟩

variable {o : Outcome}

theorem heading_of_isAdverse (h : o.isAdverse = true) :
    o.status = .fail ∧ heading o = "  FAIL[" ++ o.rule ++ "]" ∨
      o.status = .error ∧ heading o = "  ERROR[" ++ o.rule ++ "]" := by
  have fail : Status.fail.name.toUpper = "FAIL" := by decide +kernel
  have error : Status.error.name.toUpper = "ERROR" := by decide +kernel
  rw [Outcome.isAdverse, Bool.or_eq_true, beq_iff_eq, beq_iff_eq] at h
  refine h.imp (fun failed => ⟨failed, ?_⟩) (fun failed => ⟨failed, ?_⟩)
  · rw [heading, failed, fail]
    rfl
  · rw [heading, failed, error]
    rfl

theorem isLine_of_absent {v : Value} (h : v.isPresent = false) : v.IsLine := by
  refine Value.isLine_iff.2 fun s same => ?_
  have empty : s = "" := by simpa [same, Value.isPresent] using h
  exact empty ▸ List.not_mem_nil

/-- Whatever breaks the remark on an outcome is in its subject or its detail. -/
theorem breaks_remark (o : Outcome) :
    breaks (remark o) = breaks o.subject.shown + breaks o.verdict.detail := by
  have space : breaks " " = 0 := by decide
  have colon : breaks ": " = 0 := by decide
  have subject : breaks (if o.subject.isPresent then " " ++ o.subject.shown else "") =
      breaks o.subject.shown := by
    split
    · rw [breaks_append, space, Nat.zero_add]
    · rename_i absent
      exact (breaks_eq_zero.2 (isLine_of_absent (eq_false_of_ne_true absent))).symm
  change breaks (_ ++ (": " ++ o.verdict.detail)) = _
  rw [breaks_append, breaks_append, colon, Nat.zero_add]
  exact congrArg (· + _) subject

theorem isLine_iff_breaks : o.IsLine ↔ breaks o.subject.shown + breaks o.verdict.detail = 0 := by
  rw [Nat.add_eq_zero_iff, breaks_eq_zero, breaks_eq_zero]
  exact ⟨fun h => ⟨h.subject, h.detail⟩, fun h => ⟨h.1, h.2⟩⟩

theorem isLine_heading (adverse : o.isAdverse = true) (rule : IsLine o.rule) :
    IsLine (heading o) := by
  rcases heading_of_isAdverse adverse with ⟨-, same⟩ | ⟨-, same⟩ <;> rw [same] <;>
    simp only [isLine_append, and_assoc]
  · exact ⟨by decide, rule, by decide⟩
  · exact ⟨by decide, rule, by decide⟩

/-- The first line of an outcome begins with its status and its rule, and each line end in its
subject or its detail leads to one more. -/
theorem exists_announced (adverse : o.isAdverse = true) (rule : IsLine o.rule) :
    ∃ first more, announced o = (heading o ++ first) :: more ∧
      more.length = breaks o.subject.shown + breaks o.verdict.detail := by
  have length := length_lines (remark o)
  rw [announced, lines_append (isLine_heading adverse rule)]
  cases split : lines (remark o) with
  | nil =>
    rw [split] at length
    cases length
  | cons first more =>
    rw [split, breaks_remark] at length
    exact ⟨first, more, rfl, Nat.succ.inj length⟩

theorem announced_of_isLine (adverse : o.isAdverse = true) (rule : IsLine o.rule) (h : o.IsLine) :
    announced o = [heading o ++ remark o] := by
  have remarked : IsLine (remark o) := by
    rw [← breaks_eq_zero, breaks_remark, ← isLine_iff_breaks]
    exact h
  exact lines_of_isLine (isLine_append.2 ⟨isLine_heading adverse rule, remarked⟩)

theorem length_le_length_announced (os : List Outcome) :
    os.length ≤ (os.flatMap announced).length := by
  induction os with
  | nil => exact Nat.le_refl _
  | cons o rest ih =>
    rw [List.flatMap_cons, List.length_append, announced, length_lines, List.length_cons]
    omega

/-- Outcomes have one line each just where none of them holds a line end. -/
theorem flatMap_announced_iff {os : List Outcome} (adverse : ∀ o ∈ os, o.isAdverse = true)
    (rules : ∀ o ∈ os, IsLine o.rule) :
    (os.flatMap announced = os.map fun o => heading o ++ remark o) ↔ ∀ o ∈ os, o.IsLine := by
  induction os with
  | nil => exact ⟨fun _ => List.forall_mem_nil _, fun _ => rfl⟩
  | cons o rest ih =>
    obtain ⟨first, others⟩ := List.forall_mem_cons.1 adverse
    obtain ⟨rule, rules⟩ := List.forall_mem_cons.1 rules
    rw [List.flatMap_cons, List.map_cons, List.forall_mem_cons]
    constructor
    · intro same
      obtain ⟨start, more, announces, length⟩ := exists_announced first rule
      rw [announces, List.cons_append, List.cons.injEq] at same
      -- the other outcomes have a line each at least, so that none is left over for this one
      have counted := congrArg List.length same.2
      have enough := length_le_length_announced rest
      rw [List.length_append, List.length_map] at counted
      have alone : more = [] := List.eq_nil_of_length_eq_zero (by omega)
      rw [alone] at same length
      exact ⟨isLine_iff_breaks.2 length.symm, (ih others rules).1 same.2⟩
    · rintro ⟨line, lines⟩
      rw [announced_of_isLine first rule line, (ih others rules).2 lines]
      rfl

theorem lines_join (os : List Outcome) (t : String) :
    lines (String.join (os.map outcomeLine) ++ t) = os.flatMap announced ++ lines t := by
  induction os with
  | nil => rfl
  | cons o rest ih =>
    rw [List.map_cons, String.join_cons, outcomeLine_eq, String.append_assoc, lines_append_break,
      ih, List.flatMap_cons, List.append_assoc]
    rfl

/-- What is printed of a report, line by line. -/
theorem lines_output (r : Report) :
    lines (ofReport false r).output =
      r.adverse.flatMap announced ++ ["", summaryLine r, ""] := by
  have closing : lines (summary r) = ["", summaryLine r, ""] := by
    have whole : summary r = "" ++ "\n" ++ (summaryLine r ++ "\n" ++ "") := by
      rw [summary_eq]
      simp [String.append_assoc]
    rw [whole, lines_append_break, lines_append_break, lines_of_isLine (isLine_summaryLine r)]
    rfl
  have printed : printed false r = r.adverse := by
    simp [CommandLine.printed, Report.adverse]
  rw [ofReport, printed, lines_join, closing]

end CommandLine

namespace Package

variable {fs : FileSystem} {path : String}

/-- What is opened under a path is what is stored there. -/
theorem eq_of_located {stored content : Content} (found : fs.file? path = some stored)
    (isOpen : located fs path = .ok content) : content = stored := by
  simp only [located, found] at isOpen
  split at isOpen
  · cases isOpen
  · split at isOpen
    · cases isOpen
    · split at isOpen
      · cases isOpen
      · cases isOpen
        rfl

/-- The outcomes of a report on a package are those of its suites on its content. -/
theorem exists_course {env : Environment} {names : List String} {timeout : Option Number}
    {r : Report} (h : validate fs env path names timeout = .ok r) :
    ∃ content suites d, located fs path = .ok content ∧
      r.outcomes = (Validation.course (session content) suites d).outcomes := by
  unfold validate at h
  split at h
  · cases h
  · rename_i content isOpen
    simp only at h
    split at h
    · rename_i left report reported
      cases h
      cases selected : Suite.select names with
      | error m =>
        simp only [Validation.validate, selected] at reported
        cases reported
      | ok suites =>
        rw [Validation.validate_eq selected, Course.onto, Prod.mk.injEq, Prod.mk.injEq] at reported
        obtain ⟨-, -, rfl⟩ := reported
        exact ⟨content, suites, _, isOpen, rfl⟩
    · cases h

end Package

namespace CommandLine

variable {fs : FileSystem} {env : Environment} {request : Request} {r : Report}

theorem exists_course_of_report (h : report fs env request = .ok r) :
    ∃ content suites d, Package.located fs request.package = .ok content ∧
      r.outcomes = (Validation.course (Package.session content) suites d).outcomes := by
  unfold report at h
  split at h
  · exact Package.exists_course h
  · cases h
  · cases h

theorem isLine_rule_of_report (h : report fs env request = .ok r) :
    ∀ o ∈ r.outcomes, IsLine o.rule := by
  obtain ⟨content, suites, d, -, same⟩ := exists_course_of_report h
  exact same ▸ Validation.isLine_rules suites d _

/-- A package without line ends is reported in outcomes of one line each. -/
theorem isLine_of_report (h : report fs env request = .ok r) {c : Catalog}
    {looks : List QueryPattern} {faults : List Fault}
    (stored : fs.file? request.package = some (.database c looks faults)) (lines : c.HoldsLines)
    (worded : ∀ f ∈ faults, f.error.IsLine) : ∀ o ∈ r.outcomes, o.IsLine := by
  obtain ⟨content, suites, d, isOpen, same⟩ := exists_course_of_report h
  obtain rfl := Package.eq_of_located stored isOpen
  exact same ▸ Validation.isLine_outcomes suites d lines ⟨looks, faults, rfl, worded⟩

/-- A command that does not end with the status 2 has printed a report. -/
theorem exists_report {e : Ending} (h : perform fs env request = .ok e)
    (reported : e.status = 0 ∨ e.status = 1) :
    ∃ r, report fs env request = .ok r ∧ e = ofReport request.verbose r := by
  unfold perform at h
  split at h
  · rename_i r given
    cases h
    exact ⟨r, given, rfl⟩
  · cases h
    rcases reported with status | status <;> cases status
  · cases h
    rcases reported with status | status <;> cases status
  · cases h

/-- Unless it is asked for more, a command that reports prints the outcomes that speak against the
package in turn, then an empty line and the summary. The first line of each begins with its status
and its rule, and every line end in its subject or detail leads to one more. So they have one line
each just where none of them holds a line end, and always on a package that stores none, if the
parts of it that cannot be read fail on one line. -/
theorem run_prints_lines {arguments : List String} {p : Parsed} {e : Ending}
    (parsed : grammar.parse arguments = .ok p) (quiet : p.has verboseTitle = false)
    (ended : run fs env arguments = .ok (.ok e)) (reported : e.status = 0 ∨ e.status = 1) :
    ∃ r, report fs env (.ofParsed p) = .ok r ∧
      lines e.output = r.adverse.flatMap announced ++ ["", summaryLine r, ""] ∧
      (∀ o ∈ r.adverse,
        (o.status = .fail ∧ heading o = "  FAIL[" ++ o.rule ++ "]" ∨
          o.status = .error ∧ heading o = "  ERROR[" ++ o.rule ++ "]") ∧
        ∃ first more, announced o = (heading o ++ first) :: more ∧
          more.length = breaks o.subject.shown + breaks o.verdict.detail) ∧
      (lines e.output =
          (r.adverse.map fun o => heading o ++ remark o) ++ ["", summaryLine r, ""] ↔
        ∀ o ∈ r.adverse, o.IsLine) ∧
      ∀ c looks faults, fs.file? (p.operand.getD "") = some (.database c looks faults) →
        c.HoldsLines → (∀ f ∈ faults, f.error.IsLine) → ∀ o ∈ r.adverse, o.IsLine := by
  have performed : perform fs env (.ofParsed p) = .ok e := by
    unfold run at ended
    rw [parsed] at ended
    exact Except.ok.inj ended
  obtain ⟨r, given, rfl⟩ := exists_report performed reported
  have output : lines (ofReport (Request.ofParsed p).verbose r).output =
      r.adverse.flatMap announced ++ ["", summaryLine r, ""] := by
    rw [Request.ofParsed, quiet, lines_output]
  have adverse : ∀ o ∈ r.adverse, o.isAdverse = true := fun o ho => (List.mem_filter.1 ho).2
  have rules : ∀ o ∈ r.adverse, IsLine o.rule := fun o ho =>
    isLine_rule_of_report given o (List.mem_filter.1 ho).1
  refine ⟨r, given, output, fun o ho => ⟨heading_of_isAdverse (adverse o ho),
    exists_announced (adverse o ho) (rules o ho)⟩, ?_,
    fun c looks faults stored lines worded o ho =>
      isLine_of_report given stored lines worded o (List.mem_filter.1 ho).1⟩
  rw [output, List.append_left_inj]
  exact flatMap_announced_iff adverse rules

section Samples

/-- A folder with one package in it. -/
def holding (c : Catalog) : FileSystem where
  current := "/"
  file? path := if path = "a.gpkg" then some (.database c) else none
  readFault := none
  openFault := none

theorem parse_package : grammar.parse ["a.gpkg"] = .ok ⟨some "a.gpkg", []⟩ := by decide +kernel

theorem report_holding {c : Catalog} {outcomes : List Outcome}
    (course : ∀ d, Validation.course (.undisturbed c) Suite.all d = ⟨.ok (), d, outcomes⟩) :
    report (holding c) [] (.ofParsed ⟨some "a.gpkg", []⟩) =
      .ok ⟨some (Path.fileName "a.gpkg"), outcomes⟩ := by
  have suites : (Request.ofParsed ⟨some "a.gpkg", []⟩).suites = some [] := rfl
  have package : (Request.ofParsed ⟨some "a.gpkg", []⟩).package = "a.gpkg" := rfl
  have isOpen : Package.located (holding c) "a.gpkg" = .ok (.database c) := rfl
  have session : Package.session (.database c) = ⟨.database c, []⟩ := rfl
  have selected : Suite.select [] = .ok Suite.all := rfl
  rw [Session.undisturbed] at course
  simp only [report, suites, package, Package.validate, isOpen, session,
    Validation.validate_eq selected, Course.onto, course]
  rfl

theorem run_holding {c : Catalog} {outcomes : List Outcome}
    (course : ∀ d, Validation.course (.undisturbed c) Suite.all d = ⟨.ok (), d, outcomes⟩) :
    run (holding c) [] ["a.gpkg"] =
      .ok (.ok (ofReport false ⟨some (Path.fileName "a.gpkg"), outcomes⟩)) := by
  rw [run, parse_package]
  refine congrArg Except.ok ?_
  rw [perform, report_holding course]
  rfl

def skippedOutcomes : List Outcome :=
  RelatedTables.Rule.all.map fun rule =>
    ⟨rule, .null, .skip (Failure.inapplicable (.text RelatedTables.conformanceClass)).message⟩

/-- Where a spatial index is all that is declared and no geometry column is registered, the
declaration is the only thing to report on. -/
theorem course_unregistered {c : Catalog} {e : Declaration} (declared : c.Declares [e])
    (named : c.select extensionsTable ["extension_name"] =
      .ok ⟨[SpatialIndex.textColumn "extension_name"], [[.text spatialIndexExtension]]⟩)
    (compared : c.collationOf extensionsTable "extension_name" = .binary)
    (registered : c.Registers []) (isFor : SpatialIndex.IsForSpatialIndex e) (d : Deadline) :
    Validation.course (.undisturbed c) Suite.all d =
      ⟨.ok (), d, skippedOutcomes ++ [SpatialIndex.declarationOutcome [] e]⟩ := by
  have uncounted : ¬ c.CountsExtension relatedTablesExtensions := by
    rintro ⟨e, selected, row, member, name, listed, counted⟩
    rw [named] at selected
    cases selected
    rw [compared, List.mem_singleton.1 member] at counted
    revert name
    decide
  have inapplicable : RelatedTables.isApplicable.resultIn c d = .ok false :=
    (Check.extensionActive_eq_ok (by decide)).2 ⟨fun _ => ⟨_, _, named, rfl⟩, by simp [uncounted]⟩
  have skipped : RelatedTables.agenda.courseIn c d = ⟨.ok (), d, skippedOutcomes⟩ := by
    rw [RelatedTables.agenda, Agenda.courseIn_gather, inapplicable]
    exact Agenda.course_skipAll d _ _
  have indexing : e.isNamed [spatialIndexExtension] = true := by
    rw [Declaration.isNamed, isFor]
    decide
  have only : SpatialIndex.indexDeclarations [e] = [e] := by
    simp [SpatialIndex.indexDeclarations, indexing]
  have failed : SpatialIndex.agenda.courseIn c d =
      ⟨.ok (), d, [SpatialIndex.declarationOutcome [] e]⟩ := by
    rw [SpatialIndex.courseIn_agenda_of_registers declared
      (declared.declaresExtension (List.mem_singleton_self e) isFor) registered, only]
    rfl
  rw [Agenda.courseIn] at skipped failed
  simp only [Suite.all, Validation.course, Suite.agenda, skipped, failed]
  rfl

def indexOf (table : String) : Declaration :=
  { SpatialIndex.roadsDeclaration with table := .text table }

/-- A spatial index is declared for a table of this name, but no geometry column is registered. -/
def unregistered (table : String) : Catalog :=
  [.table extensionsTable ⟨Declaration.columnNames.map SpatialIndex.textColumn,
     [[.text table, .text "geom", .text spatialIndexExtension, .text "Annex L",
       .text "write-only"]]⟩,
   .table geometryColumnsTable ⟨["table_name", "column_name"].map SpatialIndex.textColumn, []⟩]

theorem course_roads (d : Deadline) :
    Validation.course (.undisturbed (unregistered "roads")) Suite.all d =
      ⟨.ok (), d, skippedOutcomes ++ [SpatialIndex.declarationOutcome [] (indexOf "roads")]⟩ :=
  course_unregistered (e := indexOf "roads") ⟨_, ⟨_, rfl, rfl⟩, rfl⟩ rfl rfl
    ⟨_, ⟨_, rfl, rfl⟩, rfl⟩ rfl d

theorem unregistered_holdsLines {table : String} (named : IsLine table) :
    (unregistered table).HoldsLines := by
  have columns : ∀ names : List String, (∀ name ∈ names, IsLine name) →
      ∀ k ∈ names.map SpatialIndex.textColumn, k.HoldsLines := fun names lines =>
    List.forall_mem_map.2 fun name member =>
      ⟨lines name member, fun type given => Option.some.inj given ▸ by decide, Value.isLine_null⟩
  refine List.forall_mem_cons.2 ⟨⟨columns _ (by decide), ?_⟩, List.forall_mem_singleton.2
    ⟨columns _ (by decide), List.forall_mem_nil _⟩⟩
  exact List.forall_mem_singleton.2 (List.forall_mem_cons.2 ⟨named, by decide⟩)

/-- The failure of the roads takes one line. -/
theorem run_prints_roads_line :
    grammar.parse ["a.gpkg"] = .ok ⟨some "a.gpkg", []⟩ ∧
      (⟨some "a.gpkg", []⟩ : Parsed).has verboseTitle = false ∧
      ∃ e, run (holding (unregistered "roads")) [] ["a.gpkg"] = .ok (.ok e) ∧ e.status = 1 ∧
        lines e.output =
          ["  FAIL[/extensions/rtree/extensions-rows] roads.geom: The gpkg_rtree_index " ++
            "extension row for roads.geom does not reference a registered geometry column.",
          "", "1 failure(s), 0 error(s) (0 pass, 15 skip, 1 fail, 0 error)", ""] := by
  have quiet : (⟨some "a.gpkg", []⟩ : Parsed).has verboseTitle = false := by decide
  have ended := run_holding course_roads
  have failed : (ofReport false ⟨some (Path.fileName "a.gpkg"), skippedOutcomes ++
      [SpatialIndex.declarationOutcome [] (indexOf "roads")]⟩).status = 1 := by decide +kernel
  obtain ⟨r, given, -, -, oneEach, tidy⟩ :=
    run_prints_lines parse_package quiet ended (.inr failed)
  have printed := oneEach.2
    (tidy _ _ _ rfl (unregistered_holdsLines (by decide)) (List.forall_mem_nil _))
  rw [report_holding course_roads] at given
  cases given
  refine ⟨parse_package, quiet, _, ended, failed, printed.trans ?_⟩
  decide +kernel

/-- A table name that goes on like the line of another outcome. -/
def forgedName : String := "roads\n  FAIL[/extensions/rtree/implementation] rivers"

def forgedOutcome : Outcome := SpatialIndex.declarationOutcome [] (indexOf forgedName)

theorem course_forgedName (d : Deadline) :
    Validation.course (.undisturbed (unregistered forgedName)) Suite.all d =
      ⟨.ok (), d, skippedOutcomes ++ [forgedOutcome]⟩ :=
  course_unregistered (e := indexOf forgedName) ⟨_, ⟨_, rfl, rfl⟩, rfl⟩ rfl rfl
    ⟨_, ⟨_, rfl, rfl⟩, rfl⟩ rfl d

/-- One failure takes three lines, two of them under a rule that nothing failed. -/
theorem forgedName_prints_foreign_lines :
    ∃ r e, report (holding (unregistered forgedName)) [] (.ofParsed ⟨some "a.gpkg", []⟩) = .ok r ∧
      run (holding (unregistered forgedName)) [] ["a.gpkg"] = .ok (.ok e) ∧ e.status = 1 ∧
      r.adverse.map Outcome.rule = ["/extensions/rtree/extensions-rows"] ∧
      lines e.output =
        ["  FAIL[/extensions/rtree/extensions-rows] roads",
        "  FAIL[/extensions/rtree/implementation] rivers.geom: The gpkg_rtree_index extension " ++
          "row for roads",
        "  FAIL[/extensions/rtree/implementation] rivers.geom does not reference a registered " ++
          "geometry column.",
        "", "1 failure(s), 0 error(s) (0 pass, 15 skip, 1 fail, 0 error)", ""] := by
  have broken : heading forgedOutcome ++ remark forgedOutcome =
      "  FAIL[/extensions/rtree/extensions-rows] roads" ++ "\n" ++
        ("  FAIL[/extensions/rtree/implementation] rivers" ++
          ".geom: The gpkg_rtree_index extension row for roads" ++ "\n" ++
        ("  FAIL[/extensions/rtree/implementation] rivers" ++
          ".geom does not reference a registered geometry column.")) := by
    decide +kernel
  have adverse : Report.adverse ⟨some (Path.fileName "a.gpkg"),
      skippedOutcomes ++ [forgedOutcome]⟩ = [forgedOutcome] := rfl
  refine ⟨_, _, report_holding course_forgedName, run_holding course_forgedName,
    by decide +kernel, congrArg (List.map Outcome.rule) adverse, ?_⟩
  rw [lines_output, adverse, List.flatMap_singleton, announced, broken, lines_append_break,
    lines_append_break, lines_of_isLine (by decide),
    lines_of_isLine (isLine_append.2 ⟨by decide, by decide⟩),
    lines_of_isLine (isLine_append.2 ⟨by decide, by decide⟩)]
  decide +kernel

end Samples

end CommandLine

end GeoConformance
