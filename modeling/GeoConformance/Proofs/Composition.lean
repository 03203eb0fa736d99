import GeoConformance.Proofs.Bookkeeping
import GeoConformance.Proofs.Cancellation

/-!
# Suites one after another

The suites of a validation share one thing that can change, the deadline, and it changes only by
being cancelled. So each suite adds to the report what it reports alone, whichever suites come
before it, as long as the deadline is not cancelled; and then it still does up to wording, unless
one of its queries is interrupted.
-/

namespace GeoConformance

/-- What a session can leave of a deadline: the deadline itself, or the cancelled one where some
fault cancels. -/
def Session.Leaves (s : Session) (d d' : Deadline) : Prop :=
  d' = d ∨ d' = d.cancel ∧ ∃ f ∈ s.faults, f.cancels = true

theorem Session.keeps_leaves (s : Session) (d : Deadline) : s.Keeps (s.Leaves d) := by
  intro q d' left
  unfold deadlineAfter
  split
  · rename_i cancels
    obtain ⟨f, befallen, cancelling⟩ := (Option.any_eq_true _ _).1 cancels
    refine .inr ⟨?_, f, mem_of_faultFor befallen, cancelling⟩
    rcases left with rfl | ⟨rfl, -⟩ <;> rfl
  · exact left

namespace Suite

theorem ofName_unknown {name : String} (unknown : ¬ ∃ suite : Suite, suite.name = name) :
    ofName name = .error (.unknownSuite name) := by
  have none : all.find? (·.name == name) = none :=
    List.find?_eq_none.2 fun suite _ named => unknown ⟨suite, beq_iff_eq.1 named⟩
  simp only [ofName, none]

/-- Of several unknown names the first is refused. -/
theorem select_unknown {before after : List String} {name : String}
    (known : ∀ n ∈ before, ∃ suite : Suite, suite.name = n)
    (unknown : ¬ ∃ suite : Suite, suite.name = name) :
    select (before ++ name :: after) = .error (.unknownSuite name) := by
  obtain ⟨suites, rfl⟩ := exists_map_name known
  have refused : (name :: after).mapM ofName = .error (.unknownSuite name) := by
    rw [List.mapM_cons, ofName_unknown unknown]
    rfl
  rw [select, if_neg (by simp), List.mapM_append, mapM_ofName, refused]
  rfl

end Suite

namespace Validation

variable {s : Session} {d : Deadline} {suites : List Suite}

/-- Where suites come to their end, the first of them does, and then the others. -/
theorem course_cons {suite : Suite} {rest : List Suite}
    (h : (course s (suite :: rest) d).ending = .ok ()) :
    (course s rest (suite.agenda.course s d).deadline).ending = .ok () ∧
      course s (suite :: rest) d = (course s rest (suite.agenda.course s d).deadline).after
        (suite.agenda.course s d).outcomes := by
  simp only [course] at h ⊢
  cases carried : (suite.agenda.course s d).ending with
  | ok u =>
    rw [carried] at h
    exact ⟨h, rfl⟩
  | error f =>
    rw [carried] at h
    simp only [carried] at h
    cases h

/-- Once the deadline is cancelled, suites add what each of them adds under that deadline. -/
theorem outcomes_course_cancelled (ended : (course s suites d.cancel).ending = .ok ()) :
    (course s suites d.cancel).outcomes =
      suites.flatMap fun suite => (suite.agenda.course s d.cancel).outcomes := by
  induction suites with
  | nil => rfl
  | cons suite rest ih =>
    have left := suite.agenda.keeps_course (s.keeps_cancelled d) rfl
    obtain ⟨later, eq⟩ := course_cons ended
    rw [left] at later eq
    rw [eq, Course.outcomes_after, ih later, List.flatMap_cons]

/-- Suites add what each of them adds alone, up to the one that cancels the deadline, and after it
what each of them adds under the cancelled deadline. -/
theorem outcomes_course (some : suites ≠ []) (ended : (course s suites d).ending = .ok ()) :
    ∃ before suite after, suites = before ++ suite :: after ∧
      (∀ earlier ∈ before, (earlier.agenda.course s d).deadline = d) ∧
      (after = [] ∨ (suite.agenda.course s d).deadline = d.cancel ∧
        ∃ f ∈ s.faults, f.cancels = true) ∧
      (course s suites d).outcomes =
        ((before ++ [suite]).flatMap fun suite => (suite.agenda.course s d).outcomes) ++
          after.flatMap fun suite => (suite.agenda.course s d.cancel).outcomes := by
  induction suites with
  | nil => exact absurd rfl some
  | cons suite rest ih =>
    have left := suite.agenda.keeps_course (s.keeps_leaves d) (.inl rfl)
    obtain ⟨later, eq⟩ := course_cons ended
    rw [eq, Course.outcomes_after]
    rcases left with same | ⟨cancelled, cancelling⟩
    · rw [same] at later ⊢
      cases rest with
      | nil => exact ⟨[], suite, [], rfl, by simp, .inl rfl, by simp [course]⟩
      | cons next more =>
        obtain ⟨before, last, after, split, unchanged, cut, added⟩ := ih (by simp) later
        refine ⟨suite :: before, last, after, by rw [split, List.cons_append], ?_, cut, ?_⟩
        · exact List.forall_mem_cons.2 ⟨same, unchanged⟩
        · rw [added, List.cons_append, List.flatMap_cons, List.append_assoc]
    · rw [cancelled] at later ⊢
      refine ⟨[], suite, rest, rfl, by simp, .inr ⟨cancelled, cancelling⟩, ?_⟩
      rw [outcomes_course_cancelled later, List.nil_append, List.flatMap_singleton]

/-- Suites that are each carried to their ends alone are carried to them one after another. -/
theorem ending_course (alone : ∀ suite ∈ suites, (suite.agenda.course s d).ending = .ok ()) :
    (course s suites d).ending = .ok () := by
  have later : ∀ suite ∈ suites, ∀ d', s.Leaves d d' →
      (suite.agenda.course s d').ending = .ok () := by
    intro suite member d' left
    rcases left with rfl | ⟨rfl, -⟩
    · exact alone suite member
    · exact (Agenda.course_impaired s.isImpaired_cancel suite.isGuarded_agenda rfl
        (alone suite member)).1
  suffices ∀ d', s.Leaves d d' → (course s suites d').ending = .ok () from this d (.inl rfl)
  clear alone
  induction suites with
  | nil => exact fun _ _ => rfl
  | cons suite rest ih =>
    intro d' left
    rw [List.forall_mem_cons] at later
    rw [course, later.1 d' left]
    exact ih later.2 _ (suite.agenda.keeps_course (s.keeps_leaves d) left)

/-- The outcomes of a report on one suite that is performed alone. -/
def outcomesAlone (s : Session) (d : Deadline) (name : String) : List Outcome :=
  (validate s [name] d (.empty none)).2.2.outcomes

/-- The deadline that one suite leaves which is performed alone. -/
def deadlineAlone (s : Session) (d : Deadline) (name : String) : Deadline :=
  (validate s [name] d (.empty none)).2.1

theorem select_name (suite : Suite) : Suite.select [suite.name] = .ok [suite] := by
  cases suite <;> rfl

theorem validate_alone (s : Session) (suite : Suite) (d : Deadline) :
    validate s [suite.name] d (.empty none) = (suite.agenda.course s d).onto (.empty none) := by
  rw [validate_eq (select_name suite), course_singleton]

theorem outcomesAlone_name (s : Session) (d : Deadline) (suite : Suite) :
    outcomesAlone s d suite.name = (suite.agenda.course s d).outcomes := by
  rw [outcomesAlone, validate_alone]
  exact List.nil_append _

theorem deadlineAlone_name (s : Session) (d : Deadline) (suite : Suite) :
    deadlineAlone s d suite.name = (suite.agenda.course s d).deadline := by
  rw [deadlineAlone, validate_alone]
  rfl

/-- How the outcomes of a suite behind the cancellation of the deadline compare with those that it
has alone. They are the same up to wording, unless the engine looks at the deadline during a query
of the suite; then some may be given up for errors. -/
structure Survives (s : Session) (d : Deadline) (name : String) (os : List Outcome) : Prop where
  reworded : (∀ q ∈ queries s [name] d, s.looksDuring q = false) →
    List.Forall₂ (Outcome.Reworded d.limitText) (outcomesAlone s d name) os ∧
      os.map Outcome.face = (outcomesAlone s d name).map Outcome.face
  impaired : (validate s [name] d (.empty none)).1 = .ok () → Impaired (outcomesAlone s d name) os

theorem survives (s : Session) (d : Deadline) (suite : Suite) :
    Survives s d suite.name (suite.agenda.course s d.cancel).outcomes where
  reworded := by
    intro unseen
    have asked : ∀ q ∈ suite.agenda.asked s d, q ∈ queries s [suite.name] d := by
      intro q hq
      rw [queries, select_name suite]
      exact List.mem_append_left _ hq
    have reworded := suite.agenda.course_reworded fun q hq => unseen q (asked q hq)
    rw [outcomesAlone_name]
    exact ⟨reworded, (Outcome.map_face_eq reworded).symm⟩
  impaired := by
    intro ended
    rw [validate_alone] at ended
    rw [outcomesAlone_name]
    exact (Agenda.course_impaired s.isImpaired_cancel suite.isGuarded_agenda rfl ended).2.1

/-- Many declarations of spatial indexes, and nothing that they could be on. -/
def indexDeclarations : Catalog :=
  [.table extensionsTable ⟨Declaration.columnNames.map fun name => ⟨name, none, false, .null, 0⟩,
    List.replicate 500 [.text "roads", .text "geom", .text spatialIndexExtension,
      .text "Annex L", .text "write-only"]⟩]

/-- A fault cancels the deadline where the geometry columns are looked up. -/
def cancelledLookUp : Session where
  backing := .database indexDeclarations [⟨.rows, some extensionsTable⟩]
  faults := [⟨.existence, some geometryColumnsTable, ⟨.operational, "interrupted"⟩, true⟩]

theorem indexDeclarations_longReads :
    indexDeclarations.longReads = [⟨.rows, some extensionsTable⟩] := by
  decide +kernel

theorem run_extensionActive_cancelledLookUp {names : List String} :
    (Check.extensionActive names).run cancelledLookUp ⟨none, false⟩ =
      ((Check.extensionActive names).resultIn indexDeclarations ⟨none, false⟩, ⟨none, false⟩) := by
  have spared : ∀ q : Query, q.subject = extensionsTable →
      Check.IsSpared [⟨.rows, some extensionsTable⟩] cancelledLookUp.faults ⟨none, false⟩ q := by
    intro q about
    refine ⟨fun f hf => ?_, fun passed => nomatch passed⟩
    rw [List.mem_singleton.1 hf]
    exact Bool.and_eq_false_imp.2 fun _ => by rw [about]; decide
  exact (Check.asksOnly_extensionActive (spared _ rfl) fun _ => spared _ rfl).run_spared

theorem indexDeclarations_uncounted :
    ¬ indexDeclarations.CountsExtension relatedTablesExtensions := by
  rintro ⟨e, selected, row, hrow, name, hname, counted⟩
  cases selected
  obtain ⟨whole, hwhole, rfl⟩ := List.mem_map.1 hrow
  rw [List.eq_of_mem_replicate hwhole] at counted
  revert name
  decide

/-- The suite for spatial indexes meets the fault and goes on under the cancelled deadline. -/
theorem exists_course_cancelledLookUp :
    ∃ os, SpatialIndex.agenda.course cancelledLookUp ⟨none, false⟩ =
      (SpatialIndex.onImplementation.course cancelledLookUp ⟨none, true⟩).after os := by
  have declared : indexDeclarations.DeclaresExtension [spatialIndexExtension] :=
    ⟨_, ⟨_, rfl, rfl⟩, _, List.mem_cons_self, spatialIndexExtension, by simp, rfl⟩
  rw [SpatialIndex.agenda, Agenda.course, SpatialIndex.isApplicable,
    run_extensionActive_cancelledLookUp, Check.extensionActive_eq_true declared]
  exact ⟨_, rfl⟩

/-- Alone the suite for related tables does not apply. -/
theorem course_cancelledLookUp :
    RelatedTables.agenda.course cancelledLookUp ⟨none, false⟩ =
      (Agenda.skipAll RelatedTables.Rule.all
        (Failure.inapplicable (.text RelatedTables.conformanceClass)).message).course
          cancelledLookUp ⟨none, false⟩ := by
  have inapplicable : (Check.extensionActive relatedTablesExtensions).resultIn indexDeclarations
      ⟨none, false⟩ = .ok false :=
    (Check.extensionActive_eq_ok (by decide)).2
      ⟨fun _ => ⟨_, _, rfl, rfl⟩, by simp [indexDeclarations_uncounted]⟩
  rw [RelatedTables.agenda, Agenda.course, RelatedTables.isApplicable,
    run_extensionActive_cancelledLookUp, inapplicable]
  rfl

end Validation
end GeoConformance
