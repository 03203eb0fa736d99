import GeoConformance.Reference
import GeoConformance.Proofs.Schema

/-!
# What a check asks

A check looks at a session through its queries alone. Two databases that give the same answers to
all that a check can ask are the same to it, and faults that befall none of these queries leave it
as it is.
-/

namespace GeoConformance
namespace Check

variable {α β : Type} {P Q : Query → Prop} {k : Check α}

/-- Whatever the replies are, only queries with a property are asked. -/
def AsksOnly (P : Query → Prop) : Check α → Prop
  | .done _ => True
  | .stop _ => True
  | .ask q next => P q ∧ ∀ reply, (next reply).AsksOnly P

theorem AsksOnly.mono (h : k.AsksOnly P) (weaker : ∀ q, P q → Q q) : k.AsksOnly Q := by
  induction k with
  | done a => trivial
  | stop f => trivial
  | ask q next ih => exact ⟨weaker q h.1, fun reply => ih reply (h.2 reply)⟩

theorem AsksOnly.bind {next : α → Check β} (h : k.AsksOnly P) (hn : ∀ a, (next a).AsksOnly P) :
    (k >>= next).AsksOnly P := by
  induction k with
  | done a => exact hn a
  | stop f => trivial
  | ask q after ih => exact ⟨h.1, fun reply => ih reply (h.2 reply)⟩

theorem asksOnly_pure (a : α) : (pure a : Check α).AsksOnly P := trivial

theorem asksOnly_violate (v : Violation) : (violate v : Check α).AsksOnly P := trivial

theorem asksOnly_reply {q : Query} (h : P q) : (reply q).AsksOnly P := ⟨h, fun _ => trivial⟩

theorem asksOnly_require (condition : Bool) (v : Violation) : (require condition v).AsksOnly P := by
  cases condition <;> trivial

theorem asksOnly_ofViolation (v : Option Violation) : (ofViolation? v).AsksOnly P := by
  cases v <;> trivial

theorem asksOnly_ofExcept (x : Except Misuse α) : (ofExcept x).AsksOnly P := by
  cases x <;> trivial

theorem asksOnly_forEach {check : β → Check Unit} {bs : List β}
    (h : ∀ b ∈ bs, (check b).AsksOnly P) : (forEach check bs).AsksOnly P := by
  induction bs with
  | nil => trivial
  | cons b rest ih =>
    obtain ⟨first, others⟩ := List.forall_mem_cons.1 h
    exact first.bind fun _ => ih others

/-- Databases that give the same answers are the same to a check. -/
theorem AsksOnly.resultIn_congr {c c' : Catalog} (d : Deadline)
    (h : k.AsksOnly fun q => q.answer c = q.answer c') : k.resultIn c d = k.resultIn c' d := by
  induction k with
  | done a => rfl
  | stop f => rfl
  | ask q next ih =>
    obtain ⟨same, later⟩ := h
    simp only [resultIn, run, Session.undisturbed_ask, same]
    cases q.answer c' with
    | ok reply => exact ih reply (later reply)
    | error e => rfl

/-- A query that no fault befalls and no deadline interrupts. -/
def IsSpared (looks : List QueryPattern) (faults : List Fault) (d : Deadline) (q : Query) : Prop :=
  (∀ f ∈ faults, f.befalls q = false) ∧ (d.hasPassed = true → looks.any (·.covers q) = false)

/-- Where all its queries are spared, faults and deadlines are nothing to a check. -/
theorem AsksOnly.run_spared {c : Catalog} {looks : List QueryPattern} {faults : List Fault}
    {d : Deadline} (h : k.AsksOnly (IsSpared looks faults d)) :
    k.run ⟨.database c looks, faults⟩ d = (k.resultIn c d, d) := by
  induction k with
  | done a => rfl
  | stop f => rfl
  | ask q next ih =>
    obtain ⟨⟨spared, uninterrupted⟩, later⟩ := h
    have none : (⟨.database c looks, faults⟩ : Session).faultFor q = none := by
      have unbefallen : faults.find? (·.befalls q) = none :=
        List.find?_eq_none.2 fun f hf => by simp [spared f hf]
      simp [Session.faultFor, unbefallen]
    simp only [run, resultIn, Session.ask_unbefallen none uninterrupted, Session.undisturbed_ask]
    cases q.answer c with
    | ok reply => exact ih reply (later reply)
    | error e => rfl

theorem asksOnly_tableExists {v : Value} (h : ∀ name, v = .text name → P (.tableCount name)) :
    (tableExists v).AsksOnly P := by
  unfold tableExists
  cases identified : Identifier.ofValue v with
  | error m => trivial
  | ok name =>
    have named := (Identifier.ofValue_eq_ok.1 identified).1
    exact (asksOnly_reply (h name named)).bind fun _ => trivial

theorem asksOnly_extensionActive {names : List String} (looked : P (.tableCount extensionsTable))
    (counted : ∀ names, P (.declarationCount names)) : (extensionActive names).AsksOnly P := by
  unfold extensionActive
  split
  · trivial
  · refine (asksOnly_tableExists fun _ named => Value.text.inj named ▸ looked).bind fun found => ?_
    cases found
    · trivial
    · exact (asksOnly_reply (counted _)).bind fun _ => trivial

/-! ## Checks on one table -/

section Tables

variable {v w column : Value}

/-- Whether a table exists and which columns it has may be asked. -/
def Inspects (P : Query → Prop) (v : Value) : Prop :=
  ∀ name, v = .text name → P (.tableCount name) ∧ P (.columns name)

/-- The values of the columns of a table may be asked for. -/
def Reads (P : Query → Prop) (v : Value) : Prop :=
  ∀ name, v = .text name → ∀ label, P (.columnValues name label) ∧ P (.distinctValues name label)

theorem asksOnly_nameOf_bind {next : String → Check β}
    (h : ∀ name, v = .text name → (next name).AsksOnly P) : (nameOf v >>= next).AsksOnly P := by
  unfold nameOf
  cases identified : Identifier.ofValue v with
  | error m => trivial
  | ok name => exact h name (Identifier.ofValue_eq_ok.1 identified).1

theorem asksOnly_requireTable (h : Inspects P v) : (requireTable v).AsksOnly P :=
  (asksOnly_tableExists fun name named => (h name named).1).bind fun _ => asksOnly_require _ _

theorem asksOnly_columns (h : Inspects P v) : (columns v).AsksOnly P :=
  asksOnly_nameOf_bind fun name named => asksOnly_reply (h name named).2

theorem asksOnly_requireColumn (h : Inspects P v) : (requireColumn v column).AsksOnly P :=
  (asksOnly_columns h).bind fun _ => asksOnly_require _ _

theorem asksOnly_primaryKey (h : Inspects P v) : (primaryKey v).AsksOnly P :=
  (asksOnly_columns h).bind fun _ => asksOnly_pure _

theorem asksOnly_requirePrimaryKey (h : Inspects P v) : (requirePrimaryKey v column).AsksOnly P :=
  (asksOnly_requireTable h).bind fun _ => (asksOnly_primaryKey h).bind fun _ =>
    asksOnly_require _ _

theorem asksOnly_requireColumns (h : Inspects P v) (expected : List ColumnExpectation) :
    (requireColumns v expected).AsksOnly P :=
  (asksOnly_columns h).bind fun _ => (asksOnly_ofExcept _).bind fun _ => asksOnly_require _ _

theorem asksOnly_columnValues (h : Reads P v) : (columnValues v column).AsksOnly P :=
  (asksOnly_ofExcept _).bind fun _ => asksOnly_nameOf_bind fun name named =>
    asksOnly_reply (h name named _).1

theorem asksOnly_distinctValues (h : Reads P v) : (distinctValues v column).AsksOnly P :=
  (asksOnly_ofExcept _).bind fun _ => asksOnly_nameOf_bind fun name named =>
    asksOnly_reply (h name named _).2

theorem asksOnly_requireReferences {idColumn : Value} (hMapping : Inspects P v)
    (readMapping : Reads P v) (hTable : Inspects P w) (readTable : Reads P w) :
    (requireReferences v idColumn w column).AsksOnly P := by
  refine (asksOnly_requireTable hMapping).bind fun _ => (asksOnly_requireTable hTable).bind fun _ =>
    (asksOnly_requireColumn hMapping).bind fun _ => (asksOnly_requireColumn hTable).bind fun _ =>
    (asksOnly_columnValues readTable).bind fun referenced =>
    (asksOnly_distinctValues readMapping).bind fun values => ?_
  cases orphans referenced values with
  | nil => exact asksOnly_pure _
  | cons v rest => exact asksOnly_violate _

theorem asksOnly_definition {kind : String}
    (h : ∀ name, v = .text name → P (.definitions kind name)) : (definition v kind).AsksOnly P :=
  asksOnly_nameOf_bind fun name named => (asksOnly_reply (h name named)).bind fun _ =>
    asksOnly_pure _

theorem asksOnly_definitionsFrom {kind : String}
    (h : ∀ start, v = .text start → P (.definitionsFrom kind start)) :
    (definitionsFrom v kind).AsksOnly P :=
  asksOnly_nameOf_bind fun start named => (asksOnly_reply (h start named)).bind fun _ =>
    asksOnly_ofExcept _

end Tables

/-! ## Checks on the bookkeeping tables -/

section Bookkeeping

variable {v role : Value}

theorem asksOnly_declarations (looked : P (.tableCount extensionsTable)) (read : P .declarations) :
    declarations.AsksOnly P := by
  refine (asksOnly_tableExists fun _ named => Value.text.inj named ▸ looked).bind fun found => ?_
  cases found
  · exact asksOnly_pure _
  · exact asksOnly_reply read

theorem asksOnly_relations (looked : P (.tableCount relationsTable)) (read : P .relations) :
    relations.AsksOnly P :=
  (asksOnly_tableExists fun _ named => Value.text.inj named ▸ looked).bind fun _ =>
    (asksOnly_require _ _).bind fun _ => asksOnly_reply read

theorem asksOnly_geometryColumns (looked : P (.tableCount geometryColumnsTable))
    (read : P .geometryColumns) : geometryColumns.AsksOnly P :=
  (asksOnly_tableExists fun _ named => Value.text.inj named ▸ looked).bind fun _ =>
    (asksOnly_require _ _).bind fun _ => asksOnly_reply read

theorem asksOnly_spatialIndexDeclarations (looked : P (.tableCount extensionsTable))
    (read : P .declarations) : spatialIndexDeclarations.AsksOnly P :=
  (asksOnly_declarations looked read).bind fun _ => asksOnly_pure _

theorem asksOnly_indexedGeometryColumns (looked : P (.tableCount extensionsTable))
    (read : P .declarations) (lookedColumns : P (.tableCount geometryColumnsTable))
    (readColumns : P .geometryColumns) : indexedGeometryColumns.AsksOnly P :=
  (asksOnly_spatialIndexDeclarations looked read).bind fun _ =>
    (asksOnly_geometryColumns lookedColumns readColumns).bind fun _ => asksOnly_pure _

theorem asksOnly_requireInContents (looked : P (.tableCount contentsTable))
    (counted : P (.contentsCount v)) : (requireInContents v role).AsksOnly P := by
  refine AsksOnly.bind ?_ fun _ => asksOnly_require _ _
  refine (asksOnly_tableExists fun _ named => Value.text.inj named ▸ looked).bind fun found => ?_
  cases found
  · exact asksOnly_pure _
  · exact (asksOnly_reply counted).bind fun _ => asksOnly_pure _

theorem asksOnly_contentsType (looked : P (.tableCount contentsTable))
    (read : P (.contentsTypes v)) : (contentsType v).AsksOnly P := by
  refine (asksOnly_tableExists fun _ named => Value.text.inj named ▸ looked).bind fun found => ?_
  cases found
  · exact asksOnly_pure _
  · exact (asksOnly_reply read).bind fun _ => asksOnly_pure _

end Bookkeeping

end Check
end GeoConformance
