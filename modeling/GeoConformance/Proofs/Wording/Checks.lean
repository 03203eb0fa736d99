import GeoConformance.Proofs.Faulted
import GeoConformance.Proofs.Mismatches
import GeoConformance.Proofs.References
import GeoConformance.Proofs.Wording.Lines

/-!
# The wording of failures

Where no line end is stored in what describes the tables and views of a package or in their rows,
every failure of a check is worded on one line. What a check finds holds no line end then either, so
this is kept from one query to the next.
-/

namespace GeoConformance

open Text

/-! ## What a package stores -/

/-- Whatever is stated of a column is shown on one line. -/
structure Column.HoldsLines (c : Column) : Prop where
  name : IsLine c.name
  type : ∀ type ∈ c.type, IsLine type
  default : c.default.IsLine

structure Extent.HoldsLines (e : Extent) : Prop where
  columns : ∀ c ∈ e.columns, c.HoldsLines
  rows : ∀ row ∈ e.rows, ∀ v ∈ row, v.IsLine

/-- No line end is stored in what describes a table or a view or in its rows. The texts of other
objects are free. -/
def SchemaObject.HoldsLines : SchemaObject → Prop
  | .table _ extent _ => extent.HoldsLines
  | .view name source => IsLine name ∧ IsLine source
  | .computed name _ _ extent _ => IsLine name ∧ extent.HoldsLines
  | .entry .. => True

def Catalog.HoldsLines (c : Catalog) : Prop := ∀ o ∈ c, o.HoldsLines

/-- An error of the engine that is worded on one line. -/
def EngineError.IsLine (e : EngineError) : Prop := Text.IsLine e.message

namespace Extent.HoldsLines

variable {e : Extent}

theorem isLine_typeThroughView {type shown : Option String} (h : ∀ s ∈ type, IsLine s)
    (same : typeThroughView type = shown) : ∀ s ∈ shown, IsLine s := by
  unfold typeThroughView at same
  split at same <;> subst same
  · exact fun s blob => Option.some.inj blob ▸ by decide
  · exact h

theorem throughView (h : e.HoldsLines) : e.throughView.HoldsLines where
  columns := List.forall_mem_map.2 fun c member =>
    ⟨(h.columns c member).name, isLine_typeThroughView (h.columns c member).type rfl,
      Value.isLine_null⟩
  rows := h.rows

theorem getD (h : e.HoldsLines) {row : Row} (member : row ∈ e.rows) (i : Nat) :
    (row.getD i .null).IsLine := by
  rw [List.getD_eq_getElem?_getD]
  cases found : row[i]? with
  | none => exact Value.isLine_null
  | some v => exact h.rows row member v (List.mem_of_getElem? found)

theorem project (h : e.HoldsLines) (positions : List Nat) : (e.project positions).HoldsLines where
  columns c member := by
    obtain ⟨i, -, found⟩ := List.mem_filterMap.1 member
    exact h.columns c (List.mem_of_getElem? found)
  rows := List.forall_mem_map.2 fun _ member => List.forall_mem_map.2 fun i _ => h.getD member i

end Extent.HoldsLines

namespace Catalog

theorem isLine_noSuchTable {name : String} (h : IsLine name) : (noSuchTable name).IsLine :=
  isLine_append.2 ⟨by decide, h⟩

theorem isLine_noSuchColumn {name : String} (h : IsLine name) : (noSuchColumn name).IsLine :=
  isLine_append.2 ⟨by decide, h⟩

theorem isLine_circularView {name : String} (h : IsLine name) : (circularView name).IsLine :=
  isLine_append.2 ⟨isLine_append.2 ⟨by decide, h⟩, by decide⟩

variable {c : Catalog}

/-- What is read under a name holds no line end, and neither does the reason why it cannot be. -/
theorem HoldsLines.follow (h : c.HoldsLines) {depth : Nat} {visited : List String}
    {name shown : String} (named : IsLine name) (known : IsLine shown) :
    ComesTo EngineError.IsLine (fun e => e.extent.HoldsLines)
      (c.follow visited depth name shown) := by
  induction depth generalizing visited name shown with
  | zero => exact .error (isLine_circularView named)
  | succ depth ih =>
    unfold Catalog.follow
    split
    · rename_i table extent traits found
      exact .ok (h _ (List.mem_of_find?_eq_some found))
    · rename_i table isView sql extent traits found
      exact .ok (h _ (List.mem_of_find?_eq_some found)).2
    · rename_i view source found
      obtain ⟨viewed, sourced⟩ := h _ (List.mem_of_find?_eq_some found)
      split
      · exact .error (isLine_circularView viewed)
      · refine (ih sourced ?_).map fun _ => Extent.HoldsLines.throughView
        simp only [isLine_append, isLine_toString]
        exact ⟨by decide, sourced⟩
    · exact .error (isLine_noSuchTable known)

theorem HoldsLines.extent (h : c.HoldsLines) {name : String} (named : IsLine name) :
    ComesTo EngineError.IsLine Extent.HoldsLines (c.extent name) :=
  (h.follow named named).map fun _ kept => kept

theorem HoldsLines.select (h : c.HoldsLines) {table : String} (named : IsLine table)
    {names : List String} (asked : ∀ name ∈ names, IsLine name) :
    ComesTo EngineError.IsLine Extent.HoldsLines (c.select table names) := by
  refine (h.extent named).bind fun e kept => ?_
  refine (ComesTo.mapM (R := fun _ => True) fun name member => ?_).bind fun positions _ =>
    .ok (kept.project positions)
  split
  · exact .ok trivial
  · exact .error (isLine_noSuchColumn (asked name member))

theorem HoldsLines.quotedColumn (h : c.HoldsLines) {table column : String} (named : IsLine table)
    (asked : IsLine column) :
    ComesTo EngineError.IsLine (∀ v ∈ ·, v.IsLine) (c.quotedColumn table column) := by
  refine (h.extent named).bind fun e kept => ?_
  split
  · exact .ok (List.forall_mem_map.2 fun row member => kept.getD member _)
  · exact .ok (List.forall_mem_map.2 fun row _ => asked)

theorem HoldsLines.listerError (h : c.HoldsLines) {e : EngineError}
    (hindered : c.listerError? = some e) : e.IsLine := by
  unfold listerError? at hindered
  split at hindered
  · cases hindered
  · rename_i name sql extent traits found
    have named : IsLine name := (h _ (List.mem_of_find?_eq_some found)).1
    split at hindered <;> cases hindered
    · exact isLine_noSuchColumn (by decide)
    · simp only [EngineError.IsLine, isLine_append, isLine_toString]
      exact ⟨⟨by decide, named⟩, by decide⟩
  · cases hindered
    exact isLine_append.2 ⟨isLine_append.2 ⟨by decide, by decide⟩, by decide⟩

theorem HoldsLines.columnsOf (h : c.HoldsLines) {table : String} (named : IsLine table) :
    ComesTo EngineError.IsLine (∀ column ∈ ·, column.HoldsLines) (c.columnsOf table) := by
  unfold Catalog.columnsOf
  split
  · rename_i e hindered
    exact .error (h.listerError hindered)
  · split
    · refine (h.follow named named).map fun e kept column member => ?_
      exact kept.columns column (FullExtent.mem_of_mem_listed member)
    · exact .ok (List.forall_mem_nil _)

end Catalog

/-! ## What is expected of columns -/

namespace ColumnExpectation

/-- The values that an expectation can bring into a message. -/
def stated (e : ColumnExpectation) : List Value :=
  .text e.name :: (e.type.toList ++ e.default.toList ++
    match e.key with
    | some (.position p) => [p]
    | _ => [])

variable {e : ColumnExpectation} {k : Column}

theorem isLine_ofText {text : Option String} (h : ∀ s ∈ text, IsLine s) :
    (Value.ofText? text).IsLine := by
  cases text with
  | none => exact Value.isLine_null
  | some s => exact h s rfl

/-- Each kind of mismatch is worded with what is expected and what is found. -/
theorem Differs.isLine {m : ColumnMismatch} (differs : e.Differs k m)
    (lines : ∀ v ∈ e.stated, v.IsLine) (h : k.HoldsLines) : IsLine m.message := by
  -- the equations of `message` are too costly to be generated for a rewrite
  delta ColumnMismatch.message
  cases differs with
  | @type t wanted _ =>
    have expected := lines t (by simp [stated, wanted])
    have found : (Value.ofText? k.type).IsLine := isLine_ofText h.type
    simp only [isLine_append, isLine_toString, and_assoc]
    exact ⟨by decide, expected, by decide, found, by decide⟩
  | notNull _ _ =>
    simp only [isLine_append, isLine_toString, and_assoc]
    exact ⟨by decide, isLine_toString_nat _, by decide, isLine_toString_int _, by decide⟩
  | @default v wanted _ =>
    have expected := lines v (by simp [stated, wanted])
    simp only [isLine_append, isLine_toString, and_assoc]
    exact ⟨by decide, expected, by decide, h.default, by decide⟩
  | notInKey _ _ => decide
  | @keyPosition p wanted _ =>
    have expected := lines p (by simp [stated, wanted])
    simp only [isLine_append, isLine_toString, and_assoc]
    exact ⟨by decide, expected, by decide, Value.isLine_number _, by decide⟩

theorem isLine_unmetReason {columns : List Column} {reason : String}
    (comparable : e.isComparable = true) (lines : ∀ v ∈ e.stated, v.IsLine)
    (h : ∀ k ∈ columns, k.HoldsLines) (unmet : unmetReason? columns e = some reason) :
    IsLine reason := by
  unfold unmetReason? at unmet
  simp only at unmet
  split at unmet
  · rename_i k last
    cases unmet
    have member := (List.mem_filter.1 (List.mem_filter.1 (List.mem_of_getLast? last)).1).1
    exact isLine_intercalate (by decide) (List.forall_mem_map.2 fun m listed =>
      ((mem_mismatches comparable).1 listed).isLine lines (h k member))
  · split at unmet <;> cases unmet
    decide

end ColumnExpectation

theorem isLine_unmetReasons {columns : List Column} {expected : List ColumnExpectation}
    (comparable : ∀ e ∈ expected, e.isComparable = true)
    (lines : ∀ e ∈ expected, ∀ v ∈ e.stated, v.IsLine) (h : ∀ k ∈ columns, k.HoldsLines) :
    ∀ r ∈ unmetReasons columns expected, IsLine r.1 ∧ IsLine r.2 := by
  intro r member
  obtain ⟨name, -, found⟩ := List.mem_filterMap.1 member
  obtain ⟨e, counts, found⟩ := Option.bind_eq_some_iff.1 found
  obtain ⟨reason, unmet, found⟩ := Option.bind_eq_some_iff.1 found
  cases found
  have asked : e ∈ expected := List.mem_reverse.1 (List.mem_of_find?_eq_some counts)
  have named : e.name = name := by simpa using List.find?_some counts
  exact ⟨named ▸ lines e asked _ List.mem_cons_self,
    ColumnExpectation.isLine_unmetReason (comparable e asked) (lines e asked) h unmet⟩

/-! ## How a check ends -/

namespace Failure

/-- A failure that is worded on one line if it is a verdict at all. -/
def IsLine (f : Failure) : Prop := ∀ v ∈ f.verdict?, Text.IsLine v.detail

theorem isLine_misuse (m : Misuse) : (misuse m).IsLine := fun _ verdict => nomatch verdict

theorem isLine_violation {v : Violation} (h : ∀ value ∈ v.named, value.IsLine) :
    (violation v).IsLine := by
  intro verdict same
  cases same
  exact Violation.isLine_detail h

theorem isLine_failure {e : EngineError} (h : e.IsLine) (d : Deadline) {sql : String}
    (asked : Text.IsLine sql) : (e.failure d sql).IsLine := by
  intro verdict recorded
  have limit : Text.IsLine d.limitText := by
    unfold Deadline.limitText
    cases d.limit with
    | none => decide
    | some n => exact Text.isLine_number n
  unfold EngineError.failure at recorded
  split at recorded
  · split at recorded <;> cases recorded
    · change Text.IsLine ("Query " ++ _ ++ ": " ++ sql)
      refine isLine_append.2 ⟨isLine_append.2 ⟨isLine_append.2 ⟨by decide, ?_⟩, by decide⟩, asked⟩
      split
      · decide
      · exact isLine_append.2 ⟨isLine_append.2 ⟨by decide, limit⟩, by decide⟩
    · exact isLine_append.2 ⟨by decide, h⟩
  · split at recorded <;> cases recorded

end Failure

namespace Query

/-- The names that a query holds in its text. -/
def quotes : Query → List String
  | .distinctValues table column => [table, column]
  | .columnValues table column => [table, column]
  | _ => []

theorem isLine_quoted {name : String} (h : IsLine name) : IsLine (Identifier.quoted name) := by
  have doubled : '\n' ∉ Identifier.doubled name.toList := by
    rw [Identifier.doubled, List.mem_flatMap]
    rintro ⟨c, member, among⟩
    split at among
    · simp at among
    · exact h (List.mem_singleton.1 among ▸ member)
  rw [Identifier.quoted, isLine_ofList, Identifier.quotedChars]
  simp [doubled]

/-- A query is worded on one line if the names in it are. -/
theorem isLine_sql {q : Query} (h : ∀ name ∈ q.quotes, IsLine name) : IsLine q.sql := by
  -- the equations of `sql` are too costly to be generated for a rewrite
  delta sql
  cases q with
  | tableCount name => exact isLine_append.2 ⟨by decide, by decide⟩
  | definitions kind name =>
    dsimp only
    decide
  | definitionsFrom kind start =>
    dsimp only
    decide
  | columns table =>
    dsimp only
    decide
  | declarationCount names =>
    simp only [isLine_append, isLine_toString, and_assoc]
    refine ⟨by decide, by decide, by decide, ?_, by decide⟩
    exact isLine_intercalate (by decide) (List.forall_mem_map.2 fun _ _ => by decide)
  | declarations =>
    simp only [isLine_append, isLine_toString, and_assoc]
    exact ⟨by decide, isLine_intercalate (by decide) (by decide), by decide, by decide⟩
  | relations =>
    simp only [isLine_append, isLine_toString]
    exact ⟨by decide, by decide⟩
  | contentsCount table =>
    simp only [isLine_append, isLine_toString, and_assoc]
    exact ⟨by decide, by decide, by decide⟩
  | contentsTypes table =>
    simp only [isLine_append, isLine_toString, and_assoc]
    exact ⟨by decide, by decide, by decide⟩
  | geometryColumns =>
    simp only [isLine_append, isLine_toString]
    exact ⟨by decide, by decide⟩
  | distinctValues table column =>
    simp only [quotes, List.forall_mem_cons] at h
    simp only [isLine_append, isLine_toString, and_assoc]
    exact ⟨by decide, isLine_quoted h.2.1, by decide, isLine_quoted h.1⟩
  | columnValues table column =>
    simp only [quotes, List.forall_mem_cons] at h
    simp only [isLine_append, isLine_toString, and_assoc]
    exact ⟨by decide, isLine_quoted h.2.1, by decide, isLine_quoted h.1⟩

end Query

/-- A session on a database whose faults are worded on one line. -/
def Session.IsTidy (s : Session) (c : Catalog) : Prop :=
  ∃ looks faults, s = ⟨.database c looks, faults⟩ ∧ ∀ f ∈ faults, f.error.IsLine

/-- A reply is that of the database, and a query without one fails on one line. -/
theorem Session.IsTidy.ask {s : Session} {c : Catalog} {q : Query} {R : q.Reply → Prop}
    (tidy : s.IsTidy c) (quoted : ∀ name ∈ q.quotes, IsLine name)
    (h : ComesTo EngineError.IsLine R (q.answer c)) (d : Deadline) :
    ComesTo Failure.IsLine R (s.ask q d).1 := by
  obtain ⟨looks, faults, rfl, worded⟩ := tidy
  have asked := Query.isLine_sql quoted
  rw [Session.ask]
  generalize Session.deadlineAfter _ q d = d'
  unfold Session.exchange
  simp only
  split
  · rename_i f befallen
    exact .error (Failure.isLine_failure (worded f (Session.mem_of_faultFor befallen)) d'
      asked)
  · split
    · exact .error (Failure.isLine_failure (e := Session.interruptedError)
        (by decide : Text.IsLine "interrupted") d' asked)
    · exact h.mapError fun e line => Failure.isLine_failure line d' asked

namespace Check

variable {α β : Type} {c : Catalog} {R : α → Prop} {S : β → Prop}

/-- A check finds what has a property or fails with what is worded on one line, in whatever way the
database is disturbed. -/
def Yields (c : Catalog) (R : α → Prop) (k : Check α) : Prop :=
  ∀ s : Session, s.IsTidy c → ∀ d, ComesTo Failure.IsLine R (k.run s d).1

/-- A check fails only with what is worded on one line. -/
abbrev FailsOnLine (c : Catalog) (k : Check α) : Prop := k.Yields c fun _ => True

theorem yields_pure {a : α} (h : R a) : (pure a : Check α).Yields c R := fun _ _ _ => .ok h

theorem Yields.bind {k : Check α} {next : α → Check β} (h : k.Yields c R)
    (hn : ∀ a, R a → (next a).Yields c S) : (k >>= next).Yields c S := by
  intro s tidy d
  have first := h s tidy d
  change ComesTo _ _ (run s (k.bind next) d).1
  rw [run_bind]
  generalize k.run s d = x at first ⊢
  obtain ⟨result, d'⟩ := x
  cases first with
  | ok found => exact hn _ found s tidy d'
  | error worded => exact .error worded

theorem yields_reply {q : Query} {R : q.Reply → Prop} (quoted : ∀ name ∈ q.quotes, Text.IsLine name)
    (h : ComesTo EngineError.IsLine R (q.answer c)) : (reply q).Yields c R := by
  intro s tidy d
  have asked := tidy.ask quoted h d
  change ComesTo _ _ (run s (.ask q .done) d).1
  rw [run]
  generalize s.ask q d = x at asked ⊢
  obtain ⟨result, d'⟩ := x
  cases asked with
  | ok found => exact .ok found
  | error worded => exact .error worded

theorem yields_ofExcept {x : Except Misuse α} (h : SucceedsAs R x) : (ofExcept x).Yields c R := by
  intro s _ d
  cases x with
  | ok a => exact .ok (h a rfl)
  | error m => exact .error (Failure.isLine_misuse m)

theorem yields_violate {v : Violation} (h : ∀ value ∈ v.named, value.IsLine) :
    (violate v : Check α).Yields c R := fun _ _ _ => .error (Failure.isLine_violation h)

theorem failsOnLine_require {condition : Bool} {v : Violation}
    (h : ∀ value ∈ v.named, value.IsLine) : (require condition v).FailsOnLine c := by
  cases condition with
  | true => exact yields_pure trivial
  | false => exact yields_violate h

theorem failsOnLine_ofViolation {v : Option Violation}
    (h : ∀ w ∈ v, ∀ value ∈ w.named, value.IsLine) : (ofViolation? v).FailsOnLine c := by
  cases v with
  | none => exact yields_pure trivial
  | some v => exact yields_violate (h v rfl)

theorem failsOnLine_forEach {check : β → Check Unit} {bs : List β}
    (h : ∀ b ∈ bs, (check b).FailsOnLine c) : (forEach check bs).FailsOnLine c := by
  induction bs with
  | nil => exact yields_pure trivial
  | cons b rest ih =>
    obtain ⟨first, others⟩ := List.forall_mem_cons.1 h
    exact Yields.bind first fun _ _ => ih others

/-! ## The elementary checks -/

variable {table column : Value}

theorem yields_nameOf {v : Value} (h : v.IsLine) : (nameOf v).Yields c Text.IsLine := by
  refine yields_ofExcept fun name named => ?_
  unfold Identifier.ofValue at named
  repeat' split at named
  all_goals cases named
  exact h

theorem failsOnLine_nameOf (v : Value) : (nameOf v).FailsOnLine c :=
  yields_ofExcept fun _ _ => trivial

theorem failsOnLine_tableExists (table : Value) : (tableExists table).FailsOnLine c := by
  unfold tableExists
  split
  · exact yields_pure trivial
  · exact (yields_reply (R := fun _ => True) (List.forall_mem_nil _) (.ok trivial)).bind
      fun _ _ => yields_pure trivial

theorem yields_columns (h : c.HoldsLines) (named : table.IsLine) :
    (columns table).Yields c (∀ column ∈ ·, column.HoldsLines) :=
  (yields_nameOf named).bind fun table name =>
    yields_reply (q := .columns table) (List.forall_mem_nil _) (h.columnsOf name)

theorem isLine_of_mem_keyOf {columns : List Column} (h : ∀ column ∈ columns, column.HoldsLines) :
    ∀ name ∈ keyOf columns, Text.IsLine name := by
  refine List.forall_mem_map.2 fun column member => ?_
  have member := (List.mergeSort_perm _ _).mem_iff.1 member
  exact (h column (List.mem_filter.1 member).1).name

theorem yields_primaryKey (h : c.HoldsLines) (named : table.IsLine) :
    (primaryKey table).Yields c (∀ name ∈ ·, Text.IsLine name) :=
  (yields_columns h named).bind fun _ found => yields_pure (isLine_of_mem_keyOf found)

theorem yields_columnValues (h : c.HoldsLines) (named : table.IsLine) (asked : column.IsLine) :
    (columnValues table column).Yields c (∀ v ∈ ·, v.IsLine) :=
  (yields_nameOf asked).bind fun column asked => (yields_nameOf named).bind fun table named =>
    yields_reply (q := .columnValues table column) (by simpa [Query.quotes] using ⟨named, asked⟩)
      (h.quotedColumn named asked)

theorem yields_distinctValues (h : c.HoldsLines) (named : table.IsLine) (asked : column.IsLine) :
    (distinctValues table column).Yields c (∀ v ∈ ·, v.IsLine) :=
  (yields_nameOf asked).bind fun column asked => (yields_nameOf named).bind fun table named =>
    yields_reply (q := .distinctValues table column) (by simpa [Query.quotes] using ⟨named, asked⟩)
      ((h.quotedColumn named asked).map fun _ lines v member =>
        lines v (Value.mem_of_mem_distinctUnder member))

theorem failsOnLine_requireTable (named : table.IsLine) : (requireTable table).FailsOnLine c :=
  (failsOnLine_tableExists table).bind fun _ _ => failsOnLine_require (by simpa [Violation.named])

theorem failsOnLine_requireColumn (h : c.HoldsLines) (named : table.IsLine)
    (asked : column.IsLine) : (requireColumn table column).FailsOnLine c :=
  (yields_columns h named).bind fun _ _ => failsOnLine_require (by
    simp only [Violation.named, List.forall_mem_cons]
    exact ⟨named, asked, by decide, List.forall_mem_nil _⟩)

theorem failsOnLine_requireColumns (h : c.HoldsLines) (named : table.IsLine)
    {expected : List ColumnExpectation} (comparable : ∀ e ∈ expected, e.isComparable = true)
    (lines : ∀ e ∈ expected, ∀ v ∈ e.stated, v.IsLine) :
    (requireColumns table expected).FailsOnLine c := by
  refine (yields_columns h named).bind fun found kept => ?_
  refine Yields.bind (R := fun _ => True) (yields_ofExcept fun _ _ => trivial) fun _ _ => ?_
  refine failsOnLine_require (List.forall_mem_cons.2 ⟨named, ?_⟩)
  refine List.forall_mem_flatMap.2 fun reason member => ?_
  obtain ⟨name, why⟩ := isLine_unmetReasons comparable lines kept reason member
  simpa using ⟨name, why⟩

theorem isLine_keyText {key : List String} (h : ∀ name ∈ key, Text.IsLine name) :
    (keyText key).IsLine := by
  unfold keyText
  split
  · exact Value.isLine_null
  · exact isLine_intercalate (by decide) h

theorem failsOnLine_requirePrimaryKey (h : c.HoldsLines) (named : table.IsLine)
    (asked : column.IsLine) : (requirePrimaryKey table column).FailsOnLine c := by
  refine (failsOnLine_requireTable named).bind fun _ _ => ?_
  refine (yields_primaryKey h named).bind fun key names => failsOnLine_require ?_
  simp only [Violation.named, List.forall_mem_cons]
  exact ⟨named, asked, isLine_keyText names, List.forall_mem_nil _⟩

theorem failsOnLine_requireReferences (h : c.HoldsLines) {mapping idColumn : Value}
    (mapped : mapping.IsLine) (id : idColumn.IsLine) (named : table.IsLine)
    (asked : column.IsLine) : (requireReferences mapping idColumn table column).FailsOnLine c := by
  refine (failsOnLine_requireTable mapped).bind fun _ _ => ?_
  refine (failsOnLine_requireTable named).bind fun _ _ => ?_
  refine (failsOnLine_requireColumn h mapped id).bind fun _ _ => ?_
  refine (failsOnLine_requireColumn h named asked).bind fun _ _ => ?_
  refine (yields_columnValues h named asked).bind fun referenced _ => ?_
  refine (yields_distinctValues h mapped id).bind fun values lines => ?_
  split
  · exact yields_pure trivial
  · rename_i v rest unmatched
    have listed : v ∈ orphans referenced values := unmatched ▸ List.mem_cons_self
    have stored := (List.mem_filter.1 ((Value.sort_perm _).mem_iff.1 listed)).1
    refine yields_violate ?_
    simp only [Violation.named, List.forall_mem_cons]
    exact ⟨mapped, id, lines v stored, List.forall_mem_nil _⟩

end Check

/-! ## The bookkeeping -/

structure Declaration.HoldsLines (d : Declaration) : Prop where
  table : d.table.IsLine
  column : d.column.IsLine
  extensionName : d.extensionName.IsLine
  definition : d.definition.IsLine
  scope : d.scope.IsLine

structure Relation.HoldsLines (r : Relation) : Prop where
  id : r.id.IsLine
  baseTable : r.baseTable.IsLine
  baseColumn : r.baseColumn.IsLine
  relatedTable : r.relatedTable.IsLine
  relatedColumn : r.relatedColumn.IsLine
  name : r.name.IsLine
  mappingTable : r.mappingTable.IsLine

theorem Extent.HoldsLines.declaration {e : Extent} (h : e.HoldsLines) {row : Row}
    (member : row ∈ e.rows) : (Declaration.ofRow row).HoldsLines where
  table := h.getD member 0
  column := h.getD member 1
  extensionName := h.getD member 2
  definition := h.getD member 3
  scope := h.getD member 4

theorem Extent.HoldsLines.field {e : Extent} (h : e.HoldsLines) {row : Row} (member : row ∈ e.rows)
    (name : String) {absent : Value} (default : absent.IsLine) :
    (Relation.field e.columns row name absent).IsLine := by
  unfold Relation.field
  split
  · split
    · exact h.getD member _
    · exact default
  · exact default

theorem Extent.HoldsLines.relation {e : Extent} (h : e.HoldsLines) {row : Row}
    (member : row ∈ e.rows) : (Relation.ofRow e.columns row).HoldsLines where
  id := h.field member _ Value.isLine_null
  baseTable := h.field member _ Value.isLine_null
  baseColumn := h.field member _ (by decide)
  relatedTable := h.field member _ Value.isLine_null
  relatedColumn := h.field member _ (by decide)
  name := h.field member _ Value.isLine_null
  mappingTable := h.field member _ Value.isLine_null

namespace Check

variable {α : Type} {c : Catalog} {table : Value}

theorem failsOnLine_extensionActive (h : c.HoldsLines) (names : List String) :
    (extensionActive names).FailsOnLine c := by
  unfold extensionActive
  split
  · exact yields_pure trivial
  · refine (failsOnLine_tableExists _).bind fun present _ => ?_
    split
    · exact yields_pure trivial
    · refine Yields.bind (yields_reply (q := .declarationCount _) (R := fun _ => True)
        (List.forall_mem_nil _) ?_) fun _ _ => yields_pure trivial
      exact (h.select (by decide) (by decide)).bind fun _ _ => .ok trivial

theorem yields_declarations (h : c.HoldsLines) :
    declarations.Yields c (∀ d ∈ ·, d.HoldsLines) := by
  refine (failsOnLine_tableExists _).bind fun present _ => ?_
  split
  · refine yields_reply (q := .declarations) (List.forall_mem_nil _) ?_
    refine (h.select (by decide) (by decide)).bind fun e kept => .ok ?_
    exact List.forall_mem_map.2 fun row member => kept.declaration member
  · exact yields_pure (List.forall_mem_nil _)

theorem yields_relations (h : c.HoldsLines) : relations.Yields c (∀ r ∈ ·, r.HoldsLines) := by
  refine (failsOnLine_tableExists _).bind fun present _ => ?_
  refine Yields.bind (failsOnLine_require (by decide)) fun _ _ => ?_
  refine yields_reply (q := .relations) (List.forall_mem_nil _)
    ((h.extent (by decide)).bind fun e kept => .ok ?_)
  exact List.forall_mem_map.2 fun row member => kept.relation member

theorem yields_declarationsOf (h : c.HoldsLines) (test : Declaration → Bool) :
    (declarations >>= fun ds => pure (ds.filter test)).Yields c (∀ d ∈ ·, d.HoldsLines) :=
  (yields_declarations h).bind fun _ lines =>
    yields_pure fun d member => lines d (List.mem_filter.1 member).1

theorem failsOnLine_inContents (h : c.HoldsLines) (table : Value) :
    (inContents table).FailsOnLine c := by
  refine (failsOnLine_tableExists _).bind fun present _ => ?_
  split
  · exact yields_pure trivial
  · refine Yields.bind (yields_reply (q := .contentsCount table) (R := fun _ => True)
      (List.forall_mem_nil _) ?_) fun _ _ => yields_pure trivial
    exact (h.select (by decide) (by decide)).bind fun _ _ => .ok trivial

theorem yields_contentsType (h : c.HoldsLines) (table : Value) :
    (contentsType table).Yields c Value.IsLine := by
  refine (failsOnLine_tableExists _).bind fun present _ => ?_
  split
  · exact yields_pure Value.isLine_null
  · refine Yields.bind (yields_reply (q := .contentsTypes table) (R := (∀ v ∈ ·, v.IsLine))
      (List.forall_mem_nil _) ?_) fun types lines => yields_pure ?_
    · refine (h.select (by decide) (by decide)).bind fun e kept => .ok ?_
      exact List.forall_mem_map.2 fun row member => kept.getD (List.mem_filter.1 member).1 0
    · cases types with
      | nil => exact Value.isLine_null
      | cons v rest => exact lines v List.mem_cons_self

theorem yields_geometryColumns (h : c.HoldsLines) :
    geometryColumns.Yields c (∀ p ∈ ·, p.1.IsLine ∧ p.2.IsLine) := by
  refine (failsOnLine_tableExists _).bind fun present _ => ?_
  refine Yields.bind (failsOnLine_require (by decide)) fun _ _ => ?_
  refine yields_reply (q := .geometryColumns) (List.forall_mem_nil _)
    ((h.select (by decide) (by decide)).bind fun e kept => .ok ?_)
  exact List.forall_mem_map.2 fun row member => ⟨kept.getD member 0, kept.getD member 1⟩

theorem yields_indexedGeometryColumns (h : c.HoldsLines) :
    indexedGeometryColumns.Yields c (∀ p ∈ ·, p.1.IsLine ∧ p.2.IsLine) :=
  (yields_declarationsOf h _).bind fun _ _ => (yields_geometryColumns h).bind fun _ lines =>
    yields_pure fun p member => lines p (List.mem_filter.1 member).1

theorem failsOnLine_requireInContents (h : c.HoldsLines) {role : Value} (named : table.IsLine)
    (as : role.IsLine) : (requireInContents table role).FailsOnLine c := by
  refine (failsOnLine_inContents h table).bind fun _ _ => failsOnLine_require ?_
  simp only [Violation.named, List.forall_mem_cons]
  exact ⟨named, as, by decide, List.forall_mem_nil _⟩

end Check

end GeoConformance
