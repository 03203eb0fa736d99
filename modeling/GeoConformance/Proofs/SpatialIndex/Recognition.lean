import GeoConformance.Proofs.Template.Readings
import GeoConformance.SpatialIndex

/-!
# What a text defines

A text that fits the template of a trigger says in its third part which trigger it is, and in one
of the parts that follow, the same for all triggers of its kind, which table the trigger belongs to.
So no text fits two of the seven templates for one column, and none fits the same template for two
tables or columns.
-/

namespace GeoConformance
namespace SpatialIndex

open Template Text

namespace Artifact

/-- What stands between the name of a trigger and that of its table. -/
def clause : Artifact → List Lexeme
  | .virtualTable => []
  | .insertTrigger => [.word "AFTER".toList, .word "INSERT".toList, .word "ON".toList]
  | .updateTrigger4 => [.word "AFTER".toList, .word "UPDATE".toList, .word "ON".toList]
  | .deleteTrigger => [.word "AFTER".toList, .word "DELETE".toList, .word "ON".toList]
  | .updateTrigger1 | .updateTrigger2 | .updateTrigger3 =>
    [.word "AFTER".toList, .word "UPDATE".toList, .word "OF".toList, .placeholder ['c'],
      .word "ON".toList]

/-- How the template of a trigger begins. -/
def opening (a : Artifact) : List Lexeme :=
  .word "CREATE".toList :: .word "TRIGGER".toList :: .placeholder "trigger".toList ::
    (a.clause ++ [.placeholder ['t'], .word "WHEN".toList])

/-- Whether a placeholder stands for something in the template of an artifact. -/
def binds (a : Artifact) : Lexeme → Bool
  | .placeholder name =>
    [['t'], ['c'], "rtree".toList, ['i']].contains name ||
      (a != .virtualTable && name == "trigger".toList)
  | _ => true

/-- What is relied upon of the lexemes of a template. -/
structure Outline (a : Artifact) (ls : List Lexeme) : Prop where
  opens : (if a = .virtualTable then [.word "CREATE".toList, .word "VIRTUAL".toList]
    else a.opening) <+: ls
  bound : ls.all a.binds = true
  key : a ≠ .virtualTable → .placeholder ['i'] ∈ ls
  ends : ls.getLast? = some (if a = .virtualTable then .mark ')' else .word "END".toList)

instance (a : Artifact) (ls : List Lexeme) : Decidable (a.Outline ls) :=
  decidable_of_iff (_ ∧ _ ∧ _ ∧ _)
    ⟨fun ⟨opens, bound, key, ends⟩ => ⟨opens, bound, key, ends⟩,
      fun ⟨opens, bound, key, ends⟩ => ⟨opens, bound, key, ends⟩⟩

/-- The only place in which the templates are taken apart. -/
theorem outline (a : Artifact) : a.Outline (lexemes a.text) := by
  cases a <;> unfold text <;> simp only [lexemes, String.toList_append] <;> decide +kernel

theorem opening_isPrefix {a : Artifact} (trigger : a ≠ .virtualTable) :
    a.opening <+: lexemes a.text := by
  have opens := a.outline.opens
  rwa [if_neg trigger] at opens

theorem virtualTable_isPrefix :
    [.word "CREATE".toList, .word "VIRTUAL".toList] <+: lexemes virtualTable.text :=
  virtualTable.outline.opens

theorem diverges_suffix {a b : Artifact} (different : a ≠ b) (trigger : a ≠ .virtualTable)
    (trigger' : b ≠ .virtualTable) :
    diverges (a.suffix?.getD "").toList (b.suffix?.getD "").toList = true := by
  revert different trigger trigger'
  cases a <;> cases b <;> decide +kernel

end Artifact

namespace Requirement

variable {r : Requirement} {sql : Option String}

/-- The text that is held against a template. -/
def held (sql : Option String) : List Char := (trim (sql.getD "")).toList

theorem exists_written {front : List Lexeme} (met : r.isMetBy sql = true)
    (begins : front <+: lexemes r.artifact.text) :
    ∃ ts us, List.Forall₂ (Stands r.binding) front ts ∧ Written Alike (ts ++ us) (held sql) := by
  obtain ⟨text, rfl, fitting⟩ : ∃ text, sql = some text ∧
      fits r.artifact.text r.binding (trim text) = true := by
    cases sql with
    | none => cases met
    | some text => exact ⟨text, rfl, met⟩
  obtain ⟨back, whole⟩ := begins
  unfold fits at fitting
  split at fitting
  case h_2 => cases fitting
  case h_1 ts bound =>
    rw [tokens_eq_ok, ← whole] at bound
    obtain ⟨ts, us, rfl, stand, -⟩ := exists_append_of_forall₂ bound
    exact ⟨ts, us, stand, accepts_iff.1 fitting⟩

theorem toList_name (trigger : r.artifact ≠ .virtualTable) :
    r.name.toList = ("rtree_".toList ++ r.table.toList) ++ (['_'] ++
      (r.column.toList ++ '_' :: (r.artifact.suffix?.getD "").toList)) := by
  have name_eq : r.name = indexName r.table r.column ++ "_" ++ r.artifact.suffix?.getD "" := by
    obtain ⟨artifact, table, column⟩ := r
    cases artifact
    case virtualTable => exact absurd rfl trigger
    all_goals rfl
  rw [name_eq, indexName_eq]
  simp [String.toList_append]

theorem exists_toList_name (trigger : r.artifact ≠ .virtualTable) :
    ∃ rest, r.name.toList = 'r' :: rest := by
  rw [toList_name trigger]
  exact ⟨_, rfl⟩

theorem stands_table {t : Token} (h : Stands r.binding (.placeholder ['t']) t) :
    t = .name r.table.toList := by
  have bound := token?_eq_some.2 h
  cases bound
  rfl

theorem stands_trigger {t : Token} (trigger : r.artifact ≠ .virtualTable)
    (h : Stands r.binding (.placeholder "trigger".toList) t) : t = .name r.name.toList := by
  have bound := token?_eq_some.2 h
  obtain ⟨artifact, table, column⟩ := r
  cases artifact
  case virtualTable => exact absurd rfl trigger
  all_goals
    cases bound
    rfl

/-- A text that fits the template of a trigger names the trigger and then, behind the event, the
table. -/
theorem exists_written_trigger (trigger : r.artifact ≠ .virtualTable) (met : r.isMetBy sql = true) :
    ∃ clause us, List.Forall₂ (Stands r.binding) r.artifact.clause clause ∧
      Written Alike (.word "CREATE".toList :: .word "TRIGGER".toList :: .name r.name.toList ::
        (clause ++ .name r.table.toList :: .word "WHEN".toList :: us)) (held sql) := by
  obtain ⟨ts, us, stand, written⟩ := exists_written met (Artifact.opening_isPrefix trigger)
  unfold Artifact.opening at stand
  rcases stand with _ | ⟨create, _ | ⟨kind, _ | ⟨named, follows⟩⟩⟩
  cases create
  cases kind
  rw [stands_trigger trigger named] at written
  obtain ⟨clause, _, rfl, clauseStands, onTable⟩ := exists_append_of_forall₂ follows
  rcases onTable with _ | ⟨ofTable, _ | ⟨condition, nothing⟩⟩
  cases condition
  cases nothing
  rw [stands_table ofTable] at written
  refine ⟨clause, us, clauseStands, ?_⟩
  simpa using written

/-- The third part of the text of a trigger begins with its name. -/
theorem exists_spelling_name (trigger : r.artifact ≠ .virtualTable) (met : r.isMetBy sql = true) :
    ∃ x rest, (afterParts 2 (held sql)).dropWhile isBlank = x ++ rest ∧
      Spelling Alike (.name r.name.toList) x := by
  obtain ⟨clause, us, -, written⟩ := exists_written_trigger trigger met
  obtain ⟨-, t, written⟩ := written.parts (.word "CREATE".toList) [.word "TRIGGER".toList]
    (by decide +kernel) trivial
  obtain ⟨rest, starts⟩ := exists_toList_name trigger
  exact written.exists_append ⟨'r', rest, starts, by decide⟩

/-- The second part of a text tells triggers from virtual tables. -/
theorem exists_spelling_kind (met : r.isMetBy sql = true) :
    ∃ x rest, (afterParts 1 (held sql)).dropWhile isBlank = x ++ rest ∧
      AllAlike (if r.artifact = .virtualTable then "VIRTUAL" else "TRIGGER").toList x := by
  have second {w : String} {us : List Token} (visible : StartsVisibly (.word w.toList))
      (written : Written Alike (.word "CREATE".toList :: .word w.toList :: us) (held sql)) :
      ∃ x rest, (afterParts 1 (held sql)).dropWhile isBlank = x ++ rest ∧ AllAlike w.toList x := by
    obtain ⟨-, t, written⟩ := written.parts (.word "CREATE".toList) [] (by decide +kernel) trivial
    obtain ⟨x, rest, starts, spelled⟩ := written.exists_append visible
    cases spelled with
    | word same => exact ⟨x, rest, starts, same⟩
  split
  case isTrue virtual =>
    obtain ⟨ts, us, stand, written⟩ := exists_written met
      (virtual ▸ Artifact.virtualTable_isPrefix)
    rcases stand with _ | ⟨create, _ | ⟨kind, nothing⟩⟩
    cases create
    cases kind
    cases nothing
    exact second ⟨'V', _, rfl, by decide⟩ written
  case isFalse trigger =>
    obtain ⟨clause, us, -, written⟩ := exists_written_trigger trigger met
    exact second ⟨'T', _, rfl, by decide⟩ written

end Requirement

variable {table column : String} {sql : Option String} {a b : Artifact}

/-- The names of the triggers of one index diverge after the name of the index. -/
theorem diverges_name (different : a ≠ b) (trigger : a ≠ .virtualTable)
    (trigger' : b ≠ .virtualTable) :
    diverges (⟨a, table, column⟩ : Requirement).name.toList
      (⟨b, table, column⟩ : Requirement).name.toList = true := by
  rw [Requirement.toList_name trigger, Requirement.toList_name trigger', diverges_append_left,
    diverges_append_left, diverges_append_left]
  simpa [diverges] using Artifact.diverges_suffix different trigger trigger'

/-- The second part of a text that defines a virtual table is that of no trigger. -/
theorem eq_virtualTable (ha : (⟨a, table, column⟩ : Requirement).isMetBy sql = true)
    (hb : (⟨b, table, column⟩ : Requirement).isMetBy sql = true) (virtual : a = .virtualTable) :
    b = .virtualTable := by
  by_contra trigger
  obtain ⟨x, rest, starts, kind⟩ := Requirement.exists_spelling_kind ha
  obtain ⟨x', rest', starts', kind'⟩ := Requirement.exists_spelling_kind hb
  rw [if_pos virtual] at kind
  rw [if_neg trigger] at kind'
  exact append_ne_of_diverges (by decide +kernel) kind kind' (starts.symm.trans starts')

/-- A text can define at most one of the artifacts of a column. -/
theorem artifact_unique (ha : (⟨a, table, column⟩ : Requirement).isMetBy sql = true)
    (hb : (⟨b, table, column⟩ : Requirement).isMetBy sql = true) : a = b := by
  by_cases trigger : a = .virtualTable
  · exact trigger.trans (eq_virtualTable ha hb trigger).symm
  · by_contra different
    have trigger' : b ≠ .virtualTable := fun virtual => trigger (eq_virtualTable hb ha virtual)
    obtain ⟨x, rest, starts, named⟩ := Requirement.exists_spelling_name trigger ha
    obtain ⟨x', rest', starts', named'⟩ := Requirement.exists_spelling_name trigger' hb
    obtain ⟨n, bare⟩ := Requirement.exists_toList_name (r := ⟨a, table, column⟩) trigger
    obtain ⟨n', bare'⟩ := Requirement.exists_toList_name (r := ⟨b, table, column⟩) trigger'
    exact Spelling.append_ne (diverges_name different trigger trigger') ⟨'r', n, bare, by decide⟩
      ⟨'r', n', bare', by decide⟩ named named' (starts.symm.trans starts')

theorem Requirement.exists_tokens (r : Requirement) :
    ∃ ts, tokens r.artifact.text r.binding = .ok ts := by
  rw [exists_tokens_iff]
  intro name member
  have bound := List.all_eq_true.1 r.artifact.outline.bound _ member
  simp only [Artifact.binds, Bool.or_eq_true, Bool.and_eq_true, List.contains_iff_mem,
    List.mem_cons, List.not_mem_nil, or_false, bne_iff_ne, beq_iff_eq] at bound
  rcases bound with (rfl | rfl | rfl | rfl) | ⟨trigger, rfl⟩
  · exact ⟨_, .table⟩
  · exact ⟨_, .column⟩
  · exact ⟨_, .index⟩
  · exact ⟨_, .anyIdentifier⟩
  · have named : r.binding.trigger = some r.name := by
      obtain ⟨artifact, table, column⟩ := r
      cases artifact
      case virtualTable => exact absurd rfl trigger
      all_goals rfl
    exact ⟨_, .trigger named⟩

theorem Requirement.isMetBy_some {r : Requirement} {ts : List Token}
    (bound : tokens r.artifact.text r.binding = .ok ts) (sql : String) :
    r.isMetBy (some sql) = accepts ts (trimBlanks sql.toList) := by
  rw [isMetBy, Option.any_some, fits, bound, trim]
  simp only [String.toList_ofList]

theorem trimBlanks_eq_self {c d : Char} {s : List Char} (first : isBlank c = false)
    (last : isBlank d = false) : trimBlanks (c :: (s ++ [d])) = c :: (s ++ [d]) := by
  simp [trimBlanks, trimClass, first, last]

theorem Artifact.create_isPrefix (a : Artifact) : [.word "CREATE".toList] <+: lexemes a.text := by
  by_cases trigger : a = .virtualTable
  · subst trigger
    exact (List.prefix_append _ _).trans virtualTable_isPrefix
  · exact (List.prefix_append _ _).trans (opening_isPrefix trigger)

namespace Requirement

/-- A way to read a generating text along the template of an artifact. -/
def Reads (r : Requirement) (sql : String) (xs : List (List Char)) : Prop :=
  ∃ ts, tokens r.artifact.text r.binding = .ok ts ∧ Template.Reads ts xs (trimBlanks sql.toList)

variable {r : Requirement}

theorem isMetBy_iff_exists_reads {sql : String} :
    r.isMetBy (some sql) = true ↔ ∃ xs, r.Reads sql xs := by
  obtain ⟨ts, bound⟩ := r.exists_tokens
  rw [isMetBy_some bound, accepts_iff, ← exists_reads_iff]
  constructor
  · intro h
    obtain ⟨xs, reads⟩ := h
    exact ⟨xs, ts, bound, reads⟩
  · intro h
    obtain ⟨xs, ts', bound', reads⟩ := h
    rw [bound] at bound'
    cases bound'
    exact ⟨xs, reads⟩

/-- The template begins with a word, so that nothing is trimmed away. -/
theorem reads_sentence {ts : List Token} {xs : List (List Char)}
    (bound : tokens r.artifact.text r.binding = .ok ts)
    (spelled : List.Forall₂ (Spelling Alike) ts xs) :
    r.Reads (String.ofList (sentence xs)) xs := by
  obtain ⟨back, whole⟩ := r.artifact.create_isPrefix
  have stand := tokens_eq_ok.1 bound
  rw [← whole] at stand
  rcases stand with _ | ⟨create, rest⟩
  cases create
  cases spelled with
  | @cons _ x _ xs word spelled =>
    obtain ⟨c, y, rfl, visible⟩ :=
      StartsVisibly.spelling (t := .word "CREATE".toList) ⟨'C', _, rfl, by decide⟩ word
    obtain ⟨front, ends⟩ := exists_sentenceAfter xs
    have trimmed : trimBlanks (sentence ((c :: y) :: xs)) = sentence ((c :: y) :: xs) := by
      rw [sentence, ends, List.cons_append, ← List.append_assoc]
      exact trimBlanks_eq_self visible (by decide)
    refine ⟨_, bound, ?_⟩
    simp only [String.toList_ofList, trimmed]
    exact Template.reads_sentence (.cons word spelled)

/-- The text that has each word and name of a template as it stands, with a blank between any
two. -/
def canonicalText (r : Requirement) : String :=
  match tokens r.artifact.text r.binding with
  | .ok ts => String.ofList (sentence (ts.map (Token.spelledWith ['i'])))
  | .error _ => ""

theorem isMetBy_canonicalText (r : Requirement) : r.isMetBy (some r.canonicalText) = true := by
  obtain ⟨ts, bound⟩ := r.exists_tokens
  have key : Spelling Alike .anyIdentifier ['i'] :=
    .identifier (by simp) (by decide +kernel)
  rw [canonicalText, bound]
  exact isMetBy_iff_exists_reads.2 ⟨_, reads_sentence bound (forall₂_spelledWith key ts)⟩

/-- Whatever the names of a column and its table, each of the artifacts can be written. -/
theorem exists_isMetBy (r : Requirement) : ∃ sql, r.isMetBy sql = true :=
  ⟨_, r.isMetBy_canonicalText⟩

end Requirement

/-- However a text is written, it fits at most one of the seven templates for a column, whatever the
names of the column and its table; and each of the seven is fitted by some text. -/
theorem templates_disjoint (table column : String) :
    (∀ sql, (Artifact.all.filter fun a =>
      (⟨a, table, column⟩ : Requirement).isMetBy sql).length ≤ 1) ∧
    ∀ a, ∃ sql, (⟨a, table, column⟩ : Requirement).isMetBy sql = true := by
  refine ⟨fun sql => ?_, fun a => Requirement.exists_isMetBy _⟩
  have once : Artifact.all.Nodup := by decide
  have distinct := once.filter fun a => (⟨a, table, column⟩ : Requirement).isMetBy sql
  cases found : Artifact.all.filter fun a => (⟨a, table, column⟩ : Requirement).isMetBy sql with
  | nil => exact Nat.zero_le 1
  | cons a rest =>
    cases rest with
    | nil => exact Nat.le_refl 1
    | cons b rest =>
      have met : ∀ e ∈ a :: b :: rest, (⟨e, table, column⟩ : Requirement).isMetBy sql = true := by
        intro e he
        rw [← found] at he
        exact (List.mem_filter.1 he).2
      rw [found] at distinct
      have different := (List.pairwise_cons.1 distinct).1 b List.mem_cons_self
      exact absurd (artifact_unique (met a (by simp)) (met b (by simp))) different

section Names

/-- A name that is one word. -/
def IsWord (name : String) : Prop := name.toList ≠ [] ∧ AllWord name.toList

theorem IsWord.isPart {name : String} (h : IsWord name) : IsPart (.name name.toList) :=
  ⟨h.1, h.2.noBlank⟩

theorem isWord_name {r : Requirement} (trigger : r.artifact ≠ .virtualTable)
    (table : IsWord r.table) (column : IsWord r.column) : IsWord r.name := by
  have suffix : AllWord ('_' :: (r.artifact.suffix?.getD "").toList) := by
    cases r.artifact <;> decide +kernel
  have start : AllWord "rtree_".toList := by decide +kernel
  have joint : AllWord ['_'] := by simp [AllWord, isWordChar_underscore]
  obtain ⟨rest, starts⟩ := Requirement.exists_toList_name trigger
  refine ⟨by simp [starts], ?_⟩
  rw [Requirement.toList_name trigger]
  exact (start.append table.2).append (joint.append (column.2.append suffix))

theorem isPart_of_mem_clause {a : Artifact} {b : Binding} {l : Lexeme} {t : Token}
    (hl : l ∈ a.clause) (column : IsPart (.name b.column.toList)) (h : Stands b l t) :
    IsPart t := by
  have kinds : ∀ l ∈ a.clause, l = .placeholder ['c'] ∨
      ∃ w ∈ ["AFTER", "INSERT", "UPDATE", "DELETE", "OF", "ON"], l = .word w.toList := by
    cases a <;> decide
  have words : ∀ w ∈ ["AFTER", "INSERT", "UPDATE", "DELETE", "OF", "ON"],
      IsPart (.word w.toList) := by decide +kernel
  rcases kinds l hl with rfl | ⟨w, hw, rfl⟩
  · have bound := token?_eq_some.2 h
    cases bound
    exact column
  · cases h
    exact words w hw

/-- All that the template of a trigger says up to the name of the table is spelled part by part. -/
theorem exists_spelling_parts {r : Requirement} {sql : Option String}
    (trigger : r.artifact ≠ .virtualTable) (table : IsWord r.table) (column : IsWord r.column)
    (met : r.isMetBy sql = true) :
    ∃ clause, clause.length = r.artifact.clause.length ∧
      List.Forall₂ (Spelling Alike) (.word "CREATE".toList :: .word "TRIGGER".toList ::
        .name r.name.toList :: (clause ++ [.name r.table.toList]))
        (parts (r.artifact.clause.length + 4) (Requirement.held sql)) := by
  obtain ⟨clause, us, stand, written⟩ := Requirement.exists_written_trigger trigger met
  have apart : ∀ v ∈ Token.word "CREATE".toList :: .word "TRIGGER".toList ::
      .name r.name.toList :: (clause ++ [.name r.table.toList]), IsPart v := by
    have ofClause : ∀ v ∈ clause, IsPart v :=
      forall_mem_of_forall₂ stand fun l hl v => isPart_of_mem_clause hl column.isPart
    refine List.forall_mem_cons.2 ⟨by decide +kernel, List.forall_mem_cons.2 ⟨by decide +kernel,
      List.forall_mem_cons.2 ⟨(isWord_name trigger table column).isPart,
        List.forall_mem_append.2 ⟨ofClause, List.forall_mem_singleton.2 table.isPart⟩⟩⟩⟩
  have divided : Written Alike (.word "CREATE".toList :: ((.word "TRIGGER".toList ::
      .name r.name.toList :: (clause ++ [.name r.table.toList])) ++ .word "WHEN".toList :: us))
      (Requirement.held sql) := by simpa using written
  obtain ⟨spelled, -⟩ := divided.parts _ _ apart trivial
  refine ⟨clause, stand.length_eq.symm, ?_⟩
  simpa [stand.length_eq] using spelled

/-- A text that fits the template of a trigger for two columns fits it for one column, up to case:
whoever writes a trigger for another table or another column does not get past the template. -/
theorem names_allAlike {a : Artifact} {t c t' c' : String} {sql : Option String}
    (trigger : a ≠ .virtualTable) (table : IsWord t) (column : IsWord c) (table' : IsWord t')
    (column' : IsWord c') (met : (⟨a, t, c⟩ : Requirement).isMetBy sql = true)
    (met' : (⟨a, t', c'⟩ : Requirement).isMetBy sql = true) :
    AllAlike t.toList t'.toList ∧ AllAlike c.toList c'.toList := by
  obtain ⟨clause, length, spelled⟩ :=
    exists_spelling_parts (r := ⟨a, t, c⟩) trigger table column met
  obtain ⟨clause', length', spelled'⟩ :=
    exists_spelling_parts (r := ⟨a, t', c'⟩) trigger table' column' met'
  rcases forall₂_common spelled spelled' with
    _ | ⟨-, _ | ⟨-, _ | ⟨⟨x, named, named'⟩, rest⟩⟩⟩
  obtain ⟨-, last⟩ := forall₂_of_append rest (length.trans length'.symm)
  rcases last with _ | ⟨⟨y, ofTable, ofTable'⟩, -⟩
  have tables := Spelling.allAlike table.2 table'.2 table.1 table'.1 ofTable ofTable'
  have word := isWord_name (r := ⟨a, t, c⟩) trigger table column
  have word' := isWord_name (r := ⟨a, t', c'⟩) trigger table' column'
  have names := Spelling.allAlike word.2 word'.2 word.1 word'.1 named named'
  rw [Requirement.toList_name (r := ⟨a, t, c⟩) trigger,
    Requirement.toList_name (r := ⟨a, t', c'⟩) trigger] at names
  -- what precedes the columns has the same length in both names, and so has what follows them
  obtain ⟨-, behindTable⟩ := forall₂_of_append names (by simp [tables.length_eq])
  obtain ⟨-, behindMark⟩ := forall₂_of_append behindTable rfl
  have length : c.toList.length = c'.toList.length := by simpa using behindMark.length_eq
  exact ⟨tables, (forall₂_of_append behindMark length).1⟩

/-- The text of a trigger that takes the geometry of a deleted row out of an index. -/
def deletionText : String :=
  "create trigger RTREE_a_b_c_Delete after delete on A_b when old.\"C\" notnull begin" ++
    " delete from rtree_a_b_c where i=old.i;end"

/-- The name of the index is the same for the column `b_c` of the table `a`, but the text is not one
for that column. -/
theorem deletionText_recognized :
    (∀ name ∈ ["a_b", "c", "A_B", "C", "a", "b_c"], IsWord name) ∧
      (⟨.deleteTrigger, "a_b", "c"⟩ : Requirement).isMetBy (some deletionText) = true ∧
      (⟨.deleteTrigger, "A_B", "C"⟩ : Requirement).isMetBy (some deletionText) = true ∧
      (AllAlike "a_b".toList "A_B".toList ∧ AllAlike "c".toList "C".toList) ∧
      indexName "a_b" "c" = indexName "a" "b_c" ∧
      ¬ (⟨.deleteTrigger, "a", "b_c"⟩ : Requirement).isMetBy (some deletionText) = true := by
  have word : ∀ name ∈ ["a_b", "c", "A_B", "C", "a", "b_c"], IsWord name := by
    unfold IsWord
    decide +kernel
  have met : (⟨.deleteTrigger, "a_b", "c"⟩ : Requirement).isMetBy (some deletionText) = true := by
    decide +kernel
  have met' : (⟨.deleteTrigger, "A_B", "C"⟩ : Requirement).isMetBy (some deletionText) = true := by
    decide +kernel
  have same := names_allAlike (by decide) (word "a_b" (by simp)) (word "c" (by simp))
    (word "A_B" (by simp)) (word "C" (by simp)) met met'
  refine ⟨word, met, met', same, by decide, fun other => ?_⟩
  have names := names_allAlike (by decide) (word "a_b" (by simp)) (word "c" (by simp))
    (word "a" (by simp)) (word "b_c" (by simp)) met other
  exact absurd names.1.length_eq (by decide)

end Names

end SpatialIndex
end GeoConformance
