import GeoConformance.Proofs.Numerals
import GeoConformance.Violation

/-!
# Texts of one line

Numbers, nulls and bytes are shown on one line whatever they are; only texts can bring a line end
into a message. So every violation of values that are shown on one line is worded on one line.
-/

namespace GeoConformance

namespace Text

/-- A text without a line end. -/
def IsLine (s : String) : Prop := '\n' ∉ s.toList

instance (s : String) : Decidable (IsLine s) := inferInstanceAs (Decidable (_ ∉ _))

@[simp] theorem isLine_append {s t : String} : IsLine (s ++ t) ↔ IsLine s ∧ IsLine t := by
  simp [IsLine]

@[simp] theorem isLine_toString {s : String} : IsLine (toString s) ↔ IsLine s := Iff.rfl

theorem isLine_ofList {s : List Char} : IsLine (String.ofList s) ↔ '\n' ∉ s := by
  simp [IsLine]

theorem isLine_intercalate {separator : String} (h : IsLine separator) {parts : List String}
    (k : ∀ s ∈ parts, IsLine s) : IsLine (separator.intercalate parts) := by
  induction parts with
  | nil => exact List.not_mem_nil
  | cons s rest ih =>
    obtain ⟨first, others⟩ := List.forall_mem_cons.1 k
    cases rest with
    | nil => rwa [String.intercalate_singleton]
    | cons t rest =>
      rw [String.intercalate_cons_cons, isLine_append, isLine_append]
      exact ⟨⟨first, h⟩, ih others⟩

/-! ## Numbers -/

theorem not_mem_toDigits (n : Nat) : '\n' ∉ Nat.toDigits 10 n := by
  intro member
  cases Nat.isDigit_of_mem_toDigits (by decide) (by decide) member

theorem not_mem_zeros (n : Nat) : '\n' ∉ Real64.zeros n := by
  simp [Real64.zeros]

@[simp] theorem isLine_toString_nat (n : Nat) : IsLine (toString n) := by
  rw [IsLine, Nat.toString_eq_repr, Nat.toList_repr]
  exact not_mem_toDigits n

@[simp] theorem isLine_toString_int (n : Int) : IsLine (toString n) := by
  rw [IsLine, Numeral.toList_toString]
  split <;> simp [not_mem_toDigits]

theorem not_mem_positional {digits : List Char} (h : '\n' ∉ digits) (point : Int) :
    '\n' ∉ Real64.positional digits point := by
  have taken : '\n' ∉ digits.take point.toNat := mt List.mem_of_mem_take h
  have dropped : '\n' ∉ digits.drop point.toNat := mt List.mem_of_mem_drop h
  unfold Real64.positional
  split
  · simp [h, not_mem_zeros]
  · split
    · simp [h, not_mem_zeros]
    · simp [taken, dropped]

theorem not_mem_exponential (width : Nat) {digits : List Char} (h : '\n' ∉ digits)
    (exponent : Int) : '\n' ∉ Real64.exponential width digits exponent := by
  have taken : '\n' ∉ digits.take 1 := mt List.mem_of_mem_take h
  have dropped : '\n' ∉ digits.drop 1 := mt List.mem_of_mem_drop h
  have sign : '\n' ≠ if exponent < 0 then '-' else '+' := by split <;> decide
  unfold Real64.exponential
  cases rest : digits.drop 1 with
  | nil => simp [taken, sign, not_mem_zeros, not_mem_toDigits]
  | cons c more =>
    rw [rest, List.mem_cons, not_or] at dropped
    simp [taken, dropped, sign, not_mem_zeros, not_mem_toDigits]

theorem not_mem_magnitudeText (q : Rat) : '\n' ∉ Real64.magnitudeText q := by
  unfold Real64.magnitudeText
  split
  · decide
  · have kept (n : Nat) : '\n' ∉ ((Nat.toDigits 10 n).reverse.dropWhile (· == '0')).reverse := by
      intro member
      have member := List.dropWhile_subset _ (List.mem_reverse.1 member)
      exact not_mem_toDigits n (List.mem_reverse.1 member)
    simp only
    split
    · exact not_mem_positional (kept _) _
    · exact not_mem_exponential _ (kept _) _

theorem isLine_real (x : Real64) : IsLine x.text := by
  cases x with
  | nan => decide
  | infinity negative => cases negative <;> decide
  | finite negative q =>
    rw [Real64.text, isLine_ofList]
    cases negative <;> simp [not_mem_magnitudeText]

theorem isLine_number (n : Number) : IsLine n.text := by
  cases n with
  | flag b => cases b <;> decide
  | int n => exact isLine_toString_int n
  | real x => exact isLine_real x

/-! ## Bytes -/

theorem not_mem_hexDigits (width n : Nat) : '\n' ∉ hexDigits width n := by
  induction width generalizing n with
  | zero => exact List.not_mem_nil
  | succ width ih =>
    have digit : ∀ d < 16, '\n' ≠ hexDigit d := by decide
    rw [hexDigits, List.mem_append, List.mem_singleton, not_or]
    exact ⟨ih _, digit _ (Nat.mod_lt n (by decide))⟩

theorem not_mem_codeEscape (n : Nat) : '\n' ∉ codeEscape n := by
  unfold codeEscape
  split
  · simp [not_mem_hexDigits]
  · split <;> simp [not_mem_hexDigits]

theorem not_mem_shortEscape {quote c : Char} (h : quote ≠ '\n') {escaped : List Char}
    (short : shortEscape? quote c = some escaped) : '\n' ∉ escaped := by
  unfold shortEscape? at short
  split at short
  · rename_i marked
    cases short
    rcases marked with rfl | rfl
    · decide
    · simp [h.symm]
  · repeat' split at short
    all_goals cases short
    all_goals decide

theorem not_mem_literalByte {quote : Char} (h : quote ≠ '\n') (c : Char) :
    '\n' ∉ literalByte quote c := by
  unfold literalByte
  cases short : shortEscape? quote c with
  | some escaped => exact not_mem_shortEscape h short
  | none =>
    rw [Option.getD_none]
    split
    · rename_i printable
      rw [List.mem_singleton]
      rintro rfl
      exact absurd printable.1 (by decide)
    · exact not_mem_codeEscape _

theorem enclosing_ne (content : List Char) : enclosing content ≠ '\n' := by
  unfold enclosing
  split <;> decide

theorem isLine_bytesLiteral (bytes : List UInt8) : IsLine (bytesLiteral bytes) := by
  have quote := enclosing_ne (bytes.map fun b => Char.ofNat b.toNat)
  rw [bytesLiteral, isLine_ofList]
  simp only [List.mem_cons, List.mem_append, List.mem_flatMap, List.not_mem_nil, or_false, not_or,
    not_exists, not_and, List.cons_append]
  exact ⟨by decide, quote.symm, fun c _ => not_mem_literalByte quote c, quote.symm⟩

end Text

open Text

/-! ## Values and what is said of them -/

namespace Value

/-- Shown without a line end. -/
def IsLine (v : Value) : Prop := Text.IsLine v.shown

instance (v : Value) : Decidable v.IsLine := inferInstanceAs (Decidable (Text.IsLine _))

@[simp] theorem isLine_text {s : String} : (text s).IsLine ↔ Text.IsLine s := Iff.rfl

@[simp] theorem isLine_null : null.IsLine := by decide

@[simp] theorem isLine_number (n : Number) : (number n).IsLine := Text.isLine_number n

@[simp] theorem isLine_blob (bytes : List UInt8) : (blob bytes).IsLine :=
  Text.isLine_bytesLiteral bytes

/-- Only texts can be shown on more than one line. -/
theorem isLine_iff {v : Value} : v.IsLine ↔ ∀ s, v = text s → Text.IsLine s := by
  cases v <;> simp

end Value

namespace Violation

/-- The values that a violation names in its message. -/
def named : Violation → List Value
  | .general message expected actual => [.text message, expected, actual]
  | .missingTable table => [table]
  | .schema table _ reasons =>
    table :: reasons.flatMap fun (name, why) => [.text name, .text why]
  | .notPrimaryKey table expected actual => [table, expected, actual]
  | .orphanReference mappingTable idColumn value _ _ => [mappingTable, idColumn, value]
  | .notInContents table role source => [table, role, source]
  | .triggerDefinition artifact table _ => [artifact, table]
  | .extensionRow what extension => [what, extension]
  | .relationName name baseTable => [name, baseTable]
  | .invalidReference table column => [table, column]
  | .illegalScope extension expected actual => [extension, expected, actual]
  | .columnShape table column reason => [table, column, reason]
  | .contentsType table expected actual => [table, expected, actual]

theorem isLine_maskText (mask : Int) : Text.IsLine (maskText mask) := by
  have digits : '\n' ∉ Nat.toDigits 2 mask.natAbs := by
    intro member
    cases Nat.isDigit_of_mem_toDigits (by decide) (by decide) member
  rw [maskText, isLine_append, isLine_ofList]
  exact ⟨by split <;> decide, digits⟩

theorem isLine_reasons {reasons : List (String × String)}
    (h : ∀ value ∈ reasons.flatMap fun (name, why) => [Value.text name, .text why], value.IsLine) :
    Text.IsLine ("; ".intercalate (reasons.map fun (name, why) => s!"{name}: {why}")) := by
  refine isLine_intercalate (by decide) (List.forall_mem_map.2 fun (name, why) member => ?_)
  have named := h (.text name) (List.mem_flatMap.2 ⟨_, member, by simp⟩)
  have explained := h (.text why) (List.mem_flatMap.2 ⟨_, member, by simp⟩)
  simp only [isLine_append, isLine_toString, and_assoc]
  exact ⟨named, by decide, explained⟩

/-- A violation is worded on one line if everything that it names is shown on one. -/
theorem isLine_message {v : Violation} (h : ∀ value ∈ v.named, value.IsLine) :
    Text.IsLine v.message := by
  -- the equations of `message` are too costly to be generated for a rewrite
  cases v <;> simp only [named, List.forall_mem_cons] at h <;> delta message <;>
    simp only [isLine_append, isLine_toString, and_assoc]
  case general => exact h.1
  case missingTable => exact ⟨by decide, h.1, by decide⟩
  case schema => exact ⟨by decide, h.1, by decide, isLine_maskText _, by decide, isLine_reasons h.2⟩
  case notPrimaryKey => exact ⟨by decide, h.2.1, by decide, h.1, by decide⟩
  case orphanReference mappingTable idColumn value referencedTable orphans =>
    obtain ⟨mapping, id, shown, -⟩ := h
    have role : Text.IsLine (if idColumn.same (.text "base_id") then "base" else "related") := by
      split <;> decide
    split <;> simp only [isLine_append, isLine_toString, isLine_toString_nat, and_assoc]
    · exact ⟨by decide, role, by decide, mapping, by decide, shown, by decide, by decide, trivial,
        by decide, id, by decide⟩
    · exact ⟨by decide, role, by decide, mapping, by decide, shown, by decide⟩
  case notInContents =>
    obtain ⟨table, role, source, -⟩ := h
    refine ⟨?_, by decide, table, by decide, source, by decide⟩
    split
    · simp only [isLine_append, isLine_toString, and_assoc]
      exact ⟨by decide, role, by decide⟩
    · decide
  case triggerDefinition => exact ⟨by decide, h.1, by decide, h.2.1, by decide⟩
  case extensionRow => exact ⟨by decide, h.1, by decide, h.2.1, by decide⟩
  case relationName => exact ⟨by decide, h.1, by decide, by decide, h.2.1, by decide⟩
  case invalidReference => exact ⟨by decide, h.1, by decide, h.2.1, by decide⟩
  case illegalScope => exact ⟨by decide, h.1, by decide, h.2.1, by decide⟩
  case columnShape => exact ⟨by decide, h.2.1, by decide, h.1, by decide, h.2.2.1, by decide⟩
  case contentsType => exact ⟨by decide, h.1, by decide⟩

theorem isLine_detail {v : Violation} (h : ∀ value ∈ v.named, value.IsLine) :
    Text.IsLine v.detail := by
  have message := isLine_message h
  have compared : v.comparison.1.IsLine ∧ v.comparison.2.IsLine := by
    cases v <;> simp_all [comparison, named]
  unfold detail
  split
  · exact message
  · rename_i expected actual _ same
    rw [same] at compared
    simp only [isLine_append, isLine_toString, and_assoc]
    exact ⟨message, by decide, compared.1, by decide, compared.2, by decide⟩

end Violation

end GeoConformance
