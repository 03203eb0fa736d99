import GeoConformance.Number.Numeral
import Mathlib.Algebra.Ring.Nat
import Mathlib.Data.List.Induction
import Mathlib.Data.List.TakeWhile

/-!
# Integers as texts

An integer that can be read from a numeral has a bounded number of digits, and every integer with no
more digits is read back from its own text.
-/

namespace GeoConformance
namespace Numeral

open Text

section Digits

variable {digits : List Char}

/-- What holds of the ten digits holds of every character that counts as one. -/
theorem of_isDigit {P : Char → Prop} (ten : ∀ d < 10, P (Char.ofNat (0x30 + d))) {c : Char}
    (h : isDigit c = true) : P c := by
  simp only [isDigit, Bool.and_eq_true, decide_eq_true_eq, Char.le_def, UInt32.le_iff_toNat_le] at h
  have low : 0x30 ≤ c.toNat := h.1
  have high : c.toNat ≤ 0x39 := h.2
  have value : 0x30 + (c.toNat - 0x30) = c.toNat := by omega
  have digit := ten (c.toNat - 0x30) (by omega)
  rwa [value, Char.ofNat_toNat] at digit

theorem isDigit_eq (c : Char) : isDigit c = c.isDigit := by
  simp [isDigit, Char.isDigit, Char.le_def, UInt32.le_iff_toNat_le]

theorem isPadding_of_isDigit {c : Char} (h : isDigit c = true) : isPadding c = false :=
  of_isDigit (P := fun c => isPadding c = false) (by decide) h

theorem plainDigit_of_isDigit {c : Char} (h : isDigit c = true) : plainDigit c = c :=
  of_isDigit (P := fun c => plainDigit c = c) (by decide) h

theorem toNat_of_isDigit {c : Char} (h : isDigit c = true) : c.toNat - 0x30 < 10 :=
  of_isDigit (P := fun c => c.toNat - 0x30 < 10) (by decide) h

theorem natOf_append (digits : List Char) (c : Char) :
    natOf (digits ++ [c]) = 10 * natOf digits + (c.toNat - 0x30) := by
  simp [natOf]

theorem natOf_lt (h : ∀ c ∈ digits, isDigit c = true) : natOf digits < 10 ^ digits.length := by
  induction digits using List.reverseRecOn with
  | nil => decide
  | append_singleton digits c ih =>
    obtain ⟨before, last⟩ := List.forall_mem_append.1 h
    have value := toNat_of_isDigit (last c (List.mem_singleton_self c))
    have less := ih before
    rw [natOf_append, List.length_append, List.length_singleton, Nat.pow_succ]
    omega

theorem natOf_toDigits (n : Nat) : natOf (Nat.toDigits 10 n) = n :=
  Nat.ofDigitChars_toDigits (by decide) (by decide)

theorem isDigit_of_mem_toDigits {n : Nat} {c : Char} (h : c ∈ Nat.toDigits 10 n) :
    isDigit c = true := by
  rw [isDigit_eq]
  exact Nat.isDigit_of_mem_toDigits (by decide) (by decide) h

theorem dropSeparators?_digits (h : ∀ c ∈ digits, isDigit c = true) (afterDigit : Bool) :
    dropSeparators? afterDigit digits = some digits := by
  induction digits generalizing afterDigit with
  | nil => rfl
  | cons c rest ih =>
    obtain ⟨first, others⟩ := List.forall_mem_cons.1 h
    have solid : c ≠ '_' := by
      rintro rfl
      cases first
    rw [dropSeparators?.eq_3 _ _ _ solid, ih others, Option.map_some]

/-- Among digits and separators only the digits are kept. -/
theorem isDigit_of_mem_dropSeparators {row : List Char} {afterDigit : Bool}
    (h : dropSeparators? afterDigit row = some digits)
    (inRow : ∀ c ∈ row, (isDigit c || c == '_') = true) : ∀ c ∈ digits, isDigit c = true := by
  induction row generalizing afterDigit digits with
  | nil =>
    cases h
    exact List.forall_mem_nil _
  | cons c rest ih =>
    obtain ⟨first, others⟩ := List.forall_mem_cons.1 inRow
    by_cases separator : c = '_'
    · subst separator
      rw [dropSeparators?] at h
      split at h
      · exact ih h others
      · cases h
    · rw [dropSeparators?.eq_3 _ _ _ separator] at h
      obtain ⟨kept, later, rfl⟩ := Option.map_eq_some_iff.1 h
      exact List.forall_mem_cons.2 ⟨by simpa [separator] using first, ih later others⟩

end Digits

/-! ## The text of an integer -/

theorem trimClass_of_forall {α : Type} {inClass : α → Bool} {s : List α}
    (h : ∀ a ∈ s, inClass a = false) : trimClass inClass s = s := by
  have kept (s : List α) (h : ∀ a ∈ s, inClass a = false) : s.dropWhile inClass = s := by
    cases s with
    | nil => rfl
    | cons a rest => exact List.dropWhile_cons_of_neg (by simp [h a List.mem_cons_self])
  rw [trimClass, kept s h, kept s.reverse fun a member => h a (List.mem_reverse.1 member),
    List.reverse_reverse]

theorem toList_toString (n : Int) :
    (toString n).toList =
      if 0 ≤ n then Nat.toDigits 10 n.natAbs else '-' :: Nat.toDigits 10 n.natAbs := by
  rw [Int.toString_eq_repr, Int.repr_eq_if]
  split
  · rw [Nat.toList_repr, show n.toNat = n.natAbs by omega]
  · rw [String.toList_append, Nat.toList_repr, show (-n).toNat = n.natAbs by omega]
    rfl

theorem plain_of_digits {s : String}
    (h : ∀ c ∈ s.toList, isDigit c = true ∨ c = '-') : plain s = s.toList := by
  have solid (c : Char) (member : c ∈ s.toList) : isPadding c = false := by
    rcases h c member with digit | rfl
    · exact isPadding_of_isDigit digit
    · decide
  have same (c : Char) (member : c ∈ s.toList) : plainDigit c = c := by
    rcases h c member with digit | rfl
    · exact plainDigit_of_isDigit digit
    · decide
  rw [plain, trimClass_of_forall solid, List.map_congr_left same, List.map_id']

theorem splitSign_digits {digits : List Char} (h : ∀ c ∈ digits, isDigit c = true) :
    splitSign digits = (false, digits) := by
  unfold splitSign
  split
  · cases h _ List.mem_cons_self
  · cases h _ List.mem_cons_self
  · rfl

/-- The sign of an integer and the digits behind it. -/
theorem splitSign_toString (n : Int) :
    splitSign (plain (toString n)) = (decide (n < 0), Nat.toDigits 10 n.natAbs) := by
  have digits (c : Char) (h : c ∈ Nat.toDigits 10 n.natAbs) : isDigit c = true :=
    isDigit_of_mem_toDigits h
  rw [plain_of_digits, toList_toString]
  · split
    · rw [splitSign_digits digits]
      simpa
    · simp [splitSign]
      omega
  · rw [toList_toString]
    split
    · exact fun c member => .inl (digits c member)
    · exact List.forall_mem_cons.2 ⟨.inr rfl, fun c member => .inl (digits c member)⟩

/-- An integer with no more digits than can be read is read back from its text. -/
theorem readInt_toString {n : Int} (bounded : n.natAbs < 10 ^ maxDigits) :
    readInt (toString n) = .ok n := by
  have digits (c : Char) (h : c ∈ Nat.toDigits 10 n.natAbs) : isDigit c = true :=
    isDigit_of_mem_toDigits h
  have inRow (c : Char) (h : c ∈ Nat.toDigits 10 n.natAbs) : (isDigit c || c == '_') = true := by
    simp [digits c h]
  have whole := List.takeWhile_eq_self_iff.2 inRow
  have nothing := List.dropWhile_eq_nil_iff.2 inRow
  have short : ¬ maxDigits < (Nat.toDigits 10 n.natAbs).length :=
    Nat.not_lt.2 ((Nat.length_toDigits_le_iff (by decide) (by decide)).2 bounded)
  have nonempty : (Nat.toDigits 10 n.natAbs).isEmpty = false :=
    List.isEmpty_eq_false_iff.2 Nat.toDigits_ne_nil
  unfold readInt
  simp only [splitSign_toString, whole, nothing, dropSeparators?_digits digits, if_neg short,
    nonempty, List.isEmpty_nil, Bool.not_true, Bool.or_self, Bool.false_eq_true, if_false,
    natOf_toDigits, decide_eq_true_eq, Except.ok.injEq]
  split <;> omega

/-- An integer that was read has no more digits than can be read. -/
theorem natAbs_lt_of_readInt {s : String} {n : Int} (h : readInt s = .ok n) :
    n.natAbs < 10 ^ maxDigits := by
  unfold readInt at h
  simp only at h
  split at h
  · cases h
  · rename_i digits separated
    split at h
    · cases h
    · rename_i short
      split at h
      · cases h
      · have less := natOf_lt (isDigit_of_mem_dropSeparators separated
          fun c => List.mem_takeWhile_imp )
        have most := Nat.pow_le_pow_right (show 0 < 10 by decide) (Nat.not_lt.1 short)
        cases h
        split <;> omega

end Numeral
end GeoConformance
