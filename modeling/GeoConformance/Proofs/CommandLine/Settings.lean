import GeoConformance.CommandLine
import GeoConformance.Proofs.CommandLine.Values

/-!
# Operands and settings

What a command makes of an operand with switches and their values behind it, each a word of its own.
A word is taken for a value unless it begins with a hyphen; negative numerals are values all the
same, as long as no switch looks like one.
-/

namespace GeoConformance
namespace CommandLine

variable {g : Grammar} {s : String}

/-- A word that is no switch and no separator. -/
structure IsValue (g : Grammar) (s : String) : Prop where
  notSeparator : s ≠ "--"
  word : g.word s = .ok (.operand s)

theorem isValue_of_no_hyphen (h : ∀ rest, s.toList ≠ '-' :: rest) : IsValue g s := by
  constructor
  · rintro rfl
    exact h ['-'] rfl
  · unfold Grammar.word
    split
    · rename_i eq
      exact absurd eq (h _)
    · rfl

/-- A negative numeral is a hyphen and a row of digits and points, perhaps with a line end behind
it. -/
theorem exists_of_isNegativeNumeral {s : List Char} (h : isNegativeNumeral s = true) :
    ∃ body ending, s = '-' :: (body ++ ending) ∧ (ending = [] ∨ ending = ['\n']) ∧ body ≠ [] ∧
      ∀ c ∈ body, (Text.digitValue? c).isSome = true ∨ c = '.' := by
  unfold isNegativeNumeral at h
  split at h
  · rename_i rest
    obtain ⟨body, ending, rfl, ends, stripped⟩ : ∃ body ending, rest = body ++ ending ∧
        (ending = [] ∨ ending = ['\n']) ∧
        (if rest.getLast? = some '\n' then rest.dropLast else rest) = body := by
      by_cases ends : rest.getLast? = some '\n'
      · obtain ⟨body, rfl⟩ := List.getLast?_eq_some_iff.1 ends
        exact ⟨body, ['\n'], rfl, .inr rfl, by simp⟩
      · exact ⟨rest, [], by simp, .inl rfl, if_neg ends⟩
    simp only [stripped] at h
    refine ⟨body, ending, rfl, ends, ?_, ?_⟩
    · rintro rfl
      cases h
    · intro c hc
      rw [← List.takeWhile_append_dropWhile (p := fun c => (Text.digitValue? c).isSome)
        (l := body)] at hc
      rcases List.mem_append.1 hc with whole | rest
      · exact .inl (List.all_eq_true.1 List.all_takeWhile c whole)
      · split at h
        · rename_i none
          rw [none] at rest
          cases rest
        · rename_i fraction some
          rw [some] at rest
          simp only [Bool.and_eq_true, List.all_eq_true] at h
          rcases List.mem_cons.1 rest with rfl | digit
          · exact .inr rfl
          · exact .inl (h.2 c digit)
        · cases h
  · cases h

/-- The name of a switch in full is the switch without anything attached. -/
theorem word_of_name {switch : Switch} {c : Char} {rest : List Char}
    (chars : s.toList = '-' :: c :: rest)
    (named : g.switches.find? (·.names.contains s) = some switch) :
    g.word s = .ok (.switch switch .none) := by
  have found : g.named? s.toList = some switch := by
    rw [Grammar.named?, String.ofList_toList, named]
  unfold Grammar.word
  rw [chars] at found ⊢
  simp only [found]

/-- No switch can be taken for the beginning of a negative numeral. -/
def HasNoNumerals (g : Grammar) : Prop :=
  ∀ switch ∈ g.switches, ∀ name ∈ switch.names,
    (name.toList.drop 1).head?.any (fun c => (Text.digitValue? c).isSome || c == '.') = false

theorem isValue_of_negativeNumeral (free : HasNoNumerals g)
    (h : isNegativeNumeral s.toList = true) : IsValue g s := by
  obtain ⟨body, ending, eq, ends, nonempty, chars⟩ := exists_of_isNegativeNumeral h
  obtain ⟨c, rest, rfl⟩ := List.exists_cons_of_ne_nil nonempty
  have unlike : ∀ x : Char, (Text.digitValue? x).isSome = false → x ≠ '.' → c ≠ x := by
    rintro x noDigit noPoint rfl
    rcases chars c List.mem_cons_self with digit | point
    · rw [digit] at noDigit
      cases noDigit
    · exact noPoint point
  have unnamed : ∀ more : List Char, g.named? ('-' :: c :: more) = none := by
    intro more
    refine List.find?_eq_none.2 fun switch member named => ?_
    have noNumeral := free switch member _ (List.contains_iff_mem.1 named)
    simp only [String.toList_ofList, List.drop_succ_cons, List.drop_zero, List.head?_cons,
      Option.any_some, Bool.or_eq_false_iff, beq_eq_false_iff_ne] at noNumeral
    exact unlike c noNumeral.1 noNumeral.2 rfl
  constructor
  · rintro rfl
    have same : '-' = c ∧ rest = [] ∧ ending = [] := by simpa using eq
    exact unlike '-' (by decide) (by decide) same.1.symm
  · unfold Grammar.word
    have noEquals : (c != '=') = true := bne_iff_ne.2 (unlike '=' (by decide) (by decide))
    have start : ('-' :: c :: (rest ++ ending)).takeWhile (· != '=') =
        '-' :: c :: (rest ++ ending).takeWhile (· != '=') := by
      simp [noEquals]
    have noHyphen : c ≠ '-' := unlike '-' (by decide) (by decide)
    have alone : Grammar.unnamed s = .operand s := by simp [Grammar.unnamed, h]
    simp only [eq, List.cons_append, start, unnamed, if_neg noHyphen, alone]

example : isNegativeNumeral "-0.0".toList = true := by decide

/-- A switch with its value behind it. -/
structure Setting where
  name : String
  switch : Switch
  value : String

namespace Setting

def words (s : Setting) : List String := [s.name, s.value]

/-- The switch goes by this name, takes a value and accepts this one. -/
structure IsAccepted (g : Grammar) (s : Setting) : Prop where
  notSeparator : s.name ≠ "--"
  name : g.word s.name = .ok (.switch s.switch .none)
  role : ∃ accepts, s.switch.role = .value accepts ∧ accepts s.value = true
  value : IsValue g s.value

end Setting

variable {settings : List Setting}

theorem words_settings (accepted : ∀ s ∈ settings, s.IsAccepted g) :
    g.words (settings.flatMap Setting.words) =
      .ok (settings.flatMap fun s => [.switch s.switch .none, .operand s.value]) := by
  induction settings with
  | nil => rfl
  | cons s rest ih =>
    obtain ⟨first, others⟩ := List.forall_mem_cons.1 accepted
    simp only [List.flatMap_cons, Setting.words, List.cons_append, List.nil_append] at ih ⊢
    rw [Grammar.words, if_neg first.notSeparator, first.name, Grammar.words,
      if_neg first.value.notSeparator, first.value.word, ih others]
    rfl

theorem run_setting {switch : Switch} {accepts : String → Bool}
    (role : switch.role = .value accepts) (p : Progress) (value : String) (rest : List Word) :
    Progress.run g p (.switch switch .none :: .operand value :: rest) =
      p.use [(switch, some value)] >>= fun p => Progress.run g p rest := by
  have waits : Expansion.ofAttachment g switch .none = .ok ⟨[], some switch⟩ := by
    rw [Expansion.ofAttachment, Expansion.alone, role]
  rw [Progress.run_switch, waits]
  rfl

/-- Each setting becomes a use of its switch, in the order given. -/
theorem run_settings (accepted : ∀ s ∈ settings, s.IsAccepted g) (p : Progress) :
    ∃ mayClose, Progress.run g p
        (settings.flatMap fun s => [.switch s.switch .none, .operand s.value]) =
      .ok { p with
        parsed := { p.parsed with
          given := p.parsed.given ++ settings.map fun s => (s.switch.title, some s.value) }
        mayClose } := by
  induction settings generalizing p with
  | nil =>
    refine ⟨p.mayClose, ?_⟩
    rw [List.map_nil, List.append_nil]
    rfl
  | cons s rest ih =>
    obtain ⟨first, others⟩ := List.forall_mem_cons.1 accepted
    obtain ⟨accepts, role, accepted⟩ := first.role
    have used : p.use [(s.switch, some s.value)] = .ok { p with
        parsed := { p.parsed with given := p.parsed.given ++ [(s.switch.title, some s.value)] }
        mayClose := false } := by
      simp [Progress.use, role, accepted]
    obtain ⟨mayClose, ran⟩ := ih others { p with
        parsed := { p.parsed with given := p.parsed.given ++ [(s.switch.title, some s.value)] }
        mayClose := false }
    refine ⟨mayClose, ?_⟩
    rw [List.flatMap_cons, List.cons_append, List.cons_append, List.nil_append, run_setting role,
      used, List.map_cons]
    refine ran.trans ?_
    rw [List.append_assoc]
    rfl

/-- A command with an operand and no required switches reads the operand and the settings behind
it. -/
theorem parse_settings (takes : g.takesOperand = true) (free : g.required = []) {operand : String}
    (isOperand : IsValue g operand) (accepted : ∀ s ∈ settings, s.IsAccepted g) :
    g.parse (operand :: settings.flatMap Setting.words) =
      .ok ⟨some operand, settings.map fun s => (s.switch.title, some s.value)⟩ := by
  have words : g.words (operand :: settings.flatMap Setting.words) = .ok (.operand operand ::
      settings.flatMap fun s => [.switch s.switch .none, .operand s.value]) := by
    rw [Grammar.words, if_neg isOperand.notSeparator, isOperand.word, words_settings accepted]
    rfl
  have opens : Progress.operand g ⟨⟨none, []⟩, false, false⟩ operand =
      ⟨⟨some operand, []⟩, false, true⟩ := by
    simp [Progress.operand, Progress.wantsOperand, takes]
  obtain ⟨mayClose, ran⟩ := run_settings accepted ⟨⟨some operand, []⟩, false, true⟩
  have whole : Progress.run g ⟨⟨none, []⟩, false, false⟩ (.operand operand ::
      settings.flatMap fun s => [.switch s.switch .none, .operand s.value]) = _ :=
    (congrArg (Progress.run g · _) opens).trans ran
  refine bind_eq_ok.2 ⟨_, words, bind_eq_ok.2 ⟨_, whole, ?_⟩⟩
  simp [Progress.wantsOperand, free]

end CommandLine
end GeoConformance
