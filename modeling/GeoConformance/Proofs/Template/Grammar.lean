import GeoConformance.Proofs.Failing
import GeoConformance.Proofs.Template.Lexing
import Mathlib.Data.List.Forall2

/-!
# The grammar of a template

A text fits a template when it spells the tokens of the template one after another, with blanks in
the gaps that need them, and ends with blanks and perhaps a semicolon. The matcher tries every
spelling and every gap, so it finds a division of the text whenever there is one.
-/

namespace GeoConformance
namespace Template

open Text

/-- What a lexeme stands for where placeholders are bound to names. -/
inductive Stands (b : Binding) : Lexeme → Token → Prop
  | word {w} : Stands b (.word w) (.word w)
  | unequal : Stands b .unequal .unequal
  | mark {c} : Stands b (.mark c) (.mark c)
  | table : Stands b (.placeholder ['t']) (.name b.table.toList)
  | column : Stands b (.placeholder ['c']) (.name b.column.toList)
  | index : Stands b (.placeholder "rtree".toList)
      (.name ("rtree_" ++ b.table ++ "_" ++ b.column).toList)
  | trigger {name} : b.trigger = some name →
      Stands b (.placeholder "trigger".toList) (.name name.toList)
  | anyIdentifier : Stands b (.placeholder ['i']) .anyIdentifier

/-- The texts that spell a token, given what may stand for a mark. Letters are spelled in any case,
names also between quotes; an identifier is a word or anything but nothing between quotes. -/
inductive Spelling (markAs : Char → Char → Prop) : Token → List Char → Prop
  | word {w x} : List.Forall₂ (fun a b => alike a b = true) w x → Spelling markAs (.word w) x
  | bare {n x} : List.Forall₂ (fun a b => alike a b = true) n x → Spelling markAs (.name n) x
  | quoted {n x} : List.Forall₂ (fun a b => alike a b = true) (Identifier.quotedChars n) x →
      Spelling markAs (.name n) x
  | identifier {x} : x ≠ [] → AllWord x → Spelling markAs .anyIdentifier x
  | quotedIdentifier {body} : body ≠ [] →
      Spelling markAs .anyIdentifier (Identifier.quotedChars body)
  | exclamation : Spelling markAs .unequal ['!', '=']
  | brackets : Spelling markAs .unequal ['<', '>']
  | mark {c d} : markAs c d → Spelling markAs (.mark c) [d]

/-- Tokens that would run together without a blank. -/
def IsWordLike : Token → Prop
  | .word _ | .name _ | .anyIdentifier => True
  | .unequal | .mark _ => False

/-- `NOT NULL` and `IS NULL`, which may be written as one word. -/
def AreFused : Token → Token → Prop
  | .word v, .word w => (upper (String.ofList v) = "NOT" ∨ upper (String.ofList v) = "IS") ∧
      upper (String.ofList w) = "NULL"
  | _, _ => False

def AllBlank (s : List Char) : Prop := ∀ c ∈ s, isBlank c = true

instance (s : List Char) : Decidable (AllBlank s) :=
  decidable_of_iff (s.all isBlank = true) (by simp [AllBlank])

/-- What may stand between two tokens. -/
def Gap (a b : Token) (g : List Char) : Prop :=
  AllBlank g ∧ (g = [] → IsWordLike a → IsWordLike b → AreFused a b)

/-- What may stand after the last token. -/
def Ending (s : List Char) : Prop := ∃ w e, s = w ++ e ∧ AllBlank w ∧ (e = [] ∨ e = [';'])

/-- The texts that spell some tokens, with their gaps, after another one. -/
inductive WrittenAfter (markAs : Char → Char → Prop) : Token → List Token → List Char → Prop
  | ending {t s} : Ending s → WrittenAfter markAs t [] s
  | token {t u us g x s} : Gap t u g → Spelling markAs u x → WrittenAfter markAs u us s →
      WrittenAfter markAs t (u :: us) (g ++ (x ++ s))

inductive Written (markAs : Char → Char → Prop) : List Token → List Char → Prop
  | ending {s} : Ending s → Written markAs [] s
  | token {t ts x s} : Spelling markAs t x → WrittenAfter markAs t ts s →
      Written markAs (t :: ts) (x ++ s)

/-- A text fits the template whose placeholders are bound like this. -/
def Fits (markAs : Char → Char → Prop) (text : String) (b : Binding) (sql : String) : Prop :=
  ∃ ls ts, Lexing text.toList ls ∧ List.Forall₂ (Stands b) ls ts ∧ Written markAs ts sql.toList

section Remainders

variable {s r : List Char}

theorem after?_eq_some {w : List Char} :
    after? w s = some r ↔
      ∃ x, s = x ++ r ∧ List.Forall₂ (fun a b => alike a b = true) w x := by
  induction w generalizing s with
  | nil =>
    simp only [after?, Option.some.injEq, List.forall₂_nil_left_iff, exists_eq_right,
      List.nil_append]
  | cons c w ih =>
    cases s with
    | nil => simp [after?]
    | cons d s =>
      by_cases same : alike c d = true
      · simp only [after?, same, if_true, ih]
        constructor
        · intro h
          obtain ⟨x, rfl, spelled⟩ := h
          exact ⟨d :: x, rfl, .cons same spelled⟩
        · intro h
          obtain ⟨x, eq, spelled⟩ := h
          cases spelled with
          | cons same spelled =>
            obtain ⟨rfl, rfl⟩ := List.cons.inj eq
            exact ⟨_, rfl, spelled⟩
      · simp only [after?, same]
        constructor
        · intro h
          cases h
        · intro h
          obtain ⟨x, eq, spelled⟩ := h
          cases spelled with
          | cons same' spelled =>
            obtain ⟨rfl, rfl⟩ := List.cons.inj eq
            exact absurd same' same

theorem mem_afterAny {inClass : Char → Bool} :
    r ∈ afterAny inClass s ↔ ∃ x, s = x ++ r ∧ ∀ c ∈ x, inClass c = true := by
  induction s with
  | nil =>
    simp only [afterAny, List.mem_singleton]
    constructor
    · rintro rfl
      exact ⟨[], rfl, by simp⟩
    · intro h
      obtain ⟨x, eq, -⟩ := h
      exact (List.append_eq_nil_iff.1 eq.symm).2
  | cons c rest ih =>
    simp only [afterAny, List.mem_cons]
    constructor
    · intro h
      rcases h with rfl | more
      · exact ⟨[], rfl, by simp⟩
      · by_cases member : inClass c = true
        · rw [if_pos member, ih] at more
          obtain ⟨x, rfl, inside⟩ := more
          exact ⟨c :: x, rfl, List.forall_mem_cons.2 ⟨member, inside⟩⟩
        · rw [if_neg member] at more
          cases more
    · intro h
      obtain ⟨x, eq, inside⟩ := h
      cases x with
      | nil => exact .inl eq.symm
      | cons d x =>
        obtain ⟨rfl, rfl⟩ := List.cons.inj eq
        obtain ⟨member, inside⟩ := List.forall_mem_cons.1 inside
        rw [if_pos member, ih]
        exact .inr ⟨x, rfl, inside⟩

theorem mem_afterSome {inClass : Char → Bool} :
    r ∈ afterSome inClass s ↔ ∃ x, s = x ++ r ∧ x ≠ [] ∧ ∀ c ∈ x, inClass c = true := by
  cases s with
  | nil =>
    simp only [afterSome, List.not_mem_nil, false_iff]
    intro h
    obtain ⟨x, eq, notEmpty, -⟩ := h
    exact notEmpty (List.append_eq_nil_iff.1 eq.symm).1
  | cons c rest =>
    simp only [afterSome]
    constructor
    · intro h
      by_cases member : inClass c = true
      · rw [if_pos member, mem_afterAny] at h
        obtain ⟨x, rfl, inside⟩ := h
        exact ⟨c :: x, rfl, by simp, List.forall_mem_cons.2 ⟨member, inside⟩⟩
      · rw [if_neg member] at h
        cases h
    · intro h
      obtain ⟨x, eq, notEmpty, inside⟩ := h
      cases x with
      | nil => exact absurd rfl notEmpty
      | cons d x =>
        obtain ⟨rfl, rfl⟩ := List.cons.inj eq
        obtain ⟨member, inside⟩ := List.forall_mem_cons.1 inside
        rw [if_pos member, mem_afterAny]
        exact ⟨x, rfl, inside⟩

theorem doubled_cons (c : Char) (body : List Char) :
    Identifier.doubled (c :: body) =
      (if c = '"' then ['"', '"'] else [c]) ++ Identifier.doubled body := by
  simp [Identifier.doubled]

/-- A quote inside the body is doubled, so a single one closes it. -/
theorem mem_afterQuoted (r : List Char) : ∀ (isEmpty : Bool) (s : List Char),
    r ∈ afterQuoted isEmpty s ↔
      ∃ body, s = Identifier.doubled body ++ '"' :: r ∧ (isEmpty = true → body ≠ [])
  | isEmpty, [] => by
    simp [afterQuoted]
  | isEmpty, c :: rest => by
    have ofBody : (∃ body, c :: rest = Identifier.doubled body ++ '"' :: r ∧
        (isEmpty = true → body ≠ [])) ↔
        (c = '"' ∧ rest = r ∧ isEmpty = false) ∨
        (c = '"' ∧ ∃ body, rest = '"' :: (Identifier.doubled body ++ '"' :: r)) ∨
        (c ≠ '"' ∧ ∃ body, rest = Identifier.doubled body ++ '"' :: r) := by
      constructor
      · intro h
        obtain ⟨body, eq, notEmpty⟩ := h
        cases body with
        | nil =>
          obtain ⟨rfl, rfl⟩ := List.cons.inj eq
          refine .inl ⟨rfl, rfl, ?_⟩
          rw [← Bool.not_eq_true]
          exact fun isEmpty => notEmpty isEmpty rfl
        | cons d body =>
          rw [doubled_cons] at eq
          by_cases quote : d = '"'
          · rw [if_pos quote] at eq
            obtain ⟨same, tail⟩ := List.cons.inj eq
            exact .inr (.inl ⟨same, body, tail⟩)
          · rw [if_neg quote] at eq
            obtain ⟨same, tail⟩ := List.cons.inj eq
            exact .inr (.inr ⟨same ▸ quote, body, tail⟩)
      · intro h
        rcases h with ⟨rfl, rfl, notEmpty⟩ | ⟨rfl, body, rfl⟩ | ⟨other, body, rfl⟩
        · exact ⟨[], rfl, by simp [notEmpty]⟩
        · exact ⟨'"' :: body, by simp [doubled_cons], by simp⟩
        · exact ⟨c :: body, by simp [doubled_cons, other], by simp⟩
    rw [ofBody]
    by_cases quote : c = '"'
    · subst quote
      rcases rest with - | ⟨d, more⟩
      · rw [afterQuoted.eq_3 _ _ (by simp)]
        cases isEmpty <;> simp
      · by_cases doubled : d = '"'
        · subst doubled
          rw [afterQuoted.eq_2, ← Bool.not_eq_true]
          have inside := mem_afterQuoted r false more
          cases isEmpty <;> simp [inside, eq_comm]
        · rw [afterQuoted.eq_3 _ _ (by simp [doubled])]
          cases isEmpty <;> simp [doubled, eq_comm]
    · have inside := mem_afterQuoted r false rest
      rw [afterQuoted.eq_4 _ _ _ quote, inside]
      simp [quote]

end Remainders

theorem mapLetter_eq_or (n : Nat) (runs : List LetterRun) :
    mapLetter n runs = n ∨
      ∃ r ∈ runs, r.first ≤ n ∧ n ≤ r.last ∧ mapLetter n runs = r.image + (n - r.first) := by
  induction runs with
  | nil => exact .inl rfl
  | cons r rest ih =>
    unfold mapLetter
    split
    case isTrue => exact .inl rfl
    case isFalse first =>
      split
      case isTrue last =>
        split
        case isTrue => exact .inr ⟨r, List.mem_cons_self, Nat.not_lt.1 first, last, rfl⟩
        case isFalse => exact .inl rfl
      case isFalse =>
        refine ih.imp_right ?_
        rintro ⟨r', member, within⟩
        exact ⟨r', List.mem_cons_of_mem r member, within⟩

theorem toNat_of_ofNat {n : Nat} {c : Char} (h : Char.ofNat n = c) : c.toNat = n ∨ c.toNat = 0 := by
  rw [← h]
  by_cases valid : n.isValidChar
  · rw [Char.ofNat, dif_pos valid]
    exact .inl rfl
  · rw [Char.ofNat, dif_neg valid]
    exact .inr rfl

/-- No letter differs only in case from a character before the small letters of ASCII that is its
own representative. -/
theorem alike_iff_of_small {a d : Char} (fixed : foldCase a = a) (small : a.toNat < 0x61)
    (notNull : a.toNat ≠ 0) : alike a d = true ↔ a = d := by
  constructor
  · intro same
    rw [alike_iff, fixed] at same
    have images : ∀ r ∈ foldRuns, 0x61 ≤ r.image := by decide +kernel
    have image := (toNat_of_ofNat same.symm).resolve_right notNull
    rcases mapLetter_eq_or d.toNat foldRuns with unmoved | ⟨r, member, -, -, moved⟩
    · rw [unmoved] at image
      exact Char.toNat_inj.1 image
    · have high := images r member
      omega
  · rintro rfl
    exact alike_refl a

theorem forall₂_alike_pair {a b : Char} {x : List Char}
    (first : ∀ d, alike a d = true ↔ a = d) (second : ∀ d, alike b d = true ↔ b = d) :
    List.Forall₂ (fun a b => alike a b = true) [a, b] x ↔ x = [a, b] := by
  simp [List.forall₂_cons_left_iff, first, second]

/-- An identifier is a word, or a body between quotes that is not empty. -/
theorem mem_remainders_anyIdentifier {s r : List Char} :
    r ∈ Token.anyIdentifier.remainders s ↔
      ∃ x, s = x ++ r ∧ Spelling (fun c d => alike c d = true) .anyIdentifier x := by
  simp only [Token.remainders, List.mem_append, mem_afterSome]
  constructor
  · intro h
    rcases h with quoted | ⟨x, rfl, notEmpty, word⟩
    · split at quoted
      · rename_i body
        obtain ⟨body, rfl, notEmpty⟩ := (mem_afterQuoted r true _).1 quoted
        exact ⟨_, by simp [Identifier.quotedChars], .quotedIdentifier (notEmpty rfl)⟩
      · cases quoted
    · exact ⟨x, rfl, .identifier notEmpty word⟩
  · intro h
    obtain ⟨x, rfl, spelling⟩ := h
    cases spelling with
    | identifier notEmpty word => exact .inr ⟨x, rfl, notEmpty, word⟩
    | @quotedIdentifier body notEmpty =>
      refine .inl ?_
      rw [Identifier.quotedChars]
      exact (mem_afterQuoted r true _).2 ⟨body, by simp, fun _ => notEmpty⟩

/-- The signs of an inequality have no case, so they are spelled only by themselves. -/
theorem mem_remainders_unequal {s r : List Char} :
    r ∈ Token.unequal.remainders s ↔
      ∃ x, s = x ++ r ∧ Spelling (fun c d => alike c d = true) .unequal x := by
  have exclamation : ∀ x, List.Forall₂ (fun a b => alike a b = true) ['!', '='] x ↔
      x = ['!', '='] := fun x => forall₂_alike_pair
    (fun d => alike_iff_of_small (by decide +kernel) (by decide) (by decide))
    (fun d => alike_iff_of_small (by decide +kernel) (by decide) (by decide))
  have brackets : ∀ x, List.Forall₂ (fun a b => alike a b = true) ['<', '>'] x ↔
      x = ['<', '>'] := fun x => forall₂_alike_pair
    (fun d => alike_iff_of_small (by decide +kernel) (by decide) (by decide))
    (fun d => alike_iff_of_small (by decide +kernel) (by decide) (by decide))
  simp only [Token.remainders, List.mem_append, Option.mem_toList, after?_eq_some, exclamation,
    brackets]
  constructor
  · intro h
    rcases h with ⟨x, rfl, rfl⟩ | ⟨x, rfl, rfl⟩
    · exact ⟨_, rfl, .exclamation⟩
    · exact ⟨_, rfl, .brackets⟩
  · intro h
    obtain ⟨x, rfl, spelling⟩ := h
    cases spelling with
    | exclamation => exact .inl ⟨_, rfl, rfl⟩
    | brackets => exact .inr ⟨_, rfl, rfl⟩

theorem mem_remainders {t : Token} {s r : List Char} :
    r ∈ t.remainders s ↔ ∃ x, s = x ++ r ∧ Spelling (fun c d => alike c d = true) t x := by
  cases t with
  | word w =>
    simp only [Token.remainders, Option.mem_toList, after?_eq_some]
    constructor
    · intro h
      obtain ⟨x, rfl, spelled⟩ := h
      exact ⟨x, rfl, .word spelled⟩
    · intro h
      obtain ⟨x, rfl, spelling⟩ := h
      cases spelling with
      | word spelled => exact ⟨x, rfl, spelled⟩
  | name n =>
    simp only [Token.remainders, List.mem_append, Option.mem_toList, after?_eq_some]
    constructor
    · intro h
      rcases h with ⟨x, rfl, spelled⟩ | ⟨x, rfl, spelled⟩
      · exact ⟨x, rfl, .quoted spelled⟩
      · exact ⟨x, rfl, .bare spelled⟩
    · intro h
      obtain ⟨x, rfl, spelling⟩ := h
      cases spelling with
      | bare spelled => exact .inr ⟨x, rfl, spelled⟩
      | quoted spelled => exact .inl ⟨x, rfl, spelled⟩
  | anyIdentifier => exact mem_remainders_anyIdentifier
  | unequal => exact mem_remainders_unequal
  | mark c =>
    simp only [Token.remainders, Option.mem_toList, after?_eq_some]
    constructor
    · intro h
      obtain ⟨x, rfl, spelled⟩ := h
      obtain ⟨d, rest, same, none, rfl⟩ := List.forall₂_cons_left_iff.1 spelled
      cases none
      exact ⟨[d], rfl, .mark same⟩
    · intro h
      obtain ⟨x, rfl, spelling⟩ := h
      cases spelling with
      | mark same => exact ⟨_, rfl, .cons same .nil⟩

theorem isFused_iff {a b : Token} : isFused a b = true ↔ AreFused a b := by
  cases a <;> cases b <;>
    simp [isFused, AreFused, fusedWords, Prod.ext_iff, or_and_right]

theorem isWordLike_iff {t : Token} : t.isWordLike = true ↔ IsWordLike t := by
  cases t <;> simp [Token.isWordLike, IsWordLike]

theorem mem_afterGap {a b : Token} {s r : List Char} :
    r ∈ afterGap a b s ↔ ∃ g, s = g ++ r ∧ Gap a b g := by
  by_cases needed : needsBlank a b = true
  · have parts := needed
    simp only [needsBlank, Bool.and_eq_true, Bool.not_eq_true', ← Bool.not_eq_true, isFused_iff,
      isWordLike_iff] at parts
    obtain ⟨⟨first, second⟩, unfused⟩ := parts
    rw [afterGap, if_pos needed, mem_afterSome]
    refine exists_congr fun g => and_congr_right fun _ => ?_
    constructor
    · intro h
      obtain ⟨notEmpty, blank⟩ := h
      exact ⟨blank, fun empty => absurd empty notEmpty⟩
    · intro h
      obtain ⟨blank, optional⟩ := h
      exact ⟨fun empty => unfused (optional empty first second), blank⟩
  · have free : IsWordLike a → IsWordLike b → AreFused a b := by
      intro first second
      rw [← isFused_iff]
      simpa [needsBlank, isWordLike_iff.2 first, isWordLike_iff.2 second] using needed
    rw [afterGap, if_neg needed, mem_afterAny]
    exact exists_congr fun g => and_congr_right fun _ =>
      ⟨fun blank => ⟨blank, fun _ => free⟩, fun gap => gap.1⟩

/-- A semicolon is no blank, so what follows the blanks decides. -/
theorem isEnd_iff {s : List Char} : isEnd s = true ↔ Ending s := by
  constructor
  · intro h
    refine ⟨s.takeWhile isBlank, s.dropWhile isBlank, List.takeWhile_append_dropWhile.symm,
      List.all_eq_true.1 List.all_takeWhile, ?_⟩
    unfold isEnd at h
    split at h
    · rename_i nothing
      exact .inl nothing
    · rename_i c rest
      rw [beq_iff_eq] at h
      exact .inr (h ▸ rest)
    · cases h
  · intro h
    obtain ⟨w, e, rfl, blank, ending⟩ := h
    have drops : (w ++ e).dropWhile isBlank = e := by
      rw [List.dropWhile_append_of_pos blank]
      rcases ending with rfl | rfl
      · rfl
      · decide
    unfold isEnd
    rw [drops]
    rcases ending with rfl | rfl <;> rfl

theorem acceptsAfter_iff {t : Token} {ts : List Token} {s : List Char} :
    acceptsAfter t ts s = true ↔ WrittenAfter (fun c d => alike c d = true) t ts s := by
  induction ts generalizing t s with
  | nil =>
    rw [acceptsAfter, isEnd_iff]
    exact ⟨.ending, fun h => by cases h; assumption⟩
  | cons u us ih =>
    simp only [acceptsAfter, List.any_eq_true, mem_afterGap, mem_remainders, ih]
    constructor
    · intro h
      obtain ⟨_, ⟨g, rfl, gap⟩, r, ⟨x, rfl, spelling⟩, rest⟩ := h
      exact .token gap spelling rest
    · intro h
      cases h with
      | token gap spelling rest => exact ⟨_, ⟨_, rfl, gap⟩, _, ⟨_, rfl, spelling⟩, rest⟩

theorem accepts_iff {ts : List Token} {s : List Char} :
    accepts ts s = true ↔ Written (fun c d => alike c d = true) ts s := by
  cases ts with
  | nil =>
    rw [accepts, isEnd_iff]
    exact ⟨.ending, fun h => by cases h; assumption⟩
  | cons t ts =>
    simp only [accepts, List.any_eq_true, mem_remainders, acceptsAfter_iff]
    constructor
    · intro h
      obtain ⟨r, ⟨x, rfl, spelling⟩, rest⟩ := h
      exact .token spelling rest
    · intro h
      cases h with
      | token spelling rest => exact ⟨_, ⟨_, rfl, spelling⟩, rest⟩

theorem indexName_eq (table column : String) :
    indexName table column = "rtree_" ++ table ++ "_" ++ column := rfl

theorem token?_eq_some {b : Binding} {chars : List Char} {t : Token} :
    b.token? (String.ofList chars) = some t ↔ Stands b (.placeholder chars) t := by
  constructor
  · intro h
    have back : ∀ name : String, String.ofList chars = name → chars = name.toList := by
      rintro _ rfl
      exact String.toList_ofList.symm
    unfold Binding.token? at h
    split at h
    · rename_i name
      cases h
      exact back _ name ▸ .table
    · rename_i name
      cases h
      exact back _ name ▸ .column
    · rename_i name
      cases h
      rw [indexName_eq, back _ name]
      exact .index
    · rename_i name
      obtain ⟨trigger, bound, rfl⟩ := Option.map_eq_some_iff.1 h
      exact back _ name ▸ .trigger bound
    · rename_i name
      cases h
      exact back _ name ▸ .anyIdentifier
    · cases h
  · intro h
    cases h with
    | table => rfl
    | column => rfl
    | index => rw [← indexName_eq]; rfl
    | trigger bound =>
      change b.trigger.map _ = _
      rw [bound]
      rfl
    | anyIdentifier => rfl

theorem resolve_eq_ok {b : Binding} {l : Lexeme} {t : Token} :
    b.resolve l = .ok t ↔ Stands b l t := by
  cases l with
  | placeholder chars =>
    rw [← token?_eq_some, Binding.resolve]
    cases b.token? (String.ofList chars) <;> simp
  | word w =>
    exact ⟨fun h => by cases h; exact .word, fun h => by cases h; rfl⟩
  | unequal =>
    exact ⟨fun h => by cases h; exact .unequal, fun h => by cases h; rfl⟩
  | mark c =>
    exact ⟨fun h => by cases h; exact .mark, fun h => by cases h; rfl⟩

theorem tokens_eq_ok {text : String} {b : Binding} {ts : List Token} :
    tokens text b = .ok ts ↔ List.Forall₂ (Stands b) (lexemes text) ts := by
  unfold tokens
  generalize lexemes text = ls
  induction ls generalizing ts with
  | nil =>
    rw [List.forall₂_nil_left_iff]
    exact ⟨fun h => by cases h; rfl, fun h => by rw [h]; rfl⟩
  | cons l ls ih =>
    rw [List.mapM_cons, List.forall₂_cons_left_iff]
    constructor
    · intro h
      obtain ⟨t, first, h⟩ := bind_eq_ok.1 h
      obtain ⟨us, rest, h⟩ := bind_eq_ok.1 h
      cases h
      exact ⟨t, us, resolve_eq_ok.1 first, ih.1 rest, rfl⟩
    · intro h
      obtain ⟨t, us, first, rest, rfl⟩ := h
      exact bind_eq_ok.2 ⟨t, resolve_eq_ok.2 first, bind_eq_ok.2 ⟨us, ih.2 rest, rfl⟩⟩

theorem exists_tokens_iff {text : String} {b : Binding} :
    (∃ ts, tokens text b = .ok ts) ↔
      ∀ name, .placeholder name ∈ lexemes text → ∃ t, Stands b (.placeholder name) t := by
  simp only [tokens_eq_ok]
  generalize lexemes text = ls
  induction ls with
  | nil => exact ⟨fun _ name h => (nomatch h), fun _ => ⟨[], .nil⟩⟩
  | cons l ls ih =>
    constructor
    · rintro ⟨_, stand⟩ name member
      cases stand with
      | cons first rest =>
        rcases List.mem_cons.1 member with rfl | member
        · exact ⟨_, first⟩
        · exact ih.1 ⟨_, rest⟩ name member
    · intro bound
      obtain ⟨ts, rest⟩ := ih.2 fun name member => bound name (List.mem_cons_of_mem _ member)
      obtain ⟨t, first⟩ : ∃ t, Stands b l t := by
        cases l with
        | placeholder name => exact bound name List.mem_cons_self
        | word w => exact ⟨_, .word⟩
        | unequal => exact ⟨_, .unequal⟩
        | mark c => exact ⟨_, .mark⟩
      exact ⟨t :: ts, .cons first rest⟩

/-- A template whose placeholders are bound can be matched, and exactly the texts of its grammar fit
it, where a mark stands for itself in any case. -/
theorem fits_iff_written (text : String) (b : Binding) (sql : String) :
    ((∃ ts, tokens text b = .ok ts) ↔
      ∀ name, .placeholder name ∈ lexemes text → ∃ t, Stands b (.placeholder name) t) ∧
    (fits text b sql = true ↔ Fits (fun c d => alike c d = true) text b sql) := by
  refine ⟨exists_tokens_iff, ?_⟩
  unfold fits Fits
  constructor
  · intro h
    split at h
    · rename_i ts found
      exact ⟨_, ts, lexing_iff.2 rfl, tokens_eq_ok.1 found, accepts_iff.1 h⟩
    · cases h
  · intro h
    obtain ⟨ls, ts, lexing, stand, written⟩ := h
    rw [lexing_iff.1 lexing] at stand
    rw [tokens_eq_ok.2 stand]
    exact accepts_iff.2 written

/-- A letter in a circle is no part of a word, but it has a case. -/
theorem circledLetter_fits :
    fits "Ⓐ" ⟨"t", "c", none⟩ "ⓐ" = true ∧ ¬ Fits (fun c d => c = d) "Ⓐ" ⟨"t", "c", none⟩ "ⓐ" := by
  refine ⟨by decide +kernel, ?_⟩
  intro h
  obtain ⟨ls, ts, lexing, stand, written⟩ := h
  have single : lexemes "Ⓐ" = [.mark 'Ⓐ'] := by decide +kernel
  rw [lexing_iff.1 lexing, single] at stand
  cases stand with
  | cons first rest =>
    cases first
    cases rest
    generalize whole : "ⓐ".toList = s at written
    cases written with
    | token spelling _ =>
      cases spelling with
      | mark same =>
        have head : 'ⓐ' = 'Ⓐ' := same ▸ (List.cons.inj whole).1
        exact absurd head (by decide)

end Template
end GeoConformance
