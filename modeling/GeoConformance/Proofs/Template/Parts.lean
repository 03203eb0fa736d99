import GeoConformance.Proofs.Template.Grammar

/-!
# The parts of a text

Blanks divide a text into parts, and whatever must be separated by blanks from its neighbours is
spelled by one part. Two templates that begin with such tokens therefore read the same parts of a
text that fits both: their tokens agree part by part, and where one part would have to spell names
that differ, no text fits both.
-/

namespace GeoConformance
namespace Template

open Text

/-- Characters that differ at most in case. -/
abbrev Alike (a b : Char) : Prop := alike a b = true

/-- Texts that differ at most in case. -/
abbrev AllAlike : List Char → List Char → Prop := List.Forall₂ Alike

def NoBlank (s : List Char) : Prop := ∀ c ∈ s, isBlank c = false

instance (s : List Char) : Decidable (NoBlank s) :=
  decidable_of_iff ((s.all fun c => !isBlank c) = true) (by simp [NoBlank])

instance (s : List Char) : Decidable (AllWord s) :=
  decidable_of_iff (s.all isWordChar = true) (by simp [AllWord])

section Pairs

variable {α β γ : Type}

/-- Lists that are related to one and the same list are related through its members. -/
theorem forall₂_common {R : α → γ → Prop} {S : β → γ → Prop} {as : List α} {bs : List β}
    {cs : List γ} (h : List.Forall₂ R as cs) (h' : List.Forall₂ S bs cs) :
    List.Forall₂ (fun a b => ∃ c, R a c ∧ S b c) as bs := by
  induction h generalizing bs with
  | nil =>
    rw [List.forall₂_nil_right_iff.1 h']
    exact .nil
  | cons first _ ih =>
    cases h' with
    | cons first' rest => exact .cons ⟨_, first, first'⟩ (ih rest)

theorem forall₂_of_append {R : α → β → Prop} {as as' : List α} {bs bs' : List β}
    (h : List.Forall₂ R (as ++ as') (bs ++ bs')) (length : as.length = bs.length) :
    List.Forall₂ R as bs ∧ List.Forall₂ R as' bs' := by
  have front := List.forall₂_take_append _ _ _ h
  have back := List.forall₂_drop_append _ _ _ h
  rw [← length, List.take_left] at front
  rw [← length, List.drop_left] at back
  exact ⟨front, back⟩

theorem exists_append_of_forall₂ {R : α → β → Prop} {as as' : List α} {bs : List β}
    (h : List.Forall₂ R (as ++ as') bs) :
    ∃ cs cs', bs = cs ++ cs' ∧ List.Forall₂ R as cs ∧ List.Forall₂ R as' cs' := by
  refine ⟨bs.take as.length, bs.drop as.length, (List.take_append_drop _ _).symm, ?_, ?_⟩
  · simpa using List.forall₂_take as.length h
  · simpa using List.forall₂_drop as.length h

theorem forall_mem_of_forall₂ {R : α → β → Prop} {P : β → Prop} {as : List α} {bs : List β}
    (h : List.Forall₂ R as bs) (image : ∀ a ∈ as, ∀ b, R a b → P b) : ∀ b ∈ bs, P b := by
  induction h with
  | nil => exact List.forall_mem_nil _
  | cons first _ ih =>
    obtain ⟨head, tail⟩ := List.forall_mem_cons.1 image
    exact List.forall_mem_cons.2 ⟨head _ first, ih tail⟩

end Pairs

section Blanks

/-- No blank has a case, and none is the representative of another character. -/
theorem isBlank_foldCase (c : Char) : isBlank (foldCase c) = isBlank c := by
  have outside : ∀ r ∈ foldRuns, ∀ b ∈ blankRanges, b.2 < r.first ∨ r.last < b.1 := by
    decide +kernel
  have images : ∀ r ∈ foldRuns, ∀ b ∈ blankRanges,
      b.2 < r.image ∨ r.image + (r.last - r.first) < b.1 := by decide +kernel
  have positive : ∀ b ∈ blankRanges, 0 < b.1 := by decide
  rcases mapLetter_eq_or c.toNat foldRuns with unmoved | ⟨r, member, first, last, moved⟩
  · rw [foldCase, unmoved, Char.ofNat_toNat]
  · have notBlank : isBlank c = false := by
      rw [← Bool.not_eq_true]
      intro blank
      obtain ⟨b, hb, low, high⟩ := exists_of_inRanges blank
      have := outside r member b hb
      omega
    rw [notBlank, ← Bool.not_eq_true]
    intro blank
    obtain ⟨b, hb, low, high⟩ := exists_of_inRanges blank
    have image := toNat_of_ofNat (n := mapLetter c.toNat foldRuns) (c := foldCase c) rfl
    have away := images r member b hb
    have above := positive b hb
    omega

theorem isBlank_of_alike {a b : Char} (h : alike a b = true) : isBlank a = isBlank b := by
  rw [← isBlank_foldCase a, ← isBlank_foldCase b, alike_iff.1 h]

theorem NoBlank.of_allAlike {n x : List Char} (h : NoBlank n) (same : AllAlike n x) :
    NoBlank x := by
  induction same with
  | nil => exact h
  | cons first _ ih =>
    rw [NoBlank, List.forall_mem_cons] at h ⊢
    exact ⟨isBlank_of_alike first ▸ h.1, ih h.2⟩

theorem AllWord.noBlank {s : List Char} (h : AllWord s) : NoBlank s := by
  intro c hc
  rw [← Bool.not_eq_true]
  intro blank
  have word := h c hc
  rw [isWordChar_of_isBlank blank] at word
  cases word

end Blanks

/-- What stands between the first blanks of a text and the next ones. -/
def firstPart (s : List Char) : List Char := (s.dropWhile isBlank).takeWhile fun c => !isBlank c

def afterPart (s : List Char) : List Char := (s.dropWhile isBlank).dropWhile fun c => !isBlank c

/-- The first parts of a text. -/
def parts : Nat → List Char → List (List Char)
  | 0, _ => []
  | n + 1, s => firstPart s :: parts n (afterPart s)

def afterParts : Nat → List Char → List Char
  | 0, s => s
  | n + 1, s => afterParts n (afterPart s)

/-- A text that ends or goes on with a blank. -/
def Stops (s : List Char) : Prop := ∀ c, s.head? = some c → isBlank c = true

section Parts

variable {g x s : List Char}

theorem dropWhile_part (blank : AllBlank g) (notEmpty : x ≠ []) (solid : NoBlank x) :
    (g ++ (x ++ s)).dropWhile isBlank = x ++ s := by
  obtain ⟨c, rest, rfl⟩ := List.exists_cons_of_ne_nil notEmpty
  rw [List.dropWhile_append_of_pos blank, List.cons_append,
    List.dropWhile_cons_of_neg (by simp [solid c List.mem_cons_self])]

theorem firstPart_eq (blank : AllBlank g) (notEmpty : x ≠ []) (solid : NoBlank x)
    (stops : Stops s) : firstPart (g ++ (x ++ s)) = x := by
  rw [firstPart, dropWhile_part blank notEmpty solid,
    List.takeWhile_append_of_pos fun c hc => by simp [solid c hc]]
  cases s with
  | nil => simp
  | cons c s => simp [stops c rfl]

theorem afterPart_eq (blank : AllBlank g) (notEmpty : x ≠ []) (solid : NoBlank x)
    (stops : Stops s) : afterPart (g ++ (x ++ s)) = s := by
  rw [afterPart, dropWhile_part blank notEmpty solid,
    List.dropWhile_append_of_pos fun c hc => by simp [solid c hc]]
  cases s with
  | nil => rfl
  | cons c s => simp [stops c rfl]

end Parts

/-- A token that is spelled in one part and must be kept apart from words and names. -/
def IsPart : Token → Prop
  | .word w => w ≠ [] ∧ NoBlank w ∧ upper (String.ofList w) ≠ "NOT" ∧ upper (String.ofList w) ≠ "IS"
  | .name n => n ≠ [] ∧ NoBlank n
  | _ => False

instance (t : Token) : Decidable (IsPart t) :=
  match t with
  | .word _ => inferInstanceAs (Decidable (_ ∧ _ ∧ _ ∧ _))
  | .name _ => inferInstanceAs (Decidable (_ ∧ _))
  | .anyIdentifier => .isFalse id
  | .unequal => .isFalse id
  | .mark _ => .isFalse id

theorem IsPart.isWordLike {t : Token} (h : IsPart t) : IsWordLike t := by
  cases t <;> trivial

theorem IsPart.not_areFused {t u : Token} (h : IsPart t) : ¬ AreFused t u := by
  cases t with
  | word w =>
    cases u with
    | word v =>
      rintro ⟨fused | fused, -⟩
      · exact h.2.2.1 fused
      · exact h.2.2.2 fused
    | _ => exact id
  | _ => exact id

theorem NoBlank.quotedChars {n : List Char} (h : NoBlank n) :
    NoBlank (Identifier.quotedChars n) := by
  have quote : isBlank '"' = false := by decide
  have doubled : NoBlank (Identifier.doubled n) := by
    intro c hc
    obtain ⟨d, hd, within⟩ := List.mem_flatMap.1 hc
    split at within
    case isTrue =>
      have same : c = '"' := by simpa using within
      exact same ▸ quote
    case isFalse =>
      rw [List.mem_singleton] at within
      exact within ▸ h d hd
  intro c hc
  simp only [Identifier.quotedChars, List.cons_append, List.mem_cons, List.mem_append,
    List.not_mem_nil, or_false] at hc
  rcases hc with rfl | hc | rfl
  · exact quote
  · exact doubled c hc
  · exact quote

theorem AllAlike.ne_nil {n x : List Char} (h : n ≠ []) (same : AllAlike n x) : x ≠ [] := by
  rintro rfl
  exact h (List.forall₂_nil_right_iff.1 same)

theorem IsPart.spelling {t : Token} {x : List Char} (h : IsPart t)
    (spelled : Spelling Alike t x) : x ≠ [] ∧ NoBlank x := by
  cases spelled with
  | word same => exact ⟨AllAlike.ne_nil h.1 same, h.2.1.of_allAlike same⟩
  | bare same => exact ⟨AllAlike.ne_nil h.1 same, h.2.of_allAlike same⟩
  | quoted same =>
    exact ⟨AllAlike.ne_nil (by simp [Identifier.quotedChars]) same,
      h.2.quotedChars.of_allAlike same⟩
  | _ => exact h.elim

section Written

variable {t u : Token} {us : List Token} {s : List Char}

theorem WrittenAfter.stops (h : WrittenAfter Alike t (u :: us) s)
    (part : IsPart t) (wordLike : IsWordLike u) : Stops s := by
  cases h with
  | @token _ _ _ g x s gap spelled rest =>
    intro c first
    cases g with
    | nil => exact absurd (gap.2 rfl part.isWordLike wordLike) part.not_areFused
    | cons b g =>
      cases first
      exact gap.1 c List.mem_cons_self

/-- Tokens that must be kept apart are spelled by as many parts of the text. -/
theorem WrittenAfter.parts {ts : List Token} (h : WrittenAfter Alike t (ts ++ u :: us) s)
    (solid : ∀ v ∈ ts, IsPart v) (wordLike : IsWordLike u) :
    List.Forall₂ (Spelling Alike) ts (parts ts.length s) ∧
      ∃ v, WrittenAfter Alike v (u :: us) (afterParts ts.length s) := by
  induction ts generalizing t s with
  | nil => exact ⟨.nil, t, h⟩
  | cons v ts ih =>
    obtain ⟨part, solid⟩ := List.forall_mem_cons.1 solid
    cases h with
    | @token _ _ _ g x s gap spelled rest =>
      have next : ∃ w ws, ts ++ u :: us = w :: ws ∧ IsWordLike w := by
        cases ts with
        | nil => exact ⟨u, us, rfl, wordLike⟩
        | cons w ws => exact ⟨w, ws ++ u :: us, rfl, (solid w List.mem_cons_self).isWordLike⟩
      obtain ⟨w, ws, follows, kept⟩ := next
      have written : WrittenAfter Alike v (ts ++ u :: us) s := rest
      rw [follows] at written
      have stops := written.stops part kept
      obtain ⟨notEmpty, noBlank⟩ := part.spelling spelled
      rw [List.length_cons, Template.parts, afterParts, firstPart_eq gap.1 notEmpty noBlank stops,
        afterPart_eq gap.1 notEmpty noBlank stops]
      exact (ih rest solid).imp_left (.cons spelled)

theorem Written.parts (t : Token) (ts : List Token) (h : Written Alike (t :: (ts ++ u :: us)) s)
    (solid : ∀ v ∈ t :: ts, IsPart v) (wordLike : IsWordLike u) :
    List.Forall₂ (Spelling Alike) (t :: ts) (parts (t :: ts).length s) ∧
      ∃ v, WrittenAfter Alike v (u :: us)
        (afterParts (t :: ts).length s) := by
  cases h with
  | @token _ _ x s spelled rest =>
    -- as if the first token came after another one, without a blank between them
    have gap : Gap .unequal t [] := ⟨fun _ hc => (nomatch hc), fun _ first => nomatch first⟩
    exact WrittenAfter.parts (.token gap spelled rest) solid wordLike

end Written

/-- A word or a name that does not begin with a blank. -/
def StartsVisibly : Token → Prop
  | .word w => ∃ c rest, w = c :: rest ∧ isBlank c = false
  | .name n => ∃ c rest, n = c :: rest ∧ isBlank c = false
  | _ => False

theorem StartsVisibly.spelling {t : Token} {x : List Char} (h : StartsVisibly t)
    (spelled : Spelling Alike t x) : ∃ c rest, x = c :: rest ∧ isBlank c = false := by
  have keeps {n : List Char} (start : ∃ c rest, n = c :: rest ∧ isBlank c = false)
      (same : AllAlike n x) : ∃ c rest, x = c :: rest ∧ isBlank c = false := by
    obtain ⟨c, rest, rfl, visible⟩ := start
    cases same with
    | cons first _ => exact ⟨_, _, rfl, isBlank_of_alike first ▸ visible⟩
  cases spelled with
  | word same => exact keeps h same
  | bare same => exact keeps h same
  | quoted same => exact keeps ⟨'"', _, rfl, by decide⟩ same
  | _ => exact h.elim

/-- Whatever blanks come first, the next token is spelled from the first character after them. -/
theorem WrittenAfter.exists_append {t u : Token} {us : List Token} {s : List Char}
    (visible : StartsVisibly u) (h : WrittenAfter Alike t (u :: us) s) :
    ∃ x r, s.dropWhile isBlank = x ++ r ∧ Spelling Alike u x := by
  cases h with
  | @token _ _ _ g x s gap spelled rest =>
    obtain ⟨c, y, rfl, first⟩ := visible.spelling spelled
    refine ⟨c :: y, s, ?_, spelled⟩
    rw [List.dropWhile_append_of_pos gap.1, List.cons_append,
      List.dropWhile_cons_of_neg (by simp [first])]

section Names

variable {n m x y r r' : List Char}

theorem alike_quote {c : Char} : alike '"' c = true ↔ '"' = c :=
  alike_iff_of_small (by decide +kernel) (by decide) (by decide)

/-- Somewhere before either of them ends, two texts differ by more than case. -/
def diverges : List Char → List Char → Bool
  | a :: n, b :: m => !alike a b || diverges n m
  | _, _ => false

theorem diverges_append_left (p n m : List Char) : diverges (p ++ n) (p ++ m) = diverges n m := by
  induction p with
  | nil => rfl
  | cons c p ih => simp [diverges, ih]

theorem diverges_append_right (h : diverges n m = true) (s t : List Char) :
    diverges (n ++ s) (m ++ t) = true := by
  induction n generalizing m with
  | nil => cases h
  | cons a n ih =>
    cases m with
    | nil => cases h
    | cons b m =>
      rw [diverges, Bool.or_eq_true] at h
      rw [List.cons_append, List.cons_append, diverges, Bool.or_eq_true]
      exact h.imp_right ih

/-- Up to where two texts diverge, quotes are doubled in both of them or in neither. -/
theorem diverges_doubled (h : diverges n m = true) :
    diverges (Identifier.doubled n) (Identifier.doubled m) = true := by
  induction n generalizing m with
  | nil => cases h
  | cons a n ih =>
    cases m with
    | nil => cases h
    | cons b m =>
      rw [diverges, Bool.or_eq_true, Bool.not_eq_true'] at h
      by_cases same : alike a b = true
      · have rest := ih (h.resolve_left (by simp [same]))
        have quotes : a = '"' ↔ b = '"' := by
          constructor
          · rintro rfl
            exact (alike_quote.1 same).symm
          · rintro rfl
            exact (alike_quote.1 (alike_comm ▸ same)).symm
        rw [doubled_cons, doubled_cons]
        by_cases quote : a = '"'
        · rw [if_pos quote, if_pos (quotes.1 quote), diverges_append_left]
          exact rest
        · rw [if_neg quote, if_neg (mt quotes.2 quote)]
          simp [diverges, rest]
      · rw [Bool.not_eq_true] at same
        rw [doubled_cons, doubled_cons]
        split <;> split <;> simp_all [diverges]

theorem diverges_quotedChars (h : diverges n m = true) :
    diverges (Identifier.quotedChars n) (Identifier.quotedChars m) = true := by
  have body := diverges_append_right (diverges_doubled h) ['"'] ['"']
  rw [Identifier.quotedChars, Identifier.quotedChars, List.cons_append, List.cons_append]
  simpa [diverges] using body

/-- No text begins with spellings of two texts that diverge. -/
theorem append_ne_of_diverges (h : diverges n m = true) (hx : AllAlike n x) (hy : AllAlike m y) :
    x ++ r ≠ y ++ r' := by
  induction n generalizing m x y with
  | nil => cases h
  | cons a n ih =>
    cases m with
    | nil => cases h
    | cons b m =>
      cases hx with
      | @cons _ c _ x first hx =>
        cases hy with
        | @cons _ d _ y first' hy =>
          intro same
          obtain ⟨rfl, rest⟩ := List.cons.inj same
          rw [diverges, Bool.or_eq_true, Bool.not_eq_true', ← Bool.not_eq_true] at h
          rcases h with unlike | h
          · exact unlike (alike_trans first (alike_comm ▸ first'))
          · exact ih h hx hy rest

/-- A text that begins with something other than a quote. -/
def StartsBare (n : List Char) : Prop := ∃ c rest, n = c :: rest ∧ c ≠ '"'

theorem StartsBare.diverges_quotedChars (h : StartsBare n) (m : List Char) :
    diverges (Identifier.quotedChars m) n = true := by
  obtain ⟨c, rest, rfl, bare⟩ := h
  have unlike : alike '"' c = false := by
    rw [← Bool.not_eq_true, alike_quote]
    exact Ne.symm bare
  simp [Identifier.quotedChars, diverges, unlike]

/-- Names that diverge have no spellings in common, between quotes or without them. -/
theorem Spelling.append_ne (h : diverges n m = true) (hn : StartsBare n) (hm : StartsBare m)
    (hx : Spelling Alike (.name n) x) (hy : Spelling Alike (.name m) y) : x ++ r ≠ y ++ r' := by
  cases hx with
  | bare hx =>
    cases hy with
    | bare hy => exact append_ne_of_diverges h hx hy
    | quoted hy => exact (append_ne_of_diverges (hn.diverges_quotedChars m) hy hx).symm
  | quoted hx =>
    cases hy with
    | bare hy => exact append_ne_of_diverges (hm.diverges_quotedChars n) hx hy
    | quoted hy => exact append_ne_of_diverges (Template.diverges_quotedChars h) hx hy

theorem AllAlike.common (hn : AllAlike n x) (hm : AllAlike m x) : AllAlike n m := by
  refine (forall₂_common hn hm).imp ?_
  rintro a b ⟨c, first, second⟩
  exact alike_trans first (alike_comm ▸ second)

theorem AllWord.append (hn : AllWord n) (hm : AllWord m) : AllWord (n ++ m) :=
  List.forall_mem_append.2 ⟨hn, hm⟩

theorem AllWord.ne_quote {c : Char} (h : AllWord n) (hc : c ∈ n) : c ≠ '"' := by
  have quote : isWordChar '"' = false := by decide +kernel
  rintro rfl
  rw [h '"' hc] at quote
  cases quote

theorem AllWord.startsBare (h : AllWord n) (notEmpty : n ≠ []) : StartsBare n := by
  obtain ⟨c, rest, rfl⟩ := List.exists_cons_of_ne_nil notEmpty
  exact ⟨c, rest, rfl, h.ne_quote List.mem_cons_self⟩

theorem AllWord.quotedChars (h : AllWord n) : Identifier.quotedChars n = '"' :: (n ++ ['"']) := by
  have single : Identifier.doubled n = n.flatMap fun c => [c] :=
    List.flatMap_congr fun c hc => if_neg (h.ne_quote hc)
  rw [Identifier.quotedChars, single, List.flatMap_singleton', List.cons_append]

/-- Names made of words are spelled alike only if they differ at most in case. -/
theorem Spelling.allAlike (hn : AllWord n) (hm : AllWord m) (nonempty : n ≠ []) (nonempty' : m ≠ [])
    (hx : Spelling Alike (.name n) x) (hx' : Spelling Alike (.name m) x) : AllAlike n m := by
  have bare := hn.startsBare nonempty
  have bare' := hm.startsBare nonempty'
  cases hx with
  | bare hx =>
    cases hx' with
    | bare hx' => exact AllAlike.common hx hx'
    | quoted hx' =>
      have differ : x ++ [] ≠ x ++ [] :=
        append_ne_of_diverges (bare.diverges_quotedChars m) hx' hx
      exact absurd rfl differ
  | quoted hx =>
    cases hx' with
    | bare hx' =>
      have differ : x ++ [] ≠ x ++ [] :=
        append_ne_of_diverges (bare'.diverges_quotedChars n) hx hx'
      exact absurd rfl differ
    | quoted hx' =>
      have same := AllAlike.common hx hx'
      rw [hn.quotedChars, hm.quotedChars] at same
      have length := same.length_eq
      simp only [List.length_cons, List.length_append] at length
      cases same with
      | cons _ same => exact (forall₂_of_append same (by omega)).1

end Names

end Template
end GeoConformance
