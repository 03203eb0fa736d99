import GeoConformance.Proofs.Template.Parts
import Mathlib.Data.List.TakeWhile

/-!
# Other blanks in a text

No token of a template begins or ends with a blank, and only an identifier between quotes has blanks
inside. A run of blanks in a text therefore lies in a gap or between quotes, or after the last
token, and any other run will do there as well. Trimming takes away the runs at the two ends.
-/

namespace GeoConformance
namespace Template

open Text

def StartsSolid (s : List Char) : Prop := ∃ c, s.head? = some c ∧ isBlank c = false

def EndsSolid (s : List Char) : Prop := ∃ c, s.getLast? = some c ∧ isBlank c = false

section Runs

variable {x y s s' g g' front back : List Char}

theorem AllBlank.append (h : AllBlank x) (h' : AllBlank y) : AllBlank (x ++ y) :=
  List.forall_mem_append.2 ⟨h, h'⟩

theorem StartsSolid.of_append (h : StartsSolid (x ++ s)) (notEmpty : x ≠ []) : StartsSolid x := by
  obtain ⟨c, x, rfl⟩ := List.exists_cons_of_ne_nil notEmpty
  exact h

theorem EndsSolid.of_append (h : EndsSolid (s ++ x)) (notEmpty : x ≠ []) : EndsSolid x := by
  obtain ⟨c, ends, solid⟩ := h
  rw [List.getLast?_append, List.getLast?_eq_some_getLast notEmpty, Option.some_or] at ends
  exact ⟨c, (List.getLast?_eq_some_getLast notEmpty).trans ends, solid⟩

theorem AllBlank.respaced (h : AllBlank (front ++ (g ++ back))) (blank' : AllBlank g') :
    AllBlank (front ++ (g' ++ back)) := by
  obtain ⟨ofFront, rest⟩ := List.forall_mem_append.1 h
  exact AllBlank.append ofFront (AllBlank.append blank' (List.forall_mem_append.1 rest).2)

theorem StartsSolid.append (h : StartsSolid x) (s : List Char) : StartsSolid (x ++ s) := by
  obtain ⟨c, starts, solid⟩ := h
  exact ⟨c, by rw [List.head?_append, starts, Option.some_or], solid⟩

theorem EndsSolid.append (s : List Char) (h : EndsSolid x) : EndsSolid (s ++ x) := by
  obtain ⟨c, ends, solid⟩ := h
  exact ⟨c, by rw [List.getLast?_append, ends, Option.some_or], solid⟩

theorem StartsSolid.eq_nil (h : StartsSolid (x ++ s)) (blank : AllBlank x) : x = [] := by
  obtain ⟨c, starts, solid⟩ := h
  cases x with
  | nil => rfl
  | cons b x =>
    cases starts
    rw [blank c List.mem_cons_self] at solid
    cases solid

theorem EndsSolid.eq_nil (h : EndsSolid (s ++ x)) (blank : AllBlank x) : x = [] := by
  obtain ⟨c, ends, solid⟩ := h
  rw [List.getLast?_append] at ends
  cases last : x.getLast? with
  | none => exact List.getLast?_eq_none_iff.1 last
  | some b =>
    rw [last] at ends
    cases ends
    rw [blank c (List.mem_of_getLast? last)] at solid
    cases solid

/-- A run of blanks lies wholly in one of two texts of which not both have blanks where they
meet. -/
theorem split_run (apart : EndsSolid x ∨ StartsSolid y) (blank : AllBlank g)
    (whole : x ++ y = front ++ (g ++ back)) :
    (∃ a, x = front ++ (g ++ a) ∧ back = a ++ y) ∨
      ∃ b, front = x ++ b ∧ y = b ++ (g ++ back) := by
  rcases List.append_eq_append_iff.1 whole with ⟨b, rfl, rfl⟩ | ⟨a, rfl, within⟩
  · exact .inr ⟨b, rfl, rfl⟩
  · rcases List.append_eq_append_iff.1 within with ⟨b, rfl, rfl⟩ | ⟨b, rfl, rfl⟩
    · exact .inl ⟨b, rfl, rfl⟩
    · -- what the run has of the one text or what it has of the other is nothing
      obtain ⟨ofFirst, ofSecond⟩ := List.forall_mem_append.1 blank
      rcases apart with ends | starts
      · rw [ends.eq_nil ofFirst]
        exact .inr ⟨[], by simp, rfl⟩
      · rw [starts.eq_nil ofSecond]
        exact .inl ⟨[], by simp, rfl⟩

theorem exists_doubled_tail {body : List Char} (noQuote : ∀ c ∈ g, c ≠ '"')
    (h : Identifier.doubled body = g ++ back) : ∃ rest, Identifier.doubled rest = back := by
  induction g generalizing body with
  | nil => exact ⟨body, h⟩
  | cons c g ih =>
    obtain ⟨other, noQuote⟩ := List.forall_mem_cons.1 noQuote
    cases body with
    | nil => cases h
    | cons d body =>
      rw [doubled_cons] at h
      split at h
      case isTrue => exact absurd (List.cons.inj h).1.symm other
      case isFalse => exact ih noQuote (List.cons.inj h).2

theorem doubled_eq_self (noQuote : ∀ c ∈ g, c ≠ '"') : Identifier.doubled g = g := by
  have single : Identifier.doubled g = g.flatMap fun c => [c] :=
    List.flatMap_congr fun c hc => if_neg (noQuote c hc)
  rw [single, List.flatMap_singleton']

/-- In the body of a quoted identifier a run without quotes may be replaced by another one. -/
theorem exists_doubled {body : List Char} (notEmpty : g ≠ []) (noQuote : ∀ c ∈ g, c ≠ '"')
    (noQuote' : ∀ c ∈ g', c ≠ '"') (h : Identifier.doubled body = front ++ (g ++ back)) :
    ∃ body', Identifier.doubled body' = front ++ (g' ++ back) := by
  induction body generalizing front with
  | nil =>
    obtain ⟨-, rest⟩ := List.append_eq_nil_iff.1 h.symm
    exact absurd (List.append_eq_nil_iff.1 rest).1 notEmpty
  | cons c body ih =>
    cases front with
    | nil =>
      obtain ⟨rest, doubled⟩ := exists_doubled_tail noQuote h
      exact ⟨g' ++ rest, by rw [Identifier.doubled_append, doubled, doubled_eq_self noQuote']; rfl⟩
    | cons d front =>
      rw [doubled_cons] at h
      split at h
      case isTrue quote =>
        subst quote
        obtain ⟨rfl, rest⟩ := List.cons.inj h
        cases front with
        | nil =>
          obtain ⟨b, g, rfl⟩ := List.exists_cons_of_ne_nil notEmpty
          exact absurd (List.cons.inj rest).1.symm (noQuote b List.mem_cons_self)
        | cons e front =>
          obtain ⟨rfl, within⟩ := List.cons.inj rest
          obtain ⟨body', doubled⟩ := ih within
          exact ⟨'"' :: body', by rw [doubled_cons, if_pos rfl, doubled]; rfl⟩
      case isFalse other =>
        obtain ⟨rfl, rest⟩ := List.cons.inj h
        obtain ⟨body', doubled⟩ := ih rest
        exact ⟨c :: body', by rw [doubled_cons, if_neg other, doubled]; rfl⟩

end Runs

/-- A token that neither begins nor ends with a blank and has none outside of quotes. -/
def IsSolid : Token → Prop
  | .word w => w ≠ [] ∧ NoBlank w
  | .name n => n ≠ [] ∧ NoBlank n
  | .mark c => isBlank c = false
  | .anyIdentifier | .unequal => True

section Spellings

variable {t : Token} {x g g' front back : List Char}

theorem ne_quote_of_isBlank {c : Char} (h : isBlank c = true) : c ≠ '"' := by
  rintro rfl
  exact absurd h (by decide)

theorem NoBlank.solid (h : NoBlank x) (notEmpty : x ≠ []) : StartsSolid x ∧ EndsSolid x := by
  refine ⟨⟨x.head notEmpty, List.head?_eq_some_head notEmpty, h _ (List.head_mem notEmpty)⟩,
    ⟨x.getLast notEmpty, List.getLast?_eq_some_getLast notEmpty, h _ (List.getLast_mem notEmpty)⟩⟩

theorem solid_quotedChars (body : List Char) :
    StartsSolid (Identifier.quotedChars body) ∧ EndsSolid (Identifier.quotedChars body) :=
  ⟨⟨'"', rfl, by decide⟩, EndsSolid.append ('"' :: Identifier.doubled body) ⟨'"', rfl, by decide⟩⟩

/-- Outside of quotes there is nothing to respace in a token. -/
theorem IsSolid.spelling (solid : IsSolid t) (spelled : Spelling Alike t x) :
    x ≠ [] ∧ NoBlank x ∨
      ∃ body, t = .anyIdentifier ∧ x = Identifier.quotedChars body ∧ body ≠ [] := by
  cases spelled with
  | word same => exact .inl ⟨AllAlike.ne_nil solid.1 same, solid.2.of_allAlike same⟩
  | bare same => exact .inl ⟨AllAlike.ne_nil solid.1 same, solid.2.of_allAlike same⟩
  | quoted same =>
    exact .inl ⟨AllAlike.ne_nil (by simp [Identifier.quotedChars]) same,
      solid.2.quotedChars.of_allAlike same⟩
  | identifier notEmpty word => exact .inl ⟨notEmpty, word.noBlank⟩
  | quotedIdentifier notEmpty => exact .inr ⟨_, rfl, rfl, notEmpty⟩
  | exclamation => exact .inl ⟨by simp, by decide⟩
  | brackets => exact .inl ⟨by simp, by decide⟩
  | mark same =>
    refine .inl ⟨by simp, ?_⟩
    rw [NoBlank, List.forall_mem_singleton, ← isBlank_of_alike same]
    exact solid

theorem IsSolid.ends (solid : IsSolid t) (spelled : Spelling Alike t x) :
    StartsSolid x ∧ EndsSolid x := by
  rcases solid.spelling spelled with ⟨notEmpty, noBlank⟩ | ⟨body, -, rfl, -⟩
  · exact noBlank.solid notEmpty
  · exact solid_quotedChars body

theorem Spelling.respaced (solid : IsSolid t) (notEmpty : g ≠ []) (notEmpty' : g' ≠ [])
    (blank : AllBlank g) (blank' : AllBlank g')
    (spelled : Spelling Alike t (front ++ (g ++ back))) :
    Spelling Alike t (front ++ (g' ++ back)) := by
  rcases solid.spelling spelled with ⟨-, noBlank⟩ | ⟨body, rfl, whole, -⟩
  · obtain ⟨b, g, rfl⟩ := List.exists_cons_of_ne_nil notEmpty
    have visible := noBlank b (by simp)
    rw [blank b List.mem_cons_self] at visible
    cases visible
  · -- the run lies behind the opening quote and before the closing one
    have apart : EndsSolid ['"'] := ⟨'"', rfl, by decide⟩
    have apart' : StartsSolid ['"'] := ⟨'"', rfl, by decide⟩
    have opened : ['"'] ++ (Identifier.doubled body ++ ['"']) = front ++ (g ++ back) := whole.symm
    have short : ∀ {u v : List Char}, ['"'] ≠ u ++ (g ++ v) := by
      intro u v single
      obtain ⟨b, g, rfl⟩ := List.exists_cons_of_ne_nil notEmpty
      have member : b ∈ ['"'] := by simp [single]
      exact ne_quote_of_isBlank (blank b List.mem_cons_self) (List.mem_singleton.1 member)
    rcases split_run (.inl apart) blank opened with ⟨a, single, -⟩ | ⟨front, rfl, closed⟩
    · exact absurd single short
    rcases split_run (.inr apart') blank closed with ⟨back, within, rfl⟩ | ⟨b, -, single⟩
    · obtain ⟨body', doubled⟩ := exists_doubled notEmpty
        (fun c hc => ne_quote_of_isBlank (blank c hc))
        (fun c hc => ne_quote_of_isBlank (blank' c hc)) within
      have body_ne : body' ≠ [] := by
        rintro rfl
        have nothing := (List.append_eq_nil_iff.1 doubled.symm).2
        exact notEmpty' (List.append_eq_nil_iff.1 nothing).1
      have requoted : Identifier.quotedChars body' =
          ['"'] ++ front ++ (g' ++ (back ++ ['"'])) := by
        rw [Identifier.quotedChars, doubled]
        simp
      exact requoted ▸ .quotedIdentifier body_ne
    · exact absurd single short

end Spellings

section Blanks

variable {t : Token} {ts : List Token} {s g g' front back : List Char}

theorem Ending.respaced (notEmpty : g ≠ []) (blank : AllBlank g) (blank' : AllBlank g')
    (h : Ending (front ++ (g ++ back))) : Ending (front ++ (g' ++ back)) := by
  obtain ⟨w, e, whole, gap, ending⟩ := h
  have split : (∃ a, w = front ++ (g ++ a) ∧ back = a ++ e) ∨
      ∃ b, front = w ++ b ∧ e = b ++ (g ++ back) := by
    rcases ending with rfl | rfl
    · exact .inl ⟨back, by simpa using whole.symm, by simp⟩
    · exact split_run (.inr ⟨';', rfl, by decide⟩) blank whole.symm
  rcases split with ⟨a, rfl, rfl⟩ | ⟨b, rfl, within⟩
  · exact ⟨front ++ (g' ++ a), e, by simp, AllBlank.respaced gap blank', ending⟩
  · obtain ⟨c, g, rfl⟩ := List.exists_cons_of_ne_nil notEmpty
    have member : c ∈ e := by simp [within]
    rcases ending with rfl | rfl
    · cases member
    · have solid : isBlank ';' = false := by decide
      rw [← List.mem_singleton.1 member, blank c List.mem_cons_self] at solid
      cases solid

theorem Gap.respaced {u : Token} (notEmpty' : g' ≠ []) (blank' : AllBlank g')
    (h : Gap t u (front ++ (g ++ back))) : Gap t u (front ++ (g' ++ back)) := by
  refine ⟨AllBlank.respaced h.1 blank', fun empty => ?_⟩
  exact absurd (List.append_eq_nil_iff.1 (List.append_eq_nil_iff.1 empty).2).1 notEmpty'

/-- The run of blanks lies in the gap, in the token, or in what follows them. -/
theorem WrittenAfter.respaced (notEmpty : g ≠ []) (notEmpty' : g' ≠ []) (blank : AllBlank g)
    (blank' : AllBlank g') (solid : ∀ u ∈ ts, IsSolid u)
    (h : WrittenAfter Alike t ts (front ++ (g ++ back))) :
    WrittenAfter Alike t ts (front ++ (g' ++ back)) := by
  generalize whole : front ++ (g ++ back) = s at h
  induction h generalizing front with
  | ending ends => exact .ending (Ending.respaced notEmpty blank blank' (whole ▸ ends))
  | @token t u us gap x s inGap spelled rest ih =>
    obtain ⟨first, others⟩ := List.forall_mem_cons.1 solid
    obtain ⟨starts, ends⟩ := first.ends spelled
    rcases split_run (.inr (starts.append s)) blank whole.symm with
      ⟨a, rfl, rfl⟩ | ⟨front, rfl, behind⟩
    · have written := WrittenAfter.token (inGap.respaced notEmpty' blank') spelled rest
      simpa using written
    rcases split_run (.inl ends) blank behind with ⟨a, rfl, rfl⟩ | ⟨front, rfl, rfl⟩
    · have written := WrittenAfter.token inGap
        (spelled.respaced first notEmpty notEmpty' blank blank') rest
      simpa using written
    · have written := WrittenAfter.token inGap spelled (ih others rfl)
      simpa using written

theorem Written.respaced (notEmpty : g ≠ []) (notEmpty' : g' ≠ []) (blank : AllBlank g)
    (blank' : AllBlank g') (solid : ∀ t ∈ ts, IsSolid t)
    (h : Written Alike ts (front ++ (g ++ back))) : Written Alike ts (front ++ (g' ++ back)) := by
  generalize whole : front ++ (g ++ back) = s at h
  cases h with
  | ending ends => exact .ending (Ending.respaced notEmpty blank blank' (whole ▸ ends))
  | @token t ts x s spelled rest =>
    obtain ⟨first, others⟩ := List.forall_mem_cons.1 solid
    rcases split_run (.inl (first.ends spelled).2) blank whole.symm with
      ⟨a, rfl, rfl⟩ | ⟨front, rfl, rfl⟩
    · have written := Written.token (spelled.respaced first notEmpty notEmpty' blank blank') rest
      simpa using written
    · have written := Written.token spelled
        (rest.respaced notEmpty notEmpty' blank blank' others)
      simpa using written

end Blanks

section Trimming

variable {s m f b g g' front back : List Char}

theorem dropWhile_append_solid (blank : AllBlank g) (starts : StartsSolid s) :
    (g ++ s).dropWhile isBlank = s := by
  obtain ⟨c, first, visible⟩ := starts
  rw [List.dropWhile_append_of_pos blank]
  cases s with
  | nil => rfl
  | cons x s =>
    cases first
    exact List.dropWhile_cons_of_neg (by simp [visible])

/-- Whatever blanks stand around a text, it is what trimming leaves. -/
theorem trimBlanks_eq (blank : AllBlank f) (blank' : AllBlank b) (starts : StartsSolid m)
    (ends : EndsSolid m) : trimBlanks (f ++ (m ++ b)) = m := by
  have reversed : StartsSolid m.reverse := by
    obtain ⟨c, last, visible⟩ := ends
    exact ⟨c, by rw [List.head?_reverse, last], visible⟩
  have behind : AllBlank b.reverse := fun c hc => blank' c (List.mem_reverse.1 hc)
  rw [trimBlanks, trimClass, dropWhile_append_solid blank (starts.append b), List.reverse_append,
    dropWhile_append_solid behind reversed, List.reverse_reverse]

theorem trimBlanks_of_allBlank (blank : AllBlank s) : trimBlanks s = [] := by
  rw [trimBlanks, trimClass, List.dropWhile_eq_nil_iff.2 blank]
  rfl

theorem allBlank_or_starts (s : List Char) :
    AllBlank s ∨ ∃ f m, s = f ++ m ∧ AllBlank f ∧ StartsSolid m := by
  induction s with
  | nil => exact .inl fun c hc => nomatch hc
  | cons c s ih =>
    by_cases blank : isBlank c = true
    · rcases ih with rest | ⟨f, m, rfl, front, starts⟩
      · exact .inl (List.forall_mem_cons.2 ⟨blank, rest⟩)
      · exact .inr ⟨c :: f, m, rfl, List.forall_mem_cons.2 ⟨blank, front⟩, starts⟩
    · exact .inr ⟨[], c :: s, rfl, fun d hd => (nomatch hd), c, rfl, by simpa using blank⟩

theorem allBlank_or_ends (s : List Char) :
    AllBlank s ∨ ∃ m b, s = m ++ b ∧ AllBlank b ∧ EndsSolid m := by
  rcases allBlank_or_starts s.reverse with blank | ⟨f, m, reversed, blank, c, starts, visible⟩
  · exact .inl fun c hc => blank c (List.mem_reverse.2 hc)
  · refine .inr ⟨m.reverse, f.reverse, ?_, fun c hc => blank c (List.mem_reverse.1 hc), c, ?_,
      visible⟩
    · rw [← List.reverse_append, ← reversed, List.reverse_reverse]
    · rw [List.getLast?_reverse, starts]

/-- A text is nothing but blanks, or it has something else between its first and its last blanks. -/
theorem allBlank_or_solid (s : List Char) :
    AllBlank s ∨ ∃ f m b, s = f ++ (m ++ b) ∧ AllBlank f ∧ AllBlank b ∧ StartsSolid m ∧
      EndsSolid m := by
  rcases allBlank_or_starts s with blank | ⟨f, m, rfl, front, starts⟩
  · exact .inl blank
  rcases allBlank_or_ends m with blank | ⟨m, b, rfl, behind, ends⟩
  · rw [← List.append_nil m] at starts
    have nothing := starts.eq_nil blank
    rw [nothing] at starts
    obtain ⟨c, first, -⟩ := starts
    cases first
  · have notEmpty : m ≠ [] := by
      rintro rfl
      obtain ⟨c, last, -⟩ := ends
      cases last
    exact .inr ⟨f, m, b, rfl, front, behind, starts.of_append notEmpty, ends⟩

theorem trimBlanks_append_left (blank : AllBlank g) : trimBlanks (g ++ s) = trimBlanks s := by
  rcases allBlank_or_solid s with all | ⟨f, m, b, rfl, first, last, starts, ends⟩
  · rw [trimBlanks_of_allBlank all, trimBlanks_of_allBlank (AllBlank.append blank all)]
  · rw [trimBlanks_eq first last starts ends, ← List.append_assoc,
      trimBlanks_eq (AllBlank.append blank first) last starts ends]

theorem trimBlanks_append_right (blank : AllBlank g) : trimBlanks (s ++ g) = trimBlanks s := by
  rcases allBlank_or_solid s with all | ⟨f, m, b, rfl, first, last, starts, ends⟩
  · rw [trimBlanks_of_allBlank all, trimBlanks_of_allBlank (AllBlank.append all blank)]
  · rw [trimBlanks_eq first last starts ends, List.append_assoc, List.append_assoc,
      trimBlanks_eq first (AllBlank.append last blank) starts ends]

/-- Where a run of blanks is replaced, trimming gives the same or has it replaced, too. -/
theorem trimBlanks_respaced (notEmpty : g ≠ []) (blank : AllBlank g) (blank' : AllBlank g') :
    trimBlanks (front ++ (g' ++ back)) = trimBlanks (front ++ (g ++ back)) ∨
      ∃ u v, trimBlanks (front ++ (g ++ back)) = u ++ (g ++ v) ∧
        trimBlanks (front ++ (g' ++ back)) = u ++ (g' ++ v) := by
  rcases allBlank_or_solid (front ++ (g ++ back)) with
    all | ⟨f, m, b, whole, first, last, starts, ends⟩
  · refine .inl ?_
    rw [trimBlanks_of_allBlank all, trimBlanks_of_allBlank (all.respaced blank')]
  have trimmed : trimBlanks (front ++ (g ++ back)) = m := by
    rw [whole]
    exact trimBlanks_eq first last starts ends
  rw [trimmed]
  rcases split_run (.inr (starts.append b)) blank whole.symm with
    ⟨a, rfl, rfl⟩ | ⟨front, rfl, behind⟩
  · have rejoined := trimBlanks_eq (first.respaced blank') last starts ends
    exact .inl (by simpa using rejoined)
  rcases split_run (.inl ends) blank behind with ⟨a, rfl, rfl⟩ | ⟨front, rfl, rfl⟩
  · have front_ne : front ≠ [] := by
      rintro rfl
      exact notEmpty (StartsSolid.eq_nil (x := g) starts blank)
    have back_ne : a ≠ [] := by
      rintro rfl
      rw [List.append_nil] at ends
      exact notEmpty (ends.eq_nil blank)
    have rejoined := trimBlanks_eq first last ((starts.of_append front_ne).append (g' ++ a))
      (((ends.of_append (by simp [back_ne])).of_append back_ne).append g' |>.append front)
    exact .inr ⟨front, a, rfl, by simpa using rejoined⟩
  · have rejoined := trimBlanks_eq first (last.respaced blank') starts ends
    exact .inl (by simpa using rejoined)

end Trimming

end Template
end GeoConformance
