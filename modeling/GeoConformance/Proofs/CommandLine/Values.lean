import GeoConformance.CommandLine.Grammar
import GeoConformance.Proofs.Failing
import Mathlib.Data.List.Nodup

/-!
# The values of switches

A command line that is read through holds for every switch only values that the switch accepts, in
whatever way they are written: behind the switch or attached to it, under its name or the beginning
of its name.
-/

namespace GeoConformance
namespace CommandLine

variable {g : Grammar}

/-- A switch of the grammar that goes by this title and accepts this value. -/
def Grammar.Accepts (g : Grammar) (given : String × Option String) : Prop :=
  ∃ s ∈ g.switches, s.title = given.1 ∧
    ∀ accepts, s.role = .value accepts → given.2.all accepts = true

/-- Only switches of the grammar are used, each with a value that it accepts. -/
def Parsed.IsAccepted (g : Grammar) (p : Parsed) : Prop := ∀ given ∈ p.given, g.Accepts given

/-! ## The switches that words stand for -/

section Words

variable {switch : Switch}

theorem Grammar.mem_of_named {name : List Char} (h : g.named? name = some switch) :
    switch ∈ g.switches :=
  List.mem_of_find?_eq_some h

theorem Grammar.mem_of_beginning {start : List Char} (h : switch ∈ g.beginning start) :
    switch ∈ g.switches := by
  obtain ⟨s, member, named⟩ := List.mem_flatMap.1 h
  obtain ⟨-, -, rfl⟩ := List.mem_map.1 named
  exact member

/-- A word that stands for a switch stands for one of the grammar. -/
def Word.IsOf (g : Grammar) : Word → Prop
  | .switch s _ => s ∈ g.switches
  | _ => True

theorem unnamed_isOf (s : String) : (Grammar.unnamed s).IsOf g := by
  unfold Grammar.unnamed
  split <;> trivial

theorem Grammar.longWord_isOf {s : String} {w : Word} (h : g.longWord s = .ok w) : w.IsOf g := by
  unfold longWord at h
  simp only at h
  split at h
  · cases h
    exact unnamed_isOf s
  · rename_i switch only
    cases h
    exact mem_of_beginning (only ▸ List.mem_singleton_self switch)
  · cases h

theorem Grammar.word_isOf {s : String} {w : Word} (h : g.word s = .ok w) : w.IsOf g := by
  unfold word at h
  split at h
  · split at h
    · rename_i named
      cases h
      exact mem_of_named named
    · simp only at h
      split at h
      · rename_i named _
        cases h
        exact mem_of_named named
      · split at h
        · exact longWord_isOf h
        · split at h
          · rename_i named
            cases h
            exact mem_of_named named
          · cases h
            exact unnamed_isOf s
  · cases h
    trivial

theorem Grammar.words_isOf {arguments : List String} {ws : List Word}
    (h : g.words arguments = .ok ws) : ∀ w ∈ ws, w.IsOf g := by
  induction arguments generalizing ws with
  | nil =>
    cases h
    exact List.forall_mem_nil _
  | cons s rest ih =>
    rw [words] at h
    split at h
    · cases h
      exact List.forall_mem_cons.2 ⟨trivial, List.forall_mem_map.2 fun _ _ => trivial⟩
    · obtain ⟨w, first, h⟩ := bind_eq_ok.1 h
      obtain ⟨more, others, h⟩ := bind_eq_ok.1 h
      cases h
      exact List.forall_mem_cons.2 ⟨word_isOf first, ih others⟩

end Words

/-! ## The uses that a word comes to -/

namespace Expansion

/-- Only switches of the grammar are used or wait for a value. -/
structure IsOf (g : Grammar) (e : Expansion) : Prop where
  uses : ∀ use ∈ e.uses, use.1 ∈ g.switches
  waiting : ∀ s ∈ e.waiting, s ∈ g.switches

variable {s : Switch} {e : Expansion}

theorem isOf_use (member : s ∈ g.switches) (value : Option String) :
    IsOf g ⟨[(s, value)], none⟩ :=
  ⟨List.forall_mem_singleton.2 member, fun _ h => nomatch h⟩

theorem alone_isOf (member : s ∈ g.switches) : (alone s).IsOf g := by
  unfold alone
  split
  · exact ⟨List.forall_mem_nil _, fun _ h => Option.mem_some.1 h ▸ member⟩
  · exact isOf_use member none

theorem byEquals_isOf (member : s ∈ g.switches) {value : List Char} (h : byEquals s value = .ok e) :
    e.IsOf g := by
  unfold byEquals at h
  split at h
  · cases h
    exact isOf_use member _
  · cases h

theorem joined_isOf (member : s ∈ g.switches) {chars : List Char} (h : joined g s chars = .ok e) :
    e.IsOf g := by
  induction chars generalizing s e with
  | nil =>
    cases h
    exact alone_isOf member
  | cons c rest ih =>
    rw [joined] at h
    split at h
    · cases h
      exact isOf_use member _
    · split at h
      · cases h
      · rename_i next named
        cases later : joined g next rest with
        | error u =>
          rw [later] at h
          cases h
        | ok e =>
        rw [later] at h
        cases h
        have within := ih (Grammar.mem_of_named named) later
        exact ⟨List.forall_mem_cons.2 ⟨member, within.uses⟩, within.waiting⟩

theorem ofAttachment_isOf (member : s ∈ g.switches) {attached : Attachment}
    (h : ofAttachment g s attached = .ok e) : e.IsOf g := by
  cases attached with
  | none =>
    cases h
    exact alone_isOf member
  | byEquals value => exact byEquals_isOf member h
  | joined chars => exact joined_isOf member h

end Expansion

/-! ## The values that are kept -/

namespace Progress

variable {p p' : Progress}

theorem use_isAccepted {uses : List Use} (members : ∀ use ∈ uses, use.1 ∈ g.switches)
    (kept : p.parsed.IsAccepted g) (h : p.use uses = .ok p') : p'.parsed.IsAccepted g := by
  induction uses generalizing p with
  | nil =>
    cases h
    exact kept
  | cons use rest ih =>
    obtain ⟨s, value⟩ := use
    obtain ⟨member, members⟩ := List.forall_mem_cons.1 members
    have more (accepted : ∀ accepts, s.role = .value accepts → value.all accepts = true) :
        Parsed.IsAccepted g ⟨p.parsed.operand, p.parsed.given ++ [(s.title, value)]⟩ :=
      List.forall_mem_append.2
        ⟨kept, List.forall_mem_singleton.2 ⟨s, member, rfl, accepted⟩⟩
    rw [Progress.use] at h
    simp only at h
    split at h
    · cases h
    · rename_i flag
      exact ih members (more fun accepts role => by rw [flag] at role; cases role) h
    · rename_i accepts role
      split at h
      · rename_i accepted
        refine ih members (more fun accepts' role' => ?_) h
        rw [role] at role'
        cases role'
        exact accepted
      · cases h

/-- A switch is read with its uses, and where it waits for a value with the operand behind it. -/
theorem run_switch (p : Progress) (s : Switch) (attached : Attachment) (rest : List Word) :
    run g p (.switch s attached :: rest) =
      Expansion.ofAttachment g s attached >>= fun e =>
        match e.waiting, rest with
        | none, rest => p.use e.uses >>= fun p => run g p rest
        | some s, .operand value :: rest =>
          p.use (e.uses ++ [(s, some value)]) >>= fun p => run g p rest
        | some _, _ => .error .misused := by
  -- the definition is by recursion on the words, two of which may be taken at once
  delta run
  refine congrArg (Expansion.ofAttachment g s attached >>= ·) (funext fun e => ?_)
  obtain ⟨uses, waiting⟩ := e
  cases waiting with
  | none => rfl
  | some s =>
    cases rest with
    | nil => rfl
    | cons w rest => cases w <;> rfl

theorem operand_given (p : Progress) (s : String) :
    (p.operand g s).parsed.given = p.parsed.given := by
  unfold operand
  split <;> rfl

theorem separator_given (p : Progress) (next : Option Word) :
    (p.separator g next).parsed.given = p.parsed.given := by
  unfold separator
  extract_lets opens
  split <;> rfl

/-- Neither operands nor separators change what is given. -/
theorem run_isAccepted (p p' : Progress) :
    ∀ ws : List Word, (∀ w ∈ ws, w.IsOf g) → p.parsed.IsAccepted g → run g p ws = .ok p' →
      p'.parsed.IsAccepted g
  | [], _, kept, h => by
    cases h
    exact kept
  | .operand s :: rest, members, kept, h =>
    run_isAccepted _ p' rest (List.forall_mem_cons.1 members).2
      (by rwa [Parsed.IsAccepted, operand_given]) h
  | .separator :: rest, members, kept, h =>
    run_isAccepted _ p' rest (List.forall_mem_cons.1 members).2
      (by rwa [Parsed.IsAccepted, separator_given]) h
  | .unknown :: rest, members, kept, h =>
    run_isAccepted p.surplus p' rest (List.forall_mem_cons.1 members).2 kept h
  | .switch s attached :: rest, members, kept, h => by
    obtain ⟨member, members⟩ := List.forall_mem_cons.1 members
    rw [run_switch] at h
    obtain ⟨e, expanded, h⟩ := bind_eq_ok.1 h
    have within := Expansion.ofAttachment_isOf member expanded
    split at h
    case h_1 =>
      obtain ⟨q, used, h⟩ := bind_eq_ok.1 h
      exact run_isAccepted q p' _ members (use_isAccepted within.uses kept used) h
    case h_2 _ _ waiting value rest waits _ _ =>
      obtain ⟨q, used, h⟩ := bind_eq_ok.1 h
      have uses : ∀ use ∈ e.uses ++ [(waiting, some value)], use.1 ∈ g.switches :=
        List.forall_mem_append.2 ⟨within.uses,
          List.forall_mem_singleton.2 (within.waiting _ (Option.mem_def.2 waits))⟩
      exact run_isAccepted q p' rest (List.forall_mem_cons.1 members).2
        (use_isAccepted uses kept used) h
    case h_3 => cases h

end Progress

/-- Every switch that a command line gives is one of the grammar and accepts its value. -/
theorem parse_isAccepted {arguments : List String} {p : Parsed} (h : g.parse arguments = .ok p) :
    p.IsAccepted g := by
  obtain ⟨ws, words, h⟩ := bind_eq_ok.1 h
  obtain ⟨progress, ran, h⟩ := bind_eq_ok.1 h
  have accepted := Progress.run_isAccepted ⟨⟨none, []⟩, false, false⟩ progress ws
    (Grammar.words_isOf words) (List.forall_mem_nil _) ran
  split at h
  · cases h
  · cases h
    exact accepted

/-! ## Numbers among the values -/

namespace Parsed

variable {p : Parsed} {title : String}

/-- The last integer under a title. -/
def int? (p : Parsed) (title : String) : Option Int :=
  (p.lastText? title).bind Numeral.readInt?

/-- The last real under a title. -/
def real? (p : Parsed) (title : String) : Option Real64 :=
  (p.lastText? title).bind Numeral.readReal?

theorem mem_given_of_lastText {text : String} (h : p.lastText? title = some text) :
    (title, some text) ∈ p.given := by
  obtain ⟨_, last, rfl⟩ := Option.bind_eq_some_iff.1 h
  obtain ⟨given, member, same⟩ := List.mem_map.1 (List.mem_of_getLast? last)
  obtain ⟨member, titled⟩ := List.mem_filter.1 member
  rwa [← same, ← eq_of_beq titled]

/-- Where no two switches share a title, a text under the title of a switch is accepted by it. -/
theorem accepts_lastText (accepted : p.IsAccepted g)
    (distinct : (g.switches.map Switch.title).Nodup) {s : Switch} (member : s ∈ g.switches)
    {accepts : String → Bool} (role : s.role = .value accepts) {text : String}
    (h : p.lastText? s.title = some text) : accepts text = true := by
  obtain ⟨s', member', titled, accepted⟩ := accepted _ (mem_given_of_lastText h)
  cases List.inj_on_of_nodup_map distinct member' member titled
  exact accepted accepts role

theorem isSome_int? (accepted : p.IsAccepted g) (distinct : (g.switches.map Switch.title).Nodup)
    (member : intSwitch title ∈ g.switches) :
    (p.int? title).isSome = (p.lastText? title).isSome := by
  cases h : p.lastText? title with
  | none =>
    rw [int?, h, Option.bind_none]
    rfl
  | some text =>
    rw [int?, h, Option.bind_some]
    exact accepts_lastText accepted distinct member rfl h

theorem isSome_real? (accepted : p.IsAccepted g) (distinct : (g.switches.map Switch.title).Nodup)
    (member : realSwitch title ∈ g.switches) :
    (p.real? title).isSome = (p.lastText? title).isSome := by
  cases h : p.lastText? title with
  | none =>
    rw [real?, h, Option.bind_none]
    rfl
  | some text =>
    rw [real?, h, Option.bind_some]
    exact accepts_lastText accepted distinct member rfl h

end Parsed

end CommandLine
end GeoConformance
