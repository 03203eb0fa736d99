/-!
# Computations that can fail

How a computation comes to a result, step by step, what can be said of whatever it fails with, and
when two computations come to the same end.
-/

namespace GeoConformance

variable {ε α β : Type} {P Q : ε → Prop} {x : Except ε α}

/-- Whatever a computation fails with has a property. -/
def FailsAs (P : ε → Prop) (x : Except ε α) : Prop := ∀ e, x = .error e → P e

theorem failsAs_ok (a : α) : FailsAs P (.ok a : Except ε α) := by
  intro e h
  cases h

theorem failsAs_error {e : ε} (h : P e) : FailsAs P (.error e : Except ε α) := by
  intro e' he
  cases he
  exact h

theorem FailsAs.mono (h : FailsAs P x) (k : ∀ e, P e → Q e) : FailsAs Q x := by
  intro e he
  exact k e (h e he)

theorem FailsAs.bind {f : α → Except ε β} (h : FailsAs P x)
    (k : ∀ a, x = .ok a → FailsAs P (f a)) : FailsAs P (x >>= f) := by
  cases x with
  | ok a => exact k a rfl
  | error e => exact failsAs_error (h e rfl)

theorem FailsAs.map (h : FailsAs P x) (f : α → β) : FailsAs P (x.map f) := by
  cases x with
  | ok a => exact failsAs_ok _
  | error e => exact failsAs_error (h e rfl)

theorem failsAs_mapM {f : β → Except ε α} {xs : List β} (h : ∀ b ∈ xs, FailsAs P (f b)) :
    FailsAs P (xs.mapM f) := by
  induction xs with
  | nil => exact failsAs_ok _
  | cons b rest ih =>
    rw [List.mapM_cons]
    refine (h b (by simp)).bind fun a _ => FailsAs.bind ?_ fun as _ => failsAs_ok _
    exact ih fun b hb => h b (by simp [hb])

/-- Whatever a computation comes to, if it does not fail, has a property. -/
def SucceedsAs (P : α → Prop) (x : Except ε α) : Prop := ∀ a, x = .ok a → P a

theorem succeedsAs_ok {P : α → Prop} {a : α} (h : P a) :
    SucceedsAs P (.ok a : Except ε α) := by
  intro b hb
  cases hb
  exact h

theorem succeedsAs_bind {P : β → Prop} {f : α → Except ε β}
    (h : ∀ a, x = .ok a → SucceedsAs P (f a)) : SucceedsAs P (x >>= f) := by
  cases x with
  | ok a => exact h a rfl
  | error e =>
    intro b hb
    cases hb

theorem ok_bind (a : α) (f : α → Except ε β) : (Except.ok a >>= f) = f a := rfl

theorem bind_eq_ok {f : α → Except ε β} {b : β} :
    (x >>= f) = .ok b ↔ ∃ a, x = .ok a ∧ f a = .ok b := by
  cases x with
  | ok a =>
    constructor
    · intro h
      exact ⟨a, rfl, h⟩
    · intro h
      obtain ⟨a', ha, h⟩ := h
      cases ha
      exact h
  | error e =>
    constructor
    · intro h
      cases h
    · intro h
      obtain ⟨a', ha, _⟩ := h
      cases ha

theorem mapError_eq_ok {ε' : Type} {f : ε → ε'} {a : α} : x.mapError f = .ok a ↔ x = .ok a := by
  cases x with
  | ok b =>
    constructor <;> intro h <;> cases h <;> rfl
  | error e =>
    constructor <;> intro h <;> cases h

/-- Two computations that succeed together, with related results, or fail together, with related
failures. -/
inductive Agree {ε α : Type} (E : ε → ε → Prop) (R : α → α → Prop) :
    Except ε α → Except ε α → Prop
  | ok {a b : α} : R a b → Agree E R (.ok a) (.ok b)
  | error {e f : ε} : E e f → Agree E R (.error e) (.error f)

namespace Agree

variable {E : ε → ε → Prop} {R : α → α → Prop} {S : β → β → Prop} {y : Except ε α}

theorem self (x : Except ε α) : Agree Eq Eq x x := by
  cases x with
  | ok a => exact .ok rfl
  | error e => exact .error rfl

theorem bind {f g : α → Except ε β} (h : Agree E R x y)
    (k : ∀ a b, x = .ok a → y = .ok b → R a b → Agree E S (f a) (g b)) :
    Agree E S (x >>= f) (y >>= g) := by
  cases h with
  | ok related => exact k _ _ rfl rfl related
  | error alike => exact .error alike

theorem map {f : α → β} (h : Agree E R x y) (k : ∀ a b, R a b → S (f a) (f b)) :
    Agree E S (x.map f) (y.map f) := by
  cases h with
  | ok related => exact .ok (k _ _ related)
  | error alike => exact .error alike

theorem eq (h : Agree Eq Eq x y) : x = y := by
  cases h with
  | ok same => rw [same]
  | error same => rw [same]

end Agree

/-- A computation that succeeds with a result of one property or fails with a failure of another. -/
inductive ComesTo {ε α : Type} (E : ε → Prop) (R : α → Prop) : Except ε α → Prop
  | ok {a : α} : R a → ComesTo E R (.ok a)
  | error {e : ε} : E e → ComesTo E R (.error e)

namespace ComesTo

variable {E : ε → Prop} {R : α → Prop} {S : β → Prop}

theorem bind {f : α → Except ε β} (h : ComesTo E R x) (k : ∀ a, R a → ComesTo E S (f a)) :
    ComesTo E S (x >>= f) := by
  cases h with
  | ok result => exact k _ result
  | error failure => exact .error failure

theorem map {f : α → β} (h : ComesTo E R x) (k : ∀ a, R a → S (f a)) : ComesTo E S (x.map f) := by
  cases h with
  | ok result => exact .ok (k _ result)
  | error failure => exact .error failure

theorem mapError {ε' : Type} {E' : ε' → Prop} {f : ε → ε'} (h : ComesTo E R x)
    (k : ∀ e, E e → E' (f e)) : ComesTo E' R (x.mapError f) := by
  cases h with
  | ok result => exact .ok result
  | error failure => exact .error (k _ failure)

theorem mapM {f : β → Except ε α} {bs : List β} (h : ∀ b ∈ bs, ComesTo E R (f b)) :
    ComesTo E (∀ a ∈ ·, R a) (bs.mapM f) := by
  induction bs with
  | nil => exact .ok (List.forall_mem_nil _)
  | cons b rest ih =>
    obtain ⟨first, others⟩ := List.forall_mem_cons.1 h
    rw [List.mapM_cons]
    exact first.bind fun a result => (ih others).bind fun as results =>
      .ok (List.forall_mem_cons.2 ⟨result, results⟩)

end ComesTo

end GeoConformance
