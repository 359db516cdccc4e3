import Mathlib.Data.List.Forall2

/-!
Going back through computations that can fail. One that has come to a result has got one
from each of its parts, and so the theorems on successful runs are read off backwards.
-/

namespace SweepAudit

variable {ε ε' α α' β β' : Type}

theorem bind_eq_ok {x : Except ε α} {f : α → Except ε β} {b : β} (h : (x >>= f) = .ok b) :
    ∃ a, x = .ok a ∧ f a = .ok b := by
  cases x with
  | error e => cases h
  | ok a => exact ⟨a, rfl, h⟩

theorem bind_eq_error {x : Except ε α} {f : α → Except ε β} {e : ε} (h : (x >>= f) = .error e) :
    x = .error e ∨ ∃ a, x = .ok a ∧ f a = .error e := by
  cases x with
  | error e' =>
    cases h
    exact .inl rfl
  | ok a => exact .inr ⟨a, rfl, h⟩

theorem mapError_eq_ok {x : Except ε α} {f : ε → ε'} {a : α} (h : x.mapError f = .ok a) :
    x = .ok a := by
  cases x with
  | error e => cases h
  | ok a' =>
    cases h
    rfl

theorem toOption_eq_some {x : Except ε α} {a : α} : x.toOption = some a ↔ x = .ok a := by
  cases x <;> simp [Except.toOption]

theorem run_bind_eq_ok {x : ExceptT ε (Except ε') α} {f : α → ExceptT ε (Except ε') β} {b : β}
    (h : (x >>= f).run = .ok (.ok b)) :
    ∃ a, x.run = .ok (.ok a) ∧ (f a).run = .ok (.ok b) := by
  rw [ExceptT.run_bind] at h
  obtain ⟨result, hx, h⟩ := bind_eq_ok h
  cases result with
  | error e => cases h
  | ok a => exact ⟨a, hx, h⟩

/-! Two computations -/

/-- Two computations come to related results or to related errors. -/
inductive Both (E : ε → ε' → Prop) (R : α → α' → Prop) : Except ε α → Except ε' α' → Prop
  | ok {a : α} {a' : α'} (h : R a a') : Both E R (.ok a) (.ok a')
  | error {e : ε} {e' : ε'} (h : E e e') : Both E R (.error e) (.error e')

theorem Both.bind {E : ε → ε' → Prop} {R : α → α' → Prop} {S : β → β' → Prop}
    {x : Except ε α} {x' : Except ε' α'} {next : α → Except ε β} {next' : α' → Except ε' β'}
    (h : Both E R x x') (hnext : ∀ a a', R a a' → Both E S (next a) (next' a')) :
    Both E S (x >>= next) (x' >>= next') := by
  cases h with
  | ok h => exact hnext _ _ h
  | error h => exact .error h

/-! Lists of computations -/

variable {f : α → Except ε β} {xs : List α}

theorem mapM_eq_ok_iff {ys : List β} :
    xs.mapM f = .ok ys ↔ List.Forall₂ (fun x y => f x = .ok y) xs ys := by
  constructor
  · intro h
    induction xs generalizing ys with
    | nil =>
      cases h
      exact .nil
    | cons x xs ih =>
      rw [List.mapM_cons] at h
      obtain ⟨y, hy, h⟩ := bind_eq_ok h
      obtain ⟨ys, hys, h⟩ := bind_eq_ok h
      cases h
      exact .cons hy (ih hys)
  · intro h
    induction h with
    | nil => rfl
    | cons hy _ ih =>
      rw [List.mapM_cons, hy, ih]
      rfl

theorem mapM_ok {p : α → β → Prop} (h : ∀ x ∈ xs, ∃ y, f x = .ok y ∧ p x y) :
    ∃ ys, xs.mapM f = .ok ys ∧ List.Forall₂ p xs ys := by
  induction xs with
  | nil => exact ⟨[], rfl, .nil⟩
  | cons x xs ih =>
    obtain ⟨hx, hxs⟩ := List.forall_mem_cons.mp h
    obtain ⟨y, hy, hp⟩ := hx
    obtain ⟨ys, hys, hps⟩ := ih hxs
    refine ⟨y :: ys, ?_, .cons hp hps⟩
    rw [List.mapM_cons, hy, hys]
    rfl

/-- All of a list of computations succeed together. -/
theorem exists_mapM_iff : (∃ ys, xs.mapM f = .ok ys) ↔ ∀ x ∈ xs, ∃ y, f x = .ok y := by
  constructor
  · rintro ⟨ys, h⟩
    have hall := mapM_eq_ok_iff.mp h
    clear h
    induction hall with
    | nil => exact fun _ hx => absurd hx List.not_mem_nil
    | cons hy _ ih => exact List.forall_mem_cons.mpr ⟨⟨_, hy⟩, ih⟩
  · intro h
    obtain ⟨ys, hys, -⟩ := @mapM_ok _ _ _ f xs (fun _ _ => True) fun x hx =>
      (h x hx).imp fun _ hy => ⟨hy, trivial⟩
    exact ⟨ys, hys⟩

theorem mapM_eq_error {e : ε} (h : xs.mapM f = .error e) : ∃ x ∈ xs, f x = .error e := by
  induction xs with
  | nil => cases h
  | cons x xs ih =>
    rw [List.mapM_cons] at h
    rcases bind_eq_error h with hx | ⟨y, -, h⟩
    · exact ⟨x, List.mem_cons_self, hx⟩
    · rcases bind_eq_error h with hxs | ⟨ys, -, h⟩
      · obtain ⟨x', hmem, hx'⟩ := ih hxs
        exact ⟨x', List.mem_cons_of_mem x hmem, hx'⟩
      · cases h

end SweepAudit
