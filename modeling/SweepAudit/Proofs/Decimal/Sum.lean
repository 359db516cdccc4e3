import SweepAudit.Proofs.Decimal.Grid
import SweepAudit.Proofs.Decimal.Equal
import SweepAudit.Proofs.Except
import Mathlib.Algebra.Order.BigOperators.Group.List

/-!
Sums of several decimals, added up one after another. On a common grid they are exact. Elsewhere
they are rounded on the way, so both what they come to and whether they are given up may depend
on the order; but they stay within a unit for each summand, and sums of positive numbers are
positive.
-/

namespace SweepAudit.Decimal

variable {n : Nat} {xs : List Decimal} {x y z start : Decimal} {o : Overflow}

theorem add_eq_ok_iff : x.add y = .ok z ↔ x.add? y = some z := by
  rw [add]
  cases x.add? y <;> simp [orOverflow]

theorem add_eq_error_iff : x.add y = .error o ↔ o = .addition ∧ Beyond (x.value + y.value) := by
  rw [add, ← add?_eq_none_iff]
  cases x.add? y <;> simp [orOverflow, eq_comm]

theorem add_exact (h : x.add y = .ok z) (hq : Representable (x.value + y.value)) :
    z.value = x.value + y.value := by
  have hround := add?_rounded x y
  rw [add_eq_ok_iff.mp h] at hround
  exact hround.eq hq

/-- There is no room for one more than a decimal if it is the greatest one, and only then: next to
`2 ^ 96` decimals are whole numbers. -/
theorem beyond_add_one_iff (h0 : 0 ≤ x.value) :
    Beyond (x.value + 1) ↔ x.value = greatest.value := by
  rw [Beyond, abs_of_nonneg (by linarith)]
  constructor
  · intro hbeyond
    have hwhole : x.scale ≤ 0 := by
      by_contra hscale
      have hsmall := @value_mul_le x 1 (by omega)
      rw [value_greatest] at hsmall
      linarith
    obtain ⟨m, hm⟩ := exists_units hwhole
    have hle := (abs_le.mp x.abs_value_le).2
    rw [pow_zero, mul_one] at hm
    rw [value_greatest] at hle ⊢
    rw [hm] at hbeyond hle ⊢
    have hlow : (79228162514264337593543950334 : ℚ) < m := by linarith
    have hlow' : 79228162514264337593543950334 < m := by exact_mod_cast hlow
    have hle' : m ≤ 79228162514264337593543950335 := by exact_mod_cast hle
    exact_mod_cast le_antisymm hle' hlow'
  · intro hgreatest
    rw [hgreatest, value_greatest]
    norm_num

/-- One more is more, also where it has to be rounded. -/
theorem lt_of_add_one (h : x.add .one = .ok z) : x.value < z.value := by
  have hnear := abs_lt.mp (add?_near (add_eq_ok_iff.mp h))
  rw [value_one] at hnear
  linarith

theorem sum_exact (hn : n ≤ 28) (hxs : ∀ x ∈ xs, OnGrid n x.value ∧ 0 ≤ x.value)
    (hstart : OnGrid n start.value) (h0 : 0 ≤ start.value)
    (hsum : Held n (start.value + (xs.map value).sum)) :
    ∃ z, xs.foldlM add start = .ok z ∧ z.value = start.value + (xs.map value).sum := by
  induction xs generalizing start with
  | nil => exact ⟨start, rfl, by simp⟩
  | cons x xs ih =>
    obtain ⟨⟨hgrid, hx⟩, hxs⟩ := List.forall_mem_cons.mp hxs
    rw [List.map_cons, List.sum_cons] at hsum ⊢
    have hrest : 0 ≤ (xs.map value).sum :=
      List.sum_nonneg (List.forall_mem_map.mpr fun y hy => (hxs y hy).2)
    have hnext : Held n (start.value + x.value) :=
      hsum.of_le (hstart.add hgrid) (by linarith) (by linarith)
    obtain ⟨y, hadd, hy⟩ := (add?_rounded start x).exact (hnext.representable hn)
    obtain ⟨z, hfold, hz⟩ := ih hxs (hy ▸ hnext.grid) (hy ▸ hnext.nonneg)
      (by rw [hy, add_assoc]; exact hsum)
    refine ⟨z, ?_, by rw [hz, hy, add_assoc]⟩
    rw [List.foldlM_cons, add_eq_ok_iff.mpr hadd]
    exact hfold

/-- The sum and what is added to it, one summand after the other. -/
theorem foldlM_cons_eq_ok (h : (x :: xs).foldlM add start = .ok z) :
    ∃ next, start.add? x = some next ∧ xs.foldlM add next = .ok z := by
  rw [List.foldlM_cons] at h
  obtain ⟨next, hadd, h⟩ := bind_eq_ok h
  exact ⟨next, add_eq_ok_iff.mp hadd, h⟩

theorem foldlM_add_near (h : xs.foldlM add start = .ok z) :
    |z.value - (start.value + (xs.map value).sum)| ≤ xs.length := by
  induction xs generalizing start with
  | nil =>
    cases h
    simp
  | cons x xs ih =>
    obtain ⟨next, hadd, h⟩ := foldlM_cons_eq_ok h
    have hstep := add?_near hadd
    have hrest := ih h
    rw [List.map_cons, List.sum_cons, List.length_cons]
    push_cast
    rw [abs_lt] at hstep
    rw [abs_le] at hrest ⊢
    constructor <;> linarith

/-- There is room for numbers that come to no more than `2 ^ 96` if a unit is put to each. -/
theorem foldlM_add_room (hxs : ∀ x ∈ xs, 0 ≤ x.value) (h0 : 0 ≤ start.value)
    (hroom : start.value + (xs.map value).sum + xs.length ≤ 2 ^ 96) :
    ∃ z, xs.foldlM add start = .ok z := by
  induction xs generalizing start with
  | nil => exact ⟨start, rfl⟩
  | cons x xs ih =>
    obtain ⟨hx, hxs⟩ := List.forall_mem_cons.mp hxs
    rw [List.map_cons, List.sum_cons, List.length_cons] at hroom
    push_cast at hroom
    have hrest : 0 ≤ (xs.map value).sum := List.sum_nonneg (List.forall_mem_map.mpr hxs)
    have hlength : (0 : ℚ) ≤ xs.length := Nat.cast_nonneg _
    have hfits : ¬Beyond (start.value + x.value) := by
      rw [Beyond, not_le, abs_of_nonneg (by linarith)]
      linarith
    obtain ⟨next, hadd⟩ := Option.ne_none_iff_exists'.mp fun hnone =>
      hfits (add?_eq_none_iff.mp hnone)
    have hnear := abs_lt.mp (add?_near hadd)
    have hround := add?_rounded start x
    rw [hadd] at hround
    obtain ⟨z, hfold⟩ := ih hxs (hround.nonneg (by linarith)) (by linarith)
    refine ⟨z, ?_⟩
    rw [List.foldlM_cons, add_eq_ok_iff.mpr hadd]
    exact hfold

/-- No sum of numbers that are not negative is less than what it started with. -/
theorem le_foldlM_add (hxs : ∀ x ∈ xs, 0 ≤ x.value) (h : xs.foldlM add start = .ok z) :
    start.value ≤ z.value := by
  induction xs generalizing start with
  | nil =>
    cases h
    exact le_rfl
  | cons x xs ih =>
    obtain ⟨hx, hxs⟩ := List.forall_mem_cons.mp hxs
    obtain ⟨next, hadd, h⟩ := foldlM_cons_eq_ok h
    have hround := add?_rounded start x
    rw [hadd] at hround
    exact (hround.ge ⟨start, rfl⟩ (by linarith)).trans (ih hxs h)

theorem sum_pos (hxs : ∀ x ∈ xs, 0 < x.value) (hne : xs ≠ []) (h : sum xs = .ok z) :
    0 < z.value := by
  cases xs with
  | nil => exact absurd rfl hne
  | cons x xs =>
    obtain ⟨hx, hxs⟩ := List.forall_mem_cons.mp hxs
    obtain ⟨next, hadd, h⟩ := foldlM_cons_eq_ok h
    rw [add?_zero_left rfl] at hadd
    cases hadd
    exact hx.trans_le (le_foldlM_add (fun y hy => (hxs y hy).le) h)

/-- Numbers of which each has room in the sum of those before it. -/
def Addable (xs : List Decimal) : Prop :=
  ∀ before x behind total, xs = before ++ x :: behind → sum before = .ok total →
    ¬Beyond (total.value + x.value)

/-- A sum that is given up is so at the first summand for which there is no room. -/
theorem foldlM_add_eq_error (h : xs.foldlM add start = .error o) :
    o = .addition ∧ ∃ before x behind total, xs = before ++ x :: behind ∧
      before.foldlM add start = .ok total ∧ Beyond (total.value + x.value) := by
  induction xs generalizing start with
  | nil => cases h
  | cons x xs ih =>
    rw [List.foldlM_cons] at h
    rcases bind_eq_error h with hadd | ⟨next, hadd, h⟩
    · obtain ⟨ho, hbeyond⟩ := add_eq_error_iff.mp hadd
      exact ⟨ho, [], x, xs, start, rfl, rfl, hbeyond⟩
    · obtain ⟨ho, before, y, behind, total, rfl, hbefore, hbeyond⟩ := ih h
      refine ⟨ho, x :: before, y, behind, total, rfl, ?_, hbeyond⟩
      rw [List.foldlM_cons, hadd]
      exact hbefore

theorem sum_eq_ok_iff : (∃ z, sum xs = .ok z) ↔ Addable xs := by
  constructor
  · rintro ⟨z, h⟩ before x behind total rfl hbefore hbeyond
    rw [sum, List.foldlM_append] at h
    obtain ⟨total', hbefore', h⟩ := bind_eq_ok h
    obtain rfl : total = total' := Except.ok.inj (hbefore.symm.trans hbefore')
    obtain ⟨next, hadd, -⟩ := foldlM_cons_eq_ok h
    rw [add?_eq_none_iff.mpr hbeyond] at hadd
    cases hadd
  · intro h
    cases hsum : sum xs with
    | ok z => exact ⟨z, rfl⟩
    | error o =>
      obtain ⟨-, before, x, behind, total, hsplit, hbefore, hbeyond⟩ := foldlM_add_eq_error hsum
      exact absurd hbeyond (h before x behind total hsplit hbefore)

/-! In another order -/

variable {ys : List Decimal}

/-- Numbers on a grid on which there is room for their sum. -/
def SumHeld (xs : List Decimal) : Prop :=
  ∃ n ≤ 28, (∀ x ∈ xs, OnGrid n x.value) ∧ Held n (xs.map value).sum

/-- Numbers that come to so much less or more than `2 ^ 96` that rounding does not decide whether
there is room for their sum. -/
def Decided (xs : List Decimal) : Prop :=
  (xs.map value).sum + xs.length ≤ 2 ^ 96 ∨ 2 ^ 96 + xs.length ≤ (xs.map value).sum

theorem SumHeld.perm (h : SumHeld xs) (perm : xs.Perm ys) : SumHeld ys := by
  obtain ⟨n, hn, hgrid, hheld⟩ := h
  refine ⟨n, hn, fun y hy => hgrid y (perm.mem_iff.mpr hy), ?_⟩
  rwa [← (perm.map value).sum_eq]

theorem Decided.perm (h : Decided xs) (perm : xs.Perm ys) : Decided ys := by
  rwa [Decided, ← (perm.map value).sum_eq, ← perm.length_eq]

theorem sum_near (h : sum xs = .ok z) : |z.value - (xs.map value).sum| ≤ xs.length := by
  have hnear := foldlM_add_near h
  rwa [value_zero, zero_add] at hnear

theorem SumHeld.exact (held : SumHeld xs) (hxs : ∀ x ∈ xs, 0 ≤ x.value) :
    ∃ z, sum xs = .ok z ∧ z.value = (xs.map value).sum := by
  obtain ⟨n, hn, hgrid, hheld⟩ := held
  have hsum : (xs.map value).sum = zero.value + (xs.map value).sum := by
    rw [value_zero, zero_add]
  rw [hsum] at hheld ⊢
  exact sum_exact hn (fun x hx => ⟨hgrid x hx, hxs x hx⟩)
    (by rw [value_zero]; exact onGrid_zero n) (by rw [value_zero]) hheld

theorem sum_perm_exact (perm : xs.Perm ys) (hxs : ∀ x ∈ xs, 0 ≤ x.value) (held : SumHeld xs)
    (h : sum xs = .ok z) : ∃ z', sum ys = .ok z' ∧ z.value = z'.value := by
  obtain ⟨found, hfound, hvalue⟩ := held.exact hxs
  obtain ⟨z', hz', hvalue'⟩ := (held.perm perm).exact fun y hy => hxs y (perm.mem_iff.mpr hy)
  cases h.symm.trans hfound
  exact ⟨z', hz', by rw [hvalue, hvalue', (perm.map value).sum_eq]⟩

theorem sum_perm_room (perm : xs.Perm ys) (hxs : ∀ x ∈ xs, 0 ≤ x.value) (decided : Decided xs)
    (h : sum xs = .ok z) : ∃ z', sum ys = .ok z' := by
  have hlow : (xs.map value).sum + xs.length ≤ 2 ^ 96 := by
    refine decided.resolve_right fun hhigh => ?_
    have hnear := (abs_le.mp (sum_near h)).1
    have hle := (abs_le.mp z.abs_value_le).2
    rw [value_greatest] at hle
    linarith
  refine foldlM_add_room (fun y hy => hxs y (perm.mem_iff.mpr hy)) (by rw [value_zero]) ?_
  rwa [value_zero, zero_add, ← (perm.map value).sum_eq, ← perm.length_eq]

theorem sum_perm_near (perm : xs.Perm ys) {z' : Decimal} (h : sum xs = .ok z)
    (h' : sum ys = .ok z') : |z.value - z'.value| ≤ 2 * xs.length := by
  have hnear := abs_le.mp (sum_near h)
  have hnear' := abs_le.mp (sum_near h')
  rw [← (perm.map value).sum_eq, ← perm.length_eq] at hnear'
  rw [abs_le]
  constructor <;> linarith [hnear.1, hnear.2, hnear'.1, hnear'.2]

end SweepAudit.Decimal
