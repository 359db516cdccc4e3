import SweepAudit.Proofs.Decimal.Nearest

/-!
Numbers with a bounded count of decimal places. Sums and differences have no more places
than their operands, and a product has as many as its factors together. Such a number is
held exactly as long as it is small enough, which carries over to all smaller ones.
-/

namespace SweepAudit.Decimal

/-- A whole number of units of the n-th decimal place. -/
def OnGrid (n : Nat) (q : ℚ) : Prop := ∃ m : Int, q * 10 ^ n = m

variable {n m : Nat} {p q : ℚ}

theorem onGrid_value {x : Decimal} (h : x.scale ≤ n) : OnGrid n x.value := exists_units h

theorem onGrid_zero (n : Nat) : OnGrid n 0 := ⟨0, by simp⟩

theorem onGrid_natCast (n k : Nat) : OnGrid n k := ⟨k * 10 ^ n, by push_cast; rfl⟩

theorem onGrid_one (n : Nat) : OnGrid n 1 := by exact_mod_cast onGrid_natCast n 1

theorem OnGrid.add (hp : OnGrid n p) (hq : OnGrid n q) : OnGrid n (p + q) := by
  obtain ⟨a, ha⟩ := hp
  obtain ⟨b, hb⟩ := hq
  exact ⟨a + b, by rw [add_mul, ha, hb]; push_cast; rfl⟩

theorem OnGrid.sub (hp : OnGrid n p) (hq : OnGrid n q) : OnGrid n (p - q) := by
  obtain ⟨a, ha⟩ := hp
  obtain ⟨b, hb⟩ := hq
  exact ⟨a - b, by rw [sub_mul, ha, hb]; push_cast; rfl⟩

theorem OnGrid.mul (hp : OnGrid n p) (hq : OnGrid m q) : OnGrid (n + m) (p * q) := by
  obtain ⟨a, ha⟩ := hp
  obtain ⟨b, hb⟩ := hq
  refine ⟨a * b, ?_⟩
  rw [pow_add, mul_mul_mul_comm, ha, hb]
  push_cast
  rfl

theorem OnGrid.mono (h : OnGrid n q) (hnm : n ≤ m) : OnGrid m q := by
  obtain ⟨a, ha⟩ := h
  refine ⟨a * 10 ^ (m - n), ?_⟩
  rw [← Nat.add_sub_cancel' hnm, pow_add, ← mul_assoc, ha, Nat.add_sub_cancel']
  · push_cast
    rfl
  · exact hnm

theorem onGrid_sum {qs : List ℚ} (h : ∀ q ∈ qs, OnGrid n q) : OnGrid n qs.sum := by
  induction qs with
  | nil => exact onGrid_zero n
  | cons q qs ih =>
    obtain ⟨hq, hqs⟩ := List.forall_mem_cons.mp h
    rw [List.sum_cons]
    exact hq.add (ih hqs)

/-- A number on the grid, not negative, of which a coefficient can count the units. -/
structure Held (n : Nat) (q : ℚ) : Prop where
  grid : OnGrid n q
  nonneg : 0 ≤ q
  units_lt : q * 10 ^ n < 2 ^ 96

theorem Held.representable (h : Held n q) (hn : n ≤ 28) : Representable q := by
  obtain ⟨m, hm⟩ := h.grid
  have hpos : (0 : ℚ) < 10 ^ n := by positivity
  have h0 : 0 ≤ m := by
    have : (0 : ℚ) ≤ m := by rw [← hm]; exact mul_nonneg h.nonneg hpos.le
    exact_mod_cast this
  have hlt : m < (2 : Int) ^ 96 := by
    have := h.units_lt
    rw [hm] at this
    exact_mod_cast this
  have hq : q = m / 10 ^ n := by rw [← hm, mul_div_cancel_right₀ _ hpos.ne']
  rw [hq]
  refine representable_div ?_ hn
  rw [twoTo_ninetySix]
  omega

theorem Held.of_le (h : Held n q) (hp : OnGrid n p) (h0 : 0 ≤ p) (hle : p ≤ q) : Held n p :=
  ⟨hp, h0, (mul_le_mul_of_nonneg_right hle (by positivity)).trans_lt h.units_lt⟩

theorem Held.abs_le (h : Held n q) (hn : n ≤ 28) (h0 : 0 ≤ p) (hle : p ≤ q) :
    |p| ≤ greatest.value := by
  have := (h.representable hn).abs_le
  rw [abs_of_nonneg h.nonneg] at this
  rw [abs_of_nonneg h0]
  exact hle.trans this

end SweepAudit.Decimal
