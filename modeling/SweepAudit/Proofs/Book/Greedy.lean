import Mathlib.Algebra.BigOperators.Group.List.Basic
import Mathlib.Algebra.Order.BigOperators.Group.List
import Mathlib.Algebra.Order.Field.Rat
import Mathlib.Data.List.Forall2
import Mathlib.Tactic.Linarith
import Mathlib.Tactic.Ring

/-!
Spending an amount on offers one after another. An offer has a rate, which is what a unit
spent on it gains, and a capacity. Where the rates fall, taking as much as there is of every
offer in turn gains at least as much as any other way of spending the same amount.
-/

namespace SweepAudit.Greedy

/-- What an amount gains. -/
def gain (amount : ℚ) : List (ℚ × ℚ) → ℚ
  | [] => 0
  | (rate, capacity) :: offers =>
    rate * min capacity amount + gain (amount - min capacity amount) offers

def capacity (offers : List (ℚ × ℚ)) : ℚ := (offers.map (·.2)).sum

@[simp] theorem capacity_nil : capacity [] = 0 := rfl

@[simp] theorem capacity_cons (offer : ℚ × ℚ) (offers : List (ℚ × ℚ)) :
    capacity (offer :: offers) = offer.2 + capacity offers := by simp [capacity]

/-- Amounts spent on the offers, none beyond its capacity. -/
def Within (spent : List ℚ) (offers : List (ℚ × ℚ)) : Prop :=
  List.Forall₂ (fun x offer => 0 ≤ x ∧ x ≤ offer.2) spent offers

def gained (spent : List ℚ) (offers : List (ℚ × ℚ)) : ℚ :=
  (List.zipWith (fun x offer => offer.1 * x) spent offers).sum

theorem Within.sum_nonneg {spent : List ℚ} {offers : List (ℚ × ℚ)} (h : Within spent offers) :
    0 ≤ spent.sum := by
  induction h with
  | nil => exact le_rfl
  | cons hx _ ih =>
    rw [List.sum_cons]
    linarith [hx.1]

theorem gain_zero {offers : List (ℚ × ℚ)} (hcap : ∀ offer ∈ offers, 0 ≤ offer.2) :
    gain 0 offers = 0 := by
  induction offers with
  | nil => rfl
  | cons offer offers ih =>
    obtain ⟨hc, hcap⟩ := List.forall_mem_cons.mp hcap
    simp [gain, min_eq_right hc, ih hcap]

/-- A larger amount gains more by at most the best rate of what it is spent on. -/
theorem gain_add_le {best amount more : ℚ} {offers : List (ℚ × ℚ)} (hbest : 0 ≤ best)
    (hrates : ∀ offer ∈ offers, offer.1 ≤ best) (hmore : 0 ≤ more) :
    gain (amount + more) offers ≤ gain amount offers + best * more := by
  induction offers generalizing amount more with
  | nil =>
    simp only [gain, zero_add]
    positivity
  | cons offer offers ih =>
    obtain ⟨rate, cap⟩ := offer
    have hrate : rate ≤ best := hrates _ List.mem_cons_self
    -- The offer takes a part of what is added, and the rest goes on to the others.
    obtain ⟨part, hpart⟩ : ∃ part, min cap (amount + more) = min cap amount + part :=
      ⟨min cap (amount + more) - min cap amount, by ring⟩
    have h0 : 0 ≤ part := by
      have : min cap amount ≤ min cap (amount + more) := min_le_min_left cap (by linarith)
      linarith
    have h1 : part ≤ more := by
      have : min cap (amount + more) ≤ min cap amount + more := by
        rw [← min_add_add_right]
        exact min_le_min_right _ (by linarith)
      linarith
    have hrest := @ih (amount - min cap amount) (more - part)
      (fun o ho => hrates o (List.mem_cons_of_mem _ ho)) (by linarith)
    have hsplit : amount + more - (min cap amount + part) =
        amount - min cap amount + (more - part) := by ring
    simp only [gain]
    rw [hpart, hsplit]
    nlinarith

/-- No way of spending within the capacities gains more. -/
theorem gained_le {spent : List ℚ} {offers : List (ℚ × ℚ)} (h : Within spent offers)
    (hpos : ∀ offer ∈ offers, 0 ≤ offer.1)
    (hsorted : offers.Pairwise fun a b => b.1 ≤ a.1) :
    gained spent offers ≤ gain spent.sum offers := by
  induction h with
  | nil => exact le_rfl
  | @cons x offer spent offers hx hspent ih =>
    obtain ⟨rate, cap⟩ := offer
    obtain ⟨hbest, hsorted⟩ := List.pairwise_cons.mp hsorted
    have hrest := ih (fun o ho => hpos o (List.mem_cons_of_mem _ ho)) hsorted
    have hmin : x ≤ min cap (x + spent.sum) :=
      le_min hx.2 (by linarith [Within.sum_nonneg hspent])
    -- What is spent on a later offer gains no more than it would here.
    have hmove := @gain_add_le rate (x + spent.sum - min cap (x + spent.sum))
      (min cap (x + spent.sum) - x) offers (hpos _ List.mem_cons_self) hbest (by linarith)
    rw [show x + spent.sum - min cap (x + spent.sum) + (min cap (x + spent.sum) - x) = spent.sum
      by ring] at hmove
    simp only [gained, List.zipWith_cons_cons, List.sum_cons, gain] at hrest ⊢
    linarith

/-- An amount within the capacity of all offers is spent with exactly this gain. -/
theorem exists_within {amount : ℚ} {offers : List (ℚ × ℚ)} (h0 : 0 ≤ amount)
    (hcap : ∀ offer ∈ offers, 0 ≤ offer.2) (h : amount ≤ capacity offers) :
    ∃ spent, Within spent offers ∧ spent.sum = amount ∧
      gained spent offers = gain amount offers := by
  induction offers generalizing amount with
  | nil =>
    rw [capacity_nil] at h
    exact ⟨[], .nil, (le_antisymm h h0).symm, rfl⟩
  | cons offer offers ih =>
    obtain ⟨rate, cap⟩ := offer
    rw [capacity_cons] at h
    have hc : 0 ≤ cap := hcap _ List.mem_cons_self
    have hrest : amount - min cap amount ≤ capacity offers := by
      rcases le_total cap amount with hle | hle
      · rw [min_eq_left hle]
        dsimp only at h
        linarith
      · rw [min_eq_right hle, sub_self]
        exact List.sum_nonneg (by
          intro x hx
          obtain ⟨o, ho, rfl⟩ := List.mem_map.mp hx
          exact hcap o (List.mem_cons_of_mem _ ho))
    obtain ⟨spent, hwithin, hsum, hgain⟩ := @ih (amount - min cap amount)
      (by linarith [min_le_right cap amount])
      (fun o ho => hcap o (List.mem_cons_of_mem _ ho)) hrest
    refine ⟨min cap amount :: spent, .cons ⟨le_min hc h0, min_le_left _ _⟩ hwithin, ?_, ?_⟩
    · rw [List.sum_cons, hsum]
      ring
    · simp only [gained, List.zipWith_cons_cons, List.sum_cons, gain] at hgain ⊢
      rw [hgain]

end SweepAudit.Greedy
