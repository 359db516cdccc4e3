import SweepAudit.Proofs.Decimal.Text
import SweepAudit.Proofs.Liquidity.Levels

/-!
The totals against sums of rational numbers. Where the widest level has no more places than a
decimal, and the sums fit into its coefficient at that many places, nothing is rounded and the
totals are these sums. An error is told of the first level that fails, and of the first of its
faults.
-/

namespace SweepAudit

open Decimal Book

variable {levels : List Level} {orders : List (Decimal × Decimal)} {order : Decimal × Decimal}

/-- The most places that price and size of an order have together. -/
def quotePlaces (orders : List (Decimal × Decimal)) : Nat :=
  (orders.map fun order => order.1.scale + order.2.scale).foldr max 0

/-- The most places that the size of an order has. -/
def basePlaces (orders : List (Decimal × Decimal)) : Nat :=
  (orders.map fun order => order.2.scale).foldr max 0

theorem le_quotePlaces (h : order ∈ orders) :
    order.1.scale + order.2.scale ≤ quotePlaces orders :=
  List.le_max_of_le (List.mem_map_of_mem h) le_rfl

theorem le_basePlaces (h : order ∈ orders) : order.2.scale ≤ basePlaces orders :=
  List.le_max_of_le (List.mem_map_of_mem h) le_rfl

theorem basePlaces_le (orders : List (Decimal × Decimal)) : basePlaces orders ≤ 28 := by
  apply List.max_le_of_forall_le
  intro scale hscale
  obtain ⟨order, -, rfl⟩ := List.mem_map.mp hscale
  exact order.2.scale_le

theorem placed_quotePlaces (h : ∀ order ∈ orders, PositiveOrder order) :
    Placed (quotePlaces orders) orders where
  pos := h
  quote _ ho := ((onGrid_value le_rfl).mul (onGrid_value le_rfl)).mono (le_quotePlaces ho)
  base _ ho := onGrid_value ((Nat.le_add_left _ _).trans (le_quotePlaces ho))

theorem positive_of_offers (h : List.Forall₂ Level.Offers levels orders) :
    ∀ order ∈ orders, PositiveOrder order := by
  induction h with
  | nil => exact fun _ ho => absurd ho List.not_mem_nil
  | cons hoffers _ ih => exact List.forall_mem_cons.mpr ⟨hoffers.positive, ih⟩

namespace Liquidity

/-- What levels add if no product is rounded. -/
theorem adds_of_offers (h : List.Forall₂ Level.Offers levels orders)
    (hexact : ∀ order ∈ orders, Representable (order.1.value * order.2.value)) :
    ∃ amounts, List.Forall₂ Level.Adds levels amounts ∧
      (amounts.map (·.quote)).map value = orders.map (fun order => order.1.value * order.2.value) ∧
      amounts.map (·.base) = orders.map (·.2) := by
  induction h with
  | nil => exact ⟨[], .nil, rfl, rfl⟩
  | @cons level order levels orders hoffers _ ih =>
    obtain ⟨hfirst, hrest⟩ := List.forall_mem_cons.mp hexact
    obtain ⟨notional, hmul, hvalue⟩ := (mul?_rounded order.1 order.2).exact hfirst
    obtain ⟨amounts, hadds, hquotes, hbases⟩ := ih hrest
    refine ⟨⟨notional, order.2⟩ :: amounts, .cons ⟨order, hoffers, hmul, rfl⟩ hadds, ?_, ?_⟩
    · rw [List.map_cons, List.map_cons, hvalue, hquotes, List.map_cons]
    · rw [List.map_cons, hbases, List.map_cons]

/-- What levels add if the exact sums fit at the places that the levels have. -/
theorem amounts_held (h : List.Forall₂ Level.Offers levels orders)
    (hplaces : quotePlaces orders ≤ 28)
    (hquote : costs .buy orders * 10 ^ quotePlaces orders < 2 ^ 96)
    (hbase : costs .sell orders * 10 ^ basePlaces orders < 2 ^ 96) :
    ∃ amounts, List.Forall₂ Level.Adds levels amounts ∧
      SumHeld (amounts.map (·.quote)) ∧ SumHeld (amounts.map (·.base)) ∧
      ((amounts.map (·.quote)).map value).sum = costs .buy orders ∧
      ((amounts.map (·.base)).map value).sum = costs .sell orders := by
  have hpositive := positive_of_offers h
  have hplaced := placed_quotePlaces hpositive
  have hheld : Held (quotePlaces orders) (costs .buy orders) :=
    ⟨hplaced.onGrid_costs .buy, hplaced.costs_nonneg .buy, hquote⟩
  have hterms : ∀ q ∈ orders.map (fun order => order.1.value * order.2.value), 0 ≤ q := by
    intro q hq
    obtain ⟨order, ho, rfl⟩ := List.mem_map.mp hq
    exact (mul_pos (hpositive order ho).1 (hpositive order ho).2).le
  have hexact : ∀ order ∈ orders, Representable (order.1.value * order.2.value) := by
    intro order ho
    have hle : order.1.value * order.2.value ≤ costs .buy orders :=
      List.single_le_sum hterms _ (List.mem_map.mpr ⟨order, ho, rfl⟩)
    exact (hheld.of_le (hplaced.quote order ho)
      (hterms _ (List.mem_map.mpr ⟨order, ho, rfl⟩)) hle).representable hplaces
  obtain ⟨amounts, hadds, hquotes, hbases⟩ := adds_of_offers h hexact
  have hquotesum : ((amounts.map (·.quote)).map value).sum = costs .buy orders :=
    congrArg List.sum hquotes
  have hbasesum : ((amounts.map (·.base)).map value).sum = costs .sell orders := by
    rw [hbases, List.map_map]
    rfl
  have hbasegrid : ∀ q ∈ (amounts.map (·.base)).map value, OnGrid (basePlaces orders) q := by
    intro q hq
    rw [hbases, List.map_map] at hq
    obtain ⟨order, ho, rfl⟩ := List.mem_map.mp hq
    exact onGrid_value (le_basePlaces ho)
  rw [← hquotesum] at hheld
  refine ⟨amounts, hadds, ⟨_, hplaces, ?_, hheld⟩, ⟨_, basePlaces_le orders,
    fun x hx => hbasegrid _ (List.mem_map_of_mem hx), ?_⟩, hquotesum, hbasesum⟩
  · intro x hx
    obtain ⟨order, ho, hvalue⟩ := List.mem_map.mp (hquotes ▸ List.mem_map_of_mem (f := value) hx)
    exact hvalue ▸ hplaced.quote order ho
  · have hgrid := onGrid_sum hbasegrid
    rw [hbasesum] at hgrid ⊢
    exact ⟨hgrid, hplaced.costs_nonneg .sell, hbase⟩

/-- Nothing is rounded then. -/
theorem ofLevels_exact (h : List.Forall₂ Level.Offers levels orders)
    (hplaces : quotePlaces orders ≤ 28)
    (hquote : costs .buy orders * 10 ^ quotePlaces orders < 2 ^ 96)
    (hbase : costs .sell orders * 10 ^ basePlaces orders < 2 ^ 96) :
    ∃ total, ofLevels levels = .ok total ∧ total.quote.value = costs .buy orders ∧
      total.base.value = costs .sell orders := by
  obtain ⟨amounts, hadds, heldQuote, heldBase, hquotesum, hbasesum⟩ :=
    amounts_held h hplaces hquote hbase
  obtain ⟨hquotes, hbases⟩ := amounts_nonneg hadds
  obtain ⟨quote, hsum, hvalue⟩ := heldQuote.exact hquotes
  obtain ⟨base, hsum', hvalue'⟩ := heldBase.exact hbases
  exact ⟨⟨quote, base⟩, ofLevels_eq_ok_iff.mpr ⟨amounts, hadds, hsum, hsum'⟩,
    hvalue.trans hquotesum, hvalue'.trans hbasesum⟩

/-- The totals of levels that offer something come to the exact sums as long as these fit at the
places that the levels have. Any other outcome is told of the first level that cannot be added to
the totals of those before it, and is the first of its faults: price before size, a text that is
no number before one that is not positive, and want of room last. -/
theorem ofLevels_reference (levels : List Level) :
    (∀ orders, List.Forall₂ Level.Offers levels orders → quotePlaces orders ≤ 28 →
      costs .buy orders * 10 ^ quotePlaces orders < 2 ^ 96 →
      costs .sell orders * 10 ^ basePlaces orders < 2 ^ 96 →
      ∃ total, ofLevels levels = .ok total ∧ total.quote.value = costs .buy orders ∧
        total.base.value = costs .sell orders) ∧
    ∀ e, ofLevels levels = .error e ↔ ∃ before level behind total,
      levels = before ++ level :: behind ∧ ofLevels before = .ok total ∧
        Fails before.length total level e :=
  ⟨fun _ => ofLevels_exact, fun _ => ofLevels_eq_error_iff⟩

/-- Prices with and without an exponent and sizes with zeros at the end, at different scales. -/
def mixedLevels : List Level := [⟨" 2001 ", "10"⟩, ⟨"0.5", "2.50"⟩, ⟨"1e-3", "4"⟩]

def mixedOrders : List (Decimal × Decimal) :=
  [(ofText "2001", .ten), (ofText "0.5", ofText "2.50"), (ofText "0.001", ofText "4")]

theorem offers_mixed : List.Forall₂ Level.Offers mixedLevels mixedOrders := by
  have hoffers {level : Level} {order : Decimal × Decimal}
      (h : (readNumber level.price, readNumber level.size) = (some order.1, some order.2) ∧
        order.1.IsPositive ∧ order.2.IsPositive) : level.Offers order := by
    obtain ⟨hread, hprice, hsize⟩ := h
    obtain ⟨hreadPrice, hreadSize⟩ := Prod.mk.inj hread
    exact ⟨hreadPrice, hreadSize, isPositive_iff.mp hprice, isPositive_iff.mp hsize⟩
  exact .cons (hoffers (by decide +kernel)) (.cons (hoffers (by decide +kernel))
    (.cons (hoffers (by decide +kernel)) .nil))

theorem costs_mixed : costs .buy mixedOrders = 20011254 / 10 ^ 3 ∧
    costs .sell mixedOrders = 165 / 10 := by
  decide +kernel

theorem places_mixed : quotePlaces mixedOrders = 3 ∧ basePlaces mixedOrders = 2 := by
  decide +kernel

/-- These levels have exact totals; a level behind them with two faults fails for its price. -/
theorem ofLevels_reference_mixed :
    List.Forall₂ Level.Offers mixedLevels mixedOrders ∧
      (∃ total, ofLevels mixedLevels = .ok total ∧ total.quote.value = 20011254 / 10 ^ 3 ∧
        total.base.value = 165 / 10) ∧
      ofLevels (mixedLevels ++ [⟨" 0 ", "ten"⟩]) = .error (.nonPositive 3 .price " 0 ") := by
  obtain ⟨hquote, hbase⟩ := costs_mixed
  obtain ⟨total, htotal, hquotes, hbases⟩ := (ofLevels_reference mixedLevels).1 mixedOrders
    offers_mixed (by rw [places_mixed.1]; decide) (by rw [places_mixed.1, hquote]; norm_num)
    (by rw [places_mixed.2, hbase]; norm_num)
  refine ⟨offers_mixed, ⟨total, htotal, hquotes.trans hquote, hbases.trans hbase⟩, ?_⟩
  have hread : readNumber " 0 " = some .zero := by decide +kernel
  have hfails : Fails mixedLevels.length total ⟨" 0 ", "ten"⟩ (.nonPositive 3 .price " 0 ") :=
    .badPrice hread (by rw [value_zero])
  exact ((ofLevels_reference _).2 _).mpr ⟨mixedLevels, _, [], total, rfl, htotal, hfails⟩

end Liquidity

end SweepAudit
