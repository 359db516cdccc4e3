import SweepAudit.Proofs.Book.Quote

/-!
What a sweep pays out against what rests on the book. An order that is rounded up may bring in
more than it has, because a buyer is paid the rounded cost divided by the price. That comes to a
few units for each order at most, and to nothing where no order's product and no sum is rounded up.
-/

namespace SweepAudit.Book

open Decimal

/-- The decimal product of an order's numbers is not rounded up. -/
def RoundsDown (order : Decimal × Decimal) : Prop :=
  ∀ z, order.1.mul? order.2 = some z → z.value ≤ order.1.value * order.2.value

/-- How much more than its exact yield an order may add to what is paid out. -/
def slack : Side → ℚ
  | .buy => 6
  | .sell => 1

variable {book : Book} {side : Side} {price size amountIn out : Decimal}
  {fill fill' : Fill} {capacity gain q r : ℚ} {orders : List (Decimal × Decimal)}

/-! One order -/

theorem RoundsDown.le (h : RoundsDown (price, size)) (hpos : PositiveOrder (price, size))
    (hround : RoundsHalfEven q r) (hq : q ≤ price.value * size.value) :
    r ≤ price.value * size.value := by
  have hproduct := mul?_settled price size
  cases hmul : price.mul? size with
  | none =>
    rw [hmul, Settled, Beyond, abs_of_pos (mul_pos hpos.1 hpos.2)] at hproduct
    have hle := (abs_le.mp hround.representable.abs_le).2
    rw [value_greatest] at hle
    linarith
  | some z =>
    rw [hmul] at hproduct
    exact (hround.mono hproduct hq).trans (h z hmul)

/-- An order whose product is not rounded up brings in no more than it has. -/
theorem Fills.gain_le_yield (h : Fills side price size fill capacity gain fill')
    (hpos : PositiveOrder (price, size)) (hdown : RoundsDown (price, size)) :
    gain ≤ side.yield price.value size.value := by
  cases side with
  | buy =>
    have hcost : RoundsHalfEven (price.value * size.value) capacity := h.cost
    have hcapacity := hdown.le hpos hcost le_rfl
    have hworth : Side.worth .buy price.value (min capacity fill.remaining.value) ≤ size.value := by
      rw [Side.worth, div_le_iff₀' hpos.1]
      exact (min_le_left _ _).trans hcapacity
    exact h.worth.roundsTo.le ⟨size, rfl⟩ hworth
  | sell =>
    have hcapacity : capacity = size.value := h.cost.unique (roundsHalfEven_value size)
    have hworth : Side.worth .sell price.value (min capacity fill.remaining.value) ≤
        price.value * size.value :=
      mul_le_mul_of_nonneg_left ((min_le_left _ _).trans hcapacity.le) hpos.1.le
    exact hdown.le hpos h.worth hworth

/-- A rounded cost is that of at most five more: the price is no less than a unit of the last place,
and the size no more than the greatest decimal. -/
theorem rounded_cost_le (hpos : PositiveOrder (price, size))
    (h : RoundsHalfEven (price.value * size.value) capacity) :
    capacity ≤ price.value * (size.value + 5) := by
  obtain ⟨hp, hs⟩ := hpos
  dsimp only at hp hs
  rcases h.error_le with hle | ⟨-, hle⟩
  · have hunit := le_abs_value hp.ne'
    rw [abs_of_pos hp] at hunit
    have := (abs_le.mp hle).2
    rw [mul_add]
    linarith
  · have hgreatest := (abs_le.mp size.abs_value_le).2
    rw [value_greatest] at hgreatest
    rw [abs_of_pos (mul_pos hp hs)] at hle
    have herror : |capacity - price.value * size.value| ≤ 5 * price.value := by
      refine le_of_mul_le_mul_right (hle.trans ?_) (by norm_num : (0 : ℚ) < 2 ^ 96 - 1 / 2)
      have hsize : size.value ≤ 2 ^ 96 - 1 / 2 := by linarith
      calc 5 * (price.value * size.value) = 5 * price.value * size.value := by ring
        _ ≤ 5 * price.value * (2 ^ 96 - 1 / 2) := by gcongr
    have := (abs_le.mp herror).2
    rw [mul_add]
    linarith

theorem Fills.gain_le (h : Fills side price size fill capacity gain fill')
    (hpos : PositiveOrder (price, size)) :
    gain ≤ side.yield price.value size.value + slack side - 1 / 2 := by
  have hnear := (abs_le.mp h.worth.near).2
  cases side with
  | buy =>
    have hworth : Side.worth .buy price.value (min capacity fill.remaining.value) ≤
        size.value + 5 := by
      rw [Side.worth, div_le_iff₀' hpos.1]
      exact (min_le_left _ _).trans (rounded_cost_le hpos h.cost)
    simp only [Side.yield, slack]
    linarith
  | sell =>
    have hcapacity : capacity = size.value := h.cost.unique (roundsHalfEven_value size)
    have hworth : Side.worth .sell price.value (min capacity fill.remaining.value) ≤
        price.value * size.value :=
      mul_le_mul_of_nonneg_left ((min_le_left _ _).trans hcapacity.le) hpos.1.le
    simp only [Side.yield, slack]
    linarith

/-! A whole sweep -/

theorem fillOrders_le_yields (hpos : ∀ order ∈ orders, PositiveOrder order)
    (hdown : ∀ order ∈ orders, RoundsDown order) (hout : fill.out.value ≤ 0)
    (hsums : ∀ first, first <+: orders → Representable (yields side first))
    (hfill : (fillOrders side fill orders).run = .ok (.ok fill')) :
    fill'.out.value ≤ yields side orders := by
  obtain ⟨rest, hrest, first, rfl, hpaid⟩ := fillOrders_invariant hpos
    (P := fun rest fill => ∃ first, first ++ rest = orders ∧ fill.out.value ≤ yields side first)
    (by
      rintro price size rest fill capacity gain fill' - ⟨first, rfl, hpaid⟩ hfills
      refine ⟨first ++ [(price, size)], by simp, ?_⟩
      have horder : (price, size) ∈ first ++ (price, size) :: rest := by simp
      have hgain := hfills.gain_le_yield (hpos _ horder) (hdown _ horder)
      refine hfills.out.roundsTo.le (hsums _ ⟨rest, by simp⟩) ?_
      simp only [yields_append, yields_cons, yields_nil, add_zero]
      exact add_le_add hpaid hgain)
    ⟨[], rfl, hout⟩ hfill
  rw [yields_append]
  exact hpaid.trans (le_add_of_nonneg_right
    (yields_nonneg (fun order ho => hpos order (hrest.mem ho)) side))

theorem slack_nonneg (side : Side) : 0 ≤ slack side := by
  cases side <;> norm_num [slack]

theorem fillOrders_le (hpos : ∀ order ∈ orders, PositiveOrder order)
    (hfill : (fillOrders side fill orders).run = .ok (.ok fill')) :
    fill'.out.value ≤ fill.out.value + yields side orders + slack side * orders.length := by
  obtain ⟨rest, hrest, hpaid⟩ := fillOrders_invariant hpos
    (P := fun rest fill' => fill'.out.value + yields side rest + slack side * rest.length ≤
      fill.out.value + yields side orders + slack side * orders.length)
    (by
      intro price size rest fill capacity gain fill' hahead hpaid hfills
      have hgain := hfills.gain_le (hpos _ (hahead.mem List.mem_cons_self))
      have hout := (abs_le.mp hfills.out.near).2
      rw [yields_cons, List.length_cons] at hpaid
      push_cast at hpaid
      linarith)
    le_rfl hfill
  have hyields := yields_nonneg (fun order ho => hpos order (hrest.mem ho)) side
  have hslack := mul_nonneg (slack_nonneg side) (Nat.cast_nonneg (α := ℚ) rest.length)
  linarith

/-- A quote pays no more than what rests on the side, as long as no order's product is rounded up
and a decimal holds what the orders up to each one yield. In any case it pays little more. -/
theorem amountOut_le_yields (h : book.Reachable)
    (hout : (book.amountOut side amountIn).run = .ok (.ok out)) :
    ((∀ order ∈ book.sweepOrders side, RoundsDown order) →
      (∀ first, first <+: book.sweepOrders side → Representable (yields side first)) →
      out.value ≤ yields side (book.sweepOrders side)) ∧
    out.value ≤
      yields side (book.sweepOrders side) + slack side * (book.sweepOrders side).length := by
  obtain ⟨-, fill, hfill, -, rfl⟩ := (amountOut_eq_ok_iff h.sound).mp hout
  have hpos := h.sound.orders_pos side
  constructor
  · intro hdown hsums
    have hstart : (Fill.mk amountIn .zero).out.value ≤ 0 := value_zero.le
    exact fillOrders_le_yields hpos hdown hstart hsums hfill
  · have hle := fillOrders_le hpos hfill
    rwa [value_zero, zero_add] at hle

theorem amountOut_le_yields_twoAsks :
    (twoAsks.amountOut .buy (ofUInt32 28)).run = .ok (.ok (ofUInt32 9)) ∧
      (ofUInt32 9).value ≤ yields .buy (twoAsks.sweepOrders .buy) := by
  have hquote : (twoAsks.amountOut .buy (ofUInt32 28)).run = .ok (.ok (ofUInt32 9)) := by
    decide +kernel
  have hreachable : twoAsks.Reachable := .after (.after .empty _) _
  have hvalues : (ofUInt32 2).value = 2 ∧ (ofUInt32 4).value = 4 ∧ (ofUInt32 5).value = 5 ∧
      (ofUInt32 8).value = 8 ∧ (ofUInt32 9).value = 9 ∧ (ofUInt32 20).value = 20 :=
    ⟨value_ofUInt32 2, value_ofUInt32 4, value_ofUInt32 5, value_ofUInt32 8, value_ofUInt32 9,
      value_ofUInt32 20⟩
  refine ⟨hquote, (amountOut_le_yields hreachable hquote).1 ?_ ?_⟩
  · rw [twoAsks_orders]
    have hproducts : (ofUInt32 2).mul? (ofUInt32 4) = some (ofUInt32 8) ∧
        (ofUInt32 4).mul? (ofUInt32 5) = some (ofUInt32 20) := by decide +kernel
    refine List.forall_mem_cons.mpr ⟨?_, List.forall_mem_singleton.mpr ?_⟩
    · intro z hz
      cases hproducts.1.symm.trans hz
      norm_num [hvalues]
    · intro z hz
      cases hproducts.2.symm.trans hz
      norm_num [hvalues]
  · intro first hfirst
    rw [twoAsks_orders] at hfirst
    have hcases : first ∈ [[], [(ofUInt32 2, ofUInt32 4)],
        [(ofUInt32 2, ofUInt32 4), (ofUInt32 4, ofUInt32 5)]] := (List.mem_inits _ _).mpr hfirst
    simp only [List.mem_cons, List.not_mem_nil, or_false] at hcases
    obtain rfl | rfl | rfl := hcases
    · exact representable_zero
    · exact ⟨ofUInt32 4, by simp [Side.yield]⟩
    · exact ⟨ofUInt32 9, by norm_num [Side.yield, hvalues]⟩

/-- So many units of a scale. -/
def units (n scale : Nat) : Decimal := (ofParts? false n scale).getD .zero

theorem value_units {n scale : Nat} (hn : n < twoTo 96) (hs : scale ≤ 28) :
    (units n scale).value = n / 10 ^ scale := by
  rw [units, ofParts?_eq_some hn hs, Option.getD_some, value_mk]
  rfl

/-- An ask of 0.6 at the smallest price there is. -/
def cheapAsk : Book := empty.after (.place ⟨1⟩ .sell (units 1 28) (units 6 1) "a")

/-- A bid at 1.5 for the smallest size there is. -/
def smallBid : Book := empty.after (.place ⟨1⟩ .buy (units 15 1) (units 1 28) "a")

/-- The ask costs a rounded unit and pays a whole one for it, and the bid pays a rounded product. -/
theorem amountOut_exceeds_yields :
    (cheapAsk.Reachable ∧ (cheapAsk.amountOut .buy (units 1 28)).run = .ok (.ok .one) ∧
      yields .buy (cheapAsk.sweepOrders .buy) < Decimal.one.value) ∧
    smallBid.Reachable ∧ (smallBid.amountOut .sell (units 1 28)).run = .ok (.ok (units 2 28)) ∧
      yields .sell (smallBid.sweepOrders .sell) < (units 2 28).value := by
  have hask : cheapAsk.sweepOrders .buy = [(units 1 28, units 6 1)] := by decide
  have hbid : smallBid.sweepOrders .sell = [(units 15 1, units 1 28)] := by decide
  have hvalues : (units 1 28).value = 1 / 10 ^ 28 ∧ (units 2 28).value = 2 / 10 ^ 28 ∧
      (units 6 1).value = 6 / 10 ∧ (units 15 1).value = 15 / 10 := by
    refine ⟨?_, ?_, ?_, ?_⟩ <;> rw [value_units (by decide) (by decide)] <;> norm_num
  refine ⟨⟨.after .empty _, by decide +kernel, ?_⟩, .after .empty _, by decide +kernel, ?_⟩
  · rw [hask]
    norm_num [Side.yield, hvalues]
  · rw [hbid]
    norm_num [Side.yield, hvalues]

end SweepAudit.Book
