import SweepAudit.Proofs.Book.Greedy
import SweepAudit.Proofs.Book.Filling

/-!
What a sweep comes to as long as nothing has to be rounded: it spends the amount on the
resting orders one after another, as `Greedy.gain` does, and it is refused for want of
liquidity exactly when the amount exceeds what all of them can take. A step in which
only the payment is rounded is described as well.
-/

namespace SweepAudit

open Decimal

namespace Side

/-- The order as an offer: what a unit spent on it gains, and what can be spent on it. -/
def offer (side : Side) (order : Decimal × Decimal) : ℚ × ℚ :=
  (side.worth order.1.value 1, side.cost order.1.value order.2.value)

end Side

namespace Book

/-- From here on a sweep comes only to numbers that a decimal holds: the capacity of each order
that it reaches, what is left, what is paid for the order and what has been paid in all. -/
def ExactFrom (side : Side) (remaining out : ℚ) : List (Decimal × Decimal) → Prop
  | [] => True
  | (price, size) :: orders =>
    0 < remaining →
      let capacity := side.cost price.value size.value
      let spent := min capacity remaining
      let paid := side.worth price.value spent
      Representable capacity ∧ Representable (remaining - spent) ∧ Representable paid ∧
        Representable (out + paid) ∧ ExactFrom side (remaining - spent) (out + paid) orders

/-- A step in which the remainder is exact; what is paid out is rounded twice. -/
theorem fillOrder_rounded {side : Side} {price size : Decimal} {fill : Fill} {spent : ℚ}
    (hspent : spent = min (side.cost price.value size.value) fill.remaining.value)
    (hp : 0 < price.value) (hcap : Representable (side.cost price.value size.value))
    (hleft : Representable (fill.remaining.value - spent))
    (hpaid : |side.worth price.value spent| ≤ greatest.value)
    (hout : ∀ g, RoundsTo (side.worth price.value spent) g →
      |fill.out.value + g| ≤ greatest.value) :
    ∃ fill' g, fillOrder side price size fill = pure fill' ∧
      fill'.remaining.value = fill.remaining.value - spent ∧
      RoundsTo (side.worth price.value spent) g ∧
      RoundsTo (fill.out.value + g) fill'.out.value := by
  have hcapped {capacity : ℚ} (h : RoundsHalfEven (side.cost price.value size.value) capacity) :
      min capacity fill.remaining.value = spent := by
    rw [hspent, h.roundsTo.eq hcap]
  have houtcome := @fillOrder_outcome side price size fill hp.ne'
  generalize hfill : (fillOrder side price size fill).run = result at houtcome
  cases houtcome with
  | @filled fill' capacity gain h =>
    obtain ⟨hcost, hrest, hworth, hsum⟩ := h
    rw [hcapped hcost] at hrest hworth
    exact ⟨fill', gain, hfill, hrest.roundsTo.eq hleft, hworth.roundsTo, hsum.roundsTo⟩
  | refused h =>
    cases h with
    | cost h => exact absurd h (not_beyond_of_le hcap.abs_le)
    | worth hcost h => exact absurd (hcapped hcost ▸ h) (not_beyond_of_le hpaid)
    | out hcost hworth h =>
      rw [hcapped hcost] at hworth
      exact absurd h (not_beyond_of_le (hout _ hworth.roundsTo))
  | ended hcost h => exact absurd (hcapped hcost ▸ h) (not_beyond_of_le hleft.abs_le)

/-- A step in which nothing has to be rounded. -/
theorem fillOrder_exact {side : Side} {price size : Decimal} {fill : Fill} {spent : ℚ}
    (hspent : spent = min (side.cost price.value size.value) fill.remaining.value)
    (hp : 0 < price.value) (hcap : Representable (side.cost price.value size.value))
    (hleft : Representable (fill.remaining.value - spent))
    (hpaid : Representable (side.worth price.value spent))
    (hout : Representable (fill.out.value + side.worth price.value spent)) :
    ∃ fill', fillOrder side price size fill = pure fill' ∧
      fill'.remaining.value = fill.remaining.value - spent ∧
      fill'.out.value = fill.out.value + side.worth price.value spent := by
  obtain ⟨fill', g, hfill, hrem, hg, hsum⟩ := fillOrder_rounded hspent hp hcap hleft hpaid.abs_le
    fun g hg => by rw [hg.eq hpaid]; exact hout.abs_le
  rw [hg.eq hpaid] at hsum
  exact ⟨fill', hfill, hrem, hsum.eq hout⟩

/-- The amount that is left when the offers have been gone through. -/
theorem max_zero_sub {amount capacity rest : ℚ} (hr : 0 ≤ rest) :
    max 0 (amount - min capacity amount - rest) = max 0 (amount - (capacity + rest)) := by
  rcases le_total capacity amount with h | h
  · rw [min_eq_left h, sub_sub]
  · rw [min_eq_right h, max_eq_left (by linarith), max_eq_left (by linarith)]

theorem offers_nonneg {side : Side} {orders : List (Decimal × Decimal)}
    (hpos : ∀ order ∈ orders, PositiveOrder order) :
    ∀ offer ∈ orders.map side.offer, 0 ≤ offer.1 ∧ 0 ≤ offer.2 := by
  intro offer ho
  obtain ⟨order, horder, rfl⟩ := List.mem_map.mp ho
  obtain ⟨hp, hs⟩ := hpos order horder
  exact ⟨(Side.worth_one_pos hp).le, (Side.cost_pos hp hs).le⟩

theorem capacity_nonneg {side : Side} {orders : List (Decimal × Decimal)}
    (hpos : ∀ order ∈ orders, PositiveOrder order) :
    0 ≤ Greedy.capacity (orders.map side.offer) := by
  apply List.sum_nonneg
  intro x hx
  obtain ⟨offer, ho, rfl⟩ := List.mem_map.mp hx
  exact (offers_nonneg hpos offer ho).2

theorem fillOrders_exact {side : Side} {orders : List (Decimal × Decimal)} {fill : Fill}
    (hpos : ∀ order ∈ orders, PositiveOrder order) (h0 : 0 ≤ fill.remaining.value)
    (hexact : ExactFrom side fill.remaining.value fill.out.value orders) :
    ∃ fill', fillOrders side fill orders = pure fill' ∧
      fill'.remaining.value =
        max 0 (fill.remaining.value - Greedy.capacity (orders.map side.offer)) ∧
      fill'.out.value =
        fill.out.value + Greedy.gain fill.remaining.value (orders.map side.offer) := by
  induction orders generalizing fill with
  | nil =>
    refine ⟨fill, rfl, ?_, ?_⟩
    · simp [max_eq_right h0]
    · simp [Greedy.gain]
  | cons order orders ih =>
    obtain ⟨price, size⟩ := order
    obtain ⟨hp, hs⟩ := hpos _ List.mem_cons_self
    have hrest := fun o ho => hpos o (List.mem_cons_of_mem _ ho)
    have hcap := @Side.cost_pos side _ _ hp hs
    have hcapacity := @capacity_nonneg side _ hrest
    simp only [fillOrders]
    split
    · rename_i hpositive
      rw [isPositive_iff] at hpositive
      obtain ⟨h1, h2, h3, h4, h5⟩ := hexact hpositive
      obtain ⟨fill', hfill, hrem, hout⟩ := fillOrder_exact rfl hp h1 h2 h3 h4
      rw [hfill, pure_bind]
      rw [← hrem, ← hout] at h5
      have h0' : 0 ≤ fill'.remaining.value := by
        rw [hrem]
        exact sub_nonneg.mpr (min_le_right _ _)
      obtain ⟨final, hfinal, hrem', hout'⟩ := ih hrest h0' h5
      refine ⟨final, hfinal, ?_, ?_⟩
      · rw [hrem', hrem, max_zero_sub hcapacity]
        simp [Side.offer]
      · rw [hout', hout, hrem]
        simp only [List.map_cons, Greedy.gain, Side.offer]
        rw [Side.worth_eq]
        ring
    · rename_i hzero
      rw [isPositive_iff, not_lt] at hzero
      have hz : fill.remaining.value = 0 := le_antisymm hzero h0
      refine ⟨fill, rfl, ?_, ?_⟩
      · rw [hz, max_eq_left]
        simp only [List.map_cons, Greedy.capacity_cons, Side.offer]
        linarith
      · rw [hz, Greedy.gain_zero, add_zero]
        exact fun offer ho => (offers_nonneg hpos offer ho).2

theorem Sound.swept_sound {book : Book} (h : book.Sound) (side : Side) :
    ∀ level ∈ book.swept side, level.Sound := by
  cases side with
  | buy => exact h.asks.sound
  | sell =>
    intro level hl
    exact h.bids.sound level (List.mem_reverse.mp hl)

theorem Sound.orders_pos {book : Book} (h : book.Sound) (side : Side) :
    ∀ order ∈ book.sweepOrders side, PositiveOrder order := by
  intro order ho
  obtain ⟨level, hl, ho⟩ := List.mem_flatMap.mp ho
  obtain ⟨resting, hr, rfl⟩ := List.mem_map.mp ho
  have hsound := h.swept_sound side level hl
  exact ⟨isPositive_iff.mp hsound.price_pos, isPositive_iff.mp (hsound.size_pos resting hr)⟩

theorem amountOut_run {book : Book} {side : Side} {amountIn : Decimal} {fill : Fill}
    (hpos : amountIn.IsPositive)
    (hfill : fillOrders side ⟨amountIn, .zero⟩ (book.sweepOrders side) = pure fill) :
    (book.amountOut side amountIn).run =
      if 0 < fill.remaining.value then .ok (.error (.insufficientLiquidity side))
      else .ok (.ok fill.out) := by
  simp only [amountOut, hpos, not_true, if_false, pure_bind, hfill, isPositive_iff]
  split <;> rfl

/-- An exact sweep pays what the offers gain, unless they cannot take up the amount. -/
theorem amountOut_exact {book : Book} {side : Side} {amountIn : Decimal} (hsound : book.Sound)
    (hpos : amountIn.IsPositive)
    (hexact : ExactFrom side amountIn.value 0 (book.sweepOrders side)) :
    ∃ out : Decimal,
      out.value = Greedy.gain amountIn.value ((book.sweepOrders side).map side.offer) ∧
      (book.amountOut side amountIn).run =
        if Greedy.capacity ((book.sweepOrders side).map side.offer) < amountIn.value then
          .ok (.error (.insufficientLiquidity side))
        else .ok (.ok out) := by
  obtain ⟨fill, hfill, hrem, hout⟩ := @fillOrders_exact side _ ⟨amountIn, .zero⟩
    (hsound.orders_pos side) (isPositive_iff.mp hpos).le (by rwa [value_zero])
  refine ⟨fill.out, by rw [hout, value_zero, zero_add], ?_⟩
  rw [amountOut_run hpos hfill, hrem]
  simp only [lt_max_iff, lt_irrefl, false_or, sub_pos]

end Book

end SweepAudit
