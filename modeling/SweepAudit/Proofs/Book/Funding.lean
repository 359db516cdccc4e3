import SweepAudit.Proofs.Book.Sweep
import SweepAudit.Proofs.Decimal.Grid

/-!
A sweep that is funded for the best orders, or for these and something more. It takes the
best orders whole, with nothing to be rounded; what is left goes to the orders behind them,
of which the last may be taken in part and paid with a rounded amount.
-/

namespace SweepAudit.Book

open Decimal

/-- What orders cost if they are taken whole. -/
def costs (side : Side) (orders : List (Decimal × Decimal)) : ℚ :=
  (orders.map fun order => side.cost order.1.value order.2.value).sum

/-- What orders bring in if they are taken whole. -/
def yields (side : Side) (orders : List (Decimal × Decimal)) : ℚ :=
  (orders.map fun order => side.yield order.1.value order.2.value).sum

/-- Orders whose numbers have at most so many places, also where they are multiplied. -/
structure Placed (n : Nat) (orders : List (Decimal × Decimal)) : Prop where
  pos : ∀ order ∈ orders, PositiveOrder order
  quote : ∀ order ∈ orders, OnGrid n (order.1.value * order.2.value)
  base : ∀ order ∈ orders, OnGrid n order.2.value

variable {n : Nat} {side : Side} {order : Decimal × Decimal}
  {orders first rest : List (Decimal × Decimal)}

@[simp] theorem costs_nil : costs side [] = 0 := rfl

@[simp] theorem yields_nil : yields side [] = 0 := rfl

@[simp] theorem costs_cons :
    costs side (order :: orders) = side.cost order.1.value order.2.value + costs side orders := by
  simp [costs]

@[simp] theorem yields_cons :
    yields side (order :: orders) =
      side.yield order.1.value order.2.value + yields side orders := by
  simp [yields]

@[simp] theorem costs_append : costs side (first ++ rest) = costs side first + costs side rest := by
  simp [costs]

@[simp] theorem yields_append :
    yields side (first ++ rest) = yields side first + yields side rest := by
  simp [yields]

theorem costs_nonneg (hpos : ∀ order ∈ orders, PositiveOrder order) (side : Side) :
    0 ≤ costs side orders := by
  apply List.sum_nonneg
  intro q hq
  obtain ⟨order, ho, rfl⟩ := List.mem_map.mp hq
  exact (Side.cost_pos (hpos order ho).1 (hpos order ho).2).le

theorem yields_nonneg (hpos : ∀ order ∈ orders, PositiveOrder order) (side : Side) :
    0 ≤ yields side orders := by
  apply List.sum_nonneg
  intro q hq
  obtain ⟨order, ho, rfl⟩ := List.mem_map.mp hq
  exact (Side.yield_pos (hpos order ho).1 (hpos order ho).2).le

namespace Placed

theorem cons_iff : Placed n (order :: orders) ↔
    (PositiveOrder order ∧ OnGrid n (order.1.value * order.2.value) ∧ OnGrid n order.2.value) ∧
      Placed n orders := by
  constructor
  · intro h
    obtain ⟨h1, h1'⟩ := List.forall_mem_cons.mp h.pos
    obtain ⟨h2, h2'⟩ := List.forall_mem_cons.mp h.quote
    obtain ⟨h3, h3'⟩ := List.forall_mem_cons.mp h.base
    exact ⟨⟨h1, h2, h3⟩, h1', h2', h3'⟩
  · rintro ⟨⟨h1, h2, h3⟩, h⟩
    exact ⟨List.forall_mem_cons.mpr ⟨h1, h.pos⟩, List.forall_mem_cons.mpr ⟨h2, h.quote⟩,
      List.forall_mem_cons.mpr ⟨h3, h.base⟩⟩

theorem append_iff : Placed n (first ++ rest) ↔ Placed n first ∧ Placed n rest := by
  constructor
  · intro h
    obtain ⟨h1, h1'⟩ := List.forall_mem_append.mp h.pos
    obtain ⟨h2, h2'⟩ := List.forall_mem_append.mp h.quote
    obtain ⟨h3, h3'⟩ := List.forall_mem_append.mp h.base
    exact ⟨⟨h1, h2, h3⟩, h1', h2', h3'⟩
  · rintro ⟨h, h'⟩
    exact ⟨List.forall_mem_append.mpr ⟨h.pos, h'.pos⟩,
      List.forall_mem_append.mpr ⟨h.quote, h'.quote⟩,
      List.forall_mem_append.mpr ⟨h.base, h'.base⟩⟩

theorem cost (h : Placed n orders) (side : Side) (ho : order ∈ orders) :
    OnGrid n (side.cost order.1.value order.2.value) := by
  cases side
  · exact h.quote order ho
  · exact h.base order ho

theorem yield (h : Placed n orders) (side : Side) (ho : order ∈ orders) :
    OnGrid n (side.yield order.1.value order.2.value) := by
  cases side
  · exact h.base order ho
  · exact h.quote order ho

theorem onGrid_costs (h : Placed n orders) (side : Side) : OnGrid n (costs side orders) := by
  apply onGrid_sum
  intro q hq
  obtain ⟨order, ho, rfl⟩ := List.mem_map.mp hq
  exact h.cost side ho

theorem onGrid_yields (h : Placed n orders) (side : Side) : OnGrid n (yields side orders) := by
  apply onGrid_sum
  intro q hq
  obtain ⟨order, ho, rfl⟩ := List.mem_map.mp hq
  exact h.yield side ho

theorem costs_nonneg (h : Placed n orders) (side : Side) : 0 ≤ costs side orders :=
  Book.costs_nonneg h.pos side

theorem yields_nonneg (h : Placed n orders) (side : Side) : 0 ≤ yields side orders :=
  Book.yields_nonneg h.pos side

theorem costs_pos (h : Placed n orders) (side : Side) (hne : orders ≠ []) :
    0 < costs side orders := by
  cases orders with
  | nil => exact absurd rfl hne
  | cons order orders =>
    obtain ⟨⟨hpos, -⟩, horders⟩ := cons_iff.mp h
    rw [costs_cons]
    exact add_pos_of_pos_of_nonneg (Side.cost_pos hpos.1 hpos.2) (horders.costs_nonneg side)

end Placed

/-- The orders that the funding covers are taken whole. -/
theorem fillOrders_whole (hn : n ≤ 28) {fill : Fill} {left : ℚ} (h : Placed n first)
    (hleft : 0 ≤ left) (hfund : fill.remaining.value = costs side first + left)
    (hin : Held n fill.remaining.value) (hpaid : OnGrid n fill.out.value)
    (h0 : 0 ≤ fill.out.value) (hout : Held n (fill.out.value + yields side first)) :
    ∃ fill', fillOrders side fill (first ++ rest) = fillOrders side fill' rest ∧
      fill'.remaining.value = left ∧
      fill'.out.value = fill.out.value + yields side first := by
  induction first generalizing fill with
  | nil => exact ⟨fill, rfl, by simpa using hfund, by simp⟩
  | cons order first ih =>
    have hcost := h.cost side List.mem_cons_self
    have hyield := h.yield side List.mem_cons_self
    obtain ⟨⟨⟨hp, hs⟩, -⟩, hfirst⟩ := Placed.cons_iff.mp h
    obtain ⟨price, size⟩ := order
    rw [costs_cons] at hfund
    rw [yields_cons] at hout ⊢
    have hcpos := @Side.cost_pos side _ _ hp hs
    have hypos := @Side.yield_pos side _ _ hp hs
    have hrest := hfirst.costs_nonneg side
    have hrest' := hfirst.yields_nonneg side
    dsimp only at hcost hyield hfund hout hcpos hypos hp ⊢
    have hmin : min (side.cost price.value size.value) fill.remaining.value =
        side.cost price.value size.value := min_eq_left (by linarith)
    have hworth := @Side.worth_cost side _ hp size.value
    have hcap : Held n (side.cost price.value size.value) :=
      hin.of_le hcost hcpos.le (by linarith)
    have hleft' : Held n (fill.remaining.value - side.cost price.value size.value) :=
      hin.of_le (hin.grid.sub hcost) (by linarith) (by linarith)
    have hgain : Held n (side.yield price.value size.value) :=
      hout.of_le hyield hypos.le (by linarith)
    have hsum : Held n (fill.out.value + side.yield price.value size.value) :=
      hout.of_le (hpaid.add hyield) (by linarith) (by linarith)
    obtain ⟨fill', hfill, hrem, hval⟩ := fillOrder_exact hmin.symm hp (hcap.representable hn)
      (hleft'.representable hn) (hworth ▸ hgain.representable hn) (hworth ▸ hsum.representable hn)
    rw [hworth] at hval
    have hpositive : fill.remaining.IsPositive := isPositive_iff.mpr (by linarith)
    obtain ⟨final, hfinal, hrem', hval'⟩ := @ih fill' hfirst (by rw [hrem]; linarith)
      (hrem ▸ hleft') (hval ▸ hsum.grid) (hval ▸ hsum.nonneg)
      (by rw [hval, add_assoc]; exact hout)
    refine ⟨final, ?_, hrem', by rw [hval', hval, add_assoc]⟩
    rw [List.cons_append, fillOrders, if_pos hpositive, hfill, pure_bind, hfinal]

/-- The order at which the funding ends is taken in part, and a rounded amount is paid for it. -/
theorem fillOrders_part (hn : n ≤ 28) {fill : Fill} (hpos : PositiveOrder order)
    (hcap : Representable (side.cost order.1.value order.2.value))
    (h0 : 0 ≤ fill.remaining.value)
    (hpart : fill.remaining.value < side.cost order.1.value order.2.value)
    (hyield : Held n (side.yield order.1.value order.2.value)) (hpaid : 0 ≤ fill.out.value)
    (hout : Held n (fill.out.value + side.yield order.1.value order.2.value)) :
    ∃ fill', fillOrders side fill (order :: orders) = pure fill' ∧
      fill'.remaining.value = 0 := by
  obtain ⟨price, size⟩ := order
  obtain ⟨hp, hs⟩ := hpos
  dsimp only at hcap hpart hyield hout hp hs
  rcases h0.eq_or_lt with hzero | hlt
  · exact ⟨fill, fillOrders_done hzero.ge _, hzero.symm⟩
  · have hmin : fill.remaining.value =
        min (side.cost price.value size.value) fill.remaining.value := (min_eq_right hpart.le).symm
    -- A part of the order brings in no more than the whole.
    have hworth : 0 ≤ side.worth price.value fill.remaining.value ∧
        side.worth price.value fill.remaining.value ≤ side.yield price.value size.value := by
      rw [← Side.worth_cost hp, Side.worth_eq side _ fill.remaining.value,
        Side.worth_eq side _ (side.cost price.value size.value)]
      have := @Side.worth_one_pos side _ hp
      exact ⟨mul_nonneg this.le h0, mul_le_mul_of_nonneg_left hpart.le this.le⟩
    obtain ⟨fill', g, hfill, hrem, -, -⟩ := fillOrder_rounded hmin hp hcap
      (by rw [sub_self]; exact representable_zero) (hyield.abs_le hn hworth.1 hworth.2)
      (by
        intro g hg
        have hge := hg.nonneg hworth.1
        have hle := hg.le (hyield.representable hn) hworth.2
        exact hout.abs_le hn (by linarith) (by linarith))
    rw [sub_self] at hrem
    refine ⟨fill', ?_, hrem⟩
    rw [fillOrders, if_pos (isPositive_iff.mpr hlt), hfill, pure_bind, fillOrders_done hrem.le]

/-- Funding that the orders can take up is spent, the last of it on a part of an order. -/
theorem fillOrders_spent (hn : n ≤ 28) {fill : Fill} (h : Placed n orders)
    (hin : Held n fill.remaining.value) (hle : fill.remaining.value ≤ costs side orders)
    (hall : Held n (costs side orders))
    (hpaid : OnGrid n fill.out.value) (h0 : 0 ≤ fill.out.value)
    (hout : Held n (fill.out.value + yields side orders)) :
    ∃ fill', fillOrders side fill orders = pure fill' ∧ fill'.remaining.value = 0 := by
  induction orders generalizing fill with
  | nil => exact ⟨fill, rfl, le_antisymm hle hin.nonneg⟩
  | cons order orders ih =>
    have hcost := h.cost side List.mem_cons_self
    have hyield := h.yield side List.mem_cons_self
    obtain ⟨⟨hpos, hquote, hbase⟩, horders⟩ := Placed.cons_iff.mp h
    have hcpos := @Side.cost_pos side _ _ hpos.1 hpos.2
    have hypos := @Side.yield_pos side _ _ hpos.1 hpos.2
    have hrest := horders.costs_nonneg side
    have hrest' := horders.yields_nonneg side
    rw [costs_cons] at hle hall
    rw [yields_cons] at hout
    have hone : Held n (fill.out.value + side.yield order.1.value order.2.value) :=
      hout.of_le (hpaid.add hyield) (by linarith) (by linarith)
    rcases le_or_gt (side.cost order.1.value order.2.value) fill.remaining.value with hwhole | hpart
    · -- The order is taken whole.
      have hsingle : Placed n [order] :=
        ⟨by simpa using hpos, by simpa using hquote, by simpa using hbase⟩
      obtain ⟨fill', hfill, hrem, hval⟩ := @fillOrders_whole n side [order] orders hn fill
        (fill.remaining.value - side.cost order.1.value order.2.value) hsingle (by linarith)
        (by simp) hin hpaid h0 (by simpa using hone)
      rw [List.singleton_append] at hfill
      rw [yields_cons, yields_nil, add_zero] at hval
      have hleft : Held n fill'.remaining.value := by
        rw [hrem]
        exact hin.of_le (hin.grid.sub hcost) (by linarith) (by linarith)
      have hothers : Held n (costs side orders) :=
        hall.of_le (horders.onGrid_costs side) hrest (by linarith)
      rw [hfill]
      exact ih horders hleft (by rw [hrem]; linarith) hothers (hval ▸ hone.grid)
        (hval ▸ hone.nonneg) (by rw [hval, add_assoc]; exact hout)
    · exact fillOrders_part hn hpos ((hall.of_le hcost hcpos.le (by linarith)).representable hn)
        hin.nonneg hpart (hout.of_le hyield hypos.le (by linarith)) h0 hone

/-- Funded for exactly its best orders a sweep pays what these bring in. -/
theorem amountOut_whole {book : Book} (hn : n ≤ 28) (hbook : book.sweepOrders side = first ++ rest)
    (h : Placed n first) (hne : first ≠ []) (hin : Held n (costs side first))
    (hout : Held n (yields side first)) {fund : Decimal} (hfund : fund.value = costs side first) :
    ∃ out : Decimal, (book.amountOut side fund).run = .ok (.ok out) ∧
      out.value = yields side first := by
  have hpos := h.costs_pos side hne
  obtain ⟨fill, hfill, hrem, hval⟩ := @fillOrders_whole n side first rest hn ⟨fund, .zero⟩ 0 h
    le_rfl (by rw [hfund, add_zero]) (by rw [hfund]; exact hin)
    (by rw [value_zero]; exact onGrid_zero n) (by rw [value_zero])
    (by rw [value_zero, zero_add]; exact hout)
  rw [fillOrders_done hrem.le] at hfill
  refine ⟨fill.out, ?_, by rw [hval, value_zero, zero_add]⟩
  rw [amountOut_run (isPositive_iff.mpr (hfund ▸ hpos)) (hbook ▸ hfill), hrem, if_neg (lt_irrefl 0)]

/-- Funded with something more, a sweep is filled exactly if the orders behind can take it up. -/
theorem amountOut_beyond {book : Book} (hn : n ≤ 28)
    (hbook : book.sweepOrders side = first ++ rest) (h : Placed n first) (h' : Placed n rest)
    {more : ℚ} (hmore : 0 < more) (hin : Held n (costs side first + more))
    (hall : Held n (costs side rest)) (hout : Held n (yields side first + yields side rest))
    {fund : Decimal} (hfund : fund.value = costs side first + more) :
    if costs side rest < more then
      (book.amountOut side fund).run = .ok (.error (.insufficientLiquidity side))
    else ∃ out, (book.amountOut side fund).run = .ok (.ok out) := by
  have h0 := h.costs_nonneg side
  have hpos : fund.IsPositive := isPositive_iff.mpr (by rw [hfund]; linarith)
  have hfirst : Held n (yields side first) :=
    hout.of_le (h.onGrid_yields side) (h.yields_nonneg side) (by linarith [h'.yields_nonneg side])
  obtain ⟨fill, hfill, hrem, hval⟩ := @fillOrders_whole n side first rest hn ⟨fund, .zero⟩ more h
    hmore.le hfund (by rw [hfund]; exact hin) (by rw [value_zero]; exact onGrid_zero n)
    (by rw [value_zero]) (by rw [value_zero, zero_add]; exact hfirst)
  rw [value_zero, zero_add] at hval
  have hleft : Held n fill.remaining.value := by
    have hgrid := hin.grid.sub (h.onGrid_costs side)
    rw [add_sub_cancel_left] at hgrid
    rw [hrem]
    exact hin.of_le hgrid hmore.le (by linarith)
  split
  · rename_i hlt
    obtain ⟨final, hfinal, hrem', -⟩ := @fillOrders_whole n side rest [] hn fill
      (more - costs side rest) h' (by linarith) (by rw [hrem]; ring) hleft
      (hval ▸ hfirst.grid) (hval ▸ hfirst.nonneg) (by rw [hval]; exact hout)
    rw [List.append_nil] at hfinal
    rw [amountOut_run hpos (by rw [hbook, hfill, hfinal]; rfl), hrem', if_pos (by linarith)]
  · rename_i hle
    obtain ⟨final, hfinal, hrem'⟩ := fillOrders_spent hn h' hleft
      (by rw [hrem]; exact not_lt.mp hle) hall (hval ▸ hfirst.grid) (hval ▸ hfirst.nonneg)
      (by rw [hval]; exact hout)
    refine ⟨final.out, ?_⟩
    rw [amountOut_run hpos (by rw [hbook, hfill, hfinal]), hrem', if_neg (lt_irrefl 0)]

end SweepAudit.Book
