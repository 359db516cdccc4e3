import SweepAudit.Proofs.Book.Reachable
import SweepAudit.Proofs.Decimal.Quotient
import SweepAudit.Proofs.Except

/-!
A sweep order by order, with every rounding that its decimals bring about. What an order is said to
cost, what is left, what is paid for it and what has been paid in all are rounded one after another,
and an order is given up if one of these numbers has no room. What is left has room as long as it is
not negative, and it never gets there.
-/

namespace SweepAudit

open Decimal

namespace Side

/-- What a part of an order costs: quote for a buyer, size for a seller. -/
def cost (side : Side) (price amount : ℚ) : ℚ :=
  match side with
  | .buy => price * amount
  | .sell => amount

/-- What a part of an order brings in: size for a buyer, quote for a seller. -/
def yield (side : Side) (price amount : ℚ) : ℚ :=
  match side with
  | .buy => amount
  | .sell => price * amount

/-- What is paid out for an amount that is spent at a price. -/
def worth (side : Side) (price spent : ℚ) : ℚ :=
  match side with
  | .buy => spent / price
  | .sell => price * spent

variable {side : Side} {price amount spent more : ℚ}

theorem worth_eq (side : Side) (price spent : ℚ) :
    side.worth price spent = side.worth price 1 * spent := by
  cases side
  · simp only [worth]
    ring
  · simp only [worth, mul_one]

theorem worth_cost (hp : 0 < price) (amount : ℚ) :
    side.worth price (side.cost price amount) = side.yield price amount := by
  cases side
  · simp only [worth, cost, yield]
    field_simp
  · rfl

theorem worth_one_pos (hp : 0 < price) : 0 < side.worth price 1 := by
  cases side <;> simp only [worth] <;> positivity

theorem worth_mono (hp : 0 < price) (h : spent ≤ more) :
    side.worth price spent ≤ side.worth price more := by
  rw [worth_eq side price spent, worth_eq side price more]
  exact mul_le_mul_of_nonneg_left h (worth_one_pos hp).le

theorem worth_nonneg (hp : 0 < price) (h : 0 ≤ spent) : 0 ≤ side.worth price spent := by
  rw [worth_eq]
  exact mul_nonneg (worth_one_pos hp).le h

theorem cost_pos (hp : 0 < price) (ha : 0 < amount) : 0 < side.cost price amount := by
  cases side <;> simp only [cost] <;> positivity

theorem yield_pos (hp : 0 < price) (ha : 0 < amount) : 0 < side.yield price amount := by
  cases side <;> simp only [yield] <;> positivity

end Side

namespace Book

/-- Both numbers of an order are positive. -/
def PositiveOrder (order : Decimal × Decimal) : Prop := 0 < order.1.value ∧ 0 < order.2.value

/-- What is spent on an order, unless what a buyer would have to pay for it has no room. -/
def spend? (side : Side) (price size remaining : Decimal) : Option Decimal :=
  match side with
  | .buy => (price.mul? size).map (·.least remaining)
  | .sell => some (size.least remaining)

/-- What is paid out for it. -/
def gain? (side : Side) (price spend : Decimal) : Option Decimal :=
  match side with
  | .buy => spend.div? price
  | .sell => price.mul? spend

/-- What an order makes of a fill, with all roundings. -/
structure Fills (side : Side) (price size : Decimal) (fill : Fill) (capacity gain : ℚ)
    (fill' : Fill) : Prop where
  cost : RoundsHalfEven (side.cost price.value size.value) capacity
  left : RoundsHalfEven (fill.remaining.value - min capacity fill.remaining.value)
    fill'.remaining.value
  worth : RoundsHalfEven (side.worth price.value (min capacity fill.remaining.value)) gain
  out : RoundsHalfEven (fill.out.value + gain) fill'.out.value

/-- A number other than what is left has no room. -/
inductive Overflows (side : Side) (price size : Decimal) (fill : Fill) : Prop where
  | cost (h : Beyond (side.cost price.value size.value))
  | worth {capacity : ℚ} (hcapacity : RoundsHalfEven (side.cost price.value size.value) capacity)
      (h : Beyond (side.worth price.value (min capacity fill.remaining.value)))
  | out {capacity gain : ℚ}
      (hcapacity : RoundsHalfEven (side.cost price.value size.value) capacity)
      (hgain : RoundsHalfEven (side.worth price.value (min capacity fill.remaining.value)) gain)
      (h : Beyond (fill.out.value + gain))

/-- What filling an order comes to. -/
inductive Outcome (side : Side) (price size : Decimal) (fill : Fill) :
    Except Overflow (Except BookError Fill) → Prop where
  | filled {fill' : Fill} {capacity gain : ℚ} (h : Fills side price size fill capacity gain fill') :
      Outcome side price size fill (.ok (.ok fill'))
  | refused (h : Overflows side price size fill) :
      Outcome side price size fill (.ok (.error .overflow))
  | ended {capacity : ℚ} (hcapacity : RoundsHalfEven (side.cost price.value size.value) capacity)
      (h : Beyond (fill.remaining.value - min capacity fill.remaining.value)) :
      Outcome side price size fill (.error .subtraction)

/-- One fill goes on from another: no more is left, but nothing negative, and no less has been paid
out. -/
structure Continues (fill fill' : Fill) : Prop where
  nonneg : 0 ≤ fill'.remaining.value
  remaining_le : fill'.remaining.value ≤ fill.remaining.value
  out_le : fill.out.value ≤ fill'.out.value

variable {side : Side} {price size remaining spend : Decimal} {fill fill' fill'' : Fill}
  {capacity gain : ℚ} {orders : List (Decimal × Decimal)}

/-! One order -/

@[simp] theorem orRefuse_some (e : BookError) (x : Decimal) :
    orRefuse e (some x) = (pure x : Quoting Decimal) := rfl

theorem liftM_ok {α : Type} (x : α) :
    (liftM (Except.ok x : Except Overflow α) : Quoting α) = pure x := rfl

/-- Either side spends, pays out and adds up in the same way. -/
theorem fillOrder_eq (side : Side) (price size : Decimal) (fill : Fill) :
    fillOrder side price size fill = (do
      let spend ← orRefuse .overflow (spend? side price size fill.remaining)
      let remaining ← liftM (fill.remaining.sub spend)
      let gain ← orRefuse .overflow (gain? side price spend)
      let out ← orRefuse .overflow (fill.out.add? gain)
      return ⟨remaining, out⟩) := by
  cases side with
  | buy =>
    simp only [fillOrder, spend?, gain?]
    cases price.mul? size <;> rfl
  | sell => rfl

theorem spend?_cases (side : Side) (price size remaining : Decimal) :
    (∃ spend capacity, spend? side price size remaining = some spend ∧
      RoundsHalfEven (side.cost price.value size.value) capacity ∧
      spend.value = min capacity remaining.value) ∨
    spend? side price size remaining = none ∧ Beyond (side.cost price.value size.value) := by
  cases side with
  | buy =>
    have hcapacity := mul?_settled price size
    simp only [spend?, Side.cost]
    cases hmul : price.mul? size with
    | none =>
      rw [hmul] at hcapacity
      exact .inr ⟨rfl, hcapacity⟩
    | some capacity =>
      rw [hmul] at hcapacity
      exact .inl ⟨_, capacity.value, rfl, hcapacity, value_least capacity remaining⟩
  | sell =>
    exact .inl ⟨_, size.value, rfl, roundsHalfEven_value size, value_least size remaining⟩

theorem gain?_settled (hp : price.value ≠ 0) :
    Settled (side.worth price.value spend.value) (gain? side price spend) := by
  cases side with
  | buy => exact div?_settled hp
  | sell => exact mul?_settled price spend

theorem fillOrder_outcome (hp : price.value ≠ 0) :
    Outcome side price size fill (fillOrder side price size fill).run := by
  rw [fillOrder_eq]
  obtain ⟨spend, capacity, hspend, hcapacity, hvalue⟩ | ⟨hspend, hcost⟩ :=
    spend?_cases side price size fill.remaining
  · have hleft := sub?_settled fill.remaining spend
    have hgain := @gain?_settled side price spend hp
    rw [hvalue] at hleft hgain
    rw [hspend, orRefuse_some, pure_bind, Decimal.sub]
    cases hsub : fill.remaining.sub? spend with
    | none =>
      rw [hsub] at hleft
      exact .ended hcapacity hleft
    | some left =>
      rw [hsub] at hleft
      rw [orOverflow, liftM_ok, pure_bind]
      cases hpaid : gain? side price spend with
      | none =>
        rw [hpaid] at hgain
        exact .refused (.worth hcapacity hgain)
      | some gain =>
        rw [hpaid] at hgain
        have hout := add?_settled fill.out gain
        rw [orRefuse_some, pure_bind]
        cases hadd : fill.out.add? gain with
        | none =>
          rw [hadd] at hout
          exact .refused (.out hcapacity hgain hout)
        | some out =>
          rw [hadd] at hout
          exact .filled ⟨hcapacity, hleft, hgain, hout⟩
  · rw [hspend]
    exact .refused (.cost hcost)

theorem fills_of_run (hp : price.value ≠ 0)
    (h : (fillOrder side price size fill).run = .ok (.ok fill')) :
    ∃ capacity gain, Fills side price size fill capacity gain fill' := by
  have houtcome := @fillOrder_outcome side price size fill hp
  rw [h] at houtcome
  cases houtcome with
  | filled h => exact ⟨_, _, h⟩

theorem Continues.refl (h0 : 0 ≤ fill.remaining.value) : Continues fill fill :=
  ⟨h0, le_rfl, le_rfl⟩

theorem Continues.trans (h : Continues fill fill') (h' : Continues fill' fill'') :
    Continues fill fill'' :=
  ⟨h'.nonneg, h'.remaining_le.trans h.remaining_le, h.out_le.trans h'.out_le⟩

theorem nonneg_of_cost (hpos : PositiveOrder (price, size))
    (h : RoundsHalfEven (side.cost price.value size.value) capacity) : 0 ≤ capacity :=
  h.roundsTo.nonneg (Side.cost_pos hpos.1 hpos.2).le

theorem Fills.continues (h : Fills side price size fill capacity gain fill')
    (hpos : PositiveOrder (price, size)) (h0 : 0 ≤ fill.remaining.value) :
    Continues fill fill' := by
  have hcapacity := nonneg_of_cost hpos h.cost
  have hspent : 0 ≤ min capacity fill.remaining.value := le_min hcapacity h0
  have hgain : 0 ≤ gain := h.worth.roundsTo.nonneg (Side.worth_nonneg hpos.1 hspent)
  refine ⟨?_, ?_, ?_⟩
  · exact h.left.roundsTo.nonneg (sub_nonneg.mpr (min_le_right _ _))
  · exact h.left.roundsTo.le ⟨_, rfl⟩ (sub_le_self _ hspent)
  · exact h.out.roundsTo.ge ⟨_, rfl⟩ (le_add_of_nonneg_right hgain)

/-- What is left after an order always has room. -/
theorem not_beyond_left (h0 : 0 ≤ remaining.value) (hcapacity : 0 ≤ capacity) :
    ¬Beyond (remaining.value - min capacity remaining.value) := by
  have hle : remaining.value - min capacity remaining.value ≤ remaining.value :=
    sub_le_self _ (le_min hcapacity h0)
  exact mt (Beyond.mono (sub_nonneg.mpr (min_le_right _ _)) hle)
    (roundsHalfEven_value remaining).not_beyond

/-- An order is filled, or it is refused because a number has no room; what is left never ends the
sweep. -/
theorem fillOrder_continues (hpos : PositiveOrder (price, size)) (h0 : 0 ≤ fill.remaining.value) :
    (fillOrder side price size fill).run = .ok (.error .overflow) ∨
      ∃ fill', (fillOrder side price size fill).run = .ok (.ok fill') ∧ Continues fill fill' := by
  have houtcome := @fillOrder_outcome side price size fill hpos.1.ne'
  generalize (fillOrder side price size fill).run = result at houtcome
  cases houtcome with
  | @filled fill' _ _ h => exact .inr ⟨fill', rfl, h.continues hpos h0⟩
  | refused => exact .inl rfl
  | ended hcapacity h => exact absurd h (not_beyond_left h0 (nonneg_of_cost hpos hcapacity))

/-! Order after order -/

theorem fillOrders_done (h : fill.remaining.value ≤ 0) (orders : List (Decimal × Decimal)) :
    fillOrders side fill orders = pure fill := by
  cases orders with
  | nil => rfl
  | cons order orders => rw [fillOrders, if_neg (mt isPositive_iff.mp (not_lt.mpr h))]

theorem fillOrders_cons (h : 0 < fill.remaining.value) :
    fillOrders side fill ((price, size) :: orders) =
      fillOrder side price size fill >>= fun fill' => fillOrders side fill' orders := by
  rw [fillOrders, if_pos (isPositive_iff.mpr h)]

/-- What holds of a fill and the orders ahead of it, and is kept by each order that is filled, holds
where the sweep ends. -/
theorem fillOrders_invariant {P : List (Decimal × Decimal) → Fill → Prop}
    (hpos : ∀ order ∈ orders, PositiveOrder order)
    (hstep : ∀ {price size rest fill capacity gain fill'}, (price, size) :: rest <:+ orders →
      P ((price, size) :: rest) fill → Fills side price size fill capacity gain fill' →
      P rest fill')
    (h : P orders fill) (hfill : (fillOrders side fill orders).run = .ok (.ok fill')) :
    ∃ rest, rest <:+ orders ∧ P rest fill' := by
  induction orders generalizing fill with
  | nil =>
    cases hfill
    exact ⟨[], List.suffix_rfl, h⟩
  | cons order orders ih =>
    obtain ⟨price, size⟩ := order
    rcases le_or_gt fill.remaining.value 0 with hle | hlt
    · rw [fillOrders_done hle] at hfill
      cases hfill
      exact ⟨_, List.suffix_rfl, h⟩
    · obtain ⟨hpos, hrest⟩ := List.forall_mem_cons.mp hpos
      rw [fillOrders_cons hlt] at hfill
      obtain ⟨next, hfirst, hthen⟩ := run_bind_eq_ok hfill
      obtain ⟨capacity, gain, hnext⟩ := fills_of_run hpos.1.ne' hfirst
      obtain ⟨rest, hsuffix, hP⟩ := ih hrest
        (fun hahead => hstep (hahead.trans (List.suffix_cons _ _)))
        (hstep List.suffix_rfl h hnext) hthen
      exact ⟨rest, hsuffix.trans (List.suffix_cons _ _), hP⟩

/-- A sweep goes through, or it is refused because a number has no room. -/
theorem fillOrders_continues (hpos : ∀ order ∈ orders, PositiveOrder order)
    (h0 : 0 ≤ fill.remaining.value) :
    (fillOrders side fill orders).run = .ok (.error .overflow) ∨
      ∃ fill', (fillOrders side fill orders).run = .ok (.ok fill') ∧ Continues fill fill' := by
  induction orders generalizing fill with
  | nil => exact .inr ⟨fill, rfl, .refl h0⟩
  | cons order orders ih =>
    obtain ⟨price, size⟩ := order
    obtain ⟨hpos, hrest⟩ := List.forall_mem_cons.mp hpos
    rcases h0.eq_or_lt with hzero | hlt
    · rw [fillOrders_done hzero.ge]
      exact .inr ⟨fill, rfl, .refl h0⟩
    · rw [fillOrders_cons hlt, ExceptT.run_bind]
      obtain hrun | ⟨next, hrun, hfirst⟩ := @fillOrder_continues side price size fill hpos h0
      · rw [hrun]
        exact .inl rfl
      · rw [hrun]
        obtain hrefused | ⟨fill', hfill, hthen⟩ := ih hrest hfirst.nonneg
        · exact .inl hrefused
        · exact .inr ⟨fill', hfill, hfirst.trans hthen⟩

end Book

end SweepAudit
