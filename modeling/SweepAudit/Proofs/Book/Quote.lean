import SweepAudit.Proofs.Book.Funding
import SweepAudit.Proofs.Book.Interleaving

/-!
What a quote can be relied on for, whatever its decimals round: it comes to an answer, and it pays
no less for more. Each rounding keeps the order of the numbers, and so does each order that is
filled; what is paid out is compared to what rests on the book elsewhere.
-/

namespace SweepAudit.Book

open Decimal

variable {book : Book} {side : Side} {price size amountIn out a b y : Decimal}
  {fill low high high' : Fill} {orders : List (Decimal × Decimal)}

/-! The answer to a quote -/

/-- What a quote can be refused for. -/
inductive RefusesQuote (side : Side) (amountIn : Decimal) : BookError → Prop where
  | invalidQuantity (h : ¬amountIn.IsPositive) :
      RefusesQuote side amountIn (.invalidQuantity amountIn)
  | insufficientLiquidity : RefusesQuote side amountIn (.insufficientLiquidity side)
  | overflow : RefusesQuote side amountIn .overflow

/-- A quote is refused, or its sweep goes through and leaves something or nothing. -/
theorem amountOut_cases (h : book.Sound) (side : Side) (amountIn : Decimal) :
    ¬amountIn.IsPositive ∧
      (book.amountOut side amountIn).run = .ok (.error (.invalidQuantity amountIn)) ∨
    amountIn.IsPositive ∧
      ((book.amountOut side amountIn).run = .ok (.error .overflow) ∨
        ∃ fill, (fillOrders side ⟨amountIn, .zero⟩ (book.sweepOrders side)).run = .ok (.ok fill) ∧
          Continues ⟨amountIn, .zero⟩ fill ∧
          (book.amountOut side amountIn).run =
            if 0 < fill.remaining.value then .ok (.error (.insufficientLiquidity side))
            else .ok (.ok fill.out)) := by
  by_cases hpos : amountIn.IsPositive
  · refine .inr ⟨hpos, ?_⟩
    have h0 : 0 ≤ amountIn.value := (isPositive_iff.mp hpos).le
    obtain hrefused | ⟨fill, hfill, hcontinues⟩ :=
      @fillOrders_continues side ⟨amountIn, .zero⟩ _ (h.orders_pos side) h0
    · left
      simp only [amountOut, hpos, not_true, if_false, ExceptT.run_bind, hrefused]
      rfl
    · exact .inr ⟨fill, hfill, hcontinues, amountOut_run hpos hfill⟩
  · refine .inl ⟨hpos, ?_⟩
    simp only [amountOut, hpos, not_false_eq_true, if_true]
    rfl

/-- A quote is given if the sweep leaves nothing. -/
theorem amountOut_eq_ok_iff (h : book.Sound) :
    (book.amountOut side amountIn).run = .ok (.ok out) ↔
      amountIn.IsPositive ∧ ∃ fill,
        (fillOrders side ⟨amountIn, .zero⟩ (book.sweepOrders side)).run = .ok (.ok fill) ∧
        fill.remaining.value ≤ 0 ∧ fill.out = out := by
  constructor
  · intro hout
    obtain ⟨-, hrun⟩ | ⟨hpos, hrun | ⟨fill, hfill, -, hrun⟩⟩ := amountOut_cases h side amountIn
    · cases hrun.symm.trans hout
    · cases hrun.symm.trans hout
    · rw [hrun] at hout
      split at hout
      · cases hout
      · rename_i hleft
        cases hout
        exact ⟨hpos, fill, hfill, not_lt.mp hleft, rfl⟩
  · rintro ⟨hpos, fill, hfill, hleft, rfl⟩
    rw [amountOut_run hpos hfill, if_neg (not_lt.mpr hleft)]

theorem amountOut_answers (h : book.Sound) (side : Side) (amountIn : Decimal) :
    ∃ result, (book.amountOut side amountIn).run = .ok result ∧
      ∀ e, result = .error e → RefusesQuote side amountIn e := by
  obtain ⟨hpos, hrun⟩ | ⟨-, hrun | ⟨fill, -, -, hrun⟩⟩ := amountOut_cases h side amountIn
  · refine ⟨_, hrun, ?_⟩
    rintro e ⟨⟩
    exact .invalidQuantity hpos
  · refine ⟨_, hrun, ?_⟩
    rintro e ⟨⟩
    exact .overflow
  · split at hrun
    · refine ⟨_, hrun, ?_⟩
      rintro e ⟨⟩
      exact .insufficientLiquidity
    · refine ⟨_, hrun, ?_⟩
      rintro e ⟨⟩

/-- An auction is recorded if and only if it is given a quote. -/
theorem beginAuction_answers (h : book.Sound) (id : String) (side : Side) (amountIn : Decimal) :
    ∃ result, (book.beginAuction id side amountIn).run = .ok result ∧
      (∀ e, result = .error e → (e = .duplicateAuction id ∨ RefusesQuote side amountIn e) ∧
        book.after (.beginAuction id side amountIn) = book) ∧
      ∀ out book', result = .ok (out, book') →
        book.after (.beginAuction id side amountIn) =
          { book with auctions := (id, ⟨side, amountIn, out⟩) :: book.auctions } := by
  obtain ⟨result, hrun, herror⟩ := amountOut_answers h side amountIn
  simp only [after, beginAuction_run, hrun]
  cases (book.auction? id).isSome with
  | true =>
    refine ⟨_, rfl, ?_, ?_⟩
    · rintro e ⟨⟩
      exact ⟨.inl rfl, rfl⟩
    · rintro out book' ⟨⟩
  | false =>
    cases result with
    | error e =>
      refine ⟨_, rfl, ?_, ?_⟩
      · rintro e ⟨⟩
        exact ⟨.inr (herror _ rfl), rfl⟩
      · rintro out book' ⟨⟩
    | ok out =>
      refine ⟨_, rfl, ?_, ?_⟩
      · rintro e ⟨⟩
      · rintro out book' ⟨⟩
        rfl

/-- The sweep for an amount comes to an order with this fill: the orders before it have been filled
and there is something left. -/
def ComesTo (book : Book) (side : Side) (amountIn price size : Decimal) (fill : Fill) : Prop :=
  ∃ before behind, book.sweepOrders side = before ++ (price, size) :: behind ∧
    (fillOrders side ⟨amountIn, .zero⟩ before).run = .ok (.ok fill) ∧ fill.remaining.IsPositive

theorem ComesTo.bounds (h : book.Sound) (hcomes : book.ComesTo side amountIn price size fill) :
    PositiveOrder (price, size) ∧ Continues ⟨amountIn, .zero⟩ fill := by
  obtain ⟨before, behind, horders, hfill, hleft⟩ := hcomes
  have hpos := h.orders_pos side
  rw [horders] at hpos
  obtain ⟨hbefore, hrest⟩ := List.forall_mem_append.mp hpos
  refine ⟨hrest _ List.mem_cons_self, ?_⟩
  rcases le_or_gt 0 amountIn.value with h0 | h0
  · obtain hrun | ⟨fill', hrun, hthen⟩ :=
      @fillOrders_continues side ⟨amountIn, .zero⟩ _ hbefore h0
    · cases hrun.symm.trans hfill
    · cases hrun.symm.trans hfill
      exact hthen
  · -- Of a negative amount nothing would be left to come here with.
    have hdone := @fillOrders_done side ⟨amountIn, .zero⟩ h0.le before
    rw [hdone] at hfill
    cases hfill
    exact absurd (isPositive_iff.mp hleft) (not_lt.mpr h0.le)

/-- However its decimals are rounded, a sweep stays between nothing and its amount: no order that it
comes to divides by zero or takes more than is left, which alone could end it. So a quote, and an
auction that is begun on it, is given or refused, and what is refused is not recorded. -/
theorem quote_safe (h : book.Reachable) (side : Side) (amountIn : Decimal) :
    (∀ price size fill, book.ComesTo side amountIn price size fill →
      price.isZero = false ∧ 0 ≤ fill.remaining.value ∧ fill.remaining.value ≤ amountIn.value ∧
      ((fillOrder side price size fill).run = .ok (.error .overflow) ∨
        ∃ fill', (fillOrder side price size fill).run = .ok (.ok fill') ∧
          Continues fill fill')) ∧
    (∃ result, (book.amountOut side amountIn).run = .ok result ∧
      ∀ e, result = .error e → RefusesQuote side amountIn e) ∧
    ∀ id, ∃ result, (book.beginAuction id side amountIn).run = .ok result ∧
      (∀ e, result = .error e → (e = .duplicateAuction id ∨ RefusesQuote side amountIn e) ∧
        book.after (.beginAuction id side amountIn) = book) ∧
      ∀ out book', result = .ok (out, book') →
        book.after (.beginAuction id side amountIn) =
          { book with auctions := (id, ⟨side, amountIn, out⟩) :: book.auctions } := by
  refine ⟨?_, amountOut_answers h.sound side amountIn,
    fun id => beginAuction_answers h.sound id side amountIn⟩
  intro price size fill hcomes
  obtain ⟨hpos, hsofar⟩ := hcomes.bounds h.sound
  have hprice : price.isZero = false :=
    Bool.eq_false_iff.mpr fun hzero => hpos.1.ne' (isZero_iff.mp hzero)
  exact ⟨hprice, hsofar.nonneg, hsofar.remaining_le, fillOrder_continues hpos hsofar.nonneg⟩

/-- The first ask is filled with 18 to spend, and there is an answer to the quote. -/
theorem quote_safe_twoAsks :
    twoAsks.ComesTo .buy (ofUInt32 18) (ofUInt32 2) (ofUInt32 4) ⟨ofUInt32 18, .zero⟩ ∧
      (∃ fill, (fillOrder .buy (ofUInt32 2) (ofUInt32 4) ⟨ofUInt32 18, .zero⟩).run =
        .ok (.ok fill) ∧ Continues ⟨ofUInt32 18, .zero⟩ fill) ∧
      ∃ result, (twoAsks.amountOut .buy (ofUInt32 18)).run = .ok result := by
  have hreachable : twoAsks.Reachable := .after (.after .empty _) _
  have hcomes : twoAsks.ComesTo .buy (ofUInt32 18) (ofUInt32 2) (ofUInt32 4)
      ⟨ofUInt32 18, .zero⟩ := ⟨[], _, twoAsks_orders, rfl, by decide⟩
  have hfits : (fillOrder .buy (ofUInt32 2) (ofUInt32 4) ⟨ofUInt32 18, .zero⟩).run.map
      (·.isOk) = .ok true := by decide +kernel
  obtain ⟨hsteps, ⟨result, hrun, -⟩, -⟩ := quote_safe hreachable .buy (ofUInt32 18)
  obtain ⟨-, -, -, hrefused | hfilled⟩ := hsteps _ _ _ hcomes
  · rw [hrefused] at hfits
    cases hfits
  · exact ⟨hcomes, hfilled, result, hrun⟩

/-! Two quotes -/

/-- Neither more is left nor more has been paid out in the first than in the second. -/
structure Within (low high : Fill) : Prop where
  remaining_nonneg : 0 ≤ low.remaining.value
  remaining_le : low.remaining.value ≤ high.remaining.value
  out_nonneg : 0 ≤ low.out.value
  out_le : low.out.value ≤ high.out.value

/-- A fill that has nothing left to spend stays within one that goes on. -/
theorem Within.of_spent (h : Within low high) (hspent : low.remaining.value ≤ 0)
    (hcontinues : Continues high high') : Within low high' :=
  ⟨h.remaining_nonneg, hspent.trans hcontinues.nonneg, h.out_nonneg,
    h.out_le.trans hcontinues.out_le⟩

/-- What is left of a larger remainder is larger. -/
theorem sub_min_mono {capacity p q : ℚ} (h : p ≤ q) : p - min capacity p ≤ q - min capacity q := by
  rcases le_total capacity p with hp | hp
  · rw [min_eq_left hp, min_eq_left (hp.trans h)]
    exact sub_le_sub_right h capacity
  · rw [min_eq_right hp, sub_self]
    exact sub_nonneg.mpr (min_le_right _ _)

/-- What an order makes of two fills, one within the other: all its roundings keep the order. -/
theorem fillOrder_within (hpos : PositiveOrder (price, size)) (h : Within low high)
    (hfill : (fillOrder side price size high).run = .ok (.ok high')) :
    ∃ low', (fillOrder side price size low).run = .ok (.ok low') ∧ Within low' high' := by
  obtain ⟨capacity, gain, hhigh⟩ := fills_of_run hpos.1.ne' hfill
  have hcapacity := nonneg_of_cost hpos hhigh.cost
  have hspent : 0 ≤ min capacity low.remaining.value := le_min hcapacity h.remaining_nonneg
  have hworth := @Side.worth_nonneg side _ _ hpos.1 hspent
  have hworth_le : side.worth price.value (min capacity low.remaining.value) ≤
      side.worth price.value (min capacity high.remaining.value) :=
    Side.worth_mono hpos.1 (min_le_min_left capacity h.remaining_le)
  have houtcome := @fillOrder_outcome side price size low hpos.1.ne'
  generalize (fillOrder side price size low).run = result at houtcome
  cases houtcome with
  | @filled low' capacity' gain' hlow =>
    obtain rfl := hlow.cost.unique hhigh.cost
    have hgain := hlow.worth.mono hhigh.worth hworth_le
    have hcontinues := hlow.continues hpos h.remaining_nonneg
    exact ⟨low', rfl, hcontinues.nonneg, hlow.left.mono hhigh.left (sub_min_mono h.remaining_le),
      h.out_nonneg.trans hcontinues.out_le, hlow.out.mono hhigh.out (add_le_add h.out_le hgain)⟩
  | refused hover =>
    cases hover with
    | cost hbeyond => exact absurd hbeyond hhigh.cost.not_beyond
    | worth hcost hbeyond =>
      obtain rfl := hcost.unique hhigh.cost
      exact absurd (hbeyond.mono hworth hworth_le) hhigh.worth.not_beyond
    | out hcost hgain hbeyond =>
      obtain rfl := hcost.unique hhigh.cost
      have hle := hgain.mono hhigh.worth hworth_le
      have h0 := hgain.roundsTo.nonneg hworth
      exact absurd (hbeyond.mono (add_nonneg h.out_nonneg h0) (add_le_add h.out_le hle))
        hhigh.out.not_beyond
  | ended hcost hbeyond =>
    exact absurd hbeyond (not_beyond_left h.remaining_nonneg (nonneg_of_cost hpos hcost))

theorem fillOrders_within (hpos : ∀ order ∈ orders, PositiveOrder order) (h : Within low high)
    (hfill : (fillOrders side high orders).run = .ok (.ok high')) :
    ∃ low', (fillOrders side low orders).run = .ok (.ok low') ∧ Within low' high' := by
  induction orders generalizing low high with
  | nil =>
    cases hfill
    exact ⟨low, rfl, h⟩
  | cons order orders ih =>
    have h0 := h.remaining_nonneg.trans h.remaining_le
    rcases h.remaining_nonneg.eq_or_lt with hzero | hlt
    · rw [fillOrders_done hzero.ge]
      obtain hrun | ⟨fill, hrun, hcontinues⟩ := fillOrders_continues hpos h0
      · cases hrun.symm.trans hfill
      · cases hrun.symm.trans hfill
        exact ⟨low, rfl, h.of_spent hzero.ge hcontinues⟩
    · obtain ⟨price, size⟩ := order
      obtain ⟨hpos, hrest⟩ := List.forall_mem_cons.mp hpos
      rw [fillOrders_cons (hlt.trans_le h.remaining_le)] at hfill
      obtain ⟨high'', hfirst, hthen⟩ := run_bind_eq_ok hfill
      obtain ⟨low'', hlow, hwithin⟩ := fillOrder_within hpos h hfirst
      obtain ⟨low', hlow', hwithin'⟩ := ih hrest hwithin hthen
      refine ⟨low', ?_, hwithin'⟩
      rw [fillOrders_cons hlt, ExceptT.run_bind, hlow]
      exact hlow'

/-- If a quote is given for an amount then it is given for every smaller one that is positive, and
no more is paid out for that. -/
theorem amountOut_mono (h : book.Reachable) (hab : a.value ≤ b.value)
    (hb : (book.amountOut side b).run = .ok (.ok y)) :
    (∀ x, (book.amountOut side a).run = .ok (.ok x) → x.value ≤ y.value) ∧
      (a.IsPositive → ∃ x, (book.amountOut side a).run = .ok (.ok x)) := by
  obtain ⟨hbpos, high, hhigh, hleft, rfl⟩ := (amountOut_eq_ok_iff h.sound).mp hb
  have hquote (ha : a.IsPositive) : ∃ x, (book.amountOut side a).run = .ok (.ok x) ∧
      x.value ≤ high.out.value := by
    have hstart : Within ⟨a, .zero⟩ ⟨b, .zero⟩ :=
      ⟨(isPositive_iff.mp ha).le, hab, value_zero.ge, le_rfl⟩
    obtain ⟨low, hlow, hwithin⟩ := fillOrders_within (h.sound.orders_pos side) hstart hhigh
    refine ⟨low.out, (amountOut_eq_ok_iff h.sound).mpr ⟨ha, low, hlow, ?_, rfl⟩, hwithin.out_le⟩
    exact hwithin.remaining_le.trans hleft
  refine ⟨?_, fun ha => (hquote ha).imp fun _ => And.left⟩
  intro x hx
  obtain ⟨x', hx', hle⟩ := hquote ((amountOut_eq_ok_iff h.sound).mp hx).1
  cases hx.symm.trans hx'
  exact hle

/-- A part of the second ask pays no more than the whole of it. -/
theorem amountOut_mono_twoAsks :
    ∃ x, (twoAsks.amountOut .buy (ofUInt32 18)).run = .ok (.ok x) ∧
      (twoAsks.amountOut .buy (ofUInt32 28)).run = .ok (.ok (ofUInt32 9)) ∧
      x.value ≤ (ofUInt32 9).value := by
  have hreachable : twoAsks.Reachable := .after (.after .empty _) _
  have hle : (ofUInt32 18).value ≤ (ofUInt32 28).value := le_iff.mp (by decide)
  have hquote : (twoAsks.amountOut .buy (ofUInt32 28)).run = .ok (.ok (ofUInt32 9)) := by
    decide +kernel
  obtain ⟨hmono, hgiven⟩ := amountOut_mono hreachable hle hquote
  obtain ⟨x, hx⟩ := hgiven (by decide)
  exact ⟨x, hx, hquote, hmono x hx⟩

end SweepAudit.Book
