import SweepAudit.Proofs.Book.Depth
import Mathlib.Algebra.BigOperators.Ring.List

/-!
The totals that are worked out from the depth of a book. As long as nothing has to be rounded
the levels are reported with all that rests in them, and their totals are those of the
resting orders, whichever way the orders are spread over the levels.
-/

namespace SweepAudit

open Decimal

namespace Book

/-- The orders in levels with their prices, in the order in which a sweep meets them. -/
def resting (levels : List PriceLevel) : List (Decimal × Decimal) :=
  levels.flatMap fun level => level.queue.map fun order => (level.price, order.size)

/-- The orders in the best levels that an auction on a side sweeps. -/
def best (book : Book) (side : Side) (limit : Nat) : List (Decimal × Decimal) :=
  resting ((book.swept side).take limit)

/-- The orders in the levels beyond the best. -/
def behind (book : Book) (side : Side) (limit : Nat) : List (Decimal × Decimal) :=
  resting ((book.swept side).drop limit)

theorem sweepOrders_eq (book : Book) (side : Side) (limit : Nat) :
    book.sweepOrders side = book.best side limit ++ book.behind side limit := by
  rw [best, behind, resting, resting, ← List.flatMap_append, List.take_append_drop]
  rfl

theorem resting_cons (level : PriceLevel) (levels : List PriceLevel) :
    resting (level :: levels) =
      level.queue.map (fun order => (level.price, order.size)) ++ resting levels := rfl

end Book

open Book

variable {n : Nat} {level : PriceLevel} {levels : List PriceLevel}

namespace PriceLevel

/-- The orders of one level. -/
def orders (level : PriceLevel) : List (Decimal × Decimal) :=
  level.queue.map fun order => (level.price, order.size)

theorem costs_sell (level : PriceLevel) : costs .sell level.orders = level.size := by
  simp [costs, orders, size, Side.cost, Function.comp_def]

theorem costs_buy (level : PriceLevel) :
    costs .buy level.orders = level.price.value * level.size := by
  simp only [costs, orders, size, Side.cost, List.map_map, Function.comp_def]
  exact List.sum_map_mul_left ..

/-- A level is reported with its price and with all that rests in it. -/
def ReportedAs (level : PriceLevel) (report : Level) : Prop :=
  report.price = level.price.canonical ∧
    ∃ total : Decimal, report.size = total.canonical ∧ total.value = level.size

theorem report_exact (hn : n ≤ 28) (h : Placed n level.orders) (hsize : Held n level.size) :
    ∃ report, level.report = .ok report ∧ level.ReportedAs report := by
  have hsizes : ∀ x ∈ level.queue.map (·.size), OnGrid n x.value ∧ 0 ≤ x.value := by
    intro x hx
    obtain ⟨order, ho, rfl⟩ := List.mem_map.mp hx
    have hmem : (level.price, order.size) ∈ level.orders := List.mem_map.mpr ⟨order, ho, rfl⟩
    exact ⟨h.base _ hmem, (h.pos _ hmem).2.le⟩
  have hvalues : ((level.queue.map Resting.size).map value).sum = level.size := by
    simp [size, Function.comp_def]
  have held : SumHeld (level.queue.map Resting.size) :=
    ⟨n, hn, fun x hx => (hsizes x hx).1, hvalues ▸ hsize⟩
  obtain ⟨total, hsum, hvalue⟩ := held.exact fun x hx => (hsizes x hx).2
  rw [hvalues] at hvalue
  refine ⟨⟨level.price.canonical, total.canonical⟩, ?_, rfl, total, rfl, hvalue⟩
  change (do
    let total ← Decimal.sum (level.queue.map Resting.size)
    return Level.mk level.price.canonical total.canonical) = _
  rw [hsum]
  rfl

end PriceLevel

theorem reports_exact (hn : n ≤ 28) (h : Placed n (resting levels))
    (hsize : Held n (costs .sell (resting levels))) :
    ∃ reports, levels.mapM PriceLevel.report = .ok reports ∧
      List.Forall₂ PriceLevel.ReportedAs levels reports := by
  induction levels with
  | nil => exact ⟨[], rfl, .nil⟩
  | cons level levels ih =>
    rw [resting_cons] at h hsize
    change Placed n (level.orders ++ _) at h
    change Held n (costs .sell (level.orders ++ _)) at hsize
    obtain ⟨hlevel, hlevels⟩ := Placed.append_iff.mp h
    rw [costs_append] at hsize
    have h1 := hlevel.costs_nonneg .sell
    have h2 := hlevels.costs_nonneg .sell
    obtain ⟨report, hreport, has⟩ := PriceLevel.report_exact hn hlevel
      (level.costs_sell ▸ hsize.of_le (hlevel.onGrid_costs .sell) h1 (by linarith))
    obtain ⟨reports, hreports, hall⟩ := ih hlevels
      (hsize.of_le (hlevels.onGrid_costs .sell) h2 (by linarith))
    refine ⟨report :: reports, ?_, .cons has hall⟩
    rw [List.mapM_cons, hreport, hreports]
    rfl

namespace Liquidity

/-- One level adds what its orders are worth. -/
theorem addLevel_exact (hn : n ≤ 28) {report : Level} {total : Liquidity} (index : Nat)
    (hreport : level.ReportedAs report) (hsound : level.Sound) (h : Placed n level.orders)
    (h0 : 0 ≤ total.quote.value)
    (hquote : Held n (total.quote.value + costs .buy level.orders))
    (hbase : Held n (total.base.value + costs .sell level.orders)) :
    ∃ total', addLevel index total report = .ok total' ∧
      total'.quote.value = total.quote.value + costs .buy level.orders ∧
      total'.base.value = total.base.value + costs .sell level.orders := by
  obtain ⟨hprice, size, hsize, hvalue⟩ := hreport
  rw [level.costs_buy] at hquote ⊢
  rw [level.costs_sell] at hbase ⊢
  have hsizepos := PriceLevel.size_pos hsound
  have hpricepos := isPositive_iff.mp hsound.price_pos
  obtain ⟨p, hp, hpv⟩ := readNumber_of_reads (reads_canonical level.price)
  obtain ⟨s, hs, hsv⟩ := readNumber_of_reads (reads_canonical size)
  have hproduct : 0 < level.price.value * level.size := mul_pos hpricepos hsizepos
  have hgrid : OnGrid n (level.price.value * level.size) := by
    rw [← level.costs_buy]
    exact h.onGrid_costs .buy
  obtain ⟨notional, hmul, hnotional⟩ := (mul?_rounded p s).exact (by
    rw [hpv, hsv, hvalue]
    exact (hquote.of_le hgrid hproduct.le (by linarith)).representable hn)
  rw [hpv, hsv, hvalue] at hnotional
  obtain ⟨quote, haddq, hquotev⟩ := (add?_rounded total.quote notional).exact (by
    rw [hnotional]
    exact hquote.representable hn)
  obtain ⟨base, haddb, hbasev⟩ := (add?_rounded total.base s).exact (by
    rw [hsv, hvalue]
    exact hbase.representable hn)
  refine ⟨⟨quote, base⟩, ?_, by rw [hquotev, hnotional], by rw [hbasev, hsv, hvalue]⟩
  have hoffers : report.Offers (p, s) :=
    ⟨hprice ▸ hp, hsize ▸ hs, hpv.symm ▸ hpricepos, (hsv.trans hvalue).symm ▸ hsizepos⟩
  exact addLevel_of_room hoffers hmul haddq haddb

theorem addLevels_exact (hn : n ≤ 28) {reports : List Level} {total : Liquidity} (index : Nat)
    (hreports : List.Forall₂ PriceLevel.ReportedAs levels reports)
    (hsound : ∀ level ∈ levels, level.Sound) (h : Placed n (resting levels))
    (hq : OnGrid n total.quote.value ∧ 0 ≤ total.quote.value)
    (hb : OnGrid n total.base.value ∧ 0 ≤ total.base.value)
    (hquote : Held n (total.quote.value + costs .buy (resting levels)))
    (hbase : Held n (total.base.value + costs .sell (resting levels))) :
    ∃ total', addLevels index total reports = .ok total' ∧
      total'.quote.value = total.quote.value + costs .buy (resting levels) ∧
      total'.base.value = total.base.value + costs .sell (resting levels) := by
  induction hreports generalizing index total with
  | nil => exact ⟨total, rfl, by simp [resting], by simp [resting]⟩
  | @cons level report levels reports hreport hreports ih =>
    obtain ⟨hlevel, hlevels⟩ := List.forall_mem_cons.mp hsound
    have hresting : resting (level :: levels) = level.orders ++ resting levels := rfl
    rw [hresting] at h hquote hbase ⊢
    obtain ⟨hone, hrest⟩ := Placed.append_iff.mp h
    simp only [costs_append, ← add_assoc] at hquote hbase ⊢
    have h1 := hrest.costs_nonneg .buy
    have h2 := hrest.costs_nonneg .sell
    have h3 := hone.costs_nonneg .buy
    have h4 := hone.costs_nonneg .sell
    have hquote' := hquote.of_le (hq.1.add (hone.onGrid_costs .buy)) (by linarith) (by linarith)
    have hbase' := hbase.of_le (hb.1.add (hone.onGrid_costs .sell)) (by linarith) (by linarith)
    obtain ⟨next, hadd, hnq, hnb⟩ :=
      addLevel_exact hn index hreport hlevel hone hq.2 hquote' hbase'
    obtain ⟨total', hadds, htq, htb⟩ := @ih next (index + 1) hlevels hrest
      (hnq ▸ ⟨hquote'.grid, hquote'.nonneg⟩) (hnb ▸ ⟨hbase'.grid, hbase'.nonneg⟩)
      (hnq ▸ hquote) (hnb ▸ hbase)
    refine ⟨total', ?_, by rw [htq, hnq], by rw [htb, hnb]⟩
    rw [addLevels, hadd]
    exact hadds

end Liquidity

namespace Book

/-- A book whose sweeps come to numbers with at most so many places that a decimal holds, even
with one more unit of either asset. -/
structure Exact (n : Nat) (book : Book) : Prop where
  sound : book.Sound
  placed : ∀ side, Placed n (book.sweepOrders side)
  costs : ∀ side, Held n (costs side (book.sweepOrders side) + 1)
  yields : ∀ side, Held n (yields side (book.sweepOrders side) + 1)

namespace Exact

variable {book : Book} {side : Side}

theorem placed_best (h : book.Exact n) (side : Side) (limit : Nat) :
    Placed n (book.best side limit) ∧ Placed n (book.behind side limit) :=
  Placed.append_iff.mp (book.sweepOrders_eq side limit ▸ h.placed side)

theorem costs_best (h : book.Exact n) (side : Side) (limit : Nat) :
    Held n (Book.costs side (book.best side limit) + 1) := by
  obtain ⟨hbest, hbehind⟩ := h.placed_best side limit
  have hall := h.costs side
  rw [book.sweepOrders_eq side limit, costs_append] at hall
  have h1 := hbest.costs_nonneg side
  have h2 := hbehind.costs_nonneg side
  exact hall.of_le ((hbest.onGrid_costs side).add (onGrid_one n)) (by linarith) (by linarith)

theorem yields_best (h : book.Exact n) (side : Side) (limit : Nat) :
    Held n (Book.yields side (book.best side limit)) := by
  obtain ⟨hbest, hbehind⟩ := h.placed_best side limit
  have hall := h.yields side
  rw [book.sweepOrders_eq side limit, yields_append] at hall
  have h1 := hbest.yields_nonneg side
  have h2 := hbehind.yields_nonneg side
  exact hall.of_le (hbest.onGrid_yields side) h1 (by linarith)

/-- The best orders of a side by what they are worth in either asset. -/
theorem held_best (h : book.Exact n) (side : Side) (limit : Nat) (asset : Side) :
    Held n (Book.costs asset (book.best side limit)) := by
  have hbest := (h.placed_best side limit).1
  have hcosts := (h.costs_best side limit).of_le (hbest.onGrid_costs side)
    (hbest.costs_nonneg side) (by linarith)
  have hyields := h.yields_best side limit
  cases side <;> cases asset
  · exact hcosts
  · exact hyields
  · exact hyields
  · exact hcosts

end Exact

/-- The depth of an exact book can be read, and its totals are what the best orders are worth. -/
theorem depth_exact {book : Book} (hn : n ≤ 28) (h : book.Exact n) (limit : Nat) :
    ∃ snapshot, book.depth limit = .ok snapshot ∧ ∀ side, ∃ liquidity,
      Liquidity.ofLevels (snapshot.liquidityFor side) = .ok liquidity ∧
      (liquidity.funding side).value = costs side (book.best side limit) ∧
      (liquidity.proceeds side).value = yields side (book.best side limit) := by
  have hreports (side : Side) : ∃ reports, ((book.swept side).take limit).mapM PriceLevel.report =
      .ok reports ∧ List.Forall₂ PriceLevel.ReportedAs ((book.swept side).take limit) reports :=
    reports_exact hn (h.placed_best side limit).1 (h.held_best side limit .sell)
  obtain ⟨asks, hasks, hasks'⟩ := hreports .buy
  obtain ⟨bids, hbids, hbids'⟩ := hreports .sell
  refine ⟨⟨asks, bids⟩, ?_, ?_⟩
  · rw [depth_eq_ok_iff]
    intro side
    cases side
    · exact hasks
    · exact hbids
  · intro side
    have hreported : List.Forall₂ PriceLevel.ReportedAs ((book.swept side).take limit)
        ((Snapshot.mk asks bids).liquidityFor side) := by
      cases side
      · exact hasks'
      · exact hbids'
    have hzero : OnGrid n Decimal.zero.value ∧ 0 ≤ Decimal.zero.value := by
      rw [value_zero]
      exact ⟨onGrid_zero n, le_rfl⟩
    obtain ⟨total, hadds, hquote, hbase⟩ := @Liquidity.addLevels_exact n _ hn _ Liquidity.none 0
      hreported (fun level hl => h.sound.swept_sound side level (List.mem_of_mem_take hl))
      (h.placed_best side limit).1 hzero hzero
      (by
        change Held n (Decimal.zero.value + _)
        rw [value_zero, zero_add]
        exact h.held_best side limit .buy)
      (by
        change Held n (Decimal.zero.value + _)
        rw [value_zero, zero_add]
        exact h.held_best side limit .sell)
    change total.quote.value = Decimal.zero.value + _ at hquote
    change total.base.value = Decimal.zero.value + _ at hbase
    rw [value_zero, zero_add] at hquote hbase
    refine ⟨total, hadds, ?_, ?_⟩
    · cases side
      · exact hquote
      · exact hbase
    · cases side
      · exact hbase
      · exact hquote

end Book

end SweepAudit
