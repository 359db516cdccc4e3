import SweepAudit.Proofs.Audit.Verdict
import SweepAudit.Proofs.Client.Bodies
import SweepAudit.Proofs.Exchange.Auctions
import SweepAudit.Proofs.Liquidity

/-!
Scenarios on a hosted exchange whose book comes to exact numbers. What is predicted from the
depth is what the sweep of the book pays, so a scenario passes if there is anything to
sweep; one with too much funding passes if the levels that the depth has left out are too
small to take up the unit on top.
-/

namespace SweepAudit

open Book Decimal Http

/-- A book whose prices and sizes have so few places, and whose totals are so small, that a decimal
holds all that a sweep of either side comes to. -/
structure Book.Fits (a b : Nat) (book : Book) : Prop where
  places : a + b ≤ 28
  prices : ∀ side, ∀ order ∈ book.sweepOrders side, order.1.scale ≤ a
  sizes : ∀ side, ∀ order ∈ book.sweepOrders side, order.2.scale ≤ b
  quote : ∀ side, (((book.sweepOrders side).map fun order =>
    order.1.value * order.2.value).sum + 1) * 10 ^ (a + b) < 2 ^ 96
  base : ∀ side, (((book.sweepOrders side).map fun order => order.2.value).sum + 1) *
    10 ^ (a + b) < 2 ^ 96

theorem Book.Fits.exact {a b : Nat} {book : Book} (h : book.Fits a b) (hsound : book.Sound) :
    book.Exact (a + b) := by
  have placed (side : Side) : Placed (a + b) (book.sweepOrders side) := by
    refine ⟨hsound.orders_pos side, fun order ho => ?_, fun order ho => ?_⟩
    · exact (onGrid_value (h.prices side order ho)).mul (onGrid_value (h.sizes side order ho))
    · exact (onGrid_value (h.sizes side order ho)).mono (Nat.le_add_left b a)
  -- What is paid on one side of a trade is what is taken on the other.
  have held (asset side : Side) :
      Held (a + b) (Book.costs asset (book.sweepOrders side) + 1) := by
    refine ⟨((placed side).onGrid_costs asset).add (onGrid_one _),
      add_nonneg ((placed side).costs_nonneg asset) zero_le_one, ?_⟩
    cases asset
    · exact h.quote side
    · exact h.base side
  refine ⟨hsound, placed, fun side => held side side, fun side => ?_⟩
  cases side
  · exact held .sell .buy
  · exact held .buy .sell

namespace Scenario

variable {client : Client} {presented : Presented} {symbol : String} {stamps : Stamps}
  {hosted : Hosted} {n : Nat} {id : Uuid} {side : Side}

theorem best_ne_nil {book : Book} {limit : Nat} (h : book.Sound) (hlimit : 1 ≤ limit)
    (hne : book.swept side ≠ []) : book.best side limit ≠ [] := by
  obtain ⟨level, levels, hswept⟩ := List.exists_cons_of_ne_nil hne
  obtain ⟨k, rfl⟩ : ∃ k, limit = k + 1 := ⟨limit - 1, by omega⟩
  have hlevel := h.swept_sound side level (by rw [hswept]; exact List.mem_cons_self)
  obtain ⟨order, queue, hqueue⟩ := List.exists_cons_of_ne_nil hlevel.queue_ne_nil
  rw [best, hswept, List.take_succ_cons, resting_cons, hqueue]
  exact List.cons_ne_nil _ _

/-- An auction that the book of the symbol answers with an amount is filled. -/
theorem begin_filled (stamps : Stamps) (h : client.Reaches presented symbol)
    (hfresh : (hosted.exchange.book symbol).auction? id.text = none) {fund amount out : Decimal}
    (hamount : parse fund.canonical = .ok amount)
    (hout : ((hosted.exchange.book symbol).amountOut side amount).run = .ok (.ok out)) :
    ∃ begun, ((client.venue (Hosted.network stamps)).beginAuction
      (.ofAmount id symbol side fund)).run hosted =
        (.ok ⟨some id.text, out.canonical⟩, begun) :=
  ⟨_, Client.beginAuction_filled h.admitted
    (@Client.auctionText_fits (.ofAmount id symbol side fund) _ h.utf8ByteSize_le rfl) hamount
    (beginAuction_ok hfresh hout)⟩

/-- A scenario with the funding that the depth predicts passes if there is anything to sweep. -/
theorem run_funded (h : client.Reaches presented symbol) (hn : n ≤ 28)
    (hexact : (hosted.exchange.book symbol).Exact n)
    (hfresh : (hosted.exchange.book symbol).auction? id.text = none)
    (hne : (hosted.exchange.book symbol).swept side ≠ []) :
    ∃ (fund expected out : Decimal) (hosted' : Hosted),
      (Scenario.run (client.venue (Hosted.network stamps)) symbol ⟨side, false⟩ id).run.run hosted =
        (.ok ⟨⟨side, false⟩, .passed, some expected, some fund, some out.canonical, none⟩,
          hosted') ∧
      fund.value = costs side
        ((hosted.exchange.book symbol).best side client.depthLimit.toNat) ∧
      expected.value = yields side
        ((hosted.exchange.book symbol).best side client.depthLimit.toNat) ∧
      out.value = yields side
        ((hosted.exchange.book symbol).best side client.depthLimit.toNat) := by
  obtain ⟨snapshot, hdepth, hsides⟩ := depth_exact hn hexact client.depthLimit.toNat
  obtain ⟨shown, hanswer, hbooks⟩ := Client.depth_run stamps h hdepth
  obtain ⟨liquidity, hl, hfund, hproceeds⟩ := hsides side
  have hbest := (hexact.placed_best side client.depthLimit.toNat).1
  have hbestne := best_ne_nil hexact.sound h.limit.1 hne
  have hpos := hbest.costs_pos side hbestne
  have hsubmits : Submits ⟨side, false⟩ (.ok snapshot) liquidity (liquidity.funding side) :=
    ⟨⟨snapshot, rfl, hl⟩, .inr (by rw [hfund]; exact hpos.ne'), rfl⟩
  obtain ⟨amount, hamount, hvalue⟩ := (liquidity.funding side).parse_canonical
  obtain ⟨out, hout, houtv⟩ := amountOut_whole hn
    ((hosted.exchange.book symbol).sweepOrders_eq side client.depthLimit.toNat) hbest hbestne
    ((hexact.costs_best side _).of_le (hbest.onGrid_costs side) hpos.le (by linarith))
    (hexact.yields_best side _) (hvalue.trans hfund)
  rw [← hbooks] at hfresh hout
  obtain ⟨begun, hbegin⟩ := begin_filled stamps h hfresh hamount hout
  obtain ⟨actual, hparse, hactual⟩ := out.parse_canonical
  have hsame : actual.Same (liquidity.proceeds side) :=
    same_iff.mpr (by rw [hactual, houtv, hproceeds])
  have hrun := @run_of_submits _ _ symbol ⟨side, false⟩ id hosted _ _
    (by rw [hanswer]; exact hsubmits)
  rw [hanswer] at hrun
  dsimp only at hrun
  rw [hbegin] at hrun
  simp only [judge, judgeAmount, trim_canonical, hparse, if_pos hsame] at hrun
  exact ⟨_, _, out, _, hrun, hfund, hproceeds, houtv⟩

/-- A scenario with exact funding fails if there is nothing to sweep. -/
theorem run_empty (h : client.Reaches presented symbol) (hn : n ≤ 28)
    (hexact : (hosted.exchange.book symbol).Exact n)
    (hempty : (hosted.exchange.book symbol).swept side = []) :
    ∃ report hosted',
      (Scenario.run (client.venue (Hosted.network stamps)) symbol ⟨side, false⟩ id).run.run hosted =
        (.ok report, hosted') ∧ report.passed = false := by
  obtain ⟨snapshot, hdepth, hsides⟩ := depth_exact hn hexact client.depthLimit.toNat
  obtain ⟨shown, hanswer, -⟩ := Client.depth_run stamps h hdepth
  obtain ⟨liquidity, hl, hfund, -⟩ := hsides side
  have hzero : (liquidity.funding side).value = 0 := by
    rw [hfund, best, hempty, List.take_nil]
    rfl
  exact ⟨_, _, @run_of_unfunded _ _ symbol ⟨side, false⟩ id hosted _ _ (by rw [hanswer]) hl hzero
    rfl, rfl⟩

/-- A scenario with one unit too much passes exactly if the levels that the depth has left out
cannot take up that unit. -/
theorem run_overfunded (h : client.Reaches presented symbol) (hn : n ≤ 28)
    (hexact : (hosted.exchange.book symbol).Exact n)
    (hfresh : (hosted.exchange.book symbol).auction? id.text = none) :
    if costs side ((hosted.exchange.book symbol).behind side client.depthLimit.toNat) < 1 then
      ∃ (fund expected : Decimal) (hosted' : Hosted),
        (Scenario.run (client.venue (Hosted.network stamps)) symbol ⟨side, true⟩ id).run.run
          hosted = (.ok ⟨⟨side, true⟩, .passed, some expected, some fund, none, none⟩, hosted') ∧
        fund.value = costs side
          ((hosted.exchange.book symbol).best side client.depthLimit.toNat) + 1 ∧
        expected.value = yields side
          ((hosted.exchange.book symbol).best side client.depthLimit.toNat)
    else ∃ report hosted',
      (Scenario.run (client.venue (Hosted.network stamps)) symbol ⟨side, true⟩ id).run.run hosted =
        (.ok report, hosted') ∧ report.passed = false := by
  obtain ⟨snapshot, hdepth, hsides⟩ := depth_exact hn hexact client.depthLimit.toNat
  obtain ⟨shown, hanswer, hbooks⟩ := Client.depth_run stamps h hdepth
  obtain ⟨liquidity, hl, hfund, hproceeds⟩ := hsides side
  obtain ⟨hbest, hbehind⟩ := hexact.placed_best side client.depthLimit.toNat
  have hmore := hexact.costs_best side client.depthLimit.toNat
  obtain ⟨fund, hadd, hfundv⟩ := (add?_rounded (liquidity.funding side) .one).exact
    (by rw [hfund, value_one]; exact hmore.representable hn)
  rw [hfund, value_one] at hfundv
  have hsubmits : Submits ⟨side, true⟩ (.ok snapshot) liquidity fund :=
    ⟨⟨snapshot, rfl, hl⟩, .inl rfl, by rw [if_pos rfl, add, hadd]; rfl⟩
  obtain ⟨amount, hamount, hvalue⟩ := fund.parse_canonical
  have hsplit := (hosted.exchange.book symbol).sweepOrders_eq side client.depthLimit.toNat
  have hcosts := hexact.costs side
  have hyields := hexact.yields side
  rw [hsplit, costs_append] at hcosts
  rw [hsplit, yields_append] at hyields
  have h1 := hbest.costs_nonneg side
  have h2 := hbest.yields_nonneg side
  have h3 := hbehind.costs_nonneg side
  have h4 := hbehind.yields_nonneg side
  have hout := amountOut_beyond hn hsplit hbest hbehind one_pos hmore
    (hcosts.of_le (hbehind.onGrid_costs side) h3 (by linarith))
    (hyields.of_le ((hbest.onGrid_yields side).add (hbehind.onGrid_yields side)) (by linarith)
      (by linarith)) (hvalue.trans hfundv)
  have hrun := @run_of_submits _ _ symbol ⟨side, true⟩ id hosted _ _
    (by rw [hanswer]; exact hsubmits)
  rw [hanswer] at hrun
  dsimp only at hrun
  split
  · rename_i hlt
    rw [if_pos hlt] at hout
    rw [← hbooks] at hfresh hout
    obtain ⟨reason, refused, hbegin, -⟩ := @Client.beginAuction_refused client presented shown
      stamps h.admitted (.ofAmount id symbol side fund)
      (Client.auctionText_fits h.utf8ByteSize_le rfl) _ _ hamount (beginAuction_refused hfresh hout)
    rw [hbegin] at hrun
    exact ⟨fund, liquidity.proceeds side, refused, hrun, hfundv, hproceeds⟩
  · rename_i hge
    rw [if_neg hge] at hout
    obtain ⟨out, hout⟩ := hout
    rw [← hbooks] at hfresh hout
    obtain ⟨begun, hbegin⟩ := begin_filled stamps h hfresh hamount hout
    rw [hbegin] at hrun
    exact ⟨_, _, hrun, rfl⟩

/-- The prediction and the sweep agree on every book whose numbers are held exactly: a scenario
with exact funding passes if and only if there is anything to sweep, however much the depth
leaves out; and one with a unit too much passes if and only if the levels that it leaves out
cannot take up that unit. -/
theorem run_passes_iff (h : client.Reaches presented symbol) {a b : Nat}
    (hbook : (hosted.exchange.book symbol).Reachable)
    (hfits : (hosted.exchange.book symbol).Fits a b)
    (hfresh : (hosted.exchange.book symbol).auction? id.text = none) (side : Side) :
    (∃ report hosted',
      (Scenario.run (client.venue (Hosted.network stamps)) symbol ⟨side, false⟩ id).run.run hosted =
        (.ok report, hosted') ∧
      (report.passed = true ↔ (hosted.exchange.book symbol).swept side ≠ [])) ∧
    ∃ report hosted',
      (Scenario.run (client.venue (Hosted.network stamps)) symbol ⟨side, true⟩ id).run.run hosted =
        (.ok report, hosted') ∧
      (report.passed = true ↔
        costs side ((hosted.exchange.book symbol).behind side client.depthLimit.toNat) < 1) := by
  have hexact := hfits.exact hbook.sound
  constructor
  · by_cases hempty : (hosted.exchange.book symbol).swept side = []
    · obtain ⟨report, hosted', hrun, hpassed⟩ := @run_empty client presented symbol stamps hosted _
        id side h hfits.places hexact hempty
      exact ⟨report, hosted', hrun, by simp [hpassed, hempty]⟩
    · obtain ⟨fund, expected, out, hosted', hrun, -⟩ :=
        run_funded h hfits.places hexact hfresh hempty
      exact ⟨_, hosted', hrun, by simp [Report.passed, hempty]⟩
  · have hrun := @run_overfunded client presented symbol stamps hosted _ id side h hfits.places
      hexact hfresh
    split at hrun
    · rename_i hlt
      obtain ⟨fund, expected, hosted', hrun, -⟩ := hrun
      exact ⟨_, hosted', hrun, by simp [Report.passed, hlt]⟩
    · rename_i hge
      obtain ⟨report, hosted', hrun, hpassed⟩ := hrun
      exact ⟨report, hosted', hrun, by simp [hpassed, hge]⟩

/-- A book with one ask of three at two. -/
def oneAsk : Book := Book.empty.after (.place ⟨0⟩ .sell (.ofUInt32 2) (.ofUInt32 3) "1")

/-- A client of the hosted exchange with a key that is accepted there. -/
def auditor : Client := ⟨Hosted.base .first, ⟨.apiKey, "Bearer k"⟩, 20⟩

/-- An exchange with that book, which has been asked for once. -/
def offering : Hosted := ⟨Exchange.empty.setBook "A" oneAsk, 1⟩

theorem run_passes_iff_oneAsk :
    (∃ report hosted', (Scenario.run (auditor.venue (Hosted.network .counted)) "A"
        ⟨.buy, false⟩ ⟨1⟩).run.run offering = (.ok report, hosted') ∧
      (report.passed = true ↔ oneAsk.swept .buy ≠ [])) ∧
    ∃ report hosted', (Scenario.run (auditor.venue (Hosted.network .counted)) "A"
        ⟨.buy, true⟩ ⟨1⟩).run.run offering = (.ok report, hosted') ∧
      (report.passed = true ↔ costs .buy (oneAsk.behind .buy 20) < 1) := by
  have hadmitted : auditor.Admitted ⟨.apiKey, "k"⟩ := ⟨⟨.first, rfl⟩, by decide⟩
  have hreaches : auditor.Reaches ⟨.apiKey, "k"⟩ "A" :=
    Client.reaches_of_quiet hadmitted (by decide) (by decide)
      (Client.sendable_of_base hadmitted.isLocal (by decide))
  have hasks : oneAsk.sweepOrders .buy = [(.ofUInt32 2, .ofUInt32 3)] := by decide
  have hbids : oneAsk.sweepOrders .sell = [] := by decide
  have hprice : (ofUInt32 2).value = 2 := value_ofUInt32 2
  have hsize : (ofUInt32 3).value = 3 := value_ofUInt32 3
  have hfits : oneAsk.Fits 0 0 := by
    refine ⟨by decide, fun side => ?_, fun side => ?_, fun side => ?_, fun side => ?_⟩
    · cases side <;> simp [hasks, hbids, ofUInt32]
    · cases side <;> simp [hasks, hbids, ofUInt32]
    · cases side <;> norm_num [hasks, hbids, hprice, hsize]
    · cases side <;> norm_num [hasks, hbids, hsize]
  have hreachable : oneAsk.Reachable := .after .empty _
  exact @run_passes_iff auditor _ "A" .counted offering ⟨1⟩ hreaches 0 0 hreachable hfits rfl .buy

end Scenario

end SweepAudit
