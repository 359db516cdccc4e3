import SweepAudit.Proofs.Book.Sweep

/-!
An exact sweep is the best fill there is. Among all ways of taking parts of the resting
orders that cost exactly the amount paid in, none brings in more than the sweep pays out;
and where no such way exists the sweep is refused and never partial.
-/

namespace SweepAudit

open Decimal

/-- An order's price and size, and how much of it is taken. -/
structure Part where
  price : ℚ
  size : ℚ
  taken : ℚ

namespace Part

def order (part : Part) : ℚ × ℚ := (part.price, part.size)

/-- What the parts cost together. -/
def cost (side : Side) (parts : List Part) : ℚ :=
  (parts.map fun part => side.cost part.price part.taken).sum

/-- What the parts bring in together. -/
def yield (side : Side) (parts : List Part) : ℚ :=
  (parts.map fun part => side.yield part.price part.taken).sum

end Part

namespace Book

/-- Price and size of every order that an auction on a side can take: the asks for a buyer, the
bids for a seller. -/
def takeable (book : Book) (side : Side) : List (ℚ × ℚ) :=
  let levels := match side with
    | .buy => book.asks
    | .sell => book.bids
  levels.flatMap fun level => level.queue.map fun order => (level.price.value, order.size.value)

/-- What all takeable orders cost. -/
def capacity (book : Book) (side : Side) : ℚ :=
  ((book.takeable side).map fun order => side.cost order.1 order.2).sum

/-- Parts of the takeable orders, one of each and none larger than the order. -/
def Allocation (book : Book) (side : Side) (parts : List Part) : Prop :=
  (parts.map Part.order).Perm (book.takeable side) ∧
    ∀ part ∈ parts, 0 ≤ part.taken ∧ part.taken ≤ part.size

/-- A sweep meets every takeable order. -/
theorem sweepOrders_perm (book : Book) (side : Side) :
    ((book.sweepOrders side).map fun order => (order.1.value, order.2.value)).Perm
      (book.takeable side) := by
  have hmap (levels : List PriceLevel) :
      (levels.flatMap fun level => level.queue.map fun order => (level.price, order.size)).map
        (fun order : Decimal × Decimal => (order.1.value, order.2.value)) =
      levels.flatMap fun level =>
        level.queue.map fun order => (level.price.value, order.size.value) := by
    simp [List.map_flatMap, Function.comp_def]
  unfold sweepOrders takeable swept
  rw [hmap]
  cases side with
  | buy => exact List.Perm.refl _
  | sell => exact (List.reverse_perm book.bids).flatMap_right _

theorem capacity_eq (book : Book) (side : Side) :
    book.capacity side = Greedy.capacity ((book.sweepOrders side).map side.offer) := by
  have h := (book.sweepOrders_perm side).map fun order => side.cost order.1 order.2
  rw [capacity, ← h.sum_eq, Greedy.capacity]
  simp [Side.offer, Function.comp_def]

/-- The better an order's price, the earlier it is met. -/
theorem Sound.rates_sorted {book : Book} (h : book.Sound) (side : Side) :
    ((book.sweepOrders side).map side.offer).Pairwise fun a b => b.1 ≤ a.1 := by
  have level_sorted (level : PriceLevel) :
      (level.queue.map fun order => side.offer (level.price, order.size)).Pairwise
        fun a b => b.1 ≤ a.1 := by
    rw [List.pairwise_map]
    exact List.pairwise_of_forall fun _ _ => le_rfl
  have sorted : (book.swept side).Pairwise fun l m =>
      side.worth m.price.value 1 ≤ side.worth l.price.value 1 := by
    cases side with
    | buy =>
      refine h.asks.sorted.imp_of_mem fun {l m} hl _ hlt => ?_
      have hp := isPositive_iff.mp (h.asks.sound l hl).price_pos
      exact one_div_le_one_div_of_le hp hlt.le
    | sell =>
      simp only [swept, List.pairwise_reverse, Side.worth, mul_one]
      exact h.bids.sorted.imp fun hlt => hlt.le
  rw [sweepOrders, List.map_flatMap, List.pairwise_flatMap]
  refine ⟨fun level _ => by simpa [Function.comp_def] using level_sorted level, ?_⟩
  refine sorted.imp fun {l m} hle => ?_
  intro a ha b hb
  simp only [List.map_map, List.mem_map, Function.comp] at ha hb
  obtain ⟨_, _, rfl⟩ := ha
  obtain ⟨_, _, rfl⟩ := hb
  exact hle

/-- Parts that are listed in the order of a sweep, as amounts spent on its offers. -/
theorem within_of_parts {side : Side} {parts : List Part} {orders : List (Decimal × Decimal)}
    (hpos : ∀ order ∈ orders, PositiveOrder order)
    (h : List.Forall₂ (fun part order => part.order = (order.1.value, order.2.value) ∧
      0 ≤ part.taken ∧ part.taken ≤ part.size) parts orders) :
    Greedy.Within (parts.map fun part => side.cost part.price part.taken)
        (orders.map side.offer) ∧
      Greedy.gained (parts.map fun part => side.cost part.price part.taken)
        (orders.map side.offer) = Part.yield side parts := by
  induction h with
  | nil => exact ⟨.nil, rfl⟩
  | @cons part order parts orders hpart _ ih =>
    obtain ⟨hwithin, hgained⟩ := ih fun o ho => hpos o (List.mem_cons_of_mem _ ho)
    obtain ⟨hp, -⟩ := hpos order List.mem_cons_self
    obtain ⟨horder, h0, hle⟩ := hpart
    obtain ⟨hprice, hsize⟩ := Prod.mk.inj horder
    rw [← hprice] at hp
    rw [hsize] at hle
    constructor
    · refine .cons ⟨?_, ?_⟩ hwithin
      · cases side
        · exact mul_nonneg hp.le h0
        · exact h0
      · simp only [Side.offer, ← hprice]
        cases side
        · exact mul_le_mul_of_nonneg_left hle hp.le
        · exact hle
    · simp only [Greedy.gained, Part.yield, List.map_cons, List.zipWith_cons_cons,
        List.sum_cons] at hgained ⊢
      rw [hgained, Side.offer, ← hprice, ← Side.worth_eq, Side.worth_cost hp]

/-- Amounts spent on the offers of a sweep, as parts of its orders. -/
theorem exists_parts {side : Side} {spent : List ℚ} {orders : List (Decimal × Decimal)}
    (hpos : ∀ order ∈ orders, PositiveOrder order)
    (h : Greedy.Within spent (orders.map side.offer)) :
    ∃ parts, parts.map Part.order = orders.map (fun order => (order.1.value, order.2.value)) ∧
      (∀ part ∈ parts, 0 ≤ part.taken ∧ part.taken ≤ part.size) ∧
      Part.cost side parts = spent.sum ∧
      Part.yield side parts = Greedy.gained spent (orders.map side.offer) := by
  induction orders generalizing spent with
  | nil =>
    cases h
    exact ⟨[], rfl, List.forall_mem_nil _, rfl, rfl⟩
  | cons order orders ih =>
    cases h with
    | @cons x _ spent _ hx hspent =>
      obtain ⟨parts, horders, hparts, hcost, hyield⟩ :=
        ih (fun o ho => hpos o (List.mem_cons_of_mem _ ho)) hspent
      obtain ⟨hp, -⟩ := hpos order List.mem_cons_self
      -- So much of the order is taken that it costs what is spent on it.
      have htaken : ∃ taken, side.cost order.1.value taken = x ∧ 0 ≤ taken ∧
          taken ≤ order.2.value := by
        cases side with
        | buy =>
          refine ⟨x / order.1.value, mul_div_cancel₀ _ hp.ne', div_nonneg hx.1 hp.le, ?_⟩
          rw [div_le_iff₀ hp, mul_comm]
          exact hx.2
        | sell => exact ⟨x, rfl, hx.1, hx.2⟩
      obtain ⟨taken, hx', h0, hle⟩ := htaken
      refine ⟨⟨order.1.value, order.2.value, taken⟩ :: parts, ?_, ?_, ?_, ?_⟩
      · rw [List.map_cons, List.map_cons, horders]
        rfl
      · exact List.forall_mem_cons.mpr ⟨⟨h0, hle⟩, hparts⟩
      · rw [Part.cost, List.map_cons, List.sum_cons, hx', List.sum_cons, ← hcost]
        rfl
      · simp only [Greedy.gained, Part.yield, List.map_cons, List.zipWith_cons_cons,
          List.sum_cons] at hyield ⊢
        rw [hyield, ← Side.worth_cost hp, hx', Side.worth_eq]
        rfl

/-- What an exact sweep pays out is the most that parts of this cost can bring in. -/
theorem isGreatest_gain {book : Book} {side : Side} {amount : ℚ} (h : book.Sound)
    (h0 : 0 ≤ amount) (hle : amount ≤ book.capacity side) :
    IsGreatest {received | ∃ parts, book.Allocation side parts ∧
        Part.cost side parts = amount ∧ Part.yield side parts = received}
      (Greedy.gain amount ((book.sweepOrders side).map side.offer)) := by
  have hpos := h.orders_pos side
  have hoffers := @offers_nonneg side _ hpos
  constructor
  · obtain ⟨spent, hwithin, hsum, hgain⟩ := Greedy.exists_within h0
      (fun offer ho => (hoffers offer ho).2) (by rwa [← capacity_eq])
    obtain ⟨parts, horders, hparts, hcost, hyield⟩ := exists_parts hpos hwithin
    exact ⟨parts, ⟨horders ▸ book.sweepOrders_perm side, hparts⟩, hcost.trans hsum,
      hyield.trans hgain⟩
  · rintro received ⟨parts, ⟨hperm, hparts⟩, rfl, rfl⟩
    -- The parts are listed in the order in which the sweep meets the orders.
    have hall : List.Forall₂ (fun order (part : Part) => part.order = order ∧
        0 ≤ part.taken ∧ part.taken ≤ part.size) (parts.map Part.order) parts :=
      List.forall₂_map_left_iff.mpr
        (List.forall₂_same.mpr fun part hpart => ⟨rfl, hparts part hpart⟩)
    obtain ⟨listed, hlisted, hsame⟩ :=
      List.perm_comp_forall₂ ((book.sweepOrders_perm side).trans hperm.symm) hall
    obtain ⟨hwithin, hgained⟩ := within_of_parts hpos (List.forall₂_map_left_iff.mp hlisted).flip
    have hbest := Greedy.gained_le hwithin (fun offer ho => (hoffers offer ho).1)
      (h.rates_sorted side)
    rw [hgained] at hbest
    have hcost : Part.cost side listed = Part.cost side parts := (hsame.map _).sum_eq
    have hyield : Part.yield side listed = Part.yield side parts := (hsame.map _).sum_eq
    rw [← hcost, ← hyield]
    exact hbest

/-- A sweep in which nothing has to be rounded is refused for want of liquidity exactly if all
takeable orders together cost less than the amount, and else pays out as much as any parts of
them that cost the amount bring in. -/
theorem amountOut_isGreatest {book : Book} (reachable : book.Reachable) (side : Side)
    (amountIn : Decimal) (positive : amountIn.IsPositive)
    (exact : ExactFrom side amountIn.value 0 (book.sweepOrders side)) :
    ((book.amountOut side amountIn).run = .ok (.error (.insufficientLiquidity side)) ↔
        book.capacity side < amountIn.value) ∧
      (amountIn.value ≤ book.capacity side →
        ∃ out, (book.amountOut side amountIn).run = .ok (.ok out) ∧
          IsGreatest {received | ∃ parts, book.Allocation side parts ∧
              Part.cost side parts = amountIn.value ∧ Part.yield side parts = received}
            out.value) := by
  have hsound := reachable.sound
  obtain ⟨out, hout, hrun⟩ := amountOut_exact hsound positive exact
  rw [← capacity_eq] at hrun
  constructor
  · rw [hrun]
    split
    · exact iff_of_true rfl ‹_›
    · refine iff_of_false ?_ ‹_›
      intro h
      cases h
  · intro hle
    refine ⟨out, by rw [hrun, if_neg (not_lt.mpr hle)], ?_⟩
    rw [hout]
    exact isGreatest_gain hsound (isPositive_iff.mp positive).le hle

/-- Asks of 4 at 2 and of 5 at 4. -/
def twoAsks : Book :=
  (empty.after (.place ⟨1⟩ .sell (ofUInt32 2) (ofUInt32 4) "a")).after
    (.place ⟨2⟩ .sell (ofUInt32 4) (ofUInt32 5) "b")

theorem twoAsks_orders : twoAsks.sweepOrders .buy =
    [(ofUInt32 2, ofUInt32 4), (ofUInt32 4, ofUInt32 5)] := by
  decide

theorem twoAsks_exact : ExactFrom .buy (18 : ℚ) 0 (twoAsks.sweepOrders .buy) := by
  have representable (n s : Nat) (hn : n < twoTo 96) (hs : s ≤ 28) :
      Representable (n / 10 ^ s) := ⟨⟨false, n, s, hn, hs⟩, by simp [value_mk, withSign]⟩
  have h8 := representable 8 0 (by decide) (by decide)
  have h10 := representable 10 0 (by decide) (by decide)
  have h4 := representable 4 0 (by decide) (by decide)
  have h20 := representable 20 0 (by decide) (by decide)
  have h25 := representable 25 1 (by decide) (by decide)
  have h65 := representable 65 1 (by decide) (by decide)
  have hvalues : (ofUInt32 2).value = 2 ∧ (ofUInt32 4).value = 4 ∧ (ofUInt32 5).value = 5 :=
    ⟨value_ofUInt32 2, value_ofUInt32 4, value_ofUInt32 5⟩
  rw [twoAsks_orders]
  norm_num [ExactFrom, hvalues, Side.cost, Side.worth] at h8 h10 h4 h20 h25 h65 ⊢
  exact ⟨h8, h10, h4, h20, representable_zero, h25, h65⟩

/-- Paying 18 takes the first ask and half of the second. -/
theorem amountOut_isGreatest_twoAsks :
    ∃ out, (twoAsks.amountOut .buy (ofUInt32 18)).run = .ok (.ok out) ∧
      IsGreatest {received | ∃ parts, twoAsks.Allocation .buy parts ∧
          Part.cost .buy parts = 18 ∧ Part.yield .buy parts = received} out.value := by
  have hvalue : (ofUInt32 18).value = 18 := value_ofUInt32 18
  have hvalues : (ofUInt32 2).value = 2 ∧ (ofUInt32 4).value = 4 ∧ (ofUInt32 5).value = 5 :=
    ⟨value_ofUInt32 2, value_ofUInt32 4, value_ofUInt32 5⟩
  have hbest := (@amountOut_isGreatest twoAsks (.after (.after .empty _) _) .buy
    (ofUInt32 18) (by decide) (by rw [hvalue]; exact twoAsks_exact)).2
  rw [hvalue] at hbest
  apply hbest
  rw [capacity_eq, twoAsks_orders]
  norm_num [Side.offer, Side.cost, hvalues]

end Book

end SweepAudit
