import SweepAudit.Proofs.Ladder
import SweepAudit.Proofs.Liquidity

/-!
A book into which the orders of a ladder are put one after another. Each of them opens a new
level above the others of its side, so that in the end either side shows the whole ladder,
and sweeps of it come to exact numbers.
-/

namespace SweepAudit

open Decimal

/-- What a level shows: its price, and the sizes of the orders in it. -/
def PriceLevel.shown (level : PriceLevel) : ℚ × List ℚ :=
  (level.price.value, level.queue.map fun order => order.size.value)

/-- What the i-th level of a ladder shows, counted from zero. -/
def Ladder.rung (base : ℚ) (i : Nat) : ℚ × List ℚ := (base + (i + 1), [10 * (i + 1)])

namespace Book

/-- A book that has so many orders of a ladder on either side and no others. -/
structure Seeded (base : ℚ) (count : Side → Nat) (book : Book) : Prop where
  sound : book.Sound
  shown : ∀ side, (book.levelsOf side).map PriceLevel.shown =
    (List.range (count side)).map (Ladder.rung base)
  ids : ∀ id ∈ book.clientOrderIds, ∃ m ≤ count .buy + count .sell, id = clientOrderId m

theorem seeded_empty (base : ℚ) (auctions : List (String × Auction)) :
    Seeded base (fun _ => 0) { empty with auctions } := by
  refine ⟨⟨ascending_nil, ascending_nil⟩, fun side => ?_, fun id h => absurd h List.not_mem_nil⟩
  cases side <;> rfl

/-- A price above all others opens a level at the end. -/
theorem enqueue_last {price : Decimal} {order : Resting} {levels : List PriceLevel}
    (h : ∀ level ∈ levels, level.price.value < price.value) :
    enqueue price order levels = levels ++ [⟨price, [order]⟩] := by
  induction levels with
  | nil => rfl
  | cons level levels ih =>
    obtain ⟨hlevel, hlevels⟩ := List.forall_mem_cons.mp h
    rw [enqueue, if_neg (by rw [lt_iff]; exact not_lt.mpr hlevel.le),
      if_pos (lt_iff.mpr hlevel), ih hlevels]
    rfl

theorem place_ok {book : Book} {id : Uuid} {side : Side} {price size : Decimal}
    {clientOrderId : String} (hprice : price.IsPositive) (hsize : size.IsPositive)
    (hid : clientOrderId ∉ book.clientOrderIds) :
    ∃ book', book.place id side price size clientOrderId = .ok book' := by
  rw [place, if_neg (not_not_intro hprice), if_neg (not_not_intro hsize), if_neg hid]
  cases side <;> exact ⟨_, rfl⟩

variable {base : ℚ} {count : Side → Nat} {book : Book}

/-- The next order of a side is put on top of the others. -/
theorem Seeded.place (h : Seeded base count book) {side : Side} {price size : Decimal} {n : Nat}
    (habove : 0 < base + 1) (hprice : price.value = base + (count side + 1))
    (hsize : size.value = 10 * (count side + 1)) (hn : n = count .buy + count .sell + 1)
    (id : Uuid) :
    ∃ book', book.place id side price size (clientOrderId n) = .ok book' ∧
      Seeded base (Function.update count side (count side + 1)) book' ∧
      book'.auctions = book.auctions := by
  have hcount : (0 : ℚ) ≤ count side := Nat.cast_nonneg _
  have hfresh : clientOrderId n ∉ book.clientOrderIds := by
    intro hmem
    obtain ⟨m, hm, heq⟩ := h.ids _ hmem
    have := clientOrderId_injective heq
    omega
  obtain ⟨book', hplace⟩ := @place_ok book id side price size (clientOrderId n)
    (isPositive_iff.mpr (by linarith)) (isPositive_iff.mpr (by rw [hsize]; positivity)) hfresh
  obtain ⟨-, -, -, hids, hauctions, hbids, hasks⟩ := place_eq_ok hplace
  -- All levels of the side are below the price, for they show earlier rungs.
  have hbelow : ∀ level ∈ book.levelsOf side, level.price.value < price.value := by
    intro level hlevel
    have hmem : level.shown ∈ (List.range (count side)).map (Ladder.rung base) :=
      h.shown side ▸ List.mem_map_of_mem hlevel
    obtain ⟨i, hi, heq⟩ := List.mem_map.mp hmem
    have hlt : (i : ℚ) < count side := by exact_mod_cast List.mem_range.mp hi
    have hlevelprice : base + (i + 1) = level.price.value := congrArg Prod.fst heq
    rw [hprice, ← hlevelprice]
    linarith
  have hnew : book'.levelsOf side =
      book.levelsOf side ++ [⟨price, [⟨id, clientOrderId n, size⟩]⟩] := by
    rw [← enqueue_last hbelow]
    cases side
    · exact hbids
    · exact hasks
  have hother : ∀ other, other ≠ side → book'.levelsOf other = book.levelsOf other := by
    intro other hne
    cases side <;> cases other <;> simp_all [levelsOf]
  refine ⟨book', hplace, ⟨sound_place h.sound hplace, fun s => ?_, fun cid hmem => ?_⟩, hauctions⟩
  · by_cases hs : s = side
    · subst hs
      rw [hnew, List.map_append, h.shown, Function.update_self, List.range_succ, List.map_append,
        List.map_singleton, List.map_singleton, PriceLevel.shown, Ladder.rung, hprice,
        List.map_singleton, hsize]
    · rw [hother s hs, h.shown, Function.update_of_ne hs]
  · have htotal : count .buy + count .sell + 1 =
        Function.update count side (count side + 1) .buy +
          Function.update count side (count side + 1) .sell := by
      cases side <;> simp [Function.update] <;> omega
    rw [← htotal]
    rw [hids] at hmem
    rcases List.mem_cons.mp hmem with rfl | hmem
    · exact ⟨n, hn.le, rfl⟩
    · obtain ⟨m, hm, heq⟩ := h.ids cid hmem
      exact ⟨m, by omega, heq⟩

/-! A book that has the whole ladder -/

/-- What orders cost can be told from what their levels show. -/
theorem costs_resting (asset : Side) (levels : List PriceLevel) :
    costs asset (resting levels) =
      ((levels.map PriceLevel.shown).map fun shown =>
        (shown.2.map (asset.cost shown.1)).sum).sum := by
  induction levels with
  | nil => rfl
  | cons level levels ih =>
    rw [resting_cons, costs_append, ih, List.map_cons, List.map_cons, List.sum_cons]
    congr 1
    simp [costs, PriceLevel.shown, Function.comp_def]

namespace Seeded

variable {base : Decimal} {depth : Nat}

theorem mem_swept (h : Seeded base.value (fun _ => depth) book) {side : Side}
    {level : PriceLevel} (hlevel : level ∈ book.swept side) :
    ∃ i < depth, level.price.value = base.value + (i + 1) ∧
      ∀ order ∈ level.queue, order.size.value = 10 * (i + 1) := by
  have hmem : level.shown ∈ (List.range depth).map (Ladder.rung base.value) := by
    cases side with
    | buy => exact h.shown .sell ▸ List.mem_map_of_mem hlevel
    | sell => exact h.shown .buy ▸ List.mem_map_of_mem (List.mem_reverse.mp hlevel)
  obtain ⟨i, hi, heq⟩ := List.mem_map.mp hmem
  refine ⟨i, List.mem_range.mp hi, (congrArg Prod.fst heq).symm, fun order ho => ?_⟩
  have hsizes : [10 * ((i : ℚ) + 1)] = level.queue.map fun order => order.size.value :=
    congrArg Prod.snd heq
  have hsize : order.size.value ∈ level.queue.map fun order => order.size.value :=
    List.mem_map.mpr ⟨order, ho, rfl⟩
  rw [← hsizes] at hsize
  exact List.mem_singleton.mp hsize

theorem costs_eq (h : Seeded base.value (fun _ => depth) book) (side asset : Side) :
    costs asset (book.sweepOrders side) =
      match asset with
      | .buy => Ladder.quoteTotal base.value depth
      | .sell => Ladder.baseTotal depth := by
  have hsum (levels : List PriceLevel)
      (hlevels : levels.map PriceLevel.shown = (List.range depth).map (Ladder.rung base.value)) :
      costs asset (resting levels) = ((List.range depth).map fun i : Nat =>
        asset.cost (base.value + (i + 1)) (10 * (i + 1))).sum := by
    rw [costs_resting, hlevels, List.map_map]
    simp [Ladder.rung, Function.comp_def]
  have hside : costs asset (book.sweepOrders side) = ((List.range depth).map fun i : Nat =>
      asset.cost (base.value + (i + 1)) (10 * (i + 1))).sum := by
    cases side with
    | buy => exact hsum book.asks (h.shown .sell)
    | sell =>
      refine Eq.trans ?_ (hsum book.bids (h.shown .buy))
      change costs asset (resting book.bids.reverse) = _
      rw [costs_resting, costs_resting, List.map_reverse, List.map_reverse, List.sum_reverse]
  rw [hside]
  cases asset <;> rfl

theorem length_swept (h : Seeded base.value (fun _ => depth) book) (side : Side) :
    (book.swept side).length = depth := by
  have hlength (s : Side) : (book.levelsOf s).length = depth := by
    have := congrArg List.length (h.shown s)
    simpa using this
  cases side with
  | buy => exact hlength .sell
  | sell => exact (List.length_reverse ..).trans (hlength .buy)

theorem exact (h : Seeded base.value (fun _ => depth) book) (hfits : Ladder.Fits base depth) :
    book.Exact base.scale := by
  have placed (side : Side) : Placed base.scale (book.sweepOrders side) := by
    have horder : ∀ order ∈ book.sweepOrders side, ∃ i : Nat,
        order.1.value = base.value + (i + 1) ∧ order.2.value = 10 * (i + 1) := by
      intro order ho
      obtain ⟨level, hlevel, ho⟩ := List.mem_flatMap.mp ho
      obtain ⟨resting, hr, rfl⟩ := List.mem_map.mp ho
      obtain ⟨i, -, hprice, hsizes⟩ := h.mem_swept hlevel
      exact ⟨i, hprice, hsizes resting hr⟩
    refine ⟨h.sound.orders_pos side, fun order ho => ?_, fun order ho => ?_⟩
    · obtain ⟨i, hprice, hsize⟩ := horder order ho
      rw [hprice, hsize]
      exact Ladder.Fits.onGrid_quote i
    · obtain ⟨i, -, hsize⟩ := horder order ho
      rw [hsize]
      exact Ladder.Fits.onGrid_size _ i
  have held (side asset : Side) : Held base.scale (costs asset (book.sweepOrders side) + 1) := by
    rw [h.costs_eq]
    cases asset
    · exact hfits.quoteTotal_held
    · exact hfits.baseTotal_held
  refine ⟨h.sound, placed, fun side => held side side, fun side => ?_⟩
  cases side
  · exact held .buy .sell
  · exact held .sell .buy

/-- A depth limit of no less than the ladder's depth shows all of it. -/
theorem best_eq (h : Seeded base.value (fun _ => depth) book) (side : Side) {limit : Nat}
    (hlimit : depth ≤ limit) :
    book.best side limit = book.sweepOrders side ∧ book.behind side limit = [] := by
  have hlength := h.length_swept side
  rw [best, behind, List.take_of_length_le (by omega), List.drop_eq_nil_of_le (by omega)]
  exact ⟨rfl, rfl⟩

end Seeded

end Book

end SweepAudit
