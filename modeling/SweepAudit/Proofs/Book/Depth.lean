import SweepAudit.Proofs.Book.Placing
import SweepAudit.Proofs.Book.Sweep
import SweepAudit.Proofs.Liquidity.Levels

/-!
The depth of a book. Its levels come in the order in which a sweep meets them, one for each of
the best prices, and their texts are read as the numbers of the book again, so the totals never
take offence at one. There is no depth if the sizes at one of these prices cannot be added up,
and this is its only failure.
-/

namespace SweepAudit

open Decimal

/-- On the way of a sweep, one price comes before the other: a buyer meets the lowest ask first,
a seller the highest bid. -/
def Side.Before (side : Side) (p q : ℚ) : Prop :=
  match side with
  | .buy => p < q
  | .sell => q < p

theorem Side.Before.ne {side : Side} {p q : ℚ} (h : side.Before p q) : p ≠ q := by
  cases side
  · exact ne_of_lt h
  · exact ne_of_gt h

/-- All that rests in a level. -/
def PriceLevel.size (level : PriceLevel) : ℚ := (level.queue.map (·.size.value)).sum

namespace PriceLevel

variable {level : PriceLevel} {report : Level} {o : Overflow}

theorem Sound.sizes_pos (h : level.Sound) : ∀ x ∈ level.queue.map (·.size), 0 < x.value :=
  List.forall_mem_map.mpr fun order ho => isPositive_iff.mp (h.size_pos order ho)

theorem size_pos (h : level.Sound) : 0 < level.size := by
  refine List.sum_pos _ ?_ (by simpa using h.queue_ne_nil)
  exact List.forall_mem_map.mpr fun order ho => isPositive_iff.mp (h.size_pos order ho)

/-- The price of a level and the sum of its sizes, which is zero if there is none. -/
def entry (level : PriceLevel) : ℚ × ℚ :=
  (level.price.value, (level.total.toOption.getD .zero).value)

/-- The texts of a reported level are those of its numbers. -/
theorem report_eq_ok (h : level.report = .ok report) :
    ∃ total, level.total = .ok total ∧ total.value = level.entry.2 ∧
      Reads report.price level.entry.1 ∧ Reads report.size level.entry.2 := by
  obtain ⟨total, htotal, h⟩ := bind_eq_ok h
  cases h
  have hvalue : total.value = level.entry.2 := by
    rw [entry, htotal]
    rfl
  exact ⟨total, htotal, hvalue, reads_canonical level.price, hvalue ▸ reads_canonical total⟩

theorem report_eq_error (h : level.report = .error o) : level.total = .error o := by
  rcases bind_eq_error h with h | ⟨total, -, h⟩
  · exact h
  · cases h

theorem report_iff : (∃ report, level.report = .ok report) ↔
    Addable (level.queue.map (·.size)) := by
  rw [← sum_eq_ok_iff]
  constructor
  · rintro ⟨report, h⟩
    obtain ⟨total, htotal, -⟩ := report_eq_ok h
    exact ⟨total, htotal⟩
  · rintro ⟨total, h⟩
    refine ⟨⟨level.price.canonical, total.canonical⟩, ?_⟩
    rw [report, PriceLevel.total, h]
    rfl

/-- There is room for the sizes of a level if a unit can be put to each. -/
theorem addable_of_room (hsound : level.Sound) (h : level.size + level.queue.length ≤ 2 ^ 96) :
    Addable (level.queue.map (·.size)) := by
  rw [← sum_eq_ok_iff]
  refine foldlM_add_room (fun x hx => (hsound.sizes_pos x hx).le) (by rw [value_zero]) ?_
  rwa [value_zero, zero_add, List.map_map, List.length_map]

theorem not_addable_of_full (h : 2 ^ 96 + level.queue.length ≤ level.size) :
    ¬Addable (level.queue.map (·.size)) := by
  rw [← sum_eq_ok_iff]
  rintro ⟨total, htotal⟩
  have hnear := (abs_le.mp (sum_near htotal)).1
  have hle := (abs_le.mp total.abs_value_le).2
  rw [List.map_map, List.length_map] at hnear
  change _ ≤ _ - level.size at hnear
  rw [value_greatest] at hle
  linarith

theorem total_pos (hsound : level.Sound) {total : Decimal} (h : level.total = .ok total) :
    0 < total.value :=
  sum_pos hsound.sizes_pos (by simpa using hsound.queue_ne_nil) h

end PriceLevel

namespace Book

variable {book : Book} {levels : List PriceLevel} {level : PriceLevel} {side : Side} {limit : Nat}
  {snapshot : Snapshot}

/-! The prices of a side -/

/-- The prices at which the orders rest that a sweep meets, each of them once. -/
def prices (book : Book) (side : Side) : List ℚ :=
  ((book.sweepOrders side).map (·.1.value)).dedup

theorem Sound.swept_sorted (h : book.Sound) (side : Side) :
    (book.swept side).Pairwise fun l m => side.Before l.price.value m.price.value := by
  cases side with
  | buy => exact h.asks.sorted
  | sell => exact List.pairwise_reverse.mpr h.bids.sorted

/-- No level is empty, so each has its price from an order. -/
theorem Sound.mem_prices (h : book.Sound) {v : ℚ} :
    v ∈ book.prices side ↔ v ∈ (book.swept side).map (·.price.value) := by
  rw [prices, List.mem_dedup]
  constructor
  · intro hv
    obtain ⟨order, horder, rfl⟩ := List.mem_map.mp hv
    obtain ⟨level, hlevel, horder⟩ := List.mem_flatMap.mp horder
    obtain ⟨resting, -, rfl⟩ := List.mem_map.mp horder
    exact List.mem_map.mpr ⟨level, hlevel, rfl⟩
  · intro hv
    obtain ⟨level, hlevel, rfl⟩ := List.mem_map.mp hv
    have hne := (h.swept_sound side level hlevel).queue_ne_nil
    obtain ⟨resting, hresting⟩ := List.exists_mem_of_ne_nil _ hne
    refine List.mem_map.mpr ⟨(level.price, resting.size), ?_, rfl⟩
    exact List.mem_flatMap.mpr ⟨level, hlevel, List.mem_map.mpr ⟨resting, hresting, rfl⟩⟩

theorem Sound.length_prices (h : book.Sound) :
    (book.prices side).length = (book.swept side).length := by
  have hnodup : ((book.swept side).map (·.price.value)).Nodup :=
    List.pairwise_map.mpr ((h.swept_sorted side).imp Side.Before.ne)
  have hperm : (book.prices side).Perm ((book.swept side).map (·.price.value)) :=
    (List.perm_ext_iff_of_nodup (List.nodup_dedup _) hnodup).mpr fun _ => h.mem_prices
  rw [hperm.length_eq, List.length_map]

/-- What rests at the price of a level is all in its queue. -/
theorem queueAt_eq_queue (h : levels.Pairwise fun l m => l.price.value ≠ m.price.value)
    (hlevel : level ∈ levels) : queueAt levels level.price.value = level.queue := by
  induction levels with
  | nil => exact absurd hlevel List.not_mem_nil
  | cons first levels ih =>
    obtain ⟨hfirst, hlevels⟩ := List.pairwise_cons.mp h
    change (if first.price.value = level.price.value then first.queue else []) ++
      queueAt levels level.price.value = _
    rcases List.mem_cons.mp hlevel with rfl | hlevel
    · rw [if_pos rfl, queueAt_eq_nil fun other hother => (hfirst other hother).symm,
        List.append_nil]
    · rw [if_neg (hfirst level hlevel), ih hlevels hlevel, List.nil_append]

/-! The levels of a depth -/

theorem depth_eq_ok_iff : book.depth limit = .ok snapshot ↔
    ∀ side, ((book.swept side).take limit).mapM PriceLevel.report =
      .ok (snapshot.liquidityFor side) := by
  change (do
    let asks ← ((book.swept .buy).take limit).mapM PriceLevel.report
    let bids ← ((book.swept .sell).take limit).mapM PriceLevel.report
    return Snapshot.mk asks bids) = _ ↔ _
  constructor
  · intro h side
    obtain ⟨asks, hasks, h⟩ := bind_eq_ok h
    obtain ⟨bids, hbids, h⟩ := bind_eq_ok h
    cases h
    cases side
    · exact hasks
    · exact hbids
  · intro h
    rw [h .buy, h .sell]
    rfl

/-- A depth that has overflowed has done so in adding up the sizes of a level. -/
theorem depth_eq_error {o : Overflow} (h : book.depth limit = .error o) : o = .addition := by
  have hlevel {levels : List PriceLevel} (h : levels.mapM PriceLevel.report = .error o) :
      o = .addition := by
    obtain ⟨level, -, hreport⟩ := mapM_eq_error h
    exact (foldlM_add_eq_error (PriceLevel.report_eq_error hreport)).1
  rcases bind_eq_error h with hasks | ⟨asks, -, h⟩
  · exact hlevel hasks
  · rcases bind_eq_error h with hbids | ⟨bids, -, h⟩
    · exact hlevel hbids
    · cases h

/-- The sizes at each of the best prices can be added up. -/
def AddsUp (book : Book) (limit : Nat) : Prop :=
  ∀ side, ∀ level ∈ (book.swept side).take limit, Addable (level.queue.map (·.size))

theorem exists_depth_iff : (∃ snapshot, book.depth limit = .ok snapshot) ↔ book.AddsUp limit := by
  have hsides : book.AddsUp limit ↔ ∀ side, ∃ reports,
      ((book.swept side).take limit).mapM PriceLevel.report = .ok reports := by
    simp only [AddsUp, exists_mapM_iff, PriceLevel.report_iff]
  rw [hsides]
  constructor
  · rintro ⟨snapshot, h⟩ side
    exact ⟨_, depth_eq_ok_iff.mp h side⟩
  · intro h
    obtain ⟨asks, hasks⟩ := h .buy
    obtain ⟨bids, hbids⟩ := h .sell
    refine ⟨⟨asks, bids⟩, depth_eq_ok_iff.mpr fun side => ?_⟩
    cases side
    · exact hasks
    · exact hbids

/-- Less depth is the beginning of more. -/
theorem depth_take (h : book.depth limit = .ok snapshot) {smaller : Nat} (hle : smaller ≤ limit) :
    ∃ snapshot', book.depth smaller = .ok snapshot' ∧
      ∀ side, snapshot'.liquidityFor side = (snapshot.liquidityFor side).take smaller := by
  refine ⟨⟨snapshot.asks.take smaller, snapshot.bids.take smaller⟩, ?_, ?_⟩
  · rw [depth_eq_ok_iff] at h ⊢
    intro side
    have hreports := List.forall₂_take smaller (mapM_eq_ok_iff.mp (h side))
    rw [List.take_take, min_eq_left hle] at hreports
    rw [mapM_eq_ok_iff]
    cases side <;> exact hreports
  · intro side
    cases side <;> rfl

/-- The levels that are shown of a side, told in numbers. -/
structure Shows (book : Book) (side : Side) (limit : Nat) (reports : List Level)
    (entries : List (ℚ × ℚ)) : Prop where
  read : List.Forall₂ (fun report entry => Reads report.price entry.1 ∧ Reads report.size entry.2)
    reports entries
  sorted : entries.Pairwise fun entry other => side.Before entry.1 other.1
  length : entries.length = min limit (book.prices side).length
  resting : ∀ entry ∈ entries, entry.1 ∈ book.prices side
  best : ∀ price ∈ book.prices side, price ∈ entries.map Prod.fst ∨
    ∀ entry ∈ entries, side.Before entry.1 price
  sum : ∀ entry ∈ entries, 0 < entry.2 ∧ ∃ total,
    Decimal.sum ((queueAt (book.swept side) entry.1).map (·.size)) = .ok total ∧
      total.value = entry.2

theorem Sound.shows (hsound : book.Sound) (h : book.depth limit = .ok snapshot) (side : Side) :
    book.Shows side limit (snapshot.liquidityFor side)
      (((book.swept side).take limit).map PriceLevel.entry) where
  read := by
    have hreports := mapM_eq_ok_iff.mp (depth_eq_ok_iff.mp h side)
    refine List.forall₂_map_right_iff.mpr (hreports.flip.imp fun report level hreport => ?_)
    obtain ⟨-, -, -, hprice, hsize⟩ := PriceLevel.report_eq_ok hreport
    exact ⟨hprice, hsize⟩
  sorted := List.pairwise_map.mpr ((hsound.swept_sorted side).sublist (List.take_sublist _ _))
  length := by
    rw [List.length_map, List.length_take, hsound.length_prices]
  resting := by
    intro entry hentry
    obtain ⟨level, hlevel, rfl⟩ := List.mem_map.mp hentry
    exact hsound.mem_prices.mpr (List.mem_map.mpr ⟨level, List.mem_of_mem_take hlevel, rfl⟩)
  best := by
    intro price hprice
    obtain ⟨level, hlevel, rfl⟩ := List.mem_map.mp (hsound.mem_prices.mp hprice)
    have hsorted := hsound.swept_sorted side
    rw [← List.take_append_drop limit (book.swept side)] at hlevel hsorted
    rcases List.mem_append.mp hlevel with hshown | hbehind
    · rw [List.map_map]
      exact .inl (List.mem_map.mpr ⟨level, hshown, rfl⟩)
    · right
      intro entry hentry
      obtain ⟨shown, hshown, rfl⟩ := List.mem_map.mp hentry
      exact (List.pairwise_append.mp hsorted).2.2 shown hshown level hbehind
  sum := by
    intro entry hentry
    obtain ⟨level, hlevel, rfl⟩ := List.mem_map.mp hentry
    have hmem := List.mem_of_mem_take hlevel
    obtain ⟨report, hreport⟩ := exists_mapM_iff.mp ⟨_, depth_eq_ok_iff.mp h side⟩ level hlevel
    obtain ⟨total, htotal, hvalue, -⟩ := PriceLevel.report_eq_ok hreport
    have hqueue : queueAt (book.swept side) level.entry.1 = level.queue :=
      queueAt_eq_queue ((hsound.swept_sorted side).imp Side.Before.ne) hmem
    rw [hqueue]
    exact ⟨hvalue ▸ PriceLevel.total_pos (hsound.swept_sound side level hmem) htotal,
      total, htotal, hvalue⟩

/-- Nothing that is shown offends the totals; only room for them may be wanting. -/
theorem Shows.eq_overflow {reports : List Level} {entries : List (ℚ × ℚ)} {e : LevelError}
    (hsound : book.Sound) (h : book.Shows side limit reports entries)
    (herror : Liquidity.ofLevels reports = .error e) : ∃ index, e = .overflow index := by
  obtain ⟨before, report, behind, total, hsplit, -, hfails⟩ :=
    Liquidity.ofLevels_eq_error_iff.mp herror
  have hread := List.forall₂_drop before.length (hsplit ▸ h.read)
  rw [List.drop_left, List.forall₂_cons_left_iff] at hread
  obtain ⟨entry, rest, ⟨hprice, hsize⟩, -, hentries⟩ := hread
  have hentry : entry ∈ entries := List.mem_of_mem_drop (hentries ▸ List.mem_cons_self)
  obtain ⟨level, hlevel, hvalue⟩ := List.mem_map.mp (hsound.mem_prices.mp (h.resting entry hentry))
  have hpos := isPositive_iff.mp (hsound.swept_sound side level hlevel).price_pos
  rw [hvalue] at hpos
  exact ⟨_, hfails.eq_overflow hprice hpos hsize (h.sum entry hentry).1⟩

/-- Each side of a depth shows the best prices in their order, with the sum of what rests there.
With less depth the first of them are shown, and whatever is shown can be read by the totals. -/
theorem depth_wellFormed (h : book.Reachable) (hdepth : book.depth limit = .ok snapshot)
    (side : Side) :
    (∃ entries, book.Shows side limit (snapshot.liquidityFor side) entries) ∧
      (∀ smaller ≤ limit, ∃ snapshot', book.depth smaller = .ok snapshot' ∧
        snapshot'.liquidityFor side = (snapshot.liquidityFor side).take smaller) ∧
      ∀ e, Liquidity.ofLevels (snapshot.liquidityFor side) = .error e →
        ∃ index, e = .overflow index := by
  have hshows := h.sound.shows hdepth side
  refine ⟨⟨_, hshows⟩, ?_, fun e => hshows.eq_overflow h.sound⟩
  intro smaller hle
  obtain ⟨snapshot', hdepth', htake⟩ := depth_take hdepth hle
  exact ⟨snapshot', hdepth', htake side⟩

/-- Asks at 10, at 1.0 and 1.00, which is one price, and at 9, and an order that is refused. -/
def sharedPrice : List BookAction :=
  [.place ⟨1⟩ .sell .ten .one "a", .place ⟨2⟩ .sell (ofText "1.0") (ofText "0.5") "b",
    .place ⟨3⟩ .sell (ofText "1.00") .one "c", .place ⟨4⟩ .buy .one .one "c",
    .place ⟨4⟩ .sell (ofText "9") .ten "d"]

theorem depth_wellFormed_sharedPrice :
    (empty.run sharedPrice).depth 2 = .ok ⟨[⟨"1", "1.5"⟩, ⟨"9", "10"⟩], []⟩ ∧
      ∃ entries, (empty.run sharedPrice).Shows .buy 2 [⟨"1", "1.5"⟩, ⟨"9", "10"⟩] entries := by
  have hdepth : (empty.run sharedPrice).depth 2 = .ok ⟨[⟨"1", "1.5"⟩, ⟨"9", "10"⟩], []⟩ := by
    decide +kernel
  exact ⟨hdepth, (depth_wellFormed (Reachable.empty.run sharedPrice) hdepth .buy).1⟩

end Book

end SweepAudit
