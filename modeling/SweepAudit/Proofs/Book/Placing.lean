import SweepAudit.Venue.Basic
import SweepAudit.Proofs.Book.Records
import SweepAudit.Proofs.Decimal.Text

/-!
Orders that are put into a book one after another, as they arrive from a client. What rests in
the end is told twice: by the queues, in which the orders stand behind one another, and as one
book that is the same whatever ids the orders have got. Which orders a book accepts is not told
here.
-/

namespace SweepAudit

namespace Decimal

/-- What is read of the text in which a decimal is sent. -/
def arrived (x : Decimal) : Decimal := (parse x.canonical).toOption.getD x

theorem parse_arrived (x : Decimal) : parse x.canonical = .ok x.arrived := by
  obtain ⟨y, hy, -⟩ := x.parse_canonical
  rw [arrived, hy]
  rfl

theorem value_arrived (x : Decimal) : x.arrived.value = x.value := by
  obtain ⟨y, hy, hvalue⟩ := x.parse_canonical
  rw [parse_arrived] at hy
  cases hy
  exact hvalue

theorem isPositive_arrived (x : Decimal) : x.arrived.IsPositive ↔ x.IsPositive := by
  rw [isPositive_iff, isPositive_iff, value_arrived]

end Decimal

namespace Book

variable {book book' : Book} {levels : List PriceLevel} {price size : Decimal} {v : ℚ} {id : Uuid}

/-! Queues -/

/-- The orders that rest at a price, of whatever scale it is. -/
def queueAt (levels : List PriceLevel) (v : ℚ) : List Resting :=
  levels.flatMap fun level => if level.price.value = v then level.queue else []

theorem queueAt_eq_nil (h : ∀ level ∈ levels, level.price.value ≠ v) : queueAt levels v = [] := by
  apply List.flatMap_eq_nil_iff.mpr
  intro level hlevel
  exact if_neg (h level hlevel)

/-- An order goes to the end of the queue of its price, and no other queue changes. -/
theorem queueAt_enqueue (order : Resting)
    (h : levels.Pairwise fun l m => l.price.value < m.price.value) :
    queueAt (enqueue price order levels) v =
      if price.value = v then queueAt levels v ++ [order] else queueAt levels v := by
  induction levels with
  | nil =>
    by_cases hv : price.value = v <;> simp [enqueue, queueAt, hv]
  | cons level levels ih =>
    obtain ⟨hlevel, hlevels⟩ := List.pairwise_cons.mp h
    have hcons (first : PriceLevel) (levels : List PriceLevel) : queueAt (first :: levels) v =
        (if first.price.value = v then first.queue else []) ++ queueAt levels v := rfl
    by_cases hbelow : price < level.price
    · have hlt := Decimal.lt_iff.mp hbelow
      rw [enqueue, if_pos hbelow, hcons]
      by_cases hv : price.value = v
      · have hnone : queueAt (level :: levels) v = [] := by
          apply queueAt_eq_nil
          intro other hother
          subst hv
          rcases List.mem_cons.mp hother with rfl | hother
          · exact hlt.ne'
          · exact (hlt.trans (hlevel other hother)).ne'
        simp [hv, hnone]
      · simp [hv]
    · by_cases habove : level.price < price
      · have hlt := Decimal.lt_iff.mp habove
        rw [enqueue, if_neg hbelow, if_pos habove, hcons, hcons, ih hlevels]
        by_cases hv : price.value = v
        · rw [if_pos hv, if_pos hv, List.append_assoc]
        · rw [if_neg hv, if_neg hv]
      · have heq : level.price.value = price.value := by
          rw [Decimal.lt_iff, not_lt] at hbelow habove
          exact le_antisymm hbelow habove
        rw [enqueue, if_neg hbelow, if_neg habove, hcons, hcons]
        by_cases hv : price.value = v
        · have hnone : queueAt levels v = [] := by
            apply queueAt_eq_nil
            intro other hother
            rw [← hv, ← heq]
            exact (hlevel other hother).ne'
          simp [hv, heq, hnone]
        · simp [hv, heq]

/-- Some orders rest in a book and no others: at each price of a side those of that price queue
up in their order, under the ids that the client has given them. -/
structure Holds (orders : List Order) (book : Book) : Prop where
  sound : book.Sound
  recorded : book.Recorded
  clients : book.clientOrderIds = (orders.map (·.clientOrderId)).reverse
  queued : ∀ side v,
    ((queueAt (book.levelsOf side) v).map fun resting =>
      (resting.clientOrderId, resting.size.value)) =
    (orders.filter fun order => order.side = side ∧ order.price.value = v).map fun order =>
      (order.clientOrderId, order.size.value)

theorem holds_nil (auctions : List (String × Auction)) : Holds [] { empty with auctions } where
  sound := ⟨ascending_nil, ascending_nil⟩
  recorded := recorded_empty auctions
  clients := rfl
  queued := by
    intro side v
    cases side <;> rfl

/-- An order is put into a book as it arrives there. -/
def placed (book : Book) (id : Uuid) (order : Order) : Except BookError Book :=
  book.place id order.side order.price.arrived order.size.arrived order.clientOrderId

theorem Sound.levelsOf (h : book.Sound) (side : Side) : Ascending (book.levelsOf side) := by
  cases side with
  | buy => exact h.bids
  | sell => exact h.asks

theorem Holds.placed {orders : List Order} {order : Order} (h : book.Holds orders)
    (hid : id ∉ book.queued.map (·.id)) (hplaced : book.placed id order = .ok book') :
    book'.Holds (orders ++ [order]) where
  sound := sound_place h.sound hplaced
  recorded := h.recorded.place hid hplaced
  clients := by
    obtain ⟨-, -, -, hclients, -⟩ := place_eq_ok hplaced
    rw [hclients, h.clients, List.map_append, List.reverse_append]
    rfl
  queued := by
    intro side v
    have hold := h.queued side v
    have hsorted := (h.sound.levelsOf side).sorted
    rw [place_levelsOf hplaced, List.filter_append, List.map_append, ← hold]
    by_cases hside : side = order.side
    · subst hside
      rw [if_pos rfl, queueAt_enqueue _ hsorted, Decimal.value_arrived]
      by_cases hv : order.price.value = v
      · simp [hv, Decimal.value_arrived]
      · simp [hv]
    · simp [hside, Ne.symm hside]

end Book

/-! Orders whose ids are not told -/

/-- An order without the id that it has got. -/
def Resting.anonymous (order : Resting) : Resting := { order with id := ⟨0⟩ }

def PriceLevel.anonymous (level : PriceLevel) : PriceLevel :=
  { level with queue := level.queue.map Resting.anonymous }

theorem PriceLevel.anonymous_anonymous (level : PriceLevel) :
    level.anonymous.anonymous = level.anonymous := by
  simp [PriceLevel.anonymous, Resting.anonymous, Function.comp_def]

theorem PriceLevel.report_anonymous (level : PriceLevel) :
    level.anonymous.report = level.report := by
  have hsizes : level.anonymous.queue.map (·.size) = level.queue.map (·.size) := by
    simp [PriceLevel.anonymous, Resting.anonymous, Function.comp_def]
  rw [report, report, total, total, hsizes]
  rfl

namespace Book

variable {book book' : Book} {id : Uuid}

/-- What a book has at rest, without the ids that the orders have got, and without auctions. -/
def anonymous (book : Book) : Book :=
  { book with
    bids := book.bids.map PriceLevel.anonymous
    asks := book.asks.map PriceLevel.anonymous
    index := []
    auctions := [] }

/-- Nobody can tell the ids from the depth. -/
theorem depth_anonymous (book : Book) (limit : Nat) :
    book.anonymous.depth limit = book.depth limit := by
  have hreports (levels : List PriceLevel) :
      (levels.map PriceLevel.anonymous).mapM (·.report) = levels.mapM (·.report) := by
    induction levels with
    | nil => rfl
    | cons level levels ih =>
      rw [List.map_cons, List.mapM_cons, List.mapM_cons, ih, level.report_anonymous]
  rw [depth, depth, anonymous]
  simp only [← List.map_reverse, ← List.map_take, hreports]

theorem enqueue_anonymous (price : Decimal) (order : Resting) (levels : List PriceLevel) :
    (enqueue price order levels).map PriceLevel.anonymous =
      enqueue price order.anonymous (levels.map PriceLevel.anonymous) := by
  induction levels with
  | nil => rfl
  | cons level levels ih =>
    simp only [enqueue, List.map_cons]
    change _ = if price < level.price then _ else if level.price < price then _ else _
    split
    · rfl
    · split
      · rw [List.map_cons, ih]
      · simp [PriceLevel.anonymous]

/-- Neither what a book accepts nor what comes of it depends on the ids. -/
theorem place_anonymous (book : Book) (id : Uuid) (side : Side) (price size : Decimal)
    (clientOrderId : String) :
    (book.place id side price size clientOrderId).map anonymous =
      (book.anonymous.place ⟨0⟩ side price size clientOrderId).map anonymous := by
  have hclients : book.anonymous.clientOrderIds = book.clientOrderIds := rfl
  rw [place, place, hclients]
  by_cases hprice : price.IsPositive
  · rw [if_neg (not_not_intro hprice), if_neg (not_not_intro hprice)]
    by_cases hsize : size.IsPositive
    · rw [if_neg (not_not_intro hsize), if_neg (not_not_intro hsize)]
      by_cases hid : clientOrderId ∈ book.clientOrderIds
      · rw [if_pos hid, if_pos hid]
      · rw [if_neg hid, if_neg hid]
        cases side <;>
          simp [Except.map, anonymous, enqueue_anonymous, PriceLevel.anonymous_anonymous,
            Resting.anonymous, Function.comp_def]
    · rw [if_pos hsize, if_pos hsize]
  · rw [if_pos hprice, if_pos hprice]

/-- A book with an order more, if it accepts it, that tells nothing of ids. -/
def stack (book : Book) (order : Order) : Book :=
  ((book.placed ⟨0⟩ order).toOption.getD book).anonymous

/-- The book that comes of some orders, put one after another into an empty one. -/
def stacked (orders : List Order) : Book := orders.foldl stack empty

theorem stacked_placed {orders : List Order} {order : Order} (h : book.anonymous = stacked orders)
    (hplaced : book.placed id order = .ok book') :
    book'.anonymous = stacked (orders ++ [order]) := by
  have hsame : (book.placed id order).map anonymous =
      ((stacked orders).placed ⟨0⟩ order).map anonymous := h ▸ book.place_anonymous ..
  rw [hplaced] at hsame
  rw [stacked, List.foldl_append]
  change _ = stack (stacked orders) order
  rw [stack]
  cases hstacked : (stacked orders).placed ⟨0⟩ order with
  | error e =>
    rw [hstacked] at hsame
    cases hsame
  | ok book'' =>
    rw [hstacked] at hsame
    exact Except.ok.inj hsame

end Book

end SweepAudit
