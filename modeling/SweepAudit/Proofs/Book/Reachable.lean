import SweepAudit.Book
import SweepAudit.Proofs.Decimal.Value

/-!
What every book is like that comes from the empty one: its levels ascend, none is empty,
and all prices and sizes are positive. Refused orders and auctions leave a book as it is,
so the invariant is about `place` and `cancelAll` alone.
-/

namespace SweepAudit

/-- What can be done to a book. -/
inductive BookAction where
  | place (id : Uuid) (side : Side) (price size : Decimal) (clientOrderId : String)
  | cancelAll
  | beginAuction (id : String) (side : Side) (amountIn : Decimal)
  | abortAuction (id : String)

structure PriceLevel.Sound (level : PriceLevel) : Prop where
  price_pos : level.price.IsPositive
  queue_ne_nil : level.queue ≠ []
  size_pos : ∀ order ∈ level.queue, order.size.IsPositive

/-- Sound levels in the order of their prices, of which no two are equal in value. -/
structure Ascending (levels : List PriceLevel) : Prop where
  sorted : levels.Pairwise fun l m => l.price.value < m.price.value
  sound : ∀ level ∈ levels, level.Sound

namespace Book

/-- The levels in which the orders of a side rest. -/
def levelsOf (book : Book) : Side → List PriceLevel
  | .buy => book.bids
  | .sell => book.asks

/-- The book after an action, which is as before if the action is refused or overflows. -/
def after (book : Book) : BookAction → Book
  | .place id side price size clientOrderId =>
    ((book.place id side price size clientOrderId).toOption).getD book
  | .cancelAll => book.cancelAll.2
  | .beginAuction id side amountIn =>
    match (book.beginAuction id side amountIn).run with
    | .ok (.ok (_, book')) => book'
    | _ => book
  | .abortAuction id => ((book.abortAuction id).map (·.2)).getD book

/-- The books that come from the empty one. -/
inductive Reachable : Book → Prop where
  | empty : Reachable empty
  | after {book : Book} (h : Reachable book) (action : BookAction) : Reachable (book.after action)

structure Sound (book : Book) : Prop where
  bids : Ascending book.bids
  asks : Ascending book.asks

theorem ascending_nil : Ascending [] := ⟨List.Pairwise.nil, fun _ h => nomatch h⟩

theorem price_of_mem_enqueue {price : Decimal} {order : Resting} {levels : List PriceLevel}
    {level : PriceLevel} (h : level ∈ enqueue price order levels) :
    level.price = price ∨ ∃ m ∈ levels, level.price = m.price := by
  induction levels with
  | nil =>
    simp only [enqueue, List.mem_singleton] at h
    exact .inl (by rw [h])
  | cons m levels ih =>
    simp only [enqueue] at h
    split at h
    · rcases List.mem_cons.mp h with rfl | h
      · exact .inl rfl
      · exact .inr ⟨level, h, rfl⟩
    · split at h
      · rcases List.mem_cons.mp h with rfl | h
        · exact .inr ⟨level, List.mem_cons_self, rfl⟩
        · rcases ih h with h | ⟨k, hk, h⟩
          · exact .inl h
          · exact .inr ⟨k, List.mem_cons_of_mem _ hk, h⟩
      · rcases List.mem_cons.mp h with rfl | h
        · exact .inr ⟨m, List.mem_cons_self, rfl⟩
        · exact .inr ⟨level, List.mem_cons_of_mem _ h, rfl⟩

theorem sound_of_mem_enqueue {price : Decimal} {order : Resting} {levels : List PriceLevel}
    (hp : price.IsPositive) (hs : order.size.IsPositive)
    (hsound : ∀ level ∈ levels, level.Sound) :
    ∀ level ∈ enqueue price order levels, level.Sound := by
  have single : PriceLevel.Sound ⟨price, [order]⟩ :=
    ⟨hp, List.cons_ne_nil _ _, by simpa using hs⟩
  induction levels with
  | nil => simpa [enqueue] using single
  | cons m levels ih =>
    have hm := hsound m List.mem_cons_self
    have hlevels := fun level h => hsound level (List.mem_cons_of_mem m h)
    simp only [enqueue]
    split
    · exact List.forall_mem_cons.mpr ⟨single, hsound⟩
    · split
      · exact List.forall_mem_cons.mpr ⟨hm, ih hlevels⟩
      · refine List.forall_mem_cons.mpr ⟨⟨hm.price_pos, by simp, ?_⟩, hlevels⟩
        intro o ho
        rcases List.mem_append.mp ho with ho | ho
        · exact hm.size_pos o ho
        · rw [List.mem_singleton.mp ho]
          exact hs

theorem ascending_enqueue {price : Decimal} {order : Resting} {levels : List PriceLevel}
    (hp : price.IsPositive) (hs : order.size.IsPositive) (h : Ascending levels) :
    Ascending (enqueue price order levels) := by
  refine ⟨?_, sound_of_mem_enqueue hp hs h.sound⟩
  have hsorted := h.sorted
  clear h
  induction levels with
  | nil => exact List.pairwise_singleton _ _
  | cons m levels ih =>
    have hm := List.pairwise_cons.mp hsorted
    simp only [enqueue]
    split
    · rename_i hlt
      have hlt := Decimal.lt_iff.mp hlt
      refine List.pairwise_cons.mpr ⟨?_, hsorted⟩
      intro l hl
      rcases List.mem_cons.mp hl with rfl | hl
      · exact hlt
      · exact hlt.trans (hm.1 l hl)
    · split
      · rename_i hgt
        refine List.pairwise_cons.mpr ⟨?_, ih hm.2⟩
        intro l hl
        rcases price_of_mem_enqueue hl with h | ⟨k, hk, h⟩
        · rw [h]
          exact Decimal.lt_iff.mp hgt
        · rw [h]
          exact hm.1 k hk
      · exact List.pairwise_cons.mpr hm

/-- An order that is put to rest is sound, and it is filed at its price on its side. -/
theorem place_eq_ok {book book' : Book} {id : Uuid} {side : Side} {price size : Decimal}
    {clientOrderId : String} (h : book.place id side price size clientOrderId = .ok book') :
    price.IsPositive ∧ size.IsPositive ∧ clientOrderId ∉ book.clientOrderIds ∧
      book'.clientOrderIds = clientOrderId :: book.clientOrderIds ∧
      book'.auctions = book.auctions ∧
      book'.bids = (if side = .buy then enqueue price ⟨id, clientOrderId, size⟩ book.bids
        else book.bids) ∧
      book'.asks = (if side = .sell then enqueue price ⟨id, clientOrderId, size⟩ book.asks
        else book.asks) := by
  rw [place] at h
  split at h
  · cases h
  · rename_i hp
    split at h
    · cases h
    · rename_i hs
      split at h
      · cases h
      · rename_i hid
        cases side <;> cases h <;> simp_all

theorem sound_place {book book' : Book} {id : Uuid} {side : Side} {price size : Decimal}
    {clientOrderId : String} (hbook : book.Sound)
    (h : book.place id side price size clientOrderId = .ok book') : book'.Sound := by
  obtain ⟨hp, hs, -, -, -, hbids, hasks⟩ := place_eq_ok h
  constructor
  · rw [hbids]
    split
    · exact ascending_enqueue hp hs hbook.bids
    · exact hbook.bids
  · rw [hasks]
    split
    · exact ascending_enqueue hp hs hbook.asks
    · exact hbook.asks

/-- Beginning an auction changes nothing but the auctions. -/
theorem beginAuction_eq_ok {book book' : Book} {id : String} {side : Side}
    {amountIn out : Decimal}
    (h : (book.beginAuction id side amountIn).run = .ok (.ok (out, book'))) :
    book.auction? id = none ∧ (book.amountOut side amountIn).run = .ok (.ok out) ∧
      book' = { book with auctions := (id, ⟨side, amountIn, out⟩) :: book.auctions } := by
  rw [beginAuction] at h
  cases hid : book.auction? id with
  | some auction =>
    simp [hid] at h
    cases h
  | none =>
    cases hout : (book.amountOut side amountIn).run with
    | error o => simp [hid, hout] at h
    | ok result =>
      cases result with
      | error e =>
        simp [hid, hout] at h
        cases h
      | ok x =>
        simp [hid, hout] at h
        cases h
        exact ⟨rfl, rfl, rfl⟩

theorem sound_after {book : Book} (h : book.Sound) (action : BookAction) :
    (book.after action).Sound := by
  cases action with
  | place id side price size clientOrderId =>
    simp only [after]
    cases hplace : book.place id side price size clientOrderId with
    | error e => exact h
    | ok book' => exact sound_place h hplace
  | cancelAll => exact ⟨ascending_nil, ascending_nil⟩
  | beginAuction id side amountIn =>
    simp only [after]
    split
    · rename_i hbegin
      rw [(beginAuction_eq_ok hbegin).2.2]
      exact ⟨h.bids, h.asks⟩
    · exact h
  | abortAuction id =>
    simp only [after, abortAuction]
    cases book.auction? id with
    | none => exact h
    | some auction => exact ⟨h.bids, h.asks⟩

theorem Reachable.sound {book : Book} (h : book.Reachable) : book.Sound := by
  induction h with
  | empty => exact ⟨ascending_nil, ascending_nil⟩
  | after _ action ih => exact sound_after ih action

end Book

end SweepAudit
