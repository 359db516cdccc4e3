import SweepAudit.Proofs.Book.Reachable

/-!
What a book keeps on record beside its levels: an index of the orders by their ids, and the
ids that clients have given them. As long as no two orders get the same id, both tell of
exactly the orders that rest, and the index finds the level of each.
-/

namespace SweepAudit

open scoped List

namespace Book

/-- The orders at rest in levels. -/
def queues (levels : List PriceLevel) : List Resting := levels.flatMap (·.queue)

def queued (book : Book) : List Resting := queues book.bids ++ queues book.asks

/-- The index and the client order ids tell exactly what rests in the levels. Prices are compared
by value, for a level keeps the price with which it was opened. -/
structure Recorded (book : Book) : Prop where
  ids_perm : (book.index.map (·.1)).Perm (book.queued.map (·.id))
  ids_nodup : (book.queued.map (·.id)).Nodup
  filed : ∀ entry ∈ book.index, ∃ level ∈ book.levelsOf entry.2.1,
    level.price.value = entry.2.2.value ∧ ∃ order ∈ level.queue, order.id = entry.1
  clients_perm : book.clientOrderIds.Perm (book.queued.map (·.clientOrderId))
  clients_nodup : (book.queued.map (·.clientOrderId)).Nodup

/-- The book after some actions. -/
def run (book : Book) (actions : List BookAction) : Book := actions.foldl after book

/-- The id that an action uses up, which only an order does that is put to rest. -/
def issued (book : Book) : BookAction → List Uuid
  | .place id side price size clientOrderId =>
    match book.place id side price size clientOrderId with
    | .ok _ => [id]
    | .error _ => []
  | _ => []

/-- The ids that orders have got in the course of some actions. -/
def issuedBy (book : Book) : List BookAction → List Uuid
  | [] => []
  | action :: actions => book.issued action ++ (book.after action).issuedBy actions

theorem Reachable.run {book : Book} (h : book.Reachable) (actions : List BookAction) :
    (book.run actions).Reachable := by
  induction actions generalizing book with
  | nil => exact h
  | cons action actions ih => exact ih (h.after action)

/-! One more order in the levels of a side -/

variable {price size : Decimal} {order : Resting} {levels : List PriceLevel} {level : PriceLevel}

theorem queues_enqueue (price : Decimal) (order : Resting) (levels : List PriceLevel) :
    (queues (enqueue price order levels)).Perm (order :: queues levels) := by
  induction levels with
  | nil => exact List.Perm.refl _
  | cons level levels ih =>
    simp only [enqueue]
    split
    · exact List.Perm.refl _
    · split
      · calc queues (level :: enqueue price order levels)
          _ = level.queue ++ queues (enqueue price order levels) := rfl
          _ ~ level.queue ++ (order :: queues levels) := ih.append_left _
          _ ~ order :: (level.queue ++ queues levels) := List.perm_middle
      · calc (level.queue ++ [order]) ++ queues levels
          _ = level.queue ++ (order :: queues levels) := List.append_assoc ..
          _ ~ order :: (level.queue ++ queues levels) := List.perm_middle

theorem exists_level_enqueue (price : Decimal) (order : Resting) (levels : List PriceLevel) :
    ∃ level ∈ enqueue price order levels, level.price.value = price.value ∧
      order ∈ level.queue := by
  induction levels with
  | nil => exact ⟨_, List.mem_singleton_self _, rfl, List.mem_singleton_self _⟩
  | cons level levels ih =>
    simp only [enqueue]
    split
    · exact ⟨_, List.mem_cons_self, rfl, List.mem_singleton_self _⟩
    · rename_i hbelow
      split
      · obtain ⟨found, hmem, hfound⟩ := ih
        exact ⟨found, List.mem_cons_of_mem _ hmem, hfound⟩
      · rename_i habove
        rw [Decimal.lt_iff] at hbelow habove
        exact ⟨_, List.mem_cons_self, le_antisymm (not_lt.mp hbelow) (not_lt.mp habove),
          List.mem_append_right _ (List.mem_singleton_self _)⟩

/-- A level that is there stays, with its price and all its orders. -/
theorem level_kept_enqueue (h : level ∈ levels) :
    ∃ level' ∈ enqueue price order levels, level'.price = level.price ∧
      level.queue ⊆ level'.queue := by
  induction levels with
  | nil => exact absurd h List.not_mem_nil
  | cons first levels ih =>
    simp only [enqueue]
    split
    · exact ⟨level, List.mem_cons_of_mem _ h, rfl, List.Subset.refl _⟩
    · split
      · rcases List.mem_cons.mp h with rfl | h
        · exact ⟨level, List.mem_cons_self, rfl, List.Subset.refl _⟩
        · obtain ⟨level', hmem, hkept⟩ := ih h
          exact ⟨level', List.mem_cons_of_mem _ hmem, hkept⟩
      · rcases List.mem_cons.mp h with rfl | h
        · exact ⟨_, List.mem_cons_self, rfl, List.subset_append_left _ _⟩
        · exact ⟨level, List.mem_cons_of_mem _ h, rfl, List.Subset.refl _⟩

/-! One more order in a book -/

variable {book book' : Book} {id : Uuid} {side : Side} {clientOrderId : String}

theorem place_index (h : book.place id side price size clientOrderId = .ok book') :
    book'.index = file id side price book.index := by
  rw [place] at h
  split at h
  · cases h
  · split at h
    · cases h
    · split at h
      · cases h
      · cases side <;> cases h <;> rfl

theorem place_levelsOf (h : book.place id side price size clientOrderId = .ok book')
    (other : Side) :
    book'.levelsOf other =
      if other = side then enqueue price ⟨id, clientOrderId, size⟩ (book.levelsOf other)
      else book.levelsOf other := by
  obtain ⟨-, -, -, -, -, hbids, hasks⟩ := place_eq_ok h
  cases side <;> cases other <;> simp_all [levelsOf]

theorem place_queued (h : book.place id side price size clientOrderId = .ok book') :
    book'.queued.Perm (⟨id, clientOrderId, size⟩ :: book.queued) := by
  obtain ⟨-, -, -, -, -, hbids, hasks⟩ := place_eq_ok h
  rw [queued, queued, hbids, hasks]
  cases side with
  | buy => exact (queues_enqueue ..).append_right _
  | sell =>
    calc queues book.bids ++ queues (enqueue price ⟨id, clientOrderId, size⟩ book.asks)
      _ ~ queues book.bids ++ (⟨id, clientOrderId, size⟩ :: queues book.asks) :=
        (queues_enqueue ..).append_left _
      _ ~ ⟨id, clientOrderId, size⟩ :: (queues book.bids ++ queues book.asks) :=
        List.perm_middle

/-- A new id is filed behind the others. -/
theorem file_fresh {index : List (Uuid × Side × Decimal)} (h : id ∉ index.map (·.1)) :
    file id side price index = index ++ [(id, side, price)] := by
  rw [file, List.filter_eq_self.mpr]
  intro entry hmem
  rw [decide_eq_true_eq]
  rintro rfl
  exact h (List.mem_map_of_mem hmem)

theorem Recorded.place (h : book.Recorded) (hid : id ∉ book.queued.map (·.id))
    (hplace : book.place id side price size clientOrderId = .ok book') : book'.Recorded := by
  obtain ⟨-, -, hclient, hclients, -, -, -⟩ := place_eq_ok hplace
  have hqueued := place_queued hplace
  have hindex : book'.index = book.index ++ [(id, side, price)] := by
    rw [place_index hplace, file_fresh]
    exact fun hmem => hid (h.ids_perm.mem_iff.mp hmem)
  have hids : (book'.queued.map (·.id)).Perm (id :: book.queued.map (·.id)) :=
    hqueued.map (·.id)
  have hclientIds : (book'.queued.map (·.clientOrderId)).Perm
      (clientOrderId :: book.queued.map (·.clientOrderId)) := hqueued.map (·.clientOrderId)
  refine ⟨?_, ?_, ?_, ?_, ?_⟩
  · rw [hindex, List.map_append]
    exact ((List.perm_append_singleton id _).trans (h.ids_perm.cons id)).trans hids.symm
  · exact hids.nodup_iff.mpr (List.nodup_cons.mpr ⟨hid, h.ids_nodup⟩)
  · intro entry hentry
    rw [hindex, List.mem_append, List.mem_singleton] at hentry
    rw [place_levelsOf hplace]
    rcases hentry with hold | rfl
    · obtain ⟨level, hlevel, hprice, found, hfound, hfoundId⟩ := h.filed entry hold
      split
      · obtain ⟨level', hlevel', hprice', hsub⟩ := level_kept_enqueue hlevel
        exact ⟨level', hlevel', by rw [hprice', hprice], found, hsub hfound, hfoundId⟩
      · exact ⟨level, hlevel, hprice, found, hfound, hfoundId⟩
    · rw [if_pos rfl]
      obtain ⟨level, hlevel, hprice, hmem⟩ :=
        exists_level_enqueue price ⟨id, clientOrderId, size⟩ (book.levelsOf side)
      exact ⟨level, hlevel, hprice, _, hmem, rfl⟩
  · rw [hclients]
    exact (h.clients_perm.cons clientOrderId).trans hclientIds.symm
  · refine hclientIds.nodup_iff.mpr (List.nodup_cons.mpr ⟨?_, h.clients_nodup⟩)
    exact fun hmem => hclient (h.clients_perm.mem_iff.mpr hmem)

/-! Every action -/

theorem recorded_empty (auctions : List (String × Auction)) :
    Recorded { empty with auctions } :=
  ⟨List.Perm.refl _, List.nodup_nil, fun _ h => absurd h List.not_mem_nil, List.Perm.refl _,
    List.nodup_nil⟩

theorem issued_place (h : book.place id side price size clientOrderId = .ok book') :
    book.issued (.place id side price size clientOrderId) = [id] := by
  rw [issued, h]

/-- An action leaves no order in a book that was not there before or has got its id from it. -/
theorem queued_after (book : Book) (action : BookAction) :
    (book.after action).queued.map (·.id) ⊆ book.issued action ++ book.queued.map (·.id) := by
  cases action with
  | place id side price size clientOrderId =>
    cases hplace : book.place id side price size clientOrderId with
    | error e =>
      rw [after, hplace]
      exact List.subset_append_right _ _
    | ok book' =>
      rw [after, issued_place hplace, hplace]
      exact ((place_queued hplace).map (·.id)).subset
  | cancelAll => exact List.nil_subset _
  | beginAuction id side amountIn =>
    simp only [after]
    split
    · rename_i hbegin
      rw [(beginAuction_eq_ok hbegin).2.2]
      exact List.subset_append_right _ _
    · exact List.subset_append_right _ _
  | abortAuction id =>
    simp only [after, abortAuction]
    cases book.auction? id <;> exact List.subset_append_right _ _

theorem Recorded.after (h : book.Recorded) (action : BookAction)
    (hnew : ∀ id ∈ book.issued action, id ∉ book.queued.map (·.id)) :
    (book.after action).Recorded := by
  cases action with
  | place id side price size clientOrderId =>
    cases hplace : book.place id side price size clientOrderId with
    | error e =>
      rw [Book.after, hplace]
      exact h
    | ok book' =>
      have hid := hnew id (by rw [issued_place hplace]; exact List.mem_singleton_self id)
      rw [Book.after, hplace]
      exact h.place hid hplace
  | cancelAll => exact recorded_empty book.auctions
  | beginAuction id side amountIn =>
    simp only [Book.after]
    split
    · rename_i hbegin
      rw [(beginAuction_eq_ok hbegin).2.2]
      exact ⟨h.ids_perm, h.ids_nodup, h.filed, h.clients_perm, h.clients_nodup⟩
    · exact h
  | abortAuction id =>
    simp only [Book.after, abortAuction]
    cases book.auction? id with
    | none => exact h
    | some auction => exact ⟨h.ids_perm, h.ids_nodup, h.filed, h.clients_perm, h.clients_nodup⟩

/-- The ids of the orders at rest are among those that have been given away, so a new id is not
one of them. -/
theorem Recorded.run (h : book.Recorded) {actions : List BookAction}
    (hnew : ∀ id ∈ book.issuedBy actions, id ∉ book.queued.map (·.id))
    (hnodup : (book.issuedBy actions).Nodup) : (book.run actions).Recorded := by
  induction actions generalizing book with
  | nil => exact h
  | cons action actions ih =>
    rw [issuedBy] at hnew hnodup
    obtain ⟨-, hlater, hapart⟩ := List.nodup_append.mp hnodup
    refine ih (h.after action fun id hid => hnew id (List.mem_append_left _ hid)) ?_ hlater
    intro id hid hqueued
    rcases List.mem_append.mp (queued_after book action hqueued) with hissued | hold
    · exact hapart id hissued id hid rfl
    · exact hnew id (List.mem_append_right _ hid) hold

/-! What follows from the records -/

theorem place_duplicate_iff {other : String} :
    book.place id side price size clientOrderId = .error (.duplicateClientOrderId other) ↔
      other = clientOrderId ∧ price.IsPositive ∧ size.IsPositive ∧
        clientOrderId ∈ book.clientOrderIds := by
  rw [place]
  split
  · simp_all
  · split
    · simp_all
    · split
      · simp_all [eq_comm]
      · cases side <;> simp_all

/-- The levels of a book are sound, its records agree with them, and what is told from the records
alone is true of the orders at rest. -/
structure Consistent (book : Book) : Prop where
  levels : book.Sound
  records : book.Recorded
  counted : book.orderCount = book.queued.length
  duplicate_iff : ∀ id side price size clientOrderId other,
    book.place id side price size clientOrderId = .error (.duplicateClientOrderId other) ↔
      other = clientOrderId ∧ price.IsPositive ∧ size.IsPositive ∧
        ∃ order ∈ book.queued, order.clientOrderId = clientOrderId
  cancels : book.cancelAll.1.Nodup ∧
    ∀ id, id ∈ book.cancelAll.1 ↔ ∃ order ∈ book.queued, order.id = id
  frees : ∀ id side price size clientOrderId other,
    book.cancelAll.2.place id side price size clientOrderId ≠
      .error (.duplicateClientOrderId other)

/-- After any actions a book is consistent if no two orders have got the same id. -/
theorem consistent_run (actions : List BookAction) (distinct : (empty.issuedBy actions).Nodup) :
    (empty.run actions).Consistent := by
  have hsound : (empty.run actions).Sound := (Reachable.empty.run actions).sound
  have hrecorded : (empty.run actions).Recorded :=
    (recorded_empty []).run (fun _ _ => List.not_mem_nil) distinct
  refine ⟨hsound, hrecorded, ?_, ?_, ⟨?_, ?_⟩, ?_⟩
  · simpa [orderCount] using hrecorded.ids_perm.length_eq
  · intro id side price size clientOrderId other
    rw [place_duplicate_iff, hrecorded.clients_perm.mem_iff, List.mem_map]
  · exact hrecorded.ids_perm.nodup_iff.mpr hrecorded.ids_nodup
  · intro id
    exact hrecorded.ids_perm.mem_iff.trans List.mem_map
  · intro id side price size clientOrderId other hplace
    obtain ⟨-, -, -, hmem⟩ := place_duplicate_iff.mp hplace
    exact List.not_mem_nil hmem

/-- Two asks that share a level at the prices 1.0 and 1.00, one that is refused for its client
order id and so leaves its id to the next, and a bid that replaces them all. -/
def busyDay : List BookAction :=
  [.place ⟨1⟩ .sell ⟨false, 10, 1, Decimal.ten.coefficient_lt, by decide⟩ .one "a",
    .place ⟨2⟩ .sell ⟨false, 100, 2, by decide, by decide⟩ .ten "b",
    .place ⟨3⟩ .sell .ten .one "a", .place ⟨3⟩ .sell .ten .one "c", .abortAuction "x", .cancelAll,
    .place ⟨4⟩ .buy .ten .one "a"]

theorem consistent_run_busyDay :
    (empty.issuedBy busyDay).Nodup ∧ (empty.run busyDay).Consistent :=
  ⟨by decide, consistent_run busyDay (by decide)⟩

end Book

end SweepAudit
