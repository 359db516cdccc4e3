import SweepAudit.Exchange.Basic

/-!
The books of an exchange, and the walks through them. Whichever way a walk goes, it gets to
every book once, and to nothing else; so what is found on it is there, and what is not found
is nowhere.
-/

namespace SweepAudit

namespace Walk

variable {α : Type} (walk : Walk α) {members : List α} {a : α}

theorem mem_order : a ∈ walk.order members ↔ a ∈ members := (walk.perm members).mem_iff

theorem order_eq_nil : walk.order members = [] ↔ members = [] := by
  rw [← List.length_eq_zero_iff, (walk.perm members).length_eq, List.length_eq_zero_iff]

end Walk

namespace Exchange

variable {exchange exchange' : Exchange} {walk : Walk String} {orders : Walk Uuid}
  {symbol id : String} {book : Book}

theorem book_of_not_mem (h : symbol ∉ exchange.symbols) : exchange.book symbol = .empty := by
  have hnone : exchange.books.lookup symbol = none := by
    rw [List.lookup_eq_none_iff]
    intro entry hentry
    rw [bne_iff_ne]
    rintro rfl
    exact h (List.mem_map_of_mem hentry)
  rw [Exchange.book, hnone, Option.getD_none]

theorem mem_symbols (h : exchange.book symbol ≠ .empty) : symbol ∈ exchange.symbols :=
  Decidable.byContradiction fun hnot => h (book_of_not_mem hnot)

theorem setBook_setBook (exchange : Exchange) (symbol : String) (b b' : Book) :
    (exchange.setBook symbol b).setBook symbol b' = exchange.setBook symbol b' := by
  have hbooks (books : List (String × Book)) :
      replace symbol b' (replace symbol b books) = replace symbol b' books := by
    induction books with
    | nil => simp [replace]
    | cons entry books ih =>
      obtain ⟨s, book⟩ := entry
      by_cases hs : s = symbol
      · simp [replace, hs]
      · simp [replace, hs, ih]
  simp only [setBook, hbooks]

/-! Auctions that are aborted -/

/-- One book is changed, and has had the auction. -/
theorem aborted?_eq_some (h : exchange.aborted? walk id = some (symbol, book)) :
    ∃ auction, (exchange.book symbol).abortAuction id = some (auction, book) := by
  obtain ⟨s, -, hs⟩ := List.exists_of_findSome?_eq_some h
  obtain ⟨⟨auction, book'⟩, hbook, heq⟩ := Option.map_eq_some_iff.mp hs
  cases heq
  exact ⟨auction, hbook⟩

theorem aborted?_eq_none_iff :
    exchange.aborted? walk id = none ↔ ∀ s, (exchange.book s).auction? id = none := by
  rw [aborted?, List.findSome?_eq_none_iff]
  simp only [Option.map_eq_none_iff, Book.abortAuction, walk.mem_order]
  refine ⟨fun h s => ?_, fun h s _ => h s⟩
  by_cases hs : s ∈ exchange.symbols
  · exact h s hs
  · rw [book_of_not_mem hs]
    rfl

theorem abort?_eq_some (h : exchange.abort? walk id = some exchange') :
    ∃ symbol auction book, (exchange.book symbol).abortAuction id = some (auction, book) ∧
      exchange' = exchange.setBook symbol book := by
  obtain ⟨⟨symbol, book⟩, haborted, rfl⟩ := Option.map_eq_some_iff.mp h
  obtain ⟨auction, hbook⟩ := aborted?_eq_some haborted
  exact ⟨symbol, auction, book, hbook, rfl⟩

/-- Where one book only has the auction, that one is found on every way. -/
theorem aborted?_of_only {auction : Auction}
    (h : (exchange.book symbol).abortAuction id = some (auction, book))
    (honly : ∀ s, (exchange.book s).auction? id ≠ none → s = symbol) :
    exchange.aborted? walk id = some (symbol, book) := by
  cases haborted : exchange.aborted? walk id with
  | none =>
    have hnone := aborted?_eq_none_iff.mp haborted symbol
    rw [Book.abortAuction, hnone] at h
    cases h
  | some found =>
    obtain ⟨s, b⟩ := found
    obtain ⟨auction', hfound⟩ := aborted?_eq_some haborted
    have hs : s = symbol := by
      apply honly
      intro hnone
      rw [Book.abortAuction, hnone] at hfound
      cases hfound
    subst hs
    rw [h] at hfound
    cases hfound
    rfl

/-! Orders that are cancelled -/

theorem lookup_cancelled (books : List (String × Book)) (symbol : String) :
    (books.map fun (symbol, book) => (symbol, book.cancelAll.2)).lookup symbol =
      (books.lookup symbol).map fun book => book.cancelAll.2 := by
  induction books with
  | nil => rfl
  | cons entry books ih =>
    obtain ⟨s, book⟩ := entry
    simp only [List.map_cons, List.lookup_cons]
    cases symbol == s with
    | true => rfl
    | false => exact ih

/-- When all orders are cancelled every book has its auctions and nothing else. -/
theorem book_cancelled (exchange : Exchange) (symbol : String) :
    exchange.cancelled.book symbol =
      { Book.empty with auctions := (exchange.book symbol).auctions } := by
  rw [Exchange.book, Exchange.book, cancelled, lookup_cancelled]
  cases exchange.books.lookup symbol with
  | none => rfl
  | some book => rfl

theorem cancelledIds_eq_nil_iff :
    exchange.cancelledIds walk orders = [] ↔ ∀ s, (exchange.book s).index = [] := by
  rw [cancelledIds, List.flatMap_eq_nil_iff]
  simp only [orders.order_eq_nil, walk.mem_order, Book.cancelAll, List.map_eq_nil_iff]
  refine ⟨fun h s => ?_, fun h s _ => h s⟩
  by_cases hs : s ∈ exchange.symbols
  · exact h s hs
  · rw [book_of_not_mem hs]
    rfl

end Exchange

end SweepAudit
