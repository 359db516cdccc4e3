import SweepAudit.Book
import SweepAudit.Exchange.Access
import SweepAudit.Exchange.Walk

/-!
An exchange: a book for every symbol. A symbol of which nothing is known has an empty
book, and gets it for good when it is first asked for. The books are in no order, and
neither are the orders of one: what goes through them is told the way.
-/

namespace SweepAudit

structure Exchange where
  /-- The books, each with its symbol. -/
  books : List (String × Book)
  nodup : (books.map (·.1)).Nodup
  /-- What the last request with credentials has presented. -/
  lastPresented : Option Presented
  deriving DecidableEq

namespace Exchange

def empty : Exchange := ⟨[], .nil, none⟩

def symbols (exchange : Exchange) : List String := exchange.books.map (·.1)

def book (exchange : Exchange) (symbol : String) : Book :=
  (exchange.books.lookup symbol).getD .empty

def replace (symbol : String) (book : Book) : List (String × Book) → List (String × Book)
  | [] => [(symbol, book)]
  | (s, b) :: books =>
    if s = symbol then (s, book) :: books else (s, b) :: replace symbol book books

theorem mem_symbols_replace {symbol s : String} {book : Book} {books : List (String × Book)} :
    s ∈ (replace symbol book books).map (·.1) ↔ s = symbol ∨ s ∈ books.map (·.1) := by
  induction books with
  | nil => simp [replace]
  | cons entry books ih =>
    obtain ⟨t, b⟩ := entry
    rw [replace]
    by_cases ht : t = symbol
    · subst ht
      simp
    · rw [if_neg ht, List.map_cons, List.map_cons, List.mem_cons, List.mem_cons, ih]
      exact or_left_comm

/-- A symbol that has a book does not get a second one. -/
theorem nodup_replace {books : List (String × Book)} (h : (books.map (·.1)).Nodup)
    (symbol : String) (book : Book) : ((replace symbol book books).map (·.1)).Nodup := by
  induction books with
  | nil => simp [replace]
  | cons entry books ih =>
    obtain ⟨t, b⟩ := entry
    obtain ⟨hnew, hbooks⟩ := List.nodup_cons.mp h
    rw [replace]
    by_cases ht : t = symbol
    · rw [if_pos ht]
      exact List.nodup_cons.mpr ⟨hnew, hbooks⟩
    · rw [if_neg ht]
      refine List.nodup_cons.mpr ⟨fun hmem => ?_, ih hbooks⟩
      exact (mem_symbols_replace.mp hmem).elim ht hnew

def setBook (exchange : Exchange) (symbol : String) (book : Book) : Exchange :=
  { exchange with
    books := replace symbol book exchange.books
    nodup := nodup_replace exchange.nodup symbol book }

/-- The exchange once the book of a symbol has been asked for. -/
def opened (exchange : Exchange) (symbol : String) : Exchange :=
  exchange.setBook symbol (exchange.book symbol)

theorem symbols_cancelled (books : List (String × Book)) :
    (books.map fun (symbol, book) => (symbol, book.cancelAll.2)).map (·.1) = books.map (·.1) := by
  rw [List.map_map]
  rfl

/-- The exchange once all orders are cancelled. -/
def cancelled (exchange : Exchange) : Exchange :=
  { exchange with
    books := exchange.books.map fun (symbol, book) => (symbol, book.cancelAll.2)
    nodup := by rw [symbols_cancelled]; exact exchange.nodup }

/-- The ids of all orders, book by book. -/
def cancelledIds (exchange : Exchange) (books : Walk String) (orders : Walk Uuid) : List Uuid :=
  (books.order exchange.symbols).flatMap fun symbol =>
    orders.order (exchange.book symbol).cancelAll.1

/-- The first book on the way that has the auction, as it is without it, and its symbol. -/
def aborted? (exchange : Exchange) (books : Walk String) (id : String) : Option (String × Book) :=
  (books.order exchange.symbols).findSome? fun symbol =>
    ((exchange.book symbol).abortAuction id).map fun (_, book) => (symbol, book)

def abort? (exchange : Exchange) (books : Walk String) (id : String) : Option Exchange :=
  (exchange.aborted? books id).map fun (symbol, book) => exchange.setBook symbol book

theorem lookup_replace (symbol s : String) (book : Book) (books : List (String × Book)) :
    (replace symbol book books).lookup s =
      if s = symbol then some book else books.lookup s := by
  induction books with
  | nil =>
    by_cases h : s = symbol
    · simp [replace, h]
    · simp [replace, List.lookup_cons, h, beq_eq_false_iff_ne.mpr h]
  | cons entry books ih =>
    obtain ⟨t, b⟩ := entry
    by_cases ht : t = symbol
    · subst ht
      by_cases h : s = t
      · simp [replace, h]
      · simp [replace, List.lookup_cons, h, beq_eq_false_iff_ne.mpr h]
    · by_cases h : s = t
      · subst h
        simp [replace, ht]
      · simpa [replace, List.lookup_cons, ht, h, beq_eq_false_iff_ne.mpr h] using ih

/-- A book that is put in is found under its symbol, and every other book is as before. -/
theorem book_setBook (exchange : Exchange) (symbol s : String) (book : Book) :
    (exchange.setBook symbol book).book s = if s = symbol then book else exchange.book s := by
  simp only [Exchange.book, setBook, lookup_replace]
  split <;> rfl

@[simp] theorem book_opened (exchange : Exchange) (symbol s : String) :
    (exchange.opened symbol).book s = exchange.book s := by
  rw [opened, book_setBook]
  split <;> simp_all

end Exchange

end SweepAudit
