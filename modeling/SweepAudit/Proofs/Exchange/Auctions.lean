import SweepAudit.Proofs.Book.Reachable
import SweepAudit.Proofs.Exchange.Books

/-!
Auctions that are begun and aborted. A book begins an auction under an id that it does not have
if a sweep pays, and else refuses it. An auction under an id that no book has leaves nothing
behind once it is aborted.
-/

namespace SweepAudit

namespace Book

variable {book : Book} {id : String} {side : Side} {amountIn out : Decimal}

theorem beginAuction_ok (hfresh : book.auction? id = none)
    (hout : (book.amountOut side amountIn).run = .ok (.ok out)) :
    (book.beginAuction id side amountIn).run =
      .ok (.ok (out, { book with auctions := (id, ⟨side, amountIn, out⟩) :: book.auctions })) := by
  simp only [beginAuction, hfresh, Option.isSome_none, Bool.false_eq_true, if_false,
    ExceptT.run_bind, hout]
  rfl

theorem beginAuction_refused {e : BookError} (hfresh : book.auction? id = none)
    (hout : (book.amountOut side amountIn).run = .ok (.error e)) :
    (book.beginAuction id side amountIn).run = .ok (.error e) := by
  simp only [beginAuction, hfresh, Option.isSome_none, Bool.false_eq_true, if_false,
    ExceptT.run_bind, hout]
  rfl

/-- An auction that has only been begun can be taken back. -/
theorem abortAuction_begun (hfresh : book.auction? id = none) (auction : Auction) :
    abortAuction { book with auctions := (id, auction) :: book.auctions } id =
      some (auction, book) := by
  have hothers : ((id, auction) :: book.auctions).filter (fun entry => decide (entry.1 ≠ id)) =
      book.auctions := by
    rw [List.filter_cons_of_neg (by simp), List.filter_eq_self]
    intro entry hentry
    have hne := bne_iff_ne.mp (List.lookup_eq_none_iff.mp hfresh entry hentry)
    exact decide_eq_true (Ne.symm hne)
  rw [abortAuction, auction?, List.lookup_cons_self, hothers]
  rfl

end Book

namespace Exchange

variable {exchange : Exchange} {walk : Walk String} {symbol id : String}

/-- What has been begun under a new id is gone when it is aborted, and nothing else is. -/
theorem abort_begun (hfresh : ∀ s, (exchange.book s).auction? id = none) {side : Side}
    {amountIn out : Decimal} {book : Book}
    (hbegin : ((exchange.book symbol).beginAuction id side amountIn).run = .ok (.ok (out, book))) :
    (exchange.setBook symbol book).abort? walk id = some (exchange.opened symbol) := by
  obtain ⟨hnew, -, hbook⟩ := Book.beginAuction_eq_ok hbegin
  have habort : ((exchange.setBook symbol book).book symbol).abortAuction id =
      some (⟨side, amountIn, out⟩, exchange.book symbol) := by
    rw [book_setBook, if_pos rfl, hbook]
    exact Book.abortAuction_begun hnew _
  have honly (s : String) (hs : ((exchange.setBook symbol book).book s).auction? id ≠ none) :
      s = symbol := by
    rw [book_setBook] at hs
    by_contra hother
    rw [if_neg hother] at hs
    exact hs (hfresh s)
  rw [abort?, aborted?_of_only habort honly]
  exact congrArg some (setBook_setBook ..)

end Exchange

end SweepAudit
