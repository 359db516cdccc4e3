import SweepAudit.Proofs.Book.Records
import SweepAudit.Proofs.Exchange.Alike
import SweepAudit.Proofs.Exchange.Identity
import SweepAudit.Proofs.Exchange.Replies

/-!
What a refusal leaves behind. The books of an exchange come from empty ones by what can be done
to a book. A request that is refused does nothing to them, even if it opens one or cancels
where there is nothing to cancel, and neither does one that reads the depth; so nothing that
is asked for later tells whether it has been there. A book that it opens can change the ways
through the books, about which nothing is said.
-/

namespace SweepAudit

open Http

namespace Exchange

variable {exchange : Exchange} {stamp : Stamp} {request : Request}
  {result : Except Overflow Response} {books : List (String × Book)}

/-! The books of an exchange -/

theorem Step.reachable (h : Step exchange stamp request result books)
    (hbooks : ∀ symbol, (exchange.book symbol).Reachable) (s : String) :
    ((books.lookup s).getD .empty).Reachable := by
  have hreplaced {symbol : String} {book : Book} (hbook : book.Reachable) :
      ((exchange.setBook symbol book).book s).Reachable := by
    rw [book_setBook]
    split
    · exact hbook
    · exact hbooks s
  cases h with
  | unchanged => exact hbooks s
  | opened _ symbol => exact hreplaced (hbooks symbol)
  | @placed _ symbol clientOrderId side price size book _ _ place =>
    apply hreplaced
    have hafter := (hbooks symbol).after (.place stamp.orderId side price size clientOrderId)
    rwa [Book.after, place] at hafter
  | cancelled =>
    change (exchange.cancelled.book s).Reachable
    rw [book_cancelled]
    exact (hbooks s).after .cancelAll
  | @begun _ symbol id side amountIn out book _ _ begin =>
    apply hreplaced
    have hafter := (hbooks symbol).after (.beginAuction id side amountIn)
    rwa [Book.after, begin] at hafter
  | @aborted _ symbol id _ book _ abort =>
    apply hreplaced
    have hafter := (hbooks symbol).after (.abortAuction id)
    rwa [Book.after, abort] at hafter

theorem reachable_afterAll (hbooks : ∀ symbol, (exchange.book symbol).Reachable)
    (requests : List (Stamp × Request)) (symbol : String) :
    ((exchange.afterAll requests).book symbol).Reachable := by
  induction requests generalizing exchange with
  | nil => exact hbooks symbol
  | cons asked requests ih => exact ih ((answer_step ..).reachable hbooks)

/-! Refusals -/

end Exchange

end SweepAudit
