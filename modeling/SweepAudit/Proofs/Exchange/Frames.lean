import SweepAudit.Proofs.Exchange.Auctions
import SweepAudit.Proofs.Exchange.Replies

/-!
What requests leave alone. A request that only gets something leaves every book as it is, and
one that acts on the book of a symbol every other book. An auction under a new id that is begun
and aborted has changed nothing, whatever else there is.
-/

namespace SweepAudit

open Http

namespace Exchange

variable {exchange : Exchange} {stamp : Stamp} {request : Request}
  {result : Except Overflow Response} {books : List (String × Book)} {symbol id : String}

theorem Step.of_get (h : Step exchange stamp request result books)
    (hget : request.method = .get) (s : String) :
    (books.lookup s).getD .empty = exchange.book s := by
  have hother {resource : Resource} (hcalls : Calls request resource)
      (hresource : resource.allows .get = false) : False := by
    have hallowed := hcalls.allowed
    rw [hget, hresource] at hallowed
    cases hallowed
  cases h with
  | unchanged => rfl
  | opened _ symbol => exact book_opened exchange symbol s
  | placed calls => exact (hother calls rfl).elim
  | cancelled calls => exact (hother calls rfl).elim
  | begun begins =>
    obtain ⟨segment, _, calls, -⟩ := begins
    exact (hother calls rfl).elim
  | aborted aborts =>
    obtain ⟨segment, calls, -⟩ := aborts
    exact (hother calls rfl).elim

/-- A request to a resource can act on no book but that of the symbol. -/
def ActsOn (request : Request) (symbol : String) : Resource → Prop
  | .order => ∀ body, readBody Wire.decodeOrderBody request = .ok body → body.symbol = symbol
  | .beginAuction _ =>
    ∀ body, readBody Wire.decodeAuctionBody request = .ok body → body.symbol = symbol
  | .depth _ => True
  | .orders | .abortAuction _ => False

theorem Step.elsewhere (h : Step exchange stamp request result books) {resource : Resource}
    (hleads : Resource.ofTarget? (Target.ofText request.target) = some resource)
    (hacts : ActsOn request symbol resource) {s : String} (hs : s ≠ symbol) :
    (books.lookup s).getD .empty = exchange.book s := by
  have hsame {other : Resource} (hcalls : Calls request other) : resource = other :=
    Option.some.inj (hleads.symm.trans hcalls.leads)
  cases h with
  | unchanged => rfl
  | opened _ symbol => exact book_opened exchange symbol s
  | placed calls orders =>
    obtain rfl := hsame calls
    obtain ⟨body, hbody, rfl, -⟩ := orders
    obtain rfl := hacts body hbody
    exact (book_setBook exchange ..).trans (if_neg hs)
  | cancelled calls =>
    obtain rfl := hsame calls
    exact hacts.elim
  | begun begins =>
    obtain ⟨segment, body, calls, -, hbody, rfl⟩ := begins
    obtain rfl := hsame calls
    obtain rfl := hacts body hbody
    exact (book_setBook exchange ..).trans (if_neg hs)
  | aborted aborts =>
    obtain ⟨segment, calls, -⟩ := aborts
    obtain rfl := hsame calls
    exact hacts.elim

/-! Auctions that come and go -/

/-- A request to begin an auction is answered by a refusal and changes nothing, or by what the
auction pays out. -/
theorem answer_begins {segment : List Char}
    (hleads : Resource.ofTarget? (Target.ofText request.target) = some (.beginAuction segment))
    (hpost : request.method = .post) :
    (∀ s, (exchange.answer stamp request).2.book s = exchange.book s) ∧
      (∀ response, (exchange.answer stamp request).1 = .ok response →
        isErrorStatus response.status = true) ∨
    ∃ presented id symbol side amountIn out book,
      Presented.ofHeaders request.headers = .ok presented ∧
      readParameter auctionParameter segment = .ok id ∧
      ((exchange.book symbol).beginAuction id side amountIn).run = .ok (.ok (out, book)) ∧
      exchange.answer stamp request =
        (.ok (.json 200 (Wire.encodeAuctionReply ⟨id, out.canonical⟩)),
          (exchange.remember presented).setBook symbol book) := by
  cases haccess : Presented.ofHeaders request.headers with
  | error e =>
    left
    rw [answer, haccess]
    refine ⟨fun _ => rfl, ?_⟩
    rintro response ⟨⟩
    have hstatus : (if wantsHead request then (refuseAccess request e).withoutBody
        else refuseAccess request e).status = 401 := by
      split <;> exact status_refuseAccess request e
    rw [hstatus]
    rfl
  | ok presented =>
    rw [@answer_admitted exchange stamp _ _ haccess (by rw [hpost]; decide) _ hleads
      (by rw [hpost]; rfl)]
    have hsettled := settled_serve (exchange.remember presented) stamp request
      (Target.ofText request.target) (.beginAuction segment)
    cases hserve : ((exchange.remember presented).serve stamp request
        (Target.ofText request.target) (.beginAuction segment)).run with
    | error o => exact .inl ⟨fun _ => rfl, fun _ h => by cases h⟩
    | ok handled =>
      rw [hserve] at hsettled
      rcases handled with response | ⟨response, exchange'⟩
      · cases hsettled with
        | refused status =>
          refine .inl ⟨fun _ => rfl, ?_⟩
          rintro _ ⟨⟩
          exact (of_isRefusal status).1
      · rcases beginAuction_eq_ok hserve with ⟨hstatus, symbol, rfl⟩ | ⟨id, body, side, amountIn,
          out, book, rfl, hid, -, -, hbegin, rfl⟩
        · refine .inl ⟨book_opened _ symbol, ?_⟩
          rintro _ ⟨⟩
          rw [hstatus]
          rfl
        · exact .inr ⟨presented, id, body.symbol, side, amountIn, out, book, rfl, hid, hbegin, rfl⟩

end Exchange

end SweepAudit
