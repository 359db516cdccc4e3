import SweepAudit.Proofs.Client.Reaching
import SweepAudit.Proofs.Decimal.Canonical

/-!
Amounts between a client and an exchange that is hosted here. They are sent in their canonical
texts and read in their normal forms, so that both ends speak of the same numbers: of the price and
the size of an order, of what goes into an auction, and of what comes out of it. What is longer than
an exchange reads, and an order without an id, are turned down before a book is asked; they are not
looked at here.
-/

namespace SweepAudit

open Http Decimal

namespace Client

variable {client : Client} {presented : Presented} {stamps : Stamps} {hosted : Hosted}

/-- What a client is told of an order once the book of its symbol has decided on it, and the
exchange as it is then. -/
def decided (presented : Presented) (stamps : Stamps) (hosted : Hosted) (symbol : String) :
    Except BookError Book → CallResult String × Hosted
  | .ok book =>
    (.ok (stamps hosted.served).orderId.text,
      ⟨(hosted.exchange.remember presented).setBook symbol book, hosted.served + 1⟩)
  | .error e =>
    (.error (.status (Exchange.refusalStatus e)
        (Text.trim (Payload.bodyText (errorReply (Exchange.refusalStatus e) e.message)))),
      ⟨(hosted.exchange.remember presented).opened symbol, hosted.served + 1⟩)

/-- An order is decided on by the numbers that it has been placed with. -/
theorem placeOrder_decided (h : client.Admitted presented) {order : Order}
    (hsize : (orderText order).utf8ByteSize ≤ bodyLimit)
    (hid : Text.isBlankText order.clientOrderId = false) :
    ((client.venue (Hosted.network stamps)).placeOrder order).run hosted =
      decided presented stamps hosted order.symbol
        ((hosted.exchange.book order.symbol).place (stamps hosted.served).orderId order.side
          order.price.normalize order.size.normalize order.clientOrderId) := by
  have hprice := parse_canonical_eq order.price
  have hamount := parse_canonical_eq order.size
  cases hplace : (hosted.exchange.book order.symbol).place (stamps hosted.served).orderId
      order.side order.price.normalize order.size.normalize order.clientOrderId with
  | ok book => exact placeOrder_run h hsize hprice hamount hid hplace
  | error e => exact placeOrder_refused h hsize hprice hamount hid hplace

/-- What a client reads of an auction once the book of its symbol has decided on it: the amount that
is paid, or a refusal that leaves every book as it was. -/
def Settles (hosted : Hosted) (symbol : String) :
    Except BookError (Decimal × Book) → CallResult Settlement × Hosted → Prop
  | .ok (out, book), (.ok settlement, hosted') =>
    parse (Text.trim settlement.amountOut) = .ok out.normalize ∧
      ∀ s, hosted'.exchange.book s = if s = symbol then book else hosted.exchange.book s
  | .error _, (.error (.status code _), hosted') =>
    code = 400 ∧ ∀ s, hosted'.exchange.book s = hosted.exchange.book s
  | _, _ => False

/-- An auction is decided on by the amount that it has been begun with, and what it pays is read. -/
theorem beginAuction_settles (h : client.Admitted presented) {id : Uuid} {symbol : String}
    {side : Side} {amount : Decimal} {outcome : Except BookError (Decimal × Book)}
    (hsize : (auctionText (.ofAmount id symbol side amount)).utf8ByteSize ≤ bodyLimit)
    (hbook : ((hosted.exchange.book symbol).beginAuction id.text side amount.normalize).run =
      .ok outcome) :
    Settles hosted symbol outcome (((client.venue (Hosted.network stamps)).beginAuction
      (.ofAmount id symbol side amount)).run hosted) := by
  have hamount := parse_canonical_eq amount
  cases outcome with
  | ok filled =>
    obtain ⟨out, book⟩ := filled
    rw [beginAuction_filled h hsize hamount hbook]
    refine ⟨?_, fun s => Exchange.book_setBook _ symbol s book⟩
    rw [trim_canonical, parse_canonical_eq]
  | error e =>
    obtain ⟨reason, hosted', hrun, hbooks⟩ := beginAuction_refused h hsize hamount hbook
    rw [hrun]
    exact ⟨rfl, hbooks⟩

/-- Amounts cross the wire unchanged. The canonical text of a number is read as its normal form,
which is the number that the text writes, and only equal numbers share a text. So an order is placed
with the price and the size that the client has given, and an auction is begun with the amount that
the client has given and pays the amount that the client reads. -/
theorem amounts_unchanged :
    (∀ x : Decimal, parse x.canonical = .ok x.normalize ∧ x.normalize.Same x ∧
      (Decimal.written x.canonical).value = x.value) ∧
    (∀ x y : Decimal, x.canonical = y.canonical ↔ x.Same y) ∧
    ∀ (client : Client) (presented : Presented) (stamps : Stamps) (hosted : Hosted),
      client.Admitted presented →
      (∀ order : Order, (orderText order).utf8ByteSize ≤ bodyLimit →
        Text.isBlankText order.clientOrderId = false →
        ((client.venue (Hosted.network stamps)).placeOrder order).run hosted =
          decided presented stamps hosted order.symbol
            ((hosted.exchange.book order.symbol).place (stamps hosted.served).orderId
              order.side order.price.normalize order.size.normalize order.clientOrderId)) ∧
      ∀ (id : Uuid) (symbol : String) (side : Side) (amount : Decimal),
        (auctionText (.ofAmount id symbol side amount)).utf8ByteSize ≤ bodyLimit →
        ∀ outcome,
          ((hosted.exchange.book symbol).beginAuction id.text side amount.normalize).run =
            .ok outcome →
          Settles hosted symbol outcome (((client.venue (Hosted.network stamps)).beginAuction
            (.ofAmount id symbol side amount)).run hosted) :=
  ⟨fun x => ⟨parse_canonical_eq x, same_normalize x, written_canonical x⟩, canonical_eq_iff,
    fun _ _ _ _ h => ⟨fun _ hsize hid => placeOrder_decided h hsize hid,
      fun _ _ _ _ hsize _ hbook => beginAuction_settles h hsize hbook⟩⟩

/-- An ask whose numbers end in zeros. -/
def paddedAsk : Order := ⟨"A", .sell, ofText "2.50", ofText "0.10", "a"⟩

def paddedQuarter : Decimal := ofText "0.250"

/-- The exchange in which nothing but the ask rests. -/
def askResting : Hosted :=
  ⟨(Exchange.empty.remember ⟨.apiKey, "k"⟩).setBook "A"
    ⟨[], [⟨paddedAsk.price.normalize, [⟨⟨0⟩, "a", paddedAsk.size.normalize⟩]⟩],
      [(⟨0⟩, .sell, paddedAsk.price.normalize)], ["a"], []⟩, 1⟩

theorem amounts_unchanged_paddedAsk :
    ((localClient.venue (Hosted.network .counted)).placeOrder paddedAsk).run .empty =
      (.ok (Uuid.text ⟨0⟩), askResting) ∧
    ∃ settlement, (((localClient.venue (Hosted.network .counted)).beginAuction
        (.ofAmount ⟨1⟩ "A" .buy paddedQuarter)).run askResting).1 = .ok settlement ∧
      parse (Text.trim settlement.amountOut) = .ok paddedAsk.size.normalize := by
  obtain ⟨-, -, hserved⟩ := amounts_unchanged
  obtain ⟨horders, -⟩ := hserved localClient _ .counted .empty localClient_admitted
  obtain ⟨-, hauctions⟩ := hserved localClient _ .counted askResting localClient_admitted
  constructor
  · have hplace : (Hosted.empty.exchange.book "A").place (Stamps.counted 0).orderId .sell
        paddedAsk.price.normalize paddedAsk.size.normalize "a" =
        .ok ⟨[], [⟨paddedAsk.price.normalize, [⟨⟨0⟩, "a", paddedAsk.size.normalize⟩]⟩],
          [(⟨0⟩, .sell, paddedAsk.price.normalize)], ["a"], []⟩ := by decide +kernel
    refine (horders paddedAsk (by decide +kernel) (by decide +kernel)).trans ?_
    exact congrArg _ hplace
  · have hfilled : ((askResting.exchange.book "A").beginAuction (Uuid.text ⟨1⟩) .buy
        paddedQuarter.normalize).run.toOption.bind
          (fun outcome => outcome.toOption.map (·.1.normalize)) =
        some paddedAsk.size.normalize := by decide +kernel
    obtain ⟨outcome, hbook, hfilled⟩ := Option.bind_eq_some_iff.mp hfilled
    obtain ⟨⟨out, book⟩, hfilled, hout⟩ := Option.map_eq_some_iff.mp hfilled
    obtain rfl := toOption_eq_some.mp hfilled
    have hshort : (auctionText (.ofAmount ⟨1⟩ "A" .buy paddedQuarter)).utf8ByteSize ≤
        bodyLimit := by decide +kernel
    have hsettles := hauctions ⟨1⟩ "A" .buy paddedQuarter hshort (.ok (out, book))
      (toOption_eq_some.mp hbook)
    revert hsettles
    generalize ((localClient.venue (Hosted.network .counted)).beginAuction
      (.ofAmount ⟨1⟩ "A" .buy paddedQuarter)).run askResting = ended
    obtain ⟨_ | settlement, hosted⟩ := ended
    · exact False.elim
    · rintro ⟨hread, -⟩
      exact ⟨settlement, rfl, hread.trans (congrArg _ hout)⟩

end Client

end SweepAudit
