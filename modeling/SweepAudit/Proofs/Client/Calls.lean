import SweepAudit.Proofs.Client.Hosted
import SweepAudit.Proofs.Exchange.Books
import SweepAudit.Proofs.Exchange.Frames

/-!
What the calls of a client do to the books of a hosted exchange, whoever it is that calls. A
call is one request or none, so it does what that does: reading the depth changes no book, and
an order or an auction no book but that of its symbol. Whether a request is accepted is not said
here.
-/

namespace SweepAudit

open Http

namespace Client

variable {α : Type} {client : Client} {stamps : Stamps} {hosted : Hosted} {method : Method}
  {path : String} {body : Option Json}

/-! One request -/

theorem answered_step (client : Client) (stamps : Stamps) (hosted : Hosted) (method : Method)
    (body : Option Json) (target : String) :
    Exchange.Step hosted.exchange (stamps hosted.served) (client.sent method body target)
      (client.answered stamps hosted method body target).1
      (client.answered stamps hosted method body target).2.books :=
  Exchange.answer_step ..

/-- What a call leaves behind is as before, or it is what a request leaves behind. -/
theorem call_after (client : Client) (stamps : Stamps) (hosted : Hosted) (method : Method)
    (path : String) (body : Option Json) (read : Response → CallResult α) :
    ((client.call (Hosted.network stamps) method path body read).run hosted).2 = hosted ∨
      ∃ target : String,
        ((client.call (Hosted.network stamps) method path body read).run hosted).2 =
          ⟨(client.answered stamps hosted method body target).2, hosted.served + 1⟩ := by
  cases hparse : Url.parse (client.base ++ path) with
  | error e =>
    rw [call, hparse]
    exact .inl rfl
  | ok url =>
    cases hasked : url.asked with
    | error lost =>
      rw [call, hparse]
      simp only [run_bind_of_run (fetch_unasked hasked)]
      exact .inl rfl
    | ok asked =>
      rw [call_asked hparse hasked]
      exact .inr ⟨asked.target, rfl⟩

/-! What the calls leave alone -/

/-- Wherever the address leads, nothing is changed by asking for the depth. -/
theorem depth_keeps (client : Client) (stamps : Stamps) (hosted : Hosted) (symbol s : String) :
    (((client.venue (Hosted.network stamps)).depth symbol).run hosted).2.exchange.book s =
      hosted.exchange.book s := by
  rcases call_after client stamps hosted .get (client.depthPath symbol) none Reading.depth with
    hsame | ⟨target, hafter⟩
  · exact congrArg (fun after : Hosted => after.exchange.book s) hsame
  · exact (congrArg (fun after : Hosted => after.exchange.book s) hafter).trans
      ((client.answered_step stamps hosted .get none target).of_get rfl s)

/-- What is read of a body that has been sent is what was written. -/
theorem eq_of_readBody {decode : Json.Decoder α} {json : Json} {a b : α} {target : String}
    (hdecode : Json.decodeLeading decode json.text = .ok a)
    (h : readBody decode (client.sent method (some json) target) = .ok b) : b = a := by
  have hjson := declares_json client method (some json) target
  by_cases hsize : json.text.utf8ByteSize ≤ bodyLimit
  · have hread := @Exchange.readBody_json _ _ decode a hjson hsize hdecode
    exact Except.ok.inj (h.symm.trans hread)
  · have hread := @Exchange.readBody_oversized _ _ decode hjson (Nat.lt_of_not_le hsize)
    cases h.symm.trans hread

theorem call_elsewhere {resource : Resource} {query : List Char}
    (hleads : client.Leads path resource query) {symbol : String}
    (hacts : ∀ target : String,
      Exchange.ActsOn (client.sent method body target) symbol resource)
    (read : Response → CallResult α) {s : String} (hs : s ≠ symbol) :
    ((client.call (Hosted.network stamps) method path body read).run hosted).2.exchange.book s =
      hosted.exchange.book s := by
  obtain ⟨url, asked, hparse, hasked, hresource, -⟩ := hleads
  rw [call_asked hparse hasked]
  exact (client.answered_step stamps hosted method body asked.target).elsewhere hresource
    (hacts asked.target) hs

theorem placeOrder_elsewhere (hbase : client.IsLocal) (hosted : Hosted)
    (order : Order) {s : String} (hs : s ≠ order.symbol) :
    (((client.venue (Hosted.network stamps)).placeOrder order).run hosted).2.exchange.book s =
      hosted.exchange.book s := by
  refine call_elsewhere (leads_order hbase) (fun target body hbody => ?_) Reading.order hs
  exact congrArg Wire.OrderBody.symbol (eq_of_readBody (Wire.decode_orderBody _) hbody)

theorem beginAuction_elsewhere (hbase : client.IsLocal) (hosted : Hosted)
    (request : AuctionRequest) {s : String} (hs : s ≠ request.symbol) :
    (((client.venue (Hosted.network stamps)).beginAuction request).run hosted).2.exchange.book s =
      hosted.exchange.book s := by
  refine call_elsewhere (leads_beginAuction hbase _) (fun target body hbody => ?_)
    Reading.settlement hs
  exact congrArg Wire.AuctionBody.symbol (eq_of_readBody (Wire.decode_auctionBody _) hbody)

/-! Auctions -/

/-- An auction that cannot be begun leaves every book as it is, and one that is begun is told by
its own id. -/
theorem beginAuction_run (stamps : Stamps) (hbase : client.IsLocal) (hosted : Hosted)
    (request : AuctionRequest) :
    (∃ e hosted', ((client.venue (Hosted.network stamps)).beginAuction request).run hosted =
        (.error e, hosted') ∧ ∀ s, hosted'.exchange.book s = hosted.exchange.book s) ∨
      ∃ presented symbol side amountIn out book, client.Admitted presented ∧
        ((hosted.exchange.book symbol).beginAuction request.auctionId.text side amountIn).run =
          .ok (.ok (out, book)) ∧
        ((client.venue (Hosted.network stamps)).beginAuction request).run hosted =
          (.ok ⟨some request.auctionId.text, out.canonical⟩,
            ⟨(hosted.exchange.remember presented).setBook symbol book, hosted.served + 1⟩) := by
  obtain ⟨url, asked, hparse, hasked, hresource, -⟩ := leads_beginAuction hbase request.auctionId
  let body := some (Wire.encodeAuctionBody (auctionBody request))
  have hrun : ((client.venue (Hosted.network stamps)).beginAuction request).run hosted = _ :=
    @call_asked client hosted stamps _ .post _ body _ _ hparse hasked Reading.settlement
  have hanswer := @Exchange.answer_begins hosted.exchange (stamps hosted.served)
    (client.sent .post body asked.target) _ hresource rfl
  rcases hanswer with ⟨hbooks, hrefused⟩ | ⟨presented, id, symbol, side, amountIn, out, book,
    haccess, hid, hbegin, hanswer⟩
  · left
    cases hresult : (client.answered stamps hosted .post body asked.target).1 with
    | error o =>
      rw [hresult] at hrun
      exact ⟨_, _, hrun, hbooks⟩
    | ok response =>
      have hread := Reading.settlement_refused (hrefused response hresult)
      rw [hresult] at hrun
      exact ⟨_, _, hrun.trans (congrArg (·, _) hread), hbooks⟩
  · rw [Exchange.readParameter_text] at hid
    obtain rfl := Except.ok.inj hid
    have hanswered : client.answered stamps hosted .post body asked.target = _ := hanswer
    rw [hanswered] at hrun
    have hadmitted : client.Admitted presented := ⟨hbase, haccess⟩
    simp only [Except.mapError, concluding, Reading.settlement_filled] at hrun
    exact .inr ⟨presented, symbol, side, amountIn, out, book, hadmitted, hbegin, hrun⟩

end Client

end SweepAudit
