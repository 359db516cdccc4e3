import SweepAudit.Proofs.Book.Depth
import SweepAudit.Proofs.Exchange.Refusals
import SweepAudit.Proofs.Exchange.Replies

/-!
When the depth of a book is told. A book accepts each order for itself, and so the sizes that
come to rest at one price may be more than a decimal holds. Then there is no depth that shows
this price, and a request for it comes to an overflow instead of an answer. What a request
leaves alone is not told here.
-/

namespace SweepAudit

open Http

namespace Exchange

variable {exchange : Exchange} {stamp : Stamp} {request : Request} {symbol : String} {limit : Nat}

/-- The request asks for the depth of the book of a symbol, with a limit that is in range. -/
structure AsksDepth (request : Request) (symbol : String) (limit : Nat) : Prop where
  calls : ∃ segment, Calls request (.depth segment) ∧
    readParameter "symbol" segment = .ok symbol
  limited : ∃ found, readLimit (Target.ofText request.target).query = .ok found ∧
    found.getD defaultLimit = limit
  range : 1 ≤ limit ∧ limit ≤ maxLimit

/-- There is an answer exactly if there is a depth, and it tells this depth. -/
theorem answer_depth (h : AsksDepth request symbol limit) : ∃ sent : Response → Response,
    (∀ response, (sent response).status = response.status) ∧
    (exchange.answer stamp request).1 = ((exchange.book symbol).depth limit).map fun snapshot =>
      sent (.json 200 (Wire.encodeMarketDepth symbol (.ofNat stamp.time) snapshot)) := by
  obtain ⟨segment, ⟨⟨presented, haccess⟩, hleads, hallowed⟩, hsymbol⟩ := h.calls
  obtain ⟨found, hfound, rfl⟩ := h.limited
  refine ⟨fun response => if wantsHead request then response.withoutBody else response,
    status_sent request, ?_⟩
  have hserve : (exchange.remember presented).serve stamp request (Target.ofText request.target)
      (.depth segment) =
      (exchange.remember presented).showDepth stamp segment (Target.ofText request.target) := rfl
  rw [answer_served haccess hleads hallowed, hserve, showDepth_found hsymbol hfound h.range,
    book_remember]
  cases (exchange.book symbol).depth (found.getD defaultLimit) <;> rfl

theorem AsksDepth.answered_iff (h : AsksDepth request symbol limit) :
    (∃ response, (exchange.answer stamp request).1 = .ok response ∧ response.status = 200) ↔
      ∃ snapshot, (exchange.book symbol).depth limit = .ok snapshot := by
  obtain ⟨sent, hstatus, hanswer⟩ := @answer_depth exchange stamp _ _ _ h
  rw [hanswer]
  cases (exchange.book symbol).depth limit with
  | error o => exact iff_of_false nofun nofun
  | ok snapshot => exact iff_of_true ⟨_, rfl, hstatus _⟩ ⟨snapshot, rfl⟩

/-- A book has got a depth exactly if what rests at each of its best prices can be added up. This
is sure if there is room for a unit more with each order, and out of the question if the sizes
are beyond the greatest decimal by as much. A request for the depth is answered in the one case,
and in the other it comes to an overflow. -/
theorem depth_answered_iff {book : Book} (h : book.Reachable) (limit : Nat) :
    ((∃ snapshot, book.depth limit = .ok snapshot) ↔ book.AddsUp limit) ∧
    ((∀ side, ∀ level ∈ (book.swept side).take limit,
      level.size + level.queue.length ≤ 2 ^ 96) → book.AddsUp limit) ∧
    (∀ side, ∀ level ∈ (book.swept side).take limit,
      2 ^ 96 + level.queue.length ≤ level.size → ¬book.AddsUp limit) ∧
    ∀ (exchange : Exchange) (stamp : Stamp) (request : Request) (symbol : String),
      exchange.book symbol = book → AsksDepth request symbol limit →
      ((∃ response, (exchange.answer stamp request).1 = .ok response ∧ response.status = 200) ↔
        book.AddsUp limit) ∧
      (¬book.AddsUp limit → (exchange.answer stamp request).1 = .error .addition) := by
  refine ⟨Book.exists_depth_iff, ?_, ?_, ?_⟩
  · intro hroom side level hlevel
    exact PriceLevel.addable_of_room
      (h.sound.swept_sound side level (List.mem_of_mem_take hlevel)) (hroom side level hlevel)
  · intro side level hlevel hfull hadds
    exact PriceLevel.not_addable_of_full hfull (hadds side level hlevel)
  · rintro exchange stamp request symbol rfl hasks
    refine ⟨hasks.answered_iff.trans Book.exists_depth_iff, fun hfull => ?_⟩
    obtain ⟨sent, -, hanswer⟩ := @answer_depth exchange stamp _ _ _ hasks
    rw [hanswer]
    cases hdepth : (exchange.book symbol).depth limit with
    | error o =>
      rw [Book.depth_eq_error hdepth]
      rfl
    | ok snapshot => exact absurd (Book.exists_depth_iff.mp ⟨snapshot, hdepth⟩) hfull

/-- Offers a size for one each. -/
def ask (size clientOrderId : String) : Request :=
  post .order (Wire.encodeOrderBody ⟨"1", size, Side.sell.orderWord, "A", clientOrderId⟩).text

/-- Asks for ten levels of depth, as it does without a limit. -/
def look : Request := ⟨.get, "/api/v1/orderbook/A", [("x-api-key", "Bearer k")], ""⟩

theorem asksDepth_look : AsksDepth look "A" 10 where
  calls := ⟨['A'], ⟨⟨⟨.apiKey, "k"⟩, rfl⟩, by decide +kernel, by decide⟩, by decide +kernel⟩
  limited := ⟨none, by decide +kernel, rfl⟩
  range := by decide

/-- Two asks at one price that leave just room for a unit more with each. -/
theorem depth_answered_iff_twoAsks :
    let exchange := empty.afterAll [(.plain ⟨1⟩ 0, ask "79228162514264337593543950333" "a"),
      (.plain ⟨2⟩ 0, ask "1" "b")]
    (exchange.book "A").Reachable ∧
      ∃ response, (exchange.answer (.plain ⟨3⟩ 0) look).1 = .ok response ∧
        response.status = 200 := by
  intro exchange
  have hreachable : (exchange.book "A").Reachable :=
    @reachable_afterAll empty (fun _ => .empty) _ "A"
  have hsides : ∀ side ∈ [Side.buy, .sell], ∀ level ∈ ((exchange.book "A").swept side).take 10,
      level.size + level.queue.length ≤ 2 ^ 96 := by
    decide +kernel
  obtain ⟨-, hroom, -, hanswer⟩ := depth_answered_iff hreachable 10
  refine ⟨hreachable,
    (hanswer exchange (.plain ⟨3⟩ 0) look "A" rfl asksDepth_look).1.mpr (hroom ?_)⟩
  intro side
  exact hsides side (by cases side <;> decide)

/-- Of two asks at one price either is accepted, but their sizes are beyond a decimal together. -/
theorem depth_unanswered :
    let exchange := empty.afterAll [(.plain ⟨1⟩ 0, ask "79228162514264337593543950335" "a"),
      (.plain ⟨2⟩ 0, ask "1" "b")]
    (exchange.book "A").Reachable ∧ (exchange.book "A").orderCount = 2 ∧
      (exchange.book "A").depth 10 = .error .addition ∧ AsksDepth look "A" 10 ∧
      (exchange.answer (.plain ⟨3⟩ 0) look).1 = .error .addition := by
  intro exchange
  have hrun : (exchange.book "A").orderCount = 2 ∧ (exchange.book "A").depth 10 = .error .addition ∧
      (exchange.answer (.plain ⟨3⟩ 0) look).1 = .error .addition := by
    decide +kernel
  exact ⟨@reachable_afterAll empty (fun _ => .empty) _ "A", hrun.1, hrun.2.1, asksDepth_look,
    hrun.2.2⟩

end Exchange

end SweepAudit
