import SweepAudit.Proofs.Book.Sweep
import SweepAudit.Proofs.Exchange.Auctions
import SweepAudit.Proofs.Exchange.Steps
import SweepAudit.Proofs.Wire

/-!
Which auctions of an exchange are live, and under which identifiers. Auctions are kept book
by book and by the text of their ids, so that one identifier can come to name several of
them. As long as no auction is begun under an identifier that is in use in another book or in
another spelling, it names at most one, and once that is aborted it names none.
-/

namespace SweepAudit

open Http
open scoped List

namespace Exchange

/-- The auctions in some books, each with the symbol of its book and with its id. -/
def auctionsIn (books : List (String × Book)) : List (String × String) :=
  books.flatMap fun (symbol, book) => book.auctions.map fun (id, _) => (symbol, id)

def live (exchange : Exchange) : List (String × String) := auctionsIn exchange.books

/-- Whether an auction goes by an identifier, however its id is spelled. -/
def goesBy (id : Uuid) (auction : String × String) : Bool := Uuid.named? auction.2 == some id

/-- How many live auctions an identifier names. -/
def liveUnder (exchange : Exchange) (id : Uuid) : Nat := exchange.live.countP (goesBy id)

theorem auctionsIn_cons (symbol : String) (book : Book) (books : List (String × Book)) :
    auctionsIn ((symbol, book) :: books) =
      book.auctions.map (fun auction => (symbol, auction.1)) ++ auctionsIn books := rfl

variable {exchange : Exchange} {stamp : Stamp} {request : Request} {symbol id : String}
  {book : Book} {books books' : List (String × Book)}

/-! Auctions in changed books -/

/-- The auctions of one book stand beside all others, which stay when another book is put in. -/
theorem auctionsIn_replace (symbol : String) (books : List (String × Book)) :
    ∃ others,
      auctionsIn books ~ ((books.lookup symbol).getD .empty).auctions.map
        (fun auction => (symbol, auction.1)) ++ others ∧
      ∀ book, auctionsIn (replace symbol book books) ~
        book.auctions.map (fun auction => (symbol, auction.1)) ++ others := by
  induction books with
  | nil => exact ⟨[], List.Perm.refl _, fun book => List.Perm.refl _⟩
  | cons entry books ih =>
    obtain ⟨s, b⟩ := entry
    by_cases hs : s = symbol
    · subst hs
      refine ⟨auctionsIn books, ?_, fun book => ?_⟩
      · rw [List.lookup_cons_self]
        exact List.Perm.refl _
      · rw [replace, if_pos rfl]
        exact List.Perm.refl _
    · obtain ⟨others, hbefore, hafter⟩ := ih
      refine ⟨b.auctions.map (fun auction => (s, auction.1)) ++ others, ?_, fun book => ?_⟩
      · rw [List.lookup_cons, beq_eq_false_iff_ne.mpr (Ne.symm hs), auctionsIn_cons]
        exact (hbefore.append_left _).trans (List.perm_append_comm_assoc ..)
      · rw [replace, if_neg hs, auctionsIn_cons]
        exact ((hafter book).append_left _).trans (List.perm_append_comm_assoc ..)

/-- Of a book that is put in, the auctions count that it has more than the one in its place. -/
theorem auctionsIn_added (added : List (String × Auction))
    (h : book.auctions = added ++ (exchange.book symbol).auctions) :
    auctionsIn (replace symbol book exchange.books) ~
      added.map (fun auction => (symbol, auction.1)) ++ exchange.live := by
  obtain ⟨others, hbefore, hafter⟩ := auctionsIn_replace symbol exchange.books
  refine (hafter book).trans ?_
  rw [h, List.map_append, List.append_assoc]
  exact hbefore.symm.append_left _

theorem auctionsIn_cancelled (exchange : Exchange) :
    auctionsIn exchange.cancelled.books = exchange.live := by
  rw [live, cancelled, auctionsIn, auctionsIn, List.flatMap_map]
  rfl

theorem mem_of_auction? {auction : Auction} (h : book.auction? id = some auction) :
    (id, auction) ∈ book.auctions := by
  obtain ⟨before, behind, hsplit, -⟩ := List.lookup_eq_some_iff.mp h
  rw [hsplit]
  exact List.mem_append_right _ List.mem_cons_self

/-- An auction that is aborted takes those with it whose id is spelled alike, and no others. -/
theorem auctionsIn_aborted {auction : Auction}
    (h : (exchange.book symbol).abortAuction id = some (auction, book)) :
    ∃ aborted, aborted ≠ [] ∧ (∀ auction ∈ aborted, auction.2 = id) ∧
      exchange.live ~ aborted ++ auctionsIn (replace symbol book exchange.books) := by
  obtain ⟨_, hfound, heq⟩ := Option.map_eq_some_iff.mp h
  cases heq
  obtain ⟨others, hbefore, hafter⟩ := auctionsIn_replace symbol exchange.books
  refine ⟨((exchange.book symbol).auctions.filter fun entry => decide (entry.1 = id)).map
    fun auction => (symbol, auction.1), ?_, ?_, ?_⟩
  · rw [Ne, List.map_eq_nil_iff]
    exact List.ne_nil_of_mem (List.mem_filter.mpr ⟨mem_of_auction? hfound, decide_eq_true rfl⟩)
  · intro aborted haborted
    obtain ⟨entry, hentry, rfl⟩ := List.mem_map.mp haborted
    exact of_decide_eq_true (List.mem_filter.mp hentry).2
  · have hsplit := (List.filter_append_perm (fun entry : String × Auction =>
      decide (entry.1 = id)) (exchange.book symbol).auctions).symm
    refine hbefore.trans (List.Perm.trans ?_ ((hafter _).symm.append_left _))
    rw [← List.append_assoc, ← List.map_append]
    exact ((hsplit.trans (by simp)).map _).append_right _

theorem symbol_of_mem {auction : String × String} (h : auction ∈ auctionsIn books) :
    auction.1 ∈ books.map (·.1) := by
  obtain ⟨entry, hentry, hmem⟩ := List.mem_flatMap.mp h
  obtain ⟨_, -, rfl⟩ := List.mem_map.mp hmem
  exact List.mem_map_of_mem hentry

/-- The book of a symbol knows its auctions. -/
theorem auction?_of_mem (hsymbols : (books.map (·.1)).Nodup)
    (h : (symbol, id) ∈ auctionsIn books) :
    ((books.lookup symbol).getD .empty).auction? id ≠ none := by
  induction books with
  | nil => exact absurd h List.not_mem_nil
  | cons entry books ih =>
    obtain ⟨s, book⟩ := entry
    obtain ⟨hnew, hsymbols⟩ := List.nodup_cons.mp hsymbols
    rw [auctionsIn_cons, List.mem_append] at h
    rcases h with h | h
    · obtain ⟨entry, hentry, heq⟩ := List.mem_map.mp h
      cases heq
      rw [List.lookup_cons_self, Option.getD_some]
      intro hnone
      exact bne_iff_ne.mp (List.lookup_eq_none_iff.mp hnone entry hentry) rfl
    · have hne : symbol ≠ s := by
        rintro rfl
        exact hnew (symbol_of_mem h)
      rw [List.lookup_cons, beq_eq_false_iff_ne.mpr hne]
      exact ih hsymbols h

/-! What a request does to the live auctions -/

/-- The auctions are as before, or there is one more, which was asked for and is new, or there are
fewer. -/
theorem Step.live {result : Except Overflow Response}
    (h : Step exchange stamp request result books) :
    auctionsIn books ~ exchange.live ∨
      (∃ symbol id, Begins request symbol id ∧ (symbol, id) ∉ exchange.live ∧
        auctionsIn books ~ (symbol, id) :: exchange.live) ∨
      ∃ aborted, exchange.live ~ aborted ++ auctionsIn books := by
  cases h with
  | unchanged => exact .inl (List.Perm.refl _)
  | opened => exact .inl (auctionsIn_added [] rfl)
  | placed _ _ place =>
    obtain ⟨-, -, -, -, hauctions, -, -⟩ := Book.place_eq_ok place
    exact .inl (auctionsIn_added [] hauctions)
  | cancelled => exact .inl (by rw [auctionsIn_cancelled])
  | begun begins _ begin =>
    obtain ⟨hnew, -, rfl⟩ := Book.beginAuction_eq_ok begin
    exact .inr (.inl ⟨_, _, begins, fun hmem => auction?_of_mem exchange.nodup hmem hnew,
      auctionsIn_added [(_, _)] rfl⟩)
  | aborted _ abort =>
    obtain ⟨aborted, -, -, hperm⟩ := auctionsIn_aborted abort
    exact .inr (.inr ⟨aborted, hperm⟩)

/-- No auction is asked for under an identifier by which another goes: one in another book, or one
whose id is spelled otherwise. -/
def Clear (exchange : Exchange) (request : Request) : Prop :=
  ∀ symbol id, Begins request symbol id →
    ∀ auction ∈ exchange.live, Uuid.named? auction.2 = Uuid.named? id → auction = (symbol, id)

variable {uuid : Uuid}

theorem Step.count_le {result : Except Overflow Response}
    (h : Step exchange stamp request result books)
    (hidle : ∀ symbol id, Begins request symbol id → Uuid.named? id ≠ some uuid) :
    (auctionsIn books).countP (goesBy uuid) ≤ exchange.liveUnder uuid := by
  rcases h.live with hsame | ⟨symbol, id, hbegins, -, hperm⟩ | ⟨aborted, hperm⟩
  · exact (hsame.countP_eq _).le
  · have hother : goesBy uuid (symbol, id) = false := beq_eq_false_iff_ne.mpr (hidle _ _ hbegins)
    rw [hperm.countP_eq, List.countP_cons_of_neg (by rw [hother]; decide)]
    exact le_rfl
  · rw [liveUnder, hperm.countP_eq, List.countP_append]
    exact Nat.le_add_left _ _

theorem Step.count_le_one {result : Except Overflow Response}
    (h : Step exchange stamp request result books)
    (hclear : exchange.Clear request) (hone : exchange.liveUnder uuid ≤ 1) :
    (auctionsIn books).countP (goesBy uuid) ≤ 1 := by
  rcases h.live with hsame | ⟨symbol, id, hbegins, hnew, hperm⟩ | ⟨aborted, hperm⟩
  · exact (hsame.countP_eq _).le.trans hone
  · rw [hperm.countP_eq, List.countP_cons]
    split
    · rename_i hnamed
      -- Whatever else went by the identifier would be the new auction itself.
      have hnone : exchange.live.countP (goesBy uuid) = 0 := by
        rw [List.countP_eq_zero]
        intro auction hmem hgoes
        have hsame := (beq_iff_eq.mp hgoes).trans (beq_iff_eq.mp hnamed).symm
        exact hnew (hclear symbol id hbegins auction hmem hsame ▸ hmem)
      omega
    · exact hone
  · rw [liveUnder, hperm.countP_eq, List.countP_append] at hone
    exact (Nat.le_add_left _ _).trans hone

/-! What a run of requests does to them -/

/-- Every request is clear when it comes. -/
def AllClear (exchange : Exchange) : List (Stamp × Request) → Prop
  | [] => True
  | (stamp, request) :: requests =>
    exchange.Clear request ∧ (exchange.answer stamp request).2.AllClear requests

theorem liveUnder_afterAll_le {requests : List (Stamp × Request)}
    (hidle : ∀ asked ∈ requests, ∀ symbol id, Begins asked.2 symbol id →
      Uuid.named? id ≠ some uuid) :
    (exchange.afterAll requests).liveUnder uuid ≤ exchange.liveUnder uuid := by
  induction requests generalizing exchange with
  | nil => exact le_rfl
  | cons asked requests ih =>
    obtain ⟨hasked, hidle⟩ := List.forall_mem_cons.mp hidle
    exact (ih hidle).trans ((exchange.answer_step asked.1 asked.2).count_le hasked)

theorem liveUnder_le_one {requests : List (Stamp × Request)}
    (hclear : exchange.AllClear requests) (hone : exchange.liveUnder uuid ≤ 1) :
    (exchange.afterAll requests).liveUnder uuid ≤ 1 := by
  induction requests generalizing exchange with
  | nil => exact hone
  | cons asked requests ih =>
    exact ih hclear.2 ((exchange.answer_step asked.1 asked.2).count_le_one hclear.1 hone)

/-- A request to abort is answered by whether a book on its way has the auction. -/
theorem answer_aborts (h : Aborts request id) (stamp : Stamp) :
    ∃ response, (exchange.answer stamp request).1 = .ok response ∧
      match exchange.aborted? stamp.books id with
      | some (symbol, book) => response.status = 200 ∧
        (exchange.answer stamp request).2.books = replace symbol book exchange.books
      | none => response.status = 404 := by
  obtain ⟨segment, ⟨⟨presented, haccess⟩, hleads, hallows⟩, hread⟩ := h
  have hhead : request.method ≠ .head := by
    intro hhead
    rw [hhead] at hallows
    cases hallows
  have hanswer := @answer_admitted exchange stamp _ _ haccess hhead _ hleads hallows
  have haborted : (exchange.remember presented).aborted? stamp.books id =
      exchange.aborted? stamp.books id := rfl
  rw [serve, abortAuction_run hread, abort?, haborted] at hanswer
  rw [hanswer]
  cases exchange.aborted? stamp.books id with
  | some found => exact ⟨_, rfl, rfl, rfl⟩
  | none => exact ⟨_, rfl, rfl⟩

/-- A live auction can be aborted on every way, and at most one book is another then. -/
theorem answer_aborts_live (h : Aborts request id) (stamp : Stamp)
    (hlive : (exchange.book symbol).auction? id ≠ none) :
    ∃ response s, (exchange.answer stamp request).1 = .ok response ∧ response.status = 200 ∧
      ∀ other, other ≠ s → (exchange.answer stamp request).2.book other = exchange.book other := by
  obtain ⟨response, hresponse, houtcome⟩ := @answer_aborts exchange _ _ h stamp
  split at houtcome
  · rename_i s book _
    refine ⟨response, s, hresponse, houtcome.1, fun other hother => ?_⟩
    rw [Exchange.book, houtcome.2]
    exact (book_setBook exchange ..).trans (if_neg hother)
  · rename_i hnone
    exact absurd (aborted?_eq_none_iff.mp hnone symbol) hlive

theorem liveUnder_aborted (hid : Uuid.named? id = some uuid) (hone : exchange.liveUnder uuid ≤ 1)
    (haborts : Aborts request id) {response : Response}
    (hanswer : (exchange.answer stamp request).1 = .ok response) (hdone : response.status = 200) :
    (exchange.answer stamp request).2.liveUnder uuid = 0 := by
  obtain ⟨_, hresponse, houtcome⟩ := @answer_aborts exchange _ _ haborts stamp
  rw [hanswer] at hresponse
  cases hresponse
  split at houtcome
  · rename_i symbol book hfound
    obtain ⟨auction, habort⟩ := aborted?_eq_some hfound
    obtain ⟨aborted, hne, hids, hperm⟩ := auctionsIn_aborted habort
    have hcount : 0 < aborted.countP (goesBy uuid) := by
      obtain ⟨auction, hmem⟩ := List.exists_mem_of_ne_nil aborted hne
      exact List.countP_pos_iff.mpr
        ⟨auction, hmem, beq_iff_eq.mpr (by rw [hids auction hmem, hid])⟩
    rw [liveUnder, hperm.countP_eq, List.countP_append] at hone
    rw [liveUnder, live, houtcome.2]
    omega
  · rw [houtcome] at hdone
    cases hdone

/-- What goes by an identifier that names nothing cannot be aborted. -/
theorem answer_unknown (hid : Uuid.named? id = some uuid) (hnone : exchange.liveUnder uuid = 0)
    (haborts : Aborts request id) :
    ∃ response, (exchange.answer stamp request).1 = .ok response ∧ response.status = 404 := by
  obtain ⟨response, hresponse, houtcome⟩ := @answer_aborts exchange _ _ haborts stamp
  refine ⟨response, hresponse, ?_⟩
  split at houtcome
  · rename_i symbol book hfound
    obtain ⟨auction, habort⟩ := aborted?_eq_some hfound
    obtain ⟨aborted, hne, hids, hperm⟩ := auctionsIn_aborted habort
    obtain ⟨auction, hmem⟩ := List.exists_mem_of_ne_nil aborted hne
    have hlive := hperm.mem_iff.mpr (List.mem_append_left _ hmem)
    exact absurd (beq_iff_eq.mpr (by rw [hids auction hmem, hid]))
      (List.countP_eq_zero.mp hnone auction hlive)
  · exact houtcome

/-! Runs with one auction and with two -/

/-- A request that sends a body to a resource. -/
def post (resource : Resource) (body : String) : Request :=
  ⟨.post, String.ofList (pathAndQuery resource.segments none),
    [("x-api-key", "Bearer k"), (contentType, Response.jsonType)], body⟩

theorem calls_post {resource : Resource} (hquiet : resource.IsQuiet)
    (hallows : resource.allows .post = true) (body : String) :
    Calls (post resource body) resource := by
  refine ⟨⟨⟨.apiKey, "k"⟩, rfl⟩, ?_, hallows⟩
  rw [post, Resource.ofText_target hquiet.isWhole (by simp)]
  exact Resource.ofTarget_target hquiet.isWhole []

theorem readBody_post {α : Type} {decode : Json.Decoder α} {resource : Resource} {body : String}
    {a : α} (hsize : body.utf8ByteSize ≤ bodyLimit) (h : Json.decodeLeading decode body = .ok a) :
    readBody decode (post resource body) = .ok a := by
  have hjson : plainHeader? contentType
      [("x-api-key", "Bearer k"), (contentType, Response.jsonType)] = some Response.jsonType := by
    decide
  exact readBody_json hjson hsize h

theorem parse_one : Decimal.parse "1" = .ok .one := rfl

/-- Bids one for one. -/
def bid (symbol clientOrderId : String) : Request :=
  post .order (Wire.encodeOrderBody ⟨"1", "1", Side.buy.orderWord, symbol, clientOrderId⟩).text

/-- Sells one, under an id as it stands in the path. -/
def sale (segment : List Char) (symbol : String) : Request :=
  post (.beginAuction segment) (Wire.encodeAuctionBody ⟨"1", symbol, Side.sell.auctionWord⟩).text

def withdrawal (segment : List Char) : Request := post (.abortAuction segment) ""

/-- A book with one bid of one for one. -/
def oneBid (orderId : Uuid) (clientOrderId : String) : Book :=
  ⟨[⟨.one, [⟨orderId, clientOrderId, .one⟩]⟩], [], [(orderId, .buy, .one)], [clientOrderId], []⟩

theorem amountOut_oneBid (orderId : Uuid) (clientOrderId : String) :
    ∃ out, ((oneBid orderId clientOrderId).amountOut .sell .one).run = .ok (.ok out) := by
  have hplace : Book.empty.place orderId .buy .one .one clientOrderId =
      .ok (oneBid orderId clientOrderId) := rfl
  have hone : Decimal.one.value = 1 := Decimal.value_one
  have hrepresentable : Decimal.Representable 1 := ⟨.one, hone⟩
  obtain ⟨out, -, hrun⟩ := @Book.amountOut_exact (oneBid orderId clientOrderId) .sell .one
    (Book.sound_place Book.Reachable.empty.sound hplace) (by decide) (by
      change Book.ExactFrom .sell _ 0 [(.one, .one)]
      simp [Book.ExactFrom, Side.cost, Side.worth, hone, hrepresentable,
        Decimal.representable_zero])
  refine ⟨out, ?_⟩
  rw [hrun, if_neg]
  change ¬Greedy.capacity [Side.sell.offer (.one, .one)] < _
  simp [Side.offer, Side.cost, hone]

theorem answer_bid (exchange : Exchange) (stamp : Stamp) (symbol clientOrderId : String)
    (hbook : exchange.book symbol = .empty)
    (hsize : (bid symbol clientOrderId).body.utf8ByteSize ≤ bodyLimit)
    (hnamed : Text.isBlankText clientOrderId = false) :
    (exchange.answer stamp (bid symbol clientOrderId)).2.books =
      replace symbol (oneBid stamp.orderId clientOrderId) exchange.books := by
  let body : Wire.OrderBody := ⟨"1", "1", Side.buy.orderWord, symbol, clientOrderId⟩
  obtain ⟨⟨presented, haccess⟩, hleads, hallows⟩ :=
    @calls_post .order trivial rfl (Wire.encodeOrderBody body).text
  have hread : readBody Wire.decodeOrderBody (bid symbol clientOrderId) = .ok body :=
    readBody_post hsize (Wire.decode_orderBody body)
  have hplace : ((exchange.remember presented).book symbol).place stamp.orderId .buy .one .one
      clientOrderId = .ok (oneBid stamp.orderId clientOrderId) := by
    rw [book_remember, hbook]
    rfl
  have hanswer := @answer_admitted exchange stamp _ _ haccess nofun _ hleads hallows
  have hplaced := @placeOrder_run (exchange.remember presented) stamp _ _ hread .buy
    (Side.parse_orderWord .buy) .one .one parse_one parse_one hnamed
  rw [hplace] at hplaced
  rw [bid, hanswer, serve, ← bid, hplaced]
  rfl

theorem answer_sale (exchange : Exchange) (stamp : Stamp) (symbol : String) {segment : List Char}
    {orderId : Uuid} {clientOrderId : String} (hquiet : Quiet segment)
    (hid : Uuid.isAccepted (String.ofList segment) = true)
    (hsize : (sale segment symbol).body.utf8ByteSize ≤ bodyLimit)
    (hbook : exchange.book symbol = oneBid orderId clientOrderId) :
    ∃ auction, (exchange.answer stamp (sale segment symbol)).2.books =
      replace symbol
        { oneBid orderId clientOrderId with auctions := [(String.ofList segment, auction)] }
        exchange.books := by
  let body : Wire.AuctionBody := ⟨"1", symbol, Side.sell.auctionWord⟩
  obtain ⟨⟨presented, haccess⟩, hleads, hallows⟩ :=
    @calls_post (.beginAuction segment) hquiet rfl (Wire.encodeAuctionBody body).text
  have hread : readBody Wire.decodeAuctionBody (sale segment symbol) = .ok body :=
    readBody_post hsize (Wire.decode_auctionBody body)
  obtain ⟨out, hout⟩ := amountOut_oneBid orderId clientOrderId
  have hbegin := @Book.beginAuction_ok _ (String.ofList segment) .sell .one out rfl hout
  have hanswer := @answer_admitted exchange stamp _ _ haccess nofun _ hleads hallows
  have hbegun := @beginAuction_run (exchange.remember presented) _ _ _
    (readParameter_plain hquiet) _ hread hid .sell
    (Side.parse_auctionWord .sell) .one parse_one
  rw [book_remember, show body.symbol = symbol from rfl, hbook, hbegin] at hbegun
  refine ⟨⟨.sell, .one, out⟩, ?_⟩
  rw [sale, hanswer, serve, ← sale, hbegun]
  rfl

theorem not_begins_bid {clientOrderId symbol' : String} :
    ¬Begins (bid symbol clientOrderId) symbol' id := by
  rintro ⟨segment, -, ⟨-, hleads, -⟩, -⟩
  rw [bid, (@calls_post .order trivial rfl _).leads] at hleads
  cases hleads

/-- The identifier of the auctions, and two ways to write it. -/
def saleId : Uuid := ⟨7⟩

def hyphenatedId : List Char := "00000000-0000-0000-0000-000000000007".toList

def plainId : List Char := "00000000000000000000000000000007".toList

theorem hyphenatedId_names : Quiet hyphenatedId ∧
    Uuid.isAccepted (String.ofList hyphenatedId) = true ∧
    Uuid.named? (String.ofList hyphenatedId) = some saleId := by
  have hchars : hyphenatedId = saleId.text.toList := by decide
  rw [hchars, String.ofList_toList]
  exact ⟨saleId.quiet_text, saleId.isAccepted_text, Uuid.named?_text saleId⟩

theorem plainId_names : Quiet plainId ∧ Uuid.named? (String.ofList plainId) = some saleId := by
  decide

def twoBids : List (Stamp × Request) := [(.plain ⟨1⟩ 0, bid "A" "a"), (.plain ⟨2⟩ 0, bid "B" "b")]

def oneSale : List (Stamp × Request) := twoBids ++ [(.plain ⟨3⟩ 0, sale hyphenatedId "A")]

/-- One more for the second symbol, under the same id. -/
def twoSales : List (Stamp × Request) := oneSale ++ [(.plain ⟨4⟩ 0, sale hyphenatedId "B")]

theorem books_twoBids : (empty.afterAll twoBids).books =
    [("A", oneBid ⟨1⟩ "a"), ("B", oneBid ⟨2⟩ "b")] := by
  have hA := answer_bid empty (.plain ⟨1⟩ 0) "A" "a" rfl (by decide) (by decide)
  have hB := answer_bid (empty.answer (.plain ⟨1⟩ 0) (bid "A" "a")).2 (.plain ⟨2⟩ 0) "B" "b"
    (by rw [book, hA]; rfl) (by decide) (by decide)
  rw [twoBids, afterAll, afterAll, afterAll, hB, hA]
  rfl

theorem books_oneSale : ∃ auction, (empty.afterAll oneSale).books =
    [("A", { oneBid ⟨1⟩ "a" with auctions := [(String.ofList hyphenatedId, auction)] }),
      ("B", oneBid ⟨2⟩ "b")] := by
  obtain ⟨hquiet, haccepted, -⟩ := hyphenatedId_names
  obtain ⟨auction, hauction⟩ := answer_sale (empty.afterAll twoBids) (.plain ⟨3⟩ 0) "A"
    hquiet haccepted (by decide) (by rw [book, books_twoBids]; rfl)
  refine ⟨auction, ?_⟩
  rw [oneSale, afterAll_concat, hauction, books_twoBids]
  rfl

theorem books_twoSales : ∃ auction auction', (empty.afterAll twoSales).books =
    [("A", { oneBid ⟨1⟩ "a" with auctions := [(String.ofList hyphenatedId, auction)] }),
      ("B", { oneBid ⟨2⟩ "b" with auctions := [(String.ofList hyphenatedId, auction')] })] := by
  obtain ⟨hquiet, haccepted, -⟩ := hyphenatedId_names
  obtain ⟨auction, hbooks⟩ := books_oneSale
  obtain ⟨auction', hauction'⟩ := answer_sale (empty.afterAll oneSale) (.plain ⟨4⟩ 0) "B"
    hquiet haccepted (by decide) (by rw [book, hbooks]; rfl)
  refine ⟨auction, auction', ?_⟩
  rw [twoSales, afterAll_concat, hauction', hbooks]
  rfl

theorem aborts_withdrawal {segment : List Char} (h : Quiet segment) :
    Aborts (withdrawal segment) (String.ofList segment) :=
  ⟨segment, @calls_post (.abortAuction segment) h rfl "", readParameter_plain h⟩

theorem allClear_oneSale : empty.AllClear oneSale := by
  refine ⟨fun _ _ h => absurd h not_begins_bid, fun _ _ h => absurd h not_begins_bid, ?_, trivial⟩
  intro symbol id _ auction hmem
  have hbooks := books_twoBids
  rw [twoBids, afterAll, afterAll, afterAll] at hbooks
  rw [live, hbooks] at hmem
  exact absurd hmem List.not_mem_nil

/-- While no auction is begun under an identifier by which another goes, every identifier names at
most one live auction. Once it has been aborted the identifier is unknown, in whichever spelling,
until an auction is begun under it again. -/
theorem identifies_one (requests : List (Stamp × Request)) (clear : empty.AllClear requests) :
    (∀ uuid, (empty.afterAll requests).liveUnder uuid ≤ 1) ∧
      ∀ (uuid : Uuid) (id id' : String) (first second : Stamp × Request)
        (between : List (Stamp × Request)),
        Uuid.named? id = some uuid → Aborts first.2 id →
        (∃ response, ((empty.afterAll requests).answer first.1 first.2).1 = .ok response ∧
          response.status = 200) →
        (∀ asked ∈ between, ∀ symbol begun, Begins asked.2 symbol begun →
          Uuid.named? begun ≠ some uuid) →
        Uuid.named? id' = some uuid → Aborts second.2 id' →
        ∃ response, ((((empty.afterAll requests).answer first.1 first.2).2.afterAll between).answer
          second.1 second.2).1 = .ok response ∧ response.status = 404 := by
  have hone (uuid : Uuid) : (empty.afterAll requests).liveUnder uuid ≤ 1 :=
    liveUnder_le_one clear (Nat.zero_le 1)
  refine ⟨hone, ?_⟩
  intro uuid id id' first second between hid hfirst hdone hidle hid' hsecond
  obtain ⟨response, hresponse, hstatus⟩ := hdone
  have hgone := liveUnder_aborted hid (hone uuid) hfirst hresponse hstatus
  have hstill := @liveUnder_afterAll_le ((empty.afterAll requests).answer first.1 first.2).2 uuid
    between hidle
  exact answer_unknown hid' (Nat.le_zero.mp (hgone ▸ hstill)) hsecond

/-- Once the one auction is aborted, no spelling of its id aborts it again. -/
theorem identifies_one_oneSale :
    (∀ uuid, (empty.afterAll oneSale).liveUnder uuid ≤ 1) ∧
      ∃ response,
        ((((empty.afterAll oneSale).answer (.plain ⟨4⟩ 0) (withdrawal hyphenatedId)).2.afterAll
          [(.plain ⟨5⟩ 0, bid "A" "c")]).answer (.plain ⟨6⟩ 0) (withdrawal plainId)).1 =
          .ok response ∧
        response.status = 404 := by
  obtain ⟨hone, hgone⟩ := identifies_one oneSale allClear_oneSale
  obtain ⟨hquiet, -, hnamed⟩ := hyphenatedId_names
  obtain ⟨hquiet', hnamed'⟩ := plainId_names
  have haborts := aborts_withdrawal hquiet
  obtain ⟨auction, hbooks⟩ := books_oneSale
  have hlive :
      ((empty.afterAll oneSale).book "A").auction? (String.ofList hyphenatedId) ≠ none := by
    simp [Exchange.book, hbooks, Book.auction?]
  obtain ⟨first, -, hfirst, hdone, -⟩ := answer_aborts_live haborts (.plain ⟨4⟩ 0) hlive
  refine ⟨hone, hgone saleId _ _ (_, _) (_, _) [_] hnamed haborts ⟨first, hfirst, hdone⟩ ?_
    hnamed' (aborts_withdrawal hquiet')⟩
  intro asked hasked symbol begun hbegins
  rw [List.mem_singleton.mp hasked] at hbegins
  exact absurd hbegins not_begins_bid

/-- Two auctions begun in two books under one identifier are both live, and the identifier can be
aborted twice, on whichever ways. -/
theorem identifies_two :
    (empty.afterAll twoSales).liveUnder saleId = 2 ∧
      ∀ stamp stamp', ∃ first second,
        ((empty.afterAll twoSales).answer stamp (withdrawal hyphenatedId)).1 = .ok first ∧
        first.status = 200 ∧
        (((empty.afterAll twoSales).answer stamp (withdrawal hyphenatedId)).2.answer stamp'
          (withdrawal hyphenatedId)).1 = .ok second ∧ second.status = 200 := by
  obtain ⟨hquiet, -, hnamed⟩ := hyphenatedId_names
  have haborts := aborts_withdrawal hquiet
  obtain ⟨auction, auction', hbooks⟩ := books_twoSales
  have hlive : ∀ symbol ∈ ["A", "B"],
      ((empty.afterAll twoSales).book symbol).auction? (String.ofList hyphenatedId) ≠ none := by
    simp [Exchange.book, hbooks, List.lookup_cons, Book.auction?]
  constructor
  · rw [liveUnder, live, hbooks]
    simp [auctionsIn, goesBy, hnamed]
  · intro stamp stamp'
    obtain ⟨first, s, hfirst, hdone, hothers⟩ :=
      answer_aborts_live haborts stamp (hlive "A" (by decide))
    -- One of the two books is not the one in which the first auction is aborted.
    obtain ⟨other, hother, hne⟩ : ∃ other ∈ ["A", "B"], other ≠ s := by
      by_cases hs : s = "A"
      · exact ⟨"B", by decide, by rw [hs]; decide⟩
      · exact ⟨"A", by decide, Ne.symm hs⟩
    have hstill := hlive other hother
    rw [← hothers other hne] at hstill
    obtain ⟨second, -, hsecond, hagain, -⟩ := answer_aborts_live haborts stamp' hstill
    exact ⟨first, second, hfirst, hdone, hsecond, hagain⟩

end Exchange

end SweepAudit
