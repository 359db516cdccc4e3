import SweepAudit.Proofs.Audit.SelfCheck
import SweepAudit.Proofs.Book.Placing

/-!
Seeding a hosted exchange with any ladder, whatever rests there. The orders are taken up to the
first that the exchange does not accept, and afterwards they are all that rests anywhere. The
ladder decides how far that goes and what the book comes to, not the past of the exchange. It
takes only that the exchange does not give one id to two of the orders. Ladders whose numbers
overflow are not considered.
-/

namespace SweepAudit

open Http

/-- From the given request on, so many requests place orders under ids that all differ. -/
def Stamps.Distinct (stamps : Stamps) (first count : Nat) : Prop :=
  ∀ m n, first ≤ m → m < n → n < first + count → (stamps m).orderId ≠ (stamps n).orderId

theorem Stamps.distinct_counted {count : Nat} (h : count ≤ 2 ^ 128) (first : Nat) :
    Stamps.counted.Distinct first count := by
  intro m n hm hmn hn heq
  have hbits : BitVec.ofNat 128 m = BitVec.ofNat 128 n := congrArg Uuid.bits heq
  have hmod := congrArg BitVec.toNat hbits
  rw [BitVec.toNat_ofNat, BitVec.toNat_ofNat] at hmod
  omega

namespace Client

variable {client : Client} {presented : Presented} {stamps : Stamps} {symbol : String}
  {order : Order}

/-- An exchange takes the order, unless it has one of the same id: price and size are above zero,
and what is sent is no longer than what is read. -/
structure Placeable (order : Order) : Prop where
  price_pos : order.price.IsPositive
  size_pos : order.size.IsPositive
  short : (orderText order).utf8ByteSize ≤ bodyLimit

theorem placeOrder_taken (stamps : Stamps) (h : client.Admitted presented) (hosted : Hosted)
    (horder : Placeable order) (hid : Text.isBlankText order.clientOrderId = false)
    (hfresh : order.clientOrderId ∉ (hosted.exchange.book order.symbol).clientOrderIds) :
    ∃ book, (hosted.exchange.book order.symbol).placed (stamps hosted.served).orderId order =
        .ok book ∧
      ((client.venue (Hosted.network stamps)).placeOrder order).run hosted =
        (.ok (stamps hosted.served).orderId.text,
          ⟨(hosted.exchange.remember presented).setBook order.symbol book, hosted.served + 1⟩) := by
  obtain ⟨book, hplaced⟩ := @Book.place_ok (hosted.exchange.book order.symbol)
    (stamps hosted.served).orderId order.side order.price.arrived order.size.arrived _
    (order.price.isPositive_arrived.mpr horder.price_pos)
    (order.size.isPositive_arrived.mpr horder.size_pos) hfresh
  exact ⟨book, hplaced, placeOrder_run h horder.short order.price.parse_arrived
    order.size.parse_arrived hid hplaced⟩

/-- An order that is not accepted meets the same refusal whatever rests, and changes no book. -/
theorem placeOrder_turnedDown (h : client.Admitted presented) (horder : ¬Placeable order)
    (hid : Text.isBlankText order.clientOrderId = false) :
    ∃ cause, ∀ (stamps : Stamps) (hosted : Hosted), ∃ hosted',
      ((client.venue (Hosted.network stamps)).placeOrder order).run hosted =
        (.error cause, hosted') ∧ ∀ s, hosted'.exchange.book s = hosted.exchange.book s := by
  by_cases hshort : (orderText order).utf8ByteSize ≤ bodyLimit
  · have hrefused {e : BookError} (hplace : ∀ (book : Book) (id : Uuid), book.place id order.side
        order.price.arrived order.size.arrived order.clientOrderId = .error e) :
        ∃ cause, ∀ (stamps : Stamps) (hosted : Hosted), ∃ hosted',
          ((client.venue (Hosted.network stamps)).placeOrder order).run hosted =
            (.error cause, hosted') ∧ ∀ s, hosted'.exchange.book s = hosted.exchange.book s :=
      ⟨_, fun _ hosted => ⟨_, placeOrder_refused h hshort order.price.parse_arrived
        order.size.parse_arrived hid (hplace _ _), Exchange.book_opened _ _⟩⟩
    by_cases hprice : order.price.arrived.IsPositive
    · have hsize : ¬order.size.arrived.IsPositive := fun hsize =>
        horder ⟨order.price.isPositive_arrived.mp hprice, order.size.isPositive_arrived.mp hsize,
          hshort⟩
      apply hrefused
      intro book id
      rw [Book.place, if_neg (not_not_intro hprice), if_pos hsize]
    · apply hrefused
      intro book id
      rw [Book.place, if_pos hprice]
  · exact ⟨_, fun _ hosted =>
      ⟨_, placeOrder_oversized h (Nat.lt_of_not_le hshort), fun _ => rfl⟩⟩

end Client

namespace Ladder

open Client

variable {client : Client} {presented : Presented} {stamps : Stamps} {symbol : String}
  {orders resting : List Order} {before after after' : Exchange} {result : Except SeedError Unit}

/-- What comes of placing orders one after another, and which of them rest then. -/
inductive Outcome : List Order → Except SeedError Unit → List Order → Prop where
  | placed {orders : List Order} : (∀ order ∈ orders, Placeable order) →
      Outcome orders (.ok ()) orders
  | stopped {resting behind : List Order} {order : Order} (cause : CallError) :
      (∀ order ∈ resting, Placeable order) → ¬Placeable order →
      Outcome (resting ++ order :: behind) (.error (.place order.clientOrderId cause)) resting

theorem Outcome.cons {order : Order} (horder : Placeable order)
    (h : Outcome orders result resting) : Outcome (order :: orders) result (order :: resting) := by
  cases h with
  | placed horders => exact .placed (List.forall_mem_cons.mpr ⟨horder, horders⟩)
  | stopped cause hresting hnot =>
    exact .stopped cause (List.forall_mem_cons.mpr ⟨horder, hresting⟩) hnot

theorem Outcome.ok_iff (h : Outcome orders result resting) :
    result = .ok () ↔ ∀ order ∈ orders, Placeable order := by
  cases h with
  | placed horders => exact iff_of_true rfl horders
  | stopped cause hresting hnot =>
    refine iff_of_false (fun hok => by cases hok) fun hall => hnot (hall _ ?_)
    exact List.mem_append_right _ List.mem_cons_self

theorem Outcome.eq_of_stop {placed behind : List Order} {order : Order}
    (h : Outcome (placed ++ order :: behind) result resting)
    (hplaced : ∀ order ∈ placed, Placeable order) (horder : ¬Placeable order) :
    resting = placed ∧ ∃ cause, result = .error (.place order.clientOrderId cause) := by
  generalize hall : placed ++ order :: behind = all at h
  cases h with
  | placed horders =>
    subst hall
    exact absurd (horders order (List.mem_append_right _ List.mem_cons_self)) horder
  | @stopped resting behind' order' cause hresting hnot =>
    -- Neither list can go on where the other has come to an order that is not accepted.
    obtain ⟨between, rfl, hbehind⟩ | ⟨between, rfl, hbehind⟩ := List.append_eq_append_iff.mp hall
    · cases between with
      | nil =>
        cases hbehind
        exact ⟨List.append_nil _, cause, rfl⟩
      | cons =>
        cases hbehind
        exact absurd (hresting _ (by simp)) horder
    · cases between with
      | nil =>
        cases hbehind
        exact ⟨(List.append_nil _).symm, cause, rfl⟩
      | cons =>
        cases hbehind
        exact absurd (hplaced _ (by simp)) hnot

theorem Outcome.eq_of_ok (h : Outcome orders (.ok ()) resting) : resting = orders := by
  cases h
  rfl

/-- An exchange that has been seeded: the orders rest in the book of the symbol, which is the same
for all seedings but for the ids, no other book has any, and all auctions are as before. -/
structure Seeds (symbol : String) (orders : List Order) (before after : Exchange) : Prop where
  holds : (after.book symbol).Holds orders
  stacked : (after.book symbol).anonymous = Book.stacked orders
  others : ∀ s, s ≠ symbol → after.book s = { Book.empty with auctions := (before.book s).auctions }
  auctions : ∀ s, (after.book s).auctions = (before.book s).auctions

theorem Seeds.of_books (h : Seeds symbol orders before after)
    (hbooks : ∀ s, after'.book s = after.book s) : Seeds symbol orders before after' where
  holds := hbooks symbol ▸ h.holds
  stacked := hbooks symbol ▸ h.stacked
  others := fun s hs => hbooks s ▸ h.others s hs
  auctions := fun s => hbooks s ▸ h.auctions s

theorem seeds_cancelled (symbol : String) (exchange : Exchange) :
    Seeds symbol [] exchange exchange.cancelled where
  holds := by
    rw [Exchange.book_cancelled]
    exact Book.holds_nil _
  stacked := by
    rw [Exchange.book_cancelled]
    rfl
  others := fun s _ => Exchange.book_cancelled ..
  auctions := by
    intro s
    rw [Exchange.book_cancelled]

theorem Seeds.place {order : Order} {id : Uuid} {book : Book} (h : Seeds symbol orders before after)
    (hid : id ∉ (after.book symbol).queued.map (·.id))
    (hplaced : (after.book symbol).placed id order = .ok book) :
    Seeds symbol (orders ++ [order]) before (after.setBook symbol book) := by
  have hbook : (after.setBook symbol book).book symbol = book := by
    rw [Exchange.book_setBook, if_pos rfl]
  refine ⟨?_, ?_, ?_, ?_⟩
  · rw [hbook]
    exact h.holds.placed hid hplaced
  · rw [hbook]
    exact Book.stacked_placed h.stacked hplaced
  · intro s hs
    rw [Exchange.book_setBook, if_neg hs]
    exact h.others s hs
  · intro s
    rw [Exchange.book_setBook]
    split
    · rename_i hs
      obtain ⟨-, -, -, -, hauctions, -, -⟩ := Book.place_eq_ok hplaced
      rw [hauctions, hs, h.auctions]
    · exact h.auctions s

/-- The orders in the book have got their ids from the requests since the given one. -/
def Numbered (stamps : Stamps) (first : Nat) (hosted : Hosted) (symbol : String) : Prop :=
  ∀ order ∈ (hosted.exchange.book symbol).queued, ∃ m, first ≤ m ∧ m < hosted.served ∧
    order.id = (stamps m).orderId

theorem Numbered.fresh {first count : Nat} {hosted : Hosted}
    (h : Numbered stamps first hosted symbol) (hdistinct : stamps.Distinct first count)
    (hnear : hosted.served < first + count) :
    (stamps hosted.served).orderId ∉ (hosted.exchange.book symbol).queued.map (·.id) := by
  intro hmem
  obtain ⟨order, horder, hid⟩ := List.mem_map.mp hmem
  obtain ⟨m, hfirst, hm, heq⟩ := h order horder
  exact hdistinct m hosted.served hfirst hm hnear (heq.symm.trans hid)

theorem Numbered.place {first : Nat} {hosted : Hosted} {order : Order} {book : Book}
    (h : Numbered stamps first hosted symbol) (hfirst : first ≤ hosted.served)
    (hplaced : (hosted.exchange.book symbol).placed (stamps hosted.served).orderId order =
      .ok book) :
    Numbered stamps first
      ⟨(hosted.exchange.remember presented).setBook symbol book, hosted.served + 1⟩ symbol := by
  intro resting hresting
  rw [Exchange.book_setBook, if_pos rfl] at hresting
  rcases List.mem_cons.mp ((Book.place_queued hplaced).mem_iff.mp hresting) with rfl | hresting
  · exact ⟨hosted.served, hfirst, Nat.lt_succ_self _, rfl⟩
  · obtain ⟨m, hm, hserved, hid⟩ := h resting hresting
    exact ⟨m, hm, Nat.lt_succ_of_lt hserved, hid⟩

/-- Placing orders behind others, which have been placed since the given request. -/
theorem placeAll_seeds (h : client.Admitted presented) (orders placed : List Order)
    (hsymbol : ∀ order ∈ orders, order.symbol = symbol)
    (hnamed : ∀ order ∈ orders, Text.isBlankText order.clientOrderId = false)
    (hnodup : ((placed ++ orders).map (·.clientOrderId)).Nodup) :
    ∃ result resting, Outcome orders result resting ∧
      ∀ (stamps : Stamps) (before : Exchange) (first : Nat) (hosted : Hosted),
        stamps.Distinct first (placed ++ orders).length →
        Seeds symbol placed before hosted.exchange → Numbered stamps first hosted symbol →
        hosted.served = first + placed.length →
        ∃ seeded,
          (placeAll (client.venue (Hosted.network stamps)) orders).run hosted = (result, seeded) ∧
          Seeds symbol (placed ++ resting) before seeded.exchange := by
  induction orders generalizing placed with
  | nil =>
    refine ⟨_, _, .placed fun _ horder => absurd horder List.not_mem_nil, ?_⟩
    intro stamps before first hosted _ hseeds _ _
    exact ⟨hosted, rfl, by rwa [List.append_nil]⟩
  | cons order orders ih =>
    obtain ⟨hthis, hsymbol⟩ := List.forall_mem_cons.mp hsymbol
    obtain ⟨hname, hnamed⟩ := List.forall_mem_cons.mp hnamed
    by_cases horder : Placeable order
    · have hunused : order.clientOrderId ∉ placed.map (·.clientOrderId) := by
        rw [List.map_append, List.map_cons, List.nodup_middle] at hnodup
        exact fun hmem => (List.nodup_cons.mp hnodup).1 (List.mem_append_left _ hmem)
      rw [List.append_cons] at hnodup ⊢
      obtain ⟨result, resting, houtcome, hrest⟩ := ih (placed ++ [order]) hsymbol hnamed hnodup
      refine ⟨result, order :: resting, houtcome.cons horder, ?_⟩
      intro stamps before first hosted hdistinct hseeds hnumbered hserved
      have hfresh : order.clientOrderId ∉ (hosted.exchange.book symbol).clientOrderIds := by
        rwa [hseeds.holds.clients, List.mem_reverse]
      subst hthis
      obtain ⟨book, hplaced, hrun⟩ := placeOrder_taken stamps h hosted horder hname hfresh
      have hid := hnumbered.fresh hdistinct (by simp; omega)
      obtain ⟨seeded, hrun', hseeds'⟩ := hrest stamps before first
        ⟨(hosted.exchange.remember presented).setBook order.symbol book, hosted.served + 1⟩
        hdistinct ((hseeds.place hid hplaced).of_books fun _ => rfl)
        (hnumbered.place (by omega) hplaced) (by simp; omega)
      refine ⟨seeded, ?_, by rwa [List.append_cons]⟩
      rw [Client.placeAll_cons hrun, hrun']
    · obtain ⟨cause, hcause⟩ := placeOrder_turnedDown h horder hname
      refine ⟨_, [], .stopped cause (fun _ horder => absurd horder List.not_mem_nil) horder, ?_⟩
      intro stamps before first hosted _ hseeds _ _
      obtain ⟨hosted', hrun, hbooks⟩ := hcause stamps hosted
      refine ⟨hosted', Client.placeAll_stopped hrun, ?_⟩
      rw [List.append_nil]
      exact hseeds.of_books hbooks

/-- However often an exchange is seeded, and after whatever, it comes to the same. -/
theorem seed_fixed {scheme : Scheme} {key : String} {ladder : Ladder} {base : Decimal}
    (hbase : client.IsLocal)
    (hkey : Credential.ofKey scheme key = .ok client.credential)
    (hplain : client.credential.value.toList.all isPlainChar = true)
    (horders : ladder.orders base = .ok orders) :
    ∃ result resting, Outcome orders result resting ∧
      (result = .ok () ↔ ∀ order ∈ orders, Placeable order) ∧
      ∀ (stamps : Stamps) (hosted : Hosted), stamps.Distinct (hosted.served + 1) orders.length →
        ∃ seeded,
          (ladder.seed (client.venue (Hosted.network stamps)) base).run.run hosted =
            (.ok result, seeded) ∧
          Seeds ladder.symbol resting hosted.exchange seeded.exchange ∧
          ∀ limit, (seeded.exchange.book ladder.symbol).depth limit =
            (Book.stacked resting).depth limit := by
  obtain ⟨presented, haccepted⟩ := Credential.accepted hkey hplain
  have hadmitted : client.Admitted presented := ⟨hbase, haccepted⟩
  obtain ⟨hsymbol, hids⟩ := orders_eq_ok horders
  have hnamed : ∀ order ∈ orders, Text.isBlankText order.clientOrderId = false := by
    intro order horder
    have hid : order.clientOrderId ∈ orders.map (·.clientOrderId) := List.mem_map_of_mem horder
    rw [hids] at hid
    obtain ⟨n, -, hn⟩ := List.mem_map.mp hid
    rw [← hn]
    exact isBlankText_clientOrderId n
  have hnodup : (orders.map (·.clientOrderId)).Nodup := by
    rw [hids]
    exact List.Nodup.map (fun _ _ => clientOrderId_injective) List.nodup_range'
  obtain ⟨result, resting, houtcome, hall⟩ :=
    placeAll_seeds hadmitted orders [] hsymbol hnamed hnodup
  refine ⟨result, resting, houtcome, houtcome.ok_iff, fun stamps hosted hdistinct => ?_⟩
  have hcleared : Numbered stamps (hosted.served + 1)
      ⟨(hosted.exchange.remember presented).cancelled, hosted.served + 1⟩ ladder.symbol := by
    intro order horder
    rw [Exchange.book_cancelled] at horder
    exact absurd horder List.not_mem_nil
  obtain ⟨seeded, hrun, hseeds⟩ := hall stamps hosted.exchange (hosted.served + 1)
    ⟨(hosted.exchange.remember presented).cancelled, hosted.served + 1⟩ hdistinct
    ((seeds_cancelled ladder.symbol hosted.exchange).of_books fun _ => rfl) hcleared rfl
  refine ⟨seeded, ?_, ?_, ?_⟩
  · exact Client.seed_cleared hadmitted hosted horders hrun
  · exact hseeds
  · intro limit
    rw [← Book.depth_anonymous, hseeds.stacked]
    rfl

/-- A ladder that goes down in price by one a level. -/
def falling : Ladder := { ofDepth "ETH-USD" 2 with priceStep := Decimal.one.neg }

/-- A ladder that rests as a whole, and one that stops at its second level, at a price of zero. -/
theorem seed_fixed_usual :
    (∃ orders, (ofDepth "ETH-USD" 1).orders (.ofUInt32 2000) = .ok orders ∧
      ∀ hosted : Hosted, ∃ seeded,
        ((ofDepth "ETH-USD" 1).seed (Audit.usualClient.venue (Hosted.network .counted))
          (.ofUInt32 2000)).run.run hosted = (.ok (.ok ()), seeded) ∧
        Seeds "ETH-USD" orders hosted.exchange seeded.exchange) ∧
    ∃ cause, ∀ hosted : Hosted, ∃ seeded,
      (falling.seed (Audit.usualClient.venue (Hosted.network .counted)) (.ofUInt32 2)).run.run
        hosted = (.ok (.error (.place (clientOrderId 2) cause)), seeded) ∧
      Seeds "ETH-USD" [⟨"ETH-USD", .sell, .one, .ten, clientOrderId 1⟩] hosted.exchange
        seeded.exchange := by
  have hsymbol : "ETH-USD".utf8ByteSize ≤ 2 * Url.maxLength := by decide
  have hplaceable (side : Side) {n : Nat} (hn : n < 16 ^ 9) {price size : Decimal}
      (hprice : price.IsPositive) (hsize : size.IsPositive) :
      Placeable ⟨"ETH-USD", side, price, size, clientOrderId n⟩ :=
    ⟨hprice, hsize, orderText_fits hsymbol hn rfl⟩
  have hlocal : Audit.usualClient.IsLocal := ⟨.first, rfl⟩
  constructor
  · have horders : (ofDepth "ETH-USD" 1).orders (.ofUInt32 2000) =
        .ok [⟨"ETH-USD", .sell, .ofUInt32 2001, .ofUInt32 10, clientOrderId 1⟩,
          ⟨"ETH-USD", .buy, .ofUInt32 2001, .ofUInt32 10, clientOrderId 2⟩] := by
      decide +kernel
    obtain ⟨result, resting, houtcome, hok, hall⟩ := @seed_fixed Audit.usualClient _ .apiKey
      "abcdef12345" _ _ hlocal (by decide +kernel) (by decide +kernel) horders
    have hprice : (Decimal.ofUInt32 2001).IsPositive := by decide
    have hsize : (Decimal.ofUInt32 10).IsPositive := by decide
    obtain rfl := hok.mpr (List.forall_mem_cons.mpr ⟨hplaceable .sell (by decide) hprice hsize,
      List.forall_mem_singleton.mpr (hplaceable .buy (by decide) hprice hsize)⟩)
    obtain rfl := houtcome.eq_of_ok
    refine ⟨_, horders, fun hosted => ?_⟩
    obtain ⟨seeded, hrun, hseeds, -⟩ := hall .counted hosted (Stamps.distinct_counted (by simp) _)
    exact ⟨seeded, hrun, hseeds⟩
  · have horders : falling.orders (.ofUInt32 2) =
        .ok ([⟨"ETH-USD", .sell, .one, .ten, clientOrderId 1⟩] ++
          ⟨"ETH-USD", .sell, .zero, .ofUInt32 20, clientOrderId 2⟩ ::
          [⟨"ETH-USD", .buy, .one, .ten, clientOrderId 3⟩,
            ⟨"ETH-USD", .buy, .zero, .ofUInt32 20, clientOrderId 4⟩]) := by
      decide +kernel
    obtain ⟨result, resting, houtcome, -, hall⟩ := @seed_fixed Audit.usualClient _ .apiKey
      "abcdef12345" _ _ hlocal (by decide +kernel) (by decide +kernel) horders
    obtain ⟨rfl, cause, rfl⟩ := houtcome.eq_of_stop
      (List.forall_mem_singleton.mpr (hplaceable .sell (by decide) (by decide) (by decide)))
      fun hzero => absurd hzero.price_pos (by decide)
    refine ⟨cause, fun hosted => ?_⟩
    obtain ⟨seeded, hrun, hseeds, -⟩ := hall .counted hosted (Stamps.distinct_counted (by simp) _)
    exact ⟨seeded, hrun, hseeds⟩

theorem positive_of_rungs {side : Side} {price : ℚ} {first : Nat} {rungs : List Nat}
    (habove : 0 < price + 1)
    (h : List.Forall₂ (fun i order => IsRung symbol side price i (first + i) order) rungs orders) :
    ∀ order ∈ orders, order.price.IsPositive ∧ order.size.IsPositive := by
  induction h with
  | nil => exact fun _ horder => absurd horder List.not_mem_nil
  | @cons i order _ _ hrung _ ih =>
    have hi : (0 : ℚ) ≤ i := Nat.cast_nonneg i
    refine List.forall_mem_cons.mpr ⟨⟨?_, ?_⟩, ih⟩
    · rw [Decimal.isPositive_iff, hrung.price_eq]
      linarith
    · rw [Decimal.isPositive_iff, hrung.size_eq]
      positivity

/-- A symbol that takes up all that is read of a body keeps the orders from being read, and with a
foreign key nothing is even cancelled. -/
theorem seed_unfixed_long_foreign :
    (∃ orders cause seeded,
      (ofDepth (Audit.longSymbol bodyLimit.succ) 3).orders (.ofUInt32 2000) = .ok orders ∧
      (∀ order ∈ orders, order.price.IsPositive ∧ order.size.IsPositive) ∧
      ((ofDepth (Audit.longSymbol bodyLimit.succ) 3).seed
        (Audit.usualClient.venue (Hosted.network .counted)) (.ofUInt32 2000)).run.run .empty =
        (.ok (.error (.place (clientOrderId 1) cause)), seeded)) ∧
    Credential.ofKey .apiKey "é" = .ok Audit.foreignClient.credential ∧
    ((((ofDepth "ETH-USD" 3).orders (.ofUInt32 2000)).toOption.map fun orders =>
      orders.all fun order => order.price.IsPositive ∧ order.size.IsPositive) = some true) ∧
    (((ofDepth "ETH-USD" 3).seed (Audit.foreignClient.venue (Hosted.network .counted))
      (.ofUInt32 2000)).run.run .empty).1 =
      .ok (.error (.cancel (.status 401
        (Payload.bodyText (errorReply 401 AccessError.missing.message))))) := by
  refine ⟨?_, by decide +kernel, by decide +kernel, by decide +kernel⟩
  have hadmitted : Audit.usualClient.Admitted ⟨.apiKey, "abcdef12345"⟩ :=
    ⟨⟨.first, rfl⟩, by decide⟩
  have hfits : Fits (.ofUInt32 2000) (3 : UInt32).toNat := Audit.fits_usual
  obtain ⟨asks, bids, horders, hasks, hbids⟩ := orders_exact hfits (Audit.longSymbol bodyLimit.succ)
  have hpositive := List.forall_mem_append.mpr
    ⟨positive_of_rungs hfits.above hasks, positive_of_rungs hfits.above hbids⟩
  cases hasks with
  | @cons _ order _ asks hfirst _ =>
    have hlong : bodyLimit < (orderText order).utf8ByteSize := by
      have hsize := symbol_le_orderText order
      rwa [hfirst.symbol_eq, Audit.utf8ByteSize_longSymbol] at hsize
    have hrun : (placeAll (Audit.usualClient.venue (Hosted.network .counted))
        (order :: asks ++ bids)).run
          ⟨(Exchange.empty.remember ⟨.apiKey, "abcdef12345"⟩).cancelled, 1⟩ = _ :=
      Client.placeAll_stopped (placeOrder_oversized hadmitted hlong)
    rw [hfirst.id_eq] at hrun
    exact ⟨_, _, _, horders, hpositive, Client.seed_cleared hadmitted .empty horders hrun⟩

end Ladder

end SweepAudit
