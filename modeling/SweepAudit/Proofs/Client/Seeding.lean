import SweepAudit.Proofs.Audit.Verdict
import SweepAudit.Proofs.Book.Seeding
import SweepAudit.Proofs.Client.Bodies
import SweepAudit.Proofs.Exchange.Books

/-!
Seeding a hosted exchange, whatever has happened to it before: the orders that rest there are
cancelled, and every order of the ladder is accepted. Auctions are not touched.
-/

namespace SweepAudit

open Decimal Http

namespace Client

variable {client : Client} {presented : Presented} {stamps : Stamps} {symbol : String}
  {base : Decimal}

theorem placeAll_cons {σ : Type} {venue : Venue σ} {order : Order} {orders : List Order}
    {state state' : σ} {id : String} (h : (venue.placeOrder order).run state = (.ok id, state')) :
    (Ladder.placeAll venue (order :: orders)).run state =
      (Ladder.placeAll venue orders).run state' := by
  rw [Ladder.placeAll, StateT.run_bind, h]
  rfl

theorem placeAll_stopped {σ : Type} {venue : Venue σ} {order : Order} {orders : List Order}
    {state state' : σ} {cause : CallError}
    (h : (venue.placeOrder order).run state = (.error cause, state')) :
    (Ladder.placeAll venue (order :: orders)).run state =
      (.error (.place order.clientOrderId cause), state') := by
  rw [Ladder.placeAll, StateT.run_bind, h]
  rfl

theorem fits_of_rungs (hsymbol : symbol.utf8ByteSize ≤ 2 * Url.maxLength) {side : Side}
    {price : ℚ} {first : Nat} {rungs : List Nat} {orders : List Order}
    (h : List.Forall₂ (fun i order => Ladder.IsRung symbol side price i (first + i) order) rungs
      orders) (hrungs : ∀ i ∈ rungs, first + i < 16 ^ 9) :
    ∀ order ∈ orders, (orderText order).utf8ByteSize ≤ bodyLimit := by
  induction h with
  | nil => exact fun _ horder => absurd horder List.not_mem_nil
  | cons hrung _ ih =>
    obtain ⟨hi, hrungs⟩ := List.forall_mem_cons.mp hrungs
    exact List.forall_mem_cons.mpr
      ⟨orderText_fits (hrung.symbol_eq ▸ hsymbol) hi hrung.id_eq, ih hrungs⟩

/-- Orders of a side that follow upon those that the book has are accepted one after another. -/
theorem placeAll_run (h : client.Admitted presented) (habove : 0 < base.value + 1) {side : Side}
    {first k length : Nat} {orders : List Order}
    (horders : List.Forall₂
      (fun i order => Ladder.IsRung symbol side base.value i (first + i) order)
      (List.range' k length) orders)
    (hsizes : ∀ order ∈ orders, (orderText order).utf8ByteSize ≤ bodyLimit)
    {count : Side → Nat} {hosted : Hosted}
    (hseeded : (hosted.exchange.book symbol).Seeded base.value count) (hk : count side = k)
    (hfirst : first + k = count .buy + count .sell + 1) (rest : List Order) :
    ∃ hosted',
      (Ladder.placeAll (client.venue (Hosted.network stamps)) (orders ++ rest)).run hosted =
        (Ladder.placeAll (client.venue (Hosted.network stamps)) rest).run hosted' ∧
      (hosted'.exchange.book symbol).Seeded base.value
        (Function.update count side (k + length)) ∧
      ∀ s, (hosted'.exchange.book s).auctions = (hosted.exchange.book s).auctions := by
  induction length generalizing k orders count hosted with
  | zero =>
    cases horders
    exact ⟨hosted, rfl, by rwa [Nat.add_zero, ← hk, Function.update_eq_self], fun _ => rfl⟩
  | succ length ih =>
    rw [List.range'_succ] at horders
    cases horders with
    | @cons _ order _ orders horder horders =>
    obtain ⟨hsymbol, hside, hprice, hsize, hid⟩ := horder
    obtain ⟨hshort, hsizes⟩ := List.forall_mem_cons.mp hsizes
    obtain ⟨price, hparse, hpricev⟩ := order.price.parse_canonical
    obtain ⟨size, hparse', hsizev⟩ := order.size.parse_canonical
    subst hk
    obtain ⟨book', hplace, hbook', hauctions⟩ := hseeded.place habove (hpricev.trans hprice)
      (hsizev.trans hsize) hfirst (stamps hosted.served).orderId
    have hcall := Client.placeOrder_run h hshort hparse hparse'
      (by rw [hid]; exact isBlankText_clientOrderId _)
      (by rw [hsymbol, hside, hid]; exact hplace)
    rw [hsymbol] at hcall
    obtain ⟨hosted', hrun, hseeded', hauctions'⟩ := @ih (count side + 1) orders horders hsizes
      (Function.update count side (count side + 1))
      ⟨(hosted.exchange.remember presented).setBook symbol book', hosted.served + 1⟩
      (by rw [Exchange.book_setBook, if_pos rfl]; exact hbook') (Function.update_self ..)
      (by cases side <;> simp [Function.update] <;> omega)
    refine ⟨hosted', ?_, ?_, ?_⟩
    · rw [List.cons_append, placeAll_cons hcall, hrun]
    · rwa [Function.update_idem, Nat.add_right_comm] at hseeded'
    · intro s
      rw [hauctions', Exchange.book_setBook]
      split
      · rename_i hs
        rw [hs, hauctions]
      · rfl

/-- Seeding is placing the orders once everything has been cancelled. -/
theorem seed_cleared (h : client.Admitted presented) (hosted : Hosted) {ladder : Ladder}
    {orders : List Order} (horders : ladder.orders base = .ok orders)
    {result : Except SeedError Unit} {seeded : Hosted}
    (hplaced : (Ladder.placeAll (client.venue (Hosted.network stamps)) orders).run
      ⟨(hosted.exchange.remember presented).cancelled, hosted.served + 1⟩ = (result, seeded)) :
    (ladder.seed (client.venue (Hosted.network stamps)) base).run.run hosted =
      (.ok result, seeded) := by
  rw [Ladder.seed, Guarded.run_lift_bind, Client.cancelAll_run h]
  change (Guarded.ofExcept (ladder.orders base) >>= fun orders =>
    (liftM (Ladder.placeAll (client.venue (Hosted.network stamps)) orders) :
      Guarded Hosted (Except SeedError Unit))).run.run _ = _
  rw [horders, Guarded.run_ofExcept_bind, Guarded.run_lift, hplaced]

theorem seed_run (stamps : Stamps) (h : client.Admitted presented) (hosted : Hosted)
    {levels : UInt32} (hfits : Ladder.Fits base levels.toNat) {symbol : String}
    (hsymbol : symbol.utf8ByteSize ≤ 2 * Url.maxLength) :
    ∃ seeded,
      ((Ladder.ofDepth symbol levels).seed (client.venue (Hosted.network stamps)) base).run.run
        hosted = (.ok (.ok ()), seeded) ∧
      (seeded.exchange.book symbol).Seeded base.value (fun _ => levels.toNat) ∧
      ∀ s, (seeded.exchange.book s).auctions = (hosted.exchange.book s).auctions := by
  obtain ⟨asks, bids, horders, hasks, hbids⟩ := Ladder.orders_exact hfits symbol
  have hempty : (((hosted.exchange.remember presented).cancelled).book symbol).Seeded base.value
      (fun _ => 0) := by
    rw [Exchange.book_cancelled]
    exact Book.seeded_empty _ _
  rw [List.range_eq_range'] at hasks hbids
  have hdepth := levels.toNat_lt
  have hrungs {first i : Nat} (hfirst : first ≤ levels.toNat + 1)
      (hi : i ∈ List.range' 0 levels.toNat) : first + i < 16 ^ 9 := by
    have := (List.mem_range'_1.mp hi).2
    omega
  obtain ⟨asked, hrun, hasked, hauctions⟩ := @placeAll_run client presented stamps symbol base h
    hfits.above .sell 1 0 levels.toNat asks hasks
    (fits_of_rungs hsymbol hasks fun _ => hrungs (by omega)) (fun _ => 0)
    ⟨(hosted.exchange.remember presented).cancelled, hosted.served + 1⟩ hempty rfl rfl bids
  obtain ⟨seeded, hrun', hseeded, hauctions'⟩ := @placeAll_run client presented stamps symbol base h
    hfits.above .buy (levels.toNat + 1) 0 levels.toNat bids hbids
    (fits_of_rungs hsymbol hbids fun _ => hrungs (by omega)) _ asked hasked (by simp) (by simp) []
  rw [List.append_nil] at hrun'
  refine ⟨seeded, ?_, ?_, ?_⟩
  · apply seed_cleared h hosted horders
    rw [hrun, hrun']
    rfl
  · have hcount : Function.update (Function.update (fun _ => 0) Side.sell (0 + levels.toNat))
        Side.buy (0 + levels.toNat) = fun _ => levels.toNat := by
      funext side
      cases side <;> simp [Function.update]
    rwa [hcount] at hseeded
  · intro s
    rw [hauctions', hauctions, Exchange.book_cancelled]
    rfl

end Client

end SweepAudit
