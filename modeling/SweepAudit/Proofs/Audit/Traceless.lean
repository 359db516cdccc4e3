import SweepAudit.Audit.Run
import SweepAudit.Proofs.Client.Calls
import SweepAudit.Proofs.Exchange.Alike
import SweepAudit.Proofs.Exchange.Identity

/-!
What an audit of a hosted exchange leaves behind, which is nothing. A scenario reads the depth and
begins one auction at most, and aborts it if it was begun, whatever the scenario makes of it. So
every scenario leaves each book as it was, and so does every audit, wherever it ends. It takes
only that the ids of its auctions are new.
-/

namespace SweepAudit

open Http

variable {σ α β : Type} {P : σ → Prop}

namespace Guarded

/-- What holds of the state before a computation holds of the state after it, be it ended or not. -/
def Keeps (P : σ → Prop) (x : Guarded σ α) : Prop :=
  ∀ state, P state → P (x.run.run state).2

theorem keeps_pure (a : α) : Keeps P (pure a : Guarded σ α) := fun _ h => h

theorem keeps_bind {x : Guarded σ α} {f : α → Guarded σ β} (hx : Keeps P x)
    (hf : ∀ a, Keeps P (f a)) : Keeps P (x >>= f) := by
  intro state h
  have hafter := hx state h
  rw [ExceptT.run_bind, StateT.run_bind]
  cases hrun : x.run.run state with
  | mk result state' =>
    rw [hrun] at hafter
    cases result with
    | error o => exact hafter
    | ok a => exact hf a state' hafter

theorem keeps_lift {x : StateM σ α} (hx : ∀ state, P state → P (x.run state).2) :
    Keeps P (liftM x : Guarded σ α) := hx

theorem keeps_ofExcept (result : Except Overflow α) :
    Keeps P (Guarded.ofExcept result : Guarded σ α) := by
  intro state h
  cases result <;> exact h

end Guarded

open Guarded

/-! Any venue -/

namespace Scenario

variable {venue : Venue σ} {symbol : String} {id : Uuid}

theorem release_settled (venue : Venue σ) (request : AuctionRequest) (settlement : Settlement)
    (state : σ) : ((release venue request (.ok settlement)).run state).2 =
      ((venue.abortAuction (settlement.auctionId.getD request.auctionId.text)).run state).2 := rfl

/-- A scenario keeps what is kept by reading the depth, and by an auction and its release. -/
theorem keeps_run (hdepth : ∀ state, P state → P ((venue.depth symbol).run state).2)
    (hauction : ∀ state request, request.auctionId = id → P state →
      P ((release venue request ((venue.beginAuction request).run state).1).run
        ((venue.beginAuction request).run state).2).2)
    (scenario : Scenario) : Keeps P (scenario.run venue symbol id) := by
  rw [run]
  refine keeps_bind (keeps_lift hdepth) fun answer => ?_
  split
  · exact keeps_pure _
  · split
    · exact keeps_pure _
    · split
      · exact keeps_pure _
      · refine keeps_bind (keeps_ofExcept _) fun fund => keeps_lift ?_
        exact fun state h => hauction state _ rfl h

theorem keeps_runCounted {scenario : Scenario} (h : Keeps P (scenario.run venue symbol id)) :
    Keeps (fun session => P session.venue) (scenario.runCounted venue symbol id) := by
  intro session hsession
  have hafter := h session.venue hsession
  change P ((scenario.runCounted venue symbol id) session).2.venue
  rw [runCounted]
  split <;> rename_i hrun <;> rwa [hrun] at hafter

end Scenario

namespace Audit

variable {venue : Venue σ} {symbol : String} {idFor : Scenario → Uuid}

theorem keeps_runAll
    (h : ∀ scenario : Scenario, Keeps P (scenario.run venue symbol (idFor scenario)))
    (scenarios : List Scenario) :
    Keeps (fun session => P session.venue) (runAll venue symbol idFor scenarios) := by
  induction scenarios with
  | nil => exact keeps_pure _
  | cons scenario scenarios ih =>
    rw [runAll]
    refine keeps_bind (Scenario.keeps_runCounted (h scenario)) fun report => ?_
    split
    · exact keeps_bind ih fun _ => keeps_pure _
    · exact keeps_pure _

theorem keeps_run
    (h : ∀ scenario : Scenario, Keeps P (scenario.run venue symbol (idFor scenario))) :
    Keeps (fun session => P session.venue) (run venue symbol idFor) :=
  keeps_bind (keeps_runAll h _) fun _ => keeps_pure _

end Audit

/-! A hosted exchange -/

namespace Client

variable {client : Client} {stamps : Stamps} {hosted : Hosted} {exchange : Exchange}

theorem depth_alike (h : Exchange.Alike hosted.exchange exchange) (symbol : String) :
    Exchange.Alike (((client.venue (Hosted.network stamps)).depth symbol).run hosted).2.exchange
      exchange :=
  fun s => (client.depth_keeps stamps hosted symbol s).trans (h s)

/-- An auction that is released is gone, begun or not. -/
theorem auction_alike (hbase : client.IsLocal)
    (h : Exchange.Alike hosted.exchange exchange) {request : AuctionRequest}
    (hfresh : ∀ s, (exchange.book s).auction? request.auctionId.text = none) :
    Exchange.Alike ((Scenario.release (client.venue (Hosted.network stamps)) request
      (((client.venue (Hosted.network stamps)).beginAuction request).run hosted).1).run
        (((client.venue (Hosted.network stamps)).beginAuction request).run hosted).2).2.exchange
      exchange := by
  rcases beginAuction_run stamps hbase hosted request with ⟨e, hosted', hrun, hbooks⟩ |
    ⟨presented, symbol, side, amountIn, out, book, hadmitted, hbegin, hrun⟩
  · rw [hrun]
    exact fun s => (hbooks s).trans (h s)
  · have hnone : ∀ s,
        ((hosted.exchange.remember presented).book s).auction? request.auctionId.text = none := by
      intro s
      rw [Exchange.book_remember, h s]
      exact hfresh s
    have hafter := @abortAuction_run client presented
      ⟨(hosted.exchange.remember presented).setBook symbol book, hosted.served + 1⟩ stamps hadmitted
      request.auctionId
    have hgone : ((((hosted.exchange.remember presented).setBook symbol book).remember
        presented).abort? (stamps (hosted.served + 1)).books request.auctionId.text) =
        some ((hosted.exchange.remember presented).opened symbol) :=
      Exchange.abort_begun hnone hbegin
    rw [hrun, Scenario.release_settled, Option.getD_some, hafter, hgone]
    exact fun s => (Exchange.book_opened _ symbol s).trans (h s)

theorem keeps_scenario (stamps : Stamps) (hbase : client.IsLocal) {id : Uuid}
    (hfresh : ∀ s, (exchange.book s).auction? id.text = none) (symbol : String)
    (scenario : Scenario) :
    Keeps (fun hosted : Hosted => Exchange.Alike hosted.exchange exchange)
      (scenario.run (client.venue (Hosted.network stamps)) symbol id) := by
  apply Scenario.keeps_run
  · exact fun hosted h => depth_alike h symbol
  · intro hosted request hid h
    exact auction_alike hbase h (hid ▸ hfresh)

end Client

/-- An exchange cannot be told from what it was: not by its books, nor by what it will answer. -/
structure Exchange.Traceless (exchange exchange' : Exchange) : Prop where
  book_eq : ∀ symbol, exchange'.book symbol = exchange.book symbol
  indistinct : Indistinct exchange' exchange

theorem Exchange.Traceless.of_alike {exchange exchange' : Exchange}
    (h : Alike exchange' exchange) : Traceless exchange exchange' := ⟨h, h.indistinct⟩

namespace Audit

/-- Whatever the exchange has been through and whatever the audit comes to. -/
theorem traceless (client : Client) (hbase : client.IsLocal) (stamps : Stamps)
    (requests : List (Stamp × Request)) (served : Nat) (symbol : String)
    (idFor : Scenario → Uuid) (tally : Tally)
    (hfresh : ∀ scenario s,
      ((Exchange.empty.afterAll requests).book s).auction? (idFor scenario).text = none) :
    Exchange.Traceless (Exchange.empty.afterAll requests)
      ((run (client.venue (Hosted.network stamps)) symbol idFor).run.run
        ⟨⟨Exchange.empty.afterAll requests, served⟩, tally⟩).2.venue.exchange ∧
    ∀ scenario : Scenario, Exchange.Traceless (Exchange.empty.afterAll requests)
      ((scenario.runCounted (client.venue (Hosted.network stamps)) symbol (idFor scenario)).run.run
        ⟨⟨Exchange.empty.afterAll requests, served⟩, tally⟩).2.venue.exchange := by
  have hstart : Exchange.Alike (Exchange.empty.afterAll requests)
      (Exchange.empty.afterAll requests) := fun _ => rfl
  have hkeeps (scenario : Scenario) :=
    Client.keeps_scenario stamps hbase (hfresh scenario) symbol scenario
  refine ⟨.of_alike (keeps_run hkeeps ⟨⟨_, served⟩, tally⟩ hstart), ?_⟩
  intro scenario
  exact .of_alike (Scenario.keeps_runCounted (hkeeps scenario) ⟨⟨_, served⟩, tally⟩ hstart)

/-- An audit of a book in which an auction is live leaves that auction, too. -/
theorem traceless_oneSale :
    (∀ s, ((Exchange.empty.afterAll Exchange.oneSale).book s).auction? (Uuid.text ⟨0⟩) = none) ∧
    Exchange.Traceless (Exchange.empty.afterAll Exchange.oneSale)
      ((run (Client.localClient.venue (Hosted.network .counted)) "A" fun _ => ⟨0⟩).run.run
        ⟨⟨Exchange.empty.afterAll Exchange.oneSale, 3⟩, .empty⟩).2.venue.exchange := by
  have hfresh (s : String) : ((Exchange.empty.afterAll Exchange.oneSale).book s).auction?
      (Uuid.text ⟨0⟩) = none := by
    obtain ⟨auction, hbooks⟩ := Exchange.books_oneSale
    have hid : (Uuid.text ⟨0⟩ == String.ofList Exchange.hyphenatedId) = false := by decide +kernel
    rw [Exchange.book, hbooks, List.lookup_cons, List.lookup_cons]
    cases s == "A" with
    | true =>
      change List.lookup _ [(String.ofList Exchange.hyphenatedId, auction)] = none
      rw [List.lookup_cons, hid]
      rfl
    | false => cases s == "B" <;> rfl
  exact ⟨hfresh, (traceless Client.localClient ⟨.first, rfl⟩ .counted Exchange.oneSale 3 "A"
    (fun _ => ⟨0⟩) .empty fun _ => hfresh).1⟩

end Audit

end SweepAudit
