import SweepAudit.Proofs.Book.Records
import SweepAudit.Proofs.Book.BestFill

/-!
Auctions of several clients over orders that stay at rest. What a book answers to a request is
told by the orders and by the auction of the same id alone, and a request changes no other auction.
So clients that keep to ids of their own are answered as if each were alone, in whatever order
their requests come in. Requests that place or cancel orders are not among these.
-/

namespace SweepAudit

/-- What is asked of a book while its orders rest. -/
inductive AuctionStep where
  | beginAuction (id : String) (side : Side) (amountIn : Decimal)
  | abortAuction (id : String)
  deriving DecidableEq

/-- What comes of it: an auction pays out an amount, or is refused, or ends in an overflow; an
auction that is aborted is handed back, if there was one. -/
inductive AuctionAnswer where
  | begun (result : Except Overflow (Except BookError Decimal))
  | aborted (auction : Option Auction)

namespace AuctionStep

def id : AuctionStep → String
  | .beginAuction id _ _ | .abortAuction id => id

def action : AuctionStep → BookAction
  | .beginAuction id side amountIn => .beginAuction id side amountIn
  | .abortAuction id => .abortAuction id

/-- Whether an auction of an id is live once a step has had this answer. -/
def keepsLive (id : String) (live : Bool) : AuctionStep → AuctionAnswer → Bool
  | .beginAuction begun _ _, .begun (.ok (.ok _)) => live || begun == id
  | .abortAuction aborted, _ => live && aborted != id
  | _, _ => live

end AuctionStep

variable {ι α : Type}

/-- What concerns one client, in the order in which it comes. -/
def ofClient [DecidableEq ι] (client : ι) (entries : List (ι × α)) : List α :=
  (entries.filter (·.1 = client)).map Prod.snd

/-- No two clients use the same id. -/
def KeepApart (requests : List (ι × AuctionStep)) : Prop :=
  ∀ request ∈ requests, ∀ other ∈ requests, request.2.id = other.2.id → request.1 = other.1

namespace Book

/-- The orders of a book, without its auctions. -/
def orders (book : Book) : Book := { book with auctions := [] }

def answerTo (book : Book) : AuctionStep → AuctionAnswer
  | .beginAuction id side amountIn =>
    .begun ((book.beginAuction id side amountIn).run.map (·.map Prod.fst))
  | .abortAuction id => .aborted ((book.abortAuction id).map Prod.fst)

/-- What the clients have asked and been answered, one request after another. -/
def transcript (book : Book) : List (ι × AuctionStep) → List (ι × AuctionStep × AuctionAnswer)
  | [] => []
  | (client, step) :: requests =>
    (client, step, book.answerTo step) :: (book.after step.action).transcript requests

def afterRequests (book : Book) (requests : List (ι × AuctionStep)) : Book :=
  book.run (requests.map (·.2.action))

/-- Whether there is an auction of an id after some requests: it has been there before or been
begun by one of them, and not been aborted since. -/
def liveAfter (book : Book) (requests : List (ι × AuctionStep)) (id : String) : Bool :=
  (book.transcript requests).foldl (fun live (_, step, answer) => step.keepsLive id live answer)
    (book.auction? id).isSome

variable {book book' : Book} {step : AuctionStep} {id : String} {side : Side} {amountIn : Decimal}
  {requests requests' : List (ι × AuctionStep)} {client : ι}

/-! One request -/

theorem lookup_filter (id other : String) (auctions : List (String × Auction)) :
    (auctions.filter (·.1 ≠ other)).lookup id =
      if id = other then none else auctions.lookup id := by
  induction auctions with
  | nil => simp
  | cons entry auctions ih =>
    obtain ⟨name, auction⟩ := entry
    by_cases hname : name = other
    · rw [List.filter_cons_of_neg (by simp [hname]), ih, List.lookup_cons]
      split
      · rfl
      · rename_i hne
        rw [beq_eq_false_iff_ne.mpr (hname ▸ hne)]
    · rw [List.filter_cons_of_pos (by simp [hname]), List.lookup_cons, List.lookup_cons, ih]
      by_cases hid : id = name
      · subst hid
        simp [hname]
      · rw [beq_eq_false_iff_ne.mpr hid]

theorem beginAuction_run (book : Book) (id : String) (side : Side) (amountIn : Decimal) :
    (book.beginAuction id side amountIn).run =
      if (book.auction? id).isSome then .ok (.error (.duplicateAuction id))
      else (book.amountOut side amountIn).run.map (·.map fun out =>
        (out, { book with auctions := (id, ⟨side, amountIn, out⟩) :: book.auctions })) := by
  rw [beginAuction]
  cases (book.auction? id).isSome with
  | true => rfl
  | false =>
    simp only [Bool.false_eq_true, if_false, ExceptT.run_bind]
    rcases (book.amountOut side amountIn).run with o | e | out <;> rfl

theorem answerTo_begin (book : Book) (id : String) (side : Side) (amountIn : Decimal) :
    book.answerTo (.beginAuction id side amountIn) =
      .begun (if (book.auction? id).isSome then .ok (.error (.duplicateAuction id))
        else (book.amountOut side amountIn).run) := by
  rw [answerTo, beginAuction_run]
  split
  · rfl
  · rcases (book.amountOut side amountIn).run with o | e | out <;> rfl

theorem answerTo_abort (book : Book) (id : String) :
    book.answerTo (.abortAuction id) = .aborted (book.auction? id) := by
  rw [answerTo, abortAuction]
  cases book.auction? id <;> rfl

/-- A request leaves the orders alone. -/
theorem orders_after (book : Book) (step : AuctionStep) :
    (book.after step.action).orders = book.orders := by
  cases step with
  | beginAuction id side amountIn =>
    simp only [AuctionStep.action, after]
    split
    · rename_i hbegin
      rw [(beginAuction_eq_ok hbegin).2.2]
      rfl
    · rfl
  | abortAuction id =>
    simp only [AuctionStep.action, after, abortAuction]
    cases book.auction? id <;> rfl

theorem auction?_after_begin (book : Book) (id begun : String) (side : Side) (amountIn : Decimal) :
    (book.after (.beginAuction begun side amountIn)).auction? id =
      if id = begun ∧ book.auction? id = none then
        match (book.amountOut side amountIn).run with
        | .ok (.ok out) => some ⟨side, amountIn, out⟩
        | _ => none
      else book.auction? id := by
  simp only [after, beginAuction_run]
  cases hlive : (book.auction? begun).isSome with
  | true =>
    have hother : ¬(id = begun ∧ book.auction? id = none) := by
      rintro ⟨rfl, hnone⟩
      simp [hnone] at hlive
    simp only [if_true, if_neg hother]
  | false =>
    have hnone : book.auction? begun = none := by simpa using hlive
    simp only [Bool.false_eq_true, if_false]
    by_cases hid : id = begun
    · subst hid
      simp only [hnone, and_self, if_true]
      rcases (book.amountOut side amountIn).run with o | e | out
      · exact hnone
      · exact hnone
      · exact List.lookup_cons_self
    · simp only [hid, false_and, if_false]
      rcases (book.amountOut side amountIn).run with o | e | out
      · rfl
      · rfl
      · change List.lookup id ((begun, _) :: book.auctions) = _
        rw [List.lookup_cons, beq_eq_false_iff_ne.mpr hid]
        rfl

theorem auction?_after_abort (book : Book) (id aborted : String) :
    (book.after (.abortAuction aborted)).auction? id =
      if id = aborted then none else book.auction? id := by
  simp only [after, abortAuction]
  cases hlive : book.auction? aborted with
  | none =>
    change book.auction? id = _
    split
    · rename_i hid
      rw [hid, hlive]
    · rfl
  | some auction => exact lookup_filter ..

theorem amountOut_of_orders (h : book.orders = book'.orders) :
    book.amountOut = book'.amountOut := by
  have hasks : book.asks = book'.asks := congrArg (·.asks) h
  have hbids : book.bids = book'.bids := congrArg (·.bids) h
  funext side amountIn
  cases side <;> simp only [amountOut, sweepOrders, swept, hasks, hbids]

/-- The answer to a request hangs on the orders and on the auction of its id. -/
theorem answerTo_congr (horders : book.orders = book'.orders)
    (hauction : book.auction? step.id = book'.auction? step.id) :
    book.answerTo step = book'.answerTo step := by
  cases step with
  | beginAuction id side amountIn =>
    rw [AuctionStep.id] at hauction
    rw [answerTo_begin, answerTo_begin, hauction, amountOut_of_orders horders]
  | abortAuction id =>
    rw [AuctionStep.id] at hauction
    rw [answerTo_abort, answerTo_abort, hauction]

/-- What becomes of an auction hangs on the orders and on this auction. -/
theorem auction?_after_congr (horders : book.orders = book'.orders)
    (hauction : book.auction? id = book'.auction? id) (step : AuctionStep) :
    (book.after step.action).auction? id = (book'.after step.action).auction? id := by
  cases step with
  | beginAuction begun side amountIn =>
    rw [AuctionStep.action, auction?_after_begin, auction?_after_begin, hauction,
      amountOut_of_orders horders]
  | abortAuction aborted =>
    rw [AuctionStep.action, auction?_after_abort, auction?_after_abort, hauction]

/-- A request changes no auction of another id. -/
theorem auction?_after_of_ne (book : Book) (h : id ≠ step.id) :
    (book.after step.action).auction? id = book.auction? id := by
  cases step with
  | beginAuction begun side amountIn =>
    rw [AuctionStep.action, auction?_after_begin, if_neg fun hid => h hid.1]
  | abortAuction aborted =>
    rw [AuctionStep.id] at h
    rw [AuctionStep.action, auction?_after_abort, if_neg h]

theorem isSome_auction?_after (book : Book) (step : AuctionStep) (id : String) :
    ((book.after step.action).auction? id).isSome =
      step.keepsLive id (book.auction? id).isSome (book.answerTo step) := by
  cases step with
  | beginAuction begun side amountIn =>
    rw [AuctionStep.action, auction?_after_begin, answerTo_begin]
    by_cases hid : id = begun
    · subst hid
      cases hlive : book.auction? id with
      | some auction => simp [AuctionStep.keepsLive]
      | none =>
        rcases (book.amountOut side amountIn).run with o | e | out <;>
          simp [AuctionStep.keepsLive]
    · rw [if_neg fun h => hid h.1]
      have hother : (begun == id) = false := beq_eq_false_iff_ne.mpr (Ne.symm hid)
      rw [AuctionStep.keepsLive.eq_def]
      split <;> simp_all
  | abortAuction aborted =>
    rw [AuctionStep.action, auction?_after_abort, answerTo_abort, AuctionStep.keepsLive]
    by_cases hid : id = aborted
    · simp [hid]
    · simp [hid, bne, beq_eq_false_iff_ne.mpr (Ne.symm hid)]

/-! Many requests -/

theorem orders_afterRequests (book : Book) (requests : List (ι × AuctionStep)) :
    (book.afterRequests requests).orders = book.orders := by
  induction requests generalizing book with
  | nil => rfl
  | cons request requests ih => exact (ih _).trans (orders_after book request.2)

theorem transcript_append (book : Book) (earlier later : List (ι × AuctionStep)) :
    book.transcript (earlier ++ later) =
      book.transcript earlier ++ (book.afterRequests earlier).transcript later := by
  induction earlier generalizing book with
  | nil => rfl
  | cons request earlier ih => exact congrArg _ (ih _)

theorem length_transcript (book : Book) (requests : List (ι × AuctionStep)) :
    (book.transcript requests).length = requests.length := by
  induction requests generalizing book with
  | nil => rfl
  | cons request requests ih => exact congrArg (· + 1) (ih _)

theorem liveAfter_eq (book : Book) (requests : List (ι × AuctionStep)) (id : String) :
    book.liveAfter requests id = ((book.afterRequests requests).auction? id).isSome := by
  induction requests generalizing book with
  | nil => rfl
  | cons request requests ih =>
    have hnext := ih (book.after request.2.action)
    rw [liveAfter, isSome_auction?_after] at hnext
    exact hnext

/-- A client who shares no id is answered as if there were no other. -/
theorem ofClient_transcript [DecidableEq ι] (horders : book.orders = book'.orders)
    (hauctions : ∀ request ∈ requests, request.1 = client →
      book.auction? request.2.id = book'.auction? request.2.id)
    (hapart : KeepApart requests) :
    ofClient client (book.transcript requests) =
      ofClient client (book'.transcript (requests.filter (·.1 = client))) := by
  induction requests generalizing book book' with
  | nil => rfl
  | cons request requests ih =>
    obtain ⟨sender, step⟩ := request
    obtain ⟨hfirst, hrest⟩ := List.forall_mem_cons.mp hauctions
    have hlater : KeepApart requests := fun r hr r' hr' =>
      hapart r (List.mem_cons_of_mem _ hr) r' (List.mem_cons_of_mem _ hr')
    by_cases hsender : sender = client
    · have hnext := @ih (book.after step.action) (book'.after step.action)
        (by rw [orders_after, orders_after, horders])
        (fun r hr hclient => auction?_after_congr horders (hrest r hr hclient) step) hlater
      have hanswer := answerTo_congr horders (hfirst hsender)
      rw [List.filter_cons_of_pos (by simpa using hsender)]
      simp only [transcript, ofClient, hsender, List.filter_cons_of_pos, decide_true, List.map_cons,
        hanswer] at hnext ⊢
      rw [hnext]
    · have hnext := @ih (book.after step.action) book' (by rw [orders_after, horders])
        (fun r hr hclient => by
          rw [auction?_after_of_ne, hrest r hr hclient]
          intro hid
          exact hsender ((hapart _ List.mem_cons_self r (List.mem_cons_of_mem _ hr) hid.symm).trans
            hclient)) hlater
      rw [List.filter_cons_of_neg (by simpa using hsender), ← hnext]
      simp only [transcript, ofClient]
      rw [List.filter_cons_of_neg (by simpa using hsender)]

/-- What becomes of an auction is told by the requests of its id. -/
theorem auction?_afterRequests (horders : book.orders = book'.orders)
    (hauction : book.auction? id = book'.auction? id) :
    (book.afterRequests requests).auction? id =
      (book'.afterRequests (requests.filter (·.2.id = id))).auction? id := by
  induction requests generalizing book book' with
  | nil => exact hauction
  | cons request requests ih =>
    obtain ⟨sender, step⟩ := request
    by_cases hid : step.id = id
    · rw [List.filter_cons_of_pos (by simpa using hid)]
      exact ih (by rw [orders_after, orders_after, horders])
        (auction?_after_congr horders hauction step)
    · rw [List.filter_cons_of_neg (by simpa using hid)]
      refine ih (by rw [orders_after, horders]) ?_
      rw [auction?_after_of_ne book (Ne.symm hid), hauction]

/-! The same requests in another order -/

variable [DecidableEq ι]

theorem filter_client_eq (h : ∀ client, ofClient client requests = ofClient client requests')
    (client : ι) : requests.filter (·.1 = client) = requests'.filter (·.1 = client) := by
  have htagged (requests : List (ι × AuctionStep)) : requests.filter (·.1 = client) =
      (ofClient client requests).map (client, ·) := by
    rw [ofClient, List.map_map, List.map_congr_left (g := id), List.map_id]
    intro request hmem
    obtain ⟨-, rfl⟩ := by simpa using List.mem_filter.mp hmem
    rfl
  rw [htagged, htagged, h]

theorem mem_iff_of_ofClient (h : ∀ client, ofClient client requests = ofClient client requests')
    {request : ι × AuctionStep} : request ∈ requests ↔ request ∈ requests' := by
  have hfilter (requests : List (ι × AuctionStep)) :
      request ∈ requests ↔ request ∈ requests.filter (·.1 = request.1) := by simp
  rw [hfilter, filter_client_eq h, ← hfilter]

/-- Where ids are not shared, the requests of an id come from one client, in the order in which
they have been made. -/
theorem filter_id_eq (h : ∀ client, ofClient client requests = ofClient client requests')
    (hapart : KeepApart requests) (id : String) :
    requests.filter (·.2.id = id) = requests'.filter (·.2.id = id) := by
  by_cases hused : ∃ request ∈ requests, request.2.id = id
  · obtain ⟨request, hmem, rfl⟩ := hused
    have hown (others : List (ι × AuctionStep)) (hothers : ∀ r ∈ others, r ∈ requests) :
        others.filter (·.2.id = request.2.id) =
          (others.filter (·.1 = request.1)).filter (·.2.id = request.2.id) := by
      rw [List.filter_filter]
      refine List.filter_congr fun other hother => ?_
      have hsender := hapart other (hothers other hother) request hmem
      by_cases hid : other.2.id = request.2.id
      · simp [hid, hsender hid]
      · simp [hid]
    rw [hown requests fun _ hr => hr, filter_client_eq h,
      ← hown requests' fun r hr => (mem_iff_of_ofClient h).mpr hr]
  · have hnone (others : List (ι × AuctionStep)) (hothers : ∀ r ∈ others, r ∈ requests) :
        others.filter (·.2.id = id) = [] := by
      rw [List.filter_eq_nil_iff]
      intro other hother hid
      exact hused ⟨other, hothers other hother, by simpa using hid⟩
    rw [hnone requests fun _ hr => hr, hnone requests' fun r hr => (mem_iff_of_ofClient h).mpr hr]

/-- An auction that is begun is refused if there is one of its id, and else comes to what the first
book quotes. Clients that share no id get the same answers in whatever order their requests come
in, and the same auctions are live in the end. The orders are those of the first book. -/
theorem auctions_undisturbed (book : Book) :
    (∀ {ι : Type} (earlier later : List (ι × AuctionStep)) (client : ι) (id : String) (side : Side)
      (amountIn : Decimal),
      let step := AuctionStep.beginAuction id side amountIn
      (book.transcript (earlier ++ (client, step) :: later))[earlier.length]? =
        some (client, step, .begun (
          if book.liveAfter earlier id then .ok (.error (.duplicateAuction id))
          else (book.amountOut side amountIn).run))) ∧
    ∀ {ι : Type} [DecidableEq ι] (requests requests' : List (ι × AuctionStep)),
      KeepApart requests →
      (∀ client, ofClient client requests = ofClient client requests') →
      (∀ client, ofClient client (book.transcript requests) =
        ofClient client (book.transcript requests')) ∧
      (∀ id, (book.afterRequests requests).auction? id =
        (book.afterRequests requests').auction? id) ∧
      (book.afterRequests requests).orders = book.orders ∧
      (book.afterRequests requests').orders = book.orders := by
  refine ⟨fun earlier later client id side amountIn => ?_, fun requests requests' hapart hsame =>
    ⟨fun client => ?_, fun id => ?_, orders_afterRequests .., orders_afterRequests ..⟩⟩
  · intro step
    rw [transcript_append, List.getElem?_append_right (length_transcript ..).le,
      length_transcript, Nat.sub_self]
    rw [transcript, List.getElem?_cons_zero, answerTo_begin, liveAfter_eq,
      amountOut_of_orders (orders_afterRequests ..)]
  · have hapart' : KeepApart requests' := fun r hr r' hr' =>
      hapart r ((mem_iff_of_ofClient hsame).mpr hr) r' ((mem_iff_of_ofClient hsame).mpr hr')
    rw [ofClient_transcript rfl (fun _ _ _ => rfl) hapart, filter_client_eq hsame,
      ← ofClient_transcript rfl (fun _ _ _ => rfl) hapart']
  · rw [auction?_afterRequests rfl rfl, filter_id_eq hsame hapart,
      ← auction?_afterRequests rfl rfl]

/-- Two clients and one id each: whoever comes first, both are answered alike. -/
theorem auctions_undisturbed_twoClients :
    let mine : AuctionStep := .beginAuction "mine" .buy (Decimal.ofUInt32 18)
    let yours : AuctionStep := .beginAuction "yours" .buy (Decimal.ofUInt32 1)
    let requests : List (Bool × AuctionStep) :=
      [(true, mine), (false, yours), (true, mine), (false, .abortAuction "yours")]
    let requests' : List (Bool × AuctionStep) :=
      [(false, yours), (false, .abortAuction "yours"), (true, mine), (true, mine)]
    ∀ client, ofClient client (twoAsks.transcript requests) =
      ofClient client (twoAsks.transcript requests') := by
  intro mine yours requests requests'
  have hapart : KeepApart requests := by
    unfold KeepApart
    decide
  exact ((auctions_undisturbed twoAsks).2 requests requests' hapart (by decide)).1

end Book

end SweepAudit
