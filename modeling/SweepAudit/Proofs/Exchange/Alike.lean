import Mathlib.Data.List.Perm.Basic
import SweepAudit.Proofs.Exchange.Steps

/-!
Exchanges that cannot be told apart by requests: every symbol has the same book in both, be it
opened or not. What has been presented last is no part of this, since no answer depends on it.
A book that has only been opened can change every way through the books, but is nothing to
stop at; so whatever comes of a way through the one exchange comes of some way through the
other. The ways themselves matter to the order in which cancelled ids are told, and to an
abort where several books have an auction by the id, and to nothing else.
-/

namespace SweepAudit

open Http
open scoped List

namespace Exchange

variable {x y : Exchange} {request : Request} {stamp stamp' : Stamp}
  {same : List Uuid → List Uuid → Prop}

def Alike (x y : Exchange) : Prop := ∀ symbol, x.book symbol = y.book symbol

namespace Alike

theorem symm (h : Alike x y) : Alike y x := fun symbol => (h symbol).symm

theorem remember (h : Alike x y) (presented : Presented) :
    Alike (x.remember presented) (y.remember presented) := h

theorem setBook (h : Alike x y) (symbol : String) (book : Book) :
    Alike (x.setBook symbol book) (y.setBook symbol book) := by
  intro s
  rw [book_setBook, book_setBook, h s]

theorem opened (h : Alike x y) (symbol : String) : Alike (x.opened symbol) (y.opened symbol) := by
  intro s
  rw [book_opened, book_opened, h s]

theorem cancelled (h : Alike x y) : Alike x.cancelled y.cancelled := by
  intro s
  rw [book_cancelled, book_cancelled, h s]

end Alike

/-! Ways through the books -/

/-- Whether there is anything in the book of a symbol. -/
def used (exchange : Exchange) (symbol : String) : Bool := exchange.book symbol ≠ .empty

theorem Alike.used_eq (h : Alike x y) : x.used = y.used := by
  funext symbol
  rw [used, used, h symbol]

theorem Alike.perm_used (h : Alike x y) : x.symbols.filter x.used ~ y.symbols.filter y.used := by
  apply (List.perm_ext_iff_of_nodup (x.nodup.filter _) (y.nodup.filter _)).mpr
  intro symbol
  rw [List.mem_filter, List.mem_filter, ← h.used_eq]
  apply and_congr_left
  intro hused
  have hx : x.book symbol ≠ .empty := of_decide_eq_true hused
  exact iff_of_true (mem_symbols hx) (mem_symbols (h symbol ▸ hx))

/-- There is a way through the second exchange that gets to the books with anything in them in the
order of a way through the first. -/
theorem Alike.walk (h : Alike x y) (walk : Walk String) : ∃ walk' : Walk String,
    (walk'.order y.symbols).filter y.used = (walk.order x.symbols).filter x.used := by
  let along := (walk.order x.symbols).filter x.used ++ y.symbols.filter fun s => !y.used s
  have hperm : along ~ y.symbols :=
    ((((walk.perm _).filter _).trans h.perm_used).append_right _).trans
      (List.filter_append_perm y.used y.symbols)
  refine ⟨⟨fun members => if members = y.symbols then along else members, ?_⟩, ?_⟩
  · intro members
    by_cases hmembers : members = y.symbols
    · rw [if_pos hmembers, hmembers]
      exact hperm
    · rw [if_neg hmembers]
  · simp [along, h.used_eq, List.filter_filter]

theorem findSome?_filter {α β : Type} {f : α → Option β} {p : α → Bool}
    (h : ∀ a, p a = false → f a = none) (l : List α) :
    (l.filter p).findSome? f = l.findSome? f := by
  induction l with
  | nil => rfl
  | cons a l ih =>
    cases hp : p a with
    | true => rw [List.filter_cons_of_pos hp, List.findSome?_cons, List.findSome?_cons, ih]
    | false =>
      rw [List.filter_cons_of_neg (by simp [hp]), ih, List.findSome?_cons, h a hp]

theorem flatMap_filter {α β : Type} {f : α → List β} {p : α → Bool}
    (h : ∀ a, p a = false → f a = []) (l : List α) : (l.filter p).flatMap f = l.flatMap f := by
  induction l with
  | nil => rfl
  | cons a l ih =>
    cases hp : p a with
    | true => rw [List.filter_cons_of_pos hp, List.flatMap_cons, List.flatMap_cons, ih]
    | false =>
      rw [List.filter_cons_of_neg (by simp [hp]), ih, List.flatMap_cons, h a hp, List.nil_append]

theorem book_of_unused {symbol : String} (h : x.used symbol = false) : x.book symbol = .empty :=
  Decidable.not_not.mp (of_decide_eq_false h)

/-- A book that has only been opened has no auction to be aborted. -/
theorem aborted?_used (exchange : Exchange) (walk : Walk String) (id : String) :
    exchange.aborted? walk id =
      ((walk.order exchange.symbols).filter exchange.used).findSome? fun symbol =>
        ((exchange.book symbol).abortAuction id).map fun (_, book) => (symbol, book) := by
  rw [findSome?_filter fun symbol hunused => ?_]
  · rfl
  · rw [book_of_unused hunused]
    rfl

/-- A book that has only been opened has no orders to be cancelled. -/
theorem cancelledIds_used (exchange : Exchange) (walk : Walk String) (orders : Walk Uuid) :
    exchange.cancelledIds walk orders =
      ((walk.order exchange.symbols).filter exchange.used).flatMap fun symbol =>
        orders.order (exchange.book symbol).cancelAll.1 := by
  rw [flatMap_filter fun symbol hunused => ?_]
  · rfl
  · rw [book_of_unused hunused]
    exact orders.order_eq_nil.mpr rfl

/-- Ways through two exchanges on which a request comes to the same, the ids of cancelled orders
being told alike. -/
structure Matching (same : List Uuid → List Uuid → Prop) (request : Request) (x y : Exchange)
    (stamp stamp' : Stamp) : Prop where
  orderId : stamp'.orderId = stamp.orderId
  time : stamp'.time = stamp.time
  cancelled : same (x.cancelledIds stamp.books stamp.orders)
    (y.cancelledIds stamp'.books stamp'.orders)
  aborted : ∀ id, Aborts request id →
    x.aborted? stamp.books id = y.aborted? stamp'.books id

/-- A request that comes again, with the same stamp but for the ways. -/
structure Rewalked (asked asked' : Stamp × Request) : Prop where
  orderId : asked'.1.orderId = asked.1.orderId
  time : asked'.1.time = asked.1.time
  request : asked'.2 = asked.2

theorem Alike.rewalk (h : Alike x y) (asked : Stamp × Request) : ∃ asked', Rewalked asked asked' ∧
    Matching Eq asked.2 x y asked.1 asked'.1 := by
  obtain ⟨stamp, request⟩ := asked
  obtain ⟨walk, hwalk⟩ := h.walk stamp.books
  have hbook : x.book = y.book := funext h
  refine ⟨({ stamp with books := walk }, request), ⟨rfl, rfl, rfl⟩, rfl, rfl, ?_, fun id _ => ?_⟩
  · rw [cancelledIds_used, cancelledIds_used, hwalk, hbook]
  · rw [aborted?_used, aborted?_used, hwalk, hbook]

/-- What the request aborts is in one book at most. -/
def Definite (exchange : Exchange) (request : Request) : Prop :=
  ∀ id, Aborts request id → ∀ s s', (exchange.book s).auction? id ≠ none →
    (exchange.book s').auction? id ≠ none → s = s'

theorem Alike.perm_cancelled (h : Alike x y) (walk walk' : Walk String)
    (orders orders' : Walk Uuid) :
    x.cancelledIds walk orders ~ y.cancelledIds walk' orders' := by
  rw [cancelledIds_used, cancelledIds_used]
  have hsymbols : (walk.order x.symbols).filter x.used ~ (walk'.order y.symbols).filter y.used :=
    (((walk.perm _).filter _).trans h.perm_used).trans ((walk'.perm _).filter _).symm
  refine hsymbols.flatMap fun symbol _ => ?_
  rw [h symbol]
  exact (orders.perm _).trans (orders'.perm _).symm

/-- Where every auction to be aborted is in one book at most, any ways will do. -/
theorem Alike.matching (h : Alike x y) {asked asked' : Stamp × Request}
    (hdefinite : x.Definite asked.2) (hrewalked : Rewalked asked asked') :
    Matching List.Perm asked.2 x y asked.1 asked'.1 where
  orderId := hrewalked.orderId
  time := hrewalked.time
  cancelled := h.perm_cancelled ..
  aborted := by
    intro id haborts
    cases hx : x.aborted? asked.1.books id with
    | none =>
      rw [aborted?_eq_none_iff] at hx
      exact (aborted?_eq_none_iff.mpr fun s => h s ▸ hx s).symm
    | some found =>
      obtain ⟨symbol, book⟩ := found
      obtain ⟨auction, habort⟩ := aborted?_eq_some hx
      have hlive : (x.book symbol).auction? id ≠ none := by
        intro hnone
        rw [Book.abortAuction, hnone] at habort
        cases habort
      rw [h symbol] at habort
      refine (aborted?_of_only habort fun s hs => ?_).symm
      rw [← h s] at hs
      exact hdefinite id haborts s symbol hs hlive

/-! Answers -/

/-- The same answer, but that cancelled ids are told in another way. -/
inductive Told (same : List Uuid → List Uuid → Prop) : Response → Response → Prop
  | same (response : Response) : Told same response response
  | cancelled {ids ids' : List Uuid} (h : same ids ids') :
      Told same (.json 200 (Wire.encodeCancelReply ⟨ids.map (·.text)⟩))
        (.json 200 (Wire.encodeCancelReply ⟨ids'.map (·.text)⟩))

theorem eq_of_told {result result' : Except Overflow Response}
    (h : Both Eq (Told Eq) result result') : result = result' := by
  cases h with
  | error h => rw [h]
  | ok h =>
    cases h with
    | same => rfl
    | cancelled h => rw [h]

theorem Told.withoutBody {response response' : Response} (h : Told same response response') :
    Told same response.withoutBody response'.withoutBody := by
  cases h with
  | same => exact .same _
  | cancelled h => exact .same _

/-- Two exchanges come to the same answer and are alike. -/
def Agree (same : List Uuid → List Uuid → Prop) :
    Except Overflow (Except Response (Response × Exchange)) →
    Except Overflow (Except Response (Response × Exchange)) → Prop :=
  Both Eq (Both Eq fun a a' => Told same a.1 a'.1 ∧ Alike a.2 a'.2)

theorem agree_refused (response : Response) :
    Agree same (.ok (.error response)) (.ok (.error response)) := .ok (.error rfl)

theorem agree_answered (response : Response) (h : Alike x y) :
    Agree same (.ok (.ok (response, x))) (.ok (.ok (response, y))) := .ok (.ok ⟨.same _, h⟩)

theorem agree_readable {α : Type} (result : Except Unreadable α) {f g : α → Handled}
    (h : ∀ a, result = .ok a → Agree same (f a).run (g a).run) :
    Agree same (readable result >>= f).run (readable result >>= g).run := by
  cases result with
  | error e => exact agree_refused _
  | ok a => exact h a rfl

theorem agree_lift {α : Type} (result : Except Overflow α) {f g : α → Handled}
    (h : ∀ a, Agree same (f a).run (g a).run) :
    Agree same ((liftM result : ExceptT Response (Except Overflow) α) >>= f).run
      ((liftM result : ExceptT Response (Except Overflow) α) >>= g).run := by
  cases result with
  | error o => exact .error rfl
  | ok a => exact h a

theorem agree_cancelOrders (h : Alike x y) (hmatching : Matching same request x y stamp stamp') :
    Agree same (x.cancelOrders stamp).run (y.cancelOrders stamp').run := by
  have hids := hmatching.cancelled
  have hperm := h.perm_cancelled stamp.books stamp'.books stamp.orders stamp'.orders
  rw [cancelOrders, cancelOrders]
  generalize x.cancelledIds stamp.books stamp.orders = ids at hids hperm
  generalize y.cancelledIds stamp'.books stamp'.orders = ids' at hids hperm
  cases ids with
  | nil =>
    rw [← hperm.nil_eq]
    exact agree_answered _ h.cancelled
  | cons id ids =>
    cases ids' with
    | nil => exact absurd hperm.symm.nil_eq.symm (List.cons_ne_nil id ids)
    | cons id' ids' => exact .ok (.ok ⟨.cancelled hids, h.cancelled⟩)

theorem agree_serve (h : Alike x y) (hmatching : Matching same request x y stamp stamp')
    {resource : Resource} (hcalls : Calls request resource) (target : Target) :
    Agree same (x.serve stamp request target resource).run
      (y.serve stamp' request target resource).run := by
  cases resource with
  | depth segment =>
    change Agree same (x.showDepth ..).run (y.showDepth ..).run
    rw [showDepth, showDepth, hmatching.time]
    refine agree_readable _ fun symbol _ => agree_readable _ fun limit _ => ?_
    rw [h symbol]
    by_cases hlimit : limit.getD defaultLimit = 0 ∨ maxLimit < limit.getD defaultLimit
    · simp only [hlimit, if_true]
      exact agree_refused _
    · simp only [hlimit, if_false]
      exact agree_lift _ fun snapshot => agree_answered _ (h.opened symbol)
  | order =>
    change Agree same (x.placeOrder ..).run (y.placeOrder ..).run
    rw [placeOrder, placeOrder, hmatching.orderId]
    refine agree_readable _ fun body _ => ?_
    rw [h body.symbol]
    split
    · exact agree_refused _
    · split
      · split
        · exact agree_refused _
        · split
          · exact agree_answered _ (h.opened _)
          · exact agree_answered _ (h.setBook _ _)
      · exact agree_refused _
  | orders => exact agree_cancelOrders h hmatching
  | beginAuction segment =>
    change Agree same (x.beginAuction ..).run (y.beginAuction ..).run
    rw [beginAuction, beginAuction]
    refine agree_readable _ fun id _ => agree_readable _ fun body _ => ?_
    rw [h body.symbol]
    by_cases haccepted : Uuid.isAccepted id = true
    · simp only [haccepted, not_true, if_false]
      split
      · exact agree_refused _
      · split
        · exact agree_refused _
        · refine agree_lift _ fun outcome => ?_
          split
          · exact agree_answered _ (h.opened _)
          · exact agree_answered _ (h.setBook _ _)
    · simp only [haccepted]
      exact agree_refused _
  | abortAuction segment =>
    change Agree same (x.abortAuction ..).run (y.abortAuction ..).run
    rw [abortAuction, abortAuction]
    refine agree_readable _ fun id hread => ?_
    rw [abort?, abort?, hmatching.aborted id ⟨segment, hcalls, hread⟩]
    cases y.aborted? stamp'.books id with
    | none => exact agree_refused _
    | some found => exact agree_answered _ (h.setBook _ _)

theorem agree_route (h : Alike x y) (hmatching : Matching same request x y stamp stamp')
    {presented : Presented} (haccess : Presented.ofHeaders request.headers = .ok presented) :
    Agree same (x.route stamp request).run (y.route stamp' request).run := by
  rw [route, route]
  split
  · exact agree_refused _
  · rename_i resource hresource
    split
    · rename_i hallows
      exact agree_serve h hmatching ⟨⟨presented, haccess⟩, hresource, hallows⟩ _
    · exact agree_refused _

theorem Alike.answer (h : Alike x y) (hmatching : Matching same request x y stamp stamp') :
    Both Eq (Told same) (x.answer stamp request).1 (y.answer stamp' request).1 ∧
      Alike (x.answer stamp request).2 (y.answer stamp' request).2 := by
  rw [Exchange.answer, Exchange.answer]
  cases haccess : Presented.ofHeaders request.headers with
  | error e => exact ⟨.ok (.same _), h⟩
  | ok presented =>
    have halike := h.remember presented
    have hagree := agree_route halike ⟨hmatching.orderId, hmatching.time, hmatching.cancelled,
      hmatching.aborted⟩ haccess
    simp only [Exchange.remember] at hagree halike
    revert hagree
    dsimp only
    generalize (Exchange.route { x with lastPresented := some presented } stamp request).run = a
    generalize (Exchange.route { y with lastPresented := some presented } stamp' request).run = b
    intro hagree
    cases hagree with
    | error h => exact ⟨.error h, halike⟩
    | ok hhandled =>
      cases hhandled with
      | error hresponse =>
        cases hresponse
        exact ⟨.ok (.same _), halike⟩
      | ok hanswered =>
        obtain ⟨htold, halike⟩ := hanswered
        refine ⟨.ok ?_, halike⟩
        split
        · exact htold.withoutBody
        · exact htold

/-! Runs -/

/-- The answers to some requests, one after another. -/
def answers (exchange : Exchange) : List (Stamp × Request) → List (Except Overflow Response)
  | [] => []
  | (stamp, request) :: requests =>
    (exchange.answer stamp request).1 :: (exchange.answer stamp request).2.answers requests

/-- Every request is definite when it comes. -/
def AllDefinite (exchange : Exchange) : List (Stamp × Request) → Prop
  | [] => True
  | (stamp, request) :: requests =>
    exchange.Definite request ∧ (exchange.answer stamp request).2.AllDefinite requests

theorem Alike.answers_some (h : Alike x y) (requests : List (Stamp × Request)) :
    ∃ requests', List.Forall₂ Rewalked requests requests' ∧
      y.answers requests' = x.answers requests := by
  induction requests generalizing x y with
  | nil => exact ⟨[], .nil, rfl⟩
  | cons asked requests ih =>
    obtain ⟨asked', hrewalked, hmatching⟩ := h.rewalk asked
    obtain ⟨htold, halike⟩ := h.answer hmatching
    obtain ⟨requests', hrequests, hanswers⟩ := ih halike
    refine ⟨asked' :: requests', .cons hrewalked hrequests, ?_⟩
    rw [Exchange.answers, Exchange.answers, hrewalked.request, hanswers, eq_of_told htold]

theorem Alike.answers_any (h : Alike x y) {requests requests' : List (Stamp × Request)}
    (hrequests : List.Forall₂ Rewalked requests requests') (hdefinite : x.AllDefinite requests) :
    List.Forall₂ (Both Eq (Told List.Perm)) (x.answers requests) (y.answers requests') := by
  induction hrequests generalizing x y with
  | nil => exact .nil
  | @cons asked asked' _ _ hrewalked _ ih =>
    obtain ⟨htold, halike⟩ := h.answer (h.matching hdefinite.1 hrewalked)
    rw [Exchange.answers, Exchange.answers, hrewalked.request]
    exact .cons htold (ih halike hdefinite.2)

/-- No requests tell two exchanges apart. Whatever answers the one can give to some, the other can
give on some ways. On any ways at all they give the same, but for the order in which cancelled
ids are told, as long as nothing is aborted that several books have. -/
structure Indistinct (x y : Exchange) : Prop where
  forth : ∀ requests, ∃ requests', List.Forall₂ Rewalked requests requests' ∧
    y.answers requests' = x.answers requests
  back : ∀ requests, ∃ requests', List.Forall₂ Rewalked requests requests' ∧
    x.answers requests' = y.answers requests
  anyway : ∀ requests requests', List.Forall₂ Rewalked requests requests' →
    x.AllDefinite requests →
    List.Forall₂ (Both Eq (Told List.Perm)) (x.answers requests) (y.answers requests')

theorem Alike.indistinct (h : Alike x y) : Indistinct x y :=
  ⟨h.answers_some, h.symm.answers_some, fun _ _ => h.answers_any⟩

end Exchange

end SweepAudit
