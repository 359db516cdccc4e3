import SweepAudit.Http.Network
import SweepAudit.Http.Status
import SweepAudit.Proofs.Exchange.Steps

/-!
The statuses of an exchange's answers. What is done is told by a 200, and what is not by one of
a few statuses, each of which a client takes for a refusal. No answer points elsewhere, so
whoever asks is never led on.
-/

namespace SweepAudit

open Http

namespace Exchange

variable {exchange : Exchange} {stamp : Stamp} {request : Request} {response : Response}

/-- By one of these statuses requests are refused whose credentials are accepted. -/
def isRefusal (status : Nat) : Bool := [400, 404, 405, 409, 413, 415, 422].contains status

/-- What comes of a request whose credentials are accepted is told by its status. -/
inductive Settled : Except Overflow (Except Response (Response × Exchange)) → Prop
  | ended (o : Overflow) : Settled (.error o)
  | refused {response : Response} (status : isRefusal response.status = true) :
      Settled (.ok (.error response))
  | answered {response : Response} {exchange : Exchange}
      (status : response.status = 200 ∨ isRefusal response.status = true) :
      Settled (.ok (.ok (response, exchange)))

theorem settled_readable {α : Type} (result : Except Unreadable α) {f : α → Handled}
    (h : ∀ a, Settled (f a).run) : Settled (readable result >>= f).run := by
  cases result with
  | error e => exact .refused (by cases e <;> rfl)
  | ok a => exact h a

theorem settled_lift {α : Type} (result : Except Overflow α) {f : α → Handled}
    (h : ∀ a, Settled (f a).run) :
    Settled ((liftM result : ExceptT Response (Except Overflow) α) >>= f).run := by
  cases result with
  | error o => exact .ended o
  | ok a => exact h a

theorem settled_serve (exchange : Exchange) (stamp : Stamp) (request : Request) (target : Target)
    (resource : Resource) : Settled (exchange.serve stamp request target resource).run := by
  cases resource with
  | depth segment =>
    change Settled (exchange.showDepth ..).run
    rw [showDepth]
    refine settled_readable _ fun symbol => settled_readable _ fun limit => ?_
    by_cases hlimit : limit.getD defaultLimit = 0 ∨ maxLimit < limit.getD defaultLimit
    · simp only [hlimit, if_true]
      exact .refused rfl
    · simp only [hlimit, if_false]
      exact settled_lift _ fun snapshot => .answered (.inl rfl)
  | order =>
    change Settled (exchange.placeOrder ..).run
    rw [placeOrder]
    refine settled_readable _ fun body => ?_
    split
    · exact .refused rfl
    · split
      · split
        · exact .refused rfl
        · split
          · rename_i e _
            exact .answered (.inr (by cases e <;> rfl))
          · exact .answered (.inl rfl)
      · exact .refused rfl
  | orders =>
    change Settled (exchange.cancelOrders stamp).run
    obtain ⟨response, hrun, rfl | ⟨ids, rfl⟩⟩ := @cancelOrders_run exchange stamp <;> rw [hrun]
    · exact .answered (.inr rfl)
    · exact .answered (.inl rfl)
  | beginAuction segment =>
    change Settled (exchange.beginAuction ..).run
    rw [beginAuction]
    refine settled_readable _ fun id => settled_readable _ fun body => ?_
    by_cases haccepted : Uuid.isAccepted id = true
    · simp only [haccepted, not_true, if_false]
      split
      · exact .refused rfl
      · split
        · exact .refused rfl
        · refine settled_lift _ fun outcome => ?_
          split
          · exact .answered (.inr rfl)
          · exact .answered (.inl rfl)
    · simp only [haccepted]
      exact .refused rfl
  | abortAuction segment =>
    change Settled (exchange.abortAuction ..).run
    rw [abortAuction]
    refine settled_readable _ fun id => ?_
    split
    · exact .answered (.inl rfl)
    · exact .refused rfl

theorem settled_route (exchange : Exchange) (stamp : Stamp) (request : Request) :
    Settled (exchange.route stamp request).run := by
  rw [route]
  split
  · exact .refused rfl
  · split
    · exact settled_serve ..
    · refine .refused ?_
      rw [Resource.refuse]
      split <;> rfl

theorem status_refuseAccess (request : Request) (e : AccessError) :
    (refuseAccess request e).status = 401 := by
  rw [refuseAccess]
  split
  · rw [Resource.refuse]
    split <;> rfl
  · rfl

theorem status_sent (request : Request) (sent : Response) :
    (if wantsHead request then sent.withoutBody else sent).status = sent.status := by
  split <;> rfl

theorem status_barred {e : AccessError} (haccess : Presented.ofHeaders request.headers = .error e)
    (h : (exchange.answer stamp request).1 = .ok response) : response.status = 401 := by
  rw [answer, haccess] at h
  cases h
  rw [status_sent, status_refuseAccess]

theorem status_admitted {presented : Presented}
    (haccess : Presented.ofHeaders request.headers = .ok presented)
    (h : (exchange.answer stamp request).1 = .ok response) :
    response.status = 200 ∨ isRefusal response.status = true := by
  have hroute := settled_route { exchange with lastPresented := some presented } stamp request
  rw [answer, haccess] at h
  revert h hroute
  dsimp only
  generalize (({ exchange with lastPresented := some presented } : Exchange).route stamp
    request).run = handled
  intro h hroute
  cases hroute with
  | ended o => cases h
  | refused status =>
    cases h
    rw [status_sent]
    exact .inr status
  | answered status =>
    cases h
    rw [status_sent]
    exact status

/-- Every answer has one of these statuses, whatever is asked for. -/
theorem answer_status (h : (exchange.answer stamp request).1 = .ok response) :
    response.status = 200 ∨ response.status = 401 ∨ isRefusal response.status = true := by
  cases haccess : Presented.ofHeaders request.headers with
  | error e => exact .inr (.inl (status_barred haccess h))
  | ok presented => exact (status_admitted haccess h).imp_right .inr

theorem of_isRefusal {status : Nat} (h : isRefusal status = true) :
    isErrorStatus status = true ∧ status ≠ 401 ∧
      ∀ asked : Request, asked.redirected? status = none := by
  simp only [isRefusal, List.contains_eq_mem, List.mem_cons, List.not_mem_nil, or_false,
    decide_eq_true_eq] at h
  rcases h with rfl | rfl | rfl | rfl | rfl | rfl | rfl <;>
    exact ⟨rfl, by decide, fun _ => rfl⟩

/-- A request is barred if its credentials are not accepted, and by nothing else. -/
theorem answer_barred_iff (h : (exchange.answer stamp request).1 = .ok response) :
    response.status = 401 ↔ ∃ e, Presented.ofHeaders request.headers = .error e := by
  cases haccess : Presented.ofHeaders request.headers with
  | error e => exact iff_of_true (status_barred haccess h) ⟨e, rfl⟩
  | ok presented =>
    refine iff_of_false ?_ (fun ⟨e, he⟩ => nomatch he)
    rcases status_admitted haccess h with hdone | hrefused
    · rw [hdone]
      decide
    · exact (of_isRefusal hrefused).2.1

/-- No answer leads on. -/
theorem answer_stays (h : (exchange.answer stamp request).1 = .ok response) (url : Url)
    (asked : Request) : redirect? url asked response = none := by
  have hnone : asked.redirected? response.status = none := by
    rcases answer_status h with hdone | hbarred | hrefused
    · rw [hdone]
      rfl
    · rw [hbarred]
      rfl
    · exact (of_isRefusal hrefused).2.2 asked
  rw [redirect?, hnone]

end Exchange

end SweepAudit
