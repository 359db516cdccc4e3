import SweepAudit.Venue.Basic

/-!
A venue that reads its answers from a script. Each kind of call has a list of
answers, given one after another; the last one is repeated, and where there is none
at all the call has a fixed answer.
-/

namespace SweepAudit

structure Script where
  depths : List (CallResult Snapshot)
  orders : List (CallResult String)
  cancels : List (CallResult Unit)
  auctions : List (CallResult Settlement)
  aborts : List (CallResult Unit)

namespace Script

def next {α : Type} (default : α) : List α → α × List α
  | [] => (default, [])
  | [last] => (last, [last])
  | answer :: answers => (answer, answers)

def noAuction : CallResult Settlement := .error (.status 400 "no script")

def venue : Venue Script where
  depth := fun _ script =>
    let (answer, depths) := next (.ok .empty) script.depths
    (answer, { script with depths })
  placeOrder := fun _ script =>
    let (answer, orders) := next (.ok "order") script.orders
    (answer, { script with orders })
  cancelAll := fun script =>
    let (answer, cancels) := next (.ok ()) script.cancels
    (answer, { script with cancels })
  beginAuction := fun _ script =>
    let (answer, auctions) := next noAuction script.auctions
    (answer, { script with auctions })
  abortAuction := fun _ script =>
    let (answer, aborts) := next (.ok ()) script.aborts
    (answer, { script with aborts })

end Script

end SweepAudit
