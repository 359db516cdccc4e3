import SweepAudit.Exchange.Service
import SweepAudit.Http.Network

/-!
An exchange that is hosted here: a network of which every address leads to it. What its
requests use up is given to it, one stamp for each of them in turn. A request that an
overflow ends gets no answer.
-/

namespace SweepAudit

/-- What the requests to an exchange use up, by how many have been served before. -/
abbrev Stamps := Nat → Stamp

/-- Orders are numbered by the requests that place them, and time is counted in requests. -/
def Stamps.counted : Stamps := fun served => .plain ⟨BitVec.ofNat 128 served⟩ served

/-- A port at which an exchange is opened. The system picks it, and keeps those below for services
that are known by them. -/
structure Port where
  number : UInt16
  free : 1024 ≤ number

/-- The first of those that are for no service at all. -/
def Port.first : Port := ⟨49152, by decide⟩

structure Hosted where
  exchange : Exchange
  /-- How many requests have been served. -/
  served : Nat

namespace Hosted

def empty : Hosted := ⟨.empty, 0⟩

def base (port : Port) : String := s!"http://127.0.0.1:{port.number}"

def network (stamps : Stamps) : Http.Network Hosted := fun _ request hosted =>
  let (result, exchange) := hosted.exchange.answer (stamps hosted.served) request
  (result.toOption, ⟨exchange, hosted.served + 1⟩)

end Hosted

end SweepAudit
