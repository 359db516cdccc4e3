import SweepAudit.Depth
import SweepAudit.Decimal.Overflow
import SweepAudit.Decimal.Text
import SweepAudit.Uuid

/-!
The book of one symbol. Orders only rest in it: prices that cross are not matched,
and an auction is a quote on what rests, which it does not use up. Prices that are
equal in value share a level, whose orders queue in the order of their arrival.
-/

namespace SweepAudit

inductive BookError where
  | invalidPrice (price : Decimal)
  | invalidQuantity (size : Decimal)
  | duplicateClientOrderId (id : String)
  | insufficientLiquidity (side : Side)
  | duplicateAuction (id : String)
  | overflow
  deriving DecidableEq

def BookError.message : BookError → String
  | .invalidPrice price => s!"price must be positive, got {price.display}"
  | .invalidQuantity size => s!"size must be positive, got {size.display}"
  | .duplicateClientOrderId id => s!"order with clientOrderId {id} already exists"
  | .insufficientLiquidity side => s!"insufficient liquidity for {side.auctionWord} auction"
  | .duplicateAuction id => s!"auction {id} already exists"
  | .overflow => "arithmetic overflow"

/-- An order at rest; its side and price are those of the level that holds it. -/
structure Resting where
  id : Uuid
  clientOrderId : String
  size : Decimal
  deriving DecidableEq

structure PriceLevel where
  price : Decimal
  queue : List Resting
  deriving DecidableEq

def PriceLevel.total (level : PriceLevel) : Except Overflow Decimal :=
  Decimal.sum (level.queue.map (·.size))

def PriceLevel.report (level : PriceLevel) : Except Overflow Level := do
  let total ← level.total
  return ⟨level.price.canonical, total.canonical⟩

structure Auction where
  side : Side
  amountIn : Decimal
  amountOut : Decimal
  deriving DecidableEq

/-- Both sides ascend by price. The index finds an order's side and price by its id. -/
structure Book where
  bids : List PriceLevel
  asks : List PriceLevel
  index : List (Uuid × Side × Decimal)
  clientOrderIds : List String
  auctions : List (String × Auction)
  deriving DecidableEq

namespace Book

def empty : Book := ⟨[], [], [], [], []⟩

def orderCount (book : Book) : Nat := book.index.length

def enqueue (price : Decimal) (order : Resting) : List PriceLevel → List PriceLevel
  | [] => [⟨price, [order]⟩]
  | level :: levels =>
    if price < level.price then ⟨price, [order]⟩ :: level :: levels
    else if level.price < price then level :: enqueue price order levels
    else { level with queue := level.queue ++ [order] } :: levels

def file (id : Uuid) (side : Side) (price : Decimal)
    (index : List (Uuid × Side × Decimal)) : List (Uuid × Side × Decimal) :=
  index.filter (·.1 ≠ id) ++ [(id, side, price)]

def place (book : Book) (id : Uuid) (side : Side) (price size : Decimal)
    (clientOrderId : String) : Except BookError Book :=
  if ¬ price.IsPositive then .error (.invalidPrice price)
  else if ¬ size.IsPositive then .error (.invalidQuantity size)
  else if clientOrderId ∈ book.clientOrderIds then .error (.duplicateClientOrderId clientOrderId)
  else
    let order : Resting := ⟨id, clientOrderId, size⟩
    let book :=
      { book with
        index := file id side price book.index
        clientOrderIds := clientOrderId :: book.clientOrderIds }
    match side with
    | .buy => .ok { book with bids := enqueue price order book.bids }
    | .sell => .ok { book with asks := enqueue price order book.asks }

/-- Removes every order and tells their ids. Auctions stay. -/
def cancelAll (book : Book) : List Uuid × Book :=
  (book.index.map (·.1), { empty with auctions := book.auctions })

def depth (book : Book) (limit : Nat) : Except Overflow Snapshot := do
  let asks ← (book.asks.take limit).mapM (·.report)
  let bids ← (book.bids.reverse.take limit).mapM (·.report)
  return ⟨asks, bids⟩

def swept (book : Book) : Side → List PriceLevel
  | .buy => book.asks
  | .sell => book.bids.reverse

def sweepOrders (book : Book) (side : Side) : List (Decimal × Decimal) :=
  (book.swept side).flatMap fun level => level.queue.map fun order => (level.price, order.size)

/-- A computation that the book may refuse and that an overflow may end. -/
abbrev Quoting := ExceptT BookError (Except Overflow)

def orRefuse (e : BookError) : Option Decimal → Quoting Decimal
  | some x => pure x
  | none => throw e

/-- What is left to spend, and what has been paid out for the rest. -/
structure Fill where
  remaining : Decimal
  out : Decimal

/-- Spends as much as it can on one order. A buyer spends quote and is paid size; a seller
spends size and is paid quote. -/
def fillOrder (side : Side) (price size : Decimal) (fill : Fill) : Quoting Fill := do
  match side with
  | .buy =>
    let capacity ← orRefuse .overflow (price.mul? size)
    let spend := capacity.least fill.remaining
    let remaining ← liftM (fill.remaining.sub spend)
    let gain ← orRefuse .overflow (spend.div? price)
    let out ← orRefuse .overflow (fill.out.add? gain)
    return ⟨remaining, out⟩
  | .sell =>
    let spend := size.least fill.remaining
    let remaining ← liftM (fill.remaining.sub spend)
    let gain ← orRefuse .overflow (price.mul? spend)
    let out ← orRefuse .overflow (fill.out.add? gain)
    return ⟨remaining, out⟩

def fillOrders (side : Side) (fill : Fill) : List (Decimal × Decimal) → Quoting Fill
  | [] => pure fill
  | (price, size) :: orders =>
    if fill.remaining.IsPositive then do
      let fill' ← fillOrder side price size fill
      fillOrders side fill' orders
    else pure fill

/-- What a sweep funded with `amountIn` pays out. Funding that the side cannot take up is an
error, never a partial fill. -/
def amountOut (book : Book) (side : Side) (amountIn : Decimal) : Quoting Decimal := do
  if ¬ amountIn.IsPositive then throw (.invalidQuantity amountIn)
  let fill ← fillOrders side ⟨amountIn, .zero⟩ (book.sweepOrders side)
  if fill.remaining.IsPositive then throw (.insufficientLiquidity side)
  return fill.out

def auction? (book : Book) (id : String) : Option Auction := book.auctions.lookup id

def beginAuction (book : Book) (id : String) (side : Side) (amountIn : Decimal) :
    Quoting (Decimal × Book) := do
  if (book.auction? id).isSome then throw (.duplicateAuction id)
  let out ← book.amountOut side amountIn
  return (out, { book with auctions := (id, ⟨side, amountIn, out⟩) :: book.auctions })

def abortAuction (book : Book) (id : String) : Option (Auction × Book) :=
  (book.auction? id).map fun auction =>
    (auction, { book with auctions := book.auctions.filter (·.1 ≠ id) })

end Book

end SweepAudit
