import SweepAudit.Depth
import SweepAudit.Decimal.Reader
import SweepAudit.Text.Blank
import SweepAudit.Text.Quoted

/-!
One side of a snapshot reduced to its totals: the sum of the sizes and the sum of
price times size. The order of the levels is the order of summation, and the first
level that cannot take part is reported by its index.
-/

namespace SweepAudit

inductive LevelField where
  | price
  | size
  deriving DecidableEq

def LevelField.name : LevelField → String
  | .price => "price"
  | .size => "size"

/-- Why a level cannot take part in the totals. Texts are reported as they came. -/
inductive LevelError where
  | malformed (index : Nat) (field : LevelField) (value : String)
  | nonPositive (index : Nat) (field : LevelField) (value : String)
  | overflow (index : Nat)
  deriving DecidableEq

def LevelError.message : LevelError → String
  | .malformed index field value =>
    s!"level {index}: {field.name} {Text.quoted value} is not a decimal number"
  | .nonPositive index field value => s!"level {index}: {field.name} must be positive, got {value}"
  | .overflow index => s!"level {index}: running total overflowed"

/-- What a sweep of one side is worth in either asset. -/
structure Liquidity where
  quote : Decimal
  base : Decimal
  deriving DecidableEq

namespace Liquidity

def none : Liquidity := ⟨Decimal.zero, Decimal.zero⟩

/-- The asset that pays for a sweep: quote for a buyer, base for a seller. -/
def funding (total : Liquidity) : Side → Decimal
  | .buy => total.quote
  | .sell => total.base

def proceeds (total : Liquidity) : Side → Decimal
  | .buy => total.base
  | .sell => total.quote

def readNumber (text : String) : Option Decimal :=
  let trimmed := Text.trim text
  match Decimal.parse trimmed with
  | .ok x => some x
  | .error _ => (Decimal.parseStrict trimmed).toOption

def readPositive (index : Nat) (field : LevelField) (text : String) :
    Except LevelError Decimal :=
  match readNumber text with
  | .none => .error (.malformed index field text)
  | some x => if x.IsPositive then .ok x else .error (.nonPositive index field text)

def addLevel (index : Nat) (total : Liquidity) (level : Level) : Except LevelError Liquidity := do
  let price ← readPositive index .price level.price
  let size ← readPositive index .size level.size
  let sums := do
    let notional ← price.mul? size
    let quote ← total.quote.add? notional
    let base ← total.base.add? size
    return ⟨quote, base⟩
  match sums with
  | some total' => .ok total'
  | .none => .error (.overflow index)

def addLevels (index : Nat) (total : Liquidity) : List Level → Except LevelError Liquidity
  | [] => .ok total
  | level :: levels => do
    let total' ← addLevel index total level
    addLevels (index + 1) total' levels

/-- The totals over a list of levels; without levels both are zero. -/
def ofLevels (levels : List Level) : Except LevelError Liquidity := addLevels 0 none levels

end Liquidity

end SweepAudit
