/-!
The flags of the command line: their names, what is said of them, and how messages
refer to them.
-/

namespace SweepAudit.CommandLine

inductive Flag where
  | symbol
  | basePrice
  | ladderDepth
  | limit
  | skipSeed
  | hosted
  | help
  deriving DecidableEq

namespace Flag

def all : List Flag := [.symbol, .basePrice, .ladderDepth, .limit, .skipSeed, .hosted, .help]

def name : Flag → String
  | .symbol => "symbol"
  | .basePrice => "base-price"
  | .ladderDepth => "ladder-depth"
  | .limit => "limit"
  | .skipSeed => "skip-seed"
  | .hosted => "mock"
  | .help => "help"

def valueName? : Flag → Option String
  | .symbol => some "SYMBOL"
  | .basePrice => some "BASE_PRICE"
  | .ladderDepth => some "LADDER_DEPTH"
  | .limit => some "LIMIT"
  | .skipSeed | .hosted | .help => none

def takesValue (flag : Flag) : Bool := flag.valueName?.isSome

def shown (flag : Flag) : String :=
  match flag.valueName? with
  | some value => s!"--{flag.name} <{value}>"
  | none => s!"--{flag.name}"

def ofName? (name : String) : Option Flag := all.find? fun flag => flag.name == name

def purpose : Flag → String
  | .symbol => "Market to seed and sweep (overrides SYMBOL)"
  | .basePrice => "Price the ladder is built around [default: 2000]"
  | .ladderDepth => "Levels per side in the seeded ladder [default: 3]"
  | .limit => "Depth levels requested per side (overrides DEPTH_LIMIT)"
  | .skipSeed => "Verify whatever already rests on the book"
  | .hosted => "Run against an in-process mock order book instead of ORDERBOOK_HOST"
  | .help => "Print help"

def letter? : Flag → Option Char
  | .help => some 'h'
  | _ => none

end Flag

def padded (width : Nat) (s : String) : String :=
  String.ofList (s.toList.rightpad width ' ')

def flagColumn : Nat := 29

def helpLine (flag : Flag) : String :=
  let letter := match flag.letter? with
    | some c => s!"  -{c}, "
    | none => "      "
  letter ++ padded flagColumn flag.shown ++ "  " ++ flag.purpose ++ "\n"

def help : String :=
  String.join
    (["Seeds an order book and verifies auction settlement against it\n\n",
      "Usage: auction-harness [OPTIONS]\n\n", "Options:\n"] ++ Flag.all.map helpLine)

end SweepAudit.CommandLine
