import SweepAudit.Http.Domain.Basic
import SweepAudit.Http.Ipv6
import SweepAudit.Text.Percent

/-!
Hosts of addresses: names, and addresses of machines. In a scheme that is known a name is
one of the domain system; in any other it is kept as it is.
-/

namespace SweepAudit.Http

inductive Host where
  | name (text : List Char)
  | ipv4 (address : BitVec 32)
  | ipv6 (pieces : List Nat)
  deriving DecidableEq

inductive HostError where
  | empty
  | badName
  | badCharacter
  | badIpv4
  | badIpv6
  deriving DecidableEq

def HostError.message : HostError → String
  | .empty => "empty host"
  | .badName => "invalid international domain name"
  | .badCharacter => "invalid domain character"
  | .badIpv4 => "invalid IPv4 address"
  | .badIpv6 => "invalid IPv6 address"

namespace Host

def text : Host → List Char
  | .name text => text
  | .ipv4 address => Ipv4.text address
  | .ipv6 pieces => '[' :: (Ipv6.text pieces ++ [']'])

def nothing : Host := .name []

def readBrackets (cs : List Char) : Except HostError Host :=
  if cs.getLast? = some ']' then
    match Ipv6.read? cs.dropLast with
    | some pieces => .ok (.ipv6 pieces)
    | none => .error .badIpv6
  else .error .badIpv6

def readName (cs : List Char) : Except HostError Host :=
  match (Text.percentDecode? cs).bind Domain.toAscii? with
  | none => .error .badName
  | some [] => .error .empty
  | some domain =>
    if Ipv4.isMeant domain then
      match Ipv4.read? domain with
      | some address => .ok (.ipv4 address)
      | none => .error .badIpv4
    else .ok (.name domain)

def readKnown : List Char → Except HostError Host
  | '[' :: cs => readBrackets cs
  | cs => readName cs

def isBarred (c : Char) : Bool := "\x00\t\n\r #/:<>?@[\\]^|".toList.contains c

def isPrinted (c : Char) : Bool := ' ' ≤ c && c ≤ '~'

def readOther : List Char → Except HostError Host
  | '[' :: cs => readBrackets cs
  | cs =>
    if cs.any isBarred then .error .badCharacter
    else .ok (.name (Text.percentEncode isPrinted cs))

end Host

end SweepAudit.Http
