import AgentLink.Decimal

/-!
# IPv4 addresses

The text of an IPv4 address is four decimal numbers below 256 without leading zeros, joined by
dots, and nothing else is the text of an address (`Ipv4.read?`).
-/
namespace AgentLink

/-- An IPv4 address, in the order in which its octets are written. -/
structure Ipv4 where
  /-- The first octet. -/
  first : UInt8
  /-- The second octet. -/
  second : UInt8
  /-- The third octet. -/
  third : UInt8
  /-- The fourth octet. -/
  fourth : UInt8
deriving Repr, DecidableEq

namespace Ipv4

/-- The dot between octets. -/
def dot : UInt8 := 46

/-- The bytes of an octet's text. -/
def octet (value : UInt8) : Bytes := Decimal.digits value.toNat

/-- The bytes of an address's text. -/
def bytes (address : Ipv4) : Bytes :=
  octet address.first ++ dot :: octet address.second ++ dot :: octet address.third ++
    dot :: octet address.fourth

/-- The text of an address. -/
def text (address : Ipv4) : String := ascii address.bytes

/-- Read an octet from the front, as it is written: below 256 and without a leading zero. -/
def readOctet? (source : Bytes) : Option (UInt8 × Bytes) :=
  let digits := source.takeWhile Byte.isDigit
  match Decimal.below? 256 digits with
  | some value =>
    if Decimal.digits value = digits then
      some (UInt8.ofNat value, source.dropWhile Byte.isDigit)
    else none
  | none => none

/-- Read an address from the front. -/
def readFront? (source : Bytes) : Option (Ipv4 × Bytes) := do
  let (first, rest) ← readOctet? source
  let rest ← Byte.skip? dot rest
  let (second, rest) ← readOctet? rest
  let rest ← Byte.skip? dot rest
  let (third, rest) ← readOctet? rest
  let rest ← Byte.skip? dot rest
  let (fourth, rest) ← readOctet? rest
  some (⟨first, second, third, fourth⟩, rest)

/-- Read an address that is the whole of a text. -/
def read? (source : Bytes) : Option Ipv4 := do
  let (address, rest) ← readFront? source
  if rest.isEmpty then some address else none

end Ipv4

end AgentLink
