import AgentLink.Endpoint
import AgentLink.Ipv6

/-!
# Socket addresses

A failure to connect names the address that was tried. Agents are looked for at IPv4 endpoints
only, but a failure can be reported of an IPv6 address too: its text has brackets around the
address, and in them the scope of the address if it has one.
-/
namespace AgentLink

/-- The address of a socket. -/
inductive SocketAddress where
  /-- An IPv4 address and a port. -/
  | ipv4 (endpoint : Endpoint)
  /-- An IPv6 address, its scope or zero, and a port. -/
  | ipv6 (address : Ipv6) (scope port : Nat)
deriving Repr, DecidableEq

namespace SocketAddress

/-- The bracket in front of an IPv6 address. -/
def opening : UInt8 := 91

/-- The bracket after an IPv6 address. -/
def closing : UInt8 := 93

/-- The percent sign in front of a scope. -/
def percent : UInt8 := 37

/-- Scopes are words of 32 bits. -/
def scopeLimit : Nat := UInt32.size

/-- The bytes of a scope's text. -/
def scopeBytes (scope : Nat) : Bytes :=
  if scope = 0 then [] else percent :: Decimal.digits scope

/-- The bytes of a socket address's text. -/
def bytes : SocketAddress → Bytes
  | ipv4 endpoint => endpoint.bytes
  | ipv6 address scope port =>
    opening :: address.bytes ++ scopeBytes scope ++ closing :: Byte.colon :: Decimal.digits port

/-- The text of a socket address. -/
def text (address : SocketAddress) : String := ascii address.bytes

/-- Read a scope from the front; without one it is zero. -/
def readScope? (source : Bytes) : Option (Nat × Bytes) :=
  match Byte.skip? percent source with
  | some inner =>
    (Decimal.read? scopeLimit (inner.takeWhile Byte.isDigit)).map
      (·, inner.dropWhile Byte.isDigit)
  | none => some (0, source)

/-- Read an IPv6 address in brackets and a port that are the whole of a text. -/
def readIpv6? (source : Bytes) : Option SocketAddress := do
  let rest ← Byte.skip? opening source
  let (address, rest) ← Ipv6.readFront? rest
  let (scope, rest) ← readScope? rest
  let rest ← Byte.skip? closing rest
  let port ← Endpoint.readPort? rest
  some (.ipv6 address scope port)

/-- Read a socket address that is the whole of a text. -/
def read? (source : Bytes) : Option SocketAddress :=
  match Endpoint.read? source with
  | some endpoint => some (.ipv4 endpoint)
  | none => readIpv6? source

end SocketAddress

end AgentLink
