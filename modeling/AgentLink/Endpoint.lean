import AgentLink.Ipv4

/-!
# Endpoints

Agents are reached at an IPv4 address and a port. The text of an endpoint joins the two by a
colon; a port that is read may have leading zeros.
-/
namespace AgentLink

/-- An address and a port. -/
structure Endpoint where
  /-- The address. -/
  address : Ipv4
  /-- The port. -/
  port : Nat
deriving Repr, DecidableEq

namespace Endpoint

/-- Ports are words of 16 bits. -/
def portLimit : Nat := UInt16.size

/-- The bytes of an endpoint's text. -/
def bytes (endpoint : Endpoint) : Bytes :=
  endpoint.address.bytes ++ Byte.colon :: Decimal.digits endpoint.port

/-- The text of an endpoint. -/
def text (endpoint : Endpoint) : String := ascii endpoint.bytes

/-- Read a colon and a port, to the end of a text. -/
def readPort? (source : Bytes) : Option Nat :=
  (Byte.skip? Byte.colon source).bind (Decimal.read? portLimit)

/-- Read an endpoint that is the whole of a text. -/
def read? (source : Bytes) : Option Endpoint := do
  let (address, rest) ← Ipv4.readFront? source
  (readPort? rest).map (⟨address, ·⟩)

end Endpoint

end AgentLink
