import AgentLink.Network

/-!
# Resolving addresses

The address of an agent is a host and a port, both text. The port is checked first, and a host
that is the text of an IPv4 address is never looked up. Any other host is asked of the resolver
once; the first usable IPv4 address of the answer is the address of the agent.
-/
namespace AgentLink.Network

/-- The port a text denotes: decimal digits, with leading zeros allowed. -/
def readPort (port : String) : Except ArgumentError Nat :=
  let text := utf8 port
  if text.isEmpty || !text.all Byte.isDigit then .error .portText
  else
    match Decimal.below? Endpoint.portLimit text with
    | some number => .ok number
    | none => .error .portRange

/-- The codes that have a cause of their own; one of them comes with a system error. -/
def resolverCauses (number : Int) : List (Int × ResolveError) :=
  [(nameUnknown, .hostUnreachable),
    (-3, .temporary),
    (-5, .noRecords),
    (-9, .noIpv4Address),
    (-11, .system (.numbered number))]

/-- The cause that a code of the resolver stands for. A code that has none of its own is handed on
with its description. -/
def cause (describe : Int → String) (code number : Int) : ResolveError :=
  ((resolverCauses number).lookup code).getD (.failed code (describe code))

/-- The first address that can be used. -/
def firstAddress (entries : List ResolvedEntry) : Option Ipv4 :=
  entries.findSome? fun | .ipv4 address => address | .otherFamily => none

/-- The address of a host, as the resolver answers. The code zero is no failure, but an answer
without addresses. -/
def answer (describe : Int → String) : LookupReply → Except ResolveError Ipv4
  | .failure code number =>
    .error (if code = 0 then .noIpv4Address else cause describe code number)
  | .entries entries =>
    match firstAddress entries with
    | some address => .ok address
    | none => .error .noIpv4Address

/-- The endpoint of an agent. -/
def resolve (network : Network) (host port : String) : Run Network Endpoint :=
  match readPort port with
  | .error error => ⟨.failed (.invalidArgument error), network, []⟩
  | .ok number =>
    match Ipv4.read? (utf8 host) with
    | some address => ⟨.ok ⟨address, number⟩, network, []⟩
    | none =>
      if (utf8 host).contains Byte.nul then ⟨.failed (.invalidArgument .hostNul), network, []⟩
      else
        let (reply, later) := network.lookup
        let outcome := match answer network.describe reply with
          | .ok address => .ok ⟨address, number⟩
          | .error error => .failed (.resolve error)
        ⟨outcome, later, [.asked { host, service := port }]⟩

end AgentLink.Network
