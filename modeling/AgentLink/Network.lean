import AgentLink.Link

/-!
# Networks

A network is what an engine finds outside: the answers of the resolver, how it describes the codes
that it fails with, what becomes of each attempt to connect, and which socket options cannot be
set. Using it moves it forward, so that each answer is given once. A resolver out of answers knows
no name, and an agent that is not there refuses the connection.
-/
namespace AgentLink

/-- An address in the answer of the resolver. -/
inductive ResolvedEntry where
  /-- An IPv4 entry, whose address may be missing. -/
  | ipv4 (address : Option Ipv4)
  /-- An entry of another family. -/
  | otherFamily
deriving Repr, DecidableEq

/-- An answer of the resolver. -/
inductive LookupReply where
  /-- The addresses of a host, in order of preference. -/
  | entries (entries : List ResolvedEntry)
  /-- A failure, with the number of the system error for the one code that has one. -/
  | failure (code number : Int)
deriving Repr, DecidableEq

/-- What becomes of an attempt to connect. -/
inductive DialReply where
  /-- No socket can be made, and no attempt takes place. -/
  | noSocket (error : SystemError)
  /-- The attempt fails. -/
  | refused (error : SystemError)
  /-- A connection is established: what the agent sends on it, why its endpoint cannot be told,
  and why closing it fails. -/
  | accepted (inbound : Inbound) (peerFailure closeFailure : Option SystemError)
deriving Repr, DecidableEq

/-- The usual descriptions of the codes that a resolver fails with. -/
def LookupReply.descriptions : List (Int × String) :=
  [(-1, "Bad value for ai_flags"),
    (-4, "Non-recoverable failure in name resolution"),
    (-6, "ai_family not supported"),
    (-7, "ai_socktype not supported"),
    (-8, "Servname not supported for ai_socktype"),
    (-10, "Memory allocation failure"),
    (-100, "Processing request in progress"),
    (-101, "Request canceled"),
    (-102, "Request not canceled"),
    (-103, "All requests done"),
    (-104, "Interrupted by a signal"),
    (-105, "Parameter string not correctly encoded")]

/-- The usual description of a code. -/
def LookupReply.describe (code : Int) : String :=
  (descriptions.lookup code).getD "Unknown error"

/-- What an engine finds outside. -/
structure Network where
  /-- Answers of the resolver. -/
  lookups : List LookupReply := []
  /-- How the resolver describes the codes that it fails with. -/
  describe : Int → String := LookupReply.describe
  /-- What becomes of attempts to connect. -/
  dials : List DialReply := []
  /-- Why an option cannot be set, by option and by how often it was set before. -/
  optionFailure : SocketOption → Nat → Option SystemError := fun _ _ => none
  /-- The options set so far. -/
  tuned : List SocketOption := []

namespace Network

/-- The resolver's code for a name it does not know. -/
def nameUnknown : Int := -2

/-- The error of an attempt that nobody answers. -/
def connectionRefused : SystemError := .numbered 111

/-- Ask the resolver. -/
def lookup (network : Network) : LookupReply × Network :=
  match network.lookups with
  | [] => (.failure nameUnknown 0, network)
  | reply :: rest => (reply, { network with lookups := rest })

/-- Attempt to connect. -/
def dial (network : Network) : DialReply × Network :=
  match network.dials with
  | [] => (.refused connectionRefused, network)
  | reply :: rest => (reply, { network with dials := rest })

/-- Set a socket option, which may fail. -/
def tune (network : Network) (option : SocketOption) : Option SystemError × Network :=
  (network.optionFailure option (network.tuned.count option),
    { network with tuned := option :: network.tuned })

/-- The transport of a connection that was established with an endpoint. The agent's end of
stream makes it readable. -/
def transport (endpoint : Endpoint) (inbound : Inbound)
    (peerFailure closeFailure : Option SystemError) : Transport where
  inbound
  signalled := inbound.ended
  peer := match peerFailure with
    | some error => .error error
    | none => .ok endpoint
  closeFailure

end Network

end AgentLink
