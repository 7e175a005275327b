import AgentLink.Receipt
import AgentLink.SocketAddress
import AgentLink.SystemError

/-!
# Failures

Every failure is a value that says its cause. `LinkError.message` is its wording, `source?` the
system error underneath it, and `errorNumber?` the number of that error. An operation that does
not succeed need not fail: it can meet the fault of the marker scan, or be left waiting for bytes
that do not come. `Outcome` keeps the four apart.
-/
namespace AgentLink

/-- Why the address of an agent could not be found. -/
inductive ResolveError where
  /-- The resolver does not know the name. -/
  | hostUnreachable
  /-- The host has no IPv4 address. -/
  | noIpv4Address
  /-- The name is known but has no addresses. -/
  | noRecords
  /-- The name server failed for now. -/
  | temporary
  /-- The operating system failed. -/
  | system (error : SystemError)
  /-- Any other failure, as the resolver numbers and describes it. -/
  | failed (code : Int) (description : String)
deriving Repr, DecidableEq

namespace ResolveError

/-- The wording of a failed resolution. -/
def message : ResolveError → String
  | hostUnreachable => "agent host is unreachable: name not known"
  | noIpv4Address => "agent host has no IPv4 address"
  | noRecords => "agent host has no address records"
  | temporary => "temporary failure in name resolution"
  | system error => "name resolution failed: " ++ error.text
  | failed code description =>
    "name resolution failed (" ++ toString code ++ "): " ++ description

/-- Whether the same question may be answered later. -/
def isRetryable : ResolveError → Bool
  | temporary => true
  | hostUnreachable | noIpv4Address | noRecords | system _ | failed _ _ => false

end ResolveError

/-- What is wrong with an argument. -/
inductive ArgumentError where
  /-- A header holds a NUL or a newline. -/
  | headerTerminator
  /-- A header sent without attachment reads as one that announces an attachment. -/
  | headerMarker
  /-- A header sent with an attachment has no byte in front of its marker. -/
  | headerTooShort
  /-- A port is empty or holds another byte than a digit. -/
  | portText
  /-- A port is no word of 16 bits. -/
  | portRange
  /-- A host holds a NUL. -/
  | hostNul
  /-- A greeting does not give the number of a process. -/
  | greeting
  /-- The header of a reply exceeds the buffer that the command line asked for. -/
  | replyHeader
  /-- Any other argument, in words. -/
  | other (text : String)
deriving Repr, DecidableEq

/-- The wording of a wrong argument. -/
def ArgumentError.message : ArgumentError → String
  | headerTerminator => "header must not contain NUL or newline"
  | headerMarker => "header without attachment ends with an attachment marker"
  | headerTooShort => "header is too short to carry an attachment marker"
  | portText => "port must be a decimal number"
  | portRange => "port is out of range"
  | hostNul => "host contains NUL byte"
  | greeting => "agent greeting is not a PID line"
  | replyHeader => "reply header does not fit --buffer"
  | other text => text

/-- Why an operation on an agent's link failed. -/
inductive LinkError where
  /-- The address of the agent could not be found. -/
  | resolve (error : ResolveError)
  /-- Every attempt to connect failed, the last one with this error. -/
  | connect (address : SocketAddress) (attempts : Nat) (error : SystemError)
  /-- A socket option could not be set. -/
  | socketOption (option : String) (error : SystemError)
  /-- The budget of blocked writes ran out, the last one with this error. -/
  | sendExhausted (total remaining : Nat) (error : SystemError)
  /-- The established connection failed. -/
  | transport (error : SystemError)
  /-- The agent ended its stream while bytes were awaited. -/
  | peerClosed
  /-- The first message of an agent did not come whole. -/
  | incompleteGreeting (receipt : Receipt)
  /-- An argument was wrong. -/
  | invalidArgument (error : ArgumentError)
deriving Repr, DecidableEq

namespace LinkError

/-- The wording of a failure. -/
def message : LinkError → String
  | resolve error => error.message
  | connect address attempts error =>
    "failed to connect to " ++ address.text ++ " after " ++ toString attempts ++
      " attempt(s): " ++ error.text
  | socketOption option error => "failed to set " ++ option ++ ": " ++ error.text
  | sendExhausted total remaining error =>
    "transmit stalled with " ++ toString remaining ++ " of " ++ toString total ++
      " bytes unsent: " ++ error.text
  | transport error => "transport error: " ++ error.text
  | peerClosed => "connection closed by peer"
  | incompleteGreeting receipt =>
    "agent greeting was not a complete message: " ++ receipt.word
  | invalidArgument error => "invalid argument: " ++ error.message

/-- The system error underneath a failure. -/
def source? : LinkError → Option SystemError
  | resolve (.system error) => some error
  | connect _ _ error | socketOption _ error | sendExhausted _ _ error | transport error =>
    some error
  | resolve _ | peerClosed | incompleteGreeting _ | invalidArgument _ => none

/-- The error number of a connection whose other end is closed. -/
def brokenPipe : Int := 32

/-- The error number underneath a failure. An agent that ended its stream counts as a broken
pipe. -/
def errorNumber? : LinkError → Option Int
  | peerClosed => some brokenPipe
  | error => error.source?.bind SystemError.number?

/-- Whether the agent ended its stream. -/
def isPeerClosed : LinkError → Bool
  | peerClosed => true
  | resolve _ | connect _ _ _ | socketOption _ _ | sendExhausted _ _ _ | transport _
  | incompleteGreeting _ | invalidArgument _ => false

/-- Whether an argument was wrong. -/
def isInvalidArgument : LinkError → Bool
  | invalidArgument _ => true
  | resolve _ | connect _ _ _ | socketOption _ _ | sendExhausted _ _ _ | transport _
  | incompleteGreeting _ | peerClosed => false

end LinkError

/-- How an operation ends. -/
inductive Outcome (α : Type) where
  /-- With a value. -/
  | ok (value : α)
  /-- With a failure. -/
  | failed (error : LinkError)
  /-- At the fault of a computation whose result does not exist. -/
  | fault
  /-- Not at all: it was left waiting for bytes that do not come. -/
  | waiting
deriving Repr, DecidableEq

namespace Outcome

variable {α β : Type}

/-- Change the value of a success. -/
def map (change : α → β) : Outcome α → Outcome β
  | ok value => ok (change value)
  | failed error => failed error
  | fault => fault
  | waiting => waiting

/-- Whether the operation succeeded. -/
def isOk : Outcome α → Bool
  | ok _ => true
  | failed _ | fault | waiting => false

end Outcome

end AgentLink
