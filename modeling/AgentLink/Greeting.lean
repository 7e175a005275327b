import AgentLink.LinkError

/-!
# Greetings

The first message of an agent is a line that gives the number of its process: `PID`, a space and
decimal digits. The line ends at the first NUL of the buffer it was received into.
-/
namespace AgentLink.Greeting

/-- What stands in front of the number: `PID` and a space. -/
def lead : Bytes := [80, 73, 68, 32]

/-- Process numbers are words of 32 bits. -/
def processLimit : Nat := UInt32.size

/-- The bytes up to the first NUL. -/
def line (buffer : Bytes) : Bytes := buffer.takeWhile (· != Byte.nul)

/-- The number a line gives. -/
def number? (line : Bytes) : Option Nat :=
  if lead.isPrefixOf line then Decimal.read? processLimit (line.drop lead.length) else none

/-- The process number in a buffer that holds a greeting. -/
def processNumber (buffer : Bytes) : Outcome Nat :=
  match number? (line buffer) with
  | some number => .ok number
  | none => .failed (.invalidArgument .greeting)

end AgentLink.Greeting
