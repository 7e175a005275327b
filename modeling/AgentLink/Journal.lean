import AgentLink.LinkError
import AgentLink.Settings

/-!
# Journals

An operation acts on the world through effects, and its journal lists them in the order in which
they happened: questions to the resolver, attempts to connect, socket options, writes, pauses,
printed lines and diagnostics. Whatever is observed of a run, such as the bytes that reached an
agent or the time that passed, is read off its journal. `Run` is the result of an operation: how
it ended, the state it left, and its journal.
-/
namespace AgentLink

/-- The value of a field of a diagnostic. -/
inductive FieldValue where
  /-- A number. -/
  | number (value : Nat)
  /-- A text. -/
  | text (value : String)
  /-- The time an operation took, which only a clock can tell. -/
  | measured
deriving Repr, DecidableEq

/-- Named values of a diagnostic. -/
abbrev Fields := List (String × FieldValue)

/-- A diagnostic. -/
inductive Note where
  /-- A line of the log. -/
  | line (level : Level) (text : String)
  /-- An operation opened its span. -/
  | opened (operation : Operation) (level : Level) (fields : Fields)
  /-- Fields of a span that became known later. -/
  | recorded (operation : Operation) (fields : Fields)
  /-- Something happened within the span of an operation. -/
  | event (operation : Operation) (level : Level) (message : String) (fields : Fields)
deriving Repr, DecidableEq

/-- A question to the resolver of host names. -/
structure Question where
  /-- The host name. -/
  host : String
  /-- The service, which is the text of a port. -/
  service : String
  /-- Whether only IPv4 addresses are wanted. -/
  ipv4Only : Bool := true
  /-- Whether only stream sockets are wanted. -/
  stream : Bool := true
  /-- Whether the service is a number. -/
  numericService : Bool := true
deriving Repr, DecidableEq

/-- An option of a connected socket. -/
inductive SocketOption where
  | noDelay | keepAlive | keepIdle | keepInterval | keepCount
deriving Repr, DecidableEq

/-- The name of a socket option. -/
def SocketOption.name : SocketOption → String
  | noDelay => "TCP_NODELAY"
  | keepAlive => "SO_KEEPALIVE"
  | keepIdle => "TCP_KEEPIDLE"
  | keepInterval => "TCP_KEEPINTVL"
  | keepCount => "TCP_KEEPCNT"

/-- What an operation did to the world. -/
inductive Effect where
  /-- It wrote a diagnostic. -/
  | noted (note : Note)
  /-- It paused. -/
  | slept (duration : Duration)
  /-- A write attempt took these bytes. -/
  | wrote (bytes : Bytes)
  /-- A write attempt failed. -/
  | writeFailed (error : SystemError)
  /-- It asked the resolver. -/
  | asked (question : Question)
  /-- It attempted to connect. -/
  | dialed (endpoint : Endpoint)
  /-- A connection was established. -/
  | connected
  /-- It set, or failed to set, a socket option. -/
  | tuned (option : SocketOption) (value : Int)
  /-- It printed a line. -/
  | printed (line : String)
deriving Repr, DecidableEq

/-- Effects in the order in which they happened. -/
abbrev Journal := List Effect

namespace Journal

/-- The diagnostics. -/
def notes (journal : Journal) : List Note :=
  journal.filterMap fun | .noted note => some note | _ => none

/-- The pauses. -/
def pauses (journal : Journal) : List Duration :=
  journal.filterMap fun | .slept duration => some duration | _ => none

/-- The time that passed, all of it in pauses. -/
def elapsed (journal : Journal) : Duration := .sum journal.pauses

/-- The bytes that writes took. -/
def written (journal : Journal) : Bytes :=
  journal.flatMap fun | .wrote bytes => bytes | _ => []

/-- Whether an effect is a write attempt. -/
def isWrite : Effect → Bool
  | .wrote _ | .writeFailed _ => true
  | _ => false

/-- How many writes were attempted. -/
def writes (journal : Journal) : Nat := journal.countP isWrite

/-- The questions to the resolver. -/
def questions (journal : Journal) : List Question :=
  journal.filterMap fun | .asked question => some question | _ => none

/-- The endpoints of the attempts to connect. -/
def dials (journal : Journal) : List Endpoint :=
  journal.filterMap fun | .dialed endpoint => some endpoint | _ => none

/-- The socket options that were set, the ones that failed included. -/
def options (journal : Journal) : List (SocketOption × Int) :=
  journal.filterMap fun | .tuned option value => some (option, value) | _ => none

/-- The printed lines. -/
def printed (journal : Journal) : List String :=
  journal.filterMap fun | .printed line => some line | _ => none

/-- The bytes written before the first connection, and those written on each connection. -/
def byConnection : Journal → Bytes × List Bytes
  | [] => ([], [])
  | .connected :: rest =>
    let (first, others) := byConnection rest
    ([], first :: others)
  | .wrote bytes :: rest =>
    let (first, others) := byConnection rest
    (bytes ++ first, others)
  | _ :: rest => byConnection rest

/-- The bytes that each established connection took. -/
def deliveries (journal : Journal) : List Bytes := journal.byConnection.2

end Journal

/-- A line of the log. -/
def Effect.line (level : Level) (text : String) : Effect := .noted (.line level text)

namespace Tracing

/-- The span of an operation. -/
def opening (tracing : Tracing) (operation : Operation) (fields : Fields) : Journal :=
  [.noted (.opened operation (tracing.level operation) fields)]

/-- The report of the time an operation took, if it is timed. -/
def timing (tracing : Tracing) (operation : Operation) : Journal :=
  if tracing.timed operation then
    [.noted (.event operation .debug "operation.timing" [("elapsed_us", .measured)])]
  else []

end Tracing

/-- The result of an operation. -/
structure Run (σ α : Type) where
  /-- How it ended. -/
  outcome : Outcome α
  /-- The state it left. -/
  state : σ
  /-- What it did, in order. -/
  journal : Journal
deriving Repr

namespace Run

variable {σ τ α β : Type}

/-- A run that did more before. -/
def prepend (earlier : Journal) (run : Run σ α) : Run σ α :=
  { run with journal := earlier ++ run.journal }

/-- A run that did more afterwards. -/
def append (run : Run σ α) (later : Journal) : Run σ α :=
  { run with journal := run.journal ++ later }

/-- Continue a run that succeeded. A run that did not is left as it is, with a state of the new
type. -/
def andThen (run : Run σ α) (stop : σ → τ) (next : α → σ → Run τ β) : Run τ β :=
  match run.outcome with
  | .ok value => (next value run.state).prepend run.journal
  | .failed error => ⟨.failed error, stop run.state, run.journal⟩
  | .fault => ⟨.fault, stop run.state, run.journal⟩
  | .waiting => ⟨.waiting, stop run.state, run.journal⟩

end Run

end AgentLink
