/-!
# Tracing

Each operation on a link opens a span of diagnostics. How loud the span is, and whether the
operation ends with an event that reports the time it took, is chosen per operation.
-/
namespace AgentLink

/-- How much a diagnostic matters. -/
inductive Level where
  | error | warn | info | debug | trace
deriving Repr, DecidableEq

/-- The name of a level. -/
def Level.name : Level → String
  | error => "ERROR"
  | warn => "WARN"
  | info => "INFO"
  | debug => "DEBUG"
  | trace => "TRACE"

/-- All levels, the most important first. -/
def Level.all : List Level := [error, warn, info, debug, trace]

/-- The operations on a link. -/
inductive Operation where
  | connect | send | receive | close
deriving Repr, DecidableEq

/-- The name of the span an operation opens. -/
def Operation.spanName : Operation → String
  | connect => "agentwire.connect"
  | send => "agentwire.send"
  | receive => "agentwire.receive"
  | close => "agentwire.close"

/-- What the diagnostics of each operation look like. -/
structure Tracing where
  /-- The level of an operation's span. -/
  level : Operation → Level
  /-- Whether an operation reports the time it took. -/
  timed : Operation → Bool

namespace Tracing

/-- Connecting and closing are reported at the middle level, messages below it, and no operation
is timed. -/
def standard : Tracing where
  level
    | .connect | .close => .info
    | .send | .receive => .debug
  timed _ := false

/-- Choose the level of one operation. -/
def setLevel (tracing : Tracing) (operation : Operation) (level : Level) : Tracing :=
  { tracing with level := fun asked => if asked = operation then level else tracing.level asked }

/-- Choose one level for all operations. -/
def setAllLevels (tracing : Tracing) (level : Level) : Tracing :=
  { tracing with level := fun _ => level }

/-- Choose whether one operation is timed. -/
def setTimed (tracing : Tracing) (operation : Operation) (timed : Bool) : Tracing :=
  { tracing with timed := fun asked => if asked = operation then timed else tracing.timed asked }

/-- Choose whether all operations are timed. -/
def setAllTimed (tracing : Tracing) (timed : Bool) : Tracing :=
  { tracing with timed := fun _ => timed }

end Tracing

end AgentLink
