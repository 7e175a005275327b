import AgentLink.Duration

/-!
# Back-off

Connecting to an agent that is still starting is repeated with pauses that double up to a
longest pause. The two pauses may be given in either order.
-/
namespace AgentLink

/-- The pauses between attempts, and how many attempts there are. -/
structure Backoff where
  /-- The first pause. -/
  initial : Duration := .ofSeconds 1
  /-- The longest pause. -/
  longest : Duration := .ofSeconds 5
  /-- Attempts in all. -/
  attempts : Nat := 3
deriving Repr, DecidableEq

namespace Backoff

/-- The pauses in order, and at least one attempt. -/
def ordered (backoff : Backoff) : Backoff where
  initial := if backoff.longest.nanoseconds < backoff.initial.nanoseconds then backoff.longest
    else backoff.initial
  longest := if backoff.longest.nanoseconds < backoff.initial.nanoseconds then backoff.initial
    else backoff.longest
  attempts := max backoff.attempts 1

/-- The pause after a given one. Doubling a pause that is too long to be doubled has no
result. -/
def next? (backoff : Backoff) (pause : Duration) : Option Duration :=
  pause.double?.map (·.min backoff.longest)

end Backoff

end AgentLink
