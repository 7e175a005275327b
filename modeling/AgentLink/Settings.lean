import AgentLink.Duration
import AgentLink.Tracing

/-!
# Settings

The settings of a link are the two retry budgets, the tuning of its socket and its diagnostics.
A budget of no attempts is possible where it is set directly; every use of a budget
grants at least one attempt.
-/
namespace AgentLink

/-- How often, and how far apart, connecting is attempted. -/
structure DialPlan where
  /-- Attempts in all. -/
  attempts : Nat := 10
  /-- The pause between two attempts. -/
  delay : Duration := .ofSeconds 1
deriving Repr, DecidableEq

/-- At least one attempt. -/
def DialPlan.atLeastOnce (plan : DialPlan) : DialPlan :=
  { plan with attempts := max plan.attempts 1 }

/-- How many writes in a row may block, and how far apart they are attempted. -/
structure SendBudget where
  /-- Blocked writes in a row that end a send. -/
  maxTries : Nat := 1000
  /-- The pause after a blocked write. -/
  delay : Duration := .ofMilliseconds 10
deriving Repr, DecidableEq

/-- At least one write. -/
def SendBudget.atLeastOnce (budget : SendBudget) : SendBudget :=
  { budget with maxTries := max budget.maxTries 1 }

/-- How an idle connection is probed. -/
structure KeepAlive where
  /-- Silence before the first probe. -/
  idle : Duration := .ofSeconds 60
  /-- The time between two probes. -/
  interval : Duration := .ofSeconds 10
  /-- Unanswered probes that end the connection. -/
  count : Nat := 5
deriving Repr, DecidableEq

/-- How a connected socket is tuned. -/
structure SocketTuning where
  /-- Whether small writes are sent at once. -/
  noDelay : Bool := true
  /-- How an idle connection is probed, if it is. -/
  keepAlive : Option KeepAlive := some {}
deriving Repr, DecidableEq

/-- The settings of a link. -/
structure Settings where
  /-- The budget of connecting. -/
  dial : DialPlan := {}
  /-- The budget of sending. -/
  send : SendBudget := {}
  /-- The tuning of the socket. -/
  socket : SocketTuning := {}
  /-- The diagnostics. -/
  tracing : Tracing := .standard

namespace Settings

/-- Choose the budget of connecting, with at least one attempt. -/
def withDial (settings : Settings) (plan : DialPlan) : Settings :=
  { settings with dial := plan.atLeastOnce }

/-- Choose the budget of sending, with at least one write. -/
def withSend (settings : Settings) (budget : SendBudget) : Settings :=
  { settings with send := budget.atLeastOnce }

end Settings

end AgentLink
