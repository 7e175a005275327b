import AgentLink.Backoff
import AgentLink.Greeting
import AgentLink.Link.Receive
import AgentLink.Network.Connect

/-!
# Starting agents

An agent that was just launched may not be listening yet, or may accept a connection and drop it
while it finishes starting. `Agent.start` connects again, with the pauses of a back-off, until the
agent's greeting has come whole. A wrong argument, a greeting that cannot come whole, and a
failure of the connection while the greeting is read end it at once; everything else is tried
again.
-/
namespace AgentLink

/-- A link to an agent that has greeted. -/
structure StartedAgent where
  /-- The link. -/
  link : Link
  /-- How the greeting filled the buffer. -/
  greeting : Receipt

namespace Agent

/-- What an attempt to reach an agent comes to, unless it fails for good. -/
inductive Attempt where
  /-- The agent greeted. -/
  | greeted (agent : StartedAgent)
  /-- It failed, and may be made again. -/
  | retry (error : LinkError)

/-- The log's line about a connection that could not even be closed. -/
def closeTrouble (error : LinkError) : Effect :=
  .line .warn ("closing agent connection failed: " ++ error.message)

/-- Close the link of an attempt that failed; a failure to close is only logged. -/
def discard (link : Link) : Journal :=
  let closed := link.close
  match closed.outcome with
  | .failed error => closed.journal ++ [closeTrouble error]
  | .ok _ | .fault | .waiting => closed.journal

/-- A greeting that failed is tried again only where the agent hung up. -/
def afterGreeting (error : LinkError) : Outcome Attempt :=
  if error.isPeerClosed then .ok (.retry error) else .failed error

/-- A connection that failed is tried again, but for a wrong argument. -/
def afterConnecting (error : LinkError) : Outcome Attempt :=
  if error.isInvalidArgument then .failed error else .ok (.retry error)

/-- Receive the greeting on a fresh link. -/
def greet (network : Network) (link : Link) (buffer : Bytes) : Run (Network × Bytes) Attempt :=
  let received := link.receive buffer
  let (after, stored) := received.state
  let give (outcome : Outcome Attempt) (later : Journal) : Run (Network × Bytes) Attempt :=
    ⟨outcome, (network, stored), received.journal ++ later⟩
  match received.outcome with
  | .ok (.complete length attachment) =>
    give (.ok (.greeted ⟨after, .complete length attachment⟩)) []
  | .ok receipt => give (afterGreeting (.incompleteGreeting receipt)) (discard after)
  | .failed error => give (afterGreeting error) (discard after)
  | .fault => give .fault []
  | .waiting => give .waiting []

/-- Connect once and receive the greeting. -/
def attempt (network : Network) (host port : String) (settings : Settings) (buffer : Bytes) :
    Run (Network × Bytes) Attempt :=
  let connected := network.connect host port settings
  match connected.outcome with
  | .ok link => (greet connected.state link buffer).prepend connected.journal
  | .failed error => ⟨afterConnecting error, (connected.state, buffer), connected.journal⟩
  | .fault => ⟨.fault, (connected.state, buffer), connected.journal⟩
  | .waiting => ⟨.waiting, (connected.state, buffer), connected.journal⟩

/-- The log's line about an agent that greeted. -/
def welcome (host port : String) (attempt : Nat) : Effect :=
  .line .info ("agent at " ++ host ++ ":" ++ port ++ " greeted after " ++ toString attempt ++
    " attempt(s)")

/-- The log's line about an attempt that is followed by another. -/
def perseverance (host port : String) (error : LinkError) (pause : Duration) : Effect :=
  .line .warn ("connecting to agent " ++ host ++ ":" ++ port ++ " failed (" ++ error.message ++
    "); connect again after " ++ pause.text)

/-- Make attempts, with `more` of them left after this one and `pause` before the next. -/
def startUntil (host port : String) (settings : Settings) (backoff : Backoff) (network : Network)
    (buffer : Bytes) (pause : Duration) (more : Nat) : Run (Network × Bytes) StartedAgent :=
  let tried := attempt network host port settings buffer
  let give (outcome : Outcome StartedAgent) (later : Journal) :
      Run (Network × Bytes) StartedAgent := ⟨outcome, tried.state, tried.journal ++ later⟩
  match tried.outcome with
  | .ok (.greeted agent) =>
    give (.ok agent) [welcome host port (backoff.attempts - more)]
  | .ok (.retry error) =>
    match more with
    | 0 => give (.failed error) []
    | fewer + 1 =>
      let between := [perseverance host port error pause, .slept pause]
      match backoff.next? pause with
      | none => give .fault between
      | some next =>
        (startUntil host port settings backoff tried.state.1 tried.state.2 next fewer).prepend
          (tried.journal ++ between)
  | .failed error => give (.failed error) []
  | .fault => give .fault []
  | .waiting => give .waiting []

/-- Connect to an agent that may still be starting, and receive its greeting. -/
def start (network : Network) (host port : String) (backoff : Backoff) (settings : Settings)
    (buffer : Bytes) : Run (Network × Bytes) StartedAgent :=
  let backoff := backoff.ordered
  startUntil host port settings backoff network buffer backoff.initial (backoff.attempts - 1)

end Agent

end AgentLink
