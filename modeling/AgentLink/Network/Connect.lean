import AgentLink.Network.Resolve

/-!
# Connecting

Connecting resolves the address of an agent once, makes attempts one pause apart until one
succeeds, and tunes the socket. Each attempt uses a fresh socket; a socket that cannot be made
ends connecting at once, and so does an option that cannot be set.
-/
namespace AgentLink

/-- An option to be set on a connected socket, and the name that a failure is reported by. -/
structure Tuning where
  /-- The option. -/
  option : SocketOption
  /-- Its value. -/
  value : Int
  /-- The name in a failure's report. -/
  reportedAs : String
deriving Repr, DecidableEq

namespace Tuning

/-- A switch is one or zero. -/
def flag (on : Bool) : Int := if on then 1 else 0

/-- The whole seconds of a duration, at most the largest signed word of 32 bits. -/
def wholeSeconds (duration : Duration) : Int := min duration.seconds Int32.maxValue.toInt

/-- A count reinterpreted as a signed word of 32 bits. -/
def signedCount (count : Nat) : Int := Int.bmod count UInt32.size

/-- The name of the four options that probing needs, set together. -/
def probing : String := "TCP keepalive timing"

/-- The options that a tuning of sockets asks for, in order. -/
def steps (tuning : SocketTuning) : List Tuning :=
  ⟨.noDelay, flag tuning.noDelay, SocketOption.noDelay.name⟩ ::
    match tuning.keepAlive with
    | some keepAlive =>
      [⟨.keepAlive, flag true, probing⟩,
        ⟨.keepIdle, wholeSeconds keepAlive.idle, probing⟩,
        ⟨.keepInterval, wholeSeconds keepAlive.interval, probing⟩,
        ⟨.keepCount, signedCount keepAlive.count, probing⟩,
        ⟨.keepAlive, flag true, SocketOption.keepAlive.name⟩]
    | none => [⟨.keepAlive, flag false, SocketOption.keepAlive.name⟩]

end Tuning

namespace Network

/-- Set options in order, up to the first that fails. -/
def tuneAll (network : Network) : List Tuning → Run Network Unit
  | [] => ⟨.ok (), network, []⟩
  | step :: rest =>
    let effect : Effect := .tuned step.option step.value
    match network.tune step.option with
    | (some error, later) => ⟨.failed (.socketOption step.reportedAs error), later, [effect]⟩
    | (none, later) => (later.tuneAll rest).prepend [effect]

/-- The log's line about an attempt that is followed by another. -/
def redial (endpoint : Endpoint) (attempt attempts : Nat) (error : SystemError) : Effect :=
  .line .warn ("connect to " ++ endpoint.text ++ " failed (attempt " ++ toString attempt ++
    " of " ++ toString attempts ++ "): " ++ error.text)

/-- A connection and the number of the attempt that established it. -/
structure Dialed where
  /-- The connection. -/
  transport : Transport
  /-- The number of the attempt, from one. -/
  attempt : Nat

/-- Attempt to connect, with `more` attempts left after this one. -/
def dialUntil (endpoint : Endpoint) (plan : DialPlan) (network : Network) (more : Nat) :
    Run Network Dialed :=
  let attempt := plan.attempts - more
  match network.dial with
  | (.noSocket error, later) => ⟨.failed (.transport error), later, []⟩
  | (.accepted inbound peerFailure closeFailure, later) =>
    ⟨.ok ⟨transport endpoint inbound peerFailure closeFailure, attempt⟩, later,
      [.dialed endpoint, .connected]⟩
  | (.refused error, later) =>
    match more with
    | 0 => ⟨.failed (.connect (.ipv4 endpoint) attempt error), later, [.dialed endpoint]⟩
    | fewer + 1 =>
      (dialUntil endpoint plan later fewer).prepend
        [.dialed endpoint, redial endpoint attempt plan.attempts error, .slept plan.delay]

/-- Attempt to connect as often as a plan allows. -/
def dialAll (endpoint : Endpoint) (plan : DialPlan) (network : Network) : Run Network Dialed :=
  let plan := plan.atLeastOnce
  dialUntil endpoint plan network (plan.attempts - 1)

/-- Tune the socket of a connection and make it a link. -/
def finishLink (settings : Settings) (network : Network) (dialed : Dialed) : Run Network Link :=
  (network.tuneAll (Tuning.steps settings.socket)).andThen id fun _ later =>
    ⟨.ok { transport := dialed.transport, settings }, later,
      [.noted (.event .connect .debug "connected" [("attempts", .number dialed.attempt)])]⟩

/-- Connect to an agent at an endpoint that is known. -/
def reach (endpoint : Endpoint) (settings : Settings) (network : Network) : Run Network Link :=
  (dialAll endpoint settings.dial network).andThen id fun dialed later =>
    finishLink settings later dialed

/-- Connect to an agent. -/
def connect (network : Network) (host port : String) (settings : Settings) :
    Run Network Link :=
  let tracing := settings.tracing
  let reached := (network.resolve host port).andThen id fun endpoint later =>
    (reach endpoint settings later).prepend
      [.noted (.recorded .connect [("peer.addr", .text endpoint.text)])]
  (reached.prepend (tracing.opening .connect
    [("agent.host", .text host), ("agent.port", .text port)])).append (tracing.timing .connect)

end Network

end AgentLink
