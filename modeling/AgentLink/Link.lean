import AgentLink.Inbound
import AgentLink.Outlet

/-!
# Links

A link is the controlling side of a connection to an agent. All it remembers between two
operations is how many bytes of the last announced attachment are still to be received; both
directions of its transport go their own way.
-/
namespace AgentLink

/-- The connection underneath a link. -/
structure Transport where
  /-- What is still to arrive. -/
  inbound : Inbound
  /-- Where bytes are written. -/
  outlet : Outlet := .unlimited
  /-- Whether the transport is readable although no bytes are waiting. -/
  signalled : Bool := false
  /-- The endpoint of the agent, or why it cannot be told. -/
  peer : Except SystemError Endpoint := .error (.plain .notConnected)
  /-- Why closing fails, if it does. -/
  closeFailure : Option SystemError := none

namespace Transport

/-- Whether a read would find something. -/
def isReadable (transport : Transport) : Bool :=
  transport.signalled || transport.inbound.unread != 0

/-- The agent sends bytes. -/
def deliver (transport : Transport) (bytes : Bytes) : Transport :=
  { transport with inbound := transport.inbound.deliver bytes }

/-- The agent ends its stream, which makes the transport readable for good. -/
def hangUp (transport : Transport) : Transport :=
  { transport with inbound := transport.inbound.finish, signalled := true }

end Transport

/-- The controlling side of a connection to an agent. -/
structure Link where
  /-- The connection. -/
  transport : Transport
  /-- Attachment bytes still to be received. -/
  pending : Nat := 0
  /-- The settings. -/
  settings : Settings := {}

namespace Link

/-- Whether a receive would find something. -/
def isReady (link : Link) : Bool := link.pending != 0 || link.transport.isReadable

/-- The endpoint of the agent. -/
def peer (link : Link) : Except LinkError Endpoint := link.transport.peer.mapError .transport

/-- What a link shows of itself. -/
def summary (link : Link) : String :=
  "Connection \x7b pending_attachment_bytes: " ++ toString link.pending ++ ", .. \x7d"

/-- The agent sends bytes. -/
def deliver (link : Link) (bytes : Bytes) : Link :=
  { link with transport := link.transport.deliver bytes }

/-- The agent ends its stream. -/
def hangUp (link : Link) : Link := { link with transport := link.transport.hangUp }

/-- Send bytes. What has been received, or is still to arrive, plays no part. -/
def send (link : Link) (data : Bytes) : Run Link Unit :=
  let tracing := link.settings.tracing
  let sent := link.transport.outlet.writeAll link.settings.send.atLeastOnce data.length data 0
  ⟨sent.outcome, { link with transport := { link.transport with outlet := sent.state } },
    tracing.opening .send [("message.bytes", .number data.length)] ++ sent.journal ++
      tracing.timing .send⟩

/-- The diagnostic of a link that is closed with attachment bytes still to be received. -/
def abandonment (link : Link) : Journal :=
  if link.pending = 0 then []
  else
    [.noted (.event .close .debug "closing with attachment bytes unread"
      [("pending", .number link.pending)])]

/-- Close a link, which ends it even where closing fails. -/
def close (link : Link) : Run Unit Unit :=
  let tracing := link.settings.tracing
  let outcome := match link.transport.closeFailure with
    | some error => .failed (.transport error)
    | none => .ok ()
  ⟨outcome, (), tracing.opening .close [] ++ link.abandonment ++ tracing.timing .close⟩

end Link

end AgentLink
