import AgentLink.Link
import AgentLink.Marker

/-!
# Receiving

One receive stores bytes at the front of a buffer. Where no attachment bytes are owed it reads a
header, and then, if the header ends in a marker, as much of the attachment as the buffer has
room for. Where some are owed it continues the attachment and looks at none of its bytes. A
receive says how many bytes a later one still owes only once it has filled the buffer.

`Reception` is what a receive does apart from diagnostics, for a buffer of which only the
capacity matters; `Link.receive` adds the caller's buffer and the span.
-/
namespace AgentLink

/-- What one receive did. -/
structure Reception where
  /-- How it ended. -/
  outcome : Outcome Receipt
  /-- The bytes stored at the front of the buffer. -/
  stored : Bytes
  /-- What is still to arrive. -/
  inbound : Inbound
  /-- Attachment bytes still to be received. -/
  pending : Nat
  /-- The diagnostics. -/
  journal : Journal

namespace Reception

/-- A diagnostic within a receive. -/
def event (message : String) (fields : Fields) : Journal :=
  [.noted (.event .receive .debug message fields)]

/-- Continue an attachment of which `owed` bytes are still to be received. An attachment whose
rest fits the buffer counts as received before its bytes are read. -/
def drain (inbound : Inbound) (owed capacity : Nat) : Reception :=
  if owed ≤ capacity then
    let intake := inbound.take owed
    ⟨intake.outcome.map fun _ => .complete owed (some 0), intake.taken, intake.rest, 0, []⟩
  else
    let intake := inbound.take capacity
    let outcome := intake.outcome.map fun _ => .attachmentPending owed 0
    if intake.outcome.isOk then
      ⟨outcome, intake.taken, intake.rest, owed - capacity,
        event "attachment still pending" [("remaining", .number (owed - capacity))]⟩
    else ⟨outcome, intake.taken, intake.rest, owed, []⟩

/-- Read the attachment that a marker announces behind a stored header. The size that is
reported for an attachment that does not fit is capped at the largest count. -/
def announced (inbound : Inbound) (header : Bytes) (marker : Marker) (capacity : Nat) :
    Reception :=
  let room := capacity - header.length
  if marker.length ≤ room then
    let intake := inbound.take marker.length
    ⟨intake.outcome.map fun _ =>
        .complete (header.length + marker.length) (some header.length),
      header ++ intake.taken, intake.rest, 0, []⟩
  else
    let intake := inbound.take room
    let total := min (header.length + marker.length) (Marker.countLimit - 1)
    let outcome := intake.outcome.map fun _ => .attachmentPending total header.length
    if intake.outcome.isOk then
      ⟨outcome, header ++ intake.taken, intake.rest, marker.length - room,
        event "attachment exceeds buffer"
          [("announced", .number marker.length), ("remaining", .number (marker.length - room))]⟩
    else ⟨outcome, header ++ intake.taken, intake.rest, 0, []⟩

/-- Go on after a stored header: a marker at its end is cut off and its attachment read. -/
def afterHeader (inbound : Inbound) (header : Bytes) (capacity : Nat) : Reception :=
  match Marker.scan header with
  | .absent => ⟨.ok (.complete header.length none), header, inbound, 0, []⟩
  | .fault => ⟨.fault, header, inbound, 0, []⟩
  | .found marker => announced inbound (marker.cut header) marker capacity

/-- Read the next message. -/
def newMessage (inbound : Inbound) (capacity : Nat) : Reception :=
  let line := inbound.takeHeader capacity
  match line.outcome with
  | .ok true => afterHeader line.rest (Header.stored line.taken) capacity
  | .ok false => ⟨.ok .bufferTooSmall, line.taken, line.rest, 0, []⟩
  | .failed error => ⟨.failed error, line.taken, line.rest, 0, []⟩
  | .fault => ⟨.fault, line.taken, line.rest, 0, []⟩
  | .waiting => ⟨.waiting, line.taken, line.rest, 0, []⟩

/-- Receive into a buffer of a given capacity. An empty buffer receives nothing. -/
def receive (inbound : Inbound) (pending capacity : Nat) : Reception :=
  if capacity = 0 then ⟨.ok .bufferTooSmall, [], inbound, pending, []⟩
  else if pending = 0 then newMessage inbound capacity
  else drain inbound pending capacity

end Reception

/-- Store bytes at the front of a buffer. -/
def overlay (stored buffer : Bytes) : Bytes := stored ++ buffer.drop stored.length

namespace Link

/-- How the end of a receive is reported. Nothing is reported of one that does not end. -/
def conclusion (tracing : Tracing) (outcome : Outcome Receipt) : Journal :=
  let recorded (word : String) : Journal :=
    .noted (.recorded .receive [("result", .text word)]) :: tracing.timing .receive
  match outcome with
  | .ok receipt => recorded receipt.word
  | .failed _ => recorded "err"
  | .fault | .waiting => []

/-- Receive into a buffer of a given capacity. The state left holds the bytes stored at the
front of the buffer. -/
def receiveFront (link : Link) (capacity : Nat) : Run (Link × Bytes) Receipt :=
  let tracing := link.settings.tracing
  let reception := Reception.receive link.transport.inbound link.pending capacity
  let after := { link with
    transport := { link.transport with inbound := reception.inbound }
    pending := reception.pending }
  ⟨reception.outcome, (after, reception.stored),
    tracing.opening .receive [("buffer.capacity", .number capacity),
      ("attachment.pending", .number link.pending)] ++ reception.journal ++
      conclusion tracing reception.outcome⟩

/-- Receive into a buffer. -/
def receive (link : Link) (buffer : Bytes) : Run (Link × Bytes) Receipt :=
  let received := link.receiveFront buffer.length
  { received with state := (received.state.1, overlay received.state.2 buffer) }

end Link

end AgentLink
