import AgentLink.Header
import AgentLink.LinkError
import AgentLink.Marker

/-!
# Messages

A message is a header and, perhaps, an attachment. On the wire the header is ended by a NUL, and
a marker between header and NUL announces the attachment, whose bytes follow. A header is
refused when the receiver would not read it back as it was meant.
-/
namespace AgentLink

/-- A header with the attachment sent along with it. -/
structure Message where
  /-- The header, without terminator. -/
  header : Bytes
  /-- The attachment; an empty attachment is not the absence of one. -/
  attachment : Option Bytes
deriving Repr, DecidableEq

namespace Message

/-- The marker of an attachment, with the space in front of the word. -/
def marker (attachment : Bytes) : Bytes :=
  Byte.space :: Marker.keyword ++ Byte.space :: Decimal.digits attachment.length

/-- The header as it is sent, with its marker and its terminator. -/
def wireHeader (message : Message) : Bytes :=
  match message.attachment with
  | none => message.header ++ [Byte.nul]
  | some attachment => message.header ++ marker attachment ++ [Byte.nul]

/-- The bytes of a message as they are sent, whether or not it can be sent. -/
def wire (message : Message) : Bytes := message.wireHeader ++ message.attachment.getD []

/-- The bytes of a message, if it can be sent. The header is scanned as the receiver will scan
it: no marker may be found where none was written, and the one that was written has to be
found. -/
def encode (message : Message) : Outcome Bytes :=
  if message.header.any Header.isTerminator then .failed (.invalidArgument .headerTerminator)
  else
    match Marker.scan message.wireHeader, message.attachment with
    | .fault, _ => .fault
    | .absent, none => .ok message.wire
    | .found _, none => .failed (.invalidArgument .headerMarker)
    | .absent, some _ => .failed (.invalidArgument .headerTooShort)
    | .found found, some attachment =>
      if found = ⟨message.header.length, attachment.length⟩ then .ok message.wire
      else .failed (.invalidArgument .headerTooShort)

end Message

end AgentLink
