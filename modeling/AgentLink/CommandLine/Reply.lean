import AgentLink.Link.Receive
import AgentLink.Text

/-!
# Replies

The reply to a command is one message. Its header has to fit the buffer; its attachment need not,
and is collected over as many receives as it takes. What is printed of a reply is its header, as
text, and the size of its attachment.
-/
namespace AgentLink

/-- A message that was received whole. -/
structure Reply where
  /-- The stored header, with its terminator. -/
  header : Bytes
  /-- The attachment. -/
  attachment : Option Bytes
deriving Repr, DecidableEq

namespace Reply

/-- A receive that continues an attachment, and leaves some of it owed, leaves less of it owed. -/
theorem pending_lt_of_receive {inbound : Inbound} {pending capacity total offset : Nat}
    (owed : pending ≠ 0)
    (unfinished : (Reception.receive inbound pending capacity).outcome =
      .ok (.attachmentPending total offset)) :
    (Reception.receive inbound pending capacity).pending < pending := by
  unfold Reception.receive at *
  by_cases empty : capacity = 0
  · simp [empty] at unfinished
  · rw [if_neg empty, if_neg owed] at *
    unfold Reception.drain at *
    by_cases fits : pending ≤ capacity
    · rw [if_pos fits]
      exact Nat.pos_of_ne_zero owed
    · rw [if_neg fits] at *
      cases read : (inbound.take capacity).outcome <;>
        simp [read, Outcome.map, Outcome.isOk] at unfinished ⊢
      omega

/-- The failure of a reply whose header does not fit the buffer. -/
def headerTooLong : LinkError := .invalidArgument .replyHeader

/-- Receive the rest of an attachment, after the bytes collected so far. -/
def receiveRest (link : Link) (capacity : Nat) (collected : Bytes) : Run Link Bytes :=
  if link.pending = 0 then ⟨.ok collected, link, []⟩
  else
    let received := link.receiveFront capacity
    let (after, stored) := received.state
    match _unfinished : received.outcome with
    | .ok (.attachmentPending _ _) =>
      (receiveRest received.state.1 capacity (collected ++ stored)).prepend received.journal
    | .ok (.complete _ _) => ⟨.ok (collected ++ stored), after, received.journal⟩
    | .ok .bufferTooSmall => ⟨.failed headerTooLong, after, received.journal⟩
    | .failed error => ⟨.failed error, after, received.journal⟩
    | .fault => ⟨.fault, after, received.journal⟩
    | .waiting => ⟨.waiting, after, received.journal⟩
termination_by link.pending
decreasing_by exact pending_lt_of_receive ‹_› _unfinished

/-- Receive a whole message through a buffer of a given capacity. -/
def receive (link : Link) (capacity : Nat) : Run Link Reply :=
  (link.receiveFront capacity).andThen (·.1) fun receipt (after, stored) =>
    match receipt with
    | .complete _ none => ⟨.ok ⟨stored, none⟩, after, []⟩
    | .complete _ (some offset) => ⟨.ok ⟨stored.take offset, some (stored.drop offset)⟩, after, []⟩
    | .attachmentPending _ offset =>
      (receiveRest after capacity (stored.drop offset)).andThen id fun attachment last =>
        ⟨.ok ⟨stored.take offset, some attachment⟩, last, []⟩
    | .bufferTooSmall => ⟨.failed headerTooLong, after, []⟩

/-- The text of the header, up to its first NUL. -/
def title (reply : Reply) : String := Text.lossy (reply.header.takeWhile (· != Byte.nul))

/-- The lines that are printed of a reply. -/
def lines (reply : Reply) : List String :=
  reply.title ::
    match reply.attachment with
    | some attachment => ["attachment: " ++ toString attachment.length ++ " bytes"]
    | none => []

end Reply

end AgentLink
