import AgentLink.Link.Receive
import AgentLink.Proofs.JournalReaders

/-!
# Operations that only report

Receiving and closing act on nothing but their own link: all that their journals hold are
diagnostics (`quiet_receive`, `quiet_close`).
-/
namespace AgentLink

namespace Reception

/-- An event is a diagnostic. -/
@[simp] theorem quiet_event (message : String) (fields : Fields) :
    Journal.Quiet (event message fields) := by
  simp [event]

/-- Going on with an attachment does nothing but report. -/
theorem quiet_drain (inbound : Inbound) (owed capacity : Nat) :
    (drain inbound owed capacity).journal.Quiet := by
  simp only [drain]
  split
  · exact Journal.quiet_nil
  · split <;> simp

/-- Reading an announced attachment does nothing but report. -/
theorem quiet_announced (inbound : Inbound) (header : Bytes) (marker : Marker)
    (capacity : Nat) : (announced inbound header marker capacity).journal.Quiet := by
  simp only [announced]
  split
  · exact Journal.quiet_nil
  · split <;> simp

/-- Reading a message does nothing but report. -/
theorem quiet_newMessage (inbound : Inbound) (capacity : Nat) :
    (newMessage inbound capacity).journal.Quiet := by
  simp only [newMessage]
  split
  · unfold afterHeader
    split
    · exact Journal.quiet_nil
    · exact Journal.quiet_nil
    · exact quiet_announced _ _ _ _
  all_goals exact Journal.quiet_nil

/-- A reception does nothing but report, whatever it is owed. -/
theorem quiet_receive (inbound : Inbound) (pending capacity : Nat) :
    (receive inbound pending capacity).journal.Quiet := by
  unfold receive
  split
  · exact Journal.quiet_nil
  · split
    · exact quiet_newMessage _ _
    · exact quiet_drain _ _ _

end Reception

namespace Link

/-- A receive is concluded with diagnostics. -/
@[simp] theorem quiet_conclusion (tracing : Tracing) (outcome : Outcome Receipt) :
    (conclusion tracing outcome).Quiet := by
  cases outcome <;> simp [conclusion]

/-- A receive does nothing but report. -/
theorem quiet_receive (link : Link) (buffer : Bytes) : (link.receive buffer).journal.Quiet := by
  simp [receive, receiveFront, Reception.quiet_receive]

/-- Closing does nothing but report. -/
theorem quiet_close (link : Link) : link.close.journal.Quiet := by
  simp only [close, abandonment]
  split <;> simp

end Link

end AgentLink
