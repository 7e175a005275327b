import AgentLink.Proofs.Script

/-!
# Single receives

What one receive does to a stream of which the next bytes are known. Continuing an attachment and
reading an announced one come to the same three cases: the bytes that are wanted arrive and fit
the buffer, they fill it, or the stream ends, waits or fails before. A header is read up to and
with the byte that ends it.
-/
namespace AgentLink

/-- A read that gets no byte ends an operation in the same way whatever its value would be. -/
@[simp] theorem Halt.map_outcome {α β : Type} (halt : Halt) (change : α → β) :
    halt.outcome.map change = halt.outcome := by
  cases halt <;> rfl

/-- A read that gets no byte is no success. -/
@[simp] theorem Halt.isOk_outcome {α : Type} (halt : Halt) :
    (halt.outcome (α := α)).isOk = false := by
  cases halt <;> rfl

namespace Inbound.Brings

variable {inbound : Inbound} {later : Script}

/-- The rest of an attachment that fits the buffer is received. -/
theorem drain_whole {bytes back : Bytes} {capacity : Nat}
    (brings : inbound.Brings (bytes ++ back) later) (fits : bytes.length ≤ capacity) :
    ∃ rest, Reception.drain inbound bytes.length capacity =
        ⟨.ok (.complete bytes.length (some 0)), bytes, rest, 0, []⟩ ∧
      rest.Brings back later := by
  obtain ⟨rest, taken, left⟩ := brings.take
  refine ⟨rest, ?_, left⟩
  simp only [Reception.drain, if_pos fits, taken, Outcome.map]

/-- Of the rest of an attachment that does not fit, a bufferful is received. -/
theorem drain_part {bytes : Bytes} {owed capacity : Nat} (brings : inbound.Brings bytes later)
    (fills : capacity ≤ bytes.length) (exceeds : capacity < owed) :
    ∃ rest, Reception.drain inbound owed capacity =
        ⟨.ok (.attachmentPending owed 0), bytes.take capacity, rest, owed - capacity,
          Reception.event "attachment still pending"
            [("remaining", .number (owed - capacity))]⟩ ∧
      rest.Brings (bytes.drop capacity) later := by
  obtain ⟨rest, taken, left⟩ := brings.take_front fills
  refine ⟨rest, ?_, left⟩
  simp only [Reception.drain, if_neg (Nat.not_le_of_lt exceeds), taken, Outcome.map,
    Outcome.isOk, if_true]

/-- A receive that wants more of an attachment than arrives ends as the stream does. -/
theorem drain_halt {bytes : Bytes} {halt : Halt} {owed capacity : Nat}
    (brings : inbound.Brings bytes later) (halts : later.head = .halt halt)
    (short : bytes.length < owed) (room : bytes.length < capacity) :
    (Reception.drain inbound owed capacity).outcome = halt.outcome := by
  by_cases fits : owed ≤ capacity
  · obtain ⟨rest, taken⟩ := brings.take_halt halts short
    simp only [Reception.drain, if_pos fits, taken, Halt.map_outcome]
  · obtain ⟨rest, taken⟩ := brings.take_halt halts room
    simp [Reception.drain, if_neg fits, taken]

/-- An announced attachment that fits the buffer is received with its header. -/
theorem announced_whole {bytes back header : Bytes} {marker : Marker} {capacity : Nat}
    (brings : inbound.Brings (bytes ++ back) later) (counted : marker.length = bytes.length)
    (fits : bytes.length ≤ capacity - header.length) :
    ∃ rest, Reception.announced inbound header marker capacity =
        ⟨.ok (.complete (header.length + bytes.length) (some header.length)), header ++ bytes,
          rest, 0, []⟩ ∧
      rest.Brings back later := by
  obtain ⟨rest, taken, left⟩ := brings.take
  refine ⟨rest, ?_, left⟩
  simp only [Reception.announced, counted, if_pos fits, taken, Outcome.map]

/-- Of an announced attachment that does not fit, as much is received as there is room for. -/
theorem announced_part {bytes header : Bytes} {marker : Marker} {capacity : Nat}
    (brings : inbound.Brings bytes later) (fills : capacity - header.length ≤ bytes.length)
    (exceeds : capacity - header.length < marker.length) :
    ∃ rest, Reception.announced inbound header marker capacity =
        ⟨.ok (.attachmentPending
            (min (header.length + marker.length) (Marker.countLimit - 1)) header.length),
          header ++ bytes.take (capacity - header.length), rest,
          marker.length - (capacity - header.length),
          Reception.event "attachment exceeds buffer" [("announced", .number marker.length),
            ("remaining", .number (marker.length - (capacity - header.length)))]⟩ ∧
      rest.Brings (bytes.drop (capacity - header.length)) later := by
  obtain ⟨rest, taken, left⟩ := brings.take_front fills
  refine ⟨rest, ?_, left⟩
  simp only [Reception.announced, if_neg (Nat.not_le_of_lt exceeds), taken, Outcome.map,
    Outcome.isOk, if_true]

/-- A receive that wants more of an announced attachment than arrives ends as the stream does. -/
theorem announced_halt {bytes header : Bytes} {halt : Halt} {marker : Marker} {capacity : Nat}
    (brings : inbound.Brings bytes later) (halts : later.head = .halt halt)
    (short : bytes.length < marker.length) (room : bytes.length < capacity - header.length) :
    (Reception.announced inbound header marker capacity).outcome = halt.outcome := by
  by_cases fits : marker.length ≤ capacity - header.length
  · obtain ⟨rest, taken⟩ := brings.take_halt halts short
    simp only [Reception.announced, if_pos fits, taken, Halt.map_outcome]
  · obtain ⟨rest, taken⟩ := brings.take_halt halts room
    simp [Reception.announced, if_neg fits, taken]

/-- A header that fits the buffer is read and stored. -/
theorem newMessage_line {line back : Bytes} {last : UInt8} {capacity : Nat}
    (brings : inbound.Brings (line ++ last :: back) later)
    (plain : ∀ byte ∈ line, Header.isTerminator byte = false)
    (terminates : Header.isTerminator last = true) (fits : line.length < capacity) :
    ∃ rest, Reception.newMessage inbound capacity =
        Reception.afterHeader rest (Header.stored (line ++ [last])) capacity ∧
      rest.Brings back later := by
  obtain ⟨rest, taken, left⟩ := brings.takeHeader plain terminates fits
  exact ⟨rest, by simp only [Reception.newMessage, taken], left⟩

/-- A header that does not arrive whole is not received. -/
theorem newMessage_halt {bytes : Bytes} {halt : Halt} {capacity : Nat}
    (brings : inbound.Brings bytes later) (halts : later.head = .halt halt)
    (plain : ∀ byte ∈ bytes, Header.isTerminator byte = false) (room : bytes.length < capacity) :
    (Reception.newMessage inbound capacity).outcome = halt.outcome := by
  obtain ⟨rest, taken⟩ := brings.takeHeader_halt halts plain room
  cases halt <;> simp [Reception.newMessage, taken, Halt.outcome]

end Inbound.Brings

namespace Link

/-- What a receive on a link does, apart from the buffer and the span. -/
def reception (link : Link) (capacity : Nat) : Reception :=
  Reception.receive link.transport.inbound link.pending capacity

variable (link : Link) (buffer : Bytes)

/-- A receive ends as its reception does. -/
@[simp] theorem outcome_receive :
    (link.receive buffer).outcome = (link.reception buffer.length).outcome := rfl

/-- A receive stores the bytes of its reception at the front of the buffer. -/
@[simp] theorem buffer_receive : (link.receive buffer).state.2 =
    overlay (link.reception buffer.length).stored buffer := rfl

/-- A receive leaves as many bytes owed as its reception does. -/
@[simp] theorem pending_receive : (link.receive buffer).state.1.pending =
    (link.reception buffer.length).pending := rfl

/-- A receive leaves of the stream what its reception does. -/
@[simp] theorem inbound_receive : (link.receive buffer).state.1.transport.inbound =
    (link.reception buffer.length).inbound := rfl

variable {link}

/-- A link that is owed nothing reads a message. -/
theorem reception_idle {capacity : Nat} (idle : link.pending = 0) (room : 0 < capacity) :
    link.reception capacity = Reception.newMessage link.transport.inbound capacity := by
  rw [reception, Reception.receive, if_neg (Nat.ne_of_gt room), if_pos idle]

/-- A link that is owed bytes continues the attachment. -/
theorem reception_owed {capacity : Nat} (owed : link.pending ≠ 0) (room : 0 < capacity) :
    link.reception capacity = Reception.drain link.transport.inbound link.pending capacity := by
  rw [reception, Reception.receive, if_neg (Nat.ne_of_gt room), if_neg owed]

end Link

/-- A fresh link to an agent whose stream ends after some arrivals. -/
def Link.ofArrivals (arrivals : List Arrival) : Link where
  transport := { inbound := ⟨arrivals, true⟩ }

/-- Bytes that fill a buffer are all there is in it. -/
theorem overlay_full {stored buffer : Bytes} (full : buffer.length ≤ stored.length) :
    overlay stored buffer = stored := by
  rw [overlay, List.drop_eq_nil_of_le full, List.append_nil]

/-- Bytes stored in a buffer leave it as long as it was. -/
theorem length_overlay {stored buffer : Bytes} (fits : stored.length ≤ buffer.length) :
    (overlay stored buffer).length = buffer.length := by
  rw [overlay, List.length_append, List.length_drop]
  omega

end AgentLink
