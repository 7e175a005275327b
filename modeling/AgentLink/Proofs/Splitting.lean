import AgentLink.Proofs.Reception

/-!
# The grouping of reads

Two streams with one script bring the same bytes and the same ends and failures, but they may
group the bytes differently and interrupt any number of reads. `observations_script` says that a
receiver cannot tell them apart: whatever sequence of receives is made, also after receives that
failed, each one ends alike, leaves the same buffer and the same count of bytes owed, and takes
the same number of bytes off the stream.
-/
namespace AgentLink

/-- Streams that differ at most in how their reads are grouped. -/
structure Inbound.Alike (first second : Inbound) : Prop where
  /-- Single-byte reads find the same in both. -/
  script : first.script = second.script
  /-- Every read of the first gets a byte. -/
  flows : first.Flows
  /-- Every read of the second gets a byte. -/
  flows' : second.Flows

/-- Readings of which neither the result nor what is left tells one from the other. -/
structure Intake.Alike {α : Type} (first second : Intake α) : Prop where
  /-- They end in the same way. -/
  outcome : first.outcome = second.outcome
  /-- They take the same bytes. -/
  taken : first.taken = second.taken
  /-- They leave streams that are alike. -/
  rest : first.rest.Alike second.rest

/-- Receives of which neither the result nor what is left tells one from the other. -/
structure Reception.Alike (first second : Reception) : Prop where
  /-- They end in the same way. -/
  outcome : first.outcome = second.outcome
  /-- They store the same bytes. -/
  stored : first.stored = second.stored
  /-- They leave streams that are alike. -/
  inbound : first.inbound.Alike second.inbound
  /-- They leave the same number of bytes owed. -/
  pending : first.pending = second.pending

namespace Inbound.Alike

variable {first second : Inbound}

/-- Reading a number of bytes does not see how reads are grouped. -/
theorem take (alike : first.Alike second) (room : Nat) :
    (first.take room).Alike (second.take room) := by
  obtain ⟨left, leftFlows⟩ := reading_take alike.flows room
  obtain ⟨right, rightFlows⟩ := reading_take alike.flows' room
  have same : (first.take room).reading = (second.take room).reading := by
    rw [left, right, alike.script]
  obtain ⟨outcome, taken, script⟩ := Reading.mk.inj same
  exact ⟨outcome, taken, script, leftFlows, rightFlows⟩

/-- Reading a header does not see how reads are grouped. -/
theorem takeHeader (alike : first.Alike second) (room : Nat) :
    (first.takeHeader room).Alike (second.takeHeader room) := by
  obtain ⟨left, leftFlows⟩ := reading_takeHeader alike.flows room
  obtain ⟨right, rightFlows⟩ := reading_takeHeader alike.flows' room
  have same : (first.takeHeader room).reading = (second.takeHeader room).reading := by
    rw [left, right, alike.script]
  obtain ⟨outcome, taken, script⟩ := Reading.mk.inj same
  exact ⟨outcome, taken, script, leftFlows, rightFlows⟩

/-- Going on with an attachment does not see how reads are grouped. -/
theorem drain (alike : first.Alike second) (owed capacity : Nat) :
    (Reception.drain first owed capacity).Alike (Reception.drain second owed capacity) := by
  by_cases fits : owed ≤ capacity
  · have intake := alike.take owed
    simp only [Reception.drain, if_pos fits, intake.outcome]
    exact ⟨rfl, intake.taken, intake.rest, rfl⟩
  · have intake := alike.take capacity
    simp only [Reception.drain, if_neg fits, intake.outcome]
    cases (second.take capacity).outcome <;> exact ⟨rfl, intake.taken, intake.rest, rfl⟩

/-- Reading an announced attachment does not see how reads are grouped. -/
theorem announced (alike : first.Alike second) (header : Bytes) (marker : Marker)
    (capacity : Nat) :
    (Reception.announced first header marker capacity).Alike
      (Reception.announced second header marker capacity) := by
  by_cases fits : marker.length ≤ capacity - header.length
  · have intake := alike.take marker.length
    simp only [Reception.announced, if_pos fits, intake.outcome, intake.taken]
    exact ⟨rfl, rfl, intake.rest, rfl⟩
  · have intake := alike.take (capacity - header.length)
    simp only [Reception.announced, if_neg fits, intake.outcome, intake.taken]
    cases (second.take (capacity - header.length)).outcome <;>
      exact ⟨rfl, rfl, intake.rest, rfl⟩

/-- What follows a header does not see how reads are grouped. -/
theorem afterHeader (alike : first.Alike second) (header : Bytes) (capacity : Nat) :
    (Reception.afterHeader first header capacity).Alike
      (Reception.afterHeader second header capacity) := by
  unfold Reception.afterHeader
  cases Marker.scan header with
  | absent => exact ⟨rfl, rfl, alike, rfl⟩
  | fault => exact ⟨rfl, rfl, alike, rfl⟩
  | found marker => exact alike.announced (marker.cut header) marker capacity

/-- Reading a message does not see how reads are grouped. -/
theorem newMessage (alike : first.Alike second) (capacity : Nat) :
    (Reception.newMessage first capacity).Alike (Reception.newMessage second capacity) := by
  have line := alike.takeHeader capacity
  unfold Reception.newMessage
  simp only [line.outcome, line.taken]
  cases (second.takeHeader capacity).outcome with
  | ok ended =>
    cases ended with
    | true => exact line.rest.afterHeader _ capacity
    | false => exact ⟨rfl, rfl, line.rest, rfl⟩
  | failed error => exact ⟨rfl, rfl, line.rest, rfl⟩
  | fault => exact ⟨rfl, rfl, line.rest, rfl⟩
  | waiting => exact ⟨rfl, rfl, line.rest, rfl⟩

/-- A receive does not see how reads are grouped. -/
theorem receive (alike : first.Alike second) (pending capacity : Nat) :
    (Reception.receive first pending capacity).Alike
      (Reception.receive second pending capacity) := by
  unfold Reception.receive
  by_cases empty : capacity = 0
  · rw [if_pos empty, if_pos empty]
    exact ⟨rfl, rfl, alike, rfl⟩
  · rw [if_neg empty, if_neg empty]
    by_cases idle : pending = 0
    · rw [if_pos idle, if_pos idle]
      exact alike.newMessage capacity
    · rw [if_neg idle, if_neg idle]
      exact alike.drain pending capacity

end Inbound.Alike

/-- Whether an event is a byte. -/
def Event.isByte : Event → Bool
  | byte _ => true
  | halt _ => false

/-- A script tells how many bytes of its stream have not been read. -/
theorem Inbound.unread_script (inbound : Inbound) :
    inbound.unread = inbound.script.events.countP Event.isByte := by
  rw [Inbound.unread, Inbound.bytes, Inbound.script]
  induction inbound.arrivals with
  | nil => rfl
  | cons arrival rest ih =>
    rw [List.flatMap_cons, List.length_append, ih, List.flatMap_cons, List.countP_append]
    congr 1
    cases arrival with
    | data bytes chunk =>
      have all : ∀ event ∈ bytes.map Event.byte, event.isByte = true := by
        simp [Event.isByte]
      rw [Arrival.events, List.countP_eq_length.mpr all, List.length_map, Arrival.bytes]
    | finish => rfl
    | stall => rfl
    | failure error => by_cases interrupted : error.isInterruption <;>
        simp [Arrival.events, Arrival.bytes, Event.isByte, interrupted]

/-- What a caller can tell of one receive. -/
structure Observation where
  /-- How it ended. -/
  outcome : Outcome Receipt
  /-- The buffer afterwards. -/
  buffer : Bytes
  /-- Attachment bytes owed afterwards. -/
  pending : Nat
  /-- How many bytes of the stream it took. -/
  consumed : Nat
deriving Repr, DecidableEq

namespace Link

/-- Receive into a buffer, and look at what came of it. -/
def observe (link : Link) (buffer : Bytes) : Observation :=
  let received := link.receive buffer
  let after := received.state.1
  ⟨received.outcome, received.state.2, after.pending,
    link.transport.inbound.unread - after.transport.inbound.unread⟩

/-- Receive into one buffer after another, whether or not a receive fails, and look at what
came of each. -/
def observations (link : Link) : List Bytes → List Observation
  | [] => []
  | buffer :: buffers =>
    link.observe buffer :: observations (link.receive buffer).state.1 buffers

variable {first second : Link}

/-- One receive shows nothing of how reads are grouped, and leaves the rest alike. -/
theorem observe_alike (alike : first.transport.inbound.Alike second.transport.inbound)
    (pending : first.pending = second.pending) (buffer : Bytes) :
    first.observe buffer = second.observe buffer ∧
      (first.receive buffer).state.1.transport.inbound.Alike
        (second.receive buffer).state.1.transport.inbound ∧
      (first.receive buffer).state.1.pending = (second.receive buffer).state.1.pending := by
  have reception := alike.receive first.pending buffer.length
  rw [pending] at reception
  have outcome : (first.receive buffer).outcome = (second.receive buffer).outcome := by
    simpa only [receive, receiveFront, pending] using reception.outcome
  have stored : (first.receive buffer).state.2 = (second.receive buffer).state.2 := by
    simp only [receive, receiveFront, pending, reception.stored]
  have inbound : (first.receive buffer).state.1.transport.inbound.Alike
      (second.receive buffer).state.1.transport.inbound := by
    simpa only [receive, receiveFront, pending] using reception.inbound
  have owed : (first.receive buffer).state.1.pending =
      (second.receive buffer).state.1.pending := by
    simpa only [receive, receiveFront, pending] using reception.pending
  refine ⟨?_, inbound, owed⟩
  simp only [observe, outcome, stored, owed, Inbound.unread_script, alike.script,
    inbound.script]

/-- No sequence of receives shows how the reads of a stream are grouped. -/
theorem observations_alike (alike : first.transport.inbound.Alike second.transport.inbound)
    (pending : first.pending = second.pending) (buffers : List Bytes) :
    first.observations buffers = second.observations buffers := by
  induction buffers generalizing first second with
  | nil => rfl
  | cons buffer buffers ih =>
    obtain ⟨same, inbound, owed⟩ := observe_alike alike pending buffer
    rw [observations, observations, same, ih inbound owed]

/-- Links whose streams have one script, and that are owed the same count of bytes, show the same
to every sequence of receives. -/
theorem observations_script (script : first.transport.inbound.script =
      second.transport.inbound.script)
    (flows : first.transport.inbound.Flows) (flows' : second.transport.inbound.Flows)
    (pending : first.pending = second.pending) (buffers : List Bytes) :
    first.observations buffers = second.observations buffers :=
  observations_alike ⟨script, flows, flows'⟩ pending buffers

/-- A stream that comes whole and one that comes in pieces show the same to four receives: an
attachment is begun, a failure in its middle ends the next receive, and two more follow. -/
theorem observations_script_failure :
    let whole := ofArrivals [.data [97, 32, 97, 116, 116, 97, 99, 104, 32, 53, 10, 1, 2, 3] none,
      .failure (.numbered 104), .data [4, 5, 98, 0] none]
    let pieces := ofArrivals [.data [97, 32, 97, 116] (some 1), .failure (.numbered 4),
      .data [116, 97, 99, 104, 32, 53, 10, 1] (some 3), .data [] none, .data [2, 3] none,
      .failure (.plain .interrupted), .failure (.numbered 104), .data [4, 5, 98] (some 2),
      .data [0] (some 1)]
    let buffers := [List.replicate 12 238, [238, 238, 238], [238, 238], [238, 238, 238]]
    whole.transport.inbound.script = pieces.transport.inbound.script ∧
      whole.transport.inbound.Flows ∧ pieces.transport.inbound.Flows ∧
      whole.pending = pieces.pending ∧
      whole.observations buffers = pieces.observations buffers := by
  intro whole pieces buffers
  have script : whole.transport.inbound.script = pieces.transport.inbound.script := by decide
  have flows : whole.transport.inbound.Flows := by decide
  have flows' : pieces.transport.inbound.Flows := by decide
  exact ⟨script, flows, flows', rfl, observations_script script flows flows' rfl buffers⟩

end Link

end AgentLink
