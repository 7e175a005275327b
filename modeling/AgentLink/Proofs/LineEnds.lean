import AgentLink.Proofs.Directions
import AgentLink.Proofs.ReceiveEffect
import AgentLink.Proofs.Splitting

/-!
# The ends of headers

A header is a line of text or a text with a NUL behind it, and a receiver cannot tell which it was.
What a receive comes to depends on a header only as it is stored (`observe_line`), and what it
leaves looks the same to every later receive (`Indistinct.observations`). A line that ends in a
carriage return and a newline is stored as if a space and a NUL had come in their place, and one
that ends in a newline alone as if it had been a NUL (`observations_lineEnd`).
-/
namespace AgentLink

namespace Header

/-- A carriage return and a newline are stored as a space and a NUL. -/
theorem stored_returned (text : Bytes) :
    stored (text ++ [Byte.carriageReturn, Byte.newline]) = text ++ [Byte.space, Byte.nul] := by
  simp [stored, dropReturn]

/-- A newline is stored as a NUL, where no carriage return stands in front of it. -/
theorem stored_newline {text : Bytes} (unreturned : text.getLast? ≠ some Byte.carriageReturn) :
    stored (text ++ [Byte.newline]) = text ++ [Byte.nul] := by
  rcases List.eq_nil_or_concat text with rfl | ⟨front, last, rfl⟩
  · rfl
  · have other : last ≠ Byte.carriageReturn := by simpa using unreturned
    simp [stored, dropReturn, other]

/-- Plain bytes and a byte that ends a header are a line. -/
theorem isLine_concat {front : Bytes} {last : UInt8}
    (plain : ∀ byte ∈ front, isTerminator byte = false) (ends : isTerminator last = true) :
    IsLine (front ++ [last]) :=
  ⟨front, last, rfl, plain, ends⟩

/-- Plain bytes, one more and a byte that ends a header are a line. -/
theorem isLine_pair {front : Bytes} {before last : UInt8}
    (plain : ∀ byte ∈ front, isTerminator byte = false) (unended : isTerminator before = false)
    (ends : isTerminator last = true) : IsLine (front ++ [before, last]) := by
  have extended : ∀ byte ∈ front ++ [before], isTerminator byte = false := by
    simpa [or_imp, forall_and] using And.intro plain unended
  rw [List.append_cons]
  exact isLine_concat extended ends

end Header

/-- The byte that a read finds. -/
def Event.byte? : Event → Option UInt8
  | .byte value => some value
  | .halt _ => none

/-- The bytes of a stream are those of its script. -/
theorem Inbound.bytes_script (inbound : Inbound) :
    inbound.bytes = inbound.script.events.filterMap Event.byte? := by
  rw [Inbound.bytes, Inbound.script]
  induction inbound.arrivals with
  | nil => rfl
  | cons arrival rest ih =>
    rw [List.flatMap_cons, List.flatMap_cons, List.filterMap_append, ih]
    congr 1
    cases arrival with
    | data bytes chunk =>
      have found : Event.byte? ∘ Event.byte = some := rfl
      rw [Arrival.bytes, Arrival.events, List.filterMap_map, found, List.filterMap_some]
    | finish => rfl
    | stall => rfl
    | failure error => by_cases interrupted : error.isInterruption <;>
        simp [Arrival.bytes, Arrival.events, Event.byte?, interrupted]

/-- Streams that a receive cannot tell apart: they are the same, or differ at most in how their
reads are grouped. -/
def Inbound.Matches (first second : Inbound) : Prop := first = second ∨ first.Alike second

/-- Streams that a receive cannot tell apart bring the same bytes. -/
theorem Inbound.Matches.bytes {first second : Inbound} (same : first.Matches second) :
    first.bytes = second.bytes := by
  rcases same with rfl | alike
  · rfl
  · rw [bytes_script, bytes_script, alike.script]

/-- As many bytes of the one have not been read as of the other. -/
theorem Inbound.Matches.unread {first second : Inbound} (same : first.Matches second) :
    first.unread = second.unread :=
  congrArg List.length same.bytes

/-- What follows a stored header is read alike off streams that a receive cannot tell apart. -/
theorem Inbound.Matches.afterHeader {first second : Inbound} (same : first.Matches second)
    (header : Bytes) (capacity : Nat) :
    let here := Reception.afterHeader first header capacity
    let there := Reception.afterHeader second header capacity
    here.outcome = there.outcome ∧ here.stored = there.stored ∧
      here.inbound.Matches there.inbound ∧ here.pending = there.pending := by
  rcases same with rfl | alike
  · exact ⟨rfl, rfl, .inl rfl, rfl⟩
  · have read := alike.afterHeader header capacity
    exact ⟨read.outcome, read.stored, .inr read.inbound, read.pending⟩

namespace Link

/-- Links that a receive cannot tell apart. -/
structure Indistinct (first second : Link) : Prop where
  /-- A receive cannot tell their streams apart. -/
  inbound : first.transport.inbound.Matches second.transport.inbound
  /-- Both are owed the same. -/
  pending : first.pending = second.pending

variable {first second : Link}

/-- One receive shows the same of links that it cannot tell apart, and leaves them so. -/
theorem Indistinct.observe (same : first.Indistinct second) (buffer : Bytes) :
    first.observe buffer = second.observe buffer ∧
      (first.receive buffer).state.1.Indistinct (second.receive buffer).state.1 := by
  rcases same.inbound with equal | alike
  · obtain ⟨shows, left⟩ := Receives.receive ⟨equal, same.pending⟩ buffer
    exact ⟨shows, .inl left.inbound, left.pending⟩
  · obtain ⟨shows, inbound, pending⟩ := observe_alike alike same.pending buffer
    exact ⟨shows, .inr inbound, pending⟩

/-- No sequence of receives shows a difference between links that one receive cannot tell apart. -/
theorem Indistinct.observations (same : first.Indistinct second) (buffers : List Bytes) :
    first.observations buffers = second.observations buffers ∧
      (first.receiveAll buffers).Indistinct (second.receiveAll buffers) := by
  induction buffers generalizing first second with
  | nil => exact ⟨rfl, same⟩
  | cons buffer buffers ih =>
    obtain ⟨shows, left⟩ := same.observe buffer
    obtain ⟨later, after⟩ := ih left
    exact ⟨List.cons_eq_cons.mpr ⟨shows, later⟩, after⟩

/-- A receive shows the same of headers that are stored alike, where what follows them is the
same, and leaves links that no later receive can tell apart. -/
theorem observe_line {line line' buffer : Bytes} {rest rest' : Inbound} (idle : first.pending = 0)
    (idle' : second.pending = 0) (opens : first.transport.inbound.Opens buffer.length line rest)
    (opens' : second.transport.inbound.Opens buffer.length line' rest')
    (stored : Header.stored line = Header.stored line') (same : rest.Matches rest') :
    first.observe buffer = second.observe buffer ∧
      (first.receive buffer).state.1.Indistinct (second.receive buffer).state.1 := by
  have here : first.reception buffer.length =
      Reception.afterHeader rest (Header.stored line) buffer.length := by
    rw [reception, idle, Reception.receive_opens opens]
  have there : second.reception buffer.length =
      Reception.afterHeader rest' (Header.stored line) buffer.length := by
    rw [reception, idle', Reception.receive_opens opens', stored]
  have unread : first.transport.inbound.unread = second.transport.inbound.unread := by
    have length := congrArg List.length stored
    rw [Header.length_stored, Header.length_stored] at length
    rw [Inbound.unread, Inbound.unread, ← opens.arrives.bytes, ← opens'.arrives.bytes,
      List.length_append, List.length_append, length, same.bytes]
  obtain ⟨outcome, front, inbound, pending⟩ :=
    same.afterHeader (Header.stored line) buffer.length
  rw [← here, ← there] at outcome front inbound pending
  refine ⟨?_, inbound, pending⟩
  simp only [observe, outcome_receive, buffer_receive, pending_receive, inbound_receive, outcome,
    front, pending, unread, inbound.unread]

/-- Two links show the same to some receives and have the same bytes still to come after them. -/
def ShowsAs (first second : Link) (buffers : List Bytes) : Prop :=
  first.observations buffers = second.observations buffers ∧
    (first.receiveAll buffers).transport.inbound.bytes =
      (second.receiveAll buffers).transport.inbound.bytes

/-- Headers that are stored alike show the same to the receive that reads them and to all later
ones. -/
theorem showsAs_line {line line' buffer : Bytes} {rest rest' : Inbound} (idle : first.pending = 0)
    (idle' : second.pending = 0) (opens : first.transport.inbound.Opens buffer.length line rest)
    (opens' : second.transport.inbound.Opens buffer.length line' rest')
    (stored : Header.stored line = Header.stored line') (same : rest.Matches rest')
    (later : List Bytes) : first.ShowsAs second (buffer :: later) := by
  obtain ⟨shows, left⟩ := observe_line idle idle' opens opens' stored same
  obtain ⟨others, after⟩ := left.observations later
  exact ⟨List.cons_eq_cons.mpr ⟨shows, others⟩, after.inbound.bytes⟩

/-- A text that ends in a carriage return and a newline is received as if a space and a NUL stood in
their place, and one that ends in a newline alone as if it were a NUL, where no carriage return
stands in front of that. The receive that reads it, which has room for it, and every later one end
alike, with the same bytes in the buffer, the same bytes pending and the same bytes still to
come. -/
theorem observations_lineEnd {text : Bytes} {rest rest' : Inbound}
    (plain : ∀ byte ∈ text, Header.isTerminator byte = false) (idle : first.pending = 0)
    (idle' : second.pending = 0) (same : rest.Matches rest') (buffer : Bytes)
    (later : List Bytes) :
    let arrives (link : Link) (ends : Bytes) (rest : Inbound) : Prop :=
      link.transport.inbound.Arrives (text ++ ends) rest
    (text.length + 2 ≤ buffer.length → arrives first [Byte.carriageReturn, Byte.newline] rest →
        arrives second [Byte.space, Byte.nul] rest' → first.ShowsAs second (buffer :: later)) ∧
      (text.getLast? ≠ some Byte.carriageReturn → text.length + 1 ≤ buffer.length →
        arrives first [Byte.newline] rest → arrives second [Byte.nul] rest' →
        first.ShowsAs second (buffer :: later)) := by
  intro arrives
  constructor
  · intro room here there
    refine showsAs_line idle idle'
      ⟨here, Header.isLine_pair plain (by decide) (by decide), by simpa using room⟩
      ⟨there, Header.isLine_pair plain (by decide) (by decide), by simpa using room⟩ ?_ same later
    rw [Header.stored_returned, List.append_cons, Header.stored_nul, ← List.append_cons]
  · intro unreturned room here there
    refine showsAs_line idle idle'
      ⟨here, Header.isLine_concat plain (by decide), by simpa using room⟩
      ⟨there, Header.isLine_concat plain (by decide), by simpa using room⟩ ?_ same later
    rw [Header.stored_newline unreturned, Header.stored_nul]

/-- A header that announces three bytes shows the same to two receives however it ends, with room
for one of these bytes in the first buffer, and so does what follows it. -/
theorem observations_lineEnd_attached :
    let text := [97, 32, 97, 116, 116, 97, 99, 104, 32, 51]
    let link (ends : Bytes) : Link :=
      ofArrivals [.data (text ++ ends ++ [13, 10, 0, 112, 105, 110, 103, 10]) (some 2)]
    let buffer := List.replicate 13 238
    let later := [List.replicate 4 238, List.replicate 8 238]
    (∀ byte ∈ text, Header.isTerminator byte = false) ∧
      text.getLast? ≠ some Byte.carriageReturn ∧ text.length + 2 ≤ buffer.length ∧
      (link [13, 10]).ShowsAs (link [32, 0]) (buffer :: later) ∧
      (link [10]).ShowsAs (link [0]) (buffer :: later) := by
  intro text link buffer later
  have plain : ∀ byte ∈ text, Header.isTerminator byte = false := by
    simp [text, Header.isTerminator, Byte.nul, Byte.newline]
  have unreturned : text.getLast? ≠ some Byte.carriageReturn := by decide
  let rest : Inbound := ⟨[.data [13, 10, 0, 112, 105, 110, 103, 10] (some 2)], true⟩
  have same : rest.Matches rest := .inl rfl
  have arrives : ∀ ends, (link ends).transport.inbound.Arrives (text ++ ends) rest :=
    fun ends => Inbound.arrives_data (by decide) (text ++ ends) _
  have idle : ∀ ends, (link ends).pending = 0 := fun _ => rfl
  refine ⟨plain, unreturned, by decide, ?_, ?_⟩
  · have shown := observations_lineEnd plain (idle [13, 10]) (idle [32, 0]) same buffer later
    exact shown.1 (by decide) (arrives _) (arrives _)
  · have shown := observations_lineEnd plain (idle [10]) (idle [0]) same buffer later
    exact shown.2 unreturned (by decide) (arrives _) (arrives _)

end Link

end AgentLink
