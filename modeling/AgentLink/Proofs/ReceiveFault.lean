import Mathlib
import AgentLink.Proofs.IndexedReceive
import AgentLink.Proofs.MarkerFault
import AgentLink.Proofs.ReadFailure

/-!
# Where a receive faults

What an agent sends makes a receive fault in one way: by a header that is a headless marker, as
it is stored, and fits the buffer. `receive_fault_iff` says so, and that every operation on
positions is in range in all other cases: the receive by positions comes to what the receive
comes to. After the fault the header is behind, and nothing else.
-/
namespace AgentLink

/-- A space stands for a carriage return, and ends no header either. -/
theorem Header.plain_dropReturn {backwards : Bytes}
    (plain : ∀ byte ∈ backwards, isTerminator byte = false) :
    ∀ byte ∈ dropReturn backwards, isTerminator byte = false := by
  cases backwards with
  | nil => exact plain
  | cons last front =>
    intro byte member
    rw [dropReturn] at member
    split at member
    · rcases List.mem_cons.mp member with rfl | before
      · decide
      · exact plain byte (.tail _ before)
    · exact plain byte member

/-- A stored header is a text in which nothing ends it, and a NUL. -/
theorem Header.IsLine.stored {line : Bytes} (isLine : Header.IsLine line) :
    ∃ text, Header.stored line = text ++ [Byte.nul] ∧
      ∀ byte ∈ text, isTerminator byte = false := by
  obtain ⟨front, last, rfl, plain, ended⟩ := isLine
  rw [isTerminator, Bool.or_eq_true, beq_iff_eq, beq_iff_eq] at ended
  rcases ended with rfl | rfl
  · exact ⟨front, stored_nul front, plain⟩
  · refine ⟨(dropReturn front.reverse).reverse, by simp [Header.stored], ?_⟩
    intro byte member
    exact plain_dropReturn (fun other before => plain other (List.mem_reverse.mp before)) byte
      (List.mem_reverse.mp member)

/-- The scan of a stored header faults at a headless marker and its NUL, unless they are too
short to be scanned. -/
theorem Header.IsLine.scan_fault_iff {line : Bytes} (isLine : Header.IsLine line) :
    Marker.scan (Header.stored line) = .fault ↔
      9 ≤ line.length ∧ ∃ text, Marker.Headless text ∧ Header.stored line = text ++ [Byte.nul] := by
  obtain ⟨front, ended, -⟩ := isLine.stored
  rw [Marker.scan_fault_iff, Header.length_stored]
  refine and_congr_right fun _ => exists_congr fun text => and_congr_right fun headless => ?_
  refine or_iff_right fun same => ?_
  have last : Byte.nul ∈ text := by simp [← same, ended]
  exact headless.ne_nul last rfl

namespace Reception

/-- Going on with an attachment never faults. -/
theorem drain_ne_fault (inbound : Inbound) (owed capacity : Nat) :
    (drain inbound owed capacity).outcome ≠ .fault := by
  obtain ⟨outcome, -⟩ := drain_take inbound owed capacity
  rw [outcome, ne_eq, Outcome.map_eq_fault]
  exact (inbound.ofReading_take _).1

/-- Reading an announced attachment never faults. -/
theorem announced_ne_fault (inbound : Inbound) (header : Bytes) (marker : Marker)
    (capacity : Nat) : (announced inbound header marker capacity).outcome ≠ .fault := by
  obtain ⟨outcome, -⟩ := announced_take inbound header marker capacity
  rw [outcome, ne_eq, Outcome.map_eq_fault]
  exact (inbound.ofReading_take _).1

/-- Reading a message faults after a header whose scan faults, and leaves what is behind it. -/
theorem newMessage_fault {inbound : Inbound} {capacity : Nat}
    (fault : (newMessage inbound capacity).outcome = .fault) :
    ∃ line rest, inbound.takeHeader capacity = ⟨.ok true, line, rest⟩ ∧
      Marker.scan (Header.stored line) = .fault ∧
      newMessage inbound capacity = ⟨.fault, Header.stored line, rest, 0, []⟩ := by
  have read := (inbound.ofReading_takeHeader capacity).1
  cases intake : inbound.takeHeader capacity with
  | mk outcome line rest =>
    rw [intake] at read
    simp only [newMessage, intake] at fault ⊢
    cases outcome with
    | ok whole =>
      cases whole with
      | true =>
        simp only [afterHeader] at fault ⊢
        cases scan : Marker.scan (Header.stored line) with
        | absent => simp [scan] at fault
        | fault => exact ⟨line, rest, rfl, scan, rfl⟩
        | found marker =>
          rw [scan] at fault
          exact absurd fault (announced_ne_fault _ _ _ _)
      | false => simp at fault
    | failed error => simp at fault
    | fault => exact absurd rfl read
    | waiting => simp at fault

end Reception

namespace Link

/-- A receive that faults reads a header whose scan faults, and leaves what is behind it. -/
theorem reception_fault {link : Link} {capacity : Nat}
    (fault : (link.reception capacity).outcome = .fault) :
    link.pending = 0 ∧ ∃ line rest,
      link.transport.inbound.takeHeader capacity = ⟨.ok true, line, rest⟩ ∧
      Marker.scan (Header.stored line) = .fault ∧
      link.reception capacity = ⟨.fault, Header.stored line, rest, 0, []⟩ := by
  by_cases room : 0 < capacity
  · by_cases idle : link.pending = 0
    · rw [reception_idle idle room] at fault ⊢
      exact ⟨idle, Reception.newMessage_fault fault⟩
    · rw [reception_owed idle room] at fault
      exact absurd fault (Reception.drain_ne_fault _ _ _)
  · obtain rfl : capacity = 0 := Nat.eq_zero_of_not_pos room
    simp [reception, Reception.receive] at fault

/-- A receive faults exactly where no attachment bytes are pending and a header arrives that fits
the buffer and is, as it is stored, a headless marker with its NUL and no shorter than nine bytes.
The receive by positions, which checks every operation on them, comes to the same and leaves the
same memory, so that nothing else is out of range. A receive that faulted has taken the header
off the stream and no more, and nothing is pending. -/
theorem receive_fault_iff (link : Link) (buffer : Bytes) (word : buffer.length < Indexed.limit) :
    let inbound := link.transport.inbound
    let run := link.receive buffer
    let after := run.state.1
    (run.outcome = .fault ↔ link.pending = 0 ∧ ∃ line rest, inbound.Arrives line rest ∧
        Header.IsLine line ∧ line.length ≤ buffer.length ∧ 9 ≤ line.length ∧
        ∃ text, Marker.Headless text ∧ Header.stored line = text ++ [Byte.nul]) ∧
      Indexed.receive ⟨inbound, buffer, link.pending⟩ =
        (run.outcome, ⟨after.transport.inbound, run.state.2, after.pending⟩) ∧
      (run.outcome = .fault → after.pending = 0 ∧
        ∃ line, Header.IsLine line ∧ inbound.Arrives line after.transport.inbound ∧
          run.state.2 = overlay (Header.stored line) buffer) := by
  intro inbound run after
  refine ⟨⟨?_, ?_⟩, ?_, ?_⟩
  · intro fault
    obtain ⟨idle, line, rest, read, scan, -⟩ := reception_fault fault
    obtain ⟨isLine, fits, arrives⟩ := Inbound.takeHeader_ok_iff.mp read
    obtain ⟨least, headless⟩ := isLine.scan_fault_iff.mp scan
    exact ⟨idle, line, rest, arrives, isLine, fits, least, headless⟩
  · rintro ⟨idle, line, rest, arrives, isLine, fits, least, headless⟩
    have read : link.transport.inbound.takeHeader buffer.length = ⟨.ok true, line, rest⟩ :=
      Inbound.takeHeader_ok_iff.mpr ⟨isLine, fits, arrives⟩
    have scan := isLine.scan_fault_iff.mpr ⟨least, headless⟩
    have room : 0 < buffer.length := by omega
    have received : (link.reception buffer.length).outcome = .fault := by
      simp only [reception_idle idle room, Reception.newMessage, read, Reception.afterHeader, scan]
    exact received
  · rw [Indexed.receive_eq link.pending word]
    rfl
  · intro fault
    obtain ⟨-, line, rest, read, -, left⟩ := reception_fault fault
    obtain ⟨isLine, -, arrives⟩ := Inbound.takeHeader_ok_iff.mp read
    have inboundLeft : after.transport.inbound = rest :=
      (inbound_receive link buffer).trans (by rw [left])
    refine ⟨(pending_receive link buffer).trans (by rw [left]), line, isLine, ?_, ?_⟩
    · rw [inboundLeft]
      exact arrives
    · exact (buffer_receive link buffer).trans (by rw [left])

/-- Two blanks and a count, ended by a carriage return and a newline, are stored as nine bytes
and make a receive fault that has room for them. What the agent sent behind them is unread. -/
theorem receive_fault_iff_line :
    let line := [32, 32, 49, 50, 51, 52, 53, 13, 10]
    let link : Link := { transport := { inbound := ⟨[.data (line ++ [79, 75]) none], true⟩ } }
    let buffer := List.replicate 9 238
    buffer.length < Indexed.limit ∧ (link.receive buffer).outcome = .fault ∧
      (link.receive buffer).state.1.pending = 0 ∧
      (link.receive buffer).state.1.transport.inbound.bytes = [79, 75] := by
  intro line link buffer
  have word : buffer.length < Indexed.limit := by decide
  obtain ⟨fault, -, left⟩ := receive_fault_iff link buffer word
  have read : link.transport.inbound.takeHeader 9 =
      ⟨.ok true, line, ⟨[.data [79, 75] none], true⟩⟩ := by cbv
  obtain ⟨isLine, fits, arrives⟩ := Inbound.takeHeader_ok_iff.mp read
  have headless : Marker.Headless (32 :: 32 :: [49, 50, 51, 52, 53] ++ [32]) :=
    .intro (by decide) (by decide) (by decide) (by simp [Byte.isDigit]) (by simp [Byte.isBlank])
  have faulted : (link.receive buffer).outcome = .fault :=
    fault.mpr ⟨rfl, line, _, arrives, isLine, by decide, by decide, _, headless, by decide⟩
  refine ⟨word, faulted, (left faulted).1, ?_⟩
  cbv

end Link

end AgentLink
