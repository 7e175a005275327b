import AgentLink.Proofs.Reception

/-!
# What a receive takes off the stream

Reading puts no byte of a stream aside: what was taken and what is left are together what there
was, whatever arrives between the bytes and however reading ends. A receive that succeeds takes
one header and the bytes of its attachment that the buffer has room for (`Reception.Opened`), or
so many of the bytes that are owed (`Reception.Continued`).
-/
namespace AgentLink

/-- The bytes that a read got. -/
def ReadReply.taken : ReadReply → Bytes
  | .bytes got => got
  | .failure _ | .stalled => []

/-- Bytes up to and with the first that ends a header. -/
def Header.line : Bytes → Bytes
  | [] => []
  | byte :: bytes => if isTerminator byte then [byte] else byte :: line bytes

/-- The count of attachment bytes that a scan found announced. -/
def Marker.Scan.announced : Marker.Scan → Nat
  | .found marker => marker.length
  | .absent | .fault => 0

/-- The length of a header that was received, with its terminator. -/
def Receipt.header : Receipt → Nat
  | .complete length attachment => attachment.getD length
  | .attachmentPending _ attachment => attachment
  | .bufferTooSmall => 0

/-- Ending the header keeps the length of the buffer, whatever the scan found. -/
@[simp] theorem Marker.Scan.length_apply (scan : Marker.Scan) (buffer : Bytes) :
    (scan.apply buffer).length = buffer.length := by
  cases scan <;> simp [apply]

namespace Outcome

variable {α β : Type} {outcome : Outcome α}

/-- An outcome that is a success has a value. -/
theorem ok_of_isOk (succeeded : outcome.isOk = true) : ∃ value, outcome = .ok value := by
  cases outcome with
  | ok value => exact ⟨value, rfl⟩
  | failed error => contradiction
  | fault => contradiction
  | waiting => contradiction

/-- Changing the value of an outcome leaves it as successful as it is. -/
@[simp] theorem isOk_map (change : α → β) : (outcome.map change).isOk = outcome.isOk := by
  cases outcome <;> rfl

end Outcome

namespace Inbound

/-- A read takes bytes off the front, and no more than it asked for. -/
theorem readArrivals_bytes (ended : Bool) (room : Nat) (arrivals : List Arrival) :
    (readArrivals ended room arrivals).1.taken ++
        (readArrivals ended room arrivals).2.flatMap Arrival.bytes =
      arrivals.flatMap Arrival.bytes ∧
    (readArrivals ended room arrivals).1.taken.length ≤ room := by
  fun_induction readArrivals ended room arrivals with
  | case1 => cases ended <;> simp [ReadReply.taken]
  | case2 bytes chunk rest empty ih =>
    obtain rfl := List.isEmpty_iff.mp empty
    simpa [Arrival.bytes] using ih
  | case3 bytes chunk rest filled count =>
    refine ⟨?_, ?_⟩
    · simp [ReadReply.taken, Arrival.bytes, ← List.append_assoc]
    · have bounded : count ≤ room := Nat.min_le_right _ _
      rw [ReadReply.taken, List.length_take]
      omega
  | case4 => simp [ReadReply.taken, Arrival.bytes]
  | case5 => simp [ReadReply.taken, Arrival.bytes]
  | case6 => simp [ReadReply.taken, Arrival.bytes]

/-- A read takes bytes off the front, and no more than it asked for. -/
theorem bytes_of_read {inbound rest : Inbound} {room : Nat} {reply : ReadReply}
    (step : inbound.read room = (reply, rest)) :
    reply.taken ++ rest.bytes = inbound.bytes ∧ reply.taken.length ≤ room := by
  have front := readArrivals_bytes inbound.ended room inbound.arrivals
  obtain ⟨rfl, rfl⟩ := Prod.mk.inj step
  exact front

/-- What was taken and what is left are what there was. -/
theorem take_bytes (inbound : Inbound) (room : Nat) :
    (inbound.take room).taken ++ (inbound.take room).rest.bytes = inbound.bytes := by
  fun_induction take inbound room with
  | case1 inbound => rfl
  | case2 inbound room some rest step => exact (bytes_of_read step).1
  | case3 inbound room some byte bytes rest step more ih =>
    rw [List.append_assoc, ih]
    exact (bytes_of_read step).1
  | case4 inbound room some error rest step interrupted ih =>
    rw [ih]
    exact (bytes_of_read step).1
  | case5 inbound room some error rest step uninterrupted => exact (bytes_of_read step).1
  | case6 inbound room some rest step => exact (bytes_of_read step).1

/-- No more is taken than was asked for. -/
theorem length_take_le (inbound : Inbound) (room : Nat) :
    (inbound.take room).taken.length ≤ room := by
  fun_induction take inbound room with
  | case1 inbound => exact Nat.le_refl _
  | case2 inbound room some rest step => exact Nat.zero_le _
  | case3 inbound room some byte bytes rest step more ih =>
    have fits := (bytes_of_read step).2
    rw [ReadReply.taken, List.length_cons] at fits
    have later : more.taken.length ≤ room - (bytes.length + 1) := ih
    rw [List.length_append, List.length_cons]
    omega
  | case4 inbound room some error rest step interrupted ih => exact ih
  | case5 inbound room some error rest step uninterrupted => exact Nat.zero_le _
  | case6 inbound room some rest step => exact Nat.zero_le _

/-- Reading that succeeds takes as many bytes as were asked for. -/
theorem length_take {inbound : Inbound} {room : Nat}
    (succeeded : (inbound.take room).outcome.isOk = true) :
    (inbound.take room).taken.length = room := by
  fun_induction take inbound room with
  | case1 inbound => rfl
  | case2 inbound room some rest step => contradiction
  | case3 inbound room some byte bytes rest step more ih =>
    have fits := (bytes_of_read step).2
    rw [ReadReply.taken, List.length_cons] at fits
    have later := ih succeeded
    rw [List.length_append, List.length_cons, later]
    omega
  | case4 inbound room some error rest step interrupted ih => exact ih succeeded
  | case5 inbound room some error rest step uninterrupted => contradiction
  | case6 inbound room some rest step => contradiction

/-- Reading one byte takes the first. -/
theorem bytes_of_take_one {inbound : Inbound} {value : Unit}
    (succeeded : (inbound.take 1).outcome = .ok value) :
    ∃ byte, (inbound.take 1).taken = [byte] ∧
      inbound.bytes = byte :: (inbound.take 1).rest.bytes := by
  have one : (inbound.take 1).taken.length = 1 := length_take (by rw [succeeded]; rfl)
  obtain ⟨byte, taken⟩ := List.length_eq_one_iff.mp one
  have front := inbound.take_bytes 1
  rw [taken] at front
  exact ⟨byte, taken, front.symm⟩

/-- What was taken for a header and what is left are what there was. -/
theorem takeHeader_bytes (inbound : Inbound) (room : Nat) :
    (inbound.takeHeader room).taken ++ (inbound.takeHeader room).rest.bytes = inbound.bytes := by
  fun_induction takeHeader inbound room with
  | case1 inbound => rfl
  | case2 inbound room first value ended terminates => exact inbound.take_bytes 1
  | case3 inbound room first value ended continues more ih =>
    rw [List.append_assoc, ih]
    exact inbound.take_bytes 1
  | case4 inbound room first error ended => exact inbound.take_bytes 1
  | case5 inbound room first ended => exact inbound.take_bytes 1
  | case6 inbound room first ended => exact inbound.take_bytes 1

/-- No more is taken for a header than there is room for. -/
theorem length_takeHeader_le (inbound : Inbound) (room : Nat) :
    (inbound.takeHeader room).taken.length ≤ room := by
  fun_induction takeHeader inbound room with
  | case1 inbound => exact Nat.le_refl _
  | case2 inbound room first value succeeded terminates =>
    exact Nat.le_trans (inbound.length_take_le 1) (Nat.le_add_left _ _)
  | case3 inbound room first value succeeded continues more ih =>
    have one : first.taken.length ≤ 1 := inbound.length_take_le 1
    have later : more.taken.length ≤ room := ih
    rw [List.length_append]
    omega
  | case4 inbound room first error failed =>
    exact Nat.le_trans (inbound.length_take_le 1) (Nat.le_add_left _ _)
  | case5 inbound room first failed =>
    exact Nat.le_trans (inbound.length_take_le 1) (Nat.le_add_left _ _)
  | case6 inbound room first failed =>
    exact Nat.le_trans (inbound.length_take_le 1) (Nat.le_add_left _ _)

/-- A header that ended is the bytes up to and with the first that ends one. -/
theorem takeHeader_line {inbound : Inbound} {room : Nat}
    (ended : (inbound.takeHeader room).outcome = .ok true) :
    (inbound.takeHeader room).taken = Header.line inbound.bytes := by
  fun_induction takeHeader inbound room with
  | case1 inbound => simp at ended
  | case2 inbound room first value succeeded terminates =>
    obtain ⟨byte, taken, front⟩ := bytes_of_take_one succeeded
    rw [taken] at terminates
    rw [taken, front, Header.line, if_pos (by simpa using terminates)]
  | case3 inbound room first value succeeded continues more ih =>
    obtain ⟨byte, taken, front⟩ := bytes_of_take_one succeeded
    rw [taken] at continues
    rw [ih ended, taken, front, Header.line, if_neg (by simpa using continues)]
    rfl
  | case4 inbound room first error failed => contradiction
  | case5 inbound room first failed => contradiction
  | case6 inbound room first failed => contradiction

end Inbound

/-- A receive that went on with an attachment of which `owed` bytes were still to come: it stored
bytes as they stood in the stream, as many as were owed or the buffer held. -/
structure Reception.Continued (reception : Reception) (inbound : Inbound)
    (owed capacity : Nat) : Prop where
  /-- The stored bytes are those at the front of the stream. -/
  bytes : reception.stored ++ reception.inbound.bytes = inbound.bytes
  /-- There are as many as were owed, or as the buffer holds. -/
  length : reception.stored.length = min owed capacity
  /-- The others are owed still. -/
  pending : reception.pending = owed - capacity
  /-- The receive reports whether they were the last. -/
  outcome : reception.outcome = .ok
    (if owed ≤ capacity then .complete owed (some 0) else .attachmentPending owed 0)

/-- How a receive is reported that read a header of some length. -/
def Marker.Scan.receipt (scan : Marker.Scan) (length capacity : Nat) : Receipt :=
  match scan with
  | .found marker =>
    if marker.length ≤ capacity - length then .complete (length + marker.length) (some length)
    else .attachmentPending (min (length + marker.length) (Marker.countLimit - 1)) length
  | .absent | .fault => .complete length none

/-- The header that is reported is as long as it came. -/
theorem Marker.Scan.header_receipt (scan : Marker.Scan) (length capacity : Nat) :
    (scan.receipt length capacity).header = length := by
  cases scan with
  | absent => rfl
  | fault => rfl
  | found marker =>
    rw [receipt]
    split <;> rfl

/-- A receive that read a header and stored it, with as much of the announced attachment as the
buffer held. -/
structure Reception.Opened (reception : Reception) (inbound : Inbound) (capacity : Nat)
    (line attached : Bytes) : Prop where
  /-- The header goes up to the first byte that ends one. -/
  ends : line = Header.line inbound.bytes
  /-- The buffer holds the header. -/
  fits : line.length ≤ capacity
  /-- The header and a part of the attachment were at the front of the stream. -/
  bytes : line ++ (attached ++ reception.inbound.bytes) = inbound.bytes
  /-- They are stored one after the other, with the marker cut off. -/
  stored : reception.stored =
    (Marker.scan (Header.stored line)).apply (Header.stored line) ++ attached
  /-- As much of the attachment is stored as was announced, or as the buffer holds. -/
  length : attached.length =
    min (Marker.scan (Header.stored line)).announced (capacity - line.length)
  /-- The rest of the attachment is owed. -/
  pending : reception.pending =
    (Marker.scan (Header.stored line)).announced - (capacity - line.length)
  /-- The receive reports the header and what was announced. -/
  outcome : reception.outcome =
    .ok ((Marker.scan (Header.stored line)).receipt line.length capacity)

/-- The header is stored with its terminator, and as long as it came. -/
theorem Reception.Opened.header {reception : Reception} {inbound : Inbound} {capacity : Nat}
    {line attached : Bytes} (opened : reception.Opened inbound capacity line attached) :
    ∃ header, header.length = line.length ∧ reception.stored = header ++ attached :=
  ⟨_, by rw [Marker.Scan.length_apply, Header.length_stored], opened.stored⟩

namespace Reception

/-- Continuing an attachment takes the next of its bytes. -/
theorem continued_of_drain {inbound : Inbound} {owed capacity : Nat}
    (succeeded : (drain inbound owed capacity).outcome.isOk = true) :
    (drain inbound owed capacity).Continued inbound owed capacity := by
  by_cases fits : owed ≤ capacity
  · simp only [drain, if_pos fits, Outcome.isOk_map] at succeeded ⊢
    obtain ⟨value, ended⟩ := Outcome.ok_of_isOk succeeded
    refine ⟨inbound.take_bytes owed, ?_, (Nat.sub_eq_zero_of_le fits).symm, ?_⟩
    · rw [Nat.min_eq_left fits]
      exact Inbound.length_take succeeded
    · rw [ended, if_pos fits, Outcome.map]
  · by_cases full : (inbound.take capacity).outcome.isOk = true
    · simp only [drain, if_neg fits, full, if_true]
      obtain ⟨value, ended⟩ := Outcome.ok_of_isOk full
      refine ⟨inbound.take_bytes capacity, ?_, rfl, ?_⟩
      · rw [Nat.min_eq_right (Nat.le_of_not_le fits)]
        exact Inbound.length_take full
      · rw [ended, if_neg fits, Outcome.map]
    · simp [drain, if_neg fits, full] at succeeded

/-- Reading an announced attachment takes as many of its bytes as there is room for. -/
theorem announced_of_isOk {inbound : Inbound} {header : Bytes} {marker : Marker} {capacity : Nat}
    (succeeded : (announced inbound header marker capacity).outcome.isOk = true) :
    ∃ attached, attached ++ (announced inbound header marker capacity).inbound.bytes =
        inbound.bytes ∧
      (announced inbound header marker capacity).stored = header ++ attached ∧
      attached.length = min marker.length (capacity - header.length) ∧
      (announced inbound header marker capacity).pending =
        marker.length - (capacity - header.length) ∧
      (announced inbound header marker capacity).outcome =
        .ok ((Marker.Scan.found marker).receipt header.length capacity) := by
  by_cases fits : marker.length ≤ capacity - header.length
  · simp only [announced, if_pos fits, Outcome.isOk_map] at succeeded ⊢
    obtain ⟨value, ended⟩ := Outcome.ok_of_isOk succeeded
    refine ⟨_, inbound.take_bytes marker.length, rfl, ?_, (Nat.sub_eq_zero_of_le fits).symm, ?_⟩
    · rw [Nat.min_eq_left fits]
      exact Inbound.length_take succeeded
    · rw [ended, Outcome.map, Marker.Scan.receipt, if_pos fits]
  · by_cases full : (inbound.take (capacity - header.length)).outcome.isOk = true
    · simp only [announced, if_neg fits, full, if_true]
      obtain ⟨value, ended⟩ := Outcome.ok_of_isOk full
      refine ⟨_, inbound.take_bytes (capacity - header.length), rfl, ?_, trivial, ?_⟩
      · rw [Nat.min_eq_right (Nat.le_of_not_le fits)]
        exact Inbound.length_take full
      · rw [ended, Outcome.map, Marker.Scan.receipt, if_neg fits]
    · simp [announced, if_neg fits, full] at succeeded

/-- A header that was read is stored, with the front of the attachment it announces. -/
theorem opened_of_newMessage {inbound : Inbound} {capacity : Nat} {receipt : Receipt}
    (ended : (newMessage inbound capacity).outcome = .ok receipt)
    (stores : receipt ≠ .bufferTooSmall) :
    ∃ line attached, (newMessage inbound capacity).Opened inbound capacity line attached := by
  have bytes := inbound.takeHeader_bytes capacity
  have fits := inbound.length_takeHeader_le capacity
  have ends := @Inbound.takeHeader_line inbound capacity
  cases intake : inbound.takeHeader capacity with
  | mk outcome line rest =>
    rw [intake] at bytes fits ends
    simp only [newMessage, intake] at ended ⊢
    cases outcome with
    | failed error => contradiction
    | fault => contradiction
    | waiting => contradiction
    | ok whole =>
      cases whole with
      | false => exact absurd (Outcome.ok.inj ended).symm stores
      | true =>
        simp only [afterHeader] at ended ⊢
        cases scan : Marker.scan (Header.stored line) with
        | absent =>
          refine ⟨line, [], ends rfl, fits, bytes, ?_, ?_, ?_, ?_⟩
          · simp [scan, Marker.Scan.apply]
          · simp [scan, Marker.Scan.announced]
          · simp [scan, Marker.Scan.announced]
          · simp [scan, Marker.Scan.receipt]
        | fault =>
          rw [scan] at ended
          contradiction
        | found marker =>
          rw [scan] at ended
          obtain ⟨attached, left, stored, length, pending, outcome⟩ :=
            announced_of_isOk (by rw [ended]; rfl)
          rw [Marker.length_cut, Header.length_stored] at length pending outcome
          refine ⟨line, attached, ends rfl, fits, ?_, ?_, ?_, ?_, ?_⟩
          · rw [left]
            exact bytes
          · rw [scan]
            exact stored
          · rw [scan]
            exact length
          · rw [scan]
            exact pending
          · rw [scan]
            exact outcome

/-- Going on with an attachment leaves the back of the stream. -/
theorem drain_suffix (inbound : Inbound) (owed capacity : Nat) :
    (drain inbound owed capacity).inbound.bytes <:+ inbound.bytes := by
  unfold drain
  split
  · exact ⟨_, inbound.take_bytes owed⟩
  · dsimp only
    split
    · exact ⟨_, inbound.take_bytes capacity⟩
    · exact ⟨_, inbound.take_bytes capacity⟩

/-- Reading an announced attachment leaves the back of the stream. -/
theorem announced_suffix (inbound : Inbound) (header : Bytes) (marker : Marker)
    (capacity : Nat) : (announced inbound header marker capacity).inbound.bytes <:+
      inbound.bytes := by
  unfold announced
  dsimp only
  split
  · exact ⟨_, inbound.take_bytes marker.length⟩
  · split
    · exact ⟨_, inbound.take_bytes (capacity - header.length)⟩
    · exact ⟨_, inbound.take_bytes (capacity - header.length)⟩

/-- Reading a message leaves the back of the stream. -/
theorem newMessage_suffix (inbound : Inbound) (capacity : Nat) :
    (newMessage inbound capacity).inbound.bytes <:+ inbound.bytes := by
  have read : (inbound.takeHeader capacity).rest.bytes <:+ inbound.bytes :=
    ⟨_, inbound.takeHeader_bytes capacity⟩
  unfold newMessage
  dsimp only
  split
  · unfold afterHeader
    split
    · exact read
    · exact read
    · exact (announced_suffix _ _ _ capacity).trans read
  · exact read
  · exact read
  · exact read
  · exact read

/-- However a receive ends, it leaves the back of the stream. -/
theorem receive_suffix (inbound : Inbound) (pending capacity : Nat) :
    (receive inbound pending capacity).inbound.bytes <:+ inbound.bytes := by
  unfold receive
  split
  · exact List.suffix_refl _
  · split
    · exact newMessage_suffix inbound capacity
    · exact drain_suffix inbound pending capacity

end Reception

namespace Link

variable {link : Link} {capacity : Nat}

/-- A receive on a link that is owed bytes goes on with the attachment. -/
theorem continued_reception (owed : link.pending ≠ 0) (room : 0 < capacity)
    (succeeded : (link.reception capacity).outcome.isOk = true) :
    (link.reception capacity).Continued link.transport.inbound link.pending capacity := by
  rw [reception_owed owed room] at succeeded ⊢
  exact Reception.continued_of_drain succeeded

/-- A receive on a link that is owed nothing opens a message. -/
theorem opened_reception {receipt : Receipt} (idle : link.pending = 0) (room : 0 < capacity)
    (received : (link.reception capacity).outcome = .ok receipt)
    (stores : receipt ≠ .bufferTooSmall) :
    ∃ line attached,
      (link.reception capacity).Opened link.transport.inbound capacity line attached := by
  rw [reception_idle idle room] at received ⊢
  exact Reception.opened_of_newMessage received stores

end Link

end AgentLink
