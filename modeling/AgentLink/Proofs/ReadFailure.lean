import AgentLink.Proofs.Consumption

/-!
# Receives that may fail

A receive reads its attachment by one read of many bytes, and ends as that read ends: what it
stores and what it leaves pending are settled by how far the read came (`drain_take`,
`announced_take`). What it fails with is what a read fails with: the end of the stream, or an
error of the transport that is more than an interruption (`ofReading_receive`).
-/
namespace AgentLink

namespace Outcome

variable {α β : Type} {outcome : Outcome α}

/-- A value that was put in the place of another is the value there is. -/
theorem eq_of_map {value result : β} (mapped : (outcome.map fun _ => value) = .ok result) :
    result = value := by
  cases outcome with
  | ok replaced => exact (Outcome.ok.inj mapped).symm
  | failed error => contradiction
  | fault => contradiction
  | waiting => contradiction

/-- A failure stays what it is when the value of a success is changed. -/
@[simp] theorem map_eq_failed {change : α → β} {error : LinkError} :
    outcome.map change = .failed error ↔ outcome = .failed error := by
  cases outcome <;> simp [map]

/-- Changing the value of a success makes no fault. -/
@[simp] theorem map_eq_fault {change : α → β} : outcome.map change = .fault ↔ outcome = .fault := by
  cases outcome <;> simp [map]

end Outcome

/-- The failures that reading ends in. -/
inductive LinkError.OfReading : LinkError → Prop where
  /-- The agent ended the stream. -/
  | peerClosed : OfReading .peerClosed
  /-- A read failed and was not merely interrupted. -/
  | transport {error : SystemError} (hard : error.isInterruption = false) :
    OfReading (.transport error)

namespace Inbound

/-- Reading that does not succeed takes fewer bytes than were asked for. -/
theorem length_take_lt {inbound : Inbound} {room : Nat}
    (ended : (inbound.take room).outcome.isOk = false) :
    (inbound.take room).taken.length < room := by
  fun_induction take inbound room with
  | case1 inbound => contradiction
  | case2 inbound room some rest step => exact Nat.pos_of_ne_zero some
  | case3 inbound room some byte bytes rest step more ih =>
    have fits := (bytes_of_read step).2
    rw [ReadReply.taken, List.length_cons] at fits
    have later : more.taken.length < room - (bytes.length + 1) := ih ended
    rw [List.length_append, List.length_cons]
    omega
  | case4 inbound room some error rest step interrupted ih => exact ih ended
  | case5 inbound room some error rest step uninterrupted => exact Nat.pos_of_ne_zero some
  | case6 inbound room some rest step => exact Nat.pos_of_ne_zero some

/-- Reading a number of bytes never meets a fault, and fails as reads do. -/
theorem ofReading_take (inbound : Inbound) (room : Nat) :
    (inbound.take room).outcome ≠ .fault ∧
      ∀ error, (inbound.take room).outcome = .failed error → error.OfReading := by
  fun_induction take inbound room with
  | case1 inbound => simp
  | case2 inbound room some rest step =>
    refine ⟨by simp, fun error failed => ?_⟩
    obtain rfl := Outcome.failed.inj failed
    exact .peerClosed
  | case3 inbound room some byte bytes rest step more ih => exact ih
  | case4 inbound room some error rest step interrupted ih => exact ih
  | case5 inbound room some cause rest step uninterrupted =>
    refine ⟨by simp, fun error failed => ?_⟩
    obtain rfl := Outcome.failed.inj failed
    exact .transport (by simpa using uninterrupted)
  | case6 inbound room some rest step => simp

/-- Reading a header never meets a fault, and fails as reads do. -/
theorem ofReading_takeHeader (inbound : Inbound) (room : Nat) :
    (inbound.takeHeader room).outcome ≠ .fault ∧
      ∀ error, (inbound.takeHeader room).outcome = .failed error → error.OfReading := by
  fun_induction takeHeader inbound room with
  | case1 inbound => simp
  | case2 inbound room first value succeeded terminates => simp
  | case3 inbound room first value succeeded continues more ih => exact ih
  | case4 inbound room first error failed =>
    refine ⟨by simp, fun other same => ?_⟩
    obtain rfl := Outcome.failed.inj same
    exact (inbound.ofReading_take 1).2 _ failed
  | case5 inbound room first faulted => exact absurd faulted (inbound.ofReading_take 1).1
  | case6 inbound room first waits => simp

end Inbound

namespace Reception

/-- How a receive is reported that went on with an attachment of which so many bytes were owed. -/
def continuation (owed capacity : Nat) : Receipt :=
  if owed ≤ capacity then .complete owed (some 0) else .attachmentPending owed 0

/-- Going on with an attachment reads what is owed, or what the buffer holds, whichever is less.
Where the rest fits, nothing is pending once it is begun; where it does not, the count goes down
only when the buffer is full. -/
theorem drain_take (inbound : Inbound) (owed capacity : Nat) :
    let reception := drain inbound owed capacity
    let intake := inbound.take (min owed capacity)
    reception.outcome = intake.outcome.map (fun _ => continuation owed capacity) ∧
      reception.stored = intake.taken ∧ reception.inbound = intake.rest ∧
      reception.pending =
        if owed ≤ capacity then 0 else if intake.outcome.isOk then owed - capacity else owed := by
  by_cases fits : owed ≤ capacity
  · simp [drain, continuation, fits]
  · simp only [drain, continuation, if_neg fits, Nat.min_eq_right (Nat.le_of_not_le fits)]
    cases (inbound.take capacity).outcome <;> exact ⟨rfl, rfl, rfl, rfl⟩

/-- An announced attachment is read up to its end or to that of the buffer. Something is pending
only when the buffer is full. -/
theorem announced_take (inbound : Inbound) (header : Bytes) (marker : Marker) (capacity : Nat) :
    let reception := announced inbound header marker capacity
    let intake := inbound.take (min marker.length (capacity - header.length))
    reception.outcome = intake.outcome.map
        (fun _ => (Marker.Scan.found marker).receipt header.length capacity) ∧
      reception.stored = header ++ intake.taken ∧ reception.inbound = intake.rest ∧
      reception.pending =
        if intake.outcome.isOk then marker.length - (capacity - header.length) else 0 := by
  by_cases fits : marker.length ≤ capacity - header.length
  · simp [announced, Marker.Scan.receipt, fits, Nat.sub_eq_zero_of_le fits]
  · simp only [announced, Marker.Scan.receipt, if_neg fits,
      Nat.min_eq_right (Nat.le_of_not_le fits)]
    cases (inbound.take (capacity - header.length)).outcome <;> exact ⟨rfl, rfl, rfl, rfl⟩

/-- A receive fails as reads do. -/
theorem ofReading_receive {inbound : Inbound} {pending capacity : Nat} {error : LinkError}
    (failed : (receive inbound pending capacity).outcome = .failed error) : error.OfReading := by
  unfold receive at failed
  split at failed
  · contradiction
  · split at failed
    · have header := (inbound.ofReading_takeHeader capacity).2
      cases intake : inbound.takeHeader capacity with
      | mk outcome line rest =>
        rw [intake] at header
        simp only [newMessage, intake] at failed
        cases outcome with
        | ok whole =>
          cases whole with
          | false => contradiction
          | true =>
            simp only [afterHeader] at failed
            split at failed
            · contradiction
            · contradiction
            · rename_i marker found
              obtain ⟨outcome, -⟩ :=
                announced_take rest (marker.cut (Header.stored line)) marker capacity
              rw [outcome, Outcome.map_eq_failed] at failed
              exact (rest.ofReading_take _).2 error failed
        | failed cause =>
          obtain rfl := Outcome.failed.inj (show Outcome.failed cause = .failed error from failed)
          exact header cause rfl
        | fault => contradiction
        | waiting => contradiction
    · obtain ⟨outcome, -⟩ := drain_take inbound pending capacity
      rw [outcome, Outcome.map_eq_failed] at failed
      exact (inbound.ofReading_take _).2 error failed

/-- Whatever becomes of a receive, it stores no more than the buffer holds. -/
theorem length_stored_le (inbound : Inbound) (pending capacity : Nat) :
    (receive inbound pending capacity).stored.length ≤ capacity := by
  unfold receive
  split
  · exact Nat.zero_le _
  · split
    · have line := inbound.length_takeHeader_le capacity
      simp only [newMessage]
      split
      · unfold afterHeader
        have length := Header.length_stored (inbound.takeHeader capacity).taken
        split
        · exact length ▸ line
        · exact length ▸ line
        · rename_i marker found
          obtain ⟨-, stored, -, -⟩ := announced_take (inbound.takeHeader capacity).rest
            (marker.cut (Header.stored (inbound.takeHeader capacity).taken)) marker capacity
          have attached := (inbound.takeHeader capacity).rest.length_take_le
            (min marker.length (capacity - (inbound.takeHeader capacity).taken.length))
          rw [Marker.length_cut, length] at stored
          rw [stored, List.length_append, Marker.length_cut, length]
          omega
      all_goals exact line
    · obtain ⟨-, stored, -, -⟩ := drain_take inbound pending capacity
      rw [stored]
      exact Nat.le_trans (inbound.length_take_le _) (Nat.min_le_right _ _)

end Reception

/-- A receive leaves a buffer as long as it was. -/
theorem Link.length_receive (link : Link) (buffer : Bytes) :
    (link.receive buffer).state.2.length = buffer.length := by
  rw [buffer_receive]
  exact length_overlay (Reception.length_stored_le _ _ _)

end AgentLink
