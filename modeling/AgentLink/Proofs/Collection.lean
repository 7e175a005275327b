import AgentLink.CommandLine.Reply
import AgentLink.Proofs.Diagnostics
import AgentLink.Proofs.ReadFailure

/-!
# Replies collected in one buffer

A reply is collected through the buffer that its header was received into. As long as receives
leave bytes owed, the whole buffer is put aside and received into again, over the header, which is
put back in the end. `Link.collect` does this with the bytes of the buffer, and comes to what
receiving a reply through a buffer as large comes to (`receive_eq_collect`).
-/
namespace AgentLink

/-- What was collected in one buffer over several receives. -/
structure Collection (α : Type) where
  /-- How each receive ended. -/
  receives : List (Outcome Receipt)
  /-- How collecting ended. -/
  outcome : Outcome α
  /-- The buffer afterwards. -/
  buffer : Bytes
  /-- The link afterwards. -/
  link : Link
  /-- What was done, in order. -/
  journal : Journal

namespace Collection

variable {α : Type}

/-- What is collected by a receive that is the last. -/
def last (received : Run (Link × Bytes) Receipt) (outcome : Outcome α) : Collection α :=
  ⟨[received.outcome], outcome, received.state.2, received.state.1, received.journal⟩

/-- What is collected by a receive and others after it. -/
def following (received : Run (Link × Bytes) Receipt) (rest : Collection α) : Collection α :=
  { rest with
    receives := received.outcome :: rest.receives
    journal := received.journal ++ rest.journal }

end Collection

namespace Link

/-- Receive into one buffer until no bytes are owed, and put all it ever held behind the bytes
collected so far. -/
def collectRest (link : Link) (buffer collected : Bytes) : Collection Bytes :=
  if link.pending = 0 then ⟨[], .ok collected, buffer, link, []⟩
  else
    let received := link.receive buffer
    let filled := received.state.2
    match _unfinished : received.outcome with
    | .ok (.attachmentPending _ _) =>
      .following received (collectRest received.state.1 filled (collected ++ filled))
    | .ok (.complete length _) => .last received (.ok (collected ++ filled.take length))
    | .ok .bufferTooSmall => .last received (.failed Reply.headerTooLong)
    | .failed error => .last received (.failed error)
    | .fault => .last received .fault
    | .waiting => .last received .waiting
termination_by link.pending
decreasing_by exact Reply.pending_lt_of_receive ‹_› _unfinished

/-- Collect a reply in a buffer: where its header ends, and its attachment. The header is put back
when the attachment has been received. -/
def collect (link : Link) (buffer : Bytes) : Collection (Nat × Option Bytes) :=
  let received := link.receive buffer
  let filled := received.state.2
  match received.outcome with
  | .ok (.complete length none) => .last received (.ok (length, none))
  | .ok (.complete length (some offset)) =>
    .last received (.ok (offset, some ((filled.take length).drop offset)))
  | .ok (.attachmentPending _ offset) =>
    let rest := received.state.1.collectRest filled (filled.drop offset)
    .following received { rest with
      outcome := rest.outcome.map fun attachment => (offset, some attachment)
      buffer :=
        if rest.outcome.isOk then overlay (filled.take offset) rest.buffer else rest.buffer }
  | .ok .bufferTooSmall => .last received (.failed Reply.headerTooLong)
  | .failed error => .last received (.failed error)
  | .fault => .last received .fault
  | .waiting => .last received .waiting

end Link

/-- The reply that a collection came to, read off the buffer. -/
def Collection.reply (collection : Collection (Nat × Option Bytes)) : Run Link Reply :=
  ⟨collection.outcome.map fun found => ⟨collection.buffer.take found.1, found.2⟩,
    collection.link, collection.journal⟩

/-- How many bytes a receive stored that succeeded. -/
def Receipt.filled (capacity : Nat) : Receipt → Nat
  | .complete length _ => length
  | .attachmentPending _ _ | .bufferTooSmall => capacity

/-- A receive that read a header says that it stored the header and what there was room for of the
attachment behind it. -/
theorem Marker.Scan.filled_receipt (scan : Marker.Scan) {length capacity : Nat}
    (fits : length ≤ capacity) :
    (scan.receipt length capacity).filled capacity =
        length + min scan.announced (capacity - length) ∧
      (scan.receipt length capacity).header ≤ (scan.receipt length capacity).filled capacity := by
  cases scan with
  | absent => simp [receipt, Receipt.filled, Receipt.header, announced]
  | fault => simp [receipt, Receipt.filled, Receipt.header, announced]
  | found marker =>
    simp only [receipt, announced]
    split
    · simp only [Receipt.filled, Receipt.header, Option.getD_some]
      omega
    · simp only [Receipt.filled, Receipt.header]
      omega

/-- A receive stores as many bytes as it says, the header among them. -/
theorem Link.filled_receive {link : Link} {buffer : Bytes} {receipt : Receipt}
    (ended : (link.receive buffer).outcome = .ok receipt) (stores : receipt ≠ .bufferTooSmall) :
    (link.reception buffer.length).stored.length = receipt.filled buffer.length ∧
      receipt.header ≤ receipt.filled buffer.length := by
  rw [outcome_receive] at ended
  rcases Nat.eq_zero_or_pos buffer.length with empty | room
  · simp [reception, Reception.receive, empty] at ended
    exact absurd ended.symm stores
  · by_cases idle : link.pending = 0
    · obtain ⟨line, attached, opened⟩ := opened_reception idle room ended stores
      obtain rfl := Outcome.ok.inj (ended.symm.trans opened.outcome)
      obtain ⟨filled, header⟩ :=
        (Marker.scan (Header.stored line)).filled_receipt opened.fits
      refine ⟨?_, header⟩
      rw [filled, opened.stored, List.length_append, Marker.Scan.length_apply,
        Header.length_stored, opened.length]
    · have continued := continued_reception idle room (by rw [ended]; rfl)
      obtain rfl := Outcome.ok.inj (ended.symm.trans continued.outcome)
      rw [continued.length]
      split
      · rename_i fits
        exact ⟨Nat.min_eq_left fits, Nat.zero_le _⟩
      · rename_i exceeds
        exact ⟨Nat.min_eq_right (Nat.le_of_not_le exceeds), Nat.zero_le _⟩

/-- What a receive stored is the front of its buffer. -/
theorem Link.stored_receive {link : Link} {buffer : Bytes} {receipt : Receipt}
    (ended : (link.receive buffer).outcome = .ok receipt) (stores : receipt ≠ .bufferTooSmall) :
    (link.reception buffer.length).stored =
      (link.receive buffer).state.2.take (receipt.filled buffer.length) := by
  rw [buffer_receive, overlay, List.take_left' (filled_receive ended stores).1]

/-- A receive into a buffer is one through a buffer as large. -/
theorem Link.receiveFront_eq (link : Link) (buffer : Bytes) :
    link.receiveFront buffer.length = ⟨(link.receive buffer).outcome,
      ((link.receive buffer).state.1, (link.reception buffer.length).stored),
      (link.receive buffer).journal⟩ := rfl

namespace Link

variable {link : Link} {buffer collected : Bytes}

/-- Where nothing is owed, nothing is left to be collected. -/
theorem collectRest_idle (idle : link.pending = 0) :
    link.collectRest buffer collected = ⟨[], .ok collected, buffer, link, []⟩ := by
  rw [collectRest, if_pos idle]

/-- What is left to be collected begins with a receive. -/
theorem collectRest_owed (owed : link.pending ≠ 0) :
    link.collectRest buffer collected =
      let received := link.receive buffer
      let filled := received.state.2
      match received.outcome with
      | .ok (.attachmentPending _ _) =>
        .following received (collectRest received.state.1 filled (collected ++ filled))
      | .ok (.complete length _) => .last received (.ok (collected ++ filled.take length))
      | .ok .bufferTooSmall => .last received (.failed Reply.headerTooLong)
      | .failed error => .last received (.failed error)
      | .fault => .last received .fault
      | .waiting => .last received .waiting := by
  rw [collectRest, if_neg owed]
  dsimp only
  split <;> rename_i ended <;> simp only [ended]

/-- Collecting what is left of an attachment does nothing but report. -/
theorem quiet_collectRest (link : Link) (buffer collected : Bytes) :
    (link.collectRest buffer collected).journal.Quiet := by
  induction count : link.pending using Nat.strongRecOn generalizing link buffer collected with
  | ind owed ih =>
    by_cases idle : link.pending = 0
    · rw [collectRest_idle idle]
      exact Journal.quiet_nil
    · rw [collectRest_owed idle]
      dsimp only
      cases ended : (link.receive buffer).outcome with
      | failed error => exact link.quiet_receive buffer
      | fault => exact link.quiet_receive buffer
      | waiting => exact link.quiet_receive buffer
      | ok receipt =>
        cases receipt with
        | bufferTooSmall => exact link.quiet_receive buffer
        | complete length attachment => exact link.quiet_receive buffer
        | attachmentPending total attachment =>
          have fewer : (link.receive buffer).state.1.pending < owed :=
            count ▸ Reply.pending_lt_of_receive idle ended
          exact Journal.quiet_append.mpr ⟨link.quiet_receive buffer, ih _ fewer _ _ _ rfl⟩

/-- Collecting a reply does nothing but report. -/
theorem quiet_collect (link : Link) (buffer : Bytes) : (link.collect buffer).journal.Quiet := by
  unfold collect
  dsimp only
  split
  · exact link.quiet_receive buffer
  · exact link.quiet_receive buffer
  · exact Journal.quiet_append.mpr ⟨link.quiet_receive buffer, quiet_collectRest _ _ _⟩
  all_goals exact link.quiet_receive buffer

end Link

namespace Reply

variable {link : Link} {collected : Bytes}

/-- What is left of an attachment begins with a receive. -/
theorem receiveRest_owed (owed : link.pending ≠ 0) (capacity : Nat) :
    receiveRest link capacity collected =
      let received := link.receiveFront capacity
      let (after, stored) := received.state
      match received.outcome with
      | .ok (.attachmentPending _ _) =>
        (receiveRest after capacity (collected ++ stored)).prepend received.journal
      | .ok (.complete _ _) => ⟨.ok (collected ++ stored), after, received.journal⟩
      | .ok .bufferTooSmall => ⟨.failed headerTooLong, after, received.journal⟩
      | .failed error => ⟨.failed error, after, received.journal⟩
      | .fault => ⟨.fault, after, received.journal⟩
      | .waiting => ⟨.waiting, after, received.journal⟩ := by
  rw [receiveRest, if_neg owed]
  dsimp only
  split <;> rename_i ended <;> simp only [ended]

/-- The rest of an attachment is what is collected of it in a buffer as large. -/
theorem receiveRest_eq_collectRest (link : Link) (buffer collected : Bytes) :
    receiveRest link buffer.length collected =
      let collection := link.collectRest buffer collected
      ⟨collection.outcome, collection.link, collection.journal⟩ := by
  induction count : link.pending using Nat.strongRecOn generalizing link buffer collected with
  | ind owed ih =>
    by_cases idle : link.pending = 0
    · rw [receiveRest, if_pos idle, Link.collectRest_idle idle]
    · rw [receiveRest_owed idle, Link.collectRest_owed idle, Link.receiveFront_eq]
      dsimp only
      cases ended : (link.receive buffer).outcome with
      | failed error => rfl
      | fault => rfl
      | waiting => rfl
      | ok receipt =>
        cases receipt with
        | bufferTooSmall => rfl
        | complete length attachment =>
          dsimp only [Collection.last]
          rw [Link.stored_receive ended (by simp), Receipt.filled]
        | attachmentPending total attachment =>
          have full := (link.receive buffer).state.2.take_length
          rw [link.length_receive] at full
          have fewer : (link.receive buffer).state.1.pending < owed :=
            count ▸ pending_lt_of_receive idle ended
          have later := ih _ fewer (link.receive buffer).state.1 (link.receive buffer).state.2
            (collected ++ (link.receive buffer).state.2) rfl
          rw [link.length_receive] at later
          dsimp only [Collection.following]
          rw [Link.stored_receive ended (by simp), Receipt.filled, full, later]
          rfl

/-- Receiving a reply is collecting it in a buffer as large. -/
theorem receive_eq_collect (link : Link) (buffer : Bytes) :
    receive link buffer.length = (link.collect buffer).reply := by
  unfold receive Link.collect
  rw [Link.receiveFront_eq]
  dsimp only [Run.andThen]
  cases ended : (link.receive buffer).outcome with
  | failed error => rfl
  | fault => rfl
  | waiting => rfl
  | ok receipt =>
    cases receipt with
    | bufferTooSmall =>
      dsimp only [Collection.last, Collection.reply, Run.prepend]
      rw [List.append_nil]
      rfl
    | complete length attachment =>
      rw [Link.stored_receive ended (by simp), Receipt.filled]
      have header := (Link.filled_receive ended (by simp)).2
      cases attachment with
      | none =>
        dsimp only [Collection.last, Collection.reply, Run.prepend]
        rw [List.append_nil]
        rfl
      | some offset =>
        rw [Receipt.header, Receipt.filled, Option.getD_some] at header
        dsimp only [Collection.last, Collection.reply, Run.prepend, Outcome.map]
        rw [List.append_nil, List.take_take, Nat.min_eq_left header]
    | attachmentPending total offset =>
      have full := (link.receive buffer).state.2.take_length
      rw [link.length_receive] at full
      rw [Link.stored_receive ended (by simp), Receipt.filled, full]
      have header := (Link.filled_receive ended (by simp)).2
      rw [Receipt.header, Receipt.filled] at header
      dsimp only
      have rest := receiveRest_eq_collectRest (link.receive buffer).state.1
        (link.receive buffer).state.2 ((link.receive buffer).state.2.drop offset)
      rw [link.length_receive] at rest
      rw [rest]
      dsimp only [Run.prepend, Collection.reply, Collection.following]
      cases (Link.collectRest (link.receive buffer).state.1 (link.receive buffer).state.2
        ((link.receive buffer).state.2.drop offset)).outcome with
      | ok attachment =>
        have kept : ((link.receive buffer).state.2.take offset).length = offset := by
          rw [List.length_take, link.length_receive, Nat.min_eq_left header]
        dsimp only [Outcome.map]
        rw [Outcome.isOk, if_pos rfl, overlay, List.take_left' kept, List.append_nil]
      | failed error => rfl
      | fault => rfl
      | waiting => rfl

end Reply

end AgentLink
