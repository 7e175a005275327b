import Mathlib
import AgentLink.CommandLine.Reply
import AgentLink.Proofs.Framing
import AgentLink.Proofs.Reception

/-!
# Reassembled messages

A caller makes messages of what receives leave in its buffers: the header is what stands in front
of the first NUL, the attachment begins at the reported offset and goes on in the buffers of the
receives that follow. The caller chooses every buffer anew.

`deliveries_encoded` is the round trip: messages that the encoder accepted, sent one after
another, are reassembled one after another, each with its attachment or without one, and the
receiver stops right behind the last of them. It does not matter how the stream is cut into
reads, nor which buffers the caller chooses, as long as every header fits the buffer it is
received into and no attachment is continued into an empty one.
-/
namespace AgentLink

/-- The buffers that a caller has for one message. -/
structure Buffers where
  /-- The buffer for the header. -/
  first : Bytes
  /-- The buffers for the rest of the attachment, in order. -/
  more : Nat → Bytes

/-- What receives made of something that takes several of them. -/
structure Delivery (α : Type) where
  /-- How each receive ended. -/
  outcomes : List (Outcome Receipt)
  /-- What was reassembled, if it came whole. -/
  value : Option α
  /-- The link afterwards. -/
  link : Link

/-- What a caller received over a link. -/
structure Session where
  /-- The messages in order; only the last need not have come whole. -/
  deliveries : List (Delivery Message)
  /-- The link afterwards. -/
  link : Link

/-- The attachment bytes that a receive left in a buffer. -/
def Receipt.chunk (buffer : Bytes) : Receipt → Option Bytes
  | complete length attachment => attachment.map (buffer.take length).drop
  | attachmentPending _ attachment => some (buffer.drop attachment)
  | bufferTooSmall => none

namespace Link

/-- Receive until no bytes of an attachment are owed. -/
def receiveRest (link : Link) (more : Nat → Bytes) : Delivery Bytes :=
  if link.pending = 0 then ⟨[], some [], link⟩
  else
    let received := link.receive (more 0)
    match _unfinished : received.outcome with
    | .ok (.attachmentPending total attachment) =>
      let rest := receiveRest received.state.1 fun index => more (index + 1)
      ⟨.ok (.attachmentPending total attachment) :: rest.outcomes,
        rest.value.map (received.state.2.drop attachment ++ ·), rest.link⟩
    | .ok receipt => ⟨[.ok receipt], receipt.chunk received.state.2, received.state.1⟩
    | outcome => ⟨[outcome], none, received.state.1⟩
termination_by link.pending
decreasing_by exact Reply.pending_lt_of_receive ‹_› _unfinished

/-- Receive one message. -/
def receiveMessage (link : Link) (buffers : Buffers) : Delivery Message :=
  let received := link.receive buffers.first
  let header := received.state.2.takeWhile (· != Byte.nul)
  match received.outcome with
  | .ok (.attachmentPending total attachment) =>
    let rest := received.state.1.receiveRest buffers.more
    ⟨.ok (.attachmentPending total attachment) :: rest.outcomes,
      rest.value.map fun more => ⟨header, some (received.state.2.drop attachment ++ more)⟩,
      rest.link⟩
  | .ok (.complete length attachment) =>
    ⟨[.ok (.complete length attachment)],
      some ⟨header, (Receipt.complete length attachment).chunk received.state.2⟩,
      received.state.1⟩
  | outcome => ⟨[outcome], none, received.state.1⟩

/-- Receive messages until one does not come whole or there are no more buffers. -/
def receiveMessages (link : Link) : List Buffers → Session
  | [] => ⟨[], link⟩
  | buffers :: more =>
    let delivery := link.receiveMessage buffers
    let later :=
      if delivery.value.isSome then receiveMessages delivery.link more else ⟨[], delivery.link⟩
    ⟨delivery :: later.deliveries, later.link⟩

end Link

/-- An attachment stored behind a header is read off the buffer. -/
theorem Receipt.chunk_overlay (header bytes buffer : Bytes) :
    (complete (header.length + bytes.length) (some header.length)).chunk
      (overlay (header ++ bytes) buffer) = some bytes := by
  rw [chunk, Option.map_some, overlay, ← List.length_append, List.take_left, List.drop_left]

/-- Whether a receive stored bytes of a message: it neither failed nor found its buffer too
small. -/
def Outcome.stores : Outcome Receipt → Bool
  | ok (.complete _ _) | ok (.attachmentPending _ _) => true
  | ok .bufferTooSmall | failed _ | fault | waiting => false

/-- A delivery came whole, and left a stream that brings what follows. -/
structure Delivery.Whole {α : Type} (delivery : Delivery α) (value : α) (tail : Bytes)
    (later : Script) : Prop where
  /-- The delivery has this value. -/
  value : delivery.value = some value
  /-- Every receive stored bytes. -/
  stores : ∀ outcome ∈ delivery.outcomes, outcome.stores = true
  /-- Nothing is owed in the end. -/
  idle : delivery.link.pending = 0
  /-- The stream that is left brings the rest. -/
  brings : delivery.link.transport.inbound.Brings tail later

namespace Link

variable {link : Link} {more : Nat → Bytes} {tail : Bytes} {later : Script}

/-- Where nothing is owed, no further receive is made. -/
theorem receiveRest_idle (idle : link.pending = 0) :
    link.receiveRest more = ⟨[], some [], link⟩ := by
  rw [receiveRest, if_pos idle]

/-- A receive that completes an attachment is the last. -/
theorem receiveRest_complete {length : Nat} {attachment : Option Nat} (owed : link.pending ≠ 0)
    (ended : (link.reception (more 0).length).outcome = .ok (.complete length attachment)) :
    link.receiveRest more = ⟨[.ok (.complete length attachment)],
      (Receipt.complete length attachment).chunk (link.receive (more 0)).state.2,
      (link.receive (more 0)).state.1⟩ := by
  rw [← outcome_receive] at ended
  rw [receiveRest, if_neg owed]
  dsimp only
  split
  · rename_i unfinished
    rw [ended] at unfinished
    cases Outcome.ok.inj unfinished
  · rename_i same
    rw [ended] at same
    obtain rfl := Outcome.ok.inj same
    rfl
  · rename_i other
    exact absurd ended (other _)

/-- After a receive that leaves bytes owed, the rest is received into the buffers that follow. -/
theorem receiveRest_pending {total attachment : Nat} (owed : link.pending ≠ 0)
    (ended : (link.reception (more 0).length).outcome =
      .ok (.attachmentPending total attachment)) :
    link.receiveRest more =
      let rest := (link.receive (more 0)).state.1.receiveRest fun index => more (index + 1)
      ⟨.ok (.attachmentPending total attachment) :: rest.outcomes,
        rest.value.map ((link.receive (more 0)).state.2.drop attachment ++ ·), rest.link⟩ := by
  rw [← outcome_receive] at ended
  rw [receiveRest, if_neg owed]
  dsimp only
  split
  · rename_i unfinished
    rw [ended] at unfinished
    obtain ⟨rfl, rfl⟩ := Receipt.attachmentPending.inj (Outcome.ok.inj unfinished)
    rfl
  · rename_i excluded same
    rw [ended] at same
    exact absurd (Outcome.ok.inj same).symm (excluded _ _)
  · rename_i other
    exact absurd ended (other _)

/-- A receive that fails ends the rest of an attachment. -/
theorem receiveRest_failed {error : LinkError} (owed : link.pending ≠ 0)
    (ended : (link.reception (more 0).length).outcome = .failed error) :
    link.receiveRest more = ⟨[.failed error], none, (link.receive (more 0)).state.1⟩ := by
  rw [← outcome_receive] at ended
  rw [receiveRest, if_neg owed]
  dsimp only
  split
  · rename_i unfinished
    rw [ended] at unfinished
    contradiction
  · rename_i same
    rw [ended] at same
    contradiction
  · rw [ended]

/-- The rest of an attachment is received whole, into whatever buffers that are not empty. -/
theorem receiveRest_whole {bytes : Bytes} (filled : ∀ index, more index ≠ [])
    (owed : link.pending = bytes.length)
    (brings : link.transport.inbound.Brings (bytes ++ tail) later) :
    (link.receiveRest more).Whole bytes tail later := by
  induction length : bytes.length using Nat.strongRecOn generalizing link more bytes with
  | ind length_bytes ih =>
    subst length
    by_cases idle : link.pending = 0
    · obtain rfl := List.length_eq_zero_iff.mp (owed.symm.trans idle)
      rw [receiveRest_idle idle]
      exact ⟨rfl, by simp, idle, brings⟩
    · have room : 0 < (more 0).length := List.length_pos_iff.mpr (filled 0)
      have drained := reception_owed idle room
      by_cases fits : bytes.length ≤ (more 0).length
      · obtain ⟨rest, received, left⟩ := brings.drain_whole fits
        rw [owed, received] at drained
        rw [receiveRest_complete idle (by rw [drained])]
        refine ⟨?_, by simp [Outcome.stores], ?_, ?_⟩
        · simp only [Receipt.chunk, buffer_receive, drained, overlay, Option.map_some,
            List.drop_zero, List.take_left]
        · rw [pending_receive, drained]
        · rw [inbound_receive, drained]
          exact left
      · have fills : (more 0).length ≤ bytes.length := Nat.le_of_not_le fits
        have exceeds : (more 0).length < link.pending := by omega
        obtain ⟨rest, received, left⟩ :=
          brings.drain_part (Nat.le_trans fills (by simp)) exceeds
        rw [List.take_append_of_le_length fills] at received
        rw [List.drop_append_of_le_length fills] at left
        rw [received] at drained
        have shorter : (bytes.drop (more 0).length).length < bytes.length := by
          rw [List.length_drop]
          omega
        have stillOwed : (link.receive (more 0)).state.1.pending =
            (bytes.drop (more 0).length).length := by
          rw [pending_receive, drained, List.length_drop, owed]
        have after := ih _ shorter (fun index => filled (index + 1)) stillOwed
          (by rw [inbound_receive, drained]; exact left) rfl
        rw [receiveRest_pending idle (by rw [drained])]
        refine ⟨?_, ?_, after.idle, after.brings⟩
        · have full : (more 0).length ≤ (bytes.take (more 0).length).length := by
            rw [List.length_take]
            omega
          dsimp only
          rw [after.value, Option.map_some, buffer_receive, drained, List.drop_zero,
            overlay_full full, List.take_append_drop]
        · intro outcome member
          rcases List.mem_cons.mp member with rfl | later
          · rfl
          · exact after.stores outcome later

/-- A receive that completes a message is its only one. -/
theorem receiveMessage_complete {buffers : Buffers} {length : Nat} {attachment : Option Nat}
    (ended : (link.reception buffers.first.length).outcome = .ok (.complete length attachment)) :
    link.receiveMessage buffers =
      let received := link.receive buffers.first
      ⟨[.ok (.complete length attachment)],
        some ⟨received.state.2.takeWhile (· != Byte.nul),
          (Receipt.complete length attachment).chunk received.state.2⟩, received.state.1⟩ := by
  rw [← outcome_receive] at ended
  simp only [receiveMessage, ended]

/-- After a receive that begins an attachment, the rest of it is received. -/
theorem receiveMessage_pending {buffers : Buffers} {total attachment : Nat}
    (ended : (link.reception buffers.first.length).outcome =
      .ok (.attachmentPending total attachment)) :
    link.receiveMessage buffers =
      let received := link.receive buffers.first
      let rest := received.state.1.receiveRest buffers.more
      ⟨.ok (.attachmentPending total attachment) :: rest.outcomes,
        rest.value.map fun more => ⟨received.state.2.takeWhile (· != Byte.nul),
          some (received.state.2.drop attachment ++ more)⟩, rest.link⟩ := by
  rw [← outcome_receive] at ended
  simp only [receiveMessage, ended]

/-- A receive that fails ends a message. -/
theorem receiveMessage_failed {buffers : Buffers} {error : LinkError}
    (ended : (link.reception buffers.first.length).outcome = .failed error) :
    link.receiveMessage buffers =
      ⟨[.failed error], none, (link.receive buffers.first).state.1⟩ := by
  rw [← outcome_receive] at ended
  simp only [receiveMessage, ended]

/-- The header of a framed message is read off the stream, and what follows it is next. -/
theorem reception_framed {message : Message} {capacity : Nat} (framed : message.Framed)
    (idle : link.pending = 0) (fits : message.wireHeader.length ≤ capacity)
    (brings : link.transport.inbound.Brings (message.wireHeader ++ tail) later) :
    ∃ rest, link.reception capacity = Reception.afterHeader rest message.wireHeader capacity ∧
      rest.Brings tail later := by
  rw [Message.length_wireHeader] at fits
  rw [Message.wireHeader_eq, List.append_assoc, List.singleton_append] at brings
  obtain ⟨rest, received, left⟩ :=
    brings.newMessage_line framed.plain_line (by decide) (Nat.lt_of_succ_le fits)
  rw [Header.stored_nul, ← Message.wireHeader_eq] at received
  exact ⟨rest, by rw [reception_idle idle (Nat.zero_lt_of_lt fits), received], left⟩

/-- A header that ends in no marker is a whole message. -/
theorem afterHeader_bare {header : Bytes} {inbound : Inbound} {capacity : Nat}
    (framed : (Message.mk header none).Framed) :
    Reception.afterHeader inbound (Message.mk header none).wireHeader capacity =
      ⟨.ok (.complete (Message.mk header none).wireHeader.length none),
        (Message.mk header none).storedHeader, inbound, 0, []⟩ := by
  simp only [Reception.afterHeader, framed.scan, Message.announcement, Message.storedHeader,
    Marker.Scan.apply]

/-- A header that ends in a marker is followed by its attachment. -/
theorem afterHeader_attached {header attachment : Bytes} {inbound : Inbound} {capacity : Nat}
    (framed : (Message.mk header (some attachment)).Framed) :
    Reception.afterHeader inbound (Message.mk header (some attachment)).wireHeader capacity =
      Reception.announced inbound (Message.mk header (some attachment)).storedHeader
        ⟨header.length, attachment.length⟩ capacity := by
  simp only [Reception.afterHeader, framed.scan, Message.announcement, Message.storedHeader,
    Marker.Scan.apply]

/-- The header is read off the buffer that it was stored into, whatever stands behind it. -/
theorem takeWhile_overlay {message : Message} (framed : message.Framed) (more buffer : Bytes) :
    (overlay (message.storedHeader ++ more) buffer).takeWhile (· != Byte.nul) =
      message.header := by
  obtain ⟨behind, stored⟩ := message.storedHeader_eq
  rw [overlay, stored, List.append_assoc, List.append_assoc, List.cons_append]
  exact framed.takeWhile_header _

/-- A message without an attachment is received whole. -/
theorem receiveMessage_bare {header : Bytes} {buffers : Buffers}
    (framed : (Message.mk header none).Framed) (idle : link.pending = 0)
    (fits : (Message.mk header none).wireHeader.length ≤ buffers.first.length)
    (brings : link.transport.inbound.Brings ((Message.mk header none).wireHeader ++ tail) later) :
    (link.receiveMessage buffers).Whole ⟨header, none⟩ tail later := by
  obtain ⟨rest, received, left⟩ := reception_framed framed idle fits brings
  rw [afterHeader_bare framed] at received
  have header_read := takeWhile_overlay framed [] buffers.first
  rw [List.append_nil] at header_read
  rw [receiveMessage_complete (by rw [received])]
  refine ⟨?_, by simp [Outcome.stores], ?_, ?_⟩
  · simp only [buffer_receive, received, header_read, Receipt.chunk, Option.map_none]
  · rw [pending_receive, received]
  · rw [inbound_receive, received]
    exact left

/-- A message with an attachment is received whole. -/
theorem receiveMessage_attached {header attachment : Bytes} {buffers : Buffers}
    (framed : (Message.mk header (some attachment)).Framed) (idle : link.pending = 0)
    (fits : (Message.mk header (some attachment)).wireHeader.length ≤ buffers.first.length)
    (filled : ∀ index, buffers.more index ≠ [])
    (brings : link.transport.inbound.Brings
      ((Message.mk header (some attachment)).wireHeader ++ (attachment ++ tail)) later) :
    (link.receiveMessage buffers).Whole ⟨header, some attachment⟩ tail later := by
  obtain ⟨rest, received, left⟩ := reception_framed framed idle fits brings
  have header_read := fun more => takeWhile_overlay framed more buffers.first
  rw [afterHeader_attached framed] at received
  rw [← Message.length_storedHeader] at fits
  generalize (Message.mk header (some attachment)).storedHeader = front at *
  have counted : (Marker.mk header.length attachment.length).length = attachment.length := rfl
  by_cases whole : attachment.length ≤ buffers.first.length - front.length
  · obtain ⟨last, announced, after⟩ := left.announced_whole counted whole
    rw [announced] at received
    rw [receiveMessage_complete (by rw [received])]
    refine ⟨?_, by simp [Outcome.stores], ?_, ?_⟩
    · simp only [buffer_receive, received, header_read, Receipt.chunk_overlay]
    · rw [pending_receive, received]
    · rw [inbound_receive, received]
      exact after
  · have fills : buffers.first.length - front.length ≤ attachment.length :=
      Nat.le_of_not_le whole
    have exceeds : buffers.first.length - front.length <
        (Marker.mk header.length attachment.length).length := Nat.lt_of_not_le whole
    obtain ⟨last, announced, after⟩ :=
      left.announced_part (Nat.le_trans fills (by simp)) exceeds
    rw [List.take_append_of_le_length fills] at announced
    rw [List.drop_append_of_le_length fills] at after
    rw [announced] at received
    have stillOwed : (link.receive buffers.first).state.1.pending =
        (attachment.drop (buffers.first.length - front.length)).length := by
      rw [pending_receive, received, List.length_drop]
    have rest := receiveRest_whole filled stillOwed
      (by rw [inbound_receive, received]; exact after)
    rw [receiveMessage_pending (by rw [received])]
    refine ⟨?_, ?_, rest.idle, rest.brings⟩
    · have full : buffers.first.length ≤
          (front ++ attachment.take (buffers.first.length - front.length)).length := by
        rw [List.length_append, List.length_take]
        omega
      dsimp only
      rw [rest.value, Option.map_some, buffer_receive, received, header_read,
        overlay_full full, List.drop_left, List.take_append_drop]
    · intro outcome member
      rcases List.mem_cons.mp member with rfl | later
      · rfl
      · exact rest.stores outcome later

/-- A framed message is received whole. -/
theorem receiveMessage_framed {message : Message} {buffers : Buffers} (framed : message.Framed)
    (idle : link.pending = 0) (fits : message.wireHeader.length ≤ buffers.first.length)
    (filled : ∀ index, buffers.more index ≠ [])
    (brings : link.transport.inbound.Brings (message.wire ++ tail) later) :
    (link.receiveMessage buffers).Whole message tail later := by
  rw [Message.wire, List.append_assoc] at brings
  obtain ⟨header, attachment⟩ := message
  cases attachment with
  | none => exact receiveMessage_bare framed idle fits brings
  | some attachment => exact receiveMessage_attached framed idle fits filled brings

end Link

/-- A message on its way: what is sent of it, and the buffers it is received into. -/
structure Parcel where
  /-- The message. -/
  message : Message
  /-- What is sent of it. -/
  wire : Bytes
  /-- The buffers it is received into. -/
  buffers : Buffers

namespace Parcel

/-- The encoder accepted the message, its header fits the first buffer, and the others are not
empty. -/
structure Sound (parcel : Parcel) : Prop where
  /-- The encoder accepted the message. -/
  encoded : parcel.message.encode = .ok parcel.wire
  /-- The first buffer holds the header. -/
  fits : parcel.wire.length - (parcel.message.attachment.getD []).length ≤
    parcel.buffers.first.length
  /-- No other buffer is empty. -/
  filled : ∀ index, parcel.buffers.more index ≠ []

/-- All that is sent of some messages, one after another. -/
def wires (parcels : List Parcel) : Bytes := parcels.flatMap wire

/-- A message that was accepted is received whole, whatever follows it. -/
theorem Sound.receiveMessage {parcel : Parcel} {link : Link} {tail : Bytes} {later : Script}
    (sound : parcel.Sound) (idle : link.pending = 0)
    (brings : link.transport.inbound.Brings (parcel.wire ++ tail) later) :
    (link.receiveMessage parcel.buffers).Whole parcel.message tail later := by
  obtain ⟨framed, wire⟩ := Message.framed_of_encode sound.encoded
  have fits := sound.fits
  rw [wire, Message.wire, List.length_append, Nat.add_sub_cancel] at fits
  rw [wire] at brings
  exact Link.receiveMessage_framed framed idle fits sound.filled brings

/-- Messages that were accepted are received whole and in order, and what is received into any
further buffers begins right behind them. -/
theorem receiveMessages_sound {parcels : List Parcel} {link : Link} {tail : Bytes}
    {later : Script} (sound : ∀ parcel ∈ parcels, parcel.Sound) (idle : link.pending = 0)
    (brings : link.transport.inbound.Brings (wires parcels ++ tail) later)
    (more : List Buffers) :
    ∃ (deliveries : List (Delivery Message)) (after : Link),
      link.receiveMessages (parcels.map buffers ++ more) =
        ⟨deliveries ++ (after.receiveMessages more).deliveries,
          (after.receiveMessages more).link⟩ ∧
      deliveries.map Delivery.value = parcels.map (some ·.message) ∧
      (∀ delivery ∈ deliveries, ∀ outcome ∈ delivery.outcomes, outcome.stores = true) ∧
      after.pending = 0 ∧ after.transport.inbound.Brings tail later := by
  induction parcels generalizing link with
  | nil => exact ⟨[], link, rfl, rfl, by simp, idle, brings⟩
  | cons parcel parcels ih =>
    rw [wires, List.flatMap_cons, List.append_assoc] at brings
    have first := (sound parcel (.head _)).receiveMessage idle brings
    obtain ⟨deliveries, after, session, values, stores, done, left⟩ :=
      ih (fun other member => sound other (.tail _ member)) first.idle first.brings
    refine ⟨link.receiveMessage parcel.buffers :: deliveries, after, ?_, ?_, ?_, done, left⟩
    · rw [List.map_cons, List.cons_append, Link.receiveMessages]
      simp only [first.value, Option.isSome_some, ↓reduceIte, session, List.cons_append]
    · rw [List.map_cons, List.map_cons, first.value, values]
    · intro delivery member
      rcases List.mem_cons.mp member with rfl | later
      · exact first.stores
      · exact stores delivery later

/-- The round trip: messages that the encoder accepted are reassembled in order, each with its
attachment or without one; no receive fails or finds its buffer too small, nothing is owed
afterwards, and exactly what was sent behind them is left to be read. -/
theorem deliveries_encoded {parcels : List Parcel} {link : Link} {tail : Bytes} {later : Script}
    (sound : ∀ parcel ∈ parcels, parcel.Sound) (idle : link.pending = 0)
    (flows : link.transport.inbound.Flows)
    (arrives : link.transport.inbound.script = later.behind (wires parcels ++ tail)) :
    let session := link.receiveMessages (parcels.map buffers)
    session.deliveries.map Delivery.value = parcels.map (some ·.message) ∧
      (∀ delivery ∈ session.deliveries, ∀ outcome ∈ delivery.outcomes, outcome.stores = true) ∧
      session.link.pending = 0 ∧
      session.link.transport.inbound.script = later.behind tail := by
  obtain ⟨deliveries, after, session, values, stores, done, left⟩ :=
    receiveMessages_sound sound idle ⟨flows, arrives⟩ []
  rw [List.append_nil] at session
  rw [session, Link.receiveMessages, List.append_nil]
  exact ⟨values, stores, done, left.script⟩

/-- The message `hi`, and `a` with an attachment of a NUL, a newline and a letter. The first
buffers hold just the headers, and the attachment goes on in buffers of two bytes. -/
def pair : List Parcel :=
  [⟨⟨[104, 105], none⟩, [104, 105, 0], ⟨[238, 238, 238], fun _ => [238]⟩⟩,
    ⟨⟨[97], some [0, 10, 97]⟩, [97, 32, 97, 116, 116, 97, 99, 104, 32, 51, 0, 0, 10, 97],
      ⟨List.replicate 11 238, fun _ => [238, 238]⟩⟩]

/-- Both are accepted, and their buffers will do. -/
theorem sound_pair : ∀ parcel ∈ pair, parcel.Sound := by
  intro parcel member
  simp only [pair, List.mem_cons, List.not_mem_nil, or_false] at member
  rcases member with rfl | rfl
  · exact ⟨by cbv, by decide, fun _ => List.cons_ne_nil _ _⟩
  · exact ⟨by cbv, by decide, fun _ => List.cons_ne_nil _ _⟩

/-- The two messages are received from a stream that comes in pieces and is interrupted in the
middle of the marker. -/
theorem deliveries_encoded_pair :
    let link := Link.ofArrivals [.data [104, 105, 0, 97, 32, 97] (some 2),
      .failure (.plain .interrupted), .data [116, 116, 97, 99, 104, 32, 51, 0, 0] none,
      .data [] none, .data [10, 97, 7] (some 1)]
    (∀ parcel ∈ pair, parcel.Sound) ∧ link.transport.inbound.Flows ∧
      link.transport.inbound.script = Script.behind ⟨[], true⟩ (wires pair ++ [7]) ∧
      (link.receiveMessages (pair.map buffers)).deliveries.map Delivery.value =
        [some ⟨[104, 105], none⟩, some ⟨[97], some [0, 10, 97]⟩] ∧
      (link.receiveMessages (pair.map buffers)).link.pending = 0 := by
  intro link
  have flows : link.transport.inbound.Flows := by decide
  have arrives : link.transport.inbound.script =
      Script.behind ⟨[], true⟩ (wires pair ++ [7]) := by decide
  have received := deliveries_encoded sound_pair rfl flows arrives
  exact ⟨sound_pair, flows, arrives, received.1, received.2.2.1⟩

end Parcel

end AgentLink
