import Mathlib
import AgentLink.Proofs.Delivery
import AgentLink.Proofs.Sending

/-!
# Exactly what was sent arrives

A sender encodes messages and sends them in turn, and stops at the first send that fails. Its
transport may have taken any front of that last message. A receiver of what was taken, followed
by the end of the stream, reassembles the messages whose send succeeded and no others
(`deliveries_dispatched`): what was cut off is noticed wherever the cut falls, in the header, in
the marker or in the attachment, whether the attachment is received with its header or later.
-/
namespace AgentLink

/-- What became of messages that were sent in turn. -/
structure Dispatch where
  /-- The messages that were sent, and how each send ended. -/
  sends : List (Message × Outcome Unit)
  /-- What the sends did. -/
  journal : Journal
  /-- The link afterwards. -/
  link : Link

/-- The messages whose send succeeded. -/
def Dispatch.accepted (dispatch : Dispatch) : List Message :=
  (dispatch.sends.filter (·.2.isOk)).map Prod.fst

/-- Encode messages and send them in turn, up to the first send that fails. -/
def Link.dispatch (link : Link) : List Message → Dispatch
  | [] => ⟨[], [], link⟩
  | message :: messages =>
    match message.encode with
    | .ok wire =>
      let sent := link.send wire
      let later := if sent.outcome.isOk then sent.state.dispatch messages else ⟨[], [], sent.state⟩
      ⟨(message, sent.outcome) :: later.sends, sent.journal ++ later.journal, later.link⟩
    | refused => ⟨[(message, refused.map fun _ => ())], [], link⟩

/-- What is taken of messages after those that were sent whole: nothing if there are no more, and
otherwise a front of the next message that is not all of it. -/
inductive Remainder : List Parcel → Bytes → Prop where
  /-- No message is left. -/
  | nothing : Remainder [] []
  /-- A front of the next message was taken, and a part of it is missing. -/
  | cut {parcel : Parcel} {part missing : Bytes} (rest : List Parcel)
      (split : parcel.wire = part ++ missing) (some : missing ≠ []) :
      Remainder (parcel :: rest) part

namespace Parcel

/-- The messages whose send succeeded are taken whole, and of the others at most a front of the
next one. -/
theorem written_dispatch {parcels : List Parcel} (sound : ∀ parcel ∈ parcels, parcel.Sound)
    (sender : Link) :
    let dispatch := sender.dispatch (parcels.map (·.message))
    ∃ whole rest part, parcels = whole ++ rest ∧ dispatch.accepted = whole.map (·.message) ∧
      dispatch.journal.written = wires whole ++ part ∧ Remainder rest part := by
  induction parcels generalizing sender with
  | nil => exact ⟨[], [], [], rfl, rfl, rfl, .nothing⟩
  | cons parcel parcels ih =>
    obtain ⟨missing, front, succeeds⟩ := sender.fronts_send parcel.wire
    have encoded := (sound parcel (.head _)).encoded
    cases succeeded : (sender.send parcel.wire).outcome.isOk with
    | true =>
      obtain ⟨whole, rest, part, split, accepted, written, remainder⟩ :=
        ih (fun other member => sound other (.tail _ member)) (sender.send parcel.wire).state
      obtain rfl := succeeds.mp succeeded
      rw [List.append_nil] at front
      refine ⟨parcel :: whole, rest, part, by rw [split, List.cons_append], ?_, ?_, remainder⟩
      · simp only [List.map_cons, Link.dispatch, encoded, succeeded, ↓reduceIte,
          Dispatch.accepted, List.filter_cons]
        exact congrArg _ accepted
      · simp only [List.map_cons, Link.dispatch, encoded, succeeded, ↓reduceIte,
          Journal.reader_written.append, written, wires, List.flatMap_cons, List.append_assoc,
          ← front]
    | false =>
      have some : missing ≠ [] := fun none => by simp [succeeds.mpr none] at succeeded
      refine ⟨[], parcel :: parcels, (sender.send parcel.wire).journal.written, rfl, ?_, ?_,
        .cut parcels front some⟩
      · simp [Link.dispatch, encoded, succeeded, Dispatch.accepted]
      · simp [Link.dispatch, encoded, succeeded, wires]

end Parcel

/-- A delivery that did not come whole, because the stream ended: every receive before the last
stored a part of an attachment and left some of it owed. -/
structure Delivery.CutOff {α : Type} (delivery : Delivery α) : Prop where
  /-- The delivery has no value. -/
  value : delivery.value = none
  /-- The last receive met the end of the stream, and the others left bytes owed. -/
  outcomes : ∃ begun : List (Outcome Receipt),
    delivery.outcomes = begun ++ [.failed .peerClosed] ∧
      ∀ outcome ∈ begun, ∃ total attachment, outcome = .ok (.attachmentPending total attachment)

/-- A receive that left bytes owed comes before what was cut off. -/
theorem Delivery.CutOff.after {α β : Type} {delivery : Delivery α} (cut : delivery.CutOff)
    (total attachment : Nat) (change : α → β) :
    (Delivery.mk (.ok (.attachmentPending total attachment) :: delivery.outcomes)
      (delivery.value.map change) delivery.link).CutOff := by
  obtain ⟨begun, outcomes, pending⟩ := cut.outcomes
  refine ⟨by rw [cut.value, Option.map_none],
    .ok (.attachmentPending total attachment) :: begun, ?_, ?_⟩
  · rw [outcomes, List.cons_append]
  · intro outcome member
    rcases List.mem_cons.mp member with rfl | later
    · exact ⟨total, attachment, rfl⟩
    · exact pending outcome later

/-- A delivery is cut off at once where the stream ended before it. -/
theorem Delivery.cutOff_failed {α : Type} (link : Link) :
    (Delivery.mk (α := α) [.failed .peerClosed] none link).CutOff :=
  ⟨rfl, [], rfl, by simp⟩

namespace Link

variable {link : Link} {later : Script}

/-- Where less of an attachment arrives than is owed, its rest is cut off. -/
theorem receiveRest_cutOff {bytes : Bytes} {more : Nat → Bytes}
    (filled : ∀ index, more index ≠ []) (short : bytes.length < link.pending)
    (brings : link.transport.inbound.Brings bytes later)
    (closes : later.head = .halt .finish) : (link.receiveRest more).CutOff := by
  induction length : bytes.length using Nat.strongRecOn generalizing link more bytes with
  | ind length_bytes ih =>
    subst length
    have owed : link.pending ≠ 0 := Nat.ne_of_gt (Nat.zero_lt_of_lt short)
    have room : 0 < (more 0).length := List.length_pos_iff.mpr (filled 0)
    have drained := reception_owed owed room
    by_cases ends : bytes.length < (more 0).length
    · have ended := brings.drain_halt closes short ends
      rw [← drained] at ended
      rw [receiveRest_failed owed ended]
      exact Delivery.cutOff_failed _
    · have fills : (more 0).length ≤ bytes.length := Nat.le_of_not_lt ends
      obtain ⟨rest, received, left⟩ :=
        brings.drain_part fills (Nat.lt_of_le_of_lt fills short)
      rw [received] at drained
      have shorter : (bytes.drop (more 0).length).length < bytes.length := by
        rw [List.length_drop]
        omega
      have stillShort : (bytes.drop (more 0).length).length <
          (link.receive (more 0)).state.1.pending := by
        rw [pending_receive, drained, List.length_drop]
        show bytes.length - (more 0).length < link.pending - (more 0).length
        omega
      have rest_cut := ih _ shorter (fun index => filled (index + 1)) stillShort
        (by rw [inbound_receive, drained]; exact left) rfl
      rw [receiveRest_pending owed (by rw [drained])]
      exact rest_cut.after _ _ _

/-- A header that does not arrive whole is cut off. -/
theorem receiveMessage_header_cutOff {bytes : Bytes} {buffers : Buffers}
    (plain : ∀ byte ∈ bytes, Header.isTerminator byte = false) (idle : link.pending = 0)
    (room : bytes.length < buffers.first.length)
    (brings : link.transport.inbound.Brings bytes later)
    (closes : later.head = .halt .finish) : (link.receiveMessage buffers).CutOff := by
  have ended := brings.newMessage_halt closes plain room
  rw [← reception_idle idle (Nat.zero_lt_of_lt room)] at ended
  rw [receiveMessage_failed ended]
  exact Delivery.cutOff_failed _

/-- An attachment that does not arrive whole is cut off, although its header came. -/
theorem receiveMessage_attachment_cutOff {header attachment bytes : Bytes} {buffers : Buffers}
    (framed : (Message.mk header (some attachment)).Framed) (idle : link.pending = 0)
    (fits : (Message.mk header (some attachment)).wireHeader.length ≤ buffers.first.length)
    (filled : ∀ index, buffers.more index ≠ []) (short : bytes.length < attachment.length)
    (brings : link.transport.inbound.Brings
      ((Message.mk header (some attachment)).wireHeader ++ bytes) later)
    (closes : later.head = .halt .finish) : (link.receiveMessage buffers).CutOff := by
  obtain ⟨rest, received, left⟩ := reception_framed framed idle fits brings
  rw [afterHeader_attached framed] at received
  rw [← Message.length_storedHeader] at fits
  generalize (Message.mk header (some attachment)).storedHeader = stored at *
  by_cases ends : bytes.length < buffers.first.length - stored.length
  · have ended : (link.reception buffers.first.length).outcome = .failed .peerClosed := by
      rw [received]
      exact left.announced_halt closes short ends
    rw [receiveMessage_failed ended]
    exact Delivery.cutOff_failed _
  · have fills : buffers.first.length - stored.length ≤ bytes.length := Nat.le_of_not_lt ends
    have exceeds : buffers.first.length - stored.length <
        (Marker.mk header.length attachment.length).length := Nat.lt_of_le_of_lt fills short
    obtain ⟨last, announced, after⟩ := left.announced_part fills exceeds
    rw [announced] at received
    have stillShort : (bytes.drop (buffers.first.length - stored.length)).length <
        (link.receive buffers.first).state.1.pending := by
      rw [pending_receive, received, List.length_drop]
      show bytes.length - (buffers.first.length - stored.length) <
        attachment.length - (buffers.first.length - stored.length)
      omega
    have rest_cut := receiveRest_cutOff filled stillShort
      (by rw [inbound_receive, received]; exact after) closes
    rw [receiveMessage_pending (by rw [received])]
    exact rest_cut.after _ _ _

/-- A framed message that does not arrive whole is cut off, wherever the cut falls. -/
theorem receiveMessage_cutOff {message : Message} {part missing : Bytes} {buffers : Buffers}
    (framed : message.Framed) (split : message.wire = part ++ missing) (cut : missing ≠ [])
    (idle : link.pending = 0) (fits : message.wireHeader.length ≤ buffers.first.length)
    (filled : ∀ index, buffers.more index ≠ [])
    (brings : link.transport.inbound.Brings part later)
    (closes : later.head = .halt .finish) : (link.receiveMessage buffers).CutOff := by
  have header_prefix : message.wireHeader <+: message.wire := List.prefix_append _ _
  have part_prefix : part <+: message.wire := ⟨missing, split.symm⟩
  by_cases begun : part.length < message.wireHeader.length
  · obtain ⟨unsent, header⟩ :=
      List.prefix_of_prefix_length_le part_prefix header_prefix (Nat.le_of_lt begun)
    have unsent_ne_nil : unsent ≠ [] := by
      rintro rfl
      rw [← header, List.append_nil] at begun
      exact Nat.lt_irrefl _ begun
    have plain := framed.plain_front header.symm unsent_ne_nil
    exact receiveMessage_header_cutOff plain idle (Nat.lt_of_lt_of_le begun fits) brings closes
  · obtain ⟨front, rfl⟩ :=
      List.prefix_of_prefix_length_le header_prefix part_prefix (Nat.le_of_not_lt begun)
    rw [Message.wire, List.append_assoc] at split
    have rest := List.append_cancel_left split
    obtain ⟨header, attachment⟩ := message
    cases attachment with
    | none => exact absurd (List.append_eq_nil_iff.mp rest.symm).2 cut
    | some attachment =>
      have short : front.length < attachment.length := by
        have lengths := congrArg List.length rest
        have some := List.length_pos_iff.mpr cut
        rw [List.length_append, Option.getD_some] at lengths
        omega
      exact receiveMessage_attachment_cutOff framed idle fits filled short brings closes

end Link

namespace Parcel

/-- A message of which only a front arrives is cut off. -/
theorem Sound.receiveMessage_cutOff {parcel : Parcel} {link : Link} {part missing : Bytes}
    {later : Script} (sound : parcel.Sound) (split : parcel.wire = part ++ missing)
    (cut : missing ≠ []) (idle : link.pending = 0)
    (brings : link.transport.inbound.Brings part later)
    (closes : later.head = .halt .finish) : (link.receiveMessage parcel.buffers).CutOff := by
  obtain ⟨framed, wire⟩ := Message.framed_of_encode sound.encoded
  have fits := sound.fits
  rw [wire, Message.wire, List.length_append, Nat.add_sub_cancel] at fits
  rw [wire] at split
  exact Link.receiveMessage_cutOff framed split cut idle fits sound.filled brings closes

/-- What the buffers of the messages that were not sent whole receive, and a last buffer. -/
theorem receiveMessages_remainder {rest : List Parcel} {link : Link} {part : Bytes}
    {last : Buffers} {later : Script} (remainder : Remainder rest part)
    (sound : ∀ parcel ∈ rest, parcel.Sound) (filled : last.first ≠ []) (idle : link.pending = 0)
    (brings : link.transport.inbound.Brings part later)
    (closes : later.head = .halt .finish) :
    ∃ next after, link.receiveMessages (rest.map buffers ++ [last]) = ⟨[next], after⟩ ∧
      next.CutOff := by
  have only : ∀ (first : Buffers) (more : List Buffers), (link.receiveMessage first).CutOff →
      ∃ next after, link.receiveMessages (first :: more) = ⟨[next], after⟩ ∧ next.CutOff := by
    intro first more cut
    refine ⟨link.receiveMessage first, (link.receiveMessage first).link, ?_, cut⟩
    simp only [Link.receiveMessages, cut.value, Option.isSome_none, Bool.false_eq_true, ↓reduceIte]
  cases remainder with
  | nothing =>
    have room : ([] : Bytes).length < last.first.length := List.length_pos_iff.mpr filled
    exact only last [] (Link.receiveMessage_header_cutOff (by simp) idle room brings closes)
  | cut rest split some =>
    have cut := (sound _ (.head _)).receiveMessage_cutOff split some idle brings closes
    exact only _ _ cut

/-- Exactly the messages whose send succeeded are delivered, in order and each once, and the
message after them ends where the stream does: what was taken of a send that failed is never
taken for a message. -/
theorem deliveries_dispatched {sender receiver : Link} {parcels : List Parcel} {last : Buffers}
    {later : Script} (sound : ∀ parcel ∈ parcels, parcel.Sound) (filled : last.first ≠ [])
    (idle : receiver.pending = 0) (flows : receiver.transport.inbound.Flows)
    (arrives : receiver.transport.inbound.script =
      later.behind (sender.dispatch (parcels.map (·.message))).journal.written)
    (closes : later.head = .halt .finish) :
    let dispatch := sender.dispatch (parcels.map (·.message))
    let session := receiver.receiveMessages (parcels.map buffers ++ [last])
    ∃ whole next, session.deliveries = whole ++ [next] ∧
      whole.map Delivery.value = dispatch.accepted.map some ∧
      (∀ delivery ∈ whole, ∀ outcome ∈ delivery.outcomes, outcome.stores = true) ∧
      next.CutOff := by
  intro dispatch session
  obtain ⟨sent, rest, part, split, accepted, written, remainder⟩ := written_dispatch sound sender
  subst split
  rw [written] at arrives
  obtain ⟨whole, after, received, values, stores, done, left⟩ := receiveMessages_sound
    (fun parcel member => sound parcel (List.mem_append_left _ member)) idle ⟨flows, arrives⟩
    (rest.map buffers ++ [last])
  obtain ⟨next, closed, ended, cut⟩ := receiveMessages_remainder remainder
    (fun parcel member => sound parcel (List.mem_append_right _ member)) filled done left closes
  refine ⟨whole, next, ?_, ?_, stores, cut⟩
  · simp only [session, List.map_append, List.append_assoc, received, ended]
  · rw [values, accepted, List.map_map]
    rfl

/-- A sender whose transport takes the first message, and of the second its header and one byte
of the attachment; then it is blocked once and fails. -/
def failingSender : Link where
  transport := {
    inbound := ⟨[], false⟩
    outlet := ⟨fun
      | 0 => .accept none
      | 1 => .accept (some 12)
      | 2 => .refuse (.plain .wouldBlock)
      | _ => .refuse (.plain .brokenPipe), 0⟩ }

/-- Of the two messages the first is delivered, and the second is cut off. -/
theorem deliveries_dispatched_failing :
    let receiver := Link.ofArrivals [.data [104, 105, 0, 97, 32, 97] (some 2),
      .failure (.plain .interrupted), .data [116, 116, 97, 99, 104, 32, 51, 0, 0] none, .finish]
    let last : Buffers := ⟨[238], fun _ => [238]⟩
    receiver.transport.inbound.Flows ∧
      receiver.transport.inbound.script = Script.behind ⟨[.halt .finish], true⟩
        (failingSender.dispatch (pair.map (·.message))).journal.written ∧
      ∃ first next, (receiver.receiveMessages (pair.map buffers ++ [last])).deliveries =
          [first, next] ∧
        first.value = some ⟨[104, 105], none⟩ ∧ next.CutOff := by
  intro receiver last
  have flows : receiver.transport.inbound.Flows := by decide
  have written : (failingSender.dispatch (pair.map (·.message))).journal.written =
      [104, 105, 0, 97, 32, 97, 116, 116, 97, 99, 104, 32, 51, 0, 0] := by cbv
  have accepted : (failingSender.dispatch (pair.map (·.message))).accepted =
      [⟨[104, 105], none⟩] := by cbv
  have arrives : receiver.transport.inbound.script = Script.behind ⟨[.halt .finish], true⟩
      (failingSender.dispatch (pair.map (·.message))).journal.written := by
    rw [written]
    decide
  have filled : last.first ≠ [] := List.cons_ne_nil _ _
  obtain ⟨whole, next, split, values, -, cut⟩ :=
    deliveries_dispatched sound_pair filled rfl flows arrives rfl
  rw [accepted] at values
  obtain ⟨first, rfl⟩ : ∃ first, whole = [first] := List.length_eq_one_iff.mp (by
    simpa using congrArg List.length values)
  exact ⟨flows, arrives, first, next, split, List.head_eq_of_cons_eq values, cut⟩

end Parcel

end AgentLink
