import Mathlib
import AgentLink.Proofs.Accounting
import AgentLink.Proofs.CanonicalMarker
import AgentLink.Proofs.WholeMessage

/-!
# Messages that are sent on

A receiver reads more than the encoder writes: headers that end in a newline, markers with other
blanks and with zeros in front of the count. Still every message it delivers can be sent again. The
header that is delivered is framed: without an attachment it is the text that was scanned and ended
in no marker, and with one it is what stood in front of a marker, so that it has a byte, and the
attachment is no longer than a word can count (`Delivers.framed`). A message that is sent on is
delivered as it was (`Delivers.sent_on`), so that all spellings of a message become one at the
first step.
-/
namespace AgentLink

/-- The header that a receiver reads off its buffer, where a line of the stream was stored. -/
def Header.proper (line : Bytes) : Bytes :=
  ((Marker.scan (stored line)).apply (stored line)).takeWhile (· != Byte.nul)

/-- Where no marker is found, the header is sent as it was scanned. -/
theorem Header.IsLine.framed_absent {line : Bytes} (isLine : Header.IsLine line)
    (absent : Marker.scan (Header.stored line) = .absent) :
    (Message.mk (proper line) none).Framed := by
  obtain ⟨text, split, plain⟩ := isLine.stored
  have header : proper line = text := by
    rw [proper, absent, Marker.Scan.apply, split, takeWhile_plain plain]
  rw [header]
  refine ⟨plain, ?_⟩
  rw [Message.wireHeader_eq, Message.line, ← split, absent]
  rfl

/-- Where a marker is found, the header in front of it can be sent with every attachment that a
word can count. -/
theorem Header.IsLine.framed_found {line attachment : Bytes} {marker : Marker}
    (isLine : Header.IsLine line) (found : Marker.scan (Header.stored line) = .found marker)
    (counted : attachment.length < Marker.countLimit) :
    (Message.mk (proper line) (some attachment)).Framed := by
  obtain ⟨text, split, plain⟩ := isLine.stored
  have fits := Marker.fits_of_scan found
  have within := fits.within
  rw [split, List.length_append, List.length_singleton] at within
  have inside : marker.headerEnd < text.length := by
    have keyword : 0 < Marker.keyword.length := by decide
    omega
  have front : ∀ byte ∈ text.take marker.headerEnd, isTerminator byte = false :=
    fun byte member => plain byte (List.mem_of_mem_take member)
  have header : proper line = text.take marker.headerEnd := by
    rw [proper, found, Marker.Scan.apply, Marker.cut, split,
      List.set_append_left _ _ inside, List.set_eq_take_append_cons_drop, if_pos inside,
      List.append_assoc, List.cons_append, takeWhile_plain front]
  rw [header]
  refine Message.framed_attached front ?_ counted
  intro empty
  have length := congrArg List.length empty
  rw [List.length_take, List.length_nil] at length
  have headed := fits.headed
  omega

namespace Receiving

variable {receiving : Receiving}

/-- A receive that does not succeed hands nothing over. -/
theorem handed_failed (failed : receiving.outcome.isOk = false) : receiving.handed = [] := by
  unfold handed
  cases ended : receiving.outcome with
  | ok receipt =>
    rw [ended] at failed
    contradiction
  | failed error => rfl
  | fault => rfl
  | waiting => rfl

/-- A receive that succeeds hands over what it says stands in the buffer. -/
theorem handed_ok {receipt : Receipt} (ended : receiving.outcome = .ok receipt) :
    receiving.handed =
      (receipt.chunk (receiving.link.receive receiving.buffer).state.2).getD [] := by
  simp only [handed, ended]

/-- A receive that opens no message hands over no more than it takes off what is owed. -/
theorem length_handed_le (unopened : ¬receiving.Opens) :
    receiving.handed.length + (receiving.link.after (.receive receiving.buffer)).pending ≤
      receiving.link.pending := by
  obtain ⟨link, buffer⟩ := receiving
  by_cases room : buffer = []
  · subst room
    exact Nat.le_of_eq (Nat.zero_add _)
  · have owed : link.pending ≠ 0 := fun idle => unopened ⟨idle, room⟩
    have positive : 0 < buffer.length := List.length_pos_iff.mpr room
    have pending : (link.after (.receive buffer)).pending =
        (link.reception buffer.length).pending := rfl
    cases succeeded : (link.reception buffer.length).outcome.isOk with
    | true =>
      have continued := Link.continued_reception owed positive succeeded
      dsimp only
      rw [handed_continued continued, continued.length, pending, continued.pending]
      omega
    | false =>
      obtain ⟨-, -, -, left⟩ :=
        Reception.drain_take link.transport.inbound link.pending buffer.length
      dsimp only
      have nothing : (Receiving.mk link buffer).handed = [] := handed_failed succeeded
      rw [nothing, pending, Link.reception_owed owed positive, left]
      split
      · exact Nat.zero_le _
      · split <;> simp

end Receiving

/-- Receives that open no message hand over no more than what is owed. -/
theorem Link.length_handed_le {link : Link} {calls : List Call}
    (unopened : ∀ receiving ∈ link.receivings calls, ¬receiving.Opens) :
    ((link.receivings calls).flatMap Receiving.handed).length + (link.run calls).pending ≤
      link.pending := by
  induction calls generalizing link with
  | nil => exact Nat.le_of_eq (Nat.zero_add _)
  | cons call calls ih =>
    cases call with
    | receive buffer =>
      have now := Receiving.length_handed_le (unopened ⟨link, buffer⟩ (.head _))
      have later := ih fun receiving member => unopened receiving (.tail _ member)
      rw [receivings, List.flatMap_cons, List.length_append]
      rw [run] at later ⊢
      rw [List.foldl_cons]
      dsimp only at now
      omega
    | send data => exact ih unopened
    | isReady => exact ih unopened

/-- A receive that read a header read a line, and its scan did not fault. -/
theorem Reception.isLine_of_newMessage {inbound : Inbound} {capacity : Nat} {receipt : Receipt}
    (ended : (newMessage inbound capacity).outcome = .ok receipt)
    (stores : receipt ≠ .bufferTooSmall) :
    Header.IsLine (Header.line inbound.bytes) ∧
      Marker.scan (Header.stored (Header.line inbound.bytes)) ≠ .fault := by
  cases intake : inbound.takeHeader capacity with
  | mk outcome line rest =>
    simp only [newMessage, intake] at ended
    cases outcome with
    | failed error => contradiction
    | fault => contradiction
    | waiting => contradiction
    | ok whole =>
      cases whole with
      | false => exact absurd (Outcome.ok.inj ended).symm stores
      | true =>
        have same : line = Header.line inbound.bytes := by
          have front := Inbound.takeHeader_line (by rw [intake])
          rwa [intake] at front
        subst same
        refine ⟨(Inbound.takeHeader_ok_iff.mp intake).1, fun fault => ?_⟩
        simp [afterHeader, fault] at ended

namespace Link

/-- A message that receives deliver: a first one reads the header, the receives among the calls
that follow go on with the attachment, and nothing is owed in the end. -/
structure Delivers (link : Link) (buffer : Bytes) (receipt : Receipt) (calls : List Call)
    (message : Message) : Prop where
  /-- Nothing is owed before. -/
  idle : link.pending = 0
  /-- The first receive succeeds. -/
  received : (link.receive buffer).outcome = .ok receipt
  /-- It found its buffer large enough. -/
  stores : receipt ≠ .bufferTooSmall
  /-- No later receive begins another message. -/
  unopened : ∀ receiving ∈ (link.after (.receive buffer)).receivings calls, ¬receiving.Opens
  /-- Nothing is owed in the end. -/
  done : (link.run (.receive buffer :: calls)).pending = 0
  /-- The header is what stands in the buffer in front of the first NUL. -/
  header : message.header = (link.receive buffer).state.2.takeWhile (· != Byte.nul)
  /-- The attachment is what the receives hand over, if the first says where it begins. -/
  attachment : message.attachment = (receipt.chunk (link.receive buffer).state.2).map
    (· ++ ((link.after (.receive buffer)).receivings calls).flatMap Receiving.handed)

namespace Delivers

variable {link : Link} {buffer : Bytes} {receipt : Receipt} {calls : List Call}
  {message : Message}

/-- What is delivered is framed. -/
theorem framed (delivers : link.Delivers buffer receipt calls message) : message.Framed := by
  have received := delivers.received
  have room : 0 < buffer.length := by
    refine Nat.pos_of_ne_zero fun empty => delivers.stores ?_
    have ended := received
    simp [reception, Reception.receive, empty] at ended
    exact ended.symm
  obtain ⟨line, attached, opened⟩ :=
    opened_reception delivers.idle room received delivers.stores
  obtain ⟨isLine, sound⟩ : Header.IsLine line ∧ Marker.scan (Header.stored line) ≠ .fault := by
    rw [outcome_receive, reception_idle delivers.idle room] at received
    rw [opened.ends]
    exact Reception.isLine_of_newMessage received delivers.stores
  obtain rfl : receipt = (Marker.scan (Header.stored line)).receipt line.length buffer.length :=
    Outcome.ok.inj (received.symm.trans opened.outcome)
  have header : message.header = Header.proper line := by
    rw [delivers.header, buffer_receive, opened.stored, overlay, List.append_assoc,
      takeWhile_append_nul (isLine.nul_mem_apply _), Header.proper]
  have handed : (Receiving.mk link buffer).handed = attached := Receiving.handed_opened opened
  have chunk := Receiving.handed_ok (show (Receiving.mk link buffer).outcome = _ from received)
  rw [handed] at chunk
  have attachment := delivers.attachment
  obtain ⟨found, carried⟩ := message
  obtain rfl : found = Header.proper line := header
  cases scan : Marker.scan (Header.stored line) with
  | absent =>
    simp only [scan, Marker.Scan.receipt, Receipt.chunk, Option.map_none] at attachment
    obtain rfl : carried = none := attachment
    exact isLine.framed_absent scan
  | fault => exact absurd scan sound
  | found marker =>
    rw [scan] at chunk attachment
    have more := length_handed_le delivers.unopened
    have length := opened.length
    have pending : (link.after (.receive buffer)).pending = _ := opened.pending
    rw [scan, Marker.Scan.announced] at length pending
    have counted := (Marker.fits_of_scan scan).counted
    obtain ⟨bytes, begun⟩ : ∃ bytes, ((Marker.Scan.found marker).receipt line.length
        buffer.length).chunk (link.receive buffer).state.2 = some bytes := by
      rw [Marker.Scan.receipt]
      split
      · exact ⟨_, rfl⟩
      · exact ⟨_, rfl⟩
    rw [begun, Option.getD_some] at chunk
    rw [begun, Option.map_some, ← chunk] at attachment
    obtain rfl := attachment
    refine isLine.framed_found scan ?_
    rw [List.length_append]
    omega

/-- A message that was delivered can be sent on, and is delivered as it was. Whatever stream it
came from and however it was spelled there, the encoder accepts its header, whether or not it is
text, and its attachment.
What the encoder makes of them is received whole on every fresh link that brings it, however its
reads are grouped, into every buffer that holds the header and into any others that are not empty:
it is the same message, nothing is owed, and all that follows it is left to be read. -/
theorem sent_on (delivers : link.Delivers buffer receipt calls message) :
    ∃ wire, message.encode = .ok wire ∧
      ∀ (fresh : Link) (buffers : Buffers) (later : Script), fresh.pending = 0 →
        wire.length - (message.attachment.getD []).length ≤ buffers.first.length →
        (∀ index, buffers.more index ≠ []) → fresh.transport.inbound.Flows →
        fresh.transport.inbound.script = later.behind wire →
        let delivery := fresh.receiveMessage buffers
        delivery.value = some message ∧
          (∀ outcome ∈ delivery.outcomes, outcome.stores = true) ∧
          delivery.link.pending = 0 ∧ delivery.link.transport.inbound.script = later := by
  have encoded := delivers.framed.encode
  refine ⟨message.wire, encoded, ?_⟩
  intro fresh buffers later idle fits filled flows arrives delivery
  have sound : (Parcel.mk message message.wire buffers).Sound := ⟨encoded, fits, filled⟩
  have brings : fresh.transport.inbound.Brings (message.wire ++ []) later := by
    rw [List.append_nil]
    exact ⟨flows, arrives⟩
  have whole := sound.receiveMessage idle brings
  exact ⟨whole.value, whole.stores, whole.idle, whole.brings.script.trans later.behind_nil⟩

/-- A header of `hi` that ends in a tab, the word, more blanks, a count with zeros in front, and a
carriage return and a newline. Two bytes of its attachment are received by a later receive. The
message is sent on with the one spelling there is of it. -/
theorem sent_on_spelled :
    let link := ofArrivals [.data [104, 105, 9, 97, 116, 116] (some 2),
      .failure (.plain .interrupted),
      .data [97, 99, 104, 32, 9, 32, 48, 48, 51, 32, 13, 10, 0, 10, 255] none]
    let buffer := List.replicate 19 238
    let calls : List Call := [.send [112], .receive [], .receive [238, 238]]
    let message : Message := ⟨[104, 105], some [0, 10, 255]⟩
    let wire := [104, 105, 32, 97, 116, 116, 97, 99, 104, 32, 51, 0, 0, 10, 255]
    let fresh := ofArrivals [.data (wire.take 5) (some 3), .data (wire.drop 5) none]
    link.Delivers buffer (.attachmentPending 21 18) calls message ∧
      message.encode = .ok wire ∧ fresh.transport.inbound.Flows ∧
      fresh.transport.inbound.script = Script.behind ⟨[], true⟩ wire ∧
      (fresh.receiveMessage ⟨List.replicate 12 238, fun _ => [238]⟩).value = some message := by
  intro link buffer calls message wire fresh
  have delivers : link.Delivers buffer (.attachmentPending 21 18) calls message := by
    refine ⟨rfl, by cbv, by decide, ?_, by cbv, by cbv, by cbv⟩
    have owing : ((link.after (.receive buffer)).receivings calls).all
        (fun receiving => receiving.link.pending != 0 || receiving.buffer.isEmpty) = true := by cbv
    intro receiving member opens
    have owed := List.all_eq_true.mp owing receiving member
    simp [opens.1, opens.2] at owed
  have flows : fresh.transport.inbound.Flows := by decide
  have arrives : fresh.transport.inbound.script = Script.behind ⟨[], true⟩ wire := by decide
  have encoded : message.encode = .ok wire := by cbv
  obtain ⟨found, accepted, again⟩ := delivers.sent_on
  obtain rfl : wire = found := Outcome.ok.inj (encoded.symm.trans accepted)
  obtain ⟨value, -, -, -⟩ := again fresh ⟨List.replicate 12 238, fun _ => [238]⟩ ⟨[], true⟩ rfl
    (by decide) (fun _ => List.cons_ne_nil _ _) flows arrives
  exact ⟨delivers, encoded, flows, arrives, value⟩

end Delivers

end Link

end AgentLink
