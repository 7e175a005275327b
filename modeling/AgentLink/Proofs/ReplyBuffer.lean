import AgentLink.Proofs.AnyBuffer
import AgentLink.Proofs.Characters
import AgentLink.Proofs.Conversation
import AgentLink.Proofs.Framing
import AgentLink.Proofs.WholeMessage

/-!
# The buffer of the command line

The size of the buffer decides how many receives a reply takes, and nothing else that is seen of a
session (`run_any_buffer`). A header that fits two buffers is read alike into both, and what is
collected behind it is the same in both, so that the reply is the same, and so is the link that is
closed after it (`receive_agrees`). The sessions make the same connection and send the same command
before, and receiving prints nothing. A message that can be sent comes as a header and what it
announces, and is received as the reply it was meant to be (`Message.Framed.receive`).
-/
namespace AgentLink

/-- What is collected begins behind the header. -/
theorem Marker.Scan.collected_ok {scan : Marker.Scan} {length : Nat} {rest : Inbound}
    {found : Nat × Option Bytes} (ended : scan.collected length rest = .ok found) :
    found.1 = length := by
  cases scan with
  | absent => exact congrArg Prod.fst (Outcome.ok.inj ended).symm
  | fault => contradiction
  | found marker => exact congrArg Prod.fst (Outcome.eq_of_map ended)

/-- The reply that a header comes to, and what it announces of the stream behind it. -/
def Reply.ofLine (line : Bytes) (rest : Inbound) : Outcome Reply :=
  let scan := Marker.scan (Header.stored line)
  (scan.collected line.length rest).map fun found =>
    ⟨scan.apply (Header.stored line), found.2⟩

namespace Link

variable {link : Link} {buffer line : Bytes} {rest : Inbound}

/-- A reply is read off the buffer that it was collected in. -/
theorem outcome_reply (idle : link.pending = 0) (isLine : Header.IsLine line)
    (arrives : link.transport.inbound.Arrives line rest) (fits : line.length ≤ buffer.length) :
    (link.collect buffer).reply.outcome = Reply.ofLine line rest := by
  have collects := collects idle isLine arrives fits
  have outcome := collects.outcome
  dsimp only [Collection.reply, Reply.ofLine]
  rw [← outcome]
  refine Outcome.map_congr fun found ended => ?_
  have header := (collects.whole (by rw [ended]; rfl)).2.1
  rw [ended] at outcome
  rw [Marker.Scan.collected_ok outcome.symm, header]

/-- Where no header is read, there is no reply. -/
theorem outcome_reply_unread (idle : link.pending = 0) (room : 0 < buffer.length)
    (failed : (link.transport.inbound.takeHeader buffer.length).outcome.isOk = false) :
    (link.collect buffer).reply.outcome =
      (link.transport.inbound.takeHeader buffer.length).outcome.map fun _ => ⟨[], none⟩ := by
  have ended : (link.receive buffer).outcome =
      (link.transport.inbound.takeHeader buffer.length).outcome.map fun _ => .bufferTooSmall := by
    rw [outcome_receive, reception_idle idle room, Reception.newMessage]
    cases read : (link.transport.inbound.takeHeader buffer.length).outcome with
    | ok whole =>
      rw [read] at failed
      contradiction
    | failed error => rfl
    | fault => rfl
    | waiting => rfl
  rw [collect_halted (by rw [ended, Outcome.isOk_map, failed])]
  dsimp only [Collection.reply, Collection.last]
  rw [ended, Outcome.map_map, Outcome.map_map]
  exact Outcome.map_eq_map failed _ _

end Link

/-- A header that arrives fits a buffer that holds what comes next. -/
theorem Inbound.HeaderFits.length_le {inbound rest : Inbound} {capacity : Nat} {line : Bytes}
    (fits : inbound.HeaderFits capacity) (isLine : Header.IsLine line)
    (arrives : inbound.Arrives line rest) : line.length ≤ capacity := by
  obtain ⟨front, last, rfl, plain, -⟩ := isLine
  obtain ⟨next, before, -⟩ := arrives.split
  rw [List.length_append, List.length_singleton]
  exact fits front next before plain

namespace Reply

variable {link : Link}

/-- Receiving a reply prints nothing. -/
theorem mute_receive (link : Link) (capacity : Nat) : (receive link capacity).Mute := by
  have same := receive_eq_collect link (List.replicate capacity Byte.nul)
  rw [List.length_replicate] at same
  rw [same]
  exact Journal.reader_printed.quiet (fun _ => rfl) (link.quiet_collect _)

/-- A reply is received whatever buffer holds its header, and leaves the same. Where reading the
header fails, it fails alike in both buffers; where it does not, the same is collected. -/
theorem receive_agrees {capacity other : Nat} (idle : link.pending = 0)
    (fits : link.transport.inbound.HeaderFits capacity)
    (fits' : link.transport.inbound.HeaderFits other) :
    (receive link capacity).outcome = (receive link other).outcome ∧
      ((receive link capacity).outcome.isOk = true →
        (receive link capacity).state = (receive link other).state) := by
  have room := fits [] link.transport.inbound .nothing (by simp)
  have room' := fits' [] link.transport.inbound .nothing (by simp)
  have read := fits.takeHeader_eq fits'
  obtain ⟨buffer, rfl⟩ : ∃ buffer : Bytes, capacity = buffer.length :=
    ⟨List.replicate capacity Byte.nul, List.length_replicate.symm⟩
  obtain ⟨buffer', rfl⟩ : ∃ buffer : Bytes, other = buffer.length :=
    ⟨List.replicate other Byte.nul, List.length_replicate.symm⟩
  rw [receive_eq_collect, receive_eq_collect]
  cases intake : link.transport.inbound.takeHeader buffer.length with
  | mk ended line rest =>
    cases succeeded : ended.isOk with
    | false =>
      have unread := Link.outcome_reply_unread idle room (by rw [intake, succeeded])
      have unread' := Link.outcome_reply_unread idle room' (by rw [← read, intake, succeeded])
      rw [← read] at unread'
      refine ⟨unread.trans unread'.symm, fun replied => ?_⟩
      rw [unread, Outcome.isOk_map, intake, succeeded] at replied
      contradiction
    | true =>
      obtain ⟨whole, rfl⟩ := Outcome.ok_of_isOk succeeded
      have unended := fits.ne_unended
      rw [intake] at unended
      obtain rfl : whole = true := by
        cases whole with
        | true => rfl
        | false => exact absurd rfl unended
      obtain ⟨isLine, within, arrives⟩ := Inbound.takeHeader_ok_iff.mp intake
      have within' := fits'.length_le isLine arrives
      have outcome := Link.outcome_reply idle isLine arrives within
      have outcome' := Link.outcome_reply idle isLine arrives within'
      refine ⟨outcome.trans outcome'.symm, fun replied => ?_⟩
      have collected : (link.collect buffer).outcome.isOk = true := by
        rwa [Collection.reply, Outcome.isOk_map] at replied
      have collects := Link.collects idle isLine arrives within
      have collects' := Link.collects idle isLine arrives within'
      have collected' : (link.collect buffer').outcome.isOk = true := by
        rwa [collects'.outcome, ← collects.outcome]
      exact (collects.whole collected).2.2.trans (collects'.whole collected').2.2.symm

end Reply

/-- What is collected of a reply that comes whole. -/
theorem Header.Heads.collected {line attached : Bytes} {rest last : Inbound}
    (heads : Heads line attached) (arrives : rest.Arrives attached last) :
    (Marker.scan (stored line)).collected line.length rest = .ok
        (line.length, ((Marker.scan (stored line)).offset line.length).map fun _ => attached) ∧
      (rest.take (Marker.scan (stored line)).announced).rest = last := by
  have taken := Inbound.take_ok_iff.mpr ⟨heads.counted, arrives⟩
  have sound := heads.sound
  rw [taken]
  cases scan : Marker.scan (stored line) with
  | absent => exact ⟨rfl, rfl⟩
  | fault => exact absurd scan sound
  | found marker =>
    rw [scan] at taken
    refine ⟨?_, rfl⟩
    rw [Marker.Scan.collected, show rest.take marker.length = _ from taken]
    rfl

namespace Message.Framed

variable {message : Message}

/-- The header of a message is stored as it is sent. -/
theorem stored (framed : message.Framed) :
    Header.stored message.wireHeader = message.wireHeader ∧
      Marker.scan (Header.stored message.wireHeader) = message.announcement := by
  have same : Header.stored message.wireHeader = message.wireHeader := by
    rw [message.wireHeader_eq, Header.stored_nul]
  exact ⟨same, same.symm ▸ framed.scan⟩

/-- A message that can be sent comes with a header and what it announces. -/
theorem heads (framed : message.Framed) :
    Header.Heads message.wireHeader (message.attachment.getD []) := by
  refine ⟨⟨message.line, Byte.nul, message.wireHeader_eq, framed.plain_line, by decide⟩, ?_, ?_⟩
  · rw [framed.stored.2, announcement]
    cases message.attachment <;> simp
  · rw [framed.stored.2, announcement]
    cases message.attachment <;> rfl

/-- A message that can be sent is received as a reply. -/
theorem receive {link : Link} {rest : Inbound} {capacity : Nat} (framed : message.Framed)
    (idle : link.pending = 0) (arrives : link.transport.inbound.Arrives message.wire rest)
    (fits : message.wireHeader.length ≤ capacity) :
    (Reply.receive link capacity).outcome =
      .ok ⟨message.storedHeader, message.attachment⟩ := by
  obtain ⟨buffer, rfl⟩ : ∃ buffer : Bytes, capacity = buffer.length :=
    ⟨List.replicate capacity Byte.nul, List.length_replicate.symm⟩
  obtain ⟨next, line, attached⟩ := arrives.split
  have collected := (framed.heads.collected attached).1
  rw [Reply.receive_eq_collect, Link.outcome_reply idle framed.heads.isLine line fits,
    Reply.ofLine, collected, framed.stored.2, framed.stored.1, announcement]
  obtain ⟨header, attachment⟩ := message
  cases attachment <;> rfl

end Message.Framed

/-- What is printed of a message that was sent as text: the text, and the size of its attachment if
it has one. -/
theorem Reply.lines_framed {text : String} {attachment : Option Bytes}
    (framed : (Message.mk (utf8 text) attachment).Framed) :
    lines ⟨(Message.mk (utf8 text) attachment).storedHeader, attachment⟩ =
      text :: (attachment.map fun bytes =>
        "attachment: " ++ toString bytes.length ++ " bytes").toList := by
  obtain ⟨rest, stored⟩ := (Message.mk (utf8 text) attachment).storedHeader_eq
  rw [lines, title, stored, framed.takeWhile_header, Text.lossy_utf8]
  cases attachment <;> rfl

namespace Run

variable {σ τ α β : Type}

/-- Two runs that end in the same way, leave the same and print the same. -/
structure Agrees (run other : Run σ α) : Prop where
  /-- They end in the same way. -/
  outcome : run.outcome = other.outcome
  /-- They leave the same. -/
  state : run.state = other.state
  /-- They print the same. -/
  printed : run.journal.printed = other.journal.printed

/-- Runs agree that printed the same before. -/
theorem Agrees.prepend {run other : Run σ α} (agrees : run.Agrees other) {earlier before : Journal}
    (same : earlier.printed = before.printed) :
    (run.prepend earlier).Agrees (other.prepend before) := by
  refine ⟨agrees.outcome, agrees.state, ?_⟩
  rw [Run.prepend, Run.prepend, Journal.reader_printed.append, Journal.reader_printed.append,
    same, agrees.printed]

/-- Runs agree that go on alike after the same beginning. -/
theorem Agrees.andThen {run other : Run σ α} {stop : σ → τ} {next next' : α → σ → Run τ β}
    (outcome : run.outcome = other.outcome) (stopped : stop run.state = stop other.state)
    (printed : run.journal.printed = other.journal.printed)
    (on : ∀ value, run.outcome = .ok value →
      (next value run.state).Agrees (next' value other.state)) :
    (run.andThen stop next).Agrees (other.andThen stop next') := by
  rw [Run.andThen, Run.andThen, ← outcome]
  cases ended : run.outcome with
  | ok value => exact (on value ended).prepend printed
  | failed error => exact ⟨rfl, stopped, printed⟩
  | fault => exact ⟨rfl, stopped, printed⟩
  | waiting => exact ⟨rfl, stopped, printed⟩

end Run

namespace CommandLine

variable {network : Network} {files : Files} {options : Options} {link : Link}

/-- There is a buffer of this size, and it holds the header of the reply, with its terminator,
wherever the options connect to. -/
structure Holds (network : Network) (options : Options) (size : Nat) : Prop where
  /-- A buffer can have this size. -/
  allocated : size < bufferLimit
  /-- The header fits it on every link that connecting comes to. -/
  header : ∀ link,
    (network.connect options.host options.port options.settings).outcome = .ok link →
      link.transport.inbound.HeaderFits size

/-- A conversation comes to the same whatever buffer holds the header of the reply. -/
theorem agrees_converse {other : Nat} (idle : link.pending = 0)
    (fits : link.transport.inbound.HeaderFits options.buffer)
    (fits' : link.transport.inbound.HeaderFits other) :
    (converse files options network link).Agrees
      (converse files { options with buffer := other } network link) := by
  obtain ⟨outlet, sent⟩ := state_sendCommand files options link
  refine Run.Agrees.andThen rfl rfl rfl fun _ _ => ?_
  have same : (sendCommand files { options with buffer := other } link).state =
    (sendCommand files options link).state := rfl
  rw [same, sent]
  generalize told : { link with transport := { link.transport with outlet } } = after
  have idle : after.pending = 0 := told ▸ idle
  have fits : after.transport.inbound.HeaderFits options.buffer := told ▸ fits
  have fits' : after.transport.inbound.HeaderFits other := told ▸ fits'
  obtain ⟨outcome, state⟩ := Reply.receive_agrees idle fits fits'
  refine Run.Agrees.andThen outcome rfl ?_ fun reply ended => ?_
  · rw [Reply.mute_receive, Reply.mute_receive]
  · rw [state (by rw [ended]; rfl)]
    exact ⟨rfl, rfl, rfl⟩

/-- A session comes to the same whatever buffer holds the header of the reply. -/
theorem agrees_run {other : Nat} (answered : options.waitGreeting = false)
    (holds : Holds network options options.buffer) (holds' : Holds network options other) :
    (run network files options).Agrees (run network files { options with buffer := other }) := by
  rw [run, run, if_neg (Nat.not_le_of_lt holds.allocated),
    if_neg (Nat.not_le_of_lt holds'.allocated), answered, if_neg Bool.false_ne_true,
    if_neg Bool.false_ne_true]
  refine Run.Agrees.andThen rfl rfl rfl fun link connected => ?_
  exact agrees_converse (Network.pending_connect connected) (holds.header link connected)
    (holds'.header link connected)

/-- What is printed of a session in which a reply was received. -/
theorem printed_run {reply : Reply} (answered : options.waitGreeting = false)
    (allocated : options.buffer < bufferLimit)
    (connected : (network.connect options.host options.port options.settings).outcome = .ok link)
    (sent : (sendCommand files options link).outcome = .ok ())
    (received : (Reply.receive (sendCommand files options link).state options.buffer).outcome =
      .ok reply) :
    (run network files options).journal.printed = reply.lines := by
  have closed : ∀ (later : Network) (last : Link), (finish later last).journal.printed = [] :=
    fun later last => Journal.reader_printed.quiet (fun _ => rfl) last.quiet_close
  have connecting : (network.connect options.host options.port options.settings).journal.printed =
    [] := network.mute_connect _ _ _
  have sending : (sendCommand files options link).journal.printed = [] :=
    mute_sendCommand files options link
  have receiving : (Reply.receive (sendCommand files options link).state
      options.buffer).journal.printed = [] := Reply.mute_receive _ _
  rw [run, if_neg (Nat.not_le_of_lt allocated), answered, if_neg Bool.false_ne_true,
    Run.andThen_ok connected, converse, Run.andThen_ok sent, Run.andThen_ok received]
  simp [Run.prepend, Journal.reader_printed.append, connecting, sending, receiving, closed]

/-- What collecting a reply comes to whose header fits the buffer. No receive finds the buffer too
small, and there are never more of them than it takes to receive all that is announced. Where all of
it comes, the header ends where it was read to, its attachment is what was announced, the buffer
holds the header as the first receive stored it, and nothing is owed. -/
theorem collect_line {buffer line : Bytes} {rest : Inbound} (idle : link.pending = 0)
    (isLine : Header.IsLine line) (arrives : link.transport.inbound.Arrives line rest)
    (fits : line.length ≤ buffer.length) :
    let scan := Marker.scan (Header.stored line)
    let further := (line.length + scan.announced - buffer.length) ⌈/⌉ buffer.length
    let collection := link.collect buffer
    Reply.receive link buffer.length = collection.reply ∧
      (∀ ended ∈ collection.receives, ended ≠ .ok .bufferTooSmall) ∧
      collection.receives.length ≤ 1 + further ∧
      ∀ attached last, Header.Heads line attached → rest.Arrives attached last →
        collection.outcome =
            .ok (line.length, (scan.offset line.length).map fun _ => attached) ∧
          collection.buffer.take line.length = (link.receive buffer).state.2.take line.length ∧
          (link.receive buffer).state.2.take line.length = scan.apply (Header.stored line) ∧
          collection.receives.length = 1 + further ∧
          collection.link = link.leaving last 0 := by
  intro scan further collection
  have collects := Link.collects idle isLine arrives fits
  refine ⟨Reply.receive_eq_collect link buffer, collects.sized, collects.bounded, ?_⟩
  intro attached last heads whole
  obtain ⟨collected, left⟩ := heads.collected whole
  have outcome := collects.outcome.trans collected
  obtain ⟨count, header, link⟩ := collects.whole (by rw [outcome]; rfl)
  have first := Link.take_receive idle isLine arrives fits
  exact ⟨outcome, header.trans first.symm, first, count, left ▸ link⟩

/-- The reply to a text that was encoded is printed as the text and the size of its attachment. -/
theorem printed_encoded {text : String} {attachment : Option Bytes} {wire : Bytes} {rest : Inbound}
    (answered : options.waitGreeting = false) (holds : Holds network options options.buffer)
    (connected : (network.connect options.host options.port options.settings).outcome = .ok link)
    (sent : (sendCommand files options link).outcome = .ok ())
    (encoded : Message.encode ⟨utf8 text, attachment⟩ = .ok wire)
    (arrives : link.transport.inbound.Arrives wire rest) :
    (run network files options).journal.printed =
      text :: (attachment.map fun bytes =>
        "attachment: " ++ toString bytes.length ++ " bytes").toList := by
  obtain ⟨framed, rfl⟩ := Message.framed_of_encode encoded
  have heads := framed.heads
  obtain ⟨next, line, whole⟩ := arrives.split
  have fits := (holds.header link connected).length_le heads.isLine line
  obtain ⟨outlet, state⟩ := state_sendCommand files options link
  have received : (Reply.receive (sendCommand files options link).state options.buffer).outcome =
      .ok ⟨(Message.mk (utf8 text) attachment).storedHeader, attachment⟩ := by
    have idle := Network.pending_connect connected
    rw [state]
    exact framed.receive idle arrives fits
  rw [printed_run answered holds.allocated connected sent received, Reply.lines_framed framed]

/-- The reply that is printed does not depend on the size of the buffer.

Any two sizes of buffers that hold the header of the reply, with its terminator, give sessions that
end alike and print the same, whatever else comes over the connection and however it is read. A
header of `h` bytes that announces `A` more is collected in a buffer of `b` bytes by one receive and
`⌈(h + A - b) / b⌉` further ones, none of which finds the buffer too small; where the stream ends or
fails they are no more. If all `A` bytes come, the attachment is these bytes, and the buffer holds
the header in its first `h` bytes as the first receive stored it. The reply to an encoded text is
printed as the text and, exactly if it has an attachment, the size of that. -/
theorem run_any_buffer :
    (∀ (network : Network) (files : Files) (options : Options) (other : Nat),
      options.waitGreeting = false → Holds network options options.buffer →
      Holds network options other →
        (run network files options).Agrees
          (run network files { options with buffer := other })) ∧
    (∀ (link : Link) (buffer line : Bytes) (rest : Inbound), link.pending = 0 →
      Header.IsLine line → link.transport.inbound.Arrives line rest →
      line.length ≤ buffer.length →
        let scan := Marker.scan (Header.stored line)
        let further := (line.length + scan.announced - buffer.length) ⌈/⌉ buffer.length
        let collection := link.collect buffer
        Reply.receive link buffer.length = collection.reply ∧
          (∀ ended ∈ collection.receives, ended ≠ .ok .bufferTooSmall) ∧
          collection.receives.length ≤ 1 + further ∧
          ∀ attached last, Header.Heads line attached → rest.Arrives attached last →
            collection.outcome =
                .ok (line.length, (scan.offset line.length).map fun _ => attached) ∧
              collection.buffer.take line.length =
                (link.receive buffer).state.2.take line.length ∧
              (link.receive buffer).state.2.take line.length =
                scan.apply (Header.stored line) ∧
              collection.receives.length = 1 + further ∧
              collection.link = link.leaving last 0) ∧
    (∀ (network : Network) (files : Files) (options : Options) (link : Link) (text : String)
      (attachment : Option Bytes) (wire : Bytes) (rest : Inbound),
      options.waitGreeting = false → Holds network options options.buffer →
      (network.connect options.host options.port options.settings).outcome = .ok link →
      (sendCommand files options link).outcome = .ok () →
      Message.encode ⟨utf8 text, attachment⟩ = .ok wire →
      link.transport.inbound.Arrives wire rest →
        (run network files options).journal.printed =
          text :: (attachment.map fun bytes =>
            "attachment: " ++ toString bytes.length ++ " bytes").toList) :=
  ⟨fun _ _ _ _ => agrees_run, fun _ _ _ _ => collect_line,
    fun _ _ _ _ _ _ _ _ => printed_encoded⟩

/-- A reply of the text `né` with three bytes behind it, read in pieces and with an interruption.
The header fills the smaller buffer, into which the attachment is received afterwards. -/
theorem run_any_buffer_full :
    let wire := [110, 195, 169, 32, 97, 116, 116, 97, 99, 104, 32, 51, 0, 1, 0, 255]
    let inbound : Inbound := ⟨[.data (wire.take 5) (some 2), .failure (.plain .interrupted),
      .data (wire.drop 5) none], true⟩
    let network : Network := { dials := [.accepted inbound none none] }
    let options : Options := ⟨"10.0.0.7", "5000", none, none, 13, 1, false⟩
    let files : Files := fun _ => .ok []
    let link : Link := ⟨Network.transport ⟨⟨10, 0, 0, 7⟩, 5000⟩ inbound none none, 0,
      options.settings⟩
    let collection := link.collect (List.replicate 13 Byte.nul)
    Holds network options 13 ∧ Holds network options 64 ∧
      (run network files options).Agrees (run network files { options with buffer := 64 }) ∧
      (run network files options).journal.printed = ["né", "attachment: 3 bytes"] ∧
      collection.outcome = .ok (13, some [1, 0, 255]) ∧ collection.receives.length = 2 := by
  intro wire inbound network options files link collection
  have port : Network.readPort "5000" = .ok 5000 := by cbv
  have host : Ipv4.read? (utf8 "10.0.0.7") = some ⟨10, 0, 0, 7⟩ := by cbv
  have resolved : network.resolve options.host options.port =
      ⟨.ok ⟨⟨10, 0, 0, 7⟩, 5000⟩, network, []⟩ := by
    simp only [options, Network.resolve, port, host]
  have connected : (network.connect options.host options.port options.settings).outcome =
      .ok link := (Network.outcome_connect options.settings resolved).trans rfl
  have isLine : Header.IsLine (wire.take 13) :=
    ⟨wire.take 12, 0, rfl, by simp [wire, Header.isTerminator, Byte.nul, Byte.newline], rfl⟩
  have holds : ∀ size, 13 ≤ size → size < bufferLimit → Holds network options size := by
    intro size fits small
    refine ⟨small, fun other established => ?_⟩
    obtain rfl := Outcome.ok.inj (connected.symm.trans established)
    exact Inbound.headerFits_of_line isLine (by decide) fits
  have encoded : Message.encode ⟨utf8 "né", some [1, 0, 255]⟩ = .ok wire := by
    have text : utf8 "né" = wire.take 3 := by decide
    rw [text]
    cbv
  have taken : inbound.take 16 = ⟨.ok (), wire, ⟨[.data [] none], true⟩⟩ := by cbv
  have arrives := (Inbound.take_ok_iff.mp taken).2
  obtain ⟨next, header, attached⟩ :=
    Inbound.Arrives.split (show inbound.Arrives (wire.take 13 ++ [1, 0, 255]) _ from arrives)
  have scan : Marker.scan (Header.stored (wire.take 13)) = .found ⟨3, 3⟩ := by decide
  have heads : Header.Heads (wire.take 13) [1, 0, 255] :=
    ⟨isLine, by rw [scan]; simp, by rw [scan]; rfl⟩
  obtain ⟨agrees, collect_line, printed⟩ := run_any_buffer
  obtain ⟨-, -, -, whole⟩ := collect_line link (List.replicate 13 Byte.nul) (wire.take 13) next rfl
    isLine header (by decide)
  obtain ⟨outcome, -, -, count, -⟩ := whole [1, 0, 255] _ heads attached
  rw [scan] at outcome count
  have further : (13 + 3 - 13) ⌈/⌉ 13 = 1 := turns_of_le (by decide) (by decide)
  have holds₁ := holds 13 (by decide) (by decide)
  have holds₂ := holds 64 (by decide) (by decide)
  refine ⟨holds₁, holds₂, agrees network files options 64 rfl holds₁ holds₂, ?_, outcome,
    count.trans (congrArg (1 + ·) further)⟩
  exact printed network files options link "né" (some [1, 0, 255]) wire _ rfl holds₁ connected rfl
    encoded arrives

end CommandLine

end AgentLink
