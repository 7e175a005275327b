import Mathlib
import AgentLink.Proofs.Consumption
import AgentLink.Proofs.Delivery

/-!
# The account of an attachment

Between two headers a link keeps a single number, the count of attachment bytes still owed. It
always comes out even: what has been read of the stream and what is owed are together the place
where the attachment ends, and the caller has been handed what stands between the header and
that place. The receive that reads a header opens the account (`Account.opened`), a receive that
finds bytes owed moves as many from one side to the other (`Account.receive_owed`), and nothing
else that is done with a link touches either. So the account holds over every run until the next
header (`Account.run`), whatever the bytes of the stream say.
-/
namespace AgentLink

/-- What a caller does with a link. -/
inductive Call where
  /-- Receive into a buffer. -/
  | receive (buffer : Bytes)
  /-- Send bytes. -/
  | send (data : Bytes)
  /-- Ask whether a receive would find something. -/
  | isReady

/-- A receive that is made: on what link, and into what buffer. -/
structure Receiving where
  /-- The link. -/
  link : Link
  /-- The buffer. -/
  buffer : Bytes

namespace Receiving

/-- How the receive ends. -/
def outcome (receiving : Receiving) : Outcome Receipt :=
  (receiving.link.receive receiving.buffer).outcome

/-- The receive reads a header. -/
def Opens (receiving : Receiving) : Prop :=
  receiving.link.pending = 0 ∧ receiving.buffer ≠ []

/-- The attachment bytes that the receive hands to the caller. -/
def handed (receiving : Receiving) : Bytes :=
  match receiving.outcome with
  | .ok receipt => (receipt.chunk (receiving.link.receive receiving.buffer).state.2).getD []
  | .failed _ | .fault | .waiting => []

end Receiving

namespace Link

/-- A link after a call, however the call ended. -/
def after (link : Link) : Call → Link
  | .receive buffer => (link.receive buffer).state.1
  | .send data => (link.send data).state
  | .isReady => link

/-- A link after some calls. -/
def run (link : Link) (calls : List Call) : Link := calls.foldl after link

/-- The receives among some calls, each on the link as it was by then. -/
def receivings (link : Link) : List Call → List Receiving
  | [] => []
  | .receive buffer :: calls =>
    ⟨link, buffer⟩ :: receivings (link.after (.receive buffer)) calls
  | .send data :: calls => receivings (link.after (.send data)) calls
  | .isReady :: calls => receivings link calls

/-- How many bytes of a stream have been read, where a link reads the rest of it. -/
def consumed (link : Link) (stream : Bytes) : Nat :=
  stream.length - link.transport.inbound.unread

/-- The bytes that have been read are those in front of what is left. -/
theorem consumed_append {link : Link} {stream front : Bytes}
    (read : front ++ link.transport.inbound.bytes = stream) :
    link.consumed stream = front.length := by
  rw [consumed, Inbound.unread, ← read, List.length_append, Nat.add_sub_cancel]

/-- What is left is the stream behind the bytes that have been read. -/
theorem drop_consumed {link : Link} {stream front : Bytes}
    (read : front ++ link.transport.inbound.bytes = stream) :
    stream.drop (link.consumed stream) = link.transport.inbound.bytes := by
  rw [consumed_append read, ← read, List.drop_left]

/-- No call reads anything but the front of the stream. -/
theorem after_suffix (link : Link) (call : Call) :
    (link.after call).transport.inbound.bytes <:+ link.transport.inbound.bytes := by
  cases call with
  | receive buffer => exact Reception.receive_suffix _ _ _
  | send data => exact List.suffix_refl _
  | isReady => exact List.suffix_refl _

/-- Calls read nothing but the front of the stream. -/
theorem run_suffix (link : Link) (calls : List Call) :
    (link.run calls).transport.inbound.bytes <:+ link.transport.inbound.bytes := by
  induction calls generalizing link with
  | nil => exact List.suffix_refl _
  | cons call calls ih => exact (ih (link.after call)).trans (link.after_suffix call)

end Link

namespace Receiving

variable {receiving : Receiving}

/-- A receive that goes on with an attachment hands over all it stores. -/
theorem handed_continued {inbound : Inbound} {owed : Nat}
    (continued : (receiving.link.reception receiving.buffer.length).Continued inbound owed
      receiving.buffer.length) :
    receiving.handed = (receiving.link.reception receiving.buffer.length).stored := by
  have length := continued.length
  simp only [handed, outcome, Link.outcome_receive, Link.buffer_receive, continued.outcome]
  by_cases fits : owed ≤ receiving.buffer.length
  · rw [Nat.min_eq_left fits] at length
    rw [if_pos fits, Receipt.chunk, Option.map_some, Option.getD_some, overlay, List.drop_zero,
      List.take_left' length]
  · rw [Nat.min_eq_right (Nat.le_of_not_le fits)] at length
    rw [if_neg fits, Receipt.chunk, Option.getD_some, List.drop_zero,
      overlay_full (Nat.le_of_eq length.symm)]

/-- A receive that opens a message hands over what it reads behind the header. -/
theorem handed_opened {inbound : Inbound} {line attached : Bytes}
    (opened : (receiving.link.reception receiving.buffer.length).Opened inbound
      receiving.buffer.length line attached) : receiving.handed = attached := by
  obtain ⟨header, headerLength, stored⟩ := opened.header
  have length := opened.length
  simp only [handed, outcome, Link.outcome_receive, Link.buffer_receive, opened.outcome, stored,
    ← headerLength] at length ⊢
  have unannounced : attached.length = 0 → [] = attached := fun empty =>
    (List.length_eq_zero_iff.mp empty).symm
  cases scan : Marker.scan (Header.stored line) with
  | absent =>
    rw [scan] at length
    exact unannounced (by simpa [Marker.Scan.announced] using length)
  | fault =>
    rw [scan] at length
    exact unannounced (by simpa [Marker.Scan.announced] using length)
  | found marker =>
    rw [scan] at length
    simp only [Marker.Scan.announced, Marker.Scan.receipt] at length ⊢
    by_cases fits : marker.length ≤ receiving.buffer.length - header.length
    · rw [Nat.min_eq_left fits] at length
      rw [if_pos fits, ← length, Receipt.chunk_overlay, Option.getD_some]
    · rw [Nat.min_eq_right (Nat.le_of_not_le fits)] at length
      have full : receiving.buffer.length ≤ (header ++ attached).length := by
        rw [List.length_append, length]
        omega
      rw [if_neg fits, Receipt.chunk, Option.getD_some, overlay_full full, List.drop_left]

end Receiving

/-- The account of a link that reads an attachment standing between two places of a stream: what
has been handed to the caller is what has been read behind the first, and with what is owed it
reaches to the second. -/
structure Account (stream : Bytes) (first last : Nat) (link : Link) (handed : Bytes) : Prop where
  /-- What has been handed over has been read, behind the first place. -/
  read : ∃ front, front.length = first ∧
    front ++ (handed ++ link.transport.inbound.bytes) = stream
  /-- What has been handed over and what is owed reach to the last place. -/
  balance : first + handed.length + link.pending = last

namespace Account

variable {stream handed : Bytes} {first last : Nat} {link : Link}

/-- What has been handed over ends where reading stopped. -/
theorem consumed (account : Account stream first last link handed) :
    link.consumed stream = first + handed.length := by
  obtain ⟨front, length, read⟩ := account.read
  rw [← List.append_assoc] at read
  rw [Link.consumed_append read, List.length_append, length]

/-- What has been handed over is what the stream holds up to there. -/
theorem handed_eq (account : Account stream first last link handed) :
    handed = (stream.take (link.consumed stream)).drop first := by
  obtain ⟨front, length, read⟩ := account.read
  have stop : (front ++ handed).length = first + handed.length := by
    rw [List.length_append, length]
  rw [account.consumed, ← stop, ← read, ← List.append_assoc, List.take_left, ← length,
    List.drop_left]

/-- What is left to be read stands behind that. -/
theorem left_eq (account : Account stream first last link handed) :
    stream.drop (link.consumed stream) = link.transport.inbound.bytes := by
  obtain ⟨front, -, read⟩ := account.read
  rw [← List.append_assoc] at read
  exact Link.drop_consumed read

/-- A receive into an empty buffer leaves the account as it is. -/
theorem receive_empty (account : Account stream first last link handed) :
    Account stream first last (link.after (.receive []))
      (handed ++ (Receiving.mk link []).handed) := by
  have nothing : (Receiving.mk link []).handed = [] := rfl
  rw [nothing, List.append_nil]
  exact ⟨account.read, account.balance⟩

/-- A receive that goes on with the attachment hands over what it takes off what is owed. -/
theorem receive_owed (account : Account stream first last link handed) {buffer : Bytes}
    (owed : link.pending ≠ 0) (room : buffer ≠ [])
    (succeeded : (Receiving.mk link buffer).outcome.isOk = true) :
    Account stream first last (link.after (.receive buffer))
      (handed ++ (Receiving.mk link buffer).handed) := by
  have continued : (link.reception buffer.length).Continued _ _ _ :=
    Link.continued_reception owed (List.length_pos_iff.mpr room) succeeded
  obtain ⟨front, length, read⟩ := account.read
  have balance := account.balance
  have taken := continued.length
  have pending : (link.after (.receive buffer)).pending = link.pending - buffer.length :=
    continued.pending
  rw [Receiving.handed_continued continued]
  refine ⟨⟨front, length, ?_⟩, ?_⟩
  · rw [List.append_assoc]
    show front ++ (handed ++ ((link.reception buffer.length).stored ++
      (link.reception buffer.length).inbound.bytes)) = stream
    rw [continued.bytes, read]
  · rw [List.length_append, taken, pending]
    omega

/-- The account holds over every run of calls in which receives succeed and read no header. -/
theorem run (account : Account stream first last link handed) {calls : List Call}
    (succeed : ∀ receiving ∈ link.receivings calls, receiving.outcome.isOk = true)
    (unopened : ∀ receiving ∈ link.receivings calls, ¬receiving.Opens) :
    Account stream first last (link.run calls)
      (handed ++ (link.receivings calls).flatMap Receiving.handed) := by
  induction calls generalizing link handed with
  | nil =>
    rw [Link.receivings, List.flatMap_nil, List.append_nil]
    exact account
  | cons call calls ih =>
    cases call with
    | receive buffer =>
      have now : Account stream first last (link.after (.receive buffer))
          (handed ++ (Receiving.mk link buffer).handed) := by
        by_cases room : buffer = []
        · subst room
          exact account.receive_empty
        · have owed : link.pending ≠ 0 := fun idle => unopened _ (.head _) ⟨idle, room⟩
          exact account.receive_owed owed room (succeed _ (.head _))
      have later := ih now (fun receiving member => succeed receiving (.tail _ member))
        (fun receiving member => unopened receiving (.tail _ member))
      rw [List.append_assoc] at later
      exact later
    | send data =>
      have sent : Account stream first last (link.after (.send data)) handed :=
        ⟨account.read, account.balance⟩
      exact ih sent succeed unopened
    | isReady => exact ih account succeed unopened

/-- What the next receive does that finds bytes owed. -/
theorem next (account : Account stream first last link handed) {buffer : Bytes}
    (owed : link.pending ≠ 0) (room : buffer ≠ [])
    (succeeded : (link.receive buffer).outcome.isOk = true) :
    (link.receive buffer).outcome = .ok
        (if link.pending ≤ buffer.length then .complete link.pending (some 0)
          else .attachmentPending link.pending 0) ∧
      (link.receive buffer).state.2 =
        (stream.drop (link.consumed stream)).take (min link.pending buffer.length) ++
          buffer.drop (min link.pending buffer.length) ∧
      (link.receive buffer).state.1.consumed stream =
        link.consumed stream + min link.pending buffer.length := by
  have continued : (link.reception buffer.length).Continued _ _ _ :=
    Link.continued_reception owed (List.length_pos_iff.mpr room) succeeded
  have after : Account stream first last (link.receive buffer).state.1 _ :=
    account.receive_owed owed room succeeded
  refine ⟨continued.outcome, ?_, ?_⟩
  · rw [account.left_eq, ← continued.bytes, ← continued.length, List.take_left]
    rfl
  · rw [after.consumed, account.consumed, Receiving.handed_continued continued,
      List.length_append, continued.length, Nat.add_assoc]

/-- A receive that opens a message opens the account of its attachment. -/
theorem opened {link : Link} {buffer line attached front : Bytes}
    (opened : (link.reception buffer.length).Opened link.transport.inbound buffer.length line
      attached) (read : front ++ link.transport.inbound.bytes = stream) :
    Account stream (front.length + line.length)
      (front.length + line.length + (Marker.scan (Header.stored line)).announced)
      (link.after (.receive buffer)) (Receiving.mk link buffer).handed := by
  have length := opened.length
  have pending : (link.after (.receive buffer)).pending = _ := opened.pending
  rw [Receiving.handed_opened opened]
  refine ⟨⟨front ++ line, List.length_append, ?_⟩, ?_⟩
  · rw [List.append_assoc, ← read, ← opened.bytes]
    rfl
  · rw [length, pending]
    omega

end Account

/-- The account of an attachment comes out even from the receive that read its header up to the
next that reads one. After whatever calls, let a header begin at `start` of a stream of whatever
bytes, and let `line` be its bytes up to and with the first terminator. What has been read and
what is owed then reach to the end of the attachment that the header announces, and the caller
has been handed what stands between the header and what has not been read. A receive that finds
bytes owed copies as many as it has room for. -/
theorem Link.account_balances {link : Link} {before after : List Call} {buffer : Bytes}
    {receipt : Receipt} (idle : (link.run before).pending = 0) (room : buffer ≠ [])
    (received : ((link.run before).receive buffer).outcome = .ok receipt)
    (stores : receipt ≠ .bufferTooSmall)
    (succeed : ∀ receiving ∈ ((link.run before).after (.receive buffer)).receivings after,
      receiving.outcome.isOk = true)
    (unopened : ∀ receiving ∈ ((link.run before).after (.receive buffer)).receivings after,
      ¬receiving.Opens) :
    let stream := link.transport.inbound.bytes
    let start := (link.run before).consumed stream
    let line := Header.line (stream.drop start)
    let scan := Marker.scan (Header.stored line)
    let last := start + line.length + scan.announced
    let current := link.run (before ++ .receive buffer :: after)
    let position := current.consumed stream
    let handed := ((link.run before).receivings (.receive buffer :: after)).flatMap
      Receiving.handed
    receipt.header = line.length ∧
      ((link.run before).receive buffer).state.2.take line.length =
        scan.apply (Header.stored line) ∧
      position + current.pending = last ∧ position ≤ last ∧
      handed = (stream.take position).drop (start + line.length) ∧
      ∀ next, next ≠ [] → current.pending ≠ 0 → (current.receive next).outcome.isOk = true →
        (current.receive next).outcome = .ok
            (if current.pending ≤ next.length then .complete current.pending (some 0)
              else .attachmentPending current.pending 0) ∧
          (current.receive next).state.2 =
            (stream.drop position).take (min current.pending next.length) ++
              next.drop (min current.pending next.length) ∧
          (current.receive next).state.1.consumed stream =
            position + min current.pending next.length := by
  intro stream start line scan last current position handed
  obtain ⟨front, read⟩ := link.run_suffix before
  have begins : start = front.length := consumed_append read
  have rest : stream.drop start = (link.run before).transport.inbound.bytes := drop_consumed read
  obtain ⟨found, attached, opened⟩ :=
    opened_reception idle (List.length_pos_iff.mpr room) received stores
  have same : found = line := by rw [opened.ends, ← rest]
  rw [same] at opened
  have account : Account stream (start + line.length) last current handed := by
    have opening := Account.opened opened read
    rw [← begins] at opening
    have running := opening.run succeed unopened
    have split : current = ((link.run before).after (.receive buffer)).run after := by
      simp only [current, run, List.foldl_append, List.foldl_cons]
    rw [split]
    exact running
  have reached : position + current.pending = last := by
    rw [← account.balance, ← account.consumed]
  refine ⟨?_, ?_, reached, reached ▸ Nat.le_add_right _ _, account.handed_eq, ?_⟩
  · obtain rfl : receipt = scan.receipt line.length buffer.length :=
      Outcome.ok.inj (received.symm.trans opened.outcome)
    exact scan.header_receipt _ _
  · have length : (scan.apply (Header.stored line)).length = line.length := by
      rw [Marker.Scan.length_apply, Header.length_stored]
    rw [buffer_receive, opened.stored, overlay, List.append_assoc, List.take_left' length]
  · intro next some owed succeeded
    exact account.next owed some succeeded

/-- A link whose sends fail. Its stream brings the message `hi` and a header that announces five
bytes, those bytes, and one message more. -/
def Link.oneWay : Link where
  transport := {
    inbound := ⟨[.data [104, 105, 10, 97, 32, 97] (some 2), .failure (.plain .interrupted),
      .data [116, 116, 97, 99, 104, 32, 53, 0, 0, 10, 97] none, .data [32, 48, 98, 0] none], true⟩
    outlet := ⟨fun _ => .refuse (.plain .brokenPipe), 0⟩ }

/-- A NUL, a newline and a letter have been received of the attachment in two pieces, with a
failed send and an empty buffer between them; the next receive gets the rest. -/
theorem Link.account_balances_oneWay :
    let before := [.receive [238, 238, 238], .send [112]]
    let buffer := List.replicate 12 238
    let after := [.isReady, .receive [], .send [112], .receive [238, 238]]
    let current := oneWay.run (before ++ .receive buffer :: after)
    ((oneWay.run before).receive buffer).outcome = .ok (.attachmentPending 16 11) ∧
      current.consumed oneWay.transport.inbound.bytes = 17 ∧ current.pending = 2 ∧
      ((oneWay.run before).receivings (.receive buffer :: after)).flatMap Receiving.handed =
        [0, 10, 97] ∧
      (current.receive [238, 238, 238]).outcome = .ok (.complete 2 (some 0)) ∧
      (current.receive [238, 238, 238]).state.2 = [32, 48, 238] := by
  intro before buffer after current
  have idle : (oneWay.run before).pending = 0 := by cbv
  have room : buffer ≠ [] := List.cons_ne_nil _ _
  have received : ((oneWay.run before).receive buffer).outcome =
      .ok (.attachmentPending 16 11) := by cbv
  have succeed : (((oneWay.run before).after (.receive buffer)).receivings after).all
      (fun receiving => receiving.outcome.isOk) = true := by cbv
  have owing : (((oneWay.run before).after (.receive buffer)).receivings after).all
      (fun receiving => receiving.link.pending != 0 || receiving.buffer.isEmpty) = true := by cbv
  have unopened : ∀ receiving ∈ ((oneWay.run before).after (.receive buffer)).receivings after,
      ¬receiving.Opens := by
    intro receiving member opens
    have owed := List.all_eq_true.mp owing receiving member
    simp [opens.1, opens.2] at owed
  have start : (oneWay.run before).consumed oneWay.transport.inbound.bytes = 3 := by cbv
  have position : current.consumed oneWay.transport.inbound.bytes = 17 := by cbv
  have owed : current.pending = 2 := by cbv
  have some : current.pending ≠ 0 := by
    rw [owed]
    decide
  have continues : (current.receive [238, 238, 238]).outcome.isOk = true := by cbv
  obtain ⟨-, -, -, -, handed, next⟩ := account_balances idle room received (by decide)
    (List.all_eq_true.mp succeed) unopened
  obtain ⟨outcome, stored, -⟩ := next [238, 238, 238] (List.cons_ne_nil _ _) some continues
  rw [owed] at outcome stored
  rw [position] at handed stored
  rw [start] at handed
  exact ⟨received, position, owed, handed, outcome, stored⟩

end AgentLink
