import AgentLink.Proofs.ReadFailure
import AgentLink.Proofs.ReadingOn
import AgentLink.Proofs.ReceiveFault

/-!
# Messages that come whole

A message is a header with its terminator and as many bytes as the header announces. A receive
that has room for both succeeds exactly where the bytes of a message arrive
(`Heads.newMessage`, `Heads.of_newMessage`), and then nothing of what it stores, reports or leaves
depends on anything else of the stream. What stands in the buffer behind the bytes that are stored
is out of sight: the header is read up to a NUL, and a stored header holds one.
-/
namespace AgentLink

namespace Header

/-- A header with its terminator, and all the bytes it announces. -/
structure Heads (line attached : Bytes) : Prop where
  /-- The line is a header with its terminator. -/
  isLine : IsLine line
  /-- The scan of it does not fault. -/
  sound : Marker.scan (stored line) ≠ .fault
  /-- It announces as many bytes as there are. -/
  counted : attached.length = (Marker.scan (stored line)).announced

/-- A line is the bytes up to and with the first that ends a header, whatever follows. -/
theorem IsLine.line_append {first : Bytes} (isLine : IsLine first) (rest : Bytes) :
    line (first ++ rest) = first := by
  obtain ⟨front, last, rfl, plain, ended⟩ := isLine
  induction front with
  | nil => rw [List.nil_append, List.singleton_append, line, if_pos ended]
  | cons byte front ih =>
    have continues : isTerminator byte = false := plain byte (.head _)
    rw [List.cons_append, List.cons_append, line, continues,
      ih fun other member => plain other (.tail _ member)]
    rfl

end Header

/-- Where the attachment begins that a scan found announced, behind a header of some length. -/
def Marker.Scan.offset (scan : Marker.Scan) (length : Nat) : Option Nat :=
  match scan with
  | .found _ => some length
  | .absent | .fault => none

/-- How many bytes the message has that comes first in some bytes: those of its header, and those
that the header announces. -/
def Message.extent (bytes : Bytes) : Nat :=
  (Header.line bytes).length + (Marker.scan (Header.stored (Header.line bytes))).announced

namespace Header.Heads

variable {line attached : Bytes} {inbound rest : Inbound} {capacity : Nat}

/-- The first message of a stream that begins with a header and what it announces. -/
theorem extent (heads : Heads line attached) (behind : Bytes) :
    Message.extent (line ++ attached ++ behind) = line.length + attached.length := by
  rw [Message.extent, List.append_assoc, heads.isLine.line_append, heads.counted]

/-- A message that arrives is received whole where there is room for it. -/
theorem newMessage (heads : Heads line attached)
    (arrives : inbound.Arrives (line ++ attached) rest)
    (fits : line.length + attached.length ≤ capacity) :
    Reception.newMessage inbound capacity =
      ⟨.ok (.complete (line.length + attached.length)
          ((Marker.scan (stored line)).offset line.length)),
        (Marker.scan (stored line)).apply (stored line) ++ attached, rest, 0, []⟩ := by
  obtain ⟨next, first, later⟩ := arrives.split
  have read : inbound.takeHeader capacity = ⟨.ok true, line, next⟩ :=
    Inbound.takeHeader_ok_iff.mpr
      ⟨heads.isLine, Nat.le_trans (Nat.le_add_right _ _) fits, first⟩
  have counted := heads.counted
  simp only [Reception.newMessage, read, Reception.afterHeader]
  cases scan : Marker.scan (stored line) with
  | absent =>
    rw [scan, Marker.Scan.announced, List.length_eq_zero_iff] at counted
    subst counted
    cases later
    simp [Marker.Scan.apply, Marker.Scan.offset]
  | fault => exact absurd scan heads.sound
  | found marker =>
    rw [scan, Marker.Scan.announced] at counted
    have taken : next.take marker.length = ⟨.ok (), attached, rest⟩ :=
      Inbound.take_ok_iff.mpr ⟨counted, later⟩
    have room : marker.length ≤ capacity - line.length := by omega
    simp only [Reception.announced, Marker.length_cut, length_stored, if_pos room, taken,
      Outcome.map, counted, Marker.Scan.apply, Marker.Scan.offset]

/-- A message that was received whole has arrived, and there was room for it. -/
theorem of_newMessage {length : Nat} {attachment : Option Nat}
    (ended : (Reception.newMessage inbound capacity).outcome =
      .ok (.complete length attachment)) :
    ∃ line attached, Heads line attached ∧ length = line.length + attached.length ∧
      length ≤ capacity ∧
      inbound.Arrives (line ++ attached) (Reception.newMessage inbound capacity).inbound := by
  cases intake : inbound.takeHeader capacity with
  | mk outcome line next =>
    simp only [Reception.newMessage, intake] at ended ⊢
    cases outcome with
    | failed error => contradiction
    | fault => contradiction
    | waiting => contradiction
    | ok whole =>
      cases whole with
      | false => simp at ended
      | true =>
        obtain ⟨isLine, fits, first⟩ := Inbound.takeHeader_ok_iff.mp intake
        simp only [Reception.afterHeader] at ended ⊢
        cases scan : Marker.scan (stored line) with
        | absent =>
          simp only [scan, length_stored, Outcome.ok.injEq, Receipt.complete.injEq] at ended
          obtain ⟨rfl, -⟩ := ended
          refine ⟨line, [], ⟨isLine, by simp [scan], by simp [scan, Marker.Scan.announced]⟩,
            rfl, fits, ?_⟩
          rw [List.append_nil]
          exact first
        | fault => simp [scan] at ended
        | found marker =>
          rw [scan] at ended
          obtain ⟨outcome, -, left, -⟩ :=
            Reception.announced_take next (marker.cut (stored line)) marker capacity
          rw [Marker.length_cut, length_stored] at outcome left
          dsimp only at ended ⊢
          rw [outcome] at ended
          have receipt := Outcome.eq_of_map ended
          rw [Marker.Scan.receipt] at receipt
          split at receipt
          case isFalse => contradiction
          case isTrue room =>
            rw [Nat.min_eq_left room] at ended left
            have succeeded : (next.take marker.length).outcome.isOk = true := by
              rw [← Outcome.isOk_map, ended]
              rfl
            have counted := Inbound.length_take succeeded
            obtain ⟨rfl, -⟩ := Receipt.complete.inj receipt
            refine ⟨line, (next.take marker.length).taken, ⟨isLine, by simp [scan], ?_⟩, ?_, ?_, ?_⟩
            · rw [scan, Marker.Scan.announced, counted]
            · rw [counted]
            · omega
            · rw [left]
              exact first.append (Inbound.arrives_of_take succeeded)

/-- A link that is owed nothing receives a message that arrives, where there is room for it. -/
theorem reception {link : Link} (heads : Heads line attached) (idle : link.pending = 0)
    (arrives : link.transport.inbound.Arrives (line ++ attached) rest)
    (fits : line.length + attached.length ≤ capacity) :
    link.reception capacity =
      ⟨.ok (.complete (line.length + attached.length)
          ((Marker.scan (stored line)).offset line.length)),
        (Marker.scan (stored line)).apply (stored line) ++ attached, rest, 0, []⟩ := by
  have some : 0 < line.length := List.length_pos_iff.mpr heads.isLine.ne_nil
  rw [Link.reception_idle idle (by omega)]
  exact heads.newMessage arrives fits

end Header.Heads

/-- A receive on a link that is owed nothing got a whole message if it completed one. -/
theorem Link.heads_of_reception {link : Link} {capacity length : Nat} {attachment : Option Nat}
    (idle : link.pending = 0)
    (ended : (link.reception capacity).outcome = .ok (.complete length attachment)) :
    ∃ line attached, Header.Heads line attached ∧ length = line.length + attached.length ∧
      length ≤ capacity ∧
      link.transport.inbound.Arrives (line ++ attached) (link.reception capacity).inbound := by
  have room : 0 < capacity := by
    refine Nat.pos_of_ne_zero fun empty => ?_
    simp [reception, Reception.receive, empty] at ended
  rw [reception_idle idle room] at ended ⊢
  exact Header.Heads.of_newMessage ended

/-- A header is stored with a NUL in it, also where a marker was cut off. -/
theorem Header.IsLine.nul_mem_apply {line : Bytes} (isLine : Header.IsLine line)
    (scan : Marker.Scan) : Byte.nul ∈ scan.apply (Header.stored line) := by
  obtain ⟨text, ended, -⟩ := isLine.stored
  have last : Byte.nul ∈ Header.stored line := by simp [ended]
  cases scan with
  | absent => exact last
  | fault => exact last
  | found marker =>
    obtain ⟨index, within, found⟩ := List.mem_iff_getElem.mp last
    refine List.mem_iff_getElem.mpr ⟨index, by simpa [Marker.Scan.apply] using within, ?_⟩
    simp only [Marker.Scan.apply, Marker.cut, List.getElem_set, found, ite_self]

/-- Behind a NUL nothing is seen of what stands in a buffer. -/
theorem takeWhile_append_nul {front : Bytes} (ends : Byte.nul ∈ front) (behind : Bytes) :
    (front ++ behind).takeWhile (· != Byte.nul) = front.takeWhile (· != Byte.nul) := by
  rw [List.takeWhile_append, if_neg]
  intro whole
  have same := (List.takeWhile_prefix (· != Byte.nul)).eq_of_length whole
  have differs := List.takeWhile_eq_self_iff.mp same Byte.nul ends
  simp at differs

end AgentLink
