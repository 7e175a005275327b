import AgentLink.Proofs.Accounting
import AgentLink.Proofs.ReadFailure

/-!
# Receives that are broken off

A link says how many bytes of an attachment are still to be received. After a receive that
succeeds this is the count of the bytes that have not been read. A receive that fails within an
attachment has read some of the bytes it wanted and not the others, and keeps no account of
which: the count it leaves is the one it had set before it began to read. `pending_eq_unread_iff`
says exactly when the count stays true over a sequence of calls, and that the next receive then
stays within the attachment; `pending_brokenOff` shows a link that has lost count.
-/
namespace AgentLink

namespace Receiving

/-- How many bytes the receive takes off the stream. -/
def consumed (receiving : Receiving) : Nat :=
  receiving.link.transport.inbound.unread -
    (receiving.link.receive receiving.buffer).state.1.transport.inbound.unread

/-- The attachment that the receive finds announced, if it reads a header that ends in a marker:
the length of the header and the count of attachment bytes. -/
def announcement? (receiving : Receiving) : Option (Nat × Nat) :=
  let line := receiving.link.transport.inbound.takeHeader receiving.buffer.length
  if receiving.link.pending = 0 ∧ line.outcome = .ok true then
    match Marker.scan (Header.stored line.taken) with
    | .found marker => some (line.taken.length, marker.length)
    | .absent | .fault => none
  else none

/-- How many bytes of the attachment announced last are unread after the receive, where so many
were unread before. -/
def unread (receiving : Receiving) (before : Nat) : Nat :=
  match receiving.announcement? with
  | some (header, count) => count - (receiving.consumed - header)
  | none => before - receiving.consumed

/-- The receive is broken off within an attachment: it fails once it has found one announced, or
while it goes on with one. A receive that has no room for the rest of its attachment and fails
before its first byte is not broken off. -/
def BreaksOff (receiving : Receiving) : Prop :=
  receiving.outcome.isOk = false ∧
    (receiving.announcement? ≠ none ∨ receiving.link.pending ≠ 0 ∧
      (receiving.link.pending ≤ receiving.buffer.length ∨ receiving.consumed ≠ 0))

end Receiving

/-- How many bytes of the attachment announced last are unread after some calls. Of a link that
is in the middle of an attachment, as many are unread at first as it says are pending. -/
def Link.unread (link : Link) (calls : List Call) : Nat :=
  (link.receivings calls).foldl (fun before receiving => receiving.unread before) link.pending

namespace Receiving

variable {link : Link} {buffer : Bytes}

/-- A receive that goes on with an attachment finds none announced. -/
theorem announcement?_owed (owed : link.pending ≠ 0) :
    (Receiving.mk link buffer).announcement? = none := by
  simp [announcement?, owed]

/-- What a receive takes off the stream is what its reception does. -/
theorem consumed_eq {taken : Bytes}
    (read : taken ++ (link.reception buffer.length).inbound.bytes =
      link.transport.inbound.bytes) :
    (Receiving.mk link buffer).consumed = taken.length := by
  rw [consumed, Link.inbound_receive, Inbound.unread, Inbound.unread, ← read, List.length_append,
    Nat.add_sub_cancel]

/-- The count that a receive leaves which goes on with an attachment is true unless the receive
breaks off. -/
theorem pending_owed (owed : link.pending ≠ 0) (room : 0 < buffer.length) :
    (link.reception buffer.length).pending = (Receiving.mk link buffer).unread link.pending ↔
      ¬(Receiving.mk link buffer).BreaksOff := by
  have none : (Receiving.mk link buffer).announcement? = none := announcement?_owed owed
  obtain ⟨ended, -, inbound, pending⟩ :=
    Reception.drain_take link.transport.inbound link.pending buffer.length
  rw [← Link.reception_owed owed room] at ended inbound pending
  have consumed : (Receiving.mk link buffer).consumed =
      (link.transport.inbound.take (min link.pending buffer.length)).taken.length := by
    refine consumed_eq ?_
    rw [inbound]
    exact Inbound.take_bytes _ _
  have outcome : (Receiving.mk link buffer).outcome.isOk = _ :=
    (congrArg Outcome.isOk ended).trans (Outcome.isOk_map _)
  have whole := @Inbound.length_take link.transport.inbound (min link.pending buffer.length)
  have short := @Inbound.length_take_lt link.transport.inbound (min link.pending buffer.length)
  rw [unread, none, BreaksOff, none, outcome, consumed, pending]
  generalize link.transport.inbound.take (min link.pending buffer.length) = intake at whole short ⊢
  generalize intake.taken.length = count at whole short ⊢
  by_cases fits : link.pending ≤ buffer.length
  · rw [Nat.min_eq_left fits] at whole short
    cases succeeded : intake.outcome.isOk with
    | true => simp [fits, whole succeeded]
    | false =>
      have less : count < link.pending := short succeeded
      simp only [fits, ↓reduceIte, ne_eq, not_true_eq_false, owed, not_false_eq_true, true_or,
        and_self, or_true, iff_false]
      omega
  · rw [Nat.min_eq_right (Nat.le_of_not_le fits)] at whole short
    cases succeeded : intake.outcome.isOk with
    | true => simp [fits, whole succeeded]
    | false =>
      have less : count < buffer.length := short succeeded
      simp only [fits, owed, ne_eq, not_false_eq_true, not_true_eq_false,
        Bool.false_eq_true, ↓reduceIte, true_and, false_or, Decidable.not_not]
      omega

/-- An announcement is found at the end of a header that was read whole. -/
theorem header_of_announcement? {header count : Nat}
    (announced : (Receiving.mk link buffer).announcement? = some (header, count)) :
    ∃ line rest marker, link.transport.inbound.takeHeader buffer.length = ⟨.ok true, line, rest⟩ ∧
      Marker.scan (Header.stored line) = .found marker ∧ header = line.length ∧
      count = marker.length := by
  rw [announcement?] at announced
  cases intake : link.transport.inbound.takeHeader buffer.length with
  | mk outcome line rest =>
    simp only [intake] at announced
    split at announced
    · rename_i opens
      obtain ⟨-, rfl⟩ := opens
      split at announced
      · rename_i marker found
        obtain ⟨rfl, rfl⟩ := Prod.mk.inj (Option.some.inj announced)
        exact ⟨line, rest, marker, rfl, found, rfl, rfl⟩
      · contradiction
      · contradiction
    · contradiction

/-- A receive that finds no attachment announced leaves nothing pending. -/
theorem pending_unannounced (idle : link.pending = 0)
    (unannounced : (Receiving.mk link buffer).announcement? = none) :
    (Reception.newMessage link.transport.inbound buffer.length).pending = 0 := by
  cases intake : link.transport.inbound.takeHeader buffer.length with
  | mk outcome line rest =>
    simp only [announcement?, intake, idle, true_and] at unannounced
    simp only [Reception.newMessage, intake]
    cases outcome with
    | ok whole =>
      cases whole with
      | false => rfl
      | true =>
        simp only [Reception.afterHeader]
        cases scan : Marker.scan (Header.stored line) with
        | absent => rfl
        | fault => rfl
        | found marker => simp [scan] at unannounced
    | failed error => rfl
    | fault => rfl
    | waiting => rfl

/-- The count that a receive leaves which reads a header is true unless the receive breaks off
in the attachment announced there. -/
theorem pending_idle (idle : link.pending = 0) (room : 0 < buffer.length) :
    (link.reception buffer.length).pending = (Receiving.mk link buffer).unread link.pending ↔
      ¬(Receiving.mk link buffer).BreaksOff := by
  rw [BreaksOff, unread, idle]
  cases announced : (Receiving.mk link buffer).announcement? with
  | none =>
    rw [Link.reception_idle idle room, pending_unannounced idle announced]
    simp
  | some announcement =>
    obtain ⟨header, count⟩ := announcement
    obtain ⟨line, rest, marker, read, found, rfl, rfl⟩ := header_of_announcement? announced
    have bytes := link.transport.inbound.takeHeader_bytes buffer.length
    rw [read] at bytes
    have received : link.reception buffer.length = Reception.announced rest
        (marker.cut (Header.stored line)) marker buffer.length := by
      rw [Link.reception_idle idle room]
      simp only [Reception.newMessage, read, Reception.afterHeader, found]
    obtain ⟨ended, -, inbound, pending⟩ := Reception.announced_take rest
      (marker.cut (Header.stored line)) marker buffer.length
    rw [← received, Marker.length_cut, Header.length_stored] at ended inbound pending
    have consumed : (Receiving.mk link buffer).consumed = (line ++ (rest.take
        (min marker.length (buffer.length - line.length))).taken).length := by
      refine consumed_eq ?_
      rw [inbound, ← bytes, List.append_assoc, Inbound.take_bytes]
    have outcome : (Receiving.mk link buffer).outcome.isOk = _ :=
      (congrArg Outcome.isOk ended).trans (Outcome.isOk_map _)
    have whole := @Inbound.length_take rest (min marker.length (buffer.length - line.length))
    have short := @Inbound.length_take_lt rest (min marker.length (buffer.length - line.length))
    rw [outcome, consumed, pending, List.length_append]
    generalize rest.take (min marker.length (buffer.length - line.length)) = intake at whole short ⊢
    generalize intake.taken.length = count at whole short ⊢
    cases succeeded : intake.outcome.isOk with
    | true =>
      have all := whole succeeded
      simp only [↓reduceIte, Nat.add_sub_cancel_left, Bool.true_eq_false, false_and,
        not_false_eq_true, iff_true]
      omega
    | false =>
      have less := short succeeded
      simp only [Bool.false_eq_true, ↓reduceIte, Nat.add_sub_cancel_left, ne_eq, reduceCtorEq,
        not_false_eq_true, true_or, and_self, not_true_eq_false, iff_false]
      omega

/-- The count that a receive leaves is true unless the receive breaks off. -/
theorem pending_receive_iff (link : Link) (buffer : Bytes) :
    (link.after (.receive buffer)).pending = (Receiving.mk link buffer).unread link.pending ↔
      ¬(Receiving.mk link buffer).BreaksOff := by
  by_cases room : 0 < buffer.length
  · by_cases idle : link.pending = 0
    · exact pending_idle idle room
    · exact pending_owed idle room
  · obtain rfl : buffer = [] := List.length_eq_zero_iff.mp (by omega)
    have none : (Receiving.mk link []).announcement? = none := by
      simp [announcement?, Inbound.takeHeader]
    have nothing : (Receiving.mk link []).consumed = 0 := Nat.sub_self _
    have after : (link.after (.receive [])).pending = link.pending := rfl
    have ended : (Receiving.mk link []).outcome.isOk = true := rfl
    simp [BreaksOff, unread, none, nothing, after, ended]

end Receiving

namespace Link

/-- A link is right after some calls, and after each of them. -/
def KeepsCount (link : Link) (calls : List Call) : Prop :=
  ∀ made, made <+: calls → (link.run made).pending = link.unread made

variable {link : Link}

/-- A call that leaves a true count is followed as if the link began with it. -/
theorem keepsCount_cons {call : Call} {calls : List Call}
    (now : ∀ made, link.unread (call :: made) = (link.after call).unread made) :
    link.KeepsCount (call :: calls) ↔ (link.after call).KeepsCount calls := by
  constructor
  · intro keeps made front
    rw [← now]
    exact keeps (call :: made) (List.cons_prefix_cons.mpr ⟨rfl, front⟩)
  · intro keeps made front
    rcases List.prefix_cons_iff.mp front with rfl | ⟨more, rfl, shorter⟩
    · rfl
    · rw [now]
      exact keeps more shorter

/-- A link keeps count over some calls exactly when no receive among them is broken off. -/
theorem keepsCount_iff (link : Link) (calls : List Call) :
    link.KeepsCount calls ↔ ∀ receiving ∈ link.receivings calls, ¬receiving.BreaksOff := by
  induction calls generalizing link with
  | nil =>
    refine ⟨fun _ receiving member => absurd member List.not_mem_nil, fun _ made front => ?_⟩
    obtain rfl := List.prefix_nil.mp front
    rfl
  | cons call calls ih =>
    cases call with
    | receive buffer =>
      have step := Receiving.pending_receive_iff link buffer
      by_cases broken : (Receiving.mk link buffer).BreaksOff
      · refine iff_of_false ?_ fun whole => whole _ (.head _) broken
        intro keeps
        exact step.mp (keeps [.receive buffer] (List.cons_prefix_cons.mpr ⟨rfl, List.nil_prefix⟩))
          broken
      · have now : ∀ made, link.unread (.receive buffer :: made) =
            (link.after (.receive buffer)).unread made := by
          intro made
          rw [unread, unread, receivings, List.foldl_cons, step.mpr broken]
        rw [keepsCount_cons now, ih, receivings, List.forall_mem_cons]
        exact ⟨fun later => ⟨broken, later⟩, fun all => all.2⟩
    | send data => rw [keepsCount_cons fun _ => rfl, ih, receivings]
    | isReady =>
      rw [keepsCount_cons fun _ => rfl, ih, receivings]
      rfl

/-- A receive on a link that is owed bytes stores the next of them as they come, and takes no
byte behind them, however it ends. -/
theorem receive_within {buffer : Bytes} (owed : link.pending ≠ 0) (room : buffer ≠ []) :
    ∃ taken, taken.length ≤ link.pending ∧
      taken ++ (link.receive buffer).state.1.transport.inbound.bytes =
        link.transport.inbound.bytes ∧
      (link.receive buffer).state.2 = overlay taken buffer ∧
      ∀ receipt, (link.receive buffer).outcome = .ok receipt →
        receipt = Reception.continuation link.pending buffer.length := by
  have drained := reception_owed owed (List.length_pos_iff.mpr room)
  obtain ⟨outcome, stored, inbound, -⟩ :=
    Reception.drain_take link.transport.inbound link.pending buffer.length
  rw [inbound_receive, buffer_receive, outcome_receive, drained, outcome, stored, inbound]
  refine ⟨_, ?_, Inbound.take_bytes _ _, rfl, ?_⟩
  · exact Nat.le_trans (Inbound.length_take_le _ _) (Nat.min_le_left _ _)
  · intro receipt received
    exact Outcome.eq_of_map received

/-- What a link says is pending is what is unread of the attachment announced last, after each of
some calls, exactly when no receive among them is broken off within an attachment. Where it is
and bytes are unread, the next receive stays within the attachment however it ends: it stores the
next bytes as they come and reads none behind the last, and one that succeeds says so. -/
theorem pending_eq_unread_iff (link : Link) (calls : List Call) :
    let current := link.run calls
    ((∀ made, made <+: calls → (link.run made).pending = link.unread made) ↔
        ∀ receiving ∈ link.receivings calls, ¬receiving.BreaksOff) ∧
      (current.pending = link.unread calls → link.unread calls ≠ 0 → ∀ buffer, buffer ≠ [] →
        ∃ taken, taken.length ≤ link.unread calls ∧
          taken ++ (current.receive buffer).state.1.transport.inbound.bytes =
            current.transport.inbound.bytes ∧
          (current.receive buffer).state.2 = overlay taken buffer ∧
          ∀ receipt, (current.receive buffer).outcome = .ok receipt →
            receipt = Reception.continuation (link.unread calls) buffer.length) := by
  intro current
  refine ⟨link.keepsCount_iff calls, ?_⟩
  intro counted owed buffer room
  rw [← counted] at owed ⊢
  exact receive_within owed room

/-- A read that fails behind two of five announced bytes breaks off a receive that had room for
all of them. Nothing is pending then, though three bytes are unread, and the next receive reads
these and the message behind them as one header. -/
theorem pending_brokenOff :
    let link := ofArrivals [
      .data [97, 32, 97, 116, 116, 97, 99, 104, 32, 53, 0, 72, 69] none, .failure (.numbered 104),
      .data [76, 76, 79, 110, 101, 120, 116, 0] none]
    let calls := [.receive (List.replicate 64 238)]
    let current := link.run calls
    let next := current.receive (List.replicate 8 238)
    (link.receive (List.replicate 64 238)).outcome = .failed (.transport (.numbered 104)) ∧
      current.pending = 0 ∧ link.unread calls = 3 ∧
      next.outcome = .ok (.complete 8 none) ∧
      next.state.2 = [76, 76, 79, 110, 101, 120, 116, 0] := by
  refine ⟨?_, ?_, ?_, ?_, ?_⟩ <;> cbv

end Link

end AgentLink
