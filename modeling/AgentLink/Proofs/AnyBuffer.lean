import Mathlib.Algebra.Order.Floor.Div
import AgentLink.Proofs.Collection
import AgentLink.Proofs.ReadingOn
import AgentLink.Proofs.ReceiveFault

/-!
# Collecting in any buffer

How many receives it takes to collect a reply depends on the buffer. What is collected does not: it
is what reading the announced bytes at once would have given, whether they arrive or not. What is
left of an attachment is collected by induction on the bytes that are owed, of which every receive
but the last takes a bufferful (`drains_collectRest`). The first receive has read the header and
as much of the attachment as there is room for behind it (`collects`).
-/
namespace AgentLink

namespace Outcome

variable {α β γ : Type} {outcome : Outcome α}

/-- Changing a value twice changes it once by both. -/
@[simp] theorem map_map (first : α → β) (second : β → γ) :
    (outcome.map first).map second = outcome.map (second ∘ first) := by
  cases outcome <;> rfl

/-- It matters only how the value is changed that there is. -/
theorem map_congr {first second : α → β}
    (same : ∀ value, outcome = .ok value → first value = second value) :
    outcome.map first = outcome.map second := by
  cases outcome with
  | ok value => exact congrArg ok (same value rfl)
  | failed error => rfl
  | fault => rfl
  | waiting => rfl

/-- Where there is no value, it does not matter how it would be changed. -/
theorem map_eq_map (failed : outcome.isOk = false) (first second : α → β) :
    outcome.map first = outcome.map second :=
  map_congr fun value ended => by simp [ended, isOk] at failed

end Outcome

/-- A receive that is the last did not find its buffer too small unless it said so. -/
theorem Collection.sized_last {α : Type} {received : Run (Link × Bytes) Receipt}
    {outcome : Outcome α} (sized : received.outcome ≠ .ok .bufferTooSmall) :
    ∀ ended ∈ (Collection.last received outcome).receives, ended ≠ .ok .bufferTooSmall :=
  List.forall_mem_singleton.mpr sized

/-- A link of which another part of the stream is still to arrive, and other bytes are owed. -/
def Link.leaving (link : Link) (rest : Inbound) (owed : Nat) : Link :=
  { link with transport := { link.transport with inbound := rest }, pending := owed }

/-- What is left to be collected is collected whatever buffer there is: it comes to what reading
all bytes that are owed at once comes to. -/
structure Collection.Drains (collection : Collection Bytes) (link : Link)
    (buffer collected : Bytes) : Prop where
  /-- It comes to what reading all that is owed at once does, behind what was collected before. -/
  outcome : collection.outcome = (link.transport.inbound.take link.pending).outcome.map
    fun _ => collected ++ (link.transport.inbound.take link.pending).taken
  /-- No receive finds the buffer too small. -/
  sized : ∀ ended ∈ collection.receives, ended ≠ .ok .bufferTooSmall
  /-- No more receives are made than all that is owed takes. -/
  bounded : collection.receives.length ≤ link.pending ⌈/⌉ buffer.length
  /-- Where all of it arrives, it takes so many receives, and nothing is owed. -/
  whole : (link.transport.inbound.take link.pending).outcome.isOk = true →
    collection.receives.length = link.pending ⌈/⌉ buffer.length ∧
      collection.link = link.leaving (link.transport.inbound.take link.pending).rest 0
  /-- The buffer keeps its length. -/
  length : collection.buffer.length = buffer.length

/-- What fits a room is received in one turn. -/
theorem turns_of_le {owed room : Nat} (some : owed ≠ 0) (fits : owed ≤ room) :
    owed ⌈/⌉ room = 1 := by
  rw [Nat.ceilDiv_eq_add_pred_div]
  exact Nat.div_eq_of_lt_le (by omega) (by omega)

/-- What does not fit a room takes one turn more than what is left of it after one. -/
theorem turns_of_lt {owed room : Nat} (positive : 0 < room) (exceeds : room < owed) :
    owed ⌈/⌉ room = (owed - room) ⌈/⌉ room + 1 := by
  rw [Nat.ceilDiv_eq_add_pred_div, Nat.ceilDiv_eq_add_pred_div,
    Nat.div_eq_sub_div positive (by omega)]
  congr 2
  omega

/-- What is owed takes at least one turn. -/
theorem turns_pos {owed room : Nat} (some : owed ≠ 0) (positive : 0 < room) :
    1 ≤ owed ⌈/⌉ room := by
  rcases Nat.lt_or_ge room owed with exceeds | fits
  · rw [turns_of_lt positive exceeds]
    exact Nat.le_add_left _ _
  · exact Nat.le_of_eq (turns_of_le some fits).symm

namespace Link

variable {link : Link} {buffer collected : Bytes}

/-- A link that is owed nothing is what it leaves with all of its stream and nothing owed. -/
theorem leaving_idle (idle : link.pending = 0) :
    link.leaving link.transport.inbound 0 = link := by
  rw [leaving, ← idle]

/-- What a receive leaves. -/
theorem state_receive (link : Link) (buffer : Bytes) :
    (link.receive buffer).state =
      (link.leaving (link.reception buffer.length).inbound (link.reception buffer.length).pending,
        overlay (link.reception buffer.length).stored buffer) := rfl

/-- A receive that does not succeed is the last, and collecting ends as it does. -/
theorem collectRest_halted (owed : link.pending ≠ 0)
    (failed : (link.receive buffer).outcome.isOk = false) :
    link.collectRest buffer collected =
      .last (link.receive buffer) ((link.receive buffer).outcome.map fun _ => []) := by
  rw [collectRest_owed owed]
  dsimp only
  cases ended : (link.receive buffer).outcome with
  | ok receipt =>
    rw [ended] at failed
    contradiction
  | failed error => rfl
  | fault => rfl
  | waiting => rfl

/-- How a receive that finds bytes owed ends, and what it leaves. -/
theorem receive_owed (owed : link.pending ≠ 0) (room : 0 < buffer.length) :
    let intake := link.transport.inbound.take (min link.pending buffer.length)
    (link.receive buffer).outcome =
        intake.outcome.map (fun _ => Reception.continuation link.pending buffer.length) ∧
      (intake.outcome.isOk = true → (link.receive buffer).state =
        (link.leaving intake.rest (link.pending - buffer.length),
          overlay intake.taken buffer)) := by
  intro intake
  obtain ⟨outcome, stored, left, pending⟩ :=
    Reception.drain_take link.transport.inbound link.pending buffer.length
  rw [← reception_owed owed room] at outcome stored left pending
  refine ⟨outcome, fun succeeded => ?_⟩
  have count : (if link.pending ≤ buffer.length then 0
      else if intake.outcome.isOk then link.pending - buffer.length else link.pending) =
      link.pending - buffer.length := by
    rw [if_pos succeeded]
    split
    · exact (Nat.sub_eq_zero_of_le ‹_›).symm
    · rfl
  rw [state_receive, left, stored, pending, count]

/-- Where reading stops short of what the buffer holds, the receive is the last. -/
theorem drains_halted (owed : link.pending ≠ 0) (room : 0 < buffer.length)
    (failed : (link.transport.inbound.take (min link.pending buffer.length)).outcome.isOk =
      false) : (link.collectRest buffer collected).Drains link buffer collected := by
  have short := Inbound.take_of_le failed (Nat.min_le_left _ _)
  have ended := (receive_owed owed room).1
  rw [← short] at ended failed
  have halted : (link.receive buffer).outcome.isOk = false := by
    rw [ended, Outcome.isOk_map, failed]
  rw [collectRest_halted owed halted]
  refine ⟨?_, ?_, ?_, ?_, link.length_receive buffer⟩
  · rw [Collection.last, ended, Outcome.map_map]
    exact Outcome.map_eq_map failed _ _
  · refine Collection.sized_last fun small => ?_
    rw [small] at halted
    contradiction
  · rw [Collection.last, List.length_singleton]
    exact turns_pos owed room
  · intro succeeded
    rw [failed] at succeeded
    contradiction

/-- Where all that is owed arrives and fits the buffer, the receive is the last. -/
theorem drains_whole {bytes : Bytes} {rest : Inbound} (owed : link.pending ≠ 0)
    (fits : link.pending ≤ buffer.length)
    (taken : link.transport.inbound.take link.pending = ⟨.ok (), bytes, rest⟩) :
    (link.collectRest buffer collected).Drains link buffer collected := by
  have room : 0 < buffer.length := Nat.lt_of_lt_of_le (Nat.pos_of_ne_zero owed) fits
  obtain ⟨ended, state⟩ := receive_owed owed room
  rw [Nat.min_eq_left fits, taken] at ended state
  have ended : (link.receive buffer).outcome = .ok (.complete link.pending (some 0)) := by
    rw [ended, Outcome.map, Reception.continuation, if_pos fits]
  have state := state rfl
  have length : bytes.length = link.pending := (Inbound.take_ok_iff.mp taken).1
  rw [collectRest_owed owed]
  simp only [ended]
  refine ⟨?_, ?_, ?_, ?_, link.length_receive buffer⟩
  · rw [Collection.last, state, taken, Outcome.map, overlay, List.take_left' length]
  · exact Collection.sized_last (by rw [ended]; simp)
  · rw [turns_of_le owed fits]
    exact Nat.le_refl 1
  · intro _
    refine ⟨(turns_of_le owed fits).symm, ?_⟩
    rw [Collection.last, state, taken, Nat.sub_eq_zero_of_le fits]

/-- Where a bufferful arrives and more is owed, it is put aside and collecting goes on. -/
theorem drains_part {bytes : Bytes} {rest : Inbound} (exceeds : buffer.length < link.pending)
    (room : 0 < buffer.length)
    (taken : link.transport.inbound.take buffer.length = ⟨.ok (), bytes, rest⟩)
    (later : ((link.leaving rest (link.pending - buffer.length)).collectRest bytes
      (collected ++ bytes)).Drains (link.leaving rest (link.pending - buffer.length)) bytes
        (collected ++ bytes)) :
    (link.collectRest buffer collected).Drains link buffer collected := by
  have owed : link.pending ≠ 0 := Nat.ne_of_gt (Nat.lt_trans room exceeds)
  have length : bytes.length = buffer.length := (Inbound.take_ok_iff.mp taken).1
  have on := Inbound.take_of_front taken (Nat.le_of_lt exceeds)
  obtain ⟨ended, state⟩ := receive_owed owed room
  rw [Nat.min_eq_right (Nat.le_of_lt exceeds), taken] at ended state
  have ended : (link.receive buffer).outcome = .ok (.attachmentPending link.pending 0) := by
    rw [ended, Outcome.map, Reception.continuation, if_neg (Nat.not_le_of_lt exceeds)]
  have state := state rfl
  dsimp only at state
  rw [overlay_full (Nat.le_of_eq length.symm)] at state
  rw [collectRest_owed owed]
  simp only [ended, state]
  have turns := turns_of_lt room exceeds
  have count := later.bounded
  rw [length] at count
  refine ⟨?_, ?_, ?_, ?_, ?_⟩
  · rw [on, Intake.following, Collection.following, later.outcome]
    simp only [leaving, List.append_assoc]
  · intro outcome member
    rcases List.mem_cons.mp member with rfl | after
    · rw [ended]
      simp
    · exact later.sized outcome after
  · rw [turns]
    exact Nat.succ_le_succ count
  · intro succeeded
    rw [on, Intake.following] at succeeded ⊢
    obtain ⟨all, link⟩ := later.whole succeeded
    rw [length] at all
    refine ⟨?_, link⟩
    rw [turns]
    exact congrArg Nat.succ all
  · exact later.length.trans length

/-- What is left to be collected is collected whatever the buffer: every receive that leaves bytes
owed has taken a bufferful off them. -/
theorem drains_collectRest (link : Link) {buffer : Bytes} (collected : Bytes)
    (room : 0 < buffer.length) :
    (link.collectRest buffer collected).Drains link buffer collected := by
  induction count : link.pending using Nat.strongRecOn generalizing link buffer collected with
  | ind count ih =>
    by_cases idle : link.pending = 0
    · rw [collectRest_idle idle]
      refine ⟨?_, by simp, Nat.zero_le _, ?_, rfl⟩
      · simp [idle, Outcome.map]
      · intro _
        rw [idle, Inbound.take_zero]
        exact ⟨(zero_ceilDiv _).symm, (leaving_idle idle).symm⟩
    · cases intake : link.transport.inbound.take (min link.pending buffer.length) with
      | mk ended bytes rest =>
        cases succeeded : ended.isOk with
        | false => exact drains_halted idle room (by rw [intake, succeeded])
        | true =>
          obtain ⟨value, rfl⟩ := Outcome.ok_of_isOk succeeded
          rcases Nat.lt_or_ge buffer.length link.pending with exceeds | fits
          · rw [Nat.min_eq_right (Nat.le_of_lt exceeds)] at intake
            have length : bytes.length = buffer.length := (Inbound.take_ok_iff.mp intake).1
            have later := ih (link.pending - buffer.length) (by omega)
              (link.leaving rest (link.pending - buffer.length)) (collected ++ bytes)
              (length ▸ room) rfl
            exact drains_part exceeds room intake later
          · rw [Nat.min_eq_left fits] at intake
            exact drains_whole idle fits intake

end Link

/-- What is collected of a reply, by the scan of its header: where the header ends, and what reading
all bytes at once comes to that it announces. -/
def Marker.Scan.collected (scan : Marker.Scan) (length : Nat) (rest : Inbound) :
    Outcome (Nat × Option Bytes) :=
  match scan with
  | .absent => .ok (length, none)
  | .fault => .fault
  | .found marker =>
    (rest.take marker.length).outcome.map fun _ => (length, some (rest.take marker.length).taken)

/-- A reply is collected whatever buffer holds its header, a line of the stream. -/
structure Collection.Collects (collection : Collection (Nat × Option Bytes)) (link : Link)
    (buffer line : Bytes) (rest : Inbound) : Prop where
  /-- It comes to the header and all that it announces. -/
  outcome : collection.outcome =
    (Marker.scan (Header.stored line)).collected line.length rest
  /-- No receive finds the buffer too small. -/
  sized : ∀ ended ∈ collection.receives, ended ≠ .ok .bufferTooSmall
  /-- No more receives are made than all that is announced takes. -/
  bounded : collection.receives.length ≤
    1 + (line.length + (Marker.scan (Header.stored line)).announced - buffer.length) ⌈/⌉
      buffer.length
  /-- Where all of it arrives, it takes so many receives, the buffer holds the header, and nothing
  is owed. -/
  whole : collection.outcome.isOk = true →
    collection.receives.length =
        1 + (line.length + (Marker.scan (Header.stored line)).announced - buffer.length) ⌈/⌉
          buffer.length ∧
      collection.buffer.take line.length =
        (Marker.scan (Header.stored line)).apply (Header.stored line) ∧
      collection.link =
        link.leaving (rest.take (Marker.scan (Header.stored line)).announced).rest 0

namespace Link

variable {link : Link} {buffer line : Bytes} {rest : Inbound}

/-- A receive that does not succeed is the last, and collecting ends as it does. -/
theorem collect_halted (failed : (link.receive buffer).outcome.isOk = false) :
    link.collect buffer =
      .last (link.receive buffer) ((link.receive buffer).outcome.map fun _ => (0, none)) := by
  unfold collect
  dsimp only
  cases ended : (link.receive buffer).outcome with
  | ok receipt =>
    rw [ended] at failed
    contradiction
  | failed error => rfl
  | fault => rfl
  | waiting => rfl

/-- Where the first receive does not succeed, it is the last. -/
theorem collects_halted (failed : (link.receive buffer).outcome.isOk = false)
    (ended : ((link.receive buffer).outcome.map fun _ => (0, none)) =
      (Marker.scan (Header.stored line)).collected line.length rest) :
    (link.collect buffer).Collects link buffer line rest := by
  rw [collect_halted failed]
  refine ⟨ended, ?_, ?_, ?_⟩
  · refine Collection.sized_last fun small => ?_
    rw [small] at failed
    contradiction
  · exact Nat.le_add_right 1 _
  · intro succeeded
    rw [Collection.last, Outcome.isOk_map, failed] at succeeded
    contradiction

/-! On a link that is owed nothing, a header arrives that fits the buffer. -/

section

variable (idle : link.pending = 0) (isLine : Header.IsLine line)
  (arrives : link.transport.inbound.Arrives line rest) (fits : line.length ≤ buffer.length)
include idle isLine arrives fits

/-- A header that fits the buffer is stored, and its marker is looked for. -/
theorem reception_line :
    link.reception buffer.length =
      Reception.afterHeader rest (Header.stored line) buffer.length := by
  have some : 0 < line.length := List.length_pos_iff.mpr isLine.ne_nil
  have read : link.transport.inbound.takeHeader buffer.length = ⟨.ok true, line, rest⟩ :=
    Inbound.takeHeader_ok_iff.mpr ⟨isLine, fits, arrives⟩
  rw [reception_idle idle (Nat.lt_of_lt_of_le some fits), Reception.newMessage, read]

/-- How a receive that reads a header with a marker ends, and what it leaves. -/
theorem receive_found {marker : Marker} (found : Marker.scan (Header.stored line) = .found marker) :
    let intake := rest.take (min marker.length (buffer.length - line.length))
    (link.receive buffer).outcome = intake.outcome.map
        (fun _ => (Marker.Scan.found marker).receipt line.length buffer.length) ∧
      (link.receive buffer).state = (link.leaving intake.rest
          (if intake.outcome.isOk then marker.length - (buffer.length - line.length) else 0),
        overlay (marker.cut (Header.stored line) ++ intake.taken) buffer) := by
  intro intake
  have reception := reception_line idle isLine arrives fits
  rw [Reception.afterHeader, found] at reception
  obtain ⟨outcome, stored, left, pending⟩ :=
    Reception.announced_take rest (marker.cut (Header.stored line)) marker buffer.length
  dsimp only at reception
  rw [← reception, Marker.length_cut, Header.length_stored] at outcome stored left pending
  refine ⟨outcome, ?_⟩
  rw [state_receive, left, stored, pending]

/-- The header is read off the buffer that it was received into. -/
theorem take_receive :
    (link.receive buffer).state.2.take line.length =
      (Marker.scan (Header.stored line)).apply (Header.stored line) := by
  have length : ((Marker.scan (Header.stored line)).apply (Header.stored line)).length =
      line.length := by
    rw [Marker.Scan.length_apply, Header.length_stored]
  obtain ⟨attached, stored⟩ : ∃ attached, (link.reception buffer.length).stored =
      (Marker.scan (Header.stored line)).apply (Header.stored line) ++ attached := by
    rw [reception_line idle isLine arrives fits, Reception.afterHeader]
    cases Marker.scan (Header.stored line) with
    | absent => exact ⟨[], (List.append_nil _).symm⟩
    | fault => exact ⟨[], (List.append_nil _).symm⟩
    | found marker =>
      obtain ⟨-, stored, -⟩ :=
        Reception.announced_take rest (marker.cut (Header.stored line)) marker buffer.length
      exact ⟨_, stored⟩
  rw [buffer_receive, stored, overlay, List.append_assoc, List.take_left' length]

/-- A header without a marker is a reply. -/
theorem collects_absent (absent : Marker.scan (Header.stored line) = .absent) :
    (link.collect buffer).Collects link buffer line rest := by
  have reception := reception_line idle isLine arrives fits
  simp only [Reception.afterHeader, absent, Header.length_stored] at reception
  have ended : (link.receive buffer).outcome = .ok (.complete line.length none) := by
    rw [outcome_receive, reception]
  have turns : (line.length + (Marker.scan (Header.stored line)).announced - buffer.length) ⌈/⌉
      buffer.length = 0 := by
    rw [absent, Marker.Scan.announced, Nat.add_zero, Nat.sub_eq_zero_of_le fits, zero_ceilDiv]
  have header := take_receive idle isLine arrives fits
  simp only [collect, ended]
  refine ⟨?_, ?_, ?_, ?_⟩
  · rw [absent]
    rfl
  · exact Collection.sized_last (by rw [ended]; simp)
  · exact Nat.le_add_right 1 _
  · intro _
    refine ⟨?_, header, ?_⟩
    · rw [turns]
      rfl
    · rw [Collection.last, state_receive, reception, absent, Marker.Scan.announced,
        Inbound.take_zero]

/-- A header whose scan faults ends collecting. -/
theorem collects_fault (fault : Marker.scan (Header.stored line) = .fault) :
    (link.collect buffer).Collects link buffer line rest := by
  have reception := reception_line idle isLine arrives fits
  simp only [Reception.afterHeader, fault] at reception
  have ended : (link.receive buffer).outcome = .fault := by
    rw [outcome_receive, reception]
  refine collects_halted (by rw [ended]; rfl) ?_
  rw [ended, fault]
  rfl

/-- Where an announced attachment stops short, so does collecting. -/
theorem collects_short {marker : Marker}
    (found : Marker.scan (Header.stored line) = .found marker)
    (failed : (rest.take (min marker.length (buffer.length - line.length))).outcome.isOk = false) :
    (link.collect buffer).Collects link buffer line rest := by
  have ended := (receive_found idle isLine arrives fits found).1
  have short := Inbound.take_of_le failed (Nat.min_le_left _ _)
  rw [← short] at ended failed
  refine collects_halted (by rw [ended, Outcome.isOk_map, failed]) ?_
  rw [ended, Outcome.map_map, found]
  exact Outcome.map_eq_map failed _ _

/-- Where an announced attachment arrives and fits, the receive of the header is the only one. -/
theorem collects_whole {marker : Marker} {bytes : Bytes} {later : Inbound}
    (found : Marker.scan (Header.stored line) = .found marker)
    (room : marker.length ≤ buffer.length - line.length)
    (taken : rest.take marker.length = ⟨.ok (), bytes, later⟩) :
    (link.collect buffer).Collects link buffer line rest := by
  obtain ⟨ended, state⟩ := receive_found idle isLine arrives fits found
  rw [Nat.min_eq_left room, taken] at ended state
  dsimp only at ended state
  rw [Outcome.map, Marker.Scan.receipt, if_pos room] at ended
  rw [Outcome.isOk, if_pos rfl, Nat.sub_eq_zero_of_le room] at state
  have length : bytes.length = marker.length := (Inbound.take_ok_iff.mp taken).1
  have front : (marker.cut (Header.stored line)).length = line.length := by
    rw [Marker.length_cut, Header.length_stored]
  have whole : (marker.cut (Header.stored line) ++ bytes).length =
      line.length + marker.length := by
    rw [List.length_append, front, length]
  have header := take_receive idle isLine arrives fits
  have turns : (line.length + (Marker.scan (Header.stored line)).announced - buffer.length) ⌈/⌉
      buffer.length = 0 := by
    rw [found, Marker.Scan.announced, Nat.sub_eq_zero_of_le (by omega), zero_ceilDiv]
  simp only [collect, ended]
  refine ⟨?_, ?_, ?_, ?_⟩
  · rw [found]
    dsimp only [Collection.last, Marker.Scan.collected]
    rw [state, taken]
    dsimp only [Outcome.map]
    rw [overlay, List.take_left' whole, List.drop_left' front]
  · exact Collection.sized_last (by rw [ended]; simp)
  · exact Nat.le_add_right 1 _
  · intro _
    refine ⟨?_, header, ?_⟩
    · rw [turns]
      rfl
    · rw [Collection.last, state, found, Marker.Scan.announced, taken]

/-- Where an announced attachment fills the buffer and more of it is to come, collecting goes on
with the rest, and the header is put back. -/
theorem collects_part {marker : Marker} {bytes : Bytes} {later : Inbound}
    (found : Marker.scan (Header.stored line) = .found marker)
    (exceeds : buffer.length - line.length < marker.length)
    (taken : rest.take (buffer.length - line.length) = ⟨.ok (), bytes, later⟩) :
    (link.collect buffer).Collects link buffer line rest := by
  obtain ⟨ended, state⟩ := receive_found idle isLine arrives fits found
  rw [Nat.min_eq_right (Nat.le_of_lt exceeds), taken] at ended state
  dsimp only at ended state
  rw [Outcome.map, Marker.Scan.receipt, if_neg (Nat.not_le_of_lt exceeds)] at ended
  have length : bytes.length = buffer.length - line.length := (Inbound.take_ok_iff.mp taken).1
  have front : (marker.cut (Header.stored line)).length = line.length := by
    rw [Marker.length_cut, Header.length_stored]
  have full : (marker.cut (Header.stored line) ++ bytes).length = buffer.length := by
    rw [List.length_append, front, length]
    omega
  rw [overlay_full (Nat.le_of_eq full.symm), Outcome.isOk, if_pos rfl] at state
  have some : 0 < line.length := List.length_pos_iff.mpr isLine.ne_nil
  have on := Inbound.take_of_front taken (Nat.le_of_lt exceeds)
  have turns : line.length + (Marker.scan (Header.stored line)).announced - buffer.length =
      marker.length - (buffer.length - line.length) := by
    rw [found, Marker.Scan.announced]
    omega
  generalize marker.length - (buffer.length - line.length) = owed at on state turns
  have drains := drains_collectRest (link.leaving later owed) bytes
    (show 0 < (marker.cut (Header.stored line) ++ bytes).length by omega)
  simp only [collect, ended, state, List.drop_left' front, List.take_left' front]
  refine ⟨?_, ?_, ?_, ?_⟩
  · rw [found]
    dsimp only [Collection.following, Marker.Scan.collected]
    rw [drains.outcome, on, Outcome.map_map]
    rfl
  · intro outcome member
    rcases List.mem_cons.mp member with rfl | after
    · rw [ended]
      simp
    · exact drains.sized outcome after
  · rw [turns, Nat.add_comm, ← full]
    exact Nat.succ_le_succ drains.bounded
  · intro succeeded
    dsimp only [Collection.following] at succeeded ⊢
    rw [Outcome.isOk_map] at succeeded
    have arrived : (later.take owed).outcome.isOk = true := by
      rwa [drains.outcome, Outcome.isOk_map] at succeeded
    obtain ⟨count, left⟩ := drains.whole arrived
    refine ⟨?_, ?_, ?_⟩
    · rw [turns, Nat.add_comm, ← full, List.length_cons, count]
      rfl
    · rw [if_pos succeeded, found]
      exact List.take_left' front
    · rw [left, found, Marker.Scan.announced, on]
      rfl

/-- A reply whose header fits the buffer is collected whatever the buffer. -/
theorem collects :
    (link.collect buffer).Collects link buffer line rest := by
  cases scan : Marker.scan (Header.stored line) with
  | absent => exact collects_absent idle isLine arrives fits scan
  | fault => exact collects_fault idle isLine arrives fits scan
  | found marker =>
    cases intake : rest.take (min marker.length (buffer.length - line.length)) with
    | mk ended bytes later =>
      cases succeeded : ended.isOk with
      | false => exact collects_short idle isLine arrives fits scan (by rw [intake, succeeded])
      | true =>
        obtain ⟨value, rfl⟩ := Outcome.ok_of_isOk succeeded
        rcases Nat.lt_or_ge (buffer.length - line.length) marker.length with exceeds | room
        · rw [Nat.min_eq_right (Nat.le_of_lt exceeds)] at intake
          exact collects_part idle isLine arrives fits scan exceeds intake
        · rw [Nat.min_eq_left room] at intake
          exact collects_whole idle isLine arrives fits scan room intake

end

end Link

end AgentLink
