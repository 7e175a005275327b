import AgentLink.Proofs.Arrival
import AgentLink.Proofs.Framing
import AgentLink.Proofs.IndexedScan

/-!
# Receiving by indices

A machine receives into the caller's buffer by positions. `receive` is the receive of that kind,
with every index, slice, sum and difference checked; one that is out of range is the fault, and
the memory stays as it was left. For a buffer whose length is a word it comes to what
`Link.receive` comes to and leaves the same memory (`receive_eq`).
-/
namespace AgentLink

/-- A read takes the bytes that it gets off those that are unread. -/
theorem Inbound.unread_of_read {inbound rest : Inbound} {room : Nat} {reply : ReadReply}
    (step : inbound.read room = (reply, rest)) :
    reply.taken.length + rest.unread = inbound.unread := by
  rw [unread, unread, ← (bytes_of_read step).1, List.length_append]

/-- A read of bytes leaves fewer of them unread. -/
theorem Inbound.unread_lt_of_read {inbound rest : Inbound} {room : Nat} {byte : UInt8}
    {bytes : Bytes} (step : inbound.read room = (.bytes (byte :: bytes), rest)) :
    rest.unread < inbound.unread := by
  have count := unread_of_read step
  rw [ReadReply.taken, List.length_cons] at count
  omega

/-- A read that fails leaves as many bytes unread. -/
theorem Inbound.unread_of_failure {inbound rest : Inbound} {room : Nat} {error : SystemError}
    (step : inbound.read room = (.failure error, rest)) : rest.unread = inbound.unread := by
  have count := unread_of_read step
  rwa [ReadReply.taken, List.length_nil, Nat.zero_add] at count

namespace Indexed

/-- Put bytes into a buffer from a position on. -/
def put (buffer : Bytes) (start : Nat) (bytes : Bytes) : Bytes :=
  buffer.take start ++ bytes ++ buffer.drop (start + bytes.length)

/-- What filling a slice came to: how it ended, the slice, and what is still to arrive. -/
structure Filling where
  /-- How filling ended. -/
  outcome : Outcome Unit
  /-- The slice. -/
  slice : Bytes
  /-- What is still to arrive. -/
  rest : Inbound

/-- Fill a slice of which some bytes are read. -/
def readExact (inbound : Inbound) (slice : Bytes) (read : Nat) : Filling :=
  if read < slice.length then
    match slice? slice read slice.length with
    | none => ⟨.fault, slice, inbound⟩
    | some window =>
      match _step : inbound.read window.length with
      | (.bytes [], rest) => ⟨.failed .peerClosed, slice, rest⟩
      | (.bytes (byte :: bytes), rest) =>
        let filled := put slice read (byte :: bytes)
        match add? read (byte :: bytes).length with
        | none => ⟨.fault, filled, rest⟩
        | some next => readExact rest filled next
      | (.failure error, rest) =>
        if error.isInterruption then readExact rest slice read
        else ⟨.failed (.transport error), slice, rest⟩
      | (.stalled, rest) => ⟨.waiting, slice, rest⟩
  else ⟨.ok (), slice, inbound⟩
termination_by (inbound.unread, inbound.arrivals.length)
decreasing_by
  · exact Prod.Lex.left _ _ (Inbound.unread_lt_of_read _step)
  · rw [Inbound.unread_of_failure _step]
    exact Prod.Lex.right _ (Inbound.length_read_of_failure _step)

/-- What a receive works on. -/
structure Memory where
  /-- What is still to arrive. -/
  inbound : Inbound
  /-- The caller's buffer. -/
  buffer : Bytes
  /-- Attachment bytes still to be received. -/
  pending : Nat

/-- The last of so many bytes. -/
def lastByte? (buffer : Bytes) (length : Nat) : Option UInt8 := do
  let last ← sub? length 1
  buffer[last]?

/-- End a header of a given length whose last byte is a newline. -/
def endLine? (buffer : Bytes) (length : Nat) : Option Bytes := do
  let last ← sub? length 1
  let ended ← store? buffer last Byte.nul
  if 2 ≤ length then
    let before ← sub? length 2
    let byte ← ended[before]?
    if byte = Byte.carriageReturn then store? ended before Byte.space else return ended
  else return ended

/-- Read header bytes behind so many others, up to the one that ends the header. The value is the
length of the header, if it ended within the buffer. -/
def scanHeader (length : Nat) (memory : Memory) : Outcome (Option Nat) × Memory :=
  if length < memory.buffer.length then
    match add? length 1 with
    | none => (.fault, memory)
    | some next =>
      match slice? memory.buffer length next with
      | none => (.fault, memory)
      | some window =>
        match _step : memory.inbound.read window.length with
        | (.bytes [], rest) => (.failed .peerClosed, { memory with inbound := rest })
        | (.bytes (byte :: bytes), rest) =>
          let filled := put memory.buffer length (byte :: bytes)
          let read := { memory with inbound := rest, buffer := filled }
          match lastByte? filled next with
          | none => (.fault, read)
          | some last =>
            if last = Byte.nul then (.ok (some next), read)
            else if last = Byte.newline then
              match endLine? filled next with
              | none => (.fault, read)
              | some ended => (.ok (some next), { read with buffer := ended })
            else scanHeader next read
        | (.failure error, rest) =>
          if error.isInterruption then scanHeader length { memory with inbound := rest }
          else (.failed (.transport error), { memory with inbound := rest })
        | (.stalled, rest) => (.waiting, { memory with inbound := rest })
  else (.ok none, memory)
termination_by (memory.inbound.unread, memory.inbound.arrivals.length)
decreasing_by
  · exact Prod.Lex.left _ _ (Inbound.unread_lt_of_read _step)
  · rw [Inbound.unread_of_failure _step]
    exact Prod.Lex.right _ (Inbound.length_read_of_failure _step)

/-- A computation on a memory. What it did stays where it does not succeed. -/
def Action (α : Type) := Memory → Outcome α × Memory

namespace Action

/-- Computations are made one after another, up to the first that does not succeed. -/
instance : Monad Action where
  pure value := fun memory => (.ok value, memory)
  bind action next := fun memory =>
    match action memory with
    | (.ok value, later) => next value later
    | (.failed error, later) => (.failed error, later)
    | (.fault, later) => (.fault, later)
    | (.waiting, later) => (.waiting, later)

/-- An operation that is the fault where it is out of range. -/
def checked {α : Type} (value : Option α) : Action α := fun memory =>
  match value with
  | some value => (.ok value, memory)
  | none => (.fault, memory)

/-- The memory. -/
def memory : Action Memory := fun memory => (.ok memory, memory)

/-- Change the buffer. -/
def setBuffer (buffer : Bytes) : Action Unit := fun memory => (.ok (), { memory with buffer })

/-- Change the count of attachment bytes still to be received. -/
def setPending (pending : Nat) : Action Unit := fun memory => (.ok (), { memory with pending })

end Action

open Indexed.Action

/-- Fill the buffer from a position up to another. -/
def fill (start stop : Nat) : Action Unit := fun memory =>
  match slice? memory.buffer start stop with
  | none => (.fault, memory)
  | some slice =>
    let filling := readExact memory.inbound slice 0
    (filling.outcome, { memory with
      inbound := filling.rest
      buffer := put memory.buffer start filling.slice })

/-- Read a header into the buffer. -/
def readHeader : Action (Option Nat) := scanHeader 0

/-- Go on with an attachment. -/
def continueAttachment : Action Receipt := do
  let ⟨_, buffer, owed⟩ ← memory
  if owed ≤ buffer.length then
    setPending 0
    fill 0 owed
    return .complete owed (some 0)
  else
    fill 0 buffer.length
    let left ← checked (sub? owed buffer.length)
    setPending left
    return .attachmentPending owed 0

/-- Read the attachment announced behind a header of a given length. A size that is no word is
reported as the largest word. -/
def readAttachment (headerLength : Nat) (marker : Marker) : Action Receipt := do
  let ⟨_, buffer, _⟩ ← memory
  let room ← checked (sub? buffer.length headerLength)
  if marker.length ≤ room then
    let total ← checked (add? headerLength marker.length)
    fill headerLength total
    return .complete total (some headerLength)
  else
    fill headerLength buffer.length
    let left ← checked (sub? marker.length room)
    setPending left
    let total := (add? headerLength marker.length).getD (limit - 1)
    return .attachmentPending total headerLength

/-- Go on after a header of a given length. -/
def finishHeader (headerLength : Nat) : Action Receipt := do
  let ⟨_, buffer, _⟩ ← memory
  let header ← checked (slice? buffer 0 headerLength)
  match findMarker header with
  | .stopped => checked none
  | .absent => return .complete headerLength none
  | .found (marker, cut) =>
    setBuffer (put buffer 0 cut)
    readAttachment headerLength marker

/-- Receive into the buffer. -/
def receive : Action Receipt := do
  let start ← memory
  if start.buffer.isEmpty then return .bufferTooSmall
  else if 0 < start.pending then continueAttachment
  else
    match ← readHeader with
    | none => return .bufferTooSmall
    | some headerLength => finishHeader headerLength

section

variable {inbound rest : Inbound}

/-- What filling a slice comes to, by what the first read gets. -/
theorem readExact_read {slice : Bytes} {read : Nat} {reply : ReadReply}
    (more : read < slice.length) (step : inbound.read (slice.length - read) = (reply, rest)) :
    readExact inbound slice read = match reply with
      | .bytes [] => ⟨.failed .peerClosed, slice, rest⟩
      | .bytes (byte :: bytes) =>
        match add? read (byte :: bytes).length with
        | none => ⟨.fault, put slice read (byte :: bytes), rest⟩
        | some next => readExact rest (put slice read (byte :: bytes)) next
      | .failure error =>
        if error.isInterruption then readExact rest slice read
        else ⟨.failed (.transport error), slice, rest⟩
      | .stalled => ⟨.waiting, slice, rest⟩ := by
  have length : ((slice.take slice.length).drop read).length = slice.length - read := by
    rw [List.take_length, List.length_drop]
  rw [readExact, if_pos more, slice?_eq (Nat.le_of_lt more) (Nat.le_refl _)]
  simp only
  split
  all_goals
    rename_i found
    rw [length] at found
    obtain ⟨rfl, rfl⟩ := Prod.mk.inj (step.symm.trans found)
    rfl

/-- Bytes put in behind others. -/
theorem put_append (front back bytes : Bytes) :
    put (front ++ back) front.length bytes = front ++ overlay bytes back := by
  rw [put, List.take_left, List.drop_append, Nat.add_sub_cancel_left,
    List.drop_eq_nil_of_le (Nat.le_add_right _ _), List.nil_append, List.append_assoc, overlay]

/-- Putting two stretches over a buffer puts the second behind the first. -/
theorem overlay_append (first second buffer : Bytes) :
    overlay (first ++ second) buffer = first ++ overlay second (buffer.drop first.length) := by
  rw [overlay, overlay, List.length_append, List.drop_drop, List.append_assoc]

/-- Putting no bytes over a buffer leaves it as it is. -/
theorem overlay_nil (buffer : Bytes) : overlay [] buffer = buffer := rfl

/-- Filling what is behind some bytes of a slice reads as many as are missing. -/
theorem readExact_eq (room : Nat) : ∀ (inbound : Inbound) (front back : Bytes),
    back.length = room → front.length + room < limit →
    readExact inbound (front ++ back) front.length =
      ⟨(inbound.take room).outcome, front ++ overlay (inbound.take room).taken back,
        (inbound.take room).rest⟩ := by
  intro inbound
  have missing : ∀ {front back : Bytes} {room : Nat}, back.length = room →
      (front ++ back).length - front.length = room := by
    rintro front back room rfl
    rw [List.length_append, Nat.add_sub_cancel_left]
  have more : ∀ {front back : Bytes} {room : Nat}, back.length = room → room ≠ 0 →
      front.length < (front ++ back).length := by
    rintro front back room rfl some
    rw [List.length_append]
    omega
  fun_induction Inbound.take inbound room with
  | case1 inbound =>
    intro front back empty word
    obtain rfl := List.length_eq_zero_iff.mp empty
    rw [readExact, if_neg (by simp)]
    rfl
  | case2 inbound room some rest step =>
    intro front back length word
    rw [readExact_read (more length some) (by rw [missing length, step])]
    rfl
  | case3 inbound room some byte bytes rest step later ih =>
    intro front back length word
    have bounded := (Inbound.bytes_of_read step).2
    rw [ReadReply.taken, List.length_cons] at bounded
    rw [readExact_read (more length some) (by rw [missing length, step])]
    have left : (back.drop (byte :: bytes).length).length = room - (bytes.length + 1) := by
      rw [List.length_drop, length, List.length_cons]
    have filled := ih (front ++ byte :: bytes) _ left (by simp; omega)
    rw [List.length_append, List.append_assoc] at filled
    simp only [add?_eq (show front.length + (byte :: bytes).length < limit by simp; omega),
      put_append, overlay, filled, later, List.append_assoc, List.length_append, List.drop_drop]
  | case4 inbound room some error rest step interrupted ih =>
    intro front back length word
    rw [readExact_read (more length some) (by rw [missing length, step])]
    simp only [if_pos interrupted, ih front back length word]
  | case5 inbound room some error rest step uninterrupted =>
    intro front back length word
    rw [readExact_read (more length some) (by rw [missing length, step])]
    simp only [if_neg uninterrupted, overlay_nil]
  | case6 inbound room some rest step =>
    intro front back length word
    rw [readExact_read (more length some) (by rw [missing length, step])]
    rfl

/-- The last of some bytes is the one that was put behind the others. -/
theorem lastByte?_eq (front back : Bytes) (byte : UInt8) :
    lastByte? (front ++ byte :: back) (front.length + 1) = some byte := by
  simp [lastByte?, sub?]

/-- A header that ends in a newline is ended as it is stored. -/
theorem endLine?_eq (front back : Bytes) :
    endLine? (front ++ Byte.newline :: back) (front.length + 1) =
      some (Header.stored (front ++ [Byte.newline]) ++ back) := by
  have ended : store? (front ++ Byte.newline :: back) front.length Byte.nul =
      some (front ++ Byte.nul :: back) := by
    rw [store?_eq (by simp), List.set_append_right _ _ (Nat.le_refl _), Nat.sub_self]
    rfl
  rw [endLine?, sub?_eq (Nat.le_add_left 1 _), Nat.add_sub_cancel]
  simp only [Option.bind_eq_bind, Option.bind_some, ended]
  rcases List.eq_nil_or_concat front with rfl | ⟨front, before, rfl⟩
  · rfl
  · have length : (front ++ [before]).length + 1 = front.length + 2 := by simp
    have found : (front ++ [before] ++ Byte.nul :: back)[front.length]? = some before := by simp
    simp only [List.concat_eq_append, length, if_pos (Nat.le_add_left 2 _),
      sub?_eq (Nat.le_add_left 2 _), Nat.add_sub_cancel, Option.bind_some, found, Header.stored,
      List.reverse_append, List.reverse_singleton, List.singleton_append, ↓reduceIte,
      Header.dropReturn]
    split
    · rw [store?_eq (by simp)]
      simp
    · simp

/-- What reading a header leaves of a memory whose buffer began with some bytes of the header. -/
def scanned (front back : Bytes) (pending : Nat) (intake : Intake Bool) :
    Outcome (Option Nat) × Memory :=
  (intake.outcome.map fun whole =>
      if whole then some (front.length + intake.taken.length) else none,
    ⟨intake.rest,
      (if intake.outcome = .ok true then Header.stored (front ++ intake.taken)
        else front ++ intake.taken) ++ back.drop intake.taken.length,
      pending⟩)

/-- A header byte that was read counts among those that were read before. -/
theorem scanned_cons (front back : Bytes) (first byte : UInt8) (pending : Nat)
    (intake : Intake Bool) :
    scanned front (first :: back) pending { intake with taken := byte :: intake.taken } =
      scanned (front ++ [byte]) back pending intake := by
  have count : front.length + (intake.taken.length + 1) =
      front.length + 1 + intake.taken.length := by omega
  simp [scanned, count]

/-- What reading header bytes comes to, by what the first read gets. -/
theorem scanHeader_read {front back : Bytes} {first : UInt8} {pending : Nat} {reply : ReadReply}
    (word : front.length + 1 < limit) (step : inbound.read 1 = (reply, rest)) :
    scanHeader front.length ⟨inbound, front ++ first :: back, pending⟩ = match reply with
      | .bytes [] => (.failed .peerClosed, ⟨rest, front ++ first :: back, pending⟩)
      | .bytes (byte :: _) =>
        if byte = Byte.nul then
          (.ok (some (front.length + 1)), ⟨rest, front ++ byte :: back, pending⟩)
        else if byte = Byte.newline then
          (.ok (some (front.length + 1)),
            ⟨rest, Header.stored (front ++ [Byte.newline]) ++ back, pending⟩)
        else scanHeader (front.length + 1) ⟨rest, front ++ byte :: back, pending⟩
      | .failure error =>
        if error.isInterruption then
          scanHeader front.length ⟨rest, front ++ first :: back, pending⟩
        else (.failed (.transport error), ⟨rest, front ++ first :: back, pending⟩)
      | .stalled => (.waiting, ⟨rest, front ++ first :: back, pending⟩) := by
  have more : front.length < (front ++ first :: back).length := by simp
  have width :
      (((front ++ first :: back).take (front.length + 1)).drop front.length).length = 1 := by simp
  rw [scanHeader]
  simp only [if_pos more, add?_eq word,
    slice?_eq (Nat.le_succ front.length) (show front.length + 1 ≤ _ from more)]
  split
  all_goals
    rename_i found
    rw [width] at found
    obtain ⟨rfl, rfl⟩ := Prod.mk.inj (step.symm.trans found)
  · rfl
  · obtain rfl := Inbound.length_read_one step
    simp only [put_append, overlay, List.length_singleton, List.drop_succ_cons, List.drop_zero,
      List.singleton_append, lastByte?_eq]
    split
    · rfl
    · split
      · rename_i line
        simp only [line, endLine?_eq]
      · rfl
  · rfl
  · rfl

/-- Reading header bytes by positions reads what the other reads, and ends a header as it is
stored. -/
theorem scanHeader_eq (back front : Bytes) (inbound : Inbound) (pending : Nat)
    (word : front.length + back.length < limit) :
    scanHeader front.length ⟨inbound, front ++ back, pending⟩ =
      scanned front back pending (inbound.takeHeader back.length) := by
  induction back generalizing front inbound with
  | nil =>
    rw [scanHeader, if_neg (by simp), List.length_nil, Inbound.takeHeader]
    simp [scanned, Outcome.map]
  | cons first back ih =>
    rw [List.length_cons] at word
    induction inbound using Inbound.read_induction with
    | again inbound again =>
      cases step : inbound.read 1 with
      | mk reply next =>
        rw [scanHeader_read (by omega) step, List.length_cons, Inbound.takeHeader_read step]
        cases reply with
        | bytes got =>
          cases got with
          | nil => simp [scanned, Outcome.map]
          | cons byte bytes =>
            simp only
            split
            · rename_i terminator
              rw [if_pos (by simp [terminator, Header.isTerminator])]
              simp [scanned, Outcome.map, terminator, Header.stored_nul]
            · rename_i other
              split
              · rename_i line
                rw [if_pos (by simp [line, Header.isTerminator])]
                simp [scanned, Outcome.map, line]
              · rename_i plain
                have later := ih (front ++ [byte]) next (by simp; omega)
                rw [List.length_append, List.append_assoc] at later
                rw [if_neg (by simp [Header.isTerminator, other, plain]), scanned_cons]
                exact later
        | failure error =>
          by_cases interrupted : error.isInterruption = true
          · simp only [if_pos interrupted]
            exact again step
          · simp [if_neg interrupted, scanned, Outcome.map]
        | stalled => simp [scanned, Outcome.map]

/-- Bytes laid over the front of a buffer leave what is behind the front. -/
theorem overlay_front {stored front back : Bytes} (fits : stored.length ≤ front.length) :
    overlay stored front ++ back = overlay stored (front ++ back) := by
  rw [overlay, overlay, List.drop_append_of_le_length fits, List.append_assoc]

/-- Filling the buffer from a position up to another reads as many bytes as it has there. -/
theorem fill_eq {buffer : Bytes} {start stop pending : Nat} (ordered : start ≤ stop)
    (within : stop ≤ buffer.length) (word : buffer.length < limit) :
    fill start stop ⟨inbound, buffer, pending⟩ =
      ((inbound.take (stop - start)).outcome,
        ⟨(inbound.take (stop - start)).rest,
          buffer.take start ++ overlay (inbound.take (stop - start)).taken (buffer.drop start),
          pending⟩) := by
  have length : ((buffer.take stop).drop start).length = stop - start := by
    rw [List.length_drop, List.length_take, Nat.min_eq_left within]
  have bounded := inbound.length_take_le (stop - start)
  have filled := readExact_eq (stop - start) inbound [] _ length (by
    rw [List.length_nil]
    omega)
  rw [List.nil_append, List.length_nil] at filled
  have slice : (overlay (inbound.take (stop - start)).taken
      ((buffer.take stop).drop start)).length = stop - start := by
    rw [length_overlay (by omega), length]
  have whole : (buffer.take stop).drop start ++ buffer.drop stop = buffer.drop start := by
    rw [← List.drop_append_of_le_length (by rw [List.length_take]; omega), List.take_append_drop]
  simp only [fill, slice?_eq ordered within, filled, List.nil_append]
  rw [put, slice, Nat.add_sub_cancel' ordered, List.append_assoc, overlay_front (by omega), whole]

/-- What a receive that the other one describes comes to, and leaves of the memory. -/
def settled (reception : Reception) (buffer : Bytes) : Outcome Receipt × Memory :=
  (reception.outcome, ⟨reception.inbound, overlay reception.stored buffer, reception.pending⟩)

/-- A computation goes on with the value of the first, on the memory that it left. -/
theorem bind_apply {α β : Type} (action : Action α) (next : α → Action β) (memory : Memory) :
    (action >>= next) memory = match action memory with
      | (.ok value, later) => next value later
      | (.failed error, later) => (.failed error, later)
      | (.fault, later) => (.fault, later)
      | (.waiting, later) => (.waiting, later) := rfl

/-- A value leaves the memory as it is. -/
theorem pure_apply {α : Type} (value : α) (memory : Memory) :
    (pure value : Action α) memory = (.ok value, memory) := rfl

/-- Going on with an attachment by positions does what the other does. -/
theorem continueAttachment_eq {buffer : Bytes} {owed : Nat} (word : buffer.length < limit) :
    continueAttachment ⟨inbound, buffer, owed⟩ =
      settled (Reception.drain inbound owed buffer.length) buffer := by
  simp only [continueAttachment, bind_apply, Action.memory]
  by_cases fits : owed ≤ buffer.length
  · simp only [if_pos fits, bind_apply, setPending, fill_eq (Nat.zero_le owed) fits word,
      Nat.sub_zero, List.take_zero, List.drop_zero, List.nil_append, pure_apply, settled,
      Reception.drain]
    cases (inbound.take owed).outcome <;> rfl
  · simp only [if_neg fits, bind_apply, setPending,
      fill_eq (Nat.zero_le buffer.length) (Nat.le_refl _) word,
      Nat.sub_zero, List.take_zero, List.drop_zero, List.nil_append, pure_apply, settled,
      Reception.drain, checked, sub?_eq (Nat.le_of_not_le fits)]
    cases (inbound.take buffer.length).outcome <;> rfl

/-- Filling a buffer behind a header reads as many bytes as it has there. -/
theorem fill_behind {header buffer : Bytes} {stop pending : Nat} (ordered : header.length ≤ stop)
    (within : stop ≤ buffer.length) (word : buffer.length < limit) :
    fill header.length stop ⟨inbound, overlay header buffer, pending⟩ =
      ((inbound.take (stop - header.length)).outcome,
        ⟨(inbound.take (stop - header.length)).rest,
          overlay (header ++ (inbound.take (stop - header.length)).taken) buffer, pending⟩) := by
  have length : (overlay header buffer).length = buffer.length := length_overlay (by omega)
  have front : (overlay header buffer).take header.length = header := List.take_left
  have back : (overlay header buffer).drop header.length = buffer.drop header.length :=
    List.drop_left
  rw [fill_eq ordered (by omega) (by omega), front, back, overlay_append]

/-- A sum of which the largest word is reported where it is no word. -/
theorem add?_getD (first second : Nat) :
    (add? first second).getD (limit - 1) = min (first + second) (limit - 1) := by
  unfold add?
  split <;> rename_i fits
  · rw [Option.getD_some, Nat.min_eq_left (by omega)]
  · rw [Option.getD_none, Nat.min_eq_right (by omega)]

/-- Reading an announced attachment by positions does what the other does. -/
theorem readAttachment_eq {header buffer : Bytes} {marker : Marker}
    (fits : header.length ≤ buffer.length) (word : buffer.length < limit) :
    readAttachment header.length marker ⟨inbound, overlay header buffer, 0⟩ =
      settled (Reception.announced inbound header marker buffer.length) buffer := by
  have length : (overlay header buffer).length = buffer.length := length_overlay fits
  simp only [readAttachment, bind_apply, Action.memory, checked, length, sub?_eq fits]
  by_cases whole : marker.length ≤ buffer.length - header.length
  · have within : header.length + marker.length ≤ buffer.length := by omega
    have total : header.length + marker.length < limit := by omega
    simp only [if_pos whole, bind_apply, checked, add?_eq total,
      fill_behind (Nat.le_add_right _ marker.length) within word, Nat.add_sub_cancel_left,
      pure_apply, settled, Reception.announced]
    cases (inbound.take marker.length).outcome <;> rfl
  · simp only [if_neg whole, bind_apply, checked, fill_behind fits (Nat.le_refl _) word,
      sub?_eq (Nat.le_of_not_le whole), setPending, pure_apply, add?_getD, settled,
      Reception.announced]
    cases (inbound.take (buffer.length - header.length)).outcome <;> rfl

/-- Going on after a header by positions does what the other does. -/
theorem finishHeader_eq {header buffer : Bytes} (fits : header.length ≤ buffer.length)
    (word : buffer.length < limit) :
    finishHeader header.length ⟨inbound, overlay header buffer, 0⟩ =
      settled (Reception.afterHeader inbound header buffer.length) buffer := by
  have length : (overlay header buffer).length = buffer.length := length_overlay fits
  have sliced : slice? (overlay header buffer) 0 header.length = some header := by
    rw [slice?_eq (Nat.zero_le _) (by omega), List.drop_zero, overlay, List.take_left]
  have found := @findMarker_eq header (by omega)
  simp only [finishHeader, bind_apply, Action.memory, checked, sliced, found, Reception.afterHeader]
  cases scan : Marker.scan header with
  | absent => simp only [Seek.ofScan, pure_apply, settled]
  | fault => simp only [Seek.ofScan, checked, settled]
  | found marker =>
    have cut : put (overlay header buffer) 0 (marker.cut header) =
        overlay (marker.cut header) buffer := by
      simp [put, overlay]
    have read := @readAttachment_eq inbound (marker.cut header) buffer marker (by simpa) word
    rw [Marker.length_cut] at read
    simp only [Seek.ofScan, bind_apply, setBuffer, cut, read]

/-- For a buffer whose length is a word, receiving by positions comes to what the other receive
comes to, and leaves the same memory. -/
theorem receive_eq {buffer : Bytes} (pending : Nat) (word : buffer.length < limit) :
    receive ⟨inbound, buffer, pending⟩ =
      settled (Reception.receive inbound pending buffer.length) buffer := by
  simp only [receive, bind_apply, Action.memory]
  cases empty : buffer.isEmpty with
  | true =>
    obtain rfl := List.isEmpty_iff.mp empty
    rfl
  | false =>
    have some : buffer.length ≠ 0 := by simpa using empty
    rw [if_neg Bool.false_ne_true, Reception.receive, if_neg some]
    by_cases owed : 0 < pending
    · rw [if_pos owed, if_neg (Nat.ne_of_gt owed), continueAttachment_eq word]
    · obtain rfl : pending = 0 := Nat.eq_zero_of_not_pos owed
      have scan : readHeader ⟨inbound, buffer, 0⟩ = _ :=
        scanHeader_eq buffer [] inbound 0 (by simpa using word)
      have short := inbound.length_takeHeader_le buffer.length
      rw [if_neg owed, if_pos rfl, bind_apply, scan, Reception.newMessage]
      generalize inbound.takeHeader buffer.length = intake at short ⊢
      obtain ⟨outcome, taken, rest⟩ := intake
      cases outcome with
      | ok whole =>
        cases whole with
        | true =>
          have finished := @finishHeader_eq rest (Header.stored taken) buffer (by simpa) word
          rw [Header.length_stored, overlay, Header.length_stored] at finished
          simpa [scanned, Outcome.map] using finished
        | false => simp [scanned, Outcome.map, settled, pure_apply, overlay]
      | failed error => simp [scanned, Outcome.map, settled, overlay]
      | fault => simp [scanned, Outcome.map, settled, overlay]
      | waiting => simp [scanned, Outcome.map, settled, overlay]

end

end Indexed

end AgentLink
