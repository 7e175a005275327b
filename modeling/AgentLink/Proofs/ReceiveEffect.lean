import AgentLink.Proofs.CanonicalMarker
import AgentLink.Proofs.Stopping
import AgentLink.Proofs.WholeMessage

/-!
# The whole effect of a receive

What one receive comes to is settled by the bytes pending before it, the room in the buffer and what
arrives. `Reception.Course` lists the courses that it can take: how the receive ends, which bytes it
takes off the stream, what is left of that and what is pending afterwards. Every receive takes one
of them (`course_receive`), and whatever course is allowed for by what arrives, it comes to just
that (`Course.receive`). The bytes that were taken stand at the front of the buffer as they came,
but for those that end a header (`Header.kept`). `Link.receive_effect` puts this together for a
receive into a buffer.
-/
namespace AgentLink

namespace Header

/-- The index at which a header that came as some bytes is cut off: where it has ended, that of the
separating byte of the marker at its end. -/
def cutAt? (line : Bytes) : Option Nat :=
  if line.any isTerminator then
    match Marker.scan (stored line) with
    | .found marker => some marker.headerEnd
    | .absent | .fault => none
  else none

/-- What is stored for a byte of a header at some index, before the header is cut off: a NUL for
the newline at its end, and a space for the carriage return in front of that. -/
def settled (header : Bytes) (index : Nat) (byte : UInt8) : UInt8 :=
  if index + 1 = header.length ∧ byte = Byte.newline then Byte.nul
  else if index + 2 = header.length ∧ byte = Byte.carriageReturn ∧
    header.getLast? = some Byte.newline then Byte.space
  else byte

/-- What is stored for a byte at some index among the bytes that were taken, a header first. -/
def kept (taken : Bytes) (index : Nat) (byte : UInt8) : UInt8 :=
  if cutAt? (line taken) = some index then Byte.nul else settled (line taken) index byte

/-- What is stored for some bytes that were taken, a header first. -/
def keep (taken : Bytes) : Bytes :=
  let line := line taken
  if line.any isTerminator then
    (Marker.scan (stored line)).apply (stored line) ++ taken.drop line.length
  else taken

/-- Plain bytes are all of a header that has not ended. -/
theorem line_plain {front : Bytes} (plain : ∀ byte ∈ front, isTerminator byte = false) :
    line front = front := by
  induction front with
  | nil => rfl
  | cons byte front ih =>
    obtain ⟨first, others⟩ := List.forall_mem_cons.mp plain
    rw [line, first, ih others]
    rfl

/-- A line has a terminator. -/
theorem IsLine.any {first : Bytes} (isLine : IsLine first) : first.any isTerminator = true := by
  obtain ⟨front, last, rfl, -, ended⟩ := isLine
  simp [ended]

/-- Plain bytes are stored as they are. -/
theorem keep_plain {front : Bytes} (plain : ∀ byte ∈ front, isTerminator byte = false) :
    keep front = front := by
  have unended : front.any isTerminator = false := by simpa using plain
  simp [keep, line_plain plain, unended]

/-- A header that has ended is cut off where the marker at its end begins. -/
theorem IsLine.cutAt?_eq_some {first : Bytes} {index : Nat} (isLine : IsLine first) :
    cutAt? first = some index ↔
      ∃ marker, Marker.scan (Header.stored first) = .found marker ∧ marker.headerEnd = index := by
  rw [cutAt?, if_pos isLine.any]
  cases Marker.scan (Header.stored first) <;> simp

/-- A byte that is not cut off is stored as the header settles it. -/
theorem IsLine.kept_append {first : Bytes} {index : Nat} (isLine : IsLine first) (rest : Bytes)
    (uncut : cutAt? first ≠ some index) : kept (first ++ rest) index = settled first index := by
  funext byte
  rw [kept, isLine.line_append, if_neg uncut]

/-- A header that ends is stored with its terminator and cut off, and what follows as it is. -/
theorem IsLine.keep_append {first : Bytes} (isLine : IsLine first) (rest : Bytes) :
    keep (first ++ rest) =
      (Marker.scan (Header.stored first)).apply (Header.stored first) ++ rest := by
  simp [keep, isLine.line_append, isLine.any]

/-- Nothing is changed but the last byte of a header and the one in front of it. -/
theorem settled_eq_id {header : Bytes} {index : Nat} (last : index + 1 ≠ header.length)
    (before : index + 2 ≠ header.length) : settled header index = id := by
  funext byte
  rw [settled, if_neg (fun changed => last changed.1), if_neg (fun changed => before changed.1), id]

/-- Nothing is changed in a header that does not end in a newline. -/
theorem settled_of_getLast? {header : Bytes} {index : Nat} {byte : UInt8}
    (found : header[index]? = some byte) (ended : header.getLast? ≠ some Byte.newline) :
    settled header index byte = byte := by
  rw [settled, if_neg, if_neg fun changed => ended changed.2.2]
  rintro ⟨last, rfl⟩
  rw [List.getLast?_eq_getElem?, ← last, Nat.add_sub_cancel] at ended
  exact ended found

/-- A stored header has a NUL for its newline and a space for the carriage return in front of that,
and nothing else is changed. -/
theorem getElem?_stored (header : Bytes) (index : Nat) :
    (stored header)[index]? = header[index]?.map (settled header index) := by
  by_cases ended : header.getLast? = some Byte.newline
  · obtain ⟨front, rfl⟩ := List.getLast?_eq_some_iff.mp ended
    rcases List.eq_nil_or_concat front with rfl | ⟨begun, before, rfl⟩
    · cases index <;> simp [stored, dropReturn, settled]
    · have split : stored (begun ++ [before] ++ [Byte.newline]) =
          begun ++ [if before = Byte.carriageReturn then Byte.space else before, Byte.nul] := by
        simp only [stored, dropReturn, List.reverse_append, List.reverse_cons, List.reverse_nil,
          List.nil_append, List.cons_append, if_true]
        split <;> simp
      rw [List.concat_eq_append, split, List.append_assoc]
      rcases Nat.lt_or_ge index begun.length with within | behind
      · rw [List.getElem?_append_left within, List.getElem?_append_left within,
          settled_eq_id (by simp; omega) (by simp; omega), Option.map_id, id]
      · obtain ⟨past, rfl⟩ := Nat.exists_eq_add_of_le behind
        rw [List.getElem?_append_right behind, List.getElem?_append_right behind,
          Nat.add_sub_cancel_left]
        rcases past with - | - | past
        · simp [settled]
        · simp [settled]
        · simp
  · have same : stored header = header := by
      rw [List.getLast?_eq_head?_reverse] at ended
      unfold stored
      split
      next none => exact (List.reverse_eq_nil_iff.mp none).symm
      next last front back => rw [if_neg (by simpa [back] using ended)]
    rw [same]
    cases found : header[index]? with
    | none => rfl
    | some byte => exact congrArg some (settled_of_getLast? found ended).symm

/-- Bytes are plain, or begin with a header that has ended. -/
theorem plain_or_line (taken : Bytes) :
    (∀ byte ∈ taken, isTerminator byte = false) ∨
      ∃ first rest, IsLine first ∧ taken = first ++ rest := by
  induction taken with
  | nil => exact .inl (by simp)
  | cons byte taken ih =>
    by_cases ended : isTerminator byte = true
    · exact .inr ⟨[byte], taken, isLine_cons.mpr (by rw [if_pos ended]), rfl⟩
    · rcases ih with plain | ⟨first, rest, isLine, rfl⟩
      · exact .inl (List.forall_mem_cons.mpr ⟨Bool.eq_false_iff.mpr ended, plain⟩)
      · exact .inr ⟨byte :: first, rest, isLine_cons.mpr (by rwa [if_neg ended]), rfl⟩

/-- As much is stored as was taken. -/
@[simp] theorem length_keep (taken : Bytes) : (keep taken).length = taken.length := by
  rcases plain_or_line taken with plain | ⟨first, rest, isLine, rfl⟩
  · rw [keep_plain plain]
  · simp [isLine.keep_append]

/-- What is stored stands at the index of the byte that it is stored for. -/
theorem getElem?_keep (taken : Bytes) (index : Nat) :
    (keep taken)[index]? = taken[index]?.map (kept taken index) := by
  rcases plain_or_line taken with plain | ⟨first, rest, isLine, rfl⟩
  · have unended : taken.any isTerminator = false := by simpa using plain
    rw [keep_plain plain]
    cases found : taken[index]? with
    | none => rfl
    | some byte =>
      have last : taken.getLast? ≠ some Byte.newline := by
        intro last
        exact absurd (plain _ (List.mem_of_getLast? last)) (by decide)
      simp [kept, line_plain plain, cutAt?, unended, settled_of_getLast? found last]
  · rw [isLine.keep_append]
    by_cases cut : cutAt? first = some index
    · obtain ⟨marker, scan, rfl⟩ := isLine.cutAt?_eq_some.mp cut
      have within : marker.headerEnd < first.length := by
        have fits := (Marker.fits_of_scan scan).within
        rw [length_stored] at fits
        omega
      rw [List.getElem?_append_left (by simpa using within), List.getElem?_append_left within, scan,
        Marker.Scan.apply, Marker.cut, List.getElem?_set_self (by simpa using within),
        List.getElem?_eq_getElem within]
      simp [kept, isLine.line_append, cut]
    · have same : ((Marker.scan (stored first)).apply (stored first))[index]? =
          (stored first)[index]? := by
        cases scan : Marker.scan (stored first) with
        | absent => rfl
        | fault => rfl
        | found marker =>
          exact List.getElem?_set_ne fun here =>
            cut (isLine.cutAt?_eq_some.mpr ⟨marker, scan, here⟩)
      rw [isLine.kept_append rest cut]
      by_cases within : index < first.length
      · rw [List.getElem?_append_left (by simpa using within), List.getElem?_append_left within,
          same, getElem?_stored]
      · rw [settled_eq_id (by omega) (by omega), Option.map_id, id,
          List.getElem?_append_right (by simpa using within),
          List.getElem?_append_right (Nat.le_of_not_lt within)]
        simp

end Header

/-- A header arrives that there is room for, with its terminator, and this comes behind it. -/
structure Inbound.Opens (inbound : Inbound) (capacity : Nat) (line : Bytes) (behind : Inbound) :
    Prop where
  /-- The line arrives, and this is behind it. -/
  arrives : inbound.Arrives line behind
  /-- It is a header with its terminator. -/
  isLine : Header.IsLine line
  /-- There is room for it. -/
  fits : line.length ≤ capacity

namespace Reception

/-- What one receive comes to, by the room in its buffer and the bytes pending before it: how it
ends, which bytes it takes, what is left of the stream and how many bytes are pending then. -/
inductive Course (inbound : Inbound) (capacity : Nat) :
    (pending : Nat) → Outcome Receipt → (taken : Bytes) → Inbound → (left : Nat) → Prop
  /-- An empty buffer receives nothing. -/
  | empty {pending : Nat} (roomless : capacity = 0) :
    Course inbound capacity pending (.ok .bufferTooSmall) [] inbound pending
  /-- The header fills the buffer and has not ended. -/
  | full {front : Bytes} {rest : Inbound} (room : 0 < capacity)
    (arrives : inbound.Arrives front rest) (fills : front.length = capacity)
    (plain : ∀ byte ∈ front, Header.isTerminator byte = false) :
    Course inbound capacity 0 (.ok .bufferTooSmall) front rest 0
  /-- The header breaks off. -/
  | headerBroken {front : Bytes} {halt : Halt} {rest : Inbound}
    (breaks : inbound.BreaksOff front halt rest) (short : front.length < capacity)
    (plain : ∀ byte ∈ front, Header.isTerminator byte = false) :
    Course inbound capacity 0 halt.outcome front rest 0
  /-- The scan of the header faults. -/
  | headless {line : Bytes} {behind : Inbound} (opens : inbound.Opens capacity line behind)
    (scan : Marker.scan (Header.stored line) = .fault) :
    Course inbound capacity 0 .fault line behind 0
  /-- The header announces nothing, and is the message. -/
  | bare {line : Bytes} {behind : Inbound} (opens : inbound.Opens capacity line behind)
    (scan : Marker.scan (Header.stored line) = .absent) :
    Course inbound capacity 0 (.ok (.complete line.length none)) line behind 0
  /-- The buffer has room for the attachment that the header announces. -/
  | whole {line attached : Bytes} {behind rest : Inbound} {marker : Marker}
    (opens : inbound.Opens capacity line behind)
    (scan : Marker.scan (Header.stored line) = .found marker)
    (room : marker.length ≤ capacity - line.length) (arrives : behind.Arrives attached rest)
    (all : attached.length = marker.length) :
    Course inbound capacity 0 (.ok (.complete (line.length + marker.length) (some line.length)))
      (line ++ attached) rest 0
  /-- The buffer has no room for all of the attachment that the header announces. -/
  | part {line attached : Bytes} {behind rest : Inbound} {marker : Marker}
    (opens : inbound.Opens capacity line behind)
    (scan : Marker.scan (Header.stored line) = .found marker)
    (exceeds : capacity - line.length < marker.length) (arrives : behind.Arrives attached rest)
    (fills : attached.length = capacity - line.length) :
    Course inbound capacity 0
      (.ok (.attachmentPending (min (line.length + marker.length) (UInt64.size - 1)) line.length))
      (line ++ attached) rest (marker.length - (capacity - line.length))
  /-- The attachment that the header announces breaks off. -/
  | attachmentBroken {line front : Bytes} {behind rest : Inbound} {marker : Marker} {halt : Halt}
    (opens : inbound.Opens capacity line behind)
    (scan : Marker.scan (Header.stored line) = .found marker)
    (breaks : behind.BreaksOff front halt rest)
    (short : front.length < min marker.length (capacity - line.length)) :
    Course inbound capacity 0 halt.outcome (line ++ front) rest 0
  /-- The buffer has room for what is pending. -/
  | last {pending : Nat} {bytes : Bytes} {rest : Inbound} (owed : 0 < pending)
    (room : pending ≤ capacity) (arrives : inbound.Arrives bytes rest)
    (all : bytes.length = pending) :
    Course inbound capacity pending (.ok (.complete pending (some 0))) bytes rest 0
  /-- What is pending has room in the buffer, and breaks off. -/
  | lastBroken {pending : Nat} {front : Bytes} {halt : Halt} {rest : Inbound} (owed : 0 < pending)
    (room : pending ≤ capacity) (breaks : inbound.BreaksOff front halt rest)
    (short : front.length < pending) :
    Course inbound capacity pending halt.outcome front rest 0
  /-- The buffer has no room for all that is pending. -/
  | chunk {pending : Nat} {bytes : Bytes} {rest : Inbound} (room : 0 < capacity)
    (exceeds : capacity < pending) (arrives : inbound.Arrives bytes rest)
    (fills : bytes.length = capacity) :
    Course inbound capacity pending (.ok (.attachmentPending pending 0)) bytes rest
      (pending - capacity)
  /-- The buffer has no room for all that is pending, and that breaks off. -/
  | chunkBroken {pending : Nat} {front : Bytes} {halt : Halt} {rest : Inbound}
    (exceeds : capacity < pending) (breaks : inbound.BreaksOff front halt rest)
    (short : front.length < capacity) :
    Course inbound capacity pending halt.outcome front rest pending

variable {inbound rest behind : Inbound} {capacity pending left : Nat}
  {outcome : Outcome Receipt} {taken line : Bytes}

/-- What a receive stores for the bytes it takes. -/
def keep (pending : Nat) (taken : Bytes) : Bytes :=
  if pending = 0 then Header.keep taken else taken

/-- A header that there is room for is read, and the receive goes on behind it. -/
theorem receive_opens (opens : inbound.Opens capacity line behind) :
    receive inbound 0 capacity = afterHeader behind (Header.stored line) capacity := by
  have room : 0 < capacity :=
    Nat.lt_of_lt_of_le (List.length_pos_iff.mpr opens.isLine.ne_nil) opens.fits
  rw [receive, if_neg (Nat.ne_of_gt room), if_pos rfl, newMessage,
    opens.arrives.takeHeader opens.isLine opens.fits]

/-- Behind a header that announces an attachment, as much of it is read as there is room for. -/
theorem receive_announced {marker : Marker} (opens : inbound.Opens capacity line behind)
    (scan : Marker.scan (Header.stored line) = .found marker) :
    let reception := receive inbound 0 capacity
    let intake := behind.take (min marker.length (capacity - line.length))
    reception.outcome = intake.outcome.map
        (fun _ => (Marker.Scan.found marker).receipt line.length capacity) ∧
      reception.stored = keep 0 (line ++ intake.taken) ∧ reception.inbound = intake.rest ∧
      reception.pending =
        if intake.outcome.isOk then marker.length - (capacity - line.length) else 0 := by
  have read := announced_take behind (marker.cut (Header.stored line)) marker capacity
  rw [Marker.length_cut, Header.length_stored] at read
  simp only [receive_opens opens, afterHeader, scan, keep, if_true, opens.isLine.keep_append]
  exact read

/-- Where bytes are pending, as many of them are read as there is room for. -/
theorem receive_owed (owed : 0 < pending) (room : 0 < capacity) :
    let reception := receive inbound pending capacity
    let intake := inbound.take (min pending capacity)
    reception.outcome = intake.outcome.map (fun _ => continuation pending capacity) ∧
      reception.stored = keep pending intake.taken ∧ reception.inbound = intake.rest ∧
      reception.pending = if pending ≤ capacity then 0
        else if intake.outcome.isOk then pending - capacity else pending := by
  simp only [receive, keep, if_neg (Nat.ne_of_gt room), if_neg (Nat.ne_of_gt owed)]
  exact drain_take inbound pending capacity

/-- A receive comes to what its course says. -/
theorem Course.receive (course : Course inbound capacity pending outcome taken rest left) :
    let reception := Reception.receive inbound pending capacity
    reception.outcome = outcome ∧ reception.stored = keep pending taken ∧
      reception.inbound = rest ∧ reception.pending = left := by
  cases course with
  | empty roomless =>
    have nothing : keep pending [] = [] := by
      rw [keep, Header.keep_plain (by simp), ite_self]
    simp [Reception.receive, roomless, nothing]
  | full room arrives fills plain =>
    subst fills
    simp [keep, Header.keep_plain plain, Reception.receive, Nat.ne_of_gt room, newMessage,
      arrives.takeHeader_full plain]
  | @headerBroken _ halt _ breaks short plain =>
    rw [keep, if_pos rfl, Header.keep_plain plain, Reception.receive,
      if_neg (Nat.ne_of_gt (Nat.zero_lt_of_lt short)), if_pos rfl, newMessage,
      breaks.takeHeader plain short]
    cases halt <;> simp [Halt.outcome]
  | headless opens scan =>
    have stored := opens.isLine.keep_append []
    rw [scan, Marker.Scan.apply, List.append_nil, List.append_nil] at stored
    simp [receive_opens opens, afterHeader, scan, keep, stored]
  | bare opens scan =>
    have stored := opens.isLine.keep_append []
    rw [scan, Marker.Scan.apply, List.append_nil, List.append_nil] at stored
    simp [receive_opens opens, afterHeader, scan, keep, stored]
  | @whole _ _ _ _ marker opens scan room arrives all =>
    have announced := receive_announced opens scan
    rw [Nat.min_eq_left room, ← all, arrives.take] at announced
    simpa [Outcome.map, Outcome.isOk, Marker.Scan.receipt, all, room, Nat.sub_eq_zero_of_le room]
      using announced
  | part opens scan exceeds arrives fills =>
    have announced := receive_announced opens scan
    rw [Nat.min_eq_right (Nat.le_of_lt exceeds), ← fills, arrives.take] at announced
    simpa [Outcome.map, Outcome.isOk, Marker.Scan.receipt, Marker.countLimit, UInt64.size, fills,
      Nat.not_le_of_lt exceeds] using announced
  | @attachmentBroken _ _ _ _ _ halt opens scan breaks short =>
    have announced := receive_announced opens scan
    rw [breaks.take short] at announced
    cases halt <;> simpa [Halt.outcome, Outcome.map, Outcome.isOk] using announced
  | last owed room arrives all =>
    have read := @receive_owed inbound capacity pending owed (Nat.lt_of_lt_of_le owed room)
    rw [Nat.min_eq_left room, ← all, arrives.take] at read
    simpa [Outcome.map, continuation, all, room] using read
  | @lastBroken _ _ halt _ owed room breaks short =>
    have read := @receive_owed inbound capacity pending owed (Nat.lt_of_lt_of_le owed room)
    rw [Nat.min_eq_left room, breaks.take short] at read
    cases halt <;> simpa [Halt.outcome, Outcome.map, room] using read
  | chunk room exceeds arrives fills =>
    have read := @receive_owed inbound capacity pending (Nat.zero_lt_of_lt exceeds) room
    rw [Nat.min_eq_right (Nat.le_of_lt exceeds), ← fills, arrives.take] at read
    simpa [Outcome.map, Outcome.isOk, continuation, fills, Nat.not_le_of_lt exceeds] using read
  | @chunkBroken _ _ halt _ exceeds breaks short =>
    have read := @receive_owed inbound capacity pending (Nat.zero_lt_of_lt exceeds)
      (Nat.zero_lt_of_lt short)
    rw [Nat.min_eq_right (Nat.le_of_lt exceeds), breaks.take short] at read
    cases halt <;> simpa [Halt.outcome, Outcome.map, Outcome.isOk, Nat.not_le_of_lt exceeds]
      using read

/-- What arrives allows for a course. -/
theorem exists_course (inbound : Inbound) (capacity pending : Nat) :
    ∃ outcome taken rest left, Course inbound capacity pending outcome taken rest left := by
  rcases Nat.eq_zero_or_pos capacity with roomless | room
  · exact ⟨_, _, _, _, .empty roomless⟩
  rcases Nat.eq_zero_or_pos pending with rfl | owed
  · rcases inbound.header_trichotomy capacity with ⟨line, behind, arrives, isLine, fits⟩ |
      ⟨front, rest, arrives, fills, plain⟩ | ⟨front, halt, rest, breaks, short, plain⟩
    · have opens : inbound.Opens capacity line behind := ⟨arrives, isLine, fits⟩
      cases scan : Marker.scan (Header.stored line) with
      | absent => exact ⟨_, _, _, _, .bare opens scan⟩
      | fault => exact ⟨_, _, _, _, .headless opens scan⟩
      | found marker =>
        rcases behind.arrives_or_breaksOff (min marker.length (capacity - line.length)) with
          ⟨attached, rest, arrives, length⟩ | ⟨front, halt, rest, breaks, short⟩
        · rcases Nat.lt_or_ge (capacity - line.length) marker.length with exceeds | room
          · rw [Nat.min_eq_right (Nat.le_of_lt exceeds)] at length
            exact ⟨_, _, _, _, .part opens scan exceeds arrives length⟩
          · rw [Nat.min_eq_left room] at length
            exact ⟨_, _, _, _, .whole opens scan room arrives length⟩
        · exact ⟨_, _, _, _, .attachmentBroken opens scan breaks short⟩
    · exact ⟨_, _, _, _, .full room arrives fills plain⟩
    · exact ⟨_, _, _, _, .headerBroken breaks short plain⟩
  · rcases Nat.lt_or_ge capacity pending with exceeds | fits
    · rcases inbound.arrives_or_breaksOff capacity with
        ⟨bytes, rest, arrives, length⟩ | ⟨front, halt, rest, breaks, short⟩
      · exact ⟨_, _, _, _, .chunk room exceeds arrives length⟩
      · exact ⟨_, _, _, _, .chunkBroken exceeds breaks short⟩
    · rcases inbound.arrives_or_breaksOff pending with
        ⟨bytes, rest, arrives, length⟩ | ⟨front, halt, rest, breaks, short⟩
      · exact ⟨_, _, _, _, .last owed fits arrives length⟩
      · exact ⟨_, _, _, _, .lastBroken owed fits breaks short⟩

/-- Every receive takes a course, and stores the bytes that it takes. -/
theorem course_receive (inbound : Inbound) (capacity pending : Nat) :
    let reception := receive inbound pending capacity
    ∃ taken, Course inbound capacity pending reception.outcome taken reception.inbound
        reception.pending ∧ reception.stored = keep pending taken := by
  obtain ⟨outcome, taken, rest, left, course⟩ := exists_course inbound capacity pending
  obtain ⟨rfl, stored, rfl, rfl⟩ := course.receive
  exact ⟨taken, course, stored⟩

/-- What a receive takes and what it leaves are what there was, and it takes no more than the
buffer has room for. -/
theorem Course.bytes (course : Course inbound capacity pending outcome taken rest left) :
    taken ++ rest.bytes = inbound.bytes ∧ taken.length ≤ capacity := by
  cases course with
  | empty roomless => exact ⟨rfl, Nat.zero_le _⟩
  | full room arrives fills plain => exact ⟨arrives.bytes, Nat.le_of_eq fills⟩
  | headerBroken breaks short plain => exact ⟨breaks.bytes, Nat.le_of_lt short⟩
  | headless opens scan => exact ⟨opens.arrives.bytes, opens.fits⟩
  | bare opens scan => exact ⟨opens.arrives.bytes, opens.fits⟩
  | whole opens scan room arrives all =>
    have fits := opens.fits
    rw [List.append_assoc, arrives.bytes, opens.arrives.bytes, List.length_append]
    exact ⟨rfl, by omega⟩
  | part opens scan exceeds arrives fills =>
    have fits := opens.fits
    rw [List.append_assoc, arrives.bytes, opens.arrives.bytes, List.length_append]
    exact ⟨rfl, by omega⟩
  | attachmentBroken opens scan breaks short =>
    have fits := opens.fits
    rw [List.append_assoc, breaks.bytes, opens.arrives.bytes, List.length_append]
    exact ⟨rfl, by omega⟩
  | last owed room arrives all => exact ⟨arrives.bytes, by omega⟩
  | lastBroken owed room breaks short => exact ⟨breaks.bytes, by omega⟩
  | chunk room exceeds arrives fills => exact ⟨arrives.bytes, Nat.le_of_eq fills⟩
  | chunkBroken exceeds breaks short => exact ⟨breaks.bytes, Nat.le_of_lt short⟩

/-- Where a new message is too large for the buffer, the buffer is full of plain bytes. -/
theorem Course.of_bufferTooSmall (course : Course inbound capacity pending outcome taken rest left)
    (idle : pending = 0) (unended : outcome = .ok .bufferTooSmall) :
    inbound.Arrives taken rest ∧ taken.length = capacity ∧
      ∀ byte ∈ taken, Header.isTerminator byte = false := by
  subst idle
  cases course with
  | empty roomless => exact ⟨.nothing, roomless.symm, by simp⟩
  | full room arrives fills plain => exact ⟨arrives, fills, plain⟩
  | @headerBroken _ halt => cases halt <;> contradiction
  | @attachmentBroken _ _ _ _ _ halt => cases halt <;> contradiction
  | last owed => exact absurd owed (Nat.lt_irrefl 0)
  | lastBroken owed => exact absurd owed (Nat.lt_irrefl 0)
  | chunk room exceeds => exact absurd exceeds (Nat.not_lt_zero _)
  | chunkBroken exceeds => exact absurd exceeds (Nat.not_lt_zero _)
  | headless | bare | whole | part => simp at unended

/-- A new message is too large for the buffer exactly where its header fills that without an
end. -/
theorem bufferTooSmall_iff (inbound : Inbound) (capacity : Nat) :
    (receive inbound 0 capacity).outcome = .ok .bufferTooSmall ↔
      ∃ front rest, inbound.Arrives front rest ∧ front.length = capacity ∧
        ∀ byte ∈ front, Header.isTerminator byte = false := by
  constructor
  · intro unended
    obtain ⟨taken, course, -⟩ := course_receive inbound capacity 0
    exact ⟨taken, _, course.of_bufferTooSmall rfl unended⟩
  · rintro ⟨front, rest, arrives, fills, plain⟩
    rcases Nat.eq_zero_or_pos capacity with roomless | room
    · exact (Course.empty roomless).receive.1
    · exact (Course.full room arrives fills plain).receive.1

end Reception

/-- A header without marker is received as a message without attachment, and as it is stored. -/
theorem Link.receive_bare {link : Link} {buffer line : Bytes} {rest : Inbound}
    (idle : link.pending = 0) (opens : link.transport.inbound.Opens buffer.length line rest)
    (scan : Marker.scan (Header.stored line) = .absent) :
    let run := link.receive buffer
    run.outcome = .ok (.complete line.length none) ∧ run.state.1.transport.inbound = rest ∧
      run.state.1.pending = 0 ∧ run.state.2 = overlay (Header.stored line) buffer := by
  intro run
  have read : link.reception buffer.length =
      ⟨.ok (.complete line.length none), Header.stored line, rest, 0, []⟩ := by
    rw [reception, idle, Reception.receive_opens opens, Reception.afterHeader, scan]
    simp only [Header.length_stored]
  rw [outcome_receive, inbound_receive, pending_receive, buffer_receive, read]
  exact ⟨rfl, rfl, rfl, rfl⟩

/-- Behind the bytes that are stored a buffer is as it was. -/
theorem getElem?_overlay_of_le {stored buffer : Bytes} {index : Nat}
    (behind : stored.length ≤ index) : (overlay stored buffer)[index]? = buffer[index]? := by
  rw [overlay, List.getElem?_append_right behind, List.getElem?_drop,
    Nat.add_sub_cancel' behind]

/-- The whole effect of one receive. It takes bytes off the front of the stream, no more than the
buffer has room for, and how it ends, what is left and what is pending are those of its course; no
other course that what arrives allows for has others. The buffer stays as long as it was, and behind
as many bytes as were taken it stays as it was. In front of that the bytes that were taken stand in
order, each as it came where attachment bytes were pending, and else each as it came but for those
that end a header: its newline, a carriage return in front of that, and the separating byte of a
marker. A new message is too large for the buffer exactly where its bytes fill that with none among
them that ends a header. Of the link nothing changes but what is to arrive and what is pending. -/
theorem Link.receive_effect (link : Link) (buffer : Bytes) :
    let inbound := link.transport.inbound
    let run := link.receive buffer
    let after := run.state.1
    let left := run.state.2
    (∃ taken,
      Reception.Course inbound buffer.length link.pending run.outcome taken
        after.transport.inbound after.pending ∧
      taken ++ after.transport.inbound.bytes = inbound.bytes ∧ taken.length ≤ buffer.length ∧
      (∀ index, taken.length ≤ index → left[index]? = buffer[index]?) ∧
      (∀ index byte, taken[index]? = some byte → left[index]? =
        some (if link.pending = 0 then Header.kept taken index byte else byte)) ∧
      (link.pending = 0 → run.outcome = .ok .bufferTooSmall → taken.length = buffer.length)) ∧
    (∀ outcome taken rest pending,
      Reception.Course inbound buffer.length link.pending outcome taken rest pending →
        run.outcome = outcome ∧ after.transport.inbound = rest ∧ after.pending = pending) ∧
    (link.pending = 0 → (run.outcome = .ok .bufferTooSmall ↔
      ∃ front rest, inbound.Arrives front rest ∧ front.length = buffer.length ∧
        ∀ byte ∈ front, Header.isTerminator byte = false)) ∧
    left.length = buffer.length ∧
    after = { link with
      transport := { link.transport with inbound := after.transport.inbound }
      pending := after.pending } := by
  intro inbound run after left
  obtain ⟨taken, course, stored⟩ :=
    Reception.course_receive inbound buffer.length link.pending
  have placed : left = overlay (Reception.keep link.pending taken) buffer :=
    congrArg (overlay · buffer) stored
  have length : (Reception.keep link.pending taken).length = taken.length := by
    rw [Reception.keep]
    split <;> simp
  refine ⟨⟨taken, course, course.bytes.1, course.bytes.2, ?_, ?_, ?_⟩, ?_, ?_,
    length_receive link buffer, rfl⟩
  · intro index behind
    rw [placed, getElem?_overlay_of_le (by rwa [length])]
  · intro index byte found
    have within : index < taken.length := (List.getElem?_eq_some_iff.mp found).1
    rw [placed, overlay, List.getElem?_append_left (by rwa [length]), Reception.keep]
    split
    · rw [Header.getElem?_keep, found]
      rfl
    · exact found
  · intro idle unended
    exact (course.of_bufferTooSmall idle unended).2.1
  · intro outcome taken rest pending course
    obtain ⟨ends, -, leaves, owes⟩ := course.receive
    exact ⟨ends, leaves, owes⟩
  · intro idle
    have unended := Reception.bufferTooSmall_iff inbound buffer.length
    rw [← idle] at unended
    exact unended

end AgentLink
