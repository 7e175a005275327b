import AgentLink.Greeting
import AgentLink.Proofs.LineEnds

/-!
# Greeting lines

A buffer gives a process number where it begins with `PID`, a space and digits that denote a word
of 32 bits, with nothing behind them or a NUL (`Greeting.processNumber_eq_ok`). Digits behind a
blank are what the count of a marker looks like, but no marker ends in the lead of a greeting, so
that a greeting is received as a message without attachment (`Greeting.received`). It then gives its
number (`Greeting.processNumber_received`), unless a carriage return came with it, of which a space
is left behind the digits.
-/
namespace AgentLink

namespace Greeting

/-- A buffer that gives a process number: `PID`, a space and digits that denote the number, which is
a word of 32 bits, with nothing behind the digits or a NUL. -/
def Gives (buffer : Bytes) (number : Nat) : Prop :=
  ∃ digits behind, buffer = lead ++ digits ++ behind ∧ digits ≠ [] ∧
    (∀ byte ∈ digits, Byte.isDigit byte = true) ∧ (∀ byte ∈ behind.head?, byte = Byte.nul) ∧
    Decimal.value digits = number ∧ number < UInt32.size

/-- The line of a buffer is what stands in front of its first NUL, or all of it. -/
theorem line_eq_iff {buffer text : Bytes} :
    line buffer = text ↔ (∀ byte ∈ text, byte ≠ Byte.nul) ∧
      ∃ behind, buffer = text ++ behind ∧ ∀ byte ∈ behind.head?, byte = Byte.nul := by
  constructor
  · rintro rfl
    obtain ⟨split, plain, ends⟩ := Bytes.split_iff.mp ⟨rfl, rfl⟩
    exact ⟨by simpa [line] using plain, _, split, by simpa using ends⟩
  · rintro ⟨plain, behind, split, ends⟩
    exact (Bytes.split_iff.mpr ⟨split, by simpa using plain, by simpa using ends⟩).1

/-- No byte of a greeting line is less than a space. -/
theorem space_le {digits : Bytes} (all : ∀ byte ∈ digits, Byte.isDigit byte = true) :
    ∀ byte ∈ lead ++ digits, Byte.space ≤ byte := by
  intro byte member
  rcases List.mem_append.mp member with front | digit
  · simp only [lead, List.mem_cons, List.not_mem_nil, or_false] at front
    rcases front with rfl | rfl | rfl | rfl <;> decide
  · have digit := all byte digit
    simp only [Byte.isDigit, Bool.and_eq_true, decide_eq_true_eq] at digit
    exact UInt8.le_trans (by decide) digit.1

/-- A byte that is not less than a space is none of those that are. -/
theorem ne_of_space_le {byte other : UInt8} (least : Byte.space ≤ byte)
    (less : other < Byte.space) : byte ≠ other := by
  rintro rfl
  exact UInt8.not_le.mpr less least

/-- A line gives the number of the digits behind its lead. -/
theorem number?_eq_some {text : Bytes} {number : Nat} :
    number? text = some number ↔ ∃ digits, text = lead ++ digits ∧ digits ≠ [] ∧
      (∀ byte ∈ digits, Byte.isDigit byte = true) ∧ Decimal.value digits = number ∧
      number < UInt32.size := by
  unfold number?
  by_cases leads : lead.isPrefixOf text = true
  · obtain ⟨digits, rfl⟩ := List.isPrefixOf_iff_prefix.mp leads
    rw [if_pos leads, List.drop_left, Decimal.read?_eq_some]
    simp [processLimit, Decimal.IsNumeral, and_assoc]
  · rw [if_neg leads]
    refine iff_of_false (by simp) ?_
    rintro ⟨digits, rfl, -⟩
    exact leads (List.isPrefixOf_iff_prefix.mpr (List.prefix_append lead digits))

/-- A process number is found in the buffers that give one. -/
theorem processNumber_eq_ok {buffer : Bytes} {number : Nat} :
    processNumber buffer = .ok number ↔ Gives buffer number := by
  have found : processNumber buffer = .ok number ↔ number? (line buffer) = some number := by
    unfold processNumber
    cases number? (line buffer) <;> simp
  rw [found, number?_eq_some]
  constructor
  · rintro ⟨digits, text, some, all, denotes⟩
    obtain ⟨-, behind, split, ends⟩ := line_eq_iff.mp text
    exact ⟨digits, behind, split, some, all, ends, denotes⟩
  · rintro ⟨digits, behind, split, some, all, ends, denotes⟩
    refine ⟨digits, line_eq_iff.mpr ⟨?_, behind, split, ends⟩, some, all, denotes⟩
    exact fun byte member => ne_of_space_le (space_le all byte member) (by decide)

/-- Leading zeros are read, and nothing behind a NUL. -/
example : processNumber [80, 73, 68, 32, 48, 55, 0, 33] = .ok 7 := by decide

/-- Every other buffer is refused. -/
theorem processNumber_eq_failed {buffer : Bytes} (none : ∀ number, ¬Gives buffer number) :
    processNumber buffer = .failed (.invalidArgument .greeting) := by
  unfold processNumber
  split
  · rename_i number found
    refine absurd (processNumber_eq_ok.mp ?_) (none number)
    rw [processNumber, found]
  · rfl

/-- A greeting line ends in no marker, however many digits it has: the scan reads them as a count
and looks for the word in the lead, which is too short. -/
theorem scan_lead {digits blanks : Bytes} (some : digits ≠ [])
    (all : ∀ byte ∈ digits, Byte.isDigit byte = true)
    (trailing : ∀ byte ∈ blanks, Byte.isBlank byte = true) :
    Marker.scan (lead ++ digits ++ blanks ++ [Byte.nul]) = .absent := by
  rcases Nat.lt_or_ge (lead ++ digits ++ blanks ++ [Byte.nul]).length 9 with short | long
  · exact if_pos short
  · have stops : ∀ byte ∈ lead.getLast?, Byte.isDigit byte = false := by
      simp [lead, Byte.isDigit]
    rw [Marker.scan_counted some all trailing stops long (.inr rfl)]
    simp [Marker.scanSeparator, Marker.scanKeyword, Marker.keyword, lead, Byte.isBlank]

/-- A greeting is received as a message without attachment, and its line is what stands in the
buffer in front of a NUL. -/
theorem received {link : Link} {buffer first digits blanks : Bytes} {rest : Inbound}
    (idle : link.pending = 0) (opens : link.transport.inbound.Opens buffer.length first rest)
    (stored : Header.stored first = lead ++ digits ++ blanks ++ [Byte.nul]) (some : digits ≠ [])
    (all : ∀ byte ∈ digits, Byte.isDigit byte = true)
    (trailing : ∀ byte ∈ blanks, Byte.isBlank byte = true) :
    let run := link.receive buffer
    run.outcome = .ok (.complete first.length none) ∧ run.state.1.transport.inbound = rest ∧
      run.state.1.pending = 0 ∧ line run.state.2 = lead ++ digits ++ blanks := by
  have scan := stored ▸ scan_lead some all trailing
  obtain ⟨outcome, left, unowed, shown⟩ := Link.receive_bare idle opens scan
  refine ⟨outcome, left, unowed, line_eq_iff.mpr
    ⟨?_, Byte.nul :: buffer.drop first.length, ?_, ?_⟩⟩
  · intro byte member
    rcases List.mem_append.mp member with front | blank
    · exact ne_of_space_le (space_le all byte front) (by decide)
    · rintro rfl
      exact absurd (trailing _ blank) (by decide)
  · have length := Header.length_stored first
    rw [stored] at length
    rw [shown, stored, overlay, length, List.append_assoc]
    rfl
  · simp

/-- A buffer whose line is a lead and digits gives the number they denote, if that is a word of 32
bits. -/
theorem processNumber_digits {buffer digits : Bytes} (spelled : line buffer = lead ++ digits)
    (some : digits ≠ []) (all : ∀ byte ∈ digits, Byte.isDigit byte = true) :
    processNumber buffer = if Decimal.value digits < UInt32.size then .ok (Decimal.value digits)
      else .failed (.invalidArgument .greeting) := by
  have found : ∀ number, number? (line buffer) = .some number ↔
      Decimal.value digits = number ∧ number < UInt32.size := by
    intro number
    rw [number?_eq_some, spelled]
    constructor
    · rintro ⟨others, same, -, -, denotes⟩
      obtain rfl := List.append_cancel_left same
      exact denotes
    · exact fun denotes => ⟨digits, rfl, some, all, denotes⟩
  unfold processNumber
  split
  · rename_i number given
    obtain ⟨rfl, word⟩ := (found number).mp given
    rw [if_pos word]
  · rename_i none
    rw [if_neg]
    intro word
    rw [(found _).mpr ⟨rfl, word⟩] at none
    contradiction

/-- A buffer whose line ends in a space gives no number. -/
theorem processNumber_spaced {buffer text : Bytes} (spelled : line buffer = text ++ [Byte.space]) :
    processNumber buffer = .failed (.invalidArgument .greeting) := by
  unfold processNumber
  split
  · rename_i number given
    obtain ⟨digits, split, some, all, -⟩ := number?_eq_some.mp given
    rw [spelled] at split
    obtain ⟨front, last, rfl⟩ := (List.eq_nil_or_concat digits).resolve_left some
    rw [List.concat_eq_append, ← List.append_assoc] at split
    obtain ⟨-, same⟩ := List.append_inj' split rfl
    have digit := all last (by simp)
    rw [← List.singleton_inj.mp same] at digit
    exact absurd digit (by decide)
  · rfl

/-- A buffer gives a process number exactly where it holds a greeting line for a word of 32 bits, in
front of a NUL or alone; every other buffer is refused. A link that is owed nothing receives a
greeting with any digits as a message without attachment, where the buffer has room for it. The
buffer then gives the number that the digits denote, if that is a word of 32 bits, where the line
was ended by a NUL or by a newline, and none where a carriage return stood in front of the
newline. -/
theorem processNumber_received (buffer : Bytes) :
    (∀ number, processNumber buffer = .ok number ↔ Gives buffer number) ∧
      ((∀ number, ¬Gives buffer number) →
        processNumber buffer = .failed (.invalidArgument .greeting)) ∧
      ∀ (digits : Bytes) (link : Link) (rest : Inbound), digits ≠ [] →
        (∀ byte ∈ digits, Byte.isDigit byte = true) → link.pending = 0 →
        let arrives (ends : Bytes) : Prop :=
          link.transport.inbound.Arrives (lead ++ digits ++ ends) rest ∧
            lead.length + digits.length + ends.length ≤ buffer.length
        let run := link.receive buffer
        let received (length : Nat) : Prop :=
          run.outcome = .ok (.complete length none) ∧
            run.state.1.transport.inbound = rest ∧ run.state.1.pending = 0
        let number := processNumber run.state.2
        (arrives [Byte.nul] ∨ arrives [Byte.newline] →
          received (lead.length + digits.length + 1) ∧
            number = if Decimal.value digits < UInt32.size then .ok (Decimal.value digits)
              else .failed (.invalidArgument .greeting)) ∧
          (arrives [Byte.carriageReturn, Byte.newline] →
            received (lead.length + digits.length + 2) ∧
              number = .failed (.invalidArgument .greeting)) := by
  refine ⟨fun _ => processNumber_eq_ok, processNumber_eq_failed, ?_⟩
  intro digits link rest some all idle arrives run received number
  have plain : ∀ byte ∈ lead ++ digits, Header.isTerminator byte = false := by
    intro byte member
    have least := space_le all byte member
    simp [Header.isTerminator, ne_of_space_le least (show Byte.nul < Byte.space by decide),
      ne_of_space_le least (show Byte.newline < Byte.space by decide)]
  have length : ∀ ends : Bytes, (lead ++ digits ++ ends).length =
      lead.length + digits.length + ends.length := by
    intro ends
    rw [List.length_append, List.length_append]
  constructor
  · intro came
    obtain ⟨last, ends, ⟨here, room⟩, stored⟩ : ∃ last, Header.isTerminator last = true ∧
        arrives [last] ∧ Header.stored (lead ++ digits ++ [last]) =
          lead ++ digits ++ [] ++ [Byte.nul] := by
      rw [List.append_nil]
      rcases came with came | came
      · exact ⟨Byte.nul, rfl, came, Header.stored_nul _⟩
      · refine ⟨Byte.newline, rfl, came, Header.stored_newline fun returned => ?_⟩
        have least := space_le all _ (List.mem_of_getLast? returned)
        exact absurd least (by decide)
    have opens : link.transport.inbound.Opens buffer.length (lead ++ digits ++ [last]) rest :=
      ⟨here, Header.isLine_concat plain ends, length [last] ▸ room⟩
    obtain ⟨outcome, left, unowed, shown⟩ := Greeting.received idle opens stored some all (by simp)
    rw [length] at outcome
    rw [List.append_nil] at shown
    exact ⟨⟨outcome, left, unowed⟩, processNumber_digits shown some all⟩
  · rintro ⟨here, room⟩
    have returns : Header.isTerminator Byte.carriageReturn = false := rfl
    have ends : Header.isTerminator Byte.newline = true := rfl
    have line := Header.isLine_pair plain returns ends
    have stored : Header.stored (lead ++ digits ++ [Byte.carriageReturn, Byte.newline]) =
        lead ++ digits ++ [Byte.space] ++ [Byte.nul] := by
      rw [Header.stored_returned, ← List.append_cons]
    obtain ⟨outcome, left, unowed, shown⟩ := Greeting.received idle
      ⟨here, line, length _ ▸ room⟩ stored some all (by simp [Byte.space, Byte.isBlank])
    rw [length] at outcome
    exact ⟨⟨outcome, left, unowed⟩, processNumber_spaced shown⟩

end Greeting

end AgentLink
