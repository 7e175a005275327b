import AgentLink.Proofs.ReadingOn
import AgentLink.Proofs.Script

/-!
# Where reading stops

Bytes arrive until a read gets none: at the end of the stream, where nothing comes for as long as a
read waits, or at a failure that is more than an interruption (`Inbound.BreaksOff`). So many bytes
arrive or the stream breaks off within them (`arrives_or_breaksOff`), and a header comes to its end,
fills the room there is for it, or breaks off (`header_trichotomy`). Reading takes the bytes that
arrive in each case and ends as the stream says.
-/
namespace AgentLink.Inbound

variable {inbound rest : Inbound} {room : Nat} {halt : Halt} {front : Bytes}

/-- The next byte does not arrive, and this is left of the stream behind the read that finds it
out. A read that was merely interrupted is made again. -/
inductive Stops : Inbound → Halt → Inbound → Prop
  /-- The stream has ended. -/
  | finish {inbound rest : Inbound} (read : inbound.read 1 = (.bytes [], rest)) :
    Stops inbound .finish rest
  /-- Nothing comes any more. -/
  | stall {inbound rest : Inbound} (read : inbound.read 1 = (.stalled, rest)) :
    Stops inbound .stall rest
  /-- The next read fails. -/
  | failure {inbound rest : Inbound} {error : SystemError}
    (read : inbound.read 1 = (.failure error, rest)) (hard : error.isInterruption = false) :
    Stops inbound (.failure error) rest
  /-- The next read is interrupted, and is made again. -/
  | again {inbound next rest : Inbound} {error : SystemError} {halt : Halt}
    (read : inbound.read 1 = (.failure error, next)) (interrupted : error.isInterruption = true)
    (later : Stops next halt rest) : Stops inbound halt rest

/-- Some bytes arrive, and the next one does not. -/
def BreaksOff (inbound : Inbound) (front : Bytes) (halt : Halt) (rest : Inbound) : Prop :=
  ∃ next, inbound.Arrives front next ∧ next.Stops halt rest

/-- The next byte arrives or does not. -/
theorem arrives_or_stops (inbound : Inbound) :
    (∃ byte rest, inbound.Arrives [byte] rest) ∨ ∃ halt rest, inbound.Stops halt rest := by
  induction inbound using read_induction with
  | again inbound again =>
    cases step : inbound.read 1 with
    | mk reply next =>
      cases reply with
      | bytes got =>
        cases got with
        | nil => exact .inr ⟨.finish, next, .finish step⟩
        | cons byte bytes =>
          obtain rfl := length_read_one step
          exact .inl ⟨byte, next, .byte step .nothing⟩
      | failure error =>
        by_cases interrupted : error.isInterruption = true
        · rcases again step with ⟨byte, rest, later⟩ | ⟨halt, rest, later⟩
          · exact .inl ⟨byte, rest, .again step interrupted later⟩
          · exact .inr ⟨halt, rest, .again step interrupted later⟩
        · exact .inr ⟨.failure error, next, .failure step (Bool.eq_false_iff.mpr interrupted)⟩
      | stalled => exact .inr ⟨.stall, next, .stall step⟩

/-- So many bytes arrive, or the stream breaks off within them. -/
theorem arrives_or_breaksOff (inbound : Inbound) (count : Nat) :
    (∃ bytes rest, inbound.Arrives bytes rest ∧ bytes.length = count) ∨
      ∃ front halt rest, inbound.BreaksOff front halt rest ∧ front.length < count := by
  induction count generalizing inbound with
  | zero => exact .inl ⟨[], inbound, .nothing, rfl⟩
  | succ count ih =>
    rcases inbound.arrives_or_stops with ⟨byte, next, first⟩ | ⟨halt, rest, stops⟩
    · rcases ih next with ⟨bytes, rest, arrives, length⟩ | ⟨front, halt, rest, breaks, short⟩
      · exact .inl ⟨byte :: bytes, rest, first.append arrives, congrArg Nat.succ length⟩
      · obtain ⟨last, arrives, stops⟩ := breaks
        exact .inr ⟨byte :: front, halt, rest, ⟨last, first.append arrives, stops⟩,
          Nat.succ_lt_succ short⟩
    · exact .inr ⟨[], halt, rest, ⟨inbound, .nothing, stops⟩, Nat.succ_pos count⟩

/-- A header comes to its end within the room there is for it, fills it, or breaks off. -/
theorem header_trichotomy (inbound : Inbound) (room : Nat) :
    (∃ line rest, inbound.Arrives line rest ∧ Header.IsLine line ∧ line.length ≤ room) ∨
      (∃ front rest, inbound.Arrives front rest ∧ front.length = room ∧
        ∀ byte ∈ front, Header.isTerminator byte = false) ∨
      ∃ front halt rest, inbound.BreaksOff front halt rest ∧ front.length < room ∧
        ∀ byte ∈ front, Header.isTerminator byte = false := by
  induction room generalizing inbound with
  | zero => exact .inr (.inl ⟨[], inbound, .nothing, rfl, by simp⟩)
  | succ room ih =>
    rcases inbound.arrives_or_stops with ⟨byte, next, first⟩ | ⟨halt, rest, stops⟩
    · by_cases ended : Header.isTerminator byte = true
      · exact .inl ⟨[byte], next, first, Header.isLine_cons.mpr (by rw [if_pos ended]),
          Nat.succ_le_succ (Nat.zero_le room)⟩
      · have plain : Header.isTerminator byte = false := Bool.eq_false_iff.mpr ended
        rcases ih next with ⟨line, rest, arrives, isLine, fits⟩ |
          ⟨front, rest, arrives, full, unended⟩ | ⟨front, halt, rest, breaks, short, unended⟩
        · refine .inl ⟨byte :: line, rest, first.append arrives, Header.isLine_cons.mpr ?_,
            Nat.succ_le_succ fits⟩
          rwa [if_neg ended]
        · exact .inr (.inl ⟨byte :: front, rest, first.append arrives, congrArg Nat.succ full,
            List.forall_mem_cons.mpr ⟨plain, unended⟩⟩)
        · obtain ⟨last, arrives, stops⟩ := breaks
          exact .inr (.inr ⟨byte :: front, halt, rest, ⟨last, first.append arrives, stops⟩,
            Nat.succ_lt_succ short, List.forall_mem_cons.mpr ⟨plain, unended⟩⟩)
    · exact .inr (.inr ⟨[], halt, rest, ⟨inbound, .nothing, stops⟩, Nat.succ_pos room, by simp⟩)

/-- No byte is lost where the next one does not arrive. -/
theorem Stops.bytes (stops : inbound.Stops halt rest) : rest.bytes = inbound.bytes := by
  induction stops with
  | finish read => exact (bytes_of_read read).1
  | stall read => exact (bytes_of_read read).1
  | failure read hard => exact (bytes_of_read read).1
  | again read interrupted later ih => exact ih.trans (bytes_of_read read).1

/-- What arrived and what is left are what there was. -/
theorem BreaksOff.bytes (breaks : inbound.BreaksOff front halt rest) :
    front ++ rest.bytes = inbound.bytes := by
  obtain ⟨next, arrives, stops⟩ := breaks
  rw [stops.bytes, arrives.bytes]

/-- Reading takes nothing where the next byte does not arrive. -/
theorem Stops.take (stops : inbound.Stops halt rest) (some : room ≠ 0) :
    inbound.take room = ⟨halt.outcome, [], rest⟩ := by
  induction stops with
  | finish read => exact take_read some (read_nothing Nat.one_ne_zero read rfl some)
  | stall read => exact take_read some (read_nothing Nat.one_ne_zero read rfl some)
  | failure read hard =>
    rw [take_read some (read_nothing Nat.one_ne_zero read rfl some)]
    exact if_neg (Bool.eq_false_iff.mp hard)
  | again read interrupted later ih =>
    rw [take_read some (read_nothing Nat.one_ne_zero read rfl some)]
    exact (if_pos interrupted).trans ih

/-- Reading a header takes nothing where the next byte does not arrive. -/
theorem Stops.takeHeader (stops : inbound.Stops halt rest) :
    inbound.takeHeader (room + 1) = ⟨halt.outcome, [], rest⟩ := by
  induction stops with
  | finish read => exact takeHeader_read read
  | stall read => exact takeHeader_read read
  | failure read hard =>
    rw [takeHeader_read read]
    exact if_neg (Bool.eq_false_iff.mp hard)
  | again read interrupted later ih =>
    rw [takeHeader_read read]
    exact (if_pos interrupted).trans ih

/-- Reading more bytes than arrive takes those that do. -/
theorem BreaksOff.take (breaks : inbound.BreaksOff front halt rest) (short : front.length < room) :
    inbound.take room = ⟨halt.outcome, front, rest⟩ := by
  obtain ⟨next, arrives, stops⟩ := breaks
  obtain ⟨more, rfl⟩ := Nat.exists_eq_add_of_le (Nat.le_of_lt short)
  have wanted : more ≠ 0 := by
    rintro rfl
    exact absurd short (Nat.lt_irrefl _)
  rw [take_add, arrives.take]
  simp [Intake.andThen, Intake.following, Outcome.isOk, stops.take wanted]

/-- Plain bytes of a header are taken one after another, and then what follows them. -/
theorem Arrives.takeHeader_plain {next : Inbound} (arrives : inbound.Arrives front next)
    (plain : ∀ byte ∈ front, Header.isTerminator byte = false) (more : Nat) :
    inbound.takeHeader (front.length + more) =
      { next.takeHeader more with taken := front ++ (next.takeHeader more).taken } := by
  induction arrives with
  | nothing => rw [List.length_nil, Nat.zero_add, List.nil_append]
  | byte read later ih =>
    obtain ⟨first, others⟩ := List.forall_mem_cons.mp plain
    rw [List.length_cons, Nat.add_right_comm, takeHeader_read read]
    simp only [first, ih others]
    rfl
  | again read interrupted later ih =>
    rw [List.length_cons, Nat.add_right_comm, takeHeader_read read]
    simp only [if_pos interrupted]
    rw [← Nat.add_right_comm]
    exact ih plain

/-- A header that breaks off is read as far as it comes. -/
theorem BreaksOff.takeHeader (breaks : inbound.BreaksOff front halt rest)
    (plain : ∀ byte ∈ front, Header.isTerminator byte = false) (short : front.length < room) :
    inbound.takeHeader room = ⟨halt.outcome, front, rest⟩ := by
  obtain ⟨next, arrives, stops⟩ := breaks
  obtain ⟨more, rfl⟩ := Nat.exists_eq_add_of_lt short
  rw [Nat.add_assoc, arrives.takeHeader_plain plain, stops.takeHeader, List.append_nil]

/-- A header that fills the room for it is read so far. -/
theorem Arrives.takeHeader_full (arrives : inbound.Arrives front rest)
    (plain : ∀ byte ∈ front, Header.isTerminator byte = false) :
    inbound.takeHeader front.length = ⟨.ok false, front, rest⟩ := by
  have whole := arrives.takeHeader_plain plain 0
  rwa [Nat.add_zero, Inbound.takeHeader, List.append_nil] at whole

end AgentLink.Inbound
