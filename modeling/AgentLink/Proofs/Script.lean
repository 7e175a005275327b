import AgentLink.Link.Receive

/-!
# Read scripts

The bytes of a stream reach a reader in pieces, and reads that were interrupted come between
them. A script forgets both: it lists what a reader would find that reads one byte at a time.
Reading a stream in pieces is reading its script byte by byte (`reading_take`,
`reading_takeHeader`), as long as no read of data comes back empty-handed.
-/
namespace AgentLink

/-- Why a read gets no byte. -/
inductive Halt where
  /-- The stream ends. -/
  | finish
  /-- Nothing arrives, for as long as the read waits. -/
  | stall
  /-- The read fails, and was not merely interrupted. -/
  | failure (error : SystemError)
deriving Repr, DecidableEq

/-- How an operation ends whose read gets no byte. -/
def Halt.outcome {α : Type} : Halt → Outcome α
  | finish => .failed .peerClosed
  | stall => .waiting
  | failure error => .failed (.transport error)

/-- What a read of one byte finds. -/
inductive Event where
  /-- A byte. -/
  | byte (byte : UInt8)
  /-- No byte. -/
  | halt (halt : Halt)
deriving Repr, DecidableEq

namespace Arrival

/-- What single-byte reads find in an arrival. An interrupted read is made again, so an
interruption is never found. -/
def events : Arrival → List Event
  | .data bytes _ => bytes.map .byte
  | .finish => [.halt .finish]
  | .stall => [.halt .stall]
  | .failure error => if error.isInterruption then [] else [.halt (.failure error)]

/-- Every read of data gets at least one byte. -/
def Flows : Arrival → Prop
  | .data _ chunk => chunk ≠ some 0
  | .finish | .stall | .failure _ => True

/-- Whether an arrival flows can be decided. -/
instance : DecidablePred Flows
  | .data _ chunk => inferInstanceAs (Decidable (chunk ≠ some 0))
  | .finish | .stall | .failure _ => isTrue trivial

end Arrival

/-- What single-byte reads find in a stream, in order. -/
structure Script where
  /-- The events in order. -/
  events : List Event
  /-- Whether the stream ends after them; if not, a later read waits in vain. -/
  ended : Bool
deriving Repr, DecidableEq

namespace Script

/-- What the next read finds. -/
def head (script : Script) : Event :=
  script.events.head?.getD (.halt (if script.ended then .finish else .stall))

/-- What is left after the next read. -/
def tail (script : Script) : Script := { script with events := script.events.tail }

/-- A script with bytes in front of it. -/
def behind (script : Script) (bytes : Bytes) : Script :=
  { script with events := bytes.map .byte ++ script.events }

/-- A script with no bytes in front of it is the script. -/
@[simp] theorem behind_nil (script : Script) : script.behind [] = script := rfl

/-- Bytes stand in front in their own order. -/
theorem behind_append (script : Script) (front back : Bytes) :
    script.behind (front ++ back) = (script.behind back).behind front := by
  simp [behind]

/-- The first of the bytes in front is what the next read finds. -/
@[simp] theorem head_behind_cons (script : Script) (byte : UInt8) (bytes : Bytes) :
    (script.behind (byte :: bytes)).head = .byte byte := rfl

/-- The first of the bytes in front is read first. -/
@[simp] theorem tail_behind_cons (script : Script) (byte : UInt8) (bytes : Bytes) :
    (script.behind (byte :: bytes)).tail = script.behind bytes := rfl

end Script

/-- What reading a script got: how it ended, the bytes it took, and what is left. -/
structure Reading (α : Type) where
  /-- How reading ended. -/
  outcome : Outcome α
  /-- The bytes taken, also those taken before a failure. -/
  taken : Bytes
  /-- What is left. -/
  rest : Script
deriving Repr, DecidableEq

/-- A reading that took bytes before. -/
def Reading.following {α : Type} (reading : Reading α) (bytes : Bytes) : Reading α :=
  { reading with taken := bytes ++ reading.taken }

namespace Script

/-- Read `room` bytes one after another. -/
def take (script : Script) : (room : Nat) → Reading Unit
  | 0 => ⟨.ok (), [], script⟩
  | room + 1 =>
    match script.head with
    | .byte byte => (script.tail.take room).following [byte]
    | .halt halt => ⟨halt.outcome, [], script.tail⟩

/-- Read bytes one after another until a header ends or `room` bytes are taken. -/
def takeHeader (script : Script) : (room : Nat) → Reading Bool
  | 0 => ⟨.ok false, [], script⟩
  | room + 1 =>
    match script.head with
    | .byte byte =>
      if Header.isTerminator byte then ⟨.ok true, [byte], script.tail⟩
      else (script.tail.takeHeader room).following [byte]
    | .halt halt => ⟨halt.outcome, [], script.tail⟩

/-- Where no byte stands in front, none is taken. -/
theorem take_halt {script : Script} {halt : Halt} (found : script.head = .halt halt)
    {room : Nat} (positive : 0 < room) : script.take room = ⟨halt.outcome, [], script.tail⟩ := by
  obtain ⟨fewer, rfl⟩ := Nat.exists_eq_add_one.mpr positive
  simp only [take, found]

/-- Bytes in front are taken first. -/
theorem take_behind (script : Script) (bytes : Bytes) (room : Nat) :
    (script.behind bytes).take (bytes.length + room) = (script.take room).following bytes := by
  induction bytes with
  | nil => simp [Reading.following]
  | cons byte bytes ih =>
    rw [List.length_cons, Nat.add_right_comm]
    simp only [take, head_behind_cons, tail_behind_cons, ih]
    rfl

/-- Reading as many bytes as stand in front takes just those. -/
theorem take_length (script : Script) (bytes : Bytes) :
    (script.behind bytes).take bytes.length = ⟨.ok (), bytes, script⟩ := by
  have taken := take_behind script bytes 0
  simpa [take, Reading.following] using taken

/-- Bytes in front that end no header are taken first. -/
theorem takeHeader_behind (script : Script) {bytes : Bytes}
    (plain : ∀ byte ∈ bytes, Header.isTerminator byte = false) (room : Nat) :
    (script.behind bytes).takeHeader (bytes.length + room) =
      (script.takeHeader room).following bytes := by
  induction bytes with
  | nil => simp [Reading.following]
  | cons byte bytes ih =>
    have first : Header.isTerminator byte = false := plain byte (.head _)
    have later := ih fun other member => plain other (.tail _ member)
    rw [List.length_cons, Nat.add_right_comm]
    simp only [takeHeader, head_behind_cons, tail_behind_cons, first, later]
    rfl

end Script

namespace Inbound

/-- What single-byte reads find in a stream. -/
def script (inbound : Inbound) : Script := ⟨inbound.arrivals.flatMap Arrival.events, inbound.ended⟩

/-- Every read of data gets at least one byte. -/
def Flows (inbound : Inbound) : Prop := ∀ arrival ∈ inbound.arrivals, arrival.Flows

/-- Whether a stream flows can be decided. -/
instance : DecidablePred Flows := fun inbound =>
  inferInstanceAs (Decidable (∀ arrival ∈ inbound.arrivals, arrival.Flows))

end Inbound

/-- What a read says of the script it was made on and of the script it leaves. -/
def ReadReply.Tells (room : Nat) (before after : Script) : ReadReply → Prop
  | .bytes [] => before.head = .halt .finish ∧ after = before.tail
  | .bytes (byte :: more) => before = after.behind (byte :: more) ∧ more.length < room
  | .failure error =>
    if error.isInterruption then after = before
    else before.head = .halt (.failure error) ∧ after = before.tail
  | .stalled => before.head = .halt .stall ∧ after = before.tail

namespace Inbound

/-- A read of at least one byte finds what the script says, and no more than it asked for. -/
theorem readArrivals_tells {ended : Bool} {room : Nat} (positive : 0 < room)
    {arrivals : List Arrival} (flows : ∀ arrival ∈ arrivals, arrival.Flows) :
    (readArrivals ended room arrivals).1.Tells room ⟨arrivals.flatMap Arrival.events, ended⟩
        ⟨(readArrivals ended room arrivals).2.flatMap Arrival.events, ended⟩ ∧
      ∀ arrival ∈ (readArrivals ended room arrivals).2, arrival.Flows := by
  fun_induction readArrivals ended room arrivals with
  | case1 => cases ended <;> simp [ReadReply.Tells, Script.head, Script.tail]
  | case2 bytes chunk rest empty ih =>
    obtain rfl := List.isEmpty_iff.mp empty
    simpa [Arrival.events] using ih fun arrival member => flows arrival (.tail _ member)
  | case3 bytes chunk rest filled count =>
    have flowing : chunk ≠ some 0 := flows _ (.head _)
    have counted : 0 < count := by
      cases chunk with
      | none => simpa [count] using positive
      | some most =>
        have most_ne_zero : most ≠ 0 := fun zero => flowing (zero ▸ rfl)
        exact Nat.lt_min.mpr ⟨Nat.pos_of_ne_zero most_ne_zero, positive⟩
    refine ⟨?_, fun arrival member => ?_⟩
    · obtain ⟨byte, more, rfl⟩ : ∃ byte more, bytes = byte :: more := by
        cases bytes with
        | nil => simp at filled
        | cons byte more => exact ⟨byte, more, rfl⟩
      obtain ⟨fewer, same⟩ : ∃ fewer, count = fewer + 1 := ⟨count - 1, by omega⟩
      have bounded : count ≤ room := Nat.min_le_right _ _
      rw [same, List.take_succ_cons, List.drop_succ_cons]
      refine ⟨?_, by rw [List.length_take]; omega⟩
      simp only [Script.behind, List.flatMap_cons, Arrival.events, List.map_cons,
        List.cons_append, ← List.append_assoc, ← List.map_append, List.take_append_drop]
    · rcases List.mem_cons.mp member with rfl | later
      · exact flowing
      · exact flows arrival (.tail _ later)
  | case4 rest =>
    exact ⟨⟨rfl, rfl⟩, fun arrival member => flows arrival (.tail _ member)⟩
  | case5 rest =>
    exact ⟨⟨rfl, rfl⟩, fun arrival member => flows arrival (.tail _ member)⟩
  | case6 error rest =>
    refine ⟨?_, fun arrival member => flows arrival (.tail _ member)⟩
    by_cases interrupted : error.isInterruption = true
    · simp [ReadReply.Tells, Arrival.events, interrupted]
    · simp [ReadReply.Tells, Arrival.events, interrupted, Script.head, Script.tail]

/-- A read of at least one byte finds what the script says. -/
theorem read_tells {inbound : Inbound} {room : Nat} (positive : 0 < room)
    (flows : inbound.Flows) :
    (inbound.read room).1.Tells room inbound.script (inbound.read room).2.script ∧
      (inbound.read room).2.Flows :=
  readArrivals_tells positive flows

end Inbound

/-- What reading a stream got, with what is left as a script. -/
def Intake.reading {α : Type} (intake : Intake α) : Reading α :=
  ⟨intake.outcome, intake.taken, intake.rest.script⟩

namespace Inbound

/-- Reading a stream in pieces is reading its script byte by byte. -/
theorem reading_take {inbound : Inbound} (flows : inbound.Flows) (room : Nat) :
    (inbound.take room).reading = inbound.script.take room ∧ (inbound.take room).rest.Flows := by
  fun_induction take inbound room with
  | case1 inbound => exact ⟨rfl, flows⟩
  | case2 inbound room some rest step =>
    have positive := Nat.pos_of_ne_zero some
    obtain ⟨⟨found, left⟩, flowing⟩ := step ▸ read_tells positive flows
    rw [Script.take_halt found positive, ← left]
    exact ⟨rfl, flowing⟩
  | case3 inbound room some byte bytes rest step more ih =>
    obtain ⟨⟨front, fits⟩, flowing⟩ := step ▸ read_tells (Nat.pos_of_ne_zero some) flows
    obtain ⟨same, restFlows⟩ := ih flowing
    have split : (byte :: bytes).length + (room - (bytes.length + 1)) = room := by
      rw [List.length_cons]
      omega
    have taken := rest.script.take_behind (byte :: bytes) (room - (bytes.length + 1))
    rw [split, ← same] at taken
    refine ⟨?_, restFlows⟩
    rw [front, taken]
    rfl
  | case4 inbound room some error rest step interrupted ih =>
    obtain ⟨tells, flowing⟩ := step ▸ read_tells (Nat.pos_of_ne_zero some) flows
    rw [ReadReply.Tells, if_pos interrupted] at tells
    rw [← tells]
    exact ih flowing
  | case5 inbound room some error rest step uninterrupted =>
    have positive := Nat.pos_of_ne_zero some
    obtain ⟨tells, flowing⟩ := step ▸ read_tells positive flows
    rw [ReadReply.Tells, if_neg uninterrupted] at tells
    rw [Script.take_halt tells.1 positive, ← tells.2]
    exact ⟨rfl, flowing⟩
  | case6 inbound room some rest step =>
    have positive := Nat.pos_of_ne_zero some
    obtain ⟨⟨found, left⟩, flowing⟩ := step ▸ read_tells positive flows
    rw [Script.take_halt found positive, ← left]
    exact ⟨rfl, flowing⟩

/-- Reading a header in pieces is reading it from the script byte by byte. -/
theorem reading_takeHeader {inbound : Inbound} (flows : inbound.Flows) (room : Nat) :
    (inbound.takeHeader room).reading = inbound.script.takeHeader room ∧
      (inbound.takeHeader room).rest.Flows := by
  induction room generalizing inbound with
  | zero => exact ⟨rfl, flows⟩
  | succ room ih =>
    obtain ⟨same, flowing⟩ := reading_take flows 1
    obtain ⟨later, laterFlows⟩ := ih flowing
    cases first : inbound.take 1 with
    | mk outcome taken rest =>
      rw [first] at same flowing later laterFlows
      simp only [takeHeader, first]
      cases found : inbound.script.head with
      | byte byte =>
        rw [show inbound.script.take 1 = ⟨.ok (), [byte], inbound.script.tail⟩ by
          simp [Script.take, found, Reading.following]] at same
        obtain ⟨rfl, rfl, left⟩ := Reading.mk.inj same
        simp only [Script.takeHeader, found, List.any_cons, List.any_nil, Bool.or_false]
        by_cases terminator : Header.isTerminator byte = true
        · rw [if_pos terminator, if_pos terminator, ← left]
          exact ⟨rfl, flowing⟩
        · rw [if_neg terminator, if_neg terminator, ← left, ← later]
          exact ⟨rfl, laterFlows⟩
      | halt halt =>
        rw [Script.take_halt found Nat.one_pos] at same
        obtain ⟨rfl, rfl, left⟩ := Reading.mk.inj same
        simp only [Script.takeHeader, found, ← left]
        cases halt <;> exact ⟨rfl, flowing⟩

/-- A stream brings some bytes, and after them what a script says. -/
structure Brings (inbound : Inbound) (bytes : Bytes) (later : Script) : Prop where
  /-- Every read of data gets a byte. -/
  flows : inbound.Flows
  /-- The bytes come first, and then what the script says. -/
  script : inbound.script = later.behind bytes

namespace Brings

variable {inbound : Inbound} {later : Script}

/-- Reading as many bytes as a stream brings first gets just those. -/
theorem take {front back : Bytes} (brings : inbound.Brings (front ++ back) later) :
    ∃ rest, inbound.take front.length = ⟨.ok (), front, rest⟩ ∧ rest.Brings back later := by
  obtain ⟨same, flows⟩ := reading_take brings.flows front.length
  rw [brings.script, Script.behind_append, Script.take_length] at same
  cases intake : inbound.take front.length with
  | mk outcome taken rest =>
    rw [intake] at same flows
    obtain ⟨rfl, rfl, left⟩ := Reading.mk.inj same
    exact ⟨rest, rfl, flows, left⟩

/-- Reading no more bytes than a stream brings gets those in front. -/
theorem take_front {bytes : Bytes} {room : Nat} (brings : inbound.Brings bytes later)
    (enough : room ≤ bytes.length) :
    ∃ rest, inbound.take room = ⟨.ok (), bytes.take room, rest⟩ ∧
      rest.Brings (bytes.drop room) later := by
  have full : (bytes.take room).length = room := by
    rw [List.length_take, Nat.min_eq_left enough]
  rw [← List.take_append_drop room bytes] at brings
  obtain ⟨rest, taken, left⟩ := brings.take
  rw [full] at taken
  exact ⟨rest, taken, left⟩

/-- Reading more bytes than a stream brings ends as the script says. -/
theorem take_halt {bytes : Bytes} {halt : Halt} {room : Nat}
    (brings : inbound.Brings bytes later) (halts : later.head = .halt halt)
    (short : bytes.length < room) :
    ∃ rest, inbound.take room = ⟨halt.outcome, bytes, rest⟩ := by
  obtain ⟨same, -⟩ := reading_take brings.flows room
  have split : bytes.length + (room - bytes.length) = room := by omega
  rw [brings.script, ← split, Script.take_behind,
    Script.take_halt halts (Nat.sub_pos_of_lt short), split] at same
  cases intake : inbound.take room with
  | mk outcome taken rest =>
    rw [intake] at same
    obtain ⟨rfl, rfl, -⟩ := Reading.mk.inj same
    exact ⟨rest, by simp⟩

/-- Reading a header gets the bytes up to and with the first that ends it. -/
theorem takeHeader {line back : Bytes} {last : UInt8} {room : Nat}
    (brings : inbound.Brings (line ++ last :: back) later)
    (plain : ∀ byte ∈ line, Header.isTerminator byte = false)
    (terminates : Header.isTerminator last = true) (fits : line.length < room) :
    ∃ rest, inbound.takeHeader room = ⟨.ok true, line ++ [last], rest⟩ ∧
      rest.Brings back later := by
  obtain ⟨same, flows⟩ := reading_takeHeader brings.flows room
  obtain ⟨more, rfl⟩ : ∃ more, room = line.length + (more + 1) :=
    ⟨room - line.length - 1, by omega⟩
  rw [brings.script, Script.behind_append, Script.takeHeader_behind _ plain] at same
  simp only [Script.takeHeader, Script.head_behind_cons, Script.tail_behind_cons, terminates,
    ↓reduceIte, Reading.following] at same
  cases intake : inbound.takeHeader (line.length + (more + 1)) with
  | mk outcome taken rest =>
    rw [intake] at same flows
    obtain ⟨rfl, rfl, left⟩ := Reading.mk.inj same
    exact ⟨rest, rfl, flows, left⟩

/-- Reading a header that does not come whole ends as the script says. -/
theorem takeHeader_halt {bytes : Bytes} {halt : Halt} {room : Nat}
    (brings : inbound.Brings bytes later) (halts : later.head = .halt halt)
    (plain : ∀ byte ∈ bytes, Header.isTerminator byte = false) (short : bytes.length < room) :
    ∃ rest, inbound.takeHeader room = ⟨halt.outcome, bytes, rest⟩ := by
  obtain ⟨same, -⟩ := reading_takeHeader brings.flows room
  obtain ⟨more, rfl⟩ : ∃ more, room = bytes.length + (more + 1) :=
    ⟨room - bytes.length - 1, by omega⟩
  rw [brings.script, Script.takeHeader_behind _ plain] at same
  simp only [Script.takeHeader, halts, Reading.following] at same
  cases intake : inbound.takeHeader (bytes.length + (more + 1)) with
  | mk outcome taken rest =>
    rw [intake] at same
    obtain ⟨rfl, rfl, -⟩ := Reading.mk.inj same
    exact ⟨rest, by simp⟩

end Brings

end Inbound

end AgentLink
