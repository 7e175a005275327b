import AgentLink.Proofs.Arrival

/-!
# Reading on

How many bytes are asked for at a time does not matter: reading some bytes and then some more is
reading them all at once (`take_add`), however the stream is cut into reads and whatever comes
between the bytes. So what a read of many bytes gets is what arrives byte by byte
(`take_ok_iff`), and a header that fits a buffer is read alike into every larger one
(`takeHeader_of_le`).
-/
namespace AgentLink

namespace Intake

variable {α : Type}

/-- A reading that took bytes before. -/
def following (intake : Intake α) (bytes : Bytes) : Intake α :=
  { intake with taken := bytes ++ intake.taken }

/-- Go on with what is left, where reading succeeded. -/
def andThen (intake : Intake Unit) (next : Inbound → Intake Unit) : Intake Unit :=
  if intake.outcome.isOk then (next intake.rest).following intake.taken else intake

end Intake

namespace Inbound

variable {inbound rest : Inbound} {room : Nat}

/-- What a read gets that gets no byte does not depend on how many were asked for. -/
theorem readArrivals_nothing {ended : Bool} {more : Nat} {arrivals left : List Arrival}
    {reply : ReadReply} (some : room ≠ 0) (step : readArrivals ended room arrivals = (reply, left))
    (nothing : reply.taken = []) (positive : more ≠ 0) :
    readArrivals ended more arrivals = (reply, left) := by
  fun_induction readArrivals ended room arrivals with
  | case1 => exact step
  | case2 bytes chunk rest empty ih =>
    rw [readArrivals, if_pos empty]
    exact ih step
  | case3 bytes chunk rest filled count =>
    obtain ⟨rfl, rfl⟩ := Prod.mk.inj step
    have flowed : bytes ≠ [] := fun empty => filled (List.isEmpty_iff.mpr empty)
    have none : count = 0 := by
      simpa [ReadReply.taken, flowed] using nothing
    have blocked : chunk.getD room = 0 := by
      have least : min (chunk.getD room) room = 0 := none
      omega
    have blocked : chunk = .some 0 := by
      cases chunk with
      | none => exact absurd blocked some
      | some most => exact congrArg Option.some blocked
    simp [readArrivals, filled, none, blocked]
  | case4 => exact step
  | case5 => exact step
  | case6 => exact step

/-- What a read gets that gets no byte does not depend on how many were asked for. -/
theorem read_nothing {more : Nat} {reply : ReadReply} (some : room ≠ 0)
    (step : inbound.read room = (reply, rest)) (nothing : reply.taken = [])
    (positive : more ≠ 0) : inbound.read more = (reply, rest) := by
  simp only [read, Prod.mk.injEq] at step ⊢
  obtain ⟨reply, rfl⟩ := step
  have same := readArrivals_nothing some (Prod.ext reply rfl) nothing positive
  rw [same]
  exact ⟨rfl, rfl⟩

/-- A read that gets bytes gets them off the front of one arrival, and every other read would
have found the same arrival there. -/
theorem readArrivals_front {ended : Bool} {arrivals left : List Arrival} {byte : UInt8}
    {bytes : Bytes} (step : readArrivals ended room arrivals = (.bytes (byte :: bytes), left)) :
    ∃ back chunk tail, chunk ≠ some 0 ∧ left = .data back chunk :: tail ∧
      ∀ more, readArrivals ended more arrivals =
        readArrivals ended more (.data (byte :: bytes ++ back) chunk :: tail) := by
  fun_induction readArrivals ended room arrivals with
  | case1 => split at step <;> simp at step
  | case2 empty chunk rest isEmpty ih =>
    obtain ⟨back, found, tail, flows, left, same⟩ := ih step
    refine ⟨back, found, tail, flows, left, fun more => ?_⟩
    rw [readArrivals, if_pos isEmpty, same]
  | case3 whole chunk rest filled count =>
    obtain ⟨got, rfl⟩ := Prod.mk.inj step
    have got : whole.take count = byte :: bytes := ReadReply.bytes.inj got
    refine ⟨whole.drop count, chunk, rest, ?_, rfl, fun more => ?_⟩
    · rintro rfl
      simp [count] at got
    · rw [← got, List.take_append_drop]
  | case4 => simp at step
  | case5 => simp at step
  | case6 => simp at step

/-- A read that gets bytes gets them off the front of one arrival, and every other read would
have found the same arrival there. -/
theorem read_front {byte : UInt8} {bytes : Bytes}
    (step : inbound.read room = (.bytes (byte :: bytes), rest)) :
    ∃ back chunk tail, chunk ≠ some 0 ∧ rest = ⟨.data back chunk :: tail, inbound.ended⟩ ∧
      ∀ more, inbound.read more =
        read ⟨.data (byte :: bytes ++ back) chunk :: tail, inbound.ended⟩ more := by
  simp only [read, Prod.mk.injEq] at step
  obtain ⟨reply, rfl⟩ := step
  obtain ⟨back, chunk, tail, flows, left, same⟩ := readArrivals_front (Prod.ext reply rfl)
  exact ⟨back, chunk, tail, flows, congrArg (Inbound.mk · inbound.ended) left,
    fun more => by simp only [read, same]⟩

/-- Where every read finds the same, so does reading. -/
theorem take_congr {other : Inbound} (same : ∀ more, inbound.read more = other.read more)
    (some : room ≠ 0) : inbound.take room = other.take room := by
  cases step : inbound.read room with
  | mk reply rest =>
    rw [take_read some step, take_read some ((same room).symm.trans step)]
    cases reply with
    | bytes got => cases got <;> rfl
    | failure error => rfl
    | stalled => rfl

/-- Bytes at the front of an arrival are taken first, in however many reads: the first read ends
among them, or it reaches into what stands behind, of which reading on takes the same. -/
theorem take_data {chunk : Option Nat} {tail : List Arrival} {ended : Bool}
    (flows : chunk ≠ some 0) (front back : Bytes) (room : Nat) :
    take ⟨.data (front ++ back) chunk :: tail, ended⟩ (front.length + room) =
      (take ⟨.data back chunk :: tail, ended⟩ room).following front := by
  induction total : front.length + room using Nat.strongRecOn generalizing front back room with
  | ind total ih =>
    subst total
    cases front with
    | nil => simp [Intake.following]
    | cons byte front =>
      have some : (byte :: front).length + room ≠ 0 := by simp
      generalize wanted : (byte :: front).length + room = total at some ih ⊢
      have counted : 0 < (chunk.getD total).min total := by
        cases chunk with
        | none => simpa using Nat.pos_of_ne_zero some
        | some most =>
          have most_ne_zero : most ≠ 0 := fun zero => flows (zero ▸ rfl)
          exact Nat.lt_min.mpr ⟨Nat.pos_of_ne_zero most_ne_zero, Nat.pos_of_ne_zero some⟩
      have bounded : (chunk.getD total).min total ≤ total := Nat.min_le_right _ _
      have step : read ⟨.data (byte :: front ++ back) chunk :: tail, ended⟩ total = (.bytes
          ((byte :: front ++ back).take ((chunk.getD total).min total)),
          ⟨.data ((byte :: front ++ back).drop ((chunk.getD total).min total)) chunk :: tail,
            ended⟩) := by
        simp [read, readArrivals]
      generalize (chunk.getD total).min total = count at counted bounded step
      obtain ⟨fewer, rfl⟩ : ∃ fewer, count = fewer + 1 := ⟨count - 1, by omega⟩
      rw [List.cons_append, List.take_succ_cons, List.drop_succ_cons] at step
      rw [List.cons_append, take_read some step]
      dsimp only
      rw [List.length_cons] at wanted
      by_cases within : fewer ≤ front.length
      · have taken : ((front ++ back).take fewer).length = fewer := by
          rw [List.length_take, List.length_append]
          omega
        have left : (front.drop fewer).length + room = total - (fewer + 1) := by
          rw [List.length_drop]
          omega
        have rest := ih (total - (fewer + 1)) (by omega) (front.drop fewer) back room left
        rw [taken, List.drop_append_of_le_length within, rest,
          List.take_append_of_le_length within]
        simp [Intake.following, ← List.append_assoc]
      · obtain ⟨into, rfl⟩ : ∃ into, fewer = front.length + into :=
          ⟨fewer - front.length, by omega⟩
        have reached : (back.take into).length ≤ room := by
          rw [List.length_take]
          omega
        have left : total - ((front ++ back.take into).length + 1) =
            room - (back.take into).length := by
          rw [List.length_append]
          omega
        have rest := ih room (by omega) (back.take into) (back.drop into)
          (room - (back.take into).length) (by omega)
        rw [List.take_append_drop] at rest
        rw [List.take_length_add_append, List.drop_length_add_append, left, rest]
        simp [Intake.following]

/-- Reading some bytes and then some more is reading them all at once. -/
theorem take_add (inbound : Inbound) (first more : Nat) :
    inbound.take (first + more) = (inbound.take first).andThen (·.take more) := by
  fun_induction take inbound first with
  | case1 inbound => simp [Intake.andThen, Intake.following, Outcome.isOk]
  | case2 inbound first some rest step =>
    have on := read_nothing some step rfl (show first + more ≠ 0 by omega)
    rw [take_read (by omega) on]
    rfl
  | case3 inbound first some byte bytes rest step later ih =>
    obtain ⟨back, chunk, tail, flows, rfl, same⟩ := read_front step
    have fits := (bytes_of_read step).2
    rw [ReadReply.taken, List.length_cons] at fits
    have split : first + more = (byte :: bytes).length + (first - (bytes.length + 1) + more) := by
      rw [List.length_cons]
      omega
    rw [take_congr same (by omega), split, take_data flows, ih]
    simp only [later, Intake.andThen]
    split <;> simp [Intake.following]
  | case4 inbound first some error rest step interrupted ih =>
    have on := read_nothing some step rfl (show first + more ≠ 0 by omega)
    rw [take_read (by omega) on]
    simp only [if_pos interrupted, ih]
  | case5 inbound first some error rest step uninterrupted =>
    have on := read_nothing some step rfl (show first + more ≠ 0 by omega)
    rw [take_read (by omega) on]
    simp only [if_neg uninterrupted]
    rfl
  | case6 inbound first some rest step =>
    have on := read_nothing some step rfl (show first + more ≠ 0 by omega)
    rw [take_read (by omega) on]
    rfl

/-- Where reading some bytes does not succeed, reading more comes to the same. -/
theorem take_of_le {first : Nat} (failed : (inbound.take first).outcome.isOk = false)
    (le : first ≤ room) : inbound.take room = inbound.take first := by
  rw [← Nat.add_sub_of_le le, take_add, Intake.andThen, failed]
  rfl

/-- Where reading some bytes succeeds, reading more goes on with what is left. -/
theorem take_of_front {first : Nat} {front : Bytes}
    (taken : inbound.take first = ⟨.ok (), front, rest⟩) (le : first ≤ room) :
    inbound.take room = (rest.take (room - first)).following front := by
  rw [← Nat.add_sub_of_le le, take_add, taken, Nat.add_sub_of_le le]
  rfl

/-- Bytes that arrive, and more behind them, arrive together. -/
theorem Arrives.append {next : Inbound} {front back : Bytes} (arrives : inbound.Arrives front next)
    (later : next.Arrives back rest) : inbound.Arrives (front ++ back) rest := by
  induction arrives with
  | nothing => exact later
  | byte read _ ih => exact .byte read (ih later)
  | again read interrupted _ ih => exact .again read interrupted (ih later)

/-- What arrives in front of more arrives first. -/
theorem Arrives.split {front back : Bytes}
    (arrives : inbound.Arrives (front ++ back) rest) :
    ∃ next, inbound.Arrives front next ∧ next.Arrives back rest := by
  generalize whole : front ++ back = bytes at arrives
  induction arrives generalizing front with
  | nothing =>
    obtain ⟨rfl, rfl⟩ := List.append_eq_nil_iff.mp whole
    exact ⟨_, .nothing, .nothing⟩
  | byte read later ih =>
    cases front with
    | nil =>
      subst whole
      exact ⟨_, .nothing, .byte read later⟩
    | cons first front =>
      obtain ⟨same, others⟩ := List.cons.inj whole
      obtain ⟨next, front, back⟩ := ih others
      exact ⟨next, same ▸ .byte read front, back⟩
  | again read interrupted later ih =>
    cases front with
    | nil =>
      subst whole
      exact ⟨_, .nothing, .again read interrupted later⟩
    | cons first front =>
      obtain ⟨next, front, back⟩ := ih whole
      exact ⟨next, .again read interrupted front, back⟩

/-- Bytes that arrive are those in front of what is left. -/
theorem Arrives.bytes {front : Bytes} (arrives : inbound.Arrives front rest) :
    front ++ rest.bytes = inbound.bytes := by
  induction arrives with
  | nothing => rfl
  | byte read _ ih =>
    rw [List.cons_append, ih]
    exact (bytes_of_read read).1
  | again read interrupted _ ih =>
    rw [ih]
    exact (bytes_of_read read).1

/-- Bytes that stand at the front of an arrival arrive. -/
theorem arrives_data {chunk : Option Nat} {tail : List Arrival} {ended : Bool}
    (flows : chunk ≠ some 0) (front back : Bytes) :
    Arrives ⟨.data (front ++ back) chunk :: tail, ended⟩ front
      ⟨.data back chunk :: tail, ended⟩ := by
  induction front with
  | nil => exact .nothing
  | cons byte front ih =>
    have one : (chunk.getD 1).min 1 = 1 := by
      cases chunk with
      | none => rfl
      | some most =>
        have most_ne_zero : most ≠ 0 := fun zero => flows (zero ▸ rfl)
        exact Nat.min_eq_right (Nat.pos_of_ne_zero most_ne_zero)
    refine .byte ?_ ih
    simp [read, readArrivals, one]

/-- What reading took has arrived. -/
theorem arrives_of_take (succeeded : (inbound.take room).outcome.isOk = true) :
    inbound.Arrives (inbound.take room).taken (inbound.take room).rest := by
  fun_induction take inbound room with
  | case1 inbound => exact .nothing
  | case2 inbound room some rest step => contradiction
  | case3 inbound room some byte bytes rest step more ih =>
    obtain ⟨back, chunk, tail, flows, rfl, same⟩ := read_front step
    have front : inbound.Arrives (byte :: bytes) ⟨.data back chunk :: tail, inbound.ended⟩ := by
      have whole : Arrives ⟨.data (byte :: bytes ++ back) chunk :: tail, inbound.ended⟩
          (byte :: bytes) ⟨.data back chunk :: tail, inbound.ended⟩ :=
        arrives_data flows (byte :: bytes) back
      cases whole with
      | byte read later => exact .byte ((same 1).trans read) later
      | again read interrupted later => exact .again ((same 1).trans read) interrupted later
    exact front.append (ih succeeded)
  | case4 inbound room some error rest step interrupted ih =>
    have on := read_nothing some step rfl Nat.one_ne_zero
    have length := length_take succeeded
    have later := ih succeeded
    cases taken : (rest.take room).taken with
    | nil => exact absurd (by rw [← length, taken]; rfl) some
    | cons byte bytes =>
      rw [taken] at later
      exact .again on interrupted later
  | case5 inbound room some error rest step uninterrupted => contradiction
  | case6 inbound room some rest step => contradiction

/-- What arrives is read by asking for as many bytes. -/
theorem Arrives.take {bytes : Bytes} (arrives : inbound.Arrives bytes rest) :
    inbound.take bytes.length = ⟨.ok (), bytes, rest⟩ := by
  induction arrives with
  | nothing => exact take_zero _
  | @byte inbound next rest byte bytes read _ ih =>
    rw [List.length_cons, Nat.add_comm, take_add, take_read Nat.one_ne_zero read]
    simp [Intake.andThen, Intake.following, Outcome.isOk, ih]
  | @again inbound next rest byte bytes error read interrupted _ ih =>
    have wanted : (byte :: bytes).length ≠ 0 := Nat.succ_ne_zero _
    rw [take_read wanted (read_nothing Nat.one_ne_zero read rfl wanted)]
    simpa only [if_pos interrupted] using ih

/-- Reading gets what arrives, and nothing else. -/
theorem take_ok_iff {bytes : Bytes} :
    inbound.take room = ⟨.ok (), bytes, rest⟩ ↔
      bytes.length = room ∧ inbound.Arrives bytes rest := by
  constructor
  · intro taken
    have length := @length_take inbound room
    have arrives := @arrives_of_take inbound room
    rw [taken] at length arrives
    exact ⟨length rfl, arrives rfl⟩
  · rintro ⟨rfl, arrives⟩
    exact arrives.take

/-- A header that filled the room for it has not ended, and is all plain bytes. -/
theorem arrives_of_takeHeader_unended (unended : (inbound.takeHeader room).outcome = .ok false) :
    inbound.Arrives (inbound.takeHeader room).taken (inbound.takeHeader room).rest ∧
      (inbound.takeHeader room).taken.length = room ∧
      ∀ byte ∈ (inbound.takeHeader room).taken, Header.isTerminator byte = false := by
  fun_induction takeHeader inbound room with
  | case1 inbound => exact ⟨.nothing, rfl, by simp⟩
  | case2 inbound room first value ended terminates => simp at unended
  | case3 inbound room first value ended continues more ih =>
    have succeeded : first.outcome.isOk = true := by rw [ended]; rfl
    obtain ⟨later, length, plain⟩ := ih unended
    refine ⟨(arrives_of_take succeeded).append later, ?_, ?_⟩
    · have one : first.taken.length = 1 := length_take succeeded
      rw [List.length_append, one, length, Nat.add_comm]
    · intro byte member
      rcases List.mem_append.mp member with front | back
      · simpa using (List.any_eq_false.mp (Bool.eq_false_iff.mpr continues)) byte front
      · exact plain byte back
  | case4 inbound room first error ended => contradiction
  | case5 inbound room first ended => contradiction
  | case6 inbound room first ended => contradiction

/-- A buffer holds the header that comes next, with its terminator: however much of a header
arrives, there is room for one byte more. -/
def HeaderFits (inbound : Inbound) (capacity : Nat) : Prop :=
  ∀ front rest, inbound.Arrives front rest →
    (∀ byte ∈ front, Header.isTerminator byte = false) → front.length < capacity

/-- A header that ends within a buffer fits it. -/
theorem headerFits_of_line {line : Bytes} (isLine : Header.IsLine line)
    (front : line <+: inbound.bytes) (fits : line.length ≤ room) : inbound.HeaderFits room := by
  intro plain rest arrives unended
  obtain ⟨begun, last, rfl, -, ended⟩ := isLine
  refine Nat.lt_of_not_le fun full => ?_
  have whole : begun ++ [last] <+: plain :=
    List.prefix_of_prefix_length_le front ⟨_, arrives.bytes⟩ (Nat.le_trans fits full)
  have terminates := unended last (whole.subset (List.mem_append_right _ (.head _)))
  rw [ended] at terminates
  contradiction

/-- A header that fits the buffer does not fill it without an end. -/
theorem HeaderFits.ne_unended (fits : inbound.HeaderFits room) :
    (inbound.takeHeader room).outcome ≠ .ok false := by
  intro unended
  obtain ⟨arrives, length, plain⟩ := arrives_of_takeHeader_unended unended
  exact absurd (fits _ _ arrives plain) (Nat.not_lt_of_le (Nat.le_of_eq length.symm))

/-- A header that fits is read alike into every buffer that is no smaller. -/
theorem takeHeader_of_le {more : Nat} (ended : (inbound.takeHeader room).outcome ≠ .ok false)
    (le : room ≤ more) : inbound.takeHeader more = inbound.takeHeader room := by
  induction room generalizing inbound more with
  | zero => exact absurd rfl ended
  | succ room ih =>
    obtain ⟨more, rfl⟩ : ∃ fewer, more = fewer + 1 := ⟨more - 1, by omega⟩
    simp only [takeHeader] at ended ⊢
    split
    · rename_i first
      split
      · rfl
      · rename_i continues
        simp only [first, if_neg continues] at ended
        rw [ih ended (Nat.le_of_succ_le_succ le)]
    · rfl
    · rfl
    · rfl

/-- A header that fits two buffers is read alike into both. -/
theorem HeaderFits.takeHeader_eq {other : Nat} (fits : inbound.HeaderFits room)
    (fits' : inbound.HeaderFits other) : inbound.takeHeader room = inbound.takeHeader other := by
  rcases Nat.le_total room other with le | le
  · exact (takeHeader_of_le fits.ne_unended le).symm
  · exact takeHeader_of_le fits'.ne_unended le

end Inbound

end AgentLink
