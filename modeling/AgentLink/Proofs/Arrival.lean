import AgentLink.Proofs.Consumption

/-!
# Headers that arrive

A header arrives when single-byte reads find its bytes one after another, with nothing but
interruptions between them. Reading a header succeeds exactly where one arrives that there is
room for, and leaves what comes behind it (`takeHeader_ok_iff`).
-/
namespace AgentLink

/-- Bytes whose last is the only one that ends a header. -/
def Header.IsLine (line : Bytes) : Prop :=
  ∃ front last, line = front ++ [last] ∧ (∀ byte ∈ front, isTerminator byte = false) ∧
    isTerminator last = true

/-- A line has the byte that ends it. -/
theorem Header.IsLine.ne_nil {line : Bytes} (isLine : IsLine line) : line ≠ [] := by
  obtain ⟨front, last, rfl, -, -⟩ := isLine
  exact List.append_ne_nil_of_right_ne_nil _ (List.cons_ne_nil _ _)

/-- A line is a byte that ends it, or another byte and a line. -/
theorem Header.isLine_cons {byte : UInt8} {line : Bytes} :
    IsLine (byte :: line) ↔
      if isTerminator byte then line = [] else IsLine line := by
  constructor
  · rintro ⟨front, last, split, plain, ended⟩
    cases front with
    | nil =>
      obtain ⟨rfl, rfl⟩ := List.cons.inj split
      rw [if_pos ended]
    | cons first front =>
      obtain ⟨rfl, rfl⟩ := List.cons.inj split
      rw [if_neg (by simp [plain byte (.head _)])]
      exact ⟨front, last, rfl, fun other member => plain other (.tail _ member), ended⟩
  · intro line
    split at line
    · rename_i ended
      subst line
      exact ⟨[], byte, rfl, by simp, ended⟩
    · rename_i continues
      obtain ⟨front, last, rfl, plain, ended⟩ := line
      refine ⟨byte :: front, last, rfl, ?_, ended⟩
      intro other member
      rcases List.mem_cons.mp member with rfl | later
      · exact Bool.eq_false_iff.mpr continues
      · exact plain other later

namespace Inbound

/-- Bytes arrive one after another, whatever interruptions come between them, and leave a stream
behind the last. -/
inductive Arrives : Inbound → Bytes → Inbound → Prop
  /-- No byte is awaited. -/
  | nothing {inbound : Inbound} : Arrives inbound [] inbound
  /-- The next read gets a byte. -/
  | byte {inbound next rest : Inbound} {byte : UInt8} {bytes : Bytes}
    (read : inbound.read 1 = (.bytes [byte], next)) (later : Arrives next bytes rest) :
    Arrives inbound (byte :: bytes) rest
  /-- The next read is interrupted, and is made again. -/
  | again {inbound next rest : Inbound} {byte : UInt8} {bytes : Bytes} {error : SystemError}
    (read : inbound.read 1 = (.failure error, next)) (interrupted : error.isInterruption = true)
    (later : Arrives next (byte :: bytes) rest) : Arrives inbound (byte :: bytes) rest

/-- What reading comes to, by what the first read gets. -/
theorem take_read {inbound rest : Inbound} {room : Nat} {reply : ReadReply} (some : room ≠ 0)
    (step : inbound.read room = (reply, rest)) :
    inbound.take room = match reply with
      | .bytes [] => ⟨.failed .peerClosed, [], rest⟩
      | .bytes (byte :: bytes) =>
        let more := rest.take (room - (bytes.length + 1))
        { more with taken := byte :: bytes ++ more.taken }
      | .failure error =>
        if error.isInterruption then rest.take room else ⟨.failed (.transport error), [], rest⟩
      | .stalled => ⟨.waiting, [], rest⟩ := by
  rw [take, if_neg some]
  split
  all_goals
    rename_i read
    obtain ⟨rfl, rfl⟩ := Prod.mk.inj (step.symm.trans read)
    rfl

/-- A read of at most one byte gets at most one. -/
theorem length_read_one {inbound rest : Inbound} {first : UInt8} {bytes : Bytes}
    (step : inbound.read 1 = (.bytes (first :: bytes), rest)) : bytes = [] := by
  have bounded := (bytes_of_read step).2
  rw [ReadReply.taken, List.length_cons] at bounded
  exact List.length_eq_zero_iff.mp (by omega)

/-- Taking no bytes leaves the stream as it is. -/
@[simp] theorem take_zero (inbound : Inbound) : inbound.take 0 = ⟨.ok (), [], inbound⟩ := by
  rw [take, if_pos rfl]

/-- What reading a header comes to, by what the first read gets. -/
theorem takeHeader_read {inbound rest : Inbound} {room : Nat} {reply : ReadReply}
    (step : inbound.read 1 = (reply, rest)) :
    inbound.takeHeader (room + 1) = match reply with
      | .bytes [] => ⟨.failed .peerClosed, [], rest⟩
      | .bytes (byte :: _) =>
        if Header.isTerminator byte then ⟨.ok true, [byte], rest⟩
        else
          let more := rest.takeHeader room
          { more with taken := byte :: more.taken }
      | .failure error =>
        if error.isInterruption then rest.takeHeader (room + 1)
        else ⟨.failed (.transport error), [], rest⟩
      | .stalled => ⟨.waiting, [], rest⟩ := by
  rw [takeHeader, take_read Nat.one_ne_zero step]
  cases reply with
  | bytes got =>
    cases got with
    | nil => rfl
    | cons byte bytes =>
      obtain rfl := length_read_one step
      cases ended : Header.isTerminator byte <;> simp [ended]
  | failure error =>
    by_cases interrupted : error.isInterruption = true
    · simp only [if_pos interrupted, takeHeader]
    · simp only [if_neg interrupted]
  | stalled => rfl

/-- A header that arrives is read whole where there is room for it. -/
theorem Arrives.takeHeader {inbound rest : Inbound} {room : Nat} {line : Bytes}
    (isLine : Header.IsLine line) (fits : line.length ≤ room)
    (arrives : inbound.Arrives line rest) :
    inbound.takeHeader room = ⟨.ok true, line, rest⟩ := by
  induction arrives generalizing room with
  | nothing => exact absurd rfl isLine.ne_nil
  | byte read later ih =>
    obtain ⟨fewer, rfl⟩ := Nat.exists_eq_add_one.mpr (Nat.lt_of_lt_of_le (Nat.succ_pos _) fits)
    rw [takeHeader_read read]
    rw [Header.isLine_cons] at isLine
    split at isLine
    · rename_i ended
      subst isLine
      cases later
      simp only [if_pos ended]
    · rename_i continues
      simp only [if_neg continues, ih isLine (Nat.le_of_succ_le_succ fits)]
  | again read interrupted later ih =>
    obtain ⟨fewer, rfl⟩ := Nat.exists_eq_add_one.mpr (Nat.lt_of_lt_of_le (Nat.succ_pos _) fits)
    rw [takeHeader_read read]
    simp only [if_pos interrupted, ih isLine fits]

/-- A header that was read whole has arrived. -/
theorem arrives_of_takeHeader {inbound rest : Inbound} {room : Nat} {line : Bytes}
    (ended : inbound.takeHeader room = ⟨.ok true, line, rest⟩) :
    Header.IsLine line ∧ line.length ≤ room ∧ inbound.Arrives line rest := by
  induction room generalizing inbound line with
  | zero => simp [Inbound.takeHeader] at ended
  | succ room ih =>
    induction inbound using read_induction with
    | again inbound again =>
      cases step : inbound.read 1 with
      | mk reply next =>
        rw [takeHeader_read step] at ended
        cases reply with
        | bytes got =>
          cases got with
          | nil => simp at ended
          | cons byte bytes =>
            obtain rfl := length_read_one step
            simp only at ended
            split at ended
            · rename_i terminates
              obtain ⟨-, rfl, rfl⟩ := Intake.mk.inj ended
              exact ⟨⟨[], byte, rfl, by simp, terminates⟩, by simp, .byte step .nothing⟩
            · rename_i continues
              obtain ⟨whole, rfl, rfl⟩ := Intake.mk.inj ended
              obtain ⟨isLine, fits, later⟩ := ih (show next.takeHeader room =
                ⟨.ok true, (next.takeHeader room).taken, (next.takeHeader room).rest⟩ by
                  rw [← whole])
              refine ⟨Header.isLine_cons.mpr ?_, Nat.succ_le_succ fits, .byte step later⟩
              rw [if_neg continues]
              exact isLine
        | failure error =>
          by_cases interrupted : error.isInterruption = true
          · simp only [if_pos interrupted] at ended
            obtain ⟨isLine, fits, later⟩ := again step ended
            cases line with
            | nil => exact absurd rfl isLine.ne_nil
            | cons byte bytes => exact ⟨isLine, fits, .again step interrupted later⟩
          · simp [if_neg interrupted] at ended
        | stalled => simp at ended

/-- Reading a header succeeds where one arrives that there is room for. -/
theorem takeHeader_ok_iff {inbound rest : Inbound} {room : Nat} {line : Bytes} :
    inbound.takeHeader room = ⟨.ok true, line, rest⟩ ↔
      Header.IsLine line ∧ line.length ≤ room ∧ inbound.Arrives line rest :=
  ⟨arrives_of_takeHeader, fun ⟨isLine, fits, arrives⟩ => arrives.takeHeader isLine fits⟩

end Inbound

end AgentLink
