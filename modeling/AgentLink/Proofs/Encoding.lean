import AgentLink.Proofs.CanonicalMarker

/-!
# What the encoder accepts

The encoder scans the header it is about to send. In front of an attachment the scan finds the
marker that was written there, whatever the header ends in, unless the header is empty
(`encode_attached`). Without an attachment it finds what the header itself ends in: a marker is
refused, and a headless one makes the scan fault (`scan_bare_found_iff`, `scan_bare_fault_iff`).
`encode_outcomes` puts these together for every header.
-/
namespace AgentLink

namespace Marker

/-- What spells a marker ends in no terminator. -/
theorem Spells.ne_concat_nul {header count text : Bytes} (spells : Spells header count text)
    (line : Bytes) : text ≠ line ++ [Byte.nul] := by
  obtain ⟨-, -, -, counted, digits, behind⟩ := spells
  rename_i separator blanks trailing
  intro terminated
  have unterminated := @dropTerminator_counted (header ++ separator :: keyword ++ blanks) _ _
    counted digits behind
  rw [terminated, List.reverse_concat, dropTerminator, if_pos rfl] at unterminated
  have length := congrArg List.length unterminated
  rw [List.length_cons] at length
  omega

/-- A header that is sent without an attachment makes the scan fault where it is headless. -/
theorem scan_bare_fault_iff {header : Bytes} :
    scan (header ++ [Byte.nul]) = .fault ↔ 8 ≤ header.length ∧ Headless header := by
  rw [scan_fault_iff, List.length_append, List.length_singleton]
  constructor
  · rintro ⟨long, text, headless, same | same⟩
    · exact absurd rfl (headless.ne_nul (same ▸ List.mem_concat_self))
    · exact ⟨by omega, List.append_cancel_right same ▸ headless⟩
  · rintro ⟨long, headless⟩
    exact ⟨by omega, header, headless, .inr rfl⟩

/-- The marker that is found in a header sent without an attachment is the one it spells. -/
theorem scan_bare_found_iff {header : Bytes} {marker : Marker} :
    scan (header ++ [Byte.nul]) = .found marker ↔ ∃ front count, Spells front count header ∧
      Decimal.value count < countLimit ∧ marker = ⟨front.length, Decimal.value count⟩ := by
  rw [scan_found_iff]
  constructor
  · rintro ⟨front, count, text, spells, same | same, announced⟩
    · exact absurd same.symm (spells.ne_concat_nul header)
    · exact ⟨front, count, List.append_cancel_right same ▸ spells, announced⟩
  · rintro ⟨front, count, spells, announced⟩
    exact ⟨front, count, header, spells, .inr rfl, announced⟩

/-- The marker that is sent is not found where no header stands in front of it. -/
theorem scan_headerless (attachment : Bytes) :
    scan (Message.marker attachment ++ [Byte.nul]) = .absent := by
  have counted := Decimal.digits_ne_nil attachment.length
  have digit : 0 < (Decimal.digits attachment.length).length := List.length_pos_iff.mpr counted
  have long : 9 ≤ (Message.marker attachment ++ [Byte.nul]).length := by
    simp only [Message.marker, List.length_append, List.length_cons, keyword]
    omega
  have text : Message.marker attachment = Byte.space :: keyword ++ [Byte.space] ++
      Decimal.digits attachment.length ++ [] := by
    simp [Message.marker]
  have stops : ∀ byte ∈ (Byte.space :: keyword ++ [Byte.space]).getLast?,
      Byte.isDigit byte = false := by
    simp [keyword, Byte.isDigit, Byte.space]
  have behind : ∀ byte ∈ ([] : Bytes), Byte.isBlank byte = true := by simp
  rw [scan_counted counted (fun _ => Decimal.isDigit_of_mem_digits) behind stops long
    (.inr (by rw [text]))]
  simp [scanSeparator, scanKeyword, keyword, Byte.isBlank, Byte.space]

end Marker

namespace Message

variable {header : Bytes}

/-- In front of an attachment every header is accepted but the empty one. -/
theorem encode_attached (plain : header.any Header.isTerminator = false) {attachment : Bytes}
    (counted : attachment.length < Marker.countLimit) :
    (Message.mk header (some attachment)).encode =
      if header = [] then .failed (.invalidArgument .headerTooShort)
      else .ok (header ++ marker attachment ++ [Byte.nul] ++ attachment) := by
  split
  · rename_i empty
    subst empty
    have scanned : Marker.scan (wireHeader ⟨[], some attachment⟩) = .absent :=
      Marker.scan_headerless attachment
    simp [encode, scanned]
  · rename_i headed
    have plain : ∀ byte ∈ header, Header.isTerminator byte = false := by simpa using plain
    exact (framed_attached plain headed counted).encode

/-- Without an attachment a header is judged by what the scan of it finds. -/
theorem encode_bare (plain : header.any Header.isTerminator = false) :
    (Message.mk header none).encode = match Marker.scan (header ++ [Byte.nul]) with
      | .absent => .ok (header ++ [Byte.nul])
      | .fault => .fault
      | .found _ => .failed (.invalidArgument .headerMarker) := by
  have scanned : wireHeader ⟨header, none⟩ = header ++ [Byte.nul] := rfl
  rw [encode, if_neg (by simp [plain]), scanned]
  cases Marker.scan (header ++ [Byte.nul]) with
  | absent => exact congrArg Outcome.ok (List.append_nil _)
  | fault => rfl
  | found marker => rfl

/-- A header that holds a terminator is refused, with whatever attachment. Any other header is
accepted in front of an attachment, whose length is a word, unless it is empty; and without an
attachment unless it spells a marker, and is refused, or is headless and no shorter than eight
bytes, and makes the encoder fault. What is accepted is sent as it is, with the marker of its
attachment, a terminator and the attachment. -/
theorem encode_outcomes (header : Bytes) :
    (header.any Header.isTerminator = true → ∀ attachment,
      (Message.mk header attachment).encode = .failed (.invalidArgument .headerTerminator)) ∧
    (header.any Header.isTerminator = false →
      (∀ attachment : Bytes, attachment.length < UInt64.size →
        let outcome := (Message.mk header (some attachment)).encode
        outcome ≠ .fault ∧
          ((∃ error, outcome = .failed (.invalidArgument error)) ↔ header = []) ∧
          (header ≠ [] → outcome = .ok (header ++ utf8 " attach " ++
            Decimal.digits attachment.length ++ [Byte.nul] ++ attachment))) ∧
      let outcome := (Message.mk header none).encode
      let spelled := ∃ front count, Marker.Spells front count header ∧
        Decimal.value count < Marker.countLimit
      (outcome = .fault ↔ 8 ≤ header.length ∧ Marker.Headless header) ∧
        ((∃ error, outcome = .failed (.invalidArgument error)) ↔ spelled) ∧
        (outcome = .ok (header ++ [Byte.nul]) ↔
          ¬(8 ≤ header.length ∧ Marker.Headless header) ∧ ¬spelled)) := by
  refine ⟨?_, ?_⟩
  · intro terminated attachment
    exact if_pos terminated
  · intro plain
    refine ⟨?_, ?_⟩
    · intro attachment counted outcome
      have accepted : outcome = _ := encode_attached plain counted
      rw [accepted]
      by_cases headed : header = []
      · simp [headed]
      · have marked : header ++ marker attachment = header ++ utf8 " attach " ++
            Decimal.digits attachment.length := by
          have word : utf8 " attach " = Byte.space :: Marker.keyword ++ [Byte.space] := by decide
          simp [marker, word]
        simp [headed, marked]
    · intro outcome spelled
      have judged : outcome = _ := encode_bare plain
      have founds : spelled ↔ ∃ marker, Marker.scan (header ++ [Byte.nul]) = .found marker := by
        constructor
        · rintro ⟨front, count, spells, word⟩
          exact ⟨_, Marker.scan_bare_found_iff.mpr ⟨front, count, spells, word, rfl⟩⟩
        · rintro ⟨marker, found⟩
          obtain ⟨front, count, spells, word, -⟩ := Marker.scan_bare_found_iff.mp found
          exact ⟨front, count, spells, word⟩
      rw [judged, founds, ← Marker.scan_bare_fault_iff]
      cases Marker.scan (header ++ [Byte.nul]) <;> simp

end Message

end AgentLink
