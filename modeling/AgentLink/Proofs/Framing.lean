import AgentLink.Message

/-!
# Framed messages

A message that can be sent is framed: its header, with the marker of an attachment, holds nothing
that ends a header, and the scan of the header as it is sent finds the attachment that was meant
and no other. `framed_of_encode` reads this off the encoder; everything a receiver needs of a
message follows from it.
-/
namespace AgentLink

/-- A digit ends no header. -/
theorem Header.isTerminator_of_isDigit {byte : UInt8} (digit : Byte.isDigit byte = true) :
    isTerminator byte = false := by
  simp only [Byte.isDigit, Bool.and_eq_true, decide_eq_true_eq] at digit
  simp only [isTerminator, Bool.or_eq_false_iff, beq_eq_false_iff_ne]
  refine ⟨?_, ?_⟩
  · rintro rfl
    exact absurd digit.1 (by decide)
  · rintro rfl
    exact absurd digit.1 (by decide)

/-- A line that ends in a NUL is stored as it is. -/
theorem Header.stored_nul (line : Bytes) : stored (line ++ [Byte.nul]) = line ++ [Byte.nul] := by
  simp only [stored, List.reverse_append, List.reverse_singleton, List.singleton_append]
  exact if_neg (by decide)

/-- Bytes of which none ends a header are read up to the NUL behind them. -/
theorem Header.takeWhile_plain {text : Bytes}
    (plain : ∀ byte ∈ text, isTerminator byte = false) (behind : Bytes) :
    (text ++ Byte.nul :: behind).takeWhile (· != Byte.nul) = text := by
  have filled : ∀ byte ∈ text, (byte != Byte.nul) = true := by
    intro byte member
    have other := plain byte member
    simp only [isTerminator, Bool.or_eq_false_iff] at other
    simp [bne, other.1]
  rw [List.takeWhile_append_of_pos filled]
  simp

namespace Message

/-- The header with its marker, as it is sent in front of the NUL. -/
def line (message : Message) : Bytes :=
  match message.attachment with
  | none => message.header
  | some attachment => message.header ++ marker attachment

/-- A header is sent as its line and a NUL. -/
theorem wireHeader_eq (message : Message) : message.wireHeader = message.line ++ [Byte.nul] := by
  obtain ⟨header, attachment⟩ := message
  cases attachment <;> rfl

/-- A header is sent with one byte more than its line. -/
theorem length_wireHeader (message : Message) :
    message.wireHeader.length = message.line.length + 1 := by
  rw [wireHeader_eq, List.length_append, List.length_singleton]

/-- The scan that finds what a message carries. -/
def announcement (message : Message) : Marker.Scan :=
  match message.attachment with
  | none => .absent
  | some attachment => .found ⟨message.header.length, attachment.length⟩

/-- A message whose header is read back as it was meant. -/
structure Framed (message : Message) : Prop where
  /-- The header holds nothing that ends one. -/
  plain : ∀ byte ∈ message.header, Header.isTerminator byte = false
  /-- The scan finds what the message carries. -/
  scan : Marker.scan message.wireHeader = message.announcement

/-- What the encoder accepts is framed, and is sent as the header and its attachment. -/
theorem framed_of_encode {message : Message} {wire : Bytes} (encoded : message.encode = .ok wire) :
    message.Framed ∧ wire = message.wire := by
  obtain ⟨header, attachment⟩ := message
  unfold encode at encoded
  split at encoded
  · contradiction
  · rename_i absent
    have plain : ∀ byte ∈ header, Header.isTerminator byte = false := by
      simpa using absent
    cases scan : Marker.scan (wireHeader ⟨header, attachment⟩) with
    | absent =>
      rw [scan] at encoded
      cases attachment with
      | none => exact ⟨⟨plain, scan⟩, (Outcome.ok.inj encoded).symm⟩
      | some attachment => contradiction
    | fault =>
      rw [scan] at encoded
      contradiction
    | found found =>
      rw [scan] at encoded
      cases attachment with
      | none => contradiction
      | some attachment =>
        by_cases meant : found = ⟨header.length, attachment.length⟩
        · subst meant
          simp only [↓reduceIte, Outcome.ok.injEq] at encoded
          exact ⟨⟨plain, scan⟩, encoded.symm⟩
        · simp [meant] at encoded

namespace Framed

variable {message : Message}

/-- Nothing in the line ends it. -/
theorem plain_line (framed : message.Framed) :
    ∀ byte ∈ message.line, Header.isTerminator byte = false := by
  intro byte member
  cases carried : message.attachment with
  | none =>
    rw [line, carried] at member
    exact framed.plain byte member
  | some attachment =>
    rw [line, carried] at member
    rcases List.mem_append.mp member with header | marker
    · exact framed.plain byte header
    · rw [Message.marker] at marker
      rcases List.mem_append.mp marker with keyword | count
      · have plain : (Byte.space :: Marker.keyword).all (!Header.isTerminator ·) = true := by
          decide
        simpa using List.all_eq_true.mp plain byte keyword
      · rcases List.mem_cons.mp count with rfl | digit
        · decide
        · exact Header.isTerminator_of_isDigit (Decimal.isDigit_of_mem_digits digit)

/-- Nothing that is cut off in front of the terminator ends the header. -/
theorem plain_front (framed : message.Framed) {front missing : Bytes}
    (split : message.wireHeader = front ++ missing) (cut : missing ≠ []) :
    ∀ byte ∈ front, Header.isTerminator byte = false := by
  have lengths := congrArg List.length split
  rw [length_wireHeader, List.length_append] at lengths
  have shorter : front.length ≤ message.line.length := by
    have := List.length_pos_iff.mpr cut
    omega
  have front_prefix : front <+: message.wireHeader := ⟨missing, split.symm⟩
  have line_prefix : message.line <+: message.wireHeader := ⟨_, message.wireHeader_eq.symm⟩
  have within := List.prefix_of_prefix_length_le front_prefix line_prefix shorter
  exact fun byte member => framed.plain_line byte (within.subset member)

/-- The header is read back up to its first NUL, whatever follows it. -/
theorem takeWhile_header (framed : message.Framed) (rest : Bytes) :
    (message.header ++ Byte.nul :: rest).takeWhile (· != Byte.nul) = message.header :=
  Header.takeWhile_plain framed.plain rest

end Framed

/-- The header as a receiver stores it: cut off in front of its marker. -/
def storedHeader (message : Message) : Bytes :=
  message.announcement.apply message.wireHeader

/-- The header that is stored is as long as the one that was sent. -/
@[simp] theorem length_storedHeader (message : Message) :
    message.storedHeader.length = message.wireHeader.length := by
  obtain ⟨header, attachment⟩ := message
  cases attachment <;> simp [storedHeader, announcement, Marker.Scan.apply]

/-- The header that is stored ends at a NUL behind the header proper. -/
theorem storedHeader_eq (message : Message) :
    ∃ rest, message.storedHeader = message.header ++ Byte.nul :: rest := by
  obtain ⟨header, attachment⟩ := message
  cases attachment with
  | none => exact ⟨[], rfl⟩
  | some attachment =>
    refine ⟨Marker.keyword ++ Byte.space :: Decimal.digits attachment.length ++ [Byte.nul], ?_⟩
    simp [storedHeader, announcement, Marker.Scan.apply, Marker.cut, wireHeader, marker]

end Message

end AgentLink
