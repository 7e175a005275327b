import AgentLink.Proofs.MarkerGrammar
import AgentLink.Proofs.ReceiveEffect

/-!
# Where the word of a marker begins

The word of a marker is meant to stand for itself, behind a byte that separates it from the header
text. The scan looks at nothing in front of the word: whatever byte stands there is the separating
byte, also where it belongs to a longer word that ends in the same letters. So a header such as
`reattach 5` is cut within its last word, and the five bytes behind it, which are another message,
are taken for an attachment (`Link.keyword_boundary_reattach`). `Link.keyword_boundary_iff` says
that this happens wherever the last word in front of the count is longer than the word of a marker,
and nowhere else.
-/
namespace AgentLink

/-- The bytes that words are made of: letters, digits and the underscore. -/
def Byte.isWord (byte : UInt8) : Bool :=
  isDigit byte || (65 ≤ byte && byte ≤ 90) || (97 ≤ byte && byte ≤ 122) || byte == 95

namespace Marker

/-- The last word of a buffer in front of a count and the blanks that stand before that; it may be
empty. -/
def lastWord (buffer : Bytes) : Bytes :=
  let counted := (dropTerminator buffer.reverse).dropWhile Byte.isBlank
  let separated := counted.dropWhile Byte.isDigit
  ((separated.dropWhile Byte.isBlank).takeWhile Byte.isWord).reverse

/-- The last word of `re_attach 5` is longer than the word of a marker. -/
example : lastWord [114, 101, 95, 97, 116, 116, 97, 99, 104, 32, 53, 0] =
    [114, 101, 95, 97, 116, 116, 97, 99, 104] := by decide

/-- A marker at the end of a buffer has its word for itself. -/
def OwnWord (buffer : Bytes) : Prop := ∀ marker, Ends buffer marker → lastWord buffer = keyword

/-- The last word of a buffer merely ends like the word of a marker. -/
def MerelyEnds (buffer : Bytes) : Prop := ∃ stem, stem ≠ [] ∧ lastWord buffer = stem ++ keyword

/-- The last word in front of a count is what stands there, as far as it is made of bytes of
words. -/
theorem lastWord_counted {buffer front blanks count trailing : Bytes}
    (stops : ∀ byte ∈ front.getLast?, Byte.isBlank byte = false) (separated : blanks ≠ [])
    (between : ∀ byte ∈ blanks, Byte.isBlank byte = true) (counted : count ≠ [])
    (digits : ∀ byte ∈ count, Byte.isDigit byte = true)
    (behind : ∀ byte ∈ trailing, Byte.isBlank byte = true)
    (ended : buffer = front ++ blanks ++ count ++ trailing ∨
      buffer = front ++ blanks ++ count ++ trailing ++ [Byte.nul]) :
    lastWord buffer = (front.reverse.takeWhile Byte.isWord).reverse := by
  have counts : ∀ byte ∈ (front ++ blanks ++ count).getLast?, Byte.isBlank byte = false :=
    last_of_all counted fun byte member => Byte.isBlank_of_isDigit (digits byte member)
  have separates : ∀ byte ∈ (front ++ blanks).getLast?, Byte.isDigit byte = false :=
    last_of_all separated fun byte member => Byte.isDigit_of_isBlank (between byte member)
  simp only [lastWord]
  rw [dropTerminator_ended counted digits behind ended, (Bytes.split_reverse behind counts).2,
    (Bytes.split_reverse digits separates).2, (Bytes.split_reverse between stops).2]

/-- Where a buffer ends in a marker, its last word ends like the word of the marker, and is longer
exactly where the separating byte belongs to it. -/
theorem Ends.lastWord {buffer : Bytes} {marker : Marker} (ends : Ends buffer marker) :
    ∃ stem byte, Marker.lastWord buffer = stem ++ keyword ∧
      buffer[marker.headerEnd]? = some byte ∧ (Byte.isWord byte = false ↔ stem = []) := by
  obtain ⟨header, count, text, spells, ended, -, rfl⟩ := ends
  obtain ⟨-, separated, between, counted, digits, behind⟩ := spells
  rename_i separator blanks trailing
  have stops : ∀ byte ∈ (header ++ separator :: keyword).getLast?, Byte.isBlank byte = false := by
    simp [keyword, Byte.isBlank]
  have word := lastWord_counted stops separated between counted digits behind ended
  have letters : ∀ byte ∈ keyword.reverse, Byte.isWord byte = true := by
    simp [keyword, Byte.isWord, Byte.isDigit]
  refine ⟨((separator :: header.reverse).takeWhile Byte.isWord).reverse, separator, ?_, ?_, ?_⟩
  · rw [word, List.append_cons, List.reverse_append, List.takeWhile_append_of_pos letters,
      List.reverse_append, List.reverse_reverse, List.reverse_concat]
  · rcases ended with rfl | rfl <;> simp
  · cases within : Byte.isWord separator <;> simp [within]

/-- No word stands in front of the count where the scan faults. -/
theorem lastWord_headless {buffer : Bytes} (fault : scan buffer = .fault) :
    lastWord buffer = [] := by
  obtain ⟨-, text, headless, ended⟩ := scan_fault_iff.mp fault
  obtain ⟨before, separator, counted, digits, trailing⟩ := headless
  rename_i first second count blanks
  have between : ∀ byte ∈ [first, second], Byte.isBlank byte = true := by
    simp [before, separator]
  exact @lastWord_counted buffer [] [first, second] count blanks (by simp) (by simp) between
    counted digits trailing ended

/-- A marker that ends a buffer has its word for itself exactly where the separating byte belongs
to no word. -/
theorem ownWord_iff {buffer : Bytes} :
    (∀ marker, scan buffer = .found marker →
      ∃ byte, buffer[marker.headerEnd]? = some byte ∧ Byte.isWord byte = false) ↔
      OwnWord buffer := by
  constructor
  · intro separates marker ends
    obtain ⟨stem, byte, word, found, alone⟩ := ends.lastWord
    obtain ⟨other, same, separator⟩ := separates marker (scan_found_iff.mpr ends)
    obtain rfl : byte = other := Option.some.inj (found.symm.trans same)
    rw [word, alone.mp separator, List.nil_append]
  · intro own marker found
    have ends := scan_found_iff.mp found
    obtain ⟨stem, byte, word, found, alone⟩ := ends.lastWord
    refine ⟨byte, found, alone.mpr ?_⟩
    rw [own marker ends] at word
    simpa using word.symm

/-- Where the last word of a buffer merely ends like the word of a marker, its markers have no word
for themselves exactly where it has none. -/
theorem MerelyEnds.ownWord_iff {buffer : Bytes} (merely : MerelyEnds buffer) :
    OwnWord buffer ↔ scan buffer = .absent := by
  obtain ⟨stem, some, word⟩ := merely
  have longer : Marker.lastWord buffer ≠ keyword := by
    rw [word]
    simpa using some
  constructor
  · intro own
    cases scanned : scan buffer with
    | absent => rfl
    | fault => simp [lastWord_headless scanned, keyword] at word
    | found marker => exact absurd (own marker (scan_found_iff.mp scanned)) longer
  · intro absent marker ends
    rw [scan_found_iff.mpr ends] at absent
    contradiction

end Marker

namespace Link

/-- A header that ends in a marker has bytes behind it read as an attachment. -/
theorem receive_attached {link : Link} {buffer line : Bytes} {rest : Inbound} {marker : Marker}
    (idle : link.pending = 0) (opens : link.transport.inbound.Opens buffer.length line rest)
    (scan : Marker.scan (Header.stored line) = .found marker) :
    let intake := rest.take (min marker.length (buffer.length - line.length))
    (link.receive buffer).outcome = intake.outcome.map
        (fun _ => (Marker.Scan.found marker).receipt line.length buffer.length) ∧
      (link.receive buffer).state.1.transport.inbound = intake.rest := by
  obtain ⟨outcome, -, inbound, -⟩ := Reception.receive_announced opens scan
  rw [outcome_receive, inbound_receive, reception, idle]
  exact ⟨outcome, inbound⟩

/-- The byte that is overwritten in front of the word of a marker belongs to no word exactly where
the marker has its word for itself. So does a receive take nothing behind a header for an attachment
whose last word merely ends like the word of a marker: such a header is received as it is stored,
alone, exactly where no marker is found in it. Everywhere else the byte that is overwritten is part
of the header's last word, and as many bytes behind the header as the marker announces, and the
buffer has room for, are read as an attachment. -/
theorem keyword_boundary_iff (link : Link) (buffer : Bytes) :
    (∀ header : Bytes,
      (∀ marker, Marker.scan header = .found marker →
        ∃ byte, header[marker.headerEnd]? = some byte ∧ Byte.isWord byte = false) ↔
        Marker.OwnWord header) ∧
      ∀ (line : Bytes) (rest : Inbound), link.pending = 0 →
        link.transport.inbound.Opens buffer.length line rest →
        let header := Header.stored line
        let run := link.receive buffer
        ((Marker.MerelyEnds header → run.outcome = .ok (.complete line.length none) ∧
            run.state.1.transport.inbound = rest ∧ run.state.2 = overlay header buffer) ↔
          Marker.OwnWord header) ∧
        ∀ marker, Marker.Ends header marker → Marker.lastWord header ≠ Marker.keyword →
          Marker.MerelyEnds header ∧
          (∃ byte, header[marker.headerEnd]? = some byte ∧ Byte.isWord byte = true) ∧
          let intake := rest.take (min marker.length (buffer.length - line.length))
          run.outcome = intake.outcome.map
              (fun _ => (Marker.Scan.found marker).receipt line.length buffer.length) ∧
            run.state.1.transport.inbound = intake.rest := by
  refine ⟨fun header => Marker.ownWord_iff, ?_⟩
  intro line rest idle opens header run
  have merely : ∀ marker, Marker.Ends header marker → Marker.lastWord header ≠ Marker.keyword →
      Marker.MerelyEnds header ∧
        ∃ byte, header[marker.headerEnd]? = some byte ∧ Byte.isWord byte = true := by
    intro marker ends longer
    obtain ⟨stem, byte, word, found, alone⟩ := ends.lastWord
    have some : stem ≠ [] := by
      rintro rfl
      exact longer word
    exact ⟨⟨stem, some, word⟩, byte, found, by simpa using mt alone.mp some⟩
  refine ⟨⟨?_, ?_⟩, ?_⟩
  · intro alone marker ends
    by_contra longer
    obtain ⟨outcome, -⟩ := alone (merely marker ends longer).1
    have attached := (receive_attached idle opens (Marker.scan_found_iff.mpr ends)).1
    have receipt := Outcome.eq_of_map (attached.symm.trans outcome)
    rw [Marker.Scan.receipt] at receipt
    split at receipt <;> simp at receipt
  · intro own merely
    obtain ⟨outcome, inbound, -, stored⟩ := receive_bare idle opens (merely.ownWord_iff.mp own)
    exact ⟨outcome, inbound, stored⟩
  · intro marker ends longer
    obtain ⟨merelyEnds, within⟩ := merely marker ends longer
    exact ⟨merelyEnds, within,
      receive_attached idle opens (Marker.scan_found_iff.mpr ends)⟩

/-- The header `reattach 5` and the message `ping` behind it. One receive cuts the header off behind
its first letter and takes `ping` and its NUL for an attachment, so that the next finds nothing. -/
theorem keyword_boundary_reattach :
    let header := [114, 101, 97, 116, 116, 97, 99, 104, 32, 53, 0]
    let link := ofArrivals [.data (header ++ [112, 105, 110, 103, 0]) none]
    let buffer := List.replicate 16 238
    let run := link.receive buffer
    Marker.scan header = .found ⟨1, 5⟩ ∧ header[1]? = some 101 ∧ Byte.isWord 101 = true ∧
      Marker.MerelyEnds header ∧ run.outcome = .ok (.complete 16 (some 11)) ∧
      run.state.2 = [114, 0] ++ header.drop 2 ++ [112, 105, 110, 103, 0] ∧
      (run.state.1.receive buffer).outcome = .failed .peerClosed := by
  refine ⟨by decide, rfl, by decide, ⟨[114, 101], by simp, by decide⟩, ?_, ?_, ?_⟩ <;> cbv

end Link

end AgentLink
