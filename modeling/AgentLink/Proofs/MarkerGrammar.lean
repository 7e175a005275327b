import AgentLink.Proofs.IndexedScan
import AgentLink.Proofs.MarkerFault

/-!
# The grammar of markers

A text spells a marker where a header of at least one byte is followed by a separating byte of any
kind, the word, blanks, digits and perhaps more blanks (`Marker.Spells`). The scan from the back
finds the markers of just these texts whose digits denote a word (`scan_spells`, `spells_of_scan`),
with or without a terminator behind them. With `scan_fault_iff` this says of every buffer what is
found in it and what becomes of it (`scan_grammar`).
-/
namespace AgentLink.Marker

/-- A text that spells a marker. The separating byte may be of any kind and the digits may begin
with zeros. -/
inductive Spells (header count : Bytes) : Bytes → Prop
  /-- A byte and the word stand behind the header, blanks in front of the count, and nothing but
  blanks behind it. -/
  | intro {separator : UInt8} {blanks trailing : Bytes} (headed : header ≠ [])
    (separated : blanks ≠ []) (between : ∀ byte ∈ blanks, Byte.isBlank byte = true)
    (counted : count ≠ []) (digits : ∀ byte ∈ count, Byte.isDigit byte = true)
    (behind : ∀ byte ∈ trailing, Byte.isBlank byte = true) :
    Spells header count (header ++ separator :: keyword ++ blanks ++ count ++ trailing)

/-- A text that spells a marker is no shorter than the least that is scanned. -/
theorem Spells.length {header count text : Bytes} (spells : Spells header count text) :
    9 ≤ text.length := by
  obtain ⟨headed, separated, -, counted, -, -⟩ := spells
  have header := List.length_pos_iff.mpr headed
  have blanks := List.length_pos_iff.mpr separated
  have count := List.length_pos_iff.mpr counted
  simp only [List.length_append, List.length_cons, keyword, List.length_nil]
  omega

/-- The marker of a header and a count, if the digits of the count denote a word. -/
def Scan.ofCount (header count : Bytes) : Scan :=
  match Decimal.below? countLimit count with
  | some length => .found ⟨header.length, length⟩
  | none => .absent

/-- A count is announced where its digits denote a word. -/
theorem Scan.ofCount_eq_found {header count : Bytes} {marker : Marker} :
    ofCount header count = .found marker ↔
      Decimal.value count < countLimit ∧ marker = ⟨header.length, Decimal.value count⟩ := by
  unfold ofCount Decimal.below?
  by_cases word : Decimal.value count < countLimit
  · simp [word, eq_comm]
  · simp [word]

/-- The word is found behind a header and a separating byte. -/
theorem scanKeyword_headed {header : Bytes} (headed : header ≠ []) (separator : UInt8)
    (count : Bytes) :
    scanKeyword count (header ++ separator :: keyword).reverse = .ofCount header count := by
  have some : 0 < header.length := List.length_pos_iff.mpr headed
  have spelled : keyword.length + 2 ≤ (header ++ separator :: keyword).reverse.length ∧
      keyword.reverse.isPrefixOf (header ++ separator :: keyword).reverse := by
    refine ⟨?_, by simp⟩
    simp only [List.length_reverse, List.length_append, List.length_cons]
    omega
  have header_length : (header ++ separator :: keyword).reverse.length - keyword.length - 1 =
      header.length := by
    simp only [List.length_reverse, List.length_append, List.length_cons]
    omega
  rw [scanKeyword, if_pos spelled, header_length]
  rfl

/-- Where the word is found, a separating byte and a header stand in front of it. -/
theorem headed_of_scanKeyword {count front : Bytes}
    (found : scanKeyword count front.reverse ≠ .absent) :
    ∃ header separator, header ≠ [] ∧ front = header ++ separator :: keyword := by
  unfold scanKeyword at found
  split at found
  · rename_i spelled
    obtain ⟨long, word⟩ := spelled
    obtain ⟨before, rfl⟩ := List.reverse_prefix.mp (List.isPrefixOf_iff_prefix.mp word)
    have two : 2 ≤ before.length := by
      simp only [List.length_reverse, List.length_append] at long
      omega
    have some : before ≠ [] := List.length_pos_iff.mp (by omega)
    refine ⟨before.dropLast, before.getLast some, ?_, ?_⟩
    · rw [← List.length_pos_iff, List.length_dropLast]
      omega
    · rw [List.append_cons, List.dropLast_concat_getLast]
  · contradiction

/-- The blanks in front of a count are skipped, down to the word, which is longer than a byte, so
that a second blank is not all that is left. -/
theorem scanSeparator_separated {header blanks : Bytes} (headed : header ≠ [])
    (separated : blanks ≠ []) (between : ∀ byte ∈ blanks, Byte.isBlank byte = true)
    (separator : UInt8) (count : Bytes) :
    scanSeparator count (header ++ separator :: keyword ++ blanks).reverse =
      .ofCount header count := by
  obtain ⟨last, more, back⟩ := List.exists_cons_of_ne_nil
    (mt List.reverse_eq_nil_iff.mp separated)
  have blank : ∀ byte ∈ last :: more, Byte.isBlank byte = true :=
    fun byte member => between byte (List.mem_reverse.mp (back ▸ member))
  have skipped : (more ++ (header ++ separator :: keyword).reverse).dropWhile Byte.isBlank =
      (header ++ separator :: keyword).reverse := by
    rw [List.dropWhile_append_of_pos fun byte member => blank byte (.tail _ member)]
    simp [keyword, Byte.isBlank]
  obtain ⟨before, rest, left⟩ : ∃ before rest,
      more ++ (header ++ separator :: keyword).reverse = before :: rest :=
    List.exists_cons_of_ne_nil (by simp)
  have some : rest ≠ [] := by
    rintro rfl
    have length := congrArg List.length left
    simp only [List.length_append, List.length_reverse, List.length_cons, keyword] at length
    omega
  rw [List.reverse_append, back, List.cons_append, left, scanSeparator,
    if_neg (by simp [blank last (.head _)]), if_neg (by simp [some]), ← left, skipped]
  exact scanKeyword_headed headed separator count

/-- Where a marker is found in front of a count, blanks stand between the word and the count. -/
theorem separated_of_scanSeparator {count front : Bytes} {marker : Marker}
    (found : scanSeparator count front.reverse = .found marker) :
    ∃ header separator blanks, header ≠ [] ∧ blanks ≠ [] ∧
      (∀ byte ∈ blanks, Byte.isBlank byte = true) ∧
      front = header ++ separator :: keyword ++ blanks := by
  cases back : front.reverse with
  | nil => simp [back, scanSeparator] at found
  | cons last backwards =>
    cases backwards with
    | nil => simp [back, scanSeparator] at found
    | cons before rest =>
      simp only [back, scanSeparator] at found
      split at found
      · contradiction
      · rename_i blank
        split at found
        · contradiction
        · have left : ((before :: rest).dropWhile Byte.isBlank).reverse.reverse =
              (before :: rest).dropWhile Byte.isBlank := List.reverse_reverse _
          rw [← left] at found
          obtain ⟨header, separator, headed, word⟩ := headed_of_scanKeyword (by rw [found]; simp)
          obtain ⟨blanks, split⟩ := Bytes.taken_reverse Byte.isBlank (before :: rest)
          refine ⟨header, separator, ((before :: rest).takeWhile Byte.isBlank).reverse ++ [last],
            headed, by simp, ?_, ?_⟩
          · intro byte member
            rcases List.mem_append.mp member with earlier | same
            · exact blanks byte earlier
            · rw [List.mem_singleton.mp same]
              simpa using blank
          · rw [← word, ← List.append_assoc, split, ← List.reverse_cons, ← back,
              List.reverse_reverse]

/-- Where a buffer spells a marker, it is found if its digits denote a word. -/
theorem scan_spells {header count text buffer : Bytes} (spells : Spells header count text)
    (ended : buffer = text ∨ buffer = text ++ [Byte.nul]) :
    scan buffer = .ofCount header count := by
  have long : 9 ≤ buffer.length := by
    rcases ended with rfl | rfl
    · exact spells.length
    · rw [List.length_append]
      exact Nat.le_add_right_of_le spells.length
  obtain ⟨headed, separated, between, counted, digits, behind⟩ := spells
  rename_i separator blanks trailing
  have stops : ∀ byte ∈ (header ++ separator :: keyword ++ blanks).getLast?,
      Byte.isDigit byte = false :=
    last_of_all separated fun byte member => Byte.isDigit_of_isBlank (between byte member)
  rw [scan_counted counted digits behind stops long ended]
  exact scanSeparator_separated headed separated between separator count

/-- Where a marker is found in a buffer, the buffer spells it. -/
theorem spells_of_scan {buffer : Bytes} {marker : Marker} (found : scan buffer = .found marker) :
    ∃ header count text, Spells header count text ∧
      (buffer = text ∨ buffer = text ++ [Byte.nul]) := by
  obtain ⟨-, front, count, trailing, counted, digits, behind, ended, scanned⟩ :=
    @scan_split buffer (by simp [found])
  obtain ⟨header, separator, blanks, headed, separated, between, rfl⟩ :=
    separated_of_scanSeparator (scanned.symm.trans found)
  exact ⟨header, count, _, .intro headed separated between counted digits behind, ended⟩

/-- A buffer that ends in a marker, with or without a terminator behind it. -/
def Ends (buffer : Bytes) (marker : Marker) : Prop :=
  ∃ header count text, Spells header count text ∧
    (buffer = text ∨ buffer = text ++ [Byte.nul]) ∧ Decimal.value count < countLimit ∧
    marker = ⟨header.length, Decimal.value count⟩

/-- The scan finds the marker that a buffer ends in. -/
theorem scan_found_iff {buffer : Bytes} {marker : Marker} :
    scan buffer = .found marker ↔ Ends buffer marker := by
  constructor
  · intro found
    obtain ⟨header, count, text, spells, ended⟩ := spells_of_scan found
    exact ⟨header, count, text, spells, ended,
      Scan.ofCount_eq_found.mp ((scan_spells spells ended).symm.trans found)⟩
  · rintro ⟨header, count, text, spells, ended, announced⟩
    rw [scan_spells spells ended]
    exact Scan.ofCount_eq_found.mpr announced

/-- Where a marker can stand in a buffer, and what it can announce. -/
structure Fits (marker : Marker) (buffer : Bytes) : Prop where
  /-- A header byte stands in front of it. -/
  headed : 0 < marker.headerEnd
  /-- The separating byte and the word are within the buffer. -/
  within : marker.headerEnd + keyword.length + 1 ≤ buffer.length
  /-- The count is a word. -/
  counted : marker.length < countLimit

/-- A marker stands within the buffer that ends in it, behind a header byte. -/
theorem Ends.fits {buffer : Bytes} {marker : Marker} (ends : Ends buffer marker) :
    marker.Fits buffer := by
  obtain ⟨header, count, text, spells, ended, word, rfl⟩ := ends
  have most : text.length ≤ buffer.length := by
    rcases ended with rfl | rfl
    · exact Nat.le_refl _
    · rw [List.length_append]
      exact Nat.le_add_right _ _
  obtain ⟨headed, -, -, -, -, -⟩ := spells
  refine ⟨List.length_pos_iff.mpr headed, ?_, word⟩
  simp only [List.length_append, List.length_cons] at most
  dsimp only
  omega

/-- A buffer that the scan faults at: two blanks, digits and perhaps more blanks and a terminator,
of nine bytes or more. -/
def IsHeadless (buffer : Bytes) : Prop :=
  9 ≤ buffer.length ∧ ∃ text, Headless text ∧ (buffer = text ∨ buffer = text ++ [Byte.nul])

/-- What is found in a buffer is the marker it ends in, with nothing changed but the separating
byte, which ends the header. The scan faults exactly at the headless buffers. In every other buffer
nothing is found and nothing changed, and so in buffers of less than nine bytes and in those whose
digits denote no word of 64 bits. The scan by positions comes to the same on every buffer whose
length is a word. -/
theorem scan_grammar (buffer : Bytes) :
    let found := scan buffer
    (∀ marker, found = .found marker ↔ Ends buffer marker) ∧
      (found = .fault ↔ IsHeadless buffer) ∧
      (found = .absent ↔ (∀ marker, ¬Ends buffer marker) ∧ ¬IsHeadless buffer) ∧
      (∀ marker, Ends buffer marker → 0 < marker.headerEnd ∧ marker.headerEnd < buffer.length ∧
        found.apply buffer = buffer.set marker.headerEnd Byte.nul) ∧
      ((∀ marker, ¬Ends buffer marker) → found.apply buffer = buffer) ∧
      (buffer.length < 9 → found = .absent) ∧
      (∀ header count text, Spells header count text →
        (buffer = text ∨ buffer = text ++ [Byte.nul]) → UInt64.size ≤ Decimal.value count →
        found = .absent) ∧
      (buffer.length < UInt64.size → Indexed.findMarker buffer = .ofScan buffer found) := by
  intro found
  have founds : ∀ marker, found = .found marker ↔ Ends buffer marker := fun _ => scan_found_iff
  have faults : found = .fault ↔ IsHeadless buffer := scan_fault_iff
  refine ⟨founds, faults, ?_, ?_, ?_, ?_, ?_, ?_⟩
  · simp only [← founds, ← faults]
    cases found <;> simp
  · intro marker ends
    have fits := ends.fits
    have within := fits.within
    refine ⟨fits.headed, by omega, ?_⟩
    rw [(founds marker).mpr ends]
    rfl
  · intro none
    cases scanned : found with
    | absent => rfl
    | fault => rfl
    | found marker => exact absurd ((founds marker).mp scanned) (none marker)
  · intro short
    exact if_pos short
  · intro header count text spells ended large
    have overflow : Decimal.below? countLimit count = none := if_neg (Nat.not_lt_of_le large)
    have scanned : found = .ofCount header count := scan_spells spells ended
    rw [scanned, Scan.ofCount, overflow]
  · exact Indexed.findMarker_eq

end AgentLink.Marker
