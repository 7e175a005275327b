import AgentLink.Marker

/-!
# Where the marker scan faults

The scan looks for the word of a marker in front of the blanks that a count stands behind. Where
these are two and nothing stands in front of them, it looks in front of the buffer. What a buffer
that ends in a count is scanned for is what stands in front of the count (`scan_counted`), and
without a count nothing is found (`scan_split`). `scan_fault_iff` says where the scan faults.
-/
namespace AgentLink.Marker

/-- Two blanks, a count and perhaps more blanks, which is what a marker ends in. -/
inductive Headless : Bytes → Prop
  /-- Two blanks stand in front of the count, and nothing but blanks behind it. -/
  | intro {first second : UInt8} {count blanks : Bytes} (before : Byte.isBlank first = true)
    (separator : Byte.isBlank second = true) (counted : count ≠ [])
    (digits : ∀ byte ∈ count, Byte.isDigit byte = true)
    (trailing : ∀ byte ∈ blanks, Byte.isBlank byte = true) :
    Headless (first :: second :: count ++ blanks)

/-- The word is looked for within the buffer. -/
theorem scanKeyword_ne_fault (count backwards : Bytes) : scanKeyword count backwards ≠ .fault := by
  unfold scanKeyword
  split
  · split <;> simp
  · simp

/-- The blanks in front of a count are the fault where they are two and nothing else is left. -/
theorem scanSeparator_fault_iff {count backwards : Bytes} :
    scanSeparator count backwards = .fault ↔
      ∃ second first, backwards = [second, first] ∧ Byte.isBlank second = true ∧
        Byte.isBlank first = true := by
  match backwards with
  | [] => simp [scanSeparator]
  | [only] => simp [scanSeparator]
  | second :: first :: front =>
    constructor
    · intro fault
      simp only [scanSeparator] at fault
      split at fault
      · contradiction
      · rename_i separator
        split at fault
        · rename_i alone
          rw [Bool.and_eq_true, List.isEmpty_iff] at alone
          obtain ⟨before, rfl⟩ := alone
          exact ⟨second, first, rfl, by simpa using separator, before⟩
        · exact absurd fault (scanKeyword_ne_fault _ _)
    · rintro ⟨_, _, same, separator, before⟩
      cases same
      simp [scanSeparator, separator, before]

/-- What holds of all bytes at the end of a buffer holds of its last. -/
theorem last_of_all {front back : Bytes} {holds : UInt8 → Prop} (some : back ≠ [])
    (all : ∀ byte ∈ back, holds byte) : ∀ byte ∈ (front ++ back).getLast?, holds byte := by
  intro byte last
  rw [List.getLast?_append, List.getLast?_eq_some_getLast some] at last
  exact all byte (Option.some.inj last ▸ List.getLast_mem some)

/-- A count does not end in a terminator, nor do blanks behind one. -/
theorem dropTerminator_counted {front count trailing : Bytes} (counted : count ≠ [])
    (digits : ∀ byte ∈ count, Byte.isDigit byte = true)
    (blanks : ∀ byte ∈ trailing, Byte.isBlank byte = true) :
    dropTerminator (front ++ count ++ trailing).reverse = (front ++ count ++ trailing).reverse := by
  obtain ⟨last, more, back⟩ := List.exists_cons_of_ne_nil
    (mt List.reverse_eq_nil_iff.mp (List.append_ne_nil_of_left_ne_nil counted trailing))
  have member : last ∈ count ++ trailing := List.mem_reverse.mp (back ▸ List.mem_cons_self)
  have other : last ≠ Byte.nul := by
    rintro rfl
    rcases List.mem_append.mp member with digit | blank
    · exact absurd (digits _ digit) (by decide)
    · exact absurd (blanks _ blank) (by decide)
  rw [List.append_assoc, List.reverse_append, back, List.cons_append, dropTerminator, if_neg other]

/-- Behind a count, all that is dropped is a terminator. -/
theorem dropTerminator_ended {buffer front count trailing : Bytes} (counted : count ≠ [])
    (digits : ∀ byte ∈ count, Byte.isDigit byte = true)
    (blanks : ∀ byte ∈ trailing, Byte.isBlank byte = true)
    (ended : buffer = front ++ count ++ trailing ∨
      buffer = front ++ count ++ trailing ++ [Byte.nul]) :
    dropTerminator buffer.reverse = (front ++ count ++ trailing).reverse := by
  rcases ended with rfl | rfl
  · exact dropTerminator_counted counted digits blanks
  · rw [List.reverse_concat, dropTerminator, if_pos rfl]

/-- A scan from the back reads digits with blanks behind them as the count, where no digit stands
in front of them. -/
theorem scanCount_counted {front count trailing : Bytes} (counted : count ≠ [])
    (digits : ∀ byte ∈ count, Byte.isDigit byte = true)
    (blanks : ∀ byte ∈ trailing, Byte.isBlank byte = true)
    (stops : ∀ byte ∈ front.getLast?, Byte.isDigit byte = false) :
    scanCount (front ++ count ++ trailing).reverse = scanSeparator count front.reverse := by
  have skipped : (front ++ count ++ trailing).reverse.dropWhile Byte.isBlank =
      (front ++ count).reverse :=
    (Bytes.split_reverse blanks (last_of_all counted fun byte member =>
      Byte.isBlank_of_isDigit (digits byte member))).2
  obtain ⟨taken, left⟩ := Bytes.split_reverse digits stops
  simp only [scanCount]
  rw [skipped, taken, left, List.reverse_reverse, if_neg (by simpa using counted)]

/-- Where a scan from the back finds or faults, there is a count, and what stands in front of it
decides. -/
theorem scanCount_split {backwards : Bytes} (some : scanCount backwards ≠ .absent) :
    ∃ front count trailing : Bytes, backwards = (front ++ count ++ trailing).reverse ∧
      count ≠ [] ∧ (∀ byte ∈ count, Byte.isDigit byte = true) ∧
      (∀ byte ∈ trailing, Byte.isBlank byte = true) ∧
      scanCount backwards = scanSeparator count front.reverse := by
  let counted := backwards.dropWhile Byte.isBlank
  have count_ne_nil : (counted.takeWhile Byte.isDigit).reverse ≠ [] := by
    intro none
    apply some
    simp only [scanCount]
    rw [if_pos (List.isEmpty_iff.mpr none)]
  refine ⟨(counted.dropWhile Byte.isDigit).reverse, (counted.takeWhile Byte.isDigit).reverse,
    (backwards.takeWhile Byte.isBlank).reverse, ?_, count_ne_nil, ?_, ?_, ?_⟩
  · rw [(Bytes.taken_reverse Byte.isDigit counted).2,
      (Bytes.taken_reverse Byte.isBlank backwards).2, List.reverse_reverse]
  · exact (Bytes.taken_reverse Byte.isDigit counted).1
  · exact (Bytes.taken_reverse Byte.isBlank backwards).1
  · simp only [scanCount, List.reverse_reverse]
    rw [if_neg (mt List.isEmpty_iff.mp count_ne_nil)]

/-- The scan of a buffer that ends in a count goes on with what stands in front of it, whether or
not there is a terminator behind it. -/
theorem scan_counted {buffer front count trailing : Bytes} (counted : count ≠ [])
    (digits : ∀ byte ∈ count, Byte.isDigit byte = true)
    (blanks : ∀ byte ∈ trailing, Byte.isBlank byte = true)
    (stops : ∀ byte ∈ front.getLast?, Byte.isDigit byte = false) (long : 9 ≤ buffer.length)
    (ended : buffer = front ++ count ++ trailing ∨
      buffer = front ++ count ++ trailing ++ [Byte.nul]) :
    scan buffer = scanSeparator count front.reverse := by
  have least : ¬buffer.length < leastLength := Nat.not_lt_of_le long
  rw [scan, if_neg least, dropTerminator_ended counted digits blanks ended]
  exact scanCount_counted counted digits blanks stops

/-- Where a scan finds or faults, the buffer ends in a count, perhaps with a terminator behind it,
and what stands in front of it decides. -/
theorem scan_split {buffer : Bytes} (some : scan buffer ≠ .absent) :
    9 ≤ buffer.length ∧ ∃ front count trailing : Bytes, count ≠ [] ∧
      (∀ byte ∈ count, Byte.isDigit byte = true) ∧
      (∀ byte ∈ trailing, Byte.isBlank byte = true) ∧
      (buffer = front ++ count ++ trailing ∨ buffer = front ++ count ++ trailing ++ [Byte.nul]) ∧
      scan buffer = scanSeparator count front.reverse := by
  unfold scan at some ⊢
  split at some
  · contradiction
  · rename_i long
    rw [if_neg long]
    refine ⟨Nat.le_of_not_lt long, ?_⟩
    obtain ⟨front, count, trailing, split, counted, digits, blanks, scanned⟩ :=
      scanCount_split some
    refine ⟨front, count, trailing, counted, digits, blanks, ?_, scanned⟩
    cases back : buffer.reverse with
    | nil => exact .inl (List.reverse_inj.mp (by rw [← split, back, dropTerminator]))
    | cons last more =>
      rw [back, dropTerminator] at split
      split at split
      · rename_i terminated
        right
        rw [← List.reverse_reverse buffer, back, List.reverse_cons, split, terminated,
          List.reverse_reverse]
      · exact .inl (List.reverse_inj.mp (back.trans split))

/-- A headless marker holds no terminator. -/
theorem Headless.ne_nul {text : Bytes} (headless : Headless text) {byte : UInt8}
    (member : byte ∈ text) : byte ≠ Byte.nul := by
  rintro rfl
  obtain ⟨before, separator, -, digits, trailing⟩ := headless
  simp only [List.cons_append, List.mem_cons, List.mem_append] at member
  rcases member with rfl | rfl | counted | blank
  · exact absurd before (by decide)
  · exact absurd separator (by decide)
  · exact absurd (digits _ counted) (by decide)
  · exact absurd (trailing _ blank) (by decide)

/-- The scan faults at two blanks, a count and perhaps more blanks and a terminator, unless they
are too short to be scanned, and nowhere else. -/
theorem scan_fault_iff {buffer : Bytes} :
    scan buffer = .fault ↔ 9 ≤ buffer.length ∧
      ∃ text, Headless text ∧ (buffer = text ∨ buffer = text ++ [Byte.nul]) := by
  constructor
  · intro fault
    obtain ⟨long, front, count, trailing, counted, digits, blanks, ended, scanned⟩ :=
      @scan_split buffer (by simp [fault])
    obtain ⟨second, first, left, separator, before⟩ :=
      scanSeparator_fault_iff.mp (scanned.symm.trans fault)
    obtain rfl : front = [first, second] := List.reverse_inj.mp left
    exact ⟨long, _, .intro before separator counted digits blanks, ended⟩
  · rintro ⟨long, text, headless, ended⟩
    obtain ⟨before, separator, counted, digits, trailing⟩ := headless
    rename_i first second count blanks
    have stops : Byte.isDigit second = false := Byte.isDigit_of_isBlank separator
    have scanned := @scan_counted buffer [first, second] count blanks counted digits trailing
      (by simpa using stops) long ended
    rw [scanned]
    exact scanSeparator_fault_iff.mpr ⟨second, first, rfl, separator, before⟩

end AgentLink.Marker
