import AgentLink.Text

/-!
# Text that is read back

The bytes of a text in UTF-8 are read as the text they spell, without a replacement character
(`lossy_utf8`). A character is spelled by a leading byte and up to three others, each with the next
six bits of its number. The leading byte bounds the byte after it exactly where a shorter spelling,
a surrogate or a number beyond the last code point would begin alike, and the number of a character
is none of these.
-/
namespace AgentLink.Text

/-- The byte that goes on with a character by the last six bits of a number. -/
def following (number : Nat) : UInt8 := .ofNat (number % 64 + 0x80)

/-- The byte that goes on with a character holds the last six bits above its mark. -/
theorem toNat_following (number : Nat) : (following number).toNat = number % 64 + 128 := by
  rw [following, UInt8.toNat_ofNat_of_lt']
  exact Nat.lt_of_lt_of_le (Nat.add_lt_add_right (Nat.mod_lt number (by decide)) 128) (by decide)

/-- The byte that goes on with a character is read as the last six bits. -/
@[simp] theorem continuation_following (number : Nat) :
    continuation (following number) = number % 64 := by
  rw [continuation, toNat_following]
  omega

/-- A character begun earlier allows the byte that goes on with it by a number. -/
def Unfinished.Allows (part : Unfinished) (number : Nat) : Prop :=
  part.least.toNat ≤ number % 64 + 128 ∧ number % 64 + 128 ≤ part.greatest.toNat

/-- What a leading byte begins, by its number. -/
theorem lead_ofNat {number : Nat} (small : number < 256) :
    lead (.ofNat number) =
      if number < 0x80 then .whole (Char.ofNat number)
      else if number < 0xC2 then .invalid
      else if number < 0xE0 then .unfinished ⟨number % 32, 0x80, 0xBF, 0⟩
      else if number = 0xE0 then .unfinished ⟨0, 0xA0, 0xBF, 1⟩
      else if number = 0xED then .unfinished ⟨13, 0x80, 0x9F, 1⟩
      else if number < 0xF0 then .unfinished ⟨number % 16, 0x80, 0xBF, 1⟩
      else if number = 0xF0 then .unfinished ⟨0, 0x90, 0xBF, 2⟩
      else if number < 0xF4 then .unfinished ⟨number % 8, 0x80, 0xBF, 2⟩
      else if number = 0xF4 then .unfinished ⟨4, 0x80, 0x8F, 2⟩
      else .invalid := by
  have value : (UInt8.ofNat number).toNat = number := UInt8.toNat_ofNat_of_lt' small
  simp only [lead, UInt8.lt_iff_toNat_lt, ← UInt8.toNat_inj, value]
  rfl

section

variable {byte : UInt8} {rest : Bytes} {part : Unfinished} {number : Nat}

/-- A byte that is a whole character is followed by the characters of the rest. -/
theorem chars_whole {char : Char} (begins : lead byte = .whole char) :
    chars none (byte :: rest) = char :: chars none rest := by
  simp [chars, step, enter, begins]

/-- A byte that begins a character leaves it unfinished for the rest. -/
theorem chars_lead (begins : lead byte = .unfinished part) :
    chars none (byte :: rest) = chars (some part) rest := by
  simp [chars, step, enter, begins]

/-- What a byte does that goes on with a character. -/
theorem step_following (allowed : part.Allows number) :
    step (some part) (following number) =
      match part.beyond with
      | 0 => ([Char.ofNat (part.value * 64 + number % 64)], none)
      | fewer + 1 => ([], some ⟨part.value * 64 + number % 64, 0x80, 0xBF, fewer⟩) := by
  have within : part.least ≤ following number ∧ following number ≤ part.greatest := by
    rw [UInt8.le_iff_toNat_le, UInt8.le_iff_toNat_le, toNat_following]
    exact allowed
  rw [← continuation_following]
  exact if_pos within

/-- The last byte of a character completes it. -/
theorem chars_last (allowed : part.Allows number) (last : part.beyond = 0) :
    chars (some part) (following number :: rest) =
      Char.ofNat (part.value * 64 + number % 64) :: chars none rest := by
  simp [chars, step_following allowed, last]

/-- A byte that is not the last of a character leaves it unfinished for the rest. -/
theorem chars_more {fewer : Nat} (allowed : part.Allows number) (more : part.beyond = fewer + 1) :
    chars (some part) (following number :: rest) =
      chars (some ⟨part.value * 64 + number % 64, 0x80, 0xBF, fewer⟩) rest := by
  simp [chars, step_following allowed, more]

/-- Behind its second byte a character goes on by any number. -/
theorem allows_following (value beyond : Nat) :
    Unfinished.Allows ⟨value, 0x80, 0xBF, beyond⟩ number := by
  have bounded := Nat.mod_lt number (show 0 < 64 by decide)
  exact ⟨Nat.le_add_left _ _, show number % 64 + 128 ≤ 191 by omega⟩

end

/-- A character of three bytes is begun, and goes on by its number. -/
theorem lead_three {number : Nat} (least : 0x800 ≤ number) (greatest : number < 0x10000)
    (valid : number < 0xD800 ∨ 0xDFFF < number) :
    ∃ part, lead (.ofNat (number / 4096 % 16 + 0xE0)) = .unfinished part ∧
      part.value = number / 4096 ∧ part.beyond = 1 ∧ part.Allows (number / 64) := by
  rw [lead_ofNat (by omega), if_neg (by omega), if_neg (by omega), if_neg (by omega)]
  by_cases low : number / 4096 % 16 + 0xE0 = 0xE0
  · rw [if_pos low]
    refine ⟨_, rfl, by dsimp only; omega, rfl, ?_, ?_⟩
    · show 160 ≤ number / 64 % 64 + 128
      omega
    · show number / 64 % 64 + 128 ≤ 191
      omega
  · rw [if_neg low]
    by_cases surrogate : number / 4096 % 16 + 0xE0 = 0xED
    · rw [if_pos surrogate]
      refine ⟨_, rfl, by dsimp only; omega, rfl, ?_, ?_⟩
      · show 128 ≤ number / 64 % 64 + 128
        omega
      · show number / 64 % 64 + 128 ≤ 159
        omega
    · rw [if_neg surrogate, if_pos (by omega)]
      exact ⟨_, rfl, by dsimp only; omega, rfl, allows_following _ _⟩

/-- A character of four bytes is begun, and goes on by its number. -/
theorem lead_four {number : Nat} (least : 0x10000 ≤ number) (greatest : number < 0x110000) :
    ∃ part, lead (.ofNat (number / 262144 % 8 + 0xF0)) = .unfinished part ∧
      part.value = number / 262144 ∧ part.beyond = 2 ∧ part.Allows (number / 4096) := by
  rw [lead_ofNat (by omega), if_neg (by omega), if_neg (by omega), if_neg (by omega),
    if_neg (by omega), if_neg (by omega), if_neg (by omega)]
  by_cases low : number / 262144 % 8 + 0xF0 = 0xF0
  · rw [if_pos low]
    refine ⟨_, rfl, by dsimp only; omega, rfl, ?_, ?_⟩
    · show 144 ≤ number / 4096 % 64 + 128
      omega
    · show number / 4096 % 64 + 128 ≤ 191
      omega
  · rw [if_neg low]
    by_cases below : number / 262144 % 8 + 0xF0 < 0xF4
    · rw [if_pos below]
      exact ⟨_, rfl, by dsimp only; omega, rfl, allows_following _ _⟩
    · rw [if_neg below, if_pos (by omega)]
      refine ⟨_, rfl, by dsimp only; omega, rfl, ?_, ?_⟩
      · show 128 ≤ number / 4096 % 64 + 128
        omega
      · show number / 4096 % 64 + 128 ≤ 143
        omega

/-- The bytes of a character are read as the character. -/
theorem chars_utf8EncodeChar (char : Char) (rest : Bytes) :
    chars none (String.utf8EncodeChar char ++ rest) = char :: chars none rest := by
  have same : Char.ofNat char.val.toNat = char := Char.ofNat_toNat char
  have valid : char.val.toNat < 0xD800 ∨ 0xDFFF < char.val.toNat ∧ char.val.toNat < 0x110000 :=
    char.valid
  unfold String.utf8EncodeChar
  generalize char.val.toNat = number at same valid
  dsimp only
  split
  · have begins : lead (.ofNat number) = .whole char := by
      rw [lead_ofNat (by omega), if_pos (by omega), same]
    exact chars_whole begins
  · split
    · have begins : lead (.ofNat (number / 64 % 32 + 0xC0)) =
          .unfinished ⟨number / 64, 0x80, 0xBF, 0⟩ := by
        rw [lead_ofNat (by omega), if_neg (by omega), if_neg (by omega), if_pos (by omega)]
        congr 2
        omega
      have whole : number / 64 * 64 + number % 64 = number := by omega
      refine (chars_lead begins).trans ((chars_last (allows_following _ _) rfl).trans ?_)
      rw [whole, same]
      rfl
    · split
      · obtain ⟨part, begins, value, beyond, allowed⟩ :=
          lead_three (show 0x800 ≤ number by omega) (by omega) (by omega)
        have whole : (part.value * 64 + number / 64 % 64) * 64 + number % 64 = number := by omega
        refine (chars_lead begins).trans ((chars_more allowed beyond).trans ?_)
        refine (chars_last (allows_following _ _) rfl).trans ?_
        rw [whole, same]
        rfl
      · obtain ⟨part, begins, value, beyond, allowed⟩ :=
          lead_four (show 0x10000 ≤ number by omega) (by omega)
        have whole : ((part.value * 64 + number / 4096 % 64) * 64 + number / 64 % 64) * 64 +
            number % 64 = number := by omega
        refine (chars_lead begins).trans ((chars_more allowed beyond).trans ?_)
        refine (chars_more (allows_following _ _) rfl).trans ?_
        refine (chars_last (allows_following _ _) rfl).trans ?_
        rw [whole, same]
        rfl

/-- The bytes of characters are read as the characters. -/
theorem chars_flatMap (text : List Char) :
    chars none (text.flatMap String.utf8EncodeChar) = text := by
  induction text with
  | nil => rfl
  | cons char text ih => rw [List.flatMap_cons, chars_utf8EncodeChar, ih]

/-- The bytes of a text are those of its characters. -/
theorem utf8_ofList (chars : List Char) :
    utf8 (String.ofList chars) = chars.flatMap String.utf8EncodeChar := by
  rw [utf8, String.toByteArray_ofList, List.utf8Encode, List.toList_data_toByteArray]

/-- A text is read back from its bytes. -/
theorem lossy_utf8 (text : String) : lossy (utf8 text) = text := by
  obtain ⟨chars, rfl⟩ : ∃ chars, text = String.ofList chars := ⟨_, String.ofList_toList.symm⟩
  rw [lossy, utf8_ofList, chars_flatMap]

/-- A character of ASCII is a byte. -/
theorem utf8EncodeChar_ofNat {number : Nat} (small : number < 128) :
    String.utf8EncodeChar (Char.ofNat number) = [.ofNat number] := by
  have value : (Char.ofNat number).val.toNat = number := by
    rw [Char.ofNat, dif_pos (.inl (by omega))]
    rfl
  unfold String.utf8EncodeChar
  rw [value]
  exact if_pos (by omega)

/-- The text that bytes of ASCII spell has just these bytes. -/
theorem utf8_ascii {bytes : Bytes} (small : ∀ byte ∈ bytes, byte < 128) :
    utf8 (ascii bytes) = bytes := by
  rw [ascii, utf8_ofList]
  induction bytes with
  | nil => rfl
  | cons byte bytes ih =>
    have first : byte.toNat < 128 := UInt8.lt_iff_toNat_lt.mp (small byte (.head _))
    rw [List.map_cons, List.flatMap_cons, utf8EncodeChar_ofNat first, UInt8.ofNat_toNat,
      ih fun byte member => small byte (.tail _ member)]
    rfl

end AgentLink.Text
