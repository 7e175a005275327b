import AgentLink.Bytes

/-!
# Decimal numbers

A number is written as its decimal digits, most significant first, without sign and without a
leading zero. Reading is wider: leading zeros are allowed, and a limit bounds the value that is
admitted. Reading what was written gives the number back (`value_digits`), and digits without a zero
in front of another are written again as they were read (`digits_value`).
-/
namespace AgentLink.Decimal

/-- The value of one digit. -/
def weight (digit : UInt8) : Nat := digit.toNat - 48

/-- The number that digits denote, most significant first. -/
def value (digits : Bytes) : Nat :=
  digits.foldl (fun total digit => total * 10 + weight digit) 0

/-- The number that digits denote, when it lies below a limit. -/
def below? (limit : Nat) (digits : Bytes) : Option Nat :=
  if value digits < limit then some (value digits) else none

/-- The number below a limit that is written with at least one digit and nothing else. -/
def read? (limit : Nat) (text : Bytes) : Option Nat :=
  if !text.isEmpty && text.all Byte.isDigit then below? limit text else none

/-- The digit that stands for a number below ten. -/
def digit (number : Nat) : UInt8 := UInt8.ofNat (48 + number)

/-- The digits of a number, most significant first. -/
def digits (number : Nat) : Bytes :=
  if number < 10 then [digit number] else digits (number / 10) ++ [digit (number % 10)]

/-- Digits, at least one, of which the first may be a zero. -/
def IsNumeral (text : Bytes) : Prop := text ≠ [] ∧ ∀ byte ∈ text, Byte.isDigit byte = true

/-- Digits, at least one, with no zero in front of another digit. -/
def IsPlain (text : Bytes) : Prop :=
  IsNumeral text ∧ (text.head? = some (digit 0) → text.length = 1)

/-- Digits denote a number below a limit. -/
theorem below?_eq_some {limit number : Nat} {text : Bytes} :
    below? limit text = some number ↔ value text = number ∧ number < limit := by
  unfold below?
  by_cases small : value text < limit
  · rw [if_pos small, Option.some.injEq]
    exact ⟨fun same => ⟨same, same ▸ small⟩, And.left⟩
  · rw [if_neg small]
    refine iff_of_false (by simp) ?_
    rintro ⟨rfl, less⟩
    exact small less

/-- Digits denote no number below a limit where theirs reaches it. -/
theorem below?_eq_none {limit : Nat} {text : Bytes} :
    below? limit text = none ↔ limit ≤ value text := by
  simp [below?]

/-- Whether a text is digits, at least one. -/
theorem isNumeral_iff {text : Bytes} :
    (!text.isEmpty && text.all Byte.isDigit) = true ↔ IsNumeral text := by
  simp [IsNumeral]

/-- A number is read from a text of digits that denote it, where it lies below the limit. -/
theorem read?_eq_some {limit number : Nat} {text : Bytes} :
    read? limit text = some number ↔ IsNumeral text ∧ value text = number ∧ number < limit := by
  unfold read?
  by_cases numeral : IsNumeral text
  · rw [if_pos (isNumeral_iff.mpr numeral), below?_eq_some]
    exact (and_iff_right numeral).symm
  · rw [if_neg (mt isNumeral_iff.mp numeral)]
    exact iff_of_false (by simp) fun read => numeral read.1

/-- A digit appended multiplies the number by ten and adds the value of the digit. -/
theorem value_concat (front : Bytes) (last : UInt8) :
    value (front ++ [last]) = value front * 10 + weight last := by
  simp [value]

/-- The digit of a number below ten has that number as its value. -/
theorem weight_digit {number : Nat} (small : number < 10) : weight (digit number) = number := by
  simp only [weight, digit, UInt8.toNat_ofNat']
  omega

/-- The digit of a number below ten is a decimal digit. -/
theorem isDigit_digit {number : Nat} (small : number < 10) :
    Byte.isDigit (digit number) = true := by
  rw [Byte.isDigit_iff, digit, UInt8.toNat_ofNat']
  omega

/-- A digit stands for its value. -/
theorem digit_weight {byte : UInt8} (decimal : Byte.isDigit byte = true) :
    digit (weight byte) = byte := by
  rw [digit, weight, Nat.add_sub_cancel' (Byte.isDigit_iff.mp decimal).1, UInt8.ofNat_toNat]

/-- The value of a digit is less than ten. -/
theorem weight_lt {byte : UInt8} (decimal : Byte.isDigit byte = true) : weight byte < 10 := by
  have bounds := Byte.isDigit_iff.mp decimal
  rw [weight]
  omega

/-- Reading the digits of a number gives the number. -/
theorem value_digits (number : Nat) : value (digits number) = number := by
  fun_induction digits number with
  | case1 number small => simp [value, weight_digit small]
  | case2 number large ih =>
    rw [value_concat, ih, weight_digit (Nat.mod_lt _ (by decide))]
    omega

/-- A number is written with digits only. -/
theorem isDigit_of_mem_digits {number : Nat} {byte : UInt8} (member : byte ∈ digits number) :
    Byte.isDigit byte = true := by
  fun_induction digits number with
  | case1 number small =>
    obtain rfl := List.mem_singleton.mp member
    exact isDigit_digit small
  | case2 number large ih =>
    rcases List.mem_append.mp member with front | last
    · exact ih front
    · obtain rfl := List.mem_singleton.mp last
      exact isDigit_digit (Nat.mod_lt _ (by decide))

/-- Every number is written with at least one digit. -/
theorem digits_ne_nil (number : Nat) : digits number ≠ [] := by
  unfold digits
  split <;> simp

/-- A number is written without a zero in front of another digit: a zero alone is written of no
number that another digit goes on with. -/
theorem isPlain_digits (number : Nat) : IsPlain (digits number) := by
  refine ⟨⟨digits_ne_nil number, fun _ member => isDigit_of_mem_digits member⟩, ?_⟩
  fun_induction digits number with
  | case1 number small => simp
  | case2 number large ih =>
    intro zero
    rw [List.head?_append, Option.or_of_isSome (by simpa using digits_ne_nil _)] at zero
    obtain ⟨byte, alone⟩ := List.length_eq_one_iff.mp (ih zero)
    have front : number / 10 = 0 := by
      rw [← value_digits (number / 10), alone]
      rw [alone] at zero
      obtain rfl := Option.some.inj zero
      rfl
    omega

/-- A number is written with one digit more than its tens. -/
theorem digits_concat {number : Nat} {last : UInt8} (positive : number ≠ 0)
    (decimal : Byte.isDigit last = true) :
    digits (number * 10 + weight last) = digits number ++ [last] := by
  have small := weight_lt decimal
  have tens : (number * 10 + weight last) / 10 = number := by omega
  have ones : (number * 10 + weight last) % 10 = weight last := by omega
  rw [digits, if_neg (by omega), tens, ones, digit_weight decimal]

/-- Digits without a zero in front of another are those that their number is written with. This goes
by the digits: those in front of a last one do not begin with a zero. -/
theorem digits_value {text : Bytes} (plain : IsPlain text) : digits (value text) = text := by
  obtain ⟨⟨some, all⟩, unpadded⟩ := plain
  rcases List.eq_nil_or_concat text with rfl | ⟨front, last, rfl⟩
  · exact absurd rfl some
  · rw [List.concat_eq_append] at all unpadded ⊢
    have decimal : Byte.isDigit last = true := all last (by simp)
    rw [value_concat]
    by_cases more : front = []
    · have alone : value front * 10 + weight last = weight last := by simp [more, value]
      rw [alone, digits, if_pos (weight_lt decimal), digit_weight decimal, more, List.nil_append]
    · have nonzero : front.head? ≠ Option.some (digit 0) := by
        intro zero
        have length := unpadded (by rw [List.head?_append, zero]; rfl)
        have front_length := List.length_pos_iff.mpr more
        rw [List.length_append, List.length_singleton] at length
        omega
      have shorter : digits (value front) = front :=
        digits_value ⟨⟨more, fun byte member => all byte (List.mem_append_left _ member)⟩,
          fun zero => absurd zero nonzero⟩
      have positive : value front ≠ 0 := by
        intro zero
        rw [zero, digits, if_pos (by decide)] at shorter
        exact nonzero (shorter ▸ rfl)
      rw [digits_concat positive decimal, shorter]
termination_by text.length

end AgentLink.Decimal
