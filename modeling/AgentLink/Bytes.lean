/-!
# Bytes

Messages, attachments and buffers are lists of bytes in wire order. The two classes of bytes
that framing distinguishes, blanks and decimal digits, are those of ASCII: the framing never
looks at the text a header carries beyond them.
-/
namespace AgentLink

/-- Bytes in wire order. -/
abbrev Bytes := List UInt8

namespace Byte

/-- The byte that ends a stored header. -/
def nul : UInt8 := 0

/-- The byte that ends a header written as a line of text. -/
def newline : UInt8 := 10

/-- The byte that may come right before a newline. -/
def carriageReturn : UInt8 := 13

/-- The space. -/
def space : UInt8 := 32

/-- The colon, which stands between the parts of an address. -/
def colon : UInt8 := 58

/-- The six blanks: space, tab, newline, vertical tab, form feed and carriage return. -/
def isBlank (byte : UInt8) : Bool := byte == 32 || (9 ≤ byte && byte ≤ 13)

/-- The ten decimal digits. -/
def isDigit (byte : UInt8) : Bool := 48 ≤ byte && byte ≤ 57

/-- The bytes after one given byte, if it stands in front. -/
def skip? (expected : UInt8) : Bytes → Option Bytes
  | byte :: rest => if byte = expected then some rest else none
  | [] => none

/-- What is left behind an expected byte. -/
theorem skip?_eq_some {expected : UInt8} {source rest : Bytes} :
    skip? expected source = some rest ↔ source = expected :: rest := by
  cases source with
  | nil => simp [skip?]
  | cons byte source => simp [skip?]

/-- The digits are the bytes from 48 to 57. -/
theorem isDigit_iff {byte : UInt8} : isDigit byte = true ↔ 48 ≤ byte.toNat ∧ byte.toNat ≤ 57 := by
  simp only [isDigit, Bool.and_eq_true, decide_eq_true_eq, UInt8.le_iff_toNat_le,
    UInt8.reduceToNat]

/-- No digit is a blank. -/
theorem isBlank_of_isDigit {byte : UInt8} (digit : isDigit byte = true) :
    isBlank byte = false := by
  simp only [isDigit, Bool.and_eq_true, decide_eq_true_eq] at digit
  simp only [isBlank, Bool.or_eq_false_iff, beq_eq_false_iff_ne, Bool.and_eq_false_iff,
    decide_eq_false_iff_not]
  refine ⟨?_, ?_⟩
  · rintro rfl
    exact absurd digit.1 (by decide)
  · right
    intro small
    exact absurd (UInt8.le_trans digit.1 small) (by decide)

/-- No blank is a digit. -/
theorem isDigit_of_isBlank {byte : UInt8} (blank : isBlank byte = true) : isDigit byte = false := by
  rw [Bool.eq_false_iff]
  intro digit
  exact absurd blank (by simp [isBlank_of_isDigit digit])

end Byte

/-- A text is split behind its longest front of a kind where nothing of that kind follows. -/
theorem Bytes.split_iff {kind : UInt8 → Bool} {source front rest : Bytes} :
    source.takeWhile kind = front ∧ source.dropWhile kind = rest ↔
      source = front ++ rest ∧ (∀ byte ∈ front, kind byte = true) ∧
        ∀ byte ∈ rest.head?, kind byte = false := by
  constructor
  · rintro ⟨rfl, rfl⟩
    refine ⟨List.takeWhile_append_dropWhile.symm, List.all_eq_true.mp List.all_takeWhile, ?_⟩
    intro byte first
    simpa [Option.mem_def.mp first] using List.head?_dropWhile_not kind source
  · rintro ⟨rfl, all, ends⟩
    rw [List.takeWhile_append_of_pos all, List.dropWhile_append_of_pos all]
    cases rest with
    | nil => simp
    | cons byte rest => simp [ends byte rfl]

/-- From the back, a text is split in front of its longest end of a kind where nothing of that kind
stands before it. -/
theorem Bytes.split_reverse {kind : UInt8 → Bool} {front back : Bytes}
    (all : ∀ byte ∈ back, kind byte = true) (stops : ∀ byte ∈ front.getLast?, kind byte = false) :
    (front ++ back).reverse.takeWhile kind = back.reverse ∧
      (front ++ back).reverse.dropWhile kind = front.reverse := by
  refine split_iff.mpr ⟨List.reverse_append, ?_, ?_⟩
  · exact fun byte member => all byte (List.mem_reverse.mp member)
  · rwa [List.head?_reverse]

/-- What is taken from the back is of the kind, and stands behind what is left. -/
theorem Bytes.taken_reverse (kind : UInt8 → Bool) (backwards : Bytes) :
    (∀ byte ∈ (backwards.takeWhile kind).reverse, kind byte = true) ∧
      (backwards.dropWhile kind).reverse ++ (backwards.takeWhile kind).reverse =
        backwards.reverse := by
  refine ⟨fun byte member => ?_, ?_⟩
  · exact List.all_eq_true.mp List.all_takeWhile byte (List.mem_reverse.mp member)
  · rw [← List.reverse_append, List.takeWhile_append_dropWhile]

/-- The bytes of a text in UTF-8. -/
def utf8 (text : String) : Bytes := text.toByteArray.data.toList

/-- The text that ASCII bytes spell. -/
def ascii (bytes : Bytes) : String := String.ofList (bytes.map fun byte => Char.ofNat byte.toNat)

end AgentLink
