import AgentLink.Ipv4
import AgentLink.Proofs.Characters

/-!
# Dotted quads

The text of an address is four octets joined by dots, each of them digits that denote a number below
256, without a zero in front of another digit (`Ipv4.Spells`). Reading accepts the texts that spell
an address and no others (`Ipv4.read?_eq_some`), and the text that is written of an address spells
it (`Ipv4.spells_text`).
-/
namespace AgentLink

namespace Ipv4

/-- The text of an octet: digits that denote it, with no zero in front of another digit. -/
def SpellsOctet (text : Bytes) (value : UInt8) : Prop :=
  Decimal.IsPlain text ∧ Decimal.value text = value.toNat

/-- The text of an address: its four octets, joined by dots. -/
def Spells (text : Bytes) (address : Ipv4) : Prop :=
  ∃ first second third fourth, SpellsOctet first address.first ∧
    SpellsOctet second address.second ∧ SpellsOctet third address.third ∧
    SpellsOctet fourth address.fourth ∧
    text = first ++ dot :: second ++ dot :: third ++ dot :: fourth

/-- An octet is read from the front where its text stands and no other digit follows. -/
theorem readOctet?_eq_some {source rest : Bytes} {value : UInt8} :
    readOctet? source = some (value, rest) ↔ ∃ text, SpellsOctet text value ∧
      source = text ++ rest ∧ ∀ byte ∈ rest.head?, Byte.isDigit byte = false := by
  constructor
  · intro read
    obtain ⟨split, all, ends⟩ := Bytes.split_iff.mp
      (⟨rfl, rfl⟩ : source.takeWhile Byte.isDigit = source.takeWhile Byte.isDigit ∧ _)
    unfold readOctet? at read
    dsimp only at read
    split at read
    case h_1 number below =>
      obtain ⟨denotes, small⟩ := Decimal.below?_eq_some.mp below
      split at read
      case isTrue written =>
        obtain ⟨rfl, rfl⟩ := Prod.mk.inj (Option.some.inj read)
        refine ⟨_, ⟨written ▸ Decimal.isPlain_digits number, ?_⟩, split, ends⟩
        rw [denotes, UInt8.toNat_ofNat_of_lt' small]
      case isFalse padded => contradiction
    case h_2 => contradiction
  · rintro ⟨text, ⟨plain, denotes⟩, split, ends⟩
    obtain ⟨front, behind⟩ := Bytes.split_iff.mpr ⟨split, plain.1.2, ends⟩
    have below : Decimal.below? 256 text = some value.toNat :=
      Decimal.below?_eq_some.mpr ⟨denotes, value.toNat_lt⟩
    have written : Decimal.digits value.toNat = text := denotes ▸ Decimal.digits_value plain
    simp [readOctet?, front, behind, below, written]

/-- An address is read from the front where its text stands and no other digit follows. -/
theorem readFront?_eq_some {source rest : Bytes} {address : Ipv4} :
    readFront? source = some (address, rest) ↔ ∃ text, Spells text address ∧
      source = text ++ rest ∧ ∀ byte ∈ rest.head?, Byte.isDigit byte = false := by
  have ends_at_dot : ∀ behind : Bytes, ∀ byte ∈ (dot :: behind).head?,
      Byte.isDigit byte = false := by
    simp [dot, Byte.isDigit]
  simp only [readFront?, Option.bind_eq_bind, Option.bind_eq_some_iff, Prod.exists,
    readOctet?_eq_some, Byte.skip?_eq_some, Option.some.injEq, Prod.mk.injEq]
  constructor
  · rintro ⟨_, _, ⟨first, one, rfl, -⟩, _, rfl, _, _, ⟨second, two, rfl, -⟩, _, rfl, _, _,
      ⟨third, three, rfl, -⟩, _, rfl, _, _, ⟨fourth, four, rfl, ends⟩, rfl, rfl⟩
    exact ⟨_, ⟨first, second, third, fourth, one, two, three, four, rfl⟩, by simp, ends⟩
  · rintro ⟨_, ⟨first, second, third, fourth, one, two, three, four, rfl⟩, rfl, ends⟩
    have split : first ++ dot :: second ++ dot :: third ++ dot :: fourth ++ rest =
        first ++ dot :: (second ++ dot :: (third ++ dot :: (fourth ++ rest))) := by simp
    exact ⟨_, _, ⟨first, one, split, ends_at_dot _⟩, _, rfl,
      _, _, ⟨second, two, rfl, ends_at_dot _⟩, _, rfl,
      _, _, ⟨third, three, rfl, ends_at_dot _⟩, _, rfl,
      _, _, ⟨fourth, four, rfl, ends⟩, rfl, rfl⟩

/-- The texts that are read as an address are those that spell it. -/
theorem read?_eq_some {source : Bytes} {address : Ipv4} :
    read? source = some address ↔ Spells source address := by
  have whole : read? source = some address ↔ readFront? source = some (address, []) := by
    unfold read?
    cases readFront? source with
    | none => simp
    | some found =>
      obtain ⟨read, rest⟩ := found
      cases rest <;> simp
  rw [whole, readFront?_eq_some]
  constructor
  · rintro ⟨text, spells, rfl, -⟩
    rwa [List.append_nil]
  · exact fun spells => ⟨source, spells, (List.append_nil source).symm, by simp⟩

/-- An octet is written in ASCII. -/
theorem octet_ascii {value byte : UInt8} (member : byte ∈ octet value) : byte < 128 := by
  have digit := Byte.isDigit_iff.mp (Decimal.isDigit_of_mem_digits member)
  rw [UInt8.lt_iff_toNat_lt]
  exact Nat.lt_of_le_of_lt digit.2 (by decide)

/-- The text of an address has the bytes that are written of it. -/
theorem utf8_text (address : Ipv4) : utf8 address.text = address.bytes := by
  have dot_ascii : dot < 128 := by decide
  refine Text.utf8_ascii fun byte member => ?_
  simp only [bytes, List.mem_append, List.mem_cons] at member
  rcases member with ((first | rfl | second) | rfl | third) | rfl | fourth
  · exact octet_ascii first
  · exact dot_ascii
  · exact octet_ascii second
  · exact dot_ascii
  · exact octet_ascii third
  · exact dot_ascii
  · exact octet_ascii fourth

/-- The text that is written of an address spells it. -/
theorem spells_text (address : Ipv4) : Spells (utf8 address.text) address := by
  have octets : ∀ value, SpellsOctet (octet value) value := fun value =>
    ⟨Decimal.isPlain_digits _, Decimal.value_digits _⟩
  rw [utf8_text]
  exact ⟨_, _, _, _, octets _, octets _, octets _, octets _, rfl⟩

end Ipv4

end AgentLink
