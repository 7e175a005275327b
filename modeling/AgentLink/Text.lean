import AgentLink.Bytes

/-!
# Text in UTF-8

The header of a reply need not be text. `Text.lossy` reads bytes as UTF-8 and puts the replacement
character in place of what is not: one for every longest run of bytes that begins like a
character and cannot go on as one. A leading byte fixes how many bytes follow it and which range
the next one lies in; that range excludes overlong forms, surrogates and numbers beyond the last
code point.
-/
namespace AgentLink.Text

/-- A character of which some bytes are still missing. -/
structure Unfinished where
  /-- The number so far. -/
  value : Nat
  /-- The least byte that may come next. -/
  least : UInt8
  /-- The greatest byte that may come next. -/
  greatest : UInt8
  /-- How many bytes are missing beyond the next one. -/
  beyond : Nat
deriving Repr, DecidableEq

/-- What a leading byte begins. -/
inductive Lead where
  /-- A character of one byte. -/
  | whole (char : Char)
  /-- A longer character. -/
  | unfinished (part : Unfinished)
  /-- No character. -/
  | invalid
deriving Repr, DecidableEq

/-- The character that stands for bytes that are no text. -/
def replacement : Char := '\uFFFD'

/-- The number of a continuation byte. -/
def continuation (byte : UInt8) : Nat := byte.toNat % 64

/-- What a leading byte begins. -/
def lead (byte : UInt8) : Lead :=
  if byte < 0x80 then .whole (Char.ofNat byte.toNat)
  else if byte < 0xC2 then .invalid
  else if byte < 0xE0 then .unfinished ⟨byte.toNat % 32, 0x80, 0xBF, 0⟩
  else if byte = 0xE0 then .unfinished ⟨0, 0xA0, 0xBF, 1⟩
  else if byte = 0xED then .unfinished ⟨13, 0x80, 0x9F, 1⟩
  else if byte < 0xF0 then .unfinished ⟨byte.toNat % 16, 0x80, 0xBF, 1⟩
  else if byte = 0xF0 then .unfinished ⟨0, 0x90, 0xBF, 2⟩
  else if byte < 0xF4 then .unfinished ⟨byte.toNat % 8, 0x80, 0xBF, 2⟩
  else if byte = 0xF4 then .unfinished ⟨4, 0x80, 0x8F, 2⟩
  else .invalid

/-- Read a leading byte: the characters it completes, and the one it begins. -/
def enter (byte : UInt8) : List Char × Option Unfinished :=
  match lead byte with
  | .whole char => ([char], none)
  | .unfinished part => ([], some part)
  | .invalid => ([replacement], none)

/-- Read a byte, in the middle of a character or not. A byte that cannot go on with the character
is read as a leading byte. -/
def step : Option Unfinished → UInt8 → List Char × Option Unfinished
  | none, byte => enter byte
  | some part, byte =>
    if part.least ≤ byte ∧ byte ≤ part.greatest then
      let value := part.value * 64 + continuation byte
      match part.beyond with
      | 0 => ([Char.ofNat value], none)
      | fewer + 1 => ([], some ⟨value, 0x80, 0xBF, fewer⟩)
    else
      let (read, begun) := enter byte
      (replacement :: read, begun)

/-- The characters that bytes spell, given the character that is unfinished in front of them. -/
def chars : Option Unfinished → Bytes → List Char
  | none, [] => []
  | some _, [] => [replacement]
  | unfinished, byte :: rest =>
    (step unfinished byte).1 ++ chars (step unfinished byte).2 rest

/-- The text that bytes spell, with replacement characters where they spell none. -/
def lossy (bytes : Bytes) : String := String.ofList (chars none bytes)

/-- A character of two bytes is read; a byte that begins none is replaced. -/
example : lossy [104, 0xC3, 0xA9, 0xFF] = "hé\uFFFD" := by decide

/-- A surrogate is no character, and each of its bytes is replaced. -/
example : chars none [0xED, 0xA0, 0x80] = [replacement, replacement, replacement] := by decide

end AgentLink.Text
