import AgentLink.Decimal

/-!
# Attachment markers

A header announces an attachment by its last words: a separating byte, the word `attach`, blanks
and a decimal count, perhaps followed by blanks and the terminator. `Marker.scan` finds such a
marker from the back of a buffer, where the count ends, and `Marker.cut` ends the header at the
separating byte.

The scan is defined for every buffer. A buffer that holds nothing but two blanks, a count and
what may follow a count has no byte left where the scan next looks; it is a fault of its own
and not the absence of a marker.
-/
namespace AgentLink

/-- An announced attachment: where the header proper ends, and how many bytes follow it. -/
structure Marker where
  /-- Index of the separating byte, which is the length of the header proper. -/
  headerEnd : Nat
  /-- Count of attachment bytes. -/
  length : Nat
deriving Repr, DecidableEq

namespace Marker

/-- What a scan finds at the end of a buffer. -/
inductive Scan where
  /-- No marker. -/
  | absent
  /-- The scan ran past the front of the buffer. -/
  | fault
  /-- A marker. -/
  | found (marker : Marker)
deriving Repr, DecidableEq

/-- The word `attach`. -/
def keyword : Bytes := [97, 116, 116, 97, 99, 104]

/-- Counts are words of 64 bits. -/
def countLimit : Nat := UInt64.size

/-- The least length of a buffer that can hold a marker: one header byte, the separating byte,
the word and one digit. -/
def leastLength : Nat := keyword.length + 3

/-- Remove one terminator from the back of a buffer that is given from the back. -/
def dropTerminator : Bytes → Bytes
  | [] => []
  | last :: front => if last = Byte.nul then front else last :: front

/-- Read the word and the separating byte from the back. At least one header byte has to stand
in front of the separating byte. -/
def scanKeyword (count backwards : Bytes) : Scan :=
  if keyword.length + 2 ≤ backwards.length ∧ keyword.reverse.isPrefixOf backwards then
    match Decimal.below? countLimit count with
    | some length => .found ⟨backwards.length - keyword.length - 1, length⟩
    | none => .absent
  else .absent

/-- Read the blanks in front of the count, from the back. Two bytes have to be left, the last
of them a blank; two blanks alone are the fault. -/
def scanSeparator (count : Bytes) : Bytes → Scan
  | last :: before :: front =>
    if !Byte.isBlank last then .absent
    else if Byte.isBlank before && front.isEmpty then .fault
    else scanKeyword count ((before :: front).dropWhile Byte.isBlank)
  | _ => .absent

/-- Read a marker from the back: blanks, the count, and what stands in front of it. -/
def scanCount (backwards : Bytes) : Scan :=
  let counted := backwards.dropWhile Byte.isBlank
  let count := (counted.takeWhile Byte.isDigit).reverse
  if count.isEmpty then .absent
  else scanSeparator count (counted.dropWhile Byte.isDigit)

/-- Find the marker at the end of a buffer. -/
def scan (buffer : Bytes) : Scan :=
  if buffer.length < leastLength then .absent
  else scanCount (dropTerminator buffer.reverse)

/-- The header `a attach 5` announces five bytes behind a header of one. -/
example : scan [97, 32, 97, 116, 116, 97, 99, 104, 32, 53, 0] = .found ⟨1, 5⟩ := by decide

/-- Two blanks and a count alone are the fault. -/
example : scan [32, 32, 49, 50, 51, 52, 53, 54, 0] = .fault := by decide

/-- End the header at the separating byte of its marker. -/
def cut (marker : Marker) (buffer : Bytes) : Bytes := buffer.set marker.headerEnd Byte.nul

/-- The buffer after a scan: the header is ended where a marker was found, and nothing else
changes. -/
def Scan.apply (found : Scan) (buffer : Bytes) : Bytes :=
  match found with
  | .found marker => marker.cut buffer
  | .absent | .fault => buffer

/-- Ending the header keeps the length of the buffer. -/
@[simp] theorem length_cut (marker : Marker) (buffer : Bytes) :
    (marker.cut buffer).length = buffer.length := by
  simp [cut]

end Marker

end AgentLink
