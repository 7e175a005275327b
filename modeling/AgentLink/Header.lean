import AgentLink.Bytes

/-!
# Stored headers

A header ends at its first NUL or newline. It is stored ended by a NUL in either case: a newline
is stored as a NUL, and a carriage return right before the newline as a space.
-/
namespace AgentLink.Header

/-- Whether a byte ends a header. -/
def isTerminator (byte : UInt8) : Bool := byte == Byte.nul || byte == Byte.newline

/-- A space in place of a carriage return at the back of a line that is given from the back. -/
def dropReturn : Bytes → Bytes
  | [] => []
  | last :: front => if last = Byte.carriageReturn then Byte.space :: front else last :: front

/-- A header as it is stored, from its bytes up to and with the terminator. -/
def stored (line : Bytes) : Bytes :=
  match line.reverse with
  | [] => []
  | last :: front =>
    if last = Byte.newline then (Byte.nul :: dropReturn front).reverse else line

/-- Storing a header keeps its length. -/
@[simp] theorem length_stored (line : Bytes) : (stored line).length = line.length := by
  have back : line.length = line.reverse.length := by simp
  unfold stored
  split
  next empty => simpa [empty] using back.symm
  next last front split =>
    rw [back, split]
    split
    · cases front with
      | nil => simp [dropReturn]
      | cons before rest =>
        simp only [dropReturn]
        split <;> simp
    · rw [← split, List.length_reverse]

end AgentLink.Header
