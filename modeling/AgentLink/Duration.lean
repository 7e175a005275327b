/-!
# Durations

A duration is a whole count of nanoseconds that fits seconds of 64 bits. Its text is a decimal
number of the largest unit it reaches, with the fraction cut after its last digit that is not
zero.
-/
namespace AgentLink

/-- A length of time in nanoseconds. -/
structure Duration where
  /-- Nanoseconds. -/
  nanoseconds : Nat
deriving Repr, DecidableEq

namespace Duration

/-- Nanoseconds in a second. -/
def second : Nat := 1000000000

/-- Nanoseconds in a millisecond. -/
def millisecond : Nat := 1000000

/-- Nanoseconds in a microsecond. -/
def microsecond : Nat := 1000

/-- Durations below this length can be represented. -/
def limit : Nat := UInt64.size * second

/-- No time. -/
def zero : Duration := ⟨0⟩

/-- Whole seconds. -/
def ofSeconds (count : Nat) : Duration := ⟨count * second⟩

/-- Whole milliseconds. -/
def ofMilliseconds (count : Nat) : Duration := ⟨count * millisecond⟩

/-- The whole seconds of a duration. -/
def seconds (duration : Duration) : Nat := duration.nanoseconds / second

/-- The nanoseconds beyond the whole seconds. -/
def subseconds (duration : Duration) : Nat := duration.nanoseconds % second

/-- The whole milliseconds of a duration. -/
def milliseconds (duration : Duration) : Nat := duration.nanoseconds / millisecond

/-- One duration after another. -/
def add (first second : Duration) : Duration := ⟨first.nanoseconds + second.nanoseconds⟩

/-- The shorter of two durations. -/
def min (first second : Duration) : Duration := ⟨first.nanoseconds.min second.nanoseconds⟩

/-- Twice a duration, where that can be represented. -/
def double? (duration : Duration) : Option Duration :=
  if 2 * duration.nanoseconds < limit then some ⟨2 * duration.nanoseconds⟩ else none

/-- The total of some durations. -/
def sum (durations : List Duration) : Duration := durations.foldr add zero

/-- The digits of a fraction in a given number of places, without trailing zeros. -/
def fraction (part places : Nat) : List Char :=
  let digits := (toString part).toList
  let padded := List.replicate (places - digits.length) '0' ++ digits
  (padded.reverse.dropWhile (· == '0')).reverse

/-- A number of units of a size, with so many decimal places, followed by the name of the
unit. -/
def inUnit (nanoseconds size places : Nat) (unit : String) : String :=
  let whole := toString (nanoseconds / size)
  match fraction (nanoseconds % size) places with
  | [] => whole ++ unit
  | digits => whole ++ "." ++ String.ofList digits ++ unit

/-- The text of a duration, in the largest unit it reaches. -/
def text (duration : Duration) : String :=
  let length := duration.nanoseconds
  if second ≤ length then inUnit length second 9 "s"
  else if millisecond ≤ length then inUnit length millisecond 6 "ms"
  else if microsecond ≤ length then inUnit length microsecond 3 "µs"
  else inUnit length 1 0 "ns"

/-- A fraction is cut after its last digit that is not zero. -/
example : (Duration.mk 1500000000).text = "1.5s" := by cbv

/-- A length below a second is told in milliseconds. -/
example : (Duration.ofMilliseconds 999).text = "999ms" := by cbv

end Duration

end AgentLink
