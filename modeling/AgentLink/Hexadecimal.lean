import AgentLink.Bytes

/-!
# Hexadecimal numbers

A number is written as its hexadecimal digits in lower case, most significant first and without
a leading zero. Reading is wider: either case and leading zeros are allowed.
-/
namespace AgentLink.Hexadecimal

/-- The value of a digit of either case. -/
def weight? (byte : UInt8) : Option Nat :=
  if Byte.isDigit byte then some (byte.toNat - 48)
  else if 97 ≤ byte && byte ≤ 102 then some (byte.toNat - 87)
  else if 65 ≤ byte && byte ≤ 70 then some (byte.toNat - 55)
  else none

/-- The digits, of either case. -/
def isDigit (byte : UInt8) : Bool := (weight? byte).isSome

/-- The number that digits denote, most significant first. -/
def value (digits : Bytes) : Nat :=
  digits.foldl (fun total digit => total * 16 + (weight? digit).getD 0) 0

/-- The digit that stands for a number below sixteen. -/
def digit (number : Nat) : UInt8 :=
  if number < 10 then UInt8.ofNat (48 + number) else UInt8.ofNat (87 + number)

/-- The digits of a number, most significant first. -/
def digits (number : Nat) : Bytes :=
  if number < 16 then [digit number] else digits (number / 16) ++ [digit (number % 16)]

end AgentLink.Hexadecimal
