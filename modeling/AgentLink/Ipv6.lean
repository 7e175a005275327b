import AgentLink.Hexadecimal
import AgentLink.Ipv4

/-!
# IPv6 addresses

An IPv6 address is eight groups of 16 bits. Its text is the groups in hexadecimal, joined by
colons, with a double colon in place of the longest run of two or more zero groups, the first of
them if several are longest. An address that only wraps an IPv4 address shows that one in its
own text. Reading is wider: a double colon may stand for any run of zero groups, a group may have
leading zeros up to four digits, and an IPv4 address may stand for the last two groups.
-/
namespace AgentLink

/-- An IPv6 address, in the order in which its groups are written. -/
structure Ipv6 where
  /-- The groups. -/
  groups : List UInt16
  /-- There are eight groups. -/
  length_groups : groups.length = 8
deriving Repr, DecidableEq

namespace Ipv6

/-- The address of eight groups. -/
def ofGroups? (groups : List UInt16) : Option Ipv6 :=
  if eight : groups.length = 8 then some ⟨groups, eight⟩ else none

/-! ## Writing -/

/-- The bytes of groups joined by colons. -/
def joined (groups : List UInt16) : Bytes :=
  List.intercalate [Byte.colon] (groups.map fun group => Hexadecimal.digits group.toNat)

/-- A run of zero groups. -/
structure ZeroRun where
  /-- The number of groups in front of it. -/
  start : Nat
  /-- The number of its groups. -/
  length : Nat
deriving Repr, DecidableEq

/-- The first of the longest runs of zero groups. -/
def longestRun : List UInt16 → ZeroRun
  | [] => ⟨0, 0⟩
  | group :: rest =>
    let here := ((group :: rest).takeWhile (· == 0)).length
    let later := longestRun rest
    if later.length ≤ here then ⟨0, here⟩ else ⟨later.start + 1, later.length⟩

/-- The bytes of groups, with the longest run of zero groups left out. -/
def compressed (groups : List UInt16) : Bytes :=
  let run := longestRun groups
  if run.length < 2 then joined groups
  else
    joined (groups.take run.start) ++ [Byte.colon, Byte.colon] ++
      joined (groups.drop (run.start + run.length))

/-- The groups in front of an IPv4 address that is wrapped. -/
def wrapping : List UInt16 := [0, 0, 0, 0, 0, 0xffff]

/-- The IPv4 address that two groups are made of. -/
def octets (upper lower : UInt16) : Ipv4 :=
  ⟨UInt8.ofNat (upper.toNat / 256), UInt8.ofNat (upper.toNat % 256),
    UInt8.ofNat (lower.toNat / 256), UInt8.ofNat (lower.toNat % 256)⟩

/-- The IPv4 address that an address wraps. -/
def wrapped? (address : Ipv6) : Option Ipv4 :=
  match address.groups.drop wrapping.length with
  | [upper, lower] =>
    if address.groups.take wrapping.length = wrapping then some (octets upper lower) else none
  | _ => none

/-- The bytes of an address's text. -/
def bytes (address : Ipv6) : Bytes :=
  match address.wrapped? with
  | some inner => compressed wrapping ++ Byte.colon :: inner.bytes
  | none => compressed address.groups

/-- The text of an address. -/
def text (address : Ipv6) : String := ascii address.bytes

/-! ## Reading -/

/-- Groups read from the front of a text. -/
structure Chunk where
  /-- The groups. -/
  groups : List UInt16
  /-- Whether the last two groups were read from an IPv4 address. -/
  dotted : Bool
  /-- The bytes after the groups. -/
  rest : Bytes
deriving Repr, DecidableEq

/-- The most digits that a group is read from. -/
def groupDigits : Nat := 4

/-- Read a group from the front. -/
def readGroup? (source : Bytes) : Option (UInt16 × Bytes) :=
  let digits := source.takeWhile Hexadecimal.isDigit
  if digits.isEmpty || groupDigits < digits.length then none
  else some (UInt16.ofNat (Hexadecimal.value digits), source.dropWhile Hexadecimal.isDigit)

/-- The two groups that an IPv4 address stands for. -/
def groupsOf (address : Ipv4) : List UInt16 :=
  [UInt16.ofNat (address.first.toNat * 256 + address.second.toNat),
    UInt16.ofNat (address.third.toNat * 256 + address.fourth.toNat)]

/-- Read at most so many groups from the front, as many as there are. A colon stands in front of
each group, and in front of the first as well if some groups came `before`. -/
def readGroups (before : Bool) : (most : Nat) → Bytes → Chunk
  | 0, source => ⟨[], false, source⟩
  | most + 1, source =>
    match if before then Byte.skip? Byte.colon source else some source with
    | none => ⟨[], false, source⟩
    | some inner =>
      match if most = 0 then none else Ipv4.readFront? inner with
      | some (address, rest) => ⟨groupsOf address, true, rest⟩
      | none =>
        match readGroup? inner with
        | none => ⟨[], false, source⟩
        | some (group, rest) =>
          let more := readGroups true most rest
          { more with groups := group :: more.groups }

/-- Read an address from the front. A double colon stands for at least one zero group, and no
IPv4 address stands in front of it. -/
def readFront? (source : Bytes) : Option (Ipv6 × Bytes) :=
  let front := readGroups false 8 source
  match ofGroups? front.groups with
  | some address => some (address, front.rest)
  | none => do
    if front.dotted then none
    let rest ← Byte.skip? Byte.colon front.rest
    let rest ← Byte.skip? Byte.colon rest
    let back := readGroups false (7 - front.groups.length) rest
    let zeros := List.replicate (8 - front.groups.length - back.groups.length) 0
    let address ← ofGroups? (front.groups ++ zeros ++ back.groups)
    some (address, back.rest)

end Ipv6

end AgentLink
