import AgentLink.Journal

/-!
# Outlets

The other direction of a link takes bytes as they are written, but a write may be taken in part
only, be refused because it would block, or fail. `Outlet.writeAll` writes until all is taken. It
gives up when as many writes in a row blocked as its budget allows; any write that takes a byte
starts the count again, so that a slow agent is told from a stalled one.
-/
namespace AgentLink

/-- What becomes of one write attempt. -/
inductive WriteReply where
  /-- It takes what it is given, up to a limit. -/
  | accept (limit : Option Nat)
  /-- It fails. -/
  | refuse (error : SystemError)
deriving Repr, DecidableEq

/-- The direction in which bytes are sent. -/
structure Outlet where
  /-- What becomes of each write attempt, in order. -/
  reply : Nat → WriteReply
  /-- How many writes have been attempted. -/
  attempts : Nat := 0

namespace Outlet

/-- An outlet that takes everything. -/
def unlimited : Outlet := ⟨fun _ => .accept none, 0⟩

/-- What becomes of the next write attempt. -/
def next (outlet : Outlet) : WriteReply := outlet.reply outlet.attempts

/-- The outlet after a write attempt. -/
def advance (outlet : Outlet) : Outlet := { outlet with attempts := outlet.attempts + 1 }

/-- The failure of a write that took nothing. -/
def nothingTaken : LinkError := .transport (.plain .writeZero)

/-- The bytes that a write takes from the front of what it is given, up to a limit. -/
def taken (limit : Option Nat) (left : Bytes) : Bytes :=
  match limit with
  | some most => left.take most
  | none => left

/-- The log's line about a send that gives up. -/
def surrender (blocked remaining total : Nat) : Effect :=
  .line .warn ("transmit gave up after " ++ toString blocked ++ " blocked writes: " ++
    toString remaining ++ " of " ++ toString total ++ " bytes unsent")

/-- The log's line about a write that is attempted again. -/
def persistence (blocked tries : Nat) : Effect :=
  .line .debug ("write would block (" ++ toString blocked ++ " of " ++ toString tries ++
    "), retrying")

/-- Write what is left of `total` bytes, after `blocked` blocked writes in a row. -/
def writeAll (budget : SendBudget) (total : Nat) (outlet : Outlet) (left : Bytes)
    (blocked : Nat) : Run Outlet Unit :=
  if left.isEmpty then ⟨.ok (), outlet, []⟩
  else
    match outlet.next with
    | .accept limit =>
      let bytes := taken limit left
      if bytes.isEmpty then ⟨.failed nothingTaken, outlet.advance, [.wrote []]⟩
      else (writeAll budget total outlet.advance (left.drop bytes.length) 0).prepend [.wrote bytes]
    | .refuse error =>
      if !error.isBlocked then ⟨.failed (.transport error), outlet.advance, [.writeFailed error]⟩
      else if budget.maxTries ≤ blocked + 1 then
        ⟨.failed (.sendExhausted total left.length error), outlet.advance,
          [.writeFailed error, surrender (blocked + 1) left.length total]⟩
      else
        (writeAll budget total outlet.advance left (blocked + 1)).prepend
          [.writeFailed error, persistence (blocked + 1) budget.maxTries, .slept budget.delay]
termination_by (left.length, budget.maxTries - blocked)
decreasing_by
  · apply Prod.Lex.left
    rename_i remains takes
    simp only [List.isEmpty_iff, ← List.length_eq_zero_iff] at remains takes
    rw [List.length_drop]
    change left.length - bytes.length < left.length
    omega
  · apply Prod.Lex.right
    omega

end Outlet

end AgentLink
