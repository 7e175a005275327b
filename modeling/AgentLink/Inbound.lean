import AgentLink.Header
import AgentLink.LinkError

/-!
# Inbound streams

The bytes an agent sends arrive in pieces, between which reads can fail, stall or find the end of
the stream. An inbound stream lists what is still to arrive. `read` is one read, which may come
back short; `take` reads until it has all the bytes it was asked for, and `takeHeader` reads one
byte at a time until a header ends. Both simply repeat a read that was interrupted.
-/
namespace AgentLink

/-- Something that arrives. -/
inductive Arrival where
  /-- Bytes, of which one read gets at most a chunk. -/
  | data (bytes : Bytes) (chunk : Option Nat)
  /-- The end of the stream, seen by one read. -/
  | finish
  /-- Nothing: a read waits in vain. -/
  | stall
  /-- A read that fails. -/
  | failure (error : SystemError)
deriving Repr, DecidableEq

/-- The bytes of an arrival. -/
def Arrival.bytes : Arrival → Bytes
  | .data bytes _ => bytes
  | .finish | .stall | .failure _ => []

/-- What is still to arrive. -/
structure Inbound where
  /-- Arrivals in order. -/
  arrivals : List Arrival
  /-- Whether the stream ends after them; if not, a read that comes later waits in vain. -/
  ended : Bool
deriving Repr, DecidableEq

/-- What one read gets. -/
inductive ReadReply where
  /-- Bytes; none at the end of the stream. -/
  | bytes (bytes : Bytes)
  /-- A failure. -/
  | failure (error : SystemError)
  /-- Nothing, for as long as it waits. -/
  | stalled
deriving Repr, DecidableEq

/-- What reading got: how it ended, the bytes it took, and what is still to arrive. -/
structure Intake (α : Type) where
  /-- How reading ended. -/
  outcome : Outcome α
  /-- The bytes taken, also those taken before a failure. -/
  taken : Bytes
  /-- What is still to arrive. -/
  rest : Inbound
deriving Repr

namespace Inbound

/-- The bytes still to arrive, whatever comes between them. -/
def bytes (inbound : Inbound) : Bytes := inbound.arrivals.flatMap Arrival.bytes

/-- Data bytes that have not been read. -/
def unread (inbound : Inbound) : Nat := inbound.bytes.length

/-- More bytes arrive. -/
def deliver (inbound : Inbound) (bytes : Bytes) : Inbound :=
  { inbound with arrivals := inbound.arrivals ++ [.data bytes none] }

/-- The agent ends its stream. -/
def finish (inbound : Inbound) : Inbound := { inbound with ended := true }

/-- One read of at most `room` bytes. Data that is used up is passed over. -/
def readArrivals (ended : Bool) (room : Nat) : List Arrival → ReadReply × List Arrival
  | [] => (if ended then .bytes [] else .stalled, [])
  | .data bytes chunk :: rest =>
    if bytes.isEmpty then readArrivals ended room rest
    else
      let count := (chunk.getD room).min room
      (.bytes (bytes.take count), .data (bytes.drop count) chunk :: rest)
  | .finish :: rest => (.bytes [], rest)
  | .stall :: rest => (.stalled, rest)
  | .failure error :: rest => (.failure error, rest)

/-- One read of at most `room` bytes. -/
def read (inbound : Inbound) (room : Nat) : ReadReply × Inbound :=
  let (reply, rest) := readArrivals inbound.ended room inbound.arrivals
  (reply, { inbound with arrivals := rest })

/-- A read that fails uses up an arrival. -/
theorem length_readArrivals_of_failure {ended : Bool} {room : Nat} {arrivals rest : List Arrival}
    {error : SystemError} (failed : readArrivals ended room arrivals = (.failure error, rest)) :
    rest.length < arrivals.length := by
  fun_induction readArrivals ended room arrivals with
  | case1 => split at failed <;> simp at failed
  | case2 _ _ _ _ ih => exact Nat.lt_succ_of_lt (ih failed)
  | case3 => simp at failed
  | case4 => simp at failed
  | case5 => simp at failed
  | case6 _ rest =>
    obtain ⟨-, rfl⟩ := Prod.mk.inj failed
    exact Nat.lt_succ_self _

/-- A read that fails uses up an arrival. -/
theorem length_read_of_failure {inbound rest : Inbound} {room : Nat} {error : SystemError}
    (failed : inbound.read room = (.failure error, rest)) :
    rest.arrivals.length < inbound.arrivals.length := by
  simp only [read, Prod.mk.injEq] at failed
  obtain ⟨reply, rfl⟩ := failed
  exact length_readArrivals_of_failure (Prod.ext reply rfl)

/-- What holds of a stream where it holds of all that reads which fail leave of it holds of every
stream, since such a read uses up an arrival. -/
theorem read_induction {motive : Inbound → Prop}
    (again : ∀ inbound, (∀ {room : Nat} {error : SystemError} {rest : Inbound},
      inbound.read room = (.failure error, rest) → motive rest) → motive inbound)
    (inbound : Inbound) : motive inbound := by
  induction count : inbound.arrivals.length using Nat.strongRecOn generalizing inbound with
  | ind count ih =>
    refine again inbound fun failed => ?_
    exact ih _ (count ▸ length_read_of_failure failed) _ rfl

/-- Read until `room` bytes are taken. -/
def take (inbound : Inbound) (room : Nat) : Intake Unit :=
  if room = 0 then ⟨.ok (), [], inbound⟩
  else
    match _step : inbound.read room with
    | (.bytes [], rest) => ⟨.failed .peerClosed, [], rest⟩
    | (.bytes (byte :: bytes), rest) =>
      let more := rest.take (room - (bytes.length + 1))
      { more with taken := byte :: bytes ++ more.taken }
    | (.failure error, rest) =>
      if error.isInterruption then rest.take room
      else ⟨.failed (.transport error), [], rest⟩
    | (.stalled, rest) => ⟨.waiting, [], rest⟩
termination_by (room, inbound.arrivals.length)
decreasing_by
  · apply Prod.Lex.left
    omega
  · apply Prod.Lex.right
    exact length_read_of_failure _step

/-- Read one byte at a time until a header ends or `room` bytes are taken. The value says
whether the header ended. -/
def takeHeader (inbound : Inbound) : (room : Nat) → Intake Bool
  | 0 => ⟨.ok false, [], inbound⟩
  | room + 1 =>
    let first := inbound.take 1
    match first.outcome with
    | .ok _ =>
      if first.taken.any Header.isTerminator then ⟨.ok true, first.taken, first.rest⟩
      else
        let more := first.rest.takeHeader room
        { more with taken := first.taken ++ more.taken }
    | .failed error => ⟨.failed error, first.taken, first.rest⟩
    | .fault => ⟨.fault, first.taken, first.rest⟩
    | .waiting => ⟨.waiting, first.taken, first.rest⟩

end Inbound

end AgentLink
