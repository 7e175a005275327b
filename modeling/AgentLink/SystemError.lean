import AgentLink.ErrorNumber

/-!
# System errors

An error of the operating system carries its number; other errors carry a kind, and perhaps a
text of their own. The text of a numbered error ends in its number, and every error has a kind,
which is what retries are decided by.
-/
namespace AgentLink

/-- An error reported by the system, or made in its place. -/
inductive SystemError where
  /-- An error number of the operating system. -/
  | numbered (number : Int)
  /-- A kind and no more. -/
  | plain (kind : ErrorKind)
  /-- A kind with a text of its own. -/
  | described (kind : ErrorKind) (text : String)
deriving Repr, DecidableEq

namespace SystemError

/-- The kind of an error. -/
def kind : SystemError → ErrorKind
  | numbered number => ErrorNumber.kind number
  | plain kind => kind
  | described kind _ => kind

/-- The text of an error. -/
def text : SystemError → String
  | numbered number => ErrorNumber.text number ++ " (os error " ++ toString number ++ ")"
  | plain kind => kind.text
  | described _ text => text

/-- The error number, of an error that has one. -/
def number? : SystemError → Option Int
  | numbered number => some number
  | plain _ | described _ _ => none

/-- Whether the call was interrupted and may simply be made again. -/
def isInterruption (error : SystemError) : Bool := error.kind = .interrupted

/-- Whether the call could not proceed without waiting. -/
def isBlocked (error : SystemError) : Bool := error.kind = .wouldBlock

end SystemError

end AgentLink
