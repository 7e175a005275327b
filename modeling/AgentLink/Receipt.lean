/-!
# Receipts

A receive that does not fail says how the caller's buffer was filled. Offsets and lengths refer
to that buffer.
-/
namespace AgentLink

/-- How a receive filled the caller's buffer. -/
inductive Receipt where
  /-- A message, or the rest of its attachment, is in the buffer: how many bytes were stored,
  and where its attachment begins if it has one. -/
  | complete (length : Nat) (attachment : Option Nat)
  /-- The buffer is full and attachment bytes are still owed: the size of what was announced,
  and where the attachment begins. -/
  | attachmentPending (total : Nat) (attachment : Nat)
  /-- The buffer is full and holds no whole header. -/
  | bufferTooSmall
deriving Repr, DecidableEq

namespace Receipt

/-- The word that names a receipt in diagnostics. -/
def word : Receipt → String
  | complete _ _ => "complete"
  | attachmentPending _ _ => "attachment_pending"
  | bufferTooSmall => "buffer_too_small"

end Receipt

end AgentLink
