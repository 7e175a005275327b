import Mathlib
import AgentLink.Proofs.Splitting

/-!
# The two directions of a link

A link is one handle for two directions. A receive looks at the stream that comes in and at the
count of bytes owed, and changes only these (`Receives`); a send looks at the outlet and the
settings, and changes only the outlet (`Sends`); everything else that is asked of a link changes
nothing. So however receives and sends are interleaved, the receives come to what they come to
without the sends, and the sends to what they come to without the receives
(`directions_apart`), also after calls that failed, faulted or were abandoned.
-/
namespace AgentLink

/-- What an operation did before one of its pauses, if there is such a pause; pauses are counted
from zero. -/
def Journal.beforePause : Journal → Nat → Option Journal
  | [], _ => none
  | .slept _ :: _, 0 => some []
  | .slept duration :: rest, pause + 1 => (beforePause rest pause).map (.slept duration :: ·)
  | effect :: rest, pause => (beforePause rest pause).map (effect :: ·)

/-- A send that is made, and perhaps abandoned. A send waits nowhere but in its pauses. -/
structure Sending where
  /-- The bytes. -/
  data : Bytes
  /-- The pause in which the caller abandons the send, if it lasts so long. -/
  patience : Option Nat := none
deriving Repr, DecidableEq

/-- What a send came to, and all that it did. -/
structure Transmission where
  /-- How it ended. -/
  outcome : Outcome Unit
  /-- What it did, in order. -/
  journal : Journal
deriving Repr, DecidableEq

/-- What is asked of a link. -/
inductive Request where
  /-- To receive into a buffer; a receive that is left waiting is abandoned. -/
  | receive (buffer : Bytes)
  /-- To send. -/
  | send (sending : Sending)
  /-- Whether a receive would find something. -/
  | isReady
  /-- What it shows of itself. -/
  | summary
  /-- Its settings. -/
  | settings

namespace Request

/-- The buffer of a receive. -/
def buffer? : Request → Option Bytes
  | receive buffer => some buffer
  | send _ | isReady | summary | settings => none

/-- The send that is asked for. -/
def sending? : Request → Option Sending
  | send sending => some sending
  | receive _ | isReady | summary | settings => none

end Request

/-- What a link answers. -/
inductive Answer where
  /-- What a receive shows. -/
  | received (observation : Observation)
  /-- What a send came to. -/
  | sent (transmission : Transmission)
  /-- Whether a receive would find something. -/
  | ready (ready : Bool)
  /-- What the link shows of itself. -/
  | summary (text : String)
  /-- The settings. -/
  | settings (settings : Settings)

namespace Answer

/-- What a receive shows. -/
def observation? : Answer → Option Observation
  | received observation => some observation
  | sent _ | ready _ | summary _ | settings _ => none

/-- What a send came to. -/
def transmission? : Answer → Option Transmission
  | sent transmission => some transmission
  | received _ | ready _ | summary _ | settings _ => none

end Answer

namespace Link

/-- Make a send. One that is abandoned in a pause has made the write attempts that come before
the pause, and no others. -/
def transmit (link : Link) (sending : Sending) : Run Link Unit :=
  let sent := link.send sending.data
  match sending.patience.bind sent.journal.beforePause with
  | none => sent
  | some journal =>
    let outlet := link.transport.outlet
    let left := { outlet with attempts := outlet.attempts + journal.writes }
    ⟨.waiting, { link with transport := { link.transport with outlet := left } }, journal⟩

/-- Do what is asked of a link. -/
def answer (link : Link) : Request → Answer × Link
  | .receive buffer => (.received (link.observe buffer), (link.receive buffer).state.1)
  | .send sending =>
    let sent := link.transmit sending
    (.sent ⟨sent.outcome, sent.journal⟩, sent.state)
  | .isReady => (.ready link.isReady, link)
  | .summary => (.summary link.summary, link)
  | .settings => (.settings link.settings, link)

/-- What a link answers to one request after another. -/
def answers (link : Link) : List Request → List Answer
  | [] => []
  | request :: requests => (link.answer request).1 :: answers (link.answer request).2 requests

/-- A link after some requests. -/
def serve (link : Link) : List Request → Link
  | [] => link
  | request :: requests => serve (link.answer request).2 requests

/-- A link after some receives. -/
def receiveAll (link : Link) : List Bytes → Link
  | [] => link
  | buffer :: buffers => receiveAll (link.receive buffer).state.1 buffers

/-- What some sends come to that are made one after another. -/
def transmissions (link : Link) : List Sending → List Transmission
  | [] => []
  | sending :: sendings =>
    let sent := link.transmit sending
    ⟨sent.outcome, sent.journal⟩ :: transmissions sent.state sendings

/-- A link after some sends. -/
def transmitAll (link : Link) : List Sending → Link
  | [] => link
  | sending :: sendings => transmitAll (link.transmit sending).state sendings

/-- Two links that a receive does not tell apart. -/
structure Receives (link alone : Link) : Prop where
  /-- The same arrives on both. -/
  inbound : link.transport.inbound = alone.transport.inbound
  /-- Both are owed the same. -/
  pending : link.pending = alone.pending

/-- Two links that a send does not tell apart. -/
structure Sends (link alone : Link) : Prop where
  /-- Both write to the same outlet. -/
  outlet : link.transport.outlet = alone.transport.outlet
  /-- Both have the same settings. -/
  settings : link.settings = alone.settings

/-- A send changes the outlet and nothing else. -/
theorem transmit_state (link : Link) (sending : Sending) :
    ∃ outlet, (link.transmit sending).state =
      { link with transport := { link.transport with outlet := outlet } } := by
  unfold transmit
  dsimp only
  split
  · exact ⟨_, rfl⟩
  · exact ⟨_, rfl⟩

variable {link alone : Link}

/-- A receive shows the same on links it does not tell apart, and leaves them so. -/
theorem Receives.receive (same : link.Receives alone) (buffer : Bytes) :
    link.observe buffer = alone.observe buffer ∧
      (link.receive buffer).state.1.Receives (alone.receive buffer).state.1 := by
  have reception : link.reception buffer.length = alone.reception buffer.length := by
    rw [Link.reception, Link.reception, same.inbound, same.pending]
  refine ⟨?_, ?_, ?_⟩
  · simp only [observe, outcome_receive, buffer_receive, pending_receive, inbound_receive,
      reception, same.inbound]
  · rw [inbound_receive, inbound_receive, reception]
  · rw [pending_receive, pending_receive, reception]

/-- A send changes nothing that a receive looks at. -/
theorem Receives.transmit (same : link.Receives alone) (sending : Sending) :
    (link.transmit sending).state.Receives alone := by
  obtain ⟨outlet, state⟩ := link.transmit_state sending
  rw [state]
  exact ⟨same.inbound, same.pending⟩

/-- A send comes to the same on links it does not tell apart, and leaves them so. -/
theorem Sends.transmit (same : link.Sends alone) (sending : Sending) :
    (link.transmit sending).outcome = (alone.transmit sending).outcome ∧
      (link.transmit sending).journal = (alone.transmit sending).journal ∧
      (link.transmit sending).state.Sends (alone.transmit sending).state := by
  have outcome : (link.send sending.data).outcome = (alone.send sending.data).outcome := by
    simp only [send, same.outlet, same.settings]
  have journal : (link.send sending.data).journal = (alone.send sending.data).journal := by
    simp only [send, same.outlet, same.settings]
  have outlet : (link.send sending.data).state.transport.outlet =
      (alone.send sending.data).state.transport.outlet := by
    simp only [send, same.outlet, same.settings]
  unfold Link.transmit
  dsimp only
  rw [journal]
  split
  · exact ⟨outcome, journal, outlet, same.settings⟩
  · exact ⟨rfl, rfl, by rw [same.outlet], same.settings⟩

/-- A receive changes nothing that a send looks at. -/
theorem Sends.receive (same : link.Sends alone) (buffer : Bytes) :
    (link.receive buffer).state.1.Sends alone :=
  ⟨same.outlet, same.settings⟩

/-- Among other requests, receives show what they show alone. -/
theorem Receives.answers (same : link.Receives alone) (requests : List Request) :
    (link.answers requests).filterMap Answer.observation? =
        alone.observations (requests.filterMap Request.buffer?) ∧
      (link.serve requests).Receives (alone.receiveAll (requests.filterMap Request.buffer?)) := by
  induction requests generalizing link alone with
  | nil => exact ⟨rfl, same⟩
  | cons request requests ih =>
    cases request with
    | receive buffer =>
      obtain ⟨shows, after⟩ := same.receive buffer
      obtain ⟨later, left⟩ := ih after
      exact ⟨List.cons_eq_cons.mpr ⟨shows, later⟩, left⟩
    | send sending => exact ih (same.transmit sending)
    | isReady => exact ih same
    | summary => exact ih same
    | settings => exact ih same

/-- Among other requests, sends come to what they come to alone. -/
theorem Sends.answers (same : link.Sends alone) (requests : List Request) :
    (link.answers requests).filterMap Answer.transmission? =
        alone.transmissions (requests.filterMap Request.sending?) ∧
      (link.serve requests).Sends (alone.transmitAll (requests.filterMap Request.sending?)) := by
  induction requests generalizing link alone with
  | nil => exact ⟨rfl, same⟩
  | cons request requests ih =>
    cases request with
    | receive buffer => exact ih (same.receive buffer)
    | send sending =>
      obtain ⟨outcome, journal, after⟩ := same.transmit sending
      obtain ⟨later, left⟩ := ih after
      have came : Transmission.mk (link.transmit sending).outcome (link.transmit sending).journal =
          ⟨(alone.transmit sending).outcome, (alone.transmit sending).journal⟩ := by
        rw [outcome, journal]
      exact ⟨List.cons_eq_cons.mpr ⟨came, later⟩, left⟩
    | isReady => exact ih same
    | summary => exact ih same
    | settings => exact ih same

/-- While bytes of an attachment are owed, a receive would find something. -/
theorem isReady_of_pending (owed : 0 < link.pending) : link.isReady = true := by
  rw [isReady, bne_iff_ne.mpr (Nat.ne_of_gt owed), Bool.true_or]

/-- The two directions of a link do not interfere. Whatever is asked of a link and in whatever
order, each receive ends, fills its buffer, leaves bytes owed and takes bytes off the stream as it
does when the receives are made without the rest; and each send ends as it does when the sends are
made without the rest, with the same writes, the same pauses and the same diagnostics. It makes no
difference which calls fail, fault or are abandoned. At every point a link that is owed bytes is
ready. -/
theorem directions_apart (link : Link) (requests : List Request) :
    let buffers := requests.filterMap Request.buffer?
    let sendings := requests.filterMap Request.sending?
    let after := link.serve requests
    (link.answers requests).filterMap Answer.observation? = link.observations buffers ∧
      after.transport.inbound = (link.receiveAll buffers).transport.inbound ∧
      after.pending = (link.receiveAll buffers).pending ∧
      (link.answers requests).filterMap Answer.transmission? = link.transmissions sendings ∧
      after.transport.outlet = (link.transmitAll sendings).transport.outlet ∧
      ∀ front, front <+: requests → 0 < (link.serve front).pending →
        (link.serve front).isReady = true := by
  intro buffers sendings after
  obtain ⟨shown, received⟩ := Receives.answers (show link.Receives link from ⟨rfl, rfl⟩) requests
  obtain ⟨came, sent⟩ := Sends.answers (show link.Sends link from ⟨rfl, rfl⟩) requests
  exact ⟨shown, received.inbound, received.pending, came, sent.outlet,
    fun _ _ owed => isReady_of_pending owed⟩

/-- An attachment is begun, a send that blocks is abandoned in its second pause, the next receive
is abandoned as well, another send runs out of its budget, and the last receive goes on. -/
theorem directions_apart_abandoned :
    let link : Link := {
      transport := {
        inbound := ⟨[.data [97, 32, 97, 116, 116, 97, 99, 104, 32, 53, 0, 1, 2] none, .stall,
          .data [3, 4, 5] none], true⟩
        outlet := ⟨fun _ => .refuse (.plain .wouldBlock), 0⟩ }
      settings := { send := ⟨3, .ofSeconds 1⟩ } }
    let requests : List Request := [.receive (List.replicate 12 238), .send ⟨[112], some 1⟩,
      .isReady, .receive [238, 238], .summary, .send ⟨[113], none⟩, .receive [238, 238]]
    (link.answers requests).filterMap Answer.observation? =
        [⟨.ok (.attachmentPending 16 11), [97, 0, 97, 116, 116, 97, 99, 104, 32, 53, 0, 1], 4, 12⟩,
          ⟨.waiting, [2, 238], 4, 1⟩, ⟨.ok (.attachmentPending 4 0), [3, 4], 2, 2⟩] ∧
      ((link.answers requests).filterMap Answer.transmission?).map
          (fun sent => (sent.outcome, sent.journal.writes, sent.journal.pauses.length)) =
        [(.waiting, 2, 1), (.failed (.sendExhausted 1 1 (.plain .wouldBlock)), 3, 2)] ∧
      (link.serve (requests.take 2)).isReady = true := by
  intro link requests
  obtain ⟨shown, -, -, came, -, ready⟩ := link.directions_apart requests
  refine ⟨shown.trans (by cbv), ?_, ready _ (List.take_prefix _ _) (by cbv)⟩
  rw [came]
  cbv

end Link

end AgentLink
