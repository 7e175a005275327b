import AgentLink.Agent
import AgentLink.Proofs.Diagnostics
import AgentLink.Proofs.ReadFailure
import AgentLink.Proofs.Reception

/-!
# Single attempts of a start

An attempt to reach an agent connects and receives a greeting. `decided_attempt` reads off these
two how the attempt ends: it may be made again where connecting failed, but for a wrong argument,
and where the agent hung up. All the time an attempt takes by itself is that of connecting.
-/
namespace AgentLink

namespace Agent

/-- Giving up a link does nothing but report. -/
theorem quiet_discard (link : Link) : (discard link).Quiet := by
  have quiet := link.quiet_close
  simp only [discard]
  split
  · simpa [closeTrouble, Effect.line] using quiet
  all_goals exact quiet

section

variable {network : Network} {link : Link} {buffer : Bytes}

/-- Connecting is tried again but for a wrong argument. -/
theorem afterConnecting_retry {cause error : LinkError} :
    afterConnecting cause = .ok (.retry error) ↔
      cause = error ∧ error.isInvalidArgument = false := by
  unfold afterConnecting
  split
  case isTrue argument =>
    refine iff_of_false (by simp) ?_
    rintro ⟨rfl, sound⟩
    exact absurd (argument.symm.trans sound) (by decide)
  case isFalse sound =>
    simp only [Outcome.ok.injEq, Attempt.retry.injEq, iff_self_and]
    rintro rfl
    exact Bool.eq_false_iff.mpr sound

/-- Connecting fails for good at a wrong argument. -/
theorem afterConnecting_failed {cause error : LinkError} :
    afterConnecting cause = .failed error ↔ cause = error ∧ error.isInvalidArgument = true := by
  unfold afterConnecting
  split
  case isTrue argument =>
    simp only [Outcome.failed.injEq, iff_self_and]
    rintro rfl
    exact argument
  case isFalse sound =>
    refine iff_of_false (by simp) ?_
    rintro ⟨rfl, argument⟩
    exact sound argument

/-- Nobody greets on a connection that failed. -/
theorem afterConnecting_greeted {cause : LinkError} {agent : StartedAgent} :
    afterConnecting cause ≠ .ok (.greeted agent) := by
  unfold afterConnecting
  split <;> simp

/-- A greeting is asked for again exactly where the agent hung up. -/
theorem greet_retry {error : LinkError} :
    (greet network link buffer).outcome = .ok (.retry error) ↔
      (link.receive buffer).outcome = .failed .peerClosed ∧ error = .peerClosed := by
  unfold greet
  obtain ⟨outcome, ⟨after, stored⟩, journal⟩ := link.receive buffer
  cases outcome with
  | ok receipt => cases receipt <;> simp [afterGreeting, LinkError.isPeerClosed]
  | failed cause =>
    cases cause with
    | peerClosed => simpa [afterGreeting, LinkError.isPeerClosed] using eq_comm
    | _ => simp [afterGreeting, LinkError.isPeerClosed]
  | fault => simp
  | waiting => simp

/-- A greeting fails for good where a read failed, and where it did not come whole. -/
theorem greet_failed {error : LinkError} :
    (greet network link buffer).outcome = .failed error ↔
      (∃ cause, (link.receive buffer).outcome = .failed (.transport cause) ∧
        error = .transport cause) ∨
      ∃ receipt, (link.receive buffer).outcome = .ok receipt ∧
        (receipt = .bufferTooSmall ∨
          ∃ total attachment, receipt = .attachmentPending total attachment) ∧
        error = .incompleteGreeting receipt := by
  have reads : ∀ {error}, (link.receive buffer).outcome = .failed error → error.OfReading :=
    Reception.ofReading_receive
  unfold greet
  generalize link.receive buffer = received at reads ⊢
  obtain ⟨outcome, ⟨after, stored⟩, journal⟩ := received
  cases outcome with
  | ok receipt =>
    cases receipt with
    | complete length attachment => simp
    | _ => simpa [afterGreeting, LinkError.isPeerClosed] using eq_comm
  | failed cause =>
    cases reads rfl with
    | peerClosed => simp [afterGreeting, LinkError.isPeerClosed]
    | transport hard => simpa [afterGreeting, LinkError.isPeerClosed] using eq_comm
  | fault => simp
  | waiting => simp

/-- An agent has greeted when its first message came whole. -/
theorem greet_greeted {agent : StartedAgent} :
    (greet network link buffer).outcome = .ok (.greeted agent) ↔
      ∃ length attachment, (link.receive buffer).outcome = .ok (.complete length attachment) ∧
        agent = ⟨(link.receive buffer).state.1, .complete length attachment⟩ := by
  unfold greet
  obtain ⟨outcome, ⟨after, stored⟩, journal⟩ := link.receive buffer
  cases outcome with
  | ok receipt =>
    cases receipt with
    | complete length attachment =>
      simp only [Outcome.ok.injEq, Attempt.greeted.injEq, Receipt.complete.injEq]
      constructor
      · rintro rfl
        exact ⟨length, attachment, ⟨rfl, rfl⟩, rfl⟩
      · rintro ⟨_, _, ⟨rfl, rfl⟩, rfl⟩
        rfl
    | _ => simp [afterGreeting, LinkError.isPeerClosed]
  | failed cause => cases cause <;> simp [afterGreeting, LinkError.isPeerClosed]
  | fault => simp
  | waiting => simp

/-- Receiving a greeting does nothing but report. -/
theorem quiet_greet : (greet network link buffer).journal.Quiet := by
  have quiet := link.quiet_receive buffer
  unfold greet
  generalize link.receive buffer = received at quiet ⊢
  obtain ⟨outcome, ⟨after, stored⟩, journal⟩ := received
  cases outcome with
  | ok receipt => cases receipt <;> simpa [quiet_discard] using quiet
  | failed cause => simpa [quiet_discard] using quiet
  | fault => simpa using quiet
  | waiting => simpa using quiet

/-- Receiving a greeting uses nothing of what is found outside. -/
@[simp] theorem network_greet : (greet network link buffer).state.1 = network := by
  unfold greet
  obtain ⟨outcome, ⟨after, stored⟩, journal⟩ := link.receive buffer
  cases outcome with
  | ok receipt => cases receipt <;> rfl
  | failed cause => rfl
  | fault => rfl
  | waiting => rfl

end

/-- How an attempt comes out of connecting and, on the link that this makes, of the greeting. -/
structure Decided (connected : Run Network Link) (buffer : Bytes)
    (tried : Run (Network × Bytes) Attempt) : Prop where
  /-- It may be made again where connecting failed, but for a wrong argument, and where the agent
  hung up before it had greeted. -/
  retry : ∀ error, tried.outcome = .ok (.retry error) ↔
    (connected.outcome = .failed error ∧ error.isInvalidArgument = false) ∨
    ∃ link, connected.outcome = .ok link ∧
      (link.receive buffer).outcome = .failed .peerClosed ∧ error = .peerClosed
  /-- It fails for good at a wrong argument, where reading the greeting fails, and where the
  greeting does not come whole. -/
  failed : ∀ error, tried.outcome = .failed error ↔
    (connected.outcome = .failed error ∧ error.isInvalidArgument = true) ∨
    ∃ link, connected.outcome = .ok link ∧
      ((∃ cause, (link.receive buffer).outcome = .failed (.transport cause) ∧
          error = .transport cause) ∨
        ∃ receipt, (link.receive buffer).outcome = .ok receipt ∧
          (receipt = .bufferTooSmall ∨
            ∃ total attachment, receipt = .attachmentPending total attachment) ∧
          error = .incompleteGreeting receipt)
  /-- The agent has greeted when its first message came whole. -/
  greeted : ∀ agent, tried.outcome = .ok (.greeted agent) ↔
    ∃ link, connected.outcome = .ok link ∧
      ∃ length attachment, (link.receive buffer).outcome = .ok (.complete length attachment) ∧
        agent = ⟨(link.receive buffer).state.1, .complete length attachment⟩
  /-- What is found outside is used by connecting alone. -/
  network : tried.state.1 = connected.state
  /-- All pauses are those of connecting. -/
  pauses : tried.journal.pauses = connected.journal.pauses

/-- What becomes of an attempt is decided by connecting and by the greeting. -/
theorem decided_attempt (network : Network) (host port : String) (settings : Settings)
    (buffer : Bytes) :
    Decided (network.connect host port settings) buffer
      (attempt network host port settings buffer) := by
  unfold attempt
  obtain ⟨outcome, later, journal⟩ := network.connect host port settings
  cases outcome with
  | ok link =>
    constructor
    case retry => simp [Run.prepend, greet_retry]
    case failed => simp [Run.prepend, greet_failed]
    case greeted => simp [Run.prepend, greet_greeted]
    case network => simp [Run.prepend]
    case pauses =>
      have greeting : (greet later link buffer).journal.pauses = [] :=
        Journal.reader_pauses.quiet (fun _ => rfl) quiet_greet
      exact (Journal.reader_pauses.append _ _).trans (by rw [greeting, List.append_nil])
  | failed cause =>
    constructor
    case retry => simp [afterConnecting_retry]
    case failed => simp [afterConnecting_failed]
    case greeted => simp [afterConnecting_greeted]
    case network => rfl
    case pauses => rfl
  | fault => constructor <;> simp
  | waiting => constructor <;> simp

end Agent

end AgentLink
