import AgentLink.CommandLine.Session
import AgentLink.Proofs.Diagnostics
import AgentLink.Proofs.Resolution

/-!
# On the way to a reply

The command line connects, sends its command and then receives a reply. Connecting begins with at
most one question to the resolver (`asks_resolve`). Connecting and sending print nothing, however
they end (`mute_connect`, `mute_sendCommand`), and the link that they leave is owed nothing and has
all still to come that the agent sends (`pending_connect`, `state_sendCommand`).
-/
namespace AgentLink

namespace Journal

/-- Printing some lines prints them. -/
@[simp] theorem printed_lines (lines : List String) : printed (lines.map .printed) = lines := by
  induction lines with
  | nil => rfl
  | cons line lines ih => exact congrArg (line :: ·) ih

end Journal

namespace Run

variable {σ τ α β : Type} {run : Run σ α}

/-- A run goes on to a value where each of its halves has one. -/
theorem andThen_eq_ok {stop : σ → τ} {next : α → σ → Run τ β} {value : β} :
    (run.andThen stop next).outcome = .ok value ↔
      ∃ first, run.outcome = .ok first ∧ (next first run.state).outcome = .ok value := by
  obtain ⟨outcome, state, journal⟩ := run
  cases outcome <;> simp [andThen, prepend]

/-- A run that goes on. -/
theorem andThen_ok {stop : σ → τ} {next : α → σ → Run τ β} {value : α}
    (ended : run.outcome = .ok value) :
    run.andThen stop next = (next value run.state).prepend run.journal := by
  rw [andThen, ended]

/-- What a run did before, it still did before if it goes on. -/
theorem andThen_prepend (run : Run σ α) (earlier : Journal) (stop : σ → τ)
    (next : α → σ → Run τ β) :
    (run.prepend earlier).andThen stop next = (run.andThen stop next).prepend earlier := by
  obtain ⟨outcome, state, journal⟩ := run
  cases outcome with
  | ok value => simp only [andThen, prepend, List.append_assoc]
  | failed error => rfl
  | fault => rfl
  | waiting => rfl

/-- A run that printed nothing. -/
def Mute (run : Run σ α) : Prop := run.journal.printed = []

/-- A run that prints nothing still prints nothing behind a journal that does not. -/
theorem Mute.prepend {earlier : Journal} (before : earlier.printed = []) (mute : run.Mute) :
    (run.prepend earlier).Mute := by
  rw [Mute, Run.prepend, Journal.reader_printed.append, before, mute, List.append_nil]

/-- A run that prints nothing still prints nothing in front of a journal that does not. -/
theorem Mute.append {later : Journal} (mute : run.Mute) (after : later.printed = []) :
    (run.append later).Mute := by
  rw [Mute, Run.append, Journal.reader_printed.append, mute, after, List.append_nil]

/-- A run prints nothing of which neither half does. -/
theorem Mute.andThen {stop : σ → τ} {next : α → σ → Run τ β} (mute : run.Mute)
    (on : ∀ value, (next value run.state).Mute) : (run.andThen stop next).Mute := by
  obtain ⟨outcome, state, journal⟩ := run
  cases outcome with
  | ok value => exact (on value).prepend mute
  | failed error => exact mute
  | fault => exact mute
  | waiting => exact mute

end Run

namespace Network

/-- What any run of resolving on a network does. -/
structure Asks (network : Network) (run : Run Network Endpoint) : Prop where
  /-- It asks one question at most and does nothing else. -/
  journal : run.journal = [] ∨ ∃ question, run.journal = [.asked question]
  /-- It uses up nothing but answers. -/
  state : ∃ lookups, run.state = { network with lookups }
  /-- It comes to an endpoint or to an error. -/
  outcome : (∃ endpoint, run.outcome = .ok endpoint) ∨ ∃ error, run.outcome = .failed error

/-- Nothing is read of resolving where questions are overlooked. -/
theorem Asks.unread {network : Network} {run : Run Network Endpoint} (asks : Asks network run)
    {α : Type} {read : Journal → List α} (reader : Journal.Reader read)
    (overlooks : ∀ question, read [.asked question] = []) : read run.journal = [] := by
  rcases asks.journal with silent | ⟨question, asked⟩
  · rw [silent, reader.nil]
  · rw [asked, overlooks]

/-- An answer of the resolver is used up. -/
theorem lookup_state (network : Network) :
    ∃ lookups, network.lookup.2 = { network with lookups } := by
  unfold lookup
  split
  · exact ⟨network.lookups, rfl⟩
  · exact ⟨_, rfl⟩

/-- Resolving asks one question at most. -/
theorem asks_resolve (network : Network) (host port : String) :
    Asks network (network.resolve host port) := by
  have unused : ∃ lookups, network = { network with lookups } := ⟨network.lookups, rfl⟩
  have used := network.lookup_state
  obtain ⟨run, resolves⟩ := exists_resolves network host port
  rw [resolves.resolve_eq]
  cases resolves with
  | wrongPort => exact ⟨.inl rfl, unused, .inr ⟨_, rfl⟩⟩
  | spelled => exact ⟨.inl rfl, unused, .inl ⟨_, rfl⟩⟩
  | hostNul => exact ⟨.inl rfl, unused, .inr ⟨_, rfl⟩⟩
  | found => exact ⟨.inr ⟨_, rfl⟩, used, .inl ⟨_, rfl⟩⟩
  | lost => exact ⟨.inr ⟨_, rfl⟩, used, .inr ⟨_, rfl⟩⟩

/-- Resolving prints nothing. -/
theorem mute_resolve (network : Network) (host port : String) :
    (network.resolve host port).Mute :=
  (network.asks_resolve host port).unread Journal.reader_printed fun _ => rfl

/-- Attempts to connect print nothing. -/
theorem mute_dialUntil (endpoint : Endpoint) (plan : DialPlan) (network : Network) (more : Nat) :
    (dialUntil endpoint plan network more).Mute := by
  induction more generalizing network with
  | zero =>
    unfold dialUntil
    split <;> rfl
  | succ fewer ih =>
    unfold dialUntil
    split
    · rfl
    · rfl
    · exact (ih _).prepend rfl

/-- Setting options prints nothing. -/
theorem mute_tuneAll (network : Network) (steps : List Tuning) : (network.tuneAll steps).Mute := by
  induction steps generalizing network with
  | nil => rfl
  | cons step steps ih =>
    unfold tuneAll
    dsimp only
    split
    · rfl
    · exact (ih _).prepend rfl

/-- Connecting prints nothing. -/
theorem mute_connect (network : Network) (host port : String) (settings : Settings) :
    (network.connect host port settings).Mute := by
  have resolved := network.mute_resolve host port
  refine ((resolved.andThen fun endpoint => ?_).prepend ?_).append ?_
  · refine Run.Mute.prepend rfl ((mute_dialUntil _ _ _ _).andThen fun dialed => ?_)
    exact (mute_tuneAll _ _).andThen fun _ => rfl
  · exact Journal.reader_printed.quiet (fun _ => rfl) (settings.tracing.quiet_opening .connect _)
  · exact Journal.reader_printed.quiet (fun _ => rfl) (settings.tracing.quiet_timing .connect)

/-- Where the address is resolved, connecting ends as reaching the endpoint does. -/
theorem outcome_connect {network later : Network} {host port : String} {endpoint : Endpoint}
    {asked : Journal} (settings : Settings)
    (resolved : network.resolve host port = ⟨.ok endpoint, later, asked⟩) :
    (network.connect host port settings).outcome = (reach endpoint settings later).outcome := by
  rw [connect, resolved]
  rfl

/-- A fresh link is owed nothing. -/
theorem pending_connect {network : Network} {host port : String} {settings : Settings}
    {link : Link} (connected : (network.connect host port settings).outcome = .ok link) :
    link.pending = 0 := by
  obtain ⟨endpoint, -, reached⟩ := Run.andThen_eq_ok.mp connected
  obtain ⟨dialed, -, finished⟩ := Run.andThen_eq_ok.mp reached
  obtain ⟨value, -, made⟩ := Run.andThen_eq_ok.mp finished
  obtain rfl := Outcome.ok.inj made
  rfl

end Network

/-- Writing prints nothing. -/
theorem Outlet.mute_writeAll (budget : SendBudget) (total : Nat) (outlet : Outlet) (left : Bytes)
    (blocked : Nat) : (outlet.writeAll budget total left blocked).Mute := by
  fun_induction writeAll budget total outlet left blocked with
  | case1 => rfl
  | case2 => rfl
  | case3 outlet left blocked remains limit reply bytes some ih => exact ih.prepend rfl
  | case4 => rfl
  | case5 => rfl
  | case6 outlet left blocked remains error reply waits more ih => exact ih.prepend rfl

/-- Sending prints nothing. -/
theorem Link.mute_send (link : Link) (data : Bytes) : (link.send data).Mute := by
  rw [Run.Mute, Journal.reader_printed.send fun _ => rfl]
  exact link.transport.outlet.mute_writeAll link.settings.send.atLeastOnce data.length data 0

namespace CommandLine

/-- Sending the command prints nothing. -/
theorem mute_sendCommand (files : Files) (options : Options) (link : Link) :
    (sendCommand files options link).Mute := by
  unfold sendCommand
  split
  · rfl
  · split
    · rfl
    · split
      · exact link.mute_send _
      · rfl
      · rfl
      · rfl

/-- Sending the command changes nothing of a link but its outlet. -/
theorem state_sendCommand (files : Files) (options : Options) (link : Link) :
    ∃ outlet, (sendCommand files options link).state =
      { link with transport := { link.transport with outlet } } := by
  unfold sendCommand
  split
  · exact ⟨_, rfl⟩
  · split
    · exact ⟨_, rfl⟩
    · split <;> exact ⟨_, rfl⟩

end CommandLine

end AgentLink
