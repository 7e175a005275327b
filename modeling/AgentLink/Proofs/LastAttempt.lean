import Mathlib
import AgentLink.Proofs.Conversation
import AgentLink.Proofs.Starting
import AgentLink.Proofs.WholeMessage

/-!
# What earlier attempts leave behind

All attempts of a start receive into one buffer, and each leaves in it what it got of a greeting
before the agent hung up. None of that is seen in the end. An attempt keeps the length of the
buffer, whatever becomes of it (`length_before`), and that is all the last one takes over: its
greeting is the first message of its connection, which is received as it would have been on a
connection of its own, into a buffer with other bytes in it (`start_untouched`).
-/
namespace AgentLink

/-- A receive that gets a whole message from a link that is owed nothing takes the first message
of the stream, and a receive from any other stream on which the bytes of that message arrive comes
to the same, whatever the buffers hold. -/
theorem Link.receive_alone {link : Link} {buffer : Bytes} {length : Nat} {attachment : Option Nat}
    (idle : link.pending = 0)
    (ended : (link.receive buffer).outcome = .ok (.complete length attachment)) :
    let bytes := link.transport.inbound.bytes
    let run := link.receive buffer
    let left := run.state.1.transport.inbound
    run.state.1.pending = 0 ∧ length = Message.extent bytes ∧ length ≤ buffer.length ∧
      link.transport.inbound.Arrives (bytes.take length) left ∧ left.bytes = bytes.drop length ∧
      ∀ (fresh : Link) (rest : Inbound) (other : Bytes), fresh.pending = 0 →
        other.length = buffer.length → fresh.transport.inbound.Arrives (bytes.take length) rest →
        let received := fresh.receive other
        received.outcome = run.outcome ∧
          received.state.1.pending = 0 ∧ received.state.1.transport.inbound = rest ∧
          received.state.2.take length = run.state.2.take length ∧
          Greeting.processNumber received.state.2 = Greeting.processNumber run.state.2 := by
  intro bytes run left
  obtain ⟨line, attached, heads, rfl, fits, arrives⟩ := heads_of_reception idle ended
  have here := heads.reception idle arrives fits
  have whole : (line ++ attached) ++ left.bytes = bytes := arrives.bytes
  have first : bytes.take (line.length + attached.length) = line ++ attached := by
    rw [← whole, ← List.length_append, List.take_left]
  have behind : left.bytes = bytes.drop (line.length + attached.length) := by
    rw [← whole, ← List.length_append, List.drop_left]
  have extent : line.length + attached.length = Message.extent bytes := by
    rw [← whole, heads.extent]
  refine ⟨?_, extent, fits, first ▸ arrives, behind, ?_⟩
  · rw [pending_receive, here]
  · intro fresh rest other unowed same brought received
    rw [first] at brought
    have there := heads.reception unowed brought (same ▸ fits)
    have length : ((Marker.scan (Header.stored line)).apply (Header.stored line) ++
        attached).length = line.length + attached.length := by
      rw [List.length_append, Marker.Scan.length_apply, Header.length_stored]
    have ends : Byte.nul ∈
        (Marker.scan (Header.stored line)).apply (Header.stored line) ++ attached :=
      List.mem_append_left _ (heads.isLine.nul_mem_apply _)
    refine ⟨?_, ?_, ?_, ?_, ?_⟩
    · rw [outcome_receive, outcome_receive, here, there]
    · rw [pending_receive, there]
    · rw [inbound_receive, there]
    · rw [buffer_receive, buffer_receive, here, there, overlay, overlay,
        List.take_left' length, List.take_left' length]
    · rw [buffer_receive, buffer_receive, here, there, Greeting.processNumber, Greeting.line,
        overlay, takeWhile_append_nul ends, Greeting.processNumber, Greeting.line, overlay,
        takeWhile_append_nul ends]

namespace Agent

/-- A start succeeds whose last attempt greeted. -/
theorem verdict_eq_ok {outcome : Outcome Attempt} {agent : StartedAgent} :
    verdict outcome = .ok agent ↔ outcome = .ok (.greeted agent) := by
  cases outcome with
  | ok attempted => cases attempted <;> simp [verdict]
  | failed error => simp [verdict]
  | fault => simp [verdict]
  | waiting => simp [verdict]

section

variable {network : Network} {host port : String} {settings : Settings} {buffer : Bytes}

/-- A greeting is left in the buffer as the receive left it. -/
@[simp] theorem buffer_greet (link : Link) :
    (greet network link buffer).state.2 = (link.receive buffer).state.2 := by
  unfold greet
  obtain ⟨outcome, ⟨after, stored⟩, journal⟩ := link.receive buffer
  cases outcome with
  | ok receipt => cases receipt <;> rfl
  | failed cause => rfl
  | fault => rfl
  | waiting => rfl

/-- An attempt that connected leaves the buffer as the receive of the greeting left it. -/
theorem buffer_attempt {link : Link}
    (connected : (network.connect host port settings).outcome = .ok link) :
    (attempt network host port settings buffer).state.2 = (link.receive buffer).state.2 := by
  simp only [attempt, connected, Run.prepend, buffer_greet]

/-- Whatever becomes of an attempt, the buffer is as long as it was. -/
theorem length_attempt :
    (attempt network host port settings buffer).state.2.length = buffer.length := by
  simp only [attempt]
  split
  · rw [Run.prepend, buffer_greet, Link.length_receive]
  all_goals rfl

/-- Every attempt finds a buffer of the same length. -/
theorem length_before (earlier : Nat) :
    (before host port settings network buffer earlier).2.length = buffer.length := by
  induction earlier with
  | zero => rfl
  | succ earlier ih => rw [before, length_attempt, ih]

/-- A run of attempts that succeeds ends with one that greets, after others that were tried
again. -/
theorem greeted_of_startUntil {backoff : Backoff} {pause : Duration} {more : Nat}
    {agent : StartedAgent}
    (started : (startUntil host port settings backoff network buffer pause more).outcome =
      .ok agent) :
    ∃ last ≤ more,
      (∀ earlier < last, ∃ error,
        (made host port settings network buffer earlier).outcome = .ok (.retry error)) ∧
      (made host port settings network buffer last).outcome = .ok (.greeted agent) ∧
      (startUntil host port settings backoff network buffer pause more).state =
        (made host port settings network buffer last).state := by
  induction more generalizing network buffer pause with
  | zero =>
    rw [startUntil_last fun more => absurd more (Nat.lt_irrefl 0)] at started ⊢
    exact ⟨0, Nat.le_refl _, fun _ less => absurd less (Nat.not_lt_zero _),
      verdict_eq_ok.mp started, rfl⟩
  | succ more ih =>
    by_cases again : ∃ error,
        (attempt network host port settings buffer).outcome = .ok (.retry error)
    · obtain ⟨error, ended⟩ := again
      cases doubled : backoff.next? pause with
      | none =>
        rw [startUntil] at started
        simp [ended, doubled] at started
      | some next =>
        rw [startUntil_retry ended doubled] at started ⊢
        obtain ⟨last, within, retried, greeted, state⟩ := ih started
        refine ⟨last + 1, Nat.succ_le_succ within, ?_, ?_, ?_⟩
        · intro earlier less
          cases earlier with
          | zero => exact ⟨error, ended⟩
          | succ earlier =>
            rw [made_succ]
            exact retried earlier (Nat.lt_of_succ_lt_succ less)
        · rw [made_succ]
          exact greeted
        · rw [made_succ]
          exact state
    · rw [startUntil_last fun _ error ended => again ⟨error, ended⟩] at started ⊢
      exact ⟨0, Nat.zero_le _, fun _ less => absurd less (Nat.not_lt_zero _),
        verdict_eq_ok.mp started, rfl⟩

end

/-- A start that succeeds is untouched by the attempts that failed before. Its greeting is the
first message of the last connection, whole, and what is behind that message is unread. A link of
its own on whose stream the bytes of that message arrive, whatever comes between them and whatever
follows, receives it alike into every buffer of the same length: the receive is reported alike,
stores the same bytes, and leaves a buffer that gives the same process number. -/
theorem start_untouched {network : Network} {host port : String} {backoff : Backoff}
    {settings : Settings} {buffer : Bytes} {agent : StartedAgent}
    (started : (start network host port backoff settings buffer).outcome = .ok agent) :
    let stored := (start network host port backoff settings buffer).state.2
    ∃ last < max backoff.attempts 1, ∃ link length attachment,
      (∀ earlier < last, ∃ error,
        (made host port settings network buffer earlier).outcome = .ok (.retry error)) ∧
      (made host port settings network buffer last).outcome = .ok (.greeted agent) ∧
      (connecting host port settings network buffer last).outcome = .ok link ∧
      let bytes := link.transport.inbound.bytes
      agent.greeting = .complete length attachment ∧
      agent.link.pending = 0 ∧
      length = Message.extent bytes ∧ length ≤ buffer.length ∧
      link.transport.inbound.Arrives (bytes.take length) agent.link.transport.inbound ∧
      agent.link.transport.inbound.bytes = bytes.drop length ∧
      ∀ (fresh : Link) (rest : Inbound) (other : Bytes), fresh.pending = 0 →
        other.length = buffer.length → fresh.transport.inbound.Arrives (bytes.take length) rest →
        let received := fresh.receive other
        received.outcome = .ok agent.greeting ∧
          received.state.1.pending = 0 ∧ received.state.1.transport.inbound = rest ∧
          received.state.2.take length = stored.take length ∧
          Greeting.processNumber received.state.2 = Greeting.processNumber stored := by
  intro stored
  obtain ⟨last, within, retried, greeted, state⟩ := greeted_of_startUntil started
  have attempts : last < max backoff.attempts 1 := by
    have positive : 0 < max backoff.attempts 1 := by omega
    exact Nat.lt_of_le_of_lt within (Nat.sub_lt positive Nat.one_pos)
  obtain ⟨link, connected, length, attachment, received, rfl⟩ :=
    ((decided_made host port settings network buffer last).greeted agent).mp greeted
  have kept : stored =
      (link.receive (before host port settings network buffer last).2).state.2 := by
    rw [← buffer_attempt connected]
    exact congrArg Prod.snd state
  have alone := link.receive_alone (Network.pending_connect connected) received
  dsimp only at alone
  rw [length_before, ← kept, received] at alone
  exact ⟨last, attempts, link, length, attachment, retried, greeted, connected, rfl, alone⟩

/-- A first connection brings a long greeting that is cut off within its attachment, a second a
shorter one that is whole. A link of its own gets the second in pieces, into a buffer of NULs. -/
theorem start_untouched_cutOff :
    let backoff : Backoff := ⟨.zero, .zero, 2⟩
    let settings : Settings := { socket := { keepAlive := none } }
    let longer := [80, 73, 68, 32, 49, 50, 51, 52, 53, 54, 55, 56, 57, 32, 97, 116, 116, 97, 99,
      104, 32, 51, 48, 10, 1, 2]
    let shorter := [80, 73, 68, 32, 55, 32, 97, 116, 116, 97, 99, 104, 32, 50, 10, 111, 107]
    let network : Network := { dials := [.accepted ⟨[.data longer none], true⟩ none none,
      .accepted ⟨[.data (shorter ++ [120]) none], true⟩ none none] }
    let run := start network "10.0.0.7" "5000" backoff settings (List.replicate 32 238)
    let fresh := Link.ofArrivals [.data (shorter.take 8) (some 3),
      .failure (.plain .interrupted), .data (shorter.drop 8) (some 4)]
    let received := fresh.receive (List.replicate 32 0)
    ∃ agent, run.outcome = .ok agent ∧ agent.link.pending = 0 ∧
      received.outcome = .ok agent.greeting ∧
      received.state.2.take 17 = run.state.2.take 17 ∧
      Greeting.processNumber run.state.2 = .ok 7 := by
  intro backoff settings longer shorter network run fresh received
  have closed : (made "10.0.0.7" "5000" settings network (List.replicate 32 238) 0).outcome =
      .ok (.retry .peerClosed) := by cbv
  have greets : (verdict (made "10.0.0.7" "5000" settings network (List.replicate 32 238)
      1).outcome).isOk = true := by cbv
  obtain ⟨agent, started⟩ : ∃ agent, run.outcome = .ok agent := by
    obtain ⟨agent, second⟩ := Outcome.ok_of_isOk greets
    have doubled : backoff.ordered.next? .zero = some .zero := by decide
    have retried : run = _ := startUntil_retry closed doubled
    rw [retried, startUntil_last fun more => absurd more (Nat.lt_irrefl 0)]
    exact ⟨agent, second⟩
  obtain ⟨last, within, link, length, attachment, -, greeted, connected, greeting, idle, extent, -,
    -, -, alone⟩ := start_untouched started
  obtain rfl : last = 1 := by
    have limit : last < 2 := within
    rcases last with _ | _ | last
    · exact absurd (closed.symm.trans greeted) (by simp)
    · rfl
    · omega
  have brings : (connecting "10.0.0.7" "5000" settings network (List.replicate 32 238)
      1).outcome.map (·.transport.inbound.bytes) = .ok (shorter ++ [120]) := by cbv
  rw [connected] at brings
  have brings : link.transport.inbound.bytes = shorter ++ [120] := Outcome.ok.inj brings
  rw [brings] at extent alone
  obtain rfl : length = 17 := extent.trans (by decide)
  have arrives : fresh.transport.inbound.Arrives shorter ⟨[.data [] (some 4)], true⟩ := by
    have taken : fresh.transport.inbound.take 17 =
        ⟨.ok (), shorter, ⟨[.data [] (some 4)], true⟩⟩ := by cbv
    exact (Inbound.take_ok_iff.mp taken).2
  obtain ⟨outcome, -, -, stored, number⟩ := alone fresh _ (List.replicate 32 0) rfl rfl arrives
  refine ⟨agent, started, idle, outcome, stored, ?_⟩
  rw [← number]
  cbv

end Agent

end AgentLink
