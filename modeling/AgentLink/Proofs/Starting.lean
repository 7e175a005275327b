import Mathlib
import AgentLink.Proofs.Attempts

/-!
# The attempts of a start

Starting an agent makes attempts, each where the one before left off, until one of them is not to
be tried again or there are no more. `start_attempts` says what a start comes to and all that it
does, in order: between an attempt and the next there is one line of the log and one pause, and
the pauses double from the shorter length of the back-off up to the longer. Which failures are
tried again is read off connecting and the greeting: everything that connecting can fail with but
a wrong argument, and an agent that hung up.
-/
namespace AgentLink

namespace Backoff

/-- The shorter of the two lengths, in nanoseconds. -/
def shorter (backoff : Backoff) : Nat :=
  min backoff.initial.nanoseconds backoff.longest.nanoseconds

/-- The longer of the two lengths, in nanoseconds. -/
def longer (backoff : Backoff) : Nat :=
  max backoff.initial.nanoseconds backoff.longest.nanoseconds

/-- The pause after an attempt that failed, by how many had failed before it. -/
def pause (backoff : Backoff) (earlier : Nat) : Duration :=
  ⟨min (backoff.shorter * 2 ^ earlier) backoff.longer⟩

/-- A back-off in order begins with the shorter length. -/
theorem ordered_initial (backoff : Backoff) : backoff.ordered.initial = ⟨backoff.shorter⟩ := by
  by_cases inverted : backoff.longest.nanoseconds < backoff.initial.nanoseconds
  · simp only [ordered, if_pos inverted, shorter, Nat.min_eq_right (Nat.le_of_lt inverted)]
  · simp only [ordered, if_neg inverted, shorter, Nat.min_eq_left (Nat.le_of_not_lt inverted)]

/-- A back-off in order goes up to the longer length. -/
theorem ordered_longest (backoff : Backoff) : backoff.ordered.longest = ⟨backoff.longer⟩ := by
  by_cases inverted : backoff.longest.nanoseconds < backoff.initial.nanoseconds
  · simp only [ordered, if_pos inverted, longer, Nat.max_eq_left (Nat.le_of_lt inverted)]
  · simp only [ordered, if_neg inverted, longer, Nat.max_eq_right (Nat.le_of_not_lt inverted)]

/-- The first pause is the shorter length. -/
theorem pause_zero (backoff : Backoff) : backoff.pause 0 = backoff.ordered.initial := by
  have le : backoff.shorter ≤ backoff.longer := by
    rw [shorter, longer]
    omega
  rw [ordered_initial, pause, Nat.pow_zero, Nat.mul_one, Nat.min_eq_left le]

/-- A pause is followed by one of twice its length, up to the longer length. -/
theorem next?_pause {backoff : Backoff} (doubles : 2 * backoff.longer < Duration.limit)
    (earlier : Nat) :
    backoff.ordered.next? (backoff.pause earlier) = some (backoff.pause (earlier + 1)) := by
  have short : 2 * min (backoff.shorter * 2 ^ earlier) backoff.longer < Duration.limit := by
    omega
  have capped : ∀ length : Nat, min (2 * min length backoff.longer) backoff.longer =
      min (length * 2) backoff.longer := by
    omega
  have doubled : Nat.min (2 * min (backoff.shorter * 2 ^ earlier) backoff.longer)
      backoff.longer = min (backoff.shorter * 2 ^ (earlier + 1)) backoff.longer := by
    rw [Nat.pow_succ, ← Nat.mul_assoc]
    exact capped _
  rw [next?, ordered_longest, pause, Duration.double?, if_pos short, Option.map_some,
    Duration.min, doubled, pause]

end Backoff

namespace Agent

section

variable (host port : String) (settings : Settings)

/-- The network and the buffer as the attempt finds them that follows so many others: as the
attempt before left them. -/
def before (network : Network) (buffer : Bytes) : Nat → Network × Bytes
  | 0 => (network, buffer)
  | earlier + 1 =>
    let found := before network buffer earlier
    (attempt found.1 host port settings found.2).state

/-- How connecting goes in the attempt that follows so many others. -/
def connecting (network : Network) (buffer : Bytes) (earlier : Nat) : Run Network Link :=
  (before host port settings network buffer earlier).1.connect host port settings

/-- The attempt that follows so many others. -/
def made (network : Network) (buffer : Bytes) (earlier : Nat) : Run (Network × Bytes) Attempt :=
  let found := before host port settings network buffer earlier
  attempt found.1 host port settings found.2

variable (network : Network) (buffer : Bytes) (earlier : Nat)

/-- Attempts after a first one are attempts that begin where it left off. -/
theorem before_succ :
    before host port settings network buffer (earlier + 1) =
      before host port settings (attempt network host port settings buffer).state.1
        (attempt network host port settings buffer).state.2 earlier := by
  induction earlier with
  | zero => rfl
  | succ earlier ih => rw [before, ih, before]

/-- Attempts after a first one are made where it left off. -/
theorem made_succ :
    made host port settings network buffer (earlier + 1) =
      made host port settings (attempt network host port settings buffer).state.1
        (attempt network host port settings buffer).state.2 earlier := by
  rw [made, before_succ, made]

/-- What becomes of each attempt is decided by connecting and by the greeting. -/
theorem decided_made :
    Decided (connecting host port settings network buffer earlier)
      (before host port settings network buffer earlier).2
      (made host port settings network buffer earlier) :=
  decided_attempt _ _ _ _ _

end

/-- What a start comes to whose last attempt came to this. -/
def verdict : Outcome Attempt → Outcome StartedAgent
  | .ok (.greeted agent) => .ok agent
  | .ok (.retry error) => .failed error
  | .failed error => .failed error
  | .fault => .fault
  | .waiting => .waiting

/-- What happens between an attempt and the next. -/
def interlude (host port : String) (pause : Duration) : Outcome Attempt → Journal
  | .ok (.retry error) => [perseverance host port error pause, .slept pause]
  | .ok (.greeted _) | .failed _ | .fault | .waiting => []

/-- What happens after the last attempt, by its number. -/
def farewell (host port : String) (number : Nat) : Outcome Attempt → Journal
  | .ok (.greeted _) => [welcome host port number]
  | .ok (.retry _) | .failed _ | .fault | .waiting => []

section

variable {host port : String} {settings : Settings} {backoff : Backoff}

/-- An attempt is the last when it is not to be tried again, or when there are no more. -/
theorem startUntil_last {network : Network} {buffer : Bytes} {more : Nat} {pause : Duration}
    (last : 0 < more → ∀ error,
      (attempt network host port settings buffer).outcome ≠ .ok (.retry error)) :
    let tried := attempt network host port settings buffer
    startUntil host port settings backoff network buffer pause more =
      ⟨verdict tried.outcome, tried.state,
        tried.journal ++ farewell host port (backoff.attempts - more) tried.outcome⟩ := by
  intro tried
  unfold startUntil
  cases ended : (attempt network host port settings buffer).outcome with
  | ok attempted =>
    cases attempted with
    | greeted agent => simp only [tried, ended, verdict, farewell]
    | retry error =>
      obtain rfl : more = 0 := Nat.eq_zero_of_not_pos fun positive => last positive error ended
      simp only [tried, ended, verdict, farewell]
  | failed error => simp only [tried, ended, verdict, farewell]
  | fault => simp only [tried, ended, verdict, farewell]
  | waiting => simp only [tried, ended, verdict, farewell]

/-- An attempt that is tried again is followed by a pause and by the attempts there are still. -/
theorem startUntil_retry {network : Network} {buffer : Bytes} {more : Nat} {pause next : Duration}
    {error : LinkError}
    (ended : (attempt network host port settings buffer).outcome = .ok (.retry error))
    (doubled : backoff.next? pause = some next) :
    let tried := attempt network host port settings buffer
    startUntil host port settings backoff network buffer pause (more + 1) =
      (startUntil host port settings backoff tried.state.1 tried.state.2 next more).prepend
        (tried.journal ++ interlude host port pause tried.outcome) := by
  intro tried
  rw [startUntil]
  simp only [tried, ended, doubled, interlude]

/-- What a run of attempts comes to that begins so many pauses into a back-off, by the count of
attempts that are tried again. -/
structure Stops (host port : String) (settings : Settings) (backoff : Backoff) (network : Network)
    (buffer : Bytes) (paused more retried : Nat) (run : Run (Network × Bytes) StartedAgent) :
    Prop where
  /-- No more attempts are tried again than there may be. -/
  within : retried ≤ more
  /-- Each of these failed in a way that is tried again. -/
  retries : ∀ earlier < retried, ∃ error,
    (made host port settings network buffer earlier).outcome = .ok (.retry error)
  /-- The last one did only where no attempt is left. -/
  last : retried < more → ∀ error,
    (made host port settings network buffer retried).outcome ≠ .ok (.retry error)
  /-- The run ends as the last attempt says. -/
  outcome : run.outcome = verdict (made host port settings network buffer retried).outcome
  /-- It leaves what the last attempt leaves. -/
  state : run.state = (made host port settings network buffer retried).state
  /-- It did what the attempts did, with an interlude after each but the last. -/
  journal : run.journal =
    (List.range retried).flatMap (fun earlier =>
      (made host port settings network buffer earlier).journal ++
        interlude host port (backoff.pause (paused + earlier))
          (made host port settings network buffer earlier).outcome) ++
      (made host port settings network buffer retried).journal ++
      farewell host port (backoff.ordered.attempts - (more - retried))
        (made host port settings network buffer retried).outcome

/-- A run of attempts can end with its first. -/
theorem stops_now {network : Network} {buffer : Bytes} {paused more : Nat} {pause : Duration}
    (last : 0 < more → ∀ error,
      (attempt network host port settings buffer).outcome ≠ .ok (.retry error)) :
    Stops host port settings backoff network buffer paused more 0
      (startUntil host port settings backoff.ordered network buffer pause more) := by
  rw [startUntil_last last]
  refine ⟨Nat.zero_le _, ?_, last, rfl, rfl, ?_⟩
  · intro earlier less
    exact absurd less (Nat.not_lt_zero _)
  · rw [List.range_zero, List.flatMap_nil, List.nil_append]
    rfl

/-- Attempts are made until one is not to be tried again or there are no more. -/
theorem stops_startUntil (doubles : 2 * backoff.longer < Duration.limit) (network : Network)
    (buffer : Bytes) (paused more : Nat) :
    ∃ retried, Stops host port settings backoff network buffer paused more retried
      (startUntil host port settings backoff.ordered network buffer (backoff.pause paused)
        more) := by
  induction more generalizing network buffer paused with
  | zero => exact ⟨0, stops_now fun more => absurd more (Nat.lt_irrefl 0)⟩
  | succ more ih =>
    by_cases again : ∃ error,
        (attempt network host port settings buffer).outcome = .ok (.retry error)
    · obtain ⟨error, ended⟩ := again
      obtain ⟨retried, stops⟩ := ih
        (attempt network host port settings buffer).state.1
        (attempt network host port settings buffer).state.2 (paused + 1)
      rw [startUntil_retry ended (Backoff.next?_pause doubles paused)]
      refine ⟨retried + 1, ?_, ?_, ?_, ?_, ?_, ?_⟩
      · exact Nat.succ_le_succ stops.within
      · intro earlier less
        cases earlier with
        | zero => exact ⟨error, ended⟩
        | succ earlier =>
          rw [made_succ]
          exact stops.retries earlier (Nat.lt_of_succ_lt_succ less)
      · intro less
        rw [made_succ]
        exact stops.last (Nat.lt_of_succ_lt_succ less)
      · rw [made_succ]
        exact stops.outcome
      · rw [made_succ]
        exact stops.state
      · have shift : ∀ earlier, paused + 1 + earlier = paused + (earlier + 1) := by omega
        rw [Run.prepend, stops.journal, List.range_succ_eq_map, List.flatMap_cons,
          List.flatMap_map, Nat.add_sub_add_right]
        simp only [shift, made_succ, List.append_assoc]
        rfl
    · exact ⟨0, stops_now fun _ error ended => again ⟨error, ended⟩⟩

/-- Between an attempt that is tried again and the next there is one pause. -/
theorem pauses_interlude {outcome : Outcome Attempt} {error : LinkError}
    (again : outcome = .ok (.retry error)) (pause : Duration) :
    (interlude host port pause outcome).pauses = [pause] := by
  rw [again]
  rfl

/-- There is no pause after the last attempt. -/
theorem pauses_farewell (number : Nat) (outcome : Outcome Attempt) :
    (farewell host port number outcome).pauses = [] := by
  cases outcome with
  | ok attempted => cases attempted <;> rfl
  | failed error => rfl
  | fault => rfl
  | waiting => rfl

end

/-- A start makes at least one attempt and at most as many as its back-off allows. All but the
last failed in a way that is tried again, and so did the last only where no more are allowed; the
start comes to what the last one came to. Each attempt begins where the one before left off,
after one pause, which is the shorter length of the back-off at first and doubles up to the
longer. What becomes of each attempt is decided by connecting and by the greeting. -/
theorem start_attempts {backoff : Backoff} (doubles : 2 * backoff.longer < Duration.limit)
    (network : Network) (host port : String) (settings : Settings) (buffer : Bytes) :
    let run := start network host port backoff settings buffer
    let connected := connecting host port settings network buffer
    let tried := made host port settings network buffer
    (∃ last < max backoff.attempts 1,
      (∀ earlier < last, ∃ error, (tried earlier).outcome = .ok (.retry error)) ∧
      (last + 1 < max backoff.attempts 1 → ∀ error, (tried last).outcome ≠ .ok (.retry error)) ∧
      run.outcome = verdict (tried last).outcome ∧
      run.state = (tried last).state ∧
      run.journal =
        (List.range last).flatMap (fun earlier => (tried earlier).journal ++
          interlude host port (backoff.pause earlier) (tried earlier).outcome) ++
        (tried last).journal ++ farewell host port (last + 1) (tried last).outcome ∧
      run.journal.pauses =
        (List.range last).flatMap (fun earlier =>
          (connected earlier).journal.pauses ++ [backoff.pause earlier]) ++
        (connected last).journal.pauses) ∧
    ∀ earlier, Decided (connected earlier) (before host port settings network buffer earlier).2
      (tried earlier) := by
  intro run connected tried
  have decided := decided_made host port settings network buffer
  refine ⟨?_, decided⟩
  have begins : run = startUntil host port settings backoff.ordered network buffer
      (backoff.pause 0) (max backoff.attempts 1 - 1) := by
    rw [Backoff.pause_zero]
    rfl
  obtain ⟨last, stops⟩ : ∃ last, Stops host port settings backoff network buffer 0
      (max backoff.attempts 1 - 1) last run := by
    rw [begins]
    exact stops_startUntil doubles network buffer 0 _
  have within := stops.within
  have number : max backoff.attempts 1 - (max backoff.attempts 1 - 1 - last) = last + 1 := by
    omega
  have journal := stops.journal
  simp only [Nat.zero_add, Backoff.ordered, number] at journal
  refine ⟨last, by omega, stops.retries, fun more => stops.last (by omega), stops.outcome,
    stops.state, journal, ?_⟩
  have pauses := Journal.reader_pauses
  rw [journal, pauses.append, pauses.append, pauses_farewell, List.append_nil,
    (decided last).pauses, pauses.flatMap]
  congr 1
  refine List.flatMap_congr fun earlier member => ?_
  obtain ⟨error, again⟩ := stops.retries earlier (List.mem_range.mp member)
  rw [pauses.append, (decided earlier).pauses, pauses_interlude again]

/-- An agent that is not there at first, and hangs up next, greets a third attempt. The two
lengths of the back-off are given the wrong way round. -/
theorem start_attempts_third :
    let backoff : Backoff := ⟨.ofSeconds 8, .ofSeconds 2, 3⟩
    let settings : Settings := { dial := ⟨1, .zero⟩, socket := { keepAlive := none } }
    let network : Network := { dials := [.refused (.numbered 111),
      .accepted ⟨[], true⟩ none none,
      .accepted ⟨[.data [80, 73, 68, 32, 55, 0] none], true⟩ none none] }
    let run := start network "10.0.0.7" "5000" backoff settings (List.replicate 8 238)
    2 * backoff.longer < Duration.limit ∧
      run.outcome.map (·.greeting) = .ok (.complete 6 none) ∧
      run.journal.pauses = [.ofSeconds 2, .ofSeconds 4] := by
  intro backoff settings network run
  have doubles : 2 * backoff.longer < Duration.limit := by decide
  obtain ⟨⟨last, within, -, ended, outcome, -, -, pauses⟩, -⟩ := start_attempts doubles
    network "10.0.0.7" "5000" settings (List.replicate 8 238)
  have refused : (made "10.0.0.7" "5000" settings network (List.replicate 8 238) 0).outcome =
      .ok (.retry (.connect (.ipv4 ⟨⟨10, 0, 0, 7⟩, 5000⟩) 1 (.numbered 111))) := by cbv
  have closed : (made "10.0.0.7" "5000" settings network (List.replicate 8 238) 1).outcome =
      .ok (.retry .peerClosed) := by cbv
  obtain rfl : last = 2 := by
    have limit : last < 3 := within
    rcases last with _ | _ | last
    · exact absurd refused (ended (by decide) _)
    · exact absurd closed (ended (by decide) _)
    · omega
  refine ⟨doubles, ?_, ?_⟩
  · rw [outcome]
    cbv
  · rw [pauses]
    cbv

end Agent

end AgentLink
