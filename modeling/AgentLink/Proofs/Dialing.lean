import Mathlib.Data.List.Basic
import AgentLink.Proofs.Attempts
import AgentLink.Proofs.Conversation
import AgentLink.Proofs.Stalling

/-!
# Attempts to connect

Connecting makes one attempt after another, each on a socket of its own and each to the endpoint
that was resolved, until one is not refused or there are no more. Between an attempt and the next
there is one line of the log and one pause. What the last attempt comes to decides how connecting
ends (`Network.Ends`): at once without a socket, with an error where no attempt is left, and as the
options of the socket allow where there is a connection. What connecting asks, dials, waits and
warns of is read of its steps alone (`Journal.StepReader`), and so is put together from those of
resolving, of the attempts that others follow and of the last one (`Network.read_connected`).
`Network.connect_attempts` says what connecting comes to and all that it does, in order.
-/
namespace AgentLink

/-- Whether an effect is a warning in the log. -/
def Effect.isWarning : Effect → Bool
  | .noted (.line .warn _) => true
  | _ => false

/-- Whether an effect is a step on the way to a connection: a question, an attempt, a pause or a
warning. -/
def Effect.isStep : Effect → Bool
  | .asked _ | .dialed _ | .slept _ => true
  | effect => effect.isWarning

namespace Journal

/-- How many warnings were logged. -/
def warnings (journal : Journal) : Nat := journal.countP Effect.isWarning

/-- A mark for each warning that was logged. -/
def marks (journal : Journal) : List Unit :=
  journal.filterMap fun effect => if effect.isWarning then some () else none

/-- There are as many marks as warnings. -/
theorem length_marks (journal : Journal) : journal.marks.length = journal.warnings := by
  rw [marks, List.length_filterMap_eq_countP, warnings]
  refine List.countP_congr fun effect _ => ?_
  cases effect.isWarning <;> simp

/-- The steps on the way to a connection. -/
def course (journal : Journal) : Journal := journal.filter Effect.isStep

/-- The course is read of a journal. -/
theorem reader_course : Reader course := ⟨fun _ _ => List.filter_append ..⟩

/-- What reads journals and finds nothing but in the steps on the way to a connection. -/
structure StepReader {α : Type} (read : Journal → List α) : Prop extends Reader read where
  /-- Every other effect is overlooked. -/
  overlooks : ∀ effect, effect.isStep = false → read [effect] = []

/-- What only steps show is read of them. -/
theorem stepReader_filterMap {α : Type} {shown : Effect → Option α}
    (hidden : ∀ effect, effect.isStep = false → shown effect = none) :
    StepReader fun journal => journal.filterMap shown where
  toReader := reader_filterMap shown
  overlooks effect unstepped := by simp [hidden effect unstepped]

/-- Questions are steps. -/
theorem stepReader_questions : StepReader questions :=
  stepReader_filterMap fun effect => by cases effect <;> simp [Effect.isStep]

/-- Attempts to connect are steps. -/
theorem stepReader_dials : StepReader dials :=
  stepReader_filterMap fun effect => by cases effect <;> simp [Effect.isStep]

/-- Pauses are steps. -/
theorem stepReader_pauses : StepReader pauses :=
  stepReader_filterMap fun effect => by cases effect <;> simp [Effect.isStep]

/-- Warnings are steps. -/
theorem stepReader_marks : StepReader marks := by
  refine stepReader_filterMap fun effect unstepped => ?_
  have calm : effect.isWarning = false := by
    cases effect with
    | noted note => exact unstepped
    | _ => rfl
  simp [calm]

/-- What is read of a journal is read of its course. -/
theorem StepReader.course {α : Type} {read : Journal → List α} (reader : StepReader read)
    (journal : Journal) : read journal.course = read journal := by
  induction journal with
  | nil => rfl
  | cons effect later ih =>
    have split := reader_course.cons effect later
    rw [split, reader.append, reader.cons effect later, ih]
    cases step : effect.isStep with
    | true => rw [Journal.course, List.filter_cons_of_pos step, List.filter_nil]
    | false =>
      have skipped : Journal.course [effect] = [] := List.filter_cons_of_neg (by simp [step])
      rw [skipped, reader.nil, reader.overlooks effect step]

/-- Nothing is read where there are no steps. -/
theorem StepReader.unread {α : Type} {read : Journal → List α} (reader : StepReader read)
    {journal : Journal} (still : journal.course = []) : read journal = [] := by
  rw [← reader.course, still, reader.nil]

end Journal

/-- The span of an operation is no step. -/
theorem Tracing.course_opening (tracing : Tracing) (operation : Operation) (fields : Fields) :
    (tracing.opening operation fields).course = [] := rfl

/-- The report of a time is no step. -/
theorem Tracing.course_timing (tracing : Tracing) (operation : Operation) :
    (tracing.timing operation).course = [] := by
  unfold timing
  split <;> rfl

/-- What setting an option does. -/
def Tuning.effect (step : Tuning) : Effect := .tuned step.option step.value

/-- How often an agent is dialed in an attempt: without a socket it is not. -/
def DialReply.calls : DialReply → Nat
  | .noSocket _ => 0
  | .refused _ | .accepted .. => 1

namespace Network

/-- Why the option cannot be set that a step asks for, where those before it were. -/
def obstacle? (network : Network) (steps : List Tuning) (index : Nat) : Option SystemError :=
  steps[index]?.bind fun step => network.optionFailure step.option
    (((steps.take index).map Tuning.option).count step.option + network.tuned.count step.option)

/-- The first step meets what setting its option meets. -/
theorem obstacle?_zero (network : Network) (step : Tuning) (steps : List Tuning) :
    network.obstacle? (step :: steps) 0 = (network.tune step.option).1 := by
  simp [obstacle?, tune]

/-- The later steps meet what they meet on the network that the first leaves. -/
theorem obstacle?_succ (network : Network) (step : Tuning) (steps : List Tuning) (index : Nat) :
    network.obstacle? (step :: steps) (index + 1) =
      (network.tune step.option).2.obstacle? steps index := by
  cases found : steps[index]? with
  | none => simp [obstacle?, found]
  | some later =>
    simp only [obstacle?, tune, List.getElem?_cons_succ, found, Option.bind_some,
      List.take_succ_cons, List.map_cons, List.count_cons]
    congr 1
    omega

/-- What setting options comes to, by the obstacle that each step meets: one that meets an obstacle
is the last. -/
inductive Tunes (obstacle : Nat → Option SystemError) (steps : List Tuning) :
    Outcome Unit → Journal → Prop
  /-- All options are set. -/
  | whole (clear : ∀ index, obstacle index = none) :
    Tunes obstacle steps (.ok ()) (steps.map Tuning.effect)
  /-- An option cannot be set. -/
  | blocked {index : Nat} {step : Tuning} {error : SystemError} (found : steps[index]? = some step)
    (clear : ∀ earlier < index, obstacle earlier = none) (meets : obstacle index = some error) :
    Tunes obstacle steps (.failed (.socketOption step.reportedAs error))
      ((steps.take (index + 1)).map Tuning.effect)

/-- Options are set in order, up to the first that cannot be. The later ones meet their obstacles on
the network that the first leaves. -/
theorem tunes_tuneAll (network : Network) (steps : List Tuning) :
    Tunes (network.obstacle? steps) steps (network.tuneAll steps).outcome
      (network.tuneAll steps).journal := by
  induction steps generalizing network with
  | nil => exact .whole fun index => rfl
  | cons step steps ih =>
    have first := network.obstacle?_zero step steps
    have rest := network.obstacle?_succ step steps
    rw [tuneAll]
    generalize network.tune step.option = tuned at first rest ⊢
    obtain ⟨reply, later⟩ := tuned
    cases reply with
    | some error =>
      have found : (step :: steps)[0]? = some step := rfl
      exact .blocked found (fun _ less => absurd less (Nat.not_lt_zero _)) first
    | none =>
      have tunes := ih later
      dsimp only [Run.prepend]
      generalize later.tuneAll steps = run at tunes ⊢
      obtain ⟨outcome, state, journal⟩ := run
      cases tunes with
      | whole clear =>
        refine .whole fun index => ?_
        cases index with
        | zero => exact first
        | succ index => exact (rest index).trans (clear index)
      | @blocked index _ _ found clear meets =>
        have found' : (step :: steps)[index + 1]? = some _ := found
        refine .blocked found' (fun earlier less => ?_) ((rest index).trans meets)
        cases earlier with
        | zero => exact first
        | succ earlier => exact (rest earlier).trans (clear earlier (Nat.lt_of_succ_lt_succ less))

/-- Setting options makes no attempt to connect. -/
theorem dials_tuneAll (network : Network) (steps : List Tuning) :
    (network.tuneAll steps).state.dials = network.dials := by
  induction steps generalizing network with
  | nil => rfl
  | cons step steps ih =>
    have kept : (network.tune step.option).2.dials = network.dials := rfl
    rw [tuneAll]
    generalize network.tune step.option = tuned at kept ⊢
    obtain ⟨reply, later⟩ := tuned
    cases reply with
    | some error => exact kept
    | none => exact (ih later).trans kept

/-- What becomes of the attempt to connect that follows so many others. -/
def fate (network : Network) (earlier : Nat) : DialReply :=
  network.dials[earlier]?.getD (.refused connectionRefused)

/-- The network that so many attempts to connect leave. -/
def dialed (network : Network) (count : Nat) : Network :=
  { network with dials := network.dials.drop count }

/-- An attempt to connect meets the next fate and is used up. -/
theorem dial_eq (network : Network) : network.dial = (network.fate 0, network.dialed 1) := by
  obtain ⟨lookups, describe, dials, optionFailure, tuned⟩ := network
  cases dials <;> rfl

/-- After some attempts, each later one is counted from there. -/
theorem fate_dialed (network : Network) (count earlier : Nat) :
    (network.dialed count).fate earlier = network.fate (count + earlier) := by
  rw [fate, dialed, List.getElem?_drop, fate]

/-- Attempts that are made one after another are used up together. -/
theorem dialed_dialed (network : Network) (first second : Nat) :
    (network.dialed first).dialed second = network.dialed (first + second) := by
  simp only [dialed, List.drop_drop]

/-- What happens of an attempt that is followed by another, and up to that one. -/
def redialed (endpoint : Endpoint) (plan : DialPlan) (attempt : Nat) : DialReply → Journal
  | .refused error =>
    [.dialed endpoint, redial endpoint attempt plan.attempts error, .slept plan.delay]
  | .noSocket _ | .accepted .. => []

/-- What the last attempt comes to, on the network that it leaves. -/
def lastDial (endpoint : Endpoint) (attempt : Nat) (later : Network) :
    DialReply → Run Network Dialed
  | .noSocket error => ⟨.failed (.transport error), later, []⟩
  | .refused error =>
    ⟨.failed (.connect (.ipv4 endpoint) attempt error), later, [.dialed endpoint]⟩
  | .accepted inbound peerFailure closeFailure =>
    ⟨.ok ⟨transport endpoint inbound peerFailure closeFailure, attempt⟩, later,
      [.dialed endpoint, .connected]⟩

section

variable {endpoint : Endpoint} {plan : DialPlan} {network : Network} {more : Nat}

/-- An attempt is the last when it is not refused, or when there are no more. -/
theorem dialUntil_last (last : 0 < more → ∀ error, network.fate 0 ≠ .refused error) :
    dialUntil endpoint plan network more =
      lastDial endpoint (plan.attempts - more) (network.dialed 1) (network.fate 0) := by
  rw [dialUntil.eq_def, dial_eq]
  cases replied : network.fate 0 with
  | noSocket error => rfl
  | accepted inbound peerFailure closeFailure => rfl
  | refused error =>
    obtain rfl : more = 0 := Nat.eq_zero_of_not_pos fun positive => last positive error replied
    rfl

/-- A refused attempt is followed by a pause and by the attempts there are still. -/
theorem dialUntil_refused {error : SystemError} (refused : network.fate 0 = .refused error) :
    dialUntil endpoint plan network (more + 1) =
      (dialUntil endpoint plan (network.dialed 1) more).prepend
        (redialed endpoint plan (plan.attempts - (more + 1)) (network.fate 0)) := by
  rw [dialUntil, dial_eq, refused]
  rfl

end

/-- What a run of attempts comes to, by the count of those that another follows. -/
structure Dials (endpoint : Endpoint) (plan : DialPlan) (network : Network) (more retried : Nat)
    (run : Run Network Dialed) : Prop where
  /-- No more attempts are followed by another than there may be. -/
  within : retried ≤ more
  /-- Each of these is refused. -/
  refused : ∀ earlier < retried, ∃ error, network.fate earlier = .refused error
  /-- The last one is refused only where no attempt is left. -/
  last : retried < more → ∀ error, network.fate retried ≠ .refused error
  /-- The run comes to what the last one does, behind what happens of the others. -/
  run : run = (lastDial endpoint (plan.attempts - (more - retried)) (network.dialed (retried + 1))
    (network.fate retried)).prepend ((List.range retried).flatMap fun earlier =>
      redialed endpoint plan (plan.attempts - (more - earlier)) (network.fate earlier))

/-- Attempts are made until one is not refused or there are no more. On the network that the first
leaves, every other is counted one lower. -/
theorem dials_dialUntil (endpoint : Endpoint) (plan : DialPlan) (network : Network) (more : Nat) :
    ∃ retried, Dials endpoint plan network more retried
      (dialUntil endpoint plan network more) := by
  induction more generalizing network with
  | zero =>
    have last : 0 < 0 → ∀ error, network.fate 0 ≠ .refused error :=
      fun more => absurd more (Nat.lt_irrefl 0)
    exact ⟨0, Nat.le_refl 0, fun _ less => absurd less (Nat.not_lt_zero _), last,
      dialUntil_last last⟩
  | succ more ih =>
    by_cases again : ∃ error, network.fate 0 = .refused error
    · obtain ⟨error, refused⟩ := again
      obtain ⟨retried, dials⟩ := ih (network.dialed 1)
      have shift : ∀ earlier, (network.dialed 1).fate earlier = network.fate (earlier + 1) :=
        fun earlier => by rw [fate_dialed, Nat.add_comm]
      refine ⟨retried + 1, Nat.succ_le_succ dials.within, ?_, ?_, ?_⟩
      · intro earlier less
        cases earlier with
        | zero => exact ⟨error, refused⟩
        | succ earlier =>
          rw [← shift]
          exact dials.refused earlier (Nat.lt_of_succ_lt_succ less)
      · intro less
        rw [← shift]
        exact dials.last (Nat.lt_of_succ_lt_succ less)
      · rw [dialUntil_refused refused, dials.run, List.range_succ_eq_map, List.flatMap_cons,
          List.flatMap_map, dialed_dialed, Nat.add_comm 1 (retried + 1)]
        simp only [shift, Nat.succ_eq_add_one, Nat.add_sub_add_right, Run.prepend,
          List.append_assoc, Nat.sub_zero]
    · have last : 0 < more + 1 → ∀ error, network.fate 0 ≠ .refused error :=
        fun _ error refused => again ⟨error, refused⟩
      exact ⟨0, Nat.zero_le _, fun _ less => absurd less (Nat.not_lt_zero _), last,
        dialUntil_last last⟩

/-- How connecting ends from its last attempt on: by the number of that attempt and what becomes of
it, what connecting comes to and what it does. -/
inductive Ends (network : Network) (endpoint : Endpoint) (settings : Settings) (attempt : Nat) :
    DialReply → Outcome Link → Journal → Prop
  /-- Without a socket there is no attempt. -/
  | noSocket {error : SystemError} :
    Ends network endpoint settings attempt (.noSocket error) (.failed (.transport error)) []
  /-- No attempt is left. -/
  | refused {error : SystemError} (last : attempt = max settings.dial.attempts 1) :
    Ends network endpoint settings attempt (.refused error)
      (.failed (.connect (.ipv4 endpoint) attempt error)) [.dialed endpoint]
  /-- An option of the socket cannot be set. -/
  | untuned {inbound : Inbound} {peerFailure closeFailure : Option SystemError}
    {failure : LinkError} {options : Journal}
    (tunes : Tunes (network.obstacle? (Tuning.steps settings.socket))
      (Tuning.steps settings.socket) (.failed failure) options) :
    Ends network endpoint settings attempt (.accepted inbound peerFailure closeFailure)
      (.failed failure) ([.dialed endpoint, .connected] ++ options)
  /-- There is a link. -/
  | linked {inbound : Inbound} {peerFailure closeFailure : Option SystemError} {options : Journal}
    (tunes : Tunes (network.obstacle? (Tuning.steps settings.socket))
      (Tuning.steps settings.socket) (.ok ()) options) :
    Ends network endpoint settings attempt (.accepted inbound peerFailure closeFailure)
      (.ok { transport := transport endpoint inbound peerFailure closeFailure, settings })
      ([.dialed endpoint, .connected] ++ options ++
        [.noted (.event .connect .debug "connected" [("attempts", .number attempt)])])

/-- After the last attempt, the options of the socket are set if there is one. -/
def closing (endpoint : Endpoint) (settings : Settings) (attempt : Nat) (later : Network)
    (reply : DialReply) : Run Network Link :=
  (lastDial endpoint attempt later reply).andThen id fun dialed later =>
    finishLink settings later dialed

/-- What is done from the last attempt on is one of the ends of connecting. -/
theorem ends_closing {network later : Network} {settings : Settings} {attempt : Nat}
    {reply : DialReply} (endpoint : Endpoint)
    (same : later.obstacle? (Tuning.steps settings.socket) =
      network.obstacle? (Tuning.steps settings.socket))
    (last : ∀ error, reply = .refused error → attempt = max settings.dial.attempts 1) :
    Ends network endpoint settings attempt reply
      (closing endpoint settings attempt later reply).outcome
      (closing endpoint settings attempt later reply).journal := by
  cases reply with
  | noSocket error => exact .noSocket
  | refused error => exact .refused (last error rfl)
  | accepted inbound peerFailure closeFailure =>
    have tunes := later.tunes_tuneAll (Tuning.steps settings.socket)
    rw [same] at tunes
    simp only [closing, lastDial, Run.andThen, finishLink, Run.prepend]
    generalize later.tuneAll (Tuning.steps settings.socket) = run at tunes ⊢
    obtain ⟨outcome, state, journal⟩ := run
    cases outcome with
    | ok value => exact .linked tunes
    | failed failure => exact .untuned tunes
    | fault => cases tunes
    | waiting => cases tunes

/-- Finishing a connection makes no attempt to connect. -/
theorem dials_closing (endpoint : Endpoint) (settings : Settings) (attempt : Nat)
    (later : Network) (reply : DialReply) :
    (closing endpoint settings attempt later reply).state.dials = later.dials := by
  cases reply with
  | noSocket error => rfl
  | refused error => rfl
  | accepted inbound peerFailure closeFailure =>
    have kept := later.dials_tuneAll (Tuning.steps settings.socket)
    simp only [closing, lastDial, Run.andThen, finishLink, Run.prepend]
    generalize later.tuneAll (Tuning.steps settings.socket) = run at kept ⊢
    obtain ⟨outcome, state, journal⟩ := run
    cases outcome <;> exact kept

/-- What happens before the last attempt. -/
def redials (endpoint : Endpoint) (plan : DialPlan) (network : Network) (retried : Nat) :
    Journal :=
  (List.range retried).flatMap fun earlier =>
    redialed endpoint plan (earlier + 1) (network.fate earlier)

/-- Reaching an endpoint makes attempts until one is not refused or there are no more. -/
theorem reach_eq (endpoint : Endpoint) (settings : Settings) (network : Network) :
    ∃ retried < max settings.dial.attempts 1,
      (∀ earlier < retried, ∃ error, network.fate earlier = .refused error) ∧
      (∀ error, network.fate retried = .refused error →
        retried + 1 = max settings.dial.attempts 1) ∧
      reach endpoint settings network =
        (closing endpoint settings (retried + 1) (network.dialed (retried + 1))
          (network.fate retried)).prepend
          (redials endpoint settings.dial.atLeastOnce network retried) := by
  obtain ⟨retried, dials⟩ := dials_dialUntil endpoint settings.dial.atLeastOnce network
    (settings.dial.atLeastOnce.attempts - 1)
  have plan : settings.dial.atLeastOnce.attempts = max settings.dial.attempts 1 := rfl
  have within := dials.within
  have number : ∀ earlier ≤ retried, settings.dial.atLeastOnce.attempts -
      (settings.dial.atLeastOnce.attempts - 1 - earlier) = earlier + 1 := by
    omega
  refine ⟨retried, by omega, dials.refused, fun error refused => ?_, ?_⟩
  · have least : ¬ retried + 1 < max settings.dial.attempts 1 := fun more =>
      dials.last (by omega) error refused
    omega
  · have before : (List.range retried).flatMap (fun earlier =>
        redialed endpoint settings.dial.atLeastOnce (settings.dial.atLeastOnce.attempts -
          (settings.dial.atLeastOnce.attempts - 1 - earlier)) (network.fate earlier)) =
        redials endpoint settings.dial.atLeastOnce network retried :=
      List.flatMap_congr fun earlier member => by
        rw [number earlier (Nat.le_of_lt (List.mem_range.mp member))]
    rw [reach, dialAll, dials.run, Run.andThen_prepend, before, number retried (Nat.le_refl _)]
    rfl

/-- Resolving asks one question at most. -/
theorem Asks.questions {network : Network} {run : Run Network Endpoint} (asks : Asks network run) :
    run.journal.questions.length ≤ 1 := by
  rcases asks.journal with asked | ⟨question, asked⟩ <;> simp [asked, Journal.questions]

/-- Setting options is no step. -/
theorem course_tunes {obstacle : Nat → Option SystemError} {steps : List Tuning}
    {outcome : Outcome Unit} {options : Journal}
    (tunes : Tunes obstacle steps outcome options) : options.course = [] := by
  refine List.filter_eq_nil_iff.mpr fun effect member => ?_
  obtain ⟨step, -, rfl⟩ : ∃ step ∈ steps, Tuning.effect step = effect := by
    cases tunes with
    | whole clear => exact List.mem_map.mp member
    | blocked found clear meets =>
      obtain ⟨step, taken, same⟩ := List.mem_map.mp member
      exact ⟨step, List.mem_of_mem_take taken, same⟩
  exact Bool.false_ne_true

/-- From the last attempt on, that attempt is the only step. -/
theorem course_ends {network : Network} {endpoint : Endpoint} {settings : Settings}
    {attempt : Nat} {reply : DialReply} {outcome : Outcome Link} {closing : Journal}
    (ends : Ends network endpoint settings attempt reply outcome closing) :
    closing.course = List.replicate reply.calls (.dialed endpoint) := by
  cases ends with
  | noSocket => rfl
  | refused last => rfl
  | untuned tunes =>
    rw [Journal.reader_course.append, course_tunes tunes]
    rfl
  | linked tunes =>
    rw [Journal.reader_course.append, Journal.reader_course.append, course_tunes tunes]
    rfl

/-- Where the same is read of each refused attempt, it is read as often as there are some. -/
theorem read_redials {α : Type} {read : Journal → List α} {shown : List α} {endpoint : Endpoint}
    {plan : DialPlan} {network : Network} {retried : Nat} (reader : Journal.Reader read)
    (refused : ∀ earlier < retried, ∃ error, network.fate earlier = .refused error)
    (each : ∀ attempt error, read (redialed endpoint plan attempt (.refused error)) = shown) :
    read (redials endpoint plan network retried) = (List.replicate retried shown).flatten := by
  have same : ∀ earlier ∈ List.range retried,
      read (redialed endpoint plan (earlier + 1) (network.fate earlier)) = shown := by
    intro earlier member
    obtain ⟨error, turned⟩ := refused earlier (List.mem_range.mp member)
    rw [turned, each]
  rw [redials, reader.flatMap, List.flatMap_congr same, List.flatMap_def, List.map_const',
    List.length_range]

/-! What connecting shows where it asked for an endpoint, made attempts that others follow, and
closed with a last one. -/

section

variable {endpoint : Endpoint} {settings : Settings} {network : Network} {retried called : Nat}
  {resolved : Run Network Endpoint} {closed journal : Journal} {given recorded : Fields}
  (refused : ∀ earlier < retried, ∃ error, network.fate earlier = .refused error)
  (closes : closed.course = List.replicate called (.dialed endpoint))
  (whole : journal = settings.tracing.opening .connect given ++ resolved.journal ++
    [.noted (.recorded .connect recorded)] ++
    redials endpoint settings.dial.atLeastOnce network retried ++ closed ++
    settings.tracing.timing .connect)
include refused closes whole

/-- A reader of steps reads those of resolving, then the same of each refused attempt, and then the
last attempt. -/
theorem read_connected {α : Type} {read : Journal → List α} {shown : List α}
    (reader : Journal.StepReader read)
    (each : ∀ attempt error,
      read (redialed endpoint settings.dial.atLeastOnce attempt (.refused error)) = shown) :
    read journal = read resolved.journal ++ (List.replicate retried shown).flatten ++
      (List.replicate called (read [.dialed endpoint])).flatten := by
  have opening := reader.unread (settings.tracing.course_opening .connect given)
  have timing := reader.unread (settings.tracing.course_timing .connect)
  have reported : read [.noted (.recorded .connect recorded)] = [] := reader.overlooks _ rfl
  have last : read closed = (List.replicate called (read [.dialed endpoint])).flatten := by
    rw [← reader.course, closes, reader.replicate]
  rw [whole]
  simp only [reader.append, opening, timing, reported, last,
    read_redials reader.toReader refused each, List.nil_append, List.append_nil]

/-- Connecting asks what resolving asks. It dials the endpoint at each attempt, and pauses and warns
after each but the last. -/
theorem connected_steps (asks : Asks network resolved) :
    journal.questions = resolved.journal.questions ∧
      journal.dials = List.replicate (retried + called) endpoint ∧
      journal.pauses = List.replicate retried settings.dial.delay ∧
      journal.warnings = retried := by
  have questions : journal.questions = resolved.journal.questions ++
      (List.replicate retried []).flatten ++ (List.replicate called []).flatten :=
    read_connected refused closes whole Journal.stepReader_questions fun _ _ => rfl
  have dials : journal.dials = resolved.journal.dials ++
      (List.replicate retried [endpoint]).flatten ++ (List.replicate called [endpoint]).flatten :=
    read_connected refused closes whole Journal.stepReader_dials fun _ _ => rfl
  have pauses : journal.pauses = resolved.journal.pauses ++
      (List.replicate retried [settings.dial.delay]).flatten ++
      (List.replicate called []).flatten :=
    read_connected refused closes whole Journal.stepReader_pauses fun _ _ => rfl
  have marks : journal.marks = resolved.journal.marks ++
      (List.replicate retried [()]).flatten ++ (List.replicate called []).flatten :=
    read_connected refused closes whole Journal.stepReader_marks fun _ _ => rfl
  rw [asks.unread Journal.stepReader_dials.toReader fun _ => rfl] at dials
  rw [asks.unread Journal.stepReader_pauses.toReader fun _ => rfl] at pauses
  rw [asks.unread Journal.stepReader_marks.toReader fun _ => rfl] at marks
  simp only [List.flatten_replicate_nil, List.flatten_replicate_singleton, List.append_nil,
    List.nil_append, List.replicate_append_replicate] at questions dials pauses marks
  refine ⟨questions, dials, pauses, ?_⟩
  rw [← Journal.length_marks, marks, List.length_replicate]

end

section

variable {network : Network} {host port : String} {settings : Settings}

/-- Where resolving fails, connecting fails at once. -/
theorem connect_unresolved {error : LinkError}
    (lost : (network.resolve host port).outcome = .failed error) :
    network.connect host port settings =
      ⟨.failed error, (network.resolve host port).state,
        settings.tracing.opening .connect
          [("agent.host", .text host), ("agent.port", .text port)] ++
        (network.resolve host port).journal ++ settings.tracing.timing .connect⟩ := by
  simp only [connect, Run.andThen, lost]
  rfl

/-- Where resolving fails, connecting takes no steps but those of resolving. -/
theorem read_unresolved {error : LinkError} {α : Type} {read : Journal → List α}
    (reader : Journal.StepReader read)
    (lost : (network.resolve host port).outcome = .failed error) :
    read (network.connect host port settings).journal =
      read (network.resolve host port).journal := by
  have opening := reader.unread (settings.tracing.course_opening .connect
    [("agent.host", .text host), ("agent.port", .text port)])
  have timing := reader.unread (settings.tracing.course_timing .connect)
  simp only [connect_unresolved lost, reader.append, opening, timing, List.nil_append,
    List.append_nil]

/-- Where resolving does not fail, connecting makes attempts to reach the endpoint. They, and the
options, take no notice of how many answers of the resolver are left. -/
theorem connect_resolved {endpoint : Endpoint} (settings : Settings)
    (found : (network.resolve host port).outcome = .ok endpoint) :
    ∃ retried < max settings.dial.attempts 1,
      (∀ earlier < retried, ∃ error, network.fate earlier = .refused error) ∧
      ∃ closed : Run Network Link,
        Ends network endpoint settings (retried + 1) (network.fate retried) closed.outcome
          closed.journal ∧
        closed.state.dials = network.dials.drop (retried + 1) ∧
        network.connect host port settings =
          ⟨closed.outcome, closed.state,
            settings.tracing.opening .connect
              [("agent.host", .text host), ("agent.port", .text port)] ++
            (network.resolve host port).journal ++
            [.noted (.recorded .connect [("peer.addr", .text endpoint.text)])] ++
            redials endpoint settings.dial.atLeastOnce network retried ++ closed.journal ++
            settings.tracing.timing .connect⟩ := by
  obtain ⟨lookups, left⟩ := (network.asks_resolve host port).state
  obtain ⟨retried, within, refused, last, reached⟩ :=
    reach_eq endpoint settings { network with lookups }
  let later := ({ network with lookups } : Network).dialed (retried + 1)
  let closed := closing endpoint settings (retried + 1) later (network.fate retried)
  refine ⟨retried, within, refused, closed, ends_closing endpoint rfl last,
    dials_closing endpoint settings (retried + 1) later (network.fate retried), ?_⟩
  simp only [connect, Run.andThen_ok found, left, reached, Run.prepend, Run.append,
    ← List.append_assoc]
  rfl

end

/-- Connecting resolves once at most, and fails with the error of resolving before any attempt. To
the endpoint that was resolved it makes at least one attempt and at most as many as the plan allows.
All but the last are refused, and each of these is followed by a warning and one pause. The last is
refused only where no attempt is left; what becomes of it is how connecting ends, and no other
attempt is made. -/
theorem connect_attempts (network : Network) (host port : String) (settings : Settings) :
    let resolved := network.resolve host port
    let run := network.connect host port settings
    let opening := settings.tracing.opening .connect
      [("agent.host", .text host), ("agent.port", .text port)]
    let timing := settings.tracing.timing .connect
    run.journal.questions = resolved.journal.questions ∧ run.journal.questions.length ≤ 1 ∧
    ((∃ error, resolved.outcome = .failed error ∧
        run = ⟨.failed error, resolved.state, opening ++ resolved.journal ++ timing⟩ ∧
        run.journal.dials = [] ∧ run.journal.pauses = [] ∧ run.journal.warnings = 0) ∨
      ∃ endpoint, resolved.outcome = .ok endpoint ∧
        ∃ retried < max settings.dial.attempts 1,
          (∀ earlier < retried, ∃ error, network.fate earlier = .refused error) ∧
          (∃ ending, Ends network endpoint settings (retried + 1) (network.fate retried)
              run.outcome ending ∧
            run.journal = opening ++ resolved.journal ++
              [.noted (.recorded .connect [("peer.addr", .text endpoint.text)])] ++
              redials endpoint settings.dial.atLeastOnce network retried ++ ending ++ timing) ∧
          run.state.dials = network.dials.drop (retried + 1) ∧
          run.journal.dials = List.replicate (retried + (network.fate retried).calls) endpoint ∧
          run.journal.pauses = List.replicate retried settings.dial.delay ∧
          run.journal.elapsed = ⟨retried * settings.dial.delay.nanoseconds⟩ ∧
          run.journal.warnings = retried) := by
  intro resolved run opening timing
  have asks : Asks network resolved := network.asks_resolve host port
  rcases asks.outcome with ⟨endpoint, found⟩ | ⟨error, lost⟩
  case inr =>
    have questions : run.journal.questions = resolved.journal.questions :=
      read_unresolved Journal.stepReader_questions lost
    have dials : run.journal.dials = [] := (read_unresolved Journal.stepReader_dials lost).trans
      (asks.unread Journal.stepReader_dials.toReader fun _ => rfl)
    have pauses : run.journal.pauses = [] := (read_unresolved Journal.stepReader_pauses lost).trans
      (asks.unread Journal.stepReader_pauses.toReader fun _ => rfl)
    have marks : run.journal.marks = [] := (read_unresolved Journal.stepReader_marks lost).trans
      (asks.unread Journal.stepReader_marks.toReader fun _ => rfl)
    refine ⟨questions, questions ▸ asks.questions, .inl ⟨error, lost, connect_unresolved lost,
      dials, pauses, ?_⟩⟩
    rw [← Journal.length_marks, marks, List.length_nil]
  case inl =>
    obtain ⟨retried, within, refused, closed, ends, used, same⟩ :=
      connect_resolved settings found
    obtain ⟨questions, dials, pauses, warnings⟩ :=
      connected_steps refused (course_ends ends) (congrArg Run.journal same) asks
    refine ⟨questions, questions ▸ asks.questions, .inr ⟨endpoint, found, retried, within,
      refused, ⟨closed.journal, ?_, congrArg Run.journal same⟩, ?_, dials, pauses, ?_, warnings⟩⟩
    · simpa only [run, same] using ends
    · simpa only [run, same] using used
    · rw [Journal.elapsed, pauses, Duration.sum_replicate]

/-- The second of three attempts finds no socket. -/
example :
    let run := connect { dials := [.refused (.numbered 111), .noSocket (.numbered 24)] }
      "10.0.0.7" "5000" { dial := ⟨3, .ofSeconds 2⟩ }
    run.outcome.map (·.pending) = .failed (.transport (.numbered 24)) ∧
      run.journal.elapsed = .ofSeconds 2 := by
  constructor <;> cbv

end Network

end AgentLink
