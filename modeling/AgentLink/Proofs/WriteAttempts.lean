import AgentLink.Proofs.Sending

/-!
# The write attempts of a send

A send is a sequence of write attempts. Each is given what the earlier ones left, and what becomes
of it is the outlet's answer to just that. An attempt that took a byte, and one that blocked, may
be followed by another; any other attempt ends the send at once with its own failure. A send that
fails does so as its last attempt says (`WriteAttempt.Fails`); where its budget ran out it reports
what it was given, what it still holds and the error of that attempt. `Outlet.Transcript` says this
of a run, the loop of writes keeps it (`transcript_writeAll`), and `Link.send_attempts` is what it
means for a send.
-/
namespace AgentLink

/-- What became of a write attempt. -/
inductive WriteAttempt where
  /-- It took these bytes. -/
  | took (bytes : Bytes)
  /-- It failed. -/
  | failed (error : SystemError)
deriving Repr, DecidableEq

namespace WriteAttempt

/-- The bytes that an attempt put on the wire. -/
def bytes : WriteAttempt → Bytes
  | took bytes => bytes
  | failed _ => []

/-- The bytes that some attempts put on the wire. -/
def wire (attempts : List WriteAttempt) : Bytes := attempts.flatMap bytes

/-- The first attempt puts its bytes on the wire before the others. -/
@[simp] theorem wire_cons (attempt : WriteAttempt) (later : List WriteAttempt) :
    wire (attempt :: later) = attempt.bytes ++ wire later := rfl

/-- The failure with which an attempt ends a send at once, if it does. -/
def fatal? : WriteAttempt → Option LinkError
  | took [] => some Outlet.nothingTaken
  | took (_ :: _) => none
  | failed error => if error.isBlocked then none else some (.transport error)

/-- How a send fails at its last attempt, with so many of all its bytes left. -/
inductive Fails (total remaining : Nat) : WriteAttempt → LinkError → Prop
  /-- The attempt took nothing. -/
  | nothing : Fails total remaining (.took []) (.transport (.plain .writeZero))
  /-- It failed without having blocked. -/
  | hard {error : SystemError} (hard : error.isBlocked = false) :
    Fails total remaining (.failed error) (.transport error)
  /-- It blocked, and the budget allows for no more. -/
  | exhausted {error : SystemError} (blocked : error.isBlocked = true) :
    Fails total remaining (.failed error) (.sendExhausted total remaining error)

/-- The last attempt of a send that fails takes nothing. -/
theorem Fails.bytes_eq_nil {total remaining : Nat} {attempt : WriteAttempt} {error : LinkError}
    (fails : attempt.Fails total remaining error) : attempt.bytes = [] := by
  cases fails <;> rfl

/-- A send fails as an attempt says that ends it at once. -/
theorem Fails.eq_of_fatal {total remaining : Nat} {attempt : WriteAttempt}
    {error cause : LinkError} (fails : attempt.Fails total remaining error)
    (fatal : attempt.fatal? = some cause) : cause = error := by
  cases fails with
  | nothing => exact (Option.some.inj fatal).symm
  | hard hard =>
    simp only [fatal?, hard, Bool.false_eq_true, ↓reduceIte] at fatal
    exact (Option.some.inj fatal).symm
  | exhausted blocked => simp [fatal?, blocked] at fatal

end WriteAttempt

/-- What an attempt to write some bytes comes to. -/
def WriteReply.attempt (reply : WriteReply) (left : Bytes) : WriteAttempt :=
  match reply with
  | accept limit => .took (Outlet.taken limit left)
  | refuse error => .failed error

namespace Journal

/-- The write attempts, in order. -/
def attempts (journal : Journal) : List WriteAttempt :=
  journal.filterMap fun
    | .wrote bytes => some (.took bytes)
    | .writeFailed error => some (.failed error)
    | _ => none

/-- The write attempts are read of a journal. -/
theorem reader_attempts : Reader attempts := reader_filterMap _

/-- The bytes on the wire are those that the attempts took. -/
theorem wire_attempts (journal : Journal) :
    WriteAttempt.wire journal.attempts = journal.written := by
  induction journal with
  | nil => rfl
  | cons effect rest ih =>
    cases effect with
    | wrote bytes => exact congrArg (bytes ++ ·) ih
    | _ => exact ih

end Journal

namespace Outlet

/-- An outlet has made one more attempt after the next. -/
@[simp] theorem attempts_advance (outlet : Outlet) :
    outlet.advance.attempts = outlet.attempts + 1 := rfl

/-- What the attempts of a run say of the outlet they were made on. -/
structure Transcript (outlet : Outlet) (left : Bytes) (total : Nat) (run : Run Outlet Unit) :
    Prop where
  /-- An attempt is the outlet's answer to what the earlier attempts left. -/
  answered : ∀ before attempt after, run.journal.attempts = before ++ attempt :: after →
    attempt = (outlet.reply (outlet.attempts + before.length)).attempt
      (left.drop (WriteAttempt.wire before).length)
  /-- An attempt that ends the send is the last one, and the send ends as it says. -/
  fatal : ∀ before attempt after, run.journal.attempts = before ++ attempt :: after →
    ∀ error, attempt.fatal? = some error → after = [] ∧ run.outcome = .failed error
  /-- A send that fails does so as its last attempt says. -/
  fails : ∀ error, run.outcome = .failed error → ∃ before last remaining,
    run.journal.attempts = before ++ [last] ∧
      remaining + run.journal.written.length = left.length ∧ last.Fails total remaining error
  /-- The outlet has answered so many attempts more. -/
  state : run.state = { outlet with attempts := outlet.attempts + run.journal.attempts.length }
  /-- A send ends with success or a failure. -/
  ends : run.outcome = .ok () ∨ ∃ error, run.outcome = .failed error

namespace Transcript

variable {outlet : Outlet} {left : Bytes} {total : Nat} {run : Run Outlet Unit}
  {attempt : WriteAttempt} {error : LinkError}

/-- A run that fails at its one attempt. -/
theorem single (answer : outlet.next.attempt left = attempt)
    (journal : run.journal.attempts = [attempt]) (state : run.state = outlet.advance)
    (outcome : run.outcome = .failed error) (fails : attempt.Fails total left.length error) :
    outlet.Transcript left total run := by
  have only : ∀ before other after, run.journal.attempts = before ++ other :: after →
      before = [] ∧ other = attempt ∧ after = [] := by
    intro before other after split
    rw [journal] at split
    rcases List.append_eq_singleton_iff.mp split.symm with ⟨none, rest⟩ | ⟨-, none⟩
    · obtain ⟨same, last⟩ := List.cons.inj rest
      exact ⟨none, same, last⟩
    · exact absurd none (List.cons_ne_nil _ _)
  have nothing : run.journal.written = [] := by
    rw [← Journal.wire_attempts, journal, WriteAttempt.wire_cons, fails.bytes_eq_nil]
    rfl
  refine ⟨?_, ?_, ?_, ?_, .inr ⟨error, outcome⟩⟩
  · intro before other after split
    obtain ⟨rfl, rfl, -⟩ := only before other after split
    exact answer.symm
  · intro before other after split cause ends
    obtain ⟨-, rfl, rfl⟩ := only before other after split
    exact ⟨rfl, by rw [outcome, fails.eq_of_fatal ends]⟩
  · intro cause failed
    rw [outcome] at failed
    obtain rfl := Outcome.failed.inj failed
    exact ⟨[], attempt, left.length, journal, by rw [nothing, List.length_nil, Nat.add_zero],
      fails⟩
  · rw [state, journal]
    rfl

/-- A run that goes on after an attempt. -/
theorem prepend {earlier : Journal}
    (later : outlet.advance.Transcript (left.drop attempt.bytes.length) total run)
    (answer : outlet.next.attempt left = attempt) (journal : earlier.attempts = [attempt])
    (harmless : attempt.fatal? = none) (fits : attempt.bytes.length ≤ left.length) :
    outlet.Transcript left total (run.prepend earlier) := by
  have attempts : (run.prepend earlier).journal.attempts = attempt :: run.journal.attempts := by
    rw [Run.prepend, Journal.reader_attempts.append, journal, List.singleton_append]
  refine ⟨?_, ?_, ?_, ?_, later.ends⟩
  · intro before other after split
    rw [attempts] at split
    cases before with
    | nil =>
      obtain ⟨rfl, -⟩ := List.cons.inj split
      exact answer.symm
    | cons first before =>
      obtain ⟨rfl, rest⟩ := List.cons.inj split
      have given := later.answered before other after rest
      have index : outlet.attempts + (attempt :: before).length =
          outlet.advance.attempts + before.length := by
        rw [List.length_cons, attempts_advance]
        omega
      rw [given, List.drop_drop, index, WriteAttempt.wire_cons, List.length_append]
      rfl
  · intro before other after split cause ends
    rw [attempts] at split
    cases before with
    | nil =>
      obtain ⟨rfl, -⟩ := List.cons.inj split
      rw [harmless] at ends
      contradiction
    | cons first before => exact later.fatal before other after (List.cons.inj split).2 cause ends
  · intro cause failed
    obtain ⟨before, last, remaining, split, remains, fails⟩ := later.fails cause failed
    have whole : (run.prepend earlier).journal.attempts = attempt :: before ++ [last] := by
      rw [attempts, split, List.cons_append]
    refine ⟨attempt :: before, last, remaining, whole, ?_, fails⟩
    rw [List.length_drop, ← Journal.wire_attempts] at remains
    rw [← Journal.wire_attempts, attempts, WriteAttempt.wire_cons, List.length_append]
    omega
  · have count : outlet.advance.attempts + run.journal.attempts.length =
        outlet.attempts + (attempt :: run.journal.attempts).length := by
      rw [List.length_cons, attempts_advance]
      omega
    rw [attempts, ← count]
    exact later.state

end Transcript

/-- A write takes no more than it is given. -/
theorem length_taken_le (limit : Option Nat) (left : Bytes) :
    (taken limit left).length ≤ left.length := by
  have split := congrArg List.length (taken_append_drop limit left)
  rw [List.length_append] at split
  omega

/-- The loop of writes keeps a transcript of its attempts. -/
theorem transcript_writeAll (budget : SendBudget) (total : Nat) (outlet : Outlet) (left : Bytes)
    (blocked : Nat) :
    outlet.Transcript left total (outlet.writeAll budget total left blocked) := by
  fun_induction writeAll budget total outlet left blocked with
  | case1 outlet left blocked empty =>
    have none : ∀ before attempt after, Journal.attempts [] ≠ before ++ attempt :: after := by
      intro before attempt after split
      exact List.append_ne_nil_of_right_ne_nil before (List.cons_ne_nil attempt after) split.symm
    refine ⟨?_, ?_, ?_, rfl, .inl rfl⟩
    · intro before attempt after split
      exact absurd split (none before attempt after)
    · intro before attempt after split
      exact absurd split (none before attempt after)
    · intro error failed
      contradiction
  | case2 outlet left blocked remains limit reply bytes nothing =>
    have answer : outlet.next.attempt left = .took [] := by
      rw [reply, WriteReply.attempt, ← List.isEmpty_iff.mp nothing]
    exact .single answer rfl rfl rfl .nothing
  | case3 outlet left blocked remains limit reply bytes some ih =>
    have answer : outlet.next.attempt left = .took bytes := by rw [reply]; rfl
    have progress : (WriteAttempt.took bytes).fatal? = none := by
      cases taken : bytes with
      | nil => simp [taken] at some
      | cons byte more => rfl
    exact ih.prepend answer rfl progress (length_taken_le limit left)
  | case4 outlet left blocked remains error reply refused =>
    have answer : outlet.next.attempt left = .failed error := by rw [reply]; rfl
    have hard : error.isBlocked = false := by simpa using refused
    exact .single answer rfl rfl rfl (.hard hard)
  | case5 outlet left blocked remains error reply waits exhausted =>
    have answer : outlet.next.attempt left = .failed error := by rw [reply]; rfl
    have blocks : error.isBlocked = true := by simpa using waits
    exact .single answer rfl rfl rfl (.exhausted blocks)
  | case6 outlet left blocked remains error reply waits more ih =>
    have answer : outlet.next.attempt left = .failed error := by rw [reply]; rfl
    have blocks : error.isBlocked = true := by simpa using waits
    have harmless : (WriteAttempt.failed error).fatal? = none := by
      simp [WriteAttempt.fatal?, blocks]
    exact ih.prepend answer rfl harmless (Nat.zero_le _)

end Outlet

/-- A send leaves an exact front of its data on the wire, whatever becomes of its attempts. Each
attempt is given what the earlier ones left. The send succeeds when the front is all of the data
and fails when it is not. A send that fails has made an attempt and fails as its last one says; a
budget that ran out is reported with the count of missing bytes and the blocked attempt it ran out
at. An attempt that took nothing, or failed without having blocked, is the last one. Only the outlet
of the link changes. -/
theorem Link.send_attempts (link : Link) (data : Bytes) :
    let run := link.send data
    let attempts := run.journal.attempts
    let written := run.journal.written
    let outlet := link.transport.outlet
    written = WriteAttempt.wire attempts ∧ written <+: data ∧
      (run.outcome = .ok () ∧ written = data ∨
        ∃ error, run.outcome = .failed error ∧ written ≠ data) ∧
      (∀ error, run.outcome = .failed error → ∃ before last, attempts = before ++ [last] ∧
        last.Fails data.length (data.length - written.length) error) ∧
      (∀ total remaining error, run.outcome = .failed (.sendExhausted total remaining error) →
        total = data.length ∧ remaining = data.length - written.length ∧ 0 < remaining ∧
          error.isBlocked = true ∧ ∃ before, attempts = before ++ [.failed error]) ∧
      (∀ before attempt after, attempts = before ++ attempt :: after →
        attempt = (outlet.reply (outlet.attempts + before.length)).attempt
            (data.drop (WriteAttempt.wire before).length) ∧
          (attempt = .took [] →
            after = [] ∧ run.outcome = .failed (.transport (.plain .writeZero))) ∧
          ∀ error, attempt = .failed error → error.isBlocked = false →
            after = [] ∧ run.outcome = .failed (.transport error)) ∧
      (data = [] → attempts = []) ∧
      run.state = { link with transport := { link.transport with
        outlet := { outlet with attempts := outlet.attempts + attempts.length } } } := by
  intro run attempts written outlet
  let loop := outlet.writeAll link.settings.send.atLeastOnce data.length data 0
  have transcript : outlet.Transcript data data.length loop := outlet.transcript_writeAll _ _ _ _
  have journal : attempts = loop.journal.attempts :=
    Journal.reader_attempts.send (fun _ => rfl) link data
  have put : written = loop.journal.written :=
    Journal.reader_written.send (fun _ => rfl) link data
  obtain ⟨missing, front, succeeds⟩ := link.fronts_send data
  have all : written = data ↔ missing = [] := by
    rw [front]
    simp [written, run]
  have proper : ∀ error, run.outcome = .failed error → written ≠ data := by
    intro error failed whole
    have succeeded : run.outcome.isOk = true := succeeds.mpr (all.mp whole)
    rw [failed] at succeeded
    contradiction
  have prefixed : written <+: data := ⟨missing, front.symm⟩
  have fails : ∀ error, run.outcome = .failed error → ∃ before last, attempts = before ++ [last] ∧
      last.Fails data.length (data.length - written.length) error := by
    intro error failed
    obtain ⟨before, last, remaining, split, remains, fails⟩ := transcript.fails error failed
    rw [← put] at remains
    have missing : remaining = data.length - written.length := by omega
    exact ⟨before, last, journal.trans split, missing ▸ fails⟩
  refine ⟨(Journal.wire_attempts _).symm, prefixed, ?_, fails, ?_, ?_, ?_, ?_⟩
  · rcases transcript.ends with succeeded | ⟨error, failed⟩
    · have succeeded : run.outcome = .ok () := succeeded
      exact .inl ⟨succeeded, all.mpr (succeeds.mp (by rw [succeeded]; rfl))⟩
    · exact .inr ⟨error, failed, proper error failed⟩
  · intro total remaining error failed
    have shorter : written.length < data.length :=
      Nat.lt_of_le_of_ne prefixed.length_le fun same =>
        proper _ failed (prefixed.eq_of_length same)
    obtain ⟨before, last, split, ends⟩ := fails _ failed
    cases ends with
    | exhausted blocked => exact ⟨rfl, rfl, Nat.sub_pos_of_lt shorter, blocked, before, split⟩
  · intro before attempt after split
    rw [journal] at split
    have fatal := transcript.fatal before attempt after split
    refine ⟨transcript.answered before attempt after split, ?_, ?_⟩
    · rintro rfl
      exact fatal _ rfl
    · rintro error rfl hard
      exact fatal _ (by simp [WriteAttempt.fatal?, hard])
  · rintro rfl
    rw [journal]
    simp only [loop]
    rw [Outlet.writeAll]
    rfl
  · have state := transcript.state
    rw [← journal] at state
    exact congrArg (fun after => { link with transport := { link.transport with outlet := after } })
      state

end AgentLink
