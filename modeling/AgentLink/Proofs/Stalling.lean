import AgentLink.Proofs.WriteAttempts

/-!
# Stalled agents and slow ones

A send gives up on an agent that has stalled and is patient with one that is merely slow. What
decides is how many attempts in a row have blocked; an attempt that takes a byte starts that count
again (`WriteAttempt.stalled`). `Outlet.tries` lists the attempts that an outlet would answer one
after another if nobody ever gave up, and so speaks of endless behaviours too. A send gives up
exactly where these come to as many blocked attempts in a row as the budget allows
(`decided_writeAll`), and otherwise goes on until all is written or an attempt fails. Every byte
allows for so many attempts and no more (`bounds_writeAll`). `Link.send_patience` is what this means
for a send.
-/
namespace AgentLink

namespace WriteAttempt

/-- Whether an attempt could not proceed without waiting. -/
def isBlocked : WriteAttempt → Bool
  | took _ => false
  | failed error => error.isBlocked

/-- How many attempts in a row have blocked at the end of some attempts, where so many had before
them. -/
def stalled (before : Nat) (attempts : List WriteAttempt) : Nat :=
  attempts.foldl (fun count attempt => if attempt.isBlocked then count + 1 else 0) before

/-- Without attempts, as many have blocked as before. -/
@[simp] theorem stalled_nil (before : Nat) : stalled before [] = before := rfl

/-- The first attempt counts before the later ones. -/
theorem stalled_cons (before : Nat) (attempt : WriteAttempt) (later : List WriteAttempt) :
    stalled before (attempt :: later) =
      stalled (if attempt.isBlocked then before + 1 else 0) later := rfl

/-- A last attempt that blocked counts one more, and any other starts the count again. -/
theorem stalled_concat (before : Nat) (earlier : List WriteAttempt) (attempt : WriteAttempt) :
    stalled before (earlier ++ [attempt]) =
      if attempt.isBlocked then stalled before earlier + 1 else 0 := by
  simp [stalled]

/-- So many attempts in a row have blocked where the last so many have. -/
theorem le_stalled_iff {most : Nat} {attempts : List WriteAttempt} :
    most ≤ stalled 0 attempts ↔ ∃ before blocked, attempts = before ++ blocked ∧
      blocked.length = most ∧ ∀ attempt ∈ blocked, attempt.isBlocked = true := by
  induction most generalizing attempts with
  | zero => exact iff_of_true (Nat.zero_le _) ⟨attempts, [], by simp⟩
  | succ most ih =>
    rcases List.eq_nil_or_concat attempts with rfl | ⟨earlier, last, rfl⟩
    · refine iff_of_false (Nat.not_succ_le_zero most) ?_
      rintro ⟨before, blocked, empty, length, -⟩
      simp [(List.append_eq_nil_iff.mp empty.symm).2] at length
    · rw [List.concat_eq_append, stalled_concat]
      constructor
      · intro long
        split at long
        · rename_i blocks
          obtain ⟨before, blocked, rfl, length, all⟩ := ih.mp (Nat.le_of_succ_le_succ long)
          refine ⟨before, blocked ++ [last], (List.append_assoc ..), by simp [length], ?_⟩
          simpa [or_imp, forall_and] using ⟨all, blocks⟩
        · contradiction
      · rintro ⟨before, blocked, split, length, all⟩
        obtain ⟨front, final, rfl⟩ : ∃ front final, blocked = front ++ [final] := by
          rcases List.eq_nil_or_concat blocked with rfl | ⟨front, final, rfl⟩
          · contradiction
          · exact ⟨front, final, List.concat_eq_append⟩
        rw [← List.append_assoc] at split
        obtain ⟨rfl, same⟩ := List.append_inj' split rfl
        obtain rfl := List.singleton_inj.mp same
        rw [if_pos (all last List.mem_concat_self)]
        refine Nat.succ_le_succ (ih.mpr ⟨before, front, rfl, by simpa using length, ?_⟩)
        exact fun attempt member => all attempt (List.mem_append_left _ member)

/-- An attempt that does not end a send took a byte or blocked. -/
theorem fatal?_eq_none {attempt : WriteAttempt} :
    attempt.fatal? = none ↔ attempt.bytes ≠ [] ∨ attempt.isBlocked = true := by
  cases attempt with
  | took bytes => cases bytes <;> simp [fatal?, WriteAttempt.bytes, isBlocked]
  | failed error =>
    cases blocks : error.isBlocked <;> simp [fatal?, WriteAttempt.bytes, isBlocked, blocks]

end WriteAttempt

/-- Whether a send gave up since its budget ran out. -/
def Outcome.isExhausted {α : Type} : Outcome α → Bool
  | .failed (.sendExhausted _ _ _) => true
  | .ok _ | .failed _ | .fault | .waiting => false

/-- The same pause some times over takes as often its time. -/
theorem Duration.sum_replicate (count : Nat) (pause : Duration) :
    Duration.sum (List.replicate count pause) = ⟨count * pause.nanoseconds⟩ := by
  induction count with
  | zero => simp [sum, zero]
  | succ count ih =>
    rw [List.replicate_succ, sum, List.foldr_cons, ← sum, ih, add, Nat.succ_mul, Nat.add_comm]

/-- What an attempt takes stands in front of what it leaves. -/
theorem WriteReply.bytes_attempt (reply : WriteReply) (left : Bytes) :
    (reply.attempt left).bytes ++ left.drop (reply.attempt left).bytes.length = left := by
  cases reply with
  | accept limit => exact Outlet.taken_append_drop limit left
  | refuse error => rfl

namespace Outlet

open WriteAttempt

/-- The next attempts to write some bytes, each given what the earlier ones left. -/
def tries (outlet : Outlet) (left : Bytes) : (count : Nat) → List WriteAttempt
  | 0 => []
  | count + 1 =>
    let attempt := outlet.next.attempt left
    attempt :: outlet.advance.tries (left.drop attempt.bytes.length) count

/-- What attempts put on the wire is the front of what they are made to write. -/
theorem wire_tries (outlet : Outlet) (left : Bytes) (count : Nat) :
    wire (outlet.tries left count) <+: left := by
  induction count generalizing outlet left with
  | zero => exact List.nil_prefix
  | succ count ih =>
    have front := (List.prefix_append_right_inj (outlet.next.attempt left).bytes).mpr
      (ih outlet.advance (left.drop (outlet.next.attempt left).bytes.length))
    rw [WriteReply.bytes_attempt] at front
    exact front

/-- There are as many attempts as are counted. -/
@[simp] theorem length_tries (outlet : Outlet) (left : Bytes) (count : Nat) :
    (outlet.tries left count).length = count := by
  induction count generalizing outlet left with
  | zero => rfl
  | succ count ih => exact congrArg Nat.succ (ih _ _)

/-- Fewer attempts are the first of more. -/
theorem take_tries (outlet : Outlet) (left : Bytes) {earlier count : Nat}
    (within : earlier ≤ count) :
    (outlet.tries left count).take earlier = outlet.tries left earlier := by
  induction earlier generalizing outlet left count with
  | zero => rfl
  | succ earlier ih =>
    cases count with
    | zero => exact absurd within (Nat.not_succ_le_zero earlier)
    | succ count => exact congrArg _ (ih _ _ (Nat.le_of_succ_le_succ within))

/-- The attempts never come to so many blocked ones in a row exactly where every run of blocked
attempts among them is shorter. -/
theorem stalled_tries_lt_iff {outlet : Outlet} {left : Bytes} {count most : Nat} :
    (∀ earlier ≤ count, stalled 0 (outlet.tries left earlier) < most) ↔
      ∀ before run after, outlet.tries left count = before ++ run ++ after →
        (∀ attempt ∈ run, attempt.isBlocked = true) → run.length < most := by
  constructor
  · intro moving before run after split blocks
    refine Nat.lt_of_not_le fun long => ?_
    have within : (before ++ run).length ≤ count := by
      rw [← length_tries outlet left count, split, @List.length_append _ (before ++ run)]
      exact Nat.le_add_right _ _
    have front : outlet.tries left (before ++ run).length = before ++ run := by
      rw [← take_tries outlet left within, split, List.take_left]
    refine absurd (moving _ within) (Nat.not_lt_of_le (le_stalled_iff.mpr ?_))
    refine ⟨before ++ run.take (run.length - most), run.drop (run.length - most), ?_, ?_, ?_⟩
    · rw [front, List.append_assoc, List.take_append_drop]
    · rw [List.length_drop, Nat.sub_sub_self long]
    · exact fun attempt member => blocks attempt (List.mem_of_mem_drop member)
  · intro short earlier within
    refine Nat.lt_of_not_le fun long => ?_
    obtain ⟨before, run, split, length, blocks⟩ := le_stalled_iff.mp long
    refine absurd (short before run ((outlet.tries left count).drop earlier) ?_ blocks)
      (Nat.not_lt_of_le (Nat.le_of_eq length.symm))
    rw [← split, ← take_tries outlet left within, List.take_append_drop]

/-- The agent stalls where so many blocked writes have preceded: the attempts come to the most that
may block in a row before all is written and before one of them fails. -/
def Stalls (outlet : Outlet) (left : Bytes) (blocked most : Nat) : Prop :=
  ∃ count, (∀ attempt ∈ outlet.tries left count, attempt.fatal? = none) ∧
    wire (outlet.tries left count) ≠ left ∧ most ≤ stalled blocked (outlet.tries left count)

/-- The agent takes all where so many blocked writes have preceded: the attempts come to the end of
the bytes before one of them fails, and never to the most that may block in a row. -/
def TakesAll (outlet : Outlet) (left : Bytes) (blocked most : Nat) : Prop :=
  ∃ count, (∀ attempt ∈ outlet.tries left count, attempt.fatal? = none) ∧
    wire (outlet.tries left count) = left ∧
    ∀ earlier ≤ count, stalled blocked (outlet.tries left earlier) < most

section

variable {outlet : Outlet} {left : Bytes} {blocked most : Nat} {attempt : WriteAttempt}

/-- Whether the agent stalls is decided by the next attempt and what it leaves. -/
theorem stalls_step (patient : blocked < most) (answer : outlet.next.attempt left = attempt) :
    outlet.Stalls left blocked most ↔ attempt.fatal? = none ∧
      outlet.advance.Stalls (left.drop attempt.bytes.length)
        (if attempt.isBlocked then blocked + 1 else 0) most := by
  have split := outlet.next.bytes_attempt left
  rw [answer] at split
  constructor
  · rintro ⟨count, going, short, stall⟩
    cases count with
    | zero => exact absurd patient (Nat.not_lt_of_le stall)
    | succ count =>
      simp only [tries, answer, List.forall_mem_cons, wire_cons, stalled_cons] at going short stall
      refine ⟨going.1, count, going.2, fun whole => short ?_, stall⟩
      rw [whole, split]
  · rintro ⟨harmless, count, going, short, stall⟩
    refine ⟨count + 1, ?_, ?_, ?_⟩
    · simpa only [tries, answer, List.forall_mem_cons] using ⟨harmless, going⟩
    · simp only [tries, answer, wire_cons]
      intro whole
      exact short (List.append_cancel_left (whole.trans split.symm))
    · simpa only [tries, answer, stalled_cons] using stall

/-- Whether the agent takes all is decided by the next attempt and what it leaves. -/
theorem takesAll_step (patient : blocked < most) (remains : left ≠ [])
    (answer : outlet.next.attempt left = attempt) :
    outlet.TakesAll left blocked most ↔ attempt.fatal? = none ∧
      outlet.advance.TakesAll (left.drop attempt.bytes.length)
        (if attempt.isBlocked then blocked + 1 else 0) most := by
  have split := outlet.next.bytes_attempt left
  rw [answer] at split
  constructor
  · rintro ⟨count, going, whole, moving⟩
    cases count with
    | zero => exact absurd whole.symm remains
    | succ count =>
      simp only [tries, answer, List.forall_mem_cons, wire_cons] at going whole
      refine ⟨going.1, count, going.2, ?_, fun earlier within => ?_⟩
      · exact List.append_cancel_left (whole.trans split.symm)
      · simpa only [tries, answer, stalled_cons] using
          moving (earlier + 1) (Nat.succ_le_succ within)
  · rintro ⟨harmless, count, going, whole, moving⟩
    refine ⟨count + 1, ?_, ?_, fun earlier within => ?_⟩
    · simpa only [tries, answer, List.forall_mem_cons] using ⟨harmless, going⟩
    · simp only [tries, answer, wire_cons, whole, split]
    · cases earlier with
      | zero => exact patient
      | succ earlier =>
        simpa only [tries, answer, stalled_cons] using
          moving earlier (Nat.le_of_succ_le_succ within)

/-- An attempt that ends a send is neither followed by a stall nor by the rest of the bytes. -/
theorem not_stalls_of_fatal (patient : blocked < most) (remains : left ≠ [])
    (answer : outlet.next.attempt left = attempt) (fatal : attempt.fatal? ≠ none) :
    ¬outlet.Stalls left blocked most ∧ ¬outlet.TakesAll left blocked most :=
  ⟨fun stalls => fatal ((stalls_step patient answer).mp stalls).1,
    fun takes => fatal ((takesAll_step patient remains answer).mp takes).1⟩

end

/-- Writing gives up exactly where the agent stalls, and comes to the end exactly where the agent
takes all. -/
theorem decided_writeAll (budget : SendBudget) (total : Nat) (outlet : Outlet) (left : Bytes)
    (blocked : Nat) (patient : blocked < budget.maxTries) :
    ((outlet.writeAll budget total left blocked).outcome.isExhausted = true ↔
        outlet.Stalls left blocked budget.maxTries) ∧
      ((outlet.writeAll budget total left blocked).outcome = .ok () ↔
        outlet.TakesAll left blocked budget.maxTries) := by
  fun_induction writeAll budget total outlet left blocked with
  | case1 outlet left blocked empty =>
    obtain rfl := List.isEmpty_iff.mp empty
    have nothing : ∀ count, wire (outlet.tries [] count) = [] :=
      fun count => List.prefix_nil.mp (outlet.wire_tries [] count)
    refine ⟨iff_of_false (by simp [Outcome.isExhausted]) ?_, iff_of_true rfl ⟨0, ?_⟩⟩
    · rintro ⟨count, -, short, -⟩
      exact short (nothing count)
    · simpa [tries, wire] using patient
  | case2 outlet left blocked remains limit reply bytes nothing =>
    have answer : outlet.next.attempt left = .took [] := by
      rw [reply, WriteReply.attempt, ← List.isEmpty_iff.mp nothing]
    obtain ⟨stalls, takes⟩ := not_stalls_of_fatal patient (by simpa using remains) answer
      (by simp [fatal?])
    exact ⟨iff_of_false (by simp [Outcome.isExhausted, nothingTaken]) stalls,
      iff_of_false (by simp) takes⟩
  | case3 outlet left blocked remains limit reply bytes some ih =>
    have answer : outlet.next.attempt left = .took bytes := by rw [reply]; rfl
    have progress : (WriteAttempt.took bytes).fatal? = none :=
      fatal?_eq_none.mpr (.inl (by simpa [WriteAttempt.bytes] using some))
    rw [stalls_step patient answer, takesAll_step patient (by simpa using remains) answer,
      and_iff_right progress, and_iff_right progress]
    exact ih (Nat.zero_lt_of_lt patient)
  | case4 outlet left blocked remains error reply refused =>
    have answer : outlet.next.attempt left = .failed error := by rw [reply]; rfl
    obtain ⟨stalls, takes⟩ := not_stalls_of_fatal patient (by simpa using remains) answer
      (by simpa [fatal?] using refused)
    exact ⟨iff_of_false (by simp [Outcome.isExhausted]) stalls, iff_of_false (by simp) takes⟩
  | case5 outlet left blocked remains error reply waits exhausted =>
    have answer : outlet.next.attempt left = .failed error := by rw [reply]; rfl
    have blocks : (WriteAttempt.failed error).isBlocked = true := by simpa [isBlocked] using waits
    have harmless := fatal?_eq_none.mpr (.inr blocks)
    have remains : left ≠ [] := by simpa using remains
    rw [stalls_step patient answer, takesAll_step patient remains answer, and_iff_right harmless,
      and_iff_right harmless, if_pos blocks]
    refine ⟨iff_of_true rfl ⟨0, ?_⟩, iff_of_false (by simp) ?_⟩
    · exact ⟨by simp [tries], fun none => remains none.symm, exhausted⟩
    · rintro ⟨count, -, -, moving⟩
      exact absurd (moving 0 (Nat.zero_le _)) (Nat.not_lt_of_le exhausted)
  | case6 outlet left blocked remains error reply waits more ih =>
    have answer : outlet.next.attempt left = .failed error := by rw [reply]; rfl
    have blocks : (WriteAttempt.failed error).isBlocked = true := by simpa [isBlocked] using waits
    have harmless := fatal?_eq_none.mpr (.inr blocks)
    rw [stalls_step patient answer, takesAll_step patient (by simpa using remains) answer,
      and_iff_right harmless, and_iff_right harmless, if_pos blocks]
    exact ih (Nat.lt_of_not_le more)

/-- Attempts that are each the outlet's answer to what the earlier ones left are those that it would
answer. -/
theorem eq_tries {outlet : Outlet} {left : Bytes} {attempts : List WriteAttempt}
    (answered : ∀ before attempt after, attempts = before ++ attempt :: after →
      attempt = (outlet.reply (outlet.attempts + before.length)).attempt
        (left.drop (wire before).length)) :
    attempts = outlet.tries left attempts.length := by
  induction attempts generalizing outlet left with
  | nil => rfl
  | cons first later ih =>
    have head : first = outlet.next.attempt left := answered [] first later rfl
    have tail : later = outlet.advance.tries (left.drop first.bytes.length) later.length := by
      refine ih fun before attempt after split => ?_
      have given := answered (first :: before) attempt after (by rw [split, List.cons_append])
      have index : outlet.attempts + (first :: before).length =
          outlet.advance.attempts + before.length := by
        rw [List.length_cons, attempts_advance]
        omega
      rw [index, wire_cons, List.length_append, ← List.drop_drop] at given
      exact given
    rw [List.length_cons, tries, ← head, ← tail]

/-- Writing makes the attempts that the outlet would answer, and stops after some of them. -/
theorem attempts_writeAll (budget : SendBudget) (total : Nat) (outlet : Outlet) (left : Bytes)
    (blocked : Nat) :
    (outlet.writeAll budget total left blocked).journal.attempts =
      outlet.tries left (outlet.writeAll budget total left blocked).journal.attempts.length :=
  eq_tries (outlet.transcript_writeAll budget total left blocked).answered

/-- A pause follows each blocked attempt but the one at which a run gives up. -/
theorem pauses_writeAll (budget : SendBudget) (total : Nat) (outlet : Outlet) (left : Bytes)
    (blocked : Nat) :
    let run := outlet.writeAll budget total left blocked
    run.journal.pauses = List.replicate (run.journal.attempts.countP isBlocked -
      run.outcome.isExhausted.toNat) budget.delay ∧
    run.outcome.isExhausted.toNat ≤ run.journal.attempts.countP isBlocked := by
  fun_induction writeAll budget total outlet left blocked with
  | case1 outlet left blocked empty => exact ⟨rfl, Nat.le_refl 0⟩
  | case2 outlet left blocked remains limit reply bytes nothing => exact ⟨rfl, Nat.le_refl 0⟩
  | case3 outlet left blocked remains limit reply bytes some ih => exact ih
  | case4 outlet left blocked remains error reply refused =>
    have hard : error.isBlocked = false := by simpa using refused
    simp [Journal.attempts, Journal.pauses, isBlocked, hard, Outcome.isExhausted]
  | case5 outlet left blocked remains error reply waits exhausted =>
    have blocks : error.isBlocked = true := by simpa using waits
    simp [Journal.attempts, Journal.pauses, isBlocked, blocks, Outcome.isExhausted, surrender,
      Effect.line]
  | case6 outlet left blocked remains error reply waits more ih =>
    have blocks : (WriteAttempt.failed error).isBlocked = true := by simpa [isBlocked] using waits
    generalize outlet.advance.writeAll budget total left (blocked + 1) = later at ih ⊢
    obtain ⟨pauses, least⟩ := ih
    change budget.delay :: later.journal.pauses = List.replicate
        ((WriteAttempt.failed error :: later.journal.attempts).countP isBlocked -
          later.outcome.isExhausted.toNat) budget.delay ∧
      later.outcome.isExhausted.toNat ≤
        (WriteAttempt.failed error :: later.journal.attempts).countP isBlocked
    rw [List.countP_cons_of_pos blocks, Nat.succ_sub least, List.replicate_succ, ← pauses]
    exact ⟨rfl, Nat.le_succ_of_le least⟩

/-- Each byte to write allows for as many attempts as the budget has tries, and for one pause less.
The blocked attempts that went before have used some of what the first byte allows for. -/
theorem bounds_writeAll (budget : SendBudget) (total : Nat) (outlet : Outlet) (left : Bytes)
    (blocked : Nat) (patient : blocked < budget.maxTries) :
    let run := outlet.writeAll budget total left blocked
    run.journal.attempts.length ≤ left.length * budget.maxTries - blocked ∧
      run.journal.pauses.length ≤ left.length * (budget.maxTries - 1) - blocked := by
  have one : ∀ {bytes : Bytes}, ¬bytes.isEmpty = true → ∀ tries,
      tries ≤ bytes.length * tries := fun remains tries =>
    Nat.le_mul_of_pos_left tries (List.length_pos_iff.mpr (by simpa using remains))
  fun_induction writeAll budget total outlet left blocked with
  | case1 outlet left blocked empty => exact ⟨Nat.zero_le _, Nat.zero_le _⟩
  | case2 outlet left blocked remains limit reply bytes nothing =>
    have := one remains budget.maxTries
    exact ⟨by change 1 ≤ _; omega, Nat.zero_le _⟩
  | case3 outlet left blocked remains limit reply bytes some ih =>
    have taken : bytes.length ≤ left.length := length_taken_le limit left
    have parts : ∀ tries, left.length * tries = (left.drop bytes.length).length * tries +
        bytes.length * tries := by
      intro tries
      rw [List.length_drop, ← Nat.add_mul, Nat.sub_add_cancel taken]
    obtain ⟨attempts, pauses⟩ := ih (Nat.zero_lt_of_lt patient)
    have := one some budget.maxTries
    have := one some (budget.maxTries - 1)
    generalize outlet.advance.writeAll budget total (left.drop bytes.length) 0 = later at *
    change later.journal.attempts.length + 1 ≤ _ ∧ later.journal.pauses.length ≤ _
    rw [parts, parts]
    omega
  | case4 outlet left blocked remains error reply refused =>
    have := one remains budget.maxTries
    exact ⟨by change 1 ≤ _; omega, Nat.zero_le _⟩
  | case5 outlet left blocked remains error reply waits exhausted =>
    have := one remains budget.maxTries
    exact ⟨by change 1 ≤ _; omega, Nat.zero_le _⟩
  | case6 outlet left blocked remains error reply waits more ih =>
    have more := Nat.lt_of_not_le more
    obtain ⟨attempts, pauses⟩ := ih more
    have := one remains budget.maxTries
    have := one remains (budget.maxTries - 1)
    generalize outlet.advance.writeAll budget total left (blocked + 1) = later at *
    change later.journal.attempts.length + 1 ≤ _ ∧ later.journal.pauses.length + 1 ≤ _
    omega

/-- Writing with a count of blocked writes that can be no more than `most`: a run faults where it
would have to count further. -/
def writeAllWithin (most : Nat) (budget : SendBudget) (total : Nat) (outlet : Outlet)
    (left : Bytes) (blocked : Nat) : Run Outlet Unit :=
  if left.isEmpty then ⟨.ok (), outlet, []⟩
  else
    match outlet.next with
    | .accept limit =>
      let bytes := taken limit left
      if bytes.isEmpty then ⟨.failed nothingTaken, outlet.advance, [.wrote []]⟩
      else
        (writeAllWithin most budget total outlet.advance (left.drop bytes.length) 0).prepend
          [.wrote bytes]
    | .refuse error =>
      if !error.isBlocked then ⟨.failed (.transport error), outlet.advance, [.writeFailed error]⟩
      else if most < blocked + 1 then ⟨.fault, outlet.advance, [.writeFailed error]⟩
      else if budget.maxTries ≤ blocked + 1 then
        ⟨.failed (.sendExhausted total left.length error), outlet.advance,
          [.writeFailed error, surrender (blocked + 1) left.length total]⟩
      else
        (writeAllWithin most budget total outlet.advance left (blocked + 1)).prepend
          [.writeFailed error, persistence (blocked + 1) budget.maxTries, .slept budget.delay]
termination_by (left.length, most - blocked)
decreasing_by
  · apply Prod.Lex.left
    rename_i remains takes
    simp only [List.isEmpty_iff, ← List.length_eq_zero_iff] at remains takes
    rw [List.length_drop]
    change left.length - bytes.length < left.length
    omega
  · apply Prod.Lex.right
    omega

/-- Writing never counts further than its budget has tries. -/
theorem writeAllWithin_eq (budget : SendBudget) (total : Nat) (outlet : Outlet) (left : Bytes)
    (blocked : Nat) (patient : blocked < budget.maxTries) :
    outlet.writeAllWithin budget.maxTries budget total left blocked =
      outlet.writeAll budget total left blocked := by
  fun_induction writeAll budget total outlet left blocked with
  | case1 outlet left blocked empty => rw [writeAllWithin, if_pos empty]
  | case2 outlet left blocked remains limit reply bytes nothing =>
    rw [writeAllWithin, if_neg remains, reply]
    exact if_pos nothing
  | case3 outlet left blocked remains limit reply bytes some ih =>
    rw [writeAllWithin, if_neg remains, reply, ← ih (Nat.zero_lt_of_lt patient)]
    exact if_neg some
  | case4 outlet left blocked remains error reply refused =>
    rw [writeAllWithin, if_neg remains, reply]
    exact if_pos refused
  | case5 outlet left blocked remains error reply waits exhausted =>
    rw [writeAllWithin, if_neg remains, reply]
    simp only [if_neg waits, if_neg (Nat.not_lt_of_le (Nat.succ_le_of_lt patient)),
      if_pos exhausted]
  | case6 outlet left blocked remains error reply waits more ih =>
    rw [writeAllWithin, if_neg remains, reply, ← ih (Nat.lt_of_not_le more)]
    simp only [if_neg waits, if_neg (Nat.not_lt_of_le (Nat.succ_le_of_lt patient)), if_neg more]

end Outlet

/-- A send is patient with a slow agent and gives up on a stalled one. It ends, with success or with
a failure, after some of the attempts that the outlet would answer. Let `most` be the budget's tries
and at least one. The send gives up exactly where these attempts come to `most` blocked ones in a
row before all is written and before one takes nothing or fails otherwise. It succeeds exactly where
they come to the end of the data before one takes nothing or fails otherwise, and every run of
blocked ones among them is shorter than `most`, however many there are. All the time it takes is one
delay for each blocked attempt, but none for the one at which it gives up. It makes no more than
`most` attempts for each byte and no more than `most - 1` pauses, and its count of blocked writes
never has to hold more than `most`. -/
theorem Link.send_patience (link : Link) (data : Bytes) :
    let budget := link.settings.send.atLeastOnce
    let most := max link.settings.send.maxTries 1
    let outlet := link.transport.outlet
    let run := link.send data
    let attempts := run.journal.attempts
    let blocked := attempts.countP WriteAttempt.isBlocked
    let pauses := run.journal.pauses
    (run.outcome = .ok () ∨ ∃ error, run.outcome = .failed error) ∧
      attempts = outlet.tries data attempts.length ∧
      (run.outcome.isExhausted = true ↔ ∃ count before stall,
        outlet.tries data count = before ++ stall ∧ stall.length = most ∧
          (∀ attempt ∈ stall, attempt.isBlocked = true) ∧
          (∀ attempt ∈ outlet.tries data count, attempt.fatal? = none) ∧
          WriteAttempt.wire (outlet.tries data count) ≠ data) ∧
      (run.outcome = .ok () ↔ ∃ count,
        WriteAttempt.wire (outlet.tries data count) = data ∧
          (∀ attempt ∈ outlet.tries data count, attempt.fatal? = none) ∧
          ∀ before stall after, outlet.tries data count = before ++ stall ++ after →
            (∀ attempt ∈ stall, attempt.isBlocked = true) → stall.length < most) ∧
      pauses.length + run.outcome.isExhausted.toNat = blocked ∧
      run.journal.elapsed = ⟨pauses.length * link.settings.send.delay.nanoseconds⟩ ∧
      attempts.length ≤ data.length * most ∧ pauses.length ≤ data.length * (most - 1) ∧
      outlet.writeAllWithin most budget data.length data 0 =
        outlet.writeAll budget data.length data 0 := by
  intro budget most outlet run attempts blocked pauses
  have patient : 0 < budget.maxTries := Nat.le_max_right _ 1
  have sent : attempts = (outlet.writeAll budget data.length data 0).journal.attempts :=
    Journal.reader_attempts.send (fun _ => rfl) link data
  have slept : pauses = (outlet.writeAll budget data.length data 0).journal.pauses :=
    Journal.reader_pauses.send (fun _ => rfl) link data
  obtain ⟨stalls, takes⟩ := outlet.decided_writeAll budget data.length data 0 patient
  obtain ⟨delays, least⟩ := outlet.pauses_writeAll budget data.length data 0
  obtain ⟨within, rests⟩ := outlet.bounds_writeAll budget data.length data 0 patient
  rw [← sent] at delays least within
  rw [← slept] at delays rests
  have count : pauses.length = blocked - run.outcome.isExhausted.toNat := by
    rw [delays, List.length_replicate]
    rfl
  refine ⟨(outlet.transcript_writeAll budget data.length data 0).ends, ?_, ?_, ?_, ?_, ?_, within,
    rests, outlet.writeAllWithin_eq budget data.length data 0 patient⟩
  · rw [sent]
    exact outlet.attempts_writeAll budget data.length data 0
  · refine stalls.trans (exists_congr fun tries => ?_)
    simp only [WriteAttempt.le_stalled_iff]
    constructor
    · rintro ⟨harmless, short, before, stall, split, length, blocks⟩
      exact ⟨before, stall, split, length, blocks, harmless, short⟩
    · rintro ⟨before, stall, split, length, blocks, harmless, short⟩
      exact ⟨harmless, short, before, stall, split, length, blocks⟩
  · refine takes.trans (exists_congr fun tries => ?_)
    rw [Outlet.stalled_tries_lt_iff]
    exact and_left_comm
  · rw [count]
    exact Nat.sub_add_cancel least
  · change Duration.sum pauses = _
    rw [count, delays, Duration.sum_replicate]
    rfl

end AgentLink
