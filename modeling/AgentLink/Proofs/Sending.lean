import AgentLink.Proofs.JournalReaders

/-!
# What a send puts on the wire

However writes are taken in part, blocked or refused, the bytes that reach the wire are the front
of what was to be sent, in order and without gap. A send succeeds exactly when nothing is missing
behind them (`fronts_send`).
-/
namespace AgentLink

/-- What a run put on the wire is the front of what was to be sent, and the run succeeded
exactly when nothing is missing. -/
def Run.Fronts {σ : Type} (run : Run σ Unit) (data : Bytes) : Prop :=
  ∃ missing, data = run.journal.written ++ missing ∧ (run.outcome.isOk = true ↔ missing = [])

/-- A run that wrote nothing of something, and failed. -/
theorem Run.fronts_failed {σ : Type} {run : Run σ Unit} {data : Bytes} (some : ¬data.isEmpty)
    (nothing : run.journal.written = []) (failed : run.outcome.isOk = false) :
    run.Fronts data := by
  have missing : data ≠ [] := fun empty => some (List.isEmpty_iff.mpr empty)
  refine ⟨data, by rw [nothing, List.nil_append], ?_⟩
  rw [failed]
  exact iff_of_false Bool.false_ne_true missing

namespace Outlet

/-- A write takes bytes off the front. -/
theorem taken_append_drop (limit : Option Nat) (left : Bytes) :
    taken limit left ++ left.drop (taken limit left).length = left := by
  cases limit with
  | none => simp [taken]
  | some most =>
    simp only [taken, List.length_take]
    by_cases short : most ≤ left.length
    · rw [Nat.min_eq_left short, List.take_append_drop]
    · rw [Nat.min_eq_right (Nat.le_of_not_le short), List.drop_length, List.append_nil,
        List.take_of_length_le (Nat.le_of_not_le short)]

/-- Writing puts the front of what is left on the wire, whatever becomes of each attempt. -/
theorem fronts_writeAll (budget : SendBudget) (total : Nat) (outlet : Outlet) (left : Bytes)
    (blocked : Nat) : (outlet.writeAll budget total left blocked).Fronts left := by
  fun_induction writeAll budget total outlet left blocked with
  | case1 outlet left blocked empty =>
    obtain rfl := List.isEmpty_iff.mp empty
    exact ⟨[], rfl, iff_of_true rfl rfl⟩
  | case2 outlet left blocked remains limit reply bytes nothing =>
    exact Run.fronts_failed remains rfl rfl
  | case3 outlet left blocked remains limit reply bytes some ih =>
    obtain ⟨missing, front, succeeds⟩ := ih
    have wrote : Journal.written [.wrote bytes] = bytes := List.append_nil bytes
    refine ⟨missing, ?_, succeeds⟩
    rw [Run.prepend, Journal.reader_written.append, wrote, List.append_assoc, ← front]
    exact (taken_append_drop limit left).symm
  | case4 outlet left blocked remains error reply refused =>
    exact Run.fronts_failed remains rfl rfl
  | case5 outlet left blocked remains error reply waits exhausted =>
    exact Run.fronts_failed remains rfl rfl
  | case6 outlet left blocked remains error reply waits more ih =>
    obtain ⟨missing, front, succeeds⟩ := ih
    exact ⟨missing, front, succeeds⟩

end Outlet

/-- A send puts the front of its data on the wire, and succeeds exactly when it is all of it. -/
theorem Link.fronts_send (link : Link) (data : Bytes) : (link.send data).Fronts data := by
  obtain ⟨missing, front, succeeds⟩ := link.transport.outlet.fronts_writeAll
    link.settings.send.atLeastOnce data.length data 0
  refine ⟨missing, ?_, succeeds⟩
  rw [Journal.reader_written.send fun _ => rfl]
  exact front

end AgentLink
