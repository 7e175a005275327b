import AgentLink.Link

/-!
# Reading journals

Whatever is observed of a run is read off its journal. A reader reads two stretches of a journal
one after the other (`Journal.Reader`), so what it reads of a run is put together from what it reads
of the parts. Most readers overlook diagnostics. Such a reader finds nothing in a stretch that holds
nothing else (`Reader.quiet`), and in a send only what it finds in its writes (`Reader.send`).
-/
namespace AgentLink

namespace Journal

/-- A journal that holds nothing but diagnostics. -/
def Quiet (journal : Journal) : Prop := ∀ effect ∈ journal, ∃ note, effect = .noted note

/-- A journal that holds nothing is quiet. -/
@[simp] theorem quiet_nil : Quiet [] := by simp [Quiet]

/-- A diagnostic leaves a journal as quiet as it is. -/
@[simp] theorem quiet_noted {note : Note} {later : Journal} :
    Quiet (.noted note :: later) ↔ later.Quiet := by
  simp [Quiet]

/-- Two stretches are quiet where each of them is. -/
@[simp] theorem quiet_append {earlier later : Journal} :
    Quiet (earlier ++ later) ↔ earlier.Quiet ∧ later.Quiet := by
  simp only [Quiet, List.mem_append, or_imp, forall_and]

/-- What reads journals: of two stretches it reads the earlier and then the later. -/
structure Reader {α : Type} (read : Journal → List α) : Prop where
  /-- Two stretches are read one after the other. -/
  append : ∀ earlier later, read (earlier ++ later) = read earlier ++ read later

/-- What some effects show and others do not is read of a journal. -/
theorem reader_filterMap {α : Type} (shown : Effect → Option α) :
    Reader fun journal => journal.filterMap shown :=
  ⟨fun _ _ => List.filterMap_append⟩

/-- The bytes that were written are read of a journal. -/
theorem reader_written : Reader written := ⟨fun _ _ => List.flatMap_append⟩

/-- The pauses are read of a journal. -/
theorem reader_pauses : Reader pauses := reader_filterMap _

/-- The printed lines are read of a journal. -/
theorem reader_printed : Reader printed := reader_filterMap _

namespace Reader

variable {α : Type} {read : Journal → List α}

/-- Nothing is read where nothing happened. -/
theorem nil (reader : Reader read) : read [] = [] := by
  have twice : read [] = read [] ++ read [] := reader.append [] []
  exact List.self_eq_append_right.mp twice

/-- The first effect is read before the rest. -/
theorem cons (reader : Reader read) (effect : Effect) (later : Journal) :
    read (effect :: later) = read [effect] ++ read later :=
  reader.append [effect] later

/-- Journals in turn are read in turn. -/
theorem flatMap {β : Type} (reader : Reader read) (parts : List β) (journal : β → Journal) :
    read (parts.flatMap journal) = parts.flatMap fun part => read (journal part) := by
  induction parts with
  | nil => exact reader.nil
  | cons part parts ih => rw [List.flatMap_cons, reader.append, ih, List.flatMap_cons]

/-- The same effect some times over is read as often. -/
theorem replicate (reader : Reader read) (count : Nat) (effect : Effect) :
    read (List.replicate count effect) = (List.replicate count (read [effect])).flatten := by
  induction count with
  | zero => exact reader.nil
  | succ count ih =>
    rw [List.replicate_succ, reader.cons, ih, List.replicate_succ, List.flatten_cons]

/-- Nothing is read of diagnostics where each of them is overlooked. -/
theorem quiet (reader : Reader read) (overlooks : ∀ note, read [.noted note] = [])
    {journal : Journal} (quiet : journal.Quiet) : read journal = [] := by
  induction journal with
  | nil => exact reader.nil
  | cons effect later ih =>
    obtain ⟨note, rfl⟩ := quiet effect List.mem_cons_self
    have rest : read later = [] := ih (quiet_noted.mp quiet)
    rw [reader.cons, overlooks, rest, List.append_nil]

end Reader

end Journal

/-- The span of an operation is a diagnostic. -/
@[simp] theorem Tracing.quiet_opening (tracing : Tracing) (operation : Operation)
    (fields : Fields) : (tracing.opening operation fields).Quiet := by
  simp [opening]

/-- The report of the time an operation took is a diagnostic. -/
@[simp] theorem Tracing.quiet_timing (tracing : Tracing) (operation : Operation) :
    (tracing.timing operation).Quiet := by
  unfold timing
  split <;> simp

/-- What is read of a send is read of its writes, where diagnostics are overlooked. -/
theorem Journal.Reader.send {α : Type} {read : Journal → List α} (reader : Reader read)
    (overlooks : ∀ note, read [.noted note] = []) (link : Link) (data : Bytes) :
    read (link.send data).journal = read (link.transport.outlet.writeAll
      link.settings.send.atLeastOnce data.length data 0).journal := by
  have opening := reader.quiet overlooks (link.settings.tracing.quiet_opening .send
    [("message.bytes", .number data.length)])
  have timing := reader.quiet overlooks (link.settings.tracing.quiet_timing .send)
  rw [Link.send, reader.append, reader.append, opening, timing, List.nil_append, List.append_nil]

end AgentLink
