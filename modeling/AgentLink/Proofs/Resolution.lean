import AgentLink.Network.Resolve
import AgentLink.Proofs.DottedQuad

/-!
# Resolved endpoints

What resolving comes to depends on four checks and their order: whether the port is a number,
whether the host spells an address, whether it holds a NUL, and what the resolver answers. The
resolver is asked only by the last of them (`Network.Resolves`). An answer gives its first address
that can be used, or the cause that its code stands for (`Network.Answers`). Resolving does just
what these say, and an endpoint that it finds has the port that was asked for
(`Network.resolve_outcomes`).
-/
namespace AgentLink

namespace ResolvedEntry

/-- An entry that can be used: one of IPv4 with an address. -/
def IsUsable (entry : ResolvedEntry) : Prop := ∃ address, entry = .ipv4 (some address)

/-- The address of an entry that can be used. -/
def address? : ResolvedEntry → Option Ipv4
  | .ipv4 address => address
  | .otherFamily => none

/-- An entry has an address where it is one of IPv4 that comes with it. -/
theorem address?_eq_some {entry : ResolvedEntry} {address : Ipv4} :
    entry.address? = some address ↔ entry = .ipv4 (some address) := by
  cases entry <;> simp [address?]

/-- An entry without an address is one that cannot be used. -/
theorem address?_eq_none {entry : ResolvedEntry} : entry.address? = none ↔ ¬entry.IsUsable := by
  simp only [IsUsable, ← address?_eq_some, Option.eq_none_iff_forall_ne_some, not_exists, ne_eq]

end ResolvedEntry

namespace Network

/-- What the text of a port comes to. -/
inductive ReadsPort (text : Bytes) : Except ArgumentError Nat → Prop
  /-- Digits that denote a word of 16 bits are the port. -/
  | number (numeral : Decimal.IsNumeral text) (word : Decimal.value text < Endpoint.portLimit) :
    ReadsPort text (.ok (Decimal.value text))
  /-- It is empty or holds another byte than a digit. -/
  | notNumeral (other : ¬Decimal.IsNumeral text) : ReadsPort text (.error .portText)
  /-- It denotes too great a number. -/
  | tooGreat (numeral : Decimal.IsNumeral text) (great : Endpoint.portLimit ≤ Decimal.value text) :
    ReadsPort text (.error .portRange)

/-- Every text comes to something. -/
theorem exists_readsPort (text : Bytes) : ∃ read, ReadsPort text read := by
  by_cases numeral : Decimal.IsNumeral text
  · rcases Nat.lt_or_ge (Decimal.value text) Endpoint.portLimit with word | great
    · exact ⟨_, .number numeral word⟩
    · exact ⟨_, .tooGreat numeral great⟩
  · exact ⟨_, .notNumeral numeral⟩

/-- A port is read as what its text comes to. -/
theorem ReadsPort.readPort_eq {port : String} {read : Except ArgumentError Nat}
    (reads : ReadsPort (utf8 port) read) : readPort port = read := by
  have refused : ((utf8 port).isEmpty || !(utf8 port).all Byte.isDigit) = true ↔
      ¬Decimal.IsNumeral (utf8 port) := by
    rw [← Decimal.isNumeral_iff, Bool.not_eq_true, ← Bool.not_eq_true', Bool.not_and, Bool.not_not]
  cases reads with
  | number numeral word =>
    rw [readPort, if_neg (mt refused.mp (not_not_intro numeral)),
      Decimal.below?_eq_some.mpr ⟨rfl, word⟩]
  | notNumeral other => rw [readPort, if_pos (refused.mpr other)]
  | tooGreat numeral great =>
    rw [readPort, if_neg (mt refused.mp (not_not_intro numeral)),
      Decimal.below?_eq_none.mpr great]

/-- The cause that a code of the resolver stands for, with the number of a system error, where
codes are described so. -/
inductive Causes (describe : Int → String) : (code number : Int) → ResolveError → Prop
  /-- The name is not known. -/
  | nameUnknown {number : Int} : Causes describe (-2) number .hostUnreachable
  /-- The name server failed for now. -/
  | again {number : Int} : Causes describe (-3) number .temporary
  /-- The name has no addresses. -/
  | noData {number : Int} : Causes describe (-5) number .noRecords
  /-- The name has no addresses of the family that is asked for. -/
  | addressFamily {number : Int} : Causes describe (-9) number .noIpv4Address
  /-- The operating system failed with the error of this number. -/
  | system {number : Int} : Causes describe (-11) number (.system (.numbered number))
  /-- Every other code is handed on, with its description. -/
  | other {code number : Int} (unnamed : code ∉ [-2, -3, -5, -9, -11]) :
    Causes describe code number (.failed code (describe code))

/-- Every code stands for a cause. -/
theorem exists_causes (describe : Int → String) (code number : Int) :
    ∃ error, Causes describe code number error := by
  by_cases named : code ∈ [-2, -3, -5, -9, -11]
  · simp only [List.mem_cons, List.not_mem_nil, or_false] at named
    rcases named with rfl | rfl | rfl | rfl | rfl
    · exact ⟨_, .nameUnknown⟩
    · exact ⟨_, .again⟩
    · exact ⟨_, .noData⟩
    · exact ⟨_, .addressFamily⟩
    · exact ⟨_, .system⟩
  · exact ⟨_, .other named⟩

/-- A code is taken for the cause that it stands for. -/
theorem Causes.cause_eq {describe : Int → String} {code number : Int} {error : ResolveError}
    (causes : Causes describe code number error) : cause describe code number = error := by
  cases causes with
  | nameUnknown | again | noData | addressFamily | system => rfl
  | other unnamed =>
    have none : (resolverCauses number).lookup code = none := by
      refine List.lookup_eq_none_iff.mpr fun entry member => bne_iff_ne.mpr ?_
      rintro rfl
      exact unnamed (List.mem_map_of_mem member)
    rw [cause, none, Option.getD_none]

/-- What an answer of the resolver says of the address of a host, where codes are described so. -/
inductive Answers (describe : Int → String) : LookupReply → Except ResolveError Ipv4 → Prop
  /-- The first entry that can be used has the address. -/
  | found {skipped rest : List ResolvedEntry} {address : Ipv4}
    (unusable : ∀ entry ∈ skipped, ¬entry.IsUsable) :
    Answers describe (.entries (skipped ++ .ipv4 (some address) :: rest)) (.ok address)
  /-- No entry can be used. -/
  | unusable {entries : List ResolvedEntry} (unusable : ∀ entry ∈ entries, ¬entry.IsUsable) :
    Answers describe (.entries entries) (.error .noIpv4Address)
  /-- The code zero is no failure, and there are no entries. -/
  | empty {number : Int} : Answers describe (.failure 0 number) (.error .noIpv4Address)
  /-- The resolver failed. -/
  | failed {code number : Int} {error : ResolveError} (nonzero : code ≠ 0)
    (causes : Causes describe code number error) :
    Answers describe (.failure code number) (.error error)

/-- The first address is that of the first entry that can be used. -/
theorem firstAddress_eq_some {entries : List ResolvedEntry} {address : Ipv4} :
    firstAddress entries = some address ↔ ∃ skipped rest,
      entries = skipped ++ .ipv4 (some address) :: rest ∧ ∀ entry ∈ skipped, ¬entry.IsUsable := by
  have first : firstAddress entries = entries.findSome? ResolvedEntry.address? := rfl
  simp only [first, List.findSome?_eq_some_iff, ResolvedEntry.address?_eq_some,
    ResolvedEntry.address?_eq_none]
  constructor
  · rintro ⟨skipped, _, rest, split, rfl, unusable⟩
    exact ⟨skipped, rest, split, unusable⟩
  · rintro ⟨skipped, rest, split, unusable⟩
    exact ⟨skipped, _, rest, split, rfl, unusable⟩

/-- There is no first address where no entry can be used. -/
theorem firstAddress_eq_none {entries : List ResolvedEntry} :
    firstAddress entries = none ↔ ∀ entry ∈ entries, ¬entry.IsUsable := by
  have first : firstAddress entries = entries.findSome? ResolvedEntry.address? := rfl
  simp only [first, List.findSome?_eq_none_iff, ResolvedEntry.address?_eq_none]

/-- Every answer says something. -/
theorem exists_answers (describe : Int → String) (reply : LookupReply) :
    ∃ said, Answers describe reply said := by
  cases reply with
  | entries entries =>
    cases found : firstAddress entries with
    | none => exact ⟨_, .unusable (firstAddress_eq_none.mp found)⟩
    | some address =>
      obtain ⟨skipped, rest, rfl, unusable⟩ := firstAddress_eq_some.mp found
      exact ⟨_, .found unusable⟩
  | failure code number =>
    by_cases zero : code = 0
    · subst zero
      exact ⟨_, .empty⟩
    · obtain ⟨error, causes⟩ := exists_causes describe code number
      exact ⟨_, .failed zero causes⟩

/-- An answer is taken for what it says. -/
theorem Answers.answer_eq {describe : Int → String} {reply : LookupReply}
    {said : Except ResolveError Ipv4} (answers : Answers describe reply said) :
    answer describe reply = said := by
  cases answers with
  | found unusable => rw [answer, firstAddress_eq_some.mpr ⟨_, _, rfl, unusable⟩]
  | unusable unusable => rw [answer, firstAddress_eq_none.mpr unusable]
  | empty => rfl
  | failed nonzero causes => rw [answer, if_neg nonzero, causes.cause_eq]

/-- What resolving a host and a port comes to on a network. -/
inductive Resolves (network : Network) (host port : String) : Run Network Endpoint → Prop
  /-- A wrong port is refused, whatever the host. -/
  | wrongPort {error : ArgumentError} (wrong : ReadsPort (utf8 port) (.error error)) :
    Resolves network host port ⟨.failed (.invalidArgument error), network, []⟩
  /-- A host that spells an address has it. -/
  | spelled {address : Ipv4} {number : Nat} (valid : ReadsPort (utf8 port) (.ok number))
    (spells : Ipv4.Spells (utf8 host) address) :
    Resolves network host port ⟨.ok ⟨address, number⟩, network, []⟩
  /-- A host with a NUL is refused. -/
  | hostNul {number : Nat} (valid : ReadsPort (utf8 port) (.ok number))
    (unspelled : ∀ address, ¬Ipv4.Spells (utf8 host) address) (nul : Byte.nul ∈ utf8 host) :
    Resolves network host port ⟨.failed (.invalidArgument .hostNul), network, []⟩
  /-- The resolver is asked and gives the address of any other host. -/
  | found {address : Ipv4} {number : Nat} (valid : ReadsPort (utf8 port) (.ok number))
    (unspelled : ∀ address, ¬Ipv4.Spells (utf8 host) address) (sound : Byte.nul ∉ utf8 host)
    (answers : Answers network.describe network.lookup.1 (.ok address)) :
    Resolves network host port
      ⟨.ok ⟨address, number⟩, network.lookup.2, [.asked { host, service := port }]⟩
  /-- The resolver is asked and gives none. -/
  | lost {error : ResolveError} {number : Nat} (valid : ReadsPort (utf8 port) (.ok number))
    (unspelled : ∀ address, ¬Ipv4.Spells (utf8 host) address) (sound : Byte.nul ∉ utf8 host)
    (answers : Answers network.describe network.lookup.1 (.error error)) :
    Resolves network host port
      ⟨.failed (.resolve error), network.lookup.2, [.asked { host, service := port }]⟩

section

variable {network : Network} {host port : String}

/-- Resolving always comes to something. -/
theorem exists_resolves (network : Network) (host port : String) :
    ∃ run, Resolves network host port run := by
  obtain ⟨error | number, reads⟩ := exists_readsPort (utf8 port)
  · exact ⟨_, .wrongPort reads⟩
  · by_cases spelled : ∃ address, Ipv4.Spells (utf8 host) address
    · obtain ⟨address, spells⟩ := spelled
      exact ⟨_, .spelled reads spells⟩
    · have unspelled := not_exists.mp spelled
      by_cases nul : Byte.nul ∈ utf8 host
      · exact ⟨_, .hostNul reads unspelled nul⟩
      · obtain ⟨error | address, answers⟩ := exists_answers network.describe network.lookup.1
        · exact ⟨_, .lost reads unspelled nul answers⟩
        · exact ⟨_, .found reads unspelled nul answers⟩

/-- A host that spells no address is not read as one. -/
theorem read?_unspelled {text : Bytes} (unspelled : ∀ address, ¬Ipv4.Spells text address) :
    Ipv4.read? text = none :=
  Option.eq_none_iff_forall_ne_some.mpr fun address read =>
    unspelled address (Ipv4.read?_eq_some.mp read)

/-- Resolving is what it comes to. -/
theorem Resolves.resolve_eq {run : Run Network Endpoint}
    (resolves : Resolves network host port run) : network.resolve host port = run := by
  cases resolves with
  | wrongPort wrong => rw [resolve, wrong.readPort_eq]
  | spelled valid spells => rw [resolve, valid.readPort_eq, Ipv4.read?_eq_some.mpr spells]
  | hostNul valid unspelled nul =>
    simp [resolve, valid.readPort_eq, read?_unspelled unspelled, nul]
  | found valid unspelled sound answers =>
    simp [resolve, valid.readPort_eq, read?_unspelled unspelled, sound, answers.answer_eq]
  | lost valid unspelled sound answers =>
    simp [resolve, valid.readPort_eq, read?_unspelled unspelled, sound, answers.answer_eq]

/-- An endpoint that is found has the port that was asked for. Its address is the one that the host
spells or the one that the resolver gave. -/
theorem Resolves.endpoint {run : Run Network Endpoint} {endpoint : Endpoint}
    (resolves : Resolves network host port run) (found : run.outcome = .ok endpoint) :
    ReadsPort (utf8 port) (.ok endpoint.port) ∧
      (Ipv4.Spells (utf8 host) endpoint.address ∨
        Answers network.describe network.lookup.1 (.ok endpoint.address)) := by
  cases resolves with
  | spelled valid spells =>
    obtain rfl := Outcome.ok.inj found
    exact ⟨valid, .inl spells⟩
  | found valid unspelled sound answers =>
    obtain rfl := Outcome.ok.inj found
    exact ⟨valid, .inr answers⟩
  | wrongPort | hostNul | lost => contradiction

end

/-- For every host and every port, resolving comes to just one thing, which the port, then the host
and then the answer of the resolver decide; the resolver is asked once or not at all. An address as
it is written resolves to itself without a question, with every port. An endpoint that is found has
the port that was asked for, and the address that the host spells or that the resolver gave. -/
theorem resolve_outcomes (network : Network) (host port : String) :
    (∀ run, network.resolve host port = run ↔ Resolves network host port run) ∧
      (∀ address number, ReadsPort (utf8 port) (.ok number) →
        network.resolve address.text port = ⟨.ok ⟨address, number⟩, network, []⟩) ∧
      ∀ endpoint, (network.resolve host port).outcome = .ok endpoint →
        ReadsPort (utf8 port) (.ok endpoint.port) ∧
          (Ipv4.Spells (utf8 host) endpoint.address ∨
            Answers network.describe network.lookup.1 (.ok endpoint.address)) := by
  obtain ⟨run, resolves⟩ := exists_resolves network host port
  refine ⟨fun other => ⟨?_, Resolves.resolve_eq⟩, ?_, ?_⟩
  · rintro rfl
    rwa [resolves.resolve_eq]
  · intro address number valid
    exact (Resolves.spelled valid address.spells_text).resolve_eq
  · intro endpoint found
    rw [resolves.resolve_eq] at found
    exact resolves.endpoint found

/-- A host with a zero in front of another digit is asked of the resolver. Entries that cannot be
used are passed over, and only the first that can counts. The same network is not asked for an
address as it is written. -/
theorem resolve_outcomes_mixed :
    let entries : List ResolvedEntry :=
      [.otherFamily, .ipv4 none, .ipv4 (some ⟨10, 0, 0, 7⟩), .ipv4 (some ⟨10, 0, 0, 8⟩)]
    let network : Network := { lookups := [.entries entries] }
    ReadsPort (utf8 "0080") (.ok 80) ∧
      network.resolve "010.0.0.7" "0080" = ⟨.ok ⟨⟨10, 0, 0, 7⟩, 80⟩, {},
        [.asked { host := "010.0.0.7", service := "0080" }]⟩ ∧
      network.resolve (Ipv4.text ⟨10, 0, 0, 7⟩) "0080" =
        ⟨.ok ⟨⟨10, 0, 0, 7⟩, 80⟩, network, []⟩ := by
  intro entries network
  have port : utf8 "0080" = [48, 48, 56, 48] := by decide
  have host : utf8 "010.0.0.7" = [48, 49, 48, 46, 48, 46, 48, 46, 55] := by decide
  have numeral : Decimal.IsNumeral [48, 48, 56, 48] := Decimal.isNumeral_iff.mp rfl
  have value : Decimal.value [48, 48, 56, 48] = 80 := by decide
  have word : Decimal.value [48, 48, 56, 48] < Endpoint.portLimit := by
    rw [value, Endpoint.portLimit, UInt16.size]
    omega
  have valid : ReadsPort (utf8 "0080") (.ok 80) := by
    rw [port, ← value]
    exact .number numeral word
  have unspelled : ∀ address, ¬Ipv4.Spells (utf8 "010.0.0.7") address := by
    intro address spells
    have ten : Decimal.digits 10 = [49, 48] := by
      rw [Decimal.digits, if_neg (by decide), Decimal.digits, if_pos (by decide)]
      rfl
    have padded : Ipv4.readOctet? (utf8 "010.0.0.7") = none := by
      rw [host]
      exact if_neg (show Decimal.digits 10 ≠ [48, 49, 48] by rw [ten]; decide)
    have read := Ipv4.read?_eq_some.mpr spells
    rw [Ipv4.read?, Ipv4.readFront?, padded] at read
    contradiction
  have sound : Byte.nul ∉ utf8 "010.0.0.7" := by
    rw [host]
    decide
  have answers : Answers network.describe (.entries ([.otherFamily, .ipv4 none] ++
      .ipv4 (some ⟨10, 0, 0, 7⟩) :: [.ipv4 (some ⟨10, 0, 0, 8⟩)])) (.ok ⟨10, 0, 0, 7⟩) :=
    .found (by simp [ResolvedEntry.IsUsable])
  have outcomes := resolve_outcomes network "010.0.0.7" "0080"
  exact ⟨valid, (outcomes.1 _).mpr (.found valid unspelled sound answers),
    outcomes.2.1 _ _ valid⟩

end Network

end AgentLink
