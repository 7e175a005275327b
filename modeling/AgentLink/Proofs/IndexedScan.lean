import AgentLink.Marker

/-!
# The marker scan by indices

A machine scans a buffer by positions that count from its front and are words of 64 bits.
`findMarker` is the scan of that kind: every index, every slice and every sum or difference is
checked, and one that is out of range stops the scan. It finds what `Marker.scan` finds and is
stopped where that faults (`findMarker_eq`), so the fault is the only way out of range.
-/
namespace AgentLink

namespace Indexed

/-- Indices and lengths are words of 64 bits. -/
def limit : Nat := UInt64.size

/-- A sum that is a word. -/
def add? (first second : Nat) : Option Nat :=
  if first + second < limit then some (first + second) else none

/-- A product that is a word. -/
def mul? (first second : Nat) : Option Nat :=
  if first * second < limit then some (first * second) else none

/-- A difference that is not negative. -/
def sub? (first second : Nat) : Option Nat :=
  if second ≤ first then some (first - second) else none

/-- The bytes from a position up to another one, both within the buffer. -/
def slice? (buffer : Bytes) (start stop : Nat) : Option Bytes :=
  if start ≤ stop ∧ stop ≤ buffer.length then some ((buffer.take stop).drop start) else none

/-- The buffer with a byte put at a position within it. -/
def store? (buffer : Bytes) (position : Nat) (byte : UInt8) : Option Bytes :=
  if position < buffer.length then some (buffer.set position byte) else none

/-- What a step of the scan comes to. -/
inductive Seek (α : Type) where
  /-- An operation was out of range. -/
  | stopped
  /-- There is no marker. -/
  | absent
  /-- The scan goes on with a value. -/
  | found (value : α)

namespace Seek

/-- Steps are made one after another, up to the first that finds no value. -/
instance : Monad Seek where
  pure := found
  bind step next := match step with
    | stopped => stopped
    | absent => absent
    | found value => next value

/-- An operation that stops the scan where it is out of range. -/
def checked {α : Type} : Option α → Seek α
  | some value => found value
  | none => stopped

/-- An operation whose overflow means that there is no marker. -/
def orAbsent {α : Type} : Option α → Seek α
  | some value => found value
  | none => absent

variable {α β : Type}

/-- A value is found. -/
@[simp] theorem pure_eq (value : α) : (pure value : Seek α) = found value := rfl

/-- The scan goes on with what was found. -/
@[simp] theorem found_bind (value : α) (next : α → Seek β) : found value >>= next = next value :=
  rfl

/-- Where there is no marker, the scan does not go on. -/
@[simp] theorem absent_bind (next : α → Seek β) : absent >>= next = absent := rfl

/-- A scan that stopped does not go on. -/
@[simp] theorem stopped_bind (next : α → Seek β) : stopped >>= next = stopped := rfl

/-- An operation within range finds its value. -/
@[simp] theorem checked_some (value : α) : checked (some value) = found value := rfl

/-- An operation that does not overflow finds its value. -/
@[simp] theorem orAbsent_some (value : α) : orAbsent (some value) = found value := rfl

/-- An operation that overflows finds no marker. -/
@[simp] theorem orAbsent_none : orAbsent (none : Option α) = absent := rfl

end Seek

open Seek

/-- Go back over blanks. Where the first position is reached over a blank, there is no marker; a
blank at the first itself is out of range, since there is no position in front of it. -/
def skipBlanks (buffer : Bytes) : (position : Nat) → Seek Nat
  | 0 => do
    let byte ← checked buffer[0]?
    if Byte.isBlank byte then stopped else return 0
  | position + 1 => do
    let byte ← checked buffer[position + 1]?
    if Byte.isBlank byte then
      if position = 0 then absent else skipBlanks buffer position
    else return position + 1

/-- Go back over digits. Where there is nothing in front of them, there is no marker. -/
def skipDigits (buffer : Bytes) : (position : Nat) → Seek Nat
  | 0 => do
    let byte ← checked buffer[0]?
    if Byte.isDigit byte then absent else return 0
  | position + 1 => do
    let byte ← checked buffer[position + 1]?
    if Byte.isDigit byte then skipDigits buffer position else return position + 1

/-- The number that digits denote behind others. -/
def parseCountFrom (total : Nat) : Bytes → Seek Nat
  | [] => return total
  | digit :: digits => do
    let tenfold ← orAbsent (mul? total 10)
    let weight ← checked (sub? digit.toNat 48)
    let next ← orAbsent (add? tenfold weight)
    parseCountFrom next digits

/-- The scan from the last byte of the word on. -/
def findKeyword (buffer : Bytes) (countStart countEnd position : Nat) :
    Seek (Marker × Bytes) := do
  if position < Marker.keyword.length + 1 then absent
  let keywordEnd ← checked (add? position 1)
  let keywordStart ← checked (sub? keywordEnd Marker.keyword.length)
  let word ← checked (slice? buffer keywordStart keywordEnd)
  if word ≠ Marker.keyword then absent
  let count ← checked (slice? buffer countStart countEnd)
  let length ← parseCountFrom 0 count
  let headerEnd ← checked (sub? keywordStart 1)
  let cut ← checked (store? buffer headerEnd Byte.nul)
  return (⟨headerEnd, length⟩, cut)

/-- The scan from the byte in front of the count on. -/
def findSeparator (buffer : Bytes) (countEnd position : Nat) : Seek (Marker × Bytes) := do
  let byte ← checked buffer[position]?
  if !Byte.isBlank byte || position = 0 then absent
  let countStart ← checked (add? position 1)
  let before ← checked (sub? position 1)
  let keyword ← skipBlanks buffer before
  findKeyword buffer countStart countEnd keyword

/-- The scan from the last byte that may belong to the count on. -/
def findCount (buffer : Bytes) (position : Nat) : Seek (Marker × Bytes) := do
  let last ← skipBlanks buffer position
  let byte ← checked buffer[last]?
  if !Byte.isDigit byte then absent
  let countEnd ← checked (add? last 1)
  let separator ← skipDigits buffer last
  findSeparator buffer countEnd separator

/-- Find the marker at the end of a buffer, and end the header there. -/
def findMarker (buffer : Bytes) : Seek (Marker × Bytes) := do
  if buffer.length < Marker.leastLength then absent
  let last ← checked (sub? buffer.length 1)
  let byte ← checked buffer[last]?
  if byte = Byte.nul then
    let position ← checked (sub? last 1)
    findCount buffer position
  else
    findCount buffer last

/-- What the scan by indices comes to where the other comes to this. -/
def Seek.ofScan (buffer : Bytes) : Marker.Scan → Seek (Marker × Bytes)
  | .absent => absent
  | .fault => stopped
  | .found marker => found (marker, marker.cut buffer)

/-- The first bytes of a buffer, from the back. -/
def behind (buffer : Bytes) (count : Nat) : Bytes := (buffer.take count).reverse

/-- Where going back ends that leaves so many bytes, if they are more than a number. -/
def reach (least : Nat) (left : Bytes) : Seek Nat :=
  if left.length ≤ least then absent else found (left.length - 1)

/-- The number that digits denote behind another. -/
def countFrom (total : Nat) (digits : Bytes) : Nat :=
  digits.foldl (fun total digit => total * 10 + Decimal.weight digit) total

section

variable {buffer : Bytes} {position : Nat}

/-- A sum that is a word is within range. -/
theorem add?_eq {first second : Nat} (fits : first + second < limit) :
    add? first second = some (first + second) := if_pos fits

/-- A difference that is not negative is within range. -/
theorem sub?_eq {first second : Nat} (fits : second ≤ first) :
    sub? first second = some (first - second) := if_pos fits

/-- A slice in order and within the buffer is within range. -/
theorem slice?_eq {start stop : Nat} (ordered : start ≤ stop) (within : stop ≤ buffer.length) :
    slice? buffer start stop = some ((buffer.take stop).drop start) := if_pos ⟨ordered, within⟩

/-- A byte is put at a position within the buffer. -/
theorem store?_eq {byte : UInt8} (within : position < buffer.length) :
    store? buffer position byte = some (buffer.set position byte) := if_pos within

/-- As many bytes stand in front of a position as it says. -/
theorem length_behind (within : position ≤ buffer.length) :
    (behind buffer position).length = position := by
  rw [behind, List.length_reverse, List.length_take, Nat.min_eq_left within]

/-- The byte at a position comes first from the back. -/
theorem behind_succ (within : position < buffer.length) :
    behind buffer (position + 1) = buffer[position] :: behind buffer position := by
  rw [behind, List.take_succ_eq_append_getElem within, List.reverse_append]
  rfl

/-- What going back leaves of the first bytes of a buffer are the first bytes again. -/
theorem eq_behind {left : Bytes} {count : Nat} (suffix : left <:+ behind buffer count) :
    left = behind buffer left.length := by
  have back : left.reverse <+: buffer.take count := by
    rw [← List.reverse_suffix, List.reverse_reverse]
    exact suffix
  have front := List.prefix_iff_eq_take.mp (back.trans (List.take_prefix count buffer))
  rw [List.length_reverse] at front
  rw [behind, ← front, List.reverse_reverse]

/-- Going back over blanks to the first position finds no way on where that is a blank. -/
theorem skipBlanks_zero (within : 0 < buffer.length) :
    skipBlanks buffer 0 = if Byte.isBlank buffer[0] then stopped else found 0 := by
  rw [skipBlanks, List.getElem?_eq_getElem within]
  rfl

/-- Going back over blanks leaves what is in front of them. -/
theorem skipBlanks_eq (inside : 0 < position) (within : position < buffer.length) :
    skipBlanks buffer position =
      reach 1 ((behind buffer (position + 1)).dropWhile Byte.isBlank) := by
  induction position with
  | zero => exact absurd inside (Nat.lt_irrefl 0)
  | succ position ih =>
    have before : position < buffer.length := Nat.lt_of_succ_lt within
    rw [behind_succ within, skipBlanks, List.getElem?_eq_getElem within, checked_some, found_bind]
    by_cases blank : Byte.isBlank buffer[position + 1] = true
    · rw [List.dropWhile_cons_of_pos blank, if_pos blank]
      by_cases first : position = 0
      · have short : ((behind buffer (position + 1)).dropWhile Byte.isBlank).length ≤ _ :=
          (List.dropWhile_suffix _).length_le
        rw [length_behind before, first] at short
        rw [if_pos first, first, reach, if_pos short]
      · rw [if_neg first]
        exact ih (Nat.pos_of_ne_zero first) before
    · have length : (behind buffer (position + 1)).length = position + 1 := length_behind before
      rw [List.dropWhile_cons_of_neg blank, if_neg blank, reach, List.length_cons, length,
        if_neg (by omega)]
      rfl

/-- Going back over digits leaves what is in front of them. -/
theorem skipDigits_eq (within : position < buffer.length) :
    skipDigits buffer position =
      reach 0 ((behind buffer (position + 1)).dropWhile Byte.isDigit) := by
  induction position with
  | zero =>
    rw [behind_succ within, skipDigits, List.getElem?_eq_getElem within, checked_some, found_bind]
    by_cases digit : Byte.isDigit buffer[0] = true
    · rw [List.dropWhile_cons_of_pos digit, if_pos digit]
      rfl
    · rw [List.dropWhile_cons_of_neg digit, if_neg digit]
      rfl
  | succ position ih =>
    have before : position < buffer.length := Nat.lt_of_succ_lt within
    rw [behind_succ within, skipDigits, List.getElem?_eq_getElem within, checked_some, found_bind]
    by_cases digit : Byte.isDigit buffer[position + 1] = true
    · rw [List.dropWhile_cons_of_pos digit, if_pos digit]
      exact ih before
    · have length : (behind buffer (position + 1)).length = position + 1 := length_behind before
      rw [List.dropWhile_cons_of_neg digit, if_neg digit, reach, List.length_cons, length,
        if_neg (by omega)]
      rfl

/-- Digits denote no less behind a number than it. -/
theorem le_countFrom (total : Nat) (digits : Bytes) : total ≤ countFrom total digits := by
  induction digits generalizing total with
  | nil => exact Nat.le_refl _
  | cons digit digits ih =>
    rw [countFrom, List.foldl_cons]
    exact Nat.le_trans (by omega) (ih _)

/-- Digits are read unless their number is no word. -/
theorem parseCountFrom_eq {digits : Bytes} (all : ∀ digit ∈ digits, Byte.isDigit digit = true)
    {total : Nat} (small : total < limit) :
    parseCountFrom total digits =
      if countFrom total digits < limit then found (countFrom total digits) else absent := by
  induction digits generalizing total with
  | nil => rw [parseCountFrom, countFrom, List.foldl_nil, if_pos small, pure_eq]
  | cons digit digits ih =>
    have isDigit := all digit (.head _)
    simp only [Byte.isDigit, Bool.and_eq_true, decide_eq_true_eq] at isDigit
    have weight : sub? digit.toNat 48 = some (Decimal.weight digit) :=
      sub?_eq (UInt8.le_iff_toNat_le.mp isDigit.1)
    have grows := le_countFrom (total * 10 + Decimal.weight digit) digits
    have next : countFrom total (digit :: digits) =
        countFrom (total * 10 + Decimal.weight digit) digits := rfl
    rw [next]
    simp only [parseCountFrom, weight, checked_some, found_bind]
    by_cases fits : total * 10 + Decimal.weight digit < limit
    · have tenfold : total * 10 < limit := Nat.lt_of_le_of_lt (Nat.le_add_right _ _) fits
      rw [mul?, if_pos tenfold, orAbsent_some, found_bind, add?_eq fits, orAbsent_some, found_bind]
      exact ih (fun other member => all other (.tail _ member)) fits
    · rw [if_neg fun below => fits (Nat.lt_of_le_of_lt grows below)]
      by_cases tenfold : total * 10 < limit
      · rw [mul?, if_pos tenfold, orAbsent_some, found_bind, add?, if_neg fits, orAbsent_none,
          absent_bind]
      · rw [mul?, if_neg tenfold, orAbsent_none, absent_bind]

/-- The word stands up to a position where it comes first from the back. -/
theorem slice_keyword_iff (within : position ≤ buffer.length) :
    (buffer.take position).drop (position - Marker.keyword.length) = Marker.keyword ↔
      Marker.keyword.reverse.isPrefixOf (behind buffer position) = true := by
  have length : (buffer.take position).length = position := by
    rw [List.length_take, Nat.min_eq_left within]
  rw [List.isPrefixOf_iff_prefix, behind, List.reverse_prefix, List.suffix_iff_eq_drop, length]
  exact eq_comm

/-- The scan for the word finds what the other finds. -/
theorem findKeyword_eq {countStart countEnd : Nat} {count : Bytes}
    (sliced : slice? buffer countStart countEnd = some count)
    (digits : ∀ digit ∈ count, Byte.isDigit digit = true)
    (within : position < buffer.length) (word : buffer.length < limit) :
    findKeyword buffer countStart countEnd position =
      ofScan buffer (Marker.scanKeyword count (behind buffer (position + 1))) := by
  have length : (behind buffer (position + 1)).length = position + 1 := length_behind within
  have keyword : Marker.keyword.length = 6 := rfl
  rw [findKeyword, Marker.scanKeyword, length]
  by_cases near : position < Marker.keyword.length + 1
  · rw [if_pos near, absent_bind, if_neg fun far => by omega]
    rfl
  · have inside : Marker.keyword.length + 2 ≤ position + 1 := by omega
    have start : position + 1 - Marker.keyword.length ≤ position + 1 := Nat.sub_le _ _
    simp only [if_neg near, pure_eq, found_bind, add?_eq (show position + 1 < limit by omega),
      checked_some, sub?_eq (show Marker.keyword.length ≤ position + 1 by omega),
      slice?_eq start (show position + 1 ≤ buffer.length from within), sliced]
    by_cases same : (buffer.take (position + 1)).drop (position + 1 - Marker.keyword.length) =
        Marker.keyword
    · have first := (slice_keyword_iff within).mp same
      have count_eq : Decimal.below? Marker.countLimit count =
          if countFrom 0 count < limit then some (countFrom 0 count) else none := rfl
      rw [if_neg (not_not_intro same), if_pos ⟨inside, first⟩,
        parseCountFrom_eq digits (by decide), count_eq]
      split
      · rw [found_bind, sub?_eq (by omega), checked_some, found_bind, store?_eq (by omega),
          checked_some, found_bind]
        rfl
      · rfl
    · rw [if_pos same, absent_bind, if_neg fun both => same ((slice_keyword_iff within).mpr both.2)]
      rfl

/-- Where going back leaves bytes, these are the first bytes up to where it ends. -/
theorem behind_reached {left : Bytes} {count : Nat} (suffix : left <:+ behind buffer count)
    (some : 1 ≤ left.length) (within : count ≤ buffer.length) :
    left.length - 1 < buffer.length ∧ behind buffer (left.length - 1 + 1) = left := by
  have short := suffix.length_le
  rw [length_behind within] at short
  refine ⟨by omega, ?_⟩
  rw [Nat.sub_add_cancel some]
  exact (eq_behind suffix).symm

/-- The scan for the word where going back over blanks ends finds what the other finds. -/
theorem findKeyword_reach {countStart countEnd front : Nat} {count left : Bytes}
    (sliced : slice? buffer countStart countEnd = some count)
    (digits : ∀ digit ∈ count, Byte.isDigit digit = true)
    (suffix : left <:+ behind buffer front) (within : front ≤ buffer.length)
    (word : buffer.length < limit) :
    (reach 1 left >>= findKeyword buffer countStart countEnd) =
      ofScan buffer (Marker.scanKeyword count left) := by
  rw [reach]
  split
  · rename_i short
    have keyword : Marker.keyword.length = 6 := rfl
    rw [absent_bind, Marker.scanKeyword, if_neg fun both => by omega]
    rfl
  · rename_i long
    obtain ⟨inside, same⟩ := behind_reached suffix (by omega) within
    rw [found_bind, findKeyword_eq sliced digits inside word, same]

/-- The scan from the byte in front of the count on finds what the other finds. -/
theorem findSeparator_eq {countEnd : Nat} {count : Bytes}
    (sliced : slice? buffer (position + 1) countEnd = some count)
    (digits : ∀ digit ∈ count, Byte.isDigit digit = true)
    (within : position < buffer.length) (word : buffer.length < limit) :
    findSeparator buffer countEnd position =
      ofScan buffer (Marker.scanSeparator count (behind buffer (position + 1))) := by
  have next : position + 1 < limit := by omega
  rw [findSeparator, List.getElem?_eq_getElem within, checked_some, found_bind,
    behind_succ within]
  cases position with
  | zero =>
    simp [behind, Marker.scanSeparator, ofScan]
  | succ before =>
    have earlier : before < buffer.length := Nat.lt_of_succ_lt within
    rw [behind_succ earlier, Marker.scanSeparator]
    cases blank : Byte.isBlank buffer[before + 1] with
    | false => simp [ofScan]
    | true =>
      simp only [Bool.not_true, Bool.false_or, Nat.succ_ne_zero, decide_false, Bool.false_eq_true,
        ↓reduceIte, found_bind, add?_eq next, checked_some,
        sub?_eq (show 1 ≤ before + 1 by omega), Nat.add_sub_cancel]
      cases before with
      | zero =>
        rw [skipBlanks_zero earlier]
        cases first : Byte.isBlank buffer[0] with
        | false =>
          have alone := findKeyword_eq sliced digits earlier word
          rw [behind_succ earlier] at alone
          simp [first, alone]
        | true => simp [behind, ofScan]
      | succ front =>
        have more : (behind buffer (front + 1)).isEmpty = false := by
          rw [behind_succ (Nat.lt_of_succ_lt earlier)]
          rfl
        rw [skipBlanks_eq (Nat.succ_pos front) earlier, behind_succ earlier, more, Bool.and_false,
          if_neg Bool.false_ne_true, ← behind_succ earlier]
        exact findKeyword_reach sliced digits (List.dropWhile_suffix _) earlier word

/-- The count is the slice between where the digits begin and where they end. -/
theorem slice_count {stop : Nat} (within : stop ≤ buffer.length) :
    slice? buffer ((behind buffer stop).dropWhile Byte.isDigit).length stop =
      some ((behind buffer stop).takeWhile Byte.isDigit).reverse := by
  have short : ((behind buffer stop).dropWhile Byte.isDigit).length ≤ _ :=
    (List.dropWhile_suffix _).length_le
  rw [length_behind within] at short
  have front : buffer.take stop = ((behind buffer stop).dropWhile Byte.isDigit).reverse ++
      ((behind buffer stop).takeWhile Byte.isDigit).reverse := by
    rw [(Bytes.taken_reverse Byte.isDigit _).2, behind, List.reverse_reverse]
  rw [slice?_eq short within, front, List.drop_left' (List.length_reverse ..)]

/-- The scan from the last byte of a count on finds what the other finds. -/
theorem findDigits_eq (within : position < buffer.length) (word : buffer.length < limit) :
    (skipDigits buffer position >>= findSeparator buffer (position + 1)) =
      ofScan buffer (Marker.scanSeparator
        ((behind buffer (position + 1)).takeWhile Byte.isDigit).reverse
        ((behind buffer (position + 1)).dropWhile Byte.isDigit)) := by
  have sliced := @slice_count buffer (position + 1) within
  have digits : ∀ byte ∈ ((behind buffer (position + 1)).takeWhile Byte.isDigit).reverse,
      Byte.isDigit byte = true := (Bytes.taken_reverse Byte.isDigit _).1
  have suffix := List.dropWhile_suffix Byte.isDigit (l := behind buffer (position + 1))
  rw [skipDigits_eq within, reach]
  split
  · rename_i none
    rw [List.length_eq_zero_iff.mp (Nat.le_zero.mp none)]
    rfl
  · rename_i some
    obtain ⟨inside, same⟩ := behind_reached suffix (by omega) within
    rw [← Nat.sub_add_cancel (show 1 ≤ ((behind buffer (position + 1)).dropWhile
      Byte.isDigit).length by omega)] at sliced
    rw [found_bind, findSeparator_eq sliced digits inside word, same]

/-- The scan from the back finds what the other finds. -/
theorem findCount_eq (inside : 0 < position) (within : position < buffer.length)
    (word : buffer.length < limit) :
    findCount buffer position =
      ofScan buffer (Marker.scanCount (behind buffer (position + 1))) := by
  have suffix := List.dropWhile_suffix Byte.isBlank (l := behind buffer (position + 1))
  rw [findCount, skipBlanks_eq inside within, Marker.scanCount, reach]
  split
  · rename_i short
    match left : (behind buffer (position + 1)).dropWhile Byte.isBlank with
    | [] => rfl
    | [only] => cases digit : Byte.isDigit only <;> simp [digit, Marker.scanSeparator, ofScan]
    | first :: second :: front => simp [left] at short
  · rename_i long
    obtain ⟨reached, same⟩ := behind_reached suffix (by omega) within
    generalize (behind buffer (position + 1)).dropWhile Byte.isBlank = left at reached same ⊢
    generalize left.length - 1 = last at reached same ⊢
    subst same
    have first := behind_succ reached
    rw [found_bind, List.getElem?_eq_getElem reached, checked_some, found_bind]
    cases digit : Byte.isDigit buffer[last] with
    | false => simp [first, digit, ofScan]
    | true =>
      have some : ((behind buffer (last + 1)).takeWhile Byte.isDigit).reverse.isEmpty = false := by
        simp [first, digit]
      simp only [Bool.not_true, Bool.false_eq_true, ↓reduceIte, found_bind,
        add?_eq (show last + 1 < limit by omega), checked_some, some]
      exact findDigits_eq reached word

/-- The scan by indices finds what the other finds, and is stopped exactly where that faults. -/
theorem findMarker_eq (word : buffer.length < limit) :
    findMarker buffer = ofScan buffer (Marker.scan buffer) := by
  rw [findMarker, Marker.scan]
  by_cases short : buffer.length < Marker.leastLength
  · rw [if_pos short, if_pos short, absent_bind]
    rfl
  · have least : 9 ≤ buffer.length := Nat.le_of_not_lt short
    have within : buffer.length - 1 < buffer.length := by omega
    have back : buffer.reverse =
        buffer[buffer.length - 1] :: behind buffer (buffer.length - 1) := by
      rw [← behind_succ within, Nat.sub_add_cancel (by omega), behind, List.take_length]
    rw [if_neg short, if_neg short, back, Marker.dropTerminator]
    simp only [found_bind, sub?_eq (show 1 ≤ buffer.length by omega), checked_some,
      List.getElem?_eq_getElem within]
    split
    · rw [sub?_eq (by omega), checked_some, found_bind, findCount_eq (by omega) (by omega) word,
        Nat.sub_add_cancel (by omega)]
    · rw [← behind_succ within]
      exact findCount_eq (by omega) within word

end

end Indexed

end AgentLink
