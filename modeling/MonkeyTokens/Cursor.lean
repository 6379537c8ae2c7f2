/-
# Cursors

A cursor stands in front of a byte of a text.  It moves forward only, one byte at a time, or as long
as a test holds, and the test may carry a state from byte to byte.

What is stored are the six values of `Cursor.Fields`: the text, two offsets, the byte at the first of
them, its line and its column.  Each is updated by itself, and most of them could be computed from the
rest; they are stored so that a look at the next byte reads no text.  Every operation is defined on
these fields, whatever they hold.

A text and an offset decide the others (`Fields.Consistent`).  That is true of fresh fields, and every
move keeps it (`Fields.Consistent.advance`, `Fields.Consistent.eatWhileFrom`), so a `Cursor` is fields
with the proof of it, and its moves are those of its fields.  What a cursor does can then be said by
the bytes ahead of it (`ahead_advance`, `eatWhileFrom_of_cons`), and so it is said everywhere but in
the statements about stored fields.
-/
import MonkeyTokens.Location

namespace MonkeyTokens

/-! ## 1. What is stored -/

/-- The fields of a cursor. -/
structure Cursor.Fields where
  /-- The text. -/
  bytes : Array UInt8
  /-- The offset of the next byte. -/
  position : Nat
  /-- The offset of the byte behind the next one. -/
  peekPosition : Nat
  /-- The next byte, or nothing at the end of the text. -/
  current : Option UInt8
  /-- The line and the column of the next byte. -/
  location : Location

namespace Cursor.Fields

/-- The fields in front of the first byte of a text, which is read already. -/
def ofSource (source : Bytes) : Fields :=
  let bytes := source.toArray
  ⟨bytes, 0, 1, bytes[0]?, .start⟩

/-- The whole text. -/
def source (c : Fields) : Bytes :=
  c.bytes.toList

/-- The byte after the next one. -/
def peek (c : Fields) : Option UInt8 :=
  c.bytes[c.peekPosition]?

/-- There is no next byte. -/
def atEnd (c : Fields) : Bool :=
  c.current.isNone

/-- The bytes from the cursor on. -/
def ahead (c : Fields) : Bytes :=
  (c.bytes.extract (min c.position c.bytes.size) c.bytes.size).toList

/-- The bytes between an offset and the cursor, if these are in order and in the text. -/
def since? (c : Fields) (start : Nat) : Option Bytes :=
  if start ≤ c.position ∧ c.position ≤ c.bytes.size then
    some (c.bytes.extract start c.position).toList
  else none

/-- The bytes between an offset and the cursor, for an offset that is known to be in order. -/
def since (c : Fields) (start : Nat) : Bytes :=
  (c.since? start).getD []

/-! ## 2. Moving -/

/-- Passes the next byte; where there is none, nothing happens. -/
def advance (c : Fields) : Fields :=
  match c.current with
  | none => c
  | some leaving =>
    { c with
      location := c.location.pass leaving
      position := c.peekPosition
      peekPosition := c.peekPosition + 1
      current := c.bytes[c.peekPosition]? }

/-- How many bytes can be passed at most. -/
def left (c : Fields) : Nat :=
  if c.current.isSome then c.bytes.size - c.peekPosition + 1 else 0

theorem left_advance_lt {c : Fields} {b : UInt8} (h : c.current = some b) :
    c.advance.left < c.left := by
  unfold advance left
  rw [h]
  by_cases hlt : c.peekPosition < c.bytes.size
  · simp [hlt]
    omega
  · simp [hlt]

/-- Passes bytes as long as the test holds.  The test sees every byte once and in order, the one it
refuses included, and hands a state on from byte to byte; its last state is returned. -/
def eatWhileFrom {σ : Type} (test : σ → UInt8 → Bool × σ) (s : σ) (c : Fields) : Fields × σ :=
  match _h : c.current with
  | none => (c, s)
  | some b =>
    match test s b with
    | (true, s') => eatWhileFrom test s' c.advance
    | (false, s') => (c, s')
termination_by c.left
decreasing_by exact left_advance_lt _h

/-- Passes the blanks before the next token. -/
def skipBlanks (c : Fields) : Fields :=
  (c.eatWhileFrom (fun s b => (Byte.isBlank b, s)) ()).1

section Scan

variable {σ : Type} {test : σ → UInt8 → Bool × σ} {s : σ} {c : Fields}

theorem eatWhileFrom_of_none (h : c.current = none) : c.eatWhileFrom test s = (c, s) := by
  rw [eatWhileFrom.eq_def]
  split
  · rfl
  · rename_i b hb
    exact absurd (h.symm.trans hb) (by simp)

theorem eatWhileFrom_of_some {b : UInt8} (h : c.current = some b) :
    c.eatWhileFrom test s =
      if (test s b).1 then c.advance.eatWhileFrom test (test s b).2 else (c, (test s b).2) := by
  rw [eatWhileFrom.eq_def]
  split
  · rename_i hnone
    exact absurd (h.symm.trans hnone) (by simp)
  · rename_i b' hb
    obtain rfl : b = b' := Option.some.inj (h.symm.trans hb)
    split
    · rename_i htest
      rw [htest, if_pos rfl]
    · rename_i htest
      rw [htest]
      rfl

end Scan

/-! ## 3. What ties the fields to each other -/

/-- **The text and the position decide what else is stored**, except for the location. -/
structure Consistent (c : Fields) : Prop where
  position_le : c.position ≤ c.bytes.size
  peekPosition_eq : c.peekPosition = c.position + 1
  current_eq : c.current = c.bytes[c.position]?

namespace Consistent

variable {c : Fields}

theorem ofSource (source : Bytes) : (Fields.ofSource source).Consistent :=
  ⟨Nat.zero_le _, rfl, rfl⟩

/-- **One step keeps it.**  Where there is a next byte the position is not at the end, so the step
leads to an offset of the text. -/
theorem advance (h : c.Consistent) : c.advance.Consistent := by
  unfold Fields.advance
  split
  · exact h
  · rename_i b hb
    rw [h.current_eq] at hb
    obtain ⟨hlt, -⟩ := Array.getElem?_eq_some_iff.mp hb
    exact ⟨by rw [h.peekPosition_eq]; exact hlt, rfl, rfl⟩

/-- **So does a scan**, whatever its test answers. -/
theorem eatWhileFrom (h : c.Consistent) {σ : Type} (test : σ → UInt8 → Bool × σ) (s : σ) :
    (c.eatWhileFrom test s).1.Consistent := by
  fun_induction Fields.eatWhileFrom test s c with
  | case1 => exact h
  | case2 s c b hb s' htest ih => exact ih h.advance
  | case3 => exact h

end Consistent

end Cursor.Fields

/-- A place in a text. -/
structure Cursor extends Cursor.Fields where
  consistent : toFields.Consistent

namespace Cursor

/-- Cursors are the same if their fields are. -/
theorem toFields_inj {c d : Cursor} : c.toFields = d.toFields ↔ c = d := by
  constructor
  · intro h
    cases c
    cases d
    cases h
    rfl
  · rintro rfl
    rfl

/-! ## 4. Moving a cursor -/

/-- A cursor before the first byte of a text. -/
def ofSource (source : Bytes) : Cursor :=
  ⟨.ofSource source, .ofSource source⟩

/-- Passes one byte; at the end of the text nothing happens. -/
def advance (c : Cursor) : Cursor :=
  ⟨c.toFields.advance, c.consistent.advance⟩

/-- Passes `n` bytes, or all that are left. -/
def advanceBy : Nat → Cursor → Cursor
  | 0, c => c
  | n + 1, c => advanceBy n c.advance

/-- Passes bytes as long as the test holds, and returns the last state of the test. -/
def eatWhileFrom {σ : Type} (test : σ → UInt8 → Bool × σ) (s : σ) (c : Cursor) : Cursor × σ :=
  let passed := c.toFields.eatWhileFrom test s
  (⟨passed.1, c.consistent.eatWhileFrom test s⟩, passed.2)

/-- Passes bytes as long as they belong to a class. -/
def eatWhile (p : UInt8 → Bool) (c : Cursor) : Cursor :=
  (eatWhileFrom (fun s b => (p b, s)) () c).1

/-- Passes at most `limit` bytes of a class. -/
def eatAtMost (p : UInt8 → Bool) (limit : Nat) (c : Cursor) : Cursor :=
  (eatWhileFrom (fun left b =>
    match left with
    | 0 => (false, 0)
    | left + 1 => if p b then (true, left) else (false, left + 1)) limit c).1

/-- Passes the blanks before the next token. -/
def skipBlanks (c : Cursor) : Cursor :=
  c.eatWhile Byte.isBlank

/-! ## 5. What a cursor does, by the bytes ahead of it -/

theorem Fields.ahead_eq (c : Fields) : c.ahead = c.source.drop c.position := by
  have hsize : c.source.length = c.bytes.size := Array.length_toList
  have hstart : c.source.drop (min c.position c.bytes.size) = c.source.drop c.position := by
    rw [List.drop_eq_drop_iff, hsize, Nat.min_assoc, Nat.min_self]
  rw [Fields.ahead, Array.toList_extract, List.extract_eq_take_drop, ← hstart]
  exact List.take_of_length_le (by simp)

/-- Where a slice is not refused, it is one. -/
theorem Fields.since?_of_le {c : Fields} {start : Nat} (hstart : start ≤ c.position)
    (hstop : c.position ≤ c.bytes.size) :
    c.since? start = some ((c.source.take c.position).drop start) := by
  rw [Fields.since?, if_pos ⟨hstart, hstop⟩, Array.toList_extract, List.extract_eq_take_drop,
    ← List.drop_take]
  rfl

@[simp] theorem ahead_ofSource (s : Bytes) : (ofSource s).ahead = s :=
  Fields.ahead_eq (.ofSource s)

/-- The next byte is the first one ahead. -/
theorem current_eq (c : Cursor) : c.current = c.ahead.head? := by
  rw [c.consistent.current_eq, Fields.ahead_eq, List.head?_drop]
  exact Array.getElem?_toList.symm

theorem current_of_nil {c : Cursor} (h : c.ahead = []) : c.current = none := by
  rw [current_eq, h]
  rfl

theorem current_of_cons {c : Cursor} {b : UInt8} {rest : Bytes} (h : c.ahead = b :: rest) :
    c.current = some b := by
  rw [current_eq, h]
  rfl

theorem atEnd_eq (c : Cursor) : c.atEnd = c.ahead.isEmpty := by
  rw [Fields.atEnd, current_eq]
  cases c.ahead <;> rfl

theorem advance_nil {c : Cursor} (h : c.ahead = []) : c.advance = c := by
  refine toFields_inj.mp ?_
  show c.toFields.advance = c.toFields
  rw [Fields.advance, current_of_nil h]

@[simp] theorem source_advance (c : Cursor) : c.advance.source = c.source := by
  show c.toFields.advance.source = c.source
  unfold Fields.advance
  split <;> rfl

theorem position_advance {c : Cursor} {b : UInt8} {rest : Bytes} (h : c.ahead = b :: rest) :
    c.advance.position = c.position + 1 := by
  show c.toFields.advance.position = c.position + 1
  rw [Fields.advance, current_of_cons h]
  exact c.consistent.peekPosition_eq

theorem location_advance {c : Cursor} {b : UInt8} {rest : Bytes} (h : c.ahead = b :: rest) :
    c.advance.location = c.location.pass b := by
  show c.toFields.advance.location = c.location.pass b
  rw [Fields.advance, current_of_cons h]

theorem ahead_advance (c : Cursor) : c.advance.ahead = c.ahead.tail := by
  cases h : c.ahead with
  | nil => rw [advance_nil h, h]; rfl
  | cons b rest =>
    rw [Fields.ahead_eq, source_advance, position_advance h, ← List.tail_drop, ← Fields.ahead_eq, h]

section Scan

variable {σ : Type} {test : σ → UInt8 → Bool × σ} {s : σ} {c : Cursor} {r : Cursor × σ}

/-- A scan of a cursor is the scan of its fields. -/
theorem eatWhileFrom_eq (h : c.toFields.eatWhileFrom test s = (r.1.toFields, r.2)) :
    c.eatWhileFrom test s = r := by
  refine Prod.ext (toFields_inj.mp ?_) ?_
  · show (c.toFields.eatWhileFrom test s).1 = r.1.toFields
    rw [h]
  · show (c.toFields.eatWhileFrom test s).2 = r.2
    rw [h]

theorem eatWhileFrom_of_nil (h : c.ahead = []) : c.eatWhileFrom test s = (c, s) :=
  eatWhileFrom_eq (Fields.eatWhileFrom_of_none (current_of_nil h))

/-- **One round of a scan**: the test is asked about the next byte, and the scan goes on with the
state that it hands on, or stops. -/
theorem eatWhileFrom_of_cons {b : UInt8} {rest : Bytes} (h : c.ahead = b :: rest) :
    c.eatWhileFrom test s =
      if (test s b).1 then c.advance.eatWhileFrom test (test s b).2 else (c, (test s b).2) := by
  have hround : c.toFields.eatWhileFrom test s = _ :=
    Fields.eatWhileFrom_of_some (current_of_cons h)
  split
  · rename_i htest
    exact eatWhileFrom_eq (hround.trans (if_pos htest))
  · rename_i htest
    exact eatWhileFrom_eq (hround.trans (if_neg htest))

end Scan

theorem eatWhile_of_nil {p : UInt8 → Bool} {c : Cursor} (h : c.ahead = []) : c.eatWhile p = c := by
  rw [eatWhile, eatWhileFrom_of_nil h]

theorem eatWhile_of_cons {p : UInt8 → Bool} {c : Cursor} {b : UInt8} {rest : Bytes}
    (h : c.ahead = b :: rest) : c.eatWhile p = if p b then c.advance.eatWhile p else c := by
  rw [eatWhile, eatWhileFrom_of_cons h]
  cases p b <;> rfl

/-- What is left ahead begins with the first byte outside the class. -/
theorem ahead_eatWhile (p : UInt8 → Bool) (c : Cursor) :
    (c.eatWhile p).ahead = c.ahead.dropWhile p := by
  generalize hn : c.ahead = bytes
  induction bytes generalizing c with
  | nil => rw [eatWhile_of_nil hn, hn]; rfl
  | cons b rest ih =>
    rw [eatWhile_of_cons hn]
    have hrest : c.advance.ahead = rest := by rw [ahead_advance, hn]; rfl
    cases hp : p b with
    | true => simpa [hp] using ih c.advance hrest
    | false => simp [hn, hp]

/-! ## 6. No step goes back -/

theorem eatWhile_length_le (p : UInt8 → Bool) (c : Cursor) :
    (c.eatWhile p).ahead.length ≤ c.ahead.length := by
  rw [ahead_eatWhile]
  exact (List.dropWhile_sublist p).length_le

/-- A test that holds of the next byte moves the cursor. -/
theorem eatWhile_length_lt {p : UInt8 → Bool} {c : Cursor} {b : UInt8}
    (hb : c.current = some b) (hp : p b = true) :
    (c.eatWhile p).ahead.length < c.ahead.length := by
  rw [current_eq] at hb
  obtain ⟨rest, h⟩ : ∃ rest, c.ahead = b :: rest := List.head?_eq_some_iff.1 hb
  rw [ahead_eatWhile, h, List.dropWhile_cons_of_pos hp]
  exact Nat.lt_succ_of_le (List.dropWhile_sublist p).length_le

theorem advance_length_lt {c : Cursor} {b : UInt8} (hb : c.current = some b) :
    c.advance.ahead.length < c.ahead.length := by
  rw [current_eq] at hb
  obtain ⟨rest, h⟩ : ∃ rest, c.ahead = b :: rest := List.head?_eq_some_iff.1 hb
  rw [ahead_advance, h]
  exact Nat.lt_succ_self _

end Cursor

end MonkeyTokens
