/-
# Where moves lead

A cursor is moved by single steps, over blanks, and over what a test accepts (`Cursor.Move`); the test
may remember what it has seen and answer as it likes.  Whatever it answers, it can only say how far
the cursor goes (`Cursor.exists_move_eq`), so after any moves the cursor is the one of an offset of
the text, `Cursor.atOffset`, and this offset is at most the length (`Cursor.exists_moves_eq`).

That is said of cursors, whose stored fields are tied to each other.  The moves of bare fields are
the same (`Cursor.toFields_moves`), so fields that were fresh once are those of a cursor, after any
moves, although each move writes them one by one.  Everything that they show is then a function of the
text and the offset.  `Cursor.Fields.Shows` lists it: the byte there and the one behind it, the line
and the column, what has been passed and what is left.  Two ways to one offset lead to the same six
fields (`shows_of_moves`), and the cursor of a lexer is never anywhere else (`Lexer.shows_after`).
-/
import MonkeyTokens.Proofs.Runs

namespace MonkeyTokens

namespace Cursor

/-! ## 1. Moves -/

/-- A way to move a cursor. -/
inductive Move : Type 1 where
  /-- One byte. -/
  | advance
  /-- All blanks up to the next other byte. -/
  | skipBlanks
  /-- All bytes up to the first one that a test refuses, which begins in the state `s`. -/
  | eatWhile {σ : Type} (test : σ → UInt8 → Bool × σ) (s : σ)

/-- One move, on the fields. -/
def Fields.move (c : Fields) : Move → Fields
  | .advance => c.advance
  | .skipBlanks => c.skipBlanks
  | .eatWhile test s => (c.eatWhileFrom test s).1

/-- Moves one after the other. -/
def Fields.moves (c : Fields) (ms : List Move) : Fields :=
  ms.foldl move c

/-- One move of a cursor. -/
def move (c : Cursor) : Move → Cursor
  | .advance => c.advance
  | .skipBlanks => c.skipBlanks
  | .eatWhile test s => (c.eatWhileFrom test s).1

def moves (c : Cursor) (ms : List Move) : Cursor :=
  ms.foldl move c

@[simp] theorem moves_cons (c : Cursor) (m : Move) (ms : List Move) :
    c.moves (m :: ms) = (c.move m).moves ms := rfl

theorem toFields_move (c : Cursor) (m : Move) : (c.move m).toFields = c.toFields.move m := by
  cases m <;> rfl

/-- **The fields of a cursor move with it.** -/
theorem toFields_moves (c : Cursor) (ms : List Move) :
    (c.moves ms).toFields = c.toFields.moves ms := by
  induction ms generalizing c with
  | nil => rfl
  | cons m ms ih =>
    rw [moves_cons, ih, toFields_move]
    rfl

/-- As many single steps. -/
theorem moves_replicate (n : Nat) (c : Cursor) :
    c.moves (List.replicate n .advance) = c.advanceBy n := by
  induction n generalizing c with
  | zero => rfl
  | succ n ih =>
    rw [List.replicate_succ, moves_cons, ih]
    rfl

/-! ## 2. Every move is a number of steps -/

/-- How many bytes at the beginning of a text a test accepts, where each answer hands the state of the
test on to the next byte. -/
def accepted {σ : Type} (test : σ → UInt8 → Bool × σ) : σ → Bytes → Nat
  | _, [] => 0
  | s, b :: rest => if (test s b).1 then accepted test (test s b).2 rest + 1 else 0

/-- **A test passes what it accepts**, byte by byte. -/
theorem eatWhileFrom_fst {σ : Type} (test : σ → UInt8 → Bool × σ) (s : σ) (c : Cursor) :
    (c.eatWhileFrom test s).1 = c.advanceBy (accepted test s c.ahead) := by
  generalize hn : c.ahead = bytes
  induction bytes generalizing s c with
  | nil => rw [eatWhileFrom_of_nil hn]; rfl
  | cons b rest ih =>
    have hrest : c.advance.ahead = rest := by rw [ahead_advance, hn]; rfl
    rw [eatWhileFrom_of_cons hn, accepted]
    split
    · exact ih _ _ hrest
    · rfl

theorem exists_move_eq (c : Cursor) (m : Move) : ∃ n, c.move m = c.advanceBy n := by
  cases m with
  | advance => exact ⟨1, rfl⟩
  | skipBlanks => exact ⟨_, eatWhileFrom_fst _ () c⟩
  | eatWhile test s => exact ⟨_, eatWhileFrom_fst test s c⟩

/-- No move goes back. -/
theorem position_le_move (c : Cursor) (m : Move) : c.position ≤ (c.move m).position := by
  obtain ⟨n, hn⟩ := c.exists_move_eq m
  rw [hn, position_advanceBy]
  exact Nat.le_add_right _ _

variable {source : Bytes} {p : Nat}

/-- One move leads from an offset of the text to an offset of the text. -/
theorem exists_move_atOffset (p : Nat) (m : Move) :
    ∃ q ≤ source.length, (atOffset source p).move m = atOffset source q := by
  obtain ⟨n, hn⟩ := (atOffset source p).exists_move_eq m
  refine ⟨min (p + n) source.length, Nat.min_le_right _ _, ?_⟩
  rw [hn, atOffset_advanceBy, ← atOffset_min]

/-- **So do any moves.** -/
theorem exists_moves_atOffset (hp : p ≤ source.length) (ms : List Move) :
    ∃ q ≤ source.length, (atOffset source p).moves ms = atOffset source q := by
  induction ms generalizing p with
  | nil => exact ⟨p, hp, rfl⟩
  | cons m ms ih =>
    obtain ⟨q, hq, hmove⟩ := exists_move_atOffset p m
    rw [moves_cons, hmove]
    exact ih hq

/-- Moves from the beginning lead to an offset of the text. -/
theorem exists_moves_eq (source : Bytes) (ms : List Move) :
    ∃ p ≤ source.length, (ofSource source).moves ms = atOffset source p :=
  exists_moves_atOffset (Nat.zero_le _) ms

/-! ## 3. What the fields show at an offset -/

/-- What the fields of a cursor in a text show. -/
structure Fields.Shows (source : Bytes) (c : Fields) : Prop where
  position_le : c.position ≤ source.length
  /-- The byte to look at is the one behind the position, also at the end. -/
  peekPosition : c.peekPosition = c.position + 1
  /-- The byte at the position; at the end there is none. -/
  current : c.current = source[c.position]?
  atEnd : c.atEnd = true ↔ c.position = source.length
  /-- A look ahead shows what one more step does. -/
  peek : c.peek = c.advance.current
  line : c.location.line.toNat = Location.lineAt source c.position
  column : c.location.column.toNat = Location.columnAt source c.position
  ahead : c.ahead = source.drop c.position
  source_eq : c.source = source
  /-- The text since a later offset is refused, and no other. -/
  since_eq_none : ∀ start, c.since? start = none ↔ c.position < start
  /-- The text since an offset and what is left are the text from the offset on. -/
  since_append : ∀ start text, c.since? start = some text → text ++ c.ahead = source.drop start
  forward : ∀ m, c.position ≤ (c.move m).position

namespace Fields.Consistent

variable {c : Fields}

/-- At the end a step does nothing, and there is nothing to look at behind the end either. -/
theorem peek_eq (h : c.Consistent) : c.peek = c.advance.current := by
  unfold Fields.peek Fields.advance
  split
  · rename_i hnone
    rw [h.current_eq, Array.getElem?_eq_none_iff] at hnone
    rw [h.current_eq, h.peekPosition_eq, Array.getElem?_eq_none hnone,
      Array.getElem?_eq_none (Nat.le_succ_of_le hnone)]
  · rfl

theorem current_eq_getElem? (h : c.Consistent) : c.current = c.source[c.position]? :=
  h.current_eq.trans Array.getElem?_toList.symm

theorem atEnd_iff (h : c.Consistent) : c.atEnd = true ↔ c.position = c.source.length := by
  have hle : c.position ≤ c.source.length := h.position_le
  rw [Fields.atEnd, Option.isNone_iff_eq_none, h.current_eq_getElem?, List.getElem?_eq_none_iff]
  omega

/-- The check of the upper end never fails. -/
theorem since?_eq_none_iff (h : c.Consistent) (start : Nat) :
    c.since? start = none ↔ c.position < start := by
  have hle := h.position_le
  rw [Fields.since?]
  split <;> simp <;> omega

/-- What is cut out and what is ahead make a part of the text. -/
theorem since?_append (h : c.Consistent) {start : Nat} {text : Bytes}
    (hcut : c.since? start = some text) : text ++ c.ahead = c.source.drop start := by
  have hstart : start ≤ c.position := by
    refine Nat.le_of_not_lt fun hlt => ?_
    rw [(h.since?_eq_none_iff start).mpr hlt] at hcut
    exact absurd hcut (by simp)
  rw [Fields.since?_of_le hstart h.position_le] at hcut
  have hlength : (c.source.take c.position).length = c.position :=
    List.length_take_of_le h.position_le
  rw [← Option.some.inj hcut, Fields.ahead_eq,
    ← List.drop_append_of_le_length (by rw [hlength]; exact hstart), List.take_append_drop]

end Fields.Consistent

/-- **The fields of a cursor show what is at its offset.** -/
theorem shows_atOffset (hshort : source.length + 1 < UInt32.size) (hp : p ≤ source.length) :
    (atOffset source p).toFields.Shows source := by
  have hsource : (atOffset source p).source = source := source_atOffset p
  have hposition : (atOffset source p).position = p := position_atOffset hp
  have hconsistent := (atOffset source p).consistent
  exact {
    position_le := by rw [hposition]; exact hp
    peekPosition := hconsistent.peekPosition_eq
    current := by rw [hconsistent.current_eq_getElem?, hsource]
    atEnd := by rw [hconsistent.atEnd_iff, hsource]
    peek := hconsistent.peek_eq
    line := by rw [hposition, location_atOffset hp, Location.line_ofOffset hshort]
    column := by rw [hposition, location_atOffset hp, Location.column_ofOffset hshort]
    ahead := by rw [Fields.ahead_eq, hsource]
    source_eq := hsource
    since_eq_none := hconsistent.since?_eq_none_iff
    since_append := by
      intro start text h
      rw [hconsistent.since?_append h, hsource]
    forward := by
      intro m
      rw [← toFields_move]
      exact position_le_move _ m }

end Cursor

/-- **The fields of a cursor are a function of its offset.**  Whatever moves have been made from the
beginning of a short text, the fields show what is at the offset.  Any number of single steps from
there leads as far as there are bytes, and to the fields that all other moves to that place lead
to. -/
theorem shows_of_moves (source : Bytes) (hshort : source.length + 1 < UInt32.size)
    (ms : List Cursor.Move) :
    let start := Cursor.Fields.ofSource source
    let c := start.moves ms
    c.Shows source ∧
      ∀ n, (c.moves (List.replicate n .advance)).position = min (c.position + n) source.length ∧
        ∀ others, (start.moves others).position = min (c.position + n) source.length →
          start.moves others = c.moves (List.replicate n .advance) := by
  intro start c
  -- all moves from the beginning lead to the fields of an offset
  have hmoves : ∀ ms, ∃ p ≤ source.length,
      start.moves ms = (Cursor.atOffset source p).toFields := by
    intro ms
    obtain ⟨p, hp, hcursor⟩ := Cursor.exists_moves_eq source ms
    exact ⟨p, hp, by rw [← hcursor, Cursor.toFields_moves]; rfl⟩
  obtain ⟨p, hp, hc⟩ := hmoves ms
  have hposition : c.position = p := by
    rw [show c = _ from hc, Cursor.position_atOffset hp]
  have hsteps : ∀ n, c.moves (List.replicate n .advance) =
      (Cursor.atOffset source (min (c.position + n) source.length)).toFields := by
    intro n
    rw [hposition, show c = _ from hc, ← Cursor.toFields_moves, Cursor.moves_replicate,
      Cursor.atOffset_advanceBy, Cursor.atOffset_min]
  refine ⟨?_, fun n => ⟨?_, ?_⟩⟩
  · rw [show c = _ from hc]
    exact Cursor.shows_atOffset hshort hp
  · rw [hsteps, Cursor.position_atOffset (Nat.min_le_right _ _)]
  · intro others hothers
    obtain ⟨q, hq, hsame⟩ := hmoves others
    rw [hsteps, ← hothers, hsame, Cursor.position_atOffset hq]

/-- In `ab` and, below it, ` c`: a test that accepts one letter and then nothing stops behind the `a`.
Behind one step more and all blanks the fields show the `c`, on line 2 in column 2.  Three steps from
there lead to the end, as does a test that accepts everything; the offset to look at is then behind
the end. -/
theorem shows_of_moves_two_lines :
    let source : Bytes := [97, 98, 10, 32, 99]
    let start := Cursor.Fields.ofSource source
    let one : Cursor.Move := .eatWhile (fun fresh b => (fresh && Byte.isLetter b, false)) true
    let all : Cursor.Move := .eatWhile (fun seen _ => (true, seen + 1)) 0
    let c := start.moves [one, .advance, .skipBlanks]
    source.length + 1 < UInt32.size ∧ (start.moves [one]).position = 1 ∧
      c.Shows source ∧ c.position = 4 ∧ c.current = some 99 ∧ c.location = ⟨2, 2⟩ ∧
      (start.moves [all]).position = min (c.position + 3) source.length ∧
      start.moves [all] = c.moves (List.replicate 3 .advance) ∧
      (start.moves [all]).peekPosition = 6 := by
  intro source start one all c
  have hshort : source.length + 1 < UInt32.size := by decide
  have hend : (start.moves [all]).position = min (c.position + 3) source.length := by decide +kernel
  obtain ⟨hshows, hsteps⟩ := shows_of_moves source hshort [one, .advance, .skipBlanks]
  exact ⟨hshort, by decide +kernel, hshows, by decide +kernel, by decide +kernel, by decide +kernel,
    hend, (hsteps 3).2 [all] hend, by decide +kernel⟩

/-- So the cursor of a lexer shows what is at its offset, behind any number of calls. -/
theorem Lexer.shows_after (source : Bytes) (hshort : source.length + 1 < UInt32.size) (k : Nat) :
    ((Lexer.ofSource source).after k).cursor.toFields.Shows source := by
  have hwithin := Lexer.within_after source k
  rw [hwithin.cursor_eq]
  exact Cursor.shows_atOffset hshort hwithin.position_le

end MonkeyTokens
