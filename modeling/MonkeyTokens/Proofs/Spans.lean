/-
# Where the tokens of a source stand

`Lexer.Spanned` collects what a call of `next` says about places: the gap before the token, the span
of the token in the source, and the lines and columns of both ends, as `Location.lineAt` and
`Location.columnAt` count them in the source.  It holds of every call of a run, the ones behind the
end included (`spans_of_run`).

So the spans and the gaps between them follow each other without holes.  Cut at the calls, a source
is its gaps and token texts in turn (`Lexer.take_eq_spans`), and since the last call of a token list
stands at the end, the tokens of a list tile the whole source.

Line and column are counters of 32 bits, so their statement is about sources that are too short for
them to wrap; everything else holds of sources of any length (`Lexer.Call.spanned`).
-/
import MonkeyTokens.Proofs.Runs

namespace MonkeyTokens

namespace Lexer

variable {source : Bytes}

/-! ## 1. The span of one token -/

/-- What a call of `next` on a source says about places. -/
structure Spanned (source : Bytes) (l : Lexer) : Prop where
  le_tokenStart : l.cursor.position ≤ l.next.2.tokenStart
  tokenStart_le : l.next.2.tokenStart ≤ l.next.2.cursor.position
  position_le : l.next.2.cursor.position ≤ source.length
  /-- Before the token there are only blanks. -/
  gap : Blank (source.extract l.cursor.position l.next.2.tokenStart)
  /-- The token is the slice of the source between its start and the new position. -/
  text : l.next.1.text = source.extract l.next.2.tokenStart l.next.2.cursor.position
  /-- A token takes a byte. -/
  progress : l.next.1.isEof = false → l.next.2.tokenStart < l.next.2.cursor.position
  /-- The end is at the end. -/
  atEnd : l.next.1.isEof = true →
    l.next.2.tokenStart = source.length ∧ l.next.2.cursor.position = source.length
  tokenLine : l.next.2.tokenLocation.line.toNat = Location.lineAt source l.next.2.tokenStart
  tokenColumn : l.next.2.tokenLocation.column.toNat = Location.columnAt source l.next.2.tokenStart
  line : l.next.2.cursor.location.line.toNat = Location.lineAt source l.next.2.cursor.position
  column : l.next.2.cursor.location.column.toNat =
    Location.columnAt source l.next.2.cursor.position

namespace Call

variable {l : Lexer} {w rest : Bytes} {t : Token}

/-- The gap is a slice of the source. -/
theorem gap_eq (h : Call source l w t rest) :
    source.extract l.cursor.position l.next.2.tokenStart = w := by
  rw [List.extract_eq_take_drop, h.ahead, h.tokenStart, Nat.add_sub_cancel_left, List.take_left]

/-- The text of the token is the slice behind it. -/
theorem text_eq (h : Call source l w t rest) :
    source.extract l.next.2.tokenStart l.next.2.cursor.position = t.text := by
  have hdrop : source.drop l.next.2.tokenStart = t.text ++ rest := by
    rw [h.tokenStart, ← List.drop_drop, h.ahead, List.drop_left]
  rw [List.extract_eq_take_drop, hdrop, h.position, Nat.add_sub_cancel_left, List.take_left]

/-- **A call on a short source is spanned.** -/
theorem spanned (h : Call source l w t rest) (hshort : source.length + 1 < UInt32.size) :
    Spanned source l where
  le_tokenStart := by rw [h.tokenStart]; omega
  tokenStart_le := by rw [h.position]; omega
  position_le := h.within.position_le
  gap := by rw [h.gap_eq]; exact h.blank
  text := by rw [h.text_eq, h.answer]
  progress := by
    intro heof
    rcases h.spelled with ⟨ht, -⟩ | ⟨rfl, -⟩
    · have hpos := List.length_pos_iff.mpr ht.text_ne_nil
      have := h.position
      omega
    · rw [h.answer] at heof
      exact absurd heof (by decide)
  atEnd := by
    intro heof
    rcases h.spelled with ⟨ht, -⟩ | ⟨rfl, rfl⟩
    · rw [h.answer, ht.isEof_eq_false] at heof
      exact absurd heof (by simp)
    · -- neither the token nor the rest has a byte
      have hleft : source.length = l.next.2.cursor.position := h.left
      have hposition : l.next.2.cursor.position = l.next.2.tokenStart := h.position
      exact ⟨by omega, by omega⟩
  tokenLine := by rw [h.tokenLocation, Location.line_ofOffset hshort]
  tokenColumn := by rw [h.tokenLocation, Location.column_ofOffset hshort]
  line := by rw [h.within.location_eq, Location.line_ofOffset hshort]
  column := by rw [h.within.location_eq, Location.column_ofOffset hshort]

end Call

/-! ## 2. The spans of a run -/

/-- The part of a source that a call takes: the gap and the text of the token. -/
def piece (source : Bytes) (l : Lexer) : Bytes :=
  source.extract l.cursor.position l.next.2.tokenStart ++ l.next.1.text

/-- What a call takes is the source between the positions before it and behind it. -/
theorem Call.take_position {l : Lexer} {w rest : Bytes} {t : Token} (h : Call source l w t rest) :
    source.take l.next.2.cursor.position = source.take l.cursor.position ++ piece source l := by
  have hposition : l.next.2.cursor.position = l.cursor.position + (w ++ t.text).length := by
    rw [h.position, h.tokenStart, List.length_append, Nat.add_assoc]
  rw [piece, h.gap_eq, h.answer, hposition, List.take_add, h.ahead, ← List.append_assoc,
    List.take_left]

/-- **The pieces of the first calls are the source up to the position behind them.** -/
theorem take_eq_spans (source : Bytes) : ∀ k,
    source.take ((ofSource source).after k).cursor.position =
      (List.range k).flatMap fun i => piece source ((ofSource source).after i)
  | 0 => rfl
  | k + 1 => by
    obtain ⟨w, t, rest, hcall⟩ := (within_after source k).exists_call
    rw [List.range_succ, List.flatMap_append, ← take_eq_spans source k, after_succ,
      hcall.take_position]
    simp

/-- Behind the calls of a token list the lexer stands at the end. -/
theorem position_after_tokenize (source : Bytes) :
    ((ofSource source).after (tokenize source).length).cursor.position = source.length := by
  obtain ⟨n, hn, hlast⟩ := last_call_eq_eof source
  obtain ⟨w, t, rest, hcall⟩ := (within_after source n).exists_call
  rcases hcall.spelled with ⟨ht, -⟩ | ⟨-, rfl⟩
  · have heof := ht.isEof_eq_false
    rw [← hcall.answer, hlast] at heof
    exact absurd heof (by decide)
  · rw [hn, after_succ]
    exact hcall.left.symm

end Lexer

/-- **Spans and locations of a run.**  Every call on a short source is spanned; the calls take the
source piece by piece, in order; and the calls of the token list take all of it. -/
theorem spans_of_run (source : Bytes) (hshort : source.length + 1 < UInt32.size) :
    (∀ k, Lexer.Spanned source ((Lexer.ofSource source).after k)) ∧
    (∀ k, source.take ((Lexer.ofSource source).after k).cursor.position =
      (List.range k).flatMap fun i => Lexer.piece source ((Lexer.ofSource source).after i)) ∧
    source = (List.range (tokenize source).length).flatMap fun i =>
      Lexer.piece source ((Lexer.ofSource source).after i) := by
  refine ⟨?_, Lexer.take_eq_spans source, ?_⟩
  · intro k
    obtain ⟨w, t, rest, hcall⟩ := (Lexer.within_after source k).exists_call
    exact hcall.spanned hshort
  · rw [← Lexer.take_eq_spans, Lexer.position_after_tokenize, List.take_length]

/-- On two lines: `x` stands behind a line feed and two blanks, on line 2 in column 3. -/
theorem spans_of_two_lines :
    ([108, 101, 116, 10, 32, 32, 120] : Bytes).length + 1 < UInt32.size ∧
      Lexer.Spanned [108, 101, 116, 10, 32, 32, 120]
        ((Lexer.ofSource [108, 101, 116, 10, 32, 32, 120]).after 1) ∧
      ((Lexer.ofSource [108, 101, 116, 10, 32, 32, 120]).after 1).next.1 = ⟨.ident, [120]⟩ ∧
      ((Lexer.ofSource [108, 101, 116, 10, 32, 32, 120]).after 2).tokenLocation = ⟨2, 3⟩ := by
  have hshort : ([108, 101, 116, 10, 32, 32, 120] : Bytes).length + 1 < UInt32.size := by decide
  exact ⟨hshort, (spans_of_run _ hshort).1 1, by decide +kernel, by decide +kernel⟩

end MonkeyTokens
