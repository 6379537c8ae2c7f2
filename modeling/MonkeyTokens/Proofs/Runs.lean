/-
# Runs of a lexer

`Lexer.after` is the lexer behind a number of calls of `next`.  Two things are said of it for every
number of calls.

* **The calls are the tokens.**  The answers of the first calls, the first end token included, are
  the token list (`tokenize_eq_calls`), so what holds of every call holds of every token.
* **The lexer stays in the source.**  Its cursor is the one that the source and the offset determine
  (`Lexer.Within`), before the first call and behind every other.  With this invariant a call is a
  statement about offsets: `Lexer.Call` names the gap, the token and what is left as parts of the
  source, and the places where they meet.
-/
import MonkeyTokens.Proofs.Scan

namespace MonkeyTokens

namespace Lexer

/-! ## 1. The calls are the tokens -/

/-- The lexer behind `k` calls of `next`. -/
def after : Nat → Lexer → Lexer
  | 0, l => l
  | k + 1, l => (after k l).next.2

theorem after_succ (k : Nat) (l : Lexer) : l.after (k + 1) = (l.after k).next.2 := rfl

/-- The first call can be told apart as well as the last. -/
theorem after_succ_first : ∀ (k : Nat) (l : Lexer), l.after (k + 1) = l.next.2.after k
  | 0, _ => rfl
  | k + 1, l => by rw [after_succ, after_succ_first k l, after_succ]

/-- The end token has no text. -/
theorem next_eq_eof {l : Lexer} (h : l.next.1.isEof = true) : l.next.1 = .eof := by
  obtain ⟨w, t, rest, -, -, hcase, hnext⟩ := exists_next l
  rw [hnext] at h ⊢
  rcases hcase with ⟨ht, -⟩ | ⟨rfl, -⟩
  · rw [ht.isEof_eq_false] at h
    exact absurd h (by simp)
  · rfl

/-- What a lexer still yields, and then the end token, are the answers of its next calls. -/
theorem rest_eq_calls (l : Lexer) :
    l.rest ++ [.eof] = (List.range (l.rest.length + 1)).map fun k => (l.after k).next.1 := by
  cases h : l.next.1.isEof with
  | true =>
    rw [rest_of_eof h]
    simp [after, next_eq_eof h]
  | false =>
    have ih := rest_eq_calls l.next.2
    have hfirst : ∀ k, (l.after (k + 1)).next.1 = (l.next.2.after k).next.1 := fun k => by
      rw [after_succ_first]
    rw [rest_of_token h, List.length_cons, List.range_succ_eq_map, List.map_cons, List.map_map,
      List.cons_append, ih]
    simp only [Function.comp_def, Nat.succ_eq_add_one, hfirst]
    rfl
termination_by l.cursor.ahead.length
decreasing_by exact next_length_lt h

end Lexer

/-- **The token list is the answers of as many calls.** -/
theorem tokenize_eq_calls (source : Bytes) :
    tokenize source = (List.range (tokenize source).length).map fun k =>
      ((Lexer.ofSource source).after k).next.1 := by
  have h := Lexer.rest_eq_calls (Lexer.ofSource source)
  rw [tokenize_eq_rest, List.length_append, List.length_singleton]
  exact h

/-- The last of these calls answers the end. -/
theorem last_call_eq_eof (source : Bytes) :
    ∃ n, (tokenize source).length = n + 1 ∧
      ((Lexer.ofSource source).after n).next.1 = .eof := by
  refine ⟨(tokens source).length, by rw [tokenize_eq_tokens]; simp, ?_⟩
  have hcalls := tokenize_eq_calls source
  rw [tokenize_eq_tokens, List.length_append, List.length_singleton, List.range_succ,
    List.map_append, List.map_singleton] at hcalls
  exact (List.singleton_inj.mp (List.append_inj' hcalls rfl).2).symm

namespace Lexer

/-! ## 2. The lexer stays in the source -/

/-- The lexer stands at an offset of the source, and its cursor is the one of that offset. -/
structure Within (source : Bytes) (l : Lexer) : Prop where
  position_le : l.cursor.position ≤ source.length
  cursor_eq : l.cursor = .atOffset source l.cursor.position

variable {source : Bytes}

theorem within_ofSource (source : Bytes) : (ofSource source).Within source :=
  ⟨Nat.zero_le _, rfl⟩

theorem Within.location_eq {l : Lexer} (h : l.Within source) :
    l.cursor.location = .ofOffset source l.cursor.position := by
  rw [h.cursor_eq, Cursor.location_atOffset h.position_le, Cursor.position_atOffset h.position_le]

theorem Within.ahead_eq {l : Lexer} (h : l.Within source) :
    l.cursor.ahead = source.drop l.cursor.position := by
  rw [h.cursor_eq, Cursor.ahead_atOffset, Cursor.position_atOffset h.position_le]

/-- **One call, in offsets.**  Ahead of the lexer are a gap `w`, the text of the token `t` and the
`rest`; the token starts behind the gap, and the lexer stands behind the token. -/
structure Call (source : Bytes) (l : Lexer) (w : Bytes) (t : Token) (rest : Bytes) : Prop where
  ahead : source.drop l.cursor.position = w ++ (t.text ++ rest)
  blank : Blank w
  spelled : t.WellFormed ∧ Apart t.text rest ∨ t = .eof ∧ rest = []
  answer : l.next.1 = t
  tokenStart : l.next.2.tokenStart = l.cursor.position + w.length
  tokenLocation : l.next.2.tokenLocation = .ofOffset source l.next.2.tokenStart
  position : l.next.2.cursor.position = l.next.2.tokenStart + t.text.length
  left : source.length = l.next.2.cursor.position + rest.length
  within : l.next.2.Within source

/-- Every call of a lexer in the source is of that form. -/
theorem Within.exists_call {l : Lexer} (h : l.Within source) :
    ∃ w t rest, Call source l w t rest := by
  obtain ⟨w, t, rest, hahead, hw, hcase, hnext⟩ := exists_next l
  have hdrop : source.drop l.cursor.position = w ++ (t.text ++ rest) := by
    rw [← h.ahead_eq, hahead]
  have hlen : source.length = l.cursor.position + w.length + t.text.length + rest.length := by
    have hcount := congrArg List.length hdrop
    simp only [List.length_drop, List.length_append] at hcount
    have := h.position_le
    omega
  -- the two places where the call stops are offsets of the source
  have hle : l.cursor.position + w.length ≤ source.length := by omega
  have hle' : l.cursor.position + (w.length + t.text.length) ≤ source.length := by omega
  have hstart : l.cursor.advanceBy w.length = .atOffset source (l.cursor.position + w.length) := by
    rw [← Cursor.atOffset_advanceBy, ← h.cursor_eq]
  have hstop : l.next.2.cursor =
      .atOffset source (l.cursor.position + (w.length + t.text.length)) := by
    rw [hnext, ← Cursor.atOffset_advanceBy, ← h.cursor_eq]
    rfl
  have htokenStart : l.next.2.tokenStart = l.cursor.position + w.length := by
    rw [hnext]
    show (l.cursor.advanceBy w.length).position = _
    rw [hstart, Cursor.position_atOffset hle]
  have htokenLocation : l.next.2.tokenLocation = .ofOffset source l.next.2.tokenStart := by
    rw [htokenStart, hnext]
    show (l.cursor.advanceBy w.length).location = _
    rw [hstart, Cursor.location_atOffset hle]
  have hposition : l.next.2.cursor.position = l.cursor.position + (w.length + t.text.length) := by
    rw [hstop, Cursor.position_atOffset hle']
  have hwithin : l.next.2.Within source := ⟨by omega, by rw [hposition, hstop]⟩
  exact ⟨w, t, rest, hdrop, hw, hcase, by rw [hnext], htokenStart, htokenLocation, by omega,
    by omega, hwithin⟩

/-- **All calls keep it there.** -/
theorem within_after (source : Bytes) : ∀ k, ((ofSource source).after k).Within source
  | 0 => within_ofSource source
  | k + 1 => by
    obtain ⟨w, t, rest, hcall⟩ := (within_after source k).exists_call
    exact hcall.within

end Lexer

end MonkeyTokens
