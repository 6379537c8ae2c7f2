/-
# Where the tokens of a text start

A lexer gives the place of a token as a line and a column.  Behind both stands an offset, and offsets
are easier to reason about, because the tokens of a text and those of a longer one that contains it
differ in them by a constant.  `positioned` is the list of the tokens of a text with the offsets of
their first bytes.  It is tied to the rest in two ways.

* **To the lexer.**  What a lexer in a source still yields are these tokens, each with the location of
  its offset (`Lexer.Within.drain_eq`), so `placedTokens` is `positioned` in other words
  (`placedTokens_eq`).
* **To the way a text is spelled.**  Behind blanks and a token the others follow, moved by what is in
  front of them (`positioned_of_spelled`); and the tokens of two texts that stand apart are those of
  the first and, moved by its length, those of the second (`positioned_append_of_apart`).
-/
import MonkeyTokens.Proofs.Restart

namespace MonkeyTokens

/-! ## 1. Tokens with their offsets -/

/-- A token and the offset of its first byte. -/
structure Positioned where
  token : Token
  position : Nat
  deriving DecidableEq

namespace Positioned

/-- The same token behind `n` more bytes. -/
def shift (n : Nat) (p : Positioned) : Positioned :=
  ⟨p.token, n + p.position⟩

/-- The token with the location of its offset. -/
def placed (source : Bytes) (p : Positioned) : Placed :=
  Lexer.placed p.token (.ofOffset source p.position)

@[simp] theorem shift_shift (m n : Nat) (p : Positioned) :
    (p.shift n).shift m = p.shift (m + n) := by
  rw [shift, shift, shift, Nat.add_assoc]

/-- Moving on and moving on again is moving on by the sum. -/
theorem map_shift_shift (m n : Nat) (ps : List Positioned) :
    (ps.map (shift n)).map (shift m) = ps.map (shift (m + n)) := by
  simp only [List.map_map, Function.comp_def, shift_shift]

end Positioned

namespace Lexer

variable {source : Bytes} {p : Nat} {l m : Lexer}

/-- The tokens that a lexer still yields, with the offsets where they start. -/
def positioned (l : Lexer) : List Positioned :=
  (List.range l.rest.length).map fun k => ⟨(l.after k).next.1, (l.after (k + 1)).tokenStart⟩

/-! ## 2. What a lexer yields -/

theorem positioned_of_eof (h : l.next.1.isEof = true) : l.positioned = [] := by
  rw [positioned, rest_of_eof h]
  rfl

theorem positioned_of_token (h : l.next.1.isEof = false) :
    l.positioned = ⟨l.next.1, l.next.2.tokenStart⟩ :: l.next.2.positioned := by
  have hlater : ∀ k, l.after (k + 1) = l.next.2.after k := fun k => after_succ_first k l
  rw [positioned, rest_of_token h, List.length_cons, List.range_succ_eq_map, List.map_cons,
    List.map_map]
  simp only [Function.comp_def, Nat.succ_eq_add_one, hlater]
  rfl

/-- **A lexer in a source places its tokens at the locations of their offsets.** -/
theorem Within.drain_eq {l : Lexer} (h : l.Within source) :
    l.drain.1 = l.positioned.map (Positioned.placed source) := by
  cases heof : l.next.1.isEof with
  | true => rw [drain_of_eof heof, positioned_of_eof heof]; rfl
  | false =>
    obtain ⟨_, _, _, hcall⟩ := h.exists_call
    have ih := hcall.within.drain_eq
    rw [drain_of_token heof, positioned_of_token heof, List.map_cons, ih, read_eq,
      hcall.tokenLocation]
    rfl
termination_by l.cursor.ahead.length
decreasing_by exact next_length_lt heof

/-- Two lexers side by side yield the same tokens, at offsets that differ by that of the cut. -/
theorem Alongside.positioned (h : Alongside source p l m) :
    l.positioned = m.positioned.map (.shift p) := by
  have hrest : l.rest = m.rest := rest_congr _ l m rfl h.ahead_eq.symm
  rw [Lexer.positioned, Lexer.positioned, hrest, List.map_map]
  refine List.map_congr_left fun k _ => ?_
  obtain ⟨htoken, hstart, -⟩ := (h.after k).next
  rw [Function.comp_apply, Positioned.shift, htoken, after_succ, hstart, after_succ]

end Lexer

/-- The tokens of a text without the end token, with the offsets where they start. -/
def positioned (source : Bytes) : List Positioned :=
  (Lexer.ofSource source).positioned

/-- **Every token is at the location of its offset**, and behind the last one is the end. -/
theorem placedTokens_eq (source : Bytes) :
    ∃ loc, placedTokens source =
      (positioned source).map (Positioned.placed source) ++ [Lexer.placed .eof loc] :=
  ⟨_, by rw [positioned, ← (Lexer.within_ofSource source).drain_eq]; rfl⟩

/-- Without their offsets they are the tokens of the text. -/
theorem token_positioned (source : Bytes) : (positioned source).map (·.token) = tokens source := by
  rw [tokens_eq_rest, Lexer.rest, (Lexer.within_ofSource source).drain_eq, List.map_map]
  rfl

/-! ## 3. By the way a text is spelled -/

theorem positioned_of_blank {w : Bytes} (hw : Blank w) : positioned w = [] :=
  Lexer.positioned_of_eof (by
    rw [Lexer.next_of_blank (l := .ofSource w) ((Lexer.ahead_ofSource w).symm ▸ hw)]
    rfl)

theorem positioned_of_spelled {w rest : Bytes} {t : Token} (hw : Blank w) (ht : t.WellFormed)
    (hr : Apart t.text rest) :
    positioned (w ++ (t.text ++ rest)) =
      ⟨t, w.length⟩ :: (positioned rest).map (.shift (w.length + t.text.length)) := by
  generalize hs : w ++ (t.text ++ rest) = source
  have hahead : (Lexer.ofSource source).cursor.ahead = w ++ (t.text ++ rest) :=
    (Lexer.ahead_ofSource source).trans hs.symm
  have hnext := Lexer.next_of_spelled hahead hw ht hr
  have hposition : ∀ n, n ≤ source.length →
      ((Lexer.ofSource source).cursor.advanceBy n).position = n := fun n hn =>
    Cursor.position_atOffset hn
  have hlength : source.length = w.length + t.text.length + rest.length := by
    rw [← hs]
    simp only [List.length_append, Nat.add_assoc]
  have hdrop : source.drop (w.length + t.text.length) = rest := by
    rw [← hs, ← List.append_assoc, ← List.length_append, List.drop_left]
  -- behind the token the lexer stands beside a fresh one on the rest
  have hbeside : Lexer.Alongside source (w.length + t.text.length) (Lexer.ofSource source).next.2
      (.ofSource rest) := by
    obtain ⟨_, _, _, hcall⟩ := (Lexer.within_ofSource source).exists_call
    refine ⟨hcall.within, hdrop ▸ Lexer.within_ofSource _, ?_⟩
    rw [hnext]
    exact hposition _ (by omega)
  have htoken : (Lexer.ofSource source).next.1.isEof = false := by
    rw [hnext]
    exact ht.isEof_eq_false
  have hstart : (Lexer.ofSource source).next.2.tokenStart = w.length := by
    rw [hnext]
    exact hposition _ (by omega)
  rw [positioned, Lexer.positioned_of_token htoken, hbeside.positioned, hstart, hnext, positioned]

/-- Blanks in front of a text move its tokens. -/
theorem positioned_blank_append {w : Bytes} (hw : Blank w) (s : Bytes) :
    positioned (w ++ s) = (positioned s).map (.shift w.length) := by
  rcases exists_spelled s with hs | ⟨v, t, rest, rfl, hv, ht, hr⟩
  · rw [positioned_of_blank (blank_append hw hs), positioned_of_blank hs]
    rfl
  · rw [← List.append_assoc, positioned_of_spelled (blank_append hw hv) ht hr,
      positioned_of_spelled hv ht hr, List.map_cons, Positioned.map_shift_shift, List.length_append,
      Nat.add_assoc]
    rfl

/-- **Texts that stand apart keep their tokens**, those of the second text behind the first. -/
theorem positioned_append_of_apart {a b : Bytes} (h : Apart a b) :
    positioned (a ++ b) = positioned a ++ (positioned b).map (.shift a.length) := by
  induction a using spelled_induction with
  | blank w hw => rw [positioned_blank_append hw, positioned_of_blank hw, List.nil_append]
  | token w t rest hw ht hr ih =>
    have hrest : Apart (t.text ++ rest) b := h.of_append_left
    rw [List.append_assoc, List.append_assoc,
      positioned_of_spelled hw ht (hr.append_right hrest), positioned_of_spelled hw ht hr,
      ih hrest.of_append_left, List.map_append, Positioned.map_shift_shift, List.cons_append]
    simp only [List.length_append, Nat.add_assoc]

/-- A token stands in the text at its offset. -/
theorem exists_of_mem_positioned {p : Positioned} {s : Bytes} (h : p ∈ positioned s) :
    p.token.WellFormed ∧ ∃ front rest, s = front ++ (p.token.text ++ rest) ∧
      front.length = p.position := by
  induction s using spelled_induction generalizing p with
  | blank w hw =>
    rw [positioned_of_blank hw] at h
    exact absurd h List.not_mem_nil
  | token w t rest hw ht hr ih =>
    rw [positioned_of_spelled hw ht hr] at h
    rcases List.mem_cons.mp h with rfl | h
    · exact ⟨ht, w, rest, rfl, rfl⟩
    · obtain ⟨q, hq, rfl⟩ := List.mem_map.mp h
      obtain ⟨hwf, front, back, rfl, hlength⟩ := ih hq
      refine ⟨hwf, w ++ (t.text ++ front), back, by simp [Positioned.shift], ?_⟩
      simp only [List.length_append, hlength, Positioned.shift, Nat.add_assoc]

/-- **A token stands where the tokens before it end.**  Its offset cuts the text into a part whose
tokens are the ones before it, the text of the token, and a part whose tokens are the ones behind. -/
theorem exists_of_positioned_eq {source : Bytes} {before after : List Positioned} {q : Positioned}
    (h : positioned source = before ++ q :: after) :
    ∃ front rest, source = front ++ (q.token.text ++ rest) ∧ front.length = q.position ∧
      tokens front = before.map (·.token) ∧ tokens rest = after.map (·.token) := by
  induction source using spelled_induction generalizing before q after with
  | blank w hw =>
    rw [positioned_of_blank hw] at h
    exact absurd h.symm (by simp)
  | token w t rest hw ht hr ih =>
    rw [positioned_of_spelled hw ht hr] at h
    cases before with
    | nil =>
      obtain ⟨rfl, rfl⟩ := List.cons.inj h
      refine ⟨w, rest, rfl, rfl, tokens_of_blank hw, ?_⟩
      rw [← token_positioned, List.map_map]
      rfl
    | cons p before =>
      rw [List.cons_append] at h
      obtain ⟨rfl, hlater⟩ := List.cons.inj h
      obtain ⟨before, more, hrest, rfl, hmore⟩ := List.map_eq_append_iff.mp hlater
      obtain ⟨q, after, rfl, rfl, rfl⟩ := List.map_eq_cons_iff.mp hmore
      obtain ⟨front, back, rfl, hlength, hfront, hback⟩ := ih hrest
      refine ⟨w ++ (t.text ++ front), back, by simp [Positioned.shift], ?_, ?_, ?_⟩
      · simp only [List.length_append, hlength, Positioned.shift, Nat.add_assoc]
      · rw [tokens_of_spelled hw ht hr.of_append_right, hfront, List.map_cons, List.map_map]
        rfl
      · rw [hback, List.map_map]
        rfl

end MonkeyTokens
