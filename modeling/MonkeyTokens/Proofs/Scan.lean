/-
# What one call of the lexer does, and what all calls yield

`Lexer.next` does one of two things.  Where only blanks are ahead it passes them and answers the end
token (`Lexer.next_of_blank`).  Otherwise the text ahead is spelled as blanks, a well-formed token and
a rest that stands apart from it, and `next` answers that token and stands behind it
(`Lexer.next_of_spelled`).  No other case exists (`exists_spelled`), so these two lemmas are the whole
of `next`, and nothing below opens its definition.

What a lexer still yields depends on the text ahead only (`Lexer.rest_eq_tokens`), and that text
decides it by two equations, `tokens_of_blank` and `tokens_of_spelled`.  Texts that stand apart are
scanned apart: `tokens_append_of_apart`.
-/
import MonkeyTokens.Lexer
import MonkeyTokens.Proofs.Moves
import MonkeyTokens.Proofs.Spelling

namespace MonkeyTokens

namespace Lexer

/-! ## 1. One call -/

/-- The lexer that has passed a gap and, behind it, a token of `length` bytes. -/
def passing (l : Lexer) (gap length : Nat) : Lexer :=
  ⟨l.cursor.advanceBy (gap + length), (l.cursor.advanceBy gap).position,
    (l.cursor.advanceBy gap).location⟩

theorem skipBlanks_of_blank {c : Cursor} {w rest : Bytes} (h : c.ahead = w ++ rest) (hw : Blank w)
    (hrest : ∀ y ∈ rest.head?, Byte.isBlank y = false) : c.skipBlanks = c.advanceBy w.length :=
  Cursor.eatWhile_of_run h hw hrest

/-- The cut that the first byte of a token decides on is the cut behind the token, and the kind it
decides on is the kind of the token. -/
theorem tokenEnd_of_token {start : Cursor} {b : UInt8} {t : Token} {rest : Bytes}
    (h : start.ahead = t.text ++ rest) (ht : t.WellFormed) (hr : Apart t.text rest)
    (hb : t.text.head? = some b) :
    tokenEnd start b = start.advanceBy t.text.length ∧ tokenKind b t.text = t.kind := by
  have hmem : b ∈ t.text := List.mem_of_head? hb
  rcases t.wellFormed_iff.mp ht with ⟨hne, hall, hk⟩ | ⟨hne, hall, hk⟩ | ⟨x, htext, hx, hk⟩
  · -- a word
    have hl : Byte.isLetter b = true := hall b hmem
    have hstop : ∀ y ∈ rest.head?, Byte.isLetter y = false :=
      head?_eq_false_of_apart (fun x y hx => Byte.joins_of_letter hx y) hne hall hr
    constructor
    · rw [tokenEnd, if_pos hl, Cursor.eatWhile_of_run h hall hstop]
    · rw [tokenKind, if_pos hl, hk]
  · -- an integer
    have hd : Byte.isDigit b = true := hall b hmem
    have hl : ¬ Byte.isLetter b = true := by simp [Byte.digit_not_letter hd]
    have hstop : ∀ y ∈ rest.head?, Byte.isDigit y = false :=
      head?_eq_false_of_apart (fun x y hx => Byte.joins_of_digit hx y) hne hall hr
    constructor
    · rw [tokenEnd, if_neg hl, if_pos hd, Cursor.eatWhile_of_run h hall hstop]
    · rw [tokenKind, if_neg hl, if_pos hd, hk]
  · -- a byte of its own
    obtain rfl : x = b := by simpa [htext] using hb
    simp only [Byte.isOther, Bool.and_eq_true, Bool.not_eq_true'] at hx
    constructor
    · rw [tokenEnd, if_neg (by simp [hx.1.2]), if_neg (by simp [hx.2]), htext]
      rfl
    · rw [tokenKind, if_neg (by simp [hx.1.2]), if_neg (by simp [hx.2]), hk]

/-- **Only blanks are ahead**: `next` passes them and answers the end. -/
theorem next_of_blank {l : Lexer} (h : Blank l.cursor.ahead) :
    l.next = (.eof, l.passing l.cursor.ahead.length 0) := by
  have hall : l.cursor.ahead = l.cursor.ahead ++ [] := (List.append_nil _).symm
  have hskip : l.cursor.skipBlanks = l.cursor.advanceBy l.cursor.ahead.length :=
    skipBlanks_of_blank hall h (by intro y hy; simp at hy)
  have hnone : l.cursor.skipBlanks.current = none := by
    rw [hskip, Cursor.current_eq, Cursor.ahead_advanceBy, List.drop_length]
    rfl
  rw [next_of_none hnone, hskip]
  rfl

/-- **A token is ahead**: `next` passes the blanks before it, answers it and stands behind it. -/
theorem next_of_spelled {l : Lexer} {w rest : Bytes} {t : Token}
    (h : l.cursor.ahead = w ++ (t.text ++ rest)) (hw : Blank w) (ht : t.WellFormed)
    (hr : Apart t.text rest) : l.next = (t, l.passing w.length t.text.length) := by
  obtain ⟨b, u, htext⟩ : ∃ b u, t.text = b :: u := List.exists_cons_of_ne_nil ht.text_ne_nil
  have hhead : t.text.head? = some b := by rw [htext]; rfl
  have hb : Byte.isBlank b = false := ht.not_blank b (List.mem_of_head? hhead)
  have hskip : l.cursor.skipBlanks = l.cursor.advanceBy w.length := by
    refine skipBlanks_of_blank h hw ?_
    intro y hy
    obtain rfl : b = y := by simpa [htext] using hy
    exact hb
  have hahead : l.cursor.skipBlanks.ahead = t.text ++ rest := by
    rw [hskip, Cursor.ahead_advanceBy, h, List.drop_left]
  have hcur : l.cursor.skipBlanks.current = some b := by
    rw [Cursor.current_eq, hahead, htext]
    rfl
  obtain ⟨hend, hkind⟩ := tokenEnd_of_token hahead ht hr hhead
  have hsince : (l.cursor.skipBlanks.advanceBy t.text.length).since
      l.cursor.skipBlanks.position = t.text := by
    rw [Cursor.since_advanceBy, hahead, List.take_left]
  rw [next_of_some hcur, hend, hsince, hkind, hskip, ← Cursor.advanceBy_add]
  rfl

/-- **What a call can do**, in one sentence: blanks are passed, then a token, and the token is the
end only if nothing is left. -/
theorem exists_next (l : Lexer) : ∃ w, ∃ t : Token, ∃ rest,
    l.cursor.ahead = w ++ (t.text ++ rest) ∧ Blank w ∧
      (t.WellFormed ∧ Apart t.text rest ∨ t = .eof ∧ rest = []) ∧
      l.next = (t, l.passing w.length t.text.length) := by
  rcases exists_spelled l.cursor.ahead with h | ⟨w, t, rest, h, hw, ht, hr⟩
  · exact ⟨l.cursor.ahead, .eof, [], (List.append_nil _).symm, h, .inr ⟨rfl, rfl⟩, next_of_blank h⟩
  · exact ⟨w, t, rest, h, hw, .inl ⟨ht, hr⟩, next_of_spelled h hw ht hr⟩

/-! ## 2. All calls -/

theorem rest_of_eof {l : Lexer} (h : l.next.1.isEof = true) : l.rest = [] := by
  rw [rest, drain_of_eof h]
  rfl

theorem rest_of_token {l : Lexer} (h : l.next.1.isEof = false) :
    l.rest = l.next.1 :: l.next.2.rest := by
  rw [rest, drain_of_token h]
  rfl

theorem rest_of_blank {l : Lexer} (h : Blank l.cursor.ahead) : l.rest = [] :=
  rest_of_eof (by rw [next_of_blank h]; rfl)

theorem rest_of_spelled {l : Lexer} {w rest : Bytes} {t : Token}
    (h : l.cursor.ahead = w ++ (t.text ++ rest)) (hw : Blank w) (ht : t.WellFormed)
    (hr : Apart t.text rest) : l.rest = t :: (l.passing w.length t.text.length).rest := by
  have hnext : l.next = (t, l.passing w.length t.text.length) := next_of_spelled h hw ht hr
  have heof : l.next.1.isEof = false := by rw [hnext]; exact ht.isEof_eq_false
  rw [rest_of_token heof, hnext]

/-- Behind a token the text ahead is what follows the token. -/
theorem ahead_passing {l : Lexer} {w text rest : Bytes}
    (h : l.cursor.ahead = w ++ (text ++ rest)) :
    (l.passing w.length text.length).cursor.ahead = rest := by
  show (l.cursor.advanceBy (w.length + text.length)).ahead = rest
  rw [Cursor.ahead_advanceBy, h, ← List.append_assoc, ← List.length_append, List.drop_left]

/-- What a lexer still yields depends on the text ahead of it only. -/
theorem rest_congr (s : Bytes) : ∀ l l' : Lexer, l.cursor.ahead = s → l'.cursor.ahead = s →
    l.rest = l'.rest := by
  induction s using spelled_induction with
  | blank w hw =>
    intro l l' h h'
    rw [rest_of_blank (h ▸ hw), rest_of_blank (h' ▸ hw)]
  | token w t rest hw ht hr ih =>
    intro l l' h h'
    rw [rest_of_spelled h hw ht hr, rest_of_spelled h' hw ht hr,
      ih _ _ (ahead_passing h) (ahead_passing h')]

end Lexer

/-- The tokens of a text without the end token. -/
def tokens (source : Bytes) : List Token :=
  (tokenize source).dropLast

theorem tokenize_eq_rest (source : Bytes) :
    tokenize source = (Lexer.ofSource source).rest ++ [.eof] := by
  simp [tokenize, placedTokens, Lexer.rest]

theorem tokens_eq_rest (source : Bytes) : tokens source = (Lexer.ofSource source).rest := by
  rw [tokens, tokenize_eq_rest, List.dropLast_concat]

theorem tokenize_eq_tokens (source : Bytes) : tokenize source = tokens source ++ [.eof] := by
  rw [tokens_eq_rest, tokenize_eq_rest]

/-- **A lexer has no memory for what it will yield.** -/
theorem Lexer.rest_eq_tokens (l : Lexer) : l.rest = tokens l.cursor.ahead := by
  rw [tokens_eq_rest]
  exact rest_congr _ l _ rfl (ahead_ofSource _)

/-! ## 3. The tokens of a text, by the way it is spelled -/

theorem tokens_of_blank {w : Bytes} (hw : Blank w) : tokens w = [] := by
  rw [tokens_eq_rest]
  exact Lexer.rest_of_blank (by rwa [Lexer.ahead_ofSource])

theorem tokens_of_spelled {w rest : Bytes} {t : Token} (hw : Blank w) (ht : t.WellFormed)
    (hr : Apart t.text rest) : tokens (w ++ (t.text ++ rest)) = t :: tokens rest := by
  have h : (Lexer.ofSource (w ++ (t.text ++ rest))).cursor.ahead = w ++ (t.text ++ rest) :=
    Lexer.ahead_ofSource _
  rw [tokens_eq_rest, Lexer.rest_of_spelled h hw ht hr, Lexer.rest_eq_tokens,
    Lexer.ahead_passing h]

theorem tokens_of_token {rest : Bytes} {t : Token} (ht : t.WellFormed)
    (hr : Apart t.text rest) : tokens (t.text ++ rest) = t :: tokens rest :=
  tokens_of_spelled blank_nil ht hr

theorem blank_append {w v : Bytes} (hw : Blank w) (hv : Blank v) : Blank (w ++ v) := by
  intro b hb
  rcases List.mem_append.mp hb with h | h
  · exact hw b h
  · exact hv b h

/-- Blanks in front of a text change nothing. -/
theorem tokens_blank_append {w : Bytes} (hw : Blank w) (s : Bytes) :
    tokens (w ++ s) = tokens s := by
  rcases exists_spelled s with hs | ⟨v, t, rest, rfl, hv, ht, hr⟩
  · rw [tokens_of_blank (blank_append hw hs), tokens_of_blank hs]
  · rw [← List.append_assoc, tokens_of_spelled (blank_append hw hv) ht hr,
      tokens_of_spelled hv ht hr]

/-- **Texts that stand apart are scanned apart.** -/
theorem tokens_append_of_apart {a b : Bytes} (h : Apart a b) :
    tokens (a ++ b) = tokens a ++ tokens b := by
  induction a using spelled_induction with
  | blank w hw => rw [tokens_blank_append hw, tokens_of_blank hw, List.nil_append]
  | token w t rest hw ht hr ih =>
    have hrest : Apart (t.text ++ rest) b := h.of_append_left
    rw [List.append_assoc, List.append_assoc,
      tokens_of_spelled hw ht (hr.append_right hrest), tokens_of_spelled hw ht hr,
      ih hrest.of_append_left, List.cons_append]

end MonkeyTokens
