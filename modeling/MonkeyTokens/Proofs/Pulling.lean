/-
# Ways of pulling tokens

Tokens are taken from a lexer in four ways: the next one with the end token at the end (`Lexer.next`),
the next one with nothing at the end (`Lexer.next?`), the one behind `n` others (`Lexer.nth?`), and all
that are left (`Lexer.drain`).  `Pull` names the four, so that a sequence of them is a list and one
lexer can be asked in any order of ways (`Lexer.pulls`).

All four are `Lexer.next`, some number of times.  `Lexer.pull_eq` says for each how often, which
depends only on how many tokens are still to come, and what it answers, which depends only on these
tokens.  A sequence is then bookkeeping: after any number of calls the tokens still to come are the
tokens of the source without as many (`Lexer.rest_after`).

The first call that meets the end may still move the lexer, over blanks behind the last token.  From
then on the lexer is at its end (`Lexer.Ended`), where no operation moves it or answers anything.
-/
import MonkeyTokens.Proofs.Runs

namespace MonkeyTokens

/-! ## 1. Operations and their answers -/

/-- A way of taking tokens from a lexer. -/
inductive Pull where
  /-- The next token, the end token at the end. -/
  | next
  /-- The next token, nothing at the end. -/
  | next?
  /-- The token behind `n` others. -/
  | nth (n : Nat)
  /-- All tokens before the end. -/
  | drain
  deriving DecidableEq

/-- What an operation answers. -/
inductive Pulled where
  | token (t : Token)
  | item (t : Option Token)
  | items (ts : List Token)
  deriving DecidableEq

/-- The answer shows that the end was met.  A drained lexer has met it in any case. -/
def Pulled.metEnd : Pulled → Bool
  | .token t => t.isEof
  | .item t => t.isNone
  | .items _ => true

namespace Lexer

/-- One operation on a lexer. -/
def pull (l : Lexer) : Pull → Pulled × Lexer
  | .next => (.token l.next.1, l.next.2)
  | .next? => (.item l.next?.1, l.next?.2)
  | .nth n => (.item (l.nth? n).1, (l.nth? n).2)
  | .drain => (.items l.rest, l.drain.2)

/-- A sequence of operations on one lexer. -/
def pulls (l : Lexer) : List Pull → List Pulled × Lexer
  | [] => ([], l)
  | op :: ops => ((l.pull op).1 :: ((l.pull op).2.pulls ops).1, ((l.pull op).2.pulls ops).2)

end Lexer

namespace Pull

/-- How many calls of `next` an operation is, where `left` tokens are still to come. -/
def steps (left : Nat) : Pull → Nat
  | .next | .next? => 1
  | .nth n => min n left + 1
  | .drain => left + 1

/-- The answer of an operation, where the tokens `rest` are still to come. -/
def answer (rest : List Token) : Pull → Pulled
  | .next => .token (rest[0]?.getD .eof)
  | .next? => .item rest[0]?
  | .nth n => .item rest[n]?
  | .drain => .items rest

/-- The answer at the end. -/
def atEnd : Pull → Pulled
  | .next => .token .eof
  | .next? | .nth _ => .item none
  | .drain => .items []

end Pull

/-! ## 2. Every operation is a number of calls -/

namespace Lexer

variable {source : Bytes} {l : Lexer}

theorem after_add (m n : Nat) (l : Lexer) : l.after (m + n) = (l.after m).after n := by
  induction n with
  | zero => rfl
  | succ n ih => rw [← Nat.add_assoc, after_succ, ih, after_succ]

/-- The lexer has met the end: it answers the end token and stays as it is. -/
def Ended (l : Lexer) : Prop :=
  l.next = (.eof, l)

/-- A call that meets the end passes all blanks that are left, so the next one passes none. -/
theorem ended_of_eof (h : l.next.1.isEof = true) : l.next.2.Ended := by
  obtain ⟨w, t, rest, hahead, hw, ⟨ht, -⟩ | ⟨rfl, rfl⟩, hnext⟩ := exists_next l
  · rw [hnext, ht.isEof_eq_false] at h
    exact absurd h (by simp)
  · rw [hnext]
    have hnil : (l.passing w.length (Token.eof).text.length).cursor.ahead = [] :=
      ahead_passing hahead
    have hstay := next_of_blank (l := l.passing w.length (Token.eof).text.length)
      (hnil ▸ blank_nil)
    rw [hnil] at hstay
    exact hstay

theorem rest_eq_nil_iff : l.rest = [] ↔ l.next.1.isEof = true := by
  constructor
  · intro h
    by_contra heof
    rw [rest_of_token (Bool.eq_false_iff.mpr heof)] at h
    exact absurd h (by simp)
  · exact rest_of_eof

theorem Ended.rest (h : l.Ended) : l.rest = [] :=
  rest_of_eof (by rw [show l.next = (.eof, l) from h]; rfl)

/-- A call takes the first of the tokens that are still to come. -/
theorem rest_next (l : Lexer) : l.next.2.rest = l.rest.tail := by
  cases h : l.next.1.isEof with
  | true => rw [rest_of_eof h, (ended_of_eof h).rest]; rfl
  | false => rw [rest_of_token h]; rfl

/-- `k` calls take `k` of them. -/
theorem rest_after (l : Lexer) : ∀ k, (l.after k).rest = l.rest.drop k
  | 0 => rfl
  | k + 1 => by rw [after_succ, rest_next, rest_after l k, List.tail_drop]

theorem next_fst (l : Lexer) : l.next.1 = l.rest[0]?.getD .eof := by
  cases h : l.next.1.isEof with
  | true => rw [rest_of_eof h, next_eq_eof h]; rfl
  | false => rw [rest_of_token h]; rfl

theorem next?_eq (l : Lexer) : l.next? = (l.rest[0]?, l.next.2) := by
  cases h : l.next.1.isEof with
  | true => rw [rest_of_eof h, next?]; simp [h]
  | false => rw [rest_of_token h, next?]; simp [h]

/-- The search for the token behind `n` others is `n + 1` calls, or as many as meet the end. -/
theorem nth?_eq : ∀ (n : Nat) (l : Lexer),
    l.nth? n = (l.rest[n]?, l.after (min n l.rest.length + 1))
  | 0, l => by rw [nth?, next?_eq, Nat.zero_min]; rfl
  | n + 1, l => by
    rw [nth?, next?_eq]
    cases hrest : l.rest with
    | nil => rfl
    | cons t ts =>
      have htail : l.next.2.rest = ts := by rw [rest_next, hrest]; rfl
      have ih := nth?_eq n l.next.2
      rw [htail] at ih
      rw [List.length_cons, Nat.add_min_add_right, after_succ_first]
      exact ih

/-- Draining calls until the end is met, that is once more than there are tokens. -/
theorem drain_snd (l : Lexer) : l.drain.2 = l.after (l.rest.length + 1) := by
  cases h : l.next.1.isEof with
  | true => rw [drain_of_eof h, rest_of_eof h]; rfl
  | false =>
    have ih := drain_snd l.next.2
    rw [drain_of_token h, rest_of_token h, List.length_cons, after_succ_first]
    exact ih
termination_by l.cursor.ahead.length
decreasing_by exact next_length_lt h

/-- **One operation.**  What it answers and how many calls it is are functions of the tokens that are
still to come. -/
theorem pull_eq (l : Lexer) (op : Pull) :
    l.pull op = (op.answer l.rest, l.after (op.steps l.rest.length)) := by
  cases op with
  | next => rw [pull, Pull.answer, ← next_fst]; rfl
  | next? => rw [pull, next?_eq]; rfl
  | nth n => rw [pull, nth?_eq]; rfl
  | drain => rw [pull, drain_snd]; rfl

/-! ## 3. At the end -/

theorem Ended.after (h : l.Ended) : ∀ k, l.after k = l
  | 0 => rfl
  | k + 1 => by
    rw [after_succ, h.after k, show l.next = (.eof, l) from h]

/-- At the end no operation moves the lexer. -/
theorem Ended.pull (h : l.Ended) (op : Pull) : l.pull op = (op.atEnd, l) := by
  rw [pull_eq, h.after, h.rest]
  cases op <;> rfl

theorem Ended.pulls (h : l.Ended) : ∀ ops : List Pull, l.pulls ops = (ops.map Pull.atEnd, l)
  | [] => rfl
  | op :: ops => by rw [Lexer.pulls, h.pull op, h.pulls ops]; rfl

/-- One call more than there are tokens meets the end. -/
theorem ended_after {k : Nat} (h : l.rest.length < k) : (l.after k).Ended := by
  obtain ⟨j, rfl⟩ : ∃ j, k = j + 1 := ⟨k - 1, by omega⟩
  refine ended_of_eof (rest_eq_nil_iff.mp ?_)
  rw [rest_after, List.drop_eq_nil_iff]
  omega

/-- An operation whose answer shows the end has met it. -/
theorem ended_of_metEnd {op : Pull} (hmet : (l.pull op).1.metEnd = true) :
    (l.pull op).2.Ended := by
  rw [pull_eq] at hmet ⊢
  -- in each case more calls were made than tokens were to come
  refine ended_after ?_
  cases op with
  | next =>
    have heof : l.next.1.isEof = true := by rw [next_fst]; exact hmet
    rw [rest_of_eof heof]
    exact Nat.zero_lt_one
  | next? =>
    have hle : l.rest.length ≤ 0 := List.getElem?_eq_none_iff.mp (Option.isNone_iff_eq_none.mp hmet)
    exact Nat.lt_succ_of_le hle
  | nth n =>
    have hle : l.rest.length ≤ n := List.getElem?_eq_none_iff.mp (Option.isNone_iff_eq_none.mp hmet)
    exact Nat.lt_succ_of_le (Nat.le_min.mpr ⟨hle, Nat.le_refl _⟩)
  | drain => exact Nat.lt_succ_self _

/-- Once one operation of a sequence has met the end, the lexer behind the sequence is there. -/
theorem ended_of_mem_pulls : ∀ (ops : List Pull) (l : Lexer) {a : Pulled},
    a ∈ (l.pulls ops).1 → a.metEnd = true → (l.pulls ops).2.Ended
  | [], _, _, ha, _ => absurd ha List.not_mem_nil
  | op :: ops, l, a, ha, hmet => by
    rcases List.mem_cons.mp ha with rfl | ha
    · have hended : (l.pull op).2.Ended := ended_of_metEnd hmet
      have hsame : ((l.pull op).2.pulls ops).2 = (l.pull op).2 := by rw [hended.pulls ops]
      rw [Lexer.pulls, hsame]
      exact hended
    · exact ended_of_mem_pulls ops (l.pull op).2 ha hmet

/-- The end is the end of the source. -/
theorem Ended.position (h : l.Ended) (hl : l.Within source) :
    l.cursor.position = source.length := by
  obtain ⟨w, t, rest, hcall⟩ := hl.exists_call
  have hnext : l.next = (.eof, l) := h
  have hleft := hcall.left
  have hanswer := hcall.answer
  rw [hnext] at hleft hanswer
  rcases hcall.spelled with ⟨ht, -⟩ | ⟨-, rfl⟩
  · have heof := ht.isEof_eq_false
    rw [← show Token.eof = t from hanswer] at heof
    exact absurd heof (by decide)
  · exact hleft.symm

/-- Nothing is to come exactly if only blanks are ahead. -/
theorem rest_eq_nil_iff_blank : l.rest = [] ↔ Blank l.cursor.ahead := by
  constructor
  · intro h
    rcases exists_spelled l.cursor.ahead with hblank | ⟨w, t, rest, hahead, hw, ht, hr⟩
    · exact hblank
    · rw [rest_of_spelled hahead hw ht hr] at h
      exact absurd h (by simp)
  · exact rest_of_blank

end Lexer

/-! ## 4. Sequences of operations -/

namespace Pull

/-- The tokens of a source that are still to come after `taken` calls. -/
def left (source : Bytes) (taken : Nat) : List Token :=
  (tokens source).drop taken

/-- The calls made behind a sequence of operations, if `taken` were made before it. -/
def stepsTaken (source : Bytes) : Nat → List Pull → Nat
  | taken, [] => taken
  | taken, op :: ops => stepsTaken source (taken + op.steps (left source taken).length) ops

/-- The answers of a sequence of operations behind `taken` calls. -/
def answers (source : Bytes) : Nat → List Pull → List Pulled
  | _, [] => []
  | taken, op :: ops =>
    op.answer (left source taken) ::
      answers source (taken + op.steps (left source taken).length) ops

end Pull

theorem Lexer.pulls_eq (source : Bytes) : ∀ (ops : List Pull) (taken : Nat),
    ((ofSource source).after taken).pulls ops =
      (Pull.answers source taken ops, (ofSource source).after (Pull.stepsTaken source taken ops))
  | [], _ => rfl
  | op :: ops, taken => by
    have hrest : ((ofSource source).after taken).rest = Pull.left source taken := by
      rw [rest_after, Pull.left, tokens_eq_rest]
    have hpull := pull_eq ((ofSource source).after taken) op
    rw [hrest, ← after_add] at hpull
    rw [Lexer.pulls, hpull, pulls_eq source ops, Pull.answers, Pull.stepsTaken]

/-- **All ways of pulling tokens agree.**  Whatever is asked of one lexer in whatever order, the
answers are those that the token list gives at the number of calls made so far, and the lexer is the
one behind that many calls.  Once an answer shows the end, the lexer stands behind the last byte, and
no later operation moves it or answers a token.  Nothing is answered exactly where only blanks are
ahead. -/
theorem pulls_agree (source : Bytes) (ops : List Pull) :
    let first := Lexer.ofSource source
    let answers := (first.pulls ops).1
    let last := (first.pulls ops).2
    answers = Pull.answers source 0 ops ∧
      last = first.after (Pull.stepsTaken source 0 ops) ∧
      ((∃ a ∈ answers, a.metEnd = true) → last.cursor.position = source.length ∧
        ∀ later : List Pull, last.pulls later = (later.map Pull.atEnd, last)) ∧
      (last.next?.1 = none ↔ Blank (source.drop last.cursor.position)) := by
  intro first answers last
  have hpulls : first.pulls ops = _ := Lexer.pulls_eq source ops 0
  have hlast : last = first.after (Pull.stepsTaken source 0 ops) := congrArg Prod.snd hpulls
  have hwithin : last.Within source := hlast ▸ Lexer.within_after source _
  refine ⟨congrArg Prod.fst hpulls, hlast, ?_, ?_⟩
  · rintro ⟨a, ha, hmet⟩
    have hended : last.Ended := Lexer.ended_of_mem_pulls ops first ha hmet
    exact ⟨hended.position hwithin, hended.pulls⟩
  · rw [Lexer.next?_eq, ← hwithin.ahead_eq, ← Lexer.rest_eq_nil_iff_blank]
    cases last.rest <;> simp

/-- On `a b ` the search for a sixth token passes the last blank and finds nothing, and then draining
finds nothing either; the second token is found by skipping one. -/
theorem pulls_agree_two_words :
    let first := Lexer.ofSource [97, 32, 98, 32]
    let last := (first.pulls [.next, .nth 5]).2
    (first.pulls [.nth 1, .next?]).1 = [.item (some ⟨.ident, [98]⟩), .item none] ∧
      (∃ a ∈ (first.pulls [.next, .nth 5]).1, a.metEnd = true) ∧
      last.cursor.position = 4 ∧
      last.pulls [.drain, .next] = ([.items [], .token .eof], last) := by
  intro first last
  have hmet : ∃ a ∈ (first.pulls [.next, .nth 5]).1, a.metEnd = true := by
    rw [(pulls_agree [97, 32, 98, 32] [.next, .nth 5]).1]
    exact ⟨.item none, by decide +kernel, rfl⟩
  obtain ⟨hposition, hlater⟩ := (pulls_agree [97, 32, 98, 32] [.next, .nth 5]).2.2.1 hmet
  refine ⟨?_, hmet, hposition, hlater [.drain, .next]⟩
  rw [(pulls_agree [97, 32, 98, 32] [.nth 1, .next?]).1]
  decide +kernel

end MonkeyTokens
