/-
# The lexer

A lexer is a cursor together with the place where its last token began.  `Lexer.read` skips blanks,
notes that place and cuts the longest token that starts there: a run of letters is a word, a run of
digits an integer, and any other byte is a token of its own, an operator or an illegal one.  Each of
the four has a function of its own (`Lexer.Cut`), and the first byte says which of them is called
(`Lexer.Cut.ofByte`).  Nothing is looked up in the text but the bytes under and directly behind the
cursor, so a lexer has no state beyond where it stands.

What is reported is made where it happens: an illegal byte by the function that cuts it, and then the
token by `read`.  So a token comes with its place and its events (`Placed`); `Lexer.next` is the same
call without them.  Which token a call cuts is said once more by two functions of the first byte,
`Lexer.tokenEnd` and `Lexer.tokenKind`, and the statements about scanning are about these.

At the end of the text a call answers the end token, as often as it is made, and reports nothing.
Before that every token takes at least one byte (`next_length_lt`), which is why a lexer can be
drained (`Lexer.drain`): the tokens it still yields, and the lexer that has met the end.
-/
import MonkeyTokens.Cursor
import MonkeyTokens.Event
import MonkeyTokens.Token

namespace MonkeyTokens

/-- A token, the place of its first byte, and what was reported when it was read. -/
structure Placed where
  token : Token
  location : Location
  events : List Event
  deriving DecidableEq

/-- A place in a text, and where the token before it began. -/
structure Lexer where
  cursor : Cursor
  tokenStart : Nat
  tokenLocation : Location

namespace Lexer

/-- A lexer before the first byte of a text. -/
def ofSource (source : Bytes) : Lexer :=
  ⟨.ofSource source, 0, .start⟩

@[simp] theorem ahead_ofSource (source : Bytes) : (ofSource source).cursor.ahead = source :=
  Cursor.ahead_ofSource source

/-! ## 1. Cutting a token -/

/-- What is cut out of a text: a token, the place behind it, and what was reported meanwhile. -/
structure Cut where
  token : Token
  stop : Cursor
  events : List Event

namespace Cut

/-- The bytes between two places, and no report. -/
def ofSpan (kind : Bytes → Kind) (start stop : Cursor) : Cut :=
  let text := stop.since start.position
  ⟨⟨kind text, text⟩, stop, []⟩

/-- A run of letters.  Its kind is looked up when the run has ended. -/
def word (start : Cursor) : Cut :=
  ofSpan Kind.ofWord start (start.eatWhile Byte.isLetter)

/-- A run of digits. -/
def integer (start : Cursor) : Cut :=
  ofSpan (fun _ => .int) start (start.eatWhile Byte.isDigit)

/-- A byte that is an operator or a delimiter. -/
def single (kind : Kind) (start : Cursor) : Cut :=
  ofSpan (fun _ => kind) start start.advance

/-- A byte that no token begins with.  It is reported. -/
def illegal (start : Cursor) : Cut :=
  let cut := ofSpan (fun _ => .illegal) start start.advance
  { cut with events := [.illegalCharacter cut.token.text start.location] }

/-- What is cut where the next byte is `b`. -/
def ofByte (b : UInt8) (start : Cursor) : Cut :=
  if Byte.isLetter b then word start
  else if Byte.isDigit b then integer start
  else
    match Kind.ofByte? b with
    | some kind => single kind start
    | none => illegal start

/-- The answer of a call that has cut a token at `start`: its place and, behind what was reported
meanwhile, the report of the token. -/
def answer (start : Cursor) (cut : Cut) : Placed × Lexer :=
  (⟨cut.token, start.location,
      cut.events ++ [.token cut.token.kind cut.token.text start.location]⟩,
    ⟨cut.stop, start.position, start.location⟩)

end Cut

/-- **One call**: the next token with its place and its reports, and the lexer behind it. -/
def read (l : Lexer) : Placed × Lexer :=
  let start := l.cursor.skipBlanks
  match start.current with
  | none => (⟨.eof, start.location, []⟩, ⟨start, start.position, start.location⟩)
  | some b => (Cut.ofByte b start).answer start

/-- The next token, and the lexer behind it. -/
def next (l : Lexer) : Token × Lexer :=
  let answer := l.read
  (answer.1.token, answer.2)

/-! ## 2. What the first byte decides -/

/-- The end of the token that begins at `start` with the byte `b`: behind the run of letters or of
digits that `b` opens, and directly behind `b` otherwise. -/
def tokenEnd (start : Cursor) (b : UInt8) : Cursor :=
  if Byte.isLetter b then start.eatWhile Byte.isLetter
  else if Byte.isDigit b then start.eatWhile Byte.isDigit
  else start.advance

/-- The kind of a token with the first byte `b`. -/
def tokenKind (b : UInt8) (text : Bytes) : Kind :=
  if Byte.isLetter b then .ofWord text
  else if Byte.isDigit b then .int
  else (Kind.ofByte? b).getD .illegal

theorem Cut.stop_ofByte (b : UInt8) (start : Cursor) : (ofByte b start).stop = tokenEnd start b := by
  unfold ofByte tokenEnd
  split
  · rfl
  · split
    · rfl
    · cases Kind.ofByte? b <;> rfl

theorem Cut.token_ofByte (b : UInt8) (start : Cursor) :
    (ofByte b start).token = ⟨tokenKind b ((tokenEnd start b).since start.position),
      (tokenEnd start b).since start.position⟩ := by
  unfold ofByte tokenEnd tokenKind
  split
  · rfl
  · split
    · rfl
    · cases Kind.ofByte? b <;> rfl

theorem tokenKind_ne_eof (b : UInt8) (text : Bytes) : tokenKind b text ≠ .eof := by
  unfold tokenKind
  split
  · exact Kind.ofWord_ne rfl text
  · split
    · simp
    · cases h : Kind.ofByte? b with
      | none => simp
      | some k =>
        rintro rfl
        exact Kind.ofByte?_ne rfl b h

theorem Cut.events_ofSpan {kind : Bytes → Kind} {start stop : Cursor}
    (hkind : kind (stop.since start.position) ≠ .illegal) :
    (ofSpan kind start stop).events =
      if (ofSpan kind start stop).token.isIllegal then
        [.illegalCharacter (ofSpan kind start stop).token.text start.location]
      else [] := by
  have hlegal : (ofSpan kind start stop).token.isIllegal = false := decide_eq_false hkind
  rw [hlegal]
  rfl

/-- **A cut reports the illegal bytes and nothing else.** -/
theorem Cut.events_ofByte (b : UInt8) (start : Cursor) :
    (ofByte b start).events =
      if (ofByte b start).token.isIllegal then
        [.illegalCharacter (ofByte b start).token.text start.location]
      else [] := by
  unfold ofByte
  split
  · exact events_ofSpan (Kind.ofWord_ne rfl _)
  · split
    · exact events_ofSpan (by simp)
    · cases h : Kind.ofByte? b with
      | none => rfl
      | some k =>
        refine events_ofSpan ?_
        rintro rfl
        exact Kind.ofByte?_ne rfl b h

/-! ## 3. One call -/

theorem read_of_none {l : Lexer} (h : l.cursor.skipBlanks.current = none) :
    l.read = (⟨.eof, l.cursor.skipBlanks.location, []⟩, ⟨l.cursor.skipBlanks,
      l.cursor.skipBlanks.position, l.cursor.skipBlanks.location⟩) := by
  simp only [read, h]

theorem read_of_some {l : Lexer} {b : UInt8} (h : l.cursor.skipBlanks.current = some b) :
    l.read = (Cut.ofByte b l.cursor.skipBlanks).answer l.cursor.skipBlanks := by
  simp only [read, h]

theorem next_of_none {l : Lexer} (h : l.cursor.skipBlanks.current = none) :
    l.next = (.eof, ⟨l.cursor.skipBlanks, l.cursor.skipBlanks.position,
      l.cursor.skipBlanks.location⟩) := by
  rw [next, read_of_none h]

theorem next_of_some {l : Lexer} {b : UInt8} (h : l.cursor.skipBlanks.current = some b) :
    l.next =
      (⟨tokenKind b ((tokenEnd l.cursor.skipBlanks b).since l.cursor.skipBlanks.position),
        (tokenEnd l.cursor.skipBlanks b).since l.cursor.skipBlanks.position⟩,
      ⟨tokenEnd l.cursor.skipBlanks b, l.cursor.skipBlanks.position,
        l.cursor.skipBlanks.location⟩) := by
  rw [next, read_of_some h]
  simp only [Cut.answer, Cut.token_ofByte, Cut.stop_ofByte]

/-- What is to be reported of a token at a place: an illegal byte first as such, then the token.  The
end of the text is not reported. -/
def reports (t : Token) (location : Location) : List Event :=
  if t.isEof then []
  else
    (if t.isIllegal then [.illegalCharacter t.text location] else []) ++
      [.token t.kind t.text location]

/-- A token at a place, with what is to be reported of it. -/
def placed (t : Token) (location : Location) : Placed :=
  ⟨t, location, reports t location⟩

@[simp] theorem location_placed (t : Token) (location : Location) :
    (placed t location).location = location := rfl

@[simp] theorem events_placed (t : Token) (location : Location) :
    (placed t location).events = reports t location := rfl

/-- **What a call reports is decided by its token and the place where that begins.** -/
theorem read_eq (l : Lexer) : l.read = (placed l.next.1 l.next.2.tokenLocation, l.next.2) := by
  cases h : l.cursor.skipBlanks.current with
  | none =>
    rw [next_of_none h, read_of_none h]
    rfl
  | some b =>
    have heof : (Cut.ofByte b l.cursor.skipBlanks).token.isEof = false := by
      rw [Cut.token_ofByte]
      exact decide_eq_false (tokenKind_ne_eof b _)
    rw [next, read_of_some h, Cut.answer, Cut.events_ofByte, placed, reports, heof]
    rfl

theorem tokenEnd_length_lt {start : Cursor} {b : UInt8} (h : start.current = some b) :
    (tokenEnd start b).ahead.length < start.ahead.length := by
  unfold tokenEnd
  split
  · rename_i hb
    exact Cursor.eatWhile_length_lt h hb
  · split
    · rename_i hb
      exact Cursor.eatWhile_length_lt h hb
    · exact Cursor.advance_length_lt h

/-- A token other than the end takes at least one byte. -/
theorem next_length_lt {l : Lexer} (h : l.next.1.isEof = false) :
    l.next.2.cursor.ahead.length < l.cursor.ahead.length := by
  cases hc : l.cursor.skipBlanks.current with
  | none => simp [next_of_none hc, Token.isEof, Token.eof] at h
  | some b =>
    rw [next_of_some hc]
    exact Nat.lt_of_lt_of_le (tokenEnd_length_lt hc) (Cursor.eatWhile_length_le _ _)

/-! ## 4. Many tokens -/

/-- The tokens before the end, and the lexer that has met the end. -/
def drain (l : Lexer) : List Placed × Lexer :=
  match _h : l.read with
  | (placed, l') =>
    if _ht : placed.token.isEof = false then
      let (tokens, last) := l'.drain
      (placed :: tokens, last)
    else ([], l')
termination_by l.cursor.ahead.length
decreasing_by
  have hnext : l.next = (placed.token, l') := by rw [next, _h]
  have hlt := next_length_lt (l := l) (by rw [hnext]; exact _ht)
  rwa [hnext] at hlt

/-- A lexer that meets the end yields nothing. -/
theorem drain_of_eof {l : Lexer} (h : l.next.1.isEof = true) : l.drain = ([], l.next.2) := by
  rw [drain.eq_def]
  split
  rename_i placed l' hread
  have hnext : l.next = (placed.token, l') := by rw [next, hread]
  rw [hnext] at h ⊢
  simp [h]

/-- A lexer that reads a token yields it, and then what the lexer behind it yields. -/
theorem drain_of_token {l : Lexer} (h : l.next.1.isEof = false) :
    l.drain = (l.read.1 :: l.next.2.drain.1, l.next.2.drain.2) := by
  rw [drain.eq_def]
  split
  rename_i placed l' hread
  have hnext : l.next = (placed.token, l') := by rw [next, hread]
  rw [hnext] at h ⊢
  simp [h, hread]

/-- The next token, or nothing at the end of the text. -/
def next? (l : Lexer) : Option Token × Lexer :=
  let (token, l') := l.next
  if token.isEof then (none, l') else (some token, l')

/-- The token after `n` others.  The search ends at the end of the text. -/
def nth? : Nat → Lexer → Option Token × Lexer
  | 0, l => l.next?
  | n + 1, l =>
    match l.next? with
    | (none, last) => (none, last)
    | (some _, l') => nth? n l'

/-- The tokens before the end. -/
def rest (l : Lexer) : List Token :=
  l.drain.1.map (·.token)

end Lexer

/-- The tokens of a text with the places where they start, and the end token behind them. -/
def placedTokens (source : Bytes) : List Placed :=
  let (tokens, last) := (Lexer.ofSource source).drain
  tokens ++ [⟨.eof, last.tokenLocation, []⟩]

/-- The tokens of a text, with the end token behind them. -/
def tokenize (source : Bytes) : List Token :=
  (placedTokens source).map (·.token)

/-- What the lexer reports of a whole text. -/
def tokenEvents (source : Bytes) : List Event :=
  (placedTokens source).flatMap (·.events)

end MonkeyTokens
