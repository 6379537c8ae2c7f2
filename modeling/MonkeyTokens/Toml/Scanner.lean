/-
# Scanners

A scanner takes characters from the front of a text and answers what they say, or why they say
nothing.  An alternative starts where the failed one started, so no scanner has to put anything
back.

Two ways to go on as long as possible end on every text, since there are no more rounds than
characters: `many` stops in front of the first thing that does not fit, `throughout` insists on
reaching the end of the text.
-/

namespace MonkeyTokens.Toml

/-! ## 1. Why a document is refused -/

/-- Why a document is not TOML. -/
inductive Error where
  /-- Something else was to stand here. -/
  | expected (what : String)
  /-- A number or a code point that is well formed and too large. -/
  | outOfRange (what : String)
  /-- Arrays, inline tables or dotted keys are nested too deeply. -/
  | tooDeep
  /-- A key or a table was given before. -/
  | duplicateKey (key : String)
  /-- A key leads through something that is no table. -/
  | notATable (key : String)
  deriving DecidableEq

/-- The text of a refusal. -/
def Error.message : Error → String
  | .expected what => "expected " ++ what
  | .outOfRange what => what ++ " is out of range"
  | .tooDeep => "nested too deeply"
  | .duplicateKey key => "duplicate key " ++ key
  | .notATable key => "not a table: " ++ key

/-! ## 2. Scanners and single characters -/

/-- Takes characters from the front of a text. -/
abbrev Scanner := StateT (List Char) (Except Error)

namespace Scanner

/-- Fails with what was to stand here. -/
def wanted {α : Type} (what : String) : Scanner α :=
  throw (.expected what)

/-- One character of a class. -/
def satisfy (what : String) (p : Char → Bool) : Scanner Char := do
  match ← get with
  | c :: rest => if p c then set rest; return c else wanted what
  | [] => wanted what

/-- One given character. -/
def char (c : Char) : Scanner Unit := do
  let _ ← satisfy (String.singleton c) (· == c)

/-- Given characters in a row. -/
def word (cs : List Char) : Scanner Unit :=
  cs.forM char

/-- The characters of a class from here on, possibly none. -/
def takeWhile (p : Char → Bool) : Scanner (List Char) := do
  let cs ← get
  set (cs.dropWhile p)
  return cs.takeWhile p

/-- The next character, which stays where it is. -/
def peek? : Scanner (Option Char) := do
  return (← get).head?

/-! ## 3. Combinations -/

/-- What a scanner answers, without taking anything. -/
def ahead {α : Type} (p : Scanner α) : Scanner α := do
  let cs ← get
  let a ← p
  set cs
  return a

/-- What a scanner answers, or nothing where it fails. -/
def optional {α : Type} (p : Scanner α) : Scanner (Option α) :=
  (some <$> p) <|> pure none

/-- The answers of a scanner used as often as it fits, but no more often than `bound` has characters,
and the text behind them. -/
def manyWithin {α : Type} (p : Scanner α) : List Char → List Char → List α × List Char
  | [], cs => ([], cs)
  | _ :: bound, cs =>
    match p.run cs with
    | .error _ => ([], cs)
    | .ok (a, rest) =>
      let (as, last) := manyWithin p bound rest
      (a :: as, last)

/-- A scanner as often as it fits, possibly never. -/
def many {α : Type} (p : Scanner α) : Scanner (List α) := do
  let cs ← get
  let (as, rest) := manyWithin p cs cs
  set rest
  return as

/-- A scanner once or more often, with a separator between any two. -/
def sepBy1 {α : Type} (p : Scanner α) (separator : Scanner Unit) : Scanner (List α) := do
  let first ← p
  return first :: (← many (do separator; p))

/-- Steps from state to state until the text ends, but no more of them than `bound` has characters. -/
def throughoutWithin {σ : Type} (step : σ → Scanner σ) :
    List Char → σ → List Char → Except Error σ
  | _, s, [] => .ok s
  | [], _, _ :: _ => .error (.expected "end of input")
  | _ :: bound, s, c :: cs =>
    match (step s).run (c :: cs) with
    | .error e => .error e
    | .ok (s, rest) => throughoutWithin step bound s rest

/-- Steps from state to state until the text ends.  Each has to take a character, or the end is not
reached. -/
def throughout {σ : Type} (step : σ → Scanner σ) (s : σ) (cs : List Char) : Except Error σ :=
  throughoutWithin step cs s cs

end Scanner

/-! ## 4. Blanks, comments and line ends -/

open Scanner

/-- A space or a tab. -/
def isBlank (c : Char) : Bool :=
  c == ' ' || c == '\t'

/-- Any character but the controls; a tab counts as text. -/
def isPlain (c : Char) : Bool :=
  c == '\t' || (' ' ≤ c && c != '\x7f')

/-- The blanks from here on. -/
def blanks : Scanner Unit := do
  let _ ← takeWhile isBlank

/-- A line feed, with or without a carriage return before it. -/
def newline : Scanner Unit :=
  char '\n' <|> word ['\r', '\n']

/-- A comment up to the end of its line. -/
def comment : Scanner Unit := do
  char '#'
  let _ ← takeWhile isPlain

/-- The end of a line, which may be the end of the document. -/
def lineEnd : Scanner Unit := do
  match ← peek? with
  | none => return
  | some _ => newline

/-- What may stand behind the last word of a line. -/
def trailing : Scanner Unit := do
  blanks
  let _ ← optional comment
  lineEnd

/-- Blanks, comments and line ends, which may stand between the items of an array. -/
def gap : Scanner Unit := do
  let _ ← many ((do let _ ← satisfy "a blank" isBlank) <|> newline <|> comment)

end MonkeyTokens.Toml
