/-
# Sessions

A session reads lines and answers each with the records of its tokens.  It opens with a banner, if
one is wanted, writes the prompt before every line it reads, and closes with a line feed when the
input ends.  Every line is scanned by a lexer of its own, so the lexer's events count lines from one
in each; the session itself knows the number of the line and reports illegal bytes with it.

A line ends behind its line feed, or with the input (`Input.lines`).  Where the input does not end
but breaks, the bytes behind the last line feed are no line: the prompt for it is written, and then
the fault is the result.

`Session.script` has the whole input before it.  A session that talks to someone has not: it asks for
a byte, and does what is to be done about it before it asks for the next (`Session.receive`).
-/
import MonkeyTokens.Record
import MonkeyTokens.Text.Classes

namespace MonkeyTokens

/-! ## 1. Input -/

/-- What is behind the last byte of an input. -/
inductive Ending where
  | endOfInput
  | broken (fault : Fault)
  deriving DecidableEq

/-- What a session reads. -/
structure Input where
  bytes : Bytes
  ending : Ending

/-- The lines of a text, each with its line feed.  Only the last one can be without. -/
def splitLines : Bytes → List Bytes
  | [] => []
  | b :: rest =>
    if b = Byte.lineFeed then [b] :: splitLines rest
    else
      match splitLines rest with
      | [] => [[b]]
      | line :: lines => (b :: line) :: lines

/-- Cutting into lines loses nothing. -/
theorem flatten_splitLines (bytes : Bytes) : (splitLines bytes).flatten = bytes := by
  induction bytes with
  | nil => rfl
  | cons b rest ih =>
    unfold splitLines
    split
    · simp [ih]
    · split
      · rename_i h
        rw [h] at ih
        simpa using ih
      · rename_i h
        rw [h] at ih
        simpa using ih

/-- A line that ends with its line feed. -/
def isFinished (line : Bytes) : Bool :=
  line.getLast? = some Byte.lineFeed

/-- The lines that an input delivers: all of them if it ends, the finished ones if it breaks. -/
def Input.lines (input : Input) : List Bytes :=
  match input.ending with
  | .endOfInput => splitLines input.bytes
  | .broken _ => (splitLines input.bytes).filter isFinished

/-! ## 2. Whom to greet -/

/-- The name in the banner: the first of the two that is set and not blank, as it is, and a general
address if neither is. -/
def greetedName (user userName : Option String) : String :=
  (([user, userName].filterMap id).find? fun name => !Text.isBlank name).getD "there"

/-! ## 3. The steps of a session -/

/-- How a session is set up. -/
structure Session where
  prompt : String
  greeting : Bool
  user : String
  format : Format

/-- The step that writes a plain text. -/
def Step.say (text : String) : Step :=
  .write .plain (Text.utf8String text)

namespace Session

/-- The banner, if there is one. -/
def opening (s : Session) : List Step :=
  if s.greeting then
    [.say ("Hello " ++ s.user ++ "! This is the Monkey programming language!\n"),
      .say "Feel free to type in commands\n"]
  else []

/-- What a session reports of a token, besides the lexer: an illegal byte, with the number of its
line in the input. -/
def remarks (number : Nat) (p : Placed) : List Event :=
  if p.token.isIllegal then [.illegalInput number p.location.column p.token.text] else []

/-- The steps that answer one token of line `number`. -/
def answerToken (s : Session) (number : Nat) (p : Placed) : List Step :=
  (p.events ++ remarks number p).map .report ++ s.format.write p.token

/-- The steps that answer line `number`: those of its tokens, without the end. -/
def answer (s : Session) (number : Nat) (line : Bytes) : List Step :=
  (Lexer.ofSource line).drain.1.flatMap (s.answerToken number)

/-- The steps that read and answer lines, the first of them numbered `number`. -/
def answers (s : Session) : Nat → List Bytes → List Step
  | _, [] => []
  | number, line :: lines =>
    .say s.prompt :: s.answer number line ++ s.answers (number + 1) lines

/-- The steps behind the last prompt when the input ends after `lines` lines. -/
def closing (lines : Nat) : List Step :=
  [.say "\n", .report (.endOfInput lines)]

/-- A whole session. -/
def script (s : Session) (input : Input) : Script Unit :=
  let steps := s.opening ++ s.answers 1 input.lines ++ [.say s.prompt]
  match input.ending with
  | .endOfInput => ⟨steps ++ closing input.lines.length, .ok ()⟩
  | .broken fault => ⟨steps, .error (.io fault)⟩

end Session

/-! ## 4. Byte by byte -/

/-- What comes of asking an input for a byte.  Where it has ended it may be asked again. -/
inductive Received where
  | byte (b : UInt8)
  | ending (e : Ending)

/-- How far a session has come: the number of lines that it has answered, and the bytes that are there
of the next one. -/
structure Session.Progress where
  answered : Nat
  begun : Array UInt8

/-- No byte has been asked for. -/
def Session.Progress.start : Progress :=
  ⟨0, #[]⟩

namespace Session

/-- The steps before the first byte is asked for. -/
def greet (s : Session) : List Step :=
  s.opening ++ [.say s.prompt]

/-- The next line is there: it is answered, and the prompt for the one behind it is written. -/
def turn (s : Session) (answered : Nat) (line : Array UInt8) : Script (Option Progress) :=
  ⟨s.answer (answered + 1) line.toList ++ [.say s.prompt], .ok (some ⟨answered + 1, #[]⟩)⟩

/-- What a session does about what it receives.  The progress behind that is the result; if there is
none, the session is over.  A line that has begun ends with the input as well as with its line feed,
and then the input is asked once more. -/
def receive (s : Session) (p : Progress) : Received → Script (Option Progress)
  | .byte b =>
    if b = Byte.lineFeed then s.turn p.answered (p.begun.push b)
    else ⟨[], .ok (some { p with begun := p.begun.push b })⟩
  | .ending .endOfInput =>
    if p.begun.isEmpty then ⟨closing p.answered, .ok none⟩ else s.turn p.answered p.begun
  | .ending (.broken fault) => ⟨[], .error (.io fault)⟩

end Session

end MonkeyTokens
