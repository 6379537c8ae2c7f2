/-
# Events

What the program reports while it works, apart from its output: one event for every token, one more
for every illegal byte, and one for each larger step.  An event has a severity (`Event.level`), the
part of the program it comes from (`Event.origin`), a message and named fields in a fixed order.

`Level.admits` orders the severities: a listener at some level hears that level and all that are
more severe.
-/
import MonkeyTokens.Kind
import MonkeyTokens.Location
import MonkeyTokens.Text.Bytes

namespace MonkeyTokens

/-! ## 1. Severity -/

/-- How severe an event is, most severe first. -/
inductive Level where
  | error
  | warn
  | info
  | debug
  | trace
  deriving DecidableEq

namespace Level

/-- The position of a level, most severe first. -/
def rank : Level → Nat
  | .error => 0
  | .warn => 1
  | .info => 2
  | .debug => 3
  | .trace => 4

/-- A listener at level `l` hears events of level `e`. -/
def admits (l e : Level) : Bool :=
  e.rank ≤ l.rank

def name : Level → String
  | .error => "ERROR"
  | .warn => "WARN"
  | .info => "INFO"
  | .debug => "DEBUG"
  | .trace => "TRACE"

end Level

/-! ## 2. Events and their fields -/

/-- The value of a field. -/
inductive FieldValue where
  | number (n : Nat)
  | text (s : String)
  deriving DecidableEq

/-- How a value is written in a log line. -/
def FieldValue.render : FieldValue → String
  | .number n => toString n
  | .text s => s

/-- The part of the program an event comes from. -/
inductive Origin where
  | tokens
  | illegalBytes
  | dump
  | session
  | settings
  deriving DecidableEq

/-- The name by which a log filter speaks of an origin.  A filter may name any beginning of it, so
the origins of one component begin alike. -/
def Origin.name : Origin → String
  | .tokens => "monkey_lex::lexer::core"
  | .illegalBytes => "monkey_lex::lexer::operator"
  | .dump => "monkey::commands::tokenize"
  | .session => "monkey::commands::repl"
  | .settings => "monkey::config"

/-- What is reported. -/
inductive Event where
  /-- A token was read that is not the end. -/
  | token (kind : Kind) (text : Bytes) (location : Location)
  /-- A byte was read that belongs to no token. -/
  | illegalCharacter (text : Bytes) (location : Location)
  /-- All tokens of a source were written: how many, with the end token, and how many illegal. -/
  | tokenizedSource (tokens illegal : Nat)
  /-- A line of a session held an illegal byte; lines of a session are counted from one. -/
  | illegalInput (line : Nat) (column : UInt32) (text : Bytes)
  /-- A session met the end of its input after so many lines. -/
  | endOfInput (lines : Nat)
  /-- A source file is about to be read. -/
  | readingSource (path : String)
  /-- The settings were read from a file. -/
  | loadedConfiguration (path : String)
  deriving DecidableEq

namespace Event

def level : Event → Level
  | .token .. => .trace
  | .tokenizedSource .. => .info
  | _ => .debug

def origin : Event → Origin
  | .token .. => .tokens
  | .illegalCharacter .. => .illegalBytes
  | .tokenizedSource .. | .readingSource .. => .dump
  | .illegalInput .. | .endOfInput .. => .session
  | .loadedConfiguration .. => .settings

def message : Event → String
  | .token .. => "token"
  | .illegalCharacter .. => "illegal character"
  | .tokenizedSource .. => "tokenized source"
  | .illegalInput .. => "illegal input"
  | .endOfInput .. => "end of input"
  | .readingSource .. => "reading source"
  | .loadedConfiguration .. => "loaded configuration"

/-- The fields of an event in the order in which they are written. -/
def fields : Event → List (String × FieldValue)
  | .token kind text loc =>
    [("kind", .text kind.name), ("text", .text (Text.latin1String text)),
      ("line", .number loc.line.toNat), ("column", .number loc.column.toNat)]
  | .illegalCharacter text loc =>
    [("text", .text (Text.latin1String text)), ("line", .number loc.line.toNat),
      ("column", .number loc.column.toNat)]
  | .tokenizedSource tokens illegal => [("tokens", .number tokens), ("illegal", .number illegal)]
  | .illegalInput line column text =>
    [("line", .number line), ("column", .number column.toNat),
      ("text", .text (Text.latin1String text))]
  | .endOfInput lines => [("lines", .number lines)]
  | .readingSource path | .loadedConfiguration path => [("path", .text path)]

/-- The event has a field of that name; the message counts as one. -/
def hasField (e : Event) (name : String) : Bool :=
  name == "message" || e.fields.any (·.1 == name)

end Event

/-- The events that a listener at a level hears. -/
def Level.heard (l : Level) (events : List Event) : List Event :=
  events.filter fun e => l.admits e.level

end MonkeyTokens
