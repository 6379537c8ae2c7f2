/-
# Token records

A token is written as one line, in one of two formats.  The text format shows kind and literal in
braces and has no escapes; the JSON format is an object with the members `type` and `literal`.  In
both the literal shows the bytes of the token one character each, so a byte that is not UTF-8 on its
own still makes a well-formed record.
-/
import MonkeyTokens.Lexer
import MonkeyTokens.Script
import MonkeyTokens.Text.Escapes

namespace MonkeyTokens

/-- How tokens are written. -/
inductive Format where
  | text
  | json
  deriving DecidableEq

namespace Format

/-- The name of a format in settings and on the command line. -/
def name : Format → String
  | .text => "text"
  | .json => "json"

/-- The format that a name stands for. -/
def ofName? (s : String) : Option Format :=
  [Format.text, .json].find? fun f => f.name == s

/-- A name stands for the format it is the name of. -/
theorem ofName?_name (f : Format) : ofName? f.name = some f := by
  cases f <;> decide

/-- The record of a token, without the line feed that ends it. -/
def record : Format → Token → List Char
  | .text, t =>
    "\x7bType:".toList ++ t.kind.name.toList ++ " Literal:".toList ++ Text.latin1 t.text ++
      "\x7d".toList
  | .json, t =>
    "\x7b\"type\":".toList ++ Text.jsonString t.kind.name.toList ++ ",\"literal\":".toList ++
      Text.jsonString (Text.latin1 t.text) ++ "\x7d".toList

/-- The steps that write a record.  The line feed behind a JSON object is not part of the object. -/
def write (format : Format) (t : Token) : List Step :=
  match format with
  | .text => [.write .plain (Text.utf8 (format.record t ++ ['\n']))]
  | .json => [.write .object (Text.utf8 (format.record t)), .write .plain (Text.utf8 ['\n'])]

end Format

/-- The steps that belong to a token: what the lexer reports of it, then its record. -/
def Placed.steps (format : Format) (p : Placed) : List Step :=
  p.events.map .report ++ format.write p.token

end MonkeyTokens
