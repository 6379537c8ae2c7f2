/-
# Log lines

An event is logged on a line of its own: the time, the level in five columns, the message, and each
field as a name and a value with an equals sign between them.  In colour, the time and the equals
signs are dim, the level has its colour and the names are in italics.
-/
import MonkeyTokens.Event

namespace MonkeyTokens

/-- How a terminal shows a part of a line. -/
inductive Style where
  | dim
  | italic
  | red
  | green
  | yellow
  | blue
  | magenta

/-- The number that switches a style on. -/
def Style.code : Style → String
  | .dim => "2"
  | .italic => "3"
  | .red => "31"
  | .green => "32"
  | .yellow => "33"
  | .blue => "34"
  | .magenta => "35"

/-- A text in a style, with the terminal as before behind it; without colour, the text alone. -/
def Style.paint (style : Style) (colour : Bool) (text : String) : String :=
  if colour then "\x1b[" ++ style.code ++ "m" ++ text ++ "\x1b[0m" else text

/-- The colour of a level. -/
def Level.style : Level → Style
  | .error => .red
  | .warn => .yellow
  | .info => .green
  | .debug => .blue
  | .trace => .magenta

/-- The name of a level, aligned to the right in five columns. -/
def Level.column (l : Level) : String :=
  String.ofList (List.replicate (5 - l.name.length) ' ') ++ l.name

/-- The log line of an event at a time, without a line feed. -/
def Event.line (time : String) (colour : Bool) (e : Event) : String :=
  let field (f : String × FieldValue) : String :=
    " " ++ Style.italic.paint colour f.1 ++ Style.dim.paint colour "=" ++ f.2.render
  Style.dim.paint colour time ++ " " ++ e.level.style.paint colour e.level.column ++ " " ++
    e.message ++ String.join (e.fields.map field)

end MonkeyTokens
