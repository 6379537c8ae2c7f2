/-
# TOML strings

Four forms: basic strings in double quotes, which know escapes, literal strings in single quotes,
which do not, and the multi-line form of each in triple quotes.  A multi-line string drops the line
end directly behind its opening quotes, reads every line end as a line feed, and may hold one or two
quotes in a row anywhere, the last two places before its closing quotes included.
-/
import MonkeyTokens.Text.Bytes
import MonkeyTokens.Toml.Scanner

namespace MonkeyTokens.Toml

open Scanner

/-! ## 1. Escapes -/

/-- A code point in exactly `n` hexadecimal digits.  Surrogates are no characters. -/
def codePoint (n : Nat) : Scanner Char := do
  let digits ← (List.replicate n ()).mapM fun _ => satisfy "a hexadecimal digit" Text.isHexDigit
  let value := Text.digitsValue 16 digits
  if value.isValidChar then return Char.ofNat value
  else throw (.outOfRange "code point")

/-- The character that an escape stands for. -/
def escape : Scanner Char := do
  char '\\'
  match ← satisfy "an escape" fun _ => true with
  | 'b' => return '\x08'
  | 'f' => return '\x0c'
  | 'n' => return '\n'
  | 'r' => return '\r'
  | 't' => return '\t'
  | 'u' => codePoint 4
  | 'U' => codePoint 8
  | '\\' => return '\\'
  | '"' => return '"'
  | _ => wanted "an escape"

/-! ## 2. Strings on one line -/

/-- A character that stands for itself in a basic string. -/
def isBasic (c : Char) : Bool :=
  isPlain c && c != '"' && c != '\\'

/-- A character that stands for itself in a literal string. -/
def isLiteral (c : Char) : Bool :=
  isPlain c && c != '\''

def basicString : Scanner (List Char) := do
  char '"'
  let cs ← many (satisfy "a character" isBasic <|> escape)
  char '"'
  return cs

def literalString : Scanner (List Char) := do
  char '\''
  let cs ← takeWhile isLiteral
  char '\''
  return cs

/-! ## 3. Strings on many lines -/

/-- The line ends and blanks that a backslash at the end of a line takes away. -/
def continuation : Scanner Unit := do
  char '\\'
  blanks
  newline
  let _ ← many (newline <|> (do let _ ← satisfy "a blank" isBlank))

/-- One step inside a multi-line basic string. -/
def basicContent : Scanner (List Char) :=
  (do return [← satisfy "a character" isBasic]) <|>
  (do continuation; return []) <|>
  (do return [← escape]) <|>
  (do newline; return ['\n'])

/-- One step inside a multi-line literal string. -/
def literalContent : Scanner (List Char) :=
  (do return [← satisfy "a character" isLiteral]) <|>
  (do newline; return ['\n'])

/-- Two quotes or one, where something given follows. -/
def quotesBefore {α : Type} (quote : Char) (next : Scanner α) : Scanner (List Char) :=
  (do word [quote, quote]; let _ ← ahead next; return [quote, quote]) <|>
  (do char quote; let _ ← ahead next; return [quote])

/-- A string in triple quotes with the given content. -/
def multiLine (quote : Char) (content : Scanner (List Char)) : Scanner (List Char) := do
  let delimiter := word [quote, quote, quote]
  delimiter
  let _ ← optional newline
  let body ← many (content <|> quotesBefore quote content)
  let last ← optional (quotesBefore quote delimiter)
  delimiter
  return body.flatten ++ last.getD []

/-- A string in any of the four forms. -/
def string : Scanner String := do
  let cs ← multiLine '"' basicContent <|> basicString <|> multiLine '\'' literalContent <|>
    literalString
  return String.ofList cs

end MonkeyTokens.Toml
