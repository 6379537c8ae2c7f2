/-
# Escapes

Three ways to put a text between double quotes so that it can be told where it ends.

* The diagnostic form of a byte string (`escaped`): printable ASCII with a backslash before both
  quotes and before itself, `\t`, `\r` and `\n` for the three common control bytes, and `\x` with two
  digits for every other byte.  The form is printable ASCII throughout, whatever the bytes are.
* The diagnostic form of a text (`quoted`), as error messages show it: a backslash before the double
  quote and before itself, `\0`, `\t`, `\r` and `\n` for four control characters, and the code point in
  braces for every other character that is hidden (`isHidden`).  A single quote needs no escape.
* A string in JSON (`jsonString`): both the quote and the backslash take a backslash, and so do the
  control characters below the space, the common ones by a letter and the rest by their number.
  Characters above ASCII stay as they are.
-/
import MonkeyTokens.Text.Bytes
import MonkeyTokens.Text.Classes

namespace MonkeyTokens.Text

/-! ## 1. Byte strings for diagnostics -/

/-- One byte of the diagnostic form. -/
def escapedByte (b : UInt8) : List Char :=
  if b = 9 then ['\\', 't']
  else if b = 13 then ['\\', 'r']
  else if b = 10 then ['\\', 'n']
  else if b = 39 then ['\\', '\'']
  else if b = 34 then ['\\', '"']
  else if b = 92 then ['\\', '\\']
  else if 32 ≤ b ∧ b ≤ 126 then [Char.ofUInt8 b]
  else '\\' :: 'x' :: hexByte b

/-- The diagnostic form of a byte string, quotes included. -/
def escaped (bytes : Bytes) : String :=
  String.ofList ('"' :: bytes.flatMap escapedByte ++ ['"'])

/-! ## 2. Texts for diagnostics -/

/-- One character of the diagnostic form. -/
def quotedChar (c : Char) : List Char :=
  if c = '\x00' then ['\\', '0']
  else if c = '\t' then ['\\', 't']
  else if c = '\r' then ['\\', 'r']
  else if c = '\n' then ['\\', 'n']
  else if c = '"' then ['\\', '"']
  else if c = '\\' then ['\\', '\\']
  else if isHidden c then '\\' :: 'u' :: '\x7b' :: hexCodePoint c ++ ['\x7d']
  else [c]

/-- The diagnostic form of a text, quotes included. -/
def quoted (s : String) : String :=
  String.ofList ('"' :: s.toList.flatMap quotedChar ++ ['"'])

/-! ## 3. Strings in JSON -/

/-- One character of a JSON string. -/
def jsonChar (c : Char) : List Char :=
  if c = '"' then ['\\', '"']
  else if c = '\\' then ['\\', '\\']
  else if c.toNat = 8 then ['\\', 'b']
  else if c.toNat = 12 then ['\\', 'f']
  else if c.toNat = 10 then ['\\', 'n']
  else if c.toNat = 13 then ['\\', 'r']
  else if c.toNat = 9 then ['\\', 't']
  else if c.toNat < 32 then '\\' :: 'u' :: '0' :: '0' :: hexByte (UInt8.ofNat c.toNat)
  else [c]

/-- A JSON string, quotes included. -/
def jsonString (cs : List Char) : List Char :=
  '"' :: cs.flatMap jsonChar ++ ['"']

end MonkeyTokens.Text
