/-
# Renderings of tokens

Three ways to show the bytes of a token: as characters, byte for byte (`display`, which never
fails and is what records and messages use), as the UTF-8 text they spell (`utf8?`), and escaped for
diagnostics (`diagnostic` and `fields`).
-/
import MonkeyTokens.Token
import MonkeyTokens.Text.Escapes

namespace MonkeyTokens.Token

/-- The text of a token, one character a byte. -/
def display (t : Token) : String :=
  Text.latin1String t.text

/-- The text of a token as UTF-8, if it is UTF-8. -/
def utf8? (t : Token) : Option String :=
  Text.utf8? t.text

/-- The name of the kind with the escaped text in parentheses. -/
def diagnostic (t : Token) : String :=
  t.kind.name ++ "(" ++ Text.escaped t.text ++ ")"

/-- The two fields of a token, each with its own diagnostic form. -/
def fields (t : Token) : String :=
  "Token \x7b kind: " ++ t.kind.label ++ ", text: " ++ Text.escaped t.text ++ " \x7d"

end MonkeyTokens.Token
