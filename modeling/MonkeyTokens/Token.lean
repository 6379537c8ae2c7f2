/-
# Tokens

A token is a kind and the bytes it was read from.  The bytes are kept as they are: whether they are
UTF-8 is a question that the renderings of `MonkeyTokens.Token.Display` answer, not the token.
-/
import MonkeyTokens.Kind

namespace MonkeyTokens

/-- A kind and the bytes of the source it stands for. -/
structure Token where
  kind : Kind
  text : Bytes
  deriving DecidableEq

namespace Token

/-- The end of the text: no bytes are left. -/
def eof : Token := ⟨.eof, []⟩

/-- The token ends a token list, whatever its text. -/
def isEof (t : Token) : Bool :=
  t.kind = .eof

/-- The token stands for a byte that belongs to no token. -/
def isIllegal (t : Token) : Bool :=
  t.kind = .illegal

end Token

end MonkeyTokens
