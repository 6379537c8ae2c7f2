/-
# Dumps

A dump writes every token of a source, the end token included, and counts them.  Illegal bytes are
tokens like any other: they are written and counted, and only then, if they are denied, does the
first of them become an error.  So a denied dump has the same output as one that is not.
-/
import MonkeyTokens.Record

namespace MonkeyTokens

/-- What a dump counts: all tokens with the end token, and the illegal ones among them. -/
structure Summary where
  tokens : Nat
  illegal : Nat
  deriving DecidableEq

/-- The counts of a token list. -/
def Summary.ofTokens (tokens : List Placed) : Summary :=
  ⟨tokens.length, tokens.countP (·.token.isIllegal)⟩

/-- The result of a dump: its counts, or the first illegal byte if such bytes are denied. -/
def Summary.verdict (denyIllegal : Bool) (tokens : List Placed) : Except Error Summary :=
  match tokens.find? (·.token.isIllegal) with
  | some p =>
    if denyIllegal then .error (.illegalToken (Text.latin1String p.token.text) p.location)
    else .ok (.ofTokens tokens)
  | none => .ok (.ofTokens tokens)

/-- The dump of a source. -/
def dump (format : Format) (denyIllegal : Bool) (source : Bytes) : Script Summary :=
  let tokens := placedTokens source
  let summary := Summary.ofTokens tokens
  { steps := tokens.flatMap (·.steps format) ++
      [.report (.tokenizedSource summary.tokens summary.illegal)]
    result := Summary.verdict denyIllegal tokens }

end MonkeyTokens
