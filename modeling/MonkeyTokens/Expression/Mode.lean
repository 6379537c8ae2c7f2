/-
# Reading regular expressions

What an expression means depends on flags, which it sets itself as it goes along (`Mode`).  One of
them, `x`, lets white space and comments stand between the parts of an expression; `Mode.skip` passes
over them.

A reader takes characters from the front of a text.  `Reader.iterate` takes one step after the other
until there is an answer; it ends on every text, since there are no more steps between states than
characters.
-/
import MonkeyTokens.Text.Classes

namespace MonkeyTokens.Expression

/-! ## 1. Modes -/

/-- The flags that have a say in what is well formed. -/
structure Mode where
  /-- `i`: letters of either case are the same. -/
  caseless : Bool := false
  /-- `u`: characters are code points; without it they are bytes. -/
  unicode : Bool := true
  /-- `x`: white space and comments are left out. -/
  spaced : Bool := false
  deriving DecidableEq

/-- Letters, none of them twice, and a hyphen in front of those that are switched off. -/
def isFlags (cs : List Char) : Bool :=
  cs.all ("imsUuRx-".contains ·) && decide cs.Nodup && cs.getLast? != some '-'

/-- The mode with flags set. -/
def Mode.set? (m : Mode) (flags : List Char) : Option Mode :=
  let on := flags.takeWhile (· != '-')
  let off := flags.dropWhile (· != '-')
  let flag (letter : Char) (old : Bool) : Bool := on.contains letter || old && !off.contains letter
  if isFlags flags then
    some ⟨flag 'i' m.caseless, flag 'u' m.unicode, flag 'x' m.spaced⟩
  else none

/-! ## 2. White space and comments -/

/-- The text behind white space and comments, which end with their line. -/
def skipGap (inComment : Bool) : List Char → List Char
  | [] => []
  | c :: cs =>
    if inComment then skipGap (c != '\n') cs
    else if Text.isWhiteSpace c then skipGap false cs
    else if c == '#' then skipGap true cs
    else c :: cs

/-- The text where an expression goes on. -/
def Mode.skip (m : Mode) (cs : List Char) : List Char :=
  if m.spaced then skipGap false cs else cs

/-- The character ahead, looked for behind white space and the sign of a comment.  The look does not
go past the comment itself, so the first character of a comment counts as the one ahead. -/
def Mode.ahead? (m : Mode) (cs : List Char) : Option Char :=
  if m.spaced then
    let shown :=
      match cs.dropWhile Text.isWhiteSpace with
      | '#' :: rest => rest.dropWhile Text.isWhiteSpace
      | rest => rest
    shown.head?.or cs.head?
  else cs.head?

/-! ## 3. Readers -/

/-- What the front of a text says, and the text behind it. -/
abbrev Reader (α : Type) := List Char → Option (α × List Char)

/-- Steps from state to state up to an answer, but no more of them than `bound` has characters. -/
def Reader.iterateWithin {σ α : Type} (step : σ → Reader (σ ⊕ α)) :
    List Char → σ → Reader α
  | bound, s, cs =>
    match step s cs, bound with
    | some (.inr a, rest), _ => some (a, rest)
    | some (.inl s, rest), _ :: bound => iterateWithin step bound s rest
    | _, _ => none

/-- Steps from state to state up to an answer.  A step between states has to take a character, or no
answer is reached. -/
def Reader.iterate {σ α : Type} (step : σ → Reader (σ ⊕ α)) (s : σ) : Reader α :=
  fun cs => iterateWithin step cs s cs

/-! ## 4. Heights -/

/-- The height of a tree made of trees of these heights: no node for none of them, and none for a
single one. -/
def join : List Nat → Nat
  | [] => 0
  | [h] => h
  | hs => 1 + hs.foldl max 0

end MonkeyTokens.Expression
