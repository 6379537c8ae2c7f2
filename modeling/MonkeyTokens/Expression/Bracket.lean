/-
# Sets in regular expressions

A set is written in square brackets: items, ranges of characters, classes with a name, and other sets
in brackets of their own; a circumflex in front of them negates it.  Two sets can be combined by an
operator of two equal signs, and of several operators the first one is applied first.

At the beginning of a set hyphens stand for themselves, and so does a closing bracket.  Reading goes
from left to right with the open brackets as a stack, the innermost first (`step?`).
-/
import MonkeyTokens.Expression.Item

namespace MonkeyTokens.Expression

/-- What has been read of a set. -/
structure Bracket where
  /-- The height of what is in front of the last operator. -/
  left : Option Nat := none
  /-- The heights of the members behind it. -/
  members : List Nat := []
  /-- Nothing but hyphens stands behind the opening bracket. -/
  leading : Bool := true

namespace Bracket

/-! ## 1. Members -/

/-- The set with one more member. -/
def add (b : Bracket) (height : Nat) : Bracket :=
  { b with members := height :: b.members, leading := false }

/-- The height of what has been read. -/
def height (b : Bracket) : Nat :=
  match b.left with
  | none => join b.members
  | some left => 1 + max left (join b.members)

/-- The set behind an operator. -/
def behindOperator (b : Bracket) : Bracket :=
  { left := some b.height, leading := false }

/-- The names of classes. -/
def classNames : List String :=
  ["alnum", "alpha", "ascii", "blank", "cntrl", "digit", "graph", "lower", "print", "punct", "space",
    "upper", "word", "xdigit"]

/-- Reads a class with a name, behind its bracket: colons around the name, and a circumflex in front
of it if the class is negated. -/
def class? : Reader Bool
  | ':' :: cs =>
    let negated := cs.head? == some '^'
    let cs := if negated then cs.drop 1 else cs
    match cs.dropWhile (· != ':') with
    | ':' :: ']' :: rest =>
      if classNames.contains (String.ofList (cs.takeWhile (· != ':'))) then some (negated, rest)
      else none
    | _ => none
  | _ => none

/-- A class with a name may stand here. -/
def allowsClass (m : Mode) (negated : Bool) : Bool :=
  if m.unicode then !m.caseless else !negated

/-- A set may be negated.  Among bytes, what is outside of a set has parts of characters in it. -/
def allowsNegation (m : Mode) : Bool :=
  m.unicode

/-- Reads an item or a range of characters. -/
def member? (m : Mode) (cs : List Char) : Option (List Char) := do
  let (item, rest) ← Expression.member? m cs
  if !item.isMember m then none
  else
    match m.skip rest with
    | '-' :: behind =>
      if m.ahead? behind == some ']' || m.ahead? behind == some '-' then return '-' :: behind
      else
        let (last, rest) ← Expression.member? m (m.skip behind)
        if last.isMember m && item.isRange last then return rest else none
    | rest => return rest

/-! ## 2. Steps -/

/-- The open brackets. -/
structure Open where
  inner : Bracket := {}
  outer : List Bracket := []

/-- Opens a bracket, perhaps one inside others. -/
def open? (m : Mode) (outer : List Bracket) (cs : List Char) : Option (Open × List Char) :=
  match m.skip cs with
  | '^' :: rest => if allowsNegation m then some ({ outer }, rest) else none
  | rest => some ({ outer }, rest)

/-- Closes the innermost bracket: it becomes a member of the one around it, or the set is
complete and its height is known. -/
def Open.close (s : Open) : Open ⊕ Nat :=
  let height := 1 + s.inner.height
  match s.outer with
  | [] => .inr height
  | next :: outer => .inl ⟨next.add height, outer⟩

/-- Takes one thing inside brackets. -/
def step? (m : Mode) (s : Open) (cs : List Char) : Option ((Open ⊕ Nat) × List Char) :=
  let literal (leading : Bool) (rest : List Char) : Option ((Open ⊕ Nat) × List Char) :=
    if (Item.character '-' false).isMember m then
      some (.inl { s with inner := { s.inner.add 0 with leading } }, rest)
    else none
  let operator (rest : List Char) : Option ((Open ⊕ Nat) × List Char) :=
    some (.inl { s with inner := s.inner.behindOperator }, rest)
  match s.inner.leading, m.skip cs with
  | true, '-' :: rest => literal true rest
  | leading, ']' :: rest =>
    if leading && s.inner.members.isEmpty then literal false rest else some (s.close, rest)
  | _, '[' :: rest =>
    match class? rest with
    | some (negated, rest) =>
      if allowsClass m negated then some (.inl { s with inner := s.inner.add 0 }, rest) else none
    | none => (open? m (s.inner :: s.outer) rest).map fun (s, rest) => (.inl s, rest)
  | _, '&' :: '&' :: rest | _, '-' :: '-' :: rest | _, '~' :: '~' :: rest => operator rest
  | _, cs => (member? m cs).map fun rest => (.inl { s with inner := s.inner.add 0 }, rest)

end Bracket

/-- Reads a set behind its opening bracket, and answers its height. -/
def set? (m : Mode) (cs : List Char) : Option (Nat × List Char) := do
  let (s, rest) ← Bracket.open? m [] cs
  Reader.iterate (Bracket.step? m) s rest

end MonkeyTokens.Expression
