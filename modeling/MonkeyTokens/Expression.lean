/-
# Regular expressions

Which texts are regular expressions, and how high their trees are.  An expression is read from left
to right (`Reading.step?`): branches with bars between them, each a sequence of items, sets, groups
and repetitions.  Of what has been read only the heights are kept.  A group has the mode that its
flags say and gives back the mode in front of it; flags in parentheses of their own hold up to the end
of the group that they stand in.

Braces that count repetitions or hold a name or a code point are not read: an opening brace that
stands for itself has to be escaped.
-/
import MonkeyTokens.Expression.Bracket
import MonkeyTokens.Text.Classes

namespace MonkeyTokens.Expression

/-! ## 1. Groups -/

/-- A part of a sequence.  Flags are a part that cannot be repeated. -/
structure Part where
  height : Nat
  repeatable : Bool := true

/-- What has been read of a group. -/
structure Branches where
  /-- The parts of the last branch, the last part first. -/
  sequence : List Part := []
  /-- The heights of the other branches. -/
  earlier : List Nat := []

/-- The height of the last branch. -/
def Branches.last (b : Branches) : Nat :=
  join (b.sequence.map (·.height))

/-- The height of all branches. -/
def Branches.height (b : Branches) : Nat :=
  join (b.last :: b.earlier)

/-- How far an expression has been read. -/
structure Reading where
  mode : Mode := {}
  /-- The names of groups, each of which is given once. -/
  names : List (List Char) := []
  branches : Branches := {}
  /-- The open groups, the innermost first: what stands in front of each. -/
  groups : List (Branches × Mode) := []

namespace Reading

/-- The reading behind one more part. -/
def push (s : Reading) (p : Part) : Reading :=
  { s with branches.sequence := p :: s.branches.sequence }

/-- The reading behind a bar. -/
def branch (s : Reading) : Reading :=
  { s with branches := ⟨[], s.branches.last :: s.branches.earlier⟩ }

/-- The reading inside a group of a mode. -/
def enter (s : Reading) (m : Mode) : Reading :=
  { s with mode := m, branches := {}, groups := (s.branches, s.mode) :: s.groups }

/-- The reading behind the innermost group. -/
def leave? (s : Reading) : Option Reading :=
  match s.groups with
  | [] => none
  | (branches, mode) :: groups =>
    some ({ s with mode, branches, groups }.push { height := 1 + s.branches.height })

/-- The reading with its last part repeated. -/
def repeat? (s : Reading) : Option Reading :=
  match s.branches.sequence with
  | ⟨height, true⟩ :: sequence =>
    some { s with branches.sequence := { height := 1 + height } :: sequence }
  | _ => none

/-- The height of the expression, if it ends here. -/
def height? (s : Reading) : Option Nat :=
  if s.groups.isEmpty then some s.branches.height else none

/-! ## 2. Parentheses -/

/-- Reads the name of a group up to its closing angle bracket. -/
def name? (cs : List Char) : Option (List Char × List Char) :=
  let name := cs.takeWhile (· != '>')
  let isFirst (c : Char) : Bool := c == '_' || Text.isAlphabetic c
  let isNext (c : Char) : Bool := "_.[]".contains c || Text.isAlphanumeric c
  match name, cs.dropWhile (· != '>') with
  | c :: next, _ :: rest => if isFirst c && next.all isNext then some (name, rest) else none
  | _, _ => none

/-- Reads what an opening parenthesis begins: a group with a name, with flags or without either, or
flags alone, which are not empty. -/
def group? (s : Reading) : Reader Reading
  | '?' :: 'P' :: '<' :: cs | '?' :: '<' :: cs => do
    let (name, rest) ← name? cs
    if s.names.contains name then none
    else return ({ s with names := name :: s.names }.enter s.mode, rest)
  | '?' :: cs => do
    let flags := cs.takeWhile fun c => c != ':' && c != ')'
    let mode ← s.mode.set? flags
    match cs.drop flags.length with
    | ':' :: rest => return (s.enter mode, rest)
    | ')' :: rest =>
      if flags.isEmpty then none
      else return ({ s with mode }.push { height := 0, repeatable := false }, rest)
    | _ => none
  | cs => some (s.enter s.mode, cs)

/-! ## 3. Expressions -/

/-- Takes one thing outside of brackets. -/
def step? (s : Reading) : Reader Reading
  | '(' :: cs => s.group? (s.mode.skip cs)
  | ')' :: cs => s.leave?.map (·, cs)
  | '|' :: cs => some (s.branch, cs)
  | '*' :: '?' :: cs | '+' :: '?' :: cs | '?' :: '?' :: cs => s.repeat?.map (·, cs)
  | '*' :: cs | '+' :: cs | '?' :: cs => s.repeat?.map (·, cs)
  | '[' :: cs => do
    let (height, rest) ← set? s.mode cs
    return (s.push { height }, rest)
  | '{' :: _ => none
  | cs => do
    let (item, rest) ← item? s.mode cs
    if item.isAllowed s.mode then return (s.push { height := 0 }, rest) else none

/-- Takes one thing, or answers the height at the end of the text. -/
def advance? (s : Reading) (cs : List Char) : Option ((Reading ⊕ Nat) × List Char) :=
  match s.mode.skip cs with
  | [] => s.height?.map fun height => (.inr height, [])
  | cs => (s.step? cs).map fun (s, rest) => (.inl s, rest)

end Reading

/-- The height of the tree of an expression. -/
def height? (cs : List Char) : Option Nat :=
  (Reader.iterate Reading.advance? {} cs).map (·.1)

/-- The height up to which trees are accepted. -/
def heightLimit : Nat := 250

/-- The text is a regular expression. -/
def isExpression (cs : List Char) : Bool :=
  (height? cs).any (· ≤ heightLimit)

end MonkeyTokens.Expression
