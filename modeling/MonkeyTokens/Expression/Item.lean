/-
# Items of regular expressions

An item is a character, a class that has a letter, or a place between characters, written plainly or
behind a backslash (`escape?`).  Which items may stand outside of square brackets (`Item.isAllowed`)
and which inside (`Item.isMember`) depends on the mode: there are no tables of the letters, digits
and cases of all scripts here, so with code points a class with a letter, the edge of a word and
letters of either case are out of the question.  With bytes they are ASCII, and what could match
half a character is refused.
-/
import MonkeyTokens.Expression.Mode
import MonkeyTokens.Text.Bytes

namespace MonkeyTokens.Expression

/-- One item. -/
inductive Item where
  /-- A character, perhaps written as a byte. -/
  | character (c : Char) (asByte : Bool)
  /-- Digits, white space or the characters of words, or all others. -/
  | kind (negated : Bool)
  | anything
  /-- The beginning or the end of a line or of the text. -/
  | limit
  | wordEdge
  deriving DecidableEq

/-! ## 1. Escapes -/

/-- The letters that stand for control characters. -/
def controls : List (Char × Char) :=
  [('a', '\x07'), ('f', '\x0c'), ('n', '\n'), ('r', '\r'), ('t', '\t'), ('v', '\x0b')]

/-- Reads `n` hexadecimal digits. -/
def hexDigits? (m : Mode) : Nat → Reader (List Char)
  | 0, cs => some ([], cs)
  | n + 1, cs =>
    match m.skip cs with
    | [] => none
    | c :: cs =>
      if Text.isHexDigit c then do
        let (digits, rest) ← hexDigits? m n cs
        return (c :: digits, rest)
      else none

/-- Reads a character from the `n` digits of its code point. -/
def codePoint? (m : Mode) (n : Nat) (cs : List Char) : Option (Char × List Char) := do
  let (digits, rest) ← hexDigits? m n cs
  let code := Text.digitsValue 16 digits
  if code.isValidChar then return (Char.ofNat code, rest) else none

/-- Reads what is behind a backslash. -/
def escape? (m : Mode) : Reader Item
  | [] => none
  | 'x' :: cs => (codePoint? m 2 cs).map fun (c, rest) => (.character c true, rest)
  | 'u' :: cs => (codePoint? m 4 cs).map fun (c, rest) => (.character c false, rest)
  | 'U' :: cs => (codePoint? m 8 cs).map fun (c, rest) => (.character c false, rest)
  | c :: cs =>
    if "dsw".contains c then some (.kind false, cs)
    else if "DSW".contains c then some (.kind true, cs)
    else if "Az".contains c then some (.limit, cs)
    else if "bB<>".contains c then some (.wordEdge, cs)
    else
      match controls.lookup c with
      | some control => some (.character control false, cs)
      | none => if c.toNat < 0x80 && !c.isAlphanum then some (.character c false, cs) else none

/-! ## 2. Items -/

/-- Reads an item outside of brackets, where some characters stand for others or for places. -/
def item? (m : Mode) : Reader Item
  | [] => none
  | '\\' :: cs => escape? m cs
  | '.' :: cs => some (.anything, cs)
  | '^' :: cs | '$' :: cs => some (.limit, cs)
  | c :: cs => some (.character c false, cs)

/-- Reads an item inside brackets. -/
def member? (m : Mode) : Reader Item
  | [] => none
  | '\\' :: cs => escape? m cs
  | c :: cs => some (.character c false, cs)

namespace Item

/-- The item may stand outside of brackets. -/
def isAllowed (m : Mode) : Item → Bool
  | .character c asByte => if m.unicode then !m.caseless else !asByte || c.toNat < 0x80
  | .kind negated => !m.unicode && !negated
  | .anything => m.unicode
  | .limit => true
  | .wordEdge => !m.unicode

/-- The item may stand inside brackets. -/
def isMember (m : Mode) : Item → Bool
  | .character c _ => if m.unicode then !m.caseless else c.toNat < 0x80
  | .kind negated => !m.unicode && !negated
  | .anything | .limit | .wordEdge => false

/-- The two items are the ends of a range. -/
def isRange : Item → Item → Bool
  | .character lo _, .character hi _ => lo ≤ hi
  | _, _ => false

end Item

end MonkeyTokens.Expression
