/-
# Log filters as text

A filter is written as clauses with commas between them.  A clause is a level alone, which is a
threshold for all events, or the beginning of an origin's name, square brackets, or both, with an
equals sign and a level behind them; without a level it admits everything.  Square brackets hold the
name of a period, and in braces the name of a field with or without its value.  A clause that names
a period or a value speaks of periods only, of which the program has none, so it has no directive
(`Clause.periods`).

The value of a field is a number, a truth value or a regular expression.  Whether a value is met is
never asked here, because only the fields of periods are compared with values; but a value that is
none of these makes its filter unreadable, so it is decided which texts are well formed (`isValue`).

White space around a clause is of no account where its parts are told apart, but the parts are cut
out of the whole text at the offsets, in bytes, at which they were found.  So with white space behind
it a word is no level, and with white space in front of it every part is cut too early; where that
would cut a character in two, the clause cannot be read (`Clause.ofText?`).
-/
import MonkeyTokens.Event.Filter
import MonkeyTokens.Expression
import MonkeyTokens.Text.Bytes
import MonkeyTokens.Text.Classes

namespace MonkeyTokens

/-! ## 1. Levels -/

/-- The number that a word is written for, up to the last threshold: digits, perhaps behind a plus
sign. -/
def smallNumber? (word : List Char) : Option Nat :=
  let digits := match word with
    | '+' :: cs => cs
    | cs => cs
  if digits.isEmpty || !digits.all Char.isDigit then none
  else
    match digits.dropWhile (· == '0') with
    | [] => some 0
    | [c] => some (c.toNat - '0'.toNat)
    | _ => none

/-- The threshold that a word names, in letters of either case or as a number.  The outer option
says whether the word names one. -/
def threshold? (word : List Char) : Option (Option Level) :=
  match smallNumber? word, (String.ofList word).toLower with
  | some 0, _ | none, "off" => some none
  | some 1, _ | none, "error" => some (some .error)
  | some 2, _ | none, "warn" => some (some .warn)
  | some 3, _ | none, "info" => some (some .info)
  | some 4, _ | none, "debug" => some (some .debug)
  | some 5, _ | none, "trace" => some (some .trace)
  | _, _ => none

/-! ## 2. Values -/

/-- Digits with a fraction, an exponent or both, or one of the words for special numbers. -/
def isNumber (cs : List Char) : Bool :=
  let whole := cs.takeWhile Char.isDigit
  let rest := cs.dropWhile Char.isDigit
  let (fraction, rest) :=
    match rest with
    | '.' :: rest => (rest.takeWhile Char.isDigit, rest.dropWhile Char.isDigit)
    | _ => ([], rest)
  let isExponent (cs : List Char) : Bool := !cs.isEmpty && cs.all Char.isDigit
  ["inf", "infinity", "nan"].contains (String.ofList (cs.map Char.toLower)) ||
    (!(whole ++ fraction).isEmpty &&
      match rest with
      | [] => true
      | 'e' :: '+' :: cs | 'e' :: '-' :: cs | 'E' :: '+' :: cs | 'E' :: '-' :: cs => isExponent cs
      | 'e' :: cs | 'E' :: cs => isExponent cs
      | _ => false)

/-- The text is a value that a filter may ask for: a number with a plus sign, or an expression.
Other numbers and the two truth values are expressions, too. -/
def isValue (text : List Char) : Bool :=
  Expression.isExpression text ||
    match text with
    | '+' :: cs => isNumber cs
    | _ => false

/-! ## 3. Clauses -/

/-- What a clause asks for. -/
inductive Clause where
  | events (d : Directive)
  | periods
  deriving DecidableEq

namespace Clause

open Text (byteLength cut? cutFrom?)

/-- The threshold behind an equals sign. -/
def level? (word : List Char) : Option (Option Level) :=
  if word.isEmpty then some (some .trace) else threshold? word

/-- A clause of one word: a level, or the beginning of a name. -/
def ofWord (word : List Char) : Directive :=
  match threshold? word with
  | some threshold => .universal threshold
  | none => ⟨String.ofList word, none, some .trace⟩

/-- Reads what is in braces: the name of a field, and whether its value is asked for. -/
def field? (text : List Char) : Option (String × Bool) :=
  let name := String.ofList (text.takeWhile (· != '='))
  match text.dropWhile (· != '=') with
  | [] => if text.isEmpty then none else some (name, false)
  | _ :: rest => if isValue (rest.takeWhile (· != '=')) then some (name, true) else none

/-- What is in square brackets: the beginning of the name of a period, and a field. -/
structure Selector where
  period : Option (List Char)
  field : Option (String × Bool)

/-- Reads `rest`, which is behind an opening square bracket and begins at the offset `start`.  The
parts that are found there are cut out of `text`.  The offset behind the closing bracket and what is
left to be read come with them. -/
def selector? (text : List Char) (start : Nat) (rest : List Char) :
    Option (Selector × Nat × List Char) := do
  let named := rest.takeWhile fun c => c != ']' && c != '\x7b'
  let stop := start + byteLength named
  let period ← cut? text start stop
  match rest.drop named.length with
  | ']' :: rest => return (⟨some period, none⟩, stop + 1, rest)
  | '\x7b' :: rest =>
    let inside := rest.takeWhile (· != '\x7d')
    let first := stop + 1
    let last := first + byteLength inside
    match rest.drop inside.length with
    | '\x7d' :: ']' :: rest =>
      let field ← field? (← cut? text first last)
      return (⟨if period.isEmpty then none else some period, some field⟩, last + 2, rest)
    | _ => none
  | _ => none

/-- The clause with a scope, a selector and a threshold. -/
def build (scope : List Char) (s : Selector) (threshold : Option Level) : Clause :=
  match s.period, s.field with
  | none, some (name, false) => .events ⟨String.ofList scope, some name, threshold⟩
  | none, none => .events ⟨String.ofList scope, none, threshold⟩
  | _, _ => .periods

/-- The character may begin a clause. -/
def mayBegin (c : Char) : Bool :=
  c == '[' || c == '-' || c == ':' || c == '_' || Text.isAlphanumeric c

/-- A text without the white space around it. -/
def trim (text : List Char) : List Char :=
  ((text.dropWhile Text.isWhiteSpace).reverse.dropWhile Text.isWhiteSpace).reverse

/-- Reads a clause. -/
def ofText? (text : List Char) : Option Clause := do
  let shown := trim text
  let named := shown.takeWhile fun c => c != '=' && c != '['
  let stop := byteLength named
  if !shown.head?.any mayBegin then none
  else
    match shown.drop named.length with
    | [] => return .events (ofWord text)
    | '=' :: _ =>
      return build (← cut? text 0 stop) ⟨none, none⟩ (← level? (← cutFrom? text (stop + 1)))
    | _ :: rest =>
      let scope ← cut? text 0 stop
      let (s, behind, rest) ← selector? text (stop + 1) rest
      match rest with
      | [] => return build scope s (some .trace)
      | '=' :: _ => return build scope s (← level? (← cutFrom? text (behind + 1)))
      | _ => none

/-- The directive of a clause about events. -/
def directive? : Clause → Option Directive
  | .events d => some d
  | .periods => none

end Clause

/-! ## 4. Filters -/

/-- Reads a filter: empty clauses are skipped, and a text without any other admits errors only. -/
def Filter.ofText? (text : String) : Option Filter := do
  let texts := (text.splitOn ",").filter (!·.isEmpty)
  let clauses ← texts.mapM fun t => Clause.ofText? t.toList
  return if clauses.isEmpty then upTo .error else clauses.filterMap Clause.directive?

end MonkeyTokens
