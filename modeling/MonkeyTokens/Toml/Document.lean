/-
# TOML documents

The grammar of keys, values and lines, and `parse`, which reads a whole document.

Arrays and inline tables may be nested `maxNesting` levels deep; the number of levels that are left
is what the recursion of `value` counts down.  A dotted key has at most as many parts.
-/
import MonkeyTokens.Toml.Clock
import MonkeyTokens.Toml.Outline

namespace MonkeyTokens.Toml

open Scanner

/-- How deep arrays and inline tables may be nested, and how many parts a dotted key may have. -/
def maxNesting : Nat := 79

/-! ## 1. Keys -/

/-- A character of a key that needs no quotes. -/
def isBareKey (c : Char) : Bool :=
  ('a' ≤ c && c ≤ 'z') || ('A' ≤ c && c ≤ 'Z') || ('0' ≤ c && c ≤ '9') || c == '-' || c == '_'

/-- One part of a key. -/
def simpleKey : Scanner String := do
  match ← peek? with
  | some '"' => return String.ofList (← basicString)
  | some '\'' => return String.ofList (← literalString)
  | _ =>
    let first ← satisfy "a key" isBareKey
    return String.ofList (first :: (← takeWhile isBareKey))

/-- A key in parts: the path to its table, and its name there. -/
def key : Scanner (List String × String) := do
  let parts ← sepBy1 (do blanks; let k ← simpleKey; blanks; return k) (char '.')
  if parts.length > maxNesting then throw .tooDeep
  match parts.getLast? with
  | some name => return (parts.dropLast, name)
  | none => wanted "a key"

/-! ## 2. Values -/

/-- An array, given how its items are read. -/
def array (item : Scanner Value) : Scanner Value := do
  char '['
  let spaced := do gap; let v ← item; gap; return v
  let items ← optional (do
    let items ← sepBy1 spaced (char ',')
    let _ ← optional (char ',')
    return items)
  gap
  char ']'
  return .array (items.getD [])

/-- An inline table, given how its values are read. -/
def inlineTable (item : Scanner Value) : Scanner Value := do
  char '\x7b'
  let entry := do
    let k ← key
    char '='
    blanks
    let v ← item
    blanks
    return (k, v)
  let pairs ← optional (sepBy1 entry (char ','))
  blanks
  char '\x7d'
  let entries ← (pairs.getD []).foldlM (fun (es : Entries) ((path, name), v) =>
    (es.insert path name v : Except Error Entries)) []
  return .table (tableOf entries)

def boolean : Scanner Value :=
  (do word "true".toList; return .boolean true) <|>
  (do word "false".toList; return .boolean false)

/-- A value that is no array and no table. -/
def scalar : Scanner Value := do
  match ← peek? with
  | some '"' | some '\'' => return .string (← string)
  | some 't' | some 'f' => boolean
  | some 'i' | some 'n' => specialFloat
  | _ => dateTime <|> float <|> integer

/-- A value, with arrays and inline tables down to the given number of levels. -/
def value : Nat → Scanner Value
  | 0 => do
    match ← peek? with
    | some '[' | some '\x7b' => throw .tooDeep
    | _ => scalar
  | levels + 1 => do
    match ← peek? with
    | some '[' => array (value levels)
    | some '\x7b' => inlineTable (value levels)
    | _ => scalar

/-! ## 3. Lines and documents -/

/-- A line that gives a key its value. -/
def keyValueLine (o : Outline) : Scanner Outline := do
  let (path, name) ← key
  char '='
  blanks
  let v ← value maxNesting
  trailing
  o.insert path name v

/-- A line that opens a table. -/
def headerLine (o : Outline) : Scanner Outline :=
  (do
    word ['[', '[']
    let (path, name) ← key
    word [']', ']']
    trailing
    o.openRow path name) <|>
  (do
    char '['
    let (path, name) ← key
    char ']'
    trailing
    o.openTable path name)

/-- One line of a document, and the blanks before the next. -/
def line (o : Outline) : Scanner Outline := do
  let o' ← match ← peek? with
    | some '#' => do comment; lineEnd; pure o
    | some '\n' | some '\r' => do newline; pure o
    | some '[' => headerLine o
    | _ => keyValueLine o
  blanks
  return o'

/-- The document without the mark that may precede it. -/
def withoutMark : List Char → List Char
  | '\ufeff' :: cs => cs
  | cs => cs

/-- Reads a document. -/
def parse (document : String) : Except Error Table := do
  let cs := (withoutMark document.toList).dropWhile isBlank
  let o ← throughout line .empty cs
  return tableOf o.entries

end MonkeyTokens.Toml
