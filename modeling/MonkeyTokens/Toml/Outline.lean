/-
# Documents under construction

Lines of a document add to a tree of tables, and whether a line may add to a table depends on how
that table came to be: by a header of its own, by a longer header, or by a dotted key (`Origin`).
Inline tables and arrays in brackets are complete when they are read and take nothing more; they
are values here.

* A dotted key may pass through tables that no header of their own has opened, and its last table
  has to be one that dotted keys made (`insert`).
* A header opens a table that is not there yet or that only longer headers have named
  (`openTable`).
* A header in double brackets adds a table to an array of such tables (`openRow`).

Headers pass through the last table of an array of tables, and so do dotted keys.
-/
import MonkeyTokens.Toml.Scanner
import MonkeyTokens.Toml.Value

namespace MonkeyTokens.Toml

/-! ## 1. The tree -/

/-- How a table came to be. -/
inductive Origin where
  /-- By a header of its own. -/
  | header
  /-- By a longer header that leads through it. -/
  | implied
  /-- By a dotted key. -/
  | dotted
  deriving DecidableEq

/-- What a key of a document under construction holds. -/
inductive Node where
  | value (v : Value)
  | table (origin : Origin) (entries : List (String × Node))
  | rows (tables : List (List (String × Node)))

/-- The keys of a table under construction. -/
abbrev Entries := List (String × Node)

namespace Entries

/-- Puts a node in the place of the one a key has. -/
def replace (key : String) (node : Node) : Entries → Entries
  | [] => []
  | (k, n) :: rest => if k = key then (k, node) :: rest else (k, n) :: replace key node rest

/-- Puts a node at a key, behind the others if the key is new. -/
def put (key : String) (node : Node) (entries : Entries) : Entries :=
  match entries.lookup key with
  | some _ => entries.replace key node
  | none => entries ++ [(key, node)]

end Entries

/-! ## 2. The finished document -/

mutual

/-- The value that a node comes to. -/
def Node.toValue : Node → Value
  | .value v => v
  | .table _ entries => .table (tableOf entries)
  | .rows tables => .array (rowsOf tables)

/-- The table that entries come to. -/
def tableOf : List (String × Node) → Table
  | [] => []
  | (key, node) :: rest => (key, node.toValue) :: tableOf rest

/-- The items that an array of tables comes to. -/
def rowsOf : List (List (String × Node)) → List Value
  | [] => []
  | entries :: rest => .table (tableOf entries) :: rowsOf rest

end

/-! ## 3. Changing a table at the end of a path -/

/-- How a path is walked: by a header or by a dotted key. -/
inductive Walk where
  | byHeader
  | byDottedKey
  deriving DecidableEq

/-- How a table came to be that a walk makes on its way. -/
def Walk.origin : Walk → Origin
  | .byHeader => .implied
  | .byDottedKey => .dotted

/-- Changes the table at the end of a path, making the tables on the way that are missing.  The
change is told how its table came to be, and may say so anew. -/
def alter (walk : Walk) (change : Origin → Entries → Except Error (Origin × Entries)) :
    List String → Origin → Entries → Except Error (Origin × Entries)
  | [], origin, entries => change origin entries
  | key :: path, origin, entries =>
    match entries.lookup key with
    | none => do
      let (o, inner) ← alter walk change path walk.origin []
      return (origin, entries.put key (.table o inner))
    | some (.value _) => .error (.notATable key)
    | some (.table .header inner) =>
      if walk = .byDottedKey then .error (.duplicateKey key)
      else do
        let (o, inner) ← alter walk change path .header inner
        return (origin, entries.put key (.table o inner))
    | some (.table o inner) => do
      let (o, inner) ← alter walk change path o inner
      return (origin, entries.put key (.table o inner))
    | some (.rows tables) =>
      match tables.getLast? with
      | none => .error (.notATable key)
      | some inner => do
        let (_, inner) ← alter walk change path .header inner
        return (origin, entries.put key (.rows (tables.dropLast ++ [inner])))

/-- Gives a key of a table its value.  The table is the one at hand where the key is not dotted, and
otherwise one that dotted keys made. -/
def insertHere (dottedKey : Bool) (key : String) (v : Value) (origin : Origin) (entries : Entries) :
    Except Error (Origin × Entries) :=
  if (origin == .dotted) != dottedKey then .error (.duplicateKey key)
  else
    match entries.lookup key with
    | some _ => .error (.duplicateKey key)
    | none => .ok (origin, entries ++ [(key, .value v)])

/-- Gives a dotted key its value, below a table that a header opened. -/
def Entries.insert (path : List String) (key : String) (v : Value) (entries : Entries) :
    Except Error Entries := do
  let (_, entries) ← alter .byDottedKey (insertHere (!path.isEmpty) key v) path .header entries
  return entries

/-- Opens the table of a header. -/
def openHere (key : String) (origin : Origin) (entries : Entries) :
    Except Error (Origin × Entries) :=
  match entries.lookup key with
  | none => .ok (origin, entries ++ [(key, .table .header [])])
  | some (.table .implied inner) => .ok (origin, entries.put key (.table .header inner))
  | some _ => .error (.duplicateKey key)

/-- Adds a table to the array of a header in double brackets. -/
def addRowHere (key : String) (origin : Origin) (entries : Entries) :
    Except Error (Origin × Entries) :=
  match entries.lookup key with
  | none => .ok (origin, entries ++ [(key, .rows [[]])])
  | some (.rows tables) => .ok (origin, entries.put key (.rows (tables ++ [[]])))
  | some _ => .error (.duplicateKey key)

/-! ## 4. Documents and the table that is open -/

/-- A document under construction: its tables, and the path of the table that the next keys belong
to, which is the document itself before the first header. -/
structure Outline where
  entries : Entries
  path : List String

namespace Outline

def empty : Outline := ⟨[], []⟩

/-- Gives a key of the open table its value. -/
def insert (path : List String) (key : String) (v : Value) (o : Outline) : Except Error Outline :=
  let change (origin : Origin) (entries : Entries) : Except Error (Origin × Entries) := do
    return (origin, ← entries.insert path key v)
  do
    let (_, entries) ← alter .byHeader change o.path .header o.entries
    return { o with entries }

/-- Opens the table of a header. -/
def openTable (path : List String) (key : String) (o : Outline) : Except Error Outline := do
  let (_, entries) ← alter .byHeader (openHere key) path .header o.entries
  return ⟨entries, path ++ [key]⟩

/-- Opens a new table of the array of a header in double brackets. -/
def openRow (path : List String) (key : String) (o : Outline) : Except Error Outline := do
  let (_, entries) ← alter .byHeader (addRowHere key) path .header o.entries
  return ⟨entries, path ++ [key]⟩

end Outline

end MonkeyTokens.Toml
