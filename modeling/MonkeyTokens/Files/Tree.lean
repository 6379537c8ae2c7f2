/-
# Trees of files

A file system held in memory: files by the names on the way to them, directories, and the directory
that relative paths start from.  A path is walked name by name, and every place that is left again
has to be a directory, also where the path only ends with a slash or goes back up by `..`.
-/
import MonkeyTokens.Files

namespace MonkeyTokens

/-- Files and directories, each by the names on the way to it from the root. -/
structure Tree where
  files : List (List String × Bytes)
  /-- Directories besides the ones that lead to files. -/
  directories : List (List String)
  workingDirectory : List String

namespace Tree

/-- The place leads on: it is the root, was named as a directory, or is on the way to a file or to
such a directory. -/
def isDirectory (t : Tree) (place : List String) : Bool :=
  place.isEmpty ||
    (t.directories ++ [t.workingDirectory]).any (fun d => place.isPrefixOf d) ||
    t.files.any fun (f, _) => place.isPrefixOf f && place != f

/-- The bytes that a path has to stay below. -/
def pathLimit : Nat := 4096

/-- Walks names from a place on. -/
def walk (t : Tree) : List String → List String → Except SystemFault (List String)
  | place, [] => .ok place
  | place, name :: names =>
    if !t.isDirectory place then
      .error (if (t.files.lookup place).isSome then .notADirectory else .notFound)
    else if name = "" ∨ name = "." then t.walk place names
    else if name = ".." then t.walk place.dropLast names
    else if name.utf8ByteSize > 255 then .error .nameTooLong
    else t.walk (place ++ [name]) names

/-- What stands at a path. -/
def entry (t : Tree) (path : String) : Entry :=
  if path.isEmpty then .absent (.system .notFound)
  else if path.contains '\x00' then .absent .nulInName
  else if pathLimit ≤ path.utf8ByteSize then .absent (.system .nameTooLong)
  else
    let start := if path.startsWith "/" then [] else t.workingDirectory
    match t.walk start (path.splitOn "/") with
    | .error fault => .absent (.system fault)
    | .ok place =>
      if t.isDirectory place then .blocked (.system .isADirectory)
      else
        match t.files.lookup place with
        | some bytes => .file bytes
        | none => .absent (.system .notFound)

end Tree

end MonkeyTokens
