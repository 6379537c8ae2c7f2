/-
# Files as a program sees them

All that the program asks of the file system is what stands at a path: a file with its bytes,
something that is there and cannot be read, or nothing.  So a file system is a function from paths
to entries, and every decision that hangs on files is a pure function of it.
-/
import MonkeyTokens.Fault
import MonkeyTokens.Byte

namespace MonkeyTokens

/-- What stands at a path. -/
inductive Entry where
  | file (bytes : Bytes)
  /-- There is something, but it cannot be read. -/
  | blocked (fault : Fault)
  /-- There is nothing, or nothing that the program may know of. -/
  | absent (fault : Fault)

/-- What stands where. -/
abbrev FileSystem := String → Entry

namespace Entry

def isPresent : Entry → Bool
  | .absent _ => false
  | _ => true

/-- The bytes of a file, or why there are none. -/
def read : Entry → Except Fault Bytes
  | .file bytes => .ok bytes
  | .blocked fault | .absent fault => .error fault

end Entry

end MonkeyTokens
