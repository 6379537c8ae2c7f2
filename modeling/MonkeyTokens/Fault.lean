/-
# Faults of files and streams

The ways in which reading or writing can fail, as the operating system or the stream reports them.
`Fault.message` is the text for a message, `Fault.fields` the form for diagnostics.
-/
import MonkeyTokens.Text.Escapes

namespace MonkeyTokens

/-- A refusal of the operating system: its number, the class it belongs to and its text. -/
structure SystemFault where
  code : Nat
  kind : String
  text : String
  deriving DecidableEq

namespace SystemFault

def notFound : SystemFault := ⟨2, "NotFound", "No such file or directory"⟩
def permissionDenied : SystemFault := ⟨13, "PermissionDenied", "Permission denied"⟩
def notADirectory : SystemFault := ⟨20, "NotADirectory", "Not a directory"⟩
def isADirectory : SystemFault := ⟨21, "IsADirectory", "Is a directory"⟩
def storageFull : SystemFault := ⟨28, "StorageFull", "No space left on device"⟩
def brokenPipe : SystemFault := ⟨32, "BrokenPipe", "Broken pipe"⟩
def nameTooLong : SystemFault := ⟨36, "InvalidFilename", "File name too long"⟩

end SystemFault

/-- Why reading or writing failed. -/
inductive Fault where
  | system (fault : SystemFault)
  /-- The bytes were read, but a text was wanted and they are not UTF-8. -/
  | notUtf8
  /-- A name that the operating system cannot be asked about, because it holds a NUL. -/
  | nulInName
  /-- A stream failed with a text of its own. -/
  | stream (text : String)
  deriving DecidableEq

namespace Fault

/-- The text of a fault in messages. -/
def message : Fault → String
  | .system f => f.text ++ " (os error " ++ toString f.code ++ ")"
  | .notUtf8 => "stream did not contain valid UTF-8"
  | .nulInName => "file name contained an unexpected NUL byte"
  | .stream text => text

/-- The diagnostic form of a fault. -/
def fields : Fault → String
  | .system f =>
    "Os \x7b code: " ++ toString f.code ++ ", kind: " ++ f.kind ++ ", message: " ++
      Text.quoted f.text ++ " \x7d"
  | .stream text => "Custom \x7b kind: Other, error: " ++ Text.quoted text ++ " \x7d"
  | .notUtf8 =>
    "Error \x7b kind: InvalidData, message: " ++ Text.quoted Fault.notUtf8.message ++ " \x7d"
  | .nulInName =>
    "Error \x7b kind: InvalidInput, message: " ++ Text.quoted Fault.nulInName.message ++ " \x7d"

end Fault

end MonkeyTokens
