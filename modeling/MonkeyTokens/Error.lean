/-
# Errors

Scanning never fails.  What can fail is everything around it: settings, files, streams, and the wish
that a source hold no illegal byte.  `Error.message` is the one place that words an error, and
`Error.diagnostic` shows its parts.
-/
import MonkeyTokens.Fault
import MonkeyTokens.Fault.Json
import MonkeyTokens.Location

namespace MonkeyTokens

/-- Why a command failed. -/
inductive Error where
  /-- The settings could not be found or understood. -/
  | configuration (text : String)
  /-- A source file could not be read. -/
  | fileOperation (text : String)
  /-- The source holds an illegal byte, and that was to be an error. -/
  | illegalToken (text : String) (location : Location)
  /-- A stream or a file failed. -/
  | io (fault : Fault)
  /-- A JSON record could not be written. -/
  | json (fault : JsonFault)
  deriving DecidableEq

namespace Error

/-- The text of an error. -/
def message : Error → String
  | .configuration text => "Configuration error: " ++ text
  | .fileOperation text => "File operation failed: " ++ text
  | .illegalToken text loc =>
    "illegal character " ++ Text.quoted text ++ " at line " ++ toString loc.line.toNat ++
      ", column " ++ toString loc.column.toNat
  | .io fault => "IO error: " ++ fault.message
  | .json fault => "JSON error: " ++ fault.message

/-- The diagnostic form of an error, which ends a failing command's report. -/
def diagnostic : Error → String
  | .configuration text => "Config(" ++ Text.quoted text ++ ")"
  | .fileOperation text => "FileOperation(" ++ Text.quoted text ++ ")"
  | .illegalToken text loc =>
    "IllegalToken \x7b text: " ++ Text.quoted text ++ ", line: " ++ toString loc.line.toNat ++
      ", column: " ++ toString loc.column.toNat ++ " \x7d"
  | .io fault => "Io(" ++ fault.fields ++ ")"
  | .json fault => "Json(" ++ fault.fields ++ ")"

end Error

end MonkeyTokens
