/-
# Faults of JSON texts

A JSON text is refused for a reason, perhaps at a line and a column of it.  Lines count from one, so
line zero says that no place is known, and then the message is the reason alone.

A fault that is handed on as a text may carry its place at the end, in the words that `message` uses,
and is understood again (`ofText`): the place is taken off the reason.
-/
import MonkeyTokens.Text.Escapes

namespace MonkeyTokens

/-- Why a JSON text is refused, and where. -/
structure JsonFault where
  reason : String
  line : Nat := 0
  column : Nat := 0
  deriving DecidableEq

namespace JsonFault

/-- What stands in front of the number of a line. -/
def lineMark : String := " at line "

/-- What stands in front of the number of a column. -/
def columnMark : String := " column "

/-- The text of a fault in messages. -/
def message (f : JsonFault) : String :=
  if f.line = 0 then f.reason
  else f.reason ++ lineMark ++ toString f.line ++ columnMark ++ toString f.column

/-- The diagnostic form of a fault. -/
def fields (f : JsonFault) : String :=
  "Error(" ++ Text.quoted f.reason ++ ", line: " ++ toString f.line ++ ", column: " ++
    toString f.column ++ ")"

/-- The number of 64 bits at the end of a text, behind a mark, and what is in front of the mark. -/
def numberBehind? (mark : String) (cs : List Char) : Option (List Char × Nat) := do
  let digits := (cs.reverse.takeWhile Char.isDigit).reverse
  let n := Text.digitsValue 10 digits
  let front ← mark.toList.isSuffixOf? (cs.take (cs.length - digits.length))
  if digits.isEmpty || UInt64.size ≤ n then none else return (front, n)

/-- The fault that a text tells, if there is a place at its end. -/
def ofPlaced? (text : String) : Option JsonFault := do
  let (cs, column) ← numberBehind? columnMark text.toList
  let (cs, line) ← numberBehind? lineMark cs
  return ⟨String.ofList cs, line, column⟩

/-- The fault that a text tells. -/
def ofText (text : String) : JsonFault :=
  (ofPlaced? text).getD { reason := text }

end JsonFault

end MonkeyTokens
