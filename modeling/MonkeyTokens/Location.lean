/-
# Lines and columns

A location is a line and a column, both counted from one; a column counts bytes.  The counters are
32-bit words and wrap, and `Location.CanPass` says when one step stays clear of that: it is the side
condition under which a location is the one that `lineAt` and `columnAt` compute from the text
alone.
-/
import MonkeyTokens.Byte

namespace MonkeyTokens

/-- A place in a text, for diagnostics. -/
structure Location where
  line : UInt32
  column : UInt32
  deriving DecidableEq

namespace Location

/-- The first byte of a text is on line 1 in column 1. -/
def start : Location := ⟨1, 1⟩

/-- The place behind a byte: a line feed opens the next line, any other byte moves one column on. -/
def pass (loc : Location) (b : UInt8) : Location :=
  if b = Byte.lineFeed then ⟨loc.line + 1, 1⟩ else ⟨loc.line, loc.column + 1⟩

/-- The counter that passing `b` increments is not at its largest value. -/
def CanPass (loc : Location) (b : UInt8) : Prop :=
  if b = Byte.lineFeed then loc.line.toNat + 1 < UInt32.size else loc.column.toNat + 1 < UInt32.size

instance (loc : Location) (b : UInt8) : Decidable (loc.CanPass b) := by
  unfold CanPass
  infer_instance

/-! ## Lines and columns of offsets, read off the text -/

/-- The line of the offset `p`: one more than the line feeds before it. -/
def lineAt (source : Bytes) (p : Nat) : Nat :=
  1 + (source.take p).count Byte.lineFeed

/-- The column of the offset `p`: one more than the bytes between the last line feed before it, or
the start of the text, and the offset. -/
def columnAt (source : Bytes) (p : Nat) : Nat :=
  1 + ((source.take p).reverse.takeWhile (· != Byte.lineFeed)).length

end Location

end MonkeyTokens
