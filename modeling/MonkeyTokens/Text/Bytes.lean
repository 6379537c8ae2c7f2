/-
# Bytes and characters

Texts are read as bytes and shown as characters, in two ways.  The Latin-1 reading of a byte is the
code point of the same value: every byte has one, so a token can be shown whatever its bytes are, and
no two byte strings look alike.  Everything that is written leaves as UTF-8, and reading that is
strict: overlong forms, surrogates and cut sequences are refused.

Where a text is cut at offsets, they count the bytes of its UTF-8 form.  An offset inside a character
is no place to cut, and then there is no piece (`cut?`).

Numbers in escapes are written with lower-case hexadecimal digits and read with digits of either
case.  Reading a number from its digits works in every base up to sixteen.
-/
import MonkeyTokens.Byte

namespace MonkeyTokens.Text

/-! ## 1. Bytes as characters, and characters as bytes -/

/-- Each byte as the character with its code point. -/
def latin1 (bytes : Bytes) : List Char :=
  bytes.map Char.ofUInt8

/-- `latin1` as a string. -/
def latin1String (bytes : Bytes) : String :=
  String.ofList (latin1 bytes)

/-- The UTF-8 bytes of a list of characters. -/
def utf8 (cs : List Char) : Bytes :=
  cs.flatMap String.utf8EncodeChar

@[simp] theorem utf8_nil : utf8 [] = [] := rfl

@[simp] theorem utf8_append (cs ds : List Char) : utf8 (cs ++ ds) = utf8 cs ++ utf8 ds :=
  List.flatMap_append

/-- The UTF-8 bytes of a string. -/
def utf8String (s : String) : Bytes :=
  utf8 s.toList

/-- The string that a list of bytes spells in UTF-8, if it spells one. -/
def utf8? (bytes : Bytes) : Option String :=
  String.fromUTF8? bytes.toByteArray

/-! ## 2. Cutting at byte offsets -/

/-- The number of bytes that characters take. -/
def byteLength : List Char → Nat
  | [] => 0
  | c :: cs => c.utf8Size + byteLength cs

/-- A text before and behind an offset. -/
def splitAtByte? : List Char → Nat → Option (List Char × List Char)
  | cs, 0 => some ([], cs)
  | [], _ + 1 => none
  | c :: cs, n + 1 =>
    if c.utf8Size ≤ n + 1 then do
      let (front, rest) ← splitAtByte? cs (n + 1 - c.utf8Size)
      return (c :: front, rest)
    else none

/-- The text from an offset on. -/
def cutFrom? (text : List Char) (start : Nat) : Option (List Char) :=
  (splitAtByte? text start).map (·.2)

/-- The piece of a text from one offset to another. -/
def cut? (text : List Char) (start stop : Nat) : Option (List Char) := do
  let rest ← cutFrom? text start
  let (piece, _) ← splitAtByte? rest (stop - start)
  return piece

/-! ## 3. Digits -/

/-- The two digits of a byte. -/
def hexByte (b : UInt8) : List Char :=
  [Nat.digitChar (b.toNat / 16), Nat.digitChar (b.toNat % 16)]

theorem exists_digit_of_mem_hexByte {b : UInt8} {d : Char} (h : d ∈ hexByte b) :
    ∃ n < 16, d = Nat.digitChar n := by
  have hb : b.toNat < 256 := b.toNat_lt
  rw [hexByte, List.mem_cons, List.mem_singleton] at h
  rcases h with rfl | rfl
  · exact ⟨b.toNat / 16, by omega, rfl⟩
  · exact ⟨b.toNat % 16, by omega, rfl⟩

/-- The digits of a code point, without leading zeros. -/
def hexCodePoint (c : Char) : List Char :=
  Nat.toDigits 16 c.toNat

def isHexDigit (c : Char) : Bool :=
  ('0' ≤ c && c ≤ '9') || ('a' ≤ c && c ≤ 'f') || ('A' ≤ c && c ≤ 'F')

/-- The value of a digit in a base up to sixteen. -/
def digitValue (c : Char) : Nat :=
  if c ≤ '9' then c.toNat - '0'.toNat
  else if c ≤ 'F' then c.toNat - 'A'.toNat + 10
  else c.toNat - 'a'.toNat + 10

/-- The number that digits spell in a base. -/
def digitsValue (base : Nat) (digits : List Char) : Nat :=
  digits.foldl (fun n c => n * base + digitValue c) 0

end MonkeyTokens.Text
