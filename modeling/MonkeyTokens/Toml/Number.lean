/-
# TOML numbers

Integers are signed 64-bit words, in base ten with a sign, or in base sixteen, eight or two without
one.  Floating-point numbers have a fraction, an exponent or both; their digits are kept as spelled,
and all that is computed of them is whether they are too large to be a double (`exceedsDouble`).
An underscore may stand between two digits, and a decimal number has no leading zeros.
-/
import MonkeyTokens.Toml.Text
import MonkeyTokens.Toml.Value

namespace MonkeyTokens.Toml

open Scanner

/-! ## 1. Digits -/

def isDecimalDigit (c : Char) : Bool :=
  '0' ≤ c && c ≤ '9'

/-- Digits, the first two of which are not parted by an underscore alone; the underscores are
dropped. -/
def digits (isDigit : Char → Bool) : Scanner (List Char) := do
  let digit := satisfy "a digit" isDigit
  let first ← digit
  return first :: (← many (digit <|> (do char '_'; digit)))

/-- A sign, if there is one, and whether it is a minus. -/
def sign : Scanner Bool :=
  (do char '-'; return true) <|> (do char '+'; return false) <|> pure false

/-- Decimal digits without leading zeros. -/
def unsignedDecimal : Scanner (List Char) := do
  match ← peek? with
  | some '0' =>
    char '0'
    return ['0']
  | _ => digits isDecimalDigit

/-! ## 2. Integers -/

/-- The integer, if it is a signed 64-bit word. -/
def integerInRange (n : Int) : Scanner Value :=
  if Int64.minValue.toInt ≤ n ∧ n ≤ Int64.maxValue.toInt then return .integer n
  else throw (.outOfRange "integer")

/-- An integer with a letter that names its base. -/
def basedInteger (letter : Char) (base : Nat) (isDigit : Char → Bool) : Scanner Value := do
  word ['0', letter]
  integerInRange (Text.digitsValue base (← digits isDigit))

def decimalInteger : Scanner Value := do
  let negative ← sign
  let n : Nat := Text.digitsValue 10 (← unsignedDecimal)
  integerInRange (if negative then -n else n)

def integer : Scanner Value :=
  basedInteger 'x' 16 Text.isHexDigit <|>
  basedInteger 'o' 8 (fun c => '0' ≤ c && c ≤ '7') <|>
  basedInteger 'b' 2 (fun c => c == '0' || c == '1') <|>
  decimalInteger

/-! ## 3. Floating-point numbers -/

/-- `mantissa` times ten to the `exponent` rounds to no finite double: it reaches the middle between
the largest one and the next power of two. -/
def exceedsDouble (mantissa : Nat) (exponent : Int) : Bool :=
  let limit : Nat := Nat.pow 2 1024 - Nat.pow 2 970
  let digits : Int := (Nat.toDigits 10 mantissa).length
  if mantissa = 0 then false
  else if digits + exponent > 400 then true
  else if digits + exponent < 300 then false
  else if 0 ≤ exponent then limit ≤ mantissa * Nat.pow 10 exponent.toNat
  else limit * Nat.pow 10 (-exponent).toNat ≤ mantissa

/-- The digits behind a point. -/
def fraction : Scanner (List Char) := do
  char '.'
  digits isDecimalDigit

/-- The power of ten behind the letter that announces it. -/
def exponent : Scanner Int := do
  let _ ← satisfy "an exponent" fun c => c == 'e' || c == 'E'
  let negative ← sign
  let n : Nat := Text.digitsValue 10 (← digits isDecimalDigit)
  return if negative then -n else n

/-- A number with a fraction, an exponent or both.  One that is too large is refused where it is
positive. -/
def decimalFloat : Scanner Value := do
  let negative ← sign
  let whole ← unsignedDecimal
  let (part, power) ←
    (do return ([], ← exponent)) <|>
    (do
      let part ← fraction
      return (part, (← optional exponent).getD 0))
  let mantissa := Text.digitsValue 10 (whole ++ part)
  let power := power - part.length
  if !negative && exceedsDouble mantissa power then throw (.outOfRange "floating-point number")
  return .float (.decimal negative mantissa power)

/-- Infinity, or the value that is no number. -/
def specialFloat : Scanner Value := do
  let negative ← sign
  (do word ['i', 'n', 'f']; return .float (.infinity negative)) <|>
    (do word ['n', 'a', 'n']; return .float .nan)

def float : Scanner Value :=
  decimalFloat <|> specialFloat

end MonkeyTokens.Toml
