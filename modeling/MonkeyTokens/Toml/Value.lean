/-
# TOML values

What a TOML document says, once it is read: a table of named values.  Tables keep their keys in the
order in which they were first named; `Table.get?` is the view that ignores the order.
-/

namespace MonkeyTokens.Toml

/-- A calendar date. -/
structure Date where
  year : Nat
  month : Nat
  day : Nat
  deriving DecidableEq

/-- A time of day.  The fraction counts nanoseconds; what is finer is cut off. -/
structure Time where
  hour : Nat
  minute : Nat
  second : Nat
  nanosecond : Nat
  deriving DecidableEq

/-- A date, a time, or both; with both there may be the minutes by which the clock is ahead of
universal time. -/
structure DateTime where
  date : Option Date
  time : Option Time
  offset : Option Int
  deriving DecidableEq

/-- A number with a fraction or an exponent, kept as it is spelled: `mantissa` times a power of
ten. -/
inductive Float where
  | decimal (negative : Bool) (mantissa : Nat) (exponent : Int)
  | infinity (negative : Bool)
  | nan
  deriving DecidableEq

/-- The value of a key. -/
inductive Value where
  | string (s : String)
  | integer (n : Int)
  | float (x : Float)
  | boolean (b : Bool)
  | dateTime (d : DateTime)
  | array (items : List Value)
  | table (entries : List (String × Value))

/-- Named values; no name stands twice in a table that was read. -/
abbrev Table := List (String × Value)

/-- The value of a key. -/
def Table.get? (t : Table) (key : String) : Option Value :=
  t.lookup key

end MonkeyTokens.Toml
