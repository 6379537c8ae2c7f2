/-
# Kinds of tokens

The twenty kinds in the order of `Kind.all`, which is also the order in which kinds compare.  A kind
has two spellings: `Kind.name`, which appears in written records (an operator or a delimiter is
named by its own byte, everything else by a tag in capitals), and `Kind.label`, the identifier used
in diagnostics.

Two ways lead from source bytes to a kind: `Kind.ofByte?` for the tokens that are one byte long,
and `Kind.ofWord` for a run of letters.
-/
import MonkeyTokens.Byte

namespace MonkeyTokens

/-- What a token is. -/
inductive Kind where
  | illegal
  | eof
  | ident
  | int
  | assign
  | plus
  | minus
  | bang
  | asterisk
  | slash
  | lt
  | gt
  | comma
  | semicolon
  | lparen
  | rparen
  | lbrace
  | rbrace
  | keywordFn
  | keywordLet
  deriving DecidableEq, Ord

namespace Kind

/-- Every kind, in order. -/
def all : List Kind :=
  [.illegal, .eof, .ident, .int, .assign, .plus, .minus, .bang, .asterisk, .slash, .lt, .gt,
    .comma, .semicolon, .lparen, .rparen, .lbrace, .rbrace, .keywordFn, .keywordLet]

/-- Nothing is missing from the list. -/
theorem mem_all (k : Kind) : k ∈ all := by
  cases k <;> decide

/-! ## 1. Spellings -/

/-- The name of a kind in written records. -/
def name : Kind → String
  | .illegal => "ILLEGAL"
  | .eof => "EOF"
  | .ident => "IDENT"
  | .int => "INT"
  | .assign => "="
  | .plus => "+"
  | .minus => "-"
  | .bang => "!"
  | .asterisk => "*"
  | .slash => "/"
  | .lt => "<"
  | .gt => ">"
  | .comma => ","
  | .semicolon => ";"
  | .lparen => "("
  | .rparen => ")"
  | .lbrace => "\x7b"
  | .rbrace => "\x7d"
  | .keywordFn => "FUNCTION"
  | .keywordLet => "LET"

/-- The kind that a name stands for. -/
def ofName? (s : String) : Option Kind :=
  all.find? fun k => k.name == s

/-- A name stands for one kind only. -/
theorem ofName?_name (k : Kind) : ofName? k.name = some k := by
  cases k <;> decide

/-- The identifier of a kind in diagnostics. -/
def label : Kind → String
  | .illegal => "Illegal"
  | .eof => "Eof"
  | .ident => "Ident"
  | .int => "Int"
  | .assign => "Assign"
  | .plus => "Plus"
  | .minus => "Minus"
  | .bang => "Bang"
  | .asterisk => "Asterisk"
  | .slash => "Slash"
  | .lt => "Lt"
  | .gt => "Gt"
  | .comma => "Comma"
  | .semicolon => "Semicolon"
  | .lparen => "LParen"
  | .rparen => "RParen"
  | .lbrace => "LBrace"
  | .rbrace => "RBrace"
  | .keywordFn => "Function"
  | .keywordLet => "Let"

/-- The keywords are `fn` and `let`. -/
def isKeyword : Kind → Bool
  | .keywordFn | .keywordLet => true
  | _ => false

/-- The kinds of words: identifiers and the two keywords. -/
def isWord : Kind → Bool
  | .ident | .keywordFn | .keywordLet => true
  | _ => false

/-! ## 2. From bytes to kinds -/

/-- The byte of an operator or a delimiter; the other kinds have no spelling of their own. -/
def byte? : Kind → Option UInt8
  | .assign => some 61
  | .plus => some 43
  | .minus => some 45
  | .bang => some 33
  | .asterisk => some 42
  | .slash => some 47
  | .lt => some 60
  | .gt => some 62
  | .comma => some 44
  | .semicolon => some 59
  | .lparen => some 40
  | .rparen => some 41
  | .lbrace => some 123
  | .rbrace => some 125
  | _ => none

/-- The kind of a byte that is an operator or a delimiter, a token on its own. -/
def ofByte? (b : UInt8) : Option Kind :=
  all.find? fun k => k.byte? == some b

theorem byte?_of_ofByte? {b : UInt8} {k : Kind} (h : ofByte? b = some k) : k.byte? = some b := by
  simpa using List.find?_some h

/-- A byte never stands for a kind without a spelling, such as the end of the text. -/
theorem ofByte?_ne {k : Kind} (hk : k.byte? = none) (b : UInt8) : ofByte? b ≠ some k := by
  intro h
  exact absurd (hk.symm.trans (byte?_of_ofByte? h)) (by simp)

/-- The keyword that a text spells, if it spells one: `fn` or `let`, byte for byte. -/
def keyword? (text : Bytes) : Option Kind :=
  if text = [102, 110] then some .keywordFn
  else if text = [108, 101, 116] then some .keywordLet
  else none

/-- The kind of a word: its keyword, and an identifier otherwise. -/
def ofWord (text : Bytes) : Kind :=
  (keyword? text).getD .ident

theorem isWord_ofWord (text : Bytes) : (ofWord text).isWord = true := by
  unfold ofWord keyword?
  split
  · rfl
  · split <;> rfl

/-- A word never has another kind. -/
theorem ofWord_ne {k : Kind} (hk : k.isWord = false) (text : Bytes) : ofWord text ≠ k := by
  rintro rfl
  exact absurd ((isWord_ofWord text).symm.trans hk) (by simp)

end Kind

end MonkeyTokens
