/-
# Reading JSON

The reader for what `jsonString` writes, and for the objects that token records are: two members, both
of them strings.  It follows the format and not the writer.  A string ends at the first quote that no
backslash stands before, every escape of the format is undone (a number stands for a character, so
surrogates are refused), a character below the space is refused, and blanks may stand between the
parts of an object.

Reading undoes writing: one character at a time (`jsonBody?_jsonChar`), so a whole string
(`jsonString?_jsonString`), so the members of an object (`jsonMembers?_of_members`).  What is written
has no character below the space (`le_toNat_of_mem_jsonString`).
-/
import Mathlib.Tactic.SplitIfs
import MonkeyTokens.Text.Escapes

namespace MonkeyTokens.Text

/-! ## 1. Strings -/

/-- The character that stands behind a backslash and is no number. -/
def jsonEscape? : Char → Option Char
  | '"' => some '"'
  | '\\' => some '\\'
  | '/' => some '/'
  | 'b' => some '\x08'
  | 'f' => some '\x0c'
  | 'n' => some '\n'
  | 'r' => some '\r'
  | 't' => some '\t'
  | _ => none

/-- The character whose number is given in hexadecimal digits. -/
def hexChar? (digits : List Char) : Option Char :=
  if digits.all isHexDigit ∧ (digitsValue 16 digits).isValidChar then
    some (Char.ofNat (digitsValue 16 digits))
  else none

/-- A character in front of what has been read. -/
def consRead (c : Char) (read : List Char × List Char) : List Char × List Char :=
  (c :: read.1, read.2)

/-- The characters of a string behind its opening quote, and what is behind the closing one. -/
def jsonBody? : List Char → Option (List Char × List Char)
  | [] => none
  | c :: rest =>
    if c = '"' then some ([], rest)
    else if c = '\\' then
      match rest with
      | 'u' :: h₁ :: h₂ :: h₃ :: h₄ :: rest =>
        (hexChar? [h₁, h₂, h₃, h₄]).bind fun x => (jsonBody? rest).map (consRead x)
      | e :: rest => (jsonEscape? e).bind fun x => (jsonBody? rest).map (consRead x)
      | [] => none
    else if c.toNat < 32 then none
    else (jsonBody? rest).map (consRead c)

/-- A string, and what is behind it. -/
def jsonString? : List Char → Option (List Char × List Char)
  | '"' :: rest => jsonBody? rest
  | _ => none

/-! ## 2. Strings are read as they were written -/

/-- **How a character is written**: by a letter that stands for it, by its number if it is below the
space, or as itself. -/
theorem jsonChar_cases (c : Char) :
    (∃ e, jsonEscape? e = some c ∧ jsonChar c = ['\\', e]) ∨
    (c.toNat < 32 ∧
      jsonChar c = '\\' :: 'u' :: '0' :: '0' :: hexByte (UInt8.ofNat c.toNat)) ∨
    (c ≠ '"' ∧ c ≠ '\\' ∧ 32 ≤ c.toNat ∧ jsonChar c = [c]) := by
  -- a letter stands for the character of a number
  have hletter : ∀ {n : Nat} {e : Char}, c.toNat = n → jsonEscape? e = some (Char.ofNat n) →
      jsonEscape? e = some c := by
    rintro n e rfl h
    rwa [Char.ofNat_toNat] at h
  generalize hx : jsonChar c = x
  unfold jsonChar at hx
  split_ifs at hx with hquote hbackslash h8 h12 h10 h13 h9 hlow
  · exact .inl ⟨'"', by rw [hquote]; rfl, hx.symm⟩
  · exact .inl ⟨'\\', by rw [hbackslash]; rfl, hx.symm⟩
  · exact .inl ⟨'b', hletter h8 rfl, hx.symm⟩
  · exact .inl ⟨'f', hletter h12 rfl, hx.symm⟩
  · exact .inl ⟨'n', hletter h10 rfl, hx.symm⟩
  · exact .inl ⟨'r', hletter h13 rfl, hx.symm⟩
  · exact .inl ⟨'t', hletter h9 rfl, hx.symm⟩
  · exact .inr (.inl ⟨hlow, hx.symm⟩)
  · exact .inr (.inr ⟨hquote, hbackslash, Nat.not_lt.mp hlow, hx.symm⟩)

/-- The number of a character below the space is read as the character. -/
theorem hexChar?_hexByte {c : Char} (h : c.toNat < 32) :
    hexChar? ('0' :: '0' :: hexByte (UInt8.ofNat c.toNat)) = some c := by
  have hall : ∀ n < 32, hexChar? ('0' :: '0' :: hexByte (UInt8.ofNat n)) = some (Char.ofNat n) := by
    decide
  rw [hall c.toNat h, Char.ofNat_toNat]

theorem jsonEscape?_u : jsonEscape? 'u' = none := rfl

/-- **One character is read as it was written.** -/
theorem jsonBody?_jsonChar (c : Char) (rest : List Char) :
    jsonBody? (jsonChar c ++ rest) = (jsonBody? rest).map (consRead c) := by
  rcases jsonChar_cases c with ⟨e, he, hc⟩ | ⟨hlow, hc⟩ | ⟨hquote, hbackslash, hle, hc⟩
  · rw [hc, List.cons_append, List.cons_append, List.nil_append, jsonBody?, he, Option.bind_some]
    · rw [if_neg (by decide), if_pos rfl]
    · -- the letter is not the one before a number
      rintro h₁ h₂ h₃ h₄ rest' rfl
      rw [jsonEscape?_u] at he
      exact absurd he (by simp)
  · have hnumber := hexChar?_hexByte hlow
    rw [hexByte] at hnumber
    rw [hc, hexByte]
    simp only [List.cons_append, List.nil_append, jsonBody?, hnumber, Option.bind_some]
    rfl
  · rw [hc, List.singleton_append, jsonBody?.eq_def]
    simp only [if_neg hquote, if_neg hbackslash, if_neg (Nat.not_lt.mpr hle)]

/-- **A string is read as it was written.** -/
theorem jsonString?_jsonString (cs rest : List Char) :
    jsonString? (jsonString cs ++ rest) = some (cs, rest) := by
  have hbody : ∀ cs : List Char, jsonBody? (cs.flatMap jsonChar ++ '"' :: rest) = some (cs, rest) := by
    intro cs
    induction cs with
    | nil =>
      rw [List.flatMap_nil, List.nil_append, jsonBody?.eq_def]
      rfl
    | cons c cs ih =>
      rw [List.flatMap_cons, List.append_assoc, jsonBody?_jsonChar, ih]
      rfl
  rw [jsonString, List.append_assoc, List.cons_append]
  exact hbody cs

/-- No character below the space is written. -/
theorem le_toNat_of_mem_jsonChar {c d : Char} (h : d ∈ jsonChar c) : 32 ≤ d.toNat := by
  have hletters : ∀ {e x : Char}, jsonEscape? e = some x → 32 ≤ e.toNat := by
    intro e x he
    unfold jsonEscape? at he
    split at he <;> first | decide | exact absurd he (by simp)
  have hfront : ∀ d ∈ ['\\', 'u', '0', '0'], 32 ≤ d.toNat := by simp
  have hdigits : ∀ n < 16, 32 ≤ (Nat.digitChar n).toNat := by decide
  rcases jsonChar_cases c with ⟨e, he, hc⟩ | ⟨-, hc⟩ | ⟨-, -, hle, hc⟩
  · rw [hc] at h
    rcases List.mem_cons.mp h with rfl | h
    · decide
    · rw [List.mem_singleton.mp h]
      exact hletters he
  · rw [hc] at h
    rcases List.mem_append (s := ['\\', 'u', '0', '0']).mp h with h | h
    · exact hfront d h
    · obtain ⟨n, hn, rfl⟩ := exists_digit_of_mem_hexByte h
      exact hdigits n hn
  · rw [hc, List.mem_singleton] at h
    rw [h]
    exact hle

theorem le_toNat_of_mem_jsonString {cs : List Char} {d : Char} (h : d ∈ jsonString cs) :
    32 ≤ d.toNat := by
  rw [jsonString, List.mem_append, List.mem_cons, List.mem_singleton] at h
  rcases h with (rfl | h) | rfl
  · decide
  · obtain ⟨c, -, hd⟩ := List.mem_flatMap.mp h
    exact le_toNat_of_mem_jsonChar hd
  · decide

/-! ## 3. Objects -/

/-- What is behind the blanks of the format. -/
def skipJsonBlanks (cs : List Char) : List Char :=
  cs.dropWhile fun c => c = ' ' ∨ c = '\t' ∨ c = '\n' ∨ c = '\r'

/-- What is behind a mark; blanks may stand before it. -/
def behindMark? (mark : Char) (cs : List Char) : Option (List Char) :=
  match skipJsonBlanks cs with
  | c :: rest => if c = mark then some rest else none
  | [] => none

/-- A member whose value is a string, and what is behind it. -/
def jsonMember? (cs : List Char) : Option ((List Char × List Char) × List Char) := do
  let (key, rest) ← jsonString? (skipJsonBlanks cs)
  let rest ← behindMark? ':' rest
  let (value, rest) ← jsonString? (skipJsonBlanks rest)
  return ((key, value), rest)

/-- The members of an object that has two, both of them strings. -/
def jsonMembers? (cs : List Char) : Option (List (List Char × List Char)) := do
  let rest ← behindMark? '\x7b' cs
  let (first, rest) ← jsonMember? rest
  let rest ← behindMark? ',' rest
  let (second, rest) ← jsonMember? rest
  let rest ← behindMark? '\x7d' rest
  if (skipJsonBlanks rest).isEmpty then return [first, second] else none

/-- A member as it is written, without blanks. -/
def jsonMember (key value : List Char) : List Char :=
  jsonString key ++ ':' :: jsonString value

theorem skipJsonBlanks_jsonString (cs rest : List Char) :
    skipJsonBlanks (jsonString cs ++ rest) = jsonString cs ++ rest := rfl

theorem jsonMember?_jsonMember (key value rest : List Char) :
    jsonMember? (jsonMember key value ++ rest) = some ((key, value), rest) := by
  have hcolon : ∀ more : List Char, behindMark? ':' (':' :: more) = some more := fun _ => rfl
  rw [jsonMember?, jsonMember, List.append_assoc, skipJsonBlanks_jsonString,
    jsonString?_jsonString]
  simp only [Option.bind_eq_bind, Option.bind_some, List.cons_append, hcolon,
    skipJsonBlanks_jsonString, jsonString?_jsonString]
  rfl

/-- **The members of an object are read as they were written.** -/
theorem jsonMembers?_of_members (key₁ value₁ key₂ value₂ : List Char) :
    jsonMembers? ('\x7b' :: (jsonMember key₁ value₁ ++ ',' :: (jsonMember key₂ value₂ ++ ['\x7d']))) =
      some [(key₁, value₁), (key₂, value₂)] := by
  have hmark : ∀ more : List Char, behindMark? '\x7b' ('\x7b' :: more) = some more := fun _ => rfl
  have hcomma : ∀ more : List Char, behindMark? ',' (',' :: more) = some more := fun _ => rfl
  rw [jsonMembers?, hmark]
  simp only [Option.bind_eq_bind, Option.bind_some, jsonMember?_jsonMember, hcomma]
  rfl

end MonkeyTokens.Text
