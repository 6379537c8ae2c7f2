/-
# Diagnostic forms tell tokens apart

In diagnostics the bytes of a token are escaped (`Text.escaped`), and around them stands what says the
kind: its name and parentheses, or its label and the names of two fields.  Two tokens never look alike
in either form (`diagnostics_unambiguous`).

For the bytes this is a reader's matter.  `Text.unescape?` follows the escapes and not the writer, and
it takes every escaped byte back, with anything behind it (`Text.unescape?_escapedByte`), so also where
the text itself has a backslash, a quote or something that looks like an escape.

For the kind it is a matter of where the bytes begin.  No kind has a quote in its name or label, so the
first quote of the form is the one in front of the bytes (`Text.append_escaped_inj`), also for the
kinds whose names are parentheses.
-/
import Mathlib.Data.List.Basic
import Mathlib.Tactic.SplitIfs
import MonkeyTokens.Proofs.Characters
import MonkeyTokens.Token.Display

namespace MonkeyTokens

namespace Text

/-! ## 1. Reading escaped bytes -/

/-- The byte that a character stands for behind a backslash. -/
def escapeMark? : Char → Option UInt8
  | 't' => some 9
  | 'r' => some 13
  | 'n' => some 10
  | '\'' => some 39
  | '"' => some 34
  | '\\' => some 92
  | _ => none

/-- The byte that two hexadecimal digits spell. -/
def hexByte? (high low : Char) : Option UInt8 :=
  if isHexDigit high ∧ isHexDigit low then some (UInt8.ofNat (digitsValue 16 [high, low])) else none

/-- The bytes that an escaped text stands for, its quotes apart.  A quote needs a backslash. -/
def unescape? : List Char → Option Bytes
  | [] => some []
  | c :: rest =>
    if c = '\\' then
      match rest with
      | 'x' :: high :: low :: rest =>
        (hexByte? high low).bind fun b => (unescape? rest).map (b :: ·)
      | e :: rest => (escapeMark? e).bind fun b => (unescape? rest).map (b :: ·)
      | [] => none
    else if c = '"' then none
    else (latin1Byte? c).bind fun b => (unescape? rest).map (b :: ·)

/-- A quote stands in the text that no backslash escapes.  A backslash escapes the character behind
it, whatever that is. -/
def hasBareQuote : List Char → Bool
  | [] => false
  | c :: rest =>
    if c = '\\' then
      match rest with
      | _ :: rest => hasBareQuote rest
      | [] => false
    else c = '"' || hasBareQuote rest

/-! ## 2. Bytes are read as they were escaped -/

/-- **How a byte is escaped**: by a character that stands for it, by its two digits, or, if it is
printable and neither a quote nor a backslash, as itself. -/
theorem escapedByte_cases (b : UInt8) :
    (∃ e, escapeMark? e = some b ∧ escapedByte b = ['\\', e]) ∨
    escapedByte b = '\\' :: 'x' :: hexByte b ∨
    (∃ c, latin1Byte? c = some b ∧ c ≠ '"' ∧ c ≠ '\\' ∧ 32 ≤ c.toNat ∧ c.toNat ≤ 126 ∧
      escapedByte b = [c]) := by
  -- a byte is shown as a character only if it is the byte of the character
  have hother : ∀ {c : Char}, latin1Byte? c ≠ some b → Char.ofUInt8 b ≠ c := by
    rintro c h rfl
    exact h (latin1Byte?_ofUInt8 b)
  generalize hx : escapedByte b = x
  unfold escapedByte at hx
  split_ifs at hx with htab hreturn hfeed hsingle hdouble hbackslash hprintable
  · exact .inl ⟨'t', by rw [htab]; rfl, hx.symm⟩
  · exact .inl ⟨'r', by rw [hreturn]; rfl, hx.symm⟩
  · exact .inl ⟨'n', by rw [hfeed]; rfl, hx.symm⟩
  · exact .inl ⟨'\'', by rw [hsingle]; rfl, hx.symm⟩
  · exact .inl ⟨'"', by rw [hdouble]; rfl, hx.symm⟩
  · exact .inl ⟨'\\', by rw [hbackslash]; rfl, hx.symm⟩
  · have hquote : Char.ofUInt8 b ≠ '"' := hother fun h => hdouble (Option.some.inj h).symm
    have hback : Char.ofUInt8 b ≠ '\\' := hother fun h => hbackslash (Option.some.inj h).symm
    have hlow : 32 ≤ b.toNat := UInt8.le_iff_toNat_le.mp hprintable.1
    have hhigh : b.toNat ≤ 126 := UInt8.le_iff_toNat_le.mp hprintable.2
    exact .inr (.inr ⟨_, latin1Byte?_ofUInt8 b, hquote, hback, hlow, hhigh, hx.symm⟩)
  · exact .inr (.inl hx.symm)

/-- The digits of a byte spell it. -/
theorem hexByte?_hexByte (b : UInt8) :
    hexByte? (Nat.digitChar (b.toNat / 16)) (Nat.digitChar (b.toNat % 16)) = some b := by
  have hall : ∀ n < 256, hexByte? (Nat.digitChar (n / 16)) (Nat.digitChar (n % 16)) =
      some (UInt8.ofNat n) := by
    decide +kernel
  rw [hall b.toNat b.toNat_lt, UInt8.ofNat_toNat]

/-- **One byte is read as it was escaped**, whatever stands behind it. -/
theorem unescape?_escapedByte (b : UInt8) (rest : List Char) :
    unescape? (escapedByte b ++ rest) = (unescape? rest).map (b :: ·) := by
  rcases escapedByte_cases b with ⟨e, he, hb⟩ | hb | ⟨c, hc, hquote, hbackslash, -, -, hb⟩
  · rw [hb, List.cons_append, List.singleton_append, unescape?, he, Option.bind_some, if_pos rfl]
    -- the character is not the one before two digits
    rintro high low rest' rfl
    exact absurd he (by simp [escapeMark?])
  · rw [hb, hexByte]
    simp only [List.cons_append, List.nil_append, unescape?, hexByte?_hexByte, Option.bind_some]
    rfl
  · rw [hb, List.singleton_append, unescape?.eq_def]
    simp only [if_neg hquote, if_neg hbackslash, hc, Option.bind_some]

/-- **Bytes are read as they were escaped.** -/
theorem unescape?_flatMap (bytes : Bytes) : unescape? (bytes.flatMap escapedByte) = some bytes := by
  induction bytes with
  | nil => rfl
  | cons b bytes ih =>
    rw [List.flatMap_cons, unescape?_escapedByte, ih]
    rfl

/-! ## 3. What an escaped text looks like -/

theorem hasBareQuote_cons {c : Char} (hquote : c ≠ '"') (hbackslash : c ≠ '\\') (rest : List Char) :
    hasBareQuote (c :: rest) = hasBareQuote rest := by
  rw [hasBareQuote.eq_def]
  simp [hquote, hbackslash]

theorem hasBareQuote_escapedByte (b : UInt8) (rest : List Char) :
    hasBareQuote (escapedByte b ++ rest) = hasBareQuote rest := by
  have hdigit : ∀ n < 16, Nat.digitChar n ≠ '"' ∧ Nat.digitChar n ≠ '\\' := by decide
  rcases escapedByte_cases b with ⟨e, -, hb⟩ | hb | ⟨c, -, hquote, hbackslash, -, -, hb⟩
  · rw [hb]
    rfl
  · have hhigh := hdigit (b.toNat / 16) (by have := b.toNat_lt; omega)
    have hlow := hdigit (b.toNat % 16) (by omega)
    calc hasBareQuote (escapedByte b ++ rest)
        = hasBareQuote (Nat.digitChar (b.toNat / 16) :: Nat.digitChar (b.toNat % 16) :: rest) := by
          rw [hb]
          rfl
      _ = hasBareQuote (Nat.digitChar (b.toNat % 16) :: rest) :=
          hasBareQuote_cons hhigh.1 hhigh.2 _
      _ = hasBareQuote rest := hasBareQuote_cons hlow.1 hlow.2 _
  · rw [hb, List.singleton_append, hasBareQuote_cons hquote hbackslash]

/-- No quote of an escaped text is bare. -/
theorem hasBareQuote_flatMap (bytes : Bytes) : hasBareQuote (bytes.flatMap escapedByte) = false := by
  induction bytes with
  | nil => rfl
  | cons b bytes ih => rw [List.flatMap_cons, hasBareQuote_escapedByte, ih]

/-- Every character of an escaped byte is printable. -/
theorem toNat_of_mem_escapedByte {b : UInt8} {c : Char} (h : c ∈ escapedByte b) :
    32 ≤ c.toNat ∧ c.toNat ≤ 126 := by
  have hmark : ∀ {e : Char}, escapeMark? e = some b → 32 ≤ e.toNat ∧ e.toNat ≤ 126 := by
    intro e he
    unfold escapeMark? at he
    split at he <;> first | decide | exact absurd he (by simp)
  have hdigit : ∀ n < 16, 32 ≤ (Nat.digitChar n).toNat ∧ (Nat.digitChar n).toNat ≤ 126 := by decide
  rcases escapedByte_cases b with ⟨e, he, hb⟩ | hb | ⟨d, -, -, -, hlow, hhigh, hb⟩
  · rw [hb, List.mem_cons, List.mem_singleton] at h
    rcases h with rfl | rfl
    · decide
    · exact hmark he
  · rw [hb, List.mem_cons, List.mem_cons] at h
    rcases h with rfl | rfl | h
    · decide
    · decide
    · obtain ⟨n, hn, rfl⟩ := exists_digit_of_mem_hexByte h
      exact hdigit n hn
  · rw [hb, List.mem_singleton] at h
    subst h
    exact ⟨hlow, hhigh⟩

theorem toList_escaped (bytes : Bytes) :
    (escaped bytes).toList = '"' :: (bytes.flatMap escapedByte ++ ['"']) := by
  rw [escaped, String.toList_ofList]
  rfl

/-- **A diagnostic form is printable ASCII.** -/
theorem printable_of_mem_escaped {bytes : Bytes} {b : UInt8}
    (h : b ∈ utf8String (escaped bytes)) : 32 ≤ b ∧ b ≤ 126 := by
  obtain ⟨c, hc, hb⟩ := List.mem_flatMap.mp h
  have hrange : 32 ≤ c.toNat ∧ c.toNat ≤ 126 := by
    rw [toList_escaped, List.mem_cons, List.mem_append, List.mem_singleton] at hc
    rcases hc with rfl | hc | rfl
    · decide
    · obtain ⟨x, -, hx⟩ := List.mem_flatMap.mp hc
      exact toNat_of_mem_escapedByte hx
    · decide
  rw [utf8EncodeChar_of_lt (by omega), List.mem_singleton] at hb
  subst hb
  have hsize : c.toNat < UInt8.size := Nat.lt_of_le_of_lt hrange.2 (by decide)
  have hvalue : (UInt8.ofNat c.toNat).toNat = c.toNat := UInt8.toNat_ofNat_of_lt' hsize
  rw [UInt8.le_iff_toNat_le, UInt8.le_iff_toNat_le, hvalue]
  exact hrange

/-! ## 4. Escaped bytes in a frame -/

/-- **Where the bytes begin and what they are can be told.**  In front of the first quote stands what
is in front of the bytes, and what is behind them takes nothing from them. -/
theorem append_escaped_inj {front front' : List Char} (h : '"' ∉ front) (h' : '"' ∉ front')
    (back : List Char) {a b : Bytes} :
    front ++ (escaped a).toList ++ back = front' ++ (escaped b).toList ++ back ↔
      front = front' ∧ a = b := by
  have hcut : ∀ {x : List Char}, '"' ∉ x → ∀ rest,
      (x ++ '"' :: rest).takeWhile (· != '"') = x := by
    intro x hx rest
    have hall : ∀ c ∈ x, (c != '"') = true := by
      intro c hc
      rw [bne_iff_ne]
      rintro rfl
      exact hx hc
    rw [List.takeWhile_append_of_pos hall]
    exact List.append_nil x
  constructor
  · intro heq
    rw [List.append_left_inj, toList_escaped, toList_escaped] at heq
    have hfront : front = front' := by
      have htake := congrArg (List.takeWhile (· != '"')) heq
      rwa [hcut h, hcut h'] at htake
    rw [hfront, List.append_right_inj, List.cons_inj_right, List.append_left_inj] at heq
    refine ⟨hfront, ?_⟩
    have hread := unescape?_flatMap a
    rw [heq, unescape?_flatMap] at hread
    exact (Option.some.inj hread).symm
  · rintro ⟨rfl, rfl⟩
    rfl

end Text

/-! ## 5. Diagnostic forms of tokens -/

namespace Kind

theorem name_inj {k l : Kind} : k.name = l.name ↔ k = l := by
  constructor
  · intro h
    have hread := ofName?_name k
    rw [h, ofName?_name] at hread
    exact (Option.some.inj hread).symm
  · rintro rfl
    rfl

theorem label_inj {k l : Kind} : k.label = l.label ↔ k = l := by
  have hall : ∀ k ∈ all, ∀ l ∈ all, k.label = l.label → k = l := by decide +kernel
  constructor
  · exact hall k (mem_all k) l (mem_all l)
  · rintro rfl
    rfl

theorem quote_not_mem_name (k : Kind) : '"' ∉ k.name.toList := by
  cases k <;> decide

theorem quote_not_mem_label (k : Kind) : '"' ∉ k.label.toList := by
  cases k <;> decide

end Kind

namespace Token

theorem diagnostic_inj {t u : Token} :
    t.diagnostic = u.diagnostic ↔ t.kind = u.kind ∧ t.text = u.text := by
  have hlist : ∀ v : Token, v.diagnostic.toList =
      (v.kind.name.toList ++ ['(']) ++ (Text.escaped v.text).toList ++ [')'] := by
    intro v
    rw [diagnostic, String.toList_append, String.toList_append, String.toList_append]
    rfl
  have hquote : ∀ v : Token, '"' ∉ v.kind.name.toList ++ ['('] := by
    intro v
    rw [List.mem_append, not_or]
    exact ⟨v.kind.quote_not_mem_name, by decide⟩
  rw [← String.toList_inj, hlist, hlist, Text.append_escaped_inj (hquote t) (hquote u),
    List.append_left_inj, String.toList_inj, Kind.name_inj]

theorem fields_inj {t u : Token} : t.fields = u.fields ↔ t.kind = u.kind ∧ t.text = u.text := by
  have hlist : ∀ v : Token, v.fields.toList =
      ("Token \x7b kind: ".toList ++ v.kind.label.toList ++ ", text: ".toList) ++
        (Text.escaped v.text).toList ++ " \x7d".toList := by
    intro v
    unfold fields
    -- with the literals in sight each rewrite tries to take them apart
    generalize "Token \x7b kind: " = before, ", text: " = between, " \x7d" = behind
    rw [String.toList_append, String.toList_append, String.toList_append, String.toList_append]
  have hquote : ∀ v : Token,
      '"' ∉ "Token \x7b kind: ".toList ++ v.kind.label.toList ++ ", text: ".toList := by
    intro v
    rw [List.mem_append, List.mem_append, not_or, not_or]
    exact ⟨⟨by decide, v.kind.quote_not_mem_label⟩, by decide⟩
  rw [← String.toList_inj, hlist, hlist, Text.append_escaped_inj (hquote t) (hquote u),
    List.append_left_inj, List.append_right_inj, String.toList_inj, Kind.label_inj]

end Token

/-- **Diagnostic forms are unambiguous.**  The form of a byte string is printable ASCII between two
quotes; between them every quote is escaped, and undoing the escapes gives the bytes.  So two tokens
have the same form only if they are the same, in either of the two forms of a token. -/
theorem diagnostics_unambiguous :
    (∀ bytes : Bytes, ∃ body : List Char,
      (Text.escaped bytes).toList = '"' :: (body ++ ['"']) ∧
      (∀ b ∈ Text.utf8String (Text.escaped bytes), 32 ≤ b ∧ b ≤ 126) ∧
      Text.hasBareQuote body = false ∧ Text.unescape? body = some bytes) ∧
    (∀ (k₁ k₂ : Kind) (t₁ t₂ : Bytes),
      (⟨k₁, t₁⟩ : Token).diagnostic = (⟨k₂, t₂⟩ : Token).diagnostic ↔ k₁ = k₂ ∧ t₁ = t₂) ∧
    (∀ (k₁ k₂ : Kind) (t₁ t₂ : Bytes),
      (⟨k₁, t₁⟩ : Token).fields = (⟨k₂, t₂⟩ : Token).fields ↔ k₁ = k₂ ∧ t₁ = t₂) := by
  refine ⟨?_, ?_, ?_⟩
  · intro bytes
    refine ⟨bytes.flatMap Text.escapedByte, Text.toList_escaped bytes, ?_, ?_, ?_⟩
    · intro b hb
      exact Text.printable_of_mem_escaped hb
    · exact Text.hasBareQuote_flatMap bytes
    · exact Text.unescape?_flatMap bytes
  · intro k₁ k₂ t₁ t₂
    exact Token.diagnostic_inj
  · intro k₁ k₂ t₁ t₂
    exact Token.fields_inj

/-- A byte with an escape, and the four bytes that spell this escape. -/
example : Text.escaped [1] = "\"\\x01\"" ∧ Text.escaped [92, 120, 48, 49] = "\"\\\\x01\"" := by
  decide +kernel

end MonkeyTokens
