/-
# Two readings of the bytes of a token

The bytes of a token can be shown one character each (`Text.latin1String`), or be read as the UTF-8
text that they spell (`Text.utf8?`), if they spell one.  The first always works and tells the bytes
(`Text.latin1String_inj`).  The second agrees with it exactly on ASCII (`Text.utf8?_eq_latin1_iff`).

That they never agree by chance is a matter of length.  UTF-8 takes two bytes for a character from
128 to 255, so what is shown of bytes outside ASCII is spelled with more bytes than there are
(`Text.length_utf8_latin1`), whatever sequences the bytes form among themselves.

A token leaves ASCII only if it is illegal, and then it is one byte, which spells nothing
(`Text.utf8?_singleton_eq_none`).  So of a token from a scan there is nothing in between: it has no
UTF-8 text at all, or the one that is shown (`renderings_agree_on_ascii`).
-/
import MonkeyTokens.Proofs.Characters
import MonkeyTokens.Proofs.Runs
import MonkeyTokens.Token.Display

namespace MonkeyTokens

namespace Text

/-! ## 1. Texts in UTF-8 -/

/-- **Bytes spell a text exactly if they are what is written for it.** -/
theorem utf8?_eq_some_iff {bytes : Bytes} {s : String} :
    utf8? bytes = some s ↔ bytes = utf8String s := by
  constructor
  · intro h
    unfold utf8? String.fromUTF8? at h
    split at h
    · have hbytes : bytes.toByteArray = s.toByteArray :=
        congrArg String.toByteArray (Option.some.inj h)
      rw [← String.utf8Encode_toList] at hbytes
      exact List.toByteArray_inj.mp hbytes
    · exact absurd h (by simp)
  · rintro rfl
    rw [utf8String, utf8?_utf8, String.ofList_toList]

/-- A single byte is written for a character below 128 only. -/
theorem toNat_lt_of_length_eq_one {c : Char} (h : (String.utf8EncodeChar c).length = 1) :
    c.toNat < 128 := by
  rw [String.length_utf8EncodeChar, Char.utf8Size_eq_one_iff] at h
  exact Nat.lt_succ_of_le (UInt32.le_iff_toNat_le.mp h)

/-- **One byte outside ASCII spells nothing.** -/
theorem utf8?_singleton_eq_none {b : UInt8} (hb : 128 ≤ b) : utf8? [b] = none := by
  refine Option.eq_none_iff_forall_ne_some.mpr fun s hs => ?_
  have hbytes : [b] = utf8 s.toList := utf8?_eq_some_iff.mp hs
  cases hlist : s.toList with
  | nil =>
    rw [hlist] at hbytes
    exact absurd hbytes (by simp)
  | cons c cs =>
    -- the first character takes a byte, so it takes the only one
    have hsplit : [b] = String.utf8EncodeChar c ++ utf8 cs := by rw [hbytes, hlist]; rfl
    have hlength := congrArg List.length hsplit
    have hpos : 0 < (String.utf8EncodeChar c).length := by
      rw [String.length_utf8EncodeChar]
      exact c.utf8Size_pos
    rw [List.length_singleton, List.length_append] at hlength
    have hlt : c.toNat < 128 := toNat_lt_of_length_eq_one (by omega)
    rw [utf8EncodeChar_of_lt hlt, List.singleton_append] at hsplit
    have hvalue : b = UInt8.ofNat c.toNat := List.head_eq_of_cons_eq hsplit
    have hle : 128 ≤ b.toNat := UInt8.le_iff_toNat_le.mp hb
    rw [hvalue, UInt8.toNat_ofNat_of_lt' (Nat.lt_trans hlt (by decide))] at hle
    omega

/-! ## 2. What is shown of bytes, in UTF-8 -/

/-- The characters that are shown tell the bytes. -/
theorem latin1String_inj {a b : Bytes} : latin1String a = latin1String b ↔ a = b := by
  constructor
  · intro h
    have hread := latin1Bytes?_latin1 a
    rw [String.ofList_injective h, latin1Bytes?_latin1] at hread
    exact (Option.some.inj hread).symm
  · rintro rfl
    rfl

/-- The character of a byte takes one byte, and outside ASCII a second one. -/
theorem length_utf8EncodeChar_ofUInt8 (b : UInt8) :
    (String.utf8EncodeChar (Char.ofUInt8 b)).length = 1 + if 128 ≤ b then 1 else 0 := by
  have hall : ∀ n < 256, (String.utf8EncodeChar (Char.ofUInt8 (UInt8.ofNat n))).length =
      1 + if 128 ≤ UInt8.ofNat n then 1 else 0 := by
    decide +kernel
  rw [← UInt8.ofNat_toNat (x := b)]
  exact hall b.toNat b.toNat_lt

/-- **What is shown of bytes takes more bytes than there are**, by one for each outside ASCII. -/
theorem length_utf8_latin1 (bytes : Bytes) :
    (utf8 (latin1 bytes)).length = bytes.length + bytes.countP (128 ≤ ·) := by
  induction bytes with
  | nil => rfl
  | cons b bytes ih =>
    have hcons : utf8 (latin1 (b :: bytes)) =
        String.utf8EncodeChar (Char.ofUInt8 b) ++ utf8 (latin1 bytes) := rfl
    rw [hcons, List.length_append, length_utf8EncodeChar_ofUInt8, ih, List.countP_cons,
      List.length_cons]
    simp only [decide_eq_true_eq]
    omega

/-- ASCII is written as it is. -/
theorem utf8_latin1_of_ascii {bytes : Bytes} (h : ∀ b ∈ bytes, b < 128) :
    utf8 (latin1 bytes) = bytes := by
  induction bytes with
  | nil => rfl
  | cons b bytes ih =>
    have hb : (Char.ofUInt8 b).toNat < 128 := UInt8.lt_iff_toNat_lt.mp (h b List.mem_cons_self)
    calc utf8 (latin1 (b :: bytes))
        = String.utf8EncodeChar (Char.ofUInt8 b) ++ utf8 (latin1 bytes) := rfl
      _ = [UInt8.ofNat b.toNat] ++ utf8 (latin1 bytes) := by
          rw [utf8EncodeChar_of_lt hb, toNat_ofUInt8]
      _ = b :: bytes := by
          rw [UInt8.ofNat_toNat, ih fun x hx => h x (List.mem_cons_of_mem b hx)]
          rfl

/-- **The two readings agree exactly on ASCII.** -/
theorem utf8?_eq_latin1_iff {bytes : Bytes} :
    utf8? bytes = some (latin1String bytes) ↔ ∀ b ∈ bytes, b < 128 := by
  have hspelled : utf8? bytes = some (latin1String bytes) ↔ bytes = utf8 (latin1 bytes) := by
    rw [utf8?_eq_some_iff, utf8String, latin1String, String.toList_ofList]
  rw [hspelled]
  constructor
  · intro h b hb
    have hlength := length_utf8_latin1 bytes
    rw [← h] at hlength
    have hnone : bytes.countP (128 ≤ ·) = 0 := by omega
    have hle := List.countP_eq_zero.mp hnone b hb
    rwa [decide_eq_true_eq, UInt8.not_le] at hle
  · intro h
    exact (utf8_latin1_of_ascii h).symm

end Text

/-! ## 3. Tokens of a scan -/

namespace Byte

theorem lt_of_isLetter {b : UInt8} (h : isLetter b = true) : b < 128 := by
  simp only [isLetter, Bool.or_eq_true, Bool.and_eq_true, decide_eq_true_eq, beq_iff_eq] at h
  rcases h with (⟨-, hle⟩ | ⟨-, hle⟩) | rfl
  · exact UInt8.lt_of_le_of_lt hle (by decide)
  · exact UInt8.lt_of_le_of_lt hle (by decide)
  · decide

theorem lt_of_isDigit {b : UInt8} (h : isDigit b = true) : b < 128 := by
  simp only [isDigit, Bool.and_eq_true, decide_eq_true_eq] at h
  exact UInt8.lt_of_le_of_lt h.2 (by decide)

end Byte

/-- Operators and delimiters are ASCII. -/
theorem Kind.lt_of_byte? {k : Kind} {b : UInt8} (h : k.byte? = some b) : b < 128 := by
  cases k <;> simp only [byte?, Option.some.injEq, reduceCtorEq] at h <;> subst h <;> decide

/-- **A token leaves ASCII only as one illegal byte.** -/
theorem Token.WellFormed.ascii_or_illegal {t : Token} (ht : t.WellFormed) :
    (∀ b ∈ t.text, b < 128) ∨ t.kind = .illegal ∧ ∃ b, 128 ≤ b ∧ t.text = [b] := by
  have hsingle : ∀ {b : UInt8}, t.text = [b] → b < 128 → ∀ x ∈ t.text, x < 128 := by
    intro b htext hb x hx
    rw [htext, List.mem_singleton] at hx
    rwa [hx]
  cases ht with
  | word kind nonempty letters function binding =>
    exact .inl fun b hb => Byte.lt_of_isLetter (letters b hb)
  | int kind nonempty digits => exact .inl fun b hb => Byte.lt_of_isDigit (digits b hb)
  | operator b text kind =>
    exact .inl (hsingle text (Kind.lt_of_byte? (Kind.byte?_of_ofByte? kind)))
  | illegal b kind text blank letter digit operator =>
    by_cases hb : 128 ≤ b
    · exact .inr ⟨kind, b, hb, text⟩
    · exact .inl (hsingle text (UInt8.not_le.mp hb))

/-- The same of every answer of a lexer, the end token included. -/
theorem Lexer.ascii_or_illegal (source : Bytes) (k : Nat) :
    let t := ((ofSource source).after k).next.1
    (∀ b ∈ t.text, b < 128) ∨ t.kind = .illegal ∧ ∃ b, 128 ≤ b ∧ t.text = [b] := by
  obtain ⟨w, t, rest, hcall⟩ := (within_after source k).exists_call
  simp only [hcall.answer]
  rcases hcall.spelled with ⟨ht, -⟩ | ⟨rfl, -⟩
  · exact ht.ascii_or_illegal
  · exact .inl fun b hb => absurd hb (by simp [Token.eof])

/-- **The two renderings of a token.** On any bytes they agree exactly on ASCII, and the one that
always works tells the bytes.  Of a token that a lexer yields, whatever its source is and however
often it has been asked, there is no UTF-8 text exactly if the token is illegal and not ASCII;
otherwise it is what is shown. -/
theorem renderings_agree_on_ascii :
    (∀ bytes, Text.utf8? bytes = some (Text.latin1String bytes) ↔ ∀ b ∈ bytes, b < 128) ∧
    (∀ a b : Bytes, Text.latin1String a = Text.latin1String b ↔ a = b) ∧
    ∀ source k,
      let t := ((Lexer.ofSource source).after k).next.1
      (t.utf8? = none ↔ t.kind = .illegal ∧ ∃ b ∈ t.text, 128 ≤ b) ∧
        (t.utf8? = none ∨ t.utf8? = some t.display) := by
  refine ⟨fun _ => Text.utf8?_eq_latin1_iff, fun _ _ => Text.latin1String_inj, ?_⟩
  intro source k t
  rcases Lexer.ascii_or_illegal source k with hascii | ⟨hkind, b, hb, htext⟩
  · have hsome : t.utf8? = some t.display := Text.utf8?_eq_latin1_iff.mpr hascii
    refine ⟨⟨fun hnone => ?_, ?_⟩, .inr hsome⟩
    · rw [hsome] at hnone
      exact absurd hnone (by simp)
    · rintro ⟨-, b, hb, hle⟩
      exact absurd hle (UInt8.not_le.mpr (hascii b hb))
  · have hnone : t.utf8? = none := by
      show Text.utf8? t.text = none
      rw [htext]
      exact Text.utf8?_singleton_eq_none hb
    have hmem : b ∈ t.text := by
      rw [htext]
      exact List.mem_singleton_self b
    exact ⟨⟨fun _ => ⟨hkind, b, hmem, hb⟩, fun _ => hnone⟩, .inl hnone⟩

/-- The two bytes of an `é` are UTF-8 together, and two tokens that are not. -/
example : (tokenize [195, 169, 61]).map Token.utf8? = [none, none, some "=", some ""] := by
  decide +kernel

end MonkeyTokens
