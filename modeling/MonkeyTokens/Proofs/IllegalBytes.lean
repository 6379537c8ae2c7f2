/-
# Illegal bytes and illegal tokens

A byte is illegal if no token can be made of it: it is no blank, no letter, no digit and none of the
operators and delimiters.  This is said of single bytes and without a scanner.  Every illegal byte of a
source is an illegal token of its own, wherever it stands, and there are no others
(`countP_isIllegal_tokens`); so whether a denied dump fails can be read off the bytes
(`dump_result`).
-/
import MonkeyTokens.Dump
import MonkeyTokens.Proofs.Scan

namespace MonkeyTokens

/-- The byte belongs to no token. -/
def Byte.isIllegal (b : UInt8) : Bool :=
  isOther b && (Kind.ofByte? b).isNone

theorem Byte.isIllegal_eq_false_of_blank {b : UInt8} (h : isBlank b = true) :
    isIllegal b = false := by
  simp [isIllegal, isOther, h]

theorem countP_isIllegal_blank {w : Bytes} (hw : Blank w) : w.countP Byte.isIllegal = 0 := by
  rw [List.countP_eq_zero]
  intro b hb
  simp [Byte.isIllegal_eq_false_of_blank (hw b hb)]

/-- An illegal token is one illegal byte, and in the others there is none. -/
theorem Token.WellFormed.countP_isIllegal {t : Token} (ht : t.WellFormed) :
    t.text.countP Byte.isIllegal = if t.isIllegal then 1 else 0 := by
  rcases t.wellFormed_iff.mp ht with ⟨-, hall, hk⟩ | ⟨-, hall, hk⟩ | ⟨b, htext, hb, hk⟩
  · have hlegal : t.isIllegal = false := by
      have hword := Kind.isWord_ofWord t.text
      rw [Token.isIllegal, hk]
      cases hkind : Kind.ofWord t.text <;> simp_all [Kind.isWord]
    rw [hlegal]
    refine List.countP_eq_zero.mpr fun b hb => ?_
    simp [Byte.isIllegal, Byte.isOther, hall b hb]
  · have hlegal : t.isIllegal = false := by rw [Token.isIllegal, hk]; rfl
    rw [hlegal]
    refine List.countP_eq_zero.mpr fun b hb => ?_
    simp [Byte.isIllegal, Byte.isOther, hall b hb]
  · rw [htext, List.countP_singleton, Byte.isIllegal, hb, Token.isIllegal, hk]
    cases hop : Kind.ofByte? b with
    | none => rfl
    | some k =>
      -- the illegal kind is the kind of no byte
      have hne : k ≠ .illegal := by
        rintro rfl
        exact absurd (Kind.byte?_of_ofByte? hop) (by simp [Kind.byte?])
      simp [hne]

/-- **Every illegal byte is a token of its own.** -/
theorem countP_isIllegal_tokens (source : Bytes) :
    (tokens source).countP (·.isIllegal) = source.countP Byte.isIllegal := by
  induction source using spelled_induction with
  | blank w hw => rw [tokens_of_blank hw, countP_isIllegal_blank hw]; rfl
  | token w t rest hw ht hr ih =>
    rw [tokens_of_spelled hw ht hr, List.countP_cons, ih, List.countP_append, List.countP_append,
      countP_isIllegal_blank hw, ht.countP_isIllegal]
    omega

/-- A dump counts the tokens of its source, with the end token, and the illegal ones. -/
theorem summary_placedTokens (source : Bytes) :
    Summary.ofTokens (placedTokens source) =
      ⟨(tokenize source).length, (tokenize source).countP (·.isIllegal)⟩ := by
  rw [Summary.ofTokens, tokenize, List.length_map, List.countP_map]
  rfl

/-- A lexer finds an illegal token exactly if there is an illegal byte. -/
theorem exists_illegal_placed_iff (source : Bytes) :
    (∃ p ∈ placedTokens source, p.token.isIllegal = true) ↔
      ∃ b ∈ source, Byte.isIllegal b = true := by
  have hplaced : (∃ p ∈ placedTokens source, p.token.isIllegal = true) ↔
      ∃ t ∈ tokens source ++ [.eof], t.isIllegal = true := by
    rw [← tokenize_eq_tokens, tokenize]
    simp only [List.mem_map, exists_exists_and_eq_and]
  have hend : (∃ t ∈ tokens source ++ [.eof], t.isIllegal = true) ↔
      ∃ t ∈ tokens source, t.isIllegal = true := by
    simp [Token.isIllegal, Token.eof]
  rw [hplaced, hend, ← List.countP_pos_iff, ← List.countP_pos_iff, countP_isIllegal_tokens]

/-- **A dump fails exactly if it is to deny illegal bytes and there is one.** -/
theorem dump_result (format : Format) (denyIllegal : Bool) (source : Bytes) :
    (∃ e, (dump format denyIllegal source).result = .error e) ↔
      denyIllegal = true ∧ ∃ b ∈ source, Byte.isIllegal b = true := by
  rw [← exists_illegal_placed_iff]
  show (∃ e, Summary.verdict denyIllegal (placedTokens source) = .error e) ↔ _
  unfold Summary.verdict
  split
  · rename_i p hp
    have hillegal : p.token.isIllegal = true := by simpa using List.find?_some hp
    have hmem : ∃ p ∈ placedTokens source, p.token.isIllegal = true :=
      ⟨p, List.mem_of_find?_eq_some hp, hillegal⟩
    cases denyIllegal <;> simp [hmem]
  · rename_i hnone
    have hno : ¬ ∃ p ∈ placedTokens source, p.token.isIllegal = true := by
      rintro ⟨p, hp, hillegal⟩
      exact absurd hillegal (List.find?_eq_none.mp hnone p hp)
    simp [hno]

end MonkeyTokens
