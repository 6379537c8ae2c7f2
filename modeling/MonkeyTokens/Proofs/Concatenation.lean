/-
# Scanning two texts as one

The tokens of `a ++ b` are those of `a` and those of `b`, unless a run of letters or of digits goes
across the place where they meet.  Then the last token of `a` and the first one of `b` are one token,
whose kind is looked up anew: `le` and `t` are two identifiers, `let` is a keyword
(`tokenize_append_let`).

A source can be cut anywhere, also inside a run of blanks or inside the bytes of one character, so
nothing is assumed of `a` and `b`.  Where they stand apart the law is `tokens_append_of_apart`.  Where
they do not, the last token of `a` (`exists_last_token`) and the first of `b` are split off, and what
is left of either text stands apart from the run that the two make (`Token.WellFormed.fuse`).
-/
import MonkeyTokens.Proofs.Scan

namespace MonkeyTokens

/-! ## 1. The last token of a text -/

/-- A text that does not end with a blank ends with a well-formed token. -/
theorem exists_last_token {x : UInt8} (hx : Byte.isBlank x = false) (a : Bytes) :
    x ∈ a.getLast? → ∃ front, ∃ t : Token, a = front ++ t.text ∧ t.WellFormed ∧
      Apart front t.text := by
  induction a using spelled_induction with
  | blank w hw =>
    intro hlast
    rw [hw x (List.mem_of_getLast? hlast)] at hx
    exact absurd hx (by simp)
  | token w t rest hw ht hr ih =>
    intro hlast
    by_cases hrest : rest = []
    · refine ⟨w, t, by rw [hrest, List.append_nil], ht, ?_⟩
      exact apart_of_blank_last fun y hy => hw y (List.mem_of_getLast? hy)
    · have hlast' : x ∈ rest.getLast? := by
        rwa [← List.append_assoc, List.getLast?_append_of_ne_nil _ hrest] at hlast
      obtain ⟨front, u, rfl, hu, hf⟩ := ih hlast'
      refine ⟨w ++ (t.text ++ front), u, by simp only [List.append_assoc], hu, ?_⟩
      by_cases hfront : front = []
      · -- the token in front is `t` itself
        subst hfront
        rw [List.append_nil, apart_append_left ht.text_ne_nil]
        exact hr
      · rwa [← List.append_assoc, apart_append_left hfront]

/-! ## 2. One run out of two -/

/-- The token of a run that two texts make together; `x` is one of its bytes. -/
def Token.fused (x : UInt8) (t u : Token) : Token :=
  ⟨if Byte.isDigit x then .int else .ofWord (t.text ++ u.text), t.text ++ u.text⟩

/-- Two tokens that do not stand apart are one token together. -/
theorem Token.WellFormed.fuse {t u : Token} {x y : UInt8} (ht : t.WellFormed) (hu : u.WellFormed)
    (hx : x ∈ t.text) (hy : y ∈ u.text) (h : Byte.joins x y = true) : (fused x t u).WellFormed := by
  have hne : t.text ++ u.text ≠ [] := List.append_ne_nil_of_left_ne_nil ht.text_ne_nil _
  rcases Byte.joins_iff.mp h with ⟨hxl, hyl⟩ | ⟨hxd, hyd⟩
  · refine (Token.wellFormed_iff _).mpr (.inl ⟨hne, ?_, ?_⟩)
    · intro b hb
      rcases List.mem_append.mp hb with hb | hb
      · exact ht.letters_of_mem hx hxl b hb
      · exact hu.letters_of_mem hy hyl b hb
    · rw [fused, if_neg (by simp [Byte.letter_not_digit hxl])]
  · refine (Token.wellFormed_iff _).mpr (.inr (.inl ⟨hne, ?_, ?_⟩))
    · intro b hb
      rcases List.mem_append.mp hb with hb | hb
      · exact ht.digits_of_mem hx hxd b hb
      · exact hu.digits_of_mem hy hyd b hb
    · rw [fused, if_pos hxd]

/-- The tokens of two texts that a run goes across: in front of it, the run, and behind it. -/
theorem tokens_append_of_joins {a b : Bytes} {x y : UInt8} (hx : x ∈ a.getLast?) (hy : y ∈ b.head?)
    (h : Byte.joins x y = true) :
    ∃ front t u back, tokens a = front ++ [t] ∧ tokens b = u :: back ∧
      tokens (a ++ b) = front ++ Token.fused x t u :: back := by
  obtain ⟨hxb, hyb⟩ := Byte.not_blank_of_joins h
  obtain ⟨front, t, rfl, ht, hfront⟩ := exists_last_token hxb a hx
  obtain ⟨b', rfl⟩ : ∃ b', b = y :: b' := List.head?_eq_some_iff.mp hy
  obtain ⟨u, rest, hb, hu, hrest⟩ := exists_token hyb b'
  have hxt : x ∈ t.text := by
    rw [List.getLast?_append_of_ne_nil _ ht.text_ne_nil] at hx
    exact List.mem_of_getLast? hx
  have hyu : y ∈ u.text := by
    have hhead : (u.text ++ rest).head? = some y := by rw [← hb]; rfl
    rw [List.head?_append_of_ne_nil _ hu.text_ne_nil] at hhead
    exact List.mem_of_head? hhead
  have hv : (Token.fused x t u).WellFormed := ht.fuse hu hxt hyu h
  -- the run stands apart from both sides, as its two halves do
  have hvfront : Apart front (Token.fused x t u).text :=
    (apart_append_right ht.text_ne_nil).mpr hfront
  have hvrest : Apart (Token.fused x t u).text rest := (apart_append_left hu.text_ne_nil).mpr hrest
  have hta : tokens t.text = [t] := by
    rw [← List.append_nil t.text, tokens_of_token ht (apart_nil _), tokens_of_blank blank_nil]
  refine ⟨tokens front, t, u, tokens rest, ?_, ?_, ?_⟩
  · rw [tokens_append_of_apart hfront, hta]
  · rw [hb, tokens_of_token hu hrest]
  · have hcut : front ++ t.text ++ y :: b' = front ++ ((Token.fused x t u).text ++ rest) := by
      rw [hb, Token.fused]
      simp only [List.append_assoc]
    have hfr : Apart front ((Token.fused x t u).text ++ rest) :=
      (apart_append_right hv.text_ne_nil).mpr hvfront
    rw [hcut, tokens_append_of_apart hfr, tokens_of_token hv hvrest]

/-! ## 3. The law -/

/-- **The concatenation law.**  If a run goes across the cut, the last token of the first text and
the first of the second are replaced by the token of the run: an integer where digits meet, and where
letters meet the kind that the whole word looks up.  Otherwise the tokens are put one behind the
other. -/
theorem tokenize_append (a b : Bytes) :
    (∀ x ∈ a.getLast?, ∀ y ∈ b.head?, Byte.joins x y = true →
      ∃ t ∈ (tokens a).getLast?, ∃ u ∈ (tokens b).head?, ∃ v : Token,
        v.text = t.text ++ u.text ∧
        v.kind = (if Byte.isDigit x then .int else .ofWord v.text) ∧
        tokenize (a ++ b) = (tokens a).dropLast ++ [v] ++ (tokens b).tail ++ [.eof]) ∧
    ((¬ ∃ x ∈ a.getLast?, ∃ y ∈ b.head?, Byte.joins x y = true) →
      tokenize (a ++ b) = tokens a ++ tokens b ++ [.eof]) := by
  constructor
  · intro x hx y hy h
    obtain ⟨front, t, u, back, ha, hb, hab⟩ := tokens_append_of_joins hx hy h
    refine ⟨t, by simp [ha], u, by simp [hb], .fused x t u, rfl, rfl, ?_⟩
    rw [tokenize_eq_tokens, hab, ha, hb]
    simp
  · intro h
    have hapart : Apart a b := by
      intro x hx y hy
      exact Bool.eq_false_iff.mpr fun hj => h ⟨x, hx, y, hy, hj⟩
    rw [tokenize_eq_tokens, tokens_append_of_apart hapart]

/-- Both halves at `le` and a `t`: directly behind it the two are the keyword, and behind a blank
they stay two identifiers. -/
theorem tokenize_append_let :
    (Byte.joins 101 116 = true ∧
      tokenize ([108, 101] ++ [116]) = [⟨.keywordLet, [108, 101, 116]⟩, .eof]) ∧
    ((¬ ∃ x ∈ ([108, 101] : Bytes).getLast?, ∃ y ∈ ([32, 116] : Bytes).head?,
        Byte.joins x y = true) ∧
      tokenize ([108, 101] ++ [32, 116]) = [⟨.ident, [108, 101]⟩, ⟨.ident, [116]⟩, .eof]) := by
  have hle : tokens [108, 101] = [⟨.ident, [108, 101]⟩] := by decide +kernel
  have ht : tokens [116] = [⟨.ident, [116]⟩] := by decide +kernel
  have hblank : tokens [32, 116] = [⟨.ident, [116]⟩] := by decide +kernel
  have hapart : ¬ ∃ x ∈ ([108, 101] : Bytes).getLast?, ∃ y ∈ ([32, 116] : Bytes).head?,
      Byte.joins x y = true := by
    rintro ⟨x, hx, y, hy, h⟩
    obtain rfl : (32 : UInt8) = y := by simpa using hy
    rw [Byte.joins_of_blank_right (by decide)] at h
    exact absurd h (by simp)
  refine ⟨⟨by decide, ?_⟩, hapart, ?_⟩
  · obtain ⟨t, hlast, u, hhead, v, htext, hkind, h⟩ :=
      (tokenize_append [108, 101] [116]).1 101 (by decide) 116 (by decide) (by decide)
    rw [hle] at hlast h
    rw [ht] at hhead h
    obtain rfl : (⟨.ident, [108, 101]⟩ : Token) = t := by simpa using hlast
    obtain rfl : (⟨.ident, [116]⟩ : Token) = u := by simpa using hhead
    obtain ⟨kind, text⟩ := v
    obtain rfl : text = [108, 101, 116] := htext
    obtain rfl : kind = .keywordLet := hkind
    exact h
  · rw [(tokenize_append [108, 101] [32, 116]).2 hapart, hle, hblank]
    rfl

end MonkeyTokens
