/-
# What a dump counts and what it denies

Whether a dump fails, and with what, is said here of the bytes of its source and without tokens.  The
counts are the number of tokens and the number of illegal bytes.  A dump that denies illegal bytes
fails with the first of them in the source, which the error names by its character, its line and its
column, and it fails with nothing else; output and events are those of a dump that denies nothing
(`dump_denied`).

The first illegal token is found where the first illegal byte stands (`find?_isIllegal_positioned`):
an illegal byte stands apart from everything in front of it, so the tokens of the source are those of
the part in front, in which there is no illegal one, and then the byte as a token of its own.
-/
import MonkeyTokens.Proofs.FullSink
import MonkeyTokens.Proofs.IllegalBytes
import MonkeyTokens.Proofs.Placement

namespace MonkeyTokens

/-! ## 1. The first illegal byte -/

/-- An illegal byte is a token wherever it stands. -/
theorem Token.wellFormed_of_isIllegal {b : UInt8} (hb : Byte.isIllegal b = true) :
    (⟨.illegal, [b]⟩ : Token).WellFormed := by
  simp only [Byte.isIllegal, Byte.isOther, Bool.and_eq_true, Bool.not_eq_true',
    Option.isNone_iff_eq_none] at hb
  obtain ⟨⟨⟨hblank, hletter⟩, hdigit⟩, hop⟩ := hb
  exact .illegal b rfl rfl hblank hletter hdigit hop

/-- It joins neither what is in front of it nor what is behind it. -/
theorem Byte.joins_of_isIllegal {b : UInt8} (hb : isIllegal b = true) (x : UInt8) :
    joins x b = false ∧ joins b x = false := by
  simp only [isIllegal, isOther, Bool.and_eq_true, Bool.not_eq_true'] at hb
  simp [joins, hb.1.1.2, hb.1.2]

/-- Where no byte is illegal, no token is. -/
theorem find?_isIllegal_positioned_eq_none {source : Bytes}
    (h : ∀ b ∈ source, Byte.isIllegal b = false) :
    (positioned source).find? (·.token.isIllegal) = none := by
  have hzero : source.countP Byte.isIllegal = 0 :=
    List.countP_eq_zero.mpr fun b hb => by simp [h b hb]
  rw [← countP_isIllegal_tokens, ← token_positioned, List.countP_map, List.countP_eq_zero] at hzero
  exact List.find?_eq_none.mpr hzero

/-- **The first illegal token is the first illegal byte.** -/
theorem find?_isIllegal_positioned {front rest : Bytes} {b : UInt8}
    (hfront : ∀ x ∈ front, Byte.isIllegal x = false) (hb : Byte.isIllegal b = true) :
    (positioned (front ++ b :: rest)).find? (·.token.isIllegal) =
      some ⟨⟨.illegal, [b]⟩, front.length⟩ := by
  have hapart : Apart front (b :: rest) := by
    intro x _ y hy
    obtain rfl : b = y := by simpa using hy
    exact (Byte.joins_of_isIllegal hb x).1
  have hbehind : Apart [b] rest := by
    intro x hx y _
    obtain rfl : b = x := by simpa using hx
    exact (Byte.joins_of_isIllegal hb y).2
  have htoken : positioned (b :: rest) =
      ⟨⟨.illegal, [b]⟩, 0⟩ :: (positioned rest).map (.shift 1) :=
    positioned_of_spelled blank_nil (Token.wellFormed_of_isIllegal hb) hbehind
  rw [positioned_append_of_apart hapart, List.find?_append,
    find?_isIllegal_positioned_eq_none hfront, htoken]
  rfl

/-! ## 2. The verdict -/

/-- A token among the placed ones is found by what it is, not by where. -/
theorem find?_isIllegal_placedTokens (source : Bytes) :
    (placedTokens source).find? (·.token.isIllegal) =
      ((positioned source).find? (·.token.isIllegal)).map (Positioned.placed source) := by
  obtain ⟨loc, hplaced⟩ := placedTokens_eq source
  have hend : [Lexer.placed .eof loc].find? (·.token.isIllegal) = none := rfl
  rw [hplaced, List.find?_append, hend, List.find?_map, Option.or_none]
  rfl

/-- The counts of a source. -/
theorem summary_eq (source : Bytes) :
    Summary.ofTokens (placedTokens source) =
      ⟨(tokenize source).length, source.countP Byte.isIllegal⟩ := by
  have hcount : (tokenize source).countP (·.isIllegal) = source.countP Byte.isIllegal := by
    rw [tokenize_eq_tokens, List.countP_append, countP_isIllegal_tokens]
    rfl
  rw [summary_placedTokens, hcount]

/-- **A dump counts and denies the illegal bytes of its source.**  It counts the tokens and the
illegal bytes.  To deny them changes only the result, and that only if there is one: then the first
one in the source is the error, with its character and its place. -/
theorem dump_denied (format : Format) (source : Bytes) (hshort : source.length + 1 < UInt32.size) :
    let summary : Summary := ⟨(tokenize source).length, source.countP Byte.isIllegal⟩
    let allowed := (dump format false source).deliver .unlimited
    let denied := (dump format true source).deliver .unlimited
    allowed.result = .ok summary ∧
      ((∀ b ∈ source, Byte.isIllegal b = false) → denied.result = .ok summary) ∧
      (∀ front b rest, source = front ++ b :: rest → (∀ x ∈ front, Byte.isIllegal x = false) →
        Byte.isIllegal b = true →
        ∃ loc, denied.result = .error (.illegalToken (String.singleton (Char.ofUInt8 b)) loc) ∧
          loc.line.toNat = Location.lineAt source front.length ∧
          loc.column.toNat = Location.columnAt source front.length) ∧
      denied.written = allowed.written ∧ denied.events = allowed.events ∧
      allowed.events.getLast? = some (.tokenizedSource summary.tokens summary.illegal) := by
  intro summary allowed denied
  have hverdict : ∀ denyIllegal, ((dump format denyIllegal source).deliver .unlimited).result =
      Summary.verdict denyIllegal (placedTokens source) := fun _ => rfl
  have hsummary : Summary.ofTokens (placedTokens source) = summary := summary_eq source
  refine ⟨?_, ?_, ?_, rfl, rfl, ?_⟩
  · rw [hverdict, Summary.verdict, hsummary]
    split <;> rfl
  · intro hlegal
    have hnone : (placedTokens source).find? (·.token.isIllegal) = none := by
      rw [find?_isIllegal_placedTokens, find?_isIllegal_positioned_eq_none hlegal]
      rfl
    rw [hverdict, Summary.verdict, hnone, hsummary]
  · intro front b rest hsource hfront hb
    have hfirst : (placedTokens source).find? (·.token.isIllegal) =
        some (Lexer.placed ⟨.illegal, [b]⟩ (.ofOffset source front.length)) := by
      rw [find?_isIllegal_placedTokens, hsource, find?_isIllegal_positioned hfront hb]
      rfl
    refine ⟨.ofOffset source front.length, ?_, Location.line_ofOffset hshort _,
      Location.column_ofOffset hshort _⟩
    rw [hverdict, Summary.verdict, hfirst]
    rfl
  · have hevents : allowed.events = _ := events_dump format false source
    rw [hevents, List.getLast?_concat, hsummary]

/-- Of the two illegal bytes in `a;` and, below it, ` @ #`, the first is the error, on line 2 in column
2; where they are allowed both are counted. -/
theorem dump_denied_at_sign :
    let source : Bytes := [97, 59, 10, 32, 64, 32, 35]
    source.length + 1 < UInt32.size ∧
      ((dump .json false source).deliver .unlimited).result = .ok ⟨5, 2⟩ ∧
      (source = [97, 59, 10, 32] ++ 64 :: [32, 35] ∧
        (∀ x ∈ ([97, 59, 10, 32] : Bytes), Byte.isIllegal x = false) ∧ Byte.isIllegal 64 = true ∧
        ∃ loc : Location, ((dump .json true source).deliver .unlimited).result =
          .error (.illegalToken "@" loc) ∧ loc.line.toNat = 2 ∧ loc.column.toNat = 2) ∧
      ((∀ b ∈ ([97, 59] : Bytes), Byte.isIllegal b = false) ∧
        ((dump .json true [97, 59]).deliver .unlimited).result = .ok ⟨3, 0⟩) := by
  intro source
  have hshort : source.length + 1 < UInt32.size := by decide
  have hfront : ∀ x ∈ ([97, 59, 10, 32] : Bytes), Byte.isIllegal x = false := by
    decide +kernel
  have hbad : Byte.isIllegal 64 = true := by decide
  have hlegal : ∀ b ∈ ([97, 59] : Bytes), Byte.isIllegal b = false := by decide +kernel
  obtain ⟨hallowed, -, hdenied, -⟩ := dump_denied .json source hshort
  obtain ⟨loc, hresult, hline, hcolumn⟩ := hdenied [97, 59, 10, 32] 64 [32, 35] rfl hfront hbad
  have hclean := (dump_denied .json [97, 59] (by decide)).2.1 hlegal
  refine ⟨hshort, hallowed.trans (by decide +kernel), ⟨rfl, hfront, hbad, loc, hresult, ?_, ?_⟩,
    hlegal, hclean.trans (by decide +kernel)⟩
  · exact hline.trans (by decide)
  · exact hcolumn.trans (by decide)

end MonkeyTokens
