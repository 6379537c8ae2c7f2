/-
# The grammar of sources

A source is a list of well-formed tokens with blanks before, between and behind them, and between two
words or two integers there is at least one blank.  `Spelling` is that sentence as a structure: the
gaps, and the proofs that they and the tokens are as they should be.

`tokenize_eq_iff_spelling` says that the lexer reads exactly this grammar.  Neither direction is the
other read backwards: that the lexer's tokens spell the source goes along the tokens of the source
(`exists_spelling`), and that every spelling is the one the lexer finds goes along the pieces of the
spelling (`tokens_of_pieces`).  What carries both is that the rule on gaps, which speaks of kinds, is
the rule on neighbouring bytes that decides where a run ends (`apart_text_iff`).
-/
import Mathlib.Data.List.Chain
import MonkeyTokens.Proofs.Scan

namespace MonkeyTokens

/-! ## 1. Tokens that need a gap between them -/

/-- Two words, or two integers: without a blank between them they would be one. -/
def Token.needsGap (t u : Token) : Bool :=
  (t.kind.isWord && u.kind.isWord) || (t.kind = .int && u.kind = .int)

/-- **The rule on gaps is the rule on bytes.**  Two tokens stand apart without a blank between them
exactly if the grammar asks for none. -/
theorem apart_text_iff {t u : Token} (ht : t.WellFormed) (hu : u.WellFormed) :
    Apart t.text u.text ↔ t.needsGap u = false := by
  have hjoin : ∀ x ∈ t.text, ∀ y ∈ u.text, Byte.joins x y = t.needsGap u := by
    intro x hx y hy
    obtain ⟨hxl, hxd⟩ := ht.byte_class x hx
    obtain ⟨hyl, hyd⟩ := hu.byte_class y hy
    simp only [Byte.joins, Token.needsGap, hxl, hxd, hyl, hyd]
  constructor
  · intro h
    have hlast := List.getLast?_eq_some_getLast ht.text_ne_nil
    have hhead := List.head?_eq_some_head hu.text_ne_nil
    rw [← hjoin _ (List.getLast_mem ht.text_ne_nil) _ (List.head_mem hu.text_ne_nil)]
    exact h _ hlast _ hhead
  · intro h x hx y hy
    rw [hjoin x (List.mem_of_getLast? hx) y (List.mem_of_head? hy), h]

/-! ## 2. Spellings -/

/-- The text of tokens, each with the gap behind it. -/
def piecesText (pieces : List (Token × Bytes)) : Bytes :=
  pieces.flatMap fun p => p.1.text ++ p.2

theorem piecesText_cons (p : Token × Bytes) (pieces : List (Token × Bytes)) :
    piecesText (p :: pieces) = p.1.text ++ (p.2 ++ piecesText pieces) := by
  rw [piecesText, List.flatMap_cons, List.append_assoc]
  rfl

/-- A way to spell a source with a list of tokens: the gap in front, and behind every token the gap
up to the next one or to the end. -/
structure Spelling (source : Bytes) (tokens : List Token) where
  lead : Bytes
  pieces : List (Token × Bytes)
  tokens_eq : pieces.map Prod.fst = tokens
  source_eq : source = lead ++ piecesText pieces
  blank_lead : Blank lead
  blank_gaps : ∀ p ∈ pieces, Blank p.2
  /-- Where two neighbours need a gap, there is one. -/
  separated : pieces.IsChain fun p q => p.1.needsGap q.1 = true → p.2 ≠ []
  wellFormed : ∀ t ∈ tokens, t.WellFormed

/-- A spelling goes on in front by a token that its text stands apart from. -/
def Spelling.cons {source : Bytes} {ts : List Token} (sp : Spelling source ts) {w : Bytes}
    {t : Token} (hw : Blank w) (ht : t.WellFormed) (hr : Apart t.text source) :
    Spelling (w ++ (t.text ++ source)) (t :: ts) where
  lead := w
  pieces := (t, sp.lead) :: sp.pieces
  tokens_eq := by rw [List.map_cons, sp.tokens_eq]
  source_eq := by rw [piecesText_cons, ← sp.source_eq]
  blank_lead := hw
  blank_gaps := by
    intro p hp
    rcases List.mem_cons.mp hp with rfl | hp
    · exact sp.blank_lead
    · exact sp.blank_gaps p hp
  separated := by
    cases hp : sp.pieces with
    | nil => exact .singleton _
    | cons q qs =>
      refine .cons_cons ?_ (hp ▸ sp.separated)
      -- without a gap the source would begin with the next token's text
      intro hgap hlead
      have hq : q.1.WellFormed := sp.wellFormed q.1 (by rw [← sp.tokens_eq, hp]; simp)
      have hsource : source = q.1.text ++ (q.2 ++ piecesText qs) := by
        rw [sp.source_eq, show sp.lead = [] from hlead, hp, piecesText_cons, List.nil_append]
      rw [hsource, apart_append_right hq.text_ne_nil, apart_text_iff ht hq] at hr
      rw [show t.needsGap q.1 = true from hgap] at hr
      exact absurd hr (by simp)
  wellFormed := by
    intro u hu
    rcases List.mem_cons.mp hu with rfl | hu
    · exact ht
    · exact sp.wellFormed u hu

/-- The lexer's tokens spell the source. -/
theorem exists_spelling (source : Bytes) : Nonempty (Spelling source (tokens source)) := by
  induction source using spelled_induction with
  | blank w hw =>
    rw [tokens_of_blank hw]
    exact ⟨{ lead := w, pieces := [], tokens_eq := rfl, source_eq := (List.append_nil w).symm,
             blank_lead := hw, blank_gaps := by simp, separated := .nil, wellFormed := by simp }⟩
  | token w t rest hw ht hr ih =>
    obtain ⟨sp⟩ := ih
    rw [tokens_of_spelled hw ht hr]
    exact ⟨sp.cons hw ht hr⟩

/-- Behind the first gap, the pieces of a spelling are read one by one. -/
theorem tokens_of_pieces : ∀ pieces : List (Token × Bytes),
    (∀ p ∈ pieces, p.1.WellFormed) → (∀ p ∈ pieces, Blank p.2) →
    (pieces.IsChain fun p q => p.1.needsGap q.1 = true → p.2 ≠ []) →
    tokens (piecesText pieces) = pieces.map Prod.fst
  | [], _, _, _ => tokens_of_blank blank_nil
  | p :: ps, hwf, hblank, hsep => by
    have hp : p.1.WellFormed := hwf p List.mem_cons_self
    have hgap : Blank p.2 := hblank p List.mem_cons_self
    have hapart : Apart p.1.text (p.2 ++ piecesText ps) := by
      by_cases hne : p.2 = []
      · cases ps with
        | nil => rw [hne]; exact apart_nil _
        | cons q qs =>
          have hq : q.1.WellFormed := hwf q (by simp)
          have hneeds : p.1.needsGap q.1 = false :=
            Bool.eq_false_iff.mpr fun h => (List.isChain_cons_cons.mp hsep).1 h hne
          rw [hne, List.nil_append, piecesText_cons, apart_append_right hq.text_ne_nil]
          exact (apart_text_iff hp hq).mpr hneeds
      · rw [apart_append_right hne]
        exact apart_of_blank_head fun y hy => hgap y (List.mem_of_head? hy)
    have ih := tokens_of_pieces ps (fun q hq => hwf q (List.mem_cons_of_mem p hq))
      (fun q hq => hblank q (List.mem_cons_of_mem p hq)) hsep.of_cons
    rw [piecesText_cons, tokens_of_token hp hapart, tokens_blank_append hgap, ih, List.map_cons]

/-- Every spelling is the one that the lexer finds. -/
theorem Spelling.eq_tokens {source : Bytes} {ts : List Token} (sp : Spelling source ts) :
    tokens source = ts := by
  have hwf : ∀ p ∈ sp.pieces, p.1.WellFormed := by
    intro p hp
    refine sp.wellFormed p.1 ?_
    rw [← sp.tokens_eq]
    exact List.mem_map_of_mem hp
  rw [sp.source_eq, tokens_blank_append sp.blank_lead,
    tokens_of_pieces sp.pieces hwf sp.blank_gaps sp.separated, sp.tokens_eq]

/-- **Scanning is the grammar.**  The tokens of a source are the ones that spell it, and no others
do. -/
theorem tokenize_eq_iff_spelling (source : Bytes) (ts : List Token) :
    tokenize source = ts ++ [.eof] ↔ Nonempty (Spelling source ts) := by
  rw [tokenize_eq_tokens, List.append_left_inj]
  constructor
  · rintro rfl
    exact exists_spelling source
  · rintro ⟨sp⟩
    exact sp.eq_tokens

end MonkeyTokens
