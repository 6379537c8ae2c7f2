/-
# The shortest source with the same tokens

Blanks separate tokens and say nothing else, so most of them can go.  `compact` is computed byte by
byte and knows nothing of tokens: every blank is deleted, and one space is put back where blanks stood
between two bytes that would otherwise grow together.

The compact form is what a parser can see of a source.  Two sources have the same tokens exactly if
they have the same compact form, the compact form is a source with these tokens itself, and no source
with them is shorter (`tokenize_eq_iff_compact_eq`).

One direction has to rebuild the compact form from the tokens.  `packed` writes tokens down with a
space only where two texts do not stand apart, and `compactBehind_eq_packed` says that this is the
compact form of every source that has them.  What goes through its induction is the state of the
byte-wise pass: the last byte that was kept, and whether a blank has been deleted since.  Where none
has, nothing is put in front of the next token, and nothing has to be, because the source itself
stands apart there.
-/
import MonkeyTokens.Proofs.Grammar

namespace MonkeyTokens

/-! ## 1. The compact form -/

/-- What is put between two bytes that are kept, of which the first is `last` if there is one: a space
if a blank was deleted between them and they would grow together without it. -/
def gapBetween (last : Option UInt8) (deleted : Bool) (b : UInt8) : Bytes :=
  if deleted && last.any (Byte.joins · b) then [32] else []

/-- The compact form of what follows the kept byte `last`; `deleted` says that a blank was deleted
since. -/
def compactBehind : Option UInt8 → Bool → Bytes → Bytes
  | _, _, [] => []
  | last, deleted, b :: rest =>
    if Byte.isBlank b then compactBehind last true rest
    else gapBetween last deleted b ++ b :: compactBehind (some b) false rest

/-- The compact form of a source. -/
def compact (source : Bytes) : Bytes :=
  compactBehind none false source

/-- A space is put back only for a blank that was deleted. -/
theorem length_compactBehind_le : ∀ (last : Option UInt8) (deleted : Bool) (s : Bytes),
    (compactBehind last deleted s).length ≤ s.length + deleted.toNat
  | _, _, [] => by simp [compactBehind]
  | last, deleted, b :: rest => by
    rw [compactBehind]
    split
    · have ih := length_compactBehind_le last true rest
      simp only [List.length_cons, Bool.toNat_true] at ih ⊢
      omega
    · have ih := length_compactBehind_le (some b) false rest
      have hgap : (gapBetween last deleted b).length ≤ deleted.toNat := by
        cases deleted with
        | false => simp [gapBetween]
        | true => unfold gapBetween; split <;> simp
      simp only [List.length_append, List.length_cons, Bool.toNat_false] at ih ⊢
      omega

theorem length_compact_le (source : Bytes) : (compact source).length ≤ source.length :=
  length_compactBehind_le none false source

/-- Blanks are deleted. -/
theorem compactBehind_blank {w : Bytes} (hw : Blank w) (last : Option UInt8) (s : Bytes) :
    ∀ deleted, compactBehind last deleted (w ++ s) =
      compactBehind last (deleted || !w.isEmpty) s := by
  induction w with
  | nil => intro deleted; simp
  | cons b w ih =>
    intro deleted
    have hb : Byte.isBlank b = true := hw b List.mem_cons_self
    have hrest : Blank w := fun x hx => hw x (List.mem_cons_of_mem b hx)
    rw [List.cons_append, compactBehind, if_pos hb, ih hrest true]
    simp

/-- All other bytes are kept, and between them nothing is put. -/
theorem compactBehind_run : ∀ {u : Bytes}, (∀ b ∈ u, Byte.isBlank b = false) →
    ∀ (x : UInt8) (s : Bytes), compactBehind (some x) false (u ++ s) =
      u ++ compactBehind ((x :: u).getLast?) false s
  | [], _, _, _ => rfl
  | b :: u, hu, x, s => by
    have hb : ¬ Byte.isBlank b = true := by simp [hu b List.mem_cons_self]
    have ih := compactBehind_run (fun y hy => hu y (List.mem_cons_of_mem b hy)) b s
    rw [List.cons_append, compactBehind, if_neg hb, ih, List.getLast?_cons_cons]
    rfl

/-- A token is kept as it is, with at most a space in front of it. -/
theorem compactBehind_token {t : Token} {b : UInt8} (ht : t.WellFormed) (hb : b ∈ t.text.head?)
    (last : Option UInt8) (deleted : Bool) (s : Bytes) :
    compactBehind last deleted (t.text ++ s) =
      gapBetween last deleted b ++ (t.text ++ compactBehind t.text.getLast? false s) := by
  obtain ⟨u, htext⟩ : ∃ u, t.text = b :: u := List.head?_eq_some_iff.mp hb
  have hkeep : ∀ y ∈ b :: u, Byte.isBlank y = false := htext ▸ ht.not_blank
  have hhead : ¬ Byte.isBlank b = true := by simp [hkeep b List.mem_cons_self]
  have hrun := compactBehind_run (fun y hy => hkeep y (List.mem_cons_of_mem b hy)) b s
  rw [htext, List.cons_append, compactBehind, if_neg hhead, hrun]
  rfl

/-! ## 2. Tokens written down with as few blanks as possible -/

/-- A space where two texts would grow together, and nothing where they stand apart. -/
def gapText (a b : Bytes) : Bytes :=
  if Apart a b then [] else [32]

/-- The texts of tokens behind the text `front`, with the gaps that they need. -/
def packed (front : Bytes) : List Token → Bytes
  | [] => []
  | t :: ts => gapText front t.text ++ (t.text ++ packed t.text ts)

theorem blank_gapText (a b : Bytes) : Blank (gapText a b) := by
  unfold gapText
  split
  · exact blank_nil
  · intro x hx
    obtain rfl : x = 32 := by simpa using hx
    rfl

theorem apart_packed (front : Bytes) : ∀ {ts : List Token}, (∀ t ∈ ts, t.WellFormed) →
    Apart front (packed front ts)
  | [], _ => apart_nil front
  | t :: ts, hts => by
    have ht : t.WellFormed := hts t List.mem_cons_self
    unfold packed gapText
    split
    · rename_i hapart
      rw [List.nil_append]
      exact (apart_append_right ht.text_ne_nil).mpr hapart
    · refine apart_of_blank_head ?_
      intro y hy
      obtain rfl : (32 : UInt8) = y := by simpa using hy
      rfl

/-- Packed tokens are scanned as they were. -/
theorem tokens_packed : ∀ (front : Bytes) {ts : List Token}, (∀ t ∈ ts, t.WellFormed) →
    tokens (packed front ts) = ts
  | _, [], _ => tokens_of_blank blank_nil
  | front, t :: ts, hts => by
    have ht : t.WellFormed := hts t List.mem_cons_self
    have hrest : ∀ u ∈ ts, u.WellFormed := fun u hu => hts u (List.mem_cons_of_mem t hu)
    rw [packed, tokens_blank_append (blank_gapText front t.text),
      tokens_of_token ht (apart_packed t.text hrest), tokens_packed t.text hrest]

/-! ## 3. The compact form of a source is its tokens, packed -/

/-- The byte-wise pass puts a space where packing does, if the source stands apart wherever no blank
was deleted. -/
theorem gapBetween_eq_gapText {front text : Bytes} {deleted : Bool} {b : UInt8}
    (hb : b ∈ text.head?) (h : deleted = false → Apart front text) :
    gapBetween front.getLast? deleted b = gapText front text := by
  by_cases hapart : Apart front text
  · have hany : front.getLast?.any (Byte.joins · b) = false := by
      cases hlast : front.getLast? with
      | none => rfl
      | some x => exact hapart x hlast b hb
    rw [gapText, if_pos hapart, gapBetween, hany]
    simp
  · have hdeleted : deleted = true := by
      cases deleted with
      | true => rfl
      | false => exact absurd (h rfl) hapart
    have hany : front.getLast?.any (Byte.joins · b) = true := by
      by_contra hany
      refine hapart fun x hx y hy => ?_
      obtain rfl : b = y := Option.some.inj (hb.symm.trans hy)
      rw [Option.mem_def.mp hx] at hany
      simpa using hany
    rw [gapText, if_neg hapart, gapBetween, hany, hdeleted]
    rfl

/-- **The compact form is made of the tokens alone.** -/
theorem compactBehind_eq_packed (s : Bytes) : ∀ (front : Bytes) (deleted : Bool),
    (deleted = false → Apart front s) →
    compactBehind front.getLast? deleted s = packed front (tokens s) := by
  induction s using spelled_induction with
  | blank w hw =>
    intro front deleted _
    have hdelete := compactBehind_blank hw front.getLast? [] deleted
    rw [List.append_nil] at hdelete
    rw [hdelete, tokens_of_blank hw]
    rfl
  | token w t rest hw ht hr ih =>
    intro front deleted h
    obtain ⟨b, hb⟩ : ∃ b, b ∈ t.text.head? := by
      cases htext : t.text with
      | nil => exact absurd htext ht.text_ne_nil
      | cons b u => exact ⟨b, rfl⟩
    have hapart : (deleted || !w.isEmpty) = false → Apart front t.text := by
      intro hkept
      obtain ⟨hdeleted, hempty⟩ := Bool.or_eq_false_iff.mp hkept
      obtain rfl : w = [] := by simpa using hempty
      exact (apart_append_right ht.text_ne_nil).mp (h hdeleted)
    rw [compactBehind_blank hw, compactBehind_token ht hb, gapBetween_eq_gapText hb hapart,
      ih t.text false fun _ => hr, tokens_of_spelled hw ht hr]
    rfl

theorem compact_eq_packed (source : Bytes) : compact source = packed [] (tokens source) :=
  compactBehind_eq_packed source [] false fun _ x hx => by simp at hx

theorem tokens_compact (source : Bytes) : tokens (compact source) = tokens source := by
  obtain ⟨sp⟩ := exists_spelling source
  rw [compact_eq_packed, tokens_packed [] sp.wellFormed]

/-! ## 4. What a source says apart from its blanks -/

/-- **Sources with the same tokens are those with the same compact form.**  The compact form has the
tokens of the source, is its own compact form, and is the shortest source with these tokens. -/
theorem tokenize_eq_iff_compact_eq :
    (∀ source₁ source₂ : Bytes,
      tokenize source₁ = tokenize source₂ ↔ compact source₁ = compact source₂) ∧
    ∀ source : Bytes,
      tokenize (compact source) = tokenize source ∧
      compact (compact source) = compact source ∧
      ∀ other, tokenize other = tokenize source → (compact source).length ≤ other.length := by
  have htokens : ∀ s, tokenize (compact s) = tokenize s := by
    intro s
    rw [tokenize_eq_tokens, tokens_compact, ← tokenize_eq_tokens]
  have hcompact : ∀ {s₁ s₂}, tokenize s₁ = tokenize s₂ → compact s₁ = compact s₂ := by
    intro s₁ s₂ h
    rw [tokenize_eq_tokens, tokenize_eq_tokens, List.append_left_inj] at h
    rw [compact_eq_packed, compact_eq_packed, h]
  refine ⟨fun s₁ s₂ => ⟨hcompact, fun h => ?_⟩, fun s => ⟨htokens s, hcompact (htokens s), ?_⟩⟩
  · rw [← htokens s₁, h, htokens s₂]
  · intro other hother
    rw [← hcompact hother]
    exact length_compact_le other

/-- Of the ten blanks of ` let  a b = 1\t+\r\n2 ` two are needed, and the compact form is as short as
any source with these tokens. -/
theorem compact_of_assignment :
    let source : Bytes := [32, 108, 101, 116, 32, 32, 97, 32, 98, 32, 61, 32, 49, 9, 43, 13, 10, 50, 32]
    let short : Bytes := [108, 101, 116, 9, 97, 10, 98, 61, 49, 43, 50]
    compact source = [108, 101, 116, 32, 97, 32, 98, 61, 49, 43, 50] ∧
      tokenize short = tokenize source ∧ compact short = compact source ∧
      (compact source).length ≤ short.length := by
  intro source short
  have hsame : tokenize short = tokenize source := by decide +kernel
  exact ⟨by decide +kernel, hsame, (tokenize_eq_iff_compact_eq.1 short source).mp hsame,
    (tokenize_eq_iff_compact_eq.2 source).2.2 short hsame⟩

end MonkeyTokens
