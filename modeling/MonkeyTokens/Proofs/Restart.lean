/-
# A lexer started again on what is left

A lexer that has stopped somewhere in a source and a fresh one on the rest of the source do the same
from there on.  They give the same tokens, and every place of the first is the place of the second,
moved: offsets by the offset of the cut (`Lexer.Resumed`), and locations by the location of the cut,
where the columns of the cut's own line move and those of later lines stay (`Location.Moved`).

The two are kept side by side by `Lexer.Alongside`: each is in its text, and their positions differ
by the offset of the cut.  Then the same bytes are ahead of both, and bytes ahead are all that a call
looks at (`Lexer.exists_next_same`), so one call leads from such a pair to another one
(`Lexer.Alongside.next`).  The locations need no invariant of their own: in either text they are
those of the offset, and what is left to show is how lines and columns add up over a cut
(`Location.lineAt_add`, `Location.columnAt_add`).
-/
import Mathlib.Data.List.TakeWhile
import MonkeyTokens.Proofs.Runs

namespace MonkeyTokens

/-! ## 1. Lines and columns over a cut -/

namespace Location

variable {source : Bytes}

/-- Both parts count the line of the cut. -/
theorem lineAt_add (p q : Nat) :
    lineAt source (p + q) + 1 = lineAt source p + lineAt (source.drop p) q := by
  unfold lineAt
  rw [List.take_add, List.count_append]
  omega

theorem lineAt_eq_one_iff (q : Nat) :
    lineAt source q = 1 ↔ Byte.lineFeed ∉ source.take q := by
  unfold lineAt
  rw [← List.count_eq_zero]
  omega

/-- On the line of the cut the columns add up, and behind the first line feed only the second part
counts. -/
theorem columnAt_add (p q : Nat) :
    columnAt source (p + q) =
      if lineAt (source.drop p) q = 1 then
        columnAt source p + columnAt (source.drop p) q - 1
      else columnAt (source.drop p) q := by
  have hcut : (source.take (p + q)).reverse =
      ((source.drop p).take q).reverse ++ (source.take p).reverse := by
    rw [List.take_add, List.reverse_append]
  unfold columnAt
  rw [hcut]
  split
  · -- no line feed behind the cut: all of the second part is on the line
    rename_i hline
    have hmem := (lineAt_eq_one_iff q).mp hline
    have hall : ∀ b ∈ ((source.drop p).take q).reverse, (b != Byte.lineFeed) = true := by
      intro b hb
      rw [bne_iff_ne]
      rintro rfl
      exact hmem (List.mem_reverse.mp hb)
    rw [List.takeWhile_append_of_pos hall, List.takeWhile_eq_self_iff.mpr hall, List.length_append]
    omega
  · rename_i hline
    have hmem : Byte.lineFeed ∈ (source.drop p).take q := by
      by_contra hmem
      exact hline ((lineAt_eq_one_iff q).mpr hmem)
    have hne : ¬ (((source.drop p).take q).reverse.takeWhile (· != Byte.lineFeed)).length =
        ((source.drop p).take q).reverse.length := by
      intro hlen
      have hself := (List.takeWhile_prefix (· != Byte.lineFeed)).eq_of_length hlen
      have hb := List.takeWhile_eq_self_iff.mp hself _ (List.mem_reverse.mpr hmem)
      simp at hb
    rw [List.takeWhile_append, if_neg hne]

/-- The location `whole` of a text is `part` in the text behind a cut at the location `cut`. -/
structure Moved (cut part whole : Location) : Prop where
  line : whole.line.toNat = cut.line.toNat + part.line.toNat - 1
  column : whole.column.toNat =
    if part.line.toNat = 1 then cut.column.toNat + part.column.toNat - 1 else part.column.toNat

/-- In a short text offsets add up and their locations move. -/
theorem moved_ofOffset (hshort : source.length + 1 < UInt32.size) (p q : Nat) :
    Moved (ofOffset source p) (ofOffset (source.drop p) q) (ofOffset source (p + q)) := by
  have hrest : (source.drop p).length + 1 < UInt32.size := by
    rw [List.length_drop]
    omega
  constructor
  · rw [line_ofOffset hshort, line_ofOffset hshort, line_ofOffset hrest, ← lineAt_add]
    rfl
  · rw [column_ofOffset hshort, column_ofOffset hshort, line_ofOffset hrest, column_ofOffset hrest,
      columnAt_add]

end Location

namespace Lexer

variable {source : Bytes} {p : Nat} {l m : Lexer}

/-! ## 2. One call of two lexers with the same bytes ahead -/

/-- A call looks at the bytes ahead only: two lexers with the same bytes ahead pass the same numbers
of bytes and answer the same token. -/
theorem exists_next_same (h : l.cursor.ahead = m.cursor.ahead) :
    ∃ t gap length, l.next = (t, l.passing gap length) ∧ m.next = (t, m.passing gap length) := by
  rcases exists_spelled l.cursor.ahead with hblank | ⟨w, t, rest, hcut, hw, ht, hr⟩
  · refine ⟨.eof, l.cursor.ahead.length, 0, next_of_blank hblank, ?_⟩
    rw [h] at hblank ⊢
    exact next_of_blank hblank
  · exact ⟨t, w.length, t.text.length, next_of_spelled hcut hw ht hr,
      next_of_spelled (h ▸ hcut) hw ht hr⟩

/-! ## 3. Side by side -/

/-- The lexer `l` in the source and the lexer `m` in what is behind its offset `p` stand at the same
byte. -/
structure Alongside (source : Bytes) (p : Nat) (l m : Lexer) : Prop where
  whole : l.Within source
  part : m.Within (source.drop p)
  position : l.cursor.position = p + m.cursor.position

theorem Alongside.ahead_eq (h : Alongside source p l m) : l.cursor.ahead = m.cursor.ahead := by
  rw [h.whole.ahead_eq, h.part.ahead_eq, List.drop_drop, h.position]

/-- A fresh lexer behind the cut stands beside the one that made it. -/
theorem Within.alongside (h : l.Within source) :
    Alongside source l.cursor.position l (ofSource (source.drop l.cursor.position)) :=
  ⟨h, within_ofSource _, rfl⟩

/-- **One call keeps them side by side**: they answer the same token, which starts at the same
byte. -/
theorem Alongside.next (h : Alongside source p l m) :
    l.next.1 = m.next.1 ∧ l.next.2.tokenStart = p + m.next.2.tokenStart ∧
      Alongside source p l.next.2 m.next.2 := by
  obtain ⟨t, gap, length, hl, hm⟩ := exists_next_same h.ahead_eq
  have hadvance : ∀ n, (l.cursor.advanceBy n).position = p + (m.cursor.advanceBy n).position := by
    intro n
    rw [Cursor.position_advanceBy, Cursor.position_advanceBy, h.ahead_eq, h.position, Nat.add_assoc]
  obtain ⟨_, _, _, hcall⟩ := h.whole.exists_call
  obtain ⟨_, _, _, hcall'⟩ := h.part.exists_call
  refine ⟨by rw [hl, hm], ?_, hcall.within, hcall'.within, ?_⟩
  · rw [hl, hm]
    exact hadvance gap
  · rw [hl, hm]
    exact hadvance (gap + length)

/-- **So do all calls.** -/
theorem Alongside.after (h : Alongside source p l m) :
    ∀ j, Alongside source p (l.after j) (m.after j)
  | 0 => h
  | j + 1 => (h.after j).next.2.2

/-! ## 4. Starting again -/

/-- How a lexer behind a cut, made where `l` stands, shows what the lexer `m` in the rest shows. -/
structure Resumed (l l' m : Lexer) : Prop where
  position : l'.cursor.position = l.cursor.position + m.cursor.position
  tokenStart : l'.tokenStart = l.cursor.position + m.tokenStart
  atEnd : l'.cursor.atEnd = m.cursor.atEnd
  location : Location.Moved l.cursor.location m.cursor.location l'.cursor.location
  tokenLocation : Location.Moved l.cursor.location m.tokenLocation l'.tokenLocation

/-- One call of a lexer and of the fresh one beside it. -/
theorem Alongside.resumed {cut : Lexer} (hshort : source.length + 1 < UInt32.size)
    (hcut : cut.Within source) (h : Alongside source cut.cursor.position l m) :
    Resumed cut l.next.2 m.next.2 := by
  obtain ⟨-, htokenStart, hnext⟩ := h.next
  obtain ⟨_, _, _, hcall⟩ := h.whole.exists_call
  obtain ⟨_, _, _, hcall'⟩ := h.part.exists_call
  refine ⟨hnext.position, htokenStart, ?_, ?_, ?_⟩
  · rw [Cursor.atEnd_eq, Cursor.atEnd_eq, hnext.ahead_eq]
  · rw [hcut.location_eq, hnext.whole.location_eq, hnext.part.location_eq, hnext.position]
    exact Location.moved_ofOffset hshort _ _
  · rw [hcut.location_eq, hcall.tokenLocation, hcall'.tokenLocation, htokenStart]
    exact Location.moved_ofOffset hshort _ _

end Lexer

/-- **A lexer has no memory.**  Behind any number of calls on a short source, a fresh lexer on what is
left answers every further call with the same token and stands at the same place, moved by the offset
and the location of the cut.  What the first one still yields are the tokens of what is left. -/
theorem resumed_of_run (source : Bytes) (hshort : source.length + 1 < UInt32.size) (k : Nat) :
    let l := (Lexer.ofSource source).after k
    let rest := source.drop l.cursor.position
    let fresh := Lexer.ofSource rest
    (∀ j, (l.after j).next.1 = (fresh.after j).next.1 ∧
      Lexer.Resumed l (l.after (j + 1)) (fresh.after (j + 1))) ∧
    l.rest ++ [.eof] = tokenize rest := by
  intro l rest fresh
  have hwithin : l.Within source := Lexer.within_after source k
  have hbeside : Lexer.Alongside source l.cursor.position l fresh := hwithin.alongside
  constructor
  · intro j
    exact ⟨(hbeside.after j).next.1, (hbeside.after j).resumed hshort hwithin⟩
  · rw [tokenize_eq_tokens, Lexer.rest_eq_tokens, hbeside.ahead_eq, Lexer.ahead_ofSource]

/-- Behind the `a` of `a b` and a line with ` c`: the fresh lexer finds `b` in column 2 of its first
line, which is column 3 of the source, and `c` in column 2 of the second line of either. -/
theorem resumed_behind_first_word :
    ([97, 32, 98, 10, 32, 99] : Bytes).length + 1 < UInt32.size ∧
      (let l := (Lexer.ofSource [97, 32, 98, 10, 32, 99]).after 1
      let fresh := Lexer.ofSource [32, 98, 10, 32, 99]
      Lexer.Resumed l (l.after 1) (fresh.after 1) ∧ Lexer.Resumed l (l.after 2) (fresh.after 2) ∧
      (l.after 1).tokenLocation = ⟨1, 3⟩ ∧ (fresh.after 1).tokenLocation = ⟨1, 2⟩ ∧
      (l.after 2).tokenLocation = ⟨2, 2⟩ ∧ (fresh.after 2).tokenLocation = ⟨2, 2⟩ ∧
      l.rest ++ [.eof] = [⟨.ident, [98]⟩, ⟨.ident, [99]⟩, .eof]) := by
  have hshort : ([97, 32, 98, 10, 32, 99] : Bytes).length + 1 < UInt32.size := by decide
  have hcut : ((Lexer.ofSource [97, 32, 98, 10, 32, 99]).after 1).cursor.position = 1 := by
    decide +kernel
  obtain ⟨hcalls, hrest⟩ := resumed_of_run [97, 32, 98, 10, 32, 99] hshort 1
  rw [hcut] at hcalls hrest
  have htokens : tokenize [32, 98, 10, 32, 99] = [⟨.ident, [98]⟩, ⟨.ident, [99]⟩, .eof] := by
    decide +kernel
  exact ⟨hshort, (hcalls 0).2, (hcalls 1).2, by decide +kernel, by decide +kernel,
    by decide +kernel, by decide +kernel, hrest.trans htokens⟩

end MonkeyTokens
