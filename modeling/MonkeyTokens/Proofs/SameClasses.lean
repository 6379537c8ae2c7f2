/-
# What a scan depends on

Two texts of one length may differ in every byte and still be cut at the same places: it is enough
that the bytes at every offset are of one class (`SameClasses`).  Nothing else in the text has an
influence on a scan, no keyword in it and no byte of any special value.

Two lexers on such texts go in lockstep.  What is kept is `Cursor.Alike`: the same position, the same
location, and texts ahead that agree on their classes.  One byte keeps it (`Cursor.Alike.advance`), so
any number of bytes does; and a call passes the same numbers of bytes on both sides
(`Cursor.Alike.exists_next`), because a spelling of the text ahead of one lexer is, class by class, a
spelling of the text ahead of the other one (`Token.WellFormed.of_sameClasses`).

The classes do not decide the kinds, but the texts of the tokens do: `Kind.ofText` is the kind of a
text wherever it stands.
-/
import Mathlib.Tactic.SplitIfs
import MonkeyTokens.Proofs.Runs

namespace MonkeyTokens

/-! ## 1. What a class says of a byte -/

namespace Byte

/-- The classes of blanks. -/
def Class.isBlank : Class → Bool
  | .lineFeed | .blank => true
  | .letter | .digit | .other => false

theorem classOf_eq_lineFeed_iff (b : UInt8) : classOf b = .lineFeed ↔ b = lineFeed := by
  unfold classOf
  split_ifs with hfeed <;> simp [hfeed]

theorem isBlank_eq (b : UInt8) : isBlank b = (classOf b).isBlank := by
  unfold classOf
  split_ifs with hfeed hblank
  · rw [hfeed]
    rfl
  · exact hblank
  all_goals exact Bool.eq_false_iff.mpr hblank

theorem isLetter_eq (b : UInt8) : isLetter b = decide (classOf b = .letter) := by
  unfold classOf
  split_ifs with hfeed hblank hletter
  · rw [hfeed]
    rfl
  · refine Bool.eq_false_iff.mpr fun hletter => ?_
    rw [letter_not_blank hletter] at hblank
    exact absurd hblank (by simp)
  · simp [hletter]
  all_goals simpa using hletter

theorem isDigit_eq (b : UInt8) : isDigit b = decide (classOf b = .digit) := by
  unfold classOf
  split_ifs with hfeed hblank hletter hdigit
  · rw [hfeed]
    rfl
  · refine Bool.eq_false_iff.mpr fun hdigit => ?_
    rw [digit_not_blank hdigit] at hblank
    exact absurd hblank (by simp)
  · simpa using letter_not_digit hletter
  · simp [hdigit]
  · simpa using hdigit

/-- The class says which neighbours join. -/
theorem joins_congr {x x' y y' : UInt8} (hx : classOf x = classOf x') (hy : classOf y = classOf y') :
    joins x y = joins x' y' := by
  simp only [joins, isLetter_eq, isDigit_eq, hx, hy]

/-- It says what a byte does to a location. -/
theorem pass_congr {x y : UInt8} (h : classOf x = classOf y) (loc : Location) :
    loc.pass x = loc.pass y := by
  have hfeed : x = lineFeed ↔ y = lineFeed := by
    rw [← classOf_eq_lineFeed_iff, ← classOf_eq_lineFeed_iff, h]
  simp only [Location.pass, hfeed]

end Byte

/-! ## 2. Texts of the same classes -/

/-- Texts of one length that agree at every offset on the class of the byte there. -/
def SameClasses (a b : Bytes) : Prop :=
  a.map Byte.classOf = b.map Byte.classOf

instance (a b : Bytes) : Decidable (SameClasses a b) :=
  inferInstanceAs (Decidable (a.map Byte.classOf = b.map Byte.classOf))

namespace SameClasses

variable {a b c d : Bytes}

theorem length_eq (h : SameClasses a b) : a.length = b.length := by
  simpa using congrArg List.length h

/-- A text that agrees with one in two parts has two parts. -/
theorem exists_append (h : SameClasses (a ++ b) c) :
    ∃ a' b', c = a' ++ b' ∧ SameClasses a a' ∧ SameClasses b b' := by
  unfold SameClasses at h
  rw [List.map_append] at h
  obtain ⟨a', b', rfl, ha, hb⟩ := List.map_eq_append_iff.mp h.symm
  exact ⟨a', b', rfl, ha.symm, hb.symm⟩

theorem exists_cons {x : UInt8} (h : SameClasses (x :: a) b) :
    ∃ y b', b = y :: b' ∧ Byte.classOf x = Byte.classOf y ∧ SameClasses a b' := by
  obtain ⟨y, b', rfl, hy, hb⟩ := List.map_eq_cons_iff.mp h.symm
  exact ⟨y, b', rfl, hy.symm, hb.symm⟩

/-- What the class decides about every byte of one text it decides about every byte of the other. -/
theorem forall_iff {p : Byte.Class → Bool} (h : SameClasses a b) :
    (∀ x ∈ a, p (Byte.classOf x) = true) ↔ ∀ y ∈ b, p (Byte.classOf y) = true := by
  rw [← List.forall_mem_map (f := Byte.classOf) (P := fun k => p k = true), h, List.forall_mem_map]

theorem blank (h : SameClasses a b) (ha : Blank a) : Blank b := by
  simp only [Blank, Byte.isBlank_eq] at ha ⊢
  exact h.forall_iff.mp ha

theorem letters (h : SameClasses a b) (ha : ∀ x ∈ a, Byte.isLetter x = true) :
    ∀ y ∈ b, Byte.isLetter y = true := by
  simp only [Byte.isLetter_eq] at ha ⊢
  exact (h.forall_iff (p := fun k => decide (k = .letter))).mp ha

theorem digits (h : SameClasses a b) (ha : ∀ x ∈ a, Byte.isDigit x = true) :
    ∀ y ∈ b, Byte.isDigit y = true := by
  simp only [Byte.isDigit_eq] at ha ⊢
  exact (h.forall_iff (p := fun k => decide (k = .digit))).mp ha

theorem ne_nil (h : SameClasses a b) (ha : a ≠ []) : b ≠ [] := by
  rw [← List.length_pos_iff, ← h.length_eq]
  exact List.length_pos_iff.mpr ha

/-- The bytes where two texts meet have the classes of those where the others do. -/
theorem apart (h : SameClasses a b) (h' : SameClasses c d) (hac : Apart a c) : Apart b d := by
  intro x hx y hy
  have hlast : (a.map Byte.classOf).getLast? = (b.map Byte.classOf).getLast? := congrArg _ h
  have hhead : (c.map Byte.classOf).head? = (d.map Byte.classOf).head? := congrArg _ h'
  rw [List.getLast?_map, List.getLast?_map, show b.getLast? = some x from hx] at hlast
  rw [List.head?_map, List.head?_map, show d.head? = some y from hy] at hhead
  obtain ⟨x', hx', hclass⟩ := Option.map_eq_some_iff.mp hlast
  obtain ⟨y', hy', hclass'⟩ := Option.map_eq_some_iff.mp hhead
  rw [← Byte.joins_congr hclass hclass']
  exact hac x' hx' y' hy'

end SameClasses

/-! ## 3. Tokens of the same classes -/

/-- The kind of a text as a token: a word is looked up as a whole, an integer is one whatever its
digits are, and any other token is its byte. -/
def Kind.ofText : Bytes → Kind
  | [] => .eof
  | b :: rest =>
    match Byte.classOf b with
    | .letter => .ofWord (b :: rest)
    | .digit => .int
    | .lineFeed | .blank | .other => (Kind.ofByte? b).getD .illegal

/-- The token is one byte that is neither a letter nor a digit. -/
def Token.IsSingle (t : Token) : Prop :=
  ∃ b, t = ⟨(Kind.ofByte? b).getD .illegal, [b]⟩ ∧ Byte.isOther b = true

/-- Two tokens are words, integers or single bytes together. -/
inductive Token.SameSort (t u : Token) : Prop where
  | words (left : t.kind.isWord = true) (right : u.kind.isWord = true)
  | integers (left : t.kind = .int) (right : u.kind = .int)
  | singles (left : t.IsSingle) (right : u.IsSingle)

theorem Kind.ofText_of_letters {text : Bytes} (hne : text ≠ [])
    (h : ∀ b ∈ text, Byte.isLetter b = true) : ofText text = .ofWord text := by
  obtain ⟨b, rest, rfl⟩ := List.exists_cons_of_ne_nil hne
  have hclass : Byte.classOf b = .letter := by
    simpa [Byte.isLetter_eq] using h b List.mem_cons_self
  rw [ofText, hclass]

theorem Kind.ofText_of_digits {text : Bytes} (hne : text ≠ [])
    (h : ∀ b ∈ text, Byte.isDigit b = true) : ofText text = .int := by
  obtain ⟨b, rest, rfl⟩ := List.exists_cons_of_ne_nil hne
  have hclass : Byte.classOf b = .digit := by
    simpa [Byte.isDigit_eq] using h b List.mem_cons_self
  rw [ofText, hclass]

theorem Byte.isOther_iff (b : UInt8) : isOther b = true ↔ classOf b = .other := by
  simp only [isOther, isBlank_eq, isLetter_eq, isDigit_eq]
  cases classOf b <;> decide

theorem Kind.ofText_of_other {b : UInt8} (h : Byte.isOther b = true) :
    ofText [b] = (ofByte? b).getD .illegal := by
  rw [ofText, (Byte.isOther_iff b).mp h]

namespace Token.WellFormed

variable {t : Token} {text : Bytes}

/-- **The text of a token decides its kind.** -/
theorem kind_eq (ht : t.WellFormed) : t.kind = .ofText t.text := by
  rcases t.wellFormed_iff.mp ht with ⟨hne, hall, hk⟩ | ⟨hne, hall, hk⟩ | ⟨b, htext, hb, hk⟩
  · rw [hk, Kind.ofText_of_letters hne hall]
  · rw [hk, Kind.ofText_of_digits hne hall]
  · rw [hk, htext, Kind.ofText_of_other hb]

/-- **A text with the classes of a token is a token of that sort.** -/
theorem of_sameClasses (ht : t.WellFormed) (h : SameClasses t.text text) :
    (⟨.ofText text, text⟩ : Token).WellFormed ∧ t.SameSort ⟨.ofText text, text⟩ := by
  rcases t.wellFormed_iff.mp ht with ⟨hne, hall, hk⟩ | ⟨hne, hall, hk⟩ | ⟨b, htext, hb, hk⟩
  · have hkind := Kind.ofText_of_letters (h.ne_nil hne) (h.letters hall)
    refine ⟨(wellFormed_iff _).mpr (.inl ⟨h.ne_nil hne, h.letters hall, hkind⟩), .words ?_ ?_⟩
    · rw [hk]
      exact Kind.isWord_ofWord t.text
    · rw [hkind]
      exact Kind.isWord_ofWord text
  · have hkind := Kind.ofText_of_digits (h.ne_nil hne) (h.digits hall)
    exact ⟨(wellFormed_iff _).mpr (.inr (.inl ⟨h.ne_nil hne, h.digits hall, hkind⟩)),
      .integers hk hkind⟩
  · rw [htext] at h
    obtain ⟨y, rest, rfl, hclass, hnil⟩ := h.exists_cons
    obtain rfl : rest = [] := List.eq_nil_of_length_eq_zero hnil.length_eq.symm
    have hy : Byte.isOther y = true := by
      rw [Byte.isOther_iff, ← hclass]
      exact (Byte.isOther_iff b).mp hb
    have hkind := Kind.ofText_of_other hy
    refine ⟨(wellFormed_iff _).mpr (.inr (.inr ⟨y, rfl, hy, hkind⟩)), .singles ?_ ?_⟩
    · exact ⟨b, by rw [← hk, ← htext], hb⟩
    · exact ⟨y, by rw [hkind], hy⟩

end Token.WellFormed

/-! ## 4. Lockstep -/

/-- Two cursors at one place in texts that agree, from there on, on their classes. -/
structure Cursor.Alike (c d : Cursor) : Prop where
  position : c.position = d.position
  location : c.location = d.location
  ahead : SameClasses c.ahead d.ahead

namespace Cursor.Alike

variable {c d : Cursor} {l m : Lexer}

/-- One byte keeps two cursors alike. -/
theorem advance (h : Alike c d) : Alike c.advance d.advance := by
  cases hc : c.ahead with
  | nil =>
    have hd : d.ahead = [] := by
      refine List.eq_nil_of_length_eq_zero ?_
      rw [← h.ahead.length_eq, hc]
      rfl
    rw [advance_nil hc, advance_nil hd]
    exact h
  | cons x rest =>
    obtain ⟨y, rest', hd, hclass, hrest⟩ := (hc ▸ h.ahead).exists_cons
    refine ⟨?_, ?_, ?_⟩
    · rw [position_advance hc, position_advance hd, h.position]
    · rw [location_advance hc, location_advance hd, h.location, Byte.pass_congr hclass]
    · rw [ahead_advance, ahead_advance, hc, hd]
      exact hrest

/-- So does any number of bytes. -/
theorem advanceBy (h : Alike c d) (n : Nat) : Alike (c.advanceBy n) (d.advanceBy n) := by
  induction n generalizing c d with
  | zero => exact h
  | succ n ih => exact ih h.advance

/-- **One call in lockstep**: the same numbers of bytes are passed, and what is answered is the end on
both sides or tokens of one sort. -/
theorem exists_next (h : Alike l.cursor m.cursor) :
    ∃ t u gap length, l.next = (t, l.passing gap length) ∧ m.next = (u, m.passing gap length) ∧
      (t = .eof ∧ u = .eof ∨ t.WellFormed ∧ u.WellFormed ∧ t.SameSort u) := by
  rcases exists_spelled l.cursor.ahead with hblank | ⟨w, t, rest, hahead, hw, ht, hr⟩
  · refine ⟨.eof, .eof, l.cursor.ahead.length, 0, Lexer.next_of_blank hblank, ?_, .inl ⟨rfl, rfl⟩⟩
    rw [h.ahead.length_eq]
    exact Lexer.next_of_blank (h.ahead.blank hblank)
  · -- the spelling of the text ahead on the one side, part by part on the other
    obtain ⟨w', more, hahead', hgap, hmore⟩ := (hahead ▸ h.ahead).exists_append
    obtain ⟨text, rest', rfl, htext, hrest⟩ := hmore.exists_append
    obtain ⟨hu, hsort⟩ := ht.of_sameClasses htext
    refine ⟨t, ⟨.ofText text, text⟩, w.length, t.text.length, Lexer.next_of_spelled hahead hw ht hr,
      ?_, .inr ⟨ht, hu, hsort⟩⟩
    rw [hgap.length_eq, htext.length_eq]
    exact Lexer.next_of_spelled hahead' (hgap.blank hw) hu (htext.apart hrest hr)

theorem next (h : Alike l.cursor m.cursor) : Alike l.next.2.cursor m.next.2.cursor := by
  obtain ⟨t, u, gap, length, hl, hm, -⟩ := h.exists_next
  rw [hl, hm]
  exact h.advanceBy (gap + length)

/-- All calls keep two lexers alike. -/
theorem after (h : Alike l.cursor m.cursor) (k : Nat) :
    Alike (l.after k).cursor (m.after k).cursor := by
  induction k with
  | zero => exact h
  | succ k ih => exact ih.next

end Cursor.Alike

namespace Lexer

/-- Two lexers show the same places: where they stand, where their last tokens began, and whether
they are at the end. -/
structure SamePlaces (l m : Lexer) : Prop where
  tokenStart : l.tokenStart = m.tokenStart
  position : l.cursor.position = m.cursor.position
  tokenLocation : l.tokenLocation = m.tokenLocation
  location : l.cursor.location = m.cursor.location
  atEnd : l.cursor.atEnd = m.cursor.atEnd

theorem samePlaces_passing {l m : Lexer} (h : Cursor.Alike l.cursor m.cursor) (gap length : Nat) :
    SamePlaces (l.passing gap length) (m.passing gap length) where
  tokenStart := (h.advanceBy gap).position
  position := (h.advanceBy (gap + length)).position
  tokenLocation := (h.advanceBy gap).location
  location := (h.advanceBy (gap + length)).location
  atEnd := by
    have hlength := (h.advanceBy (gap + length)).ahead.length_eq
    rw [Cursor.atEnd_eq, Cursor.atEnd_eq, Bool.eq_iff_iff, List.isEmpty_iff_length_eq_zero,
      List.isEmpty_iff_length_eq_zero]
    exact iff_of_eq (congrArg (· = 0) hlength)

end Lexer

/-- **Where tokens begin and end depends on byte classes only.**  Every call on two texts of the same
classes leads to the same places, and answers the end on both sides or on neither; two tokens are
words, integers or single bytes together, and the kind of each is the one of its own text. -/
theorem places_of_classes (a b : Bytes) (h : SameClasses a b) (k : Nat) :
    let l := (Lexer.ofSource a).after k
    let m := (Lexer.ofSource b).after k
    Lexer.SamePlaces l.next.2 m.next.2 ∧
      l.next.1.isEof = m.next.1.isEof ∧
      (l.next.1.isEof = false → l.next.1.SameSort m.next.1) ∧
      l.next.1.kind = .ofText l.next.1.text ∧ m.next.1.kind = .ofText m.next.1.text := by
  intro l m
  have hstart : Cursor.Alike (Lexer.ofSource a).cursor (Lexer.ofSource b).cursor :=
    ⟨rfl, rfl, by rwa [Lexer.ahead_ofSource, Lexer.ahead_ofSource]⟩
  have halike : Cursor.Alike l.cursor m.cursor := hstart.after k
  obtain ⟨t, u, gap, length, hl, hm, hcase⟩ := halike.exists_next
  rw [hl, hm]
  refine ⟨Lexer.samePlaces_passing halike gap length, ?_⟩
  rcases hcase with ⟨rfl, rfl⟩ | ⟨ht, hu, hsort⟩
  · refine ⟨rfl, ?_, rfl, rfl⟩
    intro heof
    have hend : Token.eof.isEof = false := heof
    exact absurd hend (by decide)
  · refine ⟨?_, fun _ => hsort, ht.kind_eq, hu.kind_eq⟩
    show t.isEof = u.isEof
    rw [ht.isEof_eq_false, hu.isEof_eq_false]

/-- `let 1` and, below it, `$` are cut where `fnx`, a tab, `7` and, below it, `+` are: the first token
is a keyword in the one and an identifier in the other, the last one illegal or an operator. -/
theorem places_of_classes_keyword :
    let a : Bytes := [108, 101, 116, 32, 49, 10, 36]
    let b : Bytes := [102, 110, 120, 9, 55, 10, 43]
    let l := (Lexer.ofSource a).after 2
    let m := (Lexer.ofSource b).after 2
    SameClasses a b ∧
      (tokenize a).map (·.kind) = [.keywordLet, .int, .illegal, .eof] ∧
      (tokenize b).map (·.kind) = [.ident, .int, .plus, .eof] ∧
      Lexer.SamePlaces l.next.2 m.next.2 ∧ m.next.2.tokenLocation = ⟨2, 1⟩ ∧
      l.next.1.isEof = false ∧ l.next.1.SameSort m.next.1 := by
  intro a b l m
  have hclasses : SameClasses a b := by decide
  have htoken : l.next.1.isEof = false := by decide +kernel
  obtain ⟨hplaces, -, hsort, -⟩ := places_of_classes a b hclasses 2
  exact ⟨hclasses, by decide +kernel, by decide +kernel, hplaces, by decide +kernel, htoken,
    hsort htoken⟩

end MonkeyTokens
