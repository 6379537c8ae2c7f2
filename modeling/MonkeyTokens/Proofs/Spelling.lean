/-
# How tokens are spelled

The declared side of scanning, without a scanner.  `Token.WellFormed` says which kinds may stand for
which texts, and `Apart` says when two texts can meet without a token running across the place where
they do.  Both are read off single bytes: a token is a run of letters, a run of digits or one other
byte (`Token.wellFormed_iff`), and two texts grow together exactly if the last byte of the first and
the first byte of the second are both letters or both digits (`Byte.joins`).

* `exists_spelled`: a text that is not all blanks is blanks, a well-formed token, and a rest that the
  token stands apart from.
* `spelled_induction`: the induction that follows from it.  Every statement about all sources is
  proved along it, so the proofs are cut where the tokens are and not at single bytes.
-/
import Mathlib.Data.List.Basic
import MonkeyTokens.Token

namespace MonkeyTokens

/-! ## 1. Texts that grow together -/

/-- Two neighbouring bytes belong to one token: both are letters, or both are digits. -/
def Byte.joins (x y : UInt8) : Bool :=
  (isLetter x && isLetter y) || (isDigit x && isDigit y)

/-- A text of blanks only. -/
def Blank (w : Bytes) : Prop :=
  ∀ b ∈ w, Byte.isBlank b = true

instance (w : Bytes) : Decidable (Blank w) :=
  inferInstanceAs (Decidable (∀ b ∈ w, Byte.isBlank b = true))

/-- No token runs across the place where the two texts meet.  If one of them is empty there is no
such place. -/
def Apart (a b : Bytes) : Prop :=
  ∀ x ∈ a.getLast?, ∀ y ∈ b.head?, Byte.joins x y = false

instance (a b : Bytes) : Decidable (Apart a b) :=
  inferInstanceAs (Decidable (∀ x ∈ a.getLast?, ∀ y ∈ b.head?, Byte.joins x y = false))

theorem blank_nil : Blank [] := by
  intro b hb
  simp at hb

theorem apart_nil (a : Bytes) : Apart a [] := by
  intro x _ y hy
  simp at hy

theorem Byte.letter_not_digit {b : UInt8} (h : isLetter b = true) : isDigit b = false := by
  refine Bool.eq_false_iff.mpr fun hd => ?_
  rw [digit_not_letter hd] at h
  exact absurd h (by simp)

theorem Byte.joins_iff {x y : UInt8} : joins x y = true ↔
    (isLetter x = true ∧ isLetter y = true) ∨ (isDigit x = true ∧ isDigit y = true) := by
  simp only [joins, Bool.or_eq_true, Bool.and_eq_true]

/-- Blanks join nothing. -/
theorem Byte.not_blank_of_joins {x y : UInt8} (h : joins x y = true) :
    isBlank x = false ∧ isBlank y = false := by
  rcases joins_iff.mp h with ⟨hx, hy⟩ | ⟨hx, hy⟩
  · exact ⟨letter_not_blank hx, letter_not_blank hy⟩
  · exact ⟨digit_not_blank hx, digit_not_blank hy⟩

theorem Byte.joins_of_blank_left {x : UInt8} (h : isBlank x = true) (y : UInt8) :
    joins x y = false := by
  refine Bool.eq_false_iff.mpr fun hjoins => ?_
  rw [(not_blank_of_joins hjoins).1] at h
  exact absurd h (by simp)

theorem Byte.joins_of_blank_right {y : UInt8} (h : isBlank y = true) (x : UInt8) :
    joins x y = false := by
  refine Bool.eq_false_iff.mpr fun hjoins => ?_
  rw [(not_blank_of_joins hjoins).2] at h
  exact absurd h (by simp)

/-- Next to a letter, joining means being a letter. -/
theorem Byte.joins_of_letter {x : UInt8} (h : isLetter x = true) (y : UInt8) :
    joins x y = isLetter y := by
  simp [joins, h, letter_not_digit h]

/-- Next to a digit, joining means being a digit. -/
theorem Byte.joins_of_digit {x : UInt8} (h : isDigit x = true) (y : UInt8) :
    joins x y = isDigit y := by
  simp [joins, h, digit_not_letter h]

/-- A blank keeps what is in front of it apart from what is behind it. -/
theorem apart_of_blank_head {a b : Bytes} (h : ∀ y ∈ b.head?, Byte.isBlank y = true) :
    Apart a b :=
  fun x _ y hy => Byte.joins_of_blank_right (h y hy) x

theorem apart_of_blank_last {a b : Bytes} (h : ∀ x ∈ a.getLast?, Byte.isBlank x = true) :
    Apart a b :=
  fun x hx y _ => Byte.joins_of_blank_left (h x hx) y

/-- Only the last byte of the first text counts. -/
theorem apart_append_left {a b c : Bytes} (hb : b ≠ []) : Apart (a ++ b) c ↔ Apart b c := by
  rw [Apart, Apart, List.getLast?_append_of_ne_nil a hb]

/-- Only the first byte of the second text counts. -/
theorem apart_append_right {a b c : Bytes} (hb : b ≠ []) : Apart a (b ++ c) ↔ Apart a b := by
  rw [Apart, Apart, List.head?_append_of_ne_nil b hb]

theorem Apart.of_append_left {a b c : Bytes} (h : Apart (a ++ b) c) : Apart b c := by
  by_cases hb : b = []
  · subst hb
    intro x hx
    simp at hx
  · exact (apart_append_left hb).mp h

theorem Apart.of_append_right {a b c : Bytes} (h : Apart a (b ++ c)) : Apart a b := by
  by_cases hb : b = []
  · subst hb
    exact apart_nil a
  · exact (apart_append_right hb).mp h

/-- A text that stands apart from the middle of three, as the first two do from the last, stands
apart from the other two together. -/
theorem Apart.append_right {a b c : Bytes} (hab : Apart a b) (hc : Apart (a ++ b) c) :
    Apart a (b ++ c) := by
  by_cases hb : b = []
  · subst hb
    simpa using hc
  · exact (apart_append_right hb).mpr hab

/-! ## 2. Well-formed tokens -/

/-- A byte that separates nothing, spells no word and spells no number. -/
def Byte.isOther (b : UInt8) : Bool :=
  !isBlank b && !isLetter b && !isDigit b

/-- The tokens of the language, the end token apart. -/
inductive Token.WellFormed (t : Token) : Prop where
  /-- A word is a run of letters, and a keyword exactly if it spells one. -/
  | word (kind : t.kind.isWord = true) (nonempty : t.text ≠ [])
      (letters : ∀ b ∈ t.text, Byte.isLetter b = true)
      (function : t.kind = .keywordFn ↔ t.text = [102, 110])
      (binding : t.kind = .keywordLet ↔ t.text = [108, 101, 116])
  /-- An integer is a run of digits. -/
  | int (kind : t.kind = .int) (nonempty : t.text ≠ [])
      (digits : ∀ b ∈ t.text, Byte.isDigit b = true)
  /-- An operator or a delimiter is its own byte. -/
  | operator (b : UInt8) (text : t.text = [b]) (kind : Kind.ofByte? b = some t.kind)
  /-- Any other byte but a blank is illegal. -/
  | illegal (b : UInt8) (kind : t.kind = .illegal) (text : t.text = [b])
      (blank : Byte.isBlank b = false) (letter : Byte.isLetter b = false)
      (digit : Byte.isDigit b = false) (operator : Kind.ofByte? b = none)

/-- Operators and delimiters are in none of the three classes. -/
theorem Kind.isOther_of_ofByte? {b : UInt8} {k : Kind} (h : ofByte? b = some k) :
    Byte.isOther b = true := by
  have hb : k.byte? = some b := byte?_of_ofByte? h
  cases k <;> simp only [byte?, Option.some.injEq, reduceCtorEq] at hb <;> subst hb <;> decide

theorem Kind.ofWord_fn : ofWord [102, 110] = .keywordFn := by decide

theorem Kind.ofWord_let : ofWord [108, 101, 116] = .keywordLet := by decide

theorem Kind.ofWord_eq_fn_iff (text : Bytes) : ofWord text = .keywordFn ↔ text = [102, 110] := by
  unfold ofWord keyword?
  split
  · simp [*]
  · split <;> simp [*]

theorem Kind.ofWord_eq_let_iff (text : Bytes) :
    ofWord text = .keywordLet ↔ text = [108, 101, 116] := by
  unfold ofWord keyword?
  split
  · simp [*]
  · split <;> simp [*]

theorem Kind.isWord_of_byte? {k : Kind} {b : UInt8} (h : k.byte? = some b) :
    k.isWord = false ∧ k ≠ .int := by
  cases k <;> simp_all [byte?, isWord]

/-- A word has the kind that its text looks up. -/
theorem Kind.eq_ofWord {k : Kind} {text : Bytes} (hk : k.isWord = true)
    (hf : k = .keywordFn ↔ text = [102, 110]) (hl : k = .keywordLet ↔ text = [108, 101, 116]) :
    k = ofWord text := by
  by_cases h1 : text = [102, 110]
  · rw [hf.mpr h1, h1, ofWord_fn]
  · by_cases h2 : text = [108, 101, 116]
    · rw [hl.mpr h2, h2, ofWord_let]
    · have hword : ofWord text = .ident := by simp [ofWord, keyword?, h1, h2]
      rw [hword]
      cases k <;> simp_all [isWord]

/-- **The three shapes of a token**, each with the kind that its text has: the declared grammar and
the computed kind agree. -/
theorem Token.wellFormed_iff (t : Token) :
    t.WellFormed ↔
      (t.text ≠ [] ∧ (∀ b ∈ t.text, Byte.isLetter b = true) ∧ t.kind = .ofWord t.text) ∨
      (t.text ≠ [] ∧ (∀ b ∈ t.text, Byte.isDigit b = true) ∧ t.kind = .int) ∨
      (∃ b, t.text = [b] ∧ Byte.isOther b = true ∧ t.kind = (Kind.ofByte? b).getD .illegal) := by
  constructor
  · intro h
    cases h with
    | word kind nonempty letters function binding =>
      exact .inl ⟨nonempty, letters, Kind.eq_ofWord kind function binding⟩
    | int kind nonempty digits => exact .inr (.inl ⟨nonempty, digits, kind⟩)
    | operator b text kind =>
      exact .inr (.inr ⟨b, text, Kind.isOther_of_ofByte? kind, by simp [kind]⟩)
    | illegal b kind text blank letter digit operator =>
      exact .inr (.inr ⟨b, text, by simp [Byte.isOther, blank, letter, digit],
        by simp [kind, operator]⟩)
  · rintro (⟨hne, hall, hk⟩ | ⟨hne, hall, hk⟩ | ⟨b, htext, hb, hk⟩)
    · refine .word ?_ hne hall ?_ ?_
      · rw [hk]; exact Kind.isWord_ofWord t.text
      · rw [hk]; exact Kind.ofWord_eq_fn_iff t.text
      · rw [hk]; exact Kind.ofWord_eq_let_iff t.text
    · exact .int hk hne hall
    · cases hop : Kind.ofByte? b with
      | some k => exact .operator b htext (by rw [hop, hk, hop]; rfl)
      | none =>
        simp only [Byte.isOther, Bool.and_eq_true, Bool.not_eq_true'] at hb
        exact .illegal b (by rw [hk, hop]; rfl) htext hb.1.1 hb.1.2 hb.2 hop

namespace Token.WellFormed

variable {t : Token}

theorem text_ne_nil (h : t.WellFormed) : t.text ≠ [] := by
  rcases t.wellFormed_iff.mp h with ⟨hne, -⟩ | ⟨hne, -⟩ | ⟨b, htext, -⟩
  · exact hne
  · exact hne
  · simp [htext]

/-- A token of the language is not the end. -/
theorem isEof_eq_false (h : t.WellFormed) : t.isEof = false := by
  unfold Token.isEof
  rcases t.wellFormed_iff.mp h with ⟨-, -, hk⟩ | ⟨-, -, hk⟩ | ⟨b, -, -, hk⟩
  · have hne : Kind.ofWord t.text ≠ .eof := Kind.ofWord_ne rfl t.text
    simp [hk, hne]
  · simp [hk]
  · cases hop : Kind.ofByte? b with
    | none => simp [hk, hop]
    | some k =>
      have hne : k ≠ .eof := fun he => Kind.ofByte?_ne rfl b (he ▸ hop)
      simp [hk, hop, hne]

/-- No byte of a token is blank. -/
theorem not_blank (h : t.WellFormed) : ∀ b ∈ t.text, Byte.isBlank b = false := by
  intro b hb
  rcases t.wellFormed_iff.mp h with ⟨-, hall, -⟩ | ⟨-, hall, -⟩ | ⟨x, htext, hx, -⟩
  · exact Byte.letter_not_blank (hall b hb)
  · exact Byte.digit_not_blank (hall b hb)
  · rw [htext, List.mem_singleton] at hb
    subst hb
    simp only [Byte.isOther, Bool.and_eq_true, Bool.not_eq_true'] at hx
    exact hx.1.1

/-- The kind of a token says what its bytes are. -/
theorem byte_class (h : t.WellFormed) :
    ∀ b ∈ t.text, Byte.isLetter b = t.kind.isWord ∧ Byte.isDigit b = decide (t.kind = .int) := by
  intro b hb
  rcases t.wellFormed_iff.mp h with ⟨-, hall, hk⟩ | ⟨-, hall, hk⟩ | ⟨x, htext, hx, hk⟩
  · have hword : t.kind.isWord = true := by rw [hk]; exact Kind.isWord_ofWord t.text
    have hint : t.kind ≠ .int := by
      intro he
      rw [he] at hword
      exact absurd hword (by decide)
    exact ⟨by rw [hall b hb, hword], by simp [Byte.letter_not_digit (hall b hb), hint]⟩
  · exact ⟨by rw [Byte.digit_not_letter (hall b hb), hk]; rfl, by rw [hall b hb, hk]; rfl⟩
  · obtain rfl : b = x := by simpa [htext] using hb
    simp only [Byte.isOther, Bool.and_eq_true, Bool.not_eq_true'] at hx
    have hkind : t.kind.isWord = false ∧ t.kind ≠ .int := by
      cases hop : Kind.ofByte? b with
      | none => simp [hk, hop, Kind.isWord]
      | some k =>
        have htk : t.kind = k := by rw [hk, hop]; rfl
        rw [htk]
        exact Kind.isWord_of_byte? (Kind.byte?_of_ofByte? hop)
    exact ⟨by rw [hx.1.2, hkind.1], by simp [hx.2, hkind.2]⟩

/-- A token with one letter has letters only. -/
theorem letters_of_mem (h : t.WellFormed) {x : UInt8} (hx : x ∈ t.text)
    (hl : Byte.isLetter x = true) : ∀ b ∈ t.text, Byte.isLetter b = true := by
  intro b hb
  rw [(h.byte_class b hb).1, ← (h.byte_class x hx).1]
  exact hl

/-- A token with one digit has digits only. -/
theorem digits_of_mem (h : t.WellFormed) {x : UInt8} (hx : x ∈ t.text)
    (hd : Byte.isDigit x = true) : ∀ b ∈ t.text, Byte.isDigit b = true := by
  intro b hb
  rw [(h.byte_class b hb).2, ← (h.byte_class x hx).2]
  exact hd

end Token.WellFormed

/-! ## 3. Cutting a text at its first token -/

/-- What a run leaves behind does not continue it. -/
theorem head?_dropWhile_eq_false {p : UInt8 → Bool} {s : Bytes} :
    ∀ y ∈ (s.dropWhile p).head?, p y = false := by
  intro y hy
  have h := List.head?_dropWhile_not p s
  rw [hy] at h
  simpa using h

/-- A run of letters or digits stands apart from what does not continue it. -/
theorem apart_of_run {p : UInt8 → Bool} {run rest : Bytes}
    (hjoin : ∀ x y, p x = true → Byte.joins x y = p y) (hrun : ∀ b ∈ run, p b = true)
    (hrest : ∀ y ∈ rest.head?, p y = false) : Apart run rest := by
  intro x hx y hy
  rw [hjoin x y (hrun x (List.mem_of_getLast? hx))]
  exact hrest y hy

/-- ...and if it is not empty, only from that. -/
theorem head?_eq_false_of_apart {p : UInt8 → Bool} {run rest : Bytes}
    (hjoin : ∀ x y, p x = true → Byte.joins x y = p y) (hne : run ≠ [])
    (hrun : ∀ b ∈ run, p b = true) (h : Apart run rest) : ∀ y ∈ rest.head?, p y = false := by
  intro y hy
  have hlast : run.getLast hne ∈ run.getLast? := List.getLast?_eq_some_getLast hne
  rw [← hjoin _ y (hrun _ (List.getLast_mem hne))]
  exact h _ hlast y hy

/-- A text that does not begin with a blank begins with a well-formed token. -/
theorem exists_token {b : UInt8} (hb : Byte.isBlank b = false) (s : Bytes) :
    ∃ t : Token, ∃ rest, b :: s = t.text ++ rest ∧ t.WellFormed ∧ Apart t.text rest := by
  by_cases hl : Byte.isLetter b = true
  · refine ⟨⟨.ofWord ((b :: s).takeWhile Byte.isLetter), (b :: s).takeWhile Byte.isLetter⟩,
      (b :: s).dropWhile Byte.isLetter, List.takeWhile_append_dropWhile.symm, ?_, ?_⟩
    · refine (Token.wellFormed_iff _).mpr (.inl ⟨?_, ?_, rfl⟩)
      · simp [hl]
      · exact List.all_eq_true.mp List.all_takeWhile
    · exact apart_of_run (fun x y hx => Byte.joins_of_letter hx y)
        (List.all_eq_true.mp List.all_takeWhile) head?_dropWhile_eq_false
  · by_cases hd : Byte.isDigit b = true
    · refine ⟨⟨.int, (b :: s).takeWhile Byte.isDigit⟩, (b :: s).dropWhile Byte.isDigit,
        List.takeWhile_append_dropWhile.symm, ?_, ?_⟩
      · refine (Token.wellFormed_iff _).mpr (.inr (.inl ⟨?_, ?_, rfl⟩))
        · simp [hd]
        · exact List.all_eq_true.mp List.all_takeWhile
      · exact apart_of_run (fun x y hx => Byte.joins_of_digit hx y)
          (List.all_eq_true.mp List.all_takeWhile) head?_dropWhile_eq_false
    · refine ⟨⟨(Kind.ofByte? b).getD .illegal, [b]⟩, s, rfl, ?_, ?_⟩
      · exact (Token.wellFormed_iff _).mpr
          (.inr (.inr ⟨b, rfl, by simp [Byte.isOther, hb, hl, hd], rfl⟩))
      · intro x hx y _
        obtain rfl : b = x := by simpa using hx
        simp [Byte.joins, hl, hd]

/-- **A text is blank or begins, behind blanks, with a token.** -/
theorem exists_spelled (s : Bytes) :
    Blank s ∨ ∃ w, ∃ t : Token, ∃ rest,
      s = w ++ (t.text ++ rest) ∧ Blank w ∧ t.WellFormed ∧ Apart t.text rest := by
  have hw : Blank (s.takeWhile Byte.isBlank) := List.all_eq_true.mp List.all_takeWhile
  have hs : s.takeWhile Byte.isBlank ++ s.dropWhile Byte.isBlank = s :=
    List.takeWhile_append_dropWhile
  cases hd : s.dropWhile Byte.isBlank with
  | nil =>
    rw [hd, List.append_nil] at hs
    exact .inl (hs ▸ hw)
  | cons b u =>
    have hb : Byte.isBlank b = false := head?_dropWhile_eq_false b (by rw [hd]; rfl)
    obtain ⟨t, rest, hcut, ht, hr⟩ := exists_token hb u
    exact .inr ⟨_, t, rest, by rw [← hcut, ← hd, hs], hw, ht, hr⟩

/-- **Induction along the tokens of a text.** -/
@[elab_as_elim]
theorem spelled_induction {motive : Bytes → Prop} (blank : ∀ w, Blank w → motive w)
    (token : ∀ w (t : Token) rest, Blank w → t.WellFormed → Apart t.text rest → motive rest →
      motive (w ++ (t.text ++ rest)))
    (s : Bytes) : motive s := by
  rcases exists_spelled s with hs | ⟨w, t, rest, rfl, hw, ht, hr⟩
  · exact blank s hs
  · -- a token has a byte, so the rest is shorter
    have hlt : rest.length < (w ++ (t.text ++ rest)).length := by
      have := List.length_pos_iff.mpr ht.text_ne_nil
      simp only [List.length_append]
      omega
    exact token w t rest hw ht hr (spelled_induction blank token rest)
termination_by s.length

end MonkeyTokens
