/-
# Lines, and the tokens in them

`IsLines` says what the lines of a text are without saying how they are found: put together they are
the text, none is empty, a line feed stands only at the end of a line, and only the last line can be
without one.  A text has lines in one way, and `splitLines` finds it (`isLines_iff`).

A line feed is a blank, so a line that has one stands apart from the line behind it, and the tokens of
a text are those of its lines in order (`tokens_eq_flatMap_lines`): a scanner that starts afresh on
every line misses nothing and adds nothing.
-/
import MonkeyTokens.Proofs.Scan
import MonkeyTokens.Session

namespace MonkeyTokens

/-! ## 1. What the lines of a text are -/

/-- The text cut behind every line feed. -/
structure IsLines (source : Bytes) (lines : List Bytes) : Prop where
  flatten_eq : lines.flatten = source
  ne_nil : ∀ line ∈ lines, line ≠ []
  inner : ∀ line ∈ lines, Byte.lineFeed ∉ line.dropLast
  finished : ∀ line ∈ lines.dropLast, isFinished line = true

theorem isFinished_iff (line : Bytes) :
    isFinished line = true ↔ ∃ body, line = body ++ [Byte.lineFeed] := by
  unfold isFinished
  rw [decide_eq_true_eq, List.getLast?_eq_some_iff]

theorem IsLines.tail {source line : Bytes} {lines : List Bytes} (h : IsLines source (line :: lines)) :
    IsLines lines.flatten lines where
  flatten_eq := rfl
  ne_nil l hl := h.ne_nil l (List.mem_cons_of_mem line hl)
  inner l hl := h.inner l (List.mem_cons_of_mem line hl)
  finished := by
    intro l hl
    have hne : lines ≠ [] := by
      rintro rfl
      simp at hl
    refine h.finished l ?_
    rw [List.dropLast_cons_of_ne_nil hne]
    exact List.mem_cons_of_mem line hl

/-- A line that has another one behind it is finished. -/
theorem IsLines.head_finished {source line : Bytes} {lines : List Bytes}
    (h : IsLines source (line :: lines)) (hne : lines ≠ []) : isFinished line = true := by
  refine h.finished line ?_
  rw [List.dropLast_cons_of_ne_nil hne]
  exact List.mem_cons_self

/-! ## 2. `splitLines` finds them -/

/-- A text without a line feed is one line. -/
theorem splitLines_of_not_mem : ∀ {tail : Bytes}, tail ≠ [] → Byte.lineFeed ∉ tail →
    splitLines tail = [tail]
  | [b], _, h => by
    have hb : b ≠ Byte.lineFeed := fun e => h (by simp [e])
    simp [splitLines, hb]
  | b :: c :: rest, _, h => by
    have hb : b ≠ Byte.lineFeed := fun e => h (by simp [e])
    have ih : splitLines (c :: rest) = [c :: rest] :=
      splitLines_of_not_mem (by simp) fun hm => h (List.mem_cons_of_mem b hm)
    rw [splitLines, if_neg hb, ih]

/-- The first line ends behind the first line feed. -/
theorem splitLines_append_lineFeed (rest : Bytes) : ∀ {body : Bytes}, Byte.lineFeed ∉ body →
    splitLines (body ++ Byte.lineFeed :: rest) = (body ++ [Byte.lineFeed]) :: splitLines rest
  | [], _ => by rw [List.nil_append, splitLines, if_pos rfl, List.nil_append]
  | b :: body, h => by
    have hb : b ≠ Byte.lineFeed := fun e => h (by simp [e])
    have hbody : Byte.lineFeed ∉ body := fun hm => h (List.mem_cons_of_mem b hm)
    have ih := splitLines_append_lineFeed rest hbody
    rw [List.cons_append, splitLines, if_neg hb, ih]
    rfl

theorem IsLines.eq_splitLines : ∀ {lines : List Bytes} {source : Bytes}, IsLines source lines →
    lines = splitLines source
  | [], source, h => by rw [← h.flatten_eq]; rfl
  | line :: lines, source, h => by
    have hinner : Byte.lineFeed ∉ line.dropLast := h.inner line List.mem_cons_self
    have hsource : source = line ++ lines.flatten := by rw [← h.flatten_eq, List.flatten_cons]
    by_cases hfin : isFinished line = true
    · obtain ⟨body, rfl⟩ := (isFinished_iff line).mp hfin
      rw [List.dropLast_concat] at hinner
      rw [hsource, List.append_assoc, List.singleton_append, splitLines_append_lineFeed _ hinner,
        ← h.tail.eq_splitLines]
    · -- an unfinished line is the last one, and has no line feed at all
      have hlines : lines = [] := by
        by_contra hne
        exact hfin (h.head_finished hne)
      have hne : line ≠ [] := h.ne_nil line List.mem_cons_self
      have hmem : Byte.lineFeed ∉ line := by
        intro hm
        rw [← List.dropLast_concat_getLast hne, List.mem_append] at hm
        rcases hm with hm | hm
        · exact hinner hm
        · refine hfin ?_
          rw [isFinished, decide_eq_true_eq, List.getLast?_eq_some_getLast hne,
            List.mem_singleton.mp hm]
      rw [hsource, hlines, List.flatten_nil, List.append_nil, splitLines_of_not_mem hne hmem]

/-- A finished line in front of a text is a line more. -/
theorem IsLines.cons {body rest : Bytes} {lines : List Bytes} (hbody : Byte.lineFeed ∉ body)
    (h : IsLines rest lines) :
    IsLines (body ++ Byte.lineFeed :: rest) ((body ++ [Byte.lineFeed]) :: lines) where
  flatten_eq := by rw [List.flatten_cons, h.flatten_eq, List.append_assoc, List.singleton_append]
  ne_nil := by
    intro line hline
    rcases List.mem_cons.mp hline with rfl | hline
    · simp
    · exact h.ne_nil line hline
  inner := by
    intro line hline
    rcases List.mem_cons.mp hline with rfl | hline
    · rwa [List.dropLast_concat]
    · exact h.inner line hline
  finished := by
    intro line hline
    by_cases hlines : lines = []
    · simp [hlines] at hline
    · rw [List.dropLast_cons_of_ne_nil hlines] at hline
      rcases List.mem_cons.mp hline with rfl | hline
      · exact (isFinished_iff _).mpr ⟨body, rfl⟩
      · exact h.finished line hline

/-- A text without a line feed is a line, if it is not empty. -/
theorem isLines_of_not_mem {tail : Bytes} (hne : tail ≠ []) (h : Byte.lineFeed ∉ tail) :
    IsLines tail [tail] where
  flatten_eq := by simp
  ne_nil := by simpa using hne
  inner := by simpa using fun hm => h (List.dropLast_subset tail hm)
  finished := by simp

theorem isLines_splitLines (source : Bytes) : IsLines source (splitLines source) := by
  by_cases hmem : Byte.lineFeed ∈ source
  · obtain ⟨body, rest, rfl, hbody⟩ := List.eq_append_cons_of_mem hmem
    rw [splitLines_append_lineFeed rest hbody]
    exact (isLines_splitLines rest).cons hbody
  · by_cases hne : source = []
    · subst hne
      exact ⟨rfl, by simp [splitLines], by simp [splitLines], by simp [splitLines]⟩
    · rw [splitLines_of_not_mem hne hmem]
      exact isLines_of_not_mem hne hmem
termination_by source.length

/-- **A text has lines in one way.** -/
theorem isLines_iff (source : Bytes) (lines : List Bytes) :
    IsLines source lines ↔ lines = splitLines source := by
  constructor
  · exact IsLines.eq_splitLines
  · rintro rfl
    exact isLines_splitLines source

theorem isFinished_append_lineFeed (body rest : Bytes) :
    isFinished (body ++ Byte.lineFeed :: rest) = (rest.isEmpty || isFinished rest) := by
  cases rest with
  | nil => exact (isFinished_iff _).mpr ⟨body, rfl⟩
  | cons b u =>
    unfold isFinished
    rw [List.getLast?_append_of_ne_nil _ (by simp), List.getLast?_cons_cons]
    rfl

theorem isFinished_of_not_mem {line : Bytes} (h : Byte.lineFeed ∉ line) :
    isFinished line = false := by
  by_contra hfinished
  obtain ⟨body, rfl⟩ := (isFinished_iff line).mp (by simpa using hfinished)
  simp at h

/-- There are as many lines as line feeds, and one more if the text does not end with one. -/
theorem length_splitLines (source : Bytes) :
    (splitLines source).length = source.count Byte.lineFeed +
      if source ≠ [] ∧ isFinished source = false then 1 else 0 := by
  by_cases hmem : Byte.lineFeed ∈ source
  · obtain ⟨body, rest, rfl, hbody⟩ := List.eq_append_cons_of_mem hmem
    have ih := length_splitLines rest
    rw [splitLines_append_lineFeed rest hbody, List.length_cons, ih, isFinished_append_lineFeed,
      List.count_append, List.count_cons_self, List.count_eq_zero.mpr hbody]
    cases rest <;> simp [Nat.add_right_comm]
  · rw [List.count_eq_zero.mpr hmem]
    by_cases hne : source = []
    · simp [hne, splitLines]
    · simp [splitLines_of_not_mem hne hmem, hne, isFinished_of_not_mem hmem]
termination_by source.length

/-! ## 3. Tokens, line by line -/

/-- A line stands apart from the lines behind it. -/
theorem IsLines.apart {source line : Bytes} {lines : List Bytes}
    (h : IsLines source (line :: lines)) : Apart line lines.flatten := by
  by_cases hne : lines = []
  · rw [hne]
    exact apart_nil line
  · obtain ⟨body, rfl⟩ := (isFinished_iff line).mp (h.head_finished hne)
    refine apart_of_blank_last fun x hx => ?_
    obtain rfl : Byte.lineFeed = x := by simpa using hx
    rfl

/-- **No token runs across the end of a line.** -/
theorem tokens_eq_flatMap_lines : ∀ {lines : List Bytes} {source : Bytes}, IsLines source lines →
    tokens source = lines.flatMap tokens
  | [], source, h => by rw [← h.flatten_eq]; exact tokens_of_blank blank_nil
  | line :: lines, source, h => by
    have hsource : source = line ++ lines.flatten := by rw [← h.flatten_eq, List.flatten_cons]
    rw [hsource, tokens_append_of_apart h.apart, tokens_eq_flatMap_lines h.tail, List.flatMap_cons]

end MonkeyTokens
