/-
# What a session reports

A session scans every line with a lexer of its own, which counts from line 1 each time, and counts the
lines of its input itself.  So its log speaks of lines in two ways: the lexer's events are all on line
1, and a report of an illegal input has the line of the input.  What the log says is said here by the
tokens of one run over the whole input, each with its place in it: behind one another they are the
log, token by token (`Session.log`, `Session.events_script`).

Two facts on places carry this.  Before the end of the first line the column of the whole input is the
column of the line (`Location.columnAt_append_left`), and behind the line feed at its end everything is
as in the rest, one line further down (`Location.lineAt_behind_line`,
`Location.columnAt_behind_line`).  The induction is on the lines, with the number of the first one as a
parameter.

From the log by tokens it can be read off that the illegal inputs of a session are the illegal tokens
of its whole input, and that each is reported directly behind the lexer's own events
(`session_log`).
-/
import MonkeyTokens.Proofs.FullSink
import MonkeyTokens.Proofs.Placement

namespace MonkeyTokens

/-! ## 1. Places in a line and in the whole input -/

namespace Location

variable {a b : Bytes} {q : Nat}

/-- The column of an offset depends on the bytes before it. -/
theorem columnAt_append_left (h : q ≤ a.length) : columnAt (a ++ b) q = columnAt a q := by
  rw [columnAt, columnAt, List.take_append_of_le_length h]

/-- In a line every byte is on line 1. -/
theorem lineAt_in_line {line : Bytes} (hinner : Byte.lineFeed ∉ line.dropLast)
    (h : q < line.length) : lineAt line q = 1 := by
  rw [lineAt_eq_one_iff]
  intro hmem
  have hfront : line.take q <+: line.dropLast := by
    rw [List.dropLast_eq_take]
    exact List.take_prefix_take_left (by omega)
  exact hinner (hfront.subset hmem)

/-- Behind a line feed the rest begins, one line further down. -/
theorem lineAt_behind_line {body : Bytes} (hbody : Byte.lineFeed ∉ body) (rest : Bytes) (q : Nat) :
    lineAt (body ++ [Byte.lineFeed] ++ rest) ((body ++ [Byte.lineFeed]).length + q) =
      1 + lineAt rest q := by
  rw [lineAt, lineAt, List.take_length_add_append, List.count_append, List.count_append,
    List.count_eq_zero.mpr hbody, List.count_singleton_self]

theorem columnAt_behind_line (body rest : Bytes) (q : Nat) :
    columnAt (body ++ [Byte.lineFeed] ++ rest) ((body ++ [Byte.lineFeed]).length + q) =
      columnAt rest q := by
  rw [columnAt, columnAt, List.take_length_add_append, List.reverse_append, List.reverse_append,
    List.takeWhile_append]
  split <;> simp_all

end Location

/-- A token of a text begins before its end. -/
theorem position_lt_of_mem_positioned {p : Positioned} {s : Bytes} (h : p ∈ positioned s) :
    p.position < s.length := by
  obtain ⟨hwf, front, rest, rfl, hposition⟩ := exists_of_mem_positioned h
  have hpos := List.length_pos_iff.mpr hwf.text_ne_nil
  simp only [List.length_append]
  omega

/-! ## 2. The log of a session -/

namespace Session

/-- What is reported of a token in line `number` and column `column` of the input of a session.  The
lexer knows the column and takes every line for the first one. -/
def entry (number : Nat) (column : UInt32) (t : Token) : List Event :=
  let loc : Location := ⟨1, column⟩
  if t.isIllegal then
    [.illegalCharacter t.text loc, .token .illegal t.text loc, .illegalInput number column t.text]
  else if t.isEof then []
  else [.token t.kind t.text loc]

/-- What a session reports of a token that is placed in its whole input. -/
def log (p : Placed) : List Event :=
  entry p.location.line.toNat p.location.column p.token

/-- The session and its lexer report an entry together. -/
theorem entry_eq (number : Nat) (column : UInt32) (t : Token) :
    (Lexer.placed t ⟨1, column⟩).events ++ remarks number (Lexer.placed t ⟨1, column⟩) =
      entry number column t := by
  have hnot : t.kind = .illegal → t.isEof = false := fun h => by simp [Token.isEof, h]
  by_cases hillegal : t.kind = .illegal
  · simp [Lexer.placed, Lexer.reports, remarks, entry, Token.isIllegal, hillegal, hnot hillegal]
  · cases heof : t.isEof <;> simp [Lexer.placed, Lexer.reports, remarks, entry, Token.isIllegal, hillegal, heof]

/-- The entry of a token of `source`, in an input in which the first line of `source` has the number
`number`. -/
def entryOf (number : Nat) (source : Bytes) (q : Positioned) : List Event :=
  entry (number + (source.take q.position).count Byte.lineFeed)
    (UInt32.ofNat (Location.columnAt source q.position)) q.token

variable (s : Session)

/-- A line is answered with the entries of its tokens. -/
theorem events_answer {line : Bytes} (hinner : Byte.lineFeed ∉ line.dropLast) (number : Nat) :
    Step.events (s.answer number line) = (positioned line).flatMap (entryOf number line) := by
  have htoken : ∀ p, Step.events (s.answerToken number p) = p.events ++ remarks number p := by
    intro p
    have hwrite : Step.events (s.format.write p.token) = [] := by cases s.format <;> rfl
    rw [answerToken, Step.events_append, Step.events_report, hwrite, List.append_nil]
  rw [answer, Step.events_flatMap, (Lexer.within_ofSource line).drain_eq, List.flatMap_map,
    ← positioned]
  refine List.flatMap_congr fun q hq => ?_
  have hline : Location.lineAt line q.position = 1 :=
    Location.lineAt_in_line hinner (position_lt_of_mem_positioned hq)
  have hcount : (line.take q.position).count Byte.lineFeed = 0 := by
    unfold Location.lineAt at hline
    omega
  have hlocation : Location.ofOffset line q.position =
      ⟨1, UInt32.ofNat (Location.columnAt line q.position)⟩ := by
    rw [Location.ofOffset, hline]
    rfl
  rw [htoken, Positioned.placed, hlocation, entryOf, hcount, Nat.add_zero, entry_eq]

/-- **The lines of a text are answered with the entries of its tokens.** -/
theorem events_answers : ∀ {lines : List Bytes} {source : Bytes}, IsLines source lines →
    ∀ number, Step.events (s.answers number lines) =
      (positioned source).flatMap (entryOf number source)
  | [], source, h, number => by
    rw [← h.flatten_eq, List.flatten_nil, positioned_of_blank blank_nil]
    rfl
  | line :: lines, source, h, number => by
    have hinner : Byte.lineFeed ∉ line.dropLast := h.inner line List.mem_cons_self
    have hsource : source = line ++ lines.flatten := by rw [← h.flatten_eq, List.flatten_cons]
    have hprompt : Step.events (s.answers number (line :: lines)) =
        Step.events (s.answer number line) ++ Step.events (s.answers (number + 1) lines) := by
      rw [answers, List.cons_append, ← Step.events_append]
      rfl
    rw [hprompt, s.events_answer hinner, events_answers h.tail (number + 1), hsource,
      positioned_append_of_apart h.apart, List.flatMap_append, List.flatMap_map]
    congr 1
    · -- in the first line nothing is different
      refine List.flatMap_congr fun q hq => ?_
      have hle := Nat.le_of_lt (position_lt_of_mem_positioned hq)
      rw [entryOf, entryOf, List.take_append_of_le_length hle, Location.columnAt_append_left hle]
    · -- if there is a token behind it, it has a line feed, and the rest is one line further down
      refine List.flatMap_congr fun q hq => ?_
      have hne : lines ≠ [] := by
        rintro rfl
        exact absurd (position_lt_of_mem_positioned hq) (Nat.not_lt_zero _)
      obtain ⟨body, rfl⟩ := (isFinished_iff line).mp (h.head_finished hne)
      rw [List.dropLast_concat] at hinner
      have hline := Location.lineAt_behind_line hinner lines.flatten q.position
      simp only [Location.lineAt] at hline
      simp only [entryOf, Positioned.shift, Location.columnAt_behind_line]
      congr 1
      omega

theorem events_opening : Step.events s.opening = [] := by
  unfold opening
  split <;> rfl

/-- **The log of a session is the log of the tokens of its input**, and then the end of the input. -/
theorem events_script {source : Bytes} (hshort : source.length + 1 < UInt32.size) :
    (s.script ⟨source, .endOfInput⟩).events =
      (placedTokens source).flatMap log ++ [.endOfInput (splitLines source).length] := by
  have hsteps : (s.script ⟨source, .endOfInput⟩).events =
      Step.events (s.answers 1 (splitLines source)) ++ [.endOfInput (splitLines source).length] := by
    have hscript : (s.script ⟨source, .endOfInput⟩).events =
        Step.events (s.opening ++ s.answers 1 (splitLines source) ++ [.say s.prompt] ++
          closing (splitLines source).length) := rfl
    rw [hscript, Step.events_append, Step.events_append, Step.events_append, events_opening]
    simp [Step.say, Step.events, closing]
  have hentries : (positioned source).flatMap (entryOf 1 source) =
      (placedTokens source).flatMap log := by
    obtain ⟨loc, hplaced⟩ := placedTokens_eq source
    have hend : log (Lexer.placed .eof loc) = [] := rfl
    rw [hplaced, List.flatMap_append, List.flatMap_map, List.flatMap_singleton, hend,
      List.append_nil]
    refine List.flatMap_congr fun q _ => ?_
    rw [log, Positioned.placed, Lexer.location_placed, Location.line_ofOffset hshort]
    rfl
  rw [hsteps, s.events_answers (isLines_splitLines source), hentries]

end Session

/-! ## 3. What can be read off the log -/

/-- The line, the column and the text of an illegal input, if the event reports one. -/
def Event.illegalInput? : Event → Option (Nat × Nat × Bytes)
  | .illegalInput line column text => some (line, column.toNat, text)
  | _ => none

/-- The location in an event of the lexer. -/
def Event.lexed? : Event → Option Location
  | .token _ _ loc | .illegalCharacter _ loc => some loc
  | _ => none

namespace Session

theorem entry_of_illegal {t : Token} (h : t.isIllegal = true) (number : Nat) (column : UInt32) :
    entry number column t = [.illegalCharacter t.text ⟨1, column⟩,
      .token .illegal t.text ⟨1, column⟩, .illegalInput number column t.text] :=
  if_pos h

theorem entry_of_legal {t : Token} (h : t.isIllegal = false) (number : Nat) (column : UInt32) :
    entry number column t = if t.isEof then [] else [.token t.kind t.text ⟨1, column⟩] :=
  if_neg (by simp [h])

/-- Of an illegal token the log reports an illegal input, and of no other. -/
theorem filterMap_log : ∀ ps : List Placed,
    (ps.flatMap log).filterMap Event.illegalInput? =
      (ps.filter (·.token.isIllegal)).map fun p =>
        (p.location.line.toNat, p.location.column.toNat, p.token.text)
  | [] => rfl
  | p :: ps => by
    rw [List.flatMap_cons, List.filterMap_append, filterMap_log ps, log]
    cases hillegal : p.token.isIllegal with
    | true =>
      rw [entry_of_illegal hillegal, List.filter_cons, if_pos hillegal]
      rfl
    | false =>
      have hskip : (p :: ps).filter (·.token.isIllegal) = ps.filter (·.token.isIllegal) := by
        simp [hillegal]
      rw [entry_of_legal hillegal, hskip]
      split <;> rfl

/-- In an entry an illegal input stands behind the two events of the lexer. -/
theorem front_of_entry {number line : Nat} {column c : UInt32} {t : Token} {text : Bytes}
    {before after : List Event}
    (h : entry line c t = before ++ .illegalInput number column text :: after) :
    before = [.illegalCharacter text ⟨1, column⟩, .token .illegal text ⟨1, column⟩] := by
  cases hillegal : t.isIllegal with
  | true =>
    rw [entry_of_illegal hillegal] at h
    match before with
    | [] => simp at h
    | [_] => simp at h
    | [a, b] =>
      simp only [List.cons_append, List.nil_append, List.cons.injEq, Event.illegalInput.injEq] at h
      obtain ⟨rfl, rfl, ⟨-, rfl, rfl⟩, -⟩ := h
      rfl
    | _ :: _ :: _ :: _ => simp at h
  | false =>
    rw [entry_of_legal hillegal] at h
    have hmem : Event.illegalInput number column text ∈
        if t.isEof then [] else [Event.token t.kind t.text ⟨1, c⟩] := by
      rw [h]
      simp
    split at hmem <;> simp at hmem

/-- ...and so it does in the log, whatever else follows. -/
theorem front_of_log {number : Nat} {column : UInt32} {text : Bytes} {tail after : List Event}
    (htail : ∀ e ∈ tail, e.illegalInput? = none) :
    ∀ {ps : List Placed} {before : List Event},
      ps.flatMap log ++ tail = before ++ .illegalInput number column text :: after →
        ∃ front, before = front ++
          [.illegalCharacter text ⟨1, column⟩, .token .illegal text ⟨1, column⟩]
  | [], before, h => by
    have hmem : Event.illegalInput number column text ∈ tail := by
      rw [show tail = before ++ _ from h]
      simp
    exact absurd (htail _ hmem) (by simp [Event.illegalInput?])
  | p :: ps, before, h => by
    rw [List.flatMap_cons, List.append_assoc] at h
    rcases List.append_eq_append_iff.mp h with ⟨later, rfl, hlater⟩ | ⟨rest, hentry, hrest⟩
    · obtain ⟨front, rfl⟩ := front_of_log htail hlater
      exact ⟨log p ++ front, (List.append_assoc _ _ _).symm⟩
    · cases rest with
      | nil =>
        -- the event would be the first one behind the entry
        have hnext : ps.flatMap log ++ tail =
            [] ++ .illegalInput number column text :: after := hrest.symm
        obtain ⟨front, hfront⟩ := front_of_log htail hnext
        simp at hfront
      | cons e rest =>
        obtain ⟨rfl, -⟩ := List.cons.inj hrest
        exact ⟨[], front_of_entry hentry⟩

/-- The lexer of a session reports line 1 only. -/
theorem line_of_mem_log {p : Placed} {e : Event} (he : e ∈ log p) {loc : Location}
    (hloc : e.lexed? = some loc) : loc.line = 1 := by
  cases hillegal : p.token.isIllegal with
  | true =>
    rw [log, entry_of_illegal hillegal] at he
    simp only [List.mem_cons, List.not_mem_nil, or_false] at he
    rcases he with rfl | rfl | rfl
    · obtain rfl := Option.some.inj hloc
      rfl
    · obtain rfl := Option.some.inj hloc
      rfl
    · exact absurd hloc (by simp [Event.lexed?])
  | false =>
    rw [log, entry_of_legal hillegal] at he
    split at he
    · exact absurd he List.not_mem_nil
    · obtain rfl := List.mem_singleton.mp he
      obtain rfl := Option.some.inj hloc
      rfl

end Session

/-- **The reports of a session point at the same places as one run over its whole input.**  Its log is
that of the tokens of the whole input, each at its place there.  So the illegal inputs it reports are
the illegal tokens of that run with their lines and columns; each is reported directly behind the
lexer's two events, which have the column of it and line 1; and at the end the lines are counted, the
last one also if it has no line feed. -/
theorem session_log (s : Session) (source : Bytes) (hshort : source.length + 1 < UInt32.size) :
    let events := ((s.script ⟨source, .endOfInput⟩).deliver .unlimited).events
    let last := Event.endOfInput (source.count Byte.lineFeed +
      if source ≠ [] ∧ isFinished source = false then 1 else 0)
    events = (placedTokens source).flatMap Session.log ++ [last] ∧
      events.filterMap Event.illegalInput? =
        ((placedTokens source).filter (·.token.isIllegal)).map (fun p =>
          (p.location.line.toNat, p.location.column.toNat, p.token.text)) ∧
      (∀ before number column text after,
        events = before ++ .illegalInput number column text :: after →
        ∃ front, before = front ++
          [.illegalCharacter text ⟨1, column⟩, .token .illegal text ⟨1, column⟩]) ∧
      (∀ e ∈ events, ∀ loc, e.lexed? = some loc → loc.line = 1) := by
  intro events last
  have hevents : events = (placedTokens source).flatMap Session.log ++ [last] := by
    have hscript := s.events_script hshort
    rw [length_splitLines] at hscript
    exact hscript
  refine ⟨hevents, ?_, ?_, ?_⟩
  · rw [hevents, List.filterMap_append, Session.filterMap_log]
    exact List.append_nil _
  · intro before number column text after h
    have hlast : ∀ e ∈ [last], e.illegalInput? = none := by simp [last, Event.illegalInput?]
    exact Session.front_of_log hlast (hevents.symm.trans h)
  · intro e he loc hloc
    rw [hevents] at he
    rcases List.mem_append.mp he with he | he
    · obtain ⟨p, -, hp⟩ := List.mem_flatMap.mp he
      exact Session.line_of_mem_log hp hloc
    · obtain rfl := List.mem_singleton.mp he
      exact absurd hloc (by simp [Event.lexed?, last])

/-- On the second of two lines, in column 3 of it: the `#` of ` a` and, below it, ` b#`.  The lexer's
events have line 1. -/
theorem session_log_number_sign :
    let s : Session := ⟨">> ", true, "there", .text⟩
    let source : Bytes := [32, 97, 10, 32, 98, 35]
    let events := ((s.script ⟨source, .endOfInput⟩).deliver .unlimited).events
    source.length + 1 < UInt32.size ∧
      events.filterMap Event.illegalInput? = [(2, 3, [35])] ∧
      events = [.token .ident [97] ⟨1, 2⟩, .token .ident [98] ⟨1, 2⟩,
        .illegalCharacter [35] ⟨1, 3⟩, .token .illegal [35] ⟨1, 3⟩, .illegalInput 2 3 [35],
        .endOfInput 2] := by
  intro s source events
  have hshort : source.length + 1 < UInt32.size := by decide
  obtain ⟨hevents, hillegal, -⟩ := session_log s source hshort
  exact ⟨hshort, hillegal.trans (by decide +kernel), hevents.trans (by decide +kernel)⟩

end MonkeyTokens
