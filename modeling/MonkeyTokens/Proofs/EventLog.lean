/-
# What a scan and a dump report

An event reaches a listener as a `Notice`: its severity, its message and its fields by their names.
The notices of a source are said here by its tokens and the offsets where they start (`noticesOf`): an
illegal byte as such, then every token as a token, each with its text and with the line and the column
that are counted in the source up to that offset.

The lexer reports a token when it has already passed it.  That its report still has the place where
the token starts is kept by its runs (`placedTokens_eq`), that this place is the one of the token in
the source is `exists_of_positioned_eq`, and that its counters have not wrapped is
`Location.line_ofOffset`; so the events of one token are its notices (`map_notice_events`), and those
of a source follow token by token (`map_notice_tokenEvents`).

A listener at a level hears the notices that are as severe as that or more so, in their order
(`Logged`).
-/
import MonkeyTokens.Event.Filter
import MonkeyTokens.Proofs.FullSink
import MonkeyTokens.Proofs.IllegalBytes
import MonkeyTokens.Proofs.Placement

namespace MonkeyTokens

/-! ## 1. Notices -/

/-- What a listener is told of an event. -/
structure Notice where
  level : Level
  message : String
  fields : List (String × FieldValue)
  deriving DecidableEq

/-- The notice of an event. -/
def Event.notice (e : Event) : Notice :=
  ⟨e.level, e.message, e.fields⟩

/-- The notices of a token at its offset in a source. -/
def noticesAt (source : Bytes) (q : Positioned) : List Notice :=
  let text : String × FieldValue := ("text", .text (Text.latin1String q.token.text))
  let line : String × FieldValue := ("line", .number (Location.lineAt source q.position))
  let column : String × FieldValue := ("column", .number (Location.columnAt source q.position))
  let token : Notice :=
    ⟨.trace, "token", [("kind", .text q.token.kind.name), text, line, column]⟩
  if q.token.kind = .illegal then [⟨.debug, "illegal character", [text, line, column]⟩, token]
  else [token]

/-- The notices of the tokens of a source; the end token has none. -/
def noticesOf (source : Bytes) : List Notice :=
  (positioned source).flatMap (noticesAt source)

/-- The notice with the counts of a dump: all tokens, the end token included, and the illegal ones. -/
def countsNotice (source : Bytes) : Notice :=
  ⟨.info, "tokenized source", [("tokens", .number (tokenize source).length),
    ("illegal", .number ((tokenize source).countP (·.kind = .illegal)))]⟩

/-- The tokens of a source are no more severe than `debug`. -/
theorem level_of_mem_noticesOf {source : Bytes} {n : Notice} (h : n ∈ noticesOf source) :
    n.level = .debug ∨ n.level = .trace := by
  obtain ⟨q, -, hn⟩ := List.mem_flatMap.mp h
  unfold noticesAt at hn
  split at hn
  · rcases List.mem_cons.mp hn with rfl | hn
    · exact .inl rfl
    · rw [List.mem_singleton.mp hn]
      exact .inr rfl
  · rw [List.mem_singleton.mp hn]
    exact .inr rfl

/-! ## 2. Events as notices -/

section

variable {source : Bytes} (hshort : source.length + 1 < UInt32.size)

include hshort

/-- **What the lexer reports of a token are the notices of the token at its offset.** -/
theorem map_notice_events {q : Positioned} (hq : q.token.WellFormed) :
    (q.placed source).events.map Event.notice = noticesAt source q := by
  have hline := Location.line_ofOffset hshort q.position
  have hcolumn := Location.column_ofOffset hshort q.position
  rw [Positioned.placed, Lexer.events_placed, Lexer.reports, hq.isEof_eq_false, noticesAt, ← hline,
    ← hcolumn]
  by_cases hkind : q.token.kind = .illegal
  · have hillegal : q.token.isIllegal = true := decide_eq_true hkind
    rw [hillegal, if_pos hkind]
    rfl
  · have hillegal : q.token.isIllegal = false := decide_eq_false hkind
    rw [hillegal, if_neg hkind]
    rfl

/-- So the lexer reports the notices of its source. -/
theorem map_notice_tokenEvents : (tokenEvents source).map Event.notice = noticesOf source := by
  obtain ⟨loc, hplaced⟩ := placedTokens_eq source
  have hend : (Lexer.placed .eof loc).events = [] := rfl
  rw [tokenEvents, hplaced, List.flatMap_append, List.flatMap_singleton, hend, List.append_nil,
    List.flatMap_map, List.map_flatMap, noticesOf]
  refine List.flatMap_congr fun q hq => ?_
  exact map_notice_events hshort (exists_of_mem_positioned hq).1

/-- A dump reports them as well, and the counts behind them. -/
theorem map_notice_events_dump (format : Format) (denyIllegal : Bool) :
    (dump format denyIllegal source).events.map Event.notice =
      noticesOf source ++ [countsNotice source] := by
  rw [events_dump, summary_placedTokens, List.map_append, map_notice_tokenEvents hshort]
  rfl

end

/-! ## 3. Listeners -/

/-- A run logs notices: they are its events, one by one, and a listener at a level hears those of that
level and of the more severe ones. -/
structure Logged (notices : List Notice) (events : List Event) : Prop where
  all : events.map Event.notice = notices
  heard : ∀ level : Level, (level.heard events).map Event.notice =
    notices.filter fun n => n.level.rank ≤ level.rank
  /-- The filter of that level lets the same events pass. -/
  passed : ∀ level : Level, events.filter (Filter.upTo level).admits = level.heard events

theorem logged_of_eq {notices : List Notice} {events : List Event}
    (h : events.map Event.notice = notices) : Logged notices events where
  all := h
  heard := by
    intro level
    rw [← h, List.filter_map]
    rfl
  passed := by
    intro level
    unfold Level.heard
    exact List.filter_congr fun e _ => Filter.admits_upTo level e

/-- **The log is a transcript of the source.**  The tokens of a source stand in it one behind the
other.  A scan logs, for each of them at its place, that it is illegal if it is, and directly behind
that the token; a dump logs the same and then the counts, whether or not it denies illegal bytes, and
nothing else in its log is as severe as that.  A listener at any level hears its part of it. -/
theorem log_of_source (source : Bytes) (hshort : source.length + 1 < UInt32.size) :
    ((positioned source).map (·.token) ++ [.eof] = tokenize source ∧
      ∀ before q after, positioned source = before ++ q :: after →
        ∃ front rest, source = front ++ (q.token.text ++ rest) ∧ front.length = q.position ∧
          tokens front = before.map (·.token) ∧ tokens rest = after.map (·.token)) ∧
    Logged (noticesOf source) (tokenEvents source) ∧
    (∀ (format : Format) (denyIllegal : Bool),
      Logged (noticesOf source ++ [countsNotice source])
        ((dump format denyIllegal source).deliver .unlimited).events) ∧
    ∀ n ∈ noticesOf source, n.level = .debug ∨ n.level = .trace := by
  refine ⟨⟨?_, ?_⟩, ?_, ?_, ?_⟩
  · rw [token_positioned, ← tokenize_eq_tokens]
  · intro before q after h
    exact exists_of_positioned_eq h
  · exact logged_of_eq (map_notice_tokenEvents hshort)
  · intro format denyIllegal
    exact logged_of_eq (map_notice_events_dump hshort format denyIllegal)
  · intro n hn
    exact level_of_mem_noticesOf hn

/-- Of `a` and, below it, ` @`, a dump that denies illegal bytes logs the word, the illegal byte on line
2 in column 2, the same as a token, and the counts.  At `debug` the two tokens are not heard. -/
theorem log_of_source_at_sign :
    let source : Bytes := [97, 10, 32, 64]
    let events := ((dump .json true source).deliver .unlimited).events
    let place : List (String × FieldValue) := [("line", .number 2), ("column", .number 2)]
    let illegal : Notice := ⟨.debug, "illegal character", ("text", .text "@") :: place⟩
    let counts : Notice :=
      ⟨.info, "tokenized source", [("tokens", .number 3), ("illegal", .number 1)]⟩
    source.length + 1 < UInt32.size ∧
      events.map Event.notice =
        [⟨.trace, "token", [("kind", .text "IDENT"), ("text", .text "a"), ("line", .number 1),
          ("column", .number 1)]⟩, illegal,
          ⟨.trace, "token", ("kind", .text "ILLEGAL") :: ("text", .text "@") :: place⟩, counts] ∧
      (Level.debug.heard events).map Event.notice = [illegal, counts] := by
  intro source events place illegal counts
  have hshort : source.length + 1 < UInt32.size := by decide
  have hlog := (log_of_source source hshort).2.2.1 .json true
  exact ⟨hshort, hlog.all.trans (by decide +kernel), (hlog.heard .debug).trans (by decide +kernel)⟩

end MonkeyTokens
