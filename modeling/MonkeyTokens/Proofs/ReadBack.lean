/-
# Dumps are read back

What a dump writes tells its tokens, in both formats.  `Format.readRecords?` is the reader: it cuts the
bytes behind every line feed, reads each line as UTF-8, and the characters as one record.  In JSON a
record is an object, read as any other (`Text.jsonMembers?`).  In text it has no escapes: the kind is
what stands before the first blank, and the literal is all that is left between the words in front of
it and the closing brace, braces and blanks included.  No kind has a blank in its name, so that is the
only way to read it (`Format.read?_record`).

Records are kept apart by line feeds, so none may be inside one.  JSON escapes them.  Text does not,
and a token whose text had one would break its record; but a line feed is a blank, and blanks are in
no token that a lexer yields (`lineFeed_not_mem_of_tokenize`).  So two sources have the same dump
exactly if they have the same tokens (`dump_read_back`).
-/
import MonkeyTokens.Proofs.Characters
import MonkeyTokens.Proofs.Grammar
import MonkeyTokens.Proofs.JsonReading
import MonkeyTokens.Proofs.Transcript

namespace MonkeyTokens

/-! ## 1. One record -/

namespace Format

/-- The token of a record in text. -/
def readText? (cs : List Char) : Option Token := do
  let rest ← "\x7bType:".toList.isPrefixOf? cs
  let kind ← Kind.ofName? (String.ofList (rest.takeWhile (· ≠ ' ')))
  let rest ← " Literal:".toList.isPrefixOf? (rest.dropWhile (· ≠ ' '))
  let literal ← "\x7d".toList.isSuffixOf? rest
  let text ← Text.latin1Bytes? literal
  return ⟨kind, text⟩

/-- The token of a record in JSON: an object with a kind and a literal, in either order. -/
def readJson? (cs : List Char) : Option Token := do
  let members ← Text.jsonMembers? cs
  let name ← members.lookup "type".toList
  let kind ← Kind.ofName? (String.ofList name)
  let literal ← members.lookup "literal".toList
  let text ← Text.latin1Bytes? literal
  return ⟨kind, text⟩

/-- The token of a record. -/
def read? : Format → List Char → Option Token
  | .text => readText?
  | .json => readJson?

theorem blank_not_mem_name (k : Kind) : ' ' ∉ k.name.toList := by
  cases k <;> decide

/-- A record in text, and what is in front of the literal and behind it. -/
theorem record_text (t : Token) : Format.text.record t = "\x7bType:".toList ++
    (t.kind.name.toList ++ (" Literal:".toList ++ (Text.latin1 t.text ++ "\x7d".toList))) := by
  have hparts : Format.text.record t = "\x7bType:".toList ++ t.kind.name.toList ++
      " Literal:".toList ++ Text.latin1 t.text ++ "\x7d".toList := rfl
  rw [hparts]
  simp only [List.append_assoc]

theorem readText?_record (t : Token) : readText? (Format.text.record t) = some t := by
  have hname : ∀ c ∈ t.kind.name.toList, decide (c ≠ ' ') = true := by
    intro c hc
    refine decide_eq_true ?_
    rintro rfl
    exact blank_not_mem_name t.kind hc
  -- the reader takes the record apart from the left, and only the end from the right
  have hfront : ∀ front rest : List Char, front.isPrefixOf? (front ++ rest) = some rest :=
    fun front rest => List.isPrefixOf?_eq_some_iff_append_eq.mpr rfl
  have hback : ∀ front back : List Char, back.isSuffixOf? (front ++ back) = some front :=
    fun front back => List.isSuffixOf?_eq_some_iff_append_eq.mpr rfl
  have hblank : ∀ rest : List Char, (" Literal:".toList ++ rest).takeWhile (· ≠ ' ') = [] ∧
      (" Literal:".toList ++ rest).dropWhile (· ≠ ' ') = " Literal:".toList ++ rest :=
    fun rest => ⟨rfl, rfl⟩
  rw [readText?, record_text, hfront, Option.bind_eq_bind, Option.bind_some,
    List.takeWhile_append_of_pos hname, List.dropWhile_append_of_pos hname, (hblank _).1,
    (hblank _).2, List.append_nil, String.ofList_toList, Kind.ofName?_name]
  simp only [Option.bind_eq_bind, Option.bind_some, hfront, hback, Text.latin1Bytes?_latin1]
  rfl

/-- A record in JSON is an object of two members. -/
theorem record_json (t : Token) : Format.json.record t = '\x7b' ::
    (Text.jsonMember "type".toList t.kind.name.toList ++ ',' ::
      (Text.jsonMember "literal".toList (Text.latin1 t.text) ++ ['\x7d'])) := by
  have htype : "\x7b\"type\":".toList = '\x7b' :: (Text.jsonString "type".toList ++ [':']) := by
    decide
  have hliteral : ",\"literal\":".toList = ',' :: (Text.jsonString "literal".toList ++ [':']) := by
    decide
  have hparts : Format.json.record t = "\x7b\"type\":".toList ++
      Text.jsonString t.kind.name.toList ++ ",\"literal\":".toList ++
      Text.jsonString (Text.latin1 t.text) ++ "\x7d".toList := rfl
  rw [hparts, htype, hliteral]
  simp only [Text.jsonMember, List.append_assoc, List.cons_append, List.nil_append]
  rfl

theorem readJson?_record (t : Token) : readJson? (Format.json.record t) = some t := by
  have hlookup : ∀ name literal : List Char,
      [("type".toList, name), ("literal".toList, literal)].lookup "type".toList = some name ∧
      [("type".toList, name), ("literal".toList, literal)].lookup "literal".toList =
        some literal :=
    fun name literal => ⟨rfl, rfl⟩
  rw [readJson?, record_json, Text.jsonMembers?_of_members]
  simp only [Option.bind_eq_bind, Option.bind_some, hlookup, String.ofList_toList,
    Kind.ofName?_name, Text.latin1Bytes?_latin1]
  rfl

/-- **A record tells its token**, whatever the token is. -/
theorem read?_record : ∀ (format : Format) (t : Token), format.read? (format.record t) = some t
  | .text, t => readText?_record t
  | .json, t => readJson?_record t

end Format

/-! ## 2. One record a line -/

/-- A text of which every part is finished, and by one line feed only, has these parts as its
lines. -/
theorem splitLines_flatMap {α : Type} {body : α → Bytes} : ∀ {xs : List α},
    (∀ x ∈ xs, Byte.lineFeed ∉ body x) →
    splitLines (xs.flatMap fun x => body x ++ [Byte.lineFeed]) =
      xs.map fun x => body x ++ [Byte.lineFeed]
  | [], _ => rfl
  | x :: xs, h => by
    have ih := splitLines_flatMap fun y hy => h y (List.mem_cons_of_mem x hy)
    rw [List.flatMap_cons, List.append_assoc, List.singleton_append,
      splitLines_append_lineFeed _ (h x List.mem_cons_self), ih, List.map_cons]

theorem lineFeed_not_mem_utf8 {cs : List Char} (h : '\n' ∉ cs) : Byte.lineFeed ∉ Text.utf8 cs := by
  intro hmem
  obtain ⟨c, hc, hvalue⟩ := Text.mem_utf8_of_lt (by decide) hmem
  obtain rfl : c = '\n' := Char.toNat_inj.mp hvalue
  exact h hc

namespace Format

/-- The token of a line: the line is finished, and what is in front of its end is a record. -/
def readRecord? (format : Format) (line : Bytes) : Option Token :=
  if isFinished line then (Text.utf8? line.dropLast).bind fun s => format.read? s.toList else none

/-- The tokens of a dump, one a line. -/
def readRecords? (format : Format) (bytes : Bytes) : Option (List Token) :=
  (splitLines bytes).mapM format.readRecord?

theorem recordLine_eq (format : Format) (t : Token) :
    format.recordLine t = Text.utf8 (format.record t) ++ [Byte.lineFeed] :=
  Text.utf8_append _ _

theorem readRecord?_recordLine (format : Format) (t : Token) :
    format.readRecord? (format.recordLine t) = some t := by
  rw [recordLine_eq, readRecord?, if_pos ((isFinished_iff _).mpr ⟨_, rfl⟩), List.dropLast_concat,
    Text.utf8?_utf8, Option.bind_some, String.toList_ofList, read?_record]

/-- **Records without a line feed are read back**, each from its line. -/
theorem readRecords?_flatMap {format : Format} {ts : List Token}
    (h : ∀ t ∈ ts, '\n' ∉ format.record t) :
    format.readRecords? (ts.flatMap format.recordLine) = some ts := by
  have hlines : splitLines (ts.flatMap format.recordLine) = ts.map format.recordLine := by
    rw [funext format.recordLine_eq]
    exact splitLines_flatMap fun t ht => lineFeed_not_mem_utf8 (h t ht)
  rw [readRecords?, hlines]
  exact Text.mapM_map_eq_some fun t _ => readRecord?_recordLine format t

/-! ## 3. What is in a record -/

/-- A record in JSON shows no character below the space, whatever the token is. -/
theorem le_toNat_of_mem_json {t : Token} {d : Char} (h : d ∈ Format.json.record t) :
    32 ≤ d.toNat := by
  have hmarks : ∀ d ∈ ['\x7b', ':', ',', '\x7d'], 32 ≤ d.toNat := by simp
  have hmember : ∀ key value : List Char, ∀ d ∈ Text.jsonMember key value, 32 ≤ d.toNat := by
    intro key value d hd
    rw [Text.jsonMember, List.mem_append, List.mem_cons] at hd
    rcases hd with hd | rfl | hd
    · exact Text.le_toNat_of_mem_jsonString hd
    · exact hmarks _ (by simp)
    · exact Text.le_toNat_of_mem_jsonString hd
  rw [record_json, List.mem_cons, List.mem_append, List.mem_cons, List.mem_append,
    List.mem_singleton] at h
  rcases h with rfl | h | rfl | h | rfl
  · exact hmarks _ (by simp)
  · exact hmember _ _ d h
  · exact hmarks _ (by simp)
  · exact hmember _ _ d h
  · exact hmarks _ (by simp)

/-- The same of its bytes: what is not one of the characters below 128 has no byte below 128. -/
theorem le_of_mem_json {t : Token} {b : UInt8} (h : b ∈ Text.utf8 (Format.json.record t)) :
    32 ≤ b := by
  by_contra hb
  have hlt : b.toNat < 32 := UInt8.lt_iff_toNat_lt.mp (UInt8.not_le.mp hb)
  have hascii : b < 128 := UInt8.lt_iff_toNat_lt.mpr (Nat.lt_trans hlt (by decide))
  obtain ⟨c, hc, hvalue⟩ := Text.mem_utf8_of_lt hascii h
  have hle := le_toNat_of_mem_json hc
  omega

theorem lineFeed_not_mem_json (t : Token) : '\n' ∉ Format.json.record t :=
  fun hmem => absurd (le_toNat_of_mem_json hmem) (by decide)

/-- A record in text has the line feeds of its token only. -/
theorem lineFeed_not_mem_text {t : Token} (h : Byte.lineFeed ∉ t.text) :
    '\n' ∉ Format.text.record t := by
  have hname : '\n' ∉ t.kind.name.toList := by
    cases t.kind <;> decide
  have hliteral : '\n' ∉ Text.latin1 t.text := by
    intro hmem
    obtain ⟨b, hb, hchar⟩ := List.mem_map.mp hmem
    obtain rfl : b = Byte.lineFeed := UInt8.toNat_inj.mp (congrArg Char.toNat hchar)
    exact h hb
  rw [record_text]
  simp only [List.mem_append, not_or]
  exact ⟨by decide, hname, by decide, hliteral, by decide⟩

theorem lineFeed_not_mem_record {t : Token} (h : Byte.lineFeed ∉ t.text) :
    ∀ format : Format, '\n' ∉ format.record t
  | .text => lineFeed_not_mem_text h
  | .json => lineFeed_not_mem_json t

end Format

/-! ## 4. Dumps -/

/-- No token that a lexer yields has a line feed in it: a line feed is a blank. -/
theorem lineFeed_not_mem_of_tokenize {source : Bytes} {t : Token} (h : t ∈ tokenize source) :
    Byte.lineFeed ∉ t.text := by
  rw [tokenize_eq_tokens, List.mem_append, List.mem_singleton] at h
  rcases h with h | rfl
  · obtain ⟨sp⟩ := exists_spelling source
    intro hmem
    have hblank := (sp.wellFormed t h).not_blank Byte.lineFeed hmem
    exact absurd hblank (by decide)
  · exact List.not_mem_nil

theorem Format.output_flatMap_write (format : Format) (ts : List Token) :
    Step.output (ts.flatMap format.write) = ts.flatMap format.recordLine := by
  rw [Step.output_flatMap, funext format.output_write]

/-- A dump writes the records of its tokens. -/
theorem written_dump (format : Format) (denyIllegal : Bool) (source : Bytes) :
    ((dump format denyIllegal source).deliver .unlimited).written =
      (tokenize source).flatMap format.recordLine := by
  have hwritten : ((dump format denyIllegal source).deliver .unlimited).written =
      (dump format denyIllegal source).output := rfl
  rw [hwritten, output_dump, tokenize_eq_tokens, List.flatMap_append, List.flatMap_singleton]

/-- A dump is read back to its tokens. -/
theorem readRecords?_dump (format : Format) (source : Bytes) :
    format.readRecords? ((tokenize source).flatMap format.recordLine) = some (tokenize source) :=
  Format.readRecords?_flatMap fun _ ht =>
    Format.lineFeed_not_mem_record (lineFeed_not_mem_of_tokenize ht) format

/-- **A dump loses nothing.**  JSON takes every list of tokens there and back: what is written is
UTF-8, every record is a line of its own without any byte below the space in front of its end, and
reading gives the list again.  Text does the same for tokens without a line feed, and no lexer yields
another one.  So the dumps of two sources are equal exactly if the tokens are, denied or not. -/
theorem dump_read_back :
    (∀ ts : List Token,
      (Text.utf8? (Step.output (ts.flatMap Format.json.write))).isSome ∧
      (∃ object : Token → Bytes, (∀ t, ∀ b ∈ object t, 32 ≤ b) ∧
        Step.output (ts.flatMap Format.json.write) =
          ts.flatMap fun t => object t ++ [Byte.lineFeed]) ∧
      Format.json.readRecords? (Step.output (ts.flatMap Format.json.write)) = some ts) ∧
    (∀ ts : List Token, (∀ t ∈ ts, Byte.lineFeed ∉ t.text) →
      Format.text.readRecords? (Step.output (ts.flatMap Format.text.write)) = some ts) ∧
    (∀ source : Bytes, ∀ t ∈ tokenize source, Byte.lineFeed ∉ t.text) ∧
    ∀ (format : Format) (denyIllegal₁ denyIllegal₂ : Bool) (source₁ source₂ : Bytes),
      ((dump format denyIllegal₁ source₁).deliver .unlimited).written =
          ((dump format denyIllegal₂ source₂).deliver .unlimited).written ↔
        tokenize source₁ = tokenize source₂ := by
  refine ⟨fun ts => ⟨?_, ?_, ?_⟩, fun ts h => ?_, fun _ _ => lineFeed_not_mem_of_tokenize, ?_⟩
  · -- the records together are the UTF-8 of their characters together
    have hutf8 : Step.output (ts.flatMap Format.json.write) =
        Text.utf8 (ts.flatMap fun t => Format.json.record t ++ ['\n']) := by
      rw [Format.output_flatMap_write, Text.utf8, List.flatMap_assoc]
      rfl
    rw [hutf8, Text.utf8?_utf8]
    rfl
  · refine ⟨fun t => Text.utf8 (Format.json.record t), fun t b => Format.le_of_mem_json, ?_⟩
    rw [Format.output_flatMap_write, funext Format.json.recordLine_eq]
  · rw [Format.output_flatMap_write]
    exact Format.readRecords?_flatMap fun t _ => Format.lineFeed_not_mem_json t
  · rw [Format.output_flatMap_write]
    exact Format.readRecords?_flatMap fun t ht => Format.lineFeed_not_mem_text (h t ht)
  · intro format denyIllegal₁ denyIllegal₂ source₁ source₂
    rw [written_dump, written_dump]
    constructor
    · intro hwritten
      refine Option.some.inj ?_
      rw [← readRecords?_dump format source₁, hwritten, readRecords?_dump format source₂]
    · intro htokens
      rw [htokens]

/-- Literals that look like the end of a record, and a token with bytes that JSON escapes in each of
its ways. -/
theorem dump_read_back_marks :
    let braces : List Token := [⟨.rbrace, [125]⟩, ⟨.illegal, [125, 32, 76, 125]⟩]
    let escaped : List Token := [⟨.illegal, [10, 34, 92, 0, 195]⟩]
    Step.output (braces.flatMap Format.text.write) =
        Text.utf8String "\x7bType:\x7d Literal:\x7d\x7d\n\x7bType:ILLEGAL Literal:\x7d L\x7d\x7d\n" ∧
      (∀ t ∈ braces, Byte.lineFeed ∉ t.text) ∧
      Format.text.readRecords? (Step.output (braces.flatMap Format.text.write)) = some braces ∧
      Step.output (escaped.flatMap Format.json.write) = Text.utf8String
        "\x7b\"type\":\"ILLEGAL\",\"literal\":\"\\n\\\"\\\\\\u0000Ã\"\x7d\n" ∧
      Format.json.readRecords? (Step.output (escaped.flatMap Format.json.write)) = some escaped := by
  intro braces escaped
  have hbraces : ∀ t ∈ braces, Byte.lineFeed ∉ t.text := by decide
  exact ⟨by decide +kernel, hbraces, dump_read_back.2.1 braces hbraces, by decide +kernel,
    (dump_read_back.1 escaped).2.2⟩

end MonkeyTokens
