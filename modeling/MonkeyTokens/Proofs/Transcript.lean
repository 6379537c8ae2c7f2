/-
# What dumps and sessions write

A dump runs one lexer over a source, a session a fresh one over every line of it.  On a sink that
takes everything they write the same records: the output of a session is the dump of its input with
the prompts put in at the lines, the banner in front and without the record of the end token
(`session_eq_dump`).

Only output is compared here.  The steps of both commands report events as well, which write nothing,
so first the output of each kind of step is said (section 1), then that of the two commands over the
tokens of a text (sections 2 and 3).  What joins them is that the tokens of a text are those of its
lines (`tokens_eq_flatMap_lines`).

`Greeted` says whom the banner names, apart from the way in which `greetedName` searches.
-/
import MonkeyTokens.Dump
import MonkeyTokens.Proofs.Lines

namespace MonkeyTokens

/-! ## 1. Steps -/

namespace Step

theorem output_append : ∀ steps more : List Step,
    output (steps ++ more) = output steps ++ output more
  | [], more => rfl
  | .write _ bytes :: rest, more => by
    rw [List.cons_append, output, output, output_append rest more, List.append_assoc]
  | .report _ :: rest, more => by
    rw [List.cons_append, output, output, output_append rest more]

theorem output_report : ∀ events : List Event, output (events.map .report) = []
  | [] => rfl
  | _ :: events => by rw [List.map_cons, output, output_report events]

theorem output_flatMap {α : Type} (f : α → List Step) : ∀ xs : List α,
    output (xs.flatMap f) = xs.flatMap fun x => output (f x)
  | [] => rfl
  | x :: xs => by rw [List.flatMap_cons, List.flatMap_cons, output_append, output_flatMap f xs]

theorem output_say (text : String) : output [say text] = Text.utf8String text :=
  List.append_nil _

end Step

/-- The record of a token with the line feed behind it. -/
def Format.recordLine (format : Format) (t : Token) : Bytes :=
  Text.utf8 (format.record t ++ ['\n'])

/-- The object and its line feed are two pieces in one format and one piece in the other, and the
same bytes in both. -/
theorem Format.output_write (format : Format) (t : Token) :
    Step.output (format.write t) = format.recordLine t := by
  cases format with
  | text => exact List.append_nil _
  | json =>
    rw [Format.recordLine, Text.utf8_append]
    simp only [Format.write, Step.output, List.append_nil]

/-! ## 2. Dumps -/

theorem Placed.output_steps (format : Format) (p : Placed) :
    Step.output (p.steps format) = format.recordLine p.token := by
  rw [Placed.steps, Step.output_append, Step.output_report, List.nil_append, format.output_write]

/-- A dump writes the records of all tokens, that of the end token last. -/
theorem output_dump (format : Format) (denyIllegal : Bool) (source : Bytes) :
    (dump format denyIllegal source).output =
      (tokens source).flatMap format.recordLine ++ format.recordLine .eof := by
  have hsteps : (dump format denyIllegal source).output =
      (tokenize source).flatMap format.recordLine := by
    rw [Script.output, dump, Step.output_append, Step.output_flatMap, tokenize, List.flatMap_map]
    simp only [Placed.output_steps]
    exact List.append_nil _
  rw [hsteps, tokenize_eq_tokens, List.flatMap_append]
  simp

/-! ## 3. Sessions -/

namespace Session

variable (s : Session)

theorem output_answerToken (number : Nat) (p : Placed) :
    Step.output (s.answerToken number p) = s.format.recordLine p.token := by
  rw [answerToken, Step.output_append, Step.output_report, List.nil_append, s.format.output_write]

/-- A line is answered with the records of its tokens. -/
theorem output_answer (number : Nat) (line : Bytes) :
    Step.output (s.answer number line) = (tokens line).flatMap s.format.recordLine := by
  rw [answer, Step.output_flatMap, tokens_eq_rest, Lexer.rest, List.flatMap_map]
  simp only [output_answerToken]

theorem output_answers : ∀ (number : Nat) (lines : List Bytes),
    Step.output (s.answers number lines) = lines.flatMap fun line =>
      Text.utf8String s.prompt ++ (tokens line).flatMap s.format.recordLine
  | _, [] => rfl
  | number, line :: lines => by
    have hprompt : answers s number (line :: lines) =
        [.say s.prompt] ++ (s.answer number line ++ s.answers (number + 1) lines) := rfl
    rw [hprompt, Step.output_append, Step.output_say, Step.output_append, output_answer,
      output_answers (number + 1) lines, List.flatMap_cons, List.append_assoc]

/-- The bytes of the banner. -/
def bannerText (user : String) : Bytes :=
  Text.utf8String ("Hello " ++ user ++ "! This is the Monkey programming language!\n") ++
    Text.utf8String "Feel free to type in commands\n"

theorem output_opening :
    Step.output s.opening = if s.greeting then bannerText s.user else [] := by
  unfold opening
  split
  · have htwo : ∀ a b : Step, ([a, b] : List Step) = [a] ++ [b] := fun _ _ => rfl
    rw [htwo, Step.output_append, Step.output_say, Step.output_say]
    rfl
  · rfl

/-- What a session writes on an input: the banner, if there is one, for every line the prompt and the
records of its tokens, and a last prompt, behind which a line feed stands if the input ends. -/
def transcript (input : Input) : Bytes :=
  (if s.greeting then bannerText s.user else []) ++
    (input.lines.flatMap fun line =>
      Text.utf8String s.prompt ++ (tokens line).flatMap s.format.recordLine) ++
    Text.utf8String s.prompt ++
    match input.ending with
    | .endOfInput => Text.utf8String "\n"
    | .broken _ => []

theorem output_script_eq_transcript (input : Input) :
    (s.script input).output = s.transcript input := by
  have hclosing : ∀ lines, Step.output (closing lines) = Text.utf8String "\n" := by
    intro lines
    exact List.append_nil _
  have hsteps : Step.output (s.opening ++ s.answers 1 input.lines ++ [.say s.prompt]) =
      (if s.greeting then bannerText s.user else []) ++
        (input.lines.flatMap fun line =>
          Text.utf8String s.prompt ++ (tokens line).flatMap s.format.recordLine) ++
        Text.utf8String s.prompt := by
    rw [Step.output_append, Step.output_append, Step.output_say, output_answers, output_opening]
  rw [Script.output, script, transcript]
  cases input.ending with
  | endOfInput => rw [Step.output_append, hsteps, hclosing]
  | broken fault => rw [hsteps, List.append_nil]

/-- The output of a session whose input ends. -/
theorem output_script (source : Bytes) :
    (s.script ⟨source, .endOfInput⟩).output =
      (if s.greeting then bannerText s.user else []) ++
        ((splitLines source).flatMap fun line =>
          Text.utf8String s.prompt ++ (tokens line).flatMap s.format.recordLine) ++
        Text.utf8String s.prompt ++ Text.utf8String "\n" :=
  output_script_eq_transcript s ⟨source, .endOfInput⟩

end Session

/-! ## 4. Whom the banner names -/

/-- The name in the banner: the user's if it is set and not blank, else the other one if that is, and
a general address if neither is. -/
inductive Greeted (user userName : Option String) : String → Prop where
  | user {name : String} (set : user = some name) (visible : Text.isBlank name = false) :
      Greeted user userName name
  | userName {name : String} (set : userName = some name) (visible : Text.isBlank name = false)
      (before : ∀ other ∈ user, Text.isBlank other = true) : Greeted user userName name
  | nobody (first : ∀ name ∈ user, Text.isBlank name = true)
      (second : ∀ name ∈ userName, Text.isBlank name = true) : Greeted user userName "there"

theorem greeted_greetedName (user userName : Option String) :
    Greeted user userName (greetedName user userName) := by
  -- of two names that are not blank the second is looked at only where the first is absent or blank
  have hsecond : (∀ name ∈ user, Text.isBlank name = true) →
      greetedName user userName = greetedName none userName := by
    intro hblank
    cases user with
    | none => rfl
    | some name => simp [greetedName, hblank name rfl]
  by_cases huser : ∀ name ∈ user, Text.isBlank name = true
  · rw [hsecond huser]
    by_cases hother : ∀ name ∈ userName, Text.isBlank name = true
    · have hthere : greetedName none userName = "there" := by
        cases userName with
        | none => rfl
        | some name => simp [greetedName, hother name rfl]
      rw [hthere]
      exact .nobody huser hother
    · push Not at hother
      obtain ⟨name, rfl, hvisible⟩ := hother
      have hname : greetedName none (some name) = name := by simp [greetedName, hvisible]
      rw [hname]
      exact .userName rfl (by simpa using hvisible) huser
  · push Not at huser
    obtain ⟨name, rfl, hvisible⟩ := huser
    have hname : greetedName (some name) userName = name := by
      cases userName <;> simp [greetedName, hvisible]
    rw [hname]
    exact .user rfl (by simpa using hvisible)

/-! ## 5. Sessions and dumps agree -/

/-- **A session writes the dump of its input, with its prompts at the lines.**  Nothing fails where
the sink takes everything: the banner, then a prompt and the records of the tokens for every line, a
last prompt and a line feed.  The records of all lines, with the record of the end token behind them,
are the dump; a session without prompts and banner writes nothing else. -/
theorem session_eq_dump (source : Bytes) (prompt : String) (greeting : Bool) (format : Format)
    (user userName : Option String) :
    ∃ name lines, Greeted user userName name ∧ IsLines source lines ∧
      (let session : Session := ⟨prompt, greeting, greetedName user userName, format⟩
      let silent : Session := ⟨"", false, greetedName user userName, format⟩
      let input : Input := ⟨source, .endOfInput⟩
      let records := fun line => (tokens line).flatMap format.recordLine
      ((session.script input).deliver .unlimited).result = .ok () ∧
      ((session.script input).deliver .unlimited).written =
        (if greeting then Session.bannerText name else []) ++
          (lines.flatMap fun line => Text.utf8String prompt ++ records line) ++
          Text.utf8String prompt ++ [Byte.lineFeed] ∧
      (∀ denyIllegal, ((dump format denyIllegal source).deliver .unlimited).written =
        lines.flatMap records ++ format.recordLine .eof) ∧
      ((silent.script input).deliver .unlimited).written =
        lines.flatMap records ++ [Byte.lineFeed]) := by
  have hline : Text.utf8String "\n" = [Byte.lineFeed] := by decide
  have hrecords : (tokens source).flatMap format.recordLine =
      (splitLines source).flatMap fun line => (tokens line).flatMap format.recordLine := by
    rw [tokens_eq_flatMap_lines (isLines_splitLines source), List.flatMap_assoc]
  refine ⟨greetedName user userName, splitLines source, greeted_greetedName user userName,
    isLines_splitLines source, rfl, ?_, ?_, ?_⟩
  · rw [← hline]
    exact Session.output_script ⟨prompt, greeting, greetedName user userName, format⟩ source
  · intro denyIllegal
    rw [← hrecords]
    exact output_dump format denyIllegal source
  · have hempty : Text.utf8String "" = [] := rfl
    rw [← hline]
    refine (Session.output_script ⟨"", false, greetedName user userName, format⟩ source).trans ?_
    simp only [hempty, List.nil_append, List.append_nil, Bool.false_eq_true, if_false]

end MonkeyTokens
