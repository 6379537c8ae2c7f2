/-
# Commands whose sink becomes full

A sink that has room for so many bytes, and then fails, cuts a command short: the output ends there,
the failure becomes the result, and nothing is reported from there on.  Here it is said where the cut
goes through, for every number of bytes, in terms of what a reader sees in the whole output.

The output of a dump or a session is a list of passages (`Passage`): plain text, such as the banner
and the prompts, and the records of tokens, each with the events that are reported before it is
written.  Both commands are laid out in this way (`dump_steps`, `Session.script_steps`), so the cut is
looked at once, for passages.  One passage either fits or is cut (`Passage.deliver_steps`), and by
induction a list of them is delivered up to the passage that is cut (`deliver_passages`).  What has
been reported then belongs to the records that begin at or before the first byte that did not fit, and
the error tells whether that byte is in a JSON object (`cutError`).
-/
import MonkeyTokens.Proofs.Transcript

namespace MonkeyTokens

/-! ## 1. Passages -/

/-- A part of an output. -/
inductive Passage where
  /-- A text that belongs to no token. -/
  | plain (bytes : Bytes)
  /-- The record of a token, written behind the reports of the events. -/
  | record (token : Token) (events : List Event)

namespace Passage

def bytes (format : Format) : Passage → Bytes
  | .plain bytes => bytes
  | .record t _ => format.recordLine t

def events : Passage → List Event
  | .plain _ => []
  | .record _ events => events

/-- The steps that deliver a passage. -/
def steps (format : Format) : Passage → List Step
  | .plain bytes => [.write .plain bytes]
  | .record t events => events.map .report ++ format.write t

/-- The part that the byte `n` of a passage belongs to: a JSON object ends before its line feed. -/
def partAt (format : Format) (n : Nat) : Passage → Part
  | .plain _ => .plain
  | .record t _ =>
    if format = .json ∧ n < (Text.utf8 (format.record t)).length then .object else .plain

end Passage

/-- A record in an output: where it begins, whose it is, and what is reported before it is
written. -/
structure Recorded where
  start : Nat
  token : Token
  events : List Event

/-- The byte `n` of the output is in the JSON object of the record. -/
def Recorded.Covers (format : Format) (n : Nat) (r : Recorded) : Prop :=
  format = .json ∧ r.start ≤ n ∧ n < r.start + (Text.utf8 (format.record r.token)).length

instance (format : Format) (n : Nat) (r : Recorded) : Decidable (r.Covers format n) :=
  inferInstanceAs (Decidable (_ ∧ _))

/-- The record that a passage is, if it is one, where the passage begins at `start`. -/
def Passage.recordAt (start : Nat) : Passage → List Recorded
  | .plain _ => []
  | .record t events => [⟨start, t, events⟩]

/-- The records among passages, the first of which begins at `start`. -/
def recordsFrom (format : Format) : Nat → List Passage → List Recorded
  | _, [] => []
  | start, p :: rest => p.recordAt start ++ recordsFrom format (start + (p.bytes format).length) rest

/-- The error of an output that breaks off before the byte `n`. -/
def cutError (format : Format) (records : List Recorded) (fault : Fault) (n : Nat) : Error :=
  if ∃ r ∈ records, r.Covers format n then Part.object.error fault else Part.plain.error fault

/-! ## 2. One passage on a sink -/

theorem deliver_reports {α : Type} (fault : Fault) (result : Except Error α) (room : Nat)
    (rest : List Step) : ∀ events : List Event,
    deliverSteps fault result room (events.map .report ++ rest) =
      { deliverSteps fault result room rest with
        events := events ++ (deliverSteps fault result room rest).events }
  | [] => rfl
  | e :: events => by
    rw [List.map_cons, List.cons_append, deliverSteps, deliver_reports fault result room rest events]
    rfl

/-- **A passage is delivered or cut.**  If it fits, the rest is delivered behind it with the room that
is left; if not, its events are the last ones, and the error is that of its first byte that did not
fit. -/
theorem Passage.deliver_steps {α : Type} (fault : Fault) (result : Except Error α)
    (format : Format) (room : Nat) (rest : List Step) (p : Passage) :
    deliverSteps fault result room (p.steps format ++ rest) =
      if (p.bytes format).length ≤ room then
        let d := deliverSteps fault result (room - (p.bytes format).length) rest
        { d with written := p.bytes format ++ d.written, events := p.events ++ d.events }
      else
        ⟨(p.bytes format).take room, p.events, .error ((p.partAt format room).error fault)⟩ := by
  cases p with
  | plain bytes => rfl
  | record t events =>
    have hline : (Passage.record t events).bytes format =
        Text.utf8 (format.record t) ++ Text.utf8 ['\n'] := Text.utf8_append _ _
    rw [steps, List.append_assoc, deliver_reports, hline]
    cases format with
    | text =>
      simp only [Format.write, List.singleton_append, deliverSteps, Text.utf8_append,
        Passage.events, partAt, reduceCtorEq, false_and, if_false]
      split <;> simp
    | json =>
      have hfeed : (Text.utf8 ['\n']).length = 1 := by decide
      simp only [Format.write, List.cons_append, List.nil_append, deliverSteps, Passage.events,
        partAt, true_and, List.length_append, hfeed]
      generalize Text.utf8 (Format.json.record t) = object
      -- the object, the line feed behind it, or the rest
      by_cases hobject : object.length ≤ room
      · rw [if_pos hobject, if_neg (by omega : ¬ room < object.length)]
        by_cases hroom : object.length + 1 ≤ room
        · rw [if_pos hroom, if_pos (by omega : 1 ≤ room - object.length), Nat.sub_sub]
          simp
        · have hnone : room - object.length = 0 := by omega
          rw [if_neg hroom, hnone]
          simp [List.take_append, hnone, List.take_of_length_le hobject]
      · have hnone : room - object.length = 0 := by omega
        rw [if_neg hobject, if_neg (by omega : ¬ object.length + 1 ≤ room),
          if_pos (by omega : room < object.length)]
        simp [List.take_append, hnone]

/-! ## 3. Passages on a sink -/

section Records

variable {format : Format} {p : Passage} {start room : Nat}

/-- No record begins before the first passage. -/
theorem le_start_of_mem_recordsFrom : ∀ {passages : List Passage} {start : Nat} {r : Recorded},
    r ∈ recordsFrom format start passages → start ≤ r.start
  | p :: rest, start, r, h => by
    rcases List.mem_append.mp h with h | h
    · cases p with
      | plain => exact absurd h List.not_mem_nil
      | record t events =>
        obtain rfl := List.mem_singleton.mp h
        exact Nat.le_refl start
    · exact Nat.le_trans (Nat.le_add_right _ _) (le_start_of_mem_recordsFrom h)

/-- A passage that fits does not cover a byte behind it. -/
theorem not_covers_of_le (h : (p.bytes format).length ≤ room) :
    ∀ r ∈ p.recordAt start, ¬ r.Covers format (start + room) := by
  intro r hr
  cases p with
  | plain => exact absurd hr List.not_mem_nil
  | record t events =>
    obtain rfl := List.mem_singleton.mp hr
    have hline : (format.recordLine t).length =
        (Text.utf8 (format.record t)).length + (Text.utf8 ['\n']).length := by
      rw [Format.recordLine, Text.utf8_append, List.length_append]
    have hle : (format.recordLine t).length ≤ room := h
    rintro ⟨-, -, hlt⟩
    have : start + room < start + (Text.utf8 (format.record t)).length := hlt
    omega

/-- A passage that is cut in its JSON object covers the byte of the cut. -/
theorem cutError_recordAt (fault : Fault) :
    cutError format (p.recordAt start) fault (start + room) = (p.partAt format room).error fault := by
  unfold cutError
  cases p with
  | plain => simp [Passage.recordAt, Passage.partAt]
  | record t events =>
    have hcovers : (Recorded.mk start t events).Covers format (start + room) ↔
        format = .json ∧ room < (Text.utf8 (format.record t)).length := by
      unfold Recorded.Covers
      simp
    simp only [Passage.recordAt, List.mem_singleton, exists_eq_left, hcovers, Passage.partAt]
    split <;> rfl

/-- Only the records that cover a byte decide about its error. -/
theorem cutError_congr {records others : List Recorded} (fault : Fault) {n : Nat}
    (h : ∀ r, r.Covers format n → (r ∈ records ↔ r ∈ others)) :
    cutError format records fault n = cutError format others fault n := by
  have hiff : (∃ r ∈ records, r.Covers format n) ↔ ∃ r ∈ others, r.Covers format n := by
    constructor
    · rintro ⟨r, hr, hcovers⟩
      exact ⟨r, (h r hcovers).mp hr, hcovers⟩
    · rintro ⟨r, hr, hcovers⟩
      exact ⟨r, (h r hcovers).mpr hr, hcovers⟩
  simp only [cutError, hiff]

/-- The events of a passage that begins at or before a byte are those of its record. -/
theorem events_recordAt (p : Passage) {start n : Nat} (h : start ≤ n) :
    ((p.recordAt start).filter (·.start ≤ n)).flatMap (·.events) = p.events := by
  cases p with
  | plain => rfl
  | record t events => simp [Passage.recordAt, Passage.events, h]

end Records

/-- **Passages are delivered up to the one that is cut.** -/
theorem deliver_passages {α : Type} (fault : Fault) (result : Except Error α) (format : Format)
    (tail : List Step) : ∀ (passages : List Passage) (start room : Nat),
    room < (passages.flatMap (·.bytes format)).length →
    deliverSteps fault result room (passages.flatMap (·.steps format) ++ tail) =
      ⟨(passages.flatMap (·.bytes format)).take room,
        ((recordsFrom format start passages).filter (·.start ≤ start + room)).flatMap (·.events),
        .error (cutError format (recordsFrom format start passages) fault (start + room))⟩
  | [], _, _, h => absurd h (Nat.not_lt_zero _)
  | p :: rest, start, room, h => by
    rw [List.flatMap_cons, List.flatMap_cons, List.append_assoc, p.deliver_steps, recordsFrom,
      List.filter_append, List.flatMap_append, events_recordAt p (Nat.le_add_right start room)]
    split
    · -- the passage fits, and the cut is in the rest
      rename_i hfits
      have hrest : room - (p.bytes format).length <
          (rest.flatMap (·.bytes format)).length := by
        rw [List.flatMap_cons, List.length_append] at h
        omega
      have hsame : start + (p.bytes format).length + (room - (p.bytes format).length) =
          start + room := by omega
      have ih := deliver_passages fault result format tail rest
        (start + (p.bytes format).length) (room - (p.bytes format).length) hrest
      rw [hsame] at ih
      have herror : cutError format (p.recordAt start ++
            recordsFrom format (start + (p.bytes format).length) rest) fault (start + room) =
          cutError format (recordsFrom format (start + (p.bytes format).length) rest) fault
            (start + room) := by
        refine cutError_congr fault fun r hcovers => ?_
        rw [List.mem_append, or_iff_right fun hr => not_covers_of_le hfits r hr hcovers]
      rw [ih, herror, List.take_append, List.take_of_length_le hfits]
    · -- the passage is cut, and no record of the rest begins before the cut
      rename_i hcut
      have hlater : ∀ r ∈ recordsFrom format (start + (p.bytes format).length) rest,
          start + room < r.start := by
        intro r hr
        have := le_start_of_mem_recordsFrom hr
        omega
      have hnone : (recordsFrom format (start + (p.bytes format).length) rest).filter
          (·.start ≤ start + room) = [] := by
        rw [List.filter_eq_nil_iff]
        intro r hr
        have := hlater r hr
        simpa using this
      have herror : cutError format (p.recordAt start ++
            recordsFrom format (start + (p.bytes format).length) rest) fault (start + room) =
          (p.partAt format room).error fault := by
        rw [← cutError_recordAt]
        refine cutError_congr fault fun r hcovers => ?_
        rw [List.mem_append, or_iff_left fun hr => Nat.not_lt.mpr hcovers.2.1 (hlater r hr)]
      have htake : (p.bytes format ++ rest.flatMap (·.bytes format)).take room =
          (p.bytes format).take room := List.take_append_of_le_length (by omega)
      rw [hnone, herror, htake]
      simp

/-! ## 4. Commands made of passages -/

namespace Step

theorem events_append : ∀ steps more : List Step,
    Step.events (steps ++ more) = Step.events steps ++ Step.events more
  | [], _ => rfl
  | .write .. :: rest, more => by
    rw [List.cons_append, Step.events, Step.events, events_append rest more]
  | .report e :: rest, more => by
    rw [List.cons_append, Step.events, Step.events, events_append rest more, List.cons_append]

theorem events_report : ∀ events : List Event, Step.events (events.map .report) = events
  | [] => rfl
  | e :: events => by rw [List.map_cons, Step.events, events_report events]

theorem events_flatMap {α : Type} (f : α → List Step) : ∀ xs : List α,
    Step.events (xs.flatMap f) = xs.flatMap fun x => Step.events (f x)
  | [] => rfl
  | x :: xs => by rw [List.flatMap_cons, List.flatMap_cons, events_append, events_flatMap f xs]

end Step

namespace Passage

theorem output_steps (format : Format) (p : Passage) :
    Step.output (p.steps format) = p.bytes format := by
  cases p with
  | plain bytes => exact List.append_nil bytes
  | record t events =>
    rw [steps, Step.output_append, Step.output_report, List.nil_append, format.output_write]
    rfl

theorem events_steps (format : Format) (p : Passage) :
    Step.events (p.steps format) = p.events := by
  cases p with
  | plain bytes => rfl
  | record t events =>
    have hwrite : Step.events (format.write t) = [] := by cases format <;> rfl
    rw [steps, Step.events_append, Step.events_report, hwrite, List.append_nil]
    rfl

end Passage

/-- What becomes of a command on a sink that takes everything (`full`) and on one with room for `n`
bytes (`cut`).  The command delivers passages and then reports the closing event. -/
structure DeliveredUpTo {α : Type} (format : Format) (passages : List Passage) (closing : Event)
    (fault : Fault) (n : Nat) (full cut : Delivery α) : Prop where
  written_full : full.written = passages.flatMap (·.bytes format)
  events_full : full.events = passages.flatMap (·.events) ++ [closing]
  /-- Where there is room for everything, nothing is different. -/
  enough : full.written.length ≤ n → cut = full
  written_cut : n < full.written.length → cut.written = full.written.take n
  /-- The byte that did not fit decides about the error. -/
  result_cut : n < full.written.length →
    cut.result = .error (cutError format (recordsFrom format 0 passages) fault n)
  /-- The events are those of the records that begin at or before that byte. -/
  events_cut : n < full.written.length →
    cut.events = ((recordsFrom format 0 passages).filter (·.start ≤ n)).flatMap (·.events)

/-- **Every command made of passages is delivered up to the cut.** -/
theorem Script.delivered_of_passages {α : Type} {format : Format} {passages : List Passage}
    {closing : Event} {command : Script α}
    (h : command.steps = passages.flatMap (·.steps format) ++ [.report closing])
    (fault : Fault) (n : Nat) :
    DeliveredUpTo format passages closing fault n (command.deliver .unlimited)
      (command.deliver ⟨some n, fault⟩) := by
  have houtput : Step.output command.steps = passages.flatMap (·.bytes format) := by
    rw [h, Step.output_append, Step.output_flatMap]
    simp only [Passage.output_steps]
    exact List.append_nil _
  have hevents : Step.events command.steps = passages.flatMap (·.events) ++ [closing] := by
    rw [h, Step.events_append, Step.events_flatMap]
    simp only [Passage.events_steps]
    rfl
  have hcut : n < (Step.output command.steps).length →
      deliverSteps fault command.result n command.steps =
        ⟨(Step.output command.steps).take n,
          ((recordsFrom format 0 passages).filter (·.start ≤ n)).flatMap (·.events),
          .error (cutError format (recordsFrom format 0 passages) fault n)⟩ := by
    intro hn
    rw [houtput] at hn ⊢
    rw [h, deliver_passages fault command.result format _ passages 0 n hn, Nat.zero_add]
  exact
    { written_full := houtput
      events_full := hevents
      enough := fun hn => deliverSteps_of_le fault command.result n command.steps hn
      written_cut := fun hn => congrArg Delivery.written (hcut hn)
      result_cut := fun hn => congrArg Delivery.result (hcut hn)
      events_cut := fun hn => congrArg Delivery.events (hcut hn) }

/-! ## 5. Dumps and sessions -/

/-- A dump is the records of all tokens, each behind what the lexer reports of the token. -/
def dumpPassages (source : Bytes) : List Passage :=
  (placedTokens source).map fun p => .record p.token p.events

theorem dump_steps (format : Format) (denyIllegal : Bool) (source : Bytes) :
    (dump format denyIllegal source).steps = (dumpPassages source).flatMap (·.steps format) ++
      [.report (.tokenizedSource (placedTokens source).length
        ((placedTokens source).countP (·.token.isIllegal)))] := by
  rw [dumpPassages, List.flatMap_map]
  rfl

/-- A dump reports what the lexer reports of its source, and then the counts. -/
theorem events_dump (format : Format) (denyIllegal : Bool) (source : Bytes) :
    (dump format denyIllegal source).events = tokenEvents source ++
      [.tokenizedSource (Summary.ofTokens (placedTokens source)).tokens
        (Summary.ofTokens (placedTokens source)).illegal] := by
  have hfull := (Script.delivered_of_passages (dump_steps format denyIllegal source)
    (.stream "") 0).events_full
  have hpassages : (dumpPassages source).flatMap (·.events) = tokenEvents source :=
    List.flatMap_map _ _ _
  rw [hpassages] at hfull
  exact hfull

namespace Session

variable (s : Session)

/-- The records of a line, each behind what the lexer and the session report of the token. -/
def linePassages (number : Nat) (line : Bytes) : List Passage :=
  (Lexer.ofSource line).drain.1.map fun p => .record p.token (p.events ++ remarks number p)

/-- The lines, the first of them numbered `number`, each behind a prompt. -/
def linesPassages : Nat → List Bytes → List Passage
  | _, [] => []
  | number, line :: lines =>
    .plain (Text.utf8String s.prompt) :: linePassages number line ++ linesPassages (number + 1) lines

/-- A session that reads lines and then the end of the input. -/
def passages (lines : List Bytes) : List Passage :=
  (if s.greeting then
    [.plain (Text.utf8String ("Hello " ++ s.user ++ "! This is the Monkey programming language!\n")),
      .plain (Text.utf8String "Feel free to type in commands\n")]
  else []) ++
    s.linesPassages 1 lines ++ [.plain (Text.utf8String s.prompt), .plain [Byte.lineFeed]]

theorem answers_eq_passages : ∀ (number : Nat) (lines : List Bytes),
    s.answers number lines = (s.linesPassages number lines).flatMap (·.steps s.format)
  | _, [] => rfl
  | number, line :: lines => by
    have hline : s.answer number line =
        (linePassages number line).flatMap (·.steps s.format) := by
      rw [linePassages, List.flatMap_map]
      rfl
    rw [answers, linesPassages, List.flatMap_append, List.flatMap_cons, ← hline,
      ← answers_eq_passages (number + 1) lines]
    rfl

theorem script_steps (source : Bytes) :
    (s.script ⟨source, .endOfInput⟩).steps =
      (s.passages (splitLines source)).flatMap (·.steps s.format) ++
        [.report (.endOfInput (splitLines source).length)] := by
  have hfeed : Text.utf8String "\n" = [Byte.lineFeed] := by decide
  have hscript : (s.script ⟨source, .endOfInput⟩).steps =
      s.opening ++ s.answers 1 (splitLines source) ++ [.say s.prompt] ++
        closing (splitLines source).length := rfl
  rw [hscript, passages, opening, List.flatMap_append, List.flatMap_append,
    ← answers_eq_passages, ← hfeed]
  simp only [List.append_assoc]
  cases s.greeting <;> rfl

end Session

/-- **A failing sink cuts the output and nothing else**, wherever it becomes full: of a dump, whether
or not illegal bytes are denied, and of a session, whatever its prompt and its banner. -/
theorem delivered_up_to_cut (fault : Fault) (n : Nat) (source : Bytes) :
    (∀ (format : Format) (denyIllegal : Bool),
      DeliveredUpTo format (dumpPassages source)
        (.tokenizedSource (placedTokens source).length
          ((placedTokens source).countP (·.token.isIllegal))) fault n
        ((dump format denyIllegal source).deliver .unlimited)
        ((dump format denyIllegal source).deliver ⟨some n, fault⟩)) ∧
    (∀ s : Session,
      DeliveredUpTo s.format (s.passages (splitLines source))
        (.endOfInput (splitLines source).length) fault n
        ((s.script ⟨source, .endOfInput⟩).deliver .unlimited)
        ((s.script ⟨source, .endOfInput⟩).deliver ⟨some n, fault⟩)) := by
  constructor
  · intro format denyIllegal
    exact Script.delivered_of_passages (dump_steps format denyIllegal source) fault n
  · intro s
    exact Script.delivered_of_passages (s.script_steps source) fault n

/-- An `@` in JSON, in a dump that denies it.  With room for three bytes the object is cut, behind both
events of the `@`; with room for the 32 bytes of the object its line feed is.  A session of the same
source that has room for one byte of its prompt has reported nothing. -/
theorem delivered_up_to_cut_at_sign :
    let fault : Fault := .stream "sink full"
    let command := dump .json true [64]
    let session : Session := ⟨">> ", false, "there", .text⟩
    let full := command.deliver .unlimited
    let inObject := command.deliver ⟨some 3, fault⟩
    let atLineFeed := command.deliver ⟨some 32, fault⟩
    let inPrompt := (session.script ⟨[64], .endOfInput⟩).deliver ⟨some 1, fault⟩
    (3 < full.written.length ∧ inObject.written = full.written.take 3 ∧
      inObject.result = .error (.json { reason := "sink full" }) ∧
      inObject.events = [.illegalCharacter [64] .start, .token .illegal [64] .start]) ∧
    (32 < full.written.length ∧ atLineFeed.result = .error (.io fault)) ∧
    (full.written.length ≤ 61 ∧ command.deliver ⟨some 61, fault⟩ = full) ∧
    (1 < ((session.script ⟨[64], .endOfInput⟩).deliver .unlimited).written.length ∧
      inPrompt.result = .error (.io fault) ∧ inPrompt.events = []) := by
  intro fault command session full inObject atLineFeed inPrompt
  have hdump := fun n => (delivered_up_to_cut fault n [64]).1 .json true
  have hsession := (delivered_up_to_cut fault 1 [64]).2 session
  have h3 : 3 < full.written.length := by decide +kernel
  have h32 : 32 < full.written.length := by decide +kernel
  have h61 : full.written.length ≤ 61 := by decide +kernel
  have h1 : 1 < ((session.script ⟨[64], .endOfInput⟩).deliver .unlimited).written.length := by
    decide +kernel
  exact ⟨⟨h3, (hdump 3).written_cut h3, (hdump 3).result_cut h3 |>.trans (by decide +kernel),
      (hdump 3).events_cut h3 |>.trans (by decide +kernel)⟩,
    ⟨h32, (hdump 32).result_cut h32 |>.trans (by decide +kernel)⟩,
    ⟨h61, (hdump 61).enough h61⟩,
    ⟨h1, hsession.result_cut h1 |>.trans (by decide +kernel),
      hsession.events_cut h1 |>.trans (by decide +kernel)⟩⟩

end MonkeyTokens
