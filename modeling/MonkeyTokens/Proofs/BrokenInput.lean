/-
# Sessions whose input breaks

An input that breaks loses its unfinished line and nothing else.  What a session does with it is what
it does with the text up to the last line feed (`finishedPart`), without the end: it stops behind the
prompt for the line that never came (`Session.steps_of_finishedPart`).  The bytes behind the last line
feed are in no line, so no lexer sees them.

The steps are a beginning of the steps of the clean session, and that decides what a sink does to
them.  What stands behind the byte that does not fit makes no difference (`deliverSteps_append`), so a
sink that is full before the input breaks does to both sessions the same, and its own failure is the
result; otherwise the failure of the input is (`session_of_broken_input`).
-/
import Mathlib.Data.List.DropRight
import MonkeyTokens.Proofs.SessionLog

namespace MonkeyTokens

/-! ## 1. The text up to the last line feed -/

/-- The text up to its last line feed and with it; if there is none, nothing. -/
def finishedPart (source : Bytes) : Bytes :=
  source.rdropWhile (· != Byte.lineFeed)

theorem finishedPart_of_not_mem {source : Bytes} (h : Byte.lineFeed ∉ source) :
    finishedPart source = [] := by
  rw [finishedPart, List.rdropWhile_eq_nil_iff]
  intro b hb
  rw [bne_iff_ne]
  rintro rfl
  exact h hb

/-- Up to a line feed everything stays. -/
theorem finishedPart_append_lineFeed (body rest : Bytes) :
    finishedPart (body ++ Byte.lineFeed :: rest) = body ++ Byte.lineFeed :: finishedPart rest := by
  rw [finishedPart, finishedPart, List.rdropWhile, List.rdropWhile, List.reverse_append,
    List.reverse_cons, List.append_assoc, List.dropWhile_append]
  split
  · rename_i hnone
    rw [List.isEmpty_iff.mp hnone]
    simp
  · simp

/-- What is left out is without a line feed. -/
theorem exists_unfinished (source : Bytes) : ∃ tail, source = finishedPart source ++ tail ∧
    Byte.lineFeed ∉ tail ∧ (finishedPart source = [] ∨ isFinished (finishedPart source) = true) := by
  refine ⟨source.rtakeWhile (· != Byte.lineFeed), List.rdropWhile_append_rtakeWhile.symm, ?_, ?_⟩
  · intro hmem
    exact absurd (List.mem_rtakeWhile_imp hmem) (by simp)
  · by_cases hne : finishedPart source = []
    · exact .inl hne
    · have hlast : ¬((finishedPart source).getLast hne != Byte.lineFeed) = true :=
        List.rdropWhile_last_not (· != Byte.lineFeed) source hne
      rw [bne_iff_ne, not_not] at hlast
      refine .inr ?_
      rw [isFinished, decide_eq_true_eq, List.getLast?_eq_some_getLast hne, hlast]

/-- **The finished lines of a text are the lines of its finished part.** -/
theorem filter_isFinished_splitLines (source : Bytes) :
    (splitLines source).filter isFinished = splitLines (finishedPart source) := by
  by_cases hmem : Byte.lineFeed ∈ source
  · obtain ⟨body, rest, rfl, hbody⟩ := List.eq_append_cons_of_mem hmem
    have hfinished : isFinished (body ++ [Byte.lineFeed]) = true := (isFinished_iff _).mpr ⟨body, rfl⟩
    rw [splitLines_append_lineFeed rest hbody, finishedPart_append_lineFeed,
      splitLines_append_lineFeed _ hbody, List.filter_cons, if_pos hfinished,
      filter_isFinished_splitLines rest]
  · rw [finishedPart_of_not_mem hmem]
    by_cases hne : source = []
    · rw [hne]
      rfl
    · rw [splitLines_of_not_mem hne hmem, List.filter_singleton, isFinished_of_not_mem hmem]
      rfl
termination_by source.length

/-- There are as many of them as line feeds. -/
theorem length_splitLines_finishedPart (source : Bytes) :
    (splitLines (finishedPart source)).length = source.count Byte.lineFeed := by
  obtain ⟨tail, hsource, htail, hfinished⟩ := exists_unfinished source
  have hcount : source.count Byte.lineFeed = (finishedPart source).count Byte.lineFeed := by
    refine (congrArg (List.count Byte.lineFeed) hsource).trans ?_
    rw [List.count_append, List.count_eq_zero.mpr htail, Nat.add_zero]
  have hno : ¬(finishedPart source ≠ [] ∧ isFinished (finishedPart source) = false) := by
    rintro ⟨hne, hunfinished⟩
    rcases hfinished with hnil | hfinished
    · exact hne hnil
    · rw [hunfinished] at hfinished
      exact absurd hfinished (by simp)
  rw [length_splitLines, if_neg hno, hcount, Nat.add_zero]

/-! ## 2. Steps behind a cut -/

/-- What stands behind the byte that does not fit makes no difference, and neither does the result. -/
theorem deliverSteps_append {α : Type} (fault : Fault) (result result' : Except Error α)
    (more : List Step) : ∀ (steps : List Step) (room : Nat), room < (Step.output steps).length →
    deliverSteps fault result room (steps ++ more) = deliverSteps fault result' room steps
  | [], room, h => absurd h (Nat.not_lt_zero _)
  | .report e :: steps, room, h => by
    rw [List.cons_append, deliverSteps, deliverSteps,
      deliverSteps_append fault result result' more steps room h]
  | .write part bytes :: steps, room, h => by
    rw [Step.output, List.length_append] at h
    rw [List.cons_append, deliverSteps, deliverSteps]
    split
    · rw [deliverSteps_append fault result result' more steps (room - bytes.length) (by omega)]
    · rfl

/-- The result of a cut is the failure of the sink. -/
theorem result_deliverSteps_of_lt {α : Type} (fault : Fault) (result : Except Error α) :
    ∀ (steps : List Step) (room : Nat), room < (Step.output steps).length →
    ∃ part : Part, (deliverSteps fault result room steps).result = .error (part.error fault)
  | [], room, h => absurd h (Nat.not_lt_zero _)
  | .report e :: steps, room, h => result_deliverSteps_of_lt fault result steps room h
  | .write part bytes :: steps, room, h => by
    rw [Step.output, List.length_append] at h
    rw [deliverSteps]
    split
    · exact result_deliverSteps_of_lt fault result steps (room - bytes.length) (by omega)
    · exact ⟨part, rfl⟩

/-! ## 3. A session on an input that breaks -/

namespace Session

variable (s : Session)

/-- The finished lines are answered, and the prompt for the next one is written. -/
theorem steps_of_broken (source : Bytes) (fault : Fault) :
    (s.script ⟨source, .broken fault⟩).steps =
      s.opening ++ s.answers 1 (splitLines (finishedPart source)) ++ [.say s.prompt] := by
  rw [← filter_isFinished_splitLines]
  rfl

/-- **The clean session on the finished part does the same, and then closes.** -/
theorem steps_of_finishedPart (source : Bytes) (fault : Fault) :
    (s.script ⟨finishedPart source, .endOfInput⟩).steps =
      (s.script ⟨source, .broken fault⟩).steps ++ closing (source.count Byte.lineFeed) := by
  rw [s.steps_of_broken, ← length_splitLines_finishedPart]
  rfl

/-- An entry does not report the end of the input. -/
theorem endOfInput_not_mem_entry (lines number : Nat) (column : UInt32) (t : Token) :
    .endOfInput lines ∉ entry number column t := by
  cases hillegal : t.isIllegal with
  | true => simp [entry_of_illegal hillegal]
  | false =>
    rw [entry_of_legal hillegal]
    split <;> simp

theorem endOfInput_not_mem_broken (source : Bytes) (fault : Fault) (lines : Nat) :
    .endOfInput lines ∉ (s.script ⟨source, .broken fault⟩).events := by
  have hevents : (s.script ⟨source, .broken fault⟩).events =
      (positioned (finishedPart source)).flatMap (entryOf 1 (finishedPart source)) := by
    rw [Script.events, s.steps_of_broken, Step.events_append, Step.events_append, events_opening,
      s.events_answers (isLines_splitLines _)]
    exact List.append_nil _
  rw [hevents]
  intro hmem
  obtain ⟨q, -, hq⟩ := List.mem_flatMap.mp hmem
  exact endOfInput_not_mem_entry lines _ _ _ hq

end Session

/-- **An input that breaks loses exactly the unfinished line.**  The session fails with the fault of
the input, behind all that the clean session on the finished part writes but the last line feed, and
behind all that it reports but the end of the input.  A sink that has no room for that fails first, as
it would fail in the clean session; any other makes no difference. -/
theorem session_of_broken_input (s : Session) (source : Bytes) (fault : Fault) :
    let finished := finishedPart source
    let broken := s.script ⟨source, .broken fault⟩
    let clean := s.script ⟨finished, .endOfInput⟩
    let full := broken.deliver .unlimited
    (∃ tail, source = finished ++ tail ∧ Byte.lineFeed ∉ tail ∧
      (finished = [] ∨ isFinished finished = true)) ∧
    full.result = .error (.io fault) ∧
    (clean.deliver .unlimited).written = full.written ++ [Byte.lineFeed] ∧
    (clean.deliver .unlimited).events =
      full.events ++ [.endOfInput (source.count Byte.lineFeed)] ∧
    (∀ lines, .endOfInput lines ∉ full.events) ∧
    ∀ (n : Nat) (sinkFault : Fault),
      let cut := broken.deliver ⟨some n, sinkFault⟩
      cut.written = full.written.take n ∧
      (n < full.written.length → cut = clean.deliver ⟨some n, sinkFault⟩ ∧
        ∃ part : Part, cut.result = .error (part.error sinkFault)) ∧
      (full.written.length ≤ n → cut = full) := by
  intro finished broken clean full
  have hsteps : clean.steps = broken.steps ++ Session.closing (source.count Byte.lineFeed) :=
    s.steps_of_finishedPart source fault
  have hfeed : Text.utf8String "\n" = [Byte.lineFeed] := by decide
  refine ⟨exists_unfinished source, rfl, ?_, ?_, s.endOfInput_not_mem_broken source fault, ?_⟩
  · show Step.output clean.steps = Step.output broken.steps ++ _
    rw [hsteps, Step.output_append, ← hfeed]
    exact congrArg _ (List.append_nil _)
  · show Step.events clean.steps = Step.events broken.steps ++ _
    rw [hsteps, Step.events_append]
    rfl
  · intro n sinkFault cut
    refine ⟨written_deliverSteps sinkFault broken.result n broken.steps, fun hn => ⟨?_, ?_⟩,
      deliverSteps_of_le sinkFault broken.result n broken.steps⟩
    · show deliverSteps sinkFault broken.result n broken.steps =
        deliverSteps sinkFault clean.result n clean.steps
      rw [hsteps, deliverSteps_append sinkFault clean.result broken.result _ broken.steps n hn]
    · exact result_deliverSteps_of_lt sinkFault broken.result broken.steps n hn

/-- A break behind the `b` of `a` and, below it, `b`: the second line is lost, and its prompt is
written.  A sink with room for one byte of the first prompt is full before that; one with room for the
29 bytes of the output is not. -/
theorem session_of_broken_input_second_line :
    let s : Session := ⟨">> ", false, "there", .text⟩
    let broken := s.script ⟨[97, 10, 98], .broken (.stream "source broken")⟩
    let full := broken.deliver .unlimited
    let clean := s.script ⟨[97, 10], .endOfInput⟩
    full.written.length = 29 ∧ full.result = .error (.io (.stream "source broken")) ∧
      (clean.deliver .unlimited).written = full.written ++ [Byte.lineFeed] ∧
      full.events = [.token .ident [97] .start] ∧
      (1 < full.written.length ∧
        ∃ part : Part, (broken.deliver ⟨some 1, .stream "sink full"⟩).result =
          .error (part.error (.stream "sink full"))) ∧
      (full.written.length ≤ 29 ∧ broken.deliver ⟨some 29, .stream "sink full"⟩ = full) := by
  intro s broken full clean
  have hfinished : finishedPart [97, 10, 98] = [97, 10] := by decide +kernel
  obtain ⟨-, hresult, hwritten, -, -, hsink⟩ :=
    session_of_broken_input s [97, 10, 98] (.stream "source broken")
  rw [hfinished] at hwritten
  have hlength : full.written.length = 29 := by decide +kernel
  have hshort : 1 < full.written.length := by rw [hlength]; decide
  have hfits : full.written.length ≤ 29 := Nat.le_of_eq hlength
  exact ⟨hlength, hresult, hwritten, by decide +kernel,
    ⟨hshort, ((hsink 1 (.stream "sink full")).2.1 hshort).2⟩,
    ⟨hfits, (hsink 29 (.stream "sink full")).2.2 hfits⟩⟩

end MonkeyTokens
