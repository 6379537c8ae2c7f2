/-
# A session byte by byte

A session that talks to someone is told one byte at a time, and what it does about a byte is done
before the next one is asked for (`Session.receive`).  What it has done altogether is described here
by the bytes it has received: it has answered their finished lines and written the prompt for the
next one (`Session.receiveAll_lines`), and the bytes behind the last line feed are kept and have done
nothing yet (`Session.receiveAll_unfinished`).

So before any byte arrives, it has done what a session on the bytes so far does if its input breaks
there, and on a whole input it does what `Session.script` says of that input
(`session_byte_by_byte`).
-/
import MonkeyTokens.Proofs.BrokenInput

namespace MonkeyTokens

theorem Script.after_after {α : Type} (steps more : List Step) (s : Script α) :
    (s.after more).after steps = s.after (steps ++ more) := by
  rw [after, after, after, List.append_assoc]

namespace Session

variable (s : Session)

/-! ## 1. Receiving one thing after the other -/

/-- What a session does about all that it receives, until it is over. -/
def receiveAll (p : Progress) : List Received → Script (Option Progress)
  | [] => ⟨[], .ok (some p)⟩
  | r :: rest =>
    let done := s.receive p r
    match done.result with
    | .ok (some p') => (receiveAll p' rest).after done.steps
    | .ok none | .error _ => done

variable {s} {n : Nat} {begun : Bytes} {rest : List Received}

/-- A byte that ends no line is kept. -/
theorem receiveAll_byte {b : UInt8} (hb : b ≠ Byte.lineFeed) :
    s.receiveAll ⟨n, begun.toArray⟩ (.byte b :: rest) =
      s.receiveAll ⟨n, (begun ++ [b]).toArray⟩ rest := by
  have hstep : s.receive ⟨n, begun.toArray⟩ (.byte b) =
      ⟨[], .ok (some ⟨n, (begun ++ [b]).toArray⟩)⟩ := by
    rw [receive, if_neg hb, List.push_toArray]
  rw [receiveAll, hstep]
  rfl

/-- A line feed ends the line it stands in. -/
theorem receiveAll_lineFeed :
    s.receiveAll ⟨n, begun.toArray⟩ (.byte Byte.lineFeed :: rest) =
      (s.receiveAll ⟨n + 1, #[]⟩ rest).after
        (s.answer (n + 1) (begun ++ [Byte.lineFeed]) ++ [.say s.prompt]) := by
  have hstep : s.receive ⟨n, begun.toArray⟩ (.byte Byte.lineFeed) =
      s.turn n (begun ++ [Byte.lineFeed]).toArray := by
    rw [receive, if_pos rfl, List.push_toArray]
  rw [receiveAll, hstep]
  rfl

/-! ## 2. Receiving lines -/

/-- **Bytes of an unfinished line are kept**, and nothing is done about them. -/
theorem receiveAll_unfinished {bytes : Bytes} (h : Byte.lineFeed ∉ bytes) :
    s.receiveAll ⟨n, begun.toArray⟩ (bytes.map .byte ++ rest) =
      s.receiveAll ⟨n, (begun ++ bytes).toArray⟩ rest := by
  induction bytes generalizing begun with
  | nil => rw [List.append_nil]; rfl
  | cons b bytes ih =>
    have hb : b ≠ Byte.lineFeed := fun e => h (by simp [e])
    rw [List.map_cons, List.cons_append, receiveAll_byte hb,
      ih fun hm => h (List.mem_cons_of_mem b hm), List.append_assoc]
    rfl

/-- A finished line is answered. -/
theorem receiveAll_line {body : Bytes} (h : Byte.lineFeed ∉ body) :
    s.receiveAll ⟨n, #[]⟩ ((body ++ [Byte.lineFeed]).map .byte ++ rest) =
      (s.receiveAll ⟨n + 1, #[]⟩ rest).after
        (s.answer (n + 1) (body ++ [Byte.lineFeed]) ++ [.say s.prompt]) := by
  rw [List.map_append, List.append_assoc]
  exact (receiveAll_unfinished h).trans receiveAll_lineFeed

/-- **Finished lines are answered one by one**, and each has its prompt in front of it. -/
theorem receiveAll_lines : ∀ {lines : List Bytes} {n : Nat},
    (∀ line ∈ lines, ∃ body, line = body ++ [Byte.lineFeed] ∧ Byte.lineFeed ∉ body) →
      (s.receiveAll ⟨n, #[]⟩ (lines.flatten.map .byte ++ rest)).after [.say s.prompt] =
        (s.receiveAll ⟨n + lines.length, #[]⟩ rest).after
          (s.answers (n + 1) lines ++ [.say s.prompt])
  | [], n, _ => rfl
  | line :: lines, n, h => by
    obtain ⟨body, rfl, hbody⟩ := h line List.mem_cons_self
    have ih := receiveAll_lines (n := n + 1) fun l hl => h l (List.mem_cons_of_mem _ hl)
    have hcount : n + 1 + lines.length = n + (lines.length + 1) := by omega
    -- the prompt behind the answer is the one in front of the next line
    rw [List.flatten_cons, List.map_append, List.append_assoc, receiveAll_line hbody,
      Script.after_after, ← List.append_assoc, ← Script.after_after, ih, Script.after_after, answers,
      List.length_cons, hcount]
    simp only [List.cons_append, List.nil_append, List.append_assoc]

/-- **At the end of the input what is kept is a line**, and it is answered before the session closes. -/
theorem receiveAll_ended (h : begun ≠ []) :
    s.receiveAll ⟨n, begun.toArray⟩ [.ending .endOfInput, .ending .endOfInput] =
      ⟨s.answer (n + 1) begun ++ [.say s.prompt] ++ closing (n + 1), .ok none⟩ := by
  have hstep : s.receive ⟨n, begun.toArray⟩ (.ending .endOfInput) = s.turn n begun.toArray :=
    if_neg (by simpa using h)
  rw [receiveAll, hstep]
  rfl

end Session

/-! ## 3. A whole input -/

variable {source tail : Bytes}

/-- The lines of the finished part have their line feeds. -/
theorem exists_body_of_mem_finished {line : Bytes} (h : line ∈ splitLines (finishedPart source)) :
    ∃ body, line = body ++ [Byte.lineFeed] ∧ Byte.lineFeed ∉ body := by
  have hinner := (isLines_splitLines (finishedPart source)).inner line h
  rw [← filter_isFinished_splitLines] at h
  obtain ⟨body, rfl⟩ := (isFinished_iff line).mp (List.mem_filter.mp h).2
  rw [List.dropLast_concat] at hinner
  exact ⟨body, rfl, hinner⟩

/-- What is behind the last line feed is one line more. -/
theorem splitLines_of_unfinished (hsource : source = finishedPart source ++ tail)
    (htail : Byte.lineFeed ∉ tail) (hne : tail ≠ []) :
    splitLines source = splitLines (finishedPart source) ++ [tail] := by
  have hlines := isLines_splitLines (finishedPart source)
  refine (IsLines.eq_splitLines ⟨?_, ?_, ?_, ?_⟩).symm
  · rw [List.flatten_append, hlines.flatten_eq, List.flatten_singleton, ← hsource]
  · intro line hline
    rcases List.mem_append.mp hline with hline | hline
    · exact hlines.ne_nil line hline
    · rwa [List.mem_singleton.mp hline]
  · intro line hline
    rcases List.mem_append.mp hline with hline | hline
    · exact hlines.inner line hline
    · rw [List.mem_singleton.mp hline]
      exact fun hm => htail (List.dropLast_subset tail hm)
  · intro line hline
    rw [List.dropLast_concat] at hline
    obtain ⟨body, rfl, -⟩ := exists_body_of_mem_finished hline
    exact (isFinished_iff _).mpr ⟨body, rfl⟩

namespace Session

variable (s : Session)

theorem answers_append : ∀ (lines more : List Bytes) (number : Nat),
    s.answers number (lines ++ more) =
      s.answers number lines ++ s.answers (number + lines.length) more
  | [], more, number => rfl
  | line :: lines, more, number => by
    rw [List.cons_append, answers, answers, answers_append lines more (number + 1),
      List.length_cons, Nat.add_right_comm, Nat.add_assoc, ← List.append_assoc]

/-- **What has been done about some bytes**: their finished lines are answered, and what is behind the
last line feed is kept. -/
theorem receiveAll_bytes (hsource : source = finishedPart source ++ tail)
    (htail : Byte.lineFeed ∉ tail) (rest : List Received) :
    (s.receiveAll .start (source.map .byte ++ rest)).after s.greet =
      (s.receiveAll ⟨(splitLines (finishedPart source)).length, tail.toArray⟩ rest).after
        (s.opening ++ s.answers 1 (splitLines (finishedPart source)) ++ [.say s.prompt]) := by
  have hlines : (s.receiveAll .start ((finishedPart source).map Received.byte ++
      (tail.map Received.byte ++ rest))).after [Step.say s.prompt] =
        (s.receiveAll ⟨(splitLines (finishedPart source)).length, #[]⟩
          (tail.map Received.byte ++ rest)).after
            (s.answers 1 (splitLines (finishedPart source)) ++ [Step.say s.prompt]) := by
    have hall := fun line (h : line ∈ splitLines (finishedPart source)) =>
      exists_body_of_mem_finished h
    simpa only [flatten_splitLines, Nat.zero_add, Progress.start] using receiveAll_lines (n := 0) hall
  rw [greet, ← Script.after_after, hsource, List.map_append, List.append_assoc, ← hsource, hlines,
    Script.after_after, ← List.append_assoc]
  exact congrArg _ (receiveAll_unfinished htail)

/-- **When the input has ended, all its lines have been answered**, and the session has closed. -/
theorem receiveAll_endOfInput (source : Bytes) :
    (s.receiveAll .start
        (source.map .byte ++ [.ending .endOfInput, .ending .endOfInput])).after s.greet =
      ⟨(s.script ⟨source, .endOfInput⟩).steps, .ok none⟩ := by
  obtain ⟨tail, hsource, htail, -⟩ := exists_unfinished source
  rw [s.receiveAll_bytes hsource htail]
  by_cases hnil : tail = []
  · -- nothing is kept, so the session closes at once
    have hwhole : finishedPart source = source := by
      rw [hnil, List.append_nil] at hsource
      exact hsource.symm
    rw [hnil, hwhole]
    rfl
  · have hlines := splitLines_of_unfinished hsource htail hnil
    have hcount : (splitLines source).length = (splitLines (finishedPart source)).length + 1 := by
      rw [hlines, List.length_append, List.length_singleton]
    have hsteps : (s.script ⟨source, .endOfInput⟩).steps =
        s.opening ++ s.answers 1 (splitLines source) ++ [.say s.prompt] ++
          closing (splitLines source).length := rfl
    rw [receiveAll_ended hnil, hsteps, hcount, hlines, answers_append, Nat.add_comm 1, Script.after]
    simp only [answers, List.append_assoc, List.cons_append, List.nil_append]

end Session

/-- **A session byte by byte is the session on its input.**  Before any byte arrives it has done what a
session does whose input breaks there.  When all bytes of an input are received it has to hear at most
twice that the input has ended, and then it has done the steps of its script, is over, and has failed
if the script has. -/
theorem session_byte_by_byte (s : Session) :
    (∀ front fault, ((s.receiveAll .start (front.map .byte)).after s.greet).steps =
      (s.script ⟨front, .broken fault⟩).steps) ∧
    ∀ input : Input,
      (s.receiveAll .start
          (input.bytes.map .byte ++ [.ending input.ending, .ending input.ending])).after s.greet =
        ⟨(s.script input).steps, (s.script input).result.map fun _ => none⟩ := by
  refine ⟨fun front fault => ?_, fun input => ?_⟩
  · obtain ⟨tail, hfront, htail, -⟩ := exists_unfinished front
    have hdone := s.receiveAll_bytes hfront htail []
    rw [List.append_nil] at hdone
    rw [hdone, s.steps_of_broken]
    exact List.append_nil _
  · obtain ⟨bytes, ending⟩ := input
    cases ending with
    | endOfInput => exact s.receiveAll_endOfInput bytes
    | broken fault =>
      obtain ⟨tail, hbytes, htail, -⟩ := exists_unfinished bytes
      rw [s.receiveAll_bytes hbytes htail, s.steps_of_broken]
      exact congrArg (Script.mk · _) (List.append_nil _)

end MonkeyTokens
